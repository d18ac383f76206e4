import Timespan.Proofs.Timestamp.Written

/-! Canonical timestamps, the spellings that the writer chooses for what the reader
reads: a capital T, an hour up to 23, the offset +00:00, and six digits of a fraction
unless it is zero. -/
namespace Timespan.Timestamp

/-- Written with a capital T, an hour of the day, the offset +00:00, and no
fraction or one of six digits that are not all zero. -/
structure Spelling.Canonical (s : Spelling) : Prop where
  mark : s.mark = 'T'
  hour : Numeral.value s.hour ≤ 23
  zone : s.zone.chars = ['+', '0', '0', ':', '0', '0']
  fraction : ∀ digits, s.fraction = some digits → digits.length = 6 ∧ ∃ c ∈ digits, c ≠ '0'

theorem chars_utc_spelling : Offset.utc.spelling.chars = ['+', '0', '0', ':', '0', '0'] := by
  decide

theorem canonical_spelling (t : DateTime) : (t.spelling Offset.utc.spelling).Canonical where
  mark := rfl
  hour := by
    have hour := congrArg Fields.hour (fields_spelling t Offset.utc.spelling)
    have := t.clock.hour_lt
    simp only [Spelling.fields, DateTime.fields] at hour
    omega
  zone := chars_utc_spelling
  fraction := by
    intro digits written
    simp only [DateTime.spelling, writtenFraction] at written
    split at written
    · contradiction
    · next nonzero =>
      cases written
      refine ⟨Numeral.length_padded 10 6 _, ?_⟩
      apply Decidable.byContradiction
      intro zeros
      have digits : ∀ c ∈ Numeral.padded 10 6 t.clock.microsecond, c.isDigit :=
        fun _ member => Numeral.isDigit_of_mem_padded member
      have zero := (Numeral.value_eq_zero_iff digits).mpr (by simpa using zeros)
      rw [Numeral.value_padded t.clock.microsecond_lt] at zero
      exact nonzero zero

theorem zone_eq_of_canonical {s : Spelling} (form : s.IsRfc3339) (canonical : s.Canonical) :
    s.zone = Offset.utc.spelling := by
  have zone := (ZoneSpelling.isRfc3339_iff.mp form.zone).1
  have utc := (ZoneSpelling.isRfc3339_iff.mp (offset_spelling_isRfc3339 .utc)).1
  exact ZoneSpelling.chars_injective zone utc (canonical.zone.trans chars_utc_spelling.symm)

theorem fraction_eq_of_canonical {s : Spelling} (form : s.IsRfc3339) (canonical : s.Canonical) :
    writtenFraction s.fields.microsecond = s.fraction := by
  have ascii := form.fraction
  have six := canonical.fraction
  simp only [Spelling.fields]
  cases fraction : s.fraction with
  | none => rfl
  | some digits =>
    obtain ⟨length, c, member, nonzero⟩ := six digits fraction
    have valid := (ascii digits fraction).2
    have micros : Spelling.fractionMicros (some digits) = Numeral.value digits := by
      rw [Spelling.fractionMicros, List.take_left' length]
    have positive : Numeral.value digits ≠ 0 := fun zero =>
      nonzero ((Numeral.value_eq_zero_iff valid).mp zero c member)
    rw [micros, writtenFraction, if_neg positive, Numeral.padded_value length valid]

/-- A canonical spelling is the written one of the wall time that it shows. -/
theorem eq_spelling_of_canonical {s : Spelling} {t : DateTime} (form : s.IsRfc3339)
    (canonical : s.Canonical) (shown : t.fields = s.fields) : s = t.spelling Offset.utc.spelling := by
  have padded {width : Nat} {digits : List Char} (field : IsAsciiField width digits) :
      digits = Numeral.padded 10 width (Numeral.value digits) :=
    (Numeral.padded_value field.1 field.2).symm
  have fraction := fraction_eq_of_canonical form canonical
  have zone := zone_eq_of_canonical form canonical
  simp only [Spelling.fields, DateTime.fields, Fields.mk.injEq] at shown fraction
  obtain ⟨year, month, day, hour, minute, second, micros⟩ := shown
  rw [DateTime.spelling, year, month, day, hour, minute, second, micros, fraction, ← zone,
    ← padded form.year, ← padded form.month, ← padded form.day, ← padded form.hour,
    ← padded form.minute, ← padded form.second, ← canonical.mark]

/-- An acceptable spelling is written back unchanged exactly when it is canonical. -/
theorem write_eq_chars_iff {s : Spelling} {m : Moment} (acceptable : s.Acceptable)
    (utc : m.offset = .utc) (count : m.instant = s.localMicros - s.zone.micros) :
    write m = s.chars ↔ s.Canonical := by
  have whole : m.offset.WholeMinutes := by rw [utc]; decide
  have written : write m = (m.wall.spelling Offset.utc.spelling).chars := by
    rw [write_eq_chars utc rfl, ← utc, chars_spelling whole]
  have form := acceptable.form
  have valid := (Spelling.isRfc3339_iff.mp form).1
  have writtenForm := spelling_isRfc3339 m.wall (offset_spelling_isRfc3339 .utc)
  have writtenValid := (Spelling.isRfc3339_iff.mp writtenForm).1
  rw [written]
  constructor
  · intro same
    rw [← Spelling.chars_injective writtenValid valid same]
    exact canonical_spelling m.wall
  · intro canonical
    have offset : s.zone.micros = 0 := by
      rw [zone_eq_of_canonical form canonical, offset_spelling_micros .utc (by decide)]
      rfl
    have hour : s.fields.hour ≠ 24 := by
      have := canonical.hour
      simp only [Spelling.fields]
      omega
    obtain ⟨t, shown⟩ := DateTime.exists_fields_eq
      ((Spelling.inRange_iff_valid form hour).mp acceptable.fields)
    have wall : m.wall = t := by
      apply DateTime.micros_injective
      rw [← t.micros_fields, shown, ← Spelling.localMicros_eq form]
      rw [Moment.instant_of_utc utc] at count
      omega
    rw [wall, ← eq_spelling_of_canonical form canonical shown]

end Timespan.Timestamp
