import Timespan.Proofs.Timestamp.Written

/-! Written moments tell wall and offset. The text of a moment at its own offset is that
of no other, moments that are written alike have one instant, and only a moment shown in
UTC ends in +00:00. -/
namespace Timespan

variable {s t : List Char}

/-- Read up to a text that does not go on with a fraction, microseconds are unique. -/
theorem microsecondChars_append_inj {m n : Nat} (hm : m < 1000000) (hn : n < 1000000)
    (hs : s.head? ≠ some '.') (ht : t.head? ≠ some '.') :
    microsecondChars m ++ s = microsecondChars n ++ t ↔ m = n ∧ s = t := by
  have wide : m < 10 ^ 6 ∧ n < 10 ^ 6 := ⟨hm, hn⟩
  simp only [microsecondChars]
  by_cases zeroM : m = 0 <;> by_cases zeroN : n = 0
  · simp [zeroM, zeroN]
  · have differ : s ≠ '.' :: (Numeral.padded 10 6 n ++ t) := by
      rintro rfl
      exact hs rfl
    simp [zeroM, zeroN, differ, Ne.symm zeroN]
  · have differ : '.' :: (Numeral.padded 10 6 m ++ s) ≠ t := by
      rintro rfl
      exact ht rfl
    simp [zeroM, zeroN, differ]
  · rw [if_neg zeroM, if_neg zeroN, List.cons_append, List.cons_append, List.cons.injEq,
      Numeral.padded_append_inj wide.1 wide.2]
    simp only [true_and]

theorem microsecondChars_injective {m n : Nat} (hm : m < 1000000) (hn : n < 1000000)
    (same : microsecondChars m = microsecondChars n) : m = n := by
  have alone : microsecondChars m ++ [] = microsecondChars n ++ [] := by rw [same]
  exact ((microsecondChars_append_inj hm hn (by simp) (by simp)).mp alone).1

theorem Date.chars_append_inj {a b : Date} : a.chars ++ s = b.chars ++ t ↔ a = b ∧ s = t := by
  obtain ⟨yearA, monthA, dayA⟩ := a.fields_lt
  obtain ⟨yearB, monthB, dayB⟩ := b.fields_lt
  simp only [chars, List.append_assoc, List.cons_append, List.cons.injEq, true_and,
    Numeral.padded_append_inj yearA yearB, Numeral.padded_append_inj monthA monthB,
    Numeral.padded_append_inj dayA dayB, Date.ext_iff, and_assoc]

theorem Clock.chars_append_inj {a b : Clock} (hs : s.head? ≠ some '.') (ht : t.head? ≠ some '.') :
    a.chars ++ s = b.chars ++ t ↔ a = b ∧ s = t := by
  obtain ⟨hourA, minuteA, secondA, -⟩ := a.fields_lt
  obtain ⟨hourB, minuteB, secondB, -⟩ := b.fields_lt
  simp only [chars, List.append_assoc, List.cons_append, List.cons.injEq, true_and,
    Numeral.padded_append_inj hourA hourB, Numeral.padded_append_inj minuteA minuteB,
    Numeral.padded_append_inj secondA secondB,
    microsecondChars_append_inj a.microsecond_lt b.microsecond_lt hs ht, Clock.ext_iff, and_assoc]

theorem DateTime.chars_append_inj {a b : DateTime} (hs : s.head? ≠ some '.')
    (ht : t.head? ≠ some '.') : a.chars ++ s = b.chars ++ t ↔ a = b ∧ s = t := by
  simp only [chars, List.append_assoc, List.cons_append, Date.chars_append_inj, List.cons.injEq,
    true_and, Clock.chars_append_inj hs ht, DateTime.ext_iff, and_assoc]

namespace Offset

/-- The sizes of offsets are told apart down to the microsecond. -/
theorem magnitudeChars_injective {m n : Nat} (hm : m < 86400000000) (hn : n < 86400000000)
    (same : magnitudeChars m = magnitudeChars n) : m = n := by
  have hours : m / 3600000000 < 10 ^ 2 ∧ n / 3600000000 < 10 ^ 2 := by omega
  have minutes : m / 60000000 % 60 < 10 ^ 2 ∧ n / 60000000 % 60 < 10 ^ 2 := by omega
  have seconds : m / 1000000 % 60 < 10 ^ 2 ∧ n / 1000000 % 60 < 10 ^ 2 := by omega
  simp only [magnitudeChars, Numeral.padded_append_inj hours.1 hours.2, List.cons.injEq, true_and,
    Numeral.padded_append_inj minutes.1 minutes.2] at same
  obtain ⟨hour, minute, rest⟩ := same
  by_cases wholeM : m % 60000000 = 0 <;> by_cases wholeN : n % 60000000 = 0
  · omega
  · simp [wholeM, wholeN] at rest
  · simp [wholeM, wholeN] at rest
  · simp only [wholeM, wholeN, if_false, List.cons.injEq, true_and,
      Numeral.padded_append_inj seconds.1 seconds.2] at rest
    obtain ⟨second, fraction⟩ := rest
    have micros : m % 1000000 = n % 1000000 :=
      microsecondChars_injective (by omega) (by omega) fraction
    omega

theorem chars_injective {a b : Offset} (same : a.chars = b.chars) : a = b := by
  have := a.lower
  have := a.upper
  have := b.lower
  have := b.upper
  obtain ⟨sign, size⟩ := List.cons.inj same
  have magnitude := magnitudeChars_injective (by omega) (by omega) size
  have micros : a.micros = b.micros := by
    split at sign <;> split at sign
    · omega
    · exact absurd sign (by decide)
    · exact absurd sign (by decide)
    · omega
  exact Offset.ext micros

theorem head?_chars_ne (o : Offset) : o.chars.head? ≠ some '.' := by
  simp only [chars, List.head?_cons, ne_eq, Option.some.injEq]
  split <;> decide

theorem plus_not_mem_magnitudeChars (n : Nat) : '+' ∉ magnitudeChars n := by
  have digits (width n : Nat) : '+' ∉ Numeral.padded 10 width n := fun member =>
    absurd (Numeral.isDigit_of_mem_padded member) (by decide)
  have micros (n : Nat) : '+' ∉ microsecondChars n := by
    unfold microsecondChars
    split <;> simp [digits]
  unfold magnitudeChars
  split <;> simp [digits, micros]

theorem six_le_length_chars (o : Offset) : 6 ≤ o.chars.length := by
  simp only [chars, magnitudeChars, List.length_cons, List.length_append, Numeral.length_padded]
  omega

end Offset

/-- A text ends in +00:00 only by its offset, for a sign is no part of a size. -/
theorem Moment.utc_suffix_chars_iff {m : Moment} :
    Offset.utc.chars <:+ m.chars ↔ m.offset = .utc := by
  constructor
  · intro suffix
    have short : Offset.utc.chars.length ≤ m.offset.chars.length := m.offset.six_le_length_chars
    have last : Offset.utc.chars <:+ m.offset.chars :=
      List.suffix_of_suffix_length_le suffix (List.suffix_append m.wall.chars _) short
    obtain whole | inside := List.suffix_cons_iff.mp last
    · exact (Offset.chars_injective whole).symm
    · have plus : '+' ∈ Offset.utc.chars := by decide
      exact absurd (inside.subset plus) (Offset.plus_not_mem_magnitudeChars _)
  · intro utc
    rw [chars, utc]
    exact List.suffix_append _ _

/-- The text of a moment at its own offset is the text of no other moment. -/
theorem Moment.chars_injective {a b : Moment} (same : a.chars = b.chars) : a = b := by
  obtain ⟨wall, offset⟩ :=
    (DateTime.chars_append_inj a.offset.head?_chars_ne b.offset.head?_chars_ne).mp same
  exact Moment.ext wall (Offset.chars_injective offset)

namespace Timestamp

/-- What is written is a moment with the same instant, at its own offset, which is
UTC exactly when the moment has a form there. -/
theorem exists_write_eq_chars (m : Moment) : ∃ shown : Moment,
    write m = shown.chars ∧ shown.instant = m.instant ∧ (shown.offset = .utc ↔ m.HasUtcForm) := by
  by_cases inside : m.HasUtcForm
  · obtain ⟨u, utc, same⟩ := Moment.exists_utc_iff.mp inside
    exact ⟨u, write_eq_chars utc same, same, iff_of_true utc inside⟩
  · have east : m.offset ≠ .utc := fun utc => inside (Moment.hasUtcForm_of_utc utc)
    exact ⟨m, write_eq_own_chars inside, rfl, iff_of_false east inside⟩

theorem utc_suffix_write_iff {m : Moment} : Offset.utc.chars <:+ write m ↔ m.HasUtcForm := by
  obtain ⟨shown, written, -, utc⟩ := exists_write_eq_chars m
  rw [written, Moment.utc_suffix_chars_iff, utc]

theorem instant_eq_of_write_eq {a b : Moment} (same : write a = write b) :
    a.instant = b.instant := by
  obtain ⟨u, writtenA, instantA, -⟩ := exists_write_eq_chars a
  obtain ⟨v, writtenB, instantB, -⟩ := exists_write_eq_chars b
  rw [writtenA, writtenB] at same
  rw [← instantA, ← instantB, Moment.chars_injective same]

end Timestamp

end Timespan
