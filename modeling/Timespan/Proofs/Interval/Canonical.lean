import Timespan.Proofs.Interval.RoundTrip
import Timespan.Proofs.Timestamp.Canonical

/-! Canonical interval texts. An interval's own text is read as the very same interval,
and a text is its interval's own exactly when both of its sides are canonical
timestamps. -/
namespace Timespan.Interval

variable {t u : Text} {x y : Interval}

/-- A text with two canonical sides. -/
def IsCanonical (text : Text) : Prop :=
  ∃ s r : Timestamp.Spelling, text = .ofChars (s.chars ++ separator :: r.chars) ∧
    (s.IsRfc3339 ∧ s.Canonical) ∧ r.IsRfc3339 ∧ r.Canonical

/-- What is read stands in UTC. -/
theorem utc_of_parse (read : parse t = .ok x) : x.start.offset = .utc ∧ x.stop.offset = .utc := by
  obtain ⟨a, b, _, _, _, first, second⟩ := parse_eq_ok_iff.mp read
  obtain ⟨_, _, _, start, _⟩ := Timestamp.parse_eq_ok_iff.mp first
  obtain ⟨_, _, _, stop, _⟩ := Timestamp.parse_eq_ok_iff.mp second
  exact ⟨start, stop⟩

theorem parse_toText_of_parse (read : parse t = .ok x) : parse x.toText = .ok x :=
  parse_toText_eq_ok_iff.mpr ⟨Setoid.refl x, utc_of_parse read⟩

theorem toText_eq_toText_iff (ht : parse t = .ok x) (hu : parse u = .ok y) :
    x.toText = y.toText ↔ x ≈ y := by
  constructor
  · intro same
    have read := parse_toText_of_parse ht
    rw [same, parse_toText_of_parse hu] at read
    cases read
    exact Setoid.refl x
  · intro same
    obtain ⟨start, stop⟩ := utc_of_parse ht
    exact toText_eq_of_equiv same start stop

theorem toText_eq_iff (read : parse t = .ok x) : x.toText = t ↔ IsCanonical t := by
  obtain ⟨a, b, rfl, ha, hb, first, second⟩ := parse_eq_ok_iff.mp read
  obtain ⟨s, rfl, startOk, startUtc, startCount⟩ := Timestamp.parse_eq_ok_iff.mp first
  obtain ⟨r, rfl, stopOk, stopUtc, stopCount⟩ := Timestamp.parse_eq_ok_iff.mp second
  have start := Timestamp.write_eq_chars_iff startOk startUtc startCount
  have stop := Timestamp.write_eq_chars_iff stopOk stopUtc stopCount
  rw [toText_eq_sides]
  constructor
  · intro same
    obtain ⟨left, right⟩ := sides_injective (slash_not_mem_write _) (slash_not_mem_write _) same
    exact ⟨s, r, (ofChars_sides _ _).symm,
      ⟨startOk.form, start.mp (Text.ofChars_injective left)⟩,
      stopOk.form, stop.mp (Text.ofChars_injective right)⟩
  · rintro ⟨s', r', same, ⟨startForm, startCanonical⟩, stopForm, stopCanonical⟩
    rw [ofChars_sides] at same
    obtain ⟨left, right⟩ := sides_injective ha hb same
    have startSame : s = s' := Timestamp.Spelling.chars_injective
      (Timestamp.Spelling.isRfc3339_iff.mp startOk.form).1
      (Timestamp.Spelling.isRfc3339_iff.mp startForm).1 (Text.ofChars_injective left)
    have stopSame : r = r' := Timestamp.Spelling.chars_injective
      (Timestamp.Spelling.isRfc3339_iff.mp stopOk.form).1
      (Timestamp.Spelling.isRfc3339_iff.mp stopForm).1 (Text.ofChars_injective right)
    subst startSame stopSame
    rw [start.mpr startCanonical, stop.mpr stopCanonical]

/-- The canonical text of what was read is read as the same interval, field for
field; it is shared by exactly the texts that denote equivalent intervals; and it
is the text that was read exactly when that one is canonical. -/
theorem canonical_text_laws (ht : parse t = .ok x) (hu : parse u = .ok y) :
    parse x.toText = .ok x ∧ (x.toText = y.toText ↔ x ≈ y) ∧ (x.toText = t ↔ IsCanonical t) :=
  ⟨parse_toText_of_parse ht, toText_eq_toText_iff ht hu, toText_eq_iff ht⟩

/-- Midnight as an hour 24 and a fraction too long to keep, beside a canonical text
whose stop is a microsecond later. -/
theorem canonical_text_laws_of_midnight : ∃ x y : Interval,
    parse (Text.ofString "2000-01-01T24:00:00Z/1999-12-31 23:59:59.5000000009-00:30") = .ok x ∧
      parse (Text.ofString "2000-01-02T00:00:00+00:00/2000-01-01T00:29:59.500001+00:00") = .ok y ∧
      parse x.toText = .ok x ∧ (x.toText = y.toText ↔ x ≈ y) ∧
      (x.toText = Text.ofString "2000-01-01T24:00:00Z/1999-12-31 23:59:59.5000000009-00:30" ↔
        IsCanonical (Text.ofString "2000-01-01T24:00:00Z/1999-12-31 23:59:59.5000000009-00:30")) := by
  have late : parse (Text.ofString "2000-01-01T24:00:00Z/1999-12-31 23:59:59.5000000009-00:30") =
      .ok ⟨⟨.ofMicros 63082368000000000 (by decide), .utc⟩,
        ⟨.ofMicros 63082283399500000 (by decide), .utc⟩⟩ := rfl
  have later : parse (Text.ofString "2000-01-02T00:00:00+00:00/2000-01-01T00:29:59.500001+00:00") =
      .ok ⟨⟨.ofMicros 63082368000000000 (by decide), .utc⟩,
        ⟨.ofMicros 63082283399500001 (by decide), .utc⟩⟩ := rfl
  exact ⟨_, _, late, later, canonical_text_laws late later⟩

end Timespan.Interval
