import Timespan.Interval.Text
import Timespan.Proofs.Timestamp.Written

/-! The order of written timestamps and intervals. In UTC texts compare as instants do,
also where one has a fraction and the other goes on with its offset. -/
namespace Timespan

variable {s t : List Char}

theorem Date.chars_append_lt_iff {a b : Date} :
    a.chars ++ s < b.chars ++ t ↔ a.Before b ∨ a = b ∧ s < t := by
  obtain ⟨yearA, monthA, dayA⟩ := a.fields_lt
  obtain ⟨yearB, monthB, dayB⟩ := b.fields_lt
  simp only [chars, List.append_assoc, List.cons_append, List.cons_lt_cons_self,
    Numeral.padded_append_lt_iff yearA yearB, Numeral.padded_append_lt_iff monthA monthB,
    Numeral.padded_append_lt_iff dayA dayB, Date.ext_iff, Before]
  grind

/-- A missing fraction comes before every other. -/
theorem microsecondChars_append_lt_iff {m n : Nat} (hm : m < 1000000) (hn : n < 1000000) :
    microsecondChars m ++ '+' :: s < microsecondChars n ++ '+' :: t ↔ m < n ∨ m = n ∧ s < t := by
  have plusPoint : '+' < '.' := by decide
  have pointPlus : ¬ '.' < '+' := by decide
  simp only [microsecondChars]
  by_cases zeroM : m = 0 <;> by_cases zeroN : n = 0
  · simp [zeroM, zeroN]
  · have : 0 < n := by omega
    simp [zeroM, zeroN, List.cons_lt_cons_iff, plusPoint, this]
  · simp [zeroM, zeroN, List.cons_lt_cons_iff, pointPlus]
  · rw [if_neg zeroM, if_neg zeroN, List.cons_append, List.cons_append, List.cons_lt_cons_self,
      Numeral.padded_append_lt_iff hm hn, List.cons_lt_cons_self]

theorem Clock.chars_append_lt_iff {a b : Clock} :
    a.chars ++ '+' :: s < b.chars ++ '+' :: t ↔ a.micros < b.micros ∨ a = b ∧ s < t := by
  obtain ⟨hourA, minuteA, secondA, -⟩ := a.fields_lt
  obtain ⟨hourB, minuteB, secondB, -⟩ := b.fields_lt
  simp only [chars, List.append_assoc, List.cons_append, List.cons_lt_cons_self,
    Numeral.padded_append_lt_iff hourA hourB, Numeral.padded_append_lt_iff minuteA minuteB,
    Numeral.padded_append_lt_iff secondA secondB,
    microsecondChars_append_lt_iff a.microsecond_lt b.microsecond_lt, Clock.ext_iff,
    micros_lt_micros_iff]
  grind

theorem DateTime.chars_append_lt_iff {a b : DateTime} :
    a.chars ++ '+' :: s < b.chars ++ '+' :: t ↔ a.micros < b.micros ∨ a = b ∧ s < t := by
  simp only [chars, List.append_assoc, List.cons_append, List.cons_lt_cons_self,
    Date.chars_append_lt_iff, Clock.chars_append_lt_iff, micros_lt_micros_iff, DateTime.ext_iff]
  grind

namespace Timestamp

theorem chars_of_utc {m : Moment} (utc : m.offset = .utc) :
    m.chars = m.wall.chars ++ '+' :: ['0', '0', ':', '0', '0'] := by
  have offset : Offset.utc.chars = '+' :: ['0', '0', ':', '0', '0'] := by decide
  rw [Moment.chars, utc, offset]

/-- Written timestamps are ordered as their instants are, whatever follows them. -/
theorem write_append_lt_iff {a b : Moment} (ha : a.HasUtcForm) (hb : b.HasUtcForm) :
    write a ++ s < write b ++ t ↔ a.instant < b.instant ∨ a.instant = b.instant ∧ s < t := by
  obtain ⟨u, uUtc, uSame⟩ := Moment.exists_utc_iff.mp ha
  obtain ⟨v, vUtc, vSame⟩ := Moment.exists_utc_iff.mp hb
  have walls : u.wall = v.wall ↔ u.wall.micros = v.wall.micros :=
    ⟨congrArg _, DateTime.micros_injective⟩
  rw [write_eq_chars uUtc uSame, write_eq_chars vUtc vSame, chars_of_utc uUtc, chars_of_utc vUtc,
    ← uSame, ← vSame, Moment.instant_of_utc uUtc, Moment.instant_of_utc vUtc]
  simp only [List.append_assoc, List.cons_append, List.nil_append, DateTime.chars_append_lt_iff,
    List.cons_lt_cons_self, walls, Int.ofNat_lt, Int.ofNat_inj]

end Timestamp

namespace Interval

/-- The order of written intervals is that of their starts, then of their stops. -/
theorem lt_iff_format_lt_format {a b : Interval} (ha : a.start.HasUtcForm ∧ a.stop.HasUtcForm)
    (hb : b.start.HasUtcForm ∧ b.stop.HasUtcForm) : a < b ↔ a.format < b.format := by
  have order : a < b ↔ a.start.instant < b.start.instant ∨
      a.start.instant = b.start.instant ∧ a.stop.instant < b.stop.instant := Iff.rfl
  have stops := Timestamp.write_append_lt_iff (s := []) (t := []) ha.2 hb.2
  have nothing : ¬ ([] : List Char) < [] := by decide
  simp only [List.append_nil, nothing, and_false, or_false] at stops
  rw [order, String.lt_iff, format, format, String.toList_ofList, String.toList_ofList, write, write,
    Timestamp.write_append_lt_iff ha.1 hb.1, List.cons_lt_cons_self, stops]

/-- A stop a microsecond behind the start, at an offset of not quite half an hour: its
fraction stands where the other text goes on with its offset. -/
theorem lt_iff_format_lt_format_of_fraction :
    let start : Moment := .onLeapDay 0 0
    let stop : Moment := .onDay .leapDay 0 30 ⟨1799999999, by decide, by decide⟩
    let a : Interval := ⟨start, start⟩
    let b : Interval := ⟨start, stop⟩
    (start.HasUtcForm ∧ start.HasUtcForm) ∧ (start.HasUtcForm ∧ stop.HasUtcForm) ∧
      a.format = "2000-02-29T00:00:00+00:00/2000-02-29T00:00:00+00:00" ∧
      b.format = "2000-02-29T00:00:00+00:00/2000-02-29T00:00:00.000001+00:00" ∧
      (a < b ↔ a.format < b.format) :=
  ⟨by decide, by decide, rfl, rfl, lt_iff_format_lt_format (by decide) (by decide)⟩

end Interval

end Timespan
