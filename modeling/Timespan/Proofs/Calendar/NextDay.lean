import Mathlib.Tactic.IntervalCases
import Timespan.Proofs.Calendar.Instant

/-! The days of the calendar one after the other, told by the lengths of the months and
the leap days alone. The next day has the next number, and moments at one offset are
compared by their fields. -/
namespace Timespan

/-- A day of the Gregorian calendar in the years 1 to 9999. -/
def IsGregorian (year month day : Nat) : Prop :=
  (1 ≤ year ∧ year ≤ 9999) ∧ 1 ≤ day ∧
    (month ∈ [1, 3, 5, 7, 8, 10, 12] ∧ day ≤ 31 ∨ month ∈ [4, 6, 9, 11] ∧ day ≤ 30 ∨
      month = 2 ∧ (day ≤ 28 ∨ day = 29 ∧ (400 ∣ year ∨ 4 ∣ year ∧ ¬ 100 ∣ year)))

theorem le_monthLength_iff {year month day : Nat} (first : 1 ≤ month) (last : month ≤ 12) :
    day ≤ monthLength year month ↔
      month ∈ [1, 3, 5, 7, 8, 10, 12] ∧ day ≤ 31 ∨ month ∈ [4, 6, 9, 11] ∧ day ≤ 30 ∨
        month = 2 ∧ (day ≤ 28 ∨ day = 29 ∧ (400 ∣ year ∨ 4 ∣ year ∧ ¬ 100 ∣ year)) := by
  have february : day ≤ (if IsLeap year then 29 else 28) ↔
      day ≤ 28 ∨ day = 29 ∧ (400 ∣ year ∨ 4 ∣ year ∧ ¬ 100 ∣ year) := by
    by_cases leap : IsLeap year
    · rw [if_pos leap]
      simp only [IsLeap] at leap
      omega
    · rw [if_neg leap]
      simp only [IsLeap] at leap
      omega
  interval_cases month <;> simp [monthLength, monthLengths, february]

theorem isGregorian_iff {year month day : Nat} : IsGregorian year month day ↔
    ∃ d : Date, d.year = year ∧ d.month = month ∧ d.day = day := by
  constructor
  · rintro ⟨⟨from1, to9999⟩, pos, form⟩
    have month_bounds : 1 ≤ month ∧ month ≤ 12 := by
      simp only [List.mem_cons, List.not_mem_nil, or_false] at form
      omega
    have length := (le_monthLength_iff month_bounds.1 month_bounds.2).mpr form
    exact ⟨⟨year, month, day, from1, to9999, month_bounds.1, month_bounds.2, pos, length⟩,
      rfl, rfl, rfl⟩
  · rintro ⟨d, rfl, rfl, rfl⟩
    exact ⟨⟨d.year_pos, d.year_le⟩, d.day_pos,
      (le_monthLength_iff d.month_pos d.month_le).mp d.day_le⟩

namespace Date

/-- The day after a day: in the same month, or the first day of the month behind it. -/
def IsNext (a b : Date) : Prop :=
  (b.year = a.year ∧ b.month = a.month ∧ b.day = a.day + 1) ∨
    a.day = monthLength a.year a.month ∧ b.day = 1 ∧
      (b.year = a.year ∧ b.month = a.month + 1 ∨
        a.month = 12 ∧ b.year = a.year + 1 ∧ b.month = 1)

instance (a b : Date) : Decidable (a.IsNext b) :=
  inferInstanceAs (Decidable (_ ∨ _))

theorem ordinal_of_isNext {a b : Date} (next : a.IsNext b) : b.ordinal = a.ordinal + 1 := by
  have pos := a.day_pos
  obtain ⟨year, month, day⟩ | ⟨full, day, ⟨year, month⟩ | ⟨december, year, month⟩⟩ := next
  · simp only [ordinal, year, month, day]
    omega
  · have months := rowSize_take_month a.year a.month_pos a.month_le
    simp only [ordinal, year, month, day, Nat.add_sub_cancel]
    omega
  · have months := rowSize_take_month a.year a.month_pos a.month_le
    have whole : (monthLengths a.year).take 12 = monthLengths a.year := rfl
    have starts := yearStart_succ a.year_pos
    rw [december, whole] at months
    simp only [ordinal, year, month, day, december] at *
    simp only [Nat.sub_self, List.take_zero, rowSize]
    omega

theorem monthLength_pos (year : Nat) {month : Nat} (first : 1 ≤ month) (last : month ≤ 12) :
    1 ≤ monthLength year month := by
  rw [le_monthLength_iff first last]
  simp only [List.mem_cons, List.not_mem_nil, or_false]
  omega

/-- Every day but the last has a day after it. -/
theorem exists_isNext {a : Date} (more : a ≠ last) : ∃ b, a.IsNext b := by
  by_cases inside : a.day < monthLength a.year a.month
  · exact ⟨⟨a.year, a.month, a.day + 1, a.year_pos, a.year_le, a.month_pos, a.month_le,
      Nat.le_add_left .., inside⟩, .inl ⟨rfl, rfl, rfl⟩⟩
  have full : a.day = monthLength a.year a.month := Nat.le_antisymm a.day_le (Nat.not_lt.mp inside)
  by_cases month : a.month < 12
  · exact ⟨⟨a.year, a.month + 1, 1, a.year_pos, a.year_le, Nat.le_add_left .., month,
      Nat.le_refl 1, monthLength_pos a.year (Nat.le_add_left ..) month⟩,
      .inr ⟨full, rfl, .inl ⟨rfl, rfl⟩⟩⟩
  have december : a.month = 12 := Nat.le_antisymm a.month_le (Nat.not_lt.mp month)
  by_cases year : a.year < 9999
  · exact ⟨⟨a.year + 1, 1, 1, Nat.le_add_left .., year, by decide, by decide, by decide,
      monthLength_pos _ (by decide) (by decide)⟩, .inr ⟨full, rfl, .inr ⟨december, rfl, rfl⟩⟩⟩
  · have final : a.year = 9999 := Nat.le_antisymm a.year_le (Nat.not_lt.mp year)
    rw [december] at full
    exact absurd (Date.ext final december full) more

/-- The day after a day is the one with the next number. -/
theorem isNext_iff {a b : Date} : a.IsNext b ↔ b.ordinal = a.ordinal + 1 := by
  constructor
  · exact ordinal_of_isNext
  · intro following
    have more : a ≠ last := by
      rintro rfl
      have bound := b.ordinal_lt
      rw [following] at bound
      exact absurd bound (by decide)
    obtain ⟨c, next⟩ := exists_isNext more
    have same : b = c := ordinal_injective (following.trans (ordinal_of_isNext next).symm)
    rwa [same]

end Date

namespace Fields

/-- The fields from the year down, as a row that is compared from its front. -/
def row (f : Fields) : List Nat :=
  [f.year, f.month, f.day, f.hour, f.minute, f.second, f.microsecond]

end Fields

theorem DateTime.micros_lt_micros_iff_row {a b : DateTime} :
    a.micros < b.micros ↔ a.fields.row < b.fields.row := by
  rw [micros_lt_micros_iff, Clock.micros_lt_micros_iff, Date.ext_iff]
  simp only [Date.Before, Fields.row, fields, List.cons_lt_cons_iff]
  grind

namespace Moment

variable {a b : Moment}

/-- At one offset the order of moments is that of their fields. -/
theorem lt_iff_row (same : a.offset = b.offset) : a < b ↔ a.wall.fields.row < b.wall.fields.row := by
  rw [← DateTime.micros_lt_micros_iff_row, lt_iff, instant, instant, same]
  omega

theorem equiv_iff_fields (same : a.offset = b.offset) : a ≈ b ↔ a.wall.fields = b.wall.fields := by
  constructor
  · intro equal
    rw [ext_of_instant same (equiv_iff.mp equal)]
  · intro fields
    rw [equiv_iff, Moment.ext (DateTime.fields_injective fields) same]

end Moment

end Timespan
