import Timespan.Calendar

/-! The order of the calendar's days, by year, then month, then day. It is the order of
their numbers, so numbering is an isomorphism onto the day numbers below `dayCount`,
with inverse `Date.ofOrdinal`. -/
namespace Timespan

theorem rowSize_take_mono (sizes : List Nat) {m n : Nat} (h : m ≤ n) :
    rowSize (sizes.take m) ≤ rowSize (sizes.take n) := by
  obtain ⟨k, rfl⟩ := Nat.exists_eq_add_of_le h
  rw [List.take_add, rowSize_append]
  exact Nat.le_add_right ..

theorem monthLength_le (year month : Nat) : monthLength year month ≤ 31 := by
  have all : ∀ size ∈ monthLengths year, size ≤ 31 := by
    simp only [monthLengths, List.forall_mem_cons]
    split <;> simp
  rw [monthLength, List.getD_eq_getElem?_getD]
  cases found : (monthLengths year)[month - 1]? with
  | none => exact Nat.zero_le 31
  | some size => exact all size (List.mem_of_getElem? found)

attribute [ext] Date

namespace Date

/-- Earlier by year, then by month, then by day. -/
def Before (a b : Date) : Prop :=
  a.year < b.year ∨ a.year = b.year ∧ (a.month < b.month ∨ a.month = b.month ∧ a.day < b.day)

instance (a b : Date) : Decidable (a.Before b) :=
  inferInstanceAs (Decidable (_ ∨ _))

/-- The first day of the calendar. -/
def first : Date :=
  ⟨1, 1, 1, by decide, by decide, by decide, by decide, by decide, by decide⟩

/-- The last day of the calendar. -/
def last : Date :=
  ⟨9999, 12, 31, by decide, by decide, by decide, by decide, by decide, by decide⟩

/-- The leap day of a century that has one. -/
def leapDay : Date :=
  ⟨2000, 2, 29, by decide, by decide, by decide, by decide, by decide, by decide⟩

theorem before_trichotomy (a b : Date) : a.Before b ∨ a = b ∨ b.Before a := by
  rw [Date.ext_iff]
  simp only [Before]
  omega

/-- A date lies before the first day of the next year. -/
theorem ordinal_lt_yearStart_succ (d : Date) : d.ordinal < yearStart (d.year + 1) := by
  have whole := d.rowSize_take_add_le
  have next := yearStart_succ d.year_pos
  have day := d.day_pos
  simp only [ordinal]
  omega

theorem yearStart_le_ordinal (d : Date) : yearStart d.year ≤ d.ordinal := by
  simp only [ordinal]
  omega

theorem ordinal_lt_of_before {a b : Date} (h : a.Before b) : a.ordinal < b.ordinal := by
  obtain year | ⟨year, month | ⟨month, day⟩⟩ := h
  · calc a.ordinal < yearStart (a.year + 1) := a.ordinal_lt_yearStart_succ
      _ ≤ yearStart b.year := yearStart_mono year
      _ ≤ b.ordinal := b.yearStart_le_ordinal
  · have inside := a.rowSize_take_add_day_le
    have later : rowSize ((monthLengths a.year).take a.month) ≤
        rowSize ((monthLengths a.year).take (b.month - 1)) := rowSize_take_mono _ (by omega)
    have := a.day_pos
    simp only [ordinal, ← year]
    omega
  · have := a.day_pos
    simp only [ordinal, ← year, ← month]
    omega

/-- Numbers of days are ordered as the days are, and no two days share one. -/
theorem ordinal_lt_ordinal_iff {a b : Date} : a.ordinal < b.ordinal ↔ a.Before b := by
  constructor
  · intro less
    obtain before | rfl | after := before_trichotomy a b
    · exact before
    · omega
    · have := ordinal_lt_of_before after
      omega
  · exact ordinal_lt_of_before

theorem ordinal_injective {a b : Date} (h : a.ordinal = b.ordinal) : a = b := by
  obtain before | same | after := before_trichotomy a b
  · have := ordinal_lt_of_before before
    omega
  · exact same
  · have := ordinal_lt_of_before after
    omega

theorem ofOrdinal_ordinal (d : Date) : ofOrdinal d.ordinal d.ordinal_lt = d :=
  ordinal_injective (ordinal_ofOrdinal d.ordinal d.ordinal_lt)

end Date

end Timespan
