/-! The Gregorian calendar of the years 1 to 9999. A date is counted from the
first day of year 1, which has number 0; `Date.ordinal` is that count and
`Date.ofOrdinal` reads it back. Years are found by estimating with the mean
length of the 400-year cycle and stepping back at most one; months are found by
walking the lengths of the year's months. Both stay within the calendar's last
day, so decoding needs no bound besides `dayCount`. -/
namespace Timespan

/-- A year has a 29 February when 4 divides it, centuries only when 400 does. -/
def IsLeap (year : Nat) : Prop :=
  year % 4 = 0 ∧ (year % 100 ≠ 0 ∨ year % 400 = 0)

instance (year : Nat) : Decidable (IsLeap year) :=
  inferInstanceAs (Decidable (_ ∧ _))

/-- The size of a row of blocks: the sizes of its blocks together. -/
def rowSize : List Nat → Nat
  | [] => 0
  | size :: sizes => size + rowSize sizes

theorem rowSize_append (before after : List Nat) :
    rowSize (before ++ after) = rowSize before + rowSize after := by
  induction before with
  | nil => simp [rowSize]
  | cons size sizes ih => simp only [List.cons_append, rowSize, ih, Nat.add_assoc]

def monthLengths (year : Nat) : List Nat :=
  [31, if IsLeap year then 29 else 28, 31, 30, 31, 30, 31, 31, 30, 31, 30, 31]

/-- The length of a month numbered from 1; zero past the twelfth. -/
def monthLength (year month : Nat) : Nat :=
  (monthLengths year).getD (month - 1) 0

/-- The days before 1 January of a year: one a day for 365 days a year, and one
more for each leap year that has passed. -/
def yearStart (year : Nat) : Nat :=
  365 * (year - 1) + (year - 1) / 4 - (year - 1) / 100 + (year - 1) / 400

/-- The number of days from 1 January of year 1 to 31 December of year 9999. -/
def dayCount : Nat := 3652059

theorem length_monthLengths (year : Nat) : (monthLengths year).length = 12 := rfl

theorem rowSize_monthLengths (year : Nat) :
    rowSize (monthLengths year) = if IsLeap year then 366 else 365 := by
  by_cases h : IsLeap year <;> simp only [rowSize, monthLengths, h, if_true, if_false]

/-- The days of a month, behind those of the months before it in the year. -/
theorem rowSize_take_month (year : Nat) {month : Nat} (first : 1 ≤ month) (last : month ≤ 12) :
    rowSize ((monthLengths year).take month) =
      rowSize ((monthLengths year).take (month - 1)) + monthLength year month := by
  have inside : month - 1 < (monthLengths year).length := by
    rw [length_monthLengths]
    omega
  have split : (monthLengths year).take month =
      (monthLengths year).take (month - 1) ++ [(monthLengths year)[month - 1]] := by
    rw [← List.take_succ_eq_append_getElem inside, Nat.sub_add_cancel first]
  rw [split, rowSize_append, monthLength, List.getD_eq_getElem?_getD,
    List.getElem?_eq_getElem inside]
  rfl

theorem yearStart_succ {year : Nat} (pos : 1 ≤ year) :
    yearStart (year + 1) = yearStart year + rowSize (monthLengths year) := by
  obtain ⟨past, rfl⟩ := Nat.exists_eq_add_of_le' pos
  have h₄ : (past + 1) / 4 = past / 4 + if (past + 1) % 4 = 0 then 1 else 0 := by
    split <;> omega
  have h₁₀₀ : (past + 1) / 100 = past / 100 + if (past + 1) % 100 = 0 then 1 else 0 := by
    split <;> omega
  have h₄₀₀ : (past + 1) / 400 = past / 400 + if (past + 1) % 400 = 0 then 1 else 0 := by
    split <;> omega
  have hle : past / 100 ≤ past / 4 := by omega
  have hc : (past + 1) % 100 = 0 → (past + 1) % 4 = 0 := by omega
  have hq : (past + 1) % 400 = 0 → (past + 1) % 100 = 0 := by omega
  simp only [rowSize_monthLengths, yearStart, IsLeap, Nat.add_sub_cancel, h₄, h₁₀₀, h₄₀₀]
  by_cases a : (past + 1) % 4 = 0 <;> by_cases b : (past + 1) % 100 = 0 <;>
    by_cases c : (past + 1) % 400 = 0 <;> simp_all <;> omega

theorem yearStart_mono {a b : Nat} (h : a ≤ b) : yearStart a ≤ yearStart b := by
  induction h with
  | refl => exact Nat.le_refl _
  | @step m _ ih =>
    refine Nat.le_trans ih ?_
    match m with
    | 0 => exact Nat.le_refl _
    | past + 1 => rw [yearStart_succ (Nat.le_add_left ..)]; exact Nat.le_add_right ..

/-- A day of the calendar: a year, a month of it and a day of that month, each
counted from 1. -/
structure Date where
  year : Nat
  month : Nat
  day : Nat
  year_pos : 1 ≤ year
  year_le : year ≤ 9999
  month_pos : 1 ≤ month
  month_le : month ≤ 12
  day_pos : 1 ≤ day
  day_le : day ≤ monthLength year month
deriving DecidableEq

/-- The block of a row of blocks that holds position `n`, and the place in it. -/
def locate : List Nat → Nat → Nat × Nat
  | [], n => (0, n)
  | size :: sizes, n =>
    if n < size then (0, n)
    else ((locate sizes (n - size)).1 + 1, (locate sizes (n - size)).2)

/-- A position within the row lies in a block of it, behind the blocks before. -/
theorem locate_spec (sizes : List Nat) (n : Nat) (h : n < rowSize sizes) :
    (locate sizes n).1 < sizes.length ∧
      (locate sizes n).2 < sizes.getD (locate sizes n).1 0 ∧
      rowSize (sizes.take (locate sizes n).1) + (locate sizes n).2 = n := by
  induction sizes generalizing n with
  | nil => simp [rowSize] at h
  | cons size sizes ih =>
    by_cases hn : n < size
    · simp [locate, hn, rowSize]
    · have := ih (n - size) (by simp only [rowSize] at h; omega)
      simp only [locate, hn, if_false, List.length_cons, List.getD_cons_succ,
        List.take_succ_cons, rowSize]
      omega

/-- The year of a day number. The estimate by the mean year is that year or the
one after it. -/
def yearOf (n : Nat) : Nat :=
  if n < yearStart ((400 * n + 700) / 146097 + 1) then (400 * n + 700) / 146097
  else (400 * n + 700) / 146097 + 1

theorem yearOf_pos (n : Nat) : 1 ≤ yearOf n := by
  simp only [yearOf]
  split
  · next h => simp only [yearStart] at h; omega
  · omega

theorem yearStart_yearOf_le (n : Nat) : yearStart (yearOf n) ≤ n := by
  simp only [yearOf]
  split
  · next h => simp only [yearStart] at *; omega
  · omega

theorem lt_yearStart_yearOf_succ (n : Nat) : n < yearStart (yearOf n + 1) := by
  simp only [yearOf]
  split
  · assumption
  · simp only [yearStart] at *; omega

theorem yearOf_le (n : Nat) (h : n < dayCount) : yearOf n ≤ 9999 := by
  have := yearStart_yearOf_le n
  simp only [yearStart, dayCount] at *
  omega

theorem dayOfYear_lt (n : Nat) :
    n - yearStart (yearOf n) < rowSize (monthLengths (yearOf n)) := by
  have h₁ := yearStart_yearOf_le n
  have h₂ := lt_yearStart_yearOf_succ n
  have h₃ := yearStart_succ (yearOf_pos n)
  omega

namespace Date

/-- The number of days before a date, counted from the calendar's first day. -/
def ordinal (d : Date) : Nat :=
  yearStart d.year + rowSize ((monthLengths d.year).take (d.month - 1)) + (d.day - 1)

/-- The whole months that a day number has behind it in its year, and the days
of the current one. -/
def monthAndDay (n : Nat) : Nat × Nat :=
  locate (monthLengths (yearOf n)) (n - yearStart (yearOf n))

theorem monthAndDay_spec (n : Nat) :
    (monthAndDay n).1 < 12 ∧ (monthAndDay n).2 < monthLength (yearOf n) ((monthAndDay n).1 + 1) ∧
      rowSize ((monthLengths (yearOf n)).take (monthAndDay n).1) + (monthAndDay n).2 =
        n - yearStart (yearOf n) :=
  locate_spec (monthLengths (yearOf n)) (n - yearStart (yearOf n)) (dayOfYear_lt n)

def ofOrdinal (n : Nat) (h : n < dayCount) : Date where
  year := yearOf n
  month := (monthAndDay n).1 + 1
  day := (monthAndDay n).2 + 1
  year_pos := yearOf_pos n
  year_le := yearOf_le n h
  month_pos := Nat.le_add_left ..
  month_le := (monthAndDay_spec n).1
  day_pos := Nat.le_add_left ..
  day_le := (monthAndDay_spec n).2.1

theorem ordinal_ofOrdinal (n : Nat) (h : n < dayCount) : (ofOrdinal n h).ordinal = n := by
  have hp := (monthAndDay_spec n).2.2
  have := yearStart_yearOf_le n
  simp only [ordinal, ofOrdinal, Nat.add_sub_cancel]
  omega

/-- The days up to a date end within its month. -/
theorem rowSize_take_add_day_le (d : Date) :
    rowSize ((monthLengths d.year).take (d.month - 1)) + d.day ≤
      rowSize ((monthLengths d.year).take d.month) := by
  rw [rowSize_take_month d.year d.month_pos d.month_le]
  exact Nat.add_le_add_left d.day_le _

/-- Whole months and the days of the current one fit in the year. -/
theorem rowSize_take_add_le (d : Date) :
    rowSize ((monthLengths d.year).take (d.month - 1)) + d.day ≤ rowSize (monthLengths d.year) := by
  refine Nat.le_trans d.rowSize_take_add_day_le ?_
  conv => rhs; rw [← List.take_append_drop d.month (monthLengths d.year), rowSize_append]
  exact Nat.le_add_right ..

theorem ordinal_lt (d : Date) : d.ordinal < dayCount := by
  have h₁ := d.rowSize_take_add_le
  have h₂ := yearStart_succ d.year_pos
  have h₃ := yearStart_mono (Nat.add_le_add_right d.year_le 1)
  have h₄ := d.day_pos
  have h₅ : yearStart (9999 + 1) = dayCount := by decide
  simp only [ordinal]
  omega

end Date

end Timespan
