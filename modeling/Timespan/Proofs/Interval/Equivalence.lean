import Timespan.Proofs.Interval.Instants
import Timespan.Proofs.Interval.RoundTrip

/-! Equivalent intervals cannot be told apart. Operations on them take the same branch
and give equivalent results, and their text is the same where both ends have a form in
UTC. -/
namespace Timespan

theorem Timestamp.write_congr {m n : Moment} (form : m.HasUtcForm) (same : m ≈ n) :
    write m = write n := by
  obtain ⟨u, utc, instant⟩ := Moment.exists_utc_iff.mp form
  rw [write_eq_chars utc instant, write_eq_chars utc (instant.trans same)]

namespace Interval

variable {a b c d : Interval} {m n : Moment}

theorem isNone_iff_of_rel {x y : Option Interval} (rel : Option.Rel (· ≈ ·) x y) :
    x.isNone ↔ y.isNone := by
  cases rel with
  | none => rfl
  | some _ => rfl

/-- Results on equivalent conditions are missing together. -/
theorem rel_ite {R : Interval → Interval → Prop} {p q : Prop} [Decidable p] [Decidable q]
    (same : p ↔ q) (rel : R a c) :
    Option.Rel R (if p then some a else none) (if q then some c else none) := by
  by_cases holds : p
  · rw [if_pos holds, if_pos (same.mp holds)]
    exact .some rel
  · rw [if_neg holds, if_neg (mt same.mpr holds)]
    exact .none

theorem forward?_congr (same : a ≈ c) : Option.Rel (· ≈ ·) a.forward? c.forward? := by
  obtain ⟨starts, stops⟩ := equiv_iff.mp same
  exact rel_ite (Moment.lt_congr starts stops) same

theorem hash_congr (same : a ≈ c) : hash a = hash c :=
  congrArg (hash : Int × Int → UInt64) same

theorem format_congr (form : a.start.HasUtcForm ∧ a.stop.HasUtcForm) (same : a ≈ c) :
    a.format = c.format := by
  obtain ⟨starts, stops⟩ := equiv_iff.mp same
  rw [format, format, write, write, Timestamp.write_congr form.1 starts,
    Timestamp.write_congr form.2 stops]

theorem mem_congr (same : a ≈ c) (instants : m ≈ n) : m ∈ a ↔ n ∈ c := by
  obtain ⟨starts, stops⟩ := equiv_iff.mp same
  exact and_congr (Moment.le_congr starts instants) (Moment.lt_congr instants stops)

section Operands

/- `left`, `right`: the operands on either side are equivalent. -/
variable (left : a ≈ c) (right : b ≈ d)
include left right

theorem lt_congr : a < b ↔ c < d := by
  obtain ⟨startsLeft, stopsLeft⟩ := equiv_iff.mp left
  obtain ⟨startsRight, stopsRight⟩ := equiv_iff.mp right
  exact or_congr (Moment.lt_congr startsLeft startsRight)
    (and_congr (Moment.equiv_congr startsLeft startsRight) (Moment.lt_congr stopsLeft stopsRight))

theorem le_congr : a ≤ b ↔ c ≤ d := by
  obtain ⟨startsLeft, stopsLeft⟩ := equiv_iff.mp left
  obtain ⟨startsRight, stopsRight⟩ := equiv_iff.mp right
  exact or_congr (Moment.lt_congr startsLeft startsRight)
    (and_congr (Moment.equiv_congr startsLeft startsRight) (Moment.le_congr stopsLeft stopsRight))

theorem contains_congr : a.Contains b ↔ c.Contains d := by
  obtain ⟨startsLeft, stopsLeft⟩ := equiv_iff.mp left
  obtain ⟨startsRight, stopsRight⟩ := equiv_iff.mp right
  exact and_congr (Moment.le_congr startsLeft startsRight) (Moment.le_congr stopsRight stopsLeft)

theorem adjacent_congr : a.Adjacent b ↔ c.Adjacent d := by
  obtain ⟨startsLeft, stopsLeft⟩ := equiv_iff.mp left
  obtain ⟨startsRight, stopsRight⟩ := equiv_iff.mp right
  exact or_congr (Moment.equiv_congr stopsLeft startsRight)
    (Moment.equiv_congr stopsRight startsLeft)

theorem hull_congr : a.hull b ≈ c.hull d := by
  obtain ⟨startsLeft, stopsLeft⟩ := equiv_iff.mp left
  obtain ⟨startsRight, stopsRight⟩ := equiv_iff.mp right
  exact equiv_iff.mpr ⟨Moment.earlier_congr startsLeft startsRight,
    Moment.later_congr stopsLeft stopsRight⟩

theorem overlap_congr : a.overlap b ≈ c.overlap d := by
  obtain ⟨startsLeft, stopsLeft⟩ := equiv_iff.mp left
  obtain ⟨startsRight, stopsRight⟩ := equiv_iff.mp right
  exact equiv_iff.mpr ⟨Moment.later_congr startsLeft startsRight,
    Moment.earlier_congr stopsLeft stopsRight⟩

theorem gap?_congr : Option.Rel (· ≈ ·) (a.gap? b) (c.gap? d) := by
  obtain ⟨startsLeft, stopsLeft⟩ := equiv_iff.mp left
  obtain ⟨startsRight, stopsRight⟩ := equiv_iff.mp right
  by_cases before : a.stop < b.start
  · have before' := (Moment.lt_congr stopsLeft startsRight).mp before
    rw [gap?_of_before before, gap?_of_before before']
    exact .some (equiv_iff.mpr ⟨stopsLeft, startsRight⟩)
  · have reached := Moment.not_lt.mp before
    have reached' := (Moment.le_congr startsRight stopsLeft).mp reached
    by_cases after : b.stop < a.start
    · have after' := (Moment.lt_congr stopsRight startsLeft).mp after
      rw [gap?_of_after reached after, gap?_of_after reached' after']
      exact .some (equiv_iff.mpr ⟨stopsRight, startsLeft⟩)
    · have reaches := Moment.not_lt.mp after
      have reaches' := (Moment.le_congr startsLeft stopsRight).mp reaches
      rw [gap?_of_reached reached reaches, gap?_of_reached reached' reaches']
      exact .none

theorem union?_congr : Option.Rel (· ≈ ·) (a.union? b) (c.union? d) :=
  rel_ite (isNone_iff_of_rel (gap?_congr left right)) (hull_congr left right)

theorem inter?_congr : Option.Rel (· ≈ ·) (a.inter? b) (c.inter? d) := by
  rw [inter?_eq_forward?, inter?_eq_forward?]
  exact forward?_congr (overlap_congr left right)

theorem intersects_congr : a.Intersects b ↔ c.Intersects d := by
  obtain ⟨starts, stops⟩ := equiv_iff.mp (overlap_congr left right)
  rw [intersects_iff, intersects_iff]
  exact Moment.lt_congr starts stops

end Operands

/-- Equivalent intervals share their hash and their length. Against equivalent operands
they give gaps, unions and intersections that are missing together and equivalent
otherwise, the same answers to every question and the same place in the order; they share
their text where both ends have a form in UTC. -/
theorem operations_respect_equivalence (left : a ≈ c) (right : b ≈ d) (instants : m ≈ n) :
    (hash a = hash c ∧ a.duration = c.duration) ∧
      (Option.Rel (· ≈ ·) (a.gap? b) (c.gap? d) ∧ Option.Rel (· ≈ ·) (a.union? b) (c.union? d) ∧
        Option.Rel (· ≈ ·) (a.inter? b) (c.inter? d)) ∧
      ((a.Intersects b ↔ c.Intersects d) ∧ (a.Adjacent b ↔ c.Adjacent d) ∧
        (a.Contains b ↔ c.Contains d) ∧ (m ∈ a ↔ n ∈ c)) ∧
      ((a < b ↔ c < d) ∧ (a ≤ b ↔ c ≤ d) ∧ (b < a ↔ d < c) ∧ (b ≤ a ↔ d ≤ c)) ∧
      (a.start.HasUtcForm ∧ a.stop.HasUtcForm → a.format = c.format) := by
  refine ⟨⟨hash_congr left, duration_eq_of_equiv left⟩, ?results, ?questions, ?order,
    fun form => format_congr form left⟩
  case results => exact ⟨gap?_congr left right, union?_congr left right, inter?_congr left right⟩
  case questions =>
    exact ⟨intersects_congr left right, adjacent_congr left right, contains_congr left right,
      mem_congr left instants⟩
  case order =>
    exact ⟨lt_congr left right, le_congr left right, lt_congr right left, le_congr right left⟩

/-- Half an hour of the calendar's last evening at two offsets, against a stretch that
leaves the calendar in UTC. -/
theorem operations_respect_equivalence_of_last_evening :
    let one : Offset := ⟨-3600000000, by decide, by decide⟩
    let two : Offset := ⟨-7200000000, by decide, by decide⟩
    let a : Interval := ⟨.onDay .last 22 0 one, .onDay .last 23 30 .utc⟩
    let c : Interval := ⟨.onDay .last 23 0 .utc, .onDay .last 22 30 one⟩
    let b : Interval := ⟨.onDay .last 23 15 .utc, .onDay .last 23 30 one⟩
    let d : Interval := ⟨.onDay .last 21 15 two, .onDay .last 22 30 two⟩
    (a ≈ c ∧ b ≈ d ∧ a.stop ≈ c.stop) ∧ (a.start.HasUtcForm ∧ a.stop.HasUtcForm) ∧
      ¬ b.stop.HasUtcForm ∧ a.union? b = some ⟨a.start, b.stop⟩ ∧
      Option.Rel (· ≈ ·) (a.union? b) (c.union? d) ∧ (a.stop ∈ a ↔ c.stop ∈ c) ∧
      a.format = c.format := by
  intro one two a c b d
  have left : a ≈ c := by decide
  have right : b ≈ d := by decide
  have form : a.start.HasUtcForm ∧ a.stop.HasUtcForm := by decide
  obtain ⟨-, ⟨-, union, -⟩, ⟨-, -, -, holds⟩, -, text⟩ :=
    operations_respect_equivalence left right (show a.stop ≈ c.stop by decide)
  exact ⟨⟨left, right, by decide⟩, form, by decide, by decide, union, holds, text form⟩

end Interval

end Timespan
