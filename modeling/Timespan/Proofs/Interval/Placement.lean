import Mathlib.Logic.ExistsUnique
import Timespan.Proofs.Interval.Gap

/-! How two intervals lie to each other, told by their overlap. Running forwards it is
the intersection, backwards the gap turned round, and where it does neither the two
touch. -/
namespace Timespan.Interval

variable {a b : Interval}

/-- The interval from the stop to the start. -/
def reversed (x : Interval) : Interval :=
  ⟨x.stop, x.start⟩

section Upright

/- `properA`, `properB`: neither interval is inverted. -/
variable (properA : a.start ≤ a.stop) (properB : b.start ≤ b.stop)
include properA properB

theorem near_iff_overlap : (b.start ≤ a.stop ∧ a.start ≤ b.stop) ↔
    (a.overlap b).start ≤ (a.overlap b).stop := by
  simp only [overlap, Moment.le_iff, Moment.instant_later, Moment.instant_earlier] at *
  omega

/-- The gap is the overlap turned round, where that runs backwards. -/
theorem gap?_eq_forward?_reversed : a.gap? b = (a.overlap b).reversed.forward? := by
  by_cases before : a.stop < b.start
  · have starts : a.start < b.start := Int.lt_of_le_of_lt properA before
    have stops : a.stop ≤ b.stop := Int.le_trans (Int.le_of_lt before) properB
    have between : a.overlap b = ⟨b.start, a.stop⟩ := by
      rw [overlap, Moment.later_of_lt starts, Moment.earlier_of_le stops]
    rw [gap?_of_before before, between, eq_comm, forward?_eq_some_iff]
    exact ⟨before, rfl⟩
  · have reached := Moment.not_lt.mp before
    by_cases after : b.stop < a.start
    · have starts : b.start ≤ a.start := Int.le_trans properB (Int.le_of_lt after)
      have stops : b.stop < a.stop := Int.lt_of_lt_of_le after properA
      have between : a.overlap b = ⟨a.start, b.stop⟩ := by
        rw [overlap, Moment.later_of_le starts, Moment.earlier_of_lt stops]
      rw [gap?_of_after reached after, between, eq_comm, forward?_eq_some_iff]
      exact ⟨after, rfl⟩
    · have reaches := Moment.not_lt.mp after
      have forwards := (near_iff_overlap properA properB).mp ⟨reached, reaches⟩
      rw [gap?_of_reached reached reaches, eq_comm, forward?_eq_none_iff]
      exact Moment.not_lt.mpr forwards

end Upright

/-- The ways in which two intervals can lie to each other. -/
inductive Placement where
  | apart
  | touching
  | sharing

namespace Placement

/-- What tells that two intervals lie in this way. -/
def Holds (a b : Interval) : Placement → Prop
  | apart => ∃ g, a.gap? b = some g
  | touching => a.Adjacent b
  | sharing => a.Intersects b

/-- What union and intersection are for two intervals that lie in this way. -/
def Yields (a b : Interval) : Placement → Prop
  | apart => a.union? b = none ∧ a.inter? b = none
  | touching =>
    a.union? b = some ⟨a.start.earlier b.start, a.stop.later b.stop⟩ ∧ a.inter? b = none
  | sharing =>
    a.union? b = some ⟨a.start.earlier b.start, a.stop.later b.stop⟩ ∧
      a.inter? b = some ⟨a.start.later b.start, a.stop.earlier b.stop⟩

/-- How the ends of the overlap stand to each other. -/
def Orders (start stop : Moment) : Placement → Prop
  | apart => stop < start
  | touching => start ≈ stop
  | sharing => start < stop

theorem existsUnique_orders (start stop : Moment) : ∃! p : Placement, p.Orders start stop := by
  obtain forwards | same | backwards := Int.lt_trichotomy start.instant stop.instant
  · refine ⟨sharing, forwards, ?_⟩
    rintro (_ | _ | _) order
    · exact absurd forwards (Int.lt_asymm order)
    · exact absurd order (Int.ne_of_lt forwards)
    · rfl
  · refine ⟨touching, same, ?_⟩
    rintro (_ | _ | _) order
    · exact absurd same (Int.ne_of_gt order)
    · rfl
    · exact absurd same (Int.ne_of_lt order)
  · refine ⟨apart, backwards, ?_⟩
    rintro (_ | _ | _) order
    · rfl
    · exact absurd order (Int.ne_of_gt backwards)
    · exact absurd backwards (Int.lt_asymm order)

end Placement

section Proper

/- `properA`, `properB`: both intervals take in an instant. -/
variable (properA : a.start < a.stop) (properB : b.start < b.stop)
include properA properB

theorem adjacent_iff_overlap : a.Adjacent b ↔ (a.overlap b).start ≈ (a.overlap b).stop := by
  simp only [Adjacent, overlap, Moment.lt_iff, Moment.equiv_iff, Moment.instant_later,
    Moment.instant_earlier] at *
  omega

theorem holds_iff_orders (p : Placement) :
    p.Holds a b ↔ p.Orders (a.overlap b).start (a.overlap b).stop := by
  cases p with
  | apart =>
    simp only [Placement.Holds, Placement.Orders, forward?_eq_some_iff, exists_and_left,
      gap?_eq_forward?_reversed (Int.le_of_lt properA) (Int.le_of_lt properB), reversed,
      exists_eq', and_true]
  | touching => exact adjacent_iff_overlap properA properB
  | sharing => exact intersects_iff

theorem yields_of_orders {p : Placement} (order : p.Orders (a.overlap b).start (a.overlap b).stop) :
    p.Yields a b := by
  have near := near_iff_overlap (Int.le_of_lt properA) (Int.le_of_lt properB)
  cases p with
  | apart =>
    exact ⟨union?_eq_none_iff.mpr (mt near.mp (Int.not_le.mpr order)),
      inter?_eq_none_iff.mpr (Moment.not_lt.mpr (Int.le_of_lt order))⟩
  | touching =>
    exact ⟨union?_eq_some_iff.mpr ⟨near.mpr (Int.le_of_eq order), rfl⟩,
      inter?_eq_none_iff.mpr (Moment.not_lt.mpr (Int.le_of_eq order.symm))⟩
  | sharing =>
    exact ⟨union?_eq_some_iff.mpr ⟨near.mpr (Int.le_of_lt order), rfl⟩,
      inter?_eq_some_iff.mpr ⟨order, rfl⟩⟩

end Proper

/-- Two intervals that both start before they stop are apart, touch or share an instant, and
never two of these. Apart they have no union; touching they have one, from the smaller start
to the larger stop, and no intersection; sharing an instant they have both. -/
theorem placement_unique (properA : a.start < a.stop) (properB : b.start < b.stop) :
    (∃! p : Placement, p.Holds a b) ∧ ∀ p : Placement, p.Holds a b → p.Yields a b := by
  have tells := holds_iff_orders properA properB
  constructor
  · simpa only [tells] using Placement.existsUnique_orders (a.overlap b).start (a.overlap b).stop
  · intro p holds
    exact yields_of_orders properA properB ((tells p).mp holds)

/-- A morning, and an afternoon two hours further east that starts when it stops. -/
theorem placement_unique_of_noon :
    let a : Interval := ⟨.onLeapDay 9 0, .onLeapDay 13 1⟩
    let b : Interval := ⟨.onLeapDay 14 2, .onLeapDay 18 0⟩
    (a.start < a.stop ∧ b.start < b.stop) ∧ (∃! p : Placement, p.Holds a b) ∧ a.Adjacent b ∧
      Placement.touching.Yields a b ∧ a.union? b = some ⟨a.start, b.stop⟩ := by
  intro a b
  have properA : a.start < a.stop := by decide
  have properB : b.start < b.stop := by decide
  have touching : a.Adjacent b := by decide
  obtain ⟨unique, yields⟩ := placement_unique properA properB
  exact ⟨⟨properA, properB⟩, unique, touching, yields .touching touching, by decide⟩

end Timespan.Interval
