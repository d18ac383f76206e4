import Timespan.Proofs.Interval.Instants

/-! The gap as what the hull of two intervals adds to them, when neither is inverted:
the stretch between them, which touches both and joins with each. -/
namespace Timespan.Interval

variable {a b g : Interval} {m : Moment}

theorem Adjacent.symm (touching : a.Adjacent b) : b.Adjacent a :=
  Or.symm touching

/-- Neither of two intervals has an instant of the other when one stops by the start of
the other. -/
theorem not_intersects_of_le (before : a.stop ≤ b.start) : ¬ a.Intersects b ∧ ¬ b.Intersects a := by
  simp only [intersects_iff, Moment.not_lt]
  simp only [overlap, Moment.le_iff, Moment.instant_later, Moment.instant_earlier] at *
  omega

/-- Intervals that touch share no instant, whichever way they run. -/
theorem not_intersects_of_adjacent (touching : a.Adjacent b) : ¬ a.Intersects b := by
  obtain meets | meets := touching
  · exact (not_intersects_of_le (Int.le_of_eq meets)).1
  · exact (not_intersects_of_le (Int.le_of_eq meets)).2

/-- A gap runs from the stop of one interval to a later start of the other. -/
theorem side_of_gap? (found : a.gap? b = some g) :
    (a.stop < b.start ∧ g = ⟨a.stop, b.start⟩) ∨ (b.stop < a.start ∧ g = ⟨b.stop, a.start⟩) := by
  by_cases before : a.stop < b.start
  · rw [gap?_of_before before] at found
    cases found
    exact .inl ⟨before, rfl⟩
  · have reached := Moment.not_lt.mp before
    by_cases after : b.stop < a.start
    · rw [gap?_of_after reached after] at found
      cases found
      exact .inr ⟨after, rfl⟩
    · rw [gap?_of_reached reached (Moment.not_lt.mp after)] at found
      contradiction

theorem proper_of_gap? (found : a.gap? b = some g) : g.start < g.stop := by
  obtain ⟨before, rfl⟩ | ⟨after, rfl⟩ := side_of_gap? found
  · exact before
  · exact after

theorem adjacent_of_gap? (found : a.gap? b = some g) : g.Adjacent a ∧ g.Adjacent b := by
  obtain ⟨-, rfl⟩ | ⟨-, rfl⟩ := side_of_gap? found
  · exact ⟨.inr (Setoid.refl a.stop), .inl (Setoid.refl b.start)⟩
  · exact ⟨.inl (Setoid.refl a.start), .inr (Setoid.refl b.stop)⟩

/-- What closes the way between two intervals: it touches both, shares no instant with
either, and joined with one and then with the other it makes their hull. -/
structure Bridges (g a b : Interval) : Prop where
  proper : g.start < g.stop
  adjacent : g.Adjacent a ∧ g.Adjacent b
  apart : ¬ g.Intersects a ∧ ¬ g.Intersects b
  joins : ∃ u v, a.union? g = some u ∧ u.union? b = some v ∧ v ≈ a.hull b

section Proper

/- `properA`, `properB`: neither interval is inverted. -/
variable (properA : a.start ≤ a.stop) (properB : b.start ≤ b.stop)
include properA properB

theorem near_of_adjacent (touching : a.Adjacent b) : b.start ≤ a.stop ∧ a.start ≤ b.stop := by
  simp only [Moment.le_iff] at *
  obtain (meets : a.stop.instant = b.start.instant) | (meets : b.stop.instant = a.start.instant) :=
    touching
  · omega
  · omega

theorem hull_contains_gap (found : a.gap? b = some g) : (a.hull b).Contains g := by
  obtain ⟨before, rfl⟩ | ⟨after, rfl⟩ := side_of_gap? found
  all_goals
    simp only [Contains, hull, Moment.lt_iff, Moment.le_iff, Moment.instant_earlier,
      Moment.instant_later] at *
    omega

theorem mem_gap_iff (found : a.gap? b = some g) : m ∈ g ↔ m ∈ a.hull b ∧ m ∉ a ∧ m ∉ b := by
  obtain ⟨before, rfl⟩ | ⟨after, rfl⟩ := side_of_gap? found
  all_goals
    simp only [mem_iff, hull, Moment.lt_iff, Moment.le_iff, Moment.instant_earlier,
      Moment.instant_later] at *
    omega

/-- The first interval reaches over the gap up to the second. -/
theorem joins_of_gap (found : a.gap? b = some g) :
    ∃ u v, a.union? g = some u ∧ u.union? b = some v ∧ v ≈ a.hull b := by
  have properG := Int.le_of_lt (proper_of_gap? found)
  obtain ⟨touchesA, touchesB⟩ := adjacent_of_gap? found
  have nearA := near_of_adjacent properA properG touchesA.symm
  have nearB := near_of_adjacent properG properB touchesB
  have inside := hull_contains_gap properA properB found
  refine ⟨_, _, union?_eq_some_iff.mpr ⟨nearA, rfl⟩, union?_eq_some_iff.mpr ⟨?_, rfl⟩,
    equiv_iff.mpr ?_⟩
  all_goals
    simp only [Contains, hull, Moment.le_iff, Moment.instant_earlier, Moment.instant_later] at *
    omega

end Proper

/-- The gap takes in exactly the instants of the hull that neither interval takes in. It
starts before it stops, touches both intervals and intersects neither, and the first
interval joined with it and then with the second is the hull. -/
theorem gap?_exact (properA : a.start ≤ a.stop) (properB : b.start ≤ b.stop) :
    (∀ m : Moment, (m ∈ a.hull b ∧ m ∉ a ∧ m ∉ b) ↔ ∃ g, a.gap? b = some g ∧ m ∈ g) ∧
      ∀ g, a.gap? b = some g → g.Bridges a b := by
  constructor
  · intro m
    cases found : a.gap? b with
    | none =>
      have filled := mem_hull_iff (m := m) (gap?_eq_none_iff.mp found)
      simp only [filled, reduceCtorEq, false_and, exists_false, iff_false]
      rintro ⟨inA | inB, missA, missB⟩
      · exact missA inA
      · exact missB inB
    | some g => simp only [Option.some.injEq, exists_eq_left', mem_gap_iff properA properB found]
  · intro g found
    obtain ⟨touchesA, touchesB⟩ := adjacent_of_gap? found
    exact {
      proper := proper_of_gap? found
      adjacent := ⟨touchesA, touchesB⟩
      apart := ⟨not_intersects_of_adjacent touchesA, not_intersects_of_adjacent touchesB⟩
      joins := joins_of_gap properA properB found }

/-- An empty interval at noon, and a morning at another offset that is over by then. -/
theorem gap?_exact_of_noon :
    let a : Interval := ⟨.onLeapDay 12 0, .onLeapDay 13 1⟩
    let b : Interval := ⟨.onLeapDay 1 1, .onLeapDay 8 2⟩
    let g : Interval := ⟨b.stop, a.start⟩
    (a.start ≤ a.stop ∧ b.start ≤ b.stop) ∧ a.gap? b = some g ∧ g.Bridges a b ∧
      ∀ m : Moment, (m ∈ a.hull b ∧ m ∉ a ∧ m ∉ b) ↔ ∃ g, a.gap? b = some g ∧ m ∈ g := by
  intro a b g
  have properA : a.start ≤ a.stop := by decide
  have properB : b.start ≤ b.stop := by decide
  have found : a.gap? b = some g := by decide
  obtain ⟨filled, bridged⟩ := gap?_exact properA properB
  exact ⟨⟨properA, properB⟩, found, bridged g found, filled⟩

end Timespan.Interval
