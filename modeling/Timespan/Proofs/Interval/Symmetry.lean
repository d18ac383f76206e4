import Timespan.Proofs.Interval.Equivalence
import Timespan.Proofs.Interval.Gap

/-! Operands in either order. Tests and instants never depend on it, and a stored end
only where two operands tie: then it is the first operand's. -/
namespace Timespan

namespace Moment

variable {a b x y : Moment}

/-- One of two moments as it stands, and the first of them when they are equivalent. -/
structure Choice (a b x : Moment) : Prop where
  verbatim : x = a ∨ x = b
  tie : a ≈ b → x = a

theorem choice_earlier (a b : Moment) : Choice a b (a.earlier b) := by
  by_cases before : b < a
  · rw [earlier_of_lt before]
    exact ⟨.inr rfl, fun same => absurd same.symm (Int.ne_of_lt before)⟩
  · rw [earlier_of_le (not_lt.mp before)]
    exact ⟨.inl rfl, fun _ => rfl⟩

theorem choice_later (a b : Moment) : Choice a b (a.later b) := by
  by_cases after : a < b
  · rw [later_of_lt after]
    exact ⟨.inr rfl, fun same => absurd same (Int.ne_of_lt after)⟩
  · rw [later_of_le (not_lt.mp after)]
    exact ⟨.inl rfl, fun _ => rfl⟩

/-- Choices of one instant from both sides are different moments only at a tie. -/
theorem Choice.tie_of_ne (left : Choice a b x) (right : Choice b a y) (same : x ≈ y)
    (different : x ≠ y) : a ≈ b ∧ x.offset ≠ y.offset := by
  refine ⟨?_, fun offsets => different (ext_of_instant offsets same)⟩
  obtain rfl | rfl := left.verbatim
  · obtain rfl | rfl := right.verbatim
    · exact same
    · exact absurd rfl different
  · obtain rfl | rfl := right.verbatim
    · exact absurd rfl different
    · exact Setoid.symm same

end Moment

namespace Interval

variable {a b x y : Interval}

/-- Each end of the interval is chosen from the two ends that correspond to it. -/
structure Picks (a b x : Interval) : Prop where
  start : Moment.Choice a.start b.start x.start
  stop : Moment.Choice a.stop b.stop x.stop

/-- Two results that differ at most in the offset of an end at which the operands tie. -/
structure Mirrors (a b x y : Interval) : Prop where
  equiv : x ≈ y
  start : x.start ≠ y.start → a.start ≈ b.start ∧ x.start.offset ≠ y.start.offset
  stop : x.stop ≠ y.stop → a.stop ≈ b.stop ∧ x.stop.offset ≠ y.stop.offset

theorem mirrors_of_picks (left : Picks a b x) (right : Picks b a y) (same : x ≈ y) :
    Mirrors a b x y := by
  obtain ⟨starts, stops⟩ := equiv_iff.mp same
  exact ⟨same, left.start.tie_of_ne right.start starts, left.stop.tie_of_ne right.stop stops⟩

theorem picks_hull (a b : Interval) : Picks a b (a.hull b) :=
  ⟨Moment.choice_earlier a.start b.start, Moment.choice_later a.stop b.stop⟩

theorem picks_overlap (a b : Interval) : Picks a b (a.overlap b) :=
  ⟨Moment.choice_later a.start b.start, Moment.choice_earlier a.stop b.stop⟩

theorem hull_comm (a b : Interval) : a.hull b ≈ b.hull a := by
  simp only [equiv_iff, hull, Moment.instant_earlier, Moment.instant_later, Int.min_comm,
    Int.max_comm, and_self]

theorem overlap_comm (a b : Interval) : a.overlap b ≈ b.overlap a := by
  simp only [equiv_iff, overlap, Moment.instant_earlier, Moment.instant_later, Int.min_comm,
    Int.max_comm, and_self]

theorem gap?_eq_none_comm : a.gap? b = none ↔ b.gap? a = none := by
  rw [gap?_eq_none_iff, gap?_eq_none_iff, and_comm]

theorem intersects_comm : a.Intersects b ↔ b.Intersects a := by
  obtain ⟨starts, stops⟩ := equiv_iff.mp (overlap_comm a b)
  rw [intersects_iff, intersects_iff]
  exact Moment.lt_congr starts stops

theorem adjacent_comm : a.Adjacent b ↔ b.Adjacent a :=
  ⟨Adjacent.symm, Adjacent.symm⟩

theorem picks_of_union? {u : Interval} (joined : a.union? b = some u) : Picks a b u := by
  obtain ⟨-, rfl⟩ := union?_eq_some_iff.mp joined
  exact picks_hull a b

theorem picks_of_inter? {i : Interval} (found : a.inter? b = some i) : Picks a b i := by
  obtain ⟨-, rfl⟩ := inter?_eq_some_iff.mp found
  exact picks_overlap a b

theorem union?_comm (a b : Interval) : Option.Rel (Mirrors a b) (a.union? b) (b.union? a) := by
  have together : (a.gap? b).isNone ↔ (b.gap? a).isNone := by
    rw [Option.isNone_iff_eq_none, Option.isNone_iff_eq_none, gap?_eq_none_comm]
  exact rel_ite together (mirrors_of_picks (picks_hull a b) (picks_hull b a) (hull_comm a b))

theorem inter?_comm (a b : Interval) : Option.Rel (Mirrors a b) (a.inter? b) (b.inter? a) := by
  have same := overlap_comm a b
  obtain ⟨starts, stops⟩ := equiv_iff.mp same
  exact rel_ite (Moment.lt_congr starts stops)
    (mirrors_of_picks (picks_overlap a b) (picks_overlap b a) same)

/-- Swapping the operands changes no answer: unions and intersections are missing together and
equivalent otherwise, gaps are missing together, and the tests agree. Each end of a union or an
intersection is stored as it stands in one operand, in the first one at a tie, so results from
the two orders differ at most in the offset of an end at which the operands tie. -/
theorem symmetric_up_to_ties (a b : Interval) :
    (Option.Rel (Mirrors a b) (a.union? b) (b.union? a) ∧
        Option.Rel (Mirrors a b) (a.inter? b) (b.inter? a)) ∧
      ((a.Intersects b ↔ b.Intersects a) ∧ (a.Adjacent b ↔ b.Adjacent a) ∧
        (a.gap? b = none ↔ b.gap? a = none)) ∧
      (∀ u, a.union? b = some u → Picks a b u) ∧ ∀ i, a.inter? b = some i → Picks a b i :=
  ⟨⟨union?_comm a b, inter?_comm a b⟩, ⟨intersects_comm, adjacent_comm, gap?_eq_none_comm⟩,
    fun _ => picks_of_union?, fun _ => picks_of_inter?⟩

/-- Two shifts that start together, told at two offsets. The union starts at the offset of the
one that is asked; the later stop is that of the second shift in either order. -/
theorem symmetric_up_to_ties_of_start :
    let a : Interval := ⟨.onLeapDay 9 0, .onLeapDay 12 0⟩
    let b : Interval := ⟨.onLeapDay 10 1, .onLeapDay 16 2⟩
    a.union? b = some ⟨a.start, b.stop⟩ ∧ b.union? a = some b ∧ a.union? b ≠ b.union? a ∧
      Option.Rel (Mirrors a b) (a.union? b) (b.union? a) ∧ Picks a b ⟨a.start, b.stop⟩ ∧
      Picks a b ⟨a.start, a.stop⟩ := by
  intro a b
  have joined : a.union? b = some ⟨a.start, b.stop⟩ := by decide
  have found : a.inter? b = some ⟨a.start, a.stop⟩ := by decide
  obtain ⟨⟨union, -⟩, -, picked, shared⟩ := symmetric_up_to_ties a b
  exact ⟨joined, by decide, by decide, union, picked _ joined, shared _ found⟩

end Interval

end Timespan
