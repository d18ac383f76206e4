import Timespan.Proofs.Interval.Instants
import Timespan.Proofs.Interval.Order

/-! Lists of intervals joined from the left. What is joined is the hull of the list, and
a list that joins in some order joins when sorted: then no moment cuts it in two. -/
namespace Timespan.Interval

/-- The union of a list, one interval after the other; none as soon as one is missing. -/
def merge? : List Interval → Option Interval
  | [] => none
  | x :: xs => xs.foldlM union? x

variable {a b u v x : Interval} {xs ys : List Interval} {c : Moment}

theorem merge?_cons_cons : merge? (a :: b :: xs) = (a.union? b).bind fun u => merge? (u :: xs) := by
  rw [merge?, List.foldlM_cons]
  rfl

theorem merge?_cons_cons_eq_some_iff : merge? (a :: b :: xs) = some v ↔
    ∃ u, a.union? b = some u ∧ merge? (u :: xs) = some v := by
  rw [merge?_cons_cons, Option.bind_eq_some_iff]

/-- What holds of the result alone, and passes from a list whose first two intervals were
joined to the list before, holds of every list that joins to it. -/
theorem merge?_induction {P : List Interval → Prop} (single : P [v])
    (step : ∀ {a b u : Interval} {xs : List Interval},
      a.union? b = some u → P (u :: xs) → P (a :: b :: xs))
    (merged : merge? xs = some v) : P xs := by
  cases xs with
  | nil => contradiction
  | cons x xs =>
    induction xs generalizing x with
    | nil =>
      cases merged
      exact single
    | cons y ys ih =>
      obtain ⟨u, joined, rest⟩ := merge?_cons_cons_eq_some_iff.mp merged
      exact step joined (ih u rest)

/-- The interval from the smallest start of a list to its largest stop. -/
structure IsHull (u : Interval) (xs : List Interval) : Prop where
  start_mem : ∃ x ∈ xs, u.start ≈ x.start
  start_le : ∀ x ∈ xs, u.start ≤ x.start
  stop_mem : ∃ x ∈ xs, u.stop ≈ x.stop
  le_stop : ∀ x ∈ xs, x.stop ≤ u.stop

/-- A moment that no interval of the list reaches across, with some on both sides. -/
structure IsCut (c : Moment) (xs : List Interval) : Prop where
  apart : ∀ x ∈ xs, x.stop < c ∨ c ≤ x.start
  before : ∃ x ∈ xs, x.stop < c
  after : ∃ x ∈ xs, c ≤ x.start

theorem isHull_iff : IsHull u xs ↔ ((∃ x ∈ xs, u.start ≈ x.start) ∧ ∀ x ∈ xs, u.start ≤ x.start) ∧
    (∃ x ∈ xs, u.stop ≈ x.stop) ∧ ∀ x ∈ xs, x.stop ≤ u.stop :=
  ⟨fun ⟨a, b, c, d⟩ => ⟨⟨a, b⟩, c, d⟩, fun ⟨⟨a, b⟩, c, d⟩ => ⟨a, b, c, d⟩⟩

theorem isCut_iff : IsCut c xs ↔
    (∀ x ∈ xs, x.stop < c ∨ c ≤ x.start) ∧ (∃ x ∈ xs, x.stop < c) ∧ ∃ x ∈ xs, c ≤ x.start :=
  ⟨fun ⟨a, b, c⟩ => ⟨a, b, c⟩, fun ⟨a, b, c⟩ => ⟨a, b, c⟩⟩

theorem isHull_singleton (x : Interval) : IsHull x [x] where
  start_mem := ⟨x, List.mem_singleton_self x, Setoid.refl x.start⟩
  start_le := List.forall_mem_singleton.mpr (Int.le_refl x.start.instant)
  stop_mem := ⟨x, List.mem_singleton_self x, Setoid.refl x.stop⟩
  le_stop := List.forall_mem_singleton.mpr (Int.le_refl x.stop.instant)

theorem isHull_perm (perm : xs.Perm ys) : IsHull u xs ↔ IsHull u ys := by
  simp only [isHull_iff, perm.mem_iff]

theorem isCut_perm (perm : xs.Perm ys) : IsCut c xs ↔ IsCut c ys := by
  simp only [isCut_iff, perm.mem_iff]

section Step

/- `joined`: the first two intervals of the list have a union. -/
variable (joined : a.union? b = some u)
include joined

/-- The union keeps the smaller start and the larger stop of the two. -/
theorem IsHull.of_union (whole : IsHull v (u :: xs)) : IsHull v (a :: b :: xs) := by
  obtain ⟨-, rfl⟩ := union?_eq_some_iff.mp joined
  have starts : (v.start ≤ (a.hull b).start ↔ v.start ≤ a.start ∧ v.start ≤ b.start) ∧
      (v.start ≈ (a.hull b).start → v.start ≈ a.start ∨ v.start ≈ b.start) := by
    simp only [hull, Moment.le_iff, Moment.equiv_iff, Moment.instant_earlier]
    omega
  have stops : ((a.hull b).stop ≤ v.stop ↔ a.stop ≤ v.stop ∧ b.stop ≤ v.stop) ∧
      (v.stop ≈ (a.hull b).stop → v.stop ≈ a.stop ∨ v.stop ≈ b.stop) := by
    simp only [hull, Moment.le_iff, Moment.equiv_iff, Moment.instant_later]
    omega
  simp only [isHull_iff, List.mem_cons, forall_eq_or_imp, exists_eq_or_imp] at *
  grind

/-- Intervals that join lie on one side of a cut, and there their union lies. -/
theorem isCut_union_iff : IsCut c (u :: xs) ↔ IsCut c (a :: b :: xs) := by
  obtain ⟨⟨reached, reaches⟩, rfl⟩ := union?_eq_some_iff.mp joined
  have stops : (a.hull b).stop < c ↔ a.stop < c ∧ b.stop < c := by
    simp only [hull, Moment.lt_iff, Moment.instant_later]
    omega
  have starts : c ≤ (a.hull b).start ↔ c ≤ a.start ∧ c ≤ b.start := by
    simp only [hull, Moment.le_iff, Moment.instant_earlier]
    omega
  have across : ¬ (a.stop < c ∧ c ≤ b.start) ∧ ¬ (b.stop < c ∧ c ≤ a.start) := by
    simp only [Moment.lt_iff, Moment.le_iff] at *
    omega
  simp only [isCut_iff, List.mem_cons, forall_eq_or_imp, exists_eq_or_imp, stops, starts]
  grind

end Step

theorem isHull_of_merge? (merged : merge? xs = some v) : IsHull v xs :=
  merge?_induction (isHull_singleton v) (fun joined whole => whole.of_union joined) merged

theorem isCut_of_merge? (merged : merge? xs = some v) : IsCut c [v] ↔ IsCut c xs :=
  merge?_induction (P := fun xs => IsCut c [v] ↔ IsCut c xs) Iff.rfl
    (fun joined same => same.trans (isCut_union_iff joined)) merged

/-- A list with a cut joins in no order. -/
theorem not_isCut_of_merge? (proper : ∀ x ∈ xs, x.start ≤ x.stop) (merged : merge? xs = some v) :
    ¬ IsCut c xs := by
  rw [← isCut_of_merge? merged]
  have whole := isHull_of_merge? merged
  obtain ⟨x, member, -⟩ := whole.start_mem
  have inside := proper x member
  have starts := whole.start_le x member
  have stops := whole.le_stop x member
  simp only [isCut_iff, List.mem_singleton, forall_eq, exists_eq_left, Moment.lt_iff,
    Moment.le_iff] at *
  omega

section Sorted

variable {y : Interval}

/- `first`: the first interval of the list has the smallest start. -/
variable (first : ∀ z ∈ y :: ys, x.start ≤ z.start)
include first

/-- What does not join in sorted order starts where the list is cut. -/
theorem isCut_of_union?_eq_none (second : ∀ z ∈ ys, y.start ≤ z.start) (proper : y.start ≤ y.stop)
    (missing : x.union? y = none) : IsCut y.start (x :: y :: ys) := by
  have ordered := first y List.mem_cons_self
  have apart : x.stop < y.start := by
    rw [union?_eq_none_iff] at missing
    simp only [Moment.lt_iff, Moment.le_iff] at *
    omega
  exact {
    apart := by
      simp only [List.mem_cons, forall_eq_or_imp]
      exact ⟨.inl apart, .inr (Int.le_refl _), fun z member => .inr (second z member)⟩
    before := ⟨x, List.mem_cons_self, apart⟩
    after := ⟨y, List.mem_cons_of_mem _ List.mem_cons_self, Int.le_refl _⟩ }

theorem start_le_of_union? (joined : x.union? y = some u) : ∀ z ∈ ys, u.start ≤ z.start := by
  obtain ⟨-, rfl⟩ := union?_eq_some_iff.mp joined
  intro z member
  have ordered := first z (List.mem_cons_of_mem _ member)
  simp only [hull, Moment.le_iff, Moment.instant_earlier] at *
  omega

end Sorted

/-- A sorted list that does not join has a cut. -/
theorem exists_isCut_of_sorted (sorted : (x :: xs).Pairwise fun a b => a.start ≤ b.start)
    (proper : ∀ y ∈ x :: xs, y.start ≤ y.stop) (stuck : merge? (x :: xs) = none) :
    ∃ c, IsCut c (x :: xs) := by
  induction xs generalizing x with
  | nil => contradiction
  | cons y ys ih =>
    obtain ⟨first, second, later⟩ : (∀ z ∈ y :: ys, x.start ≤ z.start) ∧
        (∀ z ∈ ys, y.start ≤ z.start) ∧ ys.Pairwise fun a b => a.start ≤ b.start := by
      simpa only [List.pairwise_cons] using sorted
    obtain ⟨-, properY, properYs⟩ : x.start ≤ x.stop ∧ y.start ≤ y.stop ∧
        ∀ z ∈ ys, z.start ≤ z.stop := by
      simpa only [List.forall_mem_cons] using proper
    cases joined : x.union? y with
    | none => exact ⟨y.start, isCut_of_union?_eq_none first second properY joined⟩
    | some u =>
      -- the union takes the place of both, still first and not inverted
      have sortedU := List.pairwise_cons.mpr ⟨start_le_of_union? first joined, later⟩
      have properU : ∀ z ∈ u :: ys, z.start ≤ z.stop :=
        List.forall_mem_cons.mpr ⟨proper_of_union? joined, properYs⟩
      rw [merge?_cons_cons, joined, Option.bind_some] at stuck
      obtain ⟨c, cut⟩ := ih sortedU properU stuck
      exact ⟨c, (isCut_union_iff joined).mp cut⟩

/-- A list without a cut joins when it is sorted. -/
theorem exists_merge?_sortUp (nonempty : xs ≠ []) (proper : ∀ x ∈ xs, x.start ≤ x.stop)
    (uncut : ∀ c, ¬ IsCut c xs) : ∃ v, merge? (sortUp xs) = some v := by
  have perm := sortUp_perm xs
  have sorted : (sortUp xs).Pairwise fun a b => a.start ≤ b.start :=
    (pairwise_sortUp xs).imp start_le_of_le
  cases arranged : sortUp xs with
  | nil =>
    rw [arranged] at perm
    exact absurd perm.nil_eq.symm nonempty
  | cons x rest =>
    rw [arranged] at perm sorted
    cases merged : merge? (x :: rest) with
    | some v => exact ⟨v, rfl⟩
    | none =>
      have properUp : ∀ y ∈ x :: rest, y.start ≤ y.stop :=
        fun y member => proper y (perm.mem_iff.mp member)
      obtain ⟨c, cut⟩ := exists_isCut_of_sorted sorted properUp merged
      exact absurd ((isCut_perm perm).mp cut) (uncut c)

/-- Of intervals that are not inverted, a list that joins in some order joins in sorted
order, and in every order in which it joins it gives the interval from its smallest start
to its largest stop. -/
theorem merge?_complete_of_sorted (nonempty : xs ≠ []) (proper : ∀ x ∈ xs, x.start ≤ x.stop) :
    ((∃ ys v, ys.Perm xs ∧ merge? ys = some v) → ∃ v, merge? (sortUp xs) = some v) ∧
      ∀ ys v, ys.Perm xs → merge? ys = some v → IsHull v xs := by
  constructor
  · rintro ⟨ys, v, perm, merged⟩
    have properYs : ∀ y ∈ ys, y.start ≤ y.stop :=
      fun y member => proper y (perm.mem_iff.mp member)
    apply exists_merge?_sortUp nonempty proper
    intro c cut
    exact not_isCut_of_merge? properYs merged ((isCut_perm perm).mpr cut)
  · intro ys v perm merged
    exact (isHull_perm perm).mp (isHull_of_merge? merged)

/-- Three shifts and an empty one. As they are listed the first two do not meet; listed
backwards they join, and so they do in order. -/
theorem merge?_complete_of_sorted_of_shifts :
    let early : Interval := ⟨.onLeapDay 0 0, .onLeapDay 6 0⟩
    let between : Interval := ⟨.onLeapDay 7 1, .onLeapDay 14 1⟩
    let late : Interval := ⟨.onLeapDay 12 0, .onLeapDay 18 0⟩
    let last : Interval := ⟨.onLeapDay 18 0, .onLeapDay 20 2⟩
    let shifts := [last, early, between, late]
    (shifts ≠ [] ∧ ∀ x ∈ shifts, x.start ≤ x.stop) ∧ merge? shifts = none ∧
      merge? shifts.reverse = some ⟨early.start, late.stop⟩ ∧
      (∃ v, merge? (sortUp shifts) = some v) ∧ IsHull ⟨early.start, late.stop⟩ shifts := by
  intro early between late last shifts
  have nonempty : shifts ≠ [] := List.cons_ne_nil _ _
  have proper : ∀ x ∈ shifts, x.start ≤ x.stop := by decide
  have backwards : merge? shifts.reverse = some ⟨early.start, late.stop⟩ := by decide
  have perm : shifts.reverse.Perm shifts := List.reverse_perm shifts
  obtain ⟨sorted, whole⟩ := merge?_complete_of_sorted nonempty proper
  exact ⟨⟨nonempty, proper⟩, by decide, backwards, sorted ⟨_, _, perm, backwards⟩,
    whole _ _ perm backwards⟩

end Timespan.Interval
