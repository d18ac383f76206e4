import Mathlib.Data.Finset.Card
import Mathlib.Data.List.SplitBy
import Timespan.Proofs.Interval.Equivalence
import Timespan.Proofs.Interval.Order

/-! Lists of intervals in order. Sorting is stable upwards and downwards, so that a
sorted list starts with the very interval that a walk through the list keeps. The
different intervals are as many as the runs. -/
namespace Timespan.Interval

variable {a b c x y m n : Interval} {xs ys : List Interval}

theorem lt_iff : a < b ↔ a.start.instant < b.start.instant ∨
    a.start.instant = b.start.instant ∧ a.stop.instant < b.stop.instant := Iff.rfl

theorem le_refl (a : Interval) : a ≤ a :=
  .inr ⟨rfl, Int.le_refl a.stop.instant⟩

theorem lt_trans (first : a < b) (second : b < c) : a < c := by
  simp only [lt_iff] at *
  omega

theorem not_lt : ¬ a < b ↔ b ≤ a := by
  simp only [lt_iff, le_iff]
  omega

theorem not_le : ¬ a ≤ b ↔ b < a := by
  rw [← not_lt, Classical.not_not]

theorem le_iff_lt_or_equiv : a ≤ b ↔ a < b ∨ a ≈ b := by
  simp only [lt_iff, le_iff, equiv_iff]
  omega

theorem equiv_iff_le : a ≈ b ↔ a ≤ b ∧ b ≤ a := by
  simp only [le_iff, equiv_iff]
  omega

theorem not_equiv_of_lt (before : a < b) : ¬ a ≈ b :=
  fun same => not_lt.mpr (equiv_iff_le.mp same).2 before

/-- How two intervals stand to each other in the order. -/
def Stands (a b : Interval) : Ordering → Prop
  | .lt => a < b
  | .eq => a ≈ b
  | .gt => b < a

theorem compare_of_stands {o : Ordering} (stands : a.Stands b o) : a.compare b = o := by
  cases o with
  | lt =>
    have before : a < b := stands
    exact (if_neg (not_equiv_of_lt before)).trans (if_pos before)
  | eq => exact if_pos stands
  | gt =>
    have after : b < a := stands
    have reached : ¬ a < b := not_lt.mpr (le_iff_lt_or_equiv.mpr (.inl after))
    have other : ¬ a ≈ b := fun same => not_equiv_of_lt after (Setoid.symm same)
    exact (if_neg other).trans (if_neg reached)

theorem exists_stands (a b : Interval) : ∃ o : Ordering, a.Stands b o := by
  by_cases before : a < b
  · exact ⟨.lt, before⟩
  · obtain after | same := le_iff_lt_or_equiv.mp (not_lt.mp before)
    · exact ⟨.gt, after⟩
    · exact ⟨.eq, Setoid.symm same⟩

theorem stands_compare (a b : Interval) : a.Stands b (a.compare b) := by
  obtain ⟨o, stands⟩ := exists_stands a b
  rw [compare_of_stands stands]
  exact stands

theorem existsUnique_stands (a b : Interval) : ∃! o : Ordering, a.Stands b o :=
  ⟨a.compare b, stands_compare a b, fun _ stands => (compare_of_stands stands).symm⟩

/-- The relation puts any two intervals in order, and ties those that are equivalent. -/
structure Ranks (r : Interval → Interval → Prop) : Prop where
  total : ∀ a b, r a b ∨ r b a
  trans : ∀ {a b c}, r a b → r b c → r a c
  equiv_iff : ∀ {a b}, a ≈ b ↔ r a b ∧ r b a

theorem ranks_le : Ranks (· ≤ ·) where
  total := le_total
  trans := le_trans
  equiv_iff := equiv_iff_le

theorem ranks_ge : Ranks (· ≥ ·) where
  total a b := le_total b a
  trans first second := le_trans second first
  equiv_iff := equiv_iff_le.trans and_comm

/-- The intervals of a list that are equivalent to one, as they stand in it. -/
def peers (x : Interval) (xs : List Interval) : List Interval :=
  xs.filter fun y => decide (x ≈ y)

theorem mem_peers : y ∈ x.peers xs ↔ y ∈ xs ∧ x ≈ y := by
  rw [peers, List.mem_filter, decide_eq_true_eq]

theorem peers_cons_of_equiv (same : x ≈ y) : x.peers (y :: ys) = y :: x.peers ys :=
  List.filter_cons_of_pos (decide_eq_true same)

theorem peers_cons_of_not_equiv (other : ¬ x ≈ y) : x.peers (y :: ys) = x.peers ys :=
  List.filter_cons_of_neg (by simpa using other)

theorem peers_congr (same : x ≈ y) : x.peers xs = y.peers xs := by
  refine List.filter_congr fun z _ => decide_eq_decide.mpr ⟨fun left => ?_, fun right => ?_⟩
  · exact Setoid.trans (Setoid.symm same) left
  · exact Setoid.trans same right

/-- The list `ys` has the intervals of `xs` in order, equivalent ones as they stand in `xs`. -/
structure IsSortOf (r : Interval → Interval → Prop) (xs ys : List Interval) : Prop where
  perm : ys.Perm xs
  ordered : ys.Pairwise r
  stable : ∀ x : Interval, x.peers ys = x.peers xs

/-- The interval comes before all others of the list, and first among its peers. -/
structure IsFirst (r : Interval → Interval → Prop) (m : Interval) (xs : List Interval) :
    Prop where
  before : ∀ y ∈ xs, r m y
  head : (m.peers xs).head? = some m

section Ranked

variable {r : Interval → Interval → Prop} (ranks : Ranks r)
include ranks

theorem Ranks.refl (a : Interval) : r a a :=
  (ranks.equiv_iff.mp (Setoid.refl a)).1

/-- Peers are in order as they stand, so sorting leaves them so. -/
theorem isSortOf_mergeSort [DecidableRel r] (xs : List Interval) :
    IsSortOf r xs (xs.mergeSort fun a b => decide (r a b)) := by
  have transitive := decide_trans (r := r) ranks.trans
  have total := decide_total (r := r) ranks.total
  have perm := List.mergeSort_perm xs fun a b => decide (r a b)
  refine ⟨perm, ?_, ?_⟩
  · exact (List.pairwise_mergeSort transitive total xs).imp of_decide_eq_true
  · intro x
    have tied : (x.peers xs).Pairwise fun a b => decide (r a b) = true := by
      refine List.pairwise_of_forall_mem_list fun a left b right => decide_eq_true ?_
      have same : a ≈ b := Setoid.trans (Setoid.symm (mem_peers.mp left).2) (mem_peers.mp right).2
      exact (ranks.equiv_iff.mp same).1
    have kept : (x.peers (x.peers xs)).Sublist (x.peers (xs.mergeSort fun a b => decide (r a b))) :=
      (List.sublist_mergeSort transitive total tied List.filter_sublist).filter _
    have again : x.peers (x.peers xs) = x.peers xs :=
      List.filter_eq_self.mpr fun y member => decide_eq_true (mem_peers.mp member).2
    rw [again] at kept
    exact (kept.eq_of_length (perm.filter _).length_eq.symm).symm

theorem IsFirst.unique (first : IsFirst r m xs) (second : IsFirst r n xs) : m = n := by
  have memberM : m ∈ xs := (mem_peers.mp (List.mem_of_head? first.head)).1
  have memberN : n ∈ xs := (mem_peers.mp (List.mem_of_head? second.head)).1
  have same : m ≈ n := ranks.equiv_iff.mpr ⟨first.before n memberN, second.before m memberM⟩
  have heads := first.head
  rw [peers_congr same, second.head] at heads
  exact (Option.some.inj heads).symm

theorem IsSortOf.isFirst (sorted : IsSortOf r xs (m :: ys)) : IsFirst r m xs where
  before := by
    intro y member
    obtain rfl | later := List.mem_cons.mp (sorted.perm.mem_iff.mpr member)
    · exact ranks.refl y
    · exact (List.pairwise_cons.mp sorted.ordered).1 y later
  head := by
    rw [← sorted.stable, peers_cons_of_equiv (Setoid.refl m), List.head?_cons]

section Walk

variable {pick : Interval → Interval → Interval}

/- `picks`: of two intervals the later one is taken only when it comes strictly before. -/
variable (picks : ∀ a b, r a b ∧ pick a b = a ∨ ¬ r a b ∧ pick a b = b)
include picks

/-- What a pick gives up is not the first interval, nor one that stands before its peers. -/
theorem IsFirst.of_pick (first : IsFirst r m (pick x y :: ys)) : IsFirst r m (x :: y :: ys) := by
  obtain ⟨before, head⟩ := first
  rw [List.forall_mem_cons] at before
  obtain ⟨beforePick, beforeRest⟩ := before
  obtain ⟨holds, picked⟩ | ⟨fails, picked⟩ := picks x y
  · rw [picked] at beforePick head
    refine ⟨?_, ?_⟩
    · simp only [List.forall_mem_cons]
      exact ⟨beforePick, ranks.trans beforePick holds, beforeRest⟩
    · by_cases same : m ≈ x
      · rw [peers_cons_of_equiv same] at head ⊢
        exact head
      · have other : ¬ m ≈ y := fun peer =>
          same (ranks.equiv_iff.mpr
            ⟨beforePick, ranks.trans holds (ranks.equiv_iff.mp peer).2⟩)
        rw [peers_cons_of_not_equiv same] at head ⊢
        rwa [peers_cons_of_not_equiv other]
  · rw [picked] at beforePick head
    have behind := (ranks.total x y).resolve_left fails
    have other : ¬ m ≈ x := fun peer =>
      fails (ranks.trans (ranks.equiv_iff.mp peer).2 beforePick)
    refine ⟨?_, ?_⟩
    · simp only [List.forall_mem_cons]
      exact ⟨ranks.trans beforePick behind, beforePick, beforeRest⟩
    · rwa [peers_cons_of_not_equiv other]

theorem isFirst_foldl (x : Interval) (xs : List Interval) :
    IsFirst r (xs.foldl pick x) (x :: xs) := by
  induction xs generalizing x with
  | nil =>
    refine ⟨List.forall_mem_singleton.mpr (ranks.refl x), ?_⟩
    rw [List.foldl_nil, peers_cons_of_equiv (Setoid.refl x), List.head?_cons]
  | cons y ys ih => exact (ih (pick x y)).of_pick ranks picks

/-- The walk ends with the interval that the sorted list begins with. -/
theorem foldl_eq_head? (sorted : IsSortOf r (x :: xs) ys) : some (xs.foldl pick x) = ys.head? := by
  cases ys with
  | nil => exact absurd sorted.perm.length_eq (by simp)
  | cons m ys =>
    exact congrArg some ((isFirst_foldl ranks picks x xs).unique ranks (sorted.isFirst ranks))

end Walk

end Ranked

theorem isSortOf_sortUp (xs : List Interval) : IsSortOf (· ≤ ·) xs (sortUp xs) :=
  isSortOf_mergeSort ranks_le xs

theorem isSortOf_sortDown (xs : List Interval) : IsSortOf (· ≥ ·) xs (sortDown xs) :=
  isSortOf_mergeSort ranks_ge xs

theorem least?_eq_head? (xs : List Interval) : least? xs = (sortUp xs).head? := by
  have sorted := isSortOf_sortUp xs
  cases xs with
  | nil => rw [least?, List.Perm.eq_nil sorted.perm, List.head?_nil]
  | cons x xs =>
    refine foldl_eq_head? ranks_le (fun a b => ?_) sorted
    by_cases before : b < a
    · exact .inr ⟨not_le.mpr before, if_pos before⟩
    · exact .inl ⟨not_lt.mp before, if_neg before⟩

theorem greatest?_eq_head? (xs : List Interval) : greatest? xs = (sortDown xs).head? := by
  have sorted := isSortOf_sortDown xs
  cases xs with
  | nil => rw [greatest?, List.Perm.eq_nil sorted.perm, List.head?_nil]
  | cons x xs =>
    refine foldl_eq_head? ranks_ge (fun a b => ?_) sorted
    by_cases after : a < b
    · exact .inr ⟨not_le.mpr after, if_pos after⟩
    · exact .inl ⟨not_lt.mp after, if_neg after⟩

/-- As many intervals as there are different pairs of instants. -/
theorem distinct_eq_card (xs : List Interval) :
    distinct xs = (xs.map instants).toFinset.card := by
  induction xs with
  | nil => rfl
  | cons x xs ih =>
    have again : (xs.any fun y => decide (x ≈ y)) = true ↔ x.instants ∈ (xs.map instants).toFinset := by
      simp only [List.any_eq_true, decide_eq_true_eq, List.mem_toFinset, List.mem_map]
      exact exists_congr fun y => and_congr_right fun _ => eq_comm
    rw [distinct, List.map_cons, List.toFinset_cons]
    by_cases member : x.instants ∈ (xs.map instants).toFinset
    · rw [if_pos (again.mpr member), Finset.insert_eq_of_mem member, ih]
    · rw [if_neg (mt again.mp member), Finset.card_insert_of_notMem member, ih]

theorem distinct_perm (perm : xs.Perm ys) : distinct xs = distinct ys := by
  rw [distinct_eq_card, distinct_eq_card, List.toFinset_eq_of_perm _ _ (perm.map instants)]

/-- The maximal runs of neighbours that are equivalent. -/
def runs (xs : List Interval) : List (List Interval) :=
  xs.splitBy fun a b => decide (a ≈ b)

theorem runs_cons_of_not_equiv (other : ¬ x ≈ y) :
    runs (x :: y :: ys) = [x] :: runs (y :: ys) := by
  refine List.splitBy_append_cons (l := [x]) ys ?_
  rintro _ ⟨⟩
  exact decide_eq_false other

/-- A peer of the first interval joins its run. -/
theorem length_runs_cons_of_equiv (same : x ≈ y) :
    (runs (x :: y :: ys)).length = (runs (y :: ys)).length := by
  cases split : runs (y :: ys) with
  | nil => exact absurd split (List.splitBy_ne_nil.mpr (List.cons_ne_nil y ys))
  | cons run rest =>
    obtain ⟨whole, filled, chains, apart⟩ := List.splitBy_eq_iff.mp split
    have nonempty : run ≠ [] := fun empty => filled (empty ▸ List.mem_cons_self)
    obtain ⟨z, more, rfl⟩ := List.exists_cons_of_ne_nil nonempty
    rw [List.flatten_cons, List.cons_append, List.cons.injEq] at whole
    obtain ⟨rfl, rfl⟩ := whole
    have longer : runs (x :: y :: (more ++ rest.flatten)) = (x :: y :: more) :: rest := by
      refine List.splitBy_eq_iff.mpr ⟨rfl, ?_, ?_, ?_⟩
      · simpa using filled
      · rw [List.forall_mem_cons] at chains ⊢
        exact ⟨.cons_cons (decide_eq_true same) chains.1, chains.2⟩
      · cases rest with
        | nil => exact .singleton _
        | cons next rest =>
          rw [List.isChain_cons_cons] at apart ⊢
          obtain ⟨⟨_, head, ends⟩, others⟩ := apart
          exact ⟨⟨List.cons_ne_nil _ _, head, by rwa [List.getLast_cons_cons]⟩, others⟩
    rw [longer]
    rfl

/-- In a sorted list the peers of an interval follow it, so it starts a run of its own exactly
when no peer of it comes later. -/
theorem distinct_of_sorted (sorted : xs.Pairwise (· ≤ ·)) : distinct xs = (runs xs).length := by
  induction xs with
  | nil => rfl
  | cons x xs ih =>
    obtain ⟨first, rest⟩ := List.pairwise_cons.mp sorted
    cases xs with
    | nil => rfl
    | cons y ys =>
      have behind := (List.pairwise_cons.mp rest).1
      have again : ((y :: ys).any fun z => decide (x ≈ z)) = true ↔ x ≈ y := by
        simp only [List.any_eq_true, decide_eq_true_eq]
        constructor
        · rintro ⟨z, member, same⟩
          have between : y ≤ z := by
            obtain rfl | later := List.mem_cons.mp member
            · exact le_refl z
            · exact behind z later
          exact equiv_iff_le.mpr
            ⟨first y List.mem_cons_self, le_trans between (equiv_iff_le.mp same).2⟩
        · intro same
          exact ⟨y, List.mem_cons_self, same⟩
      rw [distinct]
      by_cases same : x ≈ y
      · rw [if_pos (again.mpr same), ih rest, length_runs_cons_of_equiv same]
      · rw [if_neg (mt again.mp same), ih rest, runs_cons_of_not_equiv same, List.length_cons]

/-- Of two intervals exactly one comes before the other or they are equivalent, and `compare`
tells which; equivalent ones share their hash. Sorting, upwards or downwards, puts a list in
order and leaves equivalent intervals as they came. The least and the greatest of a list are
the intervals that the two sorted lists begin with, and there are as many different intervals
as maximal runs of equivalent neighbours in the sorted list. -/
theorem total_order_sorted_stably :
    (∀ a b : Interval, (∃! o : Ordering, a.Stands b o) ∧ a.Stands b (a.compare b)) ∧
      (∀ a b c : Interval, a < b → b < c → a < c) ∧
      (∀ a b : Interval, (a ≤ b ↔ a < b ∨ a ≈ b) ∧ (a ≥ b ↔ a > b ∨ a ≈ b)) ∧
      (∀ a b : Interval, a ≈ b → hash a = hash b) ∧
      ∀ xs : List Interval,
        (IsSortOf (· ≤ ·) xs (sortUp xs) ∧ IsSortOf (· ≥ ·) xs (sortDown xs)) ∧
          (least? xs = (sortUp xs).head? ∧ greatest? xs = (sortDown xs).head?) ∧
          distinct xs = (xs.map instants).toFinset.card ∧
          distinct xs = (runs (sortUp xs)).length := by
  refine ⟨fun a b => ⟨existsUnique_stands a b, stands_compare a b⟩, fun _ _ _ => lt_trans, ?le,
    fun _ _ => hash_congr, ?lists⟩
  case le =>
    intro a b
    refine ⟨le_iff_lt_or_equiv, le_iff_lt_or_equiv.trans (or_congr_right ?_)⟩
    exact ⟨Setoid.symm, Setoid.symm⟩
  case lists =>
    intro xs
    refine ⟨⟨isSortOf_sortUp xs, isSortOf_sortDown xs⟩, ⟨least?_eq_head? xs, greatest?_eq_head? xs⟩,
      distinct_eq_card xs, ?_⟩
    rw [← distinct_perm (sortUp_perm xs), distinct_of_sorted (pairwise_sortUp xs)]

/-- A shift between two that start and stop as one, at different offsets. The sorted list keeps
the earlier listed of them first and begins with it. -/
theorem total_order_sorted_stably_of_shifts :
    let east : Interval := ⟨.onLeapDay 9 2, .onLeapDay 14 2⟩
    let late : Interval := ⟨.onLeapDay 13 0, .onLeapDay 18 0⟩
    let west : Interval := ⟨.onLeapDay 7 0, .onLeapDay 13 1⟩
    let shifts := [east, late, west]
    (east ≈ west ∧ east < late) ∧ hash east = hash west ∧ east.peers (sortUp shifts) = [east, west] ∧
      (sortUp shifts).head? = some east ∧ (runs (sortUp shifts)).length = 2 := by
  intro east late west shifts
  obtain ⟨-, -, -, hashes, lists⟩ := total_order_sorted_stably
  obtain ⟨⟨up, -⟩, ⟨least, -⟩, -, runs⟩ := lists shifts
  have same : east ≈ west := by decide
  refine ⟨⟨same, by decide⟩, hashes east west same, ?_, ?_, ?_⟩
  · rw [up.stable]
    decide
  · rw [← least]
    decide
  · rw [← runs]
    decide

end Timespan.Interval
