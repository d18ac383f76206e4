import Timespan.Proofs.Interval.Containment

/-! Many intervals intersected two at a time, in any order and any grouping. The result
is the stretch from the latest start to the earliest stop, when it runs forwards. -/
namespace Timespan.Interval

variable {a b u v : Interval} {xs ys : List Interval}

/-- The stretch from the largest start of a list to its smallest stop, empty or not. -/
structure IsOverlap (u : Interval) (xs : List Interval) : Prop where
  start_mem : ∃ x ∈ xs, u.start ≈ x.start
  le_start : ∀ x ∈ xs, x.start ≤ u.start
  stop_mem : ∃ x ∈ xs, u.stop ≈ x.stop
  stop_le : ∀ x ∈ xs, u.stop ≤ x.stop

namespace IsOverlap

theorem singleton (x : Interval) : IsOverlap x [x] where
  start_mem := ⟨x, List.mem_singleton_self x, Setoid.refl x.start⟩
  le_start := List.forall_mem_singleton.mpr (Int.le_refl x.start.instant)
  stop_mem := ⟨x, List.mem_singleton_self x, Setoid.refl x.stop⟩
  stop_le := List.forall_mem_singleton.mpr (Int.le_refl x.stop.instant)

theorem perm (whole : IsOverlap u xs) (perm : xs.Perm ys) : IsOverlap u ys := by
  obtain ⟨starts, le, stops, ge⟩ := whole
  simp only [perm.mem_iff] at starts le stops ge
  exact ⟨starts, le, stops, ge⟩

theorem equiv (first : IsOverlap u xs) (second : IsOverlap v xs) : u ≈ v := by
  obtain ⟨x, memberX, startX⟩ := first.start_mem
  obtain ⟨y, memberY, startY⟩ := second.start_mem
  obtain ⟨z, memberZ, stopZ⟩ := first.stop_mem
  obtain ⟨w, memberW, stopW⟩ := second.stop_mem
  have startLe := second.le_start x memberX
  have startGe := first.le_start y memberY
  have stopGe := second.stop_le z memberZ
  have stopLe := first.stop_le w memberW
  rw [equiv_iff]
  simp only [Moment.le_iff, Moment.equiv_iff] at *
  omega

theorem append (left : IsOverlap u xs) (right : IsOverlap v ys) :
    IsOverlap (u.overlap v) (xs ++ ys) where
  start_mem := by
    by_cases later : u.start < v.start
    · obtain ⟨y, member, same⟩ := right.start_mem
      rw [overlap, Moment.later_of_lt later]
      exact ⟨y, List.mem_append_right xs member, same⟩
    · obtain ⟨x, member, same⟩ := left.start_mem
      rw [overlap, Moment.later_of_le (Moment.not_lt.mp later)]
      exact ⟨x, List.mem_append_left ys member, same⟩
  le_start := by
    intro x member
    obtain inLeft | inRight := List.mem_append.mp member
    · exact Int.le_trans (left.le_start x inLeft) (isMeet_overlap u v).left.1
    · exact Int.le_trans (right.le_start x inRight) (isMeet_overlap u v).right.1
  stop_mem := by
    by_cases earlier : v.stop < u.stop
    · obtain ⟨y, member, same⟩ := right.stop_mem
      rw [overlap, Moment.earlier_of_lt earlier]
      exact ⟨y, List.mem_append_right xs member, same⟩
    · obtain ⟨x, member, same⟩ := left.stop_mem
      rw [overlap, Moment.earlier_of_le (Moment.not_lt.mp earlier)]
      exact ⟨x, List.mem_append_left ys member, same⟩
  stop_le := by
    intro x member
    obtain inLeft | inRight := List.mem_append.mp member
    · exact Int.le_trans (isMeet_overlap u v).left.2 (left.stop_le x inLeft)
    · exact Int.le_trans (isMeet_overlap u v).right.2 (right.stop_le x inRight)

end IsOverlap

theorem exists_isOverlap (nonempty : xs ≠ []) : ∃ u, IsOverlap u xs := by
  induction xs with
  | nil => contradiction
  | cons x xs ih =>
    cases xs with
    | nil => exact ⟨x, .singleton x⟩
    | cons y ys =>
      obtain ⟨u, rest⟩ := ih (List.cons_ne_nil _ _)
      exact ⟨x.overlap u, (IsOverlap.singleton x).append rest⟩

/-- An overlap runs forwards only within intervals that do. -/
theorem proper_of_overlap (forwards : (a.overlap b).start < (a.overlap b).stop) :
    a.start < a.stop ∧ b.start < b.stop := by
  simp only [← exists_mem_iff, mem_overlap_iff] at *
  obtain ⟨m, inA, inB⟩ := forwards
  exact ⟨⟨m, inA⟩, ⟨m, inB⟩⟩

/-- A way of intersecting intervals two at a time. -/
inductive Grouping where
  | single (x : Interval)
  | pair (left right : Grouping)

namespace Grouping

/-- The intervals of a grouping in the order in which they stand. -/
def members : Grouping → List Interval
  | single x => [x]
  | pair left right => left.members ++ right.members

/-- The intersection as it is grouped; none as soon as one within it is missing. -/
def inter? : Grouping → Option Interval
  | single x => some x
  | pair left right => left.inter?.bind fun x => right.inter?.bind fun y => x.inter? y

/-- The overlap of all members, taken as they are grouped. -/
def overlap : Grouping → Interval
  | single x => x
  | pair left right => left.overlap.overlap right.overlap

theorem isOverlap_members (t : Grouping) : IsOverlap t.overlap t.members := by
  induction t with
  | single x => exact .singleton x
  | pair left right first second => exact first.append second

/-- A grouping gives the overlap of its members, or nothing when that does not run forwards. -/
def Reduces (t : Grouping) : Prop :=
  t.inter? = some t.overlap ∨ t.inter? = none ∧ ¬ t.overlap.start < t.overlap.stop

/-- A missing side makes no difference: its overlap does not run forwards in any other. -/
theorem inter?_pair {left right : Grouping} (first : left.Reduces) (second : right.Reduces) :
    (pair left right).inter? = left.overlap.inter? right.overlap := by
  rw [inter?]
  obtain found | ⟨missing, turned⟩ := first
  · obtain found' | ⟨missing', turned⟩ := second
    · rw [found, found', Option.bind_some, Option.bind_some]
    · rw [found, missing', Option.bind_some, Option.bind_none, eq_comm, inter?_eq_none_iff]
      exact fun forwards => turned (proper_of_overlap forwards).2
  · rw [missing, Option.bind_none, eq_comm, inter?_eq_none_iff]
    exact fun forwards => turned (proper_of_overlap forwards).1

theorem reduces (t : Grouping) : t.Reduces := by
  induction t with
  | single x => exact .inl rfl
  | pair left right first second =>
    rw [Reduces, inter?_pair first second, overlap, inter?_eq_some_iff, inter?_eq_none_iff]
    by_cases forwards : (left.overlap.overlap right.overlap).start <
        (left.overlap.overlap right.overlap).stop
    · exact .inl ⟨forwards, rfl⟩
    · exact .inr ⟨forwards, forwards⟩

end Grouping

/-- Two intervals or more, intersected in whatever order and grouping, give the stretch from
the largest start to the smallest stop when it runs forwards, and nothing when it does not. -/
theorem inter?_of_any_grouping (several : 2 ≤ xs.length) :
    ∃ u, IsOverlap u xs ∧ ∀ t : Grouping, t.members.Perm xs →
      Option.Rel (· ≈ ·) t.inter? u.forward? := by
  have nonempty : xs ≠ [] := List.ne_nil_of_length_pos (by omega)
  obtain ⟨u, whole⟩ := exists_isOverlap nonempty
  refine ⟨u, whole, ?_⟩
  intro t perm
  cases t with
  | single x =>
    have one : 1 = xs.length := perm.length_eq
    omega
  | pair left right =>
    have same : left.overlap.overlap right.overlap ≈ u :=
      ((Grouping.isOverlap_members (.pair left right)).perm perm).equiv whole
    rw [Grouping.inter?_pair left.reduces right.reduces, inter?_eq_forward?]
    exact forward?_congr same

/-- Three shifts, two of which start at one instant and stop at another, each time at different
offsets. From the back the offsets of the last are kept. -/
theorem inter?_of_any_grouping_of_shifts :
    let long : Interval := ⟨.onLeapDay 6 0, .onLeapDay 14 0⟩
    let here : Interval := ⟨.onLeapDay 9 1, .onLeapDay 12 0⟩
    let there : Interval := ⟨.onLeapDay 8 0, .onLeapDay 14 2⟩
    let shifts := [long, here, there]
    let t : Grouping := .pair (.single there) (.pair (.single here) (.single long))
    2 ≤ shifts.length ∧ t.members.Perm shifts ∧ t.inter? = some there ∧
      ∃ u, IsOverlap u shifts ∧
        Option.Rel (· ≈ ·) t.inter? u.forward? := by
  intro long here there shifts t
  have several : 2 ≤ shifts.length := by decide
  have perm : t.members.Perm shifts := List.reverse_perm shifts
  obtain ⟨u, whole, gives⟩ := inter?_of_any_grouping several
  exact ⟨several, perm, by decide, u, whole, gives t perm⟩

end Timespan.Interval
