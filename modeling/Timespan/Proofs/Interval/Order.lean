import Timespan.Interval.Order

/-! The order of intervals by start, then by stop, told by instants. It is total and
transitive, so sorting by it gives a list in which each interval is by every later one. -/
namespace Timespan.Interval

variable {a b c : Interval}

theorem le_iff : a ≤ b ↔ a.start.instant < b.start.instant ∨
    a.start.instant = b.start.instant ∧ a.stop.instant ≤ b.stop.instant := Iff.rfl

theorem le_total (a b : Interval) : a ≤ b ∨ b ≤ a := by
  simp only [le_iff]
  omega

theorem le_trans (first : a ≤ b) (second : b ≤ c) : a ≤ c := by
  simp only [le_iff] at *
  omega

theorem start_le_of_le (ordered : a ≤ b) : a.start ≤ b.start := by
  obtain before | ⟨same, -⟩ := ordered
  · exact Int.le_of_lt before
  · exact Int.le_of_eq same

theorem sortUp_perm (xs : List Interval) : (sortUp xs).Perm xs :=
  List.mergeSort_perm ..

section Decided

variable {r : Interval → Interval → Prop} [DecidableRel r]

theorem decide_trans (trans : ∀ {a b c}, r a b → r b c → r a c) (a b c : Interval)
    (first : decide (r a b) = true) (second : decide (r b c) = true) : decide (r a c) = true :=
  decide_eq_true (trans (of_decide_eq_true first) (of_decide_eq_true second))

theorem decide_total (total : ∀ a b, r a b ∨ r b a) (a b : Interval) :
    (decide (r a b) || decide (r b a)) = true := by
  simpa only [Bool.or_eq_true, decide_eq_true_eq] using total a b

end Decided

theorem pairwise_sortUp (xs : List Interval) : (sortUp xs).Pairwise (· ≤ ·) := by
  have transitive := decide_trans (r := (· ≤ ·)) le_trans
  have total := decide_total (r := (· ≤ ·)) le_total
  exact (List.pairwise_mergeSort transitive total xs).imp of_decide_eq_true

end Timespan.Interval
