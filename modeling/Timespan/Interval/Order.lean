import Timespan.Interval.Basic

/-! Lists of intervals in order. Sorting keeps equivalent intervals in the order
in which they came, also when it sorts downwards. The least and the greatest of a
list are the first of their kind in it. -/
namespace Timespan.Interval

def compare (a b : Interval) : Ordering :=
  if a ≈ b then .eq else if a < b then .lt else .gt

def sortUp (xs : List Interval) : List Interval :=
  xs.mergeSort fun a b => decide (a ≤ b)

def sortDown (xs : List Interval) : List Interval :=
  xs.mergeSort fun a b => decide (b ≤ a)

def least? : List Interval → Option Interval
  | [] => none
  | x :: xs => some (xs.foldl (fun a b => if b < a then b else a) x)

def greatest? : List Interval → Option Interval
  | [] => none
  | x :: xs => some (xs.foldl (fun a b => if a < b then b else a) x)

/-- How many intervals there are, equivalent ones counted once. -/
def distinct : List Interval → Nat
  | [] => 0
  | x :: xs => if xs.any (fun y => decide (x ≈ y)) then distinct xs else distinct xs + 1

/-- The positions of numbered intervals in their sorted order. -/
def sortPositions (xs : List (Nat × Interval)) : List Nat :=
  (xs.mergeSort fun a b => decide (a.2 ≤ b.2)).map Prod.fst

end Timespan.Interval
