import Timespan.Fault
import Timespan.Interval.Algebra
import Timespan.Interval.Order

/-! Worksheets: runs of steps over numbered slots. Every step fills the next slot
with the interval that it makes, or leaves it empty when it makes none. A step
that names an empty slot is skipped, one that fails answers its fault, and the
run goes on with the next. -/
namespace Timespan

/-- A step; its numbers name earlier slots. -/
inductive Step where
  | parse (text : Text)
  | new (start stop : Stamp)
  | event (timestamp : Stamp) (amount : Amount)
  | gap (a b : Nat)
  | union (a b : Nat)
  | intersection (a b : Nat)
  | copy (a : Nat)
  | reparse (a : Nat)
  | edges (a b : Nat)
  | intersects (a b : Nat)
  | adjacent (a b : Nat)
  | contains (a b : Nat)
  | compare (a b : Nat)
  | holds (a : Nat) (stamp : Stamp)
  | sorted
deriving DecidableEq

inductive Answer where
  | interval (made : Option Interval)
  | truth (value : Bool)
  | order (value : Ordering)
  | sorted (positions : List Nat) (distinct : Nat)
  | skipped
  | fault (fault : Fault)
deriving DecidableEq

/-- What a step leaves in its slot. -/
def Answer.slot : Answer → Option Interval
  | interval made => made
  | _ => none

abbrev Worksheet := List (Option Interval)

namespace Worksheet

def slot? (w : Worksheet) (n : Nat) : Option Interval :=
  w[n]?.join

def filled (w : Worksheet) : List (Nat × Interval) :=
  w.zipIdx.filterMap fun (slot, n) => slot.map fun x => (n, x)

def about (w : Worksheet) (a : Nat) (f : Interval → Answer) : Answer :=
  match w.slot? a with
  | some x => f x
  | none => .skipped

def between (w : Worksheet) (a b : Nat) (f : Interval → Interval → Answer) : Answer :=
  w.about a fun x => w.about b fun y => f x y

/-- The answer of a step over the slots filled before it. -/
def answer (w : Worksheet) : Step → Answer
  | .parse text =>
    match Interval.parse text with
    | .ok x => .interval (some x)
    | .error e => .fault (.interval e)
  | .new start stop =>
    match Interval.ofStamps start stop with
    | .ok x => .interval (some x)
    | .error e => .fault (.unzoned e)
  | .event timestamp amount =>
    match amount.duration with
    | .error e => .fault (.tooLong e)
    | .ok duration =>
      match Interval.ofTimed (timestamp, duration) with
      | .ok x => .interval (some x)
      | .error e => .fault (.ofTimed e)
  | .gap a b => w.between a b fun x y => .interval (x.gap? y)
  | .union a b => w.between a b fun x y => .interval (x.union? y)
  | .intersection a b => w.between a b fun x y => .interval (x.inter? y)
  | .copy a => w.about a fun x => .interval (some x)
  | .reparse a => w.about a fun x =>
    match Interval.parse x.toText with
    | .ok y => .interval (some y)
    | .error e => .fault (.interval e)
  | .edges a b => w.between a b fun x y => .interval (some (x.edges y))
  | .intersects a b => w.between a b fun x y => .truth (decide (x.Intersects y))
  | .adjacent a b => w.between a b fun x y => .truth (decide (x.Adjacent y))
  | .contains a b => w.between a b fun x y => .truth (decide (x.Contains y))
  | .compare a b => w.between a b fun x y => .order (x.compare y)
  | .holds a stamp => w.about a fun x =>
    match x.holds? stamp with
    | some held => .truth held
    | none => .fault .incomparable
  | .sorted => .sorted (Interval.sortPositions w.filled) (Interval.distinct (w.filled.map Prod.snd))

/-- The answers of a run of steps, each over the slots filled before it. -/
def run (w : Worksheet) : List Step → List Answer
  | [] => []
  | step :: steps => w.answer step :: run (w ++ [(w.answer step).slot]) steps

end Worksheet

end Timespan
