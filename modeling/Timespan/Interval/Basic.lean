import Timespan.Literal

/-! Intervals of time. An interval holds two moments as they were given and takes
in the instants from its start up to, but not at, its stop. Nothing orders the
two: an interval whose stop is not after its start is kept, and takes in nothing.
Intervals are equivalent when both ends are, whatever their offsets; they are
ordered by start, then by stop. -/
namespace Timespan

structure Interval where
  start : Moment
  stop : Moment
deriving DecidableEq

inductive Edge where
  | start
  | stop
deriving DecidableEq

def Edge.name : Edge → String
  | start => "start"
  | stop => "end"

/-- The refusal of an end that is no moment. -/
structure Unzoned where
  edge : Edge
  stamp : Stamp
deriving DecidableEq

def Unzoned.message (e : Unzoned) : String :=
  "TimeInterval " ++ e.edge.name ++ " must be a timezone-aware datetime.\nGot naive datetime: " ++
    e.stamp.literal ++ "\nHint: Add timezone info:\n  dt = datetime(..., tzinfo=timezone.utc)"

namespace Interval

/-- The interval between two stamps, which must both be moments. -/
def ofStamps (start stop : Stamp) : Except Unzoned Interval :=
  match start.moment? with
  | none => .error ⟨.start, start⟩
  | some first =>
    match stop.moment? with
    | none => .error ⟨.stop, stop⟩
    | some last => .ok ⟨first, last⟩

/-- An interval with some of its ends exchanged. -/
def replace (x : Interval) (start stop : Option Stamp) : Except Unzoned Interval :=
  ofStamps (start.getD x.start.stamp) (stop.getD x.stop.stamp)

/-- The length from start to stop, negative when the stop comes first. -/
def duration (x : Interval) : Duration :=
  x.start.durationTo x.stop

def instants (x : Interval) : Int × Int :=
  (x.start.instant, x.stop.instant)

instance : Setoid Interval where
  r a b := a.instants = b.instants
  iseqv := ⟨fun _ => rfl, Eq.symm, Eq.trans⟩

theorem equiv_iff {a b : Interval} :
    a ≈ b ↔ a.start.instant = b.start.instant ∧ a.stop.instant = b.stop.instant :=
  Iff.of_eq (Prod.mk.injEq ..)

instance (a b : Interval) : Decidable (a ≈ b) :=
  inferInstanceAs (Decidable (a.instants = b.instants))

instance : LT Interval := ⟨fun a b => a.start < b.start ∨ a.start ≈ b.start ∧ a.stop < b.stop⟩

instance : LE Interval := ⟨fun a b => a.start < b.start ∨ a.start ≈ b.start ∧ a.stop ≤ b.stop⟩

instance (a b : Interval) : Decidable (a < b) :=
  inferInstanceAs (Decidable (_ ∨ _))

instance (a b : Interval) : Decidable (a ≤ b) :=
  inferInstanceAs (Decidable (_ ∨ _))

instance : Hashable Interval := ⟨fun x => hash x.instants⟩

/-- An interval takes in the moments from its start to before its stop. -/
instance : Membership Moment Interval := ⟨fun x m => x.start ≤ m ∧ m < x.stop⟩

instance (m : Moment) (x : Interval) : Decidable (m ∈ x) :=
  inferInstanceAs (Decidable (_ ∧ _))

/-- Whether the interval takes in a stamp; none for a stamp that is no moment. -/
def holds? (x : Interval) (s : Stamp) : Option Bool :=
  s.moment?.map fun m => decide (m ∈ x)

/-- The interval as the expression that builds it. -/
def literal (x : Interval) : String :=
  "TimeInterval(start=" ++ x.start.stamp.literal ++ ", end=" ++ x.stop.stamp.literal ++ ")"

end Interval

end Timespan
