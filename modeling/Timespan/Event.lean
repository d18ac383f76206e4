import Timespan.Interval.Basic
import Timespan.Json.Basic

/-! Events: what has a stamp and lasts for a length of time. The interval of an
event runs from its stamp to the same wall that length later. Whether the wall
stays within the calendar is settled before whether the stamp is a moment. -/
namespace Timespan

class Timed (α : Type) where
  timestamp : α → Stamp
  duration : α → Duration

/-- A stamped record with a length and a payload that nothing here looks into. -/
structure Event where
  timestamp : Stamp
  duration : Duration
  data : List (Text × Json)

instance : Timed Event := ⟨Event.timestamp, Event.duration⟩

instance : Timed (Stamp × Duration) := ⟨Prod.fst, Prod.snd⟩

/-- Events are equivalent when stamp and length are, whatever their payload. -/
instance : Setoid Event where
  r a b := a.timestamp ≈ b.timestamp ∧ a.duration = b.duration
  iseqv :=
    ⟨fun a => ⟨Setoid.refl a.timestamp, rfl⟩, fun h => ⟨Setoid.symm h.1, h.2.symm⟩,
      fun h k => ⟨Setoid.trans h.1 k.1, h.2.trans k.2⟩⟩

instance (a b : Event) : Decidable (a ≈ b) :=
  inferInstanceAs (Decidable (a.timestamp ≈ b.timestamp ∧ _))

instance : Hashable Event := ⟨fun e => mixHash (hash e.timestamp) (hash e.duration)⟩

inductive TimedError where
  | outOfCalendar
  | unzoned (refusal : Unzoned)
deriving DecidableEq

def TimedError.message : TimedError → String
  | outOfCalendar => "date value out of range"
  | unzoned refusal => refusal.message

namespace Interval

/-- The interval that what is timed covers. -/
def ofTimed {α : Type} [Timed α] (x : α) : Except TimedError Interval :=
  match (Timed.timestamp x).add? (Timed.duration x) with
  | none => .error .outOfCalendar
  | some stop =>
    match ofStamps (Timed.timestamp x) stop with
    | .error refusal => .error (.unzoned refusal)
    | .ok interval => .ok interval

end Interval

def Event.interval (e : Event) : Except TimedError Interval :=
  Interval.ofTimed e

/-- How many events two are, equivalent ones counted once. -/
def Event.distinctPair (a b : Event) : Nat :=
  if a ≈ b then 1 else 2

end Timespan
