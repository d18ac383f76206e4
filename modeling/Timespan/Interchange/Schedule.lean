import Timespan.Interchange.Model

/-! Schedules: a row of slots, and an interval to fall back on if there is one. A
fallback that is not given counts as null. -/
namespace Timespan

structure Schedule where
  slots : List Interval
  fallback : Option Interval

namespace Schedule

/-- Schedules are equivalent when their intervals are, one by one. -/
instance : Setoid Schedule where
  r a b := a.slots.map Interval.instants = b.slots.map Interval.instants ∧
    a.fallback.map Interval.instants = b.fallback.map Interval.instants
  iseqv :=
    ⟨fun _ => ⟨rfl, rfl⟩, fun h => ⟨h.1.symm, h.2.symm⟩,
      fun h k => ⟨h.1.trans k.1, h.2.trans k.2⟩⟩

instance (a b : Schedule) : Decidable (a ≈ b) :=
  inferInstanceAs (Decidable (_ ∧ _))

def ofMembers (member : String → Option Candidate) : Report (List Issue) Schedule :=
  ((Candidate.required Candidate.asIntervals "slots" (member "slots")).both
    (Candidate.required Candidate.asInterval? "fallback"
      ((member "fallback").or (some (.json .null))))).map
    fun (slots, fallback) => ⟨slots, fallback⟩

def toJson (s : Schedule) : Json :=
  .record [("slots", .array (s.slots.map Interval.toJson)),
    ("fallback", (s.fallback.map Interval.toJson).getD .null)]

def properties : Json :=
  .record
    [("slots", .record
        [("items", .record Interval.schema), ("title", .ofString "Slots"),
          ("type", .ofString "array")]),
      ("fallback", .record
        [("anyOf", .array [.record Interval.schema, .record [("type", .ofString "null")]]),
          ("default", .null), ("title", .ofString "Fallback")])]

instance : Model Schedule where
  modelName := "Schedule"
  ofMembers := ofMembers
  toJson := toJson
  properties := properties

end Schedule

end Timespan
