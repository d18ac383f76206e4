import Timespan.Interchange.Model

/-! Activities: a name and the period in which it goes on. -/
namespace Timespan

structure Activity where
  name : Text
  period : Interval

namespace Activity

/-- Activities are equivalent when names are equal and periods equivalent. -/
instance : Setoid Activity where
  r a b := a.name = b.name ∧ a.period ≈ b.period
  iseqv :=
    ⟨fun a => ⟨rfl, Setoid.refl a.period⟩, fun h => ⟨h.1.symm, Setoid.symm h.2⟩,
      fun h k => ⟨h.1.trans k.1, Setoid.trans h.2 k.2⟩⟩

instance (a b : Activity) : Decidable (a ≈ b) :=
  inferInstanceAs (Decidable (_ ∧ a.period ≈ b.period))

def ofMembers (member : String → Option Candidate) : Report (List Issue) Activity :=
  ((Candidate.required Candidate.asText "name" (member "name")).both
    (Candidate.required Candidate.asInterval "period" (member "period"))).map
    fun (name, period) => ⟨name, period⟩

def toJson (a : Activity) : Json :=
  .record [("name", .string a.name), ("period", a.period.toJson)]

def properties : Json :=
  .record
    [("name", .record [("title", .ofString "Name"), ("type", .ofString "string")]),
      ("period", .record (Interval.schema ++ [("title", .ofString "Period")]))]

instance : Model Activity where
  modelName := "Activity"
  ofMembers := ofMembers
  toJson := toJson
  properties := properties

end Activity

end Timespan
