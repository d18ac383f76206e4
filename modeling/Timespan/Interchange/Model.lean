import Timespan.Interchange.Issue
import Timespan.Json.Writer

/-! Records with interval fields, read from JSON values or JSON text and written
back. A model takes its members by name, so members that it does not know are
passed over. JSON text comes from outside, and is read in the strict dialect.
Writing a record gives every interval as text; reading it back succeeds when every
interval has a text that can be read. -/
namespace Timespan

namespace Candidate

def required {α : Type} (take : Candidate → Report (List Issue) α) (name : String) :
    Option Candidate → Report (List Issue) α
  | none => (Report.refuse .missing).within (.field name)
  | some c => (take c).within (.field name)

def asText : Candidate → Report (List Issue) Text
  | json (.string s) => .ok s
  | _ => .refuse .notString

/-- The value as an interval, with the refusal as an issue. -/
def asInterval (c : Candidate) : Report (List Issue) Interval :=
  match Interval.ofCandidate c with
  | ⟨log, .ok x⟩ => ⟨log, .ok x⟩
  | ⟨log, .error e⟩ => ⟨log, .error [⟨[], .interval e⟩]⟩

/-- As `asInterval`, with null for no interval. -/
def asInterval? : Candidate → Report (List Issue) (Option Interval)
  | json .null => .ok none
  | c => c.asInterval.map some

def asIntervals : Candidate → Report (List Issue) (List Interval)
  | json (.array items) => .all 0 (items.map fun item => (json item).asInterval)
  | _ => .refuse .notList

end Candidate

/-- Records that are read from and written to JSON. -/
class Model (α : Type) extends Setoid α where
  modelName : String
  /-- A record from the values offered for its members. -/
  ofMembers : (String → Option Candidate) → Report (List Issue) α
  toJson : α → Json
  properties : Json

namespace Model

variable {α : Type} [Model α]

/-- A record from a JSON value, which must be an object. -/
def ofJson : Json → Report (List Issue) α
  | .object members => ofMembers fun name => (Json.member? name members).map .json
  | _ => .refuse (.notObject (modelName α))

def ofText (dialect : Json.Dialect) (text : String) : Report (List Issue) α :=
  match Json.parse dialect text with
  | .error e => .refuse (.notJson e)
  | .ok value => ofJson value

/-- A record from a JSON value, or from the text of that value in a dialect. -/
def validateIn (dialect : Json.Dialect) (source : Source) (value : Json) :
    Report (List Issue) α :=
  match source with
  | .value => ofJson value
  | .text => ofText dialect (value.text .spaced)

def validate (source : Source) (value : Json) : Report (List Issue) α :=
  validateIn .strict source value

def toText (x : α) : Except Unencodable String :=
  match (toJson x).unencodable? with
  | some e => .error e
  | none => .ok ((toJson x).text .compact)

/-- What reading the record's own text gives. -/
def restore (x : α) : Except Unencodable (Report (List Issue) α) :=
  (toText x).map (ofText .strict)

end Model

namespace Interval

def toJson (x : Interval) : Json :=
  .string x.toText

def schema : List (String × Json) :=
  [("type", .ofString "string"), ("format", .ofString "time-interval"),
    ("examples", .array [.ofString "2000-01-01T00:00:00+00:00/2000-01-02T00:00:00+00:00"])]

end Interval

end Timespan
