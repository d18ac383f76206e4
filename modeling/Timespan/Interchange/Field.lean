import Timespan.Event
import Timespan.Interval.Text

/-! Fields that hold an interval. A field is offered a value of any kind: an
interval is taken as it is, a text is read, and everything else is refused by the
name of its kind. Each text that cannot be read is put on a log besides. -/
namespace Timespan

inductive Candidate where
  | json (value : Json)
  | interval (value : Interval)
  | stamp (value : Stamp)
  | duration (value : Duration)
  | event (value : Event)
  | bytes (value : ByteArray)

def Candidate.typeName : Candidate → String
  | json .null => "NoneType"
  | json (.bool _) => "bool"
  | json (.number _) => "int"
  | json (.decimal _) => "float"
  | json (.string _) => "str"
  | json (.array _) => "list"
  | json (.object _) => "dict"
  | interval _ => "TimeInterval"
  | stamp _ => "datetime"
  | duration _ => "timedelta"
  | event _ => "Event"
  | bytes _ => "bytes"

def Interval.expectedFormat : String :=
  "a string in ISO time-interval format (such as 2000-01-01T00:00:00+01:00/2001-02-02T01:01:01+01:00)"

inductive FieldError where
  | kind (typeName : String)
  | text (cause : Interval.TextError)
deriving DecidableEq

def FieldError.message : FieldError → String
  | kind typeName => "invalid type " ++ typeName ++ ", expected " ++ Interval.expectedFormat
  | text cause => "invalid value " ++ quote cause.text ++ ", expected " ++ Interval.expectedFormat

/-- A result, and the texts that were refused on the way to it. -/
structure Report (ε α : Type) where
  log : List Interval.TextError
  result : Except ε α

namespace Report

def ok {ε α : Type} (value : α) : Report ε α :=
  ⟨[], .ok value⟩

def fail {ε α : Type} (error : ε) : Report ε α :=
  ⟨[], .error error⟩

end Report

/-- The interval that a field takes from a value. -/
def Interval.ofCandidate : Candidate → Report FieldError Interval
  | .interval x => .ok x
  | .json (.string s) =>
    match Interval.parse s with
    | .ok x => .ok x
    | .error e => ⟨[e], .error (.text e)⟩
  | c => .fail (.kind c.typeName)

end Timespan
