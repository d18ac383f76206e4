import Timespan.Stamp

/-! Stamps and offsets as the expressions that build them. Trailing zeros are left
out: seconds and microseconds of a stamp when nothing follows them, and the parts
of a length that are zero. UTC has a name of its own. -/
namespace Timespan

/-- A length by its parts that are not zero. -/
def Duration.literal (d : Duration) : String :=
  let parts := [("days", d.days), ("seconds", (d.seconds : Int)), ("microseconds", (d.microseconds : Int))]
  let named := (parts.filter fun part => part.2 ≠ 0).map fun part =>
    part.1 ++ "=" ++ Numeral.text part.2
  "datetime.timedelta(" ++ (if named = [] then "0" else ", ".intercalate named) ++ ")"

def Offset.duration (o : Offset) : Duration :=
  ⟨o.micros, by have := o.lower; omega, by have := o.upper; omega⟩

def Offset.literal (o : Offset) : String :=
  if o = .utc then "datetime.timezone.utc"
  else "datetime.timezone(" ++ o.duration.literal ++ ")"

/-- The parts of a stamp that a zone adds. -/
def Zone.literals : Zone → List String
  | absent => []
  | unknown => ["tzinfo=UnknownZone()"]
  | fixed offset => ["tzinfo=" ++ offset.literal]

/-- A clock by its fields, without seconds and microseconds when they are zero. -/
def Clock.literals (c : Clock) : List String :=
  let fields := if c.microsecond ≠ 0 then [c.hour, c.minute, c.second, c.microsecond]
    else if c.second ≠ 0 then [c.hour, c.minute, c.second]
    else [c.hour, c.minute]
  fields.map fun n : Nat => Numeral.text n

def Date.literals (d : Date) : List String :=
  [Numeral.text d.year, Numeral.text d.month, Numeral.text d.day]

def Stamp.literal (s : Stamp) : String :=
  "datetime.datetime(" ++
    ", ".intercalate (s.wall.date.literals ++ s.wall.clock.literals ++ s.zone.literals) ++ ")"

end Timespan
