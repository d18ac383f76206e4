import Timespan.Moment
import Timespan.Text.Quoted
import Timespan.Timestamp.Spelling

/-! Reading RFC 3339 timestamps. A text is taken apart by its spelling, then the
offset is read, then the day and time, then all is moved to UTC; the first of
these that fails names the error. The hour may be written 24 when nothing follows
it, which is midnight at the end of the day. A second 60 is refused, as no clock
here shows it. -/
namespace Timespan.Timestamp

/-- Why a text is no timestamp, in the order in which reasons are found. -/
inductive Error where
  | notRfc3339 (text : Text)
  | notAscii
  | offsetMinutes
  | offsetHours
  | hour24
  | field (fault : FieldFault)
  | outOfRange (text : Text)
deriving DecidableEq

def Error.message : Error → String
  | notRfc3339 text => "Not an RFC 3339 timestamp: " ++ quote text
  | notAscii => "ISO-8601 strings should contain only ASCII characters"
  | offsetMinutes => "Invalid minutes in time zone offset"
  | offsetHours => "Invalid hours in time zone offset"
  | hour24 => "Hour may only be 24 at 24:00:00.000"
  | field fault => fault.message
  | outOfRange text => "Timestamp out of range: " ++ quote text

/-- A failure below the reader, which it reports by an error of its own. -/
inductive Underlying where
  | encoding
  | overflow
deriving DecidableEq

/-- The failure that an error reports, if it is not the reader's own finding. -/
def Error.underlying? : Error → Option Underlying
  | notAscii => some .encoding
  | outOfRange _ => some .overflow
  | _ => none

/-- The offset that is written. Zero hours and minutes are UTC with either sign. -/
def ZoneSpelling.offset : ZoneSpelling → Except Error Offset
  | zulu _ => .ok .utc
  | shift sign hour minute =>
    if hm : Numeral.value minute ≤ 59 then
      if hh : Numeral.value hour ≤ 23 then
        .ok (.ofClock (sign = '-') (Numeral.value hour) (Numeral.value minute) hh hm)
      else .error .offsetHours
    else .error .offsetMinutes

/-- The day and time that are written, `none` when midnight at the end of the day
is beyond the calendar. -/
def Spelling.wall? (s : Spelling) : Except Error (Option DateTime) :=
  if s.fields.hour = 24 then
    if s.fields.minute = 0 ∧ s.fields.second = 0 ∧ s.fields.microsecond = 0 then
      match DateTime.ofFields { s.fields with hour := 0 } with
      | .ok wall => .ok (wall.add? TimeUnit.day.duration)
      | .error fault => .error (.field fault)
    else .error .hour24
  else
    match DateTime.ofFields s.fields with
    | .ok wall => .ok (some wall)
    | .error fault => .error (.field fault)

/-- The moment that is written, at the offset that is written with it; `none`
beyond the calendar. -/
def Spelling.moment? (s : Spelling) : Except Error (Option Moment) :=
  match s.zone.offset with
  | .error e => .error e
  | .ok offset =>
    match s.wall? with
    | .error e => .error e
    | .ok wall => .ok (wall.map (⟨·, offset⟩))

/-- The moment that characters show, in UTC. -/
def read (text : List Char) : Except Error Moment :=
  match Spelling.read? text with
  | none => .error (.notRfc3339 (.ofChars text))
  | some s =>
    if text.all (·.toNat < 128) then
      match s.moment? with
      | .error e => .error e
      | .ok moment =>
        match moment.bind Moment.utc? with
        | some utc => .ok utc
        | none => .error (.outOfRange (.ofChars text))
    else .error .notAscii

/-- As `read`, for any text: one with surrogates is no timestamp. -/
def parse (text : Text) : Except Error Moment :=
  match text.chars? with
  | some chars => read chars
  | none => .error (.notRfc3339 text)

end Timespan.Timestamp
