import Timespan.Interchange.Field
import Timespan.Text.Utf8

/-! Everything that a single request on timestamps, intervals and events may be
refused for. -/
namespace Timespan

inductive Fault where
  | timestamp (error : Timestamp.Error)
  | interval (error : Interval.TextError)
  | unzoned (error : Unzoned)
  | outOfCalendar
  | tooLong (error : TooLong)
  | incomparable
  | fixedField (name : Text)
  | field (error : FieldError)
  | unencodable (error : Unencodable)
  | unwritable (error : Unencodable)
deriving DecidableEq

namespace Fault

def ofTimed : TimedError → Fault
  | .outOfCalendar => outOfCalendar
  | .unzoned refusal => unzoned refusal

def message : Fault → String
  | timestamp error => error.message
  | interval error => error.message
  | unzoned error => error.message
  | outOfCalendar => "date value out of range"
  | tooLong error => error.message
  | incomparable => "can't compare offset-naive and offset-aware datetimes"
  | fixedField name => "cannot assign to field " ++ quote name
  | field error => error.message
  | unencodable error => error.message
  | unwritable error => "Error serializing to JSON: UnicodeEncodeError: " ++ error.message

end Fault

end Timespan
