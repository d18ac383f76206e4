import Timespan.Interval.Basic
import Timespan.Timestamp.Printer
import Timespan.Timestamp.Reader

/-! Intervals as text: two timestamps with a slash between them. Reading wants one
slash and no more, then the start, then the stop, and reports the first that is
wrong together with the whole text. Writing never fails. -/
namespace Timespan.Interval

def separator : Char := '/'

inductive TextError where
  | separators (text : Text) (count : Nat)
  | edge (text : Text) (edge : Edge) (cause : Timestamp.Error)
deriving DecidableEq

/-- What stands behind the refusal of an interval's text. -/
inductive Cause where
  | timestamp (error : Timestamp.Error)
  | underlying (failure : Timestamp.Underlying)
deriving DecidableEq

namespace TextError

def text : TextError → Text
  | separators text _ => text
  | edge text _ _ => text

def cause? : TextError → Option Timestamp.Error
  | separators _ _ => none
  | edge _ _ cause => some cause

/-- All that stands behind the error, the nearest first. -/
def causes (e : TextError) : List Cause :=
  match e.cause? with
  | none => []
  | some error => .timestamp error :: (error.underlying?.map .underlying).toList

def reason : TextError → String
  | separators _ count =>
    "expected exactly one '/', got " ++ Numeral.text count
  | edge _ _ cause => cause.message

def message (e : TextError) : String :=
  "Invalid time interval " ++ quote e.text ++ ": " ++ e.reason

end TextError

def parse (text : Text) : Except TextError Interval :=
  if text.count (.ofChar separator) = 1 then
    match Timestamp.parse (text.takeWhile (· ≠ .ofChar separator)) with
    | .error e => .error (.edge text .start e)
    | .ok start =>
      match Timestamp.parse ((text.dropWhile (· ≠ .ofChar separator)).drop 1) with
      | .error e => .error (.edge text .stop e)
      | .ok stop => .ok ⟨start, stop⟩
  else .error (.separators text (text.count (.ofChar separator)))

def write (x : Interval) : List Char :=
  Timestamp.write x.start ++ separator :: Timestamp.write x.stop

def format (x : Interval) : String :=
  String.ofList (write x)

/-- The interval as a text that `parse` takes. -/
def toText (x : Interval) : Text :=
  .ofChars (write x)

end Timespan.Interval
