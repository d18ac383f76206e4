import Timespan.Moment

/-! Writing moments as timestamps. `Moment.chars` shows a moment at its own
offset, all of its digits included: a fraction of six digits when the second is
not whole, and seconds of the offset when its minutes are not. `write` shows the
moment in UTC, and at its own offset only when the calendar in UTC has no such
day. -/
namespace Timespan

/-- A fraction of six digits behind a point, nothing when it is zero. -/
def microsecondChars (n : Nat) : List Char :=
  if n = 0 then [] else '.' :: Numeral.padded 10 6 n

def Date.chars (d : Date) : List Char :=
  Numeral.padded 10 4 d.year ++ '-' :: (Numeral.padded 10 2 d.month ++ '-' :: Numeral.padded 10 2 d.day)

def Clock.chars (c : Clock) : List Char :=
  Numeral.padded 10 2 c.hour ++ ':' :: (Numeral.padded 10 2 c.minute ++ ':' ::
    (Numeral.padded 10 2 c.second ++ microsecondChars c.microsecond))

def DateTime.chars (t : DateTime) : List Char :=
  t.date.chars ++ 'T' :: t.clock.chars

/-- The size of an offset: hours and minutes, and seconds when there are any. -/
def Offset.magnitudeChars (n : Nat) : List Char :=
  Numeral.padded 10 2 (n / 3600000000) ++ ':' :: (Numeral.padded 10 2 (n / 60000000 % 60) ++
    if n % 60000000 = 0 then []
    else ':' :: (Numeral.padded 10 2 (n / 1000000 % 60) ++ microsecondChars (n % 1000000)))

def Offset.chars (o : Offset) : List Char :=
  (if o.micros < 0 then '-' else '+') :: magnitudeChars o.micros.natAbs

def Moment.chars (m : Moment) : List Char :=
  m.wall.chars ++ m.offset.chars

namespace Timestamp

/-- A moment in UTC where the calendar allows it, else at its own offset. -/
def write (m : Moment) : List Char :=
  (m.utc?.getD m).chars

def format (m : Moment) : String :=
  String.ofList (write m)

end Timestamp

end Timespan
