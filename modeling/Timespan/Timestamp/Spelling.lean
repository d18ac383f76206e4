import Timespan.DateTime
import Timespan.Text.DecimalDigit

/-! Timestamps as they are written: the digits of each field, the mark between
date and time, the fraction of a second if there is one, and the offset from UTC.
A spelling is well formed when its fields have the digits that RFC 3339 gives
them, of whatever script; that they name a day, a time and an offset is not asked
here. `Spelling.read?` takes a whole text and finds its spelling, which is the
only well-formed one with that text. -/
namespace Timespan.Timestamp

/-- An offset as written: a letter for UTC, or a sign with hours and minutes. -/
inductive ZoneSpelling where
  | zulu (letter : Char)
  | shift (sign : Char) (hour minute : List Char)
deriving DecidableEq

structure Spelling where
  year : List Char
  month : List Char
  day : List Char
  mark : Char
  hour : List Char
  minute : List Char
  second : List Char
  fraction : Option (List Char)
  zone : ZoneSpelling
deriving DecidableEq

def IsField (width : Nat) (digits : List Char) : Prop :=
  digits.length = width ∧ digits.all isDecimalDigit

instance (width : Nat) (digits : List Char) : Decidable (IsField width digits) :=
  inferInstanceAs (Decidable (_ ∧ _))

/-- A digit field at the front of a text, and what follows it. -/
def takeField? (width : Nat) (text : List Char) : Option (List Char × List Char) :=
  if IsField width (text.take width) then some (text.take width, text.drop width) else none

/-- What follows a mark at the front of a text. -/
def dropMark? (mark : Char) : List Char → Option (List Char)
  | [] => none
  | c :: rest => if c = mark then some rest else none

namespace ZoneSpelling

def chars : ZoneSpelling → List Char
  | zulu letter => [letter]
  | shift sign hour minute => sign :: (hour ++ ':' :: minute)

def WellFormed : ZoneSpelling → Prop
  | zulu letter => letter = 'Z' ∨ letter = 'z'
  | shift sign hour minute => (sign = '+' ∨ sign = '-') ∧ IsField 2 hour ∧ IsField 2 minute

def read? : List Char → Option ZoneSpelling
  | [] => none
  | c :: rest =>
    if c = 'Z' ∨ c = 'z' then
      if rest = [] then some (zulu c) else none
    else if c = '+' ∨ c = '-' then do
      let (hour, rest) ← takeField? 2 rest
      let rest ← dropMark? ':' rest
      let (minute, rest) ← takeField? 2 rest
      if rest = [] then some (shift c hour minute) else none
    else none

end ZoneSpelling

def fractionChars : Option (List Char) → List Char
  | none => []
  | some digits => '.' :: digits

/-- A fraction at the front of a text, if a point is, and what follows it. A
point without digits is no fraction. -/
def takeFraction? : List Char → Option (Option (List Char) × List Char)
  | '.' :: rest =>
    if rest.takeWhile isDecimalDigit = [] then none
    else some (some (rest.takeWhile isDecimalDigit), rest.dropWhile isDecimalDigit)
  | text => some (none, text)

namespace Spelling

def chars (s : Spelling) : List Char :=
  s.year ++ '-' :: (s.month ++ '-' :: (s.day ++ s.mark ::
    (s.hour ++ ':' :: (s.minute ++ ':' :: (s.second ++ (fractionChars s.fraction ++ s.zone.chars))))))

/-- Each field has its digits, and the marks are those of a timestamp. -/
structure WellFormed (s : Spelling) : Prop where
  year : IsField 4 s.year
  month : IsField 2 s.month
  day : IsField 2 s.day
  mark : s.mark = 'T' ∨ s.mark = 't' ∨ s.mark = ' '
  hour : IsField 2 s.hour
  minute : IsField 2 s.minute
  second : IsField 2 s.second
  fraction : ∀ digits, s.fraction = some digits → digits ≠ [] ∧ digits.all isDecimalDigit
  zone : s.zone.WellFormed

/-- The mark between date and time at the front of a text, and what follows it. -/
def takeMark? : List Char → Option (Char × List Char)
  | [] => none
  | c :: rest => if c = 'T' ∨ c = 't' ∨ c = ' ' then some (c, rest) else none

def read? (text : List Char) : Option Spelling := do
  let (year, rest) ← takeField? 4 text
  let rest ← dropMark? '-' rest
  let (month, rest) ← takeField? 2 rest
  let rest ← dropMark? '-' rest
  let (day, rest) ← takeField? 2 rest
  let (mark, rest) ← takeMark? rest
  let (hour, rest) ← takeField? 2 rest
  let rest ← dropMark? ':' rest
  let (minute, rest) ← takeField? 2 rest
  let rest ← dropMark? ':' rest
  let (second, rest) ← takeField? 2 rest
  let (fraction, rest) ← takeFraction? rest
  let zone ← ZoneSpelling.read? rest
  return { year, month, day, mark, hour, minute, second, fraction, zone }

/-- The microseconds that a fraction shows: its first six digits, and zeros for
those that are missing. Further digits are dropped, not rounded. -/
def fractionMicros : Option (List Char) → Nat
  | none => 0
  | some digits => Numeral.value ((digits ++ List.replicate 6 '0').take 6)

def fields (s : Spelling) : Fields where
  year := Numeral.value s.year
  month := Numeral.value s.month
  day := Numeral.value s.day
  hour := Numeral.value s.hour
  minute := Numeral.value s.minute
  second := Numeral.value s.second
  microsecond := fractionMicros s.fraction

end Spelling

end Timespan.Timestamp
