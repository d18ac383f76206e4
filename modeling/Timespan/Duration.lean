import Timespan.Clock
import Timespan.Text.Numeral

/-! Signed lengths of time, in whole microseconds. A length is held as one count
and read off as days, seconds and microseconds, of which only the days may be
negative. The days of a length are limited in magnitude to `Duration.maxDays`;
`Duration.ofMicros` refuses all others and reports the days they would have. -/
namespace Timespan

/-- The refusal of a length with too many days in either direction. -/
structure TooLong where
  days : Int
deriving DecidableEq

/-- A length of time within the limit on days. -/
structure Duration where
  micros : Int
  lower : -999999999 * 86400000000 ≤ micros
  upper : micros < 1000000000 * 86400000000
deriving DecidableEq

/-- The days are named as long as they fit in a word of 32 bits. -/
def TooLong.message (e : TooLong) : String :=
  if -2147483648 ≤ e.days ∧ e.days < 2147483648 then
    "days=" ++ Numeral.text e.days ++ "; must have magnitude <= 999999999"
  else "Python int too large to convert to C int"

namespace Duration

def maxDays : Nat := 999999999

/-- The whole days in a number of microseconds, rounded down. -/
def daysIn (micros : Int) : Int :=
  micros / microsPerDay

def ofMicros (micros : Int) : Except TooLong Duration :=
  if h : (daysIn micros).natAbs ≤ maxDays then
    .ok ⟨micros, by simp only [daysIn, microsPerDay, maxDays] at h; omega,
      by simp only [daysIn, microsPerDay, maxDays] at h; omega⟩
  else
    .error ⟨daysIn micros⟩

instance : Zero Duration := ⟨⟨0, by decide, by decide⟩⟩

def days (d : Duration) : Int :=
  daysIn d.micros

def seconds (d : Duration) : Nat :=
  (d.micros % microsPerDay).toNat / microsPerSecond

def microseconds (d : Duration) : Nat :=
  (d.micros % microsPerDay).toNat % microsPerSecond

/-- What lengths are hashed by. Minus one day takes the hash of minus two, for no
number has the hash −1. -/
def hashKey (d : Duration) : Int × Nat × Nat :=
  (if d.days = -1 then -2 else d.days, d.seconds, d.microseconds)

instance : Hashable Duration := ⟨fun d => hash d.hashKey⟩

end Duration

inductive TimeUnit where
  | second
  | minute
  | hour
  | day
  | week
deriving DecidableEq

namespace TimeUnit

def all : List TimeUnit :=
  [second, minute, hour, day, week]

def name : TimeUnit → String
  | second => "SECOND"
  | minute => "MINUTE"
  | hour => "HOUR"
  | day => "DAY"
  | week => "WEEK"

def duration : TimeUnit → Duration
  | second => ⟨1000000, by decide, by decide⟩
  | minute => ⟨60000000, by decide, by decide⟩
  | hour => ⟨3600000000, by decide, by decide⟩
  | day => ⟨86400000000, by decide, by decide⟩
  | week => ⟨604800000000, by decide, by decide⟩

end TimeUnit

/-- A length as it is asked for: mixed parts of any signs, or a number of units. -/
inductive Amount where
  | parts (days seconds microseconds : Int)
  | units (count : Int) (unit : TimeUnit)
deriving DecidableEq

namespace Amount

def micros : Amount → Int
  | parts days seconds microseconds =>
    days * microsPerDay + seconds * microsPerSecond + microseconds
  | units count unit => count * unit.duration.micros

def duration (a : Amount) : Except TooLong Duration :=
  Duration.ofMicros a.micros

end Amount

end Timespan
