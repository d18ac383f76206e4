import Timespan.Calendar
import Timespan.Clock
import Timespan.Duration
import Timespan.Text.Numeral

/-! Dates with a time of day: what a calendar and a clock on the wall show,
wherever the wall is. Wall times are counted in microseconds from the first
midnight of year 1. Adding a length moves along that count and leaves the
calendar when the count does; nothing here knows about offsets. -/
namespace Timespan

/-- The first field of a date and time that no calendar or clock shows. -/
inductive FieldFault where
  | year (n : Nat)
  | month
  | day
  | hour
  | minute
  | second
  | microsecond
deriving DecidableEq

def FieldFault.message : FieldFault → String
  | year n => "year " ++ Numeral.text n ++ " is out of range"
  | month => "month must be in 1..12"
  | day => "day is out of range for month"
  | hour => "hour must be in 0..23"
  | minute => "minute must be in 0..59"
  | second => "second must be in 0..59"
  | microsecond => "microsecond must be in 0..999999"

/-- Numbers for the fields of a date and time, not yet checked. -/
structure Fields where
  year : Nat
  month : Nat
  day : Nat
  hour : Nat
  minute : Nat
  second : Nat
  microsecond : Nat
deriving DecidableEq

namespace Fields

def Valid (f : Fields) : Prop :=
  (1 ≤ f.year ∧ f.year ≤ 9999) ∧ (1 ≤ f.month ∧ f.month ≤ 12) ∧
    (1 ≤ f.day ∧ f.day ≤ monthLength f.year f.month) ∧
    f.hour < 24 ∧ f.minute < 60 ∧ f.second < 60 ∧ f.microsecond < 1000000

instance (f : Fields) : Decidable f.Valid :=
  inferInstanceAs (Decidable (_ ∧ _))

end Fields

structure DateTime where
  date : Date
  clock : Clock
deriving DecidableEq

namespace DateTime

/-- The fields as a date and time, or the first that is out of range. -/
def ofFields (f : Fields) : Except FieldFault DateTime :=
  if hy : 1 ≤ f.year ∧ f.year ≤ 9999 then
    if hm : 1 ≤ f.month ∧ f.month ≤ 12 then
      if hd : 1 ≤ f.day ∧ f.day ≤ monthLength f.year f.month then
        if hh : f.hour < 24 then
          if hn : f.minute < 60 then
            if hs : f.second < 60 then
              if hu : f.microsecond < 1000000 then
                .ok ⟨⟨f.year, f.month, f.day, hy.1, hy.2, hm.1, hm.2, hd.1, hd.2⟩,
                  ⟨f.hour, f.minute, f.second, f.microsecond, hh, hn, hs, hu⟩⟩
              else .error .microsecond
            else .error .second
          else .error .minute
        else .error .hour
      else .error .day
    else .error .month
  else .error (.year f.year)

def fields (t : DateTime) : Fields :=
  ⟨t.date.year, t.date.month, t.date.day,
    t.clock.hour, t.clock.minute, t.clock.second, t.clock.microsecond⟩

/-- The number of microseconds that the calendar spans. -/
def span : Nat := dayCount * microsPerDay

def micros (t : DateTime) : Nat :=
  t.date.ordinal * microsPerDay + t.clock.micros

theorem micros_lt (t : DateTime) : t.micros < span := by
  have := t.date.ordinal_lt; have := t.clock.micros_lt
  simp only [micros, span, dayCount, microsPerDay] at *
  omega

def ofMicros (n : Nat) (h : n < span) : DateTime where
  date := .ofOrdinal (n / microsPerDay) (Nat.div_lt_of_lt_mul (Nat.mul_comm .. ▸ h))
  clock := .ofMicros (n % microsPerDay) (Nat.mod_lt _ (by decide))

theorem micros_ofMicros (n : Nat) (h : n < span) : (ofMicros n h).micros = n := by
  simp only [micros, ofMicros, Date.ordinal_ofOrdinal, Clock.micros_ofMicros]
  exact Nat.div_add_mod' ..

/-- As `ofMicros`, for any count: none before the first midnight or after the
last day. -/
def ofMicros? (n : Int) : Option DateTime :=
  if h : 0 ≤ n ∧ n < span then some (ofMicros n.toNat (by omega)) else none

/-- The date and time a length later, or earlier when the length is negative. -/
def add? (t : DateTime) (d : Duration) : Option DateTime :=
  ofMicros? (t.micros + d.micros)

end DateTime

end Timespan
