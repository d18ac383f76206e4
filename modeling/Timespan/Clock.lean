/-! Times of day to the microsecond. A day has 24 hours of 60 minutes of 60
seconds: a leap second and an hour 24 have no place here. `Clock.micros` counts
from midnight and `Clock.ofMicros` divides the count back into fields. -/
namespace Timespan

def microsPerSecond : Nat := 1000000

def microsPerDay : Nat := 86400000000

structure Clock where
  hour : Nat
  minute : Nat
  second : Nat
  microsecond : Nat
  hour_lt : hour < 24
  minute_lt : minute < 60
  second_lt : second < 60
  microsecond_lt : microsecond < 1000000
deriving DecidableEq

namespace Clock

def micros (c : Clock) : Nat :=
  ((c.hour * 60 + c.minute) * 60 + c.second) * microsPerSecond + c.microsecond

def ofMicros (n : Nat) (h : n < microsPerDay) : Clock where
  hour := n / 3600000000
  minute := n / 60000000 % 60
  second := n / 1000000 % 60
  microsecond := n % 1000000
  hour_lt := by simp only [microsPerDay] at h; omega
  minute_lt := Nat.mod_lt _ (by decide)
  second_lt := Nat.mod_lt _ (by decide)
  microsecond_lt := Nat.mod_lt _ (by decide)

theorem micros_lt (c : Clock) : c.micros < microsPerDay := by
  have := c.hour_lt; have := c.minute_lt; have := c.second_lt; have := c.microsecond_lt
  simp only [micros, microsPerDay, microsPerSecond]
  omega

theorem micros_ofMicros (n : Nat) (h : n < microsPerDay) : (ofMicros n h).micros = n := by
  simp only [micros, ofMicros, microsPerSecond]
  omega

theorem ofMicros_micros (c : Clock) : ofMicros c.micros c.micros_lt = c := by
  have := c.hour_lt; have := c.minute_lt; have := c.second_lt; have := c.microsecond_lt
  cases c
  simp only [ofMicros, micros, microsPerSecond, mk.injEq] at *
  omega

end Clock

end Timespan
