import Timespan.Duration

/-! Lengths added to and taken from each other. The result is the length of the sum or
difference of the counts, and there is one as long as its days are within the limit. -/
namespace Timespan

attribute [ext] Duration

namespace Duration

variable {a b c : Duration}

/-- One length after another. -/
def add (a b : Duration) : Except TooLong Duration :=
  ofMicros (a.micros + b.micros)

/-- What is left of one length without another. -/
def sub (a b : Duration) : Except TooLong Duration :=
  ofMicros (a.micros - b.micros)

theorem ofMicros_micros (d : Duration) : ofMicros d.micros = .ok d := by
  have lower := d.lower
  have upper := d.upper
  have days : (daysIn d.micros).natAbs ≤ maxDays := by
    simp only [daysIn, microsPerDay, maxDays]
    omega
  exact dif_pos days

theorem add_eq_ok_of_micros (h : c.micros = a.micros + b.micros) : add a b = .ok c := by
  rw [add, ← h, ofMicros_micros]

theorem sub_eq_ok_of_micros (h : c.micros = a.micros - b.micros) : sub a b = .ok c := by
  rw [sub, ← h, ofMicros_micros]

end Duration

end Timespan
