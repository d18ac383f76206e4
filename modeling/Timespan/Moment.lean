import Timespan.DateTime

/-! Moments: a wall time together with the wall's offset from UTC. The offset is
kept as it was given and says nothing about which moment it is: that is the
instant alone, the microseconds since the calendar's first midnight in UTC. Two
moments are equivalent (`≈`) when they have the same instant, and the order of
moments is the order of their instants. An instant may lie outside the calendar
by less than a day; such a moment has no form in UTC. Offsets are fixed: zones
whose offset changes over time, and the flag that tells the two passes of a
repeated hour apart, are not modeled. -/
namespace Timespan

/-- A difference from UTC of less than one day either way. -/
structure Offset where
  micros : Int
  lower : -86400000000 < micros
  upper : micros < 86400000000
deriving DecidableEq

namespace Offset

def utc : Offset := ⟨0, by decide, by decide⟩

def ofMicros? (n : Int) : Option Offset :=
  if h : -86400000000 < n ∧ n < 86400000000 then some ⟨n, h.1, h.2⟩ else none

/-- The microseconds of hours and minutes, either way from UTC. -/
def shift (west : Bool) (hour minute : Nat) : Int :=
  if west then -((hour * 60 + minute) * 60000000) else (hour * 60 + minute) * 60000000

theorem shift_bounds (west : Bool) {hour minute : Nat} (hh : hour ≤ 23) (hm : minute ≤ 59) :
    -86400000000 < shift west hour minute ∧ shift west hour minute < 86400000000 := by
  simp only [shift]
  split <;> omega

def ofClock (west : Bool) (hour minute : Nat) (hh : hour ≤ 23) (hm : minute ≤ 59) : Offset :=
  ⟨shift west hour minute, (shift_bounds west hh hm).1, (shift_bounds west hh hm).2⟩

def WholeMinutes (o : Offset) : Prop :=
  o.micros % 60000000 = 0

instance (o : Offset) : Decidable o.WholeMinutes :=
  inferInstanceAs (Decidable (_ = _))

end Offset

/-- A wall time and the offset at which it is read. -/
structure Moment where
  wall : DateTime
  offset : Offset
deriving DecidableEq

namespace Moment

/-- The microseconds since the calendar's first midnight in UTC. -/
def instant (m : Moment) : Int :=
  m.wall.micros - m.offset.micros

/-- Equivalent moments have the same instant; their offsets may differ. -/
instance : Setoid Moment where
  r a b := a.instant = b.instant
  iseqv := ⟨fun _ => rfl, Eq.symm, Eq.trans⟩

instance : LT Moment := ⟨fun a b => a.instant < b.instant⟩

instance : LE Moment := ⟨fun a b => a.instant ≤ b.instant⟩

instance (a b : Moment) : Decidable (a ≈ b) :=
  inferInstanceAs (Decidable (a.instant = b.instant))

instance (a b : Moment) : Decidable (a < b) :=
  inferInstanceAs (Decidable (a.instant < b.instant))

instance (a b : Moment) : Decidable (a ≤ b) :=
  inferInstanceAs (Decidable (a.instant ≤ b.instant))

instance : Hashable Moment := ⟨fun m => hash m.instant⟩

/-- The same instant read at another offset, unless the calendar there has no
such day. -/
def atOffset? (m : Moment) (o : Offset) : Option Moment :=
  (DateTime.ofMicros? (m.instant + o.micros)).map (⟨·, o⟩)

def utc? (m : Moment) : Option Moment :=
  m.atOffset? .utc

/-- The instant lies within the calendar in UTC. -/
def HasUtcForm (m : Moment) : Prop :=
  0 ≤ m.instant ∧ m.instant < DateTime.span

instance (m : Moment) : Decidable m.HasUtcForm :=
  inferInstanceAs (Decidable (_ ∧ _))

/-- The earlier of two moments, the first when they are equivalent. -/
def earlier (a b : Moment) : Moment :=
  if b < a then b else a

/-- The later of two moments, the first when they are equivalent. -/
def later (a b : Moment) : Moment :=
  if a < b then b else a

theorem instant_bounds (m : Moment) :
    -86400000000 < m.instant ∧ m.instant < DateTime.span + 86400000000 := by
  have := m.wall.micros_lt; have := m.offset.lower; have := m.offset.upper
  simp only [instant]
  omega

theorem instant_sub_lower (a b : Moment) :
    -999999999 * 86400000000 ≤ b.instant - a.instant := by
  have := a.instant_bounds; have := b.instant_bounds
  simp only [DateTime.span, dayCount, microsPerDay] at *
  omega

theorem instant_sub_upper (a b : Moment) :
    b.instant - a.instant < 1000000000 * 86400000000 := by
  have := a.instant_bounds; have := b.instant_bounds
  simp only [DateTime.span, dayCount, microsPerDay] at *
  omega

/-- The length from one moment to another; negative when the other comes first. -/
def durationTo (a b : Moment) : Duration :=
  ⟨b.instant - a.instant, instant_sub_lower a b, instant_sub_upper a b⟩

end Moment

end Timespan
