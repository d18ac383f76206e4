import Timespan.Interval.Basic

/-! Two intervals against each other. Where a result takes an end from one of the
two it takes the moment as it stands there, offset included, and of two
equivalent moments the one of the first interval. A gap is looked for on the far
side of the first interval, then on its near side. -/
namespace Timespan.Interval

def gap? (a b : Interval) : Option Interval :=
  if a.stop < b.start then some ⟨a.stop, b.start⟩
  else if b.stop < a.start then some ⟨b.stop, a.start⟩
  else none

def hull (a b : Interval) : Interval :=
  ⟨a.start.earlier b.start, a.stop.later b.stop⟩

/-- The two joined, when there is no gap between them. -/
def union? (a b : Interval) : Option Interval :=
  if (a.gap? b).isNone then some (a.hull b) else none

/-- From the later start to the earlier stop, when that start comes first. -/
def inter? (a b : Interval) : Option Interval :=
  if a.start.later b.start < a.stop.earlier b.stop then
    some ⟨a.start.later b.start, a.stop.earlier b.stop⟩
  else none

def Intersects (a b : Interval) : Prop :=
  (a.inter? b).isSome

/-- One stops where the other starts. -/
def Adjacent (a b : Interval) : Prop :=
  a.stop ≈ b.start ∨ b.stop ≈ a.start

/-- The second lies between the ends of the first; it may share its stop. -/
def Contains (a b : Interval) : Prop :=
  a.start ≤ b.start ∧ b.stop ≤ a.stop

instance (a b : Interval) : Decidable (a.Intersects b) :=
  inferInstanceAs (Decidable (_ = _))

instance (a b : Interval) : Decidable (a.Adjacent b) :=
  inferInstanceAs (Decidable (_ ∨ _))

instance (a b : Interval) : Decidable (a.Contains b) :=
  inferInstanceAs (Decidable (_ ∧ _))

def edges (a b : Interval) : Interval :=
  ⟨a.start, b.stop⟩

end Timespan.Interval
