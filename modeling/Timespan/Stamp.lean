import Timespan.Moment

/-! Stamps: wall times whose zone may be missing. A stamp with a fixed offset is a
moment; one without a zone, or with a zone that knows no offset, is not, and only
its wall time can be compared or moved. Zones whose offset depends on the wall
time, and the flag for a repeated hour, are not modeled. -/
namespace Timespan

/-- What a wall time says about its offset. -/
inductive Zone where
  | absent
  | unknown
  | fixed (offset : Offset)
deriving DecidableEq

structure Stamp where
  wall : DateTime
  zone : Zone
deriving DecidableEq

def Moment.stamp (m : Moment) : Stamp :=
  ⟨m.wall, .fixed m.offset⟩

namespace Stamp

def moment? : Stamp → Option Moment
  | ⟨wall, .fixed offset⟩ => some ⟨wall, offset⟩
  | _ => none

/-- The stamp a length later on the same wall. -/
def add? (s : Stamp) (d : Duration) : Option Stamp :=
  (s.wall.add? d).map (⟨·, s.zone⟩)

/-- What stamps are told apart by: whether they are moments, and the instant if
they are, else the wall time. -/
def key (s : Stamp) : Bool × Int :=
  match s.moment? with
  | some m => (true, m.instant)
  | none => (false, s.wall.micros)

instance : Setoid Stamp where
  r a b := a.key = b.key
  iseqv := ⟨fun _ => rfl, Eq.symm, Eq.trans⟩

instance (a b : Stamp) : Decidable (a ≈ b) :=
  inferInstanceAs (Decidable (a.key = b.key))

instance : Hashable Stamp := ⟨fun s => hash s.key⟩

end Stamp

end Timespan
