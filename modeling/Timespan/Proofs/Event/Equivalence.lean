import Mathlib.Logic.Basic
import Timespan.Proofs.Event.Conversion

/-! Equivalent events as intervals. They are alike unless the calendar has the stop on
one of the two walls alone, which takes moments at different offsets. -/
namespace Timespan

open Timestamp (InCalendar)

/-- Two stamps are equivalent as moments at one instant, or without being moments on one
wall. -/
theorem Stamp.equiv_cases {s t : Stamp} (same : s ≈ t) :
    (∃ m n : Moment, m.stamp = s ∧ n.stamp = t ∧ m ≈ n) ∨
      (s.moment? = none ∧ t.moment? = none ∧ s.wall = t.wall) := by
  have keys : s.key = t.key := same
  simp only [key] at keys
  cases left : s.moment? with
  | some m =>
    cases right : t.moment? with
    | some n =>
      simp only [left, right, Prod.mk.injEq, true_and] at keys
      exact .inl ⟨m, n, (moment?_eq_some_iff.mp left).symm, (moment?_eq_some_iff.mp right).symm, keys⟩
    | none => simp [left, right] at keys
  | none =>
    cases right : t.moment? with
    | some n => simp [left, right] at keys
    | none =>
      simp only [left, right, Prod.mk.injEq, true_and, Int.ofNat_inj] at keys
      exact .inr ⟨rfl, rfl, DateTime.micros_injective keys⟩

namespace Event

open Timespan.Interval

/-- Conversions that turn out alike: in equivalent intervals, or refused for one kind of
reason. -/
inductive Alike : Except TimedError Interval → Except TimedError Interval → Prop where
  | intervals {x y : Interval} : x ≈ y → Alike (.ok x) (.ok y)
  | outOfCalendar : Alike (.error .outOfCalendar) (.error .outOfCalendar)
  | unzoned {r s : Unzoned} : Alike (.error (.unzoned r)) (.error (.unzoned s))

theorem Alike.outOfCalendar_iff {r s : Except TimedError Interval} (alike : Alike r s) :
    r = .error .outOfCalendar ↔ s = .error .outOfCalendar := by
  cases alike <;> simp

/-- Of two events the first leaves the calendar and is refused for it, while the second has
an interval. -/
structure LeavesAlone (a b : Event) : Prop where
  leaves : ¬ InCalendar (Timed.wallStop a)
  refused : a.interval = .error .outOfCalendar
  other : ∃ y, b.interval = .ok y

variable {a b : Event}

theorem interval_eq_outOfCalendar_iff :
    a.interval = .error .outOfCalendar ↔ ¬ InCalendar (Timed.wallStop a) :=
  ofTimed_eq_outOfCalendar_iff

theorem wallStop_eq_of_wall (wall : a.timestamp.wall = b.timestamp.wall)
    (durations : a.duration = b.duration) : Timed.wallStop a = Timed.wallStop b := by
  show (a.timestamp.wall.micros : Int) + a.duration.micros = _
  rw [wall, durations]
  rfl

section Same

/- `same`: the events have equivalent stamps and one length. -/
variable (same : a ≈ b)
include same

theorem alike_of_inside (insideA : InCalendar (Timed.wallStop a))
    (insideB : InCalendar (Timed.wallStop b)) : Alike a.interval b.interval := by
  obtain ⟨stamps, durations⟩ := same
  obtain ⟨m, n, stampA, stampB, instants⟩ | ⟨unzonedA, unzonedB, -⟩ := Stamp.equiv_cases stamps
  · obtain ⟨x, rfl, -, lastsX, madeX⟩ := exists_interval_of_moment insideA stampA
    obtain ⟨y, rfl, -, lastsY, madeY⟩ := exists_interval_of_moment insideB stampB
    have starts : x.start.instant = y.start.instant := instants
    have stops : x.stop.instant = y.stop.instant := by
      rw [duration_eq_iff.mp (lastsX.trans durations), duration_eq_iff.mp lastsY, starts]
      rfl
    rw [interval, interval, madeX, madeY]
    exact .intervals (equiv_iff.mpr ⟨starts, stops⟩)
  · rw [interval, interval, ofTimed_of_unzoned insideA unzonedA, ofTimed_of_unzoned insideB unzonedB]
    exact .unzoned

theorem alike_iff : Alike a.interval b.interval ↔
    (InCalendar (Timed.wallStop a) ↔ InCalendar (Timed.wallStop b)) := by
  constructor
  · intro alike
    have refused := alike.outOfCalendar_iff
    rw [interval_eq_outOfCalendar_iff, interval_eq_outOfCalendar_iff] at refused
    exact not_iff_not.mp refused
  · intro both
    by_cases inside : InCalendar (Timed.wallStop a)
    · exact alike_of_inside same inside (both.mp inside)
    · rw [interval_eq_outOfCalendar_iff.mpr inside,
        interval_eq_outOfCalendar_iff.mpr (mt both.mpr inside)]
      exact .outOfCalendar

/-- Only moments on different walls can stop on different sides of the calendar's end. -/
theorem exists_offsets_of_wallStop_ne (apart : Timed.wallStop a ≠ Timed.wallStop b) :
    ∃ m n : Moment, m.stamp = a.timestamp ∧ n.stamp = b.timestamp ∧ m.offset ≠ n.offset := by
  obtain ⟨stamps, durations⟩ := same
  obtain ⟨m, n, stampA, stampB, instants⟩ | ⟨-, -, wall⟩ := Stamp.equiv_cases stamps
  · refine ⟨m, n, stampA, stampB, fun offset => apart (wallStop_eq_of_wall ?_ durations)⟩
    rw [← stampA, ← stampB, Moment.ext_of_instant offset instants]
  · exact absurd (wallStop_eq_of_wall wall durations) apart

end Same

theorem leavesAlone_of_moment {m : Moment} (leaves : ¬ InCalendar (Timed.wallStop a))
    (inside : InCalendar (Timed.wallStop b)) (stamped : m.stamp = b.timestamp) :
    LeavesAlone a b := by
  obtain ⟨y, -, -, -, made⟩ := exists_interval_of_moment inside stamped
  exact ⟨leaves, interval_eq_outOfCalendar_iff.mpr leaves, y, made⟩

/-- Equivalent events turn out alike exactly when both or neither of them leave the
calendar on their own walls. Where they do not, they are stamped with moments at different
offsets, and the one that leaves the calendar is refused while the other has its interval. -/
theorem equivalent_alike_iff (same : a ≈ b) :
    (Alike a.interval b.interval ↔
        (InCalendar (Timed.wallStop a) ↔ InCalendar (Timed.wallStop b))) ∧
      (¬ Alike a.interval b.interval → ∃ m n : Moment, m.stamp = a.timestamp ∧
        n.stamp = b.timestamp ∧ m.offset ≠ n.offset ∧ (LeavesAlone a b ∨ LeavesAlone b a)) := by
  refine ⟨alike_iff same, fun unlike => ?_⟩
  rw [alike_iff same] at unlike
  have apart : Timed.wallStop a ≠ Timed.wallStop b := fun equal => unlike (by rw [equal])
  obtain ⟨m, n, stampA, stampB, offsets⟩ := exists_offsets_of_wallStop_ne same apart
  refine ⟨m, n, stampA, stampB, offsets, ?_⟩
  by_cases inside : InCalendar (Timed.wallStop a)
  · have leaves : ¬ InCalendar (Timed.wallStop b) := fun insideB => unlike (by simp [inside, insideB])
    exact .inr (leavesAlone_of_moment leaves inside stampA)
  · have insideB : InCalendar (Timed.wallStop b) := by
      apply Classical.byContradiction
      intro leaves
      exact unlike (by simp [inside, leaves])
    exact .inl (leavesAlone_of_moment inside insideB stampB)

/-- An event of an hour that starts with a full hour of the calendar's last day, at an
offset of whole hours east of UTC. -/
def onLastDay (hour east : Fin 24) : Event where
  timestamp := (Moment.onHour .last hour east).stamp
  duration := TimeUnit.hour.duration
  data := []

/-- An hour in the evening, two hours east of UTC and in UTC, and the next one, which is
the calendar's last hour two hours east. -/
theorem equivalent_alike_iff_of_last_evening :
    onLastDay 22 2 ≈ onLastDay 20 0 ∧
      Alike (onLastDay 22 2).interval (onLastDay 20 0).interval ∧
      onLastDay 23 2 ≈ onLastDay 21 0 ∧ ∃ m n : Moment, m.stamp = (onLastDay 23 2).timestamp ∧
        n.stamp = (onLastDay 21 0).timestamp ∧ m.offset ≠ n.offset ∧
        (LeavesAlone (onLastDay 23 2) (onLastDay 21 0) ∨
          LeavesAlone (onLastDay 21 0) (onLastDay 23 2)) := by
  have evening : onLastDay 22 2 ≈ onLastDay 20 0 := by decide
  have last : onLastDay 23 2 ≈ onLastDay 21 0 := by decide
  obtain ⟨evenly, -⟩ := equivalent_alike_iff evening
  obtain ⟨together, parted⟩ := equivalent_alike_iff last
  have unlike : ¬ Alike (onLastDay 23 2).interval (onLastDay 21 0).interval :=
    mt together.mp (by decide)
  exact ⟨evening, evenly.mpr (by decide), last, parted unlike⟩

/-- The calendar's last hour two hours east of UTC has no stop there, and one in UTC. -/
theorem equivalent_not_alike :
    onLastDay 23 2 ≈ onLastDay 21 0 ∧ (onLastDay 23 2).interval = .error .outOfCalendar ∧
      (∃ y, (onLastDay 21 0).interval = .ok y) ∧
      ¬ Alike (onLastDay 23 2).interval (onLastDay 21 0).interval := by
  have refused : (onLastDay 23 2).interval = .error .outOfCalendar := rfl
  have made : ∃ y, (onLastDay 21 0).interval = .ok y := ⟨_, rfl⟩
  refine ⟨by decide, refused, made, fun alike => ?_⟩
  have inUtc := alike.outOfCalendar_iff.mp refused
  obtain ⟨y, made⟩ := made
  rw [made] at inUtc
  contradiction

end Event

end Timespan
