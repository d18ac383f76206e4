import Timespan.Event
import Timespan.Proofs.Calendar.Length
import Timespan.Proofs.Timestamp.Language

/-! What is timed, as an interval. The stop is counted on the stamp's own wall, which
settles whether the calendar has it; then the start must be a moment. -/
namespace Timespan

open Timestamp (InCalendar inCalendar_iff)

/-- The count at which the moment stands on a wall at an offset. -/
def Moment.microsAt (m : Moment) (o : Offset) : Int :=
  m.instant + o.micros

theorem Moment.inCalendar_microsAt_iff {m : Moment} {o : Offset} :
    InCalendar (m.microsAt o) ↔ ∃ u : Moment, u.offset = o ∧ u.instant = m.instant := by
  rw [inCalendar_iff]
  constructor
  · rintro ⟨wall, count⟩
    refine ⟨⟨wall, o⟩, rfl, ?_⟩
    simp only [microsAt, instant] at *
    omega
  · rintro ⟨u, rfl, same⟩
    refine ⟨u.wall, ?_⟩
    simp only [microsAt, instant] at *
    omega

theorem Moment.stamp_injective {m n : Moment} (h : m.stamp = n.stamp) : m = n :=
  Option.some.inj (congrArg Stamp.moment? h)

namespace Stamp

variable {s t : Stamp} {m : Moment} {d : Duration}

theorem moment?_stamp (m : Moment) : m.stamp.moment? = some m := rfl

theorem moment?_eq_some_iff : s.moment? = some m ↔ s = m.stamp := by
  constructor
  · intro found
    obtain ⟨wall, zone⟩ := s
    cases zone with
    | absent => contradiction
    | unknown => contradiction
    | fixed offset =>
      cases found
      rfl
  · rintro rfl
    exact moment?_stamp m

theorem moment?_eq_none_iff : s.moment? = none ↔ s.zone = .absent ∨ s.zone = .unknown := by
  obtain ⟨wall, zone⟩ := s
  cases zone <;> simp [moment?]

theorem add?_eq_some_iff :
    s.add? d = some t ↔ (t.wall.micros : Int) = s.wall.micros + d.micros ∧ t.zone = s.zone := by
  simp only [add?, Option.map_eq_some_iff, DateTime.add?_eq_some_iff]
  constructor
  · rintro ⟨wall, count, rfl⟩
    exact ⟨count, rfl⟩
  · rintro ⟨count, same⟩
    exact ⟨t.wall, count, by rw [← same]⟩

theorem add?_eq_none_iff : s.add? d = none ↔ ¬ InCalendar (s.wall.micros + d.micros) := by
  simp only [add?, Option.map_eq_none_iff, DateTime.add?, DateTime.ofMicros?_eq_none_iff, InCalendar]

end Stamp

/-- The count at which what is timed stops, on its stamp's own wall. -/
def Timed.wallStop {α : Type} [Timed α] (x : α) : Int :=
  (timestamp x).wall.micros + (duration x).micros

namespace Interval

/-- How what is timed may end as an interval: each way with the first condition on it
that fails, or with all of them. -/
inductive Converts {α : Type} [Timed α] (x : α) : Except TimedError Interval → Prop where
  | beyond : ¬ InCalendar (Timed.wallStop x) → Converts x (.error .outOfCalendar)
  | unzoned : InCalendar (Timed.wallStop x) → (Timed.timestamp x).moment? = none →
      Converts x (.error (.unzoned ⟨.start, Timed.timestamp x⟩))
  | interval {y : Interval} : InCalendar (Timed.wallStop x) →
      y.start.stamp = Timed.timestamp x → y.stop.offset = y.start.offset →
      y.duration = Timed.duration x → Converts x (.ok y)

section Timed

variable {α : Type} [Timed α] {x : α} {y : Interval} {refusal : Unzoned}

theorem duration_eq_iff {d : Duration} :
    y.duration = d ↔ y.stop.instant = y.start.instant + d.micros := by
  rw [Duration.ext_iff]
  simp only [duration, Moment.durationTo]
  omega

/-- An interval from the stamp, at its offset, has the length that is asked for exactly
when its stop has the count that is asked for. -/
theorem duration_eq_iff_wallStop (stamped : y.start.stamp = Timed.timestamp x)
    (offset : y.stop.offset = y.start.offset) :
    y.duration = Timed.duration x ↔ (y.stop.wall.micros : Int) = Timed.wallStop x := by
  have wall : (Timed.timestamp x).wall = y.start.wall := by
    rw [← stamped]
    rfl
  rw [duration_eq_iff, Timed.wallStop, wall]
  simp only [Moment.instant, offset]
  omega

theorem ofTimed_of_beyond (beyond : ¬ InCalendar (Timed.wallStop x)) :
    ofTimed x = .error .outOfCalendar := by
  rw [ofTimed, Stamp.add?_eq_none_iff.mpr beyond]

theorem ofTimed_of_unzoned (inside : InCalendar (Timed.wallStop x))
    (unzoned : (Timed.timestamp x).moment? = none) :
    ofTimed x = .error (.unzoned ⟨.start, Timed.timestamp x⟩) := by
  obtain ⟨wall, count⟩ := inCalendar_iff.mp inside
  have added : (Timed.timestamp x).add? (Timed.duration x) =
      some ⟨wall, (Timed.timestamp x).zone⟩ := Stamp.add?_eq_some_iff.mpr ⟨count, rfl⟩
  simp only [ofTimed, added, ofStamps, unzoned]

theorem ofTimed_of_interval (stamped : y.start.stamp = Timed.timestamp x)
    (offset : y.stop.offset = y.start.offset) (lasts : y.duration = Timed.duration x) :
    ofTimed x = .ok y := by
  have count := (duration_eq_iff_wallStop stamped offset).mp lasts
  have added : y.start.stamp.add? (Timed.duration x) = some y.stop.stamp := by
    rw [Timed.wallStop, ← stamped] at count
    exact Stamp.add?_eq_some_iff.mpr ⟨count, congrArg Zone.fixed offset⟩
  simp only [ofTimed, ← stamped, added, ofStamps, Stamp.moment?_stamp]

/-- From a moment whose wall stays within the calendar an interval is made. -/
theorem exists_interval_of_moment {m : Moment} (inside : InCalendar (Timed.wallStop x))
    (stamped : m.stamp = Timed.timestamp x) : ∃ y : Interval,
      y.start = m ∧ y.stop.offset = m.offset ∧ y.duration = Timed.duration x ∧ ofTimed x = .ok y := by
  obtain ⟨wall, count⟩ := inCalendar_iff.mp inside
  let y : Interval := ⟨m, wall, m.offset⟩
  have lasts : y.duration = Timed.duration x := (duration_eq_iff_wallStop stamped rfl).mpr count
  exact ⟨y, rfl, rfl, lasts, ofTimed_of_interval stamped rfl lasts⟩

theorem converts_ofTimed (x : α) : Converts x (ofTimed x) := by
  by_cases inside : InCalendar (Timed.wallStop x)
  · cases zoned : (Timed.timestamp x).moment? with
    | none =>
      rw [ofTimed_of_unzoned inside zoned]
      exact .unzoned inside zoned
    | some m =>
      have stamped := (Stamp.moment?_eq_some_iff.mp zoned).symm
      obtain ⟨y, rfl, offset, lasts, made⟩ := exists_interval_of_moment inside stamped
      rw [made]
      exact .interval inside stamped offset lasts
  · rw [ofTimed_of_beyond inside]
    exact .beyond inside

theorem ofTimed_eq_outOfCalendar_iff :
    ofTimed x = .error .outOfCalendar ↔ ¬ InCalendar (Timed.wallStop x) := by
  constructor
  · intro refused
    have ended := converts_ofTimed x
    rw [refused] at ended
    cases ended with
    | beyond beyond => exact beyond
  · exact ofTimed_of_beyond

theorem ofTimed_eq_unzoned_iff : ofTimed x = .error (.unzoned refusal) ↔
    InCalendar (Timed.wallStop x) ∧ (Timed.timestamp x).moment? = none ∧
      refusal = ⟨.start, Timed.timestamp x⟩ := by
  constructor
  · intro refused
    have ended := converts_ofTimed x
    rw [refused] at ended
    cases ended with
    | unzoned inside unzoned => exact ⟨inside, unzoned, rfl⟩
  · rintro ⟨inside, unzoned, rfl⟩
    exact ofTimed_of_unzoned inside unzoned

/-- The interval that is made starts at the stamp as it stands, keeps its offset and has
the length that is asked for; no other interval is made, and no such one is refused. -/
theorem ofTimed_eq_ok_iff : ofTimed x = .ok y ↔
    y.start.stamp = Timed.timestamp x ∧ y.stop.offset = y.start.offset ∧
      y.duration = Timed.duration x := by
  constructor
  · intro made
    have ended := converts_ofTimed x
    rw [made] at ended
    cases ended with
    | interval _ stamped offset lasts => exact ⟨stamped, offset, lasts⟩
  · rintro ⟨stamped, offset, lasts⟩
    exact ofTimed_of_interval stamped offset lasts

/-- What is timed leaves the calendar exactly when its stamp's wall does, whatever the
stamp says of its zone. Otherwise it is refused for its start exactly when the stamp has
no offset, and with one it is the interval from the stamp as it stands, at the stamp's
offset, that lasts as long as what is timed. -/
theorem ofTimed_exact (x : α) :
    (ofTimed x = .error .outOfCalendar ↔ ¬ InCalendar (Timed.wallStop x)) ∧
      (InCalendar (Timed.wallStop x) →
        (ofTimed x = .error (.unzoned ⟨.start, Timed.timestamp x⟩) ↔
          (Timed.timestamp x).zone = .absent ∨ (Timed.timestamp x).zone = .unknown) ∧
        ∀ offset, (Timed.timestamp x).zone = .fixed offset →
          ∃ y, ofTimed x = .ok y ∧ y.start.stamp = Timed.timestamp x ∧
            y.stop.offset = offset ∧ y.duration = Timed.duration x) := by
  refine ⟨ofTimed_eq_outOfCalendar_iff, fun inside => ⟨?_, ?_⟩⟩
  · rw [ofTimed_eq_unzoned_iff, ← Stamp.moment?_eq_none_iff]
    simp only [inside, true_and, and_true]
  · intro offset zone
    have stamped : Moment.stamp ⟨(Timed.timestamp x).wall, offset⟩ = Timed.timestamp x := by
      rw [Moment.stamp, ← zone]
    obtain ⟨y, start, kept, lasts, made⟩ := exists_interval_of_moment inside stamped
    exact ⟨y, made, start ▸ stamped, kept, lasts⟩

end Timed

/-- The event that starts with an interval and lasts as long. -/
def asEvent (x : Interval) (data : List (Text × Json)) : Event :=
  ⟨x.start.stamp, x.duration, data⟩

section Recovery

variable {x y : Interval} (data : List (Text × Json))

theorem wallStop_asEvent :
    Timed.wallStop (x.asEvent data) = x.stop.microsAt x.start.offset := by
  show (x.start.wall.micros : Int) + (x.stop.instant - x.start.instant) = _
  simp only [Moment.microsAt, Moment.instant]
  omega

theorem interval_asEvent_eq_ok_iff : (x.asEvent data).interval = .ok y ↔
    y.start = x.start ∧ y.stop.offset = x.start.offset ∧ y.stop.instant = x.stop.instant := by
  have whole := duration_eq_iff (y := x) (d := x.duration) |>.mp rfl
  refine ofTimed_eq_ok_iff.trans ?_
  constructor
  · rintro ⟨stamped, offset, lasts⟩
    have start := Moment.stamp_injective stamped
    have stop := duration_eq_iff.mp lasts
    rw [start] at stop offset
    exact ⟨start, offset, stop.trans whole.symm⟩
  · rintro ⟨start, offset, stop⟩
    rw [← start] at whole offset
    exact ⟨congrArg Moment.stamp start, offset, duration_eq_iff.mpr (stop.trans whole)⟩

/-- An interval is made again from its start and its length, with its stop read at the
offset of its start, exactly when the calendar there has its stop; it is refused for the
calendar in all other cases. -/
theorem asEvent_recovers (x : Interval) (data : List (Text × Json)) :
    ((∃ y, (x.asEvent data).interval = .ok y ∧ y ≈ x ∧ y.start = x.start ∧
        y.stop.offset = x.start.offset) ↔ InCalendar (x.stop.microsAt x.start.offset)) ∧
      ((x.asEvent data).interval = .error .outOfCalendar ↔
        ¬ InCalendar (x.stop.microsAt x.start.offset)) := by
  constructor
  · rw [Moment.inCalendar_microsAt_iff]
    constructor
    · rintro ⟨y, -, same, -, offset⟩
      exact ⟨y.stop, offset, (equiv_iff.mp same).2⟩
    · rintro ⟨stop, offset, same⟩
      let y : Interval := ⟨x.start, stop⟩
      have equivalent : y ≈ x := equiv_iff.mpr ⟨rfl, same⟩
      exact ⟨y, (interval_asEvent_eq_ok_iff data).mpr ⟨rfl, offset, same⟩, equivalent, rfl, offset⟩
  · rw [← wallStop_asEvent data]
    exact ofTimed_eq_outOfCalendar_iff

end Recovery

end Interval

end Timespan
