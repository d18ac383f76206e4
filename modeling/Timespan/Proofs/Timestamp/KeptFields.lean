import Timespan.Proofs.Timestamp.Language

/-! What becomes of the fields that a timestamp writes: its moment shows them at the
written offset exactly when the hour is one of the day. An hour 24 is read as the
midnight that ends the day. -/
namespace Timespan.Timestamp

namespace Spelling

variable {s : Spelling}

/-- The midnight that ends the written day, spelled as its hour 24: what stands
there is the first wall time of the next day. -/
structure EndsDayAt (s : Spelling) (wall : DateTime) : Prop where
  hour : s.fields.hour = 24
  nothing : s.fields.minute = 0 ∧ s.fields.second = 0 ∧ s.fields.microsecond = 0
  next : ∃ day : DateTime, day.fields = { s.fields with hour := 0 } ∧
    day.add? TimeUnit.day.duration = some wall

theorem fields_eq_of_micros {t : DateTime} (acceptable : s.Acceptable) (hour : s.fields.hour ≤ 23)
    (count : t.micros = s.localMicros) : t.fields = s.fields := by
  have valid := (inRange_iff_valid acceptable.form (by omega)).mp acceptable.fields
  obtain ⟨u, shown⟩ := DateTime.exists_fields_eq valid
  have same : t = u := by
    apply DateTime.micros_injective
    rw [count, localMicros_eq acceptable.form, ← shown, DateTime.micros_fields]
  rw [same, shown]

theorem endsDayAt_of_micros {t : DateTime} (acceptable : s.Acceptable) (hour : ¬ s.fields.hour ≤ 23)
    (count : t.micros = s.localMicros) : s.EndsDayAt t := by
  have late : s.fields.hour = 24 := by
    have hours := acceptable.fields.hour
    omega
  obtain ⟨nothing, valid⟩ := (inRange_iff_midnight acceptable.form late).mp acceptable.fields
  obtain ⟨day, shown⟩ := DateTime.exists_fields_eq valid
  refine ⟨late, nothing, day, shown, ?_⟩
  rw [add?_day_of_midnight late shown, ← localMicros_eq acceptable.form,
    DateTime.ofMicros?_eq_some_iff, count]

end Spelling

/-- The moment that is read has, at the offset that is written, the wall time with
the written count. -/
theorem exists_wall_of_acceptable {s : Spelling} {m : Moment} (acceptable : s.Acceptable)
    (count : m.instant = s.localMicros - s.zone.micros) :
    ∃ (o : Offset) (here : Moment), s.zone.offset = .ok o ∧ m.atOffset? o = some here ∧
      here.wall.micros = s.localMicros := by
  obtain ⟨o, offset⟩ := ZoneSpelling.exists_offset acceptable.zone
  have shift := (ZoneSpelling.offset_eq_ok_iff.mp offset).2
  obtain ⟨wall, counted⟩ := inCalendar_iff.mp acceptable.wall
  refine ⟨o, ⟨wall, o⟩, offset, ?_, Int.ofNat_inj.mp counted⟩
  apply Moment.atOffset?_eq_some_iff.mpr
  exact ⟨rfl, by rw [count, Moment.instant, counted, shift]⟩

theorem spelling_unique_of_acceptable {s r : Spelling} (acceptable : s.Acceptable)
    (valid : r.WellFormed) (same : Text.ofChars s.chars = Text.ofChars r.chars) : r = s :=
  Spelling.chars_injective valid (Spelling.isRfc3339_iff.mp acceptable.form).1
    (Text.ofChars_injective same).symm

/-- An accepted text has one spelling, and its moment exists at the offset that is
written. There it shows the written year, month, day, hour, minute, second and
microsecond exactly when the hour is at most 23; the only other hour is 24, which
shows the midnight that ends the written day. -/
theorem parse_keeps_fields_iff {text : Text} {m : Moment} (accepted : parse text = .ok m) :
    ∃ s : Spelling, text = .ofChars s.chars ∧ s.IsRfc3339 ∧
      (∀ r : Spelling, r.WellFormed → text = .ofChars r.chars → r = s) ∧
      ∃ (o : Offset) (here : Moment), s.zone.offset = .ok o ∧ m.atOffset? o = some here ∧
        (here.wall.fields = s.fields ↔ s.fields.hour ≤ 23) ∧
        (¬ s.fields.hour ≤ 23 → s.EndsDayAt here.wall) := by
  obtain ⟨s, rfl, acceptable, _, count⟩ := parse_eq_ok_iff.mp accepted
  obtain ⟨o, here, offset, moved, wall⟩ := exists_wall_of_acceptable acceptable count
  refine ⟨s, rfl, acceptable.form,
    fun r valid same => spelling_unique_of_acceptable acceptable valid same,
    o, here, offset, moved, ⟨?_, ?_⟩, ?_⟩
  · intro kept
    have hour := here.wall.clock.hour_lt
    have shown : here.wall.clock.hour = s.fields.hour := congrArg Fields.hour kept
    omega
  · intro hour
    exact Spelling.fields_eq_of_micros acceptable hour wall
  · intro hour
    exact Spelling.endsDayAt_of_micros acceptable hour wall

/-- The last midnight of February in a leap year, an hour west of UTC. -/
theorem parse_keeps_fields_iff_of_leap_midnight : ∃ m : Moment,
    parse (Text.ofString "2000-02-29t24:00:00.0000009-01:00") = .ok m ∧
      ∃ s : Spelling, Text.ofString "2000-02-29t24:00:00.0000009-01:00" = .ofChars s.chars ∧
        s.IsRfc3339 ∧
        (∀ r : Spelling, r.WellFormed →
          Text.ofString "2000-02-29t24:00:00.0000009-01:00" = .ofChars r.chars → r = s) ∧
        ∃ (o : Offset) (here : Moment), s.zone.offset = .ok o ∧ m.atOffset? o = some here ∧
          (here.wall.fields = s.fields ↔ s.fields.hour ≤ 23) ∧
          (¬ s.fields.hour ≤ 23 → s.EndsDayAt here.wall) := by
  have accepted : parse (Text.ofString "2000-02-29t24:00:00.0000009-01:00") =
      .ok ⟨.ofMicros 63087469200000000 (by decide), .utc⟩ := rfl
  exact ⟨_, accepted, parse_keeps_fields_iff accepted⟩

/-- The hour 24 of 1 January is accepted, and what is read shows 2 January. -/
theorem parse_does_not_keep_hour_24 : ∃ (s : Spelling) (m here : Moment),
    Text.ofString "2000-01-01T24:00:00Z" = .ofChars s.chars ∧ s.WellFormed ∧
      parse (Text.ofString "2000-01-01T24:00:00Z") = .ok m ∧ s.fields.hour = 24 ∧
      s.zone.offset = .ok .utc ∧ m.atOffset? .utc = some here ∧
      here.wall.fields = ⟨2000, 1, 2, 0, 0, 0, 0⟩ ∧ s.fields ≠ here.wall.fields := by
  let s : Spelling := ⟨['2', '0', '0', '0'], ['0', '1'], ['0', '1'], 'T', ['2', '4'], ['0', '0'],
    ['0', '0'], none, .zulu 'Z'⟩
  let m : Moment := ⟨.ofMicros 63082368000000000 (by decide), .utc⟩
  have spelled : Spelling.read? s.chars = some s := rfl
  have valid : s.WellFormed := (Spelling.read?_sound spelled).1
  exact ⟨s, m, m, rfl, valid, rfl, rfl, rfl, Moment.utc?_of_utc rfl, rfl, by decide⟩

end Timespan.Timestamp
