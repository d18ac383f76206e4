import Timespan.Proofs.Calendar.NextDay
import Timespan.Proofs.Timestamp.Written

/-! The calendar beneath timestamps. Numbering the days of the years 1 to 9999 is an
isomorphism of orders, and moving a moment to UTC, as reading and writing do, keeps its
instant. -/
namespace Timespan

namespace Moment

/-- A moment moved to UTC: the same instant at offset zero, on a day that the calendar
has and at a time that the clock shows. -/
structure MovesTo (m u : Moment) : Prop where
  moved : m.utc? = some u
  offset : u.offset = .utc
  instant : u ≈ m
  day : IsGregorian u.wall.date.year u.wall.date.month u.wall.date.day
  clock : u.wall.clock.hour ≤ 23 ∧ u.wall.clock.minute ≤ 59 ∧ u.wall.clock.second ≤ 59 ∧
    u.wall.clock.microsecond ≤ 999999

variable {m u : Moment}

theorem movesTo_of_utc? (moved : m.utc? = some u) : m.MovesTo u where
  moved := moved
  offset := (utc?_eq_some_iff.mp moved).1
  instant := (utc?_eq_some_iff.mp moved).2
  day := isGregorian_iff.mpr ⟨u.wall.date, rfl, rfl, rfl⟩
  clock := by
    have hour := u.wall.clock.hour_lt
    have minute := u.wall.clock.minute_lt
    have second := u.wall.clock.second_lt
    have microsecond := u.wall.clock.microsecond_lt
    omega

theorem exists_movesTo_iff : (∃ u, m.MovesTo u) ↔ m.HasUtcForm := by
  rw [exists_utc_iff]
  constructor
  · rintro ⟨u, move⟩
    exact ⟨u, move.offset, move.instant⟩
  · rintro ⟨u, utc⟩
    exact ⟨u, movesTo_of_utc? (utc?_eq_some_iff.mpr utc)⟩

end Moment

namespace Timestamp

/-- What is read is the written moment, moved to UTC. -/
theorem movesTo_of_parse {text : Text} {u : Moment} (read : parse text = .ok u) :
    ∃ (s : Spelling) (here : Moment), text = .ofChars s.chars ∧ s.moment? = .ok (some here) ∧
      here.MovesTo u := by
  obtain ⟨s, rfl, acceptable, utc, count⟩ := parse_eq_ok_iff.mp read
  obtain ⟨here, meant, moved⟩ := (exists_moment_iff acceptable.form).mpr
    ⟨acceptable.fields, acceptable.zone, acceptable.wall, utc, count⟩
  exact ⟨s, here, rfl, meant, Moment.movesTo_of_utc? moved⟩

theorem write_of_movesTo {m u : Moment} (move : m.MovesTo u) : write m = u.chars :=
  write_eq_chars move.offset move.instant

end Timestamp

/-- The days of the calendar are the Gregorian days, and their numbers are all numbers
below `dayCount`. Numbering and its inverse undo each other, a day and the next have a
number and the next, and an earlier day has a smaller number. So moments read at one
offset are ordered as their fields are. What a timestamp's text gives is the moment
that is written there, moved to UTC, and what is written of a moment is its move to
UTC, which there is as long as UTC has the day. -/
theorem day_numbers_isomorphic :
    (∀ year month day, IsGregorian year month day ↔
      ∃ d : Date, d.year = year ∧ d.month = month ∧ d.day = day) ∧
    ((∀ d : Date, ∃ inside : d.ordinal < dayCount, Date.ofOrdinal d.ordinal inside = d) ∧
      (∀ n (inside : n < dayCount), (Date.ofOrdinal n inside).ordinal = n) ∧
      Date.first.ordinal = 0 ∧ Date.last.ordinal + 1 = dayCount) ∧
    (∀ a b : Date, (a.IsNext b ↔ b.ordinal = a.ordinal + 1) ∧
      (a.Before b ↔ a.ordinal < b.ordinal)) ∧
    (∀ a b : Moment, a.offset = b.offset → (a < b ↔ a.wall.fields.row < b.wall.fields.row) ∧
      (a ≈ b ↔ a.wall.fields = b.wall.fields)) ∧
    (∀ (text : Text) (u : Moment), Timestamp.parse text = .ok u →
      ∃ (s : Timestamp.Spelling) (here : Moment), text = .ofChars s.chars ∧
        s.moment? = .ok (some here) ∧ here.MovesTo u) ∧
    ∀ m : Moment, ((∃ u, m.MovesTo u) ↔ m.HasUtcForm) ∧
      ∀ u, m.MovesTo u → Timestamp.write m = u.chars := by
  refine ⟨fun _ _ _ => isGregorian_iff, ⟨?there, Date.ordinal_ofOrdinal, by decide, by decide⟩,
    fun a b => ⟨Date.isNext_iff, Date.ordinal_lt_ordinal_iff.symm⟩,
    fun a b same => ⟨Moment.lt_iff_row same, Moment.equiv_iff_fields same⟩,
    fun text u => Timestamp.movesTo_of_parse,
    fun m => ⟨Moment.exists_movesTo_iff, fun u => Timestamp.write_of_movesTo⟩⟩
  case there =>
    intro d
    exact ⟨d.ordinal_lt, d.ofOrdinal_ordinal⟩

/-- Half an hour into March of a leap year, an hour east of UTC, is February in UTC. Of
two hours of that February's last day the earlier one has the smaller fields. -/
theorem day_numbers_isomorphic_of_leap_day :
    let text : Text := Text.ofString "2000-03-01T00:30:00+01:00"
    let u : Moment := ⟨.ofMicros 63087463800000000 (by decide), .utc⟩
    let a : Moment := .onLeapDay 9 2
    let b : Moment := .onLeapDay 21 2
    (Timestamp.parse text = .ok u ∧ u.wall.fields = ⟨2000, 2, 29, 23, 30, 0, 0⟩ ∧
      ∃ (s : Timestamp.Spelling) (here : Moment), text = .ofChars s.chars ∧
        s.moment? = .ok (some here) ∧ here.MovesTo u) ∧
    a.offset = b.offset ∧ a.wall.fields.row < b.wall.fields.row ∧ a < b := by
  intro text u a b
  have read : Timestamp.parse text = .ok u := rfl
  have same : a.offset = b.offset := rfl
  have fields : a.wall.fields.row < b.wall.fields.row := by decide
  obtain ⟨-, -, -, order, reading, -⟩ := day_numbers_isomorphic
  exact ⟨⟨read, rfl, reading text u read⟩, same, fields, (order a b same).1.mpr fields⟩

end Timespan
