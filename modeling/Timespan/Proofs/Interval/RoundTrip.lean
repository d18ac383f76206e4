import Timespan.Proofs.Interval.Sides
import Timespan.Proofs.Timestamp.Written

/-! Intervals written and read back. The text gives an equivalent interval in UTC when
both ends have a form there, and is otherwise refused for the first that has none. -/
namespace Timespan.Interval

/-- The first end without a form in UTC. -/
inductive FirstBeyondUtc (x : Interval) : Edge → Moment → Prop where
  | start : ¬ x.start.HasUtcForm → FirstBeyondUtc x .start x.start
  | stop : x.start.HasUtcForm → ¬ x.stop.HasUtcForm → FirstBeyondUtc x .stop x.stop

theorem separator_not_mem_write (m : Moment) : separator ∉ Timestamp.write m := by
  intro member
  have allowed := Timestamp.isWritten_chars _ _ member
  simp [Timestamp.IsWritten, separator, Char.isDigit] at allowed

theorem slash_not_mem_write (m : Moment) : slash ∉ Text.ofChars (Timestamp.write m) := by
  intro member
  obtain ⟨c, written, same⟩ := List.mem_map.mp member
  have c_eq : c = separator := by
    have := congrArg CodePoint.char? same
    simpa only [slash, CodePoint.char?_ofChar, Option.some.injEq] using this
  exact separator_not_mem_write m (c_eq ▸ written)

theorem parse_write (m : Moment) :
    Timestamp.parse (.ofChars (Timestamp.write m)) = Timestamp.read (Timestamp.write m) := by
  rw [Timestamp.parse, Text.chars?_ofChars]

theorem toText_eq_sides (x : Interval) : x.toText =
    Text.ofChars (Timestamp.write x.start) ++ slash :: Text.ofChars (Timestamp.write x.stop) := by
  rw [toText, write, ofChars_sides]

/-- Why the text of a moment without a form in UTC is refused. -/
def refusal (m : Moment) : Timestamp.Error :=
  if m.offset.WholeMinutes then .outOfRange (.ofChars (Timestamp.write m))
  else .notRfc3339 (.ofChars (Timestamp.write m))

theorem parse_toText (x : Interval) : parse x.toText =
    match x.start.utc?, x.stop.utc? with
    | some start, some stop => .ok ⟨start, stop⟩
    | none, _ => .error (.edge x.toText .start (refusal x.start))
    | some _, none => .error (.edge x.toText .stop (refusal x.stop)) := by
  rw [toText_eq_sides, parse_sides (slash_not_mem_write _) (slash_not_mem_write _), parse_write,
    parse_write, Timestamp.read_write, Timestamp.read_write]
  cases x.start.utc? with
  | none => rfl
  | some start => cases x.stop.utc? <;> rfl

/-- What is read back is equivalent, in UTC, and written the same. -/
theorem parse_toText_eq_ok_iff {x y : Interval} : parse x.toText = .ok y ↔
    y ≈ x ∧ y.start.offset = .utc ∧ y.stop.offset = .utc := by
  have read : parse x.toText = .ok y ↔ x.start.utc? = some y.start ∧ x.stop.utc? = some y.stop := by
    rw [parse_toText]
    cases x.start.utc? with
    | none => simp
    | some start =>
      cases x.stop.utc? with
      | none => simp
      | some stop =>
        cases y
        simp
  rw [read, Moment.utc?_eq_some_iff, Moment.utc?_eq_some_iff, equiv_iff]
  exact ⟨fun ⟨⟨a, b⟩, c, d⟩ => ⟨⟨b, d⟩, a, c⟩, fun ⟨⟨b, d⟩, a, c⟩ => ⟨⟨a, b⟩, c, d⟩⟩

theorem toText_eq_of_equiv {x y : Interval} (same : y ≈ x) (start : y.start.offset = .utc)
    (stop : y.stop.offset = .utc) : y.toText = x.toText := by
  obtain ⟨first, last⟩ := equiv_iff.mp same
  rw [toText_eq_sides, toText_eq_sides, Timestamp.write_eq_chars start rfl,
    Timestamp.write_eq_chars start first, Timestamp.write_eq_chars stop rfl,
    Timestamp.write_eq_chars stop last]

theorem duration_eq_of_equiv {x y : Interval} (same : y ≈ x) : y.duration = x.duration := by
  obtain ⟨start, stop⟩ := equiv_iff.mp same
  simp only [duration, Moment.durationTo, start, stop]

theorem parse_toText_eq_error {x : Interval} {e : TextError} (failed : parse x.toText = .error e) :
    ∃ edge m, x.FirstBeyondUtc edge m ∧ e = .edge x.toText edge (refusal m) := by
  rw [parse_toText] at failed
  cases start : x.start.utc? with
  | none =>
    rw [start] at failed
    cases failed
    exact ⟨.start, x.start, .start (Moment.utc?_eq_none_iff.mp start), rfl⟩
  | some first =>
    cases stop : x.stop.utc? with
    | none =>
      rw [start, stop] at failed
      cases failed
      have reached := Moment.exists_utc_iff.mpr ⟨first, Moment.utc?_eq_some_iff.mp start⟩
      exact ⟨.stop, x.stop, .stop reached (Moment.utc?_eq_none_iff.mp stop), rfl⟩
    | some last =>
      rw [start, stop] at failed
      contradiction

theorem exists_parse_toText_iff {x : Interval} :
    (∃ y, parse x.toText = .ok y) ↔ x.start.HasUtcForm ∧ x.stop.HasUtcForm := by
  simp only [parse_toText_eq_ok_iff, equiv_iff, Moment.exists_utc_iff]
  constructor
  · rintro ⟨y, ⟨first, last⟩, start, stop⟩
    exact ⟨⟨y.start, start, first⟩, y.stop, stop, last⟩
  · rintro ⟨⟨first, start, firstSame⟩, last, stop, lastSame⟩
    exact ⟨⟨first, last⟩, ⟨firstSame, lastSame⟩, start, stop⟩

/-- Intervals survive their text exactly when both ends have a form in UTC. What
comes back is then equivalent and as long, stands in UTC and is written the same.
Otherwise the first end without a form in UTC is reported with the whole text:
out of range at an offset of whole minutes, and no timestamp at any other. -/
theorem toText_round_trip (x : Interval) :
    ((∃ y, parse x.toText = .ok y) ↔ x.start.HasUtcForm ∧ x.stop.HasUtcForm) ∧
      (∀ y, parse x.toText = .ok y → y ≈ x ∧ y.duration = x.duration ∧
        y.start.offset = .utc ∧ y.stop.offset = .utc ∧ y.toText = x.toText) ∧
      (∀ e, parse x.toText = .error e → e.text = x.toText ∧
        ∃ edge m, x.FirstBeyondUtc edge m ∧ e = .edge x.toText edge (refusal m) ∧
          e.reason = (if m.offset.WholeMinutes then "Timestamp out of range: "
            else "Not an RFC 3339 timestamp: ") ++ quote (.ofChars (Timestamp.write m))) := by
  refine ⟨exists_parse_toText_iff, ?_, ?_⟩
  · intro y read
    obtain ⟨same, start, stop⟩ := parse_toText_eq_ok_iff.mp read
    exact ⟨same, duration_eq_of_equiv same, start, stop, toText_eq_of_equiv same start stop⟩
  · intro e failed
    obtain ⟨edge, m, first, rfl⟩ := parse_toText_eq_error failed
    refine ⟨rfl, edge, m, first, rfl, ?_⟩
    -- unfolded, not rewritten: texts put together do not reduce well
    unfold TextError.reason Timestamp.Error.message
    by_cases whole : m.offset.WholeMinutes
    · rw [refusal, if_pos whole, if_pos whole]
    · rw [refusal, if_neg whole, if_neg whole]

end Timespan.Interval
