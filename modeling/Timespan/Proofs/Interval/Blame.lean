import Timespan.Proofs.Interval.Sides
import Timespan.Proofs.Timestamp.Refusal
import Timespan.Worksheet

/-! What an interval's text is refused for: the count of its separators unless there is
exactly one, otherwise the first side that is no timestamp, with the causes of that side
behind it. -/
namespace Timespan.Interval

/-- The text is refused over an error of one side: in that error's words, with the
error behind the refusal and behind it the failure below, if there is one. -/
def RefusedOver (text : Text) (f : Timestamp.Error) : Prop :=
  ∃ e, parse text = .error e ∧ e.text = text ∧ e.reason = f.message ∧
    e.causes = .timestamp f :: (f.underlying?.map Cause.underlying).toList

/-- The text is read as its two sides are, the start before the stop. Both ends
are then in UTC, and making the interval out of them is not refused. -/
structure DecidedBySides (text a b : Text) : Prop where
  read : ∀ start stop, Timestamp.parse a = .ok start → Timestamp.parse b = .ok stop →
    parse text = .ok ⟨start, stop⟩ ∧ ofStamps start.stamp stop.stamp = .ok ⟨start, stop⟩ ∧
      start.offset = .utc ∧ stop.offset = .utc
  start : ∀ f, Timestamp.parse a = .error f → RefusedOver text f
  stop : ∀ start f, Timestamp.parse a = .ok start → Timestamp.parse b = .error f →
    RefusedOver text f

/-- The failure below an error, for every text that the error can be about. -/
structure ShowsFailureBelow (text : Text) (f : Timestamp.Error) : Prop where
  encoding : f.underlying? = some .encoding ↔ Timestamp.HasForeignDigits text
  overflow : f.underlying? = some .overflow ↔ Timestamp.LeavesCalendar text

theorem ofStamps_of_moments (start stop : Moment) :
    ofStamps start.stamp stop.stamp = .ok ⟨start, stop⟩ := rfl

theorem utc_of_parse_timestamp {text : Text} {m : Moment} (read : Timestamp.parse text = .ok m) :
    m.offset = .utc := by
  obtain ⟨_, _, _, utc, _⟩ := Timestamp.parse_eq_ok_iff.mp read
  exact utc

theorem decidedBySides {a b : Text} (ha : slash ∉ a) (hb : slash ∉ b) :
    DecidedBySides (a ++ slash :: b) a b where
  read start stop first second := by
    refine ⟨?_, ofStamps_of_moments start stop, utc_of_parse_timestamp first,
      utc_of_parse_timestamp second⟩
    rw [parse_sides ha hb, first, second]
  start f first := by
    refine ⟨.edge (a ++ slash :: b) .start f, ?_, rfl, rfl, rfl⟩
    rw [parse_sides ha hb, first]
  stop start f first second := by
    refine ⟨.edge (a ++ slash :: b) .stop f, ?_, rfl, rfl, rfl⟩
    rw [parse_sides ha hb, first, second]

/-- A worksheet meets no other fault when it reads a text. -/
theorem fault_of_parse_step {w : Worksheet} {text : Text} {fault : Fault}
    (failed : w.answer (.parse text) = .fault fault) :
    ∃ e, parse text = .error e ∧ fault = .interval e := by
  cases read : parse text with
  | ok x => simp only [Worksheet.answer, read, reduceCtorEq] at failed
  | error e =>
    simp only [Worksheet.answer, read, Answer.fault.injEq] at failed
    exact ⟨e, rfl, failed.symm⟩

/-- How reading a text ends. Other than one separator: refused by their number,
over nothing. One separator: decided by the sides around it. The error of a side
tells what failed below it, the encoding for digits beyond ASCII and an overflow
for times beyond the calendar; the fault on a worksheet is never one of these but
the refusal of the interval. -/
theorem parse_blames_first_failing_side (text : Text) :
    (text.count slash ≠ 1 → ∃ e, parse text = .error e ∧ e.text = text ∧ e.causes = [] ∧
      e.reason = "expected exactly one '/', got " ++ Numeral.text (text.count slash)) ∧
    (text.count slash = 1 → ∃ a b : Text, text = a ++ slash :: b ∧ slash ∉ a ∧ slash ∉ b ∧
      DecidedBySides text a b) ∧
    (∀ side f, Timestamp.parse side = .error f → ShowsFailureBelow side f) ∧
    (∀ (w : Worksheet) fault, w.answer (.parse text) = .fault fault →
      ∃ e, parse text = .error e ∧ fault = .interval e) := by
  refine ⟨?_, ?_, ?_, fun w fault => fault_of_parse_step⟩
  · intro several
    exact ⟨.separators text (text.count slash), if_neg several, rfl, rfl, rfl⟩
  · intro one
    obtain ⟨a, b, rfl, ha, hb⟩ := exists_sides one
    exact ⟨a, b, rfl, ha, hb, decidedBySides ha hb⟩
  · intro side f failed
    exact ⟨Timestamp.underlying?_eq_encoding_iff failed, Timestamp.underlying?_eq_overflow_iff failed⟩

end Timespan.Interval
