import Timespan.Interval.Algebra
import Timespan.Interval.Text
import Timespan.Proofs.Calendar.Instant

/-! What the operations on two intervals return, told by the order of their ends. The
gap depends on the order of its operands only where each lies before the other, as
inverted intervals may. -/
namespace Timespan.Interval

variable {a b : Interval}

theorem gap?_of_before (before : a.stop < b.start) : a.gap? b = some ⟨a.stop, b.start⟩ :=
  if_pos before

theorem gap?_of_after (reached : b.start ≤ a.stop) (after : b.stop < a.start) :
    a.gap? b = some ⟨b.stop, a.start⟩ := by
  rw [gap?, if_neg (Moment.not_lt.mpr reached), if_pos after]

theorem gap?_of_reached (reached : b.start ≤ a.stop) (reaches : a.start ≤ b.stop) :
    a.gap? b = none := by
  rw [gap?, if_neg (Moment.not_lt.mpr reached), if_neg (Moment.not_lt.mpr reaches)]

theorem gap?_eq_none_iff : a.gap? b = none ↔ b.start ≤ a.stop ∧ a.start ≤ b.stop := by
  constructor
  · intro missing
    by_cases before : a.stop < b.start
    · rw [gap?_of_before before] at missing
      contradiction
    · have reached := Moment.not_lt.mp before
      refine ⟨reached, Moment.not_lt.mp fun after => ?_⟩
      rw [gap?_of_after reached after] at missing
      contradiction
  · rintro ⟨reached, reaches⟩
    exact gap?_of_reached reached reaches

/-- Unless each interval lies before the other, the gap is the same from both. -/
theorem gap?_comm (one : ¬ (a.stop < b.start ∧ b.stop < a.start)) : a.gap? b = b.gap? a := by
  by_cases before : a.stop < b.start
  · have reaches : a.start ≤ b.stop := Moment.not_lt.mp fun after => one ⟨before, after⟩
    rw [gap?_of_before before, gap?_of_after reaches before]
  · have reached : b.start ≤ a.stop := Moment.not_lt.mp before
    by_cases after : b.stop < a.start
    · rw [gap?_of_after reached after, gap?_of_before after]
    · have reaches : a.start ≤ b.stop := Moment.not_lt.mp after
      rw [gap?_of_reached reached reaches, gap?_of_reached reaches reached]

/-- Where each interval lies before the other, the two gaps are equivalent only if
the intervals are. -/
theorem rel_gap?_iff_of_both (before : a.stop < b.start) (after : b.stop < a.start) :
    Option.Rel (· ≈ ·) (a.gap? b) (b.gap? a) ↔ a ≈ b := by
  rw [gap?_of_before before, gap?_of_before after]
  constructor
  · rintro (same | _)
    obtain ⟨stops, starts⟩ := equiv_iff.mp same
    exact equiv_iff.mpr ⟨starts.symm, stops⟩
  · intro same
    obtain ⟨starts, stops⟩ := equiv_iff.mp same
    exact .some (equiv_iff.mpr ⟨stops, starts.symm⟩)

theorem rel_of_eq {g h : Option Interval} (same : g = h) : Option.Rel (· ≈ ·) g h := by
  subst same
  cases g with
  | none => exact .none
  | some x => exact .some (Setoid.refl x)

/-- The gaps from both sides are missing together. They are equivalent exactly when
the intervals are or do not each lie before the other, and so whenever neither
interval is inverted. -/
theorem gap?_symmetric_iff (a b : Interval) :
    (a.gap? b = none ↔ b.gap? a = none) ∧
      (Option.Rel (· ≈ ·) (a.gap? b) (b.gap? a) ↔
        a ≈ b ∨ ¬ (a.stop < b.start ∧ b.stop < a.start)) ∧
      (a.start ≤ a.stop → b.start ≤ b.stop → Option.Rel (· ≈ ·) (a.gap? b) (b.gap? a)) := by
  refine ⟨?_, ?_, ?_⟩
  · rw [gap?_eq_none_iff, gap?_eq_none_iff, and_comm]
  · by_cases both : a.stop < b.start ∧ b.stop < a.start
    · simp only [rel_gap?_iff_of_both both.1 both.2, both, and_self, not_true_eq_false, or_false]
    · simp only [rel_of_eq (gap?_comm both), both, not_false_eq_true, or_true]
  · intro properA properB
    apply rel_of_eq
    apply gap?_comm
    rintro ⟨before, after⟩
    simp only [Moment.lt_iff, Moment.le_iff] at *
    omega

/-- Of two inverted intervals that each lie before the other, the gap from one is
three days long and that from the other one. -/
theorem gap?_not_symmetric : ∃ a b : Interval,
    parse (Text.ofString "2000-01-03T00:00:00+00:00/2000-01-01T00:00:00+00:00") = .ok a ∧
      parse (Text.ofString "2000-01-04T00:00:00+00:00/2000-01-02T00:00:00+00:00") = .ok b ∧
      ¬ Option.Rel (· ≈ ·) (a.gap? b) (b.gap? a) := by
  have early : parse (Text.ofString "2000-01-03T00:00:00+00:00/2000-01-01T00:00:00+00:00") =
      .ok ⟨⟨.ofMicros 63082454400000000 (by decide), .utc⟩,
        ⟨.ofMicros 63082281600000000 (by decide), .utc⟩⟩ := rfl
  have late : parse (Text.ofString "2000-01-04T00:00:00+00:00/2000-01-02T00:00:00+00:00") =
      .ok ⟨⟨.ofMicros 63082540800000000 (by decide), .utc⟩,
        ⟨.ofMicros 63082368000000000 (by decide), .utc⟩⟩ := rfl
  refine ⟨_, _, early, late, ?_⟩
  rw [rel_gap?_iff_of_both (by decide) (by decide)]
  decide

end Timespan.Interval
