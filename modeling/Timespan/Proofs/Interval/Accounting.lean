import Timespan.Proofs.Calendar.Length
import Timespan.Proofs.Interval.Placement

/-! Lengths accounted for. From the first start of two intervals to the last stop it
takes as long as both last, less what they share and with the gap between them. -/
namespace Timespan.Interval

variable {a b : Interval}

/-- How long an interval lasts that may be missing: no time when it is. -/
def lengthOf : Option Interval → Duration
  | none => 0
  | some x => x.duration

/-- The lengths of two intervals together, with what they share counted once. -/
def coveredLength (a b : Interval) : Except TooLong Duration :=
  (a.duration.add b.duration).bind fun both => both.sub (lengthOf (a.inter? b))

/-- The same, and the gap between them. -/
def accountedLength (a b : Interval) : Except TooLong Duration :=
  (coveredLength a b).bind fun covered => covered.add (lengthOf (a.gap? b))

/-- The microseconds from the first start of two intervals to the last stop. -/
def reach (a b : Interval) : Int :=
  max a.stop.instant b.stop.instant - min a.start.instant b.start.instant

theorem micros_lengthOf_none : (lengthOf none).micros = 0 := rfl

theorem micros_duration (x : Interval) : x.duration.micros = x.stop.instant - x.start.instant := rfl

/-- No interval lasts longer than the calendar with a day on either side. -/
theorem duration_bounds (x : Interval) :
    -(DateTime.span + 172800000000) < x.duration.micros ∧
      x.duration.micros < DateTime.span + 172800000000 := by
  have start := x.start.instant_bounds
  have stop := x.stop.instant_bounds
  rw [micros_duration]
  omega

theorem reach_add_overlap (a b : Interval) :
    reach a b + (a.overlap b).duration.micros = a.duration.micros + b.duration.micros := by
  simp only [reach, micros_duration, overlap, Moment.instant_later, Moment.instant_earlier]
  omega

theorem micros_hull (a b : Interval) : (a.hull b).duration.micros = reach a b := by
  rw [micros_duration, hull, Moment.instant_later, Moment.instant_earlier, reach]

/-- An interval counts for as long as it runs forwards. -/
theorem micros_forward? (x : Interval) :
    (lengthOf x.forward?).micros = max 0 x.duration.micros := by
  rw [micros_duration]
  by_cases forwards : x.start < x.stop
  · rw [forward?_eq_some_iff.mpr ⟨forwards, rfl⟩, lengthOf, micros_duration]
    rw [Moment.lt_iff] at forwards
    omega
  · rw [forward?_eq_none_iff.mpr forwards, micros_lengthOf_none]
    rw [Moment.lt_iff] at forwards
    omega

theorem micros_inter (a b : Interval) :
    (lengthOf (a.inter? b)).micros = max 0 (a.overlap b).duration.micros := by
  rw [inter?_eq_forward?, micros_forward?]

theorem micros_gap (properA : a.start ≤ a.stop) (properB : b.start ≤ b.stop) :
    (lengthOf (a.gap? b)).micros = max 0 (-(a.overlap b).duration.micros) := by
  rw [gap?_eq_forward?_reversed properA properB, micros_forward?]
  simp only [reversed, micros_duration, Int.neg_sub]

theorem exists_coveredLength (a b : Interval) : ∃ d : Duration, coveredLength a b = .ok d ∧
    d.micros = a.duration.micros + b.duration.micros - (lengthOf (a.inter? b)).micros := by
  have boundsA := a.duration_bounds
  have boundsB := b.duration_bounds
  have boundsShared := (a.overlap b).duration_bounds
  have shared := micros_inter a b
  simp only [DateTime.span, dayCount, microsPerDay] at boundsA boundsB boundsShared
  let both : Duration := ⟨a.duration.micros + b.duration.micros, by omega, by omega⟩
  let once : Duration := ⟨both.micros - (lengthOf (a.inter? b)).micros,
    by simp only [both]; omega, by simp only [both]; omega⟩
  have added : a.duration.add b.duration = .ok both := Duration.add_eq_ok_of_micros rfl
  refine ⟨once, ?_, rfl⟩
  rw [coveredLength, added]
  exact Duration.sub_eq_ok_of_micros rfl

/-- From the first start of two intervals that are not inverted to the last stop it takes as
long as both last, less what they share and with the gap between them. A union lasts that long,
and as long as both less what they share. -/
theorem reach_accounted (properA : a.start ≤ a.stop) (properB : b.start ≤ b.stop) :
    (∃ whole, accountedLength a b = .ok whole ∧ whole.micros = reach a b) ∧
      ∀ u, a.union? b = some u → coveredLength a b = .ok u.duration ∧
        u.duration.micros = reach a b := by
  obtain ⟨covered, counted, micros⟩ := exists_coveredLength a b
  have ends := reach_add_overlap a b
  have shared := micros_inter a b
  have between := micros_gap properA properB
  have hull := micros_hull a b
  constructor
  · refine ⟨(a.hull b).duration, ?_, hull⟩
    rw [accountedLength, counted]
    exact Duration.add_eq_ok_of_micros (by omega)
  · intro u joined
    obtain ⟨near, rfl⟩ := union?_eq_some_iff.mp joined
    rw [gap?_eq_none_iff.mpr near, micros_lengthOf_none] at between
    refine ⟨?_, hull⟩
    rw [counted]
    exact congrArg Except.ok (Duration.ext (by omega))

/-- Four hours of a morning, five from an hour before its end, and three of an evening six
hours after it, with stops and starts read further east: eight hours from the first start
to the second stop, thirteen to the third. -/
theorem reach_accounted_of_day :
    let hour : Int := 3600000000
    let a : Interval := ⟨.onLeapDay 8 0, .onLeapDay 13 1⟩
    let b : Interval := ⟨.onLeapDay 11 0, .onLeapDay 18 2⟩
    let c : Interval := ⟨.onLeapDay 20 2, .onLeapDay 21 0⟩
    (a.start ≤ a.stop ∧ b.start ≤ b.stop ∧ c.start ≤ c.stop) ∧
      (a.duration.micros = 4 * hour ∧ b.duration.micros = 5 * hour ∧
        c.duration.micros = 3 * hour) ∧
      ((lengthOf (a.inter? b)).micros = hour ∧ (lengthOf (a.gap? c)).micros = 6 * hour) ∧
      (∃ whole, accountedLength a b = .ok whole ∧ whole.micros = 8 * hour) ∧
      (∃ whole, accountedLength a c = .ok whole ∧ whole.micros = 13 * hour) ∧
      ∃ u, a.union? b = some u ∧ coveredLength a b = .ok u.duration ∧
        u.duration.micros = 8 * hour := by
  intro hour a b c
  have properA : a.start ≤ a.stop := by decide
  have properB : b.start ≤ b.stop := by decide
  have properC : c.start ≤ c.stop := by decide
  have eight : reach a b = 8 * hour := by decide
  have thirteen : reach a c = 13 * hour := by decide
  have joined : a.union? b = some ⟨a.start, b.stop⟩ := by decide
  obtain ⟨⟨near, sumNear, microsNear⟩, union⟩ := reach_accounted properA properB
  obtain ⟨⟨apart, sumApart, microsApart⟩, -⟩ := reach_accounted properA properC
  obtain ⟨covered, long⟩ := union _ joined
  exact ⟨⟨properA, properB, properC⟩, by decide, by decide,
    ⟨near, sumNear, microsNear.trans eight⟩, ⟨apart, sumApart, microsApart.trans thirteen⟩,
    ⟨⟨a.start, b.stop⟩, joined, covered, long.trans eight⟩⟩

end Timespan.Interval
