import Timespan.Moment
import Timespan.Proofs.Calendar.WallTime

/-! Moments told by their instants. An instant and an offset determine a moment; in UTC
there is one exactly where `Moment.HasUtcForm` says so. Moments are compared, and the
earlier and the later taken, by their instants. -/
namespace Timespan

attribute [ext] Offset Moment

namespace Moment

theorem ext_of_instant {a b : Moment} (offset : a.offset = b.offset)
    (instant : a.instant = b.instant) : a = b := by
  have wall : a.wall = b.wall := by
    apply DateTime.micros_injective
    simp only [Moment.instant, offset] at instant
    omega
  exact Moment.ext wall offset

theorem atOffset?_eq_some_iff {m u : Moment} {o : Offset} :
    m.atOffset? o = some u ↔ u.offset = o ∧ u.instant = m.instant := by
  simp only [atOffset?, Option.map_eq_some_iff, DateTime.ofMicros?_eq_some_iff]
  constructor
  · rintro ⟨wall, count, rfl⟩
    refine ⟨rfl, ?_⟩
    simp only [instant] at *
    omega
  · rintro ⟨rfl, same⟩
    refine ⟨u.wall, ?_, rfl⟩
    simp only [instant] at *
    omega

theorem utc?_eq_some_iff {m u : Moment} :
    m.utc? = some u ↔ u.offset = .utc ∧ u.instant = m.instant :=
  atOffset?_eq_some_iff

theorem utc?_eq_none_iff {m : Moment} : m.utc? = none ↔ ¬ m.HasUtcForm := by
  simp only [utc?, atOffset?, Option.map_eq_none_iff, DateTime.ofMicros?_eq_none_iff, HasUtcForm,
    Offset.utc, Int.add_zero]

theorem exists_utc_iff {m : Moment} :
    m.HasUtcForm ↔ ∃ u : Moment, u.offset = .utc ∧ u.instant = m.instant := by
  constructor
  · intro inside
    cases found : m.utc? with
    | none => exact absurd inside (utc?_eq_none_iff.mp found)
    | some u => exact ⟨u, utc?_eq_some_iff.mp found⟩
  · rintro ⟨u, utc⟩
    apply Decidable.byContradiction
    intro beyond
    rw [← utc?_eq_none_iff, utc?_eq_some_iff.mpr utc] at beyond
    contradiction

theorem instant_of_utc {m : Moment} (h : m.offset = .utc) : m.instant = m.wall.micros := by
  simp only [instant, h, Offset.utc, Int.sub_zero]

theorem hasUtcForm_of_utc {m : Moment} (h : m.offset = .utc) : m.HasUtcForm :=
  exists_utc_iff.mpr ⟨m, h, rfl⟩

/-- In UTC a moment is already in its own form. -/
theorem utc?_of_utc {m : Moment} (h : m.offset = .utc) : m.utc? = some m :=
  utc?_eq_some_iff.mpr ⟨h, rfl⟩

/-- Some offset brings an instant into the calendar exactly when it is within a day of it. -/
theorem exists_instant_iff {n : Int} :
    (∃ m : Moment, m.instant = n) ↔ -86400000000 < n ∧ n < DateTime.span + 86399999999 := by
  constructor
  · rintro ⟨m, rfl⟩
    have count := m.wall.micros_lt
    have lower := m.offset.lower
    have upper := m.offset.upper
    simp only [instant]
    omega
  · rintro ⟨lower, upper⟩
    -- the wall nearest to the instant, at the offset that makes up the rest
    let count : Nat := min n.toNat (DateTime.span - 1)
    have inside : count < DateTime.span := by
      have positive : 0 < DateTime.span := by decide
      omega
    refine ⟨⟨.ofMicros count inside, ⟨count - n, by omega, by omega⟩⟩, ?_⟩
    simp only [instant, DateTime.micros_ofMicros]
    omega

section Order

variable {a b : Moment}

theorem lt_iff : a < b ↔ a.instant < b.instant := Iff.rfl

theorem le_iff : a ≤ b ↔ a.instant ≤ b.instant := Iff.rfl

theorem equiv_iff : a ≈ b ↔ a.instant = b.instant := Iff.rfl

theorem not_lt : ¬ a < b ↔ b ≤ a := Int.not_lt

theorem earlier_of_le (h : a ≤ b) : a.earlier b = a :=
  if_neg (not_lt.mpr h)

theorem earlier_of_lt (h : b < a) : a.earlier b = b :=
  if_pos h

theorem later_of_le (h : b ≤ a) : a.later b = a :=
  if_neg (not_lt.mpr h)

theorem later_of_lt (h : a < b) : a.later b = b :=
  if_pos h

theorem instant_earlier : (a.earlier b).instant = min a.instant b.instant := by
  by_cases before : b < a
  · rw [earlier_of_lt before, Int.min_eq_right (Int.le_of_lt before)]
  · have after := not_lt.mp before
    rw [earlier_of_le after, Int.min_eq_left after]

theorem instant_later : (a.later b).instant = max a.instant b.instant := by
  by_cases before : a < b
  · rw [later_of_lt before, Int.max_eq_right (Int.le_of_lt before)]
  · have after := not_lt.mp before
    rw [later_of_le after, Int.max_eq_left after]

section Congruence

variable {c d : Moment}

theorem lt_congr (left : a ≈ c) (right : b ≈ d) : a < b ↔ c < d := by
  rw [lt_iff, lt_iff, equiv_iff.mp left, equiv_iff.mp right]

theorem le_congr (left : a ≈ c) (right : b ≈ d) : a ≤ b ↔ c ≤ d := by
  rw [le_iff, le_iff, equiv_iff.mp left, equiv_iff.mp right]

theorem equiv_congr (left : a ≈ c) (right : b ≈ d) : a ≈ b ↔ c ≈ d := by
  rw [equiv_iff, equiv_iff, equiv_iff.mp left, equiv_iff.mp right]

theorem earlier_congr (left : a ≈ c) (right : b ≈ d) : a.earlier b ≈ c.earlier d := by
  rw [equiv_iff, instant_earlier, instant_earlier, equiv_iff.mp left, equiv_iff.mp right]

theorem later_congr (left : a ≈ c) (right : b ≈ d) : a.later b ≈ c.later d := by
  rw [equiv_iff, instant_later, instant_later, equiv_iff.mp left, equiv_iff.mp right]

end Congruence

end Order

/-- A full minute of a day, at an offset: moments in which general statements are
instantiated. -/
def onDay (day : Date) (hour : Fin 24) (minute : Fin 60) (offset : Offset) : Moment :=
  ⟨⟨day, ⟨hour, minute, 0, 0, hour.isLt, minute.isLt, by decide, by decide⟩⟩, offset⟩

/-- A full hour of a day, at an offset of whole hours east of UTC. -/
def onHour (day : Date) (hour east : Fin 24) : Moment :=
  onDay day hour 0 ⟨east * 3600000000, by omega, by omega⟩

/-- A full hour of 29 February 2000, at an offset of whole hours east of UTC. -/
def onLeapDay (hour east : Fin 24) : Moment :=
  onHour .leapDay hour east

end Moment

end Timespan
