import Timespan.Proofs.Interval.Operations

/-! Intervals as sets of instants. An intersection takes in what both intervals do, and
a union of two without a gap between them what either does, also of inverted ones. -/
namespace Timespan.Interval

variable {a b : Interval} {m : Moment}

theorem mem_iff {x : Interval} :
    m ∈ x ↔ x.start.instant ≤ m.instant ∧ m.instant < x.stop.instant := Iff.rfl

/-- The stretch from the later start to the earlier stop, empty or not. -/
def overlap (a b : Interval) : Interval :=
  ⟨a.start.later b.start, a.stop.earlier b.stop⟩

theorem mem_overlap_iff : m ∈ a.overlap b ↔ m ∈ a ∧ m ∈ b := by
  simp only [mem_iff, overlap, Moment.instant_later, Moment.instant_earlier]
  omega

/-- The interval when it runs forwards, and none when it does not. -/
def forward? (x : Interval) : Option Interval :=
  if x.start < x.stop then some x else none

theorem forward?_eq_some_iff {x i : Interval} :
    x.forward? = some i ↔ x.start < x.stop ∧ x = i := by
  rw [forward?, Option.ite_none_right_eq_some, Option.some.injEq]

theorem forward?_eq_none_iff {x : Interval} : x.forward? = none ↔ ¬ x.start < x.stop := by
  simp only [forward?, ite_eq_right_iff, reduceCtorEq, imp_false]

theorem inter?_eq_forward? : a.inter? b = (a.overlap b).forward? := rfl

theorem inter?_eq_some_iff {i : Interval} :
    a.inter? b = some i ↔ (a.overlap b).start < (a.overlap b).stop ∧ a.overlap b = i := by
  rw [inter?_eq_forward?, forward?_eq_some_iff]

theorem inter?_eq_none_iff : a.inter? b = none ↔ ¬ (a.overlap b).start < (a.overlap b).stop := by
  rw [inter?_eq_forward?, forward?_eq_none_iff]

theorem intersects_iff : a.Intersects b ↔ (a.overlap b).start < (a.overlap b).stop := by
  simp only [Intersects, Option.isSome_iff_exists, inter?_eq_some_iff, exists_and_left,
    exists_eq', and_true]

/-- An interval takes in an instant exactly when it starts before it stops. -/
theorem exists_mem_iff {x : Interval} : (∃ m : Moment, m ∈ x) ↔ x.start < x.stop := by
  constructor
  · rintro ⟨m, started, running⟩
    exact Int.lt_of_le_of_lt started running
  · intro proper
    exact ⟨x.start, Int.le_refl x.start.instant, proper⟩

/-- An intersection starts before it stops and takes in exactly what both intervals
take in; there is none exactly when that is nothing. -/
theorem inter?_exact (a b : Interval) :
    (∀ i, a.inter? b = some i → i.start < i.stop ∧ ∀ m : Moment, m ∈ i ↔ m ∈ a ∧ m ∈ b) ∧
      (a.inter? b = none ↔ ¬ a.Intersects b) ∧
      (a.inter? b = none ↔ ¬ ∃ m : Moment, m ∈ a ∧ m ∈ b) := by
  refine ⟨?_, ?_, ?_⟩
  · intro i found
    obtain ⟨shared, rfl⟩ := inter?_eq_some_iff.mp found
    exact ⟨shared, fun m => mem_overlap_iff⟩
  · exact Option.not_isSome_iff_eq_none.symm
  · simp only [inter?_eq_none_iff, ← exists_mem_iff, mem_overlap_iff]

/-- A morning and a stretch that starts in it, an hour east. -/
theorem inter?_exact_of_morning :
    let a : Interval := ⟨.onLeapDay 0 0, .onLeapDay 6 0⟩
    let b : Interval := ⟨.onLeapDay 4 1, .onLeapDay 9 0⟩
    let i : Interval := ⟨b.start, a.stop⟩
    a.inter? b = some i ∧ i.start < i.stop ∧ ∀ m : Moment, m ∈ i ↔ m ∈ a ∧ m ∈ b :=
  ⟨rfl, (inter?_exact _ _).1 _ rfl⟩

theorem union?_eq_some_iff {u : Interval} :
    a.union? b = some u ↔ (b.start ≤ a.stop ∧ a.start ≤ b.stop) ∧ a.hull b = u := by
  simp only [union?, Option.isNone_iff_eq_none, gap?_eq_none_iff, Option.ite_none_right_eq_some,
    Option.some.injEq]

theorem union?_eq_none_iff : a.union? b = none ↔ ¬ (b.start ≤ a.stop ∧ a.start ≤ b.stop) := by
  simp only [union?, Option.isNone_iff_eq_none, gap?_eq_none_iff, ite_eq_right_iff, reduceCtorEq,
    imp_false]

section Near

/- `near`: there is no gap between the two intervals. -/
variable (near : b.start ≤ a.stop ∧ a.start ≤ b.stop)
include near

theorem hull_proper : (a.hull b).start ≤ (a.hull b).stop := by
  obtain ⟨reached, reaches⟩ := near
  simp only [hull, Moment.le_iff, Moment.instant_earlier, Moment.instant_later] at *
  omega

theorem mem_hull_iff : m ∈ a.hull b ↔ m ∈ a ∨ m ∈ b := by
  obtain ⟨reached, reaches⟩ := near
  simp only [mem_iff, hull, Moment.le_iff, Moment.instant_earlier, Moment.instant_later] at *
  constructor
  · rintro ⟨started, running⟩
    by_cases inA : a.start.instant ≤ m.instant ∧ m.instant < a.stop.instant
    · exact .inl inA
    · -- before `a` the hull starts with `b`, after `a` it stops with `b`
      exact .inr (by omega)
  · rintro (inA | inB)
    · omega
    · omega

/-- An inverted interval lies between the ends of one that it has no gap to. -/
theorem ends_of_inverted (inverted : a.stop < a.start) :
    b.start < a.start ∧ a.stop < b.stop := by
  obtain ⟨reached, reaches⟩ := near
  simp only [Moment.lt_iff, Moment.le_iff] at *
  omega

theorem hull_of_left_inverted (inverted : a.stop < a.start) : a.hull b = b := by
  obtain ⟨starts, stops⟩ := ends_of_inverted near inverted
  rw [hull, Moment.earlier_of_lt starts, Moment.later_of_lt stops]

theorem hull_of_right_inverted (inverted : b.stop < b.start) : a.hull b = a := by
  obtain ⟨starts, stops⟩ := ends_of_inverted near.symm inverted
  rw [hull, Moment.earlier_of_le (Int.le_of_lt starts), Moment.later_of_le (Int.le_of_lt stops)]

end Near

theorem proper_of_union? {u : Interval} (joined : a.union? b = some u) : u.start ≤ u.stop := by
  obtain ⟨near, rfl⟩ := union?_eq_some_iff.mp joined
  exact hull_proper near

/-- A union does not stop before it starts and takes in exactly what either
interval takes in. It is the other interval when one is inverted, there is none
when both are, and there is one whenever the two share an instant. -/
theorem union?_exact (a b : Interval) :
    (∀ u, a.union? b = some u → u.start ≤ u.stop ∧ (∀ m : Moment, m ∈ u ↔ m ∈ a ∨ m ∈ b) ∧
        (a.stop < a.start → u = b) ∧ (b.stop < b.start → u = a)) ∧
      (a.stop < a.start → b.stop < b.start → a.union? b = none) ∧
      ∀ m : Moment, m ∈ a → m ∈ b → ∃ u, a.union? b = some u := by
  refine ⟨?_, ?_, ?_⟩
  · intro u joined
    obtain ⟨near, rfl⟩ := union?_eq_some_iff.mp joined
    exact ⟨hull_proper near, fun m => mem_hull_iff near, hull_of_left_inverted near,
      hull_of_right_inverted near⟩
  · intro invertedA invertedB
    cases joined : a.union? b with
    | none => rfl
    | some u =>
      obtain ⟨near, -⟩ := union?_eq_some_iff.mp joined
      have proper := hull_proper near
      rw [hull_of_left_inverted near invertedA] at proper
      exact absurd invertedB (Moment.not_lt.mpr proper)
  · intro m inA inB
    refine ⟨a.hull b, union?_eq_some_iff.mpr ⟨?_, rfl⟩⟩
    simp only [mem_iff, Moment.le_iff] at *
    omega

/-- An afternoon that runs backwards joins the day that it lies in. -/
theorem union?_exact_of_backwards :
    let a : Interval := ⟨.onLeapDay 18 0, .onLeapDay 12 0⟩
    let b : Interval := ⟨.onLeapDay 1 1, .onLeapDay 23 0⟩
    a.stop < a.start ∧ a.union? b = some b ∧ ∀ m : Moment, m ∈ b ↔ m ∈ a ∨ m ∈ b :=
  ⟨by decide, rfl, ((union?_exact _ _).1 _ rfl).2.1⟩

end Timespan.Interval
