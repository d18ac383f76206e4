import Timespan.Proofs.Interval.Instants

/-! Containment as inclusion of instants. An interval that starts before it stops has a
last instant, a microsecond before its stop, and some offset shows it. -/
namespace Timespan.Interval

variable {a b : Interval} {m : Moment}

theorem mem_of_contains (outer : a.Contains b) (inside : m ∈ b) : m ∈ a :=
  ⟨Int.le_trans outer.1 inside.1, Int.lt_of_lt_of_le inside.2 outer.2⟩

/-- An interval that starts before it stops takes in the microsecond before its stop. -/
theorem exists_last_mem (proper : b.start < b.stop) :
    ∃ m : Moment, m ∈ b ∧ m.instant + 1 = b.stop.instant := by
  have lower := b.start.instant_bounds.1
  have upper := (Moment.exists_instant_iff.mp ⟨b.stop, rfl⟩).2
  rw [Moment.lt_iff] at proper
  obtain ⟨m, last⟩ : ∃ m : Moment, m.instant = b.stop.instant - 1 :=
    Moment.exists_instant_iff.mpr ⟨by omega, by omega⟩
  exact ⟨m, mem_iff.mpr ⟨by omega, by omega⟩, by omega⟩

/-- An interval contains one that starts before it stops exactly when it takes in all its
instants. -/
theorem contains_iff_forall_mem (proper : b.start < b.stop) :
    a.Contains b ↔ ∀ m : Moment, m ∈ b → m ∈ a := by
  constructor
  · intro outer m inside
    exact mem_of_contains outer inside
  · intro takesIn
    obtain ⟨last, inside, next⟩ := exists_last_mem proper
    obtain ⟨starts, -⟩ := mem_iff.mp (takesIn b.start ⟨Int.le_refl _, proper⟩)
    obtain ⟨-, stops⟩ := mem_iff.mp (takesIn last inside)
    exact ⟨starts, by rw [Moment.le_iff]; omega⟩

/-- The first microsecond that any offset shows, in an interval that stops at the calendar's
first midnight in UTC. No offset but that of its start shows the instant in it. -/
theorem contains_iff_forall_mem_of_first :
    let first : DateTime := .ofMicros 0 (by decide)
    let b : Interval := ⟨⟨first, ⟨86399999999, by decide, by decide⟩⟩,
      ⟨first, ⟨86399999998, by decide, by decide⟩⟩⟩
    let a : Interval := ⟨b.start, ⟨first, .utc⟩⟩
    b.start < b.stop ∧ a.Contains b ∧ ∀ m : Moment, m ∈ b → m ∈ a := by
  intro first b a
  have proper : b.start < b.stop := by decide
  have outer : a.Contains b := by decide
  exact ⟨proper, outer, (contains_iff_forall_mem proper).mp outer⟩

end Timespan.Interval
