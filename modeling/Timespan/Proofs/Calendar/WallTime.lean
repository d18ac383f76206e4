import Timespan.DateTime
import Timespan.Proofs.Calendar.DateOrder

/-! Wall times told by their counts of microseconds. Counting keeps the order, no two
wall times share a count, and moving along the count fails exactly where it leaves the
calendar. -/
namespace Timespan

attribute [ext] Clock DateTime

theorem Clock.micros_injective {a b : Clock} (h : a.micros = b.micros) : a = b := by
  calc a = ofMicros a.micros a.micros_lt := (ofMicros_micros a).symm
    _ = ofMicros b.micros b.micros_lt := by simp only [h]
    _ = b := ofMicros_micros b

/-- Clocks are compared by hour, minute, second and microsecond in turn. -/
theorem Clock.micros_lt_micros_iff {a b : Clock} : a.micros < b.micros ↔
    a.hour < b.hour ∨ a.hour = b.hour ∧ (a.minute < b.minute ∨ a.minute = b.minute ∧
      (a.second < b.second ∨ a.second = b.second ∧ a.microsecond < b.microsecond)) := by
  have := a.minute_lt
  have := a.second_lt
  have := a.microsecond_lt
  have := b.minute_lt
  have := b.second_lt
  have := b.microsecond_lt
  simp only [micros, microsPerSecond]
  omega

namespace DateTime

theorem micros_lt_micros_iff {a b : DateTime} : a.micros < b.micros ↔
    a.date.Before b.date ∨ a.date = b.date ∧ a.clock.micros < b.clock.micros := by
  have ha := a.clock.micros_lt
  have hb := b.clock.micros_lt
  have date : a.date = b.date ↔ a.date.ordinal = b.date.ordinal :=
    ⟨congrArg Date.ordinal, Date.ordinal_injective⟩
  rw [← Date.ordinal_lt_ordinal_iff, date]
  simp only [micros, microsPerDay] at *
  omega

theorem micros_injective {a b : DateTime} (h : a.micros = b.micros) : a = b := by
  have ha := a.clock.micros_lt
  have hb := b.clock.micros_lt
  simp only [micros, microsPerDay] at h ha hb
  have date : a.date = b.date := Date.ordinal_injective (by omega)
  have clock : a.clock = b.clock := Clock.micros_injective (by omega)
  exact DateTime.ext date clock

theorem ofMicros_micros (t : DateTime) : ofMicros t.micros t.micros_lt = t :=
  micros_injective (micros_ofMicros t.micros t.micros_lt)

theorem ofMicros?_eq_some_iff {n : Int} {t : DateTime} : ofMicros? n = some t ↔ (t.micros : Int) = n := by
  constructor
  · intro found
    simp only [ofMicros?] at found
    split at found
    · next inside =>
      cases found
      rw [micros_ofMicros]
      omega
    · contradiction
  · rintro rfl
    have inside : 0 ≤ (t.micros : Int) ∧ (t.micros : Int) < span := by
      have := t.micros_lt
      omega
    simp only [ofMicros?, dif_pos inside, Int.toNat_natCast, ofMicros_micros]

theorem ofMicros?_eq_none_iff {n : Int} : ofMicros? n = none ↔ ¬ (0 ≤ n ∧ n < span) := by
  simp only [ofMicros?]
  split <;> simp [*]

theorem add?_eq_some_iff {t u : DateTime} {d : Duration} :
    t.add? d = some u ↔ (u.micros : Int) = t.micros + d.micros :=
  ofMicros?_eq_some_iff

theorem fields_injective {a b : DateTime} (h : a.fields = b.fields) : a = b := by
  obtain ⟨⟨⟩, ⟨⟩⟩ := a
  obtain ⟨⟨⟩, ⟨⟩⟩ := b
  simp only [fields, Fields.mk.injEq] at h
  simp only [mk.injEq, Date.mk.injEq, Clock.mk.injEq]
  simp [h]

theorem fields_valid (t : DateTime) : t.fields.Valid :=
  ⟨⟨t.date.year_pos, t.date.year_le⟩, ⟨t.date.month_pos, t.date.month_le⟩,
    ⟨t.date.day_pos, t.date.day_le⟩, t.clock.hour_lt, t.clock.minute_lt, t.clock.second_lt,
    t.clock.microsecond_lt⟩

/-- Fields are accepted exactly when a calendar and a clock show them. -/
theorem ofFields_eq_ok_iff {f : Fields} {t : DateTime} : ofFields f = .ok t ↔ t.fields = f := by
  constructor
  · intro made
    unfold ofFields at made
    repeat' split at made
    · cases made
      rfl
    all_goals contradiction
  · rintro rfl
    obtain ⟨year, month, day, hour, minute, second, microsecond⟩ := t.fields_valid
    simp only [ofFields, dif_pos year, dif_pos month, dif_pos day, dif_pos hour, dif_pos minute,
      dif_pos second, dif_pos microsecond, Except.ok.injEq]
    rfl

theorem exists_fields_eq {f : Fields} (valid : f.Valid) : ∃ t : DateTime, t.fields = f := by
  obtain ⟨year, month, day, hour, minute, second, microsecond⟩ := valid
  exact ⟨⟨⟨f.year, f.month, f.day, year.1, year.2, month.1, month.2, day.1, day.2⟩,
    ⟨f.hour, f.minute, f.second, f.microsecond, hour, minute, second, microsecond⟩⟩, rfl⟩

end DateTime

end Timespan
