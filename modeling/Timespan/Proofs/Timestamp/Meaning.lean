import Timespan.Proofs.Calendar.Instant
import Timespan.Proofs.Text.Digits
import Timespan.Timestamp.Reader

/-! What a timestamp in ASCII digits means. Calendar, clock and offset set the ranges of
its fields; within them it shows one count of microseconds on its own wall, which is the
count that is read. -/
namespace Timespan

/-- The microseconds from the calendar's first midnight to what fields show. -/
def Fields.micros (f : Fields) : Nat :=
  (yearStart f.year + rowSize ((monthLengths f.year).take (f.month - 1)) + (f.day - 1)) * microsPerDay +
    (((f.hour * 60 + f.minute) * 60 + f.second) * microsPerSecond + f.microsecond)

theorem DateTime.micros_fields (t : DateTime) : t.fields.micros = t.micros := rfl

namespace Timestamp

/-- A field of so many ASCII digits. -/
def IsAsciiField (width : Nat) (digits : List Char) : Prop :=
  digits.length = width ∧ ∀ c ∈ digits, c.isDigit

/-- An offset in full: a letter for UTC, or a sign with hours and minutes. -/
def ZoneSpelling.IsRfc3339 : ZoneSpelling → Prop
  | zulu letter => letter = 'Z' ∨ letter = 'z'
  | shift sign hour minute =>
    (sign = '+' ∨ sign = '-') ∧ IsAsciiField 2 hour ∧ IsAsciiField 2 minute

/-- A timestamp in full, with ASCII digits only. -/
structure Spelling.IsRfc3339 (s : Spelling) : Prop where
  year : IsAsciiField 4 s.year
  month : IsAsciiField 2 s.month
  day : IsAsciiField 2 s.day
  mark : s.mark = 'T' ∨ s.mark = 't' ∨ s.mark = ' '
  hour : IsAsciiField 2 s.hour
  minute : IsAsciiField 2 s.minute
  second : IsAsciiField 2 s.second
  fraction : ∀ digits, s.fraction = some digits → digits ≠ [] ∧ ∀ c ∈ digits, c.isDigit
  zone : s.zone.IsRfc3339

/-- Hours and minutes that a clock shows. -/
def ZoneSpelling.InRange : ZoneSpelling → Prop
  | zulu _ => True
  | shift _ hour minute => Numeral.value hour ≤ 23 ∧ Numeral.value minute ≤ 59

/-- The fields name a day of the calendar and a time of day. The hour may be 24
when nothing follows it that is kept. -/
structure Spelling.InRange (s : Spelling) : Prop where
  year : 1 ≤ s.fields.year
  month : 1 ≤ s.fields.month ∧ s.fields.month ≤ 12
  day : 1 ≤ s.fields.day ∧ s.fields.day ≤ monthLength s.fields.year s.fields.month
  hour : s.fields.hour ≤ 23 ∨ s.fields.hour = 24 ∧ s.fields.minute = 0 ∧ s.fields.second = 0 ∧
    ∀ digits, s.fraction = some digits → ∀ c ∈ digits.take 6, c = '0'
  minute : s.fields.minute ≤ 59
  second : s.fields.second ≤ 59

/-- The signed microseconds of an offset. -/
def ZoneSpelling.micros : ZoneSpelling → Int
  | zulu _ => 0
  | shift sign hour minute =>
    (if sign = '-' then -1 else 1) * ((Numeral.value hour * 60 + Numeral.value minute) * 60000000)

/-- A fraction of a second in whole microseconds, rounded down. -/
def wholeMicros : Option (List Char) → Nat
  | none => 0
  | some digits => Numeral.value digits * 1000000 / 10 ^ digits.length

/-- The microseconds from the calendar's first midnight to the time that is
written, on the wall where it is read. -/
def Spelling.localMicros (s : Spelling) : Nat :=
  Fields.micros { s.fields with microsecond := wholeMicros s.fraction }

/-- The count falls into the years 1 to 9999. -/
def InCalendar (n : Int) : Prop :=
  0 ≤ n ∧ n < DateTime.span

instance (n : Int) : Decidable (InCalendar n) :=
  inferInstanceAs (Decidable (_ ∧ _))

/-- A timestamp in full that names a time of the calendar, on its own wall and in
UTC. -/
structure Spelling.Acceptable (s : Spelling) : Prop where
  form : s.IsRfc3339
  fields : s.InRange
  zone : s.zone.InRange
  wall : InCalendar s.localMicros
  utc : InCalendar (s.localMicros - s.zone.micros)

section Fraction

variable {digits : List Char}

/-- Six digits are kept, zeros standing for those that are missing. -/
theorem isDigit_of_mem_padding (h : ∀ c ∈ digits, c.isDigit) :
    ∀ c ∈ digits ++ List.replicate 6 '0', c.isDigit := by
  intro c member
  rcases List.mem_append.mp member with before | zeros
  · exact h c before
  · rw [List.eq_of_mem_replicate zeros]
    rfl

theorem fractionMicros_eq (h : ∀ c ∈ digits, c.isDigit) :
    Spelling.fractionMicros (some digits) = wholeMicros (some digits) := by
  have scaled : Numeral.value (digits ++ List.replicate 6 '0') = Numeral.value digits * 1000000 := by
    have zeros : Numeral.value (List.replicate 6 '0') = 0 := rfl
    have million : 10 ^ 6 = 1000000 := rfl
    rw [Numeral.value_append, List.length_replicate, zeros, million, Nat.add_zero]
  have dropped : (digits ++ List.replicate 6 '0').length - 6 = digits.length := by
    rw [List.length_append, List.length_replicate, Nat.add_sub_cancel]
  rw [Spelling.fractionMicros, Numeral.value_take 6 (isDigit_of_mem_padding h), scaled, dropped]
  rfl

theorem fractionMicros_lt (h : ∀ c ∈ digits, c.isDigit) :
    Spelling.fractionMicros (some digits) < 1000000 := by
  have kept : ((digits ++ List.replicate 6 '0').take 6).length = 6 := by
    rw [List.length_take, List.length_append, List.length_replicate]
    omega
  have bound := Numeral.value_lt fun c member =>
    isDigit_of_mem_padding h c (List.mem_of_mem_take (i := 6) member)
  rw [kept] at bound
  exact bound

theorem fractionMicros_eq_zero_iff (h : ∀ c ∈ digits, c.isDigit) :
    Spelling.fractionMicros (some digits) = 0 ↔ ∀ c ∈ digits.take 6, c = '0' := by
  rw [Spelling.fractionMicros, Numeral.value_eq_zero_iff fun c member =>
    isDigit_of_mem_padding h c (List.mem_of_mem_take member), List.take_append]
  constructor
  · intro zeros c member
    exact zeros c (List.mem_append_left _ member)
  · intro zeros c member
    rcases List.mem_append.mp member with before | padding
    · exact zeros c before
    · exact List.eq_of_mem_replicate (List.mem_of_mem_take padding)

end Fraction

/-- The offset is read exactly when its hours and minutes are in range. -/
theorem ZoneSpelling.offset_eq_ok_iff {zone : ZoneSpelling} {o : Offset} :
    zone.offset = .ok o ↔ zone.InRange ∧ o.micros = zone.micros := by
  cases zone with
  | zulu letter =>
    simp only [offset, InRange, micros, true_and, Except.ok.injEq]
    constructor
    · rintro rfl
      rfl
    · intro zero
      cases o
      simp_all [Offset.utc]
  | shift sign hour minute =>
    have shifted (hh : Numeral.value hour ≤ 23) (hm : Numeral.value minute ≤ 59) :
        (Offset.ofClock (sign = '-') (Numeral.value hour) (Numeral.value minute) hh hm).micros =
          (shift sign hour minute).micros := by
      simp only [Offset.ofClock, Offset.shift, micros, decide_eq_true_eq]
      split <;> omega
    constructor
    · intro found
      simp only [offset] at found
      split at found
      · next hm =>
        split at found
        · next hh =>
          cases found
          exact ⟨⟨hh, hm⟩, shifted hh hm⟩
        · contradiction
      · contradiction
    · rintro ⟨⟨hh, hm⟩, same⟩
      rw [← shifted hh hm] at same
      rw [offset, dif_pos hm, dif_pos hh]
      cases o
      simp only at same
      subst same
      rfl

namespace Spelling

variable {s : Spelling}

theorem microsecond_eq (form : s.IsRfc3339) : s.fields.microsecond = wholeMicros s.fraction := by
  have valid := form.fraction
  simp only [fields]
  cases fraction : s.fraction with
  | none => rfl
  | some digits => exact fractionMicros_eq (valid digits fraction).2

theorem microsecond_lt (form : s.IsRfc3339) : s.fields.microsecond < 1000000 := by
  have valid := form.fraction
  simp only [fields]
  cases fraction : s.fraction with
  | none => decide
  | some digits => exact fractionMicros_lt (valid digits fraction).2

theorem microsecond_eq_zero_iff (form : s.IsRfc3339) : s.fields.microsecond = 0 ↔
    ∀ digits, s.fraction = some digits → ∀ c ∈ digits.take 6, c = '0' := by
  have valid := form.fraction
  simp only [fields]
  cases fraction : s.fraction with
  | none => simp [fractionMicros]
  | some digits =>
    rw [fractionMicros_eq_zero_iff (valid digits fraction).2]
    constructor
    · rintro zeros _ ⟨⟩
      exact zeros
    · intro zeros
      exact zeros digits rfl

theorem year_le (form : s.IsRfc3339) : s.fields.year ≤ 9999 := by
  have bound := Numeral.value_lt form.year.2
  rw [form.year.1] at bound
  exact Nat.le_of_lt_succ bound

theorem localMicros_eq (form : s.IsRfc3339) : s.localMicros = s.fields.micros := by
  rw [localMicros, ← microsecond_eq form]

/-- Up to hour 23 the ranges are those of a calendar and a clock. -/
theorem inRange_iff_valid (form : s.IsRfc3339) (hour : s.fields.hour ≠ 24) :
    s.InRange ↔ s.fields.Valid := by
  constructor
  · intro range
    have hours := range.hour
    have minutes := range.minute
    have seconds := range.second
    exact ⟨⟨range.year, year_le form⟩, range.month, range.day, by omega, by omega, by omega,
      microsecond_lt form⟩
  · rintro ⟨year, month, day, hours, minutes, seconds, _⟩
    exact ⟨year.1, month, day, .inl (by omega), by omega, by omega⟩

/-- At hour 24 nothing may follow, and the day is one of the calendar. -/
theorem inRange_iff_midnight (form : s.IsRfc3339) (hour : s.fields.hour = 24) :
    s.InRange ↔ (s.fields.minute = 0 ∧ s.fields.second = 0 ∧ s.fields.microsecond = 0) ∧
      Fields.Valid { s.fields with hour := 0 } := by
  constructor
  · intro range
    have hours := range.hour
    rw [← microsecond_eq_zero_iff form] at hours
    obtain early | ⟨_, midnight⟩ := hours
    · omega
    · refine ⟨midnight, ⟨range.year, year_le form⟩, range.month, range.day, ?_, ?_, ?_, ?_⟩
      · show 0 < 24
        omega
      · show s.fields.minute < 60
        omega
      · show s.fields.second < 60
        omega
      · exact microsecond_lt form
  · rintro ⟨⟨minutes, seconds, micros⟩, year, month, day, _⟩
    exact ⟨year.1, month, day, .inr ⟨hour, minutes, seconds, (microsecond_eq_zero_iff form).mp micros⟩,
      by omega, by omega⟩

/-- Moving on from fields starts at the wall time that shows them. -/
theorem ofFields_then_eq_ok_iff (f : Fields) (move : DateTime → Option DateTime)
    {wall : Option DateTime} :
    (match DateTime.ofFields f with
      | .ok t => .ok (move t)
      | .error fault => .error (Error.field fault)) = Except.ok wall ↔
      f.Valid ∧ ∃ t : DateTime, t.fields = f ∧ wall = move t := by
  cases made : DateTime.ofFields f with
  | ok t =>
    have shown := DateTime.ofFields_eq_ok_iff.mp made
    simp only [Except.ok.injEq]
    constructor
    · rintro rfl
      exact ⟨shown ▸ t.fields_valid, t, shown, rfl⟩
    · rintro ⟨_, u, same, rfl⟩
      rw [DateTime.fields_injective (shown.trans same.symm)]
  | error fault =>
    constructor
    · intro failed
      contradiction
    · rintro ⟨_, t, shown, _⟩
      rw [DateTime.ofFields_eq_ok_iff.mpr shown] at made
      contradiction

/-- The midnight that ends a day is a day after the one that starts it. -/
theorem micros_of_midnight {f : Fields} (hour : f.hour = 24) :
    f.micros = Fields.micros { f with hour := 0 } + microsPerDay := by
  simp only [Fields.micros, hour, microsPerDay, microsPerSecond]
  omega

theorem add?_day_of_midnight {f : Fields} {t : DateTime} (hour : f.hour = 24)
    (shown : t.fields = { f with hour := 0 }) :
    t.add? TimeUnit.day.duration = DateTime.ofMicros? f.micros := by
  rw [micros_of_midnight hour, ← shown, DateTime.micros_fields, DateTime.add?]
  rfl

/-- The wall time is read exactly when the fields are in range, and it is the one
with their count; beyond the calendar there is none. -/
theorem wall?_eq_ok_iff (form : s.IsRfc3339) {wall : Option DateTime} :
    s.wall? = .ok wall ↔ s.InRange ∧ wall = DateTime.ofMicros? s.localMicros := by
  rw [localMicros_eq form]
  by_cases hour : s.fields.hour = 24
  · rw [inRange_iff_midnight form hour, wall?, if_pos hour]
    split
    · next nothing =>
      refine (ofFields_then_eq_ok_iff _ (·.add? TimeUnit.day.duration)).trans ?_
      constructor
      · rintro ⟨valid, t, shown, moved⟩
        exact ⟨⟨nothing, valid⟩, moved.trans (add?_day_of_midnight hour shown)⟩
      · rintro ⟨⟨_, valid⟩, counted⟩
        obtain ⟨t, shown⟩ := DateTime.exists_fields_eq valid
        exact ⟨valid, t, shown, counted.trans (add?_day_of_midnight hour shown).symm⟩
    · next more =>
      constructor
      · intro failed
        contradiction
      · rintro ⟨⟨nothing, _⟩, _⟩
        exact absurd nothing more
  · rw [inRange_iff_valid form hour, wall?, if_neg hour]
    refine (ofFields_then_eq_ok_iff _ some).trans ?_
    have same (t : DateTime) (shown : t.fields = s.fields) :
        some t = DateTime.ofMicros? s.fields.micros := by
      rw [← shown, DateTime.micros_fields, DateTime.ofMicros?_eq_some_iff.mpr rfl]
    constructor
    · rintro ⟨valid, t, shown, stays⟩
      exact ⟨valid, stays.trans (same t shown)⟩
    · rintro ⟨valid, counted⟩
      obtain ⟨t, shown⟩ := DateTime.exists_fields_eq valid
      exact ⟨valid, t, shown, counted.trans (same t shown).symm⟩

/-- The moment is read exactly when fields and offset are in range, and it is the
one with their counts; beyond the calendar there is none. -/
theorem moment?_eq_ok_iff (form : s.IsRfc3339) {moment : Option Moment} :
    s.moment? = .ok moment ↔ s.InRange ∧ ∃ o : Offset, s.zone.offset = .ok o ∧
      moment = (DateTime.ofMicros? s.localMicros).map (⟨·, o⟩) := by
  cases zone : s.zone.offset with
  | error e =>
    simp [moment?, zone]
  | ok o =>
    simp only [moment?, zone, Except.ok.injEq, exists_eq_left']
    cases wall : s.wall? with
    | error e =>
      have out : ¬ s.InRange := fun range => by
        rw [(wall?_eq_ok_iff form).mpr ⟨range, rfl⟩] at wall
        contradiction
      simp [out]
    | ok w =>
      obtain ⟨range, counted⟩ := (wall?_eq_ok_iff form).mp wall
      simp only [counted, Except.ok.injEq]
      exact ⟨fun same => ⟨range, same.symm⟩, fun same => same.2.symm⟩

end Spelling

end Timestamp

end Timespan
