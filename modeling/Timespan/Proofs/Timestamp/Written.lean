import Timespan.Proofs.Timestamp.Language
import Timespan.Timestamp.Printer

/-! Written timestamps read back. At an offset of whole minutes the text of a moment
gives its form in UTC, or is refused where there is none; at any other offset no
spelling has the text. -/
namespace Timespan

/-- The fields of a date have the digits that they are written with. -/
theorem Date.fields_lt (d : Date) : d.year < 10 ^ 4 ∧ d.month < 10 ^ 2 ∧ d.day < 10 ^ 2 := by
  have := d.year_le
  have := d.month_le
  have := d.day_le
  have := monthLength_le d.year d.month
  omega

theorem Clock.fields_lt (c : Clock) :
    c.hour < 10 ^ 2 ∧ c.minute < 10 ^ 2 ∧ c.second < 10 ^ 2 ∧ c.microsecond < 10 ^ 6 := by
  have := c.hour_lt
  have := c.minute_lt
  have := c.second_lt
  have := c.microsecond_lt
  omega

/-- The fraction that is written for the microseconds of a second. -/
def writtenFraction (n : Nat) : Option (List Char) :=
  if n = 0 then none else some (Numeral.padded 10 6 n)

/-- The spelling of a written wall time. -/
def DateTime.spelling (t : DateTime) (zone : Timestamp.ZoneSpelling) : Timestamp.Spelling where
  year := Numeral.padded 10 4 t.date.year
  month := Numeral.padded 10 2 t.date.month
  day := Numeral.padded 10 2 t.date.day
  mark := 'T'
  hour := Numeral.padded 10 2 t.clock.hour
  minute := Numeral.padded 10 2 t.clock.minute
  second := Numeral.padded 10 2 t.clock.second
  fraction := writtenFraction t.clock.microsecond
  zone := zone

/-- The spelling of a written offset of whole minutes. -/
def Offset.spelling (o : Offset) : Timestamp.ZoneSpelling :=
  .shift (if o.micros < 0 then '-' else '+') (Numeral.padded 10 2 (o.micros.natAbs / 3600000000))
    (Numeral.padded 10 2 (o.micros.natAbs / 60000000 % 60))

namespace Timestamp

theorem isAsciiField_padded (width n : Nat) : IsAsciiField width (Numeral.padded 10 width n) :=
  ⟨Numeral.length_padded 10 width n, fun _ member => Numeral.isDigit_of_mem_padded member⟩

theorem fractionChars_written (n : Nat) : fractionChars (writtenFraction n) = microsecondChars n := by
  simp only [writtenFraction, microsecondChars]
  split <;> rfl

theorem front_spelling (t : DateTime) (zone : ZoneSpelling) : (t.spelling zone).front = t.chars := by
  simp only [Spelling.front, DateTime.spelling, DateTime.chars, Date.chars, Clock.chars,
    fractionChars_written, List.append_assoc, List.cons_append]

theorem spelling_isRfc3339 (t : DateTime) {zone : ZoneSpelling} (form : zone.IsRfc3339) :
    (t.spelling zone).IsRfc3339 where
  year := isAsciiField_padded _ _
  month := isAsciiField_padded _ _
  day := isAsciiField_padded _ _
  mark := .inl rfl
  hour := isAsciiField_padded _ _
  minute := isAsciiField_padded _ _
  second := isAsciiField_padded _ _
  fraction := by
    intro digits written
    simp only [DateTime.spelling, writtenFraction] at written
    split at written
    · contradiction
    · cases written
      exact ⟨List.ne_nil_of_length_eq_add_one (Numeral.length_padded 10 6 _),
        fun _ member => Numeral.isDigit_of_mem_padded member⟩
  zone := form

theorem fractionMicros_written {n : Nat} (h : n < 1000000) :
    Spelling.fractionMicros (writtenFraction n) = n := by
  simp only [writtenFraction]
  split
  · next zero => exact zero.symm
  · rw [Spelling.fractionMicros, List.take_left' (Numeral.length_padded 10 6 n)]
    exact Numeral.value_padded h

theorem fields_spelling (t : DateTime) (zone : ZoneSpelling) : (t.spelling zone).fields = t.fields := by
  obtain ⟨year, month, day⟩ := t.date.fields_lt
  obtain ⟨hour, minute, second, microsecond⟩ := t.clock.fields_lt
  simp only [Spelling.fields, DateTime.spelling, DateTime.fields, Fields.mk.injEq]
  exact ⟨Numeral.value_padded year, Numeral.value_padded month, Numeral.value_padded day,
    Numeral.value_padded hour, Numeral.value_padded minute, Numeral.value_padded second,
    fractionMicros_written microsecond⟩

theorem localMicros_spelling (t : DateTime) {zone : ZoneSpelling} (form : zone.IsRfc3339) :
    (t.spelling zone).localMicros = t.micros := by
  rw [Spelling.localMicros_eq (spelling_isRfc3339 t form), fields_spelling, DateTime.micros_fields]

theorem spelling_inRange (t : DateTime) {zone : ZoneSpelling} (form : zone.IsRfc3339) :
    (t.spelling zone).InRange := by
  have hour : (t.spelling zone).fields.hour ≠ 24 := by
    have := t.clock.hour_lt
    rw [fields_spelling]
    exact Nat.ne_of_lt this
  rw [Spelling.inRange_iff_valid (spelling_isRfc3339 t form) hour, fields_spelling]
  exact t.fields_valid

section Offset

variable (o : Offset)

theorem offset_spelling_isRfc3339 : o.spelling.IsRfc3339 := by
  refine ⟨?_, isAsciiField_padded _ _, isAsciiField_padded _ _⟩
  split
  · exact .inr rfl
  · exact .inl rfl

theorem value_offset_hour :
    Numeral.value (Numeral.padded 10 2 (o.micros.natAbs / 3600000000)) =
      o.micros.natAbs / 3600000000 := by
  have := o.lower
  have := o.upper
  exact Numeral.value_padded (by omega)

theorem value_offset_minute :
    Numeral.value (Numeral.padded 10 2 (o.micros.natAbs / 60000000 % 60)) =
      o.micros.natAbs / 60000000 % 60 :=
  Numeral.value_padded (by omega)

theorem offset_spelling_inRange : o.spelling.InRange := by
  have := o.lower
  have := o.upper
  simp only [Offset.spelling, ZoneSpelling.InRange, value_offset_hour, value_offset_minute]
  omega

theorem offset_spelling_micros (whole : o.WholeMinutes) : o.spelling.micros = o.micros := by
  simp only [Offset.WholeMinutes] at whole
  simp only [Offset.spelling, ZoneSpelling.micros, value_offset_hour, value_offset_minute]
  by_cases negative : o.micros < 0
  · simp only [negative, if_true]
    omega
  · simp only [negative, if_false, Char.reduceEq]
    omega

end Offset

theorem chars_spelling {m : Moment} (whole : m.offset.WholeMinutes) :
    (m.wall.spelling m.offset.spelling).chars = m.chars := by
  have zone : m.offset.spelling.chars = m.offset.chars := by
    have minutes : m.offset.micros.natAbs % 60000000 = 0 := by
      simp only [Offset.WholeMinutes] at whole
      omega
    simp only [Offset.spelling, ZoneSpelling.chars, Offset.chars, Offset.magnitudeChars,
      if_pos minutes, List.append_nil]
  rw [Spelling.chars_eq_front_append, front_spelling]
  exact congrArg _ zone

/-- The characters that written moments are made of. -/
def IsWritten (c : Char) : Prop :=
  c.isDigit ∨ c ∈ ['-', 'T', ':', '.', '+']

theorem isWritten_padded (width n : Nat) : ∀ c ∈ Numeral.padded 10 width n, IsWritten c :=
  fun _ member => .inl (Numeral.isDigit_of_mem_padded member)

theorem isWritten_microsecondChars (n : Nat) : ∀ c ∈ microsecondChars n, IsWritten c := by
  unfold microsecondChars
  split
  · intro c member
    contradiction
  · rw [List.forall_mem_cons]
    exact ⟨.inr (by decide), isWritten_padded 6 n⟩

theorem isWritten_chars (m : Moment) : ∀ c ∈ m.chars, IsWritten c := by
  have marks : IsWritten '-' ∧ IsWritten 'T' ∧ IsWritten ':' ∧ IsWritten '+' := by
    simp [IsWritten]
  obtain ⟨minus, mark, colon, plus⟩ := marks
  have seconds : ∀ n, ∀ c ∈ Offset.magnitudeChars n, IsWritten c := by
    intro n
    unfold Offset.magnitudeChars
    split
    · simp only [List.append_nil, List.forall_mem_append, List.forall_mem_cons]
      exact ⟨isWritten_padded _ _, colon, isWritten_padded _ _⟩
    · simp only [List.forall_mem_append, List.forall_mem_cons]
      exact ⟨isWritten_padded _ _, colon, isWritten_padded _ _, colon, isWritten_padded _ _,
        isWritten_microsecondChars _⟩
  have sign : IsWritten (if m.offset.micros < 0 then '-' else '+') := by
    split
    · exact minus
    · exact plus
  simp only [Moment.chars, DateTime.chars, Date.chars, Clock.chars, Offset.chars,
    List.forall_mem_append, List.forall_mem_cons]
  exact ⟨⟨⟨isWritten_padded _ _, minus, isWritten_padded _ _, minus, isWritten_padded _ _⟩, mark,
    isWritten_padded _ _, colon, isWritten_padded _ _, colon, isWritten_padded _ _,
    isWritten_microsecondChars _⟩, sign, seconds _⟩

/-- No offset of hours and minutes is written as one with seconds is. -/
theorem read?_offset_chars {o : Offset} (parts : ¬ o.WholeMinutes) :
    ZoneSpelling.read? o.chars = none := by
  cases found : ZoneSpelling.read? o.chars with
  | none => rfl
  | some zone =>
    obtain ⟨valid, same⟩ := ZoneSpelling.read?_sound found
    have seconds : o.micros.natAbs % 60000000 ≠ 0 := by
      simp only [Offset.WholeMinutes] at parts
      omega
    have long : 6 < o.chars.length := by
      simp only [Offset.chars, Offset.magnitudeChars, if_neg seconds, List.length_cons,
        List.length_append, Numeral.length_padded]
      omega
    cases zone with
    | zulu letter =>
      rw [same] at long
      contradiction
    | shift sign hour minute =>
      obtain ⟨_, hours, minutes⟩ := valid
      rw [same] at long
      simp only [ZoneSpelling.chars, List.length_cons, List.length_append, hours.1, minutes.1] at long
      omega

/-- An offset of whole minutes is read back, and the moment moves to UTC. -/
theorem read_chars_of_wholeMinutes {m : Moment} (whole : m.offset.WholeMinutes) :
    read m.chars = match m.utc? with
      | some u => .ok u
      | none => .error (.outOfRange (.ofChars m.chars)) := by
  have form := spelling_isRfc3339 m.wall (offset_spelling_isRfc3339 m.offset)
  obtain ⟨valid, ascii⟩ := Spelling.isRfc3339_iff.mp form
  have meant : (m.wall.spelling m.offset.spelling).moment? = .ok (some m) :=
    (moment?_eq_ok_some_iff form).mpr ⟨spelling_inRange m.wall (offset_spelling_isRfc3339 m.offset),
      offset_spelling_inRange m.offset,
      (localMicros_spelling m.wall (offset_spelling_isRfc3339 m.offset)).symm,
      (offset_spelling_micros m.offset whole).symm⟩
  have spelled := Spelling.read?_complete valid
  rw [chars_spelling whole] at spelled ascii
  have all : m.chars.all (·.toNat < 128) := by simpa using ascii
  cases moved : m.utc? <;> simp only [read, spelled, if_pos all, meant, Option.bind_some, moved]

theorem read_chars_of_not_wholeMinutes {m : Moment} (parts : ¬ m.offset.WholeMinutes) :
    read m.chars = .error (.notRfc3339 (.ofChars m.chars)) := by
  have form := spelling_isRfc3339 m.wall (show (ZoneSpelling.zulu 'Z').IsRfc3339 from .inl rfl)
  have valid := (Spelling.isRfc3339_iff.mp form).1
  have stop : ∀ c, m.offset.chars.head? = some c → c ≠ '.' ∧ isDecimalDigit c = false := by
    intro c head
    simp only [Offset.chars, List.head?_cons, Option.some.injEq] at head
    subst head
    split <;> decide
  have none := Spelling.read?_front valid stop
  rw [front_spelling, read?_offset_chars parts, Option.map_none] at none
  simp only [read, Moment.chars, none]

/-- A moment is written as the one with its instant in UTC. -/
theorem write_eq_chars {u m : Moment} (utc : u.offset = .utc) (same : u.instant = m.instant) :
    write m = u.chars := by
  rw [write, Moment.utc?_eq_some_iff.mpr ⟨utc, same⟩, Option.getD_some]

theorem write_eq_own_chars {m : Moment} (beyond : ¬ m.HasUtcForm) : write m = m.chars := by
  rw [write, Moment.utc?_eq_none_iff.mpr beyond, Option.getD_none]

/-- Reading what is written gives the moment in UTC; where there is none, the
refusal tells offsets of whole minutes from all others. -/
theorem read_write (m : Moment) : read (write m) = match m.utc? with
    | some u => .ok u
    | none => .error (if m.offset.WholeMinutes then .outOfRange (.ofChars (write m))
        else .notRfc3339 (.ofChars (write m))) := by
  cases found : m.utc? with
  | some u =>
    obtain ⟨utc, same⟩ := Moment.utc?_eq_some_iff.mp found
    have whole : u.offset.WholeMinutes := by rw [utc]; decide
    rw [write_eq_chars utc same, read_chars_of_wholeMinutes whole, Moment.utc?_of_utc utc]
  | none =>
    have text : write m = m.chars := write_eq_own_chars (Moment.utc?_eq_none_iff.mp found)
    by_cases whole : m.offset.WholeMinutes
    · simp only [text, read_chars_of_wholeMinutes whole, found, if_pos whole]
    · simp only [text, read_chars_of_not_wholeMinutes whole, if_neg whole]

end Timestamp

end Timespan
