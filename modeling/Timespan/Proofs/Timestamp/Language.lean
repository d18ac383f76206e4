import Timespan.Proofs.Timestamp.Grammar
import Timespan.Proofs.Timestamp.Meaning

/-! The language of the timestamp reader. A text is accepted exactly when it is the text
of an acceptable spelling, and what is read is the moment in UTC with the spelling's
count less its offset. -/
namespace Timespan.Timestamp

/-- Among the digits of all scripts the ASCII ones are those below 128. -/
theorem isDigit_iff {c : Char} : c.isDigit ↔ isDecimalDigit c ∧ c.toNat < 128 := by
  constructor
  · intro digit
    have bounds := Numeral.isDigit_bounds digit
    exact ⟨isDecimalDigit_of_isDigit c digit, by omega⟩
  · rintro ⟨digit, ascii⟩
    have scripts : ∀ first ∈ digitZeros, first = 48 ∨ 128 ≤ first := by decide
    obtain ⟨first, member, inside⟩ := List.any_eq_true.mp digit
    simp only [Bool.and_eq_true, decide_eq_true_eq] at inside
    have latin := scripts first member
    apply Char.isDigit_iff_toNat.mpr
    change 48 ≤ c.toNat ∧ c.toNat ≤ 57
    omega

theorem forall_isDigit_iff {digits : List Char} : (∀ c ∈ digits, c.isDigit) ↔
    digits.all isDecimalDigit ∧ ∀ c ∈ digits, c.toNat < 128 := by
  simp only [isDigit_iff, List.all_eq_true]
  exact ⟨fun all => ⟨fun c member => (all c member).1, fun c member => (all c member).2⟩,
    fun all c member => ⟨all.1 c member, all.2 c member⟩⟩

theorem isAsciiField_iff {width : Nat} {digits : List Char} :
    IsAsciiField width digits ↔ IsField width digits ∧ ∀ c ∈ digits, c.toNat < 128 := by
  rw [IsAsciiField, forall_isDigit_iff, IsField, and_assoc]

theorem ZoneSpelling.isRfc3339_iff {zone : ZoneSpelling} :
    zone.IsRfc3339 ↔ zone.WellFormed ∧ ∀ c ∈ zone.chars, c.toNat < 128 := by
  cases zone with
  | zulu letter =>
    simp only [IsRfc3339, WellFormed, chars, List.forall_mem_singleton, iff_self_and]
    rintro (rfl | rfl) <;> decide
  | shift sign hour minute =>
    simp only [IsRfc3339, WellFormed, chars, List.forall_mem_cons, List.forall_mem_append,
      isAsciiField_iff, Char.reduceToNat, Nat.reduceLT, true_and]
    constructor
    · rintro ⟨signs, hours, minutes⟩
      refine ⟨⟨signs, hours.1, minutes.1⟩, ?_, hours.2, minutes.2⟩
      rcases signs with rfl | rfl <;> decide
    · rintro ⟨⟨signs, hours, minutes⟩, _, asciiHours, asciiMinutes⟩
      exact ⟨signs, ⟨hours, asciiHours⟩, minutes, asciiMinutes⟩

theorem fraction_isDigit_iff {fraction : Option (List Char)} :
    (∀ digits, fraction = some digits → digits ≠ [] ∧ ∀ c ∈ digits, c.isDigit) ↔
      IsFraction fraction ∧ ∀ c ∈ fractionChars fraction, c.toNat < 128 := by
  cases fraction with
  | none => simp [IsFraction, fractionChars]
  | some digits =>
    simp only [IsFraction, fractionChars, Option.some.injEq, forall_eq', List.forall_mem_cons,
      Char.reduceToNat, Nat.reduceLT, true_and, forall_isDigit_iff, and_assoc]

/-- The digits of a timestamp are ASCII when its whole text is. -/
theorem Spelling.isRfc3339_iff {s : Spelling} :
    s.IsRfc3339 ↔ s.WellFormed ∧ ∀ c ∈ s.chars, c.toNat < 128 := by
  simp only [chars, List.forall_mem_append, List.forall_mem_cons, Char.reduceToNat, Nat.reduceLT,
    true_and]
  constructor
  · intro form
    obtain ⟨year, asciiYear⟩ := isAsciiField_iff.mp form.year
    obtain ⟨month, asciiMonth⟩ := isAsciiField_iff.mp form.month
    obtain ⟨day, asciiDay⟩ := isAsciiField_iff.mp form.day
    obtain ⟨hour, asciiHour⟩ := isAsciiField_iff.mp form.hour
    obtain ⟨minute, asciiMinute⟩ := isAsciiField_iff.mp form.minute
    obtain ⟨second, asciiSecond⟩ := isAsciiField_iff.mp form.second
    obtain ⟨fraction, asciiFraction⟩ := fraction_isDigit_iff.mp form.fraction
    obtain ⟨zone, asciiZone⟩ := ZoneSpelling.isRfc3339_iff.mp form.zone
    have asciiMark : s.mark.toNat < 128 := by
      rcases form.mark with mark | mark | mark <;> rw [mark] <;> decide
    exact ⟨⟨year, month, day, form.mark, hour, minute, second, fraction, zone⟩, asciiYear,
      asciiMonth, asciiDay, asciiMark, asciiHour, asciiMinute, asciiSecond, asciiFraction, asciiZone⟩
  · rintro ⟨valid, year, month, day, _, hour, minute, second, fraction, zone⟩
    exact ⟨isAsciiField_iff.mpr ⟨valid.year, year⟩, isAsciiField_iff.mpr ⟨valid.month, month⟩,
      isAsciiField_iff.mpr ⟨valid.day, day⟩, valid.mark, isAsciiField_iff.mpr ⟨valid.hour, hour⟩,
      isAsciiField_iff.mpr ⟨valid.minute, minute⟩, isAsciiField_iff.mpr ⟨valid.second, second⟩,
      fraction_isDigit_iff.mpr ⟨valid.fraction, fraction⟩,
      ZoneSpelling.isRfc3339_iff.mpr ⟨valid.zone, zone⟩⟩

/-- The counts within the calendar are those of wall times. -/
theorem inCalendar_iff {n : Int} : InCalendar n ↔ ∃ t : DateTime, (t.micros : Int) = n := by
  constructor
  · intro inside
    cases found : DateTime.ofMicros? n with
    | none => exact absurd inside (DateTime.ofMicros?_eq_none_iff.mp found)
    | some t => exact ⟨t, DateTime.ofMicros?_eq_some_iff.mp found⟩
  · rintro ⟨t, rfl⟩
    have := t.micros_lt
    exact ⟨by omega, by omega⟩

theorem ZoneSpelling.exists_offset {zone : ZoneSpelling} (range : zone.InRange) :
    ∃ o : Offset, zone.offset = .ok o := by
  cases zone with
  | zulu letter => exact ⟨.utc, rfl⟩
  | shift sign hour minute =>
    obtain ⟨hh, hm⟩ := range
    exact ⟨_, by rw [offset, dif_pos hm, dif_pos hh]⟩

theorem moment?_eq_ok_some_iff {s : Spelling} (form : s.IsRfc3339) {m : Moment} :
    s.moment? = .ok (some m) ↔ s.InRange ∧ s.zone.InRange ∧
      m.wall.micros = s.localMicros ∧ m.offset.micros = s.zone.micros := by
  rw [Spelling.moment?_eq_ok_iff form]
  constructor
  · rintro ⟨fields, o, read, same⟩
    obtain ⟨wall, counted, rfl⟩ := Option.map_eq_some_iff.mp same.symm
    obtain ⟨zone, micros⟩ := ZoneSpelling.offset_eq_ok_iff.mp read
    have count := DateTime.ofMicros?_eq_some_iff.mp counted
    exact ⟨fields, zone, Int.ofNat_inj.mp count, micros⟩
  · rintro ⟨fields, zone, wall, micros⟩
    refine ⟨fields, m.offset, ZoneSpelling.offset_eq_ok_iff.mpr ⟨zone, micros⟩, ?_⟩
    rw [DateTime.ofMicros?_eq_some_iff.mpr (congrArg Nat.cast wall)]
    rfl

/-- What is read is the moment of a timestamp in ASCII digits, moved to UTC. -/
theorem read_eq_ok_iff_moment {text : List Char} {m : Moment} : read text = .ok m ↔
    ∃ s : Spelling, text = s.chars ∧ s.IsRfc3339 ∧
      ∃ here : Moment, s.moment? = .ok (some here) ∧ here.utc? = some m := by
  constructor
  · intro found
    simp only [read] at found
    split at found
    · contradiction
    · next s spelled =>
      obtain ⟨valid, rfl⟩ := Spelling.read?_eq_some_iff.mp spelled
      split at found
      · next ascii =>
        have form : s.IsRfc3339 := Spelling.isRfc3339_iff.mpr ⟨valid, by simpa using ascii⟩
        split at found
        · contradiction
        · next moment meant =>
          split at found
          · next utc shifted =>
            cases found
            obtain ⟨here, rfl, moved⟩ := Option.bind_eq_some_iff.mp shifted
            exact ⟨s, rfl, form, here, meant, moved⟩
          · contradiction
      · contradiction
  · rintro ⟨s, rfl, form, here, meant, moved⟩
    obtain ⟨valid, ascii⟩ := Spelling.isRfc3339_iff.mp form
    have all : s.chars.all (·.toNat < 128) := by simpa using ascii
    simp only [read, Spelling.read?_complete valid, if_pos all, meant, Option.bind_some, moved]

/-- A moment is moved to UTC by its offset, from a wall that the calendar has. -/
theorem exists_moment_iff {s : Spelling} (form : s.IsRfc3339) {m : Moment} :
    (∃ here : Moment, s.moment? = .ok (some here) ∧ here.utc? = some m) ↔
      s.InRange ∧ s.zone.InRange ∧ InCalendar s.localMicros ∧
        m.offset = .utc ∧ m.instant = s.localMicros - s.zone.micros := by
  constructor
  · rintro ⟨here, meant, moved⟩
    obtain ⟨fields, zone, wall, offset⟩ := (moment?_eq_ok_some_iff form).mp meant
    obtain ⟨utc, same⟩ := Moment.utc?_eq_some_iff.mp moved
    refine ⟨fields, zone, inCalendar_iff.mpr ⟨here.wall, by rw [wall]⟩, utc, ?_⟩
    rw [same, Moment.instant, wall, offset]
  · rintro ⟨fields, zone, wall, utc, count⟩
    obtain ⟨wall, counted⟩ := inCalendar_iff.mp wall
    obtain ⟨o, offset⟩ := ZoneSpelling.exists_offset zone
    have micros := (ZoneSpelling.offset_eq_ok_iff.mp offset).2
    refine ⟨⟨wall, o⟩, (moment?_eq_ok_some_iff form).mpr
      ⟨fields, zone, Int.ofNat_inj.mp counted, micros⟩, ?_⟩
    apply Moment.utc?_eq_some_iff.mpr
    exact ⟨utc, by rw [count, Moment.instant, counted, micros]⟩

/-- Characters are read exactly as their acceptable spelling, if they have one. -/
theorem read_eq_ok_iff {text : List Char} {m : Moment} : read text = .ok m ↔
    ∃ s : Spelling, text = s.chars ∧ s.Acceptable ∧
      m.offset = .utc ∧ m.instant = s.localMicros - s.zone.micros := by
  rw [read_eq_ok_iff_moment]
  constructor
  · rintro ⟨s, rfl, form, moved⟩
    obtain ⟨fields, zone, wall, utc, count⟩ := (exists_moment_iff form).mp moved
    -- the last condition, that UTC has the moment too, is met by the result itself
    have inside := Moment.hasUtcForm_of_utc utc
    rw [Moment.HasUtcForm, count] at inside
    exact ⟨s, rfl, ⟨form, fields, zone, wall, inside⟩, utc, count⟩
  · rintro ⟨s, rfl, acceptable, utc, count⟩
    refine ⟨s, rfl, acceptable.form, (exists_moment_iff acceptable.form).mpr ?_⟩
    exact ⟨acceptable.fields, acceptable.zone, acceptable.wall, utc, count⟩

theorem parse_eq_ok_iff {text : Text} {m : Moment} : parse text = .ok m ↔
    ∃ s : Spelling, text = .ofChars s.chars ∧ s.Acceptable ∧
      m.offset = .utc ∧ m.instant = s.localMicros - s.zone.micros := by
  simp only [parse]
  cases found : text.chars? with
  | none =>
    have surrogates : ¬ ∃ chars, text = .ofChars chars := by
      rintro ⟨chars, rfl⟩
      rw [Text.chars?_ofChars] at found
      contradiction
    constructor
    · intro failed
      contradiction
    · rintro ⟨s, same, _⟩
      exact absurd ⟨s.chars, same⟩ surrogates
  | some chars =>
    obtain rfl := Text.ofChars_of_chars? found
    have same (s : Spelling) : Text.ofChars chars = .ofChars s.chars ↔ chars = s.chars :=
      ⟨Text.ofChars_injective, congrArg _⟩
    simp only [read_eq_ok_iff, same]

/-- The exact language of the reader and the meaning of its texts. A text is
accepted when it is the text of an acceptable spelling and refused with an error
otherwise; what is accepted is the moment in UTC at the spelling's count, its
fraction cut to microseconds, less its signed offset. -/
theorem parse_accepts_exactly_acceptable (text : Text) :
    ((∃ m, parse text = .ok m) ↔ ∃ s : Spelling, text = .ofChars s.chars ∧ s.Acceptable) ∧
      (∀ m, parse text = .ok m ↔ ∃ s : Spelling, text = .ofChars s.chars ∧ s.Acceptable ∧
        m.offset = .utc ∧ m.instant = s.localMicros - s.zone.micros) ∧
      ((∃ e, parse text = .error e) ↔ ¬ ∃ s : Spelling, text = .ofChars s.chars ∧ s.Acceptable) := by
  have accepted : (∃ m, parse text = .ok m) ↔
      ∃ s : Spelling, text = .ofChars s.chars ∧ s.Acceptable := by
    constructor
    · rintro ⟨m, read⟩
      obtain ⟨s, spelled, acceptable, _⟩ := parse_eq_ok_iff.mp read
      exact ⟨s, spelled, acceptable⟩
    · rintro ⟨s, spelled, acceptable⟩
      obtain ⟨wall, counted⟩ := inCalendar_iff.mp acceptable.utc
      refine ⟨⟨wall, .utc⟩, parse_eq_ok_iff.mpr ⟨s, spelled, acceptable, rfl, ?_⟩⟩
      rw [← counted, Moment.instant_of_utc rfl]
  refine ⟨accepted, fun m => parse_eq_ok_iff, ?_⟩
  rw [← accepted]
  cases parse text with
  | ok m => simp
  | error e => simp

end Timespan.Timestamp
