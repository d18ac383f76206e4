import Timespan.Proofs.Timestamp.Language

/-! How the timestamp reader breaks off, and which failure below it stands behind its
error: digits beyond ASCII, or a time that the calendar does not have. -/
namespace Timespan.Timestamp

/-- The text of a timestamp, except that not all of its digits are ASCII. -/
def HasForeignDigits (text : Text) : Prop :=
  ∃ s : Spelling, text = .ofChars s.chars ∧ s.WellFormed ∧ ∃ c ∈ s.chars, 128 ≤ c.toNat

/-- The text of a timestamp in range, of a time that the calendar does not have on
the timestamp's own wall, or does not have in UTC. -/
def LeavesCalendar (text : Text) : Prop :=
  ∃ s : Spelling, text = .ofChars s.chars ∧ s.IsRfc3339 ∧ s.InRange ∧ s.zone.InRange ∧
    ¬ (InCalendar s.localMicros ∧ InCalendar (s.localMicros - s.zone.micros))

theorem ZoneSpelling.underlying?_of_offset {zone : ZoneSpelling} {e : Error}
    (failed : zone.offset = .error e) : e.underlying? = none := by
  unfold offset at failed
  repeat' split at failed
  all_goals
    cases failed
    try rfl

namespace Spelling

variable {s : Spelling} {e : Error}

theorem underlying?_of_wall? (failed : s.wall? = .error e) : e.underlying? = none := by
  unfold wall? at failed
  repeat' split at failed
  all_goals
    cases failed
    try rfl

/-- Fields and offsets that are out of range are the reader's own findings. -/
theorem underlying?_of_moment? (failed : s.moment? = .error e) : e.underlying? = none := by
  unfold moment? at failed
  split at failed
  · next found =>
    cases failed
    exact ZoneSpelling.underlying?_of_offset found
  · split at failed
    · next found =>
      cases failed
      exact underlying?_of_wall? found
    · contradiction

/-- In range, there is a moment in UTC exactly when the calendar has the time on the
wall and in UTC. -/
theorem exists_utc_iff (form : s.IsRfc3339) (fields : s.InRange) (zone : s.zone.InRange) :
    (∃ here m : Moment, s.moment? = .ok (some here) ∧ here.utc? = some m) ↔
      InCalendar s.localMicros ∧ InCalendar (s.localMicros - s.zone.micros) := by
  rw [exists_comm]
  simp only [exists_moment_iff form, fields, zone, true_and]
  constructor
  · rintro ⟨m, wall, utc, count⟩
    have inside := Moment.hasUtcForm_of_utc utc
    rw [Moment.HasUtcForm, count] at inside
    exact ⟨wall, inside⟩
  · rintro ⟨wall, inside⟩
    obtain ⟨t, counted⟩ := inCalendar_iff.mp inside
    exact ⟨⟨t, .utc⟩, wall, rfl, by rw [← counted, Moment.instant_of_utc rfl]⟩

end Spelling

/-- What each step of the reader can break off with. -/
inductive Refused (text : List Char) : Error → Prop where
  | form : Refused text (.notRfc3339 (.ofChars text))
  | digits : HasForeignDigits (.ofChars text) → Refused text .notAscii
  | range {e : Error} : e.underlying? = none → Refused text e
  | calendar : LeavesCalendar (.ofChars text) → Refused text (.outOfRange (.ofChars text))

theorem refused_of_read {text : List Char} {e : Error} (failed : read text = .error e) :
    Refused text e := by
  unfold read at failed
  split at failed
  · cases failed
    exact .form
  · next s spelled =>
    obtain ⟨valid, rfl⟩ := Spelling.read?_sound spelled
    split at failed
    · next ascii =>
      have form : s.IsRfc3339 := Spelling.isRfc3339_iff.mpr ⟨valid, by simpa using ascii⟩
      split at failed
      · next found =>
        cases failed
        exact .range (Spelling.underlying?_of_moment? found)
      · next moment meant =>
        split at failed
        · contradiction
        · next beyond =>
          cases failed
          obtain ⟨fields, o, offset, _⟩ := (Spelling.moment?_eq_ok_iff form).mp meant
          have zone := (ZoneSpelling.offset_eq_ok_iff.mp offset).1
          refine .calendar ⟨s, rfl, form, fields, zone, ?_⟩
          rw [← Spelling.exists_utc_iff form fields zone]
          rintro ⟨here, m, same, moved⟩
          rw [meant] at same
          cases same
          rw [Option.bind_some, moved] at beyond
          contradiction
    · next ascii =>
      cases failed
      have foreign : ∃ c ∈ s.chars, 128 ≤ c.toNat := by simpa using ascii
      exact .digits ⟨s, rfl, valid, foreign⟩

theorem parse_ofChars (chars : List Char) : parse (.ofChars chars) = read chars := by
  rw [parse, Text.chars?_ofChars]

theorem parse_of_foreign {text : Text} (foreign : HasForeignDigits text) :
    parse text = .error .notAscii := by
  obtain ⟨s, rfl, valid, beyond⟩ := foreign
  have ascii : ¬ s.chars.all (·.toNat < 128) := by simpa using beyond
  rw [parse_ofChars, read, Spelling.read?_complete valid]
  exact if_neg ascii

/-- Where the calendar has no such moment, there is none in UTC. -/
theorem bind_utc?_of_leaves {s : Spelling} {moment : Option Moment} (form : s.IsRfc3339)
    (fields : s.InRange) (zone : s.zone.InRange)
    (beyond : ¬ (InCalendar s.localMicros ∧ InCalendar (s.localMicros - s.zone.micros)))
    (meant : s.moment? = .ok moment) : moment.bind Moment.utc? = none := by
  cases moved : moment.bind Moment.utc? with
  | none => rfl
  | some m =>
    obtain ⟨here, rfl, utc⟩ := Option.bind_eq_some_iff.mp moved
    exact absurd ((Spelling.exists_utc_iff form fields zone).mp ⟨here, m, meant, utc⟩) beyond

theorem parse_of_leaves {text : Text} (leaves : LeavesCalendar text) :
    parse text = .error (.outOfRange text) := by
  obtain ⟨s, rfl, form, fields, zone, beyond⟩ := leaves
  obtain ⟨valid, ascii⟩ := Spelling.isRfc3339_iff.mp form
  have all : s.chars.all (·.toNat < 128) := by simpa using ascii
  obtain ⟨o, offset⟩ := ZoneSpelling.exists_offset zone
  obtain ⟨moment, meant⟩ : ∃ moment, s.moment? = .ok moment :=
    ⟨_, (Spelling.moment?_eq_ok_iff form).mpr ⟨fields, o, offset, rfl⟩⟩
  have nowhere := bind_utc?_of_leaves form fields zone beyond meant
  rw [parse_ofChars, read, Spelling.read?_complete valid]
  simp only [if_pos all, meant, nowhere]

section Failed

variable {text : Text} {e : Error}

theorem refused_of_parse (failed : parse text = .error e) :
    e.underlying? = none ∨ HasForeignDigits text ∧ e = .notAscii ∨
      LeavesCalendar text ∧ e = .outOfRange text := by
  unfold parse at failed
  split at failed
  · next chars found =>
    obtain rfl := Text.ofChars_of_chars? found
    cases refused_of_read failed with
    | form => exact .inl rfl
    | digits foreign => exact .inr (.inl ⟨foreign, rfl⟩)
    | range own => exact .inl own
    | calendar leaves => exact .inr (.inr ⟨leaves, rfl⟩)
  · cases failed
    exact .inl rfl

/-- A failure of the encoding stands behind an error exactly when the text has
digits beyond ASCII. -/
theorem underlying?_eq_encoding_iff (failed : parse text = .error e) :
    e.underlying? = some .encoding ↔ HasForeignDigits text := by
  constructor
  · intro behind
    obtain own | ⟨foreign, _⟩ | ⟨_, rfl⟩ := refused_of_parse failed
    · rw [own] at behind
      contradiction
    · exact foreign
    · cases behind
  · intro foreign
    rw [parse_of_foreign foreign] at failed
    cases failed
    rfl

/-- An overflow stands behind an error exactly when the text's time leaves the
calendar. -/
theorem underlying?_eq_overflow_iff (failed : parse text = .error e) :
    e.underlying? = some .overflow ↔ LeavesCalendar text := by
  constructor
  · intro behind
    obtain own | ⟨_, rfl⟩ | ⟨leaves, _⟩ := refused_of_parse failed
    · rw [own] at behind
      contradiction
    · contradiction
    · exact leaves
  · intro leaves
    rw [parse_of_leaves leaves] at failed
    cases failed
    rfl

end Failed

end Timespan.Timestamp
