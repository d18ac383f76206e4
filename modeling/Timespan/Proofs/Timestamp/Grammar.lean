import Timespan.Timestamp.Spelling

/-! The grammar of timestamps and its reader, part by part. A spelling is read exactly
when it is well formed and the text is its text, so no text has two spellings. -/
namespace Timespan.Timestamp

theorem takeField?_eq_some_iff {width : Nat} {text digits rest : List Char} :
    takeField? width text = some (digits, rest) ↔ IsField width digits ∧ text = digits ++ rest := by
  constructor
  · intro taken
    simp only [takeField?] at taken
    split at taken
    · next field =>
      cases taken
      exact ⟨field, (List.take_append_drop width text).symm⟩
    · contradiction
  · rintro ⟨field, rfl⟩
    have first : (digits ++ rest).take width = digits := List.take_left' field.1
    have last : (digits ++ rest).drop width = rest := List.drop_left' field.1
    rw [takeField?, first, last, if_pos field]

theorem dropMark?_eq_some_iff {mark : Char} {text rest : List Char} :
    dropMark? mark text = some rest ↔ text = mark :: rest := by
  cases text with
  | nil => simp [dropMark?]
  | cons c text =>
    by_cases same : c = mark
    · simp [dropMark?, same]
    · simp [dropMark?, same]

theorem takeMark?_eq_some_iff {mark : Char} {text rest : List Char} :
    Spelling.takeMark? text = some (mark, rest) ↔
      (mark = 'T' ∨ mark = 't' ∨ mark = ' ') ∧ text = mark :: rest := by
  constructor
  · intro taken
    cases text with
    | nil => contradiction
    | cons c text =>
      simp only [Spelling.takeMark?] at taken
      split at taken
      · next allowed =>
        cases taken
        exact ⟨allowed, rfl⟩
      · contradiction
  · rintro ⟨allowed, rfl⟩
    rw [Spelling.takeMark?, if_pos allowed]

/-- What a fraction may be: nothing, or digits and at least one. -/
def IsFraction (fraction : Option (List Char)) : Prop :=
  ∀ digits, fraction = some digits → digits ≠ [] ∧ digits.all isDecimalDigit

theorem takeFraction?_sound {text rest : List Char} {fraction : Option (List Char)}
    (taken : takeFraction? text = some (fraction, rest)) :
    IsFraction fraction ∧ text = fractionChars fraction ++ rest := by
  unfold takeFraction? at taken
  split at taken
  · next after =>
    split at taken
    · contradiction
    · next present =>
      cases taken
      refine ⟨?_, ?_⟩
      · rintro digits ⟨⟩
        exact ⟨present, List.all_takeWhile⟩
      · rw [fractionChars, List.cons_append, List.takeWhile_append_dropWhile]
  · cases taken
    exact ⟨fun digits absent => by contradiction, rfl⟩

/-- The rest must not go on with what could belong to the fraction. -/
theorem takeFraction?_complete {rest : List Char} {fraction : Option (List Char)}
    (valid : IsFraction fraction)
    (stop : ∀ c, rest.head? = some c → c ≠ '.' ∧ isDecimalDigit c = false) :
    takeFraction? (fractionChars fraction ++ rest) = some (fraction, rest) := by
  cases fraction with
  | none =>
    rw [fractionChars, List.nil_append]
    unfold takeFraction?
    split
    · exact absurd rfl (stop _ rfl).1
    · rfl
  | some digits =>
    obtain ⟨present, all⟩ := valid digits rfl
    have inside : ∀ c ∈ digits, isDecimalDigit c = true := List.all_eq_true.mp all
    have ends : rest.takeWhile isDecimalDigit = [] ∧ rest.dropWhile isDecimalDigit = rest := by
      cases rest with
      | nil => exact ⟨rfl, rfl⟩
      | cons c rest => simp [(stop c rfl).2]
    have front : (digits ++ rest).takeWhile isDecimalDigit = digits := by
      rw [List.takeWhile_append_of_pos inside, ends.1, List.append_nil]
    have back : (digits ++ rest).dropWhile isDecimalDigit = rest := by
      rw [List.dropWhile_append_of_pos inside, ends.2]
    rw [fractionChars, List.cons_append, takeFraction?, front, back, if_neg present]

namespace ZoneSpelling

theorem read?_sound {text : List Char} {zone : ZoneSpelling} (found : read? text = some zone) :
    zone.WellFormed ∧ text = zone.chars := by
  cases text with
  | nil => contradiction
  | cons c rest =>
    simp only [read?] at found
    split at found
    · next letter =>
      split at found
      · next alone =>
        cases found
        exact ⟨letter, by rw [alone, chars]⟩
      · contradiction
    · split at found
      · next sign =>
        simp only [Option.bind_eq_bind, Option.bind_eq_some_iff, Prod.exists,
          takeField?_eq_some_iff, dropMark?_eq_some_iff] at found
        obtain ⟨hour, _, ⟨hourField, rfl⟩, _, rfl, minute, tail, ⟨minuteField, rfl⟩, found⟩ := found
        split at found
        · next alone =>
          cases found
          exact ⟨⟨sign, hourField, minuteField⟩, by rw [alone, chars, List.append_nil]⟩
        · contradiction
      · contradiction

theorem read?_complete {zone : ZoneSpelling} (valid : zone.WellFormed) :
    read? zone.chars = some zone := by
  cases zone with
  | zulu letter =>
    have letters : letter = 'Z' ∨ letter = 'z' := valid
    rw [chars, read?, if_pos letters, if_pos rfl]
  | shift sign hour minute =>
    obtain ⟨signs, hourField, minuteField⟩ := valid
    have noLetter : ¬ (sign = 'Z' ∨ sign = 'z') := by
      rcases signs with rfl | rfl <;> decide
    have hourTaken : takeField? 2 (hour ++ ':' :: minute) = some (hour, ':' :: minute) :=
      takeField?_eq_some_iff.mpr ⟨hourField, rfl⟩
    have minuteTaken : takeField? 2 minute = some (minute, []) :=
      takeField?_eq_some_iff.mpr ⟨minuteField, (List.append_nil minute).symm⟩
    have marked : dropMark? ':' (':' :: minute) = some minute := dropMark?_eq_some_iff.mpr rfl
    rw [chars, read?, if_neg noLetter, if_pos signs]
    simp only [hourTaken, marked, minuteTaken, Option.bind_eq_bind, Option.bind_some, if_true]

theorem chars_injective {zone other : ZoneSpelling} (hz : zone.WellFormed) (ho : other.WellFormed)
    (same : zone.chars = other.chars) : zone = other := by
  have found := read?_complete hz
  rw [same, read?_complete ho] at found
  exact (Option.some.inj found).symm

/-- No offset starts as a fraction does or goes on with its digits. -/
theorem head_stops {zone : ZoneSpelling} (valid : zone.WellFormed) :
    ∀ c, zone.chars.head? = some c → c ≠ '.' ∧ isDecimalDigit c = false := by
  intro c head
  cases zone with
  | zulu letter =>
    cases head
    rcases valid with rfl | rfl <;> decide
  | shift sign hour minute =>
    cases head
    rcases valid.1 with rfl | rfl <;> decide

end ZoneSpelling

namespace Spelling

theorem read?_sound {text : List Char} {s : Spelling} (found : read? text = some s) :
    s.WellFormed ∧ text = s.chars := by
  simp only [read?, Option.bind_eq_bind, Option.bind_eq_some_iff, Prod.exists, Option.pure_def,
    Option.some.injEq, takeField?_eq_some_iff, dropMark?_eq_some_iff, takeMark?_eq_some_iff] at found
  obtain ⟨year, _, ⟨yearField, rfl⟩, _, rfl, month, _, ⟨monthField, rfl⟩, _, rfl,
    day, _, ⟨dayField, rfl⟩, mark, _, ⟨allowed, rfl⟩, hour, _, ⟨hourField, rfl⟩, _, rfl,
    minute, _, ⟨minuteField, rfl⟩, _, rfl, second, _, ⟨secondField, rfl⟩,
    fraction, rest, fractionTaken, zone, zoneFound, rfl⟩ := found
  obtain ⟨fractionValid, rfl⟩ := takeFraction?_sound fractionTaken
  obtain ⟨zoneValid, rfl⟩ := ZoneSpelling.read?_sound zoneFound
  exact ⟨⟨yearField, monthField, dayField, allowed, hourField, minuteField, secondField,
    fractionValid, zoneValid⟩, rfl⟩

/-- The text of a spelling up to its offset. -/
def front (s : Spelling) : List Char :=
  s.year ++ '-' :: (s.month ++ '-' :: (s.day ++ s.mark ::
    (s.hour ++ ':' :: (s.minute ++ ':' :: (s.second ++ fractionChars s.fraction)))))

theorem chars_eq_front_append (s : Spelling) : s.chars = s.front ++ s.zone.chars := by
  simp only [chars, front, List.append_assoc, List.cons_append]

/-- Before any text that cannot belong to the fraction, the fields of a spelling
are read back and the text is left to be an offset. -/
theorem read?_front {s : Spelling} (valid : s.WellFormed) {text : List Char}
    (stop : ∀ c, text.head? = some c → c ≠ '.' ∧ isDecimalDigit c = false) :
    read? (s.front ++ text) = (ZoneSpelling.read? text).map fun zone => { s with zone } := by
  have field {width : Nat} {digits : List Char} (valid : IsField width digits) (rest : List Char) :
      takeField? width (digits ++ rest) = some (digits, rest) :=
    takeField?_eq_some_iff.mpr ⟨valid, rfl⟩
  have marked (mark : Char) (rest : List Char) : dropMark? mark (mark :: rest) = some rest :=
    dropMark?_eq_some_iff.mpr rfl
  have divided (rest : List Char) : takeMark? (s.mark :: rest) = some (s.mark, rest) :=
    takeMark?_eq_some_iff.mpr ⟨valid.mark, rfl⟩
  have fraction : takeFraction? (fractionChars s.fraction ++ text) = some (s.fraction, text) :=
    takeFraction?_complete valid.fraction stop
  simp only [read?, front, List.append_assoc, List.cons_append, field valid.year,
    field valid.month, field valid.day, divided, field valid.hour, field valid.minute,
    field valid.second, fraction, marked, Option.bind_eq_bind, Option.bind_some, Option.pure_def,
    Option.map_eq_bind, Function.comp_def]

theorem read?_complete {s : Spelling} (valid : s.WellFormed) : read? s.chars = some s := by
  rw [chars_eq_front_append, read?_front valid (ZoneSpelling.head_stops valid.zone),
    ZoneSpelling.read?_complete valid.zone]
  rfl

/-- The reader decides the grammar. -/
theorem read?_eq_some_iff {text : List Char} {s : Spelling} :
    read? text = some s ↔ s.WellFormed ∧ text = s.chars :=
  ⟨read?_sound, fun ⟨valid, same⟩ => same ▸ read?_complete valid⟩

/-- No two well-formed spellings have one text. -/
theorem chars_injective {s r : Spelling} (hs : s.WellFormed) (hr : r.WellFormed)
    (same : s.chars = r.chars) : s = r := by
  have found := read?_complete hs
  rw [same, read?_complete hr] at found
  exact (Option.some.inj found).symm

end Spelling

end Timespan.Timestamp
