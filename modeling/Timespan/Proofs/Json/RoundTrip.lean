import Timespan.Proofs.Json.Limits

/-! JSON values written and read back, as long as their strings have no surrogates and
the dialect has room for their depth and their numbers. -/
namespace Timespan.Json

def Blank (text : List Char) : Prop :=
  ∀ c ∈ text, isBlank c

theorem blank_nil : Blank [] :=
  List.forall_mem_nil _

theorem blank_space : Blank [' '] :=
  List.forall_mem_singleton.mpr rfl

/-- A style whose separators are a mark and then blanks. -/
structure Style.Readable (style : Style) : Prop where
  item : ∃ blanks, style.item = ',' :: blanks ∧ Blank blanks
  name : ∃ blanks, style.name = ':' :: blanks ∧ Blank blanks

theorem readable_compact : Style.compact.Readable :=
  ⟨⟨[], rfl, blank_nil⟩, ⟨[], rfl, blank_nil⟩⟩

theorem readable_spaced : Style.spaced.Readable :=
  ⟨⟨[' '], rfl, blank_space⟩, ⟨[' '], rfl, blank_space⟩⟩

section Blanks

variable {blanks text : List Char}

theorem skipBlanks_append (blank : Blank blanks) : skipBlanks (blanks ++ text) = skipBlanks text :=
  List.dropWhile_append_of_pos blank

theorem skipBlanks_cons {c : Char} (h : isBlank c = false) : skipBlanks (c :: text) = c :: text :=
  List.dropWhile_cons_of_neg (by simp [h])

end Blanks

section Written

variable (style : Style)

/-- What is written behind an item of an array. -/
def afterItem : List Json → List Char
  | [] => [']']
  | item :: items => style.item ++ writeItems style (item :: items)

/-- What is written behind a member of an object. -/
def afterMember : List (Text × Json) → List Char
  | [] => ['\x7d']
  | member :: members => style.item ++ writeMembers style (member :: members)

theorem writeItems_cons (item : Json) (items : List Json) :
    writeItems style (item :: items) = write style item ++ afterItem style items := by
  cases items with
  | nil => rfl
  | cons => simp [writeItems, afterItem]

theorem writeMembers_cons (name : Text) (value : Json) (members : List (Text × Json)) :
    writeMembers style ((name, value) :: members) =
      writeString style name ++ (style.name ++ (write style value ++ afterMember style members)) := by
  cases members with
  | nil => simp [writeMembers, afterMember]
  | cons => simp [writeMembers, afterMember]

/-- The text starts with a mark: neither with a blank nor with what closes the array
or object that it may stand in. -/
structure Opens (close : Char) (text : List Char) : Prop where
  skip : skipBlanks text = text
  other : ∀ rest, text ≠ close :: rest

theorem opens_cons {close c : Char} {text : List Char} (blank : isBlank c = false)
    (other : c ≠ close) : Opens close (c :: text) :=
  ⟨skipBlanks_cons blank, fun _ same => other (List.cons.inj same).1⟩

/-- A character that numbers start with. -/
def StartsNumber (c : Char) : Prop :=
  c = '-' ∨ ∃ d : Fin 10, c = Nat.digitChar d.val

theorem StartsNumber.opens {c : Char} {text : List Char} (starts : StartsNumber c) :
    Opens ']' (c :: text) := by
  have digits : ∀ d : Fin 10, isBlank (Nat.digitChar d.val) = false ∧ Nat.digitChar d.val ≠ ']' := by
    decide
  obtain rfl | ⟨d, rfl⟩ := starts
  · exact opens_cons rfl (by decide)
  · exact opens_cons (digits d).1 (digits d).2

/-- No other value starts as numbers do. -/
theorem StartsNumber.ne_marks {c : Char} (starts : StartsNumber c) :
    c ≠ 'n' ∧ c ≠ 't' ∧ c ≠ 'f' ∧ c ≠ '[' ∧ c ≠ '\x7b' ∧ c ≠ quoteMark := by
  have digits : ∀ d : Fin 10, Nat.digitChar d.val ≠ 'n' ∧ Nat.digitChar d.val ≠ 't' ∧
      Nat.digitChar d.val ≠ 'f' ∧ Nat.digitChar d.val ≠ '[' ∧ Nat.digitChar d.val ≠ '\x7b' ∧
      Nat.digitChar d.val ≠ quoteMark := by decide
  obtain rfl | ⟨d, rfl⟩ := starts
  · decide
  · exact digits d

theorem exists_signed (n : Int) : ∃ c text, Numeral.signed n = c :: text ∧ StartsNumber c := by
  obtain ⟨first, more, written, _⟩ := exists_digits_decimal n.natAbs
  rw [Numeral.signed]
  split
  · exact ⟨'-', _, rfl, .inl rfl⟩
  · exact ⟨_, _, written, .inr ⟨first, rfl⟩⟩

theorem exists_writeDecimal (d : Decimal) :
    ∃ c text, writeDecimal d = c :: text ∧ StartsNumber c := by
  obtain ⟨first, more, written, _⟩ := exists_digits_decimal d.whole
  rw [writeDecimal, written]
  split
  · exact ⟨'-', _, rfl, .inl rfl⟩
  · exact ⟨_, _, rfl, .inr ⟨first, rfl⟩⟩

theorem opens_write (v : Json) (rest : List Char) : Opens ']' (write style v ++ rest) := by
  cases v with
  | null => exact opens_cons rfl (by decide)
  | bool b => cases b <;> exact opens_cons rfl (by decide)
  | number n =>
    obtain ⟨c, text, written, starts⟩ := exists_signed n
    rw [write, written]
    exact starts.opens
  | decimal d =>
    obtain ⟨c, text, written, starts⟩ := exists_writeDecimal d
    rw [write, written]
    exact starts.opens
  | string s => exact opens_cons rfl (by decide)
  | array items => exact opens_cons rfl (by decide)
  | object members => exact opens_cons rfl (by decide)

theorem opens_writeMembers (member : Text × Json) (members : List (Text × Json))
    (rest : List Char) : Opens '\x7d' (writeMembers style (member :: members) ++ rest) := by
  rw [writeMembers_cons]
  exact opens_cons rfl (by decide)

theorem opens_writeItems (item : Json) (items : List Json) (rest : List Char) :
    Opens ']' (writeItems style (item :: items) ++ rest) := by
  rw [writeItems_cons, List.append_assoc]
  exact opens_write style item _

theorem length_write_pos (v : Json) : 0 < (write style v).length := by
  cases written : write style v with
  | nil =>
    have opens := opens_write style v [']']
    rw [written] at opens
    exact absurd rfl (opens.other [])
  | cons c text => exact Nat.succ_pos _

theorem length_afterItem_pos (items : List Json) : 0 < (afterItem style items).length := by
  cases items with
  | nil => exact Nat.one_pos
  | cons item items =>
    have some := length_write_pos style item
    rw [afterItem, writeItems_cons, List.length_append, List.length_append]
    omega

theorem length_afterMember_pos (members : List (Text × Json)) :
    0 < (afterMember style members).length := by
  cases members with
  | nil => exact Nat.one_pos
  | cons member members =>
    have some := length_write_pos style member.2
    rw [afterMember, writeMembers_cons]
    simp only [List.length_append]
    omega

end Written

section Marks

variable {dialect : Dialect} {fuel depth : Nat} {text rest : List Char}

theorem takeValue_blanks {blanks : List Char} (blank : Blank blanks) :
    takeValue dialect (fuel + 1) depth (blanks ++ text) =
      takeValue dialect (fuel + 1) depth text := by
  rw [takeValue, takeValue, skipBlanks_append blank]

theorem takeValue_number {c : Char} (starts : StartsNumber c) :
    takeValue dialect (fuel + 1) depth (c :: text) = takeNumber dialect (c :: text) := by
  obtain ⟨n, t, f, bracket, brace, quote⟩ := starts.ne_marks
  rw [takeValue, starts.opens.skip]
  split
  · next same => exact absurd (List.cons.inj same).1 n
  · next same => exact absurd (List.cons.inj same).1 t
  · next same => exact absurd (List.cons.inj same).1 f
  · next same => exact absurd (List.cons.inj same).1 bracket
  · next same => exact absurd (List.cons.inj same).1 brace
  · next same =>
    obtain ⟨rfl, rfl⟩ := List.cons.inj same
    exact if_neg quote
  · contradiction

theorem takeValue_signed {style : Style} (n : Int) (stop : NumberEnds rest) :
    takeValue dialect (fuel + 1) depth (write style (number n) ++ rest) =
      dialect.limitWhole (width dialect.minusCounts (number n)) (write style (number n) ++ rest)
        (.ok (number n, rest)) := by
  obtain ⟨c, text, written, starts⟩ := exists_signed n
  have read := takeNumber_signed dialect n stop
  rw [written, List.cons_append] at read
  rw [write, written, List.cons_append, takeValue_number starts, read, width]

theorem takeValue_writeDecimal {style : Style} (d : Decimal) (stop : NumberEnds rest) :
    takeValue dialect (fuel + 1) depth (write style (decimal d) ++ rest) =
      dialect.limitWhole (width dialect.minusCounts (decimal d)) (write style (decimal d) ++ rest)
        (.ok (decimal d, rest)) := by
  obtain ⟨c, text, written, starts⟩ := exists_writeDecimal d
  have read := takeNumber_writeDecimal dialect d stop
  rw [written, List.cons_append] at read
  rw [write, written, List.cons_append, takeValue_number starts, read, width]

theorem takeValue_writeString {style : Style} (s : Text) :
    takeValue dialect (fuel + 1) depth (write style (string s) ++ rest) =
      (stringBody dialect none (s.flatMap (escape style.ascii) ++ quoteMark :: rest)).map
        fun (body, rest) => (string body, rest) := by
  rw [write, writeString, List.cons_append, List.append_assoc, List.singleton_append, takeValue,
    skipBlanks_cons rfl]
  rfl

theorem takeValue_array_eq (opens : Opens ']' text) :
    takeValue dialect (fuel + 1) depth ('[' :: text) =
      if dialect.tooDeep depth then .error ⟨.tooDeep, text⟩
      else (takeItems dialect fuel (depth + 1) text).map fun (items, rest) => (array items, rest) := by
  rw [takeValue, skipBlanks_cons rfl]
  simp only [opens.skip]
  split
  · exact absurd rfl (opens.other _)
  · rfl

theorem takeValue_array (opens : Opens ']' text) (room : dialect.tooDeep depth = false) :
    takeValue dialect (fuel + 1) depth ('[' :: text) =
      (takeItems dialect fuel (depth + 1) text).map fun (items, rest) => (array items, rest) := by
  rw [takeValue_array_eq opens, room, if_neg Bool.false_ne_true]

theorem takeValue_object_eq (opens : Opens '\x7d' text) :
    takeValue dialect (fuel + 1) depth ('\x7b' :: text) =
      match takeName dialect text with
      | .error e => .error e
      | .ok (name, rest) =>
        if dialect.tooDeep depth then .error ⟨.tooDeep, rest⟩
        else (takeMembers dialect fuel (depth + 1) name rest).map
          fun (members, rest) => (object members, rest) := by
  rw [takeValue, skipBlanks_cons rfl]
  simp only [opens.skip]
  split
  · exact absurd rfl (opens.other _)
  · rfl

theorem takeValue_object {name : Text} (opens : Opens '\x7d' text)
    (read : takeName dialect text = .ok (name, rest)) (room : dialect.tooDeep depth = false) :
    takeValue dialect (fuel + 1) depth ('\x7b' :: text) =
      (takeMembers dialect fuel (depth + 1) name rest).map
        fun (members, rest) => (object members, rest) := by
  rw [takeValue_object_eq opens, read, room]
  exact if_neg Bool.false_ne_true

/-- A name is read with its colon, up to the value. -/
theorem takeName_write {style : Style} (readable : style.Readable) {name : Text}
    (encodable : name.unencodable? = none) :
    takeName dialect (writeString style name ++ (style.name ++ text)) =
      .ok (name, skipBlanks text) := by
  obtain ⟨blanks, separator, blank⟩ := readable.name
  have written : writeString style name ++ (style.name ++ text) = quoteMark ::
      (name.flatMap (escape style.ascii) ++ quoteMark :: (':' :: blanks ++ text)) := by
    simp [writeString, separator]
  have colon : skipBlanks (':' :: blanks ++ text) = ':' :: (blanks ++ text) := skipBlanks_cons rfl
  rw [written, takeName, if_pos (show quoteMark = Char.ofNat 34 from rfl),
    stringBody_write style.ascii encodable]
  simp only [colon, skipBlanks_append blank]

theorem takeName_writeMembers {style : Style} (readable : style.Readable) {name : Text}
    (encodable : name.unencodable? = none) (value : Json) (members : List (Text × Json)) :
    takeName dialect (writeMembers style ((name, value) :: members) ++ rest) =
      .ok (name, write style value ++ (afterMember style members ++ rest)) := by
  simp only [writeMembers_cons, List.append_assoc]
  rw [takeName_write readable encodable, (opens_write style value _).skip]

end Marks

section Reads

variable (dialect : Dialect) (style : Style)

/-- With so much fuel a value is read from its text, behind blanks and before any
rest that its last number cannot go on with. -/
def ReadsValues (fuel : Nat) : Prop :=
  ∀ (v : Json) (depth : Nat) (blanks rest : List Char), FitsAt dialect depth v →
    (write style v).length ≤ fuel → Blank blanks → NumberEnds rest →
      takeValue dialect fuel depth (blanks ++ (write style v ++ rest)) = .ok (v, rest)

/-- With so much fuel items are read up to their closing bracket. -/
def ReadsItems (fuel : Nat) : Prop :=
  ∀ (item : Json) (items : List Json) (depth : Nat) (blanks rest : List Char),
    FitsAt dialect depth (array (item :: items)) →
      (writeItems style (item :: items)).length ≤ fuel → Blank blanks →
        takeItems dialect fuel (depth + 1) (blanks ++ (writeItems style (item :: items) ++ rest)) =
          .ok (item :: items, rest)

/-- With so much fuel members are read from the first one's value up to their
closing brace. -/
def ReadsMembers (fuel : Nat) : Prop :=
  ∀ (name : Text) (value : Json) (members : List (Text × Json)) (depth : Nat) (rest : List Char),
    FitsAt dialect depth (object ((name, value) :: members)) →
      (write style value ++ afterMember style members).length ≤ fuel →
        takeMembers dialect fuel (depth + 1) name
            (write style value ++ (afterMember style members ++ rest)) =
          .ok ((name, value) :: members, rest)

variable {dialect style} {fuel : Nat}

theorem numberEnds_of_mark {c : Char} {text : List Char} (mark : c = ',' ∨ c = ']' ∨ c = '\x7d') :
    NumberEnds (c :: text) := by
  obtain ⟨digit, point, exponent⟩ : digit? c = none ∧ c ≠ '.' ∧ c ≠ 'e' ∧ c ≠ 'E' := by
    obtain rfl | rfl | rfl := mark <;> decide
  constructor <;> rintro _ ⟨⟩
  · exact digit
  · exact point
  · exact exponent

theorem numberEnds_afterItem (readable : style.Readable) (items : List Json) (rest : List Char) :
    NumberEnds (afterItem style items ++ rest) := by
  obtain ⟨blanks, separator, _⟩ := readable.item
  cases items with
  | nil => exact numberEnds_of_mark (by simp)
  | cons item items =>
    rw [afterItem, separator]
    exact numberEnds_of_mark (by simp)

theorem numberEnds_afterMember (readable : style.Readable) (members : List (Text × Json))
    (rest : List Char) : NumberEnds (afterMember style members ++ rest) := by
  obtain ⟨blanks, separator, _⟩ := readable.item
  cases members with
  | nil => exact numberEnds_of_mark (by simp)
  | cons member members =>
    rw [afterMember, separator]
    exact numberEnds_of_mark (by simp)

theorem readsItems_succ (readable : style.Readable) (values : ReadsValues dialect style fuel)
    (items : ReadsItems dialect style fuel) : ReadsItems dialect style (fuel + 1) := by
  intro item others depth blanks rest fits length blank
  obtain ⟨here, there⟩ := fitsAt_array_cons_iff.mp fits
  rw [writeItems_cons, List.length_append] at length
  have closed := length_afterItem_pos style others
  have first := values item (depth + 1) blanks (afterItem style others ++ rest) here (by omega)
    blank (numberEnds_afterItem readable _ _)
  rw [writeItems_cons, List.append_assoc, takeItems, first]
  cases others with
  | nil => rfl
  | cons next others =>
    obtain ⟨mark, separator, spaced⟩ := readable.item
    simp only [afterItem, separator, List.length_append, List.length_cons] at length
    have later := items next others depth mark rest there (by omega) spaced
    have comma : skipBlanks (afterItem style (next :: others) ++ rest) =
        ',' :: (mark ++ (writeItems style (next :: others) ++ rest)) := by
      rw [afterItem, separator, List.append_assoc]
      exact skipBlanks_cons rfl
    simp only [comma, later]
    rfl

theorem readsMembers_succ (readable : style.Readable) (values : ReadsValues dialect style fuel)
    (members : ReadsMembers dialect style fuel) : ReadsMembers dialect style (fuel + 1) := by
  intro name value others depth rest fits length
  obtain ⟨-, here, there⟩ := fitsAt_object_cons_iff.mp fits
  rw [List.length_append] at length
  have closed := length_afterMember_pos style others
  have first := values value (depth + 1) [] (afterMember style others ++ rest) here (by omega)
    blank_nil (numberEnds_afterMember readable _ _)
  rw [takeMembers, ← List.nil_append (write style value ++ _), first]
  cases others with
  | nil => rfl
  | cons member others =>
    obtain ⟨next, other⟩ := member
    obtain ⟨mark, separator, spaced⟩ := readable.item
    rw [afterMember, separator, writeMembers_cons] at length
    simp only [List.length_append, List.length_cons] at length
    have later := members next other others depth rest there (by rw [List.length_append]; omega)
    have comma : skipBlanks (afterMember style ((next, other) :: others) ++ rest) =
        ',' :: (mark ++ (writeMembers style ((next, other) :: others) ++ rest)) := by
      rw [afterMember, separator, List.append_assoc]
      exact skipBlanks_cons rfl
    have named : next.unencodable? = none := (fitsAt_object_cons_iff.mp there).1
    simp only [comma, skipBlanks_append spaced, (opens_writeMembers style _ others rest).skip,
      takeName_writeMembers readable named, later]
    rfl

theorem readsValues_succ (readable : style.Readable) (items : ReadsItems dialect style fuel)
    (members : ReadsMembers dialect style fuel) : ReadsValues dialect style (fuel + 1) := by
  intro v depth blanks rest fits length blank stop
  rw [takeValue_blanks blank]
  -- only what has something in it is gone into, with the fuel that is left
  cases v with
  | null => rfl
  | bool b => cases b <;> rfl
  | number n =>
    rw [takeValue_signed n stop]
    exact Dialect.limitWhole_eq_ok_iff.mpr ⟨fits.narrow, rfl⟩
  | decimal d =>
    rw [takeValue_writeDecimal d stop]
    exact Dialect.limitWhole_eq_ok_iff.mpr ⟨fits.narrow, rfl⟩
  | string s =>
    rw [takeValue_writeString, stringBody_write style.ascii fits.encodable]
    rfl
  | array all =>
    cases all with
    | nil => rfl
    | cons item others =>
      rw [write, List.length_cons] at length
      have room : dialect.tooDeep depth = false := (fitsAt_array_cons_iff.mp fits).1.not_tooDeep
      have read := items item others depth [] rest fits (by omega) blank_nil
      rw [List.nil_append] at read
      rw [write, List.cons_append, takeValue_array (opens_writeItems style item others rest) room,
        read]
      rfl
  | object all =>
    cases all with
    | nil => rfl
    | cons member others =>
      obtain ⟨name, value⟩ := member
      rw [write, List.length_cons, writeMembers_cons] at length
      simp only [List.length_append] at length
      obtain ⟨named, first, -⟩ := fitsAt_object_cons_iff.mp fits
      have room : dialect.tooDeep depth = false := first.not_tooDeep
      have read := members name value others depth rest fits (by rw [List.length_append]; omega)
      rw [write, List.cons_append, takeValue_object (opens_writeMembers style _ others rest)
        (takeName_writeMembers readable named value others) room, read]
      rfl

/-- All that is written takes fuel, so without any there is nothing to read. -/
theorem reads_zero : ReadsValues dialect style 0 ∧ ReadsItems dialect style 0 ∧
    ReadsMembers dialect style 0 := by
  refine ⟨?_, ?_, ?_⟩
  · intro v _ _ _ _ length
    have some := length_write_pos style v
    omega
  · intro item items _ _ _ _ length
    have some := length_write_pos style item
    rw [writeItems_cons, List.length_append] at length
    omega
  · intro _ value _ _ _ _ length
    have some := length_write_pos style value
    rw [List.length_append] at length
    omega

theorem reads_of_readable (readable : style.Readable) (fuel : Nat) :
    ReadsValues dialect style fuel ∧ ReadsItems dialect style fuel ∧
      ReadsMembers dialect style fuel := by
  induction fuel with
  | zero => exact reads_zero
  | succ fuel ih =>
    obtain ⟨values, items, members⟩ := ih
    exact ⟨readsValues_succ readable items members, readsItems_succ readable values items,
      readsMembers_succ readable values members⟩

end Reads

theorem numberEnds_nil : NumberEnds [] := by
  constructor <;> rintro _ ⟨⟩

/-- A value is read back from its text. -/
theorem parse_text {dialect : Dialect} {style : Style} {v : Json} (readable : style.Readable)
    (fits : FitsAt dialect 0 v) : parse dialect (v.text style) = .ok v := by
  obtain ⟨values, _⟩ : ReadsValues dialect style (2 * (write style v).length + 1) ∧ _ :=
    reads_of_readable readable _
  have taken := values v 0 [] [] fits (by omega) blank_nil numberEnds_nil
  rw [List.nil_append, List.append_nil] at taken
  rw [parse, text, String.toList_ofList, read, taken]
  rfl

theorem parse_text_of_readable {minusCounts : Bool} {style : Style} {v : Json}
    (spelled : style.Readable) (readable : v.Readable minusCounts) :
    parse (.guarded minusCounts) (v.text style) = .ok v :=
  parse_text spelled (readable_iff_fitsAt.mp readable)

end Timespan.Json
