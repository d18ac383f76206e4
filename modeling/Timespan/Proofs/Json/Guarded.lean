import Timespan.Proofs.Json.Pairs
import Timespan.Proofs.Json.RoundTrip

/-! What the guarded dialects make of the text that every value has in the spaced style:
the value with its pairs joined when they have room for that, and otherwise nothing. -/
namespace Timespan.Json

theorem map_eq_ok {α β : Type} {f : α → β} {taken : Taken α} {b : β} {after : List Char}
    (read : (taken.map fun (a, rest) => (f a, rest)) = .ok (b, after)) :
    ∃ a, taken = .ok (a, after) ∧ b = f a := by
  cases taken with
  | error e => contradiction
  | ok pair =>
    cases read
    exact ⟨_, rfl, rfl⟩

variable {minusCounts : Bool}

section Strings

variable {text rest : List Char} {body : Text}

theorem putFirst_eq_ok {p : CodePoint} {taken : Taken Text}
    (read : putFirst p taken = .ok (body, rest)) :
    ∃ more, taken = .ok (more, rest) ∧ body = p :: more :=
  map_eq_ok read

theorem stringBody_ne_ok_of_unit {first n : Nat} (h : n < 0x10000) (low : isLow n = false)
    {taken : Text × List Char} :
    stringBody (.guarded minusCounts) (some first) (escapeUnit n ++ text) ≠ .ok taken := by
  obtain ⟨a, b, c, d, written, read⟩ := exists_escapeUnit h
  simp only [written, List.cons_append, List.nil_append]
  rw [stringBody.eq_4 _ _ _ _ _ _ _ _ read, low, if_neg Bool.false_ne_true]
  rintro ⟨⟩

/-- The second half of a pair cannot come first. -/
theorem stringBody_ne_ok_of_low {n : Nat} (low : isLow n) {taken : Text × List Char} :
    stringBody (.guarded minusCounts) none (escapeUnit n ++ text) ≠ .ok taken := by
  obtain ⟨a, b, c, d, written, read⟩ := exists_escapeUnit (lt_of_isLow low)
  have high : isHigh n = false := by
    simp only [isLow, Bool.and_eq_true, decide_eq_true_eq] at low
    simp only [isHigh, Bool.and_eq_false_iff, decide_eq_false_iff_not]
    omega
  simp only [written, List.cons_append, List.nil_append]
  rw [stringBody.eq_3 _ _ _ _ _ _ _ read, high, low, if_neg Bool.false_ne_true]
  rintro ⟨⟩

/-- No character goes on with a pair that is open. -/
theorem stringBody_ne_ok_of_char {first : Nat} (c : Char) {taken : Text × List Char} :
    stringBody (.guarded minusCounts) (some first) (escapeChar true c ++ text) ≠ .ok taken := by
  obtain ⟨letter, written, hu, read⟩ | written | ⟨written, mark, backslash, control⟩ :=
    escapeChar_cases true c
  · rw [written, List.cons_append, List.singleton_append,
      stringBody.eq_5 _ _ _ _ fun _ _ _ _ _ same _ => hu same]
    rintro ⟨⟩
  · have limit := CodePoint.toNat_lt c
    rw [written, escapeUnits]
    split
    · next small => exact stringBody_ne_ok_of_unit small (not_half c).2
    · rw [List.append_assoc]
      apply stringBody_ne_ok_of_unit (by omega)
      simp only [isLow, Bool.and_eq_false_iff, decide_eq_false_iff_not]
      omega
  · rw [written, List.singleton_append,
      stringBody.eq_6 _ _ _ _ (fun _ _ _ _ _ same _ => backslash same)
        fun _ _ same _ => backslash same]
    rintro ⟨⟩

theorem stringBody_ne_ok_of_high {first : Nat} {s : Text}
    (alone : ∀ q ∈ s.head?, isLow q.val = false) {taken : Text × List Char} :
    stringBody (.guarded minusCounts) (some first)
      (s.flatMap (escape true) ++ quoteMark :: text) ≠ .ok taken := by
  cases s with
  | nil =>
    rw [List.flatMap_nil, List.nil_append,
      stringBody.eq_6 _ _ _ _ (fun _ _ _ _ _ same _ => by contradiction)
        fun _ _ same _ => by contradiction]
    rintro ⟨⟩
  | cons q s =>
    rw [List.flatMap_cons, List.append_assoc]
    cases char : q.char? with
    | none =>
      have surrogate : q.isSurrogate := by rw [CodePoint.isSurrogate, char, Option.isNone_none]
      rw [q.isSurrogate_eq, alone q rfl, Bool.or_false] at surrogate
      rw [escape_half true (.inl surrogate)]
      exact stringBody_ne_ok_of_unit (lt_of_isHigh surrogate) (alone q rfl)
    | some c =>
      rw [escape, char]
      exact stringBody_ne_ok_of_char c

/-- A code point that starts no pair is read alone, and is no surrogate. -/
theorem stringBody_first {p : CodePoint} {s : Text}
    (alone : isHigh p.val → ∀ q ∈ s.head?, isLow q.val = false)
    (read : stringBody (.guarded minusCounts) none
      ((p :: s).flatMap (escape true) ++ quoteMark :: text) = .ok (body, rest)) :
    p.isSurrogate = false ∧ ∃ more, body = p :: more ∧ stringBody (.guarded minusCounts) none
      (s.flatMap (escape true) ++ quoteMark :: text) = .ok (more, rest) := by
  rw [List.flatMap_cons, List.append_assoc] at read
  cases surrogate : p.isSurrogate with
  | false =>
    rw [stringBody_escape true surrogate] at read
    obtain ⟨more, later, rfl⟩ := putFirst_eq_ok read
    exact ⟨rfl, more, rfl, later⟩
  | true =>
    rw [p.isSurrogate_eq, Bool.or_eq_true] at surrogate
    rw [escape_half true surrogate] at read
    obtain high | low := surrogate
    · rw [stringBody_high (lt_of_isHigh high) high] at read
      exact absurd read (stringBody_ne_ok_of_high (alone high))
    · exact absurd read (stringBody_ne_ok_of_low low)

theorem encodable_cons {p : CodePoint} {s : Text} (first : p.isSurrogate = false)
    (others : s.unencodable? = none) : Text.unencodable? (p :: s) = none := by
  rw [Text.unencodable?_eq_none_iff] at others ⊢
  exact List.forall_mem_cons.mpr ⟨first, others⟩

/-- A written string that is read is the string with its pairs joined, without
surrogates, and is read up to its closing quote. -/
theorem stringBody_guarded {s : Text}
    (read : stringBody (.guarded minusCounts) none (s.flatMap (escape true) ++ quoteMark :: text) =
      .ok (body, rest)) :
    body = s.joined ∧ body.unencodable? = none ∧ rest = text := by
  fun_induction Text.joined s generalizing body with
  | case1 =>
    rw [List.flatMap_nil, List.nil_append, stringBody_close] at read
    cases read
    exact ⟨rfl, rfl, rfl⟩
  | case2 p =>
    obtain ⟨clean, more, rfl, later⟩ := stringBody_first (by simp) read
    rw [List.flatMap_nil, List.nil_append, stringBody_close] at later
    cases later
    exact ⟨rfl, encodable_cons clean rfl, rfl⟩
  | case3 p q others halves ih =>
    rw [Bool.and_eq_true] at halves
    rw [List.flatMap_cons, List.flatMap_cons, escape_half true (.inl halves.1),
      escape_half true (.inr halves.2), List.append_assoc, List.append_assoc,
      stringBody_high (lt_of_isHigh halves.1) halves.1,
      stringBody_low (lt_of_isLow halves.2) halves.2] at read
    obtain ⟨more, later, rfl⟩ := putFirst_eq_ok read
    obtain ⟨rfl, clean, rfl⟩ := ih later
    exact ⟨rfl, encodable_cons (CodePoint.isSurrogate_ofChar _) clean, rfl⟩
  | case4 p q others apart ih =>
    have alone : isHigh p.val → ∀ r ∈ (q :: others).head?, isLow r.val = false := by
      rintro high _ ⟨⟩
      rw [Bool.and_eq_true, not_and, Bool.not_eq_true] at apart
      exact apart high
    obtain ⟨clean, more, rfl, later⟩ := stringBody_first alone read
    obtain ⟨rfl, others, rfl⟩ := ih later
    exact ⟨rfl, encodable_cons clean others, rfl⟩

end Strings

section Values

theorem takeName_guarded {name body : Text} {text rest : List Char}
    (read : takeName (.guarded minusCounts) (writeString .spaced name ++ (Style.spaced.name ++ text)) =
      .ok (body, rest)) :
    body = name.joined ∧ body.unencodable? = none ∧ rest = skipBlanks text := by
  have written : writeString .spaced name ++ (Style.spaced.name ++ text) = quoteMark ::
      (name.flatMap (escape true) ++ quoteMark :: ':' :: ' ' :: text) := by
    simp [writeString, Style.spaced]
  rw [written, takeName, if_pos (show quoteMark = Char.ofNat 34 from rfl)] at read
  cases quoted : stringBody (.guarded minusCounts) none
      (name.flatMap (escape true) ++ quoteMark :: ':' :: ' ' :: text) with
  | error e => simp only [quoted, reduceCtorEq] at read
  | ok taken =>
    obtain ⟨body, behind⟩ := taken
    obtain ⟨rfl, clean, rfl⟩ := stringBody_guarded quoted
    have colon : skipBlanks (':' :: ' ' :: text) = ':' :: ' ' :: text := skipBlanks_cons rfl
    have blank : skipBlanks (' ' :: text) = skipBlanks text := skipBlanks_append blank_space
    simp only [quoted, colon, blank] at read
    cases read
    exact ⟨rfl, clean, rfl⟩

/-- With so much fuel a value that is read from its text, behind blanks and before any
rest that its last number cannot go on with, is read as what it shows. -/
def ShowsValues (minusCounts : Bool) (fuel : Nat) : Prop :=
  ∀ (v w : Json) (depth : Nat) (blanks rest after : List Char), depth ≤ 200 → Blank blanks →
    NumberEnds rest →
      takeValue (.guarded minusCounts) fuel depth (blanks ++ (write .spaced v ++ rest)) =
          .ok (w, after) →
        w = v.joined ∧ FitsAt (.guarded minusCounts) depth w ∧ after = rest

/-- The same of items, up to their closing bracket. -/
def ShowsItems (minusCounts : Bool) (fuel : Nat) : Prop :=
  ∀ (item : Json) (items shown : List Json) (depth : Nat) (blanks rest after : List Char),
    depth < 200 → Blank blanks →
      takeItems (.guarded minusCounts) fuel (depth + 1)
          (blanks ++ (writeItems .spaced (item :: items) ++ rest)) = .ok (shown, after) →
        shown = joinedItems (item :: items) ∧ FitsAt (.guarded minusCounts) depth (array shown) ∧
          after = rest

/-- The same of members, from the first one's value up to their closing brace. -/
def ShowsMembers (minusCounts : Bool) (fuel : Nat) : Prop :=
  ∀ (name : Text) (value : Json) (members shown : List (Text × Json)) (depth : Nat)
    (rest after : List Char), depth < 200 → name.joined.unencodable? = none →
      takeMembers (.guarded minusCounts) fuel (depth + 1) name.joined
          (write .spaced value ++ (afterMember .spaced members ++ rest)) = .ok (shown, after) →
        shown = joinedMembers ((name, value) :: members) ∧
          FitsAt (.guarded minusCounts) depth (object shown) ∧ after = rest

variable {fuel : Nat}

theorem showsItems_succ (values : ShowsValues minusCounts fuel)
    (items : ShowsItems minusCounts fuel) : ShowsItems minusCounts (fuel + 1) := by
  intro item others shown depth blanks rest after room blank read
  rw [writeItems_cons, List.append_assoc, takeItems] at read
  split at read
  · contradiction
  next w behind first =>
  obtain ⟨rfl, fits, rfl⟩ := values item w (depth + 1) blanks _ _ room blank
    (numberEnds_afterItem readable_spaced others rest) first
  cases others with
  | nil =>
    have bracket : skipBlanks (afterItem .spaced [] ++ rest) = ']' :: rest := skipBlanks_cons rfl
    simp only [bracket] at read
    cases read
    have closed : FitsAt (.guarded minusCounts) depth (array []) :=
      fitsAt_guarded_of_plain (Nat.le_of_lt room) rfl rfl rfl
    exact ⟨rfl, fitsAt_array_cons_iff.mpr ⟨fits, closed⟩, rfl⟩
  | cons next others =>
    have comma : skipBlanks (afterItem .spaced (next :: others) ++ rest) =
        ',' :: ([' '] ++ (writeItems .spaced (next :: others) ++ rest)) := skipBlanks_cons rfl
    simp only [comma] at read
    obtain ⟨more, later, rfl⟩ := map_eq_ok read
    obtain ⟨rfl, fit, rfl⟩ := items next others more depth [' '] rest after room blank_space later
    exact ⟨rfl, fitsAt_array_cons_iff.mpr ⟨fits, fit⟩, rfl⟩

theorem showsMembers_succ (values : ShowsValues minusCounts fuel)
    (members : ShowsMembers minusCounts fuel) : ShowsMembers minusCounts (fuel + 1) := by
  intro name value others shown depth rest after room named read
  rw [takeMembers] at read
  split at read
  · contradiction
  next w behind first =>
  obtain ⟨rfl, fits, rfl⟩ := values value w (depth + 1) [] _ _ room blank_nil
    (numberEnds_afterMember readable_spaced others rest) first
  cases others with
  | nil =>
    have brace : skipBlanks (afterMember .spaced [] ++ rest) = '\x7d' :: rest := skipBlanks_cons rfl
    simp only [brace] at read
    cases read
    have closed : FitsAt (.guarded minusCounts) depth (object []) :=
      fitsAt_guarded_of_plain (Nat.le_of_lt room) rfl rfl rfl
    exact ⟨rfl, fitsAt_object_cons_iff.mpr ⟨named, fits, closed⟩, rfl⟩
  | cons member others =>
    obtain ⟨next, other⟩ := member
    have comma : skipBlanks (afterMember .spaced ((next, other) :: others) ++ rest) =
        ',' :: ([' '] ++ (writeMembers .spaced ((next, other) :: others) ++ rest)) :=
      skipBlanks_cons rfl
    simp only [comma, skipBlanks_append blank_space, (opens_writeMembers _ _ others rest).skip] at read
    rw [writeMembers_cons, List.append_assoc, List.append_assoc, List.append_assoc] at read
    split at read
    · contradiction
    next body behind quoted =>
    obtain ⟨rfl, named', rfl⟩ := takeName_guarded quoted
    obtain ⟨more, later, rfl⟩ := map_eq_ok read
    rw [(opens_write _ other _).skip] at later
    obtain ⟨rfl, fit, rfl⟩ := members next other others more depth rest after room named' later
    exact ⟨rfl, fitsAt_object_cons_iff.mpr ⟨named, fits, fit⟩, rfl⟩

theorem tooDeep_guarded {depth : Nat} :
    (Dialect.guarded minusCounts).tooDeep depth = decide (200 ≤ depth) :=
  rfl

theorem showsValues_succ (items : ShowsItems minusCounts fuel)
    (members : ShowsMembers minusCounts fuel) : ShowsValues minusCounts (fuel + 1) := by
  intro v w depth blanks rest after room blank stop read
  rw [takeValue_blanks blank] at read
  cases v with
  | null =>
    cases read
    exact ⟨rfl, fitsAt_guarded_of_plain room rfl rfl rfl, rfl⟩
  | bool b =>
    cases b <;> cases read <;> exact ⟨rfl, fitsAt_guarded_of_plain room rfl rfl rfl, rfl⟩
  | number n =>
    rw [takeValue_signed n stop] at read
    obtain ⟨narrow, same⟩ := Dialect.limitWhole_eq_ok_iff.mp read
    cases same
    exact ⟨rfl, ⟨rfl, within_some_iff.mpr room, narrow⟩, rfl⟩
  | decimal d =>
    rw [takeValue_writeDecimal d stop] at read
    obtain ⟨narrow, same⟩ := Dialect.limitWhole_eq_ok_iff.mp read
    cases same
    exact ⟨rfl, ⟨rfl, within_some_iff.mpr room, narrow⟩, rfl⟩
  | string s =>
    rw [takeValue_writeString] at read
    obtain ⟨body, quoted, rfl⟩ := map_eq_ok read
    obtain ⟨rfl, clean, rfl⟩ := stringBody_guarded quoted
    exact ⟨rfl, fitsAt_guarded_of_plain room clean rfl rfl, rfl⟩
  | array all =>
    cases all with
    | nil =>
      cases read
      exact ⟨rfl, fitsAt_guarded_of_plain room rfl rfl rfl, rfl⟩
    | cons item others =>
      rw [write, List.cons_append, takeValue_array_eq (opens_writeItems _ item others rest)] at read
      split at read
      · contradiction
      next deep =>
      rw [tooDeep_guarded, decide_eq_true_eq, Nat.not_le] at deep
      obtain ⟨shown, later, rfl⟩ := map_eq_ok read
      obtain ⟨rfl, fits, rfl⟩ := items item others shown depth [] rest after deep blank_nil later
      exact ⟨rfl, fits, rfl⟩
  | object all =>
    cases all with
    | nil =>
      cases read
      exact ⟨rfl, fitsAt_guarded_of_plain room rfl rfl rfl, rfl⟩
    | cons member others =>
      obtain ⟨name, value⟩ := member
      rw [write, List.cons_append, takeValue_object_eq (opens_writeMembers _ _ others rest)] at read
      simp only [writeMembers_cons, List.append_assoc] at read
      split at read
      · contradiction
      next body behind quoted =>
      obtain ⟨rfl, named, rfl⟩ := takeName_guarded quoted
      split at read
      · contradiction
      next deep =>
      rw [tooDeep_guarded, decide_eq_true_eq, Nat.not_le] at deep
      obtain ⟨shown, later, rfl⟩ := map_eq_ok read
      rw [(opens_write _ value _).skip] at later
      obtain ⟨rfl, fits, rfl⟩ := members name value others shown depth rest after deep named later
      exact ⟨rfl, fits, rfl⟩

theorem shows_of_guarded (fuel : Nat) : ShowsValues minusCounts fuel ∧
    ShowsItems minusCounts fuel ∧ ShowsMembers minusCounts fuel := by
  induction fuel with
  | zero => exact ⟨nofun, nofun, nofun⟩
  | succ fuel ih =>
    obtain ⟨values, items, members⟩ := ih
    exact ⟨showsValues_succ items members, showsItems_succ values items,
      showsMembers_succ values members⟩

end Values

/-- The text of a value shows the value with its pairs joined if the dialect has room
for that, and otherwise nothing. -/
theorem parse_guarded_eq_ok_iff {v w : Json} :
    parse (.guarded minusCounts) (v.text .spaced) = .ok w ↔
      w = v.joined ∧ v.joined.Readable minusCounts := by
  constructor
  · intro read
    rw [parse, text, String.toList_ofList, Json.read] at read
    split at read
    · contradiction
    next value behind taken =>
    have shows := (shows_of_guarded _).1 v value 0 [] [] behind (Nat.zero_le _) blank_nil
      numberEnds_nil (by rwa [List.nil_append, List.append_nil])
    obtain ⟨rfl, fits, rfl⟩ := shows
    cases read
    exact ⟨rfl, readable_iff_fitsAt.mpr fits⟩
  · rintro ⟨rfl, readable⟩
    have same : v.text .spaced = v.joined.text .spaced := by
      rw [text, text, write_joined rfl]
    rw [same]
    exact parse_text_of_readable readable_spaced readable

end Timespan.Json
