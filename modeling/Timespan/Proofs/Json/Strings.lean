import Mathlib.Data.List.TakeWhile
import Timespan.Json.Reader
import Timespan.Json.Writer
import Timespan.Proofs.Text.Hex

/-! Strings of JSON texts. What is written for a code point that is no surrogate is read
as that code point, in either style and whatever follows. -/
namespace Timespan

theorem CodePoint.isSurrogate_ofChar (c : Char) : (ofChar c).isSurrogate = false := by
  rw [isSurrogate, char?_ofChar]
  rfl

namespace Text

theorem unencodable?_eq_none_iff {t : Text} :
    t.unencodable? = none ↔ ∀ p ∈ t, p.isSurrogate = false := by
  rw [unencodable?]
  split
  · next clean =>
    rw [List.dropWhile_eq_nil_iff] at clean
    simpa using clean
  · next p rest found =>
    simp only [reduceCtorEq, false_iff]
    intro clean
    have nothing : t.dropWhile (!·.isSurrogate) = [] := by
      rw [List.dropWhile_eq_nil_iff]
      simpa using clean
    rw [nothing] at found
    contradiction

theorem unencodable?_ofChars (chars : List Char) : (ofChars chars).unencodable? = none := by
  rw [unencodable?_eq_none_iff]
  intro p member
  obtain ⟨c, _, rfl⟩ := List.mem_map.mp member
  exact CodePoint.isSurrogate_ofChar c

end Text

namespace Json

/-- The names of a record's members have characters only. -/
theorem unencodable?_record_eq_none_iff {members : List (String × Json)} :
    (record members).unencodable? = none ↔ ∀ m ∈ members, m.2.unencodable? = none := by
  rw [record, unencodable?]
  induction members with
  | nil => simp [unencodableMember?]
  | cons member members ih =>
    have named : (Text.ofString member.1).unencodable? = none := Text.unencodable?_ofChars _
    rw [List.map_cons, unencodableMember?, named, Option.none_or, Option.or_eq_none_iff, ih,
      List.forall_mem_cons]

theorem exists_char_of_not_surrogate {p : CodePoint} (h : p.isSurrogate = false) :
    ∃ c, p = .ofChar c := by
  cases found : p.char? with
  | none => simp [CodePoint.isSurrogate, found] at h
  | some c => exact ⟨c, (CodePoint.ofChar_of_char? found).symm⟩

theorem ofNat?_toNat (c : Char) : CodePoint.ofNat? c.toNat = some (.ofChar c) :=
  dif_pos (CodePoint.toNat_lt c)

/-- No character is half of a pair. -/
theorem not_half (c : Char) : isHigh c.toNat = false ∧ isLow c.toNat = false := by
  have valid : c.toNat.isValidChar := c.valid
  simp only [Nat.isValidChar] at valid
  simp only [isHigh, isLow, Bool.and_eq_false_iff, decide_eq_false_iff_not]
  omega

/-- The halves that a character beyond the first 65536 is written by. -/
theorem pair_halves {c : Char} (h : 0x10000 ≤ c.toNat) :
    pair (0xd800 + (c.toNat - 0x10000) / 0x400) (0xdc00 + (c.toNat - 0x10000) % 0x400) = c := by
  have same : 0x10000 + (0xd800 + (c.toNat - 0x10000) / 0x400 - 0xd800) * 0x400 +
      (0xdc00 + (c.toNat - 0x10000) % 0x400 - 0xdc00) = c.toNat := by omega
  rw [pair, same, Char.ofNat_toNat]

/-- A character stands in a string as a letter behind a backslash, by its units, or as
it is. -/
theorem escapeChar_cases (ascii : Bool) (c : Char) :
    (∃ letter, escapeChar ascii c = ['\\', letter] ∧ letter ≠ 'u' ∧ unescape? letter = some c) ∨
      escapeChar ascii c = escapeUnits c.toNat ∨
      (escapeChar ascii c = [c] ∧ c ≠ quoteMark ∧ c ≠ '\\' ∧ ¬ c.toNat < 0x20) := by
  unfold escapeChar
  split
  · next escaped =>
    obtain rfl | rfl := escaped <;> exact .inl ⟨_, rfl, by decide, rfl⟩
  · next other =>
    split
    · next same => subst same; exact .inl ⟨_, rfl, by decide, rfl⟩
    split
    · next same => subst same; exact .inl ⟨_, rfl, by decide, rfl⟩
    split
    · next same => subst same; exact .inl ⟨_, rfl, by decide, rfl⟩
    split
    · next same => subst same; exact .inl ⟨_, rfl, by decide, rfl⟩
    split
    · next same => subst same; exact .inl ⟨_, rfl, by decide, rfl⟩
    split
    · exact .inr (.inl rfl)
    · next shown =>
      exact .inr (.inr ⟨rfl, fun mark => other (.inl mark), fun mark => other (.inr mark),
        fun control => shown (.inl control)⟩)

section Body

variable {dialect : Dialect} {text : List Char}

/-- A unit stands in four digits. -/
theorem exists_escapeUnit {n : Nat} (h : n < 0x10000) : ∃ a b c d,
    escapeUnit n = ['\\', 'u', a, b, c, d] ∧ Numeral.hex? [a, b, c, d] = some n :=
  ⟨_, _, _, _, rfl, Numeral.hex?_padded (show n < 16 ^ 4 from h)⟩

/-- A unit that is no half of a pair is a code point of its own. -/
theorem stringBody_escapeUnit {n : Nat} (h : n < 0x10000) (high : isHigh n = false)
    (low : isLow n = false) : stringBody dialect none (escapeUnit n ++ text) =
      putUnit n text (stringBody dialect none text) := by
  obtain ⟨a, b, c, d, written, read⟩ := exists_escapeUnit h
  simp only [written, List.cons_append, List.nil_append]
  rw [stringBody.eq_3 _ _ _ _ _ _ _ read]
  simp [high, low]

theorem stringBody_high {n : Nat} (h : n < 0x10000) (high : isHigh n) :
    stringBody dialect none (escapeUnit n ++ text) = stringBody dialect (some n) text := by
  obtain ⟨a, b, c, d, written, read⟩ := exists_escapeUnit h
  simp only [written, List.cons_append, List.nil_append]
  rw [stringBody.eq_3 _ _ _ _ _ _ _ read, if_pos high]

theorem stringBody_low {first n : Nat} (h : n < 0x10000) (low : isLow n) :
    stringBody dialect (some first) (escapeUnit n ++ text) =
      putFirst (.ofChar (pair first n)) (stringBody dialect none text) := by
  obtain ⟨a, b, c, d, written, read⟩ := exists_escapeUnit h
  simp only [written, List.cons_append, List.nil_append]
  rw [stringBody.eq_4 _ _ _ _ _ _ _ _ read, if_pos low]

theorem stringBody_escapeUnits (c : Char) : stringBody dialect none (escapeUnits c.toNat ++ text) =
    putFirst (.ofChar c) (stringBody dialect none text) := by
  have limit := CodePoint.toNat_lt c
  rw [escapeUnits]
  split
  · next small =>
    rw [stringBody_escapeUnit small (not_half c).1 (not_half c).2, putUnit, ofNat?_toNat]
  · next large =>
    have high : isHigh (0xd800 + (c.toNat - 0x10000) / 0x400) := by
      simp only [isHigh, Bool.and_eq_true, decide_eq_true_eq]
      omega
    have low : isLow (0xdc00 + (c.toNat - 0x10000) % 0x400) := by
      simp only [isLow, Bool.and_eq_true, decide_eq_true_eq]
      omega
    rw [List.append_assoc, stringBody_high (by omega) high, stringBody_low (by omega) low,
      pair_halves (by omega)]

theorem stringBody_letter {letter c : Char} (hu : letter ≠ 'u') (read : unescape? letter = some c) :
    stringBody dialect none ('\\' :: letter :: text) =
      putFirst (.ofChar c) (stringBody dialect none text) := by
  rw [stringBody.eq_5 _ _ _ _ fun _ _ _ _ _ same _ => hu same]
  simp only [closeHigh, read]

theorem stringBody_plain {c : Char} (mark : c ≠ quoteMark) (backslash : c ≠ '\\')
    (control : ¬ c.toNat < 0x20) : stringBody dialect none (c :: text) =
      putFirst (.ofChar c) (stringBody dialect none text) := by
  rw [stringBody.eq_6 _ _ _ _ (fun _ _ _ _ _ same _ => backslash same)
    fun _ _ same _ => backslash same]
  simp only [closeHigh, if_neg control]
  exact if_neg mark

theorem stringBody_close : stringBody dialect none (quoteMark :: text) = .ok ([], text) :=
  stringBody.eq_6 _ _ _ _ (fun _ _ _ _ _ same _ => by contradiction)
    fun _ _ same _ => by contradiction

theorem stringBody_escapeChar (ascii : Bool) (c : Char) :
    stringBody dialect none (escapeChar ascii c ++ text) =
      putFirst (.ofChar c) (stringBody dialect none text) := by
  obtain ⟨letter, written, hu, read⟩ | written | ⟨written, mark, backslash, control⟩ :=
    escapeChar_cases ascii c
  · rw [written]
    exact stringBody_letter hu read
  · rw [written]
    exact stringBody_escapeUnits c
  · rw [written]
    exact stringBody_plain mark backslash control

theorem stringBody_escape (ascii : Bool) {p : CodePoint} (h : p.isSurrogate = false) :
    stringBody dialect none (escape ascii p ++ text) =
      putFirst p (stringBody dialect none text) := by
  obtain ⟨c, rfl⟩ := exists_char_of_not_surrogate h
  rw [escape, CodePoint.char?_ofChar]
  exact stringBody_escapeChar ascii c

/-- A written string is read up to its closing quote. -/
theorem stringBody_write (ascii : Bool) {s : Text} (h : s.unencodable? = none) :
    stringBody dialect none (s.flatMap (escape ascii) ++ quoteMark :: text) = .ok (s, text) := by
  rw [Text.unencodable?_eq_none_iff] at h
  induction s with
  | nil => exact stringBody_close
  | cons p s ih =>
    rw [List.forall_mem_cons] at h
    rw [List.flatMap_cons, List.append_assoc, stringBody_escape ascii h.1, ih h.2]
    rfl

end Body

end Json

end Timespan
