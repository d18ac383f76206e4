/-! Texts as rows of Unicode code points. A code point may be a surrogate, which is
no character: texts that come in escaped can hold surrogates outside a pair, and
they have to be refused, quoted and given back like any other text. -/
namespace Timespan

/-- A Unicode code point, surrogates included. -/
structure CodePoint where
  val : Nat
  lt : val < 0x110000
deriving DecidableEq

namespace CodePoint

theorem toNat_lt (c : Char) : c.toNat < 0x110000 := by
  rcases c.valid with h | h
  · exact Nat.lt_trans h (by decide)
  · exact h.2

def ofChar (c : Char) : CodePoint :=
  ⟨c.toNat, toNat_lt c⟩

def ofNat? (n : Nat) : Option CodePoint :=
  if h : n < 0x110000 then some ⟨n, h⟩ else none

/-- The character of a code point that is no surrogate. -/
def char? (c : CodePoint) : Option Char :=
  if c.val.isValidChar then some (Char.ofNat c.val) else none

def isSurrogate (c : CodePoint) : Bool :=
  c.char?.isNone

theorem char?_ofChar (c : Char) : (ofChar c).char? = some c := by
  have h : c.toNat.isValidChar := c.valid
  simp only [char?, ofChar, if_pos h, Char.ofNat_toNat]

theorem ofChar_of_char? {p : CodePoint} {c : Char} (h : p.char? = some c) : ofChar c = p := by
  simp only [char?] at h
  split at h
  · next hv =>
    cases h
    have hc : Char.ofNat p.val = Char.ofNatAux p.val hv := dif_pos hv
    rw [hc]
    rfl
  · contradiction

end CodePoint

abbrev Text := List CodePoint

namespace Text

def ofChars (chars : List Char) : Text :=
  chars.map CodePoint.ofChar

def ofString (s : String) : Text :=
  ofChars s.toList

/-- The characters of a text without surrogates. -/
def chars? : Text → Option (List Char)
  | [] => some []
  | p :: rest =>
    match p.char?, chars? rest with
    | some c, some chars => some (c :: chars)
    | _, _ => none

theorem chars?_ofChars (chars : List Char) : chars? (ofChars chars) = some chars := by
  induction chars with
  | nil => rfl
  | cons c chars ih => simp only [ofChars, List.map_cons, chars?, CodePoint.char?_ofChar] at *; rw [ih]

theorem ofChars_injective {a b : List Char} (h : ofChars a = ofChars b) : a = b := by
  simpa only [chars?_ofChars, Option.some.injEq] using congrArg chars? h

theorem ofChars_of_chars? {t : Text} {chars : List Char} (h : chars? t = some chars) :
    ofChars chars = t := by
  induction t generalizing chars with
  | nil => cases h; rfl
  | cons p rest ih =>
    simp only [chars?] at h
    split at h
    · next c cs hc hcs =>
      cases h
      simp only [ofChars, List.map_cons, CodePoint.ofChar_of_char? hc]
      exact congrArg (p :: ·) (ih hcs)
    · contradiction

end Text

end Timespan
