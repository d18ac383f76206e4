import Timespan.Proofs.Text.Hex
import Timespan.Text.Quoted

/-! Texts in quotes. Whatever its code points, what stands between the marks is
printable, and it is read back up to the closing mark. -/
namespace Timespan

/-- The characters that act on what is around them instead of being shown: controls,
line breaks among them, formats, and separators other than the plain space. -/
def hiddenRanges : List (Nat × Nat) := [
  (0x0, 0x1f), (0x7f, 0xa0), (0xad, 0xad), (0x600, 0x605), (0x61c, 0x61c), (0x6dd, 0x6dd),
  (0x70f, 0x70f), (0x890, 0x891), (0x8e2, 0x8e2), (0x1680, 0x1680), (0x180e, 0x180e),
  (0x2000, 0x200f), (0x2028, 0x202f), (0x205f, 0x2064), (0x2066, 0x206f), (0x3000, 0x3000),
  (0xfeff, 0xfeff), (0xfff9, 0xfffb), (0x110bd, 0x110bd), (0x110cd, 0x110cd), (0x13430, 0x13438),
  (0x1bca0, 0x1bca3), (0x1d173, 0x1d17a), (0xe0001, 0xe0001), (0xe0020, 0xe007f)]

def IsHidden (c : Char) : Prop :=
  ∃ range ∈ hiddenRanges, range.1 ≤ c.toNat ∧ c.toNat ≤ range.2

theorem not_isHidden_of_isPrintable {c : Char} (shown : isPrintable c) : ¬ IsHidden c := by
  rintro ⟨hidden, listed, above, below⟩
  rw [isPrintable] at shown
  split at shown
  · next ascii =>
    have apart : ∀ range ∈ hiddenRanges, range.2 < 32 ∨ 127 ≤ range.1 := by decide
    have := apart hidden listed
    simp only [Bool.and_eq_true, decide_eq_true_eq] at shown
    omega
  · have apart : ∀ range ∈ hiddenRanges, ∀ other ∈ printableRanges,
        range.2 < other.1 ∨ other.2 < range.1 := by decide +kernel
    obtain ⟨range, member, inside⟩ := List.any_eq_true.mp shown
    have := apart hidden listed range member
    simp only [Bool.and_eq_true, decide_eq_true_eq] at inside
    omega

namespace Numeral

theorem isPrintable_of_mem_padded {width n : Nat} {c : Char} (member : c ∈ padded 16 width n) :
    isPrintable c := by
  have digits : ∀ n < 16, isPrintable (Nat.digitChar n) := by decide
  induction width generalizing n with
  | zero => contradiction
  | succ width ih =>
    rw [padded, List.mem_append, List.mem_singleton] at member
    obtain before | rfl := member
    · exact ih before
    · exact digits _ (Nat.mod_lt n (by decide))

end Numeral

namespace Quoted

def IsMark (c : Char) : Prop :=
  c = singleMark ∨ c = doubleMark

theorem isMark_mark (text : Text) : IsMark (mark text) := by
  unfold mark
  split
  · exact .inr rfl
  · exact .inl rfl

/-- The letters that stand for blanks behind a backslash. -/
def blankLetters : List (Char × Char) := [('t', '\t'), ('n', '\n'), ('r', '\r')]

/-- The letters that announce a number in hexadecimal, with its width. -/
def hexLetters : List (Char × Nat) := [('x', 2), ('u', 4), ('U', 8)]

/-- The forms in which a code point stands between two marks. -/
inductive Form (mark : Char) : CodePoint → List Char → Prop where
  | plain {c : Char} : isPrintable c → c ≠ mark → c ≠ '\\' → Form mark (.ofChar c) [c]
  | escaped {c : Char} : c = mark ∨ c = '\\' → Form mark (.ofChar c) ['\\', c]
  | blank {letter c : Char} : (letter, c) ∈ blankLetters → Form mark (.ofChar c) ['\\', letter]
  | hex {letter : Char} {width : Nat} {p : CodePoint} : (letter, width) ∈ hexLetters →
      p.val < 16 ^ width → Form mark p ('\\' :: letter :: Numeral.padded 16 width p.val)

theorem form_escapeChar (mark c : Char) : Form mark (.ofChar c) (escapeChar mark c) := by
  have limit := CodePoint.toNat_lt c
  unfold escapeChar
  split
  · next behind => exact .escaped behind
  next bare =>
  split
  · next same => subst same; exact .blank (by decide)
  split
  · next same => subst same; exact .blank (by decide)
  split
  · next same => subst same; exact .blank (by decide)
  split
  · next shown => exact .plain shown (fun same => bare (.inl same)) fun same => bare (.inr same)
  split
  · next small => exact .hex (by decide) small
  split
  · next small => exact .hex (by decide) small
  · exact .hex (by decide) (Nat.lt_trans limit (by decide))

/-- A code point that is no character fits in four digits. -/
theorem val_lt_of_char?_eq_none {p : CodePoint} (none : p.char? = none) : p.val < 16 ^ 4 := by
  have limit := p.lt
  have invalid : ¬ p.val.isValidChar := by
    intro valid
    rw [CodePoint.char?, if_pos valid] at none
    contradiction
  simp only [Nat.isValidChar] at invalid
  omega

theorem form_escape (mark : Char) (p : CodePoint) : Form mark p (escape mark p) := by
  unfold escape
  split
  · next c found =>
    rw [← CodePoint.ofChar_of_char? found]
    exact form_escapeChar mark c
  · next none => exact .hex (by decide) (val_lt_of_char?_eq_none none)

section Form

variable {mark : Char} {p : CodePoint} {chars : List Char}

theorem IsMark.printable (quotes : IsMark mark) : isPrintable mark := by
  obtain rfl | rfl := quotes <;> decide

theorem Form.printable (quotes : IsMark mark) (form : Form mark p chars) :
    ∀ c ∈ chars, isPrintable c := by
  have backslash : isPrintable '\\' := by decide
  cases form with
  | plain shown _ _ => simpa using shown
  | escaped behind =>
    have shown := quotes.printable
    obtain rfl | rfl := behind <;> simp [shown, backslash]
  | blank listed =>
    have letters : ∀ pair ∈ blankLetters, isPrintable pair.1 := by decide
    simp [backslash, letters _ listed]
  | hex listed _ =>
    have letters : ∀ pair ∈ hexLetters, isPrintable pair.1 := by decide
    rw [List.forall_mem_cons, List.forall_mem_cons]
    exact ⟨backslash, letters _ listed, fun c => Numeral.isPrintable_of_mem_padded⟩

theorem isPrintable_of_mem_encode {text : Text} {c : Char} (member : c ∈ encode text) :
    isPrintable c := by
  have quotes := isMark_mark text
  rw [encode, List.mem_cons, List.mem_append, List.mem_singleton, List.mem_flatMap] at member
  obtain rfl | ⟨p, _, inside⟩ | rfl := member
  · exact quotes.printable
  · exact (form_escape _ p).printable quotes c inside
  · exact quotes.printable

end Form

section Body

variable {mark : Char} {p : CodePoint} {chars rest : List Char}

/-- A code point in front of what is read. -/
def putFirst (p : CodePoint) (read : Option (Text × List Char)) : Option (Text × List Char) :=
  read.map fun (text, rest) => (p :: text, rest)

theorem body?_cons {c : Char} (bare : c ≠ '\\') : body? mark (c :: rest) =
    if c = mark then some ([], rest) else putFirst (.ofChar c) (body? mark rest) :=
  body?.eq_9 _ _ _ (fun _ same _ => bare same) (fun _ same _ => bare same)
    (fun _ same _ => bare same) (fun _ _ _ same _ => bare same) (fun _ _ _ _ _ same _ => bare same)
    (fun _ _ _ _ _ _ _ _ _ same _ => bare same) fun _ _ same _ => bare same

theorem body?_close (quotes : IsMark mark) : body? mark (mark :: rest) = some ([], rest) := by
  have bare : mark ≠ '\\' := by obtain rfl | rfl := quotes <;> decide
  rw [body?_cons bare, if_pos rfl]

theorem body?_escaped {c : Char} (other : c ∉ ['t', 'n', 'r', 'x', 'u', 'U']) :
    body? mark ('\\' :: c :: rest) = putFirst (.ofChar c) (body? mark rest) := by
  simp only [List.mem_cons, List.not_mem_nil, or_false, not_or] at other
  obtain ⟨t, n, r, x, u, U⟩ := other
  exact body?.eq_8 _ _ _ t n r (fun _ _ _ same _ => x same) (fun _ _ _ _ _ same _ => u same)
    fun _ _ _ _ _ _ _ _ _ same _ => U same

theorem body?_blank {letter c : Char} (listed : (letter, c) ∈ blankLetters) :
    body? mark ('\\' :: letter :: rest) = putFirst (.ofChar c) (body? mark rest) := by
  simp only [blankLetters, List.mem_cons, List.not_mem_nil, or_false, Prod.mk.injEq] at listed
  obtain ⟨rfl, rfl⟩ | ⟨rfl, rfl⟩ | ⟨rfl, rfl⟩ := listed <;> rfl

theorem codePoint?_padded {width : Nat} (fits : p.val < 16 ^ width) :
    codePoint? (Numeral.padded 16 width p.val) = some p := by
  rw [codePoint?, Numeral.hex?_padded fits]
  exact dif_pos p.lt

theorem body?_digits {letter : Char} {digits : List Char}
    (listed : (letter, digits.length) ∈ hexLetters) (number : codePoint? digits = some p) :
    body? mark ('\\' :: letter :: (digits ++ rest)) = putFirst p (body? mark rest) := by
  have put (read : Option (Text × List Char)) :
      (do
        let p ← codePoint? digits
        let (text, rest) ← read
        return (p :: text, rest)) = putFirst p read := by
    rw [number]
    cases read <;> rfl
  simp only [hexLetters, List.mem_cons, List.not_mem_nil, or_false, Prod.mk.injEq] at listed
  obtain ⟨rfl, width⟩ | ⟨rfl, width⟩ | ⟨rfl, width⟩ := listed
  · match digits, width, put with
    | [_, _], _, put => exact (body?.eq_5 ..).trans (put _)
  · match digits, width, put with
    | [_, _, _, _], _, put => exact (body?.eq_6 ..).trans (put _)
  · match digits, width, put with
    | [_, _, _, _, _, _, _, _], _, put => exact (body?.eq_7 ..).trans (put _)

/-- Whatever its form and whatever follows, a code point is read as itself. -/
theorem Form.body?_append (quotes : IsMark mark) (form : Form mark p chars) :
    body? mark (chars ++ rest) = putFirst p (body? mark rest) := by
  cases form with
  | plain _ other bare => exact (body?_cons bare).trans (if_neg other)
  | escaped behind =>
    refine body?_escaped ?_
    obtain rfl | rfl := behind
    · obtain rfl | rfl := quotes <;> decide
    · decide
  | blank listed => exact body?_blank listed
  | hex listed fits =>
    refine body?_digits ?_ (codePoint?_padded fits)
    rwa [Numeral.length_padded]

/-- A text between marks is read up to the mark that closes it. -/
theorem body?_write (quotes : IsMark mark) (text : Text) :
    body? mark (text.flatMap (escape mark) ++ mark :: rest) = some (text, rest) := by
  induction text with
  | nil => exact body?_close quotes
  | cons p text ih =>
    rw [List.flatMap_cons, List.append_assoc, (form_escape mark p).body?_append quotes, ih]
    rfl

theorem read?_encode_append (text : Text) : read? (encode text ++ rest) = some (text, rest) := by
  have quotes := isMark_mark text
  rw [encode, List.cons_append, List.append_assoc]
  exact (if_pos quotes).trans (body?_write quotes text)

end Body

end Quoted

end Timespan
