import Timespan.Json.Reader
import Timespan.Json.Writer

/-! Numbers of JSON texts, read part by part up to where the rest of the text starts.
The rest must not go on with what could belong to a number. -/
namespace Timespan.Json

/-- The text does not go on with a digit. -/
def DigitsEnd (text : List Char) : Prop :=
  ∀ c, text.head? = some c → digit? c = none

/-- The text does not go on with a part of a number. -/
structure NumberEnds (text : List Char) : Prop where
  digits : DigitsEnd text
  fraction : ∀ c, text.head? = some c → c ≠ '.'
  exponent : ∀ c, text.head? = some c → c ≠ 'e' ∧ c ≠ 'E'

theorem digit?_digitChar (d : Fin 10) : digit? (Nat.digitChar d.val) = some d := by
  have digits : ∀ d : Fin 10, digit? (Nat.digitChar d.val) = some d := by decide
  exact digits d

theorem digitChar_ne_sign (d : Fin 10) : Nat.digitChar d.val ≠ '-' ∧ Nat.digitChar d.val ≠ '+' := by
  have digits : ∀ d : Fin 10, Nat.digitChar d.val ≠ '-' ∧ Nat.digitChar d.val ≠ '+' := by decide
  exact digits d

section Digits

variable {rest : List Char}

theorem takeDigits_of_end (stop : DigitsEnd rest) : takeDigits rest = ([], rest) := by
  cases rest with
  | nil => rfl
  | cons c rest => simp only [takeDigits, stop c rfl]

theorem takeDigits_write (digits : List (Fin 10)) (stop : DigitsEnd rest) :
    takeDigits (digitChars digits ++ rest) = (digits, rest) := by
  induction digits with
  | nil => exact takeDigits_of_end stop
  | cons d digits ih =>
    simp only [digitChars, List.map_cons, List.cons_append, takeDigits, digit?_digitChar] at *
    rw [ih]

theorem digitsValue_append (digits : List (Fin 10)) (d : Fin 10) :
    digitsValue (digits ++ [d]) = 10 * digitsValue digits + d.val := by
  simp only [digitsValue, List.foldl_append, List.foldl_cons, List.foldl_nil]

/-- The digits of a number have its value, and a zero leads only when it is alone. -/
theorem exists_digits_decimal (n : Nat) : ∃ (first : Fin 10) (more : List (Fin 10)),
    Numeral.decimal n = digitChars (first :: more) ∧ digitsValue (first :: more) = n ∧
      (first = 0 → more = []) := by
  induction n using Nat.strongRecOn with
  | ind n ih =>
    by_cases small : n < 10
    · refine ⟨⟨n, small⟩, [], ?_, ?_, fun _ => rfl⟩
      · exact Nat.toDigits_of_lt_base small
      · exact Nat.zero_add n
    · obtain ⟨first, more, written, value, alone⟩ := ih (n / 10) (by omega)
      have low : n % 10 < 10 := Nat.mod_lt n (by decide)
      refine ⟨first, more ++ [⟨n % 10, low⟩], ?_, ?_, ?_⟩
      · rw [Numeral.decimal, Nat.toDigits_of_base_le (by decide) (by omega)]
        rw [Numeral.decimal] at written
        rw [written]
        simp [digitChars]
      · rw [← List.cons_append, digitsValue_append, value]
        exact Nat.div_add_mod n 10
      · intro zero
        rw [zero, alone zero] at value
        have nothing : n / 10 = 0 := value.symm
        omega

end Digits

/-- A fraction with its point, nothing when there are no digits. -/
def fractionText (fraction : List (Fin 10)) : List Char :=
  if fraction = [] then [] else '.' :: digitChars fraction

def exponentText (exponent : Option Exponent) : List Char :=
  (exponent.map writeExponent).getD []

def signText (negative : Bool) : List Char :=
  if negative then ['-'] else []

/-- How many characters stand before the point or exponent of a number, its minus among
them where it counts. -/
def wholeSize (minusCounts negative : Bool) (whole : Nat) : Nat :=
  (if minusCounts then signText negative else []).length + (Numeral.decimal whole).length

theorem wholeWidth_eq_wholeSize (dialect : Dialect) (negative : Bool) (whole : Nat) :
    dialect.wholeWidth negative (Numeral.decimal whole).length =
      wholeSize dialect.minusCounts negative whole := by
  rw [Dialect.wholeWidth, wholeSize]
  cases dialect.minusCounts <;> cases negative <;>
    simp [signText, Nat.add_comm]

section Parts

variable {rest : List Char}

theorem takeFraction_write (fraction : List (Fin 10)) (digits : DigitsEnd rest)
    (point : ∀ c, rest.head? = some c → c ≠ '.') :
    takeFraction (fractionText fraction ++ rest) = .ok (fraction, rest) := by
  cases fraction with
  | nil =>
    show takeFraction rest = .ok ([], rest)
    unfold takeFraction
    split
    · exact absurd rfl (point _ rfl)
    · rfl
  | cons d ds =>
    have after : fractionText (d :: ds) ++ rest = '.' :: (digitChars (d :: ds) ++ rest) := rfl
    rw [after, takeFraction, takeDigits_write _ digits]

theorem takeSign_write (minus : Option Bool) (d : Fin 10) (ds : List (Fin 10)) :
    takeSign (signChars minus ++ (digitChars (d :: ds) ++ rest)) =
      (minus, digitChars (d :: ds) ++ rest) := by
  match minus with
  | some true => rfl
  | some false => rfl
  | none =>
    obtain ⟨minus, plus⟩ := digitChar_ne_sign d
    simp only [signChars, List.nil_append, digitChars, List.map_cons, List.cons_append]
    unfold takeSign
    split
    · next same => exact absurd (List.cons.inj same).1 minus
    · next same => exact absurd (List.cons.inj same).1 plus
    · rfl

theorem takeExponent_write (exponent : Option Exponent) (stop : NumberEnds rest) :
    takeExponent (exponentText exponent ++ rest) = .ok (exponent, rest) := by
  cases exponent with
  | none =>
    show takeExponent rest = .ok (none, rest)
    cases rest with
    | nil => rfl
    | cons c rest =>
      obtain ⟨lower, upper⟩ := stop.exponent c rfl
      simp only [takeExponent, lower, upper, or_self, if_false]
  | some e =>
    obtain ⟨upper, minus, first, more⟩ := e
    have after : exponentText (some ⟨upper, minus, first, more⟩) ++ rest =
        (if upper then 'E' else 'e') :: (signChars minus ++ (digitChars (first :: more) ++ rest)) := by
      simp [exponentText, writeExponent]
    have letter : (if upper then 'E' else 'e') = 'e' ∨ (if upper then 'E' else 'e') = 'E' := by
      cases upper <;> decide
    rw [after, takeExponent, if_pos letter, takeSign_write, takeDigits_write _ stop.digits]
    cases upper <;> rfl

/-- What follows the digits of a whole number: a point, an exponent or the rest. -/
theorem digitsEnd_exponent (exponent : Option Exponent) (stop : NumberEnds rest) :
    DigitsEnd (exponentText exponent ++ rest) ∧
      ∀ c, (exponentText exponent ++ rest).head? = some c → c ≠ '.' := by
  cases exponent with
  | none => exact ⟨stop.digits, stop.fraction⟩
  | some e =>
    have head (c : Char) (h : (exponentText (some e) ++ rest).head? = some c) : c = 'e' ∨ c = 'E' := by
      have first : (if e.upper then 'E' else 'e') = c := Option.some.inj h
      rw [← first]
      cases e.upper <;> decide
    constructor
    · intro c h
      obtain rfl | rfl := head c h <;> rfl
    · intro c h
      obtain rfl | rfl := head c h <;> decide

theorem digitsEnd_fraction (fraction : List (Fin 10)) (stop : DigitsEnd rest) :
    DigitsEnd (fractionText fraction ++ rest) := by
  cases fraction with
  | nil => exact stop
  | cons d ds =>
    rintro c ⟨⟩
    rfl

theorem takeMinus_write (negative : Bool) (whole : Nat) :
    takeMinus (signText negative ++ (Numeral.decimal whole ++ rest)) =
      (negative, Numeral.decimal whole ++ rest) := by
  cases negative with
  | true => rfl
  | false =>
    obtain ⟨first, more, written, _⟩ := exists_digits_decimal whole
    have minus := (digitChar_ne_sign first).1
    simp only [signText, written, digitChars, List.map_cons, List.cons_append]
    show takeMinus _ = _
    unfold takeMinus
    split
    · next same => exact absurd (List.cons.inj same).1 minus
    · rfl

/-- A number is read part by part, when its whole part is not too wide. -/
theorem takeNumber_parts (dialect : Dialect) (negative : Bool) (whole : Nat)
    (fraction : List (Fin 10)) (exponent : Option Exponent) (stop : NumberEnds rest) {text : List Char}
    (written : text = signText negative ++ (Numeral.decimal whole ++ (fractionText fraction ++
      (exponentText exponent ++ rest)))) :
    takeNumber dialect text = dialect.limitWhole (wholeSize dialect.minusCounts negative whole) text
      (.ok (ofParts negative whole fraction exponent, rest)) := by
  obtain ⟨digits, point⟩ := digitsEnd_exponent exponent stop
  obtain ⟨first, more, decimal, value, alone⟩ := exists_digits_decimal whole
  have leading : ¬ (first = 0 ∧ more ≠ []) := fun ⟨zero, long⟩ => long (alone zero)
  have width := wholeWidth_eq_wholeSize dialect negative whole
  have sign : takeMinus text = (negative, digitChars (first :: more) ++
      (fractionText fraction ++ (exponentText exponent ++ rest))) := by
    rw [written, takeMinus_write, decimal]
  rw [decimal, digitChars, List.length_map] at width
  rw [takeNumber, sign, takeDigits_write _ (digitsEnd_fraction fraction digits)]
  simp only [if_neg leading, takeFraction_write fraction digits point,
    takeExponent_write exponent stop, value, width]

theorem takeNumber_signed (dialect : Dialect) (n : Int) (stop : NumberEnds rest) :
    takeNumber dialect (Numeral.signed n ++ rest) =
      dialect.limitWhole (wholeSize dialect.minusCounts (decide (n < 0)) n.natAbs)
        (Numeral.signed n ++ rest) (.ok (number n, rest)) := by
  have same : ofParts (decide (n < 0)) n.natAbs [] none = number n := by
    simp only [ofParts, decide_eq_true_eq]
    split <;> congr 1 <;> omega
  have written : Numeral.signed n ++ rest = signText (decide (n < 0)) ++
      (Numeral.decimal n.natAbs ++ (fractionText [] ++ (exponentText none ++ rest))) := by
    rw [Numeral.signed, signText]
    by_cases negative : n < 0 <;> simp [negative, fractionText, exponentText]
  rw [takeNumber_parts _ _ _ [] none stop written, same]

theorem takeNumber_writeDecimal (dialect : Dialect) (d : Decimal) (stop : NumberEnds rest) :
    takeNumber dialect (writeDecimal d ++ rest) =
      dialect.limitWhole (wholeSize dialect.minusCounts d.negative d.whole)
        (writeDecimal d ++ rest) (.ok (decimal d, rest)) := by
  have same : ofParts d.negative d.whole d.fraction d.exponent = decimal d := by
    obtain ⟨negative, whole, fraction, exponent, notWhole⟩ := d
    cases fraction with
    | nil =>
      cases exponent with
      | none => simp at notWhole
      | some e => rfl
    | cons d ds => rfl
  have written : writeDecimal d ++ rest = signText d.negative ++ (Numeral.decimal d.whole ++
      (fractionText d.fraction ++ (exponentText d.exponent ++ rest))) := by
    simp only [writeDecimal, signText, fractionText, exponentText, List.append_assoc]
  rw [takeNumber_parts _ _ _ _ _ stop written, same]

end Parts

end Timespan.Json
