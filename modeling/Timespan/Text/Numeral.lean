/-! Numbers as rows of digits. `Numeral.padded` writes a fixed number of digits,
highest first, in any base up to 16; `Numeral.value` reads decimal digits of any
number back. Padding drops what does not fit, so a writer uses it only below the
power of the base that the width allows. -/
namespace Timespan.Numeral

/-- The lowest `width` digits of a number, leading zeros kept. -/
def padded (base : Nat) : Nat → Nat → List Char
  | 0, _ => []
  | width + 1, n => padded base width (n / base) ++ [Nat.digitChar (n % base)]

def decimal (n : Nat) : List Char :=
  Nat.toDigits 10 n

/-- A number in decimal, a minus before it when it is negative. -/
def signed (n : Int) : List Char :=
  if n < 0 then '-' :: decimal n.natAbs else decimal n.natAbs

def text (n : Int) : String :=
  String.ofList (signed n)

def value (digits : List Char) : Nat :=
  Nat.ofDigitChars 10 digits 0

def hexDigit? (c : Char) : Option Nat :=
  if '0' ≤ c ∧ c ≤ '9' then some (c.toNat - '0'.toNat)
  else if 'a' ≤ c ∧ c ≤ 'f' then some (c.toNat - 'a'.toNat + 10)
  else if 'A' ≤ c ∧ c ≤ 'F' then some (c.toNat - 'A'.toNat + 10)
  else none

def hex? (digits : List Char) : Option Nat :=
  digits.foldlM (fun n c => (hexDigit? c).map (16 * n + ·)) 0

theorem value_decimal (n : Nat) : value (decimal n) = n :=
  Nat.ofDigitChars_toDigits (by decide) (by decide)

theorem length_padded (base width n : Nat) : (padded base width n).length = width := by
  induction width generalizing n with
  | zero => rfl
  | succ width ih => simp [padded, ih]

theorem value_append_digit (digits : List Char) (n : Nat) (h : n < 10) :
    value (digits ++ [Nat.digitChar n]) = 10 * value digits + n := by
  have digit : ∀ n < 10, (Nat.digitChar n).toNat - '0'.toNat = n := by decide
  simp only [value, Nat.ofDigitChars, List.foldl_append, List.foldl_cons, List.foldl_nil, digit n h]

end Timespan.Numeral
