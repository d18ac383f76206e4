import Mathlib.Algebra.Group.Nat.Defs
import Timespan.Text.Numeral

/-! Rows of hexadecimal digits as numbers. Padding to a width that holds the number
and reading the row back are inverse. -/
namespace Timespan.Numeral

theorem hexDigit?_digitChar {n : Nat} (h : n < 16) : hexDigit? (Nat.digitChar n) = some n := by
  have digits : ∀ n < 16, hexDigit? (Nat.digitChar n) = some n := by decide
  exact digits n h

theorem hex?_append_digit (digits : List Char) {n : Nat} (h : n < 16) :
    hex? (digits ++ [Nat.digitChar n]) = (hex? digits).map (16 * · + n) := by
  simp only [hex?, List.foldlM_append, List.foldlM_cons, List.foldlM_nil, hexDigit?_digitChar h]
  cases digits.foldlM (fun n c => (hexDigit? c).map (16 * n + ·)) 0 <;> rfl

theorem hex?_padded {width n : Nat} (h : n < 16 ^ width) : hex? (padded 16 width n) = some n := by
  induction width generalizing n with
  | zero =>
    have zero : n = 0 := by omega
    rw [zero]
    rfl
  | succ width ih =>
    have high : n / 16 < 16 ^ width := by
      rw [Nat.pow_succ] at h
      omega
    rw [padded, hex?_append_digit _ (Nat.mod_lt n (by decide)), ih high, Option.map_some]
    exact congrArg some (Nat.div_add_mod n 16)

end Timespan.Numeral
