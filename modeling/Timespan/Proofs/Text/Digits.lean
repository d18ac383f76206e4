import Mathlib.Algebra.Group.Nat.Defs
import Timespan.Text.Numeral

/-! Rows of decimal digits as numbers. On rows of one length padding and reading are
inverse, and the order of the rows as texts is the order of the numbers. -/
namespace Timespan.Numeral

theorem isDigit_bounds {c : Char} (h : c.isDigit) : 48 ≤ c.toNat ∧ c.toNat ≤ 57 :=
  Char.isDigit_iff_toNat.mp h

theorem digitChar_sub {c : Char} (h : c.isDigit) : Nat.digitChar (c.toNat - 48) = c := by
  have bounds := isDigit_bounds h
  apply Char.toNat_inj.mp
  rw [Nat.toNat_digitChar_of_lt_ten (by omega)]
  omega

theorem isDigit_of_mem_padded {width n : Nat} {c : Char} (h : c ∈ padded 10 width n) :
    c.isDigit := by
  induction width generalizing n with
  | zero => exact absurd h List.not_mem_nil
  | succ width ih =>
    rw [padded, List.mem_append, List.mem_singleton] at h
    rcases h with before | rfl
    · exact ih before
    · rw [Nat.isDigit_digitChar]
      exact decide_eq_true (Nat.mod_lt n (by decide))

theorem value_append (digits more : List Char) :
    value (digits ++ more) = value digits * 10 ^ more.length + value more := by
  rw [value, Nat.ofDigitChars_append, Nat.ofDigitChars_eq_ofDigitChars_zero, Nat.mul_comm]
  rfl

theorem value_padded {width n : Nat} (h : n < 10 ^ width) : value (padded 10 width n) = n := by
  induction width generalizing n with
  | zero =>
    have : n = 0 := by omega
    subst this
    rfl
  | succ width ih =>
    have high : n / 10 < 10 ^ width := by
      rw [Nat.pow_succ] at h
      omega
    rw [padded, value_append_digit _ _ (Nat.mod_lt n (by decide)), ih high]
    exact Nat.div_add_mod n 10

theorem padded_injective {width m n : Nat} (hm : m < 10 ^ width) (hn : n < 10 ^ width)
    (h : padded 10 width m = padded 10 width n) : m = n := by
  rw [← value_padded hm, h, value_padded hn]

theorem padded_append_inj {width m n : Nat} {s t : List Char} (hm : m < 10 ^ width)
    (hn : n < 10 ^ width) :
    padded 10 width m ++ s = padded 10 width n ++ t ↔ m = n ∧ s = t := by
  constructor
  · intro same
    obtain ⟨digits, rest⟩ := List.append_inj same (by simp only [length_padded])
    exact ⟨padded_injective hm hn digits, rest⟩
  · rintro ⟨rfl, rfl⟩
    rfl

theorem value_lt {digits : List Char} (h : ∀ c ∈ digits, c.isDigit) :
    value digits < 10 ^ digits.length := by
  induction digits with
  | nil => exact Nat.one_pos
  | cons c rest ih =>
    have tail := ih fun d member => h d (List.mem_cons_of_mem c member)
    have head := isDigit_bounds (h c List.mem_cons_self)
    have digit : value [c] = c.toNat - 48 := by
      simp [value, Nat.ofDigitChars]
    have cut : (value [c] + 1) * 10 ^ rest.length ≤ 10 * 10 ^ rest.length :=
      Nat.mul_le_mul_right _ (by omega)
    rw [Nat.add_mul] at cut
    rw [← List.singleton_append, value_append, List.length_append, List.length_singleton,
      Nat.add_comm 1, Nat.pow_succ]
    omega

/-- Padding writes back the digits that a number was read from. -/
theorem padded_value {width : Nat} {digits : List Char} (length : digits.length = width)
    (h : ∀ c ∈ digits, c.isDigit) : padded 10 width (value digits) = digits := by
  induction width generalizing digits with
  | zero => exact (List.eq_nil_of_length_eq_zero length).symm
  | succ width ih =>
    obtain rfl | ⟨first, last, rfl⟩ := digits.eq_nil_or_concat
    · contradiction
    rw [List.concat_eq_append] at *
    rw [List.length_append, List.length_singleton, Nat.add_right_cancel_iff] at length
    have ascii := h last (by simp)
    have bounds := isDigit_bounds ascii
    have low : value (first ++ [last]) = 10 * value first + (last.toNat - 48) := by
      rw [← digitChar_sub ascii, value_append_digit _ _ (by omega), digitChar_sub ascii]
    have tens : (10 * value first + (last.toNat - 48)) / 10 = value first := by omega
    have ones : (10 * value first + (last.toNat - 48)) % 10 = last.toNat - 48 := by omega
    rw [padded, low, tens, ones, digitChar_sub ascii,
      ih length fun c member => h c (List.mem_append_left _ member)]

/-- The first digits of a row show what is left when the others are dropped. -/
theorem value_take {digits : List Char} (k : Nat) (h : ∀ c ∈ digits, c.isDigit) :
    value (digits.take k) = value digits / 10 ^ (digits.length - k) := by
  have dropped : value (digits.drop k) < 10 ^ (digits.length - k) := by
    rw [← List.length_drop]
    exact value_lt fun c member => h c (List.mem_of_mem_drop member)
  have whole : value digits =
      value (digits.take k) * 10 ^ (digits.length - k) + value (digits.drop k) := by
    rw [← List.length_drop, ← value_append, List.take_append_drop]
  rw [whole, Nat.mul_comm, Nat.mul_add_div (Nat.zero_lt_of_lt dropped), Nat.div_eq_of_lt dropped]
  rfl

theorem eq_zero_of_mem_padded_zero {width : Nat} {c : Char} (h : c ∈ padded 10 width 0) : c = '0' := by
  induction width with
  | zero => exact absurd h List.not_mem_nil
  | succ width ih =>
    rw [padded, List.mem_append, List.mem_singleton] at h
    rcases h with before | rfl
    · exact ih before
    · rfl

theorem value_eq_zero_iff {digits : List Char} (h : ∀ c ∈ digits, c.isDigit) :
    value digits = 0 ↔ ∀ c ∈ digits, c = '0' := by
  constructor
  · intro zero c member
    have same := padded_value rfl h
    rw [zero] at same
    rw [← same] at member
    exact eq_zero_of_mem_padded_zero member
  · intro zeros
    rw [List.eq_replicate_of_mem zeros, value, Nat.ofDigitChars_replicate_zero]
    rfl

/-- Texts of one length are compared before what follows them. -/
theorem append_lt_append_iff {a b s t : List Char} (length : a.length = b.length) :
    a ++ s < b ++ t ↔ a < b ∨ a = b ∧ s < t := by
  induction a generalizing b with
  | nil =>
    obtain rfl := List.eq_nil_of_length_eq_zero length.symm
    simp
  | cons c a ih =>
    obtain _ | ⟨d, b⟩ := b
    · contradiction
    · have rest := ih (Nat.succ.inj length)
      simp only [List.cons_append, List.cons_lt_cons_iff, List.cons.injEq, rest]
      grind

theorem digitChar_lt_digitChar_iff {m n : Nat} (hm : m < 10) (hn : n < 10) :
    Nat.digitChar m < Nat.digitChar n ↔ m < n := by
  rw [Char.lt_def, UInt32.lt_iff_toNat_lt]
  change (Nat.digitChar m).toNat < (Nat.digitChar n).toNat ↔ m < n
  rw [Nat.toNat_digitChar_of_lt_ten hm, Nat.toNat_digitChar_of_lt_ten hn]
  omega

theorem padded_lt_padded_iff {width m n : Nat} (hm : m < 10 ^ width) (hn : n < 10 ^ width) :
    padded 10 width m < padded 10 width n ↔ m < n := by
  induction width generalizing m n with
  | zero =>
    have : m = n := by omega
    simp [this]
  | succ width ih =>
    rw [Nat.pow_succ] at hm hn
    have highM : m / 10 < 10 ^ width := by omega
    have highN : n / 10 < 10 ^ width := by omega
    have low : [Nat.digitChar (m % 10)] < [Nat.digitChar (n % 10)] ↔ m % 10 < n % 10 := by
      rw [List.cons_lt_cons_iff, digitChar_lt_digitChar_iff (Nat.mod_lt m (by decide))
        (Nat.mod_lt n (by decide))]
      simp
    have high : padded 10 width (m / 10) = padded 10 width (n / 10) ↔ m / 10 = n / 10 :=
      ⟨padded_injective highM highN, congrArg _⟩
    rw [padded, padded, append_lt_append_iff (by simp only [length_padded]), ih highM highN, low, high]
    omega

theorem padded_append_lt_iff {width m n : Nat} {s t : List Char} (hm : m < 10 ^ width)
    (hn : n < 10 ^ width) :
    padded 10 width m ++ s < padded 10 width n ++ t ↔ m < n ∨ m = n ∧ s < t := by
  have same : padded 10 width m = padded 10 width n ↔ m = n :=
    ⟨padded_injective hm hn, congrArg _⟩
  rw [append_lt_append_iff (by simp only [length_padded]), padded_lt_padded_iff hm hn, same]

end Timespan.Numeral
