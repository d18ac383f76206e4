import Timespan.Interval.Text

/-! The two sides of an interval's text. A text has sides exactly when it has one
separator; they are unique, and it is read when both of them are, the start first. -/
namespace Timespan.Interval

/-- The separator as it stands in a text. -/
abbrev slash : CodePoint := .ofChar separator

variable {a b : Text}

theorem ofChars_sides (s t : List Char) :
    Text.ofChars (s ++ separator :: t) = Text.ofChars s ++ slash :: Text.ofChars t := by
  simp only [Text.ofChars, List.map_append, List.map_cons]

theorem exists_sides {text : Text} (one : text.count slash = 1) :
    ∃ a b : Text, text = a ++ slash :: b ∧ slash ∉ a ∧ slash ∉ b := by
  have member : slash ∈ text := List.count_pos_iff.mp (by omega)
  obtain ⟨a, b, rfl, before⟩ := List.eq_append_cons_of_mem member
  refine ⟨a, b, rfl, before, ?_⟩
  rw [List.count_append, List.count_cons_self, List.count_eq_zero_of_not_mem before] at one
  exact List.count_eq_zero.mp (by omega)

theorem count_sides (ha : slash ∉ a) (hb : slash ∉ b) : (a ++ slash :: b).count slash = 1 := by
  rw [List.count_append, List.count_cons_self, List.count_eq_zero_of_not_mem ha,
    List.count_eq_zero_of_not_mem hb]

theorem ne_slash_of_mem (ha : slash ∉ a) : ∀ p ∈ a, decide (p ≠ slash) = true := by
  intro p member
  apply decide_eq_true
  rintro rfl
  exact ha member

theorem takeWhile_sides (ha : slash ∉ a) : (a ++ slash :: b).takeWhile (· ≠ slash) = a := by
  rw [List.takeWhile_append_of_pos (ne_slash_of_mem ha)]
  simp

theorem dropWhile_sides (ha : slash ∉ a) :
    ((a ++ slash :: b).dropWhile (· ≠ slash)).drop 1 = b := by
  rw [List.dropWhile_append_of_pos (ne_slash_of_mem ha)]
  simp

/-- Sides without separators are the only ones that a text has. -/
theorem sides_injective {c d : Text} (ha : slash ∉ a) (hb : slash ∉ b)
    (same : a ++ slash :: b = c ++ slash :: d) : a = c ∧ b = d := by
  have one := count_sides ha hb
  rw [same, List.count_append, List.count_cons_self] at one
  have hc : slash ∉ c := List.count_eq_zero.mp (by omega)
  constructor
  · rw [← takeWhile_sides (b := b) ha, same, takeWhile_sides hc]
  · rw [← dropWhile_sides (b := b) ha, same, dropWhile_sides hc]

/-- Sides are read one after the other. -/
theorem parse_sides (ha : slash ∉ a) (hb : slash ∉ b) : parse (a ++ slash :: b) =
    match Timestamp.parse a with
    | .error e => .error (.edge (a ++ slash :: b) .start e)
    | .ok start =>
      match Timestamp.parse b with
      | .error e => .error (.edge (a ++ slash :: b) .stop e)
      | .ok stop => .ok ⟨start, stop⟩ := by
  have one := count_sides ha hb
  cases first : Timestamp.parse a with
  | error e => simp only [parse, if_pos one, takeWhile_sides ha, first]
  | ok start =>
    cases second : Timestamp.parse b <;>
      simp only [parse, if_pos one, takeWhile_sides ha, dropWhile_sides ha, first, second]

theorem parse_eq_ok_iff {text : Text} {x : Interval} : parse text = .ok x ↔
    ∃ a b : Text, text = a ++ slash :: b ∧ slash ∉ a ∧ slash ∉ b ∧
      Timestamp.parse a = .ok x.start ∧ Timestamp.parse b = .ok x.stop := by
  constructor
  · intro found
    by_cases one : text.count slash = 1
    · obtain ⟨a, b, rfl, ha, hb⟩ := exists_sides one
      rw [parse_sides ha hb] at found
      split at found
      · contradiction
      · next start first =>
        split at found
        · contradiction
        · next stop second =>
          cases found
          exact ⟨a, b, rfl, ha, hb, first, second⟩
    · rw [parse, if_neg one] at found
      contradiction
  · rintro ⟨a, b, rfl, ha, hb, first, second⟩
    rw [parse_sides ha hb, first, second]

end Timespan.Interval
