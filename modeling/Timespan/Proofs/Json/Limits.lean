import Timespan.Proofs.Json.Numbers
import Timespan.Proofs.Json.Strings

/-! What a JSON value asks of a dialect: how deep its arrays and objects stand in each
other, where only those with something in them count, and how wide its numbers are. -/
namespace Timespan.Json

mutual

/-- How many arrays and objects with something in them stand around the innermost
values of a value. -/
def nesting : Json → Nat
  | array items => nestingItems items
  | object members => nestingMembers members
  | _ => 0
termination_by structural value => value

def nestingItems : List Json → Nat
  | [] => 0
  | item :: items => max (nesting item + 1) (nestingItems items)
termination_by structural items => items

def nestingMembers : List (Text × Json) → Nat
  | [] => 0
  | (_, value) :: members => max (nesting value + 1) (nestingMembers members)
termination_by structural members => members

end

mutual

/-- The size of the widest whole part among the numbers in a value. -/
def width (minusCounts : Bool) : Json → Nat
  | number n => wholeSize minusCounts (decide (n < 0)) n.natAbs
  | decimal d => wholeSize minusCounts d.negative d.whole
  | array items => widthItems minusCounts items
  | object members => widthMembers minusCounts members
  | _ => 0
termination_by structural value => value

def widthItems (minusCounts : Bool) : List Json → Nat
  | [] => 0
  | item :: items => max (width minusCounts item) (widthItems minusCounts items)
termination_by structural items => items

def widthMembers (minusCounts : Bool) : List (Text × Json) → Nat
  | [] => 0
  | (_, value) :: members => max (width minusCounts value) (widthMembers minusCounts members)
termination_by structural members => members

end

/-- So much is within a limit, where there is one. -/
def Within (limit : Option Nat) (n : Nat) : Prop :=
  ∀ most, limit = some most → n ≤ most

section Within

variable {limit : Option Nat} {m n : Nat}

theorem within_max_iff : Within limit (max m n) ↔ Within limit m ∧ Within limit n := by
  simp only [Within, Nat.max_le, imp_and, forall_and]

theorem within_some_iff {most : Nat} : Within (some most) n ↔ n ≤ most := by
  constructor
  · intro within
    exact within most rfl
  · rintro h _ ⟨⟩
    exact h

end Within

/-- A dialect has room for the value where so many arrays and objects stand around it. -/
structure FitsAt (dialect : Dialect) (depth : Nat) (v : Json) : Prop where
  encodable : v.unencodable? = none
  shallow : Within dialect.maxDepth (depth + nesting v)
  narrow : Within dialect.maxWhole (width dialect.minusCounts v)

section FitsAt

variable {dialect : Dialect} {depth : Nat} {items : List Json}

/-- A value that holds no other and no number needs room for itself only. -/
theorem fitsAt_iff_of_plain {v : Json} (encodable : v.unencodable? = none) (flat : nesting v = 0)
    (numberless : width dialect.minusCounts v = 0) :
    FitsAt dialect depth v ↔ Within dialect.maxDepth depth := by
  constructor
  · intro fits
    have shallow := fits.shallow
    rwa [flat, Nat.add_zero] at shallow
  · intro room
    refine ⟨encodable, ?_, ?_⟩
    · rwa [flat, Nat.add_zero]
    · rw [numberless]
      exact fun _ _ => Nat.zero_le _

theorem fitsAt_array_cons_iff {item : Json} : FitsAt dialect depth (array (item :: items)) ↔
    FitsAt dialect (depth + 1) item ∧ FitsAt dialect depth (array items) := by
  have deepest : depth + nesting (array (item :: items)) =
      max (depth + 1 + nesting item) (depth + nesting (array items)) := by
    rw [nesting, nestingItems, nesting]
    omega
  have widest : width dialect.minusCounts (array (item :: items)) =
      max (width dialect.minusCounts item) (width dialect.minusCounts (array items)) := by
    rw [width, widthItems, width]
  constructor
  · rintro ⟨encodable, shallow, narrow⟩
    rw [unencodable?, unencodableItem?, Option.or_eq_none_iff] at encodable
    rw [deepest, within_max_iff] at shallow
    rw [widest, within_max_iff] at narrow
    exact ⟨⟨encodable.1, shallow.1, narrow.1⟩, ⟨encodable.2, shallow.2, narrow.2⟩⟩
  · rintro ⟨first, others⟩
    refine ⟨?_, ?_, ?_⟩
    · rw [unencodable?, unencodableItem?, first.encodable]
      exact others.encodable
    · rw [deepest, within_max_iff]
      exact ⟨first.shallow, others.shallow⟩
    · rw [widest, within_max_iff]
      exact ⟨first.narrow, others.narrow⟩

theorem fitsAt_object_cons_iff {name : Text} {value : Json} {members : List (Text × Json)} :
    FitsAt dialect depth (object ((name, value) :: members)) ↔ name.unencodable? = none ∧
      FitsAt dialect (depth + 1) value ∧ FitsAt dialect depth (object members) := by
  have deepest : depth + nesting (object ((name, value) :: members)) =
      max (depth + 1 + nesting value) (depth + nesting (object members)) := by
    rw [nesting, nestingMembers, nesting]
    omega
  have widest : width dialect.minusCounts (object ((name, value) :: members)) =
      max (width dialect.minusCounts value) (width dialect.minusCounts (object members)) := by
    rw [width, widthMembers, width]
  constructor
  · rintro ⟨encodable, shallow, narrow⟩
    rw [unencodable?, unencodableMember?, Option.or_eq_none_iff, Option.or_eq_none_iff] at encodable
    rw [deepest, within_max_iff] at shallow
    rw [widest, within_max_iff] at narrow
    exact ⟨encodable.1, ⟨encodable.2.1, shallow.1, narrow.1⟩,
      ⟨encodable.2.2, shallow.2, narrow.2⟩⟩
  · rintro ⟨named, first, others⟩
    refine ⟨?_, ?_, ?_⟩
    · rw [unencodable?, unencodableMember?, named, first.encodable]
      exact others.encodable
    · rw [deepest, within_max_iff]
      exact ⟨first.shallow, others.shallow⟩
    · rw [widest, within_max_iff]
      exact ⟨first.narrow, others.narrow⟩

theorem fitsAt_array_iff : FitsAt dialect depth (array items) ↔
    Within dialect.maxDepth depth ∧ ∀ item ∈ items, FitsAt dialect (depth + 1) item := by
  induction items with
  | nil => simp [fitsAt_iff_of_plain (v := array []) rfl rfl rfl]
  | cons item items ih => rw [fitsAt_array_cons_iff, ih, List.forall_mem_cons, and_left_comm]

/-- The names of a record's members have characters only. -/
theorem fitsAt_record_iff {members : List (String × Json)} :
    FitsAt dialect depth (record members) ↔
      Within dialect.maxDepth depth ∧ ∀ m ∈ members, FitsAt dialect (depth + 1) m.2 := by
  rw [record]
  induction members with
  | nil => simp [fitsAt_iff_of_plain (v := object []) rfl rfl rfl]
  | cons member members ih =>
    have named : (Text.ofString member.1).unencodable? = none := Text.unencodable?_ofChars _
    rw [List.map_cons, fitsAt_object_cons_iff, ih, List.forall_mem_cons]
    simp only [named, true_and]
    exact and_left_comm

/-- What has room in an array or object is not too deep there. -/
theorem FitsAt.not_tooDeep {v : Json} (fits : FitsAt dialect (depth + 1) v) :
    dialect.tooDeep depth = false := by
  rw [Dialect.tooDeep]
  split
  · rfl
  · next limit limited =>
    have shallow := fits.shallow limit limited
    simp only [decide_eq_false_iff_not]
    omega

end FitsAt

theorem Dialect.limitWhole_eq_ok_iff {dialect : Dialect} {width : Nat} {text : List Char}
    {taken : Taken Json} {read : Json × List Char} :
    dialect.limitWhole width text taken = .ok read ↔
      Within dialect.maxWhole width ∧ taken = .ok read := by
  rw [limitWhole, Within]
  cases dialect.maxWhole with
  | none => simp
  | some limit => by_cases wide : limit < width <;> simp [wide, Nat.not_le.mpr, Nat.not_lt.mp]

section Guarded

variable {minusCounts : Bool} {v : Json}

theorem fitsAt_guarded_of_plain {depth : Nat} (room : depth ≤ 200)
    (encodable : v.unencodable? = none) (flat : nesting v = 0)
    (numberless : width minusCounts v = 0) : FitsAt (.guarded minusCounts) depth v :=
  (fitsAt_iff_of_plain encodable flat numberless).mpr (within_some_iff.mpr room)

/-- A dialect from outside has room for the value. -/
structure Readable (minusCounts : Bool) (v : Json) : Prop where
  encodable : v.unencodable? = none
  shallow : nesting v ≤ 200
  narrow : width minusCounts v ≤ 4300

theorem readable_iff_fitsAt :
    v.Readable minusCounts ↔ FitsAt (.guarded minusCounts) 0 v := by
  constructor
  · rintro ⟨encodable, shallow, narrow⟩
    rw [← Nat.zero_add (nesting v)] at shallow
    exact ⟨encodable, within_some_iff.mpr shallow, within_some_iff.mpr narrow⟩
  · rintro ⟨encodable, shallow, narrow⟩
    rw [Nat.zero_add] at shallow
    exact ⟨encodable, within_some_iff.mp shallow, within_some_iff.mp narrow⟩

end Guarded

end Timespan.Json
