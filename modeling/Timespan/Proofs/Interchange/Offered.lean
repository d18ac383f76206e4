import Mathlib.Data.List.Nodup
import Timespan.Interchange.Model
import Timespan.Proofs.Interchange.Checks

/-! Values offered for a member of a record. For each kind of member there is what can
be wrong with a value, and what it must be for a given result. -/
namespace Timespan

namespace Json

/-- What an object offers under a name: the value of the last member with that name, or
nothing when no member has it. -/
inductive Offers (members : List (Text × Json)) (name : String) : Option Json → Prop where
  | last (before after : List (Text × Json)) (v : Json) :
      members = before ++ (.ofString name, v) :: after → (∀ m ∈ after, m.1 ≠ .ofString name) →
        Offers members name (some v)
  | missing : (∀ m ∈ members, m.1 ≠ .ofString name) → Offers members name none

/-- What is wrong with a value where a text is asked for. -/
def textProblem? : Json → Option Problem
  | string _ => none
  | _ => some .notString

/-- What is wrong with a value where an interval is asked for. -/
def intervalProblem? : Json → Option Problem
  | string s =>
    match Interval.parse s with
    | .ok _ => none
    | .error e => some (.interval (.text e))
  | v => some (.interval (.kind (Candidate.json v).typeName))

/-- As `intervalProblem?`, where null may stand for no interval. -/
def nullableProblem? : Json → Option Problem
  | null => none
  | v => v.intervalProblem?

/-- What is wrong with a member that has to be there. -/
def requiredProblem? (problem? : Json → Option Problem) : Option Json → Option Problem
  | none => some .missing
  | some v => problem? v

/-- The value is the text of the interval. -/
def Reads (v : Json) (x : Interval) : Prop :=
  ∃ s, v = string s ∧ Interval.parse s = .ok x

/-- As `Reads`, where null or no value at all stands for no interval. -/
def ReadsNullable (offered : Option Json) : Option Interval → Prop
  | none => offered = none ∨ offered = some null
  | some x => ∃ v, offered = some v ∧ v.Reads x

/-- The checks of a member that has to be a row of intervals: one for each item, when
it is a row at all. -/
def rowChecks (name : String) : Option Json → List Check
  | some (array items) =>
    items.zipIdx.map fun (item, n) => ⟨[.field name, .index n], item.intervalProblem?⟩
  | some _ => [⟨[.field name], some .notList⟩]
  | none => [⟨[.field name], some .missing⟩]

end Json

namespace Json

section Members

variable {members : List (Text × Json)} {name : String}

theorem member?_eq_none_iff :
    member? name members = none ↔ ∀ m ∈ members, m.1 ≠ .ofString name := by
  rw [member?, List.lookup_eq_none_iff]
  simp only [List.mem_reverse, bne_iff_ne, ne_comm]

theorem member?_eq_some_iff {v : Json} : member? name members = some v ↔
    ∃ before after, members = before ++ (.ofString name, v) :: after ∧
      ∀ m ∈ after, m.1 ≠ .ofString name := by
  rw [member?, List.lookup_eq_some_iff]
  constructor
  · rintro ⟨after, before, split, later⟩
    refine ⟨before.reverse, after.reverse, ?_, fun m member => ?_⟩
    · rw [List.reverse_eq_iff.mp split, List.reverse_append, List.reverse_cons, List.append_assoc,
        List.singleton_append]
    · exact (bne_iff_ne.mp (later m (List.mem_reverse.mp member))).symm
  · rintro ⟨before, after, rfl, later⟩
    refine ⟨after.reverse, before.reverse, ?_, fun m member => ?_⟩
    · rw [List.reverse_append, List.reverse_cons, List.append_assoc, List.singleton_append]
    · exact bne_iff_ne.mpr (later m (List.mem_reverse.mp member)).symm

theorem offers_iff {offered : Option Json} :
    Offers members name offered ↔ member? name members = offered := by
  constructor
  · rintro (⟨before, after, v, split, later⟩ | none)
    · exact member?_eq_some_iff.mpr ⟨before, after, split, later⟩
    · exact member?_eq_none_iff.mpr none
  · intro found
    cases offered with
    | none => exact .missing (member?_eq_none_iff.mp found)
    | some v =>
      obtain ⟨before, after, split, later⟩ := member?_eq_some_iff.mp found
      exact .last before after v split later

end Members

theorem place_rowChecks_of_items (name : String) (items : List Json) :
    (rowChecks name (some (array items))).map Check.place =
      (List.range items.length).map fun n => [.field name, .index n] := by
  rw [rowChecks, List.map_map, List.range_eq_range', ← List.zipIdx_map_snd 0 items, List.map_map]
  rfl

theorem nodup_place_rowChecks (name : String) (offered : Option Json) :
    ((rowChecks name offered).map Check.place).Nodup := by
  cases offered with
  | none => exact List.nodup_singleton _
  | some v =>
    cases v with
    | array items =>
      rw [place_rowChecks_of_items]
      exact List.nodup_range.map fun m n same => by simpa using same
    | null | bool | number | decimal | string | object => exact List.nodup_singleton _

theorem head?_place_rowChecks {name : String} {offered : Option Json} {place : List Place}
    (member : place ∈ (rowChecks name offered).map Check.place) : place.head? = some (.field name) := by
  cases offered with
  | none =>
    cases List.mem_singleton.mp member
    rfl
  | some v =>
    cases v with
    | array items =>
      rw [place_rowChecks_of_items] at member
      obtain ⟨n, _, rfl⟩ := List.mem_map.mp member
      rfl
    | null | bool | number | decimal | string | object =>
      cases List.mem_singleton.mp member
      rfl

end Json

namespace Candidate

variable {v : Json}

theorem tells_asText (v : Json) : (json v).asText.Tells [⟨[], v.textProblem?⟩] := by
  cases v with
  | string s => exact Report.tells_ok s []
  | null | bool | number | decimal | array | object => exact Report.tells_refuse rfl

theorem tells_asInterval (v : Json) : (json v).asInterval.Tells [⟨[], v.intervalProblem?⟩] := by
  cases v with
  | string s =>
    cases read : Interval.parse s with
    | ok x =>
      simp only [asInterval, Interval.ofCandidate, Json.intervalProblem?, read]
      exact Report.tells_ok x []
    | error e =>
      simp only [asInterval, Interval.ofCandidate, Json.intervalProblem?, read]
      exact ⟨rfl, rfl, by simp⟩
  | null | bool | number | decimal | array | object => exact Report.tells_refuse rfl

theorem tells_asInterval? (v : Json) : (json v).asInterval?.Tells [⟨[], v.nullableProblem?⟩] := by
  cases v with
  | null => exact Report.tells_ok none []
  | bool | number | decimal | string | array | object => exact (tells_asInterval _).map some

theorem numbered_eq (problem? : Json → Option Problem) (n : Nat) (items : List Json) :
    Report.numbered n (items.map fun item => [⟨[], problem? item⟩]) =
      (items.zipIdx n).map fun (item, n) => ⟨[.index n], problem? item⟩ := by
  induction items generalizing n with
  | nil => rfl
  | cons item items ih =>
    rw [List.map_cons, Report.numbered, ih, List.zipIdx_cons, List.map_cons]
    rfl

/-- The items of a row seen from the member that holds them. -/
theorem tells_row (name : String) (offered : Option Json) :
    (required asIntervals name (offered.map json)).Tells (Json.rowChecks name offered) := by
  cases offered with
  | none => exact (Report.tells_refuse rfl).within _
  | some v =>
    cases v with
    | array items =>
      have each := (Report.tells_all tells_asInterval 0 items).within (.field name)
      rw [numbered_eq, List.map_map] at each
      exact each
    | null | bool | number | decimal | string | object => exact (Report.tells_refuse rfl).within _

theorem tells_required {α : Type} {take : Candidate → Report (List Issue) α}
    {problem? : Json → Option Problem} (tells : ∀ v, (take (json v)).Tells [⟨[], problem? v⟩])
    (name : String) (offered : Option Json) :
    (required take name (offered.map json)).Tells
      [⟨[.field name], Json.requiredProblem? problem? offered⟩] := by
  cases offered with
  | none => exact (Report.tells_refuse rfl).within _
  | some v => exact (tells v).within _

/-- A member that may be missing counts as null. -/
theorem tells_nullable (name : String) (offered : Option Json) :
    (required asInterval? name ((offered.map json).or (some (json .null)))).Tells
      [⟨[.field name], offered.bind Json.nullableProblem?⟩] := by
  cases offered with
  | none => exact (tells_asInterval? .null).within _
  | some v => exact (tells_asInterval? v).within _

theorem asText_eq_ok_iff {s : Text} : (json v).asText.result = .ok s ↔ v = .string s := by
  cases v <;> simp [asText, Report.ok, Report.refuse, Report.fail]

theorem asInterval_eq_ok_iff {x : Interval} : (json v).asInterval.result = .ok x ↔ v.Reads x := by
  cases v with
  | string s =>
    cases read : Interval.parse s <;>
      simp [asInterval, Interval.ofCandidate, Report.ok, Json.Reads, read]
  | null | bool | number | decimal | array | object =>
    simp [asInterval, Interval.ofCandidate, Json.Reads, Report.fail]

theorem asInterval?_eq_ok_iff {x : Option Interval} : (json v).asInterval?.result = .ok x ↔
    v = .null ∧ x = none ∨ ∃ y, x = some y ∧ v.Reads y := by
  have some_iff : ((json v).asInterval.map some).result = .ok x ↔ ∃ y, x = some y ∧ v.Reads y := by
    rw [Report.map_eq_ok_iff]
    constructor
    · rintro ⟨y, read, rfl⟩
      exact ⟨y, rfl, asInterval_eq_ok_iff.mp read⟩
    · rintro ⟨y, rfl, read⟩
      exact ⟨y, asInterval_eq_ok_iff.mpr read, rfl⟩
  cases v with
  | null => simp [asInterval?, Report.ok, Json.Reads, eq_comm]
  | bool | number | decimal | string | array | object =>
    simpa [asInterval?] using some_iff

theorem asIntervals_eq_ok_iff {xs : List Interval} : (json v).asIntervals.result = .ok xs ↔
    ∃ items, v = .array items ∧ List.Forall₂ Json.Reads items xs := by
  cases v with
  | array items =>
    simp [asIntervals, Report.all_eq_ok_iff, List.forall₂_map_left_iff, asInterval_eq_ok_iff]
  | null | bool | number | decimal | string | object =>
    simp [asIntervals, Report.refuse, Report.fail]

theorem required_eq_ok_iff {α : Type} {take : Candidate → Report (List Issue) α} {name : String}
    {offered : Option Candidate} {x : α} : (required take name offered).result = .ok x ↔
      ∃ c, offered = some c ∧ (take c).result = .ok x := by
  cases offered <;>
    simp [required, Report.within_eq_ok_iff, Report.refuse, Report.fail]

theorem row_eq_ok_iff {name : String} {offered : Option Json} {xs : List Interval} :
    (required asIntervals name (offered.map json)).result = .ok xs ↔
      ∃ items, offered = some (.array items) ∧ List.Forall₂ Json.Reads items xs := by
  rw [required_eq_ok_iff]
  cases offered with
  | none => simp
  | some v => simp [asIntervals_eq_ok_iff]

theorem nullable_eq_ok_iff {name : String} {offered : Option Json} {x : Option Interval} :
    (required asInterval? name ((offered.map json).or (some (json .null)))).result = .ok x ↔
      Json.ReadsNullable offered x := by
  rw [required_eq_ok_iff]
  cases offered <;> cases x <;> simp [asInterval?_eq_ok_iff, Json.Reads, Json.ReadsNullable]

end Candidate

end Timespan
