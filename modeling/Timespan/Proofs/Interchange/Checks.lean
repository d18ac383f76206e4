import Mathlib.Data.List.Forall2
import Timespan.Interchange.Model

/-! Reports as what a row of checks found: their problems in order, each at its place,
and the texts that were refused. Joining reports joins their rows. -/
namespace Timespan

/-- A place where a value is looked at, and what is wrong with it there. -/
structure Check where
  place : List Place
  problem : Option Problem

namespace Check

def issue? (c : Check) : Option Issue :=
  c.problem.map fun problem => ⟨c.place, problem⟩

/-- The text that was refused here. -/
def refused? (c : Check) : Option Interval.TextError :=
  match c.problem with
  | some (.interval (.text e)) => some e
  | _ => none

/-- The check of a part, seen from the whole. -/
def under (place : Place) (c : Check) : Check :=
  { c with place := place :: c.place }

theorem issue?_eq_none_iff {c : Check} : c.issue? = none ↔ c.problem = none :=
  Option.map_eq_none_iff

theorem filterMap_issue?_under (place : Place) (checks : List Check) :
    (checks.map (under place)).filterMap issue? =
      (checks.filterMap issue?).map fun issue => { issue with place := place :: issue.place } := by
  rw [List.filterMap_map, List.map_filterMap]
  congr 1
  funext c
  cases problem : c.problem <;> simp [issue?, under, problem]

theorem filterMap_refused?_under (place : Place) (checks : List Check) :
    (checks.map (under place)).filterMap refused? = checks.filterMap refused? :=
  List.filterMap_map

end Check

namespace Report

/-- The report is what the checks found. -/
structure Tells {α : Type} (r : Report (List Issue) α) (checks : List Check) : Prop where
  log : r.log = checks.filterMap Check.refused?
  result : match r.result with
    | .ok _ => checks.filterMap Check.issue? = []
    | .error issues => issues = checks.filterMap Check.issue? ∧ issues ≠ []

variable {α β : Type} {r : Report (List Issue) α} {checks more : List Check}

theorem tells_ok (x : α) (place : List Place) : (Report.ok x : Report (List Issue) α).Tells
    [⟨place, none⟩] :=
  ⟨rfl, rfl⟩

theorem tells_refuse {problem : Problem} (quiet : Check.refused? ⟨[], some problem⟩ = none) :
    (Report.refuse problem : Report (List Issue) α).Tells [⟨[], some problem⟩] where
  log := by rw [List.filterMap_cons_none quiet]; rfl
  result := ⟨rfl, by simp⟩

theorem Tells.within (tells : r.Tells checks) (place : Place) :
    (r.within place).Tells (checks.map (Check.under place)) where
  log := by rw [Check.filterMap_refused?_under, ← tells.log, Report.within]
  result := by
    have found := tells.result
    rw [Check.filterMap_issue?_under]
    cases result : r.result with
    | ok x =>
      simp only [result] at found
      simp only [Report.within, result, found, List.map_nil]
    | error issues =>
      simp only [result] at found
      simp only [Report.within, result, ← found.1, true_and]
      exact fun none => found.2 (List.map_eq_nil_iff.mp none)

theorem Tells.both {s : Report (List Issue) β} (first : r.Tells checks) (second : s.Tells more) :
    (r.both s).Tells (checks ++ more) where
  log := by rw [List.filterMap_append, ← first.log, ← second.log, Report.both]
  result := by
    have left := first.result
    have right := second.result
    rw [List.filterMap_append]
    cases a : r.result with
    | ok x =>
      simp only [a] at left
      cases b : s.result with
      | ok y =>
        simp only [b] at right
        simp only [Report.both, a, b, left, right, List.append_nil]
      | error issues =>
        simp only [b] at right
        simpa only [Report.both, a, b, left, List.nil_append] using right
    | error issues =>
      simp only [a] at left
      cases b : s.result with
      | ok y =>
        simp only [b] at right
        simpa only [Report.both, a, b, right, List.append_nil] using left
      | error others =>
        simp only [b] at right
        simp only [Report.both, a, b, ← left.1, ← right.1, true_and]
        exact List.append_ne_nil_of_left_ne_nil left.2 others

theorem Tells.map (tells : r.Tells checks) (f : α → β) : (r.map f).Tells checks where
  log := tells.log
  result := by
    have found := tells.result
    cases result : r.result with
    | ok x =>
      simp only [result] at found
      simpa only [Report.map, result, Except.map] using found
    | error issues =>
      simp only [result] at found
      simpa only [Report.map, result, Except.map] using found

/-- A check without a problem adds nothing. -/
theorem Tells.of_clean (front : List Check) {c : Check} {back : List Check}
    (tells : r.Tells (front ++ c :: back)) (clean : c.problem = none) :
    r.Tells (front ++ back) := by
  have issue : c.issue? = none := Check.issue?_eq_none_iff.mpr clean
  have refused : c.refused? = none := by rw [Check.refused?, clean]
  obtain ⟨log, result⟩ := tells
  rw [List.filterMap_append, List.filterMap_cons_none refused, ← List.filterMap_append] at log
  rw [List.filterMap_append, List.filterMap_cons_none issue, ← List.filterMap_append] at result
  exact ⟨log, result⟩

/-- The checks of numbered parts, seen from the row that they form. -/
def numbered (n : Nat) : List (List Check) → List Check
  | [] => []
  | part :: parts => part.map (Check.under (.index n)) ++ numbered (n + 1) parts

theorem all_cons (n : Nat) (r : Report (List Issue) α) (rs : List (Report (List Issue) α)) :
    all n (r :: rs) = ((r.within (.index n)).both (all (n + 1) rs)).map fun (x, xs) => x :: xs :=
  rfl

theorem tells_all {ι : Type} {part : ι → Report (List Issue) α} {found : ι → List Check}
    (tells : ∀ i, (part i).Tells (found i)) (n : Nat) (is : List ι) :
    (all n (is.map part)).Tells (numbered n (is.map found)) := by
  induction is generalizing n with
  | nil => exact ⟨rfl, rfl⟩
  | cons i is ih =>
    rw [List.map_cons, all_cons]
    exact (((tells i).within (.index n)).both (ih (n + 1))).map _

section Outcome

theorem Tells.log_eq_nil {x : α} (tells : r.Tells checks) (valid : r.result = .ok x) :
    r.log = [] := by
  have clean := tells.result
  rw [valid] at clean
  rw [tells.log, List.filterMap_eq_nil_iff]
  intro c member
  have sound := Check.issue?_eq_none_iff.mp (List.filterMap_eq_nil_iff.mp clean c member)
  rw [Check.refused?, sound]

theorem Tells.exists_ok_iff (tells : r.Tells checks) :
    (∃ x, r.result = .ok x) ↔ ∀ c ∈ checks, c.problem = none := by
  have found := tells.result
  simp only [← Check.issue?_eq_none_iff, ← List.filterMap_eq_nil_iff]
  cases result : r.result with
  | ok x =>
    rw [result] at found
    simpa using found
  | error issues =>
    rw [result] at found
    simpa [found.1] using found.2

theorem Tells.issues_eq {issues : List Issue} (tells : r.Tells checks)
    (failed : r.result = .error issues) : issues = checks.filterMap Check.issue? := by
  have found := tells.result
  rw [failed] at found
  exact found.1

theorem within_eq_ok_iff {place : Place} {x : α} :
    (r.within place).result = .ok x ↔ r.result = .ok x := by
  cases result : r.result <;> simp [Report.within, result]

theorem both_eq_ok_iff {s : Report (List Issue) β} {x : α × β} :
    (r.both s).result = .ok x ↔ r.result = .ok x.1 ∧ s.result = .ok x.2 := by
  cases first : r.result <;> cases second : s.result <;>
    simp [Report.both, first, second, Prod.ext_iff]

theorem map_eq_ok_iff {f : α → β} {y : β} :
    (r.map f).result = .ok y ↔ ∃ x, r.result = .ok x ∧ f x = y := by
  cases result : r.result <;> simp [Report.map, result, Except.map]

theorem all_eq_ok_iff {n : Nat} {rs : List (Report (List Issue) α)} {xs : List α} :
    (all n rs).result = .ok xs ↔ List.Forall₂ (fun r x => r.result = .ok x) rs xs := by
  induction rs generalizing n xs with
  | nil => simp [all, Report.ok, eq_comm]
  | cons r rs ih =>
    simp only [all_cons, map_eq_ok_iff, both_eq_ok_iff, within_eq_ok_iff, ih, Prod.exists,
      List.forall₂_cons_left_iff]
    constructor
    · rintro ⟨x, xs, ⟨first, rest⟩, rfl⟩
      exact ⟨x, xs, first, rest, rfl⟩
    · rintro ⟨x, xs, first, rest, rfl⟩
      exact ⟨x, xs, ⟨first, rest⟩, rfl⟩

end Outcome

end Report

end Timespan
