import Timespan.Proofs.Interchange.Offered
import Timespan.Proofs.Interval.RoundTrip

/-! Intervals that a record holds, each at its place, and what becomes of them when the
record is read back: each that has no form in UTC is refused, with one issue. -/
namespace Timespan

namespace Interval

/-- Both ends have a form in UTC. -/
def HasUtcForm (x : Interval) : Prop :=
  x.start.HasUtcForm ∧ x.stop.HasUtcForm

instance (x : Interval) : Decidable x.HasUtcForm :=
  inferInstanceAs (Decidable (_ ∧ _))

/-- The refusal of the interval's own text, over its first end without a form in UTC. -/
def LostOver (x : Interval) (e : TextError) : Prop :=
  ∃ edge m, x.FirstBeyondUtc edge m ∧ e = .edge x.toText edge (refusal m)

variable {x y : Interval}

theorem equiv_of_reads (reads : x.toJson.Reads y) : y ≈ x := by
  obtain ⟨s, same, read⟩ := reads
  rw [← Json.string.inj same] at read
  exact (parse_toText_eq_ok_iff.mp read).1

theorem instants_eq_of_readsNullable {given found : Option Interval}
    (reads : Json.ReadsNullable (some ((given.map toJson).getD .null)) found) :
    found.map instants = given.map instants := by
  cases given with
  | none =>
    cases found with
    | none => rfl
    | some x =>
      obtain ⟨_, null, s, text, _⟩ := reads
      cases null
      contradiction
  | some y =>
    cases found with
    | none => simp [Json.ReadsNullable, toJson] at reads
    | some x =>
      obtain ⟨_, text, read⟩ := reads
      cases text
      have same : x.instants = y.instants := equiv_of_reads read
      rw [Option.map_some, Option.map_some, same]

/-- Where a record holds an interval, its text is all that can be wrong. -/
theorem intervalProblem?_toJson (x : Interval) :
    x.toJson.intervalProblem? = none ∧ x.HasUtcForm ∨
      ∃ e, x.toJson.intervalProblem? = some (.interval (.text e)) ∧ x.LostOver e ∧
        ¬ x.HasUtcForm := by
  cases read : parse x.toText with
  | ok y =>
    refine .inl ⟨?_, exists_parse_toText_iff.mp ⟨y, read⟩⟩
    simp only [toJson, Json.intervalProblem?, read]
  | error e =>
    refine .inr ⟨e, ?_, parse_toText_eq_error read, fun forms => ?_⟩
    · simp only [toJson, Json.intervalProblem?, read]
    · obtain ⟨y, ok⟩ := exists_parse_toText_iff.mpr forms
      rw [read] at ok
      contradiction

end Interval

/-- An interval that a record holds, and where. -/
structure Holding where
  place : List Place
  interval : Interval

namespace Holding

/-- The look at the interval's text when it is read back. -/
def check (h : Holding) : Check :=
  ⟨h.place, h.interval.toJson.intervalProblem?⟩

theorem problem_check (h : Holding) : h.check.problem = h.interval.toJson.intervalProblem? := by
  rw [check]

/-- The holdings that cannot be read back. -/
def lost (holdings : List Holding) : List Holding :=
  holdings.filter fun h => ¬ h.interval.HasUtcForm

/-- The issue is about this holding, and is the refusal of its text. -/
structure Blames (h : Holding) (issue : Issue) : Prop where
  place : issue.place = h.place
  code : issue.problem.code = "value_error"
  problem : ∃ e, h.interval.LostOver e ∧ issue.problem = .interval (.text e)

/-- A finding is made for each lost holding and for no other. -/
theorem forall₂_lost {β : Type} {R : Holding → β → Prop} {find : Check → Option β}
    (kept : ∀ h : Holding, h.interval.HasUtcForm → find h.check = none)
    (found : ∀ h : Holding, ¬ h.interval.HasUtcForm → ∃ b, find h.check = some b ∧ R h b)
    (holdings : List Holding) :
    List.Forall₂ R (lost holdings) ((holdings.map check).filterMap find) := by
  induction holdings with
  | nil => exact .nil
  | cons h holdings ih =>
    by_cases forms : h.interval.HasUtcForm
    · rw [List.map_cons, List.filterMap_cons_none (kept h forms), lost,
        List.filter_cons_of_neg (by simpa using forms)]
      exact ih
    · obtain ⟨b, finds, holds⟩ := found h forms
      rw [List.map_cons, List.filterMap_cons_some finds, lost,
        List.filter_cons_of_pos (by simpa using forms)]
      exact .cons holds ih

theorem problem_check_eq_none_iff {h : Holding} :
    h.check.problem = none ↔ h.interval.HasUtcForm := by
  obtain ⟨clean, forms⟩ | ⟨e, refused, _, forms⟩ := h.interval.intervalProblem?_toJson
  · simp only [problem_check, clean, forms]
  · simp only [problem_check, refused, forms, reduceCtorEq]

theorem exists_problem_check {h : Holding} (beyond : ¬ h.interval.HasUtcForm) :
    ∃ e, h.check.problem = some (.interval (.text e)) ∧ h.interval.LostOver e := by
  obtain ⟨_, forms⟩ | ⟨e, refused, blamed, _⟩ := h.interval.intervalProblem?_toJson
  · exact absurd forms beyond
  · rw [problem_check, refused]
    exact ⟨e, rfl, blamed⟩

theorem forall₂_issues (holdings : List Holding) :
    List.Forall₂ Blames (lost holdings) ((holdings.map check).filterMap Check.issue?) := by
  refine forall₂_lost (fun h forms => ?_) (fun h beyond => ?_) holdings
  · exact Check.issue?_eq_none_iff.mpr (problem_check_eq_none_iff.mpr forms)
  · obtain ⟨e, refused, blamed⟩ := exists_problem_check beyond
    refine ⟨⟨h.place, .interval (.text e)⟩, ?_, rfl, rfl, e, blamed, rfl⟩
    rw [Check.issue?, refused]
    rfl

theorem forall₂_refused (holdings : List Holding) :
    List.Forall₂ (fun h e => h.interval.LostOver e) (lost holdings)
      ((holdings.map check).filterMap Check.refused?) := by
  refine forall₂_lost (fun h forms => ?_) (fun h beyond => ?_) holdings
  · rw [Check.refused?, problem_check_eq_none_iff.mpr forms]
  · obtain ⟨e, refused, blamed⟩ := exists_problem_check beyond
    exact ⟨e, by rw [Check.refused?, refused], blamed⟩

end Holding

namespace Report

variable {α : Type} [Model α] {r : Report (List Issue) α} {m : α} {holdings : List Holding}

/-- The report of reading a record back, which holds intervals at some places. It
gives an equivalent record exactly when all of them have a form in UTC. Otherwise
it lists one issue for each that has none, in their order, each at its own place.
Their texts are on the log, once each and in that order too. -/
structure Restores (r : Report (List Issue) α) (m : α) (holdings : List Holding) : Prop where
  equal_iff : (∃ x, r.result = .ok x ∧ x ≈ m) ↔ ∀ h ∈ holdings, h.interval.HasUtcForm
  issues : (¬ ∀ h ∈ holdings, h.interval.HasUtcForm) → ∃ issues, r.result = .error issues ∧
    List.Forall₂ Holding.Blames (Holding.lost holdings) issues
  log : List.Forall₂ (fun h e => h.interval.LostOver e) (Holding.lost holdings) r.log
  places : (holdings.map Holding.place).Nodup

theorem Tells.restores (tells : r.Tells (holdings.map Holding.check))
    (same : ∀ x, r.result = .ok x → x ≈ m) (places : (holdings.map Holding.place).Nodup) :
    r.Restores m holdings := by
  have valid : (∃ x, r.result = .ok x) ↔ ∀ h ∈ holdings, h.interval.HasUtcForm := by
    simp only [tells.exists_ok_iff, List.forall_mem_map, Holding.problem_check_eq_none_iff]
  refine ⟨⟨?_, ?_⟩, ?_, ?_, places⟩
  · rintro ⟨x, ok, _⟩
    exact valid.mp ⟨x, ok⟩
  · intro forms
    obtain ⟨x, ok⟩ := valid.mpr forms
    exact ⟨x, ok, same x ok⟩
  · intro beyond
    cases result : r.result with
    | ok x => exact absurd (valid.mp ⟨x, result⟩) beyond
    | error issues =>
      refine ⟨issues, rfl, ?_⟩
      rw [tells.issues_eq result]
      exact Holding.forall₂_issues holdings
  · rw [tells.log]
    exact Holding.forall₂_refused holdings

end Report

end Timespan
