import Timespan.Interchange.Activity
import Timespan.Interchange.Schedule
import Timespan.Proofs.Interchange.Offered
import Timespan.Proofs.Json.RoundTrip

/-! What validation says about a JSON value: the record that it shows, or once each
place that holds something wrong, in order, with the refused texts on the log. -/
namespace Timespan

namespace Activity

def checks : Json → List Check
  | .object members =>
    [⟨[.field "name"], Json.requiredProblem? Json.textProblem? (Json.member? "name" members)⟩,
      ⟨[.field "period"], Json.requiredProblem? Json.intervalProblem? (Json.member? "period" members)⟩]
  | _ => [⟨[], some (.notObject "Activity")⟩]

/-- An object with the activity's name and a text of its period. -/
def ShownBy (v : Json) (a : Activity) : Prop :=
  ∃ members, v = .object members ∧ Json.Offers members "name" (some (.string a.name)) ∧
    ∃ period, Json.Offers members "period" (some period) ∧ period.Reads a.period

end Activity

namespace Schedule

def checks : Json → List Check
  | .object members =>
    Json.rowChecks "slots" (Json.member? "slots" members) ++
      [⟨[.field "fallback"], (Json.member? "fallback" members).bind Json.nullableProblem?⟩]
  | _ => [⟨[], some (.notObject "Schedule")⟩]

/-- An object with texts of the schedule's slots, one by one, and with a text of its
fallback, or null or nothing if it has none. -/
def ShownBy (v : Json) (s : Schedule) : Prop :=
  ∃ members items fallback, v = .object members ∧
    Json.Offers members "slots" (some (.array items)) ∧ List.Forall₂ Json.Reads items s.slots ∧
    Json.Offers members "fallback" fallback ∧ Json.ReadsNullable fallback s.fallback

end Schedule

/-- Of the places with a problem each is reported, in the order of the checks. -/
theorem Check.map_place_issues (checks : List Check) :
    (checks.filterMap issue?).map Issue.place =
      (checks.filter fun c => c.problem.isSome).map place := by
  induction checks with
  | nil => rfl
  | cons c checks ih =>
    cases problem : c.problem <;> simp [issue?, problem, ih]

namespace Activity

variable {v : Json} {a : Activity}

theorem nodup_place_checks (v : Json) : ((checks v).map Check.place).Nodup := by
  cases v with
  | object members => simp [checks]
  | null | bool | number | decimal | string | array => exact List.nodup_singleton _

theorem tells_ofJson (v : Json) :
    (Model.ofJson v : Report (List Issue) Activity).Tells (checks v) := by
  cases v with
  | object members =>
    exact ((Candidate.tells_required Candidate.tells_asText "name" _).both
      (Candidate.tells_required Candidate.tells_asInterval "period" _)).map _
  | null | bool | number | decimal | string | array => exact Report.tells_refuse rfl

theorem ofJson_eq_ok_iff : (Model.ofJson v : Report (List Issue) Activity).result = .ok a ↔
    a.ShownBy v := by
  cases v with
  | object members =>
    obtain ⟨name, period⟩ := a
    simp [Model.ofJson, Model.ofMembers, ofMembers, ShownBy, Json.offers_iff,
      Report.map_eq_ok_iff, Report.both_eq_ok_iff, Candidate.required_eq_ok_iff,
      Candidate.asText_eq_ok_iff, Candidate.asInterval_eq_ok_iff]
  | null | bool | number | decimal | string | array =>
    simp [Model.ofJson, ShownBy, Report.refuse, Report.fail]

end Activity

namespace Schedule

variable {v : Json} {s : Schedule}

theorem nodup_place_checks (v : Json) : ((checks v).map Check.place).Nodup := by
  cases v with
  | object members =>
    rw [checks, List.map_append]
    refine (Json.nodup_place_rowChecks _ _).append (List.nodup_singleton _) ?_
    intro place slot fallback
    have head := Json.head?_place_rowChecks slot
    cases List.mem_singleton.mp fallback
    simp at head
  | null | bool | number | decimal | string | array => exact List.nodup_singleton _

theorem tells_ofJson (v : Json) :
    (Model.ofJson v : Report (List Issue) Schedule).Tells (checks v) := by
  cases v with
  | object members =>
    exact ((Candidate.tells_row "slots" _).both (Candidate.tells_nullable "fallback" _)).map _
  | null | bool | number | decimal | string | array => exact Report.tells_refuse rfl

theorem ofJson_eq_ok_iff : (Model.ofJson v : Report (List Issue) Schedule).result = .ok s ↔
    s.ShownBy v := by
  cases v with
  | object members =>
    obtain ⟨slots, fallback⟩ := s
    have parts : (Model.ofJson (.object members) : Report (List Issue) Schedule).result =
        .ok ⟨slots, fallback⟩ ↔
          (Candidate.required Candidate.asIntervals "slots"
            ((Json.member? "slots" members).map .json)).result = .ok slots ∧
          (Candidate.required Candidate.asInterval? "fallback"
            (((Json.member? "fallback" members).map .json).or (some (.json .null)))).result =
              .ok fallback := by
      simp [Model.ofJson, Model.ofMembers, ofMembers, Report.map_eq_ok_iff, Report.both_eq_ok_iff]
    rw [parts, Candidate.row_eq_ok_iff, Candidate.nullable_eq_ok_iff]
    constructor
    · rintro ⟨⟨items, offered, read⟩, last⟩
      exact ⟨members, items, _, rfl, Json.offers_iff.mpr offered, read,
        Json.offers_iff.mpr rfl, last⟩
    · rintro ⟨_, items, fallback, same, offered, read, absent, last⟩
      cases same
      rw [Json.offers_iff] at offered absent
      rw [absent]
      exact ⟨⟨items, offered, read⟩, last⟩
  | null | bool | number | decimal | string | array =>
    simp [Model.ofJson, ShownBy, Report.refuse, Report.fail]

end Schedule

namespace Report

variable {α : Type} {r : Report (List Issue) α} {shown : α → Prop} {checks : List Check}

/-- The report in full: it gives the records that are shown, in silence, and there
is one when no check has a problem. Otherwise it lists the problems, one for each
place that has one and in the order of the places. The log has the refused texts,
in that order too. -/
structure Describes (r : Report (List Issue) α) (shown : α → Prop) (checks : List Check) :
    Prop where
  accepted : ∀ x, r.result = .ok x ↔ shown x
  valid : (∃ x, r.result = .ok x) ↔ ∀ c ∈ checks, c.problem = none
  quiet : ∀ x, r.result = .ok x → r.log = []
  issues : ∀ issues, r.result = .error issues → issues = checks.filterMap Check.issue? ∧
    issues.map Issue.place = (checks.filter fun c => c.problem.isSome).map Check.place ∧
    (issues.map Issue.place).Nodup
  log : r.log = checks.filterMap Check.refused?

theorem Tells.describes (tells : r.Tells checks) (accepted : ∀ x, r.result = .ok x ↔ shown x)
    (places : (checks.map Check.place).Nodup) : r.Describes shown checks where
  accepted := accepted
  valid := tells.exists_ok_iff
  quiet _ valid := tells.log_eq_nil valid
  issues issues failed := by
    have same := Check.map_place_issues checks
    rw [← tells.issues_eq failed] at same
    refine ⟨tells.issues_eq failed, same, ?_⟩
    rw [same]
    exact places.sublist (List.filter_sublist.map Check.place)
  log := tells.log

end Report

/-- The ways in which a JSON value is validated: as it is, or as a text that shows it. -/
inductive Validates {α : Type} [Model α] (v : Json) : Report (List Issue) α → Prop where
  | value : Validates v (Model.ofJson v)
  | text {dialect : Json.Dialect} {text : String} :
      Json.parse dialect text = .ok v → Validates v (Model.ofText dialect text)

theorem Validates.eq_ofJson {α : Type} [Model α] {v : Json} {r : Report (List Issue) α}
    (validates : Validates v r) : r = Model.ofJson v := by
  cases validates with
  | value => rfl
  | text read => rw [Model.ofText, read]

/-- Of the members of one name the last counts. Whichever way a value comes in, its
report is that of the checks of its places: the records that it shows are given and
nothing is logged, or every place with a problem is listed once, in order, and every
text that was refused is logged once. -/
theorem validation_reports_each_place_once (v : Json) :
    (∀ members name, Json.Offers members name (Json.member? name members)) ∧
    (∀ r : Report (List Issue) Activity, Validates v r →
      r.Describes (Activity.ShownBy v) (Activity.checks v)) ∧
    (∀ r : Report (List Issue) Schedule, Validates v r →
      r.Describes (Schedule.ShownBy v) (Schedule.checks v)) := by
  refine ⟨fun _ _ => Json.offers_iff.mpr rfl, ?activities, ?schedules⟩
  case activities =>
    intro r validates
    rw [validates.eq_ofJson]
    exact (Activity.tells_ofJson v).describes (fun _ => Activity.ofJson_eq_ok_iff)
      (Activity.nodup_place_checks v)
  case schedules =>
    intro r validates
    rw [validates.eq_ofJson]
    exact (Schedule.tells_ofJson v).describes (fun _ => Schedule.ofJson_eq_ok_iff)
      (Schedule.nodup_place_checks v)

/-- The text of an activity with two periods, of which the last counts, and a schedule
with one slot that can be read, one that is no interval and one that is no text. -/
theorem validation_reports_each_place_once_of_noon :
    let morning : Text := .ofString "2000-02-29T08:00:00Z/2000-02-29T13:00:00+01:00"
    let noon : Text := .ofString "noon"
    let walk : Json := .record [("period", .string noon), ("name", .ofString "walk"),
      ("period", .string morning)]
    let slots : Json := .record [("slots", .array [.string morning, .string noon, .number 12]),
      ("fallback", .string noon)]
    let read : Report (List Issue) Activity := Model.ofText .strict (walk.text .compact)
    let taken : Report (List Issue) Schedule := Model.ofJson slots
    (∃ a, read.result = .ok a ∧ a.ShownBy walk) ∧ read.log = [] ∧
      taken.result = .error [⟨[.field "slots", .index 1], .interval (.text (.separators noon 0))⟩,
        ⟨[.field "slots", .index 2], .interval (.kind "int")⟩,
        ⟨[.field "fallback"], .interval (.text (.separators noon 0))⟩] ∧
      taken.log = [.separators noon 0, .separators noon 0] := by
  intro morning noon walk slots read taken
  have readable : walk.Readable false := ⟨rfl, by decide, by decide⟩
  have shown : Json.parse .strict (walk.text .compact) = .ok walk :=
    Json.parse_text_of_readable Json.readable_compact readable
  have sound : Activity.checks walk = [⟨[.field "name"], none⟩, ⟨[.field "period"], none⟩] := rfl
  have unsound : Schedule.checks slots = [⟨[.field "slots", .index 0], none⟩,
      ⟨[.field "slots", .index 1], some (.interval (.text (.separators noon 0)))⟩,
      ⟨[.field "slots", .index 2], some (.interval (.kind "int"))⟩,
      ⟨[.field "fallback"], some (.interval (.text (.separators noon 0)))⟩] := rfl
  obtain ⟨-, activities, -⟩ := validation_reports_each_place_once walk
  obtain ⟨-, -, schedules⟩ := validation_reports_each_place_once slots
  have accepted := activities read (.text shown)
  have refused := schedules taken .value
  obtain ⟨a, valid⟩ : ∃ a, read.result = .ok a := by
    rw [accepted.valid, sound]
    simp
  refine ⟨⟨a, valid, (accepted.accepted a).mp valid⟩, accepted.quiet a valid, ?_, ?_⟩
  · cases result : taken.result with
    | ok s =>
      have clean := refused.valid.mp ⟨s, result⟩
      rw [unsound] at clean
      simp at clean
    | error issues =>
      rw [(refused.issues issues result).1, unsound]
      rfl
  · rw [refused.log, unsound]
    rfl

end Timespan
