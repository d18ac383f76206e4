import Timespan.Proofs.Interchange.Validation
import Timespan.Proofs.Json.Guarded

/-! A value read as it is, and by way of its text. Both give the same report exactly
when the dialect has room for the value; otherwise the text is refused as a whole. -/
namespace Timespan

/-- One issue found in a value and in its text. Only of lists and objects do the two
ways speak in words of their own. -/
structure Issue.Concurs (inValue inText : Issue) : Prop where
  place : inText.place = inValue.place
  code : inText.problem.code = inValue.problem.code
  message : inText.problem.message .text = inValue.problem.message .value ∨
    inValue.problem.code = "list_type" ∨ inValue.problem.code = "model_type"

theorem Issue.concurs_self (issue : Issue) : issue.Concurs issue where
  place := rfl
  code := rfl
  message := by
    cases issue.problem with
    | missing | notString | notJson | interval => exact .inl rfl
    | notList => exact .inr (.inl rfl)
    | notObject => exact .inr (.inr rfl)

/-- Nothing is asked for of the whole but that it is an object. -/
def AskForObject (checks : List Check) : Prop :=
  ∀ c ∈ checks, c.place = [] → ∃ model, c.problem = some (.notObject model)

namespace Report

/-- Reports of a value and of its text that say the same: one record, which is then
written in one way, or as many issues, each of which concurs with its counterpart;
and the same log. -/
inductive Concur {α : Type} : Report (List Issue) α → Report (List Issue) α → Prop where
  | accept (log : List Interval.TextError) (x : α) : Concur ⟨log, .ok x⟩ ⟨log, .ok x⟩
  | refuse (log : List Interval.TextError) {inValue inText : List Issue} :
      List.Forall₂ Issue.Concurs inValue inText →
        Concur ⟨log, .error inValue⟩ ⟨log, .error inText⟩

variable {α : Type} {r : Report (List Issue) α} {checks : List Check}

theorem concur_self (r : Report (List Issue) α) : r.Concur r := by
  obtain ⟨log, result⟩ := r
  cases result with
  | ok x => exact .accept log x
  | error issues => exact .refuse log (List.forall₂_same.mpr fun issue _ => issue.concurs_self)

/-- What is wrong with a text that is no JSON is never wrong with a value. -/
theorem Tells.not_concur_notJson (tells : r.Tells checks) (object : AskForObject checks)
    (e : Json.ReadError) : ¬ r.Concur (.refuse (.notJson e)) := by
  intro concur
  cases concur with
  | refuse log concurs =>
    rw [List.forall₂_cons_right_iff] at concurs
    obtain ⟨issue, _, concurs, _, rfl⟩ := concurs
    have listed : issue ∈ checks.filterMap Check.issue? := by
      rw [← tells.issues_eq rfl]
      exact List.mem_cons_self
    obtain ⟨c, member, found⟩ := List.mem_filterMap.mp listed
    obtain ⟨problem, wrong, rfl⟩ := Option.map_eq_some_iff.mp found
    obtain ⟨model, other⟩ := object c member concurs.place.symm
    rw [wrong] at other
    cases other
    have code : "json_invalid" = "model_type" := concurs.code
    exact absurd code (by decide)

end Report

namespace Activity

theorem askForObject_checks (v : Json) : AskForObject (checks v) := by
  cases v with
  | object members => simp [AskForObject, checks]
  | null | bool | number | decimal | string | array => simp [AskForObject, checks]

end Activity

namespace Schedule

theorem askForObject_checks (v : Json) : AskForObject (checks v) := by
  cases v with
  | object members =>
    intro c member place
    obtain slot | fallback := List.mem_append.mp member
    · have head := Json.head?_place_rowChecks (List.mem_map_of_mem slot)
      rw [place] at head
      contradiction
    · cases List.mem_singleton.mp fallback
      contradiction
  | null | bool | number | decimal | string | array => simp [AskForObject, checks]

end Schedule

namespace Model

variable {α : Type} [Model α] {minusCounts : Bool} {v : Json}

theorem validateIn_text_of_readable (readable : v.joined.Readable minusCounts) :
    (validateIn (.guarded minusCounts) .text v : Report (List Issue) α) =
      validateIn (.guarded minusCounts) .value v.joined := by
  have read : Json.parse (.guarded minusCounts) (v.text .spaced) = .ok v.joined :=
    Json.parse_guarded_eq_ok_iff.mpr ⟨rfl, readable⟩
  simp only [validateIn, ofText, read]

theorem validateIn_text_of_unreadable (unreadable : ¬ v.joined.Readable minusCounts) :
    ∃ e, (validateIn (.guarded minusCounts) .text v : Report (List Issue) α) =
      .refuse (.notJson e) := by
  cases read : Json.parse (.guarded minusCounts) (v.text .spaced) with
  | error e =>
    refine ⟨e, ?_⟩
    simp only [validateIn, ofText, read]
  | ok w => exact absurd (Json.parse_guarded_eq_ok_iff.mp read).2 unreadable

/-- No report of a value concurs with that of a text that cannot be read. -/
theorem not_concur_of_unreadable {r : Report (List Issue) α} {checks : List Check}
    (tells : r.Tells checks) (object : AskForObject checks)
    (unreadable : ¬ v.joined.Readable minusCounts) :
    ¬ r.Concur (validateIn (.guarded minusCounts) .text v) := by
  obtain ⟨e, refused⟩ : ∃ e, (validateIn (.guarded minusCounts) .text v :
      Report (List Issue) α) = .refuse (.notJson e) := validateIn_text_of_unreadable unreadable
  rw [refused]
  exact tells.not_concur_notJson object e

/-- How the two ways compare for a model, in a dialect that counts the minus of a number
or does not. The text of a value stands for the value with its pairs joined. -/
structure Compares (α : Type) [Model α] (minusCounts : Bool) (v : Json) : Prop where
  concur_iff : (validateIn (.guarded minusCounts) .value v.joined : Report (List Issue) α).Concur
    (validateIn (.guarded minusCounts) .text v) ↔ v.joined.Readable minusCounts
  refused : ¬ v.joined.Readable minusCounts →
    ∃ e, (validateIn (.guarded minusCounts) .text v : Report (List Issue) α) =
      .refuse (.notJson e)

theorem compares {checks : List Check}
    (tells : (ofJson v.joined : Report (List Issue) α).Tells checks)
    (object : AskForObject checks) : Compares α minusCounts v where
  concur_iff := by
    constructor
    · intro concur
      by_contra unreadable
      exact not_concur_of_unreadable tells object unreadable concur
    · intro readable
      rw [validateIn_text_of_readable readable]
      exact Report.concur_self _
  refused := validateIn_text_of_unreadable

end Model

/-- A value and its text are validated alike exactly when the dialect has room for the
value: no string or name in it holds a surrogate, arrays and objects with something in
them stand at most 200 deep, and no number has more than 4300 characters before its
point or exponent, whether or not its minus is one of them. Otherwise the text is
refused as no JSON, with nothing on the log. A value without surrogates has no pairs to
join. -/
theorem sources_concur_iff_readable (minusCounts : Bool) (v : Json) :
    (v.unencodable? = none → v.joined = v) ∧ Model.Compares Activity minusCounts v ∧
      Model.Compares Schedule minusCounts v :=
  ⟨Json.joined_eq_self, Model.compares (Activity.tells_ofJson _) (Activity.askForObject_checks _),
    Model.compares (Schedule.tells_ofJson _) (Schedule.askForObject_checks _)⟩

section Limits

variable {minusCounts : Bool}

namespace Json

/-- Arrays in each other, so many around an empty one. -/
def nested : Nat → Json
  | 0 => array []
  | n + 1 => array [nested n]

theorem nesting_nested (n : Nat) : nesting (nested n) = n := by
  induction n with
  | zero => rfl
  | succ n ih =>
    rw [nested, nesting, nestingItems, nestingItems, ih]
    exact Nat.max_eq_left (Nat.zero_le _)

theorem unencodable?_nested (n : Nat) : (nested n).unencodable? = none := by
  induction n with
  | zero => rfl
  | succ n ih =>
    rw [nested, unencodable?, unencodableItem?, ih]
    rfl

/-- A power of ten, which has one digit more than its exponent says. -/
def powerOfTen (exponent : Nat) : Json :=
  number (Nat.pow 10 exponent)

theorem lt_width_powerOfTen {exponent : Nat} (positive : 0 < exponent) :
    exponent < width minusCounts (powerOfTen exponent) := by
  have digits : ¬ (Numeral.decimal (Nat.pow 10 exponent)).length ≤ exponent := by
    rw [Numeral.decimal, Nat.length_toDigits_le_iff (by decide) positive]
    exact Nat.lt_irrefl _
  rw [powerOfTen, width, wholeSize, Int.natAbs_natCast]
  omega

end Json

namespace Schedule

/-- The value of an empty schedule, with a member that schedules do not know. -/
def noted (note : Json) : Json :=
  .record [("slots", .array []), ("note", note)]

/-- The value is accepted, and its text does not concur in any dialect. -/
def OnlyAsValue (v : Json) : Prop :=
  (Model.validate .value v : Report (List Issue) Schedule) = .ok ⟨[], none⟩ ∧
    ∀ minusCounts, ¬ (Model.validate .value v : Report (List Issue) Schedule).Concur
      (Model.validateIn (.guarded minusCounts) .text v)

/-- A member that is not looked at in a value is read in its text. -/
theorem onlyAsValue_noted {note : Json}
    (unreadable : ∀ minusCounts, ¬ (noted note).joined.Readable minusCounts) :
    OnlyAsValue (noted note) :=
  ⟨rfl, fun minusCounts => Model.not_concur_of_unreadable (tells_ofJson (noted note))
    (askForObject_checks _) (unreadable minusCounts)⟩

theorem joined_noted {note : Json} (encodable : note.unencodable? = none) :
    (noted note).joined = noted note := by
  apply Json.joined_eq_self
  rw [noted, Json.unencodable?_record_eq_none_iff]
  simp [encodable, Json.unencodable?, Json.unencodableItem?]

theorem nesting_noted (note : Json) :
    Json.nesting (noted note) = max 1 (max (Json.nesting note + 1) 0) := rfl

theorem width_noted (note : Json) :
    Json.width minusCounts (noted note) = max 0 (max (Json.width minusCounts note) 0) := rfl

theorem not_readable_noted_nested : ¬ (noted (.nested 200)).joined.Readable minusCounts := by
  intro readable
  have shallow := readable.shallow
  rw [joined_noted (Json.unencodable?_nested 200), nesting_noted, Json.nesting_nested] at shallow
  omega

theorem not_readable_noted_surrogate :
    ¬ (noted (.string [⟨0xd800, by decide⟩])).joined.Readable minusCounts := by
  intro readable
  exact nomatch readable.encodable

theorem not_readable_noted_powerOfTen :
    ¬ (noted (.powerOfTen 4300)).joined.Readable minusCounts := by
  intro readable
  have narrow := readable.narrow
  have wide : 4300 < Json.width minusCounts (.powerOfTen 4300) :=
    Json.lt_width_powerOfTen (by decide)
  rw [joined_noted rfl, width_noted] at narrow
  omega

/-- Beyond any of the limits a value can be accepted whose text is refused. -/
theorem sources_differ_beyond_limits :
    OnlyAsValue (noted (.nested 200)) ∧ OnlyAsValue (noted (.string [⟨0xd800, by decide⟩])) ∧
      OnlyAsValue (noted (.powerOfTen 4300)) :=
  ⟨onlyAsValue_noted fun _ => not_readable_noted_nested,
    onlyAsValue_noted fun _ => not_readable_noted_surrogate,
    onlyAsValue_noted fun _ => not_readable_noted_powerOfTen⟩

end Schedule

end Limits

end Timespan
