import Timespan.Interchange.Field
import Timespan.Json.Reader

/-! What is wrong with a record, place by place. Validation goes on past the first
issue: `Report.both` and `Report.all` join the findings of parts in their order,
and a whole is valid when none of its parts has an issue. -/
namespace Timespan

inductive Place where
  | field (name : String)
  | index (n : Nat)
deriving DecidableEq

inductive Problem where
  | missing
  | notString
  | notList
  | notObject (model : String)
  | notJson (error : Json.ReadError)
  | interval (error : FieldError)
deriving DecidableEq

/-- How a record comes in: as a value, or as JSON text. -/
inductive Source where
  | value
  | text
deriving DecidableEq

namespace Problem

def code : Problem → String
  | missing => "missing"
  | notString => "string_type"
  | notList => "list_type"
  | notObject _ => "model_type"
  | notJson _ => "json_invalid"
  | interval _ => "value_error"

/-- The wording; lists and objects go by other names in JSON text. -/
def message (source : Source) : Problem → String
  | missing => "Field required"
  | notString => "Input should be a valid string"
  | notList =>
    match source with
    | .value => "Input should be a valid list"
    | .text => "Input should be a valid array"
  | notObject model =>
    match source with
    | .value => "Input should be a valid dictionary or instance of " ++ model
    | .text => "Input should be an object"
  | notJson error => "Invalid JSON: " ++ error.message
  | interval error => "Value error, " ++ error.message

end Problem

structure Issue where
  place : List Place
  problem : Problem
deriving DecidableEq

namespace Report

/-- The issues of a part, seen from the whole. -/
def within {α : Type} (place : Place) (r : Report (List Issue) α) : Report (List Issue) α :=
  ⟨r.log, match r.result with
    | .ok value => .ok value
    | .error issues => .error (issues.map fun issue => { issue with place := place :: issue.place })⟩

def both {α β : Type} (a : Report (List Issue) α) (b : Report (List Issue) β) :
    Report (List Issue) (α × β) :=
  ⟨a.log ++ b.log, match a.result, b.result with
    | .ok x, .ok y => .ok (x, y)
    | .ok _, .error e => .error e
    | .error e, .ok _ => .error e
    | .error e, .error f => .error (e ++ f)⟩

/-- A row of parts, numbered from a first index, with the issues of all. -/
def all {α : Type} : Nat → List (Report (List Issue) α) → Report (List Issue) (List α)
  | _, [] => .ok []
  | n, r :: rs =>
    let joined := (r.within (.index n)).both (all (n + 1) rs)
    ⟨joined.log, joined.result.map fun (x, xs) => x :: xs⟩

def map {ε α β : Type} (f : α → β) (r : Report ε α) : Report ε β :=
  ⟨r.log, r.result.map f⟩

def refuse {α : Type} (problem : Problem) : Report (List Issue) α :=
  .fail [⟨[], problem⟩]

end Report

end Timespan
