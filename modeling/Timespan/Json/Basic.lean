import Timespan.Text.CodePoint

/-! JSON values. Whole numbers and numbers with a point or an exponent are kept
apart, the latter as they are written. Strings are texts of code points. The
members of an object keep their order, and of members with one name the last
counts. -/
namespace Timespan

structure Json.Exponent where
  upper : Bool
  /-- Whether its sign is a minus, if it has a sign. -/
  minus : Option Bool
  first : Fin 10
  more : List (Fin 10)
deriving DecidableEq

/-- A number as written with a point, an exponent or both. -/
structure Json.Decimal where
  negative : Bool
  whole : Nat
  fraction : List (Fin 10)
  exponent : Option Json.Exponent
  not_whole : fraction ≠ [] ∨ exponent ≠ none
deriving DecidableEq

inductive Json where
  | null
  | bool (value : Bool)
  | number (value : Int)
  | decimal (value : Json.Decimal)
  | string (value : Text)
  | array (items : List Json)
  | object (members : List (Text × Json))

namespace Json

def ofString (s : String) : Json :=
  string (.ofString s)

/-- An object whose members' names have characters only. -/
def record (members : List (String × Json)) : Json :=
  object (members.map fun (name, value) => (.ofString name, value))

def member? (name : String) (members : List (Text × Json)) : Option Json :=
  members.reverse.lookup (.ofString name)

end Json

end Timespan
