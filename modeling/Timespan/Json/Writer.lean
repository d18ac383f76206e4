import Timespan.Json.Basic
import Timespan.Text.Utf8

/-! The text of a JSON value, in one of two styles: compact, with characters as
they are, or spaced, with everything beyond printable ASCII escaped by its UTF-16
units. In strings the quote, the backslash and the controls below the space are
always escaped, by a letter where there is one. Surrogates have an escape too, but
no bytes, so `unencodable?` finds the first string that the compact style cannot
put into UTF-8. -/
namespace Timespan.Json

structure Style where
  /-- What stands behind an item or a member that is not the last. -/
  item : List Char
  /-- What stands behind the name of a member. -/
  name : List Char
  /-- Everything beyond printable ASCII is escaped. -/
  ascii : Bool

def Style.compact : Style := ⟨[','], [':'], false⟩

def Style.spaced : Style := ⟨[',', ' '], [':', ' '], true⟩

def quoteMark : Char := Char.ofNat 34

def escapeUnit (n : Nat) : List Char :=
  '\\' :: 'u' :: Numeral.padded 16 4 n

def escapeUnits (n : Nat) : List Char :=
  if n < 0x10000 then escapeUnit n
  else escapeUnit (0xd800 + (n - 0x10000) / 0x400) ++ escapeUnit (0xdc00 + (n - 0x10000) % 0x400)

def escapeChar (ascii : Bool) (c : Char) : List Char :=
  if c = quoteMark ∨ c = '\\' then ['\\', c]
  else if c = '\n' then ['\\', 'n']
  else if c = '\r' then ['\\', 'r']
  else if c = '\t' then ['\\', 't']
  else if c = '\x08' then ['\\', 'b']
  else if c = '\x0c' then ['\\', 'f']
  else if c.toNat < 0x20 ∨ (ascii ∧ 0x7e < c.toNat) then escapeUnits c.toNat
  else [c]

/-- A code point within a string. -/
def escape (ascii : Bool) (p : CodePoint) : List Char :=
  match p.char? with
  | some c => escapeChar ascii c
  | none => escapeUnit p.val

def writeString (style : Style) (s : Text) : List Char :=
  quoteMark :: (s.flatMap (escape style.ascii) ++ [quoteMark])

def digitChars (digits : List (Fin 10)) : List Char :=
  digits.map fun d => Nat.digitChar d.val

def signChars : Option Bool → List Char
  | none => []
  | some true => ['-']
  | some false => ['+']

def writeExponent (e : Exponent) : List Char :=
  (if e.upper then 'E' else 'e') :: (signChars e.minus ++ digitChars (e.first :: e.more))

def writeDecimal (d : Decimal) : List Char :=
  (if d.negative then ['-'] else []) ++ Numeral.decimal d.whole ++
    (if d.fraction = [] then [] else '.' :: digitChars d.fraction) ++
    (d.exponent.map writeExponent).getD []

mutual

def write (style : Style) : Json → List Char
  | null => ['n', 'u', 'l', 'l']
  | bool true => ['t', 'r', 'u', 'e']
  | bool false => ['f', 'a', 'l', 's', 'e']
  | number n => Numeral.signed n
  | decimal d => writeDecimal d
  | string s => writeString style s
  | array items => '[' :: writeItems style items
  | object members => '\x7b' :: writeMembers style members
termination_by structural value => value

def writeItems (style : Style) : List Json → List Char
  | [] => [']']
  | [item] => write style item ++ [']']
  | item :: items => write style item ++ style.item ++ writeItems style items
termination_by structural items => items

def writeMembers (style : Style) : List (Text × Json) → List Char
  | [] => ['\x7d']
  | [(name, value)] => writeString style name ++ style.name ++ write style value ++ ['\x7d']
  | (name, value) :: members =>
    writeString style name ++ style.name ++ write style value ++ style.item ++
      writeMembers style members
termination_by structural members => members

end

def text (style : Style) (value : Json) : String :=
  String.ofList (write style value)

mutual

/-- The first run of surrogates in a value's strings, in the order of writing. -/
def unencodable? : Json → Option Unencodable
  | string s => s.unencodable?
  | array items => unencodableItem? items
  | object members => unencodableMember? members
  | _ => none
termination_by structural value => value

def unencodableItem? : List Json → Option Unencodable
  | [] => none
  | item :: items => (unencodable? item).or (unencodableItem? items)
termination_by structural items => items

def unencodableMember? : List (Text × Json) → Option Unencodable
  | [] => none
  | (name, value) :: members =>
    name.unencodable?.or ((unencodable? value).or (unencodableMember? members))
termination_by structural members => members

end

end Timespan.Json
