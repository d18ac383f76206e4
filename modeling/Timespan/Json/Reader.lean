import Timespan.Json.Basic
import Timespan.Text.Numeral

/-! Reading JSON text. Each reader takes what it reads off the front of a text and
returns the rest; blanks may stand around every token. A dialect says how deep
arrays and objects may stand in each other, whether an escaped surrogate may stand
outside a pair, and how wide a number may be before its point or exponent. A text
that is refused is refused for the first thing wrong with it, and `ReadError` tells
its line and column. An array or object without items never counts as too deep, for
there is nothing to go into. -/
namespace Timespan.Json

structure Dialect where
  /-- How many arrays and objects may stand around the items of another one. -/
  maxDepth : Option Nat
  /-- Surrogates may stand outside a pair. -/
  loneSurrogates : Bool
  /-- How many characters the whole part of a number may have. -/
  maxWhole : Option Nat
  /-- The minus of a number is one of these characters. -/
  minusCounts : Bool

def Dialect.lenient : Dialect := ⟨none, true, none, false⟩

/-- The dialects of texts from outside. They differ in what they make of a minus. -/
def Dialect.guarded (minusCounts : Bool) : Dialect := ⟨some 200, false, some 4300, minusCounts⟩

/-- The dialect that validation reads: a minus is not counted. -/
def Dialect.strict : Dialect := .guarded false

/-- So many arrays and objects are too many around the items of another one. -/
def Dialect.tooDeep (dialect : Dialect) (depth : Nat) : Bool :=
  match dialect.maxDepth with
  | none => false
  | some limit => limit ≤ depth

inductive Defect where
  | malformed
  | tooDeep
  | loneSurrogate
  | brokenPair
  | outOfRange
deriving DecidableEq

def Defect.message : Defect → String
  | malformed => "malformed text"
  | tooDeep => "recursion limit exceeded"
  | loneSurrogate => "lone leading surrogate in hex escape"
  | brokenPair => "unexpected end of hex escape"
  | outOfRange => "number out of range"

/-- A defect, and the text from there on. -/
structure Failure where
  defect : Defect
  rest : List Char

/-- What is read off the front of a text, and what follows it. -/
abbrev Taken (α : Type) := Except Failure (α × List Char)

def malformed {α : Type} (rest : List Char) : Taken α :=
  .error ⟨.malformed, rest⟩

def isBlank (c : Char) : Bool :=
  c = ' ' || c = '\t' || c = '\n' || c = '\r'

def skipBlanks (text : List Char) : List Char :=
  text.dropWhile isBlank

/-- The character that a letter behind a backslash stands for. -/
def unescape? (c : Char) : Option Char :=
  if c = Char.ofNat 34 ∨ c = '\\' ∨ c = '/' then some c
  else if c = 'n' then some '\n'
  else if c = 'r' then some '\r'
  else if c = 't' then some '\t'
  else if c = 'b' then some '\x08'
  else if c = 'f' then some '\x0c'
  else none

def isHigh (unit : Nat) : Bool := 0xd800 ≤ unit && unit < 0xdc00

def isLow (unit : Nat) : Bool := 0xdc00 ≤ unit && unit < 0xe000

def pair (high low : Nat) : Char :=
  Char.ofNat (0x10000 + (high - 0xd800) * 0x400 + (low - 0xdc00))

/-- A code point in front of what is read behind it. -/
def putFirst (p : CodePoint) (taken : Taken Text) : Taken Text :=
  taken.map fun (body, rest) => (p :: body, rest)

/-- A UTF-16 unit that is no half of a pair, in front of what is read behind it. -/
def putUnit (unit : Nat) (text : List Char) (taken : Taken Text) : Taken Text :=
  match CodePoint.ofNat? unit with
  | some p => putFirst p taken
  | none => malformed text

/-- What is read here, where something else than a unit follows the first half of
a pair if one is open. -/
def closeHigh (dialect : Dialect) (high : Option Nat) (text : List Char) (taken : Taken Text) :
    Taken Text :=
  match high with
  | none => taken
  | some unit =>
    if dialect.loneSurrogates then putUnit unit text taken else .error ⟨.brokenPair, text⟩

/-- The string up to its closing quote, with the first half of a pair when one is
open. -/
def stringBody (dialect : Dialect) : Option Nat → List Char → Taken Text
  | _, [] => malformed []
  | high, '\\' :: 'u' :: a :: b :: c :: d :: rest =>
    match Numeral.hex? [a, b, c, d], high with
    | none, _ => malformed (a :: b :: c :: d :: rest)
    | some unit, none =>
      if isHigh unit then stringBody dialect (some unit) rest
      else if isLow unit && !dialect.loneSurrogates then .error ⟨.loneSurrogate, d :: rest⟩
      else putUnit unit rest (stringBody dialect none rest)
    | some unit, some first =>
      if isLow unit then putFirst (.ofChar (pair first unit)) (stringBody dialect none rest)
      else if !dialect.loneSurrogates then .error ⟨.loneSurrogate, d :: rest⟩
      else if isHigh unit then putUnit first rest (stringBody dialect (some unit) rest)
      else putUnit first rest (putUnit unit rest (stringBody dialect none rest))
  | high, '\\' :: c :: rest =>
    closeHigh dialect high (c :: rest) <|
      match unescape? c with
      | some char => putFirst (.ofChar char) (stringBody dialect none rest)
      | none => malformed (c :: rest)
  | high, c :: rest =>
    closeHigh dialect high (c :: rest) <|
      if c = Char.ofNat 34 then .ok ([], rest)
      else if c.toNat < 0x20 then malformed (c :: rest)
      else putFirst (.ofChar c) (stringBody dialect none rest)

def digit? (c : Char) : Option (Fin 10) :=
  if c.isDigit then some (Fin.ofNat 10 (c.toNat - 48)) else none

def takeDigits : List Char → List (Fin 10) × List Char
  | [] => ([], [])
  | c :: rest =>
    match digit? c with
    | some d => (d :: (takeDigits rest).1, (takeDigits rest).2)
    | none => ([], c :: rest)

def digitsValue (digits : List (Fin 10)) : Nat :=
  digits.foldl (fun n d => 10 * n + d.val) 0

def takeMinus : List Char → Bool × List Char
  | '-' :: rest => (true, rest)
  | text => (false, text)

def takeFraction : List Char → Taken (List (Fin 10))
  | '.' :: rest =>
    match takeDigits rest with
    | ([], rest) => malformed rest
    | (digits, rest) => .ok (digits, rest)
  | text => .ok ([], text)

def takeSign : List Char → Option Bool × List Char
  | '-' :: rest => (some true, rest)
  | '+' :: rest => (some false, rest)
  | text => (none, text)

def takeExponent : List Char → Taken (Option Exponent)
  | [] => .ok (none, [])
  | c :: rest =>
    if c = 'e' ∨ c = 'E' then
      match takeDigits (takeSign rest).2 with
      | ([], rest) => malformed rest
      | (first :: more, after) => .ok (some ⟨c = 'E', (takeSign rest).1, first, more⟩, after)
    else .ok (none, c :: rest)

/-- A number from its parts. Without fraction and exponent it is whole. -/
def ofParts (negative : Bool) (whole : Nat) : List (Fin 10) → Option Exponent → Json
  | [], none => number (if negative then -(whole : Int) else whole)
  | [], some e => decimal ⟨negative, whole, [], some e, .inr (Option.some_ne_none e)⟩
  | d :: ds, e => decimal ⟨negative, whole, d :: ds, e, .inl (List.cons_ne_nil d ds)⟩

/-- How many characters count of a whole part with so many digits. -/
def Dialect.wholeWidth (dialect : Dialect) (negative : Bool) (digits : Nat) : Nat :=
  if dialect.minusCounts && negative then digits + 1 else digits

/-- The text of a number from where its characters count. -/
def Dialect.counted (dialect : Dialect) (text : List Char) : List Char :=
  if dialect.minusCounts then text else (takeMinus text).2

/-- What is read of a number with so wide a whole part. One that is too wide is refused
behind the first character too many. -/
def Dialect.limitWhole (dialect : Dialect) (width : Nat) (text : List Char) (taken : Taken Json) :
    Taken Json :=
  match dialect.maxWhole with
  | none => taken
  | some limit =>
    if limit < width then .error ⟨.outOfRange, (dialect.counted text).drop (limit + 1)⟩ else taken

/-- A number at the front of a text; a zero is not followed by more digits. -/
def takeNumber (dialect : Dialect) (text : List Char) : Taken Json :=
  match takeDigits (takeMinus text).2 with
  | ([], rest) => malformed rest
  | (first :: more, rest) =>
    if first = 0 ∧ more ≠ [] then malformed rest
    else
      dialect.limitWhole (dialect.wholeWidth (takeMinus text).1 (first :: more).length) text <|
        match takeFraction rest with
        | .error e => .error e
        | .ok (fraction, rest) =>
          match takeExponent rest with
          | .error e => .error e
          | .ok (exponent, rest) =>
            .ok (ofParts (takeMinus text).1 (digitsValue (first :: more)) fraction exponent, rest)

/-- The name of a member with its colon, up to the value. -/
def takeName (dialect : Dialect) : List Char → Taken Text
  | [] => malformed []
  | c :: rest =>
    if c = Char.ofNat 34 then
      match stringBody dialect none rest with
      | .error e => .error e
      | .ok (name, rest) =>
        match skipBlanks rest with
        | ':' :: rest => .ok (name, skipBlanks rest)
        | rest => malformed rest
    else malformed (c :: rest)

mutual

/-- A value that stands at a depth, behind blanks. -/
def takeValue (dialect : Dialect) : Nat → Nat → List Char → Taken Json
  | 0, _, text => malformed text
  | fuel + 1, depth, text =>
    match skipBlanks text with
    | 'n' :: 'u' :: 'l' :: 'l' :: rest => .ok (null, rest)
    | 't' :: 'r' :: 'u' :: 'e' :: rest => .ok (bool true, rest)
    | 'f' :: 'a' :: 'l' :: 's' :: 'e' :: rest => .ok (bool false, rest)
    | '[' :: rest =>
      match skipBlanks rest with
      | ']' :: rest => .ok (array [], rest)
      | rest =>
        if dialect.tooDeep depth then .error ⟨.tooDeep, rest⟩
        else (takeItems dialect fuel (depth + 1) rest).map fun (items, rest) => (array items, rest)
    | '\x7b' :: rest =>
      match skipBlanks rest with
      | '\x7d' :: rest => .ok (object [], rest)
      | rest =>
        match takeName dialect rest with
        | .error e => .error e
        | .ok (name, rest) =>
          if dialect.tooDeep depth then .error ⟨.tooDeep, rest⟩
          else (takeMembers dialect fuel (depth + 1) name rest).map
            fun (members, rest) => (object members, rest)
    | c :: rest =>
      if c = Char.ofNat 34 then
        (stringBody dialect none rest).map fun (body, rest) => (string body, rest)
      else takeNumber dialect (c :: rest)
    | [] => malformed []
termination_by structural fuel => fuel

/-- One item or more, up to the closing bracket. -/
def takeItems (dialect : Dialect) : Nat → Nat → List Char → Taken (List Json)
  | 0, _, text => malformed text
  | fuel + 1, depth, text =>
    match takeValue dialect fuel depth text with
    | .error e => .error e
    | .ok (item, rest) =>
      match skipBlanks rest with
      | ',' :: rest =>
        (takeItems dialect fuel depth rest).map fun (items, rest) => (item :: items, rest)
      | ']' :: rest => .ok ([item], rest)
      | rest => malformed rest
termination_by structural fuel => fuel

/-- The value of a name, and further members up to the closing brace. -/
def takeMembers (dialect : Dialect) : Nat → Nat → Text → List Char → Taken (List (Text × Json))
  | 0, _, _, text => malformed text
  | fuel + 1, depth, name, text =>
    match takeValue dialect fuel depth text with
    | .error e => .error e
    | .ok (value, rest) =>
      match skipBlanks rest with
      | ',' :: rest =>
        match takeName dialect (skipBlanks rest) with
        | .error e => .error e
        | .ok (next, rest) =>
          (takeMembers dialect fuel depth next rest).map
            fun (members, rest) => ((name, value) :: members, rest)
      | '\x7d' :: rest => .ok ([(name, value)], rest)
      | rest => malformed rest
termination_by structural fuel => fuel

end

/-- A defect, and the line and column where it is, both counted from 1. -/
structure ReadError where
  defect : Defect
  line : Nat
  column : Nat
deriving DecidableEq

def ReadError.message (e : ReadError) : String :=
  e.defect.message ++ " at line " ++ Numeral.text e.line ++ " column " ++ Numeral.text e.column

/-- The place of a defect between what is before it and the rest. Columns count bytes of
UTF-8. What is wrong at the end of a text is placed at its last byte. -/
def ReadError.between (defect : Defect) (before rest : List Char) : ReadError where
  defect := defect
  line := before.count '\n' + 1
  column := ((before.reverse.takeWhile (· ≠ '\n')).map Char.utf8Size).foldl (· + ·)
    (if rest = [] then 0 else 1)

/-- The value that a whole text shows. -/
def read (dialect : Dialect) (text : List Char) : Except ReadError Json :=
  let locate (f : Failure) : ReadError :=
    .between f.defect (text.take (text.length - f.rest.length)) f.rest
  match takeValue dialect (2 * text.length + 1) 0 text with
  | .error f => .error (locate f)
  | .ok (value, rest) =>
    if skipBlanks rest = [] then .ok value else .error (locate ⟨.malformed, skipBlanks rest⟩)

def parse (dialect : Dialect) (text : String) : Except ReadError Json :=
  read dialect text.toList

end Timespan.Json
