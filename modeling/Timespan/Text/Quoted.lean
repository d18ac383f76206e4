import Timespan.Text.CodePoint
import Timespan.Text.Numeral
import Timespan.Text.Printable

/-! Text in quotes, as messages show the text they refuse. The marks are single
unless that would escape marks which double ones leave alone. Whatever the text,
the quoted form has printable characters only: a backslash and the mark in use
stand behind a backslash, and the rest, surrogates included, is escaped by its
shortest escape. `read?` takes the quoted text off the front of a longer one. -/
namespace Timespan.Quoted

def singleMark : Char := Char.ofNat 39

def doubleMark : Char := Char.ofNat 34

/-- The mark around a text: double only when the text has single marks in it and
no double ones. -/
def mark (text : Text) : Char :=
  if .ofChar singleMark ∈ text ∧ .ofChar doubleMark ∉ text then doubleMark else singleMark

/-- A character within a text between such marks. -/
def escapeChar (mark c : Char) : List Char :=
  if c = mark ∨ c = '\\' then ['\\', c]
  else if c = '\t' then ['\\', 't']
  else if c = '\n' then ['\\', 'n']
  else if c = '\r' then ['\\', 'r']
  else if isPrintable c then [c]
  else if c.toNat < 0x100 then '\\' :: 'x' :: Numeral.padded 16 2 c.toNat
  else if c.toNat < 0x10000 then '\\' :: 'u' :: Numeral.padded 16 4 c.toNat
  else '\\' :: 'U' :: Numeral.padded 16 8 c.toNat

/-- A code point within a text between such marks. -/
def escape (mark : Char) (p : CodePoint) : List Char :=
  match p.char? with
  | some c => escapeChar mark c
  | none => '\\' :: 'u' :: Numeral.padded 16 4 p.val

def encode (text : Text) : List Char :=
  mark text :: (text.flatMap (escape (mark text)) ++ [mark text])

def codePoint? (digits : List Char) : Option CodePoint :=
  (Numeral.hex? digits).bind CodePoint.ofNat?

/-- The text up to the mark, and what follows the mark. -/
def body? (mark : Char) : List Char → Option (Text × List Char)
  | [] => none
  | '\\' :: 't' :: rest => (body? mark rest).map fun (text, rest) => (.ofChar '\t' :: text, rest)
  | '\\' :: 'n' :: rest => (body? mark rest).map fun (text, rest) => (.ofChar '\n' :: text, rest)
  | '\\' :: 'r' :: rest => (body? mark rest).map fun (text, rest) => (.ofChar '\r' :: text, rest)
  | '\\' :: 'x' :: a :: b :: rest => do
    let p ← codePoint? [a, b]
    let (text, rest) ← body? mark rest
    return (p :: text, rest)
  | '\\' :: 'u' :: a :: b :: c :: d :: rest => do
    let p ← codePoint? [a, b, c, d]
    let (text, rest) ← body? mark rest
    return (p :: text, rest)
  | '\\' :: 'U' :: a :: b :: c :: d :: e :: f :: g :: h :: rest => do
    let p ← codePoint? [a, b, c, d, e, f, g, h]
    let (text, rest) ← body? mark rest
    return (p :: text, rest)
  | '\\' :: c :: rest => (body? mark rest).map fun (text, rest) => (.ofChar c :: text, rest)
  | c :: rest =>
    if c = mark then some ([], rest)
    else (body? mark rest).map fun (text, rest) => (.ofChar c :: text, rest)

def read? : List Char → Option (Text × List Char)
  | [] => none
  | c :: rest => if c = singleMark ∨ c = doubleMark then body? c rest else none

end Timespan.Quoted

namespace Timespan

/-- A text in quotes. -/
def quote (text : Text) : String :=
  String.ofList (Quoted.encode text)

end Timespan
