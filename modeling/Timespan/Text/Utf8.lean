import Timespan.Text.CodePoint
import Timespan.Text.Numeral

/-! Texts as bytes in UTF-8, which has no form for surrogates. A text with
surrogates is refused for the first run of them. -/
namespace Timespan

/-- The first run of surrogates in a text: how far in it starts, how long it is,
and its first code point. -/
structure Unencodable where
  start : Nat
  count : Nat
  first : CodePoint
deriving DecidableEq

def Unencodable.message (e : Unencodable) : String :=
  if e.count = 1 then
    "'utf-8' codec can't encode character '\\u" ++ String.ofList (Numeral.padded 16 4 e.first.val) ++
      "' in position " ++ Numeral.text e.start ++ ": surrogates not allowed"
  else
    "'utf-8' codec can't encode characters in position " ++ Numeral.text e.start ++ "-" ++
      Numeral.text (e.start + e.count - 1) ++ ": surrogates not allowed"

namespace Text

def unencodable? (t : Text) : Option Unencodable :=
  match t.dropWhile (!·.isSurrogate) with
  | [] => none
  | p :: rest =>
    some ⟨(t.takeWhile (!·.isSurrogate)).length, (rest.takeWhile (·.isSurrogate)).length + 1, p⟩

def utf8 (t : Text) : Except Unencodable ByteArray :=
  match t.unencodable? with
  | some e => .error e
  | none => .ok (String.ofList (t.filterMap CodePoint.char?)).toUTF8

end Text

end Timespan
