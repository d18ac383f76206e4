import Timespan.Proofs.Json.Strings

/-! Surrogates that stand for a character together. An escaped text does not tell a pair
from the character, so a value has the same text as the value with its pairs joined. -/
namespace Timespan

open Json

theorem CodePoint.isSurrogate_eq (p : CodePoint) : p.isSurrogate = (isHigh p.val || isLow p.val) := by
  have limit := p.lt
  simp only [isSurrogate, char?, isHigh, isLow, Nat.isValidChar]
  split
  · next valid =>
    simp only [Option.isNone_some, Bool.false_eq, Bool.or_eq_false_iff, Bool.and_eq_false_iff,
      decide_eq_false_iff_not]
    omega
  · next invalid =>
    simp only [Option.isNone_none, Bool.true_eq, Bool.or_eq_true, Bool.and_eq_true,
      decide_eq_true_eq]
    omega

theorem CodePoint.toNat_of_char? {p : CodePoint} {c : Char} (h : p.char? = some c) :
    c.toNat = p.val :=
  congrArg val (ofChar_of_char? h)

namespace Text

/-- Every high surrogate directly before a low one replaced, with it, by the
character that the two encode. -/
def joined : Text → Text
  | [] => []
  | [p] => [p]
  | p :: q :: rest =>
    if isHigh p.val && isLow q.val then .ofChar (pair p.val q.val) :: joined rest
    else p :: joined (q :: rest)

theorem joined_eq_self {s : Text} (encodable : s.unencodable? = none) : s.joined = s := by
  rw [unencodable?_eq_none_iff] at encodable
  induction s with
  | nil => rfl
  | cons p s ih =>
    rw [List.forall_mem_cons, CodePoint.isSurrogate_eq, Bool.or_eq_false_iff] at encodable
    cases s with
    | nil => rfl
    | cons q rest =>
      rw [joined, encodable.1.1, Bool.false_and, if_neg Bool.false_ne_true, ih encodable.2]

end Text

namespace Json

theorem lt_of_isHigh {n : Nat} (high : isHigh n) : n < 0x10000 := by
  simp only [isHigh, Bool.and_eq_true, decide_eq_true_eq] at high
  omega

theorem lt_of_isLow {n : Nat} (low : isLow n) : n < 0x10000 := by
  simp only [isLow, Bool.and_eq_true, decide_eq_true_eq] at low
  omega

theorem escape_half (ascii : Bool) {p : CodePoint} (half : isHigh p.val ∨ isLow p.val) :
    escape ascii p = escapeUnit p.val := by
  have surrogate : p.isSurrogate := by rwa [p.isSurrogate_eq, Bool.or_eq_true]
  rw [CodePoint.isSurrogate, Option.isNone_iff_eq_none] at surrogate
  rw [escape, surrogate]

theorem toNat_pair {high low : Nat} (h : isHigh high) (l : isLow low) :
    (pair high low).toNat = 0x10000 + (high - 0xd800) * 0x400 + (low - 0xdc00) := by
  simp only [isHigh, isLow, Bool.and_eq_true, decide_eq_true_eq] at h l
  have limit : 0x10000 + (high - 0xd800) * 0x400 + (low - 0xdc00) < 0x110000 := by omega
  have valid : (0x10000 + (high - 0xd800) * 0x400 + (low - 0xdc00)).isValidChar := by
    simp only [Nat.isValidChar]
    omega
  exact CodePoint.toNat_of_char? (p := ⟨_, limit⟩) (if_pos valid)

/-- A pair is escaped unit by unit, as the character that it encodes. -/
theorem escape_pair {high low : Nat} (h : isHigh high) (l : isLow low) :
    escape true (.ofChar (pair high low)) = escapeUnit high ++ escapeUnit low := by
  have value := toNat_pair h l
  simp only [isHigh, isLow, Bool.and_eq_true, decide_eq_true_eq] at h l
  have ne : ∀ c : Char, c.toNat < 0x10000 → pair high low ≠ c := by
    rintro _ small rfl
    omega
  have first : 0xd800 + ((pair high low).toNat - 0x10000) / 0x400 = high := by
    rw [value]
    omega
  have second : 0xdc00 + ((pair high low).toNat - 0x10000) % 0x400 = low := by
    rw [value]
    omega
  rw [escape, CodePoint.char?_ofChar]
  simp only [escapeChar, ne quoteMark (by decide), ne '\\' (by decide), ne '\n' (by decide),
    ne '\r' (by decide), ne '\t' (by decide), ne '\x08' (by decide), ne '\x0c' (by decide),
    or_self, if_false]
  rw [if_pos (.inr ⟨trivial, by omega⟩), escapeUnits, if_neg (by omega), first, second]

theorem flatMap_escape_joined (s : Text) :
    s.joined.flatMap (escape true) = s.flatMap (escape true) := by
  fun_induction Text.joined s with
  | case1 => rfl
  | case2 p => rfl
  | case3 p q rest halves ih =>
    rw [Bool.and_eq_true] at halves
    rw [List.flatMap_cons, ih, escape_pair halves.1 halves.2, List.flatMap_cons, List.flatMap_cons,
      escape_half true (.inl halves.1), escape_half true (.inr halves.2), List.append_assoc]
  | case4 p q rest _ ih => rw [List.flatMap_cons, ih, ← List.flatMap_cons]

mutual

/-- A value with the pairs in its strings joined. -/
def joined : Json → Json
  | string s => string s.joined
  | array items => array (joinedItems items)
  | object members => object (joinedMembers members)
  | v => v
termination_by structural value => value

def joinedItems : List Json → List Json
  | [] => []
  | item :: items => joined item :: joinedItems items
termination_by structural items => items

def joinedMembers : List (Text × Json) → List (Text × Json)
  | [] => []
  | (name, value) :: members => (name.joined, joined value) :: joinedMembers members
termination_by structural members => members

end

mutual

theorem joined_eq_self {v : Json} (encodable : v.unencodable? = none) : v.joined = v := by
  cases v with
  | null | bool | number | decimal => rfl
  | string s => rw [joined, Text.joined_eq_self encodable]
  | array items => rw [joined, joinedItems_eq_self encodable]
  | object members => rw [joined, joinedMembers_eq_self encodable]

theorem joinedItems_eq_self {items : List Json} (encodable : unencodableItem? items = none) :
    joinedItems items = items := by
  cases items with
  | nil => rfl
  | cons item items =>
    rw [unencodableItem?, Option.or_eq_none_iff] at encodable
    rw [joinedItems, joined_eq_self encodable.1, joinedItems_eq_self encodable.2]

theorem joinedMembers_eq_self {members : List (Text × Json)}
    (encodable : unencodableMember? members = none) : joinedMembers members = members := by
  cases members with
  | nil => rfl
  | cons member members =>
    obtain ⟨name, value⟩ := member
    simp only [unencodableMember?, Option.or_eq_none_iff] at encodable
    rw [joinedMembers, Text.joined_eq_self encodable.1, joined_eq_self encodable.2.1,
      joinedMembers_eq_self encodable.2.2]

end

section Written

variable {style : Style}

theorem writeString_joined (ascii : style.ascii = true) (s : Text) :
    writeString style s.joined = writeString style s := by
  rw [writeString, writeString, ascii, flatMap_escape_joined]

mutual

theorem write_joined (ascii : style.ascii = true) (v : Json) :
    write style v.joined = write style v := by
  cases v with
  | null | bool | number | decimal => rfl
  | string s => rw [joined, write, write, writeString_joined ascii]
  | array items => rw [joined, write, write, writeItems_joined ascii]
  | object members => rw [joined, write, write, writeMembers_joined ascii]

theorem writeItems_joined (ascii : style.ascii = true) (items : List Json) :
    writeItems style (joinedItems items) = writeItems style items := by
  match items with
  | [] => rfl
  | [item] => rw [joinedItems, joinedItems, writeItems, writeItems, write_joined ascii]
  | item :: next :: items =>
    have rest := writeItems_joined ascii (next :: items)
    change write style item.joined ++ style.item ++ writeItems style (joinedItems (next :: items)) =
      write style item ++ style.item ++ writeItems style (next :: items)
    rw [write_joined ascii, rest]

theorem writeMembers_joined (ascii : style.ascii = true) (members : List (Text × Json)) :
    writeMembers style (joinedMembers members) = writeMembers style members := by
  match members with
  | [] => rfl
  | [(name, value)] =>
    rw [joinedMembers, joinedMembers, writeMembers, writeMembers, writeString_joined ascii,
      write_joined ascii]
  | (name, value) :: next :: members =>
    have rest := writeMembers_joined ascii (next :: members)
    change writeString style name.joined ++ style.name ++ write style value.joined ++ style.item ++
        writeMembers style (joinedMembers (next :: members)) =
      writeString style name ++ style.name ++ write style value ++ style.item ++
        writeMembers style (next :: members)
    rw [writeString_joined ascii, write_joined ascii, rest]

end

end Written

end Json

end Timespan
