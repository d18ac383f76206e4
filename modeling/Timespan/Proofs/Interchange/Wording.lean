import Timespan.Interchange.Field
import Timespan.Proofs.Text.Digits
import Timespan.Proofs.Text.Quoted

/-! What is said about a text that is no interval, on the log and in the refusal of a
field. It has printable characters only, and quotes the text so that it is read back. -/
namespace Timespan

/-- The message has printable characters only. -/
def Printable (message : String) : Prop :=
  ∀ c ∈ message.toList, isPrintable c

instance (message : String) : Decidable (Printable message) :=
  decidable_of_iff (message.toList.all isPrintable) List.all_eq_true

theorem Printable.append {a b : String} (first : Printable a) (second : Printable b) :
    Printable (a ++ b) := by
  rw [Printable, String.toList_append, List.forall_mem_append]
  exact ⟨first, second⟩

theorem printable_quote (text : Text) : Printable (quote text) := by
  rw [Printable, quote, String.toList_ofList]
  exact fun c => Quoted.isPrintable_of_mem_encode

theorem isPrintable_of_isDigit {c : Char} (digit : c.isDigit) : isPrintable c := by
  have bounds := Numeral.isDigit_bounds digit
  rw [isPrintable, if_pos (by omega), Bool.and_eq_true, decide_eq_true_eq, decide_eq_true_eq]
  omega

theorem printable_text (n : Int) : Printable (Numeral.text n) := by
  have digits : ∀ c ∈ Numeral.decimal n.natAbs, isPrintable c := fun c member =>
    isPrintable_of_isDigit (Nat.isDigit_of_mem_toDigits (by decide) (by decide) member)
  rw [Printable, Numeral.text, String.toList_ofList, Numeral.signed]
  split
  · exact List.forall_mem_cons.mpr ⟨by decide, digits⟩
  · exact digits

theorem FieldFault.printable_message (fault : FieldFault) : Printable fault.message := by
  cases fault with
  | year n =>
    have opening : Printable "year " := by decide
    have closing : Printable " is out of range" := by decide
    exact (opening.append (printable_text n)).append closing
  | month | day | hour | minute | second | microsecond => decide

theorem Timestamp.Error.printable_message (e : Timestamp.Error) : Printable e.message := by
  cases e with
  | notRfc3339 text =>
    have opening : Printable "Not an RFC 3339 timestamp: " := by decide
    exact opening.append (printable_quote text)
  | outOfRange text =>
    have opening : Printable "Timestamp out of range: " := by decide
    exact opening.append (printable_quote text)
  | field fault => exact fault.printable_message
  | notAscii | offsetMinutes | offsetHours | hour24 => decide

/-- The text that a message quotes behind its opening words. -/
def quotedBehind? (opening message : String) : Option Text :=
  (Quoted.read? (message.toList.drop opening.length)).map Prod.fst

theorem quotedBehind?_append (opening : String) (text : Text) (rest : String) :
    quotedBehind? opening (opening ++ quote text ++ rest) = some text := by
  have behind : (opening ++ quote text ++ rest).toList.drop opening.length =
      Quoted.encode text ++ rest.toList := by
    rw [String.toList_append, String.toList_append, quote, String.toList_ofList, List.append_assoc]
    exact List.drop_left' String.length_toList
  rw [quotedBehind?, behind, Quoted.read?_encode_append]
  rfl

/-- The message quotes the text behind its opening words, from where it is read back,
and nothing in the message is but shown. -/
structure Quotes (opening : String) (text : Text) (message : String) : Prop where
  read : quotedBehind? opening message = some text
  printable : Printable message
  shown : ∀ c ∈ message.toList, ¬ IsHidden c

theorem Quotes.of_printable {opening rest : String} (text : Text) (first : Printable opening)
    (last : Printable rest) : Quotes opening text (opening ++ quote text ++ rest) where
  read := quotedBehind?_append opening text rest
  printable := (first.append (printable_quote text)).append last
  shown c member :=
    not_isHidden_of_isPrintable ((first.append (printable_quote text)).append last c member)

theorem Quotes.text_eq {opening message : String} {s t : Text} (first : Quotes opening s message)
    (second : Quotes opening t message) : s = t :=
  Option.some.inj (first.read.symm.trans second.read)

namespace Interval

theorem TextError.printable_reason (e : TextError) : Printable e.reason := by
  cases e with
  | separators _ count =>
    have opening : Printable "expected exactly one '/', got " := by decide
    exact opening.append (printable_text count)
  | edge _ _ cause => exact cause.printable_message

theorem TextError.quotes_message (e : TextError) :
    Quotes "Invalid time interval " e.text e.message := by
  have closing : Printable (": " ++ e.reason) :=
    Printable.append (by decide) e.printable_reason
  have joined : e.message = "Invalid time interval " ++ quote e.text ++ (": " ++ e.reason) :=
    String.append_assoc
  rw [joined]
  exact .of_printable e.text (by decide) closing

theorem quotes_message_of_field (e : TextError) :
    Quotes "invalid value " e.text (FieldError.text e).message := by
  have closing : Printable (", expected " ++ expectedFormat) := by decide
  have joined : (FieldError.text e).message =
      "invalid value " ++ quote e.text ++ (", expected " ++ expectedFormat) :=
    String.append_assoc
  rw [joined]
  exact .of_printable e.text (by decide) closing

section Refused

variable {text : Text} {e : TextError}

theorem text_of_parse (refused : parse text = .error e) : e.text = text := by
  unfold parse at refused
  repeat' split at refused
  all_goals
    cases refused
    try rfl

/-- A field that is offered a text logs its refusal and is refused over it. -/
theorem ofCandidate_of_parse (refused : parse text = .error e) :
    ofCandidate (.json (.string text)) = ⟨[e], .error (.text e)⟩ := by
  rw [ofCandidate, refused]

/-- What is said of a text that is no interval, whatever it is. Offered to a field, it
is logged and refused in the same words as by the reader, and the field is refused
besides. Both messages quote the text so that it is read back from them, have
printable characters only, and so tell the refused texts apart. -/
theorem refused_text_quoted_recoverably (refused : parse text = .error e) :
    ofCandidate (.json (.string text)) = ⟨[e], .error (.text e)⟩ ∧
    (Quotes "Invalid time interval " text e.message ∧
      Quotes "invalid value " text (FieldError.text e).message) ∧
    ∀ (other : Text) (f : TextError), parse other = .error f → other ≠ text →
      f.message ≠ e.message ∧ (FieldError.text f).message ≠ (FieldError.text e).message := by
  have quoted {s : Text} {f : TextError} (failed : parse s = .error f) :
      Quotes "Invalid time interval " s f.message ∧
        Quotes "invalid value " s (FieldError.text f).message := by
    rw [← text_of_parse failed]
    exact ⟨f.quotes_message, quotes_message_of_field f⟩
  refine ⟨ofCandidate_of_parse refused, quoted refused, ?_⟩
  intro other f failed different
  constructor
  · intro same
    exact different ((same ▸ (quoted failed).1).text_eq (quoted refused).1)
  · intro same
    exact different ((same ▸ (quoted failed).2).text_eq (quoted refused).2)

/-- A text with a line break, both kinds of marks, a paragraph separator and half of a
pair, and one that spells out how the first is quoted. -/
theorem refused_text_quoted_recoverably_of_line_break :
    let text : Text := Text.ofString "2000-01-01T00:00:00Z\n/'\"\u2029" ++ [⟨0xd800, by decide⟩]
    let other : Text := .ofString "2000-01-01T00:00:00Z\\n/'\"\\u2029\\ud800"
    let e : TextError := .edge text .start (.notRfc3339 (.ofString "2000-01-01T00:00:00Z\n"))
    let f : TextError := .edge other .start (.notRfc3339 (.ofString "2000-01-01T00:00:00Z\\n"))
    (parse text = .error e ∧ parse other = .error f ∧ other ≠ text) ∧
      e.message = "Invalid time interval '2000-01-01T00:00:00Z\\n/\\'\"\\u2029\\ud800': " ++
        "Not an RFC 3339 timestamp: '2000-01-01T00:00:00Z\\n'" ∧
      Quotes "Invalid time interval " text e.message ∧
      Quotes "invalid value " text (FieldError.text e).message ∧ f.message ≠ e.message := by
  intro text other e f
  have first : parse text = .error e := rfl
  have second : parse other = .error f := rfl
  have different : other ≠ text := by decide
  obtain ⟨-, ⟨reading, field⟩, apart⟩ := refused_text_quoted_recoverably first
  exact ⟨⟨first, second, different⟩, by decide +kernel, reading, field,
    (apart other f second different).1⟩

end Refused

end Interval

end Timespan
