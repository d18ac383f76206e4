import Timespan.Proofs.Interval.RoundTrip
import Timespan.Proofs.Timestamp.Unambiguous

/-! Every interval has a text in ASCII with one separator, also where the calendar in
UTC has no day for an end of it, and intervals with one text are equivalent. -/
namespace Timespan

namespace Timestamp

theorem IsWritten.ascii {c : Char} (written : IsWritten c) : c.toNat < 128 := by
  rcases written with digit | mark
  · have := (Numeral.isDigit_bounds digit).2
    omega
  · simp only [List.mem_cons, List.not_mem_nil, or_false] at mark
    rcases mark with rfl | rfl | rfl | rfl | rfl <;> decide

theorem isWritten_write (m : Moment) : ∀ c ∈ write m, IsWritten c :=
  isWritten_chars _

/-- How the text of a moment shows its offset: as +00:00 exactly when the moment has
a form in UTC, behind its wall there, and as its own behind its own wall otherwise. -/
structure ShowsOffset (m : Moment) : Prop where
  utc_iff : "+00:00".toList <:+ write m ↔ m.HasUtcForm
  utc : m.HasUtcForm → ∃ u : Moment, u.offset = .utc ∧ u ≈ m ∧
    write m = u.wall.chars ++ "+00:00".toList
  own : ¬ m.HasUtcForm → write m = m.wall.chars ++ m.offset.chars

theorem showsOffset_write (m : Moment) : ShowsOffset m where
  utc_iff := by
    have zero : "+00:00".toList = Offset.utc.chars := by decide
    rw [zero, utc_suffix_write_iff]
  utc := by
    intro inside
    obtain ⟨u, utc, same⟩ := Moment.exists_utc_iff.mp inside
    refine ⟨u, utc, same, ?_⟩
    rw [write_eq_chars utc same, Moment.chars, utc]
    rfl
  own := write_eq_own_chars

end Timestamp

namespace Interval

theorem toList_format (x : Interval) :
    x.format.toList = Timestamp.write x.start ++ separator :: Timestamp.write x.stop :=
  String.toList_ofList

theorem ascii_format (x : Interval) : ∀ c ∈ x.format.toList, c.toNat < 128 := by
  have mark : separator.toNat < 128 := by decide
  rw [toList_format, List.forall_mem_append, List.forall_mem_cons]
  exact ⟨fun c member => (Timestamp.isWritten_write _ c member).ascii, mark,
    fun c member => (Timestamp.isWritten_write _ c member).ascii⟩

theorem count_separator_format (x : Interval) : x.format.toList.count separator = 1 := by
  have none (m : Moment) : (Timestamp.write m).count separator = 0 :=
    List.count_eq_zero.mpr (separator_not_mem_write m)
  rw [toList_format, List.count_append, List.count_cons_self, none, none]

theorem equiv_of_format_eq {a b : Interval} (same : a.format = b.format) : a ≈ b := by
  have text : a.toText = b.toText := congrArg Text.ofChars (String.ofList_injective same)
  rw [toText_eq_sides, toText_eq_sides] at text
  obtain ⟨starts, stops⟩ := sides_injective (slash_not_mem_write _) (slash_not_mem_write _) text
  exact equiv_iff.mpr ⟨Timestamp.instant_eq_of_write_eq (Text.ofChars_injective starts),
    Timestamp.instant_eq_of_write_eq (Text.ofChars_injective stops)⟩

/-- The text of an interval is that of its start, one slash, and that of its stop,
all in ASCII. Each end shows the offset +00:00 if it has a form in UTC and its own
if not, and only equivalent intervals share a text. -/
theorem format_unambiguous (a b : Interval) :
    (a.format.toList = Timestamp.write a.start ++ '/' :: Timestamp.write a.stop ∧
      (∀ c ∈ a.format.toList, c.toNat < 128) ∧ a.format.toList.count '/' = 1) ∧
    (Timestamp.ShowsOffset a.start ∧ Timestamp.ShowsOffset a.stop) ∧
    (a.format = b.format → a ≈ b) :=
  ⟨⟨toList_format a, ascii_format a, count_separator_format a⟩,
    ⟨Timestamp.showsOffset_write a.start, Timestamp.showsOffset_write a.stop⟩, equiv_of_format_eq⟩

/-- From before the calendar in UTC, at an offset of a second and a microsecond, to
one midnight at two offsets. -/
theorem format_unambiguous_of_offsets :
    let start : Moment := .onDay .first 0 0 ⟨1000001, by decide, by decide⟩
    let a : Interval := ⟨start, .onLeapDay 0 0⟩
    let b : Interval := ⟨start, .onDay .leapDay 0 30 ⟨1800000000, by decide, by decide⟩⟩
    let text : String := "0001-01-01T00:00:00+00:00:01.000001/2000-02-29T00:00:00+00:00"
    ¬ start.HasUtcForm ∧ a.format = text ∧ b.format = text ∧ a ≈ b := by
  intro start a b text
  have first : a.format = text := by decide +kernel
  have second : b.format = text := by decide +kernel
  have beyond : ¬ start.HasUtcForm := by decide
  obtain ⟨-, -, apart⟩ := format_unambiguous a b
  exact ⟨beyond, first, second, apart (first.trans second.symm)⟩

end Interval

end Timespan
