import Timespan.Proofs.Interchange.Holdings
import Timespan.Proofs.Interchange.Validation
import Timespan.Proofs.Json.RoundTrip

/-! Records written and read back, as values and as texts. A record comes back when all
its intervals have a form in UTC; otherwise each that has none is refused at its own
place. -/
namespace Timespan

namespace Model

variable {α : Type} [Model α] {m : α}

/-- The text of a record says what its value says. -/
theorem restore_eq_ok_ofJson (readable : (toJson m).Readable false) :
    restore m = .ok (ofJson (toJson m)) := by
  have read : Json.parse .strict ((toJson m).text .compact) = .ok (toJson m) :=
    Json.parse_text_of_readable Json.readable_compact readable
  rw [restore, toText, readable.encodable]
  simp only [Except.map, ofText, read]

theorem encodable_of_restore {r : Report (List Issue) α} (restored : restore m = .ok r) :
    (toJson m).unencodable? = none := by
  rw [restore, toText] at restored
  split at restored
  · contradiction
  · assumption

end Model

theorem Interval.unencodable?_toJson (x : Interval) : x.toJson.unencodable? = none :=
  Text.unencodable?_ofChars _

theorem Interval.fitsAt_toJson {depth : Nat} (x : Interval) (room : depth ≤ 200) :
    Json.FitsAt (.guarded false) depth x.toJson :=
  Json.fitsAt_guarded_of_plain room x.unencodable?_toJson rfl rfl

namespace Activity

def holdings (a : Activity) : List Holding :=
  [⟨[.field "period"], a.period⟩]

theorem toJson_eq_record (a : Activity) : Model.toJson a =
    .record [("name", .string a.name), ("period", a.period.toJson)] := rfl

theorem unencodable?_toJson_eq_none_iff {a : Activity} :
    (Model.toJson a).unencodable? = none ↔ ∀ p ∈ a.name, p.isSurrogate = false := by
  rw [toJson_eq_record, Json.unencodable?_record_eq_none_iff, ← Text.unencodable?_eq_none_iff]
  simp [Json.unencodable?, Interval.unencodable?_toJson]

theorem readable_toJson {a : Activity} (clean : ∀ p ∈ a.name, p.isSurrogate = false) :
    (Model.toJson a).Readable false := by
  have name : Json.FitsAt (.guarded false) 1 (.string a.name) :=
    Json.fitsAt_guarded_of_plain (by decide) (Text.unencodable?_eq_none_iff.mpr clean) rfl rfl
  have period : Json.FitsAt (.guarded false) 1 a.period.toJson :=
    a.period.fitsAt_toJson (by decide)
  rw [Json.readable_iff_fitsAt, toJson_eq_record, Json.fitsAt_record_iff]
  refine ⟨Json.within_some_iff.mpr (Nat.zero_le _), ?_⟩
  simp only [List.forall_mem_cons, name, period, true_and]
  exact nofun

theorem equiv_of_shownBy {a b : Activity} (shown : b.ShownBy (Model.toJson a)) : b ≈ a := by
  obtain ⟨members, record, name, period, found, reads⟩ := shown
  cases record
  have sameName : Json.string a.name = .string b.name :=
    Option.some.inj (Json.offers_iff.mp name)
  have samePeriod : a.period.toJson = period := Option.some.inj (Json.offers_iff.mp found)
  cases samePeriod
  exact ⟨(Json.string.inj sameName).symm, Interval.equiv_of_reads reads⟩

theorem checks_toJson (a : Activity) :
    checks (Model.toJson a) = ⟨[.field "name"], none⟩ :: a.holdings.map Holding.check := by
  have found : checks (Model.toJson a) =
      [⟨[.field "name"], Json.requiredProblem? Json.textProblem? (some (.string a.name))⟩,
        ⟨[.field "period"], Json.requiredProblem? Json.intervalProblem? (some a.period.toJson)⟩] :=
    rfl
  rw [found, holdings, List.map_singleton, Holding.check]
  simp only [Json.requiredProblem?, Json.textProblem?]

theorem restores (a : Activity) :
    (Model.ofJson (Model.toJson a) : Report (List Issue) Activity).Restores a a.holdings := by
  have tells := tells_ofJson (Model.toJson a)
  rw [checks_toJson] at tells
  refine Report.Tells.restores (tells.of_clean [] rfl) ?_ (List.nodup_singleton _)
  intro b valid
  exact equiv_of_shownBy (ofJson_eq_ok_iff.mp valid)

end Activity

namespace Schedule

/-- The slots by their numbers, then the fallback if there is one. -/
def holdings (s : Schedule) : List Holding :=
  (s.slots.zipIdx.map fun (x, n) => ⟨[.field "slots", .index n], x⟩) ++
    (s.fallback.map fun x => ⟨[.field "fallback"], x⟩).toList

theorem toJson_eq_record (s : Schedule) : Model.toJson s =
    .record [("slots", .array (s.slots.map Interval.toJson)),
      ("fallback", (s.fallback.map Interval.toJson).getD .null)] := rfl

theorem readable_toJson (s : Schedule) : (Model.toJson s).Readable false := by
  have slots : Json.FitsAt (.guarded false) 1 (.array (s.slots.map Interval.toJson)) := by
    rw [Json.fitsAt_array_iff, List.forall_mem_map]
    exact ⟨Json.within_some_iff.mpr (by decide), fun x _ => x.fitsAt_toJson (by decide)⟩
  have fallback : Json.FitsAt (.guarded false) 1 ((s.fallback.map Interval.toJson).getD .null) := by
    cases s.fallback with
    | none => exact Json.fitsAt_guarded_of_plain (by decide) rfl rfl rfl
    | some x => exact x.fitsAt_toJson (by decide)
  rw [Json.readable_iff_fitsAt, toJson_eq_record, Json.fitsAt_record_iff]
  refine ⟨Json.within_some_iff.mpr (Nat.zero_le _), ?_⟩
  simp only [List.forall_mem_cons, slots, fallback, true_and]
  exact nofun

/-- The checks of a schedule's own value are those of its holdings, and one of a
null that stands for no fallback. -/
theorem checks_toJson (s : Schedule) : checks (Model.toJson s) =
    s.holdings.map Holding.check ++
      match s.fallback with
      | none => [⟨[.field "fallback"], none⟩]
      | some _ => [] := by
  have found : checks (Model.toJson s) =
      Json.rowChecks "slots" (some (.array (s.slots.map Interval.toJson))) ++
        [⟨[.field "fallback"], ((s.fallback.map Interval.toJson).getD .null).nullableProblem?⟩] :=
    rfl
  have slots : Json.rowChecks "slots" (some (.array (s.slots.map Interval.toJson))) =
      (s.slots.zipIdx.map fun (x, n) => (⟨[.field "slots", .index n], x⟩ : Holding)).map
        Holding.check := by
    rw [Json.rowChecks, List.zipIdx_map, List.map_map, List.map_map]
    rfl
  rw [found, slots, holdings, List.map_append]
  cases s.fallback with
  | none => simp [Json.nullableProblem?]
  | some x => simp [Holding.check, Json.nullableProblem?, Interval.toJson]

theorem tells_toJson (s : Schedule) :
    (Model.ofJson (Model.toJson s) : Report (List Issue) Schedule).Tells
      (s.holdings.map Holding.check) := by
  have tells := tells_ofJson (Model.toJson s)
  rw [checks_toJson] at tells
  cases fallback : s.fallback with
  | none =>
    rw [fallback] at tells
    have clean := tells.of_clean _ rfl
    rwa [List.append_nil] at clean
  | some x =>
    rw [fallback] at tells
    rwa [List.append_nil] at tells

theorem equiv_of_shownBy {s t : Schedule} (shown : t.ShownBy (Model.toJson s)) : t ≈ s := by
  obtain ⟨members, items, last, record, slots, reads, offered, fallback⟩ := shown
  cases record
  have given : Json.array (s.slots.map Interval.toJson) = .array items :=
    Option.some.inj (Json.offers_iff.mp slots)
  have held : some ((s.fallback.map Interval.toJson).getD .null) = last :=
    Json.offers_iff.mp offered
  cases given
  cases held
  rw [List.forall₂_map_left_iff] at reads
  constructor
  · have same : List.Forall₂ (· = ·) (s.slots.map Interval.instants)
        (t.slots.map Interval.instants) := by
      rw [List.forall₂_map_left_iff, List.forall₂_map_right_iff]
      exact reads.imp fun x y read => Eq.symm (Interval.equiv_of_reads read)
    rw [List.forall₂_eq_eq_eq] at same
    exact same.symm
  · exact Interval.instants_eq_of_readsNullable fallback

theorem nodup_place_holdings (s : Schedule) : (s.holdings.map Holding.place).Nodup := by
  have places := nodup_place_checks (Model.toJson s)
  rw [checks_toJson, List.map_append, List.map_map] at places
  exact places.of_append_left

theorem restores (s : Schedule) :
    (Model.ofJson (Model.toJson s) : Report (List Issue) Schedule).Restores s s.holdings := by
  refine (tells_toJson s).restores ?_ (nodup_place_holdings s)
  intro t valid
  exact equiv_of_shownBy (ofJson_eq_ok_iff.mp valid)

end Schedule

/-- Records survive exactly when their intervals have a form in UTC, whichever way
they are read back: the text is read as the value is, which for an activity takes
a name without surrogates. -/
theorem records_survive_iff_utc :
    (∀ a : Activity,
      (Model.restore a = .ok (Model.ofJson (Model.toJson a)) ↔ ∀ p ∈ a.name, p.isSurrogate = false) ∧
        (Model.ofJson (Model.toJson a) : Report (List Issue) Activity).Restores a a.holdings) ∧
    (∀ s : Schedule, Model.restore s = .ok (Model.ofJson (Model.toJson s)) ∧
      (Model.ofJson (Model.toJson s) : Report (List Issue) Schedule).Restores s s.holdings) := by
  constructor
  · intro a
    refine ⟨⟨fun restored => ?_, fun clean => ?_⟩, a.restores⟩
    · exact Activity.unencodable?_toJson_eq_none_iff.mp (Model.encodable_of_restore restored)
    · exact Model.restore_eq_ok_ofJson (Activity.readable_toJson clean)
  · intro s
    exact ⟨Model.restore_eq_ok_ofJson s.readable_toJson, s.restores⟩

end Timespan
