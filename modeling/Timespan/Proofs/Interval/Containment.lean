import Timespan.Proofs.Interval.Equivalence

/-! Containment as a partial order up to equivalence, of all intervals, inverted ones
included. The overlap of two intervals is their greatest lower bound and the hull their
least upper bound. -/
namespace Timespan.Interval

variable {a b c i u : Interval}

theorem contains_refl (a : Interval) : a.Contains a :=
  ⟨Int.le_refl a.start.instant, Int.le_refl a.stop.instant⟩

theorem contains_trans (outer : a.Contains b) (inner : b.Contains c) : a.Contains c :=
  ⟨Int.le_trans outer.1 inner.1, Int.le_trans inner.2 outer.2⟩

theorem contains_antisymm (outer : a.Contains b) (inner : b.Contains a) : a ≈ b :=
  equiv_iff.mpr ⟨Int.le_antisymm outer.1 inner.1, Int.le_antisymm inner.2 outer.2⟩

theorem contains_of_equiv (same : a ≈ b) : a.Contains b :=
  (contains_congr (Setoid.refl a) same).mp (contains_refl a)

theorem overlap_contains_iff : (a.overlap b).Contains c ↔ a.Contains c ∧ b.Contains c := by
  simp only [Contains, overlap, Moment.le_iff, Moment.instant_later, Moment.instant_earlier]
  omega

theorem contains_hull_iff : c.Contains (a.hull b) ↔ c.Contains a ∧ c.Contains b := by
  simp only [Contains, hull, Moment.le_iff, Moment.instant_later, Moment.instant_earlier]
  omega

/-- The greatest of the intervals that two others both contain. -/
structure IsMeet (i a b : Interval) : Prop where
  left : a.Contains i
  right : b.Contains i
  greatest : ∀ c : Interval, a.Contains c → b.Contains c → i.Contains c

/-- The least of the intervals that contain two others. -/
structure IsJoin (u a b : Interval) : Prop where
  left : u.Contains a
  right : u.Contains b
  least : ∀ c : Interval, c.Contains a → c.Contains b → c.Contains u

theorem isMeet_overlap (a b : Interval) : IsMeet (a.overlap b) a b where
  left := (overlap_contains_iff.mp (contains_refl _)).1
  right := (overlap_contains_iff.mp (contains_refl _)).2
  greatest := fun _ inA inB => overlap_contains_iff.mpr ⟨inA, inB⟩

theorem isJoin_hull (a b : Interval) : IsJoin (a.hull b) a b where
  left := (contains_hull_iff.mp (contains_refl _)).1
  right := (contains_hull_iff.mp (contains_refl _)).2
  least := fun _ overA overB => contains_hull_iff.mpr ⟨overA, overB⟩

theorem isMeet_of_inter? (found : a.inter? b = some i) : IsMeet i a b := by
  obtain ⟨-, rfl⟩ := inter?_eq_some_iff.mp found
  exact isMeet_overlap a b

theorem isJoin_of_union? (joined : a.union? b = some u) : IsJoin u a b := by
  obtain ⟨-, rfl⟩ := union?_eq_some_iff.mp joined
  exact isJoin_hull a b

/-- What lies in an interval is what it shares with it. -/
theorem overlap_equiv_right_iff : a.overlap b ≈ b ↔ a.Contains b := by
  have meet := isMeet_overlap a b
  constructor
  · intro same
    exact contains_trans meet.left (contains_of_equiv same)
  · intro inside
    exact contains_antisymm (meet.greatest b inside (contains_refl b)) meet.right

/-- What lies in an interval adds nothing to it. -/
theorem hull_equiv_left_iff : a.hull b ≈ a ↔ a.Contains b := by
  have join := isJoin_hull a b
  constructor
  · intro same
    exact contains_trans (contains_of_equiv (Setoid.symm same)) join.right
  · intro inside
    exact contains_antisymm join.left (join.least a (contains_refl a) inside)

section Proper

/- `proper`: the inner interval takes in an instant. -/
variable (proper : b.start < b.stop)
include proper

theorem contains_iff_inter? : a.Contains b ↔ ∃ i, a.inter? b = some i ∧ i ≈ b := by
  constructor
  · intro inside
    have same := overlap_equiv_right_iff.mpr inside
    obtain ⟨starts, stops⟩ := equiv_iff.mp same
    have shared := (Moment.lt_congr starts stops).mpr proper
    exact ⟨a.overlap b, inter?_eq_some_iff.mpr ⟨shared, rfl⟩, same⟩
  · rintro ⟨i, found, same⟩
    obtain ⟨-, rfl⟩ := inter?_eq_some_iff.mp found
    exact overlap_equiv_right_iff.mp same

theorem contains_iff_union? : a.Contains b ↔ ∃ u, a.union? b = some u ∧ u ≈ a := by
  constructor
  · intro inside
    have near : b.start ≤ a.stop ∧ a.start ≤ b.stop := by
      simp only [Contains, Moment.le_iff, Moment.lt_iff] at *
      omega
    exact ⟨a.hull b, union?_eq_some_iff.mpr ⟨near, rfl⟩, hull_equiv_left_iff.mpr inside⟩
  · rintro ⟨u, joined, same⟩
    obtain ⟨-, rfl⟩ := union?_eq_some_iff.mp joined
    exact hull_equiv_left_iff.mp same

end Proper

/-- Intervals are partially ordered by containment, up to equivalence. An intersection is
a greatest lower bound and a union a least upper bound. An interval that starts before it
stops lies in another exactly when the two intersect in it, and exactly when their union
is the other. -/
theorem contains_lattice :
    (∀ a : Interval, a.Contains a) ∧
      (∀ a b c : Interval, a.Contains b → b.Contains c → a.Contains c) ∧
      (∀ a b : Interval, a.Contains b → b.Contains a → a ≈ b) ∧
      (∀ a b i : Interval, a.inter? b = some i → IsMeet i a b) ∧
      (∀ a b u : Interval, a.union? b = some u → IsJoin u a b) ∧
      ∀ a b : Interval, b.start < b.stop →
        (a.Contains b ↔ ∃ i, a.inter? b = some i ∧ i ≈ b) ∧
          (a.Contains b ↔ ∃ u, a.union? b = some u ∧ u ≈ a) :=
  ⟨contains_refl, fun _ _ _ => contains_trans, fun _ _ => contains_antisymm,
    fun _ _ _ => isMeet_of_inter?, fun _ _ _ => isJoin_of_union?,
    fun _ _ proper => ⟨contains_iff_inter? proper, contains_iff_union? proper⟩⟩

/-- An afternoon, its first half at other offsets, and an hour of that half. -/
theorem contains_lattice_of_afternoon :
    let whole : Interval := ⟨.onLeapDay 12 0, .onLeapDay 20 0⟩
    let half : Interval := ⟨.onLeapDay 13 1, .onLeapDay 18 2⟩
    let hour : Interval := ⟨.onLeapDay 15 1, .onLeapDay 15 0⟩
    half.start < half.stop ∧ whole.Contains half ∧ half.Contains hour ∧ whole.Contains hour ∧
      (∃ i, whole.inter? half = some i ∧ i ≈ half) ∧ (∃ u, whole.union? half = some u ∧ u ≈ whole) ∧
      IsMeet ⟨whole.start, half.stop⟩ whole half ∧ IsJoin whole whole half := by
  intro whole half hour
  have proper : half.start < half.stop := by decide
  have outer : whole.Contains half := by decide
  have inner : half.Contains hour := by decide
  obtain ⟨-, trans, -, meet, join, tests⟩ := contains_lattice
  obtain ⟨shared, joined⟩ := tests whole half proper
  exact ⟨proper, outer, inner, trans whole half hour outer inner, shared.mp outer, joined.mp outer,
    meet whole half _ (by decide), join whole half whole (by decide)⟩

end Timespan.Interval
