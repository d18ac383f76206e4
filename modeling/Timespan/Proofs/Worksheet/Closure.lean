import Mathlib.Data.List.Forall2
import Timespan.Proofs.Interval.Symmetry
import Timespan.Worksheet

/-! Runs that stay among the ends they started with. Gaps, unions and intersections take
each end from an operand as it stands, and none of their results is inverted. -/
namespace Timespan

namespace Interval

variable {P : Moment → Prop} {a b x : Interval}

/-- Both ends of the interval are among the moments that `P` tells. -/
structure EndsAmong (P : Moment → Prop) (x : Interval) : Prop where
  start : P x.start
  stop : P x.stop

/-- A copy exchanges no end, and is the interval itself. -/
theorem replace_none (x : Interval) : x.replace none none = .ok x := rfl

theorem Picks.endsAmong (picked : Picks a b x) (left : a.EndsAmong P) (right : b.EndsAmong P) :
    x.EndsAmong P where
  start := by
    obtain same | same := picked.start.verbatim
    · exact same ▸ left.start
    · exact same ▸ right.start
  stop := by
    obtain same | same := picked.stop.verbatim
    · exact same ▸ left.stop
    · exact same ▸ right.stop

theorem endsAmong_of_gap? (left : a.EndsAmong P) (right : b.EndsAmong P)
    (found : a.gap? b = some x) : x.EndsAmong P := by
  obtain ⟨-, rfl⟩ | ⟨-, rfl⟩ := side_of_gap? found
  · exact ⟨left.stop, right.start⟩
  · exact ⟨right.stop, left.start⟩

theorem proper_of_inter? (found : a.inter? b = some x) : x.start < x.stop := by
  obtain ⟨shared, rfl⟩ := inter?_eq_some_iff.mp found
  exact shared

end Interval

/-- The step makes an interval of its own, from what comes with it or from a text. -/
def Step.TakesIn : Step → Prop
  | .parse _ | .new _ _ | .event _ _ | .reparse _ => True
  | _ => False

/-- How the ends of an interval stand that the step makes. -/
def Step.Orders : Step → Interval → Prop
  | .gap _ _, x | .intersection _ _, x => x.start < x.stop
  | .union _ _, x => x.start ≤ x.stop
  | _, _ => True

namespace Worksheet

variable {P : Moment → Prop} {w : Worksheet} {x : Interval}

/-- The interval stands in a slot. -/
def Holds (w : Worksheet) (x : Interval) : Prop :=
  some x ∈ w

/-- The moment is the start or the stop of an interval in a slot, as it stands there. -/
def IsEnd (w : Worksheet) (m : Moment) : Prop :=
  ∃ x, w.Holds x ∧ (m = x.start ∨ m = x.stop)

def EndsAmong (P : Moment → Prop) (w : Worksheet) : Prop :=
  ∀ x, w.Holds x → x.EndsAmong P

theorem endsAmong_isEnd (w : Worksheet) : w.EndsAmong w.IsEnd :=
  fun x held => ⟨⟨x, held, .inl rfl⟩, ⟨x, held, .inr rfl⟩⟩

theorem EndsAmong.append {slot : Option Interval} (among : w.EndsAmong P)
    (made : ∀ x, slot = some x → x.EndsAmong P) : (w ++ [slot]).EndsAmong P := by
  intro x held
  obtain before | last := List.mem_append.mp held
  · exact among x before
  · exact made x (List.mem_singleton.mp last).symm

theorem holds_of_slot? {n : Nat} (found : w.slot? n = some x) : w.Holds x :=
  List.mem_of_getElem? (Option.join_eq_some_iff.mp found)

/-- What a step makes from one slot is made from an interval that stands there. -/
theorem exists_of_slot_about {a : Nat} {f : Interval → Answer}
    (made : (w.about a f).slot = some x) : ∃ y, w.Holds y ∧ (f y).slot = some x := by
  rw [about] at made
  split at made
  · next y found => exact ⟨y, holds_of_slot? found, made⟩
  · contradiction

theorem exists_of_slot_between {a b : Nat} {f : Interval → Interval → Answer}
    (made : (w.between a b f).slot = some x) :
    ∃ y z, w.Holds y ∧ w.Holds z ∧ (f y z).slot = some x := by
  obtain ⟨y, heldY, rest⟩ := exists_of_slot_about made
  obtain ⟨z, heldZ, last⟩ := exists_of_slot_about rest
  exact ⟨y, z, heldY, heldZ, last⟩

/-- A step that takes nothing in makes its interval from ends that are on the worksheet. -/
theorem endsAmong_of_answer {step : Step} (among : w.EndsAmong P) (inner : ¬ step.TakesIn)
    (made : (w.answer step).slot = some x) : x.EndsAmong P := by
  cases step with
  | parse | new | event | reparse => exact absurd trivial inner
  | gap a b =>
    obtain ⟨y, z, heldY, heldZ, found⟩ := exists_of_slot_between made
    exact Interval.endsAmong_of_gap? (among y heldY) (among z heldZ) found
  | union a b =>
    obtain ⟨y, z, heldY, heldZ, joined⟩ := exists_of_slot_between made
    exact (Interval.picks_of_union? joined).endsAmong (among y heldY) (among z heldZ)
  | intersection a b =>
    obtain ⟨y, z, heldY, heldZ, found⟩ := exists_of_slot_between made
    exact (Interval.picks_of_inter? found).endsAmong (among y heldY) (among z heldZ)
  | copy a =>
    obtain ⟨y, held, same⟩ := exists_of_slot_about made
    cases same
    exact among x held
  | edges a b =>
    obtain ⟨y, z, heldY, heldZ, same⟩ := exists_of_slot_between made
    cases same
    exact ⟨(among y heldY).start, (among z heldZ).stop⟩
  | intersects | adjacent | contains | compare =>
    obtain ⟨_, _, _, _, nothing⟩ := exists_of_slot_between made
    contradiction
  | holds a stamp =>
    obtain ⟨y, _, nothing⟩ := exists_of_slot_about made
    split at nothing <;> contradiction
  | sorted => contradiction

/-- Whatever is on the worksheet, inverted or not, the operations order what they make. -/
theorem orders_of_answer {step : Step} (made : (w.answer step).slot = some x) :
    step.Orders x := by
  cases step with
  | gap a b =>
    obtain ⟨y, z, _, _, found⟩ := exists_of_slot_between made
    exact Interval.proper_of_gap? found
  | union a b =>
    obtain ⟨y, z, _, _, joined⟩ := exists_of_slot_between made
    exact Interval.proper_of_union? joined
  | intersection a b =>
    obtain ⟨y, z, _, _, found⟩ := exists_of_slot_between made
    exact Interval.proper_of_inter? found
  | parse | new | event | copy | reparse | edges | intersects | adjacent | contains | compare
    | holds | sorted => trivial

theorem endsAmong_of_run {steps : List Step} (among : w.EndsAmong P)
    (inner : ∀ step ∈ steps, ¬ step.TakesIn) :
    List.Forall₂ (fun step answer => ∀ x, answer.slot = some x →
      x.EndsAmong P ∧ step.Orders x) steps (w.run steps) := by
  induction steps generalizing w with
  | nil => exact .nil
  | cons step steps ih =>
    obtain ⟨first, later⟩ := List.forall_mem_cons.mp inner
    have made (x : Interval) (slot : (w.answer step).slot = some x) : x.EndsAmong P :=
      endsAmong_of_answer among first slot
    exact .cons (fun x slot => ⟨made x slot, orders_of_answer slot⟩)
      (ih (among.append made) later)

/-- In a run of steps that take no interval in, every interval made starts and stops at an end
of an interval that was there at first, as that end stands. Gaps and intersections start before
they stop and unions do not stop before they start, whatever was there. A copy is the interval
that it was made from. -/
theorem run_keeps_ends (w : Worksheet) (steps : List Step)
    (inner : ∀ step ∈ steps, ¬ step.TakesIn) :
    List.Forall₂ (fun step answer => ∀ x, answer.slot = some x →
        (w.IsEnd x.start ∧ w.IsEnd x.stop) ∧ step.Orders x) steps (w.run steps) ∧
      ∀ x : Interval, x.replace none none = .ok x := by
  refine ⟨?_, Interval.replace_none⟩
  have run := endsAmong_of_run w.endsAmong_isEnd inner
  exact run.imp fun step answer kept x made =>
    ⟨⟨(kept x made).1.start, (kept x made).1.stop⟩, (kept x made).2⟩

/-- A day that runs backwards between two shifts. There is no gap between the shifts, so the
step that would intersect it is skipped, but there is one behind the day. -/
theorem run_keeps_ends_of_backwards :
    let early : Interval := ⟨.onLeapDay 1 1, .onLeapDay 9 0⟩
    let late : Interval := ⟨.onLeapDay 10 1, .onLeapDay 18 2⟩
    let backwards : Interval := ⟨.onLeapDay 20 0, .onLeapDay 8 3⟩
    let w : Worksheet := [some early, some late, some backwards]
    let steps : List Step := [.gap 0 1, .intersection 3 2, .union 0 1, .gap 2 1, .intersection 6 5,
      .copy 7]
    (∀ step ∈ steps, ¬ step.TakesIn) ∧
      w.run steps = [.interval none, .skipped, .interval (some ⟨early.start, late.stop⟩),
        .interval (some ⟨backwards.stop, late.start⟩),
        .interval (some ⟨backwards.stop, late.start⟩),
        .interval (some ⟨backwards.stop, late.start⟩)] ∧
      List.Forall₂ (fun step answer => ∀ x, answer.slot = some x →
        (w.IsEnd x.start ∧ w.IsEnd x.stop) ∧ step.Orders x) steps (w.run steps) := by
  intro early late backwards w steps
  have inner : ∀ step ∈ steps, ¬ step.TakesIn := by
    simp [steps, Step.TakesIn]
  exact ⟨inner, by decide, (run_keeps_ends w steps inner).1⟩

end Worksheet

end Timespan
