import Mathlib.Data.List.Chain
import Timespan.Proofs.Interval.Gap
import Timespan.Proofs.Interval.Merge

/-! Intervals in succession, each starting at the very moment at which the one before it
stops, an empty one included. No two share an instant, and joined from the left they
make up one interval. -/
namespace Timespan.Interval

variable {a b x : Interval} {xs : List Interval} {m n : Moment}

section Meeting

/- `meets`: the second interval starts at the very moment at which the first stops. -/
variable (meets : b.start = a.stop) (properA : a.start ≤ a.stop) (properB : b.start ≤ b.stop)
include meets properA properB

end Meeting

/-- Intervals that lead from one moment to another: each starts at the very moment that
the way has reached, is read at its offset, is not inverted and takes the way to its stop. -/
inductive Leads : Moment → List Interval → Moment → Prop where
  | nil (m : Moment) : Leads m [] m
  | cons {m n : Moment} {x : Interval} {xs : List Interval} : x.start = m →
      x.stop.offset = x.start.offset → x.start ≤ x.stop → Leads x.stop xs n → Leads m (x :: xs) n

theorem Leads.le_start (leads : Leads m xs n) : ∀ x ∈ xs, m ≤ x.start := by
  induction leads with
  | nil m => exact List.forall_mem_nil _
  | cons start _ proper _ ih =>
    subst start
    exact List.forall_mem_cons.mpr
      ⟨Int.le_refl _, fun y member => Int.le_trans proper (ih y member)⟩

end Timespan.Interval
