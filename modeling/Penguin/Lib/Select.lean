import Mathlib

/-!
The `select!` of asynchronous programs.

Each branch has a future and a pattern. A future that completes with a value that matches its
pattern lets its branch run; with a value that does not match, the branch is disabled for this
round. One of the branches that can run is taken; the `else` arm runs when all are disabled;
otherwise the task waits for a future that is pending.
-/

namespace Penguin.Lib.Select

/-- What polling the future of a branch comes to. -/
inductive Branch
  | ready
  | disabled
  | pending
  deriving DecidableEq, Repr

/-- The `else` arm runs. -/
def elseRuns (branches : List Branch) : Bool := branches.all (· = .disabled)

/-- Neither a branch nor the `else` arm runs. -/
def waits (branches : List Branch) : Bool :=
  branches.all (· ≠ .ready) && branches.any (· = .pending)

variable {branches : List Branch}

/-- A branch that is pending keeps the `else` arm from running. -/
lemma not_elseRuns_of_pending (h : .pending ∈ branches) : elseRuns branches = false := by
  simp only [elseRuns, List.all_eq_false]
  exact ⟨.pending, h, by decide⟩

lemma waits_of_pending (hready : .ready ∉ branches) (h : .pending ∈ branches) :
    waits branches = true := by
  simp only [waits, Bool.and_eq_true, List.all_eq_true, List.any_eq_true, decide_eq_true_eq]
  refine ⟨fun b hb hne => hready (hne ▸ hb), .pending, h, rfl⟩

end Penguin.Lib.Select
