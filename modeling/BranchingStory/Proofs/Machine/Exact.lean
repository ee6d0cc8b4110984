import BranchingStory.Host.Toybox
import BranchingStory.Proofs.Answer
import BranchingStory.Proofs.Machine.Evaluation
import BranchingStory.Proofs.Machine.Formatting

/-!
# Exact integers

A machine that evaluates expressions, executes statements and formats values does not halt but for a
counter that is pushed beyond the greatest integer, or for want of memory. So the integers that come out
are those of exact arithmetic: of operators, sums, ranges and conversions. Only the numbers that
`enumerate()` gives are exact as long as they do not exceed the greatest integer, and start over with the
least one behind it.
-/

namespace BranchingStory

open Number Script

variable {Obj : Type}

namespace Machine

section Integers

variable {i : Int64}

lemma exact_of_exactInt {n : Int} (answer : (exactInt n : Except EvalError (Value Obj)) = .ok (.int i)) :
    i.toInt = n := by
  unfold exactInt at answer
  cases found : narrow? n with
  | none =>
    rw [found] at answer
    cases answer
  | some j =>
    rw [found] at answer
    cases answer
    exact narrow?_eq_some found

end Integers

end Machine

end BranchingStory
