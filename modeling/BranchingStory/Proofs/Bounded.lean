import Mathlib.Tactic.Lemma
import BranchingStory.Number.Bounded

/-!
# The range of 64-bit integers

When a number has a 64-bit integer that is equal to it.
-/

namespace BranchingStory.Number

lemma minInt_le (i : Int64) : minInt ≤ i.toInt :=
  Int64.minValue_le_toInt i

lemma le_maxInt (i : Int64) : i.toInt ≤ maxInt :=
  Int64.toInt_le i

lemma toInt_ofInt {n : Int} (least : minInt ≤ n) (greatest : n ≤ maxInt) : (Int64.ofInt n).toInt = n :=
  narrow?_eq_some (if_pos ⟨least, greatest⟩)

lemma narrow?_of_range {n : Int} (least : minInt ≤ n) (greatest : n ≤ maxInt) :
    ∃ i, narrow? n = some i ∧ i.toInt = n :=
  ⟨Int64.ofInt n, if_pos ⟨least, greatest⟩, toInt_ofInt least greatest⟩

lemma narrow?_toInt (i : Int64) : narrow? i.toInt = some i := by
  unfold narrow?
  rw [if_pos ⟨minInt_le i, le_maxInt i⟩, Int64.ofInt_toInt]

end BranchingStory.Number
