/-!
# Integers of 64 bits

Arithmetic is done on unbounded integers and brought back into the range of a 64-bit integer at the
end: exactly, or by stopping at the nearer end of the range.
-/

namespace BranchingStory.Number

/-- The least 64-bit integer. -/
def minInt : Int := -9223372036854775808

/-- The greatest 64-bit integer. -/
def maxInt : Int := 9223372036854775807

/-- The 64-bit integer equal to `n`, if there is one. -/
def narrow? (n : Int) : Option Int64 :=
  if minInt ≤ n ∧ n ≤ maxInt then some (Int64.ofInt n) else none

/-- The integer of the 64-bit range nearest to `n`. -/
def saturate (n : Int) : Int :=
  if n < minInt then minInt else if maxInt < n then maxInt else n

/-- A 64-bit result is the number it was asked for. -/
theorem narrow?_eq_some {n : Int} {i : Int64} (h : narrow? n = some i) : i.toInt = n := by
  unfold narrow? at h
  split at h
  · rename_i range
    cases h
    exact Int64.toInt_ofInt_of_le (by simp only [minInt] at range; omega)
      (by simp only [maxInt] at range; omega)
  · cases h

end BranchingStory.Number
