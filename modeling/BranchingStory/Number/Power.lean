/-!
# Powers

The powers of two and of ten that bound machine words and scale decimal numbers.
-/

namespace BranchingStory.Number

def twoTo (exponent : Nat) : Nat :=
  Nat.pow 2 exponent

def tenTo (exponent : Nat) : Nat :=
  Nat.pow 10 exponent

end BranchingStory.Number
