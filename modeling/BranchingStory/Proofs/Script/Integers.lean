import Mathlib.Data.Rat.Floor
import BranchingStory.Host.Toybox
import BranchingStory.Proofs.Machine.Exact

/-!
# Operators on integers

An operator gives a number of exact arithmetic on two integers, or it divides by zero, or it comes to a
float. The number is the answer of an operation, or the operation overflows: if the number is out of
range, and for two kinds of operands also if it is not.
-/

namespace BranchingStory

open Number

namespace Script

/-- The number that an operator gives on two integers in exact arithmetic. A quotient is rounded down to
an integer, a remainder is what this quotient leaves, and a power has an exponent that is not negative. -/
def BinaryOp.Gives (op : BinaryOp) (x y n : Int) : Prop :=
  match op with
  | .add => n = x + y
  | .sub => n = x - y
  | .mul => n = x * y
  | .div => False
  | .floorDiv => y ≠ 0 ∧ n = ⌊(x / y : ℚ)⌋
  | .mod => y ≠ 0 ∧ n = x - ⌊(x / y : ℚ)⌋ * y
  | .pow => 0 ≤ y ∧ n = x ^ y.toNat

/-- The divisor is zero, or zero is raised to a negative power. -/
def BinaryOp.DividesByZero (op : BinaryOp) (x y : Int) : Prop :=
  match op with
  | .add | .sub | .mul => False
  | .div | .floorDiv | .mod => y = 0
  | .pow => x = 0 ∧ y < 0

/-- The operands on which an operator overflows whatever it gives: the least integer with the remainder by
minus one, and a number of magnitude one or less with an exponent of more than 32 bits. -/
def BinaryOp.GivesUp (op : BinaryOp) (x y : Int) : Prop :=
  match op with
  | .mod => x = minInt ∧ y = -1
  | .pow => 2 ^ 32 ≤ y ∧ x.natAbs ≤ 1
  | _ => False

/-- A number that is no integer of 64 bits. -/
def OutOfRange (n : Int) : Prop :=
  n < minInt ∨ maxInt < n

section Exactness

variable {Obj : Type}

lemma narrow?_eq_none {n : Int} : narrow? n = none ↔ OutOfRange n := by
  unfold narrow? OutOfRange
  split
  · next range => simp only [reduceCtorEq, false_iff]; omega
  · next range => simp only [true_iff]; omega

lemma exactInt_eq_ok {n : Int} {i : Int64} :
    (exactInt n : Except EvalError (Value Obj)) = .ok (.int i) ↔ i.toInt = n :=
  ⟨Machine.exact_of_exactInt, Machine.exactInt_eq⟩

lemma exactInt_eq_overflow {n : Int} :
    (exactInt n : Except EvalError (Value Obj)) = .error .overflow ↔ OutOfRange n := by
  rw [← narrow?_eq_none]
  unfold exactInt
  cases narrow? n with
  | none => simp only
  | some i => simp only [reduceCtorEq]

lemma exactInt_ne_divisionByZero {n : Int} :
    (exactInt n : Except EvalError (Value Obj)) ≠ .error .divisionByZero := by
  unfold exactInt
  cases narrow? n <;> nofun

/-- The quotient that is rounded down, as a division of integers. -/
lemma floor_div (x y : Int) : ⌊(x / y : ℚ)⌋ = x.fdiv y := by
  have positive (a : Int) {b : Int} (sign : 0 ≤ b) : ⌊(a / b : ℚ)⌋ = a.fdiv b := by
    rw [Int.floor_div_cast_of_nonneg sign, Int.floor_intCast, Int.fdiv_eq_ediv_of_nonneg a sign]
  rcases le_total 0 y with sign | sign
  · exact positive x sign
  -- With both signs turned around the divisor is positive.
  · rw [← Int.neg_fdiv_neg, ← positive (-x) (by omega), Int.cast_neg, Int.cast_neg, neg_div_neg_eq]

lemma sub_floor_div_mul (x y : Int) : x - ⌊(x / y : ℚ)⌋ * y = x.fmod y := by
  rw [floor_div, Int.fmod_def, Int.mul_comm]

namespace BinaryOp.Gives

variable {op : BinaryOp} {x y n m : Int}

lemma unique (first : op.Gives x y n) (second : op.Gives x y m) : n = m := by
  unfold BinaryOp.Gives at first second
  cases op with
  | add | sub | mul => exact first.trans second.symm
  | div => exact first.elim
  | floorDiv | mod | pow => exact first.2.trans second.2.symm

lemma not_dividesByZero (gives : op.Gives x y n) : ¬op.DividesByZero x y := by
  unfold BinaryOp.Gives at gives
  cases op with
  | add | sub | mul => exact id
  | div => exact gives.elim
  | floorDiv | mod => exact gives.1
  | pow => exact fun byZero => absurd byZero.2 (Int.not_lt.mpr gives.1)

end BinaryOp.Gives

/-- Where an operator gives up there is a number that it gives. -/
lemma BinaryOp.GivesUp.gives {op : BinaryOp} {x y : Int} (up : op.GivesUp x y) : ∃ n, op.Gives x y n := by
  cases op with
  | mod =>
    have nonzero : y ≠ 0 := by rw [up.2]; decide
    exact ⟨_, nonzero, rfl⟩
  | pow =>
    have many : 2 ^ 32 ≤ y := up.1
    exact ⟨_, by omega, rfl⟩
  | _ => exact up.elim

/-- What an operator may come to on two integers. -/
inductive Outcome (op : BinaryOp) (x y : Int) : Except EvalError (Value Obj) → Prop
  | exact {n : Int} (gives : op.Gives x y n) (goesOn : ¬op.GivesUp x y) : Outcome op x y (exactInt n)
  | givesUp {n : Int} (gives : op.Gives x y n) (up : op.GivesUp x y) : Outcome op x y (.error .overflow)
  | byZero (zero : op.DividesByZero x y) : Outcome op x y (.error .divisionByZero)
  | float (z : Float) (none : ∀ n, ¬op.Gives x y n) (nonzero : ¬op.DividesByZero x y) :
    Outcome op x y (.ok (.float z))

namespace Outcome

variable {op : BinaryOp} {x y : Int} {result : Except EvalError (Value Obj)}

lemma eq_int (outcome : Outcome op x y result) {i : Int64} :
    result = .ok (.int i) ↔ op.Gives x y i.toInt ∧ ¬op.GivesUp x y := by
  cases outcome with
  | exact gives goesOn =>
    rw [exactInt_eq_ok]
    constructor
    · rintro rfl
      exact ⟨gives, goesOn⟩
    · exact fun same => same.1.unique gives
  | givesUp gives up => exact iff_of_false nofun fun same => same.2 up
  | byZero zero => exact iff_of_false nofun fun same => same.1.not_dividesByZero zero
  | float z none nonzero => exact iff_of_false nofun fun same => none _ same.1

lemma eq_divisionByZero (outcome : Outcome op x y result) :
    result = .error .divisionByZero ↔ op.DividesByZero x y := by
  cases outcome with
  | exact gives goesOn => exact iff_of_false exactInt_ne_divisionByZero gives.not_dividesByZero
  | givesUp gives up => exact iff_of_false nofun gives.not_dividesByZero
  | byZero zero => exact iff_of_true rfl zero
  | float z none nonzero => exact iff_of_false nofun nonzero

lemma eq_overflow (outcome : Outcome op x y result) :
    result = .error .overflow ↔ op.GivesUp x y ∨ ∃ n, op.Gives x y n ∧ OutOfRange n := by
  cases outcome with
  | exact gives goesOn =>
    rw [exactInt_eq_overflow]
    constructor
    · exact fun beyond => .inr ⟨_, gives, beyond⟩
    · rintro (up | ⟨n, gives', beyond⟩)
      · exact absurd up goesOn
      · rwa [gives.unique gives']
  | givesUp gives up => exact iff_of_true rfl (.inl up)
  | byZero zero =>
    refine iff_of_false nofun ?_
    rintro (up | ⟨n, gives, _⟩)
    · obtain ⟨n, gives⟩ := up.gives
      exact gives.not_dividesByZero zero
    · exact gives.not_dividesByZero zero
  | float z none nonzero =>
    refine iff_of_false nofun ?_
    rintro (up | ⟨n, gives, _⟩)
    · obtain ⟨n, gives⟩ := up.gives
      exact none n gives
    · exact none n gives

end Outcome

lemma intPower_outcome {x y : Int64} (positive : 0 ≤ y.toInt) :
    Outcome .pow x.toInt y.toInt (intPower x.toInt y.toInt.toNat : Except EvalError (Value Obj)) := by
  have gives : BinaryOp.pow.Gives x.toInt y.toInt (x.toInt ^ y.toInt.toNat) := ⟨positive, rfl⟩
  have bits : twoTo 32 = 4294967296 := rfl
  by_cases few : y.toInt.toNat < twoTo 32
  · rw [Machine.intPower_eq few]
    exact .exact gives fun up => by have many := up.1; omega
  · have stops : (intPower x.toInt y.toInt.toNat : Except EvalError (Value Obj)) = .error .overflow :=
      if_pos (Nat.not_lt.mp few)
    by_cases small : x.toInt.natAbs ≤ 1
    · rw [stops]
      exact .givesUp gives ⟨by omega, small⟩
    · have beyond : (exactInt (x.toInt ^ y.toInt.toNat) : Except EvalError (Value Obj)) =
          .error .overflow := by
        rw [exactInt_eq_overflow, ← narrow?_eq_none]
        exact Machine.pow_out_of_range small (by omega)
      rw [stops, ← beyond]
      exact .exact gives fun up => small up.2

lemma intOp_outcome (op : BinaryOp) (x y : Int64) :
    Outcome op x.toInt y.toInt (intOp op x y : Except EvalError (Value Obj)) := by
  unfold intOp
  cases op with
  | add | sub | mul => exact .exact rfl id
  | div =>
    simp only
    split
    · next zero => exact .byZero zero
    · next nonzero => exact .float _ (fun _ => id) nonzero
  | floorDiv =>
    simp only
    split
    · next zero => exact .byZero zero
    · next nonzero => exact .exact ⟨nonzero, (floor_div _ _).symm⟩ id
  | mod =>
    simp only
    split
    · next zero => exact .byZero zero
    · next nonzero =>
      have gives : BinaryOp.mod.Gives x.toInt y.toInt (x.toInt.fmod y.toInt) :=
        ⟨nonzero, (sub_floor_div_mul _ _).symm⟩
      split
      · next least => exact .givesUp gives least
      · next other => exact .exact gives other
  | pow =>
    simp only
    split
    · next positive => exact intPower_outcome positive
    · next negative =>
      split
      · next zero => exact .byZero ⟨zero, Int.not_le.mp negative⟩
      · next nonzero =>
        exact .float _ (fun _ gives => negative gives.1) fun byZero => nonzero byZero.1

variable [HostObject Obj]

lemma binary_outcome (op : BinaryOp) (x y : Int64) :
    Outcome op x.toInt y.toInt (binary op (.int x) (.int y) : Except EvalError (Value Obj)) := by
  rw [Machine.binary_of_ints rfl rfl]
  exact intOp_outcome op x y

end Exactness

section Laws

variable {x y q r : Int}

/-- A quotient and its remainder make up the dividend. -/
lemma gives_div_mod (quotient : BinaryOp.floorDiv.Gives x y q) (rest : BinaryOp.mod.Gives x y r) :
    q * y + r = x := by
  rw [quotient.2, rest.2]
  omega

/-- A remainder is smaller than the divisor and has its sign. -/
lemma gives_mod_bounds (rest : BinaryOp.mod.Gives x y r) :
    0 ≤ r ∧ r < y ∨ y < r ∧ r ≤ 0 := by
  obtain ⟨nonzero, rfl⟩ := rest
  rw [sub_floor_div_mul]
  rcases Int.lt_or_gt_of_ne nonzero with negative | positive
  · have low := Int.fmod_nonneg_of_pos (-x) (show 0 < -y by omega)
    have high := Int.fmod_lt_of_pos (-x) (show 0 < -y by omega)
    rw [Int.neg_fmod_neg] at low high
    omega
  · exact .inl ⟨Int.fmod_nonneg_of_pos x positive, Int.fmod_lt_of_pos x positive⟩

end Laws

variable {Obj : Type} [HostObject Obj]

/-- A machine that divides toward zero and corrects quotients and remainders by their signs comes to what
the operation on two integers comes to. If that is an integer it is the number that the operator gives. The
operation is refused for a division by zero exactly if there is one, and overflows if the number is out of
range. -/
theorem integers_are_exact (x y : Int64) :
    (∀ op : BinaryOp, (Machine.binary op (.int x) (.int y) : Trial (Value Obj)).run =
      .ok (binary op (.int x) (.int y))) ∧
    (Machine.unary .neg (.int x) : Trial (Value Obj)).run = .ok (unary .neg (.int x)) ∧
    (∀ (op : BinaryOp) (i : Int64), binary op (.int x) (.int y) = .ok (.int i : Value Obj) →
      op.Gives x.toInt y.toInt i.toInt) ∧
    (∀ i : Int64, unary .neg (.int x) = .ok (.int i : Value Obj) ↔ i.toInt = -x.toInt) ∧
    (∀ q r : Int64, binary .floorDiv (.int x) (.int y) = .ok (.int q : Value Obj) →
      binary .mod (.int x) (.int y) = .ok (.int r : Value Obj) → q.toInt * y.toInt + r.toInt = x.toInt) ∧
    (∀ r : Int64, binary .mod (.int x) (.int y) = .ok (.int r : Value Obj) →
      |r.toInt| < |y.toInt| ∧ (0 < r.toInt → 0 < y.toInt) ∧ (r.toInt < 0 → y.toInt < 0)) ∧
    (∀ op : BinaryOp,
      (binary op (.int x) (.int y) : Except EvalError (Value Obj)) = .error .divisionByZero ↔
        op.DividesByZero x.toInt y.toInt) ∧
    (∀ (op : BinaryOp) (n : Int), op.Gives x.toInt y.toInt n → OutOfRange n →
      (binary op (.int x) (.int y) : Except EvalError (Value Obj)) = .error .overflow) ∧
    ((unary .neg (.int x) : Except EvalError (Value Obj)) = .error .overflow ↔ OutOfRange (-x.toInt)) := by
  have exact (op : BinaryOp) (i : Int64) (answer : binary op (.int x) (.int y) = .ok (.int i : Value Obj)) :
      op.Gives x.toInt y.toInt i.toInt :=
    ((binary_outcome op x y).eq_int.mp answer).1
  refine ⟨fun op => Machine.binary_run_of_ints op x y, Machine.neg_run_of_int x, exact,
    fun i => exactInt_eq_ok, ?_, ?_, ?_, ?_, exactInt_eq_overflow⟩
  · exact fun q r quotient rest => gives_div_mod (exact _ q quotient) (exact _ r rest)
  · intro r rest
    have bounds := gives_mod_bounds (exact _ r rest)
    rw [Int.abs_eq_natAbs, Int.abs_eq_natAbs]
    omega
  · exact fun op => (binary_outcome op x y).eq_divisionByZero
  · exact fun op n gives beyond => (binary_outcome op x y).eq_overflow.mpr (.inr ⟨n, gives, beyond⟩)

/-- The remainder of minus seven by two is one, and a product is beyond the greatest integer. -/
theorem seven_and_two :
    binary .floorDiv (.int (-7)) (.int 2) = .ok (.int (-4) : Value Toybox.Thing) ∧
    binary .mod (.int (-7)) (.int 2) = .ok (.int 1 : Value Toybox.Thing) ∧
    BinaryOp.floorDiv.Gives (-7) 2 (-4) ∧ BinaryOp.mod.Gives (-7) 2 1 ∧
    (-4 : Int64).toInt * (2 : Int64).toInt + (1 : Int64).toInt = (-7 : Int64).toInt ∧
    |(1 : Int64).toInt| < |(2 : Int64).toInt| ∧
    (binary .mul (.int 9223372036854775807) (.int 2) : Except EvalError (Value Toybox.Thing)) =
      .error .overflow := by
  have quotient : binary .floorDiv (.int (-7)) (.int 2) = .ok (.int (-4) : Value Toybox.Thing) := rfl
  have rest : binary .mod (.int (-7)) (.int 2) = .ok (.int 1 : Value Toybox.Thing) := rfl
  obtain ⟨-, -, exact, -, sum, bounds, -, -, -⟩ := @integers_are_exact Toybox.Thing _ (-7) 2
  obtain ⟨-, -, -, -, -, -, -, beyond, -⟩ := @integers_are_exact Toybox.Thing _ 9223372036854775807 2
  exact ⟨quotient, rest, exact _ _ quotient, exact _ _ rest, sum _ _ quotient rest, (bounds _ rest).1,
    beyond .mul _ rfl (.inr (by decide))⟩

/-- An operation on two integers comes to the number that the operator gives if that is an integer of 64
bits, unless the operator gives up; it overflows for no other reason than these two. -/
theorem overflow_is_out_of_range (op : BinaryOp) (x y : Int64) :
    (∀ i : Int64, op.Gives x.toInt y.toInt i.toInt →
      (binary op (.int x) (.int y) = .ok (.int i : Value Obj) ↔ ¬op.GivesUp x.toInt y.toInt)) ∧
    ((binary op (.int x) (.int y) : Except EvalError (Value Obj)) = .error .overflow ↔
      op.GivesUp x.toInt y.toInt ∨ ∃ n, op.Gives x.toInt y.toInt n ∧ OutOfRange n) := by
  refine ⟨fun i gives => ?_, (binary_outcome op x y).eq_overflow⟩
  rw [(binary_outcome op x y).eq_int]
  exact and_iff_right gives

end Script

namespace Toybox

open Script

/-- A power of one with the greatest exponent of 32 bits is one. -/
theorem power_of_one :
    BinaryOp.pow.Gives 1 4294967295 1 ∧
    binary .pow (.int 1) (.int 4294967295) = .ok (.int 1 : Value Thing) := by
  have gives : BinaryOp.pow.Gives 1 4294967295 1 := ⟨by decide, (one_pow _).symm⟩
  have few : ¬BinaryOp.pow.GivesUp 1 4294967295 := fun up => absurd up.1 (by decide)
  exact ⟨gives, ((@overflow_is_out_of_range Thing _ .pow 1 4294967295).1 1 gives).mpr few⟩

/-- A remainder of zero and a power of one are reported as overflows. -/
theorem small_results_overflow :
    (binary .mod (.int (-9223372036854775808)) (.int (-1)) : Except EvalError (Value Thing)) =
        .error .overflow ∧
      BinaryOp.mod.Gives (-9223372036854775808) (-1) 0 ∧
      (binary .pow (.int 1) (.int 4294967296) : Except EvalError (Value Thing)) = .error .overflow ∧
      BinaryOp.pow.Gives 1 4294967296 1 := by
  refine ⟨rfl, ⟨by decide, ?_⟩, rfl, by decide, (one_pow _).symm⟩
  rw [sub_floor_div_mul]
  rfl

end Toybox

end BranchingStory
