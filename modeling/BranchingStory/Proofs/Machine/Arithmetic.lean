import Mathlib.Algebra.Order.Ring.Int
import BranchingStory.Proofs.Machine.Steps

/-!
# Arithmetic on a machine

Sums, differences, products and powers are checked by the machine itself. The quotient that is rounded
down and the remainder with the sign of the divisor are made from those that are rounded toward zero, by
steps that are not checked and never leave the range. So each operation on integers of 64 bits is the
exact one, or an overflow.
-/

namespace BranchingStory

open Number Script

/-- Rounding down takes one from the quotient that is rounded toward zero, if there is a remainder and
the signs differ. -/
lemma fdiv_eq {x y : Int} (nonzero : y ≠ 0) :
    x.fdiv y = if x.tmod y ≠ 0 ∧ ¬(x < 0 ↔ y < 0) then x.tdiv y - 1 else x.tdiv y := by
  simp only [Int.fdiv_eq_tdiv, Int.dvd_iff_tmod_eq_zero]
  rcases Int.lt_or_gt_of_ne nonzero with negative | positive
  · rw [Int.sign_eq_neg_one_of_neg negative]
    grind
  · rw [Int.sign_eq_one_of_pos positive]
    grind

/-- A remainder that is not zero has the sign of the dividend. -/
lemma tmod_neg_iff {x y : Int} (rest : x.tmod y ≠ 0) : x.tmod y < 0 ↔ x < 0 := by
  have positive : 0 ≤ x → 0 ≤ x.tmod y := fun sign => Int.tmod_nonneg y sign
  have negative : x < 0 → x.tmod y ≤ 0 := by
    intro sign
    have opposite := Int.tmod_nonneg y (show 0 ≤ -x by omega)
    rw [Int.neg_tmod] at opposite
    omega
  omega

/-- The remainder with the sign of the divisor takes the divisor in addition, if the signs differ. -/
lemma fmod_eq {x y : Int} (nonzero : y ≠ 0) :
    x.fmod y = if x.tmod y ≠ 0 ∧ ¬(x.tmod y < 0 ↔ y < 0) then x.tmod y + y else x.tmod y := by
  simp only [Int.fmod_eq_tmod, Int.dvd_iff_tmod_eq_zero]
  by_cases exact : x.tmod y = 0
  · simp only [exact, if_true, ne_eq, not_true_eq_false, false_and, if_false, Int.add_zero]
  · simp only [tmod_neg_iff exact]
    rcases Int.lt_or_gt_of_ne nonzero with negative | positive <;> grind

lemma natAbs_tmod_lt {x y : Int} (nonzero : y ≠ 0) : (x.tmod y).natAbs < y.natAbs := by
  rw [Int.natAbs_tmod]
  exact Nat.mod_lt _ (by omega)

/-- A division with a remainder at least halves the dividend. -/
lemma natAbs_tdiv_le {x y : Int} (nonzero : y ≠ 0) (rest : x.tmod y ≠ 0) :
    2 * (x.tdiv y).natAbs ≤ x.natAbs := by
  have two : 2 ≤ y.natAbs := by
    have below := natAbs_tmod_lt (x := x) nonzero
    omega
  have quotient : (x.tdiv y).natAbs = x.natAbs / y.natAbs := Int.natAbs_tdiv x y
  calc
    _ ≤ y.natAbs * (x.tdiv y).natAbs := Nat.mul_le_mul_right _ two
    _ ≤ x.natAbs := by
      rw [quotient]
      exact Nat.mul_div_le _ _

/-- Only the least integer divided by minus one has a quotient outside of the range. -/
lemma tdiv_range {x y : Int64} (nonzero : y.toInt ≠ 0) (fits : ¬(x.toInt = minInt ∧ y.toInt = -1)) :
    minInt ≤ x.toInt.tdiv y.toInt ∧ x.toInt.tdiv y.toInt ≤ maxInt := by
  have least := minInt_le x
  have greatest := le_maxInt x
  have smaller := Int.natAbs_tdiv_le_natAbs x.toInt y.toInt
  unfold minInt maxInt at *
  refine ⟨by omega, ?_⟩
  by_cases rest : x.toInt.tmod y.toInt = 0
  · have back := Int.mul_tdiv_add_tmod x.toInt y.toInt
    rw [rest, Int.add_zero] at back
    -- Only a dividend of the same magnitude would have it, divided by minus one.
    apply Classical.byContradiction
    intro beyond
    have top : x.toInt.tdiv y.toInt = 9223372036854775808 := by omega
    rw [top] at back
    omega
  · have half := natAbs_tdiv_le nonzero rest
    omega

lemma tmod_range {x y : Int64} (nonzero : y.toInt ≠ 0) :
    minInt ≤ x.toInt.tmod y.toInt ∧ x.toInt.tmod y.toInt ≤ maxInt := by
  have least := minInt_le y
  have greatest := le_maxInt y
  have smaller := natAbs_tmod_lt (x := x.toInt) nonzero
  unfold minInt maxInt at *
  omega

lemma not_fits {x y : Int64} (least : x.toInt = minInt ∧ y.toInt = -1) :
    narrow? (x.toInt.tdiv y.toInt) = none ∧ narrow? (x.toInt.fdiv y.toInt) = none := by
  rw [least.1, least.2]
  decide

namespace Machine

variable {Obj : Type}

/-- The answer of a checked operation. -/
def checked (result : Option Int64) : Trial (Value Obj) :=
  match result with
  | some i => pure (.int i)
  | none => throw .overflow

def floorDiv (x y : Int64) : Trial (Value Obj) :=
  if y.toInt = 0 then throw .divisionByZero
  else
    match narrow? (x.toInt.tdiv y.toInt) with
    | none => throw .overflow
    | some q => do
      let r ← rem x y
      let q ← (if r.toInt ≠ 0 ∧ ¬(x.toInt < 0 ↔ y.toInt < 0) then sub q 1 else pure q : Steps Int64)
      return .int q

def mod (x y : Int64) : Trial (Value Obj) :=
  if y.toInt = 0 then throw .divisionByZero
  else
    match checkedRem? x y with
    | none => throw .overflow
    | some r => do
      let r ← (if r.toInt ≠ 0 ∧ ¬(r.toInt < 0 ↔ y.toInt < 0) then add r y else pure r : Steps Int64)
      return .int r

/-- A power with an exponent of at most 32 bits. -/
def pow (x : Int64) (exponent : Nat) : Trial (Value Obj) :=
  if twoTo 32 ≤ exponent then throw .overflow else checked (narrow? (x.toInt ^ exponent))

def intOp (op : BinaryOp) (x y : Int64) : Trial (Value Obj) :=
  match op with
  | .add => checked (narrow? (x.toInt + y.toInt))
  | .sub => checked (narrow? (x.toInt - y.toInt))
  | .mul => checked (narrow? (x.toInt * y.toInt))
  | .div =>
    if y.toInt = 0 then throw .divisionByZero else pure (.float (floatOfInt x / floatOfInt y))
  | .floorDiv => floorDiv x y
  | .mod => mod x y
  | .pow =>
    if y.toInt < 0 then
      if x.toInt = 0 then throw .divisionByZero else pure (.float (floatOfInt x ^ floatOfInt y))
    else pow x y.toInt.toNat

/-- A number with a sign in front; only turning it around may leave the range. -/
def unary [HostObject Obj] (op : UnaryOp) (value : Value Obj) : Trial (Value Obj) :=
  match op, value.asInt? with
  | .neg, some i => checked (narrow? (-i.toInt))
  | op, _ => liftM (Script.unary op value)

/-- The size of what is repeated, if it is within the limit. -/
def repeatLength (size : Nat) (times : Int64) : Trial Nat :=
  if times.toInt ≤ 0 ∨ size = 0 then pure 0
  else
    let total := size * times.toInt.toNat
    if twoTo 64 ≤ total then throw .overflow
    else if repeatLimit < total then
      throw (.host ("repetition of " ++ toString total ++ " items exceeds the limit"))
    else pure total

def quotNat (m n : Nat) : Steps Nat :=
  if n = 0 then .error .zeroDivision else .ok (m / n)

/-- How many copies make up the size of what is repeated. -/
def copies (size : Nat) (times : Int64) : Trial Nat := do
  let total ← repeatLength size times
  quotNat total (max size 1)

def binary [HostObject Obj] (op : BinaryOp) (left right : Value Obj) : Trial (Value Obj) :=
  match op, left, right with
  | .mul, .str text, .int times | .mul, .int times, .str text => do
    let count ← copies text.utf8ByteSize times
    return .str (String.join (List.replicate count text))
  | .mul, .list items, .int times | .mul, .int times, .list items => do
    let count ← copies items.length times
    return .list (List.replicate count items).flatten
  | op, left, right =>
    match left.num?, right.num? with
    | some (.int x), some (.int y) => intOp op x y
    | _, _ => liftM (Script.binary op left right)

section Operations

variable {x y : Int64}

lemma checkedRem?_eq (nonzero : y.toInt ≠ 0) (fits : ¬(x.toInt = minInt ∧ y.toInt = -1)) :
    ∃ r, checkedRem? x y = some r ∧ r.toInt = x.toInt.tmod y.toInt := by
  unfold checkedRem?
  rw [if_neg fits]
  exact narrow?_of_range (tmod_range nonzero).1 (tmod_range nonzero).2

lemma rem_eq (nonzero : y.toInt ≠ 0) (fits : ¬(x.toInt = minInt ∧ y.toInt = -1)) :
    ∃ r, rem x y = .ok r ∧ r.toInt = x.toInt.tmod y.toInt := by
  obtain ⟨r, found, exact⟩ := checkedRem?_eq nonzero fits
  refine ⟨r, ?_, exact⟩
  unfold rem
  rw [if_neg nonzero, found]

lemma quot_eq (nonzero : y.toInt ≠ 0) (fits : ¬(x.toInt = minInt ∧ y.toInt = -1)) :
    ∃ q, quot x y = .ok q ∧ q.toInt = x.toInt.tdiv y.toInt := by
  obtain ⟨low, high⟩ := tdiv_range nonzero fits
  unfold quot
  rw [if_neg nonzero]
  exact word_eq low high

lemma checked_run (n : Int) : (checked (narrow? n) : Trial (Value Obj)).run = .ok (exactInt n) := by
  unfold exactInt checked
  cases narrow? n <;> rfl

lemma exactInt_eq {n : Int} {i : Int64} (exact : i.toInt = n) :
    (exactInt n : Except EvalError (Value Obj)) = .ok (.int i) := by
  unfold exactInt
  rw [← exact, narrow?_toInt]

lemma floorDiv_run : (floorDiv x y : Trial (Value Obj)).run = .ok (Script.intOp .floorDiv x y) := by
  unfold floorDiv Script.intOp
  by_cases zero : y.toInt = 0
  · simp only [zero, if_true]
    rfl
  by_cases least : x.toInt = minInt ∧ y.toInt = -1
  · simp only [zero, if_false, not_fits least, exactInt]
    rfl
  obtain ⟨low, high⟩ := tdiv_range zero least
  obtain ⟨q, found, quotient⟩ := narrow?_of_range low high
  obtain ⟨r, divided, rest⟩ := rem_eq zero least
  simp only [zero, if_false, found]
  rw [divided, fdiv_eq zero, ← rest, ← quotient]
  by_cases down : r.toInt ≠ 0 ∧ ¬(x.toInt < 0 ↔ y.toInt < 0)
  -- One is taken from a quotient of at most half of the dividend only, far from the least integer.
  · have half := natAbs_tdiv_le zero (rest ▸ down.1)
    have range : minInt ≤ q.toInt - 1 ∧ q.toInt - 1 ≤ maxInt := by
      have least := minInt_le x
      have greatest := le_maxInt x
      unfold minInt maxInt at *
      omega
    obtain ⟨i, lowered, exact⟩ := word_eq range.1 range.2
    have step : sub q 1 = .ok i := lowered
    rw [if_pos down, exactInt_eq exact, liftM_ok_bind, if_pos down, step]
    rfl
  · rw [if_neg down, exactInt_eq rfl, liftM_ok_bind, if_neg down]
    rfl

lemma mod_run : (mod x y : Trial (Value Obj)).run = .ok (Script.intOp .mod x y) := by
  unfold mod Script.intOp
  by_cases zero : y.toInt = 0
  · simp only [zero, if_true]
    rfl
  by_cases least : x.toInt = minInt ∧ y.toInt = -1
  · have none : checkedRem? x y = Option.none := if_pos least
    simp only [least, and_self, if_true, none]
    rfl
  obtain ⟨r, found, rest⟩ := checkedRem?_eq zero least
  simp only [zero, if_false, least, found]
  have smaller := natAbs_tmod_lt (x := x.toInt) zero
  rw [fmod_eq zero, ← rest]
  by_cases up : r.toInt ≠ 0 ∧ ¬(r.toInt < 0 ↔ y.toInt < 0)
  -- The remainder is smaller than the divisor and of the other sign, so that the sum is between them.
  · have range : minInt ≤ r.toInt + y.toInt ∧ r.toInt + y.toInt ≤ maxInt := by
      have least := minInt_le y
      have greatest := le_maxInt y
      rw [← rest] at smaller
      unfold minInt maxInt at *
      omega
    obtain ⟨i, raised, exact⟩ := word_eq range.1 range.2
    have step : add r y = .ok i := raised
    rw [if_pos up, if_pos up, step, exactInt_eq exact]
    rfl
  · rw [if_neg up, if_neg up, exactInt_eq rfl]
    rfl

/-- A number of magnitude one or less to a power is its square or the number itself. -/
lemma pow_of_small {n : Int} (small : n.natAbs ≤ 1) (exponent : Nat) :
    n ^ exponent = if exponent = 0 then 1 else if exponent % 2 = 0 then n * n else n := by
  induction exponent with
  | zero => simp only [Int.pow_zero, if_true]
  | succ exponent ih =>
    have cases : n = 0 ∨ n = 1 ∨ n = -1 := by omega
    rw [Int.pow_succ, ih]
    rcases cases with rfl | rfl | rfl <;> grind

/-- A greater number leaves the range with the sixty-fourth power. -/
lemma pow_out_of_range {n : Int} (great : ¬n.natAbs ≤ 1) {exponent : Nat} (many : 64 ≤ exponent) :
    narrow? (n ^ exponent) = none := by
  have beyond : 2 ^ 64 ≤ (n ^ exponent).natAbs := by
    rw [Int.natAbs_pow]
    calc
      2 ^ 64 ≤ 2 ^ exponent := Nat.pow_le_pow_right (by decide) many
      _ ≤ n.natAbs ^ exponent := Nat.pow_le_pow_left (by omega) exponent
  refine if_neg fun range => ?_
  unfold minInt maxInt at range
  omega

/-- Powers that are not computed are out of range, or found in another way. -/
lemma intPower_eq {n : Int} {exponent : Nat} (few : exponent < twoTo 32) :
    (intPower n exponent : Except EvalError (Value Obj)) = exactInt (n ^ exponent) := by
  unfold intPower
  rw [if_neg (by omega)]
  split
  · next small => rw [pow_of_small small]
  · next great =>
    split
    · next many =>
      unfold exactInt
      rw [pow_out_of_range great many]
    · rfl

lemma pow_run (exponent : Nat) :
    (pow x exponent : Trial (Value Obj)).run = .ok (intPower x.toInt exponent) := by
  unfold pow
  split
  · next many =>
    unfold intPower
    rw [if_pos many]
    rfl
  · next few =>
    rw [intPower_eq (by omega)]
    exact checked_run _

/-- An operation on integers takes no step that leaves the range. -/
lemma intOp_run (op : BinaryOp) :
    (intOp op x y : Trial (Value Obj)).run = .ok (Script.intOp op x y) := by
  cases op with
  | add => exact checked_run _
  | sub => exact checked_run _
  | mul => exact checked_run _
  | div =>
    unfold intOp Script.intOp
    simp only
    split <;> rfl
  | floorDiv => exact floorDiv_run
  | mod => exact mod_run
  | pow =>
    unfold intOp Script.intOp
    simp only
    by_cases negative : y.toInt < 0
    · rw [if_pos negative, if_neg (Int.not_le.mpr negative)]
      split <;> rfl
    · rw [if_neg negative, if_pos (Int.not_lt.mp negative)]
      exact pow_run _

end Operations

lemma quotNat_eq (size count : Nat) (empty : size = 0 → count = 0) :
    quotNat (size * count) (max size 1) = .ok count := by
  have divisor : max size 1 ≠ 0 := by omega
  unfold quotNat
  rw [if_neg divisor]
  by_cases some : size = 0
  · rw [some, empty some]
    rfl
  · have same : max size 1 = size := by omega
    rw [same, Nat.mul_div_cancel_left _ (by omega)]

lemma copies_tries (size : Nat) (times : Int64) : Tries (copies size times) (repeatCount size times) := by
  unfold copies repeatLength repeatCount
  by_cases never : times.toInt ≤ 0 ∨ size = 0
  · have none : size * times.toInt.toNat = 0 := by
      rcases never with never | empty
      · rw [Int.toNat_of_nonpos never, Nat.mul_zero]
      · rw [empty, Nat.zero_mul]
    have exact : quotNat 0 (max size 1) = .ok 0 := quotNat_eq size 0 fun _ => rfl
    simp only [never, none, if_true, pure_bind, exact]
    exact .done 0
  · have some : size * times.toInt.toNat ≠ 0 := Nat.mul_ne_zero (by omega) (by omega)
    have exact := quotNat_eq size times.toInt.toNat (by omega)
    simp only [never, some, if_false]
    split
    · exact .fail _
    · split
      · exact .fail _
      · simp only [pure_bind, exact]
        exact .done _

variable [HostObject Obj]

omit [HostObject Obj] in
lemma isInt_of_num? {value : Value Obj} {x : Int64} (number : value.num? = some (.int x)) :
    value = .int x ∨ ∃ b, value = .bool b := by
  cases value with
  | int i =>
    cases number
    exact .inl rfl
  | bool b => exact .inr ⟨b, rfl⟩
  | _ => cases number

/-- Two integers or truth values take part in an operation on integers. -/
lemma binary_of_ints {op : BinaryOp} {left right : Value Obj} {x y : Int64}
    (first : left.num? = some (.int x)) (second : right.num? = some (.int y)) :
    Script.binary op left right = Script.intOp op x y := by
  unfold Script.binary
  rcases isInt_of_num? first with rfl | ⟨b, rfl⟩ <;> rcases isInt_of_num? second with rfl | ⟨c, rfl⟩ <;>
    simp only [first, second]

lemma binary_run_of_ints (op : BinaryOp) (x y : Int64) :
    (binary op (.int x) (.int y) : Trial (Value Obj)).run = .ok (Script.binary op (.int x) (.int y)) := by
  have same : (binary op (.int x) (.int y) : Trial (Value Obj)) = intOp op x y := by
    unfold binary
    cases op <;> rfl
  rw [binary_of_ints rfl rfl, same, intOp_run]

lemma neg_run_of_int (x : Int64) :
    (unary .neg (.int x) : Trial (Value Obj)).run = .ok (Script.unary .neg (.int x)) :=
  checked_run _

/-- A sign in front of a value takes no step that leaves the range. -/
lemma unary_tries (op : UnaryOp) (value : Value Obj) : Tries (unary op value) (Script.unary op value) := by
  unfold unary
  split
  · next i found =>
    cases value with
    | int i =>
      cases found
      exact .of_run (checked_run _)
    | bool b =>
      cases found
      exact .of_run (checked_run _)
    | _ => cases found
  · exact .answer _

/-- An operation on two values takes no step that leaves the range, nor one that divides by zero. -/
lemma binary_tries (op : BinaryOp) (left right : Value Obj) :
    Tries (binary op left right) (Script.binary op left right) := by
  unfold binary
  split
  · exact .map (copies_tries _ _) _
  · exact .map (copies_tries _ _) _
  · exact .map (copies_tries _ _) _
  · exact .map (copies_tries _ _) _
  · split
    · next first second =>
      rw [binary_of_ints first second]
      exact .of_run (intOp_run _)
    · exact .answer _

end Machine

end BranchingStory
