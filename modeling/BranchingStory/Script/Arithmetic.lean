import BranchingStory.Script.Operator
import BranchingStory.Value.View
import BranchingStory.Number.Bounded

/-!
# Arithmetic

Integers are computed exactly, and a result outside the 64-bit range is an overflow. As soon as one
operand is a float the whole operation is one of floats; division always is. A text or a list can be
joined to another one and repeated a limited number of times.
-/

namespace BranchingStory

open Script Number

/-- A value that takes part in arithmetic. -/
inductive Num where
  | int (i : Int64)
  | float (x : Float)

/-- The number that a value counts as; truth values are zero and one. -/
def Value.num? {Obj : Type} : Value Obj → Option Num
  | .float x => some (.float x)
  | value => value.asInt?.map .int

def Num.toFloat : Num → Float
  | .int i => floatOfInt i
  | .float x => x

namespace Script

variable {Obj : Type}

def exactInt (n : Int) : Except EvalError (Value Obj) :=
  match narrow? n with
  | some i => .ok (.int i)
  | none => .error .overflow

/-- A power with an exponent that is not negative. Beyond the exponents that 64 bits allow for a base
that grows nothing is computed; no exponent may exceed 32 bits. -/
def intPower (x : Int) (exponent : Nat) : Except EvalError (Value Obj) :=
  if Number.twoTo 32 ≤ exponent then .error .overflow
  else if x.natAbs ≤ 1 then exactInt (if exponent = 0 then 1 else if exponent % 2 = 0 then x * x else x)
  else if 64 ≤ exponent then .error .overflow
  else exactInt (Int.pow x exponent)

/-- An operation on two integers. The quotient is rounded down and the remainder has the sign of the
divisor; both overflow for the least integer divided by minus one. -/
def intOp (op : BinaryOp) (i j : Int64) : Except EvalError (Value Obj) :=
  let x := i.toInt
  let y := j.toInt
  match op with
  | .add => exactInt (x + y)
  | .sub => exactInt (x - y)
  | .mul => exactInt (x * y)
  | .div => if y = 0 then .error .divisionByZero else .ok (.float (floatOfInt i / floatOfInt j))
  | .floorDiv => if y = 0 then .error .divisionByZero else exactInt (x.fdiv y)
  | .mod =>
    if y = 0 then .error .divisionByZero
    else if x = minInt ∧ y = -1 then .error .overflow
    else exactInt (x.fmod y)
  | .pow =>
    if 0 ≤ y then intPower x y.toNat
    else if x = 0 then .error .divisionByZero
    else .ok (.float (floatOfInt i ^ floatOfInt j))

/-- The remainder of floats that has the sign of the divisor. -/
def floatMod (x y : Float) : Float :=
  let rest := remainder x y
  if rest != 0.0 && (rest < 0.0) != (y < 0.0) then rest + y else rest

def floatOp (op : BinaryOp) (x y : Float) : Except EvalError (Value Obj) :=
  match op with
  | .add => .ok (.float (x + y))
  | .sub => .ok (.float (x - y))
  | .mul => .ok (.float (x * y))
  | .div => if y == 0.0 then .error .divisionByZero else .ok (.float (x / y))
  | .floorDiv => if y == 0.0 then .error .divisionByZero else .ok (.float (x / y).floor)
  | .mod => if y == 0.0 then .error .divisionByZero else .ok (.float (floatMod x y))
  | .pow => if x == 0.0 && y < 0.0 then .error .divisionByZero else .ok (.float (x ^ y))

/-- The greatest size of a repeated text or list. -/
def repeatLimit : Nat := 1000000

/-- How often something of a size is repeated: never for a count below one, and never if it is empty. -/
def repeatCount (size : Nat) (times : Int64) : Except EvalError Nat :=
  let count := times.toInt.toNat
  let total := size * count
  if total = 0 then .ok 0
  else if Number.twoTo 64 ≤ total then .error .overflow
  else if repeatLimit < total then
    .error (.host ("repetition of " ++ toString total ++ " items exceeds the limit"))
  else .ok count

/-- A text that is repeated; its size is counted in bytes. -/
def repeatText (text : String) (times : Int64) : Except EvalError (Value Obj) :=
  (repeatCount text.utf8ByteSize times).map fun count => .str (String.join (List.replicate count text))

def repeatItems (items : List (Value Obj)) (times : Int64) : Except EvalError (Value Obj) :=
  (repeatCount items.length times).map fun count => .list (List.replicate count items).flatten

variable [HostObject Obj]

def badOperands (symbol : String) (left right : Value Obj) : EvalError :=
  .typeMismatch ("unsupported operand type(s) for " ++ symbol ++ ": '" ++ left.typeName ++ "' and '" ++
    right.typeName ++ "'")

def badOperand (symbol : String) (value : Value Obj) : EvalError :=
  .typeMismatch ("bad operand type for unary " ++ symbol ++ ": '" ++ value.typeName ++ "'")

def binary (op : BinaryOp) (left right : Value Obj) : Except EvalError (Value Obj) :=
  match op, left, right with
  | .add, .str a, .str b => .ok (.str (a ++ b))
  | .add, .list as, .list bs => .ok (.list (as ++ bs))
  | .mul, .str text, .int times => repeatText text times
  | .mul, .int times, .str text => repeatText text times
  | .mul, .list items, .int times => repeatItems items times
  | .mul, .int times, .list items => repeatItems items times
  | op, left, right =>
    match left.num?, right.num? with
    | some (.int x), some (.int y) => intOp op x y
    | some x, some y => floatOp op x.toFloat y.toFloat
    | _, _ => .error (badOperands op.symbol left right)

/-- The value of a sign or `not` in front of a value. -/
def unary (op : UnaryOp) (value : Value Obj) : Except EvalError (Value Obj) :=
  match op, value with
  | .not, value => .ok (.bool !value.holds)
  | .neg, .float x => .ok (.float (-x))
  | .pos, .float x => .ok (.float x)
  | .neg, value =>
    match value.asInt? with
    | some i => exactInt (-i.toInt)
    | none => .error (badOperand "-" value)
  | .pos, value =>
    match value.asInt? with
    | some i => .ok (.int i)
    | none => .error (badOperand "+" value)

end Script

end BranchingStory
