import BranchingStory.Number.Power

/-!
# Binary floating-point numbers

A finite float is its sign and a product of a natural number and a power of two. On these parts
truncation, rounding to an integer and the remainder are exact integer arithmetic.
-/

namespace BranchingStory.Number

/-- The finite value `mantissa * 2 ^ exponent`, negated if `negative`. -/
structure Binary where
  negative : Bool
  mantissa : Nat
  exponent : Int
  /-- The gap to the next value towards zero is half the gap to the next value away from it. -/
  narrowBelow : Bool

/-- Whether the sign bit is set; a float that is not a number has no sign. -/
def signBit (x : Float) : Bool :=
  x.toBits >>> 63 == 1

def binaryOf (x : Float) : Binary :=
  let bits := x.toBits
  let field := ((bits >>> 52) &&& 0x7FF).toNat
  let fraction := (bits &&& 0xFFFFFFFFFFFFF).toNat
  if field = 0 then ⟨signBit x, fraction, -1074, false⟩
  else ⟨signBit x, twoTo 52 + fraction, field - 1075, fraction = 0 ∧ 1 < field⟩

/-- The float `mantissa * 2 ^ exponent` with the given sign, for a mantissa below `2 ^ 53` and a value
that needs no rounding. -/
def floatOf (negative : Bool) (mantissa : Nat) (exponent : Int) : Float :=
  let shift := min (52 - mantissa.log2) (exponent + 1074).toNat
  let scaled := mantissa <<< shift
  let field := if scaled < twoTo 52 then 0 else (exponent - shift + 1075).toNat
  let magnitude := if field = 0 then scaled else scaled - twoTo 52
  let sign := if negative then twoTo 63 else 0
  Float.ofBits (UInt64.ofNat (sign + field * twoTo 52 + magnitude))

/-- The integer nearest to `num / den`, the even one of two that are equally near. -/
def roundHalfEven (num den : Nat) : Nat :=
  let floor := num / den
  let twice := 2 * (num % den)
  if twice < den then floor
  else if den < twice then floor + 1
  else if floor % 2 = 0 then floor else floor + 1

/-- The numerator and denominator of the magnitude of a finite float times a power of ten. -/
def Binary.scaled (x : Binary) (power : Int) : Nat × Nat :=
  (x.mantissa * twoTo x.exponent.toNat * tenTo power.toNat, twoTo (-x.exponent).toNat * tenTo (-power).toNat)

def truncate (x : Float) : Int :=
  let parts := binaryOf x
  let (num, den) := parts.scaled 0
  let magnitude : Int := (num / den : Nat)
  if parts.negative then -magnitude else magnitude

def isIntegral (x : Float) : Bool :=
  x.isFinite && (let (num, den) := (binaryOf x).scaled 0; num % den = 0)

/-- The integral float nearest to a float, the even one of two; the sign stays even on zero. -/
def roundToEven (x : Float) : Float :=
  if x.isFinite then
    let parts := binaryOf x
    if 0 ≤ parts.exponent then x
    else
      let (num, den) := parts.scaled 0
      floatOf parts.negative (roundHalfEven num den) 0
  else x

/-- The remainder of the division that rounds its quotient toward zero; it has the sign of `x`. -/
def remainder (x y : Float) : Float :=
  if x.isFinite && !y.isNaN && y != 0.0 then
    if y.isFinite then
      let a := binaryOf x
      let b := binaryOf y
      let exponent := min a.exponent b.exponent
      let rest := (a.mantissa * twoTo (a.exponent - exponent).toNat) %
        (b.mantissa * twoTo (b.exponent - exponent).toNat)
      floatOf a.negative rest exponent
    else x
  else 0.0 / 0.0

/-- Multiplies the squares of `base` that the binary digits of `n` call for, lowest digit first. -/
def powerGo (fuel : Nat) (base acc : Float) (n : Nat) : Float :=
  match fuel with
  | 0 => acc
  | fuel + 1 =>
    let acc := if n % 2 = 1 then acc * base else acc
    if n / 2 = 0 then acc else powerGo fuel (base * base) acc (n / 2)

/-- Ten to an integer power by repeated squaring; a negative power is the reciprocal of the positive
one. -/
def powerOfTen (n : Int) : Float :=
  let power := powerGo (n.natAbs + 1) 10.0 1.0 n.natAbs
  if n < 0 then 1.0 / power else power

/-- The binary64 number nearest to an integer of 64 bits. -/
def floatOfInt (i : Int64) : Float :=
  i.toFloat

end BranchingStory.Number
