import BranchingStory.Number.Binary64

/-!
# Decimal texts of floats

The fewest digits that read back as a float, and the exact decimal expansion rounded to a number of
places or significant digits.
-/

namespace BranchingStory.Number

/-- The value `digits * 10 ^ exponent`. -/
structure Decimal where
  digits : Nat
  exponent : Int

/-- Which of two decimals that are equally near to a value is taken. -/
inductive Tie where
  | up
  | even

def digitsOf (n : Nat) : List Char :=
  Nat.toDigits 10 n

def compareScaled (a : Nat) (i : Int) (n : Nat) (j : Int) : Ordering :=
  compare (a * tenTo i.toNat * twoTo (-j).toNat) (n * twoTo j.toNat * tenTo (-i).toNat)

/-- Whether a decimal lies among the reals that round to the magnitude of a float: from halfway to the
value below to halfway to the value above, the ends included if the mantissa is even. -/
def Binary.readsBack (x : Binary) (d : Decimal) : Bool :=
  let low := if x.narrowBelow then 4 * x.mantissa - 1 else 4 * x.mantissa - 2
  let atLow := compareScaled d.digits d.exponent low (x.exponent - 2)
  let atHigh := compareScaled d.digits d.exponent (4 * x.mantissa + 2) (x.exponent - 2)
  let closed := x.mantissa % 2 == 0
  (atLow == .gt || (closed && atLow == .eq)) && (atHigh == .lt || (closed && atHigh == .eq))

/-- The least `k` with the magnitude of a non-zero float below `10 ^ k`. -/
def Binary.scale (x : Binary) : Int :=
  let guess := (x.mantissa.log2 + x.exponent) * 30103 / 100000
  let below (k : Int) : Bool := compareScaled 1 k x.mantissa x.exponent == .gt
  ([guess - 1, guess, guess + 1, guess + 2].find? below).getD (guess + 3)

/-- Of the decimals with `places` digits the one that reads back, or else the first that does with more
digits; the nearer of two. After `fuel` steps the nearest is taken without a test. -/
def Binary.shortestFrom (tie : Tie) (x : Binary) (scale : Int) (places : Nat) : Nat → Decimal
  | 0 =>
    let (num, den) := x.scaled (places - scale)
    ⟨roundHalfEven num den, scale - places⟩
  | fuel + 1 =>
    let grid := scale - places
    let (num, den) := x.scaled (-grid)
    let low : Decimal := ⟨num / den, grid⟩
    let high : Decimal := ⟨num / den + 1, grid⟩
    match x.readsBack low, x.readsBack high with
    | true, false => low
    | false, true => high
    | true, true =>
      match compare (2 * num) ((2 * low.digits + 1) * den), tie with
      | .lt, _ => low
      | .gt, _ => high
      | .eq, .up => high
      | .eq, .even => if low.digits % 2 = 0 then low else high
    | false, false => x.shortestFrom tie scale (places + 1) fuel

/-- Moves trailing zeros of the digits into the exponent. -/
def Decimal.stripZeros (digits : Nat) (exponent : Int) : Nat → Decimal
  | 0 => ⟨digits, exponent⟩
  | fuel + 1 =>
    if digits ≠ 0 ∧ digits % 10 = 0 then stripZeros (digits / 10) (exponent + 1) fuel
    else ⟨digits, exponent⟩

/-- The fewest digits that read back as the magnitude of a finite float. -/
def shortest (tie : Tie) (x : Float) : Decimal :=
  let parts := binaryOf x
  if parts.mantissa = 0 then ⟨0, 0⟩
  else
    let found := parts.shortestFrom tie parts.scale 1 17
    Decimal.stripZeros found.digits found.exponent 20

/-- The digits of a decimal without an exponent; an integer has no point. -/
def Decimal.positional (d : Decimal) : List Char :=
  let digits := digitsOf d.digits
  if 0 ≤ d.exponent then digits ++ List.replicate d.exponent.toNat '0'
  else
    let places := (-d.exponent).toNat
    let digits := List.replicate (places + 1 - digits.length) '0' ++ digits
    digits.take (digits.length - places) ++ '.' :: digits.drop (digits.length - places)

/-- The exact magnitude of a finite float rounded to a number of decimal places. -/
def fixedPlaces (x : Float) (places : Nat) : List Char :=
  let (num, den) := (binaryOf x).scaled places
  Decimal.positional ⟨roundHalfEven num den, -places⟩

/-- The magnitude of a finite float rounded to `places + 1` significant digits, and the power of ten of
the first of them. -/
def significant (x : Float) (places : Nat) : List Char × Int :=
  let parts := binaryOf x
  if parts.mantissa = 0 then (List.replicate (places + 1) '0', 0)
  else
    let power := parts.scale - 1
    let (num, den) := parts.scaled (places - power)
    let rounded := roundHalfEven num den
    if rounded = tenTo (places + 1) then (digitsOf (tenTo places), power + 1)
    else (digitsOf rounded, power)

/-- Significant digits with a point after the first. -/
def pointAfterFirst (digits : List Char) : List Char :=
  match digits with
  | first :: rest@(_ :: _) => first :: '.' :: rest
  | _ => digits

end BranchingStory.Number
