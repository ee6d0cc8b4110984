import BranchingStory.Json.Written
import BranchingStory.Number.Decimal
import BranchingStory.Number.Reading

/-!
# JSON numbers

An integer of 64 bits, with or without a sign, is read exactly. Any other number is read from as many
of its leading digits as fit in 64 bits, times or divided by a power of ten in floating point. Floats
are written with the fewest digits that read back.
-/

namespace BranchingStory.Json

open Number

/-- The bound of the digits that take part in a number. -/
def digitBound : Nat := twoTo 64

/-- Adds the digits before the point to a number as long as it stays below the bound; the count of the
digits left out scales it. -/
def takeWhole (significand : Nat) (skipped : Nat) : List Char → Nat × Nat
  | [] => (significand, skipped)
  | c :: cs =>
    let more := 10 * significand + (c.toNat - '0'.toNat)
    if skipped = 0 ∧ more < digitBound then takeWhole more 0 cs
    else takeWhole significand (skipped + 1) cs

/-- Adds digits behind the point to a number as long as it stays below the bound, and counts them. -/
def takeFraction (significand : Nat) (taken : Nat) : List Char → Nat × Nat
  | [] => (significand, taken)
  | c :: cs =>
    let more := 10 * significand + (c.toNat - '0'.toNat)
    if more < digitBound then takeFraction more (taken + 1) cs else (significand, taken)

/-- A float times a power of ten, one factor at a time; `none` if it leaves the range of floats. -/
def scaleFloat (x : Float) (exponent : Int) : Nat → Option Float
  | 0 => some x
  | fuel + 1 =>
    if exponent.natAbs ≤ 308 then
      let power := Float.ofScientific 1 false exponent.natAbs
      if 0 ≤ exponent then
        let y := x * power
        if y.isInf then none else some y
      else some (x / power)
    else if x == 0.0 then some x
    else if 0 ≤ exponent then none
    else scaleFloat (x / Float.ofScientific 1 false 308) (exponent + 308) fuel

/-- The number with the given digits before and behind the point and the given exponent. -/
def floatOfDigits (negative : Bool) (whole fraction : List Char) (exponent : Int) : Option Float :=
  let (significand, skipped) := takeWhole 0 0 whole
  let (significand, taken) := takeFraction significand 0 fraction
  let magnitude? :=
    if exponent.natAbs < twoTo 31 then
      scaleFloat (UInt64.ofNat significand).toFloat (skipped - taken + exponent) 4
    else if significand ≠ 0 ∧ 0 < exponent then none
    else some 0.0
  magnitude?.map fun x => if negative then -x else x

/-- The number without point and exponent; an integer that is too long for 64 bits becomes a float. -/
def integerOfDigits (negative : Bool) (whole : List Char) : Written :=
  let n := natOfDigits whole
  if negative then
    if 0 < n ∧ n ≤ twoTo 63 then .int (-(n : Int))
    else .orUnfit .float (floatOfDigits true whole [] 0)
  else if n < digitBound then .int n
  else .orUnfit .float (floatOfDigits false whole [] 0)

/-- The number at the beginning of a text, and what follows it; a number beyond all floats is unfit. -/
def number? (cs : List Char) : Option (Written × List Char) := do
  let (negative, cs) :=
    match cs with
    | '-' :: cs => (true, cs)
    | _ => (false, cs)
  let whole := cs.takeWhile Char.isDigit
  let rest := cs.dropWhile Char.isDigit
  guard (!whole.isEmpty && (whole.length = 1 || whole.head? ≠ some '0'))
  let (pointed, fraction, rest) :=
    match rest with
    | '.' :: rest => (true, rest.takeWhile Char.isDigit, rest.dropWhile Char.isDigit)
    | _ => (false, [], rest)
  guard (!pointed || !fraction.isEmpty)
  let (scaled, below, digits, rest) :=
    match rest with
    | [] => (false, false, [], rest)
    | e :: after =>
      if e = 'e' ∨ e = 'E' then
        let (below, after) := splitSign after
        (true, below, after.takeWhile Char.isDigit, after.dropWhile Char.isDigit)
      else (false, false, [], rest)
  guard (!scaled || !digits.isEmpty)
  if pointed || scaled then
    let exponent : Int := natOfDigits digits
    let x? := floatOfDigits negative whole fraction (if below then -exponent else exponent)
    return (.orUnfit .float x?, rest)
  else return (integerOfDigits negative whole, rest)

/-- The text of a finite float: positional while the first digit stands for a power of ten from -5 to
15, and with an exponent otherwise; the exponent has a sign. -/
def floatText (x : Float) : String :=
  let sign := if signBit x then "-" else ""
  let d := shortest .even x
  let digits := digitsOf d.digits
  let power : Int := digits.length - 1 + d.exponent
  let text :=
    if -5 ≤ power ∧ power ≤ 15 then
      if 0 ≤ d.exponent then d.positional ++ ['.', '0'] else d.positional
    else
      pointAfterFirst digits ++ ['e', if power < 0 then '-' else '+'] ++ digitsOf power.natAbs
  sign ++ String.ofList text

end BranchingStory.Json
