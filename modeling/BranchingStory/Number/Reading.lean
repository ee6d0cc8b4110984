import BranchingStory.Number.Bounded
import BranchingStory.Number.Binary64

/-!
# Reading numbers

The integers and floats that a text can stand for.
-/

namespace BranchingStory.Number

def natOfDigits (digits : List Char) : Nat :=
  digits.foldl (fun n c => 10 * n + (c.toNat - '0'.toNat)) 0

/-- Splits an optional sign from a text; `true` is a minus. -/
def splitSign : List Char → Bool × List Char
  | '+' :: cs => (false, cs)
  | '-' :: cs => (true, cs)
  | cs => (false, cs)

/-- The 64-bit integer that a text of digits with an optional sign stands for. -/
def readInt? (cs : List Char) : Option Int64 :=
  let (negative, digits) := splitSign cs
  if !digits.isEmpty && digits.all Char.isDigit then
    let n : Int := natOfDigits digits
    narrow? (if negative then -n else n)
  else none

/-- The number that a text of digits with an optional plus stands for. -/
def readNat? (cs : List Char) : Option Nat :=
  let digits :=
    match cs with
    | '+' :: rest => rest
    | rest => rest
  if !digits.isEmpty && digits.all Char.isDigit then some (natOfDigits digits) else none

/-- The float nearest to `digits * 10 ^ exponent`, where `digits` has `count` decimal digits. A power of
ten far outside the range of floats settles the answer by itself. -/
def nearestFloat (digits : Nat) (count : Nat) (exponent : Int) : Float :=
  if digits = 0 then 0.0
  else if 310 < count + exponent then 1.0 / 0.0
  else if count + exponent < -330 then 0.0
  else Float.ofScientific digits (exponent < 0) exponent.natAbs

/-- The exponent that an exponent part stands for: nothing, or a letter `e`, an optional sign and
digits. -/
def readExponent? : List Char → Option Int
  | [] => some 0
  | c :: cs =>
    if c = 'e' ∨ c = 'E' then
      let (negative, digits) := splitSign cs
      if !digits.isEmpty && digits.all Char.isDigit then
        let n : Int := natOfDigits digits
        some (if negative then -n else n)
      else none
    else none

/-- The float that digits, an optional point and an optional exponent stand for. -/
def readUnsigned? (cs : List Char) : Option Float :=
  let whole := cs.takeWhile Char.isDigit
  let rest := cs.dropWhile Char.isDigit
  let (fraction, rest) :=
    match rest with
    | '.' :: rest => (rest.takeWhile Char.isDigit, rest.dropWhile Char.isDigit)
    | _ => ([], rest)
  let digits := (whole ++ fraction).dropWhile (· == '0')
  if whole.isEmpty && fraction.isEmpty then none
  else (readExponent? rest).map fun exponent =>
    nearestFloat (natOfDigits digits) digits.length (exponent - fraction.length)

/-- The float that a text stands for: a decimal number, or a name of infinity or of the value that is
not a number in any case, with an optional sign. -/
def readFloat? (cs : List Char) : Option Float :=
  let (negative, body) := splitSign cs
  let magnitude? :=
    match readUnsigned? body with
    | some x => some x
    | none =>
      let name := String.ofList (body.map Char.toLower)
      if name = "inf" ∨ name = "infinity" then some (1.0 / 0.0)
      else if name = "nan" then some (0.0 / 0.0)
      else none
  magnitude?.map fun x => if negative then -x else x

end BranchingStory.Number
