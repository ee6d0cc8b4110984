import BranchingStory.Script.FormatSpec
import BranchingStory.Value.View
import BranchingStory.Text.Case

/-!
# Formatted values

The text of a value under a format specification: the sign, the digits or characters, and padding up to
the width.
-/

namespace BranchingStory.Script

open Number

/-- The digits in groups of three from the right, with commas between the groups. -/
def groupDigits (digits : List Char) : List Char :=
  digits.zipIdx.flatMap fun (c, i) =>
    if 0 < i ∧ (digits.length - i) % 3 = 0 then [',', c] else [c]

def groupThousands (text : List Char) : List Char :=
  groupDigits (text.takeWhile (· != '.')) ++ text.dropWhile (· != '.')

def groupIf (grouping : Bool) (text : List Char) : List Char :=
  if grouping then groupThousands text else text

/-- The text of a magnitude that is no finite number. -/
def nonFinite (x : Float) : List Char :=
  (if x.isNaN then "nan" else "inf").toList

def fixedText (x : Float) (precision : Nat) (grouping : Bool) : List Char :=
  if x.isFinite then groupIf grouping (fixedPlaces x precision) else nonFinite x

/-- The power of ten behind the letter: a sign and at least two digits. -/
def exponentSuffix (power : Int) : List Char :=
  let digits := digitsOf power.natAbs
  'e' :: (if power < 0 then '-' else '+') :: (List.replicate (2 - digits.length) '0' ++ digits)

/-- A magnitude with one digit in front of the point, a number of places behind it, and an exponent. -/
def exponentText (x : Float) (precision : Nat) : List Char :=
  if x.isFinite then
    let (digits, power) := significant x precision
    pointAfterFirst digits ++ exponentSuffix power
  else nonFinite x

/-- Drops the zeros at the end of the places behind the point, and a bare point. -/
def stripZeros (text : List Char) : List Char :=
  let mantissa := text.takeWhile (· != 'e')
  let stripped :=
    if mantissa.contains '.' then
      Text.dropEndWhile (· == '.') (Text.dropEndWhile (· == '0') mantissa)
    else mantissa
  stripped ++ text.dropWhile (· != 'e')

/-- A magnitude with a number of significant digits: with an exponent if the first digit stands behind
the fourth place or there are more digits in front of the point than are significant. -/
def generalText (x : Float) (precision : Nat) (grouping keepZeros : Bool) : List Char :=
  if !x.isFinite then nonFinite x
  else if x == 0.0 then ['0']
  else
    let count := max precision 1
    let power := (significant x (count - 1)).2
    let text :=
      if power < -4 ∨ (count : Int) ≤ power then exponentText x (count - 1)
      else fixedText x (count - 1 - power).toNat grouping
    if keepZeros then text else stripZeros text

def Radix.digits (radix : Radix) (n : Nat) : List Char :=
  match radix with
  | .binary => Nat.toDigits 2 n
  | .octal => Nat.toDigits 8 n
  | .decimal => Nat.toDigits 10 n
  | .hex false => Nat.toDigits 16 n
  | .hex true => (Nat.toDigits 16 n).map Char.toUpper

/-- What the alternate form puts in front of the digits of a radix. -/
def Radix.mark : Radix → List Char
  | .binary => ['0', 'b']
  | .octal => ['0', 'o']
  | .decimal => []
  | .hex false => ['0', 'x']
  | .hex true => ['0', 'X']

/-- The mark and digits of an integer without its sign. -/
def integerText (radix : Radix) (spec : FormatSpec) (n : Nat) : List Char :=
  let digits := radix.digits n
  (if spec.alternate then radix.mark else []) ++
    groupIf (spec.grouping && radix == .decimal) digits

def floatBody (style : FloatStyle) (upper : Bool) (spec : FormatSpec) (x : Float) : List Char :=
  let precision := spec.precision?.getD 6
  let text :=
    match style with
    | .fixed => fixedText x.abs precision spec.grouping
    | .exponent => exponentText x.abs precision
    | .general => generalText x.abs precision spec.grouping spec.alternate
  if upper then Text.upper text else text

def pad (spec : FormatSpec) (numeric : Bool) (sign body : List Char) : List Char :=
  let padding := spec.width - (sign.length + body.length)
  let fill (n : Nat) : List Char := List.replicate n spec.fill
  match spec.align?.getD (if numeric then .right else .left) with
  | .left => sign ++ body ++ fill padding
  | .right => fill padding ++ sign ++ body
  | .center => fill (padding / 2) ++ sign ++ body ++ fill (padding - padding / 2)
  | .afterSign => sign ++ fill padding ++ body

def signText (rule : SignRule) (negative : Bool) : List Char :=
  if negative then ['-']
  else
    match rule with
    | .onlyMinus => []
    | .plus => ['+']
    | .space => [' ']

variable {Obj : Type} [HostObject Obj]

/-- Whether a value counts as a number when it is formatted. -/
def isNumeric (value : Value Obj) : Bool :=
  value.asFloat?.isSome

/-- The presentation of a value that is not told how. -/
def defaultPresentation (spec : FormatSpec) (value : Value Obj) : Presentation :=
  match value with
  | .int _ | .bool _ => .integer .decimal
  | .float _ => if spec.precision?.isSome then .float .general false else .text
  | _ => .text

/-- The refusal of a presentation that a value does not have. -/
def unknownPresentation (presentation : Presentation) (value : Value Obj) : EvalError :=
  .badFormat ("unknown format code '" ++ presentation.letter.toString ++ "' for object of type '" ++
    value.typeName ++ "'")

def charOf? (code : Int) : Option Char :=
  if h : code.toNat.isValidChar then
    if 0 ≤ code then some (Char.ofNatAux code.toNat h) else none
  else none

/-- Whether a value is negative, and its text without sign and padding. -/
def bodyOf (presentation : Presentation) (spec : FormatSpec) (value : Value Obj) :
    Except EvalError (Bool × List Char) :=
  let refuse : EvalError := unknownPresentation presentation value
  match presentation with
  | .text =>
    if spec.sign ≠ .onlyMinus ∧ !isNumeric value then .error refuse
    else
      let text := value.display.toList
      .ok (false, match spec.precision? with | some count => text.take count | none => text)
  | .character =>
    match value.asInt? with
    | none => .error refuse
    | some code =>
      match charOf? code.toInt with
      | some c => .ok (false, [c])
      | none => .error (.badFormat "%c arg not in range")
  | .integer radix =>
    match value.asInt? with
    | some i => .ok (i < 0, integerText radix spec i.toInt.natAbs)
    | none => .error refuse
  | .float style upper =>
    match value.asFloat? with
    | some x => .ok (signBit x, floatBody style upper spec x)
    | none => .error refuse
  | .percent =>
    match value.asFloat? with
    | some x =>
      .ok (signBit x, fixedText (x.abs * 100.0) (spec.precision?.getD 6) spec.grouping ++ ['%'])
    | none => .error refuse

/-- The text of a value under a format specification. -/
def formatWith (spec : FormatSpec) (value : Value Obj) : Except EvalError String :=
  if !spec.isModest then
    .error (.badFormat ("width and precision are limited to " ++ toString FormatSpec.fieldLimit))
  else
    let numeric := isNumeric value
    let presentation := spec.presentation?.getD (defaultPresentation spec value)
    (bodyOf presentation spec value).map fun (negative, body) =>
      let sign := if numeric then signText spec.sign negative else []
      String.ofList (pad spec numeric sign body)

/-- The text of a value under the format specification that a text stands for. -/
def format (value : Value Obj) (spec : String) : Except EvalError String := do
  formatWith (← FormatSpec.read spec) value

end BranchingStory.Script
