import BranchingStory.Proofs.Machine.Functions
import BranchingStory.Script.Formatted

/-!
# Formatted values on a machine

A format specification is read by position, and every position is tested before the character at it is
read. Lengths are subtracted from greater ones only; the places behind the point are counted with integers
that the limit of width and precision keeps small.
-/

namespace BranchingStory

open Script

namespace Machine

/-! ## Reading a specification -/

/-- The character at a position, if the text goes on there. -/
def peek (cs : List Char) (i : Nat) : Steps (Option Char) :=
  if i < cs.length then do return some (← fetch cs i) else return none

/-- The position behind a character, if that stands at a position. -/
def skip (c : Char) (cs : List Char) (i : Nat) : Steps (Bool × Nat) := do
  let next ← peek cs i
  if next = some c then return (true, i + 1) else return (false, i)

/-- The position behind the digits from a position on. -/
def digitsEnd (cs : List Char) (i : Nat) : Steps Nat :=
  if i < cs.length then do
    let c ← fetch cs i
    if c.isDigit then digitsEnd cs (i + 1) else return i
  else return i
termination_by cs.length - i

def readDigits (cs : List Char) (i : Nat) : Steps (List Char × Nat) := do
  let stop ← digitsEnd cs i
  return (← part cs i stop, stop)

/-- The fill character and alignment in front of a specification that is not empty. -/
def readAlign (cs : List Char) : Steps ((Char × Option Align) × Nat) := do
  let second ← (if 2 ≤ cs.length then do return Align.ofChar? (← fetch cs 1) else pure none :
    Steps (Option Align))
  let first ← fetch cs 0
  match second with
  | some align => return ((first, some align), 2)
  | none =>
    match Align.ofChar? first with
    | some align => return ((' ', some align), 1)
    | none => return ((' ', none), 0)

def readSign (cs : List Char) (i : Nat) : Steps (SignRule × Nat) := do
  match (← peek cs i).bind SignRule.ofChar? with
  | some sign => return (sign, i + 1)
  | none => return (.onlyMinus, i)

def readPrecision (cs : List Char) (i : Nat) : Steps (Option (Option Nat × Nat)) := do
  let (point, i) ← skip '.' cs i
  if point then
    let (digits, stop) ← readDigits cs i
    if stop = i then return none
    else return (FormatSpec.readCount digits).map fun n => (some n, stop)
  else return some (none, i)

/-- The presentation at a position, if nothing is behind it. -/
def readPresentation (cs : List Char) (i : Nat) : Steps (Option (Option Presentation)) := do
  match ← peek cs i with
  | none => return if i ≠ cs.length then none else some none
  | some letter =>
    match Presentation.ofLetter? letter with
    | none => return none
    | some presentation => return if i + 1 ≠ cs.length then none else some (some presentation)

def readSpec? (cs : List Char) : Steps (Option FormatSpec) := do
  if cs.isEmpty then return none
  let ((fill, align?), i) ← readAlign cs
  let (sign, i) ← readSign cs i
  let (alternate, i) ← skip '#' cs i
  let (zero, i) ← skip '0' cs i
  let (fill, align?) := if zero && align?.isNone then ('0', some .afterSign) else (fill, align?)
  let (digits, i) ← readDigits cs i
  match FormatSpec.readCount digits with
  | none => return none
  | some width =>
    let (grouping, i) ← skip ',' cs i
    match ← readPrecision cs i with
    | none => return none
    | some (precision?, i) =>
      return (← readPresentation cs i).map fun presentation? =>
        { fill, align?, sign, alternate, width, grouping, precision?, presentation? }

/-- A machine reads by position what is taken from the front of a text, and comes to the position of what
is left. -/
def Reads {α : Type} (cs : List Char) (steps : Steps (α × Nat)) (read : α × List Char) : Prop :=
  ∃ a i, i ≤ cs.length ∧ steps = .ok (a, i) ∧ read = (a, cs.drop i)

/-- The sign rule in front of a text, and what follows it. -/
def takeSign (cs : List Char) : SignRule × List Char :=
  match cs.head?.bind SignRule.ofChar? with
  | some sign => (sign, cs.drop 1)
  | none => (.onlyMinus, cs)

/-- A specification is made of what is taken from the front, part by part. -/
lemma read?_eq {cs cs₁ cs₂ cs₃ cs₄ cs₅ : List Char} {fill : Char} {align? : Option Align} {sign : SignRule}
    {alternate zero grouping : Bool} (more : ¬cs.isEmpty)
    (aligned : FormatSpec.readAlign cs = (fill, align?, cs₁)) (signed : takeSign cs₁ = (sign, cs₂))
    (marked : FormatSpec.skip '#' cs₂ = (alternate, cs₃)) (padded : FormatSpec.skip '0' cs₃ = (zero, cs₄))
    (grouped : FormatSpec.skip ',' (cs₄.dropWhile Char.isDigit) = (grouping, cs₅)) :
    FormatSpec.read? cs = (do
      let (fill, align?) := if zero && align?.isNone then ('0', some .afterSign) else (fill, align?)
      let width ← FormatSpec.readCount (cs₄.takeWhile Char.isDigit)
      let (precision?, cs₆) ← FormatSpec.readPrecision cs₅
      let presentation? ← FormatSpec.readPresentation cs₆
      return { fill, align?, sign, alternate, width, grouping, precision?, presentation? }) := by
  have begun : guard ((!cs.isEmpty) = true) = (some () : Option Unit) := by
    rw [Bool.not_eq_true] at more
    rw [more]
    rfl
  unfold takeSign at signed
  unfold FormatSpec.read?
  rw [begun, aligned]
  cases found : cs₁.head?.bind SignRule.ofChar? with
  | some rule =>
    rw [found] at signed
    cases signed
    simp only [found, marked, padded, grouped]
    rfl
  | none =>
    rw [found] at signed
    cases signed
    simp only [found, marked, padded, grouped]
    rfl

def subNat (m n : Nat) : Steps Nat :=
  if n ≤ m then .ok (m - n) else .error .overflow

/-- The parts of a text in front of and from its first character that is not of a kind, cut by bytes. -/
def splitWhile (p : Char → Bool) (text : List Char) : Steps (List Char × List Char) := do
  let place := Text.byteLength (text.takeWhile p)
  let front ← cut 0 place text
  let back ← cut place (Text.byteLength text) text
  return (front, back)

/-- The last of as many digits as there are, from number `i` on, with commas between groups of three. -/
def groupFrom (length i : Nat) : List Char → Steps (List Char)
  | [] => pure []
  | c :: cs => do
    let comma ← (if 0 < i then do return (← subNat length i) % 3 = 0 else pure false : Steps Bool)
    let rest ← groupFrom length (i + 1) cs
    return if comma then ',' :: c :: rest else c :: rest

def groupIf (grouping : Bool) (text : List Char) : Steps (List Char) :=
  if grouping then do
    let (digits, rest) ← splitWhile (· != '.') text
    let groups ← groupFrom digits.length 0 digits
    return groups ++ rest
  else return text

def fixedText (x : Float) (precision : Nat) (grouping : Bool) : Steps (List Char) :=
  if x.isFinite then groupIf grouping (Number.fixedPlaces x precision) else return nonFinite x

def stripZeros (text : List Char) : Steps (List Char) := do
  let (mantissa, suffix) ← splitWhile (· != 'e') text
  let stripped :=
    if mantissa.contains '.' then
      Text.dropEndWhile (· == '.') (Text.dropEndWhile (· == '0') mantissa)
    else mantissa
  return stripped ++ suffix

/-- The number of places behind the point, if so many digits are significant. -/
def places (count : Nat) (power : Int) : Steps Nat := do
  let count ← word count
  let digits ← sub count 1
  let places ← word (digits.toInt - power)
  return places.toInt.toNat

def generalText (x : Float) (precision : Nat) (grouping keepZeros : Bool) : Steps (List Char) :=
  if !x.isFinite then return nonFinite x
  else if x == 0.0 then return ['0']
  else do
    let count := max precision 1
    let digits ← subNat count 1
    let power := (Number.significant x digits).2
    let text ← (if power < -4 ∨ (count : Int) ≤ power then pure (exponentText x digits)
      else do fixedText x (← places count power) grouping : Steps (List Char))
    if keepZeros then return text else stripZeros text

def integerText (radix : Radix) (spec : FormatSpec) (n : Nat) : Steps (List Char) := do
  let digits ← groupIf (spec.grouping && radix == .decimal) (radix.digits n)
  return (if spec.alternate then radix.mark else []) ++ digits

def floatBody (style : FloatStyle) (upper : Bool) (spec : FormatSpec) (x : Float) : Steps (List Char) := do
  let precision := spec.precision?.getD 6
  let text ←
    match style with
    | .fixed => fixedText x.abs precision spec.grouping
    | .exponent => pure (exponentText x.abs precision)
    | .general => generalText x.abs precision spec.grouping spec.alternate
  return if upper then Text.upper text else text

def pad (spec : FormatSpec) (numeric : Bool) (sign body : List Char) : Steps (List Char) :=
  if spec.width ≤ sign.length + body.length then return sign ++ body
  else do
    let padding ← subNat spec.width (sign.length + body.length)
    let fill (n : Nat) : List Char := List.replicate n spec.fill
    match spec.align?.getD (if numeric then .right else .left) with
    | .left => return sign ++ body ++ fill padding
    | .right => return fill padding ++ sign ++ body
    | .center =>
      let left ← quotNat padding 2
      let right ← subNat padding left
      return fill left ++ sign ++ body ++ fill right
    | .afterSign => return sign ++ fill padding ++ body

section Hosted

variable {Obj : Type} [HostObject Obj]

def bodyOf (presentation : Presentation) (spec : FormatSpec) (value : Value Obj) :
    Trial (Bool × List Char) :=
  match presentation, value.asInt?, value.asFloat? with
  | .integer radix, some i, _ => do
    let text ← (integerText radix spec i.toInt.natAbs : Steps (List Char))
    return (decide (i < 0), text)
  | .float style upper, _, some x => do
    let text ← (floatBody style upper spec x : Steps (List Char))
    return (Number.signBit x, text)
  | .percent, _, some x => do
    let text ← (fixedText (x.abs * 100.0) (spec.precision?.getD 6) spec.grouping : Steps (List Char))
    return (Number.signBit x, text ++ ['%'])
  | presentation, _, _ => liftM (Script.bodyOf presentation spec value)

def formatWith (spec : FormatSpec) (value : Value Obj) : Trial String :=
  if !spec.isModest then
    throw (.badFormat ("width and precision are limited to " ++ toString FormatSpec.fieldLimit))
  else do
    let numeric := isNumeric value
    let presentation := spec.presentation?.getD (defaultPresentation spec value)
    let (negative, body) ← bodyOf presentation spec value
    let sign := if numeric then signText spec.sign negative else []
    let text ← (pad spec numeric sign body : Steps (List Char))
    return String.ofList text

/-- The text of a value under the format specification that a text stands for. -/
def format (value : Value Obj) (spec : String) : Trial String := do
  match ← (readSpec? spec.toList : Steps (Option FormatSpec)) with
  | some spec => formatWith spec value
  | none => throw (.badFormat spec)

end Hosted

section Hosted

variable {Obj : Type} [HostObject Obj]

end Hosted

end Machine

end BranchingStory
