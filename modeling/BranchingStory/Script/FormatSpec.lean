import BranchingStory.Script.Fault
import BranchingStory.Text.Blank
import BranchingStory.Number.Reading

/-!
# Format specifications

What may stand behind the last colon of an interpolated expression:
`[[fill]align][sign][#][0][width][,][.precision][type]`.
-/

namespace BranchingStory.Script

open Text

/-- Where the padding of a formatted value goes. -/
inductive Align where
  | left
  | right
  | center
  /-- Between the sign and the digits. -/
  | afterSign
  deriving DecidableEq, Repr

/-- What stands in front of a number that is not negative. -/
inductive SignRule where
  | onlyMinus
  | plus
  | space
  deriving DecidableEq, Repr

/-- The digits that an integer is written with. -/
inductive Radix where
  | binary
  | octal
  | decimal
  | hex (upper : Bool)
  deriving DecidableEq, Repr

/-- How a float is written. -/
inductive FloatStyle where
  | fixed
  | exponent
  | general
  deriving DecidableEq, Repr

/-- How a value is written. -/
inductive Presentation where
  | text
  | character
  | integer (radix : Radix)
  | float (style : FloatStyle) (upper : Bool)
  | percent
  deriving DecidableEq, Repr

def Presentation.ofLetter? (letter : Char) : Option Presentation :=
  match letter with
  | 's' => some .text
  | 'c' => some .character
  | 'b' => some (.integer .binary)
  | 'o' => some (.integer .octal)
  | 'd' => some (.integer .decimal)
  | 'x' => some (.integer (.hex false))
  | 'X' => some (.integer (.hex true))
  | 'e' => some (.float .exponent false)
  | 'E' => some (.float .exponent true)
  | 'f' => some (.float .fixed false)
  | 'F' => some (.float .fixed true)
  | 'g' => some (.float .general false)
  | 'G' => some (.float .general true)
  | '%' => some .percent
  | _ => none

def Presentation.letter : Presentation → Char
  | .text => 's'
  | .character => 'c'
  | .integer .binary => 'b'
  | .integer .octal => 'o'
  | .integer .decimal => 'd'
  | .integer (.hex false) => 'x'
  | .integer (.hex true) => 'X'
  | .float .exponent false => 'e'
  | .float .exponent true => 'E'
  | .float .fixed false => 'f'
  | .float .fixed true => 'F'
  | .float .general false => 'g'
  | .float .general true => 'G'
  | .percent => '%'

/-- A format specification. -/
structure FormatSpec where
  fill : Char
  align? : Option Align
  sign : SignRule
  /-- Whether binary, octal and hexadecimal integers say so, and general floats keep their zeros. -/
  alternate : Bool
  width : Nat
  /-- Whether commas separate thousands. -/
  grouping : Bool
  precision? : Option Nat
  presentation? : Option Presentation
  deriving DecidableEq, Repr

def Align.ofChar? (c : Char) : Option Align :=
  match c with
  | '<' => some .left
  | '>' => some .right
  | '^' => some .center
  | '=' => some .afterSign
  | _ => none

def SignRule.ofChar? (c : Char) : Option SignRule :=
  match c with
  | '-' => some .onlyMinus
  | '+' => some .plus
  | ' ' => some .space
  | _ => none

namespace FormatSpec

/-- The fill character and alignment in front of a specification, and what follows them. -/
def readAlign (cs : List Char) : Char × Option Align × List Char :=
  match cs with
  | [] => (' ', none, cs)
  | first :: rest =>
    match rest.head?.bind Align.ofChar? with
    | some align => (first, some align, rest.drop 1)
    | none =>
      match Align.ofChar? first with
      | some align => (' ', some align, rest)
      | none => (' ', none, cs)

def skip (c : Char) (cs : List Char) : Bool × List Char :=
  match cs with
  | [] => (false, cs)
  | first :: rest => if first = c then (true, rest) else (false, cs)

/-- The number that digits stand for; none if a machine word of 64 bits cannot hold it. -/
def readCount (digits : List Char) : Option Nat :=
  let n := Number.natOfDigits digits
  if n < Number.twoTo 64 then some n else none

/-- The precision in front of a text, if there is a point, and what follows it. -/
def readPrecision (cs : List Char) : Option (Option Nat × List Char) :=
  match skip '.' cs with
  | (false, cs) => some (none, cs)
  | (true, cs) =>
    let digits := cs.takeWhile Char.isDigit
    if digits.isEmpty then none
    else (readCount digits).map fun n => (some n, cs.dropWhile Char.isDigit)

/-- The presentation that a text of at most one character asks for. -/
def readPresentation (cs : List Char) : Option (Option Presentation) :=
  match cs with
  | [] => some none
  | [letter] => (Presentation.ofLetter? letter).map some
  | _ => none

/-- The specification that a text stands for. A zero in front of the width pads with zeros behind the
sign, if no alignment is given. -/
def read? (cs : List Char) : Option FormatSpec := do
  guard !cs.isEmpty
  let (fill, align?, cs) := readAlign cs
  let (sign, cs) :=
    match cs.head?.bind SignRule.ofChar? with
    | some sign => (sign, cs.drop 1)
    | none => (.onlyMinus, cs)
  let (alternate, cs) := skip '#' cs
  let (zero, cs) := skip '0' cs
  let (fill, align?) := if zero && align?.isNone then ('0', some .afterSign) else (fill, align?)
  let width ← readCount (cs.takeWhile Char.isDigit)
  let (grouping, cs) := skip ',' (cs.dropWhile Char.isDigit)
  let (precision?, cs) ← readPrecision cs
  let presentation? ← readPresentation cs
  return { fill, align?, sign, alternate, width, grouping, precision?, presentation? }

def read (text : String) : Except EvalError FormatSpec :=
  match read? text.toList with
  | some spec => .ok spec
  | none => .error (.badFormat text)

/-- The greatest width and precision. -/
def fieldLimit : Nat := 1000

/-- Whether width and precision are within their limit. -/
def isModest (spec : FormatSpec) : Bool :=
  spec.width ≤ fieldLimit && spec.precision?.all (· ≤ fieldLimit)

end FormatSpec

abbrev Halves := List Char × List Char

/-- The parts before and behind the last colon outside brackets and quotes, where `before` holds the
characters read so far, last one first. A backslash takes the character behind it out of account. -/
def lastColonFrom (depth : Int) (quote : Option Char) (before : List Char) (found : Option Halves) :
    List Char → Option Halves
  | [] => found
  | ['\\'] => found
  | '\\' :: c :: cs => lastColonFrom depth quote (c :: '\\' :: before) found cs
  | c :: cs =>
    match quote with
    | some q => lastColonFrom depth (if c = q then none else quote) (c :: before) found cs
    | none =>
      if c = '\x27' ∨ c = '"' then lastColonFrom depth (some c) (c :: before) found cs
      else if c = '(' ∨ c = '[' ∨ c = '{' then lastColonFrom (depth + 1) none (c :: before) found cs
      else if c = ')' ∨ c = ']' ∨ c = '}' then lastColonFrom (depth - 1) none (c :: before) found cs
      else if c = ':' ∧ depth = 0 then
        lastColonFrom depth none (c :: before) (some (before.reverse, cs)) cs
      else lastColonFrom depth none (c :: before) found cs

/-- The parts before and behind the last colon outside brackets and quotes. -/
def lastColon? (cs : List Char) : Option Halves :=
  lastColonFrom 0 none [] none cs

/-- Splits an interpolation into its expression and its format specification. What stands behind the
last colon counts as a specification only if it is one. -/
def splitSpec (cs : List Char) : List Char × Option (List Char) :=
  match lastColon? cs with
  | none => (trim cs, none)
  | some (before, spec) =>
    let code := trim before
    if !code.isEmpty && (FormatSpec.read? spec).isSome then (code, some spec) else (trim cs, none)

end BranchingStory.Script
