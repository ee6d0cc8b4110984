import BranchingStory.Script.Fault
import BranchingStory.Text.Blank
import BranchingStory.Text.Letter
import BranchingStory.Number.Reading

/-!
# Cutting a fragment into tokens

A fragment is cut from the left: white space is skipped, and each token takes the longest run of
characters that its first ones allow. Columns count characters.
-/

namespace BranchingStory.Script

open Text Number

abbrev SyntaxError := SyntaxFault × Nat

/-- A part of a number literal: whether it is there and makes the number a float, its characters, and
what follows them. -/
abbrev NumberPart := Bool × List Char × List Char

/-- A character in front of the point of a number. -/
def isLeading (c : Char) : Bool :=
  c.isDigit || c == '_'

/-- The point and the digits behind it, unless another point follows. -/
def scanFraction (cs : List Char) : NumberPart :=
  match cs with
  | '.' :: '.' :: _ => (false, [], cs)
  | '.' :: after => (true, '.' :: after.takeWhile Char.isDigit, after.dropWhile Char.isDigit)
  | _ => (false, [], cs)

/-- The sign in front of an exponent and what follows it. -/
def splitSign (cs : List Char) : List Char × List Char :=
  match cs with
  | '+' :: rest => (['+'], rest)
  | '-' :: rest => (['-'], rest)
  | _ => ([], cs)

def scanExponent (cs : List Char) : NumberPart :=
  match cs with
  | [] => (false, [], cs)
  | e :: after =>
    if e = 'e' ∨ e = 'E' then
      let (sign, digits) := splitSign after
      if (digits.takeWhile Char.isDigit).isEmpty then (false, [], cs)
      else (true, e :: sign ++ digits.takeWhile Char.isDigit, digits.dropWhile Char.isDigit)
    else (false, [], cs)

/-- The characters of a number literal and what follows them; `true` for a float. Underscores may stand
among the digits before the point. -/
def scanNumber (cs : List Char) : NumberPart :=
  let (pointed, fraction, rest) := scanFraction (cs.dropWhile isLeading)
  let (scaled, exponent, rest) := scanExponent rest
  (pointed || scaled, cs.takeWhile isLeading ++ fraction ++ exponent, rest)

def numberToken (isFloat : Bool) (literal : List Char) : Except SyntaxFault Token :=
  let digits := literal.filter (· != '_')
  if isFloat then
    match readFloat? digits with
    | some x => .ok (.float x)
    | none => .error .badFloat
  else
    match readInt? digits with
    | some n => .ok (.int n)
    | none => .error .integerTooLarge

/-- The character that a backslash and `c` stand for. -/
def unescape (c : Char) : Char :=
  match c with
  | 'n' => '\n'
  | 't' => '\t'
  | 'r' => '\r'
  | '0' => '\x00'
  | c => c

/-- The text of a string literal after its opening quote, and what follows the closing one; the text
read so far is given last character first. A backslash at the very end stands for itself. -/
def scanString (quote : Char) (text : List Char) : List Char → Option (List Char × List Char)
  | [] => none
  | '\\' :: c :: cs => scanString quote (unescape c :: text) cs
  | c :: cs => if c = quote then some (text.reverse, cs) else scanString quote (c :: text) cs

/-- The signs and their tokens. A sign stands in front of those that it begins with. -/
def signs : List (List Char × Token) :=
  [(['/', '/', '='], .assign .floorDiv), (['*', '*', '='], .assign .pow), (['*', '*'], .doubleStar),
    (['/', '/'], .doubleSlash), (['=', '='], .eqEq), (['!', '='], .notEq), (['<', '='], .ltEq),
    (['>', '='], .gtEq), (['+', '='], .assign .add), (['-', '='], .assign .sub),
    (['*', '='], .assign .mul), (['/', '='], .assign .div), (['%', '='], .assign .mod),
    (['&', '&'], .and), (['|', '|'], .or), (['+'], .plus), (['-'], .minus), (['*'], .star),
    (['/'], .slash), (['%'], .percent), (['<'], .lt), (['>'], .gt), (['='], .assign .set), (['!'], .not),
    (['('], .leftParen), ([')'], .rightParen), (['['], .leftBracket), ([']'], .rightBracket),
    (['{'], .leftBrace), (['}'], .rightBrace), ([','], .comma), ([':'], .colon), (['.'], .dot)]

/-- The sign at the beginning of a text and the number of its characters, the longest one first. -/
def signToken? (cs : List Char) : Option (Token × Nat) :=
  (signs.find? (·.1.isPrefixOf cs)).map fun (sign, token) => (token, sign.length)

/-- Whether a number literal starts here: at a digit, or at a point before a digit. -/
def startsNumber : List Char → Bool
  | '.' :: c :: _ => c.isDigit
  | c :: _ => c.isDigit
  | [] => false

/-- The first token of a text that does not begin with white space, and what follows it. -/
def scanToken (cs : List Char) : Except SyntaxFault (Token × List Char) :=
  match cs with
  | [] => .error .emptyFragment
  | c :: after =>
    if startsNumber cs then
      let (isFloat, literal, rest) := scanNumber cs
      (numberToken isFloat literal).map fun token => (token, rest)
    else if isWordStart c then
      let word := String.ofList (cs.takeWhile isWordChar)
      .ok ((Token.ofKeyword? word).getD (.name word), cs.dropWhile isWordChar)
    else if c = '"' ∨ c = '\x27' then
      match scanString c [] after with
      | some (text, rest) => .ok (.str (String.ofList text), rest)
      | none => .error .unclosedString
    else
      match signToken? cs with
      | some (token, width) => .ok (token, cs.drop width)
      | none => .error (.strayCharacter c)

/-- The tokens of a text that starts at a column. Every token takes a character, so that as many steps
as there are characters are enough. -/
def scanTokens (column : Nat) (cs : List Char) : Nat → Except SyntaxError (List Located)
  | 0 => .ok []
  | fuel + 1 =>
    let text := cs.dropWhile isBlank
    let start := column + (cs.length - text.length)
    match text with
    | [] => .ok []
    | _ =>
      match scanToken text with
      | .error fault => .error (fault, start)
      | .ok (token, rest) =>
        (scanTokens (start + (text.length - rest.length)) rest fuel).map (⟨token, start⟩ :: ·)

def tokens (cs : List Char) : Except SyntaxError (List Located) :=
  scanTokens 0 cs (cs.length + 1)

end BranchingStory.Script
