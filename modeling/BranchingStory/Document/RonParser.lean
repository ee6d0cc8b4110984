import BranchingStory.Document.Basic
import BranchingStory.Json.Parser

/-!
# Reading RON

The notation of the printer, with any white space between its parts and a comma after the last item or
without one.
-/

namespace BranchingStory.Ron

open Json (isSpace hexDigit?)

/-- The number of hexadecimal digits up to a closing brace, and what follows the brace. -/
def codeUpToBrace (code : Nat) : List Char → Option (Nat × List Char)
  | [] => none
  | '}' :: cs => some (code, cs)
  | c :: cs => (hexDigit? c).bind fun digit => codeUpToBrace (16 * code + digit) cs

def charWithCode? (code : Nat) : Option Char :=
  if code.isValidChar then some (Char.ofNat code) else none

/-- The character that a backslash and a letter stand for. -/
def escape? : Char → Option Char
  | '0' => some '\x00'
  | 't' => some '\t'
  | 'r' => some '\r'
  | 'n' => some '\n'
  | '\x27' => some '\x27'
  | '"' => some '"'
  | '\\' => some '\\'
  | _ => none

/-- The text of a string behind its opening quote, and what follows the closing one; the text read so
far is given last character first. -/
def text? (text : List Char) (cs : List Char) : Nat → Option (String × List Char)
  | 0 => none
  | fuel + 1 =>
    match cs with
    | [] => none
    | '"' :: cs => some (String.ofList text.reverse, cs)
    | '\\' :: 'u' :: '{' :: cs => do
      let (code, cs) ← codeUpToBrace 0 cs
      let c ← charWithCode? code
      text? (c :: text) cs fuel
    | '\\' :: c :: cs => do
      let c ← escape? c
      text? (c :: text) cs fuel
    | c :: cs => text? (c :: text) cs fuel

def isNameChar (c : Char) : Bool :=
  c.isAlphanum || c == '_'

def skipSpace (cs : List Char) : List Char :=
  cs.dropWhile isSpace

/-- The name and what follows its colon, if a field starts here. -/
def fieldName? (cs : List Char) : Option (String × List Char) :=
  let name := cs.takeWhile isNameChar
  match skipSpace (cs.dropWhile isNameChar) with
  | ':' :: rest => if name.isEmpty then none else some (String.ofList name, rest)
  | _ => none

/-- Skips a comma, or leaves the closing bracket where it is. -/
def skipComma (closing : Char) (cs : List Char) : Option (List Char) :=
  match skipSpace cs with
  | ',' :: rest => some (skipSpace rest)
  | c :: rest => if c = closing then some (c :: rest) else none
  | [] => none

mutual

/-- The document at the beginning of a text, and what follows it. -/
def doc? (cs : List Char) : Nat → Option (Doc × List Char)
  | 0 => none
  | fuel + 1 =>
    match skipSpace cs with
    | '"' :: rest => (text? [] rest fuel).map fun (s, rest) => (.str s, rest)
    | '[' :: rest => (items? (skipSpace rest) fuel).map fun (items, rest) => (.list items, rest)
    | '{' :: rest => (entries? (skipSpace rest) fuel).map fun (entries, rest) => (.table entries, rest)
    | '(' :: rest => (fields? (skipSpace rest) fuel).map fun (fields, rest) => (.record fields, rest)
    | c :: rest =>
      if c.isDigit then
        let digits := (c :: rest).takeWhile Char.isDigit
        some (.nat (Number.natOfDigits digits), (c :: rest).dropWhile Char.isDigit)
      else
        let name := (c :: rest).takeWhile isNameChar
        if name.isEmpty then none
        else named? (String.ofList name) ((c :: rest).dropWhile isNameChar) fuel
    | [] => none

def named? (name : String) (cs : List Char) : Nat → Option (Doc × List Char)
  | 0 => none
  | fuel + 1 =>
    match name, cs with
    | "None", _ => some (.none, cs)
    | "true", _ => some (.bool true, cs)
    | "false", _ => some (.bool false, cs)
    | name, '(' :: rest =>
      let rest := skipSpace rest
      if name ≠ "Some" ∧ (fieldName? rest).isSome then
        (fields? rest fuel).map fun (fields, rest) => (.taggedRecord name fields, rest)
      else do
        let (content, rest) ← doc? rest fuel
        match skipSpace rest with
        | ')' :: rest => return (if name = "Some" then .some content else .tagged name content, rest)
        | _ => none
    | name, _ => some (.unit name, cs)

/-- The items of a list and what follows its closing bracket. -/
def items? (cs : List Char) : Nat → Option (List Doc × List Char)
  | 0 => none
  | fuel + 1 =>
    match cs with
    | ']' :: rest => some ([], rest)
    | cs => do
      let (item, rest) ← doc? cs fuel
      let rest ← skipComma ']' rest
      let (items, rest) ← items? rest fuel
      return (item :: items, rest)

/-- The entries of a table and what follows its closing brace. -/
def entries? (cs : List Char) : Nat → Option (List (String × Doc) × List Char)
  | 0 => none
  | fuel + 1 =>
    match cs with
    | '}' :: rest => some ([], rest)
    | '"' :: rest => do
      let (key, rest) ← text? [] rest fuel
      match skipSpace rest with
      | ':' :: rest => do
        let (value, rest) ← doc? rest fuel
        let rest ← skipComma '}' rest
        let (entries, rest) ← entries? rest fuel
        return ((key, value) :: entries, rest)
      | _ => none
    | _ => none

/-- The fields of a record and what follows its closing bracket. -/
def fields? (cs : List Char) : Nat → Option (List (String × Doc) × List Char)
  | 0 => none
  | fuel + 1 =>
    match cs with
    | ')' :: rest => some ([], rest)
    | cs => do
      let (name, rest) ← fieldName? cs
      let (value, rest) ← doc? rest fuel
      let rest ← skipComma ')' rest
      let (fields, rest) ← fields? rest fuel
      return ((name, value) :: fields, rest)

end

/-- The greatest depth at which a document is read; a tag counts as a level. -/
def maxReadDepth : Nat := 128

/-- The document that a text is; none if values stand too deep in one another. -/
def parse? (source : String) : Option Doc := do
  let cs := source.toList
  let (doc, rest) ← doc? cs (2 * cs.length + 2)
  guard (rest.all isSpace && doc.depth 1 ≤ maxReadDepth)
  return doc

end BranchingStory.Ron
