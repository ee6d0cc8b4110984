import BranchingStory.Json.Number

/-!
# Reading JSON

Objects are read with all their fields as written. Arrays and objects that stand in one another deeper
than a limit are unfit.
-/

namespace BranchingStory.Json

def isSpace (c : Char) : Bool :=
  c == ' ' || c == '\n' || c == '\t' || c == '\r'

def hexDigit? (c : Char) : Option Nat :=
  if c.isDigit then some (c.toNat - '0'.toNat)
  else if 'a' ≤ c ∧ c ≤ 'f' then some (c.toNat - 'a'.toNat + 10)
  else if 'A' ≤ c ∧ c ≤ 'F' then some (c.toNat - 'A'.toNat + 10)
  else none

def hexUnit? (a b c d : Char) : Option Nat := do
  return 4096 * (← hexDigit? a) + 256 * (← hexDigit? b) + 16 * (← hexDigit? c) + (← hexDigit? d)

/-- The character that a backslash and a letter stand for. -/
def escape? : Char → Option Char
  | '"' => some '"'
  | '\\' => some '\\'
  | '/' => some '/'
  | 'b' => some '\x08'
  | 'f' => some '\x0c'
  | 'n' => some '\n'
  | 'r' => some '\r'
  | 't' => some '\t'
  | _ => none

/-- The units of a string behind its opening quote, and what follows the closing one; the units read so
far are given last one first. A unit is the code of a character, or half of a pair written by number. -/
def units? (units : List Nat) : List Char → Option (List Nat × List Char)
  | [] => none
  | '"' :: cs => some (units.reverse, cs)
  | '\\' :: 'u' :: a :: b :: c :: d :: cs =>
    match hexUnit? a b c d with
    | none => none
    | some unit => units? (unit :: units) cs
  | '\\' :: c :: cs =>
    match escape? c with
    | none => none
    | some c => units? (c.toNat :: units) cs
  | c :: cs => if c < ' ' ∨ c = '\\' then none else units? (c.toNat :: units) cs

/-- The characters that units stand for, behind those found so far, which are given last one first.
Characters beyond the basic plane may be written as a high and a low half; none if a half stands
alone. -/
def joinHalves (text : List Char) : List Nat → Option (List Char)
  | [] => some text.reverse
  | unit :: units =>
    if 0xD800 ≤ unit ∧ unit < 0xDC00 then
      match units with
      | low :: units =>
        if 0xDC00 ≤ low ∧ low < 0xE000 then
          joinHalves (Char.ofNat (0x10000 + 1024 * (unit - 0xD800) + (low - 0xDC00)) :: text) units
        else none
      | [] => none
    else if 0xDC00 ≤ unit ∧ unit < 0xE000 then none
    else joinHalves (Char.ofNat unit :: text) units

/-- The string behind its opening quote, if its characters are whole, and what follows it. -/
def text? (cs : List Char) : Option (Option String × List Char) :=
  (units? [] cs).map fun (units, rest) => ((joinHalves [] units).map String.ofList, rest)

/-- How deep arrays and objects may stand in one another. -/
def maxDepth : Nat := 127

/-- What is said `depth` levels above the deepest one that can be held. -/
def within (depth : Nat) (said : Written) : Written :=
  if depth = 0 then .unfit else said

mutual

/-- What the beginning of a text says, and what follows it. -/
def value? (depth : Nat) (cs : List Char) : Nat → Option (Written × List Char)
  | 0 => none
  | fuel + 1 =>
    match cs.dropWhile isSpace with
    | 'n' :: 'u' :: 'l' :: 'l' :: rest => some (.null, rest)
    | 't' :: 'r' :: 'u' :: 'e' :: rest => some (.bool true, rest)
    | 'f' :: 'a' :: 'l' :: 's' :: 'e' :: rest => some (.bool false, rest)
    | '"' :: rest => (text? rest).map fun (text?, rest) => (.orUnfit .str text?, rest)
    | '[' :: rest =>
      match rest.dropWhile isSpace with
      | ']' :: rest => some (within depth (.arr []), rest)
      | rest => (items? (depth - 1) rest fuel).map fun (items, rest) => (within depth (.arr items), rest)
    | '{' :: rest =>
      match rest.dropWhile isSpace with
      | '}' :: rest => some (within depth (.obj []), rest)
      | rest =>
        (fields? (depth - 1) rest fuel).map fun (fields, rest) =>
          (within depth (.ofFields fields), rest)
    | rest => number? rest

/-- The items of an array and what follows its closing bracket. -/
def items? (depth : Nat) (cs : List Char) : Nat → Option (List Written × List Char)
  | 0 => none
  | fuel + 1 => do
    let (item, rest) ← value? depth cs fuel
    match rest.dropWhile isSpace with
    | ',' :: rest => do
      let (items, rest) ← items? depth rest fuel
      return (item :: items, rest)
    | ']' :: rest => return ([item], rest)
    | _ => none

/-- The fields of an object and what follows its closing brace. -/
def fields? (depth : Nat) (cs : List Char) : Nat → Option (List (Option String × Written) × List Char)
  | 0 => none
  | fuel + 1 =>
    match cs.dropWhile isSpace with
    | '"' :: rest => do
      let (key?, rest) ← text? rest
      match rest.dropWhile isSpace with
      | ':' :: rest => do
        let (value, rest) ← value? depth rest fuel
        match rest.dropWhile isSpace with
        | ',' :: rest => do
          let (fields, rest) ← fields? depth rest fuel
          return ((key?, value) :: fields, rest)
        | '}' :: rest => return ([(key?, value)], rest)
        | _ => none
      | _ => none
    | _ => none

end

/-- What a text says, with the fields of its objects as written. -/
def read? (source : String) : Option Written := do
  let cs := source.toList
  let (said, rest) ← value? maxDepth cs (2 * cs.length + 2)
  guard (rest.all isSpace)
  return said

/-- The value that a text is, with the fields of its objects as written. -/
def parse? (source : String) : Option Json :=
  (read? source).bind (·.value?)

end BranchingStory.Json
