import BranchingStory.Document.Basic
import BranchingStory.Text.Printable

/-!
# Writing RON

One item or field a line, indented by four spaces, with a comma after each. A tag stands in front of the
bracket of its content.
-/

namespace BranchingStory.Ron

/-- The lower-case hexadecimal digits of a number. -/
def hexDigits (n : Nat) : List Char :=
  Nat.toDigits 16 n

/-- How a character is written inside a string: what is not shown by its number. -/
def escapeChar (c : Char) : List Char :=
  match c with
  | '\x00' => ['\\', '0']
  | '\t' => ['\\', 't']
  | '\r' => ['\\', 'r']
  | '\n' => ['\\', 'n']
  | '\x27' => ['\\', '\x27']
  | '"' => ['\\', '"']
  | '\\' => ['\\', '\\']
  | c => if Text.isShown c then [c] else ['\\', 'u', '{'] ++ hexDigits c.toNat ++ ['}']

def quoted (text : String) : String :=
  String.ofList ('"' :: text.toList.flatMap escapeChar ++ ['"'])

/-- The spaces in front of a line of an indentation level. -/
def indent (level : Nat) : String :=
  String.ofList (List.replicate (4 * level) ' ')

/-- The lines inside brackets of an indentation level. -/
def enclose (level : Nat) (opening closing : String) (parts : List String) : String :=
  if parts.isEmpty then opening ++ closing
  else
    opening ++ "\n" ++ String.join (parts.map fun part => indent (level + 1) ++ part ++ ",\n") ++
      indent level ++ closing

mutual

/-- The text of a document at an indentation level. -/
def printAt (level : Nat) : Doc → String
  | .none => "None"
  | .some content => "Some(" ++ printAt level content ++ ")"
  | .bool true => "true"
  | .bool false => "false"
  | .nat n => toString n
  | .str s => quoted s
  | .list items => enclose level "[" "]" (printItems (level + 1) items)
  | .table entries => enclose level "\x7b" "\x7d" (printEntries (level + 1) entries)
  | .record fields => enclose level "(" ")" (printFields (level + 1) fields)
  | .unit tag => tag
  | .tagged tag content => tag ++ "(" ++ printAt level content ++ ")"
  | .taggedRecord tag fields => tag ++ enclose level "(" ")" (printFields (level + 1) fields)

def printItems (level : Nat) : List Doc → List String
  | [] => []
  | item :: items => printAt level item :: printItems level items

def printEntries (level : Nat) : List (String × Doc) → List String
  | [] => []
  | (key, value) :: entries =>
    (quoted key ++ ": " ++ printAt level value) :: printEntries level entries

def printFields (level : Nat) : List (String × Doc) → List String
  | [] => []
  | (name, value) :: fields => (name ++ ": " ++ printAt level value) :: printFields level fields

end

/-- The greatest depth of a document; tags do not count when it is written. -/
def maxDepth : Nat := 128

/-- The text of a document; none if values stand too deep in one another. -/
def print? (doc : Doc) : Option String :=
  if doc.depth 0 ≤ maxDepth then some (printAt 0 doc) else none

end BranchingStory.Ron
