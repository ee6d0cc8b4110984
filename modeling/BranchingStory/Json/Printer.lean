import BranchingStory.Json.Number

/-!
# Writing JSON

A compact form on one line and a form with one item or field a line, indented by two spaces.
-/

namespace BranchingStory.Json

/-- The lower-case hexadecimal digit of a number below sixteen. -/
def hexChar (n : Nat) : Char :=
  Nat.digitChar n

def escapeChar (c : Char) : List Char :=
  match c with
  | '"' => ['\\', '"']
  | '\\' => ['\\', '\\']
  | '\x08' => ['\\', 'b']
  | '\x0c' => ['\\', 'f']
  | '\n' => ['\\', 'n']
  | '\r' => ['\\', 'r']
  | '\t' => ['\\', 't']
  | c =>
    if c < ' ' then ['\\', 'u', '0', '0', hexChar (c.toNat / 16), hexChar (c.toNat % 16)] else [c]

def quoted (text : String) : String :=
  String.ofList ('"' :: text.toList.flatMap escapeChar ++ ['"'])

/-- A value without items or fields. Floats that are no finite numbers have no JSON form and become
null. -/
def scalarText : Json → String
  | .null => "null"
  | .bool true => "true"
  | .bool false => "false"
  | .int n => toString n
  | .float x => if x.isFinite then floatText x else "null"
  | .str s => quoted s
  | _ => ""

/-- The texts between opening and closing bracket, with commas between them. -/
def enclose (opening closing : String) (parts : List String) : String :=
  opening ++ String.intercalate "," parts ++ closing

mutual

def compact : Json → String
  | .arr items => enclose "[" "]" (compactItems items)
  | .obj fields => enclose "\x7b" "\x7d" (compactFields fields)
  | value => value.scalarText

def compactItems : List Json → List String
  | [] => []
  | item :: items => item.compact :: compactItems items

def compactFields : List (String × Json) → List String
  | [] => []
  | (key, value) :: fields => (quoted key ++ ":" ++ value.compact) :: compactFields fields

end

/-- A line break followed by the spaces of an indentation level. -/
def lineBreak (level : Nat) : String :=
  "\n" ++ String.ofList (List.replicate (2 * level) ' ')

/-- The texts of the lines inside brackets of an indentation level. -/
def encloseLines (level : Nat) (opening closing : String) (parts : List String) : String :=
  if parts.isEmpty then opening ++ closing
  else
    opening ++ String.intercalate "," (parts.map (lineBreak (level + 1) ++ ·)) ++ lineBreak level ++
      closing

mutual

/-- The indented text of a value at an indentation level. -/
def prettyAt (level : Nat) : Json → String
  | .arr items => encloseLines level "[" "]" (prettyItems (level + 1) items)
  | .obj fields => encloseLines level "\x7b" "\x7d" (prettyFields (level + 1) fields)
  | value => value.scalarText

def prettyItems (level : Nat) : List Json → List String
  | [] => []
  | item :: items => item.prettyAt level :: prettyItems level items

def prettyFields (level : Nat) : List (String × Json) → List String
  | [] => []
  | (key, value) :: fields => (quoted key ++ ": " ++ value.prettyAt level) :: prettyFields level fields

end

def pretty (value : Json) : String :=
  value.prettyAt 0

end BranchingStory.Json
