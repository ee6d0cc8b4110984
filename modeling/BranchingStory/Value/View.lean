import BranchingStory.Host.Object
import BranchingStory.Number.Decimal
import BranchingStory.Assoc

/-!
# Type names, texts, equality and order of values

Numbers and truth values compare as numbers, two integers exactly and all others as floats. Only texts,
lists and numbers have an order.
-/

namespace BranchingStory.Value

variable {Obj : Type}

/-- The text of a float: one decimal place for integers below `10 ^ 16`, and otherwise the fewest digits
that read back, without an exponent. -/
def floatText (x : Float) : String :=
  if x.isNaN then "nan"
  else
    let sign := if Number.signBit x then "-" else ""
    let digits :=
      if x.isInf then ['i', 'n', 'f']
      else if Number.isIntegral x && x.abs < 1e16 then Number.fixedPlaces x 1
      else (Number.shortest .up x).positional
    sign ++ String.ofList digits

/-- How a character is written inside a quoted text. -/
def quoteChar : Char → List Char
  | '\\' => ['\\', '\\']
  | '\x27' => ['\\', '\x27']
  | c => [c]

def quoted (text : String) : String :=
  String.ofList ('\x27' :: text.toList.flatMap quoteChar ++ ['\x27'])

section Texts

variable [HostText Obj]

def typeName : Value Obj → String
  | .none => "NoneType"
  | .bool _ => "bool"
  | .int _ => "int"
  | .float _ => "float"
  | .str _ => "str"
  | .list _ => "list"
  | .dict _ => "dict"
  | .object o => HostText.typeName o

mutual

/-- The text that a value becomes inside other text. -/
def display : Value Obj → String
  | .none => "None"
  | .bool true => "True"
  | .bool false => "False"
  | .int i => toString i.toInt
  | .float f => floatText f
  | .str s => s
  | .list items => "[" ++ String.intercalate ", " (displayItems items) ++ "]"
  | .dict fields => "\x7b" ++ String.intercalate ", " (displayFields fields) ++ "\x7d"
  | .object o => HostText.display o

def displayItems : List (Value Obj) → List String
  | [] => []
  | .str s :: items => quoted s :: displayItems items
  | item :: items => item.display :: displayItems items

/-- The texts of dictionary entries, values that are strings in quotes. -/
def displayFields : List (String × Value Obj) → List String
  | [] => []
  | (key, .str s) :: fields => ("'" ++ key ++ "': " ++ quoted s) :: displayFields fields
  | (key, value) :: fields => ("'" ++ key ++ "': " ++ value.display) :: displayFields fields

end

/-- The text of a value inside a collection: strings are quoted. -/
def repr : Value Obj → String
  | .str s => quoted s
  | value => value.display

end Texts

/-- Equality of two numbers, if both values count as numbers. -/
def sameNumber (a b : Value Obj) : Bool :=
  match a.asFloat?, b.asFloat? with
  | some x, some y => x == y
  | _, _ => false

section Equality

variable [HostObject Obj]

mutual

/-- Equality of values; dictionaries are equal whatever the order of their keys. -/
def same : Value Obj → Value Obj → Bool
  | .none, .none => true
  | .str a, .str b => a == b
  | .list as, .list bs => sameItems as bs
  | .dict as, .dict bs => as.length == bs.length && sameFields as bs
  | .object a, .object b => HostObject.same a b
  | .bool a, .bool b => a == b
  | .int a, .int b => a == b
  | a, b => sameNumber a b

def sameItems : List (Value Obj) → List (Value Obj) → Bool
  | [], [] => true
  | a :: as, b :: bs => a.same b && sameItems as bs
  | _, _ => false

/-- Whether each entry of the first dictionary has an equal one in the second. -/
def sameFields (as : List (String × Value Obj)) (bs : List (String × Value Obj)) : Bool :=
  match as with
  | [] => true
  | (key, a) :: as =>
    (match Assoc.get? bs key with
      | some b => a.same b
      | Option.none => false) && sameFields as bs

end

end Equality

/-- The order of two numbers, if both values count as numbers and the order tells. -/
def compareNumbers? (a b : Value Obj) : Option Ordering :=
  match a.asFloat?, b.asFloat? with
  | some x, some y =>
    if x < y then some .lt else if x == y then some .eq else if y < x then some .gt else Option.none
  | _, _ => Option.none

mutual

def compare? : Value Obj → Value Obj → Option Ordering
  | .str a, .str b => some (compare a b)
  | .list as, .list bs => compareItems? as bs
  | .int a, .int b => some (compare a.toInt b.toInt)
  | a, b => compareNumbers? a b

/-- The order of two lists by their first different items, or else by their lengths. -/
def compareItems? : List (Value Obj) → List (Value Obj) → Option Ordering
  | [], [] => some .eq
  | [], _ :: _ => some .lt
  | _ :: _, [] => some .gt
  | a :: as, b :: bs =>
    match a.compare? b with
    | some .eq => compareItems? as bs
    | other => other

end

end BranchingStory.Value
