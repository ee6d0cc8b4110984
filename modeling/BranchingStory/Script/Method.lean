import BranchingStory.Script.Function
import BranchingStory.Text.Case
import BranchingStory.Text.Letter

/-!
# Methods

The methods of texts, lists and dictionaries. A method that changes its receiver changes it also when
it fails half-way.
-/

namespace BranchingStory.Script

variable {Obj : Type} [HostObject Obj]

def textArg (args : CallArgs Obj) (place : Nat) (name method : String) : Except EvalError String := do
  match ← required args place name method with
  | .str text => .ok text
  | value =>
    .error (.typeMismatch (method ++ "() argument must be str, not '" ++ value.typeName ++ "'"))

/-- The first letter of each run of letters in upper case, the others in lower case. -/
def titleCase (inWord : Bool) : List Char → List Char
  | [] => []
  | c :: cs =>
    if Text.isLetter c then (if inWord then Text.lowerChar c else Text.upperChar c) ++ titleCase true cs
    else c :: titleCase false cs

/-- A text without the given characters at its ends; without an argument they are white space. -/
def stripped (args : CallArgs Obj) (cs : List Char) : List Char :=
  match args.positional.head? with
  | some (.str set) => Text.stripWhile (fun c => set.toList.contains c) cs
  | _ => Text.trim cs

/-- The words of a text, or its parts between separators. -/
def splitParts (args : CallArgs Obj) (cs : List Char) : Except EvalError (List (List Char)) := do
  match args.get? 0 "sep" with
  | none | some .none => return Text.words cs
  | some _ =>
    let sep ← textArg args 0 "sep" "split"
    if sep.isEmpty then throw (.typeMismatch "empty separator")
    return Text.splitText sep.toList cs

/-- The text of an item that is to be joined with others. -/
def joinItem (item : Value Obj) : Except EvalError String :=
  match item with
  | .str part => .ok part
  | item =>
    .error (.typeMismatch
      ("sequence item: expected str instance, '" ++ item.typeName ++ "' found"))

def textMethod (text method : String) (args : CallArgs Obj) : Except EvalError (Value Obj) :=
  let cs := text.toList
  match method with
  | "upper" => .ok (.str (String.ofList (Text.upper cs)))
  | "lower" => .ok (.str (String.ofList (Text.lower cs)))
  | "strip" => .ok (.str (String.ofList (stripped args cs)))
  | "title" => .ok (.str (String.ofList (titleCase false cs)))
  | "split" => (splitParts args cs).map fun parts => .list (parts.map fun p => .str (String.ofList p))
  | "join" => do
    let items ← iterate (← required args 0 "iterable" method)
    let parts ← items.mapM joinItem
    return .str (String.intercalate text parts)
  | "find" => do
    let part ← textArg args 0 "sub" method
    match Text.cutAt? part.toList cs with
    | some (before, _) => exactInt before.length
    | none => return .int (-1)
  | _ => .error (.noAttribute "str" method)

/-- The position of the item that a list gives away; the last one without an argument. -/
def popPosition (args : CallArgs Obj) (length : Nat) : Except EvalError Nat :=
  if length = 0 then .error (.badIndex "pop from empty list")
  else
    match ((args.get? 0 "index").getD (.int (-1))).asInt? with
    | none => .error (.typeMismatch "pop() index must be int")
    | some i =>
      match position? i.toInt length with
      | some place => .ok place
      | none => .error (.badIndex "pop index out of range")

/-- A method of lists: its answer and the items afterwards. -/
def listMethod (items : List (Value Obj)) (method : String) (args : CallArgs Obj) :
    Except EvalError (Value Obj) × List (Value Obj) :=
  match method with
  | "append" =>
    match required args 0 "object" method with
    | .ok value => (.ok .none, items ++ [value])
    | .error reason => (.error reason, items)
  | "extend" =>
    match required args 0 "iterable" method >>= iterate with
    | .ok more => (.ok .none, items ++ more)
    | .error reason => (.error reason, items)
  | "pop" =>
    match popPosition args items.length with
    | .ok place => (.ok (itemAt items place), items.eraseIdx place)
    | .error reason => (.error reason, items)
  | "reverse" => (.ok .none, items.reverse)
  | "sort" =>
    let (answer, items) := sortValues (isSet args "reverse") items
    (answer.map fun () => .none, items)
  | "clear" => (.ok .none, [])
  | _ => (.error (.noAttribute "list" method), items)

/-- The key that a method of dictionaries is called with. -/
def keyArg (args : CallArgs Obj) (method : String) : Except EvalError String := do
  dictKey (← required args 0 "key" method)

/-- A method of dictionaries: its answer and the entries afterwards. -/
def dictMethod (fields : List (String × Value Obj)) (method : String) (args : CallArgs Obj) :
    Except EvalError (Value Obj) × List (String × Value Obj) :=
  match method with
  | "get" =>
    ((keyArg args method).map fun key =>
      (Assoc.get? fields key).getD ((args.get? 1 "default").getD .none), fields)
  | "keys" => (.ok (.list (fields.map fun (key, _) => .str key)), fields)
  | "values" => (.ok (.list (Assoc.values fields)), fields)
  | "items" => (.ok (.list (fields.map fun (key, value) => .list [.str key, value])), fields)
  | "pop" =>
    match keyArg args method with
    | .error reason => (.error reason, fields)
    | .ok key =>
      match Assoc.get? fields key, args.get? 1 "default" with
      | some value, _ => (.ok value, Assoc.erase fields key)
      | none, some value => (.ok value, fields)
      | none, none => (.error (.missingKey ("'" ++ key ++ "'")), fields)
  | "clear" => (.ok .none, [])
  | _ => (.error (.noAttribute "dict" method), fields)

/-- Whether a method may change its receiver, so that it has to be called on the value in its place. -/
def mutates (receiver : Value Obj) (method : String) : Bool :=
  match receiver with
  | .list _ => ["append", "extend", "pop", "reverse", "sort", "clear"].contains method
  | .dict _ => ["pop", "clear"].contains method
  | .object _ => true
  | _ => false

/-- Calls a method: its answer and the receiver afterwards. -/
def callMethod (receiver : Value Obj) (method : String) (args : CallArgs Obj) :
    Except EvalError (Value Obj) × Value Obj :=
  match receiver with
  | .str text => (textMethod text method args, receiver)
  | .list items =>
    let (answer, items) := listMethod items method args
    (answer, .list items)
  | .dict fields =>
    let (answer, fields) := dictMethod fields method args
    (answer, .dict fields)
  | .object o =>
    let (answer, o) := HostObject.callMethod o method args
    (answer, .object o)
  | receiver => (.error (.noAttribute receiver.typeName method), receiver)

end BranchingStory.Script
