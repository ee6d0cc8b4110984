import BranchingStory.Script.Arithmetic
import BranchingStory.Script.Item
import BranchingStory.Script.Sorting
import BranchingStory.Random
import BranchingStory.Number.Reading

/-!
# Functions

The functions that every story can call. All but three depend on their arguments alone; those three
draw random numbers.
-/

namespace BranchingStory.Script

open Number

variable {Obj : Type} [HostObject Obj]

/-- The functions of every story. -/
inductive Function where
  | bool
  | chance
  | dict
  | enumerate
  | float
  | int
  | len
  | list
  | max
  | min
  | randomChoice
  | randomInt
  | range
  | round
  | sorted
  | str
  | sum
  deriving DecidableEq, Repr

def Function.ofName? (name : String) : Option Function :=
  match name with
  | "bool" => some .bool
  | "chance" => some .chance
  | "dict" => some .dict
  | "enumerate" => some .enumerate
  | "float" => some .float
  | "int" => some .int
  | "len" => some .len
  | "list" => some .list
  | "max" => some .max
  | "min" => some .min
  | "random_choice" => some .randomChoice
  | "random_int" => some .randomInt
  | "range" => some .range
  | "round" => some .round
  | "sorted" => some .sorted
  | "str" => some .str
  | "sum" => some .sum
  | _ => none

def required (args : CallArgs Obj) (place : Nat) (name function : String) :
    Except EvalError (Value Obj) :=
  match args.get? place name with
  | some value => .ok value
  | none =>
    .error (.typeMismatch (function ++ "() missing required argument '" ++ name ++ "'"))

/-- An argument that must be an integer or truth value. -/
def integerArg (args : CallArgs Obj) (place : Nat) (name function : String) :
    Except EvalError Int64 := do
  let value ← required args place name function
  match value.asInt? with
  | some i => .ok i
  | none =>
    .error (.typeMismatch
      (function ++ "() argument '" ++ name ++ "' must be int, not '" ++ value.typeName ++ "'"))

/-- Whether a keyword argument is given and holds. -/
def isSet (args : CallArgs Obj) (name : String) : Bool :=
  (args.named.lookup name).any (·.holds)

/-- The greatest float magnitude that is turned into an integer is below this bound. -/
def integerBound : Float := 9.2e18

/-- The integer that an integral float of small magnitude stands for. -/
def integerOf (x : Float) : Except EvalError (Value Obj) :=
  if x.isFinite && x.abs < integerBound then exactInt (truncate x) else .error .overflow

/-- The number of characters, items, entries, or what an object says of itself. -/
def lengthOf (args : CallArgs Obj) : Except EvalError (Value Obj) := do
  let value ← required args 0 "obj" "len"
  let unsized : EvalError :=
    .typeMismatch ("object of type '" ++ value.typeName ++ "' has no len()")
  match value with
  | .str text => exactInt text.length
  | .list items => exactInt items.length
  | .dict fields => exactInt fields.length
  | .object o =>
    match HostObject.attr? o "__len__" with
    | some length => .ok length
    | none => .error unsized
  | _ => .error unsized

/-- The integer that a value stands for: a float without its fraction, the number that a text spells. -/
def toInteger (args : CallArgs Obj) : Except EvalError (Value Obj) :=
  match args.positional.head? with
  | none => .ok (.int 0)
  | some (.float x) => integerOf x
  | some (.str text) =>
    match readInt? ((Text.trim text.toList).filter (· != '_')) with
    | some i => .ok (.int i)
    | none => .error (.typeMismatch ("invalid literal for int(): '" ++ text ++ "'"))
  | some value =>
    match value.asInt? with
    | some i => .ok (.int i)
    | none =>
      .error (.typeMismatch ("int() argument must be a number, not '" ++ value.typeName ++ "'"))

def toFloat (args : CallArgs Obj) : Except EvalError (Value Obj) :=
  match args.positional.head? with
  | none => .ok (.float 0.0)
  | some (.str text) =>
    match readFloat? (Text.trim text.toList) with
    | some x => .ok (.float x)
    | none => .error (.typeMismatch ("could not convert string to float: '" ++ text ++ "'"))
  | some value =>
    match value.asFloat? with
    | some x => .ok (.float x)
    | none =>
      .error (.typeMismatch ("float() argument must be a number, not '" ++ value.typeName ++ "'"))

/-- The entry that a list of a key and a value stands for. -/
def pairEntry (pair : Value Obj) : Except EvalError (String × Value Obj) :=
  match pair with
  | .list [key, value] => (dictKey key).map (·, value)
  | _ => .error (.typeMismatch "dict() needs key/value pairs")

/-- The dictionary with the entries of a first argument and those of the keyword arguments. -/
def toDict (args : CallArgs Obj) : Except EvalError (Value Obj) := do
  let fields ←
    match args.positional.head? with
    | none => pure []
    | some (.dict fields) => pure fields
    | some source => (← iterate source).mapM pairEntry
  return .dict (Assoc.merge (Assoc.ofEntries fields) args.named)

/-- The values that a least or greatest one is sought among: a single argument's items, or the
arguments. -/
def candidates (args : CallArgs Obj) (function : String) : Except EvalError (List (Value Obj)) :=
  match args.positional with
  | [] => .error (.typeMismatch (function ++ "() expected at least 1 argument"))
  | [source] => iterate source
  | values => .ok values

/-- The first of the values that no other goes beyond in the wanted direction. -/
def extremeOf (function : String) (wanted : Ordering) (best : Value Obj) :
    List (Value Obj) → Except EvalError (Value Obj)
  | [] => .ok best
  | value :: values =>
    match value.compare? best with
    | some order => extremeOf function wanted (if order == wanted then value else best) values
    | none =>
      .error (.typeMismatch (function ++ "() cannot compare '" ++ value.typeName ++ "' and '" ++
        best.typeName ++ "'"))

/-- The least or greatest of the arguments, or a default if there is nothing to choose from. -/
def extreme (args : CallArgs Obj) (function : String) (wanted : Ordering) :
    Except EvalError (Value Obj) := do
  match ← candidates args function with
  | best :: values => extremeOf function wanted best values
  | [] =>
    match args.named.lookup "default" with
    | some value => .ok value
    | none => .error (.typeMismatch (function ++ "() arg is an empty sequence"))

/-- Adds the values to a total from left to right. -/
def addAll (total : Value Obj) : List (Value Obj) → Except EvalError (Value Obj)
  | [] => .ok total
  | value :: values =>
    match binary .add total value with
    | .ok total => addAll total values
    | .error reason => .error reason

/-- The sum of items, from a start that is zero if none is given. -/
def sumOf (args : CallArgs Obj) : Except EvalError (Value Obj) := do
  let items ← iterate (← required args 0 "iterable" "sum")
  addAll ((args.get? 1 "start").getD (.int 0)) items

/-- The number of places that a number is rounded to, if one is given. -/
def roundPlaces (args : CallArgs Obj) : Except EvalError (Option Int64) :=
  match args.get? 1 "ndigits" with
  | none | some .none => .ok none
  | some value =>
    match value.asInt? with
    | some i => .ok (some i)
    | none => .error (.typeMismatch "round() ndigits must be int")

/-- A float rounded to a number of decimal places, which counts at most 300 in either direction. -/
def roundTo (x : Float) (places : Int64) : Float :=
  let scale := powerOfTen (max (-300) (min 300 places.toInt))
  roundToEven (x * scale) / scale

/-- A number rounded half to even: to an integer, or to decimal places. -/
def rounded (args : CallArgs Obj) : Except EvalError (Value Obj) := do
  let value ← required args 0 "number" "round"
  let places ← roundPlaces args
  match value, places with
  | .int i, _ => .ok (.int i)
  | .bool b, _ => .ok (.int (if b then 1 else 0))
  | .float x, none => integerOf (roundToEven x)
  | .float x, some places => .ok (.float (roundTo x places))
  | value, _ =>
    .error (.typeMismatch ("type '" ++ value.typeName ++ "' doesn't define round()"))

/-- The greatest number of items that a range may be estimated to have. -/
def rangeLimit : Int := 1000000

/-- An estimate of the number of items of a range: the distance, cut off at 64 bits, divided by the step
and rounded up. -/
def rangeEstimate (start stop step : Int) : Int :=
  if 0 < step then (saturate (saturate (stop - start) + (step - 1))).tdiv step
  else (saturate (saturate (start - stop) - (step + 1))).tdiv (saturate (-step))

/-- The number of terms of `start`, `start + step`, … before `stop`. -/
def rangeCount (start stop step : Int) : Nat :=
  if 0 < step then ((stop - start + (step - 1)) / step).toNat
  else ((start - stop + (-step - 1)) / (-step)).toNat

/-- The integers from a start up to but not including a stop. -/
def rangeOf (args : CallArgs Obj) : Except EvalError (Value Obj) := do
  let (start, stop) ←
    match args.positional with
    | [] => throw (.typeMismatch "range() expected at least 1 argument")
    | [_] => pure (0, ← integerArg args 0 "stop" "range")
    | _ => pure (← integerArg args 0 "start" "range", ← integerArg args 1 "stop" "range")
  let step ← if args.positional.length < 3 then pure 1 else integerArg args 2 "step" "range"
  if step = 0 then throw (.typeMismatch "range() arg 3 must not be zero")
  let estimate := rangeEstimate start.toInt stop.toInt step.toInt
  if rangeLimit < estimate then
    throw (.host ("range() of " ++ toString estimate ++ " items exceeds the limit"))
  let count := rangeCount start.toInt stop.toInt step.toInt
  return .list <| (List.range count).map fun (k : Nat) =>
    .int (Int64.ofInt (start.toInt + k * step.toInt))

/-- Pairs each item with its number, counted from a start. -/
def numbered (start : Int64) (items : List (Value Obj)) : List (Value Obj) :=
  items.mapIdx fun k item => .list [.int (start + Int64.ofNat k), item]

/-- The items with their numbers; a start that is no integer counts as zero. -/
def enumerateOf (args : CallArgs Obj) : Except EvalError (Value Obj) := do
  let source ← required args 0 "iterable" "enumerate"
  let start := ((args.get? 1 "start").bind (·.asInt?)).getD 0
  return .list (numbered start (← iterate source))

def toList (args : CallArgs Obj) : Except EvalError (Value Obj) :=
  match args.positional.head? with
  | none => .ok (.list [])
  | some value => (iterate value).map .list

def sortedOf (args : CallArgs Obj) : Except EvalError (Value Obj) := do
  let items ← iterate (← required args 0 "iterable" "sorted")
  let (answer, items) := sortValues (isSet args "reverse") items
  answer.map fun () => .list items

/-- A function whose answer needs a random number: a drawing from a generator. -/
abbrev Drawing (α : Type) := Generator → α × Generator

def randomInt (args : CallArgs Obj) : Except EvalError (Drawing (Value Obj)) := do
  let low ← integerArg args 0 "a" "random_int"
  let high ← integerArg args 1 "b" "random_int"
  if high < low then
    throw (.host ("random_int(" ++ toString low.toInt ++ ", " ++ toString high.toInt ++
      "): empty range"))
  return fun g => let (i, g) := g.between low high; (.int i, g)

def randomChoice (args : CallArgs Obj) : Except EvalError (Drawing (Value Obj)) := do
  let items ← iterate (← required args 0 "seq" "random_choice")
  if items.isEmpty then throw (.badIndex "cannot choose from an empty sequence")
  return fun g => let (place, g) := g.below items.length; (itemAt items place, g)

/-- A random truth value that holds with a given probability. -/
def chance (args : CallArgs Obj) : Except EvalError (Drawing (Value Obj)) := do
  let value ← required args 0 "probability" "chance"
  match value.asFloat? with
  | some p => return fun g => let (x, g) := g.unit; (.bool (x < p), g)
  | none => throw (.typeMismatch "chance() probability must be a number")

def certain (answer : Except EvalError (Value Obj)) : Except EvalError (Drawing (Value Obj)) :=
  answer.map fun value g => (value, g)

def Function.apply (function : Function) (args : CallArgs Obj) :
    Except EvalError (Drawing (Value Obj)) :=
  match function with
  | .bool => certain (.ok (.bool (args.positional.head?.any (·.holds))))
  | .chance => Script.chance args
  | .dict => certain (toDict args)
  | .enumerate => certain (enumerateOf args)
  | .float => certain (toFloat args)
  | .int => certain (toInteger args)
  | .len => certain (lengthOf args)
  | .list => certain (toList args)
  | .max => certain (extreme args "max" .gt)
  | .min => certain (extreme args "min" .lt)
  | .randomChoice => Script.randomChoice args
  | .randomInt => Script.randomInt args
  | .range => certain (rangeOf args)
  | .round => certain (rounded args)
  | .sorted => certain (sortedOf args)
  | .str => certain (.ok (.str ((args.positional.head?.map (·.display)).getD "")))
  | .sum => certain (sumOf args)

end BranchingStory.Script
