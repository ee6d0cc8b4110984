import BranchingStory.Value.View

/-!
# Items and slices

Positions count from zero, or from the end if they are negative. An item must exist, and the bounds of a
slice are moved to the nearer end of the list or text. Texts are counted in characters.
-/

namespace BranchingStory.Script

variable {Obj : Type} [HostObject Obj]

/-- The position from the front that an index stands for in a row of items, if there is an item. -/
def position? (index : Int) (length : Nat) : Option Nat :=
  let place := if index < 0 then index + length else index
  if 0 ≤ place ∧ place < length then some place.toNat else none

/-- The position that a value stands for as an index. -/
def position (index : Value Obj) (length : Nat) : Except EvalError Nat :=
  match index.asInt? with
  | none =>
    .error (.typeMismatch ("indices must be integers, not '" ++ index.typeName ++ "'"))
  | some i =>
    match position? i.toInt length with
    | some place => .ok place
    | none => .error (.badIndex ("index " ++ toString i.toInt ++ " out of range"))

/-- The refusal of an index on a value that has no items. -/
def notSubscriptable (value : Value Obj) : EvalError :=
  .typeMismatch ("'" ++ value.typeName ++ "' object is not subscriptable")

def entryAt (fields : List (String × Value Obj)) (key : Value Obj) : Except EvalError (Value Obj) :=
  match key with
  | .str name =>
    match Assoc.get? fields name with
    | some value => .ok value
    | none => .error (.missingKey key.repr)
  | _ => .error (.missingKey key.repr)

/-- The item at a position of a list, which is one below its length. -/
def itemAt (items : List (Value Obj)) (place : Nat) : Value Obj :=
  items.getD place .none

def item (container index : Value Obj) : Except EvalError (Value Obj) :=
  match container with
  | .list items => (position index items.length).map (itemAt items)
  | .str text =>
    let cs := text.toList
    (position index cs.length).map fun place => .str (String.ofList ((cs.drop place).take 1))
  | .dict fields => entryAt fields index
  | value => .error (notSubscriptable value)

/-- The key of a dictionary that a value stands for: only texts are keys. -/
def dictKey (value : Value Obj) : Except EvalError String :=
  match value with
  | .str key => .ok key
  | value => .error (.typeMismatch ("dict keys must be strings, not '" ++ value.typeName ++ "'"))

/-- The container after its item under an index was written. Only a dictionary can grow. -/
def setItem (container index value : Value Obj) : Except EvalError (Value Obj) :=
  match container with
  | .list items => (position index items.length).map fun place => .list (items.set place value)
  | .dict fields => (dictKey index).map fun key => .dict (Assoc.insert fields key value)
  | container =>
    .error (.typeMismatch
      ("'" ++ container.typeName ++ "' object does not support item assignment"))

/-- The position that the bound of a slice stands for in a row of items. -/
def clampBound (bound : Int) (length : Nat) : Nat :=
  if bound < 0 then (bound + length).toNat else min bound.toNat length

/-- The position that a value stands for as the bound of a slice; without a bound it is `default`. -/
def sliceBound (bound : Value Obj) (length default : Nat) : Except EvalError Nat :=
  match bound with
  | .none => .ok default
  | bound =>
    match bound.asInt? with
    | some i => .ok (clampBound i.toInt length)
    | none => .error (.typeMismatch "slice indices must be integers or None")

/-- The part of a row between two bounds; nothing if the bounds cross. -/
def sliceRow {α : Type} (row : List α) (start stop : Value Obj) : Except EvalError (List α) := do
  let low ← sliceBound start row.length 0
  let high ← sliceBound stop row.length row.length
  return (row.drop low).take (high - low)

/-- The part of a list or text between two bounds. -/
def slice (container start stop : Value Obj) : Except EvalError (Value Obj) :=
  match container with
  | .list items => (sliceRow items start stop).map .list
  | .str text => (sliceRow text.toList start stop).map fun cs => .str (String.ofList cs)
  | value => .error (.typeMismatch ("'" ++ value.typeName ++ "' object cannot be sliced"))

/-- What a loop runs over: the items of a list, the characters of a text, the keys of a dictionary. -/
def iterate (value : Value Obj) : Except EvalError (List (Value Obj)) :=
  match value with
  | .list items => .ok items
  | .str text => .ok (text.toList.map fun c => .str c.toString)
  | .dict fields => .ok (fields.map fun (key, _) => .str key)
  | value => .error (.typeMismatch ("'" ++ value.typeName ++ "' object is not iterable"))

end BranchingStory.Script
