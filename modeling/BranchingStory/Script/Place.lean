import BranchingStory.Script.Item
import BranchingStory.Script.Scope

/-!
# Places

A place is a variable and a path of items and attributes inside its value. Changing a place changes the
variable; an item is changed where it is, even if the change fails half-way, while an attribute is read,
changed and written back only after a success.
-/

namespace BranchingStory

/-- A step from a value to a value inside it. -/
inductive Step (Obj : Type) where
  | item (index : Value Obj)
  | attr (name : String)

/-- A variable and a path inside its value. -/
structure Place (Obj : Type) where
  root : String
  path : List (Step Obj)

/-- A change of a value: an answer or the reason of a failure, and the value afterwards. -/
abbrev Change (Obj α : Type) := Value Obj → Except EvalError α × Value Obj

namespace Value

variable {Obj : Type} [HostObject Obj]

/-- The refusal of an attribute that a value lacks. -/
def lacks (value : Value Obj) (attr : String) : EvalError :=
  .noAttribute value.typeName attr

/-- The value of an attribute; only host objects have attributes. -/
def readAttr (value : Value Obj) (attr : String) : Except EvalError (Value Obj) :=
  match value with
  | .object o =>
    match HostObject.attr? o attr with
    | some field => .ok field
    | Option.none => .error (value.lacks attr)
  | value => .error (value.lacks attr)

def writeAttr (value : Value Obj) (attr : String) (field : Value Obj) :
    Except EvalError (Value Obj) :=
  match value with
  | .object o => (HostObject.setAttr o attr field).map .object
  | value => .error (value.lacks attr)

/-- Changes the item of a list or dictionary under an index. -/
def changeItem {α : Type} (index : Value Obj) (change : Change Obj α) : Change Obj α := fun container =>
  match container with
  | .list items =>
    match Script.position index items.length with
    | .error reason => (.error reason, container)
    | .ok place =>
      let (answer, item) := change (Script.itemAt items place)
      (answer, .list (items.set place item))
  | .dict fields =>
    match index.asText?, Script.entryAt fields index with
    | some key, .ok value =>
      let (answer, value) := change value
      (answer, .dict (Assoc.insert fields key value))
    | _, _ => (.error (.missingKey index.repr), container)
  | container => (.error (Script.notSubscriptable container), container)

/-- Changes an attribute: it is read, changed and written back. -/
def changeAttribute {α : Type} (attr : String) (change : Change Obj α) : Change Obj α := fun container =>
  match container.readAttr attr with
  | .error reason => (.error reason, container)
  | .ok field =>
    match change field with
    | (.error reason, _) => (.error reason, container)
    | (.ok answer, field) =>
      match container.writeAttr attr field with
      | .error reason => (.error reason, container)
      | .ok container => (.ok answer, container)

def changeAt {α : Type} : List (Step Obj) → Change Obj α → Change Obj α
  | [], change => change
  | .item index :: path, change => changeItem index (changeAt path change)
  | .attr attr :: path, change => changeAttribute attr (changeAt path change)

end Value

namespace Scope

variable {Obj : Type}

/-- Changes a variable in the first frame that has it. -/
def changeFirst {α : Type} (name : String) (change : Change Obj α) :
    List (Vars Obj) → Option (Except EvalError α × List (Vars Obj))
  | [] => none
  | frame :: frames =>
    match Assoc.get? frame name with
    | some value =>
      let (answer, value) := change value
      some (answer, Assoc.insert frame name value :: frames)
    | none => (changeFirst name change frames).map fun (answer, frames) => (answer, frame :: frames)

/-- Changes a variable where it is. In a shared scope a session variable is copied into the base frame
first, and the copy is changed. -/
def changeVariable {α : Type} (s : Scope Obj) (name : String) (change : Change Obj α) :
    Except EvalError α × Scope Obj :=
  match changeFirst name change s.inner with
  | some (answer, inner) => (answer, { s with inner })
  | none =>
    match Assoc.get? s.base name, Assoc.get? s.state name, s.access with
    | some value, _, _ | none, some value, .shared =>
      let (answer, value) := change value
      (answer, { s with base := Assoc.insert s.base name value })
    | none, some value, .owned =>
      let (answer, value) := change value
      (answer, { s with state := Assoc.insert s.state name value })
    | none, none, _ => (.error (.undefinedName name), s)

def changePlace [HostObject Obj] {α : Type} (s : Scope Obj) (place : Place Obj)
    (change : Change Obj α) : Except EvalError α × Scope Obj :=
  s.changeVariable place.root (Value.changeAt place.path change)

end Scope

end BranchingStory
