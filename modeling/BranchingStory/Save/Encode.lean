import BranchingStory.Save.Envelope
import BranchingStory.Value.View

/-!
# Saved values

The JSON form of values in save documents, and the form in which a story's output shows them. Primitive
values and lists are plain JSON in both. A save document wraps dictionaries, floats that are no finite
numbers, and objects in envelopes; the output shows dictionaries as they are and wraps objects alone.
-/

namespace BranchingStory

variable {Obj : Type} [HostObject Obj]

abbrev Warned (α : Type) := α × List String

namespace Save

/-- The warning that only the text of an object is saved. -/
def onlyText (typeName : String) : String :=
  "'" ++ typeName ++ "' has no export or reflection support; saved as its display text"

mutual

def encode (value : Value Obj) : Warned Json :=
  match value with
  | .none => (.null, [])
  | .bool b => (.bool b, [])
  | .int i => (.int i.toInt, [])
  | .float x => (if x.isFinite then .float x else (Envelope.ofFloat (Value.floatText x)).toJson, [])
  | .str s => (.str s, [])
  | .list items =>
    let (items, warnings) := encodeItems items
    (.arr items, warnings)
  | .dict fields =>
    let (fields, warnings) := encodeFields fields
    ((Envelope.ofDict fields).toJson, warnings)
  | .object o =>
    let (envelope, warnings) := encodeObject o
    (envelope.toJson, warnings)
termination_by 2 * value.weight (@HostObject.weight Obj _) + 1
decreasing_by all_goals simp only [Value.weight]; omega

def encodeItems (items : List (Value Obj)) : Warned (List Json) :=
  match items with
  | [] => ([], [])
  | item :: items =>
    let (item, warnings) := encode item
    let (items, more) := encodeItems items
    (item :: items, warnings ++ more)
termination_by 2 * Value.weightItems (@HostObject.weight Obj _) items
decreasing_by all_goals simp only [Value.weightItems]; omega

def encodeFields (fields : List (String × Value Obj)) : Warned (List (String × Json)) :=
  match fields with
  | [] => ([], [])
  | (key, value) :: fields =>
    let (value, warnings) := encode value
    let (fields, more) := encodeFields fields
    ((key, value) :: fields, warnings ++ more)
termination_by 2 * Value.weightFields (@HostObject.weight Obj _) fields
decreasing_by all_goals simp only [Value.weightFields]; omega

/-- The envelope of an object, by what the object gives away. -/
def encodeObject (o : Obj) : Warned Envelope :=
  let envelope (strategy : Strategy) (payload : Json) : Envelope :=
    ⟨HostText.typeName o, HostObject.origin o, strategy, payload⟩
  match _given : HostObject.capability o with
  | .exported payload =>
    let (payload, warnings) := encode payload
    (envelope .explicit payload, warnings)
  | .reflected fields =>
    let (fields, warnings) := encodeFields fields
    (envelope .reflective (.obj (Assoc.ofEntries fields)), warnings)
  | .displayed =>
    (envelope .string (.str (HostText.display o)), [onlyText (HostText.typeName o)])
termination_by 2 * HostObject.weight o
decreasing_by
  all_goals
    have shrinks := HostObject.weight_capability o
    simp only [_given, Capability.weight] at shrinks
    omega

end

def encodeVars (vars : Vars Obj) : Warned Json :=
  encode (.dict vars)

mutual

def plain : Value Obj → Json
  | .none => .null
  | .bool b => .bool b
  | .int i => .int i.toInt
  | .float x => .float x
  | .str s => .str s
  | .list items => .arr (plainItems items)
  | .dict fields => .obj (plainFields fields)
  | .object o => (encodeObject o).1.toJson

def plainItems : List (Value Obj) → List Json
  | [] => []
  | item :: items => plain item :: plainItems items

def plainFields : List (String × Value Obj) → List (String × Json)
  | [] => []
  | (key, value) :: fields => (key, plain value) :: plainFields fields

end

end Save

end BranchingStory
