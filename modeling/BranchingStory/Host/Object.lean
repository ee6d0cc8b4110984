import BranchingStory.Script.Fault
import BranchingStory.Value.Basic

/-!
# Host objects

What the engine asks of the objects that a host puts into its stories. Objects are plain values: a copy
in a second variable changes on its own.
-/

namespace BranchingStory

/-- How much of an object can be saved. -/
inductive Capability (Obj : Type) where
  /-- A value from which an importer makes the object again. -/
  | exported (payload : Value Obj)
  /-- The fields of the object by name. -/
  | reflected (fields : List (String × Value Obj))
  /-- Nothing but the display text. -/
  | displayed

/-- The size of what an object gives away for saving. -/
def Capability.weight {Obj : Type} (objectWeight : Obj → Nat) : Capability Obj → Nat
  | .exported payload => payload.weight objectWeight
  | .reflected fields => Value.weightFields objectWeight fields
  | .displayed => 0

/-- Objects that have a name for their type and a text. -/
class HostText (Obj : Type) where
  /-- The name of the type of an object. -/
  typeName : Obj → String
  /-- The text that stands for an object in a story. -/
  display : Obj → String

/-- The objects of a host. What an object gives away for saving is smaller than the object, so that
saving comes to an end. -/
class HostObject (Obj : Type) extends HostText Obj where
  /-- The module that the type belongs to. -/
  origin : Obj → String
  /-- The value of an attribute. -/
  attr? : Obj → String → Option (Value Obj)
  /-- The object after an attribute was written. -/
  setAttr : Obj → String → Value Obj → Except EvalError Obj
  /-- The answer of a method and the object after the call, also after a failed one. -/
  callMethod : Obj → String → CallArgs Obj → Except EvalError (Value Obj) × Obj
  /-- Whether two objects count as equal. -/
  same : Obj → Obj → Bool
  /-- How much of an object can be saved. -/
  capability : Obj → Capability Obj
  /-- The size of an object. -/
  weight : Obj → Nat
  weight_capability : ∀ o, (capability o).weight weight < weight o

end BranchingStory
