/-!
# Values

The values that story variables hold and expressions give. Objects come from the host of the story, so
that the type of values has the type of objects as a parameter.
-/

namespace BranchingStory

/-- A value; dictionaries keep the order of their keys. -/
inductive Value (Obj : Type) where
  | none
  | bool (b : Bool)
  | int (i : Int64)
  | float (f : Float)
  | str (s : String)
  | list (items : List (Value Obj))
  | dict (fields : List (String × Value Obj))
  | object (o : Obj)

instance {Obj : Type} : Inhabited (Value Obj) := ⟨.none⟩

/-- Variables and their values, in the order in which they first came. -/
abbrev Vars (Obj : Type) := List (String × Value Obj)

/-- The arguments of a call of a passage, a function or a directive. -/
structure CallArgs (Obj : Type) where
  positional : List (Value Obj)
  named : List (String × Value Obj)

def CallArgs.none {Obj : Type} : CallArgs Obj := ⟨[], []⟩

/-- The argument at a position or else under a name. -/
def CallArgs.get? {Obj : Type} (args : CallArgs Obj) (position : Nat) (name : String) :
    Option (Value Obj) :=
  match args.positional[position]? with
  | some value => some value
  | .none => args.named.lookup name

namespace Value

variable {Obj : Type}

/-- Empty collections, zero, false and nothing do not hold. -/
def holds : Value Obj → Bool
  | .none => false
  | .bool b => b
  | .int i => i != 0
  | .float f => f != 0.0
  | .str s => !s.isEmpty
  | .list items => !items.isEmpty
  | .dict fields => !fields.isEmpty
  | .object _ => true

/-- Whether a value is neither a collection nor an object. -/
def isPrimitive : Value Obj → Bool
  | .list _ | .dict _ | .object _ => false
  | _ => true

/-- The float that a number or truth value counts as. -/
def asFloat? : Value Obj → Option Float
  | .bool b => some (if b then 1.0 else 0.0)
  | .int i => some i.toFloat
  | .float f => some f
  | _ => Option.none

/-- The integer that an integer or truth value counts as. -/
def asInt? : Value Obj → Option Int64
  | .bool b => some (if b then 1 else 0)
  | .int i => some i
  | _ => Option.none

def asText? : Value Obj → Option String
  | .str s => some s
  | _ => Option.none

mutual

/-- The size of a value, an object counted by `objectWeight`. -/
def weight (objectWeight : Obj → Nat) : Value Obj → Nat
  | .list items => weightItems objectWeight items + 1
  | .dict fields => weightFields objectWeight fields + 1
  | .object o => objectWeight o
  | _ => 1

def weightItems (objectWeight : Obj → Nat) : List (Value Obj) → Nat
  | [] => 0
  | item :: items => item.weight objectWeight + weightItems objectWeight items + 1

/-- The size of the values under the keys of a dictionary. -/
def weightFields (objectWeight : Obj → Nat) : List (String × Value Obj) → Nat
  | [] => 0
  | (_, value) :: fields => value.weight objectWeight + weightFields objectWeight fields + 1

end

end Value

end BranchingStory
