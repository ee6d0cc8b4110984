import BranchingStory.Json.Basic

/-!
# What a JSON text says

A part of a JSON text can be well formed and still stand for no value: a text with half of a character
pair in it, a number beyond all floats, or arrays and objects too deep in one another. Such a part is
unfit. It spoils only the readers that look at it, not those that pass over it.
-/

namespace BranchingStory.Json

/-- What a JSON text says. -/
inductive Written where
  | null
  | bool (b : Bool)
  | int (n : Int)
  | float (x : Float)
  | str (s : String)
  | arr (items : List Written)
  | obj (fields : List (String × Written))
  /-- A part that is well formed and stands for no value. -/
  | unfit

instance : Inhabited Written := ⟨.unfit⟩

mutual

def written : Json → Written
  | .null => .null
  | .bool b => .bool b
  | .int n => .int n
  | .float x => .float x
  | .str s => .str s
  | .arr items => .arr (writtenItems items)
  | .obj fields => .obj (writtenFields fields)

def writtenItems : List Json → List Written
  | [] => []
  | item :: items => item.written :: writtenItems items

def writtenFields : List (String × Json) → List (String × Written)
  | [] => []
  | (key, value) :: fields => (key, value.written) :: writtenFields fields

end

namespace Written

mutual

/-- The value that is said, if no part of it is unfit. -/
def value? : Written → Option Json
  | .null => some .null
  | .bool b => some (.bool b)
  | .int n => some (.int n)
  | .float x => some (.float x)
  | .str s => some (.str s)
  | .arr items => (valuesOfItems? items).map .arr
  | .obj fields => (valuesOfFields? fields).map .obj
  | .unfit => none

def valuesOfItems? : List Written → Option (List Json)
  | [] => some []
  | item :: items => do return (← item.value?) :: (← valuesOfItems? items)

def valuesOfFields? : List (String × Written) → Option (List (String × Json))
  | [] => some []
  | (key, value) :: fields => do return (key, ← value.value?) :: (← valuesOfFields? fields)

end

mutual

def weight : Written → Nat
  | .arr items => weightItems items + 1
  | .obj fields => weightFields fields + 1
  | _ => 1

def weightItems : List Written → Nat
  | [] => 0
  | item :: items => item.weight + weightItems items + 1

def weightFields : List (String × Written) → Nat
  | [] => 0
  | (_, value) :: fields => value.weight + weightFields fields + 1

end

/-- A scalar that may lie outside what can be held. -/
def orUnfit {α : Type} (make : α → Written) : Option α → Written
  | some a => make a
  | none => .unfit

/-- An object with the given fields; a key that is no text makes it unfit. -/
def ofFields (fields : List (Option String × Written)) : Written :=
  orUnfit .obj (fields.mapM fun (key?, value) => key?.map (·, value))

/-- The name of a choice without content: written as a text, or as an object whose only field has that
name and the value null. -/
def unitName? : Written → Option String
  | .str name => some name
  | .obj [(name, .null)] => some name
  | _ => none

end Written

end BranchingStory.Json
