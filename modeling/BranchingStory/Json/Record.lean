import BranchingStory.Json.Written
import BranchingStory.Number.Power

/-!
# Reading records

The fields that a JSON text offers to a record: those of an object, where a field of the record may
stand once and other fields are passed over, or the items of an array in the order of the fields.
-/

namespace BranchingStory.Json

/-- The value of a field that an object may have once. -/
def single? (fields : List (String × Written)) (name : String) : Option (Option Written) :=
  match fields.filter (·.1 = name) with
  | [] => some none
  | [(_, value)] => some (some value)
  | _ => none

/-- The values that a record with the given field names finds, in their order. -/
def slots? (names : List String) : Written → Option (List (Option Written))
  | .obj fields => names.mapM (single? fields)
  | .arr items =>
    if items.length ≤ names.length then
      some (items.map some ++ List.replicate (names.length - items.length) none)
    else none
  | _ => none

def readText : Written → Option String
  | .str text => some text
  | _ => none

def readBool : Written → Option Bool
  | .bool b => some b
  | _ => none

def readBelow (bound : Nat) : Written → Option Nat
  | .int n => if 0 ≤ n ∧ n < bound then some n.toNat else none
  | _ => none

def readNat : Written → Option Nat :=
  readBelow (Number.twoTo 64)

def readList {α : Type} (read : Written → Option α) : Written → Option (List α)
  | .arr items => items.mapM read
  | _ => none

def readTable {α : Type} (read : Written → Option α) : Written → Option (List (String × α))
  | .obj fields =>
    (fields.mapM fun (field : String × Written) => (read field.2).map fun a => (field.1, a)).map
      Assoc.ofEntries
  | _ => none

def readOption {α : Type} (read : Written → Option α) : Written → Option (Option α)
  | .null => some none
  | value => (read value).map some

def required {α : Type} (read : Written → Option α) (slot : Option Written) : Option α :=
  slot.bind read

/-- A field with a value for the case that it is absent. -/
def orElse {α : Type} (default : α) (read : Written → Option α) (slot : Option Written) : Option α :=
  match slot with
  | none => some default
  | some value => read value

def tag? : Written → Option (String × Written)
  | .obj [(tag, content)] => some (tag, content)
  | _ => none

end BranchingStory.Json
