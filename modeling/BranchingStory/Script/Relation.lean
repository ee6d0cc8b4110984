import BranchingStory.Script.Operator
import BranchingStory.Value.View
import BranchingStory.Text.Split

/-!
# Relations

Equality, order and membership between values.
-/

namespace BranchingStory.Script

variable {Obj : Type} [HostObject Obj]

/-- The refusal of a relation that needs an order between two values without one. -/
def unordered (symbol : String) (left right : Value Obj) : EvalError :=
  .typeMismatch ("'" ++ symbol ++ "' not supported between instances of '" ++ left.typeName ++
    "' and '" ++ right.typeName ++ "'")

def ordered (symbol : String) (holds : Ordering → Bool) (left right : Value Obj) :
    Except EvalError Bool :=
  match left.compare? right with
  | some order => .ok (holds order)
  | none => .error (unordered symbol left right)

/-- Whether an item is in a container: a text in a text, a value in a list, a key in a dictionary. -/
def member (container item : Value Obj) : Except EvalError Bool :=
  match container with
  | .str text =>
    match item with
    | .str part => .ok (Text.containsText part.toList text.toList)
    | item =>
      .error (.typeMismatch
        ("'in <string>' requires string as left operand, not " ++ item.typeName))
  | .list items => .ok (items.any (·.same item))
  | .dict fields =>
    match item with
    | .str key => .ok (Assoc.contains fields key)
    | _ => .ok false
  | value => .error (.typeMismatch ("argument of type '" ++ value.typeName ++ "' is not iterable"))

def identical (left right : Value Obj) : Bool :=
  left.typeName == right.typeName && left.same right

def relates (op : CompareOp) (left right : Value Obj) : Except EvalError Bool :=
  match op with
  | .eq => .ok (left.same right)
  | .notEq => .ok !(left.same right)
  | .lt => ordered "<" Ordering.isLT left right
  | .ltEq => ordered "<=" Ordering.isLE left right
  | .gt => ordered ">" Ordering.isGT left right
  | .gtEq => ordered ">=" Ordering.isGE left right
  | .isIn => member right left
  | .notIn => (member right left).map (!·)
  | .is => .ok (identical left right)
  | .isNot => .ok !(identical left right)

end BranchingStory.Script
