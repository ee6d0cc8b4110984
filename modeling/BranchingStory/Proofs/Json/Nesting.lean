import Mathlib.Tactic.Lemma
import BranchingStory.Json.Parser

/-!
# Nesting

How deep arrays and objects stand in one another. A value that is read at a depth that does not hold its
innermost arrays and objects is cut there: they become unfit.
-/

namespace BranchingStory.Json

mutual

/-- How deep arrays and objects stand in one another. -/
def nesting : Json → Nat
  | .arr items => nestingOfItems items + 1
  | .obj fields => nestingOfFields fields + 1
  | _ => 0

def nestingOfItems : List Json → Nat
  | [] => 0
  | item :: items => max item.nesting (nestingOfItems items)

def nestingOfFields : List (String × Json) → Nat
  | [] => 0
  | (_, value) :: fields => max value.nesting (nestingOfFields fields)

end

mutual

/-- What is left of a value where arrays and objects may stand in one another up to a depth. -/
def cut (depth : Nat) : Json → Written
  | .arr items => within depth (.arr (cutItems (depth - 1) items))
  | .obj fields => within depth (.obj (cutFields (depth - 1) fields))
  | value => value.written

def cutItems (depth : Nat) : List Json → List Written
  | [] => []
  | item :: items => item.cut depth :: cutItems depth items

def cutFields (depth : Nat) : List (String × Json) → List (String × Written)
  | [] => []
  | (key, value) :: fields => (key, value.cut depth) :: cutFields depth fields

end

mutual

/-- A value that is not too deep is left as it is. -/
lemma cut_eq_written {depth : Nat} : ∀ j : Json, j.nesting ≤ depth → j.cut depth = j.written
  | .null, _ | .bool _, _ | .int _, _ | .float _, _ | .str _, _ => rfl
  | .arr items, held => by
    have inside : nestingOfItems items + 1 ≤ depth := held
    have same := cutItems_eq_written items (Nat.le_sub_one_of_lt inside)
    have deep : depth ≠ 0 := by omega
    simp only [cut, within, deep, if_false, same, written]
  | .obj fields, held => by
    have inside : nestingOfFields fields + 1 ≤ depth := held
    have same := cutFields_eq_written fields (Nat.le_sub_one_of_lt inside)
    have deep : depth ≠ 0 := by omega
    simp only [cut, within, deep, if_false, same, written]

lemma cutItems_eq_written {depth : Nat} :
    ∀ items : List Json, nestingOfItems items ≤ depth → cutItems depth items = writtenItems items
  | [], _ => rfl
  | item :: items, held => by
    have parts := Nat.max_le.mp held
    rw [cutItems, writtenItems, cut_eq_written item parts.1, cutItems_eq_written items parts.2]

lemma cutFields_eq_written {depth : Nat} : ∀ fields : List (String × Json),
    nestingOfFields fields ≤ depth → cutFields depth fields = writtenFields fields
  | [], _ => rfl
  | (key, value) :: fields, held => by
    have parts := Nat.max_le.mp held
    rw [cutFields, writtenFields, cut_eq_written value parts.1, cutFields_eq_written fields parts.2]

end

end BranchingStory.Json
