import BranchingStory.Assoc

/-!
# JSON values

A JSON value keeps the order of its fields and tells integers from other numbers.
-/

namespace BranchingStory

/-- A JSON value. -/
inductive Json where
  | null
  | bool (b : Bool)
  | int (n : Int)
  | float (x : Float)
  | str (s : String)
  | arr (items : List Json)
  | obj (fields : List (String × Json))

instance : Inhabited Json := ⟨.null⟩

namespace Json

mutual

/-- The value whose objects hold each key once: in its first place, with its last value. -/
def settle : Json → Json
  | .arr items => .arr (settleItems items)
  | .obj fields => .obj (Assoc.ofEntries (settleFields fields))
  | value => value

def settleItems : List Json → List Json
  | [] => []
  | item :: items => item.settle :: settleItems items

def settleFields : List (String × Json) → List (String × Json)
  | [] => []
  | (key, value) :: fields => (key, value.settle) :: settleFields fields

end

mutual

def weight : Json → Nat
  | .arr items => weightItems items + 1
  | .obj fields => weightFields fields + 1
  | _ => 1

def weightItems : List Json → Nat
  | [] => 0
  | item :: items => item.weight + weightItems items + 1

def weightFields : List (String × Json) → Nat
  | [] => 0
  | (_, value) :: fields => value.weight + weightFields fields + 1

end

/-- The value of a field is smaller than all fields together. -/
theorem weight_lt_of_get? {fields : List (String × Json)} {key : String} {value : Json}
    (h : Assoc.get? fields key = some value) : value.weight < weightFields fields := by
  unfold Assoc.get? at h
  induction fields with
  | nil => cases h
  | cons field fields ih =>
    obtain ⟨k, v⟩ := field
    simp only [weightFields]
    rw [List.lookup_cons] at h
    split at h
    · cases h
      omega
    · have := ih h
      omega

def field? (value : Json) (key : String) : Option Json :=
  match value with
  | .obj fields => Assoc.get? fields key
  | _ => none

def ofText? : Option String → Json
  | none => .null
  | some text => .str text

def ofTexts (texts : List String) : Json :=
  .arr (texts.map .str)

end Json

end BranchingStory
