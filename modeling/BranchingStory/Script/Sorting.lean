import BranchingStory.Script.Relation

/-!
# Sorting

A stable sort by the order of values. Values without an order count as equal while the sort goes on, and
the first pair of them that it meets is reported.
-/

namespace BranchingStory.Script

variable {Obj : Type} [HostObject Obj]

/-- Two values that were compared and have no order. -/
abbrev Clash (Obj : Type) := Value Obj × Value Obj

/-- Whether the first value goes before the second one, and the pair if they have no order. -/
def goesBefore (a b : Value Obj) : Bool × Option (Clash Obj) :=
  match a.compare? b with
  | some order => (order == .lt, none)
  | none => (false, some (a, b))

/-- Moves a value to the left past all that it goes before; the sorted values are given last one
first. -/
def insertBack (value : Value Obj) : List (Value Obj) → List (Value Obj) × Option (Clash Obj)
  | [] => ([value], none)
  | left :: sorted =>
    match goesBefore value left with
    | (true, clash) =>
      let (sorted, later) := insertBack value sorted
      (left :: sorted, clash <|> later)
    | (false, clash) => (value :: left :: sorted, clash)

/-- Sorts by insertion from left to right; the values sorted so far are given last one first. -/
def insertionSort (sorted : List (Value Obj)) (clash : Option (Clash Obj)) :
    List (Value Obj) → List (Value Obj) × Option (Clash Obj)
  | [] => (sorted.reverse, clash)
  | value :: values =>
    let (sorted, found) := insertBack value sorted
    insertionSort sorted (clash <|> found) values

def neighbourClash? : List (Value Obj) → Option (Clash Obj)
  | a :: b :: values => if (b.compare? a).isNone then some (b, a) else neighbourClash? (b :: values)
  | _ => none

def mergeSorted (values : List (Value Obj)) : List (Value Obj) × Option (Clash Obj) :=
  let sorted := values.mergeSort fun a b => !(goesBefore b a).1
  (sorted, neighbourClash? sorted)

/-- The greatest number of values that are sorted by insertion. -/
def insertionLimit : Nat := 20

/-- Sorts values, in the end reversed if `reverse` is set. The order that was reached is given also
after a failure. -/
def sortValues (reverse : Bool) (values : List (Value Obj)) :
    Except EvalError Unit × List (Value Obj) :=
  let (sorted, clash) :=
    if values.length ≤ insertionLimit then insertionSort [] none values else mergeSorted values
  match clash with
  | some (a, b) => (.error (unordered "<" a b), sorted)
  | none => (.ok (), if reverse then sorted.reverse else sorted)

end BranchingStory.Script
