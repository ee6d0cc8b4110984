import BranchingStory.Proofs.Machine.Arithmetic
import BranchingStory.Proofs.Source.Slices
import BranchingStory.Script.Method

/-!
# Rows on a machine

An index counts from the end of a row by adding the length of the row, and is tested before it is used;
the bounds of a slice are moved to the ends of the row. No sum leaves the range, since the index is
negative where the length is added, and each position that is read lies inside of its row.
-/

namespace BranchingStory

open Number Script

variable {Obj : Type} {α : Type}

namespace Machine

/-- The position that an index stands for, if it stands for one. -/
def resolve? (i : Int64) (length : Nat) : Steps (Option Nat) := do
  let length ← count length
  let place ← (if i.toInt < 0 then add i length else pure i : Steps Int64)
  return if 0 ≤ place.toInt ∧ place.toInt < length.toInt then some (asPosition place) else none

/-- The position that the bound of a slice is moved to. -/
def clamp (i : Int64) (length : Nat) : Steps Nat := do
  let length ← count length
  if i.toInt < 0 then
    let place ← add i length
    return if place.toInt < 0 then 0 else asPosition place
  else return asPosition (if i.toInt < length.toInt then i else length)

/-- The text between two numbers of bytes. -/
def cut (start stop : Nat) (cs : List Char) : Steps (List Char) :=
  match Source.slice? start stop cs with
  | some piece => .ok piece
  | none => .error .outOfBounds

section Indices

variable [HostObject Obj]

def position (index : Value Obj) (length : Nat) : Trial Nat :=
  match index.asInt? with
  | none => liftM (Script.position index length)
  | some i => do
    match ← resolve? i length with
    | some place => return place
    | none => throw (.badIndex ("index " ++ toString i.toInt ++ " out of range"))

def item (container index : Value Obj) : Trial (Value Obj) :=
  match container with
  | .list items => do
    let place ← position index items.length
    let item ← (fetch items place : Steps (Value Obj))
    return item
  | .str text => do
    let place ← position index text.toList.length
    let c ← (fetch text.toList place : Steps Char)
    return .str (String.ofList [c])
  | container => liftM (Script.item container index)

/-- The list after the item at a position was overwritten. -/
def store (items : List α) (place : Nat) (item : α) : Steps (List α) := do
  let _ ← fetch items place
  return items.set place item

def setItem (container index value : Value Obj) : Trial (Value Obj) :=
  match container with
  | .list items => do
    let place ← position index items.length
    let items ← store items place value
    return .list items
  | container => liftM (Script.setItem container index value)

def sliceBound (bound : Value Obj) (length default : Nat) : Trial Nat :=
  match bound, bound.asInt? with
  | .none, _ => return default
  | _, some i => clamp i length
  | bound, none => liftM (Script.sliceBound bound length default)

def sliceRow (row : List α) (start stop : Value Obj) : Trial (List α) := do
  let low ← sliceBound start row.length 0
  let high ← sliceBound stop row.length row.length
  if low < high then part row low high else return []

def slice (container start stop : Value Obj) : Trial (Value Obj) :=
  match container with
  | .list items => do
    let items ← sliceRow items start stop
    return .list items
  | .str text => do
    let cs ← sliceRow text.toList start stop
    return .str (String.ofList cs)
  | container => liftM (Script.slice container start stop)

/-- The position of the item that a list gives away. -/
def popPosition (args : CallArgs Obj) (length : Nat) : Trial Nat :=
  if length = 0 then throw (.badIndex "pop from empty list")
  else
    match ((args.get? 0 "index").getD (.int (-1))).asInt? with
    | none => throw (.typeMismatch "pop() index must be int")
    | some i => do
      match ← resolve? i length with
      | some place => return place
      | none => throw (.badIndex "pop index out of range")

end Indices

end Machine

lemma position?_lt {index : Int} {length place : Nat} (found : position? index length = some place) :
    place < length := by
  simp only [position?, Option.ite_none_right_eq_some, Option.some.injEq] at found
  obtain ⟨inside, rfl⟩ := found
  omega

lemma itemAt_eq {items : List (Value Obj)} {place : Nat} (inside : place < items.length) :
    itemAt items place = items[place] := by
  rw [itemAt, List.getD_eq_getElem?_getD, List.getElem?_eq_getElem inside, Option.getD_some]

lemma clampBound_le (bound : Int) (length : Nat) : clampBound bound length ≤ length := by
  unfold clampBound
  split <;> omega

namespace Machine

/-- The sum with the length of a row stays in the range, since it is made of a negative index only. -/
lemma resolve?_meets (i : Int64) (length : Nat) : Meets (resolve? i length) (position? i.toInt length) := by
  unfold resolve?
  rcases count_cases length with ⟨n, counted, exact⟩ | ⟨counted, beyond⟩
  · rw [counted]
    refine .bind (.done n) ?_
    unfold position?
    have moved : ∃ place, (if i.toInt < 0 then add i n else pure i) = .ok place ∧
        place.toInt = if i.toInt < 0 then i.toInt + length else i.toInt := by
      have least := minInt_le i
      have greatest := le_maxInt n
      split
      · rw [← exact]
        exact word_eq (by omega) (by omega)
      · exact ⟨i, rfl, rfl⟩
    obtain ⟨place, moved, same⟩ := moved
    rw [moved]
    refine .bind (.done place) ?_
    simp only [← same, exact]
    split
    · next inside =>
      rw [asPosition_eq inside.1]
      exact .done _
    · exact .done _
  · rw [counted]
    exact beyond

lemma clamp_meets (i : Int64) (length : Nat) : Meets (clamp i length) (clampBound i.toInt length) := by
  unfold clamp
  rcases count_cases length with ⟨n, counted, exact⟩ | ⟨counted, beyond⟩
  · rw [counted]
    refine .bind (.done n) ?_
    have least := minInt_le i
    have greatest := le_maxInt n
    unfold clampBound
    by_cases fromEnd : i.toInt < 0
    · obtain ⟨place, sum, same⟩ := word_eq (n := i.toInt + n.toInt) (by omega) (by omega)
      have moved : add i n = .ok place := sum
      rw [if_pos fromEnd, if_pos fromEnd, moved]
      refine .bind (.done place) ?_
      rw [exact] at same
      split
      · next before =>
        rw [Int.toNat_of_nonpos (by omega)]
        exact .done 0
      · next inside =>
        rw [asPosition_eq (by omega), same]
        exact .done _
    · rw [if_neg fromEnd, if_neg fromEnd]
      split
      · next inside =>
        rw [asPosition_eq (by omega), Nat.min_eq_left (by omega)]
        exact .done _
      · next behind =>
        rw [asPosition_eq (by omega), Nat.min_eq_right (by omega), exact]
        exact .done _
  · rw [counted]
    exact beyond

lemma sliceBound_tries (bound : Value Obj) (length default : Nat) :
    Tries (sliceBound bound length default) (Script.sliceBound bound length default) := by
  cases bound with
  | none => exact .done _
  | int i => exact .lift (clamp_meets i length)
  | bool b => exact .lift (clamp_meets _ length)
  | _ => exact .answer _

lemma sliceBound_le {bound : Value Obj} {length default place : Nat} (inside : default ≤ length)
    (found : Script.sliceBound bound length default = .ok place) : place ≤ length := by
  unfold Script.sliceBound at found
  split at found
  · cases found
    exact inside
  · split at found
    · cases found
      exact clampBound_le _ _
    · cases found

/-- A slice is cut out between two positions of its row. -/
lemma sliceRow_tries (row : List α) (start stop : Value Obj) :
    Tries (sliceRow row start stop) (Script.sliceRow row start stop) := by
  unfold sliceRow Script.sliceRow
  refine .bind (sliceBound_tries start row.length 0) fun low _ => ?_
  refine .bind (sliceBound_tries stop row.length row.length) fun high found => ?_
  have inside := sliceBound_le (Nat.le_refl _) found
  split
  · next before =>
    rw [part_eq (Nat.le_of_lt before) inside]
    exact .lift (.done _)
  · next crossed =>
    rw [Nat.sub_eq_zero_of_le (Nat.not_lt.mp crossed), List.take_zero]
    exact .done _

lemma popPosition_tries (args : CallArgs Obj) (length : Nat) :
    Tries (popPosition args length) (Script.popPosition args length) := by
  unfold popPosition Script.popPosition
  split
  · exact .fail _
  · cases ((args.get? 0 "index").getD (.int (-1))).asInt? with
    | none => exact .fail _
    | some i =>
      refine .step (resolve?_meets i length) ?_
      simp only
      cases position? i.toInt length with
      | some place => exact .done place
      | none => exact .fail _

lemma popPosition_lt {args : CallArgs Obj} {length place : Nat}
    (found : Script.popPosition args length = .ok place) : place < length := by
  unfold Script.popPosition at found
  split at found
  · cases found
  · split at found
    · cases found
    · split at found
      · next inside =>
        cases found
        exact position?_lt inside
      · cases found

section Indices

variable [HostObject Obj]

lemma position_tries (index : Value Obj) (length : Nat) :
    Tries (position index length) (Script.position index length) := by
  unfold position
  split
  · exact .answer _
  · next i integer =>
    refine .step (resolve?_meets i length) ?_
    simp only [Script.position, integer]
    cases position? i.toInt length with
    | some place => exact .done place
    | none => exact .fail _

lemma position_lt {index : Value Obj} {length place : Nat}
    (found : Script.position index length = .ok place) : place < length := by
  unfold Script.position at found
  split at found
  · cases found
  · split at found
    · next inside =>
      cases found
      exact position?_lt inside
    · cases found

/-- An item is read where there is one. -/
lemma item_tries (container index : Value Obj) : Tries (item container index) (Script.item container index) := by
  cases container with
  | list items =>
    refine .bindMap (position_tries index items.length) fun place found => ?_
    have inside := position_lt found
    rw [itemAt_eq inside]
    exact .lift (fetch_meets inside)
  | str text =>
    refine .bindMap (position_tries index text.toList.length) fun place found => ?_
    have inside := position_lt found
    refine .step (fetch_meets inside) ?_
    rw [List.drop_eq_getElem_cons inside]
    exact .done _
  | _ => exact .answer _

lemma slice_tries (container start stop : Value Obj) :
    Tries (slice container start stop) (Script.slice container start stop) := by
  cases container with
  | list items => exact .map (sliceRow_tries items start stop) _
  | str text => exact .map (sliceRow_tries text.toList start stop) _
  | _ => exact .answer _

end Indices

end Machine

end BranchingStory
