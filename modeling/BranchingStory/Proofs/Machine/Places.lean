import BranchingStory.Proofs.Machine.Functions

/-!
# Places on a machine

A place is changed by going down its path and back. The machine reads the items of lists on the way by
position, and each of these positions was tested before.
-/

namespace BranchingStory

open Script

variable {Obj α : Type} [HostObject Obj]

/-- A change of a value by a machine. -/
abbrev MachineChange (Obj α : Type) := Value Obj → Steps (Except EvalError α × Value Obj)

/-- Whatever value it is applied to, a machine comes to what a change makes of it. -/
def Changes (m : MachineChange Obj α) (change : Change Obj α) : Prop :=
  ∀ value, Meets (m value) (change value)

namespace Machine

def changeItem (index : Value Obj) (change : MachineChange Obj α) : MachineChange Obj α := fun container =>
  match container with
  | .list items => do
    match ← (position index items.length).run with
    | .error reason => return (.error reason, container)
    | .ok place =>
      let item ← fetch items place
      let (answer, item) ← change item
      return (answer, .list (items.set place item))
  | .dict fields =>
    match index.asText?, entryAt fields index with
    | some key, .ok value => do
      let (answer, value) ← change value
      return (answer, .dict (Assoc.insert fields key value))
    | _, _ => return (.error (.missingKey index.repr), container)
  | container => return (.error (notSubscriptable container), container)

def changeAttribute (attr : String) (change : MachineChange Obj α) : MachineChange Obj α := fun container =>
  match container.readAttr attr with
  | .error reason => return (.error reason, container)
  | .ok field => do
    match ← change field with
    | (.error reason, _) => return (.error reason, container)
    | (.ok answer, field) =>
      match container.writeAttr attr field with
      | .error reason => return (.error reason, container)
      | .ok container => return (.ok answer, container)

/-- A change of what a path leads to inside a value. -/
def changeAt : List (Step Obj) → MachineChange Obj α → MachineChange Obj α
  | [], change => change
  | .item index :: path, change => changeItem index (changeAt path change)
  | .attr attr :: path, change => changeAttribute attr (changeAt path change)

def changeFirst (name : String) (change : MachineChange Obj α) :
    List (Vars Obj) → Option (Steps (Except EvalError α × List (Vars Obj)))
  | [] => none
  | frame :: frames =>
    match Assoc.get? frame name with
    | some value => some do
      let (answer, value) ← change value
      return (answer, Assoc.insert frame name value :: frames)
    | none => (changeFirst name change frames).map fun steps => do
      let (answer, frames) ← steps
      return (answer, frame :: frames)

def changeVariable (s : Scope Obj) (name : String) (change : MachineChange Obj α) :
    Steps (Except EvalError α × Scope Obj) :=
  match changeFirst name change s.inner with
  | some steps => do
    let (answer, inner) ← steps
    return (answer, { s with inner })
  | none =>
    match Assoc.get? s.base name, Assoc.get? s.state name, s.access with
    | some value, _, _ | none, some value, .shared => do
      let (answer, value) ← change value
      return (answer, { s with base := Assoc.insert s.base name value })
    | none, some value, .owned => do
      let (answer, value) ← change value
      return (answer, { s with state := Assoc.insert s.state name value })
    | none, none, _ => return (.error (.undefinedName name), s)

def changePlace (s : Scope Obj) (place : Place Obj) (change : MachineChange Obj α) :
    Steps (Except EvalError α × Scope Obj) :=
  changeVariable s place.root (changeAt place.path change)

variable {m : MachineChange Obj α} {change : Change Obj α}

lemma changeItem_changes (index : Value Obj) (changes : Changes m change) :
    Changes (changeItem index m) (Value.changeItem index change) := by
  intro container
  cases container with
  | list items =>
    refine .bind (position_tries index items.length) ?_
    simp only [Value.changeItem]
    cases found : Script.position index items.length with
    | error reason => exact .done _
    | ok place =>
      have inside := position_lt found
      simp only [itemAt_eq inside]
      exact .bind (fetch_meets inside) (.bind (changes _) (.done _))
  | dict fields =>
    simp only [changeItem, Value.changeItem]
    cases index.asText? with
    | none => exact .done _
    | some key =>
      cases entryAt fields index with
      | error reason => exact .done _
      | ok value => exact .bind (changes value) (.done _)
  | _ => exact .done _

lemma changeAttribute_changes (attr : String) (changes : Changes m change) :
    Changes (changeAttribute attr m) (Value.changeAttribute attr change) := by
  intro container
  simp only [changeAttribute, Value.changeAttribute]
  cases container.readAttr attr with
  | error reason => exact .done _
  | ok field =>
    simp only
    refine .bind (changes field) ?_
    rcases change field with ⟨reason | answer, field⟩
    · exact .done _
    · simp only
      cases container.writeAttr attr field <;> exact .done _

lemma changeAt_changes (path : List (Step Obj)) (changes : Changes m change) :
    Changes (changeAt path m) (Value.changeAt path change) := by
  induction path with
  | nil => exact changes
  | cons step path ih =>
    cases step with
    | item index => exact changeItem_changes index ih
    | attr attr => exact changeAttribute_changes attr ih

omit [HostObject Obj] in
/-- A machine finds the same frame with a variable. -/
lemma changeFirst_changes (name : String) (changes : Changes m change) (frames : List (Vars Obj)) :
    match Scope.changeFirst name change frames with
    | none => changeFirst name m frames = none
    | some changed => ∃ steps, changeFirst name m frames = some steps ∧ Meets steps changed := by
  induction frames with
  | nil => rfl
  | cons frame frames ih =>
    unfold changeFirst Scope.changeFirst
    cases Assoc.get? frame name with
    | some value => exact ⟨_, rfl, .bind (changes value) (.done _)⟩
    | none =>
      cases found : Scope.changeFirst name change frames with
      | none =>
        rw [found] at ih
        simp only [ih, Option.map_none]
      | some changed =>
        rw [found] at ih
        obtain ⟨steps, same, meets⟩ := ih
        simp only [same, Option.map_some]
        exact ⟨_, rfl, .bind meets (.done _)⟩

omit [HostObject Obj] in
lemma changeVariable_meets (s : Scope Obj) (name : String) (changes : Changes m change) :
    Meets (changeVariable s name m) (s.changeVariable name change) := by
  have first := changeFirst_changes name changes s.inner
  unfold changeVariable Scope.changeVariable
  cases found : Scope.changeFirst name change s.inner with
  | some changed =>
    rw [found] at first
    obtain ⟨steps, same, meets⟩ := first
    simp only [same]
    exact .bind meets (.done _)
  | none =>
    rw [found] at first
    simp only [first]
    cases Assoc.get? s.base name with
    | some value => exact .bind (changes value) (.done _)
    | none =>
      cases Assoc.get? s.state name with
      | none => exact .done _
      | some value => cases s.access <;> exact .bind (changes value) (.done _)

/-- A machine changes a place as it is wanted, if it changes each value in that way. -/
lemma changePlace_meets (s : Scope Obj) (place : Place Obj) (changes : Changes m change) :
    Meets (changePlace s place m) (s.changePlace place change) :=
  changeVariable_meets s place.root (changeAt_changes place.path changes)

end Machine

end BranchingStory
