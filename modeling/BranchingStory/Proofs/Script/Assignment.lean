import BranchingStory.Proofs.Machine.Rows
import BranchingStory.Proofs.Script.Slots

/-!
# Assignment to nested places

A place is spelled out as a variable with integers and texts behind it as indices. Assigning a value to it
is a lawful update of lists and dictionaries that are nested in the variable: the value can be read back,
a later assignment takes its place, and all other slots stay as they are.
-/

namespace BranchingStory

open Script

variable {Obj : Type}

/-! ## Variables -/

namespace Scope

lemma inFrames_cons (frame : Vars Obj) (frames : List (Vars Obj)) (name : String) :
    inFrames (frame :: frames) name = (Assoc.contains frame name || inFrames frames name) :=
  rfl

lemma inFrames_insertFirst (name : String) (value : Value Obj) (frames : List (Vars Obj)) :
    inFrames (insertFirst name value frames) name = inFrames frames name := by
  induction frames with
  | nil => rfl
  | cons frame frames ih =>
    unfold insertFirst
    by_cases here : Assoc.contains frame name
    · simp only [here, if_true, inFrames_cons, Assoc.contains_insert, Bool.true_or]
    · simp only [here, Bool.false_eq_true, if_false, inFrames_cons, ih]

lemma insertFirst_insertFirst (name : String) (first second : Value Obj) (frames : List (Vars Obj)) :
    insertFirst name second (insertFirst name first frames) = insertFirst name second frames := by
  induction frames with
  | nil => rfl
  | cons frame frames ih =>
    by_cases here : Assoc.contains frame name
    · simp only [insertFirst, here, if_true, Assoc.contains_insert, Assoc.insert_insert]
    · simp only [insertFirst, here, Bool.false_eq_true, if_false, ih]

lemma findSome?_insertFirst {name : String} {frames : List (Vars Obj)} (inside : inFrames frames name)
    (value : Value Obj) :
    (insertFirst name value frames).findSome? (Assoc.get? · name) = some value := by
  induction frames with
  | nil => cases inside
  | cons frame frames ih =>
    unfold insertFirst
    by_cases here : Assoc.contains frame name
    · simp only [here, if_true, List.findSome?_cons, Assoc.get?_insert]
    · have absent : Assoc.get? frame name = none := Option.not_isSome_iff_eq_none.mp here
      simp only [inFrames_cons, here, Bool.false_or] at inside
      simp only [here, Bool.false_eq_true, if_false, List.findSome?_cons, absent, ih inside]

lemma findSome?_insertFirst_ne {name other : String} (ne : other ≠ name) (value : Value Obj)
    (frames : List (Vars Obj)) :
    (insertFirst name value frames).findSome? (Assoc.get? · other) =
      frames.findSome? (Assoc.get? · other) := by
  induction frames with
  | nil => rfl
  | cons frame frames ih =>
    unfold insertFirst
    by_cases here : Assoc.contains frame name
    · simp only [here, if_true, List.findSome?_cons, Assoc.get?_insert, ne, if_false]
    · simp only [here, Bool.false_eq_true, if_false, List.findSome?_cons, ih]

/-- A later assignment of a variable takes the place of an earlier one. -/
lemma assign_assign (s : Scope Obj) (name : String) (first second : Value Obj) :
    (s.assign name first).assign name second = s.assign name second := by
  obtain ⟨access, state, base, inner, generator, bindings⟩ := s
  simp only [assign]
  by_cases inside : inFrames inner name
  · simp only [inside, if_true, inFrames_insertFirst, insertFirst_insertFirst]
  · by_cases present : Assoc.contains base name
    · simp only [inside, present, Bool.false_eq_true, if_false, if_true, Assoc.contains_insert,
        Assoc.insert_insert]
    · cases access with
      | owned => simp only [inside, present, Bool.false_eq_true, if_false, Assoc.insert_insert]
      | shared =>
        simp only [inside, present, Bool.false_eq_true, if_false, Assoc.contains_insert, if_true,
          Assoc.insert_insert]

lemma get?_assign (s : Scope Obj) (name : String) (value : Value Obj) :
    (s.assign name value).get? name = some value := by
  obtain ⟨access, state, base, inner, generator, bindings⟩ := s
  simp only [assign]
  by_cases inside : inFrames inner name
  · simp only [inside, if_true, get?, findSome?_insertFirst]
  · have absent : inner.findSome? (Assoc.get? · name) = none := by
      rwa [inFrames_eq, Option.not_isSome_iff_eq_none] at inside
    by_cases present : Assoc.contains base name
    · simp only [inside, present, Bool.false_eq_true, if_false, if_true, get?, absent, Assoc.get?_insert]
    · have none : Assoc.get? base name = none := Option.not_isSome_iff_eq_none.mp present
      cases access <;>
        simp only [inside, present, Bool.false_eq_true, if_false, get?, absent, none, Assoc.get?_insert,
          if_true]

/-- The assignment of a variable leaves the values of all others as they are. -/
lemma get?_assign_ne {name other : String} (ne : other ≠ name) (s : Scope Obj) (value : Value Obj) :
    (s.assign name value).get? other = s.get? other := by
  obtain ⟨access, state, base, inner, generator, bindings⟩ := s
  simp only [assign]
  by_cases inside : inFrames inner name
  · simp only [inside, if_true, get?, findSome?_insertFirst_ne ne]
  · by_cases present : Assoc.contains base name
    · simp only [inside, present, Bool.false_eq_true, if_false, if_true, get?, Assoc.get?_insert, ne]
    · cases access <;>
        simp only [inside, present, Bool.false_eq_true, if_false, get?, Assoc.get?_insert, ne]

end Scope

/-! ## Items -/

variable [HostObject Obj]

namespace Value

/-- An index and a step from a container lead to the same slot: the positions that they stand for are the
same, or the keys. -/
inductive SameSlot : Value Obj → Value Obj → Step Obj → Prop
  | inList {items : List (Value Obj)} {key other : Value Obj} {place : Nat}
    (first : position key items.length = .ok place) (second : position other items.length = .ok place) :
    SameSlot (.list items) key (.item other)
  | inDict {fields : List (String × Value Obj)} {name : String} :
    SameSlot (.dict fields) (.str name) (.item (.str name))

/-- A container, an index, a new value, and the container with the new value under the index: in place of an
item of a list, or under a key of a dictionary. -/
inductive Written : Value Obj → Value Obj → Value Obj → Value Obj → Prop
  | inList {items : List (Value Obj)} {key new : Value Obj} {place : Nat}
    (found : position key items.length = .ok place) :
    Written (.list items) key new (.list (items.set place new))
  | inDict {fields : List (String × Value Obj)} {name : String} {new : Value Obj} :
    Written (.dict fields) (.str name) new (.dict (Assoc.insert fields name new))

variable {container container' key new : Value Obj}

lemma setItem_eq_ok : setItem container key new = .ok container' ↔ Written container key new container' := by
  constructor
  · intro set
    cases container with
    | list items =>
      obtain ⟨place, found, rfl⟩ := map_eq_ok.mp set
      exact .inList found
    | dict fields =>
      cases key with
      | str name =>
        cases set
        exact .inDict
      | _ => cases set
    | _ => cases set
  · rintro (⟨found⟩ | _)
    · simp only [setItem, found]
      rfl
    · rfl

namespace Written

/-- What was written is there. -/
lemma item_eq (written : Written container key new container') : item container' key = .ok new := by
  cases written with
  | @inList items _ _ place found =>
    have inside : place < (items.set place new).length := by
      rw [List.length_set]
      exact Machine.position_lt found
    have there : itemAt (items.set place new) place = new := by
      rw [itemAt_eq inside, List.getElem_set_self]
    simp only [item, List.length_set, found, Except.map, there]
  | inDict => simp only [item, entryAt, Assoc.get?_insert, if_true]

/-- What is written later takes the place of it. -/
lemma again (written : Written container key new container') (other : Value Obj) :
    ∃ container'', Written container key other container'' ∧ Written container' key other container'' := by
  cases written with
  | @inList items _ _ place found =>
    have later : Written (.list (items.set place new)) key other
        (.list ((items.set place new).set place other)) := .inList (by rwa [List.length_set])
    rw [List.set_set] at later
    exact ⟨_, .inList found, later⟩
  | @inDict fields name =>
    have later : Written (.dict (Assoc.insert fields name new)) (.str name) other
        (.dict (Assoc.insert (Assoc.insert fields name new) name other)) := .inDict
    rw [Assoc.insert_insert] at later
    exact ⟨_, .inDict, later⟩

variable {step : Step Obj}

lemma sameSlot (written : Written container key new container') (same : container.SameSlot key step) :
    container'.SameSlot key step := by
  cases written with
  | inList found =>
    obtain ⟨first, second⟩ := same
    exact .inList (by rwa [List.length_set]) (by rwa [List.length_set])
  | inDict =>
    cases same
    exact .inDict

/-- All other slots stay as they are. -/
lemma readStep_eq (written : Written container key new container') (other : ¬container.SameSlot key step) :
    container'.readStep step = container.readStep step := by
  cases written with
  | @inList items _ _ place found =>
    cases step with
    | item index =>
      simp only [readStep, item, List.length_set]
      cases found' : position index items.length with
      | error reason => rfl
      | ok place' =>
        have apart : place ≠ place' := by
          rintro rfl
          exact other (.inList found found')
        simp only [Except.map, itemAt, List.getD_eq_getElem?_getD, List.getElem?_set_ne apart]
    | attr attr => rfl
  | @inDict fields name =>
    cases step with
    | item index =>
      cases index with
      | str name' =>
        have apart : name' ≠ name := by
          rintro rfl
          exact other .inDict
        simp only [readStep, item, entryAt, Assoc.get?_insert, apart, if_false]
      | _ => rfl
    | attr attr => rfl

end Written

lemma SameSlot.readStep_eq {step : Step Obj} (same : container.SameSlot key step) :
    container.readStep step = item container key := by
  cases same with
  | inList first second => simp only [readStep, item, first, second]
  | inDict => rfl

/-! ## Nested items -/

/-- The steps of a place whose indices are given. -/
abbrev steps (keys : List (Value Obj)) : List (Step Obj) :=
  keys.map .item

/-- What becomes of an old value, if there is one, when a new value is written behind indices into it. All
but the last one of them lead to something; the last one may be a key that is not there yet. -/
def stored? : List (Value Obj) → Option (Value Obj) → Value Obj → Option (Value Obj)
  | [], _, new => some new
  | key :: keys, old, new => do
    let container ← old
    let inner ← stored? keys (item container key).toOption new
    (setItem container key inner).toOption

/-- A path leaves the way along indices into a value: at some point it goes on to another slot. -/
inductive OffPath : Value Obj → List (Value Obj) → List (Step Obj) → Prop
  | here {container key : Value Obj} {step : Step Obj} {keys : List (Value Obj)} {path : List (Step Obj)}
    (other : ¬container.SameSlot key step) : OffPath container (key :: keys) (step :: path)
  | inside {container inner key : Value Obj} {step : Step Obj} {keys : List (Value Obj)}
    {path : List (Step Obj)} (same : container.SameSlot key step) (read : item container key = .ok inner)
    (off : OffPath inner keys path) : OffPath container (key :: keys) (step :: path)

lemma stored?_cons {keys : List (Value Obj)} {old : Option (Value Obj)} {value : Value Obj} :
    stored? (key :: keys) old new = some value ↔
      ∃ container inner, old = some container ∧
        stored? keys (item container key).toOption new = some inner ∧ Written container key inner value := by
  simp only [stored?, Option.bind_eq_bind, Option.bind_eq_some_iff, toOption_eq_some, setItem_eq_ok]
  constructor
  · rintro ⟨container, rfl, inner, inside, written⟩
    exact ⟨container, inner, rfl, inside, written⟩
  · rintro ⟨container, inner, rfl, inside, written⟩
    exact ⟨container, rfl, inner, inside, written⟩

variable {keys : List (Value Obj)} {old : Option (Value Obj)} {value value' : Value Obj}

/-- What was stored can be read. -/
lemma stored?_readAt (stored : stored? keys old new = some value) :
    value.readAt (steps keys) = .ok new := by
  induction keys generalizing old value with
  | nil =>
    cases stored
    rfl
  | cons key keys ih =>
    obtain ⟨container, inner, rfl, inside, written⟩ := stored?_cons.mp stored
    change (item value key >>= fun next => next.readAt (steps keys)) = .ok new
    rw [written.item_eq]
    exact ih inside

/-- What is stored later takes the place of what was stored before. -/
lemma stored?_again (stored : stored? keys old new = some value) (later : Value Obj) :
    ∃ value', stored? keys old later = some value' ∧ stored? keys (some value) later = some value' := by
  induction keys generalizing old value with
  | nil => exact ⟨later, rfl, rfl⟩
  | cons key keys ih =>
    obtain ⟨container, inner, rfl, inside, written⟩ := stored?_cons.mp stored
    obtain ⟨inner', atOnce, afterwards⟩ := ih inside
    -- What is stored inside is the same both times, and so is the container that it is written to.
    obtain ⟨value', first, second⟩ := written.again inner'
    refine ⟨value', stored?_cons.mpr ⟨container, inner', rfl, atOnce, first⟩,
      stored?_cons.mpr ⟨value, inner', rfl, ?_, second⟩⟩
    rw [written.item_eq]
    exact afterwards

/-- What lies off the path is not changed. -/
lemma stored?_offPath {path : List (Step Obj)} (off : value.OffPath keys path)
    (stored : stored? keys (some value) new = some value') : value'.readAt path = value.readAt path := by
  induction off generalizing value' with
  | @here container key step keys path other =>
    obtain ⟨_, inner', ⟨⟩, inside, written⟩ := stored?_cons.mp stored
    simp only [readAt, written.readStep_eq other]
  | @inside container inner key step keys path same read off ih =>
    obtain ⟨_, inner', ⟨⟩, inside, written⟩ := stored?_cons.mp stored
    rw [read] at inside
    simp only [readAt, same.readStep_eq, (written.sameSlot same).readStep_eq, read, written.item_eq]
    exact ih inside

/-- What a dictionary on the path becomes. Its keys keep their order, and only the last index may add a
key, which comes last. -/
lemma stored?_order {front back : List (Value Obj)} {fields : List (String × Value Obj)}
    (stored : stored? (front ++ key :: back) (some value) new = some value')
    (read : value.readAt (steps front) = .ok (.dict fields)) :
    ∃ name fields', key = .str name ∧ value'.readAt (steps front) = .ok (.dict fields') ∧
      (name ∈ Assoc.keys fields ∧ Assoc.keys fields' = Assoc.keys fields ∨
        name ∉ Assoc.keys fields ∧ back = [] ∧ Assoc.keys fields' = Assoc.keys fields ++ [name]) := by
  induction front generalizing value value' with
  | nil =>
    cases read
    obtain ⟨_, inner, ⟨⟩, inside, written⟩ := stored?_cons.mp stored
    obtain _ | @⟨_, name⟩ := written
    refine ⟨name, _, rfl, rfl, ?_⟩
    by_cases present : name ∈ Assoc.keys fields
    · exact .inl ⟨present, Assoc.keys_insert present inner⟩
    · refine .inr ⟨present, ?_, ?_⟩
      -- With another index behind it the key would lead to something.
      · cases back with
        | nil => rfl
        | cons next back =>
          obtain ⟨deeper, _, found, _⟩ := stored?_cons.mp inside
          have absent : Assoc.get? fields name = Option.none :=
            Option.not_isSome_iff_eq_none.mp fun there => present (Assoc.get?_isSome_iff.mp there)
          simp only [item, entryAt, absent] at found
          cases found
      · rw [Assoc.insert_of_notMem present]
        simp only [Assoc.keys, List.map_append, List.map_cons, List.map_nil]
  | cons k front ih =>
    obtain ⟨_, inner', ⟨⟩, inside, written⟩ := stored?_cons.mp stored
    obtain ⟨inner, here, read⟩ := bind_eq_ok.mp read
    have found : item value k = .ok inner := here
    rw [found] at inside
    obtain ⟨name, fields', text, read', kept⟩ := ih inside read
    refine ⟨name, fields', text, ?_, kept⟩
    change (item value' k >>= fun next => next.readAt (steps front)) = _
    rw [written.item_eq]
    exact read'

lemma stored?_of_last (stored : stored? (keys ++ [key]) old new = some value) :
    ∃ container, old = some container := by
  cases keys with
  | nil =>
    obtain ⟨container, _, found, _⟩ := stored?_cons.mp stored
    exact ⟨container, found⟩
  | cons k keys =>
    obtain ⟨container, _, found, _⟩ := stored?_cons.mp stored
    exact ⟨container, found⟩

/-- Writes an item of a container, which stays as it is if it has no such item. -/
def setting (key new : Value Obj) : Change Obj Unit := fun container =>
  match setItem container key new with
  | .ok container => (.ok (), container)
  | .error reason => (.error reason, container)

lemma setting_eq_ok :
    setting key new container = (.ok (), container') ↔ Written container key new container' := by
  rw [← setItem_eq_ok]
  unfold setting
  cases setItem container key new with
  | ok after => simp only [Prod.mk.injEq, true_and, Except.ok.injEq]
  | error reason => exact ⟨nofun, nofun⟩

/-- Storing a value is writing it under the last index, where the others lead to. -/
lemma changeAt_setting_eq_ok : changeAt (steps keys) (setting key new) value = (.ok (), value') ↔
    stored? (keys ++ [key]) (some value) new = some value' := by
  induction keys generalizing value value' with
  | nil =>
    rw [List.nil_append, stored?_cons]
    constructor
    · intro set
      exact ⟨value, new, rfl, rfl, setting_eq_ok.mp set⟩
    · rintro ⟨_, _, ⟨⟩, ⟨⟩, written⟩
      exact setting_eq_ok.mpr written
  | cons k keys ih =>
    rw [List.cons_append, stored?_cons]
    constructor
    · intro changed
      obtain ⟨inner, inner', read, inside, set⟩ := changeItem_eq_ok.mp changed
      refine ⟨value, inner', rfl, ?_, setItem_eq_ok.mp set⟩
      rw [read]
      exact ih.mp inside
    · rintro ⟨_, inner', ⟨⟩, inside, written⟩
      obtain ⟨inner, found⟩ := stored?_of_last inside
      rw [found] at inside
      exact changeItem_eq_ok.mpr
        ⟨inner, inner', toOption_eq_some.mp found, ih.mpr inside, setItem_eq_ok.mpr written⟩

/-! ## Changes that fail -/

/-- A change leaves a value as it is where it fails. -/
def Careful {α : Type} (change : Change Obj α) : Prop :=
  ∀ value reason value', change value = (.error reason, value') → value' = value

variable {α : Type} {change : Change Obj α}

lemma changeItem_careful (careful : Careful change) (index : Value Obj) :
    Careful (changeItem index change) := by
  intro container reason container' failed
  cases container with
  | list items =>
    simp only [changeItem] at failed
    cases found : position index items.length with
    | error reason =>
      rw [found] at failed
      cases failed
      rfl
    | ok place =>
      rcases ran : change (itemAt items place) with ⟨answer, new⟩
      simp only [found, ran] at failed
      cases failed
      rw [careful _ _ _ ran, itemAt_eq (Machine.position_lt found), List.set_getElem_self]
  | dict fields =>
    cases index with
    | str key =>
      simp only [changeItem, asText?, entryAt] at failed
      cases found : Assoc.get? fields key with
      | none =>
        simp only [found] at failed
        cases failed
        rfl
      | some value =>
        rcases ran : change value with ⟨answer, new⟩
        simp only [found, ran] at failed
        cases failed
        rw [careful _ _ _ ran, Assoc.insert_of_get? found]
    | _ =>
      cases failed
      rfl
  | _ =>
    cases failed
    rfl

lemma changeAttribute_careful (attr : String) : Careful (changeAttribute attr change) := by
  intro container reason container' failed
  unfold changeAttribute at failed
  split at failed
  · cases failed
    rfl
  · split at failed
    · cases failed
      rfl
    · split at failed
      · cases failed
        rfl
      · cases failed

lemma changeAt_careful (careful : Careful change) (path : List (Step Obj)) :
    Careful (changeAt path change) := by
  induction path with
  | nil => exact careful
  | cons step path ih =>
    cases step with
    | item index => exact changeItem_careful ih index
    | attr attr => exact changeAttribute_careful attr

lemma setting_careful (key new : Value Obj) : Careful (setting key new) := by
  intro container reason container' failed
  unfold setting at failed
  split at failed
  · cases failed
  · cases failed
    rfl

end Value

namespace Script

/-- An index is spelled out: as an integer, also with a sign in front, or as a text. -/
inductive SpellsIndex : Expr → Value Obj → Prop
  | int (i : Int64) : SpellsIndex (.lit (.int i)) (.int i)
  | negative {i j : Int64} (same : j.toInt = -i.toInt) : SpellsIndex (.unary .neg (.lit (.int i))) (.int j)
  | text (key : String) : SpellsIndex (.lit (.str key)) (.str key)

/-- A place is spelled out: as a variable with indices behind it. -/
inductive SpellsPlace : Expr → String → List (Value Obj) → Prop
  | name (root : String) : SpellsPlace (.name root) root []
  | index {base index : Expr} {root : String} {keys : List (Value Obj)} {key : Value Obj}
    (front : SpellsPlace base root keys) (last : SpellsIndex index key) :
    SpellsPlace (.index base index) root (keys ++ [key])

variable {target : Expr} {root : String} {keys : List (Value Obj)} {s u : Scope Obj}

lemma SpellsIndex.eval_eq {index : Expr} {key : Value Obj} (spelled : SpellsIndex index key) (s : Scope Obj) :
    eval index s = (.ok key, s) := by
  cases spelled with
  | int i => rfl
  | @negative i j same =>
    have exact : (unary .neg (.int i) : Except EvalError (Value Obj)) = .ok (.int j) :=
      Machine.exactInt_eq same
    simp only [eval, bind_apply]
    exact congrArg (·, s) exact
  | text key => rfl

lemma SpellsPlace.evalPlace_eq (spelled : SpellsPlace target root keys) (path : List (Step Obj))
    (s : Scope Obj) :
    evalPlace target path s = (.ok ⟨root, Value.steps keys ++ path⟩, s) := by
  induction spelled generalizing path with
  | name root => rfl
  | index front last ih =>
    simp only [evalPlace, bind_apply, last.eval_eq, ih, List.map_append, List.map_cons, List.map_nil,
      List.append_assoc, List.singleton_append]

lemma SpellsPlace.standsFor (spelled : SpellsPlace target root keys) (s : Scope Obj) :
    StandsFor s target ⟨root, Value.steps keys⟩ := by
  induction spelled with
  | name root => exact .name
  | index front last ih =>
    rw [Value.steps, List.map_append]
    exact .index ih (last.eval_eq s)

/-- An assignment to a place with indices writes what the indices before the last one lead to. -/
lemma assignTo_index {base index : Expr} {key : Value Obj} (front : SpellsPlace base root keys)
    (last : SpellsIndex index key) (new : Value Obj) (s : Scope Obj) :
    assignTo (.index base index) new s =
      s.changeVariable root (Value.changeAt (Value.steps keys) (Value.setting key new)) := by
  simp only [assignTo, bind_apply, last.eval_eq, front.evalPlace_eq, List.append_nil]
  rfl

/-- An assignment that succeeds assigns its variable what is stored inside of the old value. -/
lemma assignTo_eq_ok (spelled : SpellsPlace target root keys) {new : Value Obj} :
    assignTo target new s = (.ok (), u) ↔
      ∃ value, Value.stored? keys (s.get? root) new = some value ∧ u = s.assign root value := by
  cases spelled with
  | name root =>
    constructor
    · rintro ⟨⟩
      exact ⟨new, rfl, rfl⟩
    · rintro ⟨_, ⟨⟩, rfl⟩
      rfl
  | index front last =>
    rw [assignTo_index front last, Scope.changeVariable_eq]
    constructor
    · intro changed
      cases held : s.get? root with
      | none =>
        rw [held] at changed
        cases changed
      | some old =>
        rw [held] at changed
        obtain ⟨answered, rfl⟩ := Prod.mk.inj changed
        exact ⟨_, Value.changeAt_setting_eq_ok.mp (Prod.ext answered rfl), rfl⟩
    · rintro ⟨value, stored, rfl⟩
      obtain ⟨old, held⟩ := Value.stored?_of_last stored
      rw [held] at stored
      rw [held, Option.elim_some, Value.changeAt_setting_eq_ok.mpr stored]

/-- An assignment that fails assigns its variable the value that it has, if anything. -/
lemma assignTo_eq_error (spelled : SpellsPlace target root keys) {new : Value Obj} {reason : EvalError}
    (failed : assignTo target new s = (.error reason, u)) :
    u = s ∨ ∃ value, s.get? root = some value ∧ u = s.assign root value := by
  cases spelled with
  | name root => cases failed
  | @index _ _ _ keys key front last =>
    rw [assignTo_index front last, Scope.changeVariable_eq] at failed
    cases held : s.get? root with
    | none =>
      rw [held] at failed
      cases failed
      exact .inl rfl
    | some value =>
      rw [held] at failed
      obtain ⟨refused, rfl⟩ := Prod.mk.inj failed
      have careful := Value.changeAt_careful (Value.setting_careful key new) (Value.steps keys)
      have same := careful value reason _ (Prod.ext refused rfl)
      exact .inr ⟨value, rfl, congrArg (s.assign root) same⟩

/-- What an assignment of a value to a place makes of a scope. -/
structure LawfulUpdate (target : Expr) (root : String) (keys : List (Value Obj)) (v : Value Obj)
    (s u : Scope Obj) : Prop where
  /-- The place comes to the value. -/
  comes_back : eval target u = (.ok v, u)
  other_variables : ∀ name, name ≠ root → u.get? name = s.get? name
  /-- All slots off the path to the place are as they were, also if they are not there. -/
  other_slots : ∀ old path, s.get? root = some old → old.OffPath keys path →
    u.readPlace ⟨root, path⟩ = s.readPlace ⟨root, path⟩
  /-- The dictionaries on the path to the place keep their order, and a new key is the last one. -/
  order : ∀ front key back fields, keys = front ++ key :: back →
    s.readPlace ⟨root, Value.steps front⟩ = .ok (.dict fields) →
    ∃ name fields', key = .str name ∧ u.readPlace ⟨root, Value.steps front⟩ = .ok (.dict fields') ∧
      (name ∈ Assoc.keys fields ∧ Assoc.keys fields' = Assoc.keys fields ∨
        name ∉ Assoc.keys fields ∧ back = [] ∧ Assoc.keys fields' = Assoc.keys fields ++ [name])
  /-- A second assignment does what it does without the first one. -/
  last_wins : ∀ w, ∃ u', assignTo target w u = (.ok (), u') ∧ assignTo target w s = (.ok (), u')

lemma readPlace_eq {path : List (Step Obj)} {value : Value Obj} (held : s.get? root = some value) :
    s.readPlace ⟨root, path⟩ = value.readAt path := by
  simp only [Scope.readPlace, held]

lemma SpellsPlace.lawful (spelled : SpellsPlace target root keys) {v : Value Obj}
    (assigned : assignTo target v s = (.ok (), u)) : LawfulUpdate target root keys v s u := by
  obtain ⟨value, stored, rfl⟩ := (assignTo_eq_ok spelled).mp assigned
  have held : (s.assign root value).get? root = some value := s.get?_assign root value
  refine ⟨?_, fun name ne => Scope.get?_assign_ne ne s value, ?_, ?_, ?_⟩
  · have present : (s.assign root value).contains root := by rw [Scope.contains, held, Option.isSome_some]
    rw [(spelled.standsFor _).eval_eq present, readPlace_eq held, Value.stored?_readAt stored]
  · intro old path before off
    rw [before] at stored
    rw [readPlace_eq held, readPlace_eq before]
    exact Value.stored?_offPath off stored
  · rintro front key back fields rfl read
    cases before : s.get? root with
    | none =>
      simp only [Scope.readPlace, before] at read
      cases read
    | some old =>
      rw [before] at stored
      rw [readPlace_eq before] at read
      rw [readPlace_eq held]
      exact Value.stored?_order stored read
  · intro w
    obtain ⟨value', atOnce, afterwards⟩ := Value.stored?_again stored w
    refine ⟨s.assign root value', (assignTo_eq_ok spelled).mpr ⟨value', ?_, ?_⟩,
      (assignTo_eq_ok spelled).mpr ⟨value', atOnce, rfl⟩⟩
    · rw [held]
      exact afterwards
    · rw [Scope.assign_assign]

/-- A statement that assigns to a place writes what its right-hand side comes to, behind that. If it
succeeds it is a lawful update, and if it fails no variable has another value. -/
theorem assignment_is_lawful (spelled : SpellsPlace target root keys) (v : Value Obj) (s : Scope Obj) :
    (∀ (right : Expr) (before : Scope Obj), eval right before = (.ok v, s) →
      exec (.assign target .set right) before = assignTo target v s) ∧
    (∀ u, assignTo target v s = (.ok (), u) → LawfulUpdate target root keys v s u) ∧
    (∀ reason u, assignTo target v s = (.error reason, u) → ∀ name, u.get? name = s.get? name) := by
  refine ⟨?_, fun u => spelled.lawful, ?_⟩
  · intro right before came
    rw [exec, bind_apply, came]
    rfl
  · intro reason u failed name
    rcases assignTo_eq_error spelled failed with rfl | ⟨value, held, rfl⟩
    · rfl
    · by_cases same : name = root
      · rw [same, Scope.get?_assign, held]
      · exact Scope.get?_assign_ne same s value

end Script

namespace Toybox

open Script

/-- A shared scope in a loop, with a bag of keys among the session variables. -/
def search : Scope Thing :=
  { Scope.start .shared [("bag", .dict [("keys", .list [.str "iron", .str "tin"])])] [] (.ofSeed 0) [] with
    inner := [[("round", .int 1)]] }

/-- The last key in the bag. -/
def lastKey : Expr :=
  .index (.index (.name "bag") (.lit (.str "keys"))) (.unary .neg (.lit (.int 1)))

/-- The rings in the bag, where there are none. -/
def firstRing : Expr :=
  .index (.index (.name "bag") (.lit (.str "rings"))) (.lit (.int 0))

/-- The last key is exchanged by a lawful update of a copy of the bag in the base frame; a ring is not put
where there are none, and then no variable has another value. -/
theorem last_key_exchanged :
    (∃ u, exec (.assign lastKey .set (.lit (.str "brass"))) search = (.ok (), u) ∧
      u.base = [("bag", .dict [("keys", .list [.str "iron", .str "brass"])])] ∧
      LawfulUpdate lastKey "bag" [.str "keys", .int (-1)] (.str "brass") search u) ∧
    ∃ reason u, exec (.assign firstRing .set (.lit (.str "gold"))) search = (.error reason, u) ∧
      ∀ name, u.get? name = search.get? name := by
  have key : SpellsPlace lastKey "bag" ([] ++ [.str "keys"] ++ [.int (-1)] : List (Value Thing)) :=
    .index (.index (.name "bag") (.text "keys")) (.negative rfl)
  have ring : SpellsPlace firstRing "bag" ([] ++ [.str "rings"] ++ [.int 0] : List (Value Thing)) :=
    .index (.index (.name "bag") (.text "rings")) (.int 0)
  constructor
  · exact ⟨_, rfl, rfl, (assignment_is_lawful key (.str "brass") search).2.1 _ rfl⟩
  · exact ⟨_, _, rfl, (assignment_is_lawful ring (.str "gold") search).2.2 _ _ rfl⟩

end Toybox

end BranchingStory
