import BranchingStory.Host.Toybox
import BranchingStory.Proofs.Answer
import BranchingStory.Proofs.Script.Drawless
import BranchingStory.Proofs.Script.Effects

/-!
# Slots

The slot that a place expression stands for, read and written. A statement that changes a slot goes
through its place expression twice: once for the old value, and once for the slot to write to. Both times
it comes to one slot if the indices leave the scope as it is.
-/

namespace BranchingStory

open Script

variable {Obj : Type} [HostObject Obj]

/-! ## Reading and writing a place -/

namespace Value

/-- What a step leads to from a value. -/
def readStep (value : Value Obj) : Step Obj → Except EvalError (Value Obj)
  | .item index => item value index
  | .attr attr => value.readAttr attr

/-- The value after what a step leads to was written. -/
def writeStep (value : Value Obj) : Step Obj → Value Obj → Except EvalError (Value Obj)
  | .item index, new => setItem value index new
  | .attr attr, new => value.writeAttr attr new

/-- What a path leads to inside a value. -/
def readAt (value : Value Obj) : List (Step Obj) → Except EvalError (Value Obj)
  | [] => .ok value
  | step :: path => do (← value.readStep step).readAt path

/-- The value after what a path leads to inside of it was written. -/
def writeAt (value : Value Obj) : List (Step Obj) → Value Obj → Except EvalError (Value Obj)
  | [], new => .ok new
  | step :: path, new => do
    let inner ← (← value.readStep step).writeAt path new
    value.writeStep step inner

end Value

namespace Scope

/-- The value in a place. -/
def readPlace (s : Scope Obj) (place : Place Obj) : Except EvalError (Value Obj) :=
  match s.get? place.root with
  | some value => value.readAt place.path
  | none => .error (.undefinedName place.root)

/-- The scope after a place that is there was written. -/
def writePlace (s : Scope Obj) (place : Place Obj) (new : Value Obj) : Except EvalError (Scope Obj) :=
  match s.get? place.root with
  | some value => (value.writeAt place.path new).map (s.assign place.root)
  | none => .error (.undefinedName place.root)

end Scope

namespace Value

lemma readAt_singleton (value : Value Obj) (step : Step Obj) : value.readAt [step] = value.readStep step := by
  simp only [readAt]
  cases value.readStep step <;> rfl

lemma writeAt_singleton_eq_ok {value value' new : Value Obj} {step : Step Obj} :
    value.writeAt [step] new = .ok value' ↔
      (∃ old, value.readStep step = .ok old) ∧ value.writeStep step new = .ok value' := by
  simp [writeAt, bind_eq_ok]

lemma readAt_append (value : Value Obj) (path more : List (Step Obj)) :
    value.readAt (path ++ more) = value.readAt path >>= fun inner => inner.readAt more := by
  induction path generalizing value with
  | nil => rfl
  | cons step path ih =>
    simp only [List.cons_append, readAt]
    cases value.readStep step with
    | error reason => rfl
    | ok inner => exact ih inner

/-- What a longer path leads to is written inside of what the shorter one leads to. -/
lemma writeAt_append_eq_ok {value value' new : Value Obj} {path more : List (Step Obj)} :
    value.writeAt (path ++ more) new = .ok value' ↔
      ∃ inner inner', value.readAt path = .ok inner ∧ inner.writeAt more new = .ok inner' ∧
        value.writeAt path inner' = .ok value' := by
  induction path generalizing value value' with
  | nil => simp [readAt, writeAt]
  | cons step path ih =>
    simp only [List.cons_append, readAt, writeAt, bind_eq_ok, ih]
    constructor
    · rintro ⟨next, stepped, next', ⟨inner, inner', read, written, wrote⟩, set⟩
      exact ⟨inner, inner', ⟨next, stepped, read⟩, written, next, stepped, next', wrote, set⟩
    · rintro ⟨inner, inner', ⟨next, stepped, read⟩, written, _, again, next', wrote, set⟩
      cases stepped.symm.trans again
      exact ⟨next, stepped, next', ⟨inner, inner', read, written, wrote⟩, set⟩

variable {α : Type} {change : Change Obj α} {a : α}

/-- An item is changed by writing what becomes of it. -/
lemma changeItem_eq_ok {index container container' : Value Obj} :
    changeItem index change container = (.ok a, container') ↔
      ∃ old new, item container index = .ok old ∧ change old = (.ok a, new) ∧
        setItem container index new = .ok container' := by
  cases container with
  | list items =>
    simp only [changeItem, item, setItem]
    cases position index items.length with
    | error reason =>
      constructor
      · intro changed
        cases changed
      · rintro ⟨_, _, read, _⟩
        cases read
    | ok place =>
      constructor
      · intro changed
        obtain ⟨answered, rfl⟩ := Prod.mk.inj changed
        exact ⟨_, _, rfl, Prod.ext answered rfl, rfl⟩
      · rintro ⟨_, new, read, ran, written⟩
        cases read
        cases written
        simp only [ran]
  | dict fields =>
    simp only [changeItem, item, setItem]
    cases index with
    | str key =>
      simp only [asText?, dictKey]
      cases entryAt fields (.str key) with
      | error reason =>
        constructor
        · intro changed
          cases changed
        · rintro ⟨_, _, read, _⟩
          cases read
      | ok old =>
        constructor
        · intro changed
          obtain ⟨answered, rfl⟩ := Prod.mk.inj changed
          exact ⟨_, _, rfl, Prod.ext answered rfl, rfl⟩
        · rintro ⟨_, new, read, ran, written⟩
          cases read
          cases written
          simp only [ran]
    | _ =>
      constructor
      · intro changed
        cases changed
      · rintro ⟨_, _, read, _⟩
        cases read
  | _ =>
    constructor
    · intro changed
      cases changed
    · rintro ⟨_, _, _, _, written⟩
      cases written

/-- An attribute is changed by writing what becomes of it. -/
lemma changeAttribute_eq_ok {attr : String} {container container' : Value Obj} :
    changeAttribute attr change container = (.ok a, container') ↔
      ∃ old new, container.readAttr attr = .ok old ∧ change old = (.ok a, new) ∧
        container.writeAttr attr new = .ok container' := by
  unfold changeAttribute
  cases container.readAttr attr with
  | error reason => exact ⟨nofun, nofun⟩
  | ok old =>
    constructor
    · intro changed
      rcases ran : change old with ⟨reason | answer, new⟩
      · simp only [ran] at changed
        cases changed
      · simp only [ran] at changed
        cases written : container.writeAttr attr new with
        | error reason =>
          rw [written] at changed
          cases changed
        | ok after =>
          rw [written] at changed
          cases changed
          exact ⟨old, new, rfl, ran, written⟩
    · rintro ⟨_, new, ⟨⟩, ran, written⟩
      simp only [ran, written]

/-- What a path leads to is changed by writing what becomes of it. -/
lemma changeAt_eq_ok {path : List (Step Obj)} {value value' : Value Obj} :
    changeAt path change value = (.ok a, value') ↔
      ∃ old new, value.readAt path = .ok old ∧ change old = (.ok a, new) ∧
        value.writeAt path new = .ok value' := by
  induction path generalizing value value' with
  | nil => simp [changeAt, readAt, writeAt]
  | cons step path ih =>
    have stepped : changeAt (step :: path) change value = (.ok a, value') ↔
        ∃ inner inner', value.readStep step = .ok inner ∧ changeAt path change inner = (.ok a, inner') ∧
          value.writeStep step inner' = .ok value' := by
      cases step with
      | item index => exact changeItem_eq_ok
      | attr attr => exact changeAttribute_eq_ok
    simp only [stepped, readAt, writeAt, bind_eq_ok, ih]
    constructor
    · rintro ⟨inner, inner', here, ⟨old, new, read, changed, wrote⟩, set⟩
      exact ⟨old, new, ⟨inner, here, read⟩, changed, inner, here, inner', wrote, set⟩
    · rintro ⟨old, new, ⟨inner, here, read⟩, changed, _, again, inner', wrote, set⟩
      cases here.symm.trans again
      exact ⟨inner, inner', here, ⟨old, new, read, changed, wrote⟩, set⟩

end Value

namespace Scope

variable {α : Type} {s u : Scope Obj}

omit [HostObject Obj] in
lemma inFrames_eq (frames : List (Vars Obj)) (name : String) :
    inFrames frames name = (frames.findSome? (Assoc.get? · name)).isSome := by
  unfold inFrames
  rw [List.isSome_findSome?]
  rfl

omit [HostObject Obj] in
lemma changeFirst_eq (name : String) (change : Change Obj α) (frames : List (Vars Obj)) :
    changeFirst name change frames =
      (frames.findSome? (Assoc.get? · name)).map fun value =>
        ((change value).1, insertFirst name (change value).2 frames) := by
  induction frames with
  | nil => rfl
  | cons frame frames ih =>
    cases held : Assoc.get? frame name with
    | some value =>
      have present : Assoc.contains frame name = true := by
        rw [Assoc.contains, held, Option.isSome_some]
      simp only [changeFirst, List.findSome?_cons, held, insertFirst, present, if_true, Option.map_some]
    | none =>
      have absent : Assoc.contains frame name = false := by
        rw [Assoc.contains, held, Option.isSome_none]
      simp only [changeFirst, List.findSome?_cons, held, insertFirst, absent, ih, Option.map_map,
        Bool.false_eq_true, if_false]
      rfl

omit [HostObject Obj] in
/-- A variable is changed by assigning what becomes of it. -/
lemma changeVariable_eq (s : Scope Obj) (name : String) (change : Change Obj α) :
    s.changeVariable name change =
      (s.get? name).elim (.error (.undefinedName name), s) fun value =>
        ((change value).1, s.assign name (change value).2) := by
  obtain ⟨access, state, base, inner, generator, bindings⟩ := s
  simp only [changeVariable, changeFirst_eq, get?, assign, inFrames_eq, Assoc.contains]
  cases inner.findSome? (Assoc.get? · name) with
  | some value => rfl
  | none =>
    simp only [Option.map_none, Option.isSome_none, Bool.false_eq_true, if_false]
    -- Whether the base frame has the variable is also what the assignment decides by.
    obtain absent | ⟨value, held⟩ := (Assoc.get? base name).eq_none_or_eq_some
    · simp only [absent, Option.isSome_none, Bool.false_eq_true, if_false]
      cases Assoc.get? state name with
      | some value => cases access <;> rfl
      | none => rfl
    · simp only [held, Option.isSome_some, if_true, Option.elim_some]

/-- A place is changed by writing what becomes of its value. -/
lemma changePlace_eq_ok {place : Place Obj} {change : Change Obj α} {a : α} :
    s.changePlace place change = (.ok a, u) ↔
      ∃ old new, s.readPlace place = .ok old ∧ change old = (.ok a, new) ∧ s.writePlace place new = .ok u := by
  unfold changePlace readPlace writePlace
  rw [changeVariable_eq]
  cases s.get? place.root with
  | none => exact ⟨nofun, nofun⟩
  | some value =>
    simp only [Option.elim_some, Prod.mk.injEq, map_eq_ok]
    constructor
    · rintro ⟨answered, rfl⟩
      obtain ⟨old, new, read, changed, wrote⟩ := Value.changeAt_eq_ok.mp (Prod.ext answered rfl)
      exact ⟨old, new, read, changed, _, wrote, rfl⟩
    · rintro ⟨old, new, read, changed, value', wrote, rfl⟩
      rw [Value.changeAt_eq_ok.mpr ⟨old, new, read, changed, wrote⟩]
      exact ⟨rfl, rfl⟩

end Scope

/-! ## The place of an expression -/

namespace Place

/-- The place that more steps lead to. -/
def append (place : Place Obj) (more : List (Step Obj)) : Place Obj :=
  { place with path := place.path ++ more }

omit [HostObject Obj] in
lemma append_nil (place : Place Obj) : place.append [] = place := by
  simp only [append, List.append_nil]

omit [HostObject Obj] in
lemma append_append (place : Place Obj) (path more : List (Step Obj)) :
    (place.append path).append more = place.append (path ++ more) := by
  simp only [append, List.append_assoc]

end Place

lemma Scope.readPlace_append (s : Scope Obj) (place : Place Obj) (more : List (Step Obj)) :
    s.readPlace (place.append more) = s.readPlace place >>= fun inner => inner.readAt more := by
  simp only [readPlace, Place.append]
  cases s.get? place.root with
  | none => rfl
  | some value => exact Value.readAt_append value place.path more

lemma Scope.writePlace_append_eq_ok {s u : Scope Obj} {place : Place Obj} {more : List (Step Obj)}
    {new : Value Obj} :
    s.writePlace (place.append more) new = .ok u ↔
      ∃ inner inner', s.readPlace place = .ok inner ∧ inner.writeAt more new = .ok inner' ∧
        s.writePlace place inner' = .ok u := by
  simp only [readPlace, writePlace, Place.append]
  cases s.get? place.root with
  | none => exact ⟨nofun, nofun⟩
  | some value =>
    simp only [map_eq_ok, Value.writeAt_append_eq_ok]
    constructor
    · rintro ⟨value', ⟨inner, inner', read, written, wrote⟩, assigned⟩
      exact ⟨inner, inner', read, written, value', wrote, assigned⟩
    · rintro ⟨inner, inner', read, written, value', wrote, assigned⟩
      exact ⟨value', ⟨inner, inner', read, written, wrote⟩, assigned⟩

/-- A step behind a place is written if it leads to something there. -/
lemma Scope.writePlace_step_eq_ok {s u : Scope Obj} {place : Place Obj} {step : Step Obj} {new : Value Obj} :
    s.writePlace (place.append [step]) new = .ok u ↔
      (∃ old, s.readPlace (place.append [step]) = .ok old) ∧
        ∃ container container', s.readPlace place = .ok container ∧
          container.writeStep step new = .ok container' ∧ s.writePlace place container' = .ok u := by
  simp only [writePlace_append_eq_ok, readPlace_append, bind_eq_ok, Value.readAt_singleton,
    Value.writeAt_singleton_eq_ok]
  constructor
  · rintro ⟨container, container', read, ⟨⟨old, stepped⟩, written⟩, wrote⟩
    exact ⟨⟨old, container, read, stepped⟩, container, container', read, written, wrote⟩
  · rintro ⟨⟨old, container, read, stepped⟩, _, container', again, written, wrote⟩
    cases read.symm.trans again
    exact ⟨container, container', read, ⟨⟨old, stepped⟩, written⟩, wrote⟩

lemma Scope.contains_of_readPlace {s : Scope Obj} {place : Place Obj} {old : Value Obj}
    (read : s.readPlace place = .ok old) : s.contains place.root := by
  unfold readPlace at read
  split at read
  · next held => rw [contains, held, Option.isSome_some]
  · cases read

namespace Script

/-- Every index of a place expression leaves a scope as it is. -/
def Settled (s : Scope Obj) : Expr → Prop
  | .index base index => Settled s base ∧ ((eval index : EvalM Obj (Value Obj)) s).2 = s
  | .attr base _ => Settled s base
  | _ => True

/-- A scope with another generator at most. -/
def Redrawn (s t : Scope Obj) : Prop :=
  ∃ generator, t = s.reseed generator

omit [HostObject Obj] in
instance : Scope.FrameClosed (Redrawn : Scope Obj → Scope Obj → Prop) where
  refl s := ⟨s.generator, rfl⟩
  trans := by
    rintro s _ _ ⟨_, rfl⟩ ⟨generator, rfl⟩
    exact ⟨generator, rfl⟩
  draw s generator := ⟨generator, rfl⟩
  outside := by
    rintro s _ ⟨generator, rfl⟩ framed
    exact ⟨framed, generator, rfl⟩

/-- An expression that draws no random number and calls no method leaves a scope as it is. -/
lemma eval_unchanged (e : Expr) (drawless : e.draws = false) (still : e.methods = []) (s : Scope Obj) :
    ((eval e : EvalM Obj (Value Obj)) s).2 = s := by
  have calls : ∀ called ∈ e.methods, CallLeaves (Redrawn : Scope Obj → Scope Obj → Prop) called := by
    rw [still]
    nofun
  obtain ⟨generator, redrawn⟩ := eval_leaves_of e calls s
  have steady := congrArg Prod.snd (eval_steady e drawless s s.generator)
  calc ((eval e : EvalM Obj (Value Obj)) s).2
      = ((eval e : EvalM Obj (Value Obj)) s).2.reseed s.generator := steady
    _ = s := by rw [redrawn]; rfl

/-- The indices of a place leave a scope as it is if they draw no random number and call no method. -/
theorem settled_of_still (e : Expr) (drawless : e.draws = false) (still : e.methods = []) (s : Scope Obj) :
    Settled s e := by
  cases e with
  | index base index =>
    simp only [Expr.draws, Bool.or_eq_false_iff] at drawless
    simp only [Expr.methods, List.append_eq_nil_iff] at still
    exact ⟨settled_of_still base drawless.1 still.1 s, eval_unchanged index drawless.2 still.2 s⟩
  | attr base attr => exact settled_of_still base drawless still s
  | _ => exact trivial

/-- A place expression stands for a place, with what its indices come to in a scope that they leave as it
is. -/
inductive StandsFor (s : Scope Obj) : Expr → Place Obj → Prop
  | name {root : String} : StandsFor s (.name root) ⟨root, []⟩
  | index {base index : Expr} {place : Place Obj} {key : Value Obj} (front : StandsFor s base place)
      (found : (eval index : EvalM Obj (Value Obj)) s = (.ok key, s)) :
      StandsFor s (.index base index) (place.append [.item key])
  | attr {base : Expr} {attr : String} {place : Place Obj} (front : StandsFor s base place) :
      StandsFor s (.attr base attr) (place.append [.attr attr])

variable {s t u : Scope Obj}

/-- The place of an expression is the one that it stands for, with the steps behind it. -/
lemma evalPlace_eq_ok (e : Expr) (settled : Settled s e) {path : List (Step Obj)} {place : Place Obj} :
    evalPlace e path s = (.ok place, u) ↔
      u = s ∧ ∃ front, StandsFor s e front ∧ place = front.append path := by
  cases e with
  | name root =>
    simp only [evalPlace]
    constructor
    · rintro ⟨⟩
      exact ⟨rfl, ⟨root, []⟩, .name, rfl⟩
    · rintro ⟨rfl, front, ⟨⟩, rfl⟩
      rfl
  | index base index =>
    simp only [evalPlace, bind_apply_eq_ok]
    constructor
    · rintro ⟨key, s₁, found, rest⟩
      obtain rfl : s = s₁ := settled.2.symm.trans (congrArg Prod.snd found)
      obtain ⟨same, front, stands, rfl⟩ := (evalPlace_eq_ok base settled.1).mp rest
      refine ⟨same, front.append [.item key], .index stands found, ?_⟩
      rw [Place.append_append, List.singleton_append]
    · rintro ⟨same, _, ⟨⟩ | ⟨stands, found⟩, rfl⟩
      refine ⟨_, s, found, (evalPlace_eq_ok base settled.1).mpr ⟨same, _, stands, ?_⟩⟩
      rw [Place.append_append, List.singleton_append]
  | attr base attr =>
    simp only [evalPlace]
    rw [evalPlace_eq_ok base settled]
    constructor
    · rintro ⟨same, front, stands, rfl⟩
      refine ⟨same, front.append [.attr attr], .attr stands, ?_⟩
      rw [Place.append_append, List.singleton_append]
    · rintro ⟨same, _, ⟨⟩ | _ | ⟨stands⟩, rfl⟩
      refine ⟨same, _, stands, ?_⟩
      rw [Place.append_append, List.singleton_append]
  | _ =>
    simp only [evalPlace]
    constructor
    · nofun
    · rintro ⟨_, _, ⟨⟩, _⟩

/-- A place expression leaves a scope as it is if its indices do. -/
lemma eval_settled (e : Expr) (isPlace : e.isPlace) (settled : Settled s e) :
    ((eval e : EvalM Obj (Value Obj)) s).2 = s := by
  cases e with
  | name name =>
    simp only [eval, bind_apply]
    rfl
  | index base index =>
    have front := eval_settled base isPlace settled.1
    have behind := settled.2
    simp only [eval, bind_apply]
    rcases ran : (eval base : EvalM Obj (Value Obj)) s with ⟨reason | container, s₁⟩
    · rw [ran] at front
      exact front
    · rw [ran] at front
      obtain rfl : s₁ = s := front
      simp only
      rcases found : (eval index : EvalM Obj (Value Obj)) s₁ with ⟨reason | key, s₂⟩
      · rw [found] at behind
        exact behind
      · rw [found] at behind
        exact behind
  | attr base attr =>
    have front := eval_settled base isPlace settled
    simp only [eval, bind_apply, EvalM.view]
    cases qualified? base attr s with
    | some binding => rfl
    | none =>
      simp only [bind_apply]
      rcases ran : (eval base : EvalM Obj (Value Obj)) s with ⟨reason | container, s₁⟩
      · rw [ran] at front
        exact front
      · rw [ran] at front
        exact front
  | _ => cases isPlace

/-- What is in a place with a variable is not taken from a module of the host. -/
lemma StandsFor.qualified?_eq {e : Expr} {place : Place Obj} (stands : StandsFor s e place)
    (present : s.contains place.root) (attr : String) : qualified? e attr s = none := by
  cases stands with
  | name => simp only [qualified?, present, if_true]
  | _ => rfl

/-- A place expression comes to what is in its place. -/
lemma StandsFor.eval_eq {e : Expr} {place : Place Obj} (stands : StandsFor s e place)
    (present : s.contains place.root) : (eval e : EvalM Obj (Value Obj)) s = (s.readPlace place, s) := by
  induction stands with
  | name =>
    obtain ⟨value, held⟩ := Option.isSome_iff_exists.mp present
    simp only [eval, bind_apply]
    simp only [EvalM.view, EvalM.ofExcept, lookup, held, Scope.readPlace, Value.readAt]
  | index front found ih =>
    simp only [eval, bind_apply, ih present, Scope.readPlace_append, Value.readAt_singleton]
    cases s.readPlace _ with
    | error reason => rfl
    | ok container =>
      simp only [found]
      rfl
  | attr front ih =>
    simp only [eval, bind_apply, EvalM.view, front.qualified?_eq present, ih present,
      Scope.readPlace_append, Value.readAt_singleton]
    cases s.readPlace _ with
    | error reason => rfl
    | ok container => rfl

/-- A value is written under an index of the container in a place. -/
lemma assignTo_index_eq_ok {base index : Expr} (settled : Settled s (.index base index)) {new : Value Obj} :
    assignTo (.index base index) new s = (.ok (), u) ↔
      ∃ front key container container', StandsFor s base front ∧
        (eval index : EvalM Obj (Value Obj)) s = (.ok key, s) ∧ s.readPlace front = .ok container ∧
        setItem container key new = .ok container' ∧ s.writePlace front container' = .ok u := by
  simp only [assignTo, bind_apply_eq_ok]
  constructor
  · rintro ⟨key, s₁, found, place, s₂, placed, changed⟩
    obtain ⟨container, container', read, written, wrote⟩ := Scope.changePlace_eq_ok.mp changed
    obtain rfl : s = s₁ := settled.2.symm.trans (congrArg Prod.snd found)
    obtain ⟨rfl, front, stands, rfl⟩ := (evalPlace_eq_ok base settled.1).mp placed
    rw [Place.append_nil] at read wrote
    cases set : setItem container key new with
    | error reason =>
      rw [set] at written
      cases written
    | ok after =>
      rw [set] at written
      cases written
      exact ⟨front, key, container, container', stands, found, read, set, wrote⟩
  · rintro ⟨front, key, container, container', stands, found, read, set, wrote⟩
    refine ⟨key, s, found, front, s, ?_, Scope.changePlace_eq_ok.mpr ⟨container, container', read, ?_, wrote⟩⟩
    · exact (evalPlace_eq_ok base settled.1).mpr ⟨rfl, front, stands, front.append_nil.symm⟩
    · simp only [set]

/-- An item that is there is read and written in one place. -/
lemma assignTo_slot_eq_ok {base index : Expr} (settled : Settled s (.index base index)) {old new : Value Obj} :
    (eval (.index base index) s = (.ok old, s) ∧ assignTo (.index base index) new s = (.ok (), u)) ↔
      ∃ place, StandsFor s (.index base index) place ∧ s.readPlace place = .ok old ∧
        s.writePlace place new = .ok u := by
  rw [assignTo_index_eq_ok settled]
  constructor
  · rintro ⟨came, front, key, container, container', stands, found, read, written, wrote⟩
    have slot : StandsFor s (.index base index) (front.append [.item key]) := .index stands found
    have present : s.contains front.root := Scope.contains_of_readPlace read
    rw [slot.eval_eq present] at came
    have held : s.readPlace (front.append [.item key]) = .ok old := congrArg Prod.fst came
    exact ⟨_, slot, held, Scope.writePlace_step_eq_ok.mpr
      ⟨⟨old, held⟩, container, container', read, written, wrote⟩⟩
  · rintro ⟨_, slot, held, wrote⟩
    rw [slot.eval_eq (Scope.contains_of_readPlace held), held]
    obtain _ | ⟨stands, found⟩ := slot
    obtain ⟨_, container, container', read, written, wrote⟩ := Scope.writePlace_step_eq_ok.mp wrote
    exact ⟨rfl, _, _, container, container', stands, found, read, written, wrote⟩

/-- The call of a method that may change its receiver changes it in its place. -/
lemma callOn_place_eq_ok {e : Expr} (settled : Settled s e) (isPlace : e.isPlace) {method : String}
    {args : CallArgs Obj}
    (changing : ∀ receiver, eval e s = (.ok receiver, s) → mutates receiver method) {answer : Value Obj} :
    callOn e method args s = (.ok answer, u) ↔
      ∃ place old new, StandsFor s e place ∧ s.readPlace place = .ok old ∧
        callMethod old method args = (.ok answer, new) ∧ s.writePlace place new = .ok u := by
  simp only [callOn, bind_apply_eq_ok, isPlace, Bool.and_true]
  constructor
  · rintro ⟨receiver, s₁, came, rest⟩
    obtain rfl : s = s₁ := (eval_settled e isPlace settled).symm.trans (congrArg Prod.snd came)
    simp only [changing receiver came, if_true, bind_apply_eq_ok] at rest
    obtain ⟨place, s₂, placed, changed⟩ := rest
    obtain ⟨rfl, front, stands, rfl⟩ := (evalPlace_eq_ok e settled).mp placed
    obtain ⟨old, new, read, called, wrote⟩ := Scope.changePlace_eq_ok.mp changed
    rw [Place.append_nil] at read wrote
    exact ⟨front, old, new, stands, read, called, wrote⟩
  · rintro ⟨place, old, new, stands, read, called, wrote⟩
    have came : eval e s = (.ok old, s) := by
      rw [stands.eval_eq (Scope.contains_of_readPlace read), read]
    refine ⟨old, s, came, ?_⟩
    simp only [changing old came, if_true, bind_apply_eq_ok]
    refine ⟨place, s, ?_, Scope.changePlace_eq_ok.mpr ⟨old, new, read, called, wrote⟩⟩
    exact (evalPlace_eq_ok e settled).mpr ⟨rfl, place, stands, place.append_nil.symm⟩

/-- If the indices of a place leave the scope as it is, an augmented assignment to it and the call of a
method that changes its receiver read and write one slot, the one that the indices stand for. The scope is
the one behind the right-hand side or the arguments. -/
theorem exec_changes_slot {base index : Expr} (isPlace : base.isPlace) {t : Scope Obj}
    (settled : Settled t (.index base index)) (s u : Scope Obj) :
    (∀ (op : AssignOp) (binaryOp : BinaryOp) (right : Expr) (value : Value Obj),
      op.binary? = some binaryOp → eval right s = (.ok value, t) →
      (exec (.assign (.index base index) op right) s = (.ok (), u) ↔
        ∃ place old new, StandsFor t (.index base index) place ∧ t.readPlace place = .ok old ∧
          binary binaryOp old value = .ok new ∧ t.writePlace place new = .ok u)) ∧
    (∀ (method : String) (args : List Expr) (named : List (String × Expr)) (given : CallArgs Obj)
        (between : Scope Obj),
      evalItems args s = (.ok given.positional, between) →
      evalNamed named [] between = (.ok given.named, t) →
      (∀ receiver, eval (.index base index) t = (.ok receiver, t) → mutates receiver method) →
      (exec (.expr (.call (.attr (.index base index) method) args named)) s = (.ok (), u) ↔
        ∃ place old answer new, StandsFor t (.index base index) place ∧ t.readPlace place = .ok old ∧
          callMethod old method given = (.ok answer, new) ∧ t.writePlace place new = .ok u)) := by
  constructor
  · intro op binaryOp right value augmented came
    have whole : (Expr.index base index).isPlace := isPlace
    have ran : exec (.assign (.index base index) op right) s =
        (eval (.index base index) >>= fun old => EvalM.ofExcept (binary binaryOp old value) >>=
          assignTo (.index base index)) t := by
      rw [exec, bind_apply, came]
      simp only [augmented]
    rw [ran]
    simp only [bind_apply_eq_ok]
    constructor
    · rintro ⟨old, s₁, read, new, s₂, combined, assigned⟩
      obtain rfl : t = s₁ := (eval_settled _ whole settled).symm.trans (congrArg Prod.snd read)
      obtain ⟨made, rfl⟩ := Prod.mk.inj combined
      obtain ⟨place, stands, held, wrote⟩ := (assignTo_slot_eq_ok settled).mp ⟨read, assigned⟩
      exact ⟨place, old, new, stands, held, made, wrote⟩
    · rintro ⟨place, old, new, stands, held, made, wrote⟩
      obtain ⟨read, assigned⟩ := (assignTo_slot_eq_ok settled).mpr ⟨place, stands, held, wrote⟩
      exact ⟨old, t, read, new, t, Prod.ext made rfl, assigned⟩
  · intro method args named given between positional fields changing
    have ran : exec (.expr (.call (.attr (.index base index) method) args named)) s =
        (callOn (.index base index) method given >>= fun _ => pure ()) t := by
      simp only [exec, eval, bind_apply, positional, fields]
      rfl
    rw [ran]
    simp only [bind_apply_eq_ok, callOn_place_eq_ok settled isPlace changing]
    constructor
    · rintro ⟨answer, _, ⟨place, old, new, stands, held, called, wrote⟩, ⟨⟩⟩
      exact ⟨place, old, answer, new, stands, held, called, wrote⟩
    · rintro ⟨place, old, answer, new, stands, held, called, wrote⟩
      exact ⟨answer, u, ⟨place, old, new, stands, held, called, wrote⟩, rfl⟩

end Script

namespace Toybox

open Script

/-- A scope with session variables only. -/
def desk (vars : Vars Thing) : Scope Thing :=
  .start .owned vars [] (.ofSeed 0) []

/-- An item under a variable index is augmented, and a list in a dictionary gets one more item. -/
theorem counted_slot_changes :
    exec (.assign (.index (.name "xs") (.name "n")) .add (.lit (.int 5)))
        (desk [("xs", .list [.int 10, .int 20]), ("n", .int 1)]) =
      (.ok (), desk [("xs", .list [.int 10, .int 25]), ("n", .int 1)]) ∧
    exec (.expr (.call (.attr (.index (.name "bag") (.lit (.str "gems"))) "append") [.lit (.int 7)] []))
        (desk [("bag", .dict [("gems", .list [])])]) =
      (.ok (), desk [("bag", .dict [("gems", .list [.int 7])])]) := by
  constructor
  · refine ((exec_changes_slot rfl (settled_of_still _ rfl rfl _) _ _).1 .add .add _ (.int 5) rfl rfl).mpr ?_
    exact ⟨_, .int 20, .int 25, .index .name rfl, rfl, rfl, rfl⟩
  · refine ((exec_changes_slot rfl (settled_of_still _ rfl rfl _) _ _).2 "append" _ _ ⟨[.int 7], []⟩ _ rfl rfl
      fun receiver came => ?_).mpr ?_
    · cases came
      rfl
    · exact ⟨_, .list [], .none, .list [.int 7], .index .name rfl, rfl, rfl, rfl⟩

/-- Augments the item of one list under an index that it takes off another. -/
def augmentPopped : Stmt :=
  .assign (.index (.name "xs") (.call (.attr (.name "ys") "pop") [] [])) .add (.lit (.int 1))

/-- An index that takes an item off a list takes two, and the slot that is written is not the one that was
read. -/
theorem popped_index_changes_other_slot :
    exec augmentPopped (desk [("xs", .list [.int 10, .int 20]), ("ys", .list [.int 0, .int 1])]) =
      (.ok (), desk [("xs", .list [.int 21, .int 20]), ("ys", .list [])]) := by
  rfl

end Toybox

end BranchingStory
