import BranchingStory.Proofs.Play.Alike
import BranchingStory.Proofs.Play.Jumps
import BranchingStory.Proofs.Play.Moves
import BranchingStory.Proofs.Play.Untouched
import BranchingStory.Proofs.Save.RoundTrip
import BranchingStory.Proofs.Source.Reserved

/-!
# Submitted values

What a story does to the variable that holds the submitted input values. Assignments to it are refused
by the compiler, and what rendering writes never reaches the session. A method that works in place is
neither: it changes the session variable when it is executed on entering a passage. Where no such method
is called on the submitted values, only the host writes them.
-/

namespace BranchingStory

open Script Scope

variable {Obj : Type}

/-! ## Parts of a value without objects -/

lemma objectFree_of_mem {items : List (Value Obj)} (free : objectFreeItems items) {v : Value Obj}
    (member : v ∈ items) : v.objectFree := by
  induction items with
  | nil => cases member
  | cons item items ih =>
    simp only [objectFreeItems, Bool.and_eq_true] at free
    rcases List.mem_cons.mp member with rfl | later
    · exact free.1
    · exact ih free.2 later

lemma objectFree_of_get? {fields : List (String × Value Obj)} (free : objectFreeFields fields)
    {key : String} {v : Value Obj} (found : Assoc.get? fields key = some v) : v.objectFree := by
  induction fields with
  | nil => cases found
  | cons field fields ih =>
    obtain ⟨k, w⟩ := field
    simp only [objectFreeFields, Bool.and_eq_true] at free
    rw [Assoc.get?_cons] at found
    split at found
    · cases found
      exact free.1
    · exact ih free.2 found

/-- An item of a value without objects has no objects. -/
lemma objectFree_item [HostObject Obj] {container index v : Value Obj} (free : container.objectFree)
    (found : item container index = .ok v) : v.objectFree := by
  cases container with
  | list items =>
    obtain ⟨place, _, rfl⟩ := map_eq_ok.mp found
    unfold itemAt
    rw [List.getD_eq_getElem?_getD]
    cases at_ : items[place]? with
    | none => rfl
    | some w => exact objectFree_of_mem free (List.mem_of_getElem? at_)
  | str text =>
    obtain ⟨place, _, rfl⟩ := map_eq_ok.mp found
    rfl
  | dict fields =>
    simp only [item, entryAt] at found
    split at found
    · split at found
      · next at_ =>
        cases found
        exact objectFree_of_get? free at_
      · cases found
    · cases found
  | _ => cases found

/-! ## Methods that work in place -/

/-- Whether a method may change the list or dictionary that it is called on. -/
def worksInPlace (method : String) : Bool :=
  ["append", "extend", "pop", "reverse", "sort", "clear"].contains method

/-- A value without objects is changed by the methods that work in place alone. -/
lemma worksInPlace_of_mutates {receiver : Value Obj} (free : receiver.objectFree) {method : String}
    (mutates : mutates receiver method) : worksInPlace method := by
  cases receiver with
  | list => exact mutates
  | dict =>
    simp only [Script.mutates, List.contains_cons, Bool.or_eq_true, beq_iff_eq] at mutates
    rcases mutates with rfl | rfl | none
    · rfl
    · rfl
    · cases none
  | object => cases free
  | _ => cases mutates

namespace Script

/-- Whether an expression calls a method that works in place on a variable or on a part of it. -/
def Expr.alters (name : String) (e : Expr) : Bool :=
  e.methods.any fun (base, method) => base.root? = some name && worksInPlace method

def Stmt.alters (name : String) : Stmt → Bool
  | .assign target _ value => target.alters name || value.alters name
  | .expr e => e.alters name

end Script

namespace Scope

/-- Whether a session variable holds no object, if it is there. -/
def Plain (name : String) (s : Scope Obj) : Prop :=
  ∀ value, Assoc.get? s.state name = some value → value.objectFree

/-- Whether a frame has a variable, so that a session variable of the same name is out of reach. -/
def Covers (name : String) (s : Scope Obj) : Prop :=
  name ∈ s.frames.flatMap Assoc.keys

/-- A plain session variable is as it was. -/
def Keeps (name : String) (s t : Scope Obj) : Prop :=
  t.access = s.access ∧
    (s.access = .owned → s.Plain name → Assoc.get? t.state name = Assoc.get? s.state name)

/-- What an expression or a statement cannot change that does not alter a variable: the names in the
frames, and in an owned scope the value of the session variable. -/
structure Lasts (name : String) (s t : Scope Obj) : Prop extends Spared s t where
  base : s.access = .owned → Assoc.keys t.base = Assoc.keys s.base
  keeps : Keeps name s t

variable {name : String} {s t u : Scope Obj}

namespace Keeps

lemma refl : Keeps name s s :=
  ⟨rfl, fun _ _ => rfl⟩

lemma plain (keeps : Keeps name s t) (owned : s.access = .owned) (plain : s.Plain name) :
    t.Plain name := by
  intro value found
  rw [keeps.2 owned plain] at found
  exact plain value found

lemma trans (first : Keeps name s t) (second : Keeps name t u) : Keeps name s u := by
  refine ⟨second.1.trans first.1, fun owned plain => ?_⟩
  exact (second.2 (first.1.trans owned) (first.plain owned plain)).trans (first.2 owned plain)

lemma of_state (access : t.access = s.access) (state : t.state = s.state) : Keeps name s t :=
  ⟨access, fun _ _ => by rw [state]⟩

end Keeps

instance : IsPreorder (Scope Obj) (Lasts name) where
  refl s := ⟨refl_of Spared s, fun _ => rfl, .refl⟩
  trans s t u first second := by
    refine ⟨trans_of Spared first.toSpared second.toSpared, fun owned => ?_, first.keeps.trans second.keeps⟩
    exact (second.base (first.access.trans owned)).trans (first.base owned)

instance : FrameClosed (@Lasts Obj name) where
  draw _ _ := ⟨⟨rfl, rfl, fun _ => rfl⟩, fun _ => rfl, .of_state rfl rfl⟩
  outside _ _ lasts framed :=
    have ⟨opened, spared⟩ := lasts.toSpared.outside framed
    ⟨opened, spared, lasts.base, lasts.keeps⟩

/-- The frames have the same names as before. -/
lemma Lasts.covers_iff (lasts : Lasts name s t) (owned : s.access = .owned) :
    t.Covers name ↔ s.Covers name := by
  have frames : t.frames.map Assoc.keys = s.frames.map Assoc.keys := by
    unfold frames
    rw [List.map_append, List.map_append, lasts.inner, List.map_singleton, List.map_singleton,
      lasts.base owned]
  rw [Covers, Covers, List.flatMap_def, List.flatMap_def, frames]

lemma not_covers_iff : ¬s.Covers name ↔ ∀ frame ∈ s.frames, Assoc.get? frame name = none := by
  simp only [Covers, List.mem_flatMap, not_exists, not_and, ← Assoc.get?_isSome_iff,
    Option.not_isSome_iff_eq_none]

lemma get?_of_not_covers (uncovered : ¬s.Covers name) : s.get? name = Assoc.get? s.state name := by
  have absent := not_covers_iff.mp uncovered
  have inner : s.inner.findSome? (Assoc.get? · name) = none :=
    List.findSome?_eq_none_iff.mpr fun frame member => absent frame (List.mem_append_left _ member)
  have base : Assoc.get? s.base name = none :=
    absent s.base (List.mem_append_right _ List.mem_cons_self)
  unfold Scope.get?
  rw [inner, base]

lemma changeFirst_eq_none {α : Type} {change : Change Obj α} {frames : List (Vars Obj)}
    (unchanged : changeFirst name change frames = none) :
    ∀ frame ∈ frames, Assoc.get? frame name = none := by
  induction frames with
  | nil => nofun
  | cons first frames ih =>
    unfold changeFirst at unchanged
    cases found : Assoc.get? first name with
    | some value =>
      rw [found] at unchanged
      cases unchanged
    | none =>
      rw [found, Option.map_eq_none_iff] at unchanged
      intro frame member
      rcases List.mem_cons.mp member with rfl | later
      · exact found
      · exact ih unchanged frame later

/-- A session variable is changed only if it is there and no frame covers it. -/
lemma changeVariable_state {α : Type} (change : Change Obj α)
    (apart : s.Covers name ∨ Assoc.get? s.state name = none) :
    (s.changeVariable name change).2.state = s.state := by
  unfold changeVariable
  split
  · rfl
  · next inner =>
    split
    · rfl
    · rfl
    · next value uncovered found _ =>
      rcases apart with covers | absent
      · refine absurd covers (not_covers_iff.mpr fun frame member => ?_)
        rcases List.mem_append.mp member with inside | base
        · exact changeFirst_eq_none inner frame inside
        · rwa [List.mem_singleton.mp base]
      · rw [absent] at found
        cases found
    · rfl

lemma changeVariable_other {α : Type} (change : Change Obj α) {other : String} (ne : other ≠ name) :
    Assoc.get? (s.changeVariable other change).2.state name = Assoc.get? s.state name := by
  unfold changeVariable
  split
  · rfl
  · split
    · rfl
    · rfl
    · simp only [Assoc.get?_insert, ne.symm, if_false]
    · rfl

/-- A change lasts that comes to another variable, or to one that was out of reach in the session. -/
lemma Lasts.changeVariable (lasts : Lasts name s t) {α : Type} (change : Change Obj α) {other : String}
    (apart : other ≠ name ∨ (s.access = .owned → s.Plain name →
      s.Covers name ∨ Assoc.get? s.state name = none)) :
    Lasts name s (t.changeVariable other change).2 := by
  have kept := kept_changeVariable t other change
  refine ⟨trans_of Spared lasts.toSpared kept.toSpared, fun owned => ?_, kept.access.trans lasts.access,
    fun owned plain => ?_⟩
  · exact (kept.base (lasts.access.trans owned)).trans (lasts.base owned)
  · have here := lasts.keeps.2 owned plain
    refine Eq.trans ?_ here
    by_cases same : other = name
    · subst same
      have outOfReach := apart.resolve_left (fun ne => ne rfl) owned plain
      rw [changeVariable_state change (outOfReach.imp (lasts.covers_iff owned).mpr here.trans)]
    · exact changeVariable_other change same

lemma lasts_assign {other : String} (ne : other ≠ name) (value : Value Obj) :
    Lasts name s (s.assign other value) := by
  have spared := spared_assign s other value
  refine ⟨spared, fun owned => ?_, spared.access, fun _ _ => ?_⟩
  · unfold assign
    split
    · rfl
    · split
      · next present => exact Assoc.keys_insert (Assoc.contains_iff.mp present) _
      · rw [owned]
  · unfold assign
    split
    · rfl
    · split
      · rfl
      · split
        · simp only [Assoc.get?_insert, ne.symm, if_false]
        · rfl

end Scope

/-! ## Expressions and statements -/

namespace Script

variable [HostObject Obj] {name : String}

/-- The place of an expression is a place of its variable. -/
lemma root?_of_evalPlace (e : Expr) {path : List (Step Obj)} {place : Place Obj} {s t : Scope Obj}
    (evaluated : evalPlace e path s = (.ok place, t)) : e.root? = some place.root := by
  cases e with
  | name root =>
    simp only [evalPlace] at evaluated
    cases evaluated
    rfl
  | index base index =>
    simp only [evalPlace] at evaluated
    obtain ⟨value, between, _, rest⟩ := bind_apply_eq_ok.mp evaluated
    exact root?_of_evalPlace base rest
  | attr base attr =>
    simp only [evalPlace] at evaluated
    exact root?_of_evalPlace base evaluated
  | _ =>
    simp only [evalPlace] at evaluated
    cases evaluated

/-- A part of a session variable without objects, which no frame covers, has no objects. -/
lemma objectFree_of_eval (base : Expr) (root : base.root? = some name) {s t : Scope Obj} {v w : Value Obj}
    (uncovered : ¬s.Covers name) (here : Assoc.get? s.state name = some v) (free : v.objectFree)
    (evaluated : (eval base : EvalM Obj (Value Obj)) s = (.ok w, t)) : w.objectFree := by
  have found : s.get? name = some v := (get?_of_not_covers uncovered).trans here
  cases base with
  | name =>
    cases root
    simp only [eval, EvalM.view, EvalM.ofExcept, bind_apply, lookup, found] at evaluated
    cases evaluated
    exact free
  | index base index =>
    simp only [eval] at evaluated
    obtain ⟨container, _, first, rest⟩ := bind_apply_eq_ok.mp evaluated
    obtain ⟨position, _, _, last⟩ := bind_apply_eq_ok.mp rest
    obtain ⟨reached, _⟩ := Prod.mk.inj last
    exact objectFree_item (objectFree_of_eval base root uncovered here free first) reached
  | attr base attr =>
    -- A value without objects has no attributes, and the variable is not the name of a module.
    have unqualified : qualified? base attr s = none := by
      cases base with
      | name module =>
        cases root
        simp only [qualified?, contains, found, Option.isSome_some, if_true]
      | _ => rfl
    rw [eval, bind_apply, EvalM.view, unqualified] at evaluated
    obtain ⟨container, _, first, last⟩ := bind_apply_eq_ok.mp evaluated
    obtain ⟨reached, _⟩ := Prod.mk.inj last
    have plain := objectFree_of_eval base root uncovered here free first
    cases container with
    | object => cases plain
    | _ => cases reached
  | _ => cases root

/-- A change of a place lasts if its variable is another one, or out of reach in the session. -/
lemma changePlace_lasts {α : Type} {base : Expr}
    (ofPlace : Leaves (Lasts name) (evalPlace base [] : EvalM Obj (Place Obj))) (change : Change Obj α)
    {s t : Scope Obj} (lasts : Lasts name s t)
    (apart : base.root? ≠ some name ∨ (s.access = .owned → s.Plain name →
      s.Covers name ∨ Assoc.get? s.state name = none)) :
    Lasts name s ((do
      let place ← evalPlace base []
      EvalM.step fun s => s.changePlace place change : EvalM Obj α) t).2 := by
  have here : Lasts name s (evalPlace base [] t).2 := trans_of (Lasts name) lasts (ofPlace t)
  rw [bind_apply]
  rcases evaluated : (evalPlace base [] t : Except EvalError (Place Obj) × Scope Obj)
    with ⟨reason | place, u⟩
  · rw [evaluated] at here
    exact here
  · rw [evaluated] at here
    refine here.changeVariable _ (apart.imp_left fun ne same => ne ?_)
    rw [root?_of_evalPlace base evaluated, same]

/-- The call of a method leaves a variable that it does not alter. -/
lemma callLeaves_lasts {called : Expr × String}
    (gentle : called.1.root? ≠ some name ∨ worksInPlace called.2 = false) :
    CallLeaves (@Lasts Obj name) called := by
  obtain ⟨base, method⟩ := called
  intro ofReceiver ofPlace args s
  have lasts : Lasts name s (eval base s).2 := ofReceiver s
  change Lasts name s (callOn base method args s).2
  rw [callOn, bind_apply]
  rcases evaluated : (eval base s : Except EvalError (Value Obj) × Scope Obj) with ⟨reason | receiver, t⟩
  · rw [evaluated] at lasts
    exact lasts
  · rw [evaluated] at lasts
    simp only
    split
    · next inPlace =>
      rw [Bool.and_eq_true] at inPlace
      refine changePlace_lasts ofPlace _ lasts ?_
      by_cases root : base.root? = some name
      · refine .inr fun owned plain => ?_
        by_cases covers : s.Covers name
        · exact .inl covers
        · cases here : Assoc.get? s.state name with
          | none => exact .inr rfl
          | some v =>
            -- A part of the variable has no objects, and so no method that changes it.
            have free := objectFree_of_eval base root covers here (plain v here) evaluated
            have works := worksInPlace_of_mutates free inPlace.1
            rw [gentle.resolve_left fun ne => ne root] at works
            cases works
      · exact .inl root
    · exact lasts

lemma calls_lasts {e : Expr} (gentle : e.alters name = false) :
    ∀ called ∈ e.methods, CallLeaves (@Lasts Obj name) called := by
  intro called member
  have harmless := List.any_eq_false.mp gentle called member
  refine callLeaves_lasts ?_
  simpa only [Bool.and_eq_true, decide_eq_true_eq, not_and_or, Bool.not_eq_true] using harmless

/-- An expression leaves a variable that it does not alter. -/
theorem eval_lasts (e : Expr) (gentle : e.alters name = false) :
    Leaves (Lasts name) (eval e : EvalM Obj (Value Obj)) :=
  eval_leaves_of e (calls_lasts gentle)

lemma assignTo_lasts {target : Expr} (root : target.root? ≠ some name)
    (gentle : target.alters name = false) (value : Value Obj) :
    Leaves (Lasts name) (assignTo target value) := by
  cases target with
  | name other => exact fun s => lasts_assign (fun same => root (congrArg some same)) value
  | index base index =>
    simp only [Expr.alters, Expr.methods, List.any_append, Bool.or_eq_false_iff] at gentle
    refine .bind (eval_lasts index gentle.2) fun index t => ?_
    exact changePlace_lasts (evalPlace_leaves_of base (calls_lasts gentle.1) []) _
      (refl_of (Lasts name) t) (.inl root)
  | attr base attr =>
    simp only [Expr.alters, Expr.methods] at gentle
    exact fun s => changePlace_lasts (evalPlace_leaves_of base (calls_lasts gentle) []) _
      (refl_of (Lasts name) s) (.inl root)
  | _ => exact .answer _

/-- A statement leaves a variable that it neither alters nor assigns to. -/
theorem exec_lasts (stmt : Stmt) (gentle : stmt.alters name = false)
    (free : ∀ target op value, stmt = .assign target op value → target.root? ≠ some name) :
    Leaves (Lasts name) (exec stmt : EvalM Obj Unit) := by
  cases stmt with
  | expr e => exact .bind (eval_lasts e gentle) fun value => .pure ()
  | assign target op value =>
    simp only [Stmt.alters, Bool.or_eq_false_iff] at gentle
    have root := free target op value rfl
    simp only [exec]
    refine .bind (eval_lasts value gentle.2) fun value => ?_
    split
    · exact assignTo_lasts root gentle.1 value
    · refine .bind (eval_lasts target gentle.1) fun old => ?_
      exact .bind (.answer _) fun result => assignTo_lasts root gentle.1 result

end Script

/-! ## Entering passages -/

/-- Whether an expression fragment calls a method that works in place on a variable. -/
def altersExpression (name code : String) : Bool :=
  match Expr.read code.toList with
  | .ok e => e.alters name
  | .error _ => false

def altersStatement (name code : String) : Bool :=
  match Stmt.read code.toList with
  | .ok stmt => stmt.alters name
  | .error _ => false

/-- Whether a variable may be altered in place on entering a passage: by the defaults of its parameters
or by its commands. -/
def Passage.alters (name : String) (p : Passage) : Bool :=
  p.params.any (·.default?.any (altersExpression name)) ||
    p.execute.any (altersStatement name ·.source)

/-- Whether no command of a passage assigns to a variable or to a part of it. -/
def Passage.Reserves (name : String) (p : Passage) : Prop :=
  ∀ c ∈ p.execute, ∀ target op value, Stmt.read c.source.toList = .ok (.assign target op value) →
    target.root? ≠ some name

section Entering

variable [HostObject Obj] {name : String} {s s' : Scope Obj}

lemma evalSource_lasts {code : String} (gentle : altersExpression name code = false) :
    Leaves (Lasts name) (evalSource code : EvalM Obj (Value Obj)) := by
  unfold altersExpression at gentle
  unfold evalSource
  cases read : Expr.read code.toList with
  | error reason => exact .answer _
  | ok e =>
    rw [read] at gentle
    exact eval_lasts e gentle

lemma execSource_lasts {code : String} (gentle : altersStatement name code = false)
    (free : ∀ target op value, Stmt.read code.toList = .ok (.assign target op value) →
      target.root? ≠ some name) :
    Leaves (Lasts name) (execSource code : EvalM Obj Unit) := by
  unfold altersStatement at gentle
  unfold execSource
  cases read : Stmt.read code.toList with
  | error reason => exact .answer _
  | ok stmt =>
    rw [read] at gentle
    exact exec_lasts stmt gentle fun target op value same => free target op value (same ▸ read)

omit [HostObject Obj] in
lemma keeps_setLocal (s : Scope Obj) (param : String) (value : Value Obj) :
    Keeps name s (s.setLocal param value) := by
  obtain ⟨access, state, base, inner, generator, bindings⟩ := s
  cases inner <;> exact .of_state rfl rfl

/-- Binding parameters writes in the frame of the passage. -/
lemma Binds.keeps {params : List Param} {positional : List (Value Obj)}
    {named : List (String × Value Obj)} (binds : Binds params positional named s s')
    (gentle : params.any (·.default?.any (altersExpression name)) = false) : Keeps name s s' := by
  induction binds with
  | done => exact .refl
  | positional _ ih | named _ _ ih =>
    simp only [List.any_cons, Bool.or_eq_false_iff] at gentle
    exact (keeps_setLocal _ _ _).trans (ih gentle.2)
  | @default p params named code value s s₁ s' _ default evaluated _ ih =>
    simp only [List.any_cons, Bool.or_eq_false_iff, default, Option.any_some] at gentle
    have lasts : Lasts name s (evalSource code s).2 := evalSource_lasts gentle.1 s
    rw [evaluated] at lasts
    exact lasts.keeps.trans ((keeps_setLocal _ _ _).trans (ih gentle.2))

lemma Executes.keeps {commands : List Command} (executes : Executes commands s s')
    (gentle : commands.any (altersStatement name ·.source) = false)
    (reserves : ∀ c ∈ commands, ∀ target op value,
      Stmt.read c.source.toList = .ok (.assign target op value) → target.root? ≠ some name) :
    Keeps name s s' := by
  induction executes with
  | done => exact .refl
  | @command command commands s s₁ s' executed _ ih =>
    simp only [List.any_cons, Bool.or_eq_false_iff] at gentle
    have lasts : Lasts name s (execSource command.source s).2 :=
      execSource_lasts gentle.1 (reserves command List.mem_cons_self) s
    rw [executed] at lasts
    exact lasts.keeps.trans (ih gentle.2 fun c later => reserves c (List.mem_cons_of_mem _ later))

/-- Entering a passage keeps a variable that its fragments neither alter nor assign to. -/
lemma enter_keeps {p : Passage} (gentle : p.alters name = false) (reserves : p.Reserves name)
    {call : CallArgs Obj} (entered : p.enter call s = (.ok (), s')) : Keeps name s s' := by
  simp only [Passage.alters, Bool.or_eq_false_iff] at gentle
  obtain ⟨_, bound, binds, executes⟩ := enter_eq_ok.mp entered
  exact (binds.keeps gentle.1).trans (executes.keeps gentle.2 reserves)

end Entering

/-! ## Playing a story -/

/-- What the host submitted. -/
def Session.inputs? (s : Session Obj) : Option (Value Obj) :=
  Assoc.get? s.vars inputsVariable

/-- Whether a story may alter a variable in place on entering one of its passages. -/
def Story.alters (name : String) (story : Story) : Bool :=
  story.passages.any fun (_, p) => p.alters name

/-- No compiled command assigns to the submitted values. -/
lemma Story.CompiledFrom.reserves {e : Source.Expansion} {story : Story} (compiled : story.CompiledFrom e)
    {id : String} {p : Passage} (found : story.passage? id = some p) : p.Reserves inputsVariable := by
  intro c member target op value executed
  have piece : Piece.statement c ∈ p.pieces :=
    List.mem_append_right _ (List.mem_map_of_mem member)
  obtain ⟨code, line, _, command⟩ := compiled.known _ (Story.mem_pieces found piece)
  exact Source.root?_ne_inputs command executed

section Playing

variable [HostObject Obj]

omit [HostObject Obj] in
lemma Game.Departs.inputs {g : Game Obj} {m : Move Obj} {d : Departure Obj} (departs : g.Departs m d) :
    d.session.inputs? = g.session.inputs? := by
  cases departs with
  | start => rfl
  | enter => rfl
  | choose =>
    unfold Session.take Session.consume
    split
    · split <;> rfl
    · rfl

section Gentle

variable {story : Story} (gentle : story.alters inputsVariable = false)
  (reserves : ∀ {id p}, story.passage? id = some p → p.Reserves inputsVariable)
include gentle reserves

/-- A hop keeps the submitted values of a session. -/
lemma hop_inputs {bindings : Bindings Obj} {id : String} {p : Passage}
    (found : story.passage? id = some p) {call : CallArgs Obj} {s s' : Session Obj} {stop : Hop Obj}
    (hopped : hop bindings id p call s = .ok (stop, s'))
    (free : ∀ value, s.inputs? = some value → value.objectFree) : s'.inputs? = s.inputs? := by
  obtain ⟨scope, entered, rfl, rfl⟩ := hop_eq_ok hopped
  have ofPassage : p.alters inputsVariable = false :=
    Bool.of_not_eq_true (List.any_eq_false.mp gentle _ (Assoc.mem_of_get? found))
  exact (enter_keeps ofPassage (reserves found) entered).2 rfl free

/-- All hops of a chain keep the submitted values. -/
lemma follow_inputs {bindings : Bindings Obj} {visited : List String} {id : String} {call : CallArgs Obj}
    {s s' : Session Obj} {chain : Chain Obj}
    (followed : follow story bindings visited id call s = .ok (chain, s'))
    (free : ∀ value, s.inputs? = some value → value.objectFree) : s'.inputs? = s.inputs? := by
  fun_induction follow story bindings visited id call s generalizing chain s' with
  | case1 | case2 | case3 | case5 => cases followed
  | case4 visited id call s new p found stop s₁ hopped stays =>
    cases followed
    exact hop_inputs gentle reserves found hopped free
  | case6 visited id call s new p found stop s₁ hopped jump jumps chain' s₂ later ih =>
    cases followed
    have here := hop_inputs gentle reserves found hopped free
    exact (ih later (here ▸ free)).trans here

/-- A step through passages keeps the submitted values, whether it succeeds or is refused. -/
lemma Game.move_inputs {g : Game Obj} (plays : g.story = story) {m : Move Obj} (step : m.isStep)
    (free : ∀ value, g.session.inputs? = some value → value.objectFree) :
    (g.move m).2.session.inputs? = g.session.inputs? := by
  subst plays
  have outcome := g.outcome m
  generalize (g.move m).1 = answer at outcome
  generalize (g.move m).2.session = session at outcome ⊢
  cases outcome with
  | refused => rfl
  | stepped departs followed =>
    have same := departs.inputs
    exact (follow_inputs gentle reserves followed (same ▸ free)).trans same
  | submitted | set | loaded => cases step

end Gentle

/-- Where no fragment of a compiled story works in place on the submitted values, and these hold no
objects, only the host writes them: through all steps that a player takes they stay as they were. -/
theorem Story.CompiledFrom.inputs_kept {e : Source.Expansion} {story : Story}
    (compiled : story.CompiledFrom e) (gentle : story.alters inputsVariable = false) {g : Game Obj}
    (plays : g.story = story) (free : ∀ value, g.session.inputs? = some value → value.objectFree)
    {moves : List (Move Obj)} (steps : ∀ m ∈ moves, m.isStep) :
    (g.play moves).2.session.inputs? = g.session.inputs? := by
  induction moves generalizing g with
  | nil => rfl
  | cons m moves ih =>
    have here := Game.move_inputs gentle compiled.reserves plays (steps m List.mem_cons_self) free
    have next := ih ((g.move_story m).trans plays) (here ▸ free) fun later member =>
      steps later (List.mem_cons_of_mem _ member)
    exact next.trans here

end Playing

open Source in
/-- The lines of a story that reads what was submitted, and alters a copy of it. -/
def inscriptionLines : Expansion :=
  ⟨[⟨inlineLabel, 1, ":: Gate(names=[_inputs[\"hero\"]])".toList⟩,
    ⟨inlineLabel, 2, "~ carved = _inputs".toList⟩,
    ⟨inlineLabel, 3, "~ carved.pop(\"hero\")".toList⟩,
    ⟨inlineLabel, 4, "~ names.append(_inputs.get(\"foe\", \"Nobody\"))".toList⟩,
    ⟨inlineLabel, 5, "\x7bnames\x7d \x7bcarved\x7d".toList⟩,
    ⟨inlineLabel, 6, "+ [again] -> Gate".toList⟩], [], []⟩

def inscription : Story :=
  inscriptionLines.story

/-- A game at the gate, for a hero who has a name. -/
def atInscription : Game Toybox.Thing :=
  ((Game.opening inscription Toybox.registry 7 []).move (.submit [("hero", .str "Ann")])).2

theorem inputs_kept_at_inscription :
    inscription.CompiledFrom inscriptionLines ∧
      (atInscription.play [.start, .choose 0]).2.session.position?.map (·.output.content) =
        some "['Ann', 'Nobody'] \x7b\x7d\n" ∧
      (atInscription.play [.start, .choose 0]).2.session.inputs? = atInscription.session.inputs? := by
  have compiled : inscription.CompiledFrom inscriptionLines :=
    inscriptionLines.compiledFrom (by decide +kernel)
  refine ⟨compiled, by decide +kernel, ?_⟩
  have submitted : atInscription.session.inputs? = some (.dict [("hero", .str "Ann")]) := rfl
  refine compiled.inputs_kept (by decide +kernel) rfl (fun value found => ?_) ?_
  · rw [submitted] at found
    cases found
    rfl
  · simp [Move.isStep]

open Source in
/-- The lines of a story that empties what was submitted by a method. -/
def slateLines : Expansion :=
  ⟨[⟨inlineLabel, 1, ":: Start".toList⟩, ⟨inlineLabel, 2, "~ _inputs.clear()".toList⟩,
    ⟨inlineLabel, 3, "Hi".toList⟩], [], []⟩

def slate : Story :=
  slateLines.story

def atSlate : Game Toybox.Thing :=
  ((Game.opening slate Toybox.registry 7 []).move (.submit [("hero", .str "Ann")])).2

/-- The text of what was submitted. -/
def Game.inputsText (g : Game Toybox.Thing) : Option String :=
  g.session.inputs?.map Value.repr

/-- The compiler accepts the call of a method that empties the submitted values, and a start of the story
that succeeds leaves nothing of them. -/
theorem start_wipes_slate :
    slate.CompiledFrom slateLines ∧ atSlate.Reachable slate Toybox.registry ∧
      (atSlate.move .start).1.isOk ∧ atSlate.inputsText = some "\x7b'hero': 'Ann'\x7d" ∧
      (atSlate.move .start).2.inputsText = some "\x7b\x7d" :=
  ⟨slateLines.compiledFrom (by decide +kernel), .move _ (.opening _ _ _ (by decide +kernel)),
    by decide +kernel, by decide +kernel, by decide +kernel⟩

end BranchingStory
