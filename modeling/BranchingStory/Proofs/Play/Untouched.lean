import BranchingStory.Host.Toybox
import BranchingStory.Play.Render
import BranchingStory.Proofs.Script.Effects

/-!
# What rendering leaves untouched

Rendering evaluates its fragments in a shared scope, which keeps the session variables as they are: what
would be written there goes into the base frame. Frames are closed behind loops and comprehensions, also
if a failure or a jump cuts these short. In an owned scope an expression changes the values of variables
in place, and the names stay what they were.
-/

namespace BranchingStory

open Script Scope

variable {Obj : Type}

/-! ## Rendering in steps -/

namespace Leaves

variable {R : Scope Obj → Scope Obj → Prop}

lemma andThen [IsPreorder (Scope Obj) R] {first second : Pass Obj} (ofFirst : Leaves R first)
    (ofSecond : Leaves R second) : Leaves R (first.andThen second) := by
  intro s
  simp only [Pass.andThen]
  split
  · exact ofFirst s
  · exact trans_of R (ofFirst s) (ofSecond _)

/-- The frame of a loop is closed behind its body, also behind a jump. -/
lemma ofFrame {body : Pass Obj} (leaves : Leaves (Outside R) body) : Leaves R (Pass.inFrame body) := by
  intro s
  obtain ⟨_, same⟩ := leaves s.pushFrame (List.cons_ne_nil _ _)
  exact same

lemma attempt [IsPreorder (Scope Obj) R] {α : Type} {computation : EvalM Obj α}
    {failed : EvalError → Pass Obj} {done : α → Pass Obj} (leaves : Leaves R computation)
    (ofFailed : ∀ reason, Leaves R (failed reason)) (ofDone : ∀ a, Leaves R (done a)) :
    Leaves R (Pass.attempt computation failed done) := by
  intro s
  have here := leaves s
  unfold Pass.attempt
  rcases ran : (computation s : Except EvalError α × Scope Obj) with ⟨reason | a, t⟩
  · rw [ran] at here
    exact trans_of R here (ofFailed reason t)
  · rw [ran] at here
    exact trans_of R here (ofDone a t)

end Leaves

section Rendering

variable [HostObject Obj] {R : Scope Obj → Scope Obj → Prop}

section Expressions

variable [EvalClosed R]

lemma evalText_leaves (code : String) (format? : Option String) :
    Leaves R (evalText code format? : EvalM Obj String) := by
  refine .bind (evalSource_leaves code) fun value => ?_
  cases format? with
  | none => exact .pure _
  | some spec => exact .answer _

lemma evalArgs_leaves (args : List Arg) (call : CallArgs Obj) : Leaves R (evalArgs call args) := by
  induction args generalizing call with
  | nil => exact .answer _
  | cons arg args ih =>
    intro s
    have here : Leaves R (evalSource arg.expr : EvalM Obj (Value Obj)) := evalSource_leaves arg.expr
    have first := here s
    unfold evalArgs
    rcases ran : (evalSource arg.expr s : Except EvalError (Value Obj) × Scope Obj)
      with ⟨reason | value, t⟩
    · rw [ran] at first
      exact first
    · rw [ran] at first
      exact trans_of R first (ih _ t)

variable (ctx : RenderContext)

lemma withArgs_leaves (args : List Arg) {done : CallArgs Obj → Pass Obj}
    (ofDone : ∀ call, Leaves R (done call)) : Leaves R (withArgs ctx args done) := by
  intro s
  have first : R s (evalArgs CallArgs.none args s).2 := evalArgs_leaves args CallArgs.none s
  unfold withArgs
  rcases ran : evalArgs CallArgs.none args s with ⟨⟨code, reason⟩ | call, t⟩
  · rw [ran] at first
    exact first
  · rw [ran] at first
    exact trans_of R first (ofDone call t)

lemma withCondition_leaves (code : String) {yes no : Pass Obj} (ofYes : Leaves R yes)
    (ofNo : Leaves R no) : Leaves R (withCondition ctx code yes no) := by
  refine .attempt (evalSource_leaves code) ?_ fun value => ?_
  · exact fun reason => .andThen (.answer _) ofNo
  · split
    · exact ofYes
    · exact ofNo

lemma renderExpression_leaves (code : String) (format? : Option String) :
    Leaves R (renderExpression ctx code format? : Pass Obj) :=
  .attempt (evalText_leaves code format?) (fun _ => .answer _) fun _ => .answer _

lemma renderLabel_leaves (items : List ContentItem) : Leaves R (renderLabel ctx items : Pass Obj) := by
  induction items with
  | nil => exact .answer _
  | cons item items ih =>
    cases item with
    | text text =>
      simp only [renderLabel]
      exact .andThen (.answer _) ih
    | expression code format? =>
      simp only [renderLabel]
      exact .andThen (renderExpression_leaves ctx code format?) ih
    | _ =>
      simp only [renderLabel]
      exact ih

lemma renderChoice_leaves (c : Choice) : Leaves R (renderChoice ctx c : Pass Obj) := by
  have offered : Leaves R (offerChoice ctx c : Pass Obj) :=
    withArgs_leaves ctx c.args fun call s => renderLabel_leaves ctx c.text s
  unfold renderChoice
  split
  · exact .answer _
  · cases c.guard? with
    | none => exact offered
    | some guard => exact withCondition_leaves ctx guard offered (.answer _)

lemma renderChoices_leaves (choices : List Choice) : Leaves R (renderChoices ctx choices : Pass Obj) := by
  induction choices with
  | nil => exact .answer _
  | cons c choices ih => exact .andThen (renderChoice_leaves ctx c) ih

lemma renderEach_leaves (vars : List String) (collection : String) {body : Pass Obj}
    (ofBody : Leaves R body) (items : List (Value Obj)) :
    Leaves R (renderEach ctx vars collection body items) := by
  induction items with
  | nil => exact .answer _
  | cons item items ih =>
    have inLoop : Leaves (Outside R) (Pass.attempt (EvalM.step (bindTargets vars item))
        (fun reason => Pass.emit (ctx.warn collection reason)) (fun _ => body)) :=
      .attempt (.bindTargets vars item) (fun _ => .answer _) fun _ => ofBody.outside
    exact .andThen inLoop.ofFrame ih

end Expressions

section Content

variable [ExecClosed R] (ctx : RenderContext)

mutual

theorem renderItem_leaves : (item : ContentItem) → Leaves R (renderItem ctx item : Pass Obj)
  | .text text => by
    simp only [renderItem]
    exact .answer _
  | .expression code format? => by
    simp only [renderItem]
    exact renderExpression_leaves ctx code format?
  | .conditional branches => by
    simp only [renderItem]
    exact renderBranches_leaves branches
  | .loop vars collection body => by
    simp only [renderItem]
    refine .attempt ?_ (fun reason => .answer _) fun items => ?_
    · exact .bind (evalSource_leaves collection) fun value => .answer _
    · exact renderEach_leaves ctx vars collection (renderItems_leaves body) items
  | .jump target args line => by
    simp only [renderItem]
    exact withArgs_leaves ctx args fun call => .answer _
  | .render name args hint? => by
    simp only [renderItem]
    exact withArgs_leaves ctx args fun call => .answer _
  | .input name label? placeholder? => by
    simp only [renderItem]
    exact .answer _
  | .command command => by
    simp only [renderItem]
    exact .attempt (execSource_leaves command.source) (fun reason => .answer _) fun _ => .answer _
  | .choice c => by
    simp only [renderItem]
    exact renderChoice_leaves ctx c

theorem renderBranches_leaves : (branches : List Branch) →
    Leaves R (renderBranches ctx branches : Pass Obj)
  | [] => by
    simp only [renderBranches]
    exact .answer _
  | { condition?, content } :: branches => by
    have ofContent : Leaves R (renderItems ctx content : Pass Obj) := renderItems_leaves content
    simp only [renderBranches]
    cases condition? with
    | none => exact ofContent
    | some code => exact withCondition_leaves ctx code ofContent (renderBranches_leaves branches)

theorem renderItems_leaves : (items : List ContentItem) → Leaves R (renderItems ctx items : Pass Obj)
  | [] => by
    simp only [renderItems]
    exact .answer _
  | item :: items => by
    simp only [renderItems]
    exact .andThen (renderItem_leaves item) (renderItems_leaves items)

end

/-- Rendering a passage changes a scope as the changes by statements do. -/
theorem Passage.render_leaves (p : Passage) (consumed : List String) :
    Leaves R (p.render consumed : Pass Obj) := by
  intro s
  have items : Leaves R (renderItems ⟨p.id, consumed⟩ p.content : Pass Obj) :=
    renderItems_leaves ⟨p.id, consumed⟩ p.content
  have all := items.andThen (renderChoices_leaves ⟨p.id, consumed⟩ p.choices) s
  simp only [Passage.render]
  split <;> exact all

end Content

end Rendering

/-! ## Names and frames -/

namespace Scope

/-- The frames of a scope, the innermost first and the base frame last. -/
def frames (s : Scope Obj) : List (Vars Obj) :=
  s.inner ++ [s.base]

def depth (s : Scope Obj) : Nat :=
  s.frames.length

/-- What a statement cannot change: the names in the frames of loops, and the session variables of a
shared scope. -/
structure Spared (s t : Scope Obj) : Prop where
  access : t.access = s.access
  inner : t.inner.map Assoc.keys = s.inner.map Assoc.keys
  state : s.access = .shared → t.state = s.state

/-- What an expression cannot change: in an owned scope all names besides. -/
structure Kept (s t : Scope Obj) : Prop extends Spared s t where
  base : s.access = .owned → Assoc.keys t.base = Assoc.keys s.base
  names : s.access = .owned → Assoc.keys t.state = Assoc.keys s.state

lemma Spared.depth {s t : Scope Obj} (spared : s.Spared t) : t.depth = s.depth := by
  have inner := congrArg List.length spared.inner
  rw [List.length_map, List.length_map] at inner
  unfold Scope.depth frames
  rw [List.length_append, List.length_append, inner]
  rfl

instance : IsPreorder (Scope Obj) Spared where
  refl _ := ⟨rfl, rfl, fun _ => rfl⟩
  trans s t u first second := by
    refine ⟨second.access.trans first.access, second.inner.trans first.inner, fun shared => ?_⟩
    have still : t.access = .shared := first.access.trans shared
    exact (second.state still).trans (first.state shared)

instance : IsPreorder (Scope Obj) Kept where
  refl s := ⟨refl_of Spared s, fun _ => rfl, fun _ => rfl⟩
  trans s t u first second := by
    have still (owned : s.access = .owned) : t.access = .owned := first.access.trans owned
    refine ⟨trans_of Spared first.toSpared second.toSpared, fun owned => ?_, fun owned => ?_⟩
    · exact (second.base (still owned)).trans (first.base owned)
    · exact (second.names (still owned)).trans (first.names owned)

lemma keys_changeFirst {α : Type} {name : String} {change : Change Obj α} {frames : List (Vars Obj)}
    {answer : Except EvalError α} {frames' : List (Vars Obj)}
    (changed : changeFirst name change frames = some (answer, frames')) :
    frames'.map Assoc.keys = frames.map Assoc.keys := by
  induction frames generalizing answer frames' with
  | nil => cases changed
  | cons frame frames ih =>
    unfold changeFirst at changed
    cases found : Assoc.get? frame name with
    | some value =>
      simp only [found, Option.some.injEq, Prod.mk.injEq] at changed
      obtain ⟨_, rfl⟩ := changed
      have present : name ∈ Assoc.keys frame := Assoc.get?_isSome_iff.mp (by rw [found]; rfl)
      rw [List.map_cons, List.map_cons, Assoc.keys_insert present]
    | none =>
      simp only [found, Option.map_eq_some_iff, Prod.mk.injEq, Prod.exists] at changed
      obtain ⟨_, later, further, _, rfl⟩ := changed
      rw [List.map_cons, List.map_cons, ih further]

lemma keys_insertFirst (name : String) (value : Value Obj) (frames : List (Vars Obj)) :
    (insertFirst name value frames).map Assoc.keys = frames.map Assoc.keys := by
  induction frames with
  | nil => rfl
  | cons frame frames ih =>
    unfold insertFirst
    split
    · next present => rw [List.map_cons, List.map_cons, Assoc.keys_insert (Assoc.contains_iff.mp present)]
    · rw [List.map_cons, List.map_cons, ih]

/-- A variable that is changed was there before, but for the copy that a shared scope makes. -/
lemma kept_changeVariable {α : Type} (s : Scope Obj) (name : String) (change : Change Obj α) :
    s.Kept (s.changeVariable name change).2 := by
  unfold changeVariable
  split
  · next changed => exact ⟨⟨rfl, keys_changeFirst changed, fun _ => rfl⟩, fun _ => rfl, fun _ => rfl⟩
  · split
    · next value _ found =>
      have present : name ∈ Assoc.keys s.base := Assoc.get?_isSome_iff.mp (by rw [found]; rfl)
      exact ⟨⟨rfl, rfl, fun _ => rfl⟩, fun _ => Assoc.keys_insert present _, fun _ => rfl⟩
    · next shared =>
      refine ⟨⟨rfl, rfl, fun _ => rfl⟩, fun owned => ?_, fun _ => rfl⟩
      cases shared.symm.trans owned
    · next value _ found owned =>
      have present : name ∈ Assoc.keys s.state := Assoc.get?_isSome_iff.mp (by rw [found]; rfl)
      refine ⟨⟨rfl, rfl, fun shared => ?_⟩, fun _ => rfl, fun _ => Assoc.keys_insert present _⟩
      cases owned.symm.trans shared
    · exact refl_of Kept s

lemma Spared.outside {s t : Scope Obj} (spared : s.Spared t) : Outside Spared s t := by
  intro framed
  have inner := spared.inner
  refine ⟨fun empty => ?_, spared.access, ?_, spared.state⟩
  · rw [empty] at inner
    exact framed (List.map_eq_nil_iff.mp inner.symm)
  · change (t.inner.drop 1).map Assoc.keys = (s.inner.drop 1).map Assoc.keys
    rw [List.map_drop, List.map_drop, inner]

/-- An assignment writes in the frame that has the variable, or else in the base frame of a shared scope. -/
lemma spared_assign (s : Scope Obj) (name : String) (value : Value Obj) :
    s.Spared (s.assign name value) := by
  unfold assign
  split
  · exact ⟨rfl, keys_insertFirst name value s.inner, fun _ => rfl⟩
  · split
    · exact ⟨rfl, rfl, fun _ => rfl⟩
    · split
      · next owned =>
        refine ⟨rfl, rfl, fun shared => ?_⟩
        cases owned.symm.trans shared
      · exact ⟨rfl, rfl, fun _ => rfl⟩

instance : EvalClosed (@Spared Obj) where
  draw _ _ := ⟨rfl, rfl, fun _ => rfl⟩
  change s name change := (kept_changeVariable s name change).toSpared
  outside _ _ spared := spared.outside

instance : ExecClosed (@Spared Obj) where
  assign := spared_assign

instance : EvalClosed (@Kept Obj) where
  draw _ _ := ⟨⟨rfl, rfl, fun _ => rfl⟩, fun _ => rfl, fun _ => rfl⟩
  change := kept_changeVariable
  outside _ _ kept framed :=
    ⟨(kept.toSpared.outside framed).1, (kept.toSpared.outside framed).2, kept.base, kept.names⟩

/-- The scope behind a computation, also behind one that failed. -/
def after {β : Type} (s : Scope Obj) (m : Scope Obj → β × Scope Obj) : Scope Obj :=
  (m s).2

/-- The session variables are as before, and as many frames are open. -/
def Untouched (s t : Scope Obj) : Prop :=
  t.state = s.state ∧ t.depth = s.depth

/-- As many frames are open as before, and neither a frame nor the session has a name more or less. -/
def SameNames (s t : Scope Obj) : Prop :=
  t.depth = s.depth ∧ t.frames.map Assoc.keys = s.frames.map Assoc.keys ∧
    Assoc.keys t.state = Assoc.keys s.state

lemma Spared.untouched {s t : Scope Obj} (spared : s.Spared t) (shared : s.access = .shared) :
    s.Untouched t :=
  ⟨spared.state shared, spared.depth⟩

lemma Kept.sameNames {s t : Scope Obj} (kept : s.Kept t) (owned : s.access = .owned) : s.SameNames t := by
  refine ⟨kept.depth, ?_, kept.names owned⟩
  unfold frames
  rw [List.map_append, List.map_append, kept.inner, List.map_singleton, List.map_singleton,
    kept.base owned]

end Scope

/-- In a shared scope neither an expression nor a statement nor content touches the session variables, and
all frames are closed that were opened, whether the evaluation succeeds or fails and where it ends. In an
owned scope an expression leaves all names in their places. -/
theorem scope_stays_balanced [HostObject Obj] (s : Scope Obj) :
    (s.access = .shared →
      (∀ e : Expr, s.Untouched (s.after (eval e : EvalM Obj (Value Obj)))) ∧
      (∀ stmt : Stmt, s.Untouched (s.after (exec stmt : EvalM Obj Unit))) ∧
      (∀ (ctx : RenderContext) (items : List ContentItem), s.Untouched (s.after (renderItems ctx items))) ∧
      (∀ (p : Passage) (consumed : List String), s.Untouched (s.after (p.render consumed)))) ∧
    (s.access = .owned →
      ∀ e : Expr, s.SameNames (s.after (eval e : EvalM Obj (Value Obj)))) := by
  refine ⟨fun shared => ⟨?expression, ?statement, ?content, ?passage⟩, ?owned⟩
  case expression =>
    intro e
    have spared : s.Spared (s.after (eval e : EvalM Obj (Value Obj))) := eval_leaves e s
    exact spared.untouched shared
  case statement =>
    intro stmt
    have spared : s.Spared (s.after (exec stmt : EvalM Obj Unit)) := exec_leaves stmt s
    exact spared.untouched shared
  case content =>
    intro ctx items
    have spared : s.Spared (s.after (renderItems ctx items)) := renderItems_leaves ctx items s
    exact spared.untouched shared
  case passage =>
    intro p consumed
    have spared : s.Spared (s.after (p.render consumed)) := p.render_leaves consumed s
    exact spared.untouched shared
  case owned =>
    intro owned e
    have kept : s.Kept (s.after (eval e : EvalM Obj (Value Obj))) := eval_leaves e s
    exact kept.sameNames owned

open Toybox in
/-- A scope inside a loop over coins, with a hoard of them among the session variables. -/
def hoard (access : Access) : Scope Thing where
  access
  state := [("coins", .list [.int 1, .int 2])]
  base := [("who", .str "Smaug")]
  inner := [[("coin", .int 1)]]
  generator := Generator.ofSeed 7
  bindings := []

/-- A comprehension whose variable has the name of the loop's. -/
def doubledCoins : Expr :=
  .listComp (.binary .add (.name "coin") (.name "coin")) [.mk ["coin"] (.name "coins") []]

/-- A loop that takes a coin from the hoard and is left at once. -/
def raid : List ContentItem :=
  [.loop ["coin"] "coins" [.command (.eval "coins.pop()" 1), .jump "lake" [] 2]]

open Toybox in
theorem hoard_stays_balanced :
    (hoard .shared).Untouched ((hoard .shared).after (renderItems ⟨"cave", []⟩ raid)) ∧
    (renderItems ⟨"cave", []⟩ raid (hoard .shared)).1.jump?.isSome ∧
    Assoc.keys ((hoard .shared).after (renderItems ⟨"cave", []⟩ raid)).base = ["who", "coins"] ∧
    (hoard .owned).SameNames ((hoard .owned).after (eval doubledCoins : EvalM Thing (Value Thing))) := by
  obtain ⟨_, _, content, _⟩ := (scope_stays_balanced (hoard .shared)).1 rfl
  have expressions := (scope_stays_balanced (hoard .owned)).2 rfl
  exact ⟨content ⟨"cave", []⟩ raid, by decide +kernel, by decide +kernel, expressions doubledCoins⟩

end BranchingStory
