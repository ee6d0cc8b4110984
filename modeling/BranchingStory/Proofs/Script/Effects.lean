import Mathlib.Order.Defs.Unbundled
import BranchingStory.Proofs.Assoc
import BranchingStory.Proofs.Script.Computation

/-!
# What evaluation does to a scope

An expression changes a scope in a few ways only: it draws from the generator, it calls methods that
change the value of a variable that is there, and it opens frames that it closes again, also behind a
failure. What holds of these holds of every expression, if it holds of the methods that the expression
calls; a statement assigns in addition.
-/

namespace BranchingStory

open Script

variable {Obj : Type}

/-- A relation holds between each scope and what a computation leaves of it, also behind a failure. -/
def Leaves (R : Scope Obj → Scope Obj → Prop) {β : Type} (m : Scope Obj → β × Scope Obj) : Prop :=
  ∀ s, R s (m s).2

namespace Scope

/-- A relation holds between two scopes without their innermost frames. -/
def Outside (R : Scope Obj → Scope Obj → Prop) (s t : Scope Obj) : Prop :=
  s.inner ≠ [] → t.inner ≠ [] ∧ R s.popFrame t.popFrame

/-- A relation between scopes that drawing stays within, and that holds behind a frame if it holds
inside. -/
class FrameClosed (R : Scope Obj → Scope Obj → Prop) : Prop extends IsPreorder (Scope Obj) R where
  draw : ∀ s generator, R s { s with generator }
  outside : ∀ s t, R s t → Outside R s t

/-- A relation between scopes that all changes by an expression stay within. -/
class EvalClosed (R : Scope Obj → Scope Obj → Prop) : Prop extends FrameClosed R where
  change : ∀ {α : Type} s name (change : Change Obj α), R s (s.changeVariable name change).2

/-- A relation between scopes that all changes by a statement stay within. -/
class ExecClosed (R : Scope Obj → Scope Obj → Prop) : Prop extends EvalClosed R where
  assign : ∀ s name value, R s (s.assign name value)

variable {R : Scope Obj → Scope Obj → Prop}

instance [IsPreorder (Scope Obj) R] : IsPreorder (Scope Obj) (Outside R) where
  refl s framed := ⟨framed, refl_of R s.popFrame⟩
  trans _ _ _ first second framed := by
    obtain ⟨between, here⟩ := first framed
    obtain ⟨after, there⟩ := second between
    exact ⟨after, trans_of R here there⟩

/-- A variable of the innermost frame is written in that frame. -/
lemma outside_setLocal [IsPreorder (Scope Obj) R] (s : Scope Obj) (name : String) (value : Value Obj) :
    Outside R s (s.setLocal name value) := by
  intro framed
  obtain ⟨access, state, base, inner, generator, bindings⟩ := s
  cases inner with
  | nil => exact absurd rfl framed
  | cons frame frames => exact ⟨List.cons_ne_nil _ _, refl_of R _⟩

lemma outside_setLocals [IsPreorder (Scope Obj) R] (s : Scope Obj) (entries : List (String × Value Obj)) :
    Outside R s (setLocals s entries) := by
  induction entries generalizing s with
  | nil => exact refl_of (Outside R) s
  | cons entry entries ih =>
    obtain ⟨name, value⟩ := entry
    exact trans_of (Outside R) (outside_setLocal s name value) (ih _)

end Scope

open Scope

namespace Leaves

variable {R : Scope Obj → Scope Obj → Prop} {ε α β : Type}

section Computations

variable [IsPreorder (Scope Obj) R]

lemma answer (a : α) : Leaves R fun s : Scope Obj => (a, s) :=
  fun s => refl_of R s

lemma pure (a : α) : Leaves R (Pure.pure a : ExceptT ε (StateM (Scope Obj)) α) :=
  fun s => refl_of R s

lemma bind {m : ExceptT ε (StateM (Scope Obj)) α} {next : α → ExceptT ε (StateM (Scope Obj)) β}
    (first : Leaves R m) (second : ∀ a, Leaves R (next a)) : Leaves R (m >>= next) := by
  intro s
  have here := first s
  rw [bind_apply]
  rcases ran : (m s : Except ε α × Scope Obj) with ⟨reason | a, t⟩
  · rw [ran] at here
    exact here
  · rw [ran] at here
    exact trans_of R here (second a t)

lemma view (f : Scope Obj → α) : Leaves R (EvalM.view f) :=
  fun s => refl_of R s

lemma forEach {σ : Type} {body : α → σ → EvalM Obj σ} (each : ∀ item result, Leaves R (body item result))
    (items : List α) (result : σ) : Leaves R (forEach body items result) := by
  induction items generalizing result with
  | nil => exact .pure result
  | cons item items ih => exact .bind (each item result) fun result => ih result

lemma bindTargets (targets : List String) (item : Value Obj) [HostObject Obj] :
    Leaves (Outside R) (EvalM.step (bindTargets targets item)) := by
  intro s
  unfold EvalM.step Script.bindTargets
  split
  · exact outside_setLocal s _ _
  · split
    · exact outside_setLocals s _
    · exact refl_of (Outside R) s
  · exact refl_of (Outside R) s

end Computations

/-- A frame that is opened and closed leaves nothing behind. -/
lemma inFrame {m : EvalM Obj α} (body : Leaves (Outside R) m) : Leaves R (EvalM.inFrame m) := by
  intro s
  obtain ⟨_, same⟩ := body s.pushFrame (List.cons_ne_nil _ _)
  exact same

/-- What a computation leaves of a scope it leaves of the frames outside the innermost one. -/
lemma outside [FrameClosed R] {m : Scope Obj → β × Scope Obj} (leaves : Leaves R m) :
    Leaves (Outside R) m :=
  fun s => FrameClosed.outside s _ (leaves s)

lemma draw [FrameClosed R] (drawing : Drawing α) : Leaves R (EvalM.draw drawing : EvalM Obj α) :=
  fun s => FrameClosed.draw s _

lemma changePlace [EvalClosed R] [HostObject Obj] (place : Place Obj) (change : Change Obj α) :
    Leaves R (EvalM.step fun s => s.changePlace place change) :=
  fun s => EvalClosed.change s place.root _

end Leaves

namespace Script

/-- The receiver and the name of the method that a call of an expression calls, if it calls one. -/
def calledMethod : Expr → List (Expr × String)
  | .attr base method => [(base, method)]
  | _ => []

mutual

/-- The methods that are called anywhere in an expression, each with the expression of its receiver. -/
def Expr.methods : Expr → List (Expr × String)
  | .lit _ | .name _ => []
  | .list items => methodsOfItems items
  | .dict entries => methodsOfEntries entries
  | .unary _ operand => operand.methods
  | .binary _ left right => left.methods ++ right.methods
  | .and left right => left.methods ++ right.methods
  | .or left right => left.methods ++ right.methods
  | .compare first chain => first.methods ++ methodsOfChain chain
  | .conditional condition yes no => condition.methods ++ yes.methods ++ no.methods
  | .attr base _ => base.methods
  | .index base index => base.methods ++ index.methods
  | .slice base start stop => base.methods ++ methodsOfBound start ++ methodsOfBound stop
  | .call function args named =>
    calledMethod function ++ function.methods ++ methodsOfItems args ++ methodsOfNamed named
  | .listComp element clauses => element.methods ++ methodsOfClauses clauses
  | .dictComp key value clauses => key.methods ++ value.methods ++ methodsOfClauses clauses

def methodsOfItems : List Expr → List (Expr × String)
  | [] => []
  | e :: es => e.methods ++ methodsOfItems es

def methodsOfEntries : List (Expr × Expr) → List (Expr × String)
  | [] => []
  | (key, value) :: entries => key.methods ++ value.methods ++ methodsOfEntries entries

def methodsOfNamed : List (String × Expr) → List (Expr × String)
  | [] => []
  | (_, arg) :: rest => arg.methods ++ methodsOfNamed rest

def methodsOfChain : List (CompareOp × Expr) → List (Expr × String)
  | [] => []
  | (_, right) :: chain => right.methods ++ methodsOfChain chain

def methodsOfBound : Option Expr → List (Expr × String)
  | none => []
  | some e => e.methods

def methodsOfClauses : List Clause → List (Expr × String)
  | [] => []
  | .mk _ source conditions :: clauses =>
    source.methods ++ methodsOfItems conditions ++ methodsOfClauses clauses

end

variable [HostObject Obj]

/-- The call of a method behind its arguments, with the receiver changed in its place. -/
def callOn (base : Expr) (method : String) (args : CallArgs Obj) : EvalM Obj (Value Obj) := do
  let receiver ← eval base
  if mutates receiver method && base.isPlace then
    let place ← evalPlace base []
    EvalM.step fun s => s.changePlace place (callMethod · method args)
  else EvalM.ofExcept (callMethod receiver method args).1

/-- A call looks behind its arguments for what its name stands for. -/
lemma eval_call (base : Expr) (name : String) {args : List Expr} {named : List (String × Expr)}
    {positional : List (Value Obj)} {keywords : List (String × Value Obj)} {s s₁ s₂ : Scope Obj}
    (ofArgs : evalItems args s = (.ok positional, s₁)) (ofNamed : evalNamed named [] s₁ = (.ok keywords, s₂)) :
    eval (.call (.attr base name) args named) s =
      match qualified? base name s₂ with
      | some binding => (callBinding name binding ⟨positional, keywords⟩, s₂)
      | none => callOn base name ⟨positional, keywords⟩ s₂ := by
  simp only [eval, bind_apply, ofArgs, ofNamed, EvalM.view]
  cases qualified? base name s₂ with
  | some binding => rfl
  | none => rfl

variable {R : Scope Obj → Scope Obj → Prop}

/-- A relation holds behind the call of a method, if it holds behind its receiver and its place. -/
def CallLeaves (R : Scope Obj → Scope Obj → Prop) (called : Expr × String) : Prop :=
  Leaves R (eval called.1 : EvalM Obj (Value Obj)) → Leaves R (evalPlace called.1 [] : EvalM Obj (Place Obj)) →
    ∀ args, Leaves R (callOn called.1 called.2 args)

section Methods

variable [FrameClosed R]

mutual

/-- An expression changes a scope as the methods do that it calls, whatever its value or failure. -/
theorem eval_leaves_of (e : Expr) (calls : ∀ called ∈ e.methods, CallLeaves R called) :
    Leaves R (eval e : EvalM Obj (Value Obj)) := by
  cases e with
  | lit literal =>
    simp only [eval]
    exact .pure literal.value
  | name name =>
    simp only [eval]
    exact .bind (.view _) fun found => .answer found
  | list items =>
    simp only [Expr.methods] at calls
    simp only [eval]
    exact .bind (evalItems_leaves items calls) fun values => .pure _
  | dict entries =>
    simp only [Expr.methods] at calls
    simp only [eval]
    exact .bind (evalEntries_leaves entries calls []) fun fields => .pure _
  | unary op operand =>
    simp only [Expr.methods] at calls
    simp only [eval]
    exact .bind (eval_leaves_of operand calls) fun value => .answer _
  | binary op left right =>
    simp only [Expr.methods, List.forall_mem_append] at calls
    simp only [eval]
    refine .bind (eval_leaves_of left calls.1) fun leftValue => ?_
    exact .bind (eval_leaves_of right calls.2) fun rightValue => .answer _
  | and left right =>
    simp only [Expr.methods, List.forall_mem_append] at calls
    simp only [eval]
    refine .bind (eval_leaves_of left calls.1) fun value => ?_
    split
    · exact eval_leaves_of right calls.2
    · exact .pure value
  | or left right =>
    simp only [Expr.methods, List.forall_mem_append] at calls
    simp only [eval]
    refine .bind (eval_leaves_of left calls.1) fun value => ?_
    split
    · exact .pure value
    · exact eval_leaves_of right calls.2
  | compare first chain =>
    simp only [Expr.methods, List.forall_mem_append] at calls
    simp only [eval]
    refine .bind (eval_leaves_of first calls.1) fun left => ?_
    exact .bind (evalChain_leaves chain calls.2 left) fun holds => .pure _
  | conditional condition yes no =>
    simp only [Expr.methods, List.forall_mem_append] at calls
    simp only [eval]
    refine .bind (eval_leaves_of condition calls.1.1) fun value => ?_
    split
    · exact eval_leaves_of yes calls.1.2
    · exact eval_leaves_of no calls.2
  | attr base attr =>
    simp only [Expr.methods] at calls
    simp only [eval]
    refine .bind (.view _) fun binding? => ?_
    cases binding? with
    | some binding => exact .answer _
    | none => exact .bind (eval_leaves_of base calls) fun value => .answer _
  | index base index =>
    simp only [Expr.methods, List.forall_mem_append] at calls
    simp only [eval]
    refine .bind (eval_leaves_of base calls.1) fun container => ?_
    exact .bind (eval_leaves_of index calls.2) fun index => .answer _
  | slice base start stop =>
    simp only [Expr.methods, List.forall_mem_append] at calls
    simp only [eval]
    refine .bind (eval_leaves_of base calls.1.1) fun container => ?_
    refine .bind (evalBound_leaves start calls.1.2) fun start => ?_
    exact .bind (evalBound_leaves stop calls.2) fun stop => .answer _
  | call function args named =>
    simp only [Expr.methods, List.forall_mem_append] at calls
    obtain ⟨⟨⟨itself, ofFunction⟩, ofArgs⟩, ofNamed⟩ := calls
    cases function with
    | name name =>
      simp only [eval]
      refine .bind (evalItems_leaves args ofArgs) fun positional => ?_
      refine .bind (evalNamed_leaves named ofNamed []) fun namedValues => ?_
      refine .bind (.view _) fun found => ?_
      exact .bind (.answer found) fun drawing => .draw drawing
    | attr base method =>
      simp only [Expr.methods] at ofFunction
      simp only [eval]
      refine .bind (evalItems_leaves args ofArgs) fun positional => ?_
      refine .bind (evalNamed_leaves named ofNamed []) fun namedValues => ?_
      refine .bind (.view _) fun binding? => ?_
      cases binding? with
      | some binding => exact .answer _
      | none =>
        exact itself _ List.mem_cons_self (eval_leaves_of base ofFunction)
          (evalPlace_leaves_of base ofFunction []) ⟨positional, namedValues⟩
    | _ =>
      simp only [eval]
      refine .bind (evalItems_leaves args ofArgs) fun positional => ?_
      exact .bind (evalNamed_leaves named ofNamed []) fun namedValues => .answer _
  | listComp element clauses =>
    simp only [Expr.methods, List.forall_mem_append] at calls
    simp only [eval]
    have item : Leaves R (do return ("", ← eval element) : EvalM Obj (String × Value Obj)) :=
      .bind (eval_leaves_of element calls.1) fun value => .pure _
    -- The clauses bind their variables in the frame of the comprehension, which is closed behind them.
    exact .inFrame (.bind (evalClauses_leaves clauses calls.2 item.outside []) fun made => .pure _)
  | dictComp key value clauses =>
    simp only [Expr.methods, List.forall_mem_append] at calls
    simp only [eval]
    have entry : Leaves R (do
        let key ← EvalM.ofExcept (dictKey (← eval key))
        let value ← eval value
        return (key, value) : EvalM Obj (String × Value Obj)) := by
      refine .bind (eval_leaves_of key calls.1.1) fun keyValue => ?_
      refine .bind (.answer _) fun text => ?_
      exact .bind (eval_leaves_of value calls.1.2) fun value => .pure _
    exact .inFrame (.bind (evalClauses_leaves clauses calls.2 entry.outside []) fun made => .pure _)

theorem evalItems_leaves (es : List Expr) (calls : ∀ called ∈ methodsOfItems es, CallLeaves R called) :
    Leaves R (evalItems es : EvalM Obj (List (Value Obj))) := by
  cases es with
  | nil =>
    simp only [evalItems]
    exact .pure []
  | cons e es =>
    simp only [methodsOfItems, List.forall_mem_append] at calls
    simp only [evalItems]
    refine .bind (eval_leaves_of e calls.1) fun value => ?_
    exact .bind (evalItems_leaves es calls.2) fun values => .pure _

theorem evalEntries_leaves (entries : List (Expr × Expr))
    (calls : ∀ called ∈ methodsOfEntries entries, CallLeaves R called)
    (fields : List (String × Value Obj)) : Leaves R (evalEntries entries fields) := by
  match entries with
  | [] =>
    simp only [evalEntries]
    exact .pure fields
  | (key, value) :: entries =>
    simp only [methodsOfEntries, List.forall_mem_append] at calls
    simp only [evalEntries]
    refine .bind (eval_leaves_of key calls.1.1) fun keyValue => ?_
    refine .bind (.answer _) fun text => ?_
    refine .bind (eval_leaves_of value calls.1.2) fun value => ?_
    exact evalEntries_leaves entries calls.2 _

theorem evalNamed_leaves (args : List (String × Expr))
    (calls : ∀ called ∈ methodsOfNamed args, CallLeaves R called)
    (named : List (String × Value Obj)) : Leaves R (evalNamed args named) := by
  match args with
  | [] =>
    simp only [evalNamed]
    exact .pure named
  | (name, arg) :: rest =>
    simp only [methodsOfNamed, List.forall_mem_append] at calls
    simp only [evalNamed]
    refine .bind (eval_leaves_of arg calls.1) fun value => ?_
    exact evalNamed_leaves rest calls.2 _

theorem evalChain_leaves (chain : List (CompareOp × Expr))
    (calls : ∀ called ∈ methodsOfChain chain, CallLeaves R called) (left : Value Obj) :
    Leaves R (evalChain left chain) := by
  match chain with
  | [] =>
    simp only [evalChain]
    exact .pure true
  | (op, right) :: chain =>
    simp only [methodsOfChain, List.forall_mem_append] at calls
    simp only [evalChain]
    refine .bind (eval_leaves_of right calls.1) fun value => ?_
    refine .bind (.answer _) fun related => ?_
    split
    · exact evalChain_leaves chain calls.2 value
    · exact .pure false

theorem evalBound_leaves (bound : Option Expr)
    (calls : ∀ called ∈ methodsOfBound bound, CallLeaves R called) :
    Leaves R (evalBound bound : EvalM Obj (Value Obj)) := by
  match bound with
  | none =>
    simp only [evalBound]
    exact .pure _
  | some e =>
    simp only [methodsOfBound] at calls
    simp only [evalBound]
    exact eval_leaves_of e calls

/-- The variables of a comprehension stay in its frame. -/
theorem evalClauses_leaves (clauses : List Clause)
    (calls : ∀ called ∈ methodsOfClauses clauses, CallLeaves R called)
    {emit : EvalM Obj (String × Value Obj)} (emits : Leaves (Outside R) emit) (made : Made Obj) :
    Leaves (Outside R) (evalClauses clauses emit made) := by
  match clauses with
  | [] =>
    simp only [evalClauses]
    exact .bind emits fun item => .pure _
  | .mk targets source conditions :: clauses =>
    simp only [methodsOfClauses, List.forall_mem_append] at calls
    simp only [evalClauses]
    refine .bind (eval_leaves_of source calls.1.1).outside fun value => ?_
    refine .bind (.answer _) fun items => ?_
    refine .forEach (fun item made => ?_) items made
    refine .bind (.bindTargets targets item) fun _ => ?_
    refine .bind (evalConditions_leaves conditions calls.1.2).outside fun holds => ?_
    split
    · exact evalClauses_leaves clauses calls.2 emits made
    · exact .pure made

theorem evalConditions_leaves (conditions : List Expr)
    (calls : ∀ called ∈ methodsOfItems conditions, CallLeaves R called) :
    Leaves R (evalConditions conditions : EvalM Obj Bool) := by
  match conditions with
  | [] =>
    simp only [evalConditions]
    exact .pure true
  | condition :: conditions =>
    simp only [methodsOfItems, List.forall_mem_append] at calls
    simp only [evalConditions]
    refine .bind (eval_leaves_of condition calls.1) fun value => ?_
    split
    · exact evalConditions_leaves conditions calls.2
    · exact .pure false

theorem evalPlace_leaves_of (e : Expr) (calls : ∀ called ∈ e.methods, CallLeaves R called)
    (path : List (Step Obj)) : Leaves R (evalPlace e path) := by
  cases e with
  | name root =>
    simp only [evalPlace]
    exact .pure _
  | index base index =>
    simp only [Expr.methods, List.forall_mem_append] at calls
    simp only [evalPlace]
    refine .bind (eval_leaves_of index calls.2) fun value => ?_
    exact evalPlace_leaves_of base calls.1 _
  | attr base attr =>
    simp only [Expr.methods] at calls
    simp only [evalPlace]
    exact evalPlace_leaves_of base calls _
  | _ =>
    simp only [evalPlace]
    exact .answer _

end

end Methods

section Expressions

variable [EvalClosed R]

lemma callLeaves (called : Expr × String) : CallLeaves R called := by
  intro ofReceiver ofPlace args
  refine .bind ofReceiver fun receiver => ?_
  split
  · exact .bind ofPlace fun place => .changePlace place _
  · exact .answer _

/-- An expression changes a scope as the changes by expressions do, whatever its value or failure. -/
theorem eval_leaves (e : Expr) : Leaves R (eval e : EvalM Obj (Value Obj)) :=
  eval_leaves_of e fun called _ => callLeaves called

lemma evalPlace_leaves (e : Expr) (path : List (Step Obj)) : Leaves R (evalPlace e path) :=
  evalPlace_leaves_of e (fun called _ => callLeaves called) path

lemma evalSource_leaves (code : String) : Leaves R (evalSource code : EvalM Obj (Value Obj)) :=
  .bind (.answer _) fun e => eval_leaves e

end Expressions

section Statements

variable [ExecClosed R]

lemma assignTo_leaves (target : Expr) (value : Value Obj) : Leaves R (assignTo target value) := by
  cases target with
  | name name => exact fun s => ExecClosed.assign s name value
  | index base index =>
    refine .bind (eval_leaves index) fun index => ?_
    exact .bind (evalPlace_leaves base []) fun place => .changePlace place _
  | attr base attr => exact .bind (evalPlace_leaves base []) fun place => .changePlace place _
  | _ => exact .answer _

/-- A statement changes a scope as the changes by statements do, also if it fails. -/
theorem exec_leaves (stmt : Stmt) : Leaves R (exec stmt : EvalM Obj Unit) := by
  cases stmt with
  | expr e => exact .bind (eval_leaves e) fun value => .pure ()
  | assign target op value =>
    simp only [exec]
    refine .bind (eval_leaves value) fun value => ?_
    split
    · exact assignTo_leaves target value
    · refine .bind (eval_leaves target) fun old => ?_
      exact .bind (.answer _) fun result => assignTo_leaves target result

lemma execSource_leaves (code : String) : Leaves R (execSource code : EvalM Obj Unit) :=
  .bind (.answer _) fun stmt => exec_leaves stmt

end Statements

end Script

end BranchingStory
