import BranchingStory.Proofs.Script.Computation

/-!
# Expressions without random functions

Whether a fragment calls a random function can be seen from its tree. Without such a call nothing
looks at the generator of a scope: with any other generator the same happens.
-/

namespace BranchingStory

variable {Obj : Type}

/-- The scope with another generator. -/
def Scope.reseed (s : Scope Obj) (generator : Generator) : Scope Obj :=
  { s with generator }

/-- Two computations in a scope that do the same with any generators, and leave these alone. -/
def Agree {β : Type} (m m' : Scope Obj → β × Scope Obj) : Prop :=
  ∀ s generator, m' (s.reseed generator) = ((m s).1, (m s).2.reseed generator)

/-- A computation that does the same with any generator. -/
abbrev Steady {β : Type} (m : Scope Obj → β × Scope Obj) : Prop :=
  Agree m m

namespace Script

/-- The functions that draw random numbers. -/
def Function.isRandom : Function → Bool
  | .chance | .randomChoice | .randomInt => true
  | _ => false

def namesRandom : Expr → Bool
  | .name name => (Function.ofName? name).any (·.isRandom)
  | _ => false

mutual

/-- Whether a random function is called anywhere in an expression. -/
def Expr.draws : Expr → Bool
  | .lit _ | .name _ => false
  | .list items => drawsItems items
  | .dict entries => drawsEntries entries
  | .unary _ operand => operand.draws
  | .binary _ left right => left.draws || right.draws
  | .and left right => left.draws || right.draws
  | .or left right => left.draws || right.draws
  | .compare first chain => first.draws || drawsChain chain
  | .conditional condition yes no => condition.draws || yes.draws || no.draws
  | .attr base _ => base.draws
  | .index base index => base.draws || index.draws
  | .slice base start stop => base.draws || drawsBound start || drawsBound stop
  | .call function args named =>
    namesRandom function || function.draws || drawsItems args || drawsNamed named
  | .listComp element clauses => element.draws || drawsClauses clauses
  | .dictComp key value clauses => key.draws || value.draws || drawsClauses clauses

def drawsItems : List Expr → Bool
  | [] => false
  | e :: es => e.draws || drawsItems es

def drawsEntries : List (Expr × Expr) → Bool
  | [] => false
  | (key, value) :: entries => key.draws || value.draws || drawsEntries entries

def drawsNamed : List (String × Expr) → Bool
  | [] => false
  | (_, arg) :: rest => arg.draws || drawsNamed rest

def drawsChain : List (CompareOp × Expr) → Bool
  | [] => false
  | (_, right) :: chain => right.draws || drawsChain chain

def drawsBound : Option Expr → Bool
  | none => false
  | some e => e.draws

def drawsClauses : List Clause → Bool
  | [] => false
  | .mk _ source conditions :: clauses => source.draws || drawsItems conditions || drawsClauses clauses

end

def Stmt.draws : Stmt → Bool
  | .assign target _ value => target.draws || value.draws
  | .expr e => e.draws

end Script

namespace Agree

open Script

section Computations

variable {ε α β : Type}

lemma answer (a : α) : Steady fun s : Scope Obj => (a, s) := by
  intro s generator
  rfl

lemma pure (a : α) : Steady (Pure.pure a : ExceptT ε (StateM (Scope Obj)) α) := by
  intro s generator
  rfl

lemma bind {m m' : ExceptT ε (StateM (Scope Obj)) α} {next next' : α → ExceptT ε (StateM (Scope Obj)) β}
    (first : Agree m m') (second : ∀ a, Agree (next a) (next' a)) :
    Agree (m >>= next) (m' >>= next') := by
  intro s generator
  have same := first s generator
  rw [bind_apply, bind_apply, same]
  rcases (m s : Except ε α × Scope Obj) with ⟨reason | a, s⟩
  · rfl
  · exact second a s generator

lemma view {f : Scope Obj → α} (blind : ∀ s generator, f (s.reseed generator) = f s) :
    Steady (EvalM.view f) := by
  intro s generator
  rw [EvalM.view, EvalM.view, blind]

lemma update {f : Scope Obj → Scope Obj}
    (blind : ∀ s generator, f (s.reseed generator) = (f s).reseed generator) :
    Steady (EvalM.update f) := by
  intro s generator
  rw [EvalM.update, EvalM.update, blind]

lemma inFrame {m : EvalM Obj α} (body : Steady m) : Steady (EvalM.inFrame m) := by
  intro s generator
  have same := body s.pushFrame generator
  simp only [EvalM.inFrame]
  rw [show (s.reseed generator).pushFrame = s.pushFrame.reseed generator from rfl, same]
  rfl

end Computations

end Agree

namespace Scope

variable (s : Scope Obj) (generator : Generator)

lemma assign_reseed (name : String) (value : Value Obj) :
    (s.reseed generator).assign name value = (s.assign name value).reseed generator := by
  obtain ⟨access, state, base, inner, old, bindings⟩ := s
  simp only [assign, reseed]
  by_cases inside : inFrames inner name
  · simp only [inside, if_true]
  · by_cases present : Assoc.contains base name
    · simp only [inside, present, Bool.false_eq_true, if_false, if_true]
    · cases access <;> simp only [inside, present, Bool.false_eq_true, if_false]

lemma setLocal_reseed (name : String) (value : Value Obj) :
    (s.reseed generator).setLocal name value = (s.setLocal name value).reseed generator := by
  obtain ⟨access, state, base, inner, old, bindings⟩ := s
  cases inner <;> rfl

lemma setLocals_reseed (entries : List (String × Value Obj)) :
    Script.setLocals (s.reseed generator) entries = (Script.setLocals s entries).reseed generator := by
  unfold Script.setLocals
  induction entries generalizing s with
  | nil => rfl
  | cons entry entries ih =>
    obtain ⟨name, value⟩ := entry
    simp only [List.foldl_cons, setLocal_reseed, ih]

/-- Where a variable is changed does not depend on the generator. -/
lemma changeVariable_steady {α : Type} (name : String) (change : Change Obj α) :
    Steady fun s : Scope Obj => s.changeVariable name change := by
  intro s generator
  obtain ⟨access, state, base, inner, old, bindings⟩ := s
  simp only [changeVariable, reseed]
  cases changeFirst name change inner with
  | some found => rfl
  | none => cases Assoc.get? base name <;> cases Assoc.get? state name <;> cases access <;> rfl

end Scope

namespace Script

variable [HostObject Obj]

lemma changePlace_steady {α : Type} (place : Place Obj) (change : Change Obj α) :
    Steady (EvalM.step fun s => s.changePlace place change) :=
  Scope.changeVariable_steady _ _

lemma bindTargets_steady (targets : List String) (item : Value Obj) :
    Steady (EvalM.step (bindTargets targets item)) := by
  intro s generator
  unfold EvalM.step bindTargets
  split
  · rw [Scope.setLocal_reseed]
  · split
    · rw [Scope.setLocals_reseed]
    · rfl
  · rfl

/-- A function that is not random has an answer that needs no generator. -/
lemma apply_certain {function : Function} (fixed : function.isRandom = false) (args : CallArgs Obj) :
    ∃ answer, function.apply args = certain answer := by
  cases function with
  | chance | randomChoice | randomInt => cases fixed
  | _ => exact ⟨_, rfl⟩

lemma callName_certain {name : String} (fixed : namesRandom (.name name) = false) (args : CallArgs Obj)
    (s : Scope Obj) : ∃ answer, callName name args s = certain answer := by
  unfold callName
  split
  · next value _ => exact ⟨.error _, rfl⟩
  split
  · exact ⟨_, rfl⟩
  split
  · next function found =>
    refine apply_certain ?_ args
    rwa [namesRandom, found, Option.any_some] at fixed
  · exact ⟨.error _, rfl⟩

lemma call_steady {name : String} (fixed : namesRandom (.name name) = false) (args : CallArgs Obj) :
    Steady (do
      EvalM.draw (← EvalM.ofExcept (← EvalM.view (callName name args))) : EvalM Obj (Value Obj)) := by
  intro s generator
  obtain ⟨answer, found⟩ := callName_certain fixed args s
  -- What a name stands for is looked up without the generator.
  have found' : callName name args (s.reseed generator) = certain answer := found
  simp only [bind_apply, EvalM.view, found, found']
  cases answer <;> rfl

omit [HostObject Obj] in
lemma forEach_steady {α σ : Type} {body : α → σ → EvalM Obj σ}
    (each : ∀ item result, Steady (body item result)) (items : List α) (result : σ) :
    Steady (forEach body items result) := by
  induction items generalizing result with
  | nil => exact .pure result
  | cons item items ih => exact .bind (each item result) fun result => ih result

mutual

theorem eval_steady (e : Expr) (drawless : e.draws = false) :
    Steady (eval e : EvalM Obj (Value Obj)) := by
  cases e with
  | lit literal =>
    simp only [eval]
    exact .pure literal.value
  | name name =>
    simp only [eval]
    exact .bind (.view fun s generator => rfl) fun found => .answer found
  | list items =>
    simp only [Expr.draws] at drawless
    simp only [eval]
    exact .bind (evalItems_steady items drawless) fun values => .pure _
  | dict entries =>
    simp only [Expr.draws] at drawless
    simp only [eval]
    exact .bind (evalEntries_steady entries drawless []) fun fields => .pure _
  | unary op operand =>
    simp only [Expr.draws] at drawless
    simp only [eval]
    exact .bind (eval_steady operand drawless) fun value => .answer _
  | binary op left right =>
    simp only [Expr.draws, Bool.or_eq_false_iff] at drawless
    simp only [eval]
    refine .bind (eval_steady left drawless.1) fun leftValue => ?_
    exact .bind (eval_steady right drawless.2) fun rightValue => .answer _
  | and left right =>
    simp only [Expr.draws, Bool.or_eq_false_iff] at drawless
    simp only [eval]
    refine .bind (eval_steady left drawless.1) fun value => ?_
    split
    · exact eval_steady right drawless.2
    · exact .pure value
  | or left right =>
    simp only [Expr.draws, Bool.or_eq_false_iff] at drawless
    simp only [eval]
    refine .bind (eval_steady left drawless.1) fun value => ?_
    split
    · exact .pure value
    · exact eval_steady right drawless.2
  | compare first chain =>
    simp only [Expr.draws, Bool.or_eq_false_iff] at drawless
    simp only [eval]
    refine .bind (eval_steady first drawless.1) fun left => ?_
    exact .bind (evalChain_steady chain drawless.2 left) fun holds => .pure _
  | conditional condition yes no =>
    simp only [Expr.draws, Bool.or_eq_false_iff] at drawless
    simp only [eval]
    refine .bind (eval_steady condition drawless.1.1) fun value => ?_
    split
    · exact eval_steady yes drawless.1.2
    · exact eval_steady no drawless.2
  | attr base attr =>
    simp only [Expr.draws] at drawless
    simp only [eval]
    refine .bind (.view fun s generator => rfl) fun binding? => ?_
    cases binding? with
    | some binding => exact .answer _
    | none => exact .bind (eval_steady base drawless) fun value => .answer _
  | index base index =>
    simp only [Expr.draws, Bool.or_eq_false_iff] at drawless
    simp only [eval]
    refine .bind (eval_steady base drawless.1) fun container => ?_
    exact .bind (eval_steady index drawless.2) fun index => .answer _
  | slice base start stop =>
    simp only [Expr.draws, Bool.or_eq_false_iff] at drawless
    simp only [eval]
    refine .bind (eval_steady base drawless.1.1) fun container => ?_
    refine .bind (evalBound_steady start drawless.1.2) fun start => ?_
    exact .bind (evalBound_steady stop drawless.2) fun stop => .answer _
  | call function args named =>
    simp only [Expr.draws, Bool.or_eq_false_iff] at drawless
    obtain ⟨⟨⟨fixed, inFunction⟩, inArgs⟩, inNamed⟩ := drawless
    cases function with
    | name name =>
      simp only [eval]
      refine .bind (evalItems_steady args inArgs) fun positional => ?_
      refine .bind (evalNamed_steady named inNamed []) fun namedValues => ?_
      exact call_steady fixed ⟨positional, namedValues⟩
    | attr base method =>
      simp only [Expr.draws] at inFunction
      simp only [eval]
      refine .bind (evalItems_steady args inArgs) fun positional => ?_
      refine .bind (evalNamed_steady named inNamed []) fun namedValues => ?_
      refine .bind (.view fun s generator => rfl) fun binding? => ?_
      cases binding? with
      | some binding => exact .answer _
      | none =>
        refine .bind (eval_steady base inFunction) fun receiver => ?_
        split
        · exact .bind (evalPlace_steady base inFunction []) fun place => changePlace_steady place _
        · exact .answer _
    | _ =>
      simp only [eval]
      refine .bind (evalItems_steady args inArgs) fun positional => ?_
      exact .bind (evalNamed_steady named inNamed []) fun namedValues => .answer _
  | listComp element clauses =>
    simp only [Expr.draws, Bool.or_eq_false_iff] at drawless
    simp only [eval]
    have item : Steady (do return ("", ← eval element) : EvalM Obj (String × Value Obj)) :=
      .bind (eval_steady element drawless.1) fun value => .pure _
    exact .inFrame (.bind (evalClauses_steady clauses drawless.2 item []) fun made => .pure _)
  | dictComp key value clauses =>
    simp only [Expr.draws, Bool.or_eq_false_iff] at drawless
    simp only [eval]
    have entry : Steady (do
        let key ← EvalM.ofExcept (dictKey (← eval key))
        let value ← eval value
        return (key, value) : EvalM Obj (String × Value Obj)) := by
      refine .bind (eval_steady key drawless.1.1) fun keyValue => ?_
      refine .bind (.answer _) fun text => ?_
      exact .bind (eval_steady value drawless.1.2) fun value => .pure _
    exact .inFrame (.bind (evalClauses_steady clauses drawless.2 entry []) fun made => .pure _)

theorem evalItems_steady (es : List Expr) (drawless : drawsItems es = false) :
    Steady (evalItems es : EvalM Obj (List (Value Obj))) := by
  cases es with
  | nil =>
    simp only [evalItems]
    exact .pure []
  | cons e es =>
    simp only [drawsItems, Bool.or_eq_false_iff] at drawless
    simp only [evalItems]
    refine .bind (eval_steady e drawless.1) fun value => ?_
    exact .bind (evalItems_steady es drawless.2) fun values => .pure _

theorem evalEntries_steady (entries : List (Expr × Expr)) (drawless : drawsEntries entries = false)
    (fields : List (String × Value Obj)) : Steady (evalEntries entries fields) := by
  match entries with
  | [] =>
    simp only [evalEntries]
    exact .pure fields
  | (key, value) :: entries =>
    simp only [drawsEntries, Bool.or_eq_false_iff] at drawless
    simp only [evalEntries]
    refine .bind (eval_steady key drawless.1.1) fun keyValue => ?_
    refine .bind (.answer _) fun text => ?_
    refine .bind (eval_steady value drawless.1.2) fun value => ?_
    exact evalEntries_steady entries drawless.2 _

theorem evalNamed_steady (args : List (String × Expr)) (drawless : drawsNamed args = false)
    (named : List (String × Value Obj)) : Steady (evalNamed args named) := by
  match args with
  | [] =>
    simp only [evalNamed]
    exact .pure named
  | (name, arg) :: rest =>
    simp only [drawsNamed, Bool.or_eq_false_iff] at drawless
    simp only [evalNamed]
    refine .bind (eval_steady arg drawless.1) fun value => ?_
    exact evalNamed_steady rest drawless.2 _

theorem evalChain_steady (chain : List (CompareOp × Expr)) (drawless : drawsChain chain = false)
    (left : Value Obj) : Steady (evalChain left chain) := by
  match chain with
  | [] =>
    simp only [evalChain]
    exact .pure true
  | (op, right) :: chain =>
    simp only [drawsChain, Bool.or_eq_false_iff] at drawless
    simp only [evalChain]
    refine .bind (eval_steady right drawless.1) fun value => ?_
    refine .bind (.answer _) fun related => ?_
    split
    · exact evalChain_steady chain drawless.2 value
    · exact .pure false

theorem evalBound_steady (bound : Option Expr) (drawless : drawsBound bound = false) :
    Steady (evalBound bound : EvalM Obj (Value Obj)) := by
  match bound with
  | none =>
    simp only [evalBound]
    exact .pure _
  | some e =>
    simp only [drawsBound] at drawless
    simp only [evalBound]
    exact eval_steady e drawless

theorem evalClauses_steady (clauses : List Clause) (drawless : drawsClauses clauses = false)
    {emit : EvalM Obj (String × Value Obj)} (steady : Steady emit) (made : Made Obj) :
    Steady (evalClauses clauses emit made) := by
  match clauses with
  | [] =>
    simp only [evalClauses]
    exact .bind steady fun item => .pure _
  | .mk targets source conditions :: clauses =>
    simp only [drawsClauses, Bool.or_eq_false_iff] at drawless
    simp only [evalClauses]
    refine .bind (eval_steady source drawless.1.1) fun value => ?_
    refine .bind (.answer _) fun items => ?_
    refine forEach_steady (fun item made => ?_) items made
    refine .bind (bindTargets_steady targets item) fun _ => ?_
    refine .bind (evalConditions_steady conditions drawless.1.2) fun holds => ?_
    split
    · exact evalClauses_steady clauses drawless.2 steady made
    · exact .pure made

theorem evalConditions_steady (conditions : List Expr) (drawless : drawsItems conditions = false) :
    Steady (evalConditions conditions : EvalM Obj Bool) := by
  match conditions with
  | [] =>
    simp only [evalConditions]
    exact .pure true
  | condition :: conditions =>
    simp only [drawsItems, Bool.or_eq_false_iff] at drawless
    simp only [evalConditions]
    refine .bind (eval_steady condition drawless.1) fun value => ?_
    split
    · exact evalConditions_steady conditions drawless.2
    · exact .pure false

theorem evalPlace_steady (e : Expr) (drawless : e.draws = false) (path : List (Step Obj)) :
    Steady (evalPlace e path) := by
  cases e with
  | name root =>
    simp only [evalPlace]
    exact .pure _
  | index base index =>
    simp only [Expr.draws, Bool.or_eq_false_iff] at drawless
    simp only [evalPlace]
    refine .bind (eval_steady index drawless.2) fun value => ?_
    exact evalPlace_steady base drawless.1 _
  | attr base attr =>
    simp only [Expr.draws] at drawless
    simp only [evalPlace]
    exact evalPlace_steady base drawless _
  | _ =>
    simp only [evalPlace]
    exact .answer _

end

lemma assignTo_steady (target : Expr) (drawless : target.draws = false) (value : Value Obj) :
    Steady (assignTo target value) := by
  cases target with
  | name name => exact .update fun s generator => s.assign_reseed generator name value
  | index base index =>
    simp only [Expr.draws, Bool.or_eq_false_iff] at drawless
    refine .bind (eval_steady index drawless.2) fun index => ?_
    exact .bind (evalPlace_steady base drawless.1 []) fun place => changePlace_steady place _
  | attr base attr =>
    simp only [Expr.draws] at drawless
    exact .bind (evalPlace_steady base drawless []) fun place => changePlace_steady place _
  | _ => exact .answer _

/-- A statement without random functions does the same with any generator. -/
theorem exec_steady (stmt : Stmt) (drawless : stmt.draws = false) :
    Steady (exec stmt : EvalM Obj Unit) := by
  cases stmt with
  | expr e => exact .bind (eval_steady e drawless) fun value => .pure ()
  | assign target op value =>
    simp only [Stmt.draws, Bool.or_eq_false_iff] at drawless
    simp only [exec]
    refine .bind (eval_steady value drawless.2) fun value => ?_
    split
    · exact assignTo_steady target drawless.1 value
    · refine .bind (eval_steady target drawless.1) fun old => ?_
      exact .bind (.answer _) fun result => assignTo_steady target drawless.1 result

end Script

end BranchingStory
