import BranchingStory.Proofs.Machine.Places

/-!
# Evaluation on a machine

A machine evaluates an expression as its parts are evaluated, and takes the steps of its operators,
indices, functions, methods and places. Since each of these comes to what is wanted, so does every
expression and every statement, in every scope.
-/

namespace BranchingStory

open Script

variable {Obj : Type} {α β : Type}

namespace Machine

/-- A computation that takes no step of a machine. -/
def plain (computation : EvalM Obj α) : MachineM Obj α :=
  fun s => .ok (computation s)

def ofTrial (trial : Trial α) : MachineM Obj α :=
  fun s => do
    let answer ← trial.run
    return (answer, s)

/-- The answer of a change of a value that is given up. -/
def answerOf (steps : Steps (Except EvalError α × β)) : Trial α :=
  ExceptT.mk (Prod.fst <$> steps)

def step (f : Scope Obj → Steps (Except EvalError α × Scope Obj)) : MachineM Obj α :=
  f

def draw (drawing : DrawM α) : MachineM Obj α :=
  fun s => do
    let (answer, generator) ← drawing s.generator
    return (answer, { s with generator })

def inFrame (body : MachineM Obj α) : MachineM Obj α :=
  fun s => do
    let (answer, s) ← body s.pushFrame
    return (answer, s.popFrame)

def forEach {σ : Type} (body : α → σ → MachineM Obj σ) : List α → σ → MachineM Obj σ
  | [], result => pure result
  | item :: items, result => do forEach body items (← body item result)

end Machine

namespace Follows

lemma done (a : α) : Follows (pure a : MachineM Obj α) (pure a) :=
  fun _ => rfl

lemma plain (computation : EvalM Obj α) : Follows (Machine.plain computation) computation :=
  fun _ => rfl

lemma bind {m : MachineM Obj α} {next : α → MachineM Obj β} {computation : EvalM Obj α}
    {then' : α → EvalM Obj β} (first : Follows m computation) (rest : ∀ a, Follows (next a) (then' a)) :
    Follows (m >>= next) (computation >>= then') := by
  intro s
  have here := first s
  change Meets (m.run s) (computation s) at here
  change Meets (m.run s >>= fun (answer, s) => _) ((computation >>= then') s)
  rw [bind_apply]
  refine .bind here ?_
  rcases (computation s : Except EvalError α × Scope Obj) with ⟨reason | a, s⟩
  · rfl
  · exact rest a s

lemma ofTrial {trial : Trial α} {answer : Except EvalError α} (tries : Tries trial answer) :
    Follows (Machine.ofTrial trial : MachineM Obj α) (EvalM.ofExcept answer) :=
  fun _ => .bind tries (.done _)

lemma step {f : Scope Obj → Steps (Except EvalError α × Scope Obj)}
    {g : Scope Obj → Except EvalError α × Scope Obj} (meets : ∀ s, Meets (f s) (g s)) :
    Follows (Machine.step f) (EvalM.step g) :=
  meets

lemma inFrame {m : MachineM Obj α} {computation : EvalM Obj α} (body : Follows m computation) :
    Follows (Machine.inFrame m) (EvalM.inFrame computation) :=
  fun s => .bind (body s.pushFrame) (.done _)

lemma forEach {σ : Type} {body : α → σ → MachineM Obj σ} {computation : α → σ → EvalM Obj σ}
    (each : ∀ item result, Follows (body item result) (computation item result)) (items : List α)
    (result : σ) : Follows (Machine.forEach body items result) (Script.forEach computation items result) := by
  induction items generalizing result with
  | nil => exact .done result
  | cons item items ih => exact .bind (each item result) fun result => ih result

end Follows

variable [HostObject Obj]

/-- The call of a name, as it is wanted. -/
def callNamed (name : String) (args : CallArgs Obj) : EvalM Obj (Value Obj) := do
  EvalM.draw (← EvalM.ofExcept (← EvalM.view (Script.callName name args)))

namespace Machine

/-- Calls what a name stands for; only the functions of every story take steps of their own. -/
def callName (name : String) (args : CallArgs Obj) : MachineM Obj (Value Obj) := fun s =>
  match s.get? name, Assoc.get? s.bindings name, Function.ofName? name with
  | none, none, some function => draw (apply function args) s
  | _, _, _ => plain (callNamed name args) s

mutual

/-- The evaluation of an expression by a machine. -/
def eval : Expr → MachineM Obj (Value Obj)
  | .lit literal => pure literal.value
  | .name name => do plain (EvalM.ofExcept (← plain (EvalM.view (lookup name))))
  | .list items => do return .list (← evalItems items)
  | .dict entries => do return .dict (← evalEntries entries [])
  | .unary op operand => do ofTrial (unary op (← eval operand))
  | .binary op left right => do
    let left ← eval left
    let right ← eval right
    ofTrial (binary op left right)
  | .and left right => do
    let left ← eval left
    if left.holds then eval right else pure left
  | .or left right => do
    let left ← eval left
    if left.holds then pure left else eval right
  | .compare first chain => do
    let left ← eval first
    return .bool (← evalChain left chain)
  | .conditional condition yes no => do
    if (← eval condition).holds then eval yes else eval no
  | .attr base attr => do
    match ← plain (EvalM.view (qualified? base attr)) with
    | some binding => plain (EvalM.ofExcept (readBinding attr binding))
    | none =>
      let value ← eval base
      plain (EvalM.ofExcept (value.readAttr attr))
  | .index base index => do
    let container ← eval base
    let index ← eval index
    ofTrial (item container index)
  | .slice base start stop => do
    let container ← eval base
    let start ← evalBound start
    let stop ← evalBound stop
    ofTrial (slice container start stop)
  | .call (.name function) args named => do
    let positional ← evalItems args
    let named ← evalNamed named []
    callName function ⟨positional, named⟩
  | .call (.attr base method) args named => do
    let positional ← evalItems args
    let named ← evalNamed named []
    let args : CallArgs Obj := ⟨positional, named⟩
    match ← plain (EvalM.view (qualified? base method)) with
    | some binding => plain (EvalM.ofExcept (callBinding method binding args))
    | none =>
      let receiver ← eval base
      if mutates receiver method && base.isPlace then
        let place ← evalPlace base []
        step fun s => changePlace s place (callMethod · method args)
      else ofTrial (answerOf (callMethod receiver method args))
  | .call _ args named => do
    let _ ← evalItems args
    let _ ← evalNamed named []
    plain (EvalM.fail (.typeMismatch "expression is not callable"))
  | .listComp element clauses => inFrame do
    let made ← evalClauses clauses (do return ("", ← eval element)) []
    return .list (Assoc.values made.reverse)
  | .dictComp key value clauses => inFrame do
    let made ← evalClauses clauses
      (do
        let key ← plain (EvalM.ofExcept (dictKey (← eval key)))
        let value ← eval value
        return (key, value)) []
    return .dict (Assoc.ofEntries made.reverse)

def evalItems : List Expr → MachineM Obj (List (Value Obj))
  | [] => pure []
  | e :: es => do
    let value ← eval e
    let values ← evalItems es
    return value :: values

/-- The entries of a dictionary display, written over the given ones. -/
def evalEntries : List (Expr × Expr) → List (String × Value Obj) → MachineM Obj (List (String × Value Obj))
  | [], fields => pure fields
  | (key, value) :: entries, fields => do
    let key ← plain (EvalM.ofExcept (dictKey (← eval key)))
    let value ← eval value
    evalEntries entries (Assoc.insert fields key value)

def evalNamed : List (String × Expr) → List (String × Value Obj) → MachineM Obj (List (String × Value Obj))
  | [], named => pure named
  | (name, arg) :: rest, named => do
    let value ← eval arg
    evalNamed rest (Assoc.insert named name value)

def evalChain (left : Value Obj) : List (CompareOp × Expr) → MachineM Obj Bool
  | [] => pure true
  | (op, right) :: chain => do
    let right ← eval right
    if ← plain (EvalM.ofExcept (relates op left right)) then evalChain right chain else pure false

def evalBound : Option Expr → MachineM Obj (Value Obj)
  | none => pure .none
  | some e => eval e

/-- What the clauses of a comprehension let through, added to what is there. -/
def evalClauses : List Clause → MachineM Obj (String × Value Obj) → Made Obj → MachineM Obj (Made Obj)
  | [], emit, made => do return (← emit) :: made
  | .mk targets source conditions :: clauses, emit, made => do
    let items ← plain (EvalM.ofExcept (iterate (← eval source)))
    forEach
      (fun item made => do
        plain (EvalM.step (bindTargets targets item))
        if ← evalConditions conditions then evalClauses clauses emit made else pure made)
      items made

def evalConditions : List Expr → MachineM Obj Bool
  | [] => pure true
  | condition :: conditions => do
    if (← eval condition).holds then evalConditions conditions else pure false

def evalPlace : Expr → List (Step Obj) → MachineM Obj (Place Obj)
  | .name root, path => pure { root, path }
  | .index base index, path => do
    let index ← eval index
    evalPlace base (.item index :: path)
  | .attr base attr, path => evalPlace base (.attr attr :: path)
  | _, _ => plain (EvalM.fail (.typeMismatch "cannot modify the result of an expression"))

end

/-- The container of a place after its item under an index was written. -/
def writeItem (index value : Value Obj) : MachineChange Obj Unit := fun container => do
  match ← (setItem container index value).run with
  | .ok container => return (.ok (), container)
  | .error reason => return (.error reason, container)

/-- The assignment to a target by a machine. -/
def assignTo (target : Expr) (value : Value Obj) : MachineM Obj Unit :=
  match target with
  | .index base index => do
    let index ← eval index
    let place ← evalPlace base []
    step fun s => changePlace s place (writeItem index value)
  | .attr base attr => do
    let place ← evalPlace base []
    step fun s => changePlace s place fun container =>
      match container.writeAttr attr value with
      | .ok container => .ok (.ok (), container)
      | .error reason => .ok (.error reason, container)
  | target => plain (Script.assignTo target value)

/-- The execution of a statement by a machine. -/
def exec : Stmt → MachineM Obj Unit
  | .expr e => do let _ ← eval e
  | .assign target op value => do
    let value ← eval value
    match op.binary? with
    | none => assignTo target value
    | some op =>
      let old ← eval target
      assignTo target (← ofTrial (binary op old value))

lemma answerOf_tries {steps : Steps (Except EvalError α × β)} {result : Except EvalError α × β}
    (meets : Meets steps result) : Tries (answerOf steps) result.1 := by
  cases steps with
  | ok result' =>
    cases meets
    rfl
  | error halt => exact meets

lemma callName_follows (name : String) (args : CallArgs Obj) :
    Follows (callName name args) (callNamed name args) := by
  intro s
  change Meets (callName name args s) _
  unfold callName
  split
  · next function unknown unbound known =>
    have named : callNamed name args s =
        ((drawn (function.apply args) s.generator).1,
          { s with generator := (drawn (function.apply args) s.generator).2 }) := by
      unfold callNamed
      simp only [bind_apply, EvalM.view, Script.callName, unknown, unbound, known]
      cases function.apply args <;> rfl
    change Meets _ (callNamed name args s)
    rw [named]
    exact .bind (apply_draws function args s.generator) (.done _)
  · rfl

mutual

/-- A machine evaluates an expression as it is wanted. -/
theorem eval_follows (e : Expr) : Follows (eval e) (Script.eval e : EvalM Obj (Value Obj)) := by
  cases e with
  | lit literal =>
    simp only [eval, Script.eval]
    exact .done _
  | name name =>
    simp only [eval, Script.eval]
    exact .bind (.plain _) fun found => .plain _
  | list items =>
    simp only [eval, Script.eval]
    exact .bind (evalItems_follows items) fun values => .done _
  | dict entries =>
    simp only [eval, Script.eval]
    exact .bind (evalEntries_follows entries []) fun fields => .done _
  | unary op operand =>
    simp only [eval, Script.eval]
    exact .bind (eval_follows operand) fun value => .ofTrial (unary_tries op value)
  | binary op left right =>
    simp only [eval, Script.eval]
    refine .bind (eval_follows left) fun leftValue => ?_
    exact .bind (eval_follows right) fun rightValue => .ofTrial (binary_tries op _ _)
  | and left right =>
    simp only [eval, Script.eval]
    refine .bind (eval_follows left) fun value => ?_
    split
    · exact eval_follows right
    · exact .done value
  | or left right =>
    simp only [eval, Script.eval]
    refine .bind (eval_follows left) fun value => ?_
    split
    · exact .done value
    · exact eval_follows right
  | compare first chain =>
    simp only [eval, Script.eval]
    refine .bind (eval_follows first) fun left => ?_
    exact .bind (evalChain_follows chain left) fun holds => .done _
  | conditional condition yes no =>
    simp only [eval, Script.eval]
    refine .bind (eval_follows condition) fun value => ?_
    split
    · exact eval_follows yes
    · exact eval_follows no
  | attr base attr =>
    simp only [eval, Script.eval]
    refine .bind (.plain _) fun binding? => ?_
    cases binding? with
    | some binding => exact .plain _
    | none => exact .bind (eval_follows base) fun value => .plain _
  | index base index =>
    simp only [eval, Script.eval]
    refine .bind (eval_follows base) fun container => ?_
    exact .bind (eval_follows index) fun index => .ofTrial (item_tries container index)
  | slice base start stop =>
    simp only [eval, Script.eval]
    refine .bind (eval_follows base) fun container => ?_
    refine .bind (evalBound_follows start) fun start => ?_
    exact .bind (evalBound_follows stop) fun stop => .ofTrial (slice_tries container start stop)
  | call function args named =>
    cases function with
    | name name =>
      simp only [eval, Script.eval]
      refine .bind (evalItems_follows args) fun positional => ?_
      refine .bind (evalNamed_follows named []) fun namedValues => ?_
      exact callName_follows name ⟨positional, namedValues⟩
    | attr base method =>
      simp only [eval, Script.eval]
      refine .bind (evalItems_follows args) fun positional => ?_
      refine .bind (evalNamed_follows named []) fun namedValues => ?_
      refine .bind (.plain _) fun binding? => ?_
      cases binding? with
      | some binding => exact .plain _
      | none =>
        refine .bind (eval_follows base) fun receiver => ?_
        have call := fun receiver => callMethod_meets receiver method ⟨positional, namedValues⟩
        split
        · refine .bind (evalPlace_follows base []) fun place => ?_
          exact .step fun s => changePlace_meets s place call
        · exact .ofTrial (answerOf_tries (call receiver))
    | _ =>
      simp only [eval, Script.eval]
      refine .bind (evalItems_follows args) fun positional => ?_
      exact .bind (evalNamed_follows named []) fun namedValues => .plain _
  | listComp element clauses =>
    simp only [eval, Script.eval]
    have item : Follows (do return ("", ← eval element)) (do return ("", ← Script.eval element)) :=
      .bind (eval_follows element) fun value => .done _
    exact .inFrame (.bind (evalClauses_follows clauses item []) fun made => .done _)
  | dictComp key value clauses =>
    simp only [eval, Script.eval]
    refine .inFrame (.bind (evalClauses_follows clauses ?_ []) fun made => .done _)
    refine .bind (eval_follows key) fun keyValue => ?_
    refine .bind (.plain _) fun text => ?_
    exact .bind (eval_follows value) fun value => .done _

theorem evalItems_follows (es : List Expr) :
    Follows (evalItems es) (Script.evalItems es : EvalM Obj (List (Value Obj))) := by
  cases es with
  | nil =>
    simp only [evalItems, Script.evalItems]
    exact .done []
  | cons e es =>
    simp only [evalItems, Script.evalItems]
    refine .bind (eval_follows e) fun value => ?_
    exact .bind (evalItems_follows es) fun values => .done _

theorem evalEntries_follows (entries : List (Expr × Expr)) (fields : List (String × Value Obj)) :
    Follows (evalEntries entries fields) (Script.evalEntries entries fields) := by
  match entries with
  | [] =>
    simp only [evalEntries, Script.evalEntries]
    exact .done fields
  | (key, value) :: entries =>
    simp only [evalEntries, Script.evalEntries]
    refine .bind (eval_follows key) fun keyValue => ?_
    refine .bind (.plain _) fun text => ?_
    refine .bind (eval_follows value) fun value => ?_
    exact evalEntries_follows entries _

theorem evalNamed_follows (args : List (String × Expr)) (named : List (String × Value Obj)) :
    Follows (evalNamed args named) (Script.evalNamed args named) := by
  match args with
  | [] =>
    simp only [evalNamed, Script.evalNamed]
    exact .done named
  | (name, arg) :: rest =>
    simp only [evalNamed, Script.evalNamed]
    refine .bind (eval_follows arg) fun value => ?_
    exact evalNamed_follows rest _

theorem evalChain_follows (chain : List (CompareOp × Expr)) (left : Value Obj) :
    Follows (evalChain left chain) (Script.evalChain left chain) := by
  match chain with
  | [] =>
    simp only [evalChain, Script.evalChain]
    exact .done true
  | (op, right) :: chain =>
    simp only [evalChain, Script.evalChain]
    refine .bind (eval_follows right) fun value => ?_
    refine .bind (.plain _) fun related => ?_
    split
    · exact evalChain_follows chain value
    · exact .done false

theorem evalBound_follows (bound : Option Expr) :
    Follows (evalBound bound) (Script.evalBound bound : EvalM Obj (Value Obj)) := by
  match bound with
  | none =>
    simp only [evalBound, Script.evalBound]
    exact .done _
  | some e =>
    simp only [evalBound, Script.evalBound]
    exact eval_follows e

theorem evalClauses_follows (clauses : List Clause) {m : MachineM Obj (String × Value Obj)}
    {emit : EvalM Obj (String × Value Obj)} (emits : Follows m emit) (made : Made Obj) :
    Follows (evalClauses clauses m made) (Script.evalClauses clauses emit made) := by
  match clauses with
  | [] =>
    simp only [evalClauses, Script.evalClauses]
    exact .bind emits fun item => .done _
  | .mk targets source conditions :: clauses =>
    simp only [evalClauses, Script.evalClauses]
    refine .bind (eval_follows source) fun value => ?_
    refine .bind (.plain _) fun items => ?_
    refine .forEach (fun item made => ?_) items made
    refine .bind (.plain _) fun _ => ?_
    refine .bind (evalConditions_follows conditions) fun holds => ?_
    split
    · exact evalClauses_follows clauses emits made
    · exact .done made

theorem evalConditions_follows (conditions : List Expr) :
    Follows (evalConditions conditions : MachineM Obj Bool) (Script.evalConditions conditions) := by
  match conditions with
  | [] =>
    simp only [evalConditions, Script.evalConditions]
    exact .done true
  | condition :: conditions =>
    simp only [evalConditions, Script.evalConditions]
    refine .bind (eval_follows condition) fun value => ?_
    split
    · exact evalConditions_follows conditions
    · exact .done false

theorem evalPlace_follows (e : Expr) (path : List (Step Obj)) :
    Follows (evalPlace e path) (Script.evalPlace e path) := by
  cases e with
  | name root =>
    simp only [evalPlace, Script.evalPlace]
    exact .done _
  | index base index =>
    simp only [evalPlace, Script.evalPlace]
    refine .bind (eval_follows index) fun value => ?_
    exact evalPlace_follows base _
  | attr base attr =>
    simp only [evalPlace, Script.evalPlace]
    exact evalPlace_follows base _
  | _ =>
    simp only [evalPlace, Script.evalPlace]
    exact .plain _

end

end Machine

end BranchingStory
