import BranchingStory.Script.Parser
import BranchingStory.Script.Place
import BranchingStory.Script.Method

/-!
# Evaluation

Expressions are evaluated from left to right in a scope. What was changed before a failure stays
changed; the frame of a comprehension is closed in any case.
-/

namespace BranchingStory.Script

variable {Obj : Type}

/-- A computation in a scope that may fail; the scope afterwards is there also after a failure. -/
abbrev EvalM (Obj : Type) := ExceptT EvalError (StateM (Scope Obj))

def Literal.value : Literal → Value Obj
  | .none => .none
  | .bool b => .bool b
  | .int i => .int i
  | .float x => .float x
  | .str s => .str s

namespace EvalM

def ofExcept {α : Type} (answer : Except EvalError α) : EvalM Obj α :=
  fun s => (answer, s)

def step {α : Type} (f : Scope Obj → Except EvalError α × Scope Obj) : EvalM Obj α :=
  f

def update (f : Scope Obj → Scope Obj) : EvalM Obj Unit :=
  fun s => (.ok (), f s)

def view {α : Type} (f : Scope Obj → α) : EvalM Obj α :=
  fun s => (.ok (f s), s)

def fail {α : Type} (reason : EvalError) : EvalM Obj α :=
  fun s => (.error reason, s)

def draw {α : Type} (drawing : Drawing α) : EvalM Obj α :=
  fun s => let (a, generator) := drawing s.generator; (.ok a, { s with generator })

def inFrame {α : Type} (body : EvalM Obj α) : EvalM Obj α :=
  fun s => let (answer, s) := body s.pushFrame; (answer, s.popFrame)

end EvalM

variable [HostObject Obj]

/-- The refusal to use a function or type without calling it. -/
def mustBeCalled (name : String) : EvalError :=
  .typeMismatch ("'" ++ name ++ "' must be called")

/-- The value of a name: a variable, or a constant of the host. -/
def lookup (name : String) (s : Scope Obj) : Except EvalError (Value Obj) :=
  match s.get? name with
  | some value => .ok value
  | none =>
    match Assoc.get? s.bindings name with
    | some (.value value) => .ok value
    | some _ => .error (mustBeCalled name)
    | none =>
      if (Function.ofName? name).isSome then .error (mustBeCalled name)
      else .error (.undefinedName name)

/-- What `module.name` stands for, if `base` is the name of a module and no variable. -/
def qualified? (base : Expr) (name : String) (s : Scope Obj) : Option (Binding Obj) :=
  match base with
  | .name module => if s.contains module then none else Assoc.get? s.bindings (module ++ "." ++ name)
  | _ => none

/-- The value of a binding that is read and not called. -/
def readBinding (name : String) (binding : Binding Obj) : Except EvalError (Value Obj) :=
  match binding with
  | .value value => .ok value
  | _ => .error (mustBeCalled name)

/-- The answer of a host function, or the object that a host type makes. -/
def callBinding (name : String) (binding : Binding Obj) (args : CallArgs Obj) :
    Except EvalError (Value Obj) :=
  match binding with
  | .function f => f args
  | .type entry =>
    match entry.construct? with
    | some construct => (construct args).map .object
    | none =>
      .error (.typeMismatch ("type '" ++ entry.name ++ "' cannot be constructed from a story"))
  | .value value =>
    .error (.typeMismatch ("'" ++ name ++ "' (" ++ value.typeName ++ ") is not callable"))

/-- Calls what a name stands for: a binding of the host, or else a function of every story. -/
def callName (name : String) (args : CallArgs Obj) (s : Scope Obj) :
    Except EvalError (Drawing (Value Obj)) :=
  match s.get? name with
  | some value =>
    .error (.typeMismatch ("'" ++ value.typeName ++ "' object is not callable"))
  | none =>
    match Assoc.get? s.bindings name with
    | some binding => certain (callBinding name binding args)
    | none =>
      match Function.ofName? name with
      | some function => function.apply args
      | none => .error (.undefinedName name)

/-- Writes several variables in the innermost frame. -/
def setLocals (s : Scope Obj) (entries : List (String × Value Obj)) : Scope Obj :=
  entries.foldl (fun s (name, value) => s.setLocal name value) s

/-- Binds the variables of a loop to an item, which is taken apart if there is more than one. -/
def bindTargets (targets : List String) (item : Value Obj) (s : Scope Obj) :
    Except EvalError Unit × Scope Obj :=
  match targets, item with
  | [target], item => (.ok (), s.setLocal target item)
  | targets, .list parts =>
    if parts.length = targets.length then (.ok (), setLocals s (targets.zip parts))
    else (.error (unpackFault targets item), s)
  | targets, item => (.error (unpackFault targets item), s)
where
  /-- The refusal to take an item apart. -/
  unpackFault (targets : List String) (item : Value Obj) : EvalError :=
    .typeMismatch ("cannot unpack " ++ item.typeName ++ " into " ++ toString targets.length ++
      " variables")

/-- What a comprehension has made so far, last one first: values with their keys, which are empty in a
list. -/
abbrev Made (Obj : Type) := List (String × Value Obj)

/-- Runs `body` for each item in turn, from one result to the next. -/
def forEach {α σ : Type} (body : α → σ → EvalM Obj σ) : List α → σ → EvalM Obj σ
  | [], result => pure result
  | item :: items, result => do forEach body items (← body item result)

mutual

def eval : Expr → EvalM Obj (Value Obj)
  | .lit literal => pure literal.value
  | .name name => do EvalM.ofExcept (← EvalM.view (lookup name))
  | .list items => do return .list (← evalItems items)
  | .dict entries => do return .dict (← evalEntries entries [])
  | .unary op operand => do EvalM.ofExcept (unary op (← eval operand))
  | .binary op left right => do
    let left ← eval left
    let right ← eval right
    EvalM.ofExcept (binary op left right)
  | .and left right => do
    let left ← eval left
    if left.holds then eval right else pure left
  | .or left right => do
    let left ← eval left
    if left.holds then pure left else eval right
  | .compare first chain => do
    let left ← eval first
    return .bool (← evalChain left chain)
  | .conditional condition yes no => do
    if (← eval condition).holds then eval yes else eval no
  | .attr base attr => do
    match ← EvalM.view (qualified? base attr) with
    | some binding => EvalM.ofExcept (readBinding attr binding)
    | none =>
      let value ← eval base
      EvalM.ofExcept (value.readAttr attr)
  | .index base index => do
    let container ← eval base
    let index ← eval index
    EvalM.ofExcept (item container index)
  | .slice base start stop => do
    let container ← eval base
    let start ← evalBound start
    let stop ← evalBound stop
    EvalM.ofExcept (slice container start stop)
  | .call (.name function) args named => do
    let positional ← evalItems args
    let named ← evalNamed named []
    EvalM.draw (← EvalM.ofExcept (← EvalM.view (callName function ⟨positional, named⟩)))
  | .call (.attr base method) args named => do
    let positional ← evalItems args
    let named ← evalNamed named []
    let args : CallArgs Obj := ⟨positional, named⟩
    match ← EvalM.view (qualified? base method) with
    | some binding => EvalM.ofExcept (callBinding method binding args)
    | none =>
      let receiver ← eval base
      if mutates receiver method && base.isPlace then
        let place ← evalPlace base []
        EvalM.step fun s => s.changePlace place (callMethod · method args)
      else EvalM.ofExcept (callMethod receiver method args).1
  | .call _ args named => do
    let _ ← evalItems args
    let _ ← evalNamed named []
    EvalM.fail (.typeMismatch "expression is not callable")
  | .listComp element clauses => EvalM.inFrame do
    let made ← evalClauses clauses (do return ("", ← eval element)) []
    return .list (Assoc.values made.reverse)
  | .dictComp key value clauses => EvalM.inFrame do
    let made ← evalClauses clauses
      (do
        let key ← EvalM.ofExcept (dictKey (← eval key))
        let value ← eval value
        return (key, value)) []
    return .dict (Assoc.ofEntries made.reverse)

def evalItems : List Expr → EvalM Obj (List (Value Obj))
  | [] => pure []
  | e :: es => do
    let value ← eval e
    let values ← evalItems es
    return value :: values

/-- Writes the entries of a dictionary display over the given ones. -/
def evalEntries : List (Expr × Expr) → List (String × Value Obj) → EvalM Obj (List (String × Value Obj))
  | [], fields => pure fields
  | (key, value) :: entries, fields => do
    let key ← EvalM.ofExcept (dictKey (← eval key))
    let value ← eval value
    evalEntries entries (Assoc.insert fields key value)

def evalNamed : List (String × Expr) → List (String × Value Obj) → EvalM Obj (List (String × Value Obj))
  | [], named => pure named
  | (name, arg) :: rest, named => do
    let value ← eval arg
    evalNamed rest (Assoc.insert named name value)

/-- Whether a chain of relations holds from a first value on; it ends at the first that does not. -/
def evalChain (left : Value Obj) : List (CompareOp × Expr) → EvalM Obj Bool
  | [] => pure true
  | (op, right) :: chain => do
    let right ← eval right
    if ← EvalM.ofExcept (relates op left right) then evalChain right chain else pure false

/-- The value of the bound of a slice; without a bound there is none. -/
def evalBound : Option Expr → EvalM Obj (Value Obj)
  | none => pure .none
  | some e => eval e

/-- Adds what `emit` makes for each choice of items that the clauses of a comprehension let through. -/
def evalClauses : List Clause → EvalM Obj (String × Value Obj) → Made Obj → EvalM Obj (Made Obj)
  | [], emit, made => do return (← emit) :: made
  | .mk targets source conditions :: clauses, emit, made => do
    let items ← EvalM.ofExcept (iterate (← eval source))
    forEach
      (fun item made => do
        EvalM.step (bindTargets targets item)
        if ← evalConditions conditions then evalClauses clauses emit made else pure made)
      items made

/-- Whether all conditions hold; the first that does not ends the test. -/
def evalConditions : List Expr → EvalM Obj Bool
  | [] => pure true
  | condition :: conditions => do
    if (← eval condition).holds then evalConditions conditions else pure false

/-- The place that an expression stands for, with `path` behind it. The indices are evaluated from the
last one to the first. -/
def evalPlace : Expr → List (Step Obj) → EvalM Obj (Place Obj)
  | .name root, path => pure { root, path }
  | .index base index, path => do
    let index ← eval index
    evalPlace base (.item index :: path)
  | .attr base attr, path => evalPlace base (.attr attr :: path)
  | _, _ => EvalM.fail (.typeMismatch "cannot modify the result of an expression")

end

/-- Writes a value at a place that an expression stands for. -/
def assignTo (target : Expr) (value : Value Obj) : EvalM Obj Unit :=
  match target with
  | .name name => EvalM.update (·.assign name value)
  | .index base index => do
    let index ← eval index
    let place ← evalPlace base []
    EvalM.step fun s => s.changePlace place fun container =>
      match setItem container index value with
      | .ok container => (.ok (), container)
      | .error reason => (.error reason, container)
  | .attr base attr => do
    let place ← evalPlace base []
    EvalM.step fun s => s.changePlace place fun container =>
      match container.writeAttr attr value with
      | .ok container => (.ok (), container)
      | .error reason => (.error reason, container)
  | _ => EvalM.fail (.typeMismatch "invalid assignment target")

/-- Executes a statement. The right-hand side comes first, then the old value of the target, then the
indices of the target. -/
def exec : Stmt → EvalM Obj Unit
  | .expr e => do let _ ← eval e
  | .assign target op value => do
    let value ← eval value
    match op.binary? with
    | none => assignTo target value
    | some op =>
      let old ← eval target
      assignTo target (← EvalM.ofExcept (binary op old value))

def evalSource (source : String) : EvalM Obj (Value Obj) := do
  eval (← EvalM.ofExcept (Expr.read source.toList))

def execSource (source : String) : EvalM Obj Unit := do
  exec (← EvalM.ofExcept (Stmt.read source.toList))

end BranchingStory.Script
