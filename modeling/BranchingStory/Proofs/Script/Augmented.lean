import BranchingStory.Proofs.Script.Slots

/-!
# Augmented assignment

An augmented assignment evaluates its right-hand side first and its target behind it; the assignment of an
operation on the target and the right-hand side evaluates these the other way around. Both come to the
same, if neither calls anything: such an expression leaves a scope as it is, also if it fails.
-/

namespace BranchingStory

namespace Script

mutual

/-- Whether anything is called anywhere in an expression. -/
def Expr.calls : Expr → Bool
  | .lit _ | .name _ => false
  | .list items => callsItems items
  | .dict entries => callsEntries entries
  | .unary _ operand => operand.calls
  | .binary _ left right => left.calls || right.calls
  | .and left right => left.calls || right.calls
  | .or left right => left.calls || right.calls
  | .compare first chain => first.calls || callsChain chain
  | .conditional condition yes no => condition.calls || yes.calls || no.calls
  | .attr base _ => base.calls
  | .index base index => base.calls || index.calls
  | .slice base start stop => base.calls || callsBound start || callsBound stop
  | .call _ _ _ => true
  | .listComp element clauses => element.calls || callsClauses clauses
  | .dictComp key value clauses => key.calls || value.calls || callsClauses clauses

def callsItems : List Expr → Bool
  | [] => false
  | e :: es => e.calls || callsItems es

def callsEntries : List (Expr × Expr) → Bool
  | [] => false
  | (key, value) :: entries => key.calls || value.calls || callsEntries entries

def callsChain : List (CompareOp × Expr) → Bool
  | [] => false
  | (_, right) :: chain => right.calls || callsChain chain

def callsBound : Option Expr → Bool
  | none => false
  | some e => e.calls

def callsClauses : List Clause → Bool
  | [] => false
  | .mk _ source conditions :: clauses => source.calls || callsItems conditions || callsClauses clauses

end

/-! ## What calls nothing draws nothing and calls no method -/

mutual

theorem Expr.still_of_calls (e : Expr) (free : e.calls = false) : e.draws = false ∧ e.methods = [] := by
  cases e with
  | lit literal => exact ⟨rfl, rfl⟩
  | name name => exact ⟨rfl, rfl⟩
  | list items => exact still_of_callsItems items free
  | dict entries => exact still_of_callsEntries entries free
  | unary op operand => exact operand.still_of_calls free
  | binary _ left right | and left right | or left right =>
    simp only [Expr.calls, Bool.or_eq_false_iff] at free
    simp only [Expr.draws, Expr.methods, left.still_of_calls free.1, right.still_of_calls free.2]
    exact ⟨rfl, rfl⟩
  | compare first chain =>
    simp only [Expr.calls, Bool.or_eq_false_iff] at free
    simp only [Expr.draws, Expr.methods, first.still_of_calls free.1, still_of_callsChain chain free.2]
    exact ⟨rfl, rfl⟩
  | conditional condition yes no =>
    simp only [Expr.calls, Bool.or_eq_false_iff] at free
    simp only [Expr.draws, Expr.methods, condition.still_of_calls free.1.1, yes.still_of_calls free.1.2,
      no.still_of_calls free.2]
    exact ⟨rfl, rfl⟩
  | attr base attr => exact base.still_of_calls free
  | index base index =>
    simp only [Expr.calls, Bool.or_eq_false_iff] at free
    simp only [Expr.draws, Expr.methods, base.still_of_calls free.1, index.still_of_calls free.2]
    exact ⟨rfl, rfl⟩
  | slice base start stop =>
    simp only [Expr.calls, Bool.or_eq_false_iff] at free
    simp only [Expr.draws, Expr.methods, base.still_of_calls free.1.1, still_of_callsBound start free.1.2,
      still_of_callsBound stop free.2]
    exact ⟨rfl, rfl⟩
  | call function args named => cases free
  | listComp element clauses =>
    simp only [Expr.calls, Bool.or_eq_false_iff] at free
    simp only [Expr.draws, Expr.methods, element.still_of_calls free.1, still_of_callsClauses clauses free.2]
    exact ⟨rfl, rfl⟩
  | dictComp key value clauses =>
    simp only [Expr.calls, Bool.or_eq_false_iff] at free
    simp only [Expr.draws, Expr.methods, key.still_of_calls free.1.1, value.still_of_calls free.1.2,
      still_of_callsClauses clauses free.2]
    exact ⟨rfl, rfl⟩

theorem still_of_callsItems (es : List Expr) (free : callsItems es = false) :
    drawsItems es = false ∧ methodsOfItems es = [] := by
  cases es with
  | nil => exact ⟨rfl, rfl⟩
  | cons e es =>
    simp only [callsItems, Bool.or_eq_false_iff] at free
    simp only [drawsItems, methodsOfItems, e.still_of_calls free.1, still_of_callsItems es free.2]
    exact ⟨rfl, rfl⟩

theorem still_of_callsEntries (entries : List (Expr × Expr)) (free : callsEntries entries = false) :
    drawsEntries entries = false ∧ methodsOfEntries entries = [] := by
  match entries with
  | [] => exact ⟨rfl, rfl⟩
  | (key, value) :: entries =>
    simp only [callsEntries, Bool.or_eq_false_iff] at free
    simp only [drawsEntries, methodsOfEntries, key.still_of_calls free.1.1, value.still_of_calls free.1.2,
      still_of_callsEntries entries free.2]
    exact ⟨rfl, rfl⟩

theorem still_of_callsChain (chain : List (CompareOp × Expr)) (free : callsChain chain = false) :
    drawsChain chain = false ∧ methodsOfChain chain = [] := by
  match chain with
  | [] => exact ⟨rfl, rfl⟩
  | (op, right) :: chain =>
    simp only [callsChain, Bool.or_eq_false_iff] at free
    simp only [drawsChain, methodsOfChain, right.still_of_calls free.1, still_of_callsChain chain free.2]
    exact ⟨rfl, rfl⟩

theorem still_of_callsBound (bound : Option Expr) (free : callsBound bound = false) :
    drawsBound bound = false ∧ methodsOfBound bound = [] := by
  cases bound with
  | none => exact ⟨rfl, rfl⟩
  | some e => exact e.still_of_calls free

theorem still_of_callsClauses (clauses : List Clause) (free : callsClauses clauses = false) :
    drawsClauses clauses = false ∧ methodsOfClauses clauses = [] := by
  match clauses with
  | [] => exact ⟨rfl, rfl⟩
  | .mk targets source conditions :: clauses =>
    simp only [callsClauses, Bool.or_eq_false_iff] at free
    simp only [drawsClauses, methodsOfClauses, source.still_of_calls free.1.1,
      still_of_callsItems conditions free.1.2, still_of_callsClauses clauses free.2]
    exact ⟨rfl, rfl⟩

end

variable {Obj : Type} [HostObject Obj]

lemma eval_of_no_calls {e : Expr} (free : e.calls = false) (s : Scope Obj) :
    ((eval e : EvalM Obj (Value Obj)) s).2 = s :=
  have still := e.still_of_calls free
  eval_unchanged e still.1 still.2 s

/-- The end of both assignments: the operation, and the assignment of what it comes to. -/
def combine (target : Expr) (op : BinaryOp) (old new : Value Obj) : EvalM Obj Unit := do
  assignTo target (← EvalM.ofExcept (binary op old new))

lemma exec_augmented {target value : Expr} {op : AssignOp} {binaryOp : BinaryOp}
    (augmented : op.binary? = some binaryOp) :
    (exec (.assign target op value) : EvalM Obj Unit) =
      eval value >>= fun new => eval target >>= fun old => combine target binaryOp old new := by
  simp only [exec, augmented]
  rfl

lemma exec_expanded {target value : Expr} {op : BinaryOp} (s : Scope Obj) :
    exec (.assign target .set (.binary op target value)) s =
      (eval target >>= fun old => eval value >>= fun new => combine target op old new) s := by
  simp only [exec, eval, bind_apply, AssignOp.binary?, combine]
  rcases (eval target : EvalM Obj (Value Obj)) s with ⟨reason | old, t⟩
  · rfl
  · rcases found : (eval value : EvalM Obj (Value Obj)) t with ⟨reason | new, u⟩
    · simp only [found]
    · simp only [found]

omit [HostObject Obj] in
/-- It does not matter which of two computations comes first, if both leave a scope as it is; only the
reason of a failure is that of the first one to fail. -/
lemma bind_swap {α β γ : Type} {first : EvalM Obj α} {second : EvalM Obj β} {s : Scope Obj}
    (leaves : (first s).2 = s) (leaves' : (second s).2 = s) (next : α → β → EvalM Obj γ) :
    ((first >>= fun a => second >>= fun b => next a b) s).2 =
        ((second >>= fun b => first >>= fun a => next a b) s).2 ∧
      ∀ c, ((first >>= fun a => second >>= fun b => next a b) s).1 = .ok c ↔
        ((second >>= fun b => first >>= fun a => next a b) s).1 = .ok c := by
  rcases ran : (first s : Except EvalError α × Scope Obj) with ⟨a, t⟩
  rcases ran' : (second s : Except EvalError β × Scope Obj) with ⟨b, u⟩
  rw [ran] at leaves
  rw [ran'] at leaves'
  obtain rfl : t = s := leaves
  obtain rfl : u = t := leaves'
  -- Where both succeed the same follows in the same scope; else neither way succeeds.
  cases a <;> cases b <;> simp [bind_apply, ran, ran']

/-- An expression that calls nothing leaves a scope as it is, with its generator, also if it fails. So an
augmented assignment succeeds if the assignment of the operation does, and in any case both leave the same
scope. -/
theorem augmented_agrees_with_expansion (s : Scope Obj) :
    (∀ e : Expr, e.calls = false → ((eval e : EvalM Obj (Value Obj)) s).2 = s) ∧
    ∀ (op : AssignOp) (binaryOp : BinaryOp) (target value : Expr), op.binary? = some binaryOp →
      target.calls = false → value.calls = false →
      (exec (.assign target op value) s).2 =
          (exec (.assign target .set (.binary binaryOp target value)) s).2 ∧
        ((exec (.assign target op value) s).1 = .ok () ↔
          (exec (.assign target .set (.binary binaryOp target value)) s).1 = .ok ()) := by
  refine ⟨fun e free => eval_of_no_calls free s, ?_⟩
  intro op binaryOp target value augmented freeTarget freeValue
  rw [exec_augmented augmented, exec_expanded]
  have swapped := bind_swap (eval_of_no_calls freeValue s) (eval_of_no_calls freeTarget s)
    fun new old => combine target binaryOp old new
  exact ⟨swapped.1, swapped.2 ()⟩

end Script

namespace Toybox

open Script

/-- An item of a list, under an index from another list. -/
def pickedScore : Expr :=
  .index (.name "scores") (.index (.name "picks") (.lit (.int 0)))

/-- The first number of a list that is not zero. -/
def firstBonus : Expr :=
  .index (.listComp (.name "n") [.mk ["n"] (.name "bonus") [.name "n"]]) (.lit (.int 0))

/-- A number is added to an item in both ways. -/
theorem bonus_added_either_way :
    pickedScore.calls = false ∧ firstBonus.calls = false ∧
    exec (.assign pickedScore .set (.binary .add pickedScore firstBonus))
        (desk [("scores", .list [.int 10, .int 20]), ("picks", .list [.int 1]),
          ("bonus", .list [.int 0, .int 5])]) =
      (.ok (), desk [("scores", .list [.int 10, .int 25]), ("picks", .list [.int 1]),
        ("bonus", .list [.int 0, .int 5])]) := by
  have agree := (augmented_agrees_with_expansion (desk [("scores", .list [.int 10, .int 20]),
    ("picks", .list [.int 1]), ("bonus", .list [.int 0, .int 5])])).2 .add .add pickedScore firstBonus
      rfl rfl rfl
  exact ⟨rfl, rfl, Prod.ext (agree.2.mp rfl) (agree.1.symm.trans rfl)⟩

/-- Two missing variables are missed in different order. -/
example : (exec (.assign (.name "score") .add (.name "bonus")) (desk [])).1 =
      .error (.undefinedName "bonus") ∧
    (exec (.assign (.name "score") .set (.binary .add (.name "score") (.name "bonus"))) (desk [])).1 =
      .error (.undefinedName "score") :=
  ⟨rfl, rfl⟩

end Toybox

end BranchingStory
