import BranchingStory.Proofs.Play.Submitted

/-!
# What the commands of a passage can write

Commands run in the frame of their passage, over the session variables. A parameter stands in front of the
session variable of its name, so that no command reaches that one, neither by an assignment nor by a method
that works in place. Of the other session variables a command writes those that it names as the root of its
target or of such a receiver.
-/

namespace BranchingStory

open Script Scope

variable {Obj : Type}

namespace Script

/-- The methods that are called anywhere in a statement, each with the expression of its receiver. -/
def Stmt.methods : Stmt → List (Expr × String)
  | .assign target _ value => target.methods ++ value.methods
  | .expr e => e.methods

/-- Whether a statement may write a session variable: the variable is the root of its target, or of the
receiver of a method that works in place. Of objects all methods do, so that a variable which is not plain may
be written by any method. -/
inductive Stmt.Writes (plain : Prop) (name : String) : Stmt → Prop where
  | target {target op value} :
    target.root? = some name →
    Writes plain name (.assign target op value)
  | receiver {stmt : Stmt} {called} :
    called ∈ stmt.methods →
    called.1.root? = some name →
    (plain → worksInPlace called.2) →
    Writes plain name stmt

end Script

/-- Whether the statement of a command may write a session variable. -/
def Command.Writes (plain : Prop) (name : String) (c : Command) : Prop :=
  ∃ stmt, Stmt.read c.source.toList = .ok stmt ∧ stmt.Writes plain name

namespace Scope

variable {name : String} {s t : Scope Obj}

/-- What no statement can change if the base frame has a variable: the frame keeps it, and the session
variable of the same name stays as it is. -/
structure Guards (name : String) (s t : Scope Obj) : Prop extends Spared s t where
  stays : name ∈ Assoc.keys s.base → name ∈ Assoc.keys t.base
  hidden : name ∈ Assoc.keys s.base → Assoc.get? t.state name = Assoc.get? s.state name

/-- A session variable is as it was. -/
structure Unwritten (name : String) (s t : Scope Obj) : Prop extends Spared s t where
  same : Assoc.get? t.state name = Assoc.get? s.state name

instance : IsPreorder (Scope Obj) (Guards name) where
  refl s := ⟨refl_of Spared s, id, fun _ => rfl⟩
  trans s t u first second := by
    refine ⟨trans_of Spared first.toSpared second.toSpared, second.stays ∘ first.stays, fun here => ?_⟩
    exact (second.hidden (first.stays here)).trans (first.hidden here)

instance : IsPreorder (Scope Obj) (Unwritten name) where
  refl s := ⟨refl_of Spared s, rfl⟩
  trans _ _ _ first second :=
    ⟨trans_of Spared first.toSpared second.toSpared, second.same.trans first.same⟩

lemma mem_base_changeVariable {α : Type} (s : Scope Obj) (other : String) (change : Change Obj α)
    (here : name ∈ Assoc.keys s.base) : name ∈ Assoc.keys (s.changeVariable other change).2.base := by
  unfold changeVariable
  split
  · exact here
  · split
    · exact Assoc.mem_keys_insert.mpr (.inr here)
    · exact Assoc.mem_keys_insert.mpr (.inr here)
    · exact here
    · exact here

lemma guards_changeVariable {α : Type} (s : Scope Obj) (other : String) (change : Change Obj α) :
    Guards name s (s.changeVariable other change).2 := by
  refine ⟨(kept_changeVariable s other change).toSpared, mem_base_changeVariable s other change,
    fun here => ?_⟩
  by_cases same : other = name
  · subst same
    have covers : s.Covers other :=
      List.mem_flatMap.mpr ⟨s.base, List.mem_append_right _ List.mem_cons_self, here⟩
    rw [changeVariable_state change (.inl covers)]
  · exact changeVariable_other change same

/-- An assignment goes to the variable of the frame, if there is one. -/
lemma guards_assign (s : Scope Obj) (other : String) (value : Value Obj) :
    Guards name s (s.assign other value) := by
  refine ⟨spared_assign s other value, fun here => ?_, fun here => ?_⟩
  · unfold assign
    split
    · exact here
    · split
      · exact Assoc.mem_keys_insert.mpr (.inr here)
      · split
        · exact here
        · exact Assoc.mem_keys_insert.mpr (.inr here)
  · unfold assign
    split
    · rfl
    · split
      · rfl
      · next absent =>
        split
        · have ne : name ≠ other := fun same => absent (Assoc.contains_iff.mpr (same ▸ here))
          rw [Assoc.get?_insert, if_neg ne]
        · rfl

instance : ExecClosed (@Guards Obj name) where
  draw _ _ := ⟨⟨rfl, rfl, fun _ => rfl⟩, id, fun _ => rfl⟩
  outside _ _ guards framed :=
    have ⟨opened, spared⟩ := guards.toSpared.outside framed
    ⟨opened, spared, guards.stays, guards.hidden⟩
  change := guards_changeVariable
  assign := guards_assign

instance : FrameClosed (@Unwritten Obj name) where
  draw _ _ := ⟨⟨rfl, rfl, fun _ => rfl⟩, rfl⟩
  outside _ _ unwritten framed :=
    have ⟨opened, spared⟩ := unwritten.toSpared.outside framed
    ⟨opened, spared, unwritten.same⟩

lemma unwritten_changeVariable {α : Type} (s : Scope Obj) {other : String} (ne : other ≠ name)
    (change : Change Obj α) : Unwritten name s (s.changeVariable other change).2 :=
  ⟨(kept_changeVariable s other change).toSpared, changeVariable_other change ne⟩

lemma unwritten_assign (s : Scope Obj) {other : String} (ne : other ≠ name) (value : Value Obj) :
    Unwritten name s (s.assign other value) := by
  refine ⟨spared_assign s other value, ?_⟩
  unfold assign
  split
  · rfl
  · split
    · rfl
    · split
      · rw [Assoc.get?_insert, if_neg ne.symm]
      · rfl

end Scope

/-! ## Statements -/

namespace Script

variable [HostObject Obj] {name : String}

lemma changePlace_unwritten {α : Type} {base : Expr} (root : base.root? ≠ some name)
    (ofPlace : Leaves (Unwritten name) (evalPlace base [] : EvalM Obj (Place Obj)))
    (change : Change Obj α) :
    Leaves (Unwritten name) (do
      let place ← evalPlace base []
      EvalM.step fun s => s.changePlace place change : EvalM Obj α) := by
  intro s
  have here := ofPlace s
  rw [bind_apply]
  rcases evaluated : (evalPlace base [] s : Except EvalError (Place Obj) × Scope Obj)
    with ⟨reason | place, t⟩
  · rw [evaluated] at here
    exact here
  · rw [evaluated] at here
    refine trans_of (Unwritten name) here (unwritten_changeVariable t (fun same => root ?_) _)
    rw [root?_of_evalPlace base evaluated, same]

/-- The call of a method changes no variable but that of its receiver. -/
lemma callLeaves_unwritten {called : Expr × String} (root : called.1.root? ≠ some name) :
    CallLeaves (@Unwritten Obj name) called := by
  intro ofReceiver ofPlace args
  refine .bind ofReceiver fun receiver => ?_
  split
  · exact changePlace_unwritten root ofPlace _
  · exact .answer _

lemma assignTo_unwritten {target : Expr} (root : target.root? ≠ some name)
    (silent : ∀ called ∈ target.methods, called.1.root? ≠ some name) (value : Value Obj) :
    Leaves (Unwritten name) (assignTo target value) := by
  have calls {e : Expr} (inside : ∀ called ∈ e.methods, called ∈ target.methods) :
      ∀ called ∈ e.methods, CallLeaves (@Unwritten Obj name) called :=
    fun called member => callLeaves_unwritten (silent called (inside called member))
  cases target with
  | name other => exact fun s => unwritten_assign s (fun same => root (congrArg some same)) value
  | index base index =>
    have ofBase : base.root? ≠ some name := root
    refine .bind (eval_leaves_of index (calls fun _ => List.mem_append_right _)) fun index => ?_
    exact changePlace_unwritten ofBase
      (evalPlace_leaves_of base (calls fun _ => List.mem_append_left _) []) _
  | attr base attr =>
    have ofBase : base.root? ≠ some name := root
    exact changePlace_unwritten ofBase (evalPlace_leaves_of base (calls fun _ => id) []) _
  | _ => exact .answer _

/-- A statement that names a variable neither as the root of its target nor as that of a receiver leaves it as
it is. -/
theorem exec_unwritten (stmt : Stmt) (silent : ∀ called ∈ stmt.methods, called.1.root? ≠ some name)
    (free : ∀ target op value, stmt = .assign target op value → target.root? ≠ some name) :
    Leaves (Unwritten name) (exec stmt : EvalM Obj Unit) := by
  cases stmt with
  | expr e =>
    exact .bind (eval_leaves_of e fun _ member => callLeaves_unwritten (silent _ member)) fun _ => .pure ()
  | assign target op value =>
    obtain ⟨ofTarget, ofValue⟩ := List.forall_mem_append.mp silent
    have root := free target op value rfl
    simp only [exec]
    refine .bind (eval_leaves_of value fun _ member => callLeaves_unwritten (ofValue _ member)) fun value => ?_
    split
    · exact assignTo_unwritten root ofTarget value
    · refine .bind (eval_leaves_of target fun _ member => callLeaves_unwritten (ofTarget _ member)) fun old => ?_
      exact .bind (.answer _) fun result => assignTo_unwritten root ofTarget result

/-- A plain variable is altered by the methods that work in place alone. -/
lemma alters_eq_false {plain : Prop} {stmt : Stmt} (silent : ¬stmt.Writes plain name) (_here : plain) :
    stmt.alters name = false := by
  have gentle {e : Expr} (inside : ∀ called ∈ e.methods, called ∈ stmt.methods) : e.alters name = false := by
    refine List.any_eq_false.mpr fun called member works => ?_
    simp only [Bool.and_eq_true, decide_eq_true_eq] at works
    exact silent (.receiver (inside called member) works.1 fun _ => works.2)
  cases stmt with
  | expr e => exact gentle fun _ => id
  | assign target op value =>
    have ofTarget : target.alters name = false := gentle fun _ => List.mem_append_left _
    have ofValue : value.alters name = false := gentle fun _ => List.mem_append_right _
    simp only [Stmt.alters, ofTarget, ofValue, Bool.or_self]

/-- A statement changes no session variables but those that it writes. -/
lemma exec_silent (stmt : Stmt) (s : Scope Obj) (silent : ¬stmt.Writes (s.Plain name) name) :
    Assoc.get? (s.after (exec stmt : EvalM Obj Unit)).state name = Assoc.get? s.state name := by
  have free (target : Expr) (op : AssignOp) (value : Expr) (same : stmt = .assign target op value) :
      target.root? ≠ some name := by
    subst same
    exact fun root => silent (.target root)
  by_cases plain : s.Plain name
  · have lasts : Lasts name s (s.after (exec stmt : EvalM Obj Unit)) :=
      exec_lasts stmt (alters_eq_false silent plain) free s
    cases access : s.access with
    | owned => exact lasts.keeps.2 access plain
    | shared => rw [lasts.state access]
  · have none : ∀ called ∈ stmt.methods, called.1.root? ≠ some name :=
      fun called member root => silent (.receiver member root fun here => absurd here plain)
    exact (exec_unwritten stmt none free s).same

end Script

/-! ## Commands -/

section Commands

variable [HostObject Obj] {name passage : String}

omit [HostObject Obj] in
lemma fragment_leaves {R : Scope Obj → Scope Obj → Prop} {α : Type} {code : String} {m : EvalM Obj α}
    (leaves : Leaves R m) : Leaves R (EntryM.fragment passage code m) :=
  leaves

/-- Commands change a scope as statements do, also if one of them fails. -/
lemma runCommands_leaves {R : Scope Obj → Scope Obj → Prop} [ExecClosed R] (commands : List Command) :
    Leaves R (runCommands passage commands : EntryM Obj Unit) := by
  induction commands with
  | nil => exact .pure ()
  | cons command commands ih => exact .bind (fragment_leaves (execSource_leaves command.source)) fun _ => ih

lemma command_silent (c : Command) (s : Scope Obj) (silent : ¬c.Writes (s.Plain name) name) :
    Assoc.get? (s.after (execSource c.source : EvalM Obj Unit)).state name = Assoc.get? s.state name := by
  unfold execSource after
  rw [bind_apply]
  cases read : Stmt.read c.source.toList with
  | error reason => rfl
  | ok stmt => exact exec_silent stmt s fun writes => silent ⟨stmt, read, writes⟩

/-- Commands change no session variables but those that one of them writes. -/
theorem runCommands_silent (commands : List Command) (s : Scope Obj)
    (silent : ∀ c ∈ commands, ¬c.Writes (s.Plain name) name) :
    Assoc.get? (s.after (runCommands passage commands : EntryM Obj Unit)).state name =
      Assoc.get? s.state name := by
  induction commands generalizing s with
  | nil => rfl
  | cons command commands ih =>
    obtain ⟨first, later⟩ := List.forall_mem_cons.mp silent
    have here := command_silent command s first
    unfold after at here
    unfold runCommands after
    rw [bind_apply, EntryM.fragment]
    rcases ran : (execSource command.source s : Except EvalError Unit × Scope Obj) with ⟨reason | _, t⟩
    · rw [ran] at here
      exact here
    · rw [ran] at here
      -- What a variable holds tells whether it is plain, so that it still is.
      have plain : t.Plain name = s.Plain name := by
        unfold Plain
        rw [here]
      exact (ih t fun c member => plain ▸ later c member).trans here

end Commands

/-- The arguments of a passage are local: whatever its commands do, and wherever they are cut short, the
session variables with the names of its parameters stay as they are, and any other one that changes or appears
is the root of a target, or of the receiver of a method that works in place, in one of the commands. -/
theorem arguments_stay_local [HostObject Obj] (p : Passage) (commands : List Command) (s : Scope Obj)
    (bound : ∀ q ∈ p.params, q.name ∈ Assoc.keys s.base) :
    let t := s.after (runCommands p.id commands : EntryM Obj Unit)
    (∀ q ∈ p.params, Assoc.get? t.state q.name = Assoc.get? s.state q.name) ∧
      ∀ name, Assoc.get? t.state name ≠ Assoc.get? s.state name →
        ∃ c ∈ commands, c.Writes (s.Plain name) name := by
  constructor
  · intro q member
    have guards : Guards q.name s (s.after (runCommands p.id commands : EntryM Obj Unit)) :=
      runCommands_leaves commands s
    exact guards.hidden (bound q member)
  · intro name changed
    by_contra none
    push Not at none
    exact changed (runCommands_silent commands s none)

/-- A passage with a parameter that is named as a session variable. -/
def treasury : Passage :=
  ⟨"treasury", [⟨"coins", none⟩], [], [], [], []⟩

open Toybox in
/-- The scope of its commands. -/
def inTreasury : Scope Thing where
  access := .owned
  state := [("coins", .list [.int 1, .int 2]), ("bag", .object (.bag []))]
  base := [("coins", .list [.int 9])]
  inner := []
  generator := Generator.ofSeed 7
  bindings := []

/-- Commands of which the last one fails behind the change of an object. -/
def robbery : List Command :=
  [.eval "coins.clear()" 2, .assign "coins" .add "[0]" 3,
    .eval "[coin // (bag.put('key', 0) - 1) for coin in coins]" 4]

open Toybox in
/-- The coins of the session are safe from these commands, and its bag is the receiver of a method. -/
theorem treasury_stays_local :
    (∀ q ∈ treasury.params, q.name ∈ Assoc.keys inTreasury.base) ∧
      ((runCommands treasury.id robbery : EntryM Thing Unit) inTreasury).1.isOk = false ∧
      Assoc.get? (inTreasury.after (runCommands treasury.id robbery : EntryM Thing Unit)).state "coins" =
        Assoc.get? inTreasury.state "coins" ∧
      Assoc.get? (inTreasury.after (runCommands treasury.id robbery : EntryM Thing Unit)).state "bag" ≠
        Assoc.get? inTreasury.state "bag" ∧
      ∃ c ∈ robbery, c.Writes (inTreasury.Plain "bag") "bag" := by
  have bound : ∀ q ∈ treasury.params, q.name ∈ Assoc.keys inTreasury.base := by decide +kernel
  obtain ⟨coins, written⟩ := arguments_stay_local treasury robbery inTreasury bound
  have changed : Assoc.get? (inTreasury.after (runCommands treasury.id robbery : EntryM Thing Unit)).state "bag" ≠
      Assoc.get? inTreasury.state "bag" := by
    intro same
    have sizes := congrArg (Option.bind · fun bag => (bag.readAttr "__len__").toOption.bind Value.asInt?) same
    exact absurd sizes (by decide +kernel)
  exact ⟨bound, by decide +kernel, coins ⟨"coins", none⟩ (by decide +kernel), changed, written "bag" changed⟩

end BranchingStory
