import Mathlib.Data.List.Basic
import Mathlib.Tactic.Tauto
import BranchingStory.Proofs.Answer
import BranchingStory.Proofs.Assoc
import BranchingStory.Proofs.Script.Computation
import BranchingStory.Play.Session
import BranchingStory.Story.Resolve

/-!
# Calls that fit

The compiler checks the arguments of a link by their number and names, and a step binds the values that
they turn into. The two agree: what passed the check turns into a call that fits the parameters, and
entering a passage with such a call fails in a fragment of the passage or not at all. A call that does
not fit is refused for what is wrong with it.
-/

namespace BranchingStory

open Script

variable {Obj : Type}

/-- The call that arguments with given values make. -/
def CallArgs.of (given : List (Arg × Value Obj)) : CallArgs Obj :=
  given.foldl (fun call (arg, value) => call.add arg.name? value) .none

/-- Whether a call gives each parameter at most one value, no other names, and a value to each parameter
without a default. -/
structure CallFits (params : List Param) (call : CallArgs Obj) : Prop where
  few : call.positional.length ≤ params.length
  known : ∀ name ∈ Assoc.keys call.named, name ∈ params.map (·.name)
  once : ∀ name ∈ (params.map (·.name)).take call.positional.length, name ∉ Assoc.keys call.named
  complete : ∀ p ∈ params.drop call.positional.length, p.default? = none →
    p.name ∈ Assoc.keys call.named

/-- What is wrong with a call for the passage under an id. -/
inductive CallFault (story : Story) (id : String) (call : CallArgs Obj) : NavigationFault → Prop where
  | unknownPassage :
    story.passage? id = none →
    CallFault story id call (.unknownPassage id)
  | tooManyArgs {p} :
    story.passage? id = some p →
    p.params.length < call.positional.length →
    CallFault story id call (.tooManyArgs id p.params.length call.positional.length)
  | unknownParam {p name} :
    story.passage? id = some p →
    name ∈ Assoc.keys call.named →
    name ∉ p.params.map (·.name) →
    CallFault story id call (.unknownParam id name)
  | givenTwice {p name} :
    story.passage? id = some p →
    name ∈ Assoc.keys call.named →
    name ∈ (p.params.map (·.name)).take call.positional.length →
    CallFault story id call (.givenTwice id name)
  | missingParam {p param} :
    story.passage? id = some p →
    param ∈ p.params.drop call.positional.length →
    param.default? = none →
    param.name ∉ Assoc.keys call.named →
    CallFault story id call (.missingParam id param.name)

section Static

/-- Keywords pass the check if each names a parameter behind the positional ones, and no two the same. -/
lemma checkKeywords_eq_ok {target : String} {params : List String} {positional : Nat}
    {seen names : List String} :
    checkKeywords target params positional seen names = .ok () ↔
      (∀ name ∈ names, (name ∈ params ∧ positional ≤ params.idxOf name) ∧ name ∉ seen) ∧ names.Nodup := by
  induction names generalizing seen with
  | nil => exact ⟨fun _ => ⟨nofun, .nil⟩, fun _ => rfl⟩
  | cons name names ih =>
    simp only [checkKeywords, refuse_eq_ok, not_not, Nat.not_lt, ih, List.forall_mem_cons, List.nodup_cons]
    constructor
    · rintro ⟨known, behind, new, others, distinct⟩
      have fresh : name ∉ names := fun again => (others name again).2 List.mem_cons_self
      exact ⟨⟨⟨⟨known, behind⟩, new⟩, fun other later =>
        (others other later).imp_right fun unseen old => unseen (List.mem_cons_of_mem _ old)⟩, fresh, distinct⟩
    · rintro ⟨⟨⟨⟨known, behind⟩, new⟩, others⟩, fresh, distinct⟩
      refine ⟨known, behind, new, fun other later => (others other later).imp_right fun unseen old => ?_, distinct⟩
      rcases List.mem_cons.mp old with rfl | before
      · exact fresh later
      · exact unseen before

lemma checkArity_eq_ok {target : String} {params : List Param} {args : List Arg} :
    checkArity target params args = .ok () ↔
      positionalCount args ≤ params.length ∧
        ((∀ name ∈ keywordNames args, name ∈ params.map (·.name) ∧
          positionalCount args ≤ (params.map (·.name)).idxOf name) ∧ (keywordNames args).Nodup) ∧
        ∀ p ∈ params.drop (positionalCount args), p.default? = none → p.name ∈ keywordNames args := by
  have complete : missingParam? params (positionalCount args) (keywordNames args) = none ↔
      ∀ p ∈ params.drop (positionalCount args), p.default? = none → p.name ∈ keywordNames args := by
    refine List.find?_eq_none.trans (forall₂_congr fun p _ => ?_)
    simp only [Bool.and_eq_true, Option.isNone_iff_eq_none, Bool.not_eq_true', List.contains_eq_mem,
      decide_eq_false_iff_not, not_and, not_not]
  unfold checkArity
  simp only [check_eq_ok, bind_eq_ok, Nat.not_lt, ← complete]
  constructor
  · rintro ⟨few, _, keywords, given⟩
    obtain ⟨known, distinct⟩ := checkKeywords_eq_ok.mp keywords
    refine ⟨few, ⟨fun name member => (known name member).1, distinct⟩, ?_⟩
    split at given
    · cases given
    · next absent => exact absent
  · rintro ⟨few, ⟨known, distinct⟩, absent⟩
    refine ⟨few, (), checkKeywords_eq_ok.mpr ⟨fun name member => ?_, distinct⟩, ?_⟩
    · exact ⟨known name member, List.not_mem_nil⟩
    · rw [absent]
      rfl

/-- The call of arguments has their shape: one value for each positional argument, and the names of the
others. -/
lemma foldl_add_shape (given : List (Arg × Value Obj)) (call : CallArgs Obj) :
    let call' := given.foldl (fun call (arg, value) => call.add arg.name? value) call
    call'.positional.length = call.positional.length + positionalCount (given.map (·.1)) ∧
      ∀ name, name ∈ Assoc.keys call'.named ↔
        name ∈ Assoc.keys call.named ∨ name ∈ keywordNames (given.map (·.1)) := by
  induction given generalizing call with
  | nil => exact ⟨rfl, fun name => by simp [keywordNames]⟩
  | cons entry given ih =>
    obtain ⟨⟨name?, code⟩, value⟩ := entry
    obtain ⟨length, names⟩ := ih (call.add name? value)
    cases name? with
    | none =>
      constructor
      · have more : (call.add none value).positional.length = call.positional.length + 1 := List.length_append
        rw [List.foldl_cons, length, more, Nat.add_assoc]
        simp only [List.map_cons, positionalCount, List.filter_cons, Option.isNone_none, if_true,
          List.length_cons, Nat.add_comm 1]
      · intro name
        rw [List.foldl_cons, names]
        exact Iff.rfl
    | some key =>
      constructor
      · rw [List.foldl_cons, length]
        simp only [CallArgs.add, List.map_cons, positionalCount, List.filter_cons, Option.isNone_some,
          Bool.false_eq_true, if_false]
      · intro name
        rw [List.foldl_cons, names]
        simp only [CallArgs.add, List.map_cons, keywordNames, List.filterMap_cons, Assoc.mem_keys_insert,
          List.mem_cons]
        tauto

lemma CallArgs.length_of (given : List (Arg × Value Obj)) :
    (CallArgs.of given).positional.length = positionalCount (given.map (·.1)) :=
  (foldl_add_shape given .none).1.trans (Nat.zero_add _)

lemma CallArgs.mem_keys_of (given : List (Arg × Value Obj)) (name : String) :
    name ∈ Assoc.keys (CallArgs.of given).named ↔ name ∈ keywordNames (given.map (·.1)) := by
  have absent : name ∉ Assoc.keys (CallArgs.none : CallArgs Obj).named := List.not_mem_nil
  exact ((foldl_add_shape given .none).2 name).trans (or_iff_right absent)

/-- Arguments that passed the check make a call that fits. -/
lemma callFits_of {target : String} {params : List Param} {given : List (Arg × Value Obj)}
    (checked : checkArity target params (given.map (·.1)) = .ok ()) : CallFits params (.of given) := by
  obtain ⟨few, ⟨keywords, _⟩, complete⟩ := checkArity_eq_ok.mp checked
  constructor
  case few => rwa [CallArgs.length_of]
  case known =>
    intro name member
    exact (keywords name ((CallArgs.mem_keys_of given name).mp member)).1
  case once =>
    intro name taken member
    obtain ⟨known, behind⟩ := keywords name ((CallArgs.mem_keys_of given name).mp member)
    rw [CallArgs.length_of, List.mem_take_iff_idxOf_lt known] at taken
    omega
  case complete =>
    intro p member noDefault
    rw [CallArgs.length_of] at member
    exact (CallArgs.mem_keys_of given p.name).mpr (complete p member noDefault)

/-- Arguments whose keywords differ pass the check just if the call that they make fits. -/
lemma checkArity_iff_callFits {target : String} {params : List Param} {given : List (Arg × Value Obj)}
    (distinct : (keywordNames (given.map (·.1))).Nodup) :
    checkArity target params (given.map (·.1)) = .ok () ↔ CallFits params (.of given) := by
  refine ⟨callFits_of, fun fits => checkArity_eq_ok.mpr ⟨?few, ⟨?known, distinct⟩, ?complete⟩⟩
  case few => exact CallArgs.length_of given ▸ fits.few
  case known =>
    intro name member
    have given' := (CallArgs.mem_keys_of given name).mpr member
    refine ⟨fits.known name given', Nat.le_of_not_lt fun before => ?_⟩
    rw [← CallArgs.length_of, ← List.mem_take_iff_idxOf_lt (fits.known name given')] at before
    exact fits.once name before given'
  case complete =>
    intro p member noDefault
    rw [← CallArgs.length_of] at member
    exact (CallArgs.mem_keys_of given p.name).mp (fits.complete p member noDefault)

end Static

section Evaluation

variable [HostObject Obj]

/-- Evaluated arguments turn into the call that their values make. -/
lemma evalArgs_eq_of {call : CallArgs Obj} {args : List Arg} {s s' : Scope Obj}
    (evaluated : evalArgs CallArgs.none args s = (.ok call, s')) :
    ∃ given, given.map (·.1) = args ∧ call = .of given := by
  unfold CallArgs.of
  generalize CallArgs.none = start at evaluated ⊢
  induction args generalizing start s with
  | nil =>
    cases evaluated
    exact ⟨[], rfl, rfl⟩
  | cons arg args ih =>
    unfold evalArgs at evaluated
    rcases value : (evalSource arg.expr s : Except EvalError (Value Obj) × Scope Obj) with ⟨reason | v, s₁⟩
    · simp only [value] at evaluated
      cases evaluated
    · simp only [value] at evaluated
      obtain ⟨given, same, rfl⟩ := ih _ evaluated
      exact ⟨(arg, v) :: given, congrArg (arg :: ·) same, rfl⟩

/-- Arguments that passed the check turn into a call that fits. -/
theorem callFits_of_checkArity {target : String} {params : List Param} {args : List Arg}
    {call : CallArgs Obj} {s s' : Scope Obj} (checked : checkArity target params args = .ok ())
    (evaluated : evalArgs CallArgs.none args s = (.ok call, s')) : CallFits params call := by
  obtain ⟨given, rfl, rfl⟩ := evalArgs_eq_of evaluated
  exact callFits_of checked

omit [HostObject Obj] in
/-- Checking a call by itself refuses it for what is wrong with it. -/
lemma checkCall_error {story : Story} {p : Passage} (found : story.passage? p.id = some p)
    {call : CallArgs Obj} {fault : NavigationFault} (refused : p.checkCall call = .error fault) :
    CallFault story p.id call fault := by
  unfold Passage.checkCall at refused
  simp only at refused
  split at refused
  · next many =>
    cases refused
    exact .tooManyArgs found many
  · split at refused
    · next name unknown =>
      cases refused
      refine .unknownParam found (List.mem_of_find?_eq_some unknown) ?_
      simpa using List.find?_some unknown
    · split at refused
      · next name twice =>
        cases refused
        refine .givenTwice found ?_ (List.mem_of_find?_eq_some twice)
        exact Assoc.contains_iff.mp (List.find?_some twice)
      · cases refused

omit [HostObject Obj] in
lemma fragment_error {α : Type} {passage code : String} {computation : EvalM Obj α}
    {scope scope' : Scope Obj} {reason : PlayError}
    (failed : EntryM.fragment passage code computation scope = (.error reason, scope')) :
    ∃ cause, reason = .evaluation passage code cause := by
  unfold EntryM.fragment at failed
  rcases evaluated : (computation scope : Except EvalError α × Scope Obj) with ⟨cause | a, s⟩
  · simp only [evaluated] at failed
    cases failed
    exact ⟨cause, rfl⟩
  · simp only [evaluated] at failed
    cases failed

/-- Binding parameters fails in a default, or for a parameter that has none and is not given. -/
lemma bindParams_error {passage : String} {params : List Param} {positional : List (Value Obj)}
    {named : List (String × Value Obj)} {scope scope' : Scope Obj} {reason : PlayError}
    (names : (params.map (·.name)).Nodup)
    (failed : bindParams passage params positional named scope = (.error reason, scope')) :
    (∃ code cause, reason = .evaluation passage code cause) ∨
      ∃ p ∈ params.drop positional.length, p.default? = none ∧ p.name ∉ Assoc.keys named ∧
        reason = .navigation (.missingParam passage p.name) := by
  induction params generalizing positional named scope with
  | nil => cases failed
  | cons p params ih =>
    rw [List.map_cons, List.nodup_cons] at names
    obtain ⟨fresh, names⟩ := names
    cases positional with
    | cons value positional =>
      unfold bindParams at failed
      rw [bind_apply] at failed
      exact ih names failed
    | nil =>
      cases given : Assoc.get? named p.name with
      | some value =>
        simp only [bindParams, given, bind_apply] at failed
        rcases ih names failed with inDefault | ⟨q, member, noDefault, absent, same⟩
        · exact .inl inDefault
        · -- Taking out the value of the first parameter hides no other one, as their names differ.
          have other : q.name ≠ p.name := by
            intro clash
            rw [List.length_nil, List.drop_zero] at member
            exact fresh (clash ▸ List.mem_map_of_mem member)
          rw [← Assoc.get?_isSome_iff, Assoc.get?_erase_ne other, Assoc.get?_isSome_iff] at absent
          exact .inr ⟨q, List.mem_cons_of_mem _ member, noDefault, absent, same⟩
      | none =>
        cases default : p.default? with
        | some code =>
          simp only [bindParams, given, default] at failed
          rcases bind_eq_error failed with value | ⟨v, s, _, failed⟩
          · obtain ⟨cause, same⟩ := fragment_error value
            exact .inl ⟨code, cause, same⟩
          · rcases ih names failed with inDefault | ⟨q, member, missing⟩
            · exact .inl inDefault
            · exact .inr ⟨q, List.mem_cons_of_mem _ member, missing⟩
        | none =>
          simp only [bindParams, given, default, EntryM.refuse] at failed
          cases failed
          refine .inr ⟨p, List.mem_cons_self, default, ?_, rfl⟩
          rw [← Assoc.get?_isSome_iff, given]
          exact nofun

lemma runCommands_error {passage : String} {commands : List Command} {scope scope' : Scope Obj}
    {reason : PlayError} (failed : runCommands passage commands scope = (.error reason, scope')) :
    ∃ code cause, reason = .evaluation passage code cause := by
  induction commands generalizing scope with
  | nil => cases failed
  | cons command commands ih =>
    unfold runCommands at failed
    rcases bind_eq_error failed with ran | ⟨_, s, _, failed⟩
    · exact ⟨command.source, fragment_error ran⟩
    · exact ih failed

/-- Entering a passage fails in one of its fragments, or for what is wrong with the call. -/
theorem enter_error {story : Story} {p : Passage} (found : story.passage? p.id = some p)
    (names : (p.params.map (·.name)).Nodup) {call : CallArgs Obj} {scope scope' : Scope Obj}
    {reason : PlayError} (failed : p.enter call scope = (.error reason, scope')) :
    (∃ code cause, reason = .evaluation p.id code cause) ∨
      ∃ fault, CallFault story p.id call fault ∧ reason = .navigation fault := by
  unfold Passage.enter at failed
  cases checked : p.checkCall call with
  | error fault =>
    simp only [checked, bind_apply, EntryM.refuse] at failed
    cases failed
    exact .inr ⟨fault, checkCall_error found checked, rfl⟩
  | ok _ =>
    simp only [checked] at failed
    rcases bind_eq_error failed with bound | ⟨_, s, _, failed⟩
    · rcases bindParams_error names bound with inDefault | ⟨param, member, noDefault, absent, rfl⟩
      · exact .inl inDefault
      · exact .inr ⟨_, .missingParam found member noDefault absent, rfl⟩
    · exact .inl (runCommands_error failed)

omit [HostObject Obj] in
lemma CallFits.no_fault {story : Story} {p : Passage} (found : story.passage? p.id = some p)
    {call : CallArgs Obj} (fits : CallFits p.params call) {fault : NavigationFault}
    (wrong : CallFault story p.id call fault) : False := by
  cases wrong with
  | unknownPassage absent =>
    rw [found] at absent
    cases absent
  | tooManyArgs here many =>
    rw [found] at here
    cases here
    exact Nat.not_lt_of_le fits.few many
  | unknownParam here member unknown =>
    rw [found] at here
    cases here
    exact unknown (fits.known _ member)
  | givenTwice here member taken =>
    rw [found] at here
    cases here
    exact fits.once _ taken member
  | missingParam here member noDefault absent =>
    rw [found] at here
    cases here
    exact absent (fits.complete _ member noDefault)

end Evaluation

end BranchingStory
