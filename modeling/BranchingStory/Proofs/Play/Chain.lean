import Mathlib.Tactic.Lemma
import BranchingStory.Play.Session

/-!
# Hops and chains

What the success of one hop and of a whole chain says: which passage was entered and rendered, in which
scope, and what is left of the session.
-/

namespace BranchingStory

variable {Obj : Type} [HostObject Obj]

def Session.entryScope (s : Session Obj) (bindings : Bindings Obj) : Scope Obj :=
  Scope.start .owned s.vars [] s.generator bindings

/-- What a passage brings forth with given variables, arguments and generator, and the generator
afterwards. -/
def Passage.shown (p : Passage) (consumed : List String) (vars args : Vars Obj) (generator : Generator)
    (bindings : Bindings Obj) : Rendered Obj × Generator :=
  let (rendered, after) := p.render consumed (Scope.start .shared vars args generator bindings)
  (rendered, after.generator)

/-- A hop enters its passage and shows it with what the commands left behind. -/
lemma hop_eq (bindings : Bindings Obj) (id : String) (p : Passage) (call : CallArgs Obj)
    (s : Session Obj) :
    hop bindings id p call s =
      match (p.enter call (s.entryScope bindings) : Except PlayError Unit × Scope Obj) with
      | (.error reason, _) => .error reason
      | (.ok (), scope) =>
        let shown := p.shown s.consumed scope.state scope.base scope.generator bindings
        .ok (⟨id, scope.base, shown.1⟩, { s with vars := scope.state, generator := shown.2 }) := by
  rfl

lemma hop_eq_ok {bindings : Bindings Obj} {id : String} {p : Passage} {call : CallArgs Obj}
    {s s' : Session Obj} {stop : Hop Obj} (hopped : hop bindings id p call s = .ok (stop, s')) :
    ∃ scope : Scope Obj,
      p.enter call (s.entryScope bindings) = (.ok (), scope) ∧
      stop = ⟨id, scope.base, (p.shown s.consumed scope.state scope.base scope.generator bindings).1⟩ ∧
      s' = { s with
        vars := scope.state
        generator := (p.shown s.consumed scope.state scope.base scope.generator bindings).2 } := by
  rw [hop_eq] at hopped
  rcases entered : (p.enter call (s.entryScope bindings) : Except PlayError Unit × Scope Obj)
    with ⟨reason | _, scope⟩
  · rw [entered] at hopped
    cases hopped
  · rw [entered] at hopped
    cases hopped
    exact ⟨scope, rfl, rfl, rfl⟩

lemma hop_eq_error {bindings : Bindings Obj} {id : String} {p : Passage} {call : CallArgs Obj}
    {s : Session Obj} {reason : PlayError} (failed : hop bindings id p call s = .error reason) :
    ∃ scope : Scope Obj, p.enter call (s.entryScope bindings) = (.error reason, scope) := by
  rw [hop_eq] at failed
  rcases entered : (p.enter call (s.entryScope bindings) : Except PlayError Unit × Scope Obj)
    with ⟨reason' | _, scope⟩
  · rw [entered] at failed
    cases failed
    exact ⟨scope, rfl⟩
  · rw [entered] at failed
    cases failed

lemma hop_id {bindings : Bindings Obj} {id : String} {p : Passage} {call : CallArgs Obj}
    {s s' : Session Obj} {stop : Hop Obj} (hopped : hop bindings id p call s = .ok (stop, s')) :
    stop.id = id := by
  obtain ⟨scope, _, rfl, _⟩ := hop_eq_ok hopped
  rfl

section Following

variable {story : Story} {bindings : Bindings Obj} {visited : List String} {id : String}
    {call : CallArgs Obj}
  {s : Session Obj}

lemma follow_seen (seen : id ∈ visited) :
    follow story bindings visited id call s = .error (.navigation (.jumpCycle (visited ++ [id]))) := by
  rw [follow, dif_pos seen]

lemma follow_absent (new : id ∉ visited) (absent : story.passage? id = none) :
    follow story bindings visited id call s = .error (.navigation (.unknownPassage id)) := by
  rw [follow, dif_neg new]
  split
  · rfl
  · next p found =>
    rw [absent] at found
    cases found

/-- A chain hops through its first passage and goes on behind a jump. -/
lemma follow_found (new : id ∉ visited) {p : Passage} (found : story.passage? id = some p) :
    follow story bindings visited id call s =
      match hop bindings id p call s with
      | .error reason => .error reason
      | .ok (stop, s) =>
        match stop.rendered.jump? with
        | none => .ok (⟨[], stop⟩, s)
        | some jump =>
          match follow story bindings (visited ++ [id]) jump.target jump.args s with
          | .error reason => .error reason
          | .ok (chain, s) => .ok (chain.cons stop, s) := by
  rw [follow, dif_neg new]
  split
  · next absent =>
    rw [found] at absent
    cases absent
  · next q found' =>
    rw [found] at found'
    cases found'
    rfl

/-- The last passage of a chain does not jump, and shows what the session at the end lets it show. -/
lemma follow_last {s' : Session Obj} {chain : Chain Obj}
    (followed : follow story bindings visited id call s = .ok (chain, s')) :
    ∃ p generator, story.passage? chain.last.id = some p ∧ chain.last.rendered.jump? = none ∧
      chain.last.rendered = (p.shown s'.consumed s'.vars chain.last.args generator bindings).1 := by
  fun_induction follow story bindings visited id call s generalizing chain s' with
  | case1 | case2 | case3 | case5 => cases followed
  | case4 visited id call s new p found stop s₁ hopped stays =>
    cases followed
    obtain ⟨scope, entered, rfl, rfl⟩ := hop_eq_ok hopped
    exact ⟨p, scope.generator, found, stays, rfl⟩
  | case6 visited id call s new p found stop s₁ hopped jump jumps chain' s₂ later ih =>
    cases followed
    have atEnd := ih later
    exact atEnd

/-- A chain takes no choices. -/
lemma follow_consumed {s' : Session Obj} {chain : Chain Obj}
    (followed : follow story bindings visited id call s = .ok (chain, s')) :
    s'.consumed = s.consumed := by
  fun_induction follow story bindings visited id call s generalizing chain s' with
  | case1 | case2 | case3 | case5 => cases followed
  | case4 visited id call s new p found stop s₁ hopped stays =>
    cases followed
    obtain ⟨scope, _, _, rfl⟩ := hop_eq_ok hopped
    rfl
  | case6 visited id call s new p found stop s₁ hopped jump jumps chain' s₂ later ih =>
    cases followed
    obtain ⟨scope, _, _, rfl⟩ := hop_eq_ok hopped
    exact ih later

end Following

end BranchingStory
