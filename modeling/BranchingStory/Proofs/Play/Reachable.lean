import Mathlib.Tactic.Lemma
import BranchingStory.Play.Game

/-!
# Reachable games

The games that moves lead to from the beginning of a story, and what no move changes: the story, the
host and the names that it offers. A move that steps through passages is split into its departure (the
session that it goes on from, the first passage and its call) and the chain that is followed from there.
-/

namespace BranchingStory

variable {Obj : Type} [HostObject Obj]

/-- The games of a story and a host: those at their beginning, with any seed and variables, and those
behind a move, also behind one that was refused. -/
inductive Game.Reachable (story : Story) (registry : Registry Obj) : Game Obj → Prop where
  | start {seed vars g} :
    Game.start? story registry seed vars = .ok g →
    Reachable story registry g
  | move {g} (m : Move Obj) :
    Reachable story registry g →
    Reachable story registry (g.move m).2

/-- The game in front of the first passage of a story. -/
def Game.opening (story : Story) (registry : Registry Obj) (seed : UInt64) (vars : Vars Obj) :
    Game Obj :=
  { story
    registry
    bindings := (registry.bindings story.imports).1
    importWarnings := (registry.bindings story.imports).2
    session := ⟨vars, [], Generator.ofSeed seed, none⟩ }

lemma Game.Reachable.opening {story : Story} (registry : Registry Obj) (seed : UInt64) (vars : Vars Obj)
    (checked : story.check.isOk) :
    Reachable story registry (Game.opening story registry seed vars) := by
  refine .start (?_ : Game.start? story registry seed vars = _)
  unfold Game.start?
  cases ok : story.check with
  | error fault =>
    rw [ok] at checked
    cases checked
  | ok _ => rfl

def Move.isStep : Move Obj → Bool
  | .start | .enter .. | .choose _ => true
  | .submit _ | .setVar .. | .load _ => false

structure Departure (Obj : Type) where
  session : Session Obj
  id : String
  call : CallArgs Obj

/-- The session after taking an open choice: a one-shot choice is marked as taken. -/
def Session.take (s : Session Obj) (choice : OfferedChoice Obj) : Session Obj :=
  if choice.oneShot then s.consume choice.key else s

/-- The departure of a move that steps through passages. -/
inductive Game.Departs (g : Game Obj) : Move Obj → Departure Obj → Prop where
  | start :
    Departs g .start ⟨g.session, g.story.initial, CallArgs.none⟩
  | enter (id : String) (call : CallArgs Obj) :
    Departs g (.enter id call) ⟨g.session, id, call⟩
  | choose {index output choice} :
    g.current = .ok output →
    output.choices[index]? = some choice →
    Departs g (.choose index) ⟨g.session.take choice, choice.target, choice.args⟩

def Game.follow (g : Game Obj) (d : Departure Obj) : Except PlayError (Chain Obj × Session Obj) :=
  BranchingStory.follow g.story g.bindings [] d.id d.call d.session

/-- A session at the end of a chain. -/
def Session.arrive (s : Session Obj) (chain : Chain Obj) : Session Obj :=
  { s with position? := some chain.position }

namespace Game

/-- A move puts its session in the place of the old one, or leaves the game alone. -/
lemma move_eq (g : Game Obj) (m : Move Obj) :
    g.move m =
      match g.after m with
      | .ok (session, warnings) => (.ok warnings, { g with session })
      | .error reason => (.error reason, g) := by
  rfl

lemma move_story (g : Game Obj) (m : Move Obj) : (g.move m).2.story = g.story := by
  rw [move_eq]
  cases g.after m <;> rfl

lemma move_registry (g : Game Obj) (m : Move Obj) : (g.move m).2.registry = g.registry := by
  rw [move_eq]
  cases g.after m <;> rfl

lemma move_bindings (g : Game Obj) (m : Move Obj) : (g.move m).2.bindings = g.bindings := by
  rw [move_eq]
  cases g.after m <;> rfl

omit [HostObject Obj] in
/-- A game at its beginning is nowhere and has the names that its host offers to the story. -/
lemma start_eq_ok {story : Story} {registry : Registry Obj} {seed : UInt64} {vars : Vars Obj}
    {g : Game Obj} (h : start? story registry seed vars = .ok g) :
    story.check = .ok () ∧ g.story = story ∧ g.registry = registry ∧
      g.bindings = (registry.bindings story.imports).1 ∧
      g.session = ⟨vars, [], Generator.ofSeed seed, none⟩ := by
  unfold start? at h
  cases checked : story.check with
  | error fault =>
    rw [checked] at h
    cases h
  | ok _ =>
    rw [checked] at h
    cases h
    exact ⟨rfl, rfl, rfl, rfl, rfl⟩

/-- Moves change neither the story nor the host. -/
lemma Reachable.fixed {story : Story} {registry : Registry Obj} {g : Game Obj}
    (reach : Reachable story registry g) :
    g.story = story ∧ g.registry = registry ∧ g.bindings = (registry.bindings story.imports).1 := by
  induction reach with
  | start h =>
    obtain ⟨_, sameStory, sameRegistry, sameBindings, _⟩ := start_eq_ok h
    exact ⟨sameStory, sameRegistry, sameBindings⟩
  | move m _ ih =>
    obtain ⟨sameStory, sameRegistry, sameBindings⟩ := ih
    exact ⟨(move_story _ m).trans sameStory, (move_registry _ m).trans sameRegistry,
      (move_bindings _ m).trans sameBindings⟩

omit [HostObject Obj] in
lemma current_eq_ok {g : Game Obj} {output : Output Obj} (h : g.current = .ok output) :
    ∃ position, g.session.position? = some position ∧ position.output = output := by
  unfold current at h
  cases somewhere : g.session.position? with
  | none =>
    rw [somewhere] at h
    cases h
  | some position =>
    rw [somewhere] at h
    cases h
    exact ⟨position, rfl, rfl⟩

lemma Departs.after_eq {g : Game Obj} {m : Move Obj} {d : Departure Obj} (departs : g.Departs m d) :
    g.after m = (g.follow d).map fun (chain, s) => (s.arrive chain, []) := by
  have advance (s : Session Obj) (id : String) (call : CallArgs Obj) :
      (s.advance g.story g.bindings id call).map (·, ([] : List String)) =
        (g.follow ⟨s, id, call⟩).map fun (chain, s) => (s.arrive chain, []) := by
    unfold Session.advance Game.follow
    cases BranchingStory.follow g.story g.bindings [] id call s <;> rfl
  cases departs with
  | start => exact advance _ _ _
  | enter id call => exact advance _ _ _
  | choose current chosen =>
    rw [← advance]
    simp only [after, Game.choose, current, chosen, Session.take]

/-- A move that steps through passages departs, or else there is no such choice. -/
lemma departs_or_refused (g : Game Obj) {m : Move Obj} (step : m.isStep) :
    (∃ d, g.Departs m d) ∨ ∃ reason, g.after m = .error reason ∧
      (reason = .notStarted ∨ ∃ index available, reason = .noSuchChoice index available) := by
  cases m with
  | start => exact .inl ⟨_, .start⟩
  | enter id call => exact .inl ⟨_, .enter id call⟩
  | choose index =>
    cases current : g.current with
    | error reason =>
      refine .inr ⟨reason, ?_, .inl ?_⟩
      · simp only [after, choose, current, Except.map]
      · unfold Game.current at current
        split at current <;> cases current
        rfl
    | ok output =>
      cases chosen : output.choices[index]? with
      | none =>
        refine .inr ⟨.noSuchChoice index output.choices.length, ?_, .inr ⟨_, _, rfl⟩⟩
        simp only [after, choose, current, chosen, Except.map]
      | some choice => exact .inl ⟨_, .choose current chosen⟩
  | submit | setVar | load => cases step

/-- A step that succeeds has followed a chain, and there are no warnings. -/
lemma step_eq_ok {g g' : Game Obj} {m : Move Obj} {warnings : List String} (step : m.isStep)
    (moved : g.move m = (.ok warnings, g')) :
    ∃ d chain s, g.Departs m d ∧ g.follow d = .ok (chain, s) ∧
      g' = { g with session := s.arrive chain } := by
  rw [move_eq] at moved
  rcases g.departs_or_refused step with ⟨d, departs⟩ | ⟨reason, refused, _⟩
  · rw [departs.after_eq] at moved
    cases followed : g.follow d with
    | error reason =>
      rw [followed] at moved
      cases moved
    | ok result =>
      obtain ⟨chain, s⟩ := result
      rw [followed] at moved
      cases moved
      exact ⟨d, chain, s, departs, followed, rfl⟩
  · rw [refused] at moved
    cases moved

end Game

end BranchingStory
