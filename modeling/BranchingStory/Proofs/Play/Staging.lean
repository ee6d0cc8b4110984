import BranchingStory.Host.Toybox
import BranchingStory.Proofs.Script.Computation
import BranchingStory.Proofs.Play.Loading
import BranchingStory.Proofs.Play.Reachable

/-!
# Staged moves

A move in small steps on two sessions: one parameter, one command or one rendering at a time. Every step
changes the staged session, and a fragment that fails leaves there what it had changed before; only the
last step puts the staged session in the place of the live one. These steps come to the result of
`Game.move`, and the live session is the one from before the move until the last of them, so that a
refused move leaves no trace, at whatever depth of the chain it failed.
-/

namespace BranchingStory

open Script

variable {Obj : Type}

/-- What a move does next. -/
inductive Stage (Obj : Type) where
  /-- Goes on to a passage. -/
  | arrive (id : String) (call : CallArgs Obj)
  | bind (id : String) (p : Passage) (params : List Param) (positional : List (Value Obj))
      (named : List (String × Value Obj)) (scope : Scope Obj)
  | execute (id : String) (p : Passage) (commands : List Command) (scope : Scope Obj)
  | render (id : String) (p : Passage) (scope : Scope Obj)
  | restore (saved : SavedGame)
  | redraw (p : Passage) (args : Vars Obj) (warnings : List String)
  | finished (warnings : List String)
  | refused (reason : PlayError)

/-- The answer of a move that has come to its end. -/
def Stage.answer? : Stage Obj → Option (Except PlayError (List String))
  | .finished warnings => some (.ok warnings)
  | .refused reason => some (.error reason)
  | _ => none

lemma Stage.eq_refused_of_answer {stage : Stage Obj} {reason : PlayError}
    (h : stage.answer? = some (.error reason)) : stage = .refused reason := by
  cases stage <;> cases h
  rfl

/-- A move on its way. -/
structure Staging (Obj : Type) where
  live : Session Obj
  /-- The copy that the move works on. -/
  staged : Session Obj
  passed : List (Hop Obj)
  stage : Stage Obj

namespace Staging

def goTo (t : Staging Obj) (stage : Stage Obj) : Staging Obj :=
  { t with stage }

def refuse (t : Staging Obj) (reason : PlayError) : Staging Obj :=
  t.goTo (.refused reason)

/-- Writes what a scope holds into the staged session. -/
def keep (t : Staging Obj) (scope : Scope Obj) : Staging Obj :=
  { t with staged := { t.staged with vars := scope.state, generator := scope.generator } }

/-- Puts the staged session in the place of the live one. -/
def commit (t : Staging Obj) (warnings : List String) : Staging Obj :=
  { t with live := t.staged, stage := .finished warnings }

/-- Runs a computation in a scope. What it changed is kept in the staged session, also if it fails. -/
def run (t : Staging Obj) (scope : Scope Obj) (computation : EntryM Obj Unit)
    (next : Scope Obj → Stage Obj) : Staging Obj :=
  match (computation scope : Except PlayError Unit × Scope Obj) with
  | (.ok (), scope) => (t.keep scope).goTo (next scope)
  | (.error reason, scope) => (t.keep scope).refuse reason

section Steps

variable [HostObject Obj]

def arrive (g : Game Obj) (t : Staging Obj) (id : String) (call : CallArgs Obj) : Staging Obj :=
  let visited := t.passed.map (·.id)
  if id ∈ visited then t.refuse (.navigation (.jumpCycle (visited ++ [id])))
  else
    match g.story.passage? id with
    | none => t.refuse (.navigation (.unknownPassage id))
    | some p =>
      match p.checkCall call with
      | .error fault => t.refuse (.navigation fault)
      | .ok () =>
        t.goTo (.bind id p p.params call.positional call.named
          (Scope.start .owned t.staged.vars [] t.staged.generator g.bindings))

def bindParam (t : Staging Obj) (id : String) (p : Passage) (param : Param) (params : List Param)
    (positional : List (Value Obj)) (named : List (String × Value Obj)) (scope : Scope Obj) :
    Staging Obj :=
  match positional with
  | value :: positional =>
    t.run scope (EntryM.setParam param.name value) (.bind id p params positional named)
  | [] =>
    match Assoc.get? named param.name, param.default? with
    | some value, _ =>
      t.run scope (EntryM.setParam param.name value)
        (.bind id p params [] (Assoc.erase named param.name))
    | none, some code =>
      t.run scope (EntryM.fragment p.id code (evalSource code) >>= EntryM.setParam param.name)
        (.bind id p params [] named)
    | none, none => (t.keep scope).refuse (.navigation (.missingParam p.id param.name))

/-- Renders a passage that was entered; without a jump the move is at its end. -/
def render (g : Game Obj) (t : Staging Obj) (id : String) (p : Passage) (scope : Scope Obj) :
    Staging Obj :=
  let (rendered, after) := p.render t.staged.consumed
    (Scope.start .shared scope.state scope.base scope.generator g.bindings)
  let stop : Hop Obj := ⟨id, scope.base, rendered⟩
  let t := t.keep { scope with generator := after.generator }
  match rendered.jump? with
  | some jump => { t with passed := t.passed ++ [stop], stage := .arrive jump.target jump.args }
  | none => { t with staged := t.staged.arrive ⟨t.passed, stop⟩ }.commit []

def restore (g : Game Obj) (t : Staging Obj) (saved : SavedGame) : Staging Obj :=
  if saved.formatVersion ≠ SavedGame.currentFormat then
    t.refuse (.loading (.badVersion saved.formatVersion SavedGame.currentFormat))
  else
    match g.story.passage? saved.passage with
    | none => t.refuse (.loading (.unknownPassage saved.passage))
    | some p =>
      match g.decodeVars saved.state with
      | .error fault => t.refuse (.loading fault)
      | .ok (vars, ofVars) =>
        match g.decodeVars saved.args with
        | .error fault => t.refuse (.loading fault)
        | .ok (args, ofArgs) =>
          { t with
            staged := ⟨vars, saved.consumed.eraseDups, t.staged.generator, none⟩
            stage := .redraw p args (g.foreign saved ++ ofVars ++ ofArgs) }

def redraw (g : Game Obj) (t : Staging Obj) (p : Passage) (args : Vars Obj) (warnings : List String) :
    Staging Obj :=
  let (rendered, generator) :=
    p.shown t.staged.consumed t.staged.vars args t.staged.generator g.bindings
  let jumps := if rendered.jump?.isSome then [Game.jumpsOnRender p.id] else []
  let position : Position Obj := ⟨p.id, args, Game.outputOf p rendered⟩
  { t with staged := { t.staged with generator, position? := some position } }.commit
    (warnings ++ jumps)

/-- One step of a move; a move at its end stays there. -/
def step (g : Game Obj) (t : Staging Obj) : Staging Obj :=
  match t.stage with
  | .arrive id call => t.arrive g id call
  | .bind id p [] _ _ scope => (t.keep scope).goTo (.execute id p p.execute scope)
  | .bind id p (param :: params) positional named scope =>
    t.bindParam id p param params positional named scope
  | .execute id p [] scope => (t.keep scope).goTo (.render id p scope)
  | .execute id p (command :: commands) scope =>
    t.run scope (EntryM.fragment p.id command.source (execSource command.source))
      (.execute id p commands)
  | .render id p scope => t.render g id p scope
  | .restore saved => t.restore g saved
  | .redraw p args warnings => t.redraw g p args warnings
  | .finished _ | .refused _ => t

def steps (g : Game Obj) : Nat → Staging Obj → Staging Obj
  | 0, t => t
  | n + 1, t => steps g n (t.step g)

/-- Whether steps lead from one point of a move to another. -/
def Leads (g : Game Obj) (t u : Staging Obj) : Prop :=
  ∃ n, t.steps g n = u

end Steps

end Staging

/-- A move before its first step. What a step of the story goes on with is settled here: a choice that
can be taken once is marked as taken in the staged session. -/
def Game.staging (g : Game Obj) : Move Obj → Staging Obj
  | .start => ⟨g.session, g.session, [], .arrive g.story.initial CallArgs.none⟩
  | .enter id call => ⟨g.session, g.session, [], .arrive id call⟩
  | .choose index =>
    match g.current with
    | .error reason => ⟨g.session, g.session, [], .refused reason⟩
    | .ok output =>
      match output.choices[index]? with
      | none => ⟨g.session, g.session, [], .refused (.noSuchChoice index output.choices.length)⟩
      | some choice =>
        ⟨g.session, g.session.take choice, [], .arrive choice.target choice.args⟩
  | .submit values => (⟨g.session, g.session.submit values, [], .finished []⟩ : Staging Obj).commit []
  | .setVar name value =>
    (⟨g.session, g.session.setVar name value, [], .finished []⟩ : Staging Obj).commit []
  | .load saved => ⟨g.session, g.session, [], .restore saved⟩

namespace Staging

lemma goTo_run (t : Staging Obj) (stage : Stage Obj) (scope : Scope Obj) (m : EntryM Obj Unit)
    (next : Scope Obj → Stage Obj) : (t.goTo stage).run scope m next = t.run scope m next := by
  unfold run
  split <;> rfl

lemma keep_run (t : Staging Obj) (scope scope' : Scope Obj) (m : EntryM Obj Unit)
    (next : Scope Obj → Stage Obj) : (t.keep scope).run scope' m next = t.run scope' m next := by
  unfold run
  split <;> rfl

section Leading

variable [HostObject Obj] {g : Game Obj}

lemma steps_add (g : Game Obj) (t : Staging Obj) (m n : Nat) :
    t.steps g (m + n) = (t.steps g m).steps g n := by
  induction m generalizing t with
  | zero => rw [Nat.zero_add]; rfl
  | succ m ih => rw [Nat.succ_add]; exact ih (t.step g)

lemma Leads.refl (t : Staging Obj) : Leads g t t :=
  ⟨0, rfl⟩

lemma Leads.trans {t u v : Staging Obj} (first : Leads g t u) (second : Leads g u v) : Leads g t v := by
  obtain ⟨m, rfl⟩ := first
  obtain ⟨n, rfl⟩ := second
  exact ⟨m + n, steps_add g t m n⟩

lemma Leads.head {t u : Staging Obj} (rest : Leads g (t.step g) u) : Leads g t u := by
  obtain ⟨n, rfl⟩ := rest
  exact ⟨n + 1, rfl⟩

/-- A computation in two parts is two runs, if the stage between them runs the second part. -/
lemma Leads.run_bind {t : Staging Obj} {scope : Scope Obj} {m k : EntryM Obj Unit}
    {between next : Scope Obj → Stage Obj}
    (second : ∀ (t : Staging Obj) scope, Leads g (t.goTo (between scope)) (t.run scope k next)) :
    Leads g (t.run scope m between) (t.run scope (m >>= fun _ => k) next) := by
  unfold run
  rw [bind_apply]
  rcases (m scope : Except PlayError Unit × Scope Obj) with ⟨reason | _, scope'⟩
  · exact .refl _
  · have rest := second (t.keep scope') scope'
    rw [keep_run] at rest
    exact rest

/-- Binding one parameter after the other does what `bindParams` does. -/
lemma leads_bindParams {id : String} {p : Passage} (params : List Param) (positional : List (Value Obj))
    (named : List (String × Value Obj)) (t : Staging Obj) (scope : Scope Obj) :
    Leads g (t.goTo (.bind id p params positional named scope))
      (t.run scope (bindParams p.id params positional named) (.execute id p p.execute)) := by
  -- One step gives the first parameter its value; the rest of the steps bind those behind it.
  induction params generalizing positional named t scope with
  | nil => exact .head (.refl _)
  | cons param params ih =>
    refine .head ?_
    change Leads g ((t.goTo _).bindParam id p param params positional named scope) _
    cases positional with
    | cons value positional =>
      simp only [bindParam, bindParams, goTo_run]
      exact .run_bind fun t scope => ih positional named t scope
    | nil =>
      cases given : Assoc.get? named param.name with
      | some value =>
        simp only [bindParam, bindParams, given, goTo_run]
        exact .run_bind fun t scope => ih [] _ t scope
      | none =>
        cases default : param.default? with
        | some code =>
          simp only [bindParam, bindParams, given, default, goTo_run, ← bind_assoc]
          exact .run_bind fun t scope => ih [] named t scope
        | none =>
          simp only [bindParam, bindParams, given, default]
          exact .refl _

lemma leads_runCommands {id : String} {p : Passage} (commands : List Command) (t : Staging Obj)
    (scope : Scope Obj) :
    Leads g (t.goTo (.execute id p commands scope))
      (t.run scope (runCommands p.id commands) (.render id p)) := by
  induction commands generalizing t scope with
  | nil => exact .head (.refl _)
  | cons command commands ih =>
    refine .head ?_
    change Leads g ((t.goTo _).run scope _ _) _
    rw [goTo_run]
    exact .run_bind fun t scope => ih t scope

/-- Arriving at a passage and entering it step by step does what `Passage.enter` does. -/
lemma leads_enter {t : Staging Obj} {id : String} {p : Passage} (call : CallArgs Obj)
    (new : id ∉ t.passed.map (·.id)) (found : g.story.passage? id = some p) :
    Leads g (t.goTo (.arrive id call))
      (t.run (Scope.start .owned t.staged.vars [] t.staged.generator g.bindings) (p.enter call)
        (.render id p)) := by
  refine .head ?_
  change Leads g ((t.goTo _).arrive g id call) _
  have first : (t.goTo (.arrive id call)).passed = t.passed := rfl
  simp only [arrive, Passage.enter, first, new, found, if_false]
  cases p.checkCall call with
  | error fault => exact .refl _
  | ok _ =>
    refine .trans (leads_bindParams p.params call.positional call.named t _) ?_
    exact .run_bind fun t scope => leads_runCommands p.execute t scope

/-- Entering and rendering a passage step by step does what `hop` does. -/
lemma leads_hop {t : Staging Obj} {id : String} {p : Passage} (call : CallArgs Obj)
    (new : id ∉ t.passed.map (·.id)) (found : g.story.passage? id = some p) :
    match hop g.bindings id p call t.staged with
    | .error reason => ∃ u : Staging Obj, Leads g (t.goTo (.arrive id call)) (u.refuse reason)
    | .ok (stop, s) => Leads g (t.goTo (.arrive id call)) <|
      match stop.rendered.jump? with
      | some jump =>
        { t with staged := s, passed := t.passed ++ [stop], stage := .arrive jump.target jump.args }
      | none => { t with staged := s.arrive ⟨t.passed, stop⟩ }.commit [] := by
  have entered := leads_enter call new found
  unfold hop
  unfold run at entered
  rcases h : (p.enter call (Scope.start .owned t.staged.vars [] t.staged.generator g.bindings) :
    Except PlayError Unit × Scope Obj) with ⟨reason | _, scope⟩
  · rw [h] at entered
    simp only [h]
    exact ⟨_, entered⟩
  · rw [h] at entered
    simp only [h]
    refine .trans entered (.head ?_)
    exact .refl _

/-- Following a chain step by step comes to the result of `follow`. -/
lemma leads_follow (visited : List String) (id : String) (call : CallArgs Obj) (s : Session Obj)
    (t : Staging Obj) (passed : t.passed.map (·.id) = visited) (staged : t.staged = s) :
    match BranchingStory.follow g.story g.bindings visited id call s with
    | .ok (chain, s) => ∃ u, Leads g (t.goTo (.arrive id call)) u ∧ u.stage = .finished [] ∧
        u.live = s.arrive ⟨t.passed ++ chain.passed, chain.last⟩
    | .error reason => ∃ u : Staging Obj, Leads g (t.goTo (.arrive id call)) (u.refuse reason) := by
  fun_induction BranchingStory.follow g.story g.bindings visited id call s generalizing t with
  | case1 visited id call s seen =>
    subst passed
    refine ⟨t, .head ?_⟩
    change Leads g (arrive g (t.goTo _) id call) _
    have first : (t.goTo (.arrive id call)).passed = t.passed := rfl
    simp only [arrive, first, seen, if_true]
    exact .refl _
  | case2 visited id call s new missing =>
    subst passed
    refine ⟨t, .head ?_⟩
    change Leads g (arrive g (t.goTo _) id call) _
    have first : (t.goTo (.arrive id call)).passed = t.passed := rfl
    simp only [arrive, first, new, missing, if_false]
    exact .refl _
  | case3 visited id call s new p found reason failed =>
    subst passed staged
    have hopped := leads_hop call new found
    rw [failed] at hopped
    exact hopped
  | case4 visited id call s new p found stop s' hopped stays =>
    subst passed staged
    have arrived := leads_hop call new found
    rw [hopped] at arrived
    simp only [stays] at arrived
    refine ⟨_, arrived, rfl, ?_⟩
    rw [List.append_nil]
    rfl
  | case5 visited id call s new p found stop s' hopped jump jumps reason failed ih =>
    subst passed staged
    have arrived := leads_hop call new found
    rw [hopped] at arrived
    simp only [jumps] at arrived
    obtain ⟨u, rest⟩ := by
      simpa only [failed] using
        ih { t with staged := s', passed := t.passed ++ [stop] } (by simp [hop_id hopped]) rfl
    exact ⟨u, .trans arrived rest⟩
  | case6 visited id call s new p found stop s' hopped jump jumps chain s'' followed ih =>
    subst passed staged
    have arrived := leads_hop call new found
    rw [hopped] at arrived
    simp only [jumps] at arrived
    obtain ⟨u, rest, finished, live⟩ := by
      simpa only [followed] using
        ih { t with staged := s', passed := t.passed ++ [stop] } (by simp [hop_id hopped]) rfl
    refine ⟨u, .trans arrived rest, finished, ?_⟩
    rw [live, List.append_assoc]
    rfl

/-- Reading and rendering a saved game step by step does what `Game.load` does. -/
lemma leads_load (saved : SavedGame) :
    match g.load saved with
    | .ok (s, warnings) => ∃ u, Leads g (g.staging (.load saved)) u ∧ u.stage = .finished warnings ∧
        u.live = s
    | .error fault =>
        ∃ u : Staging Obj, Leads g (g.staging (.load saved)) (u.refuse (.loading fault)) := by
  -- All but the rendering is one step, so the cases are those of `Game.load_eq`.
  have first : Leads g (g.staging (.load saved)) ((g.staging (.load saved)).restore g saved) :=
    .head (.refl _)
  rw [g.load_eq]
  unfold restore at first
  by_cases version : saved.formatVersion = SavedGame.currentFormat
  · simp only [version, ne_eq, not_true_eq_false, if_false] at first ⊢
    cases found : g.story.passage? saved.passage with
    | none =>
      simp only [found] at first
      exact ⟨_, first⟩
    | some p =>
      simp only [found] at first
      rcases ofState : g.decodeVars saved.state with fault | ⟨vars, ofVars⟩
      · simp only [ofState] at first
        exact ⟨_, first⟩
      · simp only [ofState] at first
        rcases ofArgs : g.decodeVars saved.args with fault | ⟨args, more⟩
        · simp only [ofArgs] at first
          exact ⟨_, first⟩
        · simp only [ofArgs] at first
          exact ⟨_, .trans first (.head (.refl _)), rfl, rfl⟩
  · simp only [version, ne_eq, not_false_eq_true, if_true] at first ⊢
    exact ⟨_, first⟩

omit [HostObject Obj] in
/-- The steps of a move through passages begin where the move departs. -/
lemma staging_eq {m : Move Obj} {d : Departure Obj} (departs : g.Departs m d) :
    g.staging m = ⟨g.session, d.session, [], .arrive d.id d.call⟩ := by
  cases departs with
  | start => rfl
  | enter id call => rfl
  | choose current chosen => simp only [Game.staging, current, chosen]

/-- The steps of a move come to its result. -/
lemma leads_after (m : Move Obj) :
    match g.after m with
    | .ok (s, warnings) => ∃ u, Leads g (g.staging m) u ∧ u.stage = .finished warnings ∧ u.live = s
    | .error reason => ∃ u : Staging Obj, Leads g (g.staging m) (u.refuse reason) := by
  -- The moves through passages differ only in where they depart.
  have departed {d : Departure Obj} (departs : g.Departs m d) :
      match g.after m with
      | .ok (s, warnings) => ∃ u, Leads g (g.staging m) u ∧ u.stage = .finished warnings ∧ u.live = s
      | .error reason => ∃ u : Staging Obj, Leads g (g.staging m) (u.refuse reason) := by
    have followed := leads_follow (g := g) [] d.id d.call d.session
      ⟨g.session, d.session, [], .arrive d.id d.call⟩ rfl rfl
    rw [departs.after_eq, staging_eq departs]
    unfold Game.follow
    cases result : BranchingStory.follow g.story g.bindings [] d.id d.call d.session with
    | error reason =>
      rw [result] at followed
      exact followed
    | ok result' =>
      rw [result] at followed
      exact followed
  cases m with
  | start => exact departed .start
  | enter id call => exact departed (.enter id call)
  | choose index =>
    cases current : g.current with
    | error reason =>
      simp only [Game.after, Game.choose, Game.staging, current, Except.map]
      exact ⟨⟨g.session, g.session, [], .refused reason⟩, .refl _⟩
    | ok output =>
      cases chosen : output.choices[index]? with
      | none =>
        simp only [Game.after, Game.choose, Game.staging, current, chosen, Except.map]
        exact ⟨⟨g.session, g.session, [], .refused (.noSuchChoice index output.choices.length)⟩,
          .refl _⟩
      | some choice => exact departed (.choose current chosen)
  | submit values => exact ⟨_, .refl _, rfl, rfl⟩
  | setVar name value => exact ⟨_, .refl _, rfl, rfl⟩
  | load saved =>
    have loaded := leads_load (g := g) saved
    simp only [Game.after]
    cases result : g.load saved with
    | error fault =>
      rw [result] at loaded
      exact loaded
    | ok result' =>
      rw [result] at loaded
      exact loaded

end Leading

section Liveness

variable [HostObject Obj] {g : Game Obj}

omit [HostObject Obj] in
lemma run_live (t : Staging Obj) (scope : Scope Obj) (m : EntryM Obj Unit)
    (next : Scope Obj → Stage Obj) : (t.run scope m next).live = t.live := by
  unfold run
  split <;> rfl

omit [HostObject Obj] in
lemma arrive_live (t : Staging Obj) (id : String) (call : CallArgs Obj) :
    (t.arrive g id call).live = t.live := by
  unfold arrive
  by_cases seen : id ∈ t.passed.map (·.id)
  · simp only [seen, if_true]
    rfl
  · simp only [seen, if_false]
    cases g.story.passage? id with
    | none => rfl
    | some p =>
      simp only
      cases p.checkCall call <;> rfl

lemma bindParam_live (t : Staging Obj) (id : String) (p : Passage) (param : Param) (params : List Param)
    (positional : List (Value Obj)) (named : List (String × Value Obj)) (scope : Scope Obj) :
    (t.bindParam id p param params positional named scope).live = t.live := by
  unfold bindParam
  split
  · exact run_live _ _ _ _
  · split
    · exact run_live _ _ _ _
    · exact run_live _ _ _ _
    · rfl

lemma restore_live (t : Staging Obj) (saved : SavedGame) : (t.restore g saved).live = t.live := by
  unfold restore
  by_cases version : saved.formatVersion = SavedGame.currentFormat
  · simp only [version, ne_eq, not_true_eq_false, if_false]
    cases g.story.passage? saved.passage with
    | none => rfl
    | some p =>
      rcases g.decodeVars saved.state with fault | ⟨vars, ofVars⟩
      · rfl
      · rcases g.decodeVars saved.args with fault | ⟨args, ofArgs⟩ <;> rfl
  · simp only [version, ne_eq, not_false_eq_true, if_true]
    rfl

/-- A step changes the live session only by putting the staged one in its place, which ends the move. -/
lemma step_live (t : Staging Obj) :
    (t.step g).live = t.live ∨ ∃ warnings, (t.step g).stage = .finished warnings := by
  unfold step
  split
  case h_1 id call _ => exact .inl (arrive_live t id call)
  case h_2 => exact .inl rfl
  case h_3 => exact .inl (bindParam_live t _ _ _ _ _ _ _)
  case h_4 => exact .inl rfl
  case h_5 => exact .inl (run_live t _ _ _)
  case h_6 =>
    unfold render
    simp only
    split
    · exact .inl rfl
    · exact .inr ⟨_, rfl⟩
  case h_7 => exact .inl (restore_live t _)
  case h_8 => exact .inr ⟨_, rfl⟩
  case h_9 => exact .inl rfl
  case h_10 => exact .inl rfl

/-- A move that has come to its end stays there. -/
lemma steps_of_answer {t : Staging Obj} {answer : Except PlayError (List String)}
    (ended : t.stage.answer? = some answer) (n : Nat) : t.steps g n = t := by
  have stays : t.step g = t := by
    obtain ⟨live, staged, passed, stage⟩ := t
    cases stage <;> first | rfl | cases ended
  induction n with
  | zero => rfl
  | succ n ih =>
    change (t.step g).steps g n = t
    rw [stays]
    exact ih

lemma end_unique {t : Staging Obj} {m n : Nat} {a b : Except PlayError (List String)}
    (first : (t.steps g m).stage.answer? = some a) (second : (t.steps g n).stage.answer? = some b) :
    a = b := by
  have sameEnd : t.steps g m = t.steps g n := by
    rcases Nat.le_total m n with le | le
    · obtain ⟨k, rfl⟩ := Nat.exists_eq_add_of_le le
      rw [steps_add, steps_of_answer first]
    · obtain ⟨k, rfl⟩ := Nat.exists_eq_add_of_le le
      rw [steps_add, steps_of_answer second]
  rw [sameEnd, second] at first
  exact (Option.some.inj first).symm

/-- As long as a move has not finished, the live session is the one from before it. -/
lemma steps_live (t : Staging Obj) (n : Nat) :
    (t.steps g n).live = t.live ∨ ∃ k warnings, (t.steps g k).stage = .finished warnings := by
  induction n generalizing t with
  | zero => exact .inl rfl
  | succ n ih =>
    rcases step_live (g := g) t with live | ⟨warnings, finished⟩
    · rcases ih (t.step g) with rest | ⟨k, warnings, finished⟩
      · exact .inl (rest.trans live)
      · exact .inr ⟨k + 1, warnings, finished⟩
    · exact .inr ⟨1, warnings, finished⟩

end Liveness

end Staging

section Atomicity

variable [HostObject Obj]

omit [HostObject Obj] in
/-- A move begins beside the session of the game, or it is at its end at once. -/
lemma Game.staging_live (g : Game Obj) (m : Move Obj) :
    (g.staging m).live = g.session ∨ ∃ warnings, (g.staging m).stage = .finished warnings := by
  cases m with
  | start | enter | load => exact .inl rfl
  | choose index =>
    left
    unfold staging
    cases g.current with
    | error reason => rfl
    | ok output =>
      simp only
      cases output.choices[index]? <;> rfl
  | submit | setVar => exact .inr ⟨_, rfl⟩

/-- The steps of a move come to the answer and to the session of the move. -/
theorem Game.move_eq_steps (g : Game Obj) (m : Move Obj) :
    ∃ n, ((g.staging m).steps g n).stage.answer? = some (g.move m).1 ∧
      ((g.move m).1.isOk → ((g.staging m).steps g n).live = (g.move m).2.session) := by
  have leads := Staging.leads_after (g := g) m
  rw [g.move_eq]
  cases result : g.after m with
  | error reason =>
    rw [result] at leads
    obtain ⟨u, n, reached⟩ := leads
    refine ⟨n, ?_, nofun⟩
    rw [reached]
    rfl
  | ok result' =>
    obtain ⟨s, warnings⟩ := result'
    rw [result] at leads
    obtain ⟨u, ⟨n, rfl⟩, finished, live⟩ := leads
    refine ⟨n, ?_, fun _ => live⟩
    rw [finished]
    rfl

/-- A refused move leaves no trace: the game afterwards is the one before, and although the move worked
its way to the refusal on the staged session, the live one was the old one at every step. -/
theorem Game.refused_leaves_no_trace (g : Game Obj) (m : Move Obj) {reason : PlayError}
    (refused : (g.move m).1 = .error reason) :
    (g.move m).2 = g ∧ (∃ n, ((g.staging m).steps g n).stage = .refused reason) ∧
      ∀ n, ((g.staging m).steps g n).live = g.session := by
  obtain ⟨n, ended, _⟩ := g.move_eq_steps m
  rw [refused] at ended
  refine ⟨?_, ⟨n, Stage.eq_refused_of_answer ended⟩, ?_⟩
  · rw [g.move_eq] at refused ⊢
    cases result : g.after m with
    | error reason => rfl
    | ok result' =>
      rw [result] at refused
      cases refused
  · -- A move has one end, and this one ends in the refusal: it is nowhere at the step that would put
    -- another session in the place of the live one.
    have unfinished (k : Nat) (warnings : List String) :
        ((g.staging m).steps g k).stage ≠ .finished warnings := by
      intro finished
      have answered : ((g.staging m).steps g k).stage.answer? = some (.ok warnings) := by
        rw [finished]
        rfl
      cases Staging.end_unique ended answered
    intro k
    rcases Staging.steps_live (g := g) (g.staging m) k with live | ⟨j, warnings, finished⟩
    · rcases staging_live g m with first | ⟨warnings, finished⟩
      · exact live.trans first
      · exact absurd finished (unfinished 0 warnings)
    · exact absurd finished (unfinished j warnings)

end Atomicity

/-- A story whose one choice leads over a passage that draws, writes and jumps to one that fails. -/
def pitfall : Story :=
  { version := "1.0"
    initial := "gate"
    metadata := Metadata.empty
    imports := []
    passages :=
      [("gate", ⟨"gate", [], [], [⟨"gate#0", [.text "go"], "bridge", [], none, true, [], 1⟩], [], []⟩),
        ("bridge", ⟨"bridge", [], [.jump "chasm" [] 2], [],
          [.assign "steps" .set "random_int(1, 6)" 3], []⟩),
        ("chasm", ⟨"chasm", [], [], [], [.assign "steps" .set "0" 4, .eval "fall" 5], []⟩)] }

def atGate : Game Toybox.Thing :=
  (Game.move ⟨pitfall, Toybox.registry, [], [], ⟨[], [], Generator.ofSeed 7, none⟩⟩ .start).2

def refusalText : Except PlayError (List String) → String
  | .ok _ => ""
  | .error reason => reason.message

/-- The one choice is marked as taken and two passages run before the fall; the game is as it was in front
of the choice. -/
theorem pitfall_leaves_no_trace :
    ∃ reason, reason.message = "in passage 'chasm', evaluating 'fall': name 'fall' is not defined" ∧
      (atGate.move (.choose 0)).1 = .error reason ∧ (atGate.move (.choose 0)).2 = atGate ∧
      ((atGate.staging (.choose 0)).steps atGate 8).staged.consumed = ["gate#0"] ∧
      ((atGate.staging (.choose 0)).steps atGate 8).live = atGate.session := by
  have told : refusalText (atGate.move (.choose 0)).1 =
      "in passage 'chasm', evaluating 'fall': name 'fall' is not defined" := by
    decide +kernel
  have taken : ((atGate.staging (.choose 0)).steps atGate 8).staged.consumed = ["gate#0"] := by
    decide +kernel
  cases refused : (atGate.move (.choose 0)).1 with
  | ok warnings =>
    rw [refused] at told
    simp [refusalText] at told
  | error reason =>
    rw [refused] at told
    obtain ⟨same, _, live⟩ := Game.refused_leaves_no_trace atGate (.choose 0) refused
    exact ⟨reason, told, rfl, same, taken, live 8⟩

end BranchingStory
