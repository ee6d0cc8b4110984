import BranchingStory.Proofs.Play.Loading
import BranchingStory.Proofs.Play.Reachable
import BranchingStory.Proofs.Play.Steady

/-!
# Sessions that go on in the same way

Two sessions of a story without chance may differ in their generators, in the order of the choices that
were taken and in what was shown besides the open choices: whatever is done with both of them is
answered in the same way, and leaves them alike.
-/

namespace BranchingStory

variable {Obj : Type}

/-- Two positions with the same arguments and choices in the same passage. -/
structure Position.Alike (a b : Position Obj) : Prop where
  passage : a.passage = b.passage
  args : a.args = b.args
  shown : a.output.passage = b.output.passage
  choices : a.output.choices = b.output.choices

/-- Two sessions with the same variables in the same order, with the same choices taken, and with the
same choices open in the same passage. -/
structure Session.Alike (s t : Session Obj) : Prop where
  vars : s.vars = t.vars
  consumed : ∀ key, key ∈ s.consumed ↔ key ∈ t.consumed
  position : Option.Rel Position.Alike s.position? t.position?

lemma Position.Alike.refl (a : Position Obj) : a.Alike a :=
  ⟨rfl, rfl, rfl, rfl⟩

/-- Two results of steps: the same refusal, or the same answer and sessions that are alike. -/
inductive ResultsAlike {β : Type} : Except PlayError (β × Session Obj) →
    Except PlayError (β × Session Obj) → Prop where
  | ok {b s t} :
    s.Alike t →
    ResultsAlike (.ok (b, s)) (.ok (b, t))
  | error (reason : PlayError) :
    ResultsAlike (.error reason) (.error reason)

namespace ResultsAlike

variable {β : Type} {result : Except PlayError (β × Session Obj)}

lemma eq_error {reason : PlayError} (alike : ResultsAlike (.error reason) result) :
    result = .error reason := by
  cases alike
  rfl

lemma eq_ok {b : β} {s : Session Obj} (alike : ResultsAlike (.ok (b, s)) result) :
    ∃ t, result = .ok (b, t) ∧ s.Alike t := by
  cases alike with
  | ok together => exact ⟨_, rfl, together⟩

end ResultsAlike

namespace Session.Alike

variable {s t : Session Obj} (alike : s.Alike t)
include alike

lemma consume (key : String) : (s.consume key).Alike (t.consume key) := by
  have taken : s.isConsumed key = t.isConsumed key := by
    rw [Session.isConsumed, Session.isConsumed, Bool.eq_iff_iff, List.contains_iff_mem,
      List.contains_iff_mem]
    exact alike.consumed key
  unfold Session.consume
  rw [taken]
  split
  · exact alike
  · refine ⟨alike.vars, fun other => ?_, alike.position⟩
    rw [List.mem_cons, List.mem_cons, alike.consumed other]

lemma take (choice : OfferedChoice Obj) : (s.take choice).Alike (t.take choice) := by
  unfold Session.take
  split
  · exact alike.consume choice.key
  · exact alike

lemma submit (values : List (String × Value Obj)) : (s.submit values).Alike (t.submit values) := by
  refine ⟨?_, alike.consumed, alike.position⟩
  simp only [Session.submit, alike.vars]

lemma setVar (name : String) (value : Value Obj) :
    (s.setVar name value).Alike (t.setVar name value) := by
  refine ⟨?_, alike.consumed, alike.position⟩
  simp only [Session.setVar, alike.vars]

lemma arrive [HostObject Obj] (chain : Chain Obj) : (s.arrive chain).Alike (t.arrive chain) :=
  ⟨alike.vars, alike.consumed, .some (.refl _)⟩

end Session.Alike

section Steps

variable [HostObject Obj] {story : Story} {s t : Session Obj}

/-- A passage of a story without chance calls no random function. -/
lemma Story.drawless_passage (drawless : story.draws = false) {id : String} {p : Passage}
    (found : story.passage? id = some p) : p.pieces.any Piece.draws = false := by
  rw [List.any_eq_false]
  intro piece member
  exact List.any_eq_false.mp drawless piece (Story.mem_pieces found member)

lemma hop_alike (alike : s.Alike t) {p : Passage} (drawless : p.pieces.any Piece.draws = false)
    (bindings : Bindings Obj) (id : String) (call : CallArgs Obj) :
    ResultsAlike (hop bindings id p call s) (hop bindings id p call t) := by
  have entered := Passage.enter_steady drawless call (s.entryScope bindings) t.generator
  have scopes : (s.entryScope bindings).reseed t.generator = t.entryScope bindings := by
    simp only [Session.entryScope, Scope.reseed, Scope.start, alike.vars]
  rw [scopes] at entered
  rw [hop_eq, hop_eq, entered]
  rcases (p.enter call (s.entryScope bindings) : Except PlayError Unit × Scope Obj)
    with ⟨reason | _, scope⟩
  · exact .error reason
  · have shown := Passage.shown_agree drawless alike.consumed scope.state scope.base scope.generator
      t.generator bindings
    simp only [shown]
    exact .ok ⟨rfl, alike.consumed, alike.position⟩

/-- A chain that two sessions follow that are alike is the same. -/
theorem follow_alike (drawless : story.draws = false) (alike : s.Alike t) (bindings : Bindings Obj)
    (visited : List String) (id : String) (call : CallArgs Obj) :
    ResultsAlike (follow story bindings visited id call s)
      (follow story bindings visited id call t) := by
  fun_induction follow story bindings visited id call s generalizing t with
  | case1 visited id call s seen =>
    rw [follow_seen seen]
    exact .error _
  | case2 visited id call s new absent =>
    rw [follow_absent new absent]
    exact .error _
  | case3 visited id call s new p found reason stopped =>
    have hops := hop_alike alike (story.drawless_passage drawless found) bindings id call
    rw [stopped] at hops
    rw [follow_found new found, hops.eq_error]
    exact .error reason
  | case4 visited id call s new p found stop s' hopped stays =>
    have hops := hop_alike alike (story.drawless_passage drawless found) bindings id call
    rw [hopped] at hops
    obtain ⟨t', hopped', alike'⟩ := hops.eq_ok
    rw [follow_found new found, hopped']
    simp only [stays]
    exact .ok alike'
  | case5 visited id call s new p found stop s' hopped jump jumps reason later ih =>
    have hops := hop_alike alike (story.drawless_passage drawless found) bindings id call
    rw [hopped] at hops
    obtain ⟨t', hopped', alike'⟩ := hops.eq_ok
    have rest := ih alike'
    rw [later] at rest
    rw [follow_found new found, hopped']
    simp only [jumps, rest.eq_error]
    exact .error reason
  | case6 visited id call s new p found stop s' hopped jump jumps chain s'' later ih =>
    have hops := hop_alike alike (story.drawless_passage drawless found) bindings id call
    rw [hopped] at hops
    obtain ⟨t', hopped', alike'⟩ := hops.eq_ok
    have rest := ih alike'
    rw [later] at rest
    obtain ⟨t'', later', alike''⟩ := rest.eq_ok
    rw [follow_found new found, hopped']
    simp only [jumps, later']
    exact .ok alike''

end Steps

namespace Game

/-- Two games of a story and a host whose sessions are alike. -/
structure Alike (g h : Game Obj) : Prop where
  story : g.story = h.story
  registry : g.registry = h.registry
  bindings : g.bindings = h.bindings
  session : g.session.Alike h.session

lemma Alike.current_alike {g h : Game Obj} (alike : g.Alike h) :
    (g.current = .error .notStarted ∧ h.current = .error .notStarted) ∨
      ∃ here there, g.current = .ok here ∧ h.current = .ok there ∧ here.choices = there.choices := by
  have positions := alike.session.position
  unfold current
  generalize g.session.position? = here at positions ⊢
  generalize h.session.position? = there at positions ⊢
  cases positions with
  | none => exact .inl ⟨rfl, rfl⟩
  | some same => exact .inr ⟨_, _, rfl, rfl, same.choices⟩

section Answers

variable [HostObject Obj]

/-- What a move gives back: its warnings, and what a step shows. -/
def answer (g : Game Obj) (m : Move Obj) : Except PlayError (List String × Option (Output Obj)) :=
  (g.move m).1.map fun warnings =>
    (warnings, if m.isStep then (g.move m).2.session.position?.map (·.output) else none)

/-- Makes moves one after the other: what they give back, and the game afterwards. -/
def play (g : Game Obj) : List (Move Obj) →
    List (Except PlayError (List String × Option (Output Obj))) × Game Obj
  | [] => ([], g)
  | m :: moves =>
    let (answers, last) := (g.move m).2.play moves
    (g.answer m :: answers, last)

end Answers

section Moves

variable [HostObject Obj] {g h : Game Obj}

lemma departs_alike (alike : g.Alike h) {m : Move Obj} (step : m.isStep) :
    (∃ reason, g.after m = .error reason ∧ h.after m = .error reason) ∨
      ∃ s t id call, g.Departs m ⟨s, id, call⟩ ∧ h.Departs m ⟨t, id, call⟩ ∧ s.Alike t := by
  cases m with
  | start =>
    refine .inr ⟨g.session, h.session, g.story.initial, CallArgs.none, .start, ?_, alike.session⟩
    rw [alike.story]
    exact .start
  | enter id call =>
    exact .inr ⟨g.session, h.session, id, call, .enter id call, .enter id call, alike.session⟩
  | choose index =>
    rcases alike.current_alike with ⟨nowhere, nowhere'⟩ | ⟨here, there, current, current', choices⟩
    · exact .inl ⟨.notStarted, by simp only [after, choose, nowhere, Except.map],
        by simp only [after, choose, nowhere', Except.map]⟩
    · cases chosen : here.choices[index]? with
      | none =>
        refine .inl ⟨.noSuchChoice index here.choices.length, ?_, ?_⟩
        · simp only [after, choose, current, chosen, Except.map]
        · simp only [after, choose, current', ← choices, chosen, Except.map]
      | some choice =>
        refine .inr ⟨_, _, choice.target, choice.args, .choose current chosen, .choose current' ?_,
          alike.session.take choice⟩
        rw [← choices, chosen]
  | submit | setVar | load => cases step

lemma step_alike (drawless : g.story.draws = false) (alike : g.Alike h) {m : Move Obj}
    (step : m.isStep) :
    (∃ reason, g.after m = .error reason ∧ h.after m = .error reason) ∨
      ∃ (chain : Chain Obj) (s t : Session Obj), g.after m = .ok (s.arrive chain, []) ∧
        h.after m = .ok (t.arrive chain, []) ∧ s.Alike t := by
  rcases departs_alike alike step with refused | ⟨s, t, id, call, here, there, together⟩
  · exact .inl refused
  · have chains := follow_alike drawless together g.bindings [] id call
    rw [here.after_eq, there.after_eq]
    simp only [Game.follow, ← alike.story, ← alike.bindings]
    generalize BranchingStory.follow g.story g.bindings [] id call s = result at chains ⊢
    generalize BranchingStory.follow g.story g.bindings [] id call t = result' at chains ⊢
    cases chains with
    | error reason => exact .inl ⟨reason, rfl, rfl⟩
    | ok together' => exact .inr ⟨_, _, _, rfl, rfl, together'⟩

/-- Two games show a passage in the same way that are resumed with the same variables and arguments. -/
lemma resume_alike (drawless : g.story.draws = false) (alike : g.Alike h) {id : String} {p : Passage}
    (found : g.story.passage? id = some p) (consumed : List String) (vars args : Vars Obj) :
    (g.resume p consumed vars args).1.Alike (h.resume p consumed vars args).1 ∧
      (g.resume p consumed vars args).2 = (h.resume p consumed vars args).2 := by
  have taken (key : String) : key ∈ consumed ↔ key ∈ consumed := Iff.rfl
  have shown := Passage.shown_agree (g.story.drawless_passage drawless found) taken vars args
    g.session.generator h.session.generator g.bindings
  simp only [resume, ← alike.bindings, shown]
  exact ⟨⟨rfl, taken, .some ⟨rfl, rfl, rfl, rfl⟩⟩, trivial⟩

lemma load_alike (drawless : g.story.draws = false) (alike : g.Alike h) (saved : SavedGame) :
    (∃ reason, g.after (.load saved) = .error reason ∧ h.after (.load saved) = .error reason) ∨
      ∃ (s t : Session Obj) (warnings : List String), g.after (.load saved) = .ok (s, warnings) ∧
        h.after (.load saved) = .ok (t, warnings) ∧ s.Alike t := by
  have decode (json : Json) : h.decodeVars json = g.decodeVars json := by
    unfold decodeVars
    rw [alike.registry]
  have foreign : h.foreign saved = g.foreign saved := by
    unfold Game.foreign
    rw [alike.story]
  simp only [after, load_eq, decode, foreign, ← alike.story]
  split
  · exact .inl ⟨_, rfl, rfl⟩
  split
  · exact .inl ⟨_, rfl, rfl⟩
  · next p found =>
    split
    · exact .inl ⟨_, rfl, rfl⟩
    · next vars ofVars _ =>
      split
      · exact .inl ⟨_, rfl, rfl⟩
      · next args ofArgs _ =>
        obtain ⟨same, jumps⟩ := resume_alike drawless alike found saved.consumed.eraseDups vars args
        rw [← jumps]
        exact .inr ⟨_, _, _, rfl, rfl, same⟩

/-- Two games that are alike answer every move in the same way, and are alike afterwards. -/
theorem move_alike (drawless : g.story.draws = false) (alike : g.Alike h) (m : Move Obj) :
    g.answer m = h.answer m ∧ (g.move m).2.Alike (h.move m).2 := by
  have refused {reason : PlayError} (here : g.after m = .error reason)
      (there : h.after m = .error reason) :
      g.answer m = h.answer m ∧ (g.move m).2.Alike (h.move m).2 := by
    simp only [answer, move_eq, here, there]
    exact ⟨rfl, alike⟩
  -- A step shows its output, which is the same; the other moves show none, and after them the outputs
  -- may differ in all but the open choices.
  have done {s t : Session Obj} {warnings : List String} (here : g.after m = .ok (s, warnings))
      (there : h.after m = .ok (t, warnings)) (together : s.Alike t)
      (shown : m.isStep → s.position? = t.position?) :
      g.answer m = h.answer m ∧ (g.move m).2.Alike (h.move m).2 := by
    simp only [answer, move_eq, here, there]
    refine ⟨?_, alike.story, alike.registry, alike.bindings, together⟩
    cases step : m.isStep with
    | true => rw [shown step]
    | false => rfl
  have stepped (step : m.isStep) : g.answer m = h.answer m ∧ (g.move m).2.Alike (h.move m).2 := by
    rcases step_alike drawless alike step
      with ⟨reason, here, there⟩ | ⟨chain, s, t, here, there, together⟩
    · exact refused here there
    · exact done here there (together.arrive chain) fun _ => rfl
  cases m with
  | start | enter | choose => exact stepped rfl
  | submit values => exact done rfl rfl (alike.session.submit values) nofun
  | setVar name value => exact done rfl rfl (alike.session.setVar name value) nofun
  | load saved =>
    rcases load_alike drawless alike saved
      with ⟨reason, here, there⟩ | ⟨s, t, warnings, here, there, together⟩
    · exact refused here there
    · exact done here there together nofun

/-- Two games that are alike answer every sequence of moves in the same way, and are alike afterwards. -/
theorem play_alike (drawless : g.story.draws = false) (alike : g.Alike h) (moves : List (Move Obj)) :
    (g.play moves).1 = (h.play moves).1 ∧ (g.play moves).2.Alike (h.play moves).2 := by
  induction moves generalizing g h with
  | nil => exact ⟨rfl, alike⟩
  | cons m moves ih =>
    obtain ⟨same, after⟩ := move_alike drawless alike m
    have still : (g.move m).2.story.draws = false := by
      rw [move_story, drawless]
    obtain ⟨later, last⟩ := ih still after
    simp only [play, same, later]
    exact ⟨trivial, last⟩

end Moves

end Game

end BranchingStory
