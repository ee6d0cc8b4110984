import BranchingStory.Host.Toybox
import BranchingStory.Proofs.Play.Moves
import BranchingStory.Proofs.Save.RoundTrip
import BranchingStory.Proofs.Source.Compiled

/-!
# What can be saved can be loaded

A saved game keeps the version, and variables in a form that is always restored. What remains is its
passage. A step records the key under which it found the last passage, while loading records the id that
the passage has of its own, and nothing makes the two the same in a story that was not compiled. So a
saved game can be loaded again unless loading, before, came to a passage whose own id is not a key.
-/

namespace BranchingStory

open Source

variable {Obj : Type}

/-- Whether an id belongs to a passage that is stored under other keys only. -/
def Story.Stray (story : Story) (id : String) : Prop :=
  story.passage? id = none ∧ ∃ key p, story.passage? key = some p ∧ p.id = id

/-- No id is stray in a compiled story, so that there whatever is saved can be loaded. -/
theorem Story.CompiledFrom.not_stray {e : Expansion} {story : Story} (compiled : story.CompiledFrom e)
    (id : String) : ¬story.Stray id := by
  rintro ⟨absent, key, p, found, rfl⟩
  rw [compiled.id_eq found, found] at absent
  cases absent

variable [HostObject Obj] {story : Story} {registry : Registry Obj} {g : Game Obj}

namespace Game

/-- What is saved: where the game is, with variables and arguments in their saved form. -/
lemma save_eq_ok {timestamp : Nat} {saved : SavedGame} (saves : g.save timestamp = .ok saved) :
    ∃ position, g.session.position? = some position ∧
      saved.formatVersion = SavedGame.currentFormat ∧ saved.passage = position.passage ∧
      saved.state = (Save.encodeVars g.session.vars).1 ∧
      saved.args = (Save.encodeVars position.args).1 := by
  unfold save at saves
  cases here : g.session.position? with
  | none =>
    rw [here] at saves
    cases saves
  | some position =>
    rw [here] at saves
    cases saves
    exact ⟨position, rfl, rfl, rfl, rfl, rfl⟩

lemma decodeVars_encodeVars_ok (g : Game Obj) (vars : Vars Obj) :
    ∃ result, g.decodeVars (Save.encodeVars vars).1 = .ok result := by
  unfold decodeVars
  rw [Save.decodeVars_encodeVars_eq]
  exact ⟨_, rfl⟩

/-- What was saved is loaded wherever there is a passage under its key; it goes on at the own id of this
passage. -/
lemma load_of_found (other : Game Obj) {timestamp : Nat} {saved : SavedGame}
    (saves : g.save timestamp = .ok saved) {p : Passage} (found : other.story.passage? saved.passage = some p) :
    ∃ warnings s, other.move (.load saved) = (.ok warnings, { other with session := s }) ∧
      s.position?.map (·.passage) = some p.id := by
  obtain ⟨position, _, version, _, state, args⟩ := save_eq_ok saves
  obtain ⟨⟨vars, ofVars⟩, readVars⟩ := other.decodeVars_encodeVars_ok g.session.vars
  obtain ⟨⟨locals, ofLocals⟩, readArgs⟩ := other.decodeVars_encodeVars_ok position.args
  have loads := other.load_eq saved
  rw [if_neg (not_not_intro version), found, state, args, readVars, readArgs] at loads
  have after : other.after (.load saved) = .ok _ := congrArg (Except.mapError PlayError.loading) loads
  rw [move_eq, after]
  exact ⟨_, _, rfl, rfl⟩

lemma load_of_absent (other : Game Obj) {timestamp : Nat} {saved : SavedGame}
    (saves : g.save timestamp = .ok saved) (absent : other.story.passage? saved.passage = none) :
    other.move (.load saved) = (.error (.loading (.unknownPassage saved.passage)), other) := by
  obtain ⟨_, _, version, _, _, _⟩ := save_eq_ok saves
  have refused := other.load_eq saved
  rw [if_neg (not_not_intro version), absent] at refused
  have after : other.after (.load saved) = .error _ := congrArg (Except.mapError PlayError.loading) refused
  rw [move_eq, after]

/-- Wherever a reachable game is, there is a passage under this id, or one that has the id itself. -/
lemma Reachable.stands (reach : Reachable story registry g) {position : Position Obj}
    (here : g.session.position? = some position) :
    (∃ p, story.passage? position.passage = some p) ∨
      ∃ key p, story.passage? key = some p ∧ p.id = position.passage := by
  induction reach generalizing position with
  | start started =>
    obtain ⟨_, _, _, _, session⟩ := start_eq_ok started
    rw [session] at here
    cases here
  | @move g m reach ih =>
    obtain ⟨rfl, _, _⟩ := reach.fixed
    have outcome := g.outcome m
    generalize (g.move m).1 = answer at outcome
    generalize (g.move m).2.session = after at outcome here
    cases outcome with
    | refused => exact ih here
    | stepped _ followed =>
      cases here
      obtain ⟨p, _, found, _⟩ := follow_last followed
      exact .inl ⟨p, found⟩
    | submitted | set => exact ih here
    | loaded _ found _ _ =>
      cases here
      exact .inr ⟨_, _, found, rfl⟩

/-- Behind a step, a game can be saved, and what is saved can be loaded. -/
theorem step_saves {g' : Game Obj} {m : Move Obj} {warnings : List String} (step : m.isStep)
    (moved : g.move m = (.ok warnings, g')) (timestamp : Nat) {other : Game Obj}
    (same : other.story = g.story) :
    ∃ saved warnings loaded, g'.save timestamp = .ok saved ∧
      other.move (.load saved) = (.ok warnings, loaded) := by
  obtain ⟨_, chain, s, _, followed, rfl⟩ := step_eq_ok step moved
  obtain ⟨p, _, found, _⟩ := follow_last followed
  have saves : ∃ saved, Game.save { g with session := s.arrive chain } timestamp = .ok saved ∧
      saved.passage = chain.last.id := ⟨_, rfl, rfl⟩
  obtain ⟨saved, saves, passage⟩ := saves
  have there : other.story.passage? saved.passage = some p := by
    rw [same, passage]
    exact found
  obtain ⟨warnings, t, loads, _⟩ := load_of_found other saves there
  exact ⟨saved, warnings, _, saves, loads⟩

/-- What a reachable game saves can be loaded into each game of the same story, whatever the host: it is
never refused for its version or its variables, and for its passage only if this is a stray id. -/
theorem saved_game_loads (reach : Reachable story registry g) {timestamp : Nat} {saved : SavedGame}
    (saves : g.save timestamp = .ok saved) {other : Game Obj} (same : other.story = story) :
    (∃ warnings loaded, other.move (.load saved) = (.ok warnings, loaded)) ∨
      (story.Stray saved.passage ∧
        other.move (.load saved) = (.error (.loading (.unknownPassage saved.passage)), other)) := by
  obtain ⟨position, here, _, passage, _, _⟩ := save_eq_ok saves
  subst same
  cases found : other.story.passage? saved.passage with
  | some p =>
    obtain ⟨warnings, s, loads, _⟩ := load_of_found other saves found
    exact .inl ⟨warnings, _, loads⟩
  | none =>
    refine .inr ⟨⟨found, ?_⟩, load_of_absent other saves found⟩
    rw [passage] at found ⊢
    rcases reach.stands here with ⟨p, known⟩ | own
    · rw [known] at found
      cases found
    · exact own

end Game

/-- A story whose only passage has another id than the key under which it is stored. -/
def misnamed : Story :=
  { version := storyVersion
    initial := "Start"
    metadata := Metadata.empty
    imports := []
    passages := [("Start", ⟨"Hall", [], [.text "Hi"], [], [], []⟩)] }

def atStart : Game Toybox.Thing :=
  ((Game.opening misnamed Toybox.registry 7 []).move .start).2

lemma atStart_story : atStart.story = misnamed :=
  Game.move_story _ _

lemma atStart_reachable : atStart.Reachable misnamed Toybox.registry :=
  .move .start (.opening _ _ _ rfl)

lemma atStart_saves : ∃ saved, atStart.save 0 = .ok saved ∧ saved.passage = "Start" := by
  have here : atStart.session.position?.map (·.passage) = some "Start" := by decide +kernel
  obtain ⟨position, here, passage⟩ := Option.map_eq_some_iff.mp here
  refine ⟨_, by rw [Game.save, here], passage⟩

/-- Behind the start, this story is saved and loaded. -/
theorem misnamed_loads_once :
    ∃ saved warnings loaded, atStart.save 0 = .ok saved ∧
      atStart.move (.load saved) = (.ok warnings, loaded) := by
  obtain ⟨saved, saves, passage⟩ := atStart_saves
  rcases Game.saved_game_loads atStart_reachable saves atStart_story with
    ⟨warnings, loaded, loads⟩ | ⟨stray, _⟩
  · exact ⟨saved, warnings, loaded, saves, loads⟩
  · rw [passage] at stray
    cases stray.1

/-- What this story saves behind a load is refused. -/
theorem misnamed_never_loads_twice :
    misnamed.check = .ok () ∧ atStart.Reachable misnamed Toybox.registry ∧
      ∃ saved warnings loaded again, atStart.save 0 = .ok saved ∧
        atStart.move (.load saved) = (.ok warnings, loaded) ∧ loaded.save 0 = .ok again ∧
        loaded.move (.load again) = (.error (.loading (.unknownPassage "Hall")), loaded) := by
  obtain ⟨saved, saves, passage⟩ := atStart_saves
  obtain ⟨warnings, s, loads, here⟩ := Game.load_of_found atStart saves
    (by rw [atStart_story, passage]; rfl)
  obtain ⟨position, here, hall⟩ := Option.map_eq_some_iff.mp here
  have again : ∃ again, Game.save { atStart with session := s } 0 = .ok again ∧ again.passage = "Hall" :=
    ⟨_, by rw [Game.save, here], hall⟩
  obtain ⟨again, savesAgain, passageAgain⟩ := again
  have absent : atStart.story.passage? again.passage = none := by
    rw [atStart_story, passageAgain]
    rfl
  have refused := Game.load_of_absent { atStart with session := s } savesAgain absent
  rw [passageAgain] at refused
  exact ⟨rfl, atStart_reachable, saved, warnings, _, again, saves, loads, savesAgain, refused⟩

end BranchingStory
