import BranchingStory.Proofs.Play.Chain
import BranchingStory.Play.Game

/-!
# Loading a game

What loading does, check after check: version, passage, variables and arguments; then the passage is
shown with what was read.
-/

namespace BranchingStory

variable {Obj : Type} [HostObject Obj]

namespace Game

/-- The session that goes on from variables and arguments in a passage, which is shown again, and the
warning if the passage jumps away. -/
def resume (g : Game Obj) (p : Passage) (consumed : List String) (vars args : Vars Obj) :
    Warned (Session Obj) :=
  let shown := p.shown consumed vars args g.session.generator g.bindings
  (⟨vars, consumed, shown.2, some ⟨p.id, args, outputOf p shown.1⟩⟩,
    if shown.1.jump?.isSome then [jumpsOnRender p.id] else [])

/-- The warning if a saved game belongs to another story. -/
def foreign (g : Game Obj) (saved : SavedGame) : List String :=
  if saved.storyId = g.story.metadata.identity then []
  else [foreignSave saved.storyId g.story.metadata.identity]

/-- Loading checks the version and the passage, reads variables and arguments, and shows the passage. -/
lemma load_eq (g : Game Obj) (saved : SavedGame) :
    g.load saved =
      if saved.formatVersion ≠ SavedGame.currentFormat then
        .error (.badVersion saved.formatVersion SavedGame.currentFormat)
      else
        match g.story.passage? saved.passage with
        | none => .error (.unknownPassage saved.passage)
        | some p =>
          match g.decodeVars saved.state with
          | .error fault => .error fault
          | .ok (vars, ofVars) =>
            match g.decodeVars saved.args with
            | .error fault => .error fault
            | .ok (args, ofArgs) =>
              let (s, jumps) := g.resume p saved.consumed.eraseDups vars args
              .ok (s, g.foreign saved ++ ofVars ++ ofArgs ++ jumps) := by
  unfold load
  by_cases version : saved.formatVersion = SavedGame.currentFormat
  · simp only [version, ne_eq, not_true_eq_false, if_false]
    cases g.story.passage? saved.passage with
    | none => rfl
    | some p =>
      rcases g.decodeVars saved.state with fault | ⟨vars, ofVars⟩
      · rfl
      · rcases g.decodeVars saved.args with fault | ⟨args, ofArgs⟩ <;> rfl
  · simp only [version, ne_eq, not_false_eq_true, if_true]
    rfl

end Game

end BranchingStory
