import BranchingStory.Proofs.Play.Loading
import BranchingStory.Proofs.Play.Reachable

/-!
# What a move comes to

The outcomes of a move: a refusal, the end of a chain, new variables, or a game that was loaded. What
all moves keep is shown with one case for each of them.
-/

namespace BranchingStory

variable {Obj : Type} [HostObject Obj]

/-- What a move answers and the session behind it. -/
inductive Game.Outcome (g : Game Obj) :
    Move Obj → Except PlayError (List String) → Session Obj → Prop where
  | refused {m reason} :
    g.after m = .error reason →
    Outcome g m (.error reason) g.session
  | stepped {m d chain s} :
    g.Departs m d →
    g.follow d = .ok (chain, s) →
    Outcome g m (.ok []) (s.arrive chain)
  | submitted (values : List (String × Value Obj)) :
    Outcome g (.submit values) (.ok []) (g.session.submit values)
  | set (name : String) (value : Value Obj) :
    Outcome g (.setVar name value) (.ok []) (g.session.setVar name value)
  | loaded {saved p vars ofVars args ofArgs} :
    saved.formatVersion = SavedGame.currentFormat →
    g.story.passage? saved.passage = some p →
    g.decodeVars saved.state = .ok (vars, ofVars) →
    g.decodeVars saved.args = .ok (args, ofArgs) →
    Outcome g (.load saved)
      (.ok (g.foreign saved ++ ofVars ++ ofArgs ++ (g.resume p saved.consumed.eraseDups vars args).2))
      (g.resume p saved.consumed.eraseDups vars args).1

namespace Game

variable (g : Game Obj)

/-- A game is loaded only if the version and the passage are known and the variables can be read. -/
lemma load_outcome (saved : SavedGame) :
    g.Outcome (.load saved) (g.move (.load saved)).1 (g.move (.load saved)).2.session := by
  rw [move_eq]
  cases loaded : g.load saved with
  | error fault =>
    have refused : g.after (.load saved) = .error (.loading fault) := by
      rw [after, loaded]
      rfl
    rw [refused]
    exact .refused refused
  | ok result =>
    have done : g.after (.load saved) = .ok result := by
      rw [after, loaded]
      rfl
    rw [done]
    rw [load_eq] at loaded
    split at loaded
    · cases loaded
    · next version =>
      split at loaded
      · cases loaded
      · next p found =>
        split at loaded
        · cases loaded
        · next vars ofVars ofState =>
          split at loaded
          · cases loaded
          · next args more ofArgs =>
            cases loaded
            exact .loaded (Decidable.not_not.mp version) found ofState ofArgs

/-- Every move comes to one of the outcomes. -/
theorem outcome (m : Move Obj) : g.Outcome m (g.move m).1 (g.move m).2.session := by
  have departed {d : Departure Obj} (departs : g.Departs m d) :
      g.Outcome m (g.move m).1 (g.move m).2.session := by
    have after := departs.after_eq
    rw [move_eq]
    cases followed : g.follow d with
    | error reason =>
      rw [followed] at after
      rw [after]
      exact .refused after
    | ok result =>
      rw [followed] at after
      rw [after]
      exact .stepped departs followed
  cases m with
  | start => exact departed .start
  | enter id call => exact departed (.enter id call)
  | choose index =>
    rcases g.departs_or_refused (m := .choose index) rfl with ⟨d, departs⟩ | ⟨reason, refused, _⟩
    · exact departed departs
    · rw [move_eq, refused]
      exact .refused refused
  | submit values => exact .submitted values
  | setVar name value => exact .set name value
  | load saved => exact g.load_outcome saved

end Game

end BranchingStory
