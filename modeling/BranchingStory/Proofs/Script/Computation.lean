import Mathlib.Tactic.Lemma
import BranchingStory.Script.Eval
import BranchingStory.Play.Session

/-!
# Running computations in a scope

What the steps of a computation that may fail do to its state: the state is there also behind a failure,
and nothing runs after one.
-/

namespace BranchingStory

variable {ε σ α β : Type}

/-- A computation runs behind one that succeeds. -/
lemma bind_apply (m : ExceptT ε (StateM σ) α) (next : α → ExceptT ε (StateM σ) β) (s : σ) :
    (m >>= next) s =
      match (m s : Except ε α × σ) with
      | (.ok a, s) => next a s
      | (.error reason, s) => (.error reason, s) := by
  change (match (m s : Except ε α × σ) with | (answer, s) => ExceptT.bindCont next answer s) = _
  rcases (m s : Except ε α × σ) with ⟨answer | answer, s⟩ <;> rfl

/-- A computation in two parts fails in the first one, or in the second one behind it. -/
lemma bind_eq_error {m : ExceptT ε (StateM σ) α} {next : α → ExceptT ε (StateM σ) β} {s s' : σ}
    {reason : ε} (failed : (m >>= next) s = (.error reason, s')) :
    m s = (.error reason, s') ∨ ∃ a s₁, m s = (.ok a, s₁) ∧ next a s₁ = (.error reason, s') := by
  rw [bind_apply] at failed
  rcases ran : (m s : Except ε α × σ) with ⟨reason' | a, s₁⟩
  · rw [ran] at failed
    cases failed
    exact .inl rfl
  · rw [ran] at failed
    exact .inr ⟨a, s₁, rfl, failed⟩

/-- A computation in two parts succeeds if both do, the second one behind the first. -/
lemma bind_apply_eq_ok {m : ExceptT ε (StateM σ) α} {next : α → ExceptT ε (StateM σ) β} {s s' : σ}
    {b : β} :
    (m >>= next) s = (.ok b, s') ↔ ∃ a s₁, m s = (.ok a, s₁) ∧ next a s₁ = (.ok b, s') := by
  rw [bind_apply]
  rcases (m s : Except ε α × σ) with ⟨reason | a, s₁⟩
  · exact ⟨nofun, nofun⟩
  · constructor
    · intro rest
      exact ⟨a, s₁, rfl, rest⟩
    · rintro ⟨_, _, same, rest⟩
      cases same
      exact rest

end BranchingStory
