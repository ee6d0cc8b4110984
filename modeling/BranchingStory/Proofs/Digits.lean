import Mathlib.Tactic.Lemma
import BranchingStory.Number.Reading

/-!
# Digits

The digits that are written for a number are read as this number, whatever else comes behind them.
-/

namespace BranchingStory

/-- Whether a text goes on with no character of some kind. -/
def EndsRun (p : Char → Bool) (rest : List Char) : Prop :=
  ∀ c, rest.head? = some c → p c = false

lemma EndsRun.takeWhile {p : Char → Bool} {rest : List Char} (ends : EndsRun p rest) :
    rest.takeWhile p = [] := by
  cases rest with
  | nil => rfl
  | cons c rest => simp only [List.takeWhile_cons, ends c rfl, Bool.false_eq_true, if_false]

lemma EndsRun.dropWhile {p : Char → Bool} {rest : List Char} (ends : EndsRun p rest) :
    rest.dropWhile p = rest := by
  cases rest with
  | nil => rfl
  | cons c rest => simp only [List.dropWhile_cons, ends c rfl, Bool.false_eq_true, if_false]

section Runs

variable {p : Char → Bool} {run rest : List Char}

lemma takeWhile_run (all : ∀ c ∈ run, p c) (ends : EndsRun p rest) : (run ++ rest).takeWhile p = run := by
  rw [List.takeWhile_append_of_pos all, ends.takeWhile, List.append_nil]

lemma dropWhile_run (all : ∀ c ∈ run, p c) (ends : EndsRun p rest) : (run ++ rest).dropWhile p = rest := by
  rw [List.dropWhile_append_of_pos all, ends.dropWhile]

end Runs

namespace Number

lemma natOfDigits_toDigits (n : Nat) : natOfDigits (Nat.toDigits 10 n) = n :=
  Nat.ofDigitChars_toDigits (by decide) (by decide)

lemma isDigit_toDigits (n : Nat) : ∀ c ∈ Nat.toDigits 10 n, c.isDigit :=
  fun _ member => Nat.isDigit_of_mem_toDigits (by decide) (by decide) member

/-- Only the number zero begins with a zero. -/
lemma head_toDigits {n : Nat} (big : 0 < n) : (Nat.toDigits 10 n).head? ≠ some '0' := by
  induction n using Nat.base_induction 10 (by decide) with
  | single d small =>
    rw [Nat.toDigits_of_lt_base small, List.head?_cons, ne_eq, Option.some_inj, Nat.digitChar_eq_zero]
    omega
  | digit more d small positive ih =>
    obtain ⟨c, cs, split⟩ := List.exists_cons_of_ne_nil (Nat.toDigits_ne_nil (n := more) (b := 10))
    have same := ih positive
    rw [split] at same
    rw [← Nat.toDigits_append_toDigits (by decide) positive small, split]
    exact same

/-- The digits of a number are one digit or begin with another digit than zero. -/
lemma toDigits_trimmed (n : Nat) :
    (Nat.toDigits 10 n).length = 1 ∨ (Nat.toDigits 10 n).head? ≠ some '0' := by
  rcases Nat.eq_zero_or_pos n with rfl | big
  · exact .inl rfl
  · exact .inr (head_toDigits big)

end Number

end BranchingStory
