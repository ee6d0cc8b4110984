import Mathlib.Tactic.Lemma

/-!
# Answers

When a computation that may be refused has an answer: all its parts have one, and nothing that it checks
for is the case. A refusal is that of a part or of a check.
-/

namespace BranchingStory

variable {ε α β : Type}

lemma bind_eq_ok {m : Except ε α} {next : α → Except ε β} {b : β} :
    (m >>= next) = .ok b ↔ ∃ a, m = .ok a ∧ next a = .ok b := by
  cases m with
  | error reason =>
    constructor
    · intro h
      cases h
    · rintro ⟨_, h, _⟩
      cases h
  | ok a =>
    constructor
    · intro h
      exact ⟨a, rfl, h⟩
    · rintro ⟨_, same, h⟩
      cases same
      exact h

lemma pure_eq_ok {a b : α} : (pure a : Except ε α) = .ok b ↔ a = b :=
  ⟨Except.ok.inj, congrArg Except.ok⟩

/-- Behind a check there is an answer if the check does not refuse. -/
lemma check_eq_ok {c : Prop} [Decidable c] {reason : ε} {next : PUnit → Except ε α} {rest : Except ε α}
    {b : α} :
    (if c then (throw reason >>= next : Except ε α) else rest) = .ok b ↔ ¬c ∧ rest = .ok b := by
  by_cases refused : c
  · simp only [refused, if_true, not_true_eq_false, false_and, iff_false]
    exact nofun
  · simp only [refused, if_false, not_false_eq_true, true_and]

lemma refuse_eq_ok {c : Prop} [Decidable c] {reason : ε} {rest : Except ε α} {a : α} :
    (if c then .error reason else rest) = .ok a ↔ ¬c ∧ rest = .ok a := by
  by_cases refused : c
  · simp only [refused, if_true, not_true_eq_false, false_and, reduceCtorEq]
  · simp only [refused, if_false, not_false_eq_true, true_and]

lemma mapError_eq_ok {ε' : Type} {f : ε → ε'} {m : Except ε α} {a : α} :
    m.mapError f = .ok a ↔ m = .ok a := by
  cases m with
  | error reason => exact ⟨nofun, nofun⟩
  | ok b => exact ⟨fun h => congrArg _ (Except.ok.inj h), fun h => congrArg _ (Except.ok.inj h)⟩

lemma map_eq_ok {f : α → β} {m : Except ε α} {b : β} : m.map f = .ok b ↔ ∃ a, m = .ok a ∧ f a = b := by
  cases m with
  | error reason => exact ⟨nofun, nofun⟩
  | ok a =>
    constructor
    · intro h
      exact ⟨a, rfl, Except.ok.inj h⟩
    · rintro ⟨_, same, rfl⟩
      cases same
      rfl

/-- What is mapped behind a part may be mapped behind the whole. -/
lemma bind_eq_map {γ : Type} {m : Except ε α} {next : α → Except ε γ} {first : α → Except ε β} {f : β → γ}
    (same : ∀ a, next a = (first a).map f) : (m >>= next) = (m >>= first).map f := by
  cases m with
  | error reason => rfl
  | ok a => exact same a

lemma toOption_eq_some {m : Except ε α} {a : α} : m.toOption = some a ↔ m = .ok a := by
  cases m with
  | error reason => exact ⟨nofun, nofun⟩
  | ok b => exact ⟨fun h => congrArg _ (Option.some.inj h), fun h => congrArg _ (Except.ok.inj h)⟩

section Refusals

variable {reason : ε}

lemma bind_refused {m : Except ε α} {next : α → Except ε β} :
    (m >>= next) = .error reason ↔ m = .error reason ∨ ∃ a, m = .ok a ∧ next a = .error reason := by
  cases m with
  | error other =>
    constructor
    · intro h
      exact .inl (congrArg _ (Except.error.inj h))
    · rintro (h | ⟨_, h, _⟩)
      · exact congrArg _ (Except.error.inj h)
      · cases h
  | ok a =>
    constructor
    · intro h
      exact .inr ⟨a, rfl, h⟩
    · rintro (h | ⟨_, same, h⟩)
      · cases h
      · cases same
        exact h

/-- Behind a check there is a refusal if the check refuses, or what follows it does. -/
lemma check_refused {c : Prop} [Decidable c] {other : ε} {next : PUnit → Except ε α}
    {rest : Except ε α} :
    (if c then (throw other >>= next : Except ε α) else rest) = .error reason ↔
      c ∧ other = reason ∨ ¬c ∧ rest = .error reason := by
  by_cases refused : c
  · simp only [refused, if_true, true_and, not_true_eq_false, false_and, or_false]
    exact ⟨Except.error.inj, congrArg _⟩
  · simp only [refused, if_false, false_and, not_false_eq_true, true_and, false_or]

/-- A row is refused for one of its members. -/
lemma mapM_refused {f : α → Except ε β} {xs : List α} (refused : xs.mapM f = .error reason) :
    ∃ x ∈ xs, f x = .error reason := by
  induction xs with
  | nil => cases refused
  | cons x xs ih =>
    rw [List.mapM_cons] at refused
    rcases bind_refused.mp refused with first | ⟨_, _, later⟩
    · exact ⟨x, List.mem_cons_self, first⟩
    · rcases bind_refused.mp later with later | ⟨_, _, never⟩
      · obtain ⟨y, behind, refused⟩ := ih later
        exact ⟨y, List.mem_cons_of_mem x behind, refused⟩
      · cases never

end Refusals

/-- What is made of a list of items is made of single items. -/
lemma exists_of_mapM {f : α → Except ε β} {xs : List α} {ys : List β} (made : xs.mapM f = .ok ys) :
    ∀ y ∈ ys, ∃ x ∈ xs, f x = .ok y := by
  induction xs generalizing ys with
  | nil =>
    cases made
    exact nofun
  | cons x xs ih =>
    simp only [List.mapM_cons, bind_eq_ok, pure_eq_ok] at made
    obtain ⟨y, first, rest, later, rfl⟩ := made
    refine List.forall_mem_cons.mpr ⟨⟨x, List.mem_cons_self, first⟩, fun z member => ?_⟩
    obtain ⟨w, inRest, same⟩ := ih later z member
    exact ⟨w, List.mem_cons_of_mem _ inRest, same⟩

end BranchingStory
