import BranchingStory.Proofs.Play.Unreached

/-!
# The choices that are reached

Which occurrences of choices a rendering comes to, each with the scope that it is evaluated in, in the order of
evaluation: the choices inside the content as often as their loops come to them, and the choices of the passage
behind the content. What a rendering displays of an occurrence depends on its choice and its scope alone.
-/

namespace BranchingStory

open Script

variable {Obj : Type} [HostObject Obj]

/-- What is displayed of a choice that is evaluated in a scope: nothing if it was taken for good, if its guard
does not hold or if one of its arguments fails. -/
def Choice.offered? (ctx : RenderContext) (c : Choice) (s : Scope Obj) : Option (OfferedChoice Obj) :=
  if c.oneShot && ctx.consumed.contains c.key then none
  else
    match c.guard? with
    | none => offer s
    | some guard => if conditionHolds guard s then offer (evalSource guard s).2 else none
where
  offer (s : Scope Obj) : Option (OfferedChoice Obj) :=
    match evalArgs CallArgs.none c.args s with
    | (.ok args, s) => some (c.offer args (renderLabel ctx c.text s).1.content)
    | (.error _, _) => none

/-- An occurrence of a choice: the choice and the scope that it is evaluated in. -/
abbrev Occurrence (Obj : Type) := Choice × Scope Obj

/-- The occurrences in the rounds of a loop, with a body that comes to some of them in a scope. -/
def reachedRounds (vars : List String) (body : Pass Obj) (inside : Scope Obj → List (Occurrence Obj)) :
    List (Value Obj) → Scope Obj → List (Occurrence Obj)
  | [], _ => []
  | value :: values, s =>
    match bindRound vars value s with
    | (.ok (), s) =>
      inside s ++
        if (body s).1.jump?.isSome then [] else reachedRounds vars body inside values (body s).2.popFrame
    | (.error _, s) => reachedRounds vars body inside values s.popFrame

mutual

/-- The occurrences in an item that is rendered in a scope. -/
def ContentItem.reached (ctx : RenderContext) : ContentItem → Scope Obj → List (Occurrence Obj)
  | .choice c, s => [(c, s)]
  | .conditional branches, s => reachedBranches ctx branches s
  | .loop vars collection body, s =>
    match iterated collection s with
    | (.ok values, s) => reachedRounds vars (renderItems ctx body) (reachedItems ctx body) values s
    | (.error _, _) => []
  | _, _ => []

/-- The occurrences in the branch that is taken. -/
def reachedBranches (ctx : RenderContext) : List Branch → Scope Obj → List (Occurrence Obj)
  | [], _ => []
  | { condition?, content } :: branches, s =>
    match condition? with
    | none => reachedItems ctx content s
    | some code =>
      if conditionHolds code s then reachedItems ctx content (evalSource code s).2
      else reachedBranches ctx branches (evalSource code s).2

/-- The occurrences in items up to one that ends in a jump. -/
def reachedItems (ctx : RenderContext) : List ContentItem → Scope Obj → List (Occurrence Obj)
  | [], _ => []
  | item :: items, s =>
    item.reached ctx s ++
      if (renderItem ctx item s).1.jump?.isSome then [] else reachedItems ctx items (renderItem ctx item s).2

end

def reachedChoices (ctx : RenderContext) : List Choice → Scope Obj → List (Occurrence Obj)
  | [], _ => []
  | c :: choices, s => (c, s) :: reachedChoices ctx choices (renderChoice ctx c s).2

/-- The occurrences of choices that rendering a passage comes to: those inside its content, and behind it those
of its own choices. -/
def Passage.reached (p : Passage) (consumed : List String) (s : Scope Obj) : List (Occurrence Obj) :=
  reachedItems ⟨p.id, consumed⟩ p.content s ++
    reachedChoices ⟨p.id, consumed⟩ p.choices (renderItems ⟨p.id, consumed⟩ p.content s).2

/-- What is displayed of occurrences. -/
def displayed (ctx : RenderContext) (occurrences : List (Occurrence Obj)) : List (OfferedChoice Obj) :=
  occurrences.filterMap fun (c, s) => c.offered? ctx s

section Choices

variable {ctx : RenderContext}

lemma displayed_append (first second : List (Occurrence Obj)) :
    displayed ctx (first ++ second) = displayed ctx first ++ displayed ctx second :=
  List.filterMap_append

lemma displayed_cons (o : Occurrence Obj) (occurrences : List (Occurrence Obj)) :
    displayed ctx (o :: occurrences) = (o.1.offered? ctx o.2).toList ++ displayed ctx occurrences := by
  unfold displayed
  cases shown : o.1.offered? ctx o.2 with
  | none => exact List.filterMap_cons_none shown
  | some offered => exact List.filterMap_cons_some shown

lemma displayed_singleton (c : Choice) (s : Scope Obj) :
    displayed ctx [(c, s)] = (c.offered? ctx s).toList := by
  rw [displayed_cons]
  exact List.append_nil _

omit [HostObject Obj] in
lemma andThen_choices (first second : Pass Obj) (s : Scope Obj) :
    ((first.andThen second) s).1.choices =
      (first s).1.choices ++ if (first s).1.jump?.isSome then [] else (second (first s).2).1.choices := by
  simp only [Pass.andThen]
  split
  · exact (List.append_nil _).symm
  · rfl

lemma withCondition_choices (code : String) (yes no : Pass Obj) (s : Scope Obj) :
    (withCondition ctx code yes no s).1.choices =
      if conditionHolds code s then (yes (evalSource code s).2).1.choices
      else (no (evalSource code s).2).1.choices := by
  unfold withCondition Pass.attempt conditionHolds
  rcases (evalSource code s : Except EvalError (Value Obj) × Scope Obj) with ⟨reason | value, t⟩
  · exact andThen_choices _ _ t
  · simp only
    split <;> rfl

lemma offerChoice_choices (c : Choice) (s : Scope Obj) :
    (offerChoice ctx c s).1.choices = (Choice.offered?.offer ctx c s).toList := by
  unfold offerChoice withArgs Choice.offered?.offer
  rcases evalArgs CallArgs.none c.args s with ⟨reason | args, t⟩ <;> rfl

lemma renderChoice_choices (c : Choice) (s : Scope Obj) :
    (renderChoice ctx c s).1.choices = displayed ctx [(c, s)] := by
  rw [displayed_singleton]
  unfold renderChoice Choice.offered?
  split
  · rfl
  · cases c.guard? with
    | none => exact offerChoice_choices c s
    | some guard =>
      simp only [withCondition_choices, offerChoice_choices]
      split <;> rfl

lemma renderChoices_choices (choices : List Choice) (s : Scope Obj) :
    (renderChoices ctx choices s).1.choices = displayed ctx (reachedChoices ctx choices s) := by
  induction choices generalizing s with
  | nil => rfl
  | cons c choices ih =>
    rw [renderChoices, andThen_choices, renderChoice_choices, renderChoice_stays, ih]
    exact (displayed_append [(c, s)] _).symm

lemma renderEach_choices {vars : List String} {collection : String} {body : Pass Obj}
    {inside : Scope Obj → List (Occurrence Obj)} (ofBody : ∀ s, (body s).1.choices = displayed ctx (inside s))
    (values : List (Value Obj)) (s : Scope Obj) :
    (renderEach ctx vars collection body values s).1.choices =
      displayed ctx (reachedRounds vars body inside values s) := by
  induction values generalizing s with
  | nil => rfl
  | cons value values ih =>
    rw [renderEach, andThen_choices, reachedRounds]
    rcases bound : bindRound vars value s with ⟨reason | _, t⟩
    · rw [unfit_eq bound, ih]
      rfl
    · rw [round_eq bound, displayed_append, ofBody, ih]
      simp only
      split <;> rfl

mutual

/-- The choices of an item are displayed as it comes to them. -/
theorem renderItem_choices : (item : ContentItem) → (s : Scope Obj) →
    (renderItem ctx item s).1.choices = displayed ctx (item.reached ctx s)
  | .text text, s | .input name label? placeholder?, s => by
    simp only [renderItem, ContentItem.reached]
    rfl
  | .expression code format?, s => by
    simp only [renderItem, ContentItem.reached, renderExpression, Pass.attempt]
    split <;> rfl
  | .jump target args line, s | .render name args hint?, s => by
    simp only [renderItem, ContentItem.reached, withArgs]
    split <;> rfl
  | .command command, s => by
    simp only [renderItem, ContentItem.reached, Pass.attempt]
    split <;> rfl
  | .choice c, s => by
    rw [renderItem, ContentItem.reached]
    exact renderChoice_choices c s
  | .conditional branches, s => by
    rw [renderItem, ContentItem.reached]
    exact renderBranches_choices branches s
  | .loop vars collection body, s => by
    have gone : iterated collection s =
      (do EvalM.ofExcept (iterate (← evalSource collection)) : EvalM Obj (List (Value Obj))) s := rfl
    rw [renderItem, ContentItem.reached, Pass.attempt, ← gone]
    split
    · next iterates =>
      rw [iterates]
      exact renderEach_choices (renderItems_choices body) _ _
    · next failed =>
      rw [failed]
      rfl

theorem renderBranches_choices : (branches : List Branch) → (s : Scope Obj) →
    (renderBranches ctx branches s).1.choices = displayed ctx (reachedBranches ctx branches s)
  | [], s => by
    rw [renderBranches, reachedBranches]
    rfl
  | ⟨none, content⟩ :: branches, s => by
    rw [renderBranches, reachedBranches]
    exact renderItems_choices content s
  | ⟨some code, content⟩ :: branches, s => by
    rw [renderBranches, reachedBranches]
    simp only [withCondition_choices]
    split
    · exact renderItems_choices content _
    · exact renderBranches_choices branches _

theorem renderItems_choices : (items : List ContentItem) → (s : Scope Obj) →
    (renderItems ctx items s).1.choices = displayed ctx (reachedItems ctx items s)
  | [], s => by
    rw [renderItems, reachedItems]
    rfl
  | item :: items, s => by
    rw [renderItems, reachedItems, andThen_choices, displayed_append, renderItem_choices item s]
    split
    · rfl
    · rw [renderItems_choices items]

end

/-! ## Where occurrences come from -/

lemma mem_reachedRounds {vars : List String} {body : Pass Obj} {inside : Scope Obj → List (Occurrence Obj)}
    {P : Choice → Prop} (ofBody : ∀ s, ∀ o ∈ inside s, P o.1) (values : List (Value Obj)) (s : Scope Obj) :
    ∀ o ∈ reachedRounds vars body inside values s, P o.1 := by
  induction values generalizing s with
  | nil => exact nofun
  | cons value values ih =>
    rw [reachedRounds]
    split
    · next t _ =>
      refine List.forall_mem_append.mpr ⟨ofBody t, ?_⟩
      split
      · exact nofun
      · exact ih _
    · exact ih _

mutual

/-- Only choices in an item are reached in it. -/
theorem ContentItem.mem_reached : (item : ContentItem) → (s : Scope Obj) →
    ∀ o ∈ item.reached ctx s, o.1 ∈ item.nestedChoices
  | .choice c, s => by
    rw [ContentItem.reached, ContentItem.nestedChoices]
    exact fun o member => List.mem_singleton.mpr (congrArg Prod.fst (List.mem_singleton.mp member))
  | .conditional branches, s => by
    rw [ContentItem.reached, ContentItem.nestedChoices]
    exact mem_reachedBranches branches s
  | .loop vars collection body, s => by
    rw [ContentItem.reached, ContentItem.nestedChoices]
    split
    · exact mem_reachedRounds (mem_reachedItems body) _ _
    · exact nofun
  | .text _, s | .input .., s | .expression .., s | .jump .., s | .render .., s | .command _, s => by
    simp only [ContentItem.reached]
    exact nofun

theorem mem_reachedBranches : (branches : List Branch) → (s : Scope Obj) →
    ∀ o ∈ reachedBranches ctx branches s, o.1 ∈ choicesOfBranches branches
  | [], s => by
    rw [reachedBranches]
    exact nofun
  | ⟨none, content⟩ :: branches, s => by
    rw [reachedBranches, choicesOfBranches]
    exact fun o member => List.mem_append_left _ (mem_reachedItems content s o member)
  | ⟨some code, content⟩ :: branches, s => by
    rw [reachedBranches, choicesOfBranches]
    split
    · exact fun o member => List.mem_append_left _ (mem_reachedItems content _ o member)
    · exact fun o member => List.mem_append_right _ (mem_reachedBranches branches _ o member)

theorem mem_reachedItems : (items : List ContentItem) → (s : Scope Obj) →
    ∀ o ∈ reachedItems ctx items s, o.1 ∈ choicesOfItems items
  | [], s => by
    rw [reachedItems]
    exact nofun
  | item :: items, s => by
    rw [reachedItems, choicesOfItems]
    refine List.forall_mem_append.mpr ⟨?_, ?_⟩
    · exact fun o member => List.mem_append_left _ (item.mem_reached s o member)
    · split
      · exact nofun
      · exact fun o member => List.mem_append_right _ (mem_reachedItems items _ o member)

end

lemma map_reachedChoices (choices : List Choice) (s : Scope Obj) :
    (reachedChoices ctx choices s).map (·.1) = choices := by
  induction choices generalizing s with
  | nil => rfl
  | cons c choices ih => rw [reachedChoices, List.map_cons, ih]

end Choices

/-- Only choices of a passage are reached in it. -/
lemma Passage.mem_reached (p : Passage) (consumed : List String) (s : Scope Obj) :
    ∀ o ∈ p.reached consumed s, o.1 ∈ p.allChoices := by
  unfold Passage.reached Passage.allChoices
  refine List.forall_mem_append.mpr ⟨?_, ?_⟩
  · exact fun o member => List.mem_append_left _ (mem_reachedItems p.content s o member)
  · intro o member
    have own := List.mem_map_of_mem (f := Prod.fst) member
    rw [map_reachedChoices] at own
    exact List.mem_append_right _ own

/-- A passage that does not end in a jump displays what it comes to, in the order of the keys. -/
theorem Passage.render_choices {p : Passage} {consumed : List String} {s : Scope Obj}
    (stays : (p.render consumed s).1.jump? = none) :
    (p.render consumed s).1.choices = inKeyOrder (displayed ⟨p.id, consumed⟩ (p.reached consumed s)) := by
  have inside : (renderItems ⟨p.id, consumed⟩ p.content s).1.jump?.isSome = false := by
    cases jumps : (renderItems ⟨p.id, consumed⟩ p.content s).1.jump?.isSome with
    | false => rfl
    | true =>
      have whole := (p.jumps_iff consumed s).mpr jumps
      rw [stays] at whole
      cases whole
  have whole := andThen_choices (renderItems ⟨p.id, consumed⟩ p.content)
    (renderChoices ⟨p.id, consumed⟩ p.choices) s
  rw [inside, renderItems_choices, renderChoices_choices] at whole
  unfold Passage.render at stays ⊢
  simp only at stays ⊢
  split
  · next jumps =>
    rw [if_pos jumps] at stays
    rw [stays] at jumps
    cases jumps
  · simp only [whole, Passage.reached, displayed_append]
    rfl

end BranchingStory
