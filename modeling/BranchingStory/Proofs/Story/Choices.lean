import BranchingStory.Proofs.Source.Tidied
import BranchingStory.Source.Assemble

/-!
# The choices of a passage

All choices of a passage at every depth, part by part. Tidying leaves them as they are, and linking changes
nothing but their targets.
-/

namespace BranchingStory

lemma choicesOfItems_eq (items : List ContentItem) :
    choicesOfItems items = items.flatMap ContentItem.nestedChoices := by
  induction items with
  | nil => rfl
  | cons item items ih => rw [choicesOfItems, ih, List.flatMap_cons]

lemma choicesOfBranches_eq (branches : List Branch) :
    choicesOfBranches branches = branches.flatMap (choicesOfItems ·.content) := by
  induction branches with
  | nil => rfl
  | cons branch branches ih =>
    obtain ⟨condition?, content⟩ := branch
    rw [choicesOfBranches, ih, List.flatMap_cons]

lemma choicesOfItems_append (first second : List ContentItem) :
    choicesOfItems (first ++ second) = choicesOfItems first ++ choicesOfItems second := by
  simp only [choicesOfItems_eq, List.flatMap_append]

lemma choicesOfItems_singleton (item : ContentItem) : choicesOfItems [item] = item.nestedChoices := by
  simp only [choicesOfItems_eq, List.flatMap_singleton]

lemma choicesOfBranches_append (first second : List Branch) :
    choicesOfBranches (first ++ second) = choicesOfBranches first ++ choicesOfBranches second := by
  simp only [choicesOfBranches_eq, List.flatMap_append]

namespace Source

/-! ## Tidying -/

lemma nestedChoices_text (text : String) : (ContentItem.text text).nestedChoices = [] := by
  rw [ContentItem.nestedChoices] <;> exact nofun

/-- What is dropped from items or made one with its neighbour is text. -/
lemma choices_joined (items : List ContentItem) :
    choicesOfItems (mergeTexts (dropBreaks none items)) = choicesOfItems items := by
  simp only [choicesOfItems_eq, flatMap_mergeTexts nestedChoices_text, flatMap_dropBreaks nestedChoices_text]

mutual

theorem choices_tidyInside : (item : ContentItem) → (tidyInside item).nestedChoices = item.nestedChoices
  | .conditional branches => by
    simp only [tidyInside, ContentItem.nestedChoices]
    exact choices_tidyBranches branches
  | .loop vars collection body => by
    simp only [tidyInside, ContentItem.nestedChoices, choices_joined]
    exact choices_tidyItems body
  | .text _ | .expression .. | .jump .. | .render .. | .input .. | .command _ | .choice _ => by
    simp only [tidyInside]

theorem choices_tidyBranches :
    (branches : List Branch) → choicesOfBranches (tidyBranches branches) = choicesOfBranches branches
  | [] => by simp only [tidyBranches]
  | { condition?, content } :: branches => by
    simp only [tidyBranches, choicesOfBranches, choices_joined]
    rw [choices_tidyItems content, choices_tidyBranches branches]

theorem choices_tidyItems :
    (items : List ContentItem) → choicesOfItems (tidyItems items) = choicesOfItems items
  | [] => by simp only [tidyItems]
  | item :: items => by
    simp only [tidyItems, choicesOfItems]
    rw [choices_tidyInside item, choices_tidyItems items]

end

/-- Tidying leaves all choices as they are. -/
lemma choices_tidy (items : List ContentItem) :
    choicesOfItems (trimEndBreaks (tidy items)) = choicesOfItems items := by
  rw [choicesOfItems_eq, flatMap_trimEndBreaks nestedChoices_text, ← choicesOfItems_eq, tidy, choices_joined,
    choices_tidyItems]

/-! ## Linking -/

section Linking

variable (scope : LinkScope)

/-- A choice with its target resolved. -/
def LinkScope.linked (c : Choice) : Choice :=
  { c with target := (link scope c.target c.args c.line).1 }

mutual

theorem choices_linkItem : (item : ContentItem) →
    (linkItem scope item).1.nestedChoices = item.nestedChoices.map scope.linked
  | .choice c => by
    simp only [linkItem, ContentItem.nestedChoices, List.map_singleton]
    rfl
  | .conditional branches => by
    simp only [linkItem, ContentItem.nestedChoices]
    exact choices_linkBranches branches
  | .loop vars collection body => by
    simp only [linkItem, ContentItem.nestedChoices]
    exact choices_linkItems body
  | .text _ | .expression .. | .jump .. | .render .. | .input .. | .command _ => by
    simp only [linkItem, ContentItem.nestedChoices, List.map_nil]

theorem choices_linkBranches : (branches : List Branch) →
    choicesOfBranches (linkBranches scope branches).1 = (choicesOfBranches branches).map scope.linked
  | [] => by simp only [linkBranches, choicesOfBranches, List.map_nil]
  | { condition?, content } :: branches => by
    simp only [linkBranches, choicesOfBranches, List.map_append]
    rw [choices_linkItems content, choices_linkBranches branches]

theorem choices_linkItems : (items : List ContentItem) →
    choicesOfItems (linkItems scope items).1 = (choicesOfItems items).map scope.linked
  | [] => by simp only [linkItems, choicesOfItems, List.map_nil]
  | item :: items => by
    simp only [linkItems, choicesOfItems, List.map_append]
    rw [choices_linkItem item, choices_linkItems items]

end

lemma linkChoices_eq (choices : List Choice) : (linkChoices scope choices).1 = choices.map scope.linked := by
  induction choices with
  | nil => rfl
  | cons c choices ih =>
    rw [linkChoices, List.map_cons, ← ih]
    rfl

end Linking

/-- Linking a passage resolves the targets of all its choices, and changes them in nothing else. -/
theorem allChoices_linkPassage (params : List (String × List Param)) (file : String) (p : Passage) :
    (linkPassage params file p).1.allChoices =
      p.allChoices.map (LinkScope.linked ⟨params, p.namespace?, file⟩) := by
  unfold Passage.allChoices
  rw [List.map_append, ← choices_linkItems, ← linkChoices_eq, ← choices_tidy (linkItems _ _).1]
  rfl

end Source

end BranchingStory
