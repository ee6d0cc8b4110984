import BranchingStory.Proofs.Assoc
import BranchingStory.Proofs.Story.Pieces
import BranchingStory.Source.Assemble

/-!
# Linked passages

What linking without a problem makes of a passage: every link, however deep inside branches and loops,
leads to a passage of the table and its arguments fit the parameters there; all other pieces are those
from before. In a linked story that is so for all passages.
-/

namespace BranchingStory

/-- Whether a link can be followed: there is a passage, and the arguments fit its parameters. -/
def LinkFits (params : List (String × List Param)) (target : String) (args : List Arg) : Prop :=
  ∃ expected, Assoc.get? params target = some expected ∧ checkArity target expected args = .ok ()

/-- Whether a piece is a link that can be followed, or one of the given pieces. -/
def Piece.LinkedFrom (params : List (String × List Param)) (before : List Piece) : Piece → Prop
  | .link target args => LinkFits params target args
  | piece => piece ∈ before

namespace Source

variable {params : List (String × List Param)}

/-- More pieces before linking change nothing. -/
lemma LinkedFrom.mono {before more : List Piece} (sub : before ⊆ more) {piece : Piece}
    (linked : piece.LinkedFrom params before) : piece.LinkedFrom params more := by
  cases piece with
  | link target args => exact linked
  | expression | spec | statement => exact sub linked

lemma LinkedFrom.of_mem {before : List Piece} {piece : Piece} (noLink : piece.isLink = false)
    (member : piece ∈ before) : piece.LinkedFrom params before := by
  cases piece with
  | link target args => cases noLink
  | expression | spec | statement => exact member

lemma isLink_of_mem_argPieces {args : List Arg} {piece : Piece} (member : piece ∈ argPieces args) :
    piece.isLink = false := by
  obtain ⟨arg, _, rfl⟩ := List.mem_map.mp member
  rfl

lemma isLink_of_mem_optionalPiece {code? : Option String} {piece : Piece}
    (member : piece ∈ optionalPiece code?) : piece.isLink = false := by
  obtain ⟨code, _, rfl⟩ := List.mem_map.mp member
  rfl

/-- Linking without a problem finds a passage that takes the arguments. -/
lemma link_fits {scope : LinkScope} {target : String} {args : List Arg} {line : Nat}
    (clean : (link scope target args line).2 = []) :
    LinkFits scope.params (link scope target args line).1 args := by
  unfold link at clean ⊢
  simp only at clean ⊢
  cases resolved : resolve target scope.group? (Assoc.keys scope.params) with
  | none =>
    rw [resolved] at clean
    cases clean
  | some id =>
    have present : id ∈ Assoc.keys scope.params := by
      simpa using List.find?_some resolved
    obtain ⟨expected, found⟩ := Option.isSome_iff_exists.mp (Assoc.get?_isSome_iff.mpr present)
    rw [resolved] at clean
    simp only [found, Option.getD_some] at clean ⊢
    cases checked : checkArity id expected args with
    | ok _ =>
      simp only
      exact ⟨expected, found, checked⟩
    | error reason =>
      rw [checked] at clean
      cases clean

lemma linked_linkPieces {scope : LinkScope} {target : String} {args : List Arg} {line : Nat}
    (clean : (link scope target args line).2 = []) :
    ∀ piece ∈ linkPieces (link scope target args line).1 args,
      piece.LinkedFrom scope.params (linkPieces target args) := by
  intro piece member
  rcases List.mem_cons.mp member with rfl | ofArgs
  · exact link_fits clean
  · exact LinkedFrom.of_mem (isLink_of_mem_argPieces ofArgs) (List.mem_cons_of_mem _ ofArgs)

lemma linked_choice {scope : LinkScope} {c : Choice} (clean : (linkChoice scope c).2 = []) :
    ∀ piece ∈ (linkChoice scope c).1.pieces, piece.LinkedFrom scope.params c.pieces := by
  intro piece member
  unfold Choice.pieces at member
  simp only [List.mem_append] at member
  rcases member with (ofGuard | ofLink) | ofText
  · exact LinkedFrom.of_mem (isLink_of_mem_optionalPiece ofGuard)
      (List.mem_append_left _ (List.mem_append_left _ ofGuard))
  · refine LinkedFrom.mono ?_ (linked_linkPieces clean piece ofLink)
    intro other inLink
    exact List.mem_append_left _ (List.mem_append_right _ inLink)
  · refine LinkedFrom.of_mem ?_ (List.mem_append_right _ ofText)
    simpa using (List.mem_filter.mp ofText).2

mutual

/-- The pieces of an item after linking without a problem. -/
theorem linked_item {scope : LinkScope} : (item : ContentItem) → (linkItem scope item).2 = [] →
    ∀ piece ∈ (linkItem scope item).1.pieces, piece.LinkedFrom scope.params item.pieces
  | .jump target args line, clean => by
    simp only [linkItem, ContentItem.pieces] at clean ⊢
    exact linked_linkPieces clean
  | .choice c, clean => by
    simp only [linkItem, pieces_choice] at clean ⊢
    exact linked_choice clean
  | .conditional branches, clean => by
    simp only [linkItem, ContentItem.pieces] at clean ⊢
    exact linked_branches branches clean
  | .loop vars collection body, clean => by
    simp only [linkItem, ContentItem.pieces] at clean ⊢
    intro piece member
    rcases List.mem_cons.mp member with rfl | inside
    · exact LinkedFrom.of_mem rfl List.mem_cons_self
    · exact LinkedFrom.mono (List.subset_cons_self _ _) (linked_items body clean piece inside)
  | .text _, _ | .input .., _ => by
    simp only [linkItem, ContentItem.pieces]
    exact nofun
  | .expression code format?, _ => by
    simp only [linkItem, ContentItem.pieces]
    intro piece member
    refine LinkedFrom.of_mem ?_ member
    rcases List.mem_cons.mp member with rfl | ofFormat
    · rfl
    · obtain ⟨spec, _, rfl⟩ := List.mem_map.mp ofFormat
      rfl
  | .render name args hint?, _ => by
    simp only [linkItem, ContentItem.pieces]
    exact fun piece member => LinkedFrom.of_mem (isLink_of_mem_argPieces member) member
  | .command command, _ => by
    simp only [linkItem, ContentItem.pieces]
    intro piece member
    refine LinkedFrom.of_mem ?_ member
    rw [List.mem_singleton.mp member]
    rfl

theorem linked_branches {scope : LinkScope} : (branches : List Branch) →
    (linkBranches scope branches).2 = [] →
    ∀ piece ∈ piecesOfBranches (linkBranches scope branches).1,
      piece.LinkedFrom scope.params (piecesOfBranches branches)
  | [], _ => by
    simp only [linkBranches, piecesOfBranches]
    exact nofun
  | { condition?, content } :: branches, clean => by
    simp only [linkBranches, List.append_eq_nil_iff] at clean
    simp only [linkBranches, piecesOfBranches, List.mem_append]
    intro piece member
    rcases member with (ofCondition | inside) | behind
    · exact LinkedFrom.of_mem (isLink_of_mem_optionalPiece ofCondition)
        (List.mem_append_left _ (List.mem_append_left _ ofCondition))
    · refine LinkedFrom.mono ?_ (linked_items content clean.1 piece inside)
      intro other member
      exact List.mem_append_left _ (List.mem_append_right _ member)
    · exact LinkedFrom.mono (List.subset_append_right _ _)
        (linked_branches branches clean.2 piece behind)

theorem linked_items {scope : LinkScope} : (items : List ContentItem) →
    (linkItems scope items).2 = [] →
    ∀ piece ∈ piecesOfItems (linkItems scope items).1,
      piece.LinkedFrom scope.params (piecesOfItems items)
  | [], _ => by
    simp only [linkItems, piecesOfItems]
    exact nofun
  | item :: items, clean => by
    simp only [linkItems, List.append_eq_nil_iff] at clean
    simp only [linkItems, piecesOfItems, List.mem_append]
    intro piece member
    rcases member with first | behind
    · exact LinkedFrom.mono (List.subset_append_left _ _) (linked_item item clean.1 piece first)
    · exact LinkedFrom.mono (List.subset_append_right _ _) (linked_items items clean.2 piece behind)

end

lemma linked_choices {scope : LinkScope} (choices : List Choice)
    (clean : (linkChoices scope choices).2 = []) :
    ∀ piece ∈ (linkChoices scope choices).1.flatMap Choice.pieces,
      piece.LinkedFrom scope.params (choices.flatMap Choice.pieces) := by
  induction choices with
  | nil =>
    simp only [linkChoices, List.flatMap_nil]
    exact nofun
  | cons c choices ih =>
    simp only [linkChoices, List.append_eq_nil_iff] at clean
    simp only [linkChoices, List.flatMap_cons, List.mem_append]
    intro piece member
    rcases member with first | behind
    · exact LinkedFrom.mono (List.subset_append_left _ _) (linked_choice clean.1 piece first)
    · exact LinkedFrom.mono (List.subset_append_right _ _) (ih clean.2 piece behind)

/-- The pieces of a passage after linking without a problem. -/
lemma linked_passage {file : String} {p : Passage} (clean : (linkPassage params file p).2 = []) :
    ∀ piece ∈ (linkPassage params file p).1.pieces, piece.LinkedFrom params p.pieces := by
  simp only [linkPassage, List.append_eq_nil_iff] at clean
  intro piece member
  simp only [linkPassage, Passage.pieces, pieces_tidy, List.mem_append] at member
  unfold Passage.pieces
  rcases member with ((ofParams | inContent) | inChoices) | ofCommands
  · obtain ⟨param, _, ofDefault⟩ := List.mem_flatMap.mp ofParams
    refine LinkedFrom.of_mem (isLink_of_mem_optionalPiece ofDefault) ?_
    simp only [List.mem_append]
    exact .inl (.inl (.inl ofParams))
  · refine LinkedFrom.mono ?_ (linked_items p.content clean.1 piece inContent)
    intro other inside
    simp only [List.mem_append]
    exact .inl (.inl (.inr inside))
  · refine LinkedFrom.mono ?_ (linked_choices p.choices clean.2 piece inChoices)
    intro other inside
    simp only [List.mem_append]
    exact .inl (.inr inside)
  · refine LinkedFrom.of_mem ?_ (List.mem_append_right _ ofCommands)
    obtain ⟨command, _, rfl⟩ := List.mem_map.mp ofCommands
    rfl

end Source

end BranchingStory
