import BranchingStory.Proofs.Source.Tidied

/-!
# The pieces of a story

What a story says to the engine in one place of its content: a fragment to evaluate, a format, a
statement to execute, or a link to a passage. The pieces of an item are its own and those of the items
inside it, so that a property of all pieces is a property of the story at every depth.
-/

namespace BranchingStory

/-- What a story says in one place. -/
inductive Piece where
  | expression (code : String)
  | spec (text : String)
  | statement (command : Command)
  | link (target : String) (args : List Arg)

def Piece.isLink : Piece → Bool
  | .link .. => true
  | _ => false

/-- The fragments of arguments. -/
def argPieces (args : List Arg) : List Piece :=
  args.map fun arg => .expression arg.expr

/-- A link and the fragments of its arguments. -/
def linkPieces (target : String) (args : List Arg) : List Piece :=
  .link target args :: argPieces args

/-- The fragment of a guard, a condition or a default, if there is one. -/
def optionalPiece (code? : Option String) : List Piece :=
  code?.toList.map .expression

mutual

/-- The pieces of an item. A link inside the text of a choice would never be followed, and counts for
nothing. -/
def ContentItem.pieces : ContentItem → List Piece
  | .expression code format? => .expression code :: format?.toList.map .spec
  | .conditional branches => piecesOfBranches branches
  | .loop _ collection body => .expression collection :: piecesOfItems body
  | .jump target args _ => linkPieces target args
  | .render _ args _ => argPieces args
  | .command command => [.statement command]
  | .choice { text, target, args, guard?, .. } =>
    optionalPiece guard? ++ linkPieces target args ++ (piecesOfItems text).filter (!·.isLink)
  | .text _ | .input .. => []

def piecesOfBranches : List Branch → List Piece
  | [] => []
  | { condition?, content } :: branches =>
    optionalPiece condition? ++ piecesOfItems content ++ piecesOfBranches branches

def piecesOfItems : List ContentItem → List Piece
  | [] => []
  | item :: items => item.pieces ++ piecesOfItems items

end

def Choice.pieces (c : Choice) : List Piece :=
  optionalPiece c.guard? ++ linkPieces c.target c.args ++ (piecesOfItems c.text).filter (!·.isLink)

/-- The pieces of a passage: the defaults of its parameters, and those of its content, choices and
commands. -/
def Passage.pieces (p : Passage) : List Piece :=
  p.params.flatMap (optionalPiece ·.default?) ++ piecesOfItems p.content ++
    p.choices.flatMap Choice.pieces ++ p.execute.map .statement

def Story.pieces (story : Story) : List Piece :=
  story.passages.flatMap fun (_, p) => p.pieces

lemma pieces_choice (c : Choice) : (ContentItem.choice c).pieces = c.pieces := by
  cases c
  simp only [ContentItem.pieces, Choice.pieces]

lemma piecesOfItems_eq (items : List ContentItem) :
    piecesOfItems items = items.flatMap ContentItem.pieces := by
  induction items with
  | nil => simp only [piecesOfItems, List.flatMap_nil]
  | cons item items ih => simp only [piecesOfItems, ih, List.flatMap_cons]

lemma piecesOfItems_append (first second : List ContentItem) :
    piecesOfItems (first ++ second) = piecesOfItems first ++ piecesOfItems second := by
  simp only [piecesOfItems_eq, List.flatMap_append]

lemma piecesOfBranches_append (first second : List Branch) :
    piecesOfBranches (first ++ second) = piecesOfBranches first ++ piecesOfBranches second := by
  induction first with
  | nil => simp only [piecesOfBranches, List.nil_append]
  | cons branch branches ih =>
    obtain ⟨condition?, content⟩ := branch
    simp only [piecesOfBranches, List.cons_append, ih, List.append_assoc]

lemma Story.mem_pieces {story : Story} {id : String} {p : Passage} (found : story.passage? id = some p)
    {piece : Piece} (member : piece ∈ p.pieces) : piece ∈ story.pieces := by
  unfold Story.passage? Assoc.get? at found
  rw [List.lookup_eq_some_iff] at found
  obtain ⟨before, after, split, _⟩ := found
  unfold Story.pieces
  rw [split, List.mem_flatMap]
  exact ⟨(id, p), by simp, member⟩

namespace Source

/-- Texts say nothing to the engine. -/
lemma pieces_text (text : String) : (ContentItem.text text).pieces = [] := by
  simp only [ContentItem.pieces]

/-- What is dropped from items or made one with its neighbour is text. -/
lemma pieces_joined (items : List ContentItem) :
    piecesOfItems (mergeTexts (dropBreaks none items)) = piecesOfItems items := by
  simp only [piecesOfItems_eq, flatMap_mergeTexts pieces_text, flatMap_dropBreaks pieces_text]

mutual

theorem pieces_tidyInside : (item : ContentItem) → (tidyInside item).pieces = item.pieces
  | .conditional branches => by
    simp only [tidyInside, ContentItem.pieces]
    exact pieces_tidyBranches branches
  | .loop vars collection body => by
    simp only [tidyInside, ContentItem.pieces, pieces_joined]
    rw [pieces_tidyItems body]
  | .text _ | .expression .. | .jump .. | .render .. | .input .. | .command _ | .choice _ => by
    simp only [tidyInside]

theorem pieces_tidyBranches :
    (branches : List Branch) → piecesOfBranches (tidyBranches branches) = piecesOfBranches branches
  | [] => by simp only [tidyBranches]
  | { condition?, content } :: branches => by
    simp only [tidyBranches, piecesOfBranches, pieces_joined]
    rw [pieces_tidyItems content, pieces_tidyBranches branches]

theorem pieces_tidyItems :
    (items : List ContentItem) → piecesOfItems (tidyItems items) = piecesOfItems items
  | [] => by simp only [tidyItems]
  | item :: items => by
    simp only [tidyItems, piecesOfItems]
    rw [pieces_tidyInside item, pieces_tidyItems items]

end

/-- Tidying changes texts alone. -/
lemma pieces_tidy (items : List ContentItem) :
    piecesOfItems (trimEndBreaks (tidy items)) = piecesOfItems items := by
  rw [piecesOfItems_eq, flatMap_trimEndBreaks pieces_text, ← piecesOfItems_eq, tidy, pieces_joined,
    pieces_tidyItems]

end Source

end BranchingStory
