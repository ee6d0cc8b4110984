import BranchingStory.Story.Basic

/-!
# Line breaks around blocks

A block leaves line breaks of its own lines behind. One of two line breaks next to a conditional goes,
neighbouring texts become one, and a passage ends in at most one line break.
-/

namespace BranchingStory.Source

def isBreak : Option ContentItem → Bool
  | some (.text "\n") => true
  | _ => false

def isConditional : Option ContentItem → Bool
  | some (.conditional _) => true
  | _ => false

/-- Whether an item stays between its neighbours: one of two line breaks goes if the other one separates
it from no conditional. -/
def stays (before? : Option ContentItem) (item : ContentItem) (after? : Option ContentItem) : Bool :=
  !isBreak (some item) ||
    !((isConditional after? && isBreak before?) || (isConditional before? && isBreak after?))

def dropBreaks (before? : Option ContentItem) : List ContentItem → List ContentItem
  | [] => []
  | item :: items =>
    if stays before? item items.head? then item :: dropBreaks (some item) items
    else dropBreaks (some item) items

/-- Makes neighbouring texts one and drops empty ones. -/
def mergeTexts : List ContentItem → List ContentItem
  | [] => []
  | .text text :: items =>
    if text.isEmpty then mergeTexts items
    else
      match mergeTexts items with
      | .text more :: rest => .text (text ++ more) :: rest
      | rest => .text text :: rest
  | item :: items => item :: mergeTexts items

mutual

def tidyInside : ContentItem → ContentItem
  | .conditional branches => .conditional (tidyBranches branches)
  | .loop vars collection body => .loop vars collection (mergeTexts (dropBreaks none (tidyItems body)))
  | item => item

def tidyBranches : List Branch → List Branch
  | [] => []
  | { condition?, content } :: branches =>
    { condition?, content := mergeTexts (dropBreaks none (tidyItems content)) } :: tidyBranches branches

def tidyItems : List ContentItem → List ContentItem
  | [] => []
  | item :: items => tidyInside item :: tidyItems items

end

def tidy (items : List ContentItem) : List ContentItem :=
  mergeTexts (dropBreaks none (tidyItems items))

/-- A text without its last line breaks but one, if there are several. -/
def trimBreaks (text : String) : String :=
  match text.toList.reverse with
  | '\n' :: '\n' :: rest => String.ofList ('\n' :: rest.dropWhile (· == '\n')).reverse
  | _ => text

/-- Takes superfluous line breaks off content that is given backwards. -/
def trimBreaksBack : List ContentItem → List ContentItem
  | .text text :: before =>
    let blank := text.toList.all (· == '\n')
    match before with
    | .conditional branches :: rest =>
      if blank then .conditional branches :: rest
      else .text (trimBreaks text) :: .conditional branches :: rest
    | .loop vars collection body :: rest =>
      if blank then .loop vars collection body :: rest
      else .text (trimBreaks text) :: .loop vars collection body :: rest
    | rest => .text (trimBreaks text) :: rest
  | items => items

/-- Content without superfluous line breaks at its end: none behind a block, and otherwise at most
one. -/
def trimEndBreaks (items : List ContentItem) : List ContentItem :=
  (trimBreaksBack items.reverse).reverse

end BranchingStory.Source
