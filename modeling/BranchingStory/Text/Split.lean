import BranchingStory.Text.Blank

/-!
# Cutting texts

Lines, words, and the pieces between separators.
-/

namespace BranchingStory.Text

/-- The pieces between the characters that satisfy `p`, the open piece given last character first. -/
def splitByFrom (p : Char → Bool) (piece : List Char) : List Char → List (List Char)
  | [] => [piece.reverse]
  | c :: cs =>
    if p c then piece.reverse :: splitByFrom p [] cs else splitByFrom p (c :: piece) cs

/-- The pieces between the characters that satisfy `p`; there is one more piece than separators. -/
def splitBy (p : Char → Bool) (cs : List Char) : List (List Char) :=
  splitByFrom p [] cs

/-- The maximal runs of characters that are no white space. -/
def words (cs : List Char) : List (List Char) :=
  (splitBy isBlank cs).filter (!·.isEmpty)

def dropReturn (line : List Char) : List Char :=
  match line.reverse with
  | '\r' :: rest => rest.reverse
  | _ => line

/-- The lines of a text. A line ends with a line feed, or a carriage return and a line feed; text after
the last line feed is a line if it is not empty, and keeps its carriage return. -/
def lines (cs : List Char) : List (List Char) :=
  match (splitBy (· == '\n') cs).reverse with
  | [] => []
  | last :: ended =>
    (ended.reverse.map dropReturn) ++ (if last.isEmpty then [] else [last])

/-- Cuts at the first character equal to `sep`, which belongs to neither part. -/
def splitFirst? (sep : Char) (cs : List Char) : Option (List Char × List Char) :=
  match cs.dropWhile (· != sep) with
  | [] => none
  | _ :: rest => some (cs.takeWhile (· != sep), rest)

/-- Cuts at the last character equal to `sep`, which belongs to neither part. -/
def splitLast? (sep : Char) (cs : List Char) : Option (List Char × List Char) :=
  (splitFirst? sep cs.reverse).map fun (back, front) => (front.reverse, back.reverse)

/-- What follows `front` at the beginning of a text. -/
def dropFront? : List Char → List Char → Option (List Char)
  | [], cs => some cs
  | _ :: _, [] => none
  | f :: fs, c :: cs => if f = c then dropFront? fs cs else none

/-- What comes before `back` at the end of a text. -/
def dropBack? (back cs : List Char) : Option (List Char) :=
  (dropFront? back.reverse cs.reverse).map List.reverse

/-- Cuts at the first occurrence of `sep`, the text before it given last character first. -/
def cutAtFrom (sep : List Char) (before : List Char) : List Char → Option (List Char × List Char)
  | [] => if sep.isEmpty then some (before.reverse, []) else none
  | c :: cs =>
    match dropFront? sep (c :: cs) with
    | some rest => some (before.reverse, rest)
    | none => cutAtFrom sep (c :: before) cs

/-- Cuts at the first occurrence of the text `sep`, which belongs to neither part. -/
def cutAt? (sep cs : List Char) : Option (List Char × List Char) :=
  cutAtFrom sep [] cs

def containsText (part cs : List Char) : Bool :=
  (cutAt? part cs).isSome

/-- The pieces between the occurrences of `sep`: `skip` characters still belong to an occurrence, and
the open piece is given last character first. -/
def splitTextFrom (sep : List Char) (piece : List Char) (skip : Nat) : List Char → List (List Char)
  | [] => [piece.reverse]
  | c :: cs =>
    match skip with
    | skip + 1 => splitTextFrom sep piece skip cs
    | 0 =>
      if (dropFront? sep (c :: cs)).isSome then
        piece.reverse :: splitTextFrom sep [] (sep.length - 1) cs
      else splitTextFrom sep (c :: piece) 0 cs

/-- The pieces between the occurrences of a non-empty text, found from left to right. -/
def splitText (sep cs : List Char) : List (List Char) :=
  splitTextFrom sep [] 0 cs

/-- The texts one after another with `sep` between neighbours. -/
def joinWith (sep : List Char) (parts : List (List Char)) : List Char :=
  (parts.intersperse sep).flatten

end BranchingStory.Text
