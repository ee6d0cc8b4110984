import BranchingStory.Source.Fault

/-!
# Located faults

A problem is a fault with the file and line where it was found; line zero is the file as a whole.
Problems are reported in the order of files and lines.
-/

namespace BranchingStory

/-- The name of a source text that comes from no file. -/
def inlineLabel : String := "<source>"

/-- A fault with its place. -/
structure Problem where
  fault : Fault
  file : String
  line : Nat

namespace Problem

def display (p : Problem) : String :=
  p.fault.kind.title ++ " in " ++ p.file ++ " on line " ++ toString p.line ++ ": " ++ p.fault.message

/-- Whether a problem is reported before another one or with it. -/
def precedes (a b : Problem) : Bool :=
  a.file < b.file || (a.file == b.file && a.line ≤ b.line)

/-- Problems in the order of report; those of one line stay in their order. -/
def sort (problems : List Problem) : List Problem :=
  problems.mergeSort precedes

def displayAll (problems : List Problem) : String :=
  toString problems.length ++ " compile error(s)" ++
    String.join (problems.map fun p => "\n  " ++ p.display)

def lineMarker (number : Nat) : List Char :=
  let digits := Nat.toDigits 10 number
  [' ', ' '] ++ List.replicate (4 - digits.length) ' ' ++ digits ++ [' ', '|', ' ']

/-- The pointer under the text of a line; it is at most sixty characters long. -/
def pointer (marker text : List Char) : List Char :=
  List.replicate (marker.length + Text.byteLength (Text.indentation text)) ' ' ++
    List.replicate (max 1 (min (Text.trim text).length 60)) '^'

/-- A line of context, and under the line of the problem a pointer. -/
def contextLine (line number : Nat) (text : List Char) : List Char :=
  let marker := lineMarker number
  marker ++ text ++ ['\n'] ++ if number = line then pointer marker text ++ ['\n'] else []

/-- The problem with two lines of context on either side; `source` is the text of its file. -/
def context (p : Problem) (source : String) : String :=
  let lines := Text.lines source.toList
  let head := p.fault.kind.title ++ "\n  " ++ p.fault.message ++ "\n\n"
  if p.line = 0 ∨ lines.length < p.line then head
  else
    let skipped := p.line - 3
    let shown := (lines.drop skipped).take (p.line + 2 - skipped)
    let body := shown.zipIdx.flatMap fun (text, i) => contextLine p.line (skipped + i + 1) text
    let hint :=
      match p.fault.hint? with
      | some hint => "\n  Hint: " ++ hint ++ "\n"
      | none => ""
    head ++ String.ofList body ++ hint

end Problem

end BranchingStory
