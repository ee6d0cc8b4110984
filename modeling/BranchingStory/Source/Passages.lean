import BranchingStory.Source.Draft

/-!
# From lines to passages

The lines of a source text from top to bottom: headers open passages, `@metadata`, `@script:` and `~`
may take several lines, and every other line goes to the passage that is open.
-/

namespace BranchingStory.Source

open Text

/-- The declaration of the first passage. -/
structure Start where
  target : String
  origin : SourceLine

/-- What has been read so far. -/
structure Reading where
  /-- The finished passages in their order. -/
  done : List Draft
  current? : Option Draft
  start? : Option Start
  metadata : Metadata
  /-- Whether text outside passages has been warned of. -/
  warned : Bool
  problems : List Problem
  warnings : List String

namespace Reading

def empty : Reading :=
  { done := [], current? := none, start? := none, metadata := Metadata.empty, warned := false
    problems := [], warnings := [] }

def report (r : Reading) (l : SourceLine) (fault : Fault) : Reading :=
  { r with problems := r.problems ++ [l.problem fault] }

def close (r : Reading) : Reading :=
  match r.current? with
  | none => r
  | some d =>
    { r with done := r.done ++ [d], current? := none, problems := r.problems ++ d.unclosed }

/-- Goes on with a changed passage, and reports the fault of the change. -/
def advance (r : Reading) (l : SourceLine) (outcome : Draft × Option Fault) : Reading :=
  let r := { r with current? := some outcome.1 }
  match outcome.2 with
  | some fault => r.report l fault
  | none => r

def openPassage (r : Reading) (l : SourceLine) (header : List Char) : Reading :=
  match readHeader header with
  | .ok passage => { r.close with current? := some (Draft.start passage l) }
  | .error fault => r.close.report l fault

def declareStart (r : Reading) (l : SourceLine) (arg : List Char) : Reading :=
  let target := trim (stripComment arg)
  if isPassageName target then { r with start? := some ⟨String.ofList target, l⟩ }
  else r.report l .badStart

def stray (r : Reading) (l : SourceLine) : Reading :=
  if isBlankText l.text || r.warned then r
  else
    { r with
      warned := true
      warnings := r.warnings ++
        [l.file ++ " line " ++ toString l.line ++ ": text outside any passage is ignored"] }

end Reading

def setMetadata (m : Metadata) (key value : String) : Metadata :=
  match key with
  | "title" => { m with title? := some value }
  | "author" => { m with author? := some value }
  | "version" => { m with version? := some value }
  | "story_id" => { m with storyId? := some value }
  | key => { m with custom := Assoc.insert m.custom key value }

/-- Reads indented entries of metadata, and gives the lines from the first other one on. Blank lines are
passed over. -/
def readMetadata (m : Metadata) : List SourceLine → Metadata × List SourceLine
  | [] => (m, [])
  | l :: lines =>
    if isBlankText l.text then readMetadata m lines
    else
      match splitFirst? ':' (trim l.text) with
      | some (key, value) =>
        if (indentation l.text).isEmpty then (m, l :: lines)
        else
          readMetadata (setMetadata m (String.ofList (trim key)) (String.ofList (trim value))) lines
      | none => (m, l :: lines)

/-- Joins the lines to a statement for as long as a bracket or a quote in it is open; a header ends
it. -/
def joinOpen (code : List Char) : List SourceLine → List Char × List SourceLine
  | [] => (code, [])
  | l :: lines =>
    if isOpen code ∧ !l.isHeader then joinOpen (code ++ '\n' :: trim l.text) lines
    else (code, l :: lines)

/-- The lines up to `@endscript` or a header, whether there was an `@endscript`, and what follows. -/
def takeScript : List SourceLine → List SourceLine × Bool × List SourceLine
  | [] => ([], false, [])
  | l :: lines =>
    if trim l.text = "@endscript".toList then ([], true, lines)
    else if l.isHeader then ([], false, l :: lines)
    else
      let (body, closed, rest) := takeScript lines
      (l :: body, closed, rest)

theorem length_readMetadata (m : Metadata) (lines : List SourceLine) :
    (readMetadata m lines).2.length ≤ lines.length := by
  fun_induction readMetadata m lines <;> grind

theorem length_joinOpen (code : List Char) (lines : List SourceLine) :
    (joinOpen code lines).2.length ≤ lines.length := by
  fun_induction joinOpen code lines <;> grind

theorem length_takeScript (lines : List SourceLine) :
    (takeScript lines).2.2.length ≤ lines.length := by
  fun_induction takeScript lines <;> grind

/-- The statements of a script, each with its first line. Blank lines and comments are passed over. -/
def scriptStatements (lines : List SourceLine) : List (SourceLine × List Char) :=
  match lines with
  | [] => []
  | l :: lines =>
    match trim l.text with
    | [] | '#' :: _ => scriptStatements lines
    | code => (l, (joinOpen code lines).1) :: scriptStatements (joinOpen code lines).2
termination_by lines.length
decreasing_by
  all_goals
    first
      | exact Nat.lt_succ_self _
      | exact Nat.lt_succ_of_le (length_joinOpen _ _)

def Reading.statement (r : Reading) (d : Draft) (l : SourceLine) (code : List Char) : Reading :=
  r.advance l (d.readStatement code l.line)

/-- Reads the statements of a script into the open passage. -/
def Reading.script (r : Reading) (statements : List (SourceLine × List Char)) : Reading :=
  statements.foldl
    (fun r (l, code) =>
      match r.current? with
      | some d => r.statement d l code
      | none => r)
    r

/-- Reports what is wrong with the ends of a script. -/
def Reading.scriptEnds (r : Reading) (l : SourceLine) (closed : Bool) : Reading :=
  let r := if trim l.text = "@script:".toList then r else r.report l .scriptWithoutColon
  if closed then r else r.report l .openScript

/-- Reads lines. There is no result if the indentation of a block would cut a character in two. -/
def readLines (r : Reading) (lines : List SourceLine) : Option Reading :=
  match lines with
  | [] => some r.close
  | l :: lines =>
    let cs := trim l.text
    match dropFront? [':', ':'] cs with
    | some header => readLines (r.openPassage l header) lines
    | none =>
      if cs.head? = some '#' then readLines r lines
      else
        match directiveArg? "@start".toList cs with
        | some arg => readLines (r.declareStart l arg) lines
        | none =>
          if cs = "@metadata".toList then
            let entries := readMetadata r.metadata lines
            readLines { r with metadata := entries.1 } entries.2
          else
            match r.current? with
            | none => readLines (r.stray l) lines
            | some d =>
              if cs.isEmpty then readLines { r with current? := some d.addBreak } lines
              else if (dropFront? "@script".toList cs).isSome then
                let script := takeScript lines
                let r := (r.scriptEnds l script.2.1).script (scriptStatements script.1)
                readLines r script.2.2
              else
                match cs with
                | '~' :: first =>
                  let joined := joinOpen (trim first) lines
                  readLines (r.statement d l joined.1) joined.2
                | _ =>
                  match d.readLine l with
                  | none => none
                  | some outcome => readLines (r.advance l outcome) lines
termination_by lines.length
decreasing_by
  all_goals
    first
      | exact Nat.lt_succ_self _
      | exact Nat.lt_succ_of_le (length_readMetadata _ _)
      | exact Nat.lt_succ_of_le (length_takeScript _)
      | exact Nat.lt_succ_of_le (length_joinOpen _ _)

end BranchingStory.Source
