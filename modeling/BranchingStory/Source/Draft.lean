import BranchingStory.Source.Line
import BranchingStory.Source.Problem

/-!
# Passages in the making

A passage while its lines are read, with a stack of the blocks that are open. A line adds to the
innermost open block, or to the passage itself if none is open.
-/

namespace BranchingStory.Source

open Text

/-- A line of a source text and where it stands. -/
structure SourceLine where
  file : String
  line : Nat
  text : List Char

def SourceLine.problem (l : SourceLine) (fault : Fault) : Problem :=
  ⟨fault, l.file, l.line⟩

def SourceLine.isHeader (l : SourceLine) : Bool :=
  (dropFront? [':', ':'] (trimStart l.text)).isSome

/-- What an open block becomes. -/
inductive BlockForm where
  /-- A conditional: its finished branches and the condition of the open one. -/
  | cond (closed : List Branch) (condition? : Option String) (hasElse : Bool)
  | loop (vars : List String) (collection : String)

/-- An open block. -/
structure Block where
  /-- The line that opened it. -/
  line : Nat
  form : BlockForm
  /-- What was read of the open branch or body. -/
  items : List ContentItem
  /-- The bytes of white space in front of the first line of text. -/
  indent? : Option Nat

def Block.kind (b : Block) : BlockKind :=
  match b.form with
  | .cond .. => .cond
  | .loop .. => .loop

def Block.toItem (b : Block) : ContentItem :=
  match b.form with
  | .cond closed condition? _ => .conditional (closed ++ [⟨condition?, b.items⟩])
  | .loop vars collection => .loop vars collection b.items

def Block.nextBranch (b : Block) (condition? : Option String) : Block :=
  match b.form with
  | .cond closed open? hasElse =>
    { b with
      form := .cond (closed ++ [⟨open?, b.items⟩]) condition? (hasElse || condition?.isNone)
      items := [] }
  | .loop .. => b

/-- A passage in the making. -/
structure Draft where
  passage : Passage
  /-- Where its header stands. -/
  header : SourceLine
  /-- The open blocks, the innermost first. -/
  stack : List Block
  /-- The number of choices so far. -/
  choiceCount : Nat

namespace Draft

def start (passage : Passage) (header : SourceLine) : Draft :=
  { passage, header, stack := [], choiceCount := 0 }

def addItems (d : Draft) (items : List ContentItem) : Draft :=
  match d.stack with
  | [] => { d with passage := { d.passage with content := d.passage.content ++ items } }
  | block :: stack => { d with stack := { block with items := block.items ++ items } :: stack }

def addBreak (d : Draft) : Draft :=
  d.addItems [.text "\n"]

/-- Adds a command: outside blocks it is executed on entering the passage. -/
def addCommand (d : Draft) (c : Command) : Draft :=
  match d.stack with
  | [] => { d with passage := { d.passage with execute := d.passage.execute ++ [c] } }
  | _ => d.addItems [.command c]

/-- Adds a choice: outside blocks it is one of the passage's own. -/
def addChoice (d : Draft) (c : Choice) : Draft :=
  let d := { d with choiceCount := d.choiceCount + 1 }
  match d.stack with
  | [] => { d with passage := { d.passage with choices := d.passage.choices ++ [c] } }
  | _ => d.addItems [.choice c]

def openBlock (d : Draft) (line : Nat) (form : BlockForm) : Draft :=
  { d with stack := { line, form, items := [], indent? := none } :: d.stack }

/-- The text behind a number of bytes; none if the cut falls inside a character. -/
def dropBytes : Nat → List Char → Option (List Char)
  | 0, cs => some cs
  | _ + 1, [] => none
  | n + 1, c :: cs => if c.utf8Size ≤ n + 1 then dropBytes (n + 1 - c.utf8Size) cs else none

/-- Takes the indentation of the innermost open block off a line. The first line of a block sets the
indentation. -/
def dedent (d : Draft) (text : List Char) : Option (List Char × Draft) :=
  match d.stack with
  | [] => some (text, d)
  | block :: stack =>
    let own := byteLength (indentation text)
    let base := block.indent?.getD own
    (dropBytes (min own base) text).map fun text =>
      (text, { d with stack := { block with indent? := some base } :: stack })

/-- The glue at the end of a line, which joins the next line to it. -/
def glue : List Char := ['<', '>']

/-- Adds a line of text; a line with nothing but a comment adds nothing. -/
def addText (d : Draft) (text : List Char) : Except Fault Draft := do
  let line := stripComment text
  if isBlankText line then return d
  match dropBack? glue (trimEnd line) with
  | some body => return d.addItems (← readText body)
  | none => return (d.addItems (← readText (trimEnd line))).addBreak

def addJump (d : Draft) (cs : List Char) (line : Nat) : Except Fault Draft := do
  let (target, args, behind) ← readCall (stripComment cs)
  if !isBlankText behind then throw (.afterTarget (String.ofList (trim behind)))
  return d.addItems [.jump target args line]

/-- Whether a line is a choice that can be taken once, or one that stays; or no choice at all. -/
def choiceMark? (cs : List Char) : Option Bool :=
  match cs with
  | [] => none
  | mark :: rest =>
    if mark = '+' ∨ mark = '*' then
      let body := trimStart rest
      let spaced := (rest.head?.any isBlank) && containsText ['-', '>'] body
      if body.head? = some '[' ∨ body.head? = some '{' ∨ spaced then some (mark = '*') else none
    else none

/-- The guard in braces at the beginning of a choice, and what comes behind it. -/
def readGuard (cs : List Char) : Except Fault (Option String × List Char) :=
  match cs with
  | '{' :: _ =>
    match enclosed? cs with
    | none => .error .malformedChoice
    | some (inside, behind) => do
      let condition := trim inside
      if condition.isEmpty then throw .emptyGuard
      checkExpression condition
      return (some (String.ofList condition), trimStart behind)
  | _ => .ok (none, cs)

def readChoice (d : Draft) (cs : List Char) (oneShot : Bool) (line : Nat) : Except Fault Draft := do
  let (rest, tags) ← splitTags (stripComment cs)
  let (guard?, rest) ← readGuard (trimStart rest)
  match rest with
  | '[' :: _ =>
    match enclosed? rest with
    | none => throw .malformedChoice
    | some (inside, behind) =>
      let text ← readText inside
      match dropFront? ['-', '>'] (trimStart behind) with
      | none => throw .malformedChoice
      | some call =>
        let (target, args, behind) ← readCall call
        if !isBlankText behind then throw .malformedChoice
        let key := d.passage.id ++ "#" ++ toString d.choiceCount
        return d.addChoice { key, text, target, args, guard?, oneShot, tags, line }
  | _ => throw .malformedChoice

def addBranch (d : Draft) (condition? : Option String) (afterElse outside : Fault) :
    Except Fault Draft :=
  match d.stack with
  | block :: stack =>
    match block.form with
    | .cond _ _ false => .ok { d with stack := block.nextBranch condition? :: stack }
    | .cond _ _ true => .error afterElse
    | .loop .. => .error outside
  | [] => .error outside

def closeBlock (d : Draft) (kind : BlockKind) (rest : List Char) : Except Fault Draft := do
  if !rest.isEmpty then
    let text := String.ofList (trim rest)
    if text = ":" then throw (.closerWithColon kind.closer)
    throw (.afterCloser text kind.closer)
  match d.stack with
  | [] => throw (.closerWithoutOpener kind)
  | block :: stack =>
    if block.kind ≠ kind then throw (.closerInside kind.closer block.kind block.line)
    return { d with stack }.addItems [block.toItem]

/-- A character of a directive word behind its mark. -/
def directiveWord (cs : List Char) : List Char :=
  cs.take 1 ++ (cs.drop 1).takeWhile isWordChar

def obey (d : Draft) (cs : List Char) (line : Nat) : Except Fault Draft := do
  let word := directiveWord cs
  let behind := stripComment (cs.drop word.length)
  let rest := trimEnd behind
  match String.ofList word with
  | "@if" =>
    let condition ← readCondition "@if" rest
    return d.openBlock line (.cond [] (some condition) false)
  | "@elif" =>
    let condition ← readCondition "@elif" rest
    d.addBranch (some condition) .elifAfterElse .elifWithoutIf
  | "@else" =>
    if trim rest ≠ [':'] then throw .elseWithoutColon
    d.addBranch none .secondElse .elseWithoutIf
  | "@endif" => d.closeBlock .cond rest
  | "@endfor" => d.closeBlock .loop rest
  | "@for" =>
    let (vars, collection) ← readLoop rest
    return d.openBlock line (.loop vars collection)
  | "@render" => return d.addItems [← readRender behind]
  | "@input" => return d.addItems [← readInput rest]
  | "@endscript" => throw .strayEndscript
  | word => throw (.unknownDirective word)

/-- The draft after a step, or the unchanged draft and the fault of the step. -/
def settle (d : Draft) (step : Except Fault Draft) : Draft × Option Fault :=
  match step with
  | .ok d => (d, none)
  | .error fault => (d, some fault)

/-- Reads a line that is a directive, a jump, a choice or text. The first line of text in a block sets
its indentation, also if the text is faulty. -/
def readLine (d : Draft) (l : SourceLine) : Option (Draft × Option Fault) :=
  let cs := trim l.text
  match cs, dropFront? ['-', '>'] cs, choiceMark? cs with
  | '@' :: _, _, _ => some (d.settle (d.obey cs l.line))
  | _, some rest, _ => some (d.settle (d.addJump rest l.line))
  | _, none, some oneShot => some (d.settle (d.readChoice (cs.drop 1) oneShot l.line))
  | _, none, none => (d.dedent l.text).map fun (text, d) => d.settle (d.addText text)

def readStatement (d : Draft) (code : List Char) (line : Nat) : Draft × Option Fault :=
  d.settle ((readCommand code line).map d.addCommand)

/-- The problems of the blocks that were never closed, the innermost first. -/
def unclosed (d : Draft) : List Problem :=
  d.stack.map fun block => ⟨.unclosed block.kind d.passage.id, d.header.file, block.line⟩

end Draft

end BranchingStory.Source
