import BranchingStory.Script.Eval
import BranchingStory.Script.Formatted
import BranchingStory.Play.Output
import BranchingStory.Story.Basic

/-!
# Rendering

What a passage brings forth while its content is gone through. Fragments are evaluated in a scope; one
that fails is left out with a warning, and a failed interpolation leaves a mark in the text. A jump ends
the rendering.
-/

namespace BranchingStory

open Script

variable {Obj : Type}

/-- A jump to a passage. -/
structure PendingJump (Obj : Type) where
  target : String
  args : CallArgs Obj

/-- What a piece of content brings forth. -/
structure Rendered (Obj : Type) where
  content : String
  choices : List (OfferedChoice Obj)
  directives : List (Directive Obj)
  inputs : List InputRequest
  warnings : List RenderWarning
  /-- The jump that was reached, if any. -/
  jump? : Option (PendingJump Obj)

namespace Rendered

def empty : Rendered Obj :=
  ⟨"", [], [], [], [], none⟩

/-- What one piece and then another bring forth; the jump is that of the second. -/
def append (first second : Rendered Obj) : Rendered Obj :=
  { content := first.content ++ second.content
    choices := first.choices ++ second.choices
    directives := first.directives ++ second.directives
    inputs := first.inputs ++ second.inputs
    warnings := first.warnings ++ second.warnings
    jump? := second.jump? }

instance : Append (Rendered Obj) := ⟨append⟩

def ofText (text : String) : Rendered Obj :=
  { (empty : Rendered Obj) with content := text }

def ofChoice (choice : OfferedChoice Obj) : Rendered Obj :=
  { (empty : Rendered Obj) with choices := [choice] }

def ofDirective (directive : Directive Obj) : Rendered Obj :=
  { (empty : Rendered Obj) with directives := [directive] }

def ofInput (input : InputRequest) : Rendered Obj :=
  { (empty : Rendered Obj) with inputs := [input] }

def ofWarning (warning : RenderWarning) : Rendered Obj :=
  { (empty : Rendered Obj) with warnings := [warning] }

def ofJump (jump : PendingJump Obj) : Rendered Obj :=
  { (empty : Rendered Obj) with jump? := some jump }

end Rendered

/-- A step of rendering: what it brings forth, and the scope behind it. -/
abbrev Pass (Obj : Type) := Scope Obj → Rendered Obj × Scope Obj

namespace Pass

/-- Brings forth something without looking at the scope. -/
def emit (rendered : Rendered Obj) : Pass Obj :=
  fun s => (rendered, s)

def skip : Pass Obj :=
  emit Rendered.empty

/-- One step and then another, unless the first ends in a jump. -/
def andThen (first second : Pass Obj) : Pass Obj := fun s =>
  let (a, s) := first s
  if a.jump?.isSome then (a, s)
  else
    let (b, s) := second s
    (a ++ b, s)

def inFrame (body : Pass Obj) : Pass Obj := fun s =>
  let (rendered, s) := body s.pushFrame
  (rendered, s.popFrame)

/-- Runs a computation, then what follows its answer, or what follows its failure. -/
def attempt {α : Type} (computation : EvalM Obj α) (failed : EvalError → Pass Obj)
    (done : α → Pass Obj) : Pass Obj := fun s =>
  match (computation s : Except EvalError α × Scope Obj) with
  | (.ok a, s) => done a s
  | (.error reason, s) => failed reason s

end Pass

/-- What a passage is rendered with. -/
structure RenderContext where
  /-- The passage, as warnings name it. -/
  passage : String
  /-- The keys of the one-shot choices that are no longer open. -/
  consumed : List String

namespace RenderContext

def warn (ctx : RenderContext) (code : String) (reason : EvalError) : Rendered Obj :=
  Rendered.ofWarning ⟨ctx.passage, code, reason.message⟩

end RenderContext

section Fragments

variable [HostObject Obj]

def CallArgs.add (call : CallArgs Obj) (name? : Option String) (value : Value Obj) : CallArgs Obj :=
  match name? with
  | some name => { call with named := Assoc.insert call.named name value }
  | .none => { call with positional := call.positional ++ [value] }

/-- Evaluates arguments into a call; a failure names the argument. -/
def evalArgs (call : CallArgs Obj) : List Arg → Scope Obj →
    Except (String × EvalError) (CallArgs Obj) × Scope Obj
  | [], s => (.ok call, s)
  | arg :: args, s =>
    match (evalSource arg.expr s : Except EvalError (Value Obj) × Scope Obj) with
    | (.ok value, s) => evalArgs (call.add arg.name? value) args s
    | (.error reason, s) => (.error (arg.expr, reason), s)

/-- Goes on with the call that arguments make; if one of them fails there is a warning alone. -/
def withArgs (ctx : RenderContext) (args : List Arg) (done : CallArgs Obj → Pass Obj) : Pass Obj :=
  fun s =>
    match evalArgs CallArgs.none args s with
    | (.ok call, s) => done call s
    | (.error (code, reason), s) => (ctx.warn code reason, s)

/-- Goes on by a condition; one that fails does not hold, with a warning in front. -/
def withCondition (ctx : RenderContext) (code : String) (yes no : Pass Obj) : Pass Obj :=
  Pass.attempt (evalSource code)
    (fun reason => (Pass.emit (ctx.warn code reason)).andThen no)
    (fun value => if value.holds then yes else no)

/-- The text that stands where an interpolation failed. -/
def failureMark (code : String) (reason : EvalError) : String :=
  "\x7bERROR: " ++ code ++ " - " ++ reason.message ++ "\x7d"

/-- The text of the value of a fragment, in a format if there is one. -/
def evalText (code : String) (format? : Option String) : EvalM Obj String := do
  let value ← evalSource code
  match format? with
  | some spec => EvalM.ofExcept (format value spec)
  | none => return value.display

def renderExpression (ctx : RenderContext) (code : String) (format? : Option String) : Pass Obj :=
  Pass.attempt (evalText code format?)
    (fun reason => Pass.emit (ctx.warn code reason ++ Rendered.ofText (failureMark code reason)))
    (fun text => Pass.emit (Rendered.ofText text))

def renderLabel (ctx : RenderContext) : List ContentItem → Pass Obj
  | [] => Pass.skip
  | .text text :: items => (Pass.emit (Rendered.ofText text)).andThen (renderLabel ctx items)
  | .expression code format? :: items =>
    (renderExpression ctx code format?).andThen (renderLabel ctx items)
  | _ :: items => renderLabel ctx items

def Choice.offer (c : Choice) (args : CallArgs Obj) (text : String) : OfferedChoice Obj :=
  { key := c.key
    text := String.ofList (Text.trim text.toList)
    target := c.target
    args
    oneShot := c.oneShot
    tags := c.tags }

/-- Offers a choice; its text comes from what its label brings forth. -/
def offerChoice (ctx : RenderContext) (c : Choice) : Pass Obj :=
  withArgs ctx c.args fun args s =>
    let (label, s) := renderLabel ctx c.text s
    ({ Rendered.ofChoice (c.offer args label.content) with warnings := label.warnings }, s)

/-- Offers a choice if it is open and its guard holds. -/
def renderChoice (ctx : RenderContext) (c : Choice) : Pass Obj :=
  if c.oneShot && ctx.consumed.contains c.key then Pass.skip
  else
    match c.guard? with
    | none => offerChoice ctx c
    | some guard => withCondition ctx guard (offerChoice ctx c) Pass.skip

def renderChoices (ctx : RenderContext) : List Choice → Pass Obj
  | [] => Pass.skip
  | c :: choices => (renderChoice ctx c).andThen (renderChoices ctx choices)

/-- Renders the body of a loop for each item, until there is a jump. An item that does not fit the
variables is left out with a warning. -/
def renderEach (ctx : RenderContext) (vars : List String) (collection : String) (body : Pass Obj) :
    List (Value Obj) → Pass Obj
  | [] => Pass.skip
  | item :: items =>
    (Pass.inFrame (Pass.attempt (EvalM.step (bindTargets vars item))
      (fun reason => Pass.emit (ctx.warn collection reason)) (fun _ => body))).andThen
        (renderEach ctx vars collection body items)

mutual

def renderItem (ctx : RenderContext) : ContentItem → Pass Obj
  | .text text => Pass.emit (Rendered.ofText text)
  | .expression code format? => renderExpression ctx code format?
  | .conditional branches => renderBranches ctx branches
  | .loop vars collection body =>
    Pass.attempt (do EvalM.ofExcept (iterate (← evalSource collection)))
      (fun reason => Pass.emit (ctx.warn collection reason))
      (fun items => renderEach ctx vars collection (renderItems ctx body) items)
  | .jump target args _ => withArgs ctx args fun args => Pass.emit (Rendered.ofJump ⟨target, args⟩)
  | .render name args hint? =>
    withArgs ctx args fun args => Pass.emit (Rendered.ofDirective ⟨name, args, hint?⟩)
  | .input name label? placeholder? => Pass.emit (Rendered.ofInput ⟨name, label?, placeholder?⟩)
  | .command command =>
    Pass.attempt (execSource command.source)
      (fun reason => Pass.emit (ctx.warn command.source reason)) (fun _ => Pass.skip)
  | .choice choice => renderChoice ctx choice

/-- Renders the first branch whose condition holds. -/
def renderBranches (ctx : RenderContext) : List Branch → Pass Obj
  | [] => Pass.skip
  | { condition?, content } :: branches =>
    match condition? with
    | none => renderItems ctx content
    | some code => withCondition ctx code (renderItems ctx content) (renderBranches ctx branches)

/-- Renders items one after the other, until there is a jump. -/
def renderItems (ctx : RenderContext) : List ContentItem → Pass Obj
  | [] => Pass.skip
  | item :: items => (renderItem ctx item).andThen (renderItems ctx items)

end

end Fragments

def lastNumber : Nat := Number.twoTo 64 - 1

/-- The number behind the last `#` of the key of a choice, by which choices are ordered; keys without a
number come last. -/
def keyNumber (key : String) : Nat :=
  match (Text.splitLast? '#' key.toList).bind fun parts => Number.readNat? parts.2 with
  | some n => min n lastNumber
  | none => lastNumber

/-- Choices in the order of the numbers in their keys; choices with one number keep their order. -/
def inKeyOrder (choices : List (OfferedChoice Obj)) : List (OfferedChoice Obj) :=
  choices.mergeSort fun a b => keyNumber a.key ≤ keyNumber b.key

/-- Renders a passage: its content and then its choices. Behind a jump there are no choices. -/
def Passage.render [HostObject Obj] (p : Passage) (consumed : List String) : Pass Obj := fun s =>
  let ctx : RenderContext := ⟨p.id, consumed⟩
  let (rendered, s) := (renderItems ctx p.content).andThen (renderChoices ctx p.choices) s
  if rendered.jump?.isSome then ({ rendered with choices := [] }, s)
  else ({ rendered with choices := inKeyOrder rendered.choices }, s)

end BranchingStory
