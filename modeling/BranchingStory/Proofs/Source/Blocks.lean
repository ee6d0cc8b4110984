import Mathlib.Tactic.Lemma
import BranchingStory.Source.Passages
import BranchingStory.Proofs.Answer

/-!
# Blocks of lines

The grammar of the lines in a passage: conditionals and loops are opened and closed by lines of their own
and hold other lines. What such lines denote does not mention the stack of open blocks: a block is an
item, and its branches or its body hold the items of their own lines.
-/

namespace BranchingStory.Source

open Text

/-- What a line that opens and closes nothing adds to where it stands. -/
inductive Entry where
  | items (items : List ContentItem)
  | command (c : Command)
  /-- A choice without its key, which depends on the choices before it. -/
  | choice (c : Choice)

/-- What a line in a passage is to the blocks around it. -/
inductive Role where
  /-- A line of text, which is read without the indentation of the block. -/
  | text
  | adds (entry : Entry)
  | cond (condition : String)
  | elif (condition : String)
  | otherwise
  | endCond
  | loop (vars : List String) (collection : String)
  | endLoop

/-- The content of a line of text; a line with nothing but a comment has none. -/
def readTextLine (text : List Char) : Except Fault (List ContentItem) :=
  let line := stripComment text
  if isBlankText line then .ok []
  else
    match dropBack? Draft.glue (trimEnd line) with
    | some body => readText body
    | none => (readText (trimEnd line)).map (· ++ [.text "\n"])

def readJump (cs : List Char) (line : Nat) : Except Fault ContentItem := do
  let (target, args, behind) ← readCall (stripComment cs)
  if !isBlankText behind then throw (.afterTarget (String.ofList (trim behind)))
  return .jump target args line

/-- A choice without its key. -/
def readOffer (cs : List Char) (oneShot : Bool) (line : Nat) : Except Fault Choice := do
  let (rest, tags) ← splitTags (stripComment cs)
  let (guard?, rest) ← Draft.readGuard (trimStart rest)
  match rest with
  | '[' :: _ =>
    match enclosed? rest with
    | none => throw .malformedChoice
    | some (inside, behind) =>
      let text ← readText inside
      match dropFront? ['-', '>'] (trimStart behind) with
      | none => throw .malformedChoice
      | some call =>
        let (target, args, behind) ← readCall call
        if !isBlankText behind then throw .malformedChoice
        return { key := "", text, target, args, guard?, oneShot, tags, line }
  | _ => throw .malformedChoice

/-- The role of a line that begins with the mark of directives. -/
def directiveRole? (cs : List Char) : Option Role :=
  let word := Draft.directiveWord cs
  let behind := stripComment (cs.drop word.length)
  let rest := trimEnd behind
  match String.ofList word with
  | "@if" => (readCondition "@if" rest).toOption.map .cond
  | "@elif" => (readCondition "@elif" rest).toOption.map .elif
  | "@else" => if trim rest = [':'] then some .otherwise else none
  | "@endif" => if rest.isEmpty then some .endCond else none
  | "@endfor" => if rest.isEmpty then some .endLoop else none
  | "@for" => (readLoop rest).toOption.map fun (vars, collection) => .loop vars collection
  | "@render" => (readRender behind).toOption.map fun item => .adds (.items [item])
  | "@input" => (readInput rest).toOption.map fun item => .adds (.items [item])
  | _ => none

namespace SourceLine

/-- Whether a line is no part of the content of a passage: a header, a comment, a declaration, or the
beginning of a script. -/
def isApart (l : SourceLine) : Bool :=
  let cs := trim l.text
  (dropFront? [':', ':'] cs).isSome || cs.head? = some '#' ||
    (directiveArg? "@start".toList cs).isSome || cs = "@metadata".toList ||
    (dropFront? "@script".toList cs).isSome

/-- The role of a line, if it is valid by itself. -/
def role? (l : SourceLine) : Option Role :=
  let cs := trim l.text
  if l.isApart then none
  else
    match cs with
    | [] => some (.adds (.items [.text "\n"]))
    | '~' :: code =>
      if isOpen (trim code) then none
      else (readCommand (trim code) l.line).toOption.map fun c => .adds (.command c)
    | '@' :: _ => directiveRole? cs
    | _ =>
      match dropFront? ['-', '>'] cs, Draft.choiceMark? cs with
      | some rest, _ => (readJump rest l.line).toOption.map fun item => .adds (.items [item])
      | none, some oneShot =>
        (readOffer (cs.drop 1) oneShot l.line).toOption.map fun c => .adds (.choice c)
      | none, none => (readTextLine l.text).toOption.map fun _ => .text

/-- The bytes of white space in front of a line. -/
def margin (l : SourceLine) : Nat :=
  byteLength (indentation l.text)

end SourceLine

mutual

/-- What lines of a passage are together. -/
inductive Node where
  | text (text : List Char)
  | adds (entry : Entry)
  /-- A conditional. Only the last branch can be without a condition. -/
  | cond (limbs : List Limb) (otherwise? : Option (List Node))
  | loop (vars : List String) (collection : String) (body : List Node)

/-- A branch of a conditional with its condition. -/
inductive Limb where
  | mk (condition : String) (body : List Node)

end

mutual

/-- Lines in which all blocks are closed: `B → (line | @if B (@elif B)* (@else B)? @endif |
@for B @endfor)*`. -/
inductive Body : List SourceLine → List Node → Prop where
  | nil : Body [] []
  | text {l ls ns} :
    l.role? = some .text →
    Body ls ns →
    Body (l :: ls) (.text l.text :: ns)
  | adds {l entry ls ns} :
    l.role? = some (.adds entry) →
    Body ls ns →
    Body (l :: ls) (.adds entry :: ns)
  | cond {block limbs otherwise? closer ls ns} :
    Cond block limbs otherwise? →
    closer.role? = some .endCond →
    Body ls ns →
    Body (block ++ closer :: ls) (.cond limbs otherwise? :: ns)
  | loop {opener vars collection inner body closer ls ns} :
    opener.role? = some (.loop vars collection) →
    Body inner body →
    closer.role? = some .endLoop →
    Body ls ns →
    Body (opener :: inner ++ closer :: ls) (.loop vars collection body :: ns)

/-- The lines of a conditional without its end: `@if B (@elif B)* (@else B)?`. -/
inductive Cond : List SourceLine → List Limb → Option (List Node) → Prop where
  | first {opener condition inner body} :
    opener.role? = some (.cond condition) →
    Body inner body →
    Cond (opener :: inner) [⟨condition, body⟩] none
  | elif {block limbs l condition inner body} :
    Cond block limbs none →
    l.role? = some (.elif condition) →
    Body inner body →
    Cond (block ++ l :: inner) (limbs ++ [⟨condition, body⟩]) none
  | otherwise {block limbs l inner body} :
    Cond block limbs none →
    l.role? = some .otherwise →
    Body inner body →
    Cond (block ++ l :: inner) limbs (some body)

end

/-- What the lines before leave behind for the next line of a block: the indentation of the block, and the
number of choices in the passage. -/
structure Spot where
  indent? : Option Nat
  count : Nat

/-- A choice behind so many choices of a passage. -/
def numbered (id : String) (count : Nat) (c : Choice) : Choice :=
  { c with key := id ++ "#" ++ toString count }

/-- A line of text without the indentation of its block. -/
def outdent (base : Nat) (text : List Char) : List Char :=
  (Draft.dropBytes (min (byteLength (indentation text)) base) text).getD text

/-- The content of a line of text that can be read. -/
def textItems (text : List Char) : List ContentItem :=
  (readTextLine text).toOption.getD []

mutual

/-- The items of a node in a block. -/
def Node.items (id : String) (s : Spot) : Node → List ContentItem × Spot
  | .text text =>
    let base := s.indent?.getD (byteLength (indentation text))
    (textItems (outdent base text), { s with indent? := some base })
  | .adds (.items items) => (items, s)
  | .adds (.command c) => ([.command c], s)
  | .adds (.choice c) => ([.choice (numbered id s.count c)], { s with count := s.count + 1 })
  | .cond limbs otherwise? =>
    let (branches, inner) := branchesOf id ⟨none, s.count⟩ limbs
    let (last, inner) := lastOf id inner otherwise?
    ([.conditional (branches ++ last)], { s with count := inner.count })
  | .loop vars collection body =>
    let (items, inner) := itemsOf id ⟨none, s.count⟩ body
    ([.loop vars collection items], { s with count := inner.count })

def itemsOf (id : String) (s : Spot) : List Node → List ContentItem × Spot
  | [] => ([], s)
  | n :: ns =>
    let (first, s) := n.items id s
    let (more, s) := itemsOf id s ns
    (first ++ more, s)

/-- The branches of a conditional. Its indentation is that of the first line of text in any of them. -/
def branchesOf (id : String) (s : Spot) : List Limb → List Branch × Spot
  | [] => ([], s)
  | .mk condition body :: limbs =>
    let (content, s) := itemsOf id s body
    let (more, s) := branchesOf id s limbs
    (⟨some condition, content⟩ :: more, s)

/-- The branch behind `@else`. -/
def lastOf (id : String) (s : Spot) : Option (List Node) → List Branch × Spot
  | none => ([], s)
  | some body =>
    let (content, s) := itemsOf id s body
    ([⟨none, content⟩], s)

end

/-- A passage with a node outside all blocks, and the number of its choices. -/
def takeNode (s : Passage × Nat) (node : Node) : Passage × Nat :=
  let (p, count) := s
  match node with
  | .text text => ({ p with content := p.content ++ textItems text }, count)
  | .adds (.items items) => ({ p with content := p.content ++ items }, count)
  | .adds (.command c) => ({ p with execute := p.execute ++ [c] }, count)
  | .adds (.choice c) => ({ p with choices := p.choices ++ [numbered p.id count c] }, count + 1)
  | block =>
    let (items, s) := block.items p.id ⟨none, count⟩
    ({ p with content := p.content ++ items }, s.count)

/-- What can be said of an open block by its lines: where it was opened, and whether `@else` was seen. -/
structure Opening where
  line : Nat
  kind : BlockKind
  hasElse : Bool

/-- The open blocks behind a line, the innermost first; none if the line stands in the wrong place. -/
def Role.after (line : Nat) : Role → List Opening → Option (List Opening)
  | .text, os | .adds _, os => some os
  | .cond _, os => some (⟨line, .cond, false⟩ :: os)
  | .elif _, ⟨opener, .cond, false⟩ :: os => some (⟨opener, .cond, false⟩ :: os)
  | .otherwise, ⟨opener, .cond, false⟩ :: os => some (⟨opener, .cond, true⟩ :: os)
  | .endCond, ⟨_, .cond, _⟩ :: os => some os
  | .loop .., os => some (⟨line, .loop, false⟩ :: os)
  | .endLoop, ⟨_, .loop, _⟩ :: os => some os
  | _, _ => none

/-- The blocks that are left open behind lines. A line in the wrong place changes nothing. -/
def leftOpen (os : List Opening) : List SourceLine → List Opening
  | [] => os
  | l :: ls => leftOpen ((l.role?.bind (·.after l.line os)).getD os) ls

/-- The faults of lines in the wrong place. -/
inductive Misplaced : Fault → Prop where
  | elifAfterElse : Misplaced .elifAfterElse
  | elifWithoutIf : Misplaced .elifWithoutIf
  | secondElse : Misplaced .secondElse
  | elseWithoutIf : Misplaced .elseWithoutIf
  | closerInside {word inner line} : Misplaced (.closerInside word inner line)
  | closerWithoutOpener {kind} : Misplaced (.closerWithoutOpener kind)

/-- Whether a line is a line of text, so that it is read without the indentation of its block. -/
def SourceLine.isText (l : SourceLine) : Bool :=
  match l.role? with
  | some .text => true
  | _ => false

/-- Whether the indentation of no line of text ends inside a character of the indentation of another. -/
def Aligned (lines : List SourceLine) : Prop :=
  ∀ l ∈ lines, ∀ m ∈ lines, l.isText → m.isText →
    (Draft.dropBytes (min l.margin m.margin) l.text).isSome

instance (lines : List SourceLine) : Decidable (Aligned lines) :=
  inferInstanceAs (Decidable (∀ l ∈ lines, ∀ m ∈ lines, l.isText → m.isText →
    (Draft.dropBytes (min l.margin m.margin) l.text).isSome))

end BranchingStory.Source
