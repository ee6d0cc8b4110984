import BranchingStory.Script.Operator
import BranchingStory.Story.Import
import BranchingStory.Text.Letter
import BranchingStory.Text.Split
import BranchingStory.Assoc

/-!
# Stories

A compiled story: passages by name, each with its content, its choices and the commands that are
executed on entering it. Expressions and statements are kept as source text.
-/

namespace BranchingStory

open Script

/-- A parameter of a passage; without a default it must be given. -/
structure Param where
  name : String
  default? : Option String
  deriving DecidableEq, Repr

/-- An argument of a call: positional, or by name. -/
structure Arg where
  name? : Option String
  expr : String
  deriving DecidableEq, Repr

/-- The variable that holds submitted input values. -/
def inputsVariable : String := "_inputs"

/-- A statement for its effects. -/
inductive Command where
  | assign (target : String) (op : AssignOp) (expression : String) (line : Nat)
  | eval (code : String) (line : Nat)
  deriving DecidableEq, Repr

def Command.line : Command → Nat
  | .assign _ _ _ line => line
  | .eval _ line => line

def Command.source : Command → String
  | .assign target op expression _ => target ++ " " ++ op.symbol ++ " " ++ expression
  | .eval code _ => code

mutual

/-- A piece of the content of a passage. -/
inductive ContentItem where
  | text (text : String)
  | expression (code : String) (format? : Option String)
  | conditional (branches : List Branch)
  | loop (vars : List String) (collection : String) (body : List ContentItem)
  | jump (target : String) (args : List Arg) (line : Nat)
  | render (name : String) (args : List Arg) (hint? : Option String)
  | input (name : String) (label? placeholder? : Option String)
  /-- A statement that is executed while the passage is rendered. -/
  | command (command : Command)
  | choice (choice : Choice)

/-- A branch of a conditional; without a condition it is taken if no branch before it is. -/
structure Branch where
  condition? : Option String
  content : List ContentItem

/-- A way to go on from a passage. -/
structure Choice where
  /-- By its key a choice is remembered once it has been taken. -/
  key : String
  text : List ContentItem
  target : String
  args : List Arg
  guard? : Option String
  oneShot : Bool
  tags : List String
  line : Nat

end

/-- A named unit of a story. -/
structure Passage where
  id : String
  params : List Param
  content : List ContentItem
  choices : List Choice
  execute : List Command
  tags : List String

/-- What a story says about itself. -/
structure Metadata where
  title? : Option String
  author? : Option String
  version? : Option String
  storyId? : Option String
  custom : List (String × String)
  deriving DecidableEq, Repr

def Metadata.empty : Metadata :=
  ⟨none, none, none, none, []⟩

/-- The name by which saved games know a story: its own, or else its title without capitals and special
characters. -/
def Metadata.identity (m : Metadata) : String :=
  match m.storyId?, m.title? with
  | some id, _ => id
  | none, some title => title.map fun c => if Text.isAlphanumeric c then c.toLower else '_'
  | none, none => "untitled"

/-- A compiled story. -/
structure Story where
  version : String
  initial : String
  metadata : Metadata
  imports : List Import
  passages : List (String × Passage)

/-- What is wrong with a story as a whole. -/
inductive StoryFault where
  | noPassages
  | noInitial (id : String)
  deriving DecidableEq, Repr

def StoryFault.message : StoryFault → String
  | .noPassages => "invalid story: story has no passages"
  | .noInitial id => "invalid story: initial passage '" ++ id ++ "' not found in story"

def Story.passage? (s : Story) (id : String) : Option Passage :=
  Assoc.get? s.passages id

/-- The id of a passage is among the ids of the story. -/
theorem Story.mem_keys_of_passage? {story : Story} {id : String} {p : Passage}
    (found : story.passage? id = some p) : id ∈ Assoc.keys story.passages := by
  unfold Story.passage? Assoc.get? at found
  rw [List.lookup_eq_some_iff] at found
  obtain ⟨before, after, split, _⟩ := found
  simp [Assoc.keys, split]

/-- What a session needs of a story: that there is a passage to begin with. -/
def Story.check (s : Story) : Except StoryFault Unit :=
  if s.passages.isEmpty then .error .noPassages
  else if Assoc.contains s.passages s.initial then .ok ()
  else .error (.noInitial s.initial)

/-- The character between the parts of a passage id. -/
def namespaceSeparator : Char := '.'

/-- The part of an id in front of its last separator. -/
def enclosing? (id : List Char) : Option (List Char) :=
  (Text.splitLast? namespaceSeparator id).map (·.1)

/-- The namespace of a passage: its id up to the last separator. -/
def Passage.namespace? (p : Passage) : Option String :=
  (enclosing? p.id.toList).map String.ofList

def ContentItem.kind : ContentItem → String
  | .text _ => "text"
  | .expression .. => "expression"
  | .conditional _ => "conditional"
  | .loop .. => "loop"
  | .jump .. => "jump"
  | .render .. => "render"
  | .input .. => "input"
  | .command _ => "command"
  | .choice _ => "choice"

mutual

/-- An item and all items inside it, each before what is inside it. -/
def ContentItem.walk : ContentItem → List ContentItem
  | .conditional branches => .conditional branches :: walkBranches branches
  | .loop vars collection body => .loop vars collection body :: walkItems body
  | .choice { key, text, target, args, guard?, oneShot, tags, line } =>
    .choice { key, text, target, args, guard?, oneShot, tags, line } :: walkItems text
  | item => [item]

def walkBranches : List Branch → List ContentItem
  | [] => []
  | { content, .. } :: branches => walkItems content ++ walkBranches branches

def walkItems : List ContentItem → List ContentItem
  | [] => []
  | item :: items => item.walk ++ walkItems items

end

/-- All items of a passage: those of its content, then those in the texts of its choices. -/
def Passage.walk (p : Passage) : List ContentItem :=
  walkItems p.content ++ p.choices.flatMap (walkItems ·.text)

mutual

def ContentItem.nestedChoices : ContentItem → List Choice
  | .choice choice => [choice]
  | .conditional branches => choicesOfBranches branches
  | .loop _ _ body => choicesOfItems body
  | _ => []

def choicesOfBranches : List Branch → List Choice
  | [] => []
  | { content, .. } :: branches => choicesOfItems content ++ choicesOfBranches branches

def choicesOfItems : List ContentItem → List Choice
  | [] => []
  | item :: items => item.nestedChoices ++ choicesOfItems items

end

/-- All choices of a passage: those inside its content in their order, then its own. -/
def Passage.allChoices (p : Passage) : List Choice :=
  choicesOfItems p.content ++ p.choices

end BranchingStory
