import BranchingStory.Play.Fault
import BranchingStory.Play.Render
import BranchingStory.Unseen

/-!
# Sessions

What changes while a story is played, and the step from one passage to the next. A passage is entered by
binding its parameters and executing its commands; then it is rendered. A jump leads on to another
passage, which must not be one of those on the way. The result is a new session: one in which
something failed is given up as a whole.
-/

namespace BranchingStory

open Script

variable {Obj : Type}

/-- Where a session is. -/
structure Position (Obj : Type) where
  passage : String
  /-- The parameters of the passage and what its commands made beside them. -/
  args : Vars Obj
  output : Output Obj

/-- What changes while a story is played. -/
structure Session (Obj : Type) where
  vars : Vars Obj
  /-- The keys of the one-shot choices that were taken, each once. -/
  consumed : List String
  generator : Generator
  /-- There is none before the first passage. -/
  position? : Option (Position Obj)

/-- Whether the one-shot choice with a key was taken. -/
def Session.isConsumed (s : Session Obj) (key : String) : Bool :=
  s.consumed.contains key

/-- A computation in the scope of a passage that is entered. -/
abbrev EntryM (Obj : Type) := ExceptT PlayError (StateM (Scope Obj))

namespace EntryM

def refuse {α : Type} (fault : NavigationFault) : EntryM Obj α :=
  fun s => (.error (.navigation fault), s)

def setParam (name : String) (value : Value Obj) : EntryM Obj Unit :=
  fun s => (.ok (), s.setLocal name value)

/-- Runs a fragment of a passage; a failure tells where it was. -/
def fragment {α : Type} (passage code : String) (computation : EvalM Obj α) : EntryM Obj α := fun s =>
  let (answer, s) := (computation s : Except EvalError α × Scope Obj)
  (answer.mapError (.evaluation passage code), s)

end EntryM

/-- Checks that a call has no argument without a parameter and none for the same parameter twice. -/
def Passage.checkCall (p : Passage) (call : CallArgs Obj) : Except NavigationFault Unit := do
  let given := call.positional.length
  if p.params.length < given then throw (.tooManyArgs p.id p.params.length given)
  let names := p.params.map (·.name)
  match (Assoc.keys call.named).find? (!names.contains ·) with
  | some name => throw (.unknownParam p.id name)
  | none => pure ()
  match (names.take given).find? (Assoc.contains call.named) with
  | some name => throw (.givenTwice p.id name)
  | none => pure ()

section Steps

variable [HostObject Obj]

/-- Gives parameters their values in order: the positional arguments first, then those by name, then the
defaults, which see the parameters before them. -/
def bindParams (passage : String) :
    List Param → List (Value Obj) → List (String × Value Obj) → EntryM Obj Unit
  | [], _, _ => pure ()
  | p :: params, value :: positional, named => do
    EntryM.setParam p.name value
    bindParams passage params positional named
  | p :: params, [], named =>
    match Assoc.get? named p.name, p.default? with
    | some value, _ => do
      EntryM.setParam p.name value
      bindParams passage params [] (Assoc.erase named p.name)
    | none, some code => do
      let value ← EntryM.fragment passage code (evalSource code)
      EntryM.setParam p.name value
      bindParams passage params [] named
    | none, none => EntryM.refuse (.missingParam passage p.name)

def runCommands (passage : String) : List Command → EntryM Obj Unit
  | [] => pure ()
  | command :: commands => do
    EntryM.fragment passage command.source (execSource command.source)
    runCommands passage commands

/-- Enters a passage: binds its parameters and executes its commands. -/
def Passage.enter (p : Passage) (call : CallArgs Obj) : EntryM Obj Unit := do
  match p.checkCall call with
  | .error fault => EntryM.refuse fault
  | .ok () => bindParams p.id p.params call.positional call.named
  runCommands p.id p.execute

/-- A passage on the way of a step. -/
structure Hop (Obj : Type) where
  id : String
  args : Vars Obj
  rendered : Rendered Obj

/-- Enters and renders the passage under an id. Rendering sees the session variables as the commands
left them, and changes the generator alone. -/
def hop (bindings : Bindings Obj) (id : String) (p : Passage) (call : CallArgs Obj) (s : Session Obj) :
    Except PlayError (Hop Obj × Session Obj) :=
  let scope := Scope.start .owned s.vars [] s.generator bindings
  match (p.enter call scope : Except PlayError Unit × Scope Obj) with
  | (.error reason, _) => .error reason
  | (.ok (), scope) =>
    let (rendered, after) := p.render s.consumed
      (Scope.start .shared scope.state scope.base scope.generator bindings)
    .ok (⟨id, scope.base, rendered⟩, { s with vars := scope.state, generator := after.generator })

/-- The passages of a step: those that end in a jump, and the last one. -/
structure Chain (Obj : Type) where
  passed : List (Hop Obj)
  last : Hop Obj

def Chain.hops (c : Chain Obj) : List (Hop Obj) :=
  c.passed ++ [c.last]

/-- The output of a step: what its passages bring forth, one after the other, and the choices of the
last one. -/
def Chain.output (c : Chain Obj) : Output Obj :=
  { passage := c.last.id
    visited := c.hops.map (·.id)
    content := String.join (c.hops.map (·.rendered.content))
    choices := c.last.rendered.choices
    directives := c.hops.flatMap (·.rendered.directives)
    inputs := c.hops.flatMap (·.rendered.inputs)
    warnings := c.hops.flatMap (·.rendered.warnings) }

def Chain.cons (h : Hop Obj) (c : Chain Obj) : Chain Obj :=
  { c with passed := h :: c.passed }

def Chain.position (c : Chain Obj) : Position Obj :=
  ⟨c.last.id, c.last.args, c.output⟩

/-- The ids of the passages that a chain has not visited. -/
def Story.unvisited (story : Story) (visited : List String) : List String :=
  unseen (Assoc.keys story.passages) visited

/-- Visiting a passage leaves fewer that are not visited. -/
theorem Story.length_unvisited_lt {story : Story} {visited : List String} {id : String} {p : Passage}
    (found : story.passage? id = some p) (new : id ∉ visited) :
    (story.unvisited (visited ++ [id])).length < (story.unvisited visited).length :=
  length_unseen_append_lt (Story.mem_keys_of_passage? found) new

/-- Follows a chain of jumps to its end, behind the passages that it visited before. -/
def follow (story : Story) (bindings : Bindings Obj) (visited : List String) (id : String)
    (call : CallArgs Obj) (s : Session Obj) : Except PlayError (Chain Obj × Session Obj) :=
  if _new : id ∈ visited then .error (.navigation (.jumpCycle (visited ++ [id])))
  else
    match _found : story.passage? id with
    | none => .error (.navigation (.unknownPassage id))
    | some p =>
      match hop bindings id p call s with
      | .error reason => .error reason
      | .ok (stop, s) =>
        match stop.rendered.jump? with
        | none => .ok (⟨[], stop⟩, s)
        | some jump =>
          match follow story bindings (visited ++ [id]) jump.target jump.args s with
          | .error reason => .error reason
          | .ok (chain, s) => .ok (chain.cons stop, s)
termination_by (story.unvisited visited).length
decreasing_by exact Story.length_unvisited_lt _found _new

/-- The session that is at the end of the chain from a passage. -/
def Session.advance (s : Session Obj) (story : Story) (bindings : Bindings Obj) (id : String)
    (call : CallArgs Obj) : Except PlayError (Session Obj) :=
  match follow story bindings [] id call s with
  | .error reason => .error reason
  | .ok (chain, s) => .ok { s with position? := some chain.position }

end Steps

end BranchingStory
