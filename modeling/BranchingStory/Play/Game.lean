import BranchingStory.Play.Session
import BranchingStory.Save.Decode
import BranchingStory.Save.Document

/-!
# Playing a story

A game is a story with a host and the session of one player. A move either succeeds and puts a new
session in the place of the old one, or it is refused and leaves the game as it was.
-/

namespace BranchingStory

variable {Obj : Type}

/-- A story that is played. -/
structure Game (Obj : Type) where
  story : Story
  registry : Registry Obj
  bindings : Bindings Obj
  /-- The imports of the story that the host does not offer. -/
  importWarnings : List String
  session : Session Obj

namespace Game

def start? (story : Story) (registry : Registry Obj) (seed : UInt64) (vars : Vars Obj) :
    Except StoryFault (Game Obj) := do
  story.check
  let (bindings, importWarnings) := registry.bindings story.imports
  return { story, registry, bindings, importWarnings, session := ⟨vars, [], Generator.ofSeed seed, none⟩ }

/-- The output of the last step; nothing is evaluated again. -/
def current (g : Game Obj) : Except PlayError (Output Obj) :=
  match g.session.position? with
  | some position => .ok position.output
  | none => .error .notStarted

def hasChoices (g : Game Obj) : Bool :=
  match g.current with
  | .ok output => !output.choices.isEmpty
  | .error _ => false

/-- Whether a passage was entered that offers nothing further. -/
def isTerminal (g : Game Obj) : Bool :=
  match g.current with
  | .ok output => output.choices.isEmpty
  | .error _ => false

end Game

/-- Marks the one-shot choice with a key as taken. -/
def Session.consume (s : Session Obj) (key : String) : Session Obj :=
  if s.isConsumed key then s else { s with consumed := key :: s.consumed }

/-- Writes texts of the player into the variable that is reserved for them. What else the variable held
is dropped. -/
def Session.submit (s : Session Obj) (values : List (String × Value Obj)) : Session Obj :=
  let inputs :=
    match Assoc.get? s.vars inputsVariable with
    | some (.dict fields) => fields
    | _ => []
  { s with vars := Assoc.insert s.vars inputsVariable (.dict (Assoc.merge inputs values)) }

def Session.setVar (s : Session Obj) (name : String) (value : Value Obj) : Session Obj :=
  { s with vars := Assoc.insert s.vars name value }

section Moves

variable [HostObject Obj]

namespace Game

def enter (g : Game Obj) (id : String) (call : CallArgs Obj) : Except PlayError (Session Obj) :=
  g.session.advance g.story g.bindings id call

/-- The session after taking a choice of the current output. -/
def choose (g : Game Obj) (index : Nat) : Except PlayError (Session Obj) :=
  match g.current with
  | .error reason => .error reason
  | .ok output =>
    match output.choices[index]? with
    | none => .error (.noSuchChoice index output.choices.length)
    | some choice =>
      let s := if choice.oneShot then g.session.consume choice.key else g.session
      s.advance g.story g.bindings choice.target choice.args

/-- The saved game of a session that is somewhere. -/
def save (g : Game Obj) (timestamp : Nat) : Except PlayError SavedGame :=
  match g.session.position? with
  | none => .error .notStarted
  | some position => .ok {
      formatVersion := SavedGame.currentFormat
      storyVersion? := g.story.metadata.version?
      storyId := g.story.metadata.identity
      timestamp
      passage := position.passage
      args := (Save.encodeVars position.args).1
      state := (Save.encodeVars g.session.vars).1
      consumed := g.session.consumed.mergeSort (· ≤ ·) }

/-- The warning that a saved game belongs to another story. -/
def foreignSave (saved own : String) : String :=
  "save was made for story '" ++ saved ++ "', loading into '" ++ own ++ "'"

/-- The warning that the passage of a saved game jumps away while it is rendered. -/
def jumpsOnRender (passage : String) : String :=
  "'" ++ passage ++ "' now jumps on render; showing content up to the jump"

def decodeVars (g : Game Obj) (saved : Json) : Except LoadFault (Warned (Vars Obj)) :=
  (Save.decodeVars g.registry saved).mapError fun found => .badState found.typeName

def outputOf (p : Passage) (rendered : Rendered Obj) : Output Obj :=
  { passage := p.id
    visited := [p.id]
    content := rendered.content
    choices := rendered.choices
    directives := rendered.directives
    inputs := rendered.inputs
    warnings := rendered.warnings }

/-- The session of a saved game. Its passage is rendered again, and its commands are not executed; the
generator goes on from where it is. -/
def load (g : Game Obj) (saved : SavedGame) : Except LoadFault (Warned (Session Obj)) := do
  if saved.formatVersion ≠ SavedGame.currentFormat then
    throw (.badVersion saved.formatVersion SavedGame.currentFormat)
  match g.story.passage? saved.passage with
  | none => throw (.unknownPassage saved.passage)
  | some p =>
    let own := g.story.metadata.identity
    let foreign := if saved.storyId = own then [] else [foreignSave saved.storyId own]
    let (vars, ofVars) ← g.decodeVars saved.state
    let (args, ofArgs) ← g.decodeVars saved.args
    let consumed := saved.consumed.eraseDups
    let (rendered, after) := p.render consumed
      (Scope.start .shared vars args g.session.generator g.bindings)
    let jumps := if rendered.jump?.isSome then [jumpsOnRender p.id] else []
    let position : Position Obj := ⟨p.id, args, outputOf p rendered⟩
    return (⟨vars, consumed, after.generator, some position⟩, foreign ++ ofVars ++ ofArgs ++ jumps)

end Game

/-- What a player or the host does with a game. -/
inductive Move (Obj : Type) where
  | start
  | enter (id : String) (call : CallArgs Obj)
  | choose (index : Nat)
  | submit (values : List (String × Value Obj))
  | setVar (name : String) (value : Value Obj)
  | load (saved : SavedGame)

def Game.after (g : Game Obj) : Move Obj → Except PlayError (Warned (Session Obj))
  | .start => (g.enter g.story.initial CallArgs.none).map (·, [])
  | .enter id call => (g.enter id call).map (·, [])
  | .choose index => (g.choose index).map (·, [])
  | .submit values => .ok (g.session.submit values, [])
  | .setVar name value => .ok (g.session.setVar name value, [])
  | .load saved => (g.load saved).mapError .loading

/-- Makes a move: warnings or the reason why it is refused, and the game afterwards. -/
def Game.move (g : Game Obj) (m : Move Obj) : Except PlayError (List String) × Game Obj :=
  match g.after m with
  | .ok (session, warnings) => (.ok warnings, { g with session })
  | .error reason => (.error reason, g)

end Moves

end BranchingStory
