import BranchingStory.Host.Registry
import BranchingStory.Random

/-!
# Scopes

What a name refers to while a fragment is evaluated: the variable of the innermost frame that has it,
else the session variable, else what the host binds to it. In a shared scope the session variables are
out of reach for writing, and what would be written there goes into the base frame.
-/

namespace BranchingStory

/-- Whether assignments reach the session variables. -/
inductive Access where
  | owned
  | shared
  deriving DecidableEq, Repr

/-- The names and the generator that a fragment is evaluated with. -/
structure Scope (Obj : Type) where
  access : Access
  /-- The session variables. -/
  state : Vars Obj
  /-- The arguments of the passage and what was made while it is rendered. -/
  base : Vars Obj
  /-- Frames of loops and comprehensions, the innermost first. -/
  inner : List (Vars Obj)
  generator : Generator
  bindings : Bindings Obj

namespace Scope

variable {Obj : Type}

def start (access : Access) (state base : Vars Obj) (generator : Generator) (bindings : Bindings Obj) :
    Scope Obj :=
  { access, state, base, inner := [], generator, bindings }

def get? (s : Scope Obj) (name : String) : Option (Value Obj) :=
  match s.inner.findSome? (Assoc.get? · name) with
  | some value => some value
  | none =>
    match Assoc.get? s.base name with
    | some value => some value
    | none => Assoc.get? s.state name

def contains (s : Scope Obj) (name : String) : Bool :=
  (s.get? name).isSome

/-- Writes a variable in the first frame that has it. -/
def insertFirst (name : String) (value : Value Obj) : List (Vars Obj) → List (Vars Obj)
  | [] => []
  | frame :: frames =>
    if Assoc.contains frame name then Assoc.insert frame name value :: frames
    else frame :: insertFirst name value frames

def inFrames (frames : List (Vars Obj)) (name : String) : Bool :=
  frames.any (Assoc.contains · name)

/-- Writes a variable where it is, or else as a session variable; in a shared scope into the base
frame. -/
def assign (s : Scope Obj) (name : String) (value : Value Obj) : Scope Obj :=
  if inFrames s.inner name then { s with inner := insertFirst name value s.inner }
  else if Assoc.contains s.base name then { s with base := Assoc.insert s.base name value }
  else
    match s.access with
    | .owned => { s with state := Assoc.insert s.state name value }
    | .shared => { s with base := Assoc.insert s.base name value }

def setLocal (s : Scope Obj) (name : String) (value : Value Obj) : Scope Obj :=
  match s.inner with
  | frame :: frames => { s with inner := Assoc.insert frame name value :: frames }
  | [] => { s with base := Assoc.insert s.base name value }

def pushFrame (s : Scope Obj) : Scope Obj :=
  { s with inner := [] :: s.inner }

def popFrame (s : Scope Obj) : Scope Obj :=
  { s with inner := s.inner.drop 1 }

end Scope

end BranchingStory
