import BranchingStory.Host.Object
import BranchingStory.Story.Import
import BranchingStory.Assoc

/-!
# What a host offers

A registry holds the types, functions and constants of a host by module. For a story it becomes a table
of names: each name alone, each name behind its module, and the names that the story imports.
-/

namespace BranchingStory

/-- A type of host objects. -/
structure HostType (Obj : Type) where
  name : String
  origin : String
  /-- Makes an object for a call in a story. -/
  construct? : Option (CallArgs Obj → Except EvalError Obj)
  /-- Makes an object from what an object of the type exported. -/
  importer? : Option (Value Obj → Except EvalError Obj)
  /-- The object that saved fields are written into. -/
  blank? : Option Obj

/-- What a name stands for that is no variable. -/
inductive Binding (Obj : Type) where
  | function (f : CallArgs Obj → Except EvalError (Value Obj))
  | type (entry : HostType Obj)
  | value (v : Value Obj)

/-- The names that a story can use beside its variables. -/
abbrev Bindings (Obj : Type) := List (String × Binding Obj)

/-- The modules of a host and its types by name. -/
structure Registry (Obj : Type) where
  modules : List (String × List (String × Binding Obj))
  types : List (String × HostType Obj)

namespace Registry

variable {Obj : Type}

def empty : Registry Obj := ⟨[], []⟩

def defaultModule : String := "host"

def bind (r : Registry Obj) (module name : String) (binding : Binding Obj) : Registry Obj :=
  let exports := (Assoc.get? r.modules module).getD []
  { r with modules := Assoc.insert r.modules module (Assoc.insert exports name binding) }

/-- Registers a type in the module of its origin, and under its name for restoring saved objects. -/
def addType (r : Registry Obj) (entry : HostType Obj) : Registry Obj :=
  let r := r.bind entry.origin entry.name (.type entry)
  { r with types := Assoc.insert r.types entry.name entry }

def addFunction (r : Registry Obj) (module name : String)
    (f : CallArgs Obj → Except EvalError (Value Obj)) : Registry Obj :=
  r.bind module name (.function f)

def addValue (r : Registry Obj) (module name : String) (v : Value Obj) : Registry Obj :=
  r.bind module name (.value v)

def type? (r : Registry Obj) (name : String) : Option (HostType Obj) :=
  Assoc.get? r.types name

def hasModule (r : Registry Obj) (module : String) : Bool :=
  Assoc.contains r.modules module

/-- Each export of each module under its own name and behind the name of its module. -/
def exports (r : Registry Obj) : Bindings Obj :=
  Assoc.ofEntries <| r.modules.flatMap fun (module, exports) =>
    exports.flatMap fun (name, binding) => [(name, binding), (module ++ "." ++ name, binding)]

/-- Adds the names that one import takes from a module, and warns of those that it lacks. -/
def importNames (exports : List (String × Binding Obj)) (decl : Import) (bindings : Bindings Obj) :
    Bindings Obj × List String :=
  decl.names.foldl
    (fun (bindings, warnings) i =>
      match Assoc.get? exports i.name with
      | some binding => (Assoc.insert bindings i.boundName binding, warnings)
      | none =>
        (bindings, warnings ++ ["line " ++ toString decl.line ++ ": cannot import '" ++ i.name ++
          "' from '" ++ decl.module ++ "'"]))
    (bindings, [])

/-- The names that a story with the given imports can use, and warnings of imports without a
counterpart. -/
def bindings (r : Registry Obj) (imports : List Import) : Bindings Obj × List String :=
  imports.foldl
    (fun (bindings, warnings) decl =>
      match Assoc.get? r.modules decl.module with
      | some exports =>
        let (bindings, more) := importNames exports decl bindings
        (bindings, warnings ++ more)
      | none =>
        (bindings, warnings ++ ["line " ++ toString decl.line ++ ": module '" ++ decl.module ++
          "' is not registered with the engine"]))
    (r.exports, [])

end Registry

end BranchingStory
