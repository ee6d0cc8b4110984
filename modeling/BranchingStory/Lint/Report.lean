import BranchingStory.Lint.Reach
import BranchingStory.Source.Compile
import BranchingStory.Story.File

/-!
# Lint reports

What the linter says of a source file: its problems, or the passages that are never reached. A story
without problems can be written to a file.
-/

namespace BranchingStory.Lint

/-- What the linter is asked for. -/
inductive Request where
  | usage
  /-- Checks a source file, and writes the story to a file if there is a path for it. -/
  | check (path : String) (target? : Option String)
  deriving DecidableEq, Repr

def targetOf (target? : Option String) : List String → Option String
  | "--json" :: path :: args => targetOf (some path) args
  | _ :: args => targetOf target? args
  | [] => target?

def Request.ofArgs : List String → Request
  | [] => .usage
  | first :: args =>
    if first = "--help" ∨ first = "-h" then .usage else .check first (targetOf none args)

/-- What the linter does: it prints a text, then perhaps it writes a file, and at the end it prints
another text. -/
structure Plan where
  opening : String
  /-- The path of the file and its text, or the reason why the story has no such text. -/
  file? : Option (String × Except StoryFileError String)
  closing : String
  exitCode : Nat

def Plan.print (text : String) (exitCode : Nat) : Plan :=
  ⟨text, none, "", exitCode⟩

def usage : String :=
  "Usage: story_linter <story.bard> [--json <out.json|out.ron>]\n"

def heading : String :=
  "\n=== Story Lint Report ===\n\n"

def summary (errors warnings : Nat) : String :=
  "\nSummary: " ++ toString errors ++ " errors, " ++ toString warnings ++ " warnings\n"

def warningLines (warnings : List String) : String :=
  String.join (warnings.map fun warning => "WARNING: " ++ warning ++ "\n")

/-- A problem with its context, or with its hint alone if its file cannot be read. -/
def problemLines (files : Files) (p : Problem) : String :=
  "ERROR: " ++ p.display ++ "\n" ++
    match files.canonical p.file >>= files.read with
    | .ok source => p.context source ++ "\n"
    | .error _ =>
      match p.fault.hint? with
      | some hint => "  Hint: " ++ hint ++ "\n\n"
      | none => ""

def unreachedWarning (initial id : String) : String :=
  "passage '" ++ id ++ "' is never reached from '" ++ initial ++ "'"

def storyLines (story : Story) : String :=
  "Compiled " ++ toString story.passages.length ++ " passages (start: '" ++ story.initial ++ "')\n" ++
    match story.metadata.title? with
    | some title => "Title: " ++ title ++ "\n"
    | none => ""

/-- The text of a story in the notation that a path asks for. -/
def fileText (story : Story) (path : String) : Except StoryFileError String := do
  story.write (← formatOf path)

def planOf (files : Files) (target? : Option String) (c : Compilation) : Plan :=
  let opening := heading ++ warningLines c.warnings
  match c.result with
  | .error problems =>
    .print (opening ++ String.join (problems.map (problemLines files)) ++
      summary problems.length c.warnings.length) 1
  | .ok story =>
    let unreached := story.unreachable.map (unreachedWarning story.initial)
    { opening := opening ++ warningLines unreached ++ storyLines story
      file? := target?.map fun path => (path, fileText story path)
      closing := summary 0 (c.warnings.length + unreached.length)
      exitCode := 0 }

/-- The plan for a request. A source file whose blocks cannot be dedented ends the linter at once. -/
def plan (files : Files) : Request → Plan
  | .usage => .print usage 0
  | .check path target? =>
    match Compilation.ofFile files path with
    | some c => planOf files target? c
    | none => .print "" 101

/-- What a run of the linter has printed. -/
structure Report where
  exitCode : Nat
  output : String
  errors : String
  deriving DecidableEq, Repr

/-- The report of a run in which the file could not be written. -/
def Plan.failed (p : Plan) (path reason : String) : Report :=
  ⟨1, p.opening, "ERROR: Failed to write IR to '" ++ path ++ "': " ++ reason ++ "\n"⟩

/-- The report of a run; `refusal?` is the reason why the file system does not take the file. -/
def Plan.report (p : Plan) (refusal? : Option String) : Report :=
  match p.file?, refusal? with
  | none, _ => ⟨p.exitCode, p.opening ++ p.closing, ""⟩
  | some (path, .error reason), _ => p.failed path reason.message
  | some (path, .ok _), some reason => p.failed path ("IO error: " ++ reason)
  | some (path, .ok _), none =>
    ⟨p.exitCode, p.opening ++ "Wrote IR to " ++ path ++ "\n" ++ p.closing, ""⟩

end BranchingStory.Lint
