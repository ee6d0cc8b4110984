import BranchingStory.Source.Expand
import BranchingStory.Source.Assemble

/-!
# Compiling

From a source text and the files around it to a story, or to all that is wrong with the text.
-/

namespace BranchingStory

open Source

def storyVersion : String := "0.1.0"

/-- A story or the problems of its source text in the order of report, and warnings in either case. -/
structure Compilation where
  result : Except (List Problem) Story
  warnings : List String

namespace Compilation

def ofExpansion (e : Expansion) : Option Compilation :=
  (readLines Reading.empty e.lines).map fun r =>
    let (story, problems, warnings) := assemble storyVersion e.imports r
    let all := e.problems ++ r.problems ++ problems
    { result := if all.isEmpty then .ok story else .error (Problem.sort all)
      warnings := r.warnings ++ warnings }

/-- Compiles a text that comes from no file. There is no result if the indentation of a block would cut
a character in two. -/
def ofText (files : Files) (text : String) : Option Compilation :=
  ofExpansion (expandText files text)

/-- Compiles the file under a path. There is no result if the indentation of a block would cut a
character in two. -/
def ofFile (files : Files) (path : String) : Option Compilation :=
  ofExpansion (expandFile files path)

end Compilation

end BranchingStory
