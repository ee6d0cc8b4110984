import BranchingStory.Lint.Report

/-!
# The linter

Checks a source file with the files that it includes, and may write the compiled story to a file.
-/

namespace BranchingStory

open Source

def systemText : IO.Error → String
  | .noFileOrDirectory .. => Files.missing
  | .inappropriateType _ code _ =>
    if code = 21 then Files.isDirectory else Files.notDirectory
  | .permissionDenied _ code _ =>
    "Permission denied (os error " ++ toString code ++ ")"
  | reason => toString reason

/-- What an action gives, or the text of its failure. -/
def trySystem {α : Type} (action : IO α) : IO (Except String α) := do
  try return .ok (← action) catch reason => return .error (systemText reason)

def readContent (path : String) : IO Content := do
  match ← trySystem (IO.FS.readBinFile path) with
  | .error reason => return .error reason
  | .ok bytes =>
    match String.fromUTF8? bytes with
    | some text => return .ok text
    | none => return .error "stream did not contain valid UTF-8"

/-- The canonical spellings of paths that were looked up, and the contents of their files. -/
structure Lookup where
  spellings : List (String × Except String String)
  contents : List (String × Content)

/-- Looks up paths and all paths that their files may include. -/
partial def lookUp (found : Lookup) : List String → IO Lookup
  | [] => return found
  | path :: paths => do
    if Assoc.contains found.spellings path then lookUp found paths
    else
      let spelling ← trySystem (return (← IO.FS.realPath path).toString)
      let found := { found with spellings := (path, spelling) :: found.spellings }
      match spelling with
      | .error _ => lookUp found paths
      | .ok file =>
        if Assoc.contains found.contents file then lookUp found paths
        else
          let content ← readContent file
          let found := { found with contents := (file, content) :: found.contents }
          match content with
          | .error _ => lookUp found paths
          | .ok text => lookUp found (includedPaths (Files.parent file) text ++ paths)

def Lookup.files (found : Lookup) : Files where
  canonical path := (Assoc.get? found.spellings path).getD (.error Files.missing)
  contents := found.contents

def filesFor : Lint.Request → IO Files
  | .usage => return (Lookup.mk [] []).files
  | .check path _ => return (← lookUp ⟨[], []⟩ [path, inlineLabel]).files

/-- Writes the file of a plan; the answer is the text of a failure. -/
def writeFile (plan : Lint.Plan) : IO (Option String) := do
  match plan.file? with
  | some (path, .ok text) =>
    match ← trySystem (IO.FS.writeFile path text) with
    | .ok () => return none
    | .error reason => return some reason
  | _ => return none

end BranchingStory

open BranchingStory in
def main (args : List String) : IO UInt32 := do
  let request := Lint.Request.ofArgs args
  let plan := Lint.plan (← filesFor request) request
  let report := plan.report (← writeFile plan)
  IO.print report.output
  IO.eprint report.errors
  return UInt32.ofNat report.exitCode
