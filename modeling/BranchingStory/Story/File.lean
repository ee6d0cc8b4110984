import BranchingStory.Story.Document
import BranchingStory.Story.Reading
import BranchingStory.Document.RonPrinter
import BranchingStory.Document.RonParser
import BranchingStory.Json.Printer

/-!
# Story files

Stories are kept in JSON or RON; the extension of the file name tells which.
-/

namespace BranchingStory

/-- The notation of a story file. -/
inductive StoryFormat where
  | json
  | ron
  deriving DecidableEq, Repr

/-- Why a story cannot be written to a file or read from one. -/
inductive StoryFileError where
  | unsupported (extension : String)
  | notJson
  | notRon
  | tooDeepForRon

/-- The text of a refusal to write or read a story file. -/
def StoryFileError.message : StoryFileError → String
  | .unsupported extension => "unsupported story file extension: " ++ extension
  | .notJson => "JSON error: not the document of a story"
  | .notRon => "RON deserialization error: not the document of a story"
  | .tooDeepForRon =>
    "RON serialization error: Exceeded recursion limit, try increasing the limit and using " ++
      "`serde_stacker` to protect against a stack overflow"

def fileName (path : List Char) : List Char :=
  ((Text.splitBy (· == '/') path).filter fun name => name ≠ [] ∧ name ≠ ['.']).getLastD []

/-- The extension of a file name in lower case: what stands behind the last point, unless the point is
the first character of the name. -/
def extensionOf (path : List Char) : List Char :=
  match Text.splitLast? '.' (fileName path) with
  | some (_ :: _, ending) => ending.map Char.toLower
  | _ => []

def formatOf (path : String) : Except StoryFileError StoryFormat :=
  match String.ofList (extensionOf path.toList) with
  | "json" => .ok .json
  | "ron" => .ok .ron
  | extension => .error (.unsupported extension)

def Story.write (s : Story) (format : StoryFormat) : Except StoryFileError String :=
  match format with
  | .json => .ok s.toDoc.toJson.pretty
  | .ron =>
    match Ron.print? s.toDoc with
    | some text => .ok text
    | none => .error .tooDeepForRon

def Story.ofJsonText (text : String) : Except StoryFileError Story :=
  match (Json.read? text).bind Story.ofJson? with
  | some story => .ok story
  | none => .error .notJson

def Story.ofRonText (text : String) : Except StoryFileError Story :=
  match (Ron.parse? text).bind fun doc => Story.ofJson? doc.toJson.written with
  | some story => .ok story
  | none => .error .notRon

/-- The story that a text in a notation stands for. -/
def Story.read (text : String) (format : StoryFormat) : Except StoryFileError Story :=
  match format with
  | .json => Story.ofJsonText text
  | .ron => Story.ofRonText text

end BranchingStory
