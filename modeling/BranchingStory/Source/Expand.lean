import BranchingStory.Source.Draft
import BranchingStory.Source.Files
import BranchingStory.Unseen

/-!
# Included files

A source text with its included files in their places, each line with the file and number it has there.
The imports at the heads of the files are taken out. A file that is open cannot be included again.
-/

namespace BranchingStory.Source

open Text

/-- Whether a text is a module path: identifiers with points between them. -/
def isModulePath (cs : List Char) : Bool :=
  (splitBy (· == '.') cs).all isIdentifier

def readModules (line : Nat) : List (List Char) → Except Fault (List Import)
  | [] => .ok []
  | item :: items => do
    let module := trim item
    if !isModulePath module then throw (.badModule (String.ofList module))
    return ⟨String.ofList module, [], line⟩ :: (← readModules line items)

/-- The name that an import takes from a module, perhaps with another name for it. -/
def readImportName (item : List Char) : Except Fault ImportName :=
  let refused : Except Fault ImportName := .error (.badImport (String.ofList item))
  match words item with
  | [name] => if isIdentifier name then .ok ⟨String.ofList name, none⟩ else refused
  | [name, as, other] =>
    if as = ['a', 's'] ∧ isIdentifier name ∧ isIdentifier other then
      .ok ⟨String.ofList name, some (String.ofList other)⟩
    else refused
  | _ => refused

def readNames (module names : List Char) (line : Nat) : Except Fault (List Import) := do
  let module := trim module
  if !isModulePath module then throw (.badModule (String.ofList module))
  let list := dropEndWhile (· == ')') ((trim names).dropWhile (· == '('))
  let items := ((splitBy (· == ',') list).map trim).filter (!·.isEmpty)
  let taken ← items.mapM readImportName
  if taken.isEmpty then throw (.emptyImport (String.ofList module))
  return [⟨String.ofList module, taken, line⟩]

/-- The imports of a line, if it is an import line. -/
def readImport? (cs : List Char) (line : Nat) : Option (Except Fault (List Import)) :=
  match dropFront? "import ".toList cs with
  | some rest => some (readModules line (splitBy (· == ',') rest))
  | none =>
    match (dropFront? "from ".toList cs).bind (cutAt? " import ".toList) with
    | some (module, names) => some (readNames module names line)
    | none => none

/-- An expanded source text. -/
structure Expansion where
  lines : List SourceLine
  imports : List Import
  problems : List Problem

namespace Expansion

def empty : Expansion := ⟨[], [], []⟩

def report (e : Expansion) (p : Problem) : Expansion :=
  { e with problems := e.problems ++ [p] }

/-- Adds the imports of a line, which are refused behind the head of a file. -/
def addImports (e : Expansion) (l : SourceLine) (inHead : Bool) (answer : Except Fault (List Import)) :
    Expansion :=
  match answer with
  | .error fault => e.report (l.problem fault)
  | .ok imports =>
    if inHead then { e with imports := e.imports ++ imports } else e.report (l.problem .lateImport)

end Expansion

/-- Where the reader is in a file. -/
structure Position where
  /-- The label of the file. -/
  label : String
  /-- The directory that included paths start from. -/
  dir : String
  /-- Whether only imports, comments and blank lines came before. -/
  inHead : Bool
  /-- Whether a passage was opened before. -/
  inPassage : Bool

def Position.start (label dir : String) : Position :=
  ⟨label, dir, true, false⟩

def Position.pass (p : Position) (cs : List Char) : Position :=
  { p with
    inHead := p.inHead && (cs.isEmpty || cs.head? == some '#')
    inPassage := p.inPassage || (dropFront? [':', ':'] cs).isSome }

/-- A file that is to be included. -/
structure Opened where
  path : String
  label : String
  text : String

/-- The path that an include line names, from the directory of its file on. -/
def includePath (dir : String) (spec : List Char) : String :=
  Files.join dir (String.ofList (stripWhile isQuote spec))

def openInclude (files : Files) (dir : String) (stack : List String) (spec : List Char) :
    Except Fault Opened := do
  if (stripWhile isQuote spec).isEmpty then throw .includeWithoutPath
  let full := includePath dir spec
  match files.canonical full with
  | .error _ => throw (.includeMissing full)
  | .ok path =>
    if path ∈ stack then throw (.includeCycle (stack ++ [path]))
    match files.read path with
    | .error reason => throw (.includeUnreadable full reason)
    | .ok text => return ⟨path, full, text⟩

def numberedLines (text : String) : List (List Char × Nat) :=
  ((lines text.toList).map (dropEndWhile (· == '\r'))).zipIdx 1

/-- The paths that a text in a directory may include. -/
def includedPaths (dir text : String) : List String :=
  (numberedLines text).filterMap fun (line, _) =>
    (directiveArg? "@include".toList (trim line)).map (includePath dir)

def unopened (files : Files) (stack : List String) : List String :=
  unseen (files.contents.map (·.1)) stack

/-- A file that is opened was not open, and is among the files. -/
theorem opened_path {files : Files} {dir : String} {stack : List String} {spec : List Char}
    {opened : Opened} (h : openInclude files dir stack spec = .ok opened) :
    opened.path ∉ stack ∧ opened.path ∈ files.contents.map (·.1) := by
  simp only [openInclude, bind, Except.bind, pure, Except.pure, throw, throwThe, MonadExceptOf.throw] at h
  repeat' split at h
  all_goals
    first
      | contradiction
      | (cases h; exact ⟨by assumption, Files.mem_of_read (by assumption)⟩)

/-- Opening a file leaves fewer files that are not open. -/
theorem length_unopened {files : Files} {dir : String} {stack : List String} {spec : List Char}
    {opened : Opened} (h : openInclude files dir stack spec = .ok opened) :
    (unopened files (stack ++ [opened.path])).length < (unopened files stack).length :=
  length_unseen_append_lt (opened_path h).2 (opened_path h).1

/-- Expands lines behind what was expanded before. -/
def expandLines (files : Files) (stack : List String) (p : Position) (e : Expansion)
    (lines : List (List Char × Nat)) : Expansion :=
  match lines with
  | [] => e
  | (text, number) :: lines =>
    let cs := trim text
    let l : SourceLine := ⟨p.label, number, text⟩
    match if p.inPassage then none else readImport? cs number with
    | some answer => expandLines files stack p (e.addImports l p.inHead answer) lines
    | none =>
      match directiveArg? "@include".toList cs with
      | none => expandLines files stack (p.pass cs) { e with lines := e.lines ++ [l] } lines
      | some spec =>
        match _found : openInclude files p.dir stack spec with
        | .error fault => expandLines files stack (p.pass cs) (e.report (l.problem fault)) lines
        | .ok opened =>
          let inner := Position.start opened.label (Files.parent opened.path)
          let e := expandLines files (stack ++ [opened.path]) inner e (numberedLines opened.text)
          expandLines files stack (p.pass cs) e lines
termination_by ((unopened files stack).length, lines.length)
decreasing_by
  all_goals
    first
      | exact Prod.Lex.left _ _ (length_unopened _found)
      | (apply Prod.Lex.right; simp)

def expandText (files : Files) (text : String) : Expansion :=
  expandLines files [] (Position.start inlineLabel ".") Expansion.empty (numberedLines text)

def expandFile (files : Files) (path : String) : Expansion :=
  match files.canonical path with
  | .error reason => Expansion.empty.report ⟨.unreadableStory reason, path, 0⟩
  | .ok main =>
    match files.read main with
    | .error reason => Expansion.empty.report ⟨.unreadableStory reason, path, 0⟩
    | .ok text =>
      expandLines files [main] (Position.start path (Files.parent main)) Expansion.empty
        (numberedLines text)

end BranchingStory.Source
