import BranchingStory.Source.Fault
import BranchingStory.Source.Scan
import BranchingStory.Script.Parser
import BranchingStory.Script.FormatSpec
import BranchingStory.Text.Case

/-!
# The parts of a line

Reading headers, calls, interpolated text and the arguments of directives. Every expression is read once
to see that it is one, and kept as text.
-/

namespace BranchingStory.Source

open Text Script

def checkExpression (code : List Char) : Except Fault Unit :=
  match Expr.read code with
  | .ok _ => .ok ()
  | .error reason => .error (.badExpression (String.ofList (trim code)) reason)

def isTagWord (cs : List Char) : Bool :=
  !cs.isEmpty && cs.all isWordChar

/-- Whether a tag without its mark is well formed: a name, and perhaps a colon and a parameter. -/
def isTag (cs : List Char) : Bool :=
  match splitFirst? ':' cs with
  | some (name, param) =>
    isTagWord name && !param.isEmpty && param.all fun c => isWordChar c || c == '-'
  | none => isTagWord cs

/-- Takes tags off the end of a text that is given backwards and does not begin with white space; gives
the rest of it, also backwards, and the tags behind the ones found so far. -/
def splitTagsBack (text : List Char) (tags : List String) :
    Except Fault (List Char × List String) :=
  match _found : (text.takeWhile (!isBlank ·)).reverse with
  | '^' :: tag =>
    if isTag tag then
      splitTagsBack ((text.dropWhile (!isBlank ·)).dropWhile isBlank) (String.ofList tag :: tags)
    else .error (.malformedTag (String.ofList ('^' :: tag)))
  | _ => .ok (text, tags)
termination_by text.length
decreasing_by
  have split := List.takeWhile_append_dropWhile (p := (!isBlank ·)) (l := text)
  have taken : (text.takeWhile (!isBlank ·)).length = tag.length + 1 := by
    rw [← List.length_reverse, _found, List.length_cons]
  have rest := (List.dropWhile_sublist isBlank (l := text.dropWhile (!isBlank ·))).length_le
  have whole := congrArg List.length split
  rw [List.length_append] at whole
  omega

def splitTags (cs : List Char) : Except Fault (List Char × List String) :=
  (splitTagsBack (trimEnd cs).reverse []).map fun (rest, tags) => (rest.reverse, tags)

/-- The name and the expression of `name = expression`. -/
def splitKeyword? (cs : List Char) : Option (List Char × List Char) :=
  let name := cs.takeWhile isWordChar
  match trimStart (cs.dropWhile isWordChar) with
  | '=' :: expr =>
    if expr.head? = some '=' ∨ !isIdentifier name then none else some (name, trim expr)
  | _ => none

/-- Reads the parameters of a passage behind the given ones. -/
def readParams (params : List Param) : List (List Char) → Except Fault (List Param)
  | [] => .ok params
  | item :: items => do
    let item := trim item
    let (name, default?) :=
      match splitKeyword? item with
      | some (name, expr) => (name, some expr)
      | none => (item, none)
    let text := String.ofList name
    if !isIdentifier name then throw (.badParam text)
    if params.any (·.name = text) then throw (.repeatedParam text)
    match default? with
    | some expr => checkExpression expr
    | none => if params.any (·.default?.isSome) then throw (.requiredAfterDefault text)
    readParams (params ++ [⟨text, default?.map String.ofList⟩]) items

/-- The parameters between the brackets of a header. -/
def paramList (cs : List Char) : Except Fault (List Param) :=
  if isBlankText cs then .ok [] else readParams [] (splitOutside ',' cs)

def newPassage (id : String) (params : List Param) (tags : List String) : Passage :=
  { id, params, content := [], choices := [], execute := [], tags }

/-- The passage that a header opens, from the text behind its mark. -/
def readHeader (cs : List Char) : Except Fault Passage := do
  let (header, tags) ← splitTags (trim (stripComment cs))
  let name := header.takeWhile isPassageChar
  let rest := trimStart (header.dropWhile isPassageChar)
  let id := String.ofList name
  if name.isEmpty then throw .headerWithoutName
  match rest with
  | [] => return newPassage id [] tags
  | '(' :: _ =>
    match enclosed? rest with
    | none => throw .openParams
    | some (inside, behind) =>
      if !isBlankText behind then throw (.afterParams (String.ofList (trim behind)))
      return newPassage id (← paramList inside) tags
  | _ => throw (.afterName (String.ofList rest) id)

/-- Reads the arguments of a call; `keyword` is set behind a keyword argument. -/
def readArgs (keyword : Bool) : List (List Char) → Except Fault (List Arg)
  | [] => .ok []
  | item :: items => do
    let item := trim item
    if item.isEmpty then throw .emptyArg
    match splitKeyword? item with
    | some (name, expr) =>
      checkExpression expr
      return ⟨some (String.ofList name), String.ofList expr⟩ :: (← readArgs true items)
    | none =>
      if keyword then throw (.positionalAfterKeyword (String.ofList item))
      checkExpression item
      return ⟨none, String.ofList item⟩ :: (← readArgs false items)

def argList (cs : List Char) : Except Fault (List Arg) :=
  if isBlankText cs then .ok [] else readArgs false (splitOutside ',' cs)

/-- A call at the beginning of a text: the target, the arguments, and what comes behind. -/
def readCall (cs : List Char) : Except Fault (String × List Arg × List Char) := do
  let cs := trimStart cs
  let name := cs.takeWhile isPassageChar
  let rest := cs.dropWhile isPassageChar
  let target := String.ofList name
  if name.isEmpty then throw .missingTarget
  match rest with
  | '(' :: _ =>
    match enclosed? rest with
    | none => throw (.openArgs target)
    | some (inside, behind) => return (target, ← argList inside, behind)
  | _ => return (target, [], rest)

def literalItem (literal : List Char) : List ContentItem :=
  if literal.isEmpty then [] else [.text (String.ofList literal.reverse)]

def readInterpolation (inside : List Char) : Except Fault ContentItem := do
  let (code, format?) := splitSpec inside
  if code.isEmpty then throw .emptyInterpolation
  checkExpression code
  return .expression (String.ofList code) (format?.map String.ofList)

/-- Reads text with interpolations in braces; a doubled brace stands for one, and so does a single
closing one. The open piece of text is given last character first. -/
def readTextFrom (literal : List Char) (cs : List Char) : Except Fault (List ContentItem) :=
  match cs with
  | [] => .ok (literalItem literal)
  | '{' :: '{' :: rest => readTextFrom ('{' :: literal) rest
  | '}' :: '}' :: rest => readTextFrom ('}' :: literal) rest
  | '{' :: rest =>
    match _found : enclosed? ('{' :: rest) with
    | none => .error .openInterpolation
    | some (inside, behind) => do
      let item ← readInterpolation inside
      return literalItem literal ++ item :: (← readTextFrom [] behind)
  | c :: rest => readTextFrom (c :: literal) rest
termination_by cs.length
decreasing_by
  all_goals
    first
      | exact length_enclosed _found
      | (simp only [List.length_cons]; omega)

/-- The content that a text with interpolations stands for. -/
def readText (cs : List Char) : Except Fault (List ContentItem) :=
  readTextFrom [] cs

/-- A word with its first character in upper case and the others in lower case. -/
def capitalise : List Char → List Char
  | [] => []
  | c :: cs => upperChar c ++ cs.flatMap lowerChar

/-- The label of an input without one: the words of its name. -/
def defaultLabel (name : List Char) : String :=
  let words := (splitBy (fun c => c == '_' || c == ' ') name).filter (!·.isEmpty)
  String.ofList (joinWith [' '] (words.map capitalise))

/-- The attributes of an input. -/
structure InputAttrs where
  name? : Option (List Char)
  label? : Option (List Char)
  placeholder? : Option (List Char)

def InputAttrs.set (attrs : InputAttrs) (key value : List Char) : Except Fault InputAttrs :=
  match String.ofList key with
  | "name" => .ok { attrs with name? := some value }
  | "label" => .ok { attrs with label? := some value }
  | "placeholder" => .ok { attrs with placeholder? := some value }
  | key => .error (.unknownInput key)

/-- The value in quotes at the beginning of a text, and what comes behind it. -/
def readQuoted (key : String) (cs : List Char) : Except Fault (List Char × List Char) :=
  match cs with
  | [] => .error (.unquotedInput key)
  | quote :: rest =>
    if isQuote quote then
      match splitFirst? quote rest with
      | some parts => .ok parts
      | none => .error (.openInput key)
    else .error (.unquotedInput key)

/-- Reads the attributes of an input behind the given ones. Each of them takes a character at least. -/
def readAttrs (attrs : InputAttrs) (cs : List Char) : Nat → Except Fault InputAttrs
  | 0 => .ok attrs
  | fuel + 1 =>
    if cs.isEmpty then .ok attrs
    else
      match splitFirst? '=' cs with
      | none => .error (.malformedInput (String.ofList cs))
      | some (key, behind) => do
        let key := trim key
        let (value, rest) ← readQuoted (String.ofList key) (trimStart behind)
        let attrs ← attrs.set key value
        readAttrs attrs (trimStart rest) fuel

def readInput (cs : List Char) : Except Fault ContentItem := do
  let cs := trim cs
  let attrs ← readAttrs ⟨none, none, none⟩ cs cs.length
  match attrs.name? with
  | none => throw .inputWithoutName
  | some name =>
    if !isIdentifier name then throw (.badInputName (String.ofList name))
    let label := (attrs.label?.map String.ofList).getD (defaultLabel name)
    return .input (String.ofList name) (some label) (attrs.placeholder?.map String.ofList)

/-- The hint behind a colon and the rest of a render directive. -/
def readHint (cs : List Char) : Except Fault (Option String × List Char) :=
  match cs with
  | [] => .ok (none, [])
  | ':' :: rest =>
    let hint := rest.takeWhile (!isBlank ·)
    if isIdentifier hint then .ok (some (String.ofList hint), rest.dropWhile (!isBlank ·))
    else .error .malformedHint
  | c :: _ => if isBlank c then .ok (none, cs) else .error .malformedRender

def readRender (cs : List Char) : Except Fault ContentItem := do
  let (hint?, body) ← readHint cs
  let body := trim body
  if body.isEmpty then throw .renderWithoutName
  let (name, args, behind) ← readCall body
  if !isBlankText behind then throw (.afterRender (String.ofList (trim behind)))
  return .render name args hint?

/-- The text between a block directive and its colon. -/
def blockHead (directive : String) (cs : List Char) : Except Fault (List Char) :=
  match dropBack? [':'] (trimEnd cs) with
  | none => .error (.missingColon directive)
  | some head =>
    let head := trim head
    if head.isEmpty then .error (.missingCondition directive) else .ok head

def readCondition (directive : String) (cs : List Char) : Except Fault String := do
  let condition ← blockHead directive cs
  checkExpression condition
  return String.ofList condition

def readLoop (cs : List Char) : Except Fault (List String × String) := do
  let head ← blockHead "@for" cs
  match cutAt? " in ".toList head with
  | none => throw .malformedLoop
  | some (vars, collection) =>
    let vars := (splitBy (· == ',') vars).map trim
    if vars.any (!isIdentifier ·) then throw (.badLoopVars (vars.map String.ofList))
    let collection := trim collection
    checkExpression collection
    return (vars.map String.ofList, String.ofList collection)

/-- The first assignment sign outside brackets and its column. -/
def assignment? (depth : Int) : List Located → Option (Nat × AssignOp)
  | [] => none
  | ⟨token, column⟩ :: rest =>
    match token with
    | .leftParen | .leftBracket | .leftBrace => assignment? (depth + 1) rest
    | .rightParen | .rightBracket | .rightBrace => assignment? (depth - 1) rest
    | .assign op => if depth = 0 then some (column, op) else assignment? depth rest
    | _ => assignment? depth rest

/-- The command that a statement stands for; an assignment is cut at its sign. Submitted input values
cannot be assigned to. -/
def readCommand (cs : List Char) (line : Nat) : Except Fault Command := do
  let cs := trim cs
  let code := String.ofList cs
  if cs.isEmpty then throw .emptyStatement
  let refuse (reason : EvalError) : Fault := .badStatement code reason
  let tokens ← (tokens cs).mapError fun (fault, column) => refuse (.malformed fault column)
  let _ ← (Stmt.read cs).mapError refuse
  match assignment? 0 tokens with
  | none => return .eval code line
  | some (column, op) =>
    let target := trim (cs.take column)
    let expression := trim (cs.drop (column + op.symbol.length))
    let place ← (Expr.readPlace target).mapError refuse
    if place.root? = some inputsVariable then throw .reservedTarget
    return .assign (String.ofList target) op (String.ofList expression) line

end BranchingStory.Source
