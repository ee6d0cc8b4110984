import BranchingStory.Script.Fault
import BranchingStory.Story.Resolve

/-!
# What is wrong with a source text

The faults that are found while a source text becomes a story, each with its kind, its text, and in some
cases a hint.
-/

namespace BranchingStory

/-- The kind of a fault. -/
inductive FaultKind where
  /-- A line that is malformed. -/
  | form
  /-- A block that is misplaced or not closed. -/
  | block
  /-- An expression or statement that cannot be read. -/
  | fragment
  | unknownTarget
  | arity
  | include
  | imports
  /-- The story as a whole. -/
  | story
  deriving DecidableEq, Repr

def FaultKind.title : FaultKind → String
  | .form => "syntax error"
  | .block => "block error"
  | .fragment => "expression error"
  | .unknownTarget => "unknown target"
  | .arity => "argument error"
  | .include => "include error"
  | .imports => "import error"
  | .story => "story error"

def FaultKind.name : FaultKind → String
  | .form => "syntax"
  | .block => "block"
  | .fragment => "expression"
  | .unknownTarget => "unknown_target"
  | .arity => "arity"
  | .include => "include"
  | .imports => "import"
  | .story => "story"

/-- The two kinds of blocks. -/
inductive BlockKind where
  | cond
  | loop
  deriving DecidableEq, Repr

def BlockKind.opener : BlockKind → String
  | .cond => "@if"
  | .loop => "@for"

def BlockKind.closer : BlockKind → String
  | .cond => "@endif"
  | .loop => "@endfor"

/-- What is wrong with a source text. -/
inductive Fault where
  -- files
  | unreadableStory (reason : String)
  | includeWithoutPath
  | includeMissing (path : String)
  | includeCycle (chain : List String)
  | includeUnreadable (path reason : String)
  -- imports
  | lateImport
  | badModule (name : String)
  | badImport (text : String)
  | emptyImport (module : String)
  -- headers
  | malformedTag (text : String)
  | headerWithoutName
  | afterName (text name : String)
  | openParams
  | afterParams (text : String)
  | badParam (name : String)
  | repeatedParam (name : String)
  | requiredAfterDefault (name : String)
  -- calls
  | emptyArg
  | positionalAfterKeyword (text : String)
  | missingTarget
  | openArgs (target : String)
  | afterTarget (text : String)
  -- text and choices
  | openInterpolation
  | emptyInterpolation
  | malformedChoice
  | emptyGuard
  -- directives
  | badStart
  | unknownDirective (word : String)
  | malformedInput (text : String)
  | unquotedInput (key : String)
  | openInput (key : String)
  | unknownInput (key : String)
  | inputWithoutName
  | badInputName (name : String)
  | malformedHint
  | malformedRender
  | renderWithoutName
  | afterRender (text : String)
  -- blocks
  | missingColon (directive : String)
  | missingCondition (directive : String)
  | elseWithoutColon
  | elifAfterElse
  | elifWithoutIf
  | secondElse
  | elseWithoutIf
  | closerWithColon (word : String)
  | afterCloser (text word : String)
  | closerInside (word : String) (inner : BlockKind) (line : Nat)
  | closerWithoutOpener (kind : BlockKind)
  | malformedLoop
  | badLoopVars (vars : List String)
  | unclosed (kind : BlockKind) (passage : String)
  | scriptWithoutColon
  | openScript
  | strayEndscript
  -- fragments
  | badExpression (code : String) (reason : EvalError)
  | badStatement (code : String) (reason : EvalError)
  | emptyStatement
  | reservedTarget
  -- links
  | unknownPassage (target : String) (nearest? : Option String)
  | badArgs (reason : ArityFault)
  -- the whole
  | noPassages
  | unknownStart (target : String)

namespace Fault

def kind : Fault → FaultKind
  | unreadableStory _ | includeWithoutPath | includeMissing _ | includeCycle _
  | includeUnreadable .. => .include
  | lateImport | badModule _ | badImport _ | emptyImport _ => .imports
  | missingColon _ | missingCondition _ | elseWithoutColon | elifAfterElse | elifWithoutIf
  | secondElse | elseWithoutIf | closerWithColon _ | afterCloser .. | closerInside ..
  | closerWithoutOpener _ | malformedLoop | badLoopVars _ | unclosed .. | scriptWithoutColon
  | openScript | strayEndscript => .block
  | badExpression .. | badStatement .. => .fragment
  | unknownPassage .. => .unknownTarget
  | badArgs _ => .arity
  | noPassages | unknownStart _ => .story
  | _ => .form

def message : Fault → String
  | unreadableStory reason => "cannot read story file: " ++ reason
  | includeWithoutPath => "@include needs a path"
  | includeMissing path => "include file not found: " ++ path
  | includeCycle chain => "circular include: " ++ String.intercalate " -> " chain
  | includeUnreadable path reason => "cannot read " ++ path ++ ": " ++ reason
  | lateImport => "imports must appear at the top of the file"
  | badModule name => "invalid module name '" ++ name ++ "'"
  | badImport text => "cannot parse import '" ++ text ++ "'"
  | emptyImport module => "nothing imported from '" ++ module ++ "'"
  | malformedTag text => "malformed tag '" ++ text ++ "'"
  | headerWithoutName => "passage header needs a name"
  | afterName text name => "unexpected '" ++ text ++ "' after passage name '" ++ name ++ "'"
  | openParams => "unclosed parameter list in passage header"
  | afterParams text => "unexpected '" ++ text ++ "' after parameter list"
  | badParam name => "invalid parameter name '" ++ name ++ "'"
  | repeatedParam name => "duplicate parameter '" ++ name ++ "'"
  | requiredAfterDefault name =>
    "parameter '" ++ name ++ "' without a default follows a parameter with one"
  | emptyArg => "empty argument"
  | positionalAfterKeyword text =>
    "positional argument '" ++ text ++ "' follows a keyword argument"
  | missingTarget => "missing target passage after '->'"
  | openArgs target => "unclosed argument list for '" ++ target ++ "'"
  | afterTarget text => "unexpected '" ++ text ++ "' after jump target"
  | openInterpolation => "unclosed '\x7b' in text"
  | emptyInterpolation => "empty \x7b\x7d interpolation"
  | malformedChoice => "malformed choice"
  | emptyGuard => "empty choice condition"
  | badStart => "@start needs a passage name"
  | unknownDirective word => "unknown directive '" ++ word ++ "'"
  | malformedInput text => "malformed @input attribute '" ++ text ++ "'"
  | unquotedInput key => "@input " ++ key ++ " value must be quoted"
  | openInput key => "unterminated @input " ++ key ++ " value"
  | unknownInput key => "unknown @input attribute '" ++ key ++ "'"
  | inputWithoutName => "@input needs a name"
  | badInputName name => "invalid @input name '" ++ name ++ "'"
  | malformedHint => "malformed @render hint"
  | malformedRender => "malformed @render directive"
  | renderWithoutName => "@render needs a directive name"
  | afterRender text => "unexpected '" ++ text ++ "' after @render"
  | missingColon directive => directive ++ " is missing its colon"
  | missingCondition directive => directive ++ " needs a condition"
  | elseWithoutColon => "@else is missing its colon"
  | elifAfterElse => "@elif after @else"
  | elifWithoutIf => "@elif without a matching @if"
  | secondElse => "duplicate @else"
  | elseWithoutIf => "@else without a matching @if"
  | closerWithColon word => word ++ " should not have a colon"
  | afterCloser text word => "unexpected '" ++ text ++ "' after " ++ word
  | closerInside word inner line =>
    word ++ " found while " ++ inner.opener ++ " from line " ++ toString line ++ " is still open"
  | closerWithoutOpener kind => kind.closer ++ " without a matching " ++ kind.opener
  | malformedLoop => "malformed @for"
  | badLoopVars vars => "invalid loop variable(s) '" ++ String.intercalate ", " vars ++ "'"
  | unclosed kind passage => kind.opener ++ " in passage '" ++ passage ++ "' is never closed"
  | scriptWithoutColon => "@script is missing its colon"
  | openScript => "@script block is never closed"
  | strayEndscript => "@endscript without a matching @script:"
  | badExpression code reason => "invalid expression '" ++ code ++ "': " ++ reason.message
  | badStatement code reason => "invalid statement '" ++ code ++ "': " ++ reason.message
  | emptyStatement => "empty ~ statement"
  | reservedTarget => "'" ++ inputsVariable ++ "' is reserved for submitted input values"
  | unknownPassage target _ => "unknown passage '" ++ target ++ "'"
  | badArgs reason => reason.message
  | noPassages => "story has no passages"
  | unknownStart target => "@start names unknown passage '" ++ target ++ "'"

def hint? : Fault → Option String
  | includeWithoutPath => some "write @include path/to/file.bard"
  | lateImport => some "move this line above @metadata, @include and the first passage"
  | headerWithoutName => some "write :: PassageName"
  | afterName .. => some "passage names may only contain letters, digits, '_' and '.'"
  | afterTarget _ => some "write -> Target or -> Target(args)"
  | openInterpolation => some "use \x7b\x7b for a literal brace"
  | malformedChoice =>
    some "write + [text] -> Target, * [text] -> Target or + \x7bcondition\x7d [text] -> Target"
  | badStart => some "write @start PassageName"
  | unknownDirective _ =>
    some ("valid directives: @if, @elif, @else, @endif, @for, @endfor, @script, @endscript, @render, " ++
      "@input, @include, @start, @metadata")
  | unknownInput _ => some "@input accepts name, label and placeholder"
  | inputWithoutName => some "write @input name=\"field\""
  | malformedHint => some "write @render:hint name(args)"
  | renderWithoutName => some "write @render name(args)"
  | missingColon directive => some ("write " ++ directive ++ " condition:")
  | elseWithoutColon => some "write @else:"
  | closerWithColon _ | afterCloser .. =>
    some "only opening directives (@if, @elif, @else, @for) take a colon"
  | closerInside _ inner _ => some ("close it with " ++ inner.closer ++ " first")
  | malformedLoop => some "write @for item in collection:"
  | unclosed kind _ => some ("add " ++ kind.closer ++ " before the next passage")
  | scriptWithoutColon => some "write @script: on its own line"
  | openScript => some "add @endscript"
  | reservedTarget => some "read submitted values from _inputs, store them under another name"
  | unknownPassage _ (some nearest) => some ("did you mean '" ++ nearest ++ "'?")
  | unknownPassage _ none => some "passage names are case-sensitive; check the :: header"
  | noPassages => some "start a passage with :: Name"
  | _ => none

end Fault

end BranchingStory
