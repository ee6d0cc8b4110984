import BranchingStory.Text.Split
import BranchingStory.Text.Letter

/-!
# Brackets, quotes and comments

Finding the end of a bracket, the separators outside brackets, and the comment at the end of a line.
-/

namespace BranchingStory.Source

def isQuote (c : Char) : Bool :=
  c == '\x27' || c == '"'

def isOpening (c : Char) : Bool :=
  c == '(' || c == '[' || c == '{'

def isClosing (c : Char) : Bool :=
  c == ')' || c == ']' || c == '}'

def quoteAfter (quote : Option Char) (c : Char) : Option Char :=
  match quote with
  | some q => if c = q then none else some q
  | none => if isQuote c then some c else none

/-- A line without the comment at its end, inside `depth` braces. In braces nothing is a comment; outside
`//` starts one, `\//` stands for two slashes, and doubled braces open nothing. -/
def stripFrom (depth : Nat) (quote : Option Char) : List Char → List Char
  | [] => []
  | c :: cs =>
    match depth with
    | depth + 1 =>
      match quote with
      | some _ => c :: stripFrom (depth + 1) (quoteAfter quote c) cs
      | none =>
        if c = '{' then c :: stripFrom (depth + 2) none cs
        else if c = '}' then c :: stripFrom depth none cs
        else c :: stripFrom (depth + 1) (quoteAfter none c) cs
    | 0 =>
      match c, cs with
      | '\\', '/' :: '/' :: rest => '/' :: '/' :: stripFrom 0 none rest
      | '/', '/' :: _ => []
      | '{', '{' :: rest => '{' :: '{' :: stripFrom 0 none rest
      | '{', rest => '{' :: stripFrom 1 none rest
      | c, rest => c :: stripFrom 0 none rest

def stripComment (line : List Char) : List Char :=
  stripFrom 0 none line

/-- What is inside a bracket that closes, and what comes behind it. -/
abbrev Enclosed := List Char × List Char

/-- Looks for the end of a bracket inside `depth + 1` open ones; what was read so far is given last
character first. -/
def closeFrom (quotes : Bool) (depth : Nat) (quote : Option Char) (inside : List Char) :
    List Char → Option Enclosed
  | [] => none
  | c :: cs =>
    match quote with
    | some _ =>
      match c, cs with
      | '\\', d :: rest => closeFrom quotes depth quote (d :: c :: inside) rest
      | c, rest => closeFrom quotes depth (quoteAfter quote c) (c :: inside) rest
    | none =>
      if quotes ∧ isQuote c then closeFrom quotes depth (some c) (c :: inside) cs
      else if isOpening c then closeFrom quotes (depth + 1) none (c :: inside) cs
      else if isClosing c then
        match depth with
        | 0 => some (inside.reverse, cs)
        | depth + 1 => closeFrom quotes depth none (c :: inside) cs
      else closeFrom quotes depth none (c :: inside) cs

/-- What is inside the bracket at the beginning of a text and what comes behind it. Quoted parts are
passed over, except in square brackets, where an apostrophe is just that. -/
def enclosed? : List Char → Option Enclosed
  | [] => none
  | opening :: cs => closeFrom (opening != '[') 0 none [] cs

/-- What comes behind a bracket is shorter than what comes behind its opening. -/
theorem length_closeFrom {quotes : Bool} {depth : Nat} {quote : Option Char}
    {inside cs : List Char} {found : Enclosed} (h : closeFrom quotes depth quote inside cs = some found) :
    found.2.length < cs.length := by
  fun_induction closeFrom quotes depth quote inside cs with
  | case1 => cases h
  | case2 _ _ _ _ _ ih => exact Nat.lt_succ_of_lt (Nat.lt_succ_of_lt (ih h))
  | case6 => cases h; exact Nat.lt_succ_self _
  | case3 _ _ _ _ _ _ ih | case4 _ _ _ _ _ ih | case5 _ _ _ _ _ _ ih | case7 _ _ _ _ _ _ _ ih
  | case8 _ _ _ _ _ _ _ ih => exact Nat.lt_succ_of_lt (ih h)

/-- What comes behind a bracket is shorter than the whole. -/
theorem length_enclosed {cs : List Char} {found : Enclosed} (h : enclosed? cs = some found) :
    found.2.length < cs.length := by
  cases cs with
  | nil => cases h
  | cons c cs => exact Nat.lt_succ_of_lt (length_closeFrom h)

/-- The pieces between separators outside brackets and quotes; the open piece is given last character
first. -/
def splitOutsideFrom (sep : Char) (depth : Int) (quote : Option Char) (piece : List Char) :
    List Char → List (List Char)
  | [] => [piece.reverse]
  | c :: cs =>
    match quote with
    | some _ => splitOutsideFrom sep depth (quoteAfter quote c) (c :: piece) cs
    | none =>
      if isQuote c then splitOutsideFrom sep depth (some c) (c :: piece) cs
      else if isOpening c then splitOutsideFrom sep (depth + 1) none (c :: piece) cs
      else if isClosing c then splitOutsideFrom sep (depth - 1) none (c :: piece) cs
      else if c = sep ∧ depth = 0 then piece.reverse :: splitOutsideFrom sep depth none [] cs
      else splitOutsideFrom sep depth none (c :: piece) cs

/-- The pieces between separators outside brackets and quotes. -/
def splitOutside (sep : Char) (cs : List Char) : List (List Char) :=
  splitOutsideFrom sep 0 none [] cs

/-- Whether brackets or a quote are open at the end of a text, with `depth` and `quote` open in front of
it. -/
def isOpenFrom (depth : Int) (quote : Option Char) : List Char → Bool
  | [] => 0 < depth || quote.isSome
  | c :: cs =>
    match quote with
    | some _ =>
      match c, cs with
      | '\\', [] => true
      | '\\', _ :: rest => isOpenFrom depth quote rest
      | c, rest => isOpenFrom depth (quoteAfter quote c) rest
    | none =>
      if isQuote c then isOpenFrom depth (some c) cs
      else if isOpening c then isOpenFrom (depth + 1) none cs
      else if isClosing c then isOpenFrom (depth - 1) none cs
      else isOpenFrom depth none cs

/-- Whether brackets or a quote are open at the end of a text. -/
def isOpen (cs : List Char) : Bool :=
  isOpenFrom 0 none cs

def isPassageChar (c : Char) : Bool :=
  Text.isAlphanumeric c || c == '_' || c == '.'

def isPassageName (cs : List Char) : Bool :=
  !cs.isEmpty && cs.all isPassageChar

/-- What follows a directive word, if a line begins with it. -/
def directiveArg? (word line : List Char) : Option (List Char) :=
  match Text.dropFront? word line with
  | some [] => some []
  | some (c :: cs) => if Text.isBlank c then some (Text.trim (c :: cs)) else none
  | none => none

end BranchingStory.Source
