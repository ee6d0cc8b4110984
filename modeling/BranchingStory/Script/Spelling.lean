import BranchingStory.Script.Expr
import BranchingStory.Script.Token
import BranchingStory.Text.Blank
import BranchingStory.Text.Letter

/-!
# Writing expressions

The tokens of an expression and how they are spelled. Operands that are no single token stand in
parentheses, so that no operator has to be weighed against another one.
-/

namespace BranchingStory.Script

/-- What a writer may choose: the quote around strings, and whether parts that brackets and commas set
off already do without parentheses of their own. -/
structure Style where
  quote : Char
  bareItems : Bool
  quotes : quote = '"' ∨ quote = '\x27' := by decide

/-- A character inside a string literal. -/
def escape (quote c : Char) : List Char :=
  match c with
  | '\n' => ['\\', 'n']
  | '\t' => ['\\', 't']
  | '\r' => ['\\', 'r']
  | '\x00' => ['\\', '0']
  | c => if c = quote ∨ c = '\\' then ['\\', c] else [c]

def quoted (quote : Char) (text : String) : List Char :=
  quote :: (text.toList.flatMap (escape quote) ++ [quote])

/-- The characters of a token. Floats are written for the reader of a message; they may be read back as
something else. -/
def Token.spelling (quote : Char) : Token → List Char
  | .int value => Nat.toDigits 10 value.toInt.toNat
  | .float value => (plainFloat value).toList
  | .str text => quoted quote text
  | .name word => word.toList
  | .truth => ['T', 'r', 'u', 'e']
  | .falsity => ['F', 'a', 'l', 's', 'e']
  | .nothing => ['N', 'o', 'n', 'e']
  | .and => ['a', 'n', 'd']
  | .or => ['o', 'r']
  | .not => ['n', 'o', 't']
  | .isIn => ['i', 'n']
  | .is => ['i', 's']
  | .ifWord => ['i', 'f']
  | .elseWord => ['e', 'l', 's', 'e']
  | .forWord => ['f', 'o', 'r']
  | .plus => ['+']
  | .minus => ['-']
  | .star => ['*']
  | .slash => ['/']
  | .doubleSlash => ['/', '/']
  | .percent => ['%']
  | .doubleStar => ['*', '*']
  | .eqEq => ['=', '=']
  | .notEq => ['!', '=']
  | .lt => ['<']
  | .ltEq => ['<', '=']
  | .gt => ['>']
  | .gtEq => ['>', '=']
  | .assign op => op.symbol.toList
  | .leftParen => ['(']
  | .rightParen => [')']
  | .leftBracket => ['[']
  | .rightBracket => [']']
  | .leftBrace => ['{']
  | .rightBrace => ['}']
  | .comma => [',']
  | .colon => [':']
  | .dot => ['.']

def Literal.token : Literal → Token
  | .none => .nothing
  | .bool true => .truth
  | .bool false => .falsity
  | .int i => .int i
  | .float f => .float f
  | .str s => .str s

def UnaryOp.token : UnaryOp → Token
  | .neg => .minus
  | .pos => .plus
  | .not => .not

def BinaryOp.token : BinaryOp → Token
  | .add => .plus
  | .sub => .minus
  | .mul => .star
  | .div => .slash
  | .floorDiv => .doubleSlash
  | .mod => .percent
  | .pow => .doubleStar

def CompareOp.tokens : CompareOp → List Token
  | .eq => [.eqEq]
  | .notEq => [.notEq]
  | .lt => [.lt]
  | .ltEq => [.ltEq]
  | .gt => [.gt]
  | .gtEq => [.gtEq]
  | .isIn => [.isIn]
  | .notIn => [.not, .isIn]
  | .is => [.is]
  | .isNot => [.is, .not]

/-- An expression in parentheses, unless it is a single token. -/
def enclose (e : Expr) (ts : List Token) : List Token :=
  match e with
  | .lit _ | .name _ => ts
  | _ => .leftParen :: (ts ++ [.rightParen])

/-- An expression that brackets and commas set off. -/
def Style.item (s : Style) (e : Expr) (ts : List Token) : List Token :=
  if s.bareItems then ts else enclose e ts

def commas (parts : List (List Token)) : List Token :=
  [Token.comma].intercalate parts

mutual

/-- The tokens of an expression. -/
def Expr.written (s : Style) : Expr → List Token
  | .lit value => [value.token]
  | .name name => [.name name]
  | .list items => .leftBracket :: (commas (writtenItems s items) ++ [.rightBracket])
  | .dict entries => .leftBrace :: (commas (writtenEntries s entries) ++ [.rightBrace])
  | .unary op operand => op.token :: enclose operand (operand.written s)
  | .binary op left right =>
    enclose left (left.written s) ++ op.token :: enclose right (right.written s)
  | .and left right => enclose left (left.written s) ++ .and :: enclose right (right.written s)
  | .or left right => enclose left (left.written s) ++ .or :: enclose right (right.written s)
  | .compare first chain => enclose first (first.written s) ++ writtenChain s chain
  | .conditional condition yes no =>
    enclose yes (yes.written s) ++ .ifWord :: (enclose condition (condition.written s) ++
      .elseWord :: enclose no (no.written s))
  | .attr base attr => enclose base (base.written s) ++ [.dot, .name attr]
  | .index base index =>
    enclose base (base.written s) ++ .leftBracket :: (s.item index (index.written s) ++ [.rightBracket])
  | .slice base start stop =>
    enclose base (base.written s) ++ .leftBracket ::
      (writtenBound s start ++ .colon :: (writtenBound s stop ++ [.rightBracket]))
  | .call function args named =>
    enclose function (function.written s) ++ .leftParen ::
      (commas (writtenItems s args ++ writtenNamed s named) ++ [.rightParen])
  | .listComp element clauses =>
    .leftBracket :: (s.item element (element.written s) ++ (writtenClauses s clauses ++ [.rightBracket]))
  | .dictComp key value clauses =>
    .leftBrace :: (s.item key (key.written s) ++ .colon :: (s.item value (value.written s) ++
      (writtenClauses s clauses ++ [.rightBrace])))

def writtenItems (s : Style) : List Expr → List (List Token)
  | [] => []
  | e :: es => s.item e (e.written s) :: writtenItems s es

def writtenEntries (s : Style) : List (Expr × Expr) → List (List Token)
  | [] => []
  | (key, value) :: entries =>
    (s.item key (key.written s) ++ .colon :: s.item value (value.written s)) :: writtenEntries s entries

def writtenNamed (s : Style) : List (String × Expr) → List (List Token)
  | [] => []
  | (name, value) :: named =>
    (.name name :: .assign .set :: s.item value (value.written s)) :: writtenNamed s named

def writtenChain (s : Style) : List (CompareOp × Expr) → List Token
  | [] => []
  | (op, right) :: chain => op.tokens ++ (enclose right (right.written s) ++ writtenChain s chain)

def writtenBound (s : Style) : Option Expr → List Token
  | none => []
  | some e => s.item e (e.written s)

def writtenClauses (s : Style) : List Clause → List Token
  | [] => []
  | .mk targets source conditions :: clauses =>
    .forWord :: (commas (targets.map fun name => [.name name]) ++ .isIn ::
      (enclose source (source.written s) ++
        (writtenConditions s conditions ++ writtenClauses s clauses)))

def writtenConditions (s : Style) : List Expr → List Token
  | [] => []
  | condition :: conditions =>
    .ifWord :: (enclose condition (condition.written s) ++ writtenConditions s conditions)

end

/-- The tokens of an expression that is an operand. -/
def Expr.operand (s : Style) (e : Expr) : List Token :=
  enclose e (e.written s)

/-- The tokens of an expression between brackets or commas. -/
def Expr.item (s : Style) (e : Expr) : List Token :=
  s.item e (e.written s)

theorem enclose_written (s : Style) (e : Expr) : enclose e (e.written s) = e.operand s :=
  rfl

theorem item_written (s : Style) (e : Expr) : s.item e (e.written s) = e.item s :=
  rfl

/-- A name that a fragment can mention: an identifier and no keyword. -/
def IsName (name : String) : Prop :=
  Text.isIdentifier name.toList ∧ Token.ofKeyword? name = none

/-- The literals that are one token without a sign; floats have no exact spelling. -/
def Literal.Spellable : Literal → Prop
  | .int i => 0 ≤ i.toInt
  | .float _ => False
  | _ => True

mutual

/-- Whether an expression can be written down: its literals and names can, a chain has a relation, and
a comprehension ranges over something. -/
def Expr.Spellable : Expr → Prop
  | .lit value => value.Spellable
  | .name name => IsName name
  | .list items => SpellableItems items
  | .dict entries => SpellableEntries entries
  | .unary _ operand => operand.Spellable
  | .binary _ left right => left.Spellable ∧ right.Spellable
  | .and left right => left.Spellable ∧ right.Spellable
  | .or left right => left.Spellable ∧ right.Spellable
  | .compare first chain => first.Spellable ∧ SpellableChain chain ∧ chain ≠ []
  | .conditional condition yes no => condition.Spellable ∧ yes.Spellable ∧ no.Spellable
  | .attr base attr => base.Spellable ∧ IsName attr
  | .index base index => base.Spellable ∧ index.Spellable
  | .slice base start stop => base.Spellable ∧ SpellableBound start ∧ SpellableBound stop
  | .call function args named =>
    function.Spellable ∧ SpellableItems args ∧ SpellableNamed named
  | .listComp element clauses => element.Spellable ∧ SpellableClauses clauses ∧ clauses ≠ []
  | .dictComp key value clauses =>
    key.Spellable ∧ value.Spellable ∧ SpellableClauses clauses ∧ clauses ≠ []

def SpellableItems : List Expr → Prop
  | [] => True
  | e :: es => e.Spellable ∧ SpellableItems es

def SpellableEntries : List (Expr × Expr) → Prop
  | [] => True
  | (key, value) :: entries => key.Spellable ∧ value.Spellable ∧ SpellableEntries entries

def SpellableNamed : List (String × Expr) → Prop
  | [] => True
  | (name, value) :: named => IsName name ∧ value.Spellable ∧ SpellableNamed named

def SpellableChain : List (CompareOp × Expr) → Prop
  | [] => True
  | (_, right) :: chain => right.Spellable ∧ SpellableChain chain

def SpellableBound : Option Expr → Prop
  | none => True
  | some e => e.Spellable

def SpellableClauses : List Clause → Prop
  | [] => True
  | .mk targets source conditions :: clauses =>
    ((∀ name ∈ targets, IsName name) ∧ targets ≠ []) ∧ source.Spellable ∧ SpellableItems conditions ∧
      SpellableClauses clauses

end

/-- White space. -/
def Gap (gap : List Char) : Prop :=
  ∀ c ∈ gap, Text.isBlank c

/-- The texts of tokens: their spellings with white space between them, and perhaps behind the last
one. -/
inductive Spread (quote : Char) : List Token → List Char → Prop where
  | last {t gap} :
    Gap gap →
    Spread quote [t] (t.spelling quote ++ gap)
  | cons {t gap ts cs} :
    Gap gap →
    gap ≠ [] →
    Spread quote ts cs →
    Spread quote (t :: ts) (t.spelling quote ++ (gap ++ cs))

end BranchingStory.Script
