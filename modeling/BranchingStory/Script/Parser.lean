import BranchingStory.Script.Expr
import BranchingStory.Script.Lexer

/-!
# Reading expressions and statements

A descent over the tokens, one function for each level of binding strength, from the conditional
expression down to names and literals. A fault is reported at the column of the token that the reader
stands on.
-/

namespace BranchingStory.Script

/-- What is left of a fragment: its tokens, the column of the last one read and the column of the
end. -/
structure Cursor where
  rest : List Located
  last : Nat
  stop : Nat

namespace Cursor

/-- The next token, if the fragment is not at its end. -/
def peek? (c : Cursor) : Option Token :=
  c.rest.head?.map (·.token)

/-- The token after the next. -/
def second? (c : Cursor) : Option Token :=
  (c.rest.drop 1).head?.map (·.token)

/-- The column of the next token or of the end. -/
def column (c : Cursor) : Nat :=
  match c.rest with
  | [] => c.stop
  | next :: _ => next.column

/-- The cursor behind the next token; at the end it stays. -/
def advance (c : Cursor) : Cursor :=
  match c.rest with
  | [] => c
  | next :: rest => { c with rest, last := next.column }

end Cursor

/-- A reader from a cursor. -/
abbrev Reader (α : Type) := Cursor → Except SyntaxError (α × Cursor)

/-- Refuses the fragment at the next token. -/
def refuse {α : Type} (fault : SyntaxFault) (c : Cursor) : Except SyntaxError α :=
  .error (fault, c.column)

/-- Goes past the next token if `is` holds of it, and otherwise misses `what`. -/
def expect (is : Token → Bool) (what : String) (c : Cursor) : Except SyntaxError Cursor :=
  if c.peek?.any is then .ok c.advance else refuse (.expected what) c

/-- The relation at the cursor, and the cursor behind it. -/
def compareOp? (c : Cursor) : Option (CompareOp × Cursor) :=
  match c.peek?, c.second? with
  | some .eqEq, _ => some (.eq, c.advance)
  | some .notEq, _ => some (.notEq, c.advance)
  | some .lt, _ => some (.lt, c.advance)
  | some .ltEq, _ => some (.ltEq, c.advance)
  | some .gt, _ => some (.gt, c.advance)
  | some .gtEq, _ => some (.gtEq, c.advance)
  | some .isIn, _ => some (.isIn, c.advance)
  | some .not, some .isIn => some (.notIn, c.advance.advance)
  | some .is, some .not => some (.isNot, c.advance.advance)
  | some .is, _ => some (.is, c.advance)
  | _, _ => none

/-- The operator of a sum at the cursor. -/
def sumOp? (c : Cursor) : Option BinaryOp :=
  match c.peek? with
  | some .plus => some .add
  | some .minus => some .sub
  | _ => none

/-- The operator of a product at the cursor. -/
def productOp? (c : Cursor) : Option BinaryOp :=
  match c.peek? with
  | some .star => some .mul
  | some .slash => some .div
  | some .doubleSlash => some .floorDiv
  | some .percent => some .mod
  | _ => none

/-- The sign in front of an operand at the cursor. -/
def signOp? (c : Cursor) : Option UnaryOp :=
  match c.peek? with
  | some .minus => some .neg
  | some .plus => some .pos
  | _ => none

/-- The name of a keyword argument, if one starts at the cursor: a name before an equals sign. -/
def keyword? (c : Cursor) : Option String :=
  match c.peek?, c.second? with
  | some (.name name), some (.assign .set) => some name
  | _, _ => none

/-- Whether the next token is `token`; for tokens without content. -/
def Cursor.at (c : Cursor) (is : Token → Bool) : Bool :=
  c.peek?.any is

/-- Joins the string literals that follow one another. -/
def adjacentStrings (text : String) (stop : Nat) (last : Nat) : List Located → String × Cursor
  | ⟨.str more, column⟩ :: rest => adjacentStrings (text ++ more) stop column rest
  | rest => (text, ⟨rest, last, stop⟩)

/-- The variables of a comprehension clause: names with commas between them. -/
def targets (stop : Nat) (last : Nat) : List Located → Except SyntaxError (List String × Cursor)
  | ⟨.name name, _⟩ :: ⟨.comma, column⟩ :: rest =>
    (targets stop column rest).map fun (names, c) => (name :: names, c)
  | ⟨.name name, column⟩ :: rest => .ok ([name], ⟨rest, column, stop⟩)
  | tokens => refuse (.expected "loop variable name") (Cursor.advance ⟨tokens, last, stop⟩)

def Token.isElse : Token → Bool | .elseWord => true | _ => false
def Token.isFor : Token → Bool | .forWord => true | _ => false
def Token.isIf : Token → Bool | .ifWord => true | _ => false
def Token.isOr : Token → Bool | .or => true | _ => false
def Token.isAnd : Token → Bool | .and => true | _ => false
def Token.isNot : Token → Bool | .not => true | _ => false
def Token.isInWord : Token → Bool | .isIn => true | _ => false
def Token.isPower : Token → Bool | .doubleStar => true | _ => false
def Token.isComma : Token → Bool | .comma => true | _ => false
def Token.isColon : Token → Bool | .colon => true | _ => false
def Token.isRightParen : Token → Bool | .rightParen => true | _ => false
def Token.isRightBracket : Token → Bool | .rightBracket => true | _ => false
def Token.isRightBrace : Token → Bool | .rightBrace => true | _ => false

mutual

/-- A conditional expression or a disjunction. -/
def expression (fuel : Nat) (c : Cursor) : Except SyntaxError (Expr × Cursor) :=
  match fuel with
  | 0 => refuse .nestedTooDeeply c
  | fuel + 1 => do
    let (yes, c) ← disjunction fuel c
    if c.at Token.isIf then
      let (condition, c) ← disjunction fuel c.advance
      let c ← expect Token.isElse "'else' in conditional expression" c
      let (no, c) ← expression fuel c
      return (.conditional condition yes no, c)
    return (yes, c)

/-- Conjunctions joined by `or`. -/
def disjunction (fuel : Nat) (c : Cursor) : Except SyntaxError (Expr × Cursor) :=
  match fuel with
  | 0 => refuse .nestedTooDeeply c
  | fuel + 1 => do
    let (left, c) ← conjunction fuel c
    moreDisjuncts fuel left c

/-- The further operands of `or`. -/
def moreDisjuncts (fuel : Nat) (left : Expr) (c : Cursor) : Except SyntaxError (Expr × Cursor) :=
  match fuel with
  | 0 => refuse .nestedTooDeeply c
  | fuel + 1 =>
    if c.at Token.isOr then do
      let (right, c) ← conjunction fuel c.advance
      moreDisjuncts fuel (.or left right) c
    else .ok (left, c)

/-- Negations joined by `and`. -/
def conjunction (fuel : Nat) (c : Cursor) : Except SyntaxError (Expr × Cursor) :=
  match fuel with
  | 0 => refuse .nestedTooDeeply c
  | fuel + 1 => do
    let (left, c) ← negation fuel c
    moreConjuncts fuel left c

/-- The further operands of `and`. -/
def moreConjuncts (fuel : Nat) (left : Expr) (c : Cursor) : Except SyntaxError (Expr × Cursor) :=
  match fuel with
  | 0 => refuse .nestedTooDeeply c
  | fuel + 1 =>
    if c.at Token.isAnd then do
      let (right, c) ← negation fuel c.advance
      moreConjuncts fuel (.and left right) c
    else .ok (left, c)

/-- A comparison with any number of `not` in front. -/
def negation (fuel : Nat) (c : Cursor) : Except SyntaxError (Expr × Cursor) :=
  match fuel with
  | 0 => refuse .nestedTooDeeply c
  | fuel + 1 =>
    if c.at Token.isNot then do
      let (operand, c) ← negation fuel c.advance
      return (.unary .not operand, c)
    else comparison fuel c

/-- A sum, or a chain of sums with relations between them. -/
def comparison (fuel : Nat) (c : Cursor) : Except SyntaxError (Expr × Cursor) :=
  match fuel with
  | 0 => refuse .nestedTooDeeply c
  | fuel + 1 => do
    let (first, c) ← sum fuel c
    let (chain, c) ← relations fuel c
    return (if chain.isEmpty then first else .compare first chain, c)

/-- The relations and right sides of a chain. -/
def relations (fuel : Nat) (c : Cursor) : Except SyntaxError (List (CompareOp × Expr) × Cursor) :=
  match fuel with
  | 0 => refuse .nestedTooDeeply c
  | fuel + 1 =>
    match compareOp? c with
    | some (op, c) => do
      let (right, c) ← sum fuel c
      let (chain, c) ← relations fuel c
      return ((op, right) :: chain, c)
    | none => .ok ([], c)

/-- Products with plus and minus signs between them. -/
def sum (fuel : Nat) (c : Cursor) : Except SyntaxError (Expr × Cursor) :=
  match fuel with
  | 0 => refuse .nestedTooDeeply c
  | fuel + 1 => do
    let (left, c) ← product fuel c
    moreTerms fuel left c

/-- The further terms of a sum. -/
def moreTerms (fuel : Nat) (left : Expr) (c : Cursor) : Except SyntaxError (Expr × Cursor) :=
  match fuel with
  | 0 => refuse .nestedTooDeeply c
  | fuel + 1 =>
    match sumOp? c with
    | some op => do
      let (right, c) ← product fuel c.advance
      moreTerms fuel (.binary op left right) c
    | none => .ok (left, c)

/-- Signed operands with multiplication and division signs between them. -/
def product (fuel : Nat) (c : Cursor) : Except SyntaxError (Expr × Cursor) :=
  match fuel with
  | 0 => refuse .nestedTooDeeply c
  | fuel + 1 => do
    let (left, c) ← signed fuel c
    moreFactors fuel left c

/-- The further factors of a product. -/
def moreFactors (fuel : Nat) (left : Expr) (c : Cursor) : Except SyntaxError (Expr × Cursor) :=
  match fuel with
  | 0 => refuse .nestedTooDeeply c
  | fuel + 1 =>
    match productOp? c with
    | some op => do
      let (right, c) ← signed fuel c.advance
      moreFactors fuel (.binary op left right) c
    | none => .ok (left, c)

/-- A power with any number of signs in front. -/
def signed (fuel : Nat) (c : Cursor) : Except SyntaxError (Expr × Cursor) :=
  match fuel with
  | 0 => refuse .nestedTooDeeply c
  | fuel + 1 =>
    match signOp? c with
    | some op => do
      let (operand, c) ← signed fuel c.advance
      return (.unary op operand, c)
    | none => power fuel c

/-- An operand, or one raised to a signed power; the exponent reaches as far right as it can. -/
def power (fuel : Nat) (c : Cursor) : Except SyntaxError (Expr × Cursor) :=
  match fuel with
  | 0 => refuse .nestedTooDeeply c
  | fuel + 1 => do
    let (base, c) ← atom fuel c
    let (base, c) ← suffixes fuel base c
    if c.at Token.isPower then
      let (exponent, c) ← signed fuel c.advance
      return (.binary .pow base exponent, c)
    return (base, c)

/-- The attributes, calls and subscripts behind an operand. -/
def suffixes (fuel : Nat) (base : Expr) (c : Cursor) : Except SyntaxError (Expr × Cursor) :=
  match fuel with
  | 0 => refuse .nestedTooDeeply c
  | fuel + 1 =>
    match c.peek? with
    | some .dot =>
      match c.second? with
      | some (.name attr) => suffixes fuel (.attr base attr) c.advance.advance
      | _ => refuse (.expected "attribute name after '.'") c.advance.advance
    | some .leftParen => do
      let (args, named, c) ← arguments fuel [] [] c.advance
      suffixes fuel (.call base args named) c
    | some .leftBracket => do
      let (base, c) ← subscript fuel base c.advance
      suffixes fuel base c
    | _ => .ok (base, c)

/-- An index or the bounds of a slice, behind the opening bracket. -/
def subscript (fuel : Nat) (base : Expr) (c : Cursor) : Except SyntaxError (Expr × Cursor) :=
  match fuel with
  | 0 => refuse .nestedTooDeeply c
  | fuel + 1 =>
    if c.at Token.isColon then sliceEnd fuel base none c.advance
    else do
      let (start, c) ← expression fuel c
      if c.at Token.isColon then sliceEnd fuel base (some start) c.advance
      else
        let c ← expect Token.isRightBracket "']'" c
        return (.index base start, c)

/-- The upper bound of a slice, behind its colon. -/
def sliceEnd (fuel : Nat) (base : Expr) (start : Option Expr) (c : Cursor) :
    Except SyntaxError (Expr × Cursor) :=
  match fuel with
  | 0 => refuse .nestedTooDeeply c
  | fuel + 1 =>
    if c.at Token.isRightBracket then .ok (.slice base start none, c.advance)
    else do
      let (stop, c) ← expression fuel c
      let c ← expect Token.isRightBracket "']'" c
      return (.slice base start (some stop), c)

/-- Call arguments behind the opening bracket; those read so far are given last one first. -/
def arguments (fuel : Nat) (args : List Expr) (named : List (String × Expr)) (c : Cursor) :
    Except SyntaxError (List Expr × List (String × Expr) × Cursor) :=
  match fuel with
  | 0 => refuse .nestedTooDeeply c
  | fuel + 1 => do
    if c.at Token.isRightParen then
      return (args.reverse, named.reverse, c.advance)
    let (args, named, c) ←
      match keyword? c with
      | some name => do
        let (value, c) ← expression fuel c.advance.advance
        pure (args, (name, value) :: named, c)
      | none =>
        if named.isEmpty then do
          let (value, c) ← expression fuel c
          pure (value :: args, named, c)
        else refuse .positionalAfterKeyword c
    if c.at Token.isComma then arguments fuel args named c.advance
    else
      let c ← expect Token.isRightParen "')'" c
      return (args.reverse, named.reverse, c)

/-- A literal, a name, or something in brackets. -/
def atom (fuel : Nat) (c : Cursor) : Except SyntaxError (Expr × Cursor) :=
  match fuel with
  | 0 => refuse .nestedTooDeeply c
  | fuel + 1 =>
    match c.rest with
    | [] => .error (.unexpected none, c.last)
    | next :: rest =>
      let after := c.advance
      match next.token with
      | .int value => .ok (.lit (.int value), after)
      | .float value => .ok (.lit (.float value), after)
      | .str text =>
        let (text, c) := adjacentStrings text c.stop next.column rest
        .ok (.lit (.str text), c)
      | .truth => .ok (.lit (.bool true), after)
      | .falsity => .ok (.lit (.bool false), after)
      | .nothing => .ok (.lit .none, after)
      | .name name => .ok (.name name, after)
      | .leftParen => parenthesised fuel after
      | .leftBracket => bracketed fuel after
      | .leftBrace => braced fuel after
      | token => .error (.unexpected (some token), next.column)

/-- Behind an opening parenthesis: nothing or several items for a list, a comprehension, or one
expression. -/
def parenthesised (fuel : Nat) (c : Cursor) : Except SyntaxError (Expr × Cursor) :=
  match fuel with
  | 0 => refuse .nestedTooDeeply c
  | fuel + 1 => do
    if c.at Token.isRightParen then
      return (.list [], c.advance)
    let (first, c) ← expression fuel c
    if c.at Token.isFor then
      let (clauses, c) ← clauses fuel c
      let c ← expect Token.isRightParen "')'" c
      return (.listComp first clauses, c)
    if c.at Token.isComma then
      let (items, c) ← moreItems fuel Token.isRightParen c
      let c ← expect Token.isRightParen "')'" c
      return (.list (first :: items), c)
    let c ← expect Token.isRightParen "')'" c
    return (first, c)

/-- Behind an opening bracket: the items of a list or a comprehension. -/
def bracketed (fuel : Nat) (c : Cursor) : Except SyntaxError (Expr × Cursor) :=
  match fuel with
  | 0 => refuse .nestedTooDeeply c
  | fuel + 1 => do
    if c.at Token.isRightBracket then
      return (.list [], c.advance)
    let (first, c) ← expression fuel c
    if c.at Token.isFor then
      let (clauses, c) ← clauses fuel c
      let c ← expect Token.isRightBracket "']'" c
      return (.listComp first clauses, c)
    let (items, c) ← moreItems fuel Token.isRightBracket c
    let c ← expect Token.isRightBracket "']'" c
    return (.list (first :: items), c)

/-- The items behind the commas of a list; a comma may stand before the closing bracket. -/
def moreItems (fuel : Nat) (isClose : Token → Bool) (c : Cursor) :
    Except SyntaxError (List Expr × Cursor) :=
  match fuel with
  | 0 => refuse .nestedTooDeeply c
  | fuel + 1 =>
    if c.at Token.isComma then
      if c.advance.at isClose then .ok ([], c.advance)
      else do
        let (item, c) ← expression fuel c.advance
        let (items, c) ← moreItems fuel isClose c
        return (item :: items, c)
    else .ok ([], c)

/-- Behind an opening brace: the entries of a dictionary or a comprehension. -/
def braced (fuel : Nat) (c : Cursor) : Except SyntaxError (Expr × Cursor) :=
  match fuel with
  | 0 => refuse .nestedTooDeeply c
  | fuel + 1 => do
    if c.at Token.isRightBrace then
      return (.dict [], c.advance)
    let (key, value, c) ← entry fuel c
    if c.at Token.isFor then
      let (clauses, c) ← clauses fuel c
      let c ← expect Token.isRightBrace "'\x7d'" c
      return (.dictComp key value clauses, c)
    let (entries, c) ← moreEntries fuel c
    let c ← expect Token.isRightBrace "'\x7d'" c
    return (.dict ((key, value) :: entries), c)

/-- A key, a colon and a value. -/
def entry (fuel : Nat) (c : Cursor) : Except SyntaxError (Expr × Expr × Cursor) :=
  match fuel with
  | 0 => refuse .nestedTooDeeply c
  | fuel + 1 => do
    let (key, c) ← expression fuel c
    let c ← expect Token.isColon "':' in dict literal" c
    let (value, c) ← expression fuel c
    return (key, value, c)

/-- The entries behind the commas of a dictionary. -/
def moreEntries (fuel : Nat) (c : Cursor) : Except SyntaxError (List (Expr × Expr) × Cursor) :=
  match fuel with
  | 0 => refuse .nestedTooDeeply c
  | fuel + 1 =>
    if c.at Token.isComma then
      if c.advance.at Token.isRightBrace then .ok ([], c.advance)
      else do
        let (key, value, c) ← entry fuel c.advance
        let (entries, c) ← moreEntries fuel c
        return ((key, value) :: entries, c)
    else .ok ([], c)

/-- The clauses of a comprehension. -/
def clauses (fuel : Nat) (c : Cursor) : Except SyntaxError (List Clause × Cursor) :=
  match fuel with
  | 0 => refuse .nestedTooDeeply c
  | fuel + 1 =>
    if c.at Token.isFor then do
      let c := c.advance
      let (names, c) ← targets c.stop c.last c.rest
      let c ← expect Token.isInWord "'in' in comprehension" c
      let (source, c) ← disjunction fuel c
      let (conditions, c) ← conditions fuel c
      let (more, c) ← clauses fuel c
      return (.mk names source conditions :: more, c)
    else .ok ([], c)

/-- The conditions of a comprehension clause. -/
def conditions (fuel : Nat) (c : Cursor) : Except SyntaxError (List Expr × Cursor) :=
  match fuel with
  | 0 => refuse .nestedTooDeeply c
  | fuel + 1 =>
    if c.at Token.isIf then do
      let (condition, c) ← disjunction fuel c.advance
      let (more, c) ← conditions fuel c
      return (condition :: more, c)
    else .ok ([], c)

end

/-- The cursor at the beginning of a fragment, which must not be empty, and enough fuel for it: no
descent takes more than sixteen steps from one token to the next. -/
def open? (source : List Char) : Except SyntaxError (Cursor × Nat) := do
  let tokens ← tokens source
  if tokens.isEmpty then .error (.emptyFragment, 0)
  else .ok (⟨tokens, 0, source.length⟩, 16 * (tokens.length + 1))

/-- Refuses tokens that are left over. -/
def atEnd (c : Cursor) : Except SyntaxError Unit :=
  match c.rest with
  | [] => .ok ()
  | next :: _ => .error (.unexpected (some next.token), next.column)

/-- Turns a fault and its column into an evaluation error. -/
def located {α : Type} (result : Except SyntaxError α) : Except EvalError α :=
  result.mapError fun (fault, column) => .malformed fault column

/-- The expression a fragment stands for. -/
def Expr.read (source : List Char) : Except EvalError Expr :=
  located do
    let (start, fuel) ← open? source
    let (e, c) ← expression fuel start
    atEnd c
    return e

/-- The statement a fragment stands for. -/
def Stmt.read (source : List Char) : Except EvalError Stmt :=
  located do
    let (start, fuel) ← open? source
    let (first, c) ← expression fuel start
    match c.peek? with
    | some (.assign op) =>
      if first.isPlace then
        let (value, c) ← expression fuel c.advance
        atEnd c
        return .assign first op value
      else refuse .notAPlace c
    | _ =>
      atEnd c
      return .expr first

/-- The place a fragment stands for. -/
def Expr.readPlace (source : List Char) : Except EvalError Expr := do
  let e ← Expr.read source
  if e.isPlace then return e
  else .error (.malformed (.badTarget (String.ofList (Text.trim source))) 0)

end BranchingStory.Script
