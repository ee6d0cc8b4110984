import BranchingStory.Script.Operator

/-!
# Expressions and statements

The trees that fragments stand for.
-/

namespace BranchingStory.Script

/-- A value that a fragment can spell out as one token. -/
inductive Literal where
  | none
  | bool (b : Bool)
  | int (i : Int64)
  | float (f : Float)
  | str (s : String)

mutual

/-- An expression. -/
inductive Expr where
  | lit (value : Literal)
  | name (name : String)
  | list (items : List Expr)
  | dict (entries : List (Expr × Expr))
  | unary (op : UnaryOp) (operand : Expr)
  | binary (op : BinaryOp) (left right : Expr)
  | and (left right : Expr)
  | or (left right : Expr)
  /-- A chain such as `a < b <= c`. -/
  | compare (first : Expr) (chain : List (CompareOp × Expr))
  | conditional (condition yes no : Expr)
  | attr (base : Expr) (attr : String)
  | index (base index : Expr)
  | slice (base : Expr) (start stop : Option Expr)
  | call (function : Expr) (args : List Expr) (named : List (String × Expr))
  | listComp (element : Expr) (clauses : List Clause)
  | dictComp (key value : Expr) (clauses : List Clause)

/-- A clause of a comprehension: the variables, what they range over, and the conditions. -/
inductive Clause where
  | mk (targets : List String) (source : Expr) (conditions : List Expr)

end

/-- A statement: an assignment or an expression for its effects. -/
inductive Stmt where
  | assign (target : Expr) (op : AssignOp) (value : Expr)
  | expr (value : Expr)

/-- The variable that a place expression starts from: a name, or an attribute or item of a place. -/
def Expr.root? : Expr → Option String
  | .name root => some root
  | .attr base _ => base.root?
  | .index base _ => base.root?
  | _ => none

def Expr.isPlace (e : Expr) : Bool :=
  e.root?.isSome

end BranchingStory.Script
