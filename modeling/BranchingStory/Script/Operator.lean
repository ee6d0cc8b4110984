/-!
# Operators

The operators of expressions and the assignment signs of statements.
-/

namespace BranchingStory.Script

/-- Operators with one operand. -/
inductive UnaryOp where
  | neg
  | pos
  | not
  deriving DecidableEq, Repr

/-- Arithmetic operators with two operands. -/
inductive BinaryOp where
  | add
  | sub
  | mul
  | div
  | floorDiv
  | mod
  | pow
  deriving DecidableEq, Repr

def BinaryOp.symbol : BinaryOp → String
  | .add => "+"
  | .sub => "-"
  | .mul => "*"
  | .div => "/"
  | .floorDiv => "//"
  | .mod => "%"
  | .pow => "**"

/-- The relations of a comparison chain. -/
inductive CompareOp where
  | eq
  | notEq
  | lt
  | ltEq
  | gt
  | gtEq
  | isIn
  | notIn
  | is
  | isNot
  deriving DecidableEq, Repr

/-- The sign between the two sides of an assignment: a plain one or one that combines. -/
inductive AssignOp where
  | set
  | add
  | sub
  | mul
  | div
  | floorDiv
  | mod
  | pow
  deriving DecidableEq, Repr

/-- The operator that a combining assignment applies to the old value. -/
def AssignOp.binary? : AssignOp → Option BinaryOp
  | .set => none
  | .add => some .add
  | .sub => some .sub
  | .mul => some .mul
  | .div => some .div
  | .floorDiv => some .floorDiv
  | .mod => some .mod
  | .pow => some .pow

/-- The sign of an assignment: that of its operator followed by an equals sign. -/
def AssignOp.symbol (op : AssignOp) : String :=
  match op.binary? with
  | none => "="
  | some binary => binary.symbol ++ "="

/-- The name of an assignment sign in story documents. -/
def AssignOp.name : AssignOp → String
  | .set => "set"
  | .add => "add"
  | .sub => "sub"
  | .mul => "mul"
  | .div => "div"
  | .floorDiv => "floor_div"
  | .mod => "mod"
  | .pow => "pow"

def AssignOp.all : List AssignOp :=
  [.set, .add, .sub, .mul, .div, .floorDiv, .mod, .pow]

def AssignOp.ofName? (name : String) : Option AssignOp :=
  AssignOp.all.find? (·.name == name)

end BranchingStory.Script
