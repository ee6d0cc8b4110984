import BranchingStory.Script.Operator
import BranchingStory.Number.Decimal

/-!
# Tokens

The words and signs that a fragment is made of.
-/

namespace BranchingStory.Script

/-- A word or sign of a fragment. -/
inductive Token where
  | int (value : Int64)
  | float (value : Float)
  | str (text : String)
  | name (name : String)
  | truth
  | falsity
  | nothing
  | and
  | or
  | not
  | isIn
  | is
  | ifWord
  | elseWord
  | forWord
  | plus
  | minus
  | star
  | slash
  | doubleSlash
  | percent
  | doubleStar
  | eqEq
  | notEq
  | lt
  | ltEq
  | gt
  | gtEq
  | assign (op : AssignOp)
  | leftParen
  | rightParen
  | leftBracket
  | rightBracket
  | leftBrace
  | rightBrace
  | comma
  | colon
  | dot

def Token.ofKeyword? (word : String) : Option Token :=
  match word with
  | "True" | "true" => some .truth
  | "False" | "false" => some .falsity
  | "None" | "none" | "null" => some .nothing
  | "and" => some .and
  | "or" => some .or
  | "not" => some .not
  | "in" => some .isIn
  | "is" => some .is
  | "if" => some .ifWord
  | "else" => some .elseWord
  | "for" => some .forWord
  | _ => none

def AssignOp.title : AssignOp → String
  | .set => "Set"
  | .add => "Add"
  | .sub => "Sub"
  | .mul => "Mul"
  | .div => "Div"
  | .floorDiv => "FloorDiv"
  | .mod => "Mod"
  | .pow => "Pow"

def Token.title : Token → String
  | .int _ => "Int"
  | .float _ => "Float"
  | .str _ => "Str"
  | .name _ => "Name"
  | .truth => "True"
  | .falsity => "False"
  | .nothing => "None"
  | .and => "And"
  | .or => "Or"
  | .not => "Not"
  | .isIn => "In"
  | .is => "Is"
  | .ifWord => "If"
  | .elseWord => "Else"
  | .forWord => "For"
  | .plus => "Plus"
  | .minus => "Minus"
  | .star => "Star"
  | .slash => "Slash"
  | .doubleSlash => "DoubleSlash"
  | .percent => "Percent"
  | .doubleStar => "DoubleStar"
  | .eqEq => "EqEq"
  | .notEq => "NotEq"
  | .lt => "Lt"
  | .ltEq => "LtEq"
  | .gt => "Gt"
  | .gtEq => "GtEq"
  | .assign _ => "Assign"
  | .leftParen => "LParen"
  | .rightParen => "RParen"
  | .leftBracket => "LBracket"
  | .rightBracket => "RBracket"
  | .leftBrace => "LBrace"
  | .rightBrace => "RBrace"
  | .comma => "Comma"
  | .colon => "Colon"
  | .dot => "Dot"

/-- A float in a message: all its digits and no exponent, an integer without a point. -/
def plainFloat (x : Float) : String :=
  if x.isNaN then "NaN"
  else
    let sign := if Number.signBit x then "-" else ""
    sign ++ if x.isInf then "inf" else String.ofList (Number.shortest .up x).positional

def Token.describe : Token → String
  | .name word => "name '" ++ word ++ "'"
  | .str _ => "string literal"
  | .int value => "number " ++ toString value.toInt
  | .float value => "number " ++ plainFloat value
  | .assign op => "token Assign(" ++ op.title ++ ")"
  | token => "token " ++ token.title

/-- A token and the number of characters before it. -/
structure Located where
  token : Token
  column : Nat

end BranchingStory.Script
