import BranchingStory.Script.Token

/-!
# What goes wrong with a fragment

The reasons why a fragment is no expression or statement, and the reasons why evaluating one fails.
-/

namespace BranchingStory.Script

/-- Why a fragment is no expression or statement. -/
inductive SyntaxFault where
  | integerTooLarge
  | badFloat
  | strayCharacter (c : Char)
  | unclosedString
  | emptyFragment
  /-- A token that cannot stand where it does, or the end of the fragment. -/
  | unexpected (found : Option Token)
  | expected (what : String)
  | positionalAfterKeyword
  | notAPlace
  | badTarget (source : String)
  | nestedTooDeeply

def SyntaxFault.message : SyntaxFault → String
  | .integerTooLarge => "integer literal too large"
  | .badFloat => "invalid float literal"
  | .strayCharacter c => "unexpected character '" ++ c.toString ++ "'"
  | .unclosedString => "unterminated string literal"
  | .emptyFragment => "empty expression"
  | .unexpected none => "unexpected end of expression"
  | .unexpected (some token) => "unexpected " ++ token.describe
  | .expected what => "expected " ++ what
  | .positionalAfterKeyword => "positional argument follows keyword argument"
  | .notAPlace => "cannot assign to this expression"
  | .badTarget source => "cannot assign to '" ++ source ++ "'"
  | .nestedTooDeeply => "expression nested too deeply"

end BranchingStory.Script

namespace BranchingStory

/-- Why reading or evaluating a fragment fails. -/
inductive EvalError where
  | malformed (fault : Script.SyntaxFault) (column : Nat)
  | undefinedName (name : String)
  | noAttribute (typeName attr : String)
  | typeMismatch (text : String)
  | badIndex (text : String)
  | missingKey (key : String)
  | divisionByZero
  | overflow
  /-- Raised by host functions and by limits on the size of results. -/
  | host (text : String)
  | badFormat (text : String)

def EvalError.message : EvalError → String
  | .malformed fault column => "syntax error at column " ++ toString column ++ ": " ++ fault.message
  | .undefinedName name => "name '" ++ name ++ "' is not defined"
  | .noAttribute typeName attr =>
    "'" ++ typeName ++ "' object has no attribute '" ++ attr ++ "'"
  | .typeMismatch text => "type error: " ++ text
  | .badIndex text => "index error: " ++ text
  | .missingKey key => "key error: " ++ key
  | .divisionByZero => "division by zero"
  | .overflow => "integer overflow"
  | .host text => text
  | .badFormat text => "invalid format spec '" ++ text ++ "'"

end BranchingStory
