import BranchingStory.Script.Fault

/-!
# Why a step of a session is refused
-/

namespace BranchingStory

open Script

/-- Why a passage cannot be entered. -/
inductive NavigationFault where
  | unknownPassage (id : String)
  | missingParam (passage name : String)
  | unknownParam (passage name : String)
  | givenTwice (passage name : String)
  | tooManyArgs (passage : String) (taken given : Nat)
  | jumpCycle (chain : List String)
  deriving DecidableEq, Repr

def NavigationFault.message : NavigationFault → String
  | .unknownPassage id => "unknown passage '" ++ id ++ "'"
  | .missingParam passage name => "passage '" ++ passage ++ "' requires argument '" ++ name ++ "'"
  | .unknownParam passage name => "passage '" ++ passage ++ "' has no parameter '" ++ name ++ "'"
  | .givenTwice passage name => "passage '" ++ passage ++ "' got argument '" ++ name ++ "' twice"
  | .tooManyArgs passage taken given =>
    "passage '" ++ passage ++ "' takes " ++ toString taken ++ " argument(s) but " ++ toString given ++
      " were given"
  | .jumpCycle chain => "jump cycle: " ++ String.intercalate " -> " chain

/-- Why a saved game cannot be loaded. -/
inductive LoadFault where
  | badVersion (found expected : Nat)
  | unknownPassage (id : String)
  /-- Variables that were saved as a value of another type than a dictionary. -/
  | badState (typeName : String)
  deriving DecidableEq, Repr

def LoadFault.message : LoadFault → String
  | .badVersion found expected =>
    "save format version " ++ toString found ++ " is not supported (expected " ++ toString expected ++
      ")"
  | .unknownPassage id => "saved passage '" ++ id ++ "' does not exist in this story"
  | .badState typeName =>
    "malformed save document: state must be a dict envelope, found " ++ typeName

/-- Why a step of a session is refused. -/
inductive PlayError where
  | navigation (fault : NavigationFault)
  | evaluation (passage expression : String) (cause : EvalError)
  | notStarted
  | noSuchChoice (index available : Nat)
  | loading (fault : LoadFault)

def PlayError.message : PlayError → String
  | .navigation fault => "navigation error: " ++ fault.message
  | .evaluation passage expression cause =>
    "in passage '" ++ passage ++ "', evaluating '" ++ expression ++ "': " ++ cause.message
  | .notStarted => "no passage has been entered yet"
  | .noSuchChoice index available =>
    "choice " ++ toString index ++ " is out of range (" ++ toString available ++ " available)"
  | .loading fault => "save error: " ++ fault.message

end BranchingStory
