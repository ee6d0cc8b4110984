/-!
# Imports of a story

The lines at the head of a story that name modules of the host.
-/

namespace BranchingStory

/-- A name taken from a module, perhaps under another name. -/
structure ImportName where
  name : String
  alias? : Option String
  deriving DecidableEq

/-- The name under which an imported name is known to the story. -/
def ImportName.boundName (i : ImportName) : String :=
  i.alias?.getD i.name

/-- An import of a module, or of some of its names. -/
structure Import where
  module : String
  /-- Empty for an import of the whole module. -/
  names : List ImportName
  line : Nat
  deriving DecidableEq

end BranchingStory
