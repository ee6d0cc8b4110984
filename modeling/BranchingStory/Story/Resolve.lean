import BranchingStory.Story.Basic

/-!
# Links between passages

How a link finds its passage, and whether its arguments fit the parameters of the passage. A target is
looked for in the namespace of the passage that holds the link, then in each namespace around it, and
last as it stands.
-/

namespace BranchingStory

/-- What comes behind each separator of a text; for a namespace read backwards these are the namespaces
around it, the nearest first. -/
def afterSeparators : List Char → List (List Char)
  | [] => []
  | c :: cs => if c = namespaceSeparator then cs :: afterSeparators cs else afterSeparators cs

/-- A namespace and the namespaces around it, the nearest first. -/
def namespaces (innermost : List Char) : List (List Char) :=
  innermost :: (afterSeparators innermost.reverse).map List.reverse

def qualify (outer : List Char) (target : String) : String :=
  String.ofList (outer ++ namespaceSeparator :: target.toList)

/-- The ids that a target may stand for, the nearest first. -/
def candidateIds (target : String) (namespace? : Option String) : List String :=
  ((namespace?.map fun ns => namespaces ns.toList).getD []).map (qualify · target) ++ [target]

/-- The id that a target stands for among the given ones. -/
def resolve (target : String) (namespace? : Option String) (ids : List String) : Option String :=
  (candidateIds target namespace?).find? ids.contains

/-- Why arguments do not fit the parameters of a passage. -/
inductive ArityFault where
  | tooMany (target : String) (taken given : Nat)
  | noParameter (target name : String)
  | bothWays (target name : String)
  | twice (target name : String)
  | missing (target name : String)
  deriving DecidableEq, Repr

def ArityFault.message : ArityFault → String
  | .tooMany target taken given =>
    "'" ++ target ++ "' takes " ++ toString taken ++ " argument(s) but " ++ toString given ++
      " were given"
  | .noParameter target name => "'" ++ target ++ "' has no parameter '" ++ name ++ "'"
  | .bothWays target name =>
    "parameter '" ++ name ++ "' of '" ++ target ++ "' is given both positionally and by name"
  | .twice target name => "parameter '" ++ name ++ "' of '" ++ target ++ "' is given twice"
  | .missing target name => "'" ++ target ++ "' is missing required argument '" ++ name ++ "'"

def positionalCount (args : List Arg) : Nat :=
  (args.filter (·.name?.isNone)).length

def keywordNames (args : List Arg) : List String :=
  args.filterMap (·.name?)

/-- Checks keyword arguments one after the other: each names a parameter that neither a positional
argument nor an earlier keyword argument gives. -/
def checkKeywords (target : String) (params : List String) (positional : Nat) (seen : List String) :
    List String → Except ArityFault Unit
  | [] => .ok ()
  | name :: names =>
    if name ∉ params then .error (.noParameter target name)
    else if params.idxOf name < positional then .error (.bothWays target name)
    else if name ∈ seen then .error (.twice target name)
    else checkKeywords target params positional (name :: seen) names

/-- The first parameter that must be given and is not. -/
def missingParam? (params : List Param) (positional : Nat) (keywords : List String) : Option Param :=
  (params.drop positional).find? fun p => p.default?.isNone && !keywords.contains p.name

def checkArity (target : String) (params : List Param) (args : List Arg) : Except ArityFault Unit := do
  let positional := positionalCount args
  if params.length < positional then throw (.tooMany target params.length positional)
  let keywords := keywordNames args
  checkKeywords target (params.map (·.name)) positional [] keywords
  match missingParam? params positional keywords with
  | some p => throw (.missing target p.name)
  | none => return ()

end BranchingStory
