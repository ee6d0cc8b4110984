import BranchingStory.Source.Passages
import BranchingStory.Source.Tidy
import BranchingStory.Text.Case

/-!
# From passages to a story

The passages of a story by id, a later one in the place of an earlier one with its id. Links are
resolved and their arguments checked, the first passage is chosen, and content is tidied.
-/

namespace BranchingStory.Source

abbrev Checked (α : Type) := α × List Problem

/-- What links are checked against: all passages, and the place of the links. -/
structure LinkScope where
  params : List (String × List Param)
  group? : Option String
  file : String

/-- Whether an id has a target as its last part, whatever the case of letters. -/
def isNear (target : List Char) (id : String) : Bool :=
  let lower := Text.lower id.toList
  lower = target || (Text.dropBack? ('.' :: target) lower).isSome

/-- The first id, by order, that is near to a target. -/
def nearest? (target : String) (ids : List String) : Option String :=
  let lower := Text.lower target.toList
  (ids.filter (isNear lower)).foldl
    (fun best? id =>
      match best? with
      | none => some id
      | some best => if id < best then some id else some best)
    none

/-- Resolves the target of a link and checks its arguments. A faulty target stays as it is. -/
def link (scope : LinkScope) (target : String) (args : List Arg) (line : Nat) : Checked String :=
  let ids := Assoc.keys scope.params
  let at_ (fault : Fault) : Problem := ⟨fault, scope.file, line⟩
  match resolve target scope.group? ids with
  | none => (target, [at_ (.unknownPassage target (nearest? target ids))])
  | some id =>
    match checkArity id ((Assoc.get? scope.params id).getD []) args with
    | .ok () => (id, [])
    | .error reason => (id, [at_ (.badArgs reason)])

def linkChoice (scope : LinkScope) (c : Choice) : Checked Choice :=
  let (target, problems) := link scope c.target c.args c.line
  ({ c with target }, problems)

mutual

def linkItem (scope : LinkScope) : ContentItem → Checked ContentItem
  | .jump target args line =>
    let (target, problems) := link scope target args line
    (.jump target args line, problems)
  | .choice c =>
    let (c, problems) := linkChoice scope c
    (.choice c, problems)
  | .conditional branches =>
    let (branches, problems) := linkBranches scope branches
    (.conditional branches, problems)
  | .loop vars collection body =>
    let (body, problems) := linkItems scope body
    (.loop vars collection body, problems)
  | item => (item, [])

def linkBranches (scope : LinkScope) : List Branch → Checked (List Branch)
  | [] => ([], [])
  | { condition?, content } :: branches =>
    let (content, problems) := linkItems scope content
    let (branches, more) := linkBranches scope branches
    ({ condition?, content } :: branches, problems ++ more)

def linkItems (scope : LinkScope) : List ContentItem → Checked (List ContentItem)
  | [] => ([], [])
  | item :: items =>
    let (item, problems) := linkItem scope item
    let (items, more) := linkItems scope items
    (item :: items, problems ++ more)

end

def linkChoices (scope : LinkScope) : List Choice → Checked (List Choice)
  | [] => ([], [])
  | c :: choices =>
    let (c, problems) := linkChoice scope c
    let (choices, more) := linkChoices scope choices
    (c :: choices, problems ++ more)

def linkPassage (params : List (String × List Param)) (file : String) (p : Passage) :
    Checked Passage :=
  let scope : LinkScope := { params, group? := p.namespace?, file }
  let (content, problems) := linkItems scope p.content
  let (choices, more) := linkChoices scope p.choices
  ({ p with content := trimEndBreaks (tidy content), choices }, problems ++ more)

def linkPassages (params : List (String × List Param)) :
    List (String × Draft) → Checked (List (String × Passage))
  | [] => ([], [])
  | (id, draft) :: drafts =>
    let (passage, problems) := linkPassage params draft.header.file draft.passage
    let (passages, more) := linkPassages params drafts
    ((id, passage) :: passages, problems ++ more)

/-- The warning that a passage takes the place of an earlier one. -/
def redefinition (d : Draft) : String :=
  "passage '" ++ d.passage.id ++ "' is redefined in " ++ d.header.file ++ " on line " ++
    toString d.header.line ++ "; the later definition is used"

/-- The passages by id, behind those of a table, with warnings of redefinitions. -/
def byId (table : List (String × Draft)) : List Draft → List (String × Draft) × List String
  | [] => (table, [])
  | d :: drafts =>
    let id := d.passage.id
    let (result, warnings) := byId (Assoc.insert table id d) drafts
    (result, if Assoc.contains table id then redefinition d :: warnings else warnings)

def defaultStart : String := "Start"

/-- The first passage, and what there is to say about its choice. -/
def chooseStart (ids : List String) (start? : Option Start) :
    String × List Problem × List String :=
  match start? with
  | some start =>
    if ids.contains start.target then (start.target, [], [])
    else (start.target, [start.origin.problem (.unknownStart start.target)], [])
  | none =>
    if ids.contains defaultStart then (defaultStart, [], [])
    else
      let first := ids.headD ""
      (first, [],
        ["no @start directive or '" ++ defaultStart ++ "' passage; beginning at '" ++ first ++ "'"])

/-- The problem of a story without passages, at the declaration of its first one if there is any. -/
def emptyStory (start? : Option Start) : Problem :=
  match start? with
  | some start => start.origin.problem .noPassages
  | none => ⟨.noPassages, inlineLabel, 0⟩

/-- The story that passages make, with all problems and warnings. -/
def assemble (version : String) (imports : List Import) (r : Reading) :
    Story × List Problem × List String :=
  let (table, redefined) := byId [] r.done
  if table.isEmpty then
    ({ version, initial := "", metadata := r.metadata, imports, passages := [] },
      [emptyStory r.start?], redefined)
  else
    let (initial, problems, warnings) := chooseStart (Assoc.keys table) r.start?
    let params := table.map fun (id, d) => (id, d.passage.params)
    let (passages, more) := linkPassages params table
    ({ version, initial, metadata := r.metadata, imports, passages }, problems ++ more,
      redefined ++ warnings)

end BranchingStory.Source
