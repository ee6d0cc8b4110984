import BranchingStory.Story.Basic
import BranchingStory.Unseen

/-!
# Reachable passages

Which passages can be reached from the first one through jumps and choices, whatever their conditions.
-/

namespace BranchingStory

def ContentItem.jumpTarget? : ContentItem → Option String
  | .jump target _ _ => some target
  | _ => none

/-- Where a passage may lead: the targets of its jumps and of its choices. -/
def Passage.targets (p : Passage) : List String :=
  p.walk.filterMap ContentItem.jumpTarget? ++ p.allChoices.map (·.target)

namespace Story

/-- The ids that are reached from those in `queue`, together with those reached before. -/
def reachFrom (story : Story) (reached queue : List String) : List String :=
  match queue with
  | [] => reached
  | id :: queue =>
    if _new : id ∈ reached then reachFrom story reached queue
    else
      match _found : story.passage? id with
      | none => reachFrom story reached queue
      | some p => reachFrom story (id :: reached) (p.targets ++ queue)
termination_by ((unseen (Assoc.keys story.passages) reached).length, queue.length)
decreasing_by
  · exact Prod.Lex.right _ (Nat.lt_succ_self _)
  · exact Prod.Lex.right _ (Nat.lt_succ_self _)
  · exact Prod.Lex.left _ _ (length_unseen_cons_lt (mem_keys_of_passage? _found) _new)

/-- The ids of the passages that can be reached from the first one. -/
def reachable (story : Story) : List String :=
  story.reachFrom [] [story.initial]

/-- The ids of the passages that cannot be reached, in the order of the story. -/
def unreachable (story : Story) : List String :=
  unseen (Assoc.keys story.passages) story.reachable

end Story

end BranchingStory
