/-!
# What is still unseen

The members of a list that are not among those seen so far. Seeing one more of them leaves fewer, which
ends every search that sees nothing twice.
-/

namespace BranchingStory

def unseen (all seen : List String) : List String :=
  all.filter (!seen.contains ·)

theorem mem_unseen {all seen : List String} {x : String} : x ∈ unseen all seen ↔ x ∈ all ∧ x ∉ seen := by
  simp [unseen]

/-- What is unseen depends only on which members were seen. -/
theorem unseen_congr {all seen seen' : List String} (same : ∀ x, x ∈ seen ↔ x ∈ seen') :
    unseen all seen = unseen all seen' := by
  refine List.filter_congr fun x _ => ?_
  rw [Bool.eq_iff_iff]
  simp [same x]

theorem length_unseen_cons_lt {all seen : List String} {x : String} (member : x ∈ all)
    (new : x ∉ seen) : (unseen all (x :: seen)).length < (unseen all seen).length := by
  have sub : (unseen all (x :: seen)).Sublist (unseen all seen) := by
    have shrink : unseen all (x :: seen) = (unseen all seen).filter (· != x) := by
      unfold unseen
      rw [List.filter_filter]
      refine List.filter_congr fun y _ => ?_
      rw [Bool.eq_iff_iff]
      simp
    rw [shrink]
    exact List.filter_sublist
  refine Nat.lt_of_le_of_ne sub.length_le fun same => ?_
  have still : x ∈ unseen all (x :: seen) := by
    rw [sub.eq_of_length same]
    exact mem_unseen.mpr ⟨member, new⟩
  simp [unseen] at still

theorem length_unseen_append_lt {all seen : List String} {x : String} (member : x ∈ all)
    (new : x ∉ seen) : (unseen all (seen ++ [x])).length < (unseen all seen).length := by
  rw [@unseen_congr all (seen ++ [x]) (x :: seen) (by simp [or_comm])]
  exact length_unseen_cons_lt member new

end BranchingStory
