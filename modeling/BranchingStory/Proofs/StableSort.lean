import Mathlib.Data.List.Basic

/-!
# Stable sorting

A list that is sorted by the numbers of its members has them in groups: for each number from the lowest one
on, the members with this number in the order of the list.
-/

namespace BranchingStory

variable {α : Type} {number : α → Nat}

/-- The members with a number. -/
def group (number : α → Nat) (n : Nat) (members : List α) : List α :=
  members.filter (number · = n)

lemma group_cons (n : Nat) (a : α) (members : List α) :
    group number n (a :: members) =
      if number a = n then a :: group number n members else group number n members := by
  unfold group
  rw [List.filter_cons]
  simp only [decide_eq_true_eq]

lemma mem_group {n : Nat} {members : List α} {a : α} :
    a ∈ group number n members ↔ a ∈ members ∧ number a = n := by
  rw [group, List.mem_filter, decide_eq_true_eq]

/-- Sorted lists with the same groups are the same. -/
lemma eq_of_groups {first second : List α} (sorted : first.Pairwise (number · ≤ number ·))
    (sorted' : second.Pairwise (number · ≤ number ·))
    (same : ∀ n, group number n first = group number n second) : first = second := by
  have within {first second : List α} (same : ∀ n, group number n first = group number n second) :
      first ⊆ second := fun a member => (mem_group.mp (same (number a) ▸ mem_group.mpr ⟨member, rfl⟩)).1
  induction first generalizing second with
  | nil => exact (List.subset_nil.mp (within fun n => (same n).symm)).symm
  | cons a first ih =>
    cases second with
    | nil => exact absurd (List.subset_nil.mp (within same)) (List.cons_ne_nil a first)
    | cons b second =>
      obtain ⟨low, rest⟩ := List.pairwise_cons.mp sorted
      obtain ⟨low', rest'⟩ := List.pairwise_cons.mp sorted'
      -- Each of the two heads is in the other list, so that neither is higher than the other one.
      have level : number a = number b := by
        refine Nat.le_antisymm ?_ ?_
        · rcases List.mem_cons.mp (within (fun n => (same n).symm) List.mem_cons_self) with rfl | later
          · exact Nat.le_refl _
          · exact low b later
        · rcases List.mem_cons.mp (within same List.mem_cons_self) with rfl | later
          · exact Nat.le_refl _
          · exact low' a later
      have heads := same (number a)
      rw [group_cons, group_cons, if_pos rfl, if_pos level.symm] at heads
      obtain ⟨rfl, _⟩ := List.cons_eq_cons.mp heads
      refine congrArg (a :: ·) (ih rest rest' fun n => ?_)
      have groups := same n
      rw [group_cons, group_cons] at groups
      split at groups
      · exact (List.cons_eq_cons.mp groups).2
      · exact groups

lemma group_group (n m : Nat) (members : List α) :
    group number n (group number m members) = if m = n then group number n members else [] := by
  unfold group
  rw [List.filter_filter]
  split
  · next same =>
    subst same
    simp only [Bool.and_self]
  · next differ =>
    refine List.filter_eq_nil_iff.mpr fun a _ both => ?_
    simp only [Bool.and_eq_true, decide_eq_true_eq] at both
    exact differ (both.2.symm.trans both.1)

lemma group_level (n : Nat) (members : List α) : (group number n members).Pairwise (number · ≤ number ·) := by
  refine List.pairwise_of_forall_mem_list fun a here b there => ?_
  exact Nat.le_of_eq ((mem_group.mp here).2.trans (mem_group.mp there).2.symm)

lemma below_trans (a b c : α) (first : decide (number a ≤ number b)) (second : decide (number b ≤ number c)) :
    decide (number a ≤ number c) :=
  decide_eq_true (Nat.le_trans (of_decide_eq_true first) (of_decide_eq_true second))

lemma below_total (a b : α) : decide (number a ≤ number b) || decide (number b ≤ number a) := by
  rw [Bool.or_eq_true, decide_eq_true_eq, decide_eq_true_eq]
  exact Nat.le_total _ _

/-- Sorting keeps each group as it is. -/
lemma group_mergeSort (n : Nat) (members : List α) :
    group number n (members.mergeSort (number · ≤ number ·)) = group number n members := by
  have level : (group number n members).Pairwise fun a b => decide (number a ≤ number b) :=
    (group_level n members).imp decide_eq_true
  have within : (group number n members).Sublist (members.mergeSort (number · ≤ number ·)) :=
    List.sublist_mergeSort below_trans below_total level List.filter_sublist
  have inside : (group number n (group number n members)).Sublist
      (group number n (members.mergeSort (number · ≤ number ·))) := within.filter _
  rw [group_group, if_pos rfl] at inside
  exact (inside.eq_of_length ((List.mergeSort_perm members _).filter _).length_eq.symm).symm

lemma group_flatMap {numbers : List Nat} (ascending : numbers.Pairwise (· < ·)) (members : List α) (n : Nat) :
    group number n (numbers.flatMap fun m => group number m members) =
      if n ∈ numbers then group number n members else [] := by
  induction numbers with
  | nil => rfl
  | cons m numbers ih =>
    obtain ⟨low, ascending⟩ := List.pairwise_cons.mp ascending
    have parts : group number n ((m :: numbers).flatMap fun m => group number m members) =
        group number n (group number m members) ++
          group number n (numbers.flatMap fun m => group number m members) := List.filter_append ..
    rw [parts, ih ascending, group_group]
    by_cases here : m = n
    · subst here
      have behind : m ∉ numbers := fun member => Nat.lt_irrefl m (low m member)
      simp only [if_true, behind, if_false, List.append_nil, List.mem_cons_self]
    · simp only [here, if_false, List.nil_append, List.mem_cons, Ne.symm here, false_or]

/-- A sorted list has its members in groups, in the order of their numbers. -/
theorem mergeSort_eq_flatMap {numbers : List Nat} (ascending : numbers.Pairwise (· < ·)) {members : List α}
    (all : ∀ a ∈ members, number a ∈ numbers) :
    members.mergeSort (number · ≤ number ·) = numbers.flatMap fun n => group number n members := by
  have sorted : (members.mergeSort (number · ≤ number ·)).Pairwise fun a b => decide (number a ≤ number b) :=
    List.pairwise_mergeSort below_trans below_total members
  have inGroups : (numbers.flatMap fun n => group number n members).Pairwise (number · ≤ number ·) := by
    refine List.pairwise_flatMap.mpr ⟨fun n _ => group_level n members, ?_⟩
    refine ascending.imp fun below a here b there => ?_
    rw [(mem_group.mp here).2, (mem_group.mp there).2]
    exact Nat.le_of_lt below
  refine eq_of_groups (sorted.imp of_decide_eq_true) inGroups fun n => ?_
  rw [group_mergeSort, group_flatMap ascending]
  split
  · rfl
  · next absent =>
    refine List.filter_eq_nil_iff.mpr fun a member here => absent ?_
    rw [← decide_eq_true_eq.mp here]
    exact all a member

end BranchingStory
