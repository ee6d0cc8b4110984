import Mathlib.Tactic.Lemma
import BranchingStory.Story.Resolve

/-!
# The nearest passage

A target is looked for in the namespace of its link and in each namespace around that, the longest first, and
last in none. It stands for the nearest passage there is. More passages never take its meaning away, and one
passage more changes it only by being at least as near.
-/

namespace BranchingStory

open Text

/-- Whether a namespace is another one, or that one cut off at a separator. -/
def Surrounds (outer ns : List Char) : Prop :=
  outer = ns ∨ ∃ inner, ns = outer ++ namespaceSeparator :: inner

/-- Whether a target in a passage of a namespace is looked for in another one, or in none. -/
def LooksIn (namespace? : Option String) : Option (List Char) → Prop
  | some outer => ∃ ns, namespace? = some ns ∧ Surrounds outer ns.toList
  | none => True

/-- The id that a target has in a namespace, or in none. -/
def idIn (target : String) : Option (List Char) → String
  | some outer => qualify outer target
  | none => target

/-- Whether a namespace is longer than another one; none is the shortest. -/
def Nearer : Option (List Char) → Option (List Char) → Prop
  | some near, some far => far.length < near.length
  | some _, none => True
  | none, _ => False

/-- Whether a namespace is at least as long as another one. -/
def AsNear (near? far? : Option (List Char)) : Prop :=
  ¬Nearer far? near?

section Separators

variable {cs outer ns : List Char}

lemma mem_afterSeparators {rest : List Char} :
    rest ∈ afterSeparators cs ↔ ∃ front, cs = front ++ namespaceSeparator :: rest := by
  induction cs with
  | nil => simp [afterSeparators]
  | cons c cs ih =>
    have behind : (∃ front, cs = front ++ namespaceSeparator :: rest) ↔
        ∃ front, c :: cs = (c :: front) ++ namespaceSeparator :: rest := by
      simp only [List.cons_append, List.cons.injEq, true_and]
    rw [afterSeparators]
    split
    · next separator =>
      subst separator
      rw [List.mem_cons, ih, behind]
      constructor
      · rintro (rfl | ⟨front, same⟩)
        · exact ⟨[], rfl⟩
        · exact ⟨_, same⟩
      · rintro ⟨_ | ⟨c, front⟩, same⟩
        · cases same
          exact .inl rfl
        · cases same
          exact .inr ⟨front, rfl⟩
    · next other =>
      rw [ih, behind]
      constructor
      · rintro ⟨front, same⟩
        exact ⟨_, same⟩
      · rintro ⟨_ | ⟨c, front⟩, same⟩
        · cases same
          exact absurd rfl other
        · cases same
          exact ⟨front, rfl⟩

lemma length_of_mem_afterSeparators {rest : List Char} (member : rest ∈ afterSeparators cs) :
    rest.length < cs.length := by
  obtain ⟨front, rfl⟩ := mem_afterSeparators.mp member
  rw [List.length_append, List.length_cons]
  omega

lemma afterSeparators_descending (cs : List Char) :
    (afterSeparators cs).Pairwise fun near far => far.length < near.length := by
  induction cs with
  | nil => exact .nil
  | cons c cs ih =>
    rw [afterSeparators]
    split
    · exact .cons (fun _ member => length_of_mem_afterSeparators member) ih
    · exact ih

/-- Behind the first separator are what comes behind it and behind the next ones. -/
lemma afterSeparators_eq (cs : List Char) :
    afterSeparators cs =
      match splitFirst? namespaceSeparator cs with
      | some (_, rest) => rest :: afterSeparators rest
      | none => [] := by
  unfold splitFirst?
  induction cs with
  | nil => rfl
  | cons c cs ih =>
    rw [afterSeparators]
    split
    · next separator =>
      rw [List.dropWhile_cons_of_neg (by simp [separator])]
    · next other =>
      rw [List.dropWhile_cons_of_pos (by simp [other]), ih]
      cases cs.dropWhile (· != namespaceSeparator) <;> rfl

end Separators

section Namespaces

variable {ns outer : List Char}

lemma mem_namespaces : outer ∈ namespaces ns ↔ Surrounds outer ns := by
  have reversed : outer ∈ (afterSeparators ns.reverse).map List.reverse ↔
      ∃ inner, ns = outer ++ namespaceSeparator :: inner := by
    rw [List.mem_map]
    constructor
    · rintro ⟨_, member, rfl⟩
      obtain ⟨front, whole⟩ := mem_afterSeparators.mp member
      refine ⟨front.reverse, ?_⟩
      rw [← List.reverse_reverse ns, whole]
      simp
    · rintro ⟨inner, rfl⟩
      refine ⟨outer.reverse, mem_afterSeparators.mpr ⟨inner.reverse, ?_⟩, List.reverse_reverse _⟩
      simp
  rw [namespaces, List.mem_cons, reversed]
  rfl

lemma namespaces_descending (ns : List Char) :
    (namespaces ns).Pairwise fun near far => far.length < near.length := by
  refine .cons (fun outer member => ?_) ?_
  · obtain ⟨back, behind, rfl⟩ := List.mem_map.mp member
    simpa using length_of_mem_afterSeparators behind
  · refine List.pairwise_map.mpr ((afterSeparators_descending _).imp fun shorter => ?_)
    simpa using shorter

/-- The namespaces around a namespace are the one that encloses it and those around that. -/
lemma namespaces_eq (ns : List Char) :
    namespaces ns = ns :: ((enclosing? ns).map namespaces).getD [] := by
  unfold namespaces enclosing? splitLast?
  rw [afterSeparators_eq ns.reverse]
  cases splitFirst? namespaceSeparator ns.reverse with
  | none => rfl
  | some parts => simp

/-- What encloses a namespace is shorter, so that the search comes to an end. -/
lemma length_of_enclosing? (encloses : enclosing? ns = some outer) : outer.length < ns.length := by
  have around : outer ∈ (namespaces ns).tail := by
    rw [namespaces_eq, encloses]
    exact List.mem_cons_self
  have descending := namespaces_descending ns
  exact List.rel_of_pairwise_cons descending around

end Namespaces

section Search

variable {target : String} {namespace? : Option String}

/-- The namespaces in which a target is looked for in turn, and none at last. -/
def lookIns (namespace? : Option String) : List (Option (List Char)) :=
  ((namespace?.map fun ns => namespaces ns.toList).getD []).map some ++ [none]

lemma candidateIds_eq (target : String) (namespace? : Option String) :
    candidateIds target namespace? = (lookIns namespace?).map (idIn target) := by
  rw [candidateIds, lookIns, List.map_append, List.map_map]
  rfl

lemma mem_lookIns {outer? : Option (List Char)} : outer? ∈ lookIns namespace? ↔ LooksIn namespace? outer? := by
  unfold lookIns
  cases outer? with
  | none => simp [LooksIn]
  | some outer => cases namespace? <;> simp [LooksIn, mem_namespaces]

lemma lookIns_descending (namespace? : Option String) : (lookIns namespace?).Pairwise Nearer := by
  refine List.pairwise_append.mpr ⟨List.pairwise_map.mpr ?_, List.pairwise_singleton .., ?_⟩
  · cases namespace? with
    | none => exact .nil
    | some ns => exact namespaces_descending ns.toList
  · intro outer? member none? last
    obtain ⟨outer, _, rfl⟩ := List.mem_map.mp member
    rw [List.mem_singleton.mp last]
    trivial

lemma Nearer.asymm {first? second? : Option (List Char)} (nearer : Nearer first? second?) :
    AsNear first? second? := by
  intro back
  cases first? <;> cases second? <;> first
    | exact nearer
    | exact back
    | exact Nat.lt_asymm nearer back

lemma AsNear.refl (outer? : Option (List Char)) : AsNear outer? outer? := by
  cases outer? with
  | none => exact id
  | some outer => exact Nat.lt_irrefl _

/-- What is found is the nearest that there is, and it is found. -/
theorem resolve_eq_some {ids : List String} {id : String} :
    resolve target namespace? ids = some id ↔
      ∃ outer?, LooksIn namespace? outer? ∧ idIn target outer? = id ∧ id ∈ ids ∧
        ∀ other?, LooksIn namespace? other? → idIn target other? ∈ ids → AsNear outer? other? := by
  rw [resolve, candidateIds_eq, List.find?_map]
  simp only [Option.map_eq_some_iff]
  constructor
  · rintro ⟨outer?, found, rfl⟩
    obtain ⟨here, before, behind, whole, absent⟩ := List.find?_eq_some_iff_append.mp found
    have descending := lookIns_descending namespace?
    rw [whole] at descending
    have member {other?} : other? ∈ before ++ outer? :: behind ↔ LooksIn namespace? other? := by
      rw [← whole, mem_lookIns]
    refine ⟨outer?, member.mp List.mem_append_cons_self, rfl, by simpa using here, fun other? looks inIds => ?_⟩
    rcases List.mem_append.mp (member.mpr looks) with earlier | later
    · exact absurd inIds (by simpa using absent other? earlier)
    · rcases List.mem_cons.mp later with rfl | later
      · exact .refl _
      · exact (List.rel_of_pairwise_cons (List.pairwise_append.mp descending).2.1 later).asymm
  · rintro ⟨outer?, looks, rfl, inIds, nearest⟩
    refine ⟨outer?, ?_, rfl⟩
    obtain ⟨before, behind, whole⟩ := List.append_of_mem (mem_lookIns.mpr looks)
    have descending := lookIns_descending namespace?
    rw [whole] at descending
    refine List.find?_eq_some_iff_append.mpr ⟨by simpa using inIds, before, behind, whole, ?_⟩
    intro other? earlier
    have looksToo : LooksIn namespace? other? :=
      mem_lookIns.mp (whole ▸ List.mem_append_left _ earlier)
    have nearer := (List.pairwise_append.mp descending).2.2 other? earlier outer? List.mem_cons_self
    simpa using fun inIds => nearest other? looksToo inIds nearer

theorem resolve_eq_none {ids : List String} :
    resolve target namespace? ids = none ↔
      ∀ outer?, LooksIn namespace? outer? → idIn target outer? ∉ ids := by
  rw [resolve, candidateIds_eq]
  simp [List.find?_eq_none, mem_lookIns]

/-- A target is looked for in a namespace, and then as if its link stood in the namespace around that. -/
lemma resolve_outward (target ns : String) (ids : List String) :
    resolve target (some ns) ids =
      if qualify ns.toList target ∈ ids then some (qualify ns.toList target)
      else resolve target ((enclosing? ns.toList).map String.ofList) ids := by
  have candidates : candidateIds target (some ns) = qualify ns.toList target ::
      candidateIds target ((enclosing? ns.toList).map String.ofList) := by
    simp only [candidateIds, Option.map_some, Option.getD_some]
    rw [namespaces_eq]
    cases enclosing? ns.toList <;> simp
  rw [resolve, resolve, candidates, List.find?_cons]
  simp only [List.contains_eq_mem]
  split
  · next inIds => rw [if_pos (of_decide_eq_true inIds)]
  · next absent => rw [if_neg (of_decide_eq_false absent)]

/-- More ids take no meaning away. -/
lemma resolve_isSome_of_subset {ids more : List String} (adds : ids ⊆ more)
    (found : (resolve target namespace? ids).isSome) : (resolve target namespace? more).isSome := by
  obtain ⟨id, found⟩ := Option.isSome_iff_exists.mp found
  obtain ⟨outer?, looks, rfl, inIds, _⟩ := resolve_eq_some.mp found
  refine Option.isSome_iff_ne_none.mpr fun lost => ?_
  exact resolve_eq_none.mp lost outer? looks (adds inIds)

/-- An id more that changes what a target stands for is what it stands for then. -/
lemma resolve_new {ids more : List String} {new : String} (adds : ∀ id, id ∈ more ↔ id = new ∨ id ∈ ids)
    (changed : resolve target namespace? more ≠ resolve target namespace? ids) :
    resolve target namespace? more = some new := by
  have grows : ids ⊆ more := fun id inIds => (adds id).mpr (.inr inIds)
  cases found : resolve target namespace? more with
  | none =>
    have none : resolve target namespace? ids = none :=
      resolve_eq_none.mpr fun outer? looks inIds => resolve_eq_none.mp found outer? looks (grows inIds)
    exact absurd (found.trans none.symm) changed
  | some id =>
    obtain ⟨outer?, looks, same, inMore, nearest⟩ := resolve_eq_some.mp found
    rcases (adds id).mp inMore with rfl | inIds
    · rfl
    · have kept : resolve target namespace? ids = some id :=
        resolve_eq_some.mpr ⟨outer?, looks, same, inIds, fun other? looks inIds =>
          nearest other? looks (grows inIds)⟩
      exact absurd (found.trans kept.symm) changed

end Search

/-- The search looks in a namespace and goes on to the shorter one around it. It finds the id that a target
has in the nearest namespace in which there is one, or else in none; and nothing if there is no such id at
all. More ids never make a target stand for nothing, and one id more changes what it stands for only if the
target is looked for under that id, at least as near as it was found before. -/
theorem resolves_to_nearest (target : String) (namespace? : Option String) (ids : List String) :
    (∀ ns, namespace? = some ns →
      (resolve target namespace? ids =
        if qualify ns.toList target ∈ ids then some (qualify ns.toList target)
        else resolve target ((enclosing? ns.toList).map String.ofList) ids) ∧
      ∀ outer, enclosing? ns.toList = some outer → outer.length < ns.toList.length) ∧
    (∀ id, resolve target namespace? ids = some id ↔
      ∃ outer?, LooksIn namespace? outer? ∧ idIn target outer? = id ∧ id ∈ ids ∧
        ∀ other?, LooksIn namespace? other? → idIn target other? ∈ ids → AsNear outer? other?) ∧
    (resolve target namespace? ids = none ↔
      ∀ outer?, LooksIn namespace? outer? → idIn target outer? ∉ ids) ∧
    (∀ more, ids ⊆ more →
      (resolve target namespace? ids).isSome → (resolve target namespace? more).isSome) ∧
    ∀ new more, (∀ id, id ∈ more ↔ id = new ∨ id ∈ ids) →
      resolve target namespace? more ≠ resolve target namespace? ids →
      ∃ outer?, LooksIn namespace? outer? ∧ idIn target outer? = new ∧
        ∀ old?, LooksIn namespace? old? → resolve target namespace? ids = some (idIn target old?) →
          AsNear outer? old? := by
  refine ⟨?step, fun _ => resolve_eq_some, resolve_eq_none, fun more => resolve_isSome_of_subset, ?new⟩
  case step =>
    rintro ns rfl
    exact ⟨resolve_outward target ns ids, fun outer => length_of_enclosing?⟩
  case new =>
    intro new more adds changed
    obtain ⟨outer?, looks, same, _, nearest⟩ := resolve_eq_some.mp (resolve_new adds changed)
    refine ⟨outer?, looks, same, fun old? looksOld found => nearest old? looksOld ?_⟩
    obtain ⟨_, _, _, inIds, _⟩ := resolve_eq_some.mp found
    exact (adds _).mpr (.inr inIds)

/-- The passages of a story with an inn in its first chapter. -/
def innIds : List String :=
  ["Next", "ch1.Next", "ch1.inn.Room"]

/-- In the inn `Next` is the one of the chapter, until the inn has one of its own. -/
theorem next_in_inn :
    resolve "Next" (some "ch1.inn") innIds = some "ch1.Next" ∧
      (resolve "Next" (some "ch1.inn") ("ch1.inn.Next" :: innIds)).isSome ∧
      ∃ outer?, LooksIn (some "ch1.inn") outer? ∧ idIn "Next" outer? = "ch1.inn.Next" ∧
        AsNear outer? (some "ch1".toList) := by
  have before : resolve "Next" (some "ch1.inn") innIds = some "ch1.Next" := by decide +kernel
  have after : resolve "Next" (some "ch1.inn") ("ch1.inn.Next" :: innIds) = some "ch1.inn.Next" := by
    decide +kernel
  obtain ⟨_, _, _, grows, changes⟩ := resolves_to_nearest "Next" (some "ch1.inn") innIds
  refine ⟨before, grows _ (List.subset_cons_self ..) (before ▸ rfl), ?_⟩
  obtain ⟨outer?, looks, same, nearer⟩ := changes "ch1.inn.Next" ("ch1.inn.Next" :: innIds)
    (fun id => List.mem_cons) (by rw [before, after]; decide)
  refine ⟨outer?, looks, same, nearer (some "ch1".toList) ⟨"ch1.inn", rfl, .inr ⟨"inn".toList, rfl⟩⟩ ?_⟩
  rw [before]
  rfl

end BranchingStory
