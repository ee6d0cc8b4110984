import Mathlib.Tactic.Lemma
import BranchingStory.Assoc

/-!
# Laws of tables

What is found under a key after writing, erasing or changing the values of a table.
-/

namespace BranchingStory.Assoc

variable {α β : Type}

lemma get?_cons (k : String) (v : α) (rest : List (String × α)) (key : String) :
    get? ((k, v) :: rest) key = if key = k then some v else get? rest key := by
  unfold get?
  rw [List.lookup_cons]
  by_cases same : key = k
  · simp only [same, beq_self_eq_true, if_true]
  · simp only [beq_eq_false_iff_ne.mpr same, same, if_false]

lemma mem_of_get? {table : List (String × α)} {key : String} {value : α}
    (found : get? table key = some value) : (key, value) ∈ table := by
  unfold get? at found
  rw [List.lookup_eq_some_iff] at found
  obtain ⟨before, after, split, _⟩ := found
  simp [split]

lemma get?_isSome_iff {table : List (String × α)} {key : String} :
    (get? table key).isSome ↔ key ∈ keys table := by
  induction table with
  | nil => simp [get?, keys]
  | cons entry rest ih =>
    obtain ⟨k, v⟩ := entry
    rw [get?_cons]
    by_cases same : key = k
    · simp [same, keys]
    · simp only [same, if_false, ih]
      simp [keys, same]

lemma contains_iff {table : List (String × α)} {key : String} :
    contains table key ↔ key ∈ keys table :=
  get?_isSome_iff

lemma get?_insert (table : List (String × α)) (key : String) (value : α) (other : String) :
    get? (insert table key value) other = if other = key then some value else get? table other := by
  induction table with
  | nil =>
    simp only [insert, get?_cons]
  | cons entry rest ih =>
    obtain ⟨k, v⟩ := entry
    unfold insert
    by_cases same : k = key
    · subst same
      simp only [if_true, get?_cons]
      by_cases here : other = k <;> simp only [here, if_true, if_false]
    · simp only [same, if_false, get?_cons, ih]
      by_cases here : other = k
      · subst here
        simp only [same, if_true, if_false]
      · simp only [here, if_false]

lemma mem_keys_insert {table : List (String × α)} {key : String} {value : α} {name : String} :
    name ∈ keys (insert table key value) ↔ name = key ∨ name ∈ keys table := by
  rw [← get?_isSome_iff, ← get?_isSome_iff, get?_insert]
  by_cases same : name = key
  · simp only [same, if_true, Option.isSome_some, true_or]
  · simp only [same, if_false, false_or]

/-- Writing under a present key leaves the keys as they are. -/
lemma keys_insert {table : List (String × α)} {key : String} (present : key ∈ keys table) (value : α) :
    keys (insert table key value) = keys table := by
  induction table with
  | nil => cases present
  | cons entry rest ih =>
    obtain ⟨k, v⟩ := entry
    unfold insert
    by_cases same : k = key
    · subst same
      simp only [if_true]
      rfl
    · have later : key ∈ keys rest := (List.mem_cons.mp present).resolve_left (Ne.symm same)
      simp only [same, if_false]
      exact congrArg (k :: ·) (ih later)

lemma contains_insert (table : List (String × α)) (key : String) (value : α) :
    contains (insert table key value) key = true := by
  rw [contains, get?_insert, if_pos rfl, Option.isSome_some]

lemma insert_insert (table : List (String × α)) (key : String) (first second : α) :
    insert (insert table key first) key second = insert table key second := by
  induction table with
  | nil => simp only [insert, if_true]
  | cons entry rest ih =>
    obtain ⟨k, v⟩ := entry
    by_cases same : k = key
    · simp only [insert, same, if_true]
    · simp only [insert, same, if_false, ih]

/-- Writing what is there leaves a table as it is. -/
lemma insert_of_get? {table : List (String × α)} {key : String} {value : α}
    (found : get? table key = some value) : insert table key value = table := by
  induction table with
  | nil => cases found
  | cons entry rest ih =>
    obtain ⟨k, v⟩ := entry
    rw [get?_cons] at found
    by_cases same : k = key
    · rw [if_pos same.symm] at found
      cases found
      simp only [insert, same, if_true]
    · rw [if_neg (Ne.symm same)] at found
      simp only [insert, same, if_false, ih found]

lemma get?_erase_ne {table : List (String × α)} {key other : String} (ne : other ≠ key) :
    get? (erase table key) other = get? table other := by
  induction table with
  | nil => rfl
  | cons entry rest ih =>
    obtain ⟨k, v⟩ := entry
    unfold erase at ih ⊢
    by_cases same : k = key
    · subst same
      simp only [List.filter_cons, ne_eq, not_true_eq_false, decide_false, Bool.false_eq_true,
        if_false, get?_cons, ne]
      exact ih
    · simp only [List.filter_cons, ne_eq, same, not_false_eq_true, decide_true, if_true, get?_cons]
      rw [← ih]

/-- A key keeps its place when the values change. -/
lemma get?_map (f : String → α → β) (table : List (String × α)) (key : String) :
    get? (table.map fun (k, v) => (k, f k v)) key = (get? table key).map (f key) := by
  induction table with
  | nil => rfl
  | cons entry rest ih =>
    obtain ⟨k, v⟩ := entry
    simp only [List.map_cons, get?_cons, ih]
    by_cases same : key = k
    · simp only [same, if_true, Option.map_some]
    · simp only [same, if_false]

lemma mem_insert {table : List (String × α)} {key : String} {value : α} {entry : String × α}
    (member : entry ∈ insert table key value) : entry = (key, value) ∨ entry ∈ table := by
  induction table with
  | nil => exact .inl (List.mem_singleton.mp member)
  | cons first rest ih =>
    obtain ⟨k, v⟩ := first
    unfold insert at member
    by_cases same : k = key
    · simp only [same, if_true] at member
      rcases List.mem_cons.mp member with new | old
      · exact .inl new
      · exact .inr (List.mem_cons_of_mem _ old)
    · simp only [same, if_false] at member
      rcases List.mem_cons.mp member with here | behind
      · exact .inr (here ▸ List.mem_cons_self)
      · rcases ih behind with new | old
        · exact .inl new
        · exact .inr (List.mem_cons_of_mem _ old)

/-- Tables are the same if they have the same keys, each of them once, and the same values under them. -/
lemma eq_of_get? {table table' : List (String × α)} (same : keys table' = keys table)
    (distinct : (keys table).Nodup) (values : ∀ key ∈ keys table, get? table' key = get? table key) :
    table' = table := by
  induction table generalizing table' with
  | nil => exact List.map_eq_nil_iff.mp same
  | cons entry rest ih =>
    obtain ⟨k, v⟩ := entry
    obtain ⟨⟨k', v'⟩, rest', rfl, head, tail⟩ := List.map_eq_cons_iff.mp same
    cases head
    obtain ⟨fresh, distinct⟩ := List.nodup_cons.mp distinct
    have first := values k List.mem_cons_self
    rw [get?_cons, get?_cons, if_pos rfl, if_pos rfl] at first
    cases first
    rw [ih tail distinct fun key member => ?_]
    have later := values key (List.mem_cons_of_mem _ member)
    have other : key ≠ k := fun clash => fresh (clash ▸ member)
    rwa [get?_cons, get?_cons, if_neg other, if_neg other] at later

/-! ## Tables from entries -/

lemma insert_map (g : α → β) (table : List (String × α)) (key : String) (value : α) :
    insert (table.map fun (k, v) => (k, g v)) key (g value) =
      (insert table key value).map fun (k, v) => (k, g v) := by
  induction table with
  | nil => rfl
  | cons entry rest ih =>
    obtain ⟨k, v⟩ := entry
    simp only [List.map_cons, insert]
    by_cases same : k = key
    · simp only [same, if_true, List.map_cons]
    · simp only [same, if_false, List.map_cons, ih]

lemma merge_map (g : α → β) (table more : List (String × α)) :
    merge (table.map fun (k, v) => (k, g v)) (more.map fun (k, v) => (k, g v)) =
      (merge table more).map fun (k, v) => (k, g v) := by
  induction more generalizing table with
  | nil => rfl
  | cons entry more ih =>
    obtain ⟨k, v⟩ := entry
    have step := ih (insert table k v)
    rw [← insert_map] at step
    exact step

/-- Changing the values and making a table of the entries can change places. -/
lemma ofEntries_map (g : α → β) (entries : List (String × α)) :
    ofEntries (entries.map fun (k, v) => (k, g v)) = (ofEntries entries).map fun (k, v) => (k, g v) :=
  merge_map g [] entries

lemma insert_of_notMem {table : List (String × α)} {key : String} (fresh : key ∉ keys table) (value : α) :
    insert table key value = table ++ [(key, value)] := by
  induction table with
  | nil => rfl
  | cons entry rest ih =>
    obtain ⟨k, v⟩ := entry
    simp only [keys, List.map_cons, List.mem_cons, not_or] at fresh
    simp only [insert, Ne.symm fresh.1, if_false, ih fresh.2, List.cons_append]

lemma merge_of_nodup {table more : List (String × α)} (distinct : (keys (table ++ more)).Nodup) :
    merge table more = table ++ more := by
  induction more generalizing table with
  | nil => rw [List.append_nil]; rfl
  | cons entry more ih =>
    obtain ⟨k, v⟩ := entry
    have fresh : k ∉ keys table := by
      simp only [keys, List.map_append, List.map_cons, List.nodup_append] at distinct
      exact fun old => distinct.2.2 k old k List.mem_cons_self rfl
    calc
      merge table ((k, v) :: more)
      _ = merge (table ++ [(k, v)]) more := by rw [← insert_of_notMem fresh]; rfl
      _ = (table ++ [(k, v)]) ++ more := ih (by rw [List.append_assoc]; exact distinct)
      _ = table ++ (k, v) :: more := List.append_assoc table [(k, v)] more

/-- Entries with distinct keys are a table as they are. -/
lemma ofEntries_of_nodup {entries : List (String × α)} (distinct : (keys entries).Nodup) :
    ofEntries entries = entries :=
  merge_of_nodup distinct

/-! ## Keys that come once -/

lemma nodup_keys_insert {table : List (String × α)} (distinct : (keys table).Nodup) (key : String) (value : α) :
    (keys (insert table key value)).Nodup := by
  by_cases present : key ∈ keys table
  · rwa [keys_insert present]
  · rw [insert_of_notMem present, keys, List.map_append, List.nodup_append]
    refine ⟨distinct, List.pairwise_singleton _ _, fun old member new isKey same => present ?_⟩
    cases List.mem_singleton.mp isKey
    exact (show old = key from same) ▸ member

lemma get?_of_mem {table : List (String × α)} (distinct : (keys table).Nodup) {key : String} {value : α}
    (member : (key, value) ∈ table) : get? table key = some value := by
  induction table with
  | nil => cases member
  | cons entry rest ih =>
    obtain ⟨k, v⟩ := entry
    rw [get?_cons]
    obtain ⟨fresh, distinct⟩ := List.nodup_cons.mp distinct
    rcases List.mem_cons.mp member with same | later
    · cases same
      exact if_pos rfl
    · have other : key ≠ k := fun same => fresh (List.mem_map.mpr ⟨(key, value), later, same⟩)
      rw [if_neg other]
      exact ih distinct later

/-- What is written under a key is found if nothing else is written under it. -/
lemma get?_merge_of_only {more : List (String × α)} {key : String} {value : α}
    (only : ∀ v, (key, v) ∈ more → v = value) (table : List (String × α))
    (written : (key, value) ∈ more ∨ get? table key = some value) :
    get? (merge table more) key = some value := by
  induction more generalizing table with
  | nil => exact written.resolve_left List.not_mem_nil
  | cons entry more ih =>
    obtain ⟨k, v⟩ := entry
    refine ih (fun w member => only w (List.mem_cons_of_mem _ member)) (insert table k v) ?_
    rw [get?_insert]
    by_cases here : key = k
    · subst here
      rw [if_pos rfl, only v List.mem_cons_self]
      exact .inr rfl
    · rw [if_neg here]
      refine written.imp (fun member => ?_) id
      rcases List.mem_cons.mp member with same | later
      · cases same
        exact absurd rfl here
      · exact later

end BranchingStory.Assoc
