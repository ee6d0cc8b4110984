import Mathlib.Logic.Basic
import Mathlib.Tactic.Lemma
import BranchingStory.Json.Record
import BranchingStory.Proofs.Assoc
import BranchingStory.Proofs.Json.Nesting

/-!
# Reading values that may be cut

What the readers of texts, lists, tables and records find in a value of which the innermost arrays and
objects may be cut away: the whole of it, or nothing if anything is missing.
-/

namespace BranchingStory.Json

variable {α β : Type}

/-- Whether a reader finds something in a value that is read up to a depth, if this is deep enough, and
nothing otherwise. -/
def Reads (read : Written → Option α) (depth : Nat) (j : Json) (a : α) : Prop :=
  read (j.cut depth) = if j.nesting ≤ depth then some a else none

/-- Whether a reader finds something in each of some values, if all of them are read deep enough. -/
def ReadsAll (read : Written → Option α) (depth : Nat) (items : List Json) (found : List α) : Prop :=
  (cutItems depth items).mapM read = if nestingOfItems items ≤ depth then some found else none

lemma Reads.written {read : Written → Option α} {j : Json} {a : α} (reads : Reads read j.nesting j a) :
    read j.written = some a := by
  rw [← cut_eq_written j (Nat.le_refl _), reads, if_pos (Nat.le_refl _)]

/-- What is found only under a condition, and what is done with it. -/
lemma bind_ite {c : Prop} [Decidable c] (a : α) (next : α → Option β) :
    (if c then some a else none).bind next = if c then next a else none := by
  split <;> rfl

lemma map_ite {c : Prop} [Decidable c] (a : α) (f : α → β) :
    (if c then some a else none).map f = if c then some (f a) else none := by
  split <;> rfl

lemma Reads.map {read : Written → Option α} {depth : Nat} {j : Json} {a : α} {f : α → β}
    (reads : Reads read depth j a) : Reads (fun w => read w >>= fun a => pure (f a)) depth j (f a) := by
  unfold Reads at *
  simp only [reads, bind, bind_ite, pure]

section Lists

variable {read : Written → Option α} {depth : Nat}

lemma readsAll_nil : ReadsAll read depth [] [] :=
  (if_pos (Nat.zero_le depth)).symm

lemma readsAll_cons {item : Json} {items : List Json} {a : α} {found : List α}
    (first : Reads read depth item a) (others : ReadsAll read depth items found) :
    ReadsAll read depth (item :: items) (a :: found) := by
  unfold Reads ReadsAll at *
  simp only [cutItems, List.mapM_cons, first, others, bind, bind_ite, nestingOfItems, Nat.max_le, ite_and,
    pure]

variable {f : α → Json}

lemma readsAll_map {items : List α} (each : ∀ a ∈ items, Reads read depth (f a) a) :
    ReadsAll read depth (items.map f) items := by
  induction items with
  | nil => exact readsAll_nil
  | cons a items ih =>
    have others := ih fun b member => each b (List.mem_cons_of_mem _ member)
    exact readsAll_cons (each a List.mem_cons_self) others

lemma reads_list {items : List Json} {found : List α}
    (inside : ∀ d, depth = d + 1 → ReadsAll read d items found) :
    Reads (readList read) depth (.arr items) found := by
  cases depth with
  | zero => rfl
  | succ depth =>
    have all := inside depth rfl
    unfold ReadsAll at all
    simp only [Reads, cut, within, Nat.add_one_ne_zero, if_false, readList, Nat.add_sub_cancel, nesting,
      Nat.add_le_add_iff_right, all]

lemma mapM_cutFields {entries : List (String × α)}
    (each : ∀ entry ∈ entries, Reads read depth (f entry.2) entry.2) :
    (cutFields depth (entries.map fun (key, a) => (key, f a))).mapM
        (fun (field : String × Written) => (read field.2).map fun a => (field.1, a)) =
      if nestingOfFields (entries.map fun (key, a) => (key, f a)) ≤ depth then some entries else none := by
  induction entries with
  | nil => exact (if_pos (Nat.zero_le depth)).symm
  | cons entry entries ih =>
    have first := each entry List.mem_cons_self
    have others := ih fun other member => each other (List.mem_cons_of_mem _ member)
    unfold Reads at first
    simp only [List.map_cons, cutFields, List.mapM_cons, first, others, map_ite, bind, bind_ite,
      nestingOfFields, Nat.max_le, ite_and, pure]

lemma reads_table {entries : List (String × α)} (distinct : (Assoc.keys entries).Nodup)
    (inside : ∀ d, depth = d + 1 → ∀ entry ∈ entries, Reads read d (f entry.2) entry.2) :
    Reads (readTable read) depth (.obj (entries.map fun (key, a) => (key, f a))) entries := by
  cases depth with
  | zero => rfl
  | succ depth =>
    simp only [Reads, cut, within, Nat.add_one_ne_zero, if_false, readTable, Nat.add_sub_cancel, nesting,
      Nat.add_le_add_iff_right, mapM_cutFields (inside depth rfl), map_ite,
      Assoc.ofEntries_of_nodup distinct]

end Lists

section Records

/-- The fields of a name that stands once among distinct names. -/
lemma filter_name {fields : List (String × Written)} (distinct : (Assoc.keys fields).Nodup)
    {field : String × Written} (member : field ∈ fields) :
    fields.filter (·.1 = field.1) = [field] := by
  induction fields with
  | nil => cases member
  | cons first fields ih =>
    obtain ⟨fresh, others⟩ := List.nodup_cons.mp distinct
    rcases List.mem_cons.mp member with rfl | behind
    · have none : fields.filter (·.1 = field.1) = [] := by
        refine List.filter_eq_nil_iff.mpr fun other inside same => fresh ?_
        exact List.mem_map.mpr ⟨other, inside, of_decide_eq_true same⟩
      rw [List.filter_cons, if_pos (decide_eq_true rfl), none]
    · have other : first.1 ≠ field.1 :=
        fun same => fresh (List.mem_map.mpr ⟨field, behind, same.symm⟩)
      rw [List.filter_cons, if_neg (by simpa using other), ih others behind]

/-- A record finds the values of its fields if these are the fields of an object. -/
lemma slots?_fields {fields : List (String × Written)} (distinct : (Assoc.keys fields).Nodup) :
    slots? (Assoc.keys fields) (.obj fields) = some (fields.map fun field => some field.2) := by
  have each : ∀ part : List (String × Written), part ⊆ fields →
      (Assoc.keys part).mapM (single? fields) = some (part.map fun field => some field.2) := by
    intro part inside
    induction part with
    | nil => rfl
    | cons field part ih =>
      obtain ⟨here, others⟩ := List.cons_subset.mp inside
      have first : single? fields field.1 = some (some field.2) := by
        rw [single?, filter_name distinct here]
      have more := ih others
      simp only [Assoc.keys, List.map_cons, List.mapM_cons, first, bind, Option.bind_some, pure] at more ⊢
      rw [more]
      rfl
  exact each fields (List.Subset.refl _)

lemma keys_cutFields (depth : Nat) (fields : List (String × Json)) :
    Assoc.keys (cutFields depth fields) = Assoc.keys fields := by
  induction fields with
  | nil => rfl
  | cons field fields ih => exact congrArg (field.1 :: ·) ih

lemma map_cutFields (depth : Nat) (fields : List (String × Json)) :
    (cutFields depth fields).map (fun field => some field.2) =
      fields.map fun field => some (field.2.cut depth) := by
  induction fields with
  | nil => rfl
  | cons field fields ih => exact congrArg (some (field.2.cut depth) :: ·) ih

variable {depth : Nat} {j : Json} {a : α}

/-- A reader of a record finds something in an object with the fields of the record if it finds it in
the values of these. -/
lemma reads_record {names : List String} {fields : List (String × Json)}
    {next : Written → List (Option Written) → Option α} (same : Assoc.keys fields = names)
    (distinct : names.Nodup)
    (found : ∀ d, depth = d + 1 → next ((Json.obj fields).cut depth)
      (fields.map fun field => some (field.2.cut d)) =
        if nestingOfFields fields ≤ d then some a else none) :
    Reads (fun w => slots? names w >>= next w) depth (.obj fields) a := by
  subst same
  cases depth with
  | zero => rfl
  | succ depth =>
    have once : (Assoc.keys (cutFields depth fields)).Nodup := by rwa [keys_cutFields]
    have slots := slots?_fields once
    have inside := found depth rfl
    rw [keys_cutFields, map_cutFields] at slots
    simp only [cut, within, Nat.add_one_ne_zero, if_false, Nat.add_sub_cancel] at inside
    simp only [Reads, cut, within, Nat.add_one_ne_zero, if_false, Nat.add_sub_cancel, slots, bind,
      Option.bind_some, inside, nesting, Nat.add_le_add_iff_right]

/-- A choice is an object with its tag as only field. -/
lemma reads_tagged {read : String × Written → Option α} {tag : String}
    (content : ∀ d, depth = d + 1 → Reads (fun w => read (tag, w)) d j a) :
    Reads (fun w => tag? w >>= read) depth (.obj [(tag, j)]) a := by
  cases depth with
  | zero => rfl
  | succ depth =>
    have inside := content depth rfl
    unfold Reads at inside
    simp only [Reads, cut, cutFields, within, Nat.add_one_ne_zero, if_false, Nat.add_sub_cancel, tag?,
      bind, Option.bind_some, inside, nesting, nestingOfFields, Nat.add_le_add_iff_right, Nat.max_zero]

end Records

end BranchingStory.Json
