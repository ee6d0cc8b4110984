import Mathlib.Tactic.Lemma
import BranchingStory.Proofs.Json.ReadBack
import BranchingStory.Proofs.Json.Records
import BranchingStory.Story.Document
import BranchingStory.Story.Reading

/-!
# Stories read from their documents

Each part of a story is found in its own document, whole or, where the document is cut, not at all.
-/

namespace BranchingStory

open Json

section Slots

variable {d : Nat}

lemma required_text (s : String) : required readText (some ((Doc.str s).toJson.cut d)) = some s :=
  rfl

lemma orElse_bool (b : Bool) : orElse false readBool (some ((Doc.bool b).toJson.cut d)) = some b :=
  rfl

lemma readBelow_nat {bound n : Nat} (small : n < bound) : readBelow bound (.int n) = some n := by
  have inside : 0 ≤ (n : Int) ∧ (n : Int) < (bound : Nat) :=
    ⟨Int.natCast_nonneg n, Int.ofNat_lt.mpr small⟩
  rw [readBelow, if_pos inside, Int.toNat_natCast]

lemma required_nat {n : Nat} (plain : (Doc.nat n).toJson.Plain) :
    required readNat (some ((Doc.nat n).toJson.cut d)) = some n := by
  have small : n < digitBound := Int.ofNat_lt.mp plain.2
  rw [digitBound] at small
  have read : readNat (.int n) = some n := readBelow_nat small
  rw [required, Option.bind_some]
  exact read

lemma readText?_cut (text? : Option String) :
    readText? (some ((Doc.text? text?).toJson.cut d)) = some text? := by
  cases text? <;> rfl

lemma nesting_str (s : String) : (Doc.str s).toJson.nesting = 0 :=
  rfl

lemma nesting_nat (n : Nat) : (Doc.nat n).toJson.nesting = 0 :=
  rfl

lemma nesting_bool (b : Bool) : (Doc.bool b).toJson.nesting = 0 :=
  rfl

lemma nesting_text? (text? : Option String) : (Doc.text? text?).toJson.nesting = 0 := by
  cases text? <;> rfl

variable {α : Type} {read : Written → Option α} {j : Json}

lemma required_cut {a : α} (reads : Reads read d j a) :
    required read (some (j.cut d)) = if j.nesting ≤ d then some a else none :=
  reads

lemma readItems?_cut {items : List α} (reads : Reads (readList read) d j items) :
    readItems? read (some (j.cut d)) = if j.nesting ≤ d then some items else none :=
  reads

lemma itemsToJson_map (f : α → Doc) (items : List α) :
    Doc.itemsToJson (items.map f) = items.map fun item => (f item).toJson := by
  induction items with
  | nil => rfl
  | cons item items ih => exact congrArg ((f item).toJson :: ·) ih

lemma plain_of_mem {f : α → Doc} {items : List α} (plain : (Doc.list (items.map f)).toJson.Plain) :
    ∀ item ∈ items, (f item).toJson.Plain := by
  induction items with
  | nil => exact nofun
  | cons item items ih =>
    intro other member
    rcases List.mem_cons.mp member with rfl | behind
    · exact plain.1
    · exact ih plain.2 other behind

lemma plain_of_entry {f : α → Doc} {entries : List (String × α)}
    (plain : (Doc.table (entries.map fun (key, a) => (key, f a))).toJson.Plain) :
    ∀ entry ∈ entries, (f entry.2).toJson.Plain := by
  induction entries with
  | nil => exact nofun
  | cons entry entries ih =>
    intro other member
    rcases List.mem_cons.mp member with rfl | behind
    · exact plain.1
    · exact ih plain.2 other behind

/-- A list of parts, each of them found in its document. -/
lemma reads_list_map {f : α → Doc} {items : List α}
    (each : ∀ d, ∀ item ∈ items, Reads read d (f item).toJson item) :
    Reads (readList read) d (Doc.list (items.map f)).toJson items := by
  rw [Doc.toJson, itemsToJson_map]
  exact reads_list fun d _ => readsAll_map (each d)

lemma reads_text (text : String) : Reads readText d (Doc.str text).toJson text :=
  (if_pos (Nat.zero_le _)).symm

lemma reads_texts (texts : List String) : Reads (readList readText) d (Doc.texts texts).toJson texts :=
  reads_list_map fun _ text _ => reads_text text

lemma fieldsToJson_map (f : α → Doc) (entries : List (String × α)) :
    Doc.fieldsToJson (entries.map fun (key, a) => (key, f a)) =
      entries.map fun (key, a) => (key, (f a).toJson) := by
  induction entries with
  | nil => rfl
  | cons entry entries ih => exact congrArg ((entry.1, (f entry.2).toJson) :: ·) ih

lemma orElse_cut {a default : α} (reads : Reads read d j a) :
    orElse default read (some (j.cut d)) = if j.nesting ≤ d then some a else none :=
  reads

/-- A table with distinct keys, each of its values found in its document. -/
lemma reads_table_map {f : α → Doc} {entries : List (String × α)} (distinct : (Assoc.keys entries).Nodup)
    (each : ∀ d, ∀ entry ∈ entries, Reads read d (f entry.2).toJson entry.2) :
    Reads (readTable read) d (Doc.table (entries.map fun (key, a) => (key, f a))).toJson entries := by
  rw [Doc.toJson, fieldsToJson_map]
  exact reads_table (f := fun a => (f a).toJson) distinct fun d _ => each d

end Slots

attribute [local simp] required_text orElse_bool readText?_cut nesting_str nesting_nat nesting_bool
  nesting_text? Doc.fieldsToJson nestingOfFields Nat.max_le bind_ite ite_and

section Parts

variable {d : Nat}

lemma reads_importName (i : ImportName) :
    Reads ImportName.ofJson? d
      (Doc.record [("name", .str i.name), ("alias", .text? i.alias?)]).toJson i :=
  reads_record rfl (by decide) fun d _ => by simp

lemma reads_import {i : Import} (plain : i.toDoc.toJson.Plain) :
    Reads Import.ofJson? d i.toDoc.toJson i := by
  have names (d : Nat) := reads_list_map (d := d) fun d (name : ImportName) (_ : name ∈ i.names) =>
    reads_importName (d := d) name
  refine reads_record rfl (by decide) fun d _ => ?_
  simp [readItems?_cut (names d), required_nat plain.2.2.1]

lemma reads_param (p : Param) : Reads Param.ofJson? d p.toDoc.toJson p :=
  reads_record rfl (by decide) fun d _ => by simp

lemma reads_arg (a : Arg) : Reads Arg.ofJson? d a.toDoc.toJson a :=
  reads_record rfl (by decide) fun d _ => by simp

lemma reads_args (args : List Arg) : Reads (readList Arg.ofJson?) d (argsToDoc args).toJson args :=
  reads_list_map fun _ arg _ => reads_arg arg

lemma ofName?_name (op : Script.AssignOp) : Script.AssignOp.ofName? op.name = some op := by
  cases op <;> decide

lemma reads_command {c : Command} (plain : c.toDoc.toJson.Plain) :
    Reads Command.ofJson? d c.toDoc.toJson c := by
  cases c with
  | assign target op expression line =>
    refine reads_tagged fun d _ => reads_record rfl (by decide) fun d _ => ?_
    have sign : (Json.cut d (Doc.unit op.name).toJson).unitName? = some op.name := rfl
    have nesting : (Doc.unit op.name).toJson.nesting = 0 := rfl
    simp [sign, nesting, ofName?_name, required_nat plain.1.2.2.2.1]
  | eval code line =>
    refine reads_tagged fun d _ => reads_record rfl (by decide) fun d _ => ?_
    simp [required_nat plain.1.2.1]

end Parts

/-! ## Items inside items

The items that stand in one another are read with a fuel; the weight of what is left of a document is
enough for all items that are left in it. -/

section Weights

variable {d fuel : Nat}

lemma weight_pos (w : Written) : 0 < w.weight := by
  cases w <;> simp [Written.weight]

lemma weight_tagged {tag : String} {j : Json}
    (enough : ((Json.obj [(tag, j)]).cut (d + 1)).weight ≤ fuel + 1) : (j.cut d).weight ≤ fuel := by
  simp only [cut, within, Nat.add_one_ne_zero, if_false, Nat.add_sub_cancel, cutFields, Written.weight,
    Written.weightFields] at enough
  omega

lemma weight_record (fields : List (String × Doc))
    (enough : ((Doc.record fields).toJson.cut (d + 1)).weight ≤ fuel) :
    Written.weightFields (cutFields d (Doc.fieldsToJson fields)) < fuel := by
  simp only [Doc.toJson, cut, within, Nat.add_one_ne_zero, if_false, Nat.add_sub_cancel,
    Written.weight] at enough
  omega

lemma weight_list {items : List Doc} (enough : ((Doc.list items).toJson.cut (d + 1)).weight ≤ fuel) :
    Written.weightItems (cutItems d (Doc.itemsToJson items)) ≤ fuel := by
  simp only [Doc.toJson, cut, within, Nat.add_one_ne_zero, if_false, Nat.add_sub_cancel,
    Written.weight] at enough
  omega

lemma weight_item {α : Type} {f : α → Doc} {items : List α} {a : α} (member : a ∈ items) :
    ((f a).toJson.cut d).weight ≤ Written.weightItems (cutItems d (Doc.itemsToJson (items.map f))) := by
  induction items with
  | nil => cases member
  | cons item items ih =>
    simp only [List.map_cons, Doc.itemsToJson, cutItems, Written.weightItems]
    rcases List.mem_cons.mp member with rfl | behind
    · omega
    · have := ih behind
      omega

end Weights

mutual

lemma reads_item {d : Nat} : ∀ (item : ContentItem) (fuel : Nat), item.toDoc.toJson.Plain →
    (item.toDoc.toJson.cut d).weight ≤ fuel →
    Reads (ContentItem.ofJson? fuel) d item.toDoc.toJson item
  | _, 0, _, enough => absurd (weight_pos _) (Nat.not_lt.mpr enough)
  | .text text, fuel + 1, _, _ => reads_tagged fun _ _ => (reads_text text).map
  | .expression code format?, fuel + 1, _, _ => by
    refine reads_tagged fun d _ => reads_record rfl (by decide) fun d _ => ?_
    simp
  | .conditional branches, fuel + 1, plain, enough => by
    refine reads_tagged fun d' same => reads_record rfl (by decide) fun d same' => ?_
    subst same same'
    have inside := weight_record [("branches", .list (branchesToDocs branches))] (weight_tagged enough)
    simp only [Doc.fieldsToJson, cutFields, Written.weightFields] at inside
    have parts : Reads (readList (Branch.ofJson? fuel)) d (Doc.list (branchesToDocs branches)).toJson
        branches := by
      refine reads_list fun d' same => reads_branches branches fuel plain.1.1 ?_
      subst same
      exact weight_list (by omega)
    simp [required_cut parts]
  | .loop vars collection body, fuel + 1, plain, enough => by
    refine reads_tagged fun d' same => reads_record rfl (by decide) fun d same' => ?_
    subst same same'
    have inside := weight_record [("vars", .texts vars), ("collection", .str collection),
      ("body", .list (itemsToDocs body))] (weight_tagged enough)
    simp only [Doc.fieldsToJson, cutFields, Written.weightFields] at inside
    have parts : Reads (readList (ContentItem.ofJson? fuel)) d (Doc.list (itemsToDocs body)).toJson
        body := by
      refine reads_list fun d' same => reads_items body fuel plain.1.2.2.1 ?_
      subst same
      exact weight_list (by omega)
    simp [required_cut (reads_texts vars), required_cut parts]
  | .jump target args line, fuel + 1, plain, _ => by
    refine reads_tagged fun d _ => reads_record rfl (by decide) fun d _ => ?_
    simp [readItems?_cut (reads_args args), required_nat plain.1.2.2.1]
  | .render name args hint?, fuel + 1, plain, _ => by
    refine reads_tagged fun d _ => reads_record rfl (by decide) fun d _ => ?_
    simp [readItems?_cut (reads_args args)]
  | .input name label? placeholder?, fuel + 1, plain, _ => by
    refine reads_tagged fun d _ => reads_record rfl (by decide) fun d _ => ?_
    simp
  | .command command, fuel + 1, plain, _ => reads_tagged fun _ _ => (reads_command plain.1).map
  | .choice choice, fuel + 1, plain, enough => by
    refine reads_tagged fun d' same => ?_
    subst same
    exact (reads_choice choice fuel plain.1 (weight_tagged enough)).map

lemma reads_choice {d : Nat} : ∀ (choice : Choice) (fuel : Nat), choice.toDoc.toJson.Plain →
    (choice.toDoc.toJson.cut d).weight ≤ fuel →
    Reads (Choice.ofJson? fuel) d choice.toDoc.toJson choice
  | _, 0, _, enough => absurd (weight_pos _) (Nat.not_lt.mpr enough)
  | { key, text, target, args, guard?, oneShot, tags, line }, fuel + 1, plain, enough => by
    refine reads_record rfl (by decide) fun d' same => ?_
    subst same
    have inside := weight_record [("key", .str key), ("text", .list (itemsToDocs text)),
      ("target", .str target), ("args", argsToDoc args), ("guard", .text? guard?),
      ("one_shot", .bool oneShot), ("tags", .texts tags), ("line", .nat line)] enough
    simp only [Doc.fieldsToJson, cutFields, Written.weightFields] at inside
    have parts : Reads (readList (ContentItem.ofJson? fuel)) d' (Doc.list (itemsToDocs text)).toJson
        text := by
      refine reads_list fun d'' same => reads_items text fuel plain.2.1 ?_
      subst same
      exact weight_list (by omega)
    simp [required_cut parts, readItems?_cut (reads_args args), readItems?_cut (reads_texts tags),
      required_nat plain.2.2.2.2.2.2.2.1]

lemma reads_branches {d : Nat} : ∀ (branches : List Branch) (fuel : Nat),
    PlainItems (Doc.itemsToJson (branchesToDocs branches)) →
    Written.weightItems (cutItems d (Doc.itemsToJson (branchesToDocs branches))) ≤ fuel →
    ReadsAll (Branch.ofJson? fuel) d (Doc.itemsToJson (branchesToDocs branches)) branches
  | [], _, _, _ => readsAll_nil
  | { condition?, content } :: branches, fuel, plain, enough => by
    simp only [branchesToDocs, Doc.itemsToJson, cutItems, Written.weightItems] at enough
    refine readsAll_cons ?_ (reads_branches branches fuel plain.2 (by omega))
    obtain ⟨fuel, rfl⟩ : ∃ less, fuel = less + 1 := Nat.exists_eq_add_one.mpr (by omega)
    refine reads_record rfl (by decide) fun d' same => ?_
    subst same
    have inside := weight_record [("condition", .text? condition?), ("content", .list (itemsToDocs content))]
      (Nat.le_of_add_right_le (Nat.le_of_succ_le_succ enough))
    simp only [Doc.fieldsToJson, cutFields, Written.weightFields] at inside
    have parts : Reads (readList (ContentItem.ofJson? fuel)) d' (Doc.list (itemsToDocs content)).toJson
        content := by
      refine reads_list fun d'' same => reads_items content fuel plain.1.2.1 ?_
      subst same
      exact weight_list (by omega)
    simp [required_cut parts]

lemma reads_items {d : Nat} : ∀ (items : List ContentItem) (fuel : Nat),
    PlainItems (Doc.itemsToJson (itemsToDocs items)) →
    Written.weightItems (cutItems d (Doc.itemsToJson (itemsToDocs items))) ≤ fuel →
    ReadsAll (ContentItem.ofJson? fuel) d (Doc.itemsToJson (itemsToDocs items)) items
  | [], _, _, _ => readsAll_nil
  | item :: items, fuel, plain, enough => by
    simp only [itemsToDocs, Doc.itemsToJson, cutItems, Written.weightItems] at enough
    exact readsAll_cons (reads_item item fuel plain.1 (by omega))
      (reads_items items fuel plain.2 (by omega))

end

section Stories

variable {d : Nat}

lemma reads_passage {p : Passage} (plain : p.toDoc.toJson.Plain) :
    Reads Passage.ofJson? d p.toDoc.toJson p := by
  refine reads_record rfl (by decide) fun d' same => ?_
  subst same
  generalize size : ((Json.obj _).cut (d' + 1)).weight = fuel
  have inside := weight_record [("id", .str p.id), ("params", .list (p.params.map Param.toDoc)),
    ("content", .list (itemsToDocs p.content)), ("choices", .list (p.choices.map Choice.toDoc)),
    ("execute", .list (p.execute.map Command.toDoc)), ("tags", .texts p.tags)] (Nat.le_of_eq size)
  simp only [Doc.fieldsToJson, cutFields, Written.weightFields] at inside
  have params : Reads (readList Param.ofJson?) d' (Doc.list (p.params.map Param.toDoc)).toJson p.params :=
    reads_list_map fun _ param _ => reads_param param
  have content : Reads (readList (ContentItem.ofJson? fuel)) d'
      (Doc.list (itemsToDocs p.content)).toJson p.content := by
    refine reads_list fun d'' same => reads_items p.content fuel plain.2.2.1 ?_
    subst same
    exact weight_list (by omega)
  have choices : Reads (readList (Choice.ofJson? fuel)) d'
      (Doc.list (p.choices.map Choice.toDoc)).toJson p.choices := by
    rw [Doc.toJson, itemsToJson_map]
    refine reads_list fun d'' same => readsAll_map fun choice member => ?_
    subst same
    have held := weight_item (d := d'') (f := Choice.toDoc) member
    have all : Written.weightItems (cutItems d'' (Doc.itemsToJson (p.choices.map Choice.toDoc))) ≤ fuel :=
      weight_list (by omega)
    exact reads_choice choice fuel (plain_of_mem plain.2.2.2.1 choice member) (by omega)
  have execute : Reads (readList Command.ofJson?) d'
      (Doc.list (p.execute.map Command.toDoc)).toJson p.execute :=
    reads_list_map fun _ command member => reads_command (plain_of_mem plain.2.2.2.2.1 command member)
  simp [readItems?_cut params, readItems?_cut content, readItems?_cut choices, readItems?_cut execute,
    readItems?_cut (reads_texts p.tags)]

lemma reads_metadata {m : Metadata} (distinct : (Assoc.keys m.custom).Nodup) :
    Reads Metadata.ofJson? d m.toDoc.toJson m := by
  refine reads_record rfl (by decide) fun d _ => ?_
  have custom := reads_table_map (d := d) distinct fun _ entry _ => reads_text entry.2
  simp [orElse_cut custom]

lemma reads_passages {passages : List (String × Passage)} (distinct : (Assoc.keys passages).Nodup)
    (plain : (Doc.table (passages.map fun (id, p) => (id, p.toDoc))).toJson.Plain) :
    Reads (readTable Passage.ofJson?) d (Doc.table (passages.map fun (id, p) => (id, p.toDoc))).toJson
      passages :=
  reads_table_map distinct fun _ entry member => reads_passage (plain_of_entry plain entry member)

lemma reads_story {s : Story} (passages : (Assoc.keys s.passages).Nodup)
    (custom : (Assoc.keys s.metadata.custom).Nodup) (plain : s.toDoc.toJson.Plain) :
    Reads Story.ofJson? d s.toDoc.toJson s := by
  refine reads_record rfl (by decide) fun d' _ => ?_
  have metadata : Reads Metadata.ofJson? d' s.metadata.toDoc.toJson s.metadata := reads_metadata custom
  have imports : Reads (readList Import.ofJson?) d' (Doc.list (s.imports.map Import.toDoc)).toJson
      s.imports :=
    reads_list_map fun _ i member => reads_import (plain_of_mem plain.2.2.2.1 i member)
  simp [orElse_cut metadata, readItems?_cut imports, required_cut (reads_passages passages plain.2.2.2.2.1)]

end Stories

end BranchingStory
