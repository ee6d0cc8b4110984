import Mathlib.Tactic.Lemma
import BranchingStory.Proofs.Document.RonReadBack
import BranchingStory.Proofs.Story.Documents
import BranchingStory.Story.File

/-!
# Stories in files

A story that is written to a file is read from it as it was, with its passages in their order, unless
its document has more levels in one another than can be read.
-/

namespace BranchingStory

namespace Doc

mutual

/-- The numbers in a document, from first to last. -/
def numbers : Doc → List Nat
  | .some content => content.numbers
  | .nat n => [n]
  | .list items => numbersOfItems items
  | .table entries => numbersOfFields entries
  | .record fields => numbersOfFields fields
  | .tagged _ content => content.numbers
  | .taggedRecord _ fields => numbersOfFields fields
  | _ => []

def numbersOfItems : List Doc → List Nat
  | [] => []
  | item :: items => item.numbers ++ numbersOfItems items

def numbersOfFields : List (String × Doc) → List Nat
  | [] => []
  | (_, value) :: fields => value.numbers ++ numbersOfFields fields

end

mutual

lemma plain_of_numbers : ∀ d : Doc, (∀ n ∈ d.numbers, n < Json.digitBound) → d.toJson.Plain
  | .none, _ | .bool _, _ | .str _, _ | .unit _, _ => trivial
  | .nat n, small => ⟨Int.natCast_nonneg n, Int.ofNat_lt.mpr (small n List.mem_cons_self)⟩
  | .some content, small => plain_of_numbers content small
  | .list items, small => plainItems_of_numbers items small
  | .table entries, small => plainFields_of_numbers entries small
  | .record fields, small => plainFields_of_numbers fields small
  | .tagged _ content, small => ⟨plain_of_numbers content small, trivial⟩
  | .taggedRecord _ fields, small => ⟨plainFields_of_numbers fields small, trivial⟩

lemma plainItems_of_numbers : ∀ items : List Doc,
    (∀ n ∈ numbersOfItems items, n < Json.digitBound) → Json.PlainItems (itemsToJson items)
  | [], _ => trivial
  | item :: items, small =>
    ⟨plain_of_numbers item fun n member => small n (List.mem_append_left _ member),
      plainItems_of_numbers items fun n member => small n (List.mem_append_right _ member)⟩

lemma plainFields_of_numbers : ∀ fields : List (String × Doc),
    (∀ n ∈ numbersOfFields fields, n < Json.digitBound) → Json.PlainFields (fieldsToJson fields)
  | [], _ => trivial
  | (_, value) :: fields, small =>
    ⟨plain_of_numbers value fun n member => small n (List.mem_append_left _ member),
      plainFields_of_numbers fields fun n member => small n (List.mem_append_right _ member)⟩

end

end Doc

/-! ## The names in the document of a story -/

section Names

lemma namedItems_map {α : Type} {f : α → Doc} {items : List α} (each : ∀ a ∈ items, (f a).Named) :
    Doc.NamedItems (items.map f) := by
  induction items with
  | nil => trivial
  | cons a items ih =>
    exact ⟨each a List.mem_cons_self, ih fun b member => each b (List.mem_cons_of_mem _ member)⟩

lemma namedValues_map {α : Type} {f : α → Doc} (each : ∀ a, (f a).Named) (entries : List (String × α)) :
    Doc.NamedValues (entries.map fun (key, a) => (key, f a)) := by
  induction entries with
  | nil => trivial
  | cons entry entries ih => exact ⟨each entry.2, ih⟩

lemma named_text? (text? : Option String) : (Doc.text? text?).Named := by
  cases text? <;> trivial

lemma named_texts (texts : List String) : (Doc.texts texts).Named :=
  namedItems_map fun _ _ => trivial

attribute [local simp] Doc.Named Doc.NamedFields named_text? named_texts

lemma named_import (i : Import) : i.toDoc.Named := by
  have names : Doc.NamedItems (i.names.map fun n =>
      .record [("name", .str n.name), ("alias", .text? n.alias?)]) :=
    namedItems_map fun _ _ => by simp +decide
  simp +decide [Import.toDoc, names]

lemma named_param (p : Param) : p.toDoc.Named := by
  simp +decide [Param.toDoc]

lemma named_args (args : List Arg) : (argsToDoc args).Named :=
  namedItems_map fun _ _ => by simp +decide [Arg.toDoc]

lemma named_command (c : Command) : c.toDoc.Named := by
  cases c with
  | assign target op expression line =>
    have sign : Ron.isWord op.name := by cases op <;> decide
    simp +decide [Command.toDoc, sign]
  | eval code line => simp +decide [Command.toDoc]

mutual

lemma named_item : ∀ item : ContentItem, item.toDoc.Named
  | .text _ | .expression .. | .input .. => by simp +decide [ContentItem.toDoc]
  | .conditional branches => by simp +decide [ContentItem.toDoc, named_branches branches]
  | .loop _ _ body => by simp +decide [ContentItem.toDoc, named_items body]
  | .jump _ args _ | .render _ args _ => by simp +decide [ContentItem.toDoc, named_args args]
  | .command command => by simp +decide [ContentItem.toDoc, named_command command]
  | .choice choice => by simp +decide [ContentItem.toDoc, named_choice choice]

lemma named_choice : ∀ choice : Choice, choice.toDoc.Named
  | { text, args, .. } => by simp +decide [Choice.toDoc, named_items text, named_args args]

lemma named_branches : ∀ branches : List Branch, Doc.NamedItems (branchesToDocs branches)
  | [] => trivial
  | { content, .. } :: branches => by
    simp +decide [branchesToDocs, Doc.NamedItems, named_items content, named_branches branches]

lemma named_items : ∀ items : List ContentItem, Doc.NamedItems (itemsToDocs items)
  | [] => trivial
  | item :: items => ⟨named_item item, named_items items⟩

end

lemma named_passage (p : Passage) : p.toDoc.Named := by
  have params := namedItems_map fun param (_ : param ∈ p.params) => named_param param
  have choices := namedItems_map fun choice (_ : choice ∈ p.choices) => named_choice choice
  have execute := namedItems_map fun command (_ : command ∈ p.execute) => named_command command
  simp +decide [Passage.toDoc, params, choices, execute, named_items p.content]

lemma named_metadata (m : Metadata) : m.toDoc.Named := by
  have custom := namedValues_map (f := Doc.str) (fun _ => trivial) m.custom
  simp +decide [Metadata.toDoc, custom]

lemma named_story (s : Story) : s.toDoc.Named := by
  have imports := namedItems_map fun i (_ : i ∈ s.imports) => named_import i
  have passages := namedValues_map named_passage s.passages
  simp +decide [Story.toDoc, named_metadata s.metadata, imports, passages]

end Names

/-! ## Writing and reading back -/

namespace Story

/-- Whether a story can be held in memory: a passage has one id and a custom entry one key, and the
numbers of lines fit in 64 bits. -/
structure WellFormed (s : Story) : Prop where
  passages : (Assoc.keys s.passages).Nodup
  custom : (Assoc.keys s.metadata.custom).Nodup
  numbers : ∀ n ∈ s.toDoc.numbers, n < Json.digitBound

/-- Whether as many levels of a story are in one another as can be read in a notation. -/
def Fits (s : Story) : StoryFormat → Prop
  | .json => s.toDoc.toJson.nesting ≤ Json.maxDepth
  | .ron => s.toDoc.depth 1 ≤ Ron.maxReadDepth

instance (s : Story) : (format : StoryFormat) → Decidable (s.Fits format)
  | .json => inferInstanceAs (Decidable (s.toDoc.toJson.nesting ≤ Json.maxDepth))
  | .ron => inferInstanceAs (Decidable (s.toDoc.depth 1 ≤ Ron.maxReadDepth))

/-- What is said of a story with too many levels. In RON not all of them count on writing. -/
def refusal (s : Story) : StoryFormat → StoryFileError
  | .json => .notJson
  | .ron => if s.toDoc.depth 0 ≤ Ron.maxDepth then .notRon else .tooDeepForRon

/-- What is read from a file with a path after a story has been written there. -/
def reload (s : Story) (path : String) : Except StoryFileError Story := do
  let format ← formatOf path
  let text ← s.write format
  Story.read text format

variable {s : Story}

lemma read_pretty (sound : s.WellFormed) :
    Story.read s.toDoc.toJson.pretty .json = if s.Fits .json then .ok s else .error .notJson := by
  have plain := s.toDoc.plain_of_numbers sound.numbers
  have reads : Json.Reads Story.ofJson? Json.maxDepth s.toDoc.toJson s :=
    reads_story sound.passages sound.custom plain
  unfold Json.Reads at reads
  simp only [Story.read, Story.ofJsonText, Json.read?_pretty plain, Option.bind_some, reads]
  by_cases fits : s.Fits .json
  · rw [if_pos fits, if_pos (show s.toDoc.toJson.nesting ≤ Json.maxDepth from fits)]
  · rw [if_neg fits, if_neg (show ¬s.toDoc.toJson.nesting ≤ Json.maxDepth from fits)]

lemma read_printAt (sound : s.WellFormed) :
    Story.read (Ron.printAt 0 s.toDoc) .ron = if s.Fits .ron then .ok s else .error .notRon := by
  have plain := s.toDoc.plain_of_numbers sound.numbers
  have reads : Story.ofJson? s.toDoc.toJson.written = some s :=
    Json.Reads.written (reads_story sound.passages sound.custom plain)
  simp only [Story.read, Story.ofRonText, Ron.parse?_printAt (named_story s)]
  by_cases fits : s.Fits .ron
  · rw [if_pos fits, if_pos (show s.toDoc.depth 1 ≤ Ron.maxReadDepth from fits), Option.bind_some, reads]
  · rw [if_neg fits, if_neg (show ¬s.toDoc.depth 1 ≤ Ron.maxReadDepth from fits), Option.bind_none]

lemma write_ron : s.write .ron =
    if s.toDoc.depth 0 ≤ Ron.maxDepth then .ok (Ron.printAt 0 s.toDoc) else .error .tooDeepForRon := by
  by_cases shallow : s.toDoc.depth 0 ≤ Ron.maxDepth
  · simp only [Story.write, Ron.print?, shallow, if_true]
  · simp only [Story.write, Ron.print?, shallow, if_false]

lemma reload_json (sound : s.WellFormed) {path : String} (named : formatOf path = .ok .json) :
    s.reload path = if s.Fits .json then .ok s else .error (s.refusal .json) := by
  have text : s.write .json = .ok s.toDoc.toJson.pretty := rfl
  simp only [reload, named, bind, Except.bind, text, refusal]
  exact read_pretty sound

lemma reload_ron (sound : s.WellFormed) {path : String} (named : formatOf path = .ok .ron) :
    s.reload path = if s.Fits .ron then .ok s else .error (s.refusal .ron) := by
  simp only [reload, named, bind, Except.bind, write_ron, refusal]
  by_cases shallow : s.toDoc.depth 0 ≤ Ron.maxDepth
  · simp only [shallow, if_true]
    exact read_printAt sound
  · have unfit : ¬s.Fits .ron := fun fits => shallow (Nat.le_trans s.toDoc.depth_le_depth fits)
    simp only [shallow, unfit, if_false]

/-- A story that is written to a file is read from there as it was, with its passages and entries in
their order, exactly if it has no more levels in one another than can be read. -/
theorem reload_eq (sound : s.WellFormed) (path : String) :
    s.reload path = formatOf path >>= fun format =>
      if s.Fits format then .ok s else .error (s.refusal format) := by
  cases named : formatOf path with
  | error reason => simp only [reload, named, bind, Except.bind]
  | ok format =>
    cases format with
    | json => simp only [reload_json sound named, bind, Except.bind]
    | ron => simp only [reload_ron sound named, bind, Except.bind]

end Story

/-- Conditionals in one another. -/
def stairs : Nat → List ContentItem
  | 0 => [.text "Up\n"]
  | levels + 1 => [.conditional [⟨some "True", stairs levels⟩]]

/-- A story with conditionals in one another, and with quotes, a backslash and a control character in its
texts. -/
def tower (levels : Nat) : Story where
  version := "0.1.0"
  initial := "Start"
  metadata := { Metadata.empty with custom := [("b", "\"Tür\""), ("a", "\x00")] }
  imports := []
  passages := [("Start", ⟨"Start", [⟨"name", some "'\\n'"⟩], stairs levels, [], [.eval "f()" 1], []⟩),
    ("Attic", ⟨"Attic", [], [.jump "Start" [⟨none, "1"⟩] 9], [], [], []⟩)]

section Tower

variable (levels : Nat)

lemma numbers_stairs : Doc.numbersOfItems (itemsToDocs (stairs levels)) = [] := by
  induction levels with
  | zero => rfl
  | succ levels ih =>
    simp only [stairs, itemsToDocs, ContentItem.toDoc, branchesToDocs, Doc.numbersOfItems, Doc.numbers,
      Doc.numbersOfFields, Doc.text?, ih, List.append_nil]

lemma nesting_stairs :
    Json.nestingOfItems (Doc.itemsToJson (itemsToDocs (stairs levels))) = 5 * levels + 1 := by
  induction levels with
  | zero => rfl
  | succ levels ih =>
    simp only [stairs, itemsToDocs, ContentItem.toDoc, branchesToDocs, Doc.itemsToJson, Doc.toJson,
      Doc.fieldsToJson, Doc.text?, Json.nestingOfItems, Json.nesting, Json.nestingOfFields, ih]
    omega

lemma depth_stairs (tags : Nat) :
    Doc.itemsDepth tags (itemsToDocs (stairs levels)) = (tags + 8) * levels + tags + 2 := by
  induction levels with
  | zero => simp [stairs, itemsToDocs, ContentItem.toDoc, Doc.itemsDepth, Doc.depth]
  | succ levels ih =>
    simp only [stairs, itemsToDocs, ContentItem.toDoc, branchesToDocs, Doc.text?, Doc.itemsDepth, Doc.depth,
      Doc.fieldsDepth, ih, Nat.mul_succ]
    omega

attribute [local simp] tower Story.toDoc Metadata.toDoc Passage.toDoc Param.toDoc Command.toDoc itemsToDocs
  ContentItem.toDoc argsToDoc Arg.toDoc Doc.texts Doc.text? Metadata.empty

lemma numbers_tower : (tower levels).toDoc.numbers = [1, 9] := by
  simp [Doc.numbers, Doc.numbersOfFields, Doc.numbersOfItems, numbers_stairs]

lemma tower_fits_json : (tower levels).Fits .json ↔ levels ≤ 24 := by
  change (tower levels).toDoc.toJson.nesting ≤ 127 ↔ levels ≤ 24
  simp [Doc.toJson, Doc.itemsToJson, Doc.fieldsToJson, Json.nesting, Json.nestingOfItems,
    Json.nestingOfFields, nesting_stairs]
  omega

lemma tower_fits_ron : (tower levels).Fits .ron ↔ levels ≤ 13 := by
  change (tower levels).toDoc.depth 1 ≤ 128 ↔ levels ≤ 13
  simp [Doc.depth, Doc.itemsDepth, Doc.fieldsDepth, depth_stairs]
  omega

lemma tower_wellFormed : (tower levels).WellFormed where
  passages := show ["Start", "Attic"].Nodup by decide
  custom := show ["b", "a"].Nodup by decide
  numbers := by
    rw [numbers_tower]
    decide

/-- Thirteen conditionals in one another are read back in both notations. -/
theorem tower_reloaded :
    (tower 13).WellFormed ∧ (tower 13).reload "s.ron" = .ok (tower 13) ∧
      (tower 13).reload "s.json" = .ok (tower 13) := by
  have ron : (tower 13).Fits .ron := (tower_fits_ron 13).mpr (by decide)
  have json : (tower 13).Fits .json := (tower_fits_json 13).mpr (by decide)
  have byRon : formatOf "s.ron" = .ok .ron := rfl
  have byJson : formatOf "s.json" = .ok .json := rfl
  refine ⟨tower_wellFormed 13, ?_, ?_⟩
  · simp only [Story.reload_eq (tower_wellFormed 13), byRon, bind, Except.bind, ron, if_true]
  · simp only [Story.reload_eq (tower_wellFormed 13), byJson, bind, Except.bind, json, if_true]

/-- Fourteen conditionals in one another are written in RON and cannot be read back, and neither can
twenty-five in JSON. -/
theorem tower_lost :
    (tower 14).WellFormed ∧ (tower 14).reload "s.ron" = .error .notRon ∧
      (tower 25).WellFormed ∧ (tower 25).reload "s.json" = .error .notJson := by
  have ron : ¬(tower 14).Fits .ron := fun fits => absurd ((tower_fits_ron 14).mp fits) (by decide)
  have json : ¬(tower 25).Fits .json := fun fits => absurd ((tower_fits_json 25).mp fits) (by decide)
  have shallow : (tower 14).toDoc.depth 0 ≤ Ron.maxDepth := by
    change (tower 14).toDoc.depth 0 ≤ 128
    simp [Doc.depth, Doc.itemsDepth, Doc.fieldsDepth, depth_stairs]
  have byRon : formatOf "s.ron" = .ok .ron := rfl
  have byJson : formatOf "s.json" = .ok .json := rfl
  refine ⟨tower_wellFormed 14, ?_, tower_wellFormed 25, ?_⟩
  · rw [Story.reload_ron (tower_wellFormed 14) byRon, if_neg ron, Story.refusal, if_pos shallow]
  · rw [Story.reload_json (tower_wellFormed 25) byJson, if_neg json, Story.refusal]

end Tower

end BranchingStory
