import BranchingStory.Proofs.Source.Checked
import BranchingStory.Proofs.Source.Linked
import BranchingStory.Source.Compile

/-!
# Compiled stories

A story that the compiler accepts, traced back to its source: each of its passages is a passage that
the lines make, linked without a problem against the parameters of all passages of the story.
-/

namespace BranchingStory

open Source

/-- Whether a story is what the compiler makes of expanded lines. A text and a file are compiled by way
of their expansions. -/
def Story.CompiledFrom (e : Expansion) (story : Story) : Prop :=
  ∃ c, Compilation.ofExpansion e = some c ∧ c.result = .ok story

/-- The story that lines are compiled to, and an empty one if they are refused. -/
def Source.Expansion.story (e : Expansion) : Story :=
  match Compilation.ofExpansion e with
  | some ⟨.ok story, _⟩ => story
  | _ => ⟨"", "", Metadata.empty, [], []⟩

lemma Source.Expansion.compiledFrom {e : Expansion}
    (accepted : (Compilation.ofExpansion e).map (·.result.isOk) = some true) :
    e.story.CompiledFrom e := by
  unfold story Story.CompiledFrom
  rcases made : Compilation.ofExpansion e with _ | ⟨problems | story, warnings⟩
  · rw [made] at accepted
    cases accepted
  · rw [made] at accepted
    cases accepted
  · exact ⟨_, rfl, rfl⟩

def Story.params (story : Story) : List (String × List Param) :=
  story.passages.map fun (id, p) => (id, p.params)

/-- The parameters under an id are those of the passage under it. -/
lemma Story.get?_params (story : Story) (id : String) :
    Assoc.get? story.params id = (story.passage? id).map (·.params) :=
  Assoc.get?_map (fun _ (p : Passage) => p.params) story.passages id

namespace Source

/-- The drafts of a table have their own ids, and are among the drafts it was made of. -/
lemma mem_byId {table : List (String × Draft)} {drafts : List Draft} {id : String} {d : Draft}
    (member : (id, d) ∈ (byId table drafts).1) : (id, d) ∈ table ∨ d ∈ drafts ∧ id = d.passage.id := by
  induction drafts generalizing table with
  | nil => exact .inl member
  | cons first drafts ih =>
    simp only [byId] at member
    rcases ih member with inTable | ⟨later, same⟩
    · rcases Assoc.mem_insert inTable with new | old
      · cases new
        exact .inr ⟨List.mem_cons_self, rfl⟩
      · exact .inl old
    · exact .inr ⟨List.mem_cons_of_mem _ later, same⟩

/-- Under an id is the last draft with it, and what was in the table before if there is none. -/
lemma get?_byId (table : List (String × Draft)) (drafts : List Draft) (id : String) :
    Assoc.get? (byId table drafts).1 id =
      (drafts.reverse.find? (·.passage.id = id)).or (Assoc.get? table id) := by
  induction drafts generalizing table with
  | nil => rfl
  | cons first drafts ih =>
    -- The first draft is the last one to look at, in front of what was in the table.
    rw [byId, ih, Assoc.get?_insert, List.reverse_cons, List.find?_append, Option.or_assoc]
    congr 1
    by_cases same : first.passage.id = id
    · simp [same]
    · simp [same, Ne.symm same]

lemma nodup_keys_byId {table : List (String × Draft)} (distinct : (Assoc.keys table).Nodup)
    (drafts : List Draft) : (Assoc.keys (byId table drafts).1).Nodup := by
  induction drafts generalizing table with
  | nil => exact distinct
  | cons first drafts ih => exact ih (Assoc.nodup_keys_insert distinct _ _)

/-- Drafts are put into a table under their own ids, each of them unless a later one has its id. -/
lemma last_of_byId {drafts : List Draft} {id : String} {d : Draft} (member : (id, d) ∈ (byId [] drafts).1) :
    d.passage.id = id ∧
      ∃ before after, drafts = before ++ d :: after ∧ ∀ later ∈ after, later.passage.id ≠ id := by
  have distinct := nodup_keys_byId (show (Assoc.keys ([] : List (String × Draft))).Nodup from .nil) drafts
  have found := Assoc.get?_of_mem distinct member
  have nothing : Assoc.get? ([] : List (String × Draft)) id = none := rfl
  rw [get?_byId, nothing, Option.or_none, List.find?_eq_some_iff_append] at found
  obtain ⟨ownId, after, before, split, others⟩ := found
  refine ⟨of_decide_eq_true ownId, before.reverse, after.reverse, ?_, fun later member => ?_⟩
  · rw [← List.reverse_reverse drafts, split, List.reverse_append, List.reverse_cons, List.append_assoc,
      List.singleton_append]
  · simpa using others later (List.mem_reverse.mp member)

/-- Linking keeps ids and parameters. -/
lemma params_linkPassages (params : List (String × List Param)) (table : List (String × Draft)) :
    ((linkPassages params table).1.map fun (id, p) => (id, p.params)) =
      table.map fun (id, d) => (id, d.passage.params) := by
  induction table with
  | nil => rfl
  | cons entry table ih =>
    simp only [linkPassages, List.map_cons, ih]
    rfl

lemma keys_linkPassages (params : List (String × List Param)) (table : List (String × Draft)) :
    Assoc.keys (linkPassages params table).1 = Assoc.keys table := by
  induction table with
  | nil => rfl
  | cons entry table ih => exact congrArg (entry.1 :: ·) ih

lemma mem_linkPassages {params : List (String × List Param)} {table : List (String × Draft)}
    {id : String} {p : Passage} (member : (id, p) ∈ (linkPassages params table).1)
    (clean : (linkPassages params table).2 = []) :
    ∃ d, (id, d) ∈ table ∧ p = (linkPassage params d.header.file d.passage).1 ∧
      (linkPassage params d.header.file d.passage).2 = [] := by
  induction table with
  | nil => cases member
  | cons entry table ih =>
    obtain ⟨id', d'⟩ := entry
    simp only [linkPassages, List.append_eq_nil_iff] at clean
    simp only [linkPassages] at member
    rcases List.mem_cons.mp member with here | behind
    · cases here
      exact ⟨d', List.mem_cons_self, rfl, clean.1⟩
    · obtain ⟨d, later, same, ok⟩ := ih behind clean.2
      exact ⟨d, List.mem_cons_of_mem _ later, same, ok⟩

/-- Assembling without a problem links all passages against the parameters of the story. -/
lemma passages_assemble {version : String} {imports : List Import} {r : Reading}
    (clean : (assemble version imports r).2.1 = []) :
    let story := (assemble version imports r).1
    (linkPassages story.params (byId [] r.done).1).2 = [] ∧
      story.passages = (linkPassages story.params (byId [] r.done).1).1 := by
  by_cases empty : (byId [] r.done).1.isEmpty
  · unfold assemble at clean
    simp only [empty, if_true] at clean
    cases clean
  · -- Links are checked before the story is there, against parameters that linking does not change.
    have params : (assemble version imports r).1.params =
        (byId [] r.done).1.map fun (id, d) => (id, d.passage.params) := by
      unfold assemble Story.params
      simp only [empty, Bool.false_eq_true, if_false]
      exact params_linkPassages _ _
    simp only [params]
    unfold assemble at clean ⊢
    simp only [empty, Bool.false_eq_true, if_false, List.append_eq_nil_iff] at clean ⊢
    exact ⟨clean.2, trivial⟩

end Source

namespace Story.CompiledFrom

variable {e : Expansion} {story : Story}

/-- A compiled story is assembled from what was read, both without a problem. -/
lemma accepted (compiled : story.CompiledFrom e) :
    ∃ r, readLines Reading.empty e.lines = some r ∧ r.problems = [] ∧
      (assemble storyVersion e.imports r).1 = story ∧ (assemble storyVersion e.imports r).2.1 = [] := by
  obtain ⟨c, made, accepted⟩ := compiled
  unfold Compilation.ofExpansion at made
  cases read : readLines Reading.empty e.lines with
  | none =>
    rw [read] at made
    cases made
  | some r =>
    rw [read] at made
    cases made
    simp only at accepted
    split at accepted
    · next clean =>
      cases accepted
      simp only [List.isEmpty_iff, List.append_eq_nil_iff] at clean
      exact ⟨r, rfl, clean.1.2, rfl, clean.2⟩
    · cases accepted

lemma assembled (compiled : story.CompiledFrom e) :
    ∃ r, readLines Reading.empty e.lines = some r ∧ (assemble storyVersion e.imports r).1 = story ∧
      (assemble storyVersion e.imports r).2.1 = [] := by
  obtain ⟨r, read, _, same, clean⟩ := compiled.accepted
  exact ⟨r, read, same, clean⟩

/-- Behind each passage of a compiled story is the last of the drafts with its id. -/
lemma last_draft (compiled : story.CompiledFrom e) {id : String} {p : Passage}
    (member : (id, p) ∈ story.passages) :
    ∃ r before d after, readLines Reading.empty e.lines = some r ∧ r.problems = [] ∧
      r.done = before ++ d :: after ∧ (∀ later ∈ after, later.passage.id ≠ id) ∧ d.passage.id = id ∧
      p = (linkPassage story.params d.header.file d.passage).1 ∧
      (linkPassage story.params d.header.file d.passage).2 = [] := by
  obtain ⟨r, read, noProblem, rfl, clean⟩ := compiled.accepted
  obtain ⟨linked, passages⟩ := passages_assemble clean
  rw [passages] at member
  obtain ⟨d, inTable, same, ok⟩ := mem_linkPassages member linked
  obtain ⟨ownId, before, after, split, last⟩ := last_of_byId inTable
  exact ⟨r, before, d, after, read, noProblem, split, last, ownId, same, ok⟩

lemma draft (compiled : story.CompiledFrom e) {id : String} {p : Passage}
    (member : (id, p) ∈ story.passages) :
    ∃ r d, readLines Reading.empty e.lines = some r ∧ d ∈ r.done ∧ d.passage.id = id ∧
      p = (linkPassage story.params d.header.file d.passage).1 ∧
      (linkPassage story.params d.header.file d.passage).2 = [] := by
  obtain ⟨r, before, d, after, read, _, split, _, ownId, same, ok⟩ := compiled.last_draft member
  exact ⟨r, d, read, split ▸ List.mem_append_right _ List.mem_cons_self, ownId, same, ok⟩

/-- No id comes twice in a compiled story. -/
lemma keys_nodup (compiled : story.CompiledFrom e) : (Assoc.keys story.passages).Nodup := by
  obtain ⟨r, _, rfl, clean⟩ := compiled.assembled
  rw [(passages_assemble clean).2, keys_linkPassages]
  exact nodup_keys_byId (show (Assoc.keys ([] : List (String × Draft))).Nodup from .nil) r.done

/-- What is kept by all operations on passages holds of the draft behind each passage of a compiled
story. -/
lemma draft_keeps (compiled : story.CompiledFrom e) {P : Draft → Prop} (kept : Kept e.lines P)
    {id : String} {p : Passage} (member : (id, p) ∈ story.passages) :
    ∃ d, P d ∧ d.passage.id = id ∧ p = (linkPassage story.params d.header.file d.passage).1 ∧
      (linkPassage story.params d.header.file d.passage).2 = [] := by
  obtain ⟨r, d, read, done, ownId, same, ok⟩ := compiled.draft member
  have nothing : Reading.empty.All P := ⟨nofun, nofun⟩
  exact ⟨d, (readLines_keeps kept (List.suffix_refl _) nothing read).done d done, ownId, same, ok⟩

/-- Every passage of a compiled story stands under its own id. -/
lemma id_eq (compiled : story.CompiledFrom e) {id : String} {p : Passage}
    (found : story.passage? id = some p) : p.id = id := by
  obtain ⟨_, d, _, _, ownId, rfl, _⟩ := compiled.draft (Assoc.mem_of_get? found)
  exact ownId

/-- What headers make sure of for the parameters that they read holds of the parameters in a story. -/
lemma params_of_header (compiled : story.CompiledFrom e) {P : List Param → Prop}
    (ofHeader : ∀ {header p}, readHeader header = .ok p → P p.params) {id : String} {p : Passage}
    (found : story.passage? id = some p) : P p.params := by
  have kept : Kept e.lines fun d => P d.passage.params := by
    constructor
    case start =>
      intro header p l read
      exact ofHeader read
    case addBreak =>
      intro d before
      rwa [(Draft.extends_addBreak d).params]
    case readLine =>
      intro d d' l fault? before _ read
      rwa [(Draft.extends_readLine read).params]
    case readStatement =>
      intro d code line before _
      rwa [(Draft.extends_readStatement d code line).params]
  obtain ⟨d, before, _, rfl, _⟩ := compiled.draft_keeps kept (Assoc.mem_of_get? found)
  exact before

lemma names_nodup (compiled : story.CompiledFrom e) {id : String} {p : Passage}
    (found : story.passage? id = some p) : (p.params.map (·.name)).Nodup :=
  compiled.params_of_header (P := fun params => (params.map (·.name)).Nodup)
    (fun read => (readHeader_ok read).1) found

lemma requiredFirst (compiled : story.CompiledFrom e) {id : String} {p : Passage}
    (found : story.passage? id = some p) : RequiredFirst p.params :=
  compiled.params_of_header readHeader_requiredFirst found

/-- What is known of the pieces of a compiled story: links can be followed, expressions and formats can
be read, and a statement comes from a text of the source. -/
def Known (e : Expansion) (story : Story) : Piece → Prop
  | .link target args => LinkFits story.params target args
  | .statement c => ∃ code line, Authored e.lines code line ∧ readCommand code line = .ok c
  | piece => piece.Checked

theorem known (compiled : story.CompiledFrom e) : ∀ piece ∈ story.pieces, Known e story piece := by
  -- Of a draft all is known but where its links lead.
  let read (piece : Piece) : Prop :=
    piece.Checked ∨ ∃ c code line, Authored e.lines code line ∧ readCommand code line = .ok c ∧
      piece = .statement c
  have kept : Kept e.lines fun d => ∀ piece ∈ d.pieces, read piece := by
    constructor
    case start =>
      intro header p l ok piece member
      simp only [Draft.start, Draft.pieces, List.flatMap_nil, List.append_nil] at member
      exact .inl ((readHeader_ok ok).2 piece member)
    case addBreak =>
      intro d before piece member
      exact ((Draft.extends_addBreak d).pieces piece member).elim (before piece) .inl
    case readLine =>
      intro d d' l fault? before _ ok piece member
      exact ((Draft.extends_readLine ok).pieces piece member).elim (before piece) .inl
    case readStatement =>
      intro d code line before authored piece member
      rcases (Draft.extends_readStatement d code line).pieces piece member with old | ⟨c, ok, same⟩
      · exact before piece old
      · exact .inr ⟨c, code, line, authored, ok, same⟩
  intro piece member
  obtain ⟨⟨id, p⟩, inStory, inPassage⟩ := List.mem_flatMap.mp member
  obtain ⟨d, before, _, rfl, clean⟩ := compiled.draft_keeps kept inStory
  have linked := linked_passage clean piece inPassage
  cases piece with
  | link target args => exact linked
  | expression | spec =>
    rcases before _ (List.mem_append_left _ linked) with checked | ⟨_, _, _, _, _, same⟩
    · exact checked
    · cases same
  | statement c =>
    rcases before _ (List.mem_append_left _ linked) with none | ⟨_, code, line, authored, ok, same⟩
    · exact none.elim
    · cases same
      exact ⟨code, line, authored, ok⟩

end Story.CompiledFrom

end BranchingStory
