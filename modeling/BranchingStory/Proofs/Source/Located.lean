import BranchingStory.Proofs.Source.Provenance
import BranchingStory.Proofs.Source.Tracing

/-!
# The places of problems

Every problem of a compilation that has a line was found at a physical line with its number, which is the
one at fault. Its file is that of the line, unless it was found behind the header of its passage and
reported later: then it is the file of the header, and wrong if a passage goes on in another file.
-/

namespace BranchingStory

open Source Text

/-- What is compiled: a text, or the file under a path. -/
inductive Origin where
  | inline (source : String)
  | file (path : String)

namespace Origin

def expand (files : Files) : Origin → Expansion
  | .inline source => expandText files source
  | .file path => expandFile files path

def compile (files : Files) : Origin → Option Compilation
  | .inline source => Compilation.ofText files source
  | .file path => Compilation.ofFile files path

/-- Whether visits are the walk through what is compiled. -/
def Walk (files : Files) : Origin → List Visit → Prop
  | .inline source, walk => Walks files [] (.start inlineLabel ".") (numberedLines source) walk
  | .file path, walk => ∃ main text, files.canonical path = .ok main ∧ files.read main = .ok text ∧
      Walks files [main] (.start path (Files.parent main)) (numberedLines text) walk

/-- Whether a line stands where it says: in the file that it names, or in the text that is compiled. -/
def Holds (files : Files) (origin : Origin) (l : SourceLine) : Prop :=
  (∃ path, l.StandsAt files path) ∨
    ∃ source, origin = .inline source ∧ l.file = inlineLabel ∧ l.StandsIn source

variable {files : Files} {origin : Origin}

lemma compile_eq (files : Files) (origin : Origin) :
    origin.compile files = Compilation.ofExpansion (origin.expand files) := by
  cases origin <;> rfl

/-- What is compiled is expanded by its walk, if it can be read. -/
lemma expand_cases (files : Files) (origin : Origin) :
    (∃ walk, origin.Walk files walk ∧ origin.expand files = Expansion.empty.walk walk) ∨
      ∃ reason path, origin.expand files = Expansion.empty.report ⟨.unreadableStory reason, path, 0⟩ := by
  cases origin with
  | inline source =>
    obtain ⟨walk, walks, expanded⟩ := expandLines_walks files [] (.start inlineLabel ".") .empty
      (numberedLines source)
    exact .inl ⟨walk, walks, expanded⟩
  | file path =>
    simp only [expand, expandFile]
    cases canonical : files.canonical path with
    | error reason => exact .inr ⟨reason, path, rfl⟩
    | ok main =>
      cases read : files.read main with
      | error reason =>
        simp only [read]
        exact .inr ⟨reason, path, rfl⟩
      | ok text =>
        simp only [read]
        obtain ⟨walk, walks, expanded⟩ := expandLines_walks files [main]
          (.start path (Files.parent main)) .empty (numberedLines text)
        exact .inl ⟨walk, ⟨main, text, canonical, read, walks⟩, expanded⟩

/-- The lines of a walk stand where they say. -/
lemma Walk.holds {walk : List Visit} (walks : origin.Walk files walk) :
    ∀ v ∈ walk, origin.Holds files v.line := by
  have all {stack : List String} {p : Position} {text : String}
      (walks : Walks files stack p (numberedLines text) walk)
      (start : ∀ entry ∈ numberedLines text, origin.Holds files ⟨p.label, entry.2, entry.1⟩) :
      ∀ v ∈ walk, origin.Holds files v.line := by
    intro v member
    refine (walks.all (P := fun _ p entry => origin.Holds files ⟨p.label, entry.2, entry.1⟩) ?_ ?_ start
      v member).1
    · intro stack p turn text entry holds
      rwa [p.label_after]
    · intro stack p text number file _ opened entry inside
      obtain ⟨spec, opened⟩ := turnOf_eq_opened opened
      obtain ⟨canonical, read, _⟩ := openInclude_eq_ok opened
      exact .inl ⟨file.path, canonical, file.text, read, standsIn_of_mem inside⟩
  cases origin with
  | inline source => exact all walks fun entry inside => .inr ⟨source, rfl, rfl, standsIn_of_mem inside⟩
  | file path =>
    obtain ⟨main, text, canonical, read, walks⟩ := walks
    exact all walks fun entry inside => .inl ⟨main, canonical, text, read, standsIn_of_mem inside⟩

end Origin

namespace Source

lemma scriptStatements_mem {lines : List SourceLine} {l : SourceLine} {code : List Char}
    (member : (l, code) ∈ scriptStatements lines) : l ∈ lines := by
  fun_induction scriptStatements lines with
  | case1 => cases member
  | case2 _ _ _ ih => exact List.mem_cons_of_mem _ (ih member)
  | case3 _ _ _ _ ih => exact List.mem_cons_of_mem _ (ih member)
  | case4 first lines _ _ ih =>
    rcases List.mem_cons.mp member with same | later
    · cases same
      exact List.mem_cons_self
    · exact List.mem_cons_of_mem _ ((joinOpen_suffix _ lines).mem (ih later))

lemma takeScript_mem {lines : List SourceLine} {l : SourceLine} (member : l ∈ (takeScript lines).1) :
    l ∈ lines := by
  fun_induction takeScript lines with
  | case1 => cases member
  | case2 => cases member
  | case3 => cases member
  | case4 first lines _ _ body closed rest taken ih =>
    rw [taken] at ih
    rcases List.mem_cons.mp member with rfl | later
    · exact List.mem_cons_self
    · exact List.mem_cons_of_mem _ (ih later)

section Lines

variable {lines : List SourceLine} {l header : SourceLine} {fault : Fault}

lemma Reads.mem {r r' : Reading} {rest : List SourceLine} (reads : Reads r lines r' (l :: rest)) :
    l ∈ lines :=
  reads.suffix.mem List.mem_cons_self

lemma FoundAt.mem (found : FoundAt lines l fault) : l ∈ lines := by
  cases found with
  | header reads | declaration reads | unknownStart reads | noPassages reads => exact reads.mem
  | line comes | statement comes | scriptBegin comes | scriptEnd comes => exact comes.reads.mem
  | scriptStatement comes _ inScript =>
    refine comes.reads.suffix.mem (List.mem_cons_of_mem _ ?_)
    exact takeScript_mem (scriptStatements_mem inScript)

lemma FoundLater.mem (found : FoundLater lines header l fault) : l ∈ lines := by
  cases found with
  | unclosed comes | link comes => exact comes.reads.mem

end Lines

/-- A problem of a link has the file of the links and the line of its own. -/
lemma LinkScope.place {scope : LinkScope} {k : Link} {p : Problem} (member : p ∈ scope.problems k) :
    p.file = scope.file ∧ p.line = k.line := by
  unfold LinkScope.problems link at member
  simp only at member
  split at member
  · rw [List.mem_singleton.mp member]
    exact ⟨rfl, rfl⟩
  · split at member
    · cases member
    · rw [List.mem_singleton.mp member]
      exact ⟨rfl, rfl⟩

lemma mem_problems_linkPassages {params : List (String × List Param)} {table : List (String × Draft)}
    {p : Problem} (member : p ∈ (linkPassages params table).2) :
    ∃ id d, (id, d) ∈ table ∧ p ∈ (linkPassage params d.header.file d.passage).2 := by
  induction table with
  | nil => cases member
  | cons entry table ih =>
    obtain ⟨id, d⟩ := entry
    simp only [linkPassages] at member
    rcases List.mem_append.mp member with own | later
    · exact ⟨id, d, List.mem_cons_self, own⟩
    · obtain ⟨id', d', inside, ofPassage⟩ := ih later
      exact ⟨id', d', List.mem_cons_of_mem _ inside, ofPassage⟩

/-- What is found when all passages are there: there is none, the first one is missing, or a link is
faulty. -/
lemma mem_problems_assemble {version : String} {imports : List Import} {r : Reading} {p : Problem}
    (member : p ∈ (assemble version imports r).2.1) :
    (r.params = [] ∧ p = emptyStory r.start?) ∨
      (∃ s, r.start? = some s ∧ s.target ∉ Assoc.keys r.params ∧
        p = s.origin.problem (.unknownStart s.target)) ∨
      ∃ d ∈ r.done, ∃ k ∈ d.passage.links,
        p ∈ LinkScope.problems ⟨r.params, d.passage.namespace?, d.header.file⟩ k := by
  have keys : Assoc.keys (byId [] r.done).1 = Assoc.keys r.params := by
    unfold Assoc.keys Reading.params
    rw [List.map_map]
    rfl
  by_cases empty : (byId [] r.done).1.isEmpty
  · unfold assemble at member
    simp only [empty, if_true] at member
    refine .inl ⟨?_, List.mem_singleton.mp member⟩
    unfold Reading.params
    rw [List.isEmpty_iff.mp empty]
    rfl
  · unfold assemble at member
    simp only [empty, Bool.false_eq_true, if_false] at member
    right
    rcases List.mem_append.mp member with ofStart | ofLink
    · left
      rw [keys] at ofStart
      unfold chooseStart at ofStart
      split at ofStart
      · next s declared =>
        split at ofStart
        · cases ofStart
        · next absent =>
          refine ⟨s, declared, ?_, List.mem_singleton.mp ofStart⟩
          simpa only [List.contains_iff_mem] using absent
      · split at ofStart <;> cases ofStart
    · right
      obtain ⟨id, d, inTable, ofPassage⟩ := mem_problems_linkPassages ofLink
      rw [problems_linkPassage] at ofPassage
      obtain ⟨k, inPassage, faulty⟩ := List.mem_flatMap.mp ofPassage
      rcases mem_byId inTable with absent | ⟨done, _⟩
      · cases absent
      · exact ⟨d, done, k, inPassage, faulty⟩

/-- What is found when all passages are there was found at one of the lines, or the story is empty. -/
lemma traced_assemble {version : String} {imports : List Import} {lines : List SourceLine} {r : Reading}
    (read : readLines .empty lines = some r) {p : Problem} (member : p ∈ (assemble version imports r).2.1) :
    Traced lines p ∨ p.line = 0 := by
  obtain ⟨_, links, start⟩ := traced_readLines read
  rcases mem_problems_assemble member with
    ⟨empty, rfl⟩ | ⟨s, declared, absent, rfl⟩ | ⟨d, done, k, inside, faulty⟩
  · cases declared : r.start? with
    | none => exact .inr rfl
    | some s =>
      obtain ⟨r', rest, arg, reads, found, _⟩ := start s declared
      exact .inl (traced_of_found (.noPassages reads found read empty))
  · obtain ⟨r', rest, arg, reads, found, target⟩ := start s declared
    rw [target] at absent ⊢
    exact .inl (traced_of_found (.unknownStart reads found read absent))
  · obtain ⟨r', d', l, rest, comes, continues, brings⟩ := links d done k (List.mem_append_left _ inside)
    obtain ⟨file, line⟩ := LinkScope.place faulty
    have same : d.passage.namespace? = d'.passage.namespace? := by
      unfold Passage.namespace?
      rw [continues.id]
    rw [same, continues.header] at faulty
    refine .inl (.inr ⟨d'.header, l, ?_, line.trans brings.line_eq, .link comes brings read faulty⟩)
    rw [file, continues.header]

end Source

namespace Origin

/-- Whether a line is at fault: found where files are expanded, where lines are read, or later. -/
def Blames (files : Files) (origin : Origin) (l : SourceLine) (fault : Fault) : Prop :=
  (∃ walk v, origin.Walk files walk ∧ v ∈ walk ∧ v.line = l ∧ v.fault? = some fault) ∨
    FoundAt (origin.expand files).lines l fault ∨
    ∃ header, FoundLater (origin.expand files).lines header l fault

variable {files : Files} {origin : Origin} {p : Problem}

/-- The lines of an expansion stand where they say. -/
lemma holds_of_mem {l : SourceLine} (member : l ∈ (origin.expand files).lines) : origin.Holds files l := by
  rcases expand_cases files origin with ⟨walk, walks, expanded⟩ | ⟨reason, path, expanded⟩
  · rw [expanded, Expansion.lines_walk] at member
    obtain ⟨v, inWalk, kept⟩ := List.mem_filterMap.mp member
    unfold Visit.line? at kept
    split at kept
    · cases kept
      exact walks.holds v inWalk
    · cases kept
  · rw [expanded] at member
    cases member

/-- A problem of an expansion is one of a line that is walked to, or of the whole. -/
lemma expand_problem (member : p ∈ (origin.expand files).problems) :
    p.line = 0 ∨ ∃ walk v, origin.Walk files walk ∧ v ∈ walk ∧ v.fault? = some p.fault ∧
      p = v.line.problem p.fault := by
  rcases expand_cases files origin with ⟨walk, walks, expanded⟩ | ⟨reason, path, expanded⟩
  · rw [expanded, Expansion.problems_walk] at member
    obtain ⟨v, inWalk, found⟩ := List.mem_filterMap.mp member
    obtain ⟨fault, isFault, rfl⟩ := Option.map_eq_some_iff.mp found
    exact .inr ⟨walk, v, walks, inWalk, isFault, rfl⟩
  · rw [expanded] at member
    rw [List.mem_singleton.mp member]
    exact .inl rfl

end Origin

/-- All that is refused was found in the expansion, while its lines were read, or when they were read. -/
lemma Compilation.mem_problems {e : Expansion} {c : Compilation} (compiled : ofExpansion e = some c)
    {problems : List Problem} (refused : c.result = .error problems) {p : Problem} (member : p ∈ problems) :
    p ∈ e.problems ∨ Traced e.lines p ∨ p.line = 0 := by
  obtain ⟨r, read, rfl⟩ := Option.map_eq_some_iff.mp compiled
  simp only at refused
  split at refused
  · cases refused
  · cases refused
    rw [Problem.sort, List.mem_mergeSort, List.mem_append, List.mem_append] at member
    rcases member with (expanding | reading) | assembling
    · exact .inl expanding
    · exact .inr (.inl ((traced_readLines read).1 p reading))
    · exact .inr (traced_assemble read assembling)

/-- A problem with a line number has the number of a physical line that is at fault, and its file, unless
it is found later behind a header in another file. -/
theorem Compilation.problems_located {files : Files} {origin : Origin} {c : Compilation}
    (compiled : origin.compile files = some c) {problems : List Problem} (refused : c.result = .error problems)
    {p : Problem} (member : p ∈ problems) (positive : 0 < p.line) :
    ∃ l, origin.Holds files l ∧ p.line = l.line ∧ origin.Blames files l p.fault ∧
      (p.file = l.file ∨ ∃ header, FoundLater (origin.expand files).lines header l p.fault ∧
        header.file ≠ l.file ∧ p.file = header.file) := by
  rw [Origin.compile_eq] at compiled
  rcases mem_problems compiled refused member with
    expanding | (⟨l, same, found⟩ | ⟨header, l, file, line, found⟩) | whole
  · rcases Origin.expand_problem expanding with whole | ⟨walk, v, walks, inWalk, isFault, same⟩
    · omega
    · refine ⟨v.line, walks.holds v inWalk, ?_, .inl ⟨walk, v, walks, inWalk, rfl, isFault⟩, .inl ?_⟩
      · rw [same]
        rfl
      · rw [same]
        rfl
  · refine ⟨l, Origin.holds_of_mem found.mem, ?_, .inr (.inl found), .inl ?_⟩
    · rw [same]
      rfl
    · rw [same]
      rfl
  · refine ⟨l, Origin.holds_of_mem found.mem, line, .inr (.inr ⟨header, found⟩), ?_⟩
    by_cases one : header.file = l.file
    · exact .inl (file.trans one)
    · exact .inr ⟨header, found, one, file⟩
  · omega

def Compilation.problems (c : Compilation) : List Problem :=
  match c.result with
  | .ok _ => []
  | .error problems => problems

lemma Compilation.result_of_problems {c : Compilation} {p : Problem} (member : p ∈ c.problems) :
    c.result = .error c.problems := by
  unfold problems at member ⊢
  split at member
  · cases member
  · next same => rw [same]

/-- A passage that goes on in a second file. -/
def divided : Files where
  canonical := .ok
  contents := [("main.bard", .ok ":: Start\n@include part.bard\n"), ("part.bard", .ok "-> Nowhere\n")]

lemma expand_divided :
    (Origin.file "main.bard").expand divided =
      ⟨[⟨"main.bard", 1, ":: Start".toList⟩, ⟨"part.bard", 1, "-> Nowhere".toList⟩], [], []⟩ := by
  have main : numberedLines ":: Start\n@include part.bard\n" =
      [(":: Start".toList, 1), ("@include part.bard".toList, 2)] := by decide +kernel
  have part : numberedLines "-> Nowhere\n" = [("-> Nowhere".toList, 1)] := by decide +kernel
  have header : turnOf divided ["main.bard"] (.start "main.bard" (Files.parent "main.bard"))
      ":: Start".toList 1 = .kept := turnOf_kept rfl rfl
  have opens : turnOf divided ["main.bard"]
      ((Position.start "main.bard" (Files.parent "main.bard")).after .kept ":: Start".toList)
      "@include part.bard".toList 2 = .opened ⟨"part.bard", "part.bard", "-> Nowhere\n"⟩ := by
    have path : includePath (Files.parent "main.bard") "part.bard".toList = "part.bard" := by decide +kernel
    have spec : directiveArg? "@include".toList (trim "@include part.bard".toList) =
        some "part.bard".toList := rfl
    rw [turnOf_include rfl spec, openInclude_eq (by decide)]
    simp only [Position.after, Position.pass, Position.start, path]
    rfl
  have inside : Walks divided ["main.bard", "part.bard"] (.start "part.bard" (Files.parent "part.bard"))
      (numberedLines "-> Nowhere\n")
      [⟨["main.bard", "part.bard"], .start "part.bard" (Files.parent "part.bard"), "-> Nowhere".toList, 1,
        .kept⟩] := by
    rw [part]
    exact .stay (turnOf_kept rfl rfl) rfl .done
  obtain ⟨walk, walks, expanded⟩ := expandLines_walks divided ["main.bard"]
    (.start "main.bard" (Files.parent "main.bard")) .empty (numberedLines ":: Start\n@include part.bard\n")
  rw [main] at walks
  rw [walks.unique (.stay header rfl (.enter opens inside .done))] at expanded
  exact expanded

lemma compile_divided :
    ((Origin.file "main.bard").compile divided).map
        (fun c => c.problems.map fun p => (p.file, p.line, p.fault.message)) =
      some [("main.bard", 1, "unknown passage 'Nowhere'")] := by
  rw [Origin.compile_eq, expand_divided]
  decide +kernel

lemma divided_refused :
    ∃ c p, (Origin.file "main.bard").compile divided = some c ∧ c.result = .error c.problems ∧
      p ∈ c.problems ∧ p.file = "main.bard" ∧ p.line = 1 ∧ p.fault.message = "unknown passage 'Nowhere'" := by
  obtain ⟨c, compiled, problems⟩ := Option.map_eq_some_iff.mp compile_divided
  obtain ⟨p, rest, split, same, _⟩ := List.map_eq_cons_iff.mp problems
  have member : p ∈ c.problems := split ▸ List.mem_cons_self
  simp only [Prod.mk.injEq] at same
  exact ⟨c, p, compiled, c.result_of_problems member, member, same⟩

theorem divided_is_located :
    ∃ c p, (Origin.file "main.bard").compile divided = some c ∧ c.result = .error c.problems ∧
      p ∈ c.problems ∧ 0 < p.line ∧ ∃ l, (Origin.file "main.bard").Holds divided l ∧ p.line = l.line ∧
        (Origin.file "main.bard").Blames divided l p.fault := by
  obtain ⟨c, p, compiled, refused, member, _, line, _⟩ := divided_refused
  have positive : 0 < p.line := by omega
  obtain ⟨l, holds, same, blames, _⟩ := Compilation.problems_located compiled refused member positive
  exact ⟨c, p, compiled, refused, member, positive, l, holds, same, blames⟩

/-- The jump stands in the second file, but the problem names the line with its number in the first one, in
which there is no link at all. -/
theorem divided_is_misplaced :
    ∃ c p, (Origin.file "main.bard").compile divided = some c ∧ c.result = .error c.problems ∧
      p ∈ c.problems ∧ p.fault.message = "unknown passage 'Nowhere'" ∧ 0 < p.line ∧
      ∀ l, l.file = p.file → l.line = p.line → (Origin.file "main.bard").Holds divided l → ∀ k, ¬l.Brings k := by
  obtain ⟨c, p, compiled, refused, member, file, line, message⟩ := divided_refused
  refine ⟨c, p, compiled, refused, member, message, by omega, ?_⟩
  intro l ofFile ofLine holds k brings
  have header : l.text = ":: Start".toList := by
    rw [file] at ofFile
    rw [line] at ofLine
    rcases holds with ⟨path, canonical, text, read, _, stands⟩ | ⟨_, never, _⟩
    · rw [ofFile] at canonical
      cases canonical
      cases read
      rw [ofLine] at stands
      exact (Option.some.inj stands).symm
    · cases never
  cases brings with
  | jump mark =>
    rw [header] at mark
    cases mark
  | choice mark =>
    rw [header] at mark
    cases mark

end BranchingStory
