import Mathlib.Data.List.Nodup
import Mathlib.Data.List.Perm.Subperm
import BranchingStory.Proofs.Source.Included

/-!
# Where expanded lines come from

Every line of an expansion is a physical line: it stands in the file that it names, under its number. The
files that are open on the way to it are all different, so that files nest no deeper than there are files.
-/

namespace BranchingStory.Source

open Text

/-- Whether a line stands in a text under its number; the end of the line does not belong to it. -/
def SourceLine.StandsIn (l : SourceLine) (text : String) : Prop :=
  0 < l.line ∧ (lines text.toList)[l.line - 1]?.map (dropEndWhile (· == '\r')) = some l.text

/-- Whether a line stands in the file under a canonical path, which is that of the file it names. -/
def SourceLine.StandsAt (files : Files) (l : SourceLine) (path : String) : Prop :=
  files.canonical l.file = .ok path ∧ ∃ text, files.read path = .ok text ∧ l.StandsIn text

lemma standsIn_of_mem {text file : String} {entry : List Char × Nat} (member : entry ∈ numberedLines text) :
    SourceLine.StandsIn ⟨file, entry.2, entry.1⟩ text := by
  obtain ⟨positive, found⟩ := List.mem_zipIdx_iff_le_and_getElem?_sub.mp member
  rw [List.getElem?_map] at found
  exact ⟨positive, found⟩

lemma Position.label_after (p : Position) (turn : Turn) (text : List Char) :
    (p.after turn text).label = p.label := by
  cases turn <;> rfl

lemma turnOf_eq_opened {files : Files} {stack : List String} {p : Position} {text : List Char} {number : Nat}
    {file : Opened} (opened : turnOf files stack p text number = .opened file) :
    ∃ spec, openInclude files p.dir stack spec = .ok file := by
  unfold turnOf at opened
  split at opened
  · cases opened
  · split at opened
    · cases opened
    · next spec _ =>
      split at opened
      · cases opened
      · next found =>
        cases opened
        exact ⟨spec, found⟩

/-- What is so for a line in the innermost of some open files. -/
structure Placed (files : Files) (stack : List String) (l : SourceLine) : Prop where
  nodup : stack.Nodup
  known : stack ⊆ files.contents.map (·.1)
  stands : ∃ path, stack.getLast? = some path ∧ l.StandsAt files path

/-- What is so for a line that a walk comes to. -/
structure Visit.Sound (files : Files) (v : Visit) : Prop where
  /-- No file is open twice. -/
  nodup : v.stack.Nodup
  bounded : v.stack.length ≤ files.contents.length
  /-- The line stands in the innermost open file. -/
  stands : ∃ path, v.stack.getLast? = some path ∧ v.line.StandsAt files path
  /-- The line is refused for a circle exactly if it includes a file that is open. -/
  circle : ∀ chain, v.fault? = some (.includeCycle chain) ↔
    ∃ path, v.Includes files path ∧ path ∈ v.stack ∧ chain = v.stack ++ [path]
  /-- A readable file that is not open is opened. -/
  opens : ∀ path text, v.Includes files path → path ∉ v.stack → files.read path = .ok text →
    ∃ label, v.turn = .opened ⟨path, label, text⟩ ∧ files.canonical label = .ok path

section Walking

variable {files : Files} {stack : List String} {p : Position} {lines : List (List Char × Nat)}
  {visits : List Visit}

/-- A line of an opened file is placed if the line that includes it is. -/
lemma Placed.opened {l : SourceLine} (placed : Placed files stack l) {dir : String} {spec : List Char}
    {file : Opened} (opened : openInclude files dir stack spec = .ok file) {entry : List Char × Nat}
    (member : entry ∈ numberedLines file.text) :
    Placed files (stack ++ [file.path]) ⟨file.label, entry.2, entry.1⟩ := by
  obtain ⟨canonical, read, closed⟩ := openInclude_eq_ok opened
  refine ⟨?_, ?_, file.path, List.getLast?_concat, canonical, file.text, read, standsIn_of_mem member⟩
  · exact (List.nodup_append_comm.mp (List.nodup_cons.mpr ⟨closed, placed.nodup⟩))
  · intro path isOpen
    rcases List.mem_append.mp isOpen with before | last
    · exact placed.known before
    · rw [List.mem_singleton.mp last]
      exact (opened_path opened).2

lemma Placed.bounded {l : SourceLine} (placed : Placed files stack l) :
    stack.length ≤ files.contents.length := by
  have subperm := placed.nodup.subperm placed.known
  simpa only [List.length_map] using subperm.length_le

theorem Walks.sound (walks : Walks files stack p lines visits)
    (start : ∀ entry ∈ lines, Placed files stack ⟨p.label, entry.2, entry.1⟩) :
    ∀ v ∈ visits, v.Sound files := by
  intro v member
  have step := walks.all (P := fun stack p entry => Placed files stack ⟨p.label, entry.2, entry.1⟩)
    (by
      intro stack p turn text entry placed
      rwa [p.label_after])
    (by
      intro stack p text number file placed opened entry inside
      obtain ⟨spec, opened⟩ := turnOf_eq_opened opened
      exact placed.opened opened inside)
    start v member
  obtain ⟨placed, own⟩ := step
  exact
    { nodup := placed.nodup
      bounded := placed.bounded
      stands := placed.stands
      circle := fun _ => v.cycle_iff own
      opens := fun _ _ includes closed read => v.opens own includes closed read }

end Walking

/-- A file is expanded by one walk through it and the files that it includes, depth first and in order. -/
theorem expandFile_faithful {files : Files} {path main text : String}
    (canonical : files.canonical path = .ok main) (read : files.read main = .ok text) :
    ∃ walk, Walks files [main] (.start path (Files.parent main)) (numberedLines text) walk ∧
      (∀ other, Walks files [main] (.start path (Files.parent main)) (numberedLines text) other →
        other = walk) ∧
      (expandFile files path).lines = walk.filterMap Visit.line? ∧
      (expandFile files path).imports = walk.flatMap Visit.imports ∧
      (expandFile files path).problems = walk.filterMap Visit.problem? ∧
      ∀ v ∈ walk, v.Sound files := by
  obtain ⟨walk, walks, expanded⟩ := expandLines_walks files [main] (.start path (Files.parent main)) .empty
    (numberedLines text)
  have whole : expandFile files path = Expansion.empty.walk walk := by
    unfold expandFile
    rw [canonical]
    simp only [read]
    exact expanded
  have placed : ∀ entry ∈ numberedLines text, Placed files [main] ⟨path, entry.2, entry.1⟩ := by
    intro entry member
    refine ⟨List.nodup_singleton main, ?_, main, rfl, canonical, text, read, standsIn_of_mem member⟩
    exact List.cons_subset.mpr ⟨Files.mem_of_read read, List.nil_subset _⟩
  rw [whole]
  exact ⟨walk, walks, fun other again => again.unique walks, Expansion.lines_walk walk,
    Expansion.imports_walk walk, Expansion.problems_walk walk, walks.sound placed⟩

/-- A story that comes through its hall twice, and from there back to its beginning. -/
def corridor : Files :=
  FileTree.files
    { root := ["story"]
      entries :=
        [(["main.bard"], .ok ":: Start\n@include rooms/hall.bard\n@include rooms/hall.bard\nEnd\n"),
          (["rooms", "hall.bard"], .ok "Hall\n@include ../main.bard\nDoor\n")] }

theorem corridor_faithful :
    corridor.canonical "main.bard" = .ok "/story/main.bard" ∧ ∃ text,
      corridor.read "/story/main.bard" = .ok text ∧ ∃ walk,
        Walks corridor ["/story/main.bard"] (.start "main.bard" (Files.parent "/story/main.bard"))
          (numberedLines text) walk ∧
        (expandFile corridor "main.bard").lines = walk.filterMap Visit.line? ∧
        (expandFile corridor "main.bard").problems = walk.filterMap Visit.problem? ∧
        ∀ v ∈ walk, v.Sound corridor := by
  have canonical : corridor.canonical "main.bard" = .ok "/story/main.bard" :=
    toOption_eq_some.mp (by decide +kernel)
  have read : corridor.read "/story/main.bard" =
      .ok ":: Start\n@include rooms/hall.bard\n@include rooms/hall.bard\nEnd\n" := rfl
  obtain ⟨walk, walks, _, lines, _, problems, sound⟩ := expandFile_faithful canonical read
  exact ⟨canonical, _, read, walk, walks, lines, problems, sound⟩

end BranchingStory.Source
