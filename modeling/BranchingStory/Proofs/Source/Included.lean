import Mathlib.Tactic.Lemma
import BranchingStory.Proofs.Answer
import BranchingStory.Source.Expand

/-!
# Walks through files

A source text is expanded by a walk through physical lines, depth first and in order: behind a line that
includes a file come the lines of that file, and then the walk goes on. Every text has exactly one walk, and
the expansion is what its lines bring. An included file is refused as a circle exactly if it is open, and any
other one that can be read is opened.
-/

namespace BranchingStory.Source

open Text

/-- What becomes of a physical line. -/
inductive Turn where
  /-- It is a line of the expansion. -/
  | kept
  /-- It is an import, which is taken out. -/
  | taken (answer : Except Fault (List Import))
  /-- The lines of a file stand in its place. -/
  | opened (file : Opened)
  | refused (fault : Fault)

def Turn.file? : Turn → Option Opened
  | .opened file => some file
  | _ => none

/-- What becomes of a line behind a position, with some files open. -/
def turnOf (files : Files) (stack : List String) (p : Position) (text : List Char) (number : Nat) : Turn :=
  match if p.inPassage then none else readImport? (trim text) number with
  | some answer => .taken answer
  | none =>
    match directiveArg? "@include".toList (trim text) with
    | none => .kept
    | some spec =>
      match openInclude files p.dir stack spec with
      | .error fault => .refused fault
      | .ok file => .opened file

/-- A physical line that a walk comes to. -/
structure Visit where
  /-- The open files, the innermost last. -/
  stack : List String
  position : Position
  text : List Char
  number : Nat
  turn : Turn

namespace Visit

/-- The line with the label of its file. -/
def line (v : Visit) : SourceLine :=
  ⟨v.position.label, v.number, v.text⟩

/-- The line that it adds to the expansion. -/
def line? (v : Visit) : Option SourceLine :=
  match v.turn with
  | .kept => some v.line
  | _ => none

/-- The imports that it adds: those of a line at the head of its file. -/
def imports (v : Visit) : List Import :=
  match v.turn with
  | .taken (.ok imports) => if v.position.inHead then imports else []
  | _ => []

def fault? (v : Visit) : Option Fault :=
  match v.turn with
  | .taken (.error fault) => some fault
  | .taken (.ok _) => if v.position.inHead then none else some .lateImport
  | .refused fault => some fault
  | _ => none

def problem? (v : Visit) : Option Problem :=
  v.fault?.map v.line.problem

/-- Whether it is a line that includes the file under a canonical path. -/
def Includes (files : Files) (v : Visit) (path : String) : Prop :=
  ∃ spec, directiveArg? "@include".toList (trim v.text) = some spec ∧ stripWhile isQuote spec ≠ [] ∧
    files.canonical (includePath v.position.dir spec) = .ok path

end Visit

/-- The position behind a line. -/
def Position.after (p : Position) (turn : Turn) (text : List Char) : Position :=
  match turn with
  | .taken _ => p
  | _ => p.pass (trim text)

/-- The walk through lines, with some files open. -/
inductive Walks (files : Files) :
    List String → Position → List (List Char × Nat) → List Visit → Prop where
  | done {stack p} :
    Walks files stack p [] []
  | stay {stack p text number turn lines visits} :
    turnOf files stack p text number = turn →
    turn.file? = none →
    Walks files stack (p.after turn text) lines visits →
    Walks files stack p ((text, number) :: lines) (⟨stack, p, text, number, turn⟩ :: visits)
  | enter {stack p text number file lines inside visits} :
    turnOf files stack p text number = .opened file →
    Walks files (stack ++ [file.path]) (.start file.label (Files.parent file.path))
      (numberedLines file.text) inside →
    Walks files stack (p.after (.opened file) text) lines visits →
    Walks files stack p ((text, number) :: lines)
      (⟨stack, p, text, number, .opened file⟩ :: (inside ++ visits))

/-- What a walk adds to what was expanded before. -/
def Expansion.walk (e : Expansion) (visits : List Visit) : Expansion :=
  { lines := e.lines ++ visits.filterMap Visit.line?
    imports := e.imports ++ visits.flatMap Visit.imports
    problems := e.problems ++ visits.filterMap Visit.problem? }

lemma Expansion.walk_nil (e : Expansion) : e.walk [] = e := by
  simp only [walk, List.filterMap_nil, List.flatMap_nil, List.append_nil]

lemma Expansion.lines_walk (visits : List Visit) : (empty.walk visits).lines = visits.filterMap Visit.line? :=
  List.nil_append _

lemma Expansion.imports_walk (visits : List Visit) :
    (empty.walk visits).imports = visits.flatMap Visit.imports :=
  List.nil_append _

lemma Expansion.problems_walk (visits : List Visit) :
    (empty.walk visits).problems = visits.filterMap Visit.problem? :=
  List.nil_append _

lemma Expansion.walk_append (e : Expansion) (first second : List Visit) :
    e.walk (first ++ second) = (e.walk first).walk second := by
  simp only [walk, List.filterMap_append, List.flatMap_append, List.append_assoc]

lemma Expansion.walk_cons (e : Expansion) (v : Visit) (visits : List Visit) :
    (e.walk [v]).walk visits = e.walk (v :: visits) :=
  (e.walk_append [v] visits).symm

section Expanding

variable {files : Files} {stack : List String} {p : Position} {text : List Char} {number : Nat}
  {lines : List (List Char × Nat)} {visits : List Visit}

lemma turnOf_taken {answer : Except Fault (List Import)}
    (read : (if p.inPassage then none else readImport? (trim text) number) = some answer) :
    turnOf files stack p text number = .taken answer := by
  unfold turnOf
  rw [read]

lemma turnOf_kept (read : (if p.inPassage then none else readImport? (trim text) number) = none)
    (plain : directiveArg? "@include".toList (trim text) = none) :
    turnOf files stack p text number = .kept := by
  unfold turnOf
  rw [read, plain]

lemma turnOf_include {spec : List Char}
    (read : (if p.inPassage then none else readImport? (trim text) number) = none)
    (included : directiveArg? "@include".toList (trim text) = some spec) :
    turnOf files stack p text number =
      match openInclude files p.dir stack spec with
      | .error fault => .refused fault
      | .ok file => .opened file := by
  unfold turnOf
  rw [read, included]

/-- An import adds what its turn says. -/
lemma Expansion.addImports_eq (e : Expansion) (stack : List String) (p : Position) (text : List Char)
    (number : Nat) (answer : Except Fault (List Import)) :
    e.addImports ⟨p.label, number, text⟩ p.inHead answer =
      e.walk [⟨stack, p, text, number, .taken answer⟩] := by
  unfold addImports walk
  cases answer with
  | error fault =>
    simp only [report, List.filterMap_cons, Visit.line?, Visit.problem?, Visit.fault?, Visit.imports,
      Option.map_some, List.filterMap_nil, List.flatMap_cons, List.flatMap_nil, List.append_nil]
    rfl
  | ok imports =>
    cases head : p.inHead with
    | true =>
      simp only [List.filterMap_cons, Visit.line?, Visit.problem?, Visit.fault?, Visit.imports, head,
        if_true, Option.map_none, List.filterMap_nil, List.flatMap_cons, List.flatMap_nil, List.append_nil]
    | false =>
      simp only [report, List.filterMap_cons, Visit.line?, Visit.problem?, Visit.fault?, Visit.imports, head,
        Bool.false_eq_true, if_false, Option.map_some, List.filterMap_nil, List.flatMap_cons,
        List.flatMap_nil, List.append_nil]
      rfl

lemma Expansion.keep_eq (e : Expansion) (stack : List String) (p : Position) (text : List Char)
    (number : Nat) :
    { e with lines := e.lines ++ [⟨p.label, number, text⟩] } = e.walk [⟨stack, p, text, number, .kept⟩] := by
  simp only [walk, List.filterMap_cons, Visit.line?, Visit.problem?, Visit.fault?, Visit.imports,
    Option.map_none, List.filterMap_nil, List.flatMap_cons, List.flatMap_nil, List.append_nil]
  rfl

lemma Expansion.refuse_eq (e : Expansion) (stack : List String) (p : Position) (text : List Char)
    (number : Nat) (fault : Fault) :
    e.report (SourceLine.problem ⟨p.label, number, text⟩ fault) =
      e.walk [⟨stack, p, text, number, .refused fault⟩] := by
  simp only [walk, report, List.filterMap_cons, Visit.line?, Visit.problem?, Visit.fault?, Visit.imports,
    Option.map_some, List.filterMap_nil, List.flatMap_cons, List.flatMap_nil, List.append_nil]
  rfl

lemma Expansion.open_eq (e : Expansion) (stack : List String) (p : Position) (text : List Char)
    (number : Nat) (file : Opened) : e.walk [⟨stack, p, text, number, .opened file⟩] = e := by
  simp only [walk, List.filterMap_cons, Visit.line?, Visit.problem?, Visit.fault?, Visit.imports,
    Option.map_none, List.filterMap_nil, List.flatMap_cons, List.flatMap_nil, List.append_nil]

/-- Lines are expanded by a walk through them. -/
theorem expandLines_walks (files : Files) (stack : List String) (p : Position) (e : Expansion)
    (lines : List (List Char × Nat)) :
    ∃ visits, Walks files stack p lines visits ∧ expandLines files stack p e lines = e.walk visits := by
  fun_induction expandLines files stack p e lines with
  | case1 stack p e => exact ⟨[], .done, e.walk_nil.symm⟩
  | case2 stack p e text number lines cs l answer read ih =>
    obtain ⟨visits, walks, expanded⟩ := ih
    refine ⟨_, .stay (turnOf_taken read) rfl walks, ?_⟩
    rw [expanded, e.addImports_eq stack, Expansion.walk_cons]
  | case3 stack p e text number lines cs l read plain ih =>
    obtain ⟨visits, walks, expanded⟩ := ih
    refine ⟨_, .stay (turnOf_kept read plain) rfl walks, ?_⟩
    rw [expanded, e.keep_eq stack, Expansion.walk_cons]
  | case4 stack p e text number lines cs l read spec included fault refused ih =>
    obtain ⟨visits, walks, expanded⟩ := ih
    have turn : turnOf files stack p text number = .refused fault := by
      rw [turnOf_include read included, refused]
    refine ⟨_, .stay turn rfl walks, ?_⟩
    rw [expanded, e.refuse_eq stack, Expansion.walk_cons]
  | case5 stack p e text number lines cs read spec included file found start e' inside _ later =>
    obtain ⟨inner, walksInside, expandedInside⟩ := inside
    obtain ⟨visits, walks, expanded⟩ := later
    have turn : turnOf files stack p text number = .opened file := by
      rw [turnOf_include read included, found]
    refine ⟨_, .enter turn walksInside walks, ?_⟩
    rw [expanded, show e' = e.walk inner from expandedInside, ← Expansion.walk_append, ← Expansion.walk_cons,
      e.open_eq stack]

/-- There is one walk only. -/
lemma Walks.unique {other : List Visit} (walks : Walks files stack p lines visits)
    (walks' : Walks files stack p lines other) : visits = other := by
  induction walks generalizing other with
  | done =>
    cases walks'
    rfl
  | stay turn stays _ ih =>
    cases walks' with
    | stay turn' _ later =>
      subst turn turn'
      rw [ih later]
    | enter turn' =>
      rw [turn'] at turn
      subst turn
      cases stays
  | enter turn _ _ inside later =>
    cases walks' with
    | stay turn' stays =>
      rw [turn] at turn'
      subst turn'
      cases stays
    | enter turn' inside' later' =>
      rw [turn] at turn'
      cases turn'
      rw [inside inside', later later']

/-- What holds of all visits of a walk: that which is so at its lines, and which the lines of each opened file
have if the line that includes it has it. -/
lemma Walks.all {P : List String → Position → List Char × Nat → Prop}
    (after : ∀ {stack p turn text entry}, P stack p entry → P stack (p.after turn text) entry)
    (opens : ∀ {stack p text number file}, P stack p (text, number) →
      turnOf files stack p text number = .opened file → ∀ entry ∈ numberedLines file.text,
        P (stack ++ [file.path]) (.start file.label (Files.parent file.path)) entry)
    (walks : Walks files stack p lines visits) (start : ∀ entry ∈ lines, P stack p entry) :
    ∀ v ∈ visits, P v.stack v.position (v.text, v.number) ∧
      v.turn = turnOf files v.stack v.position v.text v.number := by
  induction walks with
  | done => exact List.forall_mem_nil _
  | stay turn _ _ ih =>
    intro v member
    rcases List.mem_cons.mp member with rfl | later
    · exact ⟨start _ List.mem_cons_self, turn.symm⟩
    · exact ih (fun entry behind => after (start entry (List.mem_cons_of_mem _ behind))) v later
  | enter turn _ _ inside later =>
    intro v member
    rcases List.mem_cons.mp member with rfl | member
    · exact ⟨start _ List.mem_cons_self, turn.symm⟩
    · rcases List.mem_append.mp member with inner | behind
      · exact inside (opens (start _ List.mem_cons_self) turn) v inner
      · exact later (fun entry behind => after (start entry (List.mem_cons_of_mem _ behind))) v behind

end Expanding

section Opening

variable {files : Files} {dir : String} {stack : List String} {spec : List Char}

/-- What opening a file comes to. -/
lemma openInclude_eq (path : stripWhile isQuote spec ≠ []) :
    openInclude files dir stack spec =
      match files.canonical (includePath dir spec) with
      | .error _ => .error (.includeMissing (includePath dir spec))
      | .ok path =>
        if path ∈ stack then .error (.includeCycle (stack ++ [path]))
        else
          match files.read path with
          | .error reason => .error (.includeUnreadable (includePath dir spec) reason)
          | .ok text => .ok ⟨path, includePath dir spec, text⟩ := by
  have named : (stripWhile isQuote spec).isEmpty = false := List.isEmpty_eq_false_iff.mpr path
  unfold openInclude
  simp only [named, Bool.false_eq_true, if_false]
  cases files.canonical (includePath dir spec) with
  | error reason => rfl
  | ok path =>
    by_cases isOpen : path ∈ stack
    · simp only [isOpen, if_true]
      rfl
    · simp only [isOpen, if_false]
      cases files.read path <;> rfl

lemma openInclude_unnamed (none : stripWhile isQuote spec = []) :
    openInclude files dir stack spec = .error .includeWithoutPath := by
  unfold openInclude
  rw [none]
  rfl

/-- An opened file was named by its canonical path and is not open. -/
lemma openInclude_eq_ok {file : Opened} (opened : openInclude files dir stack spec = .ok file) :
    files.canonical file.label = .ok file.path ∧ files.read file.path = .ok file.text ∧
      file.path ∉ stack := by
  by_cases path : stripWhile isQuote spec = []
  · rw [openInclude_unnamed path] at opened
    cases opened
  · rw [openInclude_eq path] at opened
    split at opened
    · cases opened
    · next path canonical =>
      split at opened
      · cases opened
      · next closed =>
        split at opened
        · cases opened
        · next text read =>
          cases opened
          exact ⟨canonical, read, closed⟩

/-- A file is refused as a circle exactly if it is open. -/
lemma openInclude_cycle {chain : List String} :
    openInclude files dir stack spec = .error (.includeCycle chain) ↔
      stripWhile isQuote spec ≠ [] ∧ ∃ path, files.canonical (includePath dir spec) = .ok path ∧
        path ∈ stack ∧ chain = stack ++ [path] := by
  by_cases named : stripWhile isQuote spec = []
  · rw [openInclude_unnamed named]
    exact ⟨nofun, fun ⟨other, _⟩ => (other named).elim⟩
  · rw [openInclude_eq named]
    cases canonical : files.canonical (includePath dir spec) with
    | error reason => exact ⟨nofun, nofun⟩
    | ok path =>
      by_cases isOpen : path ∈ stack
      · simp only [isOpen, if_true]
        constructor
        · intro same
          cases same
          exact ⟨named, path, rfl, isOpen, rfl⟩
        · rintro ⟨_, _, same, _, rfl⟩
          cases same
          rfl
      · simp only [isOpen, if_false]
        constructor
        · intro refused
          split at refused <;> cases refused
        · rintro ⟨_, _, same, other, _⟩
          cases same
          exact (isOpen other).elim

end Opening

/-- A line that includes a file is no import. -/
lemma readImport?_of_include {cs spec : List Char} (included : directiveArg? "@include".toList cs = some spec)
    (number : Nat) : readImport? cs number = none := by
  cases cs with
  | nil => cases included
  | cons c cs =>
    by_cases mark : c = '@'
    · subst mark
      rfl
    · have missed : dropFront? "@include".toList (c :: cs) = none := by
        rw [show "@include".toList = '@' :: "include".toList from rfl, dropFront?, if_neg (Ne.symm mark)]
      unfold directiveArg? at included
      rw [missed] at included
      cases included

section Imports

variable {line : Nat} {fault : Fault}

lemma readModules_kind {items : List (List Char)} (refused : readModules line items = .error fault) :
    fault.kind = .imports := by
  induction items with
  | nil => cases refused
  | cons item items ih =>
    unfold readModules at refused
    rcases check_refused.mp refused with ⟨_, rfl⟩ | ⟨_, refused⟩
    · rfl
    · rcases bind_refused.mp refused with later | ⟨_, _, never⟩
      · exact ih later
      · cases never

lemma readImportName_kind {item : List Char} (refused : readImportName item = .error fault) :
    fault.kind = .imports := by
  unfold readImportName at refused
  split at refused
  · split at refused <;> cases refused
    rfl
  · split at refused <;> cases refused
    rfl
  · cases refused
    rfl

lemma readNames_kind {module names : List Char} (refused : readNames module names line = .error fault) :
    fault.kind = .imports := by
  unfold readNames at refused
  rcases check_refused.mp refused with ⟨_, rfl⟩ | ⟨_, refused⟩
  · rfl
  · rcases bind_refused.mp refused with name | ⟨taken, _, refused⟩
    · obtain ⟨item, _, refused⟩ := mapM_refused name
      exact readImportName_kind refused
    · rcases check_refused.mp refused with ⟨_, rfl⟩ | ⟨_, never⟩
      · rfl
      · cases never

/-- What is wrong with an import line is about imports. -/
lemma readImport?_kind {cs : List Char} (refused : readImport? cs line = some (.error fault)) :
    fault.kind = .imports := by
  unfold readImport? at refused
  split at refused
  · exact readModules_kind (Option.some.inj refused)
  · split at refused
    · exact readNames_kind (Option.some.inj refused)
    · cases refused

end Imports

section Turns

variable {files : Files} {v : Visit} (own : v.turn = turnOf files v.stack v.position v.text v.number)

include own

lemma Visit.turn_of_include {spec : List Char}
    (included : directiveArg? "@include".toList (trim v.text) = some spec) :
    v.turn =
      match openInclude files v.position.dir v.stack spec with
      | .error fault => .refused fault
      | .ok file => .opened file := by
  rw [own]
  refine turnOf_include ?_ included
  rw [readImport?_of_include included]
  exact ite_self none

/-- A fault is one of an import, or that of a file which cannot be opened. -/
lemma Visit.kind_or_refused {fault : Fault} (found : v.fault? = some fault) :
    fault.kind = .imports ∨ ∃ spec, directiveArg? "@include".toList (trim v.text) = some spec ∧
      openInclude files v.position.dir v.stack spec = .error fault := by
  unfold fault? at found
  cases read : (if v.position.inPassage then none else readImport? (trim v.text) v.number) with
  | some answer =>
    rw [own, turnOf_taken read] at found
    left
    cases answer with
    | error refusal =>
      cases found
      split at read
      · cases read
      · exact readImport?_kind read
    | ok imports =>
      simp only [Option.ite_none_left_eq_some] at found
      cases found.2
      rfl
  | none =>
    cases included : directiveArg? "@include".toList (trim v.text) with
    | none =>
      rw [own, turnOf_kept read included] at found
      cases found
    | some spec =>
      rw [own, turnOf_include read included] at found
      cases opened : openInclude files v.position.dir v.stack spec with
      | error refusal =>
        rw [opened] at found
        cases found
        exact .inr ⟨spec, rfl, opened⟩
      | ok file =>
        rw [opened] at found
        cases found

/-- A line is refused for a circle exactly if it includes a file that is open there. -/
lemma Visit.cycle_iff {chain : List String} :
    v.fault? = some (.includeCycle chain) ↔
      ∃ path, v.Includes files path ∧ path ∈ v.stack ∧ chain = v.stack ++ [path] := by
  constructor
  · intro found
    rcases v.kind_or_refused own found with imports | ⟨spec, included, refused⟩
    · cases imports
    · obtain ⟨named, path, canonical, isOpen, same⟩ := openInclude_cycle.mp refused
      exact ⟨path, ⟨spec, included, named, canonical⟩, isOpen, same⟩
  · rintro ⟨path, ⟨spec, included, named, canonical⟩, isOpen, same⟩
    have refused := openInclude_cycle.mpr ⟨named, path, canonical, isOpen, same⟩
    have turn := v.turn_of_include own included
    rw [refused] at turn
    unfold fault?
    rw [turn]

/-- A file that is not open is opened. -/
lemma Visit.opens {path text : String} (includes : v.Includes files path) (closed : path ∉ v.stack)
    (read : files.read path = .ok text) :
    ∃ label, v.turn = .opened ⟨path, label, text⟩ ∧ files.canonical label = .ok path := by
  obtain ⟨spec, included, named, canonical⟩ := includes
  refine ⟨includePath v.position.dir spec, ?_, canonical⟩
  rw [v.turn_of_include own included, openInclude_eq named, canonical]
  simp only [closed, if_false, read]

end Turns

end BranchingStory.Source
