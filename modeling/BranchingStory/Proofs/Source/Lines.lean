import Mathlib.Tactic.Lemma
import BranchingStory.Source.Passages

/-!
# What lines make of passages

Reading lines changes the open passage by a few operations: a header starts it, and line breaks, lines
and statements are added to it. What these operations keep holds of all passages in the end. Statements
are those that the lines hold behind `~` and inside scripts.
-/

namespace BranchingStory.Source

open Text

/-- The text of a statement that lines hold, and the number of its line: what is behind a `~`, or a
statement of a script. -/
inductive Authored (all : List SourceLine) : List Char → Nat → Prop where
  | tilde {l lines first} :
    l :: lines <:+ all →
    trim l.text = '~' :: first →
    Authored all (joinOpen (trim first) lines).1 l.line
  | script {l lines at_ code} :
    l :: lines <:+ all →
    (at_, code) ∈ scriptStatements (takeScript lines).1 →
    Authored all code at_.line

/-- What holds of a passage from its header on, whatever is added to it. -/
structure Kept (all : List SourceLine) (P : Draft → Prop) : Prop where
  start {header p l} : readHeader header = .ok p → P (Draft.start p l)
  addBreak {d} : P d → P d.addBreak
  readLine {d d' l fault?} : P d → l ∈ all → d.readLine l = some (d', fault?) → P d'
  readStatement {d code line} : P d → Authored all code line → P (d.readStatement code line).1

/-- Whether something holds of all finished passages and of the open one. -/
structure Reading.All (P : Draft → Prop) (r : Reading) : Prop where
  done : ∀ d ∈ r.done, P d
  current : ∀ d, r.current? = some d → P d

lemma readMetadata_suffix (m : Metadata) (lines : List SourceLine) :
    (readMetadata m lines).2 <:+ lines := by
  fun_induction readMetadata m lines with
  | case1 => exact List.suffix_refl _
  | case2 _ _ _ _ ih => exact ih.trans (List.suffix_cons _ _)
  | case3 => exact List.suffix_refl _
  | case4 _ _ _ _ _ _ _ _ ih => exact ih.trans (List.suffix_cons _ _)
  | case5 => exact List.suffix_refl _

lemma joinOpen_suffix (code : List Char) (lines : List SourceLine) :
    (joinOpen code lines).2 <:+ lines := by
  fun_induction joinOpen code lines with
  | case1 => exact List.suffix_refl _
  | case2 _ _ _ _ ih => exact ih.trans (List.suffix_cons _ _)
  | case3 => exact List.suffix_refl _

lemma takeScript_suffix (lines : List SourceLine) : (takeScript lines).2.2 <:+ lines := by
  fun_induction takeScript lines with
  | case1 => exact List.suffix_refl _
  | case2 => exact List.suffix_cons _ _
  | case3 => exact List.suffix_refl _
  | case4 _ _ _ _ body closed rest taken ih =>
    rw [taken] at ih
    exact ih.trans (List.suffix_cons _ _)

namespace Reading

variable {all : List SourceLine} {P : Draft → Prop} {r : Reading}

lemma All.close (h : r.All P) : r.close.All P := by
  unfold Reading.close
  cases opened : r.current? with
  | none => exact ⟨h.done, h.current⟩
  | some d =>
    refine ⟨?_, nofun⟩
    intro d' member
    rcases List.mem_append.mp member with old | new
    · exact h.done d' old
    · rw [List.mem_singleton.mp new]
      exact h.current d opened

lemma All.report (h : r.All P) (l : SourceLine) (fault : Fault) : (r.report l fault).All P :=
  ⟨h.done, h.current⟩

lemma All.advance (h : r.All P) (l : SourceLine) {outcome : Draft × Option Fault} (new : P outcome.1) :
    (r.advance l outcome).All P := by
  have changed : Reading.All P { r with current? := some outcome.1 } := by
    refine ⟨h.done, ?_⟩
    intro d opened
    cases opened
    exact new
  unfold Reading.advance
  cases outcome.2 with
  | none => exact changed
  | some fault => exact changed.report l fault

lemma All.openPassage (kept : Kept all P) (h : r.All P) (l : SourceLine) (header : List Char) :
    (r.openPassage l header).All P := by
  unfold Reading.openPassage
  cases read : readHeader header with
  | error fault => exact h.close.report l fault
  | ok p =>
    refine ⟨h.close.done, ?_⟩
    intro d opened
    cases opened
    exact kept.start read

lemma All.declareStart (h : r.All P) (l : SourceLine) (arg : List Char) :
    (r.declareStart l arg).All P := by
  unfold Reading.declareStart
  simp only
  split
  · exact ⟨h.done, h.current⟩
  · exact h.report l _

lemma All.stray (h : r.All P) (l : SourceLine) : (r.stray l).All P := by
  unfold Reading.stray
  split
  · exact h
  · exact ⟨h.done, h.current⟩

lemma All.scriptEnds (h : r.All P) (l : SourceLine) (closed : Bool) :
    (r.scriptEnds l closed).All P := by
  unfold Reading.scriptEnds
  simp only
  split
  · split
    · exact h
    · exact h.report l _
  · split
    · exact h.report l _
    · exact (h.report l _).report l _

/-- The statements of a script go one after the other into the open passage. -/
lemma All.script (kept : Kept all P) {statements : List (SourceLine × List Char)}
    (authored : ∀ l code, (l, code) ∈ statements → Authored all code l.line) (h : r.All P) :
    (r.script statements).All P := by
  unfold Reading.script
  induction statements generalizing r with
  | nil => exact h
  | cons statement statements ih =>
    obtain ⟨l, code⟩ := statement
    refine ih (fun l code later => authored l code (List.mem_cons_of_mem _ later)) ?_
    cases opened : r.current? with
    | none =>
      simp only [opened]
      exact h
    | some d =>
      simp only [opened]
      exact h.advance l (kept.readStatement (h.current d opened) (authored l code List.mem_cons_self))

end Reading

/-- One step of reading lines: what is read behind a line and those that belong to it, and the lines that
follow. There is no result if the indentation of a block would cut a character in two. -/
def Reading.next (r : Reading) (l : SourceLine) (lines : List SourceLine) :
    Option (Reading × List SourceLine) :=
  let cs := trim l.text
  match dropFront? [':', ':'] cs with
  | some header => some (r.openPassage l header, lines)
  | none =>
    if cs.head? = some '#' then some (r, lines)
    else
      match directiveArg? "@start".toList cs with
      | some arg => some (r.declareStart l arg, lines)
      | none =>
        if cs = "@metadata".toList then
          let entries := readMetadata r.metadata lines
          some ({ r with metadata := entries.1 }, entries.2)
        else
          match r.current? with
          | none => some (r.stray l, lines)
          | some d =>
            if cs.isEmpty then some ({ r with current? := some d.addBreak }, lines)
            else if (dropFront? "@script".toList cs).isSome then
              let script := takeScript lines
              some ((r.scriptEnds l script.2.1).script (scriptStatements script.1), script.2.2)
            else
              match cs with
              | '~' :: first =>
                let joined := joinOpen (trim first) lines
                some (r.statement d l joined.1, joined.2)
              | _ => (d.readLine l).map fun outcome => (r.advance l outcome, lines)

/-- A header opens a passage. -/
lemma Reading.next_header (r : Reading) {l : SourceLine} {text : List Char} (lines : List SourceLine)
    (header : dropFront? [':', ':'] (trim l.text) = some text) :
    r.next l lines = some (r.openPassage l text, lines) := by
  unfold Reading.next
  simp only [header]

/-- Lines are read step by step. -/
lemma readLines_cons (r : Reading) (l : SourceLine) (lines : List SourceLine) :
    readLines r (l :: lines) = (r.next l lines).bind fun (r, lines) => readLines r lines := by
  rw [readLines]
  unfold Reading.next
  simp only
  cases dropFront? [':', ':'] (trim l.text) with
  | some header => rfl
  | none =>
    by_cases comment : (trim l.text).head? = some '#'
    · simp only [comment, if_true, Option.bind_some]
    · simp only [comment, if_false]
      cases directiveArg? "@start".toList (trim l.text) with
      | some arg => rfl
      | none =>
        by_cases metadata : trim l.text = "@metadata".toList
        · simp only [metadata, if_true, Option.bind_some]
        · simp only [metadata, if_false]
          cases r.current? with
          | none => rfl
          | some d =>
            by_cases empty : (trim l.text).isEmpty
            · simp only [empty, if_true, Option.bind_some]
            · by_cases script : (dropFront? "@script".toList (trim l.text)).isSome
              · simp only [empty, script, if_true, Bool.false_eq_true, if_false, Option.bind_some]
              · simp only [empty, script, Bool.false_eq_true, if_false]
                by_cases statement : ∃ first, trim l.text = '~' :: first
                · obtain ⟨first, tilde⟩ := statement
                  simp only [tilde, Option.bind_some]
                · have other (first : List Char) (tilde : trim l.text = '~' :: first) : False :=
                    statement ⟨first, tilde⟩
                  cases d.readLine l <;> simp only <;> rfl

/-- Some steps of reading lines: from a reading and lines to a later one and the lines that are left. -/
inductive Reads : Reading → List SourceLine → Reading → List SourceLine → Prop where
  | here {r lines} : Reads r lines r lines
  | step {r l lines r' lines' r'' rest} :
    r.next l lines = some (r', lines') →
    Reads r' lines' r'' rest →
    Reads r (l :: lines) r'' rest

section Steps

variable {all : List SourceLine} {P : Draft → Prop} {r r' : Reading} {l : SourceLine}
  {lines lines' : List SourceLine}

/-- A step takes a line, and perhaps more that belong to it. -/
lemma Reading.next_suffix (next : r.next l lines = some (r', lines')) : lines' <:+ lines := by
  unfold Reading.next at next
  simp only at next
  split at next
  · cases next
    exact List.suffix_refl _
  · split at next
    · cases next
      exact List.suffix_refl _
    · split at next
      · cases next
        exact List.suffix_refl _
      · split at next
        · cases next
          exact readMetadata_suffix _ _
        · split at next
          · cases next
            exact List.suffix_refl _
          · split at next
            · cases next
              exact List.suffix_refl _
            · split at next
              · cases next
                exact takeScript_suffix _
              · split at next
                · cases next
                  exact joinOpen_suffix _ _
                · obtain ⟨outcome, _, same⟩ := Option.map_eq_some_iff.mp next
                  cases same
                  exact List.suffix_refl _

/-- What is kept by all operations is kept by a step. -/
lemma Reading.next_keeps (kept : Kept all P) (suffix : l :: lines <:+ all) (h : r.All P)
    (next : r.next l lines = some (r', lines')) : r'.All P := by
  unfold Reading.next at next
  simp only at next
  split at next
  · cases next
    exact h.openPassage kept l _
  · split at next
    · cases next
      exact h
    · split at next
      · cases next
        exact h.declareStart l _
      · split at next
        · cases next
          exact ⟨h.done, h.current⟩
        · split at next
          · cases next
            exact h.stray l
          · next d opened =>
            split at next
            · cases next
              refine ⟨h.done, ?_⟩
              intro d' same
              cases same
              exact kept.addBreak (h.current d opened)
            · split at next
              · cases next
                exact (h.scriptEnds l _).script kept fun _ _ member => .script suffix member
              · split at next
                · next first tilde =>
                  cases next
                  exact h.advance l (kept.readStatement (h.current d opened) (.tilde suffix tilde))
                · obtain ⟨outcome, changed, same⟩ := Option.map_eq_some_iff.mp next
                  cases same
                  exact h.advance l
                    (kept.readLine (h.current d opened) (suffix.mem List.mem_cons_self) changed)

/-- What is kept by all operations is kept by all steps. -/
lemma Reads.keeps {rest : List SourceLine} (reads : Reads r lines r' rest) (kept : Kept all P)
    (suffix : lines <:+ all) (h : r.All P) : r'.All P ∧ rest <:+ all := by
  induction reads with
  | here => exact ⟨h, suffix⟩
  | step next _ ih =>
    exact ih ((Reading.next_suffix next).trans ((List.suffix_cons _ _).trans suffix))
      (Reading.next_keeps kept suffix h next)

/-- Behind some steps, the rest is read. -/
lemma Reads.readLines {rest : List SourceLine} (reads : Reads r lines r' rest) :
    readLines r lines = readLines r' rest := by
  induction reads with
  | here => rfl
  | step next _ ih =>
    rw [readLines_cons, next]
    exact ih

/-- Lines are read to their end, or up to one of which there is no reading. -/
theorem reads_or_stuck (r : Reading) (lines : List SourceLine) :
    (∃ r', Reads r lines r' [] ∧ readLines r lines = some r'.close) ∨
      ∃ r' l rest, Reads r lines r' (l :: rest) ∧ r'.next l rest = none ∧ readLines r lines = none := by
  induction size : lines.length using Nat.strongRecOn generalizing r lines with
  | _ n ih =>
    cases lines with
    | nil => exact .inl ⟨r, .here, by rw [readLines]⟩
    | cons l lines =>
      rw [readLines_cons]
      cases next : r.next l lines with
      | none => exact .inr ⟨r, l, lines, .here, next, rfl⟩
      | some result =>
        obtain ⟨r', lines'⟩ := result
        have shorter : lines'.length < n := by
          have taken := (Reading.next_suffix next).length_le
          rw [List.length_cons] at size
          omega
        rcases ih _ shorter r' lines' rfl with ⟨r'', reads, read⟩ | ⟨r'', l', rest, reads, stuck, read⟩
        · exact .inl ⟨r'', .step next reads, read⟩
        · exact .inr ⟨r'', l', rest, .step next reads, stuck, read⟩

/-- What is kept by all operations holds of all passages that lines make. -/
theorem readLines_keeps (kept : Kept all P) (suffix : lines <:+ all) (h : r.All P)
    (read : readLines r lines = some r') : r'.All P := by
  rcases reads_or_stuck r lines with ⟨r'', reads, same⟩ | ⟨_, _, _, _, _, stuck⟩
  · rw [same] at read
    cases read
    exact (reads.keeps kept suffix h).1.close
  · rw [stuck] at read
    cases read

end Steps

end BranchingStory.Source
