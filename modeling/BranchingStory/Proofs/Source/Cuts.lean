import Mathlib.Data.List.Basic
import BranchingStory.Proofs.Source.Balanced
import BranchingStory.Proofs.Source.Lines
import BranchingStory.Proofs.Source.Slices

/-!
# Where compiling cuts a line by the bytes of another

One cut is not at a place that was found in the text: a line of text in a block loses as many bytes as the
first line of text in this block is indented by, or all its indentation if it has less. Compiling a source
has a result exactly if all these cuts fall between characters.
-/

namespace BranchingStory.Source

open Text

/-- Whether a line is read as text in a passage: it is not blank, and no header, comment, statement,
directive, jump or choice. -/
def SourceLine.isProse (l : SourceLine) : Bool :=
  let cs := trim l.text
  cs.head?.any (fun c => c != '#' && c != '~' && c != '@') && (dropFront? [':', ':'] cs).isNone &&
    (dropFront? ['-', '>'] cs).isNone && (Draft.choiceMark? cs).isNone

section Steps

variable {r : Reading} {d : Draft} {l : SourceLine} {lines : List SourceLine}

lemma SourceLine.isProse_iff {c : Char} {cs : List Char} (text : trim l.text = c :: cs) :
    l.isProse ↔ (c ≠ '#' ∧ c ≠ '~' ∧ c ≠ '@') ∧ dropFront? [':', ':'] (c :: cs) = none ∧
      dropFront? ['-', '>'] (c :: cs) = none ∧ Draft.choiceMark? (c :: cs) = none := by
  unfold SourceLine.isProse
  simp only [text, List.head?_cons, Option.any_some, Bool.and_eq_true, bne_iff_ne, ne_eq,
    Option.isNone_iff_eq_none, and_assoc]

/-- A line of text loses the indentation of its block and is read. -/
lemma Reading.next_prose (opened : r.current? = some d) (prose : l.isProse) :
    r.next l lines = (d.dedent l.text).map fun (text, d) =>
      (r.advance l (d.settle (d.addText text)), lines) := by
  cases text : trim l.text with
  | nil =>
    unfold SourceLine.isProse at prose
    rw [text] at prose
    cases prose
  | cons c cs =>
    obtain ⟨⟨noComment, noTilde, noMark⟩, noHeader, noJump, noChoice⟩ :=
      (SourceLine.isProse_iff text).mp prose
    have noStart : directiveArg? "@start".toList (c :: cs) = none := by
      unfold directiveArg?
      rw [show "@start".toList = '@' :: "start".toList from rfl, dropFront?_of_head (Ne.symm noMark)]
    have noMetadata : c :: cs ≠ "@metadata".toList := fun same => noMark (List.cons.inj same).1
    have noScript : dropFront? "@script".toList (c :: cs) = none := by
      rw [show "@script".toList = '@' :: "script".toList from rfl, dropFront?_of_head (Ne.symm noMark)]
    unfold Reading.next
    simp only [text, noHeader, List.head?_cons, Option.some.injEq, noComment, noStart, noMetadata, noScript,
      opened, List.isEmpty_cons, Option.isSome_none, Bool.false_eq_true, if_false]
    have read : d.readLine l = (d.dedent l.text).map fun (text, d) => d.settle (d.addText text) := by
      unfold Draft.readLine
      simp only [text, noJump, noChoice]
      split
      · next same => exact (noMark (List.cons.inj same).1).elim
      · next jump _ => cases jump
      · next mark _ => cases mark
      · rfl
    split
    · next same => exact (noTilde (List.cons.inj same).1).elim
    · rw [read, Option.map_map]
      rfl

/-- A step has no result only at a line of text whose indentation cannot be cut off. -/
lemma Reading.next_eq_none (stuck : r.next l lines = none) :
    ∃ d, r.current? = some d ∧ l.isProse ∧ d.dedent l.text = none := by
  unfold Reading.next at stuck
  simp only at stuck
  split at stuck
  · cases stuck
  · next noHeader =>
    split at stuck
    · cases stuck
    · next noComment =>
      split at stuck
      · cases stuck
      · split at stuck
        · cases stuck
        · split at stuck
          · cases stuck
          · next d opened =>
            split at stuck
            · cases stuck
            · next full =>
              split at stuck
              · cases stuck
              · split at stuck
                · cases stuck
                · next noTilde =>
                  rw [Option.map_eq_none_iff] at stuck
                  unfold Draft.readLine at stuck
                  simp only at stuck
                  split at stuck
                  · cases stuck
                  · cases stuck
                  · cases stuck
                  · next noJump noChoice noMark =>
                    rw [Option.map_eq_none_iff] at stuck
                    refine ⟨d, opened, ?_, stuck⟩
                    cases text : trim l.text with
                    | nil => exact (full (by rw [text]; rfl)).elim
                    | cons c cs =>
                      rw [text] at noHeader noComment noTilde noMark noJump noChoice
                      refine (SourceLine.isProse_iff text).mpr ⟨⟨?_, ?_, ?_⟩, noHeader, noJump, noChoice⟩
                      · rintro rfl
                        exact noComment rfl
                      · rintro rfl
                        exact noTilde cs rfl
                      · rintro rfl
                        exact noMark cs rfl

/-- In a block, a line loses as many bytes as the block is indented by, or all its indentation. -/
lemma Draft.dedent_eq_none (text : List Char) :
    d.dedent text = none ↔ ∃ block stack, d.stack = block :: stack ∧
      ¬Boundary (min (byteLength (indentation text))
        (block.indent?.getD (byteLength (indentation text)))) text := by
  unfold Draft.dedent
  cases d.stack with
  | nil => exact ⟨nofun, fun ⟨_, _, same, _⟩ => by cases same⟩
  | cons block stack =>
    simp only [Option.map_eq_none_iff, List.cons.injEq, ← isSome_dropBytes, Option.not_isSome_iff_eq_none]
    constructor
    · intro torn
      exact ⟨block, stack, ⟨rfl, rfl⟩, torn⟩
    · rintro ⟨_, _, ⟨rfl, rfl⟩, torn⟩
      exact torn

end Steps

/-- Whether reading lines comes to a line of text in a block with a certain indentation: that which the
block has by its first line of text, or that of the line itself. -/
inductive Dedents (lines : List SourceLine) : SourceLine → Nat → Prop where
  | reach {r l rest d block stack} :
    Reads Reading.empty lines r (l :: rest) →
    r.current? = some d →
    l.isProse →
    d.stack = block :: stack →
    Dedents lines l (block.indent?.getD l.margin)

/-- Reading lines has a result exactly if at every line of text the indentation of its block ends between
characters of the line. -/
theorem readLines_isSome_iff (lines : List SourceLine) :
    (readLines Reading.empty lines).isSome ↔
      ∀ l base, Dedents lines l base → Boundary (min l.margin base) l.text := by
  constructor
  · intro read l base dedents
    obtain ⟨reads, opened, prose, stack⟩ := dedents
    refine Classical.byContradiction fun torn => ?_
    have stuck := (Draft.dedent_eq_none l.text).mpr ⟨_, _, stack, torn⟩
    rw [reads.readLines, readLines_cons, Reading.next_prose opened prose, stuck] at read
    cases read
  · intro whole
    rcases reads_or_stuck Reading.empty lines with ⟨r, _, read⟩ | ⟨r, l, rest, reads, stuck, _⟩
    · rw [read]
      rfl
    · obtain ⟨d, opened, prose, torn⟩ := Reading.next_eq_none stuck
      obtain ⟨block, stack, opens, torn⟩ := (Draft.dedent_eq_none l.text).mp torn
      exact (torn (whole l _ (.reach reads opened prose opens))).elim

section Indentations

namespace Draft

/-- Whether all indentations of open blocks were set before. -/
def SetBefore (d d' : Draft) : Prop :=
  ∀ n, some n ∈ d'.indents → some n ∈ d.indents

variable {d d' : Draft}

lemma SetBefore.of_eq (same : d'.indents = d.indents) : d.SetBefore d' :=
  fun n inside => by rwa [same] at inside

lemma SetBefore.openBlock (d : Draft) (line : Nat) (form : BlockForm) :
    d.SetBefore (d.openBlock line form) := by
  intro n inside
  rcases List.mem_cons.mp inside with new | old
  · cases new
  · exact old

lemma SetBefore.addBranch {condition? : Option String} {afterElse outside : Fault}
    (h : d.addBranch condition? afterElse outside = .ok d') : d.SetBefore d' := by
  have same : (d.settle (d.addBranch condition? afterElse outside)).1.indents = d.indents :=
    d.indents_addBranch
  rw [h] at same
  exact .of_eq same

lemma SetBefore.closeBlock {kind : BlockKind} {rest : List Char} (h : d.closeBlock kind rest = .ok d') :
    d.SetBefore d' := by
  unfold Draft.closeBlock at h
  simp only at h
  split at h
  · split at h <;> cases h
  · split at h
    · cases h
    · next block stack opened =>
      simp only [check_eq_ok, pure_eq_ok] at h
      obtain ⟨_, rfl⟩ := h
      intro n inside
      rw [indents_addItems] at inside
      simp only [indents, opened]
      exact List.mem_cons_of_mem _ inside

lemma SetBefore.addText {text : List Char} (h : d.addText text = .ok d') : d.SetBefore d' := by
  refine .of_eq ?_
  unfold Draft.addText at h
  simp only at h
  split at h
  · cases h
    rfl
  · split at h <;>
    · simp only [bind_eq_ok, pure_eq_ok] at h
      obtain ⟨items, _, rfl⟩ := h
      simp only [addBreak, indents_addItems]

lemma SetBefore.addJump {cs : List Char} {line : Nat} (h : d.addJump cs line = .ok d') :
    d.SetBefore d' := by
  unfold Draft.addJump at h
  simp only [bind_eq_ok, check_eq_ok, pure_eq_ok] at h
  obtain ⟨_, _, _, rfl⟩ := h
  exact .of_eq (d.indents_addItems _)

lemma indents_addChoice (d : Draft) (c : Choice) : (d.addChoice c).indents = d.indents := by
  obtain ⟨p, header, stack, count⟩ := d
  cases stack <;> rfl

lemma SetBefore.readChoice {cs : List Char} {oneShot : Bool} {line : Nat}
    (h : d.readChoice cs oneShot line = .ok d') : d.SetBefore d' := by
  unfold Draft.readChoice at h
  simp only [bind_eq_ok] at h
  obtain ⟨_, _, _, _, h⟩ := h
  split at h
  · split at h
    · cases h
    · simp only [bind_eq_ok] at h
      obtain ⟨_, _, h⟩ := h
      split at h
      · cases h
      · simp only [bind_eq_ok, check_eq_ok, pure_eq_ok] at h
        obtain ⟨_, _, _, rfl⟩ := h
        exact .of_eq (indents_addChoice d _)
  · cases h

lemma SetBefore.obey {cs : List Char} {line : Nat} (h : d.obey cs line = .ok d') : d.SetBefore d' := by
  unfold Draft.obey at h
  simp only at h
  split at h
  · simp only [bind_eq_ok, pure_eq_ok] at h
    obtain ⟨_, _, rfl⟩ := h
    exact .openBlock d _ _
  · simp only [bind_eq_ok] at h
    obtain ⟨_, _, added⟩ := h
    exact .addBranch added
  · simp only [check_eq_ok] at h
    exact .addBranch h.2
  · exact .closeBlock h
  · exact .closeBlock h
  · simp only [bind_eq_ok, pure_eq_ok] at h
    obtain ⟨_, _, rfl⟩ := h
    exact .openBlock d _ _
  · simp only [bind_eq_ok, pure_eq_ok] at h
    obtain ⟨_, _, rfl⟩ := h
    exact .of_eq (d.indents_addItems _)
  · simp only [bind_eq_ok, pure_eq_ok] at h
    obtain ⟨_, _, rfl⟩ := h
    exact .of_eq (d.indents_addItems _)
  · cases h
  · cases h

/-- A line sets no indentation but that of a line of text. -/
lemma readLine_sets {l : SourceLine} {fault? : Option Fault} (h : d.readLine l = some (d', fault?)) :
    ∀ n, some n ∈ d'.indents → some n ∈ d.indents ∨ l.margin = n := by
  have settled {step : Except Fault Draft} {start : Draft} (ok : ∀ d', step = .ok d' → start.SetBefore d')
      (same : start.settle step = (d', fault?)) : start.SetBefore d' := by
    cases step with
    | error fault =>
      cases same
      exact .of_eq rfl
    | ok _ =>
      cases same
      exact ok _ rfl
  unfold readLine at h
  simp only at h
  split at h
  · exact fun n inside => .inl (settled (fun _ => .obey) (Option.some.inj h) n inside)
  · exact fun n inside => .inl (settled (fun _ => .addJump) (Option.some.inj h) n inside)
  · exact fun n inside => .inl (settled (fun _ => .readChoice) (Option.some.inj h) n inside)
  · simp only [Option.map_eq_some_iff] at h
    obtain ⟨⟨text, dedented⟩, cut, same⟩ := h
    intro n inside
    have before := settled (fun _ => .addText) same n inside
    rcases dedent_eq_some cut with ⟨_, _, rfl⟩ | ⟨block, stack, base, opened, measured, _, rfl⟩
    · exact .inl before
    · rcases List.mem_cons.mp before with here | outer
      · cases here
        cases set : block.indent? with
        | none =>
          rw [set] at measured
          exact .inr measured.symm
        | some n =>
          rw [set] at measured
          refine .inl ?_
          rw [indents, opened, measured]
          exact List.mem_cons.mpr (.inl set.symm)
      · left
        rw [indents, opened]
        exact List.mem_cons_of_mem _ outer

end Draft

/-- The indentation of an open block is that of a line. -/
lemma kept_margins (all : List SourceLine) :
    Kept all fun d => ∀ n, some n ∈ d.indents → ∃ m ∈ all, m.margin = n := by
  constructor
  case start =>
    intro header p l _
    exact nofun
  case addBreak =>
    intro d before n inside
    rw [Draft.addBreak, Draft.indents_addItems] at inside
    exact before n inside
  case readLine =>
    intro d d' l fault? before member read n inside
    rcases Draft.readLine_sets read n inside with old | own
    · exact before n old
    · exact ⟨l, member, own⟩
  case readStatement =>
    intro d code line before _ n inside
    unfold Draft.readStatement at inside
    cases read : readCommand code line with
    | error fault =>
      rw [read] at inside
      exact before n inside
    | ok c =>
      rw [read] at inside
      exact before n (Draft.SetBefore.of_eq (d.indents_add (.command c)) n inside)

lemma Dedents.measured {lines : List SourceLine} {l : SourceLine} {base : Nat}
    (dedents : Dedents lines l base) : l ∈ lines ∧ ∃ m ∈ lines, m.margin = base := by
  obtain ⟨reads, opened, prose, stack⟩ := dedents
  rename_i rest d block stack'
  obtain ⟨kept, suffix⟩ := reads.keeps (kept_margins lines) (List.suffix_refl _) ⟨nofun, nofun⟩
  have member : l ∈ lines := suffix.mem List.mem_cons_self
  refine ⟨member, ?_⟩
  cases set : block.indent? with
  | none => exact ⟨l, member, rfl⟩
  | some n =>
    refine kept.current d opened n ?_
    rw [Draft.indents, stack]
    exact List.mem_cons.mpr (.inl set.symm)

end Indentations

/-- Compiling cuts no character in two but where it says so: all scanners take slices of the texts that they
scan, and the only other cut, which takes the indentation of its block off a line of text, is measured on
a line of the same source. So there is a story or a list of problems exactly if at every such line the
smaller of both indentations ends between characters of the line. -/
theorem compiles_iff (e : Expansion) :
    (∀ cs, CutsWhole cs) ∧
      (∀ l base, Dedents e.lines l base → l ∈ e.lines ∧ ∃ m ∈ e.lines, m.margin = base) ∧
      ((Compilation.ofExpansion e).isSome ↔
        ∀ l base, Dedents e.lines l base → Boundary (min l.margin base) l.text) := by
  refine ⟨cutsWhole, fun l base => Dedents.measured, ?_⟩
  rw [← readLines_isSome_iff]
  unfold Compilation.ofExpansion
  rw [Option.isSome_map]

/-- The lines of an open loop whose second line of text is indented by a no-break space, of two bytes. -/
def clippedLines : Expansion :=
  ⟨[⟨inlineLabel, 1, ":: Start".toList⟩, ⟨inlineLabel, 2, "@for x in [1]:".toList⟩,
    ⟨inlineLabel, 3, " a".toList⟩, ⟨inlineLabel, 4, "\u00a0b".toList⟩], [], []⟩

/-- The indentation of this loop ends inside the no-break space, and nothing comes of the source. -/
theorem clipped_is_not_compiled :
    clippedLines = expandText ⟨fun _ => .error Files.missing, []⟩
        ":: Start\n@for x in [1]:\n a\n\u00a0b\n" ∧
      (Compilation.ofExpansion clippedLines).isNone ∧ (Draft.dropBytes 1 "\u00a0b".toList).isNone := by
  refine ⟨by cbv, by decide +kernel, by decide +kernel⟩

lemma boundary_of_narrow {n : Nat} {text : List Char} (narrow : ∀ c ∈ indentation text, c.utf8Size = 1)
    (inside : n ≤ byteLength (indentation text)) : Boundary n text := by
  have bytes {cs : List Char} (narrow : ∀ c ∈ cs, c.utf8Size = 1) : byteLength cs = cs.length := by
    induction cs with
    | nil => rfl
    | cons c cs ih =>
      rw [byteLength, narrow c List.mem_cons_self, ih fun c later => narrow c (List.mem_cons_of_mem _ later),
        List.length_cons, Nat.add_comm]
  rw [bytes narrow] at inside
  refine ⟨(indentation text).take n, (indentation text).drop n ++ text.dropWhile isBlank, ?_, ?_⟩
  · rw [← List.append_assoc, List.take_append_drop]
    exact (List.takeWhile_append_dropWhile (p := isBlank) (l := text)).symm
  · rw [bytes fun c member => narrow c (List.mem_of_mem_take member), List.length_take]
    omega

/-- A source that is indented with blanks and tabs alone, or with other characters of one byte, always
turns into a story or a list of problems. -/
theorem compiles_of_narrow {e : Expansion}
    (narrow : ∀ l ∈ e.lines, ∀ c ∈ indentation l.text, c.utf8Size = 1) :
    (Compilation.ofExpansion e).isSome := by
  have read : (readLines Reading.empty e.lines).isSome := by
    rw [readLines_isSome_iff]
    intro l base dedents
    exact boundary_of_narrow (narrow l dedents.measured.1) (Nat.min_le_left _ _)
  unfold Compilation.ofExpansion
  rwa [Option.isSome_map]

end BranchingStory.Source
