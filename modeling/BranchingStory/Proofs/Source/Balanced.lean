import BranchingStory.Proofs.Source.Nesting
import BranchingStory.Source.Compile

/-!
# Balanced passages

The lines of a passage are read without a fault if and only if all blocks are closed in them, and then
they make what they denote.
-/

namespace BranchingStory.Source

open Text

section Unfinished

lemma Body.append {ls ms : List SourceLine} {ns ns' : List Node} :
    Body ls ns → Body ms ns' → Body (ls ++ ms) (ns ++ ns')
  | .nil, behind => behind
  | .text valid more, behind => .text valid (more.append behind)
  | .adds valid more, behind => .adds valid (more.append behind)
  | .cond inner closes more, behind => by
    rw [List.append_assoc]
    exact .cond inner closes (more.append behind)
  | .loop opens inner closes more, behind => by
    rw [List.append_assoc]
    exact .loop opens inner closes (more.append behind)

/-- The lines of the last branch of a conditional can go on. -/
lemma Cond.append {ls ms : List SourceLine} {limbs : List Limb} {otherwise? : Option (List Node)}
    {ns : List Node} (h : Cond ls limbs otherwise?) (behind : Body ms ns) :
    ∃ limbs' otherwise?', Cond (ls ++ ms) limbs' otherwise?' ∧
      otherwise?'.isSome = otherwise?.isSome := by
  cases h with
  | first opens inner => exact ⟨_, _, .first opens (inner.append behind), rfl⟩
  | elif before opens inner =>
    rw [List.append_assoc, List.cons_append]
    exact ⟨_, _, .elif before opens (inner.append behind), rfl⟩
  | otherwise before opens inner =>
    rw [List.append_assoc, List.cons_append]
    exact ⟨_, _, .otherwise before opens (inner.append behind), rfl⟩

/-- Lines in which blocks are left open: those of the outer blocks, and then the lines of the innermost
one so far. -/
inductive Unfinished : List SourceLine → List Opening → Prop where
  | body {ls ns} :
    Body ls ns →
    Unfinished ls []
  | cond {outer os block limbs otherwise?} (line : Nat) :
    Unfinished outer os →
    Cond block limbs otherwise? →
    Unfinished (outer ++ block) (⟨line, .cond, otherwise?.isSome⟩ :: os)
  | loop {outer os opener vars collection inner ns} (line : Nat) (hasElse : Bool) :
    Unfinished outer os →
    opener.role? = some (.loop vars collection) →
    Body inner ns →
    Unfinished (outer ++ opener :: inner) (⟨line, .loop, hasElse⟩ :: os)

variable {ls ms : List SourceLine} {ns : List Node} {os : List Opening}

lemma Unfinished.append (h : Unfinished ls os) (behind : Body ms ns) : Unfinished (ls ++ ms) os := by
  cases h with
  | body before => exact .body (before.append behind)
  | cond line outer block =>
    obtain ⟨limbs, otherwise?, block, same⟩ := block.append behind
    rw [List.append_assoc, ← same]
    exact .cond line outer block
  | loop line hasElse outer opens inner =>
    rw [List.append_assoc, List.cons_append]
    exact .loop line hasElse outer opens (inner.append behind)

/-- The innermost open block is a conditional with the lines behind its opener. -/
lemma Unfinished.inCond {line : Nat} {hasElse : Bool}
    (h : Unfinished ls (⟨line, .cond, hasElse⟩ :: os)) :
    ∃ outer block limbs otherwise?, ls = outer ++ block ∧ Unfinished outer os ∧
      Cond block limbs otherwise? ∧ otherwise?.isSome = hasElse := by
  cases h with
  | cond _ outer block => exact ⟨_, _, _, _, rfl, outer, block, rfl⟩

/-- A line that stands in the right place goes on with unfinished lines. -/
lemma Unfinished.line {l : SourceLine} {role : Role} {os' : List Opening} (h : Unfinished ls os)
    (valid : l.role? = some role) (after : role.after l.line os = some os') :
    Unfinished (ls ++ [l]) os' := by
  cases role with
  | text =>
    cases after
    exact h.append (.text valid .nil)
  | adds entry =>
    cases after
    exact h.append (.adds valid .nil)
  | cond condition =>
    cases after
    exact .cond l.line h (.first valid .nil)
  | loop vars collection =>
    cases after
    exact .loop l.line false h valid .nil
  | elif condition =>
    rcases os with _ | ⟨⟨line, _ | _, _ | _⟩, os⟩ <;> cases after
    obtain ⟨outer, block, limbs, _ | _, rfl, before, inner, same⟩ := h.inCond <;> cases same
    rw [List.append_assoc]
    exact .cond line before (.elif inner valid .nil)
  | otherwise =>
    rcases os with _ | ⟨⟨line, _ | _, _ | _⟩, os⟩ <;> cases after
    obtain ⟨outer, block, limbs, _ | _, rfl, before, inner, same⟩ := h.inCond <;> cases same
    rw [List.append_assoc]
    exact .cond line before (.otherwise inner valid .nil)
  | endCond =>
    rcases os with _ | ⟨⟨line, _ | _, hasElse⟩, os⟩ <;> cases after
    cases h with
    | cond _ outer block =>
      rw [List.append_assoc]
      exact outer.append (.cond block valid .nil)
  | endLoop =>
    rcases os with _ | ⟨⟨line, _ | _, hasElse⟩, os⟩ <;> cases after
    cases h with
    | loop _ _ outer opens inner =>
      rw [List.append_assoc]
      exact outer.append (.loop opens inner valid .nil)

/-- Lines without a line in the wrong place leave open what they leave unfinished. -/
lemma Runs.unfinished {d d' : Draft} {problems : List Problem} (run : Runs d ls d' problems)
    (none : problems = []) {before : List SourceLine} (h : Unfinished before d.openings) :
    Unfinished (before ++ ls) d'.openings := by
  induction run generalizing before with
  | nil => rwa [List.append_nil]
  | fits valid step _ ih =>
    rcases (Draft.step_after valid step).2 with ⟨after, _⟩ | ⟨_, _, fault, same, _⟩
    · have later := ih none (h.line valid after)
      rwa [List.append_assoc, List.singleton_append] at later
    · cases same
  | misfits => cases none

/-- If no block is open in front of lines, nor behind them, all blocks are closed in them. -/
lemma Runs.body {d d' : Draft} (run : Runs d ls d' []) (before : d.openings = [])
    (behind : d'.openings = []) :
    ∃ ns, Body ls ns := by
  have none : Unfinished [] d.openings := before ▸ .body .nil
  have unfinished := run.unfinished rfl none
  rw [behind] at unfinished
  cases unfinished with
  | body balanced => exact ⟨_, balanced⟩

end Unfinished

section Progress

variable {all ls : List SourceLine} {d d' : Draft} {l : SourceLine} {role : Role}

/-- The indentations of the open blocks. -/
def Draft.indents (d : Draft) : List (Option Nat) :=
  d.stack.map (·.indent?)

/-- Whether all indentations of open blocks were set by certain lines of text. -/
def Draft.Within (all : List SourceLine) (d : Draft) : Prop :=
  ∀ n, some n ∈ d.indents → ∃ m ∈ all, m.isText ∧ m.margin = n

lemma Draft.indents_addItems (d : Draft) (items : List ContentItem) :
    (d.addItems items).indents = d.indents := by
  obtain ⟨p, header, stack, count⟩ := d
  cases stack <;> rfl

lemma Draft.indents_add (d : Draft) (entry : Entry) : (d.add entry).indents = d.indents := by
  obtain ⟨p, header, stack, count⟩ := d
  cases entry <;> cases stack <;> rfl

/-- A new branch keeps the indentation of its conditional. -/
lemma Draft.indents_addBranch {condition? : Option String} {afterElse outside : Fault}
    (d : Draft) : (d.settle (d.addBranch condition? afterElse outside)).1.indents = d.indents := by
  obtain ⟨p, header, stack, count⟩ := d
  rcases stack with _ | ⟨⟨line, ⟨closed, open?, _ | _⟩ | _, items, indent?⟩, stack⟩ <;> rfl

lemma Draft.indents_closeBlock (d : Draft) (kind : BlockKind) :
    ∀ i ∈ (d.settle (d.closeBlock kind [])).1.indents, i ∈ d.indents := by
  intro i inside
  obtain ⟨p, header, stack, count⟩ := d
  cases stack with
  | nil => exact inside
  | cons block stack =>
    by_cases same : block.kind = kind
    · have closes := Draft.closeBlock_opened ⟨p, header, stack, count⟩ kind block same
      rw [closes] at inside
      refine List.mem_cons_of_mem _ ?_
      rwa [Draft.settle, Draft.indents_addItems] at inside
    · have stays : Draft.closeBlock ⟨p, header, block :: stack, count⟩ kind [] =
          .error (.closerInside kind.closer block.kind block.line) := by
        unfold Draft.closeBlock
        simp only [List.isEmpty_nil, Bool.not_true, Bool.false_eq_true, if_false, ne_eq, same,
          not_false_eq_true, if_true]
        rfl
      rwa [stays] at inside

/-- Lines whose indentations do not cut characters in two can be cut. -/
lemma Draft.dedent_exists (aligned : Aligned all) (within : d.Within all) (member : l ∈ all)
    (text : l.isText) :
    ∃ text d', d.dedent l.text = some (text, d') ∧ d'.Within all := by
  obtain ⟨p, header, stack, count⟩ := d
  cases stack with
  | nil => exact ⟨l.text, _, rfl, within⟩
  | cons block stack =>
    obtain ⟨m, source, other, base⟩ : ∃ m ∈ all, m.isText ∧ m.margin = block.indent?.getD l.margin := by
      cases set : block.indent? with
      | none => exact ⟨l, member, text, rfl⟩
      | some n => exact within n (List.mem_cons.mpr (.inl set.symm))
    obtain ⟨text, cut⟩ := Option.isSome_iff_exists.mp (aligned l member m source text other)
    rw [base] at cut
    refine ⟨text, ⟨p, header, { block with indent? := some (block.indent?.getD l.margin) } :: stack, count⟩,
      ?_, ?_⟩
    · simp only [Draft.dedent, ← SourceLine.margin.eq_1, cut, Option.map_some]
    · intro n inside
      rcases List.mem_cons.mp inside with here | old
      · cases here
        exact ⟨m, source, other, base⟩
      · exact within n (List.mem_cons_of_mem _ old)

lemma Draft.step_exists (aligned : Aligned all) (within : d.Within all) (member : l ∈ all)
    (valid : l.role? = some role) :
    ∃ outcome, d.step l role = some outcome ∧ outcome.1.Within all := by
  cases role with
  | text =>
    have text : l.isText := by rw [SourceLine.isText, valid]
    obtain ⟨text, d', cut, kept⟩ := Draft.dedent_exists aligned within member text
    refine ⟨_, Draft.step_text valid cut, ?_⟩
    intro n inside
    rw [Draft.indents_addItems] at inside
    exact kept n inside
  | adds entry =>
    refine ⟨_, rfl, ?_⟩
    intro n inside
    rw [Draft.indents_add] at inside
    exact within n inside
  | cond | loop =>
    refine ⟨_, rfl, ?_⟩
    intro n inside
    rcases List.mem_cons.mp inside with other | old
    · cases other
    · exact within n old
  | elif | otherwise =>
    refine ⟨_, rfl, ?_⟩
    intro n inside
    rw [Draft.indents_addBranch] at inside
    exact within n inside
  | endCond | endLoop =>
    exact ⟨_, rfl, fun n inside => within n (d.indents_closeBlock _ _ inside)⟩

/-- Valid lines whose indentations do not cut characters in two can be read. -/
theorem Runs.exists (aligned : Aligned all) (within : d.Within all) (members : ∀ l ∈ ls, l ∈ all)
    (valid : ∀ l ∈ ls, l.role?.isSome) : ∃ d' problems, Runs d ls d' problems := by
  induction ls generalizing d with
  | nil => exact ⟨d, [], .nil⟩
  | cons l ls ih =>
    obtain ⟨role, here⟩ := Option.isSome_iff_exists.mp (valid l List.mem_cons_self)
    obtain ⟨⟨d', fault?⟩, step, within⟩ :=
      Draft.step_exists aligned within (members l List.mem_cons_self) here
    obtain ⟨d'', problems, run⟩ := ih within (fun l later => members l (List.mem_cons_of_mem _ later))
      (fun l later => valid l (List.mem_cons_of_mem _ later))
    cases fault? with
    | none => exact ⟨d'', problems, .fits here step run⟩
    | some fault => exact ⟨d'', _, .misfits here step run⟩

end Progress

lemma Misplaced.kind {fault : Fault} (h : Misplaced fault) : fault.kind = .block := by
  cases h <;> rfl

/-- At the next header or at the end, the open passage is finished. -/
lemma readLines_ends {r : Reading} {d : Draft} {rest : List SourceLine}
    (ends : ∀ l, rest.head? = some l → (dropFront? [':', ':'] (trim l.text)).isSome) :
    readLines { r with current? := some d } rest =
      readLines { r with done := r.done ++ [d], current? := none, problems := r.problems ++ d.unclosed }
        rest := by
  cases rest with
  | nil => simp only [readLines, Reading.close]
  | cons l rest =>
    obtain ⟨header, mark⟩ := Option.isSome_iff_exists.mp (ends l rfl)
    rw [readLines, readLines]
    simp only [mark]
    rfl

lemma Reading.current_close (r : Reading) : r.close.current? = none := by
  unfold Reading.close
  split
  · assumption
  · rfl

/-- The lines of a passage, from its header to the next one, are read without a fault if and only if all
blocks are closed in them. Then the passage holds what they denote. All that can be reported are lines in
the wrong place, and each block that is left open, once and at the line that opened it. -/
theorem readLines_passage (r : Reading) {header : SourceLine} {text : List Char} {p : Passage}
    {body rest : List SourceLine} (mark : dropFront? [':', ':'] (trim header.text) = some text)
    (opens : readHeader text = .ok p) (valid : ∀ l ∈ body, l.role?.isSome) (aligned : Aligned body)
    (ends : ∀ l, rest.head? = some l → (dropFront? [':', ':'] (trim l.text)).isSome) :
    ∃ d problems misplaced,
      readLines r (header :: (body ++ rest)) =
        readLines { r.close with done := r.close.done ++ [d], problems := r.close.problems ++ problems }
          rest ∧
      (problems = [] ↔ ∃ ns, Body body ns) ∧
      (∀ ns, Body body ns → d = (Draft.start p header).taking ns) ∧
      (∀ q ∈ problems, q.fault.kind = .block) ∧
      (∀ q ∈ misplaced, Misplaced q.fault) ∧
      problems = misplaced ++ (leftOpen [] body).map fun o =>
        ⟨.unclosed o.kind p.id, header.file, o.line⟩ := by
  obtain ⟨d, misplaced, run⟩ := Runs.exists (d := Draft.start p header) aligned nofun (fun _ => id) valid
  have openings := run.leftOpen
  have unclosed : d.unclosed = (leftOpen [] body).map fun o =>
      ⟨.unclosed o.kind p.id, header.file, o.line⟩ := by
    rw [d.unclosed_eq, openings, run.continues.id, run.continues.header]
    rfl
  refine ⟨d, misplaced ++ d.unclosed, misplaced, ?_, ⟨?_, ?_⟩, ?_, ?_, run.misplaced, by rw [unclosed]⟩
  · have finished := readLines_ends
      (r := { r.close with problems := r.close.problems ++ misplaced }) (d := d) ends
    rw [readLines]
    simp only [mark, Reading.openPassage, opens]
    rw [run.readLines r.close rest, finished, r.current_close, List.append_assoc]
  · intro none
    obtain ⟨fits, closed⟩ := List.append_eq_nil_iff.mp none
    have unfinished := run.unfinished fits (.body .nil)
    rw [d.unclosed_eq, List.map_eq_nil_iff] at closed
    rw [closed] at unfinished
    cases unfinished with
    | body balanced => exact ⟨_, balanced⟩
  · rintro ⟨ns, balanced⟩
    obtain ⟨rfl, rfl⟩ := balanced.outside rfl run
    rfl
  · intro ns balanced
    exact (balanced.outside rfl run).2
  · intro q member
    rcases List.mem_append.mp member with wrong | left
    · exact (run.misplaced q wrong).kind
    · obtain ⟨block, _, rfl⟩ := List.mem_map.mp left
      rfl

/-- A passage with nested blocks. -/
def hallHeader : SourceLine :=
  ⟨inlineLabel, 1, ":: Hall(rooms)".toList⟩

def hallBody : List SourceLine :=
  [⟨inlineLabel, 2, "@if lamp:".toList⟩, ⟨inlineLabel, 3, "  You see:".toList⟩,
    ⟨inlineLabel, 4, "  @for room in rooms:".toList⟩, ⟨inlineLabel, 5, "    + [{room}] -> Hall".toList⟩,
    ⟨inlineLabel, 6, "  @endfor".toList⟩, ⟨inlineLabel, 7, "@elif matches > 0:".toList⟩,
    ⟨inlineLabel, 8, "  ~ matches -= 1".toList⟩, ⟨inlineLabel, 9, "@else:".toList⟩,
    ⟨inlineLabel, 10, "    It is dark.".toList⟩, ⟨inlineLabel, 11, "@endif".toList⟩]

/-- This passage is read without a fault, so that its blocks are closed, and it holds what they denote. -/
theorem hall_is_balanced :
    (∀ l ∈ hallBody, l.role?.isSome) ∧ Aligned hallBody ∧
      ∃ p ns, Body hallBody ns ∧
        (readLines Reading.empty (hallHeader :: hallBody)).map (·.done) =
          some [(Draft.start p hallHeader).taking ns] := by
  have valid : ∀ l ∈ hallBody, l.role?.isSome := by decide +kernel
  have aligned : Aligned hallBody := by decide +kernel
  refine ⟨valid, aligned, ?_⟩
  have mark : dropFront? [':', ':'] (trim hallHeader.text) = some " Hall(rooms)".toList := by
    decide +kernel
  have accepted : (readHeader " Hall(rooms)".toList).isOk := by decide +kernel
  cases opens : readHeader " Hall(rooms)".toList with
  | error fault =>
    rw [opens] at accepted
    cases accepted
  | ok p =>
    obtain ⟨d, problems, misplaced, read, balanced, denoted, _⟩ :=
      readLines_passage Reading.empty mark opens valid aligned (by exact nofun : ∀ l, [].head? = some l → _)
    have silent : (readLines Reading.empty (hallHeader :: hallBody)).any (·.problems.isEmpty) := by
      decide +kernel
    rw [List.append_nil, readLines] at read
    rw [read] at silent ⊢
    have none : problems = [] := List.isEmpty_iff.mp silent
    obtain ⟨ns, body⟩ := balanced.mp none
    rw [denoted ns body]
    exact ⟨p, ns, body, rfl⟩

/-- Two lines of text in an open block, the first one indented by a blank, the second one by an
ideographic space, which takes three bytes. -/
def tornBody : List SourceLine :=
  [⟨inlineLabel, 2, "@if True:".toList⟩, ⟨inlineLabel, 3, " a".toList⟩,
    ⟨inlineLabel, 4, "\u3000b".toList⟩]

/-- All these lines are valid, and one block is left open in them; but nothing is reported, since the
indentation of the block ends inside a character. -/
theorem torn_is_not_read :
    (∀ l ∈ tornBody, l.role?.isSome) ∧ (leftOpen [] tornBody).map (·.line) = [2] ∧
      (Compilation.ofExpansion ⟨⟨inlineLabel, 1, ":: Start".toList⟩ :: tornBody, [], []⟩).isNone := by
  refine ⟨by decide +kernel, by decide +kernel, ?_⟩
  decide +kernel

end BranchingStory.Source
