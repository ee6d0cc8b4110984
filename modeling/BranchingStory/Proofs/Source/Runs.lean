import BranchingStory.Proofs.Source.Outdented

/-!
# What lines do to the open passage

A line does what its role says, or it stands in the wrong place, is reported and changes nothing. Lines
are read one after the other.
-/

namespace BranchingStory.Source

open Text

namespace Draft

variable (d : Draft)

lemma addItems_nil : d.addItems [] = d := by
  obtain ⟨p, header, stack, count⟩ := d
  cases stack <;> simp only [addItems, List.append_nil]

lemma addItems_append (first second : List ContentItem) :
    d.addItems (first ++ second) = (d.addItems first).addItems second := by
  obtain ⟨p, header, stack, count⟩ := d
  cases stack <;> simp only [addItems, List.append_assoc]

/-- A line of text holds the same whatever there is in the passage. -/
lemma addText_eq (text : List Char) : d.addText text = (readTextLine text).map d.addItems := by
  unfold addText readTextLine
  simp only
  split
  · rw [Except.map, addItems_nil]
    rfl
  · cases dropBack? glue (trimEnd (stripComment text)) with
    | some body => cases readText body <;> rfl
    | none =>
      cases readText (trimEnd (stripComment text)) with
      | error fault => rfl
      | ok items => exact congrArg Except.ok (d.addItems_append items _).symm

/-- So does a jump. -/
lemma addJump_eq (cs : List Char) (line : Nat) :
    d.addJump cs line = (readJump cs line).map fun item => d.addItems [item] := by
  apply bind_eq_map
  rintro ⟨target, args, behind⟩
  simp only
  split <;> rfl

/-- So does a choice, except for its key. -/
lemma readChoice_eq (cs : List Char) (oneShot : Bool) (line : Nat) :
    d.readChoice cs oneShot line =
      (readOffer cs oneShot line).map fun c => d.addChoice (numbered d.passage.id d.choiceCount c) := by
  apply bind_eq_map
  rintro ⟨rest, tags⟩
  apply bind_eq_map
  rintro ⟨guard?, body⟩
  by_cases opens : ∃ tail, body = '[' :: tail
  · obtain ⟨tail, rfl⟩ := opens
    simp only
    cases enclosed? _ with
    | none => rfl
    | some found =>
      refine bind_eq_map fun text => ?_
      cases dropFront? ['-', '>'] (trimStart found.2) with
      | none => rfl
      | some call =>
        apply bind_eq_map
        rintro ⟨target, args, behind⟩
        simp only
        split <;> rfl
  · have bare (tail : List Char) (same : body = '[' :: tail) : False := opens ⟨tail, same⟩
    simp only
    rfl

/-- Adds what a line adds to the innermost open block, or to the passage. -/
def add : Entry → Draft
  | .items items => d.addItems items
  | .command c => d.addCommand c
  | .choice c => d.addChoice (numbered d.passage.id d.choiceCount c)

/-- What a line does by its role, and the fault if it stands in the wrong place. -/
def step (l : SourceLine) : Role → Option (Draft × Option Fault)
  | .text => (d.dedent l.text).map fun (text, d) => d.settle (d.addText text)
  | .adds entry => some (d.add entry, none)
  | .cond condition => some (d.openBlock l.line (.cond [] (some condition) false), none)
  | .elif condition => some (d.settle (d.addBranch (some condition) .elifAfterElse .elifWithoutIf))
  | .otherwise => some (d.settle (d.addBranch none .secondElse .elseWithoutIf))
  | .endCond => some (d.settle (d.closeBlock .cond []))
  | .loop vars collection => some (d.openBlock l.line (.loop vars collection), none)
  | .endLoop => some (d.settle (d.closeBlock .loop []))

lemma obey_eq_step {cs : List Char} {l : SourceLine} {role : Role} (h : directiveRole? cs = some role) :
    some (d.settle (d.obey cs l.line)) = d.step l role := by
  unfold directiveRole? at h
  unfold obey
  simp only at h ⊢
  split at h
  · next word =>
    simp only [Option.map_eq_some_iff, toOption_eq_some] at h
    obtain ⟨condition, read, rfl⟩ := h
    simp only [word, read]
    rfl
  · next word =>
    simp only [Option.map_eq_some_iff, toOption_eq_some] at h
    obtain ⟨condition, read, rfl⟩ := h
    simp only [word, read]
    rfl
  · next word =>
    split at h <;> cases h
    next colon =>
    simp only [word, colon, ne_eq, not_true_eq_false, if_false]
    rfl
  · next word =>
    split at h <;> cases h
    next empty =>
    simp only [word, List.isEmpty_iff.mp empty]
    rfl
  · next word =>
    split at h <;> cases h
    next empty =>
    simp only [word, List.isEmpty_iff.mp empty]
    rfl
  · next word =>
    simp only [Option.map_eq_some_iff, toOption_eq_some] at h
    obtain ⟨⟨vars, collection⟩, read, rfl⟩ := h
    simp only [word, read]
    rfl
  · next word =>
    simp only [Option.map_eq_some_iff, toOption_eq_some] at h
    obtain ⟨item, read, rfl⟩ := h
    simp only [word, read]
    rfl
  · next word =>
    simp only [Option.map_eq_some_iff, toOption_eq_some] at h
    obtain ⟨item, read, rfl⟩ := h
    simp only [word, read]
    rfl
  · cases h

end Draft

/-- A statement in which nothing is open takes no further line. -/
lemma joinOpen_closed {code : List Char} (closed : isOpen code = false) (lines : List SourceLine) :
    joinOpen code lines = (code, lines) := by
  cases lines with
  | nil => rfl
  | cons l lines => simp only [joinOpen, closed, Bool.false_eq_true, false_and, if_false]

/-- A line with a role goes to the open passage. -/
theorem readLines_step {r : Reading} {d : Draft} {l : SourceLine} {role : Role} (lines : List SourceLine)
    (opened : r.current? = some d) (h : l.role? = some role) :
    readLines r (l :: lines) =
      (d.step l role).bind fun outcome => readLines (r.advance l outcome) lines := by
  unfold SourceLine.role? at h
  simp only at h
  split at h
  · cases h
  · next inside =>
    simp only [SourceLine.isApart, Bool.or_eq_true, decide_eq_true_eq, not_or, Bool.not_eq_true,
      Option.isSome_eq_false_iff, Option.isNone_iff_eq_none] at inside
    obtain ⟨⟨⟨⟨noHeader, noComment⟩, noStart⟩, noMetadata⟩, noScript⟩ := inside
    rw [readLines]
    simp only [noHeader, noComment, noStart, noMetadata, noScript, opened, if_false, Option.isSome_none,
      Bool.false_eq_true]
    split at h
    · next blank =>
      cases h
      simp only [blank, List.isEmpty_nil, if_true]
      rfl
    · next code tilde =>
      split at h
      · cases h
      · next closed =>
        simp only [Option.map_eq_some_iff, toOption_eq_some] at h
        obtain ⟨c, read, rfl⟩ := h
        simp only [tilde, List.isEmpty_cons, Bool.false_eq_true, if_false,
          joinOpen_closed (Bool.eq_false_iff.mpr closed), Reading.statement, Draft.readStatement, read]
        rfl
    · next directive =>
      have read : d.readLine l = d.step l role := by
        rw [directive] at h
        simp only [Draft.readLine, directive]
        exact d.obey_eq_step h
      simp only [directive, List.isEmpty_cons, Bool.false_eq_true, if_false, read]
      cases d.step l role <;> rfl
    · next noBlank noTilde noMark =>
      have read : d.readLine l = d.step l role := by
        unfold Draft.readLine
        simp only
        split at h
        · next jump =>
          simp only [Option.map_eq_some_iff, toOption_eq_some] at h
          obtain ⟨item, read, rfl⟩ := h
          simp only [jump]
          rw [d.addJump_eq, read]
          rfl
        · next noJump mark =>
          simp only [Option.map_eq_some_iff, toOption_eq_some] at h
          obtain ⟨c, read, rfl⟩ := h
          simp only [noJump, mark]
          rw [d.readChoice_eq, read]
          rfl
        · next noJump noChoice =>
          simp only [Option.map_eq_some_iff, toOption_eq_some] at h
          obtain ⟨items, read, rfl⟩ := h
          simp only [noJump, noChoice]
          rfl
      have full : ¬(trim l.text).isEmpty := fun empty => noBlank (List.isEmpty_iff.mp empty)
      rw [if_neg full]
      split
      · next code tilde => exact absurd tilde (noTilde code)
      · rw [read]
        cases d.step l role <;> rfl

/-- What is known of an open block by its lines. -/
def Block.opening (b : Block) : Opening :=
  match b.form with
  | .cond _ _ hasElse => ⟨b.line, .cond, hasElse⟩
  | .loop .. => ⟨b.line, .loop, false⟩

namespace Draft

def openings (d : Draft) : List Opening :=
  d.stack.map Block.opening

variable {d d' : Draft} {l : SourceLine} {role : Role}

lemma unclosed_eq (d : Draft) :
    d.unclosed = d.openings.map fun o => ⟨.unclosed o.kind d.passage.id, d.header.file, o.line⟩ := by
  unfold unclosed openings
  rw [List.map_map]
  refine List.map_congr_left fun block _ => ?_
  obtain ⟨line, form, items, indent?⟩ := block
  cases form <;> rfl

/-- What stays as it is when lines are read. -/
structure Continues (d d' : Draft) : Prop where
  id : d'.passage.id = d.passage.id
  header : d'.header = d.header

/-- What is added leaves the open blocks open, and nothing else. -/
lemma openings_addItems (d : Draft) (items : List ContentItem) :
    (d.addItems items).openings = d.openings := by
  obtain ⟨p, header, stack, count⟩ := d
  cases stack with
  | nil => rfl
  | cons block stack =>
    obtain ⟨line, form, inside, indent?⟩ := block
    cases form <;> rfl

lemma continues_addItems (d : Draft) (items : List ContentItem) : d.Continues (d.addItems items) := by
  obtain ⟨p, header, stack, count⟩ := d
  cases stack <;> exact ⟨rfl, rfl⟩

lemma openings_add (d : Draft) (entry : Entry) : (d.add entry).openings = d.openings := by
  cases entry with
  | items items => exact d.openings_addItems items
  | command c =>
    obtain ⟨p, header, stack, count⟩ := d
    cases stack with
    | nil => rfl
    | cons => exact openings_addItems _ _
  | choice c =>
    obtain ⟨p, header, stack, count⟩ := d
    cases stack with
    | nil => rfl
    | cons => exact openings_addItems _ _

lemma continues_add (d : Draft) (entry : Entry) : d.Continues (d.add entry) := by
  obtain ⟨p, header, stack, count⟩ := d
  cases entry <;> cases stack <;> exact ⟨rfl, rfl⟩

/-- A line in a block is read without its indentation, which the first line of text sets. -/
lemma dedent_eq_some {text rest : List Char} (h : d.dedent text = some (rest, d')) :
    (d.stack = [] ∧ rest = text ∧ d' = d) ∨
      ∃ block stack base, d.stack = block :: stack ∧
        base = block.indent?.getD (byteLength (indentation text)) ∧
        dropBytes (min (byteLength (indentation text)) base) text = some rest ∧
        d' = { d with stack := { block with indent? := some base } :: stack } := by
  obtain ⟨p, header, stack, count⟩ := d
  unfold dedent at h
  cases stack with
  | nil =>
    cases h
    exact .inl ⟨rfl, rfl, rfl⟩
  | cons block stack =>
    simp only [Option.map_eq_some_iff, Prod.mk.injEq] at h
    obtain ⟨_, cut, rfl, rfl⟩ := h
    exact .inr ⟨block, stack, _, rfl, rfl, cut, rfl⟩

lemma role_text (valid : l.role? = some .text) : ∃ items, readTextLine l.text = .ok items := by
  unfold SourceLine.role? at valid
  simp only at valid
  split at valid
  · cases valid
  · split at valid
    · cases valid
    · split at valid
      · cases valid
      · simp only [Option.map_eq_some_iff, reduceCtorEq, and_false, exists_false] at valid
    · unfold directiveRole? at valid
      simp only at valid
      split at valid <;>
        first
        | simp only [Option.map_eq_some_iff, reduceCtorEq, and_false, exists_false] at valid
        | (split at valid <;> cases valid)
    · split at valid
      · simp only [Option.map_eq_some_iff, reduceCtorEq, and_false, exists_false] at valid
      · simp only [Option.map_eq_some_iff, reduceCtorEq, and_false, exists_false] at valid
      · simp only [Option.map_eq_some_iff, toOption_eq_some] at valid
        obtain ⟨items, read, _⟩ := valid
        exact ⟨items, read⟩

/-- What a valid line of text does: it adds its content without the indentation of the block. -/
lemma step_text (valid : l.role? = some .text) {text : List Char}
    (cut : d.dedent l.text = some (text, d')) :
    d.step l .text = some (d'.addItems (textItems text), none) := by
  obtain ⟨items, read⟩ := role_text valid
  have part : ∃ items, readTextLine text = .ok items := by
    rcases dedent_eq_some cut with ⟨_, rfl, _⟩ | ⟨block, stack, base, _, _, cut, _⟩
    · exact ⟨items, read⟩
    · exact (readTextLine_outdent cut (Nat.min_le_left _ _)).mp ⟨items, read⟩
  obtain ⟨items, read⟩ := part
  simp only [step, cut, Option.map_some, d'.addText_eq, textItems, read]
  rfl

lemma openings_dedent {text rest : List Char} (h : d.dedent text = some (rest, d')) :
    d'.openings = d.openings := by
  rcases dedent_eq_some h with ⟨_, _, rfl⟩ | ⟨block, stack, base, opened, _, _, rfl⟩
  · rfl
  · unfold openings
    rw [opened]
    obtain ⟨line, form, items, indent?⟩ := block
    cases form <;> rfl

lemma continues_dedent {text rest : List Char} (h : d.dedent text = some (rest, d')) :
    d.Continues d' := by
  rcases dedent_eq_some h with ⟨_, _, rfl⟩ | ⟨block, stack, base, opened, _, _, rfl⟩ <;> exact ⟨rfl, rfl⟩

/-- A block is closed by the end of its kind, and is an item of what is around it. -/
lemma closeBlock_opened (d : Draft) (kind : BlockKind) (block : Block) (same : block.kind = kind) :
    Draft.closeBlock { d with stack := block :: d.stack } kind [] = .ok (d.addItems [block.toItem]) := by
  unfold closeBlock
  simp only [same, List.isEmpty_nil, Bool.not_true, Bool.false_eq_true, if_false, ne_eq,
    not_true_eq_false]
  rfl

lemma Continues.trans {d'' : Draft} (first : d.Continues d') (second : d'.Continues d'') :
    d.Continues d'' :=
  ⟨second.id.trans first.id, second.header.trans first.header⟩

/-- A line does what its role says, or it stands in the wrong place and changes nothing. -/
theorem step_after {outcome : Draft × Option Fault} (valid : l.role? = some role)
    (h : d.step l role = some outcome) :
    d.Continues outcome.1 ∧
      ((role.after l.line d.openings = some outcome.1.openings ∧ outcome.2 = none) ∨
        (role.after l.line d.openings = none ∧ outcome.1 = d ∧
          ∃ fault, outcome.2 = some fault ∧ Misplaced fault)) := by
  cases role with
  | text =>
    have cut := h
    simp only [step, Option.map_eq_some_iff] at cut
    obtain ⟨⟨text, d'⟩, cut, _⟩ := cut
    rw [step_text valid cut] at h
    cases h
    refine ⟨(continues_dedent cut).trans (d'.continues_addItems _), .inl ⟨?_, rfl⟩⟩
    rw [openings_addItems, openings_dedent cut]
    rfl
  | adds entry =>
    cases h
    exact ⟨d.continues_add entry, .inl ⟨by rw [d.openings_add entry]; rfl, rfl⟩⟩
  | cond condition =>
    cases h
    exact ⟨⟨rfl, rfl⟩, .inl ⟨rfl, rfl⟩⟩
  | loop vars collection =>
    cases h
    exact ⟨⟨rfl, rfl⟩, .inl ⟨rfl, rfl⟩⟩
  | elif condition =>
    obtain ⟨p, header, stack, count⟩ := d
    rcases stack with _ | ⟨⟨line, ⟨closed, open?, _ | _⟩ | _, items, indent?⟩, stack⟩ <;> cases h
    · exact ⟨⟨rfl, rfl⟩, .inr ⟨rfl, rfl, _, rfl, .elifWithoutIf⟩⟩
    · exact ⟨⟨rfl, rfl⟩, .inl ⟨rfl, rfl⟩⟩
    · exact ⟨⟨rfl, rfl⟩, .inr ⟨rfl, rfl, _, rfl, .elifAfterElse⟩⟩
    · exact ⟨⟨rfl, rfl⟩, .inr ⟨rfl, rfl, _, rfl, .elifWithoutIf⟩⟩
  | otherwise =>
    obtain ⟨p, header, stack, count⟩ := d
    rcases stack with _ | ⟨⟨line, ⟨closed, open?, _ | _⟩ | _, items, indent?⟩, stack⟩ <;> cases h
    · exact ⟨⟨rfl, rfl⟩, .inr ⟨rfl, rfl, _, rfl, .elseWithoutIf⟩⟩
    · exact ⟨⟨rfl, rfl⟩, .inl ⟨rfl, rfl⟩⟩
    · exact ⟨⟨rfl, rfl⟩, .inr ⟨rfl, rfl, _, rfl, .secondElse⟩⟩
    · exact ⟨⟨rfl, rfl⟩, .inr ⟨rfl, rfl, _, rfl, .elseWithoutIf⟩⟩
  | endCond =>
    obtain ⟨p, header, stack, count⟩ := d
    rcases stack with _ | ⟨⟨line, ⟨closed, open?, hasElse⟩ | _, items, indent?⟩, stack⟩
    · cases h
      exact ⟨⟨rfl, rfl⟩, .inr ⟨rfl, rfl, _, rfl, .closerWithoutOpener⟩⟩
    · let outer : Draft := ⟨p, header, stack, count⟩
      rw [step, outer.closeBlock_opened .cond ⟨line, .cond closed open? hasElse, items, indent?⟩ rfl] at h
      cases h
      have continues := outer.continues_addItems
      exact ⟨⟨(continues _).id, (continues _).header⟩,
        .inl ⟨congrArg some (outer.openings_addItems _).symm, rfl⟩⟩
    · cases h
      exact ⟨⟨rfl, rfl⟩, .inr ⟨rfl, rfl, _, rfl, .closerInside⟩⟩
  | endLoop =>
    obtain ⟨p, header, stack, count⟩ := d
    rcases stack with _ | ⟨⟨line, _ | ⟨vars, collection⟩, items, indent?⟩, stack⟩
    · cases h
      exact ⟨⟨rfl, rfl⟩, .inr ⟨rfl, rfl, _, rfl, .closerWithoutOpener⟩⟩
    · cases h
      exact ⟨⟨rfl, rfl⟩, .inr ⟨rfl, rfl, _, rfl, .closerInside⟩⟩
    · let outer : Draft := ⟨p, header, stack, count⟩
      rw [step, outer.closeBlock_opened .loop ⟨line, .loop vars collection, items, indent?⟩ rfl] at h
      cases h
      have continues := outer.continues_addItems
      exact ⟨⟨(continues _).id, (continues _).header⟩,
        .inl ⟨congrArg some (outer.openings_addItems _).symm, rfl⟩⟩

end Draft

/-- Lines with roles are read one after the other, and those in the wrong place are reported. -/
inductive Runs : Draft → List SourceLine → Draft → List Problem → Prop where
  | nil {d} : Runs d [] d []
  | fits {d d' d'' l role ls problems} :
    l.role? = some role →
    d.step l role = some (d', none) →
    Runs d' ls d'' problems →
    Runs d (l :: ls) d'' problems
  | misfits {d d' d'' l role fault ls problems} :
    l.role? = some role →
    d.step l role = some (d', some fault) →
    Runs d' ls d'' problems →
    Runs d (l :: ls) d'' (l.problem fault :: problems)

namespace Runs

variable {d d' : Draft} {ls ms : List SourceLine} {problems : List Problem}

lemma split (run : Runs d (ls ++ ms) d' problems) :
    ∃ between first second, Runs d ls between first ∧ Runs between ms d' second ∧
      problems = first ++ second := by
  induction ls generalizing d problems with
  | nil => exact ⟨d, [], problems, .nil, run, rfl⟩
  | cons l ls ih =>
    cases run with
    | fits role step run =>
      obtain ⟨between, first, second, left, right, rfl⟩ := ih run
      exact ⟨between, first, second, .fits role step left, right, rfl⟩
    | misfits role step run =>
      obtain ⟨between, first, second, left, right, rfl⟩ := ih run
      exact ⟨between, _, second, .misfits role step left, right, rfl⟩

lemma append {d'' : Draft} {more : List Problem} (first : Runs d ls d' problems)
    (second : Runs d' ms d'' more) :
    Runs d (ls ++ ms) d'' (problems ++ more) := by
  induction first with
  | nil => exact second
  | fits role step _ ih => exact .fits role step (ih second)
  | misfits role step _ ih => exact .misfits role step (ih second)

/-- Behind a line of text the run goes on, for such a line is nowhere in the wrong place. -/
lemma text {l : SourceLine} (run : Runs d (l :: ls) d' problems) (valid : l.role? = some .text) :
    ∃ between, d.step l .text = some (between, none) ∧ Runs between ls d' problems := by
  cases run with
  | fits valid' step run =>
    rw [valid] at valid'
    cases valid'
    exact ⟨_, step, run⟩
  | misfits valid' step _ =>
    rw [valid] at valid'
    cases valid'
    rcases (Draft.step_after valid step).2 with ⟨_, same⟩ | ⟨same, _⟩ <;> cases same

/-- What lines do to the open passage, they do when the source text is read. -/
theorem readLines (run : Runs d ls d' problems) (r : Reading) (rest : List SourceLine) :
    Source.readLines { r with current? := some d } (ls ++ rest) =
      Source.readLines { r with current? := some d', problems := r.problems ++ problems } rest := by
  induction run generalizing r with
  | nil => rw [List.append_nil, List.nil_append]
  | fits role step _ ih =>
    rw [List.cons_append, readLines_step _ rfl role, step]
    exact ih r
  | @misfits _ _ _ l _ fault _ _ role step _ ih =>
    rw [List.cons_append, readLines_step _ rfl role, step]
    have later := ih { r with problems := r.problems ++ [l.problem fault] }
    rw [List.append_assoc, List.singleton_append] at later
    exact later

/-- Behind lines are open the blocks that their roles leave open. -/
lemma leftOpen (run : Runs d ls d' problems) : d'.openings = Source.leftOpen d.openings ls := by
  induction run with
  | nil => rfl
  | fits role step _ ih =>
    rcases (Draft.step_after role step).2 with ⟨after, _⟩ | ⟨_, _, fault, same, _⟩
    · rw [ih, Source.leftOpen, role, Option.bind_some, after, Option.getD_some]
    · cases same
  | misfits role step _ ih =>
    rcases (Draft.step_after role step).2 with ⟨_, same⟩ | ⟨after, same, _⟩
    · cases same
    · cases same
      rw [ih, Source.leftOpen, role, Option.bind_some, after, Option.getD_none]

/-- All that is reported is lines in the wrong place. -/
lemma misplaced (run : Runs d ls d' problems) : ∀ q ∈ problems, Misplaced q.fault := by
  induction run with
  | nil => exact nofun
  | fits _ _ _ ih => exact ih
  | misfits role step _ ih =>
    rcases (Draft.step_after role step).2 with ⟨_, same⟩ | ⟨_, _, fault, same, misplaced⟩
    · cases same
    · cases same
      exact List.forall_mem_cons.mpr ⟨misplaced, ih⟩

lemma continues (run : Runs d ls d' problems) : d.Continues d' := by
  induction run with
  | nil => exact ⟨rfl, rfl⟩
  | fits role step _ ih => exact (Draft.step_after role step).1.trans ih
  | misfits role step _ ih => exact (Draft.step_after role step).1.trans ih

/-- Behind a line that fits, the run goes on. -/
lemma next {l : SourceLine} {role : Role} (run : Runs d (l :: ls) d' problems) (valid : l.role? = some role)
    {between : Draft} (step : d.step l role = some (between, none)) : Runs between ls d' problems := by
  cases run with
  | fits valid' step' run =>
    rw [valid] at valid'
    cases valid'
    rw [step] at step'
    cases step'
    exact run
  | misfits valid' step' run =>
    rw [valid] at valid'
    cases valid'
    rw [step] at step'
    cases step'

end Runs

end BranchingStory.Source
