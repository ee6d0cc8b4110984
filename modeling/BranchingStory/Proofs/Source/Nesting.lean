import BranchingStory.Proofs.Source.Runs

/-!
# Reading blocks

Lines in which all blocks are closed make of a passage in the making what they denote.
-/

namespace BranchingStory.Source

open Text

variable {d d' : Draft} {problems : List Problem}

lemma outdent_eq {base : Nat} {text rest : List Char}
    (cut : Draft.dropBytes (min (byteLength (indentation text)) base) text = some rest) :
    outdent base text = rest := by
  rw [outdent, cut, Option.getD_some]

lemma branchesOf_append (id : String) (s : Spot) (limbs more : List Limb) :
    branchesOf id s (limbs ++ more) =
      ((branchesOf id s limbs).1 ++ (branchesOf id (branchesOf id s limbs).2 more).1,
        (branchesOf id (branchesOf id s limbs).2 more).2) := by
  induction limbs generalizing s with
  | nil => rfl
  | cons limb limbs ih =>
    obtain ⟨condition, body⟩ := limb
    simp only [List.cons_append, branchesOf, ih]

/-- The draft behind lines in its innermost block. -/
def Draft.inBlock (d : Draft) (block : Block) (stack : List Block) (out : List ContentItem × Spot) :
    Draft :=
  { d with
    stack := { block with items := block.items ++ out.1, indent? := out.2.indent? } :: stack
    choiceCount := out.2.count }

/-- The spot behind the lines read so far, for a draft with this innermost block. -/
def Draft.spot (d : Draft) (block : Block) : Spot :=
  ⟨block.indent?, d.choiceCount⟩

/-- The node in front of others is read before them. -/
lemma Draft.inBlock_cons (d : Draft) (block : Block) (stack : List Block) (node : Node) (ns : List Node) :
    d.inBlock block stack (itemsOf d.passage.id (d.spot block) (node :: ns)) =
      (d.inBlock block stack (node.items d.passage.id (d.spot block))).inBlock
        { block with
          items := block.items ++ (node.items d.passage.id (d.spot block)).1
          indent? := (node.items d.passage.id (d.spot block)).2.indent? }
        stack
        (itemsOf d.passage.id (node.items d.passage.id (d.spot block)).2 ns) := by
  simp only [Draft.inBlock, itemsOf, List.append_assoc]

lemma Draft.add_inside {block : Block} {stack : List Block} (opened : d.stack = block :: stack)
    (entry : Entry) :
    d.add entry = d.inBlock block stack ((Node.adds entry).items d.passage.id (d.spot block)) := by
  obtain ⟨p, header, _, count⟩ := d
  cases opened
  cases entry <;> rfl

lemma Draft.step_text_inside {l : SourceLine} {block : Block} {stack : List Block}
    (opened : d.stack = block :: stack) (valid : l.role? = some .text) {outcome : Draft × Option Fault}
    (h : d.step l .text = some outcome) :
    outcome = (d.inBlock block stack ((Node.text l.text).items d.passage.id (d.spot block)), none) := by
  have cut := h
  simp only [Draft.step, Option.map_eq_some_iff] at cut
  obtain ⟨⟨text, between⟩, cut, _⟩ := cut
  rw [Draft.step_text valid cut] at h
  cases h
  rcases Draft.dedent_eq_some cut with ⟨empty, _⟩ | ⟨_, _, base, opened', rfl, bytes, rfl⟩
  · rw [opened] at empty
    cases empty
  · rw [opened] at opened'
    cases opened'
    simp only [Node.items, Draft.spot, outdent_eq bytes]
    rfl

lemma Draft.addItems_inside {block : Block} {stack : List Block} (opened : d.stack = block :: stack)
    (items : List ContentItem) (count : Nat) :
    Draft.addItems { d with choiceCount := count } items =
      d.inBlock block stack (items, ⟨block.indent?, count⟩) := by
  obtain ⟨p, header, _, _⟩ := d
  cases opened
  rfl

/-- A loop that is closed is an item. -/
lemma Draft.close_loop (d : Draft) (l closer : SourceLine) (vars : List String) (collection : String)
    (out : List ContentItem × Spot) :
    ((d.openBlock l.line (.loop vars collection)).inBlock
        ⟨l.line, .loop vars collection, [], none⟩ d.stack out).step closer .endLoop =
      some (Draft.addItems { d with choiceCount := out.2.count } [.loop vars collection out.1], none) := by
  have closes := Draft.closeBlock_opened { d with choiceCount := out.2.count } .loop
    ⟨l.line, .loop vars collection, out.1, out.2.indent?⟩ rfl
  rw [Draft.step]
  simp only [Draft.inBlock, Draft.openBlock, List.nil_append] at closes ⊢
  rw [closes]
  rfl

/-- The branches of a conditional with the one behind `@else`. -/
def condOf (id : String) (s : Spot) (limbs : List Limb) (otherwise? : Option (List Node)) :
    List Branch × Spot :=
  ((branchesOf id s limbs).1 ++ (lastOf id (branchesOf id s limbs).2 otherwise?).1,
    (lastOf id (branchesOf id s limbs).2 otherwise?).2)

/-- A list of branches with one more. -/
def branch (id : String) (out : List Branch × Spot) (condition? : Option String) (body : List Node) :
    List Branch × Spot :=
  (out.1 ++ [⟨condition?, (itemsOf id out.2 body).1⟩], (itemsOf id out.2 body).2)

lemma condOf_elif (id : String) (s : Spot) (limbs : List Limb) (condition : String) (body : List Node) :
    condOf id s (limbs ++ [⟨condition, body⟩]) none =
      branch id (condOf id s limbs none) (some condition) body := by
  simp only [condOf, branch, branchesOf_append, branchesOf, lastOf, List.append_nil]

lemma condOf_otherwise (id : String) (s : Spot) (limbs : List Limb) (body : List Node) :
    condOf id s limbs (some body) = branch id (condOf id s limbs none) none body := by
  simp only [condOf, branch, lastOf, List.append_nil]

/-- Whether a conditional is open behind its lines, with branches of which the last one is open. -/
def Draft.InCond (d d' : Draft) (hasElse : Bool) (out : List Branch × Spot) : Prop :=
  ∃ line closed condition? items, closed ++ [⟨condition?, items⟩] = out.1 ∧
    d' = { d with
      stack := ⟨line, .cond closed condition? hasElse, items, out.2.indent?⟩ :: d.stack
      choiceCount := out.2.count }

/-- A conditional that is closed is an item. -/
lemma Draft.InCond.close {hasElse : Bool} {out : List Branch × Spot} (h : d.InCond d' hasElse out)
    (closer : SourceLine) :
    d'.step closer .endCond =
      some (Draft.addItems { d with choiceCount := out.2.count } [.conditional out.1], none) := by
  obtain ⟨line, closed, condition?, items, branches, rfl⟩ := h
  have closes := Draft.closeBlock_opened { d with choiceCount := out.2.count } .cond
    ⟨line, .cond closed condition? hasElse, items, out.2.indent?⟩ rfl
  simp only [Block.toItem, branches] at closes
  rw [Draft.step, closes]
  rfl

/-- A conditional with a new branch behind others. -/
def Draft.branched (d : Draft) (line : Nat) (condition? : Option String) (out : List Branch × Spot) :
    Draft :=
  { d with
    stack := ⟨line, .cond out.1 condition? condition?.isNone, [], out.2.indent?⟩ :: d.stack
    choiceCount := out.2.count }

/-- Before `@else` there can be a further branch. -/
lemma Draft.InCond.addBranch {out : List Branch × Spot} (h : d.InCond d' false out)
    (condition? : Option String) (afterElse outside : Fault) :
    ∃ line, d'.addBranch condition? afterElse outside = .ok (d.branched line condition? out) := by
  obtain ⟨line, closed, last?, items, branches, rfl⟩ := h
  refine ⟨line, ?_⟩
  simp only [Draft.addBranch, Block.nextBranch, Bool.false_or, branches]
  rfl

/-- Behind the lines of a branch the conditional is open with this branch. -/
lemma Draft.inCond_branch (d : Draft) (line : Nat) (condition? : Option String)
    (out : List Branch × Spot) (body : List Node) :
    d.InCond
      ((d.branched line condition? out).inBlock
        ⟨line, .cond out.1 condition? condition?.isNone, [], out.2.indent?⟩ d.stack
        (itemsOf d.passage.id out.2 body))
      condition?.isNone (branch d.passage.id out condition? body) :=
  ⟨line, out.1, condition?, (itemsOf d.passage.id out.2 body).1, rfl, rfl⟩

mutual

/-- Lines in which all blocks are closed add to the innermost open block what they denote. -/
theorem Body.inside {ls : List SourceLine} {ns : List Node} {d d' : Draft} {block : Block}
    {stack : List Block} {problems : List Problem} :
    Body ls ns → d.stack = block :: stack → Runs d ls d' problems →
      problems = [] ∧ d' = d.inBlock block stack (itemsOf d.passage.id (d.spot block) ns)
  | .nil, opened, run => by
    cases run
    refine ⟨rfl, ?_⟩
    obtain ⟨p, header, _, count⟩ := d
    cases opened
    simp only [itemsOf, Draft.inBlock, Draft.spot, List.append_nil]
  | .text valid more, opened, run => by
    rw [Draft.inBlock_cons]
    obtain ⟨between, step, rest⟩ := run.text valid
    cases Draft.step_text_inside opened valid step
    exact more.inside rfl rest
  | .adds valid more, opened, run => by
    have rest := run.next valid rfl
    rw [d.add_inside opened] at rest
    rw [Draft.inBlock_cons]
    exact more.inside rfl rest
  | .cond inner closes more, opened, run => by
    obtain ⟨between, first, second, lines, behind, rfl⟩ := run.split
    obtain ⟨rfl, inCond⟩ := inner.opened lines
    have rest := behind.next closes (inCond.close _)
    rw [Draft.addItems_inside opened] at rest
    rw [Draft.inBlock_cons]
    exact more.inside rfl rest
  | .loop opens inner closes more, opened, run => by
    obtain ⟨between, first, second, lines, behind, rfl⟩ := run.split
    obtain ⟨rfl, rfl⟩ := inner.inside rfl (lines.next opens rfl)
    have rest := behind.next closes (d.close_loop ..)
    rw [Draft.addItems_inside opened] at rest
    rw [Draft.inBlock_cons]
    exact more.inside rfl rest

/-- The lines of a conditional without its end leave it open with what they denote. -/
theorem Cond.opened {ls : List SourceLine} {limbs : List Limb} {otherwise? : Option (List Node)}
    {d d' : Draft} {problems : List Problem} :
    Cond ls limbs otherwise? → Runs d ls d' problems →
      problems = [] ∧ d.InCond d' otherwise?.isSome
        (condOf d.passage.id ⟨none, d.choiceCount⟩ limbs otherwise?)
  | .first opens inner, run => by
    obtain ⟨rfl, rfl⟩ := inner.inside rfl (run.next opens rfl)
    exact ⟨rfl, d.inCond_branch _ (some _) ([], ⟨none, d.choiceCount⟩) _⟩
  | .elif before opens inner, run => by
    obtain ⟨between, first, second, lines, behind, rfl⟩ := run.split
    obtain ⟨rfl, inCond⟩ := before.opened lines
    obtain ⟨line, adds⟩ := inCond.addBranch (some _) .elifAfterElse .elifWithoutIf
    obtain ⟨rfl, rfl⟩ := inner.inside rfl (behind.next opens (by rw [Draft.step, adds]; rfl))
    rw [condOf_elif]
    exact ⟨rfl, d.inCond_branch line (some _) _ _⟩
  | .otherwise before opens inner, run => by
    obtain ⟨between, first, second, lines, behind, rfl⟩ := run.split
    obtain ⟨rfl, inCond⟩ := before.opened lines
    obtain ⟨line, adds⟩ := inCond.addBranch none .secondElse .elseWithoutIf
    obtain ⟨rfl, rfl⟩ := inner.inside rfl (behind.next opens (by rw [Draft.step, adds]; rfl))
    rw [condOf_otherwise]
    exact ⟨rfl, d.inCond_branch line none _ _⟩

end

/-- The draft behind nodes outside all blocks. -/
def Draft.taking (d : Draft) (ns : List Node) : Draft :=
  { d with
    passage := (ns.foldl takeNode (d.passage, d.choiceCount)).1
    choiceCount := (ns.foldl takeNode (d.passage, d.choiceCount)).2 }

lemma Draft.add_outside (opened : d.stack = []) (entry : Entry) : d.add entry = d.taking [.adds entry] := by
  obtain ⟨p, header, _, count⟩ := d
  cases opened
  cases entry <;> rfl

lemma Draft.step_text_outside {l : SourceLine} (opened : d.stack = []) (valid : l.role? = some .text)
    {outcome : Draft × Option Fault} (h : d.step l .text = some outcome) :
    outcome = (d.taking [.text l.text], none) := by
  obtain ⟨p, header, _, count⟩ := d
  cases opened
  rw [Draft.step_text valid rfl] at h
  cases h
  rfl

/-- Lines in which all blocks are closed add to the passage what they denote. -/
theorem Body.outside {ls : List SourceLine} {ns : List Node} {d d' : Draft} {problems : List Problem} :
    Body ls ns → d.stack = [] → Runs d ls d' problems → problems = [] ∧ d' = d.taking ns
  | .nil, _, run => by
    cases run
    exact ⟨rfl, rfl⟩
  | .text valid more, opened, run => by
    obtain ⟨between, step, rest⟩ := run.text valid
    cases Draft.step_text_outside opened valid step
    exact more.outside (by exact opened) rest
  | .adds valid more, opened, run => by
    have rest := run.next valid rfl
    rw [d.add_outside opened] at rest
    exact more.outside (by exact opened) rest
  | .cond inner closes more, opened, run => by
    obtain ⟨between, first, second, lines, behind, rfl⟩ := run.split
    obtain ⟨rfl, inCond⟩ := inner.opened lines
    have rest := behind.next closes (inCond.close _)
    obtain ⟨p, header, _, count⟩ := d
    cases opened
    exact more.outside rfl rest
  | .loop opens inner closes more, opened, run => by
    obtain ⟨between, first, second, lines, behind, rfl⟩ := run.split
    obtain ⟨rfl, rfl⟩ := inner.inside rfl (lines.next opens rfl)
    have rest := behind.next closes (d.close_loop ..)
    obtain ⟨p, header, _, count⟩ := d
    cases opened
    exact more.outside rfl rest

end BranchingStory.Source
