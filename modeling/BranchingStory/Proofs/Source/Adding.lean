import Mathlib.Tactic.Tauto
import BranchingStory.Proofs.Source.Runs
import BranchingStory.Source.Assemble

/-!
# What a line adds to a passage

A line of an open passage does one of a few things to it, whatever it holds. From them follows what the
line brings in the way of links and of blocks: a link stands in the line itself, with the number of the
line, and so does the directive that opens a block; a line closes at most the innermost open block.
-/

namespace BranchingStory

/-- A link in the content of a passage, with the number of its line. -/
structure Link where
  target : String
  args : List Arg
  line : Nat

def Choice.link (c : Choice) : Link :=
  ⟨c.target, c.args, c.line⟩

mutual

/-- The links of an item: those of jumps and choices at every depth. -/
def ContentItem.links : ContentItem → List Link
  | .jump target args line => [⟨target, args, line⟩]
  | .choice c => [c.link]
  | .conditional branches => linksOfBranches branches
  | .loop _ _ body => linksOfItems body
  | _ => []

def linksOfBranches : List Branch → List Link
  | [] => []
  | { content, .. } :: branches => linksOfItems content ++ linksOfBranches branches

def linksOfItems : List ContentItem → List Link
  | [] => []
  | item :: items => item.links ++ linksOfItems items

end

def Passage.links (p : Passage) : List Link :=
  linksOfItems p.content ++ p.choices.map Choice.link

lemma linksOfItems_append (first second : List ContentItem) :
    linksOfItems (first ++ second) = linksOfItems first ++ linksOfItems second := by
  induction first with
  | nil => simp only [linksOfItems, List.nil_append]
  | cons item items ih => simp only [linksOfItems, List.cons_append, ih, List.append_assoc]

lemma linksOfItems_singleton (item : ContentItem) : linksOfItems [item] = item.links := by
  simp only [linksOfItems, List.append_nil]

lemma linksOfBranches_append (first second : List Branch) :
    linksOfBranches (first ++ second) = linksOfBranches first ++ linksOfBranches second := by
  induction first with
  | nil => simp only [linksOfBranches, List.nil_append]
  | cons branch branches ih =>
    obtain ⟨condition?, content⟩ := branch
    simp only [linksOfBranches, List.cons_append, ih, List.append_assoc]

namespace Source

open Text

/-- What is wrong with a link. -/
def LinkScope.problems (scope : LinkScope) (k : Link) : List Problem :=
  (link scope k.target k.args k.line).2

section Linking

variable (scope : LinkScope)

mutual

theorem problems_linkItem : (item : ContentItem) →
    (linkItem scope item).2 = item.links.flatMap scope.problems
  | .jump target args line => by
    simp only [linkItem, ContentItem.links, List.flatMap_singleton]
    rfl
  | .choice c => by
    simp only [linkItem, ContentItem.links, List.flatMap_singleton]
    rfl
  | .conditional branches => by
    simp only [linkItem, ContentItem.links]
    exact problems_linkBranches branches
  | .loop vars collection body => by
    simp only [linkItem, ContentItem.links]
    exact problems_linkItems body
  | .text _ | .expression .. | .render .. | .input .. | .command _ => by
    simp only [linkItem, ContentItem.links, List.flatMap_nil]

theorem problems_linkBranches : (branches : List Branch) →
    (linkBranches scope branches).2 = (linksOfBranches branches).flatMap scope.problems
  | [] => by simp only [linkBranches, linksOfBranches, List.flatMap_nil]
  | { condition?, content } :: branches => by
    simp only [linkBranches, linksOfBranches, List.flatMap_append]
    rw [problems_linkItems content, problems_linkBranches branches]

theorem problems_linkItems : (items : List ContentItem) →
    (linkItems scope items).2 = (linksOfItems items).flatMap scope.problems
  | [] => by simp only [linkItems, linksOfItems, List.flatMap_nil]
  | item :: items => by
    simp only [linkItems, linksOfItems, List.flatMap_append]
    rw [problems_linkItem item, problems_linkItems items]

end

lemma problems_linkChoices (choices : List Choice) :
    (linkChoices scope choices).2 = (choices.map Choice.link).flatMap scope.problems := by
  induction choices with
  | nil => rfl
  | cons c choices ih =>
    simp only [linkChoices, List.map_cons, List.flatMap_cons, ih]
    rfl

/-- What is wrong with the links of a passage, one by one. -/
theorem problems_linkPassage (params : List (String × List Param)) (file : String) (p : Passage) :
    (linkPassage params file p).2 = p.links.flatMap (LinkScope.problems ⟨params, p.namespace?, file⟩) := by
  simp only [linkPassage, Passage.links, List.flatMap_append, problems_linkItems, problems_linkChoices]

end Linking

lemma item_of_readJump {cs : List Char} {line : Nat} {item : ContentItem} (read : readJump cs line = .ok item) :
    ∃ target args line, item = .jump target args line := by
  unfold readJump at read
  simp only [bind_eq_ok, check_eq_ok, pure_eq_ok] at read
  obtain ⟨_, _, _, rfl⟩ := read
  exact ⟨_, _, _, rfl⟩

lemma item_of_readRender {cs : List Char} {item : ContentItem} (read : readRender cs = .ok item) :
    ∃ name args hint?, item = .render name args hint? := by
  unfold readRender at read
  simp only [bind_eq_ok, check_eq_ok, pure_eq_ok] at read
  obtain ⟨_, _, _, _, _, _, rfl⟩ := read
  exact ⟨_, _, _, rfl⟩

lemma item_of_readInput {cs : List Char} {item : ContentItem} (read : readInput cs = .ok item) :
    ∃ name label? placeholder?, item = .input name label? placeholder? := by
  unfold readInput at read
  simp only [bind_eq_ok] at read
  obtain ⟨_, _, read⟩ := read
  split at read
  · cases read
  · simp only [check_eq_ok, pure_eq_ok] at read
    obtain ⟨_, rfl⟩ := read
    exact ⟨_, _, _, rfl⟩

/-- What a line does to the passage that is open there. -/
inductive Effect (l : SourceLine) (d : Draft) : Draft → Prop where
  /-- Nothing, since it is faulty. -/
  | refused :
    Effect l d d
  | misread {text d'} :
    d.dedent l.text = some (text, d') →
    Effect l d d'
  | text {text d' items} :
    d.dedent l.text = some (text, d') →
    readTextLine text = .ok items →
    Effect l d (d'.addItems items)
  | jump {cs item} :
    dropFront? ['-', '>'] (trim l.text) = some cs →
    readJump cs l.line = .ok item →
    Effect l d (d.addItems [item])
  | choice {oneShot c} :
    Draft.choiceMark? (trim l.text) = some oneShot →
    readOffer ((trim l.text).drop 1) oneShot l.line = .ok c →
    Effect l d (d.add (.choice c))
  | embeds {item} :
    item.links = [] →
    Effect l d (d.addItems [item])
  | opensCond {condition} :
    Draft.directiveWord (trim l.text) = BlockKind.cond.opener.toList →
    Effect l d (d.openBlock l.line (.cond [] (some condition) false))
  | opensLoop {vars collection} :
    Draft.directiveWord (trim l.text) = BlockKind.loop.opener.toList →
    Effect l d (d.openBlock l.line (.loop vars collection))
  | branches {condition? afterElse outside d'} :
    d.addBranch condition? afterElse outside = .ok d' →
    Effect l d d'
  | closes {kind rest d'} :
    d.closeBlock kind rest = .ok d' →
    Effect l d d'

namespace Draft

variable {d d' : Draft} {l : SourceLine}

lemma effect_jump {cs : List Char} (mark : dropFront? ['-', '>'] (trim l.text) = some cs)
    (h : d.addJump cs l.line = .ok d') : Effect l d d' := by
  rw [d.addJump_eq, map_eq_ok] at h
  obtain ⟨item, read, rfl⟩ := h
  exact .jump mark read

lemma effect_choice {oneShot : Bool} (mark : choiceMark? (trim l.text) = some oneShot)
    (h : d.readChoice ((trim l.text).drop 1) oneShot l.line = .ok d') : Effect l d d' := by
  rw [d.readChoice_eq, map_eq_ok] at h
  obtain ⟨c, read, rfl⟩ := h
  exact .choice mark read

lemma effect_obey (h : d.obey (trim l.text) l.line = .ok d') : Effect l d d' := by
  -- The word of a directive is that of the line, which cannot be any other one.
  have spelled {word : String} (same : String.ofList (directiveWord (trim l.text)) = word) :
      directiveWord (trim l.text) = word.toList := by
    rw [← same, String.toList_ofList]
  unfold obey at h
  simp only at h
  split at h
  · next word =>
    simp only [bind_eq_ok, pure_eq_ok] at h
    obtain ⟨condition, _, rfl⟩ := h
    exact .opensCond (spelled word)
  · simp only [bind_eq_ok] at h
    obtain ⟨_, _, added⟩ := h
    exact .branches added
  · simp only [check_eq_ok] at h
    exact .branches h.2
  · exact .closes h
  · exact .closes h
  · next word =>
    simp only [bind_eq_ok, pure_eq_ok] at h
    obtain ⟨_, _, rfl⟩ := h
    exact .opensLoop (spelled word)
  · simp only [bind_eq_ok, pure_eq_ok] at h
    obtain ⟨item, read, rfl⟩ := h
    refine .embeds ?_
    obtain ⟨name, args, hint?, rfl⟩ := item_of_readRender read
    simp only [ContentItem.links]
  · simp only [bind_eq_ok, pure_eq_ok] at h
    obtain ⟨item, read, rfl⟩ := h
    refine .embeds ?_
    obtain ⟨name, label?, placeholder?, rfl⟩ := item_of_readInput read
    simp only [ContentItem.links]
  · cases h
  · cases h

lemma effect_text {text : List Char} {d₁ : Draft} (dedented : d.dedent l.text = some (text, d₁))
    (h : d₁.addText text = .ok d') : Effect l d d' := by
  rw [d₁.addText_eq, map_eq_ok] at h
  obtain ⟨items, read, rfl⟩ := h
  exact .text dedented read

/-- A line does what its form says, and nothing if it is faulty. -/
theorem effect_readLine {fault? : Option Fault} (h : d.readLine l = some (d', fault?)) : Effect l d d' := by
  have settled {step : Except Fault Draft} {start : Draft} (still : Effect l d start)
      (ok : ∀ d', step = .ok d' → Effect l d d') (same : start.settle step = (d', fault?)) :
      Effect l d d' := by
    cases step with
    | error fault =>
      cases same
      exact still
    | ok after =>
      cases same
      exact ok _ rfl
  unfold readLine at h
  simp only at h
  split at h
  · exact settled .refused (fun _ => effect_obey) (Option.some.inj h)
  · next mark _ => exact settled .refused (fun _ => effect_jump mark) (Option.some.inj h)
  · next mark _ => exact settled .refused (fun _ => effect_choice mark) (Option.some.inj h)
  · simp only [Option.map_eq_some_iff] at h
    obtain ⟨⟨text, dedented⟩, cut, same⟩ := h
    exact settled (.misread cut) (fun _ => effect_text cut) same

end Draft

/-- Whether a link stands in a line. -/
inductive SourceLine.Brings (l : SourceLine) : Link → Prop where
  | jump {cs target args line} :
    dropFront? ['-', '>'] (trim l.text) = some cs →
    readJump cs l.line = .ok (.jump target args line) →
    Brings l ⟨target, args, line⟩
  | choice {oneShot c} :
    Draft.choiceMark? (trim l.text) = some oneShot →
    readOffer ((trim l.text).drop 1) oneShot l.line = .ok c →
    Brings l c.link

/-- Whether the directive of a line is the one that opens blocks of a kind. -/
def SourceLine.Opens (l : SourceLine) (kind : BlockKind) : Prop :=
  Draft.directiveWord (trim l.text) = kind.opener.toList

/-- A link has the number of its line. -/
lemma SourceLine.Brings.line_eq {l : SourceLine} {k : Link} (brings : l.Brings k) : k.line = l.line := by
  cases brings with
  | jump _ read =>
    unfold readJump at read
    simp only [bind_eq_ok, check_eq_ok, pure_eq_ok] at read
    obtain ⟨_, _, _, same⟩ := read
    cases same
    rfl
  | choice _ read =>
    unfold readOffer at read
    simp only [bind_eq_ok] at read
    obtain ⟨_, _, _, _, read⟩ := read
    split at read
    · split at read
      · cases read
      · simp only [bind_eq_ok] at read
        obtain ⟨_, _, read⟩ := read
        split at read
        · cases read
        · simp only [bind_eq_ok, check_eq_ok, pure_eq_ok] at read
          obtain ⟨_, _, _, rfl⟩ := read
          rfl
    · cases read

namespace Draft

/-- The links of a passage in the making, those of its open blocks included. -/
def links (d : Draft) : List Link :=
  d.passage.links ++ d.stack.flatMap fun block => block.toItem.links

/-- The lines and kinds of the open blocks, the innermost first. -/
def marks (d : Draft) : List (Nat × BlockKind) :=
  d.stack.map fun block => (block.line, block.kind)

variable {d d' : Draft}

lemma links_addItems (d : Draft) (items : List ContentItem) {k : Link} (member : k ∈ (d.addItems items).links) :
    k ∈ d.links ∨ k ∈ linksOfItems items := by
  obtain ⟨p, header, stack, count⟩ := d
  cases stack with
  | nil =>
    simp only [addItems, links, Passage.links, linksOfItems_append, List.mem_append] at member ⊢
    tauto
  | cons block stack =>
    obtain ⟨line, form, inside, indent?⟩ := block
    cases form <;>
    · simp only [addItems, links, Block.toItem, List.flatMap_cons, ContentItem.links,
        linksOfBranches_append, linksOfBranches, linksOfItems_append, List.mem_append] at member ⊢
      tauto

lemma marks_addItems (d : Draft) (items : List ContentItem) : (d.addItems items).marks = d.marks := by
  obtain ⟨p, header, stack, count⟩ := d
  cases stack <;> rfl

lemma links_addBreak (d : Draft) {k : Link} (member : k ∈ d.addBreak.links) : k ∈ d.links := by
  rcases d.links_addItems _ member with old | new
  · exact old
  · rw [linksOfItems_singleton] at new
    simp only [ContentItem.links, List.not_mem_nil] at new

lemma links_addCommand (d : Draft) (c : Command) {k : Link} (member : k ∈ (d.addCommand c).links) :
    k ∈ d.links := by
  obtain ⟨p, header, stack, count⟩ := d
  cases stack with
  | nil => exact member
  | cons block stack =>
    rcases links_addItems _ _ member with old | new
    · exact old
    · rw [linksOfItems_singleton] at new
      simp only [ContentItem.links, List.not_mem_nil] at new

lemma links_addChoice (d : Draft) (c : Choice) {k : Link} (member : k ∈ (d.addChoice c).links) :
    k ∈ d.links ∨ k = c.link := by
  obtain ⟨p, header, stack, count⟩ := d
  cases stack with
  | nil =>
    simp only [addChoice, links, Passage.links, List.map_append, List.map_singleton, List.mem_append,
      List.mem_singleton] at member ⊢
    tauto
  | cons block stack =>
    rcases links_addItems _ _ member with old | new
    · exact .inl old
    · rw [linksOfItems_singleton] at new
      simp only [ContentItem.links, List.mem_singleton] at new
      exact .inr new

lemma marks_addChoice (d : Draft) (c : Choice) : (d.addChoice c).marks = d.marks := by
  obtain ⟨p, header, stack, count⟩ := d
  cases stack <;> rfl

lemma marks_addCommand (d : Draft) (c : Command) : (d.addCommand c).marks = d.marks := by
  obtain ⟨p, header, stack, count⟩ := d
  cases stack <;> rfl

end Draft

/-- What may change of a passage in the making at a line: it gets links that stand in the line, and one
block is opened there or one is closed. -/
structure Draft.Grows (l : SourceLine) (d d' : Draft) : Prop where
  continues : d.Continues d'
  links : ∀ k ∈ d'.links, k ∈ d.links ∨ l.Brings k
  marks : d'.marks = d.marks ∨ (∃ kind, l.Opens kind ∧ d'.marks = (l.line, kind) :: d.marks) ∨
    ∃ mark, d.marks = mark :: d'.marks

section Growth

variable {l : SourceLine} {d d' : Draft}

lemma Draft.Grows.refl (l : SourceLine) (d : Draft) : d.Grows l d :=
  ⟨⟨rfl, rfl⟩, fun _ => .inl, .inl rfl⟩

lemma Draft.grows_addBranch {condition? : Option String} {afterElse outside : Fault}
    (h : d.addBranch condition? afterElse outside = .ok d') : d.Grows l d' := by
  obtain ⟨p, header, stack, count⟩ := d
  rcases stack with _ | ⟨⟨line, ⟨closed, open?, _ | _⟩ | _, items, indent?⟩, stack⟩ <;> cases h
  refine ⟨⟨rfl, rfl⟩, ?_, .inl rfl⟩
  intro k member
  left
  simpa only [Draft.links, Block.nextBranch, Block.toItem, List.flatMap_cons, ContentItem.links,
    linksOfBranches_append, linksOfBranches, linksOfItems, List.append_nil] using member

lemma Draft.grows_closeBlock {kind : BlockKind} {rest : List Char} (h : d.closeBlock kind rest = .ok d') :
    d.Grows l d' := by
  unfold Draft.closeBlock at h
  simp only at h
  split at h
  · split at h <;> cases h
  · split at h
    · cases h
    · next block stack opened =>
      simp only [check_eq_ok, pure_eq_ok] at h
      obtain ⟨_, rfl⟩ := h
      refine ⟨⟨(continues_addItems _ _).id, (continues_addItems _ _).header⟩, ?_, .inr (.inr ?_)⟩
      · intro k member
        left
        rcases links_addItems _ _ member with old | inside
        · simp only [Draft.links, opened, List.flatMap_cons, List.mem_append] at old ⊢
          tauto
        · rw [linksOfItems_singleton] at inside
          simp only [Draft.links, opened, List.flatMap_cons, List.mem_append]
          tauto
      · refine ⟨(block.line, block.kind), ?_⟩
        rw [marks_addItems]
        simp only [Draft.marks, opened, List.map_cons]

lemma Draft.links_dedent {text rest : List Char} (h : d.dedent text = some (rest, d')) :
    d'.links = d.links ∧ d'.marks = d.marks := by
  rcases dedent_eq_some h with ⟨_, _, rfl⟩ | ⟨block, stack, base, opened, _, _, rfl⟩
  · exact ⟨rfl, rfl⟩
  · unfold Draft.links Draft.marks
    rw [opened]
    exact ⟨rfl, rfl⟩

lemma links_literalItem (literal : List Char) : linksOfItems (literalItem literal) = [] := by
  unfold literalItem
  split <;> simp only [linksOfItems, ContentItem.links, List.append_nil]

/-- Text brings no links. -/
lemma links_readText {cs : List Char} {items : List ContentItem} (read : readText cs = .ok items) :
    linksOfItems items = [] := by
  unfold readText at read
  generalize ([] : List Char) = literal at read
  fun_induction readTextFrom literal cs generalizing items with
  | case1 literal =>
    cases read
    exact links_literalItem literal
  | case2 _ _ ih => exact ih read
  | case3 _ _ ih => exact ih read
  | case4 => cases read
  | case5 literal rest _ inside behind found ih =>
    simp only [bind_eq_ok, pure_eq_ok] at read
    obtain ⟨item, readItem, more, readMore, rfl⟩ := read
    have none : item.links = [] := by
      unfold readInterpolation at readItem
      simp only [check_eq_ok, bind_eq_ok, pure_eq_ok] at readItem
      obtain ⟨_, _, _, rfl⟩ := readItem
      simp only [ContentItem.links]
    rw [linksOfItems_append, links_literalItem, linksOfItems, none, ih readMore]
    rfl
  | case6 _ _ _ _ _ _ ih => exact ih read

lemma links_readTextLine {text : List Char} {items : List ContentItem}
    (read : readTextLine text = .ok items) : linksOfItems items = [] := by
  unfold readTextLine at read
  simp only at read
  split at read
  · cases read
    simp only [linksOfItems]
  · split at read
    · exact links_readText read
    · rw [map_eq_ok] at read
      obtain ⟨plain, read, rfl⟩ := read
      rw [linksOfItems_append, links_readText read, linksOfItems_singleton]
      simp only [ContentItem.links, List.append_nil]

theorem Effect.grows (effect : Effect l d d') : d.Grows l d' := by
  cases effect with
  | refused => exact .refl l d
  | misread cut =>
    obtain ⟨links, marks⟩ := Draft.links_dedent cut
    exact ⟨Draft.continues_dedent cut, fun k member => .inl (links ▸ member), .inl marks⟩
  | @text _ d₁ items cut read =>
    obtain ⟨links, marks⟩ := Draft.links_dedent cut
    refine ⟨(Draft.continues_dedent cut).trans (d₁.continues_addItems _), ?_, ?_⟩
    · intro k member
      rcases d₁.links_addItems items member with old | new
      · exact .inl (links ▸ old)
      · rw [links_readTextLine read] at new
        cases new
    · rw [d₁.marks_addItems, marks]
      exact .inl rfl
  | @jump cs item mark read =>
    refine ⟨d.continues_addItems _, ?_, .inl (d.marks_addItems _)⟩
    intro k member
    rcases d.links_addItems _ member with old | new
    · exact .inl old
    · right
      rw [linksOfItems_singleton] at new
      obtain ⟨target, args, line, rfl⟩ := item_of_readJump read
      simp only [ContentItem.links, List.mem_singleton] at new
      rw [new]
      exact .jump mark read
  | @choice oneShot c mark read =>
    refine ⟨d.continues_add _, ?_, .inl (d.marks_addChoice _)⟩
    intro k member
    refine (d.links_addChoice _ member).imp_right fun new => ?_
    -- The key that a choice gets in its passage says nothing about where it leads.
    have same : (numbered d.passage.id d.choiceCount c).link = c.link := rfl
    rw [new, same]
    exact .choice mark read
  | @embeds item none =>
    refine ⟨d.continues_addItems _, ?_, .inl (d.marks_addItems _)⟩
    intro k member
    rcases d.links_addItems _ member with old | new
    · exact .inl old
    · rw [linksOfItems_singleton, none] at new
      cases new
  | opensCond word =>
    refine ⟨⟨rfl, rfl⟩, ?_, .inr (.inl ⟨.cond, word, rfl⟩)⟩
    intro k member
    left
    simpa only [Draft.links, Draft.openBlock, List.flatMap_cons, Block.toItem, List.nil_append,
      ContentItem.links, linksOfBranches, linksOfItems] using member
  | opensLoop word =>
    refine ⟨⟨rfl, rfl⟩, ?_, .inr (.inl ⟨.loop, word, rfl⟩)⟩
    intro k member
    left
    simpa only [Draft.links, Draft.openBlock, List.flatMap_cons, Block.toItem, List.nil_append,
      ContentItem.links, linksOfItems] using member
  | branches added => exact Draft.grows_addBranch added
  | closes closed => exact Draft.grows_closeBlock closed

end Growth

end Source

end BranchingStory
