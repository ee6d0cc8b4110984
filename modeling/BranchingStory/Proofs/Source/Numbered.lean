import BranchingStory.Proofs.Source.Adding
import BranchingStory.Proofs.Source.Logical
import BranchingStory.Proofs.Story.Choices

/-!
# Numbered choices

The choices of a passage come from lines of its own, one from each line with a choice, whatever blocks the
lines stand in. Their keys are numbered in the order of the lines.
-/

namespace BranchingStory

mutual

/-- A choice inside an item is a link of it. -/
theorem link_mem_links {c : Choice} : (item : ContentItem) → c ∈ item.nestedChoices → c.link ∈ item.links
  | .choice other, member => by
    rw [ContentItem.nestedChoices] at member
    rw [ContentItem.links, List.mem_singleton.mp member]
    exact List.mem_singleton_self _
  | .conditional branches, member => by
    rw [ContentItem.nestedChoices] at member
    rw [ContentItem.links]
    exact link_mem_linksOfBranches branches member
  | .loop vars collection body, member => by
    rw [ContentItem.nestedChoices] at member
    rw [ContentItem.links]
    exact link_mem_linksOfItems body member
  | .text _, member | .expression .., member | .jump .., member | .render .., member | .input .., member
  | .command _, member => by
    simp only [ContentItem.nestedChoices] at member
    cases member

theorem link_mem_linksOfBranches {c : Choice} : (branches : List Branch) → c ∈ choicesOfBranches branches →
    c.link ∈ linksOfBranches branches
  | [], member => by
    rw [choicesOfBranches] at member
    cases member
  | { condition?, content } :: branches, member => by
    rw [choicesOfBranches] at member
    rw [linksOfBranches]
    rcases List.mem_append.mp member with inside | behind
    · exact List.mem_append_left _ (link_mem_linksOfItems content inside)
    · exact List.mem_append_right _ (link_mem_linksOfBranches branches behind)

theorem link_mem_linksOfItems {c : Choice} : (items : List ContentItem) → c ∈ choicesOfItems items →
    c.link ∈ linksOfItems items
  | [], member => by
    rw [choicesOfItems] at member
    cases member
  | item :: items, member => by
    rw [choicesOfItems] at member
    rw [linksOfItems]
    rcases List.mem_append.mp member with first | behind
    · exact List.mem_append_left _ (link_mem_links item first)
    · exact List.mem_append_right _ (link_mem_linksOfItems items behind)

end

/-- Content without links has no choices. -/
lemma choicesOfItems_eq_nil {items : List ContentItem} (none : linksOfItems items = []) :
    choicesOfItems items = [] := by
  refine List.eq_nil_iff_forall_not_mem.mpr fun c member => ?_
  have link := link_mem_linksOfItems items member
  rw [none] at link
  cases link

/-- Whether an item has no other items inside it. -/
def ContentItem.isLeaf : ContentItem → Bool
  | .conditional _ | .loop .. | .choice _ => false
  | _ => true

lemma nestedChoices_leaf {item : ContentItem} (leaf : item.isLeaf) : item.nestedChoices = [] := by
  cases item with
  | conditional | loop | choice => cases leaf
  | _ => rw [ContentItem.nestedChoices] <;> exact nofun

namespace Source

open Text

/-- The choice that a line spells, without its key. -/
def SourceLine.offer? (l : SourceLine) : Option Choice :=
  match l.role? with
  | some (.adds (.choice c)) => some c
  | _ => none

/-- The choices that lines spell, in the order of the lines. -/
def offersOf (ls : List SourceLine) : List Choice :=
  ls.filterMap SourceLine.offer?

/-- Choices with the keys that they get behind so many others of a passage. -/
def numberFrom (id : String) (count : Nat) : List Choice → List Choice
  | [] => []
  | c :: choices => numbered id count c :: numberFrom id (count + 1) choices

/-- Whether choices are those of lines behind so many others, and how many there are behind them. -/
structure Numbers (id : String) (count : Nat) (ls : List SourceLine) (choices : List Choice) (count' : Nat) :
    Prop where
  choices : choices = numberFrom id count (offersOf ls)
  count : count' = count + (offersOf ls).length

section Numbering

variable {id : String} {l : SourceLine}

lemma numberFrom_append (id : String) (count : Nat) (first second : List Choice) :
    numberFrom id count (first ++ second) =
      numberFrom id count first ++ numberFrom id (count + first.length) second := by
  induction first generalizing count with
  | nil => rfl
  | cons c first ih =>
    rw [List.cons_append, numberFrom, ih, numberFrom, List.cons_append, List.length_cons, Nat.add_right_comm,
      Nat.add_assoc]

namespace Numbers

lemma append {ls ls' : List SourceLine} {choices choices' : List Choice} {count count' count'' : Nat}
    (first : Numbers id count ls choices count') (second : Numbers id count' ls' choices' count'') :
    Numbers id count (ls ++ ls') (choices ++ choices') count'' := by
  have whole : offersOf (ls ++ ls') = offersOf ls ++ offersOf ls' := List.filterMap_append
  constructor
  · rw [whole, numberFrom_append, ← first.count, ← first.choices, ← second.choices]
  · rw [whole, second.count, first.count, List.length_append, Nat.add_assoc]

lemma nil (count : Nat) : Numbers id count [] [] count :=
  ⟨rfl, rfl⟩

/-- A line without a choice has no number. -/
lemma before (noOffer : l.offer? = none) {ls : List SourceLine} {choices : List Choice} {count count' : Nat}
    (numbers : Numbers id count ls choices count') : Numbers id count (l :: ls) choices count' := by
  have same : offersOf (l :: ls) = offersOf ls := List.filterMap_cons_none noOffer
  exact ⟨same ▸ numbers.choices, same ▸ numbers.count⟩

lemma behind (noOffer : l.offer? = none) {ls : List SourceLine} {choices : List Choice} {count count' : Nat}
    (numbers : Numbers id count ls choices count') : Numbers id count (ls ++ [l]) choices count' := by
  have whole := numbers.append (before noOffer (nil count'))
  rwa [List.append_nil] at whole

lemma offer {c : Choice} (offers : l.offer? = some c) {ls : List SourceLine} {choices : List Choice}
    {count count' : Nat} (numbers : Numbers id (count + 1) ls choices count') :
    Numbers id count (l :: ls) (numbered id count c :: choices) count' := by
  have more : offersOf (l :: ls) = c :: offersOf ls := List.filterMap_cons_some offers
  constructor
  · rw [more, numberFrom, ← numbers.choices]
  · rw [more, numbers.count, List.length_cons, Nat.add_assoc, Nat.add_comm 1]

end Numbers

lemma offer?_other {role : Role} (valid : l.role? = some role) (other : ∀ c, role ≠ .adds (.choice c)) :
    l.offer? = none := by
  unfold SourceLine.offer?
  split
  · next c here => exact absurd (Option.some.inj (valid.symm.trans here)) (other c)
  · rfl

lemma offer?_choice {c : Choice} (valid : l.role? = some (.adds (.choice c))) : l.offer? = some c := by
  unfold SourceLine.offer?
  rw [valid]

lemma choices_textItems (text : List Char) : choicesOfItems (textItems text) = [] := by
  unfold textItems
  cases read : readTextLine text with
  | error fault => rfl
  | ok items => exact choicesOfItems_eq_nil (links_readTextLine read)

/-- What a line can add by itself: one item with no others inside it, a command or a choice. -/
inductive Entry.ComesOf (l : SourceLine) : Entry → Prop where
  | item {item : ContentItem} :
    item.isLeaf →
    ComesOf l (.items [item])
  | command {code c} :
    readCommand code l.line = .ok c →
    ComesOf l (.command c)
  | choice {oneShot c} :
    readOffer ((trim l.text).drop 1) oneShot l.line = .ok c →
    ComesOf l (.choice c)

lemma comesOf_role {entry : Entry} (valid : l.role? = some (.adds entry)) : entry.ComesOf l := by
  unfold SourceLine.role? at valid
  simp only at valid
  split at valid
  · cases valid
  · split at valid
    · cases valid
      exact .item rfl
    · split at valid
      · cases valid
      · simp only [Option.map_eq_some_iff, toOption_eq_some, Role.adds.injEq] at valid
        obtain ⟨c, read, rfl⟩ := valid
        exact .command read
    · unfold directiveRole? at valid
      simp only at valid
      split at valid
      case h_7 =>
        simp only [Option.map_eq_some_iff, toOption_eq_some, Role.adds.injEq] at valid
        obtain ⟨item, read, rfl⟩ := valid
        obtain ⟨name, args, hint?, rfl⟩ := item_of_readRender read
        exact .item rfl
      case h_8 =>
        simp only [Option.map_eq_some_iff, toOption_eq_some, Role.adds.injEq] at valid
        obtain ⟨item, read, rfl⟩ := valid
        obtain ⟨name, label?, placeholder?, rfl⟩ := item_of_readInput read
        exact .item rfl
      all_goals
        first
        | simp only [Option.map_eq_some_iff, reduceCtorEq, and_false, exists_false] at valid
        | (split at valid <;> cases valid)
    · split at valid
      · simp only [Option.map_eq_some_iff, toOption_eq_some, Role.adds.injEq] at valid
        obtain ⟨item, read, rfl⟩ := valid
        obtain ⟨target, args, line, rfl⟩ := item_of_readJump read
        exact .item rfl
      · simp only [Option.map_eq_some_iff, toOption_eq_some, Role.adds.injEq] at valid
        obtain ⟨c, read, rfl⟩ := valid
        exact .choice read
      · simp only [Option.map_eq_some_iff, reduceCtorEq, and_false, exists_false] at valid

/-- The items of a line are no choices. -/
lemma choices_of_role {items : List ContentItem} (valid : l.role? = some (.adds (.items items))) :
    choicesOfItems items = [] := by
  cases comesOf_role valid with
  | item leaf => rw [choicesOfItems_singleton, nestedChoices_leaf leaf]

mutual

/-- The choices in a block are numbered in the order of its lines. -/
theorem Body.numbers {ls : List SourceLine} {ns : List Node} : Body ls ns → (s : Spot) →
    Numbers id s.count ls (choicesOfItems (itemsOf id s ns).1) (itemsOf id s ns).2.count
  | .nil, s => by
    rw [itemsOf, choicesOfItems]
    exact .nil s.count
  | @Body.text l ls ns valid rest, s => by
    have behind := rest.numbers ⟨some (s.indent?.getD (byteLength (indentation l.text))), s.count⟩
    simp only [itemsOf, Node.items, choicesOfItems_append, choices_textItems, List.nil_append]
    exact .before (offer?_other valid nofun) behind
  | @Body.adds _ (.items items) _ _ valid rest, s => by
    simp only [itemsOf, Node.items, choicesOfItems_append, choices_of_role valid, List.nil_append]
    exact .before (offer?_other valid nofun) (rest.numbers s)
  | @Body.adds _ (.command c) _ _ valid rest, s => by
    have none : (ContentItem.command c).nestedChoices = [] := by
      rw [ContentItem.nestedChoices] <;> exact nofun
    simp only [itemsOf, Node.items, choicesOfItems_append, choicesOfItems_singleton, none, List.nil_append]
    exact .before (offer?_other valid nofun) (rest.numbers s)
  | @Body.adds _ (.choice c) _ _ valid rest, s => by
    simp only [itemsOf, Node.items, choicesOfItems_append, choicesOfItems_singleton, ContentItem.nestedChoices]
    exact .offer (offer?_choice valid) (rest.numbers { s with count := s.count + 1 })
  | @Body.cond block limbs otherwise? closer ls ns inside ends rest, s => by
    have within := (inside.numbers ⟨none, s.count⟩).behind (offer?_other ends nofun)
    have whole := within.append (rest.numbers ⟨s.indent?, _⟩)
    simp only [itemsOf, Node.items, choicesOfItems_append, choicesOfItems_singleton, ContentItem.nestedChoices]
    rwa [List.append_cons]
  | @Body.loop opener vars collection inner body closer ls ns opens inside ends rest, s => by
    have opened := (inside.numbers ⟨none, s.count⟩).before (offer?_other opens nofun)
    have within := opened.behind (offer?_other ends nofun)
    have whole := within.append (rest.numbers ⟨s.indent?, _⟩)
    simp only [itemsOf, Node.items, choicesOfItems_append, choicesOfItems_singleton, ContentItem.nestedChoices]
    rwa [List.append_cons]

/-- The choices in a conditional are numbered in the order of its lines. -/
theorem Cond.numbers {block : List SourceLine} {limbs : List Limb} {otherwise? : Option (List Node)} :
    Cond block limbs otherwise? → (s : Spot) →
    Numbers id s.count block
      (choicesOfBranches ((branchesOf id s limbs).1 ++ (lastOf id (branchesOf id s limbs).2 otherwise?).1))
      (lastOf id (branchesOf id s limbs).2 otherwise?).2.count
  | .first opens inside, s => by
    have within := (inside.numbers s).before (offer?_other opens nofun)
    simpa only [branchesOf, lastOf, List.append_nil, choicesOfBranches] using within
  | @Cond.elif block limbs l condition inner body before opens inside, s => by
    have within := (inside.numbers (branchesOf id s limbs).2).before (offer?_other opens nofun)
    have whole := (before.numbers s).append within
    simp only [lastOf, List.append_nil] at whole
    simpa only [branchesOf_append, branchesOf, lastOf, List.append_nil, choicesOfBranches_append,
      choicesOfBranches] using whole
  | @Cond.otherwise block limbs l inner body before opens inside, s => by
    have within := (inside.numbers (branchesOf id s limbs).2).before (offer?_other opens nofun)
    have whole := (before.numbers s).append within
    simp only [lastOf, List.append_nil] at whole
    simpa only [lastOf, choicesOfBranches_append, choicesOfBranches, List.append_nil] using whole

end

/-- Whether lines bring a passage their choices, numbered behind those that it has, and nothing else changes. -/
def GainsChoices (ls : List SourceLine) (s s' : Passage × Nat) : Prop :=
  s'.1.id = s.1.id ∧
    ∃ choices, Numbers s.1.id s.2 ls choices s'.2 ∧ s'.1.allChoices.Perm (s.1.allChoices ++ choices)

lemma GainsChoices.trans {ls ls' : List SourceLine} {s s' s'' : Passage × Nat} (first : GainsChoices ls s s')
    (second : GainsChoices ls' s' s'') : GainsChoices (ls ++ ls') s s'' := by
  obtain ⟨id, choices, numbers, perm⟩ := first
  obtain ⟨id', choices', numbers', perm'⟩ := second
  rw [id] at numbers'
  refine ⟨id'.trans id, choices ++ choices', numbers.append numbers', perm'.trans ?_⟩
  rw [← List.append_assoc]
  exact perm.append_right choices'

/-- More content brings the choices inside it. -/
lemma gainsChoices_content {ls : List SourceLine} {p : Passage} {count count' : Nat} {items : List ContentItem}
    (numbers : Numbers p.id count ls (choicesOfItems items) count') :
    GainsChoices ls (p, count) ({ p with content := p.content ++ items }, count') := by
  refine ⟨rfl, _, numbers, ?_⟩
  simp only [Passage.allChoices, choicesOfItems_append, List.append_assoc]
  exact (List.perm_append_comm).append_left _

/-- The choices of a passage are numbered in the order of its lines, whether they stand inside blocks or not. -/
theorem Body.gainsChoices {ls : List SourceLine} {ns : List Node} : Body ls ns → (s : Passage × Nat) →
    GainsChoices ls s (ns.foldl takeNode s)
  | .nil, s => ⟨rfl, [], .nil s.2, by rw [List.append_nil]; exact .refl _⟩
  | @Body.text l ls ns valid rest, s => by
    have step : GainsChoices [l] s (takeNode s (.text l.text)) := by
      refine gainsChoices_content ?_
      rw [choices_textItems]
      exact .before (offer?_other valid nofun) (.nil s.2)
    exact step.trans (rest.gainsChoices _)
  | @Body.adds l (.items items) _ _ valid rest, s => by
    have step : GainsChoices [l] s (takeNode s (.adds (.items items))) := by
      refine gainsChoices_content ?_
      rw [choices_of_role valid]
      exact .before (offer?_other valid nofun) (.nil s.2)
    exact step.trans (rest.gainsChoices _)
  | @Body.adds l (.command c) _ _ valid rest, s => by
    have step : GainsChoices [l] s (takeNode s (.adds (.command c))) := by
      refine ⟨rfl, [], .before (offer?_other valid nofun) (.nil s.2), ?_⟩
      rw [List.append_nil]
      exact .refl _
    exact step.trans (rest.gainsChoices _)
  | @Body.adds l (.choice c) _ _ valid rest, s => by
    have step : GainsChoices [l] s (takeNode s (.adds (.choice c))) := by
      refine ⟨rfl, [numbered s.1.id s.2 c], .offer (offer?_choice valid) (.nil _), ?_⟩
      simp only [Passage.allChoices, takeNode, List.append_assoc]
      exact .refl _
    exact step.trans (rest.gainsChoices _)
  | @Body.cond block limbs otherwise? closer ls ns inside ends rest, s => by
    have step : GainsChoices (block ++ [closer]) s (takeNode s (.cond limbs otherwise?)) := by
      refine gainsChoices_content ?_
      rw [choicesOfItems_singleton, ContentItem.nestedChoices]
      exact (inside.numbers ⟨none, s.2⟩).behind (offer?_other ends nofun)
    rw [List.append_cons]
    exact step.trans (rest.gainsChoices _)
  | @Body.loop opener vars collection inner body closer ls ns opens inside ends rest, s => by
    have step : GainsChoices (opener :: inner ++ [closer]) s (takeNode s (.loop vars collection body)) := by
      refine gainsChoices_content ?_
      rw [choicesOfItems_singleton, ContentItem.nestedChoices]
      exact ((inside.numbers ⟨none, s.2⟩).before (offer?_other opens nofun)).behind (offer?_other ends nofun)
    rw [List.append_cons]
    exact step.trans (rest.gainsChoices _)

end Numbering

/-! ## Lines with choices -/

lemma offer?_statement (l : SourceLine) (code : List Char) : (l.statement code).offer? = none := by
  unfold SourceLine.offer?
  split
  · next c spelled =>
    unfold SourceLine.role? SourceLine.statement at spelled
    simp only [trim_tilde] at spelled
    split at spelled
    · cases spelled
    · split at spelled
      · cases spelled
      · simp only [Option.map_eq_some_iff, Role.adds.injEq, reduceCtorEq, and_false, exists_false] at spelled
  · rfl

/-- The lines with choices of a passage are lines of the source, in their order. -/
theorem passageLines_offers (lines : List SourceLine) :
    ((passageLines lines).filter (·.offer?.isSome)).Sublist lines := by
  refine passageLines_sublist (fun l code => ?_) lines
  rw [offer?_statement]
  exact Bool.false_ne_true

/-- Whether a line spells a choice, but for its key and for what its target is resolved to. -/
def SourceLine.Spells (l : SourceLine) (c : Choice) : Prop :=
  ∃ key target, l.offer? = some { c with key, target }

/-- Whether a line is the header of a passage. -/
def SourceLine.IsHeaderOf (l : SourceLine) (p : Passage) : Prop :=
  ∃ header opened, dropFront? [':', ':'] (trim l.text) = some header ∧ readHeader header = .ok opened ∧
    opened.id = p.id

/-- Whether choices are all those of a passage, in the order of the lines behind a header that spell them:
they are numbered from zero on. -/
structure SpelledBy (p : Passage) (lines : List SourceLine) (choices : List Choice) : Prop where
  spelled : List.Forall₂ SourceLine.Spells ((passageLines lines).filter (·.offer?.isSome)) choices
  whole : choices.Perm p.allChoices
  keys : choices.map (·.key) = (List.range choices.length).map fun n => p.id ++ "#" ++ toString n

lemma keys_numberFrom (id : String) (count : Nat) (choices : List Choice) :
    (numberFrom id count choices).map (·.key) =
      (List.range' count choices.length).map fun n => id ++ "#" ++ toString n := by
  induction choices generalizing count with
  | nil => rfl
  | cons c choices ih =>
    rw [numberFrom, List.map_cons, ih, List.length_cons, List.range'_succ, List.map_cons]
    rfl

lemma length_numberFrom (id : String) (count : Nat) (choices : List Choice) :
    (numberFrom id count choices).length = choices.length := by
  have keys := congrArg List.length (keys_numberFrom id count choices)
  rwa [List.length_map, List.length_map, List.length_range'] at keys

/-- A header opens a passage without choices. -/
lemma allChoices_readHeader {header : List Char} {p : Passage} (read : readHeader header = .ok p) :
    p.allChoices = [] := by
  obtain ⟨inside, own⟩ := List.append_eq_nil_iff.mp (links_readHeader read)
  rw [Passage.allChoices, choicesOfItems_eq_nil inside, List.map_eq_nil_iff.mp own, List.nil_append]

/-- Each line with a choice spells the choice that gets its number. -/
lemma spells_numberFrom (scope : LinkScope) (id : String) (count : Nat) (ls : List SourceLine) :
    List.Forall₂ SourceLine.Spells (ls.filter (·.offer?.isSome))
      ((numberFrom id count (offersOf ls)).map scope.linked) := by
  induction ls generalizing count with
  | nil => exact .nil
  | cons l ls ih =>
    cases offers : l.offer? with
    | none =>
      have same : offersOf (l :: ls) = offersOf ls := List.filterMap_cons_none offers
      rw [List.filter_cons, offers, same]
      exact ih count
    | some c =>
      have more : offersOf (l :: ls) = c :: offersOf ls := List.filterMap_cons_some offers
      rw [List.filter_cons, offers, more]
      have spelled : { scope.linked (numbered id count c) with key := c.key, target := c.target } = c := by
        cases c
        rfl
      exact .cons ⟨c.key, c.target, offers.trans (congrArg some spelled.symm)⟩ (ih (count + 1))

/-- The choices of a passage are spelled by the lines behind the header that denote it. -/
theorem Heading.Denotes.spelled {h : Heading} {params : List (String × List Param)} {p : Passage}
    (denotes : h.Denotes params p) : h.header.IsHeaderOf p ∧ ∃ choices, SpelledBy p h.behind choices := by
  obtain ⟨p₀, ns, ⟨text, found, read⟩, body, rfl⟩ := denotes
  obtain ⟨sameId, choices, ⟨rfl, _⟩, perm⟩ := body.gainsChoices (p₀, 0)
  generalize (ns.foldl takeNode (p₀, 0)).1 = made at perm sameId
  rw [allChoices_readHeader read, List.nil_append] at perm
  let scope : LinkScope := ⟨params, made.namespace?, h.header.file⟩
  refine ⟨⟨text, p₀, found, read, sameId.symm⟩, _, spells_numberFrom scope p₀.id 0 (passageLines h.behind),
    ?whole, ?keys⟩
  case whole =>
    rw [allChoices_linkPassage]
    exact (perm.map _).symm
  case keys =>
    have keys := keys_numberFrom p₀.id 0 (offersOf (passageLines h.behind))
    rw [List.map_map, List.length_map, List.range_eq_range', length_numberFrom]
    change (numberFrom p₀.id 0 (offersOf (passageLines h.behind))).map (·.key) = _
    rw [keys, ← sameId]
    rfl

end Source

namespace Story.CompiledFrom

open Source

variable {e : Expansion} {story : Story}

/-- The choices of each passage of a compiled story are spelled by the lines behind its header. -/
theorem spelled (compiled : story.CompiledFrom e) {id : String} {p : Passage}
    (member : (id, p) ∈ story.passages) :
    ∃ header lines choices,
      header :: lines <:+ e.lines ∧ header.IsHeaderOf p ∧ SpelledBy p lines choices := by
  obtain ⟨h, d, made, last, rfl⟩ := compiled.made member
  obtain ⟨opens, choices, spelled⟩ := (made.denotes story.params).spelled
  exact ⟨h.header, h.behind, choices, last.defines.1.suffix, opens, spelled⟩

end Story.CompiledFrom

end BranchingStory
