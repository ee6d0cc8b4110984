import BranchingStory.Proofs.Source.Numbered
import BranchingStory.Proofs.Source.Trimmed

/-!
# The form of content

Whatever lines a passage is read from, its conditionals begin with a condition and only the last branch can
be without one. Tidying makes all texts full and apart from each other, at every depth.
-/

namespace BranchingStory

/-- Whether conditions can be those of the branches of a conditional: there is a first one, and at most the
last is missing. -/
structure Chained (conditions : List (Option String)) : Prop where
  first : ∃ condition, conditions.head? = some (some condition)
  before : ∀ condition? ∈ conditions.dropLast, condition?.isSome

/-- Whether an item is a piece of a text: written out, or an interpolation. -/
def ContentItem.isInline : ContentItem → Bool
  | .text _ | .expression .. => true
  | _ => false

/-- Whether the text of a choice is nothing but text, with interpolations. -/
structure Choice.Plain (c : Choice) : Prop where
  joined : Source.Joined c.text
  inline : ∀ item ∈ c.text, item.isInline

/-- Whether everything inside an item, at any depth, is as lines can spell it, and something holds of the
content of all branches and bodies. -/
inductive ContentItem.Formed (lists : List ContentItem → Prop) : ContentItem → Prop where
  | leaf {item} :
    item.isLeaf →
    Formed lists item
  | conditional {branches : List Branch} :
    Chained (branches.map (·.condition?)) →
    (∀ branch ∈ branches, lists branch.content) →
    (∀ branch ∈ branches, ∀ item ∈ branch.content, Formed lists item) →
    Formed lists (.conditional branches)
  | loop {vars collection body} :
    lists body →
    (∀ item ∈ body, Formed lists item) →
    Formed lists (.loop vars collection body)
  | choice {c : Choice} :
    c.Plain →
    Formed lists (.choice c)

structure Passage.Formed (lists : List ContentItem → Prop) (p : Passage) : Prop where
  content : ∀ item ∈ p.content, item.Formed lists
  choices : ∀ c ∈ p.choices, c.Plain

/-- Whether the content of a passage is in normal form, at every depth. -/
structure Passage.Normal (p : Passage) : Prop where
  formed : p.Formed Source.Joined
  joined : Source.Joined p.content
  ends : EndsOnce p.content

lemma ContentItem.isLeaf_of_isInline {item : ContentItem} (inline : item.isInline) : item.isLeaf := by
  cases item with
  | text | expression => rfl
  | _ => cases inline

lemma ContentItem.Formed.of_isInline {lists : List ContentItem → Prop} {item : ContentItem}
    (inline : item.isInline) : item.Formed lists :=
  .leaf (isLeaf_of_isInline inline)

lemma ContentItem.Formed.of_isText {lists : List ContentItem → Prop} {item : ContentItem}
    (text : item.isText) : item.Formed lists := by
  cases item with
  | text => exact .leaf rfl
  | _ => cases text

lemma Passage.Formed.withContent {lists : List ContentItem → Prop} {p : Passage} (formed : p.Formed lists)
    {items : List ContentItem} (more : ∀ item ∈ items, item.Formed lists) :
    Passage.Formed lists { p with content := p.content ++ items } :=
  ⟨List.forall_mem_append.mpr ⟨formed.content, more⟩, formed.choices⟩

namespace Source

open Text

/-! ## Texts with interpolations -/

section Reading

variable {cs : List Char} {items : List ContentItem}

lemma item_of_readInterpolation {item : ContentItem} (read : readInterpolation cs = .ok item) :
    ∃ code format?, item = .expression code format? := by
  unfold readInterpolation at read
  simp only [check_eq_ok, bind_eq_ok, pure_eq_ok] at read
  obtain ⟨_, _, _, rfl⟩ := read
  exact ⟨_, _, rfl⟩

/-- Text is in front of content that begins with none. -/
lemma joined_literalItem (literal : List Char) (joined : Joined items)
    (apart : ∀ item ∈ items.head?, item.isText = false) : Joined (literalItem literal ++ items) := by
  unfold literalItem
  split
  · exact joined
  · next full =>
    refine .text (fun none => full ?_) apart joined
    rw [List.isEmpty_iff, ← List.reverse_eq_nil_iff, ← String.toList_ofList (l := literal.reverse), none]
    rfl

lemma inline_literalItem (literal : List Char) : ∀ item ∈ literalItem literal, item.isInline := by
  unfold literalItem
  split
  · exact List.forall_mem_nil _
  · exact List.forall_mem_singleton.mpr rfl

/-- A text with interpolations becomes texts and expressions, with no two texts next to each other. -/
lemma readText_plain (read : readText cs = .ok items) : Joined items ∧ ∀ item ∈ items, item.isInline := by
  unfold readText at read
  generalize ([] : List Char) = literal at read
  fun_induction readTextFrom literal cs generalizing items with
  | case1 literal =>
    cases read
    have alone := joined_literalItem literal .nil fun item first => by cases first
    rw [List.append_nil] at alone
    exact ⟨alone, inline_literalItem literal⟩
  | case2 _ _ ih => exact ih read
  | case3 _ _ ih => exact ih read
  | case4 => cases read
  | case5 literal rest _ inside behind found ih =>
    simp only [bind_eq_ok, pure_eq_ok] at read
    obtain ⟨item, readItem, more, readMore, rfl⟩ := read
    obtain ⟨code, format?, rfl⟩ := item_of_readInterpolation readItem
    obtain ⟨joined, inline⟩ := ih readMore
    refine ⟨joined_literalItem literal (.other rfl joined) (by rintro _ ⟨⟩; rfl), ?_⟩
    refine List.forall_mem_append.mpr ⟨inline_literalItem literal, List.forall_mem_cons.mpr ⟨rfl, inline⟩⟩
  | case6 _ _ _ _ _ _ ih => exact ih read

lemma inline_readTextLine (read : readTextLine cs = .ok items) : ∀ item ∈ items, item.isInline := by
  unfold readTextLine at read
  simp only at read
  split at read
  · cases read
    exact List.forall_mem_nil _
  · split at read
    · exact (readText_plain read).2
    · obtain ⟨front, readFront, rfl⟩ := map_eq_ok.mp read
      exact List.forall_mem_append.mpr ⟨(readText_plain readFront).2, List.forall_mem_singleton.mpr rfl⟩

lemma inline_textItems (text : List Char) : ∀ item ∈ textItems text, item.isInline := by
  unfold textItems
  cases read : readTextLine text with
  | error fault => exact List.forall_mem_nil _
  | ok items => exact inline_readTextLine read

lemma plain_of_readOffer {oneShot : Bool} {line : Nat} {c : Choice}
    (read : readOffer cs oneShot line = .ok c) : c.Plain := by
  unfold readOffer at read
  simp only [bind_eq_ok] at read
  obtain ⟨_, _, _, _, read⟩ := read
  split at read
  · split at read
    · cases read
    · simp only [bind_eq_ok] at read
      obtain ⟨text, readLabel, read⟩ := read
      split at read
      · cases read
      · simp only [bind_eq_ok, check_eq_ok, pure_eq_ok] at read
        obtain ⟨_, _, _, rfl⟩ := read
        obtain ⟨joined, inline⟩ := readText_plain readLabel
        exact ⟨joined, inline⟩
  · cases read

end Reading

/-! ## What lines denote -/

section Denoting

variable {l : SourceLine} {lists : List ContentItem → Prop}

lemma plain_of_role {c : Choice} (valid : l.role? = some (.adds (.choice c))) : c.Plain := by
  cases comesOf_role valid with
  | choice read => exact plain_of_readOffer read

lemma formed_of_role {items : List ContentItem} (valid : l.role? = some (.adds (.items items))) :
    ∀ item ∈ items, item.Formed lists := by
  cases comesOf_role valid with
  | item leaf => exact List.forall_mem_singleton.mpr (.leaf leaf)

lemma formed_textItems (text : List Char) : ∀ item ∈ textItems text, item.Formed lists :=
  fun item member => .of_isInline (inline_textItems text item member)

lemma plain_numbered {c : Choice} (plain : c.Plain) (id : String) (count : Nat) : (numbered id count c).Plain :=
  ⟨plain.joined, plain.inline⟩

/-- A conditional has a branch behind `@if`. -/
lemma Cond.limbs_ne_nil {block : List SourceLine} {limbs : List Limb} {otherwise? : Option (List Node)}
    (cond : Cond block limbs otherwise?) : limbs ≠ [] := by
  cases cond with
  | first => exact List.cons_ne_nil _ _
  | elif => exact List.append_ne_nil_of_right_ne_nil _ (List.cons_ne_nil _ _)
  | otherwise before =>
    cases before with
    | first => exact List.cons_ne_nil _ _
    | elif => exact List.append_ne_nil_of_right_ne_nil _ (List.cons_ne_nil _ _)

lemma conditions_branchesOf (id : String) (s : Spot) (limbs : List Limb) :
    ∀ condition? ∈ (branchesOf id s limbs).1.map (·.condition?), condition?.isSome := by
  induction limbs generalizing s with
  | nil =>
    rw [branchesOf]
    exact List.forall_mem_nil _
  | cons limb limbs ih =>
    obtain ⟨condition, body⟩ := limb
    rw [branchesOf]
    exact List.forall_mem_cons.mpr ⟨rfl, ih _⟩

/-- The branches behind `@if` and `@elif` have a condition, and only that behind `@else` has none. -/
lemma Cond.chained {block : List SourceLine} {limbs : List Limb} {otherwise? : Option (List Node)}
    (cond : Cond block limbs otherwise?) (id : String) (s : Spot) :
    Chained (((branchesOf id s limbs).1 ++
      (lastOf id (branchesOf id s limbs).2 otherwise?).1).map (·.condition?)) := by
  have conditions := conditions_branchesOf id s limbs
  obtain ⟨⟨condition, body⟩, more, rfl⟩ := List.exists_cons_of_ne_nil cond.limbs_ne_nil
  refine ⟨⟨condition, by rw [branchesOf]; rfl⟩, ?_⟩
  rw [List.map_append]
  cases otherwise? with
  | none =>
    rw [lastOf, List.map_nil, List.append_nil]
    exact fun condition? member => conditions condition? (List.dropLast_subset _ member)
  | some body =>
    rw [lastOf, List.map_singleton, List.dropLast_concat]
    exact conditions

mutual

/-- All items that lines of a block denote are well formed. -/
theorem Body.formed {ls : List SourceLine} {ns : List Node} : Body ls ns → (id : String) → (s : Spot) →
    ∀ item ∈ (itemsOf id s ns).1, item.Formed fun _ => True
  | .nil, id, s => by
    rw [itemsOf]
    exact List.forall_mem_nil _
  | .text _ rest, id, s => by
    simp only [itemsOf, Node.items]
    exact List.forall_mem_append.mpr ⟨formed_textItems _, rest.formed id _⟩
  | @Body.adds _ (.items items) _ _ valid rest, id, s => by
    simp only [itemsOf, Node.items]
    exact List.forall_mem_append.mpr ⟨formed_of_role valid, rest.formed id _⟩
  | @Body.adds _ (.command c) _ _ valid rest, id, s => by
    simp only [itemsOf, Node.items]
    exact List.forall_mem_cons.mpr ⟨.leaf rfl, rest.formed id _⟩
  | @Body.adds _ (.choice c) _ _ valid rest, id, s => by
    simp only [itemsOf, Node.items]
    exact List.forall_mem_cons.mpr ⟨.choice (plain_numbered (plain_of_role valid) id _), rest.formed id _⟩
  | .cond inside _ rest, id, s => by
    simp only [itemsOf, Node.items]
    exact List.forall_mem_cons.mpr
      ⟨.conditional (inside.chained id _) (fun _ _ => trivial) (inside.formed id _), rest.formed id _⟩
  | .loop _ inside _ rest, id, s => by
    simp only [itemsOf, Node.items]
    exact List.forall_mem_cons.mpr ⟨.loop trivial (inside.formed id _), rest.formed id _⟩

theorem Cond.formed {block : List SourceLine} {limbs : List Limb} {otherwise? : Option (List Node)} :
    Cond block limbs otherwise? → (id : String) → (s : Spot) →
    ∀ branch ∈ (branchesOf id s limbs).1 ++ (lastOf id (branchesOf id s limbs).2 otherwise?).1,
      ∀ item ∈ branch.content, item.Formed fun _ => True
  | .first _ inside, id, s => by
    simp only [branchesOf, lastOf, List.append_nil]
    exact List.forall_mem_singleton.mpr (inside.formed id s)
  | .elif before _ inside, id, s => by
    have front := before.formed id s
    simp only [lastOf, List.append_nil] at front
    simp only [branchesOf_append, branchesOf, lastOf, List.append_nil]
    exact List.forall_mem_append.mpr ⟨front, List.forall_mem_singleton.mpr (inside.formed id _)⟩
  | .otherwise before _ inside, id, s => by
    have front := before.formed id s
    simp only [lastOf, List.append_nil] at front
    simp only [lastOf]
    exact List.forall_mem_append.mpr ⟨front, List.forall_mem_singleton.mpr (inside.formed id _)⟩

end

/-- A passage that lines are taken into stays well formed. -/
theorem Body.formed_takeNode {ls : List SourceLine} {ns : List Node} : Body ls ns → (s : Passage × Nat) →
    (s.1.Formed fun _ => True) → (ns.foldl takeNode s).1.Formed fun _ => True
  | .nil, s, formed => formed
  | .text _ rest, s, formed => rest.formed_takeNode _ (formed.withContent (formed_textItems _))
  | @Body.adds _ (.items items) _ _ valid rest, s, formed =>
    rest.formed_takeNode _ (formed.withContent (formed_of_role valid))
  | @Body.adds _ (.command c) _ _ valid rest, s, formed =>
    rest.formed_takeNode _ ⟨formed.content, formed.choices⟩
  | @Body.adds _ (.choice c) _ _ valid rest, s, formed =>
    rest.formed_takeNode _ ⟨formed.content, List.forall_mem_append.mpr
      ⟨formed.choices, List.forall_mem_singleton.mpr (plain_numbered (plain_of_role valid) _ _)⟩⟩
  | .cond inside _ rest, s, formed => by
    refine rest.formed_takeNode _ (formed.withContent (List.forall_mem_singleton.mpr ?_))
    exact .conditional (inside.chained _ _) (fun _ _ => trivial) (inside.formed _ _)
  | .loop _ inside _ rest, s, formed =>
    rest.formed_takeNode _ (formed.withContent (List.forall_mem_singleton.mpr
      (.loop trivial (inside.formed _ _))))

end Denoting

/-! ## Linking and tidying -/

section Tidying

variable {lists : List ContentItem → Prop} {item : ContentItem} {items : List ContentItem}

lemma linkItems_eq (scope : LinkScope) (items : List ContentItem) :
    (linkItems scope items).1 = items.map fun item => (linkItem scope item).1 := by
  induction items with
  | nil => rw [linkItems, List.map_nil]
  | cons item items ih => rw [linkItems, List.map_cons, ← ih]

lemma linkBranches_eq (scope : LinkScope) (branches : List Branch) :
    (linkBranches scope branches).1 =
      branches.map fun branch => { branch with content := (linkItems scope branch.content).1 } := by
  induction branches with
  | nil => rw [linkBranches, List.map_nil]
  | cons branch branches ih =>
    obtain ⟨condition?, content⟩ := branch
    rw [linkBranches, List.map_cons, ← ih]

/-- Linking leaves the form of an item as it is. -/
theorem formed_linkItem (scope : LinkScope) (formed : item.Formed fun _ => True) :
    (linkItem scope item).1.Formed fun _ => True := by
  induction formed with
  | @leaf item leaf =>
    cases item with
    | conditional | loop | choice => cases leaf
    | _ =>
      simp only [linkItem]
      exact .leaf rfl
  | conditional chained _ _ ih =>
    simp only [linkItem, linkBranches_eq]
    refine .conditional ?_ (fun _ _ => trivial) ?_
    · rwa [List.map_map]
    · simp only [linkItems_eq]
      refine List.forall_mem_map.mpr fun branch member => List.forall_mem_map.mpr (ih branch member)
  | loop _ _ ih =>
    simp only [linkItem, linkItems_eq]
    exact .loop trivial (List.forall_mem_map.mpr ih)
  | choice plain =>
    simp only [linkItem]
    exact .choice ⟨plain.joined, plain.inline⟩

lemma mem_dropBreaks {before? : Option ContentItem} (member : item ∈ dropBreaks before? items) : item ∈ items := by
  induction items generalizing before? with
  | nil => exact member
  | cons first items ih =>
    rw [dropBreaks] at member
    split at member
    · rcases List.mem_cons.mp member with rfl | later
      · exact List.mem_cons_self
      · exact List.mem_cons_of_mem _ (ih later)
    · exact List.mem_cons_of_mem _ (ih member)

/-- Merging makes new texts, and leaves the other items as they are. -/
lemma mem_mergeTexts (member : item ∈ mergeTexts items) : item.isText ∨ item ∈ items := by
  induction items with
  | nil => exact .inr member
  | cons first items ih =>
    have behind (member : item ∈ mergeTexts items) : item.isText ∨ item ∈ first :: items :=
      (ih member).imp_right (List.mem_cons_of_mem _)
    cases other : first.isText with
    | false =>
      rw [mergeTexts_other other] at member
      rcases List.mem_cons.mp member with rfl | later
      · exact .inr List.mem_cons_self
      · exact behind later
    | true =>
      cases first with
      | text text =>
        by_cases full : text = ""
        · rw [full, mergeTexts_empty] at member
          exact behind member
        · rw [mergeTexts_full full] at member
          unfold putText at member
          split at member
          · next more rest merged =>
            rcases List.mem_cons.mp member with rfl | later
            · exact .inl rfl
            · exact behind (merged ▸ List.mem_cons_of_mem _ later)
          · rcases List.mem_cons.mp member with rfl | later
            · exact .inl rfl
            · exact behind later
      | _ => cases other

/-- Tidied content is as well formed as its items are inside. -/
lemma formed_tidy (inside : ∀ item ∈ items, (tidyInside item).Formed lists) :
    ∀ item ∈ tidy items, item.Formed lists := by
  intro item member
  rcases mem_mergeTexts member with text | member
  · exact .of_isText text
  · have member := mem_dropBreaks member
    rw [tidyItems_eq] at member
    obtain ⟨item, among, rfl⟩ := List.mem_map.mp member
    exact inside item among

/-- Tidying makes all texts inside an item full and apart from each other. -/
theorem formed_tidyInside (formed : item.Formed fun _ => True) : (tidyInside item).Formed Joined := by
  induction formed with
  | @leaf item leaf =>
    cases item with
    | conditional | loop | choice => cases leaf
    | _ =>
      simp only [tidyInside]
      exact .leaf rfl
  | conditional chained _ _ ih =>
    simp only [tidyInside, tidyBranches_eq]
    refine .conditional ?_ (List.forall_mem_map.mpr fun _ _ => .ofMerge _) ?_
    · rwa [List.map_map]
    · exact List.forall_mem_map.mpr fun branch member => formed_tidy (ih branch member)
  | loop _ _ ih =>
    simp only [tidyInside]
    exact .loop (.ofMerge _) (formed_tidy ih)
  | choice plain =>
    simp only [tidyInside]
    exact .choice plain

end Tidying

/-- What the lines behind a header denote is in normal form. -/
theorem Heading.Denotes.normal {h : Heading} {params : List (String × List Param)} {p : Passage}
    (denotes : h.Denotes params p) : p.Normal := by
  obtain ⟨p₀, ns, ⟨text, _, read⟩, body, rfl⟩ := denotes
  obtain ⟨id, ps, tags, rfl⟩ := newPassage_of_readHeader read
  obtain ⟨content, choices⟩ := body.formed_takeNode (newPassage id ps tags, 0)
    ⟨List.forall_mem_nil _, List.forall_mem_nil _⟩
  generalize (ns.foldl takeNode (newPassage id ps tags, 0)).1 = made at content choices
  let scope : LinkScope := ⟨params, made.namespace?, h.header.file⟩
  refine ⟨⟨fun item member => ?content, ?choices⟩, (Joined.ofMerge _).trimEndBreaks, endsOnce_trimEndBreaks _⟩
  case content =>
    -- From the end of the passage back to its lines: trimmed, tidied, linked and taken in.
    rcases mem_trimEndBreaks member with text | member
    · exact .of_isText text
    · refine formed_tidy (fun item linked => formed_tidyInside ?_) item member
      rw [linkItems_eq] at linked
      obtain ⟨item, among, rfl⟩ := List.mem_map.mp linked
      exact formed_linkItem scope (content item among)
  case choices =>
    intro c member
    have linked : c ∈ (linkChoices scope made.choices).1 := member
    rw [linkChoices_eq] at linked
    obtain ⟨c, among, rfl⟩ := List.mem_map.mp linked
    exact ⟨(choices c among).joined, (choices c among).inline⟩

end Source

end BranchingStory
