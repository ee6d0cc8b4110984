import Mathlib.Logic.Relation
import BranchingStory.Lint.Reach
import BranchingStory.Proofs.Play.Alike
import BranchingStory.Proofs.Play.Jumps
import BranchingStory.Proofs.Play.Shown
import BranchingStory.Proofs.Source.Linked
import BranchingStory.Proofs.Story.Choices

/-!
# Passages that are never reached

A passage leads to the targets of its jumps and choices, wherever they stand in its content. The search
from the first passage finds exactly the passages at the end of such paths, and the others are listed as
unreached. While a story is started and choices are taken, every hop and every choice follows such a path;
so no passage that play comes to is ever listed.
-/

namespace BranchingStory

/-- Whether an item stands among items at any depth: in the branches of conditionals and the bodies of
loops, and with `labels` also in the texts of choices. -/
inductive Stands (labels : Bool) (item : ContentItem) : List ContentItem → Prop where
  | here {items} :
    item ∈ items →
    Stands labels item items
  | branch {items branches branch} :
    .conditional branches ∈ items →
    branch ∈ branches →
    Stands labels item branch.content →
    Stands labels item items
  | body {items vars collection body} :
    .loop vars collection body ∈ items →
    Stands labels item body →
    Stands labels item items
  | label {items c} :
    labels = true →
    .choice c ∈ items →
    Stands labels item c.text →
    Stands labels item items

/-- Whether a passage leads to a target: by a jump at any depth, or by a choice of its own or one inside
branches and loops. A choice in the text of another one is never offered and leads nowhere. -/
inductive Passage.LeadsTo (p : Passage) (target : String) : Prop where
  | jump {args line} :
    Stands true (.jump target args line) p.content →
    LeadsTo p target
  | jumpInLabel {c args line} :
    c ∈ p.choices →
    Stands true (.jump target args line) c.text →
    LeadsTo p target
  | nested {c} :
    Stands false (.choice c) p.content →
    c.target = target →
    LeadsTo p target
  | own {c} :
    c ∈ p.choices →
    c.target = target →
    LeadsTo p target

namespace Story

/-- Whether there is a passage under the first id that leads to the second one. -/
def Leads (story : Story) (id target : String) : Prop :=
  ∃ p, story.passage? id = some p ∧ p.LeadsTo target

/-- Whether there is a path from the first passage to an id. -/
def Reaches (story : Story) (id : String) : Prop :=
  Relation.ReflTransGen story.Leads story.initial id

end Story

section Standing

variable {labels : Bool} {item : ContentItem}

lemma Stands.mono {items more : List ContentItem} (stands : Stands labels item items)
    (sub : ∀ i ∈ items, i ∈ more) : Stands labels item more := by
  cases stands with
  | here member => exact .here (sub _ member)
  | branch member inside stands => exact .branch (sub _ member) inside stands
  | body member stands => exact .body (sub _ member) stands
  | label labelled member stands => exact .label labelled (sub _ member) stands

lemma Stands.cons {first : ContentItem} {items : List ContentItem} (stands : Stands labels item items) :
    Stands labels item (first :: items) :=
  stands.mono fun _ => List.mem_cons_of_mem _

lemma Stands.head {first : ContentItem} {items : List ContentItem} (stands : Stands labels item [first]) :
    Stands labels item (first :: items) :=
  stands.mono fun _ member => List.mem_singleton.mp member ▸ List.mem_cons_self

lemma walkItems_eq (items : List ContentItem) : walkItems items = items.flatMap ContentItem.walk := by
  induction items with
  | nil => rfl
  | cons item items ih => rw [walkItems, ih, List.flatMap_cons]

lemma walkBranches_eq (branches : List Branch) :
    walkBranches branches = branches.flatMap (walkItems ·.content) := by
  induction branches with
  | nil => rfl
  | cons branch branches ih =>
    obtain ⟨condition?, content⟩ := branch
    rw [walkBranches, ih, List.flatMap_cons]

lemma walk_choice (c : Choice) : (ContentItem.choice c).walk = .choice c :: walkItems c.text := by
  cases c
  rw [ContentItem.walk]

mutual

/-- The walk through an item meets nothing but what stands there. -/
theorem stands_of_mem_walk : (first : ContentItem) → item ∈ first.walk → Stands true item [first]
  | .conditional branches, member => by
    rw [ContentItem.walk] at member
    rcases List.mem_cons.mp member with rfl | inside
    · exact .here List.mem_cons_self
    · obtain ⟨branch, among, stands⟩ := stands_of_mem_walkBranches branches inside
      exact .branch List.mem_cons_self among stands
  | .loop vars collection body, member => by
    rw [ContentItem.walk] at member
    rcases List.mem_cons.mp member with rfl | inside
    · exact .here List.mem_cons_self
    · exact .body List.mem_cons_self (stands_of_mem_walkItems body inside)
  | .choice { key, text, target, args, guard?, oneShot, tags, line }, member => by
    rw [ContentItem.walk] at member
    rcases List.mem_cons.mp member with rfl | inside
    · exact .here List.mem_cons_self
    · exact .label rfl List.mem_cons_self (stands_of_mem_walkItems text inside)
  | .text _, member | .expression .., member | .jump .., member | .render .., member
  | .input .., member | .command _, member => by
    simp only [ContentItem.walk] at member
    exact .here member

theorem stands_of_mem_walkBranches : (branches : List Branch) → item ∈ walkBranches branches →
    ∃ branch ∈ branches, Stands true item branch.content
  | { condition?, content } :: branches, member => by
    rw [walkBranches] at member
    rcases List.mem_append.mp member with inside | behind
    · exact ⟨_, List.mem_cons_self, stands_of_mem_walkItems content inside⟩
    · obtain ⟨branch, among, stands⟩ := stands_of_mem_walkBranches branches behind
      exact ⟨branch, List.mem_cons_of_mem _ among, stands⟩

theorem stands_of_mem_walkItems : (items : List ContentItem) → item ∈ walkItems items →
    Stands true item items
  | first :: items, member => by
    rw [walkItems] at member
    rcases List.mem_append.mp member with inside | behind
    · exact (stands_of_mem_walk first inside).head
    · exact (stands_of_mem_walkItems items behind).cons

end

lemma mem_walk_self (item : ContentItem) : item ∈ item.walk := by
  cases item with
  | choice c =>
    rw [walk_choice]
    exact List.mem_cons_self
  | _ =>
    simp only [ContentItem.walk, List.mem_cons, true_or, List.not_mem_nil, or_false]

/-- The walk through items meets exactly what stands there. -/
lemma mem_walkItems {items : List ContentItem} : item ∈ walkItems items ↔ Stands true item items := by
  refine ⟨stands_of_mem_walkItems items, fun stands => ?_⟩
  induction stands with
  | here member =>
    rw [walkItems_eq, List.mem_flatMap]
    exact ⟨item, member, mem_walk_self item⟩
  | @branch items branches branch member among _ ih =>
    rw [walkItems_eq, List.mem_flatMap]
    refine ⟨_, member, ?_⟩
    rw [ContentItem.walk, walkBranches_eq]
    exact List.mem_cons_of_mem _ (List.mem_flatMap.mpr ⟨branch, among, ih⟩)
  | body member _ ih =>
    rw [walkItems_eq, List.mem_flatMap]
    refine ⟨_, member, ?_⟩
    rw [ContentItem.walk]
    exact List.mem_cons_of_mem _ ih
  | label _ member _ ih =>
    rw [walkItems_eq, List.mem_flatMap]
    refine ⟨_, member, ?_⟩
    rw [walk_choice]
    exact List.mem_cons_of_mem _ ih

mutual

theorem stands_of_mem_nestedChoices {c : Choice} : (first : ContentItem) → c ∈ first.nestedChoices →
    Stands false (.choice c) [first]
  | .choice own, member => by
    rw [ContentItem.nestedChoices] at member
    rw [List.mem_singleton.mp member]
    exact .here List.mem_cons_self
  | .conditional branches, member => by
    rw [ContentItem.nestedChoices] at member
    obtain ⟨branch, among, stands⟩ := stands_of_mem_choicesOfBranches branches member
    exact .branch List.mem_cons_self among stands
  | .loop vars collection body, member => by
    rw [ContentItem.nestedChoices] at member
    exact .body List.mem_cons_self (stands_of_mem_choicesOfItems body member)
  | .text _, member | .expression .., member | .jump .., member | .render .., member
  | .input .., member | .command _, member => by
    simp only [ContentItem.nestedChoices, List.not_mem_nil] at member

theorem stands_of_mem_choicesOfBranches {c : Choice} : (branches : List Branch) →
    c ∈ choicesOfBranches branches → ∃ branch ∈ branches, Stands false (.choice c) branch.content
  | { condition?, content } :: branches, member => by
    rw [choicesOfBranches] at member
    rcases List.mem_append.mp member with inside | behind
    · exact ⟨_, List.mem_cons_self, stands_of_mem_choicesOfItems content inside⟩
    · obtain ⟨branch, among, stands⟩ := stands_of_mem_choicesOfBranches branches behind
      exact ⟨branch, List.mem_cons_of_mem _ among, stands⟩

theorem stands_of_mem_choicesOfItems {c : Choice} : (items : List ContentItem) →
    c ∈ choicesOfItems items → Stands false (.choice c) items
  | first :: items, member => by
    rw [choicesOfItems] at member
    rcases List.mem_append.mp member with inside | behind
    · exact (stands_of_mem_nestedChoices first inside).head
    · exact (stands_of_mem_choicesOfItems items behind).cons

end

/-- The nested choices of items are exactly those that stand in them, the texts of choices apart. -/
lemma mem_choicesOfItems {c : Choice} {items : List ContentItem} :
    c ∈ choicesOfItems items ↔ Stands false (.choice c) items := by
  refine ⟨stands_of_mem_choicesOfItems items, fun stands => ?_⟩
  induction stands with
  | here member =>
    rw [choicesOfItems_eq, List.mem_flatMap]
    refine ⟨_, member, ?_⟩
    rw [ContentItem.nestedChoices]
    exact List.mem_cons_self
  | @branch items branches branch member among _ ih =>
    rw [choicesOfItems_eq, List.mem_flatMap]
    refine ⟨_, member, ?_⟩
    rw [ContentItem.nestedChoices, choicesOfBranches_eq]
    exact List.mem_flatMap.mpr ⟨branch, among, ih⟩
  | body member _ ih =>
    rw [choicesOfItems_eq, List.mem_flatMap]
    refine ⟨_, member, ?_⟩
    rw [ContentItem.nestedChoices]
    exact ih
  | label labelled => cases labelled

end Standing

lemma ContentItem.jumpTarget?_eq_some {item : ContentItem} {target : String} :
    item.jumpTarget? = some target ↔ ∃ args line, item = .jump target args line := by
  constructor
  · intro jumps
    unfold ContentItem.jumpTarget? at jumps
    split at jumps
    · cases jumps
      exact ⟨_, _, rfl⟩
    · cases jumps
  · rintro ⟨args, line, rfl⟩
    rfl

/-- The targets that are collected of a passage are exactly those that it leads to. -/
lemma Passage.mem_targets {p : Passage} {target : String} :
    target ∈ p.targets ↔ p.LeadsTo target := by
  unfold Passage.targets Passage.walk Passage.allChoices
  simp only [List.mem_append, List.mem_filterMap, List.mem_map, List.mem_flatMap, mem_walkItems,
    mem_choicesOfItems, ContentItem.jumpTarget?_eq_some]
  constructor
  · rintro (⟨item, inContent | ⟨c, own, inLabel⟩, args, line, rfl⟩ | ⟨c, nested | own, same⟩)
    · exact .jump inContent
    · exact .jumpInLabel own inLabel
    · exact .nested nested same
    · exact .own own same
  · rintro (inContent | ⟨own, inLabel⟩ | ⟨nested, same⟩ | ⟨own, same⟩)
    · exact .inl ⟨_, .inl inContent, _, _, rfl⟩
    · exact .inl ⟨_, .inr ⟨_, own, inLabel⟩, _, _, rfl⟩
    · exact .inr ⟨_, .inl nested, same⟩
    · exact .inr ⟨_, .inr own, same⟩

namespace Story

variable {story : Story}

lemma leads_iff {id target : String} {p : Passage} (found : story.passage? id = some p) :
    story.Leads id target ↔ target ∈ p.targets := by
  rw [Passage.mem_targets]
  constructor
  · rintro ⟨p', found', leads⟩
    rw [found] at found'
    cases found'
    exact leads
  · exact fun leads => ⟨p, found, leads⟩

/-- Whether every passage that one of the reached ids leads to was reached as well, or is still in the
queue. -/
def Explored (story : Story) (reached queue : List String) : Prop :=
  ∀ id ∈ reached, ∀ target, story.Leads id target → (story.passage? target).isSome →
    target ∈ reached ∨ target ∈ queue

/-- The search finds only passages at the end of a path from the queue. -/
lemma reachFrom_sound {reached queue : List String} {id : String}
    (found : id ∈ story.reachFrom reached queue) :
    id ∈ reached ∨
      (story.passage? id).isSome ∧ ∃ first ∈ queue, Relation.ReflTransGen story.Leads first id := by
  fun_induction reachFrom story reached queue with
  | case1 => exact .inl found
  | case2 reached first queue old ih | case3 reached first queue new absent ih =>
    rcases ih found with before | ⟨known, start, member, path⟩
    · exact .inl before
    · exact .inr ⟨known, start, List.mem_cons_of_mem _ member, path⟩
  | case4 reached first queue new p there ih =>
    rcases ih found with before | ⟨known, start, member, path⟩
    · rcases List.mem_cons.mp before with rfl | before
      · refine .inr ⟨?_, id, List.mem_cons_self, .refl⟩
        rw [there]
        rfl
      · exact .inl before
    · rcases List.mem_append.mp member with target | later
      · exact .inr ⟨known, first, List.mem_cons_self, .head ((leads_iff there).mpr target) path⟩
      · exact .inr ⟨known, start, List.mem_cons_of_mem _ later, path⟩

/-- The search keeps what was reached, finds all passages of the queue, and leaves nothing unexplored. -/
lemma reachFrom_complete {reached queue : List String} (explored : story.Explored reached queue) :
    (∀ id ∈ reached, id ∈ story.reachFrom reached queue) ∧
      (∀ id ∈ queue, (story.passage? id).isSome → id ∈ story.reachFrom reached queue) ∧
      story.Explored (story.reachFrom reached queue) [] := by
  fun_induction reachFrom story reached queue with
  | case1 => exact ⟨fun id member => member, nofun, explored⟩
  | case2 reached first queue old ih =>
    have remaining : story.Explored reached queue := by
      intro id member target leads known
      rcases explored id member target leads known with before | queued
      · exact .inl before
      · rcases List.mem_cons.mp queued with rfl | later
        · exact .inl old
        · exact .inr later
    obtain ⟨keeps, finds, closed⟩ := ih remaining
    refine ⟨keeps, ?_, closed⟩
    intro id member known
    rcases List.mem_cons.mp member with rfl | later
    · exact keeps id old
    · exact finds id later known
  | case3 reached first queue new absent ih =>
    have unknown {id : String} (known : (story.passage? id).isSome) : id ≠ first := by
      rintro rfl
      rw [absent] at known
      cases known
    have remaining : story.Explored reached queue := by
      intro id member target leads known
      rcases explored id member target leads known with before | queued
      · exact .inl before
      · exact .inr ((List.mem_cons.mp queued).resolve_left (unknown known))
    obtain ⟨keeps, finds, closed⟩ := ih remaining
    refine ⟨keeps, ?_, closed⟩
    intro id member known
    exact finds id ((List.mem_cons.mp member).resolve_left (unknown known)) known
  | case4 reached first queue new p there ih =>
    have remaining : story.Explored (first :: reached) (p.targets ++ queue) := by
      intro id member target leads known
      rcases List.mem_cons.mp member with rfl | before
      · exact .inr (List.mem_append_left _ ((leads_iff there).mp leads))
      · rcases explored id before target leads known with old | queued
        · exact .inl (List.mem_cons_of_mem _ old)
        · rcases List.mem_cons.mp queued with rfl | later
          · exact .inl List.mem_cons_self
          · exact .inr (List.mem_append_right _ later)
    obtain ⟨keeps, finds, closed⟩ := ih remaining
    refine ⟨fun id member => keeps id (List.mem_cons_of_mem _ member), ?_, closed⟩
    intro id member known
    rcases List.mem_cons.mp member with rfl | later
    · exact keeps id List.mem_cons_self
    · exact finds id (List.mem_append_right _ later) known

/-- The search from the first passage reaches exactly the passages to which there is a path. -/
theorem mem_reachable {id : String} :
    id ∈ story.reachable ↔ (story.passage? id).isSome ∧ story.Reaches id := by
  constructor
  · intro reached
    rcases reachFrom_sound reached with none | ⟨known, first, member, path⟩
    · cases none
    · rw [List.mem_singleton.mp member] at path
      exact ⟨known, path⟩
  · rintro ⟨known, path⟩
    have explored : story.Explored [] [story.initial] := nofun
    obtain ⟨_, finds, closed⟩ := reachFrom_complete explored
    unfold Reaches at path
    induction path with
    | refl => exact finds _ List.mem_cons_self known
    | tail _ leads ih =>
      have source := leads
      obtain ⟨p, found, _⟩ := source
      rcases closed _ (ih (by rw [found]; rfl)) _ leads known with reached | none
      · exact reached
      · cases none

open scoped Classical in
/-- The passages that are listed as unreached are those to which there is no path, in the order of the
story. -/
theorem unreachable_eq (story : Story) :
    story.unreachable = (Assoc.keys story.passages).filter fun id => ¬story.Reaches id := by
  unfold unreachable unseen
  refine List.filter_congr fun id member => ?_
  have known : (story.passage? id).isSome := Assoc.get?_isSome_iff.mpr member
  rw [Bool.eq_iff_iff]
  simp only [Bool.not_eq_true', List.contains_eq_mem, decide_eq_false_iff_not, decide_eq_true_eq,
    mem_reachable, known, true_and]

lemma Reaches.unlisted {id : String} (path : story.Reaches id) : id ∉ story.unreachable := by
  rw [unreachable_eq]
  intro listed
  classical exact of_decide_eq_true (List.mem_filter.mp listed).2 path

end Story

section Pieces

variable {target : String} {args : List Arg}

/-- Whether a jump or a choice among items has a target. -/
def HasTarget (target : String) (items : List ContentItem) : Prop :=
  (∃ args line, Stands true (.jump target args line) items) ∨
    ∃ c, Stands false (.choice c) items ∧ c.target = target

lemma HasTarget.mono {items more : List ContentItem} (has : HasTarget target items)
    (lift : ∀ labels item, Stands labels item items → Stands labels item more) : HasTarget target more := by
  rcases has with ⟨args, line, stands⟩ | ⟨c, stands, same⟩
  · exact .inl ⟨args, line, lift _ _ stands⟩
  · exact .inr ⟨c, lift _ _ stands, same⟩

lemma Choice.target_of_mem_pieces {c : Choice} (member : Piece.link target args ∈ c.pieces) :
    c.target = target := by
  unfold Choice.pieces linkPieces at member
  simp only [List.mem_append, List.mem_cons, Piece.link.injEq] at member
  rcases member with (ofGuard | ⟨same, _⟩ | ofArgs) | ofText
  · cases Source.isLink_of_mem_optionalPiece ofGuard
  · exact same.symm
  · cases Source.isLink_of_mem_argPieces ofArgs
  · have noLink := (List.mem_filter.mp ofText).2
    cases noLink

mutual

/-- A link among the pieces of an item is that of a jump or a choice that stands there. -/
theorem hasTarget_of_item : (item : ContentItem) → Piece.link target args ∈ item.pieces →
    HasTarget target [item]
  | .jump other more line, member => by
    simp only [ContentItem.pieces, linkPieces, List.mem_cons, Piece.link.injEq] at member
    rcases member with ⟨rfl, _⟩ | ofArgs
    · exact .inl ⟨_, _, .here List.mem_cons_self⟩
    · cases Source.isLink_of_mem_argPieces ofArgs
  | .choice c, member => by
    rw [pieces_choice] at member
    exact .inr ⟨c, .here List.mem_cons_self, c.target_of_mem_pieces member⟩
  | .conditional branches, member => by
    simp only [ContentItem.pieces] at member
    obtain ⟨branch, among, has⟩ := hasTarget_of_branches branches member
    exact has.mono fun _ _ => .branch List.mem_cons_self among
  | .loop vars collection body, member => by
    simp only [ContentItem.pieces, List.mem_cons, reduceCtorEq, false_or] at member
    exact (hasTarget_of_items body member).mono fun _ _ => .body List.mem_cons_self
  | .render .., member => by
    simp only [ContentItem.pieces] at member
    cases Source.isLink_of_mem_argPieces member
  | .text _, member | .expression .., member | .input .., member | .command _, member => by
    simp only [ContentItem.pieces, List.mem_cons, List.mem_map, reduceCtorEq, List.not_mem_nil, or_false,
      and_false, exists_false] at member

theorem hasTarget_of_branches : (branches : List Branch) →
    Piece.link target args ∈ piecesOfBranches branches → ∃ branch ∈ branches, HasTarget target branch.content
  | { condition?, content } :: branches, member => by
    simp only [piecesOfBranches, List.mem_append] at member
    rcases member with (ofCondition | inside) | behind
    · cases Source.isLink_of_mem_optionalPiece ofCondition
    · exact ⟨_, List.mem_cons_self, hasTarget_of_items content inside⟩
    · obtain ⟨branch, among, has⟩ := hasTarget_of_branches branches behind
      exact ⟨branch, List.mem_cons_of_mem _ among, has⟩

theorem hasTarget_of_items : (items : List ContentItem) → Piece.link target args ∈ piecesOfItems items →
    HasTarget target items
  | item :: items, member => by
    simp only [piecesOfItems, List.mem_append] at member
    rcases member with inside | behind
    · exact (hasTarget_of_item item inside).mono fun _ _ => .head
    · exact (hasTarget_of_items items behind).mono fun _ _ => .cons

end

/-- A passage leads to the targets of all its links. -/
lemma Passage.leadsTo_of_mem_pieces {p : Passage} (member : Piece.link target args ∈ p.pieces) :
    p.LeadsTo target := by
  unfold Passage.pieces at member
  simp only [List.mem_append, List.mem_flatMap, List.mem_map, reduceCtorEq, and_false, exists_false,
    or_false] at member
  rcases member with (⟨param, _, ofDefault⟩ | inContent) | ⟨c, own, ofChoice⟩
  · cases Source.isLink_of_mem_optionalPiece ofDefault
  · rcases hasTarget_of_items p.content inContent with ⟨args, line, stands⟩ | ⟨c, stands, same⟩
    · exact .jump stands
    · exact .nested stands same
  · exact .own own (c.target_of_mem_pieces ofChoice)

end Pieces

variable {Obj : Type} [HostObject Obj]

section Playing

variable {story : Story} {bindings : Bindings Obj} {d next : Departure Obj} {hops : List (Hop Obj)}

/-- What a visited passage shows are targets that it leads to. -/
lemma Visits.leads {stop : Hop Obj} {s : Session Obj} (visits : Visits story bindings d stop s) :
    stop.rendered.Shows fun target _ => story.Leads d.id target := by
  cases visits with
  | @hop p bound entered rendered generator found _ _ _ shown =>
    have shows := p.shown_shows (P := fun target (_ : CallArgs Obj) => story.Leads d.id target)
      (fun target args member _ _ _ _ => ⟨p, found, p.leadsTo_of_mem_pieces member⟩)
      d.session.consumed entered.state entered.base entered.generator bindings
    rwa [shown] at shows

/-- Jumps lead on from what can be reached to what can be reached. -/
lemma Journey.reaches (journey : Journey story bindings d hops next) (start : story.Reaches d.id) :
    story.Reaches next.id ∧ ∀ stop ∈ hops, story.Reaches stop.id := by
  induction journey with
  | start => exact ⟨start, nofun⟩
  | jump _ _ visits jumps ih =>
    obtain ⟨here, before⟩ := ih
    refine ⟨.tail here (visits.leads.jump _ jumps), ?_⟩
    intro stop member
    rcases List.mem_append.mp member with passed | last
    · exact before stop passed
    · rw [List.mem_singleton.mp last, visits.id]
      exact here

/-- A chain that is followed to its end is the journey of its hops, with one more passage that does not
jump. -/
lemma journey_of_follow {chain : Chain Obj} {s : Session Obj}
    (followed : follow story bindings [] d.id d.call d.session = .ok (chain, s)) :
    ∃ next, Journey story bindings d chain.passed next ∧ Visits story bindings next chain.last s := by
  have begun : Journey story bindings d [] d := .start
  obtain ⟨hops, next, result, journey, ends⟩ := begun.comes_to_end
  rw [journey.follow_eq] at followed
  cases ends with
  | @arrives last s' new visits stays =>
    obtain ⟨p, found⟩ := visits.passage
    rw [follow_found new found, (visits_iff found).mp visits] at followed
    simp only [stays, Except.map, List.append_nil] at followed
    cases followed
    exact ⟨next, journey, visits⟩
  | circle seen =>
    rw [follow_seen seen] at followed
    cases followed
  | unknown new absent =>
    rw [follow_absent new absent] at followed
    cases followed
  | refused new found failed =>
    rw [follow_found new found, hop_eq, failed] at followed
    cases followed

/-- Whether all passages that a session has visited in its last step, and all that its choices lead to, can
be reached. -/
structure Session.Within (story : Story) (s : Session Obj) : Prop where
  visited : ∀ position, s.position? = some position → ∀ id ∈ position.output.visited, story.Reaches id
  offered : ∀ position, s.position? = some position → ∀ c ∈ position.output.choices, story.Reaches c.target

/-- A step from a passage that can be reached ends within what can be reached. -/
lemma arrive_within {chain : Chain Obj} {s : Session Obj} (start : story.Reaches d.id)
    (followed : follow story bindings [] d.id d.call d.session = .ok (chain, s)) :
    (s.arrive chain).Within story := by
  obtain ⟨next, journey, visits⟩ := journey_of_follow followed
  obtain ⟨here, passed⟩ := journey.reaches start
  constructor
  · intro position same id member
    cases same
    change id ∈ (chain.passed ++ [chain.last]).map (·.id) at member
    rw [List.map_append, List.map_singleton, visits.id] at member
    rcases List.mem_append.mp member with before | last
    · obtain ⟨stop, among, rfl⟩ := List.mem_map.mp before
      exact passed stop among
    · rw [List.mem_singleton.mp last]
      exact here
  · intro position same c member
    cases same
    exact .tail here (visits.leads.choices c member)

end Playing

/-- A start of a story or a choice. -/
inductive Move.Chooses : Move Obj → Prop where
  | start : Chooses .start
  | choose (index : Nat) : Chooses (.choose index)

namespace Game

variable {g : Game Obj} {m : Move Obj} {d : Departure Obj}

omit [HostObject Obj] in
/-- A start or a choice departs for a passage that can be reached. -/
lemma Departs.reaches (departs : g.Departs m d) (chooses : m.Chooses)
    (within : g.session.Within g.story) : g.story.Reaches d.id := by
  cases departs with
  | start => exact .refl
  | enter => cases chooses
  | choose current chosen =>
    obtain ⟨position, here, rfl⟩ := current_eq_ok current
    exact within.offered position here _ (List.mem_of_getElem? chosen)

lemma move_within (chooses : m.Chooses) (within : g.session.Within g.story) :
    (g.move m).2.session.Within g.story := by
  have step : m.isStep := by cases chooses <;> rfl
  rcases g.departs_or_refused step with ⟨d, departs⟩ | ⟨reason, refused, _⟩
  · rw [g.move_eq, departs.after_eq]
    cases followed : g.follow d with
    | error reason => exact within
    | ok result => exact arrive_within (departs.reaches chooses within) followed
  · rw [g.move_eq, refused]
    exact within

/-- A run of starts and choices changes neither the story nor the names of the host, and stays within what
can be reached. -/
lemma play_within {moves : List (Move Obj)} (chooses : ∀ m ∈ moves, m.Chooses)
    (within : g.session.Within g.story) :
    (g.play moves).2.story = g.story ∧ (g.play moves).2.session.Within g.story := by
  induction moves generalizing g with
  | nil => exact ⟨rfl, within⟩
  | cons m moves ih =>
    have later : ∀ m ∈ moves, m.Chooses := fun m member => chooses m (List.mem_cons_of_mem _ member)
    have behind := move_within (chooses m List.mem_cons_self) within
    have same := g.move_story m
    rw [← same] at behind ⊢
    exact ih later behind

end Game

open scoped Classical in
/-- The passages that are listed as unreached are those, in the order of the story, to which there is no path
from the first passage. So when a story is started and choices are taken, however many and with whatever
outcome, no passage of an output is listed, and none that one of the journeys comes to, also where it is
refused. -/
theorem Story.unreachable_exact (story : Story) :
    story.unreachable = (Assoc.keys story.passages).filter (fun id => ¬story.Reaches id) ∧
      ∀ (registry : Registry Obj) (seed : UInt64) (vars : Vars Obj) (moves : List (Move Obj)),
        (∀ m ∈ moves, m.Chooses) →
        let g := ((Game.opening story registry seed vars).play moves).2
        (∀ output, g.current = .ok output → ∀ id ∈ output.visited, id ∉ story.unreachable) ∧
          ∀ m d hops next, m.Chooses → g.Departs m d → Journey story g.bindings d hops next →
            next.id ∉ story.unreachable := by
  refine ⟨story.unreachable_eq, ?_⟩
  intro registry seed vars moves chooses g
  obtain ⟨same, within⟩ := (Game.opening story registry seed vars).play_within chooses ⟨nofun, nofun⟩
  constructor
  · intro output current id member
    obtain ⟨position, here, rfl⟩ := Game.current_eq_ok current
    exact (within.visited position here id member).unlisted
  · intro m d hops next chooses departs journey
    have sameStory : g.story = story := same
    have start := departs.reaches chooses (by rw [sameStory]; exact within)
    rw [sameStory] at start
    exact (journey.reaches start).1.unlisted

/-- A path that leads through a loop and a branch into the choices of a passage and back, and a passage that
only itself leads to. -/
example :
    let passage (id : String) (content : List ContentItem) (choices : List Choice) : Passage :=
      ⟨id, [], content, choices, [], []⟩
    let choice (target : String) : Choice := ⟨"", [], target, [], none, false, [], 1⟩
    Story.unreachable ⟨"1.0", "Hall", Metadata.empty, [],
      [("Attic", passage "Attic" [.jump "Attic" [] 1] []),
        ("Hall", passage "Hall" [.loop ["x"] "xs" [.conditional [⟨none, [.jump "Yard" [] 2]⟩]]] []),
        ("Yard", passage "Yard" [.choice (choice "Barn")] [choice "Nowhere"]),
        ("Barn", passage "Barn" [] [choice "Hall"])]⟩ = ["Attic"] := by
  cbv

end BranchingStory
