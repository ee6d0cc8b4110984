import BranchingStory.Proofs.Source.Logical
import BranchingStory.Proofs.Source.Paragraphs

/-!
# The indentation of bodies

The indentation of a block is that of its first line of text, in whichever of its bodies this line stands. If
the lines of each body lose by it what stands in front of the first line of the body, each body is read
without the indentation of its own first line.
-/

namespace BranchingStory.Source

open Text

/-- The bytes of white space in front of a text. -/
def leading (text : List Char) : Nat :=
  byteLength (indentation text)

/-- Whether a line of text is more than a comment. -/
def isVisible (text : List Char) : Bool :=
  !isBlankText (stripComment text)

/-- The lines of text that stand right in a body. -/
def texts (body : List Node) : List (List Char) :=
  body.filterMap fun
    | .text text => some text
    | _ => none

/-- The white space in front of the first of some lines. -/
def firstLead? (lines : List (List Char)) : Option Nat :=
  lines.head?.map leading

/-- The indentation of a body: that of its first line of text which is more than a comment. -/
def bodyLead (body : List Node) : Nat :=
  (firstLead? ((texts body).filter isVisible)).getD 0

/-- The indentation of a block: that of the first line of text in its bodies. -/
def blockLead (bodies : List (List Node)) : Nat :=
  (firstLead? (texts bodies.flatten)).getD 0

def Limb.body : Limb → List Node
  | .mk _ body => body

/-- The bodies of a conditional. -/
def limbBodies (limbs : List Limb) (otherwise? : Option (List Node)) : List (List Node) :=
  limbs.map Limb.body ++ otherwise?.toList

mutual

/-- The blocks of a node at any depth, each with its bodies. -/
def Node.blocks : Node → List (List (List Node))
  | .text _ | .adds _ => []
  | .cond limbs otherwise? => limbBodies limbs otherwise? :: (blocksOfLimbs limbs ++ blocksOfLast otherwise?)
  | .loop _ _ body => [body] :: blocksOf body

def blocksOf : List Node → List (List (List Node))
  | [] => []
  | n :: ns => n.blocks ++ blocksOf ns

def blocksOfLimbs : List Limb → List (List (List Node))
  | [] => []
  | .mk _ body :: limbs => blocksOf body ++ blocksOfLimbs limbs

def blocksOfLast : Option (List Node) → List (List (List Node))
  | none => []
  | some body => blocksOf body

end

/-- Whether in all blocks the lines of a body lose by the indentation of the block what stands in front of the
first line of the body. -/
def Level (ns : List Node) : Prop :=
  ∀ bodies ∈ blocksOf ns, ∀ body ∈ bodies, ∀ text ∈ texts body, isVisible text →
    leading text - blockLead bodies = leading text - bodyLead body

instance : DecidablePred Level :=
  fun ns => inferInstanceAs (Decidable (∀ bodies ∈ blocksOf ns, ∀ body ∈ bodies, ∀ text ∈ texts body,
    isVisible text → leading text - blockLead bodies = leading text - bodyLead body))

/-- The content of a line of text that keeps what it has of white space beyond an indentation. -/
def beyond (lead : Nat) (text : List Char) : List ContentItem :=
  textItems (List.replicate (leading text - lead) ' ' ++ trimStart text)

mutual

/-- The items of a node, with the indentation of the body that it stands in, and the number of choices behind
it. Each body in it is read without its own indentation. -/
def Node.laid (id : String) (outer count : Nat) : Node → List ContentItem × Nat
  | .text text => (beyond outer text, count)
  | .adds (.items items) => (items, count)
  | .adds (.command c) => ([.command c], count)
  | .adds (.choice c) => ([.choice (numbered id count c)], count + 1)
  | .cond limbs otherwise? =>
    let (branches, count) := laidBranches id count limbs
    let (last, count) := laidLast id count otherwise?
    ([.conditional (branches ++ last)], count)
  | .loop vars collection body =>
    let (items, count) := laidNodes id (bodyLead body) count body
    ([.loop vars collection items], count)

def laidNodes (id : String) (outer count : Nat) : List Node → List ContentItem × Nat
  | [] => ([], count)
  | n :: ns =>
    let (first, count) := n.laid id outer count
    let (more, count) := laidNodes id outer count ns
    (first ++ more, count)

def laidBranches (id : String) (count : Nat) : List Limb → List Branch × Nat
  | [] => ([], count)
  | .mk condition body :: limbs =>
    let (content, count) := laidNodes id (bodyLead body) count body
    let (more, count) := laidBranches id count limbs
    (⟨some condition, content⟩ :: more, count)

def laidLast (id : String) (count : Nat) : Option (List Node) → List Branch × Nat
  | none => ([], count)
  | some body =>
    let (content, count) := laidNodes id (bodyLead body) count body
    ([⟨none, content⟩], count)

end

/-- A passage with a node outside all blocks, in which each body is read without its own indentation. -/
def layNode (s : Passage × Nat) : Node → Passage × Nat
  | .text text => takeNode s (.text text)
  | .adds entry => takeNode s (.adds entry)
  | block =>
    let (items, count) := block.laid s.1.id 0 s.2
    ({ s.1 with content := s.1.content ++ items }, count)

/-- Whether there are only spaces in front of a text. -/
def IsSpaced (text : List Char) : Prop :=
  ∀ c ∈ indentation text, c = ' '

instance : DecidablePred IsSpaced :=
  fun text => List.decidableBAll (· = ' ') (indentation text)

section Lines

variable {text : List Char} {c : Char} {cs : List Char}

lemma isVisible_blank (blank : isBlank c) (cs : List Char) : isVisible (c :: cs) = isVisible cs := by
  rw [isVisible, isVisible, stripComment_blank blank, isBlankText, List.all_cons, blank, Bool.true_and,
    isBlankText]

lemma isVisible_blanks {gap : List Char} (blanks : ∀ c ∈ gap, isBlank c) (cs : List Char) :
    isVisible (gap ++ cs) = isVisible cs := by
  induction gap with
  | nil => rfl
  | cons c gap ih =>
    rw [List.cons_append, isVisible_blank (blanks c List.mem_cons_self)]
    exact ih fun c member => blanks c (List.mem_cons_of_mem _ member)

lemma textItems_hidden (hidden : isVisible text = false) : textItems text = [] := by
  unfold textItems readTextLine
  rw [isVisible, Bool.not_eq_false'] at hidden
  simp only [hidden, if_true]
  rfl

lemma blank_of_replicate {n : Nat} : ∀ c ∈ List.replicate n ' ', isBlank c := by
  intro c member
  rw [List.eq_of_mem_replicate member]
  rfl

/-- What stands in front of a line does not make it more than a comment. -/
lemma isVisible_beyond (n : Nat) (text : List Char) :
    isVisible (List.replicate n ' ' ++ trimStart text) = isVisible text := by
  have blanks : ∀ c ∈ indentation text, isBlank c := List.all_eq_true.mp List.all_takeWhile
  have split : indentation text ++ trimStart text = text := List.takeWhile_append_dropWhile
  rw [isVisible_blanks blank_of_replicate, ← isVisible_blanks blanks, split]

lemma byteLength_replicate (n : Nat) : byteLength (List.replicate n ' ') = n := by
  induction n with
  | zero => rfl
  | succ n ih =>
    rw [List.replicate_succ, byteLength, ih, Nat.add_comm]
    rfl

/-- A text with only spaces in front of it. -/
lemma IsSpaced.split (spaced : IsSpaced text) :
    text = List.replicate (leading text) ' ' ++ trimStart text := by
  have front : indentation text = List.replicate (indentation text).length ' ' :=
    List.eq_replicate_of_mem spaced
  have width : leading text = (indentation text).length := by
    rw [leading, front, byteLength_replicate, List.length_replicate]
  rw [width, ← front]
  exact List.takeWhile_append_dropWhile.symm

lemma outdent_spaced (spaced : IsSpaced text) (base : Nat) :
    outdent base text = List.replicate (leading text - base) ' ' ++ trimStart text := by
  have cut : leading text = min (leading text) base + (leading text - base) := by omega
  refine outdent_eq ?_
  have dropped := dropBytes_append (List.replicate (min (leading text) base) ' ')
    (List.replicate (leading text - base) ' ' ++ trimStart text)
  rw [byteLength_replicate, ← List.append_assoc, List.replicate_append_replicate, ← cut,
    ← spaced.split] at dropped
  exact dropped

/-- Whether a line of text loses the same by the indentation of its block as by that of its body. -/
structure Fits (base lead : Nat) (text : List Char) : Prop where
  spaced : IsSpaced text
  same : isVisible text → leading text - base = leading text - lead

lemma Fits.items {base lead : Nat} (fits : Fits base lead text) :
    textItems (outdent base text) = beyond lead text := by
  rw [outdent_spaced fits.spaced, beyond]
  cases shown : isVisible text with
  | true => rw [fits.same shown]
  | false =>
    have hidden (n : Nat) : isVisible (List.replicate n ' ' ++ trimStart text) = false :=
      (isVisible_beyond n text).trans shown
    rw [textItems_hidden (hidden _), textItems_hidden (hidden _)]

end Lines

/-! ## What is read of a body -/

section Reading

variable {id : String} {s : Spot} {lines more : List (List Char)} {ok ok' : Nat → Prop}

lemma texts_append (ns more : List Node) : texts (ns ++ more) = texts ns ++ texts more :=
  List.filterMap_append

lemma firstLead?_append (lines more : List (List Char)) :
    firstLead? (lines ++ more) = (firstLead? lines).or (firstLead? more) := by
  unfold firstLead?
  rw [List.head?_append, Option.map_or]

/-- The spot behind lines of text, and a number of choices. -/
def Spot.behind (s : Spot) (lines : List (List Char)) (count : Nat) : Spot :=
  ⟨s.indent?.or (firstLead? lines), count⟩

/-- Whether something is so of the indentation that a block has behind lines of text. -/
def Spot.Suits (s : Spot) (lines : List (List Char)) (ok : Nat → Prop) : Prop :=
  ∀ base, s.indent?.or (firstLead? lines) = some base → ok base

lemma Spot.behind_nil (s : Spot) : s.behind [] s.count = s := by
  rw [behind, show firstLead? [] = none from rfl, Option.or_none]

lemma Spot.behind_behind (s : Spot) (lines more : List (List Char)) (count count' : Nat) :
    (s.behind lines count).behind more count' = s.behind (lines ++ more) count' := by
  simp only [behind, firstLead?_append, Option.or_assoc]

lemma Spot.Suits.left (suits : s.Suits (lines ++ more) ok) (imp : ∀ base, ok base → ok' base) :
    s.Suits lines ok' := by
  intro base same
  refine imp base (suits base ?_)
  rw [firstLead?_append, ← Option.or_assoc, same]
  rfl

lemma Spot.Suits.right (suits : s.Suits (lines ++ more) ok) (count : Nat) (imp : ∀ base, ok base → ok' base) :
    (s.behind lines count).Suits more ok' := by
  intro base same
  refine imp base (suits base ?_)
  rwa [firstLead?_append, ← Option.or_assoc]

/-- Whether the lines of text of a body lose by an indentation what stands in front of the first of them. -/
def BodyFits (base : Nat) (body : List Node) : Prop :=
  ∀ text ∈ texts body, Fits base (bodyLead body) text

/-- Whether the bodies of a block do so by the indentation of the block. -/
def BlockFits (bodies : List (List Node)) : Prop :=
  ∀ body ∈ bodies, BodyFits (blockLead bodies) body

lemma BlockFits.suits {bodies : List (List Node)} (fits : BlockFits bodies) (count : Nat) :
    Spot.Suits ⟨none, count⟩ (texts bodies.flatten) fun base => ∀ body ∈ bodies, BodyFits base body := by
  intro first same
  have set : blockLead bodies = first := by
    rw [blockLead, show firstLead? (texts bodies.flatten) = some first from same]
    rfl
  exact set ▸ fits

mutual

/-- A node is read by the indentation of its block as it is laid out by that of its body, if its lines lose
the same by both. -/
theorem Node.items_laid (id : String) (outer : Nat) : (n : Node) → (s : Spot) →
    (∀ bodies ∈ n.blocks, BlockFits bodies) →
    s.Suits (texts [n]) (fun base => ∀ text ∈ texts [n], Fits base outer text) →
    n.items id s = ((n.laid id outer s.count).1, s.behind (texts [n]) (n.laid id outer s.count).2)
  | .text text, ⟨indent?, count⟩, _, suits => by
    have set : indent?.or (some (leading text)) = some (indent?.getD (leading text)) := by
      cases indent? <;> rfl
    have items := (suits _ set text List.mem_cons_self).items
    simp only [Node.items, Node.laid, Spot.behind, texts, firstLead?, List.filterMap, List.head?_cons,
      Option.map_some, set, ← items]
    rfl
  | .adds (.items items), s, _, _ => congrArg (Prod.mk _) s.behind_nil.symm
  | .adds (.command c), s, _, _ => congrArg (Prod.mk _) s.behind_nil.symm
  | .adds (.choice c), s, _, _ =>
    congrArg (Prod.mk _) (Spot.behind_nil ⟨s.indent?, s.count + 1⟩).symm
  | .cond limbs otherwise?, s, nested, _ => by
    obtain ⟨here, within⟩ := List.forall_mem_cons.mp nested
    have suits := here.suits s.count
    rw [limbBodies, List.flatten_append, texts_append] at suits
    have first := branchesOf_laid id limbs ⟨none, s.count⟩
      (fun bodies member => within bodies (List.mem_append_left _ member))
      (suits.left fun base fits body member => fits body (List.mem_append_left _ member))
    have last := lastOf_laid id otherwise? _
      (fun bodies member => within bodies (List.mem_append_right _ member))
      (suits.right (laidBranches id s.count limbs).2 fun base fits body member =>
        fits body (List.mem_append_right _ member))
    simp only [Node.items, Node.laid, first, last]
    exact congrArg (Prod.mk _) (Spot.behind_nil ⟨s.indent?, _⟩).symm
  | .loop vars collection body, s, nested, _ => by
    obtain ⟨here, within⟩ := List.forall_mem_cons.mp nested
    have suits := here.suits s.count
    rw [List.flatten_singleton] at suits
    have inside := itemsOf_laid id (bodyLead body) body ⟨none, s.count⟩ within
      fun base same => suits base same body List.mem_cons_self
    simp only [Node.items, Node.laid, inside]
    exact congrArg (Prod.mk _) (Spot.behind_nil ⟨s.indent?, _⟩).symm

theorem itemsOf_laid (id : String) (outer : Nat) : (ns : List Node) → (s : Spot) →
    (∀ bodies ∈ blocksOf ns, BlockFits bodies) →
    s.Suits (texts ns) (fun base => ∀ text ∈ texts ns, Fits base outer text) →
    itemsOf id s ns =
      ((laidNodes id outer s.count ns).1, s.behind (texts ns) (laidNodes id outer s.count ns).2)
  | [], s, _, _ => congrArg (Prod.mk _) s.behind_nil.symm
  | n :: ns, s, nested, suits => by
    have split : texts (n :: ns) = texts [n] ++ texts ns := texts_append [n] ns
    rw [split] at suits ⊢
    have first := n.items_laid id outer s (fun bodies member => nested bodies (List.mem_append_left _ member))
      (suits.left fun base fits text member => fits text (List.mem_append_left _ member))
    have later := itemsOf_laid id outer ns (s.behind (texts [n]) (n.laid id outer s.count).2)
      (fun bodies member => nested bodies (List.mem_append_right _ member))
      (suits.right _ fun base fits text member => fits text (List.mem_append_right _ member))
    rw [Spot.behind_behind] at later
    simp only [itemsOf, laidNodes, first, later]
    rfl

theorem branchesOf_laid (id : String) : (limbs : List Limb) → (s : Spot) →
    (∀ bodies ∈ blocksOfLimbs limbs, BlockFits bodies) →
    s.Suits (texts (limbs.map Limb.body).flatten)
      (fun base => ∀ body ∈ limbs.map Limb.body, BodyFits base body) →
    branchesOf id s limbs =
      ((laidBranches id s.count limbs).1,
        s.behind (texts (limbs.map Limb.body).flatten) (laidBranches id s.count limbs).2)
  | [], s, _, _ => congrArg (Prod.mk _) s.behind_nil.symm
  | .mk condition body :: limbs, s, nested, suits => by
    have split : texts ((Limb.mk condition body :: limbs).map Limb.body).flatten =
        texts body ++ texts (limbs.map Limb.body).flatten := texts_append _ _
    rw [split] at suits ⊢
    have first := itemsOf_laid id (bodyLead body) body s
      (fun bodies member => nested bodies (List.mem_append_left _ member))
      (suits.left fun base fits => fits body List.mem_cons_self)
    have later := branchesOf_laid id limbs
      (s.behind (texts body) (laidNodes id (bodyLead body) s.count body).2)
      (fun bodies member => nested bodies (List.mem_append_right _ member))
      (suits.right _ fun base fits body member => fits body (List.mem_cons_of_mem _ member))
    rw [Spot.behind_behind] at later
    simp only [branchesOf, laidBranches, first, later]
    rfl

theorem lastOf_laid (id : String) : (otherwise? : Option (List Node)) → (s : Spot) →
    (∀ bodies ∈ blocksOfLast otherwise?, BlockFits bodies) →
    s.Suits (texts otherwise?.toList.flatten) (fun base => ∀ body ∈ otherwise?.toList, BodyFits base body) →
    lastOf id s otherwise? =
      ((laidLast id s.count otherwise?).1,
        s.behind (texts otherwise?.toList.flatten) (laidLast id s.count otherwise?).2)
  | none, s, _, _ => congrArg (Prod.mk _) s.behind_nil.symm
  | some body, s, nested, suits => by
    rw [Option.toList_some, List.flatten_singleton] at suits ⊢
    have inside := itemsOf_laid id (bodyLead body) body s nested
      fun base same => suits base same body List.mem_cons_self
    simp only [lastOf, laidLast, inside]

end

/-- Outside of blocks lines of text stay as they are. -/
lemma takeNode_laid {n : Node} (nested : ∀ bodies ∈ n.blocks, BlockFits bodies) (s : Passage × Nat) :
    takeNode s n = layNode s n := by
  cases n with
  | text | adds => rfl
  | cond limbs otherwise? =>
    have items := Node.items_laid s.1.id 0 (.cond limbs otherwise?) ⟨none, s.2⟩ nested nofun
    simp only [takeNode, layNode, items]
    rfl
  | loop vars collection body =>
    have items := Node.items_laid s.1.id 0 (.loop vars collection body) ⟨none, s.2⟩ nested nofun
    simp only [takeNode, layNode, items]
    rfl

lemma foldl_takeNode_laid {ns : List Node} (nested : ∀ bodies ∈ blocksOf ns, BlockFits bodies)
    (s : Passage × Nat) : ns.foldl takeNode s = ns.foldl layNode s := by
  induction ns generalizing s with
  | nil => rfl
  | cons n ns ih =>
    rw [List.foldl_cons, List.foldl_cons,
      takeNode_laid (fun bodies member => nested bodies (List.mem_append_left _ member)),
      ih (fun bodies member => nested bodies (List.mem_append_right _ member))]

end Reading

/-! ## The texts of lines -/

section Texts

variable {P : List Char → Prop}

/-- Whether something is so of all lines of text that stand right in bodies. -/
def TextsAre (P : List Char → Prop) (bodies : List (List Node)) : Prop :=
  ∀ body ∈ bodies, ∀ text ∈ texts body, P text

lemma blocksOfLimbs_append (limbs more : List Limb) :
    blocksOfLimbs (limbs ++ more) = blocksOfLimbs limbs ++ blocksOfLimbs more := by
  induction limbs with
  | nil => rfl
  | cons limb limbs ih =>
    obtain ⟨condition, body⟩ := limb
    rw [List.cons_append, blocksOfLimbs, ih, ← List.append_assoc]
    rfl

/-- What is so of a conditional is so of its bodies, and of the blocks in them. -/
lemma textsAre_cond {limbs : List Limb} {otherwise? : Option (List Node)} :
    (∀ bodies ∈ (Node.cond limbs otherwise?).blocks, TextsAre P bodies) ↔
      (TextsAre P (limbs.map Limb.body) ∧ TextsAre P otherwise?.toList) ∧
        (∀ bodies ∈ blocksOfLimbs limbs, TextsAre P bodies) ∧
          ∀ bodies ∈ blocksOfLast otherwise?, TextsAre P bodies := by
  rw [Node.blocks, List.forall_mem_cons, List.forall_mem_append, limbBodies]
  exact and_congr_left' List.forall_mem_append

mutual

/-- What is so of all lines is so of the texts that they hold, at any depth. -/
theorem Body.textsAre {ls : List SourceLine} {ns : List Node} : Body ls ns → (∀ l ∈ ls, P l.text) →
    (∀ text ∈ texts ns, P text) ∧ ∀ bodies ∈ blocksOf ns, TextsAre P bodies
  | .nil, _ => ⟨nofun, nofun⟩
  | .text valid more, all => by
    obtain ⟨here, behind⟩ := List.forall_mem_cons.mp all
    obtain ⟨direct, within⟩ := more.textsAre behind
    exact ⟨List.forall_mem_cons.mpr ⟨here, direct⟩, within⟩
  | .adds valid more, all => more.textsAre (List.forall_mem_cons.mp all).2
  | .cond inner closes more, all => by
    obtain ⟨front, back⟩ := List.forall_mem_append.mp all
    obtain ⟨direct, within⟩ := more.textsAre (List.forall_mem_cons.mp back).2
    exact ⟨direct, List.forall_mem_append.mpr ⟨inner.textsAre front, within⟩⟩
  | .loop opens inner closes more, all => by
    obtain ⟨front, back⟩ := List.forall_mem_append.mp all
    obtain ⟨direct, within⟩ := more.textsAre (List.forall_mem_cons.mp back).2
    obtain ⟨inside, nested⟩ := inner.textsAre (List.forall_mem_cons.mp front).2
    have block := List.forall_mem_cons.mpr ⟨List.forall_mem_singleton.mpr inside, nested⟩
    exact ⟨direct, List.forall_mem_append.mpr ⟨block, within⟩⟩

theorem Cond.textsAre {ls : List SourceLine} {limbs : List Limb} {otherwise? : Option (List Node)} :
    Cond ls limbs otherwise? → (∀ l ∈ ls, P l.text) →
    ∀ bodies ∈ (Node.cond limbs otherwise?).blocks, TextsAre P bodies
  | .first opens inner, all => by
    obtain ⟨inside, nested⟩ := inner.textsAre (List.forall_mem_cons.mp all).2
    rw [textsAre_cond, blocksOfLimbs, blocksOfLimbs, List.append_nil]
    exact ⟨⟨List.forall_mem_singleton.mpr inside, nofun⟩, nested, nofun⟩
  | .elif before opens inner, all => by
    obtain ⟨front, back⟩ := List.forall_mem_append.mp all
    obtain ⟨inside, nested⟩ := inner.textsAre (List.forall_mem_cons.mp back).2
    obtain ⟨⟨direct, _⟩, within, _⟩ := textsAre_cond.mp (before.textsAre front)
    rw [textsAre_cond, List.map_append, blocksOfLimbs_append, blocksOfLimbs, blocksOfLimbs, List.append_nil]
    exact ⟨⟨List.forall_mem_append.mpr ⟨direct, List.forall_mem_singleton.mpr inside⟩, nofun⟩,
      List.forall_mem_append.mpr ⟨within, nested⟩, nofun⟩
  | .otherwise before opens inner, all => by
    obtain ⟨front, back⟩ := List.forall_mem_append.mp all
    obtain ⟨inside, nested⟩ := inner.textsAre (List.forall_mem_cons.mp back).2
    obtain ⟨⟨direct, _⟩, within, _⟩ := textsAre_cond.mp (before.textsAre front)
    exact textsAre_cond.mpr ⟨⟨direct, List.forall_mem_singleton.mpr inside⟩, within, nested⟩

end

/-- Where only spaces stand in front of lines, they do in front of the lines of a passage. -/
lemma spaced_passageLines {lines : List SourceLine} (spaced : ∀ l ∈ lines, IsSpaced l.text) :
    ∀ l ∈ passageLines lines, IsSpaced l.text := by
  classical
  intro l member
  by_contra torn
  -- A line that begins with another blank would be no statement, and thus one of the source.
  let keep : SourceLine → Bool := fun l' => ¬IsSpaced l'.text
  have noStatement (l' : SourceLine) (code : List Char) : ¬keep (l'.statement code) := by
    rw [decide_eq_true_eq, not_not]
    exact nofun
  have kept : l ∈ (passageLines lines).filter keep := List.mem_filter.mpr ⟨member, decide_eq_true torn⟩
  have inside : l ∈ lines := (passageLines_sublist noStatement lines).mem kept
  exact torn (spaced l inside)

/-- Bodies whose lines lose the same by the indentation of the block as by their own fit. -/
lemma Level.fits {ns : List Node} (level : Level ns)
    (spaced : ∀ bodies ∈ blocksOf ns, TextsAre IsSpaced bodies) :
    ∀ bodies ∈ blocksOf ns, BlockFits bodies :=
  fun bodies block body member text inside =>
    ⟨spaced bodies block body member text inside, level bodies block body member text inside⟩

end Texts

end BranchingStory.Source
