import Mathlib.Tactic.Tauto
import BranchingStory.Proofs.Answer
import BranchingStory.Proofs.Source.Lines
import BranchingStory.Proofs.Story.Pieces

/-!
# Checked pieces

What the compiler checks while it reads a line: an expression is read once before it is kept as text,
and a format counts as one only if it can be read. So every piece that a line adds to a passage can be
read again, and the parameters of a passage are those of its header, with different names.
-/

namespace BranchingStory

open Script Source Text

/-- What is known of a piece that a line brings: an expression and a format can be read. Statements are
not checked here, and links only at the end. -/
def Piece.Checked : Piece → Prop
  | .expression code => ∃ e, Expr.read code.toList = .ok e
  | .spec text => ∃ spec, FormatSpec.read text = .ok spec
  | .statement _ => False
  | .link .. => True

def AllChecked (pieces : List Piece) : Prop :=
  ∀ piece ∈ pieces, piece.Checked

namespace AllChecked

lemma nil : AllChecked [] :=
  nofun

lemma cons {piece : Piece} {pieces : List Piece} (first : piece.Checked) (rest : AllChecked pieces) :
    AllChecked (piece :: pieces) := by
  intro other member
  rcases List.mem_cons.mp member with rfl | later
  · exact first
  · exact rest other later

lemma append {first second : List Piece} (ofFirst : AllChecked first) (ofSecond : AllChecked second) :
    AllChecked (first ++ second) := by
  intro piece member
  rcases List.mem_append.mp member with inFirst | inSecond
  · exact ofFirst piece inFirst
  · exact ofSecond piece inSecond

lemma filter {pieces : List Piece} (h : AllChecked pieces) (p : Piece → Bool) :
    AllChecked (pieces.filter p) :=
  fun piece member => h piece (List.mem_filter.mp member).1

lemma link {target : String} {args : List Arg} (h : AllChecked (argPieces args)) :
    AllChecked (linkPieces target args) :=
  cons trivial h

end AllChecked

namespace Source

lemma checked_of_checkExpression {code : List Char} {u : Unit} (h : checkExpression code = .ok u) :
    (Piece.expression (String.ofList code)).Checked := by
  unfold checkExpression at h
  cases read : Expr.read code with
  | error reason =>
    rw [read] at h
    cases h
  | ok e => exact ⟨e, by rw [String.toList_ofList, read]⟩

/-- The parameters that are read have different names, and defaults that can be read. -/
lemma readParams_ok {params : List Param} {items : List (List Char)} {result : List Param}
    (read : readParams params items = .ok result) (names : (params.map (·.name)).Nodup)
    (checked : AllChecked (params.flatMap (optionalPiece ·.default?))) :
    (result.map (·.name)).Nodup ∧ AllChecked (result.flatMap (optionalPiece ·.default?)) := by
  induction items generalizing params with
  | nil =>
    cases read
    exact ⟨names, checked⟩
  | cons item items ih =>
    -- The checks in front let a parameter in whose name is new and whose default can be read.
    have extend (default? : Option String) {name : String}
        (fresh : ¬(params.any fun p => decide (p.name = name)) = true)
        (ofDefault : AllChecked (optionalPiece default?))
        (rest : readParams (params ++ [⟨name, default?⟩]) items = .ok result) :
        (result.map (·.name)).Nodup ∧ AllChecked (result.flatMap (optionalPiece ·.default?)) := by
      refine ih rest ?_ ?_
      · simp only [List.any_eq_true, decide_eq_true_eq, not_exists, not_and] at fresh
        rw [List.map_append, List.nodup_append]
        refine ⟨names, by simp, ?_⟩
        intro a inParams b inNew same
        obtain ⟨p, member, rfl⟩ := List.mem_map.mp inParams
        rw [List.map_singleton, List.mem_singleton] at inNew
        exact fresh p member (same.trans inNew)
      · rw [List.flatMap_append, List.flatMap_singleton]
        exact checked.append ofDefault
    unfold readParams at read
    rcases keyed : splitKeyword? (trim item) with _ | ⟨name, expr⟩
    · simp only [keyed, check_eq_ok] at read
      obtain ⟨_, fresh, _, rest⟩ := read
      exact extend none fresh .nil rest
    · simp only [keyed, check_eq_ok, bind_eq_ok] at read
      obtain ⟨_, fresh, _, ok, rest⟩ := read
      exact extend (some (String.ofList expr)) fresh (.cons (checked_of_checkExpression ok) .nil) rest

/-- What a header makes: a passage without content whose parameters have different names and defaults
that can be read. -/
lemma readHeader_ok {header : List Char} {p : Passage} (read : readHeader header = .ok p) :
    (p.params.map (·.name)).Nodup ∧ AllChecked p.pieces := by
  have fresh {id : String} {params : List Param} {tags : List String}
      (names : (params.map (·.name)).Nodup)
      (checked : AllChecked (params.flatMap (optionalPiece ·.default?))) :
      ((newPassage id params tags).params.map (·.name)).Nodup ∧
        AllChecked (newPassage id params tags).pieces := by
    refine ⟨names, ?_⟩
    simpa only [Passage.pieces, newPassage, piecesOfItems, List.flatMap_nil, List.map_nil,
      List.append_nil] using checked
  unfold readHeader at read
  simp only [bind_eq_ok, check_eq_ok] at read
  obtain ⟨⟨head, tags⟩, _, _, read⟩ := read
  split at read
  · cases read
    exact fresh List.nodup_nil .nil
  · split at read
    · cases read
    · simp only [bind_eq_ok, check_eq_ok, pure_eq_ok] at read
      obtain ⟨_, params, read, rfl⟩ := read
      unfold paramList at read
      split at read
      · cases read
        exact fresh List.nodup_nil .nil
      · obtain ⟨names, checked⟩ := readParams_ok read List.nodup_nil .nil
        exact fresh names checked
  · cases read

/-- Whether the parameters that must be given stand in front of those with a default. -/
def RequiredFirst (params : List Param) : Prop :=
  params.Pairwise fun before behind => behind.default? = none → before.default? = none

/-- If any parameter must be given, the first one must. -/
lemma RequiredFirst.head {first param : Param} {params : List Param}
    (ordered : RequiredFirst (first :: params)) (member : param ∈ first :: params)
    (required : param.default? = none) : first.default? = none := by
  rcases List.mem_cons.mp member with rfl | behind
  · exact required
  · exact (List.pairwise_cons.mp ordered).1 param behind required

/-- No parameter that must be given is read behind one with a default. -/
lemma readParams_requiredFirst {params : List Param} {items : List (List Char)} {result : List Param}
    (read : readParams params items = .ok result) (ordered : RequiredFirst params) :
    RequiredFirst result := by
  induction items generalizing params with
  | nil =>
    cases read
    exact ordered
  | cons item items ih =>
    have extend (default? : Option String) {name : String}
        (allowed : default? = none → ∀ p ∈ params, p.default? = none)
        (rest : readParams (params ++ [⟨name, default?⟩]) items = .ok result) :
        RequiredFirst result := by
      refine ih rest (List.pairwise_append.mpr ⟨ordered, List.pairwise_singleton _ _, ?_⟩)
      intro before inParams behind inNew required
      rw [List.mem_singleton.mp inNew] at required
      exact allowed required before inParams
    unfold readParams at read
    rcases keyed : splitKeyword? (trim item) with _ | ⟨name, expr⟩
    · simp only [keyed, check_eq_ok] at read
      obtain ⟨_, _, noDefaults, rest⟩ := read
      exact extend none (fun _ => by simpa using noDefaults) rest
    · simp only [keyed, check_eq_ok, bind_eq_ok] at read
      obtain ⟨_, _, _, _, rest⟩ := read
      exact extend (some (String.ofList expr)) nofun rest

lemma readHeader_requiredFirst {header : List Char} {p : Passage} (read : readHeader header = .ok p) :
    RequiredFirst p.params := by
  unfold readHeader at read
  simp only [bind_eq_ok, check_eq_ok] at read
  obtain ⟨⟨head, tags⟩, _, _, read⟩ := read
  split at read
  · cases read
    exact List.Pairwise.nil
  · split at read
    · cases read
    · simp only [bind_eq_ok, check_eq_ok, pure_eq_ok] at read
      obtain ⟨_, params, read, rfl⟩ := read
      unfold paramList at read
      split at read
      · cases read
        exact List.Pairwise.nil
      · exact readParams_requiredFirst read List.Pairwise.nil
  · cases read

/-- Arguments that are read can be read again. -/
lemma readArgs_ok {keyword : Bool} {items : List (List Char)} {args : List Arg}
    (read : readArgs keyword items = .ok args) : AllChecked (argPieces args) := by
  induction items generalizing keyword args with
  | nil =>
    cases read
    exact .nil
  | cons item items ih =>
    unfold readArgs at read
    rcases keyed : splitKeyword? (trim item) with _ | ⟨name, expr⟩
    · simp only [keyed, check_eq_ok, bind_eq_ok, pure_eq_ok] at read
      obtain ⟨_, _, _, ok, rest, readRest, rfl⟩ := read
      exact .cons (checked_of_checkExpression ok) (ih readRest)
    · simp only [keyed, check_eq_ok, bind_eq_ok, pure_eq_ok] at read
      obtain ⟨_, _, ok, rest, readRest, rfl⟩ := read
      exact .cons (checked_of_checkExpression ok) (ih readRest)

lemma readCall_ok {cs behind : List Char} {target : String} {args : List Arg}
    (read : readCall cs = .ok (target, args, behind)) : AllChecked (argPieces args) := by
  unfold readCall at read
  simp only [check_eq_ok] at read
  obtain ⟨_, read⟩ := read
  split at read
  · split at read
    · cases read
    · simp only [bind_eq_ok, pure_eq_ok] at read
      obtain ⟨args, ofList, same⟩ := read
      cases same
      unfold argList at ofList
      split at ofList
      · cases ofList
        exact .nil
      · exact readArgs_ok ofList
  · cases read
    exact .nil

/-- An interpolation that is read can be read again, with its format. -/
lemma readInterpolation_ok {inside : List Char} {item : ContentItem}
    (read : readInterpolation inside = .ok item) : AllChecked item.pieces := by
  -- What stands behind the last colon is split off only after it was read as a format.
  have ofSpec {spec : List Char} (isSpec : (splitSpec inside).2 = some spec) :
      (Piece.spec (String.ofList spec)).Checked := by
    unfold splitSpec at isSpec
    split at isSpec
    · cases isSpec
    · next before spec' _ =>
      simp only at isSpec
      split at isSpec
      · next both =>
        cases isSpec
        obtain ⟨parsed, ok⟩ := Option.isSome_iff_exists.mp (Bool.and_eq_true_iff.mp both).2
        refine ⟨parsed, ?_⟩
        unfold FormatSpec.read
        rw [String.toList_ofList, ok]
      · cases isSpec
  unfold readInterpolation at read
  simp only [check_eq_ok, bind_eq_ok, pure_eq_ok] at read
  obtain ⟨_, _, ok, rfl⟩ := read
  simp only [ContentItem.pieces]
  refine .cons (checked_of_checkExpression ok) ?_
  cases format : (splitSpec inside).2 with
  | none => exact .nil
  | some spec => exact .cons (ofSpec format) .nil

lemma checked_literalItem (literal : List Char) : AllChecked (piecesOfItems (literalItem literal)) := by
  unfold literalItem
  split
  · simp only [piecesOfItems]
    exact .nil
  · simp only [piecesOfItems, ContentItem.pieces, List.append_nil]
    exact .nil

lemma readText_ok {cs : List Char} {items : List ContentItem} (read : readText cs = .ok items) :
    AllChecked (piecesOfItems items) := by
  unfold readText at read
  generalize ([] : List Char) = literal at read
  fun_induction readTextFrom literal cs generalizing items with
  | case1 literal =>
    cases read
    exact checked_literalItem literal
  | case2 _ _ ih => exact ih read
  | case3 _ _ ih => exact ih read
  | case4 => cases read
  | case5 literal rest _ inside behind found ih =>
    simp only [bind_eq_ok, pure_eq_ok] at read
    obtain ⟨item, readItem, more, readMore, rfl⟩ := read
    rw [piecesOfItems_append]
    refine (checked_literalItem literal).append ?_
    simp only [piecesOfItems]
    exact (readInterpolation_ok readItem).append (ih readMore)
  | case6 _ _ _ _ _ _ ih => exact ih read

lemma readCondition_ok {directive condition : String} {cs : List Char}
    (read : readCondition directive cs = .ok condition) : (Piece.expression condition).Checked := by
  unfold readCondition at read
  simp only [bind_eq_ok, pure_eq_ok] at read
  obtain ⟨code, _, _, ok, rfl⟩ := read
  exact checked_of_checkExpression ok

lemma readLoop_ok {cs : List Char} {vars : List String} {collection : String}
    (read : readLoop cs = .ok (vars, collection)) : (Piece.expression collection).Checked := by
  unfold readLoop at read
  simp only [bind_eq_ok] at read
  obtain ⟨head, _, read⟩ := read
  split at read
  · cases read
  · simp only [check_eq_ok, bind_eq_ok, pure_eq_ok] at read
    obtain ⟨_, _, ok, same⟩ := read
    cases same
    exact checked_of_checkExpression ok

lemma readRender_ok {cs : List Char} {item : ContentItem} (read : readRender cs = .ok item) :
    AllChecked item.pieces := by
  unfold readRender at read
  simp only [bind_eq_ok, check_eq_ok, pure_eq_ok] at read
  obtain ⟨⟨hint?, body⟩, _, _, ⟨name, args, behind⟩, call, _, rfl⟩ := read
  simp only [ContentItem.pieces]
  exact readCall_ok call

lemma readInput_ok {cs : List Char} {item : ContentItem} (read : readInput cs = .ok item) :
    AllChecked item.pieces := by
  unfold readInput at read
  simp only [bind_eq_ok] at read
  obtain ⟨attrs, _, read⟩ := read
  split at read
  · cases read
  · simp only [check_eq_ok, pure_eq_ok] at read
    obtain ⟨_, rfl⟩ := read
    simp only [ContentItem.pieces]
    exact .nil

/-- The pieces of a passage in the making, those of its open blocks included. -/
def Draft.pieces (d : Draft) : List Piece :=
  d.passage.pieces ++ d.stack.flatMap fun block => block.toItem.pieces

/-- Whether an operation leaves the parameters of a passage alone, and adds none but certain pieces. -/
structure Draft.Extends (new : Piece → Prop) (d d' : Draft) : Prop where
  params : d'.passage.params = d.passage.params
  pieces : ∀ piece ∈ d'.pieces, piece ∈ d.pieces ∨ new piece

namespace Draft

variable {new : Piece → Prop} {d d' : Draft}

lemma Extends.refl (d : Draft) : Extends new d d :=
  ⟨rfl, fun _ => .inl⟩

lemma Extends.trans {d'' : Draft} (first : Extends new d d') (second : Extends new d' d'') :
    Extends new d d'' := by
  refine ⟨second.params.trans first.params, ?_⟩
  intro piece member
  rcases second.pieces piece member with old | added
  · exact first.pieces piece old
  · exact .inr added

lemma Extends.mono {more : Piece → Prop} (h : Extends new d d')
    (sub : ∀ piece, new piece → more piece) :
    Extends more d d' :=
  ⟨h.params, fun piece member => (h.pieces piece member).imp_right (sub piece)⟩

lemma extends_addItems (d : Draft) (items : List ContentItem) :
    Extends (· ∈ piecesOfItems items) d (d.addItems items) := by
  obtain ⟨p, header, stack, count⟩ := d
  cases stack with
  | nil =>
    refine ⟨rfl, ?_⟩
    intro piece member
    simp only [addItems, pieces, Passage.pieces, piecesOfItems_append, List.mem_append] at member ⊢
    tauto
  | cons block stack =>
    refine ⟨rfl, ?_⟩
    intro piece member
    obtain ⟨line, form, inside, indent?⟩ := block
    cases form <;>
    · simp only [addItems, pieces, Block.toItem, List.flatMap_cons, ContentItem.pieces,
        piecesOfBranches_append, piecesOfBranches, piecesOfItems_append, List.mem_append,
        List.mem_cons] at member ⊢
      tauto

/-- Content that was checked may be added. -/
lemma Extends.addItems {items : List ContentItem} (checked : AllChecked (piecesOfItems items)) :
    Extends Piece.Checked d (d.addItems items) :=
  (extends_addItems d items).mono checked

lemma extends_addBreak (d : Draft) : Extends Piece.Checked d d.addBreak := by
  refine .addItems ?_
  simp only [piecesOfItems, ContentItem.pieces, List.append_nil]
  exact .nil

lemma extends_addCommand (d : Draft) (c : Command) : Extends (· = .statement c) d (d.addCommand c) := by
  obtain ⟨p, header, stack, count⟩ := d
  cases stack with
  | nil =>
    refine ⟨rfl, ?_⟩
    intro piece member
    simp only [addCommand, pieces, Passage.pieces, List.map_append, List.map_singleton, List.mem_append,
      List.mem_singleton] at member ⊢
    tauto
  | cons block stack =>
    refine (extends_addItems _ _).mono ?_
    intro piece added
    simpa only [piecesOfItems, ContentItem.pieces, List.append_nil, List.mem_singleton] using added

lemma Extends.addChoice {c : Choice} (checked : AllChecked c.pieces) :
    Extends Piece.Checked d (d.addChoice c) := by
  obtain ⟨p, header, stack, count⟩ := d
  cases stack with
  | nil =>
    refine ⟨rfl, ?_⟩
    intro piece member
    simp only [Draft.addChoice, Draft.pieces, Passage.pieces, List.flatMap_append,
      List.flatMap_singleton, List.mem_append] at member ⊢
    have known := checked piece
    tauto
  | cons block stack =>
    have added := extends_addItems ⟨p, header, block :: stack, count + 1⟩ [.choice c]
    refine ⟨added.params, ?_⟩
    intro piece member
    refine (added.pieces piece member).imp_right fun ofChoice => checked piece ?_
    simpa only [piecesOfItems, pieces_choice, List.append_nil] using ofChoice

/-- A block whose condition or collection was checked may be opened. -/
lemma Extends.openBlock {line : Nat} {form : BlockForm}
    (checked : AllChecked (Block.toItem ⟨line, form, [], none⟩).pieces) :
    Extends Piece.Checked d (d.openBlock line form) := by
  refine ⟨rfl, ?_⟩
  intro piece member
  simp only [Draft.openBlock, Draft.pieces, List.flatMap_cons, List.mem_append] at member ⊢
  have known := checked piece
  tauto

lemma extends_addBranch {condition? : Option String} {afterElse outside : Fault}
    (checked : AllChecked (optionalPiece condition?))
    (h : d.addBranch condition? afterElse outside = .ok d') : Extends Piece.Checked d d' := by
  obtain ⟨p, header, stack, count⟩ := d
  unfold addBranch at h
  cases stack with
  | nil => cases h
  | cons block stack =>
    obtain ⟨line, form, inside, indent?⟩ := block
    rcases form with ⟨closed, open?, _ | _⟩ | _ <;> cases h
    refine ⟨rfl, ?_⟩
    intro piece member
    simp only [pieces, Block.nextBranch, Block.toItem, List.flatMap_cons, ContentItem.pieces,
      piecesOfBranches_append, piecesOfBranches, piecesOfItems, List.mem_append, List.not_mem_nil,
      or_false] at member ⊢
    have known := checked piece
    tauto

lemma extends_closeBlock {kind : BlockKind} {rest : List Char} (h : d.closeBlock kind rest = .ok d') :
    Extends Piece.Checked d d' := by
  -- A closed block is an item of the block around it, so that no piece is new.
  have close (block : Block) (stack : List Block) (opened : d.stack = block :: stack) :
      Extends Piece.Checked d (Draft.addItems { d with stack } [block.toItem]) := by
    have added := extends_addItems { d with stack } [block.toItem]
    refine ⟨added.params, ?_⟩
    intro piece member
    left
    rcases added.pieces piece member with old | inBlock
    · simp only [pieces, opened, List.flatMap_cons, List.mem_append] at old ⊢
      tauto
    · simp only [piecesOfItems, List.append_nil] at inBlock
      simp only [pieces, opened, List.flatMap_cons, List.mem_append]
      tauto
  unfold closeBlock at h
  simp only at h
  split at h
  · split at h <;> cases h
  · split at h
    · cases h
    · next block stack opened =>
      simp only [check_eq_ok, pure_eq_ok] at h
      obtain ⟨_, rfl⟩ := h
      exact close block stack opened

lemma extends_addText {text : List Char} (h : d.addText text = .ok d') :
    Extends Piece.Checked d d' := by
  unfold addText at h
  simp only at h
  split at h
  · cases h
    exact .refl d
  · split at h
    · simp only [bind_eq_ok, pure_eq_ok] at h
      obtain ⟨items, read, rfl⟩ := h
      exact .addItems (readText_ok read)
    · simp only [bind_eq_ok, pure_eq_ok] at h
      obtain ⟨items, read, rfl⟩ := h
      exact .trans (.addItems (readText_ok read)) (extends_addBreak _)

lemma extends_addJump {cs : List Char} {line : Nat} (h : d.addJump cs line = .ok d') :
    Extends Piece.Checked d d' := by
  unfold addJump at h
  simp only [bind_eq_ok, check_eq_ok, pure_eq_ok] at h
  obtain ⟨⟨target, args, behind⟩, read, _, rfl⟩ := h
  refine .addItems ?_
  simp only [piecesOfItems, ContentItem.pieces, List.append_nil]
  exact .link (readCall_ok read)

lemma readGuard_ok {cs rest : List Char} {guard? : Option String}
    (h : readGuard cs = .ok (guard?, rest)) : AllChecked (optionalPiece guard?) := by
  unfold readGuard at h
  split at h
  · split at h
    · cases h
    · simp only [check_eq_ok, bind_eq_ok, pure_eq_ok] at h
      obtain ⟨_, _, ok, same⟩ := h
      cases same
      exact .cons (checked_of_checkExpression ok) .nil
  · cases h
    exact .nil

lemma extends_readChoice {cs : List Char} {oneShot : Bool} {line : Nat}
    (h : d.readChoice cs oneShot line = .ok d') : Extends Piece.Checked d d' := by
  unfold readChoice at h
  simp only [bind_eq_ok] at h
  obtain ⟨⟨head, tags⟩, _, ⟨guard?, rest⟩, ofGuard, h⟩ := h
  split at h
  · split at h
    · cases h
    · next inside behind _ =>
      simp only [bind_eq_ok] at h
      obtain ⟨text, ofText, h⟩ := h
      split at h
      · cases h
      · simp only [bind_eq_ok, check_eq_ok, pure_eq_ok] at h
        obtain ⟨⟨target, args, behind⟩, ofCall, _, rfl⟩ := h
        refine .addChoice ?_
        exact ((readGuard_ok ofGuard).append (.link (readCall_ok ofCall))).append
          ((readText_ok ofText).filter _)
  · cases h

lemma extends_obey {cs : List Char} {line : Nat} (h : d.obey cs line = .ok d') :
    Extends Piece.Checked d d' := by
  unfold obey at h
  simp only at h
  split at h
  · simp only [bind_eq_ok, pure_eq_ok] at h
    obtain ⟨condition, read, rfl⟩ := h
    refine .openBlock ?_
    simp only [Block.toItem, List.nil_append, ContentItem.pieces, piecesOfBranches, piecesOfItems,
      List.append_nil]
    exact .cons (readCondition_ok read) .nil
  · simp only [bind_eq_ok] at h
    obtain ⟨condition, read, added⟩ := h
    refine extends_addBranch ?_ added
    exact .cons (readCondition_ok read) .nil
  · simp only [check_eq_ok] at h
    refine extends_addBranch ?_ h.2
    exact .nil
  · exact extends_closeBlock h
  · exact extends_closeBlock h
  · simp only [bind_eq_ok, pure_eq_ok] at h
    obtain ⟨⟨vars, collection⟩, read, rfl⟩ := h
    refine .openBlock ?_
    simp only [Block.toItem, ContentItem.pieces, piecesOfItems]
    exact .cons (readLoop_ok read) .nil
  · simp only [bind_eq_ok, pure_eq_ok] at h
    obtain ⟨item, read, rfl⟩ := h
    refine .addItems ?_
    simp only [piecesOfItems, List.append_nil]
    exact readRender_ok read
  · simp only [bind_eq_ok, pure_eq_ok] at h
    obtain ⟨item, read, rfl⟩ := h
    refine .addItems ?_
    simp only [piecesOfItems, List.append_nil]
    exact readInput_ok read
  · cases h
  · cases h

lemma extends_settle {step : Except Fault Draft} (h : ∀ d', step = .ok d' → Extends new d d') :
    Extends new d (d.settle step).1 := by
  cases step with
  | error fault => exact .refl d
  | ok d' => exact h d' rfl

lemma extends_dedent {text rest : List Char} (h : d.dedent text = some (rest, d')) :
    Extends new d d' := by
  obtain ⟨p, header, stack, count⟩ := d
  unfold dedent at h
  cases stack with
  | nil =>
    cases h
    exact .refl _
  | cons block stack =>
    simp only [Option.map_eq_some_iff] at h
    obtain ⟨_, _, same⟩ := h
    cases same
    exact ⟨rfl, fun piece member => .inl member⟩

/-- A line adds nothing but what was checked. -/
theorem extends_readLine {l : SourceLine} {fault? : Option Fault}
    (h : d.readLine l = some (d', fault?)) : Extends Piece.Checked d d' := by
  have settled {step : Except Fault Draft} {start : Draft}
      (ok : ∀ d', step = .ok d' → Extends Piece.Checked start d')
      (same : start.settle step = (d', fault?)) : Extends Piece.Checked start d' := by
    have extended := extends_settle ok
    rwa [same] at extended
  unfold readLine at h
  simp only at h
  split at h
  · exact settled (fun _ => extends_obey) (Option.some.inj h)
  · exact settled (fun _ => extends_addJump) (Option.some.inj h)
  · exact settled (fun _ => extends_readChoice) (Option.some.inj h)
  · simp only [Option.map_eq_some_iff] at h
    obtain ⟨⟨text, dedented⟩, indented, same⟩ := h
    exact .trans (extends_dedent indented) (settled (fun _ => extends_addText) same)

/-- A statement adds its command alone. -/
theorem extends_readStatement (d : Draft) (code : List Char) (line : Nat) :
    Extends (fun piece => ∃ c, readCommand code line = .ok c ∧ piece = .statement c) d
      (d.readStatement code line).1 := by
  refine extends_settle fun d' added => ?_
  rw [map_eq_ok] at added
  obtain ⟨c, read, rfl⟩ := added
  exact (extends_addCommand d c).mono fun piece same => ⟨c, read, same⟩

end Draft

end Source

end BranchingStory
