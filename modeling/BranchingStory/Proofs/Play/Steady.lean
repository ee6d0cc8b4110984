import BranchingStory.Proofs.Play.Chain
import BranchingStory.Proofs.Script.Drawless
import BranchingStory.Proofs.Story.Pieces

/-!
# Stories without chance

A story whose fragments call no random function. What its passages show depends on the variables, the
arguments and the choices that were taken, and on these as a set: the generator is never used.
-/

namespace BranchingStory

open Script

variable {Obj : Type}

/-- Whether a random function is called in an expression fragment. -/
def drawsExpression (code : String) : Bool :=
  match Expr.read code.toList with
  | .ok e => e.draws
  | .error _ => false

def drawsStatement (code : String) : Bool :=
  match Stmt.read code.toList with
  | .ok stmt => stmt.draws
  | .error _ => false

def Piece.draws : Piece → Bool
  | .expression code => drawsExpression code
  | .statement command => drawsStatement command.source
  | .spec _ | .link .. => false

/-- Whether a random function is called anywhere in a story. -/
def Story.draws (story : Story) : Bool :=
  story.pieces.any Piece.draws

/-- Two contexts that show the same choices. -/
structure RenderContext.Same (ctx ctx' : RenderContext) : Prop where
  passage : ctx.passage = ctx'.passage
  consumed : ∀ key, key ∈ ctx.consumed ↔ key ∈ ctx'.consumed

namespace Agree

variable {first first' second second' : Pass Obj}

lemma andThen (ofFirst : Agree first first') (ofSecond : Agree second second') :
    Agree (first.andThen second) (first'.andThen second') := by
  intro s generator
  have next := ofSecond (first s).2 generator
  simp only [Pass.andThen, ofFirst s generator]
  split
  · rfl
  · rw [next]

lemma ofFrame (body : Agree first first') : Agree (Pass.inFrame first) (Pass.inFrame first') := by
  intro s generator
  have same := body s.pushFrame generator
  simp only [Pass.inFrame]
  rw [show (s.reseed generator).pushFrame = s.pushFrame.reseed generator from rfl, same]
  rfl

lemma attempt {α : Type} {computation : EvalM Obj α} {failed failed' : EvalError → Pass Obj}
    {done done' : α → Pass Obj} (steady : Steady computation)
    (ofFailed : ∀ reason, Agree (failed reason) (failed' reason))
    (ofDone : ∀ a, Agree (done a) (done' a)) :
    Agree (Pass.attempt computation failed done) (Pass.attempt computation failed' done') := by
  intro s generator
  have same := steady s generator
  simp only [Pass.attempt]
  rw [same]
  rcases (computation s : Except EvalError α × Scope Obj) with ⟨reason | a, s⟩
  · exact ofFailed reason s generator
  · exact ofDone a s generator

end Agree

section Fragments

variable [HostObject Obj]

lemma evalSource_steady {code : String} (drawless : drawsExpression code = false) :
    Steady (evalSource code : EvalM Obj (Value Obj)) := by
  unfold drawsExpression at drawless
  unfold evalSource
  cases read : Expr.read code.toList with
  | error reason => exact .answer _
  | ok e =>
    rw [read] at drawless
    exact eval_steady e drawless

lemma execSource_steady {code : String} (drawless : drawsStatement code = false) :
    Steady (execSource code : EvalM Obj Unit) := by
  unfold drawsStatement at drawless
  unfold execSource
  cases read : Stmt.read code.toList with
  | error reason => exact .answer _
  | ok stmt =>
    rw [read] at drawless
    exact exec_steady stmt drawless

lemma evalText_steady {code : String} (drawless : drawsExpression code = false)
    (format? : Option String) : Steady (evalText code format? : EvalM Obj String) := by
  refine .bind (evalSource_steady drawless) fun value => ?_
  cases format? with
  | none => exact .pure _
  | some spec => exact .answer _

lemma evalArgs_steady {args : List Arg} (drawless : (argPieces args).any Piece.draws = false)
    (call : CallArgs Obj) : Steady (evalArgs call args) := by
  induction args generalizing call with
  | nil => exact .answer _
  | cons arg args ih =>
    simp only [argPieces, List.map_cons, List.any_cons, Bool.or_eq_false_iff] at drawless
    intro s generator
    have steady : Steady (evalSource arg.expr : EvalM Obj (Value Obj)) := evalSource_steady drawless.1
    simp only [evalArgs]
    rw [steady s generator]
    rcases (evalSource arg.expr s : Except EvalError (Value Obj) × Scope Obj) with ⟨reason | value, s⟩
    · rfl
    · exact ih drawless.2 _ s generator

end Fragments

section Rendering

variable [HostObject Obj] {ctx ctx' : RenderContext} (same : ctx.Same ctx')
include same

omit [HostObject Obj] in
lemma warn_same (code : String) (reason : EvalError) :
    (ctx.warn code reason : Rendered Obj) = ctx'.warn code reason := by
  unfold RenderContext.warn
  rw [same.passage]

omit [HostObject Obj] in
lemma emit_warn (code : String) (reason : EvalError) :
    Agree (Pass.emit (ctx.warn code reason) : Pass Obj) (Pass.emit (ctx'.warn code reason)) := by
  rw [warn_same same]
  exact .answer _

lemma withCondition_agree {code : String} (drawless : drawsExpression code = false)
    {yes yes' no no' : Pass Obj} (ofYes : Agree yes yes') (ofNo : Agree no no') :
    Agree (withCondition ctx code yes no) (withCondition ctx' code yes' no') := by
  refine .attempt (evalSource_steady drawless) ?_ fun value => ?_
  · exact fun reason => .andThen (emit_warn same code reason) ofNo
  · split
    · exact ofYes
    · exact ofNo

lemma withArgs_agree {args : List Arg} (drawless : (argPieces args).any Piece.draws = false)
    {done done' : CallArgs Obj → Pass Obj} (ofDone : ∀ call, Agree (done call) (done' call)) :
    Agree (withArgs ctx args done) (withArgs ctx' args done') := by
  intro s generator
  have call := evalArgs_steady drawless (CallArgs.none : CallArgs Obj) s generator
  simp only [withArgs]
  rw [call]
  rcases evalArgs CallArgs.none args s with ⟨⟨code, reason⟩ | call, s⟩
  · simp only [warn_same same]
  · exact ofDone call s generator

lemma renderExpression_agree {code : String} (drawless : drawsExpression code = false)
    (format? : Option String) :
    Agree (renderExpression ctx code format? : Pass Obj) (renderExpression ctx' code format?) := by
  refine .attempt (evalText_steady drawless format?) ?_ fun text => .answer _
  intro reason
  rw [warn_same same]
  exact .answer _

lemma renderLabel_agree {items : List ContentItem}
    (drawless : ((piecesOfItems items).filter (!·.isLink)).any Piece.draws = false) :
    Agree (renderLabel ctx items : Pass Obj) (renderLabel ctx' items) := by
  induction items with
  | nil => exact .answer _
  | cons item items ih =>
    simp only [piecesOfItems, List.filter_append, List.any_append, Bool.or_eq_false_iff] at drawless
    have later := ih drawless.2
    cases item with
    | text text =>
      simp only [renderLabel]
      exact .andThen (.answer _) later
    | expression code format? =>
      simp only [renderLabel]
      refine .andThen (renderExpression_agree same ?_ format?) later
      simpa [ContentItem.pieces, Piece.isLink, Piece.draws] using drawless.1
    | _ =>
      simp only [renderLabel]
      exact later

lemma offerChoice_agree {c : Choice} (inArgs : (argPieces c.args).any Piece.draws = false)
    (inLabel : ((piecesOfItems c.text).filter (!·.isLink)).any Piece.draws = false) :
    Agree (offerChoice ctx c : Pass Obj) (offerChoice ctx' c) := by
  refine withArgs_agree same inArgs fun call s generator => ?_
  have label : Agree (renderLabel ctx c.text : Pass Obj) (renderLabel ctx' c.text) :=
    renderLabel_agree same inLabel
  simp only [label s generator]

lemma renderChoice_agree {c : Choice} (drawless : c.pieces.any Piece.draws = false) :
    Agree (renderChoice ctx c : Pass Obj) (renderChoice ctx' c) := by
  simp only [Choice.pieces, linkPieces, List.any_append, List.any_cons, Bool.or_eq_false_iff]
    at drawless
  obtain ⟨⟨inGuard, -, inArgs⟩, inLabel⟩ := drawless
  have offered : Agree (offerChoice ctx c : Pass Obj) (offerChoice ctx' c) :=
    offerChoice_agree same inArgs inLabel
  have open_ : ctx.consumed.contains c.key = ctx'.consumed.contains c.key := by
    rw [Bool.eq_iff_iff, List.contains_iff_mem, List.contains_iff_mem]
    exact same.consumed c.key
  unfold renderChoice
  rw [open_]
  split
  · exact .answer _
  · cases guarded : c.guard? with
    | none => exact offered
    | some guard =>
      refine withCondition_agree same ?_ offered (.answer _)
      simpa [guarded, optionalPiece, Piece.draws] using inGuard

lemma renderChoices_agree {choices : List Choice}
    (drawless : (choices.flatMap Choice.pieces).any Piece.draws = false) :
    Agree (renderChoices ctx choices : Pass Obj) (renderChoices ctx' choices) := by
  induction choices with
  | nil => exact .answer _
  | cons c choices ih =>
    simp only [List.flatMap_cons, List.any_append, Bool.or_eq_false_iff] at drawless
    exact .andThen (renderChoice_agree same drawless.1) (ih drawless.2)

lemma renderEach_agree {vars : List String} {collection : String} {body body' : Pass Obj}
    (ofBody : Agree body body') (items : List (Value Obj)) :
    Agree (renderEach ctx vars collection body items)
      (renderEach ctx' vars collection body' items) := by
  induction items with
  | nil => exact .answer _
  | cons item items ih =>
    refine .andThen (.ofFrame (.attempt (bindTargets_steady vars item) ?_ fun _ => ofBody)) ih
    exact fun reason => emit_warn same collection reason

end Rendering

section Items

variable [HostObject Obj] {ctx ctx' : RenderContext}

mutual

theorem renderItem_agree (same : ctx.Same ctx') : (item : ContentItem) →
    item.pieces.any Piece.draws = false →
    Agree (renderItem ctx item : Pass Obj) (renderItem ctx' item)
  | .text text, _ => by
    simp only [renderItem]
    exact .answer _
  | .expression code format?, drawless => by
    simp only [ContentItem.pieces, List.any_cons, Bool.or_eq_false_iff] at drawless
    simp only [renderItem]
    exact renderExpression_agree same drawless.1 format?
  | .conditional branches, drawless => by
    simp only [ContentItem.pieces] at drawless
    simp only [renderItem]
    exact renderBranches_agree same branches drawless
  | .loop vars collection body, drawless => by
    simp only [ContentItem.pieces, List.any_cons, Bool.or_eq_false_iff] at drawless
    simp only [renderItem]
    refine .attempt ?_ (fun reason => emit_warn same collection reason) fun items => ?_
    · exact .bind (evalSource_steady drawless.1) fun value => .answer _
    · exact renderEach_agree same (renderItems_agree same body drawless.2) items
  | .jump target args line, drawless => by
    simp only [ContentItem.pieces, linkPieces, List.any_cons, Bool.or_eq_false_iff] at drawless
    simp only [renderItem]
    exact withArgs_agree same drawless.2 fun call => .answer _
  | .render name args hint?, drawless => by
    simp only [ContentItem.pieces] at drawless
    simp only [renderItem]
    exact withArgs_agree same drawless fun call => .answer _
  | .input name label? placeholder?, _ => by
    simp only [renderItem]
    exact .answer _
  | .command command, drawless => by
    simp only [ContentItem.pieces, List.any_cons, Bool.or_eq_false_iff] at drawless
    simp only [renderItem]
    refine .attempt (execSource_steady drawless.1) ?_ fun _ => .answer _
    exact fun reason => emit_warn same command.source reason
  | .choice c, drawless => by
    rw [pieces_choice] at drawless
    simp only [renderItem]
    exact renderChoice_agree same drawless

theorem renderBranches_agree (same : ctx.Same ctx') : (branches : List Branch) →
    (piecesOfBranches branches).any Piece.draws = false →
    Agree (renderBranches ctx branches : Pass Obj) (renderBranches ctx' branches)
  | [], _ => by
    simp only [renderBranches]
    exact .answer _
  | { condition?, content } :: branches, drawless => by
    simp only [piecesOfBranches, List.any_append, Bool.or_eq_false_iff] at drawless
    obtain ⟨⟨inCondition, inContent⟩, inOthers⟩ := drawless
    have ofContent := renderItems_agree same content inContent
    simp only [renderBranches]
    cases condition? with
    | none => exact ofContent
    | some code =>
      refine withCondition_agree same ?_ ofContent (renderBranches_agree same branches inOthers)
      simpa [optionalPiece, Piece.draws] using inCondition

theorem renderItems_agree (same : ctx.Same ctx') : (items : List ContentItem) →
    (piecesOfItems items).any Piece.draws = false →
    Agree (renderItems ctx items : Pass Obj) (renderItems ctx' items)
  | [], _ => by
    simp only [renderItems]
    exact .answer _
  | item :: items, drawless => by
    simp only [piecesOfItems, List.any_append, Bool.or_eq_false_iff] at drawless
    simp only [renderItems]
    exact .andThen (renderItem_agree same item drawless.1) (renderItems_agree same items drawless.2)

end

end Items

section Passages

variable [HostObject Obj] {p : Passage} (drawless : p.pieces.any Piece.draws = false)
include drawless

/-- What a passage shows depends neither on the generator nor on the order of the choices taken. -/
theorem Passage.shown_agree {consumed consumed' : List String}
    (same : ∀ key, key ∈ consumed ↔ key ∈ consumed') (vars args : Vars Obj)
    (generator generator' : Generator) (bindings : Bindings Obj) :
    (p.shown consumed vars args generator bindings).1 =
      (p.shown consumed' vars args generator' bindings).1 := by
  simp only [Passage.pieces, List.any_append, Bool.or_eq_false_iff] at drawless
  obtain ⟨⟨⟨-, inContent⟩, inChoices⟩, -⟩ := drawless
  have contexts : RenderContext.Same ⟨p.id, consumed⟩ ⟨p.id, consumed'⟩ := ⟨rfl, same⟩
  have items : Agree (renderItems ⟨p.id, consumed⟩ p.content : Pass Obj)
      (renderItems ⟨p.id, consumed'⟩ p.content) :=
    renderItems_agree contexts p.content inContent
  have rendered := items.andThen (renderChoices_agree contexts inChoices)
    (Scope.start .shared vars args generator bindings) generator'
  simp only [Passage.shown, Passage.render]
  rw [show Scope.start .shared vars args generator' bindings =
    (Scope.start .shared vars args generator bindings).reseed generator' from rfl, rendered]
  split <;> rfl

end Passages

section Entering

variable [HostObject Obj]

omit [HostObject Obj] in
lemma fragment_steady {α : Type} {passage code : String} {computation : EvalM Obj α}
    (steady : Steady computation) : Steady (EntryM.fragment passage code computation) := by
  intro s generator
  have same := steady s generator
  simp only [EntryM.fragment]
  rw [same]
  rfl

lemma bindParams_steady (passage : String) {params : List Param}
    (drawless : (params.flatMap (optionalPiece ·.default?)).any Piece.draws = false)
    (positional : List (Value Obj)) (named : List (String × Value Obj)) :
    Steady (bindParams passage params positional named) := by
  induction params generalizing positional named with
  | nil => exact .pure ()
  | cons p params ih =>
    simp only [List.flatMap_cons, List.any_append, Bool.or_eq_false_iff] at drawless
    have set (value : Value Obj) : Steady (EntryM.setParam p.name value) := by
      intro s generator
      simp only [EntryM.setParam, Scope.setLocal_reseed]
    cases positional with
    | cons value positional =>
      simp only [bindParams]
      exact .bind (set value) fun _ => ih drawless.2 positional named
    | nil =>
      simp only [bindParams]
      split
      · exact .bind (set _) fun _ => ih drawless.2 [] _
      · next code given default =>
        have inDefault : drawsExpression code = false := by
          simpa [default, optionalPiece, Piece.draws] using drawless.1
        refine .bind (fragment_steady (evalSource_steady inDefault)) fun value => ?_
        exact .bind (set value) fun _ => ih drawless.2 [] named
      · exact .answer _

lemma runCommands_steady (passage : String) {commands : List Command}
    (drawless : (commands.map Piece.statement).any Piece.draws = false) :
    Steady (runCommands passage commands : EntryM Obj Unit) := by
  induction commands with
  | nil => exact .pure ()
  | cons command commands ih =>
    simp only [List.map_cons, List.any_cons, Bool.or_eq_false_iff] at drawless
    exact .bind (fragment_steady (execSource_steady drawless.1)) fun _ => ih drawless.2

/-- Entering a passage leaves the generator alone and does not look at it. -/
theorem Passage.enter_steady {p : Passage} (drawless : p.pieces.any Piece.draws = false)
    (call : CallArgs Obj) : Steady (p.enter call) := by
  simp only [Passage.pieces, List.any_append, Bool.or_eq_false_iff] at drawless
  obtain ⟨⟨⟨inParams, -⟩, -⟩, inCommands⟩ := drawless
  unfold Passage.enter
  cases p.checkCall call with
  | error fault => exact .bind (.answer _) fun _ => runCommands_steady p.id inCommands
  | ok _ =>
    refine .bind (bindParams_steady p.id inParams _ _) fun _ => ?_
    exact runCommands_steady p.id inCommands

end Entering

end BranchingStory
