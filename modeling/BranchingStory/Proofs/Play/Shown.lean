import Mathlib.Data.List.Basic
import BranchingStory.Proofs.Play.Chain
import BranchingStory.Proofs.Story.Pieces

/-!
# What a passage shows

The choices that rendering offers and the jump that it ends in come from links of the content, each with a
call that the arguments of its link evaluate to. So a property that all such calls have, at whatever depth
of the content their links are, is one of everything that a passage leads to.
-/

namespace BranchingStory

open Script

variable {Obj : Type}

/-- Whether all choices and the jump of what was rendered have a property. -/
structure Rendered.Shows (P : String → CallArgs Obj → Prop) (r : Rendered Obj) : Prop where
  choices : ∀ c ∈ r.choices, P c.target c.args
  jump : ∀ j, r.jump? = some j → P j.target j.args

/-- Whether a step of rendering brings forth nothing but choices and jumps with a property. -/
def Pass.Shows (P : String → CallArgs Obj → Prop) (pass : Pass Obj) : Prop :=
  ∀ s, (pass s).1.Shows P

namespace Pass.Shows

variable {P : String → CallArgs Obj → Prop}

lemma emit {r : Rendered Obj} (choices : r.choices = []) (jump : r.jump? = none) :
    Shows P (Pass.emit r) := by
  intro s
  constructor
  · intro c member
    change c ∈ r.choices at member
    rw [choices] at member
    cases member
  · intro j same
    change r.jump? = some j at same
    rw [jump] at same
    cases same

lemma skip : Shows P (Pass.skip : Pass Obj) :=
  emit rfl rfl

lemma andThen {first second : Pass Obj} (ofFirst : Shows P first) (ofSecond : Shows P second) :
    Shows P (first.andThen second) := by
  intro s
  unfold Pass.andThen
  simp only
  split
  · exact ofFirst s
  · constructor
    · intro c member
      rcases List.mem_append.mp member with inFirst | inSecond
      · exact (ofFirst s).choices c inFirst
      · exact (ofSecond _).choices c inSecond
    · intro j same
      exact (ofSecond _).jump j same

lemma inFrame {body : Pass Obj} (ofBody : Shows P body) : Shows P (Pass.inFrame body) :=
  fun s => ofBody s.pushFrame

lemma attempt {α : Type} {computation : EvalM Obj α} {failed : EvalError → Pass Obj}
    {done : α → Pass Obj} (ofFailed : ∀ reason, Shows P (failed reason))
    (ofDone : ∀ a, Shows P (done a)) : Shows P (Pass.attempt computation failed done) := by
  intro s
  unfold Pass.attempt
  split
  · exact ofDone _ _
  · exact ofFailed _ _

end Pass.Shows

variable [HostObject Obj]

/-- Whether a property holds of all calls that the links among pieces may make. -/
def LinksGive (P : String → CallArgs Obj → Prop) (pieces : List Piece) : Prop :=
  ∀ target args, Piece.link target args ∈ pieces → ∀ (s s' : Scope Obj) (call : CallArgs Obj),
    evalArgs CallArgs.none args s = (.ok call, s') → P target call

namespace LinksGive

variable {P : String → CallArgs Obj → Prop} {pieces more : List Piece}

lemma of_subset (give : LinksGive P pieces) (sub : more ⊆ pieces) : LinksGive P more :=
  fun target args member => give target args (sub member)

lemma left (give : LinksGive P (pieces ++ more)) : LinksGive P pieces :=
  give.of_subset (List.subset_append_left _ _)

lemma right (give : LinksGive P (pieces ++ more)) : LinksGive P more :=
  give.of_subset (List.subset_append_right _ _)

lemma tail {piece : Piece} (give : LinksGive P (piece :: pieces)) : LinksGive P pieces :=
  give.of_subset (List.subset_cons_self _ _)

end LinksGive

section Rendering

variable {P : String → CallArgs Obj → Prop} {ctx : RenderContext}

lemma withCondition_shows {code : String} {yes no : Pass Obj} (ofYes : yes.Shows P)
    (ofNo : no.Shows P) : (withCondition ctx code yes no).Shows P := by
  unfold withCondition
  refine .attempt (fun reason => .andThen (.emit rfl rfl) ofNo) fun value => ?_
  split
  · exact ofYes
  · exact ofNo

lemma withArgs_shows {args : List Arg} {done : CallArgs Obj → Pass Obj}
    (ofDone : ∀ call s s', evalArgs CallArgs.none args s = (.ok call, s') →
      (done call s').1.Shows P) :
    (withArgs ctx args done).Shows P := by
  intro s
  unfold withArgs
  split
  · next call s' evaluated => exact ofDone call s s' evaluated
  · exact Pass.Shows.emit (r := ctx.warn _ _) rfl rfl s

lemma renderChoice_shows {c : Choice} (give : LinksGive P c.pieces) :
    (renderChoice ctx c : Pass Obj).Shows P := by
  have offered : (offerChoice ctx c : Pass Obj).Shows P := by
    refine withArgs_shows fun call s s' evaluated => ⟨?_, nofun⟩
    intro offer member
    rw [List.mem_singleton.mp member]
    refine give c.target c.args ?_ s s' call evaluated
    unfold Choice.pieces linkPieces
    simp only [List.mem_append, List.mem_cons, true_or, or_true]
  unfold renderChoice
  split
  · exact .skip
  · split
    · exact offered
    · exact withCondition_shows offered .skip

lemma renderChoices_shows {choices : List Choice}
    (give : LinksGive P (choices.flatMap Choice.pieces)) :
    (renderChoices ctx choices : Pass Obj).Shows P := by
  induction choices with
  | nil => exact .skip
  | cons c choices ih =>
    rw [List.flatMap_cons] at give
    exact .andThen (renderChoice_shows give.left) (ih give.right)

lemma renderEach_shows {vars : List String} {collection : String} {body : Pass Obj}
    (ofBody : body.Shows P) (items : List (Value Obj)) :
    (renderEach ctx vars collection body items).Shows P := by
  induction items with
  | nil => exact .skip
  | cons item items ih =>
    exact .andThen (.inFrame (.attempt (fun reason => .emit rfl rfl) fun _ => ofBody)) ih

mutual

theorem renderItem_shows : (item : ContentItem) → LinksGive P item.pieces →
    (renderItem ctx item : Pass Obj).Shows P
  | .text text, _ => by
    simp only [renderItem]
    exact .emit rfl rfl
  | .expression code format?, _ => by
    simp only [renderItem]
    exact .attempt (fun reason => .emit rfl rfl) fun text => .emit rfl rfl
  | .conditional branches, give => by
    simp only [renderItem, ContentItem.pieces] at give ⊢
    exact renderBranches_shows branches give
  | .loop vars collection body, give => by
    simp only [renderItem, ContentItem.pieces] at give ⊢
    exact .attempt (fun reason => .emit rfl rfl) fun items =>
      renderEach_shows (renderItems_shows body give.tail) items
  | .jump target args line, give => by
    simp only [renderItem, ContentItem.pieces] at give ⊢
    refine withArgs_shows fun call s s' evaluated => ⟨nofun, ?_⟩
    intro j same
    cases same
    exact give target args List.mem_cons_self s s' call evaluated
  | .render name args hint?, _ => by
    simp only [renderItem]
    exact withArgs_shows fun call s s' _ => Pass.Shows.emit rfl rfl s'
  | .input name label? placeholder?, _ => by
    simp only [renderItem]
    exact .emit rfl rfl
  | .command command, _ => by
    simp only [renderItem]
    exact .attempt (fun reason => .emit rfl rfl) fun _ => .skip
  | .choice c, give => by
    rw [pieces_choice] at give
    simp only [renderItem]
    exact renderChoice_shows give

theorem renderBranches_shows : (branches : List Branch) → LinksGive P (piecesOfBranches branches) →
    (renderBranches ctx branches : Pass Obj).Shows P
  | [], _ => by
    simp only [renderBranches]
    exact .skip
  | { condition?, content } :: branches, give => by
    simp only [renderBranches, piecesOfBranches] at give ⊢
    have ofContent := renderItems_shows content give.left.right
    split
    · exact ofContent
    · exact withCondition_shows ofContent (renderBranches_shows branches give.right)

theorem renderItems_shows : (items : List ContentItem) → LinksGive P (piecesOfItems items) →
    (renderItems ctx items : Pass Obj).Shows P
  | [], _ => by
    simp only [renderItems]
    exact .skip
  | item :: items, give => by
    simp only [renderItems, piecesOfItems] at give ⊢
    exact .andThen (renderItem_shows item give.left) (renderItems_shows items give.right)

end

/-- What a passage shows has the properties of the calls that its links make. -/
theorem Passage.shown_shows (p : Passage) (give : LinksGive P p.pieces) (consumed : List String)
    (vars args : Vars Obj) (generator : Generator) (bindings : Bindings Obj) :
    (p.shown consumed vars args generator bindings).1.Shows P := by
  unfold Passage.pieces at give
  have shows : Pass.Shows P ((renderItems ⟨p.id, consumed⟩ p.content).andThen
      (renderChoices ⟨p.id, consumed⟩ p.choices) : Pass Obj) :=
    .andThen (renderItems_shows p.content give.left.left.right) (renderChoices_shows give.left.right)
  have all := shows (Scope.start .shared vars args generator bindings)
  unfold Passage.shown Passage.render
  simp only
  split
  · exact ⟨nofun, all.jump⟩
  · refine ⟨?_, all.jump⟩
    intro c member
    exact all.choices c (List.mem_mergeSort.mp member)

end Rendering

end BranchingStory
