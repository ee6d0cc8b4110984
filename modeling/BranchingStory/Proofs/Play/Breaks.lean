import BranchingStory.Play.Render
import BranchingStory.Proofs.Source.Tidied

/-!
# Rendering without line breaks

Tidying takes line breaks off content and changes nothing else that a player or a host gets to see. Passes
are compared by what they bring forth once line breaks are deleted. Deleting them goes through every way to
put passes together, so that a part of the content may be replaced by one that differs in line breaks.
-/

namespace BranchingStory

open Script Source

variable {Obj : Type}

/-- A text without its line breaks. -/
def withoutBreaks (text : String) : String :=
  String.ofList (text.toList.filter (· ≠ '\n'))

@[simp]
lemma withoutBreaks_append (first second : String) :
    withoutBreaks (first ++ second) = withoutBreaks first ++ withoutBreaks second := by
  simp only [withoutBreaks, String.toList_append, List.filter_append, String.ofList_append]

namespace Rendered

/-- What is brought forth, without the line breaks in its text. -/
def flat (r : Rendered Obj) : Rendered Obj :=
  { r with content := withoutBreaks r.content }

@[simp]
lemma flat_jump (r : Rendered Obj) : r.flat.jump? = r.jump? := rfl

@[simp]
lemma flat_append (first second : Rendered Obj) : (first ++ second).flat = first.flat ++ second.flat := by
  change (append first second).flat = append first.flat second.flat
  simp only [flat, append, withoutBreaks_append]

@[simp]
lemma empty_append (r : Rendered Obj) : empty ++ r = r := by
  change append empty r = r
  simp only [append, empty, String.empty_append, List.nil_append]

lemma append_assoc (first second third : Rendered Obj) :
    first ++ second ++ third = first ++ (second ++ third) := by
  change append (append _ _) _ = append _ (append _ _)
  simp only [append, String.append_assoc, List.append_assoc]

@[simp]
lemma append_jump (first second : Rendered Obj) : (first ++ second).jump? = second.jump? := rfl

/-- Two outcomes that differ in line breaks alone. -/
structure Alike (r r' : Rendered Obj) : Prop where
  content : withoutBreaks r.content = withoutBreaks r'.content
  choices : r.choices = r'.choices
  directives : r.directives = r'.directives
  inputs : r.inputs = r'.inputs
  warnings : r.warnings = r'.warnings
  jump? : r.jump? = r'.jump?

lemma Alike.ofFlat {r r' : Rendered Obj} (same : r.flat = r'.flat) : Alike r r' := by
  unfold flat at same
  injection same with content choices directives inputs warnings jump?
  exact ⟨content, choices, directives, inputs, warnings, jump?⟩

end Rendered

namespace Pass

/-- A pass without the line breaks in the text that it brings forth. -/
def flat (pass : Pass Obj) : Pass Obj := fun s =>
  ((pass s).1.flat, (pass s).2)

@[simp]
lemma flat_emit (rendered : Rendered Obj) : (emit rendered).flat = emit rendered.flat := rfl

lemma flat_andThen (first second : Pass Obj) :
    (first.andThen second).flat = first.flat.andThen second.flat := by
  funext s
  simp only [flat, andThen, Rendered.flat_jump]
  by_cases jumps : (first s).1.jump?.isSome
  · simp only [jumps, if_true]
  · simp only [jumps, Bool.false_eq_true, if_false, Rendered.flat_append]

lemma flat_inFrame (body : Pass Obj) : (inFrame body).flat = inFrame body.flat := rfl

lemma flat_attempt {α : Type} (computation : EvalM Obj α) (failed : EvalError → Pass Obj)
    (done : α → Pass Obj) :
    (attempt computation failed done).flat =
      attempt computation (fun reason => (failed reason).flat) (fun a => (done a).flat) := by
  funext s
  simp only [flat, attempt]
  split <;> rfl

lemma skip_andThen (pass : Pass Obj) : skip.andThen pass = pass := by
  funext s
  change (Rendered.empty ++ (pass s).1, (pass s).2) = pass s
  rw [Rendered.empty_append]

lemma andThen_assoc (first second third : Pass Obj) :
    (first.andThen second).andThen third = first.andThen (second.andThen third) := by
  funext s
  simp only [andThen]
  by_cases jumps : (first s).1.jump?.isSome
  · simp only [jumps, if_true]
  · simp only [jumps, Bool.false_eq_true, if_false, Rendered.append_jump]
    by_cases next : (second (first s).2).1.jump?.isSome
    · simp only [next, if_true]
    · simp only [next, Bool.false_eq_true, if_false, Rendered.append_assoc]

/-- Two texts are written one after the other. -/
lemma emit_text (first second : String) :
    (emit (Rendered.ofText first)).andThen (emit (Rendered.ofText second)) =
      (emit (Rendered.ofText (first ++ second)) : Pass Obj) := rfl

lemma emit_none : (emit (Rendered.ofText "") : Pass Obj) = skip := rfl

end Pass

section Fragments

variable [HostObject Obj] {ctx : RenderContext}

lemma flat_withCondition (code : String) (yes no : Pass Obj) :
    (withCondition ctx code yes no).flat = withCondition ctx code yes.flat no.flat := by
  unfold withCondition
  rw [Pass.flat_attempt]
  congr 1
  · funext value
    split <;> rfl

lemma flat_renderEach {body body' : Pass Obj} (same : body.flat = body'.flat) (vars : List String)
    (collection : String) (items : List (Value Obj)) :
    (renderEach ctx vars collection body items).flat = (renderEach ctx vars collection body' items).flat := by
  induction items with
  | nil => rfl
  | cons item items ih =>
    simp only [renderEach, Pass.flat_andThen, Pass.flat_inFrame, Pass.flat_attempt, same, ih]

lemma renderItems_append (first second : List ContentItem) :
    (renderItems ctx (first ++ second) : Pass Obj) =
      (renderItems ctx first).andThen (renderItems ctx second) := by
  induction first with
  | nil => rw [List.nil_append, renderItems, Pass.skip_andThen]
  | cons item items ih => rw [List.cons_append, renderItems, renderItems, ih, Pass.andThen_assoc]

/-! ## Texts made one -/

lemma renderItems_putText (text : String) (items : List ContentItem) :
    (renderItems ctx (putText text items) : Pass Obj) =
      (Pass.emit (Rendered.ofText text)).andThen (renderItems ctx items) := by
  cases items with
  | nil => simp only [putText, renderItems, renderItem]
  | cons item items =>
    cases other : item.isText with
    | false => rw [putText_other other, renderItems, renderItem]
    | true =>
      cases item with
      | text more =>
        rw [putText, renderItems, renderItem, renderItems, renderItem, ← Pass.andThen_assoc, Pass.emit_text]
      | _ => cases other

/-- Texts that are made one are written as before. -/
lemma renderItems_mergeTexts (items : List ContentItem) :
    (renderItems ctx (mergeTexts items) : Pass Obj) = renderItems ctx items := by
  induction items with
  | nil => rw [mergeTexts]
  | cons item items ih =>
    cases other : item.isText with
    | false => rw [mergeTexts_other other, renderItems, ih, renderItems]
    | true =>
      cases item with
      | text text =>
        rw [renderItems, renderItem]
        by_cases full : text = ""
        · rw [full, mergeTexts_empty, ih, Pass.emit_none, Pass.skip_andThen]
        · rw [mergeTexts_full full, renderItems_putText, ih]
      | _ => cases other

/-! ## Line breaks that go -/

lemma flat_text {text : String} (blank : text.toList.all (· == '\n')) :
    (renderItem ctx (.text text) : Pass Obj).flat = Pass.skip := by
  have none : withoutBreaks text = "" := by
    rw [List.all_eq_true] at blank
    rw [withoutBreaks, String.ofList_eq_empty_iff, List.filter_eq_nil_iff]
    intro c member
    simpa using blank c member
  rw [renderItem, Pass.flat_emit, Rendered.flat, Rendered.ofText]
  simp only [none]
  rfl

lemma flat_dropBreaks (before? : Option ContentItem) (items : List ContentItem) :
    (renderItems ctx (dropBreaks before? items) : Pass Obj).flat = (renderItems ctx items).flat := by
  induction items generalizing before? with
  | nil => rw [dropBreaks]
  | cons item items ih =>
    rw [dropBreaks]
    split
    · rw [renderItems, renderItems, Pass.flat_andThen, Pass.flat_andThen, ih]
    · next gone =>
      rw [eq_of_gone gone, renderItems, Pass.flat_andThen, flat_text rfl, Pass.skip_andThen, ih]

lemma filter_dropWhile_breaks (cs : List Char) :
    (cs.dropWhile (· == '\n')).filter (· ≠ '\n') = cs.filter (· ≠ '\n') := by
  induction cs with
  | nil => rfl
  | cons c cs ih =>
    rw [List.dropWhile_cons]
    split
    · next same =>
      rw [ih, beq_iff_eq.mp same]
      rfl
    · rfl

lemma withoutBreaks_trimBreaks (text : String) : withoutBreaks (trimBreaks text) = withoutBreaks text := by
  unfold trimBreaks
  split
  · next rest back =>
    have split : text.toList = ('\n' :: '\n' :: rest).reverse := by rw [← back, List.reverse_reverse]
    unfold withoutBreaks
    rw [String.toList_ofList, split, List.filter_reverse, List.filter_reverse]
    change String.ofList ((rest.dropWhile _).filter _).reverse = String.ofList (rest.filter _).reverse
    rw [filter_dropWhile_breaks]
  · rfl

lemma flat_trimBreaks (text : String) :
    (renderItem ctx (.text (trimBreaks text)) : Pass Obj).flat = (renderItem ctx (.text text)).flat := by
  rw [renderItem, renderItem, Pass.flat_emit, Pass.flat_emit]
  simp only [Rendered.flat, Rendered.ofText, withoutBreaks_trimBreaks]

/-- Content that ends in one text or another is the same if the texts are. -/
lemma flat_behind {last last' : List ContentItem}
    (same : (renderItems ctx last : Pass Obj).flat = (renderItems ctx last').flat)
    (items : List ContentItem) :
    (renderItems ctx (items ++ last) : Pass Obj).flat = (renderItems ctx (items ++ last')).flat := by
  rw [renderItems_append, renderItems_append, Pass.flat_andThen, Pass.flat_andThen, same]

lemma flat_trimBreaksBack (items : List ContentItem) :
    (renderItems ctx (trimBreaksBack items).reverse : Pass Obj).flat =
      (renderItems ctx items.reverse).flat := by
  have shorter (text : String) (before : List ContentItem) :
      (renderItems ctx (.text (trimBreaks text) :: before).reverse : Pass Obj).flat =
        (renderItems ctx (.text text :: before).reverse).flat := by
    rw [List.reverse_cons, List.reverse_cons]
    refine flat_behind ?_ _
    simp only [renderItems, Pass.flat_andThen, flat_trimBreaks]
  have none {text : String} (blank : text.toList.all (· == '\n')) (before : List ContentItem) :
      (renderItems ctx before.reverse : Pass Obj).flat =
        (renderItems ctx (.text text :: before).reverse).flat := by
    have last : (renderItems ctx [] : Pass Obj).flat = (renderItems ctx [.text text]).flat := by
      rw [renderItems, renderItems, Pass.flat_andThen, flat_text blank, renderItems, Pass.skip_andThen]
    have whole := flat_behind last before.reverse
    rwa [List.append_nil, ← List.reverse_cons] at whole
  unfold trimBreaksBack
  split
  · next text before =>
    simp only
    split
    · split
      · next blank => exact none blank _
      · exact shorter text _
    · split
      · next blank => exact none blank _
      · exact shorter text _
    · exact shorter text _
  · rfl

lemma flat_trimEndBreaks (items : List ContentItem) :
    (renderItems ctx (trimEndBreaks items) : Pass Obj).flat = (renderItems ctx items).flat := by
  rw [trimEndBreaks, flat_trimBreaksBack, List.reverse_reverse]

/-! ## Tidied content -/

lemma flat_tidy_of_tidyItems {items : List ContentItem}
    (inside : (renderItems ctx (tidyItems items) : Pass Obj).flat = (renderItems ctx items).flat) :
    (renderItems ctx (tidy items) : Pass Obj).flat = (renderItems ctx items).flat := by
  rw [tidy, renderItems_mergeTexts, flat_dropBreaks, inside]

mutual

lemma flat_tidyInside : (item : ContentItem) →
    (renderItem ctx (tidyInside item) : Pass Obj).flat = (renderItem ctx item).flat
  | .conditional branches => by
    rw [tidyInside, renderItem, renderItem]
    exact flat_tidyBranches branches
  | .loop vars collection body => by
    have inside : (renderItems ctx (tidy body) : Pass Obj).flat = (renderItems ctx body).flat :=
      flat_tidy_of_tidyItems (flat_tidyItems body)
    rw [tidyInside, renderItem, renderItem, Pass.flat_attempt, Pass.flat_attempt, ← tidy]
    congr 1
    funext items
    exact flat_renderEach inside vars collection items
  | .text _ | .expression .. | .jump .. | .render .. | .input .. | .command _ | .choice _ => by
    simp only [tidyInside]

lemma flat_tidyBranches : (branches : List Branch) →
    (renderBranches ctx (tidyBranches branches) : Pass Obj).flat = (renderBranches ctx branches).flat
  | [] => by rw [tidyBranches]
  | { condition?, content } :: branches => by
    have inside : (renderItems ctx (tidy content) : Pass Obj).flat = (renderItems ctx content).flat :=
      flat_tidy_of_tidyItems (flat_tidyItems content)
    rw [tidyBranches, ← tidy]
    cases condition? with
    | none => simpa only [renderBranches] using inside
    | some code =>
      simp only [renderBranches, flat_withCondition, inside]
      rw [flat_tidyBranches branches]

lemma flat_tidyItems : (items : List ContentItem) →
    (renderItems ctx (tidyItems items) : Pass Obj).flat = (renderItems ctx items).flat
  | [] => by rw [tidyItems]
  | item :: items => by
    rw [tidyItems, renderItems, renderItems, Pass.flat_andThen, Pass.flat_andThen, flat_tidyInside item,
      flat_tidyItems items]

end

lemma flat_tidy (items : List ContentItem) :
    (renderItems ctx (tidy items) : Pass Obj).flat = (renderItems ctx items).flat :=
  flat_tidy_of_tidyItems (flat_tidyItems items)

/-! ## Passages -/

/-- What a passage shows of an outcome: the choices in order, and none behind a jump. -/
def Rendered.closed (r : Rendered Obj) : Rendered Obj :=
  { r with choices := if r.jump?.isSome then [] else inKeyOrder r.choices }

lemma render_closed (p : Passage) (consumed : List String) :
    (p.render consumed : Pass Obj) = fun s =>
      let whole := (renderItems ⟨p.id, consumed⟩ p.content).andThen (renderChoices ⟨p.id, consumed⟩ p.choices) s
      (whole.1.closed, whole.2) := by
  funext s
  simp only [Passage.render, Rendered.closed]
  split <;> rfl

lemma flat_render (p : Passage) (consumed : List String) :
    (p.render consumed : Pass Obj).flat = fun s =>
      let whole := (renderItems ⟨p.id, consumed⟩ p.content).flat.andThen
        (renderChoices ⟨p.id, consumed⟩ p.choices).flat s
      (whole.1.closed, whole.2) := by
  rw [render_closed, ← Pass.flat_andThen]
  rfl

/-- Tidying the content of a passage preserves what the passage means. Whatever the scope and the choices
that were taken, the passage shows the same but for line breaks and leaves the same scope behind, with its
generator. Tidying a second time changes nothing. -/
theorem render_tidied (p : Passage) (consumed : List String) (s : Scope Obj) :
    let tidied : Passage := { p with content := trimEndBreaks (tidy p.content) }
    Rendered.Alike (tidied.render consumed s).1 (p.render consumed s).1 ∧
      (tidied.render consumed s).2 = (p.render consumed s).2 ∧
      tidy (tidy p.content) = tidy p.content := by
  intro tidied
  have same : (tidied.render consumed : Pass Obj).flat = (p.render consumed).flat := by
    rw [flat_render, flat_render, flat_trimEndBreaks, flat_tidy]
  obtain ⟨shown, scope⟩ := Prod.ext_iff.mp (congrFun same s)
  exact ⟨.ofFlat shown, scope, tidy_tidy p.content⟩

end Fragments

end BranchingStory
