import Mathlib.Tactic.Lemma
import BranchingStory.Source.Tidy

/-!
# Tidied content

In merged content texts are full and stand apart, so that there is nothing left to merge and no line
break next to another. Content that was tidied stays as it is when it is tidied again.
-/

namespace BranchingStory

def ContentItem.isText : ContentItem → Bool
  | .text _ => true
  | _ => false

namespace Source

/-! ## Texts made one -/

@[simp]
lemma mergeTexts_empty (items : List ContentItem) : mergeTexts (.text "" :: items) = mergeTexts items := by
  rw [mergeTexts]
  rfl

/-- A text in front of merged content, which is one with a text there. -/
def putText (text : String) : List ContentItem → List ContentItem
  | .text more :: rest => .text (text ++ more) :: rest
  | items => .text text :: items

lemma mergeTexts_full {text : String} (full : text ≠ "") (items : List ContentItem) :
    mergeTexts (.text text :: items) = putText text (mergeTexts items) := by
  rw [mergeTexts, if_neg fun none => full (String.isEmpty_iff.mp none)]
  cases mergeTexts items with
  | nil => rfl
  | cons item rest => cases item <;> rfl

lemma putText_putText (first second : String) (items : List ContentItem) :
    putText first (putText second items) = putText (first ++ second) items := by
  cases items with
  | nil => rfl
  | cons item rest =>
    cases item with
    | text more => simp only [putText, String.append_assoc]
    | _ => rfl

/-- Neighbouring texts are one. -/
lemma mergeTexts_text_text (first second : String) (items : List ContentItem) :
    mergeTexts (.text first :: .text second :: items) = mergeTexts (.text (first ++ second) :: items) := by
  by_cases noFirst : first = ""
  · rw [noFirst, mergeTexts_empty, String.empty_append]
  · by_cases noSecond : second = ""
    · rw [noSecond, String.append_empty, mergeTexts_full noFirst, mergeTexts_full noFirst, mergeTexts_empty]
    · have full : first ++ second ≠ "" := fun none => noFirst (String.append_eq_empty_iff.mp none).1
      rw [mergeTexts_full noFirst, mergeTexts_full noSecond, mergeTexts_full full, putText_putText]

lemma mergeTexts_other {item : ContentItem} (other : item.isText = false) (items : List ContentItem) :
    mergeTexts (item :: items) = item :: mergeTexts items := by
  cases item with
  | text text => cases other
  | _ => simp only [mergeTexts]

lemma putText_other {item : ContentItem} (other : item.isText = false) (text : String)
    (items : List ContentItem) : putText text (item :: items) = .text text :: item :: items := by
  cases item with
  | text more => cases other
  | _ => rfl

/-- Content in which no text is empty and no text stands next to another. -/
inductive Joined : List ContentItem → Prop where
  | nil : Joined []
  | other {item : ContentItem} {items : List ContentItem} (other : item.isText = false) :
      Joined items → Joined (item :: items)
  | text {text : String} {items : List ContentItem} (full : text ≠ "")
      (apart : ∀ item ∈ items.head?, item.isText = false) : Joined items → Joined (.text text :: items)

namespace Joined

lemma putText {text : String} (full : text ≠ "") {items : List ContentItem} (joined : Joined items) :
    Joined (putText text items) := by
  cases joined with
  | nil => exact .text full (by nofun) .nil
  | other other rest =>
    rw [putText_other other]
    exact .text full (by simpa using other) (.other other rest)
  | text _ apart rest =>
    exact .text (fun none => full (String.append_eq_empty_iff.mp none).1) apart rest

lemma ofMerge (items : List ContentItem) : Joined (mergeTexts items) := by
  induction items with
  | nil => exact .nil
  | cons item items ih =>
    cases text : item.isText with
    | false =>
      rw [mergeTexts_other text]
      exact .other text ih
    | true =>
      cases item with
      | text s =>
        by_cases full : s = ""
        · rwa [full, mergeTexts_empty]
        · rw [mergeTexts_full full]
          exact ih.putText full
      | _ => cases text

/-- There is nothing left to merge. -/
lemma merged {items : List ContentItem} (joined : Joined items) : mergeTexts items = items := by
  induction joined with
  | nil => rfl
  | other other _ ih => rw [mergeTexts_other other, ih]
  | @text text items full apart _ ih =>
    rw [mergeTexts_full full, ih]
    cases items with
    | nil => rfl
    | cons item items => exact putText_other (apart item rfl) text items

end Joined

lemma mergeTexts_mergeTexts (items : List ContentItem) : mergeTexts (mergeTexts items) = mergeTexts items :=
  (Joined.ofMerge items).merged

/-! ## Line breaks that stay -/

lemma isBreak_other {item : ContentItem} (other : item.isText = false) : isBreak (some item) = false := by
  cases item with
  | text text => cases other
  | _ => rfl

lemma eq_of_isBreak {item : ContentItem} (lineBreak : isBreak (some item)) : item = .text "\n" := by
  unfold isBreak at lineBreak
  split at lineBreak
  · next same => exact Option.some.inj same
  · cases lineBreak

/-- Line breaks alone go. -/
lemma eq_of_gone {before? after? : Option ContentItem} {item : ContentItem}
    (gone : ¬stays before? item after?) : item = .text "\n" := by
  refine eq_of_isBreak ?_
  simp only [stays, Bool.or_eq_true, Bool.not_eq_true', not_or] at gone
  exact Bool.of_not_eq_false gone.1

lemma stays_other {item : ContentItem} (other : item.isText = false) (before? after? : Option ContentItem) :
    stays before? item after? := by
  rw [stays, isBreak_other other]
  rfl

/-- A line break stays if it stands next to no other. -/
lemma stays_alone {before? after? : Option ContentItem} (before : isBreak before? = false)
    (after : isBreak after? = false) (item : ContentItem) : stays before? item after? := by
  rw [stays, before, after, Bool.and_false, Bool.and_false]
  exact Bool.or_true _

/-- No line break goes where none stands next to another. -/
lemma Joined.kept {items : List ContentItem} (joined : Joined items) {before? : Option ContentItem}
    (before : isBreak before? = false ∨ ∀ item ∈ items.head?, item.isText = false) :
    dropBreaks before? items = items := by
  induction joined generalizing before? with
  | nil => rfl
  | other other _ ih =>
    rw [dropBreaks, if_pos (stays_other other ..), ih (.inl (isBreak_other other))]
  | @text text items _ apart _ ih =>
    have first : isBreak before? = false := before.resolve_right fun apart => nomatch apart _ rfl
    have second : isBreak items.head? = false := by
      cases items with
      | nil => rfl
      | cons item items => exact isBreak_other (apart item rfl)
    rw [dropBreaks, if_pos (stays_alone first second _), ih (.inr apart)]

lemma dropBreaks_mergeTexts (items : List ContentItem) :
    dropBreaks none (mergeTexts items) = mergeTexts items :=
  (Joined.ofMerge items).kept (.inl rfl)

/-! ## What texts do not have -/

section Parts

variable {β : Type} {parts : ContentItem → List β} (ofText : ∀ text, parts (.text text) = [])

include ofText

lemma flatMap_text (text : String) (items : List ContentItem) :
    (ContentItem.text text :: items).flatMap parts = items.flatMap parts := by
  rw [List.flatMap_cons, ofText, List.nil_append]

lemma flatMap_dropBreaks (before? : Option ContentItem) (items : List ContentItem) :
    (dropBreaks before? items).flatMap parts = items.flatMap parts := by
  induction items generalizing before? with
  | nil => rfl
  | cons item items ih =>
    rw [dropBreaks]
    split
    · rw [List.flatMap_cons, List.flatMap_cons, ih]
    · next gone => rw [eq_of_gone gone, flatMap_text ofText, ih]

lemma flatMap_putText (text : String) (items : List ContentItem) :
    (putText text items).flatMap parts = items.flatMap parts := by
  unfold putText
  split <;> simp only [flatMap_text ofText]

lemma flatMap_mergeTexts (items : List ContentItem) : (mergeTexts items).flatMap parts = items.flatMap parts := by
  induction items with
  | nil => rfl
  | cons item items ih =>
    cases other : item.isText with
    | false => rw [mergeTexts_other other, List.flatMap_cons, List.flatMap_cons, ih]
    | true =>
      cases item with
      | text text =>
        rw [flatMap_text ofText]
        by_cases full : text = ""
        · rw [full, mergeTexts_empty, ih]
        · rw [mergeTexts_full full, flatMap_putText ofText, ih]
      | _ => cases other

lemma flatMap_trimEndBreaks (items : List ContentItem) :
    (trimEndBreaks items).flatMap parts = items.flatMap parts := by
  -- Only a text at the end changes or goes.
  have behind (text : String) (before : List ContentItem) :
      (ContentItem.text text :: before).reverse.flatMap parts = before.reverse.flatMap parts := by
    rw [List.reverse_cons, List.flatMap_append, List.flatMap_singleton, ofText, List.append_nil]
  have back (items : List ContentItem) :
      (trimBreaksBack items).reverse.flatMap parts = items.reverse.flatMap parts := by
    unfold trimBreaksBack
    split
    · next text before =>
      split
      · simp only
        split
        · exact (behind text _).symm
        · rw [behind, behind]
      · simp only
        split
        · exact (behind text _).symm
        · rw [behind, behind]
      · rw [behind, behind]
    · rfl
  unfold trimEndBreaks
  rw [back, List.reverse_reverse]

end Parts

/-! ## Inside items -/

lemma tidyItems_eq (items : List ContentItem) : tidyItems items = items.map tidyInside := by
  induction items with
  | nil => rfl
  | cons item items ih => rw [tidyItems, ih, List.map_cons]

lemma tidyBranches_eq (branches : List Branch) :
    tidyBranches branches = branches.map fun b => { b with content := tidy b.content } := by
  induction branches with
  | nil => rfl
  | cons branch branches ih =>
    obtain ⟨condition?, content⟩ := branch
    rw [tidyBranches, ih]
    rfl

/-- Tidying the inside of an item changes no text. -/
@[simp]
lemma tidyInside_text (text : String) : tidyInside (.text text) = .text text := by
  rw [tidyInside.eq_def]

@[simp]
lemma isText_tidyInside (item : ContentItem) : (tidyInside item).isText = item.isText := by
  cases item <;> simp only [tidyInside, ContentItem.isText]

@[simp]
lemma isBreak_tidyInside (item? : Option ContentItem) :
    isBreak (item?.map tidyInside) = isBreak item? := by
  cases item? with
  | none => rfl
  | some item => cases item <;> simp only [Option.map_some, tidyInside, isBreak]

@[simp]
lemma isConditional_tidyInside (item? : Option ContentItem) :
    isConditional (item?.map tidyInside) = isConditional item? := by
  cases item? with
  | none => rfl
  | some item => cases item <;> simp only [Option.map_some, tidyInside, isConditional]

/-- Which line breaks go does not depend on the inside of items. -/
lemma dropBreaks_tidyItems (before? : Option ContentItem) (items : List ContentItem) :
    dropBreaks (before?.map tidyInside) (tidyItems items) = tidyItems (dropBreaks before? items) := by
  induction items generalizing before? with
  | nil => simp only [tidyItems, dropBreaks]
  | cons item items ih =>
    have same : stays (before?.map tidyInside) (tidyInside item) (tidyItems items).head? =
        stays before? item items.head? := by
      rw [tidyItems_eq, List.head?_map]
      simp only [stays, isBreak_tidyInside, isConditional_tidyInside, ← Option.map_some]
    have next := ih (some item)
    rw [Option.map_some] at next
    rw [tidyItems, dropBreaks, same, next, dropBreaks]
    split
    · rw [tidyItems]
    · rfl

lemma tidyItems_putText (text : String) (items : List ContentItem) :
    tidyItems (putText text items) = putText text (tidyItems items) := by
  rw [tidyItems_eq, tidyItems_eq]
  cases items with
  | nil => simp [putText]
  | cons item items =>
    cases other : item.isText with
    | false =>
      rw [putText_other other, List.map_cons, List.map_cons, putText_other ((isText_tidyInside item).trans other),
        tidyInside_text]
    | true =>
      cases item with
      | text more => simp [putText]
      | _ => cases other

lemma mergeTexts_tidyItems (items : List ContentItem) :
    mergeTexts (tidyItems items) = tidyItems (mergeTexts items) := by
  induction items with
  | nil => simp only [tidyItems, mergeTexts]
  | cons item items ih =>
    rw [tidyItems]
    cases other : item.isText with
    | false =>
      rw [mergeTexts_other ((isText_tidyInside item).trans other), mergeTexts_other other, ih, tidyItems]
    | true =>
      cases item with
      | text text =>
        rw [tidyInside_text]
        by_cases full : text = ""
        · rw [full, mergeTexts_empty, mergeTexts_empty, ih]
        · rw [mergeTexts_full full, mergeTexts_full full, ih, tidyItems_putText]
      | _ => cases other

/-! ## Tidying twice -/

/-- Tidied content is settled as soon as the insides of its items are. -/
lemma tidy_tidy_of_tidyItems {items : List ContentItem}
    (inside : tidyItems (tidyItems items) = tidyItems items) : tidy (tidy items) = tidy items := by
  have again : tidyItems (tidy items) = tidy items := by
    have dropped := dropBreaks_tidyItems none (tidyItems items)
    rw [inside] at dropped
    rw [tidy, ← mergeTexts_tidyItems, ← dropped]
    rfl
  calc tidy (tidy items)
    _ = mergeTexts (dropBreaks none (tidyItems (tidy items))) := rfl
    _ = mergeTexts (dropBreaks none (tidy items)) := by rw [again]
    _ = tidy items := by rw [tidy, dropBreaks_mergeTexts, mergeTexts_mergeTexts]

mutual

lemma tidyInside_tidyInside : (item : ContentItem) → tidyInside (tidyInside item) = tidyInside item
  | .conditional branches => by
    simp only [tidyInside]
    rw [tidyBranches_tidyBranches branches]
  | .loop vars collection body => by
    have settled : tidy (tidy body) = tidy body := tidy_tidy_of_tidyItems (tidyItems_tidyItems body)
    simp only [tidyInside]
    rw [← tidy, ← tidy, settled]
  | .text _ | .expression .. | .jump .. | .render .. | .input .. | .command _ | .choice _ => by
    simp only [tidyInside]

lemma tidyBranches_tidyBranches :
    (branches : List Branch) → tidyBranches (tidyBranches branches) = tidyBranches branches
  | [] => by simp only [tidyBranches]
  | { condition?, content } :: branches => by
    have settled : tidy (tidy content) = tidy content :=
      tidy_tidy_of_tidyItems (tidyItems_tidyItems content)
    simp only [tidyBranches]
    rw [← tidy, ← tidy, settled, tidyBranches_tidyBranches branches]

lemma tidyItems_tidyItems :
    (items : List ContentItem) → tidyItems (tidyItems items) = tidyItems items
  | [] => by simp only [tidyItems]
  | item :: items => by
    simp only [tidyItems]
    rw [tidyInside_tidyInside item, tidyItems_tidyItems items]

end

/-- Content that was tidied stays as it is. -/
theorem tidy_tidy (items : List ContentItem) : tidy (tidy items) = tidy items :=
  tidy_tidy_of_tidyItems (tidyItems_tidyItems items)

end Source

end BranchingStory
