import BranchingStory.Proofs.Source.Tidied

/-!
# Line breaks between items

How many line breaks of a run stay when content is tidied. Of a single one nothing goes; of more, a
conditional on either side takes one. So nothing is left of exactly two between two conditionals, and
everywhere else at least one line break stays.
-/

namespace BranchingStory

/-- The contents right inside an item. -/
def ContentItem.bodies : ContentItem → List (List ContentItem)
  | .conditional branches => branches.map Branch.content
  | .loop _ _ body => [body]
  | _ => []

namespace Source

variable {before? after? : Option ContentItem} {first second : ContentItem}

/-! ## What stays in a part of content -/

/-- The items of a part of content that stay, with the neighbours of the part. -/
def staying (before? after? : Option ContentItem) : List ContentItem → List ContentItem
  | [] => []
  | item :: items =>
    if stays before? item (items.head?.or after?) then item :: staying (some item) after? items
    else staying (some item) after? items

lemma dropBreaks_eq (before? : Option ContentItem) (items : List ContentItem) :
    dropBreaks before? items = staying before? none items := by
  induction items generalizing before? with
  | nil => rfl
  | cons item items ih => rw [dropBreaks, staying, Option.or_none, ih]

lemma stays_of_not_break {item : ContentItem} (other : isBreak (some item) = false) :
    stays before? item after? := by
  rw [stays, other]
  rfl

/-- Content may be cut at each item that is no line break. -/
lemma staying_cut {item : ContentItem} (other : isBreak (some item) = false)
    (before behind : List ContentItem) :
    staying before? after? (before ++ item :: behind) =
      staying before? (some item) before ++ item :: staying (some item) after? behind := by
  induction before generalizing before? with
  | nil =>
    rw [List.nil_append, staying.eq_def]
    exact if_pos (stays_of_not_break other)
  | cons head before ih =>
    have next : ((before ++ item :: behind).head?).or after? = before.head?.or (some item) := by
      cases before <;> rfl
    rw [List.cons_append, staying, next, ih, staying]
    split <;> rfl

/-! ## Runs of line breaks -/

/-- A run of line breaks. -/
def lineBreaks (n : Nat) : List ContentItem :=
  List.replicate n (.text "\n")

/-- How many of `n` line breaks stay between two items. -/
def remaining (first second : ContentItem) (n : Nat) : Nat :=
  if n ≤ 1 then n
  else n - (isConditional (some first)).toNat - (isConditional (some second)).toNat

/-- Nothing is left of two line breaks between conditionals, and something of every other run. -/
lemma remaining_eq_zero {n : Nat} :
    remaining first second n = 0 ↔
      n = 0 ∨ n = 2 ∧ isConditional (some first) ∧ isConditional (some second) := by
  unfold remaining
  have one := Bool.toNat_le (isConditional (some first))
  have other := Bool.toNat_le (isConditional (some second))
  rw [← Bool.toNat_eq_one, ← Bool.toNat_eq_one]
  split <;> omega

lemma lineBreaks_succ (n : Nat) : lineBreaks (n + 1) = .text "\n" :: lineBreaks n :=
  List.replicate_succ

/-- A line break behind another one goes if a conditional follows. -/
lemma stays_behind (after? : Option ContentItem) :
    stays (some (.text "\n")) (.text "\n") after? = !isConditional after? := by
  simp only [stays, isBreak, isConditional, Bool.and_true, Bool.false_and, Bool.or_false, Bool.not_true,
    Bool.false_or]

/-- A line break in front of another one goes if it stands behind a conditional. -/
lemma stays_in_front (before? : Option ContentItem) :
    stays before? (.text "\n") (some (.text "\n")) = !isConditional before? := by
  simp only [stays, isBreak, isConditional, Bool.and_true, Bool.false_and, Bool.false_or, Bool.not_true]

lemma staying_lineBreaks_behind (second : ContentItem) (n : Nat) :
    staying (some (.text "\n")) (some second) (lineBreaks (n + 1)) =
      lineBreaks (n + 1 - (isConditional (some second)).toNat) := by
  induction n with
  | zero =>
    change (if stays _ _ (some second) then [ContentItem.text "\n"] else []) = _
    rw [stays_behind]
    cases isConditional (some second) <;> rfl
  | succ n ih =>
    have stay : stays (some (.text "\n")) (.text "\n") ((lineBreaks (n + 1)).head?.or (some second)) :=
      stays_behind _
    have one := Bool.toNat_le (isConditional (some second))
    have more : n + 1 + 1 - (isConditional (some second)).toNat =
        n + 1 - (isConditional (some second)).toNat + 1 := by omega
    rw [lineBreaks_succ, staying, if_pos stay, ih, more, lineBreaks_succ]

lemma staying_lineBreaks (firstOther : isBreak (some first) = false)
    (secondOther : isBreak (some second) = false) (n : Nat) :
    staying (some first) (some second) (lineBreaks n) = lineBreaks (remaining first second n) := by
  match n with
  | 0 => rfl
  | 1 =>
    change (if stays _ _ (some second) then [ContentItem.text "\n"] else []) = _
    rw [if_pos (stays_alone firstOther secondOther _)]
    rfl
  | n + 2 =>
    have stay : stays (some first) (.text "\n") ((lineBreaks (n + 1)).head?.or (some second)) =
        !isConditional (some first) := stays_in_front _
    have one := Bool.toNat_le (isConditional (some second))
    have more : n + 2 - (isConditional (some second)).toNat =
        n + 1 - (isConditional (some second)).toNat + 1 := by omega
    rw [lineBreaks_succ, staying, stay, staying_lineBreaks_behind, remaining,
      if_neg (Nat.not_le.mpr (Nat.le_add_left 2 n))]
    cases isConditional (some first) with
    | false => rw [Bool.toNat_false, Nat.sub_zero, more, lineBreaks_succ]; rfl
    | true => rfl

/-! ## Content as a flow -/

/-- What content is to a reader: the characters of its texts, with the other items between them. -/
def flow (items : List ContentItem) : List (Char ⊕ ContentItem) :=
  items.flatMap fun
    | .text text => text.toList.map .inl
    | item => [.inr item]

@[simp]
lemma flow_append (first second : List ContentItem) : flow (first ++ second) = flow first ++ flow second :=
  List.flatMap_append

lemma flow_cons (item : ContentItem) (items : List ContentItem) :
    flow (item :: items) = flow [item] ++ flow items :=
  flow_append [item] items

lemma flow_lineBreaks (n : Nat) : flow (lineBreaks n) = List.replicate n (.inl '\n') := by
  induction n with
  | zero => rfl
  | succ n ih => rw [lineBreaks_succ, flow_cons, ih, List.replicate_succ]; rfl

lemma flow_putText (text : String) (items : List ContentItem) :
    flow (putText text items) = flow [.text text] ++ flow items := by
  cases items with
  | nil => exact (List.append_nil _).symm
  | cons item items =>
    cases other : item.isText with
    | false => rw [putText_other other, flow_cons]
    | true =>
      cases item with
      | text more =>
        rw [putText, flow_cons, flow_cons (.text more), ← List.append_assoc]
        simp only [flow, List.flatMap_cons, List.flatMap_nil, List.append_nil, String.toList_append,
          List.map_append]
      | _ => cases other

/-- Texts that are made one are read as before. -/
lemma flow_mergeTexts (items : List ContentItem) : flow (mergeTexts items) = flow items := by
  induction items with
  | nil => rfl
  | cons item items ih =>
    cases other : item.isText with
    | false => rw [mergeTexts_other other, flow_cons, ih, ← flow_cons]
    | true =>
      cases item with
      | text text =>
        by_cases full : text = ""
        · rw [full, mergeTexts_empty, ih]; rfl
        · rw [mergeTexts_full full, flow_putText, ih, ← flow_cons]
      | _ => cases other

/-! ## Content inside content -/

/-- The content that a path leads to: at each step to one of the bodies of blocks, in their order. -/
def contentAt : List Nat → List ContentItem → Option (List ContentItem)
  | [], items => some items
  | i :: path, items => (items.flatMap ContentItem.bodies)[i]?.bind (contentAt path)

lemma bodies_tidyInside (item : ContentItem) : (tidyInside item).bodies = item.bodies.map tidy := by
  cases item with
  | conditional branches =>
    rw [tidyInside]
    simp only [ContentItem.bodies, tidyBranches_eq, List.map_map]
    rfl
  | loop vars collection body =>
    rw [tidyInside]
    rfl
  | _ => simp only [tidyInside, ContentItem.bodies, List.map_nil]

lemma bodies_staying (items : List ContentItem) :
    (staying before? after? items).flatMap ContentItem.bodies = items.flatMap ContentItem.bodies := by
  induction items generalizing before? with
  | nil => rfl
  | cons item items ih =>
    rw [staying]
    split
    · rw [List.flatMap_cons, List.flatMap_cons, ih]
    · next gone =>
      rw [ih, List.flatMap_cons, eq_of_gone gone]
      rfl

lemma bodies_mergeTexts (items : List ContentItem) :
    (mergeTexts items).flatMap ContentItem.bodies = items.flatMap ContentItem.bodies := by
  fun_induction mergeTexts items with
  | case1 => rfl
  | case2 text items empty ih => exact ih
  | case3 text items _ more rest merged ih =>
    rw [merged] at ih
    exact ih
  | case4 text items _ _ ih => exact ih
  | case5 item items _ ih => rw [List.flatMap_cons, List.flatMap_cons, ih]

lemma bodies_tidy (items : List ContentItem) :
    (tidy items).flatMap ContentItem.bodies = (items.flatMap ContentItem.bodies).map tidy := by
  rw [tidy, bodies_mergeTexts, dropBreaks_eq, bodies_staying, tidyItems_eq, List.flatMap_map, List.map_flatMap]
  simp only [bodies_tidyInside]

/-- What is inside tidied content has been tidied as well. -/
lemma contentAt_tidy (path : List Nat) (items : List ContentItem) :
    contentAt path (tidy items) = (contentAt path items).map tidy := by
  induction path generalizing items with
  | nil => rfl
  | cons i path ih =>
    rw [contentAt, contentAt, bodies_tidy, List.getElem?_map]
    cases (items.flatMap ContentItem.bodies)[i]? with
    | none => rfl
    | some body => exact ih body

lemma tidyInside_lineBreaks (n : Nat) : (lineBreaks n).map tidyInside = lineBreaks n := by
  rw [lineBreaks, List.map_replicate, tidyInside_text]

/-- What stays of a run of line breaks between two other items, at any depth. Behind the items in front of
it and before those behind it there are as many line breaks as `remaining` says, which are none exactly if
there were none, or two between conditionals. -/
theorem lineBreaks_remain {items before behind : List ContentItem} {path : List Nat}
    {first second : ContentItem} {n : Nat}
    (there : contentAt path items = some (before ++ first :: (lineBreaks n ++ second :: behind)))
    (firstOther : isBreak (some first) = false) (secondOther : isBreak (some second) = false) :
    ∃ tidied, contentAt path (tidy items) = some tidied ∧
      flow tidied =
        flow (staying none (some first) before |>.map tidyInside) ++ flow [tidyInside first] ++
          List.replicate (remaining first second n) (.inl '\n') ++
          flow [tidyInside second] ++ flow (staying (some second) none behind |>.map tidyInside) ∧
      (remaining first second n = 0 ↔
        n = 0 ∨ n = 2 ∧ isConditional (some first) ∧ isConditional (some second)) := by
  refine ⟨_, by rw [contentAt_tidy, there]; rfl, ?_, remaining_eq_zero⟩
  have dropped := dropBreaks_tidyItems none (before ++ first :: (lineBreaks n ++ second :: behind))
  rw [Option.map_none] at dropped
  rw [tidy, flow_mergeTexts, dropped, dropBreaks_eq, staying_cut firstOther, staying_cut secondOther,
    staying_lineBreaks firstOther secondOther, tidyItems_eq, List.map_append, List.map_cons, List.map_append,
    List.map_cons, flow_append, flow_cons, flow_append, flow_cons (tidyInside second), tidyInside_lineBreaks,
    flow_lineBreaks]
  simp only [List.append_assoc]

/-- A block with a line of text. -/
def shelter (condition text : String) : ContentItem :=
  .conditional [⟨some condition, [.text text]⟩]

/-- Two blank lines behind a block, inside a loop. -/
def journey : List ContentItem :=
  [.loop ["day"] "days" [shelter "rain" "Wet.\n", .text "\n", .text "\n", .text "Noon.\n"]]

/-- One of the two line breaks stays. -/
theorem journey_keeps_paragraph :
    ∃ tidied, contentAt [0] (tidy journey) = some tidied ∧
      flow tidied =
        flow [shelter "rain" "Wet.\n"] ++ List.replicate 1 (.inl '\n') ++ flow [.text "Noon.\n"] := by
  have there : contentAt [0] journey =
      some ([] ++ shelter "rain" "Wet.\n" :: (lineBreaks 2 ++ .text "Noon.\n" :: [])) := rfl
  obtain ⟨tidied, found, flowing, -⟩ := lineBreaks_remain there rfl rfl
  exact ⟨tidied, found, flowing⟩

/-- Two blank lines between two blocks. -/
def gates : List ContentItem :=
  [shelter "north" "Ice.\n", .text "\n", .text "\n", shelter "south" "Sand.\n"]

/-- No line break is left between the blocks. -/
theorem gates_run_together :
    gates = shelter "north" "Ice.\n" :: (lineBreaks 2 ++ [shelter "south" "Sand.\n"]) ∧
      .inl '\n' ∉ flow (tidy gates) := by
  have left : flow (tidy gates) = [.inr (shelter "north" "Ice.\n"), .inr (shelter "south" "Sand.\n")] := rfl
  refine ⟨rfl, ?_⟩
  rw [left]
  simp

end Source

end BranchingStory
