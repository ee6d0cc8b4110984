import Mathlib.Data.List.TakeWhile
import BranchingStory.Proofs.Source.Tidied

/-!
# Trimmed content

Trimming leaves at most one line break at the end of a passage, and none behind a block. Texts that are full
and stand apart stay so.
-/

namespace BranchingStory

def ContentItem.isBlock : ContentItem → Bool
  | .conditional _ | .loop .. => true
  | _ => false

/-- Whether content ends in at most one line break, and in none behind a block. -/
structure EndsOnce (items : List ContentItem) : Prop where
  single : ∀ before text, items = before ++ [.text text] → ¬['\n', '\n'] <:+ text.toList
  block : ∀ before block text, items = before ++ [block, .text text] → block.isBlock →
    ¬text.toList.all (· == '\n')

namespace Source

variable {item : ContentItem} {items back : List ContentItem} {text : String}

/-- A text is left as it is, or of several line breaks at its end one remains. -/
lemma trimBreaks_cases (text : String) :
    (trimBreaks text = text ∧ ¬['\n', '\n'] <:+ text.toList) ∨
      ∃ front breaks : List Char, text.toList = front ++ breaks ∧ (∀ c ∈ breaks, c = '\n') ∧
        front.getLast? ≠ some '\n' ∧ (trimBreaks text).toList = front ++ ['\n'] := by
  unfold trimBreaks
  split
  · next rest several =>
    refine .inr ⟨(rest.dropWhile (· == '\n')).reverse,
      (rest.takeWhile (· == '\n')).reverse ++ ['\n', '\n'], ?split, ?breaks, ?front, ?trimmed⟩
    case split =>
      rw [← List.append_assoc, ← List.reverse_append, List.takeWhile_append_dropWhile,
        ← List.reverse_reverse text.toList, several, List.reverse_cons, List.reverse_cons, List.append_assoc]
      rfl
    case breaks =>
      refine List.forall_mem_append.mpr ⟨fun c member => ?_, by simp⟩
      have same := List.mem_takeWhile_imp (List.mem_reverse.mp member)
      exact beq_iff_eq.mp same
    case front =>
      rw [List.getLast?_reverse]
      intro first
      have other := List.head?_dropWhile_not (· == '\n') rest
      rw [first] at other
      exact absurd other (by decide)
    case trimmed =>
      rw [String.toList_ofList, List.reverse_cons]
  · next single =>
    refine .inl ⟨rfl, fun several => ?_⟩
    obtain ⟨rest, split⟩ := List.reverse_prefix.mpr several
    exact single rest split.symm

lemma trimBreaks_full (full : text ≠ "") : trimBreaks text ≠ "" := by
  rcases trimBreaks_cases text with ⟨same, _⟩ | ⟨front, _, _, _, _, trimmed⟩
  · rwa [same]
  · intro none
    rw [none] at trimmed
    exact List.append_ne_nil_of_right_ne_nil _ (List.cons_ne_nil _ _) trimmed.symm

/-- One line break at most is left at the end of a text. -/
lemma trimBreaks_single (text : String) : ¬['\n', '\n'] <:+ (trimBreaks text).toList := by
  rcases trimBreaks_cases text with ⟨same, single⟩ | ⟨front, _, _, _, other, trimmed⟩
  · rwa [same]
  · rintro ⟨before, split⟩
    rw [trimmed, show ['\n', '\n'] = ['\n'] ++ ['\n'] from rfl, ← List.append_assoc] at split
    rw [← List.append_cancel_right split, List.getLast?_concat] at other
    exact other rfl

/-- A text that consists of line breaks when it is trimmed did so before. -/
lemma trimBreaks_blank (blank : (trimBreaks text).toList.all (· == '\n')) : text.toList.all (· == '\n') := by
  rcases trimBreaks_cases text with ⟨same, _⟩ | ⟨front, breaks, split, lines, _, trimmed⟩
  · rwa [same] at blank
  · rw [trimmed, List.all_append, Bool.and_eq_true] at blank
    rw [split, List.all_append, blank.1, Bool.true_and, List.all_eq_true]
    exact fun c member => beq_iff_eq.mpr (lines c member)

/-- What trimming does to content that is given backwards: it takes a text at the end off behind a block if
there are only line breaks in it, and trims any other text there. -/
inductive TrimsBack : List ContentItem → List ContentItem → Prop where
  | off {text : String} {block : ContentItem} {rest : List ContentItem} :
    block.isBlock →
    TrimsBack (.text text :: block :: rest) (block :: rest)
  | text {text : String} {before : List ContentItem} :
    (∀ block ∈ before.head?, block.isBlock → ¬text.toList.all (· == '\n')) →
    TrimsBack (.text text :: before) (.text (trimBreaks text) :: before)
  | other {items : List ContentItem} :
    (∀ item ∈ items.head?, item.isText = false) →
    TrimsBack items items

lemma trimsBack (back : List ContentItem) : TrimsBack back (trimBreaksBack back) := by
  unfold trimBreaksBack
  split
  · next text before =>
    simp only
    split
    · split
      · exact .off rfl
      · next full =>
        exact .text (by rintro _ ⟨⟩ _; exact full)
    · split
      · exact .off rfl
      · next full =>
        exact .text (by rintro _ ⟨⟩ _; exact full)
    · next noCond noLoop =>
      refine .text fun block first isBlock => ?_
      cases before with
      | nil => cases first
      | cons item before =>
        cases first
        cases block with
        | conditional branches => exact absurd rfl (noCond branches before)
        | loop vars collection body => exact absurd rfl (noLoop vars collection body before)
        | _ => cases isBlock
  · next noText =>
    refine .other fun item first => ?_
    cases back with
    | nil => cases first
    | cons other back =>
      cases first
      cases item with
      | text text => exact absurd rfl (noText text back)
      | _ => rfl

/-- Content that is trimmed ends in at most one line break, and in none behind a block. -/
theorem endsOnce_trimEndBreaks (items : List ContentItem) : EndsOnce (trimEndBreaks items) := by
  -- A last item of trimmed content is the first one of what is given backwards.
  have backwards {before : List ContentItem} {last : List ContentItem}
      (split : trimEndBreaks items = before ++ last) :
      trimBreaksBack items.reverse = last.reverse ++ before.reverse := by
    rw [← List.reverse_append, ← split, trimEndBreaks, List.reverse_reverse]
  have trims := trimsBack items.reverse
  constructor
  case single =>
    intro before text split
    rw [backwards split] at trims
    generalize items.reverse = back at trims
    cases trims with
    | off isBlock => cases isBlock
    | text => exact trimBreaks_single _
    | other noText => exact nomatch noText _ rfl
  case block =>
    intro before block text split isBlock
    rw [backwards split] at trims
    generalize items.reverse = back at trims
    cases trims with
    | off isBlock' => cases isBlock'
    | text full => exact fun blank => full block rfl isBlock (trimBreaks_blank blank)
    | other noText => exact nomatch noText _ rfl

/-- Trimming brings no new items but a text. -/
lemma mem_trimEndBreaks (member : item ∈ trimEndBreaks items) : item.isText ∨ item ∈ items := by
  rw [trimEndBreaks, List.mem_reverse] at member
  have backwards : item ∈ items ↔ item ∈ items.reverse := List.mem_reverse.symm
  rw [backwards]
  have trims := trimsBack items.reverse
  generalize items.reverse = back at trims member
  generalize trimBreaksBack back = trimmed at trims member
  cases trims with
  | off => exact .inr (List.mem_cons_of_mem _ member)
  | text =>
    rcases List.mem_cons.mp member with rfl | before
    · exact .inl rfl
    · exact .inr (List.mem_cons_of_mem _ before)
  | other => exact .inr member

namespace Joined

lemma front {more : List ContentItem} (joined : Joined (items ++ more)) : Joined items := by
  induction items with
  | nil => exact .nil
  | cons item items ih =>
    cases joined with
    | other other rest => exact .other other (ih rest)
    | text full apart rest =>
      refine .text full (fun item first => ?_) (ih rest)
      cases items with
      | nil => cases first
      | cons next items => exact apart item first

lemma full (joined : Joined items) (member : .text text ∈ items) : text ≠ "" := by
  induction joined with
  | nil => cases member
  | other noText _ ih =>
    rcases List.mem_cons.mp member with rfl | later
    · cases noText
    · exact ih later
  | text full _ _ ih =>
    rcases List.mem_cons.mp member with same | later
    · cases same
      exact full
    · exact ih later

/-- Another text may stand in the place of the last one. -/
lemma withLast {other : String} (joined : Joined (items ++ [.text text])) (full : other ≠ "") :
    Joined (items ++ [.text other]) := by
  induction items with
  | nil => exact .text full nofun .nil
  | cons item items ih =>
    cases joined with
    | other noText rest => exact .other noText (ih rest)
    | text full' apart rest =>
      refine .text full' (fun item first => ?_) (ih rest)
      cases items with
      | nil => exact nomatch apart _ rfl
      | cons next items => exact apart item first

/-- Trimming leaves texts full and apart. -/
lemma trimEndBreaks (joined : Joined items) : Joined (trimEndBreaks items) := by
  have trims := trimsBack items.reverse
  rw [Source.trimEndBreaks]
  rw [← List.reverse_reverse items] at joined
  generalize items.reverse = back at trims joined
  generalize trimBreaksBack back = trimmed at trims
  cases trims with
  | off =>
    rw [List.reverse_cons] at joined
    exact joined.front
  | @text text before apart =>
    rw [List.reverse_cons] at joined ⊢
    exact joined.withLast (trimBreaks_full (joined.full (List.mem_append_right _ List.mem_cons_self)))
  | other => exact joined

end Joined

end Source

end BranchingStory
