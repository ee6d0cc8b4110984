import BranchingStory.Proofs.Source.Blocks
import BranchingStory.Proofs.Source.Checked
import BranchingStory.Proofs.Source.Slices

/-!
# Lines of text without their indentation

Whether a line of text can be read does not depend on the white space in front of it, so that a line that
is valid by itself is valid in every block.
-/

namespace BranchingStory.Source

open Text

variable {c : Char} {cs line : List Char}

lemma stripComment_blank (blank : isBlank c) (cs : List Char) :
    stripComment (c :: cs) = c :: stripComment cs := by
  have other (mark : Char) (plain : isBlank mark = false) : c ≠ mark := by
    rintro rfl
    rw [blank] at plain
    cases plain
  unfold stripComment
  rw [stripFrom]
  · exact fun same => absurd same (other '{' (by decide))
  · exact fun _ same => absurd same (other '\\' (by decide))
  · exact fun _ same => absurd same (other '/' (by decide))
  · exact fun _ same => absurd same (other '{' (by decide))

lemma trimEnd_blank (c : Char) (full : isBlankText line = false) :
    trimEnd (c :: line) = c :: trimEnd line := by
  have left : (line.reverse.dropWhile isBlank).isEmpty = false := by
    rw [List.isEmpty_eq_false_iff]
    intro empty
    have taken := List.takeWhile_append_dropWhile (p := isBlank) (l := line.reverse)
    rw [empty, List.append_nil] at taken
    have blank := List.all_takeWhile (p := isBlank) (l := line.reverse)
    rw [taken, List.all_reverse] at blank
    exact Bool.eq_false_iff.mp full blank
  unfold trimEnd dropEndWhile
  rw [List.reverse_cons, List.dropWhile_append, left]
  simp only [Bool.false_eq_true, if_false, List.reverse_append, List.reverse_singleton, List.singleton_append]

/-- Whether a text can be read does not depend on the literal in front of it. -/
lemma readTextFrom_ok {literal : List Char} {cs : List Char} {items : List ContentItem}
    (read : readTextFrom literal cs = .ok items) (literal' : List Char) :
    ∃ items, readTextFrom literal' cs = .ok items := by
  fun_induction readTextFrom literal cs generalizing items literal' with
  | case1 => exact ⟨_, readTextFrom.eq_1 literal'⟩
  | case2 literal rest ih =>
    obtain ⟨items, read⟩ := ih read ('{' :: literal')
    exact ⟨items, by rw [readTextFrom, read]⟩
  | case3 literal rest ih =>
    obtain ⟨items, read⟩ := ih read ('}' :: literal')
    exact ⟨items, by rw [readTextFrom, read]⟩
  | case4 => cases read
  | case5 literal rest other inside behind found ih =>
    simp only [bind_eq_ok, pure_eq_ok] at read
    obtain ⟨item, readItem, more, readMore, rfl⟩ := read
    refine ⟨literalItem literal' ++ item :: more, ?_⟩
    rw [readTextFrom]
    split
    · next none =>
      rw [found] at none
      cases none
    · next some =>
      rw [found] at some
      cases some
      simp only [bind_eq_ok, pure_eq_ok]
      exact ⟨item, readItem, more, readMore, rfl⟩
    · exact other
  | case6 literal c rest _ _ _ ih =>
    obtain ⟨items, read⟩ := ih read (c :: literal')
    refine ⟨items, ?_⟩
    rw [readTextFrom, read] <;> assumption

lemma readTextFrom_blank (blank : isBlank c) (cs : List Char) :
    readTextFrom [] (c :: cs) = readTextFrom [c] cs := by
  rw [readTextFrom]
  · rintro _ rfl
    cases blank
  · rintro _ rfl
    cases blank
  · rintro rfl
    cases blank

/-- White space in front does not change whether a text can be read. -/
lemma readText_blank (blank : isBlank c) (cs : List Char) :
    (∃ items, readText (c :: cs) = .ok items) ↔ ∃ items, readText cs = .ok items := by
  rw [readText, readText, readTextFrom_blank blank]
  constructor
  · rintro ⟨items, read⟩
    exact readTextFrom_ok read []
  · rintro ⟨items, read⟩
    exact readTextFrom_ok read [c]

/-- Nor whether a line of text can be read. -/
lemma readTextLine_blank (blank : isBlank c) (cs : List Char) :
    (∃ items, readTextLine (c :: cs) = .ok items) ↔ ∃ items, readTextLine cs = .ok items := by
  have same : isBlankText (c :: stripComment cs) = isBlankText (stripComment cs) := by
    rw [isBlankText, List.all_cons, blank, Bool.true_and, isBlankText]
  unfold readTextLine
  simp only [stripComment_blank blank, same]
  split
  · rfl
  · next full =>
    rw [trimEnd_blank c (Bool.eq_false_iff.mpr full)]
    cases glued : dropBack? Draft.glue (trimEnd (stripComment cs)) with
    | some body =>
      have longer : dropBack? Draft.glue (c :: trimEnd (stripComment cs)) = some (c :: body) := by
        rw [dropBack?_eq_some] at glued ⊢
        rw [glued, List.cons_append]
      simp only [longer]
      exact readText_blank blank body
    | none =>
      have longer : dropBack? Draft.glue (c :: trimEnd (stripComment cs)) = none := by
        rw [Option.eq_none_iff_forall_ne_some] at glued ⊢
        intro body same
        rw [dropBack?_eq_some] at same
        cases body with
        | nil =>
          rw [(List.cons.inj same).1] at blank
          cases blank
        | cons _ body =>
          exact glued body (dropBack?_eq_some.mpr (List.cons.inj same).2)
      have answered (cs : List Char) : (∃ items, (readText cs).map (· ++ [.text "\n"]) = .ok items) ↔
          ∃ items, readText cs = .ok items := by
        simp only [map_eq_ok]
        constructor
        · rintro ⟨_, items, read, _⟩
          exact ⟨items, read⟩
        · rintro ⟨items, read⟩
          exact ⟨_, items, read, rfl⟩
      simp only [longer, answered]
      exact readText_blank blank _

/-- Cutting off part of the indentation leaves the rest of a line. -/
lemma dropBytes_indentation {n : Nat} {rest : List Char} (cut : Draft.dropBytes n cs = some rest)
    (inside : n ≤ byteLength (indentation cs)) : ∃ gap, (∀ c ∈ gap, isBlank c) ∧ cs = gap ++ rest := by
  induction cs generalizing n with
  | nil =>
    cases n with
    | zero =>
      cases cut
      exact ⟨[], nofun, rfl⟩
    | succ n => cases cut
  | cons c cs ih =>
    cases n with
    | zero =>
      cases cut
      exact ⟨[], nofun, rfl⟩
    | succ n =>
      have blank : isBlank c := by
        cases white : isBlank c with
        | true => rfl
        | false =>
          rw [indentation, List.takeWhile_cons_of_neg (Bool.eq_false_iff.mp white)] at inside
          exact absurd inside (Nat.not_succ_le_zero n)
      rw [Draft.dropBytes] at cut
      split at cut
      · rw [indentation, List.takeWhile_cons_of_pos blank, byteLength] at inside
        obtain ⟨gap, blanks, same⟩ := ih cut (by rw [indentation]; omega)
        exact ⟨c :: gap, List.forall_mem_cons.mpr ⟨blank, blanks⟩, by rw [same, List.cons_append]⟩
      · cases cut

/-- Whether a line of text can be read does not depend on a part of its indentation. -/
lemma readTextLine_outdent {n : Nat} {text rest : List Char} (cut : Draft.dropBytes n text = some rest)
    (inside : n ≤ byteLength (indentation text)) :
    (∃ items, readTextLine text = .ok items) ↔ ∃ items, readTextLine rest = .ok items := by
  obtain ⟨gap, blanks, rfl⟩ := dropBytes_indentation cut inside
  clear cut inside
  induction gap with
  | nil => rfl
  | cons c gap ih =>
    rw [List.cons_append, readTextLine_blank (blanks c List.mem_cons_self)]
    exact ih fun c member => blanks c (List.mem_cons_of_mem _ member)

end BranchingStory.Source
