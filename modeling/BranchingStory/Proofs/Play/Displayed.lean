import Mathlib.Data.List.Nodup
import BranchingStory.Proofs.Digits
import BranchingStory.Proofs.Play.Offered
import BranchingStory.Proofs.Source.Numbered
import BranchingStory.Proofs.StableSort

/-!
# Choices in the order of the source

Choices inside content are evaluated while the content is gone through, and those of the passage behind it.
They are displayed by the numbers of their keys, which count the lines with choices of the passage. So each
line has its choices in one place, in the order in which they were evaluated, and the lines follow one another
as in the source.
-/

namespace BranchingStory

open Script Source Number

/-! ## The number of a key -/

lemma splitLast?_append {sep : Char} {rest : List Char} (apart : ∀ c ∈ rest, c ≠ sep) (front : List Char) :
    Text.splitLast? sep (front ++ sep :: rest) = some (front, rest) := by
  have back : (front ++ sep :: rest).reverse = rest.reverse ++ sep :: front.reverse := by
    rw [List.reverse_append, List.reverse_cons, List.append_assoc, List.singleton_append]
  rw [Text.splitLast?, back, splitFirst?_append fun c member => apart c (List.mem_reverse.mp member)]
  simp only [Option.map_some, List.reverse_reverse]

lemma readNat?_toDigits (n : Nat) : readNat? (Nat.toDigits 10 n) = some n := by
  have full : (Nat.toDigits 10 n).isEmpty = false := List.isEmpty_eq_false_iff.mpr Nat.toDigits_ne_nil
  have digits : (Nat.toDigits 10 n).all Char.isDigit := List.all_eq_true.mpr (isDigit_toDigits n)
  unfold readNat?
  split
  · next rest signed =>
    have plus := isDigit_toDigits n '+' (signed ▸ List.mem_cons_self)
    cases plus
  · simp only [full, digits, Bool.not_false, Bool.true_and, if_true, natOfDigits_toDigits]

/-- A numbered key is split behind the id. -/
lemma splitLast?_numbered (id : String) (n : Nat) :
    Text.splitLast? '#' (id ++ "#" ++ toString n).toList = some (id.toList, Nat.toDigits 10 n) := by
  have digits : (toString n).toList = Nat.toDigits 10 n := Nat.toList_repr
  have apart : ∀ c ∈ Nat.toDigits 10 n, c ≠ '#' := by
    rintro c member rfl
    cases isDigit_toDigits n '#' member
  have key : (id ++ "#" ++ toString n).toList = id.toList ++ '#' :: Nat.toDigits 10 n := by
    rw [String.toList_append, String.toList_append, digits, List.append_assoc]
    rfl
  rw [key, splitLast?_append apart]

/-- A numbered key has its number. -/
lemma keyNumber_numbered (id : String) (n : Nat) : keyNumber (id ++ "#" ++ toString n) = min n lastNumber := by
  rw [keyNumber, splitLast?_numbered, Option.bind_some, readNat?_toDigits]

/-! ## Lines and their choices -/

section Keys

variable {p : Passage} {lines : List SourceLine} {choices : List Choice}

lemma Source.SpelledBy.few (spelled : SpelledBy p lines choices) : choices.length ≤ lines.length := by
  rw [← spelled.spelled.length_eq]
  exact (passageLines_offers lines).length_le

/-- The choices have different numbers, which ascend in the order of their lines. -/
lemma Source.SpelledBy.ascending (spelled : SpelledBy p lines choices)
    (few : choices.length ≤ lastNumber + 1) :
    (choices.map fun c => keyNumber c.key).Pairwise (· < ·) := by
  have numbers : (choices.map fun c => keyNumber c.key) = List.range choices.length := by
    have keys := congrArg (List.map keyNumber) spelled.keys
    rw [List.map_map, List.map_map] at keys
    refine keys.trans ((List.map_congr_left fun n inside => ?_).trans (List.map_id _))
    rw [Function.comp_apply, keyNumber_numbered, id, Nat.min_eq_left]
    exact Nat.le_of_lt_succ (Nat.lt_of_lt_of_le (List.mem_range.mp inside) few)
  rw [numbers]
  exact List.pairwise_lt_range

end Keys

section Displaying

variable {Obj : Type} [HostObject Obj] {ctx : RenderContext}

/-- What is displayed of a choice has its key. -/
lemma offered?_key {c : Choice} {s : Scope Obj} {offered : OfferedChoice Obj}
    (displays : c.offered? ctx s = some offered) : offered.key = c.key := by
  have ofOffer {s : Scope Obj} (displays : Choice.offered?.offer ctx c s = some offered) :
      offered.key = c.key := by
    unfold Choice.offered?.offer at displays
    split at displays
    · cases displays
      rfl
    · cases displays
  unfold Choice.offered? at displays
  split at displays
  · cases displays
  · split at displays
    · exact ofOffer displays
    · split at displays
      · exact ofOffer displays
      · cases displays

/-- What is displayed with a number comes from the choice that has this number. -/
lemma group_displayed {c : Choice} {occurrences : List (Occurrence Obj)}
    (apart : ∀ o ∈ occurrences, keyNumber o.1.key = keyNumber c.key → o.1.key = c.key) :
    group (fun d : OfferedChoice Obj => keyNumber d.key) (keyNumber c.key) (displayed ctx occurrences) =
      displayed ctx (occurrences.filter fun o => o.1.key = c.key) := by
  induction occurrences with
  | nil => rfl
  | cons o occurrences ih =>
    obtain ⟨here, apart⟩ := List.forall_mem_cons.mp apart
    have first : group (fun d : OfferedChoice Obj => keyNumber d.key) (keyNumber c.key)
        (o.1.offered? ctx o.2).toList = if o.1.key = c.key then (o.1.offered? ctx o.2).toList else [] := by
      cases shown : o.1.offered? ctx o.2 with
      | none =>
        rw [Option.toList_none, ite_self]
        rfl
      | some offered =>
        have same : keyNumber offered.key = keyNumber c.key ↔ o.1.key = c.key := by
          rw [offered?_key shown]
          exact ⟨here, congrArg keyNumber⟩
        simp only [Option.toList_some, group_cons, same]
        rfl
    have whole := ih apart
    unfold group at first whole ⊢
    rw [displayed_cons, List.filter_append, first, whole, List.filter_cons]
    simp only [decide_eq_true_eq]
    split
    · exact (displayed_cons o _).symm
    · exact List.nil_append _

end Displaying

namespace Story.CompiledFrom

variable {Obj : Type} [HostObject Obj] {e : Expansion} {story : Story}

/-- Displayed choices follow the source. The choices of a passage are those that the lines behind its header
spell, numbered in the order of these lines, which are lines of the source in its order. Whenever the passage
is rendered and does not end in a jump, what is displayed is one entry for each occurrence of a choice that is
reached, open, with a guard that holds and with arguments that can be evaluated; and the entries come line by
line, those of one line in the order in which they were reached. Lines are counted in 64 bits. -/
theorem choices_follow_lines (compiled : story.CompiledFrom e) (few : e.lines.length ≤ lastNumber + 1)
    {id : String} {p : Passage} (found : story.passage? id = some p) :
    ∃ header lines choices, header :: lines <:+ e.lines ∧ header.IsHeaderOf p ∧ SpelledBy p lines choices ∧
      ((passageLines lines).filter (·.offer?.isSome)).Sublist lines ∧
      ∀ (consumed : List String) (s : Scope Obj), (p.render consumed s).1.jump? = none →
        (p.render consumed s).1.choices.Perm (displayed ⟨p.id, consumed⟩ (p.reached consumed s)) ∧
        (p.render consumed s).1.choices = choices.flatMap fun c =>
          displayed ⟨p.id, consumed⟩ ((p.reached consumed s).filter fun o => o.1.key = c.key) := by
  obtain ⟨header, lines, choices, within, opens, spelled⟩ := compiled.spelled (Assoc.mem_of_get? found)
  have ascending : (choices.map fun c => keyNumber c.key).Pairwise (· < ·) := by
    exact spelled.ascending (spelled.few.trans ((Nat.le_of_succ_le within.length_le).trans few))
  refine ⟨header, lines, choices, within, opens, spelled, passageLines_offers lines,
    fun consumed s stays => ⟨?_, ?_⟩⟩
  · rw [Passage.render_choices stays]
    exact List.mergeSort_perm _ _
  · have known : ∀ o ∈ p.reached consumed s, o.1 ∈ choices := fun o member =>
      spelled.whole.mem_iff.mpr (p.mem_reached consumed s o member)
    rw [Passage.render_choices stays, inKeyOrder, mergeSort_eq_flatMap ascending ?numbers, List.flatMap_map]
    case numbers =>
      intro offered member
      obtain ⟨o, reached, shown⟩ := List.mem_filterMap.mp member
      exact List.mem_map.mpr ⟨o.1, known o reached, congrArg keyNumber (offered?_key shown).symm⟩
    -- The numbers ascend from line to line, so that a number belongs to one line alone.
    have alone : ∀ a ∈ choices, ∀ b ∈ choices, keyNumber a.key = keyNumber b.key → a = b :=
      fun a here b there same => List.inj_on_of_nodup_map (ascending.imp Nat.ne_of_lt) here there same
    refine List.flatMap_congr fun c member => group_displayed fun o reached same => ?_
    exact congrArg Choice.key (alone o.1 (known o reached) c member same)

end Story.CompiledFrom

section Market

open Toybox

/-- The lines of a story with a choice in front of a loop, one in the loop and one behind it. -/
def marketLines : Expansion :=
  ⟨[⟨inlineLabel, 1, ":: Start".toList⟩, ⟨inlineLabel, 2, "+ [Look] -> Start".toList⟩,
    ⟨inlineLabel, 3, "@for stall in 'ab':".toList⟩, ⟨inlineLabel, 4, "+ [{stall}] -> Start".toList⟩,
    ⟨inlineLabel, 5, "@endfor".toList⟩, ⟨inlineLabel, 6, "+ [Leave] -> Start".toList⟩], [], []⟩

def market : Story :=
  marketLines.story

def atMarket : Scope Thing :=
  .start .shared [] [] (Generator.ofSeed 7) []

/-- The choices of the loop are evaluated first, and displayed between those around it. -/
theorem market_shows_choices_in_order :
    market.CompiledFrom marketLines ∧ marketLines.lines.length ≤ lastNumber + 1 ∧
      ∃ p, market.passage? "Start" = some p ∧ (p.render [] atMarket).1.jump? = none ∧
        (p.reached [] atMarket).map (·.1.key) = ["Start#1", "Start#1", "Start#0", "Start#2"] ∧
        (p.render [] atMarket).1.choices.map (fun c => (c.key, c.text)) =
          [("Start#0", "Look"), ("Start#1", "a"), ("Start#1", "b"), ("Start#2", "Leave")] := by
  have compiled : market.CompiledFrom marketLines := marketLines.compiledFrom (by decide +kernel)
  have few : marketLines.lines.length ≤ lastNumber + 1 := by decide +kernel
  obtain ⟨p, found⟩ : ∃ p, market.passage? "Start" = some p := Option.isSome_iff_exists.mp (by decide +kernel)
  have ofPassage {α : Type} {f : Passage → α} {a : α} (known : (market.passage? "Start").map f = some a) :
      f p = a := by
    rw [found] at known
    exact Option.some.inj known
  have stays : (p.render [] atMarket).1.jump? = none :=
    Option.isNone_iff_eq_none.mp
      (ofPassage (f := fun p => (p.render [] atMarket).1.jump?.isNone) (by decide +kernel))
  have reached : (p.reached [] atMarket).map (·.1.key) = ["Start#1", "Start#1", "Start#0", "Start#2"] :=
    ofPassage (f := fun p => (p.reached [] atMarket).map (·.1.key)) (by decide +kernel)
  obtain ⟨header, lines, choices, _, _, spelled, _, shown⟩ :=
    @Story.CompiledFrom.choices_follow_lines Thing _ _ _ compiled few _ _ found
  have keys : choices.map (·.key) = ["Start#0", "Start#1", "Start#2"] := by
    rw [spelled.keys, spelled.whole.length_eq]
    exact ofPassage (f := fun p => (List.range p.allChoices.length).map fun n => p.id ++ "#" ++ toString n)
      (by decide +kernel)
  have byKey : (p.render [] atMarket).1.choices = ["Start#0", "Start#1", "Start#2"].flatMap fun key =>
      displayed ⟨p.id, []⟩ ((p.reached [] atMarket).filter (·.1.key = key)) := by
    rw [← keys, List.flatMap_map]
    exact (shown [] atMarket stays).2
  have texts : (market.passage? "Start").map (fun p =>
      (["Start#0", "Start#1", "Start#2"].flatMap fun key =>
        displayed ⟨p.id, []⟩ ((p.reached [] atMarket).filter (·.1.key = key))).map fun c => (c.key, c.text)) =
      some [("Start#0", "Look"), ("Start#1", "a"), ("Start#1", "b"), ("Start#2", "Leave")] := by
    decide +kernel
  refine ⟨compiled, few, p, found, stays, reached, ?_⟩
  rw [byKey]
  exact ofPassage texts

end Market

end BranchingStory
