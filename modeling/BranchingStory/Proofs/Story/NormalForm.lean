import BranchingStory.Proofs.Play.Displayed
import BranchingStory.Proofs.Play.Starting
import BranchingStory.Proofs.Source.Formed

/-!
# Compiled stories in normal form

Whatever the source is, with includes and with several definitions of one passage, a story that is compiled
from it can be played: it has a first passage. Each passage comes from the last definition of its id, its
choices have keys of their own that follow the order of the lines, and its content is in normal form.
-/

namespace BranchingStory

open Source Number

/-- Whether a passage stands for a place in a source: its id is defined there for the last time, it is what
the lines there denote, and these lines spell its choices one after the other. -/
structure Story.Places (story : Story) (e : Expansion) (p : Passage) (h : Heading) : Prop where
  last : h.DefinesLast e.lines p.id
  denotes : h.Denotes story.params p
  offers : ((passageLines h.behind).filter (·.offer?.isSome)).Sublist e.lines
  choices : ∃ choices, SpelledBy p h.behind choices

/-- Whether a story is in normal form, as one that is compiled from expanded lines. -/
structure Story.Normal (story : Story) (e : Expansion) : Prop where
  valid : story.check = .ok ()
  apart : (Assoc.keys story.passages).Nodup
  ownId : ∀ id p, (id, p) ∈ story.passages → p.id = id
  placed : ∀ id p, (id, p) ∈ story.passages → ∃ h, story.Places e p h
  keys : (story.passages.flatMap fun (_, p) => p.allChoices.map (·.key)).Nodup
  passages : ∀ id p, (id, p) ∈ story.passages → p.Normal

/-! ## Keys of choices -/

/-- A key is numbered in one way. -/
lemma key_inj {id id' : String} {n n' : Nat}
    (same : id ++ "#" ++ toString n = id' ++ "#" ++ toString n') : id = id' ∧ n = n' := by
  have split := splitLast?_numbered id n
  rw [same, splitLast?_numbered, Option.some_inj, Prod.mk.injEq] at split
  obtain ⟨ids, digits⟩ := split
  refine ⟨(String.toList_inj.mp ids).symm, ?_⟩
  rw [← natOfDigits_toDigits n, ← digits, natOfDigits_toDigits]

namespace Source.SpelledBy

variable {p : Passage} {lines : List SourceLine} {choices : List Choice}

/-- The keys of a passage are numbered behind its id. -/
lemma key_of_mem (spelled : SpelledBy p lines choices) {key : String}
    (member : key ∈ p.allChoices.map (·.key)) : ∃ n : Nat, key = p.id ++ "#" ++ toString n := by
  rw [← (spelled.whole.map _).mem_iff, spelled.keys] at member
  obtain ⟨n, _, same⟩ := List.mem_map.mp member
  exact ⟨n, same.symm⟩

lemma keys_nodup (spelled : SpelledBy p lines choices) : (p.allChoices.map (·.key)).Nodup := by
  rw [← (spelled.whole.map _).nodup_iff, spelled.keys]
  exact List.nodup_range.map fun _ _ same => (key_inj same).2

end Source.SpelledBy

namespace Story.CompiledFrom

variable {e : Expansion} {story : Story}

/-- Each passage of a compiled story stands for the last place where its id is defined. -/
lemma places (compiled : story.CompiledFrom e) {id : String} {p : Passage} (member : (id, p) ∈ story.passages) :
    p.id = id ∧ ∃ h, story.Places e p h := by
  have ownId := compiled.id_eq (Assoc.get?_of_mem compiled.keys_nodup member)
  obtain ⟨h, d, made, last, rfl⟩ := compiled.made member
  have denotes := made.denotes story.params
  have within := (List.suffix_cons _ _).trans last.defines.1.suffix
  exact ⟨ownId, h, ownId ▸ last, denotes, (passageLines_offers h.behind).trans within.sublist,
    denotes.spelled.2⟩

/-- All choices of a compiled story have keys of their own. -/
lemma choiceKeys_nodup (compiled : story.CompiledFrom e) :
    (story.passages.flatMap fun (_, p) => p.allChoices.map (·.key)).Nodup := by
  refine List.nodup_flatMap.mpr ⟨?inside, ?across⟩
  case inside =>
    rintro ⟨id, p⟩ member
    obtain ⟨_, h, places⟩ := compiled.places member
    obtain ⟨choices, spelled⟩ := places.choices
    exact spelled.keys_nodup
  case across =>
    -- Keys of two passages begin with their ids, which are different.
    refine (List.pairwise_map.mp compiled.keys_nodup).imp_of_mem ?_
    rintro ⟨id, p⟩ ⟨id', p'⟩ member member' different
    obtain ⟨rfl, h, places⟩ := compiled.places member
    obtain ⟨rfl, h', places'⟩ := compiled.places member'
    obtain ⟨choices, spelled⟩ := places.choices
    obtain ⟨choices', spelled'⟩ := places'.choices
    intro key here there
    obtain ⟨n, rfl⟩ := spelled.key_of_mem here
    obtain ⟨n', same⟩ := spelled'.key_of_mem there
    exact different (key_inj same).1

/-- Every compiled story is in normal form. -/
theorem normal_form (compiled : story.CompiledFrom e) : story.Normal e where
  valid := compiled.check
  apart := compiled.keys_nodup
  ownId := fun _ _ member => (compiled.places member).1
  placed := fun _ _ member => (compiled.places member).2
  keys := compiled.choiceKeys_nodup
  passages := by
    intro id p member
    obtain ⟨h, places⟩ := (compiled.places member).2
    exact places.denotes.normal

end Story.CompiledFrom

section Fair

/-- The lines of a story with two definitions of one passage, the later one with choices inside a conditional
and behind it. -/
def fairLines : Expansion :=
  ⟨[⟨inlineLabel, 1, ":: Start".toList⟩, ⟨inlineLabel, 2, "+ [Wait] -> Start".toList⟩,
    ⟨inlineLabel, 3, ":: Start".toList⟩, ⟨inlineLabel, 4, "@if open:".toList⟩,
    ⟨inlineLabel, 5, "+ [Look] -> Start".toList⟩, ⟨inlineLabel, 6, "@else:".toList⟩,
    ⟨inlineLabel, 7, "+ [Knock] -> Start".toList⟩, ⟨inlineLabel, 8, "@endif".toList⟩,
    ⟨inlineLabel, 9, "+ [Leave] -> Start".toList⟩], [], []⟩

def fair : Story :=
  fairLines.story

/-- The earlier definition leaves no choices behind. -/
theorem fair_is_normal :
    fair.CompiledFrom fairLines ∧ fair.Normal fairLines ∧
      fair.passages.flatMap (fun (_, p) => p.allChoices.map fun c => (c.key, c.line)) =
        [("Start#0", 5), ("Start#1", 7), ("Start#2", 9)] := by
  have compiled : fair.CompiledFrom fairLines := fairLines.compiledFrom (by decide +kernel)
  exact ⟨compiled, compiled.normal_form, by decide +kernel⟩

end Fair

end BranchingStory
