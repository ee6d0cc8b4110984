import BranchingStory.Host.Toybox
import BranchingStory.Proofs.Play.Alike
import BranchingStory.Proofs.Save.RoundTrip
import BranchingStory.Proofs.Source.Compiled

/-!
# Saved games go on

A game of a story without chance that is saved behind a step goes on in the same way after it is loaded:
what the commands left behind in variables and arguments is all that showing the passage again depends
on, and it is restored as it was.
-/

namespace BranchingStory

open Source

variable {Obj : Type}

/-- Whether a session holds no object in its variables and arguments. -/
def Session.objectFree (s : Session Obj) : Bool :=
  objectFreeFields s.vars && s.position?.all fun position => objectFreeFields position.args

def Hop.output (h : Hop Obj) : Output Obj :=
  { passage := h.id
    visited := [h.id]
    content := h.rendered.content
    choices := h.rendered.choices
    directives := h.rendered.directives
    inputs := h.rendered.inputs
    warnings := h.rendered.warnings }

section Saving

variable [HostObject Obj] {story : Story} {registry : Registry Obj}

namespace Game

lemma decodeVars_encodeVars (g : Game Obj) {vars : Vars Obj} (free : objectFreeFields vars) :
    g.decodeVars (Save.encodeVars vars).1 = .ok (vars, []) := by
  unfold decodeVars
  rw [Save.decodeVars_encodeVars g.registry free]
  rfl

/-- A saved game of the same story that can be read without a warning is resumed. -/
lemma load_resume (g : Game Obj) {saved : SavedGame} {p : Passage} {vars args : Vars Obj}
    (version : saved.formatVersion = SavedGame.currentFormat)
    (own : saved.storyId = g.story.metadata.identity)
    (found : g.story.passage? saved.passage = some p)
    (ofVars : g.decodeVars saved.state = .ok (vars, []))
    (ofArgs : g.decodeVars saved.args = .ok (args, [])) :
    g.load saved = .ok (g.resume p saved.consumed.eraseDups vars args) := by
  rw [load_eq, if_neg (not_not_intro version), found, ofVars, ofArgs]
  simp only [foreign, if_pos own, List.nil_append]

/-- Saved at the end of a chain, a game is restored without a warning where the chain ended, and shows
what the last passage showed. -/
lemma load_save {e : Expansion} (compiled : story.CompiledFrom e) (drawless : story.draws = false)
    {g other : Game Obj} (here : g.story = story) (there : other.story = story)
    (names : g.bindings = other.bindings) {visited : List String} {id : String} {call : CallArgs Obj}
    {s s' : Session Obj} {chain : Chain Obj}
    (followed : BranchingStory.follow story g.bindings visited id call s = .ok (chain, s'))
    (arrived : g.session = s'.arrive chain) (free : g.session.objectFree) (timestamp : Nat) :
    ∃ saved t, g.save timestamp = .ok saved ∧ other.load saved = .ok (t, []) ∧ g.session.Alike t ∧
      t.position?.map (·.output) = some chain.last.output := by
  obtain ⟨p, generator, found, stays, rendered⟩ := follow_last followed
  rw [arrived] at free
  simp only [Session.objectFree, Session.arrive, Chain.position, Option.all_some, Bool.and_eq_true]
    at free
  have own : p.id = chain.last.id := compiled.id_eq found
  have taken (key : String) : key ∈ s'.consumed ↔ key ∈ (s'.consumed.mergeSort (· ≤ ·)).eraseDups := by
    rw [List.mem_eraseDups, List.mem_mergeSort]
  -- Loading shows the passage with another generator and another order of the choices taken.
  have shown := Passage.shown_agree (story.drawless_passage drawless found) taken s'.vars
    chain.last.args generator other.session.generator g.bindings
  rw [← rendered, names] at shown
  have saves : g.save timestamp = .ok {
      formatVersion := SavedGame.currentFormat
      storyVersion? := story.metadata.version?
      storyId := story.metadata.identity
      timestamp
      passage := chain.last.id
      args := (Save.encodeVars chain.last.args).1
      state := (Save.encodeVars s'.vars).1
      consumed := s'.consumed.mergeSort (· ≤ ·) } := by
    unfold save
    rw [arrived, here]
    rfl
  refine ⟨_, (other.resume p (s'.consumed.mergeSort (· ≤ ·)).eraseDups s'.vars chain.last.args).1,
    saves, ?_, ?_, ?_⟩
  · rw [other.load_resume rfl (by rw [there]) (by rw [there]; exact found)
      (other.decodeVars_encodeVars free.1) (other.decodeVars_encodeVars free.2)]
    simp only [resume, ← shown, stays]
    rfl
  · rw [arrived]
    refine ⟨rfl, taken, .some ⟨own.symm, rfl, own.symm, ?_⟩⟩
    simp only [outputOf, ← shown]
    rfl
  · simp only [resume, ← shown, Option.map_some, outputOf, own]
    rfl

/-- A saved game goes on. In a story that was compiled and calls no random function, with a game that is
saved behind a step and holds no object: it is saved, and any other game of the story and the host loads
it without a warning; it stands at the same place with the same variables, arguments and choices, and
shows what the last passage of the step showed; and whatever is done with both games is answered in the
same way, and leaves their sessions alike. Refused moves behind the step leave the game as it is, so
that they may be left out. -/
theorem saved_game_goes_on {e : Expansion} (compiled : story.CompiledFrom e)
    (drawless : story.draws = false) {g g' other : Game Obj} {m : Move Obj} {warnings : List String}
    (reach : Reachable story registry g) (step : m.isStep) (moved : g.move m = (.ok warnings, g')) (free : g'.session.objectFree)
    (reachOther : Reachable story registry other) (timestamp : Nat) :
    ∃ d chain s saved loaded, g.Departs m d ∧ g.follow d = .ok (chain, s) ∧
      g'.session = s.arrive chain ∧ g'.save timestamp = .ok saved ∧
      other.move (.load saved) = (.ok [], loaded) ∧
      g'.session.Alike loaded.session ∧
      loaded.session.position?.map (·.output) = some chain.last.output ∧
      ∀ moves, (g'.play moves).1 = (loaded.play moves).1 ∧
        (g'.play moves).2.session.Alike (loaded.play moves).2.session := by
  obtain ⟨here, host, names⟩ := reach.fixed
  obtain ⟨there, otherHost, otherNames⟩ := reachOther.fixed
  obtain ⟨d, chain, s, departs, followed, rfl⟩ := step_eq_ok step moved
  have chained := followed
  rw [Game.follow, here] at chained
  obtain ⟨saved, t, saves, loads, alike, shown⟩ :=
    load_save (g := { g with session := s.arrive chain }) compiled drawless here there
      (names.trans otherNames.symm) chained rfl free timestamp
  have restored : other.move (.load saved) = (.ok [], { other with session := t }) := by
    simp only [move_eq, after, loads]
    rfl
  refine ⟨d, chain, s, saved, _, departs, followed, rfl, saves, restored, alike, shown, fun moves => ?_⟩
  have together : Game.Alike { g with session := s.arrive chain } { other with session := t } :=
    ⟨here.trans there.symm, host.trans otherHost.symm, names.trans otherNames.symm, alike⟩
  obtain ⟨same, last⟩ := play_alike (by rw [here, drawless]) together moves
  exact ⟨same, last.session⟩

end Game

end Saving

/-- The lines of a story with a one-shot choice, an argument and a counted variable. -/
def vaultLines : Expansion :=
  ⟨[⟨inlineLabel, 1, ":: Start".toList⟩, ⟨inlineLabel, 2, "~ coins = 2".toList⟩,
    ⟨inlineLabel, 3, "* [Take them] -> Vault(coins)".toList⟩, ⟨inlineLabel, 4, ":: Vault(n)".toList⟩,
    ⟨inlineLabel, 5, "~ coins = coins + n".toList⟩,
    ⟨inlineLabel, 6, "Now there are \x7bcoins\x7d.".toList⟩,
    ⟨inlineLabel, 7, "+ [Back] -> Start".toList⟩], [], []⟩

def beforeVault (seed : UInt64) : Game Toybox.Thing :=
  Game.opening vaultLines.story Registry.empty seed []

def inVault : Game Toybox.Thing :=
  (((beforeVault 7).move .start).2.move (.choose 0)).2

/-- The game goes on in a game with another seed. -/
theorem goes_on_in_vault :
    vaultLines.story.CompiledFrom vaultLines ∧ vaultLines.story.draws = false ∧
      inVault.session.objectFree ∧
      ∃ saved loaded, inVault.save 0 = .ok saved ∧
        (beforeVault 8).move (.load saved) = (.ok [], loaded) ∧
        ∀ moves, (inVault.play moves).1 = (loaded.play moves).1 := by
  have compiled := vaultLines.compiledFrom (by decide +kernel)
  have drawless : vaultLines.story.draws = false := by decide +kernel
  have free : inVault.session.objectFree := by decide +kernel
  have begun (seed : UInt64) : (beforeVault seed).Reachable vaultLines.story Registry.empty :=
    .opening _ _ _ (by decide +kernel)
  have made : (((beforeVault 7).move .start).2.move (.choose 0)).1.isOk := by decide +kernel
  cases answer : (((beforeVault 7).move .start).2.move (.choose 0)).1 with
  | error reason =>
    rw [answer] at made
    cases made
  | ok warnings =>
    obtain ⟨_, _, _, saved, loaded, _, _, _, saves, loads, _, _, later⟩ :=
      Game.saved_game_goes_on compiled drawless (.move .start (begun 7)) rfl (Prod.ext answer rfl)
        free (begun 8) 0
    exact ⟨compiled, drawless, free, saved, loaded, saves, loads, fun moves => (later moves).1⟩

end BranchingStory
