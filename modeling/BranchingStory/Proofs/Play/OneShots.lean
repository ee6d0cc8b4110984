import BranchingStory.Host.Toybox
import BranchingStory.Proofs.Play.Alike
import BranchingStory.Proofs.Play.Moves

/-!
# Choices that can be taken once

Rendering passes over the one-shot choices that were taken, at whatever depth of the content they are.
So no reachable game offers one of them: the set of those that were taken grows when one is taken, is
replaced when a game is loaded, and is left alone by everything else. What was taken stays taken, and is
never offered again, as long as only games are loaded that were saved behind it.
-/

namespace BranchingStory

open Script

variable {Obj : Type}

/-- Whether every choice that a step of rendering offers has a property. -/
def Pass.Offers (P : OfferedChoice Obj → Prop) (pass : Pass Obj) : Prop :=
  ∀ s, ∀ c ∈ (pass s).1.choices, P c

namespace Pass.Offers

variable {P : OfferedChoice Obj → Prop}

lemma emit {r : Rendered Obj} (none : r.choices = []) : Offers P (Pass.emit r) := by
  intro s c member
  change c ∈ r.choices at member
  rw [none] at member
  cases member

lemma skip : Offers P (Pass.skip : Pass Obj) :=
  emit rfl

lemma andThen {first second : Pass Obj} (ofFirst : Offers P first) (ofSecond : Offers P second) :
    Offers P (first.andThen second) := by
  intro s c member
  unfold Pass.andThen at member
  simp only at member
  split at member
  · exact ofFirst s c member
  · rcases List.mem_append.mp member with inFirst | inSecond
    · exact ofFirst s c inFirst
    · exact ofSecond _ c inSecond

lemma inFrame {body : Pass Obj} (ofBody : Offers P body) : Offers P (Pass.inFrame body) :=
  fun s => ofBody s.pushFrame

lemma attempt {α : Type} {computation : EvalM Obj α} {failed : EvalError → Pass Obj}
    {done : α → Pass Obj} (ofFailed : ∀ reason, Offers P (failed reason))
    (ofDone : ∀ a, Offers P (done a)) : Offers P (Pass.attempt computation failed done) := by
  intro s
  unfold Pass.attempt
  split
  · exact ofDone _ _
  · exact ofFailed _ _

variable [HostObject Obj] {ctx : RenderContext}

lemma withCondition {code : String} {yes no : Pass Obj} (ofYes : Offers P yes)
    (ofNo : Offers P no) : Offers P (BranchingStory.withCondition ctx code yes no) := by
  refine .attempt (fun reason => .andThen (.emit rfl) ofNo) fun value => ?_
  split
  · exact ofYes
  · exact ofNo

lemma withArgs {args : List Arg} {done : CallArgs Obj → Pass Obj}
    (ofDone : ∀ call, Offers P (done call)) : Offers P (BranchingStory.withArgs ctx args done) := by
  intro s
  unfold BranchingStory.withArgs
  split
  · exact ofDone _ _
  · exact emit (r := ctx.warn _ _) rfl s

end Pass.Offers

section Rendering

variable [HostObject Obj] {P : OfferedChoice Obj → Prop} {ctx : RenderContext}

lemma renderChoices_offers (each : ∀ c, (renderChoice ctx c : Pass Obj).Offers P)
    (choices : List Choice) : (renderChoices ctx choices : Pass Obj).Offers P := by
  induction choices with
  | nil => exact .skip
  | cons c choices ih => exact .andThen (each c) ih

lemma renderEach_offers {vars : List String} {collection : String} {body : Pass Obj}
    (ofBody : body.Offers P) (items : List (Value Obj)) :
    (renderEach ctx vars collection body items).Offers P := by
  induction items with
  | nil => exact .skip
  | cons item items ih =>
    exact .andThen (.inFrame (.attempt (fun reason => .emit rfl) fun _ => ofBody)) ih

mutual

theorem renderItem_offers (each : ∀ c, (renderChoice ctx c : Pass Obj).Offers P) :
    (item : ContentItem) → (renderItem ctx item : Pass Obj).Offers P
  | .text text | .input name label? placeholder? => by
    simp only [renderItem]
    exact .emit rfl
  | .expression code format? => by
    simp only [renderItem]
    exact .attempt (fun reason => .emit rfl) fun text => .emit rfl
  | .conditional branches => by
    simp only [renderItem]
    exact renderBranches_offers each branches
  | .loop vars collection body => by
    simp only [renderItem]
    refine .attempt (fun reason => .emit rfl) fun items => ?_
    exact renderEach_offers (renderItems_offers each body) items
  | .jump target args line | .render name args hint? => by
    simp only [renderItem]
    exact .withArgs fun call => .emit rfl
  | .command command => by
    simp only [renderItem]
    exact .attempt (fun reason => .emit rfl) fun _ => .skip
  | .choice c => by
    simp only [renderItem]
    exact each c

theorem renderBranches_offers (each : ∀ c, (renderChoice ctx c : Pass Obj).Offers P) :
    (branches : List Branch) → (renderBranches ctx branches : Pass Obj).Offers P
  | [] => by
    simp only [renderBranches]
    exact .skip
  | { condition?, content } :: branches => by
    simp only [renderBranches]
    have ofContent := renderItems_offers each content
    split
    · exact ofContent
    · exact .withCondition ofContent (renderBranches_offers each branches)

theorem renderItems_offers (each : ∀ c, (renderChoice ctx c : Pass Obj).Offers P) :
    (items : List ContentItem) → (renderItems ctx items : Pass Obj).Offers P
  | [] => by
    simp only [renderItems]
    exact .skip
  | item :: items => by
    simp only [renderItems]
    exact .andThen (renderItem_offers each item) (renderItems_offers each items)

end

end Rendering

/-- Whether a choice may be offered when the one-shot choices with the given keys were taken. -/
def OfferedChoice.Untaken (consumed : List String) (c : OfferedChoice Obj) : Prop :=
  c.oneShot → c.key ∉ consumed

/-- Whether a session offers no one-shot choice that was taken. -/
def Session.OffersUntaken (s : Session Obj) : Prop :=
  ∀ position, s.position? = some position → ∀ c ∈ position.output.choices, c.Untaken s.consumed

section Showing

variable [HostObject Obj]

/-- A choice is passed over if it can be taken once and was taken. -/
lemma renderChoice_untaken (ctx : RenderContext) (c : Choice) :
    (renderChoice ctx c : Pass Obj).Offers (OfferedChoice.Untaken ctx.consumed) := by
  unfold renderChoice
  split
  · exact .skip
  · next openChoice =>
    have untaken (call : CallArgs Obj) (text : String) : (c.offer call text).Untaken ctx.consumed := by
      intro once taken
      have once' : c.oneShot = true := once
      have taken' : ctx.consumed.contains c.key = true := List.contains_iff_mem.mpr taken
      rw [once', taken'] at openChoice
      exact openChoice rfl
    have offered : (offerChoice ctx c : Pass Obj).Offers (OfferedChoice.Untaken ctx.consumed) := by
      refine .withArgs fun call s offer member => ?_
      rw [List.mem_singleton.mp member]
      exact untaken call _
    split
    · exact offered
    · exact .withCondition offered .skip

/-- A passage shows no one-shot choice that was taken. -/
lemma Passage.shown_untaken (p : Passage) (consumed : List String) (vars args : Vars Obj)
    (generator : Generator) (bindings : Bindings Obj) :
    ∀ c ∈ (p.shown consumed vars args generator bindings).1.choices, c.Untaken consumed := by
  have each (c : Choice) :
      (renderChoice ⟨p.id, consumed⟩ c : Pass Obj).Offers (OfferedChoice.Untaken consumed) :=
    renderChoice_untaken ⟨p.id, consumed⟩ c
  have all := (renderItems_offers each p.content).andThen (renderChoices_offers each p.choices)
    (Scope.start .shared vars args generator bindings)
  unfold Passage.shown Passage.render
  simp only
  split
  · exact nofun
  · intro c member
    exact all c (List.mem_mergeSort.mp member)

end Showing

/-- What was taken behind taking one more choice. -/
lemma Session.mem_consumed_consume {s : Session Obj} {key other : String} :
    other ∈ (s.consume key).consumed ↔ other = key ∨ other ∈ s.consumed := by
  unfold Session.consume
  split
  · next taken =>
    constructor
    · exact .inr
    · rintro (rfl | before)
      · exact List.contains_iff_mem.mp taken
      · exact before
  · exact List.mem_cons

lemma Session.mem_consumed_take {s : Session Obj} {choice : OfferedChoice Obj} {key : String} :
    key ∈ (s.take choice).consumed ↔ (choice.oneShot ∧ key = choice.key) ∨ key ∈ s.consumed := by
  unfold Session.take
  split
  · next once => rw [mem_consumed_consume, and_iff_right once]
  · next always =>
    constructor
    · exact .inr
    · rintro (⟨once, _⟩ | before)
      · exact (always once).elim
      · exact before

/-- Whether a saved game was saved while the one-shot choice with a key was taken. -/
def SavedGame.SavedWith (Obj : Type) [HostObject Obj] (saved : SavedGame) (key : String) : Prop :=
  ∃ (g : Game Obj) (timestamp : Nat), g.save timestamp = .ok saved ∧ g.session.isConsumed key

section Moves

variable [HostObject Obj]

lemma SavedGame.SavedWith.mem_consumed {saved : SavedGame} {key : String}
    (savedWith : saved.SavedWith Obj key) : key ∈ saved.consumed := by
  obtain ⟨g, timestamp, saves, taken⟩ := savedWith
  unfold Game.save at saves
  split at saves
  · cases saves
  · cases saves
    exact List.mem_mergeSort.mpr (List.contains_iff_mem.mp taken)

namespace Game

variable {g : Game Obj}

lemma arrive_offersUntaken {d : Departure Obj} {chain : Chain Obj} {s : Session Obj}
    (followed : g.follow d = .ok (chain, s)) : (s.arrive chain).OffersUntaken := by
  obtain ⟨p, generator, _, _, rendered⟩ := follow_last followed
  intro position same c member
  cases same
  change c ∈ chain.last.rendered.choices at member
  rw [rendered] at member
  exact p.shown_untaken _ _ _ _ _ c member

/-- No move leads to a session that offers what was taken. -/
lemma move_offersUntaken (before : g.session.OffersUntaken) (m : Move Obj) :
    (g.move m).2.session.OffersUntaken := by
  have outcome := g.outcome m
  generalize (g.move m).1 = answer at outcome
  generalize (g.move m).2.session = after at outcome ⊢
  cases outcome with
  | refused => exact before
  | stepped _ followed => exact arrive_offersUntaken followed
  | submitted values => exact before
  | set name value => exact before
  | loaded version found ofState ofArgs =>
    intro position same c member
    cases same
    exact Passage.shown_untaken _ _ _ _ _ _ c member

/-- In a reachable game no choice is offered that was taken. -/
lemma Reachable.offersUntaken {story : Story} {registry : Registry Obj}
    (reach : Reachable story registry g) : g.session.OffersUntaken := by
  induction reach with
  | start started =>
    obtain ⟨_, _, _, _, session⟩ := start_eq_ok started
    rw [session]
    exact nofun
  | move m _ ih => exact move_offersUntaken ih m

/-- What a move may do to the choices that were taken: a choice that is taken adds its key if it is a
one-shot choice, and a saved game brings its own keys. All other moves, and those that are refused, leave
them alone. -/
def Consumes (g : Game Obj) (m : Move Obj) : Prop :=
  let after := (g.move m).2.session.consumed
  match (g.move m).1, m with
  | .ok _, .choose index =>
    ∃ output choice, g.current = .ok output ∧ output.choices[index]? = some choice ∧
      ∀ key, key ∈ after ↔ (choice.oneShot ∧ key = choice.key) ∨ key ∈ g.session.consumed
  | .ok _, .load saved => ∀ key, key ∈ after ↔ key ∈ saved.consumed
  | _, _ => after = g.session.consumed

lemma move_consumes (m : Move Obj) : g.Consumes m := by
  have outcome := g.outcome m
  unfold Consumes
  generalize (g.move m).1 = answer at outcome ⊢
  generalize (g.move m).2.session = after at outcome ⊢
  cases outcome with
  | refused => rfl
  | @stepped m d chain s departs followed =>
    have same : s.consumed = d.session.consumed := follow_consumed followed
    cases departs with
    | start => exact same
    | enter id call => exact same
    | choose current chosen =>
      refine ⟨_, _, current, chosen, fun key => ?_⟩
      change key ∈ s.consumed ↔ _
      rw [same, Session.mem_consumed_take]
  | submitted values => rfl
  | set name value => rfl
  | loaded version found ofState ofArgs => exact fun key => List.mem_eraseDups

/-- What was taken stays taken, if the saved game that is loaded was saved with it. -/
lemma move_keeps_taken {key : String} (taken : key ∈ g.session.consumed) {m : Move Obj}
    (saves : ∀ saved, m = .load saved → saved.SavedWith Obj key) :
    key ∈ (g.move m).2.session.consumed := by
  have outcome := g.outcome m
  generalize (g.move m).1 = answer at outcome
  generalize (g.move m).2.session = after at outcome ⊢
  cases outcome with
  | refused => exact taken
  | @stepped m d chain s departs followed =>
    change key ∈ s.consumed
    rw [follow_consumed followed]
    cases departs with
    | start => exact taken
    | enter id call => exact taken
    | choose current chosen => exact Session.mem_consumed_take.mpr (.inr taken)
  | submitted values => exact taken
  | set name value => exact taken
  | @loaded saved =>
    have savedWith := saves saved rfl
    exact List.mem_eraseDups.mpr savedWith.mem_consumed

/-- Through a sequence of moves, what was taken stays taken and nothing is offered that was taken. -/
lemma play_keeps_taken {key : String} (untaken : g.session.OffersUntaken)
    (taken : key ∈ g.session.consumed) {moves : List (Move Obj)}
    (saves : ∀ saved, Move.load saved ∈ moves → saved.SavedWith Obj key) :
    (g.play moves).2.session.OffersUntaken ∧ key ∈ (g.play moves).2.session.consumed := by
  induction moves generalizing g with
  | nil => exact ⟨untaken, taken⟩
  | cons m moves ih =>
    have next : key ∈ (g.move m).2.session.consumed := by
      refine move_keeps_taken taken ?_
      rintro saved rfl
      exact saves saved List.mem_cons_self
    exact ih (move_offersUntaken untaken m) next fun saved later =>
      saves saved (List.mem_cons_of_mem _ later)

/-- Choices that were taken never come back. A reachable game offers no one-shot choice that was taken;
a key is added only by taking the one-shot choice with it, and otherwise only a load changes the keys. So
behind taking a one-shot choice, whatever is done, it stays taken and is never offered again, as long as
only games are loaded that were saved while it was taken. -/
theorem taken_never_comes_back {story : Story} {registry : Registry Obj}
    (reach : Reachable story registry g) :
    (∀ output, g.current = .ok output →
        ∀ c ∈ output.choices, c.oneShot → c.key ∉ g.session.consumed) ∧
      (∀ m, g.Consumes m) ∧
      ∀ index output choice warnings g', g.current = .ok output →
        output.choices[index]? = some choice → choice.oneShot →
        g.move (.choose index) = (.ok warnings, g') →
        ∀ moves : List (Move Obj), (∀ saved, .load saved ∈ moves → saved.SavedWith Obj choice.key) →
          choice.key ∈ (g'.play moves).2.session.consumed ∧
            ∀ later, (g'.play moves).2.current = .ok later →
              ∀ c ∈ later.choices, c.oneShot → c.key ≠ choice.key := by
  refine ⟨?_, move_consumes, ?_⟩
  · intro output current c member once
    obtain ⟨position, somewhere, rfl⟩ := current_eq_ok current
    exact reach.offersUntaken position somewhere c member once
  · intro index output choice warnings g' current chosen once moved moves saves
    have reach' : Reachable story registry g' := by
      have next := reach.move (.choose index)
      rwa [moved] at next
    have taken : choice.key ∈ g'.session.consumed := by
      have consumes : g.Consumes (.choose index) := move_consumes _
      unfold Consumes at consumes
      simp only [moved] at consumes
      obtain ⟨output', choice', current', chosen', keys⟩ := consumes
      rw [current] at current'
      cases current'
      rw [chosen] at chosen'
      cases chosen'
      exact (keys choice.key).mpr (.inl ⟨once, rfl⟩)
    obtain ⟨untaken, stays⟩ := play_keeps_taken reach'.offersUntaken taken saves
    refine ⟨stays, ?_⟩
    intro later now c member again same
    obtain ⟨position, somewhere, rfl⟩ := current_eq_ok now
    rw [← same] at stays
    exact untaken position somewhere c member again stays

end Game

end Moves

/-- A story with a one-shot choice inside of a block. -/
def chest : Story :=
  { version := "1.0"
    initial := "hall"
    metadata := Metadata.empty
    imports := []
    passages :=
      [("hall", ⟨"hall", [],
        [.conditional [⟨some "True", [.choice ⟨"hall#0", [.text "Open"], "hall", [], none, true, [], 3⟩]⟩]],
        [], [], []⟩)] }

def atChest : Game Toybox.Thing :=
  ((Game.opening chest Toybox.registry 7 []).move .start).2

/-- The key of a choice that is offered, and whether it can be taken once. -/
def Game.offer? (g : Game Obj) (index : Nat) : Option (String × Bool) :=
  match g.current with
  | .ok output => output.choices[index]?.map fun c => (c.key, c.oneShot)
  | .error _ => none

/-- The chest is opened once, also when the game is saved and loaded. -/
theorem chest_opens_once :
    atChest.Reachable chest Toybox.registry ∧ atChest.offer? 0 = some ("hall#0", true) ∧
      ∃ warnings opened saved, atChest.move (.choose 0) = (.ok warnings, opened) ∧
        opened.save 0 = .ok saved ∧
        ∀ later, (opened.play [.load saved, .start]).2.current = .ok later →
          ∀ c ∈ later.choices, c.oneShot → c.key ≠ "hall#0" := by
  have reach : atChest.Reachable chest Toybox.registry :=
    .move .start (.opening _ _ _ (by decide +kernel))
  have offered : atChest.offer? 0 = some ("hall#0", true) := by decide +kernel
  have made : (atChest.move (.choose 0)).1.isOk := by decide +kernel
  have taken : (atChest.move (.choose 0)).2.session.isConsumed "hall#0" := by decide +kernel
  have saves : ((atChest.move (.choose 0)).2.save 0).isOk := by decide +kernel
  refine ⟨reach, offered, ?_⟩
  obtain ⟨_, _, stays⟩ := Game.taken_never_comes_back reach
  unfold Game.offer? at offered
  split at offered
  · next output current =>
    obtain ⟨choice, chosen, same⟩ := Option.map_eq_some_iff.mp offered
    obtain ⟨key, once⟩ := Prod.mk.inj same
    rcases moved : atChest.move (.choose 0) with ⟨reason | warnings, opened⟩
    · rw [moved] at made
      cases made
    · rw [moved] at saves taken
      cases saved : opened.save 0 with
      | error reason =>
        rw [saved] at saves
        cases saves
      | ok document =>
        refine ⟨warnings, opened, document, rfl, saved, ?_⟩
        rw [← key] at taken ⊢
        refine (stays 0 output choice warnings opened current chosen once moved
          [.load document, .start] fun other member => ?_).2
        rcases List.mem_cons.mp member with load | start
        · cases load
          exact ⟨opened, 0, saved, taken⟩
        · cases List.mem_singleton.mp start
  · cases offered

end BranchingStory
