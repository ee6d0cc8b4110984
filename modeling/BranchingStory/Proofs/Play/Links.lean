import BranchingStory.Host.Toybox
import BranchingStory.Proofs.Play.Calls
import BranchingStory.Proofs.Play.Loading
import BranchingStory.Proofs.Play.Reachable
import BranchingStory.Proofs.Play.Shown
import BranchingStory.Proofs.Source.Compiled

/-!
# Links that lead somewhere

In a compiled story every link was checked against the passage it leads to. So the jumps that rendering
comes to, and the choices that it offers, can be followed: in no reachable game, also behind a load,
is a passage unknown or a call refused that a link made.
-/

namespace BranchingStory

open Script Source

variable {Obj : Type}

/-- Whether a passage can be entered with a call. -/
def Story.Takes (story : Story) (target : String) (call : CallArgs Obj) : Prop :=
  ∃ p, story.passage? target = some p ∧ CallFits p.params call

/-- What the compiler makes sure of: each passage has its own id and differently named parameters, and
all links can be followed. -/
structure Story.Linked (story : Story) : Prop where
  id : ∀ {id p}, story.passage? id = some p → p.id = id
  names : ∀ {id p}, story.passage? id = some p → (p.params.map (·.name)).Nodup
  links : ∀ {target args}, Piece.link target args ∈ story.pieces → LinkFits story.params target args

lemma Story.CompiledFrom.linked {e : Expansion} {story : Story} (compiled : story.CompiledFrom e) :
    story.Linked :=
  ⟨compiled.id_eq, compiled.names_nodup, compiled.known _⟩

/-- Whether all choices and the jump of what was rendered can be followed. -/
abbrev Rendered.Leads (story : Story) (r : Rendered Obj) : Prop :=
  r.Shows story.Takes

section Rendering

variable [HostObject Obj] {story : Story}

/-- A call that the arguments of a checked link make can be made. -/
lemma takes_of_linkFits {target : String} {args : List Arg} (fits : LinkFits story.params target args)
    {call : CallArgs Obj} {s s' : Scope Obj}
    (evaluated : evalArgs CallArgs.none args s = (.ok call, s')) : story.Takes target call := by
  obtain ⟨expected, found, checked⟩ := fits
  rw [story.get?_params, Option.map_eq_some_iff] at found
  obtain ⟨p, found, rfl⟩ := found
  exact ⟨p, found, callFits_of_checkArity checked evaluated⟩

/-- A passage of a linked story shows nothing but choices and jumps that can be followed. -/
lemma Story.Linked.shown (linked : story.Linked) {id : String} {p : Passage}
    (found : story.passage? id = some p) (consumed : List String) (vars args : Vars Obj)
    (generator : Generator) (bindings : Bindings Obj) :
    (p.shown consumed vars args generator bindings).1.Leads story := by
  refine p.shown_shows ?_ consumed vars args generator bindings
  intro target args member s s' call evaluated
  exact takes_of_linkFits (linked.links (Story.mem_pieces found member)) evaluated

end Rendering

/-- The refusals of a chain that was entered rightly: a fragment that fails, or passages in a circle. -/
inductive PlayError.OfChain : PlayError → Prop where
  | evaluation (passage code : String) (cause : EvalError) : OfChain (.evaluation passage code cause)
  | jumpCycle (chain : List String) : OfChain (.navigation (.jumpCycle chain))

/-- The refusals of a step into a passage: besides those of a chain, what is wrong with the call of its
first passage. -/
inductive PlayError.OfEntry (story : Story) (id : String) (call : CallArgs Obj) : PlayError → Prop where
  | chain {reason} : OfChain reason → OfEntry story id call reason
  | call {fault} : CallFault story id call fault → OfEntry story id call (.navigation fault)

inductive PlayError.OfChoice : PlayError → Prop where
  | chain {reason} : OfChain reason → OfChoice reason
  | notStarted : OfChoice .notStarted
  | noSuchChoice (index available : Nat) : OfChoice (.noSuchChoice index available)

section Following

variable [HostObject Obj] {story : Story} {bindings : Bindings Obj}

/-- A hop fails in a fragment, or for what is wrong with its call. -/
lemma Story.Linked.hop_error (linked : story.Linked) {id : String} {p : Passage}
    (found : story.passage? id = some p) {call : CallArgs Obj} {s : Session Obj} {reason : PlayError}
    (failed : hop bindings id p call s = .error reason) :
    (∃ code cause, reason = .evaluation p.id code cause) ∨
      ∃ fault, CallFault story id call fault ∧ reason = .navigation fault := by
  obtain ⟨scope, entered⟩ := hop_eq_error failed
  have own : p.id = id := linked.id found
  subst own
  exact enter_error found (linked.names found) entered

lemma Story.Linked.hop_leads (linked : story.Linked) {id : String} {p : Passage}
    (found : story.passage? id = some p) {call : CallArgs Obj} {s s' : Session Obj} {stop : Hop Obj}
    (hopped : hop bindings id p call s = .ok (stop, s')) : stop.rendered.Leads story := by
  obtain ⟨scope, _, rfl, _⟩ := hop_eq_ok hopped
  exact linked.shown found _ _ _ _ _

/-- A chain of a linked story is refused for its first call, or inside of passages. -/
theorem Story.Linked.follow_error (linked : story.Linked) {visited : List String} {id : String}
    {call : CallArgs Obj} {s : Session Obj} {reason : PlayError}
    (failed : follow story bindings visited id call s = .error reason) :
    PlayError.OfEntry story id call reason := by
  fun_induction follow story bindings visited id call s with
  | case1 visited id call s seen =>
    cases failed
    exact .chain (.jumpCycle _)
  | case2 visited id call s new absent =>
    cases failed
    exact .call (.unknownPassage absent)
  | case3 visited id call s new p found reason' stopped =>
    cases failed
    rcases linked.hop_error found stopped with ⟨code, cause, rfl⟩ | ⟨fault, wrong, rfl⟩
    · exact .chain (.evaluation _ _ _)
    · exact .call wrong
  | case4 => cases failed
  | case5 visited id call s new p found stop s' hopped jump jumps reason' later ih =>
    cases failed
    cases ih later with
    | chain ofChain => exact .chain ofChain
    | call wrong =>
      -- The jump came out of rendering, so that its call fits.
      obtain ⟨q, known, fits⟩ := (linked.hop_leads found hopped).jump jump jumps
      have own : q.id = jump.target := linked.id known
      rw [← own] at known wrong
      exact (fits.no_fault known wrong).elim
  | case6 => cases failed

/-- A chain into a call that can be made is refused inside of passages only. -/
lemma Story.Linked.follow_taken (linked : story.Linked) {visited : List String} {id : String}
    {call : CallArgs Obj} (takes : story.Takes id call) {s : Session Obj} {reason : PlayError}
    (failed : follow story bindings visited id call s = .error reason) : reason.OfChain := by
  cases linked.follow_error failed with
  | chain ofChain => exact ofChain
  | call wrong =>
    obtain ⟨p, found, fits⟩ := takes
    have own : p.id = id := linked.id found
    subst own
    exact (fits.no_fault found wrong).elim

lemma Story.Linked.follow_leads (linked : story.Linked) {visited : List String} {id : String}
    {call : CallArgs Obj} {s s' : Session Obj} {chain : Chain Obj}
    (followed : follow story bindings visited id call s = .ok (chain, s')) :
    chain.last.rendered.Leads story := by
  fun_induction follow story bindings visited id call s generalizing chain s' with
  | case1 | case2 | case3 | case5 => cases followed
  | case4 visited id call s new p found stop s₁ hopped stays =>
    cases followed
    exact linked.hop_leads found hopped
  | case6 visited id call s new p found stop s₁ hopped jump jumps chain' s₂ later ih =>
    cases followed
    have atEnd := ih later
    exact atEnd

end Following

/-- Whether all choices that a session offers can be followed. -/
def Session.Offers (story : Story) (s : Session Obj) : Prop :=
  ∀ position, s.position? = some position → ∀ c ∈ position.output.choices, story.Takes c.target c.args

namespace Game

variable [HostObject Obj] {story : Story} {registry : Registry Obj} {g : Game Obj}

lemma load_offers (linked : g.story.Linked) {saved : SavedGame} {s : Session Obj}
    {warnings : List String} (loaded : g.load saved = .ok (s, warnings)) : s.Offers g.story := by
  rw [load_eq] at loaded
  split at loaded
  · cases loaded
  · split at loaded
    · cases loaded
    · next p found =>
      split at loaded
      · cases loaded
      · split at loaded
        · cases loaded
        · cases loaded
          intro position same
          cases same
          exact (linked.shown found _ _ _ _ _).choices

lemma move_offers (linked : g.story.Linked) (before : g.session.Offers g.story) (m : Move Obj) :
    (g.move m).2.session.Offers g.story := by
  -- What a step offers is what the last passage of its chain shows, from wherever it departs.
  have departed {d : Departure Obj} (departs : g.Departs m d) :
      (g.move m).2.session.Offers g.story := by
    rw [g.move_eq, departs.after_eq]
    cases followed : g.follow d with
    | error reason => exact before
    | ok result =>
      intro position same
      cases same
      exact (linked.follow_leads followed).choices
  cases m with
  | start => exact departed .start
  | enter id call => exact departed (.enter id call)
  | choose index =>
    rcases g.departs_or_refused (m := .choose index) rfl with ⟨d, departs⟩ | ⟨reason, refused, _⟩
    · exact departed departs
    · rw [g.move_eq, refused]
      exact before
  | submit values => exact before
  | setVar name value => exact before
  | load saved =>
    rw [g.move_eq]
    simp only [after]
    cases loaded : g.load saved with
    | error fault => exact before
    | ok result => exact load_offers linked loaded

/-- In a reachable game all choices can be followed. -/
lemma Reachable.offers (linked : story.Linked) (reach : Reachable story registry g) :
    g.session.Offers story := by
  induction reach with
  | start started =>
    obtain ⟨_, _, _, _, session⟩ := start_eq_ok started
    rw [session]
    exact nofun
  | @move g m reach ih =>
    obtain ⟨rfl, _, _⟩ := reach.fixed
    exact move_offers linked ih m

/-- Links never fail in a story that was compiled. In a reachable game a choice is refused only because
there is none, in a fragment or for passages in a circle; starting or entering a passage is refused for
what is wrong with the call of the first passage besides, and never for a passage behind a jump. -/
theorem links_never_fail {e : Expansion} (compiled : story.CompiledFrom e)
    (reach : Reachable story registry g) {m : Move Obj} {reason : PlayError}
    (refused : (g.move m).1 = .error reason) :
    match m with
    | .choose _ => reason.OfChoice
    | .start => reason.OfEntry story story.initial (CallArgs.none : CallArgs Obj)
    | .enter id call => reason.OfEntry story id call
    | .submit _ | .setVar .. | .load _ => True := by
  have linked := compiled.linked
  obtain ⟨rfl, _, _⟩ := reach.fixed
  rw [g.move_eq] at refused
  have followed {d : Departure Obj} (departs : g.Departs m d) : g.follow d = .error reason := by
    rw [departs.after_eq] at refused
    cases result : g.follow d with
    | error reason =>
      rw [result] at refused
      cases refused
      rfl
    | ok _ =>
      rw [result] at refused
      cases refused
  cases m with
  | start => exact linked.follow_error (followed .start)
  | enter id call => exact linked.follow_error (followed (.enter id call))
  | choose index =>
    rcases g.departs_or_refused (m := .choose index) rfl with ⟨d, departs⟩ | ⟨reason', missing, which⟩
    · -- A choice departs with a call that the session offers, and such a call can be made.
      have failed := followed departs
      cases departs with
      | choose current chosen =>
        obtain ⟨position, somewhere, rfl⟩ := current_eq_ok current
        exact .chain (linked.follow_taken (reach.offers linked position somewhere _
          (List.mem_of_getElem? chosen)) failed)
    · rw [missing] at refused
      cases refused
      rcases which with rfl | ⟨index, available, rfl⟩
      · exact .notStarted
      · exact .noSuchChoice _ _
  | submit | setVar | load => trivial

end Game

/-- The lines of a story whose second passage jumps to itself. -/
def hallLines : Expansion :=
  ⟨[⟨inlineLabel, 1, ":: Start".toList⟩, ⟨inlineLabel, 2, "+ [Go] -> Hall(1)".toList⟩,
    ⟨inlineLabel, 3, ":: Hall(n)".toList⟩, ⟨inlineLabel, 4, "-> Hall(n)".toList⟩], [], []⟩

def hall : Story :=
  hallLines.story

def inHall : Game Toybox.Thing :=
  ((Game.opening hall Toybox.registry 7 []).move .start).2

/-- The choice of this story is refused for its circle, and not for its links. -/
theorem links_never_fail_in_hall :
    hallLines = expandText ⟨fun _ => .error Files.missing, []⟩
        ":: Start\n+ [Go] -> Hall(1)\n:: Hall(n)\n-> Hall(n)\n" ∧
      hall.CompiledFrom hallLines ∧ inHall.Reachable hall Toybox.registry ∧
      ∃ reason, (inHall.move (.choose 0)).1 = .error reason ∧ reason.OfChoice := by
  have compiled : hall.CompiledFrom hallLines := hallLines.compiledFrom (by decide +kernel)
  have reach : inHall.Reachable hall Toybox.registry :=
    .move .start (.opening _ _ _ (by decide +kernel))
  have refused : (inHall.move (.choose 0)).1.isOk = false := by decide +kernel
  refine ⟨by cbv, compiled, reach, ?_⟩
  cases answer : (inHall.move (.choose 0)).1 with
  | ok warnings =>
    rw [answer] at refused
    cases refused
  | error reason => exact ⟨reason, rfl, Game.links_never_fail compiled reach answer⟩

end BranchingStory
