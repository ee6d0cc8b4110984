import Mathlib.Data.List.Nodup
import Mathlib.Data.List.Perm.Subperm
import BranchingStory.Host.Toybox
import BranchingStory.Proofs.Play.Calls
import BranchingStory.Proofs.Play.Chain
import BranchingStory.Proofs.Play.Reachable

/-!
# Chains of jumps

A step through passages as a relation: parameters are bound and commands executed one after the other,
the passage is shown with what they left, and its jump leads to the next departure. A journey is what
such hops lead to, as long as no passage is visited twice; so it has at most one hop for each passage of
the story. Entering a passage comes to exactly the end of its journey: it arrives where there is no jump,
or it is refused where the next passage was visited before, is unknown or cannot be entered.
-/

namespace BranchingStory

open Script

variable {Obj : Type} [HostObject Obj]

/-- Parameters are bound in order: to the positional arguments, then by name, then to their defaults,
which are evaluated behind the parameters in front of them. -/
inductive Binds :
    List Param → List (Value Obj) → List (String × Value Obj) → Scope Obj → Scope Obj → Prop where
  | done {positional named s} :
    Binds [] positional named s s
  | positional {p params value positional named s s'} :
    Binds params positional named (s.setLocal p.name value) s' →
    Binds (p :: params) (value :: positional) named s s'
  | named {p params named value s s'} :
    Assoc.get? named p.name = some value →
    Binds params [] (Assoc.erase named p.name) (s.setLocal p.name value) s' →
    Binds (p :: params) [] named s s'
  | default {p params named code value s s₁ s'} :
    Assoc.get? named p.name = none →
    p.default? = some code →
    evalSource code s = (.ok value, s₁) →
    Binds params [] named (s₁.setLocal p.name value) s' →
    Binds (p :: params) [] named s s'

/-- Commands are executed once each, in order. -/
inductive Executes : List Command → Scope Obj → Scope Obj → Prop where
  | done {s} :
    Executes [] s s
  | command {command commands s s₁ s'} :
    execSource command.source s = (.ok (), s₁) →
    Executes commands s₁ s' →
    Executes (command :: commands) s s'

/-- A departure hops through its passage: the parameters are bound on the session, then the commands are
executed, and then the passage is shown with the variables and arguments that they left. -/
inductive Visits (story : Story) (bindings : Bindings Obj) (d : Departure Obj) :
    Hop Obj → Session Obj → Prop where
  | hop {p bound entered rendered generator} :
    story.passage? d.id = some p →
    p.checkCall d.call = .ok () →
    Binds p.params d.call.positional d.call.named (d.session.entryScope bindings) bound →
    Executes p.execute bound entered →
    p.shown d.session.consumed entered.state entered.base entered.generator bindings =
      (rendered, generator) →
    Visits story bindings d ⟨d.id, entered.base, rendered⟩
      { d.session with vars := entered.state, generator }

/-- The hops that were made since the start, and the next departure. Only passages are hopped through that
were not visited before. -/
inductive Journey (story : Story) (bindings : Bindings Obj) (start : Departure Obj) :
    List (Hop Obj) → Departure Obj → Prop where
  | start :
    Journey story bindings start [] start
  | jump {hops d stop s jump} :
    Journey story bindings start hops d →
    d.id ∉ hops.map (·.id) →
    Visits story bindings d stop s →
    stop.rendered.jump? = some jump →
    Journey story bindings start (hops ++ [stop]) ⟨s, jump.target, jump.args⟩

/-- What a journey ends with behind its hops and in front of its last departure. -/
inductive Ends (story : Story) (bindings : Bindings Obj) (hops : List (Hop Obj)) (d : Departure Obj) :
    Except PlayError (Session Obj) → Prop where
  | arrives {last s} :
    d.id ∉ hops.map (·.id) →
    Visits story bindings d last s →
    last.rendered.jump? = none →
    Ends story bindings hops d (.ok (s.arrive ⟨hops, last⟩))
  | circle :
    d.id ∈ hops.map (·.id) →
    Ends story bindings hops d (.error (.navigation (.jumpCycle (hops.map (·.id) ++ [d.id]))))
  | unknown :
    d.id ∉ hops.map (·.id) →
    story.passage? d.id = none →
    Ends story bindings hops d (.error (.navigation (.unknownPassage d.id)))
  | refused {p reason scope} :
    d.id ∉ hops.map (·.id) →
    story.passage? d.id = some p →
    p.enter d.call (d.session.entryScope bindings) = (.error reason, scope) →
    Ends story bindings hops d (.error reason)

section Entering

variable {passage : String} {s s' : Scope Obj}

omit [HostObject Obj] in
lemma fragment_eq_ok {α : Type} {code : String} {computation : EvalM Obj α} {a : α} :
    EntryM.fragment passage code computation s = (.ok a, s') ↔ computation s = (.ok a, s') := by
  unfold EntryM.fragment
  rcases (computation s : Except EvalError α × Scope Obj) with ⟨reason | b, s₁⟩
  · exact ⟨nofun, nofun⟩
  · constructor
    · intro same
      cases same
      rfl
    · intro same
      cases same
      rfl

/-- Binding parameters succeeds just as the relation says. -/
lemma bindParams_eq_ok {params : List Param} {positional : List (Value Obj)}
    {named : List (String × Value Obj)} :
    bindParams passage params positional named s = (.ok (), s') ↔
      Binds params positional named s s' := by
  constructor
  · intro bound
    induction params generalizing positional named s with
    | nil =>
      cases bound
      exact .done
    | cons p params ih =>
      cases positional with
      | cons value positional =>
        rw [bindParams, bind_apply] at bound
        exact .positional (ih bound)
      | nil =>
        cases given : Assoc.get? named p.name with
        | some value =>
          simp only [bindParams, given, bind_apply] at bound
          exact .named given (ih bound)
        | none =>
          cases default : p.default? with
          | some code =>
            simp only [bindParams, given, default] at bound
            obtain ⟨value, s₁, evaluated, rest⟩ := bind_apply_eq_ok.mp bound
            rw [bind_apply] at rest
            exact .default given default (fragment_eq_ok.mp evaluated) (ih rest)
          | none =>
            simp only [bindParams, given, default] at bound
            cases bound
  · intro binds
    induction binds with
    | done => rw [bindParams]; rfl
    | positional _ ih =>
      rw [bindParams, bind_apply]
      exact ih
    | named given _ ih =>
      simp only [bindParams, given, bind_apply]
      exact ih
    | default absent default evaluated _ ih =>
      simp only [bindParams, absent, default]
      refine bind_apply_eq_ok.mpr ⟨_, _, fragment_eq_ok.mpr evaluated, ?_⟩
      rw [bind_apply]
      exact ih

lemma runCommands_eq_ok {commands : List Command} :
    runCommands passage commands s = (.ok (), s') ↔ Executes commands s s' := by
  constructor
  · intro ran
    induction commands generalizing s with
    | nil =>
      cases ran
      exact .done
    | cons command commands ih =>
      obtain ⟨_, s₁, first, rest⟩ := bind_apply_eq_ok.mp ran
      exact .command (fragment_eq_ok.mp first) (ih rest)
  · intro executes
    induction executes with
    | done => rfl
    | command first _ ih => exact bind_apply_eq_ok.mpr ⟨_, _, fragment_eq_ok.mpr first, ih⟩

lemma enter_apply (p : Passage) (call : CallArgs Obj) (s : Scope Obj) :
    p.enter call s =
      match p.checkCall call with
      | .error fault => (.error (.navigation fault), s)
      | .ok () =>
        (bindParams p.id p.params call.positional call.named >>= fun _ => runCommands p.id p.execute)
          s := by
  unfold Passage.enter
  cases p.checkCall call <;> rfl

/-- A passage is entered if its call is accepted, its parameters are bound and its commands executed. -/
lemma enter_eq_ok {p : Passage} {call : CallArgs Obj} {s s' : Scope Obj} :
    p.enter call s = (.ok (), s') ↔
      p.checkCall call = .ok () ∧
        ∃ bound, Binds p.params call.positional call.named s bound ∧ Executes p.execute bound s' := by
  rw [enter_apply]
  cases p.checkCall call with
  | error fault => exact ⟨nofun, nofun⟩
  | ok _ =>
    constructor
    · intro entered
      obtain ⟨_, bound, binds, executes⟩ := bind_apply_eq_ok.mp entered
      exact ⟨rfl, bound, bindParams_eq_ok.mp binds, runCommands_eq_ok.mp executes⟩
    · rintro ⟨_, bound, binds, executes⟩
      exact bind_apply_eq_ok.mpr
        ⟨(), bound, bindParams_eq_ok.mpr binds, runCommands_eq_ok.mpr executes⟩

omit [HostObject Obj] in
lemma checkCall_no_circle {p : Passage} {call : CallArgs Obj} {chain : List String} :
    p.checkCall call ≠ .error (.jumpCycle chain) := by
  unfold Passage.checkCall
  intro refused
  simp only at refused
  split at refused
  · cases refused
  · split at refused
    · cases refused
    · split at refused <;> cases refused

lemma bindParams_no_circle {passage : String} {params : List Param} {positional : List (Value Obj)}
    {named : List (String × Value Obj)} {s s' : Scope Obj} {chain : List String} :
    bindParams passage params positional named s ≠ (.error (.navigation (.jumpCycle chain)), s') := by
  induction params generalizing positional named s with
  | nil => exact nofun
  | cons p params ih =>
    intro failed
    cases positional with
    | cons value positional =>
      rw [bindParams, bind_apply] at failed
      exact ih failed
    | nil =>
      cases given : Assoc.get? named p.name with
      | some value =>
        simp only [bindParams, given, bind_apply] at failed
        exact ih failed
      | none =>
        cases default : p.default? with
        | some code =>
          simp only [bindParams, given, default] at failed
          rcases bind_eq_error failed with inDefault | ⟨value, s₁, _, rest⟩
          · obtain ⟨cause, same⟩ := fragment_error inDefault
            cases same
          · exact ih rest
        | none =>
          simp only [bindParams, given, default] at failed
          cases failed

/-- Entering a single passage is never refused for a circle. -/
lemma enter_no_circle {p : Passage} {call : CallArgs Obj} {s s' : Scope Obj} {chain : List String} :
    p.enter call s ≠ (.error (.navigation (.jumpCycle chain)), s') := by
  rw [enter_apply]
  cases checked : p.checkCall call with
  | error fault =>
    intro refused
    cases refused
    exact checkCall_no_circle checked
  | ok _ =>
    intro failed
    rcases bind_eq_error failed with unbound | ⟨_, s₁, _, ran⟩
    · exact bindParams_no_circle unbound
    · obtain ⟨code, cause, same⟩ := runCommands_error ran
      cases same

end Entering

section Hopping

variable {story : Story} {bindings : Bindings Obj} {d : Departure Obj} {stop : Hop Obj}
  {s : Session Obj}

/-- A departure visits the passage that it hops through. -/
lemma visits_iff {p : Passage} (found : story.passage? d.id = some p) :
    Visits story bindings d stop s ↔ hop bindings d.id p d.call d.session = .ok (stop, s) := by
  constructor
  · rintro ⟨found', accepted, binds, executes, shown⟩
    rw [found] at found'
    cases found'
    rw [hop_eq, enter_eq_ok.mpr ⟨accepted, _, binds, executes⟩]
    simp only [shown]
  · intro hopped
    obtain ⟨entered, ran, rfl, rfl⟩ := hop_eq_ok hopped
    obtain ⟨accepted, bound, binds, executes⟩ := enter_eq_ok.mp ran
    exact .hop found accepted binds executes rfl

lemma Visits.passage (visits : Visits story bindings d stop s) :
    ∃ p, story.passage? d.id = some p := by
  obtain ⟨found⟩ := visits
  exact ⟨_, found⟩

lemma Visits.id (visits : Visits story bindings d stop s) : stop.id = d.id := by
  cases visits
  rfl

end Hopping

/-- Hops through passages of the story, through none of them twice. -/
structure OnceEach (story : Story) (hops : List (Hop Obj)) : Prop where
  known : ∀ id ∈ hops.map (·.id), (story.passage? id).isSome
  distinct : (hops.map (·.id)).Nodup

section Journeys

variable {story : Story} {bindings : Bindings Obj} {start d : Departure Obj} {hops : List (Hop Obj)}

namespace OnceEach

omit [HostObject Obj] in
lemma nil : OnceEach story ([] : List (Hop Obj)) :=
  ⟨nofun, List.nodup_nil⟩

lemma visit (once : OnceEach story hops) (new : d.id ∉ hops.map (·.id)) {stop : Hop Obj}
    {s : Session Obj} (visits : Visits story bindings d stop s) : OnceEach story (hops ++ [stop]) := by
  have ids : (hops ++ [stop]).map (·.id) = hops.map (·.id) ++ [d.id] := by
    rw [List.map_append, List.map_singleton, visits.id]
  constructor
  · intro id member
    rw [ids] at member
    rcases List.mem_append.mp member with before | last
    · exact once.known id before
    · obtain ⟨p, found⟩ := visits.passage
      rw [List.mem_singleton.mp last, found]
      rfl
  · rw [ids, ← List.concat_eq_append]
    exact List.Nodup.concat new once.distinct

omit [HostObject Obj] in
/-- There are no more such hops than passages. -/
lemma length_le (once : OnceEach story hops) : hops.length ≤ story.passages.length := by
  have sub : hops.map (·.id) ⊆ Assoc.keys story.passages := by
    intro id member
    obtain ⟨p, found⟩ := Option.isSome_iff_exists.mp (once.known id member)
    exact Story.mem_keys_of_passage? found
  have few := (List.subperm_of_subset once.distinct sub).length_le
  rwa [List.length_map, Assoc.keys, List.length_map] at few

end OnceEach

namespace Journey

lemma once (journey : Journey story bindings start hops d) : OnceEach story hops := by
  induction journey with
  | start => exact .nil
  | jump _ new visits _ ih => exact ih.visit new visits

/-- A journey begins with its start. -/
lemma head (journey : Journey story bindings start hops d) :
    (hops.map (·.id) ++ [d.id]).head? = some start.id := by
  induction journey with
  | start => rfl
  | @jump hops d stop s jump _ _ visits _ ih =>
    rw [List.map_append, List.map_singleton, visits.id]
    cases hops with
    | nil => exact ih
    | cons first rest => exact ih

/-- The chain from the start of a journey is that from its last departure, behind the hops of the
journey. -/
lemma follow_eq (journey : Journey story bindings start hops d) :
    follow story bindings [] start.id start.call start.session =
      (follow story bindings (hops.map (·.id)) d.id d.call d.session).map fun (chain, s) =>
        (⟨hops ++ chain.passed, chain.last⟩, s) := by
  induction journey with
  | start =>
    rw [List.map_nil]
    cases follow story bindings [] start.id start.call start.session <;> rfl
  | @jump hops d stop s jump _ new visits jumps ih =>
    obtain ⟨p, found⟩ := visits.passage
    rw [ih, follow_found new found, (visits_iff found).mp visits]
    simp only [jumps, List.map_append, List.map_singleton, visits.id]
    cases follow story bindings (hops.map (·.id) ++ [d.id]) jump.target jump.args s with
    | error reason => rfl
    | ok result =>
      obtain ⟨chain, s'⟩ := result
      simp only [Except.map, Chain.cons, List.append_assoc, List.singleton_append]

/-- Every journey goes on to an end. -/
lemma comes_to_end (journey : Journey story bindings start hops d) :
    ∃ hops d result, Journey story bindings start hops d ∧ Ends story bindings hops d result := by
  obtain ⟨s, id, call⟩ := d
  generalize passed : hops.map (·.id) = visited
  fun_induction follow story bindings visited id call s generalizing hops with
  | case1 visited id call s seen =>
    subst passed
    exact ⟨hops, _, _, journey, .circle seen⟩
  | case2 visited id call s new absent =>
    subst passed
    exact ⟨hops, _, _, journey, .unknown new absent⟩
  | case3 visited id call s new p found reason stopped =>
    subst passed
    obtain ⟨scope, failed⟩ := hop_eq_error stopped
    exact ⟨hops, _, _, journey, .refused new found failed⟩
  | case4 visited id call s new p found stop s' hopped stays =>
    subst passed
    exact ⟨hops, _, _, journey, .arrives new ((visits_iff found).mpr hopped) stays⟩
  | case5 visited id call s new p found stop s' hopped jump jumps reason later ih
  | case6 visited id call s new p found stop s' hopped jump jumps chain s'' later ih =>
    subst passed
    have visits : Visits story bindings ⟨s, id, call⟩ stop s' := (visits_iff found).mpr hopped
    exact ih (journey.jump new visits jumps) (by rw [List.map_append, List.map_singleton, visits.id])

/-- A step through passages gives the end of its journey. -/
lemma advance_eq (journey : Journey story bindings start hops d)
    {result : Except PlayError (Session Obj)} (ends : Ends story bindings hops d result) :
    start.session.advance story bindings start.id start.call = result := by
  unfold Session.advance
  rw [journey.follow_eq]
  cases ends with
  | @arrives last s new visits stays =>
    obtain ⟨p, found⟩ := visits.passage
    rw [follow_found new found, (visits_iff found).mp visits]
    simp only [stays, Except.map, List.append_nil]
    rfl
  | circle seen => rw [follow_seen seen]; rfl
  | unknown new absent => rw [follow_absent new absent]; rfl
  | @refused p reason scope new found failed =>
    rw [follow_found new found, hop_eq, failed]
    rfl

end Journey

end Journeys

/-- An output that tells of hops: of each in order what it brought forth, and the choices of the last
one. -/
structure Output.Tells (o : Output Obj) (passed : List (Hop Obj)) (last : Hop Obj) : Prop where
  passage : o.passage = last.id
  visited : o.visited = (passed ++ [last]).map (·.id)
  content : o.content = String.join ((passed ++ [last]).map (·.rendered.content))
  directives : o.directives = (passed ++ [last]).flatMap (·.rendered.directives)
  inputs : o.inputs = (passed ++ [last]).flatMap (·.rendered.inputs)
  warnings : o.warnings = (passed ++ [last]).flatMap (·.rendered.warnings)
  choices : o.choices = last.rendered.choices

/-- The journeys of a game that enters a passage. -/
abbrev Game.Journeys (g : Game Obj) (id : String) (call : CallArgs Obj) :
    List (Hop Obj) → Departure Obj → Prop :=
  Journey g.story g.bindings ⟨g.session, id, call⟩

/-- Entering a passage ends its journey, which has at most one hop for each passage of the story. Where
it arrives, the output tells of the hops: their passages begin with the entered one, are all known and
distinct, and end where the session is. It is refused for a circle just if the next passage was visited
before, and is told the distinct passages with the repeated one behind them. -/
theorem Game.enter_ends_journey (g : Game Obj) (id : String) (call : CallArgs Obj) :
    (∀ hops d, g.Journeys id call hops d → hops.length ≤ g.story.passages.length) ∧
      (∃ hops d, g.Journeys id call hops d ∧ Ends g.story g.bindings hops d (g.enter id call)) ∧
      (∀ s, g.enter id call = .ok s →
        ∃ hops d last s' output, g.Journeys id call hops d ∧ d.id ∉ hops.map (·.id) ∧
          Visits g.story g.bindings d last s' ∧ last.rendered.jump? = none ∧
          s = { s' with position? := some ⟨last.id, last.args, output⟩ } ∧ output.Tells hops last ∧
          output.visited.head? = some id ∧ output.visited.getLast? = some output.passage ∧
          output.visited.Nodup ∧ (∀ visited ∈ output.visited, (g.story.passage? visited).isSome) ∧
          output.visited.length ≤ g.story.passages.length) ∧
      ∀ chain, g.enter id call = .error (.navigation (.jumpCycle chain)) ↔
        ∃ hops d, g.Journeys id call hops d ∧ (hops.map (·.id)).Nodup ∧ d.id ∈ hops.map (·.id) ∧
          chain = hops.map (·.id) ++ [d.id] := by
  obtain ⟨hops, d, result, journey, ends⟩ :=
    (Journey.start : g.Journeys id call [] ⟨g.session, id, call⟩).comes_to_end
  have entered : g.enter id call = result := journey.advance_eq ends
  rw [entered]
  refine ⟨fun hops d journey => journey.once.length_le, ⟨hops, d, journey, ends⟩, ?_, ?_⟩
  · rintro s rfl
    cases ends with
    | @arrives last s' new visits stays =>
      have once := journey.once.visit new visits
      have tells : Output.Tells (Chain.output ⟨hops, last⟩) hops last :=
        ⟨rfl, rfl, rfl, rfl, rfl, rfl, rfl⟩
      refine ⟨hops, d, last, s', _, journey, new, visits, stays, rfl, tells, ?_, ?_, ?_, ?_, ?_⟩
      · rw [tells.visited, List.map_append, List.map_singleton, visits.id]
        exact journey.head
      · rw [tells.visited, tells.passage, List.map_append, List.map_singleton, List.getLast?_concat]
      · rw [tells.visited]
        exact once.distinct
      · rw [tells.visited]
        exact once.known
      · rw [tells.visited, List.length_map]
        exact once.length_le
  · intro chain
    constructor
    · rintro rfl
      generalize circling : (Except.error (.navigation (.jumpCycle chain)) :
        Except PlayError (Session Obj)) = result at ends
      cases ends with
      | arrives => cases circling
      | circle seen =>
        cases circling
        exact ⟨hops, d, journey, journey.once.distinct, seen, rfl⟩
      | unknown => cases circling
      | refused _ _ failed =>
        cases circling
        exact (enter_no_circle failed).elim
    · rintro ⟨hops, d, journey, _, seen, rfl⟩
      rw [← entered]
      exact journey.advance_eq (.circle seen)

/-- A story whose yard leads over a lane to a barn, or back to itself. -/
def farm : Story :=
  { version := "1.0"
    initial := "yard"
    metadata := Metadata.empty
    imports := []
    passages :=
      [("yard", ⟨"yard", [⟨"n", none⟩], [.text "Yard. ", .jump "lane" [⟨none, "n"⟩] 3], [],
          [.assign "paces" .set "n" 2], []⟩),
        ("lane", ⟨"lane", [⟨"n", none⟩],
          [.conditional [⟨some "n == 0", [.jump "yard" [⟨none, "paces"⟩] 5]⟩], .text "Lane. ",
            .jump "barn" [] 7], [], [], []⟩),
        ("barn", ⟨"barn", [], [.text "Barn."],
          [⟨"barn#0", [.text "back"], "yard", [⟨none, "0"⟩], none, false, [], 9⟩], [], []⟩)] }

def atFarm : Game Toybox.Thing :=
  Game.opening farm Toybox.registry 7 []

/-- The passages and the text of a step that arrives, or the circle that it is refused for. -/
def Game.trip (g : Game Obj) (id : String) (call : CallArgs Obj) :
    Option ((List String × String) ⊕ List String) :=
  match g.enter id call with
  | .ok s => s.position?.map fun position => .inl (position.output.visited, position.output.content)
  | .error (.navigation (.jumpCycle chain)) => some (.inr chain)
  | .error _ => none

/-- With one argument the journey arrives in the barn, with the other it comes back to the yard. -/
theorem journeys_from_yard :
    (∃ s output passed last, atFarm.enter "yard" ⟨[.int 1], []⟩ = .ok s ∧
        s.position?.map (·.output) = some output ∧ output.Tells passed last ∧
        output.visited = ["yard", "lane", "barn"] ∧ output.content = "Yard. Lane. Barn.") ∧
      ∃ hops d, atFarm.Journeys "yard" ⟨[.int 0], []⟩ hops d ∧
        hops.map (·.id) = ["yard", "lane"] ∧ d.id = "yard" := by
  constructor
  · have arrives : atFarm.trip "yard" ⟨[.int 1], []⟩ =
        some (.inl (["yard", "lane", "barn"], "Yard. Lane. Barn.")) := by
      decide +kernel
    obtain ⟨_, _, arrived, _⟩ := atFarm.enter_ends_journey "yard" ⟨[.int 1], []⟩
    unfold Game.trip at arrives
    split at arrives
    · next s entered =>
      obtain ⟨hops, d, last, s', output, _, _, _, _, rfl, tells, _⟩ := arrived s entered
      have told : (output.visited, output.content) = _ := Sum.inl.inj (Option.some.inj arrives)
      obtain ⟨visited, content⟩ := Prod.ext_iff.mp told
      exact ⟨_, output, hops, last, entered, rfl, tells, visited, content⟩
    · cases arrives
    · cases arrives
  · have circles : atFarm.trip "yard" ⟨[.int 0], []⟩ = some (.inr ["yard", "lane", "yard"]) := by
      decide +kernel
    obtain ⟨_, _, _, circle⟩ := atFarm.enter_ends_journey "yard" ⟨[.int 0], []⟩
    unfold Game.trip at circles
    split at circles
    · next s entered =>
      obtain ⟨output, _, told⟩ := Option.map_eq_some_iff.mp circles
      cases told
    · next chain refused =>
      cases circles
      obtain ⟨hops, d, journey, _, _, told⟩ := (circle _).mp refused
      have split : ["yard", "lane"] ++ ["yard"] = hops.map (·.id) ++ [d.id] := told
      obtain ⟨passed, back⟩ := List.append_inj' split rfl
      exact ⟨hops, d, journey, passed.symm, (List.singleton_inj.mp back).symm⟩
    · cases circles

end BranchingStory
