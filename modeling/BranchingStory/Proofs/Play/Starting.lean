import BranchingStory.Proofs.Play.Links

/-!
# Starting a compiled story

A compiled story begins: its first passage is there, so that the session is made, and starting ends with
an output or fails inside of passages. One call is made by the session itself and not by a link, so that
the compiler never checks it: that of the first passage, without arguments. Where the first passage has a
parameter without a default, every start is refused for it.
-/

namespace BranchingStory

open Script Source

variable {Obj : Type}

/-- The first parameter that must be given. -/
def Passage.required? (p : Passage) : Option Param :=
  p.params.find? (·.default?.isNone)

/-- A passage without such a parameter can be entered without arguments. -/
lemma callFits_none {p : Passage} (nothing : p.required? = none) :
    CallFits p.params (CallArgs.none : CallArgs Obj) := by
  constructor
  case few => exact Nat.zero_le _
  case known => exact nofun
  case once => exact nofun
  case complete =>
    intro param member required
    have given := List.find?_eq_none.mp nothing param (List.mem_of_mem_drop member)
    rw [required] at given
    exact (given rfl).elim

namespace Source

/-- The first passage that is chosen without a problem is among the passages. -/
lemma chooseStart_mem {ids : List String} {start? : Option Start} (some_ : ids ≠ [])
    (clean : (chooseStart ids start?).2.1 = []) : (chooseStart ids start?).1 ∈ ids := by
  unfold chooseStart at clean ⊢
  cases start? with
  | some start =>
    by_cases known : ids.contains start.target
    · simp only [known, if_true]
      exact List.contains_iff_mem.mp known
    · simp only [known] at clean
      cases clean
  | none =>
    by_cases known : ids.contains defaultStart
    · simp only [known, if_true]
      exact List.contains_iff_mem.mp known
    · simp only [known]
      obtain ⟨first, rest, rfl⟩ := List.exists_cons_of_ne_nil some_
      exact List.mem_cons_self

end Source

namespace Story.CompiledFrom

variable {e : Expansion} {story : Story}

/-- The first passage of a compiled story is there. -/
lemma initial_mem (compiled : story.CompiledFrom e) : story.initial ∈ Assoc.keys story.passages := by
  obtain ⟨r, _, rfl, clean⟩ := compiled.assembled
  unfold assemble at clean ⊢
  simp only at clean ⊢
  by_cases empty : (byId [] r.done).1.isEmpty
  · simp only [empty, if_true] at clean
    cases clean
  · simp only [empty, Bool.false_eq_true, if_false, List.append_eq_nil_iff] at clean ⊢
    rw [keys_linkPassages]
    refine chooseStart_mem ?_ clean.1
    intro none
    exact empty (List.isEmpty_iff.mpr (List.map_eq_nil_iff.mp none))

lemma check (compiled : story.CompiledFrom e) : story.check = .ok () := by
  have initial := compiled.initial_mem
  unfold Story.check
  have passages : story.passages.isEmpty = false := by
    rw [List.isEmpty_eq_false_iff]
    intro none
    rw [none] at initial
    cases initial
  rw [passages, Assoc.contains_iff.mpr initial]
  rfl

end Story.CompiledFrom

section Playing

variable [HostObject Obj] {story : Story}

/-- A call without arguments is refused for the first parameter that must be given, before anything is
evaluated. -/
lemma enter_required {p : Passage} (ordered : RequiredFirst p.params) {param : Param}
    (required : p.required? = some param) (scope : Scope Obj) :
    p.enter CallArgs.none scope = (.error (.navigation (.missingParam p.id param.name)), scope) := by
  unfold Passage.required? at required
  have member := List.mem_of_find?_eq_some required
  have noDefault : param.default? = none := by simpa using List.find?_some required
  cases params : p.params with
  | nil =>
    rw [params] at required
    cases required
  | cons first rest =>
    rw [params] at required ordered member
    have firstRequired : first.default? = none := ordered.head member noDefault
    rw [List.find?_cons, firstRequired] at required
    obtain rfl : first = param := Option.some.inj required
    have checked : p.checkCall (CallArgs.none : CallArgs Obj) = .ok () := by
      unfold Passage.checkCall
      rfl
    have bound : bindParams p.id (first :: rest) (CallArgs.none : CallArgs Obj).positional
        CallArgs.none.named scope = (.error (.navigation (.missingParam p.id first.name)), scope) := by
      simp only [CallArgs.none, bindParams, Assoc.get?, List.lookup_nil, firstRequired]
      rfl
    unfold Passage.enter
    simp only [checked, params, bind_apply, bound]

/-- How the start of a story may end: with an output, or in a fragment of a passage or in a circle. -/
def Game.Starts (g : Game Obj) : Prop :=
  (∃ g' output, g.move .start = (.ok [], g') ∧ g'.current = .ok output) ∨
    ∃ reason, g.move .start = (.error reason, g) ∧ reason.OfChain

namespace Story.CompiledFrom

variable {e : Expansion}

/-- A first passage that can do without arguments is started, or fails inside of passages. -/
lemma start_free (compiled : story.CompiledFrom e) (registry : Registry Obj) (seed : UInt64)
    (vars : Vars Obj) {first : Passage} (found : story.passage? story.initial = some first)
    (free : first.required? = none) : (Game.opening story registry seed vars).Starts := by
  have departs := Game.Departs.start (g := Game.opening story registry seed vars)
  have moved := Game.move_eq (Game.opening story registry seed vars) .start
  rw [departs.after_eq] at moved
  cases followed : (Game.opening story registry seed vars).follow _ with
  | ok result =>
    obtain ⟨chain, s⟩ := result
    rw [followed] at moved
    exact .inl ⟨_, _, moved, rfl⟩
  | error reason =>
    rw [followed] at moved
    exact .inr ⟨reason, moved, compiled.linked.follow_taken ⟨first, found, callFits_none free⟩ followed⟩

/-- A first passage with a parameter that must be given is never started. -/
lemma start_required (compiled : story.CompiledFrom e) (registry : Registry Obj) (seed : UInt64)
    (vars : Vars Obj) {first : Passage} (found : story.passage? story.initial = some first)
    {param : Param} (required : first.required? = some param) :
    let g := Game.opening story registry seed vars
    g.move .start = (.error (.navigation (.missingParam story.initial param.name)), g) := by
  intro g
  have own : first.id = story.initial := compiled.id_eq found
  have refused : g.follow ⟨g.session, story.initial, CallArgs.none⟩ =
      .error (.navigation (.missingParam story.initial param.name)) := by
    refine (follow_found List.not_mem_nil found).trans ?_
    rw [hop_eq, enter_required (compiled.requiredFirst found) required, own]
  have departs : g.Departs .start ⟨g.session, story.initial, CallArgs.none⟩ := .start
  have moved := g.move_eq .start
  rw [departs.after_eq, refused] at moved
  exact moved

/-- A compiled story can be begun with every host, seed and variables. Its first passage is there, and
starting ends with an output, in a fragment or in a circle of jumps, if this passage can do without
arguments. Otherwise each start is refused for the first parameter that must be given. -/
theorem starts (compiled : story.CompiledFrom e) (registry : Registry Obj) (seed : UInt64)
    (vars : Vars Obj) :
    let g := Game.opening story registry seed vars
    Game.start? story registry seed vars = .ok g ∧
      ∃ first, story.passage? story.initial = some first ∧
        match first.required? with
        | none => g.Starts
        | some param =>
          g.move .start = (.error (.navigation (.missingParam story.initial param.name)), g) := by
  intro g
  have begun : Game.start? story registry seed vars = .ok g := by
    unfold Game.start?
    rw [compiled.check]
    rfl
  obtain ⟨first, found⟩ := Option.isSome_iff_exists.mp (Assoc.get?_isSome_iff.mpr compiled.initial_mem)
  refine ⟨begun, first, found, ?_⟩
  cases required : first.required? with
  | none => exact compiled.start_free registry seed vars found required
  | some param => exact compiled.start_required registry seed vars found required

end Story.CompiledFrom

end Playing

/-- The lines of a story that begins in a passage with a default, behind another one. -/
def welcomeLines : Expansion :=
  ⟨[⟨inlineLabel, 1, ":: Hall".toList⟩, ⟨inlineLabel, 2, "-> Start".toList⟩,
    ⟨inlineLabel, 3, ":: Start(name=\"you\")".toList⟩, ⟨inlineLabel, 4, "Hi \x7bname\x7d".toList⟩], [], []⟩

/-- This story starts, with the default of its first passage. -/
theorem welcome_starts :
    welcomeLines = expandText ⟨fun _ => .error Files.missing, []⟩
        ":: Hall\n-> Start\n:: Start(name=\"you\")\nHi \x7bname\x7d\n" ∧
      welcomeLines.story.CompiledFrom welcomeLines ∧
      (Game.opening welcomeLines.story Toybox.registry 7 []).Starts := by
  have compiled : welcomeLines.story.CompiledFrom welcomeLines :=
    welcomeLines.compiledFrom (by decide +kernel)
  refine ⟨by cbv, compiled, ?_⟩
  obtain ⟨_, first, found, ends⟩ := compiled.starts Toybox.registry 7 []
  have free : (welcomeLines.story.passage? welcomeLines.story.initial).all (·.required?.isNone) := by
    decide +kernel
  rw [found, Option.all_some, Option.isNone_iff_eq_none] at free
  rw [free] at ends
  exact ends

/-- The lines of a story whose only passage has a parameter without a default. -/
def guestLines : Expansion :=
  ⟨[⟨inlineLabel, 1, ":: Start(name)".toList⟩, ⟨inlineLabel, 2, "Hi".toList⟩], [], []⟩

/-- This story is compiled without a problem, and can never be started. -/
theorem guest_cannot_start :
    guestLines = expandText ⟨fun _ => .error Files.missing, []⟩ ":: Start(name)\nHi\n" ∧
      guestLines.story.CompiledFrom guestLines ∧
      ((Game.opening guestLines.story Toybox.registry 7 []).move .start).1 =
        .error (.navigation (.missingParam "Start" "name")) := by
  have compiled : guestLines.story.CompiledFrom guestLines :=
    guestLines.compiledFrom (by decide +kernel)
  refine ⟨by cbv, compiled, ?_⟩
  have initial : guestLines.story.initial = "Start" := by decide +kernel
  have required : (guestLines.story.passage? guestLines.story.initial).bind (·.required?) =
      some ⟨"name", none⟩ := by
    decide +kernel
  obtain ⟨first, found, required⟩ := Option.bind_eq_some_iff.mp required
  rw [compiled.start_required Toybox.registry 7 [] found required, initial]

end BranchingStory
