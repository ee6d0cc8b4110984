import BranchingStory.Host.Toybox
import BranchingStory.Proofs.Play.Breaks

/-!
# What is not reached

A jump ends the rendering of its passage: what stands behind it in its own list, behind each list around it,
in the rounds of a loop that would come next, and the choices of the passage are not reached any more. Two
contents agree in a scope if they are the same as far as rendering them gets. Then they bring forth the same
and leave the same scope. Whether content is reached is a question of runs and not of places: what stands
behind a jump in the body of a loop may have been reached in an earlier round.
-/

namespace BranchingStory

open Script

variable {Obj : Type} [HostObject Obj]

/-- Whether a condition holds; one that fails does not. -/
def conditionHolds (code : String) (s : Scope Obj) : Bool :=
  match (evalSource code s : Except EvalError (Value Obj) × Scope Obj).1 with
  | .ok value => value.holds
  | .error _ => false

/-- The items that a loop goes through. -/
def iterated (collection : String) : EvalM Obj (List (Value Obj)) := do
  EvalM.ofExcept (iterate (← evalSource collection))

/-- Binds the variables of a loop to an item, in a frame of their own. -/
def bindRound (vars : List String) (item : Value Obj) (s : Scope Obj) : Except EvalError Unit × Scope Obj :=
  bindTargets vars item s.pushFrame

mutual

/-- Lists of items agree up to their ends, or up to an item that ends in a jump. -/
inductive ItemsAgree (ctx : RenderContext) : Scope Obj → List ContentItem → List ContentItem → Prop where
  | nil {s} :
    ItemsAgree ctx s [] []
  | next {s item item' items items'} :
    ItemAgrees ctx s item item' →
    ItemsAgree ctx (renderItem ctx item s).2 items items' →
    ItemsAgree ctx s (item :: items) (item' :: items')
  | jump {s item item' items items'} :
    ItemAgrees ctx s item item' →
    (renderItem ctx item s).1.jump?.isSome →
    ItemsAgree ctx s (item :: items) (item' :: items')

/-- Items agree that are the same, or that have parts which agree where they are reached. -/
inductive ItemAgrees (ctx : RenderContext) : Scope Obj → ContentItem → ContentItem → Prop where
  | same {s item} :
    ItemAgrees ctx s item item
  | conditional {s branches branches'} :
    BranchesAgree ctx s branches branches' →
    ItemAgrees ctx s (.conditional branches) (.conditional branches')
  | loop {s t vars collection collection' body body' values values'} :
    iterated collection s = (.ok values, t) →
    iterated collection' s = (.ok values', t) →
    RoundsAgree ctx t vars (collection, collection') body body' values values' →
    ItemAgrees ctx s (.loop vars collection body) (.loop vars collection' body')
  | skipped {s t vars collection body body' reason} :
    iterated collection s = (.error reason, t) →
    ItemAgrees ctx s (.loop vars collection body) (.loop vars collection body')

/-- Branches agree up to the one that is taken, and there in its content. -/
inductive BranchesAgree (ctx : RenderContext) : Scope Obj → List Branch → List Branch → Prop where
  | nil {s} :
    BranchesAgree ctx s [] []
  | otherwise {s content content' branches branches'} :
    ItemsAgree ctx s content content' →
    BranchesAgree ctx s (⟨none, content⟩ :: branches) (⟨none, content'⟩ :: branches')
  | taken {s code content content' branches branches'} :
    conditionHolds code s →
    ItemsAgree ctx (evalSource code s).2 content content' →
    BranchesAgree ctx s (⟨some code, content⟩ :: branches) (⟨some code, content'⟩ :: branches')
  | passed {s code content content' branches branches'} :
    ¬conditionHolds code s →
    BranchesAgree ctx (evalSource code s).2 branches branches' →
    BranchesAgree ctx s (⟨some code, content⟩ :: branches) (⟨some code, content'⟩ :: branches')

/-- Loops agree up to the last round, or up to a round that ends in a jump. -/
inductive RoundsAgree (ctx : RenderContext) : Scope Obj → List String → String × String →
    List ContentItem → List ContentItem → List (Value Obj) → List (Value Obj) → Prop where
  | nil {s vars collections body body'} :
    RoundsAgree ctx s vars collections body body' [] []
  | next {s t vars collections body body' value values values'} :
    bindRound vars value s = (.ok (), t) →
    ItemsAgree ctx t body body' →
    RoundsAgree ctx (renderItems ctx body t).2.popFrame vars collections body body' values values' →
    RoundsAgree ctx s vars collections body body' (value :: values) (value :: values')
  | jump {s t vars collections body body' value values values'} :
    bindRound vars value s = (.ok (), t) →
    ItemsAgree ctx t body body' →
    (renderItems ctx body t).1.jump?.isSome →
    RoundsAgree ctx s vars collections body body' (value :: values) (value :: values')
  /-- The warning for an item that does not fit the variables names the collection. -/
  | unfit {s t vars collection body body' value values values' reason} :
    bindRound vars value s = (.error reason, t) →
    RoundsAgree ctx t.popFrame vars (collection, collection) body body' values values' →
    RoundsAgree ctx s vars (collection, collection) body body' (value :: values) (value :: values')

end

section Congruence

variable {ctx : RenderContext} {s : Scope Obj}

omit [HostObject Obj] in
/-- What comes second counts if the first does not end in a jump. -/
lemma Pass.andThen_congr {first first' second second' : Pass Obj} (same : first' s = first s)
    (next : (first s).1.jump?.isSome = false → second' (first s).2 = second (first s).2) :
    (first'.andThen second') s = (first.andThen second) s := by
  simp only [Pass.andThen, same]
  cases jumps : (first s).1.jump?.isSome with
  | true => simp only [if_true]
  | false => simp only [Bool.false_eq_true, if_false, next jumps]

/-- What follows a condition counts where it is followed. -/
lemma withCondition_congr {code : String} {yes yes' no no' : Pass Obj}
    (taken : conditionHolds code s → yes' (evalSource code s).2 = yes (evalSource code s).2)
    (passed : ¬conditionHolds code s → no' (evalSource code s).2 = no (evalSource code s).2) :
    withCondition ctx code yes' no' s = withCondition ctx code yes no s := by
  unfold withCondition Pass.attempt
  unfold conditionHolds at taken passed
  rcases evaluated : (evalSource code s : Except EvalError (Value Obj) × Scope Obj) with ⟨reason | value, t⟩
  · rw [evaluated] at passed
    exact Pass.andThen_congr rfl fun _ => passed Bool.false_ne_true
  · rw [evaluated] at taken passed
    simp only
    split
    · next holds => exact taken holds
    · next fails => exact passed fails

/-- A round of a loop is its body, if the item fits the variables. -/
lemma round_eq {vars : List String} {collection : String} {body : Pass Obj} {value : Value Obj}
    {t : Scope Obj} (bound : bindRound vars value s = (.ok (), t)) :
    Pass.inFrame (Pass.attempt (EvalM.step (bindTargets vars value))
      (fun reason => Pass.emit (ctx.warn collection reason)) (fun _ => body)) s =
      ((body t).1, (body t).2.popFrame) := by
  unfold Pass.inFrame Pass.attempt EvalM.step
  unfold bindRound at bound
  rw [bound]

lemma unfit_eq {vars : List String} {collection : String} {body : Pass Obj} {value : Value Obj}
    {t : Scope Obj} {reason : EvalError} (failed : bindRound vars value s = (.error reason, t)) :
    Pass.inFrame (Pass.attempt (EvalM.step (bindTargets vars value))
      (fun reason => Pass.emit (ctx.warn collection reason)) (fun _ => body)) s =
      (ctx.warn collection reason, t.popFrame) := by
  unfold Pass.inFrame Pass.attempt EvalM.step
  unfold bindRound at failed
  rw [failed]
  rfl

end Congruence

section Rendering

variable {ctx : RenderContext}

mutual

/-- Items that agree bring forth the same and leave the same scope. -/
theorem ItemsAgree.renders {s : Scope Obj} {items items' : List ContentItem} :
    ItemsAgree ctx s items items' → renderItems ctx items' s = renderItems ctx items s
  | .nil => rfl
  | .next item rest => by
    rw [renderItems, renderItems]
    exact Pass.andThen_congr item.renders fun _ => rest.renders
  | .jump item jumps => by
    rw [renderItems, renderItems]
    refine Pass.andThen_congr item.renders fun none => ?_
    rw [jumps] at none
    cases none

theorem ItemAgrees.renders {s : Scope Obj} {item item' : ContentItem} :
    ItemAgrees ctx s item item' → renderItem ctx item' s = renderItem ctx item s
  | .same => rfl
  | .conditional branches => by
    rw [renderItem, renderItem]
    exact branches.renders
  | @ItemAgrees.loop _ _ _ s t vars collection collection' body body' values values' first second rounds => by
    have going {collection : String} {body : List ContentItem} {values : List (Value Obj)}
        (iterates : iterated collection s = (.ok values, t)) :
        renderItem ctx (.loop vars collection body) s =
          renderEach ctx vars collection (renderItems ctx body) values t := by
      unfold iterated at iterates
      rw [renderItem, Pass.attempt, iterates]
    rw [going first, going second]
    exact rounds.renders
  | .skipped failed => by
    unfold iterated at failed
    simp only [renderItem, Pass.attempt, failed]

theorem BranchesAgree.renders {s : Scope Obj} {branches branches' : List Branch} :
    BranchesAgree ctx s branches branches' → renderBranches ctx branches' s = renderBranches ctx branches s
  | .nil => rfl
  | .otherwise content => by
    rw [renderBranches, renderBranches]
    exact content.renders
  | .taken holds content => by
    rw [renderBranches, renderBranches]
    exact withCondition_congr (fun _ => content.renders) fun fails => absurd holds fails
  | .passed fails branches => by
    rw [renderBranches, renderBranches]
    exact withCondition_congr (fun holds => absurd holds fails) fun _ => branches.renders

theorem RoundsAgree.renders {s : Scope Obj} {vars : List String} {collections : String × String}
    {body body' : List ContentItem} {values values' : List (Value Obj)} :
    RoundsAgree ctx s vars collections body body' values values' →
      renderEach ctx vars collections.2 (renderItems ctx body') values' s =
        renderEach ctx vars collections.1 (renderItems ctx body) values s
  | .nil => rfl
  | .next bound inside rounds => by
    rw [renderEach, renderEach]
    refine Pass.andThen_congr ?_ fun _ => ?_
    · rw [round_eq bound, round_eq bound, inside.renders]
    · rw [round_eq bound]
      exact rounds.renders
  | .jump bound inside jumps => by
    rw [renderEach, renderEach]
    refine Pass.andThen_congr ?_ fun none => ?_
    · rw [round_eq bound, round_eq bound, inside.renders]
    · rw [round_eq bound, jumps] at none
      cases none
  | .unfit failed rounds => by
    rw [renderEach, renderEach]
    refine Pass.andThen_congr ?_ fun _ => ?_
    · rw [unfit_eq failed, unfit_eq failed]
    · rw [unfit_eq failed]
      exact rounds.renders

end

omit [HostObject Obj] in
lemma Pass.andThen_jump {first second : Pass Obj} {s : Scope Obj}
    (jumps : (first s).1.jump?.isSome) : (first.andThen second) s = first s := by
  simp only [Pass.andThen, jumps, if_true]

/-- Anything may stand behind an item that ends in a jump. -/
lemma ItemsAgree.behind {s : Scope Obj} {before items items' : List ContentItem} {item item' : ContentItem}
    (agrees : ItemAgrees ctx (renderItems ctx before s).2 item item')
    (jumps : (renderItem ctx item (renderItems ctx before s).2).1.jump?.isSome) :
    ItemsAgree ctx s (before ++ item :: items) (before ++ item' :: items') := by
  induction before generalizing s with
  | nil => exact .jump agrees jumps
  | cons first before ih =>
    by_cases ends : (renderItem ctx first s).1.jump?.isSome
    · exact .jump .same ends
    · have behind : (renderItems ctx (first :: before) s).2 =
          (renderItems ctx before (renderItem ctx first s).2).2 := by
        simp only [renderItems, Pass.andThen, ends, Bool.false_eq_true, if_false]
      rw [behind] at agrees jumps
      exact .next .same (ih agrees jumps)

/-! ## Choices do not jump -/

lemma withArgs_stays {args : List Arg} {done : CallArgs Obj → Pass Obj}
    (stays : ∀ call s, (done call s).1.jump? = none) (s : Scope Obj) :
    (withArgs ctx args done s).1.jump? = none := by
  unfold withArgs
  split
  · exact stays _ _
  · rfl

lemma renderChoice_stays (c : Choice) (s : Scope Obj) : (renderChoice ctx c s).1.jump? = none := by
  have offered (s : Scope Obj) : (offerChoice ctx c s).1.jump? = none :=
    withArgs_stays (fun _ _ => rfl) s
  unfold renderChoice
  split
  · rfl
  · cases c.guard? with
    | none => exact offered s
    | some guard =>
      simp only [withCondition, Pass.attempt]
      split
      · split
        · exact offered _
        · rfl
      · rfl

lemma renderChoices_stay (choices : List Choice) (s : Scope Obj) :
    (renderChoices ctx choices s).1.jump? = none := by
  induction choices generalizing s with
  | nil => rfl
  | cons c choices ih =>
    rw [renderChoices]
    simp only [Pass.andThen, renderChoice_stays, Option.isSome_none, Bool.false_eq_true, if_false,
      Rendered.append_jump]
    exact ih _

/-- A passage ends in a jump if its content does. -/
lemma Passage.jumps_iff (p : Passage) (consumed : List String) (s : Scope Obj) :
    (p.render consumed s).1.jump?.isSome ↔ (renderItems ⟨p.id, consumed⟩ p.content s).1.jump?.isSome := by
  have jump : (p.render consumed s).1.jump? =
      ((renderItems ⟨p.id, consumed⟩ p.content).andThen (renderChoices ⟨p.id, consumed⟩ p.choices) s).1.jump? := by
    unfold Passage.render
    simp only
    split <;> rfl
  rw [jump, Pass.andThen]
  cases jumps : (renderItems ⟨p.id, consumed⟩ p.content s).1.jump?.isSome with
  | true => simp only [jumps, if_true]
  | false => simp only [jumps, Bool.false_eq_true, if_false, Rendered.append_jump, renderChoices_stay,
      Option.isSome_none]

end Rendering

/-- Behind an executed jump nothing matters that was not reached before: two passages whose contents are the
same as far as rendering gets, and which end in a jump there, bring forth the same with the same jump and
without choices, and leave the same scope, whatever else their contents and their choices are. -/
theorem unreached_content_is_free {p p' : Passage} {consumed : List String} {s : Scope Obj}
    (id : p'.id = p.id) (agree : ItemsAgree ⟨p.id, consumed⟩ s p.content p'.content)
    (jumps : (p.render consumed s).1.jump?.isSome) :
    p'.render consumed s = p.render consumed s ∧ (p.render consumed s).1.choices = [] := by
  rw [Passage.jumps_iff] at jumps
  have whole : (renderItems ⟨p.id, consumed⟩ p.content).andThen (renderChoices ⟨p.id, consumed⟩ p.choices) s =
      renderItems ⟨p.id, consumed⟩ p.content s := Pass.andThen_jump jumps
  have whole' : (renderItems ⟨p.id, consumed⟩ p'.content).andThen (renderChoices ⟨p.id, consumed⟩ p'.choices) s =
      renderItems ⟨p.id, consumed⟩ p.content s := by
    rw [Pass.andThen_jump, agree.renders]
    rwa [agree.renders]
  unfold Passage.render
  simp only [id, whole, whole', jumps, if_true, and_self]

section Stairs

open Toybox

def atStairs : Scope Thing :=
  .start .shared [] [] (Generator.ofSeed 7) []

/-- A climb through the letters of a text that ends at the second one, with something behind the jump, something
behind its branch and something behind the loop. -/
def climb (letters : String) (own again later : List ContentItem) (choices : List Choice) : Passage :=
  { id := "Start"
    params := []
    content :=
      [.text "Up\n"] ++ .loop ["step"] letters
        ([.text "and\n"] ++ .conditional [⟨some "step == 'b'", .jump "Top" [] 6 :: own⟩] :: again) :: later
    choices
    execute := []
    tags := [] }

def longClimb : Passage :=
  climb "'abc'" [.text "there\n"] [.text "up\n"] [.text "High\n"] [⟨"Start#0", [], "Top", [], none, true, [], 9⟩]

def shortClimb : Passage :=
  climb "'ab'" [] [.text "up\n"] [.input "name" none none, .text "Low\n"] []

/-- Up to the jump the climbs agree: the first round passes its branch by, and the second one takes it. -/
lemma climbs_agree : ItemsAgree ⟨longClimb.id, []⟩ atStairs longClimb.content shortClimb.content := by
  have long : iterated "'abc'" atStairs = (.ok [.str "a", .str "b", .str "c"], atStairs) := rfl
  have short : iterated "'ab'" atStairs = (.ok [.str "a", .str "b"], atStairs) := rfl
  refine .behind (.loop long short (.next rfl ?first (.jump rfl ?second ?jumps))) ?ends
  case first => exact .next .same (.next (.conditional (.passed (by decide +kernel) .nil)) (.next .same .nil))
  case second =>
    exact .next .same (.jump (.conditional (.taken (by decide +kernel) (.jump .same (by decide +kernel))))
      (by decide +kernel))
  case jumps => decide +kernel
  case ends => decide +kernel

/-- What is behind the jump, the round of the loop that would come next, what is behind the loop and the choices
do not matter. -/
theorem climbs_end_alike :
    shortClimb.id = longClimb.id ∧
      ItemsAgree ⟨longClimb.id, []⟩ atStairs longClimb.content shortClimb.content ∧
      (longClimb.render [] atStairs).1.jump?.isSome ∧
      shortClimb.render [] atStairs = longClimb.render [] atStairs ∧
      (longClimb.render [] atStairs).1.choices = [] :=
  ⟨rfl, climbs_agree, by decide +kernel, unreached_content_is_free rfl climbs_agree (by decide +kernel)⟩

/-- What is behind the branch of the jump was reached in the round before, so that it does matter. -/
theorem reached_in_earlier_round :
    ((climb "'ab'" [] [.text "up\n"] [] []).render [] atStairs).1.jump?.isSome ∧
      ((climb "'ab'" [] [] [] []).render [] atStairs).1.jump?.isSome ∧
      ((climb "'ab'" [] [.text "up\n"] [] []).render [] atStairs).1.content = "Up\nand\nup\nand\n" ∧
      ((climb "'ab'" [] [] [] []).render [] atStairs).1.content = "Up\nand\nand\n" := by
  decide +kernel

end Stairs

end BranchingStory
