import Mathlib.Data.List.Induction
import BranchingStory.Proofs.Play.Jumps
import BranchingStory.Proofs.Play.Untouched

/-!
# Parameters and their values

A link is checked by the number and the names of its arguments alone, and the step that follows it binds the
values of the arguments, one parameter after the other. Whether the one accepts the arguments and whether the
other succeeds is the same question, for both ask whether the call fits. A run of the binding is then told
from its end: the last parameter takes its value in the scope that binding the parameters in front of it has
left.
-/

namespace BranchingStory

open Script

variable {Obj : Type} [HostObject Obj]

/-- Binds the parameters of a passage to the arguments of a call, unless the call is refused. -/
def Passage.bindCall (p : Passage) (call : CallArgs Obj) : EntryM Obj Unit :=
  match p.checkCall call with
  | .error fault => EntryM.refuse fault
  | .ok () => bindParams p.id p.params call.positional call.named

/-- The value that a parameter takes: the given one, or else that of its default. -/
inductive Param.Takes (param : Param) : Option (Value Obj) → Scope Obj → Value Obj → Scope Obj → Prop where
  | given {value s} :
    param.Takes (some value) s value s
  | default {code value s s'} :
    param.default? = some code →
    evalSource code s = (.ok value, s') →
    param.Takes none s value s'

/-- Each default that a call lets be evaluated succeeds and leaves the parameters in front of it as they are. -/
def DefaultsSettle (params : List Param) (call : CallArgs Obj) (s : Scope Obj) : Prop :=
  ∀ i param code u, params[i]? = some param → call.get? i param.name = none → param.default? = some code →
    Binds (params.take i) call.positional call.named s u →
    ∃ value u', evalSource code u = (.ok value, u') ∧
      ∀ q ∈ params.take i, Assoc.get? u'.base q.name = Assoc.get? u.base q.name

/-- The base frame of a scope holds the parameters and nothing else, in their order. Each has its positional
value, or else the one under its name, or else that of its default, evaluated behind the binding of the
parameters in front of it. -/
def BoundInOrder (params : List Param) (call : CallArgs Obj) (s t : Scope Obj) : Prop :=
  ∃ values : List (Value Obj),
    values.length = params.length ∧
    t.base = (params.map (·.name)).zip values ∧
    ∀ i param value, params[i]? = some param → values[i]? = some value →
      ∃ u u', Binds (params.take i) call.positional call.named s u ∧
        u.base = ((params.map (·.name)).zip values).take i ∧
        param.Takes (call.get? i param.name) u value u'

/-! ## Calls that fit -/

lemma Passage.enter_eq_bindCall (p : Passage) (call : CallArgs Obj) :
    p.enter call = p.bindCall call >>= fun _ => runCommands p.id p.execute := by
  funext s
  rw [enter_apply]
  unfold Passage.bindCall
  cases p.checkCall call <;> rfl

omit [HostObject Obj] in
/-- A call is accepted if it has arguments for parameters alone, and none twice. -/
lemma checkCall_eq_ok {p : Passage} {call : CallArgs Obj} :
    p.checkCall call = .ok () ↔
      call.positional.length ≤ p.params.length ∧
        (∀ name ∈ Assoc.keys call.named, name ∈ p.params.map (·.name)) ∧
        ∀ name ∈ (p.params.map (·.name)).take call.positional.length, name ∉ Assoc.keys call.named := by
  have known : (Assoc.keys call.named).find? (!(p.params.map (·.name)).contains ·) = none ↔
      ∀ name ∈ Assoc.keys call.named, name ∈ p.params.map (·.name) := by
    simp only [List.find?_eq_none, Bool.not_eq_true', Bool.not_eq_false, List.contains_iff_mem]
  have once : ((p.params.map (·.name)).take call.positional.length).find? (Assoc.contains call.named) = none ↔
      ∀ name ∈ (p.params.map (·.name)).take call.positional.length, name ∉ Assoc.keys call.named := by
    simp only [List.find?_eq_none, Assoc.contains_iff]
  rw [← known, ← once, ← Nat.not_lt]
  unfold Passage.checkCall
  by_cases many : p.params.length < call.positional.length
  · simp only [many, if_true, not_true_eq_false, false_and, iff_false]
    exact nofun
  · simp only [many, if_false, not_false_eq_true, true_and]
    cases (Assoc.keys call.named).find? (!(p.params.map (·.name)).contains ·) with
    | some name => exact ⟨nofun, nofun⟩
    | none =>
      cases ((p.params.map (·.name)).take call.positional.length).find? (Assoc.contains call.named) with
      | some name => exact ⟨nofun, nofun⟩
      | none => exact ⟨fun _ => ⟨rfl, rfl⟩, fun _ => rfl⟩

lemma Passage.bindCall_eq_ok {p : Passage} {call : CallArgs Obj} {s t : Scope Obj} :
    p.bindCall call s = (.ok (), t) ↔
      p.checkCall call = .ok () ∧ Binds p.params call.positional call.named s t := by
  unfold Passage.bindCall
  cases p.checkCall call with
  | error fault => exact ⟨nofun, nofun⟩
  | ok _ => exact bindParams_eq_ok.trans ⟨fun binds => ⟨rfl, binds⟩, fun ⟨_, binds⟩ => binds⟩

/-- Where the binding succeeds, each parameter without a default was given. -/
lemma Binds.complete {params : List Param} {positional : List (Value Obj)}
    {named : List (String × Value Obj)} {s t : Scope Obj} (binds : Binds params positional named s t) :
    ∀ p ∈ params.drop positional.length, p.default? = none → p.name ∈ Assoc.keys named := by
  induction binds with
  | done =>
    intro p member
    rw [List.drop_nil] at member
    cases member
  | positional _ ih => exact ih
  | named given _ ih =>
    intro q member noDefault
    rcases List.mem_cons.mp member with rfl | later
    · exact Assoc.get?_isSome_iff.mp (by rw [given]; rfl)
    · obtain ⟨entry, left, same⟩ := List.mem_map.mp (ih q later noDefault)
      exact List.mem_map.mpr ⟨entry, List.mem_of_mem_filter left, same⟩
  | default _ default _ _ ih =>
    intro q member noDefault
    rcases List.mem_cons.mp member with rfl | later
    · cases default.symm.trans noDefault
    · exact ih q later noDefault

/-! ## One parameter behind the others -/

omit [HostObject Obj] in
lemma CallArgs.get?_eq_none {call : CallArgs Obj} {position : Nat} {name : String} :
    call.get? position name = .none ↔ call.positional.length ≤ position ∧ name ∉ Assoc.keys call.named := by
  rw [← List.getElem?_eq_none_iff, ← Assoc.get?_isSome_iff, Option.not_isSome_iff_eq_none]
  unfold CallArgs.get? Assoc.get?
  cases call.positional[position]? with
  | some value => exact ⟨nofun, nofun⟩
  | none => exact ⟨fun absent => ⟨rfl, absent⟩, fun ⟨_, absent⟩ => absent⟩

lemma takes_iff {param : Param} {given? : Option (Value Obj)} {s s' : Scope Obj} {value : Value Obj} :
    param.Takes given? s value s' ↔
      (given? = some value ∧ s = s') ∨
        (given? = none ∧ ∃ code, param.default? = some code ∧ evalSource code s = (.ok value, s')) := by
  constructor
  · rintro (_ | ⟨default, evaluated⟩)
    · exact .inl ⟨rfl, rfl⟩
    · exact .inr ⟨rfl, _, default, evaluated⟩
  · rintro (⟨rfl, rfl⟩ | ⟨rfl, code, default, evaluated⟩)
    · exact .given
    · exact .default default evaluated

/-- A single parameter takes its value. -/
lemma binds_singleton {param : Param} {positional : List (Value Obj)} {named : List (String × Value Obj)}
    {s t : Scope Obj} :
    Binds [param] positional named s t ↔
      ∃ value s', param.Takes ((⟨positional, named⟩ : CallArgs Obj).get? 0 param.name) s value s' ∧
        t = s'.setLocal param.name value := by
  simp only [takes_iff]
  constructor
  · intro binds
    cases binds with
    | positional rest => cases rest; exact ⟨_, s, .inl ⟨rfl, rfl⟩, rfl⟩
    | named given rest => cases rest; exact ⟨_, s, .inl ⟨given, rfl⟩, rfl⟩
    | default absent default evaluated rest =>
      cases rest
      exact ⟨_, _, .inr ⟨absent, _, default, evaluated⟩, rfl⟩
  · rintro ⟨value, s', takes, rfl⟩
    cases positional with
    | cons first positional =>
      obtain ⟨given, rfl⟩ | ⟨absent, _⟩ := takes
      · cases given
        exact .positional .done
      · cases absent
    | nil =>
      obtain ⟨given, rfl⟩ | ⟨absent, code, default, evaluated⟩ := takes
      · exact .named given .done
      · exact .default absent default evaluated .done

/-- The last parameter takes its value behind the binding of the others. -/
lemma binds_concat {params : List Param} {param : Param} {positional : List (Value Obj)}
    {named : List (String × Value Obj)} {s t : Scope Obj} (fresh : param.name ∉ params.map (·.name)) :
    Binds (params ++ [param]) positional named s t ↔
      ∃ u value u', Binds params positional named s u ∧
        param.Takes ((⟨positional, named⟩ : CallArgs Obj).get? params.length param.name) u value u' ∧
        t = u'.setLocal param.name value := by
  induction params generalizing positional named s with
  | nil =>
    rw [List.nil_append, binds_singleton]
    constructor
    · rintro ⟨value, s', takes, same⟩
      exact ⟨s, value, s', .done, takes, same⟩
    · rintro ⟨u, value, u', first, takes, same⟩
      cases first
      exact ⟨value, u', takes, same⟩
  | cons q params ih =>
    have other : param.name ≠ q.name := List.ne_of_not_mem_cons fresh
    have fresh : param.name ∉ params.map (·.name) := List.not_mem_of_not_mem_cons fresh
    -- Taking out the value of a parameter hides none of the ones behind it, as their names differ.
    have erased (named : List (String × Value Obj)) :
        (⟨[], Assoc.erase named q.name⟩ : CallArgs Obj).get? params.length param.name =
          (⟨[], named⟩ : CallArgs Obj).get? (q :: params).length param.name :=
      Assoc.get?_erase_ne other
    rw [List.cons_append]
    constructor
    · intro binds
      cases binds with
      | positional rest =>
        obtain ⟨u, value, u', first, takes, same⟩ := (ih fresh).mp rest
        exact ⟨u, value, u', .positional first, takes, same⟩
      | named given rest =>
        obtain ⟨u, value, u', first, takes, same⟩ := (ih fresh).mp rest
        exact ⟨u, value, u', .named given first, erased named ▸ takes, same⟩
      | default absent default evaluated rest =>
        obtain ⟨u, value, u', first, takes, same⟩ := (ih fresh).mp rest
        exact ⟨u, value, u', .default absent default evaluated first, takes, same⟩
    · rintro ⟨u, value, u', first, takes, same⟩
      cases first with
      | positional first => exact .positional ((ih fresh).mpr ⟨u, value, u', first, takes, same⟩)
      | named given first =>
        rw [← erased named] at takes
        exact .named given ((ih fresh).mpr ⟨u, value, u', first, takes, same⟩)
      | default absent default evaluated first =>
        exact .default absent default evaluated ((ih fresh).mpr ⟨u, value, u', first, takes, same⟩)

/-! ## Runs of the binding -/

section Runs

variable {params : List Param} {call : CallArgs Obj} {s t : Scope Obj}

lemma DefaultsSettle.init {param : Param} (settle : DefaultsSettle (params ++ [param]) call s) :
    DefaultsSettle params call s := by
  intro i q code u here absent default binds
  have before : i < params.length := (List.getElem?_eq_some_iff.mp here).1
  have same : (params ++ [param]).take i = params.take i := List.take_append_of_le_length (Nat.le_of_lt before)
  rw [← same] at binds
  obtain ⟨value, u', evaluated, kept⟩ :=
    settle i q code u (List.getElem?_append_left before ▸ here) absent default binds
  exact ⟨value, u', evaluated, same ▸ kept⟩

/-- The default of the last parameter settles behind the binding of the others. -/
lemma DefaultsSettle.last {param : Param} (settle : DefaultsSettle (params ++ [param]) call s)
    (binds : Binds params call.positional call.named s t)
    (absent : call.get? params.length param.name = none) {code : String} (default : param.default? = some code) :
    ∃ value t', evalSource code t = (.ok value, t') ∧
      ∀ q ∈ params, Assoc.get? t'.base q.name = Assoc.get? t.base q.name := by
  have settled := settle params.length param code t List.getElem?_concat_length absent default
  rw [List.take_left] at settled
  exact settled binds

lemma nodup_names_concat {param : Param} (names : ((params ++ [param]).map (·.name)).Nodup) :
    (params.map (·.name)).Nodup ∧ param.name ∉ params.map (·.name) := by
  rw [List.map_append, List.map_singleton, List.nodup_append] at names
  exact ⟨names.1, fun member => names.2.2 _ member _ (List.mem_singleton_self _) rfl⟩

/-- A call that is complete binds all parameters. -/
lemma binds_of_complete (names : (params.map (·.name)).Nodup)
    (complete : ∀ p ∈ params.drop call.positional.length, p.default? = none → p.name ∈ Assoc.keys call.named)
    (settle : DefaultsSettle params call s) : ∃ t, Binds params call.positional call.named s t := by
  induction params using List.reverseRecOn with
  | nil => exact ⟨s, .done⟩
  | append_singleton params param ih =>
    obtain ⟨distinct, fresh⟩ := nodup_names_concat names
    rw [List.drop_append] at complete
    obtain ⟨front, last⟩ := List.forall_mem_append.mp complete
    obtain ⟨u, binds⟩ := ih distinct front settle.init
    cases given : call.get? params.length param.name with
    | some value => exact ⟨_, (binds_concat fresh).mpr ⟨u, value, u, binds, given ▸ .given, rfl⟩⟩
    | none =>
      obtain ⟨few, absent⟩ := CallArgs.get?_eq_none.mp given
      cases default : param.default? with
      | some code =>
        obtain ⟨value, u', evaluated, _⟩ := settle.last binds given default
        exact ⟨_, (binds_concat fresh).mpr ⟨u, value, u', binds, given ▸ .default default evaluated, rfl⟩⟩
      | none =>
        rw [Nat.sub_eq_zero_of_le few, List.drop_zero] at last
        exact absurd (last param (List.mem_singleton_self _) default) absent

omit [HostObject Obj] in
lemma setLocal_outside (outside : s.inner = []) (name : String) (value : Value Obj) :
    s.setLocal name value = { s with base := Assoc.insert s.base name value } := by
  unfold Scope.setLocal
  split
  · next framed =>
    rw [outside] at framed
    cases framed
  · rfl

lemma evalSource_outside {code : String} {value : Value Obj} {s' : Scope Obj} (outside : s.inner = [])
    (evaluated : evalSource code s = (.ok value, s')) : s'.inner = [] := by
  have kept : s.Kept (evalSource code s).2 := evalSource_leaves code s
  have inner := kept.inner
  rw [evaluated, outside] at inner
  exact List.map_eq_nil_iff.mp inner

/-- Binding stays in the base frame, as neither a default nor a parameter opens a frame. -/
lemma Binds.stays_outside {params : List Param} {positional : List (Value Obj)}
    {named : List (String × Value Obj)} {s t : Scope Obj} (binds : Binds params positional named s t)
    (owned : s.access = .owned) (outside : s.inner = []) : t.access = .owned ∧ t.inner = [] := by
  have still {u : Scope Obj} (name : String) (value : Value Obj) (owned : u.access = .owned)
      (outside : u.inner = []) :
      (u.setLocal name value).access = .owned ∧ (u.setLocal name value).inner = [] := by
    rw [setLocal_outside outside]
    exact ⟨owned, outside⟩
  induction binds with
  | done => exact ⟨owned, outside⟩
  | positional _ ih | named _ _ ih =>
    obtain ⟨owned, outside⟩ := still _ _ owned outside
    exact ih owned outside
  | @default p params named code value s s₁ s' absent default evaluated rest ih =>
    have kept : s.Kept (evalSource code s).2 := evalSource_leaves code s
    rw [evaluated] at kept
    obtain ⟨owned, outside⟩ := still p.name value (kept.access.trans owned) (evalSource_outside outside evaluated)
    exact ih owned outside

/-- A default that settles leaves the base frame as it is. -/
lemma base_of_settled {code : String} {value : Value Obj} {s' : Scope Obj} (owned : s.access = .owned)
    (evaluated : evalSource code s = (.ok value, s')) (distinct : (Assoc.keys s.base).Nodup)
    (same : ∀ name ∈ Assoc.keys s.base, Assoc.get? s'.base name = Assoc.get? s.base name) :
    s'.base = s.base := by
  have kept : s.Kept (evalSource code s).2 := evalSource_leaves code s
  rw [evaluated] at kept
  exact Assoc.eq_of_get? (kept.base owned) distinct same

lemma BoundInOrder.keys (bound : BoundInOrder params call s t) :
    Assoc.keys t.base = params.map (·.name) := by
  obtain ⟨values, length, base, _⟩ := bound
  rw [base]
  exact List.map_fst_zip (Nat.le_of_eq ((List.length_map ..).trans length.symm))

/-- The scope in which the last parameter took its value has the base frame that was there before. -/
lemma DefaultsSettle.keeps {param : Param} {u : Scope Obj} {value : Value Obj}
    (settle : DefaultsSettle (params ++ [param]) call s) (first : Binds params call.positional call.named s t)
    (takes : param.Takes (call.get? params.length param.name) t value u)
    (keys : Assoc.keys t.base = params.map (·.name)) (distinct : (params.map (·.name)).Nodup)
    (owned : t.access = .owned) (outside : t.inner = []) : u.base = t.base ∧ u.inner = [] := by
  obtain ⟨_, rfl⟩ | ⟨absent, code, default, evaluated⟩ := takes_iff.mp takes
  · exact ⟨rfl, outside⟩
  · obtain ⟨_, _, again, kept⟩ := settle.last first absent default
    cases evaluated.symm.trans again
    refine ⟨base_of_settled owned evaluated (keys ▸ distinct) fun name member => ?_,
      evalSource_outside outside evaluated⟩
    rw [keys] at member
    obtain ⟨q, among, rfl⟩ := List.mem_map.mp member
    exact kept q among

/-- One more parameter behind those that are bound in order. -/
lemma BoundInOrder.concat {param : Param} {u : Scope Obj} {value : Value Obj}
    (bound : BoundInOrder params call s t) (first : Binds params call.positional call.named s t)
    (takes : param.Takes (call.get? params.length param.name) t value u)
    (fresh : param.name ∉ params.map (·.name)) (same : u.base = t.base) (outside : u.inner = []) :
    BoundInOrder (params ++ [param]) call s (u.setLocal param.name value) := by
  have keys := bound.keys
  obtain ⟨values, length, base, each⟩ := bound
  have long : t.base.length = params.length := by
    rw [base, List.length_zip, List.length_map, length, Nat.min_self]
  have whole : ((params ++ [param]).map (·.name)).zip (values ++ [value]) = t.base ++ [(param.name, value)] := by
    rw [List.map_append, List.zip_append (by rw [List.length_map, length]), base]
    rfl
  refine ⟨values ++ [value], ?length, ?base, ?each⟩
  case length =>
    rw [List.length_append, List.length_append, length]
    rfl
  case base =>
    rw [whole, setLocal_outside outside, same]
    exact Assoc.insert_of_notMem (keys ▸ fresh) value
  case each =>
    intro i q v here there
    rw [whole]
    rcases Nat.lt_or_ge i params.length with before | behind
    · rw [List.getElem?_append_left before] at here
      rw [List.getElem?_append_left (length ▸ before)] at there
      obtain ⟨w, w', prior, baseThere, takesThere⟩ := each i q v here there
      refine ⟨w, w', ?_, ?_, takesThere⟩
      · rwa [List.take_append_of_le_length (Nat.le_of_lt before)]
      · rw [baseThere, List.take_append_of_le_length (long ▸ Nat.le_of_lt before), base]
    · have inside := (List.getElem?_eq_some_iff.mp here).1
      rw [List.length_append, List.length_singleton] at inside
      obtain rfl : i = params.length := by omega
      rw [List.getElem?_concat_length] at here
      rw [← length, List.getElem?_concat_length] at there
      cases here
      cases there
      refine ⟨t, u, ?_, ?_, takes⟩
      · rwa [List.take_left]
      · rw [List.take_left' long]

/-- Parameters that are bound are bound in order. -/
lemma Binds.inOrder (binds : Binds params call.positional call.named s t)
    (names : (params.map (·.name)).Nodup) (settle : DefaultsSettle params call s)
    (owned : s.access = .owned) (outside : s.inner = []) (empty : s.base = []) :
    BoundInOrder params call s t := by
  induction params using List.reverseRecOn generalizing t with
  | nil =>
    cases binds
    exact ⟨[], rfl, empty, nofun⟩
  | append_singleton params param ih =>
    obtain ⟨distinct, fresh⟩ := nodup_names_concat names
    obtain ⟨u, value, u', first, takes, rfl⟩ := (binds_concat fresh).mp binds
    have bound := ih first distinct settle.init
    obtain ⟨owned, outside⟩ := first.stays_outside owned outside
    obtain ⟨same, outside⟩ := settle.keeps first takes bound.keys distinct owned outside
    exact bound.concat first takes fresh same outside

end Runs

/-- The check of a link and the binding of its arguments agree, if the names of the parameters differ, the
keywords differ and the defaults that are evaluated settle. What is bound is bound in order. -/
theorem binding_agrees_with_check (p : Passage) (target : String) (given : List (Arg × Value Obj))
    (vars : Vars Obj) (generator : Generator) (bindings : Bindings Obj)
    (names : (p.params.map (·.name)).Nodup) (keywords : (keywordNames (given.map (·.1))).Nodup)
    (settle : DefaultsSettle p.params (.of given) (Scope.start .owned vars [] generator bindings)) :
    (checkArity target p.params (given.map (·.1)) = .ok () ↔
      ∃ t, p.bindCall (.of given) (Scope.start .owned vars [] generator bindings) = (.ok (), t)) ∧
    ∀ t, p.bindCall (.of given) (Scope.start .owned vars [] generator bindings) = (.ok (), t) →
      BoundInOrder p.params (.of given) (Scope.start .owned vars [] generator bindings) t := by
  rw [checkArity_iff_callFits keywords]
  refine ⟨⟨fun fits => ?accepted, fun ⟨t, bound⟩ => ?bound⟩, fun t bound => ?ordered⟩
  case accepted =>
    obtain ⟨t, binds⟩ := binds_of_complete names fits.complete settle
    exact ⟨t, Passage.bindCall_eq_ok.mpr ⟨checkCall_eq_ok.mpr ⟨fits.few, fits.known, fits.once⟩, binds⟩⟩
  case bound =>
    obtain ⟨checked, binds⟩ := Passage.bindCall_eq_ok.mp bound
    obtain ⟨few, known, once⟩ := checkCall_eq_ok.mp checked
    exact ⟨few, known, once, binds.complete⟩
  case ordered =>
    exact (Passage.bindCall_eq_ok.mp bound).2.inOrder names settle rfl rfl rfl

omit [HostObject Obj] in
lemma eq_of_asText? {left right : Option (Value Obj)} (text : (right.bind Value.asText?).isSome)
    (same : left.bind Value.asText? = right.bind Value.asText?) : left = right := by
  have only {value? : Option (Value Obj)} {s : String} (here : value?.bind Value.asText? = some s) :
      value? = some (.str s) := by
    obtain ⟨value, rfl, here⟩ := Option.bind_eq_some_iff.mp here
    cases value with
    | str _ => cases here; rfl
    | _ => cases here
  obtain ⟨s, here⟩ := Option.isSome_iff_exists.mp text
  rw [only here, only (same.trans here)]

/-- A passage whose last parameter has a default that reads the others. -/
def salute : Passage :=
  ⟨"salute", [⟨"name", none⟩, ⟨"title", some "'Captain'"⟩, ⟨"line", some "title + ' ' + name"⟩], [], [], [], []⟩

section Salute

open Toybox

/-- Arguments for it with their values. -/
def toAda : List (Arg × Value Thing) :=
  [(⟨none, "'Ada'"⟩, .str "Ada"), (⟨some "title", "rank"⟩, .str "Admiral")]

def beforeSalute : Scope Thing :=
  .start .owned [] [] (Generator.ofSeed 7) []

/-- The scope in which the default is evaluated. -/
def inSalute : Scope Thing :=
  ((bindParams "salute" (salute.params.take 2) (CallArgs.of toAda).positional (CallArgs.of toAda).named :
    EntryM Thing Unit) beforeSalute).2

lemma salute_settles : DefaultsSettle salute.params (.of toAda) beforeSalute := by
  intro i param code u here absent default binds
  match i with
  | 0 => exact absurd (CallArgs.get?_eq_none.mp absent).1 (by decide +kernel)
  | 1 =>
    cases here
    exact absurd (CallArgs.get?_eq_none.mp absent).2 (by decide +kernel)
  | 2 =>
    cases here
    cases default
    have bound : (bindParams "salute" (salute.params.take 2) (CallArgs.of toAda).positional
        (CallArgs.of toAda).named : EntryM Thing Unit) beforeSalute = (.ok (), u) :=
      bindParams_eq_ok.mpr binds
    have here : u = inSalute := (congrArg Prod.snd bound).symm
    subst here
    rcases evaluated : (evalSource "title + ' ' + name" inSalute : Except EvalError (Value Thing) × Scope Thing)
      with ⟨reason | value, u'⟩
    · have good : ((evalSource "title + ' ' + name" : EvalM Thing (Value Thing)) inSalute).1.isOk := by
        decide +kernel
      rw [evaluated] at good
      cases good
    · refine ⟨value, u', rfl, fun q member => ?_⟩
      have kept : ∀ q ∈ salute.params.take 2,
          ((Assoc.get? inSalute.base q.name).bind Value.asText?).isSome ∧
            (Assoc.get? ((evalSource "title + ' ' + name" : EvalM Thing (Value Thing)) inSalute).2.base
              q.name).bind Value.asText? = (Assoc.get? inSalute.base q.name).bind Value.asText? := by
        decide +kernel
      rw [evaluated] at kept
      exact eq_of_asText? (kept q member).1 (kept q member).2
  | n + 3 => cases here

/-- The default is evaluated behind the other parameters and leaves them as they are. -/
theorem salute_binds :
    (salute.params.map (·.name)).Nodup ∧ (keywordNames (toAda.map (·.1))).Nodup ∧
      DefaultsSettle salute.params (.of toAda) beforeSalute ∧
      ∃ t, salute.bindCall (.of toAda) beforeSalute = (.ok (), t) ∧
        (Assoc.get? t.base "line").bind Value.asText? = some "Admiral Ada" ∧
        BoundInOrder salute.params (.of toAda) beforeSalute t := by
  have names : (salute.params.map (·.name)).Nodup := by decide +kernel
  have keywords : (keywordNames (toAda.map (·.1))).Nodup := by decide +kernel
  have checked : checkArity "salute" salute.params (toAda.map (·.1)) = .ok () := by decide +kernel
  obtain ⟨agrees, ordered⟩ :=
    binding_agrees_with_check salute "salute" toAda [] (Generator.ofSeed 7) [] names keywords salute_settles
  obtain ⟨t, bound⟩ := agrees.mp checked
  have line : (Assoc.get? (salute.bindCall (.of toAda) beforeSalute).2.base "line").bind Value.asText? =
      some "Admiral Ada" := by decide +kernel
  have bound : salute.bindCall (.of toAda) beforeSalute = (.ok (), t) := bound
  rw [bound] at line
  exact ⟨names, keywords, salute_settles, t, bound, line, ordered t bound⟩

end Salute

end BranchingStory
