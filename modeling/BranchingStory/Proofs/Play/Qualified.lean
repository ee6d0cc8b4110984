import BranchingStory.Proofs.Play.Untouched
import BranchingStory.Proofs.Save.Registered
import BranchingStory.Proofs.Script.Scanning
import BranchingStory.Source.Expand

/-!
# Names behind modules

What is registered in a module is called by its name behind the name of the module. This is so for modules
with a name of one part. A module path with points is read as attributes of a variable, so that what such
a module has is not found.
-/

namespace BranchingStory

open Script

variable {Obj : Type}

/-! ## What modules export -/

namespace Registration

def module : Registration Obj → String
  | .type entry => entry.origin
  | .function module _ _ => module
  | .value module _ _ => module

def name : Registration Obj → String
  | .type entry => entry.name
  | .function _ name _ => name
  | .value _ name _ => name

def binding : Registration Obj → Binding Obj
  | .type entry => .type entry
  | .function _ _ f => .function f
  | .value _ _ v => .value v

end Registration

namespace Registry

/-- Whether a binding is the last one that was registered under a name in a module. -/
def Exports (registrations : List (Registration Obj)) (module name : String) (binding : Binding Obj) : Prop :=
  ∃ before last after, registrations = before ++ last :: after ∧ last.module = module ∧ last.name = name ∧
    last.binding = binding ∧ ∀ later ∈ after, ¬(later.module = module ∧ later.name = name)

def export? (r : Registry Obj) (module name : String) : Option (Binding Obj) :=
  (Assoc.get? r.modules module).bind (Assoc.get? · name)

/-- The tables of a registry have each key once. -/
structure Distinct (r : Registry Obj) : Prop where
  modules : (Assoc.keys r.modules).Nodup
  exports : ∀ module exports, (module, exports) ∈ r.modules → (Assoc.keys exports).Nodup

variable {r : Registry Obj} {registrations : List (Registration Obj)} {module name : String}
  {binding : Binding Obj}

lemma register_modules (r : Registry Obj) (next : Registration Obj) :
    (r.register next).modules = (r.bind next.module next.name next.binding).modules := by
  cases next <;> rfl

/-- A binding is found under its module and name and replaces what was found there. -/
lemma export?_register (r : Registry Obj) (next : Registration Obj) (module name : String) :
    (r.register next).export? module name =
      if module = next.module ∧ name = next.name then some next.binding else r.export? module name := by
  rw [export?, export?, register_modules, Registry.bind]
  simp only [Assoc.get?_insert]
  by_cases sameModule : module = next.module
  · subst sameModule
    simp only [if_true, Option.bind_some, Assoc.get?_insert, true_and]
    cases Assoc.get? r.modules next.module with
    | none => rfl
    | some exports => rfl
  · simp only [sameModule, if_false, false_and]

lemma Distinct.register (distinct : r.Distinct) (next : Registration Obj) : (r.register next).Distinct := by
  have written : (Assoc.keys ((Assoc.get? r.modules next.module).getD [])).Nodup := by
    cases found : Assoc.get? r.modules next.module with
    | none => exact .nil
    | some exports => exact distinct.exports _ _ (Assoc.mem_of_get? found)
  constructor
  · rw [register_modules]
    exact Assoc.nodup_keys_insert distinct.modules _ _
  · intro module exports member
    rw [register_modules] at member
    rcases Assoc.mem_insert member with ⟨rfl, rfl⟩ | old
    · exact Assoc.nodup_keys_insert written _ _
    · exact distinct.exports module exports old

lemma distinct_ofRegistrations (registrations : List (Registration Obj)) :
    (ofRegistrations registrations).Distinct := by
  induction registrations using List.reverseRecOn with
  | nil => exact ⟨.nil, nofun⟩
  | append_singleton registrations next ih =>
    rw [ofRegistrations_concat]
    exact ih.register next

/-- A host has in its modules what was registered there last. -/
theorem export?_of_exports (exported : Exports registrations module name binding) :
    (ofRegistrations registrations).export? module name = some binding := by
  obtain ⟨before, last, after, rfl, rfl, rfl, rfl, none⟩ := exported
  induction after using List.reverseRecOn with
  | nil =>
    rw [ofRegistrations_concat, export?_register]
    exact if_pos ⟨rfl, rfl⟩
  | append_singleton after next ih =>
    have same := ih fun later member => none later (List.mem_append_left _ member)
    have other := none next (List.mem_append_right _ (List.mem_singleton.mpr rfl))
    rw [← List.cons_append, ← List.append_assoc, ofRegistrations_concat, export?_register, if_neg, same]
    rintro ⟨sameModule, sameName⟩
    exact other ⟨sameModule.symm, sameName.symm⟩

/-- A host has in its modules only what was registered. -/
lemma exists_of_export? (found : (ofRegistrations registrations).export? module name = some binding) :
    ∃ next ∈ registrations, next.module = module ∧ next.name = name := by
  induction registrations using List.reverseRecOn with
  | nil => cases found
  | append_singleton registrations next ih =>
    rw [ofRegistrations_concat, export?_register] at found
    split at found
    · next same => exact ⟨next, List.mem_append_right _ (List.mem_singleton.mpr rfl), same.1.symm, same.2.symm⟩
    · obtain ⟨earlier, member, same⟩ := ih found
      exact ⟨earlier, List.mem_append_left _ member, same⟩

/-- What nothing else in the table of a host is named is found under its name behind its module. -/
lemma get?_exports (distinct : r.Distinct) (found : r.export? module name = some binding)
    (alone : ∀ module' name' binding', r.export? module' name' = some binding' →
      name' ≠ module ++ "." ++ name ∧
        (module' ++ "." ++ name' = module ++ "." ++ name → module' = module ∧ name' = name)) :
    Assoc.get? r.exports (module ++ "." ++ name) = some binding := by
  -- The entries of the table that are written under this name.
  refine Assoc.get?_merge_of_only (fun other member => ?_) [] (.inl ?_)
  · obtain ⟨⟨module', exports⟩, ofModule, member⟩ := List.mem_flatMap.mp member
    obtain ⟨⟨name', binding'⟩, ofName, member⟩ := List.mem_flatMap.mp member
    have exported : r.export? module' name' = some binding' := by
      rw [export?, Assoc.get?_of_mem distinct.modules ofModule]
      exact Assoc.get?_of_mem (distinct.exports _ _ ofModule) ofName
    have apart := alone module' name' binding' exported
    simp only [List.mem_cons, Prod.mk.injEq, List.not_mem_nil, or_false] at member
    rcases member with ⟨same, _⟩ | ⟨same, rfl⟩
    · exact absurd same.symm apart.1
    · obtain ⟨rfl, rfl⟩ := apart.2 same.symm
      exact Option.some.inj (exported.symm.trans found)
  · obtain ⟨exports, ofModule, ofName⟩ := Option.bind_eq_some_iff.mp found
    refine List.mem_flatMap.mpr ⟨(module, exports), Assoc.mem_of_get? ofModule, ?_⟩
    refine List.mem_flatMap.mpr ⟨(name, binding), Assoc.mem_of_get? ofName, ?_⟩
    exact List.mem_cons_of_mem _ List.mem_cons_self

lemma get?_importNames {exports : List (String × Binding Obj)} {decl : Import} {key : String}
    (other : ∀ i ∈ decl.names, i.boundName ≠ key) (bindings : Bindings Obj) :
    Assoc.get? (importNames exports decl bindings).1 key = Assoc.get? bindings key := by
  let Same (result : Bindings Obj × List String) := Assoc.get? result.1 key = Assoc.get? bindings key
  refine List.foldlRecOn (motive := Same) decl.names _ rfl ?_
  rintro ⟨table, warnings⟩ same i member
  simp only [Same] at same ⊢
  cases Assoc.get? exports i.name with
  | none => exact same
  | some binding => rwa [Assoc.get?_insert, if_neg (other i member).symm]

/-- What no import binds is what it is without imports. -/
lemma get?_bindings {imports : List Import} {key : String}
    (other : ∀ decl ∈ imports, ∀ i ∈ decl.names, i.boundName ≠ key) (r : Registry Obj) :
    Assoc.get? (r.bindings imports).1 key = Assoc.get? r.exports key := by
  let Same (result : Bindings Obj × List String) := Assoc.get? result.1 key = Assoc.get? r.exports key
  refine List.foldlRecOn (motive := Same) imports _ rfl ?_
  rintro ⟨table, warnings⟩ same decl member
  simp only [Same] at same ⊢
  cases Assoc.get? r.modules decl.module with
  | none => exact same
  | some exports => exact (get?_importNames (other decl member) table).trans same

end Registry

/-! ## Points in names -/

section Points

lemma point_notMem_of_isIdentifier {cs : List Char} (identifier : Text.isIdentifier cs) : '.' ∉ cs := by
  intro member
  cases cs with
  | nil => cases member
  | cons c cs =>
    rw [Text.isIdentifier, Bool.and_eq_true] at identifier
    rcases List.mem_cons.mp member with rfl | behind
    · exact absurd identifier.1 (by decide +kernel)
    · exact absurd (List.all_eq_true.mp identifier.2 '.' behind) (by decide +kernel)

/-- The last point parts a name from its module. -/
lemma eq_of_points {front front' back back' : List Char} (plain : '.' ∉ back) (plain' : '.' ∉ back')
    (same : front ++ '.' :: back = front' ++ '.' :: back') : front = front' ∧ back = back' := by
  rcases List.append_eq_append_iff.mp same with ⟨more, rfl, rest⟩ | ⟨more, rfl, rest⟩
  · cases more with
    | nil => exact ⟨(List.append_nil _).symm, (List.cons.inj rest).2⟩
    | cons c more =>
      obtain ⟨-, rfl⟩ := List.cons.inj rest
      simp at plain
  · cases more with
    | nil => exact ⟨List.append_nil _, (List.cons.inj rest).2.symm⟩
    | cons c more =>
      obtain ⟨-, rfl⟩ := List.cons.inj rest
      simp at plain'

lemma eq_of_qualified {module module' name name' : String} (plain : '.' ∉ name.toList)
    (plain' : '.' ∉ name'.toList) (same : module' ++ "." ++ name' = module ++ "." ++ name) :
    module' = module ∧ name' = name := by
  have points := congrArg String.toList same
  simp only [String.toList_append, List.append_assoc] at points
  obtain ⟨sameModule, sameName⟩ := eq_of_points plain' plain points
  exact ⟨String.toList_inj.mp sameModule, String.toList_inj.mp sameName⟩

lemma ne_qualified {other : String} (plain : '.' ∉ other.toList) (module name : String) :
    other ≠ module ++ "." ++ name := by
  rintro rfl
  simp [String.toList_append] at plain

/-- Whether an import stands in an import line. -/
def Import.IsRead (decl : Import) : Prop :=
  ∃ line number decls, Source.readImport? line number = some (.ok decls) ∧ decl ∈ decls

lemma names_of_readModules {number : Nat} {items : List (List Char)} {decls : List Import}
    (read : Source.readModules number items = .ok decls) : ∀ decl ∈ decls, decl.names = [] := by
  induction items generalizing decls with
  | nil =>
    cases read
    exact List.forall_mem_nil _
  | cons item items ih =>
    simp only [Source.readModules, check_eq_ok, bind_eq_ok, pure_eq_ok] at read
    obtain ⟨_, more, later, rfl⟩ := read
    exact List.forall_mem_cons.mpr ⟨rfl, ih later⟩

lemma point_notMem_of_readImportName {item : List Char} {i : ImportName}
    (read : Source.readImportName item = .ok i) : '.' ∉ i.boundName.toList := by
  unfold Source.readImportName at read
  simp only at read
  split at read
  · split at read
    · next identifier =>
      cases read
      simpa [ImportName.boundName] using point_notMem_of_isIdentifier identifier
    · cases read
  · split at read
    · next identifiers =>
      cases read
      simpa [ImportName.boundName] using point_notMem_of_isIdentifier identifiers.2.2
    · cases read
  · cases read

lemma names_of_readNames {module names : List Char} {number : Nat} {decls : List Import}
    (read : Source.readNames module names number = .ok decls) :
    ∀ decl ∈ decls, ∀ i ∈ decl.names, '.' ∉ i.boundName.toList := by
  simp only [Source.readNames, check_eq_ok, bind_eq_ok, pure_eq_ok] at read
  obtain ⟨_, taken, named, _, rfl⟩ := read
  intro decl member i inNames
  cases List.mem_singleton.mp member
  obtain ⟨item, _, made⟩ := exists_of_mapM named i inNames
  exact point_notMem_of_readImportName made

/-- An import line binds identifiers. -/
lemma Import.IsRead.names {decl : Import} (read : decl.IsRead) :
    ∀ i ∈ decl.names, '.' ∉ i.boundName.toList := by
  obtain ⟨line, number, decls, read, member⟩ := read
  unfold Source.readImport? at read
  split at read
  · have none := names_of_readModules (Option.some.inj read) decl member
    rw [none]
    exact List.forall_mem_nil _
  · split at read
    · exact names_of_readNames (Option.some.inj read) decl member
    · cases read

end Points

/-! ## Scopes behind arguments -/

namespace Scope

/-- What an expression leaves to the names of a scope: what the host binds, and which names are variables. -/
structure Knows (s t : Scope Obj) : Prop where
  bindings : t.bindings = s.bindings
  inner : t.inner.map Assoc.keys = s.inner.map Assoc.keys
  outer : ∀ name, name ∈ Assoc.keys t.base ∨ name ∈ Assoc.keys t.state ↔
    name ∈ Assoc.keys s.base ∨ name ∈ Assoc.keys s.state

instance : IsPreorder (Scope Obj) Knows where
  refl _ := ⟨rfl, rfl, fun _ => .rfl⟩
  trans _ _ _ first second := ⟨second.bindings.trans first.bindings, second.inner.trans first.inner,
    fun name => (second.outer name).trans (first.outer name)⟩

lemma knows_changeVariable {α : Type} (s : Scope Obj) (name : String) (change : Change Obj α) :
    s.Knows (s.changeVariable name change).2 := by
  unfold changeVariable
  split
  · next changed => exact ⟨rfl, keys_changeFirst changed, fun _ => .rfl⟩
  · split
    · next found =>
      have present : name ∈ Assoc.keys s.base := Assoc.get?_isSome_iff.mp (by rw [found]; rfl)
      exact ⟨rfl, rfl, fun _ => by rw [Assoc.keys_insert present]⟩
    · -- The copy of a session variable.
      next found _ =>
      have present : name ∈ Assoc.keys s.state := Assoc.get?_isSome_iff.mp (by rw [found]; rfl)
      refine ⟨rfl, rfl, fun other => ?_⟩
      rw [Assoc.mem_keys_insert]
      constructor
      · rintro ((rfl | inBase) | inState)
        · exact .inr present
        · exact .inl inBase
        · exact .inr inState
      · exact Or.imp_left .inr
    · next found _ =>
      have present : name ∈ Assoc.keys s.state := Assoc.get?_isSome_iff.mp (by rw [found]; rfl)
      exact ⟨rfl, rfl, fun _ => by rw [Assoc.keys_insert present]⟩
    · exact refl_of Knows s

instance : EvalClosed (@Knows Obj) where
  draw _ _ := ⟨rfl, rfl, fun _ => .rfl⟩
  change := knows_changeVariable
  outside s t knows framed := by
    have inner := knows.inner
    refine ⟨fun empty => ?_, knows.bindings, ?_, knows.outer⟩
    · rw [empty] at inner
      exact framed (List.map_eq_nil_iff.mp inner.symm)
    · change (t.inner.drop 1).map Assoc.keys = (s.inner.drop 1).map Assoc.keys
      rw [List.map_drop, List.map_drop, inner]

lemma contains_iff (s : Scope Obj) (name : String) :
    s.contains name ↔
      (∃ names ∈ s.inner.map Assoc.keys, name ∈ names) ∨ name ∈ Assoc.keys s.base ∨
        name ∈ Assoc.keys s.state := by
  have inFrame : (s.inner.findSome? (Assoc.get? · name)).isSome ↔
      ∃ names ∈ s.inner.map Assoc.keys, name ∈ names := by
    simp only [List.findSome?_isSome_iff, Assoc.get?_isSome_iff, List.mem_map, exists_exists_and_eq_and]
  rw [← inFrame, ← Assoc.get?_isSome_iff, ← Assoc.get?_isSome_iff, contains, get?]
  split
  · next found => simp [found]
  · next none =>
    rw [none]
    split
    · next found => simp [found]
    · next none => simp [none]

lemma Knows.contains {s t : Scope Obj} (knows : s.Knows t) (name : String) :
    t.contains name = s.contains name := by
  rw [Bool.eq_iff_iff, contains_iff, contains_iff, knows.inner, knows.outer]

end Scope

/-! ## Calls -/

/-- The expression that the parts of a module path are in front of a name. -/
def modulePath (first : String) (rest : List String) : Expr :=
  rest.foldl .attr (.name first)

lemma modulePath_concat (first : String) (rest : List String) (last : String) :
    modulePath first (rest ++ [last]) = .attr (modulePath first rest) last := by
  rw [modulePath, List.foldl_append]
  rfl

section Calls

variable {registrations : List (Registration Obj)} {imports : List Import} {s s₁ s₂ : Scope Obj}
  {first name : String} {rest : List String} {binding : Binding Obj}

/-- What is found behind the name of a module is what the module exports. -/
lemma qualified?_of_exports {module : String} (plain : ∀ next ∈ registrations, '.' ∉ next.name.toList)
    (read : ∀ decl ∈ imports, decl.IsRead)
    (bound : s.bindings = ((Registry.ofRegistrations registrations).bindings imports).1)
    (exported : Registry.Exports registrations module name binding) (hidden : s.contains module = false) :
    qualified? (.name module) name s = some binding := by
  have found := Registry.export?_of_exports exported
  have plainName {module name : String} {binding : Binding Obj}
      (found : (Registry.ofRegistrations registrations).export? module name = some binding) :
      '.' ∉ name.toList := by
    obtain ⟨next, member, _, rfl⟩ := Registry.exists_of_export? found
    exact plain next member
  rw [qualified?, hidden, bound]
  refine (Registry.get?_bindings (fun decl member i inNames => ?_) _).trans
    (Registry.get?_exports (Registry.distinct_ofRegistrations registrations) found ?_)
  · exact ne_qualified ((read decl member).names i inNames) module name
  · intro module' name' binding' found'
    exact ⟨ne_qualified (plainName found') module name, eq_of_qualified (plainName found) (plainName found')⟩

/-- A path of several parts is no name of a module. -/
lemma qualified?_modulePath (first second : String) (more : List String) (name : String) (s : Scope Obj) :
    qualified? (modulePath first (second :: more)) name s = none := by
  rcases List.eq_nil_or_concat more with rfl | ⟨front, last, rfl⟩
  · rfl
  · rw [List.concat_eq_append, ← List.cons_append, modulePath_concat]
    rfl

variable [HostObject Obj] {args : List Expr} {named : List (String × Expr)} {positional : List (Value Obj)}
  {keywords : List (String × Value Obj)}

lemma knows_arguments (ofArgs : evalItems args s = (.ok positional, s₁))
    (ofNamed : evalNamed named [] s₁ = (.ok keywords, s₂)) : s.Knows s₂ := by
  have first : s.Knows (evalItems args s).2 :=
    evalItems_leaves args (fun called _ => callLeaves called) s
  have second : s₁.Knows (evalNamed named [] s₁).2 :=
    evalNamed_leaves named (fun called _ => callLeaves called) [] s₁
  rw [ofArgs] at first
  rw [ofNamed] at second
  exact trans_of Scope.Knows first second

/-- An attribute of what fails fails. -/
lemma eval_attr {base : Expr} {reason : EvalError} (attr : String) (unqualified : qualified? base attr s = none)
    (failed : eval base s = (.error reason, s)) : eval (.attr base attr) s = (.error reason, s) := by
  simp only [eval, bind_apply, EvalM.view, unqualified, failed]

/-- A name that stands for nothing is not found, nor are its attributes. -/
lemma eval_modulePath {first second : String} (more : List String) (hidden : s.contains first = false)
    (unbound : Assoc.get? s.bindings first = none) (noFunction : Function.ofName? first = none)
    (unqualified : Assoc.get? s.bindings (first ++ "." ++ second) = none) :
    eval (modulePath first (second :: more)) s = (.error (.undefinedName first), s) := by
  have noVariable : s.get? first = none := Option.not_isSome_iff_eq_none.mp (Bool.eq_false_iff.mp hidden)
  have noName : eval (.name first) s = (.error (.undefinedName first), s) := by
    simp only [eval, bind_apply, EvalM.view, lookup, noVariable, unbound, noFunction]
    rfl
  induction more using List.reverseRecOn with
  | nil =>
    refine eval_attr second ?_ noName
    rw [qualified?, hidden]
    exact unqualified
  | append_singleton more last ih =>
    rw [← List.cons_append, modulePath_concat]
    exact eval_attr last (qualified?_modulePath first second more last s) ih

/-- Where the first part of a module path is no variable, a name behind the path is called: a path of one part
stands for what was registered in this module last, which gets the arguments. A path of more parts stands for
nothing, although its module is there: its first part is looked up as a variable and not found, unless the host
has something else under it or under it and the second part. -/
theorem calls_through_module (plain : ∀ next ∈ registrations, '.' ∉ next.name.toList)
    (read : ∀ decl ∈ imports, decl.IsRead)
    (bound : s.bindings = ((Registry.ofRegistrations registrations).bindings imports).1)
    (exported : Registry.Exports registrations (".".intercalate (first :: rest)) name binding)
    (hidden : s.contains first = false) (ofArgs : evalItems args s = (.ok positional, s₁))
    (ofNamed : evalNamed named [] s₁ = (.ok keywords, s₂)) :
    (rest = [] →
      (∀ f, binding = .function f →
        eval (.call (.attr (modulePath first rest) name) args named) s = (f ⟨positional, keywords⟩, s₂)) ∧
      ∀ entry construct, binding = .type entry → entry.construct? = some construct →
        eval (.call (.attr (modulePath first rest) name) args named) s =
          ((construct ⟨positional, keywords⟩).map .object, s₂)) ∧
    ∀ second more, rest = second :: more → Assoc.get? s.bindings first = none →
      Function.ofName? first = none → Assoc.get? s.bindings (first ++ "." ++ second) = none →
      eval (.call (.attr (modulePath first rest) name) args named) s = (.error (.undefinedName first), s₂) := by
  have knows := knows_arguments ofArgs ofNamed
  have hidden' : s₂.contains first = false := (knows.contains first).trans hidden
  constructor
  · rintro rfl
    have found : qualified? (.name first) name s₂ = some binding :=
      qualified?_of_exports plain read (knows.bindings.trans bound) exported hidden'
    have called := eval_call (.name first) name ofArgs ofNamed
    rw [found] at called
    refine ⟨fun f isFunction => ?_, fun entry construct isType constructs => ?_⟩
    · rw [isFunction] at called
      exact called
    · simp only [isType, callBinding, constructs] at called
      exact called
  · rintro second more rfl unbound noFunction unqualified
    rw [← knows.bindings] at unbound unqualified
    have missing := eval_modulePath more hidden' unbound noFunction unqualified
    rw [eval_call _ name ofArgs ofNamed, qualified?_modulePath]
    simp only [callOn, bind_apply, missing]

end Calls

/-! ## Dice of two modules -/

namespace Toybox

def roll (args : CallArgs Thing) : Except EvalError (Value Thing) :=
  .ok ((args.get? 0 "sides").getD (.int 6))

/-- A host with cards, and with dice in two modules, of which one has a point in its name. -/
def gamesHost : List (Registration Thing) :=
  [.function "dice" "roll" fun _ => .ok .none, .type cardType, .function "dice" "roll" roll,
    .function "games.dice" "roll" roll]

def gamesImports : List Import :=
  [⟨"games.dice", [], 1⟩, ⟨"tarot", [⟨"Card", some "Arcana"⟩], 2⟩]

/-- A scope of a story with some imports. -/
def atGames (imports : List Import) : Scope Thing :=
  .start .owned [("sides", .int 4), ("label", .str "Fool")] [] (.ofSeed 0)
    ((Registry.ofRegistrations gamesHost).bindings imports).1

/-- The dice are rolled behind the module with a name of one part, and not behind the other one. -/
theorem dice_called :
    eval (.call (.attr (modulePath "dice" []) "roll") [.name "sides"] []) (atGames gamesImports) =
        (.ok (.int 4), atGames gamesImports) ∧
      eval (.call (.attr (modulePath "games" ["dice"]) "roll") [.name "sides"] []) (atGames gamesImports) =
        (.error (.undefinedName "games"), atGames gamesImports) := by
  have plain : ∀ next ∈ gamesHost, '.' ∉ next.name.toList := by
    simp [gamesHost, Registration.name, cardType]
  have read : ∀ decl ∈ gamesImports, decl.IsRead := by
    simp only [gamesImports, List.forall_mem_cons]
    refine ⟨⟨"import games.dice".toList, 1, _, rfl, List.mem_singleton.mpr rfl⟩,
      ⟨"from tarot import Card as Arcana".toList, 2, _, rfl, List.mem_singleton.mpr rfl⟩, List.forall_mem_nil _⟩
  have ofDice : Registry.Exports gamesHost (".".intercalate ["dice"]) "roll" (.function roll) :=
    ⟨[.function "dice" "roll" fun _ => .ok .none, .type cardType], .function "dice" "roll" roll,
      [.function "games.dice" "roll" roll], rfl, rfl, rfl, rfl, by simp [Registration.module]⟩
  have ofGames : Registry.Exports gamesHost (".".intercalate ["games", "dice"]) "roll" (.function roll) :=
    ⟨gamesHost.take 3, .function "games.dice" "roll" roll, [], rfl, rfl, rfl, rfl, List.forall_mem_nil _⟩
  have ofArgs : evalItems [.name "sides"] (atGames gamesImports) = (.ok [.int 4], atGames gamesImports) := rfl
  have ofNamed : evalNamed [] [] (atGames gamesImports) = (.ok [], atGames gamesImports) := rfl
  constructor
  · exact ((calls_through_module plain read rfl ofDice rfl ofArgs ofNamed).1 rfl).1 roll rfl
  · exact (calls_through_module plain read rfl ofGames rfl ofArgs ofNamed).2 "dice" [] rfl rfl rfl rfl

/-- The dice of the module with a point in its name are not reached, although the import of the module is
accepted and answered. An import that binds a name with a point, which no import line does, puts the dice in
the place of the cards. -/
theorem dotted_dice_unreached :
    (Registry.Exports gamesHost "games.dice" "roll" (.function roll) ∧
      Source.readImport? "import games.dice".toList 1 = some (.ok [⟨"games.dice", [], 1⟩]) ∧
      ((Registry.ofRegistrations gamesHost).bindings [⟨"games.dice", [], 1⟩]).2 = [] ∧
      (atGames [⟨"games.dice", [], 1⟩]).contains "games" = false ∧
      roll ⟨[.int 4], []⟩ = .ok (.int 4) ∧
      (evalSource "games.dice.roll(sides)" (atGames [⟨"games.dice", [], 1⟩])).1 =
        .error (.undefinedName "games")) ∧
    Registry.Exports gamesHost "tarot" "Card" (.type cardType) ∧
      (atGames [⟨"dice", [⟨"roll", some "tarot.Card"⟩], 1⟩]).contains "tarot" = false ∧
      (evalSource "tarot.Card(label, sides)" (atGames [])).1 = .ok (.object (.card "Fool" 4)) ∧
      (evalSource "tarot.Card(label, sides)" (atGames [⟨"dice", [⟨"roll", some "tarot.Card"⟩], 1⟩])).1 =
        .ok (.str "Fool") := by
  refine ⟨⟨?_, rfl, rfl, rfl, rfl, rfl⟩, ?_, rfl, rfl, rfl⟩
  · exact ⟨gamesHost.take 3, .function "games.dice" "roll" roll, [], rfl, rfl, rfl, rfl, List.forall_mem_nil _⟩
  · refine ⟨gamesHost.take 1, .type cardType, gamesHost.drop 2, rfl, rfl, rfl, rfl, ?_⟩
    simp [gamesHost, Registration.module]

end Toybox

end BranchingStory
