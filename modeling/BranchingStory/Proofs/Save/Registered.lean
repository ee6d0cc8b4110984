import Mathlib.Data.List.Induction
import BranchingStory.Host.Toybox
import BranchingStory.Proofs.Save.Restoring

/-!
# Objects and the types of a host

A host is built by registering types, functions and constants in any order. A saved object is restored by
the last type that was registered under its name, so that it is restored by the type of its own module as
long as no other module registers this name later. Types that were registered before do no harm.
-/

namespace BranchingStory

variable {Obj : Type}

/-! ## Registering -/

/-- One step in building a host. -/
inductive Registration (Obj : Type) where
  | type (entry : HostType Obj)
  | function (module name : String) (f : CallArgs Obj → Except EvalError (Value Obj))
  | value (module name : String) (v : Value Obj)

namespace Registry

def register (r : Registry Obj) : Registration Obj → Registry Obj
  | .type entry => r.addType entry
  | .function module name f => r.addFunction module name f
  | .value module name v => r.addValue module name v

def ofRegistrations (registrations : List (Registration Obj)) : Registry Obj :=
  registrations.foldl register empty

/-- A type is the last one that was registered under its name, by whichever module. -/
def IsLast (registrations : List (Registration Obj)) (entry : HostType Obj) : Prop :=
  ∃ before after, registrations = before ++ .type entry :: after ∧
    ∀ later, .type later ∈ after → later.name ≠ entry.name

variable {registrations : List (Registration Obj)} {entry : HostType Obj}

/-- What a name of a type stands for stays what it is while no type of this name is registered. -/
lemma IsLast.concat {next : Registration Obj} (last : IsLast registrations entry)
    (other : ∀ later, next = .type later → later.name ≠ entry.name) :
    IsLast (registrations ++ [next]) entry := by
  obtain ⟨before, after, rfl, none⟩ := last
  refine ⟨before, after ++ [next], by simp, fun later member => ?_⟩
  rcases List.mem_append.mp member with early | isNext
  · exact none later early
  · exact other later (List.mem_singleton.mp isNext).symm

lemma ofRegistrations_concat (registrations : List (Registration Obj)) (last : Registration Obj) :
    ofRegistrations (registrations ++ [last]) = (ofRegistrations registrations).register last := by
  unfold ofRegistrations
  rw [List.foldl_append]
  rfl

/-- A type is found under its name and replaces what was found there; functions and constants change nothing
about types. -/
lemma type?_register (r : Registry Obj) (last : Registration Obj) (name : String) :
    (r.register last).type? name =
      match last with
      | .type entry => if name = entry.name then some entry else r.type? name
      | _ => r.type? name := by
  cases last with
  | type entry => exact Assoc.get?_insert r.types entry.name entry name
  | function => rfl
  | value => rfl

/-- A host finds the last type that was registered under a name. -/
theorem type?_of_isLast (last : IsLast registrations entry) :
    (ofRegistrations registrations).type? entry.name = some entry := by
  obtain ⟨before, after, rfl, none⟩ := last
  induction after using List.reverseRecOn with
  | nil =>
    rw [ofRegistrations_concat, type?_register]
    exact if_pos rfl
  | append_singleton after next ih =>
    have same := ih fun later member => none later (List.mem_append_left _ member)
    rw [← List.cons_append, ← List.append_assoc, ofRegistrations_concat, type?_register]
    cases next with
    | type later =>
      have other := none later (List.mem_append_right _ (List.mem_singleton.mpr rfl))
      simp only [Ne.symm other, if_false]
      exact same
    | function => exact same
    | value => exact same

end Registry

/-! ## Restoring by a type -/

variable [HostObject Obj]

/-- What a type makes of the payload of an envelope, and the warnings: an object by its importer; or else by
writing saved fields into its blank object, if it is not only a text that was saved; or else the payload is
left as it is. -/
inductive HostType.Restores (entry : HostType Obj) (e : Envelope) (payload : Value Obj) :
    Warned (Value Obj) → Prop where
  | imported {importer o} :
    entry.importer? = some importer →
    importer payload = .ok o →
    Restores entry e payload (.object o, [])
  | filled {blank fields o warnings} :
    (∀ importer o, entry.importer? = some importer → importer payload ≠ .ok o) →
    entry.blank? = some blank →
    payload = .dict fields →
    e.strategy ≠ .string →
    fields.foldlM (fun o field => HostObject.setAttr o field.1 field.2) blank = .ok o →
    (entry.importer? = none → warnings = []) →
    Restores entry e payload (.object o, warnings)
  | raw {warnings} :
    (∀ importer o, entry.importer? = some importer → importer payload ≠ .ok o) →
    (∀ blank fields o, entry.blank? = some blank → payload = .dict fields → e.strategy ≠ .string →
      fields.foldlM (fun o field => HostObject.setAttr o field.1 field.2) blank ≠ .ok o) →
    warnings ≠ [] →
    Restores entry e payload (payload, warnings)

namespace Save

variable {r : Registry Obj} {entry : HostType Obj} {e : Envelope} {payload : Value Obj}

/-- An envelope is read as a value that needs no host: a float by its text, or a dictionary by its entries. -/
def IsNative (e : Envelope) : Prop :=
  (savedFloat? e).isSome ∨ isSavedDict e ∧ (bareEntries? e).isSome

lemma not_isNative_of_explicit (explicit : e.strategy = .explicit) : ¬IsNative e := by
  rintro (float | ⟨dict, -⟩)
  · unfold savedFloat? at float
    split at float
    · simp [explicit] at float
    · cases float
  · simp [isSavedDict, explicit] at dict

lemma native_none (hosted : ¬IsNative e) :
    savedFloat? e = none ∧ (isSavedDict e → bareEntries? e = none) := by
  rw [IsNative, not_or, not_and] at hosted
  exact ⟨Option.not_isSome_iff_eq_none.mp hosted.1,
    fun saved => Option.not_isSome_iff_eq_none.mp (hosted.2 saved)⟩

/-- An object exports itself, and the importer of the last type of its name makes it again. -/
def ComesBack (registrations : List (Registration Obj)) (o : Obj) : Prop :=
  ∃ entry importer payload, entry.name = HostText.typeName o ∧ Registry.IsLast registrations entry ∧
    entry.importer? = some importer ∧ HostObject.capability o = .exported payload ∧
    importer payload = .ok o

variable {registrations : List (Registration Obj)}

-- The recursion is that of saving: it ends because an object outweighs what it gives away.
mutual

theorem decode_comesBack : (value : Value Obj) → (∀ o ∈ value.objects, ComesBack registrations o) →
    decode (Registry.ofRegistrations registrations) (encode value).1 = (value, [])
  | .none, _ => decode_encode _ _ rfl
  | .bool _, _ => decode_encode _ _ rfl
  | .int _, _ => decode_encode _ _ rfl
  | .float _, _ => decode_encode _ _ rfl
  | .str _, _ => decode_encode _ _ rfl
  | .list items, all => by
    rw [Value.objects] at all
    simp only [encode, decode, decodeItems_comesBack items all]
  | .dict fields, all => by
    rw [Value.objects] at all
    simp only [encode, decode_dict, decodeFields_comesBack fields all]
  | .object o, all => decodeObject_comesBack o all
termination_by value => 2 * value.weight (@HostObject.weight Obj _) + 1
decreasing_by all_goals simp only [Value.weight]; omega

theorem decodeItems_comesBack : (items : List (Value Obj)) →
    (∀ o ∈ objectsOfItems items, ComesBack registrations o) →
    decodeItems (Registry.ofRegistrations registrations) (encodeItems items).1 = (items, [])
  | [], _ => by
    simp only [encodeItems, decodeItems]
  | item :: items, all => by
    simp only [objectsOfItems, List.forall_mem_append] at all
    simp only [encodeItems, decodeItems, decode_comesBack item all.1, decodeItems_comesBack items all.2,
      List.append_nil]
termination_by items => 2 * Value.weightItems (@HostObject.weight Obj _) items
decreasing_by all_goals simp only [Value.weightItems]; omega

theorem decodeFields_comesBack : (fields : List (String × Value Obj)) →
    (∀ o ∈ objectsOfFields fields, ComesBack registrations o) →
    decodeFields (Registry.ofRegistrations registrations) (encodeFields fields).1 = (fields, [])
  | [], _ => by
    simp only [encodeFields, decodeFields]
  | (_, value) :: fields, all => by
    simp only [objectsOfFields, List.forall_mem_append] at all
    simp only [encodeFields, decodeFields, decode_comesBack value all.1, decodeFields_comesBack fields all.2,
      List.append_nil]
termination_by fields => 2 * Value.weightFields (@HostObject.weight Obj _) fields
decreasing_by all_goals simp only [Value.weightFields]; omega

theorem decodeObject_comesBack (o : Obj)
    (all : ∀ inner ∈ (Value.object o).objects, ComesBack registrations inner) :
    decode (Registry.ofRegistrations registrations) (encode (.object o)).1 = (.object o, []) := by
  have shrinks := HostObject.weight_capability o
  simp only [Value.objects, List.forall_mem_cons] at all
  obtain ⟨⟨entry, importer, payload, named, last, imports, exported, made⟩, within⟩ := all
  simp only [objectsWithin_eq, exported] at within
  have back := decode_comesBack payload within
  have known : (Registry.ofRegistrations registrations).type? (encodeObject o).1.typeName = some entry := by
    rw [encodeObject_typeName, ← named]
    exact Registry.type?_of_isLast last
  have given : givenAway o = payload := by
    unfold givenAway
    rw [exported]
  have explicit : (encodeObject o).1.strategy = .explicit := by
    rw [encodeObject_eq, exported]
  obtain ⟨noFloat, noDict⟩ := native_none (not_isNative_of_explicit explicit)
  have restored := decode_header (Registry.ofRegistrations registrations)
    (ofFields?_toJson (encodeObject o).1) noFloat noDict
  rw [decodePayload_object, given, back, restore_imported known imports made] at restored
  rw [encode]
  exact restored
termination_by 2 * HostObject.weight o
decreasing_by
  simp only [exported, Capability.weight] at shrinks
  omega

end

open Toybox

end Save

end BranchingStory
