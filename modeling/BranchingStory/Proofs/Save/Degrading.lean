import BranchingStory.Proofs.Save.Restoring

/-!
# Restoring without the types of the host

What comes back where the host knows no types: the data that the objects gave away stands in their places,
with one warning for each of them. Whatever is restored, an object in it was made by the host.
-/

namespace BranchingStory

variable {Obj : Type} [HostObject Obj]

/-! ## The data of a value -/

mutual

/-- The data that is left of a value without its objects: what an object exports, its fields or its text
stand for the object. -/
def Value.raw (value : Value Obj) : Value Obj :=
  match value with
  | .list items => .list (rawItems items)
  | .dict fields => .dict (rawFields fields)
  | .object o => rawObject o
  | value => value
termination_by 2 * value.weight (@HostObject.weight Obj _) + 1
decreasing_by all_goals simp only [Value.weight]; omega

def rawItems (items : List (Value Obj)) : List (Value Obj) :=
  match items with
  | [] => []
  | item :: items => item.raw :: rawItems items
termination_by 2 * Value.weightItems (@HostObject.weight Obj _) items
decreasing_by all_goals simp only [Value.weightItems]; omega

def rawFields (fields : List (String × Value Obj)) : List (String × Value Obj) :=
  match fields with
  | [] => []
  | (key, value) :: fields => (key, value.raw) :: rawFields fields
termination_by 2 * Value.weightFields (@HostObject.weight Obj _) fields
decreasing_by all_goals simp only [Value.weightFields]; omega

/-- Of two fields with one name the later one counts. -/
def rawObject (o : Obj) : Value Obj :=
  match _given : HostObject.capability o with
  | .exported payload => payload.raw
  | .reflected fields => .dict (Assoc.ofEntries (rawFields fields))
  | .displayed => .str (HostText.display o)
termination_by 2 * HostObject.weight o
decreasing_by
  all_goals
    have shrinks := HostObject.weight_capability o
    simp only [_given, Capability.weight] at shrinks
    omega

end

mutual

/-- The objects that the saved form of a value has an envelope for, each behind those in its payload. -/
def Value.enveloped (value : Value Obj) : List Obj :=
  match value with
  | .list items => envelopedInItems items
  | .dict fields => (Assoc.values (envelopedByField fields)).flatten
  | .object o => envelopedWithin o ++ [o]
  | _ => []
termination_by 2 * value.weight (@HostObject.weight Obj _) + 1
decreasing_by all_goals simp only [Value.weight]; omega

def envelopedInItems (items : List (Value Obj)) : List Obj :=
  match items with
  | [] => []
  | item :: items => item.enveloped ++ envelopedInItems items
termination_by 2 * Value.weightItems (@HostObject.weight Obj _) items
decreasing_by all_goals simp only [Value.weightItems]; omega

def envelopedByField (fields : List (String × Value Obj)) : List (String × List Obj) :=
  match fields with
  | [] => []
  | (key, value) :: fields => (key, value.enveloped) :: envelopedByField fields
termination_by 2 * Value.weightFields (@HostObject.weight Obj _) fields
decreasing_by all_goals simp only [Value.weightFields]; omega

/-- A field that a later one with its name is written over is not saved. -/
def envelopedWithin (o : Obj) : List Obj :=
  match _given : HostObject.capability o with
  | .exported payload => payload.enveloped
  | .reflected fields => (Assoc.values (Assoc.ofEntries (envelopedByField fields))).flatten
  | .displayed => []
termination_by 2 * HostObject.weight o
decreasing_by
  all_goals
    have shrinks := HostObject.weight_capability o
    simp only [_given, Capability.weight] at shrinks
    omega

end

lemma rawFields_eq_map (fields : List (String × Value Obj)) :
    rawFields fields = fields.map fun (key, value) => (key, value.raw) := by
  induction fields with
  | nil => simp only [rawFields, List.map_nil]
  | cons field fields ih =>
    obtain ⟨key, value⟩ := field
    simp only [rawFields, ih, List.map_cons]

lemma envelopedByField_eq_map (fields : List (String × Value Obj)) :
    envelopedByField fields = fields.map fun (key, value) => (key, value.enveloped) := by
  induction fields with
  | nil => simp only [envelopedByField, List.map_nil]
  | cons field fields ih =>
    obtain ⟨key, value⟩ := field
    simp only [envelopedByField, ih, List.map_cons]

/-- The data of an object is that of what it gives away. -/
lemma raw_object (o : Obj) : (Value.object o).raw = (givenAway o).raw := by
  rw [Value.raw, rawObject, givenAway]
  split <;> next given =>
    simp only [given, Value.raw, rawFields_eq_map, Assoc.ofEntries_map fun value : Value Obj => value.raw]

lemma enveloped_object (o : Obj) : (Value.object o).enveloped = (givenAway o).enveloped ++ [o] := by
  rw [Value.enveloped, envelopedWithin, givenAway]
  split <;> next given =>
    simp only [given, Value.enveloped, envelopedByField_eq_map,
      Assoc.ofEntries_map fun value : Value Obj => value.enveloped]

omit [HostObject Obj] in
lemma weightFields_insert_le (objectWeight : Obj → Nat) (fields : List (String × Value Obj)) (key : String)
    (value : Value Obj) :
    Value.weightFields objectWeight (Assoc.insert fields key value) ≤
      Value.weightFields objectWeight fields + value.weight objectWeight + 1 := by
  induction fields with
  | nil =>
    simp only [Assoc.insert, Value.weightFields]
    omega
  | cons field fields ih =>
    obtain ⟨name, old⟩ := field
    unfold Assoc.insert
    split
    · simp only [Value.weightFields]
      omega
    · simp only [Value.weightFields]
      omega

omit [HostObject Obj] in
lemma weightFields_merge_le (objectWeight : Obj → Nat) (fields more : List (String × Value Obj)) :
    Value.weightFields objectWeight (Assoc.merge fields more) ≤
      Value.weightFields objectWeight fields + Value.weightFields objectWeight more := by
  induction more generalizing fields with
  | nil => exact Nat.le_add_right _ _
  | cons field more ih =>
    obtain ⟨key, value⟩ := field
    have here := weightFields_insert_le objectWeight fields key value
    have behind := ih (Assoc.insert fields key value)
    simp only [Value.weightFields]
    exact Nat.le_trans behind (by omega)

omit [HostObject Obj] in
/-- Fields that are written over weigh no more. -/
lemma weightFields_ofEntries_le (objectWeight : Obj → Nat) (fields : List (String × Value Obj)) :
    Value.weightFields objectWeight (Assoc.ofEntries fields) ≤ Value.weightFields objectWeight fields := by
  have whole := weightFields_merge_le objectWeight [] fields
  rwa [Value.weightFields, Nat.zero_add] at whole

namespace Save

/-! ## Objects of unknown types -/

/-- The warning that an object was restored as the data that it gave away. -/
def unknownType (o : Obj) : String :=
  "unknown type '" ++ HostText.typeName o ++ "' from '" ++ HostObject.origin o ++ "'; restored as raw data"

/-- Whether objects have another origin than the values that need no host. -/
def Foreign (objects : List Obj) : Prop :=
  ∀ o ∈ objects, HostObject.origin o ≠ Envelope.builtinOrigin

lemma Foreign.append {before after : List Obj} :
    Foreign (before ++ after) ↔ Foreign before ∧ Foreign after :=
  List.forall_mem_append

lemma restore_unknown (o : Obj) (payload : Value Obj) :
    restore .empty (encodeObject o).1 payload = (payload, [unknownType o]) := by
  have header : (encodeObject o).1.typeName = HostText.typeName o ∧
      (encodeObject o).1.origin = HostObject.origin o := by
    rw [encodeObject_eq]
    cases HostObject.capability o <;> exact ⟨rfl, rfl⟩
  have nothing : (Registry.empty : Registry Obj).type? (HostText.typeName o) = none := rfl
  simp only [restore, header, nothing]
  rfl

-- The recursion is that of saving, with what an object gives away between the object and its parts.
mutual

/-- Without types, a value comes back as its data, with a warning for each object. -/
theorem decode_unknown : (value : Value Obj) → Foreign value.enveloped →
    decode .empty (encode value).1 = (value.raw, value.enveloped.map unknownType)
  | .none, _ | .bool _, _ | .int _, _ | .float _, _ | .str _, _ => by
    rw [decode_encode .empty _ rfl]
    simp only [Value.raw, Value.enveloped, List.map_nil]
  | .list items, foreign => by
    simp only [Value.enveloped] at foreign
    simp only [encode, decode, decodeItems_unknown items foreign, Value.raw, Value.enveloped]
  | .dict fields, foreign => by
    simp only [Value.enveloped] at foreign
    simp only [encode, decode_dict, decodeFields_unknown fields foreign, Value.raw, Value.enveloped]
  | .object o, foreign => by
    rw [enveloped_object, Foreign.append] at foreign
    rw [decode_object .empty (foreign.2 o (List.mem_singleton.mpr rfl)), decode_givenAway o foreign.1,
      restore_unknown, raw_object, enveloped_object, List.map_append, List.map_singleton]
termination_by value => 2 * value.weight (@HostObject.weight Obj _) + 1
decreasing_by all_goals simp only [Value.weight]; omega

theorem decodeItems_unknown : (items : List (Value Obj)) → Foreign (envelopedInItems items) →
    decodeItems .empty (encodeItems items).1 = (rawItems items, (envelopedInItems items).map unknownType)
  | [], _ => by
    simp only [encodeItems, decodeItems, rawItems, envelopedInItems, List.map_nil]
  | item :: items, foreign => by
    simp only [envelopedInItems, Foreign.append] at foreign
    simp only [encodeItems, decodeItems, decode_unknown item foreign.1,
      decodeItems_unknown items foreign.2, rawItems, envelopedInItems, List.map_append]
termination_by items => 2 * Value.weightItems (@HostObject.weight Obj _) items
decreasing_by all_goals simp only [Value.weightItems]; omega

theorem decodeFields_unknown : (fields : List (String × Value Obj)) →
    Foreign (Assoc.values (envelopedByField fields)).flatten →
    decodeFields .empty (encodeFields fields).1 =
      (rawFields fields, (Assoc.values (envelopedByField fields)).flatten.map unknownType)
  | [], _ => by
    simp only [encodeFields, decodeFields, rawFields, envelopedByField]
    rfl
  | (key, value) :: fields, foreign => by
    have parts : (Assoc.values (envelopedByField ((key, value) :: fields))).flatten =
        value.enveloped ++ (Assoc.values (envelopedByField fields)).flatten := by
      simp only [envelopedByField, Assoc.values, List.map_cons, List.flatten_cons]
    rw [parts, Foreign.append] at foreign
    simp only [encodeFields, decodeFields, decode_unknown value foreign.1,
      decodeFields_unknown fields foreign.2, rawFields, parts, List.map_append]
termination_by fields => 2 * Value.weightFields (@HostObject.weight Obj _) fields
decreasing_by all_goals simp only [Value.weightFields]; omega

theorem decode_givenAway (o : Obj) (foreign : Foreign (givenAway o).enveloped) :
    decode .empty (encode (givenAway o)).1 =
      ((givenAway o).raw, (givenAway o).enveloped.map unknownType) := by
  have shrinks := HostObject.weight_capability o
  unfold givenAway at foreign ⊢
  cases given : HostObject.capability o with
  | exported payload =>
    simp only [given] at foreign
    exact decode_unknown payload foreign
  | reflected fields =>
    simp only [given, Value.enveloped] at foreign
    simp only [encode, decode_dict, decodeFields_unknown (Assoc.ofEntries fields) foreign, Value.raw,
      Value.enveloped]
  | displayed =>
    rw [decode_encode .empty _ rfl]
    simp only [Value.raw, Value.enveloped, List.map_nil]
termination_by 2 * HostObject.weight o
decreasing_by
  · simp only [given, Capability.weight] at shrinks
    omega
  · have noMore := weightFields_ofEntries_le (@HostObject.weight Obj _) fields
    simp only [given, Capability.weight] at shrinks
    omega

end

end Save

/-! ## Objects of restored values -/

mutual

/-- The objects that a value holds, without those inside of other objects. -/
def Value.held : Value Obj → List Obj
  | .list items => heldInItems items
  | .dict fields => heldInFields fields
  | .object o => [o]
  | _ => []

def heldInItems : List (Value Obj) → List Obj
  | [] => []
  | item :: items => item.held ++ heldInItems items

def heldInFields : List (String × Value Obj) → List Obj
  | [] => []
  | (_, value) :: fields => value.held ++ heldInFields fields

end

/-- A host makes an object from saved data: by the importer of a type, or by writing fields into the blank
object of one. -/
inductive Registry.Makes (r : Registry Obj) : Obj → Prop where
  | imported {name entry importer payload o} :
    r.type? name = some entry →
    entry.importer? = some importer →
    importer payload = .ok o →
    Makes r o
  | filled {name entry blank o} {fields : List (String × Value Obj)} :
    r.type? name = some entry →
    entry.blank? = some blank →
    fields.foldlM (fun o field => HostObject.setAttr o field.1 field.2) blank = .ok o →
    Makes r o

omit [HostObject Obj] in
lemma Value.held_of_isPrimitive {value : Value Obj} (primitive : value.isPrimitive) : value.held = [] := by
  cases value with
  | list | dict | object => cases primitive
  | _ => simp only [Value.held]

namespace Save

variable {r : Registry Obj}

lemma importPayload_makes {entry : HostType Obj} {e : Envelope} (known : r.type? e.typeName = some entry)
    {payload : Value Obj} {o : Obj} (made : (importPayload entry e payload).1 = some o) : r.Makes o := by
  obtain ⟨importer, imports, done, _⟩ := importPayload_some made
  exact .imported known imports done

lemma fillBlank_makes {entry : HostType Obj} {e : Envelope} (known : r.type? e.typeName = some entry)
    {payload : Value Obj} {o : Obj} (made : (fillBlank entry e payload).1 = some o) : r.Makes o := by
  obtain ⟨blank, fields, blanks, _, _, written, _⟩ := fillBlank_some made
  exact .filled known blanks written

/-- What an envelope stands for is an object of the host, or else its payload. -/
lemma restore_held (e : Envelope) {payload : Value Obj} (before : ∀ o ∈ payload.held, r.Makes o) :
    ∀ o ∈ (restore r e payload).1.held, r.Makes o := by
  unfold restore
  split
  · exact before
  · next entry known =>
    have ofObject {o : Obj} (made : r.Makes o) : ∀ o' ∈ (Value.object o).held, r.Makes o' := by
      intro o' member
      rw [Value.held, List.mem_singleton] at member
      exact member ▸ made
    split
    · next o warnings imported =>
      exact ofObject (importPayload_makes known (congrArg Prod.fst imported))
    · split
      · next o more filled => exact ofObject (fillBlank_makes known (congrArg Prod.fst filled))
      · exact before

mutual

/-- Whatever is restored, the objects in it were made by the host. -/
theorem decode_held (saved : Json) : ∀ o ∈ (decode r saved).1.held, r.Makes o := by
  -- A primitive value holds no object.
  have nothing {value : Value Obj} (primitive : value.isPrimitive) : ∀ o ∈ value.held, r.Makes o := by
    rw [Value.held_of_isPrimitive primitive]
    exact nofun
  cases saved with
  | null | bool | float | str =>
    rw [decode]
    exact nothing rfl
  | int n =>
    rw [decode, decodeInt]
    split <;> exact nothing rfl
  | arr items =>
    rw [decode, Value.held]
    exact decodeItems_held items
  | obj fields =>
    rw [decode]
    split
    · rw [Value.held]
      exact decodeFields_held fields
    · next e found =>
      have outer := Envelope.weight_payload_lt found
      split
      · exact nothing rfl
      · split
        · next entries bare =>
          have inner := weight_bareEntries_lt bare
          have parts : ∀ o ∈ (Value.dict (decodeFields r entries).1).held, r.Makes o := by
            rw [Value.held]
            exact decodeFields_held entries
          simp only
          split
          · exact parts
          · exact restore_held e parts
        · exact restore_held e (decode_held e.payload)
termination_by saved.weight
decreasing_by all_goals simp only [Json.weight]; omega

theorem decodeItems_held (items : List Json) : ∀ o ∈ heldInItems (decodeItems r items).1, r.Makes o := by
  cases items with
  | nil =>
    rw [decodeItems, heldInItems]
    exact nofun
  | cons item items =>
    rw [decodeItems, heldInItems, List.forall_mem_append]
    exact ⟨decode_held item, decodeItems_held items⟩
termination_by Json.weightItems items
decreasing_by all_goals simp only [Json.weightItems]; omega

theorem decodeFields_held (fields : List (String × Json)) :
    ∀ o ∈ heldInFields (decodeFields r fields).1, r.Makes o := by
  match fields with
  | [] =>
    rw [decodeFields, heldInFields]
    exact nofun
  | (key, saved) :: fields =>
    rw [decodeFields, heldInFields, List.forall_mem_append]
    exact ⟨decode_held saved, decodeFields_held fields⟩
termination_by Json.weightFields fields
decreasing_by all_goals simp only [Json.weightFields]; omega

end

/-- A host that knows no types restores the data of a saved value in its place, and warns once of each
object that was saved, of the inner ones first. Whatever JSON is decoded with whatever types, there is a
value, and the objects in it were made by the host. -/
theorem degrades_without_types :
    (∀ value : Value Obj, Foreign value.enveloped →
      decode .empty (encode value).1 = (value.raw, value.enveloped.map unknownType)) ∧
    ∀ (r : Registry Obj) (saved : Json), ∃ value warnings,
      decode r saved = (value, warnings) ∧ ∀ o ∈ value.held, r.Makes o := by
  refine ⟨decode_unknown, ?_⟩
  intro r saved
  exact ⟨_, _, rfl, decode_held saved⟩

end Save

open Toybox in
/-- A purse, and a bag that shows a field twice and has a scroll in it. -/
def haul : Value Thing :=
  .list [.object (.purse 7),
    .dict [("sack", .object (.bag [("coins", .object (.purse 1)), ("note", .object (.scroll "hush")),
      ("coins", .object (.purse 2))]))]]

open Toybox in
lemma enveloped_haul :
    haul.enveloped = [.purse 7, .purse 2, .scroll "hush",
      .bag [("coins", .object (.purse 1)), ("note", .object (.scroll "hush")),
        ("coins", .object (.purse 2))]] := by
  simp only [haul, Value.enveloped, envelopedInItems, envelopedByField, envelopedWithin,
    HostObject.capability, Thing.capability]
  rfl

open Toybox in
lemma raw_haul :
    haul.raw = .list [.int 7, .dict [("sack", .dict [("coins", .int 2), ("note", .str "hush")])]] := by
  simp only [haul, Value.raw, rawItems, rawFields, rawObject, HostObject.capability, Thing.capability]
  rfl

open Toybox in
/-- The purse under the first name is not saved, and the bag is warned of behind what is in it. -/
theorem haul_degrades :
    Save.decode .empty (Save.encode haul).1 =
      ((.list [.int 7, .dict [("sack", .dict [("coins", .int 2), ("note", .str "hush")])]],
        ["unknown type 'Purse' from 'host'; restored as raw data",
          "unknown type 'Purse' from 'host'; restored as raw data",
          "unknown type 'Scroll' from 'host'; restored as raw data",
          "unknown type 'Bag' from 'host'; restored as raw data"]) : Warned (Value Thing)) := by
  have foreign : Save.Foreign haul.enveloped := by
    unfold Save.Foreign
    rw [enveloped_haul]
    decide
  have restored := Save.degrades_without_types.1 haul foreign
  rw [raw_haul, enveloped_haul] at restored
  exact restored

end BranchingStory
