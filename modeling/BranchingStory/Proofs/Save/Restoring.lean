import BranchingStory.Host.Toybox
import BranchingStory.Proofs.Assoc
import BranchingStory.Proofs.Save.RoundTrip

/-!
# Restoring values with objects

Objects that the host can make again are restored with the values that hold them, also out of what other
objects give away for saving. An envelope of an object is never read as one of a dictionary or of a float,
because its origin is another one.
-/

namespace BranchingStory

variable {Obj : Type}

/-! ## Values alike -/

mutual

/-- Two values that are the same but for their objects, which are related in pairs. -/
def Value.Like (Same : Obj → Obj → Prop) : Value Obj → Value Obj → Prop
  | .list items, .list items' => LikeItems Same items items'
  | .dict fields, .dict fields' => LikeFields Same fields fields'
  | .object o, .object o' => Same o o'
  | value, value' => value = value'

def LikeItems (Same : Obj → Obj → Prop) : List (Value Obj) → List (Value Obj) → Prop
  | item :: items, item' :: items' => item.Like Same item' ∧ LikeItems Same items items'
  | items, items' => items = items'

/-- The keys are the same, in the same order. -/
def LikeFields (Same : Obj → Obj → Prop) :
    List (String × Value Obj) → List (String × Value Obj) → Prop
  | (key, value) :: fields, (key', value') :: fields' =>
    key = key' ∧ value.Like Same value' ∧ LikeFields Same fields fields'
  | fields, fields' => fields = fields'

end

mutual

/-- Values alike up to equality are equal. -/
theorem Value.Like.eq : {value value' : Value Obj} → value.Like (· = ·) value' → value = value'
  | .list items, .list items', alike => by
    simp only [Value.Like] at alike
    rw [LikeItems.eq alike]
  | .dict fields, .dict fields', alike => by
    simp only [Value.Like] at alike
    rw [LikeFields.eq alike]
  | .object o, .object o', alike => by
    simp only [Value.Like] at alike
    rw [alike]
  | .none, _, alike | .bool _, _, alike | .int _, _, alike | .float _, _, alike | .str _, _, alike => by
    simpa only [Value.Like] using alike

theorem LikeItems.eq : {items items' : List (Value Obj)} → LikeItems (· = ·) items items' → items = items'
  | [], _, alike => by
    simpa only [LikeItems] using alike
  | _ :: _, [], alike => by
    simpa only [LikeItems] using alike
  | _ :: _, _ :: _, alike => by
    simp only [LikeItems] at alike
    rw [Value.Like.eq alike.1, LikeItems.eq alike.2]

theorem LikeFields.eq : {fields fields' : List (String × Value Obj)} →
    LikeFields (· = ·) fields fields' → fields = fields'
  | [], _, alike => by
    simpa only [LikeFields] using alike
  | _ :: _, [], alike => by
    simpa only [LikeFields] using alike
  | (_, _) :: _, (_, _) :: _, alike => by
    simp only [LikeFields] at alike
    rw [alike.1, Value.Like.eq alike.2.1, LikeFields.eq alike.2.2]

end

lemma Value.objectFree_of_isPrimitive {value : Value Obj} (primitive : value.isPrimitive) :
    value.objectFree := by
  cases value with
  | list | dict | object => cases primitive
  | _ => rfl

lemma Value.like_of_isPrimitive (Same : Obj → Obj → Prop) {value : Value Obj}
    (primitive : value.isPrimitive) : value.Like Same value := by
  cases value with
  | list | dict | object => cases primitive
  | _ => simp only [Value.Like]

variable [HostObject Obj]

/-! ## What objects give away -/

/-- The value from which an object is made again: what it exports, its fields, or its text. -/
def givenAway (o : Obj) : Value Obj :=
  match HostObject.capability o with
  | .exported payload => payload
  | .reflected fields => .dict (Assoc.ofEntries fields)
  | .displayed => .str (HostText.display o)

lemma givenAway_reflected {o : Obj} {fields : List (String × Value Obj)}
    (given : HostObject.capability o = .reflected fields) (distinct : (Assoc.keys fields).Nodup) :
    givenAway o = .dict fields := by
  unfold givenAway
  rw [given]
  simp only [Assoc.ofEntries_of_nodup distinct]

/-- Whether nothing but the text of an object is saved. -/
def isOpaque (o : Obj) : Bool :=
  match HostObject.capability o with
  | .displayed => true
  | _ => false

mutual

/-- The objects of a value in the order in which they are saved, those included that are in what other
objects give away. -/
def Value.objects (value : Value Obj) : List Obj :=
  match value with
  | .list items => objectsOfItems items
  | .dict fields => objectsOfFields fields
  | .object o => o :: objectsWithin o
  | _ => []
termination_by 2 * value.weight (@HostObject.weight Obj _) + 1
decreasing_by all_goals simp only [Value.weight]; omega

def objectsOfItems (items : List (Value Obj)) : List Obj :=
  match items with
  | [] => []
  | item :: items => item.objects ++ objectsOfItems items
termination_by 2 * Value.weightItems (@HostObject.weight Obj _) items
decreasing_by all_goals simp only [Value.weightItems]; omega

def objectsOfFields (fields : List (String × Value Obj)) : List Obj :=
  match fields with
  | [] => []
  | (_, value) :: fields => value.objects ++ objectsOfFields fields
termination_by 2 * Value.weightFields (@HostObject.weight Obj _) fields
decreasing_by all_goals simp only [Value.weightFields]; omega

/-- The objects in what an object gives away. -/
def objectsWithin (o : Obj) : List Obj :=
  match _given : HostObject.capability o with
  | .exported payload => payload.objects
  | .reflected fields => objectsOfFields fields
  | .displayed => []
termination_by 2 * HostObject.weight o
decreasing_by
  all_goals
    have shrinks := HostObject.weight_capability o
    simp only [_given, Capability.weight] at shrinks
    omega

end

mutual

theorem Value.objects_of_objectFree : (value : Value Obj) → value.objectFree → value.objects = []
  | .none, _ | .bool _, _ | .int _, _ | .float _, _ | .str _, _ => by
    simp only [Value.objects]
  | .list items, free => by
    simp only [Value.objectFree] at free
    simp only [Value.objects, objectsOfItems_of_objectFree items free]
  | .dict fields, free => by
    simp only [Value.objectFree] at free
    simp only [Value.objects, objectsOfFields_of_objectFree fields free]

theorem objectsOfItems_of_objectFree : (items : List (Value Obj)) → objectFreeItems items →
    objectsOfItems items = []
  | [], _ => by
    simp only [objectsOfItems]
  | item :: items, free => by
    simp only [objectFreeItems, Bool.and_eq_true] at free
    simp only [objectsOfItems, Value.objects_of_objectFree item free.1,
      objectsOfItems_of_objectFree items free.2, List.append_nil]

theorem objectsOfFields_of_objectFree : (fields : List (String × Value Obj)) → objectFreeFields fields →
    objectsOfFields fields = []
  | [], _ => by
    simp only [objectsOfFields]
  | (_, value) :: fields, free => by
    simp only [objectFreeFields, Bool.and_eq_true] at free
    simp only [objectsOfFields, Value.objects_of_objectFree value free.1,
      objectsOfFields_of_objectFree fields free.2, List.append_nil]

end

namespace Save

/-- The envelope of an object by what the object gives away, without the proof that saving ends. -/
lemma encodeObject_eq (o : Obj) :
    encodeObject o =
      match HostObject.capability o with
      | .exported payload =>
        (⟨HostText.typeName o, HostObject.origin o, .explicit, (encode payload).1⟩, (encode payload).2)
      | .reflected fields =>
        (⟨HostText.typeName o, HostObject.origin o, .reflective,
          .obj (Assoc.ofEntries (encodeFields fields).1)⟩, (encodeFields fields).2)
      | .displayed =>
        (⟨HostText.typeName o, HostObject.origin o, .string, .str (HostText.display o)⟩,
          [onlyText (HostText.typeName o)]) := by
  rw [encodeObject]
  split <;> next given => simp only [given]

lemma objectsWithin_eq (o : Obj) :
    objectsWithin o =
      match HostObject.capability o with
      | .exported payload => payload.objects
      | .reflected fields => objectsOfFields fields
      | .displayed => [] := by
  rw [objectsWithin]
  split <;> next given => simp only [given]

/-! ## Warnings -/

/-- The warnings for those of some objects that only their text is saved of, in their order. -/
def opaqueWarnings (objects : List Obj) : List String :=
  (objects.filter isOpaque).map fun o => onlyText (HostText.typeName o)

lemma opaqueWarnings_append (before after : List Obj) :
    opaqueWarnings (before ++ after) = opaqueWarnings before ++ opaqueWarnings after := by
  unfold opaqueWarnings
  rw [List.filter_append, List.map_append]

-- The recursion is that of saving: it ends because an object outweighs what it gives away.
mutual

/-- Saving warns once of each object that only the text is saved of, and of nothing else. -/
theorem encode_warnings : (value : Value Obj) → (encode value).2 = opaqueWarnings value.objects
  | .none | .bool _ | .int _ | .float _ | .str _ => by
    simp only [encode, Value.objects]
    rfl
  | .list items => by
    simp only [encode, Value.objects]
    exact encodeItems_warnings items
  | .dict fields => by
    simp only [encode, Value.objects]
    exact encodeFields_warnings fields
  | .object o => by
    simp only [encode, Value.objects]
    exact encodeObject_warnings o
termination_by value => 2 * value.weight (@HostObject.weight Obj _) + 1
decreasing_by all_goals simp only [Value.weight]; omega

theorem encodeItems_warnings : (items : List (Value Obj)) →
    (encodeItems items).2 = opaqueWarnings (objectsOfItems items)
  | [] => by
    simp only [encodeItems, objectsOfItems]
    rfl
  | item :: items => by
    simp only [encodeItems, objectsOfItems, opaqueWarnings_append, encode_warnings item,
      encodeItems_warnings items]
termination_by items => 2 * Value.weightItems (@HostObject.weight Obj _) items
decreasing_by all_goals simp only [Value.weightItems]; omega

theorem encodeFields_warnings : (fields : List (String × Value Obj)) →
    (encodeFields fields).2 = opaqueWarnings (objectsOfFields fields)
  | [] => by
    simp only [encodeFields, objectsOfFields]
    rfl
  | (_, value) :: fields => by
    simp only [encodeFields, objectsOfFields, opaqueWarnings_append, encode_warnings value,
      encodeFields_warnings fields]
termination_by fields => 2 * Value.weightFields (@HostObject.weight Obj _) fields
decreasing_by all_goals simp only [Value.weightFields]; omega

theorem encodeObject_warnings (o : Obj) : (encodeObject o).2 = opaqueWarnings (o :: objectsWithin o) := by
  have shrinks := HostObject.weight_capability o
  rw [encodeObject_eq, objectsWithin_eq]
  cases given : HostObject.capability o with
  | exported payload =>
    have warnings := encode_warnings payload
    simp only [warnings, opaqueWarnings, isOpaque, given, List.filter_cons, Bool.false_eq_true, if_false]
  | reflected fields =>
    have warnings := encodeFields_warnings fields
    simp only [warnings, opaqueWarnings, isOpaque, given, List.filter_cons, Bool.false_eq_true, if_false]
  | displayed =>
    simp only [opaqueWarnings, isOpaque, given, List.filter_cons, if_true, List.filter_nil,
      List.map_cons, List.map_nil]
termination_by 2 * HostObject.weight o
decreasing_by
  all_goals
    simp only [given, Capability.weight] at shrinks
    omega

end

/-! ## The envelope of an object -/

lemma encodeFields_eq_map (fields : List (String × Value Obj)) :
    (encodeFields fields).1 = fields.map fun (key, value) => (key, (encode value).1) := by
  induction fields with
  | nil => simp only [encodeFields, List.map_nil]
  | cons field fields ih =>
    obtain ⟨key, value⟩ := field
    simp only [encodeFields, ih, List.map_cons]

lemma encodeFields_ofEntries (fields : List (String × Value Obj)) :
    (encodeFields (Assoc.ofEntries fields)).1 = Assoc.ofEntries (encodeFields fields).1 := by
  rw [encodeFields_eq_map, encodeFields_eq_map, Assoc.ofEntries_map fun value => (encode value).1]

variable (r : Registry Obj)

/-- The value that the payload of an envelope stands for; entries and fields need no envelope of their own. -/
def decodePayload (e : Envelope) : Warned (Value Obj) :=
  match bareEntries? e with
  | some entries => (.dict (decodeFields r entries).1, (decodeFields r entries).2)
  | none => decode r e.payload

/-- An envelope that is neither one of a float nor one of a dictionary is restored from its payload. -/
lemma decode_header {fields : List (String × Json)} {e : Envelope}
    (header : Envelope.ofFields? fields = some e) (noFloat : savedFloat? e = none)
    (noDict : isSavedDict e → bareEntries? e = none) :
    decode r (.obj fields) =
      ((restore r e (decodePayload r e).1).1,
        (decodePayload r e).2 ++ (restore r e (decodePayload r e).1).2) := by
  rw [decode]
  split
  · next none =>
    rw [header] at none
    cases none
  · next e' found =>
    rw [header] at found
    cases found
    simp only [noFloat]
    unfold decodePayload
    split
    · next entries bare =>
      have other : isSavedDict e = false := by
        refine Bool.eq_false_iff.mpr fun saved => ?_
        rw [noDict saved] at bare
        cases bare
      simp only [bare, other, Bool.false_eq_true, if_false]
    · next bare => simp only [bare]

/-- What an object gave away is restored as a value on its own is, whichever form its payload has. -/
lemma decode_envelope {e : Envelope} (foreign : e.origin ≠ Envelope.builtinOrigin) :
    decode r e.toJson =
      ((restore r e (decodePayload r e).1).1,
        (decodePayload r e).2 ++ (restore r e (decodePayload r e).1).2) := by
  have noFloat : savedFloat? e = none := by
    unfold savedFloat?
    split <;> simp only [foreign, false_and, if_false]
  have noDict : isSavedDict e = false := by
    simp only [isSavedDict, foreign, false_and, decide_false]
  refine decode_header r (ofFields?_toJson e) noFloat fun saved => ?_
  rw [noDict] at saved
  cases saved

/-- The payload of an object is restored as what the object gave away. -/
lemma decodePayload_object (o : Obj) :
    decodePayload r (encodeObject o).1 = decode r (encode (givenAway o)).1 := by
  rw [encodeObject_eq, givenAway]
  -- The payload is the saved form of what was given away, but for fields, which stand there bare.
  cases HostObject.capability o with
  | exported payload =>
    have bare : bareEntries? ⟨HostText.typeName o, HostObject.origin o, .explicit, (encode payload).1⟩ =
        none := by
      unfold bareEntries?
      split <;> simp [isSavedDict]
    simp only [decodePayload, bare]
  | reflected fields =>
    simp [decodePayload, bareEntries?, encode, decode_dict, encodeFields_ofEntries]
  | displayed => simp [decodePayload, bareEntries?, encode]

lemma encodeObject_typeName (o : Obj) : (encodeObject o).1.typeName = HostText.typeName o := by
  rw [encodeObject_eq]
  cases HostObject.capability o <;> rfl

lemma encodeObject_origin (o : Obj) : (encodeObject o).1.origin = HostObject.origin o := by
  rw [encodeObject_eq]
  cases HostObject.capability o <;> rfl

/-- An object is restored from what it gave away, unless its origin is that of the values that need no
host. -/
lemma decode_object {o : Obj} (foreign : HostObject.origin o ≠ Envelope.builtinOrigin) :
    decode r (encode (.object o)).1 =
      ((restore r (encodeObject o).1 (decode r (encode (givenAway o)).1).1).1,
        (decode r (encode (givenAway o)).1).2 ++
          (restore r (encodeObject o).1 (decode r (encode (givenAway o)).1).1).2) := by
  rw [← encodeObject_origin] at foreign
  rw [encode, ← decodePayload_object]
  exact decode_envelope r foreign

/-! ## Values that the host can make again -/

variable (Same : Obj → Obj → Prop)

mutual

/-- The host makes the second value from what the first one is saved as: each object comes from its
importer or from a blank object, and `Same` holds of it and the saved one. -/
inductive Restores : Value Obj → Value Obj → Prop where
  | primitive {value} : value.isPrimitive → Restores value value
  | list {items items'} : RestoresItems items items' → Restores (.list items) (.list items')
  | dict {fields fields'} : RestoresFields fields fields' → Restores (.dict fields) (.dict fields')
  | imported {o o' entry importer payload} :
      HostObject.origin o ≠ Envelope.builtinOrigin →
      r.type? (HostText.typeName o) = some entry →
      entry.importer? = some importer →
      Restores (givenAway o) payload →
      importer payload = .ok o' →
      Same o o' →
      Restores (.object o) (.object o')
  | filled {o o' entry blank fields fields'} :
      HostObject.origin o ≠ Envelope.builtinOrigin →
      r.type? (HostText.typeName o) = some entry →
      entry.importer? = none →
      entry.blank? = some blank →
      HostObject.capability o = .reflected fields →
      (Assoc.keys fields).Nodup →
      RestoresFields fields fields' →
      fields'.foldlM (fun o field => HostObject.setAttr o field.1 field.2) blank = .ok o' →
      Same o o' →
      Restores (.object o) (.object o')

inductive RestoresItems : List (Value Obj) → List (Value Obj) → Prop where
  | nil : RestoresItems [] []
  | cons {item item' items items'} :
      Restores item item' → RestoresItems items items' → RestoresItems (item :: items) (item' :: items')

/-- The keys are the same, in the same order. -/
inductive RestoresFields : List (String × Value Obj) → List (String × Value Obj) → Prop where
  | nil : RestoresFields [] []
  | cons {key value value' fields fields'} :
      Restores value value' → RestoresFields fields fields' →
      RestoresFields ((key, value) :: fields) ((key, value') :: fields')

end

variable {r Same}

/-- Fields that can all be written are written without a warning. -/
lemma writeFields_of_foldlM {typeName : String} {fields : List (String × Value Obj)} {blank o : Obj}
    (written : fields.foldlM (fun o field => HostObject.setAttr o field.1 field.2) blank = .ok o) :
    writeFields typeName blank fields = (o, []) := by
  induction fields generalizing blank with
  | nil =>
    cases written
    rfl
  | cons field fields ih =>
    obtain ⟨name, value⟩ := field
    rw [List.foldlM_cons] at written
    unfold writeFields
    cases done : HostObject.setAttr blank name value with
    | error reason =>
      rw [done] at written
      cases written
    | ok next =>
      rw [done] at written
      exact ih written

/-- Fields that were written without a warning have all been written. -/
lemma foldlM_of_writeFields {typeName : String} {fields : List (String × Value Obj)} {blank : Obj}
    (silent : (writeFields typeName blank fields).2 = []) :
    fields.foldlM (fun o field => HostObject.setAttr o field.1 field.2) blank =
      .ok (writeFields typeName blank fields).1 := by
  induction fields generalizing blank with
  | nil => rfl
  | cons field fields ih =>
    obtain ⟨name, value⟩ := field
    unfold writeFields at silent ⊢
    rw [List.foldlM_cons]
    cases done : HostObject.setAttr blank name value with
    | error reason =>
      simp only [done] at silent
      cases silent
    | ok next =>
      simp only [done] at silent
      exact ih silent

omit [HostObject Obj] in
lemma importPayload_some {entry : HostType Obj} {e : Envelope} {payload : Value Obj} {o : Obj}
    (made : (importPayload entry e payload).1 = some o) :
    ∃ importer, entry.importer? = some importer ∧ importer payload = .ok o ∧
      (importPayload entry e payload).2 = [] := by
  unfold importPayload at made ⊢
  split at made
  · cases made
  · next importer imports =>
    split at made
    · next done =>
      cases made
      exact ⟨importer, imports, done, rfl⟩
    · cases made

lemma fillBlank_some {entry : HostType Obj} {e : Envelope} {payload : Value Obj} {o : Obj}
    (made : (fillBlank entry e payload).1 = some o) :
    ∃ blank fields, entry.blank? = some blank ∧ payload = .dict fields ∧ e.strategy ≠ .string ∧
      fields.foldlM (fun o field => HostObject.setAttr o field.1 field.2) blank = .ok o ∧
      (fillBlank entry e payload).2 = [] := by
  unfold fillBlank at made ⊢
  split at made
  · next blank fields blanks =>
    split at made
    · cases made
    · next notText =>
      simp only at made
      split at made
      · next silent =>
        cases made
        have warnings := List.isEmpty_iff.mp silent
        refine ⟨blank, fields, blanks, rfl, notText, foldlM_of_writeFields warnings, ?_⟩
        simp only [notText, if_false, warnings]
      · cases made
  · cases made

lemma restore_imported {e : Envelope} {entry : HostType Obj} {importer : Value Obj → Except EvalError Obj}
    {payload : Value Obj} {o : Obj} (known : r.type? e.typeName = some entry)
    (imports : entry.importer? = some importer) (made : importer payload = .ok o) :
    restore r e payload = (.object o, []) := by
  simp only [restore, known, importPayload, imports, made]

lemma restore_filled {e : Envelope} {entry : HostType Obj} {blank o : Obj}
    {fields : List (String × Value Obj)} (known : r.type? e.typeName = some entry)
    (noImporter : entry.importer? = none) (blanks : entry.blank? = some blank)
    (notText : e.strategy ≠ .string)
    (written : fields.foldlM (fun o field => HostObject.setAttr o field.1 field.2) blank = .ok o) :
    restore r e (.dict fields) = (.object o, []) := by
  simp only [restore, known, importPayload, noImporter, fillBlank, blanks, notText, if_false,
    writeFields_of_foldlM written, List.isEmpty_nil, if_true, List.append_nil]

mutual

/-- What the host can make again is restored without a warning. -/
theorem Restores.decode : {value value' : Value Obj} → Restores r Same value value' →
    decode r (encode value).1 = (value', [])
  | _, _, .primitive primitive => decode_encode r _ (Value.objectFree_of_isPrimitive primitive)
  | _, _, .list items => by
    simp only [encode, Save.decode, items.decode]
  | _, _, .dict fields => by
    simp only [encode, decode_dict, fields.decode]
  | _, _, .imported foreign known imports given made _ => by
    have payload := given.decode
    rw [← encodeObject_typeName] at known
    rw [decode_object r foreign, payload, restore_imported known imports made]
    rfl
  | .object o, _, .filled foreign known noImporter blanks given distinct restored written _ => by
    -- A blank object is filled for every strategy but that of the bare text.
    have notText : (encodeObject o).1.strategy ≠ .string := by
      rw [encodeObject_eq, given]
      exact nofun
    have payload := restored.decode
    rw [← encodeObject_typeName] at known
    rw [decode_object r foreign, givenAway_reflected given distinct]
    simp only [encode, decode_dict, payload, restore_filled known noImporter blanks notText written]
    rfl

theorem RestoresItems.decode : {items items' : List (Value Obj)} → RestoresItems r Same items items' →
    decodeItems r (encodeItems items).1 = (items', [])
  | _, _, .nil => by
    simp only [encodeItems, decodeItems]
  | _, _, .cons item items => by
    simp only [encodeItems, decodeItems, item.decode, items.decode, List.nil_append]

theorem RestoresFields.decode : {fields fields' : List (String × Value Obj)} →
    RestoresFields r Same fields fields' → decodeFields r (encodeFields fields).1 = (fields', [])
  | _, _, .nil => by
    simp only [encodeFields, decodeFields]
  | _, _, .cons value fields => by
    simp only [encodeFields, decodeFields, value.decode, fields.decode, List.nil_append]

end

mutual

/-- What the host makes again is like the saved value. -/
theorem Restores.like : {value value' : Value Obj} → Restores r Same value value' →
    value.Like Same value'
  | _, _, .primitive primitive => Value.like_of_isPrimitive Same primitive
  | _, _, .list items => by
    simp only [Value.Like]
    exact items.like
  | _, _, .dict fields => by
    simp only [Value.Like]
    exact fields.like
  | _, _, .imported _ _ _ _ _ same => by
    simp only [Value.Like]
    exact same
  | _, _, .filled _ _ _ _ _ _ _ _ same => by
    simp only [Value.Like]
    exact same

theorem RestoresItems.like : {items items' : List (Value Obj)} → RestoresItems r Same items items' →
    LikeItems Same items items'
  | _, _, .nil => by
    simp only [LikeItems]
  | _, _, .cons item items => by
    simp only [LikeItems]
    exact ⟨item.like, items.like⟩

theorem RestoresFields.like : {fields fields' : List (String × Value Obj)} →
    RestoresFields r Same fields fields' → LikeFields Same fields fields'
  | _, _, .nil => by
    simp only [LikeFields]
  | _, _, .cons value fields => by
    simp only [LikeFields]
    exact ⟨trivial, value.like, fields.like⟩

end

/-- A value comes back from its saved form without a warning, if it holds no object, or if the host can make
its objects again; then it differs from the saved value at most as the objects do. Saving warns once of each
object, at any depth, that only the text is saved of. -/
theorem values_come_back (r : Registry Obj) :
    (∀ value : Value Obj, value.objectFree →
      decode r (encode value).1 = (value, []) ∧ (encode value).2 = []) ∧
    (∀ (Same : Obj → Obj → Prop) (value value' : Value Obj), Restores r Same value value' →
      decode r (encode value).1 = (value', []) ∧
      value.Like Same value' ∧
      (encode value).2 = opaqueWarnings value.objects) ∧
    (∀ value value' : Value Obj, Restores r (· = ·) value value' →
      decode r (encode value).1 = (value, [])) := by
  refine ⟨?free, ?alike, ?equal⟩
  case free =>
    intro value free
    have warnings := encode_warnings value
    rw [Value.objects_of_objectFree value free] at warnings
    exact ⟨decode_encode r value free, warnings⟩
  case alike =>
    intro Same value value' restored
    exact ⟨restored.decode, restored.like, encode_warnings value⟩
  case equal =>
    intro value value' restored
    cases restored.like.eq
    exact restored.decode

end Save

open Toybox in
/-- A dictionary with the keys of an envelope, and in it a bag with a purse and a scroll. -/
def satchel : Value Thing :=
  .dict [("type", .str "Purse"), ("origin", .str "host"), ("strategy", .str "explicit"),
    ("payload", .list [.float (0.0 / 0.0),
      .object (.bag [("coins", .object (.purse 3)), ("note", .object (.scroll "hush"))])])]

open Toybox in
/-- A bag takes in every field that it lacks. -/
lemma setAttr_bag (fields : List (String × Value Thing)) (attr : String)
    (fresh : Assoc.contains fields attr = false) (value : Value Thing) :
    HostObject.setAttr (Thing.bag fields) attr value = .ok (.bag (Assoc.insert fields attr value)) := by
  simp only [HostObject.setAttr, Thing.setAttr, fresh, Bool.and_false, Bool.false_eq_true, if_false]

open Toybox Save in
lemma restores_satchel : Restores registry (· = ·) satchel satchel := by
  have purse : Restores registry (· = ·) (.object (Thing.purse 3)) (.object (Thing.purse 3)) :=
    .imported (by decide) rfl rfl (.primitive rfl) rfl rfl
  have scroll : Restores registry (· = ·) (.object (Thing.scroll "hush")) (.object (Thing.scroll "hush")) :=
    .imported (by decide) rfl rfl (.primitive rfl) rfl rfl
  have filled : [("coins", .object (Thing.purse 3)), ("note", .object (Thing.scroll "hush"))].foldlM
      (fun o field => HostObject.setAttr o field.1 field.2) (Thing.bag []) =
        .ok (.bag [("coins", .object (.purse 3)), ("note", .object (.scroll "hush"))]) := by
    have coins := setAttr_bag [] "coins" rfl (.object (.purse 3))
    have note := setAttr_bag [("coins", .object (.purse 3))] "note" rfl (.object (.scroll "hush"))
    simp only [List.foldlM_cons, coins, Assoc.insert, bind, Except.bind, note]
    rfl
  have bag : Restores registry (· = ·)
      (.object (Thing.bag [("coins", .object (.purse 3)), ("note", .object (.scroll "hush"))]))
      (.object (Thing.bag [("coins", .object (.purse 3)), ("note", .object (.scroll "hush"))])) :=
    .filled (by decide) rfl rfl rfl rfl (by decide) (.cons purse (.cons scroll .nil)) filled rfl
  exact .dict (.cons (.primitive rfl) (.cons (.primitive rfl) (.cons (.primitive rfl)
    (.cons (.list (.cons (.primitive rfl) (.cons bag .nil))) .nil))))

open Toybox in
theorem satchel_comes_back :
    Save.decode registry (Save.encode satchel).1 = (satchel, []) ∧
    (Save.encode satchel).2 =
      ["'Scroll' has no export or reflection support; saved as its display text"] ∧
    Save.decode registry (Save.encode (.dict [("type", .none)] : Value Thing)).1 =
      (.dict [("type", .none)], []) := by
  obtain ⟨free, alike, equal⟩ := Save.values_come_back registry
  obtain ⟨_, _, warnings⟩ := alike (· = ·) satchel satchel restores_satchel
  refine ⟨equal satchel satchel restores_satchel, ?_, (free _ rfl).1⟩
  rw [warnings]
  simp only [satchel, Value.objects, objectsOfFields, objectsOfItems, Save.objectsWithin_eq,
    HostObject.capability, Thing.capability]
  rfl

end BranchingStory
