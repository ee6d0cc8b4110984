import BranchingStory.Save.Encode
import BranchingStory.Host.Registry
import BranchingStory.Number.Reading

/-!
# Restored values

The value that a saved form stands for. What the host does not know or cannot make again is restored as
the data that was saved, with a warning; nothing is refused.
-/

namespace BranchingStory.Save

variable {Obj : Type} [HostObject Obj]

/-- The value of an integer, which is a float beyond 64 bits. -/
def decodeInt (n : Int) : Value Obj :=
  match Number.narrow? n with
  | some i => .int i
  | none => .float (UInt64.ofNat n.toNat).toFloat

def savedFloat? (e : Envelope) : Option Float :=
  match e.payload with
  | .str text =>
    if e.origin = Envelope.builtinOrigin ∧ e.typeName = "float" ∧ e.strategy = .string then
      Number.readFloat? text.toList
    else none
  | _ => none

def isSavedDict (e : Envelope) : Bool :=
  e.origin = Envelope.builtinOrigin ∧ e.typeName = "dict" ∧ e.strategy = .collection

/-- The entries of a payload that has no envelope of its own: that of a dictionary, or the fields of an
object. -/
def bareEntries? (e : Envelope) : Option (List (String × Json)) :=
  match e.payload with
  | .obj entries => if isSavedDict e ∨ e.strategy = .reflective then some entries else none
  | _ => none

theorem weight_bareEntries_lt {e : Envelope} {entries : List (String × Json)}
    (h : bareEntries? e = some entries) : Json.weightFields entries < e.payload.weight := by
  unfold bareEntries? at h
  split at h
  · rename_i bare
    split at h
    · cases h
      simp only [bare, Json.weight]
      omega
    · cases h
  · cases h

/-- Writes saved fields into an object, one after the other; what fails is warned of. -/
def writeFields (typeName : String) (o : Obj) : List (String × Value Obj) → Warned Obj
  | [] => (o, [])
  | (name, value) :: fields =>
    match HostObject.setAttr o name value with
    | .ok o => writeFields typeName o fields
    | .error reason =>
      let (o, warnings) := writeFields typeName o fields
      (o, ("restoring field '" ++ name ++ "' of '" ++ typeName ++ "' failed: " ++ reason.message) ::
        warnings)

/-- The object that a blank one becomes by writing the saved fields, if all of them can be written. -/
def fillBlank (entry : HostType Obj) (e : Envelope) (payload : Value Obj) : Warned (Option Obj) :=
  match entry.blank?, payload with
  | some blank, .dict fields =>
    if e.strategy = .string then (none, [])
    else
      let (o, warnings) := writeFields e.typeName blank fields
      (if warnings.isEmpty then some o else none, warnings)
  | _, _ => (none, [])

def importPayload (entry : HostType Obj) (e : Envelope) (payload : Value Obj) : Warned (Option Obj) :=
  match entry.importer? with
  | none => (none, [])
  | some importer =>
    match importer payload with
    | .ok o => (some o, [])
    | .error reason =>
      (none, ["importing saved '" ++ e.typeName ++ "' failed: " ++ reason.message])

/-- The object that an envelope stands for, by the importer of its type or else by a blank object; or
else its payload. -/
def restore (r : Registry Obj) (e : Envelope) (payload : Value Obj) : Warned (Value Obj) :=
  match r.type? e.typeName with
  | none =>
    (payload, ["unknown type '" ++ e.typeName ++ "' from '" ++ e.origin ++ "'; restored as raw data"])
  | some entry =>
    match importPayload entry e payload with
    | (some o, warnings) => (.object o, warnings)
    | (none, warnings) =>
      match fillBlank entry e payload with
      | (some o, more) => (.object o, warnings ++ more)
      | (none, more) =>
        (payload, warnings ++ more ++ ["'" ++ e.typeName ++ "' could not be reconstructed from its " ++
          e.strategy.name ++ " payload; restored as raw data"])

def noEnvelope : String :=
  "object without an envelope header restored as a plain dict"

mutual

def decode (r : Registry Obj) (saved : Json) : Warned (Value Obj) :=
  match saved with
  | .null => (.none, [])
  | .bool b => (.bool b, [])
  | .int n => (decodeInt n, [])
  | .float x => (.float x, [])
  | .str s => (.str s, [])
  | .arr items =>
    let (items, warnings) := decodeItems r items
    (.list items, warnings)
  | .obj fields =>
    match _found : Envelope.ofFields? fields with
    | none =>
      let (fields, warnings) := decodeFields r fields
      (.dict fields, noEnvelope :: warnings)
    | some e =>
      match savedFloat? e with
      | some x => (.float x, [])
      | none =>
        match _bare : bareEntries? e with
        | some entries =>
          let (entries, warnings) := decodeFields r entries
          if isSavedDict e then (.dict entries, warnings)
          else
            let (value, more) := restore r e (.dict entries)
            (value, warnings ++ more)
        | none =>
          let (payload, warnings) := decode r e.payload
          let (value, more) := restore r e payload
          (value, warnings ++ more)
termination_by saved.weight
decreasing_by
  all_goals
    first
      | (simp only [Json.weight]; omega)
      | (have outer := Envelope.weight_payload_lt _found
         have inner := weight_bareEntries_lt _bare
         simp only [Json.weight]
         omega)
      | (have outer := Envelope.weight_payload_lt _found
         simp only [Json.weight]
         omega)

def decodeItems (r : Registry Obj) (items : List Json) : Warned (List (Value Obj)) :=
  match items with
  | [] => ([], [])
  | item :: items =>
    let (item, warnings) := decode r item
    let (items, more) := decodeItems r items
    (item :: items, warnings ++ more)
termination_by Json.weightItems items
decreasing_by all_goals simp only [Json.weightItems]; omega

def decodeFields (r : Registry Obj) (fields : List (String × Json)) :
    Warned (List (String × Value Obj)) :=
  match fields with
  | [] => ([], [])
  | (key, saved) :: fields =>
    let (value, warnings) := decode r saved
    let (fields, more) := decodeFields r fields
    ((key, value) :: fields, warnings ++ more)
termination_by Json.weightFields fields
decreasing_by all_goals simp only [Json.weightFields]; omega

end

/-- The variables that a saved form stands for: a dictionary, or nothing. Any other value is given back
as the reason of a refusal. -/
def decodeVars (r : Registry Obj) (saved : Json) : Except (Value Obj) (Warned (Vars Obj)) :=
  match decode r saved with
  | (.dict vars, warnings) => .ok (vars, warnings)
  | (.none, warnings) => .ok ([], warnings)
  | (value, _) => .error value

end BranchingStory.Save
