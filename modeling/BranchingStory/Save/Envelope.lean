import BranchingStory.Json.Written

/-!
# Envelopes

The saved form of a value that JSON has no form for: its type, the module of the type, how the payload
was made, and the payload.
-/

namespace BranchingStory

/-- How the payload of an envelope was made. -/
inductive Strategy where
  /-- By the object itself, for the importer of its type. -/
  | explicit
  /-- From the fields of an object. -/
  | reflective
  /-- From the text of an object. -/
  | string
  /-- From the entries of a dictionary. -/
  | collection
  deriving DecidableEq, Repr

def Strategy.name : Strategy → String
  | .explicit => "explicit"
  | .reflective => "reflective"
  | .string => "string"
  | .collection => "collection"

def Strategy.ofName? (name : String) : Option Strategy :=
  match name with
  | "explicit" => some .explicit
  | "reflective" => some .reflective
  | "string" => some .string
  | "collection" => some .collection
  | _ => none

/-- The saved form of a value. -/
structure Envelope where
  typeName : String
  origin : String
  strategy : Strategy
  payload : Json

namespace Envelope

/-- The origin of what needs no host: dictionaries and floats that are no finite numbers. -/
def builtinOrigin : String := "builtin"

def toJson (e : Envelope) : Json :=
  .obj [("type", .str e.typeName), ("origin", .str e.origin), ("strategy", .str e.strategy.name),
    ("payload", e.payload)]

/-- The envelope of a dictionary whose values have a JSON form. -/
def ofDict (fields : List (String × Json)) : Envelope :=
  ⟨"dict", builtinOrigin, .collection, .obj fields⟩

/-- The envelope of a float that is no finite number, with its text. -/
def ofFloat (text : String) : Envelope :=
  ⟨"float", builtinOrigin, .string, .str text⟩

def text? : Json → Option String
  | .str text => some text
  | _ => none

/-- The envelope that the fields of an object stand for; other fields are passed over. -/
def ofFields? (fields : List (String × Json)) : Option Envelope := do
  let typeName ← (Assoc.get? fields "type").bind text?
  let origin ← (Assoc.get? fields "origin").bind text?
  let strategy ← ((Assoc.get? fields "strategy").bind (·.written.unitName?)).bind Strategy.ofName?
  let payload ← Assoc.get? fields "payload"
  return ⟨typeName, origin, strategy, payload⟩

/-- The payload of an envelope is smaller than the object that it comes from. -/
theorem weight_payload_lt {fields : List (String × Json)} {e : Envelope}
    (h : ofFields? fields = some e) : e.payload.weight < Json.weightFields fields := by
  simp only [ofFields?, Option.bind_eq_bind, Option.bind_eq_some_iff, Option.pure_def,
    Option.some.injEq] at h
  obtain ⟨_, _, _, _, _, _, payload, found, rfl⟩ := h
  exact Json.weight_lt_of_get? found

end Envelope

end BranchingStory
