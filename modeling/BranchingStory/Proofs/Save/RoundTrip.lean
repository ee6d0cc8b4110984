import Mathlib.Tactic.Lemma
import BranchingStory.Save.Decode
import BranchingStory.Proofs.Bounded

/-!
# Saving and restoring values

A value without objects is restored from its saved form as it was, with dictionaries in their order, and
there is nothing to warn of. This includes the floats that are no finite numbers, which are saved by
their texts: there are three of them.
-/

namespace BranchingStory

variable {Obj : Type}

mutual

/-- Whether a value holds no object at any depth. -/
def Value.objectFree : Value Obj → Bool
  | .list items => objectFreeItems items
  | .dict fields => objectFreeFields fields
  | .object _ => false
  | _ => true

def objectFreeItems : List (Value Obj) → Bool
  | [] => true
  | item :: items => item.objectFree && objectFreeItems items

def objectFreeFields : List (String × Value Obj) → Bool
  | [] => true
  | (_, value) :: fields => value.objectFree && objectFreeFields fields

end

namespace Number

open Float.Model UnpackedFloat

/-- What is no finite number is an infinity or the value that is not a number. -/
lemma bits_of_not_finite {x : Float} (infinite : x.isFinite = false) :
    x.toBits = 0x7FF8000000000000 ∨ x.toBits = 0x7FF0000000000000 ∨ x.toBits = 0xFFF0000000000000 := by
  obtain ⟨⟨bits, valid⟩⟩ := x
  change (UnpackedFloat.unpack Format.binary64 bits.toBitVec).isFinite = false at infinite
  change bits = _ ∨ bits = _ ∨ bits = _
  -- All bits of the exponent are set, or else a finite number is unpacked.
  have full : @unpackExponent Format.binary64 bits.toBitVec = -1#_ := by
    refine Decidable.byContradiction fun partly => ?_
    unfold UnpackedFloat.unpack at infinite
    rw [if_neg partly] at infinite
    by_cases zero : @unpackExponent Format.binary64 bits.toBitVec = 0#_
    · rw [if_pos zero] at infinite
      by_cases plain : @unpackMantissa Format.binary64 bits.toBitVec = 0#_
      · rw [dif_pos plain] at infinite
        cases infinite
      · rw [dif_neg plain] at infinite
        cases infinite
    · rw [if_neg zero] at infinite
      cases infinite
  by_cases plain : @unpackMantissa Format.binary64 bits.toBitVec = 0#_
  · right
    have exponent := congrArg BitVec.toNat full
    have mantissa := congrArg BitVec.toNat plain
    simp [unpackExponent, unpackMantissa, BitVec.extractLsb_toNat, Nat.shiftRight_eq_div_pow]
      at exponent mantissa
    have bound := bits.toNat_lt
    have two : bits.toNat = 0x7FF0000000000000 ∨ bits.toNat = 0xFFF0000000000000 := by omega
    exact two.imp UInt64.toNat_inj.mp UInt64.toNat_inj.mp
  · -- With a mantissa there is one packing alone that is valid.
    left
    rw [← UInt64.toBitVec_inj, valid.eq_packedNaN full plain]
    rfl

lemma float_ext {x y : Float} (same : x.toBits = y.toBits) : x = y := by
  obtain ⟨⟨bits, _⟩⟩ := x
  obtain ⟨⟨bits', _⟩⟩ := y
  cases same
  rfl

/-- The text of a float that is no finite number reads back. -/
lemma readFloat?_floatText {x : Float} (infinite : x.isFinite = false) :
    readFloat? (Value.floatText x).toList = some x := by
  rcases bits_of_not_finite infinite with nan | inf | negative
  · obtain rfl : x = 0.0 / 0.0 := float_ext (nan.trans (by decide +kernel))
    rfl
  · obtain rfl : x = 1.0 / 0.0 := float_ext (inf.trans (by decide +kernel))
    rfl
  · obtain rfl : x = -(1.0 / 0.0) := float_ext (negative.trans (by decide +kernel))
    rfl

end Number

namespace Save

variable [HostObject Obj] (r : Registry Obj)

lemma ofFields?_toJson (e : Envelope) :
    Envelope.ofFields? [("type", .str e.typeName), ("origin", .str e.origin),
      ("strategy", .str e.strategy.name), ("payload", e.payload)] = some e := by
  obtain ⟨typeName, origin, strategy, payload⟩ := e
  cases strategy <;> rfl

lemma decode_dict (entries : List (String × Json)) :
    decode r (Envelope.ofDict entries).toJson =
      ((.dict (decodeFields r entries).1, (decodeFields r entries).2) : Warned (Value Obj)) := by
  have header := ofFields?_toJson (Envelope.ofDict entries)
  rw [Envelope.toJson, decode]
  split
  · next none =>
    rw [header] at none
    cases none
  · next e found =>
    rw [header] at found
    cases found
    simp only [show savedFloat? (Envelope.ofDict entries) = none from rfl]
    split
    · next bare same =>
      cases same
      rfl
    · next same => cases same

lemma decode_float {text : String} {x : Float} (read : Number.readFloat? text.toList = some x) :
    decode r (Envelope.ofFloat text).toJson = ((.float x, []) : Warned (Value Obj)) := by
  have header := ofFields?_toJson (Envelope.ofFloat text)
  have saved : savedFloat? (Envelope.ofFloat text) = some x := read
  rw [Envelope.toJson, decode]
  split
  · next none =>
    rw [header] at none
    cases none
  · next e found =>
    rw [header] at found
    cases found
    simp only [saved]

mutual

/-- A value without objects is restored as it was saved. -/
theorem decode_encode : (value : Value Obj) → value.objectFree → decode r (encode value).1 = (value, [])
  | .none, _ => by
    simp only [encode, decode]
  | .bool b, _ => by
    simp only [encode, decode]
  | .int i, _ => by
    simp only [encode, decode, decodeInt, Number.narrow?_toInt]
  | .float x, _ => by
    simp only [encode]
    cases finite : x.isFinite with
    | true => simp only [if_true, decode]
    | false =>
      simp only [Bool.false_eq_true, if_false]
      exact decode_float r (Number.readFloat?_floatText finite)
  | .str text, _ => by
    simp only [encode, decode]
  | .list items, free => by
    simp only [Value.objectFree] at free
    simp only [encode, decode, decodeItems_encodeItems items free]
  | .dict fields, free => by
    simp only [Value.objectFree] at free
    simp only [encode, decode_dict, decodeFields_encodeFields fields free]

theorem decodeItems_encodeItems : (items : List (Value Obj)) → objectFreeItems items →
    decodeItems r (encodeItems items).1 = (items, [])
  | [], _ => by
    simp only [encodeItems, decodeItems]
  | item :: items, free => by
    simp only [objectFreeItems, Bool.and_eq_true] at free
    simp only [encodeItems, decodeItems, decode_encode item free.1,
      decodeItems_encodeItems items free.2, List.nil_append]

theorem decodeFields_encodeFields : (fields : List (String × Value Obj)) → objectFreeFields fields →
    decodeFields r (encodeFields fields).1 = (fields, [])
  | [], _ => by
    simp only [encodeFields, decodeFields]
  | (key, value) :: fields, free => by
    simp only [objectFreeFields, Bool.and_eq_true] at free
    simp only [encodeFields, decodeFields, decode_encode value free.1,
      decodeFields_encodeFields fields free.2, List.nil_append]

end

/-- Saved variables are always restored, whatever becomes of the objects in them. -/
lemma decodeVars_encodeVars_eq (vars : Vars Obj) :
    decodeVars r (encodeVars vars).1 = .ok (decodeFields r (encodeFields vars).1) := by
  unfold decodeVars encodeVars
  simp only [encode, decode_dict]

/-- Variables without objects are restored as they were saved. -/
theorem decodeVars_encodeVars {vars : Vars Obj} (free : objectFreeFields vars) :
    decodeVars r (encodeVars vars).1 = .ok (vars, []) := by
  unfold decodeVars encodeVars
  rw [decode_encode r (.dict vars) (by simpa only [Value.objectFree] using free)]

end Save

end BranchingStory
