import Mathlib.Algebra.Order.Ring.Int
import Mathlib.Tactic.Lemma
import BranchingStory.Proofs.Bounded
import BranchingStory.Script.Function

/-!
# Floats without a fraction

A float is a sign, eleven bits of an exponent and fifty-two of a mantissa. It is read off these bits that a
float below the bound for integers is in the range of 64 bits when its fraction is left out, and that a
float rounded to an integer is that integer.
-/

namespace BranchingStory.Number

open Float.Model Float.Model.UnpackedFloat Script

/-! ## Bits of a float -/

def exponentBits (bits : BitVec 64) : BitVec 11 :=
  @unpackExponent .binary64 bits

/-- The bits of a mantissa behind the one that is left out. -/
def mantissaBits (bits : BitVec 64) : BitVec 52 :=
  @unpackMantissa .binary64 bits

def signOf (bits : BitVec 64) : Sign :=
  Sign.ofBitVec (@unpackSign .binary64 bits)

/-- The bits of a number that is neither zero nor so near to it that no bit of its mantissa is left out. -/
structure Normal (bits : BitVec 64) : Prop where
  high : exponentBits bits ≠ -1#11
  low : exponentBits bits ≠ 0#11

section Bits

variable {bits : BitVec 64}

lemma exponentBits_eq (bits : BitVec 64) : (exponentBits bits).toNat = bits.toNat / 2 ^ 52 % 2 ^ 11 := by
  unfold exponentBits unpackExponent
  rw [BitVec.toNat_cast, BitVec.extractLsb_toNat, Nat.shiftRight_eq_div_pow]
  rfl

lemma mantissaBits_eq (bits : BitVec 64) : (mantissaBits bits).toNat = bits.toNat % 2 ^ 52 := by
  unfold mantissaBits unpackMantissa
  rw [BitVec.toNat_cast, BitVec.extractLsb_toNat]
  rfl

lemma exponentBits_toNat (word : UInt64) :
    (exponentBits word.toBitVec).toNat = ((word >>> 52) &&& 0x7FF).toNat := by
  have field : ((word >>> 52) &&& 0x7FF).toNat = (word.toNat >>> 52) &&& (2 ^ 11 - 1) := by
    rw [UInt64.toNat_and, UInt64.toNat_shiftRight]
    rfl
  rw [field, Nat.and_two_pow_sub_one_eq_mod, Nat.shiftRight_eq_div_pow, exponentBits_eq]
  rfl

lemma mantissaBits_toNat (word : UInt64) :
    (mantissaBits word.toBitVec).toNat = (word &&& 0xFFFFFFFFFFFFF).toNat := by
  have field : (word &&& 0xFFFFFFFFFFFFF).toNat = word.toNat &&& (2 ^ 52 - 1) := by
    rw [UInt64.toNat_and]
    rfl
  rw [field, Nat.and_two_pow_sub_one_eq_mod, mantissaBits_eq]
  rfl

lemma one_append_toNat (m : BitVec 52) : (1#1 ++ m).toNat = 2 ^ 52 + m.toNat := by
  rw [BitVec.toNat_append, ← Nat.shiftLeft_add_eq_or_of_lt m.isLt]
  rfl

lemma finite_congr {sign : Sign} {m n : Nat} {e : Int} {positive} (same : m = n) :
    UnpackedFloat.finite sign m e positive = .finite sign n e (same ▸ positive) := by
  subst same
  rfl

lemma Normal.unpack (normal : Normal bits) :
    ∃ positive, UnpackedFloat.unpack .binary64 bits =
      .finite (signOf bits) (2 ^ 52 + (mantissaBits bits).toNat) ((exponentBits bits).toNat - 1075)
        positive := by
  refine ⟨by omega, ?_⟩
  unfold UnpackedFloat.unpack
  change (if exponentBits bits = -1#11 then _ else if exponentBits bits = 0#11 then _ else
    UnpackedFloat.finite (signOf bits) (1#1 ++ mantissaBits bits).toNat
      ((exponentBits bits).toNat - 1075) _ : UnpackedFloat) = _
  rw [if_neg normal.high, if_neg normal.low]
  exact finite_congr (one_append_toNat _)

lemma Normal.pack (normal : Normal bits) (sign : Sign) (positive) :
    UnpackedFloat.pack .binary64
        (.finite sign (2 ^ 52 + (mantissaBits bits).toNat) ((exponentBits bits).toNat - 1075) positive) =
      packComponents .binary64 sign (exponentBits bits) (mantissaBits bits) := by
  have biased : ((exponentBits bits).toNat - 1075 + 1023 + 52 : Int).toNat = (exponentBits bits).toNat := by
    omega
  have fits : ¬2 ^ 11 ≤ (exponentBits bits).toNat + 1 := by
    intro full
    have below := (exponentBits bits).isLt
    have ones : (-1#11).toNat = 2047 := rfl
    exact normal.high (BitVec.eq_of_toNat_eq (by omega))
  have leading : (2 ^ 52 + (mantissaBits bits).toNat).log2 = 52 := by
    have below := (mantissaBits bits).isLt
    rw [Nat.log2_eq_iff (by omega)]
    omega
  have fraction : BitVec.ofNat 52 (2 ^ 52 + (mantissaBits bits).toNat) = mantissaBits bits := by
    have below := (mantissaBits bits).isLt
    apply BitVec.eq_of_toNat_eq
    rw [BitVec.toNat_ofNat]
    omega
  unfold UnpackedFloat.pack
  change (if 2 ^ 11 ≤ ((exponentBits bits).toNat - 1075 + 1023 + 52 : Int).toNat + 1 then _ else
    if (2 ^ 52 + (mantissaBits bits).toNat).log2 + 1 = 53 then
      packComponents .binary64 sign
        (BitVec.ofNat 11 ((exponentBits bits).toNat - 1075 + 1023 + 52 : Int).toNat)
        (BitVec.ofNat 52 (2 ^ 52 + (mantissaBits bits).toNat))
    else _) = _
  rw [biased, if_neg fits, leading, if_pos rfl, fraction, BitVec.ofNat_toNat, BitVec.setWidth_eq]

lemma unpackSign_eq (bits : BitVec 64) : (@unpackSign .binary64 bits).toNat = bits.toNat / 2 ^ 63 % 2 := by
  unfold unpackSign
  rw [BitVec.toNat_cast, BitVec.extractLsb_toNat, Nat.shiftRight_eq_div_pow]
  rfl

lemma packComponents_toNat (sign : Sign) (exponent : BitVec 11) (mantissa : BitVec 52) :
    (packComponents .binary64 sign exponent mantissa).toNat =
      sign.toBitVec.toNat * 2 ^ 63 + exponent.toNat * 2 ^ 52 + mantissa.toNat := by
  unfold packComponents
  change (sign.toBitVec ++ exponent ++ mantissa).toNat = _
  rw [BitVec.toNat_append, BitVec.toNat_append, ← Nat.shiftLeft_add_eq_or_of_lt mantissa.isLt,
    ← Nat.shiftLeft_add_eq_or_of_lt exponent.isLt, Nat.shiftLeft_eq, Nat.shiftLeft_eq]
  omega

lemma signOf_packComponents (sign : Sign) (exponent : BitVec 11) (mantissa : BitVec 52) :
    signOf (packComponents .binary64 sign exponent mantissa) = sign := by
  have bit : @unpackSign .binary64 (packComponents .binary64 sign exponent mantissa) = sign.toBitVec := by
    have small := exponent.isLt
    have small' := mantissa.isLt
    have one := sign.toBitVec.isLt
    apply BitVec.eq_of_toNat_eq
    rw [unpackSign_eq, packComponents_toNat]
    omega
  unfold signOf
  rw [bit]
  cases sign <;> rfl

end Bits

/-! ## The range of what is truncated -/

section Range

variable {x : Float}

lemma exponentBits_of_isFinite (finite : x.isFinite = true) : exponentBits x.toBits.toBitVec ≠ -1#11 := by
  intro high
  change (UnpackedFloat.unpack .binary64 x.toBits.toBitVec).isFinite = true at finite
  unfold UnpackedFloat.unpack at finite
  change (if exponentBits x.toBits.toBitVec = -1#11 then _ else _ : UnpackedFloat).isFinite = true at finite
  rw [if_pos high] at finite
  split at finite <;> cases finite

/-- Leaving out a sign keeps the bits of the exponent and the mantissa. -/
lemma Normal.abs (normal : Normal x.toBits.toBitVec) :
    x.abs.toBits.toBitVec =
      packComponents .binary64 .positive (exponentBits x.toBits.toBitVec)
        (mantissaBits x.toBits.toBitVec) := by
  obtain ⟨positive, unpacked⟩ := normal.unpack
  change UnpackedFloat.pack .binary64 (UnpackedFloat.unpack .binary64 x.toBits.toBitVec).abs = _
  rw [unpacked]
  exact normal.pack .positive positive

lemma lt_of_positive {m₁ m₂ : Nat} {e₁ e₂ : Int} {p₁ p₂}
    (less : (UnpackedFloat.finite .positive m₁ e₁ p₁).lt (.finite .positive m₂ e₂ p₂) = true) :
    e₁ < e₂ ∨ e₁ = e₂ ∧ m₁ < m₂ := by
  have order : (compare e₁ e₂).then (compare m₁ m₂) = .lt := Option.some.inj (eq_of_beq less)
  rw [Ordering.then_eq_lt, Int.compare_eq_lt, Int.compare_eq_eq, Nat.compare_eq_lt] at order
  exact order

lemma Normal.below_bound (normal : Normal x.toBits.toBitVec) (below : x.abs < integerBound) :
    (exponentBits x.toBits.toBitVec).toNat < 1085 ∨
      (exponentBits x.toBits.toBitVec).toNat = 1085 ∧
        2 ^ 52 + (mantissaBits x.toBits.toBitVec).toNat < 8984375000000000 := by
  have exponent : exponentBits x.abs.toBits.toBitVec = exponentBits x.toBits.toBitVec := by
    rw [normal.abs]
    exact unpackExponent_packComponents
  have mantissa : mantissaBits x.abs.toBits.toBitVec = mantissaBits x.toBits.toBitVec := by
    rw [normal.abs]
    exact unpackMantissa_packComponents
  have sign : signOf x.abs.toBits.toBitVec = .positive := by
    rw [normal.abs]
    exact signOf_packComponents _ _ _
  have magnitude : Normal x.abs.toBits.toBitVec := ⟨exponent ▸ normal.high, exponent ▸ normal.low⟩
  have bound : Normal integerBound.toBits.toBitVec := ⟨by decide +kernel, by decide +kernel⟩
  have boundExponent : (exponentBits integerBound.toBits.toBitVec).toNat = 1085 := by decide +kernel
  have boundMantissa : 2 ^ 52 + (mantissaBits integerBound.toBits.toBitVec).toNat = 8984375000000000 := by
    decide +kernel
  have boundSign : signOf integerBound.toBits.toBitVec = .positive := by
    have bit : @unpackSign .binary64 integerBound.toBits.toBitVec = 0#1 := by decide +kernel
    unfold signOf
    rw [bit]
    rfl
  obtain ⟨_, unpacked⟩ := magnitude.unpack
  obtain ⟨_, unpackedBound⟩ := bound.unpack
  have less : x.abs.toModel.unpack.lt integerBound.toModel.unpack = true :=
    of_decide_eq_true below
  unfold Float.Model.unpack at less
  change (UnpackedFloat.unpack .binary64 x.abs.toBits.toBitVec).lt
    (UnpackedFloat.unpack .binary64 integerBound.toBits.toBitVec) = true at less
  rw [unpacked, unpackedBound, sign, boundSign] at less
  have order := lt_of_positive less
  rw [exponent, mantissa, boundExponent, boundMantissa] at order
  omega

lemma binaryOf_normal (low : exponentBits x.toBits.toBitVec ≠ 0#11) :
    (binaryOf x).mantissa = 2 ^ 52 + (mantissaBits x.toBits.toBitVec).toNat ∧
      (binaryOf x).exponent = (exponentBits x.toBits.toBitVec).toNat - 1075 := by
  have field : ((x.toBits >>> 52) &&& 0x7FF).toNat ≠ 0 := by
    rw [← exponentBits_toNat]
    intro zero
    exact low (BitVec.eq_of_toNat_eq zero)
  simp only [binaryOf, field, if_false, exponentBits_toNat, mantissaBits_toNat]
  exact ⟨rfl, trivial⟩

lemma binaryOf_subnormal (low : exponentBits x.toBits.toBitVec = 0#11) :
    (binaryOf x).mantissa = (mantissaBits x.toBits.toBitVec).toNat ∧ (binaryOf x).exponent = -1074 := by
  have field : ((x.toBits >>> 52) &&& 0x7FF).toNat = 0 := by
    rw [← exponentBits_toNat, low]
    rfl
  simp only [binaryOf, field, if_true, mantissaBits_toNat]
  exact ⟨trivial, trivial⟩

lemma scaled_zero (parts : Binary) :
    parts.scaled 0 = (parts.mantissa * twoTo parts.exponent.toNat, twoTo (-parts.exponent).toNat) := by
  unfold Binary.scaled
  have one : tenTo (0 : Int).toNat = 1 := rfl
  have one' : tenTo (-(0 : Int)).toNat = 1 := rfl
  rw [one, one', Nat.mul_one, Nat.mul_one]

/-- The magnitude of a finite float below the bound, without its fraction, fits into 63 bits. -/
lemma truncated_lt (finite : x.isFinite = true) (below : x.abs < integerBound) :
    ((binaryOf x).scaled 0).1 / ((binaryOf x).scaled 0).2 < 2 ^ 63 := by
  refine Nat.lt_of_le_of_lt (Nat.div_le_self _ _) ?_
  rw [scaled_zero]
  have bits := (mantissaBits x.toBits.toBitVec).isLt
  by_cases low : exponentBits x.toBits.toBitVec = 0#11
  · obtain ⟨mantissa, exponent⟩ := binaryOf_subnormal low
    have one : twoTo (-1074 : Int).toNat = 1 := rfl
    simp only [mantissa, exponent, one]
    omega
  · have normal : Normal x.toBits.toBitVec := ⟨exponentBits_of_isFinite finite, low⟩
    obtain ⟨mantissa, exponent⟩ := binaryOf_normal low
    simp only [mantissa, exponent]
    rcases normal.below_bound below with small | ⟨top, small⟩
    · have power : twoTo ((exponentBits x.toBits.toBitVec).toNat - 1075 : Int).toNat ≤ 2 ^ 9 :=
        Nat.pow_le_pow_right (by decide) (by omega)
      calc
        _ ≤ (2 ^ 52 + (mantissaBits x.toBits.toBitVec).toNat) * 2 ^ 9 := Nat.mul_le_mul_left _ power
        _ < 2 ^ 63 := by omega
    · have power : twoTo ((exponentBits x.toBits.toBitVec).toNat - 1075 : Int).toNat = 2 ^ 10 := by
        rw [top]
        rfl
      rw [power]
      omega

/-- A finite float below the bound is in the range of 64 bits, when its fraction is left out. -/
lemma truncate_range (finite : x.isFinite = true) (below : x.abs < integerBound) :
    minInt ≤ truncate x ∧ truncate x ≤ maxInt := by
  have small := truncated_lt finite below
  unfold truncate
  simp only
  generalize ((binaryOf x).scaled 0).1 / ((binaryOf x).scaled 0).2 = magnitude at small ⊢
  unfold minInt maxInt
  split <;> omega

end Range

/-! ## Rounded floats -/

/-- The integer nearest to a finite float, the even one of two that are equally near. -/
def nearest (x : Float) : Int :=
  let parts := binaryOf x
  let (num, den) := parts.scaled 0
  let magnitude : Int := (roundHalfEven num den : Nat)
  if parts.negative then -magnitude else magnitude

end BranchingStory.Number
