import Mathlib
import TemplateBundler.Decimal.Shortest

/-! # Whole numbers in binary

A whole number below 2⁵³ is a binary64 number without any rounding: its significand is the
number itself, shifted until it has 53 bits.
-/

namespace TemplateBundler.Decimal

open Float.Model Float.Model.UnpackedFloat

variable {m n : Nat} {e : Int}

/-- A significand that has all its 53 bits. -/
structure IsFull (m : Nat) : Prop where
  le : 2 ^ 52 ≤ m
  lt : m < 2 ^ 53

namespace IsFull

theorem pos (h : IsFull m) : 0 < m := Nat.lt_of_lt_of_le (by decide) h.le

theorem log2_shifted (h : IsFull m) (j : Nat) : (m * 2 ^ j).log2 = 52 + j := by
  have hpow := Nat.two_pow_pos j
  have hle := Nat.mul_le_mul_right (2 ^ j) h.le
  have hlt := Nat.mul_lt_mul_of_pos_right h.lt hpow
  rw [← Nat.pow_add] at hle hlt
  rw [Nat.log2_eq_iff (Nat.ne_of_gt (Nat.mul_pos h.pos hpow))]
  exact ⟨hle, Nat.add_right_comm 52 j 1 ▸ hlt⟩

end IsFull

/-! ## Rounding -/

/-- Zeros behind a significand are shifted out without a trace. -/
theorem shiftRight_shifted (m j : Nat) :
    (⟨m * 2 ^ j, false, false⟩ : ExtendedMantissa) >>> j = ⟨m, false, false⟩ := by
  change Nat.repeat ExtendedMantissa.shiftRightOne j _ = _
  induction j generalizing m with
  | zero => simp [Nat.repeat]
  | succ j ih =>
      rw [Nat.pow_succ', ← Nat.mul_assoc, Nat.repeat, ih]
      simp [ExtendedMantissa.shiftRightOne]

theorem shiftToTargetExponent_shifted (hm : IsFull m) (he : -1074 ≤ e) (j : Nat) :
    shiftToTargetExponent .binary64 (m * 2 ^ j) (e - j) .exact = (⟨m, false, false⟩, e) := by
  have htarget : Format.binary64.targetExponent (totalExponent (m * 2 ^ j) (e - j)) = e := by
    simp only [Format.targetExponent, totalExponent, hm.log2_shifted, Format.mantissaBits,
      Format.minExponent]
    omega
  have hshift : (e - (e - j)).toNat = j := by omega
  rw [shiftToTargetExponent, htarget, shiftToExponent, hshift,
    ExtendedMantissa.ofMantissaAndAccuracy, shiftRight_shifted, Int.sub_add_cancel]

/-- A number with a full significand is not rounded. -/
theorem roundWithAccuracy_shifted (hm : IsFull m) (he : -1074 ≤ e) (j : Nat) :
    roundWithAccuracy .binary64 .positive (m * 2 ^ j) (e - j) .exact =
      .finite .positive m e hm.pos := by
  have hagain := shiftToTargetExponent_shifted hm he 0
  rw [Nat.pow_zero, Nat.mul_one, Int.natCast_zero, Int.sub_zero] at hagain
  simp [roundWithAccuracy, shiftToTargetExponent_shifted hm he, ExtendedMantissa.roundedMantissa,
    ExtendedMantissa.accuracy, Accuracy.roundToNearestEven, hagain, Nat.ne_of_gt hm.pos]

/-! ## Packing -/

variable {sign : Sign}

theorem pack_full (hm : IsFull m) (hlow : -1074 ≤ e) (hhigh : e ≤ 971) :
    UnpackedFloat.pack .binary64 (.finite sign m e hm.pos) =
      packComponents .binary64 sign (BitVec.ofNat 11 (e + 1075).toNat) (BitVec.ofNat 52 m) := by
  have hlog : m.log2 = 52 := by simpa using hm.log2_shifted 0
  have hbiased : e + (Format.binary64.exponentBias : Int) + (52 : Nat) = e + 1075 := by
    change e + 1023 + 52 = e + 1075
    omega
  have hexponent : ¬ 2 ^ 11 ≤ (e + 1075).toNat + 1 := by omega
  simp only [UnpackedFloat.pack, hbiased, hlog]
  rw [if_neg hexponent, if_pos (show 52 + 1 = Format.binary64.mantissaBits from rfl)]

/-- A number that is too large becomes an infinity. -/
theorem pack_large (hm : IsFull m) (hhigh : 971 < e) :
    UnpackedFloat.pack .binary64 (.finite sign m e hm.pos) = packedInfinity .binary64 sign := by
  refine if_pos ?_
  change 2 ^ 11 ≤ (e + 1023 + 52).toNat + 1
  omega

theorem toNat_significand (hm : IsFull m) : (BitVec.ofNat 52 m).toNat = m - 2 ^ 52 := by
  have hle := hm.le
  have hlt := hm.lt
  rw [BitVec.toNat_ofNat]
  omega

theorem toNat_exponent (hlow : -1074 ≤ e) (hhigh : e ≤ 971) :
    (BitVec.ofNat 11 (e + 1075).toNat).toNat = (e + 1075).toNat := by
  rw [BitVec.toNat_ofNat]
  omega

theorem toNat_append_eq {v w : Nat} (front : BitVec v) (back : BitVec w) :
    (front ++ back).toNat = front.toNat * 2 ^ w + back.toNat := by
  rw [BitVec.toNat_append, ← Nat.shiftLeft_add_eq_or_of_lt back.isLt, Nat.shiftLeft_eq]

/-- The bits of a number with a full significand: its sign, its exponent, then all but its first
bit. -/
theorem toNat_pack_full (hm : IsFull m) (hlow : -1074 ≤ e) (hhigh : e ≤ 971) :
    (UnpackedFloat.pack .binary64 (.finite sign m e hm.pos)).toNat =
      (sign.toBitVec.toNat * 2 ^ 11 + (e + 1075).toNat) * 2 ^ 52 + (m - 2 ^ 52) := by
  rw [pack_full hm hlow hhigh]
  change (sign.toBitVec ++ BitVec.ofNat 11 (e + 1075).toNat ++ BitVec.ofNat 52 m).toNat = _
  rw [toNat_append_eq, toNat_append_eq, toNat_significand hm, toNat_exponent hlow hhigh]

theorem ofBitVec_unpackSign (exponent : BitVec 11) (significand : BitVec 52) :
    Sign.ofBitVec (unpackSign (packComponents .binary64 sign exponent significand)) = sign := by
  have hsign : unpackSign (packComponents .binary64 sign exponent significand) =
      sign.toBitVec := by
    change (sign.toBitVec ++ exponent ++ significand).extractLsb' 63 1 = _
    rw [BitVec.extractLsb'_append_eq_of_le (by decide),
      BitVec.extractLsb'_append_eq_of_le (by decide)]
    cases sign <;> rfl
  rw [hsign]
  cases sign <;> rfl

/-- A number with a full significand is unpacked as it was packed. -/
theorem unpack_pack_full (hm : IsFull m) (hlow : -1074 ≤ e) (hhigh : e ≤ 971) :
    UnpackedFloat.unpack .binary64 (UnpackedFloat.pack .binary64 (.finite sign m e hm.pos)) =
      .finite sign m e hm.pos := by
  have hexponent := toNat_exponent hlow hhigh
  have hinfinite : BitVec.ofNat 11 (e + 1075).toNat ≠ -1#11 := by
    intro heq
    rw [heq] at hexponent
    change 2047 = _ at hexponent
    omega
  have hzero : BitVec.ofNat 11 (e + 1075).toNat ≠ 0#11 := by
    intro heq
    rw [heq] at hexponent
    change 0 = _ at hexponent
    omega
  have hfirst : (1#1 ++ BitVec.ofNat 52 m).toNat = m := by
    rw [toNat_append_eq, toNat_significand hm, BitVec.toNat_one (by decide), Nat.one_mul]
    exact Nat.add_sub_of_le hm.le
  have hunbiased : ((e + 1075).toNat : Int) -
      ((Format.binary64.exponentBias : Int) + (52 : Nat)) = e := by
    change ((e + 1075).toNat : Int) - (1023 + 52) = e
    omega
  rw [pack_full hm hlow hhigh]
  simp only [UnpackedFloat.unpack, unpackMantissa_packComponents, unpackExponent_packComponents,
    ofBitVec_unpackSign, if_neg hinfinite, if_neg hzero, hexponent, hfirst, hunbiased]

/-! ## Whole numbers -/

/-- A positive number that has at most the 53 bits of a significand. -/
structure IsExact (n : Nat) : Prop where
  pos : 0 < n
  lt : n < 2 ^ 53

/-- By how many bits the number is short of a full significand. -/
def shortBits (n : Nat) : Nat := 52 - n.log2

theorem le_exponent (n : Nat) : -1074 ≤ -(shortBits n : Int) := by
  unfold shortBits
  omega

namespace IsExact

theorem log2_le (h : IsExact n) : n.log2 ≤ 52 :=
  Nat.le_of_lt_succ ((Nat.log2_lt (Nat.ne_of_gt h.pos)).mpr h.lt)

theorem isFull (h : IsExact n) : IsFull (n * 2 ^ shortBits n) := by
  obtain ⟨hle, hlt⟩ := (Nat.log2_eq_iff (Nat.ne_of_gt h.pos)).mp rfl
  have hlow := Nat.mul_le_mul_right (2 ^ shortBits n) hle
  have hhigh := Nat.mul_lt_mul_of_pos_right hlt (Nat.two_pow_pos (shortBits n))
  rw [← Nat.pow_add, shortBits] at hlow hhigh
  refine ⟨?_, ?_⟩
  · rwa [Nat.add_sub_cancel' h.log2_le] at hlow
  · rwa [Nat.add_right_comm, Nat.add_sub_cancel' h.log2_le] at hhigh

/-- The number as it is unpacked: its significand is full. -/
def unpacked (h : IsExact n) : UnpackedFloat :=
  .finite .positive (n * 2 ^ shortBits n) (-(shortBits n : Int)) h.isFull.pos

theorem ofNat_eq (h : IsExact n) : UnpackedFloat.ofNat .binary64 n = h.unpacked := by
  have hlog := h.log2_le
  have hsign : compare (n : Int) 0 = .gt := Int.compare_eq_gt.mpr (Int.natCast_pos.mpr h.pos)
  have htarget : Format.binary64.targetExponent (totalExponent n 0) = -(shortBits n : Int) := by
    simp only [Format.targetExponent, totalExponent, Format.mantissaBits, Format.minExponent,
      shortBits]
    omega
  have hround := roundWithAccuracy_shifted h.isFull (le_exponent n) 0
  rw [Nat.pow_zero, Nat.mul_one, Int.natCast_zero, Int.sub_zero] at hround
  simp only [UnpackedFloat.ofNat, UnpackedFloat.ofInt, UnpackedFloat.normalize, hsign,
    Int.toNat_natCast, UnpackedFloat.round, htarget, decreaseExponent, Nat.shiftLeft_eq,
    Int.zero_sub, Int.neg_neg]
  exact hround

theorem unpack_pack (h : IsExact n) : (Float.Model.pack h.unpacked).unpack = h.unpacked :=
  unpack_pack_full h.isFull (le_exponent n) (by omega)

theorem toModel_eq (h : IsExact n) : (Float.ofNat n).toModel = Float.Model.pack h.unpacked := by
  have hword : n.toUInt64.toNat = n := by
    have hlt := h.lt
    rw [Nat.toUInt64_eq, UInt64.toNat_ofNat']
    omega
  have hconverted : n.toUInt64.toFloat.toModel.unpack = h.unpacked := by
    change (Float.Model.pack (UnpackedFloat.ofNat .binary64 n.toUInt64.toNat)).unpack = _
    rw [hword, h.ofNat_eq, h.unpack_pack]
  have hone : (Float.ofBits 0x3FF0000000000000).toModel.unpack =
      .finite .positive (2 ^ 52) (-52) (by decide) := by
    rfl
  -- A whole number is converted and then multiplied by the zeroth power of ten.
  have hproduct : Float.ofNat n = n.toUInt64.toFloat * Float.ofBits 0x3FF0000000000000 :=
    dif_pos ⟨h.lt, by decide⟩
  have hround := roundWithAccuracy_shifted h.isFull (le_exponent n) 52
  rw [hproduct]
  change Float.Model.pack (UnpackedFloat.mul .binary64 n.toUInt64.toFloat.toModel.unpack
    (Float.ofBits 0x3FF0000000000000).toModel.unpack) = _
  rw [hconverted, hone]
  exact congrArg Float.Model.pack hround

theorem unpack_toModel (h : IsExact n) : (Float.ofNat n).toModel.unpack = h.unpacked := by
  rw [h.toModel_eq, h.unpack_pack]

theorem isNaN_ofNat (h : IsExact n) : (Float.ofNat n).isNaN = false := by
  rw [Float.isNaN, Float.Model.isNaN, h.unpack_toModel]
  rfl

theorem isInf_ofNat (h : IsExact n) : (Float.ofNat n).isInf = false := by
  rw [Float.isInf, Float.Model.isInf, h.unpack_toModel]
  rfl

theorem isFinite_ofNat (h : IsExact n) : (Float.ofNat n).isFinite := by
  rw [Float.isFinite, Float.Model.isFinite, h.unpack_toModel]
  rfl

theorem toBits_ofNat (h : IsExact n) :
    (Float.ofNat n).toBits.toNat =
      (1023 + n.log2) * 2 ^ 52 + (n * 2 ^ shortBits n - 2 ^ 52) := by
  have hlog := h.log2_le
  have hexponent : (-(shortBits n : Int) + 1075).toNat = 1023 + n.log2 := by
    unfold shortBits
    omega
  have hbits := @toNat_pack_full _ _ .positive h.isFull (le_exponent n) (by omega)
  rw [hexponent] at hbits
  rw [Float.toBits, h.toModel_eq, ← Nat.zero_add (1023 + n.log2)]
  exact hbits

/-- The binary number that a whole one is. -/
theorem ofBits_ofNat (h : IsExact n) :
    ∃ narrowBelow, Binary.ofBits (Float.ofNat n).toBits =
      ⟨n * 2 ^ shortBits n, -(shortBits n : Int), narrowBelow⟩ := by
  have hlog := h.log2_le
  have hle := h.isFull.le
  have hlt := h.isFull.lt
  have hbiased : (Float.ofNat n).toBits.toNat / 2 ^ 52 % 2048 = 1023 + n.log2 := by
    rw [h.toBits_ofNat]
    omega
  have hfraction : (Float.ofNat n).toBits.toNat % 2 ^ 52 = n * 2 ^ shortBits n - 2 ^ 52 := by
    rw [h.toBits_ofNat]
    omega
  have hnormal : ¬ 1023 + n.log2 = 0 := by omega
  have hsum : 2 ^ 52 + (n * 2 ^ shortBits n - 2 ^ 52) = n * 2 ^ shortBits n := by omega
  have hexponent : ((1023 + n.log2 : Nat) : Int) - 1075 = -(shortBits n : Int) := by
    unfold shortBits
    omega
  simp only [Binary.ofBits, Nat.pow_eq, hbiased, hfraction, if_neg hnormal, hsum, hexponent]
  exact ⟨_, rfl⟩

end IsExact

end TemplateBundler.Decimal
