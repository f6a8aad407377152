import TemplateBundler.Proofs.Decimal.Binary

/-! # Signs

Every whole number but zero, however large, has its own sign in binary64: rounding may move it, even
to an infinity, but neither to zero nor to the other side of it.
-/

namespace TemplateBundler.Decimal

open Float.Model Float.Model.UnpackedFloat

variable {sign : Sign} {m n : Nat} {e : Int} {f : UnpackedFloat}

/-- The number is an infinity or has a full significand, and it has this sign. -/
inductive IsNormal (sign : Sign) : UnpackedFloat → Prop
  | infinity : IsNormal sign (.infinity sign)
  | finite {m : Nat} {e : Int} (hm : IsFull m) (he : -1074 ≤ e) :
      IsNormal sign (.finite sign m e hm.pos)

namespace IsNormal

/-! ## Rounding -/

theorem mantissa_shiftRight (extended : ExtendedMantissa) (j : Nat) :
    (extended >>> j).mantissa = extended.mantissa / 2 ^ j := by
  change (Nat.repeat ExtendedMantissa.shiftRightOne j extended).mantissa = _
  induction j with
  | zero => simp [Nat.repeat]
  | succ j ih =>
      rw [Nat.repeat, ExtendedMantissa.shiftRightOne, ih, Nat.div_div_eq_div_mul, Nat.pow_succ]

theorem mantissa_ofMantissaAndAccuracy (m : Nat) (accuracy : Accuracy) :
    (ExtendedMantissa.ofMantissaAndAccuracy m accuracy).mantissa = m := by
  cases accuracy with
  | exact => rfl
  | inexact side => cases side <;> rfl

theorem le_roundedMantissa (extended : ExtendedMantissa) :
    extended.mantissa ≤ extended.roundedMantissa := by
  obtain ⟨mantissa, round, sticky⟩ := extended
  cases round <;> cases sticky <;>
    simp [ExtendedMantissa.roundedMantissa, ExtendedMantissa.accuracy, Accuracy.roundToNearestEven]

/-- Bits that are too many for a significand are shifted out. -/
theorem isFull_shiftToTargetExponent (hm : 2 ^ 52 ≤ m) (he : -1074 ≤ e) (accuracy : Accuracy) :
    IsFull (shiftToTargetExponent .binary64 m e accuracy).1.mantissa ∧
      -1074 ≤ (shiftToTargetExponent .binary64 m e accuracy).2 := by
  have hne : m ≠ 0 := by omega
  obtain ⟨shift, hshift⟩ := Nat.exists_eq_add_of_le ((Nat.le_log2 hne).mpr hm)
  obtain ⟨hle, hlt⟩ := (Nat.log2_eq_iff hne).mp hshift
  have htarget : Format.binary64.targetExponent (totalExponent m e) = e + shift := by
    simp only [Format.targetExponent, totalExponent, hshift, Format.mantissaBits,
      Format.minExponent]
    omega
  have hamount : (e + shift - e).toNat = shift := by omega
  simp only [shiftToTargetExponent, htarget, shiftToExponent, hamount, mantissa_shiftRight,
    mantissa_ofMantissaAndAccuracy]
  refine ⟨⟨?_, ?_⟩, by omega⟩
  · rwa [Nat.le_div_iff_mul_le (Nat.two_pow_pos shift), ← Nat.pow_add]
  · rwa [Nat.div_lt_iff_lt_mul (Nat.two_pow_pos shift), ← Nat.pow_add, Nat.add_right_comm 52 1]

theorem roundWithAccuracy (hm : 2 ^ 52 ≤ m) (he : -1074 ≤ e) (sign : Sign) (accuracy : Accuracy) :
    IsNormal sign (UnpackedFloat.roundWithAccuracy .binary64 sign m e accuracy) := by
  obtain ⟨hshifted, hlow⟩ := isFull_shiftToTargetExponent hm he accuracy
  -- Rounding up may have made the significand too long again.
  obtain ⟨hfull, hlow⟩ := isFull_shiftToTargetExponent
    (Nat.le_trans hshifted.le (le_roundedMantissa _)) hlow .exact
  rw [UnpackedFloat.roundWithAccuracy]
  dsimp only
  rw [dif_neg (Nat.ne_of_gt hfull.pos)]
  exact .finite hfull hlow

/-! ## Packing -/

theorem neg (h : IsNormal sign f) : IsNormal (-sign) f.neg := by
  cases h with
  | infinity => exact .infinity
  | finite hm he => exact .finite hm he

theorem unpack_packedInfinity (sign : Sign) :
    UnpackedFloat.unpack .binary64 (packedInfinity .binary64 sign) = .infinity sign := by
  cases sign <;> rfl

theorem unpack_pack (h : IsNormal sign f) : IsNormal sign (Float.Model.pack f).unpack := by
  change IsNormal sign (UnpackedFloat.unpack .binary64 (UnpackedFloat.pack .binary64 f))
  cases h with
  | infinity =>
      change IsNormal sign (UnpackedFloat.unpack .binary64 (packedInfinity .binary64 sign))
      rw [unpack_packedInfinity]
      exact .infinity
  | @finite m e hm he =>
      by_cases hhigh : e ≤ 971
      · rw [unpack_pack_full hm he hhigh]
        exact .finite hm he
      · rw [pack_large hm (Int.not_le.mp hhigh), unpack_packedInfinity]
        exact .infinity

/-- A negative number has the bit of the sign and others. -/
theorem lt_toNat_pack (h : IsNormal .negative f) :
    2 ^ 63 < (UnpackedFloat.pack .binary64 f).toNat := by
  have hinfinity : 2 ^ 63 < (packedInfinity .binary64 .negative).toNat := by decide
  cases h with
  | infinity => exact hinfinity
  | @finite m e hm he =>
      by_cases hhigh : e ≤ 971
      · have hsign : Sign.negative.toBitVec.toNat = 1 := rfl
        rw [toNat_pack_full hm he hhigh, hsign]
        omega
      · rwa [pack_large hm (Int.not_le.mp hhigh)]

/-! ## Whole numbers -/

/-- A whole number that is too large to be exact gets more bits than a significand has, to be
rounded. -/
theorem ofScientific_zero (hpos : 0 < n) :
    UnpackedFloat.ofScientific .binary64 n 0 =
      UnpackedFloat.roundWithAccuracy .binary64 .positive (n <<< 53) (-53) .exact := by
  have hhuge : ¬ (0 : Int) > 2 ^ Format.binary64.exponentBits := by decide
  have htiny : ¬ (0 : Int) < -(2 ^ Format.binary64.exponentBits + (n.log2 : Int)) := by
    change ¬ (0 : Int) < -(2 ^ 11 + (n.log2 : Int))
    omega
  rw [UnpackedFloat.ofScientific, dif_neg (Nat.ne_of_gt hpos), if_neg hhuge, if_neg htiny,
    if_pos (Int.le_refl 0), ← Nat.mul_one (n <<< 53)]
  rfl

theorem ofNat (hpos : 0 < n) : IsNormal .positive (Float.ofNat n).toModel.unpack := by
  by_cases hlt : n < 2 ^ 53
  · have hexact : IsExact n := ⟨hpos, hlt⟩
    rw [hexact.unpack_toModel]
    exact .finite hexact.isFull (le_exponent n)
  · have hlarge : ¬ (n < 2 ^ 53 ∧ 0 ≤ 22) := fun h => hlt h.1
    have hmodel : (Float.ofNat n).toModel = Float.Model.ofScientific n 0 :=
      congrArg Float.toModel (dif_neg hlarge)
    have hshifted : 2 ^ 52 ≤ n <<< 53 := by
      rw [Nat.shiftLeft_eq]
      omega
    rw [hmodel]
    refine unpack_pack ?_
    rw [ofScientific_zero hpos]
    exact roundWithAccuracy hshifted (by decide) .positive .exact

end IsNormal

/-- A negative whole number has the bit of the sign and others. -/
theorem lt_toBits_ofInt {n : Int} (h : n < 0) : 2 ^ 63 < (Float.ofInt n).toBits.toNat := by
  obtain ⟨k, rfl⟩ := Int.eq_negSucc_of_lt_zero h
  exact (IsNormal.ofNat (Nat.succ_pos k)).neg.lt_toNat_pack

end TemplateBundler.Decimal
