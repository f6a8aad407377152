import TemplateBundler.Proofs.Decimal.Whole

/-! # Fractions written out

The decimal that is written of a number is at most half a step of the number's format away from it.
So if it has no digits behind the point, the number has none either: what is no natural number is
never written as the digits of one.
-/

namespace TemplateBundler.Decimal

variable {x : Binary} {d : Number} {tie : Tie} {unit : Int}

def Binary.toRat (x : Binary) : ℚ := x.significand * 2 ^ x.exponent

def Number.toRat (d : Number) : ℚ := d.digits * 10 ^ d.exponent

/-! ## Comparisons -/

namespace Binary

/-- Both sides of a comparison are scaled alike. -/
theorem scaled_mul_eq (base : ℚ) (hbase : base ≠ 0) (i : Int) :
    base ^ i * base ^ (-i).toNat = base ^ i.toNat := by
  rw [← zpow_natCast, ← zpow_natCast, ← zpow_add₀ hbase]
  congr 1
  omega

theorem compareScaled_eq (a : Nat) (i : Int) (b : Nat) (j : Int) :
    (compareScaled a i b j = .lt ↔ (a : ℚ) * 10 ^ i < b * 2 ^ j) ∧
      (compareScaled a i b j = .gt ↔ (b : ℚ) * 2 ^ j < a * 10 ^ i) := by
  have hscale : (0 : ℚ) < 10 ^ (-i).toNat * 2 ^ (-j).toNat := by positivity
  have hleft : (a : ℚ) * 10 ^ i * (10 ^ (-i).toNat * 2 ^ (-j).toNat) =
      (a * 10 ^ i.toNat * 2 ^ (-j).toNat : Nat) := by
    push_cast
    rw [← scaled_mul_eq 10 (by norm_num) i]
    ring
  have hright : (b : ℚ) * 2 ^ j * (10 ^ (-i).toNat * 2 ^ (-j).toNat) =
      (b * 2 ^ j.toNat * 10 ^ (-i).toNat : Nat) := by
    push_cast
    rw [← scaled_mul_eq 2 (by norm_num) j]
    ring
  rw [compareScaled, Nat.pow_eq, Nat.pow_eq, Nat.pow_eq, Nat.pow_eq, Nat.compare_eq_lt,
    Nat.compare_eq_gt]
  constructor
  · rw [← mul_lt_mul_iff_of_pos_right hscale, hleft, hright, Nat.cast_lt]
  · rw [← mul_lt_mul_iff_of_pos_right hscale, hleft, hright, Nat.cast_lt]

/-- What rounds to a number is at most half a step away from it. -/
theorem bounds_of_isRoundedFrom (hpos : 0 < x.significand) (h : x.isRoundedFrom d) :
    x.toRat - 2 ^ x.exponent / 2 ≤ d.toRat ∧ d.toRat ≤ x.toRat + 2 ^ x.exponent / 2 := by
  have hquarter : (2 : ℚ) ^ (x.exponent - 2) = 2 ^ x.exponent / 4 := by
    rw [zpow_sub₀ (by norm_num)]
    norm_num
  have hstep : (0 : ℚ) < 2 ^ x.exponent := by positivity
  simp only [isRoundedFrom, Bool.and_eq_true] at h
  obtain ⟨hlow, hhigh⟩ := h
  have hsmall : (4 * x.significand - 2 : ℚ) ≤
      (4 * x.significand - (if x.narrowBelow then 1 else 2) : Nat) := by
    rw [Nat.cast_sub (by split_ifs <;> omega)]
    split_ifs <;> push_cast <;> linarith
  constructor
  · have hle := not_lt.mp fun hlt => absurd ((compareScaled_eq d.digits d.exponent
      (4 * x.significand - if x.narrowBelow then 1 else 2) (x.exponent - 2)).1.mpr hlt)
      (by intro heq; simp [heq] at hlow)
    rw [hquarter] at hle
    calc x.toRat - 2 ^ x.exponent / 2
        = (4 * x.significand - 2) * (2 ^ x.exponent / 4) := by rw [toRat]; ring
      _ ≤ _ := mul_le_mul_of_nonneg_right hsmall (by positivity)
      _ ≤ d.toRat := hle
  · have hle := not_lt.mp fun hlt => absurd ((compareScaled_eq d.digits d.exponent
      (4 * x.significand + 2) (x.exponent - 2)).2.mpr hlt)
      (by intro heq; simp [heq] at hhigh)
    rw [hquarter] at hle
    calc d.toRat ≤ _ := hle
      _ = x.toRat + 2 ^ x.exponent / 2 := by rw [toRat]; push_cast; ring

theorem isRoundedFrom_of_onGrid? (h : x.onGrid? tie unit = some d) : x.isRoundedFrom d := by
  rw [onGrid?] at h
  split at h
  next hlower _ => exact Option.some.inj h ▸ hlower
  next _ hupper => exact Option.some.inj h ▸ hupper
  next => cases h
  next hlower hupper =>
    split at h
    next => exact Option.some.inj h ▸ hlower
    next => exact Option.some.inj h ▸ hupper
    next =>
      split_ifs at h
      · exact Option.some.inj h ▸ hlower
      · exact Option.some.inj h ▸ hupper

/-- In units that are small enough a number is whole. -/
theorem toRat_floorUnits {n : Nat} (hexponent : -(n : Int) ≤ x.exponent) :
    Number.toRat ⟨x.floorUnits (-(n : Int)), -(n : Int)⟩ = x.toRat := by
  have hdvd : 2 ^ (-x.exponent).toNat ∣ x.significand * 2 ^ x.exponent.toNat * 10 ^ n := by
    have hten : 2 ^ (-x.exponent).toNat ∣ 10 ^ n :=
      (Nat.pow_dvd_pow 2 (by omega)).trans (pow_dvd_pow_of_dvd (by norm_num) n)
    exact hten.mul_left _
  have hfloor : x.floorUnits (-(n : Int)) =
      x.significand * 2 ^ x.exponent.toNat * 10 ^ n / 2 ^ (-x.exponent).toNat := by
    have hunit : (-(n : Int)).toNat = 0 := by omega
    rw [floorUnits, hunit, Int.neg_neg, Int.toNat_natCast]
    simp
  have hpow : (2 : ℚ) ^ (-x.exponent).toNat ≠ 0 := by positivity
  have hten : (10 : ℚ) ^ n ≠ 0 := by positivity
  rw [Number.toRat, hfloor, Nat.cast_div hdvd (by exact_mod_cast hpow), toRat]
  push_cast
  rw [← scaled_mul_eq 2 (by norm_num) x.exponent, zpow_neg, zpow_natCast]
  field_simp

/-- The shortest decimal is at most half a step away. -/
theorem bounds_shortest (tie : Tie) (hpos : 0 < x.significand) (hexponent : -1074 ≤ x.exponent) :
    x.toRat - 2 ^ x.exponent / 2 ≤ (x.shortest tie).toRat ∧
      (x.shortest tie).toRat ≤ x.toRat + 2 ^ x.exponent / 2 := by
  rw [shortest]
  cases hfound : (List.range 17).findSome? fun (n : Nat) => x.onGrid? tie (x.scale - (n + 1)) with
  | some d =>
      obtain ⟨n, -, hgrid⟩ := List.exists_of_findSome?_eq_some hfound
      exact bounds_of_isRoundedFrom hpos (isRoundedFrom_of_onGrid? hgrid)
  | none =>
      have hstep : (0 : ℚ) < 2 ^ x.exponent := by positivity
      have hfallback : Number.toRat ⟨x.floorUnits (-1074), -1074⟩ = x.toRat :=
        @toRat_floorUnits x 1074 hexponent
      rw [Option.getD_none, hfallback]
      constructor <;> linarith

end Binary

theorem Number.toRat_trimmed (d : Number) : d.trimmed.toRat = d.toRat := by
  obtain ⟨front, hfront⟩ := exists_append_zeros (Nat.toDigits 10 d.digits)
  rw [trimmed]
  split_ifs with hzero
  · rfl
  · have hdvd := pow_dvd_of_toDigits hfront
    have hpow : ((10 ^ ((Nat.toDigits 10 d.digits).reverse.takeWhile (· == '0')).length : Nat) : ℚ)
        ≠ 0 := by positivity
    rw [toRat, toRat, Nat.pow_eq, Nat.cast_div hdvd hpow, zpow_add₀ (by norm_num), zpow_natCast]
    push_cast
    field_simp

/-- A number whose shortest decimal ends before the point has no fraction. -/
theorem Binary.exists_eq_natCast (tie : Tie) (hpos : 0 < x.significand)
    (hexponent : -1074 ≤ x.exponent) (h : 0 ≤ (x.shortest tie).trimmed.exponent) :
    ∃ n : Nat, x.toRat = n := by
  obtain ⟨hlow, hhigh⟩ := bounds_shortest tie hpos hexponent
  rw [← Number.toRat_trimmed] at hlow hhigh
  obtain ⟨e, he⟩ := Int.eq_ofNat_of_zero_le h
  have hwhole : (x.shortest tie).trimmed.toRat =
      ((x.shortest tie).trimmed.digits * 10 ^ e : Nat) := by
    rw [Number.toRat, he]
    push_cast
    rfl
  generalize (x.shortest tie).trimmed.digits * 10 ^ e = n at hwhole
  rw [hwhole] at hlow hhigh
  obtain hwide | hnarrow := le_or_gt 0 x.exponent
  · obtain ⟨j, hj⟩ := Int.eq_ofNat_of_zero_le hwide
    refine ⟨x.significand * 2 ^ j, ?_⟩
    rw [toRat, hj]
    push_cast
    rfl
  · -- Half a step is less than one half of a unit, so the two can only be equal.
    obtain ⟨k, hk⟩ := Int.eq_ofNat_of_zero_le (show 0 ≤ -x.exponent by omega)
    have hcount : (2 : ℚ) ^ x.exponent * 2 ^ k = 1 := by
      have hopposite : (2 : ℚ) ^ k = 2 ^ (-x.exponent) := by rw [hk]; exact (zpow_natCast _ _).symm
      rw [hopposite, zpow_neg]
      exact mul_inv_cancel₀ (by positivity)
    have hscaled : x.toRat * 2 ^ k = x.significand := by
      rw [toRat, mul_assoc, hcount, mul_one]
    have hpow : (0 : ℚ) < 2 ^ k := by positivity
    have hlow' := mul_le_mul_of_nonneg_right hlow hpow.le
    have hhigh' := mul_le_mul_of_nonneg_right hhigh hpow.le
    rw [sub_mul, div_mul_eq_mul_div, hcount, hscaled] at hlow'
    rw [add_mul, div_mul_eq_mul_div, hcount, hscaled] at hhigh'
    have heq : n * 2 ^ k = x.significand := by
      have hbelow : x.significand < n * 2 ^ k + 1 := by
        have hcast : (x.significand : ℚ) < n * 2 ^ k + 1 := by linarith
        exact_mod_cast hcast
      have habove : n * 2 ^ k < x.significand + 1 := by
        have hcast : (n * 2 ^ k : ℚ) < x.significand + 1 := by linarith
        exact_mod_cast hcast
      omega
    refine ⟨n, mul_right_cancel₀ hpow.ne' ?_⟩
    rw [hscaled, ← heq]
    push_cast
    rfl

/-! ## Floating-point numbers -/

/-- The number that a finite floating-point number is. -/
def value (x : Float) : ℚ :=
  if 2 ^ 63 ≤ x.toBits.toNat then -(Binary.ofBits x.toBits).toRat
  else (Binary.ofBits x.toBits).toRat

theorem Binary.le_exponent_ofBits (bits : UInt64) : -1074 ≤ (Binary.ofBits bits).exponent := by
  simp only [ofBits]
  split
  · exact Int.le_refl _
  · dsimp only
    omega

/-- Only what has no bits but that of the sign is zero. -/
theorem Binary.significand_ofBits_pos {bits : UInt64} (h : bits.toNat % 2 ^ 63 ≠ 0) :
    0 < (Binary.ofBits bits).significand := by
  simp only [ofBits, Nat.pow_eq]
  split
  · dsimp only
    omega
  · dsimp only
    omega

theorem Binary.toRat_ofBits_eq_zero {bits : UInt64} (h : bits.toNat % 2 ^ 63 = 0) :
    (Binary.ofBits bits).toRat = 0 := by
  have hbiased : bits.toNat / 2 ^ 52 % 2048 = 0 := by omega
  have hfraction : bits.toNat % 2 ^ 52 = 0 := by omega
  rw [ofBits]
  simp only [Nat.pow_eq, hbiased, hfraction, if_true, toRat, Nat.cast_zero, zero_mul]

theorem value_eq_zero {x : Float} (h : x.toBits.toNat % 2 ^ 63 = 0) : value x = 0 := by
  simp [value, Binary.toRat_ofBits_eq_zero h]

theorem value_neg {x : Float} (h : 2 ^ 63 < x.toBits.toNat) : value x < 0 := by
  have hlt := x.toBits.toNat_lt
  have hpos := @Binary.significand_ofBits_pos x.toBits (by omega)
  rw [value, if_pos (Nat.le_of_lt h), neg_lt_zero, Binary.toRat]
  positivity

/-! ## Written numbers -/

/-- What a number may look like: digits and nothing else if it is a natural number. -/
inductive Written (number : ℚ) : List Char → Prop
  /-- A sign or a word. -/
  | word {c : Char} (hc : c ∈ ['-', 'N', 'I']) (cs : List Char) : Written number (c :: cs)
  | whole {ds : List Char} (hne : ds ≠ []) (hds : ∀ d ∈ ds, d.isDigit) {n : Nat}
      (h : number = n) : Written number ds
  /-- Digits with something behind them. -/
  | fraction {ds : List Char} (hne : ds ≠ []) (hds : ∀ d ∈ ds, d.isDigit) {c : Char}
      (hc : c = '.' ∨ c = 'e') (cs : List Char) : Written number (ds ++ c :: cs)

namespace Notation

variable {layout : Notation}

theorem written_scientific {digits : List Char} (hne : digits ≠ [])
    (hdigits : ∀ d ∈ digits, d.isDigit) (exponent : Int) (number : ℚ) :
    Written number (scientific digits exponent) := by
  obtain ⟨d, ds, rfl⟩ := List.exists_cons_of_ne_nil hne
  have hd : ∀ c ∈ [d], c.isDigit := List.forall_mem_singleton.mpr (hdigits d List.mem_cons_self)
  rw [scientific]
  generalize (if exponent < 0 then '-' else '+') = sign
  split_ifs
  · exact .fraction (List.cons_ne_nil d []) hd (.inr rfl) (sign :: _)
  · exact .fraction (List.cons_ne_nil d []) hd (.inl rfl) (ds ++ ['e', sign] ++ _)

theorem written_plain (hpoint : layout.pointZero = false) {digits : List Char} (hne : digits ≠ [])
    (hdigits : ∀ d ∈ digits, d.isDigit) {before : Int} {number : ℚ}
    (h : (digits.length : Int) ≤ before → ∃ n : Nat, number = n) :
    Written number (layout.plain digits before) := by
  rw [plain]
  split
  next =>
    exact .fraction (List.cons_ne_nil '0' []) (List.forall_mem_singleton.mpr rfl) (.inl rfl) _
  next hbefore =>
    split
    next hle =>
      obtain ⟨n, hn⟩ := h (by omega)
      rw [hpoint, if_neg Bool.false_ne_true, List.append_nil]
      refine .whole (List.append_ne_nil_of_left_ne_nil hne _) (fun c hc => ?_) hn
      obtain hc | hc := List.mem_append.mp hc
      · exact hdigits c hc
      · rw [List.eq_of_mem_replicate hc]
        rfl
    next hlong =>
      rw [List.append_assoc, List.singleton_append]
      refine .fraction ?_ (fun c hc => hdigits c (List.mem_of_mem_take hc)) (.inl rfl) _
      simp [hne]
      omega

theorem written_magnitude (hpoint : layout.pointZero = false) {x : Binary}
    (hpos : 0 < x.significand) (hexponent : -1074 ≤ x.exponent) :
    Written x.toRat (layout.magnitude x) := by
  have hdigits : ∀ n : Nat, ∀ d ∈ Nat.toDigits 10 n, d.isDigit := fun n d hd =>
    Nat.isDigit_of_mem_toDigits (by decide) (Nat.le_refl 10) hd
  rw [magnitude]
  split
  next =>
    refine written_plain hpoint Nat.toDigits_ne_nil (hdigits _) fun hlong => ?_
    exact x.exists_eq_natCast layout.tie hpos hexponent (by omega)
  next => exact written_scientific Nat.toDigits_ne_nil (hdigits _) _ _

/-- What is written of a floating-point number. -/
theorem written_write (hpoint : layout.pointZero = false) (hzero : layout.signedZero = false)
    (hinfinity : layout.infinity = "Infinity") (x : Float) :
    Written (value x) (layout.write x).toList := by
  simp only [write, Nat.pow_eq, hpoint, hzero, hinfinity]
  split
  next => exact .word (by decide) _
  split
  next =>
    split
    next => exact .word (by decide) _
    next => exact .word (by decide) _
  split
  next hbits =>
    rw [if_neg Bool.false_ne_true, if_neg Bool.false_ne_true]
    have hdigits : ∀ d ∈ ['0'], d.isDigit := List.forall_mem_singleton.mpr rfl
    exact .whole (List.cons_ne_nil '0' []) hdigits ((value_eq_zero hbits).trans Nat.cast_zero.symm)
  next hbits =>
    split
    next =>
      rw [String.toList_append]
      exact .word (by decide) _
    next hsign =>
      rw [value, if_neg hsign, String.empty_append, String.toList_ofList]
      exact written_magnitude hpoint (Binary.significand_ofBits_pos hbits)
        (Binary.le_exponent_ofBits _)

end Notation

end TemplateBundler.Decimal
