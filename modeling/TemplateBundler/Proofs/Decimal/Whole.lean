import TemplateBundler.Decimal.Notation
import TemplateBundler.Proofs.Decimal.Binary

/-! # Whole numbers written out

A whole number below 2⁵³ is written as its digits by every notation that writes numbers of that
size in full: no other decimal that ends before the point rounds to it, and zeros that the
shortest decimal leaves out at the end come back in front of the point.
-/

namespace TemplateBundler.Decimal

variable {n d k : Nat}

namespace Binary

/-- The whole number `n`, shifted by `k` bits. -/
def shifted (n k : Nat) (narrowBelow : Bool) : Binary := ⟨n * 2 ^ k, -(k : Int), narrowBelow⟩

theorem compareScaled_natCast (a i b j : Nat) :
    compareScaled a i b (-(j : Int)) = compare (a * 10 ^ i * 2 ^ j) b := by
  simp [compareScaled]

/-- Of the decimals that end before the point only the number itself rounds to it: the others
are at least a whole one away. -/
theorem isRoundedFrom_shifted (hpos : 0 < n) (d u k : Nat) (narrowBelow : Bool) :
    (shifted n k narrowBelow).isRoundedFrom ⟨d, u⟩ = decide (d * 10 ^ u = n) := by
  have hpow : 0 < 2 ^ k := Nat.two_pow_pos k
  have hexponent : (-(k : Int)) - 2 = -((k + 2 : Nat) : Int) := by omega
  have hquarter : d * 10 ^ u * 2 ^ (k + 2) = 4 * (d * 10 ^ u * 2 ^ k) := by
    rw [Nat.pow_add, ← Nat.mul_assoc, Nat.mul_comm]
  have heq : d * 10 ^ u = n ↔ d * 10 ^ u * 2 ^ k = n * 2 ^ k :=
    (Nat.mul_left_inj (Nat.ne_of_gt hpow)).symm
  have hn : 0 < n * 2 ^ k := Nat.mul_pos hpos hpow
  simp only [isRoundedFrom, shifted, hexponent, compareScaled_natCast, hquarter, heq]
  generalize d * 10 ^ u * 2 ^ k = decimal, n * 2 ^ k = whole at *
  rw [Bool.eq_iff_iff]
  simp only [Bool.and_eq_true, Bool.or_eq_true, beq_iff_eq, decide_eq_true_eq, Nat.compare_eq_gt,
    Nat.compare_eq_lt, Nat.compare_eq_eq]
  cases narrowBelow <;> simp only [Bool.false_eq_true, ↓reduceIte] <;> omega

theorem floorUnits_shifted (n u k : Nat) (narrowBelow : Bool) :
    (shifted n k narrowBelow).floorUnits u = n / 10 ^ u := by
  have hexponent : (-(k : Int)).toNat = 0 := by omega
  have hunit : (-(u : Int)).toNat = 0 := by omega
  simp only [floorUnits, shifted, hexponent, hunit, Int.neg_neg, Int.toNat_natCast, Nat.pow_eq,
    Nat.pow_zero, Nat.mul_one]
  rw [Nat.mul_comm, Nat.mul_div_mul_left _ _ (Nat.two_pow_pos k)]

/-- On a grid of whole numbers the number is found only if it is on it. -/
theorem onGrid?_shifted (tie : Tie) (hpos : 0 < n) (u k : Nat) (narrowBelow : Bool) :
    (shifted n k narrowBelow).onGrid? tie u =
      if 10 ^ u ∣ n then some ⟨n / 10 ^ u, u⟩ else none := by
  have hupper : ¬ (n / 10 ^ u + 1) * 10 ^ u = n := by
    have hlt := Nat.lt_mul_div_succ n (Nat.pow_pos (n := u) (show 0 < 10 by decide))
    rw [Nat.mul_comm] at hlt
    exact Nat.ne_of_gt hlt
  simp only [onGrid?, floorUnits_shifted, isRoundedFrom_shifted hpos, decide_eq_false hupper]
  by_cases hdvd : 10 ^ u ∣ n
  · rw [if_pos hdvd, decide_eq_true (Nat.div_mul_cancel hdvd)]
  · rw [if_neg hdvd, decide_eq_false fun h => hdvd ⟨_, (Nat.mul_comm _ _).trans h |>.symm⟩]

end Binary

theorem length_toDigits_mono {a b : Nat} (h : a ≤ b) :
    (Nat.toDigits 10 a).length ≤ (Nat.toDigits 10 b).length := by
  rw [Nat.length_toDigits_le_iff (by decide) Nat.length_toDigits_pos]
  exact Nat.lt_of_le_of_lt h
    ((Nat.length_toDigits_le_iff (by decide) Nat.length_toDigits_pos).mp (Nat.le_refl _))

namespace Binary

/-- The number has a digit before the point, and no more than its significand has. -/
theorem scale_shifted (hpos : 0 < n) {most : Nat} (hmost : n * 2 ^ k < 10 ^ most)
    (narrowBelow : Bool) :
    ∃ last : Nat, (shifted n k narrowBelow).scale = last + 1 ∧ last < most := by
  have hpow : 0 < 2 ^ k := Nat.two_pow_pos k
  have hone : 1 ≤ n * 2 ^ k := Nat.mul_pos hpos hpow
  have hall : 0 < most := Nat.pos_of_ne_zero fun hzero => by
    rw [hzero] at hmost
    exact Nat.not_lt.mpr hone hmost
  have hunit : 0 < (Nat.toDigits 10 (2 ^ k)).length := Nat.length_toDigits_pos
  have hwhole : (Nat.toDigits 10 (n * 2 ^ k)).length ≤ most :=
    (Nat.length_toDigits_le_iff (by decide) hall).mpr hmost
  obtain ⟨guess, hguess⟩ := Nat.exists_eq_add_of_le
    (length_toDigits_mono (Nat.le_mul_of_pos_left (2 ^ k) hpos))
  have hexponent : (-(k : Int)).toNat = 0 := by omega
  have hdifference : ((Nat.toDigits 10 (n * 2 ^ k)).length : Int) -
      (Nat.toDigits 10 (2 ^ k)).length = (guess : Nat) := by omega
  simp only [scale, shifted, hexponent, Int.neg_neg, Int.toNat_natCast, Nat.pow_eq, Nat.pow_zero,
    Nat.mul_one, hdifference, compareScaled_natCast, beq_iff_eq, Nat.compare_eq_gt, Nat.one_mul]
  split
  next hless =>
    have hguesspos : guess ≠ 0 := by
      rintro rfl
      rw [Nat.pow_zero, Nat.one_mul] at hless
      exact Nat.not_lt.mpr (Nat.le_mul_of_pos_left _ hpos) hless
    exact ⟨guess - 1, by omega, by omega⟩
  next => exact ⟨guess, rfl, by omega⟩

/-- The shortest decimal is the number without some of the zeros at its end. -/
theorem shortest_shifted (tie : Tie) (hpos : 0 < n) (hmost : n * 2 ^ k < 10 ^ 17)
    (narrowBelow : Bool) :
    ∃ u : Nat, 10 ^ u ∣ n ∧ (shifted n k narrowBelow).shortest tie = ⟨n / 10 ^ u, u⟩ := by
  obtain ⟨last, hscale, hlast⟩ := scale_shifted hpos hmost narrowBelow
  -- The grids that are tried first are those of whole numbers, the last of them that of the units.
  have hgrid : ∀ i ∈ List.range (last + 1),
      (shifted n k narrowBelow).onGrid? tie ((last : Int) + 1 - (i + 1)) =
        if 10 ^ (last - i) ∣ n then some ⟨n / 10 ^ (last - i), (last - i : Nat)⟩ else none := by
    intro i hi
    have hle : i < last + 1 := List.mem_range.mp hi
    have hunit : (last : Int) + 1 - (i + 1) = (last - i : Nat) := by omega
    rw [hunit, onGrid?_shifted tie hpos]
  have hmem : last ∈ List.range (last + 1) := List.mem_range.mpr (Nat.lt_succ_self last)
  have hunits := hgrid last hmem
  rw [Nat.sub_self, Nat.pow_zero, if_pos (Nat.one_dvd n)] at hunits
  have hfound : ((List.range (last + 1)).findSome? fun (i : Nat) =>
      (shifted n k narrowBelow).onGrid? tie ((last : Int) + 1 - (i + 1))).isSome :=
    List.findSome?_isSome_iff.mpr ⟨last, hmem, by rw [hunits]; rfl⟩
  obtain ⟨number, hnumber⟩ := Option.isSome_iff_exists.mp hfound
  obtain ⟨i, hi, htaken⟩ := List.exists_of_findSome?_eq_some hnumber
  have hsplit : List.range 17 =
      List.range (last + 1) ++ (List.range (17 - (last + 1))).map (last + 1 + ·) := by
    rw [← List.range_add, Nat.add_sub_cancel' hlast]
  have hshortest : (shifted n k narrowBelow).shortest tie = number := by
    simp only [shortest, hscale, hsplit, List.findSome?_append, hnumber]
    rfl
  rw [hgrid i hi] at htaken
  split at htaken
  next hdvd => exact ⟨last - i, hdvd, hshortest.trans (Option.some.inj htaken).symm⟩
  next => cases htaken

end Binary

/-! ## Zeros at the end -/

/-- As many zeros as the digits end in, as many tens divide the number. -/
theorem pow_dvd_of_toDigits {front : List Char} {zeros : Nat}
    (h : Nat.toDigits 10 n = front ++ List.replicate zeros '0') : 10 ^ zeros ∣ n := by
  refine ⟨Nat.ofDigitChars 10 front 0, ?_⟩
  rw [← Nat.ofDigitChars_replicate_zero, ← Nat.ofDigitChars_append, ← h,
    Nat.ofDigitChars_ten_toDigits]

theorem exists_append_zeros (cs : List Char) :
    ∃ front, cs = front ++ List.replicate (cs.reverse.takeWhile (· == '0')).length '0' := by
  have hzeros : cs.reverse.takeWhile (· == '0') =
      List.replicate (cs.reverse.takeWhile (· == '0')).length '0' := by
    refine List.eq_replicate_of_mem fun c hc => ?_
    exact beq_iff_eq.mp (List.all_eq_true.mp List.all_takeWhile c hc)
  refine ⟨(cs.reverse.dropWhile (· == '0')).reverse, ?_⟩
  rw [← List.reverse_replicate, ← hzeros, ← List.reverse_append, List.takeWhile_append_dropWhile,
    List.reverse_reverse]

/-- Leaving out zeros at the end does not change a number. -/
theorem trimmed_mk (hpos : 0 < d) (u : Nat) :
    ∃ zeros : Nat, 10 ^ zeros ∣ d ∧
      (⟨d, u⟩ : Number).trimmed = ⟨d / 10 ^ zeros, (u + zeros : Nat)⟩ := by
  obtain ⟨front, hfront⟩ := exists_append_zeros (Nat.toDigits 10 d)
  refine ⟨_, pow_dvd_of_toDigits hfront, ?_⟩
  rw [Number.trimmed, if_neg (Nat.ne_of_gt hpos)]
  rfl

/-- Zeros behind the digits multiply by ten. -/
theorem toDigits_mul_pow (hpos : 0 < d) (u : Nat) :
    Nat.toDigits 10 (d * 10 ^ u) = Nat.toDigits 10 d ++ List.replicate u '0' := by
  induction u with
  | zero => simp
  | succ u ih =>
      have hmul : d * 10 ^ (u + 1) = 10 * (d * 10 ^ u) + 0 := by
        rw [Nat.pow_succ, ← Nat.mul_assoc, Nat.mul_comm 10, Nat.add_zero]
      have hshorter : 0 < d * 10 ^ u := Nat.mul_pos hpos (Nat.pow_pos (by decide))
      rw [hmul, ← Nat.toDigits_append_toDigits (by decide) hshorter (by decide), ih,
        List.append_assoc, List.replicate_succ']
      rfl

/-! ## Writing -/

namespace Notation

/-- The notation writes whole numbers of up to sixteen digits in full and without a point. -/
structure WritesWhole (layout : Notation) : Prop where
  plainFrom_le : layout.plainFrom ≤ 0
  le_plainTo : 15 ≤ layout.plainTo
  pointZero_eq : layout.pointZero = false

variable {layout : Notation}

/-- In full, a decimal that does not reach the point is its digits and zeros up to there. -/
theorem plain_whole (hlayout : layout.WritesWhole) {digits : List Char} (hdigits : digits ≠ [])
    (zeros : Nat) :
    layout.plain digits ((zeros : Int) + digits.length) = digits ++ List.replicate zeros '0' := by
  have hlength := List.length_pos_iff.mpr hdigits
  have hpoint : ¬ (zeros : Int) + digits.length ≤ 0 := by omega
  have hbefore : ((zeros : Int) + digits.length).toNat = zeros + digits.length := by omega
  rw [plain, if_neg hpoint, hbefore, if_pos (Nat.le_add_left _ _), hlayout.pointZero_eq,
    Nat.add_sub_cancel]
  exact List.append_nil _

theorem magnitude_shifted (hlayout : layout.WritesWhole) (hpos : 0 < n)
    (hmost : n * 2 ^ k < 10 ^ 16) (narrowBelow : Bool) :
    layout.magnitude (.shifted n k narrowBelow) = Nat.toDigits 10 n := by
  obtain ⟨u, hu, hshortest⟩ := Binary.shortest_shifted layout.tie hpos
    (Nat.lt_trans hmost (by decide)) narrowBelow
  have hquotient : 0 < n / 10 ^ u := Nat.div_pos (Nat.le_of_dvd hpos hu) (Nat.pow_pos (by decide))
  obtain ⟨zeros, hzeros, htrimmed⟩ := trimmed_mk hquotient u
  have hdigits : 0 < n / 10 ^ u / 10 ^ zeros :=
    Nat.div_pos (Nat.le_of_dvd hquotient hzeros) (Nat.pow_pos (by decide))
  have hvalue : n / 10 ^ u / 10 ^ zeros * 10 ^ (u + zeros) = n := by
    rw [Nat.add_comm, Nat.pow_add, ← Nat.mul_assoc, Nat.div_mul_cancel hzeros,
      Nat.div_mul_cancel hu]
  have hwritten := toDigits_mul_pow hdigits (u + zeros)
  rw [hvalue] at hwritten
  -- The number has at most as many digits as the notation writes in full.
  have hn : n < 10 ^ 16 :=
    Nat.lt_of_le_of_lt (Nat.le_mul_of_pos_right n (Nat.two_pow_pos k)) hmost
  have hlength := (Nat.length_toDigits_le_iff (by decide) (by decide)).mpr hn
  rw [hwritten, List.length_append, List.length_replicate] at hlength
  have hsome : Nat.toDigits 10 (n / 10 ^ u / 10 ^ zeros) ≠ [] := Nat.toDigits_ne_nil
  have hsomelength := List.length_pos_iff.mpr hsome
  have hfrom := hlayout.plainFrom_le
  have hto := hlayout.le_plainTo
  simp only [magnitude, hshortest, htrimmed, hwritten, plain_whole hlayout hsome]
  rw [if_pos]
  simp only [Bool.and_eq_true, decide_eq_true_eq]
  omega

/-- A whole number that binary64 holds exactly is written as its digits. -/
theorem write_ofNat (hlayout : layout.WritesWhole) (h : IsExact n) :
    layout.write (Float.ofNat n) = toString n := by
  obtain ⟨narrowBelow, hbinary⟩ := h.ofBits_ofNat
  have hmost : n * 2 ^ shortBits n < 10 ^ 16 := Nat.lt_trans h.isFull.lt (by decide)
  have hmagnitude :
      layout.magnitude (Binary.ofBits (Float.ofNat n).toBits) = Nat.toDigits 10 n := by
    rw [hbinary]
    exact magnitude_shifted hlayout h.pos hmost narrowBelow
  have hbits := h.toBits_ofNat
  have hlog := h.log2_le
  have hfull := h.isFull.lt
  have hsign : ¬ 2 ^ 63 ≤ (Float.ofNat n).toBits.toNat := by omega
  have hzero : ¬ (Float.ofNat n).toBits.toNat % 2 ^ 63 = 0 := by omega
  simp only [write, h.isNaN_ofNat, h.isInf_ofNat, Nat.pow_eq, hsign, hzero, hmagnitude,
    Bool.false_eq_true, ↓reduceIte, String.empty_append]
  exact Nat.toString_eq_ofList_toDigits.symm

end Notation

end TemplateBundler.Decimal
