import StoredArray.Slice.Span

namespace StoredArray.Word

theorem toInt_add_of_fits (a b : Int64) (least : -0x8000000000000000 ≤ a.toInt + b.toInt)
    (most : a.toInt + b.toInt < 0x8000000000000000) : (a + b).toInt = a.toInt + b.toInt := by
  rw [Int64.toInt_add]
  exact Int.bmod_eq_of_le (by omega) (by omega)

theorem toInt_sub_of_fits (a b : Int64) (least : -0x8000000000000000 ≤ a.toInt - b.toInt)
    (most : a.toInt - b.toInt < 0x8000000000000000) : (a - b).toInt = a.toInt - b.toInt := by
  rw [Int64.toInt_sub]
  exact Int.bmod_eq_of_le (by omega) (by omega)

theorem toInt_max (a b : Int64) : (max a b).toInt = max a.toInt b.toInt := by
  change (if a ≤ b then b else a).toInt = _
  simp only [Int64.le_iff_toInt_le]
  split <;> omega

theorem toInt_min (a b : Int64) : (min a b).toInt = min a.toInt b.toInt := by
  change (if a ≤ b then a else b).toInt = _
  simp only [Int64.le_iff_toInt_le]
  split <;> omega

theorem toNat_unsigned (a : Int64) (nonneg : 0 ≤ a.toInt) :
    (a.toUInt64.toNat : Int) = a.toInt := by
  have least : 0 ≤ a := Int64.le_iff_toInt_le.mpr nonneg
  rw [Int64.toNat_toUInt64_of_le least, ← Int64.toNat_toInt, Int.toNat_of_nonneg nonneg]

theorem toNat_magnitude (a : Int64) : a.abs.toUInt64.toNat = a.toInt.natAbs := by
  change a.toBitVec.abs.toNat = a.toBitVec.toInt.natAbs
  have bound := a.toBitVec.isLt
  rw [BitVec.toNat_abs, BitVec.msb_eq_decide, BitVec.toInt_eq_toNat_cond]
  simp only [decide_eq_true_eq]
  split <;> split <;> omega

theorem pos_iff (a : Int64) : 0 < a ↔ 0 < a.toInt := by
  rw [Int64.lt_iff_toInt_lt, Int64.toInt_zero]

theorem neg_iff (a : Int64) : a < 0 ↔ a.toInt < 0 := by
  rw [Int64.lt_iff_toInt_lt, Int64.toInt_zero]

theorem toNat_gap (low high : Int64) (ordered : low < high)
    (fits : high.toInt - low.toInt < 0x8000000000000000) :
    ((high - low - 1).toUInt64.toNat : Int) = high.toInt - low.toInt - 1 := by
  have ordered := Int64.lt_iff_toInt_lt.mp ordered
  have difference := toInt_sub_of_fits high low (by omega) fits
  have one := Int64.toInt_one
  have gap := toInt_sub_of_fits (high - low) 1 (by omega) (by omega)
  rw [toNat_unsigned _ (by omega)]
  omega

theorem toNat_succ_quotient (a b : UInt64) (small : a.toNat < 0x8000000000000000) :
    (a / b + 1).toNat = a.toNat / b.toNat + 1 := by
  have quotient := Nat.div_le_self a.toNat b.toNat
  rw [UInt64.toNat_add, UInt64.toNat_div, UInt64.toNat_one]
  generalize a.toNat / b.toNat = q at quotient
  omega

/-- Wrapping on the way does no harm where the sum itself fits. -/
theorem toInt_affine (base scale : Int64) (i : Nat)
    (least : -0x8000000000000000 ≤ base.toInt + i * scale.toInt)
    (most : base.toInt + i * scale.toInt < 0x8000000000000000) :
    (base + Int64.ofNat i * scale).toInt = base.toInt + i * scale.toInt := by
  have size : Int64.size = 0x10000000000000000 := rfl
  rw [Int64.toInt_add, Int64.toInt_mul, Int64.toInt_ofNat', Int.add_bmod_bmod, size, Int.add_bmod,
    Int.bmod_mul_bmod, ← Int.add_bmod]
  exact Int.bmod_eq_of_le (by omega) (by omega)

theorem toInt64_pred (a : UInt64) (positive : 0 < a.toNat) :
    a.toInt64 - 1 = Int64.ofNat (a.toNat - 1) := by
  have signed : a.toInt64 = Int64.ofNat a.toNat := by
    apply Int64.toBitVec_inj.mp
    simp
  rw [signed, Int64.ofNat_sub _ _ positive]
  rfl

end StoredArray.Word

namespace StoredArray.Slice

open Word

theorem lt_succ_quotient (i gap stride : Nat) (positive : 0 < stride) :
    i < gap / stride + 1 ↔ i * stride ≤ gap := by
  rw [Nat.lt_succ_iff, Nat.le_div_iff_mul_le positive]

theorem lt_countSteps_forward (start stop step : Int64) (i : Nat) (positive : 0 < step.toInt)
    (lower : 0 ≤ start.toInt) :
    i < (countSteps start stop step).toNat ↔ start.toInt + i * step.toInt < stop.toInt := by
  have forward : 0 < step := (pos_iff step).mpr positive
  have notBackward : ¬ step < 0 := by
    rw [neg_iff]
    omega
  have most := stop.toInt_lt
  simp only [countSteps, forward, notBackward, true_and, false_and, if_false]
  split
  · rename_i ahead
    have gap := toNat_gap start stop ahead (by omega)
    have stride := toNat_unsigned step (by omega)
    rw [toNat_succ_quotient _ _ (by omega), lt_succ_quotient _ _ _ (by omega), ← Int.ofNat_le,
      Int.natCast_mul, stride, gap]
    omega
  · rename_i behind
    rw [Int64.lt_iff_toInt_lt] at behind
    have product : 0 ≤ (i : Int) * step.toInt := Int.mul_nonneg (by omega) (by omega)
    simp only [UInt64.toNat_zero]
    omega

theorem lt_countSteps_backward (start stop step : Int64) (i : Nat) (negative : step.toInt < 0)
    (lower : -1 ≤ stop.toInt) (upper : start.toInt < 0x7fffffffffffffff) :
    i < (countSteps start stop step).toNat ↔ stop.toInt < start.toInt + i * step.toInt := by
  have backward : step < 0 := (neg_iff step).mpr negative
  have notForward : ¬ 0 < step := by
    rw [pos_iff]
    omega
  simp only [countSteps, backward, notForward, true_and, false_and, if_false]
  split
  · rename_i ahead
    have gap := toNat_gap stop start ahead (by omega)
    have stride := toNat_magnitude step
    rw [toNat_succ_quotient _ _ (by omega), lt_succ_quotient _ _ _ (by omega), stride,
      ← Int.ofNat_le, Int.natCast_mul, gap, Int.ofNat_natAbs_of_nonpos (by omega), Int.mul_neg]
    omega
  · rename_i behind
    rw [Int64.lt_iff_toInt_lt] at behind
    have product : (i : Int) * step.toInt ≤ 0 :=
      Int.mul_nonpos_of_nonneg_of_nonpos (by omega) (by omega)
    simp only [UInt64.toNat_zero]
    omega

theorem toInt_extent (length : Nat) :
    (extent length).toInt = ((min length 0x7fffffffffffffff : Nat) : Int) := by
  rw [extent, Int64.toInt_ofNat_of_lt (by omega)]

end StoredArray.Slice
