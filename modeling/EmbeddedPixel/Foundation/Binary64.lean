import Mathlib.Tactic.Linarith

/-!
# Integers as `double`s

`viaDouble n` is an integer that is converted to a `double` and back, with the `binary64` of Lean's own
model.  Integers of up to 53 bits come back as they were (`viaDouble_of_abs_le`).
-/

set_option autoImplicit false

namespace Foundation

open Float.Model Float.Model.UnpackedFloat

/-- An integer after its conversion to a `double`, which is an integer too. -/
def viaDouble (n : Int) : Int := (UnpackedFloat.ofInt .binary64 n).toInt 0 0

namespace Binary64

theorem mantissa_shiftRight (em : ExtendedMantissa) (k : Nat) :
    (em >>> k).mantissa = em.mantissa / 2 ^ k := by
  have hrepeat : em >>> k = k.repeat ExtendedMantissa.shiftRightOne em := rfl
  rw [hrepeat]
  clear hrepeat
  induction k with
  | zero => simp [Nat.repeat]
  | succ k ih =>
      have hstep : ((k + 1).repeat ExtendedMantissa.shiftRightOne em).mantissa =
          (k.repeat ExtendedMantissa.shiftRightOne em).mantissa / 2 := rfl
      rw [hstep, ih, Nat.div_div_eq_div_mul, Nat.pow_succ]

theorem shiftToExponent_self (m : Nat) (e : Int) :
    shiftToExponent m e .exact e = (⟨m, false, false⟩, e) := by
  simp [shiftToExponent, ExtendedMantissa.ofMantissaAndAccuracy, HShiftRight.hShiftRight, Nat.repeat]

/-- The exponent at which the mantissa has 53 bits. -/
theorem targetExponent_eq {m : Nat} {e : Int} (h : -1000 ≤ m.log2 + e) :
    Format.binary64.targetExponent (totalExponent m e) = m.log2 + e - 52 := by
  have hbits : (Format.binary64.mantissaBits : Int) = 53 := rfl
  have hmin : Format.binary64.minExponent = -1074 := rfl
  simp only [Format.targetExponent, totalExponent, hbits, hmin]
  omega

theorem log2_shiftLeft {m : Nat} (hm : m ≠ 0) (k : Nat) : (m <<< k).log2 = m.log2 + k := by
  induction k with
  | zero => rw [Nat.shiftLeft_zero, Nat.add_zero]
  | succ k ih =>
      have hne : m <<< k ≠ 0 := by
        rw [Nat.shiftLeft_eq]
        positivity
      rw [Nat.shiftLeft_succ, Nat.log2_two_mul hne, ih]
      rfl

/-- A mantissa of 53 bits is kept. -/
theorem roundWithAccuracy_self {m : Nat} {e : Int} (s : Sign) (hm : 0 < m) (hlog : m.log2 = 52)
    (he : -1000 ≤ e) : roundWithAccuracy .binary64 s m e .exact = .finite s m e hm := by
  have htarget : Format.binary64.targetExponent (totalExponent m e) = e := by
    rw [targetExponent_eq (by omega), hlog]
    omega
  have hshift : shiftToTargetExponent .binary64 m e .exact = (⟨m, false, false⟩, e) := by
    unfold shiftToTargetExponent
    rw [htarget]
    exact shiftToExponent_self m e
  unfold roundWithAccuracy
  rw [hshift]
  have hrounded : ExtendedMantissa.roundedMantissa ⟨m, false, false⟩ = m := rfl
  dsimp only
  rw [hrounded, hshift]
  exact dif_neg hm.ne'

/-- A natural number below `2 ^ 53` is shifted up to 53 bits, and back. -/
theorem toInt_round (s : Sign) {n : Nat} (hpos : 0 < n) (hlt : n < 2 ^ 53) :
    (UnpackedFloat.round .binary64 s n 0).toInt 0 0 = s.apply n := by
  have hlog : n.log2 < 53 := (Nat.log2_lt hpos.ne').2 hlt
  have hk : ((0 : Int) - ((n.log2 : Int) + 0 - 52)).toNat = 52 - n.log2 := by omega
  have hshifted : (n <<< (52 - n.log2)).log2 = 52 := by
    rw [log2_shiftLeft hpos.ne']
    omega
  have hmpos : 0 < n <<< (52 - n.log2) := by
    rw [Nat.shiftLeft_eq]
    positivity
  unfold UnpackedFloat.round
  rw [targetExponent_eq (by omega)]
  unfold decreaseExponent
  dsimp only
  rw [hk, roundWithAccuracy_self s hmpos hshifted (by omega)]
  show roundToInt s _ _ = _
  unfold roundToInt decreaseExponent shiftToExponent
  dsimp only
  have hup : ((0 : Int) - ((52 - n.log2 : Nat) : Int) - 0).toNat = 0 := by omega
  have hdown : ((0 : Int) - ((0 : Int) - ((52 - n.log2 : Nat) : Int) - ((0 : Nat) : Int))).toNat =
      52 - n.log2 := by omega
  rw [hup, hdown, Nat.shiftLeft_zero, mantissa_shiftRight]
  show s.apply ((n <<< (52 - n.log2)) / 2 ^ (52 - n.log2) : Nat) = _
  rw [Nat.shiftLeft_eq, Nat.mul_div_cancel _ (by positivity)]

end Binary64

open Binary64 in
/-- **A `double` holds the integers of up to 53 bits.** -/
theorem viaDouble_of_abs_le {n : Int} (h : |n| ≤ 2 ^ 53) : viaDouble n = n := by
  rw [abs_le] at h
  unfold viaDouble UnpackedFloat.ofInt UnpackedFloat.normalize
  rcases lt_trichotomy n 0 with hneg | rfl | hpos
  · rw [compare_lt_iff_lt.2 hneg]
    by_cases hend : n = -2 ^ 53
    · rw [hend]
      decide +kernel
    · have hround := toInt_round .negative (n := (-n).toNat) (by omega) (by omega)
      dsimp only
      rw [hround]
      show -(((-n).toNat : Nat) : Int) = n
      omega
  · rfl
  · rw [compare_gt_iff_gt.2 hpos]
    by_cases hend : n = 2 ^ 53
    · rw [hend]
      decide +kernel
    · have hround := toInt_round .positive (n := n.toNat) (by omega) (by omega)
      dsimp only
      rw [hround]
      show ((n.toNat : Nat) : Int) = n
      omega

/-- The next one does not fit. -/
example : viaDouble (2 ^ 53 + 1) = 2 ^ 53 := by decide +kernel

end Foundation
