import EmbeddedPixel.Foundation.Words
import Mathlib.Tactic.Ring

/-!
# Affine clocks

A clock that shows `base` when a local counter stands at `ref` and then goes at `rate` times its pace, in
whole units and never below zero.  Such a clock does not go back (`read_mono`), not even where it is rebased
on its own reading to go at another rate (`read_le_rebase`), and its pace is its rate up to the unit
(`read_advance`).
-/

set_option autoImplicit false

namespace Foundation

structure AffineClock where
  base : Int
  ref : Int
  rate : ℚ

namespace AffineClock

variable (c : AffineClock)

/-- What is added to the base. -/
def elapsed (t : Int) : Int := truncate ((t - c.ref : Int) * c.rate)

/-- What the clock shows. -/
def read (t : Int) : Int := max 0 (c.base + c.elapsed t)

/-- The clock set anew, at `now`, to what it showed at `t`. -/
def rebase (t now : Int) (rate : ℚ) : AffineClock := ⟨c.read t, now, rate⟩

theorem read_nonneg (t : Int) : 0 ≤ c.read t := le_max_left _ _

variable {c} {t t' now : Int}

theorem elapsed_mono (hrate : 0 ≤ c.rate) (h : t ≤ t') : c.elapsed t ≤ c.elapsed t' := by
  unfold elapsed
  apply truncate_mono
  apply mul_le_mul_of_nonneg_right _ hrate
  exact_mod_cast Int.sub_le_sub_right h c.ref

theorem read_mono (hrate : 0 ≤ c.rate) (h : t ≤ t') : c.read t ≤ c.read t' := by
  unfold read
  have helapsed := elapsed_mono hrate h
  omega

theorem elapsed_nonneg (hrate : 0 ≤ c.rate) (h : c.ref ≤ t) : 0 ≤ c.elapsed t := by
  unfold elapsed
  apply truncate_nonneg
  apply mul_nonneg _ hrate
  exact_mod_cast Int.sub_nonneg.2 h

/-- **Rebasing does not set the clock back.** -/
theorem read_le_rebase {rate : ℚ} (hrate : 0 ≤ rate) (h : now ≤ t') :
    c.read t ≤ (c.rebase t now rate).read t' := by
  have helapsed : 0 ≤ (c.rebase t now rate).elapsed t' := elapsed_nonneg hrate h
  have hnonneg := c.read_nonneg t
  show c.read t ≤ max 0 (c.read t + (c.rebase t now rate).elapsed t')
  omega

theorem read_of_pos (h : 0 < c.read t) : c.read t = c.base + c.elapsed t := by
  unfold read at h ⊢
  omega

theorem floor_advance (x d : ℚ) :
    d - 1 ≤ ((⌊x + d⌋ - ⌊x⌋ : Int) : ℚ) ∧ ((⌊x + d⌋ - ⌊x⌋ : Int) : ℚ) ≤ d + 1 := by
  have hlow := Int.floor_le x
  have hhigh := Int.lt_floor_add_one x
  have hlow' := Int.floor_le (x + d)
  have hhigh' := Int.lt_floor_add_one (x + d)
  push_cast
  constructor
  · linarith
  · linarith

/-- The pace, where the clock counts whole units or counts from behind. -/
theorem elapsed_advance (h : c.rate = 1 ∨ c.ref ≤ t) (hrate : 0 ≤ c.rate) (hle : t ≤ t') :
    ((t' - t : Int) * c.rate - 1 ≤ (c.elapsed t' - c.elapsed t : Int)) ∧
      ((c.elapsed t' - c.elapsed t : Int) ≤ (t' - t : Int) * c.rate + 1) := by
  rcases h with hone | href
  · unfold elapsed
    rw [hone, mul_one, mul_one, mul_one, truncate_intCast, truncate_intCast]
    have hsub : t' - c.ref - (t - c.ref) = t' - t := by omega
    rw [hsub]
    constructor
    · linarith
    · linarith
  · have hx : 0 ≤ ((t - c.ref : Int) : ℚ) * c.rate :=
      mul_nonneg (by exact_mod_cast Int.sub_nonneg.2 href) hrate
    have hx' : 0 ≤ ((t' - c.ref : Int) : ℚ) * c.rate :=
      mul_nonneg (by exact_mod_cast Int.sub_nonneg.2 (href.trans hle)) hrate
    have hstep : ((t' - c.ref : Int) : ℚ) * c.rate =
        ((t - c.ref : Int) : ℚ) * c.rate + (t' - t : Int) * c.rate := by
      push_cast
      ring
    unfold elapsed
    rw [truncate_of_nonneg hx, truncate_of_nonneg hx', hstep]
    exact floor_advance _ _

/-- **A clock that shows something goes at its rate**, up to the unit. -/
theorem read_advance {low high : ℚ} (h : c.rate = 1 ∨ c.ref ≤ t) (hlow : low ≤ c.rate)
    (hhigh : c.rate ≤ high) (hnonneg : 0 ≤ low) (hpos : 0 < c.read t) (hle : t ≤ t') :
    low * (t' - t : Int) - 1 ≤ (c.read t' - c.read t : Int) ∧
      ((c.read t' - c.read t : Int) : ℚ) ≤ high * (t' - t : Int) + 1 := by
  have hrate : 0 ≤ c.rate := hnonneg.trans hlow
  have hpos' : 0 < c.read t' := hpos.trans_le (read_mono hrate hle)
  have hdiff : c.read t' - c.read t = c.elapsed t' - c.elapsed t := by
    rw [read_of_pos hpos, read_of_pos hpos']
    omega
  have hD : (0 : ℚ) ≤ (t' - t : Int) := by exact_mod_cast Int.sub_nonneg.2 hle
  obtain ⟨hfrom, hto⟩ := elapsed_advance h hrate hle
  rw [hdiff]
  constructor
  · have hslow := mul_le_mul_of_nonneg_left hlow hD
    linarith
  · have hfast := mul_le_mul_of_nonneg_left hhigh hD
    linarith

end AffineClock

end Foundation
