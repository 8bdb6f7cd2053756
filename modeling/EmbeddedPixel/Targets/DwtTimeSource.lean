import Mathlib.Algebra.BigOperators.Group.List.Basic
import Mathlib.Tactic.Linarith
import Mathlib.Data.Int.ConditionallyCompleteOrder
import EmbeddedPixel.Foundation.Machine

/-!
# The time source (`stm32h7/hal_impl/Stm32H7DwtTimeSource.cpp`)

A 64-bit count of core cycles, from the 32-bit counter `DWT->CYCCNT` that `init` sets to 0 and starts.

`getTimeUs_run`: as long as less than a turn of the counter passes between two calls, every call returns
the microseconds since `init`, rounded down, and the count behind it is exact.
-/

set_option autoImplicit false

namespace EmbeddedPixel

open Foundation

/-- `Stm32H7DwtTimeSource`. -/
structure DwtTimeSource where
  lastCyccnt : UInt32
  accumulatedCycles : UInt64
  cyclesPerUs : UInt32
  freqHz : UInt32
  initialized : Bool
  deriving DecidableEq, Repr

namespace DwtTimeSource

/-- What `DWT->CYCCNT` reads once it has run for `cycles` cycles. -/
def cyccnt (cycles : Nat) : UInt32 := UInt32.ofNat cycles

/-- The default constructor. -/
def create : DwtTimeSource where
  lastCyccnt := 0
  accumulatedCycles := 0
  cyclesPerUs := 600
  freqHz := 600000000
  initialized := false

variable (this : DwtTimeSource)

/-- `init`, which finds the counter at `cyccnt` a few cycles after it has set it to 0. -/
def init (systemCoreClock cyccnt : UInt32) : DwtTimeSource :=
  let this :=
    if systemCoreClock > 0 then
      { this with freqHz := systemCoreClock, cyclesPerUs := systemCoreClock / 1000000 }
    else this
  let this := { this with lastCyccnt := cyccnt, accumulatedCycles := 0 }
  let this := if this.cyclesPerUs = 0 then { this with cyclesPerUs := 1 } else this
  { this with initialized := true }

/-- `get_time_us`, which finds the counter at `nowCyc`; the rest is for a call that comes before `init`. -/
def getTimeUs (systemCoreClock atInit nowCyc : UInt32) : UInt64 × DwtTimeSource :=
  let this := if this.initialized then this else this.init systemCoreClock atInit
  let delta := nowCyc - this.lastCyccnt
  let this :=
    { this with
      accumulatedCycles := this.accumulatedCycles + delta.toUInt64
      lastCyccnt := nowCyc }
  if this.cyclesPerUs = 0 then (0, this)
  else (this.accumulatedCycles / this.cyclesPerUs.toUInt64, this)

/-- A call of an initialised source, `elapsed` cycles after the counter was last read.  The state holds the
cycles that the counter has run. -/
def step (s : DwtTimeSource × Nat) (elapsed : Nat) : Option (UInt64 × (DwtTimeSource × Nat)) :=
  let (us, this) := s.1.getTimeUs 0 0 (cyccnt (s.2 + elapsed))
  some (us, (this, s.2 + elapsed))

/-- The cycles that pass in a run. -/
def cycles (t : List (Nat × UInt64)) : Nat := (t.map (·.1)).sum

variable {this} {systemCoreClock : UInt32} {s s' : DwtTimeSource × Nat} {ran total elapsed : Nat}
  {us : UInt64} {t : List (Nat × UInt64)}

/-! ## One call -/

/-- The 32-bit difference of two readings is the time between them, if that is less than a turn. -/
theorem cyccnt_sub (ran : Nat) (h : elapsed < 2 ^ 32) :
    (cyccnt (ran + elapsed) - cyccnt ran).toNat = elapsed := by
  have hsub : cyccnt (ran + elapsed) - cyccnt ran = UInt32.ofNat elapsed := by
    unfold cyccnt
    rw [UInt32.ofNat_add, UInt32.add_comm]
    exact UInt32.add_sub_cancel _ _
  rw [hsub, UInt32.toNat_ofNat']
  exact Nat.mod_eq_of_lt h

/-- An initialised source that has counted `total` cycles, modulo the width of its count. -/
structure Counted (k : UInt32) (total : Nat) (s : DwtTimeSource × Nat) : Prop where
  initialized : s.1.initialized = true
  cyclesPerUs : s.1.cyclesPerUs = k
  lastCyccnt : s.1.lastCyccnt = cyccnt s.2
  accumulatedCycles : s.1.accumulatedCycles.toNat = total % 2 ^ 64

/-- `init` leaves a divisor. -/
theorem init_cyclesPerUs (this : DwtTimeSource) (systemCoreClock now : UInt32) :
    0 < (this.init systemCoreClock now).cyclesPerUs.toNat := by
  unfold init
  simp only
  generalize (if systemCoreClock > 0 then _ else this : DwtTimeSource) = clocked
  by_cases hk : clocked.cyclesPerUs = 0
  · simp [hk]
  · simp only [hk, if_false]
    rw [← UInt32.toNat_inj] at hk
    exact Nat.pos_of_ne_zero hk

/-- After `init` nothing is counted. -/
theorem init_counted (this : DwtTimeSource) (systemCoreClock : UInt32) (ran : Nat) :
    Counted (this.init systemCoreClock (cyccnt ran)).cyclesPerUs 0
      (this.init systemCoreClock (cyccnt ran), ran) := by
  have hstored : (this.init systemCoreClock (cyccnt ran)).lastCyccnt = cyccnt ran ∧
      (this.init systemCoreClock (cyccnt ran)).accumulatedCycles = 0 := by
    unfold init
    simp only
    split <;> split <;> exact ⟨rfl, rfl⟩
  exact ⟨rfl, rfl, hstored.1, by rw [hstored.2]; rfl⟩

/-- **One call**: the count goes on by the time that has passed, and the call returns it in microseconds. -/
theorem getTimeUs_step {k : UInt32} (hk : 0 < k.toNat) (hs : Counted k total s)
    (hgap : elapsed < 2 ^ 32) (h : step s elapsed = some (us, s')) :
    Counted k (total + elapsed) s' ∧ us.toNat = (total + elapsed) % 2 ^ 64 / k.toNat := by
  obtain ⟨hinit, hper, hlast, hacc⟩ := hs
  have hk0 : k ≠ 0 := by
    rintro rfl
    exact absurd hk (by decide)
  have hcount : (s.1.accumulatedCycles + (cyccnt (s.2 + elapsed) - s.1.lastCyccnt).toUInt64).toNat =
      (total + elapsed) % 2 ^ 64 := by
    rw [hlast, UInt64.toNat_add, UInt32.toNat_toUInt64, cyccnt_sub s.2 hgap, hacc]
    omega
  unfold step getTimeUs at h
  simp only [hinit, if_true, hper, hk0, if_false, Option.some.injEq, Prod.mk.injEq] at h
  obtain ⟨rfl, rfl⟩ := h
  refine ⟨⟨rfl, rfl, rfl, hcount⟩, ?_⟩
  rw [UInt64.toNat_div, hcount, UInt32.toNat_toUInt64]

/-! ## Runs -/

/-- After any run the count is what has passed since `init`, and the last call has returned it. -/
theorem counted_run {k : UInt32} (hk : 0 < k.toNat) (h₀ : Counted k 0 s)
    (hrun : Machine.Run step s t s') (hgap : ∀ x ∈ t, x.1 < 2 ^ 32) :
    Counted k (cycles t) s' ∧
      ∀ pre x post, t = pre ++ x :: post → x.2.toNat = (cycles pre + x.1) % 2 ^ 64 / k.toNat := by
  induction hrun with
  | nil => exact ⟨h₀, fun pre x post ht => by simp at ht⟩
  | @snoc t s₁ s₂ elapsed us hr hs ih =>
      obtain ⟨hcounted, hreturned⟩ := ih fun x hx => hgap x (by simp [hx])
      obtain ⟨hcounted', hus⟩ :=
        getTimeUs_step hk hcounted (hgap (elapsed, us) (by simp)) hs
      refine ⟨by simpa [cycles] using hcounted', fun pre x post ht => ?_⟩
      rcases Machine.split_snoc ht with ⟨rfl, rfl, -⟩ | ⟨post', -, ht'⟩
      · exact hus
      · exact hreturned pre x post' ht'

/-- What has passed before an entry of a run is a part of all that passes. -/
theorem cycles_split {pre post : List (Nat × UInt64)} {x : Nat × UInt64} :
    cycles (pre ++ x :: post) = cycles pre + x.1 + cycles post := by
  unfold cycles
  simp only [List.map_append, List.map_cons, List.sum_append, List.sum_cons]
  omega

/-- Calls that return what has passed never return less than an earlier one. -/
theorem pairwise_of_values {k : Nat} (hvalue : ∀ pre elapsed us post,
      t = pre ++ (elapsed, us) :: post → us.toNat = (cycles pre + elapsed) / k) :
    (t.map (·.2)).Pairwise (· ≤ ·) := by
  induction t using List.reverseRecOn with
  | nil => exact List.Pairwise.nil
  | append_singleton t x ih =>
      rw [List.map_append, List.pairwise_append]
      refine ⟨ih fun pre elapsed us post ht => ?_, by simp, ?_⟩
      · exact hvalue pre elapsed us (post ++ [x]) (by simp [ht])
      · intro us hus us' hus'
        obtain ⟨y, hy, rfl⟩ := List.mem_map.1 hus
        obtain ⟨pre, post, rfl⟩ := List.mem_iff_append.1 hy
        have hearlier := hvalue pre y.1 y.2 (post ++ [x]) (by simp)
        have hlater := hvalue (pre ++ y :: post) x.1 x.2 [] rfl
        have hlast : us' = x.2 := by simpa using hus'
        rw [hlast, UInt64.le_iff_toNat_le, hearlier, hlater, cycles_split]
        exact Nat.div_le_div_right (by omega)

/-- **The count of a time source.**  In a run after `init` in which less than a turn of the counter passes
between two calls, every call returns the whole microseconds of the cycles since `init`, the values never
decrease, and the count itself loses nothing. -/
theorem getTimeUs_run {this : DwtTimeSource} {systemCoreClock k : UInt32}
    (hk : k = (this.init systemCoreClock (cyccnt ran)).cyclesPerUs)
    (hrun : Machine.Run step (this.init systemCoreClock (cyccnt ran), ran) t s)
    (hgap : ∀ x ∈ t, x.1 < 2 ^ 32) (hfits : cycles t < 2 ^ 64) :
    0 < k.toNat ∧
      (∀ pre elapsed us post, t = pre ++ (elapsed, us) :: post →
        us.toNat = (cycles pre + elapsed) / k.toNat) ∧
      (t.map (·.2)).Pairwise (· ≤ ·) ∧ s.1.accumulatedCycles.toNat = cycles t := by
  have hpos : 0 < k.toNat := hk ▸ init_cyclesPerUs this systemCoreClock (cyccnt ran)
  have h₀ := init_counted this systemCoreClock ran
  rw [← hk] at h₀
  obtain ⟨hcounted, hreturned⟩ := counted_run hpos h₀ hrun hgap
  have hvalue : ∀ pre elapsed us post, t = pre ++ (elapsed, us) :: post →
      us.toNat = (cycles pre + elapsed) / k.toNat := by
    intro pre elapsed us post ht
    have hle : cycles pre + elapsed < 2 ^ 64 := by
      rw [ht, cycles_split] at hfits
      omega
    have hus := hreturned pre (elapsed, us) post ht
    rwa [Nat.mod_eq_of_lt hle] at hus
  refine ⟨hpos, hvalue, pairwise_of_values hvalue, ?_⟩
  rw [hcounted.accumulatedCycles]
  exact Nat.mod_eq_of_lt hfits

/-- At 600 MHz two calls, each just short of a turn of the counter after the one before. -/
theorem getTimeUs_run_acrossTurns :
    ∃ s, Machine.Run step (create.init 600000000 (cyccnt 12), 12)
        [(4294967295, 7158278), (4294967295, 14316557)] s ∧
      s.1.accumulatedCycles.toNat = 8589934590 := by
  obtain ⟨s, hrun⟩ : ∃ s, Machine.Run step (create.init 600000000 (cyccnt 12), 12)
      [(4294967295, 7158278), (4294967295, 14316557)] s :=
    ⟨_, Machine.Run.cons rfl (Machine.Run.single rfl)⟩
  exact ⟨s, hrun, (getTimeUs_run rfl hrun (by decide) (by decide)).2.2.2⟩

end DwtTimeSource

end EmbeddedPixel
