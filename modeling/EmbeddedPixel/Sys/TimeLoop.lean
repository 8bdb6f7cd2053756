import Mathlib.Algebra.Order.Ring.Abs
import Mathlib.Algebra.Order.Ring.Int
import Mathlib.Tactic.IntervalCases
import Mathlib.Tactic.Linarith
import Mathlib.Tactic.Ring

/-!
# The control loop of the time manager, in integers

With the default gains, and a beacon every second from a host whose clock has no jitter, a slewed clock
is down to two integers: its phase error and the sum of the phase errors so far.  The rate is then a
multiple of 0.2 ppm, and `skew k` is what the local clock gains in second `k`.

The sum weighs a hundred times the error, so that an error comes back eighteenfold in the next second but
one (`phase_expands`).  A loop that keeps its error small has none from some time on (`phase_eq_zero`), and
`skew_of_phase_zero` says what skew it then stands still at.
-/

set_option autoImplicit false

namespace EmbeddedPixel

/-- The phase error in microseconds, and the sum of the errors. -/
structure TimeLoop where
  phase : Int
  sum : Int
  deriving DecidableEq, Repr

namespace TimeLoop

/-- The rate before it is clamped, in 0.2 ppm. -/
def demand (l : TimeLoop) : Int := l.phase + 100 * l.sum

/-- The rate in 0.2 ppm. -/
def rate (l : TimeLoop) : Int := max (-2500) (min 2500 l.demand)

/-- What the disciplined clock does in a second in which the local clock gains `skew` microseconds. -/
def elapsed (l : TimeLoop) (skew : Int) : Int := (1000000 + skew) * (5000000 + l.rate) / 5000000

/-- The next beacon. -/
def next (l : TimeLoop) (skew : Int) : TimeLoop :=
  let phase := l.phase + 1000000 - l.elapsed skew
  ⟨phase, l.sum + phase⟩

/-- The loop after `k` beacons. -/
def run (skew : Nat → Int) : Nat → TimeLoop
  | 0 => ⟨0, 0⟩
  | k + 1 => (run skew k).next (skew k)

variable {skew : Nat → Int} {l : TimeLoop} {m : Int}

/-- Without a skew there is never an error. -/
theorem run_zero (k : Nat) : run (fun _ => 0) k = ⟨0, 0⟩ := by
  induction k with
  | zero => rfl
  | succ k ih =>
      unfold run
      rw [ih]
      rfl

/-! ## Where the rate is not clamped -/

/-- What the elapsed time is, up to a microsecond. -/
theorem elapsed_bounds (l : TimeLoop) (m : Int) :
    5000000 * l.elapsed m ≤ (1000000 + m) * (5000000 + l.rate) ∧
      (1000000 + m) * (5000000 + l.rate) < 5000000 * l.elapsed m + 5000000 := by
  unfold elapsed
  omega

/-- A clamped rate moves the phase by more than 400 us. -/
theorem demand_le_of_phase (hm : |m| ≤ 98) (hphase : |l.phase| ≤ 200)
    (hnext : |(l.next m).phase| ≤ 200) : |l.demand| ≤ 2500 := by
  rw [abs_le] at hm hphase hnext ⊢
  have hphase' : (l.next m).phase = l.phase + 1000000 - l.elapsed m := rfl
  rw [hphase'] at hnext
  have hbounds := elapsed_bounds l m
  constructor
  · by_contra hlow
    have hrate : l.rate = -2500 := by
      unfold rate
      omega
    rw [hrate] at hbounds
    omega
  · by_contra hhigh
    have hrate : l.rate = 2500 := by
      unfold rate
      omega
    rw [hrate] at hbounds
    omega

theorem rate_of_demand_le (h : |l.demand| ≤ 2500) : l.rate = l.demand := by
  rw [abs_le] at h
  unfold rate
  omega

/-- What the elapsed time is where the rate is not clamped: the products of the two deviations are left
to their bounds. -/
theorem elapsed_near (hm : |m| ≤ 98) (hdemand : |l.demand| ≤ 2500) :
    5000000 * l.elapsed m ≤ 5000000000000 + 1000000 * l.demand + 5000000 * m + 245000 ∧
      5000000000000 + 1000000 * l.demand + 5000000 * m - 245000 <
        5000000 * l.elapsed m + 5000000 := by
  have hproduct : |m * l.demand| ≤ 98 * 2500 := by
    rw [abs_mul]
    exact mul_le_mul hm hdemand (abs_nonneg _) (by norm_num)
  have hexpand : (1000000 + m) * (5000000 + l.demand) =
      5000000000000 + 1000000 * l.demand + 5000000 * m + m * l.demand := by ring
  have hbounds := elapsed_bounds l m
  rw [rate_of_demand_le hdemand, hexpand] at hbounds
  rw [abs_le] at hproduct
  constructor
  · linarith
  · linarith

theorem phase_next (l : TimeLoop) (m : Int) :
    (l.next m).phase = l.phase + 1000000 - l.elapsed m := rfl

theorem demand_next (l : TimeLoop) (m : Int) :
    (l.next m).demand = l.demand + 101 * (l.next m).phase - l.phase := by
  have hsum : (l.next m).sum = l.sum + (l.next m).phase := rfl
  unfold demand
  rw [hsum]
  omega

/-- **An error comes back eighteenfold.** -/
theorem phase_expands {m' : Int} (hm : |m| ≤ 98) (hm' : |m'| ≤ 98) (hstep : |m' - m| ≤ 1)
    (hdemand : |l.demand| ≤ 2500) (hdemand' : |(l.next m).demand| ≤ 2500) :
    91 * |(l.next m).phase| ≤ 5 * |((l.next m).next m').phase| + 4 * |l.phase| + 11 := by
  have hnear := elapsed_near hm hdemand
  have hnear' := elapsed_near hm' hdemand'
  have hphase := phase_next l m
  have hphase' := phase_next (l.next m) m'
  rw [demand_next] at hnear'
  rw [abs_le] at hstep
  have hself := abs_le.1 (le_refl |l.phase|)
  have hself' := abs_le.1 (le_refl |((l.next m).next m').phase|)
  rcases abs_cases (l.next m).phase with ⟨habs, -⟩ | ⟨habs, -⟩
  · rw [habs]
    omega
  · rw [habs]
    omega

/-! ## Loops that keep their error small -/

section Band

variable {K : Nat}

/-- The skew is small and moves by a microsecond at most. -/
structure Steady (skew : Nat → Int) : Prop where
  bound : ∀ k, |skew k| ≤ 98
  step : ∀ k, |skew (k + 1) - skew k| ≤ 1

theorem demand_le (h : Steady skew) (hband : ∀ k, K ≤ k → |(run skew k).phase| ≤ 200)
    {k : Nat} (hk : K ≤ k) : |(run skew k).demand| ≤ 2500 :=
  demand_le_of_phase (h.bound k) (hband k hk) (hband (k + 1) (Nat.le_succ_of_le hk))

/-- What bounds the errors from a beacon on is some ten times what bounds them from the next one on. -/
theorem phase_contracts (h : Steady skew)
    (hband : ∀ k, K ≤ k → |(run skew k).phase| ≤ 200) {B : Int} {j : Nat} (hj : K ≤ j)
    (hB : ∀ k, j ≤ k → |(run skew k).phase| ≤ B) :
    ∀ k, j + 1 ≤ k → 91 * |(run skew k).phase| ≤ 9 * B + 11 := by
  intro k hk
  cases k with
  | zero => omega
  | succ k =>
      have hdemand := demand_le h hband (show K ≤ k by omega)
      have hdemand' := demand_le h hband (show K ≤ k + 1 by omega)
      have hexpands := phase_expands (h.bound k) (h.bound (k + 1)) (h.step k) hdemand hdemand'
      have hbefore := hB k (by omega)
      have hafter := hB (k + 2) (by omega)
      have hexpands' : 91 * |(run skew (k + 1)).phase| ≤
          5 * |(run skew (k + 2)).phase| + 4 * |(run skew k).phase| + 11 := hexpands
      omega

/-- **A loop that keeps its error small has none three beacons later.** -/
theorem phase_eq_zero (h : Steady skew)
    (hband : ∀ k, K ≤ k → |(run skew k).phase| ≤ 200) :
    ∀ k, K + 3 ≤ k → (run skew k).phase = 0 := by
  have hfirst : ∀ k, K + 1 ≤ k → |(run skew k).phase| ≤ 19 := by
    intro k hk
    have hle := phase_contracts h hband (le_refl K) hband k hk
    omega
  have hsecond : ∀ k, K + 2 ≤ k → |(run skew k).phase| ≤ 2 := by
    intro k hk
    have hle := phase_contracts h hband (Nat.le_succ K) hfirst k hk
    omega
  intro k hk
  have hle := phase_contracts h hband (Nat.le_add_right K 2) hsecond k hk
  have hnonneg := abs_nonneg (run skew k).phase
  exact abs_eq_zero.1 (by omega)

/-- A loop without an error stands still only at a skew of one more than a multiple of 20 ppm, since a
multiple itself is rounded off. -/
theorem skew_of_phase_zero (hdemand : |l.demand| ≤ 2500) (hphase : l.phase = 0)
    (hnext : (l.next m).phase = 0) : m = 0 ∧ l.sum = 0 ∨ m = 1 - 20 * l.sum ∧ l.sum ≠ 0 := by
  have hbounds := elapsed_bounds l m
  rw [rate_of_demand_le hdemand] at hbounds
  rw [phase_next, hphase] at hnext
  have helapsed : l.elapsed m = 1000000 := by omega
  unfold demand at hdemand hbounds
  rw [helapsed, hphase] at hbounds
  rw [hphase, abs_le] at hdemand
  have hlow : -25 ≤ l.sum := by omega
  have hhigh : l.sum ≤ 25 := by omega
  generalize l.sum = sum at *
  interval_cases sum <;> omega

/-- The skews that a loop which keeps its error small ends with. -/
def IsStill (m : Int) : Prop := m = 0 ∨ ∃ sum : Int, sum ≠ 0 ∧ m = 1 - 20 * sum

/-- **A loop that keeps its error small ends with a skew that does not change.** -/
theorem skew_still (h : Steady skew) (hband : ∀ k, K ≤ k → |(run skew k).phase| ≤ 200) :
    ∃ m, IsStill m ∧ |m| ≤ 98 ∧ ∀ k, K + 3 ≤ k → skew k = m := by
  have hzero := phase_eq_zero h hband
  have hsum : ∀ j, (run skew (K + 3 + j)).sum = (run skew (K + 3)).sum := by
    intro j
    induction j with
    | zero => rfl
    | succ j ih =>
        have hnext : (run skew (K + 3 + j + 1)).sum =
            (run skew (K + 3 + j)).sum + (run skew (K + 3 + j + 1)).phase := rfl
        have hphase := hzero (K + 3 + j + 1) (by omega)
        show (run skew (K + 3 + j + 1)).sum = _
        omega
  have hskew : ∀ k, K + 3 ≤ k →
      skew k = 0 ∧ (run skew (K + 3)).sum = 0 ∨
        skew k = 1 - 20 * (run skew (K + 3)).sum ∧ (run skew (K + 3)).sum ≠ 0 := by
    intro k hk
    obtain ⟨j, rfl⟩ := Nat.exists_eq_add_of_le hk
    rw [← hsum j]
    exact skew_of_phase_zero (demand_le h hband (by omega)) (hzero _ hk)
      (hzero (K + 3 + j + 1) (by omega))
  refine ⟨skew (K + 3), ?_, h.bound _, ?_⟩
  · rcases hskew (K + 3) (le_refl _) with ⟨hm, -⟩ | ⟨hm, hne⟩
    · exact Or.inl hm
    · exact Or.inr ⟨_, hne, hm⟩
  · intro k hk
    have hfirst := hskew (K + 3) (le_refl _)
    have hk' := hskew k hk
    omega

theorem phase_of_still : ∀ sum ∈ ([-4, -3, -2, -1, 1, 2, 3, 4] : List Int), ∃ k ∈ [20, 21, 22],
    200 < |(run (fun _ => 1 - 20 * sum) k).phase| := by
  decide +kernel

/-- None of them but zero is reached from the start. -/
theorem not_band_of_still (hstill : IsStill m) (hm : |m| ≤ 98) (hne : m ≠ 0) :
    ¬ ∀ k, 20 ≤ k → |(run (fun _ => m) k).phase| ≤ 200 := by
  intro hband
  obtain ⟨sum, hsum, rfl⟩ := hstill.resolve_left hne
  rw [abs_le] at hm
  have hmem : sum ∈ ([-4, -3, -2, -1, 1, 2, 3, 4] : List Int) := by
    simp only [List.mem_cons, List.not_mem_nil, or_false]
    omega
  obtain ⟨k, hk, hlarge⟩ := phase_of_still sum hmem
  have hlater : 20 ≤ k := by
    simp only [List.mem_cons, List.not_mem_nil, or_false] at hk
    omega
  exact absurd (hband k hlater) (not_le.2 hlarge)

end Band

end TimeLoop

end EmbeddedPixel
