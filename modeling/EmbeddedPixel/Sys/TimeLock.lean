import EmbeddedPixel.Sys.TimeDiscipline
import EmbeddedPixel.Sys.TimeLoop
import Mathlib.Algebra.Order.Archimedean.Real.Basic

/-!
# A host without jitter

One exchange without a delay, then one beacon a second, from a host whose clock is right; the crystal of the
node goes at `1 + s` times its pace.  As long as no phase step is taken the time manager computes a `TimeLoop`
(`follows_run`), and `locks_iff_band` carries what it is to lock over to the integers.
-/

set_option autoImplicit false

namespace EmbeddedPixel

open Foundation

/-- What a counter whose crystal is off by `s` shows `t` microseconds after it was started. -/
noncomputable def localReading (s : ℝ) (t : Nat) : Int := ⌊(1 + s) * t⌋

/-- The beacon at second `k` is received at this reading. -/
noncomputable def localRxUs (s : ℝ) (k : Nat) : Int := localReading s (1000000 * k)

/-- What the local clock gains in second `k`. -/
noncomputable def gain (s : ℝ) (k : Nat) : Int := localRxUs s (k + 1) - localRxUs s k - 1000000

namespace TimeManager

/-- The time manager after the exchange, at which the host's clock shows `utc`, and `k` beacons. -/
noncomputable def lockRun (s : ℝ) (utc : Nat) : Nat → Option (TimeManager ℚ)
  | 0 => (create.processRttSample .exact utc (localRxUs s 0) (localRxUs s 0) utc
      fun _ => localRxUs s 0).map (·.manager)
  | k + 1 => do
    let this ← lockRun s utc k
    (this.processBeacon .exact (utc + 1000000 * (k + 1 : Nat)) (localRxUs s (k + 1))
      fun _ => localRxUs s (k + 1)).map (·.manager)

/-- No step is taken after the first, and from the twentieth beacon on the disciplined time is within 200 us
of the host's. -/
def Locks (s : ℝ) (utc : Nat) : Prop :=
  ∀ k, ∃ this, lockRun s utc k = some this ∧ this.stepCount = 1 ∧
    (20 ≤ k → ∃ shown, this.getUtcEpochUs .exact (localRxUs s k) = some shown ∧
      |shown - (utc + 1000000 * k : Int)| ≤ 200)

/-! ## One beacon -/

section Exact

variable {this : TimeManager ℚ}

theorem getUtcEpochUs_exact (hs : this.state ≠ .unsynchronized) (t : Int) :
    this.getUtcEpochUs .exact t = some (this.clock.read t) := by
  have hsome : ∃ utc, this.getUtcEpochUs .exact t = some utc := by
    unfold getUtcEpochUs
    rw [if_neg hs]
    exact ⟨_, rfl⟩
  obtain ⟨utc, hutc⟩ := hsome
  rw [hutc, getUtcEpochUs_eq Words.sound_exact hs hutc]

/-- What `process_beacon` sees of the clock. -/
theorem getUtcEpochUs_counted (hs : this.state ≠ .unsynchronized) (t : Int) :
    TimeManager.getUtcEpochUs .exact
      { this with beaconCount := this.beaconCount + 1, holdoverElapsedMs := 0 } t =
        some (this.clock.read t) := getUtcEpochUs_exact hs t

variable {masterUtcUs localRxUs : Int} {now : Nat → Int}

theorem applySlew_exact (hs : this.state ≠ .unsynchronized) (offsetUs : Int) (now : Nat → Int) :
    this.applySlew .exact offsetUs now =
      some ⟨[this.clock.read (now 0)], 2,
        { this with
          integralError := (this.control (-offsetUs : Int)).1
          epochBaseUs := this.clock.read (now 0)
          localRefUs := now 1
          driftRate := (this.control (-offsetUs : Int)).2 }⟩ := by
  unfold applySlew
  simp only [Option.bind_eq_bind, Words.exact_i64, Option.bind_some, getUtcEpochUs_exact hs,
    Doubles.ofInt_rat]

/-- The error a beacon finds. -/
def beaconError (this : TimeManager ℚ) (masterUtcUs tLocal : Int) : Int :=
  masterUtcUs + (this.lastRttUs / 2).toNat - this.clock.read tLocal

/-- A beacon far off steps the clock. -/
theorem beacon_steps (hs : this.state ≠ .unsynchronized)
    (hfar : STEP_THRESHOLD_US < |this.beaconError masterUtcUs (now 0)|) :
    ∃ out, this.processBeacon .exact masterUtcUs localRxUs now = some out ∧
      out.manager.stepCount = this.stepCount + 1 := by
  unfold beaconError at hfar
  unfold processBeacon
  simp only [Option.bind_eq_bind, Words.exact_u64, Words.exact_toI64, Words.exact_i64, Option.bind_some,
    getUtcEpochUs_counted hs]
  rw [if_pos (Or.inr hfar)]
  exact ⟨_, rfl, rfl⟩

/-- A beacon close by slews it: the clock goes on from what it shows. -/
theorem beacon_slews (hs : this.state ≠ .unsynchronized) {error : Int}
    (herror : error = this.beaconError masterUtcUs (now 0)) (hclose : ¬ STEP_THRESHOLD_US < |error|) :
    ∃ out, this.processBeacon .exact masterUtcUs localRxUs now = some out ∧
      out.manager.state = .locked ∧
      out.manager.clock = this.clock.rebase (now 1) (now 2) (1 + (this.control error).2) ∧
      out.manager.driftRate = (this.control error).2 ∧
      out.manager.integralError = (this.control error).1 ∧
      out.manager.kp = this.kp ∧ out.manager.ki = this.ki ∧
      out.manager.lastRttUs = this.lastRttUs ∧ out.manager.stepCount = this.stepCount := by
  have hcond : ¬ (this.state = .unsynchronized ∨ STEP_THRESHOLD_US < |error|) := by
    rintro (h | h)
    · exact hs h
    · exact hclose h
  unfold beaconError at herror
  unfold processBeacon
  simp only [Option.bind_eq_bind, Words.exact_u64, Words.exact_toI64, Words.exact_i64, Option.bind_some,
    getUtcEpochUs_counted hs]
  rw [← herror, if_neg hcond, applySlew_exact, neg_neg]
  · exact ⟨_, rfl, rfl, rfl, rfl, rfl, rfl, rfl, rfl, rfl⟩
  · exact hs

end Exact

/-! ## The loop -/

section Loop

theorem clampRate_demand (d : Int) :
    clampRate ((d : ℚ) / 5000000) = ((max (-2500) (min 2500 d) : Int) : ℚ) / 5000000 := by
  unfold clampRate MAX_SLEW_RATE
  split
  · rename_i h
    have hd : 2500 < d := by
      have hcast : (2500 : ℚ) < d := by linarith
      exact_mod_cast hcast
    have hmax : max (-2500) (min 2500 d) = 2500 := by omega
    rw [hmax]
    norm_num
  · rename_i h
    have hd : d ≤ 2500 := by
      have hcast : (d : ℚ) ≤ 2500 := by linarith
      exact_mod_cast hcast
    split
    · rename_i h'
      have hd' : d < -2500 := by
        have hcast : (d : ℚ) < -2500 := by linarith
        exact_mod_cast hcast
      have hmax : max (-2500) (min 2500 d) = -2500 := by omega
      rw [hmax]
      norm_num
    · rename_i h'
      have hd' : -2500 ≤ d := by
        have hcast : (-2500 : ℚ) ≤ d := by linarith
        exact_mod_cast hcast
      have hmax : max (-2500) (min 2500 d) = d := by omega
      rw [hmax]

theorem truncate_rate {n r : Int} (hn : 0 ≤ n) (hr : -5000000 ≤ r) :
    truncate ((n : ℚ) * (1 + (r : ℚ) / 5000000)) = n * (5000000 + r) / 5000000 := by
  have hcast : (n : ℚ) * (1 + (r : ℚ) / 5000000) =
      ((n * (5000000 + r) : Int) : ℚ) / (5000000 : ℕ) := by
    push_cast
    ring
  have hnonneg : 0 ≤ n * (5000000 + r) := mul_nonneg hn (by omega)
  rw [hcast, truncate_of_nonneg (div_nonneg (by exact_mod_cast hnonneg) (by norm_num)),
    Rat.floor_intCast_div_natCast]
  rfl

/-- The time manager computes the loop: `utc` is the host's clock and `tLocal` the local one. -/
structure Follows (utc tLocal : Int) (l : TimeLoop) (this : TimeManager ℚ) : Prop where
  state : this.state ≠ .unsynchronized
  base : this.epochBaseUs = utc - l.phase
  nonneg : l.phase ≤ utc
  ref : this.localRefUs = tLocal
  driftRate : this.driftRate = (l.rate : ℚ) / 5000000
  integralError : this.integralError = (l.sum : ℚ) / 1000
  kp : this.kp = 1 / 5
  ki : this.ki = 1 / 50
  rtt : this.lastRttUs = 0
  stepCount : this.stepCount = 1

variable {this : TimeManager ℚ} {utc tLocal : Int} {l : TimeLoop}

/-- What the clock shows at a later reading. -/
theorem Follows.shows (h : Follows utc tLocal l this) {skew : Int} (hskew : -1000000 ≤ skew) :
    this.clock.read (tLocal + 1000000 + skew) = utc - l.phase + l.elapsed skew := by
  have hrate : -2500 ≤ l.rate := le_max_left _ _
  have hdelta : tLocal + 1000000 + skew - tLocal = 1000000 + skew := by omega
  have helapsed : this.clock.elapsed (tLocal + 1000000 + skew) = l.elapsed skew := by
    show truncate ((tLocal + 1000000 + skew - this.localRefUs : Int) * (1 + this.driftRate)) = _
    rw [h.ref, h.driftRate, hdelta]
    exact truncate_rate (by omega) (by omega)
  have hnonneg : 0 ≤ l.elapsed skew :=
    Int.ediv_nonneg (mul_nonneg (by omega) (by omega)) (by norm_num)
  have hphase := h.nonneg
  show max 0 (this.epochBaseUs + this.clock.elapsed (tLocal + 1000000 + skew)) = _
  rw [helapsed, h.base]
  omega

/-- What it shows where it was set. -/
theorem Follows.shows_now (h : Follows utc tLocal l this) : this.clock.read tLocal = utc - l.phase := by
  have helapsed : this.clock.elapsed tLocal = 0 := by
    show truncate ((tLocal - this.localRefUs : Int) * (1 + this.driftRate)) = 0
    rw [h.ref, sub_self, Int.cast_zero, zero_mul]
    exact truncate_intCast 0
  have hphase := h.nonneg
  show max 0 (this.epochBaseUs + this.clock.elapsed tLocal) = _
  rw [helapsed, h.base]
  omega

/-- The controller computes the rate of the loop. -/
theorem Follows.control (h : Follows utc tLocal l this) (l' : TimeLoop) (hsum : l'.sum = l.sum + l'.phase) :
    this.control l'.phase = ((l'.sum : ℚ) / 1000, (l'.rate : ℚ) / 5000000) := by
  have hintegral : (l.sum : ℚ) / 1000 + l'.phase * (1 / 1000) = (l'.sum : ℚ) / 1000 := by
    rw [hsum]
    push_cast
    ring
  have hdemand : 1 / 5 * ((l'.phase : ℚ) / 1000000) + 1 / 50 * ((l'.sum : ℚ) / 1000) =
      (l'.demand : ℚ) / 5000000 := by
    unfold TimeLoop.demand
    push_cast
    ring
  rw [control_rat, h.integralError, h.kp, h.ki, hintegral, hdemand, clampRate_demand]
  rfl

/-- **One beacon is one step of the loop**, unless it steps the clock. -/
theorem follows_beacon (h : Follows utc tLocal l this) {skew : Int} (hskew : -1000000 ≤ skew)
    (hutc : 0 ≤ utc) {now : Nat → Int} (hnow : ∀ i, now i = tLocal + 1000000 + skew) :
    ∃ out, this.processBeacon .exact (utc + 1000000) (tLocal + 1000000 + skew) now = some out ∧
      (|(l.next skew).phase| ≤ 100000 →
        Follows (utc + 1000000) (tLocal + 1000000 + skew) (l.next skew) out.manager) ∧
      (100000 < |(l.next skew).phase| → out.manager.stepCount = 2) := by
  have hhost : ((this.lastRttUs / 2).toNat : Int) = 0 := by
    rw [h.rtt]
    rfl
  have herror : (l.next skew).phase = this.beaconError (utc + 1000000) (now 0) := by
    unfold beaconError
    rw [hhost, hnow, h.shows hskew, TimeLoop.phase_next]
    omega
  by_cases hfar : STEP_THRESHOLD_US < |(l.next skew).phase|
  · obtain ⟨out, hout, hcount⟩ := beacon_steps h.state (herror ▸ hfar)
    refine ⟨out, hout, ?_, ?_⟩
    · intro hclose
      exact absurd hclose (not_le.2 hfar)
    · intro _
      rw [hcount, h.stepCount]
      rfl
  · obtain ⟨out, hout, hstate, hclock, hdrift, hintegral, hkp, hki, hrtt, hcount⟩ :=
      beacon_slews h.state herror hfar
    have hcontrol := h.control (l.next skew) rfl
    rw [hcontrol] at hdrift hintegral
    have hbase : out.manager.epochBaseUs = this.clock.read (now 1) := congrArg AffineClock.base hclock
    have href : out.manager.localRefUs = now 2 := congrArg AffineClock.ref hclock
    refine ⟨out, hout, ?_, ?_⟩
    · intro hclose
      rw [abs_le] at hclose
      refine ⟨?_, ?_, ?_, ?_, hdrift, hintegral, hkp.trans h.kp, hki.trans h.ki, hrtt.trans h.rtt,
        hcount.trans h.stepCount⟩
      · rw [hstate]
        decide
      · rw [hbase, hnow, h.shows hskew, TimeLoop.phase_next]
        omega
      · omega
      · rw [href, hnow]
    · intro hlarge
      exact absurd hlarge hfar

/-- The exchange starts the loop. -/
theorem follows_exchange (utc : Nat) (now : Nat → Int) :
    ∃ out, create.processRttSample .exact utc 0 0 utc now = some out ∧
      Follows utc 0 ⟨0, 0⟩ out.manager := by
  have hrtt : rttOf .exact utc 0 0 utc = some 0 := by
    unfold rttOf
    simp
  have hoffset : offsetOf .exact utc 0 0 utc = some ((0 - (utc : Int) + (0 - (utc : Int))).tdiv 2) := rfl
  unfold processRttSample
  rw [hrtt, hoffset]
  have hbase : (utc : Int) + ((UInt32.ofInt 0 / 2).toNat : Int) = utc - 0 := by
    have hzero : (UInt32.ofInt 0 / 2).toNat = 0 := rfl
    rw [hzero]
    omega
  have hrate : TimeLoop.rate ⟨0, 0⟩ = 0 := rfl
  refine ⟨_, rfl, ?_, hbase, ?_, rfl, ?_, ?_, ?_, ?_, rfl, rfl⟩
  · show SyncState.calibrating ≠ .unsynchronized
    decide
  · exact Int.natCast_nonneg utc
  · rw [hrate]
    norm_num
    rfl
  · norm_num
    rfl
  · show (0.20 : ℚ) = 1 / 5
    norm_num
  · show (0.02 : ℚ) = 1 / 50
    norm_num

end Loop

/-! ## The run -/

section Run

variable {s : ℝ} {utc : Nat}

theorem localRxUs_zero (s : ℝ) : localRxUs s 0 = 0 := by
  unfold localRxUs localReading
  rw [Nat.mul_zero, Nat.cast_zero, mul_zero, Int.floor_zero]

theorem localRxUs_eq (s : ℝ) (k : Nat) : localRxUs s k = ⌊(1 + s) * 1000000 * k⌋ := by
  unfold localRxUs localReading
  rw [Nat.cast_mul, ← mul_assoc]
  norm_num

theorem localRxUs_succ (s : ℝ) (k : Nat) :
    localRxUs s (k + 1) = ⌊(1 + s) * 1000000 * k + (1 + s) * 1000000⌋ := by
  rw [localRxUs_eq, Nat.cast_succ, mul_add, mul_one]

theorem localRxUs_gain (s : ℝ) (k : Nat) :
    localRxUs s (k + 1) = localRxUs s k + 1000000 + gain s k := by
  unfold gain
  omega

theorem gain_ge (hs : -1 ≤ s) (k : Nat) : -1000000 ≤ gain s k := by
  have hmono : localRxUs s k ≤ localRxUs s (k + 1) := by
    rw [localRxUs_eq, localRxUs_succ]
    apply Int.floor_mono
    linarith
  unfold gain
  omega

/-- The next beacon of a run that follows the loop. -/
theorem lockRun_succ (hs : -1 ≤ s) {k : Nat} {this : TimeManager ℚ} (hrun : lockRun s utc k = some this)
    (h : Follows (utc + 1000000 * k) (localRxUs s k) (TimeLoop.run (gain s) k) this) :
    ∃ this', lockRun s utc (k + 1) = some this' ∧
      (|(TimeLoop.run (gain s) (k + 1)).phase| ≤ 100000 →
        Follows (utc + 1000000 * (k + 1 : Nat)) (localRxUs s (k + 1)) (TimeLoop.run (gain s) (k + 1))
          this') ∧
      (100000 < |(TimeLoop.run (gain s) (k + 1)).phase| → this'.stepCount = 2) := by
  have hutc : (0 : Int) ≤ utc + 1000000 * k := by omega
  have hnext : (utc + 1000000 * (k + 1 : Nat) : Int) = utc + 1000000 * k + 1000000 := by omega
  obtain ⟨out, hout, hfollows, hstepped⟩ :=
    follows_beacon h (gain_ge hs k) hutc fun _ => localRxUs_gain s k
  rw [← localRxUs_gain, ← hnext] at hout hfollows
  refine ⟨out.manager, ?_, hfollows, hstepped⟩
  show (lockRun s utc k >>= fun this => _) = _
  rw [hrun, Option.bind_eq_bind, Option.bind_some, hout]
  rfl

/-- **As long as no error is above the threshold, the run is one of the loop.** -/
theorem follows_run (utc : Nat) (hs : -1 ≤ s) (k : Nat)
    (hphase : ∀ j, j ≤ k → |(TimeLoop.run (gain s) j).phase| ≤ 100000) :
    ∃ this, lockRun s utc k = some this ∧
      Follows (utc + 1000000 * k) (localRxUs s k) (TimeLoop.run (gain s) k) this := by
  induction k with
  | zero =>
      obtain ⟨out, hout, hfollows⟩ := follows_exchange utc fun _ => localRxUs s 0
      refine ⟨out.manager, ?_, ?_⟩
      · unfold lockRun
        rw [localRxUs_zero] at hout ⊢
        rw [hout]
        rfl
      · rw [localRxUs_zero, Int.natCast_zero, mul_zero, add_zero]
        exact hfollows
  | succ k ih =>
      obtain ⟨this, hrun, hfollows⟩ := ih fun j hj => hphase j (Nat.le_succ_of_le hj)
      obtain ⟨this', hrun', hfollows', -⟩ := lockRun_succ hs hrun hfollows
      exact ⟨this', hrun', hfollows' (hphase (k + 1) (le_refl _))⟩

/-- A run without a step has no error above the threshold. -/
theorem phase_le_of_unstepped (hs : -1 ≤ s)
    (h : ∀ k this, lockRun s utc k = some this → this.stepCount = 1) (k : Nat) :
    ∀ j, j ≤ k → |(TimeLoop.run (gain s) j).phase| ≤ 100000 := by
  induction k with
  | zero =>
      intro j hj
      rw [Nat.le_zero.1 hj]
      show |(0 : Int)| ≤ 100000
      decide
  | succ k ih =>
      intro j hj
      rcases Nat.le_succ_iff.1 hj with hj | rfl
      · exact ih j hj
      · by_contra hlarge
        obtain ⟨this, hrun, hfollows⟩ := follows_run utc hs k ih
        obtain ⟨this', hrun', -, hstepped⟩ := lockRun_succ hs hrun hfollows
        have hcount := h (k + 1) this' hrun'
        rw [hstepped (not_le.1 hlarge)] at hcount
        exact absurd hcount (by decide)

/-- What the clock is off by at beacon `k`. -/
theorem lockRun_shows (hs : -1 ≤ s) {k : Nat} {this : TimeManager ℚ} (hrun : lockRun s utc k = some this)
    (hphase : ∀ j, j ≤ k → |(TimeLoop.run (gain s) j).phase| ≤ 100000) :
    ∃ shown, this.getUtcEpochUs .exact (localRxUs s k) = some shown ∧
      |shown - (utc + 1000000 * k : Int)| = |(TimeLoop.run (gain s) k).phase| ∧ this.stepCount = 1 := by
  obtain ⟨this', hrun', hfollows⟩ := follows_run utc hs k hphase
  rw [hrun] at hrun'
  cases hrun'
  refine ⟨_, getUtcEpochUs_exact hfollows.state _, ?_, hfollows.stepCount⟩
  rw [hfollows.shows_now, sub_sub_cancel_left, abs_neg]

/-- The clock has locked exactly if the loop has no error above the threshold, and from the twentieth beacon
on none above 200 us. -/
theorem locks_iff_band (hs : -1 ≤ s) :
    Locks s utc ↔ (∀ k, |(TimeLoop.run (gain s) k).phase| ≤ 100000) ∧
      ∀ k, 20 ≤ k → |(TimeLoop.run (gain s) k).phase| ≤ 200 := by
  constructor
  · intro h
    have hsteps : ∀ k this, lockRun s utc k = some this → this.stepCount = 1 := by
      intro k this hrun
      obtain ⟨this', hrun', hcount, -⟩ := h k
      rw [hrun] at hrun'
      cases hrun'
      exact hcount
    have hall := phase_le_of_unstepped hs hsteps
    refine ⟨fun k => hall k k (le_refl k), ?_⟩
    intro k hk
    obtain ⟨this, hrun, -, hclose⟩ := h k
    obtain ⟨shown, hget, hle⟩ := hclose hk
    obtain ⟨shown', hget', hoff, -⟩ := lockRun_shows hs hrun (hall k)
    rw [hget] at hget'
    cases hget'
    exact hoff ▸ hle
  · rintro ⟨hall, hband⟩ k
    obtain ⟨this, hrun, -⟩ := follows_run utc hs k fun j _ => hall j
    obtain ⟨shown, hget, hoff, hcount⟩ := lockRun_shows hs hrun fun j _ => hall j
    exact ⟨this, hrun, hcount, fun hk => ⟨shown, hget, hoff.trans_le (hband k hk)⟩⟩

/-! ## The skew -/

theorem gain_steady (hs : |s| ≤ 98 / 1000000) : TimeLoop.Steady (gain s) := by
  obtain ⟨hlow, hhigh⟩ := abs_le.1 hs
  have hgain : ∀ k, gain s k = ⌊(1 + s) * 1000000 * k + (1 + s) * 1000000⌋ -
      ⌊(1 + s) * 1000000 * k⌋ - 1000000 := by
    intro k
    unfold gain
    rw [localRxUs_succ, localRxUs_eq]
  have hpace : ∀ k, ⌊(1 + s) * 1000000⌋ - 1000000 ≤ gain s k ∧
      gain s k ≤ ⌊(1 + s) * 1000000⌋ - 1000000 + 1 := by
    intro k
    have hle := Int.le_floor_add ((1 + s) * 1000000 * k) ((1 + s) * 1000000)
    have hge := Int.le_floor_add_floor ((1 + s) * 1000000 * k) ((1 + s) * 1000000)
    rw [hgain]
    constructor
    · omega
    · omega
  have hfrom : ∀ k, -98 ≤ gain s k := by
    intro k
    have hmono : ⌊(1 + s) * 1000000 * k + (999902 : Int)⌋ ≤
        ⌊(1 + s) * 1000000 * k + (1 + s) * 1000000⌋ := by
      apply Int.floor_mono
      push_cast
      linarith
    rw [Int.floor_add_intCast] at hmono
    rw [hgain]
    omega
  have hto : ∀ k, gain s k ≤ 98 := by
    intro k
    have hmono : ⌊(1 + s) * 1000000 * k + (1 + s) * 1000000⌋ ≤
        ⌊(1 + s) * 1000000 * k + (1000098 : Int)⌋ := by
      apply Int.floor_mono
      push_cast
      linarith
    rw [Int.floor_add_intCast] at hmono
    rw [hgain]
    omega
  constructor
  · intro k
    exact abs_le.2 ⟨hfrom k, hto k⟩
  · intro k
    have hthis := hpace k
    have hnext := hpace (k + 1)
    rw [abs_le]
    omega

/-- A skew of whole parts per million gains as much in every second. -/
theorem gain_of_whole {m : Int} (hm : s * 1000000 = m) : gain s = fun _ => m := by
  have hreading : ∀ k : Nat, localRxUs s k = (1000000 + m) * k := by
    intro k
    have hwhole : (1 + s) * 1000000 * k = (((1000000 + m) * k : Int) : ℝ) := by
      push_cast
      rw [← hm]
      ring
    rw [localRxUs_eq, hwhole, Int.floor_intCast]
  funext k
  unfold gain
  rw [hreading, hreading]
  push_cast
  ring

theorem nonpos_of_mul_lt {x : ℝ} (h : ∀ n : ℕ, n * x < 1) : x ≤ 0 := by
  by_contra hpos
  obtain ⟨n, hn⟩ := Archimedean.arch (1 : ℝ) (not_le.1 hpos)
  rw [nsmul_eq_mul] at hn
  exact absurd (h n) (not_lt.2 hn)

/-- A clock that gains as much in every second from some second on has a skew of whole parts per
million. -/
theorem whole_of_gain {m : Int} {K : Nat} (h : ∀ k, K ≤ k → gain s k = m) : s * 1000000 = m := by
  have hreading : ∀ n : Nat, localRxUs s (K + n) = localRxUs s K + n * (1000000 + m) := by
    intro n
    induction n with
    | zero => simp
    | succ n ih =>
        have hgain := localRxUs_gain s (K + n)
        rw [h (K + n) (Nat.le_add_right K n), ih] at hgain
        rw [Nat.add_succ, Nat.succ_eq_add_one, hgain]
        push_cast
        ring
  have hpace : ∀ n : ℕ, n * (s * 1000000 - m) < 1 ∧ n * (m - s * 1000000) < 1 := by
    intro n
    have hcast : (localRxUs s (K + n) : ℝ) = localRxUs s K + n * (1000000 + m) := by
      exact_mod_cast hreading n
    have hlow := Int.floor_le ((1 + s) * 1000000 * K)
    have hhigh := Int.lt_floor_add_one ((1 + s) * 1000000 * K)
    have hlow' := Int.floor_le ((1 + s) * 1000000 * (K + n : ℕ))
    have hhigh' := Int.lt_floor_add_one ((1 + s) * 1000000 * (K + n : ℕ))
    rw [← localRxUs_eq] at hlow hhigh hlow' hhigh'
    rw [hcast] at hlow' hhigh'
    push_cast at hlow' hhigh'
    constructor
    · linarith
    · linarith
  have hle := nonpos_of_mul_lt fun n => (hpace n).1
  have hge := nonpos_of_mul_lt fun n => (hpace n).2
  linarith

theorem locks_zero (utc : Nat) : Locks 0 utc := by
  have hgain : gain 0 = fun _ => 0 := gain_of_whole (by norm_num)
  have hphase : ∀ k, (TimeLoop.run (gain 0) k).phase = 0 := by
    intro k
    rw [hgain, TimeLoop.run_zero]
  rw [locks_iff_band (by norm_num)]
  constructor
  · intro k
    rw [hphase]
    norm_num
  · intro k _
    rw [hphase]
    norm_num

/-- **The loop locks only where there is nothing to correct.** -/
theorem locks_only_zero (hs : |s| ≤ 98 / 1000000) (h : Locks s utc) : s = 0 := by
  have hneg : -1 ≤ s := by
    have hlow := (abs_le.1 hs).1
    linarith
  have hband := ((locks_iff_band hneg).1 h).2
  obtain ⟨m, hstill, hm, hconst⟩ := TimeLoop.skew_still (gain_steady hs) hband
  have hwhole := whole_of_gain hconst
  by_contra hne
  have hm0 : m ≠ 0 := by
    rintro rfl
    apply hne
    rw [Int.cast_zero] at hwhole
    linarith
  rw [gain_of_whole hwhole] at hband
  exact TimeLoop.not_band_of_still hstill hm hm0 hband

/-- **When the loop locks**: with a crystal that is right; and with none that is off by up to 98 ppm. -/
theorem locks_exactCrystal (s : ℝ) (utc : Nat) :
    (s = 0 → Locks s utc) ∧ (|s| ≤ 98 / 1000000 → Locks s utc → s = 0) := by
  refine ⟨?_, fun hs h => locks_only_zero hs h⟩
  rintro rfl
  exact locks_zero utc

theorem locks_exactCrystal_fiftyPpm :
    Locks 0 1700000000000000 ∧ ¬ Locks (1 / 20000) 1700000000000000 := by
  refine ⟨(locks_exactCrystal 0 1700000000000000).1 rfl, fun h => ?_⟩
  have hs : |(1 / 20000 : ℝ)| ≤ 98 / 1000000 := by
    rw [abs_of_nonneg (by norm_num)]
    norm_num
  have hzero := (locks_exactCrystal (1 / 20000) 1700000000000000).2 hs h
  norm_num at hzero

/-- A crystal that is 450 ppm slow is 481 us off at the twentieth beacon. -/
theorem slow_crystal_does_not_lock :
    ¬ ∀ (s : ℝ) (utc : Nat), |s| ≤ 450 / 1000000 → Locks s utc := by
  intro h
  have hs : |(-450 / 1000000 : ℝ)| = 450 / 1000000 := by
    rw [abs_of_nonpos (by norm_num)]
    norm_num
  have hlocks := h (-450 / 1000000) 0 (by rw [hs])
  have hgain : gain (-450 / 1000000) = fun _ => -450 := gain_of_whole (by norm_num)
  have hphase := ((locks_iff_band (by norm_num)).1 hlocks).2 20 (le_refl 20)
  rw [hgain] at hphase
  exact absurd hphase (by decide +kernel)

end Run

end TimeManager

end EmbeddedPixel
