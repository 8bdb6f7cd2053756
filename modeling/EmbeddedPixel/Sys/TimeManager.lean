import EmbeddedPixel.Foundation.AffineClock
import EmbeddedPixel.Foundation.Doubles
import EmbeddedPixel.Foundation.Machine

/-!
# The time manager (`sys/TimeManager.cpp`)

The clock that follows the host's.  The 64-bit words are integers under a `Words`, and a `double` is one of
`Doubles`, so that one text stands for the arithmetic of the target and for that of the integers and the
rationals.  A method gets the time source as the readings still to come and says how many it has taken.

`TimeManager.step` is one call; the readings of a run are those of one sequence, in order.
-/

set_option autoImplicit false

namespace EmbeddedPixel

open Foundation

/-- `SyncState`. -/
inductive SyncState where
  | unsynchronized
  | calibrating
  | locked
  | holdover
  deriving DecidableEq, Repr

structure TimeManager (R : Type) where
  state : SyncState
  epochBaseUs : Int
  localRefUs : Int
  driftRate : R
  kp : R
  ki : R
  integralError : R
  lastOffsetUs : Int
  lastRttUs : UInt32
  lastSyncLocalUs : Int
  lastSyncUtcUs : Int
  holdoverElapsedMs : UInt32
  syncCount : UInt32
  beaconCount : UInt32
  stepCount : UInt32
  deriving DecidableEq

/-- What a call leaves: what `get_utc_epoch_us` returned in it, to the caller or within, and how many
readings of the time source it took. -/
structure TimeOutcome (R : Type) where
  returned : List Int
  taken : Nat
  manager : TimeManager R

namespace TimeManager

variable {R : Type} [Doubles R]

def STEP_THRESHOLD_US : Int := 100000

def MAX_SLEW_RATE : R := 0.000500

def HOLDOVER_TIMEOUT_MS : UInt32 := 5000

/-- The constructor. -/
def create : TimeManager R where
  state := .unsynchronized
  epochBaseUs := 0
  localRefUs := 0
  driftRate := 0
  kp := 0.20
  ki := 0.02
  integralError := 0
  lastOffsetUs := 0
  lastRttUs := 0
  lastSyncLocalUs := 0
  lastSyncUtcUs := 0
  holdoverElapsedMs := 0
  syncCount := 0
  beaconCount := 0
  stepCount := 0

variable (w : Words) (this : TimeManager R)

/-- `init`; the gains are kept. -/
def init : TimeManager R :=
  { this with
    state := .unsynchronized
    epochBaseUs := 0
    localRefUs := 0
    driftRate := 0
    integralError := 0
    lastOffsetUs := 0
    lastRttUs := 0
    lastSyncLocalUs := 0
    lastSyncUtcUs := 0
    holdoverElapsedMs := 0
    syncCount := 0
    beaconCount := 0
    stepCount := 0 }

/-- `set_pi_gains`, whose arguments are of single precision. -/
def setPiGains (kp ki : R) : TimeManager R := { this with kp := kp, ki := ki }

/-- `get_utc_epoch_us`, at a reading of the time source. -/
def getUtcEpochUs (tLocal : Int) : Option Int :=
  if this.state = .unsynchronized then some tLocal
  else do
    let deltaLocal ← w.toI64 (tLocal - this.localRefUs)
    let adjustedDelta ← Doubles.toInt (Doubles.ofInt deltaLocal * (1 + this.driftRate))
    let adjustedDelta ← w.i64 adjustedDelta
    let epochBase ← w.toI64 this.epochBaseUs
    let utcCalc ← w.i64 (epochBase + adjustedDelta)
    some (if utcCalc > 0 then utcCalc else 0)

/-- `apply_step`. -/
def applyStep (targetUtcUs localRefUs : Int) : TimeManager R :=
  { this with
    epochBaseUs := targetUtcUs
    localRefUs := localRefUs
    driftRate := 0
    integralError := 0
    stepCount := this.stepCount + 1 }

/-- The clamp of `apply_slew`. -/
def clampRate (rate : R) : R :=
  if rate > MAX_SLEW_RATE then MAX_SLEW_RATE
  else if rate < -MAX_SLEW_RATE then -MAX_SLEW_RATE
  else rate

/-- The controller of `apply_slew`: the integral term and the rate. -/
def control (errorUs : R) : R × R :=
  let integralError := this.integralError + errorUs * 0.001
  (integralError, clampRate (this.kp * (errorUs / 1000000.0) + this.ki * integralError))

/-- `apply_slew`. -/
def applySlew (offsetUs : Int) (now : Nat → Int) : Option (TimeOutcome R) := do
  let errorUs ← w.i64 (-offsetUs)
  let (integralError, correctionRate) := this.control (Doubles.ofInt errorUs)
  let currentUtc ← this.getUtcEpochUs w (now 0)
  some
    { returned := [currentUtc]
      taken := 2
      manager :=
        { this with
          integralError := integralError
          epochBaseUs := currentUtc
          localRefUs := now 1
          driftRate := correctionRate } }

/-- `rtt` of `process_rtt_sample`. -/
def rttOf (t1 t2 t3 t4 : Int) : Option Int := do
  let host ← w.toI64 (t4 - t1)
  let node ← w.toI64 (t3 - t2)
  let rtt ← w.i64 (host - node)
  some (if rtt < 0 then 0 else rtt)

/-- `offset` of `process_rtt_sample`. -/
def offsetOf (t1 t2 t3 t4 : Int) : Option Int := do
  let there ← w.toI64 (t2 - t1)
  let back ← w.toI64 (t3 - t4)
  let sum ← w.i64 (there + back)
  some (sum.tdiv 2)

/-- `process_rtt_sample`. -/
def processRttSample (t1 t2 t3 t4 : Int) (now : Nat → Int) : Option (TimeOutcome R) := do
  let rtt ← rttOf w t1 t2 t3 t4
  let lastRttUs := UInt32.ofInt rtt
  let offset ← offsetOf w t1 t2 t3 t4
  let hostUtcAtT2 ← w.u64 (t1 + (lastRttUs / 2).toNat)
  let this :=
    { this with
      lastRttUs := lastRttUs
      lastOffsetUs := offset
      syncCount := this.syncCount + 1
      holdoverElapsedMs := 0 }
  let out ← (
    if this.state = .unsynchronized ∨ |offset| > STEP_THRESHOLD_US then
      some ⟨[], 0, { this.applyStep hostUtcAtT2 t2 with state := .calibrating }⟩
    else (this.applySlew w offset now).map fun out =>
      { out with manager := { out.manager with state := .locked } })
  some
    { out with
      manager := { out.manager with lastSyncLocalUs := t2, lastSyncUtcUs := hostUtcAtT2 } }

/-- `process_beacon`, which looks neither at the sequence number nor at the stratum. -/
def processBeacon (masterUtcUs localRxUs : Int) (now : Nat → Int) : Option (TimeOutcome R) := do
  let this := { this with beaconCount := this.beaconCount + 1, holdoverElapsedMs := 0 }
  let expectedTargetUtc ← w.u64 (masterUtcUs + (this.lastRttUs / 2).toNat)
  let currentSynced ← this.getUtcEpochUs w (now 0)
  let target ← w.toI64 expectedTargetUtc
  let current ← w.toI64 currentSynced
  let phaseError ← w.i64 (target - current)
  let offset ← w.i64 (-phaseError)
  let this := { this with lastOffsetUs := offset }
  let out ← (
    if this.state = .unsynchronized ∨ |phaseError| > STEP_THRESHOLD_US then
      some ⟨[], 0, this.applyStep expectedTargetUtc localRxUs⟩
    else this.applySlew w offset fun i => now (i + 1))
  some
    { returned := currentSynced :: out.returned
      taken := out.taken + 1
      manager :=
        { out.manager with
          state := .locked
          lastSyncLocalUs := localRxUs
          lastSyncUtcUs := expectedTargetUtc } }

/-- `update`. -/
def update (deltaMs : UInt32) : TimeManager R :=
  match this.state with
  | .locked =>
    let elapsed := this.holdoverElapsedMs + deltaMs
    { this with
      holdoverElapsedMs := elapsed
      state := if elapsed ≥ HOLDOVER_TIMEOUT_MS then .holdover else .locked }
  | .holdover => { this with holdoverElapsedMs := this.holdoverElapsedMs + deltaMs }
  | _ => this

/-- `force_step`. -/
def forceStep (offsetCorrectionUs : Int) (now : Nat → Int) : Option (TimeOutcome R) := do
  let currentUtc ← this.getUtcEpochUs w (now 0)
  let targetUtc ← w.u64 (currentUtc + offsetCorrectionUs)
  some ⟨[currentUtc], 2, this.applyStep targetUtc (now 1)⟩

end TimeManager

/-- A call of the time manager. -/
inductive TimeCall (R : Type) where
  | getUtcEpochUs
  | processRttSample (t1 t2 t3 t4 : Int)
  | processBeacon (masterUtcUs localRxUs : Int)
  | update (deltaMs : UInt32)
  | setPiGains (kp ki : R)
  | forceStep (offsetCorrectionUs : Int)

namespace TimeManager

variable {R : Type} [Doubles R] (w : Words)

/-- What a call does, with the readings to come. -/
def call (this : TimeManager R) (now : Nat → Int) : TimeCall R → Option (TimeOutcome R)
  | .getUtcEpochUs => do
    let utc ← this.getUtcEpochUs w (now 0)
    some ⟨[utc], 1, this⟩
  | .processRttSample t1 t2 t3 t4 => this.processRttSample w t1 t2 t3 t4 now
  | .processBeacon masterUtcUs localRxUs => this.processBeacon w masterUtcUs localRxUs now
  | .update deltaMs => some ⟨[], 0, this.update deltaMs⟩
  | .setPiGains kp ki => some ⟨[], 0, this.setPiGains kp ki⟩
  | .forceStep offsetCorrectionUs => this.forceStep w offsetCorrectionUs now

/-- One call; `s.2` readings have been taken before it. -/
def step (clock : Nat → Int) (s : TimeManager R × Nat) (c : TimeCall R) :
    Option (List Int × (TimeManager R × Nat)) := do
  let out ← s.1.call w (fun i => clock (s.2 + i)) c
  some (out.returned, (out.manager, s.2 + out.taken))

/-! ## Two arithmetics -/

section Refines

variable {w w' : Words} (h : w.Refines w') (this : TimeManager R)
include h

theorem within_getUtcEpochUs (tLocal : Int) :
    Within (this.getUtcEpochUs w tLocal) (this.getUtcEpochUs w' tLocal) := by
  unfold getUtcEpochUs
  apply Within.ite (.refl _)
  apply (h.toI64 _).bind fun delta => ?_
  apply (Within.refl _).bind fun elapsed => ?_
  apply (h.i64 _).bind fun adjusted => ?_
  apply (h.toI64 _).bind fun base => ?_
  exact (h.i64 _).bind fun utc => .refl _

theorem within_applySlew (offsetUs : Int) (now : Nat → Int) :
    Within (this.applySlew w offsetUs now) (this.applySlew w' offsetUs now) := by
  unfold applySlew
  apply (h.i64 _).bind fun error => ?_
  exact (within_getUtcEpochUs h this _).bind fun utc => .refl _

theorem within_processRttSample (t1 t2 t3 t4 : Int) (now : Nat → Int) :
    Within (this.processRttSample w t1 t2 t3 t4 now) (this.processRttSample w' t1 t2 t3 t4 now) := by
  have hrtt : Within (rttOf w t1 t2 t3 t4) (rttOf w' t1 t2 t3 t4) := by
    unfold rttOf
    apply (h.toI64 _).bind fun host => ?_
    apply (h.toI64 _).bind fun node => ?_
    exact (h.i64 _).bind fun rtt => .refl _
  have hoffset : Within (offsetOf w t1 t2 t3 t4) (offsetOf w' t1 t2 t3 t4) := by
    unfold offsetOf
    apply (h.toI64 _).bind fun there => ?_
    apply (h.toI64 _).bind fun back => ?_
    exact (h.i64 _).bind fun sum => .refl _
  unfold processRttSample
  apply hrtt.bind fun rtt => ?_
  apply hoffset.bind fun offset => ?_
  apply (h.u64 _).bind fun host => ?_
  apply Within.bind ?_ fun out => .refl _
  exact Within.ite (.refl _) ((within_applySlew h _ _ _).map _)

theorem within_processBeacon (masterUtcUs localRxUs : Int) (now : Nat → Int) :
    Within (this.processBeacon w masterUtcUs localRxUs now)
      (this.processBeacon w' masterUtcUs localRxUs now) := by
  unfold processBeacon
  apply (h.u64 _).bind fun target => ?_
  apply (within_getUtcEpochUs h _ _).bind fun synced => ?_
  apply (h.toI64 _).bind fun target' => ?_
  apply (h.toI64 _).bind fun current => ?_
  apply (h.i64 _).bind fun error => ?_
  apply (h.i64 _).bind fun offset => ?_
  apply Within.bind ?_ fun out => .refl _
  exact Within.ite (.refl _) (within_applySlew h _ _ _)

theorem within_call (now : Nat → Int) (c : TimeCall R) :
    Within (this.call w now c) (this.call w' now c) := by
  cases c with
  | getUtcEpochUs => exact (within_getUtcEpochUs h this _).bind fun utc => .refl _
  | processRttSample t1 t2 t3 t4 => exact within_processRttSample h this t1 t2 t3 t4 now
  | processBeacon masterUtcUs localRxUs => exact within_processBeacon h this masterUtcUs localRxUs now
  | update deltaMs => exact .refl _
  | setPiGains kp ki => exact .refl _
  | forceStep offsetCorrectionUs =>
      apply (within_getUtcEpochUs h this _).bind fun utc => ?_
      exact (h.u64 _).bind fun target => .refl _

/-- **A run in one arithmetic is a run in every arithmetic that has its results.** -/
theorem run_refines {clock : Nat → Int} {s₀ s : TimeManager R × Nat}
    {t : List (TimeCall R × List Int)} (hrun : Machine.Run (step w clock) s₀ t s) :
    Machine.Run (step w' clock) s₀ t s := by
  induction hrun with
  | nil => exact .nil
  | @snoc u s s' c o _ hs ih =>
      have hstep : Within (step w clock s c) (step w' clock s c) :=
        (within_call h s.1 _ c).bind fun out => .refl _
      exact ih.snoc (hstep _ hs)

end Refines

/-! ## Over the rationals -/

section Rationals

variable (w : Words) (this : TimeManager ℚ)

theorem getUtcEpochUs_rat (tLocal : Int) :
    this.getUtcEpochUs w tLocal =
      (if this.state = .unsynchronized then some tLocal
      else do
        let deltaLocal ← w.toI64 (tLocal - this.localRefUs)
        let adjustedDelta ← w.i64 (truncate (deltaLocal * (1 + this.driftRate)))
        let epochBase ← w.toI64 this.epochBaseUs
        let utcCalc ← w.i64 (epochBase + adjustedDelta)
        some (if utcCalc > 0 then utcCalc else 0)) := rfl

theorem control_rat (errorUs : ℚ) :
    this.control errorUs =
      (this.integralError + errorUs * (1 / 1000),
        clampRate (this.kp * (errorUs / 1000000) +
          this.ki * (this.integralError + errorUs * (1 / 1000)))) := by
  have hscale : (0.001 : ℚ) = 1 / 1000 := by norm_num
  have hmicro : (1000000.0 : ℚ) = 1000000 := by norm_num
  rw [← hscale, ← hmicro]
  rfl

end Rationals

end TimeManager

end EmbeddedPixel
