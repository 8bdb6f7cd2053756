import EmbeddedPixel.Foundation.Binary64
import EmbeddedPixel.Sys.TimeDiscipline

/-!
# The accuracy of a step

An exchange with a host whose clock is `offset` ahead of the local one, delayed by `du` on the way there and
by `dd` on the way back.  The step it takes is right up to half the difference of the delays, as long as
the numbers are those a signed word and a `double` hold exactly: `step_accurate`.
-/

set_option autoImplicit false

namespace EmbeddedPixel

open Foundation

/-- The four timestamps of an exchange, by the delays that make them. -/
structure RttExchange where
  t1 : Int
  offset : Int
  du : Int
  dd : Int
  turnaround : Int
  du_nonneg : 0 ≤ du
  dd_nonneg : 0 ≤ dd
  turnaround_nonneg : 0 ≤ turnaround
  delay_lt : du + dd < 2 ^ 32
  t1_nonneg : 0 ≤ t1
  t2_nonneg : 0 ≤ t1 - offset + du
  t3_lt : t1 - offset + du + turnaround < 2 ^ 64
  t4_lt : t1 + du + turnaround + dd < 2 ^ 64

namespace RttExchange

variable (e : RttExchange)

def t2 : Int := e.t1 - e.offset + e.du

def t3 : Int := e.t2 + e.turnaround

def t4 : Int := e.t1 + e.du + e.turnaround + e.dd

end RttExchange

namespace TimeManager

/-- `get_utc_epoch_us` on the target, as far as a clock without a drift rate rounds: its elapsed time is
converted to a `double`. -/
def getUtcEpochUsViaDouble (this : TimeManager ℚ) (tLocal : Int) : Option Int :=
  if this.state = .unsynchronized then some tLocal
  else do
    let deltaLocal ← Words.machine.toI64 (tLocal - this.localRefUs)
    let adjustedDelta ← Words.machine.i64 (truncate (viaDouble deltaLocal * (1 + this.driftRate)))
    let epochBase ← Words.machine.toI64 this.epochBaseUs
    let utcCalc ← Words.machine.i64 (epochBase + adjustedDelta)
    some (if utcCalc > 0 then utcCalc else 0)

/-- The clock shows the time of the host at the local time `t`, but for half the difference of the delays
and a microsecond. -/
def ShowsHost (this : TimeManager ℚ) (e : RttExchange) (t : Int) : Prop :=
  ∃ utc, this.getUtcEpochUsViaDouble t = some utc ∧
    |((utc - (t + e.offset) : Int) : ℚ)| ≤ |((e.du - e.dd : Int) : ℚ)| / 2 + 1

/-- The exchange steps the clock. -/
def StepsTo (this : TimeManager ℚ) (e : RttExchange) (now : Nat → Int) (out : TimeOutcome ℚ) : Prop :=
  this.processRttSample .machine e.t1 e.t2 e.t3 e.t4 now = some out ∧
    out.manager.stepCount = this.stepCount + 1

/-! ## The arithmetic of an exchange -/

section Exchange

variable {this : TimeManager ℚ} {e : RttExchange} {now : Nat → Int} {out : TimeOutcome ℚ}

/-- Both differences wrap around alike, or their subtraction overflows. -/
theorem rttOf_exchange {rtt : Int} (h : rttOf .machine e.t1 e.t2 e.t3 e.t4 = some rtt) :
    rtt = e.du + e.dd := by
  have hdelay := e.delay_lt
  have hdu := e.du_nonneg
  have hdd := e.dd_nonneg
  unfold rttOf at h
  simp only [Option.bind_eq_bind, Option.bind_eq_some_iff, Option.some.injEq] at h
  obtain ⟨host, hhost, node, hnode, diff, hdiff, rfl⟩ := h
  obtain ⟨hlow, hhigh, rfl⟩ := Words.signed64_eq hdiff
  obtain ⟨-, -, turns, hhost⟩ := Words.machine_toI64_eq hhost
  obtain ⟨-, -, turns', hnode⟩ := Words.machine_toI64_eq hnode
  unfold RttExchange.t4 at hhost
  unfold RttExchange.t3 at hnode
  have hexact : host - node = e.du + e.dd := by omega
  rw [hexact, if_neg (by omega)]

/-- **What a step leaves**: the delay that was measured, and a clock without a rate of its own that is set
to the middle of the exchange. -/
theorem stepsTo_spec (h : this.StepsTo e now out) :
    (out.manager.lastRttUs.toNat : Int) = e.du + e.dd ∧ out.manager.state ≠ .unsynchronized ∧
      out.manager.clock = ⟨e.t1 + (e.du + e.dd) / 2, e.t2, 1⟩ ∧ out.manager.driftRate = 0 := by
  have hdelay := e.delay_lt
  have hdu := e.du_nonneg
  have hdd := e.dd_nonneg
  obtain ⟨hsample, hstep⟩ := h
  unfold processRttSample at hsample
  simp only [Option.bind_eq_bind, Option.bind_eq_some_iff, Option.some.injEq] at hsample
  obtain ⟨rtt, hrtt, offset, -, host, hhost, inner, hinner, rfl⟩ := hsample
  have hword : ((UInt32.ofInt rtt).toNat : Int) = e.du + e.dd := by
    rw [toNat_ofInt, rttOf_exchange hrtt]
    omega
  have hhalf : ((UInt32.ofInt rtt / 2).toNat : Int) = (e.du + e.dd) / 2 := by
    rw [UInt32.toNat_div, ← hword]
    rfl
  have hhost' : host = e.t1 + (e.du + e.dd) / 2 := by
    obtain ⟨hlow, hhigh, turns, hturns⟩ := Words.machine_u64_eq hhost
    have ht1 := e.t1_nonneg
    have ht4 := e.t4_lt
    have hturnaround := e.turnaround_nonneg
    rw [hhalf] at hturns
    omega
  split at hinner
  · cases hinner
    refine ⟨hword, by simp, ?_, rfl⟩
    · rw [← hhost']
      show AffineClock.mk host e.t2 (1 + 0) = _
      rw [add_zero]
  · obtain ⟨slew, hslew, rfl⟩ := Option.map_eq_some_iff.1 hinner
    unfold applySlew at hslew
    simp only [Option.bind_eq_bind, Option.bind_eq_some_iff, Option.some.injEq] at hslew
    obtain ⟨error, -, utc, -, rfl⟩ := hslew
    exact absurd hstep (by simp)

/-- A clock that is set to the middle of the exchange shows the host's time. -/
theorem showsHost_of_clock (hs : this.state ≠ .unsynchronized)
    (hclock : this.clock = ⟨e.t1 + (e.du + e.dd) / 2, e.t2, 1⟩) (hdrift : this.driftRate = 0)
    {t : Int} (hlate : e.t2 ≤ t) (hdouble : t - e.t2 ≤ 2 ^ 53) (hutc : t + e.offset + e.dd < 2 ^ 63) :
    this.ShowsHost e t := by
  have hdu := e.du_nonneg
  have hdd := e.dd_nonneg
  have ht1 := e.t1_nonneg
  have href : this.localRefUs = e.t2 := congrArg AffineClock.ref hclock
  have hbase : this.epochBaseUs = e.t1 + (e.du + e.dd) / 2 := congrArg AffineClock.base hclock
  have ht2 : e.t2 = e.t1 - e.offset + e.du := rfl
  have hdelta : Words.machine.toI64 (t - this.localRefUs) = some (t - e.t2) := by
    rw [href]
    exact Words.checked_refines_machine.toI64 _ _ (if_pos (by omega))
  have hrate : truncate (viaDouble (t - e.t2) * (1 + this.driftRate)) = t - e.t2 := by
    have habs : |t - e.t2| ≤ 2 ^ 53 := abs_le.2 (by omega)
    rw [hdrift, add_zero, mul_one, viaDouble_of_abs_le habs, truncate_intCast]
  have hadjusted : Words.machine.i64 (t - e.t2) = some (t - e.t2) := if_pos (by omega)
  have hepoch : Words.machine.toI64 this.epochBaseUs = some this.epochBaseUs :=
    Words.checked_refines_machine.toI64 _ _ (if_pos (by omega))
  have hcalc : Words.machine.i64 (this.epochBaseUs + (t - e.t2)) =
      some (this.epochBaseUs + (t - e.t2)) := if_pos (by omega)
  have hshows : this.getUtcEpochUsViaDouble t = some (this.epochBaseUs + (t - e.t2)) := by
    unfold getUtcEpochUsViaDouble
    rw [if_neg hs, hdelta]
    simp only [Option.bind_eq_bind, Option.bind_some]
    rw [hrate, hadjusted]
    simp only [Option.bind_some]
    rw [hepoch]
    simp only [Option.bind_some]
    rw [hcalc]
    simp only [Option.bind_some]
    refine congrArg some ?_
    split
    · rfl
    · omega
  refine ⟨_, hshows, ?_⟩
  -- the middle of the exchange is half the difference of the delays away from the host's time
  have herror : 2 * |this.epochBaseUs + (t - e.t2) - (t + e.offset)| ≤ |e.du - e.dd| + 2 := by
    rcases abs_cases (this.epochBaseUs + (t - e.t2) - (t + e.offset)) with ⟨habs, -⟩ | ⟨habs, -⟩
    · have hself := neg_abs_le (e.du - e.dd)
      rw [habs]
      omega
    · have hself := le_abs_self (e.du - e.dd)
      rw [habs]
      omega
  have hcast : (2 : ℚ) * |((this.epochBaseUs + (t - e.t2) - (t + e.offset) : Int) : ℚ)| ≤
      |((e.du - e.dd : Int) : ℚ)| + 2 := by exact_mod_cast herror
  linarith

/-- **The accuracy of a step.**  After an exchange that steps the clock its delay is the sum of the two, and
until the next correction the clock shows the host's time, at every local time at most `2 ^ 53` us after
it at which the host's is `dd` below `2 ^ 63`. -/
theorem step_accurate {readings : Nat → Int} {taken : Nat} {t : List (TimeCall ℚ × List Int)}
    {s : TimeManager ℚ × Nat} (h : this.StepsTo e now out)
    (hrun : Machine.Run (step .machine readings) (out.manager, taken) t s)
    (hno : ∀ x ∈ t, ¬ x.1.IsSync) :
    (out.manager.lastRttUs.toNat : Int) = e.du + e.dd ∧
      ∀ tLocal, e.t2 ≤ tLocal → tLocal - e.t2 ≤ 2 ^ 53 → tLocal + e.offset + e.dd < 2 ^ 63 →
        s.1.ShowsHost e tLocal := by
  obtain ⟨hrtt, hstate, hclock, hdrift⟩ := stepsTo_spec h
  obtain ⟨hsame, -⟩ := sameClock_run hrun hno
  refine ⟨hrtt, fun tLocal hlate hdouble hutc => ?_⟩
  refine showsHost_of_clock (fun hs => hstate (hsame.state.1 hs)) ?_ ?_ hlate hdouble hutc
  · rw [hsame.clock]
    exact hclock
  · rw [hsame.driftRate]
    exact hdrift

end Exchange

/-! ## Three exchanges -/

/-- An exchange that took 300 us there and 100 us back. -/
def slowUplink : RttExchange where
  t1 := 1700000000000000
  offset := 1699999999990000
  du := 300
  dd := 100
  turnaround := 50
  du_nonneg := by decide
  dd_nonneg := by decide
  turnaround_nonneg := by decide
  delay_lt := by decide
  t1_nonneg := by decide
  t2_nonneg := by decide
  t3_lt := by decide
  t4_lt := by decide

/-- An hour later the clock of a new node is at most 101 us off. -/
theorem step_accurate_slowUplink :
    ∃ out, create.StepsTo slowUplink (fun _ => 0) out ∧
      out.manager.ShowsHost slowUplink 3600000010300 := by
  have hsample : ((create : TimeManager ℚ).processRttSample .machine slowUplink.t1 slowUplink.t2
      slowUplink.t3 slowUplink.t4 fun _ => 0).any (fun out =>
        decide (out.manager.stepCount = (create : TimeManager ℚ).stepCount + 1)) = true := by
    decide +kernel
  obtain ⟨out, hout, hstep⟩ := (Option.any_eq_true _ _).1 hsample
  have hrun : Machine.Run (step .machine fun _ => 0) (out.manager, 0) [] (out.manager, 0) := .nil
  refine ⟨out, ⟨hout, of_decide_eq_true hstep⟩, ?_⟩
  exact (step_accurate ⟨hout, of_decide_eq_true hstep⟩ hrun (by simp)).2 3600000010300 (by decide)
    (by decide) (by decide)

/-- The host's clock is past the range of signed words, 292471 years after its epoch. -/
def farHost : RttExchange where
  t1 := 2 ^ 63
  offset := 2 ^ 63
  du := 0
  dd := 1
  turnaround := 0
  du_nonneg := by decide
  dd_nonneg := by decide
  turnaround_nonneg := by decide
  delay_lt := by decide
  t1_nonneg := by decide
  t2_nonneg := by decide
  t3_lt := by decide
  t4_lt := by decide

/-- Both clocks start together. -/
def twinClocks : RttExchange where
  t1 := 0
  offset := 0
  du := 0
  dd := 0
  turnaround := 0
  du_nonneg := by decide
  dd_nonneg := by decide
  turnaround_nonneg := by decide
  delay_lt := by decide
  t1_nonneg := by decide
  t2_nonneg := by decide
  t3_lt := by decide
  t4_lt := by decide

/-- A new node that is stepped and then shows `shown` at `t`. -/
theorem not_showsHost (e : RttExchange) (t shown : Int)
    (h : ((create : TimeManager ℚ).processRttSample .machine e.t1 e.t2 e.t3 e.t4 fun _ => 0).any (fun out =>
      decide (out.manager.stepCount = (create : TimeManager ℚ).stepCount + 1 ∧
        out.manager.getUtcEpochUsViaDouble t = some shown)) = true)
    (hfar : |((e.du - e.dd : Int) : ℚ)| / 2 + 1 < |((shown - (t + e.offset) : Int) : ℚ)|) :
    ∃ out, create.StepsTo e (fun _ => 0) out ∧ ¬ out.manager.ShowsHost e t := by
  obtain ⟨out, hout, hvalues⟩ := (Option.any_eq_true _ _).1 h
  obtain ⟨hstep, hshown⟩ := of_decide_eq_true hvalues
  refine ⟨out, ⟨hout, hstep⟩, ?_⟩
  rintro ⟨utc, hutc, herror⟩
  rw [hshown] at hutc
  cases hutc
  exact absurd herror (not_le.2 hfar)

/-- Past the range of signed words the clock shows zero, and past that of a `double` it misses
microseconds. -/
theorem step_inaccurate :
    (¬ ∀ (this : TimeManager ℚ) (e : RttExchange) (now readings : Nat → Int) (taken : Nat)
      (out : TimeOutcome ℚ) (t : List (TimeCall ℚ × List Int)) (s : TimeManager ℚ × Nat) (tLocal : Int),
        this.StepsTo e now out → Machine.Run (step .machine readings) (out.manager, taken) t s →
          (∀ x ∈ t, ¬ x.1.IsSync) → e.t2 ≤ tLocal → tLocal < 2 ^ 64 → tLocal - e.t2 ≤ 2 ^ 53 →
            s.1.ShowsHost e tLocal) ∧
    ¬ ∀ (this : TimeManager ℚ) (e : RttExchange) (now readings : Nat → Int) (taken : Nat)
      (out : TimeOutcome ℚ) (t : List (TimeCall ℚ × List Int)) (s : TimeManager ℚ × Nat) (tLocal : Int),
        this.StepsTo e now out → Machine.Run (step .machine readings) (out.manager, taken) t s →
          (∀ x ∈ t, ¬ x.1.IsSync) → e.t2 ≤ tLocal → tLocal < 2 ^ 64 →
            tLocal + e.offset + e.dd < 2 ^ 63 → s.1.ShowsHost e tLocal := by
  constructor
  · intro h
    obtain ⟨out, hsteps, hno⟩ := not_showsHost farHost 0 0
      (by decide +kernel) (by decide +kernel)
    exact hno (h create farHost _ (fun _ => 0) 0 out [] (out.manager, 0) 0 hsteps .nil (by simp)
      (by decide) (by decide) (by decide))
  · intro h
    obtain ⟨out, hsteps, hno⟩ := not_showsHost twinClocks (2 ^ 54 + 2) (2 ^ 54)
      (by decide +kernel) (by decide +kernel)
    exact hno (h create twinClocks _ (fun _ => 0) 0 out [] (out.manager, 0) (2 ^ 54 + 2) hsteps .nil
      (by simp) (by decide) (by decide) (by decide))

end TimeManager

end EmbeddedPixel
