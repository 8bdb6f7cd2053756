import EmbeddedPixel.Sys.TimeRange

/-!
# A beacon that waits in a queue

`process_beacon` is given the local time at which the beacon came in, but it compares the host's time with
what the clock shows when the task gets round to it.  `delayFree_iff` says when the wait makes no
difference on the target, whose `double`s round.
-/

set_option autoImplicit false

namespace EmbeddedPixel

open Foundation Words

namespace TimeManager

variable {R : Type} [Doubles R] {this : TimeManager R} {masterUtcUs localRxUs : Int}
  {now now' : Nat → Int} {out out' : TimeOutcome R}

/-- Two ways to process a beacon come to the same, the clock at its reception compared with the host's. -/
structure DelayFree (this : TimeManager R) (masterUtcUs localRxUs : Int) (out out' : TimeOutcome R) :
    Prop where
  phase : ∃ utc, this.getUtcEpochUs .machine localRxUs = some utc ∧
    out.manager.lastOffsetUs = utc - wrap (masterUtcUs + (this.lastRttUs / 2).toNat)
  offset : out'.manager.lastOffsetUs = out.manager.lastOffsetUs
  steps : out'.manager.stepCount = this.stepCount + 1 ↔ out.manager.stepCount = this.stepCount + 1
  driftRate : out'.manager.driftRate = out.manager.driftRate

/-- The error of a clock that is synchronised. -/
theorem phaseWord_eq (hs : this.state ≠ .unsynchronized) (masterUtcUs : Int) {tLocal utc : Int}
    (h : this.getUtcEpochUs .machine tLocal = some utc) :
    this.phaseWord masterUtcUs tLocal = wrap (masterUtcUs + (this.lastRttUs / 2).toNat) - utc := by
  obtain ⟨hread, htold⟩ := getUtcEpochUs_eq_some.1 h
  obtain ⟨elapsed, hadvance, -, hlow, hhigh⟩ := hread.resolve_left hs
  have hshown : utc = max 0 (wrap this.epochBaseUs + elapsed) := by
    rw [htold]
    unfold told
    rw [if_neg hs, hadvance, Option.getD_some]
  have hfits : Fits utc := by
    rw [hshown]
    constructor
    · omega
    · omega
  unfold phaseWord
  rw [← htold, wrap_of_fits hfits]

/-- **What a beacon does** is decided by the error at the first reading. -/
theorem beacon_spec (hs : this.state ≠ .unsynchronized)
    (h : this.processBeacon .machine masterUtcUs localRxUs now = some out) :
    out.manager.lastOffsetUs = -this.phaseWord masterUtcUs (now 0) ∧
      if |this.phaseWord masterUtcUs (now 0)| > STEP_THRESHOLD_US then
        out.manager.stepCount = this.stepCount + 1 ∧ out.manager.driftRate = 0
      else
        out.manager.stepCount = this.stepCount ∧
          out.manager.driftRate =
            (this.control (Doubles.ofInt (this.phaseWord masterUtcUs (now 0)))).2 := by
  unfold processBeacon at h
  simp only [Option.bind_eq_bind, Option.bind_some, Option.bind_eq_some_iff, getUtcEpochUs_eq_some,
    machine_u64, machine_toI64, wrap_emod, machine_i64_eq_some, Option.some.injEq] at h
  obtain ⟨synced, ⟨-, rfl⟩, error, ⟨-, rfl⟩, offset, ⟨-, rfl⟩, inner, hinner, rfl⟩ := h
  by_cases hfar : |this.phaseWord masterUtcUs (now 0)| > STEP_THRESHOLD_US
  · rw [if_pos (by exact Or.inr hfar)] at hinner
    cases hinner
    rw [if_pos hfar]
    exact ⟨rfl, rfl, rfl⟩
  · have hslews : this.SlewsBy (this.phaseWord masterUtcUs (now 0)) := not_or.2 ⟨hs, hfar⟩
    rw [if_neg (by exact hslews)] at hinner
    unfold applySlew at hinner
    simp only [Option.bind_eq_bind, Option.bind_eq_some_iff, machine_i64_eq_some,
      Option.some.injEq] at hinner
    obtain ⟨error, ⟨-, rfl⟩, utc, -, rfl⟩ := hinner
    rw [if_neg hfar]
    refine ⟨rfl, rfl, ?_⟩
    rw [neg_neg]
    rfl

/-- **When a wait makes no difference to a beacon**: exactly if a synchronised clock shows at both
processing times what it showed when the beacon came in. -/
theorem delayFree_iff {this : TimeManager Double} {out out' : TimeOutcome Double}
    (hs : this.state ≠ .unsynchronized)
    (h : this.processBeacon .machine masterUtcUs localRxUs now = some out)
    (h' : this.processBeacon .machine masterUtcUs localRxUs now' = some out') :
    this.DelayFree masterUtcUs localRxUs out out' ↔
      this.getUtcEpochUs .machine (now 0) = this.getUtcEpochUs .machine localRxUs ∧
        this.getUtcEpochUs .machine (now' 0) = this.getUtcEpochUs .machine localRxUs := by
  have hutc := getUtcEpochUs_eq_some.2 ⟨(processBeacon_some_iff.1 ⟨out, h⟩).reading, rfl⟩
  have hutc' := getUtcEpochUs_eq_some.2 ⟨(processBeacon_some_iff.1 ⟨out', h'⟩).reading, rfl⟩
  have hphase := phaseWord_eq hs masterUtcUs hutc
  have hphase' := phaseWord_eq hs masterUtcUs hutc'
  obtain ⟨hoffset, hspec⟩ := beacon_spec hs h
  obtain ⟨hoffset', hspec'⟩ := beacon_spec hs h'
  rw [hutc, hutc']
  constructor
  · intro hfree
    obtain ⟨utc, hshown, hfirst⟩ := hfree.phase
    have hsecond := hfree.offset.trans hfirst
    rw [hoffset, hphase] at hfirst
    rw [hoffset', hphase'] at hsecond
    rw [hshown]
    constructor
    · congr 1
      omega
    · congr 1
      omega
  · rintro ⟨hshown, hshown'⟩
    have htold : this.told (now' 0) = this.told (now 0) := Option.some.inj (hshown'.trans hshown.symm)
    have hsame : this.phaseWord masterUtcUs (now' 0) = this.phaseWord masterUtcUs (now 0) := by
      rw [hphase, hphase', htold]
    rw [hsame] at hoffset' hspec'
    refine ⟨⟨_, hshown.symm, ?_⟩, hoffset'.trans hoffset.symm, ?_, ?_⟩
    · rw [hoffset, hphase]
      omega
    · split at hspec
      · rw [if_pos ‹_›] at hspec'
        exact iff_of_true hspec'.1 hspec.1
      · rw [if_neg ‹_›] at hspec'
        rw [hspec.1, hspec'.1]
    · split at hspec
      · rw [if_pos ‹_›] at hspec'
        rw [hspec.2, hspec'.2]
      · rw [if_neg ‹_›] at hspec'
        rw [hspec.2, hspec'.2]

/-! ## A beacon a second after an exchange -/

/-- An exchange at the start of the node, when the host's clock stands at 1000 s. -/
def atStart : List (TimeCall Double) := [.processRttSample 1000000000 0 0 1000000000]

/-- Processed when it comes in, whatever the later readings. -/
theorem delayFree_atOnce :
    ∃ t s out out', Machine.Run (step .machine fun _ => 0) (create, 0) t s ∧ t.map (·.1) = atStart ∧
      s.1.processBeacon .machine 1001000050 1000000 (fun _ => 1000000) = some out ∧
      s.1.processBeacon .machine 1001000050 1000000 (fun i => 1000000 + 7 * i) = some out' ∧
      s.1.DelayFree 1001000050 1000000 out out' := by
  have hexec : (Machine.exec (step .machine fun _ => 0) (create, 0) atStart).any
      (fun r => decide (r.2.1.state ≠ .unsynchronized) &&
        ((r.2.1.processBeacon .machine 1001000050 1000000 fun _ => 1000000).isSome &&
          (r.2.1.processBeacon .machine 1001000050 1000000 fun i => 1000000 + 7 * i).isSome)) =
        true := by
    decide +kernel
  obtain ⟨t, s, hrun, hcalls, hp⟩ := Machine.exec_any hexec
  obtain ⟨hsync, hp⟩ := (Bool.and_eq_true _ _).mp hp
  obtain ⟨hsome, hsome'⟩ := (Bool.and_eq_true _ _).mp hp
  obtain ⟨out, hout⟩ := Option.isSome_iff_exists.1 hsome
  obtain ⟨out', hout'⟩ := Option.isSome_iff_exists.1 hsome'
  exact ⟨t, s, out, out', hrun, hcalls, hout, hout',
    (delayFree_iff (of_decide_eq_true hsync) hout hout').2 ⟨rfl, rfl⟩⟩

/-- After 200 ms in the queue the same beacon steps the clock. -/
theorem late_beacon_steps :
    ¬ ∀ (readings now now' : Nat → Int) (t : List (TimeCall Double × List Int))
      (s : TimeManager Double × Nat) (masterUtcUs localRxUs : Int) (out out' : TimeOutcome Double),
        Machine.Run (step .machine readings) (create, 0) t s → s.1.state ≠ .unsynchronized →
          (∀ i, localRxUs ≤ now i) → (∀ i, localRxUs ≤ now' i) →
            s.1.processBeacon .machine masterUtcUs localRxUs now = some out →
              s.1.processBeacon .machine masterUtcUs localRxUs now' = some out' →
                s.1.DelayFree masterUtcUs localRxUs out out' := by
  intro h
  have hexec : (Machine.exec (step .machine fun _ => 0) (create, 0) atStart).any
      (fun r => decide (r.2.1.state ≠ .unsynchronized) &&
        ((r.2.1.processBeacon .machine 1001000000 1000000 fun _ => 1000000).any
            (fun out => decide (out.manager.stepCount ≠ r.2.1.stepCount + 1)) &&
          (r.2.1.processBeacon .machine 1001000000 1000000 fun _ => 1200000).any
            (fun out => decide (out.manager.stepCount = r.2.1.stepCount + 1)))) = true := by
    decide +kernel
  obtain ⟨t, s, hrun, -, hp⟩ := Machine.exec_any hexec
  obtain ⟨hsync, hp⟩ := (Bool.and_eq_true _ _).mp hp
  obtain ⟨hslewed, hstepped⟩ := (Bool.and_eq_true _ _).mp hp
  obtain ⟨out, hout, hno⟩ := (Option.any_eq_true _ _).1 hslewed
  obtain ⟨out', hout', hyes⟩ := (Option.any_eq_true _ _).1 hstepped
  have hfree := h _ _ _ t s _ _ out out' hrun (of_decide_eq_true hsync) (fun _ => by decide)
    (fun _ => by decide) hout hout'
  exact of_decide_eq_true hno (hfree.steps.1 (of_decide_eq_true hyes))

end TimeManager

end EmbeddedPixel
