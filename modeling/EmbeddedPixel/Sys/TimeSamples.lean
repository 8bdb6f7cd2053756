import EmbeddedPixel.Sys.TimeManager

/-!
# Exchanges on a synchronised clock

`process_rtt_sample` decides, and corrects, by the offset between the local clock and the host's, whatever
the disciplined clock shows: `rttDisciplines_iff` says for which exchanges that is the right thing.
-/

set_option autoImplicit false

namespace EmbeddedPixel

open Foundation

namespace TimeManager

/-- How far the disciplined clock is ahead of the host's at `t2`. -/
def rttError (this : TimeManager ℚ) (t1 t2 t3 t4 : Int) : ℚ :=
  this.epochBaseUs + (t2 - this.localRefUs) * (1 + this.driftRate) -
    (t1 + (max 0 (t4 - t1 - (t3 - t2)) / 2 : Int))

/-- The clock is slewed by an error. -/
structure SlewedBy (this : TimeManager ℚ) (errorUs : ℚ) (this' : TimeManager ℚ) : Prop where
  integralError : this'.integralError = (this.control (-errorUs)).1
  driftRate : this'.driftRate = (this.control (-errorUs)).2
  stepCount : this'.stepCount = this.stepCount

/-- An exchange disciplines the clock: it is stepped if its error is above the threshold, else slewed by
the error and locked. -/
structure RttDisciplines (this : TimeManager ℚ) (errorUs : ℚ) (this' : TimeManager ℚ) : Prop where
  stepped : this'.stepCount = this.stepCount + 1 ↔ STEP_THRESHOLD_US < |errorUs|
  slewed : ¬ STEP_THRESHOLD_US < |errorUs| → this.SlewedBy errorUs this' ∧ this'.state = .locked

variable {this : TimeManager ℚ} {t1 t2 t3 t4 offset : Int} {now : Nat → Int} {out : TimeOutcome ℚ}

/-- **A synchronised clock is stepped or slewed by the offset between the local clock and the host's.** -/
theorem rttSample_cases (hs : this.state ≠ .unsynchronized)
    (hoffset : offsetOf .machine t1 t2 t3 t4 = some offset)
    (h : this.processRttSample .machine t1 t2 t3 t4 now = some out) :
    (STEP_THRESHOLD_US < |offset| ∧ out.manager.stepCount = this.stepCount + 1) ∨
      (¬ STEP_THRESHOLD_US < |offset| ∧ this.SlewedBy offset out.manager ∧
        out.manager.state = .locked) := by
  unfold processRttSample at h
  simp only [Option.bind_eq_bind, Option.bind_eq_some_iff, Option.some.injEq] at h
  obtain ⟨rtt, -, offset', hoffset', host, -, inner, hinner, rfl⟩ := h
  rw [hoffset] at hoffset'
  cases hoffset'
  split at hinner
  · rename_i hcond
    cases hinner
    exact Or.inl ⟨hcond.resolve_left hs, rfl⟩
  · rename_i hcond
    obtain ⟨slew, hslew, rfl⟩ := Option.map_eq_some_iff.1 hinner
    unfold applySlew at hslew
    simp only [Option.bind_eq_bind, Option.bind_eq_some_iff, Option.some.injEq] at hslew
    obtain ⟨error, herror, utc, -, rfl⟩ := hslew
    have herror : error = -offset := (Words.signed64_eq herror).2.2
    refine Or.inr ⟨fun h => hcond (Or.inr h), ⟨?_, ?_, rfl⟩, rfl⟩
    · show (this.control error).1 = _
      rw [herror, Int.cast_neg]
    · show (this.control error).2 = _
      rw [herror, Int.cast_neg]

/-- The controller tells errors apart. -/
theorem SlewedBy.unique {error error' : ℚ} {this' : TimeManager ℚ} (h : this.SlewedBy error this')
    (h' : this.SlewedBy error' this') : error = error' := by
  have hsame := h.integralError.symm.trans h'.integralError
  unfold control at hsame
  dsimp only at hsame
  linarith

/-- **When an exchange disciplines a synchronised clock**: exactly if the disciplined clock is ahead of
the host's by as much as the local clock is, or both by more than the threshold. -/
theorem rttDisciplines_iff (hs : this.state ≠ .unsynchronized)
    (hoffset : offsetOf .machine t1 t2 t3 t4 = some offset)
    (h : this.processRttSample .machine t1 t2 t3 t4 now = some out) :
    this.RttDisciplines (this.rttError t1 t2 t3 t4) out.manager ↔
      (offset : ℚ) = this.rttError t1 t2 t3 t4 ∨
        (STEP_THRESHOLD_US < |offset| ∧ STEP_THRESHOLD_US < |this.rttError t1 t2 t3 t4|) := by
  generalize this.rttError t1 t2 t3 t4 = e
  have habs : STEP_THRESHOLD_US < |offset| ↔ (STEP_THRESHOLD_US : ℚ) < |(offset : ℚ)| := by
    rw [← Int.cast_abs, Int.cast_lt]
  rcases rttSample_cases hs hoffset h with ⟨hlarge, hstep⟩ | ⟨hsmall, hslew, hlocked⟩
  · constructor
    · intro hd
      exact Or.inr ⟨hlarge, hd.stepped.1 hstep⟩
    · intro hcond
      have he : STEP_THRESHOLD_US < |e| := by
        rcases hcond with rfl | ⟨-, he⟩
        · exact habs.1 hlarge
        · exact he
      exact ⟨iff_of_true hstep he, fun hno => absurd he hno⟩
  · have hno : ¬ out.manager.stepCount = this.stepCount + 1 := by
      rw [hslew.stepCount]
      simp
    constructor
    · intro hd
      have he : ¬ STEP_THRESHOLD_US < |e| := fun he => hno (hd.stepped.2 he)
      exact Or.inl (hslew.unique (hd.slewed he).1)
    · intro hcond
      rcases hcond with rfl | ⟨hlarge, -⟩
      · exact ⟨iff_of_false hno fun he => hsmall (habs.2 he), fun _ => ⟨hslew, hlocked⟩⟩
      · exact absurd hlarge hsmall

/-! ## Two exchanges a second apart -/

/-- An exchange without a delay, when the host's clock stands at `utc` and the local one at `tLocal`. -/
def exchange (utc tLocal : Int) : TimeCall ℚ := .processRttSample utc tLocal tLocal utc

/-- Where the host counts from the start of the node, the second exchange finds no error. -/
theorem rttDisciplines_sameEpoch :
    ∃ t s out, Machine.Run (step .machine fun _ => 2000000) (create, 0) t s ∧
      t.map (·.1) = [exchange 1000000 1000000] ∧ s.1.state ≠ .unsynchronized ∧
      s.1.processRttSample .machine 2000000 2000000 2000000 2000000 (fun _ => 2000000) = some out ∧
      s.1.RttDisciplines (s.1.rttError 2000000 2000000 2000000 2000000) out.manager := by
  have hexec : (Machine.exec (step .machine fun _ => 2000000) (create, 0)
      [exchange 1000000 1000000]).any (fun r => decide (r.2.1.state ≠ .unsynchronized ∧
        r.2.1.rttError 2000000 2000000 2000000 2000000 = 0) &&
        (r.2.1.processRttSample .machine 2000000 2000000 2000000 2000000 fun _ => 2000000).isSome) =
          true := by
    decide +kernel
  obtain ⟨t, s, hrun, hcalls, hp⟩ := Machine.exec_any hexec
  obtain ⟨hstate, hsome⟩ := (Bool.and_eq_true _ _).mp hp
  obtain ⟨hsync, herror⟩ := of_decide_eq_true hstate
  obtain ⟨out, hout⟩ := Option.isSome_iff_exists.1 hsome
  have hoffset : offsetOf .machine 2000000 2000000 2000000 2000000 = some 0 := by decide +kernel
  refine ⟨t, s, out, hrun, hcalls, hsync, hout, (rttDisciplines_iff hsync hoffset hout).2 (Or.inl ?_)⟩
  rw [herror, Int.cast_zero]

/-- Where the host counts from 1970, the clock is stepped again, though it has no error. -/
theorem second_exchange_steps :
    ¬ ∀ (readings now : Nat → Int) (t : List (TimeCall ℚ × List Int)) (s : TimeManager ℚ × Nat)
      (t1 t2 t3 t4 : Int) (out : TimeOutcome ℚ),
      Machine.Run (step .machine readings) (create, 0) t s → s.1.state ≠ .unsynchronized →
        s.1.processRttSample .machine t1 t2 t3 t4 now = some out →
          s.1.RttDisciplines (s.1.rttError t1 t2 t3 t4) out.manager := by
  intro h
  have hexec : (Machine.exec (step .machine fun _ => 2000000) (create, 0)
      [exchange 1700000000000000 1000000]).any (fun r => decide (r.2.1.state ≠ .unsynchronized ∧
        r.2.1.rttError 1700000001000000 2000000 2000000 1700000001000000 = 0) &&
        (r.2.1.processRttSample .machine 1700000001000000 2000000 2000000 1700000001000000
          fun _ => 2000000).any fun out =>
            decide (out.manager.stepCount = r.2.1.stepCount + 1)) = true := by
    decide +kernel
  obtain ⟨t, s, hrun, -, hp⟩ := Machine.exec_any hexec
  obtain ⟨hstate, hlast⟩ := (Bool.and_eq_true _ _).mp hp
  obtain ⟨hsync, herror⟩ := of_decide_eq_true hstate
  obtain ⟨out, hout, hstep⟩ := (Option.any_eq_true _ _).1 hlast
  have hd := h _ _ t s _ _ _ _ out hrun hsync hout
  have hlarge := hd.stepped.1 (of_decide_eq_true hstep)
  rw [herror, abs_zero] at hlarge
  exact absurd hlarge (by decide +kernel)

end TimeManager

end EmbeddedPixel
