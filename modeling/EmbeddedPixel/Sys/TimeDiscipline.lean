import Mathlib.Data.Int.ConditionallyCompleteOrder
import EmbeddedPixel.Sys.TimeManager

/-!
# The disciplined clock

A time manager that is synchronised shows an affine clock (`clock`), which a call leaves, sets or rebases
(`CallEffect`).  Between two steps the times it returns never decrease, and between two corrections it goes
at the pace of the local clock within 500 ppm: `clock_disciplined`.
-/

set_option autoImplicit false

namespace EmbeddedPixel

open Foundation

/-- A call that may correct the clock. -/
def TimeCall.IsSync : TimeCall ℚ → Prop
  | .processRttSample .. | .processBeacon .. | .forceStep .. => True
  | _ => False

namespace TimeManager

/-- The clock a synchronised time manager shows. -/
def clock (this : TimeManager ℚ) : AffineClock :=
  ⟨this.epochBaseUs, this.localRefUs, 1 + this.driftRate⟩

/-- The two show one clock. -/
structure SameClock (this this' : TimeManager ℚ) : Prop where
  clock : this'.clock = this.clock
  driftRate : this'.driftRate = this.driftRate
  stepCount : this'.stepCount = this.stepCount
  state : this'.state = .unsynchronized ↔ this.state = .unsynchronized

variable {w : Words} {this : TimeManager ℚ}

/-- A synchronised time manager returns what its clock shows. -/
theorem getUtcEpochUs_eq (hw : w.Sound) (hs : this.state ≠ .unsynchronized) {t utc : Int}
    (h : this.getUtcEpochUs w t = some utc) : utc = this.clock.read t := by
  rw [getUtcEpochUs_rat, if_neg hs] at h
  simp only [Option.bind_eq_bind, Option.bind_eq_some_iff, Option.some.injEq] at h
  obtain ⟨delta, hdelta, adjusted, hadjusted, base, hbase, sum, hsum, rfl⟩ := h
  rw [hw.i64 hsum, hw.toI64 hbase, hw.i64 hadjusted, hw.toI64 hdelta]
  have hrate : this.clock.elapsed t =
      truncate ((t - this.localRefUs : Int) * (1 + this.driftRate)) := rfl
  show _ = max 0 (this.epochBaseUs + this.clock.elapsed t)
  rw [hrate]
  split
  · omega
  · omega

theorem getUtcEpochUs_unsynchronized (hs : this.state = .unsynchronized) (t : Int) :
    this.getUtcEpochUs w t = some t := if_pos hs

/-! ## The controller -/

theorem abs_clampRate_le (rate : ℚ) : |clampRate rate| ≤ MAX_SLEW_RATE := by
  have hpos : (0 : ℚ) ≤ MAX_SLEW_RATE := by
    unfold MAX_SLEW_RATE
    norm_num
  unfold clampRate
  rw [abs_le]
  split
  · constructor
    · linarith
    · exact le_refl _
  · rename_i hhigh
    split
    · constructor
      · exact le_refl _
      · linarith
    · rename_i hlow
      exact ⟨not_lt.1 hlow, not_lt.1 hhigh⟩

/-- A clamped rate neither stops the clock nor doubles its pace. -/
theorem rate_bounds {rate : ℚ} (h : |rate| ≤ MAX_SLEW_RATE) :
    (0 : ℚ) ≤ 1 - MAX_SLEW_RATE ∧ 1 - MAX_SLEW_RATE ≤ 1 + rate ∧ 1 + rate ≤ 1 + MAX_SLEW_RATE := by
  obtain ⟨hlow, hhigh⟩ := abs_le.1 h
  refine ⟨?_, ?_, ?_⟩
  · unfold MAX_SLEW_RATE
    norm_num
  · linarith
  · linarith

/-! ## What a call does to the clock -/

/-- A call leaves the clock, sets it with no rate of its own, or rebases it. -/
inductive CallEffect (w : Words) (this : TimeManager ℚ) (now : Nat → Int) (out : TimeOutcome ℚ) : Prop
  | kept (clock : this.SameClock out.manager) (returned : out.returned = []) (taken : out.taken = 0)
  | told (clock : this.SameClock out.manager) (utc : Int)
      (told : this.getUtcEpochUs w (now 0) = some utc) (returned : out.returned = [utc])
      (taken : out.taken = 1)
  | stepped (driftRate : out.manager.driftRate = 0)
      (stepCount : out.manager.stepCount = this.stepCount + 1)
  | slewed (synchronized : this.state ≠ .unsynchronized) (rate : ℚ) (bound : |rate| ≤ MAX_SLEW_RATE)
      (i : Nat) (driftRate : out.manager.driftRate = rate)
      (clock : out.manager.clock = this.clock.rebase (now i) (now (i + 1)) (1 + rate))
      (stepCount : out.manager.stepCount = this.stepCount)
      (returned : out.returned = (List.range (i + 1)).map fun j => this.clock.read (now j))
      (taken : out.taken = i + 2)

theorem slewed_applySlew (hw : w.Sound) (hs : this.state ≠ .unsynchronized) {offsetUs : Int}
    {now : Nat → Int} {out : TimeOutcome ℚ} (h : this.applySlew w offsetUs now = some out) :
    ∃ rate, |rate| ≤ MAX_SLEW_RATE ∧ out.manager.driftRate = rate ∧
      out.manager.clock = this.clock.rebase (now 0) (now 1) (1 + rate) ∧
      out.manager.stepCount = this.stepCount ∧ out.returned = [this.clock.read (now 0)] ∧
      out.taken = 2 := by
  unfold applySlew at h
  simp only [Option.bind_eq_bind, Option.bind_eq_some_iff, Option.some.injEq] at h
  obtain ⟨error, -, utc, hutc, rfl⟩ := h
  rw [getUtcEpochUs_eq hw hs hutc]
  exact ⟨_, abs_clampRate_le _, rfl, rfl, rfl, rfl, rfl⟩

theorem effect_processRttSample (hw : w.Sound) {t1 t2 t3 t4 : Int} {now : Nat → Int}
    {out : TimeOutcome ℚ} (h : this.processRttSample w t1 t2 t3 t4 now = some out) :
    CallEffect w this now out := by
  unfold processRttSample at h
  simp only [Option.bind_eq_bind, Option.bind_eq_some_iff, Option.some.injEq] at h
  obtain ⟨rtt, -, offset, -, host, -, inner, hinner, rfl⟩ := h
  split at hinner
  · cases hinner
    exact .stepped rfl rfl
  · rename_i hcond
    have hs : this.state ≠ .unsynchronized := fun hs => hcond (Or.inl hs)
    obtain ⟨slew, hslew, rfl⟩ := Option.map_eq_some_iff.1 hinner
    obtain ⟨rate, hbound, hdrift, hclock, hcount, hreturned, htaken⟩ :=
      slewed_applySlew hw (by exact hs) hslew
    exact .slewed hs rate hbound 0 hdrift hclock hcount hreturned htaken

theorem effect_processBeacon (hw : w.Sound) {masterUtcUs localRxUs : Int} {now : Nat → Int}
    {out : TimeOutcome ℚ} (h : this.processBeacon w masterUtcUs localRxUs now = some out) :
    CallEffect w this now out := by
  unfold processBeacon at h
  simp only [Option.bind_eq_bind, Option.bind_eq_some_iff, Option.some.injEq] at h
  obtain ⟨target, -, synced, hsynced, target', -, current, -, error, -, offset, -, inner, hinner,
    rfl⟩ := h
  split at hinner
  · cases hinner
    exact .stepped rfl rfl
  · rename_i hcond
    have hs : this.state ≠ .unsynchronized := fun hs => hcond (Or.inl hs)
    obtain ⟨rate, hbound, hdrift, hclock, hcount, hreturned, htaken⟩ :=
      slewed_applySlew hw (by exact hs) hinner
    have hsynced : synced = this.clock.read (now 0) := getUtcEpochUs_eq hw (by exact hs) hsynced
    refine .slewed hs rate hbound 1 hdrift hclock hcount ?_ ?_
    · rw [hsynced, hreturned]
      rfl
    · rw [htaken]

theorem effect_forceStep {offsetCorrectionUs : Int} {now : Nat → Int} {out : TimeOutcome ℚ}
    (h : this.forceStep w offsetCorrectionUs now = some out) : CallEffect w this now out := by
  unfold forceStep at h
  simp only [Option.bind_eq_bind, Option.bind_eq_some_iff, Option.some.injEq] at h
  obtain ⟨current, -, target, -, rfl⟩ := h
  exact .stepped rfl rfl

theorem sameClock_update (this : TimeManager ℚ) (deltaMs : UInt32) :
    this.SameClock (this.update deltaMs) := by
  unfold update
  split
  · rename_i hs
    refine ⟨rfl, rfl, rfl, ?_⟩
    dsimp only
    split
    · simp [hs]
    · simp [hs]
  · rename_i hs
    refine ⟨rfl, rfl, rfl, ?_⟩
    simp [hs]
  · exact ⟨rfl, rfl, rfl, Iff.rfl⟩

/-- **Every call leaves, sets or rebases the clock.** -/
theorem effect_call (hw : w.Sound) {now : Nat → Int} {c : TimeCall ℚ} {out : TimeOutcome ℚ}
    (h : this.call w now c = some out) : CallEffect w this now out := by
  cases c with
  | getUtcEpochUs =>
      obtain ⟨utc, hutc, hout⟩ := Option.bind_eq_some_iff.1 h
      cases hout
      exact .told ⟨rfl, rfl, rfl, Iff.rfl⟩ utc hutc rfl rfl
  | processRttSample t1 t2 t3 t4 => exact effect_processRttSample hw h
  | processBeacon masterUtcUs localRxUs => exact effect_processBeacon hw h
  | update deltaMs =>
      cases h
      exact .kept (sameClock_update this deltaMs) rfl rfl
  | setPiGains kp ki =>
      cases h
      exact .kept ⟨rfl, rfl, rfl, Iff.rfl⟩ rfl rfl
  | forceStep offsetCorrectionUs => exact effect_forceStep h

/-! ## Runs -/

section Runs

variable {readings : Nat → Int} {s s' s₁ s₂ : TimeManager ℚ × Nat} {c : TimeCall ℚ} {o : List Int}
  {t : List (TimeCall ℚ × List Int)}

/-- The rate is bounded, and a clock with a rate of its own was set at a reading that has been taken. -/
structure Disciplined (readings : Nat → Int) (s : TimeManager ℚ × Nat) : Prop where
  bound : |s.1.driftRate| ≤ MAX_SLEW_RATE
  behind : s.1.driftRate = 0 ∨ s.1.localRefUs ≤ readings s.2

/-- What the clock shows at the next reading. -/
def next (readings : Nat → Int) (s : TimeManager ℚ × Nat) : Int := s.1.clock.read (readings s.2)

theorem effect_step (hw : w.Sound) (h : step w readings s c = some (o, s')) :
    ∃ out, CallEffect w s.1 (fun i => readings (s.2 + i)) out ∧ o = out.returned ∧
      s' = (out.manager, s.2 + out.taken) := by
  obtain ⟨out, hout, heq⟩ := Option.bind_eq_some_iff.1 h
  cases heq
  exact ⟨out, effect_call hw hout, rfl, rfl⟩

theorem SameClock.ref {this this' : TimeManager ℚ} (h : this.SameClock this') :
    this'.localRefUs = this.localRefUs := congrArg AffineClock.ref h.clock

/-- **Every call keeps the discipline.** -/
theorem disciplined_step (hw : w.Sound) (hmono : Monotone readings) (hs : Disciplined readings s)
    (h : step w readings s c = some (o, s')) : Disciplined readings s' := by
  obtain ⟨out, heffect, -, rfl⟩ := effect_step hw h
  cases heffect with
  | kept hclock hreturned htaken =>
      refine ⟨?_, ?_⟩
      · rw [hclock.driftRate]
        exact hs.bound
      · rw [hclock.driftRate, hclock.ref, htaken]
        exact hs.behind
  | told hclock utc htold hreturned htaken =>
      refine ⟨?_, ?_⟩
      · rw [hclock.driftRate]
        exact hs.bound
      · rw [hclock.driftRate, hclock.ref]
        have hlater : readings s.2 ≤ readings (s.2 + out.taken) := hmono (Nat.le_add_right _ _)
        exact hs.behind.imp_right fun href => href.trans hlater
  | stepped hdrift hcount =>
      refine ⟨?_, Or.inl hdrift⟩
      rw [hdrift, abs_zero]
      unfold MAX_SLEW_RATE
      norm_num
  | slewed hsync rate hbound i hdrift hclock hcount hreturned htaken =>
      refine ⟨?_, Or.inr ?_⟩
      · rw [hdrift]
        exact hbound
      · have href : out.manager.localRefUs = readings (s.2 + (i + 1)) :=
          congrArg AffineClock.ref hclock
        rw [href, htaken]
        exact hmono (by omega)

theorem disciplined_run (hw : w.Sound) (hmono : Monotone readings)
    (h : Machine.Run (step w readings) (create, 0) t s) : Disciplined readings s := by
  have hstart : Disciplined readings (create, 0) := by
    refine ⟨?_, Or.inl rfl⟩
    show |(0 : ℚ)| ≤ MAX_SLEW_RATE
    unfold MAX_SLEW_RATE
    norm_num
  refine Machine.Run.invariant hstart ?_ h
  intro s c o s' hs hstep
  exact disciplined_step hw hmono hs hstep

theorem Disciplined.rate_nonneg (hs : Disciplined readings s) : 0 ≤ s.1.clock.rate := by
  obtain ⟨hpos, hlow, -⟩ := rate_bounds hs.bound
  exact hpos.trans hlow

/-! ### The times that are returned -/

/-- What a call returns lies between what the clock shows before it and after it. -/
theorem returned_step (hw : w.Sound) (hmono : Monotone readings) (hs : Disciplined readings s)
    (hsync : s.1.state ≠ .unsynchronized) (h : step w readings s c = some (o, s'))
    (hcount : s'.1.stepCount = s.1.stepCount) :
    o.Pairwise (· ≤ ·) ∧ (∀ v ∈ o, next readings s ≤ v ∧ v ≤ next readings s') ∧
      next readings s ≤ next readings s' := by
  obtain ⟨out, heffect, rfl, rfl⟩ := effect_step hw h
  have hrate := hs.rate_nonneg
  cases heffect with
  | kept hclock hreturned htaken =>
      rw [hreturned]
      refine ⟨.nil, by simp, ?_⟩
      unfold next
      rw [hclock.clock, htaken]
      exact le_refl _
  | told hclock utc htold hreturned htaken =>
      have hutc : utc = next readings s := getUtcEpochUs_eq hw hsync htold
      have hnext : next readings s ≤ s.1.clock.read (readings (s.2 + out.taken)) :=
        AffineClock.read_mono hrate (hmono (Nat.le_add_right _ _))
      rw [hreturned]
      unfold next
      rw [hclock.clock]
      refine ⟨List.pairwise_singleton _ _, ?_, hnext⟩
      intro v hv
      rw [List.mem_singleton.1 hv, hutc]
      exact ⟨le_refl _, hnext⟩
  | stepped hdrift hstepped =>
      rw [hstepped] at hcount
      exact absurd hcount (by simp)
  | slewed hsync' rate hbound i hdrift hclock hstepped hreturned htaken =>
      have hrate' : (0 : ℚ) ≤ 1 + rate := by
        obtain ⟨hpos, hlow, -⟩ := rate_bounds hbound
        exact hpos.trans hlow
      -- the clock is rebased on its reading at `i`
      have hnext : s.1.clock.read (readings (s.2 + i)) ≤
          next readings (out.manager, s.2 + out.taken) := by
        unfold next
        rw [hclock, htaken]
        exact AffineClock.read_le_rebase hrate' (hmono (by omega))
      have hread : ∀ j k : Nat, j ≤ k → s.1.clock.read (readings (s.2 + j)) ≤
          s.1.clock.read (readings (s.2 + k)) := fun j k hjk =>
        AffineClock.read_mono hrate (hmono (by omega))
      have hfrom : ∀ j : Nat, next readings s ≤ s.1.clock.read (readings (s.2 + j)) := fun j =>
        hread 0 j (Nat.zero_le j)
      rw [hreturned]
      refine ⟨?_, ?_, (hfrom i).trans hnext⟩
      · rw [List.pairwise_map]
        exact List.pairwise_lt_range.imp fun hlt => hread _ _ hlt.le
      · intro v hv
        obtain ⟨j, hj, hv⟩ := List.mem_map.1 hv
        have hji : j ≤ i := Nat.le_of_lt_succ (List.mem_range.1 hj)
        rw [← hv]
        exact ⟨hfrom j, (hread j i hji).trans hnext⟩

/-- The part of a run in which the clock is synchronised and not stepped. -/
def Steady (w : Words) (readings : Nat → Int) (s₁ : TimeManager ℚ × Nat)
    (t : List (TimeCall ℚ × List Int)) : Prop :=
  ∀ pre post s, t = pre ++ post → Machine.Run (step w readings) s₁ pre s →
    s.1.state ≠ .unsynchronized ∧ s.1.stepCount = s₁.1.stepCount

/-- **In a steady part no returned time is below an earlier one.** -/
theorem returned_run (hw : w.Sound) (hmono : Monotone readings) (hs : Disciplined readings s₁)
    (h : Machine.Run (step w readings) s₁ t s₂) (hsteady : Steady w readings s₁ t) :
    (t.flatMap (·.2)).Pairwise (· ≤ ·) ∧ Disciplined readings s₂ ∧
      ∀ v ∈ t.flatMap (·.2), v ≤ next readings s₂ := by
  induction h with
  | nil => exact ⟨.nil, hs, by simp⟩
  | @snoc u s s' c o hr hstep ih =>
      have hprefix : Steady w readings s₁ u := by
        intro pre post m hu hpre
        refine hsteady pre (post ++ [(c, o)]) m ?_ hpre
        rw [hu, List.append_assoc]
      obtain ⟨hsorted, hd, hle⟩ := ih hprefix
      obtain ⟨hsync, hcount⟩ := hsteady u [(c, o)] s rfl hr
      obtain ⟨-, hcount'⟩ := hsteady (u ++ [(c, o)]) [] s' (by simp) (hr.snoc hstep)
      obtain ⟨hsorted', hbetween, hnext⟩ :=
        returned_step hw hmono hd hsync hstep (hcount'.trans hcount.symm)
      rw [List.flatMap_append, List.flatMap_singleton]
      refine ⟨?_, disciplined_step hw hmono hd hstep, ?_⟩
      · refine List.pairwise_append.2 ⟨hsorted, hsorted', ?_⟩
        intro v hv v' hv'
        exact (hle v hv).trans (hbetween v' hv').1
      · intro v hv
        rcases List.mem_append.1 hv with hv | hv
        · exact (hle v hv).trans hnext
        · exact (hbetween v hv).2

/-! ### The pace -/

/-- What a call without a correction leaves: the clock, later. -/
theorem sameClock_step (hc : ¬ c.IsSync) (h : step w readings s c = some (o, s')) :
    s.1.SameClock s'.1 ∧ s.2 ≤ s'.2 := by
  obtain ⟨out, hout, heq⟩ := Option.bind_eq_some_iff.1 h
  cases heq
  refine ⟨?_, Nat.le_add_right _ _⟩
  cases c with
  | getUtcEpochUs =>
      obtain ⟨utc, -, hout⟩ := Option.bind_eq_some_iff.1 hout
      cases hout
      exact ⟨rfl, rfl, rfl, Iff.rfl⟩
  | update deltaMs =>
      cases hout
      exact sameClock_update s.1 deltaMs
  | setPiGains kp ki =>
      cases hout
      exact ⟨rfl, rfl, rfl, Iff.rfl⟩
  | processRttSample t1 t2 t3 t4 => exact absurd trivial hc
  | processBeacon masterUtcUs localRxUs => exact absurd trivial hc
  | forceStep offsetCorrectionUs => exact absurd trivial hc

theorem sameClock_run (h : Machine.Run (step w readings) s₁ t s₂)
    (ht : ∀ x ∈ t, ¬ x.1.IsSync) : s₁.1.SameClock s₂.1 ∧ s₁.2 ≤ s₂.2 := by
  refine Machine.Run.keep (Q := fun s => s₁.1.SameClock s.1 ∧ s₁.2 ≤ s.2)
    (K := fun x => ¬ x.1.IsSync) ?_ h ht ⟨⟨rfl, rfl, rfl, Iff.rfl⟩, le_refl _⟩
  rintro s c o s' hc ⟨hclock, hlater⟩ hstep
  obtain ⟨hclock', hlater'⟩ := sameClock_step hc hstep
  refine ⟨⟨?_, ?_, ?_, ?_⟩, hlater.trans hlater'⟩
  · rw [hclock'.clock, hclock.clock]
  · rw [hclock'.driftRate, hclock.driftRate]
  · rw [hclock'.stepCount, hclock.stepCount]
  · exact hclock'.state.trans hclock.state

/-- A reading is told of the state it leaves. -/
theorem step_getUtcEpochUs {utc : Int} (h : step w readings s .getUtcEpochUs = some ([utc], s')) :
    s.1.getUtcEpochUs w (readings s.2) = some utc ∧ s' = (s.1, s.2 + 1) := by
  obtain ⟨out, hout, heq⟩ := Option.bind_eq_some_iff.1 h
  obtain ⟨v, hv, hout⟩ := Option.bind_eq_some_iff.1 hout
  cases hout
  cases heq
  exact ⟨hv, rfl⟩

/-- **Between two corrections the clock goes at the pace of the local one**, within 500 ppm and a
microsecond. -/
theorem pace_run (hw : w.Sound) (hmono : Monotone readings) (hs : Disciplined readings s)
    {utc utc' : Int} (hget : step w readings s .getUtcEpochUs = some ([utc], s₁))
    (h : Machine.Run (step w readings) s₁ t s₂) (ht : ∀ x ∈ t, ¬ x.1.IsSync)
    (hget' : step w readings s₂ .getUtcEpochUs = some ([utc'], s')) (hpos : 0 < utc) :
    (1 - MAX_SLEW_RATE : ℚ) * (readings s₂.2 - readings s.2 : Int) - 1 ≤ (utc' - utc : Int) ∧
      ((utc' - utc : Int) : ℚ) ≤ (1 + MAX_SLEW_RATE) * (readings s₂.2 - readings s.2 : Int) + 1 := by
  obtain ⟨hutc, rfl⟩ := step_getUtcEpochUs hget
  obtain ⟨hutc', -⟩ := step_getUtcEpochUs hget'
  obtain ⟨hclock, hlater⟩ := sameClock_run h ht
  have hle : readings s.2 ≤ readings s₂.2 := hmono ((Nat.le_succ _).trans hlater)
  have hD : (0 : ℚ) ≤ (readings s₂.2 - readings s.2 : Int) := by
    exact_mod_cast Int.sub_nonneg.2 hle
  obtain ⟨hnonneg, hlow, hhigh⟩ := rate_bounds hs.bound
  have hslew : (0 : ℚ) ≤ MAX_SLEW_RATE := by
    unfold MAX_SLEW_RATE
    norm_num
  by_cases hsync : s.1.state = .unsynchronized
  · -- the local clock itself is told
    rw [getUtcEpochUs_unsynchronized hsync] at hutc
    rw [getUtcEpochUs_unsynchronized (hclock.state.2 hsync)] at hutc'
    cases hutc
    cases hutc'
    have hextra := mul_nonneg hslew hD
    constructor
    · linarith
    · linarith
  · have hsync' : s₂.1.state ≠ .unsynchronized := fun h => hsync (hclock.state.1 h)
    have hread : utc = s.1.clock.read (readings s.2) := getUtcEpochUs_eq hw hsync hutc
    have hread' : utc' = s₂.1.clock.read (readings s₂.2) := getUtcEpochUs_eq hw hsync' hutc'
    have hsame : s₂.1.clock = s.1.clock := hclock.clock
    rw [hread', hread, hsame]
    rw [hread] at hpos
    have hwhole : s.1.clock.rate = 1 ∨ s.1.clock.ref ≤ readings s.2 := by
      refine hs.behind.imp_left fun hzero => ?_
      show 1 + s.1.driftRate = 1
      rw [hzero, add_zero]
    exact AffineClock.read_advance hwhole hlow hhigh hnonneg hpos hle

/-- **The disciplined clock is monotone and its rate is bounded.**  In every run without an overflow, of any
calls, with a time source that never goes back, which is one with the words of the target too: the rate
stays within 500 ppm; in a part of the run in
which the clock is synchronised and not stepped no returned time is below an earlier one; and between two
corrections a clock that shows a positive time goes at the pace of the time source within 500 ppm and a
microsecond. -/
theorem clock_disciplined (hmono : Monotone readings)
    (h : Machine.Run (step .checked readings) (create, 0) t s) :
    Machine.Run (step .machine readings) (create, 0) t s ∧
    |s.1.driftRate| ≤ 5 / 10000 ∧
    (∀ part s', Machine.Run (step .checked readings) s part s' → Steady .checked readings s part →
      (part.flatMap (·.2)).Pairwise (· ≤ ·)) ∧
    (∀ utc s₁ part s₂ utc' s₃, step .checked readings s .getUtcEpochUs = some ([utc], s₁) →
      Machine.Run (step .checked readings) s₁ part s₂ → (∀ x ∈ part, ¬ x.1.IsSync) →
        step .checked readings s₂ .getUtcEpochUs = some ([utc'], s₃) → 0 < utc →
          9995 / 10000 * ((readings s₂.2 - readings s.2 : Int) : ℚ) - 1 ≤ (utc' - utc : Int) ∧
            ((utc' - utc : Int) : ℚ) ≤
              10005 / 10000 * ((readings s₂.2 - readings s.2 : Int) : ℚ) + 1) := by
  have hw := Words.sound_checked
  have hs := disciplined_run hw hmono h
  have hrate : (MAX_SLEW_RATE : ℚ) = 5 / 10000 := by
    unfold MAX_SLEW_RATE
    norm_num
  refine ⟨run_refines Words.checked_refines_machine h, ?_, ?_, ?_⟩
  · rw [← hrate]
    exact hs.bound
  · intro part s' hpart hsteady
    exact (returned_run hw hmono hs hpart hsteady).1
  · intro utc s₁ part s₂ utc' s₃ hget hpart hno hget' hpos
    have hpace := pace_run hw hmono hs hget hpart hno hget' hpos
    rw [hrate] at hpace
    norm_num at hpace ⊢
    exact hpace

end Runs

/-- A time source of which three readings are taken every second. -/
def everySecond (i : Nat) : Int := 1000000 * (i / 3 + 1 : Nat)

theorem everySecond_mono : Monotone everySecond := by
  intro i j hij
  have hdiv : i / 3 ≤ j / 3 := Nat.div_le_div_right hij
  unfold everySecond
  omega

/-- An exchange, then two beacons from a host whose clock gains on the local one. -/
def fastHost : List (TimeCall ℚ) :=
  [.processRttSample 1000000000 0 0 1000000000, .processBeacon 1001000050 1000000,
    .processBeacon 1002000100 2000000, .getUtcEpochUs]

/-- The clock is slewed. -/
theorem clock_disciplined_fastHost :
    ∃ t s, Machine.Run (step .checked everySecond) (create, 0) t s ∧ t.map (·.1) = fastHost ∧
      s.1.driftRate ≠ 0 ∧ |s.1.driftRate| ≤ 5 / 10000 := by
  have hexec : (Machine.exec (step .checked everySecond) (create, 0) fastHost).any
      (fun r => decide (r.2.1.driftRate ≠ 0)) = true := by
    decide +kernel
  obtain ⟨t, s, hrun, hcalls, hp⟩ := Machine.exec_any hexec
  exact ⟨t, s, hrun, hcalls, of_decide_eq_true hp, (clock_disciplined everySecond_mono hrun).2.1⟩

end TimeManager

end EmbeddedPixel
