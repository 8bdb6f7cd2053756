import EmbeddedPixel.Sys.TimeManager

/-!
# Where the arithmetic of the time manager is exact

`InRange` says of a call, from its arguments and the state before it, that no signed operation in it overflows
and that the round trip of an exchange is what the integers say.  `exact_iff` has it that this is so
exactly there, whatever stands for a `double`, and `exact_run_iff` carries it to runs of the target, whose
`double`s round.
-/

set_option autoImplicit false

namespace EmbeddedPixel

open Foundation Words

namespace TimeManager

variable {R : Type} [Doubles R] (this : TimeManager R)

/-! ## What the clock shows -/

/-- What the clock has counted since its reference; nothing if it is not a number. -/
def advance (tLocal : Int) : Option Int :=
  Doubles.toInt (Doubles.ofInt (wrap (tLocal - this.localRefUs)) * (1 + this.driftRate))

/-- What `get_utc_epoch_us` is to return. -/
def told (tLocal : Int) : Int :=
  if this.state = .unsynchronized then tLocal
  else max 0 (wrap this.epochBaseUs + (this.advance tLocal).getD 0)

/-- The clock can be read without an overflow. -/
def Readable (tLocal : Int) : Prop :=
  this.state = .unsynchronized ∨
    ∃ elapsed, this.advance tLocal = some elapsed ∧ Fits elapsed ∧
      Fits (wrap this.epochBaseUs + elapsed)

variable {this} in
/-- **`get_utc_epoch_us` overflows, or returns what it is to return.** -/
theorem getUtcEpochUs_eq_some {tLocal utc : Int} :
    this.getUtcEpochUs .machine tLocal = some utc ↔ this.Readable tLocal ∧ utc = this.told tLocal := by
  unfold getUtcEpochUs Readable told
  by_cases hs : this.state = .unsynchronized
  · simp [hs, eq_comm]
  · simp only [hs, if_false, false_or, machine_toI64, Option.bind_eq_bind, Option.bind_some,
      Option.bind_eq_some_iff, machine_i64_eq_some, Option.some.injEq]
    have hmax : ∀ x : Int, (if x > 0 then x else 0) = max 0 x := by
      intro x
      split
      · omega
      · omega
    constructor
    · rintro ⟨elapsed, helapsed, adjusted, ⟨hfits, rfl⟩, sum, ⟨hsum, rfl⟩, rfl⟩
      have hadvance : this.advance tLocal = some adjusted := helapsed
      refine ⟨⟨adjusted, hadvance, hfits, hsum⟩, ?_⟩
      rw [hadvance, Option.getD_some]
      exact hmax _
    · rintro ⟨⟨elapsed, hadvance, hfits, hsum⟩, rfl⟩
      refine ⟨elapsed, hadvance, elapsed, ⟨hfits, rfl⟩, _, ⟨hsum, rfl⟩, ?_⟩
      rw [hadvance, Option.getD_some]
      exact hmax _

/-! ## Where a call overflows nowhere -/

/-- `t4 - t1` less `t3 - t2`, both as signed words. -/
def rttWord (t1 t2 t3 t4 : Int) : Int := wrap (t4 - t1) - wrap (t3 - t2)

/-- The sum of `t2 - t1` and `t3 - t4`, both as signed words. -/
def offsetWord (t1 t2 t3 t4 : Int) : Int := wrap (t2 - t1) + wrap (t3 - t4)

/-- How far the clock is behind a beacon, both times as signed words. -/
def phaseWord (masterUtcUs tLocal : Int) : Int :=
  wrap (masterUtcUs + (this.lastRttUs / 2).toNat) - wrap (this.told tLocal)

/-- An error by which the clock is slewed. -/
def SlewsBy (errorUs : Int) : Prop :=
  ¬ (this.state = .unsynchronized ∨ |errorUs| > STEP_THRESHOLD_US)

/-- An exchange that overflows nowhere. -/
structure SampleFits (t1 t2 t3 t4 : Int) (now : Nat → Int) : Prop where
  rtt : Fits (rttWord t1 t2 t3 t4)
  offset : Fits (offsetWord t1 t2 t3 t4)
  reading : this.SlewsBy ((offsetWord t1 t2 t3 t4).tdiv 2) → this.Readable (now 0)

/-- A beacon that overflows nowhere. -/
structure BeaconFits (masterUtcUs : Int) (now : Nat → Int) : Prop where
  reading : this.Readable (now 0)
  phase : |this.phaseWord masterUtcUs (now 0)| < 2 ^ 63
  slew : this.SlewsBy (this.phaseWord masterUtcUs (now 0)) → this.Readable (now 1)

variable {this}

theorem applySlew_some_iff {offsetUs : Int} {now : Nat → Int} :
    (∃ out, this.applySlew .machine offsetUs now = some out) ↔
      Fits (-offsetUs) ∧ this.Readable (now 0) := by
  unfold applySlew
  simp only [Option.bind_eq_bind, Option.bind_eq_some_iff, machine_i64_eq_some,
    getUtcEpochUs_eq_some, Option.some.injEq]
  constructor
  · rintro ⟨out, error, ⟨hfits, -⟩, utc, ⟨hread, -⟩, -⟩
    exact ⟨hfits, hread⟩
  · rintro ⟨hfits, hread⟩
    exact ⟨_, _, ⟨hfits, rfl⟩, _, ⟨hread, rfl⟩, rfl⟩

theorem rttOf_eq_some {t1 t2 t3 t4 rtt : Int} :
    rttOf .machine t1 t2 t3 t4 = some rtt ↔
      Fits (rttWord t1 t2 t3 t4) ∧ rtt = max 0 (rttWord t1 t2 t3 t4) := by
  have hmax : ∀ x : Int, (if x < 0 then 0 else x) = max 0 x := by
    intro x
    split
    · omega
    · omega
  unfold rttOf rttWord
  simp only [machine_toI64, Option.bind_eq_bind, Option.bind_some, Option.bind_eq_some_iff,
    machine_i64_eq_some, Option.some.injEq]
  constructor
  · rintro ⟨diff, ⟨hfits, rfl⟩, rfl⟩
    exact ⟨hfits, hmax _⟩
  · rintro ⟨hfits, rfl⟩
    exact ⟨_, ⟨hfits, rfl⟩, hmax _⟩

theorem offsetOf_eq_some {t1 t2 t3 t4 offset : Int} :
    offsetOf .machine t1 t2 t3 t4 = some offset ↔
      Fits (offsetWord t1 t2 t3 t4) ∧ offset = (offsetWord t1 t2 t3 t4).tdiv 2 := by
  unfold offsetOf offsetWord
  simp only [machine_toI64, Option.bind_eq_bind, Option.bind_some, Option.bind_eq_some_iff,
    machine_i64_eq_some, Option.some.injEq]
  constructor
  · rintro ⟨sum, ⟨hfits, rfl⟩, rfl⟩
    exact ⟨hfits, rfl⟩
  · rintro ⟨hfits, rfl⟩
    exact ⟨_, ⟨hfits, rfl⟩, rfl⟩

omit [Doubles R] in
/-- A small error has a negation. -/
theorem SlewsBy.fits_neg {errorUs : Int} (h : this.SlewsBy errorUs) : Fits (-errorUs) := by
  have hle : |errorUs| ≤ STEP_THRESHOLD_US := not_lt.1 fun hlt => h (Or.inr hlt)
  have hbound : STEP_THRESHOLD_US = 100000 := rfl
  rw [abs_le, hbound] at hle
  constructor
  · omega
  · omega

omit [Doubles R] in
/-- An exchange and a beacon step the clock or slew it. -/
theorem corrected_some {errorUs : Int} {slewed : Option (TimeOutcome R)}
    (h : this.SlewsBy errorUs → ∃ out, slewed = some out) (stepped : TimeOutcome R) :
    ∃ out, (if this.state = .unsynchronized ∨ |errorUs| > STEP_THRESHOLD_US then some stepped
      else slewed) = some out := by
  by_cases hslew : this.SlewsBy errorUs
  · rw [if_neg hslew]
    exact h hslew
  · rw [if_pos (not_not.1 hslew)]
    exact ⟨_, rfl⟩

/-- **Where an exchange overflows nowhere.** -/
theorem processRttSample_some_iff {t1 t2 t3 t4 : Int} {now : Nat → Int} :
    (∃ out, this.processRttSample .machine t1 t2 t3 t4 now = some out) ↔
      this.SampleFits t1 t2 t3 t4 now := by
  unfold processRttSample
  simp only [Option.bind_eq_bind, Option.bind_eq_some_iff, rttOf_eq_some, offsetOf_eq_some,
    machine_u64, Option.some.injEq]
  constructor
  · rintro ⟨out, rtt, ⟨hrtt, -⟩, offset, ⟨hoffset, rfl⟩, host, -, inner, hinner, -⟩
    refine ⟨hrtt, hoffset, fun hslew => ?_⟩
    rw [if_neg (by exact hslew)] at hinner
    obtain ⟨slew, hslew', -⟩ := Option.map_eq_some_iff.1 hinner
    exact (applySlew_some_iff.1 ⟨slew, hslew'⟩).2
  · rintro ⟨hrtt, hoffset, hread⟩
    let sampled : TimeManager R :=
      { this with
        lastRttUs := UInt32.ofInt (max 0 (rttWord t1 t2 t3 t4))
        lastOffsetUs := (offsetWord t1 t2 t3 t4).tdiv 2
        syncCount := this.syncCount + 1
        holdoverElapsedMs := 0 }
    have hslewed : this.SlewsBy ((offsetWord t1 t2 t3 t4).tdiv 2) → ∃ out,
        ((sampled.applySlew .machine ((offsetWord t1 t2 t3 t4).tdiv 2) now).map fun out =>
          { out with manager := { out.manager with state := .locked } }) = some out := by
      intro hslew
      have hread' : sampled.Readable (now 0) := hread hslew
      obtain ⟨slew, hslew'⟩ := applySlew_some_iff.2 ⟨hslew.fits_neg, hread'⟩
      exact ⟨_, Option.map_eq_some_iff.2 ⟨slew, hslew', rfl⟩⟩
    obtain ⟨inner, hinner⟩ := corrected_some hslewed _
    exact ⟨_, _, ⟨hrtt, rfl⟩, _, ⟨hoffset, rfl⟩, _, rfl, inner, hinner, rfl⟩

theorem fits_and_neg {x : Int} : Fits x ∧ Fits (-x) ↔ |x| < 2 ^ 63 := by
  unfold Fits
  rw [abs_lt]
  constructor
  · rintro ⟨⟨hlow, hhigh⟩, hlow', hhigh'⟩
    constructor
    · omega
    · omega
  · rintro ⟨hlow, hhigh⟩
    refine ⟨⟨?_, ?_⟩, ?_, ?_⟩
    all_goals omega

/-- **Where a beacon overflows nowhere.** -/
theorem processBeacon_some_iff {masterUtcUs localRxUs : Int} {now : Nat → Int} :
    (∃ out, this.processBeacon .machine masterUtcUs localRxUs now = some out) ↔
      this.BeaconFits masterUtcUs now := by
  unfold processBeacon
  simp only [Option.bind_eq_bind, Option.bind_some, Option.bind_eq_some_iff, getUtcEpochUs_eq_some,
    machine_u64, machine_toI64, wrap_emod, machine_i64_eq_some, Option.some.injEq]
  constructor
  · rintro ⟨out, synced, ⟨hread, rfl⟩, error, ⟨hfits, rfl⟩, offset, ⟨hneg, rfl⟩, inner, hinner, -⟩
    refine ⟨hread, fits_and_neg.1 ⟨hfits, hneg⟩, fun hslew => ?_⟩
    rw [if_neg (by exact hslew)] at hinner
    exact (applySlew_some_iff.1 ⟨inner, hinner⟩).2
  · rintro ⟨hread, hphase, hslew⟩
    obtain ⟨hfits, hneg⟩ := fits_and_neg.2 hphase
    let counted : TimeManager R :=
      { this with
        beaconCount := this.beaconCount + 1
        holdoverElapsedMs := 0
        lastOffsetUs := -this.phaseWord masterUtcUs (now 0) }
    have hslewed : this.SlewsBy (this.phaseWord masterUtcUs (now 0)) → ∃ out,
        counted.applySlew .machine (-this.phaseWord masterUtcUs (now 0)) (fun i => now (i + 1)) =
          some out := by
      intro hs
      rw [applySlew_some_iff, neg_neg]
      exact ⟨hfits, hslew hs⟩
    obtain ⟨inner, hinner⟩ := corrected_some hslewed _
    exact ⟨_, _, ⟨hread, rfl⟩, _, ⟨hfits, rfl⟩, _, ⟨hneg, rfl⟩, inner, hinner, rfl⟩

/-! ## Exact calls -/

/-- The round trip of an exchange over the integers. -/
def roundTrip (t1 t2 t3 t4 : Int) : Int := t4 - t1 - (t3 - t2)

/-- A round trip that 32 bits hold, and whose sign 64 bits do. -/
def RoundTripFits (rtt : Int) : Prop := rtt < 2 ^ 32 ∧ (0 ≤ rtt ∨ wrap rtt ≤ 0 ∨ rtt % 2 ^ 32 = 0)

/-- No signed operation of the call overflows, and an exchange stores its round trip. -/
def Exact (this : TimeManager R) (now : Nat → Int) (c : TimeCall R) : Prop :=
  ∃ out, this.call .machine now c = some out ∧ ∀ t1 t2 t3 t4, c = .processRttSample t1 t2 t3 t4 →
    (out.manager.lastRttUs.toNat : Int) = max 0 (roundTrip t1 t2 t3 t4)

/-- The arguments of the call are within the range of the arithmetic. -/
def InRange (this : TimeManager R) (now : Nat → Int) : TimeCall R → Prop
  | .getUtcEpochUs => this.Readable (now 0)
  | .processRttSample t1 t2 t3 t4 =>
    this.SampleFits t1 t2 t3 t4 now ∧ RoundTripFits (roundTrip t1 t2 t3 t4)
  | .processBeacon masterUtcUs _ => this.BeaconFits masterUtcUs now
  | .forceStep _ => this.Readable (now 0)
  | .update _ => True
  | .setPiGains _ _ => True

/-- The round trip an exchange stores. -/
theorem lastRttUs_of_sample {t1 t2 t3 t4 : Int} {now : Nat → Int} {out : TimeOutcome R}
    (h : this.processRttSample .machine t1 t2 t3 t4 now = some out) :
    (out.manager.lastRttUs.toNat : Int) = max 0 (rttWord t1 t2 t3 t4) % 2 ^ 32 := by
  unfold processRttSample at h
  simp only [Option.bind_eq_bind, Option.bind_eq_some_iff, rttOf_eq_some, Option.some.injEq] at h
  obtain ⟨rtt, ⟨-, rfl⟩, offset, -, host, -, inner, hinner, rfl⟩ := h
  split at hinner
  · cases hinner
    exact toNat_ofInt _
  · obtain ⟨slew, hslew, rfl⟩ := Option.map_eq_some_iff.1 hinner
    unfold applySlew at hslew
    simp only [Option.bind_eq_bind, Option.bind_eq_some_iff, Option.some.injEq] at hslew
    obtain ⟨error, -, utc, -, rfl⟩ := hslew
    exact toNat_ofInt _

/-- **Which round trips are stored as they are.** -/
theorem stored_iff {t1 t2 t3 t4 : Int} (h : Fits (rttWord t1 t2 t3 t4)) :
    max 0 (rttWord t1 t2 t3 t4) % 2 ^ 32 = max 0 (roundTrip t1 t2 t3 t4) ↔
      RoundTripFits (roundTrip t1 t2 t3 t4) := by
  -- the words differ from the integers by whole turns
  have hword : rttWord t1 t2 t3 t4 = wrap (roundTrip t1 t2 t3 t4) := by
    obtain ⟨-, -, turns, hhost⟩ := machine_toI64_eq (machine_toI64 (t4 - t1))
    obtain ⟨-, -, turns', hnode⟩ := machine_toI64_eq (machine_toI64 (t3 - t2))
    obtain ⟨hlow, hhigh, turns'', htrip⟩ :=
      machine_toI64_eq (machine_toI64 (roundTrip t1 t2 t3 t4))
    obtain ⟨hlow', hhigh'⟩ := h
    unfold rttWord at hlow' hhigh' ⊢
    unfold roundTrip at htrip hlow hhigh ⊢
    omega
  obtain ⟨hlow, hhigh, turns, htrip⟩ := machine_toI64_eq (machine_toI64 (roundTrip t1 t2 t3 t4))
  rw [hword]
  unfold RoundTripFits
  omega

/-- **Which calls are exact.** -/
theorem exact_iff {now : Nat → Int} {c : TimeCall R} : this.Exact now c ↔ this.InRange now c := by
  cases c with
  | getUtcEpochUs =>
      constructor
      · rintro ⟨out, hout, -⟩
        obtain ⟨utc, hutc, -⟩ := Option.bind_eq_some_iff.1 hout
        exact (getUtcEpochUs_eq_some.1 hutc).1
      · intro hread
        have hutc := getUtcEpochUs_eq_some.2 ⟨hread, rfl⟩
        exact ⟨_, Option.bind_eq_some_iff.2 ⟨_, hutc, rfl⟩, fun _ _ _ _ h => by cases h⟩
  | processRttSample t1 t2 t3 t4 =>
      constructor
      · rintro ⟨out, hout, htrip⟩
        have hfits := processRttSample_some_iff.1 ⟨out, hout⟩
        refine ⟨hfits, (stored_iff hfits.rtt).1 ?_⟩
        rw [← lastRttUs_of_sample hout]
        exact htrip t1 t2 t3 t4 rfl
      · rintro ⟨hfits, htrip⟩
        obtain ⟨out, hout⟩ := processRttSample_some_iff.2 hfits
        refine ⟨out, hout, fun _ _ _ _ h => ?_⟩
        cases h
        rw [lastRttUs_of_sample hout]
        exact (stored_iff hfits.rtt).2 htrip
  | processBeacon masterUtcUs localRxUs =>
      constructor
      · rintro ⟨out, hout, -⟩
        exact processBeacon_some_iff.1 ⟨out, hout⟩
      · intro hfits
        obtain ⟨out, hout⟩ := processBeacon_some_iff.2 hfits
        exact ⟨out, hout, fun _ _ _ _ h => by cases h⟩
  | forceStep offsetCorrectionUs =>
      constructor
      · rintro ⟨out, hout, -⟩
        obtain ⟨utc, hutc, -⟩ := Option.bind_eq_some_iff.1 hout
        exact (getUtcEpochUs_eq_some.1 hutc).1
      · intro hread
        have hutc := getUtcEpochUs_eq_some.2 ⟨hread, rfl⟩
        exact ⟨_, Option.bind_eq_some_iff.2 ⟨_, hutc, rfl⟩, fun _ _ _ _ h => by cases h⟩
  | update deltaMs => exact iff_of_true ⟨_, rfl, fun _ _ _ _ h => by cases h⟩ trivial
  | setPiGains kp ki => exact iff_of_true ⟨_, rfl, fun _ _ _ _ h => by cases h⟩ trivial

/-- **When a run is exact.**  A list of calls is carried out to its end without an overflow, every exchange
storing its round trip, exactly if every call is within the range of the arithmetic in the state in
which it is made. -/
theorem exact_run_iff (readings : Nat → Int) (calls : List (TimeCall Double)) :
    (∃ t s, Machine.Run (step .machine readings) (create, 0) t s ∧ t.map (·.1) = calls ∧
      ∀ pre c o post s₁, t = pre ++ (c, o) :: post →
        Machine.Run (step .machine readings) (create, 0) pre s₁ →
          s₁.1.Exact (fun i => readings (s₁.2 + i)) c) ↔
    ∀ pre c post t s, calls = pre ++ c :: post →
      Machine.Run (step .machine readings) (create, 0) t s → t.map (·.1) = pre →
        s.1.InRange (fun i => readings (s.2 + i)) c := by
  have hcomplete := Machine.complete_iff (step .machine readings) (create, 0)
    (fun s c => s.1.Exact (fun i => readings (s.2 + i)) c) (fun s c hexact => by
      obtain ⟨out, hout, -⟩ := hexact
      exact ⟨_, Option.bind_eq_some_iff.2 ⟨out, hout, rfl⟩⟩) calls
  simpa only [exact_iff] using hcomplete

/-- A beacon of 2 ^ 62 leaves a clock whose elapsed time rounds up to 2 ^ 62, and the sum overflows. -/
example : ((create : TimeManager Double).processBeacon .machine (2 ^ 62) (2 ^ 64 - 2 ^ 62 + 1)
    fun _ => 0).map (fun out => out.manager.getUtcEpochUs .machine 0) = some none := by
  decide +kernel

/-- A new node overflows on the round trip of one exchange, and loses the upper half of that of another. -/
theorem exact_fails :
    (¬ ∀ (readings : Nat → Int) (t : List (TimeCall Double × List Int)) (s : TimeManager Double × Nat)
      (t1 t2 t3 t4 : Int), Machine.Run (step .machine readings) (create, 0) t s →
        (∀ x ∈ [t1, t2, t3, t4], 0 ≤ x ∧ x < 2 ^ 64) →
          ∃ out, s.1.call .machine (fun i => readings (s.2 + i)) (.processRttSample t1 t2 t3 t4) =
            some out) ∧
    ¬ ∀ (readings : Nat → Int) (t : List (TimeCall Double × List Int)) (s : TimeManager Double × Nat)
      (t1 t2 t3 t4 : Int) (out : TimeOutcome Double),
        Machine.Run (step .machine readings) (create, 0) t s →
          (∀ x ∈ [t1, t2, t3, t4], 0 ≤ x ∧ x < 2 ^ 64) →
            s.1.call .machine (fun i => readings (s.2 + i)) (.processRttSample t1 t2 t3 t4) =
              some out →
            (out.manager.lastRttUs.toNat : Int) = max 0 (t4 - t1 - (t3 - t2)) := by
  constructor
  · intro h
    have hfits := processRttSample_some_iff.1
      (h (fun _ => 0) [] (create, 0) 0 1 0 (2 ^ 63 - 1) .nil (by decide))
    exact absurd hfits.rtt (by decide)
  · intro h
    have hfits : (create : TimeManager Double).SampleFits 0 0 0 (2 ^ 32) fun _ => 0 :=
      ⟨by decide, by decide, fun hslew => absurd (Or.inl rfl) hslew⟩
    obtain ⟨out, hout⟩ := processRttSample_some_iff.2 hfits
    have hlast := lastRttUs_of_sample hout
    rw [h (fun _ => 0) [] (create, 0) 0 0 0 (2 ^ 32) out .nil (by decide) hout] at hlast
    exact absurd hlast (by decide)

end TimeManager

end EmbeddedPixel
