import EmbeddedPixel.Sys.TimeManager

/-!
# Holdover

`update` counts the time since the last exchange or beacon, but only while the clock is locked:
`holdover_iff` says in which runs the state is `HOLDOVER`.
-/

set_option autoImplicit false

namespace EmbeddedPixel

open Foundation

/-- A call, or `init`. -/
inductive TimeAction (R : Type) where
  | init
  | call (c : TimeCall R)

namespace TimeAction

variable {R : Type}

/-- An exchange or a beacon. -/
def IsSample : TimeAction R → Prop
  | .call (.processRttSample ..) => True
  | .call (.processBeacon ..) => True
  | _ => False

/-- Neither a sample nor `init`. -/
def IsQuiet (a : TimeAction R) : Prop := ¬ a.IsSample ∧ a ≠ .init

/-- The milliseconds an action counts. -/
def deltaMs : TimeAction R → Nat
  | .call (.update deltaMs) => deltaMs.toNat
  | _ => 0

/-- A sample that locks the clock: a beacon, or an exchange that does not step it. -/
def Locks (a : TimeAction R) (this this' : TimeManager R) : Prop :=
  match a with
  | .call (.processRttSample ..) => this'.stepCount = this.stepCount
  | .call (.processBeacon ..) => True
  | _ => False

theorem Locks.isSample {a : TimeAction R} {this this' : TimeManager R} (h : a.Locks this this') :
    a.IsSample := by
  cases a with
  | init => exact h
  | call c =>
      cases c with
      | processRttSample t1 t2 t3 t4 => trivial
      | processBeacon masterUtcUs localRxUs => trivial
      | _ => exact h

end TimeAction

/-- The milliseconds counted in a run. -/
def elapsedMs {R : Type} (t : List (TimeAction R × List Int)) : Nat := (t.map fun x => x.1.deltaMs).sum

namespace TimeManager

variable {R : Type} [Doubles R] {w : Words} {readings : Nat → Int} {s s' s₀ : TimeManager R × Nat}
  {a : TimeAction R} {o : List Int} {t : List (TimeAction R × List Int)}

/-- One action; the time source starts anew with `init`, in the readings to come. -/
def act (w : Words) (readings : Nat → Int) (s : TimeManager R × Nat) :
    TimeAction R → Option (List Int × (TimeManager R × Nat))
  | .init => some ([], (s.1.init, s.2))
  | .call c => step w readings s c

/-! ## What an action does to the timer -/

/-- The clock coasts: it is locked as long as the time counted is below the timeout. -/
def Coasts (sum : Nat) (this : TimeManager R) : Prop :=
  this.state = .locked ∧ this.holdoverElapsedMs.toNat = sum ∧ sum < HOLDOVER_TIMEOUT_MS.toNat ∨
    this.state = .holdover ∧ HOLDOVER_TIMEOUT_MS.toNat ≤ sum

/-- The clock does not coast. -/
def Idle (this : TimeManager R) : Prop := this.state = .unsynchronized ∨ this.state = .calibrating

/-- An exchange that steps the clock leaves it calibrating, one that slews it locked. -/
theorem state_processRttSample {this : TimeManager R} {t1 t2 t3 t4 : Int} {now : Nat → Int}
    {out : TimeOutcome R} (h : this.processRttSample w t1 t2 t3 t4 now = some out) :
    out.manager.state = .calibrating ∧ out.manager.stepCount = this.stepCount + 1 ∨
      out.manager.state = .locked ∧ out.manager.stepCount = this.stepCount ∧
        out.manager.holdoverElapsedMs = 0 := by
  unfold processRttSample at h
  simp only [Option.bind_eq_bind, Option.bind_eq_some_iff, Option.some.injEq] at h
  obtain ⟨rtt, -, offset, -, host, -, inner, hinner, rfl⟩ := h
  split at hinner
  · cases hinner
    exact Or.inl ⟨rfl, rfl⟩
  · obtain ⟨slew, hslew, rfl⟩ := Option.map_eq_some_iff.1 hinner
    unfold applySlew at hslew
    simp only [Option.bind_eq_bind, Option.bind_eq_some_iff, Option.some.injEq] at hslew
    obtain ⟨error, -, utc, -, rfl⟩ := hslew
    exact Or.inr ⟨rfl, rfl, rfl⟩

theorem state_processBeacon {this : TimeManager R} {masterUtcUs localRxUs : Int} {now : Nat → Int}
    {out : TimeOutcome R} (h : this.processBeacon w masterUtcUs localRxUs now = some out) :
    out.manager.state = .locked ∧ out.manager.holdoverElapsedMs = 0 := by
  unfold processBeacon at h
  simp only [Option.bind_eq_bind, Option.bind_eq_some_iff, Option.some.injEq] at h
  obtain ⟨target, -, synced, -, target', -, current, -, error, -, offset, -, inner, hinner, rfl⟩ := h
  refine ⟨rfl, ?_⟩
  split at hinner
  · cases hinner
    rfl
  · unfold applySlew at hinner
    simp only [Option.bind_eq_bind, Option.bind_eq_some_iff, Option.some.injEq] at hinner
    obtain ⟨error, -, utc, -, rfl⟩ := hinner
    rfl

/-- **A sample sets the timer**: where it locks the clock the clock coasts from now on, else it is
idle. -/
theorem sample_cases (ha : a.IsSample) (h : act w readings s a = some (o, s')) :
    a.Locks s.1 s'.1 ∧ Coasts 0 s'.1 ∨ ¬ a.Locks s.1 s'.1 ∧ Idle s'.1 := by
  have hcoasts : ∀ this : TimeManager R, this.state = .locked → this.holdoverElapsedMs = 0 →
      Coasts 0 this := fun this hstate helapsed => by
    refine Or.inl ⟨hstate, ?_, by decide⟩
    rw [helapsed]
    rfl
  cases a with
  | init => exact ha.elim
  | call c =>
      obtain ⟨out, hout, heq⟩ := Option.bind_eq_some_iff.1 h
      cases heq
      cases c with
      | processRttSample t1 t2 t3 t4 =>
          rcases state_processRttSample hout with ⟨hstate, hstep⟩ | ⟨hstate, hstep, helapsed⟩
          · refine Or.inr ⟨fun hsame => ?_, Or.inr hstate⟩
            have hne : s.1.stepCount + 1 ≠ s.1.stepCount := by simp
            exact hne (hstep.symm.trans hsame)
          · exact Or.inl ⟨hstep, hcoasts _ hstate helapsed⟩
      | processBeacon masterUtcUs localRxUs =>
          have hbeacon : s.1.processBeacon w masterUtcUs localRxUs (fun i => readings (s.2 + i)) =
              some out := hout
          obtain ⟨hstate, helapsed⟩ := state_processBeacon hbeacon
          exact Or.inl ⟨trivial, hcoasts _ hstate helapsed⟩
      | _ => exact ha.elim

/-- A quiet action is an update, or leaves the timer alone. -/
theorem quiet_cases (ha : a.IsQuiet) (h : act w readings s a = some (o, s')) :
    (∃ deltaMs, a = .call (.update deltaMs) ∧ s'.1 = s.1.update deltaMs) ∨
      a.deltaMs = 0 ∧ s'.1.state = s.1.state ∧ s'.1.holdoverElapsedMs = s.1.holdoverElapsedMs := by
  cases a with
  | init => exact absurd rfl ha.2
  | call c =>
      obtain ⟨out, hout, heq⟩ := Option.bind_eq_some_iff.1 h
      cases heq
      cases c with
      | getUtcEpochUs =>
          obtain ⟨utc, -, hout⟩ := Option.bind_eq_some_iff.1 hout
          cases hout
          exact Or.inr ⟨rfl, rfl, rfl⟩
      | update deltaMs =>
          cases hout
          exact Or.inl ⟨deltaMs, rfl, rfl⟩
      | setPiGains kp ki =>
          cases hout
          exact Or.inr ⟨rfl, rfl, rfl⟩
      | forceStep offsetCorrectionUs =>
          simp only [call, forceStep, Option.bind_eq_bind, Option.bind_eq_some_iff,
            Option.some.injEq] at hout
          obtain ⟨utc, -, target, -, rfl⟩ := hout
          exact Or.inr ⟨rfl, rfl, rfl⟩
      | processRttSample t1 t2 t3 t4 => exact absurd trivial ha.1
      | processBeacon masterUtcUs localRxUs => exact absurd trivial ha.1

omit [Doubles R] in
/-- An update counts on, unless its delta wraps the counter around. -/
theorem coasts_update {sum : Nat} {this : TimeManager R} (h : Coasts sum this) {deltaMs : UInt32}
    (hsmall : deltaMs.toNat ≤ 2 ^ 32 - HOLDOVER_TIMEOUT_MS.toNat) :
    Coasts (sum + deltaMs.toNat) (this.update deltaMs) := by
  have htimeout : HOLDOVER_TIMEOUT_MS.toNat = 5000 := rfl
  rw [htimeout] at hsmall
  rcases h with ⟨hstate, helapsed, hlt⟩ | ⟨hstate, hle⟩
  · rw [htimeout] at hlt
    have hsum : (this.holdoverElapsedMs + deltaMs).toNat = sum + deltaMs.toNat := by
      rw [UInt32.toNat_add, helapsed]
      omega
    unfold update
    rw [hstate]
    dsimp only
    by_cases hover : this.holdoverElapsedMs + deltaMs ≥ HOLDOVER_TIMEOUT_MS
    · rw [if_pos hover]
      refine Or.inr ⟨rfl, ?_⟩
      rw [← hsum]
      exact UInt32.le_iff_toNat_le.1 hover
    · rw [if_neg hover]
      refine Or.inl ⟨rfl, hsum, ?_⟩
      rw [← hsum]
      exact UInt32.lt_iff_toNat_lt.1 (UInt32.not_le.1 hover)
  · unfold update
    rw [hstate]
    exact Or.inr ⟨rfl, hle.trans (Nat.le_add_right _ _)⟩

theorem coasts_quiet {sum : Nat} (hs : Coasts sum s.1) (ha : a.IsQuiet)
    (hsmall : a.deltaMs ≤ 2 ^ 32 - HOLDOVER_TIMEOUT_MS.toNat)
    (h : act w readings s a = some (o, s')) : Coasts (sum + a.deltaMs) s'.1 := by
  rcases quiet_cases ha h with ⟨deltaMs, rfl, hs'⟩ | ⟨hzero, hstate, helapsed⟩
  · rw [hs']
    exact coasts_update hs hsmall
  · rw [hzero, Nat.add_zero]
    unfold Coasts
    rw [hstate, helapsed]
    exact hs

theorem idle_quiet (hs : Idle s.1) (ha : a.IsQuiet) (h : act w readings s a = some (o, s')) :
    Idle s'.1 := by
  rcases quiet_cases ha h with ⟨deltaMs, -, hs'⟩ | ⟨-, hstate, -⟩
  · rw [hs']
    rcases hs with hs | hs
    · unfold update
      rw [hs]
      exact Or.inl hs
    · unfold update
      rw [hs]
      exact Or.inr hs
  · unfold Idle
    rw [hstate]
    exact hs

/-! ## Runs -/

theorem coasts_run {sum : Nat} (hs : Coasts sum s₀.1) (h : Machine.Run (act w readings) s₀ t s)
    (hquiet : ∀ x ∈ t, x.1.IsQuiet)
    (hsmall : ∀ x ∈ t, x.1.deltaMs ≤ 2 ^ 32 - HOLDOVER_TIMEOUT_MS.toNat) :
    Coasts (sum + elapsedMs t) s.1 := by
  induction h with
  | nil => exact hs
  | @snoc t s s' a o _ hstep ih =>
      have hsum : sum + elapsedMs (t ++ [(a, o)]) = sum + elapsedMs t + a.deltaMs := by
        unfold elapsedMs
        rw [List.map_append, List.sum_append, List.map_singleton, List.sum_singleton, Nat.add_assoc]
      rw [hsum]
      refine coasts_quiet (ih ?_ ?_) (hquiet (a, o) (by simp)) (hsmall (a, o) (by simp)) hstep
      · exact fun x hx => hquiet x (List.mem_append_left _ hx)
      · exact fun x hx => hsmall x (List.mem_append_left _ hx)

theorem idle_run (hs : Idle s₀.1) (h : Machine.Run (act w readings) s₀ t s)
    (hquiet : ∀ x ∈ t, x.1.IsQuiet) : Idle s.1 :=
  Machine.Run.keep (Q := fun s => Idle s.1) (K := fun x => x.1.IsQuiet)
    (fun _ _ _ _ ha hs hstep => idle_quiet hs ha hstep) h hquiet hs

omit [Doubles R] in
theorem not_holdover_of_idle {this : TimeManager R} (h : Idle this) : this.state ≠ .holdover := by
  rcases h with h | h
  · rw [h]
    decide
  · rw [h]
    decide

/-- The last sample since `init` locked the clock, and the time counted since is not below the timeout. -/
def Stale (w : Words) (readings : Nat → Int) (t : List (TimeAction R × List Int)) : Prop :=
  ∃ pre a o post s₁ s₂, t = pre ++ (a, o) :: post ∧
    Machine.Run (act w readings) (create, 0) pre s₁ ∧ act w readings s₁ a = some (o, s₂) ∧
      a.Locks s₁.1 s₂.1 ∧ (∀ x ∈ post, x.1.IsQuiet) ∧ HOLDOVER_TIMEOUT_MS.toNat ≤ elapsedMs post

/-- **When the clock is in holdover**: exactly if it is stale, in every run in which no delta wraps the
counter around. -/
theorem holdover_iff (h : Machine.Run (act w readings) (create, 0) t s)
    (hsmall : ∀ x ∈ t, x.1.deltaMs ≤ 2 ^ 32 - HOLDOVER_TIMEOUT_MS.toNat) :
    s.1.state = .holdover ↔ Stale w readings t := by
  constructor
  · intro hstate
    rcases Machine.Run.last_entry h (fun x => ¬ x.1.IsQuiet) with
      hquiet | ⟨pre, a, o, post, s₁, s₂, rfl, ha, hquiet, hpre, hstep, hpost⟩
    · have hidle := idle_run (Or.inl rfl) h fun x hx => not_not.1 (hquiet x hx)
      exact absurd hstate (not_holdover_of_idle hidle)
    · have hquiet' : ∀ x ∈ post, x.1.IsQuiet := fun x hx => not_not.1 (hquiet x hx)
      have hnever : ¬ Idle s₂.1 := fun hidle =>
        not_holdover_of_idle (idle_run hidle hpost hquiet') hstate
      by_cases hsample : a.IsSample
      · rcases sample_cases hsample hstep with ⟨hlocks, hcoasts⟩ | ⟨-, hidle⟩
        · have hafter := coasts_run hcoasts hpost hquiet' fun x hx => hsmall x (by simp [hx])
          rw [Nat.zero_add] at hafter
          rcases hafter with ⟨hlocked, -⟩ | ⟨-, hle⟩
          · rw [hlocked] at hstate
            cases hstate
          · exact ⟨pre, a, o, post, s₁, s₂, rfl, hpre, hstep, hlocks, hquiet', hle⟩
        · exact absurd hidle hnever
      · have hinit : a = .init := by
          by_contra hne
          exact ha ⟨hsample, hne⟩
        rw [hinit] at hstep
        cases hstep
        exact absurd (Or.inl rfl) hnever
  · rintro ⟨pre, a, o, post, s₁, s₂, rfl, hpre, hstep, hlocks, hquiet, hle⟩
    obtain ⟨s₁', s₂', hpre', hstep', hpost⟩ := Machine.Run.split_at h
    have hsame := Machine.Run.deterministic hpre hpre'
    subst hsame
    rw [hstep] at hstep'
    cases hstep'
    rcases sample_cases hlocks.isSample hstep with ⟨-, hcoasts⟩ | ⟨hno, -⟩
    · have hafter := coasts_run hcoasts hpost hquiet fun x hx => hsmall x (by simp [hx])
      rw [Nat.zero_add] at hafter
      rcases hafter with ⟨-, -, hlt⟩ | ⟨hstate, -⟩
      · exact absurd hle (Nat.not_le.2 hlt)
      · exact hstate
    · exact absurd hlocks hno

/-! ## Three runs -/

/-- A beacon a second after the start, then updates. -/
def beaconThen (deltas : List UInt32) : List (TimeAction Double) :=
  .call (.processBeacon 1000000000 1000000) :: deltas.map fun d => .call (.update d)

/-- An exchange, then updates. -/
def exchangeThen (deltas : List UInt32) : List (TimeAction Double) :=
  .call (.processRttSample 1000000000 0 0 1000000000) :: deltas.map fun d => .call (.update d)

/-- Five seconds after a beacon. -/
theorem holdover_afterBeacon :
    ∃ t s, Machine.Run (act .machine fun _ => 1000000) (create, 0) t s ∧
      t.map (·.1) = beaconThen [4900, 200] ∧ Stale .machine (fun _ => 1000000) t := by
  have hexec : (Machine.exec (act .machine fun _ => 1000000) (create, 0) (beaconThen [4900, 200])).any
      (fun r => decide (r.2.1.state = .holdover)) = true := by
    decide +kernel
  obtain ⟨t, s, hrun, hactions, hp⟩ := Machine.exec_any hexec
  refine ⟨t, s, hrun, hactions, (holdover_iff hrun ?_).1 (of_decide_eq_true hp)⟩
  intro x hx
  have hmem : x.1.deltaMs ∈ (t.map (·.1)).map TimeAction.deltaMs :=
    List.mem_map_of_mem (List.mem_map_of_mem hx)
  rw [hactions] at hmem
  have hall : ∀ d ∈ (beaconThen [4900, 200]).map TimeAction.deltaMs,
      d ≤ 2 ^ 32 - HOLDOVER_TIMEOUT_MS.toNat := by
    decide
  exact hall _ hmem

omit [Doubles R] in
theorem isQuiet_update (deltaMs : UInt32) :
    (TimeAction.call (.update deltaMs) : TimeAction R).IsQuiet :=
  ⟨id, by simp⟩

omit [Doubles R] in
/-- A run that begins with a sample and goes on with updates. -/
theorem updates_of_map {first : TimeAction R} {deltas : List UInt32}
    (h : t.map (·.1) = first :: deltas.map fun d => .call (.update d)) :
    ∃ o post, t = (first, o) :: post ∧ (∀ x ∈ post, x.1.IsQuiet) ∧
      elapsedMs post = (deltas.map UInt32.toNat).sum := by
  obtain ⟨⟨a, o⟩, post, rfl, rfl, hpost⟩ := List.map_eq_cons_iff.1 h
  refine ⟨o, post, rfl, ?_, ?_⟩
  · intro x hx
    have hmem : x.1 ∈ post.map (·.1) := List.mem_map_of_mem hx
    rw [hpost] at hmem
    obtain ⟨d, -, hd⟩ := List.mem_map.1 hmem
    rw [← hd]
    exact isQuiet_update d
  · have hdeltas : post.map (fun x => x.1.deltaMs) = (post.map (·.1)).map TimeAction.deltaMs := by
      rw [List.map_map]
      rfl
    unfold elapsedMs
    rw [hdeltas, hpost, List.map_map]
    rfl

/-- A clock that was stepped never goes into holdover, nor does one whose counter wraps around. -/
theorem stale_not_holdover :
    (¬ ∀ (readings : Nat → Int) (t : List (TimeAction Double × List Int)) (s : TimeManager Double × Nat),
      Machine.Run (act .machine readings) (create, 0) t s →
        (s.1.state = .holdover ↔ ∃ pre a o post, t = pre ++ (a, o) :: post ∧ a.IsSample ∧
          (∀ x ∈ post, x.1.IsQuiet) ∧ HOLDOVER_TIMEOUT_MS.toNat ≤ elapsedMs post)) ∧
    ¬ ∀ (readings : Nat → Int) (t : List (TimeAction Double × List Int)) (s : TimeManager Double × Nat),
      Machine.Run (act .machine readings) (create, 0) t s →
        (s.1.state = .holdover ↔ Stale .machine readings t) := by
  constructor
  · intro h
    have hexec : (Machine.exec (act .machine fun _ => 0) (create, 0) (exchangeThen [5000])).any
        (fun r => decide (r.2.1.state = .calibrating)) = true := by
      decide +kernel
    obtain ⟨t, s, hrun, hactions, hp⟩ := Machine.exec_any hexec
    obtain ⟨o, post, rfl, hquiet, helapsed⟩ := updates_of_map hactions
    have hstate := (h _ _ s hrun).2 ⟨[], _, o, post, rfl, trivial, hquiet, by
      rw [helapsed]
      decide⟩
    rw [of_decide_eq_true hp] at hstate
    cases hstate
  · intro h
    have hexec : (Machine.exec (act .machine fun _ => 1000000) (create, 0)
        (beaconThen [4999, 4294962297])).any (fun r => decide (r.2.1.state = .locked)) = true := by
      decide +kernel
    obtain ⟨t, s, hrun, hactions, hp⟩ := Machine.exec_any hexec
    obtain ⟨o, post, rfl, hquiet, helapsed⟩ := updates_of_map hactions
    obtain ⟨s₂, hstep, -⟩ := Machine.Run.cons_inv hrun
    have hstate := (h _ _ s hrun).2 ⟨[], _, o, post, (create, 0), s₂, rfl, .nil, hstep, trivial, hquiet,
      by
        rw [helapsed]
        decide⟩
    rw [of_decide_eq_true hp] at hstate
    cases hstate

end TimeManager

end EmbeddedPixel
