import EmbeddedPixel.Net.OtaInvariant

/-!
# What the calls of a run leave behind

Only an accepted `handleEnd` changes the control block (`block_of_no_end`), and only an accepted
`handleBegin` changes the session or begins to receive (`session_of_no_begin`).  `step_begin_ok` and
`step_end_ok` say what the two accepted calls do.
-/

set_option autoImplicit false

namespace EmbeddedPixel

open Foundation

namespace OtaMachine

open OtaService

variable {L : Layout} {m m' m₀ : OtaMachine} {t : Trace}

/-- The entry of an accepted `handleEnd`. -/
def OkEnd (x : (Option SystemController × OtaCall) × StatusCode) : Prop :=
  ∃ c req, x = ((c, .end req), .ok)

/-- The entry of an accepted `handleBegin`. -/
def OkBegin (x : (Option SystemController × OtaCall) × StatusCode) : Prop :=
  ∃ c req resp, x = ((c, .begin req resp), .ok)

theorem beginError_ne_ok {c : Option SystemController} {req : PayloadOtaBegin} :
    beginError c req ≠ some .ok := by
  unfold beginError
  split
  · intro h
    cases h
  · split
    · intro h
      cases h
    · intro h
      cases h

/-! ## What changes the block and the session -/

/-- A chunk is copied clear of the control block. -/
theorem read_block_copied {req : PayloadOtaData} {chunkData : BytePtr} {dataLen : UInt16}
    (hfit : req.offset.toNat + dataLen.toNat ≤ 163840) :
    (copied L req (bytesAt chunkData 0 dataLen.toNat) m).ram.read
        RAM_CONTROL_BLOCK_BASE 32 =
      m.ram.read RAM_CONTROL_BLOCK_BASE 32 := by
  rw [copied_ram]
  exact Mem.read_store_apart m.ram _ (L.staging_apart.within hfit)

theorem block_of_transition {a : Option SystemController × OtaCall} {st : StatusCode}
    (h : Transition L m a st m') (hno : ¬ OkEnd (a, st)) :
    m'.ram.read RAM_CONTROL_BLOCK_BASE 32 =
      m.ram.read RAM_CONTROL_BLOCK_BASE 32 := by
  cases h with
  | beginRefused _ => rfl
  | @beginAccepted c req resp h =>
      obtain ⟨-, hle⟩ := beginError_eq_none h
      have hapart := L.staging_apart.mono (erased_bounds hle).2 (Nat.le_refl 32)
      exact Mem.read_store_apart m.ram (fun _ => 0xFF) hapart
  | dataRefused _ _ => rfl
  | dataCopied _ hfit _ => exact read_block_copied hfit
  | endRefused _ => rfl
  | endMismatch _ _ => rfl
  | endVerified _ _ => exact absurd ⟨_, _, rfl⟩ hno
  | aborted => rfl

/-- **Only an accepted `handleEnd` changes the control block.** -/
theorem block_of_no_end (h : Machine.Run (step L) m₀ t m) (hno : ∀ x ∈ t, ¬ OkEnd x) :
    m.ram.read RAM_CONTROL_BLOCK_BASE 32 =
      m₀.ram.read RAM_CONTROL_BLOCK_BASE 32 := by
  have hstep : ∀ s a o s', ¬ OkEnd (a, o) →
      s.ram.read RAM_CONTROL_BLOCK_BASE 32 =
        m₀.ram.read RAM_CONTROL_BLOCK_BASE 32 →
      step L s a = some (o, s') →
      s'.ram.read RAM_CONTROL_BLOCK_BASE 32 =
        m₀.ram.read RAM_CONTROL_BLOCK_BASE 32 := by
    intro s a o s' hK hs hstep
    exact (block_of_transition (step_transition hstep) hK).trans hs
  exact Machine.Run.keep
    (Q := fun s => s.ram.read RAM_CONTROL_BLOCK_BASE 32 =
      m₀.ram.read RAM_CONTROL_BLOCK_BASE 32) hstep h hno rfl

/-- What an accepted `handleBegin` fixes for a session. -/
def announced (svc : OtaService) : UInt32 × UInt32 × UInt32 :=
  (svc.totalImageSize, svc.expectedCrc32, svc.targetVersion)

theorem session_of_transition {a : Option SystemController × OtaCall} {st : StatusCode}
    (h : Transition L m a st m') (hno : ¬ OkBegin (a, st)) :
    announced m'.svc = announced m.svc ∧
      (m.svc.state ≠ .receiving → m'.svc.state ≠ .receiving) := by
  cases h with
  | beginRefused _ => exact ⟨rfl, id⟩
  | beginAccepted _ => exact absurd ⟨_, _, _, rfl⟩ hno
  | dataRefused _ _ => exact ⟨rfl, id⟩
  | dataCopied _ _ _ => exact ⟨rfl, id⟩
  | endRefused _ => exact ⟨rfl, id⟩
  | endMismatch _ _ => exact ⟨rfl, fun _ h => by cases h⟩
  | endVerified _ _ => exact ⟨rfl, fun _ h => by cases h⟩
  | aborted => exact ⟨rfl, fun _ h => by cases h⟩

/-- **Only an accepted `handleBegin` changes the session.** -/
theorem session_of_no_begin (h : Machine.Run (step L) m₀ t m) (hno : ∀ x ∈ t, ¬ OkBegin x) :
    announced m.svc = announced m₀.svc ∧
      (m₀.svc.state ≠ .receiving → m.svc.state ≠ .receiving) := by
  have hstep : ∀ s a o s', ¬ OkBegin (a, o) →
      (announced s.svc = announced m₀.svc ∧
        (m₀.svc.state ≠ .receiving → s.svc.state ≠ .receiving)) →
      step L s a = some (o, s') →
      announced s'.svc = announced m₀.svc ∧
        (m₀.svc.state ≠ .receiving → s'.svc.state ≠ .receiving) := by
    rintro s a o s' hK ⟨hs, hr⟩ hstep
    obtain ⟨hs', hr'⟩ := session_of_transition (step_transition hstep) hK
    exact ⟨hs'.trans hs, fun h₀ => hr' (hr h₀)⟩
  exact Machine.Run.keep
    (Q := fun s => announced s.svc = announced m₀.svc ∧
      (m₀.svc.state ≠ .receiving → s.svc.state ≠ .receiving)) hstep h hno ⟨rfl, id⟩

/-! ## The two accepting calls -/

/-- An accepted `handleEnd` has compared the staged image with the session and has published it. -/
theorem step_end_ok {c : Option SystemController} {req : PayloadOtaEnd}
    (h : step L m (c, .end req) = some (.ok, m')) :
    m.svc.state = .receiving ∧ bufferCrc32 L m = m.svc.expectedCrc32 ∧
      m'.ram = (writeControlBlock L .pendingInstall m).ram ∧
      OtaControlBlock.ofPtr (m'.ram.ptr RAM_CONTROL_BLOCK_BASE) =
        controlBlock L m.svc .pendingInstall := by
  have htrans := step_transition h
  generalize ha : (c, OtaCall.end req) = a at htrans
  generalize hst : StatusCode.ok = st at htrans
  cases htrans with
  | endVerified hs hcrc =>
      exact ⟨hs, hcrc, rfl, (ofPtr_controlBlock (read_writeControlBlock L _ m)).1⟩
  | beginRefused _ => cases ha
  | beginAccepted _ => cases ha
  | dataRefused _ _ => cases ha
  | dataCopied _ _ _ => cases ha
  | endRefused _ => cases hst
  | endMismatch _ _ => cases hst
  | aborted => cases ha

/-- A receiving service accepts the end of an image that is staged. -/
theorem step_end_of_staged (c : Option SystemController) (req : PayloadOtaEnd)
    (hs : m.svc.state = .receiving) (hcrc : bufferCrc32 L m = m.svc.expectedCrc32) :
    ∃ m', step L m (c, .end req) = some (.ok, m') := by
  unfold step handleEnd
  dsimp only
  rw [if_neg (not_not.2 hs), if_neg (not_not.2 hcrc)]
  exact ⟨_, rfl⟩

/-- An accepted `handleBegin` has set the session. -/
theorem step_begin_ok {c : Option SystemController} {req : PayloadOtaBegin}
    {resp : PayloadOtaBeginResp} (h : step L m (c, .begin req resp) = some (.ok, m')) :
    beginError c req = none ∧ m'.svc = m.svc.session req ∧
      m'.ram = m.ram.store L.stagingBuffer ((req.imageSize + 255) &&& ~~~255).toNat
        fun _ => 0xFF := by
  have htrans := step_transition h
  generalize ha : (c, OtaCall.begin req resp) = a at htrans
  generalize hst : StatusCode.ok = st at htrans
  cases htrans with
  | beginAccepted hnone =>
      cases ha
      exact ⟨hnone, rfl, rfl⟩
  | beginRefused he =>
      subst hst
      exact absurd he beginError_ne_ok
  | dataRefused _ _ => cases ha
  | dataCopied _ _ _ => cases ha
  | endRefused _ => cases ha
  | endMismatch _ _ => cases ha
  | endVerified _ _ => cases ha
  | aborted => cases ha

end OtaMachine

end EmbeddedPixel
