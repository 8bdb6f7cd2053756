import EmbeddedPixel.Net.OtaService

/-!
# What a call of the OTA service can do

`Transition` lists the outcomes of a call, each with the guard it stands under and the machine it
leaves; `step_transition` says that a call does one of these, so that no later proof unfolds a
handler.  `Copies` is the guard of `handleData`: the request reaches the `memcpy`.
-/

set_option autoImplicit false

namespace EmbeddedPixel

open Foundation

namespace OtaService

/-- `handleData` reaches its `memcpy`. -/
def Copies (svc : OtaService) (req : PayloadOtaData) (chunkData : BytePtr) (dataLen : UInt16) :
    Prop :=
  svc.state = .receiving ∧ req.offset + dataLen.toUInt32 ≤ svc.totalImageSize ∧
    (chunkCrcOk req dataLen).run chunkData = true

instance (svc : OtaService) (req : PayloadOtaData) (chunkData : BytePtr) (dataLen : UInt16) :
    Decidable (Copies svc req chunkData dataLen) := by
  unfold Copies
  infer_instance

/-- The check is decided by the 64 bytes at the header's place. -/
theorem headerError_congr {c : Option SystemController} {p q : BytePtr}
    (h : ∀ i < APP_IMAGE_HEADER_SIZE, p i = q i) : headerError c p = headerError c q := by
  unfold headerError
  rw [AppImageHeader.ofPtr_congr h, AppImageHeader.isValid_congr h]

end OtaService

namespace OtaMachine

open OtaService

/-- The status of a request whose chunk was copied: the header check is made once the copy ends past
the header. -/
def headerStatus (L : Layout) (c : Option SystemController) (m : OtaMachine) : StatusCode :=
  if m.svc.bytesWritten.toNat ≥ APP_HEADER_FLASH_OFFSET + APP_IMAGE_HEADER_SIZE then
    (headerError c ((L.staging m.ram).advance APP_HEADER_FLASH_OFFSET)).getD .ok
  else .ok

/-- The outcomes of a call. -/
inductive Transition (L : Layout) (m : OtaMachine) :
    Option SystemController × OtaCall → StatusCode → OtaMachine → Prop
  | beginRefused {c req resp e} (h : beginError c req = some e) :
      Transition L m (c, .begin req resp) e (m.withError e)
  | beginAccepted {c req resp} (h : beginError c req = none) :
      Transition L m (c, .begin req resp) .ok
        { svc := m.svc.session req,
          ram := m.ram.store L.stagingBuffer ((req.imageSize + 255) &&& ~~~255).toNat
            fun _ => 0xFF }
  | dataRefused {c req chunkData dataLen st e} (h : ¬ Copies m.svc req chunkData dataLen)
      (hst : st ≠ .ok) : Transition L m (c, .data req chunkData dataLen) st (m.withError e)
  | dataCopied {c req chunkData dataLen st e} (h : Copies m.svc req chunkData dataLen)
      (hfit : req.offset.toNat + dataLen.toNat ≤ 163840)
      (hst : st = headerStatus L c (copied L req (bytesAt chunkData 0 dataLen.toNat) m)) :
      Transition L m (c, .data req chunkData dataLen) st
        ((copied L req (bytesAt chunkData 0 dataLen.toNat) m).withError e)
  | endRefused {c req} (h : m.svc.state ≠ .receiving) :
      Transition L m (c, .end req) .errBusy m
  | endMismatch {c req} (h : m.svc.state = .receiving)
      (hcrc : bufferCrc32 L m ≠ m.svc.expectedCrc32) :
      Transition L m (c, .end req) .errInvalidCrc
        { m with svc := { m.svc with state := .errorState, lastError := .errInvalidCrc } }
  | endVerified {c req} (h : m.svc.state = .receiving)
      (hcrc : bufferCrc32 L m = m.svc.expectedCrc32) :
      Transition L m (c, .end req) .ok
        { svc :=
            { m.svc with
              state := .ready
              rebootPending := if m.svc.autoReboot || req.autoReboot != 0 then true
                else m.svc.rebootPending }
          ram := (writeControlBlock L .pendingInstall m).ram }
  | aborted {c} :
      Transition L m (c, .abort) .ok
        { m with
          svc :=
            { m.svc with
              state := .idle, lastError := .ok, bytesWritten := 0, rebootPending := false } }

theorem copyChunk_eq_some {L : Layout} {c : Option SystemController} {req : PayloadOtaData}
    {chunk : List UInt8} {m m' : OtaMachine} {st : StatusCode}
    (h : copyChunk L c req chunk m = some (st, m')) :
    req.offset.toNat + chunk.length ≤ 163840 ∧ st = headerStatus L c (copied L req chunk m) ∧
      ∃ e, m' = (copied L req chunk m).withError e := by
  unfold copyChunk at h
  split at h
  · cases h
  · rename_i hfit
    refine ⟨Nat.not_lt.1 hfit, ?_⟩
    unfold headerStatus
    dsimp only at h
    split at h
    · rename_i hpast
      rw [if_pos hpast]
      split at h
      · rename_i e he
        cases h
        rw [he]
        exact ⟨rfl, _, rfl⟩
      · rename_i he
        cases h
        rw [he]
        exact ⟨rfl, m.svc.lastError, rfl⟩
    · rename_i hpast
      rw [if_neg hpast]
      cases h
      exact ⟨rfl, m.svc.lastError, rfl⟩

/-- A copy inside the buffer is carried out. -/
theorem copyChunk_isSome {L : Layout} {c : Option SystemController} {req : PayloadOtaData}
    {chunk : List UInt8} {m : OtaMachine} (hfit : req.offset.toNat + chunk.length ≤ 163840) :
    ∃ st m', copyChunk L c req chunk m = some (st, m') := by
  unfold copyChunk
  rw [if_neg (show ¬ _ > MAX_IMAGE_SIZE.toNat from Nat.not_lt.2 hfit)]
  dsimp only
  split
  · split
    · exact ⟨_, _, rfl⟩
    · exact ⟨_, _, rfl⟩
  · exact ⟨_, _, rfl⟩

/-- A request that reaches the `memcpy` is the copy of its chunk. -/
theorem handleData_of_copies {L : Layout} {c : Option SystemController} {req : PayloadOtaData}
    {chunkData : BytePtr} {dataLen : UInt16} {m : OtaMachine}
    (h : Copies m.svc req chunkData dataLen) :
    (handleData L c req dataLen m).run chunkData =
      copyChunk L c req (bytesAt chunkData 0 dataLen.toNat) m := by
  obtain ⟨hs, hle, hcrc⟩ := h
  unfold handleData
  rw [if_neg (not_not.2 hs), if_neg (UInt32.not_lt.2 hle), Reader.run_bind, hcrc, if_pos rfl]
  rfl

/-- A chunk whose checksum does not match is refused. -/
theorem handleData_of_badCrc {L : Layout} {c : Option SystemController} {req : PayloadOtaData}
    {chunkData : BytePtr} {dataLen : UInt16} {m : OtaMachine} (hs : m.svc.state = .receiving)
    (hle : req.offset + dataLen.toUInt32 ≤ m.svc.totalImageSize)
    (hcrc : (chunkCrcOk req dataLen).run chunkData = false) :
    (handleData L c req dataLen m).run chunkData =
      some (.errInvalidCrc, m.withError .errInvalidCrc) := by
  unfold handleData
  rw [if_neg (not_not.2 hs), if_neg (UInt32.not_lt.2 hle), Reader.run_bind, hcrc]
  rfl

/-- Any other request is answered with an error and leaves all but `last_error_`. -/
theorem handleData_of_not_copies {L : Layout} {c : Option SystemController} {req : PayloadOtaData}
    {chunkData : BytePtr} {dataLen : UInt16} {m : OtaMachine}
    (h : ¬ Copies m.svc req chunkData dataLen) :
    ∃ st e, (handleData L c req dataLen m).run chunkData = some (st, m.withError e) ∧
      st ≠ .ok := by
  by_cases hs : m.svc.state = .receiving
  · by_cases hle : req.offset + dataLen.toUInt32 ≤ m.svc.totalImageSize
    · have hcrc : (chunkCrcOk req dataLen).run chunkData = false := by
        by_contra hne
        exact h ⟨hs, hle, by simpa using hne⟩
      exact ⟨_, _, handleData_of_badCrc hs hle hcrc, by decide⟩
    · unfold handleData
      rw [if_neg (not_not.2 hs), if_pos (UInt32.not_le.1 hle)]
      exact ⟨.errInvalidPayload, .errInvalidPayload, rfl, by decide⟩
  · unfold handleData
    rw [if_pos hs]
    exact ⟨.errBusy, m.svc.lastError, rfl, by decide⟩

/-- **A call does one of the listed things.** -/
theorem step_transition {L : Layout} {m m' : OtaMachine} {a : Option SystemController × OtaCall}
    {st : StatusCode} (h : step L m a = some (st, m')) : Transition L m a st m' := by
  obtain ⟨c, call⟩ := a
  cases call with
  | begin req resp =>
      simp only [step, handleBegin] at h
      split at h
      · rename_i e he
        cases h
        exact .beginRefused he
      · rename_i he
        cases h
        exact .beginAccepted he
  | data req chunkData dataLen =>
      simp only [step] at h
      by_cases hc : Copies m.svc req chunkData dataLen
      · rw [handleData_of_copies hc] at h
        obtain ⟨hfit, hst, e, rfl⟩ := copyChunk_eq_some h
        exact .dataCopied hc (by simpa using hfit) hst
      · obtain ⟨st', e, he, hst⟩ := handleData_of_not_copies (L := L) (c := c) hc
        rw [he] at h
        cases h
        exact .dataRefused hc hst
  | «end» req =>
      simp only [step, handleEnd] at h
      split at h
      · rename_i hs
        cases h
        exact .endRefused hs
      · rename_i hs
        have hs : m.svc.state = .receiving := not_not.1 hs
        split at h
        · rename_i hcrc
          cases h
          exact .endMismatch hs hcrc
        · rename_i hcrc
          cases h
          exact .endVerified hs (not_not.1 hcrc)
  | abort =>
      cases h
      exact .aborted

end OtaMachine

end EmbeddedPixel
