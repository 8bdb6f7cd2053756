import EmbeddedPixel.Net.OtaHistory

/-!
# What a refused request leaves behind

A request that is refused before its `memcpy` changes nothing but `last_error_`.  `handleData` checks an
embedded header after the copy, and a request refused there has been carried out already:
`refused_unchanged_iff`.
-/

set_option autoImplicit false

namespace EmbeddedPixel

open Foundation

/-- A call that hands over a part of an update. -/
def OtaCall.IsTransfer : OtaCall → Prop
  | .begin .. => True
  | .data .. => True
  | _ => False

namespace OtaMachine

open OtaService

variable {L : Layout} {m m' : OtaMachine} {c : Option SystemController} {req : PayloadOtaData}
  {chunkData : BytePtr} {dataLen : UInt16}

/-- The staging buffer is as it was. -/
def StagingKept (L : Layout) (m m' : OtaMachine) : Prop :=
  ∀ i < MAX_IMAGE_SIZE.toNat, L.staging m'.ram i = L.staging m.ram i

/-- The session and the staging buffer are as they were, but for `last_error_`. -/
structure Unchanged (L : Layout) (m m' : OtaMachine) : Prop where
  session : { m'.svc with lastError := m.svc.lastError } = m.svc
  staging : StagingKept L m m'

theorem Unchanged.withError (L : Layout) (m : OtaMachine) (e : StatusCode) :
    Unchanged L m (m.withError e) := ⟨rfl, fun _ _ => rfl⟩

/-- A chunk as good as copied already: it ends where the session stands, is staged, and its bytes leave
the running checksum as it is. -/
structure CopiedAlready (L : Layout) (m : OtaMachine) (req : PayloadOtaData) (chunk : List UInt8) :
    Prop where
  written : req.offset + UInt32.ofNat chunk.length = m.svc.bytesWritten
  crc : Crc32.update m.svc.incrementalCrc chunk = m.svc.incrementalCrc
  staged : bytesAt (L.staging m.ram) req.offset.toNat chunk.length = chunk

/-- The staging buffer is as it was where the chunk was staged already. -/
theorem staging_copied_eq_iff {chunk : List UInt8} (hfit : req.offset.toNat + chunk.length ≤ 163840) :
    StagingKept L m (copied L req chunk m) ↔
      bytesAt (L.staging m.ram) req.offset.toNat chunk.length = chunk := by
  constructor
  · intro h
    conv_rhs => rw [← bytesAt_ofList chunk]
    apply bytesAt_congr
    intro k hk
    have hin : req.offset.toNat + k < MAX_IMAGE_SIZE.toNat := by
      rw [MAX_IMAGE_SIZE_toNat]
      omega
    have hsame := h (req.offset.toNat + k) hin
    rw [staging_copied hfit (by omega), if_pos (by omega), Nat.add_sub_cancel_left] at hsame
    rw [← hsame, Nat.zero_add]
    rfl
  · intro h i hi
    rw [staging_copied hfit hi]
    split
    · rename_i hin
      have hget : (bytesAt (L.staging m.ram) req.offset.toNat chunk.length).getD
          (i - req.offset.toNat) 0 = L.staging m.ram i := by
        have hread : (bytesAt (L.staging m.ram) req.offset.toNat chunk.length).getD
            (i - req.offset.toNat) 0 = L.staging m.ram (req.offset.toNat + (i - req.offset.toNat)) :=
          ofList_bytesAt (L.staging m.ram) (by omega)
        rw [show req.offset.toNat + (i - req.offset.toNat) = i by omega] at hread
        exact hread
      rw [h] at hget
      exact hget
    · rfl

/-- A copy leaves everything exactly if its chunk was as good as copied. -/
theorem unchanged_copied_iff {chunk : List UInt8} {e : StatusCode}
    (hfit : req.offset.toNat + chunk.length ≤ 163840) :
    Unchanged L m ((copied L req chunk m).withError e) ↔ CopiedAlready L m req chunk := by
  constructor
  · intro h
    have hsession := h.session
    refine ⟨?_, ?_, (staging_copied_eq_iff hfit).1 h.staging⟩
    · exact congrArg OtaService.bytesWritten hsession
    · exact congrArg OtaService.incrementalCrc hsession
  · intro h
    refine ⟨?_, (staging_copied_eq_iff hfit).2 h.staged⟩
    show { m.svc with
      incrementalCrc := Crc32.update m.svc.incrementalCrc chunk
      bytesWritten := req.offset + UInt32.ofNat chunk.length } = m.svc
    rw [h.crc, h.written]

/-- The request is not copied, or it makes no difference that it is. -/
def Traceless (L : Layout) (m : OtaMachine) : OtaCall → Prop
  | .data req chunkData dataLen =>
    Copies m.svc req chunkData dataLen → CopiedAlready L m req (bytesAt chunkData 0 dataLen.toNat)
  | _ => True

/-- **When a refused request changes nothing**: exactly if it is refused before the copy or its chunk was
as good as copied. -/
theorem refused_unchanged_iff {call : OtaCall} {st : StatusCode} (hcall : call.IsTransfer)
    (hstep : step L m (c, call) = some (st, m')) (hst : st ≠ .ok) :
    Unchanged L m m' ↔ Traceless L m call := by
  generalize ha : (c, call) = a at hstep
  cases step_transition hstep with
  | beginRefused _ =>
      cases ha
      exact iff_of_true (.withError L m _) trivial
  | beginAccepted _ => exact absurd rfl hst
  | dataRefused hno _ =>
      cases ha
      exact iff_of_true (.withError L m _) fun hcopies => absurd hcopies hno
  | dataCopied hcopies hfit _ =>
      cases ha
      rw [unchanged_copied_iff (by rw [length_bytesAt]; exact hfit)]
      exact ⟨fun h _ => h, fun h => h hcopies⟩
  | endRefused _ =>
      cases ha
      exact absurd hcall id
  | endMismatch _ _ =>
      cases ha
      exact absurd hcall id
  | endVerified _ _ => exact absurd rfl hst
  | aborted => exact absurd rfl hst

/-- Two bytes are announced, and the first one arrives. -/
def firstOfTwo : List (Option SystemController × OtaCall) :=
  [(none, .begin ⟨2, 0, 0, 1024, 0⟩ ⟨0, 0, 0⟩), (none, .data ⟨0, 1, 0⟩ (fun _ => 7) 1)]

/-- The second one, with a wrong checksum. -/
def damagedSecond : OtaCall := .data ⟨1, 1, 0x1234⟩ (fun _ => 8) 1

/-- In the middle of a session a damaged chunk is refused and leaves the first one as it is. -/
theorem refused_unchanged_receiving :
    ∃ t m m', Runs Layout.lowest (fun _ => 0) t m ∧ m.svc.state = .receiving ∧ m.svc.bytesWritten = 1 ∧
      step Layout.lowest m (none, damagedSecond) = some (.errInvalidCrc, m') ∧
      Unchanged Layout.lowest m m' := by
  have hexec : (Machine.exec (step Layout.lowest) (start fun _ => 0) firstOfTwo).any (fun r =>
      r.2.svc.state = .receiving ∧ r.2.svc.bytesWritten = 1 ∧
        (step Layout.lowest r.2 (none, damagedSecond)).any fun q => q.1 = .errInvalidCrc) = true := by
    decide +kernel
  obtain ⟨t, m, hrun, -, hp⟩ := Machine.exec_any hexec
  obtain ⟨hreceiving, hwritten, hrefused⟩ := of_decide_eq_true hp
  obtain ⟨⟨st, m'⟩, hstep, hst⟩ := (Option.any_eq_true _ _).1 hrefused
  obtain rfl : st = .errInvalidCrc := of_decide_eq_true hst
  have hcall : damagedSecond.IsTransfer := trivial
  refine ⟨t, m, m', hrun, hreceiving, hwritten, hstep, ?_⟩
  refine (refused_unchanged_iff hcall hstep (by decide)).2 fun hcopies => ?_
  -- the checksum stops it before the copy
  exact absurd hcopies.2.2 (by decide)

/-- Announces an image with room for a header. -/
def announceHeader : OtaCall := .begin ⟨1088, 0, 0, 1024, 0⟩ ⟨0, 0, 0⟩

/-- A header without a valid checksum. -/
def badHeader : OtaCall := .data ⟨1024, 64, 0⟩ (BytePtr.ofList (u32le EPFW_MAGIC)) 64

/-- The header is refused, and counts as written. -/
theorem refused_header_is_written :
    ¬ ∀ (L : Layout) (ram : Mem 32) (t : Trace) (m m' : OtaMachine) (c : Option SystemController)
        (call : OtaCall) (st : StatusCode), Runs L ram t m → call.IsTransfer →
          step L m (c, call) = some (st, m') → st ≠ .ok → Unchanged L m m' := by
  intro h
  have hexec : (Machine.exec (step Layout.lowest) (start fun _ => 0) [(none, announceHeader)]).any
      (fun r => (step Layout.lowest r.2 (none, badHeader)).any
        fun q => q.1 = .errInvalidCrc ∧ q.2.svc.bytesWritten ≠ r.2.svc.bytesWritten) = true := by
    decide +kernel
  obtain ⟨t, m, hrun, -, hp⟩ := Machine.exec_any hexec
  obtain ⟨⟨st, m'⟩, hstep, hp⟩ := (Option.any_eq_true _ _).1 hp
  obtain ⟨hst, hwritten⟩ := of_decide_eq_true hp
  have hcall : badHeader.IsTransfer := trivial
  have hne : st ≠ .ok := fun hok => absurd (hst.symm.trans hok) (by decide)
  have hsame := h _ _ _ _ _ _ _ _ hrun hcall hstep hne
  have hsession := congrArg OtaService.bytesWritten hsame.session
  exact hwritten hsession

end OtaMachine

end EmbeddedPixel
