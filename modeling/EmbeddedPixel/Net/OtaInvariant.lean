import EmbeddedPixel.Net.OtaTransition

/-!
# Invariants of the OTA session

`OtaMachine.Inv` ties the session fields, the staged bytes, the control block and the reboot flag
together; `Inv.step` is the induction step and `runs_inv` the result for every run.  From it:
`ready_installable` — a service in `READY` has published a control block that describes the staged
image; `copy_within_image_iff` — exactly when a chunk copy stays inside the image.
-/

set_option autoImplicit false

namespace EmbeddedPixel

open Foundation

/-! ## The regions -/

theorem Layout.staging_apart (L : Layout) :
    Mem.Apart L.stagingBuffer 163840 OtaService.RAM_CONTROL_BLOCK_BASE 32 := by
  have hend : L.stagingBuffer.toNat + 163840 ≤ 0x24070000 := L.ram_end
  have hbase : OtaService.RAM_CONTROL_BLOCK_BASE.toNat = 0x24070000 := rfl
  exact Mem.Apart.of_le (by omega) (by omega) (Or.inl (by omega))

namespace OtaService

theorem beginError_eq_none {c : Option SystemController} {req : PayloadOtaBegin}
    (h : beginError c req = none) : req.imageSize ≠ 0 ∧ req.imageSize.toNat ≤ 163840 := by
  unfold beginError at h
  split at h
  · cases h
  · split at h
    · cases h
    · rename_i hsize
      obtain ⟨h0, hmax⟩ := not_or.1 hsize
      exact ⟨h0, UInt32.not_lt.1 hmax⟩

/-- The erased part of the buffer covers the image and stays in the buffer. -/
theorem erased_bounds {x : UInt32} (h : x.toNat ≤ 163840) :
    x.toNat ≤ ((x + 255) &&& ~~~255).toNat ∧ ((x + 255) &&& ~~~255).toNat ≤ 163840 := by
  have herased : ((x + 255) &&& ~~~255).toNat = (x + 255).toNat / 2 ^ 8 * 2 ^ 8 :=
    toNat_and_mask (by decide) _
  have hadd : (x + 255).toNat = x.toNat + 255 := by
    rw [UInt32.toNat_add, show (255 : UInt32).toNat = 255 from rfl]
    exact Nat.mod_eq_of_lt (by omega)
  rw [herased, hadd]
  omega

/-- The published block, byte for byte. -/
theorem read_writeControlBlock (L : Layout) (s : OtaState) (m : OtaMachine) :
    (writeControlBlock L s m).ram.read RAM_CONTROL_BLOCK_BASE 32 =
      (controlBlock L m.svc s).toBytes := by
  have h := Mem.read_store_self m.ram RAM_CONTROL_BLOCK_BASE
    (BytePtr.ofList (controlBlock L m.svc s).toBytes) (show 32 ≤ 2 ^ 32 by decide)
  exact h.trans (bytesAt_ofList (controlBlock L m.svc s).toBytes)

/-- Writing the block leaves the staged image. -/
theorem bytesAt_staging_writeControlBlock (L : Layout) (s : OtaState) (m : OtaMachine) {n : Nat}
    (hn : n ≤ 163840) :
    bytesAt (L.staging (writeControlBlock L s m).ram) 0 n = bytesAt (L.staging m.ram) 0 n :=
  Mem.bytesAt_store_apart m.ram _ L.staging_apart.symm (by omega)

end OtaService

/-! ## The invariant -/

namespace OtaMachine

open OtaService

/-- The control block in RAM describes the staged image. -/
structure Published (L : Layout) (m : OtaMachine) : Prop where
  block : m.ram.read RAM_CONTROL_BLOCK_BASE 32 = (controlBlock L m.svc .pendingInstall).toBytes
  staged : bufferCrc32 L m = m.svc.expectedCrc32

structure Inv (L : Layout) (m : OtaMachine) : Prop where
  size_le : m.svc.totalImageSize.toNat ≤ 163840
  size_ne : m.svc.state = .receiving ∨ m.svc.state = .ready → m.svc.totalImageSize ≠ 0
  written_le : m.svc.bytesWritten ≤ m.svc.totalImageSize
  pending_ready : m.svc.rebootPending = true → m.svc.state = .ready
  published : m.svc.state = .ready → Published L m

theorem Inv.start (L : Layout) (ram : Mem 32) : Inv L (start ram) where
  size_le := Nat.zero_le _
  size_ne := by rintro (h | h) <;> cases h
  written_le := UInt32.le_refl _
  pending_ready := by intro h; cases h
  published := by intro h; cases h

/-- `last_error_` plays no part in the invariant. -/
theorem Inv.withError {L : Layout} {m : OtaMachine} (h : Inv L m) (e : StatusCode) :
    Inv L (m.withError e) where
  size_le := h.size_le
  size_ne := h.size_ne
  written_le := h.written_le
  pending_ready := h.pending_ready
  published := fun hr => ⟨(h.published hr).block, (h.published hr).staged⟩

/-- **One call keeps the invariant.** -/
theorem Inv.step {L : Layout} {m m' : OtaMachine} {a : Option SystemController × OtaCall}
    {st : StatusCode} (hi : Inv L m) (h : Transition L m a st m') : Inv L m' := by
  cases h with
  | beginRefused _ => exact hi.withError _
  | beginAccepted h =>
      obtain ⟨hne, hle⟩ := beginError_eq_none h
      refine ⟨hle, fun _ => hne, ?_, ?_, ?_⟩
      · exact UInt32.le_iff_toNat_le.2 (Nat.zero_le _)
      · intro hp
        cases hp
      · intro hr
        cases hr
  | dataRefused _ _ => exact hi.withError _
  | @dataCopied c req chunkData dataLen st e h hfit _ =>
      obtain ⟨hs, hle, _⟩ := h
      have hcopied : Inv L (copied L req (bytesAt chunkData 0 dataLen.toNat) m) := by
        refine ⟨hi.size_le, hi.size_ne, ?_, hi.pending_ready, ?_⟩
        · have hlen : UInt32.ofNat (bytesAt chunkData 0 dataLen.toNat).length = dataLen.toUInt32 := by
            rw [length_bytesAt]
            exact UInt32.toNat_inj.1 (by simp)
          show req.offset + UInt32.ofNat (bytesAt chunkData 0 dataLen.toNat).length ≤ _
          rw [hlen]
          exact hle
        · intro hr
          exact absurd (hs.symm.trans hr) (by decide)
      exact hcopied.withError e
  | endRefused _ => exact hi
  | endMismatch h _ =>
      refine ⟨hi.size_le, ?_, hi.written_le, ?_, ?_⟩
      · rintro (h | h) <;> cases h
      · intro hp
        exact absurd (h.symm.trans (hi.pending_ready hp)) (by decide)
      · intro hr
        cases hr
  | endVerified h hcrc =>
      refine ⟨hi.size_le, fun _ => hi.size_ne (Or.inl h), hi.written_le, fun _ => rfl, fun _ => ?_⟩
      refine ⟨read_writeControlBlock L _ m, ?_⟩
      unfold bufferCrc32 at hcrc ⊢
      rw [← hcrc]
      exact congrArg _ (bytesAt_staging_writeControlBlock L _ m hi.size_le)
  | aborted =>
      refine ⟨hi.size_le, ?_, UInt32.le_iff_toNat_le.2 (Nat.zero_le _), ?_, ?_⟩
      · rintro (h | h) <;> cases h
      · intro hp
        cases hp
      · intro hr
        cases hr

/-- **The invariant holds after every run.** -/
theorem runs_inv {L : Layout} {ram : Mem 32} {t : Trace} {m : OtaMachine} (h : Runs L ram t m) :
    Inv L m :=
  Machine.Run.invariant (Inv.start L ram)
    (fun _ _ _ _ hi hs => hi.step (step_transition hs)) h

/-! ## `READY` means installable -/

/-- The fields of a block that was written to RAM. -/
theorem ofPtr_controlBlock {L : Layout} {svc : OtaService} {ram : Mem 32}
    (h : ram.read RAM_CONTROL_BLOCK_BASE 32 = (controlBlock L svc .pendingInstall).toBytes) :
    OtaControlBlock.ofPtr (ram.ptr RAM_CONTROL_BLOCK_BASE) =
        controlBlock L svc .pendingInstall ∧
      (controlBlock L svc .pendingInstall).structCrc32 =
        Crc32.calculate (ram.read RAM_CONTROL_BLOCK_BASE 28) := by
  refine ⟨OtaControlBlock.ofPtr_of_bytes h, ?_⟩
  have hsplit : ram.read RAM_CONTROL_BLOCK_BASE 32 =
      ram.read RAM_CONTROL_BLOCK_BASE 28 ++ bytesAt (ram.ptr RAM_CONTROL_BLOCK_BASE) 28 4 :=
    bytesAt_add (ram.ptr RAM_CONTROL_BLOCK_BASE) 0 28 4
  rw [hsplit, OtaControlBlock.toBytes_eq] at h
  rw [(List.append_inj h (by simp)).1]
  rfl

/-- **`READY` means installable**: in every state a run reaches, a `READY` service has published a
valid pending block for the image in its staging buffer; a pending reboot means `READY`; and no more
is counted as written than the image has. -/
theorem ready_installable {L : Layout} {ram : Mem 32} {t : Trace} {m : OtaMachine}
    (h : Runs L ram t m) :
    (m.svc.state = .ready →
      let blk := OtaControlBlock.ofPtr (m.ram.ptr RAM_CONTROL_BLOCK_BASE)
      blk.magic = OTA_MAGIC ∧ blk.state = OtaState.pendingInstall.code ∧
        blk.structCrc32 = Crc32.calculate (m.ram.read RAM_CONTROL_BLOCK_BASE 28) ∧
        blk.imageSize = m.svc.totalImageSize ∧
        1 ≤ blk.imageSize.toNat ∧ blk.imageSize.toNat ≤ 163840 ∧
        Crc32.calculate (bytesAt (L.staging m.ram) 0 blk.imageSize.toNat) = blk.imageCrc32 ∧
        blk.imageCrc32 = m.svc.expectedCrc32) ∧
      (m.svc.rebootPending = true → m.svc.state = .ready) ∧
      m.svc.bytesWritten ≤ m.svc.totalImageSize := by
  have hi := runs_inv h
  refine ⟨fun hr => ?_, hi.pending_ready, hi.written_le⟩
  obtain ⟨hblk, hstaged⟩ := hi.published hr
  obtain ⟨hof, hcrc⟩ := ofPtr_controlBlock hblk
  have hne : m.svc.totalImageSize.toNat ≠ 0 := fun h0 =>
    hi.size_ne (Or.inr hr) (UInt32.toNat_inj.1 h0)
  dsimp only
  rw [hof]
  refine ⟨rfl, rfl, hcrc, rfl, ?_, hi.size_le, hstaged, rfl⟩
  show 1 ≤ m.svc.totalImageSize.toNat
  omega

/-- The calls that announce an image of one blank byte, with automatic reboot, and finish it. -/
def blankUpload : List (Option SystemController × OtaCall) :=
  [(none, .begin ⟨1, Crc32.calculate [0xFF], 0, 1024, 1⟩ ⟨0, 0, 0⟩),
    (none, .end ⟨Crc32.calculate [0xFF], 0⟩)]

theorem ready_installable_blank :
    ∃ t m, Runs Layout.lowest (fun _ => 0) t m ∧ m.svc.state = .ready ∧
      m.svc.rebootPending = true ∧
      (OtaControlBlock.ofPtr (m.ram.ptr RAM_CONTROL_BLOCK_BASE)).state =
        OtaState.pendingInstall.code := by
  have hexec : (Machine.exec (OtaMachine.step Layout.lowest) (start fun _ => 0) blankUpload).any
      (fun r => r.2.svc.state = .ready ∧ r.2.svc.rebootPending = true) = true := by
    decide +kernel
  obtain ⟨t, m, hrun, -, hp⟩ := Machine.exec_any hexec
  obtain ⟨hready, hreboot⟩ := of_decide_eq_true hp
  exact ⟨t, m, hrun, hready, hreboot, ((ready_installable hrun).1 hready).2.1⟩

/-! ## Where chunks are copied -/

/-- The 32-bit sum of offset and length wraps around and passes for a position inside the image. -/
def Wraps (svc : OtaService) (req : PayloadOtaData) (dataLen : UInt16) : Prop :=
  2 ^ 32 ≤ req.offset.toNat + dataLen.toNat ∧
    req.offset + dataLen.toUInt32 ≤ svc.totalImageSize

theorem toNat_add_len (req : PayloadOtaData) (dataLen : UInt16) :
    (req.offset + dataLen.toUInt32).toNat = (req.offset.toNat + dataLen.toNat) % 2 ^ 32 := by
  rw [UInt32.toNat_add, UInt16.toNat_toUInt32]

theorem copied_ram (L : Layout) (req : PayloadOtaData) (chunkData : BytePtr) (dataLen : UInt16)
    (m : OtaMachine) :
    (copied L req (bytesAt chunkData 0 dataLen.toNat) m).ram =
      m.ram.store (L.stagingBuffer + BitVec.ofNat 32 req.offset.toNat) dataLen.toNat
        (BytePtr.ofList (bytesAt chunkData 0 dataLen.toNat)) := by
  unfold copied
  rw [length_bytesAt]

/-- The staging buffer after a copy. -/
theorem staging_copied {L : Layout} {m : OtaMachine} {req : PayloadOtaData} {chunk : List UInt8}
    (hfit : req.offset.toNat + chunk.length ≤ 163840) {i : Nat} (hi : i < 163840) :
    L.staging (copied L req chunk m).ram i =
      if req.offset.toNat ≤ i ∧ i < req.offset.toNat + chunk.length then
        chunk.getD (i - req.offset.toNat) 0
      else L.staging m.ram i :=
  Mem.ptr_store_within m.ram L.stagingBuffer (BytePtr.ofList chunk) (by omega) (by omega)

/-- The end of a copy inside the buffer. -/
theorem toNat_bytesWritten_copied {L : Layout} {m : OtaMachine} {req : PayloadOtaData}
    {chunk : List UInt8} (hfit : req.offset.toNat + chunk.length ≤ 163840) :
    (copied L req chunk m).svc.bytesWritten.toNat = req.offset.toNat + chunk.length := by
  show (req.offset + UInt32.ofNat chunk.length).toNat = _
  rw [UInt32.toNat_add, UInt32.toNat_ofNat', Nat.add_mod_mod]
  exact Nat.mod_eq_of_lt (by omega)

/-- A copy inside the buffer is carried out: its bytes are the only change to the RAM. -/
theorem step_data_of_copies {L : Layout} {c : Option SystemController} {req : PayloadOtaData}
    {chunkData : BytePtr} {dataLen : UInt16} {m : OtaMachine}
    (h : Copies m.svc req chunkData dataLen)
    (hfit : req.offset.toNat + dataLen.toNat ≤ 163840) :
    ∃ st m', step L m (c, .data req chunkData dataLen) = some (st, m') ∧
      m'.ram = m.ram.store (L.stagingBuffer + BitVec.ofNat 32 req.offset.toNat) dataLen.toNat
        (BytePtr.ofList (bytesAt chunkData 0 dataLen.toNat)) := by
  have hram := copied_ram L req chunkData dataLen m
  have hlen : req.offset.toNat + (bytesAt chunkData 0 dataLen.toNat).length ≤ 163840 := by
    rw [length_bytesAt]
    exact hfit
  obtain ⟨st, m', hcopy⟩ := @copyChunk_isSome L c req _ m hlen
  obtain ⟨-, -, e, rfl⟩ := copyChunk_eq_some hcopy
  refine ⟨st, (copied L req (bytesAt chunkData 0 dataLen.toNat) m).withError e, ?_, hram⟩
  simp only [step, handleData_of_copies h]
  exact hcopy

/-- **Staging bounds.**  In every state a run reaches, a request stays inside the image, and inside
the buffer, whenever it is copied, exactly when it is not one whose 32-bit sum wraps around with a
chunk checksum that is accepted. -/
theorem copy_within_image_iff {L : Layout} {ram : Mem 32} {t : Trace} {m : OtaMachine}
    (h : Runs L ram t m) (c : Option SystemController) (req : PayloadOtaData)
    (chunkData : BytePtr) (dataLen : UInt16) :
    (Copies m.svc req chunkData dataLen →
        req.offset.toNat + dataLen.toNat ≤ m.svc.totalImageSize.toNat ∧
          m.svc.totalImageSize.toNat ≤ 163840 ∧
          ∃ st m', step L m (c, .data req chunkData dataLen) = some (st, m') ∧
            m'.ram = m.ram.store (L.stagingBuffer + BitVec.ofNat 32 req.offset.toNat)
              dataLen.toNat (BytePtr.ofList (bytesAt chunkData 0 dataLen.toNat))) ↔
      ¬ (m.svc.state = .receiving ∧ Wraps m.svc req dataLen ∧
        (chunkCrcOk req dataLen).run chunkData = true) := by
  have hsize := (runs_inv h).size_le
  have hsum := toNat_add_len req dataLen
  constructor
  · rintro hin ⟨hs, ⟨hwrap, hle⟩, hcrc⟩
    obtain ⟨hbound, -⟩ := hin ⟨hs, hle, hcrc⟩
    omega
  · intro hno hcopies
    obtain ⟨hs, hle, hcrc⟩ := hcopies
    have hlt : req.offset.toNat + dataLen.toNat < 2 ^ 32 := by
      by_contra hge
      exact hno ⟨hs, ⟨Nat.not_lt.1 hge, hle⟩, hcrc⟩
    have hbound : req.offset.toNat + dataLen.toNat ≤ m.svc.totalImageSize.toNat := by
      rw [Nat.mod_eq_of_lt hlt] at hsum
      rw [← hsum]
      exact UInt32.le_iff_toNat_le.1 hle
    exact ⟨hbound, hsize, step_data_of_copies ⟨hs, hle, hcrc⟩ (hbound.trans hsize)⟩

theorem copy_within_image_iff_first_byte :
    ∃ t m, Runs Layout.lowest (fun _ => 0) t m ∧ Copies m.svc ⟨0, 1, 0⟩ (fun _ => 7) 1 ∧
      (0 : UInt32).toNat + (1 : UInt16).toNat ≤ m.svc.totalImageSize.toNat := by
  have hexec : (Machine.exec (OtaMachine.step Layout.lowest) (start fun _ => 0)
      (blankUpload.take 1)).any
      (fun r => Copies r.2.svc ⟨0, 1, 0⟩ (fun _ => 7) 1) = true := by
    decide +kernel
  obtain ⟨t, m, hrun, -, hp⟩ := Machine.exec_any hexec
  have hcopies := of_decide_eq_true hp
  refine ⟨t, m, hrun, hcopies, ?_⟩
  refine ((copy_within_image_iff hrun none ⟨0, 1, 0⟩ (fun _ => 7) 1).2 ?_ hcopies).1
  rintro ⟨-, ⟨hwrap, -⟩, -⟩
  exact absurd hwrap (by decide)

/-- One byte at offset `0xFFFFFFFF` of an image of one byte is copied. -/
theorem copy_past_image :
    ¬ ∀ (L : Layout) (ram : Mem 32) (t : Trace) (m : OtaMachine), Runs L ram t m →
      ∀ (req : PayloadOtaData) (chunkData : BytePtr) (dataLen : UInt16),
        Copies m.svc req chunkData dataLen →
          req.offset.toNat + dataLen.toNat ≤ m.svc.totalImageSize.toNat ∧
            m.svc.totalImageSize.toNat ≤ 163840 := by
  intro h
  have hexec : (Machine.exec (OtaMachine.step Layout.lowest) (start fun _ => 0)
      (blankUpload.take 1)).any
      (fun r => Copies r.2.svc ⟨0xFFFFFFFF, 1, 0⟩ (fun _ => 7) 1) = true := by
    decide +kernel
  obtain ⟨t, m, hrun, -, hp⟩ := Machine.exec_any hexec
  have hin := h _ _ _ _ hrun _ _ _ (of_decide_eq_true hp)
  have hlen := hin.1.trans hin.2
  exact absurd hlen (by decide)

end OtaMachine

end EmbeddedPixel
