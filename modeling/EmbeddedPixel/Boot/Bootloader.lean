import EmbeddedPixel.Foundation.Flash
import EmbeddedPixel.Proto.ProtocolTypes
import EmbeddedPixel.Sys.Version

/-!
# The bootloader (`boards/nucleo_h7s3l8/apps/bootloader/main.cpp`)

`checkAndInstallOta` and `main` as programs over the RAM and the external flash (`EXTMEM_*` on
Slot A, which begins at flash address 0).  `gate` is the part of `check_and_install_ota` before the
first flash command, with every early return; the RAM is not written before it has decided.  Console
output is left out, and the data cache is coherent here.

Principal results: `gate_eq_install` — exactly which RAM the gate lets through (`Accepts`);
`programSlotA_eq` — the three loops issue the commands of `plan`, in order, and compare the checksum
of what was read back; `checkAndInstallOta_of_install` and `checkAndInstallOta_log` — what follows
for the whole function.
-/

set_option autoImplicit false

namespace EmbeddedPixel.Bootloader

open Foundation

def RAM_CONTROL_BLOCK_BASE : BitVec 32 := 0x24070000#32

def BOOTLOADER_VERSION : UInt32 := MAKE_VERSION 1 0 0 0

/-! ## The gate -/

/-- The control block at a pointer, when it is a valid pending update. -/
def pendingBlock (ramBlk : BytePtr) : Option OtaControlBlock :=
  let blk := OtaControlBlock.ofPtr ramBlk
  if blk.magic = OTA_MAGIC then
    if blk.structCrc32 = Crc32.calculate (bytesAt ramBlk 0 28) ∧
        blk.state = OtaState.pendingInstall.code then some blk
    else none
  else none

def isRamStaging (blk : OtaControlBlock) : Bool :=
  0x20000000 ≤ blk.stagingAddress && blk.stagingAddress < 0x30000000

/-- The staged image. -/
def stagedImage (ram : Mem 32) (blk : OtaControlBlock) : BytePtr :=
  ram.ptr blk.stagingAddress.toBitVec

/-- `staged_crc32`: zero for an image that is not staged in RAM. -/
def stagedCrc32 (ram : Mem 32) (blk : OtaControlBlock) : UInt32 :=
  if isRamStaging blk then
    Crc32.calculate (bytesAt (stagedImage ram blk) 0 blk.imageSize.toNat)
  else 0

/-- The three rejections of an embedded header. -/
inductive HeaderFault where
  | checksum
  | board
  | bootloaderVersion
  deriving DecidableEq, Repr

/-- The check of the embedded header, if there is one. -/
def headerFault (image : BytePtr) (imageSize : UInt32) : Option HeaderFault :=
  if imageSize.toNat ≥ APP_HEADER_FLASH_OFFSET + APP_IMAGE_HEADER_SIZE then
    let appHdr := image.advance APP_HEADER_FLASH_OFFSET
    let hdr := AppImageHeader.ofPtr appHdr
    if hdr.magic = EPFW_MAGIC then
      if !AppImageHeader.isValid appHdr then some .checksum
      else if hdr.boardId ≠ BoardId.nucleoH7S3L8.code then some .board
      else if BOOTLOADER_VERSION < hdr.minBootloaderVersion then some .bootloaderVersion
      else none
    else none
  else none

/-- What is decided before the flash is touched. -/
inductive Gate where
  /-- No pending block, or one of no or too large a size: `POWER_ON`. -/
  | noUpdate
  /-- The staged image or its header is refused: the block is cleared, `FAULT`. -/
  | reject
  | install (blk : OtaControlBlock)

def gate (ram : Mem 32) : Gate :=
  match pendingBlock (ram.ptr RAM_CONTROL_BLOCK_BASE) with
  | none => .noUpdate
  | some blk =>
    if blk.imageSize = 0 ∨ blk.imageSize > 8 * 1024 * 1024 then .noUpdate
    else if stagedCrc32 ram blk ≠ blk.imageCrc32 then .reject
    else if (headerFault (stagedImage ram blk) blk.imageSize).isSome then .reject
    else .install blk

/-- The checks before the erase, all passed. -/
structure Accepts (ram : Mem 32) (blk : OtaControlBlock) : Prop where
  pending : pendingBlock (ram.ptr RAM_CONTROL_BLOCK_BASE) = some blk
  size_ne : blk.imageSize ≠ 0
  size_le : blk.imageSize ≤ 8 * 1024 * 1024
  staged : stagedCrc32 ram blk = blk.imageCrc32
  header : headerFault (stagedImage ram blk) blk.imageSize = none

theorem pendingBlock_eq_some {p : BytePtr} {blk : OtaControlBlock} :
    pendingBlock p = some blk ↔
      blk = OtaControlBlock.ofPtr p ∧ blk.magic = OTA_MAGIC ∧
        blk.structCrc32 = Crc32.calculate (bytesAt p 0 28) ∧
        blk.state = OtaState.pendingInstall.code := by
  unfold pendingBlock
  constructor
  · intro h
    dsimp only at h
    split at h
    · split at h
      · cases h
        rename_i hm hc
        exact ⟨rfl, hm, hc.1, hc.2⟩
      · cases h
    · cases h
  · rintro ⟨rfl, hm, hc, hs⟩
    dsimp only
    rw [if_pos hm, if_pos ⟨hc, hs⟩]

theorem gate_eq_install {ram : Mem 32} {blk : OtaControlBlock} :
    gate ram = .install blk ↔ Accepts ram blk := by
  constructor
  · intro h
    unfold gate at h
    split at h
    · cases h
    · rename_i b hb
      split at h
      · cases h
      · rename_i hsize
        split at h
        · cases h
        · rename_i hcrc
          split at h
          · cases h
          · rename_i hhdr
            cases h
            obtain ⟨h0, hmax⟩ := not_or.1 hsize
            exact ⟨hb, h0, UInt32.not_lt.1 hmax, not_not.1 hcrc, by simpa using hhdr⟩
  · rintro ⟨hb, h0, hmax, hcrc, hhdr⟩
    unfold gate
    rw [hb]
    dsimp only
    rw [if_neg (not_or.2 ⟨h0, UInt32.not_lt.2 hmax⟩), if_neg (not_not.2 hcrc), if_neg (by simp [hhdr])]

/-! ## Installing -/

/-- The block `write_boot_info` writes. -/
def bootInfo (reason : BootReason) : BootInfo :=
  let info : BootInfo := ⟨BOOT_INFO_MAGIC, BOOTLOADER_VERSION, reason.code, 0, 1, 0, 0, 0⟩
  { info with structCrc32 := Crc32.calculate info.body }

/-- `write_boot_info`. -/
def writeBootInfo (reason : BootReason) : Prog 32 Unit :=
  Prog.put BOOT_INFO_RAM_ADDRESS (bootInfo reason).toBytes

/-- `memset(RAM_CONTROL_BLOCK_BASE, 0, sizeof(blk))`. -/
def clearControlBlock : Prog 32 Unit := Prog.put RAM_CONTROL_BLOCK_BASE (List.replicate 32 0)

/-- `erase_size`. -/
def eraseSize (blk : OtaControlBlock) : UInt32 := (blk.imageSize + 4095) &&& ~~~4095

/-- The erase loop from sector address `cur`. -/
def eraseLoop (stop : Nat) : (fuel cur : Nat) → Prog 32 Bool
  | 0, _ => pure true
  | fuel + 1, cur =>
    if cur < stop then do
      let ok ← Prog.succeeds (.erase cur 4096)
      if ok then eraseLoop stop fuel (cur + 4096) else pure false
    else pure true

/-- The program loop from `offset`, in chunks of 1024 bytes. -/
def writeLoop (image : BytePtr) (stop : Nat) : (fuel offset : Nat) → Prog 32 Bool
  | 0, _ => pure true
  | fuel + 1, offset =>
    if offset < stop then do
      let toCopy := min 1024 (stop - offset)
      let ok ← Prog.succeeds (.write offset (bytesAt image offset toCopy))
      if ok then writeLoop image stop fuel (offset + toCopy) else pure false
    else pure true

/-- The read-back loop from `offset`: the running checksum, unless a read is refused. -/
def verifyLoop (stop : Nat) : (fuel offset : Nat) → (currentCrc : UInt32) → Prog 32 (Option UInt32)
  | 0, _, currentCrc => pure (some currentCrc)
  | fuel + 1, offset, currentCrc =>
    if offset < stop then do
      let toRead := min 1024 (stop - offset)
      let buffer ← Prog.readBack offset toRead
      match buffer with
      | none => pure none
      | some buffer => verifyLoop stop fuel (offset + toRead) (Crc32.update currentCrc buffer)
    else pure (some currentCrc)

/-- Erases, programs and verifies Slot A; each loop is given as many iterations as it can need. -/
def programSlotA (image : BytePtr) (blk : OtaControlBlock) : Prog 32 Bool := do
  let size := blk.imageSize.toNat
  let erased ← eraseLoop (eraseSize blk).toNat (eraseSize blk).toNat 0
  if erased then do
    let written ← writeLoop image size size 0
    if written then do
      let currentCrc ← verifyLoop size size 0 Crc32.INITIAL_REMAINDER
      pure (currentCrc.any fun crc => Crc32.finalize crc == blk.imageCrc32)
    else pure false
  else pure false

/-- `check_and_install_ota` past the gate. -/
def install (image : BytePtr) (blk : OtaControlBlock) : Prog 32 Unit := do
  let ok ← programSlotA image blk
  if ok then do
    clearControlBlock
    writeBootInfo .otaUpdate
  else writeBootInfo .fault

/-- `check_and_install_ota`. -/
def checkAndInstallOta : Prog 32 Unit := do
  let ram ← Prog.memory
  match gate ram with
  | .noUpdate => writeBootInfo .powerOn
  | .reject => do
    clearControlBlock
    writeBootInfo .fault
  | .install blk => install (stagedImage ram blk) blk

/-- How `main` ends. -/
inductive MainEnd where
  | jumpToApplication
  | recoveryLoop
  deriving DecidableEq, Repr

/-- `main`, given what `MX_EXTMEM_MANAGER_Init` returned. -/
def main (status : Int) : Prog 32 MainEnd :=
  if status = 0 then do
    checkAndInstallOta
    pure .jumpToApplication
  else pure .recoveryLoop

/-! ## The commands of an installation -/

/-- The flash commands of an installation. -/
def plan (image : BytePtr) (blk : OtaControlBlock) : List FlashCmd :=
  installPlan 4096 1024 (eraseSize blk).toNat blk.imageSize.toNat image

theorem issue_erases (stop : Nat) (acc : List UInt8) : ∀ fuel cur,
    Prog.issue ((sectorsFrom 4096 stop fuel cur).map (.erase · 4096)) acc =
      eraseLoop stop fuel cur >>= fun ok => pure (if ok then some acc else none) := by
  intro fuel
  induction fuel with
  | zero => intro cur; rfl
  | succ fuel ih =>
      intro cur
      unfold sectorsFrom eraseLoop
      split
      · show Prog.flash _ _ = Prog.flash _ _
        congr 1
        funext ok data
        cases ok with
        | false => rfl
        | true =>
            have hkept : acc ++ FlashCmd.kept (.erase cur 4096) data = acc := List.append_nil acc
            rw [if_pos rfl, hkept]
            exact ih (cur + 4096)
      · rfl

theorem issue_writes (image : BytePtr) (stop : Nat) (acc : List UInt8) : ∀ fuel offset,
    Prog.issue ((chunksFrom 1024 stop fuel offset).map fun c =>
        .write c.1 (bytesAt image c.1 c.2)) acc =
      writeLoop image stop fuel offset >>= fun ok => pure (if ok then some acc else none) := by
  intro fuel
  induction fuel with
  | zero => intro offset; rfl
  | succ fuel ih =>
      intro offset
      unfold chunksFrom writeLoop
      split
      · show Prog.flash _ _ = Prog.flash _ _
        congr 1
        funext ok data
        cases ok with
        | false => rfl
        | true =>
            have hkept : acc ++ FlashCmd.kept (.write offset
                (bytesAt image offset (min 1024 (stop - offset)))) data = acc :=
              List.append_nil acc
            rw [if_pos rfl, hkept]
            exact ih (offset + min 1024 (stop - offset))
      · rfl

theorem issue_reads (stop : Nat) (crc : UInt32) : ∀ fuel offset acc,
    (Prog.issue ((chunksFrom 1024 stop fuel offset).map fun c => .read c.1 c.2) acc >>= fun r =>
      pure (r.map (Crc32.update crc))) = verifyLoop stop fuel offset (Crc32.update crc acc) := by
  intro fuel
  induction fuel with
  | zero => intro offset acc; rfl
  | succ fuel ih =>
      intro offset acc
      unfold chunksFrom verifyLoop
      split
      · show Prog.flash _ _ = Prog.flash _ _
        congr 1
        funext ok data
        cases ok with
        | false => rfl
        | true =>
            have h := ih (offset + min 1024 (stop - offset)) (acc ++ data)
            rw [Crc32.update_append] at h
            exact h
      · rfl

/-- **The three loops issue the plan**, and the verdict compares the checksum of the bytes read
back. -/
theorem programSlotA_eq (image : BytePtr) (blk : OtaControlBlock) :
    programSlotA image blk = Prog.issue (plan image blk) [] >>= fun r =>
      pure (r.any fun data => Crc32.calculate data == blk.imageCrc32) := by
  have hreads := issue_reads blk.imageSize.toNat Crc32.INITIAL_REMAINDER blk.imageSize.toNat 0 []
  unfold programSlotA plan installPlan
  simp only [Prog.issue_append, issue_erases, issue_writes, bind_assoc, pure_bind]
  congr 1
  funext erased
  cases erased with
  | false => rfl
  | true =>
      simp only [if_true, bind_assoc]
      congr 1
      funext written
      cases written with
      | false => rfl
      | true =>
          simp only [if_true]
          rw [← Crc32.update_nil Crc32.INITIAL_REMAINDER, ← hreads]
          simp only [bind_assoc]
          congr 1
          funext r
          cases r with
          | none => rfl
          | some data => rfl

/-! ## Outcomes -/

section Outcomes

variable (nor : Nor)

/-- The RAM with a new boot handover. -/
def withBootInfo (reason : BootReason) (ram : Mem 32) : Mem 32 :=
  ram.store BOOT_INFO_RAM_ADDRESS 32 (BytePtr.ofList (bootInfo reason).toBytes)

/-- The RAM with the control block cleared. -/
def cleared (ram : Mem 32) : Mem 32 :=
  ram.store RAM_CONTROL_BLOCK_BASE 32 (BytePtr.ofList (List.replicate 32 0))

/-- Whether the bytes read back, if none was refused, have the block's checksum. -/
def verified (blk : OtaControlBlock) (r : Option (List UInt8)) : Bool :=
  r.any fun data => Crc32.calculate data == blk.imageCrc32

/-- The RAM an installation leaves when the power stayed on. -/
def installedRam (blk : OtaControlBlock) (r : Option (List UInt8)) (ram : Mem 32) : Mem 32 :=
  if verified blk r then withBootInfo .otaUpdate (cleared ram) else withBootInfo .fault ram

/-- The installation of a block, in terms of its plan. -/
theorem exec_install (image : BytePtr) (blk : OtaControlBlock) (s : World 32)
    (rs : List FlashReply) :
    (install image blk).exec nor s rs =
      ((Prog.issue (plan image blk) []).exec nor s rs).andThen fun r s' rest =>
        ⟨{ s' with ram := installedRam blk r s'.ram }, [], some ((), rest)⟩ := by
  unfold install
  rw [programSlotA_eq, bind_assoc, Prog.exec_bind]
  congr 1
  funext r s' rest
  rw [pure_bind]
  unfold installedRam verified
  split
  · rfl
  · rfl

theorem exec_of_noUpdate {s : World 32} (rs : List FlashReply) (h : gate s.ram = .noUpdate) :
    checkAndInstallOta.exec nor s rs =
      ⟨{ s with ram := withBootInfo .powerOn s.ram }, [], some ((), rs)⟩ := by
  unfold checkAndInstallOta
  rw [Prog.exec_memory_bind, h]
  rfl

theorem exec_of_reject {s : World 32} (rs : List FlashReply) (h : gate s.ram = .reject) :
    checkAndInstallOta.exec nor s rs =
      ⟨{ s with ram := withBootInfo .fault (cleared s.ram) }, [], some ((), rs)⟩ := by
  unfold checkAndInstallOta
  rw [Prog.exec_memory_bind, h]
  rfl

theorem exec_of_accepts {s : World 32} {blk : OtaControlBlock} (rs : List FlashReply)
    (h : Accepts s.ram blk) :
    checkAndInstallOta.exec nor s rs = (install (stagedImage s.ram blk) blk).exec nor s rs := by
  unfold checkAndInstallOta
  rw [Prog.exec_memory_bind, gate_eq_install.2 h]

/-- The power is lost during an installation. -/
theorem exec_of_lost {s : World 32} {blk : OtaControlBlock} {rs : List FlashReply}
    (h : Accepts s.ram blk) {o : Outcome 32 (Option (List UInt8))}
    (ho : (Prog.issue (plan (stagedImage s.ram blk) blk) []).exec nor s rs = o)
    (hresult : o.result = none) :
    checkAndInstallOta.exec nor s rs = ⟨o.world, o.log, none⟩ := by
  rw [exec_of_accepts nor rs h, exec_install, ho]
  unfold Outcome.andThen
  rw [hresult]

/-- The power stays on during an installation. -/
theorem exec_of_powered {s : World 32} {blk : OtaControlBlock} {rs rest : List FlashReply}
    {r : Option (List UInt8)} (h : Accepts s.ram blk) {o : Outcome 32 (Option (List UInt8))}
    (ho : (Prog.issue (plan (stagedImage s.ram blk) blk) []).exec nor s rs = o)
    (hresult : o.result = some (r, rest)) :
    checkAndInstallOta.exec nor s rs =
      ⟨{ o.world with ram := installedRam blk r o.world.ram }, o.log, some ((), rest)⟩ := by
  rw [exec_of_accepts nor rs h, exec_install, ho]
  unfold Outcome.andThen
  rw [hresult]
  dsimp only
  rw [List.append_nil]

/-- The log of an installation is that of its plan. -/
theorem log_of_accepts {s : World 32} {blk : OtaControlBlock} (rs : List FlashReply)
    (h : Accepts s.ram blk) :
    (checkAndInstallOta.exec nor s rs).log =
      ((Prog.issue (plan (stagedImage s.ram blk) blk) []).exec nor s rs).log := by
  generalize ho : (Prog.issue (plan (stagedImage s.ram blk) blk) []).exec nor s rs = o
  rcases hr : o.result with _ | ⟨r, rest⟩
  · rw [exec_of_lost nor h ho hr]
  · rw [exec_of_powered nor h ho hr]

/-- **Only accepted RAM reaches the flash**: otherwise no command is issued and `main` goes on. -/
theorem exec_of_not_accepts {s : World 32} (rs : List FlashReply)
    (h : ∀ blk, ¬ Accepts s.ram blk) :
    (checkAndInstallOta.exec nor s rs).log = [] ∧
      (checkAndInstallOta.exec nor s rs).world.flash = s.flash ∧
      (checkAndInstallOta.exec nor s rs).result = some ((), rs) := by
  cases hg : gate s.ram with
  | noUpdate =>
      rw [exec_of_noUpdate nor rs hg]
      exact ⟨rfl, rfl, rfl⟩
  | reject =>
      rw [exec_of_reject nor rs hg]
      exact ⟨rfl, rfl, rfl⟩
  | install blk => exact absurd (gate_eq_install.1 hg) (h blk)

/-- `erase_size` is the image's size rounded up to whole sectors. -/
theorem toNat_eraseSize {blk : OtaControlBlock} (hmax : blk.imageSize ≤ 8 * 1024 * 1024) :
    (eraseSize blk).toNat = (blk.imageSize.toNat + 4095) / 4096 * 4096 := by
  have hsize : blk.imageSize.toNat ≤ 8388608 := hmax
  have hadd : (blk.imageSize + 4095).toNat = blk.imageSize.toNat + 4095 := by
    rw [UInt32.toNat_add, show (4095 : UInt32).toNat = 4095 from rfl]
    exact Nat.mod_eq_of_lt (by omega)
  have hmask : (eraseSize blk).toNat = (blk.imageSize + 4095).toNat / 2 ^ 12 * 2 ^ 12 :=
    toNat_and_mask (by decide) _
  rw [hmask, hadd]
  rfl

/-- The number of bytes erased covers the image and is not zero. -/
theorem imageSize_le_eraseSize {blk : OtaControlBlock} (h0 : blk.imageSize ≠ 0)
    (hmax : blk.imageSize ≤ 8 * 1024 * 1024) :
    0 < blk.imageSize.toNat ∧ blk.imageSize.toNat ≤ (eraseSize blk).toNat := by
  have hpos : blk.imageSize.toNat ≠ 0 := fun h => h0 (UInt32.toNat_inj.1 h)
  rw [toNat_eraseSize hmax]
  omega

/-- The plan begins with the first sector. -/
theorem plan_eq_erase_cons {blk : OtaControlBlock} (image : BytePtr) (h0 : blk.imageSize ≠ 0)
    (hmax : blk.imageSize ≤ 8 * 1024 * 1024) :
    ∃ cs, plan image blk = .erase 0 4096 :: cs := by
  obtain ⟨hpos, hle⟩ := imageSize_le_eraseSize h0 hmax
  unfold plan installPlan
  generalize (eraseSize blk).toNat = n at hle
  cases n with
  | zero => omega
  | succ n =>
      rw [sectorsFrom, if_pos (by omega)]
      exact ⟨_, rfl⟩

/-- An accepted block has its first sector erased, unless the power is lost before. -/
theorem erases_of_accepts {s : World 32} {blk : OtaControlBlock} (r : FlashReply)
    (rs : List FlashReply) (h : Accepts s.ram blk) :
    ∃ e ∈ (checkAndInstallOta.exec nor s (r :: rs)).log, e.cmd = .erase 0 4096 := by
  obtain ⟨cs, hcs⟩ := plan_eq_erase_cons (stagedImage s.ram blk) h.size_ne h.size_le
  rw [log_of_accepts nor _ h, hcs, Prog.exec_issue_cons]
  split
  · exact ⟨_, List.mem_cons_self, nor.answer_cmd _ _ _⟩
  · exact ⟨_, List.mem_cons_self, nor.answer_cmd _ _ _⟩

end Outcomes

end EmbeddedPixel.Bootloader
