import EmbeddedPixel.Boot.Bootloader

/-!
# Installing: integrity, retries and the jump

Three results about whole boots.  `erases_only_staged_iff` — exactly when an erase implies that the
bytes at the staging address have the block's checksum.  `retry_installs` — an installation that
ended early, any number of times and in any way, is completed by the first boot whose flash commands
are carried out.  `jump_only_intact_iff` — exactly when `main` starts the application only with a
Slot A that this boot left alone or verified.

`Kept` is the invariant of the retries: the control block and the staged image are those of the
start, which is all that `Accepts` looks at (`Accepts.of_kept`).
-/

set_option autoImplicit false

namespace EmbeddedPixel.Bootloader

open Foundation

variable {nor : Nor}

/-- The block in RAM, valid or not. -/
def ramBlock (ram : Mem 32) : OtaControlBlock := OtaControlBlock.ofPtr (ram.ptr RAM_CONTROL_BLOCK_BASE)

theorem Accepts.eq_ramBlock {ram : Mem 32} {blk : OtaControlBlock} (h : Accepts ram blk) :
    blk = ramBlock ram :=
  (pendingBlock_eq_some.1 h.pending).1

/-- The checksum of the bytes at the staging address. -/
def actualCrc32 (ram : Mem 32) (blk : OtaControlBlock) : UInt32 :=
  Crc32.calculate (bytesAt (stagedImage ram blk) 0 blk.imageSize.toNat)

/-! ## Staging integrity -/

/-- Some sector was told to erase. -/
def Erases (log : List FlashEntry) : Prop := ∃ e ∈ log, ∃ a n, e.cmd = .erase a n

/-- A pending block that passes every check with a staging address outside RAM: its checksum is the
default zero, which is not that of the bytes there. -/
def UncheckedStaging (ram : Mem 32) : Prop :=
  let blk := ramBlock ram
  isRamStaging blk = false ∧ blk.imageCrc32 = 0 ∧ actualCrc32 ram blk ≠ 0 ∧
    pendingBlock (ram.ptr RAM_CONTROL_BLOCK_BASE) = some blk ∧
    blk.imageSize ≠ 0 ∧ blk.imageSize ≤ 8 * 1024 * 1024 ∧
    headerFault (stagedImage ram blk) blk.imageSize = none

theorem accepts_of_log {s : World 32} {rs : List FlashReply}
    (h : (checkAndInstallOta.exec nor s rs).log ≠ []) : Accepts s.ram (ramBlock s.ram) := by
  by_contra hno
  refine h (exec_of_not_accepts nor rs fun blk hacc => hno ?_).1
  rw [← hacc.eq_ramBlock]
  exact hacc

/-- **Staging integrity.**  For every RAM: whatever the flash holds and answers, an erase implies
that the bytes at the staging address have the block's checksum, exactly when the block is not one
staged outside RAM that passes with a checksum of zero. -/
theorem erases_only_staged_iff (nor : Nor) (ram : Mem 32) :
    (∀ flash rs, Erases (checkAndInstallOta.exec nor ⟨ram, flash⟩ rs).log →
        actualCrc32 ram (ramBlock ram) = (ramBlock ram).imageCrc32) ↔
      ¬ UncheckedStaging ram := by
  constructor
  · rintro hint ⟨hout, hcrc, hne, hpending, h0, hmax, hhdr⟩
    have hstaged : stagedCrc32 ram (ramBlock ram) = (ramBlock ram).imageCrc32 := by
      unfold stagedCrc32
      rw [if_neg (by simp [hout]), hcrc]
    have hacc : Accepts ram (ramBlock ram) := ⟨hpending, h0, hmax, hstaged, hhdr⟩
    obtain ⟨e, he, hcmd⟩ :=
      erases_of_accepts nor (s := ⟨ram, fun _ => 0⟩) .ok [] hacc
    have h := hint (fun _ => 0) [.ok] ⟨e, he, 0, 4096, hcmd⟩
    exact hne (h.trans hcrc)
  · rintro hno flash rs ⟨e, he, -⟩
    have hacc : Accepts ram (ramBlock ram) :=
      accepts_of_log (s := ⟨ram, flash⟩) (List.ne_nil_of_mem he)
    have hstaged := hacc.staged
    unfold stagedCrc32 at hstaged
    by_cases hin : isRamStaging (ramBlock ram) = true
    · rw [if_pos hin] at hstaged
      exact hstaged
    · rw [if_neg hin] at hstaged
      by_contra hne
      refine hno ⟨by simpa using hin, hstaged.symm, ?_, hacc.pending, hacc.size_ne, hacc.size_le,
        hacc.header⟩
      rw [← hstaged] at hne
      exact hne

/-- A block with its checksum filled in. -/
def sealBlock (blk : OtaControlBlock) : OtaControlBlock :=
  { blk with structCrc32 := Crc32.calculate blk.body }

/-- A RAM that holds nothing but a control block. -/
def ramWith (blk : OtaControlBlock) : Mem 32 :=
  Mem.store (fun _ => 0) RAM_CONTROL_BLOCK_BASE 32 (BytePtr.ofList (sealBlock blk).toBytes)

/-- Slot B, as the comments of the control block suggest: sixteen bytes there, no checksum. -/
def slotBBlock : OtaControlBlock :=
  ⟨OTA_MAGIC, OtaState.pendingInstall.code, 16, 0, 0, 0x70800000, 0x70000000, 0⟩

/-- A NOR flash that can only clear bits. -/
def andNor : Nor where
  program := (· &&& ·)
  program_erased := by
    intro d
    show 255 &&& d = d
    exact UInt8.neg_one_and

theorem erases_unchecked_staging :
    ¬ ∀ (nor : Nor) (s : World 32) (rs : List FlashReply),
      Erases (checkAndInstallOta.exec nor s rs).log →
        actualCrc32 s.ram (ramBlock s.ram) = (ramBlock s.ram).imageCrc32 := by
  intro h
  have hlog : (checkAndInstallOta.exec andNor ⟨ramWith slotBBlock, fun _ => 0⟩ [.ok]).log =
      [⟨.erase 0 4096, true, []⟩] := by decide +kernel
  have hcrc := h andNor ⟨ramWith slotBBlock, fun _ => 0⟩ [.ok]
    ⟨⟨.erase 0 4096, true, []⟩, by simp [hlog], 0, 4096, rfl⟩
  exact absurd hcrc (by decide +kernel)

/-! ## Retries -/

/-- What an installation must not lose: the control block and the staged image. -/
structure Kept (blk : OtaControlBlock) (ram ram' : Mem 32) : Prop where
  block : ram'.read RAM_CONTROL_BLOCK_BASE 32 = ram.read RAM_CONTROL_BLOCK_BASE 32
  staged : ram'.read blk.stagingAddress.toBitVec blk.imageSize.toNat =
    ram.read blk.stagingAddress.toBitVec blk.imageSize.toNat

theorem Kept.trans {blk : OtaControlBlock} {ram ram' ram'' : Mem 32} (h : Kept blk ram ram')
    (h' : Kept blk ram' ram'') : Kept blk ram ram'' :=
  ⟨h'.block.trans h.block, h'.staged.trans h.staged⟩

theorem headerFault_congr {p q : BytePtr} {size : UInt32} (h : ∀ i < size.toNat, p i = q i) :
    headerFault p size = headerFault q size := by
  unfold headerFault
  split
  · rename_i hsize
    have hhdr : ∀ i < APP_IMAGE_HEADER_SIZE,
        p.advance APP_HEADER_FLASH_OFFSET i = q.advance APP_HEADER_FLASH_OFFSET i :=
      fun i hi => h _ (by omega)
    dsimp only
    rw [AppImageHeader.ofPtr_congr hhdr, AppImageHeader.isValid_congr hhdr]
  · rfl

/-- The gate looks at nothing else. -/
theorem Accepts.of_kept {blk : OtaControlBlock} {ram ram' : Mem 32} (h : Accepts ram blk)
    (hkept : Kept blk ram ram') : Accepts ram' blk := by
  have hblock := Mem.ptr_eq_of_read hkept.block
  have hstaged := Mem.ptr_eq_of_read hkept.staged
  refine ⟨?_, h.size_ne, h.size_le, ?_, ?_⟩
  · obtain ⟨hof, hmagic, hcrc, hstate⟩ := pendingBlock_eq_some.1 h.pending
    refine pendingBlock_eq_some.2 ⟨?_, hmagic, ?_, hstate⟩
    · rw [hof]
      exact (OtaControlBlock.ofPtr_congr hblock).symm
    · rw [hcrc]
      exact congrArg _ (Mem.read_mono hkept.block (show 28 ≤ 32 by decide)).symm
  · rw [← h.staged]
    unfold stagedCrc32
    split
    · exact congrArg _ hkept.staged
    · rfl
  · rw [← h.header]
    exact headerFault_congr hstaged

/-- The boot handover lies clear of the control block. -/
theorem bootInfo_apart : Mem.Apart BOOT_INFO_RAM_ADDRESS 32 RAM_CONTROL_BLOCK_BASE 32 :=
  Mem.Apart.of_le (by decide) (by decide) (Or.inr (by decide))

theorem read_withBootInfo (reason : BootReason) (ram : Mem 32) :
    (withBootInfo reason ram).read BOOT_INFO_RAM_ADDRESS 32 = (bootInfo reason).toBytes := by
  refine (Mem.read_store_self ram BOOT_INFO_RAM_ADDRESS _ (by decide)).trans ?_
  exact bytesAt_ofList (bootInfo reason).toBytes

theorem read_cleared (reason : BootReason) (ram : Mem 32) :
    (withBootInfo reason (cleared ram)).read RAM_CONTROL_BLOCK_BASE 32 = List.replicate 32 0 := by
  refine (Mem.read_store_apart (cleared ram) _ bootInfo_apart).trans ?_
  exact Mem.read_store_self ram RAM_CONTROL_BLOCK_BASE _ (by decide)

theorem kept_withBootInfo {blk : OtaControlBlock} (reason : BootReason) (ram : Mem 32)
    (hstaging : Mem.Apart BOOT_INFO_RAM_ADDRESS 32 blk.stagingAddress.toBitVec
      blk.imageSize.toNat) : Kept blk ram (withBootInfo reason ram) :=
  ⟨Mem.read_store_apart ram _ bootInfo_apart, Mem.read_store_apart ram _ hstaging⟩

/-- A boot that ends early: the power is lost, a command is refused, or what was read back does not
have the checksum of the block. -/
def EndsEarly (blk : OtaControlBlock) {α : Type} (o : Outcome 32 α) : Prop :=
  o.result = none ∨ (∃ e ∈ o.log, e.ok = false) ∨
    Crc32.calculate (o.log.flatMap (·.data)) ≠ blk.imageCrc32

/-- Boots of `check_and_install_ota` that each end early, with the RAM preserved in between. -/
inductive Attempts (nor : Nor) (blk : OtaControlBlock) (s₀ : World 32) : World 32 → Prop
  | none : Attempts nor blk s₀ s₀
  | more {s : World 32} (rs : List FlashReply) : Attempts nor blk s₀ s →
      EndsEarly blk (checkAndInstallOta.exec nor s rs) →
      Attempts nor blk s₀ (checkAndInstallOta.exec nor s rs).world

/-- **A boot that ends early loses nothing.** -/
theorem kept_of_endsEarly {blk : OtaControlBlock} {s : World 32} {rs : List FlashReply}
    (hacc : Accepts s.ram blk)
    (hstaging : Mem.Apart BOOT_INFO_RAM_ADDRESS 32 blk.stagingAddress.toBitVec
      blk.imageSize.toNat)
    (hearly : EndsEarly blk (checkAndInstallOta.exec nor s rs)) :
    Kept blk s.ram (checkAndInstallOta.exec nor s rs).world.ram := by
  have hissued := Prog.exec_issue nor (plan (stagedImage s.ram blk) blk) [] s rs
  generalize ho : (Prog.issue (plan (stagedImage s.ram blk) blk) []).exec nor s rs = o at hissued
  obtain ⟨hram, -, hres⟩ := hissued
  rcases hr : o.result with _ | ⟨r, rest⟩
  · rw [exec_of_lost nor hacc ho hr, hram]
    exact ⟨rfl, rfl⟩
  · rw [exec_of_powered nor hacc ho hr] at hearly ⊢
    unfold installedRam
    by_cases hv : verified blk r = true
    · -- a verified installation does not end early
      cases r with
      | none => cases hv
      | some data =>
          rw [hr] at hres
          obtain ⟨hall, -, hdata⟩ := hres
          rcases hearly with h | ⟨e, he, hf⟩ | hne
          · cases h
          · rw [hall e he] at hf
            cases hf
          · rw [List.nil_append] at hdata
            refine absurd ?_ hne
            rw [← hdata]
            exact beq_iff_eq.1 hv
    · rw [if_neg hv, hram]
      exact kept_withBootInfo .fault s.ram hstaging

theorem Attempts.kept {blk : OtaControlBlock} {s₀ s : World 32} (hacc : Accepts s₀.ram blk)
    (hstaging : Mem.Apart BOOT_INFO_RAM_ADDRESS 32 blk.stagingAddress.toBitVec
      blk.imageSize.toNat) (h : Attempts nor blk s₀ s) : Kept blk s₀.ram s.ram := by
  induction h with
  | none => exact ⟨rfl, rfl⟩
  | more rs _ hearly ih => exact ih.trans (kept_of_endsEarly (hacc.of_kept ih) hstaging hearly)

/-- With every command carried out, an accepted image is installed. -/
theorem exec_of_ok (nor : Nor) {blk : OtaControlBlock} {s : World 32} (hacc : Accepts s.ram blk)
    (hin : isRamStaging blk = true) (rest : List FlashReply) :
    let cs := plan (stagedImage s.ram blk) blk
    let o := checkAndInstallOta.exec nor s (List.replicate cs.length .ok ++ rest)
    o.world = ⟨withBootInfo .otaUpdate (cleared s.ram), (nor.perform cs s.flash).2⟩ ∧
      o.result = some ((), rest) ∧
      ∀ i < blk.imageSize.toNat, o.world.flash i = stagedImage s.ram blk i := by
  intro cs o
  obtain ⟨hpos, hle⟩ := imageSize_le_eraseSize hacc.size_ne hacc.size_le
  obtain ⟨hbytes, hread⟩ := perform_install nor (stagedImage s.ram blk) s.flash
    (show 0 < 4096 by decide) (show 0 < 1024 by decide) hle
  obtain ⟨hworld, hresult⟩ := Prog.exec_issue_ok nor cs [] s rest
  have hcrc : verified blk (some (nor.perform cs s.flash).1) = true := by
    have hstaged := hacc.staged
    unfold stagedCrc32 at hstaged
    rw [if_pos hin] at hstaged
    show (Crc32.calculate (nor.perform cs s.flash).1 == blk.imageCrc32) = true
    rw [← hstaged]
    exact beq_iff_eq.2 (congrArg _ hread)
  have ho := exec_of_powered nor hacc rfl hresult
  unfold installedRam at ho
  rw [if_pos (by simpa using hcrc), hworld] at ho
  have ho : o = _ := ho
  rw [ho]
  exact ⟨rfl, rfl, hbytes⟩

theorem noUpdate_of_cleared (ram : Mem 32) (reason : BootReason) :
    gate (withBootInfo reason (cleared ram)) = .noUpdate := by
  have hbytes := Mem.ptr_eq_of_read ((read_cleared reason ram).trans
    (show List.replicate 32 0 = Mem.read (fun _ => 0) RAM_CONTROL_BLOCK_BASE 32 by decide))
  have hmagic : (OtaControlBlock.ofPtr
      ((withBootInfo reason (cleared ram)).ptr RAM_CONTROL_BLOCK_BASE)).magic = 0 := by
    rw [OtaControlBlock.ofPtr_congr hbytes]
    rfl
  unfold gate pendingBlock
  dsimp only
  rw [hmagic, if_neg (by decide)]

/-- **A failed install can always be retried.**  After any number of boots that ended early, the
control block and the staged image are those of the start; a boot whose flash commands are all
carried out then leaves the staged image in Slot A, the control block cleared and `OTA_UPDATE` as the
boot reason, and the boot after it leaves the flash alone. -/
theorem retry_installs {blk : OtaControlBlock} {s₀ s : World 32} (hacc : Accepts s₀.ram blk)
    (hin : isRamStaging blk = true)
    (hinfo : Mem.Apart BOOT_INFO_RAM_ADDRESS 32 blk.stagingAddress.toBitVec blk.imageSize.toNat)
    (h : Attempts nor blk s₀ s) :
    s.ram.read RAM_CONTROL_BLOCK_BASE 32 = s₀.ram.read RAM_CONTROL_BLOCK_BASE 32 ∧
      s.ram.read blk.stagingAddress.toBitVec blk.imageSize.toNat =
        s₀.ram.read blk.stagingAddress.toBitVec blk.imageSize.toNat ∧
      ∀ rs : List FlashReply, (∀ r ∈ rs, r = .ok) →
        (plan (stagedImage s.ram blk) blk).length ≤ rs.length →
        let o := checkAndInstallOta.exec nor s rs
        (∀ i < blk.imageSize.toNat, o.world.flash i = stagedImage s₀.ram blk i) ∧
          o.world.ram.read RAM_CONTROL_BLOCK_BASE 32 = List.replicate 32 0 ∧
          BootInfo.ofPtr (o.world.ram.ptr BOOT_INFO_RAM_ADDRESS) = bootInfo .otaUpdate ∧
          ∀ rs', (checkAndInstallOta.exec nor o.world rs').log = [] ∧
            (checkAndInstallOta.exec nor o.world rs').world.flash = o.world.flash := by
  have hkept := h.kept hacc hinfo
  refine ⟨hkept.block, hkept.staged, fun rs hok hlen => ?_⟩
  obtain ⟨rest, rfl⟩ : ∃ rest,
      rs = List.replicate (plan (stagedImage s.ram blk) blk).length .ok ++ rest := by
    refine ⟨rs.drop (plan (stagedImage s.ram blk) blk).length, ?_⟩
    have htake : rs.take (plan (stagedImage s.ram blk) blk).length =
        List.replicate (plan (stagedImage s.ram blk) blk).length .ok := by
      refine List.eq_replicate_iff.2 ⟨List.length_take_of_le hlen, fun r hr => ?_⟩
      exact hok r (List.mem_of_mem_take hr)
    rw [← htake, List.take_append_drop]
  obtain ⟨hworld, -, hflash⟩ := exec_of_ok nor (hacc.of_kept hkept) hin rest
  dsimp only at hworld hflash ⊢
  refine ⟨fun i hi => (hflash i hi).trans (Mem.ptr_eq_of_read hkept.staged i hi), ?_, ?_, ?_⟩
  · rw [hworld]
    exact read_cleared .otaUpdate s.ram
  · rw [hworld]
    exact BootInfo.ofPtr_of_bytes (read_withBootInfo .otaUpdate (cleared s.ram))
  · intro rs'
    have hgate := noUpdate_of_cleared s.ram .otaUpdate
    rw [hworld]
    refine ⟨?_, ?_⟩
    · rw [exec_of_noUpdate nor rs' hgate]
    · rw [exec_of_noUpdate nor rs' hgate]

/-- One zero byte, staged at the start of AXI SRAM. -/
def oneByteBlock : OtaControlBlock :=
  ⟨OTA_MAGIC, OtaState.pendingInstall.code, 1, Crc32.calculate [0], 0, 0x24000000, 0x70000000, 0⟩

theorem accepts_oneByteBlock : Accepts (ramWith oneByteBlock) (sealBlock oneByteBlock) :=
  ⟨by decide +kernel, by decide, by decide, by decide +kernel, by decide +kernel⟩

/-- A refused erase, then a boot whose commands are carried out. -/
theorem retry_installs_after_refused_erase :
    (checkAndInstallOta.exec andNor (checkAndInstallOta.exec andNor
      ⟨ramWith oneByteBlock, fun _ => 7⟩ [.error fun _ => 7]).world [.ok, .ok, .ok]).world.flash
        0 = 0 := by
  have hlog : (checkAndInstallOta.exec andNor ⟨ramWith oneByteBlock, fun _ => 7⟩
      [.error fun _ => 7]).log = [⟨.erase 0 4096, false, []⟩] := by decide +kernel
  have hattempts : Attempts andNor (sealBlock oneByteBlock) ⟨ramWith oneByteBlock, fun _ => 7⟩
      (checkAndInstallOta.exec andNor ⟨ramWith oneByteBlock, fun _ => 7⟩
        [.error fun _ => 7]).world :=
    .more _ .none (Or.inr (Or.inl ⟨⟨.erase 0 4096, false, []⟩, by rw [hlog]; simp, rfl⟩))
  have hinfo : Mem.Apart BOOT_INFO_RAM_ADDRESS 32
      (sealBlock oneByteBlock).stagingAddress.toBitVec
      (sealBlock oneByteBlock).imageSize.toNat :=
    Mem.Apart.of_le (by decide) (by decide) (Or.inr (by decide))
  obtain ⟨-, -, hnext⟩ := retry_installs accepts_oneByteBlock (by decide) hinfo hattempts
  obtain ⟨hflash, -⟩ := hnext [.ok, .ok, .ok] (by simp) (by decide +kernel)
  exact (hflash 0 (by decide)).trans (by decide +kernel)

/-! ## The jump -/

/-- `main` starts the application. -/
def Jumps (o : Outcome 32 MainEnd) : Prop := o.result.map (·.1) = some .jumpToApplication

instance (o : Outcome 32 MainEnd) : Decidable (Jumps o) := by
  unfold Jumps
  infer_instance

/-- Nothing was erased or programmed. -/
def Untouched (log : List FlashEntry) : Prop := ∀ e ∈ log, e.cmd.changes = false

instance (log : List FlashEntry) : Decidable (Untouched log) := by
  unfold Untouched
  infer_instance

/-- Every command of the installation was issued and succeeded, and the bytes read back have the
block's checksum. -/
def Verified (ram : Mem 32) (log : List FlashEntry) : Prop :=
  log.map (·.cmd) = plan (stagedImage ram (ramBlock ram)) (ramBlock ram) ∧
    (∀ e ∈ log, e.ok = true) ∧
    Crc32.calculate (log.flatMap (·.data)) = (ramBlock ram).imageCrc32

/-- How the flash answers the commands for a block: it refuses none before the power is lost, and if
the power lasts for all of them, the bytes read back have the block's checksum. -/
def FlashSound (nor : Nor) (s : World 32) (rs : List FlashReply) (blk : OtaControlBlock) : Prop :=
  let cmds := plan (stagedImage s.ram blk) blk
  let entries := nor.answers cmds s.flash rs
  (∀ e ∈ entries, e.ok = true) ∧
    (cmds.length ≤ rs.length → Crc32.calculate (entries.flatMap (·.data)) = blk.imageCrc32)

/-- A sound flash, in terms of how the commands end. -/
theorem flashSound_iff (nor : Nor) (s : World 32) (rs : List FlashReply) (blk : OtaControlBlock) :
    FlashSound nor s rs blk ↔
      match ((Prog.issue (plan (stagedImage s.ram blk) blk) []).exec nor s rs).result with
      | none => True
      | some (none, _) => False
      | some (some data, _) => Crc32.calculate data = blk.imageCrc32 := by
  unfold FlashSound
  dsimp only
  rcases Prog.result_issue nor (plan (stagedImage s.ram blk) blk) [] s rs with
    ⟨hres, hall, hlen⟩ | ⟨rest, hres, e, he, hf⟩ | ⟨rest, hres, hall, hlen⟩
  · rw [hres]
    refine ⟨fun _ => trivial, fun _ => ⟨hall, fun h => ?_⟩⟩
    omega
  · rw [hres]
    refine ⟨fun h => ?_, fun h => h.elim⟩
    rw [h.1 e he] at hf
    cases hf
  · rw [hres]
    exact ⟨fun h => h.2 hlen, fun h => ⟨hall, fun _ => h⟩⟩

theorem main_zero_log (nor : Nor) (s : World 32) (rs : List FlashReply) :
    ((main 0).exec nor s rs).log = (checkAndInstallOta.exec nor s rs).log ∧
      (Jumps ((main 0).exec nor s rs) ↔ (checkAndInstallOta.exec nor s rs).result ≠ none) := by
  unfold main Jumps
  rw [if_pos rfl, Prog.exec_bind]
  unfold Outcome.andThen
  rcases (checkAndInstallOta.exec nor s rs).result with _ | ⟨u, rest⟩
  · exact ⟨rfl, by simp⟩
  · exact ⟨List.append_nil _, by simp⟩

/-- An installation that issued a command erased the first sector. -/
theorem first_erase {image : BytePtr} {blk : OtaControlBlock} {log : List FlashEntry}
    (h0 : blk.imageSize ≠ 0) (hmax : blk.imageSize ≤ 8 * 1024 * 1024) (hne : log ≠ [])
    (hpre : log.map (·.cmd) <+: plan image blk) : ∃ e ∈ log, e.cmd = .erase 0 4096 := by
  obtain ⟨cs, hcs⟩ := plan_eq_erase_cons image h0 hmax
  obtain ⟨e, es, rfl⟩ := List.exists_cons_of_ne_nil hne
  rw [hcs, List.map_cons, List.cons_prefix_cons] at hpre
  exact ⟨e, List.mem_cons_self, hpre.1⟩

/-- What an installation issued when the power stayed on: an erase at least, and the verdict is right
about the log. -/
theorem log_of_issued {s : World 32} {blk : OtaControlBlock}
    {o : Outcome 32 (Option (List UInt8))} {r : Option (List UInt8)} {rest : List FlashReply}
    (hacc : Accepts s.ram blk)
    (hissued : Prog.Issued (plan (stagedImage s.ram blk) blk) [] s o)
    (hr : o.result = some (r, rest)) :
    (∃ e ∈ o.log, e.cmd = .erase 0 4096) ∧ (Verified s.ram o.log ↔ verified blk r = true) := by
  obtain ⟨-, hpre, hres⟩ := hissued
  rw [hr] at hres
  unfold Verified
  rw [← hacc.eq_ramBlock]
  cases r with
  | none =>
      obtain ⟨e, he, hf⟩ := hres
      refine ⟨first_erase hacc.size_ne hacc.size_le (List.ne_nil_of_mem he) hpre, ?_⟩
      refine iff_of_false (fun h => ?_) (by simp [verified])
      rw [h.2.1 e he] at hf
      cases hf
  | some data =>
      obtain ⟨hall, hcmds, hdata⟩ := hres
      obtain ⟨cs, hcs⟩ := plan_eq_erase_cons (stagedImage s.ram blk) hacc.size_ne hacc.size_le
      have hne : o.log ≠ [] := by
        intro hnil
        rw [hnil, hcs] at hcmds
        cases hcmds
      refine ⟨first_erase hacc.size_ne hacc.size_le hne hpre, ?_⟩
      rw [List.nil_append] at hdata
      show _ ↔ (Crc32.calculate data == blk.imageCrc32) = true
      rw [beq_iff_eq, hdata]
      exact ⟨fun h => h.2.2, fun h => ⟨hcmds, hall, h⟩⟩

/-- **The jump.**  For every RAM, flash, initialisation status and pattern of replies: `main` starts
the application only when this boot left Slot A alone or verified it, exactly when every update that
is let through finds a flash that is sound for it. -/
theorem jump_only_intact_iff (nor : Nor) (s : World 32) (rs : List FlashReply) (status : Int) :
    (Jumps ((main status).exec nor s rs) →
        Untouched ((main status).exec nor s rs).log ∨
          Verified s.ram ((main status).exec nor s rs).log) ↔
      (status = 0 → ∀ blk, Accepts s.ram blk → FlashSound nor s rs blk) := by
  by_cases hstatus : status = 0
  · subst hstatus
    obtain ⟨hlog, hjump⟩ := main_zero_log nor s rs
    rw [hlog, hjump]
    by_cases hacc : Accepts s.ram (ramBlock s.ram)
    · have hissued := Prog.exec_issue nor (plan (stagedImage s.ram (ramBlock s.ram))
        (ramBlock s.ram)) [] s rs
      have hsound : ((0 : Int) = 0 → ∀ blk, Accepts s.ram blk → FlashSound nor s rs blk) ↔
          FlashSound nor s rs (ramBlock s.ram) :=
        ⟨fun h => h rfl _ hacc, fun h _ blk hblk => hblk.eq_ramBlock ▸ h⟩
      rw [hsound, flashSound_iff]
      generalize ho : (Prog.issue (plan (stagedImage s.ram (ramBlock s.ram))
        (ramBlock s.ram)) []).exec nor s rs = o at hissued ⊢
      rcases hr : o.result with _ | ⟨r, rest⟩
      · rw [exec_of_lost nor hacc ho hr]
        simp
      · obtain ⟨⟨e, he, hcmd⟩, hverdict⟩ := log_of_issued hacc hissued hr
        have htouched : ¬ Untouched o.log := by
          intro huntouched
          have hchanges := huntouched e he
          rw [hcmd] at hchanges
          cases hchanges
        rw [exec_of_powered nor hacc ho hr]
        dsimp only
        rw [or_iff_right htouched, hverdict]
        cases r with
        | none => simp [verified]
        | some data => simp [verified]
    · have hno : ∀ blk, ¬ Accepts s.ram blk := fun blk hblk => hacc (hblk.eq_ramBlock ▸ hblk)
      obtain ⟨hnil, -, -⟩ := exec_of_not_accepts nor rs hno
      refine ⟨fun _ _ blk hblk => absurd hblk (hno blk), fun _ _ => Or.inl ?_⟩
      intro e he
      rw [hnil] at he
      cases he
  · refine ⟨fun _ h => absurd h hstatus, fun _ hjump => ?_⟩
    unfold main at hjump
    rw [if_neg hstatus] at hjump
    cases hjump

/-- The first erase is refused, and the application is started. -/
theorem jump_after_refused_erase :
    ¬ ∀ (nor : Nor) (s : World 32) (rs : List FlashReply) (status : Int),
      Jumps ((main status).exec nor s rs) →
        Untouched ((main status).exec nor s rs).log ∨
          Verified s.ram ((main status).exec nor s rs).log := by
  intro h
  have hlog : ((main 0).exec andNor ⟨ramWith oneByteBlock, fun _ => 7⟩ [.error fun _ => 7]).log =
      [⟨.erase 0 4096, false, []⟩] := by decide +kernel
  have hjump := h andNor ⟨ramWith oneByteBlock, fun _ => 7⟩ [.error fun _ => 7] 0
    (by decide +kernel)
  rw [hlog] at hjump
  rcases hjump with huntouched | ⟨-, hall, -⟩
  · exact absurd (huntouched _ List.mem_cons_self) (by decide)
  · exact absurd (hall _ List.mem_cons_self) (by decide)

end EmbeddedPixel.Bootloader
