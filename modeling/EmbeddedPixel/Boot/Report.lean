import EmbeddedPixel.Boot.Install
import EmbeddedPixel.Sys.SystemController

/-!
# The report of a boot

`check_and_install_ota` leaves a `BootInfo` for the application.  `boot_reports` — for every RAM and
every pattern of flash replies it ends, the application takes the report over as it is, and the
reason says how the boot went; without an erase Slot A is as it was.

The loops are counted by `plan`: they leave by their own conditions (`LoopsEnd`) after at most
`commandLimit` commands.
-/

set_option autoImplicit false

namespace EmbeddedPixel.Bootloader

open Foundation

variable {nor : Nor}

/-! ## The loops end -/

theorem eraseLoop_eq (stop fuel cur : Nat) :
    eraseLoop stop fuel cur =
      Prog.issue ((sectorsFrom 4096 stop fuel cur).map (.erase · 4096)) [] >>= fun r =>
        pure r.isSome := by
  rw [issue_erases, bind_assoc]
  refine (bind_pure _).symm.trans (congrArg _ (funext fun ok => ?_))
  cases ok <;> rfl

theorem writeLoop_eq (image : BytePtr) (stop fuel offset : Nat) :
    writeLoop image stop fuel offset =
      Prog.issue ((chunksFrom 1024 stop fuel offset).map fun c =>
        .write c.1 (bytesAt image c.1 c.2)) [] >>= fun r => pure r.isSome := by
  rw [issue_writes, bind_assoc]
  refine (bind_pure _).symm.trans (congrArg _ (funext fun ok => ?_))
  cases ok <;> rfl

/-- No loop of an installation ends for want of iterations: more of them change nothing. -/
structure LoopsEnd (image : BytePtr) (blk : OtaControlBlock) : Prop where
  erase : ∀ fuel ≥ (eraseSize blk).toNat,
    eraseLoop (eraseSize blk).toNat fuel 0 = eraseLoop (eraseSize blk).toNat (eraseSize blk).toNat 0
  write : ∀ fuel ≥ blk.imageSize.toNat,
    writeLoop image blk.imageSize.toNat fuel 0 =
      writeLoop image blk.imageSize.toNat blk.imageSize.toNat 0
  verify : ∀ fuel ≥ blk.imageSize.toNat, ∀ crc,
    verifyLoop blk.imageSize.toNat fuel 0 crc =
      verifyLoop blk.imageSize.toNat blk.imageSize.toNat 0 crc

theorem loopsEnd (image : BytePtr) (blk : OtaControlBlock) : LoopsEnd image blk where
  erase fuel h := by
    rw [eraseLoop_eq, eraseLoop_eq, sectorsFrom_fuel (by decide) (by omega) (Nat.le_add_left _ _)]
  write fuel h := by
    rw [writeLoop_eq, writeLoop_eq, chunksFrom_eq, chunksFrom_eq,
      sectorsFrom_fuel (by decide) (by omega) (Nat.le_add_left _ _)]
  verify fuel h crc := by
    rw [← Crc32.update_nil crc, ← issue_reads, ← issue_reads, chunksFrom_eq, chunksFrom_eq,
      sectorsFrom_fuel (by decide) (by omega) (Nat.le_add_left _ _)]

/-- 2048 sectors and twice 8192 chunks. -/
def commandLimit : Nat := 18432

/-- An installation issues at most `commandLimit` commands. -/
theorem length_plan_le (image : BytePtr) {blk : OtaControlBlock}
    (hmax : blk.imageSize ≤ 8 * 1024 * 1024) : (plan image blk).length ≤ commandLimit := by
  have hsize : blk.imageSize.toNat ≤ 8388608 := hmax
  have herase := toNat_eraseSize hmax
  unfold plan installPlan
  simp only [chunksFrom_eq, List.length_append, List.length_map]
  have hsectors : (sectorsFrom 4096 (eraseSize blk).toNat (eraseSize blk).toNat 0).length ≤ 2048 :=
    length_sectorsFrom_le (by omega)
  have hchunks : (sectorsFrom 1024 blk.imageSize.toNat blk.imageSize.toNat 0).length ≤ 8192 :=
    length_sectorsFrom_le (by omega)
  unfold commandLimit
  omega

/-! ## The report -/

/-- The report is in place and the application takes it over as it is. -/
structure Reports (ram : Mem 32) (reason : BootReason) : Prop where
  stored : ram.read BOOT_INFO_RAM_ADDRESS 32 = (bootInfo reason).toBytes
  valid : BootInfo.isValid (ram.ptr BOOT_INFO_RAM_ADDRESS) = true
  taken : ∀ c : SystemController, c.init ram = { c with bootInfo := bootInfo reason }

theorem bootInfo_magic (reason : BootReason) : (bootInfo reason).magic = BOOT_INFO_MAGIC := rfl

theorem bootInfo_structCrc32 (reason : BootReason) :
    (bootInfo reason).structCrc32 = Crc32.calculate (bootInfo reason).body := rfl

theorem reports_withBootInfo (ram : Mem 32) (reason : BootReason) :
    Reports (withBootInfo reason ram) reason := by
  have hstored := read_withBootInfo reason ram
  generalize withBootInfo reason ram = ram' at hstored
  have hof : BootInfo.ofPtr (ram'.ptr BOOT_INFO_RAM_ADDRESS) = bootInfo reason :=
    BootInfo.ofPtr_of_bytes hstored
  have hbody : bytesAt (ram'.ptr BOOT_INFO_RAM_ADDRESS) 0 28 = (bootInfo reason).body := by
    have hsplit := bytesAt_add (ram'.ptr BOOT_INFO_RAM_ADDRESS) 0 28 4
    have hparts := hsplit.symm.trans (hstored.trans (bootInfo reason).toBytes_eq)
    exact List.append_inj_left hparts (length_bytesAt _ _ _)
  have hvalid : BootInfo.isValid (ram'.ptr BOOT_INFO_RAM_ADDRESS) = true := by
    unfold BootInfo.isValid
    rw [hof, hbody, bootInfo_magic, bootInfo_structCrc32]
    simp
  refine ⟨hstored, hvalid, fun c => ?_⟩
  unfold SystemController.init
  rw [if_pos hvalid, hof]

/-- No valid pending block, or one of no or too large a size. -/
def NoUpdate (ram : Mem 32) : Prop :=
  ∀ blk, pendingBlock (ram.ptr RAM_CONTROL_BLOCK_BASE) = some blk →
    blk.imageSize = 0 ∨ blk.imageSize > 8 * 1024 * 1024

/-- Slot A was erased, programmed and read back with the checksum of the block, and the control block
was cleared. -/
structure Installed (ram : Mem 32) (o : Outcome 32 Unit) : Prop where
  erased : Erases o.log
  verified : Verified ram o.log
  cleared : o.world.ram.read RAM_CONTROL_BLOCK_BASE 32 = List.replicate 32 0

theorem gate_eq_noUpdate {ram : Mem 32} : gate ram = .noUpdate ↔ NoUpdate ram := by
  unfold gate NoUpdate
  cases hb : pendingBlock (ram.ptr RAM_CONTROL_BLOCK_BASE) with
  | none => simp
  | some blk =>
      dsimp only
      by_cases hsize : blk.imageSize = 0 ∨ blk.imageSize > 8 * 1024 * 1024
      · rw [if_pos hsize]
        refine iff_of_true rfl fun b hb' => ?_
        cases hb'
        exact hsize
      · rw [if_neg hsize]
        refine iff_of_false ?_ fun h => hsize (h blk rfl)
        split
        · simp
        · split
          · simp
          · simp

/-- How a boot went, and that its report says so. -/
structure Booted (s : World 32) (o : Outcome 32 Unit) (reason : BootReason) : Prop where
  ends : o.result ≠ none
  report : Reports o.world.ram reason
  otaUpdate : reason = .otaUpdate ↔ Installed s.ram o
  powerOn : reason = .powerOn ↔ NoUpdate s.ram
  fault : reason = .fault ↔ ¬ Installed s.ram o ∧ ¬ NoUpdate s.ram
  untouched : reason = .powerOn ∨ ¬ Erases o.log → o.log = [] ∧ o.world.flash = s.flash

theorem not_installed_of_log {ram : Mem 32} {o : Outcome 32 Unit} (h : o.log = []) :
    ¬ Installed ram o := by
  rintro ⟨⟨e, he, -⟩, -, -⟩
  rw [h] at he
  cases he

theorem booted_of_noUpdate {s : World 32} (rs : List FlashReply) (h : NoUpdate s.ram) :
    Booted s (checkAndInstallOta.exec nor s rs) .powerOn := by
  rw [exec_of_noUpdate nor rs (gate_eq_noUpdate.2 h)]
  exact
    { ends := by simp
      report := reports_withBootInfo s.ram .powerOn
      otaUpdate := iff_of_false (by decide) (not_installed_of_log rfl)
      powerOn := iff_of_true rfl h
      fault := iff_of_false (by decide) fun hf => hf.2 h
      untouched := fun _ => ⟨rfl, rfl⟩ }

theorem booted_of_reject {s : World 32} (rs : List FlashReply) (h : gate s.ram = .reject) :
    Booted s (checkAndInstallOta.exec nor s rs) .fault := by
  have hupdate : ¬ NoUpdate s.ram := by
    intro hno
    rw [gate_eq_noUpdate.2 hno] at h
    cases h
  rw [exec_of_reject nor rs h]
  exact
    { ends := by simp
      report := reports_withBootInfo (cleared s.ram) .fault
      otaUpdate := iff_of_false (by decide) (not_installed_of_log rfl)
      powerOn := iff_of_false (by decide) hupdate
      fault := iff_of_true rfl ⟨not_installed_of_log rfl, hupdate⟩
      untouched := fun _ => ⟨rfl, rfl⟩ }

/-- An accepted block, when every command of its installation is answered. -/
theorem booted_of_accepts {s : World 32} {blk : OtaControlBlock} {rs : List FlashReply}
    (hacc : Accepts s.ram blk) (hlen : (plan (stagedImage s.ram blk) blk).length ≤ rs.length) :
    ∃ reason, Booted s (checkAndInstallOta.exec nor s rs) reason := by
  have hupdate : ¬ NoUpdate s.ram := fun hno => by
    rcases hno blk hacc.pending with h0 | hbig
    · exact hacc.size_ne h0
    · exact UInt32.not_lt.2 hacc.size_le hbig
  have hissued := Prog.exec_issue nor (plan (stagedImage s.ram blk) blk) [] s rs
  have hpowered := Prog.result_issue nor (plan (stagedImage s.ram blk) blk) [] s rs
  generalize ho : (Prog.issue (plan (stagedImage s.ram blk) blk) []).exec nor s rs = o
    at hissued hpowered
  rcases hr : o.result with _ | ⟨r, rest⟩
  · rcases hpowered with ⟨-, -, hshort⟩ | ⟨rest, hsome, -⟩ | ⟨rest, hsome, -⟩
    · omega
    · rw [hr] at hsome
      cases hsome
    · rw [hr] at hsome
      cases hsome
  · obtain ⟨⟨e, he, hcmd⟩, hverdict⟩ := log_of_issued hacc hissued hr
    have herases : Erases o.log := ⟨e, he, 0, 4096, hcmd⟩
    rw [exec_of_powered nor hacc ho hr, hissued.1]
    unfold installedRam
    by_cases hv : verified blk r = true
    · rw [if_pos hv]
      have hdone : Installed s.ram
          ⟨{ o.world with ram := withBootInfo .otaUpdate (cleared s.ram) }, o.log,
            some ((), rest)⟩ :=
        ⟨herases, hverdict.2 hv, read_cleared .otaUpdate s.ram⟩
      exact ⟨.otaUpdate,
        { ends := by simp
          report := reports_withBootInfo (cleared s.ram) .otaUpdate
          otaUpdate := iff_of_true rfl hdone
          powerOn := iff_of_false (by decide) hupdate
          fault := iff_of_false (by decide) fun hf => hf.1 hdone
          untouched := fun h => h.elim (by simp) fun hno => absurd herases hno }⟩
    · rw [if_neg hv]
      have hfailed : ¬ Installed s.ram
          ⟨{ o.world with ram := withBootInfo .fault s.ram }, o.log, some ((), rest)⟩ :=
        fun h => hv (hverdict.1 h.verified)
      exact ⟨.fault,
        { ends := by simp
          report := reports_withBootInfo s.ram .fault
          otaUpdate := iff_of_false (by decide) hfailed
          powerOn := iff_of_false (by decide) hupdate
          fault := iff_of_true rfl ⟨hfailed, hupdate⟩
          untouched := fun h => h.elim (by simp) fun hno => absurd herases hno }⟩

/-- **Every boot reports.**  For every RAM and flash, and whatever the flash answers to each command:
the loops end by their own conditions, `check_and_install_ota` returns, the application takes its
report over as it is, and the reason says how the boot went; a boot without an update, or that is
refused before the erase, leaves Slot A alone. -/
theorem boot_reports (nor : Nor) (s : World 32) (reply : Nat → FlashReply) :
    (∀ blk, LoopsEnd (stagedImage s.ram blk) blk) ∧
      ∃ reason, Booted s
        (checkAndInstallOta.exec nor s ((List.range commandLimit).map reply)) reason := by
  refine ⟨fun blk => loopsEnd _ blk, ?_⟩
  cases hg : gate s.ram with
  | noUpdate => exact ⟨_, booted_of_noUpdate _ (gate_eq_noUpdate.1 hg)⟩
  | reject => exact ⟨_, booted_of_reject _ hg⟩
  | install blk =>
      have hacc := gate_eq_install.1 hg
      refine booted_of_accepts hacc ?_
      rw [List.length_map, List.length_range]
      exact length_plan_le _ hacc.size_le

end EmbeddedPixel.Bootloader
