import EmbeddedPixel.Boot.Install
import EmbeddedPixel.Net.OtaHistory

/-!
# From the first request to Slot A

The OTA service and the bootloader meet in RAM: the service publishes a control block, the
bootloader acts on it after a reset that preserves SRAM.  Here the runs of the one are followed by
the boots of the other.

* `installs_only_verified` — what a boot that touches Slot A says about the run before it.
* `aborted_not_installed_iff` — when an aborted update is not installed.

Both look back from the boot to the last accepted call of a kind (`Net.OtaHistory`).  When the two
gates agree on an image is in `System.Gates`.
-/

set_option autoImplicit false

namespace EmbeddedPixel

open Foundation Bootloader OtaService

namespace OtaMachine

variable {L : Layout} {m m' : OtaMachine} {t : Trace}

/-! ## Only verified images are flashed -/

/-- The embedded header, if the image is long enough to have one: valid, for this board, and content
with this bootloader. -/
def HeaderAcceptable (image : BytePtr) (imageSize : UInt32) : Prop :=
  let appHdr := image.advance APP_HEADER_FLASH_OFFSET
  let hdr := AppImageHeader.ofPtr appHdr
  APP_HEADER_FLASH_OFFSET + APP_IMAGE_HEADER_SIZE ≤ imageSize.toNat → hdr.magic = EPFW_MAGIC →
    AppImageHeader.isValid appHdr = true ∧ hdr.boardId = BoardId.nucleoH7S3L8.code ∧
      hdr.minBootloaderVersion ≤ BOOTLOADER_VERSION

theorem headerFault_eq_none {image : BytePtr} {imageSize : UInt32} :
    headerFault image imageSize = none ↔ HeaderAcceptable image imageSize := by
  unfold headerFault HeaderAcceptable
  dsimp only
  split
  · rename_i hsize
    split
    · rename_i hmagic
      constructor
      · intro h _ _
        split at h
        · cases h
        · rename_i hvalid
          split at h
          · cases h
          · rename_i hboard
            split at h
            · cases h
            · rename_i hver
              exact ⟨by simpa using hvalid, not_not.1 hboard, UInt32.not_lt.1 hver⟩
      · intro h
        obtain ⟨hvalid, hboard, hver⟩ := h hsize hmagic
        rw [if_neg (by simp [hvalid]), if_neg (not_not.2 hboard), if_neg (UInt32.not_lt.2 hver)]
    · rename_i hmagic
      exact ⟨fun _ _ h => absurd h hmagic, fun _ => rfl⟩
  · rename_i hsize
    exact ⟨fun _ h => absurd h hsize, fun _ => rfl⟩

/-- The staging buffer lies where the bootloader takes an image to be staged in RAM. -/
theorem isRamStaging_controlBlock (svc : OtaService) :
    isRamStaging (controlBlock L svc .pendingInstall) = true := by
  have hstart : 0x24000000 ≤ L.stagingBuffer.toNat := L.ram_start
  have hend : L.stagingBuffer.toNat + 163840 ≤ 0x24070000 := L.ram_end
  have haddr : (UInt32.ofBitVec L.stagingBuffer).toNat = L.stagingBuffer.toNat := rfl
  unfold isRamStaging
  rw [Bool.and_eq_true]
  constructor
  · refine decide_eq_true (UInt32.le_iff_toNat_le.2 ?_)
    show 0x20000000 ≤ (UInt32.ofBitVec L.stagingBuffer).toNat
    omega
  · refine decide_eq_true (UInt32.lt_iff_toNat_lt.2 ?_)
    show (UInt32.ofBitVec L.stagingBuffer).toNat < 0x30000000
    omega

theorem stagedImage_controlBlock (ram : Mem 32) (svc : OtaService) :
    stagedImage ram (controlBlock L svc .pendingInstall) = L.staging ram := rfl

/-- **Only verified images are flashed.**  After a run from a RAM without a control block, a boot
that erases or programs Slot A finds a run in which some `handleEnd` was accepted; the last one
published the size and the checksum of the `handleBegin` accepted last before it; the staged bytes
have that checksum; and their header, if they have one, is acceptable. -/
theorem installs_only_verified {ram₀ : Mem 32} (h : Runs L ram₀ t m)
    (hblank : (ramBlock ram₀).magic ≠ OTA_MAGIC) (nor : Nor) (flash : Flash)
    (rs : List FlashReply)
    (htouched : ¬ Untouched (checkAndInstallOta.exec nor ⟨m.ram, flash⟩ rs).log) :
    ∃ pre c req post, t = pre ++ ((c, .end req), .ok) :: post ∧ (∀ x ∈ post, ¬ OkEnd x) ∧
      ∃ pre₁ c₁ breq resp post₁, pre = pre₁ ++ ((c₁, .begin breq resp), .ok) :: post₁ ∧
        (∀ x ∈ post₁, ¬ OkBegin x) ∧
        (ramBlock m.ram).imageSize = breq.imageSize ∧
        (ramBlock m.ram).imageCrc32 = breq.imageCrc32 ∧
        Crc32.calculate (bytesAt (L.staging m.ram) 0 breq.imageSize.toNat) = breq.imageCrc32 ∧
        HeaderAcceptable (L.staging m.ram) breq.imageSize := by
  have hne : (checkAndInstallOta.exec nor ⟨m.ram, flash⟩ rs).log ≠ [] := by
    intro hnil
    rw [hnil] at htouched
    exact htouched fun e he => by cases he
  have hacc : Accepts m.ram (ramBlock m.ram) := accepts_of_log hne
  rcases Machine.Run.last_entry h OkEnd with
    hno | ⟨pre, a, o, post, s₁, s₂, rfl, ⟨c, req, ha⟩, hpost, hpre, hend, hrest⟩
  · -- without an accepted end, the block is still the one of power-up
    have hblock := Mem.ptr_eq_of_read (block_of_no_end h hno)
    obtain ⟨-, hmagic, -, -⟩ := pendingBlock_eq_some.1 hacc.pending
    refine absurd ?_ hblank
    rw [← hmagic]
    exact congrArg _ (OtaControlBlock.ofPtr_congr hblock).symm
  · cases ha
    obtain ⟨hs, -, -, hpub⟩ := step_end_ok hend
    have hblk : ramBlock m.ram = controlBlock L s₁.svc .pendingInstall :=
      (OtaControlBlock.ofPtr_congr (Mem.ptr_eq_of_read (block_of_no_end hrest hpost))).trans hpub
    refine ⟨pre, c, req, post, rfl, hpost, ?_⟩
    rcases Machine.Run.last_entry hpre OkBegin with
      hno | ⟨pre₁, a, o, post₁, s₃, s₄, rfl, ⟨c₁, breq, resp, ha⟩, hpost₁, -, hbegin, hsession⟩
    · exact absurd hs ((session_of_no_begin hpre hno).2 (by intro h; cases h))
    · cases ha
      obtain ⟨-, hsvc, -⟩ := step_begin_ok hbegin
      obtain ⟨hann, -⟩ := session_of_no_begin hsession hpost₁
      rw [hsvc] at hann
      obtain ⟨hsize, hrest⟩ := Prod.mk.inj hann
      obtain ⟨hcrc, -⟩ := Prod.mk.inj hrest
      have hsize' : (ramBlock m.ram).imageSize = breq.imageSize := by rw [hblk]; exact hsize
      have hcrc' : (ramBlock m.ram).imageCrc32 = breq.imageCrc32 := by rw [hblk]; exact hcrc
      have hstaged := hacc.staged
      have hheader := headerFault_eq_none.1 hacc.header
      unfold stagedCrc32 at hstaged
      rw [hcrc', hsize', hblk, isRamStaging_controlBlock, if_pos rfl,
        stagedImage_controlBlock] at hstaged
      rw [hsize', hblk, stagedImage_controlBlock] at hheader
      exact ⟨pre₁, c₁, breq, resp, post₁, rfl, hpost₁, hsize', hcrc', hstaged, hheader⟩

/-- An image of one blank byte is announced, finished and, after a reset, installed. -/
theorem installs_only_verified_blank :
    ∃ t m, Runs Layout.lowest (fun _ => 0) t m ∧
      ¬ Untouched (checkAndInstallOta.exec andNor ⟨m.ram, fun _ => 7⟩ [.ok]).log ∧
      Crc32.calculate (bytesAt (Layout.lowest.staging m.ram) 0
        (ramBlock m.ram).imageSize.toNat) = (ramBlock m.ram).imageCrc32 := by
  have hexec : (Machine.exec (OtaMachine.step Layout.lowest) (start fun _ => 0) blankUpload).any
      (fun r => ¬ Untouched
        (checkAndInstallOta.exec andNor ⟨r.2.ram, fun _ => 7⟩ [.ok]).log) = true := by
    decide +kernel
  obtain ⟨t, m, hrun, -, hp⟩ := Machine.exec_any hexec
  have htouched := of_decide_eq_true hp
  have hblank : (ramBlock fun _ => 0).magic ≠ OTA_MAGIC := by decide
  obtain ⟨_, _, _, _, -, -, _, _, breq, _, _, -, -, hsize, hcrc, hstaged, -⟩ :=
    installs_only_verified hrun hblank andNor (fun _ => 7) [.ok] htouched
  refine ⟨t, m, hrun, htouched, ?_⟩
  rw [hsize, hcrc]
  exact hstaged

/-- A second announcement, of an empty image, is refused; the first goes on, and is installed. -/
def refusedAgain : List (Option SystemController × OtaCall) :=
  [(none, .begin ⟨1, Crc32.calculate [0xFF], 0, 1024, 0⟩ ⟨0, 0, 0⟩),
    (none, .begin ⟨0, 0, 0, 1024, 0⟩ ⟨0, 0, 0⟩), (none, .end ⟨Crc32.calculate [0xFF], 0⟩)]

theorem installs_refused_begin :
    ¬ ∀ (L : Layout) (ram₀ : Mem 32) (t : Trace) (m : OtaMachine), Runs L ram₀ t m →
      (ramBlock ram₀).magic ≠ OTA_MAGIC → ∀ (nor : Nor) (flash : Flash) (rs : List FlashReply),
        ¬ Untouched (checkAndInstallOta.exec nor ⟨m.ram, flash⟩ rs).log →
          ∃ pre c req post, t = pre ++ ((c, .end req), .ok) :: post ∧ (∀ x ∈ post, ¬ OkEnd x) ∧
            ∃ pre₁ c₁ breq resp st post₁,
              pre = pre₁ ++ ((c₁, .begin breq resp), st) :: post₁ ∧
              (∀ x ∈ post₁, ∀ c' breq' resp', x.1 ≠ (c', .begin breq' resp')) ∧
              (ramBlock m.ram).imageSize = breq.imageSize := by
  intro h
  have hexec : (Machine.exec (OtaMachine.step Layout.lowest) (start fun _ => 0) refusedAgain).any
      (fun r => ¬ Untouched (checkAndInstallOta.exec andNor ⟨r.2.ram, fun _ => 7⟩ [.ok]).log ∧
        (ramBlock r.2.ram).imageSize = 1) = true := by
    decide +kernel
  obtain ⟨t, m, hrun, hcalls, hp⟩ := Machine.exec_any hexec
  obtain ⟨htouched, hone⟩ := of_decide_eq_true hp
  obtain ⟨pre, c, req, post, rfl, -, pre₁, c₁, breq, resp, st, post₁, rfl, hno, hsize⟩ :=
    h _ _ _ _ hrun (by decide) andNor (fun _ => 7) [.ok] htouched
  rw [hone] at hsize
  -- the announcement before the end is the refused one
  rcases pre₁ with _ | ⟨x, _ | ⟨y, pre₁⟩⟩
  · rcases post₁ with _ | ⟨y, post₁⟩
    · simp [refusedAgain] at hcalls
    · have hy : y.1 = (none, .begin ⟨0, 0, 0, 1024, 0⟩ ⟨0, 0, 0⟩) := by
        simp [refusedAgain] at hcalls
        exact hcalls.2.1
      exact hno y List.mem_cons_self _ _ _ hy
  · have hb : breq = ⟨0, 0, 0, 1024, 0⟩ := by
      simp [refusedAgain] at hcalls
      exact hcalls.2.1.2.1
    rw [hb] at hsize
    exact absurd hsize (by decide)
  · have hlen := congrArg List.length hcalls
    simp only [List.map_append, List.map_cons, List.length_append, List.length_cons,
      refusedAgain, List.length_nil] at hlen
    omega

/-! ## Aborted updates -/

theorem pendingBlock_congr {p q : BytePtr} (h : ∀ i < 32, p i = q i) :
    pendingBlock p = pendingBlock q := by
  have hbytes : bytesAt p 0 28 = bytesAt q 0 28 := by
    refine bytesAt_congr fun k hk => h (0 + k) ?_
    omega
  unfold pendingBlock
  rw [OtaControlBlock.ofPtr_congr h, hbytes]

/-- No valid pending block is in RAM. -/
def NonePending (ram : Mem 32) : Prop :=
  pendingBlock (ram.ptr Bootloader.RAM_CONTROL_BLOCK_BASE) = none

instance (ram : Mem 32) : Decidable (NonePending ram) := by
  unfold NonePending
  infer_instance

theorem NonePending.of_read {ram ram' : Mem 32} (h : NonePending ram)
    (hread : ram'.read OtaService.RAM_CONTROL_BLOCK_BASE 32 =
      ram.read OtaService.RAM_CONTROL_BLOCK_BASE 32) : NonePending ram' :=
  (pendingBlock_congr (Mem.ptr_eq_of_read hread)).trans h

theorem NonePending.not_accepts {ram : Mem 32} (h : NonePending ram) (blk : OtaControlBlock) :
    ¬ Accepts ram blk := by
  intro hacc
  have hsome := hacc.pending
  rw [h] at hsome
  cases hsome

/-- **When an aborted update is not installed.**  After an abort and any calls with no accepted
`handleEnd` among them, every boot leaves Slot A alone exactly when no block that was pending at the
abort passes the checks of the bootloader at the reset.  It is so if no block was pending at the abort,
and that if none was at power-up and no `handleEnd` was accepted before. -/
theorem aborted_not_installed_iff {ram₀ : Mem 32} {pre post : Trace} {s : OtaMachine}
    {c : Option SystemController} {st : StatusCode} (hpre : Runs L ram₀ pre s)
    (hrest : Machine.Run (step L) s (((c, .abort), st) :: post) m)
    (hpost : ∀ x ∈ post, ¬ OkEnd x) :
    ((∀ nor flash rs, Untouched (checkAndInstallOta.exec nor ⟨m.ram, flash⟩ rs).log) ↔
        ∀ blk, pendingBlock (s.ram.ptr Bootloader.RAM_CONTROL_BLOCK_BASE) = some blk →
          ¬ Accepts m.ram blk) ∧
      (NonePending s.ram ∨ (NonePending ram₀ ∧ ∀ x ∈ pre, ¬ OkEnd x) →
        ∀ nor flash rs, (checkAndInstallOta.exec nor ⟨m.ram, flash⟩ rs).log = [] ∧
          (checkAndInstallOta.exec nor ⟨m.ram, flash⟩ rs).world.flash = flash) := by
  have hall : ∀ x ∈ ((c, OtaCall.abort), st) :: post, ¬ OkEnd x := by
    rintro x hx ⟨c', req, rfl⟩
    rcases List.mem_cons.1 hx with hx | hx
    · cases hx
    · exact hpost _ hx ⟨c', req, rfl⟩
  have hblock := block_of_no_end hrest hall
  have hpending := pendingBlock_congr (Mem.ptr_eq_of_read hblock)
  constructor
  · constructor
    · intro huntouched blk _ hacc
      obtain ⟨e, he, hcmd⟩ :=
        erases_of_accepts andNor (s := ⟨m.ram, fun _ => 0⟩) .ok [] hacc
      have hclean := huntouched andNor (fun _ => 0) [.ok] e he
      rw [hcmd] at hclean
      cases hclean
    · intro hrefused nor flash rs e he
      have hno : ∀ blk, ¬ Accepts m.ram blk := by
        intro blk hacc
        exact hrefused blk (hpending.symm.trans hacc.pending) hacc
      rw [(exec_of_not_accepts nor (s := ⟨m.ram, flash⟩) rs hno).1] at he
      cases he
  · intro hnone nor flash rs
    have habort : NonePending s.ram := by
      rcases hnone with hnone | ⟨hnone, hno⟩
      · exact hnone
      · exact hnone.of_read (block_of_no_end hpre hno)
    have hboot : NonePending m.ram := habort.of_read hblock
    obtain ⟨hlog, hflash, -⟩ :=
      exec_of_not_accepts nor (s := ⟨m.ram, flash⟩) rs hboot.not_accepts
    exact ⟨hlog, hflash⟩

/-- An announced image is given up before its end. -/
theorem aborted_not_installed_unfinished :
    ∃ t m, Runs Layout.lowest (fun _ => 0) t m ∧
      t.map (·.1) = blankUpload.take 1 ++ [(none, .abort)] ∧
      (checkAndInstallOta.exec andNor ⟨m.ram, fun _ => 7⟩ [.ok]).log = [] := by
  have hexec : (Machine.exec (OtaMachine.step Layout.lowest) (start fun _ => 0)
      (blankUpload.take 1)).any (fun r => NonePending r.2.ram) = true := by
    decide +kernel
  obtain ⟨t, s, hrun, hcalls, hp⟩ := Machine.exec_any hexec
  have habort : step Layout.lowest s (none, .abort) = some (handleAbort s) := rfl
  obtain ⟨-, hafter⟩ :=
    aborted_not_installed_iff hrun (Machine.Run.single habort) (by simp)
  refine ⟨_, _, hrun.snoc habort, ?_, ?_⟩
  · rw [List.map_append, hcalls]
    rfl
  · exact (hafter (Or.inl (of_decide_eq_true hp)) andNor (fun _ => 7) [.ok]).1

/-- A finished upload is aborted, and installed. -/
theorem aborted_after_ready :
    ¬ ∀ (L : Layout) (ram₀ : Mem 32) (pre post : Trace) (c : Option SystemController)
      (st : StatusCode) (m : OtaMachine), Runs L ram₀ (pre ++ ((c, .abort), st) :: post) m →
        (∀ x ∈ post, ¬ OkEnd x) → ∀ (nor : Nor) (flash : Flash) (rs : List FlashReply),
          Untouched (checkAndInstallOta.exec nor ⟨m.ram, flash⟩ rs).log := by
  intro h
  have hexec : (Machine.exec (OtaMachine.step Layout.lowest) (start fun _ => 0) blankUpload).any
      (fun r => ¬ Untouched
        (checkAndInstallOta.exec andNor ⟨r.2.ram, fun _ => 7⟩ [.ok]).log) = true := by
    decide +kernel
  obtain ⟨t, s, hrun, -, hp⟩ := Machine.exec_any hexec
  have habort : step Layout.lowest s (none, .abort) = some (handleAbort s) := rfl
  exact of_decide_eq_true hp
    (h Layout.lowest _ t [] none .ok _ (hrun.snoc habort) (by simp) andNor (fun _ => 7) [.ok])

end OtaMachine

end EmbeddedPixel
