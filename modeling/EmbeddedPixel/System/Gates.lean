import EmbeddedPixel.System.Update

/-!
# The gate of the service and the gate of the bootloader

The service checks the embedded header chunk by chunk, when a copy ends past it; the bootloader
checks it once, over the whole image.  Every other check of the bootloader is passed by whatever
`handleEnd` has accepted, so the two gates differ by the header alone (`passes_iff_header`).

`end_ok_passes_iff` — when an accepted `handleEnd` leaves a RAM that the bootloader installs, and a
rule for the host that makes it so: no chunk ends inside the header, and a header error is not
passed over.  The invariant behind the rule is `HeaderGood`.
-/

set_option autoImplicit false

namespace EmbeddedPixel

open Foundation Bootloader OtaService

namespace OtaMachine

variable {L : Layout} {m m' : OtaMachine} {t : Trace}

/-! ## What the service guarantees -/

/-- The checks before the erase are passed, and Slot A is erased unless the power is lost first. -/
def PassesGate (ram : Mem 32) : Prop :=
  ∃ blk, Accepts ram blk ∧
    ∀ nor flash r rs, Erases (checkAndInstallOta.exec nor ⟨ram, flash⟩ (r :: rs)).log

theorem passesGate_iff {ram : Mem 32} : PassesGate ram ↔ Accepts ram (ramBlock ram) := by
  constructor
  · rintro ⟨blk, hacc, -⟩
    rw [← hacc.eq_ramBlock]
    exact hacc
  · intro hacc
    refine ⟨ramBlock ram, hacc, fun nor flash r rs => ?_⟩
    obtain ⟨e, he, hcmd⟩ := erases_of_accepts nor (s := ⟨ram, flash⟩) r rs hacc
    exact ⟨e, he, 0, 4096, hcmd⟩

theorem HeaderAcceptable.congr {p q : BytePtr} {size : UInt32}
    (h : ∀ i < size.toNat, p i = q i) : HeaderAcceptable p size ↔ HeaderAcceptable q size := by
  rw [← headerFault_eq_none, ← headerFault_eq_none, headerFault_congr h]

/-- **The two gates differ by the header.** -/
theorem passes_iff_header {c : Option SystemController} {req : PayloadOtaEnd} (hi : Inv L m)
    (hend : step L m (c, .end req) = some (.ok, m')) :
    PassesGate m'.ram ↔ HeaderAcceptable (L.staging m.ram) m.svc.totalImageSize := by
  obtain ⟨hs, hcrc, hram, hpub⟩ := step_end_ok hend
  have hblk : ramBlock m'.ram = controlBlock L m.svc .pendingInstall := hpub
  have hsize : m.svc.totalImageSize.toNat ≤ 163840 := hi.size_le
  have hstaged := bytesAt_staging_writeControlBlock L .pendingInstall m hsize
  have hsame : ∀ i < m.svc.totalImageSize.toNat, L.staging m'.ram i = L.staging m.ram i := by
    intro i hlt
    rw [hram]
    simpa using bytesAt_eq_iff.1 hstaged i hlt
  rw [passesGate_iff, hblk, ← HeaderAcceptable.congr hsame]
  constructor
  · intro hacc
    exact headerFault_eq_none.1 hacc.header
  · intro hheader
    refine ⟨pendingBlock_eq_some.2 ⟨hblk.symm, rfl, ?_, rfl⟩, hi.size_ne (Or.inl hs), ?_, ?_,
      headerFault_eq_none.2 hheader⟩
    · rw [hram]
      exact (ofPtr_controlBlock (read_writeControlBlock L .pendingInstall m)).2
    · refine UInt32.le_iff_toNat_le.2 (hsize.trans ?_)
      decide
    · unfold stagedCrc32
      rw [isRamStaging_controlBlock, if_pos rfl, stagedImage_controlBlock, hram]
      exact (congrArg _ hstaged).trans hcrc

/-! ## A rule for the host -/

/-- The controller reports this board and this bootloader. -/
def ForThisBoard (c : Option SystemController) : Prop :=
  ∃ ctrl, c = some ctrl ∧ ctrl.getBoardId = BoardId.nucleoH7S3L8.code ∧
    ctrl.getBootloaderVersion = BOOTLOADER_VERSION

/-- After this call the host may go on: a chunk was not copied, or it was answered with `OK` and does
not end inside the header. -/
def Settled : (Option SystemController × OtaCall) × StatusCode → Prop
  | ((c, .data req chunkData dataLen), st) =>
    (chunkCrcOk req dataLen).run chunkData = false ∨ st = .errBusy ∨ st = .errInvalidPayload ∨
      (st = .ok ∧ ForThisBoard c ∧
        (req.offset.toNat + dataLen.toNat ≤ APP_HEADER_FLASH_OFFSET ∨
          APP_HEADER_FLASH_OFFSET + APP_IMAGE_HEADER_SIZE ≤ req.offset.toNat + dataLen.toNat))
  | _ => True

/-- The staged header is acceptable. -/
def HeaderGood (L : Layout) (m : OtaMachine) : Prop :=
  HeaderAcceptable (L.staging m.ram) m.svc.totalImageSize

theorem headerError_eq_none {c : Option SystemController} {image : BytePtr} (hc : ForThisBoard c)
    (h : headerError c (image.advance APP_HEADER_FLASH_OFFSET) = none) (size : UInt32) :
    HeaderAcceptable image size := by
  obtain ⟨ctrl, rfl, hboard, hboot⟩ := hc
  intro _ hmagic
  unfold headerError at h
  dsimp only at h
  rw [if_pos hmagic] at h
  split at h
  · cases h
  · rename_i hvalid
    split at h
    · cases h
    · rename_i hb
      split at h
      · cases h
      · rename_i hv
        refine ⟨by simpa using hvalid, ?_, ?_⟩
        · rw [← hboard]
          simpa using hb
        · rw [← hboot]
          simpa using hv

/-- The three header errors. -/
theorem headerError_eq_some {c : Option SystemController} {appHdr : BytePtr} {e : StatusCode}
    (h : headerError c appHdr = some e) :
    e = .errInvalidCrc ∨ e = .errIncompatibleBoard ∨ e = .errIncompatibleBootloader := by
  unfold headerError at h
  dsimp only at h
  split at h
  · split at h
    · cases h
      exact Or.inl rfl
    · split at h
      · cases h
        exact Or.inr (Or.inl rfl)
      · split at h
        · cases h
          exact Or.inr (Or.inr rfl)
        · cases h
  · cases h

theorem headerStatus_eq (L : Layout) (c : Option SystemController) (m : OtaMachine) :
    headerStatus L c m = .ok ∨ headerStatus L c m = .errInvalidCrc ∨
      headerStatus L c m = .errIncompatibleBoard ∨
      headerStatus L c m = .errIncompatibleBootloader := by
  unfold headerStatus
  split
  · cases he : headerError c ((L.staging m.ram).advance APP_HEADER_FLASH_OFFSET) with
    | none => exact Or.inl rfl
    | some e => exact Or.inr (headerError_eq_some he)
  · exact Or.inl rfl

theorem HeaderAcceptable.of_header {p q : BytePtr} {size : UInt32} (h : HeaderAcceptable p size)
    (hpq : ∀ i < APP_IMAGE_HEADER_SIZE,
      q.advance APP_HEADER_FLASH_OFFSET i = p.advance APP_HEADER_FLASH_OFFSET i) :
    HeaderAcceptable q size := by
  unfold HeaderAcceptable at h ⊢
  dsimp only at h ⊢
  rw [AppImageHeader.ofPtr_congr hpq, AppImageHeader.isValid_congr hpq]
  exact h

/-- An erased buffer holds no header. -/
theorem headerGood_session (req : PayloadOtaBegin) (hreq : req.imageSize.toNat ≤ 163840) :
    HeaderGood L
      { svc := m.svc.session req,
        ram := m.ram.store L.stagingBuffer ((req.imageSize + 255) &&& ~~~255).toNat
          fun _ => 0xFF } := by
  obtain ⟨hcover, hfit⟩ := erased_bounds hreq
  intro hsize hmagic
  have hsize : 1088 ≤ req.imageSize.toNat := hsize
  have hword : u32At ((m.ram.store L.stagingBuffer ((req.imageSize + 255) &&& ~~~255).toNat
      fun _ => 0xFF).ptr L.stagingBuffer) 1024 = u32At (fun _ => 0xFF) 0 := by
    refine u32At_congr fun k hk => ?_
    exact Mem.ptr_store_self m.ram L.stagingBuffer _ (by omega) (by omega)
  have hblank : u32At (fun _ => 0xFF) 0 = EPFW_MAGIC := hword.symm.trans hmagic
  exact absurd hblank (by decide)

/-- A settled copy leaves an acceptable header. -/
theorem headerGood_copied {c : Option SystemController} {req : PayloadOtaData}
    {chunkData : BytePtr} {dataLen : UInt16} (hg : HeaderGood L m)
    (hfit : req.offset.toNat + dataLen.toNat ≤ 163840)
    (hok : headerStatus L c (copied L req (bytesAt chunkData 0 dataLen.toNat) m) = .ok)
    (hc : ForThisBoard c)
    (hends : req.offset.toNat + dataLen.toNat ≤ 1024 ∨ 1088 ≤ req.offset.toNat + dataLen.toNat) :
    HeaderGood L (copied L req (bytesAt chunkData 0 dataLen.toNat) m) := by
  have hram := copied_ram L req chunkData dataLen m
  rcases hends with hbefore | hpast
  · -- the header's bytes are not touched
    refine HeaderAcceptable.of_header hg fun i hi => ?_
    have hi : i < 64 := hi
    show (copied L req (bytesAt chunkData 0 dataLen.toNat) m).ram.ptr L.stagingBuffer (1024 + i) = _
    rw [hram, Mem.ptr_store_within m.ram L.stagingBuffer _ (by omega) (by omega),
      if_neg (by omega)]
    rfl
  · -- the header is checked
    have hwritten : (copied L req (bytesAt chunkData 0 dataLen.toNat) m).svc.bytesWritten.toNat =
        req.offset.toNat + dataLen.toNat := by
      show (req.offset + UInt32.ofNat (bytesAt chunkData 0 dataLen.toNat).length).toNat = _
      rw [length_bytesAt, UInt32.toNat_add, UInt32.toNat_ofNat', Nat.add_mod_mod]
      exact Nat.mod_eq_of_lt (by omega)
    unfold headerStatus at hok
    rw [hwritten, if_pos (show _ ≥ APP_HEADER_FLASH_OFFSET + APP_IMAGE_HEADER_SIZE from hpast)]
      at hok
    refine headerError_eq_none hc ?_ _
    cases he : headerError c ((L.staging (copied L req (bytesAt chunkData 0 dataLen.toNat)
        m).ram).advance APP_HEADER_FLASH_OFFSET) with
    | none => rfl
    | some e =>
        rw [he] at hok
        have herr := headerError_eq_some he
        rw [show e = .ok from hok] at herr
        simp at herr

/-- **A settled call keeps the header good.** -/
theorem headerGood_of_transition {a : Option SystemController × OtaCall} {st : StatusCode}
    (h : Transition L m a st m') (hset : Settled (a, st)) (hg : HeaderGood L m) :
    HeaderGood L m' := by
  cases h with
  | beginRefused _ => exact hg
  | beginAccepted h => exact headerGood_session _ (beginError_eq_none h).2
  | dataRefused _ _ => exact hg
  | @dataCopied c req chunkData dataLen st e hcopies hfit hst =>
      have hstatus := headerStatus_eq L c (copied L req (bytesAt chunkData 0 dataLen.toNat) m)
      rw [← hst] at hstatus
      rcases hset with hcrc | rfl | rfl | ⟨rfl, hc, hends⟩
      · rw [hcopies.2.2] at hcrc
        cases hcrc
      · simp at hstatus
      · simp at hstatus
      · exact headerGood_copied hg hfit hst.symm hc hends
  | endRefused _ => exact hg
  | endMismatch _ _ => exact hg
  | endVerified _ _ =>
      refine HeaderAcceptable.of_header hg fun i hi => ?_
      have hlt : 1024 + i < 163840 := by
        have hi : i < 64 := hi
        omega
      exact Mem.ptr_store_apart m.ram _ L.staging_apart.symm hlt
  | aborted => exact hg

/-- **A settled run keeps the header good.** -/
theorem headerGood_of_run (h : Machine.Run (step L) m t m') (hset : ∀ x ∈ t, Settled x)
    (hg : HeaderGood L m) : HeaderGood L m' :=
  Machine.Run.keep (fun _ _ _ _ hK hs hstep => headerGood_of_transition (step_transition hstep) hK hs)
    h hset hg

/-- **When the gates agree.**  An accepted `handleEnd` leaves a RAM that passes every check of the
bootloader, and has Slot A erased, exactly when the staged header is acceptable; and it is when every
call since some accepted `handleBegin` was settled. -/
theorem end_ok_passes_iff {ram₀ : Mem 32} {c : Option SystemController} {req : PayloadOtaEnd}
    (h : Runs L ram₀ t m) (hend : step L m (c, .end req) = some (.ok, m')) :
    (PassesGate m'.ram ↔ HeaderAcceptable (L.staging m.ram) m.svc.totalImageSize) ∧
      ∀ pre x post, t = pre ++ x :: post → OkBegin x → (∀ y ∈ post, Settled y) →
        PassesGate m'.ram := by
  have hiff := passes_iff_header (runs_inv h) hend
  refine ⟨hiff, ?_⟩
  rintro pre x post rfl ⟨c₁, breq, resp, rfl⟩ hset
  obtain ⟨s, s₁, -, hbegin, hrest⟩ := Machine.Run.split_at h
  obtain ⟨hnone, hsvc, hram⟩ := step_begin_ok hbegin
  have hs₁ : s₁ = ⟨s.svc.session breq, s.ram.store L.stagingBuffer
      ((breq.imageSize + 255) &&& ~~~255).toNat fun _ => 0xFF⟩ := by
    rw [← hsvc, ← hram]
  have hstart : HeaderGood L s₁ := by
    rw [hs₁]
    exact headerGood_session breq (beginError_eq_none hnone).2
  exact hiff.2 (headerGood_of_run hrest hset hstart)

/-- The controller of a node that was started without a boot handover. -/
def thisBoard : SystemController := SystemController.ethernetdev fun _ => 0

theorem forThisBoard_thisBoard : ForThisBoard (some thisBoard) :=
  ⟨thisBoard, rfl, by decide +kernel, by decide +kernel⟩

/-- An image of one byte is announced and sent. -/
def oneByteUpload : List (Option SystemController × OtaCall) :=
  [(some thisBoard, .begin ⟨1, Crc32.calculate [7], 0, 1024, 0⟩ ⟨0, 0, 0⟩),
    (some thisBoard, .data ⟨0, 1, 0⟩ (fun _ => 7) 1)]

theorem end_ok_passes_one_byte :
    ∃ t m m', Runs Layout.lowest (fun _ => 0) t m ∧
      step Layout.lowest m (some thisBoard, .end ⟨0, 0⟩) = some (.ok, m') ∧
      PassesGate m'.ram := by
  have hexec : (Machine.exec (OtaMachine.step Layout.lowest) (start fun _ => 0) oneByteUpload).any
      (fun r => (handleEnd Layout.lowest ⟨0, 0⟩ r.2).1 = .ok ∧
        r.2.svc.totalImageSize = 1) = true := by
    decide +kernel
  obtain ⟨t, m, hrun, -, hp⟩ := Machine.exec_any hexec
  obtain ⟨hok, hsize⟩ := of_decide_eq_true hp
  have hend : step Layout.lowest m (some thisBoard, .end ⟨0, 0⟩) =
      some (.ok, (handleEnd Layout.lowest ⟨0, 0⟩ m).2) := by
    rw [← hok]
    rfl
  refine ⟨t, m, _, hrun, hend, (end_ok_passes_iff hrun hend).1.2 ?_⟩
  -- one byte has no room for a header
  intro hlong
  rw [hsize] at hlong
  exact absurd hlong (by decide)

/-- An image that ends with a header of no valid checksum. -/
def lateImage : List UInt8 := List.replicate 1024 0xFF ++ (u32le EPFW_MAGIC ++ List.replicate 60 0)

/-- The image is sent from its end: the half of the header with the magic comes last. -/
def lateHeader : List (Option SystemController × OtaCall) :=
  [(some thisBoard, .begin ⟨1088, Crc32.calculate lateImage, 0, 1024, 0⟩ ⟨0, 0, 0⟩),
    (some thisBoard, .data ⟨1056, 32, 0⟩ (fun _ => 0) 32),
    (some thisBoard, .data ⟨1024, 32, 0⟩ (BytePtr.ofList (u32le EPFW_MAGIC)) 32)]

theorem expectedCrc32_of_lateHeader {ram₀ : Mem 32} (h : Runs L ram₀ t m)
    (hcalls : t.map (·.1) = lateHeader) :
    m.svc.expectedCrc32 = Crc32.calculate lateImage := by
  obtain ⟨⟨a, o⟩, t, rfl, rfl, hdata⟩ := List.map_eq_cons_iff.1 hcalls
  obtain ⟨s, hbegin, hrest⟩ := Machine.Run.cons_inv h
  have hno : ∀ x ∈ t, ¬ OkBegin x := by
    rintro x hx ⟨c, req, resp, rfl⟩
    have hmem := List.mem_map_of_mem (f := (·.1)) hx
    rw [hdata] at hmem
    simp at hmem
  obtain ⟨hann, -⟩ := session_of_no_begin hrest hno
  cases hbegin
  exact congrArg (fun p => p.2.1) hann

/-- Every call is answered with `OK`, and the bootloader refuses the image. -/
theorem end_ok_late_header :
    ¬ ∀ (L : Layout) (ram₀ : Mem 32) (t : Trace) (m m' : OtaMachine)
      (c : Option SystemController) (req : PayloadOtaEnd), Runs L ram₀ t m →
        (∀ x ∈ t, ForThisBoard x.1.1) → step L m (c, .end req) = some (.ok, m') →
          PassesGate m'.ram := by
  intro h
  have hexec : (Machine.exec (OtaMachine.step Layout.lowest) (start fun _ => 0) lateHeader).any
      (fun r => r.2.svc.state = .receiving ∧
        bytesAt (Layout.lowest.staging r.2.ram) 0 r.2.svc.totalImageSize.toNat = lateImage ∧
        headerFault (Layout.lowest.staging r.2.ram) r.2.svc.totalImageSize = some .checksum) =
          true := by
    decide +kernel
  obtain ⟨t, m, hrun, hcalls, hp⟩ := Machine.exec_any hexec
  obtain ⟨hs, hstaged, hfault⟩ := of_decide_eq_true hp
  dsimp only at hs hstaged hfault
  have hcrc : bufferCrc32 Layout.lowest m = m.svc.expectedCrc32 := by
    unfold bufferCrc32
    rw [expectedCrc32_of_lateHeader hrun hcalls, hstaged]
  obtain ⟨m', hend⟩ := step_end_of_staged (some thisBoard) ⟨0, 0⟩ hs hcrc
  have hboard : ∀ x ∈ t, ForThisBoard x.1.1 := by
    intro x hx
    have hmem : x.1 ∈ lateHeader := by
      rw [← hcalls]
      exact List.mem_map_of_mem hx
    have hc : x.1.1 = some thisBoard := by
      unfold lateHeader at hmem
      rcases List.mem_cons.1 hmem with h | hmem
      · rw [h]
      · rcases List.mem_cons.1 hmem with h | hmem
        · rw [h]
        · rw [List.mem_singleton.1 hmem]
    rw [hc]
    exact forThisBoard_thisBoard
  have hheader := (passes_iff_header (runs_inv hrun) hend).1
    (h _ _ _ _ _ _ _ hrun hboard hend)
  rw [headerFault_eq_none.2 hheader] at hfault
  cases hfault

end OtaMachine

end EmbeddedPixel
