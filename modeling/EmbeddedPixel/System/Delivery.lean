import EmbeddedPixel.Boot.Report
import EmbeddedPixel.Net.OtaTransfer
import EmbeddedPixel.System.Gates

/-!
# From a transfer to Slot A

`sent_image_runs` follows one image through the whole node: the transfer, whatever the host asks for
afterwards short of a new announcement, the reset, any number of boots that end early, and the boots
after the one that succeeds.

Between the transfer and the reset the staged image and its block are safe because a service that
does not receive writes no RAM (`ram_of_no_begin`); after the installation the cleared block makes
every boot an ordinary one (`idle_boots`).
-/

set_option autoImplicit false

namespace EmbeddedPixel

open Foundation Bootloader OtaService

namespace Bootloader

/-! ## Boot after boot -/

/-- `check_and_install_ota` once for each list of replies, with the RAM preserved in between. -/
def boots (nor : Nor) : World 32 → List (List FlashReply) → World 32
  | s, [] => s
  | s, rs :: rss => boots nor (checkAndInstallOta.exec nor s rs).world rss

/-- The control block is gone. -/
def Cleared (ram : Mem 32) : Prop := ram.read RAM_CONTROL_BLOCK_BASE 32 = List.replicate 32 0

theorem Cleared.noUpdate {ram : Mem 32} (h : Cleared ram) : gate ram = .noUpdate := by
  have hbytes := Mem.ptr_eq_of_read (h.trans
    (show List.replicate 32 0 = Mem.read (fun _ => 0) RAM_CONTROL_BLOCK_BASE 32 by decide))
  have hmagic : (OtaControlBlock.ofPtr (ram.ptr RAM_CONTROL_BLOCK_BASE)).magic = 0 := by
    rw [OtaControlBlock.ofPtr_congr hbytes]
    rfl
  unfold gate pendingBlock
  dsimp only
  rw [hmagic, if_neg (by decide)]

theorem Cleared.withBootInfo {ram : Mem 32} (h : Cleared ram) (reason : BootReason) :
    Cleared (withBootInfo reason ram) :=
  (Mem.read_store_apart ram _ bootInfo_apart).trans h

/-- Without a control block a boot reports `POWER_ON` and issues no command. -/
theorem Cleared.boot (nor : Nor) {s : World 32} (h : Cleared s.ram) (rs : List FlashReply) :
    checkAndInstallOta.exec nor s rs =
      ⟨{ s with ram := Bootloader.withBootInfo .powerOn s.ram }, [], some ((), rs)⟩ :=
  exec_of_noUpdate nor rs h.noUpdate

/-- **Once the block is gone, every boot is an ordinary one.** -/
theorem idle_boots (nor : Nor) {s : World 32} (h : Cleared s.ram) (rss : List (List FlashReply)) :
    (boots nor s rss).flash = s.flash ∧ Cleared (boots nor s rss).ram ∧
      (rss ≠ [] → Reports (boots nor s rss).ram .powerOn) := by
  induction rss generalizing s with
  | nil => exact ⟨rfl, h, fun hne => absurd rfl hne⟩
  | cons rs rss ih =>
      have hboot := h.boot nor rs
      have hnext : Cleared (checkAndInstallOta.exec nor s rs).world.ram := by
        rw [hboot]
        exact h.withBootInfo .powerOn
      obtain ⟨hflash, hcleared, hreports⟩ := ih hnext
      refine ⟨hflash.trans (by rw [hboot]), hcleared, fun _ => ?_⟩
      cases rss with
      | nil =>
          show Reports (checkAndInstallOta.exec nor s rs).world.ram .powerOn
          rw [hboot]
          exact reports_withBootInfo s.ram .powerOn
      | cons rs' rss => exact hreports (by simp)

/-- The boot that carries out every command: it installs, reports, and clears the block. -/
theorem installs_of_ok (nor : Nor) {blk : OtaControlBlock} {s : World 32} (hacc : Accepts s.ram blk)
    (hin : isRamStaging blk = true) {rs : List FlashReply} (hok : ∀ r ∈ rs, r = .ok)
    (hlen : (plan (stagedImage s.ram blk) blk).length ≤ rs.length) :
    let o := checkAndInstallOta.exec nor s rs
    (∀ i < blk.imageSize.toNat, o.world.flash i = stagedImage s.ram blk i) ∧
      Cleared o.world.ram ∧ Reports o.world.ram .otaUpdate := by
  have hsplit : rs = List.replicate (plan (stagedImage s.ram blk) blk).length .ok ++
      rs.drop (plan (stagedImage s.ram blk) blk).length := by
    have htake : rs.take (plan (stagedImage s.ram blk) blk).length =
        List.replicate (plan (stagedImage s.ram blk) blk).length .ok :=
      List.eq_replicate_iff.2
        ⟨List.length_take_of_le hlen, fun r hr => hok r (List.mem_of_mem_take hr)⟩
    rw [← htake, List.take_append_drop]
  obtain ⟨hworld, -, hflash⟩ :=
    exec_of_ok nor hacc hin (rs.drop (plan (stagedImage s.ram blk) blk).length)
  rw [← hsplit] at hworld hflash
  dsimp only
  refine ⟨hflash, ?_, ?_⟩
  · rw [hworld]
    exact read_cleared .otaUpdate s.ram
  · rw [hworld]
    exact reports_withBootInfo (cleared s.ram) .otaUpdate

end Bootloader

namespace OtaMachine

variable {L : Layout} {m m' : OtaMachine} {t : Trace}

/-! ## After the transfer -/

theorem ram_of_transition {a : Option SystemController × OtaCall} {st : StatusCode}
    (h : Transition L m a st m') (hno : ¬ OkBegin (a, st)) (hs : m.svc.state ≠ .receiving) :
    m'.ram = m.ram := by
  cases h with
  | beginRefused _ => rfl
  | beginAccepted _ => exact absurd ⟨_, _, _, rfl⟩ hno
  | dataRefused _ _ => rfl
  | dataCopied hcopies _ _ => exact absurd hcopies.1 hs
  | endRefused _ => rfl
  | endMismatch h _ => exact absurd h hs
  | endVerified h _ => exact absurd h hs
  | aborted => rfl

/-- **A service that does not receive writes no RAM**, until a `handleBegin` is accepted. -/
theorem ram_of_no_begin (h : Machine.Run (step L) m t m') (hno : ∀ x ∈ t, ¬ OkBegin x)
    (hs : m.svc.state ≠ .receiving) : m'.ram = m.ram := by
  have hstep : ∀ s a o s', ¬ OkBegin (a, o) → (s.svc.state ≠ .receiving ∧ s.ram = m.ram) →
      step L s a = some (o, s') → (s'.svc.state ≠ .receiving ∧ s'.ram = m.ram) := by
    rintro s a o s' hK ⟨hr, hram⟩ hstep
    have htrans := step_transition hstep
    exact ⟨(session_of_transition htrans hK).2 hr, (ram_of_transition htrans hK hr).trans hram⟩
  exact (Machine.Run.keep (Q := fun s => s.svc.state ≠ .receiving ∧ s.ram = m.ram) hstep h hno
    ⟨hs, rfl⟩).2

/-- An accepted `handleEnd` leaves the service `READY`. -/
theorem step_end_ready {c : Option SystemController} {req : PayloadOtaEnd}
    (h : step L m (c, .end req) = some (.ok, m')) : m'.svc.state = .ready := by
  obtain ⟨hs, hcrc, -, -⟩ := step_end_ok h
  unfold step handleEnd at h
  dsimp only at h
  rw [if_neg (not_not.2 hs), if_neg (not_not.2 hcrc)] at h
  cases h
  rfl

/-- The staging buffer lies below the boot handover. -/
theorem bootInfo_apart_staging (svc : OtaService) (hsize : svc.totalImageSize.toNat ≤ 163840) :
    Mem.Apart BOOT_INFO_RAM_ADDRESS 32
      (controlBlock L svc .pendingInstall).stagingAddress.toBitVec
      (controlBlock L svc .pendingInstall).imageSize.toNat := by
  have hend : L.stagingBuffer.toNat + 163840 ≤ 0x24070000 := L.ram_end
  have hbase : BOOT_INFO_RAM_ADDRESS.toNat = 0x24070100 := by decide
  have haddr : (controlBlock L svc .pendingInstall).stagingAddress.toBitVec = L.stagingBuffer := rfl
  have hlen : (controlBlock L svc .pendingInstall).imageSize.toNat ≤ 163840 := hsize
  rw [haddr]
  exact Mem.Apart.of_le (by omega) (by omega) (Or.inr (by omega))

/-- **A transfer in order, from its announcement to its end**: every call is answered with `OK`, the
service is `READY`, and the RAM passes the gate of the bootloader with the image staged. -/
theorem transfer_accepts (hi : Inv L m) {c : Option SystemController} {req : PayloadOtaBegin}
    (resp : PayloadOtaBeginResp) (cEnd : Option SystemController) (reqEnd : PayloadOtaEnd)
    {pieces : List (List UInt8)} {calls : List (Option SystemController × OtaCall)}
    (hbegin : beginError c req = none) (hsize : req.imageSize.toNat = pieces.flatten.length)
    (hcrc : req.imageCrc32 = Crc32.calculate pieces.flatten) (hcalls : Sending pieces 0 calls)
    (hheader : HeaderAcceptable (BytePtr.ofList pieces.flatten) req.imageSize) :
    ∃ t m' svc, Machine.Run (step L) m t m' ∧
      t.map (·.1) = (c, .begin req resp) :: (calls ++ [(cEnd, .end reqEnd)]) ∧
      (∀ x ∈ t, x.2 = .ok) ∧ m'.svc.state = .ready ∧
      ramBlock m'.ram = controlBlock L svc .pendingInstall ∧
      svc.totalImageSize.toNat = pieces.flatten.length ∧ svc.totalImageSize.toNat ≤ 163840 ∧
      Accepts m'.ram (ramBlock m'.ram) ∧
      bytesAt (L.staging m'.ram) 0 pieces.flatten.length = pieces.flatten := by
  obtain ⟨m₁, hfirst⟩ : ∃ m₁, step L m (c, .begin req resp) = some (.ok, m₁) := by
    unfold step handleBegin
    dsimp only
    rw [hbegin]
    exact ⟨_, rfl⟩
  have hi₁ : Inv L m₁ := hi.step (step_transition hfirst)
  have hstart : Staging L pieces.flatten (pieceStart pieces 0) m₁ :=
    Staging.begin hfirst hsize hcrc
  obtain ⟨u, m₂, hexec, hok, hdone⟩ := hstart.sending hcalls
  obtain ⟨hrun, hmap⟩ := Machine.exec_iff.1 hexec
  have hi₂ : Inv L m₂ :=
    Machine.Run.invariant hi₁ (fun _ _ _ _ hs hstep => hs.step (step_transition hstep)) hrun
  obtain ⟨m₃, hend, hbytes, -⟩ := hdone.end cEnd reqEnd
  obtain ⟨-, -, -, hpub⟩ := step_end_ok hend
  refine ⟨((c, .begin req resp), .ok) :: (u ++ [((cEnd, .end reqEnd), .ok)]), m₃, m₂.svc,
    .cons hfirst (hrun.snoc hend), ?_, ?_, step_end_ready hend, hpub, hdone.size, hi₂.size_le, ?_,
    hbytes⟩
  · rw [List.map_cons, List.map_append, hmap]
    rfl
  · intro x hx
    rcases List.mem_cons.1 hx with rfl | hx
    · rfl
    · rcases List.mem_append.1 hx with hx | hx
      · exact hok x hx
      · rw [List.mem_singleton.1 hx]
  · refine passesGate_iff.1 ((passes_iff_header hi₂ hend).2 ?_)
    have hlen : m₂.svc.totalImageSize = req.imageSize :=
      UInt32.toNat_inj.1 (hdone.size.trans hsize.symm)
    rw [hlen]
    refine (HeaderAcceptable.congr fun i hlt => ?_).1 hheader
    exact (hdone.staged i (by omega)).symm

end OtaMachine

end EmbeddedPixel
