import Mathlib.Data.List.GetD
import EmbeddedPixel.Net.OtaHistory

/-!
# An image sent in order

A host cuts an image into pieces and sends them in order; a piece it has had accepted before it may send
again at any time (`Sending`).  `Staging` ties the machine to how far the transfer has come: everything
before the frontier is staged as the image has it, wherever `bytes_written_` stands.  The early header
check is made only behind the frontier, so it sees the header of the image (`Staging.send`), and
`transfer_completes` follows by induction over the requests.
-/

set_option autoImplicit false

namespace EmbeddedPixel

open Foundation

/-- The embedded header, if the image has room for one: valid, and the controller is content with it. -/
def HeaderFits (c : Option SystemController) (image : List UInt8) : Prop :=
  let appHdr := (BytePtr.ofList image).advance APP_HEADER_FLASH_OFFSET
  let hdr := AppImageHeader.ofPtr appHdr
  APP_HEADER_FLASH_OFFSET + APP_IMAGE_HEADER_SIZE ≤ image.length → hdr.magic = EPFW_MAGIC →
    AppImageHeader.isValid appHdr = true ∧
      ∀ ctrl, c = some ctrl →
        hdr.boardId = ctrl.getBoardId ∧ hdr.minBootloaderVersion ≤ ctrl.getBootloaderVersion

/-! ## What a host sends -/

/-- Where piece `k` begins. -/
def pieceStart (pieces : List (List UInt8)) (k : Nat) : Nat := (pieces.take k).flatten.length

theorem pieceStart_succ {pieces : List (List UInt8)} {k : Nat} (hk : k < pieces.length) :
    pieceStart pieces (k + 1) = pieceStart pieces k + (pieces[k]).length := by
  unfold pieceStart
  rw [List.take_succ_eq_append_getElem hk, List.flatten_append, List.length_append]
  simp

theorem pieceStart_mono (pieces : List (List UInt8)) {j k : Nat} (h : j ≤ k) :
    pieceStart pieces j ≤ pieceStart pieces k := by
  unfold pieceStart
  have hprefix : (pieces.take j).flatten <+: (pieces.take k).flatten := by
    obtain ⟨rest, hrest⟩ := List.take_prefix_take_left (l := pieces) h
    exact ⟨rest.flatten, by rw [← hrest, List.flatten_append]⟩
  exact hprefix.length_le

theorem pieceStart_length (pieces : List (List UInt8)) :
    pieceStart pieces pieces.length = pieces.flatten.length := by
  unfold pieceStart
  rw [List.take_length]

/-- The image around piece `k`. -/
theorem flatten_split {pieces : List (List UInt8)} {k : Nat} (hk : k < pieces.length) :
    pieces.flatten = (pieces.take k).flatten ++ (pieces[k] ++ (pieces.drop (k + 1)).flatten) := by
  conv_lhs => rw [← List.take_append_drop k pieces, List.drop_eq_getElem_cons hk]
  rw [List.flatten_append, List.flatten_cons]

/-- The request carries a piece, at its place in the image and with a checksum of its own or none. -/
structure Carries (pieces : List (List UInt8)) (k : Nat) (req : PayloadOtaData)
    (chunkData : BytePtr) (dataLen : UInt16) : Prop where
  lt : k < pieces.length
  offset : req.offset.toNat = pieceStart pieces k
  chunk : bytesAt chunkData 0 dataLen.toNat = pieces[k]
  crc : req.chunkCrc16 = 0 ∨ req.chunkCrc16 = crc16Ccitt pieces[k] 0xFFFF

/-- The calls for the pieces from `k` on, with any of the earlier ones sent again in between, to a node
whose controllers are content with the image. -/
inductive Sending (pieces : List (List UInt8)) :
    Nat → List (Option SystemController × OtaCall) → Prop
  | done : Sending pieces pieces.length []
  | next {k c req chunkData dataLen calls} (h : Carries pieces k req chunkData dataLen)
      (hc : HeaderFits c pieces.flatten) (rest : Sending pieces (k + 1) calls) :
      Sending pieces k ((c, .data req chunkData dataLen) :: calls)
  | again {j k c req chunkData dataLen calls} (h : Carries pieces j req chunkData dataLen)
      (hlt : j < k) (hc : HeaderFits c pieces.flatten) (rest : Sending pieces k calls) :
      Sending pieces k ((c, .data req chunkData dataLen) :: calls)

namespace OtaMachine

open OtaService

variable {L : Layout} {m m' : OtaMachine} {c : Option SystemController} {image : List UInt8}

/-! ## The early header check -/

/-- Nothing is wrong with a header that the controller is content with. -/
theorem headerError_of_fits (h : HeaderFits c image)
    (hroom : APP_HEADER_FLASH_OFFSET + APP_IMAGE_HEADER_SIZE ≤ image.length) :
    headerError c ((BytePtr.ofList image).advance APP_HEADER_FLASH_OFFSET) = none := by
  unfold headerError
  dsimp only
  by_cases hmagic :
      (AppImageHeader.ofPtr ((BytePtr.ofList image).advance APP_HEADER_FLASH_OFFSET)).magic = EPFW_MAGIC
  · obtain ⟨hvalid, hctrl⟩ := h hroom hmagic
    rw [if_pos hmagic, hvalid]
    cases c with
    | none => simp
    | some ctrl =>
        obtain ⟨hboard, hboot⟩ := hctrl ctrl rfl
        simp [hboard, hboot]
  · rw [if_neg hmagic]

theorem copyChunk_of_noError {req : PayloadOtaData} {chunk : List UInt8}
    (hfit : req.offset.toNat + chunk.length ≤ 163840)
    (hhdr : APP_HEADER_FLASH_OFFSET + APP_IMAGE_HEADER_SIZE ≤
        (copied L req chunk m).svc.bytesWritten.toNat →
      headerError c ((L.staging (copied L req chunk m).ram).advance APP_HEADER_FLASH_OFFSET) = none) :
    copyChunk L c req chunk m = some (.ok, copied L req chunk m) := by
  unfold copyChunk
  rw [if_neg (show ¬ _ > MAX_IMAGE_SIZE.toNat from Nat.not_lt.2 hfit)]
  dsimp only
  split
  · rename_i hpast
    rw [hhdr hpast]
  · rfl

/-! ## The frontier -/

/-- Part way through: the first `frontier` bytes of the image are staged. -/
structure Staging (L : Layout) (image : List UInt8) (frontier : Nat) (m : OtaMachine) : Prop where
  receiving : m.svc.state = .receiving
  size : m.svc.totalImageSize.toNat = image.length
  size_le : image.length ≤ 163840
  frontier_le : frontier ≤ image.length
  crc : m.svc.expectedCrc32 = Crc32.calculate image
  staged : ∀ i < frontier, L.staging m.ram i = BytePtr.ofList image i

/-- An accepted `handleBegin` opens the transfer. -/
theorem Staging.begin {c : Option SystemController} {req : PayloadOtaBegin}
    {resp : PayloadOtaBeginResp} (h : step L m (c, .begin req resp) = some (.ok, m'))
    (hsize : req.imageSize.toNat = image.length) (hcrc : req.imageCrc32 = Crc32.calculate image) :
    Staging L image 0 m' := by
  obtain ⟨hnone, hsvc, -⟩ := step_begin_ok h
  obtain ⟨-, hle⟩ := beginError_eq_none hnone
  refine ⟨?_, ?_, ?_, Nat.zero_le _, ?_, ?_⟩
  · rw [hsvc]
    rfl
  · rw [hsvc]
    exact hsize
  · rw [← hsize]
    exact hle
  · rw [hsvc]
    exact hcrc
  · intro i hi
    omega

/-- **One piece at or behind the frontier is accepted**, and moves the frontier to its end if it was
not there. -/
theorem Staging.send {frontier : Nat} {pre piece post : List UInt8} {req : PayloadOtaData}
    {chunkData : BytePtr} {dataLen : UInt16} (h : Staging L image frontier m)
    (himage : image = pre ++ (piece ++ post)) (hle : pre.length ≤ frontier)
    (hoff : req.offset.toNat = pre.length) (hchunk : bytesAt chunkData 0 dataLen.toNat = piece)
    (hcrc : req.chunkCrc16 = 0 ∨ req.chunkCrc16 = crc16Ccitt piece 0xFFFF)
    (hfits : HeaderFits c image) :
    ∃ m', step L m (c, .data req chunkData dataLen) = some (.ok, m') ∧
      Staging L image (max frontier (pre.length + piece.length)) m' := by
  have hlen : dataLen.toNat = piece.length := by rw [← hchunk, length_bytesAt]
  have hend : pre.length + piece.length ≤ image.length := by
    rw [himage]
    simp
  have hsize := h.size_le
  have hfrontier := h.frontier_le
  have hsum : (req.offset + dataLen.toUInt32).toNat = pre.length + piece.length := by
    rw [toNat_add_len, hoff, hlen]
    exact Nat.mod_eq_of_lt (by omega)
  have hcopies : Copies m.svc req chunkData dataLen := by
    refine ⟨h.receiving, UInt32.le_iff_toNat_le.2 ?_, ?_⟩
    · rw [hsum, h.size]
      exact hend
    · unfold chunkCrcOk
      split
      · rfl
      · rename_i hne
        rcases hcrc with hzero | hown
        · exact absurd hzero hne
        · rw [Reader.run_bind, Reader.run_bytes, hchunk, hown]
          simp
  have hfit : req.offset.toNat + piece.length ≤ 163840 := by omega
  have hwritten : (copied L req piece m).svc.bytesWritten.toNat = pre.length + piece.length := by
    rw [toNat_bytesWritten_copied hfit, hoff]
  have hstaged : ∀ i < max frontier (pre.length + piece.length),
      L.staging (copied L req piece m).ram i = BytePtr.ofList image i := by
    intro i hi
    rw [staging_copied hfit (by omega), hoff]
    split
    · -- inside the piece
      rename_i hin
      show piece.getD (i - pre.length) 0 = image.getD i 0
      rw [himage, List.getD_append_right _ _ _ _ hin.1, List.getD_append _ _ _ _ (by omega)]
    · exact h.staged i (by omega)
  refine ⟨copied L req piece m, ?_, h.receiving, h.size, h.size_le, Nat.max_le.2 ⟨hfrontier, hend⟩,
    h.crc, hstaged⟩
  simp only [step, handleData_of_copies hcopies, hchunk]
  refine copyChunk_of_noError hfit fun hpast => ?_
  -- the check looks behind the frontier
  rw [hwritten] at hpast
  rw [← headerError_of_fits hfits (hpast.trans hend)]
  refine headerError_congr fun i hi => hstaged _ ?_
  unfold APP_IMAGE_HEADER_SIZE at hi hpast
  omega

/-- A piece up to the frontier is accepted. -/
theorem Staging.carries {pieces : List (List UInt8)} {j k : Nat} {req : PayloadOtaData}
    {chunkData : BytePtr} {dataLen : UInt16}
    (h : Staging L pieces.flatten (pieceStart pieces k) m)
    (hcarries : Carries pieces j req chunkData dataLen) (hjk : j ≤ k)
    (hc : HeaderFits c pieces.flatten) :
    ∃ m', step L m (c, .data req chunkData dataLen) = some (.ok, m') ∧
      Staging L pieces.flatten (max (pieceStart pieces k) (pieceStart pieces (j + 1))) m' := by
  have hj := hcarries.lt
  obtain ⟨m', hstep, hnext⟩ := h.send (flatten_split hj) (pieceStart_mono pieces hjk)
    hcarries.offset hcarries.chunk hcarries.crc hc
  refine ⟨m', hstep, ?_⟩
  rw [pieceStart_succ hj]
  exact hnext

/-- **The requests of a transfer are all accepted**, and leave the image staged. -/
theorem Staging.sending {pieces : List (List UInt8)} {k : Nat}
    {calls : List (Option SystemController × OtaCall)} (hcalls : Sending pieces k calls)
    (h : Staging L pieces.flatten (pieceStart pieces k) m) :
    ∃ t m', Machine.exec (step L) m calls = some (t, m') ∧ (∀ x ∈ t, x.2 = .ok) ∧
      Staging L pieces.flatten pieces.flatten.length m' := by
  induction hcalls generalizing m with
  | done =>
      refine ⟨[], m, rfl, by simp, ?_⟩
      rw [← pieceStart_length]
      exact h
  | @next k c req chunkData dataLen calls hcarries hc _ ih =>
      obtain ⟨m₁, hstep, hnext⟩ := h.carries hcarries (Nat.le_refl k) hc
      -- the frontier moves on
      rw [Nat.max_eq_right (pieceStart_mono pieces (Nat.le_succ k))] at hnext
      obtain ⟨t, m', hexec, hok, hdone⟩ := ih hnext
      refine ⟨((c, .data req chunkData dataLen), .ok) :: t, m', ?_, ?_, hdone⟩
      · simp [Machine.exec, hstep, hexec]
      · simpa using hok
  | @again j k c req chunkData dataLen calls hcarries hlt hc _ ih =>
      obtain ⟨m₁, hstep, hnext⟩ := h.carries hcarries hlt.le hc
      -- the piece lies behind the frontier
      rw [Nat.max_eq_left (pieceStart_mono pieces hlt)] at hnext
      obtain ⟨t, m', hexec, hok, hdone⟩ := ih hnext
      refine ⟨((c, .data req chunkData dataLen), .ok) :: t, m', ?_, ?_, hdone⟩
      · simp [Machine.exec, hstep, hexec]
      · simpa using hok

/-- The end of a transfer is accepted: the image is staged and the control block names it. -/
theorem Staging.end (h : Staging L image image.length m) (c : Option SystemController)
    (req : PayloadOtaEnd) :
    ∃ m', step L m (c, .end req) = some (.ok, m') ∧
      bytesAt (L.staging m'.ram) 0 image.length = image ∧
      (OtaControlBlock.ofPtr (m'.ram.ptr RAM_CONTROL_BLOCK_BASE)).imageSize.toNat = image.length ∧
      (OtaControlBlock.ofPtr (m'.ram.ptr RAM_CONTROL_BLOCK_BASE)).imageCrc32 =
        Crc32.calculate image := by
  have hbytes : bytesAt (L.staging m.ram) 0 image.length = image := by
    conv_rhs => rw [← bytesAt_ofList image]
    exact bytesAt_congr fun i hi => h.staged (0 + i) (by omega)
  have hcrc : bufferCrc32 L m = m.svc.expectedCrc32 := by
    unfold bufferCrc32
    rw [h.size, hbytes, h.crc]
  obtain ⟨m', hstep⟩ := step_end_of_staged c req h.receiving hcrc
  obtain ⟨-, -, hram, hblk⟩ := step_end_ok hstep
  refine ⟨m', hstep, ?_, ?_, ?_⟩
  · rw [hram, bytesAt_staging_writeControlBlock L _ m h.size_le, hbytes]
  · rw [hblk]
    exact h.size
  · rw [hblk]
    exact h.crc

/-- **A transfer in order completes**, however the image is cut and whatever is sent again: after an
accepted `handleBegin` for the image every request is answered with `OK`, and so is the `handleEnd`, which
leaves the image staged and a control block with its size and checksum. -/
theorem transfer_completes {pieces : List (List UInt8)}
    {calls : List (Option SystemController × OtaCall)} {req : PayloadOtaBegin}
    {resp : PayloadOtaBeginResp} (hbegin : step L m (c, .begin req resp) = some (.ok, m'))
    (hsize : req.imageSize.toNat = pieces.flatten.length)
    (hcrc : req.imageCrc32 = Crc32.calculate pieces.flatten) (hcalls : Sending pieces 0 calls) :
    ∃ t m₁, Machine.exec (step L) m' calls = some (t, m₁) ∧ (∀ x ∈ t, x.2 = .ok) ∧
      ∀ cEnd reqEnd, ∃ m₂, step L m₁ (cEnd, .end reqEnd) = some (.ok, m₂) ∧
        bytesAt (L.staging m₂.ram) 0 pieces.flatten.length = pieces.flatten ∧
        (OtaControlBlock.ofPtr (m₂.ram.ptr RAM_CONTROL_BLOCK_BASE)).imageSize.toNat =
          pieces.flatten.length ∧
        (OtaControlBlock.ofPtr (m₂.ram.ptr RAM_CONTROL_BLOCK_BASE)).imageCrc32 =
          Crc32.calculate pieces.flatten := by
  have hstart : Staging L pieces.flatten (pieceStart pieces 0) m' := Staging.begin hbegin hsize hcrc
  obtain ⟨t, m₁, hexec, hok, hdone⟩ := hstart.sending hcalls
  exact ⟨t, m₁, hexec, hok, fun cEnd reqEnd => hdone.end cEnd reqEnd⟩

/-- An image of two bytes in two pieces, the first of them sent twice. -/
def twoPieces : List (List UInt8) := [[7], [9]]

def twicePieces : List (Option SystemController × OtaCall) :=
  [(none, .data ⟨0, 1, 0⟩ (fun _ => 7) 1), (none, .data ⟨0, 1, crc16Ccitt [7] 0xFFFF⟩ (fun _ => 7) 1),
    (none, .data ⟨1, 1, 0⟩ (fun _ => 9) 1)]

theorem transfer_completes_twice :
    Sending twoPieces 0 twicePieces ∧
      ∃ m' t m₁, Machine.exec (step Layout.lowest) m' twicePieces = some (t, m₁) ∧
        (∀ x ∈ t, x.2 = .ok) ∧ ∃ m₂, step Layout.lowest m₁ (none, .end ⟨0, 0⟩) = some (.ok, m₂) ∧
          bytesAt (Layout.lowest.staging m₂.ram) 0 2 = [7, 9] := by
  have hfits : HeaderFits none twoPieces.flatten := fun hroom => absurd hroom (by decide)
  have hcalls : Sending twoPieces 0 twicePieces := by
    refine .next ⟨by decide, rfl, rfl, Or.inl rfl⟩ hfits ?_
    refine .again (j := 0) ⟨by decide, rfl, rfl, Or.inr rfl⟩ (by decide) hfits ?_
    exact .next ⟨by decide, rfl, rfl, Or.inl rfl⟩ hfits .done
  have hbegin : ∃ m', step Layout.lowest (start fun _ => 0)
      (none, .begin ⟨2, Crc32.calculate [7, 9], 0, 1024, 0⟩ ⟨0, 0, 0⟩) = some (.ok, m') := ⟨_, rfl⟩
  obtain ⟨m', hstep⟩ := hbegin
  obtain ⟨t, m₁, hexec, hok, hend⟩ := transfer_completes hstep rfl rfl hcalls
  obtain ⟨m₂, hlast, hbytes, -⟩ := hend none ⟨0, 0⟩
  exact ⟨hcalls, m', t, m₁, hexec, hok, m₂, hlast, hbytes⟩

end OtaMachine

end EmbeddedPixel
