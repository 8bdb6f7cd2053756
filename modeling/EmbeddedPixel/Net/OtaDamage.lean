import EmbeddedPixel.Foundation.Crc
import EmbeddedPixel.Net.OtaRefusals

/-!
# Chunks that are damaged on the way

`crc16_ccitt` is the bit-wise CRC of width 16 (`crc16Ccitt_eq_run`), so a burst of at most 16 bits changes
it.  `handleData` compares it unless it is zero, and some chunks have the checksum zero:
`damaged_refused_iff`.
-/

set_option autoImplicit false

namespace EmbeddedPixel

open Foundation

/-! ## The checksum as a CRC -/

/-- The bits of a byte, highest first. -/
def byteBits (b : UInt8) : List Bool := (List.range 8).map fun i => b.toBitVec.getMsbD i

/-- The bits of a chunk in the order `crc16_ccitt` takes them. -/
def chunkBits (data : List UInt8) : List Bool := data.flatMap byteBits

/-- The generator `x^16 + x^12 + x^5 + 1`. -/
def CRC16_GENERATOR : BitVec 16 := 0x1021#16

theorem crc16Bit_toBitVec (crc : UInt16) :
    (crc16Bit crc).toBitVec = Crc.feed CRC16_GENERATOR crc.toBitVec false := by
  have htop : (crc &&& 0x8000).toBitVec = if crc.toBitVec.msb then BitVec.twoPow 16 15 else 0#16 := by
    rw [BitVec.msb_eq_getLsbD_last]
    exact BitVec.and_twoPow crc.toBitVec 15
  unfold crc16Bit Crc.feed
  rw [Bool.xor_false]
  cases hmsb : crc.toBitVec.msb with
  | true =>
      rw [hmsb] at htop
      have hne : crc &&& 0x8000 ≠ 0 := by
        intro hzero
        rw [hzero] at htop
        exact absurd htop (by decide)
      rw [if_pos hne, if_pos rfl]
      rfl
  | false =>
      rw [hmsb] at htop
      have hzero : crc &&& 0x8000 = 0 := UInt16.toBitVec_inj.1 htop
      rw [if_neg (not_not.2 hzero), if_neg (by decide)]
      rfl

theorem crc16Bit_iterate_toBitVec (n : Nat) (crc : UInt16) :
    (crc16Bit^[n] crc).toBitVec =
      (fun r => Crc.feed CRC16_GENERATOR r false)^[n] crc.toBitVec := by
  induction n generalizing crc with
  | zero => rfl
  | succ n ih => rw [Function.iterate_succ_apply, Function.iterate_succ_apply, ih, crc16Bit_toBitVec]

/-- A byte in the upper half of the register. -/
theorem getMsbD_upper (byte : UInt8) :
    ∀ i < 16, (byte.toUInt16 <<< 8).toBitVec.getMsbD i = (byteBits byte).getD i false := by
  have hshift : (byte.toUInt16 <<< 8).toBitVec = byte.toBitVec.setWidth 16 <<< 8 := rfl
  intro i hi
  rw [hshift, BitVec.getMsbD_shiftLeft, BitVec.getMsbD_setWidth]
  unfold byteBits
  by_cases hlt : i < 8
  · rw [List.getD_eq_getElem _ _ (by simpa using hlt), List.getElem_map, List.getElem_range]
    simp [show 8 ≤ i + 8 by omega]
  · rw [List.getD_eq_default _ _ (by simpa using Nat.not_lt.1 hlt),
      BitVec.getMsbD_of_ge _ _ (by omega), Bool.and_false]

theorem crc16Byte_toBitVec (crc : UInt16) (byte : UInt8) :
    (crc16Byte crc byte).toBitVec = Crc.run CRC16_GENERATOR crc.toBitVec (byteBits byte) := by
  have hbits : (byteBits byte).length = 8 := rfl
  have hxor : (crc ^^^ (byte.toUInt16 <<< 8)).toBitVec =
      crc.toBitVec ^^^ (byte.toUInt16 <<< 8).toBitVec := rfl
  unfold crc16Byte
  rw [crc16Bit_iterate_toBitVec, hxor, ← hbits]
  exact Crc.shifts_xor CRC16_GENERATOR (getMsbD_upper byte) crc.toBitVec (by rw [hbits]; decide)

/-- **`crc16_ccitt` is a CRC** over the bits of its bytes. -/
theorem crc16Ccitt_eq_run (data : List UInt8) (seed : UInt16) :
    (crc16Ccitt data seed).toBitVec = Crc.run CRC16_GENERATOR seed.toBitVec (chunkBits data) := by
  induction data generalizing seed with
  | nil => rfl
  | cons byte data ih =>
      show (crc16Ccitt data (crc16Byte seed byte)).toBitVec = _
      rw [ih, crc16Byte_toBitVec]
      exact (Crc.run_append _ _ _ _).symm

/-- A burst of at most 16 bits changes the checksum. -/
theorem crc16Ccitt_burst {d d' : List UInt8} (h : Crc.Burst 16 (chunkBits d) (chunkBits d'))
    (seed : UInt16) : crc16Ccitt d' seed ≠ crc16Ccitt d seed := by
  intro heq
  have hrun := congrArg UInt16.toBitVec heq
  rw [crc16Ccitt_eq_run, crc16Ccitt_eq_run] at hrun
  exact Crc.burst_detected (p := CRC16_GENERATOR) (by decide) seed.toBitVec h hrun.symm

namespace OtaMachine

open OtaService

variable {L : Layout} {m : OtaMachine} {c : Option SystemController} {req : PayloadOtaData}

/-- The chunk is staged already, ends past the header, and the header that is staged has no valid
checksum. -/
structure StagedBadHeader (L : Layout) (c : Option SystemController) (m : OtaMachine)
    (req : PayloadOtaData) (chunk : List UInt8) : Prop where
  staged : bytesAt (L.staging m.ram) req.offset.toNat chunk.length = chunk
  past : APP_HEADER_FLASH_OFFSET + APP_IMAGE_HEADER_SIZE ≤ req.offset.toNat + chunk.length
  header : headerError c ((L.staging m.ram).advance APP_HEADER_FLASH_OFFSET) = some .errInvalidCrc

/-- The header check after a copy that changed no byte. -/
theorem headerStatus_copied_iff {chunk : List UInt8}
    (hfit : req.offset.toNat + chunk.length ≤ 163840) (hkept : StagingKept L m (copied L req chunk m)) :
    headerStatus L c (copied L req chunk m) = .errInvalidCrc ↔
      APP_HEADER_FLASH_OFFSET + APP_IMAGE_HEADER_SIZE ≤ req.offset.toNat + chunk.length ∧
        headerError c ((L.staging m.ram).advance APP_HEADER_FLASH_OFFSET) = some .errInvalidCrc := by
  have hsame : headerError c ((L.staging (copied L req chunk m).ram).advance APP_HEADER_FLASH_OFFSET) =
      headerError c ((L.staging m.ram).advance APP_HEADER_FLASH_OFFSET) := by
    refine headerError_congr fun i hi => hkept (APP_HEADER_FLASH_OFFSET + i) ?_
    rw [MAX_IMAGE_SIZE_toNat]
    unfold APP_IMAGE_HEADER_SIZE at hi
    unfold APP_HEADER_FLASH_OFFSET
    omega
  unfold headerStatus
  rw [toNat_bytesWritten_copied hfit, hsame]
  by_cases hpast : APP_HEADER_FLASH_OFFSET + APP_IMAGE_HEADER_SIZE ≤ req.offset.toNat + chunk.length
  · rw [if_pos hpast]
    cases headerError c ((L.staging m.ram).advance APP_HEADER_FLASH_OFFSET) with
    | none => simp [hpast]
    | some e => simp [hpast]
  · rw [if_neg hpast]
    simp [hpast]

/-- **When a damaged chunk is refused**: exactly if the checksum of what was sent is not zero, or the
damaged chunk is staged already and a bad header is refused in its place. -/
theorem damaged_refused_iff {ram : Mem 32} {t : Trace} (h : Runs L ram t m)
    (hs : m.svc.state = .receiving) {d : List UInt8} {chunkData : BytePtr} {dataLen : UInt16}
    (hlen : dataLen.toNat = d.length)
    (hrange : req.offset.toNat + d.length ≤ m.svc.totalImageSize.toNat)
    (hcrc : req.chunkCrc16 = crc16Ccitt d 0xFFFF)
    (hburst : Crc.Burst 16 (chunkBits d) (chunkBits (bytesAt chunkData 0 dataLen.toNat))) :
    (∃ m', step L m (c, .data req chunkData dataLen) = some (.errInvalidCrc, m') ∧
        StagingKept L m m') ↔
      crc16Ccitt d 0xFFFF ≠ 0 ∨ StagedBadHeader L c m req (bytesAt chunkData 0 dataLen.toNat) := by
  have hsize := (runs_inv h).size_le
  have hchunk : (bytesAt chunkData 0 dataLen.toNat).length = d.length := by
    rw [length_bytesAt, hlen]
  have hle : req.offset + dataLen.toUInt32 ≤ m.svc.totalImageSize := by
    refine UInt32.le_iff_toNat_le.2 ?_
    rw [toNat_add_len, hlen]
    exact (Nat.mod_le _ _).trans hrange
  by_cases hzero : crc16Ccitt d 0xFFFF = 0
  · -- the chunk is not checked
    have hcopies : Copies m.svc req chunkData dataLen := by
      refine ⟨hs, hle, ?_⟩
      unfold chunkCrcOk
      rw [hcrc, if_pos hzero]
      rfl
    have hfit : req.offset.toNat + (bytesAt chunkData 0 dataLen.toNat).length ≤ 163840 := by omega
    have hstep : step L m (c, .data req chunkData dataLen) =
        copyChunk L c req (bytesAt chunkData 0 dataLen.toNat) m := by
      simp only [step, handleData_of_copies hcopies]
    rw [hstep]
    constructor
    · rintro ⟨m', hcopy, hkept⟩
      obtain ⟨-, hst, e, rfl⟩ := copyChunk_eq_some hcopy
      obtain ⟨hpast, hheader⟩ := (headerStatus_copied_iff hfit hkept).1 hst.symm
      exact Or.inr ⟨(staging_copied_eq_iff hfit).1 hkept, hpast, hheader⟩
    · rintro (hne | hbad)
      · exact absurd hzero hne
      · have hkept : StagingKept L m (copied L req (bytesAt chunkData 0 dataLen.toNat) m) :=
          (staging_copied_eq_iff hfit).2 hbad.staged
        obtain ⟨st, m', hcopy, -⟩ := step_data_of_copies (L := L) (c := c) hcopies (by omega)
        rw [hstep] at hcopy
        obtain ⟨-, hst, e, rfl⟩ := copyChunk_eq_some hcopy
        refine ⟨(copied L req (bytesAt chunkData 0 dataLen.toNat) m).withError e, ?_, hkept⟩
        rw [hcopy, hst, (headerStatus_copied_iff hfit hkept).2 ⟨hbad.past, hbad.header⟩]
  · refine iff_of_true ⟨_, handleData_of_badCrc hs hle ?_, fun _ _ => rfl⟩ (Or.inl hzero)
    unfold chunkCrcOk
    rw [hcrc, if_neg hzero, Reader.run_bind, Reader.run_bytes, Reader.run_pure, beq_eq_false_iff_ne]
    exact crc16Ccitt_burst hburst 0xFFFF

/-- The calls that announce an image of two bytes. -/
def announceTwo : List (Option SystemController × OtaCall) :=
  [(none, .begin ⟨2, 0, 0, 1024, 0⟩ ⟨0, 0, 0⟩)]

/-- Two bytes with the lowest bit of the second turned. -/
theorem burst_last_bit :
    Crc.Burst 16 (chunkBits [0xFF, 0xFF]) (chunkBits [0xFF, 0xFE]) :=
  ⟨List.replicate 15 true, [true], [false], [], rfl, rfl, rfl, by decide, by decide⟩

theorem damaged_refused_one_byte :
    ∃ t m m', Runs Layout.lowest (fun _ => 0) t m ∧
      step Layout.lowest m (none, .data ⟨0, 1, crc16Ccitt [7] 0xFFFF⟩ (fun _ => 6) 1) =
        some (.errInvalidCrc, m') ∧ StagingKept Layout.lowest m m' := by
  have hexec : (Machine.exec (step Layout.lowest) (start fun _ => 0) announceTwo).any
      (fun r => r.2.svc.state = .receiving ∧ r.2.svc.totalImageSize = 2) = true := by
    decide +kernel
  obtain ⟨t, m, hrun, -, hp⟩ := Machine.exec_any hexec
  obtain ⟨hs, hsize⟩ := of_decide_eq_true hp
  have hburst : Crc.Burst 16 (chunkBits [7]) (chunkBits [6]) :=
    ⟨chunkBits [7] |>.take 7, [true], [false], [], rfl, rfl, rfl, by decide, by decide⟩
  have hrange : (0 : UInt32).toNat + [(7 : UInt8)].length ≤ m.svc.totalImageSize.toNat := by
    rw [show m.svc.totalImageSize = 2 from hsize]
    decide
  have hiff : (∃ m', step Layout.lowest m
        (none, .data ⟨0, 1, crc16Ccitt [7] 0xFFFF⟩ (fun _ => 6) 1) = some (.errInvalidCrc, m') ∧
      StagingKept Layout.lowest m m') ↔ _ :=
    damaged_refused_iff hrun hs rfl hrange rfl hburst
  obtain ⟨m', hstep, hkept⟩ := hiff.2 (Or.inl (by decide))
  exact ⟨t, m, m', hrun, hstep, hkept⟩

/-- The checksum of two bytes `0xFF` is zero. -/
theorem damaged_chunk_accepted :
    ¬ ∀ (L : Layout) (ram : Mem 32) (t : Trace) (m : OtaMachine) (c : Option SystemController)
        (req : PayloadOtaData) (d : List UInt8) (chunkData : BytePtr) (dataLen : UInt16),
        Runs L ram t m → m.svc.state = .receiving → 1 ≤ d.length → d.length ≤ 1024 →
        dataLen.toNat = d.length → req.offset.toNat + d.length ≤ m.svc.totalImageSize.toNat →
        req.chunkCrc16 = crc16Ccitt d 0xFFFF →
        Crc.Burst 16 (chunkBits d) (chunkBits (bytesAt chunkData 0 dataLen.toNat)) →
        ∃ m', step L m (c, .data req chunkData dataLen) = some (.errInvalidCrc, m') ∧
          StagingKept L m m' := by
  intro h
  have hexec : (Machine.exec (step Layout.lowest) (start fun _ => 0) announceTwo).any
      (fun r => (r.2.svc.state = .receiving ∧ r.2.svc.totalImageSize = 2) ∧
        (step Layout.lowest r.2 (none, .data ⟨0, 2, 0⟩ (BytePtr.ofList [0xFF, 0xFE]) 2)).any
          fun q => q.1 = .ok) = true := by
    decide +kernel
  obtain ⟨t, m, hrun, -, hp⟩ := Machine.exec_any hexec
  obtain ⟨⟨hs, hsize⟩, hok⟩ := of_decide_eq_true hp
  have hrange : (0 : UInt32).toNat + [(0xFF : UInt8), 0xFF].length ≤ m.svc.totalImageSize.toNat := by
    rw [show m.svc.totalImageSize = 2 from hsize]
    decide
  have hzero : 0 = crc16Ccitt [0xFF, 0xFF] 0xFFFF := by decide +kernel
  obtain ⟨m', hstep, -⟩ := h Layout.lowest _ t m none ⟨0, 2, 0⟩ [0xFF, 0xFF]
    (BytePtr.ofList [0xFF, 0xFE]) 2 hrun hs (by decide) (by decide) rfl hrange hzero burst_last_bit
  obtain ⟨⟨st, m''⟩, hstep', hst⟩ := (Option.any_eq_true _ _).1 hok
  rw [hstep] at hstep'
  cases hstep'
  have hok : StatusCode.errInvalidCrc = .ok := of_decide_eq_true hst
  cases hok

end OtaMachine

end EmbeddedPixel
