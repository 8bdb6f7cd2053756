import EmbeddedPixel.Sys.Crc32Bits

/-!
# Bursts under CRC-32

Read backwards, the register of `Crc32::Update` is that of a CRC of width 32 over the bits of its bytes,
lowest first (`update_reverse`).  So a burst of at most 32 bits changes a checksum (`calculate_burst`), and
a structure with its `struct_crc32` behind it is no longer valid after one, wherever it falls
(`struct_burst`).
-/

set_option autoImplicit false

namespace EmbeddedPixel.Crc32

open Foundation

/-- The bits of a byte, lowest first. -/
def octetBits (b : UInt8) : List Bool := (List.range 8).map b.toBitVec.getLsbD

/-- The bits of some bytes in the order the checksum takes them. -/
def dataBits (data : List UInt8) : List Bool := data.flatMap octetBits

/-- The generator, highest coefficient first. -/
def GENERATOR : BitVec 32 := POLYNOMIAL.toBitVec.reverse

theorem GENERATOR_constant : GENERATOR.getMsbD 31 = true := by
  unfold GENERATOR
  rw [BitVec.getMsbD_reverse]
  decide

theorem dataBits_append (d e : List UInt8) : dataBits (d ++ e) = dataBits d ++ dataBits e := by
  unfold dataBits
  rw [List.flatMap_append]

/-! ## The register, read backwards -/

theorem reverse_xor {w : Nat} (a b : BitVec w) : (a ^^^ b).reverse = a.reverse ^^^ b.reverse := by
  refine BitVec.eq_of_getMsbD_eq fun i _ => ?_
  rw [BitVec.getMsbD_reverse, BitVec.getLsbD_xor, BitVec.getMsbD_xor, BitVec.getMsbD_reverse,
    BitVec.getMsbD_reverse]

/-- A byte at the low end of the register. -/
theorem getMsbD_byte_reverse (byte : UInt8) :
    ∀ i < 32, byte.toUInt32.toBitVec.reverse.getMsbD i = (octetBits byte).getD i false := by
  intro i hi
  rw [BitVec.getMsbD_reverse, UInt8.toBitVec_toUInt32, BitVec.getLsbD_setWidth]
  unfold octetBits
  by_cases hlt : i < 8
  · rw [List.getD_eq_getElem _ _ (by simpa using hlt), List.getElem_map, List.getElem_range]
    simp [hi]
  · rw [List.getD_eq_default _ _ (by simpa using Nat.not_lt.1 hlt),
      BitVec.getLsbD_of_ge _ _ (Nat.not_lt.1 hlt), Bool.and_false]

theorem byteStep_reverse (crc : UInt32) (byte : UInt8) :
    (byteStep crc byte).toBitVec.reverse =
      Crc.run GENERATOR crc.toBitVec.reverse (octetBits byte) := by
  have hlen : (octetBits byte).length = 8 := rfl
  unfold byteStep
  rw [bitStep_iterate_toBitVec, Crc.reverse_shifts_reflected, UInt32.toBitVec_xor, reverse_xor,
    ← hlen]
  exact Crc.shifts_xor GENERATOR (getMsbD_byte_reverse byte) crc.toBitVec.reverse
    (by rw [hlen]; decide)

/-- **CRC-32 is a CRC** over the bits of its bytes. -/
theorem update_reverse (crc : UInt32) (data : List UInt8) :
    (update crc data).toBitVec.reverse =
      Crc.run GENERATOR crc.toBitVec.reverse (dataBits data) := by
  induction data generalizing crc with
  | nil => rfl
  | cons byte data ih =>
      show (update (step crc byte) data).toBitVec.reverse = _
      rw [ih, step_eq_byteStep, byteStep_reverse]
      exact (Crc.run_append _ _ _ _).symm

theorem calculate_reverse (data : List UInt8) :
    (calculate data).toBitVec.reverse =
      Crc.run GENERATOR INITIAL_REMAINDER.toBitVec.reverse (dataBits data) ^^^
        FINAL_XOR_VALUE.toBitVec.reverse := by
  rw [← update_reverse, ← reverse_xor]
  rfl

/-! ## A stored checksum -/

/-- Byte `k` of a word. -/
theorem octetBits_div (x : UInt32) (k : Nat) :
    octetBits (UInt8.ofNat (x.toNat / 2 ^ (8 * k))) =
      (List.range 8).map fun i => x.toBitVec.getLsbD (8 * k + i) := by
  unfold octetBits
  refine List.map_congr_left fun i hi => ?_
  have hi : i < 8 := List.mem_range.1 hi
  show (UInt8.ofNat (x.toNat / 2 ^ (8 * k))).toBitVec.getLsbD i = x.toBitVec.getLsbD (8 * k + i)
  rw [BitVec.getLsbD, BitVec.getLsbD, UInt8.toNat_toBitVec, UInt8.toNat_ofNat',
    Nat.testBit_mod_two_pow, Nat.testBit_div_two_pow]
  simp [hi, Nat.add_comm]

/-- A checksum stored with its lowest byte first has its bits in the order of the register. -/
theorem dataBits_u32le (x : UInt32) : dataBits (u32le x) = Crc.wordBits x.toBitVec.reverse := by
  have hbytes : u32le x = (List.range 4).map fun k => UInt8.ofNat (x.toNat / 2 ^ (8 * k)) := by
    simp [u32le, List.range_succ]
  have hbits : Crc.wordBits x.toBitVec.reverse = (List.range 32).map x.toBitVec.getLsbD := by
    unfold Crc.wordBits
    exact List.map_congr_left fun i _ => BitVec.getMsbD_reverse
  rw [hbytes, hbits, dataBits, List.flatMap_map]
  simp only [octetBits_div]
  rfl

/-- The bytes differ, and only inside a stretch of 32 bits. -/
def Damaged (d d' : List UInt8) : Prop := Crc.Burst 32 (dataBits d) (dataBits d')

/-- **A burst of at most 32 bits changes the checksum.** -/
theorem calculate_burst {d d' : List UInt8} (h : Damaged d d') : calculate d' ≠ calculate d := by
  intro heq
  have hrun : update INITIAL_REMAINDER d' = update INITIAL_REMAINDER d := by
    have hxor := congrArg (· ^^^ FINAL_XOR_VALUE) heq
    simpa [calculate, finalize, UInt32.xor_assoc] using hxor
  have hregister := congrArg (fun r : UInt32 => r.toBitVec.reverse) hrun
  simp only [update_reverse] at hregister
  exact Crc.burst_detected (p := GENERATOR) GENERATOR_constant _ h hregister.symm

/-- **A structure damaged by a burst is not valid**, wherever in it the burst falls. -/
theorem struct_burst {body body' : List UInt8} {crc crc' : UInt32} (hvalid : crc = calculate body)
    (h : Damaged (body ++ u32le crc) (body' ++ u32le crc')) : crc' ≠ calculate body' := by
  intro hvalid'
  have hseal := calculate_reverse body
  have hseal' := calculate_reverse body'
  rw [← hvalid] at hseal
  rw [← hvalid'] at hseal'
  unfold Damaged at h
  rw [dataBits_append, dataBits_append, dataBits_u32le, dataBits_u32le] at h
  exact Crc.seal_burst (p := GENERATOR) GENERATOR_constant hseal h hseal'

end EmbeddedPixel.Crc32
