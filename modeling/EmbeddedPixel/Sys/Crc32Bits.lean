import EmbeddedPixel.Foundation.Crc
import EmbeddedPixel.Sys.Crc32

/-!
# CRC-32 bit by bit

`Crc32.bitwise` is the reflected division by `0xEDB88320`, one bit at a time, that `sys/Crc32.h` says it
matches (`binascii.crc32`).  An entry of `CRC32_TABLE` is eight steps of it (`CRC32_TABLE_eq`), so the loop
of `Crc32::Update` takes the same byte steps: `calculate_eq_bitwise`.
-/

set_option autoImplicit false

namespace EmbeddedPixel.Crc32

open Foundation

/-- The polynomial, reflected. -/
def POLYNOMIAL : UInt32 := 0xEDB88320

/-- One bit of the division. -/
def bitStep (crc : UInt32) : UInt32 :=
  if crc &&& 1 ≠ 0 then (crc >>> 1) ^^^ POLYNOMIAL else crc >>> 1

/-- One byte of the division. -/
def byteStep (crc : UInt32) (byte : UInt8) : UInt32 := bitStep^[8] (crc ^^^ byte.toUInt32)

/-- The checksum: initial value and final exclusive or `0xFFFFFFFF`. -/
def bitwise (data : List UInt8) : UInt32 := data.foldl byteStep 0xFFFFFFFF ^^^ 0xFFFFFFFF

/-! ## The table -/

theorem bitStep_toBitVec (crc : UInt32) :
    (bitStep crc).toBitVec = Crc.shiftReflected POLYNOMIAL.toBitVec crc.toBitVec := by
  have hlow : (crc &&& 1).toBitVec = if crc.toBitVec.getLsbD 0 then BitVec.twoPow 32 0 else 0#32 :=
    BitVec.and_twoPow crc.toBitVec 0
  unfold bitStep Crc.shiftReflected
  cases hbit : crc.toBitVec.getLsbD 0 with
  | true =>
      rw [hbit] at hlow
      have hne : crc &&& 1 ≠ 0 := by
        intro hzero
        rw [hzero] at hlow
        exact absurd hlow (by decide)
      rw [if_pos hne, if_pos rfl]
      rfl
  | false =>
      rw [hbit] at hlow
      have hzero : crc &&& 1 = 0 := UInt32.toBitVec_inj.1 hlow
      rw [if_neg (not_not.2 hzero), if_neg (by decide)]
      rfl

theorem bitStep_iterate_toBitVec (n : Nat) (crc : UInt32) :
    (bitStep^[n] crc).toBitVec = (Crc.shiftReflected POLYNOMIAL.toBitVec)^[n] crc.toBitVec := by
  induction n generalizing crc with
  | zero => rfl
  | succ n ih => rw [Function.iterate_succ_apply, Function.iterate_succ_apply, ih, bitStep_toBitVec]

/-- Every entry of the table is eight steps of the division. -/
theorem CRC32_TABLE_eq : ∀ i < 256, CRC32_TABLE.getD i 0 = bitStep^[8] (UInt32.ofNat i) := by
  decide +kernel

/-- **One table step is one byte of the division.** -/
theorem step_eq_byteStep (crc : UInt32) (byte : UInt8) : step crc byte = byteStep crc byte := by
  have hmask : ∀ i < 32, (0xFF : UInt32).toBitVec.getLsbD i = decide (i < 8) := by decide
  have hindex : ((crc ^^^ byte.toUInt32) &&& 0xFF).toNat < 256 := by
    rw [UInt32.toNat_and]
    exact Nat.lt_of_le_of_lt Nat.and_le_right (by decide)
  -- the shift by eight drops the byte
  have hhigh : (crc ^^^ byte.toUInt32).toBitVec >>> 8 = crc.toBitVec >>> 8 := by
    refine BitVec.eq_of_getLsbD_eq fun i hi => ?_
    have hbyte : byte.toUInt32.toBitVec.getLsbD (8 + i) = false := by
      rw [UInt8.toBitVec_toUInt32, BitVec.getLsbD_setWidth,
        BitVec.getLsbD_of_ge _ _ (Nat.le_add_right 8 i), Bool.and_false]
    rw [BitVec.getLsbD_ushiftRight, BitVec.getLsbD_ushiftRight, UInt32.toBitVec_xor,
      BitVec.getLsbD_xor, hbyte, Bool.xor_false]
  refine UInt32.toBitVec_inj.1 ?_
  unfold step byteStep
  rw [CRC32_TABLE_eq _ hindex, UInt32.ofNat_toNat, UInt32.toBitVec_xor, bitStep_iterate_toBitVec,
    bitStep_iterate_toBitVec,
    Crc.shifts_reflected_table _ hmask (crc ^^^ byte.toUInt32).toBitVec, hhigh]
  rfl

theorem update_eq_foldl (crc : UInt32) (data : List UInt8) :
    update crc data = data.foldl byteStep crc := by
  unfold update
  congr 1
  funext crc byte
  exact step_eq_byteStep crc byte

/-- **The table-driven checksum is the bit-by-bit one.** -/
theorem calculate_eq_bitwise (data : List UInt8) : calculate data = bitwise data := by
  unfold calculate bitwise
  rw [update_eq_foldl]
  rfl

/-- A checksum taken piece by piece. -/
theorem foldl_update (crc : UInt32) (pieces : List (List UInt8)) :
    pieces.foldl update crc = update crc pieces.flatten := by
  induction pieces generalizing crc with
  | nil => rfl
  | cons piece pieces ih => rw [List.foldl_cons, List.flatten_cons, update_append, ih]

end EmbeddedPixel.Crc32
