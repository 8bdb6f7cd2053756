import EmbeddedPixel.Boot.Bootloader
import EmbeddedPixel.Host.OtaUpdater
import EmbeddedPixel.Net.OtaDamage
import EmbeddedPixel.Sys.Crc32Bits

/-!
# The checksums of the two sides

`binascii.crc32` and the `crc16_ccitt` of `scripts/ota_updater.py`, over unbounded integers, are what the
firmware computes in 32 and 16 bits: `crc32_of_pieces` and `crc16Ccitt_both`.
-/

set_option autoImplicit false

namespace EmbeddedPixel.Checksums

open Foundation

/-! ## CRC-32 -/

/-- `binascii.crc32`. -/
def binasciiCrc32 (data : List UInt8) : Nat := (Crc32.bitwise data).toNat

/-- The read-back loop of the bootloader, every read carried out. -/
theorem exec_verifyLoop_ok (nor : Nor) (size : Nat) (crc : UInt32) (s : World 32)
    (rest : List FlashReply) :
    ((Bootloader.verifyLoop size size 0 crc).exec nor s
      (List.replicate (chunksFrom 1024 size size 0).length .ok ++ rest)).result =
        some (some (Crc32.update crc (bytesAt s.flash 0 size)), rest) := by
  have hreads := Bootloader.issue_reads size crc size 0 []
  rw [Crc32.update_nil] at hreads
  have hok := (Prog.exec_issue_ok nor ((chunksFrom 1024 size size 0).map fun c => .read c.1 c.2) []
    s rest).2
  rw [List.length_map, nor.perform_reads,
    Nor.flatMap_chunks s.flash 1024 size (by decide) size 0 (by omega) (by omega)] at hok
  rw [← hreads, Prog.exec_bind]
  unfold Outcome.andThen
  rw [hok]
  rfl

/-- **CRC-32 is the bit-by-bit one, taken in any pieces**: so the bootloader's, of what it reads back from
Slot A, the service's, of its staging buffer, and the host's, of the file, are one function of the bytes. -/
theorem crc32_of_pieces :
    (∀ pieces : List (List UInt8),
        Crc32.finalize (pieces.foldl Crc32.update Crc32.INITIAL_REMAINDER) =
            Crc32.calculate pieces.flatten ∧
          Crc32.calculate pieces.flatten = Crc32.bitwise pieces.flatten) ∧
      (∀ (nor : Nor) (size : Nat) (s : World 32) (rest : List FlashReply), ∃ currentCrc,
        ((Bootloader.verifyLoop size size 0 Crc32.INITIAL_REMAINDER).exec nor s
          (List.replicate (chunksFrom 1024 size size 0).length .ok ++ rest)).result =
            some (some currentCrc, rest) ∧
          (Crc32.finalize currentCrc).toNat = binasciiCrc32 (bytesAt s.flash 0 size)) ∧
      (∀ (L : Layout) (m : OtaMachine),
        (OtaService.bufferCrc32 L m).toNat =
          binasciiCrc32 (bytesAt (L.staging m.ram) 0 m.svc.totalImageSize.toNat)) ∧
      (∀ a : OtaUpdater.Args, OtaUpdater.totalCrc32 a = binasciiCrc32 a.binaryData) := by
  have hbits : ∀ data, (Crc32.calculate data).toNat = binasciiCrc32 data := by
    intro data
    rw [Crc32.calculate_eq_bitwise]
    rfl
  refine ⟨fun pieces => ⟨?_, Crc32.calculate_eq_bitwise _⟩, ?_, ?_, ?_⟩
  · rw [Crc32.foldl_update]
    rfl
  · intro nor size s rest
    exact ⟨_, exec_verifyLoop_ok nor size _ s rest, hbits _⟩
  · intro L m
    exact hbits _
  · intro a
    exact hbits _

/-! ## CRC-16 -/

/-- One turn of the inner loop of the host's `crc16_ccitt`. -/
def crc16Bit (crc : Nat) : Nat :=
  if crc &&& 0x8000 ≠ 0 then ((crc <<< 1) ^^^ 0x1021) &&& 0xFFFF else (crc <<< 1) &&& 0xFFFF

/-- One byte of the host's `crc16_ccitt`. -/
def crc16Byte (crc b : Nat) : Nat := crc16Bit^[8] (crc ^^^ ((b <<< 8) &&& 0xFFFF))

/-- The host's `crc16_ccitt`. -/
def crc16Ccitt (data : List UInt8) (seed : Nat) : Nat :=
  data.foldl (fun crc b => crc16Byte crc b.toNat) seed

theorem and_ffff (x : Nat) : x &&& 0xFFFF = x % 65536 := Nat.and_two_pow_sub_one_eq_mod x 16

theorem toNat_crc16Bit (crc : UInt16) : (EmbeddedPixel.crc16Bit crc).toNat = crc16Bit crc.toNat := by
  have hshift : (crc <<< 1).toNat = (crc.toNat <<< 1) % 65536 := UInt16.toNat_shiftLeft crc 1
  have htop : crc &&& 0x8000 = 0 ↔ crc.toNat &&& 0x8000 = 0 := by
    rw [← UInt16.toNat_inj, UInt16.toNat_and]
    rfl
  unfold EmbeddedPixel.crc16Bit crc16Bit
  by_cases hbit : crc &&& 0x8000 = 0
  · rw [if_neg (not_not.2 hbit), if_neg (not_not.2 (htop.1 hbit)), hshift, and_ffff]
  · rw [if_pos hbit, if_pos (mt htop.2 hbit), and_ffff, UInt16.toNat_xor, hshift]
    exact (Nat.xor_mod_two_pow (n := 16)).symm

theorem toNat_crc16Bit_iterate (n : Nat) (crc : UInt16) :
    (EmbeddedPixel.crc16Bit^[n] crc).toNat = crc16Bit^[n] crc.toNat := by
  induction n generalizing crc with
  | zero => rfl
  | succ n ih => rw [Function.iterate_succ_apply, Function.iterate_succ_apply, ih, toNat_crc16Bit]

theorem toNat_crc16Byte (crc : UInt16) (b : UInt8) :
    (EmbeddedPixel.crc16Byte crc b).toNat = crc16Byte crc.toNat b.toNat := by
  have hshift : (b.toUInt16 <<< 8).toNat = (b.toNat <<< 8) % 65536 :=
    UInt16.toNat_shiftLeft b.toUInt16 8
  unfold EmbeddedPixel.crc16Byte crc16Byte
  rw [toNat_crc16Bit_iterate, UInt16.toNat_xor, hshift, and_ffff]

theorem toNat_crc16Ccitt (data : List UInt8) (seed : UInt16) :
    (EmbeddedPixel.crc16Ccitt data seed).toNat = crc16Ccitt data seed.toNat := by
  induction data generalizing seed with
  | nil => rfl
  | cons b data ih =>
      show (EmbeddedPixel.crc16Ccitt data (EmbeddedPixel.crc16Byte seed b)).toNat = _
      rw [ih, toNat_crc16Byte]
      rfl

/-- **The two sides compute the same CRC-16**, and it detects every burst of at most 16 bits. -/
theorem crc16Ccitt_both (seed : UInt16) :
    (∀ data : List UInt8,
        (EmbeddedPixel.crc16Ccitt data seed).toNat = crc16Ccitt data seed.toNat) ∧
      (∀ d d' : List UInt8, Crc.Burst 16 (chunkBits d) (chunkBits d') →
        EmbeddedPixel.crc16Ccitt d seed ≠ EmbeddedPixel.crc16Ccitt d' seed ∧
          crc16Ccitt d seed.toNat ≠ crc16Ccitt d' seed.toNat) := by
  refine ⟨fun data => toNat_crc16Ccitt data seed, fun d d' hburst => ?_⟩
  have hne : EmbeddedPixel.crc16Ccitt d seed ≠ EmbeddedPixel.crc16Ccitt d' seed :=
    (crc16Ccitt_burst hburst seed).symm
  refine ⟨hne, ?_⟩
  rw [← toNat_crc16Ccitt, ← toNat_crc16Ccitt]
  exact mt UInt16.toNat_inj.1 hne

theorem crc16Ccitt_both_last_bit :
    EmbeddedPixel.crc16Ccitt [0xFF, 0xFF] 0xFFFF ≠ EmbeddedPixel.crc16Ccitt [0xFF, 0xFE] 0xFFFF :=
  ((crc16Ccitt_both 0xFFFF).2 _ _ OtaMachine.burst_last_bit).1

end EmbeddedPixel.Checksums
