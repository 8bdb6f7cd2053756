import EmbeddedPixel.Host.OtaUpdater
import EmbeddedPixel.Net.OtaService
import EmbeddedPixel.Boot.Bootloader

/-!
# The header the host looks at

The script looks for the embedded header at `APP_HEADER_OFFSET`, the node at
`APP_HEADER_FLASH_OFFSET`.  `headersAgree_iff` — exactly when the script finds a header where the node
does, with the board and the bootloader version the node compares: the fields at the two places have
to be the same.

`parseAppImageHeader_eq` is the script's decoder in terms of the firmware's structure.
-/

set_option autoImplicit false

namespace EmbeddedPixel.OtaUpdater

open Foundation

/-- The words at an offset of a binary, as the firmware's structure. -/
def headerAt (binary : List UInt8) (offset : Nat) : AppImageHeader :=
  AppImageHeader.ofPtr ((BytePtr.ofList binary).advance offset)

/-- The part of a header that the script uses. -/
def ImageHeader.ofHeader (hdr : AppImageHeader) : ImageHeader :=
  ⟨hdr.boardId.toNat, hdr.appVersion.toNat, hdr.minBootloaderVersion.toNat⟩

/-- **The script's decoder** is the firmware's structure at the script's offset. -/
theorem parseAppImageHeader_eq {binary : List UInt8}
    (hlen : APP_HEADER_OFFSET + 64 ≤ binary.length) :
    parseAppImageHeader binary =
      .ok (if (headerAt binary APP_HEADER_OFFSET).magic = EmbeddedPixel.EPFW_MAGIC then
        some (.ofHeader (headerAt binary APP_HEADER_OFFSET)) else none) := by
  have hformat : parseFormat "<IHHI I I I I I I" = some [.I, .H, .H, .I, .I, .I, .I, .I, .I, .I] := by
    decide
  have hunpack := unpackOrRaise_slice (l := binary) (i := APP_HEADER_OFFSET)
    (j := APP_HEADER_OFFSET + 36) hformat (by omega) rfl
  unfold parseAppImageHeader
  rw [if_neg (by omega)]
  dsimp only
  rw [slice_slice _ (by omega), hunpack]
  simp only [readFields, Field.read, Field.width, headerAt, AppImageHeader.ofPtr, ImageHeader.ofHeader,
    u32At_advance, u16At_advance, bind, Except.bind]
  have hmagic : (u32At (BytePtr.ofList binary) APP_HEADER_OFFSET).toNat = EPFW_MAGIC ↔
      u32At (BytePtr.ofList binary) (APP_HEADER_OFFSET + 0) = EmbeddedPixel.EPFW_MAGIC :=
    @UInt32.toNat_inj _ EmbeddedPixel.EPFW_MAGIC
  by_cases hfound : u32At (BytePtr.ofList binary) (APP_HEADER_OFFSET + 0) = EmbeddedPixel.EPFW_MAGIC
  · rw [if_pos hfound, if_neg (not_not.2 (hmagic.2 hfound))]
  · rw [if_neg hfound, if_pos (mt hmagic.1 hfound)]

theorem parseAppImageHeader_eq_some {binary : List UInt8}
    (hlen : APP_HEADER_OFFSET + 64 ≤ binary.length) {hdr : ImageHeader} :
    parseAppImageHeader binary = .ok (some hdr) ↔
      (headerAt binary APP_HEADER_OFFSET).magic = EmbeddedPixel.EPFW_MAGIC ∧
        hdr = .ofHeader (headerAt binary APP_HEADER_OFFSET) := by
  rw [parseAppImageHeader_eq hlen]
  split
  · rename_i hmagic
    simp [hmagic, eq_comm]
  · rename_i hmagic
    simp [hmagic]

/-- The decoder does not raise; a header's version is a word. -/
theorem parseAppImageHeader_ok (binary : List UInt8) :
    ∃ hdrInfo, parseAppImageHeader binary = .ok hdrInfo ∧
      ∀ hdr ∈ hdrInfo, hdr.appVersion < 2 ^ 32 := by
  by_cases hlen : APP_HEADER_OFFSET + 64 ≤ binary.length
  · refine ⟨_, parseAppImageHeader_eq hlen, fun hdr hhdr => ?_⟩
    split at hhdr
    · cases hhdr
      exact UInt32.toNat_lt _
    · cases hhdr
  · refine ⟨none, ?_, by simp⟩
    unfold parseAppImageHeader
    rw [if_pos (by omega)]

/-! ## The decisions -/

/-- The answer of `handleData` for the same reason. -/
def Refusal.status : Refusal → StatusCode
  | board => .errIncompatibleBoard
  | bootloader => .errIncompatibleBootloader

/-- The rejection of the bootloader for the same reason. -/
def Refusal.fault : Refusal → Bootloader.HeaderFault
  | board => .board
  | bootloader => .bootloaderVersion

/-- The decision about a header, in the types of the firmware. -/
def refusal (fw : AppImageHeader) (boardId : UInt16) (blVer : UInt32) : Option Refusal :=
  if fw.boardId ≠ boardId then some .board
  else if blVer < fw.minBootloaderVersion then some .bootloader
  else none

theorem preflight_eq {hdr : ImageHeader} {fw : AppImageHeader} (boardId : UInt16) (blVer : UInt32)
    (hboard : hdr.boardId = fw.boardId.toNat)
    (hversion : hdr.minBootloaderVersion = fw.minBootloaderVersion.toNat) :
    preflight hdr boardId.toNat blVer.toNat = refusal fw boardId blVer := by
  have hne : boardId.toNat ≠ hdr.boardId ↔ fw.boardId ≠ boardId := by
    rw [hboard, Ne, UInt16.toNat_inj, eq_comm]
  have hlt : blVer.toNat < hdr.minBootloaderVersion ↔ blVer < fw.minBootloaderVersion := by
    rw [hversion]
    exact UInt32.lt_iff_toNat_lt.symm
  unfold preflight refusal
  simp only [hne, hlt]

/-- What `handleData` says of a valid header. -/
theorem headerError_of_valid {p : BytePtr} (hvalid : AppImageHeader.isValid p = true)
    (c : SystemController) :
    OtaService.headerError (some c) p =
      (refusal (AppImageHeader.ofPtr p) c.getBoardId c.getBootloaderVersion).map
        Refusal.status := by
  unfold OtaService.headerError refusal
  dsimp only
  rw [if_pos (AppImageHeader.magic_of_isValid hvalid), hvalid]
  by_cases hboard : (AppImageHeader.ofPtr p).boardId = c.getBoardId
  · by_cases hversion : c.getBootloaderVersion < (AppImageHeader.ofPtr p).minBootloaderVersion
    · simp [hboard, hversion, Refusal.status]
    · simp [hboard, hversion]
  · simp [hboard, Refusal.status]

/-- What the bootloader says of a valid header. -/
theorem headerFault_of_valid {image : BytePtr} {size : UInt32}
    (hsize : APP_HEADER_FLASH_OFFSET + APP_IMAGE_HEADER_SIZE ≤ size.toNat)
    (hvalid : AppImageHeader.isValid (image.advance APP_HEADER_FLASH_OFFSET) = true) :
    Bootloader.headerFault image size =
      (refusal (AppImageHeader.ofPtr (image.advance APP_HEADER_FLASH_OFFSET))
        BoardId.nucleoH7S3L8.code Bootloader.BOOTLOADER_VERSION).map Refusal.fault := by
  unfold Bootloader.headerFault refusal
  rw [if_pos hsize]
  dsimp only
  rw [if_pos (AppImageHeader.magic_of_isValid hvalid), hvalid, apply_ite (Option.map Refusal.fault),
    apply_ite (Option.map Refusal.fault)]
  rfl

/-! ## The same header -/

/-- The script and the firmware look at the same header: the script finds one where the firmware
does, takes the board and the bootloader version from it, and decides about a valid one as
`handleData` and the bootloader do. -/
structure HeadersAgree (binary : List UInt8) : Prop where
  found : (∃ hdr, parseAppImageHeader binary = .ok (some hdr)) ↔
    (headerAt binary APP_HEADER_FLASH_OFFSET).magic = EmbeddedPixel.EPFW_MAGIC
  fields : ∀ hdr, parseAppImageHeader binary = .ok (some hdr) →
    hdr.boardId = (headerAt binary APP_HEADER_FLASH_OFFSET).boardId.toNat ∧
      hdr.minBootloaderVersion =
        (headerAt binary APP_HEADER_FLASH_OFFSET).minBootloaderVersion.toNat
  service : ∀ hdr, parseAppImageHeader binary = .ok (some hdr) →
    let appHdr := (BytePtr.ofList binary).advance APP_HEADER_FLASH_OFFSET
    AppImageHeader.isValid appHdr = true → ∀ c : SystemController,
      (preflight hdr c.getBoardId.toNat c.getBootloaderVersion.toNat).map Refusal.status =
        OtaService.headerError (some c) appHdr
  bootloader : ∀ hdr, parseAppImageHeader binary = .ok (some hdr) →
    AppImageHeader.isValid ((BytePtr.ofList binary).advance APP_HEADER_FLASH_OFFSET) = true →
      ∀ size : UInt32, APP_HEADER_FLASH_OFFSET + APP_IMAGE_HEADER_SIZE ≤ size.toNat →
        (preflight hdr BoardId.nucleoH7S3L8.code.toNat Bootloader.BOOTLOADER_VERSION.toNat).map
          Refusal.fault = Bootloader.headerFault (BytePtr.ofList binary) size

/-- The magic word stands at both places or at neither, and at both with the same board and
bootloader version. -/
def SameHeader (binary : List UInt8) : Prop :=
  let host := headerAt binary APP_HEADER_OFFSET
  let node := headerAt binary APP_HEADER_FLASH_OFFSET
  (host.magic = EmbeddedPixel.EPFW_MAGIC ↔ node.magic = EmbeddedPixel.EPFW_MAGIC) ∧
    (host.magic = EmbeddedPixel.EPFW_MAGIC →
      host.boardId = node.boardId ∧ host.minBootloaderVersion = node.minBootloaderVersion)

instance (binary : List UInt8) : Decidable (SameHeader binary) := by
  unfold SameHeader
  infer_instance

/-- **The same header.**  For every binary with room for the firmware's header: the script and the
firmware look at the same header exactly when the two places hold the same. -/
theorem headersAgree_iff {binary : List UInt8} (hlen : 0x440 ≤ binary.length) :
    HeadersAgree binary ↔ SameHeader binary := by
  have hparse := @parseAppImageHeader_eq_some binary (by unfold APP_HEADER_OFFSET; omega)
  constructor
  · intro h
    refine ⟨?_, fun hmagic => ?_⟩
    · rw [← h.found]
      constructor
      · intro hmagic
        exact ⟨_, hparse.2 ⟨hmagic, rfl⟩⟩
      · rintro ⟨hdr, hhdr⟩
        exact (hparse.1 hhdr).1
    · obtain ⟨hboard, hversion⟩ := h.fields _ (hparse.2 ⟨hmagic, rfl⟩)
      exact ⟨UInt16.toNat_inj.1 hboard, UInt32.toNat_inj.1 hversion⟩
  · rintro ⟨hmagic, hsame⟩
    have hfields : ∀ hdr, parseAppImageHeader binary = .ok (some hdr) →
        hdr.boardId = (headerAt binary APP_HEADER_FLASH_OFFSET).boardId.toNat ∧
          hdr.minBootloaderVersion =
            (headerAt binary APP_HEADER_FLASH_OFFSET).minBootloaderVersion.toNat := by
      intro hdr hhdr
      obtain ⟨hfound, rfl⟩ := hparse.1 hhdr
      obtain ⟨hboard, hversion⟩ := hsame hfound
      exact ⟨congrArg UInt16.toNat hboard, congrArg UInt32.toNat hversion⟩
    refine ⟨?_, hfields, fun hdr hhdr => ?_, fun hdr hhdr hvalid size hsize => ?_⟩
    · rw [← hmagic]
      constructor
      · rintro ⟨hdr, hhdr⟩
        exact (hparse.1 hhdr).1
      · intro hfound
        exact ⟨_, hparse.2 ⟨hfound, rfl⟩⟩
    · intro appHdr hvalid c
      obtain ⟨hboard, hversion⟩ := hfields hdr hhdr
      rw [preflight_eq _ _ hboard hversion]
      exact (headerError_of_valid hvalid c).symm
    · obtain ⟨hboard, hversion⟩ := hfields hdr hhdr
      rw [preflight_eq _ _ hboard hversion]
      exact (headerFault_of_valid hsize hvalid).symm

/-- The same words at both places. -/
theorem headersAgree_of_two :
    HeadersAgree (List.replicate 0x200 0 ++ u32le EmbeddedPixel.EPFW_MAGIC ++
      List.replicate 0x1FC 0 ++ u32le EmbeddedPixel.EPFW_MAGIC ++ List.replicate 60 0) :=
  (headersAgree_iff (by decide +kernel)).2 (by decide +kernel)

/-- The magic word at the firmware's place only. -/
def magicAtFlashOffset : List UInt8 :=
  List.replicate 0x400 0 ++ u32le EmbeddedPixel.EPFW_MAGIC ++ List.replicate 60 0

theorem firmware_header_not_found :
    ¬ ∀ binary : List UInt8, 0x440 ≤ binary.length → HeadersAgree binary := by
  intro h
  obtain ⟨hdr, hhdr⟩ := (h magicAtFlashOffset (by decide +kernel)).found.2 (by decide +kernel)
  have hnone : parseAppImageHeader magicAtFlashOffset = .ok none := by decide +kernel
  rw [hnone] at hhdr
  cases hhdr

end EmbeddedPixel.OtaUpdater
