import EmbeddedPixel.Foundation.CString
import EmbeddedPixel.Foundation.Memory
import EmbeddedPixel.Sys.Crc32

/-!
# Versions, feature flags, the image header and the boot handover (`sys/Version.h`)

`AppImageHeader` is the 64-byte header an image may carry at `APP_HEADER_FLASH_OFFSET`; it counts
as present when the word there is `EPFW_MAGIC`.  `BootInfo` is what the bootloader leaves for the
application at `BOOT_INFO_RAM_ADDRESS`.
-/

set_option autoImplicit false

namespace EmbeddedPixel

open Foundation

def MAKE_VERSION (major minor patch build : UInt8) : UInt32 :=
  (major.toUInt32 <<< 24) ||| (minor.toUInt32 <<< 16) ||| (patch.toUInt32 <<< 8) |||
    build.toUInt32

def VERSION_MAJOR (ver : UInt32) : UInt8 := (ver >>> 24).toUInt8

def VERSION_MINOR (ver : UInt32) : UInt8 := (ver >>> 16).toUInt8

def VERSION_PATCH (ver : UInt32) : UInt8 := (ver >>> 8).toUInt8

def VERSION_BUILD (ver : UInt32) : UInt8 := ver.toUInt8

/-- `format_version`: the build number is shown when it is not zero. -/
def formatVersion (ver : UInt32) (maxLen : Nat) : List UInt8 :=
  let part (x : UInt8) := decimal x.toNat
  let short := ascii "v" ++ part (VERSION_MAJOR ver) ++ ascii "." ++ part (VERSION_MINOR ver) ++
    ascii "." ++ part (VERSION_PATCH ver)
  snprintf maxLen
    (if VERSION_BUILD ver > 0 then short ++ ascii "." ++ part (VERSION_BUILD ver) else short)

/-! ## Boards and features -/

/-- `BoardId`. -/
inductive BoardId where
  | unknown
  | nucleoH7S3L8
  | pixeljamH743
  deriving DecidableEq, Repr

def BoardId.code : BoardId → UInt16
  | unknown => 0x0000
  | nucleoH7S3L8 => 0x0001
  | pixeljamH743 => 0x0002

/-- `get_board_name`. -/
def getBoardName (boardId : UInt16) : List UInt8 :=
  if boardId = BoardId.nucleoH7S3L8.code then ascii "Nucleo-H7S3L8"
  else if boardId = BoardId.pixeljamH743.code then ascii "PixelJam-H743"
  else ascii "Unknown Board"

/-- `FeatureFlag`. -/
inductive FeatureFlag where
  | none
  | ethernetLan8742
  | telemetryStream
  | tempSensorDts
  | otaRamStaging
  | otaDualBank
  | compressionLz4
  | secureBoot
  | dynamicRate
  | uartCli
  | timeSync
  deriving DecidableEq, Repr

def FeatureFlag.code : FeatureFlag → UInt32
  | none => 0x000
  | ethernetLan8742 => 0x001
  | telemetryStream => 0x002
  | tempSensorDts => 0x004
  | otaRamStaging => 0x008
  | otaDualBank => 0x010
  | compressionLz4 => 0x020
  | secureBoot => 0x040
  | dynamicRate => 0x080
  | uartCli => 0x100
  | timeSync => 0x200

/-- `is_feature_set`. -/
def isFeatureSet (mask : UInt32) (flag : FeatureFlag) : Bool := mask &&& flag.code != 0

/-- `parse_feature_name`, for a name that is not null. -/
def parseFeatureName (name : List UInt8) : FeatureFlag :=
  if name = ascii "ota" then .otaRamStaging
  else if name = ascii "telemetry" then .telemetryStream
  else if name = ascii "dts" then .tempSensorDts
  else if name = ascii "ethernet" then .ethernetLan8742
  else if name = ascii "dynrate" then .dynamicRate
  else if name = ascii "cli" then .uartCli
  else if name = ascii "timesync" ∨ name = ascii "time" then .timeSync
  else .none

/-! ## The image header -/

/-- `"EPFW"`. -/
def EPFW_MAGIC : UInt32 := 0x45504657

def EPFW_HEADER_VERSION : UInt16 := 1

def APP_HEADER_FLASH_OFFSET : Nat := 0x400

/-- `sizeof(AppImageHeader)`. -/
def APP_IMAGE_HEADER_SIZE : Nat := 64

/-- `AppImageHeader`, less its reserved bytes. -/
structure AppImageHeader where
  magic : UInt32
  headerVersion : UInt16
  boardId : UInt16
  appVersion : UInt32
  minBootloaderVersion : UInt32
  featureFlags : UInt32
  imageSize : UInt32
  imageCrc32 : UInt32
  buildTimestamp : UInt32
  gitCommit : UInt32
  headerCrc32 : UInt32
  deriving DecidableEq, Repr

namespace AppImageHeader

def ofPtr (p : BytePtr) : AppImageHeader where
  magic := u32At p 0
  headerVersion := u16At p 4
  boardId := u16At p 6
  appVersion := u32At p 8
  minBootloaderVersion := u32At p 12
  featureFlags := u32At p 16
  imageSize := u32At p 20
  imageCrc32 := u32At p 24
  buildTimestamp := u32At p 28
  gitCommit := u32At p 32
  headerCrc32 := u32At p 60

/-- `AppImageHeader::isValid` of the header behind a pointer. -/
def isValid (this : BytePtr) : Bool :=
  (ofPtr this).magic == EPFW_MAGIC &&
    (ofPtr this).headerCrc32 == Crc32.calculate (bytesAt this 0 60)

theorem magic_of_isValid {p : BytePtr} (h : isValid p = true) : (ofPtr p).magic = EPFW_MAGIC := by
  unfold isValid at h
  simp only [Bool.and_eq_true, beq_iff_eq] at h
  exact h.1

/-- The header at an address is decided by the 64 bytes there. -/
theorem ofPtr_congr {p q : BytePtr} (h : ∀ i < APP_IMAGE_HEADER_SIZE, p i = q i) :
    ofPtr p = ofPtr q := by
  have word : ∀ i, i + 4 ≤ 64 → u32At p i = u32At q i := by
    intro i hi
    refine u32At_congr fun k hk => h (i + k) ?_
    unfold APP_IMAGE_HEADER_SIZE
    omega
  have half : ∀ i, i + 2 ≤ 64 → u16At p i = u16At q i := by
    intro i hi
    refine u16At_congr fun k hk => h (i + k) ?_
    unfold APP_IMAGE_HEADER_SIZE
    omega
  simp only [ofPtr, word 0 (by decide), half 4 (by decide), half 6 (by decide),
    word 8 (by decide), word 12 (by decide), word 16 (by decide), word 20 (by decide),
    word 24 (by decide), word 28 (by decide), word 32 (by decide), word 60 (by decide)]

theorem isValid_congr {p q : BytePtr} (h : ∀ i < APP_IMAGE_HEADER_SIZE, p i = q i) :
    isValid p = isValid q := by
  have hb : bytesAt p 0 60 = bytesAt q 0 60 := by
    refine bytesAt_congr fun i hi => h (0 + i) ?_
    unfold APP_IMAGE_HEADER_SIZE
    omega
  unfold isValid
  rw [ofPtr_congr h, hb]

end AppImageHeader

/-! ## The boot handover -/

/-- `"BOOT"`. -/
def BOOT_INFO_MAGIC : UInt32 := 0x424F4F54

def BOOT_INFO_RAM_ADDRESS : BitVec 32 := 0x24070100#32

/-- `BootReason`. -/
inductive BootReason where
  | powerOn
  | softReset
  | otaUpdate
  | fault
  | watchdog
  deriving DecidableEq, Repr

def BootReason.code : BootReason → UInt32
  | powerOn => 0
  | softReset => 1
  | otaUpdate => 2
  | fault => 3
  | watchdog => 4

/-- `BootInfo`, 32 bytes. -/
structure BootInfo where
  magic : UInt32
  bootloaderVersion : UInt32
  bootReason : UInt32
  activeSlot : UInt32
  bootCount : UInt32
  reserved0 : UInt32
  reserved1 : UInt32
  structCrc32 : UInt32
  deriving DecidableEq, Repr

namespace BootInfo

/-- The 28 bytes before `struct_crc32`. -/
def body (b : BootInfo) : List UInt8 :=
  wordsLe [b.magic, b.bootloaderVersion, b.bootReason, b.activeSlot, b.bootCount, b.reserved0,
    b.reserved1]

def toBytes (b : BootInfo) : List UInt8 :=
  wordsLe [b.magic, b.bootloaderVersion, b.bootReason, b.activeSlot, b.bootCount, b.reserved0,
    b.reserved1, b.structCrc32]

def ofPtr (p : BytePtr) : BootInfo :=
  ⟨u32At p 0, u32At p 4, u32At p 8, u32At p 12, u32At p 16, u32At p 20, u32At p 24, u32At p 28⟩

@[simp] theorem length_toBytes (b : BootInfo) : b.toBytes.length = 32 := rfl

theorem toBytes_eq (b : BootInfo) : b.toBytes = b.body ++ u32le b.structCrc32 := rfl

/-- A stored handover reads back. -/
theorem ofPtr_of_bytes {p : BytePtr} {b : BootInfo} (h : bytesAt p 0 32 = b.toBytes) :
    ofPtr p = b := by
  have word := @u32At_of_words p [b.magic, b.bootloaderVersion, b.bootReason, b.activeSlot,
    b.bootCount, b.reserved0, b.reserved1, b.structCrc32] 0 h
  unfold ofPtr
  congr
  · exact word 0 (by simp)
  · exact word 1 (by simp)
  · exact word 2 (by simp)
  · exact word 3 (by simp)
  · exact word 4 (by simp)
  · exact word 5 (by simp)
  · exact word 6 (by simp)
  · exact word 7 (by simp)

/-- `BootInfo::isValid` of the structure behind a pointer. -/
def isValid (this : BytePtr) : Bool :=
  (ofPtr this).magic == BOOT_INFO_MAGIC &&
    (ofPtr this).structCrc32 == Crc32.calculate (bytesAt this 0 28)

end BootInfo

end EmbeddedPixel
