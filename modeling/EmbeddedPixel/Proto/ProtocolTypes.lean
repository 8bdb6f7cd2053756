import Mathlib.Logic.Function.Iterate
import EmbeddedPixel.Foundation.Bytes

/-!
# Wire types (`net/proto/ProtocolTypes.h`)

The enumerations with their wire codes, the packed request structures with the function that
reads each of them out of a payload buffer (`ofPtr`, a `reinterpret_cast` of the source), and
`crc16_ccitt`.  All fields are little-endian and there is no padding.
-/

set_option autoImplicit false

namespace EmbeddedPixel

open Foundation

def PE_MAGIC : UInt16 := 0x5045

def PE_PROTOCOL_VERSION : UInt8 := 1

def FLAG_IS_RESPONSE : UInt8 := (1 : UInt8) <<< 1

def FLAG_ERROR : UInt8 := (1 : UInt8) <<< 2

def FLAG_HAS_TIMESTAMP : UInt8 := (1 : UInt8) <<< 3

/-- `MessageType`. -/
inductive MessageType where
  | heartbeat
  | discoveryPing
  | discoveryPong
  | timeSyncReq
  | timeSyncResp
  | timeSyncBeacon
  | cmdGetNodeInfo
  | cmdGetNodeInfoResp
  | cmdSetConfig
  | cmdGetConfig
  | cmdGetConfigResp
  | cmdStartStream
  | cmdStopStream
  | cmdGetStreams
  | cmdGetStreamsResp
  | cmdOtaBegin
  | cmdOtaBeginResp
  | cmdOtaData
  | cmdOtaDataResp
  | cmdOtaEnd
  | cmdOtaEndResp
  | cmdOtaGetStatus
  | cmdOtaGetStatusResp
  | cmdOtaAbort
  | cmdCliExec
  | cmdCliExecResp
  | cmdReboot
  | cmdAck
  | cmdNack
  | streamSensorBatch
  | streamStatusTelemetry
  | streamEventAlert
  deriving DecidableEq, Repr

namespace MessageType

def code : MessageType → UInt16
  | heartbeat => 0x0001
  | discoveryPing => 0x0002
  | discoveryPong => 0x0003
  | timeSyncReq => 0x0010
  | timeSyncResp => 0x0011
  | timeSyncBeacon => 0x0012
  | cmdGetNodeInfo => 0x0100
  | cmdGetNodeInfoResp => 0x0101
  | cmdSetConfig => 0x0102
  | cmdGetConfig => 0x0103
  | cmdGetConfigResp => 0x0104
  | cmdStartStream => 0x0110
  | cmdStopStream => 0x0111
  | cmdGetStreams => 0x0120
  | cmdGetStreamsResp => 0x0121
  | cmdOtaBegin => 0x0130
  | cmdOtaBeginResp => 0x0131
  | cmdOtaData => 0x0132
  | cmdOtaDataResp => 0x0133
  | cmdOtaEnd => 0x0134
  | cmdOtaEndResp => 0x0135
  | cmdOtaGetStatus => 0x0136
  | cmdOtaGetStatusResp => 0x0137
  | cmdOtaAbort => 0x0138
  | cmdCliExec => 0x0150
  | cmdCliExecResp => 0x0151
  | cmdReboot => 0x01F0
  | cmdAck => 0x01FE
  | cmdNack => 0x01FF
  | streamSensorBatch => 0x0200
  | streamStatusTelemetry => 0x0201
  | streamEventAlert => 0x0202

def all : List MessageType :=
  [heartbeat, discoveryPing, discoveryPong, timeSyncReq, timeSyncResp, timeSyncBeacon,
    cmdGetNodeInfo, cmdGetNodeInfoResp, cmdSetConfig, cmdGetConfig, cmdGetConfigResp,
    cmdStartStream, cmdStopStream, cmdGetStreams, cmdGetStreamsResp, cmdOtaBegin, cmdOtaBeginResp,
    cmdOtaData, cmdOtaDataResp, cmdOtaEnd, cmdOtaEndResp, cmdOtaGetStatus, cmdOtaGetStatusResp,
    cmdOtaAbort, cmdCliExec, cmdCliExecResp, cmdReboot, cmdAck, cmdNack, streamSensorBatch,
    streamStatusTelemetry, streamEventAlert]

/-- The message type a `msg_type` field names, if it names one. -/
def ofCode (c : UInt16) : Option MessageType := all.find? (fun t => t.code == c)

theorem ofCode_code (t : MessageType) : ofCode t.code = some t := by
  cases t <;> rfl

theorem code_of_ofCode {c : UInt16} {t : MessageType} (h : ofCode c = some t) : t.code = c := by
  simpa using List.find?_some h

end MessageType

/-- `StatusCode`. -/
inductive StatusCode where
  | ok
  | errInvalidMagic
  | errInvalidVersion
  | errInvalidCrc
  | errUnknownCmd
  | errInvalidPayload
  | errBusy
  | errFlashWrite
  | errFlashErase
  | errImageTooLarge
  | errOtaDisabled
  | errIncompatibleBoard
  | errIncompatibleBootloader
  | errVersionDowngrade
  | errInternal
  deriving DecidableEq, Repr

def StatusCode.code : StatusCode → UInt16
  | ok => 0x0000
  | errInvalidMagic => 0x0001
  | errInvalidVersion => 0x0002
  | errInvalidCrc => 0x0003
  | errUnknownCmd => 0x0004
  | errInvalidPayload => 0x0005
  | errBusy => 0x0006
  | errFlashWrite => 0x0007
  | errFlashErase => 0x0008
  | errImageTooLarge => 0x0009
  | errOtaDisabled => 0x000A
  | errIncompatibleBoard => 0x000B
  | errIncompatibleBootloader => 0x000C
  | errVersionDowngrade => 0x000D
  | errInternal => 0x00FF

/-- `NodeState`. -/
inductive NodeState where
  | init
  | idle
  | streaming
  | fault
  deriving DecidableEq, Repr

def NodeState.code : NodeState → UInt16
  | init => 0
  | idle => 1
  | streaming => 2
  | fault => 3

/-- `SampleType`. -/
inductive SampleType where
  | int16
  | uint16
  | int32
  | float32
  | uint32
  deriving DecidableEq, Repr

def SampleType.code : SampleType → UInt16
  | int16 => 0
  | uint16 => 1
  | int32 => 2
  | float32 => 3
  | uint32 => 4

/-- `PE_Header`, 16 bytes. -/
structure PE_Header where
  magic : UInt16
  version : UInt8
  flags : UInt8
  nodeId : UInt16
  msgType : UInt16
  seqNum : UInt32
  payloadLen : UInt16
  crc16 : UInt16
  deriving DecidableEq, Repr

/-- `PayloadCliExec`, the 4 bytes before the command text. -/
structure PayloadCliExec where
  cmdLen : UInt16
  flags : UInt16
  deriving DecidableEq, Repr

/-- `PayloadCommand`, 8 bytes. -/
structure PayloadCommand where
  cmdId : UInt16
  param1 : UInt16
  param2 : UInt32
  deriving DecidableEq, Repr

/-- `PayloadOtaBegin`, 16 bytes. -/
structure PayloadOtaBegin where
  imageSize : UInt32
  imageCrc32 : UInt32
  targetVersion : UInt32
  chunkSize : UInt16
  flags : UInt16
  deriving DecidableEq, Repr

/-- `PayloadOtaBeginResp`, 8 bytes. -/
structure PayloadOtaBeginResp where
  statusCode : UInt32
  chunkSizeAck : UInt16
  maxImageSizeKb : UInt16
  deriving DecidableEq, Repr

/-- `PayloadOtaData`, the 8 bytes before the chunk. -/
structure PayloadOtaData where
  offset : UInt32
  chunkLen : UInt16
  chunkCrc16 : UInt16
  deriving DecidableEq, Repr

/-- `PayloadOtaEnd`, 8 bytes. -/
structure PayloadOtaEnd where
  imageCrc32 : UInt32
  autoReboot : UInt8
  deriving DecidableEq, Repr

def PayloadCliExec.ofPtr (p : BytePtr) : PayloadCliExec := ⟨u16At p 0, u16At p 2⟩

def PayloadCommand.ofPtr (p : BytePtr) : PayloadCommand := ⟨u16At p 0, u16At p 2, u32At p 4⟩

def PayloadOtaBegin.ofPtr (p : BytePtr) : PayloadOtaBegin :=
  ⟨u32At p 0, u32At p 4, u32At p 8, u16At p 12, u16At p 14⟩

def PayloadOtaBeginResp.ofPtr (p : BytePtr) : PayloadOtaBeginResp :=
  ⟨u32At p 0, u16At p 4, u16At p 6⟩

def PayloadOtaData.ofPtr (p : BytePtr) : PayloadOtaData := ⟨u32At p 0, u16At p 4, u16At p 6⟩

def PayloadOtaEnd.ofPtr (p : BytePtr) : PayloadOtaEnd := ⟨u32At p 0, p 4⟩

/-! ## Streams -/

def PORT_STREAM : UInt16 := 50001

/-- `IPADDR_BROADCAST` of lwIP. -/
def IPADDR_BROADCAST : UInt32 := 0xFFFFFFFF

def MAKE_FOURCC (a b c d : UInt8) : UInt32 :=
  a.toUInt32 ||| (b.toUInt32 <<< 8) ||| (c.toUInt32 <<< 16) ||| (d.toUInt32 <<< 24)

/-- The last character alone makes a code large. -/
theorem le_toNat_MAKE_FOURCC (a b c d : UInt8) : d.toNat * 2 ^ 24 ≤ (MAKE_FOURCC a b c d).toNat := by
  have hlast : (d.toUInt32 <<< 24).toNat = d.toNat * 2 ^ 24 := by
    have hlt := d.toNat_lt
    rw [UInt32.toNat_shiftLeft, UInt8.toNat_toUInt32, Nat.shiftLeft_eq]
    exact Nat.mod_eq_of_lt (by simp; omega)
  unfold MAKE_FOURCC
  rw [UInt32.toNat_or, hlast]
  exact Nat.right_le_or

/-- The code of four printable characters is no small number. -/
theorem MAKE_FOURCC_gt (a b c : UInt8) {d : UInt8} (hd : 32 ≤ d) : MAKE_FOURCC a b c d > 100 := by
  have hcode := le_toNat_MAKE_FOURCC a b c d
  rw [UInt8.le_iff_toNat_le] at hd
  have hlow : (32 : UInt8).toNat = 32 := rfl
  have hbound : (100 : UInt32).toNat = 100 := rfl
  rw [gt_iff_lt, UInt32.lt_iff_toNat_lt]
  omega

/-- `"CNTR"`. -/
def STREAM_TAG_COUNTER : UInt32 := MAKE_FOURCC 67 78 84 82

/-! ## The persistent control block -/

def OTA_MAGIC : UInt32 := 0x4F544131

/-- `OtaState`. -/
inductive OtaState where
  | idle
  | pendingInstall
  | activeSuccess
  | failed
  deriving DecidableEq, Repr

def OtaState.code : OtaState → UInt32
  | idle => 0
  | pendingInstall => 1
  | activeSuccess => 2
  | failed => 3

/-- `OtaControlBlock`, 32 bytes. -/
structure OtaControlBlock where
  magic : UInt32
  state : UInt32
  imageSize : UInt32
  imageCrc32 : UInt32
  targetVersion : UInt32
  stagingAddress : UInt32
  activeAddress : UInt32
  structCrc32 : UInt32
  deriving DecidableEq, Repr

namespace OtaControlBlock

/-- The 28 bytes before `struct_crc32`. -/
def body (b : OtaControlBlock) : List UInt8 :=
  wordsLe [b.magic, b.state, b.imageSize, b.imageCrc32, b.targetVersion, b.stagingAddress,
    b.activeAddress]

def toBytes (b : OtaControlBlock) : List UInt8 :=
  wordsLe [b.magic, b.state, b.imageSize, b.imageCrc32, b.targetVersion, b.stagingAddress,
    b.activeAddress, b.structCrc32]

def ofPtr (p : BytePtr) : OtaControlBlock :=
  ⟨u32At p 0, u32At p 4, u32At p 8, u32At p 12, u32At p 16, u32At p 20, u32At p 24, u32At p 28⟩

@[simp] theorem length_body (b : OtaControlBlock) : b.body.length = 28 := rfl

@[simp] theorem length_toBytes (b : OtaControlBlock) : b.toBytes.length = 32 := rfl

theorem toBytes_eq (b : OtaControlBlock) : b.toBytes = b.body ++ u32le b.structCrc32 := rfl

/-- The block at a pointer is decided by the 32 bytes there. -/
theorem ofPtr_congr {p q : BytePtr} (h : ∀ i < 32, p i = q i) : ofPtr p = ofPtr q := by
  have word : ∀ i, i + 4 ≤ 32 → u32At p i = u32At q i := fun i hi =>
    u32At_congr fun k hk => h (i + k) (by omega)
  simp only [ofPtr, word 0 (by decide), word 4 (by decide), word 8 (by decide),
    word 12 (by decide), word 16 (by decide), word 20 (by decide), word 24 (by decide),
    word 28 (by decide)]

/-- A stored block reads back. -/
theorem ofPtr_of_bytes {p : BytePtr} {b : OtaControlBlock} (h : bytesAt p 0 32 = b.toBytes) :
    ofPtr p = b := by
  have word := @u32At_of_words p [b.magic, b.state, b.imageSize, b.imageCrc32, b.targetVersion,
    b.stagingAddress, b.activeAddress, b.structCrc32] 0 h
  unfold ofPtr
  congr
  · exact word 0 (by simp)
  · exact word 1 (by simp)
  · exact word 2 (by simp)
  · exact word 3 (by simp)
  · exact word 4 (by simp)
  · exact word 5 (by simp)
  · exact word 6 (by simp)
  · exact word 7 (by simp)

end OtaControlBlock

/-! ## CRC16-CCITT -/

/-- The inner loop body of `crc16_ccitt`. -/
def crc16Bit (crc : UInt16) : UInt16 :=
  if crc &&& 0x8000 ≠ 0 then (crc <<< 1) ^^^ 0x1021 else crc <<< 1

/-- One byte of `crc16_ccitt`. -/
def crc16Byte (crc : UInt16) (byte : UInt8) : UInt16 :=
  crc16Bit^[8] (crc ^^^ (byte.toUInt16 <<< 8))

/-- `crc16_ccitt`; every caller of the firmware leaves `seed` at its default `0xFFFF`. -/
def crc16Ccitt (data : List UInt8) (seed : UInt16) : UInt16 := data.foldl crc16Byte seed

end EmbeddedPixel
