import EmbeddedPixel.Proto.ProtocolTypes
import Mathlib.Data.List.GetD

/-!
# Response frames (`net/proto/PacketHelper.h`)

`populateHeader` and the payloads a node sends, with the bytes of each.  A `Frame` is what one write
hands to the network stack: a header and the payload after it.
-/

set_option autoImplicit false

namespace EmbeddedPixel

open Foundation

/-- The 16 bytes of a header. -/
def PE_Header.toBytes (h : PE_Header) : List UInt8 :=
  u16le h.magic ++ [h.version, h.flags] ++ u16le h.nodeId ++ u16le h.msgType ++ u32le h.seqNum ++
    u16le h.payloadLen ++ u16le h.crc16

/-- The header at a pointer. -/
def PE_Header.ofPtr (p : BytePtr) : PE_Header :=
  ⟨u16At p 0, p 2, p 3, u16At p 4, u16At p 6, u32At p 8, u16At p 12, u16At p 14⟩

/-- `PacketHelper::PopulateHeader`. -/
def populateHeader (nodeId : UInt16) (type : MessageType) (seqNum : UInt32) (payloadLen : UInt16)
    (flags : UInt8) (computeCrc : Bool) (payload : Option (List UInt8)) : PE_Header where
  magic := PE_MAGIC
  version := PE_PROTOCOL_VERSION
  flags := flags
  nodeId := nodeId
  msgType := type.code
  seqNum := seqNum
  payloadLen := payloadLen
  crc16 :=
    match payload with
    | none => 0
    | some bytes =>
      if computeCrc && payloadLen > 0 then crc16Ccitt (bytes.take payloadLen.toNat) 0xFFFF else 0

/-- `PacketHelper::ValidateHeader`. -/
def validateHeader (hdr : PE_Header) (receivedBytes : Nat) : StatusCode :=
  if receivedBytes < 16 then .errInvalidPayload
  else if hdr.magic ≠ PE_MAGIC then .errInvalidMagic
  else if hdr.version ≠ PE_PROTOCOL_VERSION then .errInvalidVersion
  else if receivedBytes < 16 + hdr.payloadLen.toNat then .errInvalidPayload
  else .ok

/-- What the checks of a header come to. -/
theorem validateHeader_eq_ok {hdr : PE_Header} {len : Nat} :
    validateHeader hdr len = .ok ↔
      hdr.magic = PE_MAGIC ∧ hdr.version = PE_PROTOCOL_VERSION ∧ 16 + hdr.payloadLen.toNat ≤ len := by
  unfold validateHeader
  by_cases hlen : len < 16
  · rw [if_pos hlen]
    refine ⟨fun h => (by cases h), fun h => ?_⟩
    have := h.2.2
    omega
  rw [if_neg hlen]
  by_cases hmagic : hdr.magic = PE_MAGIC
  swap
  · rw [if_pos hmagic]
    exact ⟨fun h => (by cases h), fun h => absurd h.1 hmagic⟩
  rw [if_neg (not_not.2 hmagic)]
  by_cases hversion : hdr.version = PE_PROTOCOL_VERSION
  swap
  · rw [if_pos hversion]
    exact ⟨fun h => (by cases h), fun h => absurd h.2.1 hversion⟩
  rw [if_neg (not_not.2 hversion)]
  by_cases hpayload : len < 16 + hdr.payloadLen.toNat
  · rw [if_pos hpayload]
    exact ⟨fun h => (by cases h), fun h => absurd h.2.2 (Nat.not_le.2 hpayload)⟩
  · rw [if_neg hpayload]
    exact ⟨fun _ => ⟨hmagic, hversion, Nat.not_lt.1 hpayload⟩, fun _ => rfl⟩

/-- `PacketHelper::ValidatePayloadCrc`, for a payload that is not null. -/
def validatePayloadCrc (hdr : PE_Header) (payload : BytePtr) : Bool :=
  if hdr.crc16 = 0 ∨ hdr.payloadLen = 0 then true
  else crc16Ccitt (bytesAt payload 0 hdr.payloadLen.toNat) 0xFFFF == hdr.crc16

/-- A header and its payload. -/
structure Frame where
  hdr : PE_Header
  payload : List UInt8
  deriving DecidableEq, Repr

def Frame.toBytes (f : Frame) : List UInt8 := f.hdr.toBytes ++ f.payload

@[simp] theorem PE_Header.length_toBytes (h : PE_Header) : h.toBytes.length = 16 := rfl

/-- The header at a pointer is decided by the 16 bytes there. -/
theorem PE_Header.ofPtr_congr {p q : BytePtr} (h : ∀ i < 16, p i = q i) : ofPtr p = ofPtr q := by
  have half : ∀ i, i + 2 ≤ 16 → u16At p i = u16At q i := fun i hi =>
    u16At_congr fun k hk => h (i + k) (by omega)
  have word : u32At p 8 = u32At q 8 := u32At_congr fun k hk => h (8 + k) (by omega)
  simp only [ofPtr, half 0 (by decide), half 4 (by decide), half 6 (by decide), half 12 (by decide),
    half 14 (by decide), word, h 2 (by decide), h 3 (by decide)]

/-- A header that was written reads back. -/
theorem PE_Header.ofPtr_toBytes (h : PE_Header) : ofPtr (BytePtr.ofList h.toBytes) = h := by
  obtain ⟨magic, version, flags, nodeId, msgType, seqNum, payloadLen, crc16⟩ := h
  unfold ofPtr
  congr
  · exact u16At_of_bytes rfl
  · exact u16At_of_bytes rfl
  · exact u16At_of_bytes rfl
  · exact u32At_of_bytes rfl
  · exact u16At_of_bytes rfl
  · exact u16At_of_bytes rfl

/-- A header at the front of a frame reads back. -/
theorem PE_Header.ofPtr_append (h : PE_Header) (rest : List UInt8) :
    ofPtr (BytePtr.ofList (h.toBytes ++ rest)) = h := by
  refine (ofPtr_congr fun i hi => ?_).trans (ofPtr_toBytes h)
  unfold BytePtr.ofList
  rw [List.getD_append _ _ _ _ (by rw [length_toBytes]; exact hi)]

/-! ## Payloads of responses -/

/-- `PayloadDiscoveryPong`, 48 bytes. -/
structure PayloadDiscoveryPong where
  challengeId : UInt32
  nodeId : UInt16
  nodeState : UInt16
  ipAddr : UInt32
  macAddr : List UInt8
  boardId : UInt16
  fwVersion : UInt32
  uptimeMs : UInt32
  hwUid : UInt32 × UInt32 × UInt32
  bootloaderVersion : UInt32
  featureFlags : UInt32
  deriving DecidableEq, Repr

def PayloadDiscoveryPong.toBytes (p : PayloadDiscoveryPong) : List UInt8 :=
  u32le p.challengeId ++ u16le p.nodeId ++ u16le p.nodeState ++ u32le p.ipAddr ++ p.macAddr ++
    u16le p.boardId ++ u32le p.fwVersion ++ u32le p.uptimeMs ++ u32le p.hwUid.1 ++
    u32le p.hwUid.2.1 ++ u32le p.hwUid.2.2 ++ u32le p.bootloaderVersion ++ u32le p.featureFlags

/-- The payload at a pointer. -/
def PayloadDiscoveryPong.ofPtr (p : BytePtr) : PayloadDiscoveryPong where
  challengeId := u32At p 0
  nodeId := u16At p 4
  nodeState := u16At p 6
  ipAddr := u32At p 8
  macAddr := bytesAt p 12 6
  boardId := u16At p 18
  fwVersion := u32At p 20
  uptimeMs := u32At p 24
  hwUid := (u32At p 28, u32At p 32, u32At p 36)
  bootloaderVersion := u32At p 40
  featureFlags := u32At p 44

/-- A payload that was written reads back. -/
theorem PayloadDiscoveryPong.ofPtr_toBytes {p : PayloadDiscoveryPong} (h : p.macAddr.length = 6) :
    ofPtr (BytePtr.ofList p.toBytes) = p := by
  obtain ⟨challengeId, nodeId, nodeState, ipAddr, macAddr, boardId, fwVersion, uptimeMs,
    ⟨uid0, uid1, uid2⟩, bootloaderVersion, featureFlags⟩ := p
  obtain ⟨m0, m1, m2, m3, m4, m5, rfl⟩ : ∃ m0 m1 m2 m3 m4 m5, macAddr = [m0, m1, m2, m3, m4, m5] := by
    match macAddr, h with
    | [m0, m1, m2, m3, m4, m5], _ => exact ⟨m0, m1, m2, m3, m4, m5, rfl⟩
  unfold ofPtr toBytes
  rw [mk.injEq, Prod.mk.injEq, Prod.mk.injEq]
  simp only [List.append_assoc]
  refine ⟨?_, ?_, ?_, ?_, ?_, ?_, ?_, ?_, ⟨?_, ?_, ?_⟩, ?_, ?_⟩
  · exact u32At_ofList_drop rfl
  · exact u16At_ofList_drop rfl
  · exact u16At_ofList_drop rfl
  · exact u32At_ofList_drop rfl
  · rfl
  · exact u16At_ofList_drop rfl
  · exact u32At_ofList_drop rfl
  · exact u32At_ofList_drop rfl
  · exact u32At_ofList_drop rfl
  · exact u32At_ofList_drop rfl
  · exact u32At_ofList_drop rfl
  · exact u32At_ofList_drop rfl
  · exact u32At_ofList_drop rfl

/-- `PayloadAckNack`, 12 bytes. -/
structure PayloadAckNack where
  cmdId : UInt16
  statusCode : UInt16
  resultData : UInt32
  reserved : UInt32
  deriving DecidableEq, Repr

def PayloadAckNack.toBytes (p : PayloadAckNack) : List UInt8 :=
  u16le p.cmdId ++ u16le p.statusCode ++ u32le p.resultData ++ u32le p.reserved

def PayloadOtaBeginResp.toBytes (p : PayloadOtaBeginResp) : List UInt8 :=
  u32le p.statusCode ++ u16le p.chunkSizeAck ++ u16le p.maxImageSizeKb

/-- `PayloadOtaStatusResp`, 12 bytes. -/
structure PayloadOtaStatusResp where
  bytesWritten : UInt32
  totalBytes : UInt32
  state : UInt16
  errorCode : UInt16
  deriving DecidableEq, Repr

def PayloadOtaStatusResp.toBytes (p : PayloadOtaStatusResp) : List UInt8 :=
  u32le p.bytesWritten ++ u32le p.totalBytes ++ u16le p.state ++ u16le p.errorCode

/-- `PayloadCliExecResp`, the 4 bytes before the response text. -/
structure PayloadCliExecResp where
  statusCode : UInt16
  respLen : UInt16
  deriving DecidableEq, Repr

def PayloadCliExecResp.toBytes (p : PayloadCliExecResp) : List UInt8 :=
  u16le p.statusCode ++ u16le p.respLen

/-- `StreamDescriptor`, 32 bytes; `name` is a C string. -/
structure StreamDescriptor where
  streamTag : UInt32
  name : List UInt8
  sampleRateHz : UInt16
  batchCount : UInt16
  channelCount : UInt16
  sampleType : UInt16
  isEnabled : UInt8
  deriving DecidableEq, Repr

/-- The name is cut to 15 bytes and filled up with zeros, as `strncpy` into a cleared field does. -/
def StreamDescriptor.toBytes (d : StreamDescriptor) : List UInt8 :=
  u32le d.streamTag ++ (d.name.take 15 ++ List.replicate (16 - (d.name.take 15).length) 0) ++
    u16le d.sampleRateHz ++ u16le d.batchCount ++ u16le d.channelCount ++ u16le d.sampleType ++
    [d.isEnabled, 0, 0, 0]

/-- `PayloadGetStreamsResp` and the descriptors after it. -/
def getStreamsResp (streams : List StreamDescriptor) : List UInt8 :=
  u16le (UInt16.ofNat streams.length) ++ u16le 0 ++ streams.flatMap StreamDescriptor.toBytes

end EmbeddedPixel
