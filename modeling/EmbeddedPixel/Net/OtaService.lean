import EmbeddedPixel.Foundation.Reader
import EmbeddedPixel.Foundation.Machine
import EmbeddedPixel.Proto.PacketHelper
import EmbeddedPixel.Sys.SystemController

/-!
# The OTA service (`net/services/OtaService.cpp`)

The session fields of `OtaService` and the RAM it writes: `staging_buffer_` and the control block
at `RAM_CONTROL_BLOCK_BASE`.  An `OtaMachine` is the two together; the handlers take it to the next
one.  `handleData` is a `Reader` over the bytes behind `chunkData`.

A chunk copy that leaves `staging_buffer_` is undefined behaviour in the source; the model gives it
no meaning (`none`).  The data cache is coherent here, so the cache maintenance calls do nothing.

`OtaMachine.step` is one call from outside.  The controller is part of the call: its flags and
versions can change from one call to the next.
-/

set_option autoImplicit false

namespace EmbeddedPixel

open Foundation

namespace OtaService

def SLOT_A_PHYSICAL_BASE : UInt32 := 0x70000000

def RAM_CONTROL_BLOCK_BASE : BitVec 32 := 0x24070000#32

def MAX_IMAGE_SIZE : UInt32 := 160 * 1024

@[simp] theorem MAX_IMAGE_SIZE_toNat : MAX_IMAGE_SIZE.toNat = 163840 := rfl

end OtaService

/-- Where the linker put `staging_buffer_`: in AXI SRAM, clear of the control block and, with it,
of the boot handover above it. -/
structure Layout where
  stagingBuffer : BitVec 32
  ram_start : 0x24000000 ≤ stagingBuffer.toNat
  ram_end :
    stagingBuffer.toNat + OtaService.MAX_IMAGE_SIZE.toNat ≤ OtaService.RAM_CONTROL_BLOCK_BASE.toNat

/-- The lowest placement: at the start of AXI SRAM. -/
def Layout.lowest : Layout where
  stagingBuffer := 0x24000000#32
  ram_start := by decide
  ram_end := by decide

/-- `staging_buffer_`. -/
def Layout.staging (L : Layout) (ram : Mem 32) : BytePtr := ram.ptr L.stagingBuffer

/-- `OtaService::InternalState`. -/
inductive InternalState where
  | idle
  | receiving
  | verifying
  | ready
  | errorState
  deriving DecidableEq, Repr

def InternalState.code : InternalState → UInt16
  | idle => 0
  | receiving => 1
  | verifying => 2
  | ready => 3
  | errorState => 4

/-- `OtaService`, less its staging buffer and its pointers. -/
structure OtaService where
  state : InternalState
  lastError : StatusCode
  totalImageSize : UInt32
  expectedCrc32 : UInt32
  targetVersion : UInt32
  bytesWritten : UInt32
  incrementalCrc : UInt32
  autoReboot : Bool
  rebootPending : Bool
  deriving DecidableEq, Repr

/-- The constructor. -/
def OtaService.create : OtaService where
  state := .idle
  lastError := .ok
  totalImageSize := 0
  expectedCrc32 := 0
  targetVersion := 0
  bytesWritten := 0
  incrementalCrc := Crc32.INITIAL_REMAINDER
  autoReboot := false
  rebootPending := false

/-- The service and the RAM. -/
structure OtaMachine where
  svc : OtaService
  ram : Mem 32

namespace OtaMachine

/-- `last_error_ = e` -/
def withError (m : OtaMachine) (e : StatusCode) : OtaMachine :=
  { m with svc := { m.svc with lastError := e } }

/-- `last_error_ = e; return last_error_;` -/
def fail (m : OtaMachine) (e : StatusCode) : StatusCode × OtaMachine := (e, m.withError e)

end OtaMachine

namespace OtaService

variable (L : Layout)

/-! ## `handleBegin` -/

/-- What an accepted `handleBegin` sets. -/
def session (svc : OtaService) (req : PayloadOtaBegin) : OtaService :=
  { svc with
    state := .receiving
    lastError := .ok
    totalImageSize := req.imageSize
    expectedCrc32 := req.imageCrc32
    targetVersion := req.targetVersion
    bytesWritten := 0
    incrementalCrc := Crc32.INITIAL_REMAINDER
    autoReboot := req.flags &&& 0x01 != 0
    rebootPending := false }

/-- The checks of `handleBegin`. -/
def beginError (sysCtrl : Option SystemController) (req : PayloadOtaBegin) : Option StatusCode :=
  if sysCtrl.any (fun c => !c.isFeatureEnabled .otaRamStaging) then some .errOtaDisabled
  else if req.imageSize = 0 ∨ req.imageSize > MAX_IMAGE_SIZE then some .errImageTooLarge
  else none

/-- `handleBegin`; a refused request leaves two fields of `resp` as they were. -/
def handleBegin (sysCtrl : Option SystemController) (req : PayloadOtaBegin)
    (resp : PayloadOtaBeginResp) (m : OtaMachine) :
    StatusCode × PayloadOtaBeginResp × OtaMachine :=
  match beginError sysCtrl req with
  | some e => (e, { resp with statusCode := e.code.toUInt32 }, (m.fail e).2)
  | none =>
    let erased := (req.imageSize + 255) &&& ~~~255
    (.ok, ⟨StatusCode.ok.code.toUInt32, 1024, (MAX_IMAGE_SIZE / 1024).toUInt16⟩,
      { svc := m.svc.session req,
        ram := m.ram.store L.stagingBuffer erased.toNat fun _ => 0xFF })

/-! ## `handleData` -/

/-- The chunk check: a `chunk_crc16` of zero is not checked. -/
def chunkCrcOk (req : PayloadOtaData) (dataLen : UInt16) : Reader Bool :=
  if req.chunkCrc16 = 0 then pure true
  else do
    let chunk ← Reader.bytes 0 dataLen.toNat
    pure (crc16Ccitt chunk 0xFFFF == req.chunkCrc16)

/-- The early check of a header: the error, if any, that `handleData` answers with. -/
def headerError (sysCtrl : Option SystemController) (appHdr : BytePtr) : Option StatusCode :=
  let hdr := AppImageHeader.ofPtr appHdr
  if hdr.magic = EPFW_MAGIC then
    if !AppImageHeader.isValid appHdr then some .errInvalidCrc
    else if sysCtrl.any (fun c => hdr.boardId != c.getBoardId) then some .errIncompatibleBoard
    else if sysCtrl.any (fun c => c.getBootloaderVersion < hdr.minBootloaderVersion) then
      some .errIncompatibleBootloader
    else none
  else none

/-- `memcpy(&staging_buffer_[offset], chunkData, dataLen)` and the two running values. -/
def copied (req : PayloadOtaData) (chunk : List UInt8) (m : OtaMachine) : OtaMachine where
  svc :=
    { m.svc with
      incrementalCrc := Crc32.update m.svc.incrementalCrc chunk
      bytesWritten := req.offset + UInt32.ofNat chunk.length }
  ram := m.ram.store (L.stagingBuffer + BitVec.ofNat 32 req.offset.toNat) chunk.length
    (BytePtr.ofList chunk)

/-- `handleData` after its checks: the copy, and the early header check once the header's range
has been passed. -/
def copyChunk (sysCtrl : Option SystemController) (req : PayloadOtaData) (chunk : List UInt8)
    (m : OtaMachine) : Option (StatusCode × OtaMachine) :=
  if req.offset.toNat + chunk.length > MAX_IMAGE_SIZE.toNat then none
  else
    let m := copied L req chunk m
    if m.svc.bytesWritten.toNat ≥ APP_HEADER_FLASH_OFFSET + APP_IMAGE_HEADER_SIZE then
      match headerError sysCtrl ((L.staging m.ram).advance APP_HEADER_FLASH_OFFSET) with
      | some e => some (m.fail e)
      | none => some (.ok, m)
    else some (.ok, m)

/-- `handleData`. -/
def handleData (sysCtrl : Option SystemController) (req : PayloadOtaData) (dataLen : UInt16)
    (m : OtaMachine) : Reader (Option (StatusCode × OtaMachine)) :=
  if m.svc.state ≠ .receiving then pure (some (.errBusy, m))
  -- the sum is taken in 32 bits
  else if req.offset + dataLen.toUInt32 > m.svc.totalImageSize then
    pure (some (m.fail .errInvalidPayload))
  else do
    let crcOk ← chunkCrcOk req dataLen
    if crcOk then do
      let chunk ← Reader.bytes 0 dataLen.toNat
      pure (copyChunk L sysCtrl req chunk m)
    else pure (some (m.fail .errInvalidCrc))

/-! ## `handleEnd`, `handleAbort`, `getStatus` -/

/-- The block `writeControlBlock` builds. -/
def controlBlock (svc : OtaService) (otaState : OtaState) : OtaControlBlock :=
  let blk : OtaControlBlock :=
    ⟨OTA_MAGIC, otaState.code, svc.totalImageSize, svc.expectedCrc32, svc.targetVersion,
      UInt32.ofBitVec L.stagingBuffer, SLOT_A_PHYSICAL_BASE, 0⟩
  { blk with structCrc32 := Crc32.calculate blk.body }

/-- `writeControlBlock`. -/
def writeControlBlock (otaState : OtaState) (m : OtaMachine) : OtaMachine :=
  { m with
    ram := m.ram.store RAM_CONTROL_BLOCK_BASE 32
      (BytePtr.ofList (controlBlock L m.svc otaState).toBytes) }

/-- The checksum of the staged image, `buffer_crc32` of `handleEnd`. -/
def bufferCrc32 (m : OtaMachine) : UInt32 :=
  Crc32.calculate (bytesAt (L.staging m.ram) 0 m.svc.totalImageSize.toNat)

/-- `handleEnd`. -/
def handleEnd (req : PayloadOtaEnd) (m : OtaMachine) : StatusCode × OtaMachine :=
  if m.svc.state ≠ .receiving then (.errBusy, m)
  else if bufferCrc32 L m ≠ m.svc.expectedCrc32 then
    (.errInvalidCrc,
      { m with svc := { m.svc with state := .errorState, lastError := .errInvalidCrc } })
  else
    let m := writeControlBlock L .pendingInstall m
    (.ok,
      { m with
        svc :=
          { m.svc with
            state := .ready
            rebootPending := if m.svc.autoReboot || req.autoReboot != 0 then true
              else m.svc.rebootPending } })

/-- `handleAbort`. -/
def handleAbort (m : OtaMachine) : StatusCode × OtaMachine :=
  (.ok,
    { m with
      svc :=
        { m.svc with
          state := .idle, lastError := .ok, bytesWritten := 0, rebootPending := false } })

/-- `getStatus`. -/
def getStatus (svc : OtaService) : PayloadOtaStatusResp :=
  ⟨svc.bytesWritten, svc.totalImageSize, svc.state.code, svc.lastError.code⟩

end OtaService

/-! ## Runs of calls -/

/-- A call of one of the four handlers. -/
inductive OtaCall where
  | begin (req : PayloadOtaBegin) (resp : PayloadOtaBeginResp)
  | data (req : PayloadOtaData) (chunkData : BytePtr) (dataLen : UInt16)
  | «end» (req : PayloadOtaEnd)
  | abort

namespace OtaMachine

/-- The machine after power-up: a new service, any RAM. -/
def start (ram : Mem 32) : OtaMachine := ⟨OtaService.create, ram⟩

/-- One call: its status and the machine it leaves. -/
def step (L : Layout) (m : OtaMachine) : Option SystemController × OtaCall →
    Option (StatusCode × OtaMachine)
  | (sysCtrl, .begin req resp) =>
    let r := OtaService.handleBegin L sysCtrl req resp m
    some (r.1, r.2.2)
  | (sysCtrl, .data req chunkData dataLen) =>
    (OtaService.handleData L sysCtrl req dataLen m).run chunkData
  | (_, .end req) => some (OtaService.handleEnd L req m)
  | (_, .abort) => some (OtaService.handleAbort m)

/-- The calls made, each with the status it was answered with. -/
abbrev Trace := List ((Option SystemController × OtaCall) × StatusCode)

/-- The runs of the service from power-up. -/
def Runs (L : Layout) (ram : Mem 32) (t : Trace) (m : OtaMachine) : Prop :=
  Machine.Run (step L) (start ram) t m

end OtaMachine

end EmbeddedPixel
