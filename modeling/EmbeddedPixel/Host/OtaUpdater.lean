import EmbeddedPixel.Foundation.StructFormat
import EmbeddedPixel.Foundation.Talk
import EmbeddedPixel.Proto.PacketHelper
import EmbeddedPixel.Sys.Crc32

/-!
# The host's updater (`scripts/ota_updater.py`)

`run_ota` as a program at the host's end of its one TCP connection, and the reading of a datagram while
it waits for the node to come back.  Integers are unbounded, `struct` formats are given by their texts,
and an exception or `sys.exit` stops the program.  The firmware file exists, the connection is made,
and what is printed is left out; `crc16_ccitt` and `binascii.crc32` are the firmware's checksums.
-/

set_option autoImplicit false

namespace EmbeddedPixel.OtaUpdater

open Foundation

def PE_MAGIC : Nat := 0x5045

def PE_VERSION : Nat := 1

def CMD_GET_NODE_INFO : Nat := 0x0100
def CMD_GET_NODE_INFO_RESP : Nat := 0x0101
def CMD_OTA_BEGIN : Nat := 0x0130
def CMD_OTA_BEGIN_RESP : Nat := 0x0131
def CMD_OTA_DATA : Nat := 0x0132
def CMD_OTA_END : Nat := 0x0134
def CMD_ACK : Nat := 0x01FE

def STATUS_OK : Nat := 0x0000

def EPFW_MAGIC : Nat := 0x45504657

def APP_HEADER_OFFSET : Nat := 0x200

/-- How a call stops short: `sys.exit(1)` and the exceptions that can be raised; `connectionError` is
a connection that was closed or timed out. -/
inductive Stop where
  | exit
  | structError
  | valueError
  | typeError
  | connectionError
  deriving DecidableEq, Repr

/-- `struct.unpack`. -/
def unpackOrRaise (format : String) (buffer : List UInt8) : Except Stop (List PyValue) :=
  match unpack format buffer with
  | some values => .ok values
  | none => .error .structError

theorem unpackOrRaise_slice {format : String} {fields : List Field} {l : List UInt8} {i j : Nat}
    (hformat : parseFormat format = some fields) (hj : j ≤ l.length)
    (hsize : i + calcsize fields = j) :
    unpackOrRaise format (slice l i j) = .ok (readFields (BytePtr.ofList l) fields i) := by
  unfold unpackOrRaise
  rw [unpack_slice hformat hj hsize]

/-! ## Messages -/

/-- `make_header`; every call leaves `node_id` and `flags` at zero. -/
def makeHeader (msgType payloadLen seqNum : Nat) : Option (List UInt8) :=
  packValues "<HBBHH I H H"
    [.int PE_MAGIC, .int PE_VERSION, .int 0, .int 0, .int msgType, .int seqNum, .int payloadLen, .int 0]

theorem parseFormat_header :
    parseFormat "<HBBHH I H H" = some [.H, .B, .B, .H, .H, .I, .H, .H] := by
  decide

/-- The part of `parse_header`'s result that is used. -/
structure MsgHeader where
  msgType : Nat
  payloadLen : Nat
  deriving DecidableEq, Repr

/-- `parse_header`. -/
def parseHeader (buf : List UInt8) : Except Stop (Option MsgHeader) :=
  if buf.length < 16 then .ok none
  else do
    let values ← unpackOrRaise "<HBBHH I H H" (slice buf 0 16)
    match values with
    | [_, _, _, _, .int msgType, _, .int payloadLen, _] => .ok (some ⟨msgType, payloadLen⟩)
    | _ => .error .valueError

/-- `sock.sendall(make_header(...) + payload)` -/
def sendRequest (msgType : Nat) (payload : List UInt8) (seqNum : Nat) : Talk Stop Unit := do
  let hdr ← Talk.ofOption .structError (makeHeader msgType payload.length seqNum)
  Talk.send (hdr ++ payload)

/-- `recv_exact`. -/
def recvExact (count : Nat) : Talk Stop (List UInt8) := do
  let data ← Talk.receive count
  Talk.ofOption .connectionError data

/-- A reply: its type and its payload. -/
def recvReply : Talk Stop (Nat × List UInt8) := do
  let bytes ← recvExact 16
  let hdr ← Talk.ofExcept (parseHeader bytes)
  let hdr ← Talk.ofOption .typeError hdr
  let payload ← recvExact hdr.payloadLen
  pure (hdr.msgType, payload)

/-! ## The embedded header -/

/-- The fields of `parse_app_image_header`'s result that are used. -/
structure ImageHeader where
  boardId : Nat
  appVersion : Nat
  minBootloaderVersion : Nat
  deriving DecidableEq, Repr

/-- `parse_app_image_header`. -/
def parseAppImageHeader (data : List UInt8) : Except Stop (Option ImageHeader) :=
  if data.length < APP_HEADER_OFFSET + 64 then .ok none
  else do
    let headerBytes := slice data APP_HEADER_OFFSET (APP_HEADER_OFFSET + 64)
    let values ← unpackOrRaise "<IHHI I I I I I I" (slice headerBytes 0 36)
    match values with
    | [.int magic, _, .int boardId, .int appVer, .int minBlVer, _, _, _, _, _] =>
      if magic ≠ EPFW_MAGIC then .ok none else .ok (some ⟨boardId, appVer, minBlVer⟩)
    | _ => .error .valueError

/-! ## What the node says about itself -/

/-- What the script takes from a `PayloadDiscoveryPong`. -/
structure ActiveNode where
  boardId : Nat
  curFwVer : Nat
  uptime : Nat
  blVer : Nat
  featFlags : Nat
  deriving DecidableEq, Repr

/-- The decoding of the 48 bytes, in both places: the tuple has thirteen targets. -/
def decodePong (payload : List UInt8) : Except Stop ActiveNode := do
  let values ← unpackOrRaise "<IHHI 6B H I I III I I" (slice payload 0 48)
  match values with
  | [_, _, _, _, _, .int boardId, .int curFwVer, .int uptime, _, _, _, .int blVer,
      .int featFlags] => .ok ⟨boardId, curFwVer, uptime, blVer, featFlags⟩
  | _ => .error .valueError

/-- Why the pre-flight check refuses a node. -/
inductive Refusal where
  | board
  | bootloader
  deriving DecidableEq, Repr

/-- The pre-flight compatibility checks. -/
def preflight (hdr : ImageHeader) (boardId blVer : Nat) : Option Refusal :=
  if boardId ≠ hdr.boardId then some .board
  else if blVer < hdr.minBootloaderVersion then some .bootloader
  else none

/-- What is done about the answer to `CMD_GET_NODE_INFO`; the short form is only printed. -/
def checkNode (hdrInfo : Option ImageHeader) (msgType : Nat) (payload : List UInt8) :
    Except Stop Unit :=
  if msgType = CMD_GET_NODE_INFO_RESP ∧ payload.length ≥ 20 then
    if payload.length ≥ 48 then do
      let node ← decodePong payload
      if (hdrInfo.bind fun hdr => preflight hdr node.boardId node.blVer).isSome then .error .exit
      else if node.featFlags &&& (1 <<< 3) = 0 then .error .exit
      else .ok ()
    else .ok ()
  else .ok ()

/-! ## `run_ota` -/

/-- The arguments of `run_ota`, with the contents of the file. -/
structure Args where
  binaryData : List UInt8
  targetVersion : Nat
  autoReboot : Bool
  chunkSize : Nat

def totalCrc32 (a : Args) : Nat := (Crc32.calculate a.binaryData).toNat

/-- The target version; an embedded header's own takes its place. -/
def targetVersion (a : Args) (hdrInfo : Option ImageHeader) : Nat :=
  hdrInfo.elim a.targetVersion (·.appVersion)

def beginPayload (a : Args) (hdrInfo : Option ImageHeader) : Option (List UInt8) :=
  packValues "<IIIHH"
    [.int a.binaryData.length, .int (totalCrc32 a), .int (targetVersion a hdrInfo),
      .int a.chunkSize, .int (if a.autoReboot then 0x01 else 0x00)]

/-- The payload of one `CMD_OTA_DATA`: its header and the chunk. -/
def dataPayload (offset : Nat) (chunk : List UInt8) : Option (List UInt8) := do
  let dataHdr ← packValues "<IHH"
    [.int offset, .int chunk.length, .int (crc16Ccitt chunk 0xFFFF).toNat]
  pure (dataHdr ++ chunk)

def endPayload (a : Args) : Option (List UInt8) :=
  packValues "<IB3s"
    [.int (totalCrc32 a), .int (if a.autoReboot then 1 else 0), .bytes [0, 0, 0]]

/-- 1. Query the node. -/
def queryNode (hdrInfo : Option ImageHeader) : Talk Stop Unit := do
  sendRequest CMD_GET_NODE_INFO [] 1
  let (msgType, payload) ← recvReply
  Talk.ofExcept (checkNode hdrInfo msgType payload)

/-- 2. `CMD_OTA_BEGIN`: the chunk size the node acknowledges. -/
def beginTransfer (a : Args) (hdrInfo : Option ImageHeader) : Talk Stop Nat := do
  let payload ← Talk.ofOption .structError (beginPayload a hdrInfo)
  sendRequest CMD_OTA_BEGIN payload 2
  let (msgType, payload) ← recvReply
  if msgType ≠ CMD_OTA_BEGIN_RESP then Talk.stop .exit
  else do
    let values ← Talk.ofExcept (unpackOrRaise "<IHH" (slice payload 0 8))
    match values with
    | [.int statusCode, .int ackChunkSize, _] =>
      if statusCode ≠ STATUS_OK then Talk.stop .exit else pure ackChunkSize
    | _ => Talk.stop .valueError

/-- 3. The data loop from `offset`, at most `fuel` turns of it: the sequence number after it, or `none`
if it is still going on. -/
def streamChunks (binaryData : List UInt8) (chunkSize : Nat) :
    (fuel offset seqNum : Nat) → Talk Stop (Option Nat)
  | 0, _, _ => pure none
  | fuel + 1, offset, seqNum =>
    if offset < binaryData.length then do
      let chunk := slice binaryData offset (offset + chunkSize)
      let payload ← Talk.ofOption .structError (dataPayload offset chunk)
      sendRequest CMD_OTA_DATA payload seqNum
      let (msgType, _) ← recvReply
      if msgType ≠ CMD_ACK then Talk.stop .exit
      else streamChunks binaryData chunkSize fuel (offset + chunk.length) (seqNum + 1)
    else pure (some seqNum)

/-- 4. `CMD_OTA_END`: a connection that ends here is taken for the node's reboot. -/
def endTransfer (a : Args) (seqNum : Nat) : Talk Stop Unit := do
  let payload ← Talk.ofOption .structError (endPayload a)
  sendRequest CMD_OTA_END payload seqNum
  let bytes ← Talk.receive 16
  match bytes with
  | none => pure ()
  | some bytes =>
    match parseHeader bytes with
    | .ok (some hdr) => do
      let payload ← Talk.receive hdr.payloadLen
      if payload.isSome ∧ hdr.msgType ≠ CMD_ACK then Talk.stop .exit else pure ()
    | _ => pure ()

/-- `run_ota` on its TCP connection, with at most `fuel` turns of the data loop: whether it came to
the end of the transfer. -/
def runOta (a : Args) (fuel : Nat) : Talk Stop Bool := do
  let hdrInfo ← Talk.ofExcept (parseAppImageHeader a.binaryData)
  queryNode hdrInfo
  let chunkSize ← beginTransfer a hdrInfo
  let seqNum ← streamChunks a.binaryData chunkSize fuel 0 3
  match seqNum with
  | none => pure false
  | some seqNum => do
    endTransfer a seqNum
    pure true

/-! ## Waiting for the node -/

/-- What a datagram says: nothing, or the firmware version and the uptime of a node. -/
def onDatagram (data : List UInt8) : Except Stop (Option (Nat × Nat)) :=
  if data.length < 16 then .ok none
  else do
    let hdr ← parseHeader data
    let payload := data.drop 16
    match hdr.map MsgHeader.msgType with
    | some 0x0001 =>
      if payload.length ≥ 8 then do
        let values ← unpackOrRaise "<II" (slice payload 0 8)
        match values with
        | [.int uptime, .int fwVer] => .ok (some (fwVer, uptime))
        | _ => .error .valueError
      else .ok none
    | some 0x0003 =>
      if payload.length ≥ 48 then do
        let node ← decodePong payload
        .ok (some (node.curFwVer, node.uptime))
      else if payload.length ≥ 28 then do
        let values ← unpackOrRaise "<IHHI 6B H II" (slice payload 0 28)
        match values with
        | [_, _, _, _, _, _, _, _, _, _, _, .int fwVer, .int uptime] =>
          .ok (some (fwVer, uptime))
        | _ => .error .valueError
      else .ok none
    | _ => .ok none

end EmbeddedPixel.OtaUpdater
