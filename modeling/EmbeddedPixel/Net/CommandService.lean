import EmbeddedPixel.Sys.CliEngine

/-!
# The command service (`net/services/CommandService.cpp`)

`processCommand` as a `Reader` over the payload buffer: what it answers, what it does to the node, and
which bytes of the buffer it looks at.  A response is a `Frame`; a system reset is an event after which
the node starts anew.  `none` is an OTA chunk copied outside the staging buffer, as in
`Net.OtaService`.

`Node.step` is one request, with what it reads from outside.
-/

set_option autoImplicit false

namespace EmbeddedPixel

open Foundation ITelemetryChannel

/-- What the build and the start-up fix. -/
structure NodeConfig where
  layout : Layout
  wiring : Wiring
  nodeId : UInt16

/-- What a request brings about outside the node. -/
inductive NodeEvent where
  | reply (frame : Frame)
  | reset
  deriving DecidableEq, Repr

namespace CommandService

variable {C : Type} [ITelemetryChannel C] (cfg : NodeConfig) (env : Env) (hdr : PE_Header)
  (n : Node C)

/-- Events and the node after them. -/
abbrev Reply (C : Type) := List NodeEvent × Node C

/-- `PopulateHeader` with `++seq_num_`, and the write. -/
def send (type : MessageType) (flags : UInt8) (payload : List UInt8) : Reply C :=
  let seqNum := n.seqNum + 1
  let hdr := populateHeader cfg.nodeId type seqNum (UInt16.ofNat payload.length) flags false none
  ([.reply ⟨hdr, payload⟩], { n with seqNum := seqNum })

/-- `sendAckNack`. -/
def sendAckNack (cmdId : UInt16) (status : StatusCode) (resultCode : UInt32) : Reply C :=
  send cfg n (if status = .ok then .cmdAck else .cmdNack)
    (if status ≠ .ok then FLAG_IS_RESPONSE ||| FLAG_ERROR else FLAG_IS_RESPONSE)
    (PayloadAckNack.toBytes ⟨cmdId, status.code, resultCode, 0⟩)

/-- `CMD_GET_NODE_INFO`. -/
def getNodeInfo : Reply C :=
  let ctrl := cfg.wiring.commandSysCtrl
  let pong : PayloadDiscoveryPong :=
    { challengeId := 0
      nodeId := cfg.nodeId
      nodeState := n.discovery.state.code
      ipAddr := env.ipAddr
      macAddr := env.macAddr
      boardId := if ctrl then n.sysCtrl.getBoardId else n.discovery.boardId
      fwVersion := if ctrl then n.sysCtrl.getAppVersion else n.discovery.fwVersion
      uptimeMs := env.uptimeMs 0
      hwUid := env.hwUid
      bootloaderVersion :=
        if ctrl then n.sysCtrl.getBootloaderVersion else n.discovery.bootloaderVersion
      featureFlags := if ctrl then n.sysCtrl.featureFlags else n.discovery.featureFlags }
  send cfg n .cmdGetNodeInfoResp FLAG_IS_RESPONSE pong.toBytes

/-- The `PayloadCommand` of a request, if it is long enough to have one. -/
def payloadCommand : Reader (Option PayloadCommand) :=
  if hdr.payloadLen ≥ 8 then do
    let cmd ← Reader.view 0 8 PayloadCommand.ofPtr
    pure (some cmd)
  else pure none

/-- The tag, sample rate and batch count of `CMD_START_STREAM`. -/
def startParams : Option PayloadCommand → UInt32 × UInt16 × UInt16
  | none => (0, 0, 0)
  | some cmd =>
    let streamTag := if cmd.param2 > 100 then cmd.param2 else cmd.cmdId.toUInt32
    let sampleRate := if cmd.param1 > 0 ∧ cmd.param1 ≠ 10000 then cmd.param1 else 0
    let batchCount :=
      if streamTag ≠ 0 ∧ cmd.param2 > 0 ∧ cmd.param2 ≤ 100 then cmd.param2.toUInt16 else 0
    (streamTag, sampleRate, batchCount)

/-- `CMD_START_STREAM`. -/
def startStream : Reader (Reply C) := do
  let cmd ← payloadCommand hdr
  let (streamTag, sampleRate, batchCount) := startParams cmd
  let n :=
    { n with
      telemetry :=
        n.telemetry.startStreaming IPADDR_BROADCAST PORT_STREAM streamTag sampleRate batchCount }
  pure (sendAckNack cfg (n.setDiscoveryState .streaming) hdr.msgType .ok sampleRate.toUInt32)

/-- The tag of `CMD_STOP_STREAM`. -/
def stopParam : Option PayloadCommand → UInt32
  | none => 0
  | some cmd => if cmd.param2 > 100 then cmd.param2 else cmd.cmdId.toUInt32

/-- `CMD_STOP_STREAM`. -/
def stopStream : Reader (Reply C) := do
  let cmd ← payloadCommand hdr
  let n := { n with telemetry := n.telemetry.stopStreaming (stopParam cmd) }
  let n := if !n.telemetry.isStreaming then n.setDiscoveryState .idle else n
  pure (sendAckNack cfg n hdr.msgType .ok 0)

def streamDescriptor (ch : C) : StreamDescriptor :=
  ⟨getTag ch, getName ch, getSampleRateHz ch, getBatchCount ch, getChannelCount ch,
    (getSampleType ch).code, if isEnabled ch then 1 else 0⟩

/-- `CMD_GET_STREAMS`. -/
def getStreams : Reply C :=
  send cfg n .cmdGetStreamsResp FLAG_IS_RESPONSE
    (getStreamsResp (n.telemetry.channels.map streamDescriptor))

/-- The checks that the OTA requests with a payload share: a wired service and enough bytes. -/
def otaRequest (size : UInt16) (serve : Reader (Option (Reply C))) : Reader (Option (Reply C)) :=
  if !cfg.wiring.commandOta then pure (some (sendAckNack cfg n hdr.msgType .errInternal 0))
  else if hdr.payloadLen < size then
    pure (some (sendAckNack cfg n hdr.msgType .errInvalidPayload 0))
  else serve

/-- `CMD_OTA_BEGIN`: the response starts out as what the stack held. -/
def otaBegin : Reader (Option (Reply C)) :=
  otaRequest cfg hdr n 16 do
    let req ← Reader.view 0 16 PayloadOtaBegin.ofPtr
    let (status, resp, ota) :=
      OtaService.handleBegin cfg.layout (n.otaSysCtrl cfg.wiring) req
        (PayloadOtaBeginResp.ofPtr (env.stack.advance 16)) n.ota
    let flags := if status ≠ .ok then FLAG_IS_RESPONSE ||| FLAG_ERROR else FLAG_IS_RESPONSE
    pure (some (send cfg { n with ota := ota } .cmdOtaBeginResp flags resp.toBytes))

/-- `CMD_OTA_DATA`. -/
def otaData : Reader (Option (Reply C)) :=
  otaRequest cfg hdr n 8 do
    let req ← Reader.view 0 8 PayloadOtaData.ofPtr
    let result ←
      (OtaService.handleData cfg.layout (n.otaSysCtrl cfg.wiring) req req.chunkLen n.ota).advance 8
    pure (result.map fun (status, ota) =>
      sendAckNack cfg { n with ota := ota } hdr.msgType status
        (req.offset + req.chunkLen.toUInt32))

/-- `CMD_OTA_END`: the reset follows the response. -/
def otaEnd : Reader (Option (Reply C)) :=
  otaRequest cfg hdr n 8 do
    let req ← Reader.view 0 8 PayloadOtaEnd.ofPtr
    let (status, ota) := OtaService.handleEnd cfg.layout req n.ota
    let (events, n) := sendAckNack cfg { n with ota := ota } hdr.msgType status 0
    pure (some (if ota.svc.rebootPending then events ++ [.reset] else events, n))

/-- `CMD_OTA_GET_STATUS`. -/
def otaGetStatus : Reply C :=
  if !cfg.wiring.commandOta then sendAckNack cfg n hdr.msgType .errInternal 0
  else send cfg n .cmdOtaGetStatusResp FLAG_IS_RESPONSE n.ota.svc.getStatus.toBytes

/-- `CMD_OTA_ABORT`. -/
def otaAbort : Reply C :=
  let n :=
    if cfg.wiring.commandOta then { n with ota := (OtaService.handleAbort n.ota).2 } else n
  sendAckNack cfg n hdr.msgType .ok 0

/-- `cmd_str`, a C string in a buffer of 128 bytes: the length a request gives is cut to 127, and a
request without the four bytes before the text is text altogether. -/
def cliText : Reader (List UInt8) :=
  if hdr.payloadLen ≥ 4 then do
    let req ← Reader.view 0 4 PayloadCliExec.ofPtr
    let text ← Reader.bytes 4 (min req.cmdLen.toNat 127)
    pure (cstr text)
  else do
    let text ← Reader.bytes 0 (min hdr.payloadLen.toNat 127)
    pure (cstr text)

/-- `CMD_CLI_EXEC`. -/
def cliExec : Reader (Reply C) :=
  if !cfg.wiring.commandCli then pure (sendAckNack cfg n hdr.msgType .errInternal 0)
  else do
    let text ← cliText hdr
    pure <|
      match CliEngine.execute cfg.wiring env n 512 text with
      | .reset n => ([.reset], n)
      | .text out n =>
        send cfg n .cmdCliExecResp FLAG_IS_RESPONSE
          (PayloadCliExecResp.toBytes ⟨StatusCode.ok.code, UInt16.ofNat out.length⟩ ++ out)

/-- `CMD_REBOOT`. -/
def reboot : Reply C :=
  let (events, n) := sendAckNack cfg n hdr.msgType .ok 0
  (events ++ [.reset], n)

/-- `processCommand`. -/
def processCommand : Reader (Option (Reply C)) :=
  match MessageType.ofCode hdr.msgType with
  | some .cmdGetNodeInfo => pure (some (getNodeInfo cfg env n))
  | some .cmdStartStream => some <$> startStream cfg hdr n
  | some .cmdStopStream => some <$> stopStream cfg hdr n
  | some .cmdGetStreams => pure (some (getStreams cfg n))
  | some .cmdOtaBegin => otaBegin cfg env hdr n
  | some .cmdOtaData => otaData cfg hdr n
  | some .cmdOtaEnd => otaEnd cfg hdr n
  | some .cmdOtaGetStatus => pure (some (otaGetStatus cfg hdr n))
  | some .cmdOtaAbort => pure (some (otaAbort cfg hdr n))
  | some .cmdCliExec => some <$> cliExec cfg env hdr n
  | some .cmdReboot => pure (some (reboot cfg hdr n))
  | _ => pure (some (sendAckNack cfg n hdr.msgType .errUnknownCmd 0))

end CommandService

/-- A request: what it reads from outside, its header and the payload buffer. -/
structure NodeRequest where
  env : Env
  hdr : PE_Header
  payload : BytePtr

/-- One request. -/
def Node.step {C : Type} [ITelemetryChannel C] (cfg : NodeConfig) (n : Node C) (r : NodeRequest) :
    Option (List NodeEvent × Node C) :=
  (CommandService.processCommand cfg r.env r.hdr n).run r.payload

end EmbeddedPixel
