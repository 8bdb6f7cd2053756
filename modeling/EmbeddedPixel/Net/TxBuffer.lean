import EmbeddedPixel.Foundation.Stores
import EmbeddedPixel.Net.NodeActions

/-!
# Responses as they are built

`processCommand` of `Net.CommandService` answers with frames.  Here it is once more, one level down: a
response is built in `tx_buf`, an array of the stack, by the stores of the source in their order, and what
is written to the client is what the array then holds.  `processCommand_eq` says that these are the bytes
of the frames, whatever was on the stack; a refused `CMD_OTA_BEGIN` is the one that shows it
(`noLeak_iff`).
-/

set_option autoImplicit false

namespace EmbeddedPixel

open Foundation ITelemetryChannel

/-! ## Stores of structures -/

/-- `strncpy` of a C string, all `n` bytes of it. -/
def strncpy (s : List UInt8) (n : Nat) : List UInt8 := s.take n ++ List.replicate (n - (s.take n).length) 0

namespace PE_Header

/-- The stores of `PopulateHeader`. -/
def stores (h : PE_Header) : Stores :=
  [(0, u16le h.magic), (2, [h.version]), (3, [h.flags]), (4, u16le h.nodeId), (6, u16le h.msgType),
    (8, u32le h.seqNum), (12, u16le h.payloadLen), (14, u16le h.crc16)]

theorem builds (h : PE_Header) : Builds h.stores 0 h.toBytes := by
  refine Builds.of_eq (.cons rfl (.cons rfl (.cons rfl (.cons rfl (.cons rfl (.cons rfl (.cons rfl
    (.single _ _)))))))) ?_
  rfl

end PE_Header

namespace PayloadAckNack

def stores (base : Nat) (p : PayloadAckNack) : Stores :=
  [(base, u16le p.cmdId), (base + 2, u16le p.statusCode), (base + 4, u32le p.resultData),
    (base + 8, u32le p.reserved)]

theorem builds (base : Nat) (p : PayloadAckNack) : Builds (p.stores base) base p.toBytes := by
  refine Builds.of_eq (.cons rfl (.cons rfl (.cons rfl (.single _ _)))) ?_
  rfl

end PayloadAckNack

namespace PayloadDiscoveryPong

def stores (base : Nat) (p : PayloadDiscoveryPong) : Stores :=
  [(base, u32le p.challengeId), (base + 4, u16le p.nodeId), (base + 6, u16le p.nodeState),
    (base + 8, u32le p.ipAddr), (base + 12, p.macAddr), (base + 18, u16le p.boardId),
    (base + 20, u32le p.fwVersion), (base + 24, u32le p.uptimeMs), (base + 28, u32le p.hwUid.1),
    (base + 32, u32le p.hwUid.2.1), (base + 36, u32le p.hwUid.2.2),
    (base + 40, u32le p.bootloaderVersion), (base + 44, u32le p.featureFlags)]

theorem builds (base : Nat) {p : PayloadDiscoveryPong} (hmac : p.macAddr.length = 6) :
    Builds (p.stores base) base p.toBytes := by
  have hend : base + 18 = base + 12 + p.macAddr.length := by omega
  refine Builds.of_eq (.cons rfl (.cons rfl (.cons rfl (.cons rfl (.cons hend (.cons rfl (.cons rfl
    (.cons rfl (.cons rfl (.cons rfl (.cons rfl (.cons rfl (.single _ _))))))))))))) ?_
  simp only [toBytes, List.append_assoc]

end PayloadDiscoveryPong

namespace PayloadOtaStatusResp

/-- The stores of `getStatus`. -/
def stores (base : Nat) (p : PayloadOtaStatusResp) : Stores :=
  [(base, u32le p.bytesWritten), (base + 4, u32le p.totalBytes), (base + 8, u16le p.state),
    (base + 10, u16le p.errorCode)]

theorem builds (base : Nat) (p : PayloadOtaStatusResp) : Builds (p.stores base) base p.toBytes := by
  refine Builds.of_eq (.cons rfl (.cons rfl (.cons rfl (.single _ _)))) ?_
  rfl

end PayloadOtaStatusResp

namespace StreamDescriptor

/-- The name is cleared and copied over. -/
def stores (base : Nat) (d : StreamDescriptor) : Stores :=
  [(base, u32le d.streamTag), (base + 4, List.replicate 16 0), (base + 4, strncpy d.name 15),
    (base + 20, u16le d.sampleRateHz), (base + 22, u16le d.batchCount),
    (base + 24, u16le d.channelCount), (base + 26, u16le d.sampleType), (base + 28, [d.isEnabled]),
    (base + 29, [0, 0, 0])]

/-- The stores of the descriptors, one after another. -/
def storesAll : Nat → List StreamDescriptor → Stores
  | _, [] => []
  | base, d :: ds => d.stores base ++ storesAll (base + 32) ds

@[simp] theorem length_toBytes (d : StreamDescriptor) : d.toBytes.length = 32 := by
  have hle : (d.name.take 15).length ≤ 15 := List.length_take_le 15 d.name
  unfold toBytes
  simp only [List.length_append, length_u32le, length_u16le, List.length_replicate, List.length_cons,
    List.length_nil]
  omega

/-- A name that was cleared and copied over. -/
theorem builds_name (base : Nat) (name : List UInt8) :
    Builds [(base, List.replicate 16 0), (base, strncpy name 15)] base
      (name.take 15 ++ List.replicate (16 - (name.take 15).length) 0) := by
  have hle : (name.take 15).length ≤ 15 := List.length_take_le 15 name
  have hlen : (strncpy name 15).length = 15 := by
    unfold strncpy
    rw [List.length_append, List.length_replicate]
    omega
  refine (Builds.overwrite (a := List.replicate 16 0) (b := strncpy name 15) ?_).of_eq ?_
  · rw [hlen]
    decide
  · rw [hlen]
    unfold strncpy
    rw [List.append_assoc, show List.drop 15 (List.replicate 16 (0 : UInt8)) = List.replicate 1 0 from rfl,
      List.replicate_append_replicate]
    congr 2
    omega

theorem builds (base : Nat) (d : StreamDescriptor) : Builds (d.stores base) base d.toBytes := by
  have hle : (d.name.take 15).length ≤ 15 := List.length_take_le 15 d.name
  have hend : base + 20 =
      base + 4 + (d.name.take 15 ++ List.replicate (16 - (d.name.take 15).length) (0 : UInt8)).length := by
    rw [List.length_append, List.length_replicate]
    omega
  refine Builds.of_eq (.cons rfl ((builds_name (base + 4) d.name).append hend (.cons rfl (.cons rfl
    (.cons rfl (.cons rfl (.cons rfl (.single _ _)))))))) ?_
  simp only [toBytes, List.append_assoc]
  rfl

theorem buildsAll (base : Nat) (ds : List StreamDescriptor) :
    Builds (storesAll base ds) base (ds.flatMap toBytes) := by
  induction ds generalizing base with
  | nil => exact .nil base
  | cons d ds ih =>
      rw [List.flatMap_cons]
      exact (d.builds base).append (by rw [length_toBytes]) (ih (base + 32))

end StreamDescriptor

/-- The stores of the body of a `CMD_GET_STREAMS_RESP`. -/
def getStreamsStores (base : Nat) (streams : List StreamDescriptor) : Stores :=
  [(base, u16le (UInt16.ofNat streams.length)), (base + 2, u16le 0)] ++
    StreamDescriptor.storesAll (base + 4) streams

theorem length_getStreamsResp (streams : List StreamDescriptor) :
    (getStreamsResp streams).length = 4 + streams.length * 32 := by
  have hall : (streams.flatMap StreamDescriptor.toBytes).length = streams.length * 32 := by
    induction streams with
    | nil => rfl
    | cons d ds ih =>
        rw [List.flatMap_cons, List.length_append, StreamDescriptor.length_toBytes, ih,
          List.length_cons]
        omega
  unfold getStreamsResp
  rw [List.length_append, hall]
  rfl

theorem getStreams_builds (base : Nat) (streams : List StreamDescriptor) :
    Builds (getStreamsStores base streams) base (getStreamsResp streams) := by
  refine Builds.of_eq (.cons rfl (.cons rfl (StreamDescriptor.buildsAll (base + 4) streams))) ?_
  simp only [getStreamsResp, List.append_assoc]

namespace PayloadCliExecResp

/-- The stores of a response and its text. -/
def stores (base : Nat) (p : PayloadCliExecResp) (text : List UInt8) : Stores :=
  [(base, u16le p.statusCode), (base + 2, u16le p.respLen), (base + 4, text)]

theorem builds (base : Nat) (p : PayloadCliExecResp) (text : List UInt8) :
    Builds (p.stores base text) base (p.toBytes ++ text) := by
  refine Builds.of_eq (.cons rfl (.cons rfl (.single _ _))) ?_
  simp only [toBytes, List.append_assoc]

end PayloadCliExecResp

/-- The stores `handleBegin` makes into its response: a refusal stores the status alone. -/
def beginStores (base : Nat) (sysCtrl : Option SystemController) (req : PayloadOtaBegin) : Stores :=
  match OtaService.beginError sysCtrl req with
  | some e => [(base, u32le e.code.toUInt32)]
  | none =>
    [(base, u32le StatusCode.ok.code.toUInt32), (base + 4, u16le 1024),
      (base + 6, u16le (OtaService.MAX_IMAGE_SIZE / 1024).toUInt16)]

/-! ## The command service -/

/-- What goes out of the node, as bytes. -/
inductive TxEvent where
  | write (bytes : List UInt8)
  | reset
  deriving DecidableEq

namespace TxBuffer

variable {C : Type} [ITelemetryChannel C] (cfg : NodeConfig) (env : Env) (hdr : PE_Header) (n : Node C)

/-- What is sent and the node after it. -/
abbrev Sent (C : Type) := List TxEvent × Node C

/-- `PopulateHeader` into a `tx_buf` with its body, and the write. -/
def transmit (type : MessageType) (flags : UInt8) (body : Stores) (payloadLen : UInt16) : Sent C :=
  let seqNum := n.seqNum + 1
  let hdr := populateHeader cfg.nodeId type seqNum payloadLen flags false none
  let txBuf := env.stack.build (body ++ hdr.stores)
  ([.write (bytesAt txBuf 0 (16 + payloadLen.toNat))], { n with seqNum := seqNum })

/-- `sendAckNack`. -/
def sendAckNack (cmdId : UInt16) (status : StatusCode) (resultCode : UInt32) : Sent C :=
  transmit cfg env n (if status = .ok then .cmdAck else .cmdNack)
    (if status ≠ .ok then FLAG_IS_RESPONSE ||| FLAG_ERROR else FLAG_IS_RESPONSE)
    (PayloadAckNack.stores 16 ⟨cmdId, status.code, resultCode, 0⟩) 12

/-- `CMD_GET_NODE_INFO`. -/
def getNodeInfo : Sent C :=
  let ctrl := cfg.wiring.commandSysCtrl
  let pong : PayloadDiscoveryPong :=
    { challengeId := 0
      nodeId := cfg.nodeId
      nodeState := n.discovery.state.code
      ipAddr := env.ipAddr
      macAddr := env.macAddr
      boardId := if ctrl then n.sysCtrl.getBoardId else n.discovery.boardId
      fwVersion := if ctrl then n.sysCtrl.getAppVersion else n.discovery.fwVersion
      uptimeMs := env.uptimeMs 0
      hwUid := env.hwUid
      bootloaderVersion :=
        if ctrl then n.sysCtrl.getBootloaderVersion else n.discovery.bootloaderVersion
      featureFlags := if ctrl then n.sysCtrl.featureFlags else n.discovery.featureFlags }
  transmit cfg env n .cmdGetNodeInfoResp FLAG_IS_RESPONSE (pong.stores 16) 48

/-- `CMD_START_STREAM`. -/
def startStream : Reader (Sent C) := do
  let cmd ← CommandService.payloadCommand hdr
  let (streamTag, sampleRate, batchCount) := CommandService.startParams cmd
  let n :=
    { n with
      telemetry :=
        n.telemetry.startStreaming IPADDR_BROADCAST PORT_STREAM streamTag sampleRate batchCount }
  pure (sendAckNack cfg env (n.setDiscoveryState .streaming) hdr.msgType .ok sampleRate.toUInt32)

/-- `CMD_STOP_STREAM`. -/
def stopStream : Reader (Sent C) := do
  let cmd ← CommandService.payloadCommand hdr
  let n := { n with telemetry := n.telemetry.stopStreaming (CommandService.stopParam cmd) }
  let n := if !n.telemetry.isStreaming then n.setDiscoveryState .idle else n
  pure (sendAckNack cfg env n hdr.msgType .ok 0)

/-- `CMD_GET_STREAMS`. -/
def getStreams : Sent C :=
  let streams := n.telemetry.channels.map CommandService.streamDescriptor
  transmit cfg env n .cmdGetStreamsResp FLAG_IS_RESPONSE (getStreamsStores 16 streams)
    (UInt16.ofNat (4 + streams.length * 32))

/-- The checks that the OTA requests with a payload share. -/
def otaRequest (size : UInt16) (serve : Reader (Option (Sent C))) : Reader (Option (Sent C)) :=
  if !cfg.wiring.commandOta then pure (some (sendAckNack cfg env n hdr.msgType .errInternal 0))
  else if hdr.payloadLen < size then
    pure (some (sendAckNack cfg env n hdr.msgType .errInvalidPayload 0))
  else serve

/-- `CMD_OTA_BEGIN`. -/
def otaBegin : Reader (Option (Sent C)) :=
  otaRequest cfg env hdr n 16 do
    let req ← Reader.view 0 16 PayloadOtaBegin.ofPtr
    let sysCtrl := n.otaSysCtrl cfg.wiring
    let (status, _, ota) := OtaService.handleBegin cfg.layout sysCtrl req ⟨0, 0, 0⟩ n.ota
    let flags := if status ≠ .ok then FLAG_IS_RESPONSE ||| FLAG_ERROR else FLAG_IS_RESPONSE
    pure (some (transmit cfg env { n with ota := ota } .cmdOtaBeginResp flags
      (beginStores 16 sysCtrl req) 8))

/-- `CMD_OTA_DATA`. -/
def otaData : Reader (Option (Sent C)) :=
  otaRequest cfg env hdr n 8 do
    let req ← Reader.view 0 8 PayloadOtaData.ofPtr
    let result ←
      (OtaService.handleData cfg.layout (n.otaSysCtrl cfg.wiring) req req.chunkLen n.ota).advance 8
    pure (result.map fun (status, ota) =>
      sendAckNack cfg env { n with ota := ota } hdr.msgType status
        (req.offset + req.chunkLen.toUInt32))

/-- `CMD_OTA_END`. -/
def otaEnd : Reader (Option (Sent C)) :=
  otaRequest cfg env hdr n 8 do
    let req ← Reader.view 0 8 PayloadOtaEnd.ofPtr
    let (status, ota) := OtaService.handleEnd cfg.layout req n.ota
    let (events, n) := sendAckNack cfg env { n with ota := ota } hdr.msgType status 0
    pure (some (if ota.svc.rebootPending then events ++ [.reset] else events, n))

/-- `CMD_OTA_GET_STATUS`. -/
def otaGetStatus : Sent C :=
  if !cfg.wiring.commandOta then sendAckNack cfg env n hdr.msgType .errInternal 0
  else
    transmit cfg env n .cmdOtaGetStatusResp FLAG_IS_RESPONSE (n.ota.svc.getStatus.stores 16) 12

/-- `CMD_OTA_ABORT`. -/
def otaAbort : Sent C :=
  let n :=
    if cfg.wiring.commandOta then { n with ota := (OtaService.handleAbort n.ota).2 } else n
  sendAckNack cfg env n hdr.msgType .ok 0

/-- `CMD_CLI_EXEC`. -/
def cliExec : Reader (Sent C) :=
  if !cfg.wiring.commandCli then pure (sendAckNack cfg env n hdr.msgType .errInternal 0)
  else do
    let text ← CommandService.cliText hdr
    pure <|
      match CliEngine.execute cfg.wiring env n 512 text with
      | .reset n => ([.reset], n)
      | .text out n =>
        transmit cfg env n .cmdCliExecResp FLAG_IS_RESPONSE
          (PayloadCliExecResp.stores 16 ⟨StatusCode.ok.code, UInt16.ofNat out.length⟩ out)
          (UInt16.ofNat (4 + out.length))

/-- `CMD_REBOOT`. -/
def reboot : Sent C :=
  let (events, n) := sendAckNack cfg env n hdr.msgType .ok 0
  (events ++ [.reset], n)

/-- `processCommand`. -/
def processCommand : Reader (Option (Sent C)) :=
  match MessageType.ofCode hdr.msgType with
  | some .cmdGetNodeInfo => pure (some (getNodeInfo cfg env n))
  | some .cmdStartStream => some <$> startStream cfg env hdr n
  | some .cmdStopStream => some <$> stopStream cfg env hdr n
  | some .cmdGetStreams => pure (some (getStreams cfg env n))
  | some .cmdOtaBegin => otaBegin cfg env hdr n
  | some .cmdOtaData => otaData cfg env hdr n
  | some .cmdOtaEnd => otaEnd cfg env hdr n
  | some .cmdOtaGetStatus => pure (some (otaGetStatus cfg env hdr n))
  | some .cmdOtaAbort => pure (some (otaAbort cfg env hdr n))
  | some .cmdCliExec => some <$> cliExec cfg env hdr n
  | some .cmdReboot => pure (some (reboot cfg env hdr n))
  | _ => pure (some (sendAckNack cfg env n hdr.msgType .errUnknownCmd 0))

/-! ## The bytes of the frames -/

/-- What a frame is on the wire. -/
def wire : NodeEvent → TxEvent
  | .reply frame => .write frame.toBytes
  | .reset => .reset

/-- An answer on the wire. -/
def onWire (s : CommandService.Reply C) : Sent C := (s.1.map wire, s.2)

section

omit [ITelemetryChannel C]

/-- **A body is sent as a frame**: what its stores build, and what was on the stack after it. -/
theorem transmit_eq {body : Stores} {built : List UInt8} (hbody : Builds body 16 built)
    (type : MessageType) (flags : UInt8) {payloadLen : UInt16} (k : Nat)
    (hlen : payloadLen.toNat = built.length + k) :
    transmit cfg env n type flags body payloadLen =
      onWire (CommandService.send cfg n type flags
        (built ++ bytesAt env.stack (16 + built.length) k)) := by
  have hofNat : payloadLen =
      UInt16.ofNat (built ++ bytesAt env.stack (16 + built.length) k).length := by
    rw [List.length_append, length_bytesAt, ← hlen, UInt16.ofNat_toNat]
  unfold transmit CommandService.send onWire
  dsimp only
  rw [← hofNat]
  generalize populateHeader cfg.nodeId type (n.seqNum + 1) payloadLen flags false none = h
  have hframe : Builds (body ++ h.stores) 0 (h.toBytes ++ built) := hbody.append_swap h.builds rfl
  have hsent := hframe.bytesAt_build_add env.stack k
  rw [List.length_append, PE_Header.length_toBytes, Nat.zero_add, Nat.add_assoc, ← hlen,
    List.append_assoc] at hsent
  rw [hsent]
  rfl

/-- A body that its stores build is sent whatever was on the stack. -/
theorem transmit_built {body : Stores} {payload : List UInt8} (hbody : Builds body 16 payload)
    (type : MessageType) (flags : UInt8) {payloadLen : UInt16}
    (hlen : payloadLen.toNat = payload.length) :
    transmit cfg env n type flags body payloadLen =
      onWire (CommandService.send cfg n type flags payload) := by
  rw [transmit_eq cfg env n hbody type flags 0 hlen, bytesAt_zero, List.append_nil]

theorem sendAckNack_eq (cmdId : UInt16) (status : StatusCode) (resultCode : UInt32) :
    sendAckNack cfg env n cmdId status resultCode =
      onWire (CommandService.sendAckNack cfg n cmdId status resultCode) :=
  transmit_built cfg env n (PayloadAckNack.builds 16 _) _ _ rfl

theorem getNodeInfo_eq : getNodeInfo cfg env n = onWire (CommandService.getNodeInfo cfg env n) := by
  refine transmit_built cfg env n (PayloadDiscoveryPong.builds 16 env.macAddr_length) _ _ ?_
  simp [PayloadDiscoveryPong.toBytes, env.macAddr_length]

theorem otaGetStatus_eq :
    otaGetStatus cfg env hdr n = onWire (CommandService.otaGetStatus cfg hdr n) := by
  unfold otaGetStatus CommandService.otaGetStatus
  split
  · exact sendAckNack_eq cfg env n _ _ _
  · exact transmit_built cfg env n (PayloadOtaStatusResp.builds 16 _) _ _ rfl

/-- A response with a reset after it. -/
theorem onWire_append_reset (s : CommandService.Reply C) :
    onWire (s.1 ++ [.reset], s.2) = ((onWire s).1 ++ [.reset], (onWire s).2) := by
  unfold onWire
  rw [List.map_append]
  rfl

/-- An OTA request is on the wire what its service is. -/
theorem otaRequest_eq (size : UInt16) {serve : Reader (Option (Sent C))}
    {serve' : Reader (Option (CommandService.Reply C))} (p : BytePtr)
    (h : serve.run p = (serve'.run p).map onWire) :
    (otaRequest cfg env hdr n size serve).run p =
      ((CommandService.otaRequest cfg hdr n size serve').run p).map onWire := by
  unfold otaRequest CommandService.otaRequest
  split
  · rw [sendAckNack_eq]
    rfl
  split
  · rw [sendAckNack_eq]
    rfl
  · exact h

/-- The response to a begin: an acceptance builds all of it, a refusal its status only. -/
theorem begin_transmit_eq (sysCtrl : Option SystemController) (req : PayloadOtaBegin)
    (flags : UInt8) (m : OtaMachine) :
    transmit cfg env n .cmdOtaBeginResp flags (beginStores 16 sysCtrl req) 8 =
      onWire (CommandService.send cfg n .cmdOtaBeginResp flags
        (OtaService.handleBegin cfg.layout sysCtrl req
          (PayloadOtaBeginResp.ofPtr (env.stack.advance 16)) m).2.1.toBytes) := by
  unfold beginStores OtaService.handleBegin
  cases OtaService.beginError sysCtrl req with
  | none =>
      refine transmit_built cfg env n ?_ _ _ rfl
      refine Builds.of_eq (.cons rfl (.cons rfl (.single _ _))) ?_
      rfl
  | some e =>
      have hrest : bytesAt env.stack 20 4 =
          u16le (u16At (env.stack.advance 16) 4) ++ u16le (u16At (env.stack.advance 16) 6) := by
        rw [u16le_u16At, u16le_u16At, bytesAt_advance, bytesAt_advance]
        exact bytesAt_add env.stack 20 2 2
      rw [transmit_eq cfg env n (.single 16 _) _ _ 4 rfl, length_u32le, hrest]
      rfl

/-- What `handleBegin` does, beside its response, does not depend on it. -/
theorem handleBegin_resp (L : Layout) (sysCtrl : Option SystemController) (req : PayloadOtaBegin)
    (resp resp' : PayloadOtaBeginResp) (m : OtaMachine) :
    (OtaService.handleBegin L sysCtrl req resp m).1 = (OtaService.handleBegin L sysCtrl req resp' m).1 ∧
      (OtaService.handleBegin L sysCtrl req resp m).2.2 =
        (OtaService.handleBegin L sysCtrl req resp' m).2.2 := by
  unfold OtaService.handleBegin
  cases OtaService.beginError sysCtrl req with
  | none => exact ⟨rfl, rfl⟩
  | some e => exact ⟨rfl, rfl⟩

theorem otaBegin_eq (p : BytePtr) :
    (otaBegin cfg env hdr n).run p =
      ((CommandService.otaBegin cfg env hdr n).run p).map onWire := by
  refine otaRequest_eq cfg env hdr n 16 p ?_
  rw [Reader.run_bind, Reader.run_bind]
  generalize (Reader.view 0 16 PayloadOtaBegin.ofPtr).run p = req
  obtain ⟨hst, hota⟩ := handleBegin_resp cfg.layout (n.otaSysCtrl cfg.wiring) req ⟨0, 0, 0⟩
    (PayloadOtaBeginResp.ofPtr (env.stack.advance 16)) n.ota
  rw [Reader.run_pure, hst, hota]
  exact congrArg some (begin_transmit_eq cfg env _ _ _ _ _)

theorem otaData_eq (p : BytePtr) :
    (otaData cfg env hdr n).run p = ((CommandService.otaData cfg hdr n).run p).map onWire := by
  refine otaRequest_eq cfg env hdr n 8 p ?_
  simp only [Reader.run_bind, Reader.run_pure, Option.map_map, sendAckNack_eq]
  rfl

theorem otaEnd_eq (p : BytePtr) :
    (otaEnd cfg env hdr n).run p = ((CommandService.otaEnd cfg hdr n).run p).map onWire := by
  refine otaRequest_eq cfg env hdr n 8 p ?_
  simp only [Reader.run_bind, Reader.run_pure, Option.map_some, sendAckNack_eq]
  split
  · rw [← onWire_append_reset]
  · rfl

end

theorem getStreams_eq : getStreams cfg env n = onWire (CommandService.getStreams cfg n) := by
  have hcount : n.telemetry.channels.length ≤ 8 := n.telemetry.channels_le
  refine transmit_built cfg env n (getStreams_builds 16 _) _ _ ?_
  rw [length_getStreamsResp, List.length_map, UInt16.toNat_ofNat']
  omega

theorem startStream_eq (p : BytePtr) :
    (startStream cfg env hdr n).run p = onWire ((CommandService.startStream cfg hdr n).run p) := by
  unfold startStream CommandService.startStream
  simp only [Reader.run_bind, Reader.run_pure, sendAckNack_eq]

theorem stopStream_eq (p : BytePtr) :
    (stopStream cfg env hdr n).run p = onWire ((CommandService.stopStream cfg hdr n).run p) := by
  unfold stopStream CommandService.stopStream
  simp only [Reader.run_bind, Reader.run_pure, sendAckNack_eq]

theorem cliExec_eq (p : BytePtr) :
    (cliExec cfg env hdr n).run p = onWire ((CommandService.cliExec cfg env hdr n).run p) := by
  unfold cliExec CommandService.cliExec
  split
  · exact sendAckNack_eq cfg env n _ _ _
  · rw [Reader.run_bind, Reader.run_bind, Reader.run_pure, Reader.run_pure]
    have hfits :=
      (CliEngine.does_execute cfg.wiring env n 512 ((CommandService.cliText hdr).run p)).fits
    generalize CliEngine.execute cfg.wiring env n 512 ((CommandService.cliText hdr).run p) = result
      at hfits
    cases result with
    | text out n' =>
        have hlen : out.length ≤ 511 := hfits out n' rfl
        refine transmit_built cfg env n' (PayloadCliExecResp.builds 16 _ out) _ _ ?_
        rw [UInt16.toNat_ofNat', List.length_append]
        show _ = 4 + out.length
        omega
    | reset n' => rfl

/-- **What is sent are the bytes of the frames.** -/
theorem processCommand_eq (p : BytePtr) :
    (processCommand cfg env hdr n).run p =
      ((CommandService.processCommand cfg env hdr n).run p).map onWire := by
  unfold processCommand CommandService.processCommand
  generalize MessageType.ofCode hdr.msgType = type
  split
  · rw [getNodeInfo_eq]
    rfl
  · rw [Reader.run_map, Reader.run_map, startStream_eq]
    rfl
  · rw [Reader.run_map, Reader.run_map, stopStream_eq]
    rfl
  · rw [getStreams_eq]
    rfl
  · exact otaBegin_eq cfg env hdr n p
  · exact otaData_eq cfg env hdr n p
  · exact otaEnd_eq cfg env hdr n p
  · rw [otaGetStatus_eq]
    rfl
  · unfold otaAbort CommandService.otaAbort
    rw [sendAckNack_eq]
    rfl
  · rw [Reader.run_map, Reader.run_map, cliExec_eq]
    rfl
  · unfold reboot CommandService.reboot
    rw [sendAckNack_eq]
    generalize CommandService.sendAckNack cfg n hdr.msgType .ok 0 = s
    exact congrArg some (onWire_append_reset s).symm
  · rw [sendAckNack_eq]
    simp [*]

end TxBuffer

/-! ## What the stack shows -/

/-- The request, met with other contents of the stack. -/
def NodeRequest.withStack (r : NodeRequest) (stack : BytePtr) : NodeRequest :=
  { r with env := { r.env with stack := stack } }

namespace TxBuffer

variable {C : Type} [ITelemetryChannel C] {cfg : NodeConfig} {n : Node C} {r : NodeRequest}

/-- What a request sends. -/
def sent (cfg : NodeConfig) (n : Node C) (r : NodeRequest) : Option (List TxEvent) :=
  ((processCommand cfg r.env r.hdr n).run r.payload).map (·.1)

/-- Two executions that differ only in what was on the stack send the same. -/
def NoLeak (cfg : NodeConfig) (n : Node C) (r : NodeRequest) : Prop :=
  ∀ stack stack' : BytePtr, sent cfg n (r.withStack stack) = sent cfg n (r.withStack stack')

omit [ITelemetryChannel C] in
/-- A `CMD_OTA_BEGIN` that reaches the service and is refused there. -/
structure RefusedBegin (cfg : NodeConfig) (n : Node C) (r : NodeRequest) : Prop where
  type : MessageType.ofCode r.hdr.msgType = some .cmdOtaBegin
  wired : cfg.wiring.commandOta = true
  long : 16 ≤ r.hdr.payloadLen
  refused : OtaService.beginError (n.otaSysCtrl cfg.wiring) (PayloadOtaBegin.ofPtr r.payload) ≠ none

/-- The response to a refused begin ends with four bytes of the stack. -/
theorem sent_refused (h : RefusedBegin cfg n r) :
    ∃ pre, ∀ stack, sent cfg n (r.withStack stack) = some [.write (pre ++ bytesAt stack 20 4)] := by
  obtain ⟨e, he⟩ := Option.ne_none_iff_exists'.1 h.refused
  have hview := CommandService.view_otaBegin r.payload
  refine ⟨(populateHeader cfg.nodeId .cmdOtaBeginResp (n.seqNum + 1) 8
    (if e ≠ .ok then FLAG_IS_RESPONSE ||| FLAG_ERROR else FLAG_IS_RESPONSE) false none).toBytes ++
      u32le e.code.toUInt32, fun stack => ?_⟩
  unfold sent processCommand
  rw [show (r.withStack stack).hdr = r.hdr from rfl, show (r.withStack stack).payload = r.payload from rfl,
    h.type]
  unfold otaBegin otaRequest
  rw [if_neg (by simp [h.wired]), if_neg (UInt16.not_lt.2 h.long), Reader.run_bind, hview]
  unfold OtaService.handleBegin beginStores transmit
  dsimp only
  rw [he]
  generalize populateHeader cfg.nodeId .cmdOtaBeginResp _ 8 _ false none = h'
  have hframe : Builds ([(16, u32le e.code.toUInt32)] ++ h'.stores) 0
      (h'.toBytes ++ u32le e.code.toUInt32) := (Builds.single 16 _).append_swap h'.builds rfl
  have hsent := hframe.bytesAt_build_add stack 4
  exact congrArg (fun bytes => some [TxEvent.write bytes]) hsent

omit [ITelemetryChannel C] in
/-- A begin that is not refused by the service does not read the stack. -/
theorem otaBegin_withStack (env : Env) (stack : BytePtr) (hdr : PE_Header) (p : BytePtr)
    (h : cfg.wiring.commandOta = true → 16 ≤ hdr.payloadLen →
      OtaService.beginError (n.otaSysCtrl cfg.wiring) (PayloadOtaBegin.ofPtr p) = none) :
    (CommandService.otaBegin cfg { env with stack := stack } hdr n).run p =
      (CommandService.otaBegin cfg env hdr n).run p := by
  unfold CommandService.otaBegin CommandService.otaRequest
  split
  · rfl
  split
  · rfl
  rename_i hota hlen
  have hnone := h (by simpa using hota) (UInt16.not_lt.1 hlen)
  rw [Reader.run_bind, Reader.run_bind, CommandService.view_otaBegin]
  unfold OtaService.handleBegin
  rw [hnone]

/-- Other requests do not read the stack. -/
theorem processCommand_withStack (h : ¬ RefusedBegin cfg n r) (stack : BytePtr) :
    (CommandService.processCommand cfg (r.withStack stack).env r.hdr n).run r.payload =
      (CommandService.processCommand cfg r.env r.hdr n).run r.payload := by
  unfold CommandService.processCommand
  generalize htype : MessageType.ofCode r.hdr.msgType = type
  split
  · rfl
  · rfl
  · rfl
  · rfl
  · refine otaBegin_withStack r.env stack r.hdr r.payload fun hota hlen => ?_
    by_contra hne
    exact h ⟨htype, hota, hlen, hne⟩
  · rfl
  · rfl
  · rfl
  · rfl
  · rfl
  · rfl
  · simp [*]

/-- **When a response shows the stack**: exactly if it refuses a `CMD_OTA_BEGIN`. -/
theorem noLeak_iff (cfg : NodeConfig) (n : Node C) :
    (∀ (cmdId : UInt16) (status : StatusCode) (resultCode : UInt32) (env : Env) (stack : BytePtr),
        (sendAckNack cfg { env with stack := stack } n cmdId status resultCode).1 =
          (sendAckNack cfg env n cmdId status resultCode).1) ∧
      ∀ r, NoLeak cfg n r ↔ ¬ RefusedBegin cfg n r := by
  refine ⟨fun cmdId status resultCode env stack => ?_, fun r => ⟨fun h hrefused => ?_, fun h => ?_⟩⟩
  · rw [sendAckNack_eq, sendAckNack_eq]
  · obtain ⟨pre, hpre⟩ := sent_refused hrefused
    have hsame := h (fun _ => 0) (fun _ => 1)
    rw [hpre, hpre, Option.some.injEq, List.cons.injEq, TxEvent.write.injEq] at hsame
    have hstack : bytesAt (fun _ => 0) 20 4 = bytesAt (fun _ => 1) 20 4 :=
      List.append_cancel_left hsame.1
    exact absurd hstack (by decide)
  · have hany : ∀ stack, sent cfg n (r.withStack stack) = sent cfg n r := by
      intro stack
      unfold sent
      rw [processCommand_eq, processCommand_eq]
      exact congrArg (fun s => (s.map onWire).map (·.1)) (processCommand_withStack h stack)
    intro stack stack'
    rw [hany, hany]

/-- A `CMD_OTA_BEGIN` for an image without bytes. -/
def emptyBegin : NodeRequest where
  env := .zero
  hdr := populateHeader 0 .cmdOtaBegin 1 16 0 false none
  payload := fun _ => 0

/-- Its response shows four bytes of the stack. -/
theorem emptyBegin_leaks :
    ¬ ∀ (cfg : NodeConfig) (n : Node BoardChannel) (r : NodeRequest), NoLeak cfg n r := by
  intro h
  have hsame := h ⟨Layout.lowest, Wiring.ethernetdev, 1⟩ Node.board emptyBegin (fun _ => 0) (fun _ => 1)
  have hdiffer : sent ⟨Layout.lowest, Wiring.ethernetdev, 1⟩ Node.board
        (emptyBegin.withStack fun _ => 0) ≠
      sent ⟨Layout.lowest, Wiring.ethernetdev, 1⟩ Node.board (emptyBegin.withStack fun _ => 1) := by
    decide +kernel
  exact hdiffer hsame

end TxBuffer

end EmbeddedPixel
