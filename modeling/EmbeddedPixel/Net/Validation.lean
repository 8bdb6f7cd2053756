import EmbeddedPixel.Net.Discovery
import EmbeddedPixel.Net.Framing
import EmbeddedPixel.Net.NodeActions
import EmbeddedPixel.Net.OtaHistory

/-!
# What the two ports check

`PacketHelper` has a check of the header and one of the payload's checksum.  The discovery port makes
the first, the command port neither: `ports_validate_iff` says for which frames and datagrams it makes
no difference.
-/

set_option autoImplicit false

namespace EmbeddedPixel

open Foundation

/-- A frame with as much payload as its header says. -/
structure WireFrame extends Frame where
  payload_length : payload.length = hdr.payloadLen.toNat

/-- `PacketHelper` accepts the header and the payload. -/
def WireFrame.Valid (f : WireFrame) : Prop :=
  validateHeader f.hdr f.toBytes.length = .ok ∧
    validatePayloadCrc f.hdr (BytePtr.ofList f.payload) = true

/-! ## The command port -/

/-- A response that reports an error. -/
def NodeEvent.isError : NodeEvent → Bool
  | .reply frame => frame.hdr.flags &&& FLAG_ERROR != 0
  | .reset => false

/-- The node did more about a request than to refuse it: it answered without an error, was reset, or
changed beside the sequence number.  A request without a meaning may do anything. -/
def Dispatched {C : Type} (n : Node C) : Option (List NodeEvent × Node C) → Prop
  | none => True
  | some (events, n') => (∃ e ∈ events, e.isError = false) ∨ { n' with seqNum := n.seqNum } ≠ n

/-- How much payload a command has at least; `none` is no command. -/
def commandSize : MessageType → Option Nat
  | .cmdGetNodeInfo => some 0
  | .cmdStartStream => some 0
  | .cmdStopStream => some 0
  | .cmdGetStreams => some 0
  | .cmdOtaBegin => some 16
  | .cmdOtaData => some 8
  | .cmdOtaEnd => some 8
  | .cmdOtaGetStatus => some 0
  | .cmdOtaAbort => some 0
  | .cmdCliExec => some 0
  | .cmdReboot => some 0
  | _ => none

/-- A command with enough payload. -/
def IsCommand (hdr : PE_Header) : Prop :=
  ∃ type size, MessageType.ofCode hdr.msgType = some type ∧ commandSize type = some size ∧
    size ≤ hdr.payloadLen.toNat

/-- A frame that arrives at the command port is taken up only if it is valid, in every reachable state
of a node and wherever the network cuts the stream. -/
def TcpValidates (C : Type) [ITelemetryChannel C] (cfg : NodeConfig) (f : WireFrame) : Prop :=
  ∀ (ram : Mem 32) (ctrl : SystemController) (period : UInt32) (telemetry : TelemetryService C)
    (discovery : DiscoveryService) (t : List (NodeAction × List NodeEvent)) (n : Node C),
    Machine.Run (Node.act cfg) (Node.powerUp ram ctrl period telemetry discovery) t n →
      ∀ (reader : NetconnStreamReader) (payloadBuffer : BytePtr) (more : List UInt8),
        reader.unread = f.toBytes ++ more →
          ∀ action ∈ (CommandService.clientTurn reader payloadBuffer).1, ∀ env,
            Dispatched n (n.serveAction cfg env action) → f.Valid

namespace CommandService

variable {C : Type} {cfg : NodeConfig} {n : Node C}

/-- Any answer but a `CMD_NACK` is one without an error. -/
theorem dispatched_send {m : Node C} {type : MessageType} {payload : List UInt8} {n' : Node C}
    (rest : List NodeEvent) :
    Dispatched n (some ((send cfg m type FLAG_IS_RESPONSE payload).1 ++ rest, n')) := by
  refine Or.inl ⟨_, List.mem_append_left _ (List.mem_singleton.2 rfl), ?_⟩
  show (FLAG_IS_RESPONSE &&& FLAG_ERROR != 0) = false
  decide

theorem dispatched_ack {m : Node C} {id : UInt16} {rc : UInt32} {n' : Node C}
    (rest : List NodeEvent) : Dispatched n (some ((sendAckNack cfg m id .ok rc).1 ++ rest, n')) :=
  dispatched_send rest

/-- An acknowledgement with a reset after it, if one is due. -/
theorem dispatched_ack_reset {m : Node C} {id : UInt16} {rc : UInt32} {due : Bool} {n' : Node C} :
    Dispatched n (some (if due then (sendAckNack cfg m id .ok rc).1 ++ [.reset]
      else (sendAckNack cfg m id .ok rc).1, n')) := by
  cases due with
  | true => exact dispatched_ack [.reset]
  | false => exact dispatched_ack []

theorem not_dispatched_nack {id : UInt16} {st : StatusCode} {rc : UInt32} (hst : st ≠ .ok) :
    ¬ Dispatched n (some (sendAckNack cfg n id st rc)) := by
  unfold sendAckNack
  rw [if_neg hst, if_pos hst]
  rintro (⟨e, he, herr⟩ | hne)
  · rw [List.mem_singleton.1 he] at herr
    have herr : ((FLAG_IS_RESPONSE ||| FLAG_ERROR) &&& FLAG_ERROR != 0) = false := herr
    exact absurd herr (by decide)
  · exact hne rfl

/-- A change of the OTA service is a change of the node. -/
theorem dispatched_of_ota {events : List NodeEvent} {n' : Node C} (h : n'.ota ≠ n.ota) :
    Dispatched n (some (events, n')) := by
  refine Or.inr fun hsame => h ?_
  rw [← hsame]

/-! ### A session takes up every OTA request -/

theorem headerError_ne_ok {c : Option SystemController} {p : BytePtr} :
    OtaService.headerError c p ≠ some .ok := by
  unfold OtaService.headerError
  dsimp only
  split
  · split
    · decide
    split
    · decide
    split
    · decide
    · decide
  · decide

/-- A chunk for a session is accepted, or the error is kept. -/
theorem handleData_receiving {L : Layout} {c : Option SystemController} {req : PayloadOtaData}
    {dataLen : UInt16} {m m' : OtaMachine} {st : StatusCode} {p : BytePtr}
    (hs : m.svc.state = .receiving)
    (h : (OtaService.handleData L c req dataLen m).run p = some (st, m')) :
    st = .ok ∨ st ≠ .ok ∧ m'.svc.lastError = st := by
  unfold OtaService.handleData at h
  rw [if_neg (not_not.2 hs)] at h
  split at h
  · cases h
    exact Or.inr ⟨by decide, rfl⟩
  · rw [Reader.run_bind] at h
    split at h
    · rw [Reader.run_bind, Reader.run_pure] at h
      unfold OtaService.copyChunk at h
      split at h
      · cases h
      dsimp only at h
      split at h
      · split at h
        · rename_i e he
          cases h
          exact Or.inr ⟨fun hok => headerError_ne_ok (hok ▸ he), rfl⟩
        · cases h
          exact Or.inl rfl
      · cases h
        exact Or.inl rfl
    · cases h
      exact Or.inr ⟨by decide, rfl⟩

section Session

variable {r : NodeRequest} {size : UInt16} {serve : Reader (Option (Reply C))}

/-- A long enough OTA request is served. -/
theorem run_otaRequest (hota : cfg.wiring.commandOta = true) (hsize : size ≤ r.hdr.payloadLen) :
    (otaRequest cfg r.hdr n size serve).run r.payload = serve.run r.payload := by
  unfold otaRequest
  rw [hota, if_neg (by simp), if_neg (UInt16.not_lt.2 hsize)]

/-- An OTA request that is dispatched is long enough. -/
theorem size_of_dispatched_otaRequest
    (h : Dispatched n ((otaRequest cfg r.hdr n size serve).run r.payload)) :
    size ≤ r.hdr.payloadLen := by
  by_contra hsize
  unfold otaRequest at h
  split at h
  · exact not_dispatched_nack (by decide) h
  · rw [if_pos (UInt16.not_le.1 hsize)] at h
    exact not_dispatched_nack (by decide) h

/-- A node whose OTA service is in a session that has seen no error. -/
def InSession (n : Node C) : Prop := n.ota.svc.state = .receiving ∧ n.ota.svc.lastError = .ok

theorem dispatched_otaBegin (hn : InSession n) (hota : cfg.wiring.commandOta = true)
    (hsize : 16 ≤ r.hdr.payloadLen) :
    Dispatched n ((otaBegin cfg r.env r.hdr n).run r.payload) := by
  unfold otaBegin
  rw [run_otaRequest hota hsize, Reader.run_bind, Reader.run_pure]
  generalize (Reader.view 0 16 PayloadOtaBegin.ofPtr).run r.payload = req
  unfold OtaService.handleBegin
  cases he : OtaService.beginError (n.otaSysCtrl cfg.wiring) req with
  | some e =>
      apply dispatched_of_ota
      intro hsame
      have herr := congrArg (fun m => m.svc.lastError) hsame
      have herr : e = .ok := herr.trans hn.2
      exact OtaMachine.beginError_ne_ok (herr ▸ he)
  | none => exact dispatched_send []

theorem dispatched_otaData (hn : InSession n) (hota : cfg.wiring.commandOta = true)
    (hsize : 8 ≤ r.hdr.payloadLen) : Dispatched n ((otaData cfg r.hdr n).run r.payload) := by
  unfold otaData
  rw [run_otaRequest hota hsize, Reader.run_bind, Reader.run_bind, Reader.run_pure,
    Reader.run_advance]
  generalize (Reader.view 0 8 PayloadOtaData.ofPtr).run r.payload = req
  cases hdata : (OtaService.handleData cfg.layout (n.otaSysCtrl cfg.wiring) req req.chunkLen
      n.ota).run (r.payload.advance 8) with
  | none => trivial
  | some res =>
      obtain ⟨st, m⟩ := res
      rcases handleData_receiving hn.1 hdata with rfl | ⟨hst, herr⟩
      · exact dispatched_ack []
      · apply dispatched_of_ota
        intro hsame
        have hkept := congrArg (fun m => m.svc.lastError) hsame
        exact hst (herr.symm.trans (hkept.trans hn.2))

theorem dispatched_otaEnd (hn : InSession n) (hota : cfg.wiring.commandOta = true)
    (hsize : 8 ≤ r.hdr.payloadLen) : Dispatched n ((otaEnd cfg r.hdr n).run r.payload) := by
  unfold otaEnd
  rw [run_otaRequest hota hsize, Reader.run_bind, Reader.run_pure]
  generalize (Reader.view 0 8 PayloadOtaEnd.ofPtr).run r.payload = req
  unfold OtaService.handleEnd
  rw [if_neg (not_not.2 hn.1)]
  split
  · apply dispatched_of_ota
    intro hsame
    have hkept := congrArg (fun m => m.svc.state) hsame
    have hkept : InternalState.errorState = .receiving := hkept.trans hn.1
    cases hkept
  · exact dispatched_ack_reset

theorem dispatched_cliExec [ITelemetryChannel C] (hcli : cfg.wiring.commandCli = true) :
    Dispatched n (some ((cliExec cfg r.env r.hdr n).run r.payload)) := by
  unfold cliExec
  rw [hcli, if_neg (by simp), Reader.run_bind, Reader.run_pure]
  cases CliEngine.execute cfg.wiring r.env n 512 ((cliText r.hdr).run r.payload) with
  | text out n' => exact dispatched_send []
  | reset n' => exact Or.inl ⟨.reset, List.mem_singleton.2 rfl, rfl⟩

end Session

/-- **In a session a node takes up every command.** -/
theorem dispatched_of_isCommand [ITelemetryChannel C] (hn : InSession n)
    (hw : cfg.wiring = .ethernetdev) {r : NodeRequest} (hcmd : IsCommand r.hdr) :
    Dispatched n (n.step cfg r) := by
  have hota : cfg.wiring.commandOta = true := by rw [hw]; rfl
  have hcli : cfg.wiring.commandCli = true := by rw [hw]; rfl
  obtain ⟨type, size, htype, hsize, hle⟩ := hcmd
  unfold Node.step processCommand
  rw [htype]
  cases type with
  | cmdGetNodeInfo => exact dispatched_send []
  | cmdStartStream =>
      simp only [Reader.run_map]
      unfold startStream
      rw [Reader.run_bind, Reader.run_pure]
      exact dispatched_ack []
  | cmdStopStream =>
      simp only [Reader.run_map]
      unfold stopStream
      rw [Reader.run_bind, Reader.run_pure]
      exact dispatched_ack []
  | cmdGetStreams => exact dispatched_send []
  | cmdOtaBegin =>
      cases hsize
      exact dispatched_otaBegin hn hota hle
  | cmdOtaData =>
      cases hsize
      exact dispatched_otaData hn hota hle
  | cmdOtaEnd =>
      cases hsize
      exact dispatched_otaEnd hn hota hle
  | cmdOtaGetStatus =>
      simp only [Reader.run_pure]
      unfold otaGetStatus
      rw [hota, if_neg (by simp)]
      exact dispatched_send []
  | cmdOtaAbort => exact dispatched_ack []
  | cmdCliExec =>
      simp only [Reader.run_map]
      exact dispatched_cliExec hcli
  | cmdReboot => exact dispatched_ack [.reset]
  | _ => cases hsize

/-- Any other request is refused, in every state. -/
theorem isCommand_of_dispatched [ITelemetryChannel C] {r : NodeRequest}
    (h : Dispatched n (n.step cfg r)) : IsCommand r.hdr := by
  have command : ∀ type, MessageType.ofCode r.hdr.msgType = some type → commandSize type = some 0 →
      IsCommand r.hdr := fun type htype hsize => ⟨type, 0, htype, hsize, Nat.zero_le _⟩
  unfold Node.step processCommand at h
  split at h
  · exact command _ (by assumption) rfl
  · exact command _ (by assumption) rfl
  · exact command _ (by assumption) rfl
  · exact command _ (by assumption) rfl
  · exact ⟨_, 16, by assumption, rfl, size_of_dispatched_otaRequest h⟩
  · exact ⟨_, 8, by assumption, rfl, size_of_dispatched_otaRequest h⟩
  · exact ⟨_, 8, by assumption, rfl, size_of_dispatched_otaRequest h⟩
  · exact command _ (by assumption) rfl
  · exact command _ (by assumption) rfl
  · exact command _ (by assumption) rfl
  · exact command _ (by assumption) rfl
  · exact absurd h (not_dispatched_nack (by decide))

/-- What `handleClient` does about a frame that arrives. -/
theorem clientTurn_frame {f : WireFrame} {reader : NetconnStreamReader} {more : List UInt8}
    (payloadBuffer : BytePtr) (h : reader.unread = f.toBytes ++ more) :
    (clientTurn reader payloadBuffer).1.map ClientAction.received =
      if f.hdr.magic ≠ PE_MAGIC then some (.refused f.hdr.msgType .errInvalidMagic)
      else if f.hdr.payloadLen.toNat > 2048 then some (.refused f.hdr.msgType .errInvalidPayload)
      else some (.dispatched f.hdr f.payload) := by
  have hparse := clientTurn_eq_parseFrame reader payloadBuffer
  unfold Frame.toBytes at h
  rw [h, List.append_assoc, parseFrame_append f.hdr f.payload_length] at hparse
  have hfst := congrArg Prod.fst hparse
  dsimp only at hfst
  rw [hfst]
  split
  · rfl
  split
  · rfl
  · rfl

/-- A frame is dispatched only as a command that passes the checks of `handleClient`. -/
theorem isCommand_of_dispatched_frame [ITelemetryChannel C] {f : WireFrame}
    {reader : NetconnStreamReader} {payloadBuffer : BytePtr} {more : List UInt8}
    {action : ClientAction} {env : Env} (hunread : reader.unread = f.toBytes ++ more)
    (haction : action ∈ (clientTurn reader payloadBuffer).1)
    (hdisp : Dispatched n (n.serveAction cfg env action)) :
    f.hdr.magic = PE_MAGIC ∧ f.hdr.payloadLen.toNat ≤ 2048 ∧ IsCommand f.hdr := by
  have hturn := clientTurn_frame payloadBuffer hunread
  rw [Option.mem_def.1 haction, Option.map_some] at hturn
  split at hturn
  · cases action with
    | processCommand hdr p => cases hturn
    | sendAckNack cmdId status =>
        cases hturn
        exact absurd hdisp (not_dispatched_nack (by decide))
  rename_i hmagic
  split at hturn
  · cases action with
    | processCommand hdr p => cases hturn
    | sendAckNack cmdId status =>
        cases hturn
        exact absurd hdisp (not_dispatched_nack (by decide))
  rename_i hlong
  cases action with
  | sendAckNack cmdId status => cases hturn
  | processCommand hdr p =>
      have hhdr : hdr = f.hdr := (Received.dispatched.inj (Option.some.inj hturn)).1
      rw [← hhdr]
      rw [← hhdr] at hmagic hlong
      exact ⟨not_not.1 hmagic, Nat.not_lt.1 hlong, isCommand_of_dispatched hdisp⟩

end CommandService

/-! ### A node in a session -/

section Reachable

variable (C : Type) [ITelemetryChannel C] (L : Layout) (nodeId : UInt16)

/-- The node of `ethernetdev` before its channels are registered. -/
def Node.bare : Node C :=
  Node.powerUp (fun _ => 0) (SystemController.ethernetdev fun _ => 0) 500 TelemetryService.create
    (DiscoveryService.create (MAKE_VERSION 1 0 0 0))

/-- The request for a session of one byte. -/
def byteSession : NodeRequest := .of .cmdOtaBegin (beginPayload 1 0)

theorem beginError_byteSession :
    OtaService.beginError (some (SystemController.ethernetdev fun _ => 0))
      ((Reader.view 0 16 PayloadOtaBegin.ofPtr).run byteSession.payload) = none := by
  decide +kernel

theorem session_reachable :
    ∃ t n, Machine.Run (Node.act ⟨L, .ethernetdev, nodeId⟩) (Node.bare C) t n ∧
      CommandService.InSession n := by
  have hstep : (Node.bare C).act ⟨L, .ethernetdev, nodeId⟩ (.request byteSession) =
      (CommandService.otaBegin ⟨L, .ethernetdev, nodeId⟩ byteSession.env byteSession.hdr
        (Node.bare C)).run byteSession.payload := rfl
  unfold CommandService.otaBegin at hstep
  rw [CommandService.run_otaRequest rfl (by decide), Reader.run_bind, Reader.run_pure] at hstep
  have hctrl : (Node.bare C).otaSysCtrl .ethernetdev =
      some (SystemController.ethernetdev fun _ => 0) := rfl
  unfold OtaService.handleBegin at hstep
  dsimp only at hstep
  rw [hctrl, beginError_byteSession] at hstep
  exact ⟨_, _, Machine.Run.single hstep, rfl, rfl⟩

end Reachable

/-- **The command port makes the checks of `PacketHelper` for no frame that it could take up.** -/
theorem tcpValidates_iff (C : Type) [ITelemetryChannel C] (L : Layout) (nodeId : UInt16)
    (f : WireFrame) :
    TcpValidates C ⟨L, .ethernetdev, nodeId⟩ f ↔
      f.Valid ∨ f.hdr.magic ≠ PE_MAGIC ∨ 2048 < f.hdr.payloadLen.toNat ∨ ¬ IsCommand f.hdr := by
  constructor
  · intro h
    by_contra hcond
    obtain ⟨hvalid, hcond⟩ := not_or.1 hcond
    obtain ⟨hmagic, hcond⟩ := not_or.1 hcond
    obtain ⟨hlong, hcmd⟩ := not_or.1 hcond
    obtain ⟨t, n, hrun, hn⟩ := session_reachable C L nodeId
    have hunread : (NetconnStreamReader.create [f.toBytes]).unread = f.toBytes ++ [] := by simp
    have hturn := CommandService.clientTurn_frame (fun _ => 0) hunread
    rw [if_neg hmagic, if_neg hlong] at hturn
    obtain ⟨action, haction, hreceived⟩ := Option.map_eq_some_iff.1 hturn
    cases action with
    | sendAckNack cmdId status => cases hreceived
    | processCommand hdr p =>
        have hhdr : hdr = f.hdr := (Received.dispatched.inj hreceived).1
        subst hhdr
        exact hvalid (h _ _ _ _ _ t n hrun _ _ _ hunread _ haction Env.zero
          (CommandService.dispatched_of_isCommand hn rfl (not_not.1 hcmd)))
  · intro hcond ram ctrl period telemetry discovery t n hrun reader payloadBuffer more hunread action
      haction env hdisp
    obtain ⟨hmagic, hlong, hcmd⟩ :=
      CommandService.isCommand_of_dispatched_frame hunread haction hdisp
    rcases hcond with hvalid | hno | hno | hno
    · exact hvalid
    · exact absurd hmagic hno
    · exact absurd hlong (Nat.not_le.2 hno)
    · exact absurd hcmd hno

/-! ## The discovery port -/

/-- `PacketHelper` accepts the header and the payload of a datagram. -/
def DatagramValid (datagram : List UInt8) : Prop :=
  let p := BytePtr.ofList datagram
  validateHeader (PE_Header.ofPtr p) datagram.length = .ok ∧
    validatePayloadCrc (PE_Header.ofPtr p) (p.advance 16) = true

/-- A datagram that arrives at the discovery port is answered only if it is valid; the service changes
in nothing but the sequence number. -/
def UdpValidates (nodeId : UInt16) (datagram : List UInt8) : Prop :=
  ∀ (env : Env) (this : DiscoveryService) (seqNum : UInt32) (netbufNew : Bool),
    ((this.handleIncomingPacket env ⟨nodeId, seqNum⟩ netbufNew datagram.length).run
      (BytePtr.ofList datagram)).1.isSome → DatagramValid datagram

/-- **The discovery port leaves out the check of the payload.** -/
theorem udpValidates_iff (nodeId : UInt16) (datagram : List UInt8) :
    UdpValidates nodeId datagram ↔
      validatePayloadCrc (PE_Header.ofPtr (BytePtr.ofList datagram))
          ((BytePtr.ofList datagram).advance 16) = true ∨
        ¬ DiscoveryService.IsPingFor nodeId (BytePtr.ofList datagram) datagram.length := by
  constructor
  · intro h
    by_contra hcond
    obtain ⟨hcrc, hping⟩ := not_or.1 hcond
    have hsent := (DiscoveryService.handleIncomingPacket_eq Env.zero
      (DiscoveryService.create 0) ⟨nodeId, 0⟩ true datagram.length
      (BytePtr.ofList datagram)).1 (not_not.1 hping)
    refine hcrc (h Env.zero (DiscoveryService.create 0) 0 true ?_).2
    rw [hsent]
    rfl
  · intro hcond env this seqNum netbufNew hsome
    have hspec := this.handleIncomingPacket_eq env ⟨nodeId, seqNum⟩ netbufNew datagram.length
      (BytePtr.ofList datagram)
    by_cases hping : DiscoveryService.IsPingFor nodeId (BytePtr.ofList datagram) datagram.length
    · rcases hcond with hcrc | hno
      · exact ⟨hping.1, hcrc⟩
      · exact absurd hping hno
    · rw [hspec.2 hping] at hsome
      cases hsome

/-! ## Both ports -/

/-- **Which frames and datagrams the ports check as `PacketHelper` does**: those that are valid or that
no check could keep from being taken up. -/
theorem ports_validate_iff (C : Type) [ITelemetryChannel C] (L : Layout) (nodeId : UInt16) :
    (∀ f : WireFrame, TcpValidates C ⟨L, .ethernetdev, nodeId⟩ f ↔
      f.Valid ∨ f.hdr.magic ≠ PE_MAGIC ∨ 2048 < f.hdr.payloadLen.toNat ∨ ¬ IsCommand f.hdr) ∧
    (∀ datagram : List UInt8, UdpValidates nodeId datagram ↔
      validatePayloadCrc (PE_Header.ofPtr (BytePtr.ofList datagram))
          ((BytePtr.ofList datagram).advance 16) = true ∨
        ¬ DiscoveryService.IsPingFor nodeId (BytePtr.ofList datagram) datagram.length) :=
  ⟨tcpValidates_iff C L nodeId, udpValidates_iff nodeId⟩

/-- A `CMD_REBOOT` of another protocol version. -/
def otherVersionReboot : WireFrame where
  hdr := ⟨PE_MAGIC, 2, 0, 0, MessageType.cmdReboot.code, 0, 0, 0⟩
  payload := []
  payload_length := rfl

/-- The command port resets the node for it. -/
theorem otherVersion_reboots :
    ¬ ((∀ f : WireFrame, TcpValidates CounterChannel NodeConfig.ethernetdev f) ∧
      ∀ datagram : List UInt8, UdpValidates 1 datagram) := by
  rintro ⟨htcp, -⟩
  have hunread : (NetconnStreamReader.create [otherVersionReboot.toBytes]).unread =
      otherVersionReboot.toBytes ++ [] := by simp
  have hturn := CommandService.clientTurn_frame (fun _ => 0) hunread
  rw [if_neg (by decide), if_neg (by decide)] at hturn
  obtain ⟨action, haction, hreceived⟩ := Option.map_eq_some_iff.1 hturn
  cases action with
  | sendAckNack cmdId status => cases hreceived
  | processCommand hdr p =>
      have hhdr : hdr = otherVersionReboot.hdr := (Received.dispatched.inj hreceived).1
      subst hhdr
      have hvalid := htcp otherVersionReboot _ _ _ _ _ [] Node.ethernetdev .nil _ _ _ hunread _
        haction Env.zero (CommandService.dispatched_ack [.reset])
      exact absurd hvalid.1 (by decide)

end EmbeddedPixel
