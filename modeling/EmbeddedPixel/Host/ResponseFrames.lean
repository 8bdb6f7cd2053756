import EmbeddedPixel.Host.UpdateSession
import EmbeddedPixel.Net.TxBuffer

/-!
# Responses as the host reads them

Every response of `processCommand` and `sendAckNack` is built in a `tx_buf` of its own size, by a branch of
its own; `response_send` is what they share.  A response fits its buffer, its header and its inner counts
agree with its length, and the host's `parse_header` and `recv_exact` take it from the connection without a
byte more or less: `step_selfConsistent`.
-/

set_option autoImplicit false

namespace EmbeddedPixel

open Foundation ITelemetryChannel

/-- `sizeof(tx_buf)` where a response is built. -/
def txBufSize : MessageType → Nat
  | .cmdGetNodeInfoResp => 16 + 48
  | .cmdGetStreamsResp => 16 + 4 + 8 * 32
  | .cmdOtaBeginResp => 16 + 8
  | .cmdOtaGetStatusResp => 16 + 12
  | .cmdCliExecResp => 16 + 4 + 512
  | .cmdAck => 16 + 12
  | .cmdNack => 16 + 12
  | _ => 0

theorem txBufSize_le (type : MessageType) : txBufSize type ≤ 532 := by
  cases type <;> decide

/-- The status in a response that has one. -/
def responseStatus (type : MessageType) (payload : List UInt8) : Option Nat :=
  match type with
  | .cmdAck => some (u16At (BytePtr.ofList payload) 2).toNat
  | .cmdNack => some (u16At (BytePtr.ofList payload) 2).toNat
  | .cmdOtaBeginResp => some (u32At (BytePtr.ofList payload) 0).toNat
  | _ => none

/-- The count in a response that has one, `stream_count` or `resp_len`, is that of what follows. -/
def InnerCount (type : MessageType) (payload : List UInt8) : Prop :=
  match type with
  | .cmdGetStreamsResp => payload.length = 4 + (u16At (BytePtr.ofList payload) 0).toNat * 32
  | .cmdCliExecResp => payload.length = 4 + (u16At (BytePtr.ofList payload) 2).toNat
  | _ => True

/-- A response that agrees with itself, the one after `seqNum`. -/
structure ResponseFrame (seqNum : UInt32) (type : MessageType) (f : Frame) : Prop where
  msgType : f.hdr.msgType = type.code
  fits : f.toBytes.length ≤ txBufSize type
  length : f.toBytes.length = 16 + f.hdr.payloadLen.toNat
  magic : f.hdr.magic = PE_MAGIC
  version : f.hdr.version = 1
  isResponse : f.hdr.flags &&& FLAG_IS_RESPONSE ≠ 0
  seqNum : f.hdr.seqNum = seqNum + 1
  error : f.hdr.flags &&& FLAG_ERROR ≠ 0 ↔
    ∃ status, responseStatus type f.payload = some status ∧ status ≠ StatusCode.ok.code.toNat
  count : InnerCount type f.payload
  consumed : ∀ more, OtaUpdater.recvReply.run (f.toBytes ++ more) =
    ⟨[], .ok (f.hdr.msgType.toNat, f.payload), more⟩

namespace CommandService

variable {C : Type}

/-- One response that agrees with itself, and resets after it; or a reset alone.  The node counts what it
sends. -/
def SelfConsistent (n : Node C) (s : Reply C) : Prop :=
  (∃ type f rest, s.1 = .reply f :: rest ∧ (∀ e ∈ rest, e = .reset) ∧
      ResponseFrame n.seqNum type f ∧ s.2.seqNum = f.hdr.seqNum) ∨
    s.1 = [.reset] ∧ s.2.seqNum = n.seqNum

variable (cfg : NodeConfig) {n m : Node C}

/-- **A response that is sent agrees with itself** if its payload does. -/
theorem response_send (hseq : m.seqNum = n.seqNum) {type : MessageType} {flags : UInt8}
    {payload : List UInt8} (hfits : 16 + payload.length ≤ txBufSize type)
    (hflag : flags &&& FLAG_IS_RESPONSE ≠ 0)
    (herror : flags &&& FLAG_ERROR ≠ 0 ↔
      ∃ status, responseStatus type payload = some status ∧ status ≠ StatusCode.ok.code.toNat)
    (hcount : InnerCount type payload) : SelfConsistent n (send cfg m type flags payload) := by
  have hsize := txBufSize_le type
  have hlen : (UInt16.ofNat payload.length).toNat = payload.length :=
    UInt16.toNat_ofNat_of_lt' (show payload.length < 65536 by omega)
  refine Or.inl ⟨type, _, [], rfl, by simp, ?_, rfl⟩
  have hbytes : ∀ h : PE_Header, (Frame.toBytes ⟨h, payload⟩).length = 16 + payload.length := by
    intro h
    rw [Frame.toBytes, List.length_append, PE_Header.length_toBytes]
  constructor
  · rfl
  · rw [hbytes]
    exact hfits
  · rw [hbytes]
    exact congrArg (16 + ·) hlen.symm
  · rfl
  · rfl
  · exact hflag
  · exact congrArg (· + 1) hseq
  · exact herror
  · exact hcount
  · exact OtaUpdater.run_recvReply hlen.symm

/-- A response without a status. -/
theorem response_plain (hseq : m.seqNum = n.seqNum) {type : MessageType} {payload : List UInt8}
    (hfits : 16 + payload.length ≤ txBufSize type) (hnone : responseStatus type payload = none)
    (hcount : InnerCount type payload) :
    SelfConsistent n (send cfg m type FLAG_IS_RESPONSE payload) := by
  refine response_send cfg hseq hfits (by decide) ?_ hcount
  refine iff_of_false (by decide) ?_
  rintro ⟨status, hstatus, -⟩
  rw [hnone] at hstatus
  cases hstatus

/-- Only `OK` has the code of `OK`. -/
theorem code_ne_ok_iff (status : StatusCode) : status.code ≠ StatusCode.ok.code ↔ status ≠ .ok := by
  cases status <;> decide

/-- The flags that say how a request went. -/
theorem statusFlags (status : StatusCode) :
    (if status ≠ .ok then FLAG_IS_RESPONSE ||| FLAG_ERROR else FLAG_IS_RESPONSE) &&& FLAG_IS_RESPONSE ≠ 0 ∧
      ((if status ≠ .ok then FLAG_IS_RESPONSE ||| FLAG_ERROR else FLAG_IS_RESPONSE) &&& FLAG_ERROR ≠ 0 ↔
        status ≠ .ok) := by
  cases status <;> decide

theorem response_sendAckNack (hseq : m.seqNum = n.seqNum) (cmdId : UInt16) (status : StatusCode)
    (resultCode : UInt32) : SelfConsistent n (sendAckNack cfg m cmdId status resultCode) := by
  obtain ⟨hflag, herror⟩ := statusFlags status
  have hcode : u16At (BytePtr.ofList (PayloadAckNack.toBytes ⟨cmdId, status.code, resultCode, 0⟩)) 2 =
      status.code := u16At_ofList_drop rfl
  have hstatus : ∀ type : MessageType, type = .cmdAck ∨ type = .cmdNack →
      (status ≠ .ok ↔ ∃ st, responseStatus type
          (PayloadAckNack.toBytes ⟨cmdId, status.code, resultCode, 0⟩) = some st ∧
        st ≠ StatusCode.ok.code.toNat) := by
    intro type htype
    have hsome : responseStatus type (PayloadAckNack.toBytes ⟨cmdId, status.code, resultCode, 0⟩) =
        some status.code.toNat := by
      rcases htype with rfl | rfl
      · exact congrArg (fun code => some code.toNat) hcode
      · exact congrArg (fun code => some code.toNat) hcode
    rw [hsome, ← code_ne_ok_iff, ne_eq, ← UInt16.toNat_inj]
    simp
  unfold sendAckNack
  by_cases hok : status = .ok
  · rw [if_pos hok]
    exact response_send cfg hseq (Nat.le_refl 28) hflag (herror.trans (hstatus _ (Or.inl rfl))) trivial
  · rw [if_neg hok]
    exact response_send cfg hseq (Nat.le_refl 28) hflag (herror.trans (hstatus _ (Or.inr rfl))) trivial

/-- A reset after a response. -/
theorem SelfConsistent.reset {s : Reply C} (h : SelfConsistent n s)
    (hreply : ∃ f rest, s.1 = .reply f :: rest) : SelfConsistent n (s.1 ++ [.reset], s.2) := by
  obtain ⟨type, f, rest, hs, hrest, hframe, hseq⟩ | ⟨hs, -⟩ := h
  · refine Or.inl ⟨type, f, rest ++ [.reset], by rw [hs]; rfl, ?_, hframe, hseq⟩
    intro e he
    rcases List.mem_append.1 he with he | he
    · exact hrest e he
    · exact List.mem_singleton.1 he
  · obtain ⟨f, rest, hf⟩ := hreply
    rw [hs] at hf
    cases hf

theorem response_otaRequest {hdr : PE_Header} {size : UInt16} {serve : Reader (Option (Reply C))}
    {p : BytePtr} (hserve : ∀ s, serve.run p = some s → SelfConsistent n s) :
    ∀ s, (otaRequest cfg hdr n size serve).run p = some s → SelfConsistent n s := by
  intro s h
  unfold otaRequest at h
  split at h
  · obtain rfl := Option.some.inj h
    exact response_sendAckNack cfg rfl _ _ _
  · split at h
    · obtain rfl := Option.some.inj h
      exact response_sendAckNack cfg rfl _ _ _
    · exact hserve s h

/-- The status of a `CMD_OTA_BEGIN_RESP` is what `handleBegin` returns. -/
theorem statusCode_handleBegin (L : Layout) (sysCtrl : Option SystemController)
    (req : PayloadOtaBegin) (resp : PayloadOtaBeginResp) (m : OtaMachine) :
    (OtaService.handleBegin L sysCtrl req resp m).2.1.statusCode =
      (OtaService.handleBegin L sysCtrl req resp m).1.code.toUInt32 := by
  unfold OtaService.handleBegin
  split
  · rfl
  · rfl

theorem response_otaBegin (env : Env) (hdr : PE_Header) (p : BytePtr) :
    ∀ s, (otaBegin cfg env hdr n).run p = some s → SelfConsistent n s := by
  refine response_otaRequest cfg fun s h => ?_
  rw [Reader.run_bind] at h
  generalize (Reader.view 0 16 PayloadOtaBegin.ofPtr).run p = req at h
  have hcode := statusCode_handleBegin cfg.layout (n.otaSysCtrl cfg.wiring) req
    (PayloadOtaBeginResp.ofPtr (env.stack.advance 16)) n.ota
  generalize OtaService.handleBegin cfg.layout (n.otaSysCtrl cfg.wiring) req
    (PayloadOtaBeginResp.ofPtr (env.stack.advance 16)) n.ota = result at h hcode
  obtain ⟨status, resp, ota⟩ := result
  obtain rfl := Option.some.inj h
  have hcode : resp.statusCode = status.code.toUInt32 := hcode
  obtain ⟨hflag, herror⟩ := statusFlags status
  have hread : u32At (BytePtr.ofList resp.toBytes) 0 = resp.statusCode := u32At_ofList_drop rfl
  have hsome : responseStatus .cmdOtaBeginResp resp.toBytes = some status.code.toNat := by
    show some (u32At (BytePtr.ofList resp.toBytes) 0).toNat = _
    rw [hread, hcode, UInt16.toNat_toUInt32]
  refine response_send cfg rfl (Nat.le_refl 24) hflag (herror.trans ?_) trivial
  rw [hsome, ← code_ne_ok_iff, ne_eq, ← UInt16.toNat_inj]
  simp

theorem response_otaEnd (hdr : PE_Header) (p : BytePtr) :
    ∀ s, (otaEnd cfg hdr n).run p = some s → SelfConsistent n s := by
  refine response_otaRequest cfg fun s h => ?_
  rw [Reader.run_bind] at h
  generalize (Reader.view 0 8 PayloadOtaEnd.ofPtr).run p = req at h
  generalize OtaService.handleEnd cfg.layout req n.ota = result at h
  obtain ⟨status, ota⟩ := result
  obtain rfl := Option.some.inj h
  dsimp only
  split
  · exact (response_sendAckNack cfg rfl _ _ _).reset ⟨_, _, rfl⟩
  · exact response_sendAckNack cfg rfl _ _ _

theorem response_otaData (hdr : PE_Header) (p : BytePtr) :
    ∀ s, (otaData cfg hdr n).run p = some s → SelfConsistent n s := by
  refine response_otaRequest cfg fun s h => ?_
  rw [Reader.run_bind, Reader.run_bind] at h
  obtain ⟨result, -, rfl⟩ := Option.map_eq_some_iff.1 h
  exact response_sendAckNack cfg rfl _ _ _

theorem response_otaGetStatus (hdr : PE_Header) : SelfConsistent n (otaGetStatus cfg hdr n) := by
  unfold otaGetStatus
  split
  · exact response_sendAckNack cfg rfl _ _ _
  · exact response_plain cfg rfl (Nat.le_refl 28) rfl trivial

theorem response_otaAbort (hdr : PE_Header) : SelfConsistent n (otaAbort cfg hdr n) := by
  unfold otaAbort
  refine response_sendAckNack cfg ?_ _ _ _
  split
  · rfl
  · rfl

theorem response_getNodeInfo (env : Env) : SelfConsistent n (getNodeInfo cfg env n) := by
  refine response_plain cfg rfl ?_ rfl trivial
  rw [OtaUpdater.length_pong env.macAddr_length]
  exact Nat.le_refl 64

variable [ITelemetryChannel C]

theorem response_startStream (hdr : PE_Header) (p : BytePtr) :
    SelfConsistent n ((startStream cfg hdr n).run p) := by
  unfold startStream
  rw [Reader.run_bind, Reader.run_pure]
  exact response_sendAckNack cfg rfl _ _ _

theorem response_stopStream (hdr : PE_Header) (p : BytePtr) :
    SelfConsistent n ((stopStream cfg hdr n).run p) := by
  unfold stopStream
  rw [Reader.run_bind, Reader.run_pure]
  refine response_sendAckNack cfg ?_ _ _ _
  split
  · rfl
  · rfl

theorem response_getStreams : SelfConsistent n (getStreams cfg n) := by
  have hcount : n.telemetry.channels.length ≤ 8 := n.telemetry.channels_le
  have hlen := length_getStreamsResp (n.telemetry.channels.map streamDescriptor)
  rw [List.length_map] at hlen
  refine response_plain cfg rfl ?_ rfl ?_
  · rw [hlen]
    show 16 + (4 + n.telemetry.channels.length * 32) ≤ 16 + 4 + 8 * 32
    omega
  · have hread : u16At (BytePtr.ofList (getStreamsResp (n.telemetry.channels.map streamDescriptor))) 0 =
        UInt16.ofNat (n.telemetry.channels.map streamDescriptor).length := u16At_ofList_drop rfl
    show _ = 4 + (u16At _ 0).toNat * 32
    rw [hlen, hread, List.length_map, UInt16.toNat_ofNat_of_lt' (show _ < 65536 by omega)]

/-- No command touches the sequence number. -/
theorem seqNum_apply (w : Wiring) (c : CliCommand) : (c.apply w n).seqNum = n.seqNum := by
  cases c with
  | startStream tag rate =>
      show (n.startTelemetry w tag rate 0).2.seqNum = n.seqNum
      unfold Node.startTelemetry
      split
      · rfl
      · dsimp only
        split
        · rfl
        · rfl
  | stopStream tag =>
      show (n.stopTelemetry w tag).2.seqNum = n.seqNum
      unfold Node.stopTelemetry
      split
      · rfl
      · dsimp only
        split
        · rfl
        · rfl
  | abortOta =>
      show (n.abortOta w).seqNum = n.seqNum
      unfold Node.abortOta
      split
      · rfl
      · rfl
  | setBlinkRate periodMs =>
      show (n.setBlinkRate w periodMs).seqNum = n.seqNum
      unfold Node.setBlinkRate
      split
      · rfl
      · rfl
  | setFeature flag enable => rfl
  | reboot => rfl
  | report => rfl

theorem response_cliExec (env : Env) (hdr : PE_Header) (p : BytePtr) :
    SelfConsistent n ((cliExec cfg env hdr n).run p) := by
  unfold cliExec
  split
  · exact response_sendAckNack cfg rfl _ _ _
  · rw [Reader.run_bind, Reader.run_pure]
    generalize (cliText hdr).run p = text
    have hdoes := CliEngine.does_execute cfg.wiring env n 512 text
    have hseq : (CliEngine.execute cfg.wiring env n 512 text).node.seqNum = n.seqNum := by
      rw [hdoes.node, seqNum_apply]
    have hfits := hdoes.fits
    generalize CliEngine.execute cfg.wiring env n 512 text = result at hseq hfits
    cases result with
    | reset n' => exact Or.inr ⟨rfl, hseq⟩
    | text out n' =>
        have hout : out.length ≤ 511 := hfits out n' rfl
        have hlen : (PayloadCliExecResp.toBytes ⟨StatusCode.ok.code, UInt16.ofNat out.length⟩ ++
            out).length = 4 + out.length := by
          rw [List.length_append]
          rfl
        refine response_plain cfg hseq ?_ rfl ?_
        · rw [hlen]
          show 16 + (4 + out.length) ≤ 16 + 4 + 512
          omega
        · have hread : u16At (BytePtr.ofList
              (PayloadCliExecResp.toBytes ⟨StatusCode.ok.code, UInt16.ofNat out.length⟩ ++ out)) 2 =
              UInt16.ofNat out.length := u16At_ofList_drop rfl
          show _ = 4 + (u16At _ 2).toNat
          rw [hlen, hread, UInt16.toNat_ofNat_of_lt' (show out.length < 65536 by omega)]

end CommandService

open CommandService in
/-- **Every response agrees with itself**, those of `sendAckNack` and those of every request. -/
theorem Node.step_selfConsistent {C : Type} [ITelemetryChannel C] (cfg : NodeConfig) (n : Node C) :
    (∀ cmdId status resultCode, SelfConsistent n (sendAckNack cfg n cmdId status resultCode)) ∧
      ∀ r s, n.step cfg r = some s → SelfConsistent n s := by
  refine ⟨fun cmdId status resultCode => response_sendAckNack cfg rfl cmdId status resultCode, ?_⟩
  intro r s h
  unfold step processCommand at h
  generalize MessageType.ofCode r.hdr.msgType = type at h
  split at h
  · obtain rfl := Option.some.inj h
    exact response_getNodeInfo cfg r.env
  · rw [Reader.run_map] at h
    obtain rfl := Option.some.inj h
    exact response_startStream cfg r.hdr r.payload
  · rw [Reader.run_map] at h
    obtain rfl := Option.some.inj h
    exact response_stopStream cfg r.hdr r.payload
  · obtain rfl := Option.some.inj h
    exact response_getStreams cfg
  · exact response_otaBegin cfg r.env r.hdr r.payload s h
  · exact response_otaData cfg r.hdr r.payload s h
  · exact response_otaEnd cfg r.hdr r.payload s h
  · obtain rfl := Option.some.inj h
    exact response_otaGetStatus cfg r.hdr
  · obtain rfl := Option.some.inj h
    exact response_otaAbort cfg r.hdr
  · rw [Reader.run_map] at h
    obtain rfl := Option.some.inj h
    exact response_cliExec cfg r.env r.hdr r.payload
  · obtain rfl := Option.some.inj h
    exact (response_sendAckNack cfg rfl _ _ _).reset ⟨_, _, rfl⟩
  · obtain rfl := Option.some.inj h
    exact response_sendAckNack cfg rfl _ _ _

open CommandService in
theorem Node.step_selfConsistent_begin :
    ∃ s, Node.board.step ⟨Layout.lowest, Wiring.ethernetdev, 1⟩ TxBuffer.emptyBegin = some s ∧
      SelfConsistent Node.board s := by
  obtain ⟨s, hs⟩ : ∃ s,
      Node.board.step ⟨Layout.lowest, Wiring.ethernetdev, 1⟩ TxBuffer.emptyBegin = some s := ⟨_, rfl⟩
  exact ⟨s, hs, (step_selfConsistent _ Node.board).2 _ s hs⟩

end EmbeddedPixel
