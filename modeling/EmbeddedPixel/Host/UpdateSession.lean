import EmbeddedPixel.Host.NodeReport
import EmbeddedPixel.Host.Preflight
import EmbeddedPixel.Net.Framing

/-!
# A session of the updater with a node

`run_ota` sends all of its requests on one connection; `handleClient` goes on to a second frame of a
connection only after `CMD_OTA_DATA`, and the first request is `CMD_GET_NODE_INFO`.
`session_never_served` — whatever the binary, whatever the replies and wherever the network cuts the
stream, the node dispatches the first request and nothing else, so a session in which the script sends
all of its requests is never served.

`session_completes` shows that there are such sessions: `run_streamChunks` runs the data loop to its
end when every chunk is acknowledged.
-/

set_option autoImplicit false

namespace EmbeddedPixel.OtaUpdater

open Foundation

/-- `run_ota` against the bytes that come back on its connection. -/
def session (a : Args) (fuel : Nat) (incoming : List UInt8) : Talked Stop Bool :=
  (runOta a fuel).run incoming

/-! ## The first request -/

/-- The header of `CMD_GET_NODE_INFO`. -/
def infoRequest : PE_Header := populateHeader 0 .cmdGetNodeInfo 1 0 0 false none

theorem makeHeader_infoRequest : makeHeader CMD_GET_NODE_INFO 0 1 = some infoRequest.toBytes := by
  decide

/-- Every session begins with the query. -/
theorem session_sent (a : Args) (fuel : Nat) (incoming : List UInt8) :
    ∃ later, (session a fuel incoming).sent = infoRequest.toBytes :: later := by
  obtain ⟨hdrInfo, hparse, -⟩ := parseAppImageHeader_ok a.binaryData
  have hquery : [infoRequest.toBytes] <+: ((queryNode hdrInfo).run incoming).sent := by
    refine List.IsPrefix.trans ?_ (Talk.sent_bind _ _ incoming)
    unfold sendRequest
    rw [List.length_nil, makeHeader_infoRequest]
    exact List.prefix_refl _
  have hsent : [infoRequest.toBytes] <+: (session a fuel incoming).sent := by
    unfold session runOta
    rw [hparse]
    exact hquery.trans (Talk.sent_bind _ _ incoming)
  obtain ⟨later, hlater⟩ := hsent
  exact ⟨later, hlater.symm⟩

/-- **The node stops after the query**, whatever follows it on the connection. -/
theorem handleClient_infoRequest {conn : List (List UInt8)} {more : List UInt8}
    (h : conn.flatten = infoRequest.toBytes ++ more) (payloadBuffer : BytePtr) :
    (CommandService.handleClient conn payloadBuffer).1.map ClientAction.received =
      [.dispatched infoRequest []] := by
  have hflatten : conn.flatten = infoRequest.toBytes ++ ([] ++ more) := h
  obtain ⟨p, hactions, -⟩ := CommandService.handleClient_request hflatten rfl rfl (by decide)
    (by decide) payloadBuffer
  rw [hactions]
  rfl

/-! ## A session that completes -/

theorem makeHeader_of_lt {msgType payloadLen seqNum : Nat} (htype : msgType < 2 ^ 16)
    (hlen : payloadLen < 2 ^ 16) (hseq : seqNum < 2 ^ 32) :
    ∃ hdr, makeHeader msgType payloadLen seqNum = some hdr := by
  obtain ⟨hdr, hhdr, -⟩ := packValues_of_fits parseFormat_header (show List.Forall₂ Field.Fits _
    [.int PE_MAGIC, .int PE_VERSION, .int 0, .int 0, .int msgType, .int seqNum, .int payloadLen,
      .int 0] by
    simp only [List.forall₂_cons, List.forall₂_nil_right_iff, Field.Fits, PE_MAGIC, PE_VERSION,
      and_true]
    omega)
  exact ⟨hdr, hhdr⟩

theorem run_sendRequest {msgType seqNum : Nat} {payload : List UInt8} (htype : msgType < 2 ^ 16)
    (hlen : payload.length < 2 ^ 16) (hseq : seqNum < 2 ^ 32) (incoming : List UInt8) :
    ∃ data, (sendRequest msgType payload seqNum).run incoming = ⟨[data], .ok (), incoming⟩ := by
  obtain ⟨hdr, hhdr⟩ := makeHeader_of_lt htype hlen hseq
  refine ⟨hdr ++ payload, ?_⟩
  unfold sendRequest
  rw [hhdr]
  rfl

theorem run_recvExact (data more : List UInt8) :
    (recvExact data.length).run (data ++ more) = ⟨[], .ok data, more⟩ := by
  unfold recvExact
  rw [Talk.run_bind, Talk.run_receive_append]
  rfl

/-- A frame that has come in. -/
theorem run_recvReply {f : Frame} (hlen : f.payload.length = f.hdr.payloadLen.toNat)
    (more : List UInt8) :
    recvReply.run (f.toBytes ++ more) = ⟨[], .ok (f.hdr.msgType.toNat, f.payload), more⟩ := by
  have hhdr : (recvExact 16).run (f.toBytes ++ more) =
      ⟨[], .ok f.hdr.toBytes, f.payload ++ more⟩ := by
    unfold Frame.toBytes
    rw [List.append_assoc]
    exact run_recvExact f.hdr.toBytes (f.payload ++ more)
  have hparse : parseHeader f.hdr.toBytes =
      .ok (some ⟨f.hdr.msgType.toNat, f.payload.length⟩) := by
    rw [hlen, ← parseHeader_toBytes f.hdr [], List.append_nil]
  have hpayload := run_recvExact f.payload more
  unfold recvReply
  rw [Talk.run_bind, hhdr]
  dsimp only
  rw [hparse, Talk.ofExcept_ok_bind, Talk.ofOption_some_bind, Talk.run_bind, hpayload]
  rfl

/-- An acknowledgement. -/
def ackFrame : Frame := ⟨populateHeader 0 .cmdAck 0 0 FLAG_IS_RESPONSE false none, []⟩

/-- The answer to an accepted `CMD_OTA_BEGIN`. -/
def beginFrame : Frame :=
  ⟨populateHeader 0 .cmdOtaBeginResp 0 8 FLAG_IS_RESPONSE false none,
    PayloadOtaBeginResp.toBytes ⟨StatusCode.ok.code.toUInt32, 1024, 160⟩⟩

theorem run_recvReply_ack (more : List UInt8) :
    recvReply.run (ackFrame.toBytes ++ more) = ⟨[], .ok (CMD_ACK, []), more⟩ :=
  run_recvReply rfl more

/-- Arguments in the range of the fields they are packed into, for an image the node has room for. -/
structure Args.InRange (a : Args) : Prop where
  size : a.binaryData.length ≤ 163840
  version : a.targetVersion < 2 ^ 32
  chunkSize : a.chunkSize < 2 ^ 16

theorem run_queryNode (hdrInfo : Option ImageHeader) (more : List UInt8) :
    ∃ data, (queryNode hdrInfo).run (ackFrame.toBytes ++ more) = ⟨[data], .ok (), more⟩ := by
  obtain ⟨data, hsend⟩ := run_sendRequest (show CMD_GET_NODE_INFO < 2 ^ 16 by decide)
    (show ([] : List UInt8).length < 2 ^ 16 by decide) (show 1 < 2 ^ 32 by decide)
    (ackFrame.toBytes ++ more)
  refine ⟨data, ?_⟩
  unfold queryNode
  rw [Talk.run_bind, hsend]
  dsimp only
  rw [Talk.run_bind, run_recvReply_ack]
  rfl

theorem run_beginTransfer {a : Args} (ha : a.InRange) {hdrInfo : Option ImageHeader}
    (hversion : ∀ hdr ∈ hdrInfo, hdr.appVersion < 2 ^ 32) (more : List UInt8) :
    ∃ data, (beginTransfer a hdrInfo).run (beginFrame.toBytes ++ more) =
      ⟨[data], .ok 1024, more⟩ := by
  have hformat : parseFormat "<IIIHH" = some [.I, .I, .I, .H, .H] := by decide
  have hsize := ha.size
  have hchunk := ha.chunkSize
  have hcrc : totalCrc32 a < 2 ^ 32 := UInt32.toNat_lt _
  have htarget : targetVersion a hdrInfo < 2 ^ 32 := by
    cases hdrInfo with
    | none => exact ha.version
    | some hdr => exact hversion hdr rfl
  have hflags : (if a.autoReboot then 0x01 else 0x00) < 2 ^ 16 := by
    split
    · decide
    · decide
  obtain ⟨payload, hpayload, hlen⟩ := packValues_of_fits hformat
    (show List.Forall₂ Field.Fits _ [.int a.binaryData.length, .int (totalCrc32 a),
        .int (targetVersion a hdrInfo), .int a.chunkSize,
        .int (if a.autoReboot then 0x01 else 0x00)] by
      simp only [List.forall₂_cons, List.forall₂_nil_right_iff, Field.Fits, and_true]
      omega)
  have hshort : payload.length < 2 ^ 16 := by
    rw [hlen]
    decide
  obtain ⟨data, hsend⟩ := run_sendRequest (show CMD_OTA_BEGIN < 2 ^ 16 by decide) hshort
    (show 2 < 2 ^ 32 by decide) (beginFrame.toBytes ++ more)
  have hreply := @run_recvReply beginFrame rfl more
  refine ⟨data, ?_⟩
  unfold beginTransfer beginPayload
  rw [hpayload, Talk.ofOption_some_bind, Talk.run_bind, hsend]
  dsimp only
  rw [Talk.run_bind, hreply]
  rfl

theorem dataPayload_of_lt {offset : Nat} {chunk : List UInt8} (hoffset : offset < 2 ^ 32)
    (hchunk : chunk.length ≤ 1024) :
    ∃ payload, dataPayload offset chunk = some payload ∧ payload.length < 2 ^ 16 := by
  have hformat : parseFormat "<IHH" = some [.I, .H, .H] := by decide
  have hcrc : (crc16Ccitt chunk 0xFFFF).toNat < 2 ^ 16 := UInt16.toNat_lt _
  obtain ⟨hdr, hhdr, hlen⟩ := packValues_of_fits hformat
    (show List.Forall₂ Field.Fits _ [.int offset, .int chunk.length,
        .int (crc16Ccitt chunk 0xFFFF).toNat] by
      simp only [List.forall₂_cons, List.forall₂_nil_right_iff, Field.Fits, and_true]
      omega)
  refine ⟨hdr ++ chunk, ?_, ?_⟩
  · unfold dataPayload
    rw [hhdr]
    rfl
  · have hfields : hdr.length = 8 := hlen
    rw [List.length_append, hfields]
    omega

/-- **The data loop** comes to its end when every chunk is acknowledged. -/
theorem run_streamChunks {binary : List UInt8} (hsize : binary.length < 2 ^ 32) (more : List UInt8) :
    ∀ fuel offset seqNum, offset ≤ binary.length → binary.length < offset + fuel →
      seqNum + fuel < 2 ^ 32 → ∃ n sent, n ≤ fuel ∧ (streamChunks binary 1024 fuel offset seqNum).run
        ((List.replicate n ackFrame.toBytes).flatten ++ more) =
          ⟨sent, .ok (some (seqNum + n)), more⟩ := by
  intro fuel
  induction fuel with
  | zero =>
      intro offset seqNum hle hfuel _
      omega
  | succ fuel ih =>
      intro offset seqNum hle hfuel hseq
      by_cases hoffset : offset < binary.length
      · have hchunk : (slice binary offset (offset + 1024)).length =
            min 1024 (binary.length - offset) := by
          unfold slice
          rw [List.length_drop, List.length_take]
          omega
        obtain ⟨payload, hpayload, hshort⟩ := dataPayload_of_lt (show offset < 2 ^ 32 by omega)
          (show (slice binary offset (offset + 1024)).length ≤ 1024 by omega)
        obtain ⟨n, sent, hn, hrun⟩ := ih (offset + (slice binary offset (offset + 1024)).length)
          (seqNum + 1) (by omega) (by omega) (by omega)
        obtain ⟨data, hsend⟩ := run_sendRequest (show CMD_OTA_DATA < 2 ^ 16 by decide) hshort
          (show seqNum < 2 ^ 32 by omega)
          (ackFrame.toBytes ++ ((List.replicate n ackFrame.toBytes).flatten ++ more))
        refine ⟨n + 1, data :: sent, by omega, ?_⟩
        rw [List.replicate_succ, List.flatten_cons, List.append_assoc, streamChunks, if_pos hoffset]
        dsimp only
        rw [hpayload, Talk.ofOption_some_bind, Talk.run_bind, hsend]
        dsimp only
        rw [Talk.run_bind, run_recvReply_ack]
        dsimp only
        rw [if_neg (by decide), hrun, Nat.add_right_comm, Nat.add_assoc]
        rfl
      · refine ⟨0, [], Nat.zero_le _, ?_⟩
        rw [streamChunks, if_neg hoffset]
        rfl

theorem run_endTransfer (a : Args) {seqNum : Nat} (hseq : seqNum < 2 ^ 32) :
    ∃ data, (endTransfer a seqNum).run ackFrame.toBytes = ⟨[data], .ok (), []⟩ := by
  have hformat : parseFormat "<IB3s" = some [.I, .B, .s 3] := by decide
  have hcrc : totalCrc32 a < 2 ^ 32 := UInt32.toNat_lt _
  have hflag : (if a.autoReboot then 1 else 0) < 2 ^ 8 := by
    split
    · decide
    · decide
  obtain ⟨payload, hpayload, hlen⟩ := packValues_of_fits hformat
    (show List.Forall₂ Field.Fits _ [.int (totalCrc32 a), .int (if a.autoReboot then 1 else 0),
        .bytes [0, 0, 0]] by
      simp only [List.forall₂_cons, List.forall₂_nil_right_iff, Field.Fits, and_true]
      omega)
  have hshort : payload.length < 2 ^ 16 := by
    rw [hlen]
    decide
  obtain ⟨data, hsend⟩ := run_sendRequest (show CMD_OTA_END < 2 ^ 16 by decide) hshort hseq
    ackFrame.toBytes
  refine ⟨data, ?_⟩
  unfold endTransfer endPayload
  rw [hpayload, Talk.ofOption_some_bind, Talk.run_bind, hsend]
  rfl

/-- **There are sessions in which the script sends all of its requests.** -/
theorem session_completes {a : Args} (ha : a.InRange) :
    ∃ fuel incoming, (session a fuel incoming).result = .ok true ∧
      2 ≤ (session a fuel incoming).sent.length := by
  obtain ⟨hdrInfo, hparse, hversion⟩ := parseAppImageHeader_ok a.binaryData
  have hsize := ha.size
  obtain ⟨n, chunks, hn, hchunks⟩ := run_streamChunks (show a.binaryData.length < 2 ^ 32 by omega)
    ackFrame.toBytes (a.binaryData.length + 1) 0 3 (Nat.zero_le _) (by omega) (by omega)
  obtain ⟨last, hend⟩ := run_endTransfer a (show 3 + n < 2 ^ 32 by omega)
  obtain ⟨opening, hbegin⟩ := run_beginTransfer ha hversion
    ((List.replicate n ackFrame.toBytes).flatten ++ ackFrame.toBytes)
  obtain ⟨query, hquery⟩ := run_queryNode hdrInfo
    (beginFrame.toBytes ++ ((List.replicate n ackFrame.toBytes).flatten ++ ackFrame.toBytes))
  refine ⟨a.binaryData.length + 1, ackFrame.toBytes ++ (beginFrame.toBytes ++
    ((List.replicate n ackFrame.toBytes).flatten ++ ackFrame.toBytes)), ?_⟩
  unfold session runOta
  rw [hparse, Talk.ofExcept_ok_bind, Talk.run_bind, hquery]
  dsimp only
  rw [Talk.run_bind, hbegin]
  dsimp only
  rw [Talk.run_bind, hchunks]
  dsimp only
  rw [Talk.run_bind, hend]
  refine ⟨rfl, ?_⟩
  simp

/-! ## The session and the node -/

/-- The bytes of a dispatched frame. -/
def frameBytes : Received → Option (List UInt8)
  | .dispatched hdr payload => some (hdr.toBytes ++ payload)
  | .refused _ _ => none

/-- Whenever the script has sent all of its requests and none of their bytes is lost, `handleClient`
dispatches every request, in order. -/
def Served (a : Args) : Prop :=
  ∀ fuel incoming conn payloadBuffer,
    (session a fuel incoming).result = .ok true →
    conn.flatten = (session a fuel incoming).sent.flatten →
    ((CommandService.handleClient conn payloadBuffer).1.map fun act => frameBytes act.received) =
      (session a fuel incoming).sent.map some

theorem dispatched_of_session {a : Args} {fuel : Nat} {incoming : List UInt8}
    {conn : List (List UInt8)} (h : conn.flatten = (session a fuel incoming).sent.flatten)
    (payloadBuffer : BytePtr) :
    (CommandService.handleClient conn payloadBuffer).1.map ClientAction.received =
      [.dispatched infoRequest []] := by
  obtain ⟨later, hsent⟩ := session_sent a fuel incoming
  rw [hsent, List.flatten_cons] at h
  exact handleClient_infoRequest h payloadBuffer

theorem not_served {a : Args} (ha : a.InRange) : ¬ Served a := by
  intro hserved
  obtain ⟨fuel, incoming, hresult, hlen⟩ := session_completes ha
  -- nothing is lost, in one buffer
  have hconn : [(session a fuel incoming).sent.flatten].flatten =
      (session a fuel incoming).sent.flatten := List.append_nil _
  have hall := hserved fuel incoming _ (fun _ => 0) hresult hconn
  have hone := congrArg List.length (dispatched_of_session hconn fun _ => 0)
  have hmany := congrArg List.length hall
  simp only [List.length_map, List.length_singleton] at hone hmany
  omega

/-- **No session is served.**  For every image the node has room for and all arguments: in every
session, whatever comes back and however the network cuts the stream, `handleClient` dispatches the
query and nothing else; the sessions in which the script sends all of its requests are not served. -/
theorem session_never_served (a : Args) (ha : a.InRange) :
    (∀ fuel incoming conn payloadBuffer,
        conn.flatten = (session a fuel incoming).sent.flatten →
        (CommandService.handleClient conn payloadBuffer).1.map ClientAction.received =
          [.dispatched infoRequest []]) ∧
      ¬ Served a := by
  refine ⟨?_, not_served ha⟩
  intro fuel incoming conn payloadBuffer hconn
  exact dispatched_of_session hconn payloadBuffer

/-- One zero byte, sent with the script's defaults. -/
def oneByteArgs : Args := ⟨[0], 0x00010100, true, 1024⟩

/-- What comes back when every request of its session is acknowledged. -/
def oneByteReplies : List UInt8 :=
  ackFrame.toBytes ++ (beginFrame.toBytes ++ (ackFrame.toBytes ++ ackFrame.toBytes))

/-- The script gets to send its four requests, and the node, to which they come in two pieces, dispatches the
first one. -/
theorem session_never_served_one_byte :
    let sent := (session oneByteArgs 2 oneByteReplies).sent
    sent.length = 4 ∧ (session oneByteArgs 2 oneByteReplies).result.toOption = some true ∧
      (CommandService.handleClient [sent.flatten.take 20, sent.flatten.drop 20] fun _ => 0).1.map
          ClientAction.received = [.dispatched infoRequest []] ∧
      ¬ Served oneByteArgs := by
  have hnever := session_never_served oneByteArgs ⟨by decide, by decide, by decide⟩
  have hdone : (session oneByteArgs 2 oneByteReplies).sent.length = 4 ∧
      (session oneByteArgs 2 oneByteReplies).result.toOption = some true := by
    decide +kernel
  refine ⟨hdone.1, hdone.2, hnever.1 2 oneByteReplies _ _ ?_, hnever.2⟩
  simp

theorem one_byte_not_served : ¬ ∀ a : Args, a.InRange → Served a := by
  intro h
  have hrange : oneByteArgs.InRange := ⟨by decide, by decide, by decide⟩
  exact not_served hrange (h oneByteArgs hrange)

/-- The node's report stops the script after the query. -/
theorem session_of_report {p : PayloadDiscoveryPong} (hmac : p.macAddr.length = 6) {f : Frame}
    (hpayload : f.payload = p.toBytes) (hlen : f.hdr.payloadLen = UInt16.ofNat p.toBytes.length)
    (htype : f.hdr.msgType = MessageType.cmdGetNodeInfoResp.code) (a : Args) (fuel : Nat)
    (more : List UInt8) :
    session a fuel (f.toBytes ++ more) = ⟨[infoRequest.toBytes], .error .valueError, more⟩ := by
  obtain ⟨hdrInfo, hparse, -⟩ := parseAppImageHeader_ok a.binaryData
  have hsize : f.payload.length = 48 := by
    rw [hpayload, length_pong hmac]
  have hannounced : f.payload.length = f.hdr.payloadLen.toNat := by
    rw [hsize, hlen, length_pong hmac]
    rfl
  have hreply := run_recvReply hannounced more
  have hcheck := checkNode_of_le (Nat.le_of_eq hsize.symm) hdrInfo
  have hquery : (queryNode hdrInfo).run (f.toBytes ++ more) =
      ⟨[infoRequest.toBytes], .error .valueError, more⟩ := by
    unfold queryNode sendRequest
    rw [List.length_nil, makeHeader_infoRequest, Talk.ofOption_some_bind, Talk.run_bind,
      Talk.run_send]
    dsimp only
    rw [Talk.run_bind, hreply, htype]
    dsimp only
    rw [show MessageType.cmdGetNodeInfoResp.code.toNat = CMD_GET_NODE_INFO_RESP from rfl, hcheck]
    rfl
  unfold session runOta
  rw [hparse, Talk.ofExcept_ok_bind, Talk.run_bind, hquery]

/-- **With the node at the other end** the script does not get past the query. -/
theorem session_with_node {C : Type} [ITelemetryChannel C] (cfg : NodeConfig) (env : Env)
    (n : Node C) :
    ∃ frame, (CommandService.getNodeInfo cfg env n).1 = [.reply frame] ∧
      ∀ a fuel more, session a fuel (frame.toBytes ++ more) =
        ⟨[infoRequest.toBytes], .error .valueError, more⟩ := by
  refine ⟨_, rfl, ?_⟩
  exact session_of_report env.macAddr_length rfl rfl rfl

end EmbeddedPixel.OtaUpdater
