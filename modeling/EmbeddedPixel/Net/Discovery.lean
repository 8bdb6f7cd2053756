import EmbeddedPixel.Sys.Node

/-!
# The discovery service (`net/services/DiscoveryService.cpp`)

`handleIncomingPacket` as a `Reader` over the datagram.  What the service tells about the node is in
`Sys.Node`; `DiscoveryTask` holds the rest of its members.
-/

set_option autoImplicit false

namespace EmbeddedPixel

open Foundation

/-- `PayloadDiscoveryPing`, 8 bytes. -/
structure PayloadDiscoveryPing where
  challengeId : UInt32
  targetNodeId : UInt16
  deriving DecidableEq, Repr

def PayloadDiscoveryPing.ofPtr (p : BytePtr) : PayloadDiscoveryPing := ⟨u32At p 0, u16At p 4⟩

/-- The members of `DiscoveryService` that its own task uses. -/
structure DiscoveryTask where
  nodeId : UInt16
  seqNum : UInt32
  deriving DecidableEq, Repr

namespace DiscoveryService

variable (env : Env) (this : DiscoveryService) (task : DiscoveryTask)

/-- The payload of a `DISCOVERY_PONG`. -/
def pong (challengeId : UInt32) : PayloadDiscoveryPong where
  challengeId := challengeId
  nodeId := task.nodeId
  nodeState := this.state.code
  ipAddr := env.ipAddr
  macAddr := env.macAddr
  boardId := this.boardId
  fwVersion := this.fwVersion
  uptimeMs := env.uptimeMs 0
  hwUid := env.hwUid
  bootloaderVersion := this.bootloaderVersion
  featureFlags := this.featureFlags

/-- The answer to a ping. -/
def sendPong (netbufNew : Bool) (challengeId : UInt32) : Option Frame × DiscoveryTask :=
  let seqNum := task.seqNum + 1
  let hdr := populateHeader task.nodeId .discoveryPong seqNum 48 FLAG_IS_RESPONSE false none
  (if netbufNew then some ⟨hdr, (this.pong env task challengeId).toBytes⟩ else none,
    { task with seqNum := seqNum })

/-- A `DISCOVERY_PING` whose header is valid. -/
def handlePing (netbufNew : Bool) (hdr : PE_Header) : Reader (Option Frame × DiscoveryTask) :=
  if hdr.payloadLen < 8 then pure (none, task)
  else do
    let ping ← Reader.view 16 8 PayloadDiscoveryPing.ofPtr
    pure <|
      if ping.targetNodeId ≠ 0 ∧ ping.targetNodeId ≠ task.nodeId then (none, task)
      else this.sendPong env task netbufNew ping.challengeId

/-- `handleIncomingPacket`, for a datagram of `len` bytes; `netbufNew` is whether there is a buffer for
the answer. -/
def handleIncomingPacket (netbufNew : Bool) (len : Nat) : Reader (Option Frame × DiscoveryTask) :=
  if len < 16 then pure (none, task)
  else do
    let hdr ← Reader.view 0 16 PE_Header.ofPtr
    if validateHeader hdr len ≠ .ok then pure (none, task)
    else if hdr.msgType = MessageType.discoveryPing.code then this.handlePing env task netbufNew hdr
    else pure (none, task)

/-! ## Which datagrams are answered -/

/-- A valid `DISCOVERY_PING` for a node. -/
def IsPingFor (nodeId : UInt16) (p : BytePtr) (len : Nat) : Prop :=
  let hdr := PE_Header.ofPtr p
  let ping := PayloadDiscoveryPing.ofPtr (p.advance 16)
  validateHeader hdr len = .ok ∧ hdr.msgType = MessageType.discoveryPing.code ∧
    8 ≤ hdr.payloadLen ∧ (ping.targetNodeId = 0 ∨ ping.targetNodeId = nodeId)

theorem view_header (p : BytePtr) : (Reader.view 0 16 PE_Header.ofPtr).run p = PE_Header.ofPtr p := by
  rw [Reader.run_view]
  apply PE_Header.ofPtr_congr
  intro i hi
  rw [ofList_bytesAt p hi, Nat.zero_add]

theorem view_ping (p : BytePtr) :
    (Reader.view 16 8 PayloadDiscoveryPing.ofPtr).run p =
      PayloadDiscoveryPing.ofPtr (p.advance 16) := by
  simp (disch := decide) only [Reader.run_view, PayloadDiscoveryPing.ofPtr, u32At_ofList_bytesAt,
    u16At_ofList_bytesAt, u32At_advance, u16At_advance]

theorem length_of_validateHeader {hdr : PE_Header} {len : Nat} (h : validateHeader hdr len = .ok) :
    16 ≤ len := by
  obtain ⟨-, -, hlen⟩ := validateHeader_eq_ok.1 h
  omega

/-- **A datagram is answered exactly when it is a valid ping for the node** and there is a buffer. -/
theorem handleIncomingPacket_eq (netbufNew : Bool) (len : Nat) (p : BytePtr) :
    (IsPingFor task.nodeId p len →
      (this.handleIncomingPacket env task netbufNew len).run p =
        this.sendPong env task netbufNew (PayloadDiscoveryPing.ofPtr (p.advance 16)).challengeId) ∧
    (¬ IsPingFor task.nodeId p len →
      (this.handleIncomingPacket env task netbufNew len).run p = (none, task)) := by
  unfold IsPingFor handleIncomingPacket handlePing
  dsimp only
  by_cases hlen : len < 16
  · rw [if_pos hlen]
    refine ⟨fun h => ?_, fun _ => rfl⟩
    exact absurd (length_of_validateHeader h.1) (Nat.not_le.2 hlen)
  rw [if_neg hlen, Reader.run_bind, view_header]
  by_cases hvalid : validateHeader (PE_Header.ofPtr p) len = .ok
  swap
  · rw [if_pos hvalid]
    exact ⟨fun h => absurd h.1 hvalid, fun _ => rfl⟩
  rw [if_neg (not_not.2 hvalid)]
  by_cases htype : (PE_Header.ofPtr p).msgType = MessageType.discoveryPing.code
  swap
  · rw [if_neg htype]
    exact ⟨fun h => absurd h.2.1 htype, fun _ => rfl⟩
  rw [if_pos htype]
  by_cases hsize : (PE_Header.ofPtr p).payloadLen < 8
  · rw [if_pos hsize]
    exact ⟨fun h => absurd h.2.2.1 (UInt16.not_le.2 hsize), fun _ => rfl⟩
  rw [if_neg hsize, Reader.run_bind, view_ping, Reader.run_pure]
  by_cases htarget : (PayloadDiscoveryPing.ofPtr (p.advance 16)).targetNodeId ≠ 0 ∧
      (PayloadDiscoveryPing.ofPtr (p.advance 16)).targetNodeId ≠ task.nodeId
  · rw [if_pos htarget]
    exact ⟨fun h => absurd h.2.2.2 (not_or.2 htarget), fun _ => rfl⟩
  · rw [if_neg htarget]
    refine ⟨fun _ => rfl, fun h => absurd ⟨hvalid, htype, UInt16.not_lt.1 hsize, ?_⟩ h⟩
    by_contra hother
    exact htarget (not_or.1 hother)

end DiscoveryService

end EmbeddedPixel
