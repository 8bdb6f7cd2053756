import EmbeddedPixel.Net.Discovery

/-!
# What a datagram on the discovery port gets

`handleIncomingPacket` between the datagram it is given and the one it sends back.  Its three length checks
keep every read inside the datagram (`reach_le`), whatever the length field says, and it sends one pong to
the sender exactly when the datagram is a ping meant for the node: `answer_iff`.
-/

set_option autoImplicit false

namespace EmbeddedPixel

open Foundation

/-- A received datagram: `netbuf_data`, `netbuf_fromaddr` and `netbuf_fromport`. -/
structure ReceivedDatagram where
  data : BytePtr
  len : Nat
  fromIp : UInt32
  fromPort : UInt16

/-- A `netconn_sendto`. -/
structure SentDatagram where
  bytes : List UInt8
  toIp : UInt32
  toPort : UInt16
  deriving DecidableEq, Repr

namespace DiscoveryService

variable (env : Env) (this : DiscoveryService) (task : DiscoveryTask)

/-- `handleIncomingPacket`, with the address it sends its answer to. -/
def answer (netbufNew : Bool) (rxBuf : ReceivedDatagram) : List SentDatagram × DiscoveryTask :=
  let r := (this.handleIncomingPacket env task netbufNew rxBuf.len).run rxBuf.data
  (r.1.toList.map fun pong => ⟨pong.toBytes, rxBuf.fromIp, rxBuf.fromPort⟩, r.2)

/-! ## The reads -/

/-- **No read at or beyond the datagram's length.** -/
theorem reach_le (netbufNew : Bool) (len : Nat) (p : BytePtr) :
    (this.handleIncomingPacket env task netbufNew len).reach p ≤ len := by
  unfold handleIncomingPacket
  split
  · exact Nat.zero_le _
  · rename_i hlen
    have hheader : Reader.blockEnd 0 16 ≤ len := Reader.blockEnd_le (by omega)
    rw [Reader.reach_bind, view_header, Reader.reach_view]
    refine Nat.max_le.2 ⟨hheader, ?_⟩
    split
    · exact Nat.zero_le _
    · rename_i hvalid
      obtain ⟨-, -, hpayload⟩ := validateHeader_eq_ok.1 (not_not.1 hvalid)
      split
      · unfold handlePing
        split
        · exact Nat.zero_le _
        · rename_i hsize
          have hsize : 8 ≤ (PE_Header.ofPtr p).payloadLen.toNat := UInt16.not_lt.1 hsize
          have hping : Reader.blockEnd 16 8 ≤ len := Reader.blockEnd_le (by omega)
          rw [Reader.reach_bind, Reader.reach_view, Reader.reach_pure, Nat.max_zero]
          exact hping
      · exact Nat.zero_le _

/-! ## The answer -/

/-- A datagram that is a ping meant for a node. -/
structure PingFor (nodeId : UInt16) (rxBuf : ReceivedDatagram) : Prop where
  length : 24 ≤ rxBuf.len
  magic : u16At rxBuf.data 0 = 0x5045
  version : rxBuf.data 2 = 1
  msgType : u16At rxBuf.data 6 = MessageType.discoveryPing.code
  payloadLen : 8 ≤ (u16At rxBuf.data 12).toNat ∧ (u16At rxBuf.data 12).toNat ≤ rxBuf.len - 16
  target : u16At rxBuf.data 20 = 0 ∨ u16At rxBuf.data 20 = nodeId

theorem pingFor_iff (nodeId : UInt16) (rxBuf : ReceivedDatagram) :
    PingFor nodeId rxBuf ↔ IsPingFor nodeId rxBuf.data rxBuf.len := by
  have htarget : (PayloadDiscoveryPing.ofPtr (rxBuf.data.advance 16)).targetNodeId =
      u16At rxBuf.data 20 := u16At_advance rxBuf.data 16 4
  unfold IsPingFor
  dsimp only
  rw [validateHeader_eq_ok, htarget, UInt16.le_iff_toNat_le]
  constructor
  · intro h
    have hlen := h.payloadLen
    exact ⟨⟨h.magic, h.version, show 16 + (u16At rxBuf.data 12).toNat ≤ _ by omega⟩, h.msgType,
      hlen.1, h.target⟩
  · rintro ⟨⟨hmagic, hversion, hlen⟩, htype, hsize, ht⟩
    have hlen : 16 + (u16At rxBuf.data 12).toNat ≤ rxBuf.len := hlen
    have hsize : 8 ≤ (u16At rxBuf.data 12).toNat := hsize
    exact ⟨by omega, hmagic, hversion, htype, ⟨hsize, by omega⟩, ht⟩

/-- A datagram that is a pong to the sender of another, and echoes its challenge. -/
structure PongTo (rxBuf : ReceivedDatagram) (d : SentDatagram) : Prop where
  toIp : d.toIp = rxBuf.fromIp
  toPort : d.toPort = rxBuf.fromPort
  length : d.bytes.length = 64
  msgType : (PE_Header.ofPtr (BytePtr.ofList d.bytes)).msgType = MessageType.discoveryPong.code
  challengeId : u32At (BytePtr.ofList d.bytes) 16 = u32At rxBuf.data 16

theorem pongTo_sent (rxBuf : ReceivedDatagram) {f : Frame} {task' : DiscoveryTask}
    (h : this.sendPong env task true (PayloadDiscoveryPing.ofPtr (rxBuf.data.advance 16)).challengeId =
      (some f, task')) : PongTo rxBuf ⟨f.toBytes, rxBuf.fromIp, rxBuf.fromPort⟩ := by
  cases h
  refine ⟨rfl, rfl, ?_, ?_, ?_⟩
  · simp [Frame.toBytes, PayloadDiscoveryPong.toBytes, pong, env.macAddr_length]
  · exact congrArg PE_Header.msgType (PE_Header.ofPtr_append _ _)
  · have hchallenge : (PayloadDiscoveryPing.ofPtr (rxBuf.data.advance 16)).challengeId =
        u32At rxBuf.data 16 := u32At_advance rxBuf.data 16 0
    rw [← hchallenge]
    exact u32At_ofList_drop rfl

/-- **What a datagram gets.**  No byte at or beyond its length is read, nothing changes but `seq_num_`, and
one pong goes to its sender, or nothing is sent; the pong if and only if the datagram is a ping meant for the
node and there is a buffer for the answer. -/
theorem answer_iff (netbufNew : Bool) (rxBuf : ReceivedDatagram) :
    (this.handleIncomingPacket env task netbufNew rxBuf.len).reach rxBuf.data ≤ rxBuf.len ∧
      (∃ seqNum, (this.answer env task netbufNew rxBuf).2 = { task with seqNum := seqNum }) ∧
      ((this.answer env task netbufNew rxBuf).1 = [] ∨
        ∃ pong, (this.answer env task netbufNew rxBuf).1 = [pong] ∧ PongTo rxBuf pong) ∧
      ((this.answer env task netbufNew rxBuf).1 ≠ [] ↔
        netbufNew = true ∧ PingFor task.nodeId rxBuf) := by
  refine ⟨this.reach_le env task netbufNew rxBuf.len rxBuf.data, ?_⟩
  rw [pingFor_iff]
  unfold answer
  dsimp only
  obtain ⟨hyes, hno⟩ := this.handleIncomingPacket_eq env task netbufNew rxBuf.len rxBuf.data
  by_cases hping : IsPingFor task.nodeId rxBuf.data rxBuf.len
  · rw [hyes hping]
    cases netbufNew with
    | false =>
        refine ⟨⟨task.seqNum + 1, rfl⟩, Or.inl rfl, fun h => absurd rfl h, fun h => ?_⟩
        exact absurd h.1 (by decide)
    | true =>
        refine ⟨⟨task.seqNum + 1, rfl⟩, Or.inr ⟨_, rfl, ?_⟩, fun _ => ⟨rfl, hping⟩, fun _ => ?_⟩
        · exact this.pongTo_sent env task rxBuf rfl
        · exact List.cons_ne_nil _ _
  · rw [hno hping]
    refine ⟨⟨task.seqNum, rfl⟩, Or.inl rfl, fun h => absurd rfl h, fun h => ?_⟩
    exact absurd h.2 hping

end DiscoveryService

end EmbeddedPixel
