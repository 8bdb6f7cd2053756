import EmbeddedPixel.Host.NodeReport
import EmbeddedPixel.Net.Heartbeats

/-!
# Waiting for the node after the reboot

The last part of `run_ota`: for 25 seconds the script broadcasts a ping to `PORT_DISCOVERY` and reads what
comes back to the port that its socket was given.  Heartbeats go to `PORT_DISCOVERY`, so from a node that
port gets pongs only, and the decoding of a pong raises.

* `onDatagram_heartbeat` — a heartbeat would be understood.
* `wait_never_verifies` — whatever the nodes of the network do and however their datagrams are lost,
  doubled or reordered, the script never says that the node is back.
-/

set_option autoImplicit false

namespace EmbeddedPixel.OtaUpdater

open Foundation DiscoveryService

/-- How the wait ends: a node is online (with the target version or not), nothing came before the deadline,
or an exception. -/
inductive Waited where
  | online (fwVer uptime : Nat) (verified : Bool)
  | timedOut
  | raised (e : Stop)
  deriving DecidableEq, Repr

/-- The ping of each turn. -/
def pingDatagram : Option (List UInt8) := do
  let pingPayload ← packValues "<IH2s" [.int 0x12345678, .int 0, .bytes [0, 0]]
  let pingHdr ← makeHeader 0x0002 pingPayload.length 1
  pure (pingHdr ++ pingPayload)

/-- 5. Monitor reboot: what each `recvfrom(256)` before the deadline gives, `none` for a timeout. -/
def monitorReboot (targetVersion : Nat) : List (Option (List UInt8)) → Waited
  | [] => .timedOut
  | none :: rest => monitorReboot targetVersion rest
  | some data :: rest =>
    match onDatagram (data.take 256) with
    | .error e => .raised e
    | .ok none => monitorReboot targetVersion rest
    | .ok (some (fwVer, uptime)) => .online fwVer uptime (fwVer == targetVersion)

/-! ## The two datagrams of a node -/

/-- **A heartbeat is understood.** -/
theorem onDatagram_heartbeat {hdr : PE_Header} (payload : PayloadHeartbeat)
    (htype : hdr.msgType = MessageType.heartbeat.code) :
    onDatagram (hdr.toBytes ++ payload.toBytes) =
      .ok (some (payload.fwVersion.toNat, payload.uptimeMs.toNat)) := by
  have hformat : parseFormat "<II" = some [.I, .I] := by decide
  have hpayload : (hdr.toBytes ++ payload.toBytes).drop 16 = payload.toBytes :=
    List.drop_left' (PE_Header.length_toBytes hdr)
  have hcode : hdr.msgType.toNat = 1 := by
    rw [htype]
    rfl
  have huptime : u32At (BytePtr.ofList payload.toBytes) 0 = payload.uptimeMs :=
    u32At_ofList_drop rfl
  have hversion : u32At (BytePtr.ofList payload.toBytes) 4 = payload.fwVersion :=
    u32At_ofList_drop rfl
  have hlen : payload.toBytes.length ≥ 8 := by simp [PayloadHeartbeat.toBytes]
  unfold onDatagram
  rw [if_neg (by simp), parseHeader_toBytes, hcode]
  dsimp only [bind, Except.bind, Option.map_some]
  rw [hpayload, if_pos hlen, unpackOrRaise_slice hformat hlen rfl, ← huptime, ← hversion]
  rfl

/-- **A pong raises.** -/
theorem onDatagram_pong {hdr : PE_Header} {payload : PayloadDiscoveryPong}
    (htype : hdr.msgType = MessageType.discoveryPong.code) (hmac : payload.macAddr.length = 6) :
    onDatagram (hdr.toBytes ++ payload.toBytes) = .error .valueError := by
  have hlen := length_pong hmac
  have hpayload : (hdr.toBytes ++ payload.toBytes).drop 16 = payload.toBytes :=
    List.drop_left' (PE_Header.length_toBytes hdr)
  have hcode : hdr.msgType.toNat = 3 := by
    rw [htype]
    rfl
  unfold onDatagram
  rw [if_neg (by simp), parseHeader_toBytes, hcode]
  dsimp only [bind, Except.bind, Option.map_some]
  rw [hpayload, if_pos (show payload.toBytes.length ≥ 48 by omega),
    decodePong_of_le (Nat.le_of_eq hlen.symm)]
  rfl

/-! ## The wait -/

/-- A datagram that the network gives to the socket at an address. -/
def Delivered (ip : UInt32) (port : UInt16) (d : SentDatagram) : Prop :=
  d.toPort = port ∧ (d.toIp = ip ∨ d.toIp = IPADDR_BROADCAST)

/-- What a node sends to a port that is not `PORT_DISCOVERY` raises. -/
theorem raises_of_sent {d : SentDatagram} (hsent : Loop.SentHeartbeat d ∨ Loop.SentPong d)
    (hport : d.toPort ≠ PORT_DISCOVERY) : onDatagram (d.bytes.take 256) = .error .valueError := by
  obtain ⟨hdr, payload, -, -, -, toPort⟩ | ⟨hdr, payload, bytes, msgType, mac⟩ := hsent
  · exact absurd toPort hport
  · have hlen := length_pong mac
    rw [bytes, List.take_of_length_le (by rw [List.length_append, PE_Header.length_toBytes]; omega)]
    exact onDatagram_pong msgType mac

theorem monitorReboot_of_raises {targetVersion : Nat} {events : List (Option (List UInt8))}
    (h : ∀ data, some data ∈ events → onDatagram (data.take 256) = .error .valueError) :
    monitorReboot targetVersion events =
      if events.all Option.isNone then .timedOut else .raised .valueError := by
  induction events with
  | nil => rfl
  | cons event events ih =>
      cases event with
      | none =>
          rw [monitorReboot, ih fun data hdata => h data (List.mem_cons_of_mem _ hdata)]
          rfl
      | some data =>
          rw [monitorReboot, h data List.mem_cons_self]
          rfl

/-! ## The ping -/

def ping : List UInt8 :=
  [0x45, 0x50, 0x01, 0x00, 0x00, 0x00, 0x02, 0x00, 0x01, 0x00, 0x00, 0x00, 0x08, 0x00, 0x00, 0x00,
    0x78, 0x56, 0x34, 0x12, 0x00, 0x00, 0x00, 0x00]

theorem pingDatagram_eq : pingDatagram = some ping := by
  decide +kernel

/-- **Every node answers the ping**, if it gets it in a turn that has a buffer. -/
theorem ping_answered {pdMsToTicks : UInt32 → UInt32} {s : Loop} {t : Turn} {ip : UInt32} {port : UInt16}
    (hready : t.ready = true) (hbuf : t.pong.netbufNew = true)
    (hrx : t.rxBuf = some ⟨BytePtr.ofList ping, ping.length, ip, port⟩) :
    ∃ d ∈ (s.turn pdMsToTicks t).1, Delivered ip port d := by
  have hping : IsPingFor (s.beat pdMsToTicks t).2.task.nodeId (BytePtr.ofList ping) ping.length := by
    refine ⟨by decide, by decide, by decide, Or.inl (by decide)⟩
  unfold Loop.turn Loop.receive answer
  rw [hready, Bool.not_true, if_neg Bool.false_ne_true, hrx]
  dsimp only
  rw [(t.pong.this.handleIncomingPacket_eq t.pong.env _ t.pong.netbufNew _ _).1 hping]
  unfold sendPong
  rw [hbuf]
  exact ⟨_, List.mem_append_right _ (List.mem_singleton_self _), rfl, Or.inl rfl⟩

/-- **The wait never ends well.**  Any number of nodes take any turns; the script's socket, at a port other
than `PORT_DISCOVERY`, gets any of the datagrams they send there, in any order and as often as it likes.
The script times out if none comes, and else raises `ValueError`; and one is sent there by each node that
gets the script's ping and has a buffer. -/
theorem wait_never_verifies {N : Type} (pdMsToTicks : UInt32 → UInt32) (nodes : N → Loop)
    (turns : N → List Turn) (ip : UInt32) (port : UInt16) (hport : port ≠ PORT_DISCOVERY) (targetVersion : Nat)
    (events : List (Option (List UInt8)))
    (hevents : ∀ data, some data ∈ events →
      ∃ n, ∃ d ∈ ((nodes n).run pdMsToTicks (turns n)).1.flatten,
        Delivered ip port d ∧ d.bytes = data) :
    monitorReboot targetVersion events =
        (if events.all Option.isNone then .timedOut else .raised .valueError) ∧
      ∀ n, ∀ t ∈ turns n, t.ready = true → t.pong.netbufNew = true →
        t.rxBuf = pingDatagram.map (fun ping => ⟨BytePtr.ofList ping, ping.length, ip, port⟩) →
        ∃ d ∈ ((nodes n).run pdMsToTicks (turns n)).1.flatten, Delivered ip port d := by
  refine ⟨monitorReboot_of_raises fun data hdata => ?_, fun n t ht hready hbuf hrx => ?_⟩
  · obtain ⟨n, d, hd, hto, rfl⟩ := hevents data hdata
    exact raises_of_sent (Loop.sent_of_run hd) (by rw [hto.1]; exact hport)
  · obtain ⟨s, hs⟩ := Loop.turn_subset_run (s := nodes n) ht
    rw [pingDatagram_eq] at hrx
    obtain ⟨d, hd, hto⟩ := ping_answered (s := s) hready hbuf hrx
    exact ⟨d, hs hd, hto⟩

/-- One node: a lost answer, then one that comes. -/
theorem wait_never_verifies_one_node :
    let m : Moment := ⟨.create 0x01020000, ⟨fun _ => 0, 0xC0A8016F, List.replicate 6 0, rfl, (0, 0, 0),
      none, fun _ => 0⟩, true⟩
    let t : Turn := ⟨true, 0, m, some ⟨BytePtr.ofList ping, 24, 0xC0A80101, 40000⟩, m⟩
    let sent := ((Loop.enter 7 0).run id [t]).1.flatten
    sent.length = 1 ∧
      monitorReboot 0x01020000 (none :: sent.map fun d => some d.bytes) = .raised .valueError := by
  intro m t sent
  refine ⟨by decide +kernel, ?_⟩
  have hsent : sent.all (fun d => decide (d.toPort = 40000 ∧ d.toIp = 0xC0A80101)) = true := by
    decide +kernel
  refine ((wait_never_verifies id (fun _ : Unit => Loop.enter 7 0) (fun _ => [t]) 0xC0A80101 40000
    (by decide) 0x01020000 _ fun data hdata => ?_).1).trans (by decide +kernel)
  obtain hdata | hdata := List.mem_cons.1 hdata
  · cases hdata
  · obtain ⟨d, hd, hbytes⟩ := List.mem_map.1 hdata
    have hto := of_decide_eq_true (List.all_eq_true.1 hsent d hd)
    exact ⟨(), d, hd, ⟨hto.1, Or.inl hto.2⟩, Option.some.inj hbytes⟩

end EmbeddedPixel.OtaUpdater
