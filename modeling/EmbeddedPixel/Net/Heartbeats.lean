import EmbeddedPixel.Foundation.Counters
import EmbeddedPixel.Net.DiscoveryAnswers

/-!
# The loop of the discovery service

`DiscoveryService::run` from the time its socket is bound: each turn sends the heartbeat when 1000 ticks have
passed since the last one, then handles the datagram that `netconn_recv` has, if it has one.

* `seqNums_follow` — what is sent carries the numbers of one counter in their order, and a number is
  missing only where lwIP had no buffer.
* `heartbeats_paced` — the heartbeats are 1000 ticks apart or more, and where none is missing as close to
  that as the loop comes round, also across a wrap-around of the tick counter.
-/

set_option autoImplicit false

namespace EmbeddedPixel

open Foundation

def PORT_DISCOVERY : UInt16 := 50000

/-- `PayloadHeartbeat`, 16 bytes. -/
structure PayloadHeartbeat where
  uptimeMs : UInt32
  fwVersion : UInt32
  nodeState : UInt8
  activeStreams : UInt8
  vddMv : UInt16
  coreTempCX10 : Int16
  featureFlagsLow : UInt16
  deriving DecidableEq, Repr

def PayloadHeartbeat.toBytes (p : PayloadHeartbeat) : List UInt8 :=
  u32le p.uptimeMs ++ u32le p.fwVersion ++ [p.nodeState, p.activeStreams] ++ u16le p.vddMv ++
    u16le p.coreTempCX10.toUInt16 ++ u16le p.featureFlagsLow

/-- The header of a datagram. -/
def SentDatagram.hdr (d : SentDatagram) : PE_Header := PE_Header.ofPtr (BytePtr.ofList d.bytes)

namespace DiscoveryService

/-- What one send reads: the members that other tasks set, the world outside, and whether `netbuf_new` has a
buffer. -/
structure Moment where
  this : DiscoveryService
  env : Env
  netbufNew : Bool

section Heartbeat

variable (env : Env) (this : DiscoveryService) (task : DiscoveryTask)

/-- The payload of a `HEARTBEAT`. -/
def heartbeat : PayloadHeartbeat where
  uptimeMs := env.uptimeMs 0
  fwVersion := this.fwVersion
  nodeState := this.state.code.toUInt8
  activeStreams := if this.state = .streaming then 0x01 else 0x00
  vddMv := 3300
  coreTempCX10 :=
    match env.temperature with
    | none => 250
    | some currentTemp => (currentTemp * 10).toInt16
  featureFlagsLow := (this.featureFlags &&& 0xFFFF).toUInt16

/-- `sendHeartbeat`: the number is taken before there is a buffer. -/
def sendHeartbeat (netbufNew : Bool) : List SentDatagram × DiscoveryTask :=
  let seqNum := task.seqNum + 1
  let hdr := populateHeader task.nodeId .heartbeat seqNum 16 0 false none
  (if netbufNew then
      [⟨hdr.toBytes ++ (this.heartbeat env).toBytes, IPADDR_BROADCAST, PORT_DISCOVERY⟩]
    else [],
    { task with seqNum := seqNum })

end Heartbeat

/-- One turn of the loop: whether the network is ready, the tick count, the datagram that `netconn_recv`
gives, and what the two sends find. -/
structure Turn where
  ready : Bool
  now : UInt32
  hb : Moment
  rxBuf : Option ReceivedDatagram
  pong : Moment

/-- The variables of the loop. -/
structure Loop where
  task : DiscoveryTask
  lastHbTick : UInt32
  deriving DecidableEq, Repr

/-- The loop as it is entered at tick `now`. -/
def Loop.enter (nodeId : UInt16) (now : UInt32) : Loop := ⟨⟨nodeId, 0⟩, now⟩

namespace Loop

variable (pdMsToTicks : UInt32 → UInt32) (s : Loop)

/-- 1. Periodic heartbeat transmission; `pdMsToTicks` is that of FreeRTOS. -/
def beat (t : Turn) : List SentDatagram × Loop :=
  if t.now - s.lastHbTick ≥ pdMsToTicks 1000 then
    let r := t.hb.this.sendHeartbeat t.hb.env s.task t.hb.netbufNew
    (r.1, ⟨r.2, t.now⟩)
  else ([], s)

/-- 2. Receive and process discovery packets. -/
def receive (t : Turn) : List SentDatagram × Loop :=
  match t.rxBuf with
  | none => ([], s)
  | some rxBuf =>
    let r := t.pong.this.answer t.pong.env s.task t.pong.netbufNew rxBuf
    (r.1, { s with task := r.2 })

/-- One turn of the loop. -/
def turn (t : Turn) : List SentDatagram × Loop :=
  if !t.ready then ([], s)
  else
    let hb := s.beat pdMsToTicks t
    let rx := hb.2.receive t
    (hb.1 ++ rx.1, rx.2)

/-- The loop, turn by turn: what each turn sent, and the variables at the end. -/
def run : Loop → List Turn → List (List SentDatagram) × Loop
  | s, [] => ([], s)
  | s, t :: turns =>
    let r := run (s.turn pdMsToTicks t).2 turns
    ((s.turn pdMsToTicks t).1 :: r.1, r.2)

/-! ## The sequence numbers -/

/-- A turn whose sends have their buffers. -/
def Buffered (t : Turn) : Prop := t.hb.netbufNew = true ∧ t.pong.netbufNew = true

/-- Some datagrams of a node take the next `k` numbers of its counter: every one if `all` holds, else some of
them are missing. -/
structure Numbered (all : Prop) (s s' : Loop) (k : Nat) (sent : List SentDatagram) : Prop where
  nodeId : s'.task.nodeId = s.task.nodeId
  seqNum : s'.task.seqNum = s.task.seqNum + UInt32.ofNat k
  valid : ∀ d ∈ sent,
    validateHeader d.hdr d.bytes.length = .ok ∧ d.hdr.nodeId = s.task.nodeId
  sublist : (sent.map (·.hdr.seqNum)).Sublist (Counter.following s.task.seqNum k)
  eq : all → sent.map (·.hdr.seqNum) = Counter.following s.task.seqNum k

namespace Numbered

variable {s} {s' s'' : Loop} {all all' : Prop} {j k : Nat} {sent sent' : List SentDatagram}

theorem refl : Numbered all s s 0 [] where
  nodeId := rfl
  seqNum := (UInt32.add_zero _).symm
  valid := by simp
  sublist := .slnil
  eq _ := rfl

theorem trans (h : Numbered all s s' j sent) (h' : Numbered all s' s'' k sent') :
    Numbered all s s'' (j + k) (sent ++ sent') where
  nodeId := h'.nodeId.trans h.nodeId
  seqNum := by rw [h'.seqNum, h.seqNum, UInt32.add_assoc, UInt32.ofNat_add]
  valid d hd := by
    obtain hd | hd := List.mem_append.1 hd
    · exact h.valid d hd
    · rw [← h.nodeId]
      exact h'.valid d hd
  sublist := by
    rw [List.map_append, Counter.following_add, ← h.seqNum]
    exact h.sublist.append h'.sublist
  eq hall := by
    rw [List.map_append, Counter.following_add, ← h.seqNum, h.eq hall, h'.eq hall]

theorem imp (h : Numbered all s s' k sent) (hall : all' → all) : Numbered all' s s' k sent :=
  { h with eq := fun h' => h.eq (hall h') }

/-- A frame with the next number, or none for want of a buffer. -/
theorem send (type : MessageType) (flags : UInt8) (ip : UInt32) (port : UInt16) (netbufNew : Bool)
    {size : UInt16} {payload : List UInt8} (hsize : payload.length = size.toNat)
    (hnext : s'.task = { s.task with seqNum := s.task.seqNum + 1 }) :
    Numbered (netbufNew = true) s s' 1
      (if netbufNew then
        [⟨(populateHeader s.task.nodeId type (s.task.seqNum + 1) size flags false none).toBytes ++
          payload, ip, port⟩]
      else []) := by
  set hdr := populateHeader s.task.nodeId type (s.task.seqNum + 1) size flags false none
  have hread : (SentDatagram.mk (hdr.toBytes ++ payload) ip port).hdr = hdr :=
    PE_Header.ofPtr_append _ _
  have hvalid : validateHeader hdr (hdr.toBytes ++ payload).length = .ok := by
    refine validateHeader_eq_ok.2 ⟨rfl, rfl, ?_⟩
    rw [List.length_append, PE_Header.length_toBytes, hsize]
    exact le_rfl
  refine ⟨by rw [hnext], by rw [hnext]; rfl, ?_, ?_, ?_⟩
  · intro d hd
    cases netbufNew with
    | false => cases hd
    | true =>
        obtain rfl := List.mem_singleton.1 hd
        rw [hread]
        exact ⟨hvalid, rfl⟩
  · cases netbufNew with
    | false => exact List.nil_sublist _
    | true =>
        rw [if_pos rfl, List.map_singleton, hread]
        exact .refl _
  · rintro rfl
    rw [if_pos rfl, List.map_singleton, hread]
    rfl

end Numbered

theorem beat_numbered (t : Turn) :
    ∃ k ≤ 1, Numbered (t.hb.netbufNew = true) s (s.beat pdMsToTicks t).2 k (s.beat pdMsToTicks t).1 := by
  unfold beat
  split
  · exact ⟨1, le_rfl, Numbered.send .heartbeat 0 _ _ _ rfl rfl⟩
  · exact ⟨0, Nat.zero_le 1, .refl⟩

theorem receive_numbered (t : Turn) :
    ∃ k ≤ 1, Numbered (t.pong.netbufNew = true) s (s.receive t).2 k (s.receive t).1 := by
  unfold receive
  split
  · exact ⟨0, Nat.zero_le 1, .refl⟩
  · rename_i rxBuf _
    obtain ⟨hyes, hno⟩ := t.pong.this.handleIncomingPacket_eq t.pong.env s.task t.pong.netbufNew
      rxBuf.len rxBuf.data
    unfold answer
    dsimp only
    by_cases hping : IsPingFor s.task.nodeId rxBuf.data rxBuf.len
    · rw [hyes hping]
      set challengeId := (PayloadDiscoveryPing.ofPtr (rxBuf.data.advance 16)).challengeId
      have hlen : (t.pong.this.pong t.pong.env s.task challengeId).toBytes.length =
          (48 : UInt16).toNat := by
        simp [PayloadDiscoveryPong.toBytes, pong, t.pong.env.macAddr_length]
      have hsent : Numbered (t.pong.netbufNew = true) s
          ⟨{ s.task with seqNum := s.task.seqNum + 1 }, s.lastHbTick⟩ 1 _ :=
        Numbered.send .discoveryPong FLAG_IS_RESPONSE rxBuf.fromIp rxBuf.fromPort _ hlen rfl
      refine ⟨1, le_rfl, ?_⟩
      unfold sendPong
      cases hbuf : t.pong.netbufNew with
      | false =>
          rw [hbuf] at hsent
          exact hsent
      | true =>
          rw [hbuf] at hsent
          exact hsent
    · rw [hno hping]
      exact ⟨0, Nat.zero_le 1, .refl⟩

theorem turn_numbered (t : Turn) :
    ∃ k ≤ 2, Numbered (Buffered t) s (s.turn pdMsToTicks t).2 k (s.turn pdMsToTicks t).1 := by
  unfold turn
  split
  · exact ⟨0, Nat.zero_le 2, .refl⟩
  · obtain ⟨j, hj, hbeat⟩ := s.beat_numbered pdMsToTicks t
    obtain ⟨k, hk, hreceive⟩ := (s.beat pdMsToTicks t).2.receive_numbered t
    exact ⟨j + k, by omega, (hbeat.imp And.left).trans (hreceive.imp And.right)⟩

theorem run_numbered (turns : List Turn) :
    ∃ k ≤ 2 * turns.length,
      Numbered (∀ t ∈ turns, Buffered t) s (s.run pdMsToTicks turns).2 k
        (s.run pdMsToTicks turns).1.flatten := by
  induction turns generalizing s with
  | nil => exact ⟨0, le_rfl, .refl⟩
  | cons t turns ih =>
      obtain ⟨j, hj, hturn⟩ := s.turn_numbered pdMsToTicks t
      obtain ⟨k, hk, hrest⟩ := ih (s.turn pdMsToTicks t).2
      refine ⟨j + k, by rw [List.length_cons]; omega, ?_⟩
      refine (hturn.imp ?_).trans (hrest.imp ?_)
      · exact fun hall => hall t List.mem_cons_self
      · exact fun hall u hu => hall u (List.mem_cons_of_mem t hu)

/-- **One counter for everything that is sent.**  Over any turns of the loop, whatever is received and
whenever a buffer is missing: each datagram sent is a valid frame of the node; their sequence numbers come in
the order of the counter, none twice within `2 ^ 31` turns; and with a buffer for each, none is missing. -/
theorem seqNums_follow (turns : List Turn) :
    ∃ k ≤ 2 * turns.length,
      (s.run pdMsToTicks turns).2.task.seqNum = s.task.seqNum + UInt32.ofNat k ∧
      (∀ d ∈ (s.run pdMsToTicks turns).1.flatten,
        validateHeader d.hdr d.bytes.length = .ok ∧ d.hdr.nodeId = s.task.nodeId) ∧
      ((s.run pdMsToTicks turns).1.flatten.map (·.hdr.seqNum)).Sublist
        (Counter.following s.task.seqNum k) ∧
      (turns.length ≤ 2 ^ 31 → ((s.run pdMsToTicks turns).1.flatten.map (·.hdr.seqNum)).Nodup) ∧
      ((∀ t ∈ turns, Buffered t) →
        (s.run pdMsToTicks turns).1.flatten.map (·.hdr.seqNum) = Counter.following s.task.seqNum k) := by
  obtain ⟨k, hk, h⟩ := s.run_numbered pdMsToTicks turns
  refine ⟨k, hk, h.seqNum, h.valid, h.sublist, fun hroom => ?_, h.eq⟩
  exact h.sublist.nodup (Counter.following_nodup _ (by omega))

/-! ## What is sent -/

/-- A heartbeat to everyone. -/
def SentHeartbeat (d : SentDatagram) : Prop :=
  ∃ (hdr : PE_Header) (payload : PayloadHeartbeat), d.bytes = hdr.toBytes ++ payload.toBytes ∧
    hdr.msgType = MessageType.heartbeat.code ∧ d.toIp = IPADDR_BROADCAST ∧ d.toPort = PORT_DISCOVERY

/-- A pong to whoever asked. -/
def SentPong (d : SentDatagram) : Prop :=
  ∃ (hdr : PE_Header) (payload : PayloadDiscoveryPong), d.bytes = hdr.toBytes ++ payload.toBytes ∧
    hdr.msgType = MessageType.discoveryPong.code ∧ payload.macAddr.length = 6

variable {pdMsToTicks s} {d : SentDatagram}

theorem sentHeartbeat {t : Turn} (hd : d ∈ (s.beat pdMsToTicks t).1) : SentHeartbeat d := by
  unfold beat sendHeartbeat at hd
  split at hd
  · dsimp only at hd
    split at hd
    · obtain rfl := List.mem_singleton.1 hd
      exact ⟨_, _, rfl, rfl, rfl, rfl⟩
    · cases hd
  · cases hd

theorem sentPong {t : Turn} (hd : d ∈ (s.receive t).1) : SentPong d := by
  unfold receive at hd
  split at hd
  · cases hd
  · rename_i rxBuf _
    obtain ⟨hyes, hno⟩ := t.pong.this.handleIncomingPacket_eq t.pong.env s.task t.pong.netbufNew
      rxBuf.len rxBuf.data
    unfold answer at hd
    dsimp only at hd
    by_cases hping : IsPingFor s.task.nodeId rxBuf.data rxBuf.len
    · rw [hyes hping] at hd
      unfold sendPong at hd
      dsimp only at hd
      split at hd
      · obtain rfl := List.mem_singleton.1 hd
        exact ⟨_, _, rfl, rfl, t.pong.env.macAddr_length⟩
      · cases hd
    · rw [hno hping] at hd
      cases hd

theorem sent_of_turn {t : Turn} (hd : d ∈ (s.turn pdMsToTicks t).1) : SentHeartbeat d ∨ SentPong d := by
  unfold turn at hd
  split at hd
  · cases hd
  · obtain hd | hd := List.mem_append.1 hd
    · exact .inl (sentHeartbeat hd)
    · exact .inr (sentPong hd)

/-- In any run. -/
theorem sent_of_run {turns : List Turn} (hd : d ∈ (s.run pdMsToTicks turns).1.flatten) :
    SentHeartbeat d ∨ SentPong d := by
  induction turns generalizing s with
  | nil => cases hd
  | cons t turns ih =>
      obtain hd | hd := List.mem_append.1 hd
      · exact sent_of_turn hd
      · exact ih hd

/-- What a turn sends, it sends in the run too. -/
theorem turn_subset_run {turns : List Turn} {t : Turn} (ht : t ∈ turns) :
    ∃ s' : Loop, (s'.turn pdMsToTicks t).1 ⊆ (s.run pdMsToTicks turns).1.flatten := by
  induction turns generalizing s with
  | nil => cases ht
  | cons u turns ih =>
      obtain rfl | ht := List.mem_cons.1 ht
      · exact ⟨s, List.subset_append_left _ _⟩
      · obtain ⟨s', hs'⟩ := ih (s := (s.turn pdMsToTicks u).2) ht
        exact ⟨s', fun d hd => List.mem_append_right _ (hs' hd)⟩

variable (pdMsToTicks s)

/-! ## The pace of the heartbeats -/

/-- The datagram is a heartbeat, as a listener sees it. -/
def IsHeartbeat (d : SentDatagram) : Prop := d.hdr.msgType = MessageType.heartbeat.code

instance (d : SentDatagram) : Decidable (IsHeartbeat d) := inferInstanceAs (Decidable (_ = _))

/-- Turns with the times at which they are made, in ticks that do not wrap around. -/
abbrev Clocked : Type := List (Nat × Turn)

/-- The times at which a heartbeat was sent. -/
def heartbeatTimes (clocked : Clocked) : List Nat :=
  ((clocked.zip (s.run pdMsToTicks (clocked.map (·.2))).1).filter fun e =>
    e.2.any (IsHeartbeat ·)).map (·.1.1)

/-- The times at which the loop reads the tick count. -/
def readings (clocked : Clocked) : List Nat := (clocked.filter (·.2.ready)).map (·.1)

/-- What is received is not answered with a heartbeat. -/
theorem receive_no_heartbeat (t : Turn) : ((s.receive t).1.any (IsHeartbeat ·)) = false := by
  rw [List.any_eq_false]
  intro d hd hbeat
  obtain ⟨hdr, payload, bytes, hpong, -⟩ := sentPong hd
  have hread : d.hdr = hdr := by
    unfold SentDatagram.hdr
    rw [bytes]
    exact PE_Header.ofPtr_append _ _
  have hbeat : d.hdr.msgType = MessageType.heartbeat.code := of_decide_eq_true hbeat
  rw [hread, hpong] at hbeat
  exact absurd hbeat (by decide)

theorem receive_lastHbTick (t : Turn) : (s.receive t).2.lastHbTick = s.lastHbTick := by
  unfold receive
  split
  · rfl
  · rfl

/-- A ready turn: a heartbeat is due, or not; if it is, it goes out if there is a buffer. -/
theorem turn_heartbeat {t : Turn} (hready : t.ready = true) :
    ((s.turn pdMsToTicks t).1.any (IsHeartbeat ·)) =
        (decide (t.now - s.lastHbTick ≥ pdMsToTicks 1000) && t.hb.netbufNew) ∧
      (s.turn pdMsToTicks t).2.lastHbTick =
        if t.now - s.lastHbTick ≥ pdMsToTicks 1000 then t.now else s.lastHbTick := by
  unfold turn
  rw [hready, Bool.not_true, if_neg Bool.false_ne_true]
  dsimp only
  rw [List.any_append, receive_no_heartbeat, Bool.or_false, receive_lastHbTick]
  unfold beat
  by_cases hdue : t.now - s.lastHbTick ≥ pdMsToTicks 1000
  · rw [if_pos hdue, if_pos hdue, decide_eq_true hdue, Bool.true_and]
    refine ⟨?_, rfl⟩
    have hbeat : IsHeartbeat ⟨(populateHeader s.task.nodeId .heartbeat (s.task.seqNum + 1) 16 0 false
        none).toBytes ++ (t.hb.this.heartbeat t.hb.env).toBytes, IPADDR_BROADCAST, PORT_DISCOVERY⟩ :=
      congrArg PE_Header.msgType (PE_Header.ofPtr_append _ _)
    unfold sendHeartbeat
    dsimp only
    cases t.hb.netbufNew with
    | false => rfl
    | true =>
        rw [if_pos rfl, List.any_cons, decide_eq_true hbeat]
        rfl
  · rw [if_neg hdue, if_neg hdue, decide_eq_false hdue]
    exact ⟨rfl, rfl⟩

theorem heartbeatTimes_cons (now : Nat) (t : Turn) (clocked : Clocked) :
    s.heartbeatTimes pdMsToTicks ((now, t) :: clocked) =
      if (s.turn pdMsToTicks t).1.any (IsHeartbeat ·) then
        now :: (s.turn pdMsToTicks t).2.heartbeatTimes pdMsToTicks clocked
      else (s.turn pdMsToTicks t).2.heartbeatTimes pdMsToTicks clocked := by
  have hrun : (s.run pdMsToTicks (t :: clocked.map (·.2))).1 =
      (s.turn pdMsToTicks t).1 :: ((s.turn pdMsToTicks t).2.run pdMsToTicks (clocked.map (·.2))).1 := rfl
  unfold heartbeatTimes
  rw [List.map_cons, hrun, List.zip_cons_cons, List.filter_cons]
  split
  · rw [List.map_cons]
  · rfl

theorem readings_cons (now : Nat) (t : Turn) (clocked : Clocked) :
    readings ((now, t) :: clocked) = if t.ready then now :: readings clocked else readings clocked := by
  unfold readings
  rw [List.filter_cons]
  split
  · rw [List.map_cons]
  · rfl

/-- **The heartbeats are firings of a timer**, all of them if each has a buffer. -/
theorem heartbeatTimes_sublist {clocked : Clocked} {last : Nat}
    (hclock : ∀ x ∈ clocked, x.2.now = UInt32.ofNat x.1) (hlast : s.lastHbTick = UInt32.ofNat last) :
    (s.heartbeatTimes pdMsToTicks clocked).Sublist
        (Counter.fires (pdMsToTicks 1000) last (readings clocked)) ∧
      ((∀ x ∈ clocked, x.2.hb.netbufNew = true) →
        s.heartbeatTimes pdMsToTicks clocked =
          Counter.fires (pdMsToTicks 1000) last (readings clocked)) := by
  induction clocked generalizing s last with
  | nil => exact ⟨.slnil, fun _ => rfl⟩
  | cons x clocked ih =>
      obtain ⟨now, t⟩ := x
      have hnow : t.now = UInt32.ofNat now := hclock (now, t) List.mem_cons_self
      have hclock' : ∀ x ∈ clocked, x.2.now = UInt32.ofNat x.1 := fun u hu =>
        hclock u (List.mem_cons_of_mem _ hu)
      rw [heartbeatTimes_cons, readings_cons]
      cases hready : t.ready with
      | false =>
          have hturn : s.turn pdMsToTicks t = ([], s) := by
            unfold turn
            rw [hready]
            rfl
          obtain ⟨hsub, hall⟩ := ih s hclock' hlast
          rw [hturn]
          exact ⟨hsub, fun hbuf => hall fun u hu => hbuf u (List.mem_cons_of_mem _ hu)⟩
      | true =>
          obtain ⟨hsent, hnext⟩ := s.turn_heartbeat pdMsToTicks hready
          rw [if_pos rfl, Counter.fires, hsent, ← hnow, ← hlast]
          by_cases hdue : t.now - s.lastHbTick ≥ pdMsToTicks 1000
          · rw [if_pos hdue, hnow] at hnext
            obtain ⟨hsub, hall⟩ := ih _ hclock' hnext
            rw [decide_eq_true hdue, Bool.true_and, if_pos hdue]
            constructor
            · split
              · exact hsub.cons_cons now
              · exact hsub.cons now
            · intro hbuf
              rw [if_pos (hbuf (now, t) List.mem_cons_self),
                hall fun u hu => hbuf u (List.mem_cons_of_mem _ hu)]
          · rw [if_neg hdue, hlast] at hnext
            obtain ⟨hsub, hall⟩ := ih _ hclock' hnext
            rw [decide_eq_false hdue, Bool.false_and, if_neg Bool.false_ne_true, if_neg hdue]
            exact ⟨hsub, fun hbuf => hall fun u hu => hbuf u (List.mem_cons_of_mem _ hu)⟩

/-- **The pace of the heartbeats.**  The loop is entered at the time `start`, and makes its turns at times that
the tick counter shows modulo `2 ^ 32`.  The heartbeats are 1000 ticks apart or more, and the first comes
no earlier after the start, whichever found no buffer.  With a buffer for each, and where the loop comes
round within `gap` ticks, fewer than `1000 + gap` ticks pass from one to the next, and fewer than 1000 from
the last to the last turn. -/
theorem heartbeats_paced {clocked : Clocked} (nodeId : UInt16) (start : Nat)
    (hticks : pdMsToTicks 1000 = 1000) (hclock : ∀ x ∈ clocked, x.2.now = UInt32.ofNat x.1)
    (hmono : List.IsChain (· ≤ ·) (start :: readings clocked)) :
    List.Pairwise (fun a b => a + 1000 ≤ b)
        (start :: (enter nodeId (UInt32.ofNat start)).heartbeatTimes pdMsToTicks clocked) ∧
      ((∀ x ∈ clocked, x.2.hb.netbufNew = true) →
        ∀ gap, 1000 + gap ≤ 2 ^ 32 →
          List.IsChain (fun a b => b ≤ a + gap) (start :: readings clocked) →
          List.IsChain (fun a b => b < a + (1000 + gap))
              (start :: (enter nodeId (UInt32.ofNat start)).heartbeatTimes pdMsToTicks clocked) ∧
            (readings clocked).getLastD start <
              ((enter nodeId (UInt32.ofNat start)).heartbeatTimes pdMsToTicks clocked).getLastD start +
                1000) := by
  obtain ⟨hsub, hall⟩ := heartbeatTimes_sublist pdMsToTicks (enter nodeId (UInt32.ofNat start)) hclock rfl
  have hperiod : (1000 : UInt32).toNat = 1000 := rfl
  rw [hticks] at hsub hall
  constructor
  · have hspaced := @Counter.fires_spaced 1000 _ _ hmono
    rw [hperiod] at hspaced
    exact hspaced.sublist (hsub.cons_cons start)
  · intro hbuf gap hroom hsteady
    rw [hall hbuf]
    have hnow : start < start + (1000 : UInt32).toNat := by omega
    exact Counter.fires_dense hroom le_rfl hmono hsteady hnow

/-- A turn in which nothing is received. -/
def quietTurn (m : Moment) (time : Nat) : Nat × Turn := (time, ⟨true, UInt32.ofNat time, m, none, m⟩)

/-- Turns around the wrap-around of the tick counter, 600 ticks apart: every second one sends. -/
theorem heartbeats_paced_wrap :
    let m : Moment := ⟨.create 0x01020000, ⟨fun _ => 0, 0xC0A8016F, List.replicate 6 0, rfl, (0, 0, 0),
      some 41, fun _ => 0⟩, true⟩
    let clocked := [quietTurn m 0xFFFFFF58, quietTurn m 0x1000001B0, quietTurn m 0x100000408,
      quietTurn m 0x100000660]
    (enter 7 0xFFFFFD00).heartbeatTimes id clocked = [0x1000001B0, 0x100000660] ∧
      List.IsChain (fun a b => b < a + 1600)
        (0xFFFFFD00 :: (enter 7 0xFFFFFD00).heartbeatTimes id clocked) := by
  refine ⟨by decide +kernel, ?_⟩
  exact ((heartbeats_paced id 7 0xFFFFFD00 rfl (by simp [quietTurn]) (by decide)).2
    (by simp [quietTurn]) 600 (by decide) (by decide)).1

end Loop

end DiscoveryService

end EmbeddedPixel
