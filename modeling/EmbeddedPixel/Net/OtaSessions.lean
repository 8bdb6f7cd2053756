import EmbeddedPixel.Net.OtaHistory
import EmbeddedPixel.Net.CommandReads
import EmbeddedPixel.Sys.CliCommand

/-!
# The OTA sessions behind the requests of a node

`Serves` says which call of the OTA service a request and its answer stand for; `node_serves` carries
every run of a node to a run of the service.  There is one session for all hosts, and `CMD_OTA_END`
names its image by a checksum that nobody compares: `acked_end_own_iff` says exactly when the image
of an acknowledged `CMD_OTA_END` is the one in the control block.
-/

set_option autoImplicit false

namespace EmbeddedPixel

open Foundation

/-! ## Answers -/

/-- The first response to a request. -/
def response (events : List NodeEvent) : Option Frame :=
  events.findSome? fun
    | .reply frame => some frame
    | .reset => none

/-- A `CMD_OTA_BEGIN` answered without an error. -/
def BeginAccepted (x : NodeRequest × List NodeEvent) : Prop :=
  MessageType.ofCode x.1.hdr.msgType = some .cmdOtaBegin ∧
    (response x.2).map (fun f => (f.hdr.msgType, f.hdr.flags)) =
      some (MessageType.cmdOtaBeginResp.code, FLAG_IS_RESPONSE)

/-- A `CMD_OTA_END` answered with `CMD_ACK`. -/
def EndAcked (x : NodeRequest × List NodeEvent) : Prop :=
  MessageType.ofCode x.1.hdr.msgType = some .cmdOtaEnd ∧
    (response x.2).map (fun f => f.hdr.msgType) = some MessageType.cmdAck.code

instance (x : NodeRequest × List NodeEvent) : Decidable (BeginAccepted x) := by
  unfold BeginAccepted
  infer_instance

instance (x : NodeRequest × List NodeEvent) : Decidable (EndAcked x) := by
  unfold EndAcked
  infer_instance

namespace CommandService

variable {C : Type} (cfg : NodeConfig) (n : Node C) (r : NodeRequest) (st : StatusCode)

theorem not_beginAccepted_sendAckNack (rest : List NodeEvent) (id : UInt16) (rc : UInt32) :
    ¬ BeginAccepted (r, (sendAckNack cfg n id st rc).1 ++ rest) := by
  rintro ⟨-, hresp⟩
  by_cases hst : st = .ok
  · simp [response, sendAckNack, send, populateHeader, hst] at hresp
    exact absurd hresp (by decide)
  · simp [response, sendAckNack, send, populateHeader, hst] at hresp
    exact absurd hresp.1 (by decide)

theorem endAcked_sendAckNack_iff (rest : List NodeEvent) (id : UInt16) (rc : UInt32) :
    EndAcked (r, (sendAckNack cfg n id st rc).1 ++ rest) ↔
      MessageType.ofCode r.hdr.msgType = some .cmdOtaEnd ∧ st = .ok := by
  unfold EndAcked
  by_cases hst : st = .ok
  · simp [response, sendAckNack, send, populateHeader, hst]
  · simp [response, sendAckNack, send, populateHeader, hst]
    intro _
    decide

/-- The response to a begin shows the status in its flags. -/
theorem beginAccepted_send_iff (payload : List UInt8) :
    BeginAccepted (r, (send cfg n .cmdOtaBeginResp
        (if st ≠ .ok then FLAG_IS_RESPONSE ||| FLAG_ERROR else FLAG_IS_RESPONSE) payload).1) ↔
      MessageType.ofCode r.hdr.msgType = some .cmdOtaBegin ∧ st = .ok := by
  unfold BeginAccepted
  by_cases hst : st = .ok
  · simp [response, send, populateHeader, hst]
  · simp [response, send, populateHeader, hst]
    intro _
    decide

end CommandService

/-! ## Calls behind requests -/

/-- The calls of the OTA service that a request and its answer stand for. -/
inductive Serves : NodeRequest × List NodeEvent → OtaMachine.Trace → Prop
  | nothing {x} (hb : ¬ BeginAccepted x) (he : ¬ EndAcked x) : Serves x []
  | begin {x c resp st} (hb : BeginAccepted x ↔ st = .ok) (he : ¬ EndAcked x) :
      Serves x [((c, .begin (PayloadOtaBegin.ofPtr x.1.payload) resp), st)]
  | data {x c req chunkData dataLen st} (hb : ¬ BeginAccepted x) (he : ¬ EndAcked x) :
      Serves x [((c, .data req chunkData dataLen), st)]
  | «end» {x c st} (hb : ¬ BeginAccepted x) (he : EndAcked x ↔ st = .ok) :
      Serves x [((c, .end (PayloadOtaEnd.ofPtr x.1.payload)), st)]
  | abort {x c} (hb : ¬ BeginAccepted x) (he : ¬ EndAcked x) : Serves x [((c, .abort), .ok)]

namespace Serves

variable {x : NodeRequest × List NodeEvent} {u : OtaMachine.Trace}

theorem begin_inv (h : Serves x u) (hb : BeginAccepted x) :
    ∃ c resp, u = [((c, .begin (PayloadOtaBegin.ofPtr x.1.payload) resp), .ok)] := by
  cases h with
  | nothing hno _ => exact absurd hb hno
  | begin hiff _ => exact ⟨_, _, by rw [hiff.1 hb]⟩
  | data hno _ => exact absurd hb hno
  | «end» hno _ => exact absurd hb hno
  | abort hno _ => exact absurd hb hno

theorem end_inv (h : Serves x u) (he : EndAcked x) :
    ∃ c, u = [((c, .end (PayloadOtaEnd.ofPtr x.1.payload)), .ok)] := by
  cases h with
  | nothing _ hno => exact absurd he hno
  | begin _ hno => exact absurd he hno
  | data _ hno => exact absurd he hno
  | «end» _ hiff => exact ⟨_, by rw [hiff.1 he]⟩
  | abort _ hno => exact absurd he hno

theorem not_okBegin (h : Serves x u) (hb : ¬ BeginAccepted x) : ∀ y ∈ u, ¬ OtaMachine.OkBegin y := by
  rintro y hy ⟨c, req, resp, rfl⟩
  cases h with
  | nothing _ _ => simp at hy
  | begin hiff _ =>
      simp at hy
      exact hb (hiff.2 hy.2.symm)
  | data _ _ => simp at hy
  | «end» _ _ => simp at hy
  | abort _ _ => simp at hy

theorem not_okEnd (h : Serves x u) (he : ¬ EndAcked x) : ∀ y ∈ u, ¬ OtaMachine.OkEnd y := by
  rintro y hy ⟨c, req, rfl⟩
  cases h with
  | nothing _ _ => simp at hy
  | begin _ _ => simp at hy
  | data _ _ => simp at hy
  | «end» _ hiff =>
      simp at hy
      exact he (hiff.2 hy.2.symm)
  | abort _ _ => simp at hy

/-- A request that is neither a begin nor an end. -/
theorem of_type {type : Option MessageType} (htype : MessageType.ofCode x.1.hdr.msgType = type)
    (hb : type ≠ some .cmdOtaBegin) (he : type ≠ some .cmdOtaEnd) :
    ¬ BeginAccepted x ∧ ¬ EndAcked x :=
  ⟨fun h => hb (htype.symm.trans h.1), fun h => he (htype.symm.trans h.1)⟩

end Serves

/-- What a request and its answer do to the OTA service is a run of the calls they stand for. -/
def Served {C : Type} (cfg : NodeConfig) (n : Node C) (r : NodeRequest) (s : List NodeEvent × Node C) :
    Prop :=
  ∃ u, Serves (r, s.1) u ∧ Machine.Run (OtaMachine.step cfg.layout) n.ota u s.2.ota

namespace Served

variable {C : Type} {cfg : NodeConfig} {n : Node C} {r : NodeRequest} {s : List NodeEvent × Node C}

/-- A request that leaves the OTA service alone. -/
theorem untouched (hota : s.2.ota = n.ota) (hb : ¬ BeginAccepted (r, s.1))
    (he : ¬ EndAcked (r, s.1)) : Served cfg n r s := by
  refine ⟨[], .nothing hb he, ?_⟩
  rw [hota]
  exact .nil

theorem refused {st : StatusCode} (hst : st ≠ .ok) (id : UInt16) (rc : UInt32) :
    Served cfg n r (CommandService.sendAckNack cfg n id st rc) := by
  have hb := CommandService.not_beginAccepted_sendAckNack cfg n r st [] id rc
  have he := CommandService.endAcked_sendAckNack_iff cfg n r st [] id rc
  rw [List.append_nil] at hb he
  exact untouched rfl hb fun h => hst (he.1 h).2

theorem aborted (hota : s.2.ota = (OtaService.handleAbort n.ota).2) (hb : ¬ BeginAccepted (r, s.1))
    (he : ¬ EndAcked (r, s.1)) : Served cfg n r s := by
  refine ⟨[((none, .abort), .ok)], .abort hb he, Machine.Run.single ?_⟩
  rw [hota]
  rfl

end Served

namespace CommandService

variable {C : Type} {cfg : NodeConfig} {n : Node C} {r : NodeRequest} {s : List NodeEvent × Node C}

/-- An OTA request is refused or served. -/
theorem served_otaRequest {size : UInt16} {serve : Reader (Option (Reply C))}
    (h : (otaRequest cfg r.hdr n size serve).run r.payload = some s)
    (hserve : serve.run r.payload = some s → Served cfg n r s) : Served cfg n r s := by
  unfold otaRequest at h
  split at h
  · cases h
    exact Served.refused (by decide) _ _
  · split at h
    · cases h
      exact Served.refused (by decide) _ _
    · exact hserve h

theorem served_otaBegin (htype : MessageType.ofCode r.hdr.msgType = some .cmdOtaBegin)
    (h : (otaBegin cfg r.env r.hdr n).run r.payload = some s) : Served cfg n r s := by
  apply served_otaRequest h
  intro h
  rw [Reader.run_bind, view_otaBegin, Reader.run_pure] at h
  cases h
  refine ⟨_, .begin ?_ ?_, Machine.Run.single rfl⟩
  · exact (beginAccepted_send_iff cfg _ _ _ _).trans (and_iff_right htype)
  · rintro ⟨hend, -⟩
    rw [htype] at hend
    cases hend

theorem served_otaData (htype : MessageType.ofCode r.hdr.msgType = some .cmdOtaData)
    (h : (otaData cfg r.hdr n).run r.payload = some s) : Served cfg n r s := by
  apply served_otaRequest h
  intro h
  rw [Reader.run_bind, view_otaData, Reader.run_bind, Reader.run_pure, Reader.run_advance] at h
  obtain ⟨⟨st, m⟩, hdata, hs⟩ := Option.map_eq_some_iff.1 h
  obtain ⟨hb, he⟩ := Serves.of_type (x := (r, s.1)) htype (by decide) (by decide)
  subst hs
  exact ⟨_, .data hb he, Machine.Run.single hdata⟩

theorem served_otaEnd (htype : MessageType.ofCode r.hdr.msgType = some .cmdOtaEnd)
    (h : (otaEnd cfg r.hdr n).run r.payload = some s) : Served cfg n r s := by
  apply served_otaRequest h
  intro h
  rw [Reader.run_bind, view_otaEnd, Reader.run_pure] at h
  generalize hend : OtaService.handleEnd cfg.layout (PayloadOtaEnd.ofPtr r.payload) n.ota = res at h
  obtain ⟨st, m⟩ := res
  cases h
  have hb : ∀ events : List NodeEvent, ¬ BeginAccepted (r, events) := by
    rintro events ⟨hbegin, -⟩
    rw [htype] at hbegin
    cases hbegin
  have hack := fun rest => (endAcked_sendAckNack_iff cfg { n with ota := m } r st rest r.hdr.msgType
    0).trans (and_iff_right htype)
  refine ⟨_, .end (c := none) (hb _) ?_, Machine.Run.single (congrArg some hend)⟩
  dsimp only
  split
  · exact hack [.reset]
  · simpa using hack []

section Telemetry

variable [ITelemetryChannel C]

theorem ota_startStream (hdr : PE_Header) (p : BytePtr) :
    ((startStream cfg hdr n).run p).2.ota = n.ota := by
  unfold startStream
  rw [Reader.run_bind, Reader.run_pure]
  rfl

theorem ota_stopStream (hdr : PE_Header) (p : BytePtr) :
    ((stopStream cfg hdr n).run p).2.ota = n.ota := by
  unfold stopStream
  rw [Reader.run_bind, Reader.run_pure]
  dsimp only
  split
  · rfl
  · rfl

/-- A command line leaves the OTA service alone or aborts its update. -/
theorem ota_cliExec (env : Env) (hdr : PE_Header) (p : BytePtr) :
    ((cliExec cfg env hdr n).run p).2.ota = n.ota ∨
      ((cliExec cfg env hdr n).run p).2.ota = (OtaService.handleAbort n.ota).2 := by
  unfold cliExec
  split
  · exact Or.inl rfl
  · rw [Reader.run_bind, Reader.run_pure]
    have hota := CliEngine.ota_execute cfg.wiring env n 512 ((cliText hdr).run p)
    generalize CliEngine.execute cfg.wiring env n 512 ((cliText hdr).run p) = result at hota
    cases result with
    | text out n' => exact hota
    | reset n' => exact hota

omit [ITelemetryChannel C] in
theorem ota_otaAbort (hdr : PE_Header) :
    (otaAbort cfg hdr n).2.ota = n.ota ∨
      (otaAbort cfg hdr n).2.ota = (OtaService.handleAbort n.ota).2 := by
  unfold otaAbort sendAckNack send
  dsimp only
  split
  · exact Or.inr rfl
  · exact Or.inl rfl

/-- **A request does to the OTA service what the calls do that it stands for.** -/
theorem served_processCommand (h : (processCommand cfg r.env r.hdr n).run r.payload = some s) :
    Served cfg n r s := by
  unfold processCommand at h
  generalize htype : MessageType.ofCode r.hdr.msgType = type at h
  have other : type ≠ some .cmdOtaBegin → type ≠ some .cmdOtaEnd →
      s.2.ota = n.ota ∨ s.2.ota = (OtaService.handleAbort n.ota).2 → Served cfg n r s := by
    intro hb he hota
    obtain ⟨hb, he⟩ := Serves.of_type (x := (r, s.1)) htype hb he
    rcases hota with hota | hota
    · exact Served.untouched hota hb he
    · exact Served.aborted hota hb he
  split at h
  · cases h
    exact other (by decide) (by decide) (Or.inl rfl)
  · rw [Reader.run_map] at h
    cases h
    exact other (by decide) (by decide) (Or.inl (ota_startStream _ _))
  · rw [Reader.run_map] at h
    cases h
    exact other (by decide) (by decide) (Or.inl (ota_stopStream _ _))
  · cases h
    exact other (by decide) (by decide) (Or.inl rfl)
  · exact served_otaBegin htype h
  · exact served_otaData htype h
  · exact served_otaEnd htype h
  · cases h
    refine other (by decide) (by decide) (Or.inl ?_)
    unfold otaGetStatus
    split
    · rfl
    · rfl
  · cases h
    exact other (by decide) (by decide) (ota_otaAbort _)
  · rw [Reader.run_map] at h
    cases h
    exact other (by decide) (by decide) (ota_cliExec _ _ _)
  · cases h
    exact other (by decide) (by decide) (Or.inl rfl)
  · cases h
    exact Served.refused (by decide) _ _

end Telemetry

end CommandService

/-! ## Runs of a node -/

namespace Node

open CommandService

variable {C : Type} [ITelemetryChannel C] {cfg : NodeConfig} {n₀ n n' : Node C}
  {t pre post : List (NodeRequest × List NodeEvent)} {x : NodeRequest × List NodeEvent}

/-- **A run of a node is, in its OTA service, a run of the calls that its requests stand for.** -/
theorem node_serves (h : Machine.Run (Node.step cfg) n₀ t n) :
    ∃ us, List.Forall₂ Serves t us ∧
      Machine.Run (OtaMachine.step cfg.layout) n₀.ota us.flatten n.ota :=
  Machine.Run.simulate Node.ota (fun _ _ _ _ hs => served_processCommand hs) h

/-- Without an accepted begin the session stays what it was, and nothing begins to receive. -/
theorem session_kept (h : Machine.Run (Node.step cfg) n₀ t n) (hno : ∀ y ∈ t, ¬ BeginAccepted y) :
    OtaMachine.announced n.ota.svc = OtaMachine.announced n₀.ota.svc ∧
      (n₀.ota.svc.state ≠ .receiving → n.ota.svc.state ≠ .receiving) := by
  obtain ⟨us, hserves, hrun⟩ := node_serves h
  apply OtaMachine.session_of_no_begin hrun
  intro y hy
  obtain ⟨x, hx, u, hxu, hyu⟩ := Machine.mem_flatten_of_forall₂ hserves hy
  exact hxu.not_okBegin (hno x hx) y hyu

/-- An accepted begin sets the checksum. -/
theorem expectedCrc32_of_begin {r : NodeRequest} {events : List NodeEvent}
    (h : Node.step cfg n r = some (events, n')) (hb : BeginAccepted (r, events)) :
    n'.ota.svc.expectedCrc32 = (PayloadOtaBegin.ofPtr r.payload).imageCrc32 := by
  obtain ⟨u, hu, hrun⟩ := served_processCommand h
  obtain ⟨c, resp, rfl⟩ := hu.begin_inv hb
  obtain ⟨m, hm, hnil⟩ := Machine.Run.cons_inv hrun
  cases Machine.Run.nil_inv hnil
  obtain ⟨-, hsvc, -⟩ := OtaMachine.step_begin_ok hm
  rw [hsvc]
  rfl

/-- **The session belongs to the last accepted begin**, whoever sent it. -/
theorem expectedCrc32_of_last_begin (h : Machine.Run (Node.step cfg) n₀ (pre ++ x :: post) n)
    (hx : BeginAccepted x) (hpost : ∀ y ∈ post, ¬ BeginAccepted y) :
    n.ota.svc.expectedCrc32 = (PayloadOtaBegin.ofPtr x.1.payload).imageCrc32 := by
  obtain ⟨r, events⟩ := x
  obtain ⟨s, s₁, -, hbegin, hrest⟩ := Machine.Run.split_at h
  obtain ⟨hann, -⟩ := session_kept hrest hpost
  have hcrc := congrArg (fun a => a.2.1) hann
  exact hcrc.trans (expectedCrc32_of_begin hbegin hx)

/-- An acknowledged end publishes the session. -/
theorem published_of_endAcked {r : NodeRequest} {events : List NodeEvent}
    (h : Node.step cfg n r = some (events, n')) (he : EndAcked (r, events)) :
    n.ota.svc.state = .receiving ∧
      OtaControlBlock.ofPtr (n'.ota.ram.ptr OtaService.RAM_CONTROL_BLOCK_BASE) =
        OtaService.controlBlock cfg.layout n.ota.svc .pendingInstall := by
  obtain ⟨u, hu, hrun⟩ := served_processCommand h
  obtain ⟨c, rfl⟩ := hu.end_inv he
  obtain ⟨m, hm, hnil⟩ := Machine.Run.cons_inv hrun
  cases Machine.Run.nil_inv hnil
  obtain ⟨hs, -, -, hblock⟩ := OtaMachine.step_end_ok hm
  exact ⟨hs, hblock⟩

/-- **Whose image an acknowledged end publishes.**  In any run of a node, whichever hosts its requests
come from, an acknowledged `CMD_OTA_END` leaves its own `image_crc32` in the control block exactly when
the last `CMD_OTA_BEGIN` accepted before it carried the same. -/
theorem acked_end_own_iff {ram : Mem 32} {ctrl : SystemController} {period : UInt32}
    {telemetry : TelemetryService C} {discovery : DiscoveryService} {r : NodeRequest}
    {events : List NodeEvent}
    (h : Machine.Run (Node.step cfg) (Node.powerUp ram ctrl period telemetry discovery) t n)
    (hend : Node.step cfg n r = some (events, n')) (he : EndAcked (r, events)) :
    (OtaControlBlock.ofPtr (n'.ota.ram.ptr OtaService.RAM_CONTROL_BLOCK_BASE)).imageCrc32 =
        (PayloadOtaEnd.ofPtr r.payload).imageCrc32 ↔
      ∃ pre x post, t = pre ++ x :: post ∧ BeginAccepted x ∧ (∀ y ∈ post, ¬ BeginAccepted y) ∧
        (PayloadOtaBegin.ofPtr x.1.payload).imageCrc32 =
          (PayloadOtaEnd.ofPtr r.payload).imageCrc32 := by
  obtain ⟨hs, hblock⟩ := published_of_endAcked hend he
  have hcrc : (OtaControlBlock.ofPtr
      (n'.ota.ram.ptr OtaService.RAM_CONTROL_BLOCK_BASE)).imageCrc32 = n.ota.svc.expectedCrc32 := by
    rw [hblock]
    rfl
  rw [hcrc]
  constructor
  · intro hown
    rcases Machine.Run.last_entry h BeginAccepted with
      hno | ⟨pre, q, events', post, s₁, s₂, rfl, hb, hpost, -, -, -⟩
    · have hidle : (Node.powerUp ram ctrl period telemetry discovery).ota.svc.state ≠ .receiving := by
        intro hidle
        cases hidle
      exact absurd hs ((session_kept h hno).2 hidle)
    · refine ⟨pre, (q, events'), post, rfl, hb, hpost, ?_⟩
      rw [← hown]
      exact (expectedCrc32_of_last_begin h hb hpost).symm
  · rintro ⟨pre, x, post, rfl, hb, hpost, hown⟩
    exact (expectedCrc32_of_last_begin h hb hpost).trans hown

/-- The begin of a session whose image is one byte. -/
def oneByteBegin (byte : UInt8) : NodeRequest :=
  .of .cmdOtaBegin (beginPayload 1 (Crc32.calculate [byte]))

def oneByteData (byte : UInt8) : NodeRequest :=
  .of .cmdOtaData (u32le 0 ++ u16le 1 ++ u16le 0 ++ [byte])

def oneByteEnd (byte : UInt8) : NodeRequest :=
  .of .cmdOtaEnd (u32le (Crc32.calculate [byte]) ++ u32le 0)

/-- The end of such a session, alone on the node, publishes its image. -/
theorem acked_end_own_one_byte :
    ∃ t n events n', Machine.Run (Node.step NodeConfig.ethernetdev) Node.ethernetdev t n ∧
      Node.step NodeConfig.ethernetdev n (oneByteEnd 7) = some (events, n') ∧
      EndAcked (oneByteEnd 7, events) ∧
      (OtaControlBlock.ofPtr (n'.ota.ram.ptr OtaService.RAM_CONTROL_BLOCK_BASE)).imageCrc32 =
        (PayloadOtaEnd.ofPtr (oneByteEnd 7).payload).imageCrc32 := by
  have hexec : (Machine.exec (Node.step NodeConfig.ethernetdev) Node.ethernetdev
      [oneByteBegin 7, oneByteData 7]).any
      (fun r => decide (∀ x ∈ r.1.head?, BeginAccepted x) &&
        (Node.step NodeConfig.ethernetdev r.2 (oneByteEnd 7)).any
          fun s => decide (EndAcked (oneByteEnd 7, s.1))) = true := by
    decide +kernel
  obtain ⟨t, n, hrun, hcalls, hp⟩ := Machine.exec_any hexec
  obtain ⟨hfirst, hlast⟩ := (Bool.and_eq_true _ _).mp hp
  obtain ⟨⟨events, n'⟩, hend, he⟩ := (Option.any_eq_true _ _).1 hlast
  have he := of_decide_eq_true he
  refine ⟨t, n, events, n', hrun, hend, he, (acked_end_own_iff hrun hend he).2 ?_⟩
  obtain ⟨x, post, rfl, hx, hpost⟩ := List.map_eq_cons_iff.1 hcalls
  have hb := of_decide_eq_true hfirst x rfl
  refine ⟨[], x, post, rfl, hb, ?_, ?_⟩
  · rintro y hy ⟨htype, -⟩
    have hmem := List.mem_map_of_mem (f := (·.1)) hy
    rw [hpost] at hmem
    rw [List.mem_singleton.1 hmem] at htype
    exact absurd htype (by decide)
  · rw [hx]
    decide +kernel

end Node

/-! ## Two hosts -/

inductive HostId where
  | first
  | second
  deriving DecidableEq, Repr

/-- A host announces its image, sends chunks, and ends with the checksum of the image. -/
def OwnSession (image : List UInt8) (requests : List NodeRequest) : Prop :=
  ∃ b chunks e, requests = b :: (chunks ++ [e]) ∧
    MessageType.ofCode b.hdr.msgType = some .cmdOtaBegin ∧
    (PayloadOtaBegin.ofPtr b.payload).imageCrc32 = Crc32.calculate image ∧
    (∀ d ∈ chunks, MessageType.ofCode d.hdr.msgType = some .cmdOtaData) ∧
    MessageType.ofCode e.hdr.msgType = some .cmdOtaEnd ∧
    (PayloadOtaEnd.ofPtr e.payload).imageCrc32 = Crc32.calculate image

/-- The requests of one host among those of both. -/
def requestsOf (host : HostId) (requests : List (HostId × NodeRequest)) : List NodeRequest :=
  (requests.filter fun x => x.1 == host).map (·.2)

/-- The image of each host. -/
def hostByte : HostId → UInt8
  | .first => 7
  | .second => 9

def hostSession (host : HostId) : List NodeRequest :=
  [Node.oneByteBegin (hostByte host), Node.oneByteData (hostByte host),
    Node.oneByteEnd (hostByte host)]

theorem ownSession_hostSession (host : HostId) : OwnSession [hostByte host] (hostSession host) := by
  refine ⟨Node.oneByteBegin (hostByte host), [Node.oneByteData (hostByte host)],
    Node.oneByteEnd (hostByte host), rfl, rfl, ?_, ?_, rfl, ?_⟩
  · cases host with
    | first => decide +kernel
    | second => decide +kernel
  · intro d hd
    rw [List.mem_singleton.1 hd]
    rfl
  · cases host with
    | first => decide +kernel
    | second => decide +kernel

/-- The second host begins and sends its image before the first host ends. -/
def interleaved : List (HostId × NodeRequest) :=
  [(.first, Node.oneByteBegin 7), (.first, Node.oneByteData 7), (.second, Node.oneByteBegin 9),
    (.second, Node.oneByteData 9)]

/-- The end of the first host is acknowledged and publishes the image of the second. -/
theorem other_host_published :
    ¬ ∀ (cfg : NodeConfig) (ram : Mem 32) (ctrl : SystemController) (period : UInt32)
      (telemetry : TelemetryService CounterChannel) (discovery : DiscoveryService)
      (image : HostId → List UInt8) (session : HostId → List NodeRequest),
      (∀ host, OwnSession (image host) (session host)) →
        ∀ (requests : List (HostId × NodeRequest)) (host : HostId) (r : NodeRequest),
          (∀ i, requestsOf i (requests ++ [(host, r)]) <+: session i) →
            ∀ (t : List (NodeRequest × List NodeEvent)) (n n' : Node CounterChannel)
              (events : List NodeEvent), t.map (·.1) = requests.map (·.2) →
                Machine.Run (Node.step cfg) (Node.powerUp ram ctrl period telemetry discovery) t n →
                  Node.step cfg n r = some (events, n') → EndAcked (r, events) →
                    (OtaControlBlock.ofPtr
                        (n'.ota.ram.ptr OtaService.RAM_CONTROL_BLOCK_BASE)).imageCrc32 =
                      (PayloadOtaEnd.ofPtr r.payload).imageCrc32 := by
  intro h
  have hexec : (Machine.exec (Node.step NodeConfig.ethernetdev) Node.ethernetdev
      (interleaved.map (·.2))).any
      (fun s => (Node.step NodeConfig.ethernetdev s.2 (Node.oneByteEnd 7)).any
        fun s => decide (EndAcked (Node.oneByteEnd 7, s.1) ∧
          (OtaControlBlock.ofPtr (s.2.ota.ram.ptr OtaService.RAM_CONTROL_BLOCK_BASE)).imageCrc32 ≠
            (PayloadOtaEnd.ofPtr (Node.oneByteEnd 7).payload).imageCrc32)) = true := by
    decide +kernel
  obtain ⟨t, n, hrun, hcalls, hp⟩ := Machine.exec_any hexec
  obtain ⟨⟨events, n'⟩, hend, hacked⟩ := (Option.any_eq_true _ _).1 hp
  obtain ⟨he, hother⟩ := of_decide_eq_true hacked
  refine hother (h _ _ _ _ _ _ _ hostSession ownSession_hostSession interleaved .first _ ?_ t n n'
    events hcalls hrun hend he)
  rintro (_ | _)
  · exact ⟨[], rfl⟩
  · exact ⟨[Node.oneByteEnd 9], rfl⟩

end EmbeddedPixel
