import EmbeddedPixel.Host.AppliedViews
import EmbeddedPixel.Net.OtaSessions

/-!
# A session of `apply_view` with a node

`apply_view` sends the requests of a view on one connection and waits for some bytes after each, whatever
they are; `handleClient` serves one of them and closes.  `Step` is what the two do to the connection, in any
order: the script sends, receives, ends or fails; the node receives a part of what was sent, answers what it
has dispatched, or closes.  It may close before a request has come (`netconn_set_recvtimeout`); a prompt one
closes after its answers only.

`truthful_iff`: the views for which `True` means that all requests were dispatched and acknowledged.
-/

set_option autoImplicit false

namespace EmbeddedPixel.TelemetryViews

open Foundation ITelemetryChannel CommandService

/-! ## The connection -/

/-- The node at the other end of a connection, as it is when it serves it. -/
structure NodeSide (C : Type) where
  cfg : NodeConfig
  env : Env
  node : Node C
  payloadBuffer : BytePtr

/-- The bytes a node writes for an event. -/
def eventBytes : NodeEvent → List UInt8
  | .reply frame => frame.toBytes
  | .reset => []

namespace NodeSide

variable {C : Type} [ITelemetryChannel C] (side : NodeSide C)

/-- The actions of `handleClient` with the events they bring about, in turn. -/
def serve : Node C → List ClientAction → List (ClientAction × List NodeEvent)
  | _, [] => []
  | n, action :: actions =>
    match n.serveAction side.cfg side.env action with
    | none => []
    | some (events, n) => (action, events) :: serve n actions

/-- What the node has served after it has received the buffers `bufs`. -/
def served (bufs : List (List UInt8)) : List (ClientAction × List NodeEvent) :=
  side.serve side.node (handleClient bufs side.payloadBuffer).1

end NodeSide

/-- Where `apply_view` is, with the streams left and the sequence number. -/
inductive ApplyState where
  | sending (left : List StreamConfig) (seq : Nat)
  | receiving (left : List StreamConfig) (seq : Nat)
  | returned (result : Bool)

/-- A connection: what the script has sent, the buffers the node has received, how many of its actions it
has answered, and what the script has not yet received of the answers. -/
structure Session where
  script : ApplyState
  sent : List UInt8
  bufs : List (List UInt8)
  answered : Nat
  unread : List UInt8
  closed : Bool

/-- After `connect`. -/
def Session.start (view : ViewConfig) : Session := ⟨.sending view.streams 1, [], [], 0, [], false⟩

section Steps

variable {C : Type} [ITelemetryChannel C]

/-- One step of the script or of the node; a `prompt` node closes after its answers only. -/
inductive Step (side : NodeSide C) (nodeId : Int) (prompt : Bool) : Session → Session → Prop
  | send {s : Session} {stream : StreamConfig} {left : List StreamConfig} {seq : Nat}
      {request : List UInt8} (hscript : s.script = .sending (stream :: left) seq)
      (hrequest : streamRequest nodeId seq stream = some request) :
      Step side nodeId prompt s { s with script := .receiving left seq, sent := s.sent ++ request }
  | recv {s : Session} {left : List StreamConfig} {seq : Nat} {resp rest : List UInt8}
      (hscript : s.script = .receiving left seq) (hunread : s.unread = resp ++ rest) (hne : resp ≠ [])
      (hfits : resp.length ≤ 1024) :
      Step side nodeId prompt s { s with script := .sending left (seq + 1), unread := rest }
  /-- `recv` returns no bytes at the end of the connection. -/
  | recvEnd {s : Session} {left : List StreamConfig} {seq : Nat}
      (hscript : s.script = .receiving left seq) (hunread : s.unread = []) (hclosed : s.closed = true) :
      Step side nodeId prompt s { s with script := .sending left (seq + 1) }
  | done {s : Session} {seq : Nat} (hscript : s.script = .sending [] seq) :
      Step side nodeId prompt s { s with script := .returned true }
  /-- An exception, wherever it comes from. -/
  | raise {s : Session} (hscript : ∀ result, s.script ≠ .returned result) :
      Step side nodeId prompt s { s with script := .returned false }
  | receive {s : Session} {buf : List UInt8} (hopen : s.closed = false)
      (hsent : (s.bufs ++ [buf]).flatten <+: s.sent) :
      Step side nodeId prompt s { s with bufs := s.bufs ++ [buf] }
  | answer {s : Session} {x : ClientAction × List NodeEvent} (hopen : s.closed = false)
      (hnext : (side.served s.bufs)[s.answered]? = some x) :
      Step side nodeId prompt s
        { s with answered := s.answered + 1, unread := s.unread ++ x.2.flatMap eventBytes }
  | close {s : Session} (hopen : s.closed = false)
      (hprompt : prompt = true →
        side.served s.bufs ≠ [] ∧ s.answered = (side.served s.bufs).length) :
      Step side nodeId prompt s { s with closed := true }

/-- The sessions that a session leads to. -/
abbrev Leads (side : NodeSide C) (nodeId : Int) (prompt : Bool) : Session → Session → Prop :=
  Relation.ReflTransGen (Step side nodeId prompt)

/-- For every stream of the view its request was dispatched and answered with `CMD_ACK`. -/
def Confirmed (side : NodeSide C) (view : ViewConfig) (s : Session) : Prop :=
  ∀ i stream, view.streams[i]? = some stream →
    ∃ x ∈ (side.served s.bufs).take s.answered, ∃ hdr payload,
      x.1.received = .dispatched hdr payload ∧
        streamRequest view.nodeId (i + 1) stream = some (hdr.toBytes ++ payload) ∧
        (response x.2).map (fun frame => frame.hdr.msgType) = some MessageType.cmdAck.code

/-- `apply_view` returns `True` only if all requests of the view were dispatched and acknowledged. -/
def Truthful (side : NodeSide C) (prompt : Bool) (view : ViewConfig) : Prop :=
  ∀ s, Leads side view.nodeId prompt (.start view) s → s.script = .returned true →
    Confirmed side view s

end Steps

/-! ## What the node serves -/

section Served

variable {C : Type} [ITelemetryChannel C] (side : NodeSide C) {nodeId : Int} {seq : Nat}
  {stream : StreamConfig} {bufs : List (List UInt8)}

/-- The bytes of a request. -/
def requestBytes (nodeId : Int) (seq : Nat) (stream : StreamConfig) : List UInt8 :=
  (requestHeader nodeId seq stream).toBytes ++ commandBytes (requestCommand stream)

theorem ofCode_requestHeader (nodeId : Int) (seq : Nat) (stream : StreamConfig) :
    MessageType.ofCode (requestHeader nodeId seq stream).msgType = some .cmdStartStream ∨
      MessageType.ofCode (requestHeader nodeId seq stream).msgType = some .cmdStopStream := by
  unfold requestHeader requestType
  cases stream.started with
  | true => exact Or.inl (MessageType.ofCode_code .cmdStartStream)
  | false => exact Or.inr (MessageType.ofCode_code .cmdStopStream)

theorem payloadLen_requestHeader (nodeId : Int) (seq : Nat) (stream : StreamConfig) :
    (requestHeader nodeId seq stream).payloadLen.toNat ≤ 2048 := by
  show (8 : UInt16).toNat ≤ 2048
  decide

/-- **A request that has arrived** is all that the node serves. -/
theorem served_request {more : List UInt8} (h : bufs.flatten = requestBytes nodeId seq stream ++ more) :
    ∃ p ack, side.served bufs = [(.processCommand (requestHeader nodeId seq stream) p, [.reply ack])] ∧
      bytesAt p 0 8 = commandBytes (requestCommand stream) ∧
      ack.hdr.msgType = MessageType.cmdAck.code ∧ ack.toBytes.length = 28 := by
  have hflatten : bufs.flatten = (requestHeader nodeId seq stream).toBytes ++
      (commandBytes (requestCommand stream) ++ more) := by
    rw [h, requestBytes, List.append_assoc]
  have htype := ofCode_requestHeader nodeId seq stream
  have hlast : MessageType.ofCode (requestHeader nodeId seq stream).msgType ≠ some .cmdOtaData := by
    rcases htype with htype | htype <;> rw [htype] <;> decide
  obtain ⟨p, hactions, hp⟩ := handleClient_request hflatten rfl rfl (payloadLen_requestHeader ..) hlast
    side.payloadBuffer
  obtain ⟨ack, n', hstep, hack, hlen⟩ :=
    side.node.step_stream side.cfg (r := ⟨side.env, requestHeader nodeId seq stream, p⟩) htype
  refine ⟨p, ack, ?_, hp, hack, hlen⟩
  have hserve : side.node.serveAction side.cfg side.env
      (.processCommand (requestHeader nodeId seq stream) p) = some ([.reply ack], n') := hstep
  unfold NodeSide.served NodeSide.serve
  rw [hactions]
  dsimp only
  rw [hserve]
  rfl

/-- Of a part of a request the node serves nothing. -/
theorem served_of_part (h : bufs.flatten <+: requestBytes nodeId seq stream)
    (hne : bufs.flatten ≠ requestBytes nodeId seq stream) : side.served bufs = [] := by
  have hparse : parseFrame bufs.flatten = (none, none) :=
    parseFrame_of_part rfl rfl (payloadLen_requestHeader nodeId seq stream) h hne
  have hreceived := received_of_last hparse side.payloadBuffer
  unfold NodeSide.served
  rw [List.map_eq_nil_iff.1 hreceived]
  rfl

theorem served_nil (h : bufs.flatten = []) : side.served bufs = [] := by
  have hparse : parseFrame bufs.flatten = (none, none) := by
    rw [h]
    rfl
  have hreceived := received_of_last hparse side.payloadBuffer
  unfold NodeSide.served
  rw [List.map_eq_nil_iff.1 hreceived]
  rfl

end Served

/-! ## What the script has sent -/

/-- A view of which every request can be built. -/
structure CanApply (view : ViewConfig) : Prop where
  encodable : ∀ stream ∈ view.streams, Encodable view.nodeId stream
  length_lt : view.streams.length < 2 ^ 32

/-- The requests of some streams, one after another. -/
def requestsFrom (nodeId : Int) : (seq : Nat) → List StreamConfig → List UInt8
  | _, [] => []
  | seq, stream :: streams => requestBytes nodeId seq stream ++ requestsFrom nodeId (seq + 1) streams

theorem requestsFrom_snoc (nodeId : Int) (seq : Nat) (streams : List StreamConfig) (stream : StreamConfig) :
    requestsFrom nodeId seq (streams ++ [stream]) =
      requestsFrom nodeId seq streams ++ requestBytes nodeId (seq + streams.length) stream := by
  induction streams generalizing seq with
  | nil => exact List.append_nil _
  | cons s streams ih =>
      have hnext : seq + 1 + streams.length = seq + (s :: streams).length := by
        rw [List.length_cons]
        omega
      rw [List.cons_append, requestsFrom, ih, requestsFrom, hnext, List.append_assoc]

/-- Where the script is when the streams of `done` have been sent. -/
def ScriptAt (done left : List StreamConfig) : ApplyState → Prop
  | .sending l seq => l = left ∧ seq = done.length + 1
  | .receiving l seq => l = left ∧ seq = done.length
  | .returned true => left = []
  | .returned false => True

/-- What a session has sent: the requests of the first streams. -/
def Sent (view : ViewConfig) (s : Session) : Prop :=
  ∃ done left, view.streams = done ++ left ∧ (∀ stream ∈ done, Encodable view.nodeId stream) ∧
    done.length < 2 ^ 32 ∧ s.sent = requestsFrom view.nodeId 1 done ∧ ScriptAt done left s.script

section Runs

variable {C : Type} [ITelemetryChannel C] {side : NodeSide C} {prompt : Bool} {view : ViewConfig}
  {s s' : Session}

theorem sent_step (h : Sent view s) (hstep : Step side view.nodeId prompt s s') : Sent view s' := by
  obtain ⟨done, left, hstreams, hencodable, hcount, hsent, hscript⟩ := h
  cases hstep with
  | send hs hrequest =>
      rename_i stream left' seq request
      rw [hs] at hscript
      obtain ⟨rfl, rfl⟩ := hscript
      obtain ⟨hone, hseq⟩ := isSome_streamRequest_iff.1 (Option.isSome_of_eq_some hrequest)
      rw [streamRequest_eq hone hseq] at hrequest
      refine ⟨done ++ [stream], left', by simp [hstreams], ?_, ?_, ?_, rfl, ?_⟩
      · intro x hx
        rcases List.mem_append.1 hx with hx | hx
        · exact hencodable x hx
        · rw [List.mem_singleton.1 hx]
          exact hone
      · simpa using hseq
      · rw [requestsFrom_snoc, hsent, ← Option.some.inj hrequest, Nat.add_comm 1]
        rfl
      · simp
  | recv hs hunread hne hfits =>
      rw [hs] at hscript
      exact ⟨done, left, hstreams, hencodable, hcount, hsent, hscript.1, congrArg (· + 1) hscript.2⟩
  | recvEnd hs hunread hclosed =>
      rw [hs] at hscript
      exact ⟨done, left, hstreams, hencodable, hcount, hsent, hscript.1, congrArg (· + 1) hscript.2⟩
  | done hs =>
      rw [hs] at hscript
      exact ⟨done, left, hstreams, hencodable, hcount, hsent, hscript.1.symm⟩
  | raise hs => exact ⟨done, left, hstreams, hencodable, hcount, hsent, trivial⟩
  | receive hopen hpart => exact ⟨done, left, hstreams, hencodable, hcount, hsent, hscript⟩
  | answer hopen hnext => exact ⟨done, left, hstreams, hencodable, hcount, hsent, hscript⟩
  | close hopen hprompt => exact ⟨done, left, hstreams, hencodable, hcount, hsent, hscript⟩

/-- **The requests are sent in order**, in every session. -/
theorem sent_of_leads (h : Leads side view.nodeId prompt (.start view) s) : Sent view s := by
  induction h with
  | refl => exact ⟨[], view.streams, rfl, by simp, by decide, rfl, rfl, rfl⟩
  | tail _ hstep ih => exact sent_step ih hstep

/-- `True` is returned after all requests have been built. -/
theorem canApply_of_returned (h : Leads side view.nodeId prompt (.start view) s)
    (htrue : s.script = .returned true) : CanApply view := by
  obtain ⟨done, left, hstreams, hencodable, hcount, -, hscript⟩ := sent_of_leads h
  rw [htrue] at hscript
  have hleft : left = [] := hscript
  rw [hleft, List.append_nil] at hstreams
  constructor
  · rw [hstreams]
    exact hencodable
  · rw [hstreams]
    exact hcount

/-- A view that cannot be applied. -/
theorem truthful_of_not_canApply (h : ¬ CanApply view) : Truthful side prompt view :=
  fun _ hleads htrue => absurd (canApply_of_returned hleads htrue) h

/-- A view without streams. -/
theorem truthful_nil (h : view.streams = []) : Truthful side prompt view := by
  intro s _ _ i stream hi
  rw [h] at hi
  cases hi

/-! ## After the connection is closed -/

/-- Once the node has closed and its answers are read, the rest of the view goes through. -/
theorem leads_returned (side : NodeSide C) (nodeId : Int) (prompt : Bool) (bufs : List (List UInt8))
    (answered : Nat) : ∀ (left : List StreamConfig) (seq : Nat) (sent : List UInt8),
    (∀ stream ∈ left, Encodable nodeId stream) → seq + left.length ≤ 2 ^ 32 →
    ∃ sent', Leads side nodeId prompt ⟨.sending left seq, sent, bufs, answered, [], true⟩
      ⟨.returned true, sent', bufs, answered, [], true⟩
  | [], seq, sent, _, _ => ⟨sent, .single (.done rfl)⟩
  | stream :: left, seq, sent, hencodable, hseq => by
      rw [List.length_cons] at hseq
      have hrequest := streamRequest_eq (hencodable stream (List.mem_cons_self ..))
        (show seq < 2 ^ 32 by omega)
      obtain ⟨sent', hleads⟩ := leads_returned side nodeId prompt bufs answered left (seq + 1)
        (sent ++ requestBytes nodeId seq stream) (fun x hx => hencodable x (List.mem_cons_of_mem _ hx))
        (by omega)
      exact ⟨sent', .head (.send rfl hrequest) (.head (.recvEnd rfl rfl rfl) hleads)⟩

/-- **A node that closes first.**  Nothing is dispatched, and the script returns `True`. -/
theorem not_truthful_of_cons {stream : StreamConfig} {left : List StreamConfig}
    (hstreams : view.streams = stream :: left) (h : CanApply view) : ¬ Truthful side false view := by
  intro htruthful
  have hlength := h.length_lt
  obtain ⟨sent, hleads⟩ := leads_returned side view.nodeId false [] 0 view.streams 1 [] h.encodable
    (by omega)
  have hclose : Step side view.nodeId false (.start view)
      ⟨.sending view.streams 1, [], [], 0, [], true⟩ := .close rfl (by simp)
  obtain ⟨x, hx, -⟩ := htruthful _ (.head hclose hleads) rfl 0 stream (by rw [hstreams]; rfl)
  rw [List.take_zero] at hx
  cases hx

theorem requestBytes_inj {nodeId : Int} {seq seq' : Nat} {stream stream' : StreamConfig}
    (h : requestBytes nodeId seq stream = requestBytes nodeId seq' stream') :
    UInt32.ofNat seq = UInt32.ofNat seq' := by
  have hhdr : requestHeader nodeId seq stream = requestHeader nodeId seq' stream' := by
    rw [← PE_Header.ofPtr_append (requestHeader nodeId seq stream) (commandBytes (requestCommand stream)),
      ← PE_Header.ofPtr_append (requestHeader nodeId seq' stream') (commandBytes (requestCommand stream'))]
    exact congrArg (fun l => PE_Header.ofPtr (BytePtr.ofList l)) h
  exact congrArg PE_Header.seqNum hhdr

/-- **One exchange**: the first request arrives in one buffer, its answer is read, and the node closes. -/
theorem leads_exchange (side : NodeSide C) {nodeId : Int} {first : StreamConfig}
    (left : List StreamConfig) (h : Encodable nodeId first) :
    Leads side nodeId true ⟨.sending (first :: left) 1, [], [], 0, [], false⟩
      ⟨.sending left 2, requestBytes nodeId 1 first, [requestBytes nodeId 1 first], 1, [], true⟩ := by
  have hrequest : streamRequest nodeId 1 first = some (requestBytes nodeId 1 first) :=
    streamRequest_eq h (by decide)
  generalize hreq : requestBytes nodeId 1 first = req at hrequest
  have hflatten : [req].flatten = requestBytes nodeId 1 first ++ [] := by simp [hreq]
  obtain ⟨p, ack, hserved, -, -, hack⟩ := served_request side hflatten
  have hne : ack.toBytes ≠ [] := by
    rw [← List.length_pos_iff, hack]
    decide
  have hnext : (side.served [req])[0]? =
      some (.processCommand (requestHeader nodeId 1 first) p, [.reply ack]) := by
    rw [hserved]
    rfl
  have hsend : Step side nodeId true ⟨.sending (first :: left) 1, [], [], 0, [], false⟩
      ⟨.receiving left 1, req, [], 0, [], false⟩ := .send rfl hrequest
  have hreceive : Step side nodeId true ⟨.receiving left 1, req, [], 0, [], false⟩
      ⟨.receiving left 1, req, [req], 0, [], false⟩ := .receive rfl (by simp)
  have hanswer : Step side nodeId true ⟨.receiving left 1, req, [req], 0, [], false⟩
      ⟨.receiving left 1, req, [req], 1, ack.toBytes ++ [], false⟩ :=
    Step.answer (s := ⟨.receiving left 1, req, [req], 0, [], false⟩) rfl hnext
  have hrecv : Step side nodeId true ⟨.receiving left 1, req, [req], 1, ack.toBytes ++ [], false⟩
      ⟨.sending left 2, req, [req], 1, [], false⟩ := .recv rfl rfl hne (by rw [hack]; decide)
  have hclose : Step side nodeId true ⟨.sending left 2, req, [req], 1, [], false⟩
      ⟨.sending left 2, req, [req], 1, [], true⟩ := .close rfl (by simp [hserved])
  exact .head hsend (.head hreceive (.head hanswer (.head hrecv (.single hclose))))

/-- **Two streams.**  A node that serves the first request and closes has not seen the second one, and the
script returns `True`. -/
theorem not_truthful_of_two {first second : StreamConfig} {left : List StreamConfig}
    (hstreams : view.streams = first :: second :: left) (h : CanApply view) :
    ¬ Truthful side true view := by
  intro htruthful
  have hlength := h.length_lt
  have hrest : ∀ stream ∈ second :: left, Encodable view.nodeId stream :=
    fun x hx => h.encodable x (by rw [hstreams]; exact List.mem_cons_of_mem _ hx)
  rw [hstreams, List.length_cons] at hlength
  have hexchange := leads_exchange side (second :: left) (h.encodable first (by simp [hstreams]))
  obtain ⟨sent, hleads⟩ := leads_returned side view.nodeId true [requestBytes view.nodeId 1 first] 1
    (second :: left) 2 (requestBytes view.nodeId 1 first) hrest (by omega)
  have hstart : Session.start view = ⟨.sending (first :: second :: left) 1, [], [], 0, [], false⟩ := by
    rw [Session.start, hstreams]
  -- what was dispatched is not the second request
  obtain ⟨x, hx, hdr, payload, hreceived, hrequest, -⟩ :=
    htruthful _ (hstart ▸ hexchange.trans hleads) rfl 1 second (by rw [hstreams]; rfl)
  have hflatten : [requestBytes view.nodeId 1 first].flatten = requestBytes view.nodeId 1 first ++ [] := by
    simp
  obtain ⟨p, ack, hserved, hp, -⟩ := served_request side hflatten
  have hx := List.mem_of_mem_take hx
  rw [hserved] at hx
  obtain rfl := List.mem_singleton.1 hx
  obtain ⟨rfl, rfl⟩ := Received.dispatched.inj hreceived
  have hpayload : bytesAt p 0 (requestHeader view.nodeId 1 first).payloadLen.toNat =
      commandBytes (requestCommand first) := hp
  rw [streamRequest_eq (hrest second (List.mem_cons_self ..)) (by decide), hpayload] at hrequest
  exact absurd (requestBytes_inj (Option.some.inj hrequest)) (by decide)

/-! ## One stream -/

/-- A session with one request: nothing is answered before it has arrived, and the script goes on after an
answer only. -/
structure Exchange (request : List UInt8) (s : Session) : Prop where
  bufs : s.bufs.flatten <+: s.sent
  answered : 0 < s.answered → s.bufs.flatten = request
  unread : s.unread ≠ [] → 0 < s.answered
  closed : s.closed = true → 0 < s.answered
  passed : (∃ seq, s.script = .sending [] seq) ∨ s.script = .returned true → 0 < s.answered

/-- What has been served was received. -/
theorem flatten_of_served {nodeId : Int} {seq : Nat} {stream : StreamConfig} {bufs : List (List UInt8)}
    {sent : List UInt8} (hsent : sent = [] ∨ sent = requestBytes nodeId seq stream)
    (hbufs : bufs.flatten <+: sent) (hserved : side.served bufs ≠ []) :
    bufs.flatten = requestBytes nodeId seq stream := by
  rcases hsent with rfl | rfl
  · exact absurd (served_nil side (List.prefix_nil.1 hbufs)) hserved
  · by_contra hne
    exact hserved (served_of_part side hbufs hne)

theorem exchange_step {nodeId : Int} {seq : Nat} {stream : StreamConfig}
    (hsent : s.sent = [] ∨ s.sent = requestBytes nodeId seq stream)
    (h : Exchange (requestBytes nodeId seq stream) s) (hstep : Step side view.nodeId true s s') :
    Exchange (requestBytes nodeId seq stream) s' := by
  cases hstep with
  | send hs hrequest =>
      refine ⟨h.bufs.trans (List.prefix_append _ _), h.answered, h.unread, h.closed, ?_⟩
      simp
  | recv hs hunread hne hfits =>
      have hpos : 0 < s.answered := h.unread (by simp [hunread, hne])
      exact ⟨h.bufs, h.answered, fun _ => hpos, h.closed, fun _ => hpos⟩
  | recvEnd hs hunread hclosed =>
      exact ⟨h.bufs, h.answered, h.unread, h.closed, fun _ => h.closed hclosed⟩
  | done hs => exact ⟨h.bufs, h.answered, h.unread, h.closed, fun _ => h.passed (Or.inl ⟨_, hs⟩)⟩
  | raise hs =>
      refine ⟨h.bufs, h.answered, h.unread, h.closed, ?_⟩
      simp
  | receive hopen hpart =>
      rename_i buf
      refine ⟨hpart, fun hpos => ?_, h.unread, h.closed, h.passed⟩
      -- there are no more bytes to receive
      have hold := h.answered hpos
      have hlen := hpart.length_le
      rw [List.flatten_append, List.flatten_singleton, hold, List.length_append] at hlen
      have hbuf : buf = [] := by
        rw [← List.length_eq_zero_iff]
        rcases hsent with hsent | hsent
        · rw [hsent, List.length_nil] at hlen
          omega
        · rw [hsent] at hlen
          omega
      rw [hbuf, List.flatten_append, hold]
      simp
  | answer hopen hnext =>
      have hserved : side.served s.bufs ≠ [] := by
        intro hnil
        rw [hnil] at hnext
        cases hnext
      exact ⟨h.bufs, fun _ => flatten_of_served hsent h.bufs hserved, fun _ => Nat.succ_pos _,
        fun _ => Nat.succ_pos _, fun _ => Nat.succ_pos _⟩
  | close hopen hprompt =>
      obtain ⟨hserved, hanswered⟩ := hprompt rfl
      have hpos : 0 < s.answered := by
        rw [hanswered]
        exact List.length_pos_iff.2 hserved
      exact ⟨h.bufs, h.answered, h.unread, fun _ => hpos, h.passed⟩

/-- With one stream nothing or its request has been sent. -/
theorem sent_singleton {stream : StreamConfig} (hstreams : view.streams = [stream])
    (h : Leads side view.nodeId prompt (.start view) s) :
    s.sent = [] ∨ s.sent = requestBytes view.nodeId 1 stream := by
  obtain ⟨done, left, hsplit, -, -, hsent, -⟩ := sent_of_leads h
  rw [hstreams] at hsplit
  rcases List.append_eq_singleton_iff.1 hsplit.symm with ⟨rfl, -⟩ | ⟨rfl, -⟩
  · exact Or.inl hsent
  · refine Or.inr (hsent.trans ?_)
    exact List.append_nil _

theorem exchange_of_leads {stream : StreamConfig} (hstreams : view.streams = [stream])
    (h : Leads side view.nodeId true (.start view) s) :
    Exchange (requestBytes view.nodeId 1 stream) s := by
  induction h with
  | refl =>
      constructor
      · exact List.prefix_refl _
      · simp [Session.start]
      · simp [Session.start]
      · simp [Session.start]
      · simp [Session.start, hstreams]
  | tail hr hstep ih => exact exchange_step (sent_singleton hstreams hr) ih hstep

/-- **One stream**, and a node that answers before it closes. -/
theorem truthful_singleton {stream : StreamConfig} (hstreams : view.streams = [stream]) :
    Truthful side true view := by
  intro s hleads htrue i stream' hi
  have hexchange := exchange_of_leads hstreams hleads
  have hpos := hexchange.passed (Or.inr htrue)
  have hcan := canApply_of_returned hleads htrue
  have hflatten : s.bufs.flatten = requestBytes view.nodeId 1 stream ++ [] := by
    rw [hexchange.answered hpos, List.append_nil]
  obtain ⟨p, ack, hserved, hp, hack, -⟩ := served_request side hflatten
  rw [hstreams, List.getElem?_singleton] at hi
  split at hi
  · rename_i hzero
    obtain rfl := Option.some.inj hi
    have hmem : (ClientAction.processCommand (requestHeader view.nodeId 1 stream) p,
        [NodeEvent.reply ack]) ∈ (side.served s.bufs).take s.answered := by
      rw [hserved, List.take_of_length_le hpos]
      exact List.mem_singleton_self _
    have hrequest : streamRequest view.nodeId (i + 1) stream =
        some (requestBytes view.nodeId 1 stream) := by
      rw [hzero]
      exact streamRequest_eq (hcan.encodable stream (by simp [hstreams])) (by decide)
    exact ⟨_, hmem, requestHeader view.nodeId 1 stream, commandBytes (requestCommand stream),
      congrArg (Received.dispatched _) hp, hrequest, congrArg some hack⟩
  · cases hi

/-- **When `True` is the truth.**  Against any node that serves its connections as `CommandService` does:
for the views without streams and those that cannot be applied.  Against a prompt one: for the views of one
stream as well. -/
theorem truthful_iff (side : NodeSide C) (view : ViewConfig) :
    (Truthful side false view ↔ view.streams = [] ∨ ¬ CanApply view) ∧
      (Truthful side true view ↔ view.streams.length ≤ 1 ∨ ¬ CanApply view) := by
  constructor
  · constructor
    · intro h
      by_contra hnot
      obtain ⟨hne, hcan⟩ := not_or.1 hnot
      obtain ⟨stream, left, hstreams⟩ := List.exists_cons_of_ne_nil hne
      exact not_truthful_of_cons hstreams (not_not.1 hcan) h
    · rintro (hnil | hcan)
      · exact truthful_nil hnil
      · exact truthful_of_not_canApply hcan
  · constructor
    · intro h
      by_contra hnot
      obtain ⟨hlong, hcan⟩ := not_or.1 hnot
      match hstreams : view.streams with
      | [] => simp [hstreams] at hlong
      | [_] => simp [hstreams] at hlong
      | first :: second :: left => exact not_truthful_of_two hstreams (not_not.1 hcan) h
    · rintro (hshort | hcan)
      · match hstreams : view.streams with
        | [] => exact truthful_nil hstreams
        | [stream] => exact truthful_singleton hstreams
        | first :: second :: left => simp [hstreams] at hshort
      · exact truthful_of_not_canApply hcan

/-- A view of the counter at 10 Hz and the temperature at 2 Hz. -/
def counterAndTemperature : ViewConfig where
  name := "both".toList
  streams := [⟨"CNTR".toList, 10, true, {}⟩, ⟨"TEMP".toList, 2, true, {}⟩]

/-- The board, serving a connection. -/
def boardSide : NodeSide BoardChannel :=
  ⟨⟨Layout.lowest, Wiring.ethernetdev, 1⟩, Env.zero, Node.board, fun _ => 0⟩

/-- The board answers the first request and closes, and the second one is never dispatched. -/
theorem two_streams_not_truthful : ¬ Truthful boardSide true counterAndTemperature := by
  refine not_truthful_of_two rfl ⟨?_, by decide⟩
  intro stream hstream
  simp only [counterAndTemperature, List.mem_cons, List.not_mem_nil, or_false] at hstream
  rcases hstream with rfl | rfl
  · exact ⟨by simp, by decide, by decide, by decide⟩
  · exact ⟨by simp, by decide, by decide, by decide⟩

end Runs

end EmbeddedPixel.TelemetryViews
