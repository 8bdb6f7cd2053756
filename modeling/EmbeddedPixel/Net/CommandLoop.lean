import EmbeddedPixel.Foundation.Counters
import EmbeddedPixel.Net.Answers
import EmbeddedPixel.Net.Framing

/-!
# The server of the command port

`CommandService::run` from the time the network is ready: it sets up a listening connection where it has
none, accepts a client and serves it with `handleClient`, and takes the listening connection down after an
error.  What lwIP answers comes in from outside.  A reset ends the run.

* `step_replied` — what a request does to the sequence number, and the response that carries it.
* `responses_numbered` — over all clients, the responses carry the numbers 1, 2, 3, … and there are no more
  of them than frames were parsed.
-/

set_option autoImplicit false

namespace EmbeddedPixel

open Foundation

namespace CommandService

/-! ## One request -/

variable {C : Type} {cfg : NodeConfig}

/-- The frames among some events. -/
def responses : List NodeEvent → List Frame
  | [] => []
  | .reply frame :: events => frame :: responses events
  | .reset :: events => responses events

theorem responses_append (events events' : List NodeEvent) :
    responses (events ++ events') = responses events ++ responses events' := by
  induction events with
  | nil => rfl
  | cons e events ih =>
      cases e with
      | reply frame => exact congrArg (frame :: ·) ih
      | reset => exact ih

/-- Some events of a node use the next `k` numbers of its counter, one for each response. -/
structure Numbered (cfg : NodeConfig) (n n' : Node C) (events : List NodeEvent) (k : Nat) : Prop where
  seqNum : n'.seqNum = n.seqNum + UInt32.ofNat k
  numbers : (responses events).map (·.hdr.seqNum) = Counter.following n.seqNum k
  headers : ∀ frame ∈ responses events, frame.hdr.magic = PE_MAGIC ∧
    frame.hdr.version = PE_PROTOCOL_VERSION ∧ frame.hdr.nodeId = cfg.nodeId

namespace Numbered

variable {n n' n'' : Node C} {events events' : List NodeEvent} {j k : Nat}

theorem silent (h : n'.seqNum = n.seqNum) (hnone : responses events = []) : Numbered cfg n n' events 0 where
  seqNum := h.trans (UInt32.add_zero _).symm
  numbers := by
    rw [hnone]
    rfl
  headers := by
    rw [hnone]
    exact fun frame hframe => absurd hframe List.not_mem_nil

theorem trans (h : Numbered cfg n n' events j) (h' : Numbered cfg n' n'' events' k) :
    Numbered cfg n n'' (events ++ events') (j + k) where
  seqNum := by rw [h'.seqNum, h.seqNum, UInt32.add_assoc, UInt32.ofNat_add]
  numbers := by
    rw [responses_append, List.map_append, Counter.following_add, ← h.seqNum, h.numbers, h'.numbers]
  headers frame hframe := by
    rw [responses_append] at hframe
    exact (List.mem_append.1 hframe).elim (h.headers frame) (h'.headers frame)

/-- A response. -/
theorem send {m : Node C} (hm : m.seqNum = n.seqNum) (type : MessageType) (flags : UInt8)
    (payload : List UInt8) :
    Numbered cfg n (CommandService.send cfg m type flags payload).2
      (CommandService.send cfg m type flags payload).1 1 := by
  refine ⟨congrArg (· + 1) hm, congrArg (fun x => [x + 1]) hm, ?_⟩
  intro frame hframe
  obtain rfl := List.mem_singleton.1 hframe
  exact ⟨rfl, rfl, rfl⟩

theorem sendAckNack {m : Node C} (hm : m.seqNum = n.seqNum) (id : UInt16) (st : StatusCode) (rc : UInt32) :
    Numbered cfg n (CommandService.sendAckNack cfg m id st rc).2
      (CommandService.sendAckNack cfg m id st rc).1 1 :=
  send hm _ _ _

/-- A reset after what was written. -/
theorem reset (h : Numbered cfg n n' events k) : Numbered cfg n n' (events ++ [.reset]) k :=
  h.trans (silent rfl rfl)

end Numbered

/-- A request that has a meaning gets at most one response, with the next number. -/
def Replied (cfg : NodeConfig) (n : Node C) (result : Option (Reply C)) : Prop :=
  ∀ events n', result = some (events, n') → ∃ k ≤ 1, Numbered cfg n n' events k

section Step

variable {n : Node C} {r : NodeRequest}

theorem Replied.of_numbered {s : Reply C} (h : Numbered cfg n s.2 s.1 1) : Replied cfg n (some s) := by
  rintro events n' ⟨⟩
  exact ⟨1, le_rfl, h⟩

theorem Replied.of_reset {s : Reply C} (h : Numbered cfg n s.2 s.1 1) :
    Replied cfg n (some (s.1 ++ [.reset], s.2)) :=
  .of_numbered h.reset

theorem replied_otaRequest {size : UInt16} {serve : Reader (Option (Reply C))}
    (h : Replied cfg n (serve.run r.payload)) :
    Replied cfg n ((otaRequest cfg r.hdr n size serve).run r.payload) := by
  unfold otaRequest
  split
  · exact .of_numbered (.sendAckNack rfl _ _ _)
  split
  · exact .of_numbered (.sendAckNack rfl _ _ _)
  · exact h

theorem replied_otaBegin : Replied cfg n ((otaBegin cfg r.env r.hdr n).run r.payload) := by
  apply replied_otaRequest
  rw [Reader.run_bind, Reader.run_pure]
  refine .of_numbered (.send ?_ _ _ _)
  rfl

theorem replied_otaData : Replied cfg n ((otaData cfg r.hdr n).run r.payload) := by
  apply replied_otaRequest
  rw [Reader.run_bind, Reader.run_bind, Reader.run_pure]
  cases (Reader.advance 8 _).run r.payload with
  | none => rintro events n' ⟨⟩
  | some result =>
      refine .of_numbered (.sendAckNack ?_ _ _ _)
      rfl

theorem replied_otaEnd : Replied cfg n ((otaEnd cfg r.hdr n).run r.payload) := by
  apply replied_otaRequest
  rw [Reader.run_bind, Reader.run_pure]
  have hack (st : StatusCode) (ota : OtaMachine) : Numbered cfg n
      (sendAckNack cfg { n with ota := ota } r.hdr.msgType st 0).2
      (sendAckNack cfg { n with ota := ota } r.hdr.msgType st 0).1 1 := by
    refine .sendAckNack ?_ _ _ _
    rfl
  split
  · exact .of_reset (hack _ _)
  · exact .of_numbered (hack _ _)

variable [ITelemetryChannel C]

/-- A command line does not touch the sequence number. -/
theorem seqNum_execute (w : Wiring) (env : Env) (line : List UInt8) :
    (CliEngine.execute w env n 512 line).node.seqNum = n.seqNum := by
  rw [CliEngine.node_execute]
  cases CliCommand.parseLine line with
  | setFeature flag enable => rfl
  | startStream tag rate =>
      show (n.startTelemetry w tag rate 0).2.seqNum = _
      unfold Node.startTelemetry
      split
      · rfl
      · dsimp only
        split
        · rfl
        · rfl
  | stopStream tag =>
      show (n.stopTelemetry w tag).2.seqNum = _
      unfold Node.stopTelemetry
      split
      · rfl
      · dsimp only
        split
        · rfl
        · rfl
  | abortOta =>
      show (n.abortOta w).seqNum = _
      unfold Node.abortOta
      split
      · rfl
      · rfl
  | setBlinkRate periodMs =>
      show (n.setBlinkRate w periodMs).seqNum = _
      unfold Node.setBlinkRate
      split
      · rfl
      · rfl
  | reboot => rfl
  | report => rfl

theorem replied_cliExec : Replied cfg n (some ((cliExec cfg r.env r.hdr n).run r.payload)) := by
  unfold cliExec
  split
  · exact .of_numbered (.sendAckNack rfl _ _ _)
  · rw [Reader.run_bind, Reader.run_pure]
    have hseq := seqNum_execute (n := n) cfg.wiring r.env ((cliText r.hdr).run r.payload)
    cases hexecute : CliEngine.execute cfg.wiring r.env n 512 ((cliText r.hdr).run r.payload) with
    | text out n' =>
        rw [hexecute] at hseq
        exact .of_numbered (.send hseq _ _ _)
    | reset n' =>
        rw [hexecute] at hseq
        rintro events n'' ⟨⟩
        exact ⟨0, Nat.zero_le 1, .silent hseq rfl⟩

/-- **At most one response for a request**, with the next number. -/
theorem step_replied : Replied cfg n (n.step cfg r) := by
  unfold Node.step processCommand
  split
  · exact .of_numbered (.send rfl _ _ _)
  · rw [Reader.run_map]
    unfold startStream
    rw [Reader.run_bind, Reader.run_pure]
    refine .of_numbered (.sendAckNack ?_ _ _ _)
    rfl
  · rw [Reader.run_map]
    unfold stopStream
    rw [Reader.run_bind, Reader.run_pure]
    refine .of_numbered (.sendAckNack ?_ _ _ _)
    split
    · rfl
    · rfl
  · exact .of_numbered (.send rfl _ _ _)
  · exact replied_otaBegin
  · exact replied_otaData
  · exact replied_otaEnd
  · refine .of_numbered ?_
    unfold otaGetStatus
    split
    · exact .sendAckNack rfl _ _ _
    · exact .send rfl _ _ _
  · refine .of_numbered (.sendAckNack ?_ _ _ _)
    split
    · rfl
    · rfl
  · rw [Reader.run_map]
    exact replied_cliExec
  · exact .of_reset (.sendAckNack rfl _ _ _)
  · exact .of_numbered (.sendAckNack rfl _ _ _)

theorem serveAction_replied (env : Env) (action : ClientAction) :
    Replied cfg n (n.serveAction cfg env action) := by
  cases action with
  | processCommand hdr payload => exact step_replied (r := ⟨env, hdr, payload⟩)
  | sendAckNack cmdId status => exact .of_numbered (.sendAckNack rfl _ _ _)

end Step

/-! ## The server -/

variable [ITelemetryChannel C] (cfg)

/-- What `netconn_accept` gives: a client, with the buffers that come from it and what its requests read
outside; a timeout; an error. -/
inductive Accepted where
  | client (env : Env) (conn : List (List UInt8))
  | timeout
  | error

/-- One turn of the loop: whether `netconn_new`, `netconn_bind` and `netconn_listen` succeed, and what is
accepted. -/
structure ServerTurn where
  newOk : Bool
  bindOk : Bool
  listenOk : Bool
  accepted : Accepted

/-- The server: whether it has a listening connection, the node and `s_payload_buffer`. -/
structure Server (C : Type) where
  listening : Bool
  node : Node C
  payloadBuffer : BytePtr

/-- The actions of `handleClient`, as far as a reset. -/
def serveActions (env : Env) : Node C → List ClientAction → Option (List NodeEvent × Node C)
  | n, [] => some ([], n)
  | n, action :: actions => do
    let (events, n) ← n.serveAction cfg env action
    if .reset ∈ events then some (events, n)
    else
      let (more, n) ← serveActions env n actions
      some (events ++ more, n)

/-- One turn of the loop. -/
def serverTurn (s : Server C) (t : ServerTurn) : Option (List NodeEvent × Server C) :=
  if !s.listening && !(t.newOk && t.bindOk && t.listenOk) then some ([], { s with listening := false })
  else
    match t.accepted with
    | .client env conn => do
      let (actions, payloadBuffer) := handleClient conn s.payloadBuffer
      let (events, n) ← serveActions cfg env s.node actions
      some (events, ⟨true, n, payloadBuffer⟩)
    | .timeout => some ([], { s with listening := true })
    | .error => some ([], { s with listening := false })

/-- The loop, to the first reset. -/
def runServer : Server C → List ServerTurn → Option (List NodeEvent × Server C)
  | s, [] => some ([], s)
  | s, t :: turns => do
    let (events, s) ← serverTurn cfg s t
    if .reset ∈ events then some (events, s)
    else
      let (more, s) ← runServer s turns
      some (events ++ more, s)

/-! ### Its responses -/

section Run

variable {cfg} {n n' : Node C} {events : List NodeEvent}

theorem serveActions_numbered {env : Env} {actions : List ClientAction}
    (h : serveActions cfg env n actions = some (events, n')) :
    ∃ k ≤ actions.length, Numbered cfg n n' events k := by
  induction actions generalizing n events with
  | nil =>
      cases h
      exact ⟨0, le_rfl, .silent rfl rfl⟩
  | cons action actions ih =>
      unfold serveActions at h
      obtain ⟨⟨first, n₁⟩, hfirst, h⟩ := Option.bind_eq_some_iff.1 h
      obtain ⟨j, hj, hnumbered⟩ := serveAction_replied env action first n₁ hfirst
      dsimp only at h
      by_cases hreset : NodeEvent.reset ∈ first
      · rw [if_pos hreset] at h
        cases h
        exact ⟨j, by rw [List.length_cons]; omega, hnumbered⟩
      · rw [if_neg hreset] at h
        obtain ⟨⟨more, n₂⟩, hmore, h⟩ := Option.bind_eq_some_iff.1 h
        cases h
        obtain ⟨k, hk, hrest⟩ := ih hmore
        exact ⟨j + k, by rw [List.length_cons]; omega, hnumbered.trans hrest⟩

/-- The frames that the clients of some turns send. -/
def framesOf (turns : List ServerTurn) : List Received :=
  turns.flatMap fun t =>
    match t.accepted with
    | .client _ conn => parseFrames conn.flatten
    | _ => []

theorem serverTurn_numbered {s s' : Server C} {t : ServerTurn}
    (h : serverTurn cfg s t = some (events, s')) :
    ∃ k ≤ (framesOf [t]).length, Numbered cfg s.node s'.node events k := by
  unfold serverTurn at h
  split at h
  · cases h
    exact ⟨0, Nat.zero_le _, .silent rfl rfl⟩
  · split at h
    · rename_i env conn haccepted
      obtain ⟨⟨first, n₁⟩, hserve, h⟩ := Option.bind_eq_some_iff.1 h
      cases h
      obtain ⟨k, hk, hnumbered⟩ := serveActions_numbered hserve
      refine ⟨k, ?_, hnumbered⟩
      have hframes : (framesOf [t]).length = (handleClient conn s.payloadBuffer).1.length := by
        unfold framesOf
        rw [List.flatMap_singleton, haccepted]
        dsimp only
        rw [← NetconnStreamReader.unread_create, ← clientLoop_eq_parseFrames (.create conn) s.payloadBuffer,
          List.length_map]
        rfl
      rwa [hframes]
    · cases h
      exact ⟨0, Nat.zero_le _, .silent rfl rfl⟩
    · cases h
      exact ⟨0, Nat.zero_le _, .silent rfl rfl⟩

theorem runServer_numbered {s s' : Server C} {turns : List ServerTurn}
    (h : runServer cfg s turns = some (events, s')) :
    ∃ k ≤ (framesOf turns).length, Numbered cfg s.node s'.node events k := by
  induction turns generalizing s events with
  | nil =>
      cases h
      exact ⟨0, le_rfl, .silent rfl rfl⟩
  | cons t turns ih =>
      have hsplit : (framesOf (t :: turns)).length = (framesOf [t]).length + (framesOf turns).length := by
        unfold framesOf
        rw [List.flatMap_cons, List.length_append, List.flatMap_singleton]
      unfold runServer at h
      obtain ⟨⟨first, s₁⟩, hfirst, h⟩ := Option.bind_eq_some_iff.1 h
      obtain ⟨j, hj, hnumbered⟩ := serverTurn_numbered hfirst
      dsimp only at h
      by_cases hreset : NodeEvent.reset ∈ first
      · rw [if_pos hreset] at h
        cases h
        exact ⟨j, by omega, hnumbered⟩
      · rw [if_neg hreset] at h
        obtain ⟨⟨more, s₂⟩, hmore, h⟩ := Option.bind_eq_some_iff.1 h
        cases h
        obtain ⟨k, hk, hrest⟩ := ih hmore
        exact ⟨j + k, by omega, hnumbered.trans hrest⟩

end Run

/-- **The responses of a node are numbered.**  From a power-up to the next reset, over all clients, wherever
the network cuts their streams and whatever lwIP refuses: the responses carry the numbers 1, 2, 3, … and the
node's id, no number comes twice within `2 ^ 32` responses, and there are no more responses than frames. -/
theorem responses_numbered {s s' : Server C} (hstart : s.node.seqNum = 0) {turns : List ServerTurn}
    {events : List NodeEvent} (h : runServer cfg s turns = some (events, s')) :
    (responses events).map (·.hdr.seqNum) = Counter.following 0 (responses events).length ∧
      ((responses events).length ≤ 2 ^ 32 → ((responses events).map (·.hdr.seqNum)).Nodup) ∧
      (∀ frame ∈ responses events, frame.hdr.magic = PE_MAGIC ∧
        frame.hdr.version = PE_PROTOCOL_VERSION ∧ frame.hdr.nodeId = cfg.nodeId) ∧
      (responses events).length ≤ (framesOf turns).length := by
  obtain ⟨k, hk, hnumbered⟩ := runServer_numbered h
  have hnumbers := hnumbered.numbers
  have hcount : k = (responses events).length := by
    rw [← Counter.length_following s.node.seqNum k, ← hnumbers, List.length_map]
  rw [hstart, hcount] at hnumbers
  refine ⟨hnumbers, fun hroom => ?_, hnumbered.headers, hcount ▸ hk⟩
  rw [hnumbers]
  exact Counter.following_nodup 0 hroom

/-- A request for the node's report. -/
def reportRequest : PE_Header := populateHeader 0 .cmdGetNodeInfo 7 0 0 false none

/-- One client, after one that never came. -/
theorem responses_numbered_one :
    ∃ events s', runServer ⟨Layout.lowest, .ethernetdev, 1⟩ ⟨false, Node.board, fun _ => 0⟩
        [⟨true, true, true, .timeout⟩, ⟨true, true, true, .client .zero [reportRequest.toBytes]⟩] =
          some (events, s') ∧ (responses events).map (·.hdr.seqNum) = [1] := by
  obtain ⟨p, hactions, -⟩ := handleClient_request
    (show [reportRequest.toBytes].flatten = reportRequest.toBytes ++ ([] ++ []) by simp) rfl rfl
    (by decide) (by decide) fun _ => 0
  set events := (getNodeInfo ⟨Layout.lowest, .ethernetdev, 1⟩ .zero Node.board).1
  have hclient : handleClient [reportRequest.toBytes] (fun _ => 0) =
      ([.processCommand reportRequest p], (handleClient [reportRequest.toBytes] fun _ => 0).2) :=
    Prod.ext hactions rfl
  have hturn : serverTurn ⟨Layout.lowest, .ethernetdev, 1⟩ ⟨true, Node.board, fun _ => 0⟩
      ⟨true, true, true, .client .zero [reportRequest.toBytes]⟩ =
        some (events, ⟨true, (getNodeInfo ⟨Layout.lowest, .ethernetdev, 1⟩ .zero Node.board).2,
          (handleClient [reportRequest.toBytes] fun _ => 0).2⟩) := by
    unfold serverTurn
    dsimp only
    rw [if_neg (by decide), hclient]
    rfl
  have hrun : runServer ⟨Layout.lowest, .ethernetdev, 1⟩ ⟨false, Node.board, fun _ => 0⟩
      [⟨true, true, true, .timeout⟩, ⟨true, true, true, .client .zero [reportRequest.toBytes]⟩] =
        some (events, ⟨true, (getNodeInfo ⟨Layout.lowest, .ethernetdev, 1⟩ .zero Node.board).2,
          (handleClient [reportRequest.toBytes] fun _ => 0).2⟩) := by
    show ((serverTurn _ _ _).bind _).bind _ = _
    rw [hturn]
    rfl
  exact ⟨events, _, hrun, (responses_numbered ⟨Layout.lowest, .ethernetdev, 1⟩ rfl hrun).1⟩

end CommandService

end EmbeddedPixel
