import EmbeddedPixel.Host.ApplySession
import EmbeddedPixel.Host.UpdateSession
import EmbeddedPixel.Sys.ConsoleTask

/-!
# A command line over the network

`send_cli_command` at one end of a connection, `handleClient` and `execute` at the other.  `cli_session`
follows a command from the script to the node and its text back: wherever the network cuts the request, the
node executes the first 127 bytes of the command once, and the script prints what the command printed.
-/

set_option autoImplicit false

namespace EmbeddedPixel.OtaUpdater

open Foundation TelemetryViews CommandService

def CMD_CLI_EXEC : Nat := 0x0150
def CMD_CLI_EXEC_RESP : Nat := 0x0151

/-- The end of `send_cli_command`: the text it prints, in bytes, or `none` where it prints that the response
is unexpected. -/
def cliReply : Talk Stop (Option (List UInt8)) := do
  let (msgType, respPayload) ← recvReply
  if msgType = CMD_CLI_EXEC_RESP ∧ respPayload.length ≥ 4 then do
    let values ← Talk.ofExcept (unpackOrRaise "<HH" (slice respPayload 0 4))
    match values with
    | [.int _, .int respLen] => pure (some (slice respPayload 4 (4 + respLen)))
    | _ => Talk.stop .valueError
  else pure none

/-- `send_cli_command` on its connection. -/
def sendCliCommand (cmdBytes : List UInt8) : Talk Stop (Option (List UInt8)) := do
  let lens ← Talk.ofOption .structError (packValues "<HH" [.int cmdBytes.length, .int 0])
  sendRequest CMD_CLI_EXEC (lens ++ cmdBytes) 1
  cliReply

/-! ## The request -/

/-- The header of a request for a command of `len` bytes. -/
def cliHeader (len : Nat) : PE_Header :=
  populateHeader 0 .cmdCliExec 1 (UInt16.ofNat (4 + len)) 0 false none

def cliPayload (c : List UInt8) : List UInt8 := u16le (UInt16.ofNat c.length) ++ u16le 0 ++ c

@[simp] theorem length_cliPayload (c : List UInt8) : (cliPayload c).length = 4 + c.length := by
  simp [cliPayload]
  omega

theorem packLens {c : List UInt8} (hc : c.length < 65536) :
    packValues "<HH" [.int c.length, .int 0] = some (u16le (UInt16.ofNat c.length) ++ u16le 0) := by
  have hformat : parseFormat "<HH" = some [.H, .H] := by decide
  have hlen : Field.H.pack (.int c.length) = some (u16le (UInt16.ofNat c.length)) := if_pos hc
  have hzero : Field.H.pack (.int 0) = some (u16le 0) := rfl
  unfold packValues
  rw [hformat]
  dsimp only [Option.bind_eq_bind, Option.bind_some]
  rw [packFields_cons hlen, packFields_cons hzero]
  rfl

theorem makeHeader_cli {len : Nat} (hlen : 4 + len < 65536) :
    makeHeader CMD_CLI_EXEC (4 + len) 1 = some (cliHeader len).toBytes := by
  have hmagic : Field.H.pack (.int PE_MAGIC) = some (u16le EmbeddedPixel.PE_MAGIC) := rfl
  have hone : Field.B.pack (.int PE_VERSION) = some [1] := rfl
  have hflags : Field.B.pack (.int 0) = some [0] := rfl
  have hzero : Field.H.pack (.int 0) = some (u16le 0) := rfl
  have htype : Field.H.pack (.int CMD_CLI_EXEC) = some (u16le MessageType.cmdCliExec.code) := rfl
  have hseq : Field.I.pack (.int 1) = some (u32le 1) := rfl
  have hsize : Field.H.pack (.int (4 + len : Nat)) = some (u16le (UInt16.ofNat (4 + len))) := if_pos hlen
  unfold makeHeader packValues
  rw [parseFormat_header]
  dsimp only [Option.bind_eq_bind, Option.bind_some]
  rw [packFields_cons hmagic, packFields_cons hone, packFields_cons hflags, packFields_cons hzero,
    packFields_cons htype, packFields_cons hseq, packFields_cons hsize, packFields_cons hzero]
  rfl

/-- The script sends its request, and then waits. -/
theorem run_sendCliCommand {c : List UInt8} (hc : 4 + c.length < 65536) (incoming : List UInt8) :
    (sendCliCommand c).run incoming =
      ⟨((cliHeader c.length).toBytes ++ cliPayload c) :: (cliReply.run incoming).sent,
        (cliReply.run incoming).result, (cliReply.run incoming).unread⟩ := by
  unfold sendCliCommand sendRequest
  rw [packLens (by omega), Talk.ofOption_some_bind, Talk.run_bind]
  have hpayload : u16le (UInt16.ofNat c.length) ++ u16le 0 ++ c = cliPayload c := rfl
  rw [hpayload, length_cliPayload, makeHeader_cli hc, Talk.ofOption_some_bind, Talk.run_send]
  rfl

/-- A command that is too long for its length fields. -/
theorem run_sendCliCommand_long {c : List UInt8} (hc : 65536 ≤ 4 + c.length) (incoming : List UInt8) :
    (sendCliCommand c).run incoming = ⟨[], .error .structError, incoming⟩ := by
  have hformat : parseFormat "<HH" = some [.H, .H] := by decide
  unfold sendCliCommand
  by_cases hlens : c.length < 65536
  · have hheader : makeHeader CMD_CLI_EXEC (4 + c.length) 1 = none := by
      unfold makeHeader packValues
      rw [parseFormat_header]
      exact packFields_eq_none (show (Field.H, PyValue.int (4 + c.length : Nat)) ∈ _ by simp)
        (if_neg (by omega))
    have hsize : (u16le (UInt16.ofNat c.length) ++ u16le 0 ++ c).length = 4 + c.length :=
      length_cliPayload c
    unfold sendRequest
    rw [packLens hlens, Talk.ofOption_some_bind, hsize, hheader]
    rfl
  · have hnone : packValues "<HH" [.int c.length, .int 0] = none := by
      unfold packValues
      rw [hformat]
      exact packFields_eq_none (show (Field.H, PyValue.int c.length) ∈ _ by simp) (if_neg hlens)
    rw [hnone]
    rfl

/-! ## The response -/

/-- What the node writes for a response. -/
theorem flatMap_send {C : Type} (cfg : NodeConfig) (n : Node C) (type : MessageType) (flags : UInt8)
    (payload : List UInt8) :
    (send cfg n type flags payload).1.flatMap eventBytes =
      Frame.toBytes ⟨populateHeader cfg.nodeId type (n.seqNum + 1) (UInt16.ofNat payload.length) flags
        false none, payload⟩ := by
  show _ ++ [] = _
  rw [List.append_nil]
  rfl

/-- **The text comes back.** -/
theorem cliReply_text {f : Frame} {status : UInt16} {out : List UInt8} (hout : 4 + out.length < 65536)
    (htype : f.hdr.msgType = MessageType.cmdCliExecResp.code)
    (hpayload : f.payload = PayloadCliExecResp.toBytes ⟨status, UInt16.ofNat out.length⟩ ++ out)
    (hlen : f.hdr.payloadLen = UInt16.ofNat f.payload.length) :
    cliReply.run f.toBytes = ⟨[], .ok (some out), []⟩ := by
  have hformat : parseFormat "<HH" = some [.H, .H] := by decide
  have hsize : f.payload.length = 4 + out.length := by
    rw [hpayload, List.length_append]
    rfl
  have hfour : 4 ≤ f.payload.length := by omega
  have hreply := @run_recvReply f
    (by rw [hlen, hsize, UInt16.toNat_ofNat_of_lt' hout]) []
  rw [List.append_nil] at hreply
  have hcode : f.hdr.msgType.toNat = CMD_CLI_EXEC_RESP := by
    rw [htype]
    rfl
  have hlens : u16At (BytePtr.ofList f.payload) 2 = UInt16.ofNat out.length := by
    rw [hpayload]
    exact u16At_ofList_drop rfl
  have hread : unpackOrRaise "<HH" (slice f.payload 0 4) =
      .ok [.int (u16At (BytePtr.ofList f.payload) 0).toNat, .int out.length] := by
    rw [unpackOrRaise_slice hformat hfour rfl]
    show Except.ok [_, PyValue.int (u16At (BytePtr.ofList f.payload) 2).toNat] = _
    rw [hlens, UInt16.toNat_ofNat_of_lt' (show out.length < 65536 by omega)]
    rfl
  have htext : slice f.payload 4 (4 + out.length) = out := by
    unfold slice
    rw [List.take_of_length_le (Nat.le_of_eq hsize), hpayload]
    rfl
  unfold cliReply
  rw [Talk.run_bind, hreply]
  dsimp only
  rw [hcode, if_pos ⟨rfl, hfour⟩, hread, Talk.ofExcept_ok_bind]
  dsimp only
  rw [htext]
  rfl

/-- Any other response is not a text. -/
theorem cliReply_other {f : Frame} (hlen : f.payload.length = f.hdr.payloadLen.toNat)
    (htype : f.hdr.msgType ≠ MessageType.cmdCliExecResp.code) :
    cliReply.run f.toBytes = ⟨[], .ok none, []⟩ := by
  have hreply := run_recvReply hlen []
  rw [List.append_nil] at hreply
  have hcode : ¬ f.hdr.msgType.toNat = CMD_CLI_EXEC_RESP :=
    fun h => htype (UInt16.toNat_inj.1 h)
  unfold cliReply
  rw [Talk.run_bind, hreply]
  dsimp only
  rw [if_neg fun h => hcode h.1]
  rfl

/-- No response before the connection ends. -/
theorem cliReply_nothing : cliReply.run [] = ⟨[], .error .connectionError, []⟩ := rfl

/-! ## The session -/

variable {C : Type} [ITelemetryChannel C]

/-- The request in the payload buffer of the node. -/
theorem cliRequest_of_bytes {c : List UInt8} (hc : 4 + c.length < 65536) {p : BytePtr} (env : Env)
    (hp : bytesAt p 0 (4 + c.length) = cliPayload c) : CliRequest ⟨env, cliHeader c.length, p⟩ c := by
  have hsplit := bytesAt_add p 0 4 c.length
  rw [hp] at hsplit
  obtain ⟨hlens, htext⟩ := List.append_inj (show (u16le (UInt16.ofNat c.length) ++ u16le 0) ++ c = _ from
    hsplit) rfl
  have hlen : u16At p 0 = UInt16.ofNat c.length := by
    refine u16At_of_bytes ?_
    have hfirst := congrArg (List.take 2) hlens
    exact hfirst.symm
  refine ⟨rfl, UInt16.toNat_ofNat_of_lt' hc, ?_, ?_⟩
  · show (u16At p 0).toNat = _
    rw [hlen, UInt16.toNat_ofNat_of_lt' (show c.length < 65536 by omega)]
  · rw [Nat.zero_add] at htext
    exact htext.symm

/-- What a session comes to: the one action of the node, which leaves `n'`, and how the script ends. -/
def CliServed (side : NodeSide C) (conn : List (List UInt8)) (c : List UInt8) (n' : Node C)
    (result : Except Stop (Option (List UInt8))) : Prop :=
  ∃ action events, (handleClient conn side.payloadBuffer).1 = [action] ∧
    side.node.serveAction side.cfg side.env action = some (events, n') ∧
      ((sendCliCommand c).run (events.flatMap eventBytes)).result = result ∧
        ((sendCliCommand c).run (events.flatMap eventBytes)).unread = []

section Served

variable {side : NodeSide C} {c : List UInt8} {conn : List (List UInt8)}

theorem flatten_of_sent (hc : 4 + c.length < 65536)
    (hsent : ((sendCliCommand c).run []).sent.flatten = conn.flatten) :
    conn.flatten = (cliHeader c.length).toBytes ++ (cliPayload c ++ []) := by
  rw [← hsent, run_sendCliCommand hc, cliReply_nothing, List.append_nil]
  exact List.append_nil _

theorem payloadLen_cliHeader {len : Nat} (hlen : 4 + len < 65536) :
    (cliHeader len).payloadLen.toNat = 4 + len :=
  UInt16.toNat_ofNat_of_lt' hlen

theorem ofCode_cliHeader (len : Nat) : MessageType.ofCode (cliHeader len).msgType = some .cmdCliExec := rfl

/-- The session, by the reply. -/
theorem CliServed.of_reply (hc : 4 + c.length < 65536) {action : ClientAction} {events : List NodeEvent}
    {n' : Node C} {result : Except Stop (Option (List UInt8))}
    (hactions : (handleClient conn side.payloadBuffer).1 = [action])
    (hserve : side.node.serveAction side.cfg side.env action = some (events, n'))
    (hreply : cliReply.run (events.flatMap eventBytes) = ⟨[], result, []⟩) :
    CliServed side conn c n' result := by
  refine ⟨action, events, hactions, hserve, ?_⟩
  rw [run_sendCliCommand hc, hreply]
  exact ⟨rfl, rfl⟩

/-- A command that fits the payload buffer is executed. -/
theorem served_of_fits (hcli : side.cfg.wiring.commandCli = true) (hc : c.length ≤ 2044)
    (hsent : ((sendCliCommand c).run []).sent.flatten = conn.flatten) :
    match CliEngine.execute side.cfg.wiring side.env side.node 512 (cstr (c.take 127)) with
    | .text out n' => CliServed side conn c { n' with seqNum := n'.seqNum + 1 } (.ok (some out))
    | .reset n' => CliServed side conn c n' (.error .connectionError) := by
  have hshort : 4 + c.length < 65536 := by omega
  have hsize := payloadLen_cliHeader hshort
  have hlast : MessageType.ofCode (cliHeader c.length).msgType ≠ some .cmdOtaData := by
    rw [ofCode_cliHeader]
    decide
  obtain ⟨p, hactions, hp⟩ := handleClient_request (flatten_of_sent hshort hsent)
    ((length_cliPayload c).trans hsize.symm) rfl (by omega) hlast side.payloadBuffer
  rw [hsize] at hp
  have htext := (cliRequest_of_bytes hshort side.env hp).cliText_cut
  have hstep : side.node.serveAction side.cfg side.env (.processCommand (cliHeader c.length) p) =
      some ((cliExec side.cfg side.env (cliHeader c.length) side.node).run p) := by
    show (processCommand side.cfg side.env (cliHeader c.length) side.node).run p = _
    unfold processCommand
    rw [ofCode_cliHeader]
    exact Reader.run_map _ _ _
  unfold cliExec at hstep
  rw [if_neg (by simp [hcli]), Reader.run_bind, Reader.run_pure, htext] at hstep
  have hfits := (CliEngine.does_execute side.cfg.wiring side.env side.node 512 (cstr (c.take 127))).fits
  cases hexecute : CliEngine.execute side.cfg.wiring side.env side.node 512 (cstr (c.take 127)) with
  | text out n' =>
      have hout := hfits out n' hexecute
      rw [show cstr (c.take LineEditor.LIMIT) = cstr (c.take 127) from rfl, hexecute] at hstep
      refine .of_reply hshort hactions hstep ?_
      refine (congrArg cliReply.run (flatMap_send side.cfg n' .cmdCliExecResp FLAG_IS_RESPONSE _)).trans ?_
      exact cliReply_text (show 4 + out.length < 65536 by omega) rfl rfl rfl
  | reset n' =>
      rw [show cstr (c.take LineEditor.LIMIT) = cstr (c.take 127) from rfl, hexecute] at hstep
      exact .of_reply hshort hactions hstep cliReply_nothing

/-- A command that does not fit is refused. -/
theorem served_of_long (hlong : 2044 < c.length) (hc : c.length < 65532)
    (hsent : ((sendCliCommand c).run []).sent.flatten = conn.flatten) :
    CliServed side conn c { side.node with seqNum := side.node.seqNum + 1 } (.ok none) := by
  have hshort : 4 + c.length < 65536 := by omega
  have hsize := payloadLen_cliHeader hshort
  have hframe : parseFrame ((cliHeader c.length).toBytes ++ (cliPayload c ++ [])) = _ :=
    parseFrame_append (cliHeader c.length) ((length_cliPayload c).trans hsize.symm)
  have hmagic : (cliHeader c.length).magic = EmbeddedPixel.PE_MAGIC := rfl
  rw [if_neg (not_not.2 hmagic), if_pos (by omega)] at hframe
  rw [← flatten_of_sent hshort hsent] at hframe
  have hreceived := received_of_last hframe side.payloadBuffer
  obtain ⟨action, hactions, haction⟩ := List.map_eq_singleton_iff.1 hreceived
  cases action with
  | processCommand hdr p => cases haction
  | sendAckNack cmdId status =>
      obtain ⟨rfl, rfl⟩ := Received.refused.inj haction
      have hreply : cliReply.run ((sendAckNack side.cfg side.node (cliHeader c.length).msgType
          .errInvalidPayload 0).1.flatMap eventBytes) = ⟨[], .ok none, []⟩ := by
        unfold sendAckNack
        rw [flatMap_send]
        exact cliReply_other rfl (show MessageType.cmdNack.code ≠ _ by decide)
      exact .of_reply hshort hactions rfl hreply

end Served

/-- **A command line over the network**, cut anywhere.  A command of up to 2044 bytes is executed once, its
first 127 bytes up to a zero, and the script prints the text of the command, or loses the connection where
the command resets the node; a longer one is refused by the node or, from 65532 bytes on, by the script. -/
theorem cli_session (side : NodeSide C) (hcli : side.cfg.wiring.commandCli = true) {c : List UInt8}
    {conn : List (List UInt8)} (hsent : ((sendCliCommand c).run []).sent.flatten = conn.flatten) :
    (c.length ≤ 2044 →
      match CliEngine.execute side.cfg.wiring side.env side.node 512 (cstr (c.take 127)) with
      | .text out n' => CliServed side conn c { n' with seqNum := n'.seqNum + 1 } (.ok (some out))
      | .reset n' => CliServed side conn c n' (.error .connectionError)) ∧
    (2044 < c.length → c.length < 65532 →
      CliServed side conn c { side.node with seqNum := side.node.seqNum + 1 } (.ok none)) ∧
    (65532 ≤ c.length →
      (handleClient conn side.payloadBuffer).1 = [] ∧
        ((sendCliCommand c).run []).result = .error .structError) := by
  refine ⟨fun hc => served_of_fits hcli hc hsent, fun hlong hc => served_of_long hlong hc hsent,
    fun hc => ?_⟩
  have hrun := run_sendCliCommand_long (show 65536 ≤ 4 + c.length by omega) []
  rw [hrun] at hsent ⊢
  have hparse : parseFrame conn.flatten = (none, none) := by
    rw [show conn.flatten = [] from hsent.symm]
    rfl
  have hreceived := received_of_last hparse side.payloadBuffer
  exact ⟨List.map_eq_nil_iff.1 hreceived, rfl⟩

/-- `led`, cut in the header and in the payload. -/
theorem cli_session_led :
    CliServed ⟨⟨Layout.lowest, .ethernetdev, 1⟩, .zero, Node.board, fun _ => 0⟩
      [((cliHeader 3).toBytes ++ cliPayload (ascii "led")).take 7,
        ((cliHeader 3).toBytes ++ cliPayload (ascii "led")).drop 7]
      (ascii "led") { Node.board with seqNum := 1 }
      (.ok (some (ascii "Current LED Blink Period: 500 ms\r\n"))) := by
  have hexecute : CliEngine.execute .ethernetdev .zero Node.board 512 (cstr ((ascii "led").take 127)) =
      .text (ascii "Current LED Blink Period: 500 ms\r\n") Node.board := by
    have htext : snprintf 512 (ascii "Current LED Blink Period: " ++ decimal 500 ++ ascii " ms\r\n") =
        ascii "Current LED Blink Period: 500 ms\r\n" := by decide +kernel
    rw [← htext]
    rfl
  have h := (@cli_session BoardChannel _ ⟨⟨Layout.lowest, .ethernetdev, 1⟩, .zero, Node.board, fun _ => 0⟩
    rfl (ascii "led") [((cliHeader 3).toBytes ++ cliPayload (ascii "led")).take 7,
      ((cliHeader 3).toBytes ++ cliPayload (ascii "led")).drop 7] (by decide +kernel)).1 (by decide)
  rw [hexecute] at h
  exact h

end EmbeddedPixel.OtaUpdater
