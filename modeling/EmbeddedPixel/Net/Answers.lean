import EmbeddedPixel.Net.NodeActions
import EmbeddedPixel.Net.OtaTransition

/-!
# One answer for each request

`processCommand` writes one response on every path but one, and resets only after it: a command line that
asks for a reboot resets inside `execute`, before the response is built (`answered_iff`).
-/

set_option autoImplicit false

namespace EmbeddedPixel

open Foundation

/-- One response is written, and resets come after it. -/
def AnsweredOnce (events : List NodeEvent) : Prop :=
  ∃ frame rest, events = .reply frame :: rest ∧ ∀ e ∈ rest, e = .reset

/-- A data chunk that the service copies past the end of its buffer. -/
structure ChunkOutside {C : Type} (cfg : NodeConfig) (n : Node C) (r : NodeRequest) : Prop where
  type : MessageType.ofCode r.hdr.msgType = some .cmdOtaData
  wired : cfg.wiring.commandOta = true
  long : 8 ≤ r.hdr.payloadLen
  copies : n.ota.svc.Copies (PayloadOtaData.ofPtr r.payload) (r.payload.advance 8)
    (PayloadOtaData.ofPtr r.payload).chunkLen
  outside : 163840 < (PayloadOtaData.ofPtr r.payload).offset.toNat +
    (PayloadOtaData.ofPtr r.payload).chunkLen.toNat

namespace CommandService

variable {C : Type} (cfg : NodeConfig) (n : Node C)

theorem answered_send (type : MessageType) (flags : UInt8) (payload : List UInt8) :
    AnsweredOnce (send cfg n type flags payload).1 := ⟨_, [], rfl, by simp⟩

theorem answered_sendAckNack (id : UInt16) (st : StatusCode) (rc : UInt32) :
    AnsweredOnce (sendAckNack cfg n id st rc).1 := answered_send cfg n _ _ _

/-- A reset after the response. -/
theorem answered_sendAckNack_reset (id : UInt16) (st : StatusCode) (rc : UInt32) :
    AnsweredOnce ((sendAckNack cfg n id st rc).1 ++ [.reset]) := ⟨_, [.reset], rfl, by simp⟩

/-- A response in a result. -/
def Answers (s : Option (Reply C)) : Prop := ∃ events n', s = some (events, n') ∧ AnsweredOnce events

variable {cfg n} {r : NodeRequest}

theorem Answers.some {s : Reply C} (h : AnsweredOnce s.1) : Answers (some s) := ⟨s.1, s.2, rfl, h⟩

/-- An OTA request is answered if the service answers it. -/
theorem answers_otaRequest {size : UInt16} {serve : Reader (Option (Reply C))}
    (h : cfg.wiring.commandOta = true → size ≤ r.hdr.payloadLen → Answers (serve.run r.payload)) :
    Answers ((otaRequest cfg r.hdr n size serve).run r.payload) := by
  unfold otaRequest
  split
  · exact .some (answered_sendAckNack cfg n _ _ _)
  · rename_i hota
    split
    · exact .some (answered_sendAckNack cfg n _ _ _)
    · rename_i hlen
      exact h (by simpa using hota) (UInt16.not_lt.1 hlen)

theorem answers_otaBegin : Answers ((otaBegin cfg r.env r.hdr n).run r.payload) := by
  apply answers_otaRequest
  intro _ _
  rw [Reader.run_bind, Reader.run_pure]
  exact .some (answered_send cfg _ _ _ _)

theorem answers_otaEnd : Answers ((otaEnd cfg r.hdr n).run r.payload) := by
  apply answers_otaRequest
  intro _ _
  rw [Reader.run_bind, Reader.run_pure]
  refine .some ?_
  dsimp only
  split
  · exact answered_sendAckNack_reset cfg _ _ _ _
  · exact answered_sendAckNack cfg _ _ _ _

/-- A data chunk is answered unless it is copied past the buffer. -/
theorem answers_otaData_iff (htype : MessageType.ofCode r.hdr.msgType = some .cmdOtaData) :
    Answers ((otaData cfg r.hdr n).run r.payload) ↔ ¬ ChunkOutside cfg n r := by
  have hview := view_otaData r.payload
  by_cases hserved : cfg.wiring.commandOta = true ∧ 8 ≤ r.hdr.payloadLen
  · obtain ⟨hota, hlen⟩ := hserved
    unfold otaData otaRequest
    rw [if_neg (by simp [hota]), if_neg (UInt16.not_lt.2 hlen), Reader.run_bind, hview,
      Reader.run_bind, Reader.run_pure, Reader.run_advance]
    by_cases hcopies : n.ota.svc.Copies (PayloadOtaData.ofPtr r.payload) (r.payload.advance 8)
        (PayloadOtaData.ofPtr r.payload).chunkLen
    · rw [OtaMachine.handleData_of_copies hcopies]
      by_cases hfit : (PayloadOtaData.ofPtr r.payload).offset.toNat +
          (PayloadOtaData.ofPtr r.payload).chunkLen.toNat ≤ 163840
      · refine iff_of_true ?_ fun hout => Nat.not_lt.2 hfit hout.outside
        obtain ⟨st, m, hcopy⟩ := OtaMachine.copyChunk_isSome (L := cfg.layout)
          (c := n.otaSysCtrl cfg.wiring) (m := n.ota)
          (show _ + (bytesAt (r.payload.advance 8) 0 _).length ≤ _ by rwa [length_bytesAt])
        rw [hcopy]
        exact .some (answered_sendAckNack cfg _ _ _ _)
      · refine iff_of_false ?_ fun hno =>
          hno ⟨htype, hota, hlen, hcopies, Nat.not_le.1 hfit⟩
        rintro ⟨events, n', hs, -⟩
        obtain ⟨⟨st, m⟩, hcopy, -⟩ := Option.map_eq_some_iff.1 hs
        obtain ⟨hin, -⟩ := OtaMachine.copyChunk_eq_some hcopy
        rw [length_bytesAt] at hin
        exact hfit hin
    · refine iff_of_true ?_ fun hout => hcopies hout.copies
      obtain ⟨st, e, hdata, -⟩ := OtaMachine.handleData_of_not_copies (L := cfg.layout)
        (c := n.otaSysCtrl cfg.wiring) hcopies
      rw [hdata]
      exact .some (answered_sendAckNack cfg _ _ _ _)
  · refine iff_of_true ?_ fun hout => hserved ⟨hout.wired, hout.long⟩
    apply answers_otaRequest
    intro hota hlen
    exact absurd ⟨hota, hlen⟩ hserved

variable [ITelemetryChannel C]

theorem answered_startStream (hdr : PE_Header) (p : BytePtr) :
    AnsweredOnce ((startStream cfg hdr n).run p).1 := by
  unfold startStream
  rw [Reader.run_bind, Reader.run_pure]
  exact answered_sendAckNack cfg _ _ _ _

theorem answered_stopStream (hdr : PE_Header) (p : BytePtr) :
    AnsweredOnce ((stopStream cfg hdr n).run p).1 := by
  unfold stopStream
  rw [Reader.run_bind, Reader.run_pure]
  exact answered_sendAckNack cfg _ _ _ _

/-- A command line is answered unless it asks for a reboot. -/
theorem answers_cliExec_iff :
    AnsweredOnce ((cliExec cfg r.env r.hdr n).run r.payload).1 ↔
      ¬ (cfg.wiring.commandCli = true ∧ CliCommand.parseLine ((cliText r.hdr).run r.payload) = .reboot) := by
  unfold cliExec
  cases hcli : cfg.wiring.commandCli with
  | false => exact iff_of_true (answered_sendAckNack cfg n _ _ _) fun h => absurd h.1 (by decide)
  | true =>
      simp only [Bool.not_true, Bool.false_eq_true, if_false, Reader.run_bind, Reader.run_pure]
      have hreset :=
        (CliEngine.does_execute cfg.wiring r.env n 512 ((cliText r.hdr).run r.payload)).isReset
      generalize CliEngine.execute cfg.wiring r.env n 512 ((cliText r.hdr).run r.payload) = result at hreset
      cases result with
      | text out n' =>
          refine iff_of_true (answered_send cfg n' _ _ _) fun h => ?_
          exact absurd hreset (by simp [CliResult.isReset, h.2])
      | reset n' =>
          refine iff_of_false ?_ fun hno => hno ⟨trivial, of_decide_eq_true hreset.symm⟩
          rintro ⟨frame, rest, hevents, -⟩
          cases hevents

end CommandService

/-- A `CMD_CLI_EXEC` that asks for a reboot. -/
theorem NodeAction.command_eq_reboot_iff {cfg : NodeConfig} {r : NodeRequest}
    (h : MessageType.ofCode r.hdr.msgType = some .cmdCliExec) :
    (NodeAction.request r).command cfg = .reboot ↔
      cfg.wiring.commandCli = true ∧
        CliCommand.parseLine ((CommandService.cliText r.hdr).run r.payload) = .reboot := by
  unfold NodeAction.command NodeAction.cliLine
  cases hcli : cfg.wiring.commandCli with
  | true => simp [h]
  | false => simp

namespace Node

open CommandService

variable {C : Type} [ITelemetryChannel C]

/-- Every request but two kinds has its answer. -/
theorem answers_step {cfg : NodeConfig} {n : Node C} {r : NodeRequest}
    (hcli : MessageType.ofCode r.hdr.msgType ≠ some .cmdCliExec)
    (hdata : MessageType.ofCode r.hdr.msgType ≠ some .cmdOtaData) : Answers (n.step cfg r) := by
  unfold step processCommand
  generalize MessageType.ofCode r.hdr.msgType = type at hcli hdata ⊢
  split
  · exact .some (answered_send cfg n _ _ _)
  · rw [Reader.run_map]
    exact .some (answered_startStream r.hdr r.payload)
  · rw [Reader.run_map]
    exact .some (answered_stopStream r.hdr r.payload)
  · exact .some (answered_send cfg n _ _ _)
  · exact answers_otaBegin
  · exact absurd rfl hdata
  · exact answers_otaEnd
  · refine .some ?_
    unfold otaGetStatus
    split
    · exact answered_sendAckNack cfg n _ _ _
    · exact answered_send cfg n _ _ _
  · exact .some (answered_sendAckNack cfg _ _ _ _)
  · exact absurd rfl hcli
  · exact .some (answered_sendAckNack_reset cfg n _ _ _)
  · exact .some (answered_sendAckNack cfg n _ _ _)

/-- **When a request has exactly one answer, before any reset**: exactly if it is not a command line that
asks for a reboot and not a chunk that is copied past the buffer. -/
theorem answered_iff (cfg : NodeConfig) (n : Node C) (r : NodeRequest) :
    (∃ events n', n.step cfg r = some (events, n') ∧ AnsweredOnce events) ↔
      (NodeAction.request r).command cfg ≠ .reboot ∧ ¬ ChunkOutside cfg n r := by
  show Answers (n.step cfg r) ↔ _
  by_cases hcli : MessageType.ofCode r.hdr.msgType = some .cmdCliExec
  · have hin : ¬ ChunkOutside cfg n r := fun h => by
      have htype := h.type
      rw [hcli] at htype
      cases htype
    have hstep : Answers (n.step cfg r) ↔
        AnsweredOnce ((cliExec cfg r.env r.hdr n).run r.payload).1 := by
      unfold step processCommand
      rw [hcli, Reader.run_map]
      refine ⟨?_, .some⟩
      rintro ⟨events, n', hs, h⟩
      rw [Option.some.inj hs]
      exact h
    rw [hstep, answers_cliExec_iff, ← NodeAction.command_eq_reboot_iff hcli]
    exact (and_iff_left hin).symm
  by_cases hdata : MessageType.ofCode r.hdr.msgType = some .cmdOtaData
  · have hstep : Answers (n.step cfg r) ↔ Answers ((otaData cfg r.hdr n).run r.payload) := by
      unfold step processCommand
      rw [hdata]
    rw [hstep, answers_otaData_iff hdata, NodeAction.command_of_type cfg hcli]
    simp
  · refine iff_of_true (answers_step hcli hdata) ⟨?_, fun h => hdata h.type⟩
    rw [NodeAction.command_of_type cfg hcli]
    decide

/-- A command line that reads `reboot`. -/
def rebootLine : NodeRequest where
  env := .zero
  hdr := populateHeader 0 .cmdCliExec 1 10 0 false none
  payload := BytePtr.ofList (u16le 6 ++ u16le 0 ++ ascii "reboot")

/-- The node resets without an answer. -/
theorem reboot_unanswered :
    ¬ ∀ (cfg : NodeConfig) (n : Node BoardChannel) (r : NodeRequest),
        ∃ events n', n.step cfg r = some (events, n') ∧ AnsweredOnce events := by
  intro h
  obtain ⟨events, n', hstep, frame, rest, hevents, -⟩ :=
    h ⟨Layout.lowest, Wiring.ethernetdev, 1⟩ Node.board rebootLine
  have hreset : (Node.board.step ⟨Layout.lowest, Wiring.ethernetdev, 1⟩ rebootLine).map (·.1) =
      some [.reset] := by
    decide +kernel
  rw [hstep, hevents] at hreset
  cases hreset

end Node

end EmbeddedPixel
