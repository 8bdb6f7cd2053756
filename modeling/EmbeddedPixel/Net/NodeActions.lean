import EmbeddedPixel.Net.Channels
import EmbeddedPixel.Net.CommandReads
import EmbeddedPixel.Sys.CliCommand

/-!
# Requests and console lines

A node is driven by the requests on its command connections and by the lines typed on its console
(`sys/ConsoleTask.cpp`); `act` is one of either.  `effect` is what an action does to the controller, the
telemetry service and the discovery service, read off the request or the line, and `act_effect` says
that `act` does it.

A run of `act` begins at a power-up.  It is not cut off at a reset, so that it may hold actions that no
node sees.
-/

set_option autoImplicit false

namespace EmbeddedPixel

open Foundation

/-- What a node is driven by. -/
inductive NodeAction where
  | request (r : NodeRequest)
  | console (env : Env) (line : List UInt8)

namespace Node

variable {C : Type} [ITelemetryChannel C] (cfg : NodeConfig) (n : Node C)

/-- `execute_interactive`; the text goes to the console. -/
def executeInteractive (env : Env) (line : List UInt8) : List NodeEvent × Node C :=
  match CliEngine.execute cfg.wiring env n 512 line with
  | .reset n => ([.reset], n)
  | .text _ n => ([], n)

/-- One action. -/
def act : NodeAction → Option (List NodeEvent × Node C)
  | .request r => n.step cfg r
  | .console env line => some (n.executeInteractive cfg env line)

/-- Streams started for the controller or for `CMD_START_STREAM`. -/
def startStreams (tag : UInt32) (rate batch : UInt16) : Node C :=
  { n with
    telemetry := n.telemetry.startStreaming IPADDR_BROADCAST PORT_STREAM tag rate batch
    discovery := { n.discovery with state := .streaming } }

/-- Streams stopped for the controller or for `CMD_STOP_STREAM`. -/
def stopStreams (tag : UInt32) : Node C :=
  let telemetry := n.telemetry.stopStreaming tag
  { n with
    telemetry := telemetry
    discovery :=
      { n.discovery with state := if telemetry.isStreaming then n.discovery.state else .idle } }

theorem startTelemetry_ethernetdev (tag : UInt32) (rate batch : UInt16) :
    (n.startTelemetry .ethernetdev tag rate batch).2 =
      if n.sysCtrl.isFeatureEnabled .telemetryStream then n.startStreams tag rate batch else n := by
  unfold startTelemetry
  cases n.sysCtrl.isFeatureEnabled .telemetryStream with
  | true => rfl
  | false => rfl

theorem stopTelemetry_ethernetdev (tag : UInt32) :
    (n.stopTelemetry .ethernetdev tag).2 = n.stopStreams tag := by
  unfold stopTelemetry stopStreams
  dsimp only [Wiring.ethernetdev]
  cases (n.telemetry.stopStreaming tag).isStreaming with
  | true => rfl
  | false => rfl

end Node

/-- The node `main` starts: its channels are registered, and the discovery service has its copies from
the controller. -/
def Node.startUp {C : Type} [ITelemetryChannel C] (ram : Mem 32) (sysCtrl : SystemController)
    (blinkPeriodMs : UInt32) (chs : List C) (fwVersion : UInt32) : Node C :=
  Node.powerUp ram sysCtrl blinkPeriodMs (.registerAll chs)
    { DiscoveryService.create fwVersion with
      bootloaderVersion := sysCtrl.getBootloaderVersion
      boardId := sysCtrl.getBoardId
      featureFlags := sysCtrl.featureFlags }

/-- `ethernetdev`, version 1.0.0, with its channels, in a cleared RAM. -/
def Node.board : Node BoardChannel :=
  Node.startUp (fun _ => 0) (SystemController.ethernetdev fun _ => 0) 500 BoardChannel.ethernetdev
    (MAKE_VERSION 1 0 0 0)

namespace NodeAction

variable (cfg : NodeConfig)

/-- The command line in an action. -/
def cliLine : NodeAction → Option (List UInt8)
  | .request r =>
    if MessageType.ofCode r.hdr.msgType = some .cmdCliExec ∧ cfg.wiring.commandCli = true then
      some ((CommandService.cliText r.hdr).run r.payload)
    else none
  | .console _ line => some line

/-- The command an action holds. -/
def command (a : NodeAction) : CliCommand :=
  match a.cliLine cfg with
  | none => .report
  | some line => CliCommand.parseLine line

/-- Only `CMD_CLI_EXEC` holds a command. -/
theorem command_of_type {r : NodeRequest}
    (h : MessageType.ofCode r.hdr.msgType ≠ some .cmdCliExec) :
    (NodeAction.request r).command cfg = .report := by
  simp [command, cliLine, h]

/-- The feature an action switches, and which way. -/
def featureSwitch (a : NodeAction) : Option (FeatureFlag × Bool) := (a.command cfg).featureSwitch

/-- What an action does beside the OTA service and the sequence number. -/
def effect {C : Type} [ITelemetryChannel C] (n : Node C) (a : NodeAction) : Node C :=
  match a with
  | .request r =>
    let cmd := (CommandService.payloadCommand r.hdr).run r.payload
    match MessageType.ofCode r.hdr.msgType with
    | some .cmdStartStream =>
      let (tag, rate, batch) := CommandService.startParams cmd
      n.startStreams tag rate batch
    | some .cmdStopStream => n.stopStreams (CommandService.stopParam cmd)
    | _ => (a.command cfg).apply cfg.wiring n
  | .console _ _ => (a.command cfg).apply cfg.wiring n

end NodeAction

/-! ## What an action does -/

/-- Two nodes that differ at most in the OTA service and the sequence number. -/
structure Node.SameFront {C : Type} (n n' : Node C) : Prop where
  sysCtrl : n'.sysCtrl = n.sysCtrl
  blinkPeriodMs : n'.blinkPeriodMs = n.blinkPeriodMs
  telemetry : n'.telemetry = n.telemetry
  discovery : n'.discovery = n.discovery

namespace CommandService

variable {C : Type} [ITelemetryChannel C] {cfg : NodeConfig} {n n' : Node C} {env : Env}
  {hdr : PE_Header} {p : BytePtr} {events : List NodeEvent}

omit [ITelemetryChannel C] in
/-- An OTA request changes nothing else. -/
theorem otaRequest_front {size : UInt16} {serve : Reader (Option (Reply C))}
    (h : (otaRequest cfg hdr n size serve).run p = some (events, n'))
    (hserve : serve.run p = some (events, n') → n.SameFront n') : n.SameFront n' := by
  unfold otaRequest at h
  split at h
  · cases h
    exact ⟨rfl, rfl, rfl, rfl⟩
  split at h
  · cases h
    exact ⟨rfl, rfl, rfl, rfl⟩
  · exact hserve h

variable (cfg n env hdr p)

theorem startStream_front :
    (n.startStreams (startParams ((payloadCommand hdr).run p)).1
      (startParams ((payloadCommand hdr).run p)).2.1
      (startParams ((payloadCommand hdr).run p)).2.2).SameFront
        ((startStream cfg hdr n).run p).2 := by
  unfold startStream
  rw [Reader.run_bind, Reader.run_pure]
  exact ⟨rfl, rfl, rfl, rfl⟩

theorem stopStream_front :
    (n.stopStreams (stopParam ((payloadCommand hdr).run p))).SameFront
      ((stopStream cfg hdr n).run p).2 := by
  unfold stopStream Node.stopStreams
  rw [Reader.run_bind, Reader.run_pure]
  dsimp only
  cases (n.telemetry.stopStreaming (stopParam ((payloadCommand hdr).run p))).isStreaming with
  | true => exact ⟨rfl, rfl, rfl, rfl⟩
  | false => exact ⟨rfl, rfl, rfl, rfl⟩

theorem cliExec_front :
    (if cfg.wiring.commandCli then
      (CliCommand.parseLine ((cliText hdr).run p)).apply cfg.wiring n else n).SameFront
        ((cliExec cfg env hdr n).run p).2 := by
  unfold cliExec
  cases cfg.wiring.commandCli with
  | false => exact ⟨rfl, rfl, rfl, rfl⟩
  | true =>
      rw [if_pos rfl, ← CliEngine.node_execute cfg.wiring env n 512]
      simp only [Bool.not_true, Bool.false_eq_true, if_false, Reader.run_bind, Reader.run_pure]
      cases CliEngine.execute cfg.wiring env n 512 ((cliText hdr).run p) with
      | text out n' => exact ⟨rfl, rfl, rfl, rfl⟩
      | reset n' => exact ⟨rfl, rfl, rfl, rfl⟩

end CommandService

namespace Node

open CommandService

variable {C : Type} [ITelemetryChannel C] {cfg : NodeConfig} {n n' : Node C} {a : NodeAction}
  {events : List NodeEvent}

theorem step_effect {r : NodeRequest} (h : n.step cfg r = some (events, n')) :
    ((NodeAction.request r).effect cfg n).SameFront n' := by
  unfold step processCommand at h
  simp only [NodeAction.effect, NodeAction.command, NodeAction.cliLine]
  generalize MessageType.ofCode r.hdr.msgType = type at h ⊢
  split at h
  · cases h
    exact ⟨rfl, rfl, rfl, rfl⟩
  · rw [Reader.run_map] at h
    have hfront := startStream_front cfg n r.hdr r.payload
    rw [Option.some.inj h] at hfront
    exact hfront
  · rw [Reader.run_map] at h
    have hfront := stopStream_front cfg n r.hdr r.payload
    rw [Option.some.inj h] at hfront
    exact hfront
  · cases h
    exact ⟨rfl, rfl, rfl, rfl⟩
  · apply otaRequest_front h
    intro h
    rw [Reader.run_bind, Reader.run_pure] at h
    cases h
    exact ⟨rfl, rfl, rfl, rfl⟩
  · apply otaRequest_front h
    intro h
    rw [Reader.run_bind, Reader.run_bind, Reader.run_pure] at h
    obtain ⟨res, -, hs⟩ := Option.map_eq_some_iff.1 h
    cases hs
    exact ⟨rfl, rfl, rfl, rfl⟩
  · apply otaRequest_front h
    intro h
    rw [Reader.run_bind, Reader.run_pure] at h
    cases h
    exact ⟨rfl, rfl, rfl, rfl⟩
  · rw [Reader.run_pure] at h
    unfold otaGetStatus at h
    split at h
    · cases h
      exact ⟨rfl, rfl, rfl, rfl⟩
    · cases h
      exact ⟨rfl, rfl, rfl, rfl⟩
  · rw [Reader.run_pure] at h
    unfold otaAbort at h
    cases hota : cfg.wiring.commandOta with
    | true =>
        rw [hota] at h
        cases h
        exact ⟨rfl, rfl, rfl, rfl⟩
    | false =>
        rw [hota] at h
        cases h
        exact ⟨rfl, rfl, rfl, rfl⟩
  · rw [Reader.run_map] at h
    have hfront := cliExec_front cfg n r.env r.hdr r.payload
    rw [Option.some.inj h] at hfront
    cases hcli : cfg.wiring.commandCli with
    | true =>
        rw [hcli, if_pos rfl] at hfront
        rw [if_pos (by simp)]
        exact hfront
    | false =>
        rw [hcli] at hfront
        rw [if_neg (by simp)]
        exact hfront
  · cases h
    exact ⟨rfl, rfl, rfl, rfl⟩
  · rename_i hstart hstop _ _ _ _ _ _ hcli _
    cases h
    rw [if_neg fun h => hcli h.1]
    split
    · exact absurd rfl hstart
    · exact absurd rfl hstop
    · exact ⟨rfl, rfl, rfl, rfl⟩

/-- A console line leaves the node its command line leaves. -/
theorem node_console {env : Env} {line : List UInt8}
    (h : n.act cfg (.console env line) = some (events, n')) :
    n' = (CliEngine.execute cfg.wiring env n 512 line).node := by
  have hrun : n.executeInteractive cfg env line = (events, n') := Option.some.inj h
  unfold executeInteractive at hrun
  cases hresult : CliEngine.execute cfg.wiring env n 512 line with
  | text out m =>
      rw [hresult] at hrun
      cases hrun
      rfl
  | reset m =>
      rw [hresult] at hrun
      cases hrun
      rfl

/-- **An action does what is read off it.** -/
theorem act_effect (h : n.act cfg a = some (events, n')) : (a.effect cfg n).SameFront n' := by
  cases a with
  | request r => exact step_effect h
  | console env line =>
      simp only [NodeAction.effect, NodeAction.command, NodeAction.cliLine]
      rw [node_console h, CliEngine.node_execute]
      exact ⟨rfl, rfl, rfl, rfl⟩

/-- The controller changes by the switches of the command lines alone. -/
theorem sysCtrl_act (h : n.act cfg a = some (events, n')) :
    n'.sysCtrl =
      match a.featureSwitch cfg with
      | none => n.sysCtrl
      | some (flag, enable) => n.sysCtrl.setFeature flag enable := by
  rw [(act_effect h).sysCtrl]
  unfold NodeAction.featureSwitch
  cases a with
  | console env line => exact CliCommand.sysCtrl_apply _ _ _
  | request r =>
      refine Eq.trans ?_ (CliCommand.sysCtrl_apply cfg.wiring n _)
      simp only [NodeAction.effect, NodeAction.command, NodeAction.cliLine]
      split
      · rename_i htype
        rw [htype]
        rfl
      · rename_i htype
        rw [htype]
        rfl
      · rfl

/-- A feature after an action is what the action switches it to, if it does. -/
theorem isFeatureEnabled_act {flag : FeatureFlag} (hflag : flag ≠ .none)
    (h : n.act cfg a = some (events, n')) :
    n'.sysCtrl.isFeatureEnabled flag =
      match a.featureSwitch cfg with
      | none => n.sysCtrl.isFeatureEnabled flag
      | some (other, enable) => if other = flag then enable else n.sysCtrl.isFeatureEnabled flag := by
  rw [sysCtrl_act h]
  split
  · rfl
  · exact SystemController.isFeatureEnabled_setFeature _ _ _ hflag

end Node

end EmbeddedPixel
