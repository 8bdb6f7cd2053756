import EmbeddedPixel.Net.Streams

/-!
# The telemetry lock

The controller starts no stream with the telemetry feature off, but `CMD_START_STREAM` does not go
through the controller: `locked_stream_iff` says which actions start something while the feature is off.
-/

set_option autoImplicit false

namespace EmbeddedPixel

open Foundation ITelemetryChannel

namespace Node

variable {C : Type} [ITelemetryChannel C] {cfg : NodeConfig} {n n' : Node C} {a : NodeAction}
  {events : List NodeEvent}

/-- An action starts something: the service streams that did not, or a channel is enabled that was not. -/
def StartsStreams (n n' : Node C) : Prop :=
  (n.telemetry.isStreaming = false ∧ n'.telemetry.isStreaming = true) ∨
    TelemetryService.Enables n.telemetry.channels n'.telemetry.channels

/-- A `CMD_START_STREAM` that has something to start: the service is at rest, or a channel the request is
for is not enabled. -/
def StartRequest (n : Node C) : NodeAction → Prop
  | .request r =>
    let tag := (CommandService.startParams ((CommandService.payloadCommand r.hdr).run r.payload)).1
    MessageType.ofCode r.hdr.msgType = some .cmdStartStream ∧
      (n.telemetry.isStreaming = false ∨
        ∃ ch ∈ TelemetryService.targeted tag n.telemetry.channels, isEnabled ch = false)
  | .console _ _ => False

/-- No channel is enabled behind the back of the service. -/
def Covered (n : Node C) : Prop :=
  (∃ ch ∈ n.telemetry.channels, isEnabled ch = true) → n.telemetry.isStreaming = true

variable [LawfulTelemetryChannel C]

theorem covered_call (h : n.Covered) (c : Option StreamCall) : (n.call c).Covered := by
  rcases c with - | ⟨tag, rate, batch⟩ | tag
  · exact h
  · exact fun _ => rfl
  · intro hon
    have hany := List.any_eq_true.2 hon
    exact (TelemetryService.isStreaming_stopStreaming n.telemetry tag).trans hany

/-- What each call starts. -/
theorem startsStreams_start (tag : UInt32) (rate batch : UInt16) :
    n.StartsStreams (n.startStreams tag rate batch) ↔
      n.telemetry.isStreaming = false ∨
        ∃ ch ∈ TelemetryService.targeted tag n.telemetry.channels, isEnabled ch = false := by
  have henables := TelemetryService.enables_onChannels tag
    (TelemetryService.startChannel rate batch) n.telemetry.channels
  simp only [TelemetryService.isEnabled_startChannel, and_true] at henables
  unfold StartsStreams
  rw [show TelemetryService.Enables n.telemetry.channels
    (n.startStreams tag rate batch).telemetry.channels ↔ _ from henables]
  exact or_congr_left (and_iff_left rfl)

theorem not_startsStreams_stop (h : n.Covered) (tag : UInt32) :
    ¬ n.StartsStreams (n.stopStreams tag) := by
  have hno := TelemetryService.not_enables_stop tag n.telemetry.channels
  rintro (⟨hrest, hon⟩ | henables)
  · have hafter := (TelemetryService.isStreaming_stopStreaming n.telemetry tag).symm.trans hon
    have hbefore := TelemetryService.any_of_not_enables
      (TelemetryService.length_onChannels tag _ _) hno hafter
    rw [h (List.any_eq_true.1 hbefore)] at hrest
    cases hrest
  · exact hno henables

/-! ## Reachable states -/

section Runs

variable {L : Layout} {nodeId : UInt16} {ram : Mem 32} {ctrl : SystemController}
  {period fwVersion : UInt32} {chs : List C} {t : List (NodeAction × List NodeEvent)}

theorem covered_run (hw : cfg.wiring = .ethernetdev) (hchs : ∀ ch ∈ chs, isEnabled ch = false)
    (h : Machine.Run (Node.act cfg) (Node.startUp ram ctrl period chs fwVersion) t n) :
    n.Covered := by
  have hstart : (Node.startUp ram ctrl period chs fwVersion).Covered := by
    rintro ⟨ch, hch, hon⟩
    rw [hchs ch (TelemetryService.mem_of_mem_registerAll hch)] at hon
    cases hon
  refine Machine.Run.invariant hstart ?_ h
  intro s a o s' hcovered hs
  have hcall := covered_call hcovered (a.streamCall cfg s.sysCtrl)
  unfold Covered at hcall ⊢
  rw [(streams_act hw hs).1]
  exact hcall

omit [LawfulTelemetryChannel C] in
/-- With the feature off no command line starts anything. -/
theorem streamCall_command_of_locked {c : CliCommand} {ctrl : SystemController}
    (hoff : ctrl.isFeatureEnabled .telemetryStream = false) :
    c.streamCall ctrl = none ∨ ∃ tag, c.streamCall ctrl = some (.stop tag) := by
  cases c with
  | startStream tag rate =>
      left
      unfold CliCommand.streamCall
      rw [hoff]
      rfl
  | stopStream tag => exact Or.inr ⟨tag, rfl⟩
  | setFeature flag enable => exact Or.inl rfl
  | abortOta => exact Or.inl rfl
  | setBlinkRate periodMs => exact Or.inl rfl
  | reboot => exact Or.inl rfl
  | report => exact Or.inl rfl

/-- A command line starts nothing while the feature is off. -/
theorem not_startsStreams_command (h : n.Covered)
    (hoff : n.sysCtrl.isFeatureEnabled .telemetryStream = false) (c : CliCommand) :
    ¬ n.StartsStreams (n.call (c.streamCall n.sysCtrl)) := by
  rcases streamCall_command_of_locked (c := c) hoff with hnone | ⟨tag, hstop⟩
  · rw [hnone]
    rintro (⟨hrest, hon⟩ | henables)
    · rw [show n.telemetry.isStreaming = true from hon] at hrest
      cases hrest
    · exact TelemetryService.not_enables_self _ henables
  · rw [hstop]
    exact not_startsStreams_stop h tag

/-- **What starts streams while the telemetry feature is off.**  In a state that `ethernetdev` reaches
with the feature off, an action starts something exactly if it is a `CMD_START_STREAM` that has something
to start. -/
theorem locked_stream_iff (hchs : ∀ ch ∈ chs, isEnabled ch = false)
    (h : Machine.Run (Node.act ⟨L, .ethernetdev, nodeId⟩)
      (Node.startUp ram ctrl period chs fwVersion) t n)
    (hoff : n.sysCtrl.isFeatureEnabled .telemetryStream = false)
    (hs : n.act ⟨L, .ethernetdev, nodeId⟩ a = some (events, n')) :
    ¬ n.StartsStreams n' ↔ ¬ n.StartRequest a := by
  have hcovered := covered_run rfl hchs h
  have hcall : n.StartsStreams n' ↔
      n.StartsStreams (n.call (a.streamCall ⟨L, .ethernetdev, nodeId⟩ n.sysCtrl)) := by
    unfold StartsStreams
    rw [(streams_act rfl hs).1]
  rw [hcall, not_iff_not]
  cases a with
  | console env line =>
      exact iff_of_false (not_startsStreams_command hcovered hoff _) id
  | request r =>
      unfold NodeAction.streamCall StartRequest
      dsimp only
      split
      · rename_i htype
        rw [htype]
        exact (startsStreams_start _ _ _).trans (and_iff_right rfl).symm
      · rename_i htype
        rw [htype]
        exact iff_of_false (not_startsStreams_stop hcovered _) fun h => by cases h.1
      · rename_i hstart _
        exact iff_of_false (not_startsStreams_command hcovered hoff _) fun h => hstart h.1

end Runs

/-! ## A start that is not asked about -/

/-- The telemetry feature is switched off on the console. -/
def lockTelemetry : NodeAction := .console Env.zero (ascii "feature disable telemetry")

/-- `CMD_START_STREAM` for all channels. -/
def startAll : NodeAction := .request (.of .cmdStartStream [])

/-- A command line is held off. -/
theorem locked_stream_console :
    ∃ t n events n', Machine.Run (Node.act NodeConfig.ethernetdev) Node.board t n ∧
      n.sysCtrl.isFeatureEnabled .telemetryStream = false ∧
      n.act NodeConfig.ethernetdev counterTag = some (events, n') ∧ ¬ n.StartsStreams n' := by
  have hexec : (Machine.exec (Node.act NodeConfig.ethernetdev) Node.board [lockTelemetry]).any
      (fun r => decide (r.2.sysCtrl.isFeatureEnabled .telemetryStream = false) &&
        (r.2.act NodeConfig.ethernetdev counterTag).isSome) = true := by
    decide +kernel
  obtain ⟨t, n, hrun, -, hp⟩ := Machine.exec_any hexec
  obtain ⟨hoff, hsome⟩ := (Bool.and_eq_true _ _).mp hp
  obtain ⟨⟨events, n'⟩, hs⟩ := Option.isSome_iff_exists.1 hsome
  have hoff := of_decide_eq_true hoff
  have hchs : ∀ ch ∈ BoardChannel.ethernetdev, isEnabled ch = false := by decide
  exact ⟨t, n, events, n', hrun, hoff, hs, (locked_stream_iff hchs hrun hoff hs).2 id⟩

/-- `CMD_START_STREAM` is not. -/
theorem startAll_while_locked :
    ¬ ∀ (cfg : NodeConfig) (ram : Mem 32) (ctrl : SystemController) (period fwVersion : UInt32)
      (chs : List BoardChannel) (t : List (NodeAction × List NodeEvent)) (n n' : Node BoardChannel)
      (a : NodeAction) (events : List NodeEvent), cfg.wiring = .ethernetdev →
        (∀ ch ∈ chs, isEnabled ch = false) →
          Machine.Run (Node.act cfg) (Node.startUp ram ctrl period chs fwVersion) t n →
            n.sysCtrl.isFeatureEnabled .telemetryStream = false →
              n.act cfg a = some (events, n') → ¬ n.StartsStreams n' := by
  intro h
  have hexec : (Machine.exec (Node.act NodeConfig.ethernetdev) Node.board [lockTelemetry]).any
      (fun r => decide (r.2.sysCtrl.isFeatureEnabled .telemetryStream = false) &&
        (r.2.act NodeConfig.ethernetdev startAll).any fun s =>
          decide (r.2.telemetry.isStreaming = false ∧ s.2.telemetry.isStreaming = true)) = true := by
    decide +kernel
  obtain ⟨t, n, hrun, -, hp⟩ := Machine.exec_any hexec
  obtain ⟨hoff, hlast⟩ := (Bool.and_eq_true _ _).mp hp
  obtain ⟨⟨events, n'⟩, hs, hstarts⟩ := (Option.any_eq_true _ _).1 hlast
  have hchs : ∀ ch ∈ BoardChannel.ethernetdev, isEnabled ch = false := by decide
  exact h NodeConfig.ethernetdev _ _ _ _ _ t n n' startAll events rfl hchs hrun
    (of_decide_eq_true hoff) hs (Or.inl (of_decide_eq_true hstarts))

end Node

end EmbeddedPixel
