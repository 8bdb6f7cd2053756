import EmbeddedPixel.Net.Channels
import EmbeddedPixel.Net.NodeActions

/-!
# Streaming

Whether a node streams is recorded three times: by the telemetry service, by its channels and in the
node state.  `truthful_always_iff` says in which runs the three agree in every state.
-/

set_option autoImplicit false

namespace EmbeddedPixel

open Foundation ITelemetryChannel LawfulTelemetryChannel

/-! ## Enabled flags -/

namespace TelemetryService

variable {C : Type} [ITelemetryChannel C]

/-- The channels a request for a tag is for; `find_channel` gives the one with the tag. -/
def targeted (streamTag : UInt32) (chs : List C) : List C :=
  if streamTag ≠ 0 then (chs.find? fun ch => getTag ch == streamTag).toList else chs

/-- A channel that was not enabled is. -/
def Enables (chs chs' : List C) : Prop :=
  ∃ p ∈ chs.zip chs', isEnabled p.1 = false ∧ isEnabled p.2 = true

@[simp] theorem enables_cons (ch ch' : C) (chs chs' : List C) :
    Enables (ch :: chs) (ch' :: chs') ↔
      (isEnabled ch = false ∧ isEnabled ch' = true) ∨ Enables chs chs' := by
  simp [Enables]

theorem not_enables_self (chs : List C) : ¬ Enables chs chs := by
  induction chs with
  | nil => simp [Enables]
  | cons ch chs ih => simp [ih]

/-- A request enables what it enables of the channels it is for. -/
theorem enables_onChannels (streamTag : UInt32) (f : C → C) (chs : List C) :
    Enables chs (onChannels streamTag f chs) ↔
      ∃ ch ∈ targeted streamTag chs, isEnabled ch = false ∧ isEnabled (f ch) = true := by
  unfold onChannels targeted
  split
  · induction chs with
    | nil => simp [Enables, modifyChannel]
    | cons ch chs ih =>
        unfold modifyChannel
        by_cases htag : getTag ch = streamTag
        · rw [if_pos htag, enables_cons]
          simp [htag, not_enables_self]
        · rw [if_neg htag, enables_cons, ih, List.find?_cons_of_neg (by simpa using htag)]
          simp
  · induction chs with
    | nil => simp [Enables]
    | cons ch chs ih => simp [ih]

/-- Where nothing is enabled, what is enabled was. -/
theorem any_of_not_enables {chs chs' : List C} (hlen : chs'.length = chs.length)
    (hno : ¬ Enables chs chs') (h : chs'.any isEnabled = true) : chs.any isEnabled = true := by
  induction chs generalizing chs' with
  | nil =>
      rw [List.length_eq_zero_iff.1 hlen] at h
      exact h
  | cons ch chs ih =>
      cases chs' with
      | nil => simp at hlen
      | cons ch' chs' =>
          rw [enables_cons, not_or] at hno
          rw [List.any_cons, Bool.or_eq_true] at h
          rw [List.any_cons, Bool.or_eq_true]
          rcases h with h | h
          · left
            by_contra hoff
            exact hno.1 ⟨by simpa using hoff, h⟩
          · right
            exact ih (by simpa using hlen) hno.2 h

/-- Changing a channel to an enabled one. -/
theorem any_modifyChannel {streamTag : UInt32} {f : C → C} (hf : ∀ ch, isEnabled (f ch) = true)
    (chs : List C) :
    (modifyChannel streamTag f chs).any isEnabled =
      (chs.any isEnabled || (chs.find? fun ch => getTag ch == streamTag).isSome) := by
  induction chs with
  | nil => rfl
  | cons ch chs ih =>
      unfold modifyChannel
      by_cases htag : getTag ch = streamTag
      · rw [if_pos htag]
        simp [hf, htag]
      · rw [if_neg htag, List.any_cons, ih, List.any_cons,
          List.find?_cons_of_neg (by simpa using htag), Bool.or_assoc]

/-! ### Lawful channels -/

variable [LawfulTelemetryChannel C]

@[simp] theorem isEnabled_startChannel (sampleRateHz batchCount : UInt16) (ch : C) :
    isEnabled (startChannel sampleRateHz batchCount ch) = true := by
  have hrate : isEnabled (if sampleRateHz > 0 then setSampleRateHz sampleRateHz (setEnabled true ch)
      else setEnabled true ch) = true := by
    split
    · rw [isEnabled_setSampleRateHz, isEnabled_setEnabled]
    · rw [isEnabled_setEnabled]
  unfold startChannel
  dsimp only
  split
  · rw [isEnabled_setBatchCount, hrate]
  · exact hrate

@[simp] theorem getTag_startChannel (sampleRateHz batchCount : UInt16) (ch : C) :
    getTag (startChannel sampleRateHz batchCount ch) = getTag ch := by
  have hrate : getTag (if sampleRateHz > 0 then setSampleRateHz sampleRateHz (setEnabled true ch)
      else setEnabled true ch) = getTag ch := by
    split
    · rw [getTag_setSampleRateHz, getTag_setEnabled]
    · rw [getTag_setEnabled]
  unfold startChannel
  dsimp only
  split
  · rw [getTag_setBatchCount, hrate]
  · exact hrate

/-- After a start some channel is enabled if one was or the request is for one. -/
theorem any_start (streamTag : UInt32) (rate batch : UInt16) (chs : List C) :
    (onChannels streamTag (startChannel rate batch) chs).any isEnabled =
      (chs.any isEnabled || !(targeted streamTag chs).isEmpty) := by
  unfold onChannels targeted
  split
  · rw [any_modifyChannel (isEnabled_startChannel rate batch)]
    cases chs.find? fun ch => getTag ch == streamTag with
    | none => rfl
    | some ch => rfl
  · cases chs with
    | nil => rfl
    | cons ch chs => simp

/-- A stop enables nothing. -/
theorem not_enables_stop (streamTag : UInt32) (chs : List C) :
    ¬ Enables chs (onChannels streamTag (setEnabled false) chs) := by
  rw [enables_onChannels]
  rintro ⟨ch, -, -, hon⟩
  rw [isEnabled_setEnabled] at hon
  cases hon

/-- After a stop the service streams if some channel is enabled. -/
theorem isStreaming_stopStreaming (this : TelemetryService C) (streamTag : UInt32) :
    (this.stopStreaming streamTag).isStreaming =
      (this.stopStreaming streamTag).channels.any isEnabled := by
  unfold stopStreaming onChannels
  dsimp only
  split
  · rfl
  · simp [isEnabled_setEnabled]

end TelemetryService

/-! ## What an action asks of the telemetry service -/

/-- A call of the telemetry service. -/
inductive StreamCall where
  | start (tag : UInt32) (rate batch : UInt16)
  | stop (tag : UInt32)

/-- The call a command makes; the controller starts nothing with the feature off. -/
def CliCommand.streamCall (ctrl : SystemController) : CliCommand → Option StreamCall
  | .startStream tag rate =>
    if ctrl.isFeatureEnabled .telemetryStream then some (.start tag rate 0) else none
  | .stopStream tag => some (.stop tag)
  | _ => none

/-- The call an action makes. -/
def NodeAction.streamCall (cfg : NodeConfig) (ctrl : SystemController) (a : NodeAction) :
    Option StreamCall :=
  match a with
  | .request r =>
    let cmd := (CommandService.payloadCommand r.hdr).run r.payload
    match MessageType.ofCode r.hdr.msgType with
    | some .cmdStartStream =>
      let (tag, rate, batch) := CommandService.startParams cmd
      some (.start tag rate batch)
    | some .cmdStopStream => some (.stop (CommandService.stopParam cmd))
    | _ => (a.command cfg).streamCall ctrl
  | .console _ _ => (a.command cfg).streamCall ctrl

namespace Node

variable {C : Type} [ITelemetryChannel C] {cfg : NodeConfig} {n n' : Node C} {a : NodeAction}
  {events : List NodeEvent}

/-- The node after a call. -/
def call (n : Node C) : Option StreamCall → Node C
  | none => n
  | some (.start tag rate batch) => n.startStreams tag rate batch
  | some (.stop tag) => n.stopStreams tag

/-- The telemetry and the discovery service change by the call alone. -/
theorem streams_apply (n : Node C) (c : CliCommand) :
    (c.apply .ethernetdev n).telemetry = (n.call (c.streamCall n.sysCtrl)).telemetry ∧
      (c.apply .ethernetdev n).discovery = (n.call (c.streamCall n.sysCtrl)).discovery := by
  cases c with
  | startStream tag rate =>
      unfold CliCommand.apply CliCommand.streamCall
      dsimp only
      rw [startTelemetry_ethernetdev]
      split
      · exact ⟨rfl, rfl⟩
      · exact ⟨rfl, rfl⟩
  | stopStream tag =>
      unfold CliCommand.apply CliCommand.streamCall
      dsimp only
      rw [stopTelemetry_ethernetdev]
      exact ⟨rfl, rfl⟩
  | setFeature flag enable => exact ⟨rfl, rfl⟩
  | abortOta => exact ⟨rfl, rfl⟩
  | setBlinkRate periodMs => exact ⟨rfl, rfl⟩
  | reboot => exact ⟨rfl, rfl⟩
  | report => exact ⟨rfl, rfl⟩

/-- **What an action does to the streams is the call it makes.** -/
theorem streams_act (hw : cfg.wiring = .ethernetdev) (h : n.act cfg a = some (events, n')) :
    n'.telemetry = (n.call (a.streamCall cfg n.sysCtrl)).telemetry ∧
      n'.discovery = (n.call (a.streamCall cfg n.sysCtrl)).discovery := by
  have hfront := act_effect h
  rw [hfront.telemetry, hfront.discovery]
  cases a with
  | console env line =>
      unfold NodeAction.effect NodeAction.streamCall
      dsimp only
      rw [hw]
      exact streams_apply n _
  | request r =>
      unfold NodeAction.effect NodeAction.streamCall
      dsimp only
      rw [hw]
      cases MessageType.ofCode r.hdr.msgType with
      | none => exact streams_apply n _
      | some type =>
          cases type with
          | cmdStartStream => exact ⟨rfl, rfl⟩
          | cmdStopStream => exact ⟨rfl, rfl⟩
          | _ => exact streams_apply n _

/-! ## The three records -/

/-- The records agree: the service streams if and only if a channel is enabled, and that is the node
state. -/
structure Truthful (n : Node C) : Prop where
  channels : n.telemetry.isStreaming = true ↔ ∃ ch ∈ n.telemetry.channels, isEnabled ch = true
  state : n.discovery.state = .streaming ↔ n.telemetry.isStreaming = true

/-- The action starts streams for no channel while none is enabled. -/
def DeadStart (cfg : NodeConfig) (n : Node C) (a : NodeAction) : Prop :=
  match a.streamCall cfg n.sysCtrl with
  | some (.start tag _ _) =>
    TelemetryService.targeted tag n.telemetry.channels = [] ∧
      ∀ ch ∈ n.telemetry.channels, isEnabled ch = false
  | _ => False

instance (cfg : NodeConfig) (n : Node C) (a : NodeAction) : Decidable (DeadStart cfg n a) := by
  unfold DeadStart
  split
  · infer_instance
  · infer_instance

section Lawful

variable [LawfulTelemetryChannel C]

theorem truthful_start_iff (tag : UInt32) (rate batch : UInt16) :
    (n.startStreams tag rate batch).Truthful ↔
      ¬ (TelemetryService.targeted tag n.telemetry.channels = [] ∧
        ∀ ch ∈ n.telemetry.channels, isEnabled ch = false) := by
  have hany := TelemetryService.any_start tag rate batch n.telemetry.channels
  constructor
  · rintro ⟨hchannels, -⟩ ⟨hnone, hoff⟩
    have hon := List.any_eq_true.2 (hchannels.1 rfl)
    rw [show (n.startStreams tag rate batch).telemetry.channels.any isEnabled = _ from hany, hnone,
      Bool.or_eq_true, List.any_eq_true] at hon
    rcases hon with ⟨ch, hch, hon⟩ | hon
    · rw [hoff ch hch] at hon
      cases hon
    · cases hon
  · intro hlive
    refine ⟨iff_of_true rfl ?_, iff_of_true rfl rfl⟩
    rw [← List.any_eq_true,
      show (n.startStreams tag rate batch).telemetry.channels.any isEnabled = _ from hany]
    by_contra hoff
    simp only [Bool.or_eq_true, Bool.not_eq_true', not_or, Bool.not_eq_true,
      List.any_eq_false, Bool.not_eq_false, List.isEmpty_iff] at hoff
    exact hlive ⟨hoff.2, fun ch hch => by simpa using hoff.1 ch hch⟩

theorem truthful_stop (h : n.Truthful) (tag : UInt32) : (n.stopStreams tag).Truthful := by
  have hstreams := TelemetryService.isStreaming_stopStreaming n.telemetry tag
  refine ⟨?_, ?_⟩
  · rw [← List.any_eq_true]
    show (n.telemetry.stopStreaming tag).isStreaming = true ↔ _
    rw [hstreams]
    rfl
  · show (if (n.telemetry.stopStreaming tag).isStreaming = true then n.discovery.state
      else .idle) = .streaming ↔ (n.telemetry.stopStreaming tag).isStreaming = true
    split
    · rename_i hon
      -- a channel that is still enabled was enabled before
      have hbefore := TelemetryService.any_of_not_enables (TelemetryService.length_onChannels tag _ _)
        (TelemetryService.not_enables_stop tag n.telemetry.channels) (hstreams.symm.trans hon)
      exact iff_of_true (h.state.2 (h.channels.2 (List.any_eq_true.1 hbefore))) hon
    · rename_i hoff
      exact iff_of_false (by decide) hoff

/-- **What keeps the records in agreement.** -/
theorem truthful_act_iff (hw : cfg.wiring = .ethernetdev) (h : n.Truthful)
    (hs : n.act cfg a = some (events, n')) : n'.Truthful ↔ ¬ DeadStart cfg n a := by
  obtain ⟨htelemetry, hdiscovery⟩ := streams_act hw hs
  have hsame : n'.Truthful ↔ (n.call (a.streamCall cfg n.sysCtrl)).Truthful := by
    constructor
    · rintro ⟨h₁, h₂⟩
      rw [htelemetry] at h₁ h₂
      rw [hdiscovery] at h₂
      exact ⟨h₁, h₂⟩
    · rintro ⟨h₁, h₂⟩
      rw [← htelemetry] at h₁ h₂
      rw [← hdiscovery] at h₂
      exact ⟨h₁, h₂⟩
  rw [hsame]
  unfold DeadStart
  cases a.streamCall cfg n.sysCtrl with
  | none => simp [call, h]
  | some c =>
      cases c with
      | stop tag => simp [call, truthful_stop h tag]
      | start tag rate batch => simp [call, truthful_start_iff]

end Lawful

section Runs

variable {L : Layout} {nodeId : UInt16} {ram : Mem 32} {ctrl : SystemController}
  {period fwVersion : UInt32} {chs : List C} {t : List (NodeAction × List NodeEvent)}

theorem truthful_startUp (hchs : ∀ ch ∈ chs, isEnabled ch = false) :
    (Node.startUp ram ctrl period chs fwVersion).Truthful := by
  have hrest : (Node.startUp ram ctrl period chs fwVersion).telemetry.isStreaming = false :=
    TelemetryService.isStreaming_registerAll chs
  refine ⟨?_, ?_⟩
  · rw [hrest]
    refine iff_of_false Bool.false_ne_true ?_
    rintro ⟨ch, hch, hon⟩
    rw [hchs ch (TelemetryService.mem_of_mem_registerAll hch)] at hon
    cases hon
  · rw [hrest]
    exact iff_of_false (fun h => by cases h) Bool.false_ne_true

/-- **When streaming status tells the truth.**  In a run of `ethernetdev` from channels that are not
enabled, of any requests and console lines, the records agree in every state exactly when no action
starts streams for no channel while none is enabled. -/
theorem truthful_always_iff [LawfulTelemetryChannel C] (hchs : ∀ ch ∈ chs, isEnabled ch = false)
    (h : Machine.Run (Node.act ⟨L, .ethernetdev, nodeId⟩)
      (Node.startUp ram ctrl period chs fwVersion) t n) :
    (∀ pre post m, t = pre ++ post →
        Machine.Run (Node.act ⟨L, .ethernetdev, nodeId⟩)
          (Node.startUp ram ctrl period chs fwVersion) pre m → m.Truthful) ↔
      ∀ pre a events post m, t = pre ++ (a, events) :: post →
        Machine.Run (Node.act ⟨L, .ethernetdev, nodeId⟩)
          (Node.startUp ram ctrl period chs fwVersion) pre m →
            ¬ DeadStart ⟨L, .ethernetdev, nodeId⟩ m a :=
  Machine.Run.always_iff (truthful_startUp hchs)
    (fun _ _ _ _ htrue hs => truthful_act_iff rfl htrue hs) h

end Runs

/-- `stream start` for a tag that no channel has. -/
def unknownTag : NodeAction := .console Env.zero (ascii "stream start ABCD")

/-- `stream start` for the counter. -/
def counterTag : NodeAction := .console Env.zero (ascii "stream start CNTR")

/-- The counter is there to be started. -/
theorem truthful_always_counter :
    ∃ t n, Machine.Run (Node.act NodeConfig.ethernetdev) Node.board t n ∧ t.map (·.1) = [counterTag] ∧
      n.telemetry.isStreaming = true ∧ n.Truthful := by
  have hexec : (Machine.exec (Node.act NodeConfig.ethernetdev) Node.board [counterTag]).any
      (fun r => r.2.telemetry.isStreaming) = true := by
    decide +kernel
  obtain ⟨t, n, hrun, hactions, hp⟩ := Machine.exec_any hexec
  have hchs : ∀ ch ∈ BoardChannel.ethernetdev, isEnabled ch = false := by decide
  have hlive : ¬ DeadStart NodeConfig.ethernetdev Node.board counterTag := by decide +kernel
  refine ⟨t, n, hrun, hactions, hp,
    (truthful_always_iff hchs hrun).2 ?_ t [] n (List.append_nil t).symm hrun⟩
  intro pre a events post m ht hpre
  rw [ht, List.map_append, List.map_cons, List.append_eq_cons_iff] at hactions
  rcases hactions with ⟨hpre', hactions⟩ | ⟨as, -, hactions⟩
  · rw [List.map_eq_nil_iff.1 hpre'] at hpre
    have ha : a = counterTag := (List.cons.inj hactions).1
    rw [Machine.Run.nil_inv hpre, ha]
    exact hlive
  · simp at hactions

/-- A start for a tag that no channel has makes the node say it streams. -/
theorem unknownTag_streams :
    ¬ ∀ (cfg : NodeConfig) (ram : Mem 32) (ctrl : SystemController) (period fwVersion : UInt32)
      (chs : List BoardChannel) (t : List (NodeAction × List NodeEvent)) (n : Node BoardChannel),
      cfg.wiring = .ethernetdev → (∀ ch ∈ chs, isEnabled ch = false) →
        Machine.Run (Node.act cfg) (Node.startUp ram ctrl period chs fwVersion) t n →
          n.Truthful := by
  intro h
  have hexec : (Machine.exec (Node.act NodeConfig.ethernetdev) Node.board [unknownTag]).any
      (fun r => r.2.telemetry.isStreaming && decide (∀ ch ∈ r.2.telemetry.channels,
        isEnabled ch = false)) = true := by
    decide +kernel
  obtain ⟨t, n, hrun, -, hp⟩ := Machine.exec_any hexec
  obtain ⟨hstreams, hoff⟩ := (Bool.and_eq_true _ _).mp hp
  have hoff := of_decide_eq_true hoff
  have hchs : ∀ ch ∈ BoardChannel.ethernetdev, isEnabled ch = false := by decide
  obtain ⟨ch, hch, hon⟩ := (h NodeConfig.ethernetdev _ _ _ _ _ t n rfl hchs hrun).channels.1 hstreams
  rw [hoff ch hch] at hon
  cases hon

end Node

end EmbeddedPixel
