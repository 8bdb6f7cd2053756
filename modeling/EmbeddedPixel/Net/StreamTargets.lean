import EmbeddedPixel.Net.StartCommands

/-!
# Which channels a request is for

No two channels of a registry have one tag (`distinctTags_run`), so that a request for a tag is for one
channel at most and `onChannels_eq_map` gives what it does to each.

`switches_iff`: `CMD_START_STREAM` and `CMD_STOP_STREAM` against the meaning that the protocol gives to the
fields of a `PayloadCommand`.
-/

set_option autoImplicit false

namespace EmbeddedPixel

open Foundation ITelemetryChannel LawfulTelemetryChannel

/-! ## Tags -/

namespace TelemetryService

variable {C : Type} [ITelemetryChannel C] {chs : List C} {streamTag : UInt32} {f : C → C}

/-- The channels have different tags. -/
def DistinctTags (chs : List C) : Prop := (chs.map getTag).Nodup

/-- A request for a tag leaves every channel with another one. -/
theorem modifyChannel_of_ne (h : ∀ ch ∈ chs, getTag ch ≠ streamTag) :
    modifyChannel streamTag f chs = chs := by
  induction chs with
  | nil => rfl
  | cons ch chs ih =>
      unfold modifyChannel
      rw [if_neg (h ch (by simp)), ih fun ch' hch' => h ch' (List.mem_cons_of_mem _ hch')]

/-- The first channel with a tag is the only one. -/
theorem modifyChannel_eq_map (h : DistinctTags chs) :
    modifyChannel streamTag f chs = chs.map fun ch => if getTag ch = streamTag then f ch else ch := by
  induction chs with
  | nil => rfl
  | cons ch chs ih =>
      obtain ⟨hnew, hrest⟩ := List.nodup_cons.1 h
      unfold modifyChannel
      rw [List.map_cons]
      by_cases htag : getTag ch = streamTag
      · have hne : ∀ ch' ∈ chs, getTag ch' ≠ streamTag := by
          intro ch' hch' heq
          exact hnew (List.mem_map.2 ⟨ch', hch', heq.trans htag.symm⟩)
        rw [if_pos htag, if_pos htag]
        congr 1
        rw [← ih hrest, modifyChannel_of_ne hne]
      · rw [if_neg htag, if_neg htag, ih hrest]

/-- **What a request does to each channel.** -/
theorem onChannels_eq_map (h : DistinctTags chs) :
    onChannels streamTag f chs =
      chs.map fun ch => if streamTag = 0 ∨ getTag ch = streamTag then f ch else ch := by
  unfold onChannels
  by_cases hall : streamTag = 0
  · rw [if_neg (not_not.2 hall)]
    simp [hall]
  · rw [if_pos hall, modifyChannel_eq_map h]
    simp [hall]

theorem map_getTag_onChannels (h : DistinctTags chs) (hf : ∀ ch, getTag (f ch) = getTag ch) :
    (onChannels streamTag f chs).map getTag = chs.map getTag := by
  rw [onChannels_eq_map h, List.map_map]
  refine List.map_congr_left fun ch _ => ?_
  rw [Function.comp_apply]
  split
  · exact hf ch
  · rfl

theorem distinctTags_onChannels (h : DistinctTags chs) (hf : ∀ ch, getTag (f ch) = getTag ch) :
    DistinctTags (onChannels streamTag f chs) := by
  unfold DistinctTags
  rw [map_getTag_onChannels h hf]
  exact h

theorem distinctTags_registerChannel {this : TelemetryService C} (h : DistinctTags this.channels)
    (ch : C) : DistinctTags (this.registerChannel ch).2.channels := by
  unfold registerChannel
  split
  · exact h
  split
  · exact h
  · rename_i hnew
    have hne : ∀ ch' ∈ this.channels, getTag ch' ≠ getTag ch := by simpa using hnew
    show ((this.channels ++ [ch]).map getTag).Nodup
    rw [List.map_append, List.map_singleton]
    refine List.Nodup.append h (List.nodup_singleton _) ?_
    intro tag htag hsame
    obtain ⟨ch', hch', rfl⟩ := List.mem_map.1 htag
    exact hne ch' hch' (List.mem_singleton.1 hsame)

theorem distinctTags_registerAll (chs : List C) : DistinctTags (registerAll chs).channels := by
  have hfold : ∀ this : TelemetryService C, DistinctTags this.channels →
      DistinctTags (chs.foldl (fun this ch => (this.registerChannel ch).2) this).channels := by
    induction chs with
    | nil => exact fun _ h => h
    | cons ch chs ih => exact fun this h => ih _ (distinctTags_registerChannel h ch)
  exact hfold create List.nodup_nil

/-- Of two channels with one tag there is one. -/
theorem DistinctTags.eq_of_getTag {ch ch' : C} (h : DistinctTags chs) (hch : ch ∈ chs) (hch' : ch' ∈ chs)
    (htag : getTag ch = getTag ch') : ch = ch' :=
  List.inj_on_of_nodup_map h hch hch' htag

/-- **What `find_channel` finds** is the one channel with the tag. -/
theorem findChannel_eq_some_iff {this : TelemetryService C} (h : DistinctTags this.channels) {ch : C} :
    this.findChannel streamTag = some ch ↔ ch ∈ this.channels ∧ getTag ch = streamTag := by
  unfold findChannel
  constructor
  · intro hfind
    exact ⟨List.mem_of_find?_eq_some hfind, by simpa using List.find?_some hfind⟩
  · rintro ⟨hmem, htag⟩
    obtain ⟨found, hfind⟩ : ∃ found, this.channels.find? (fun c => getTag c == streamTag) = some found := by
      rw [← Option.isSome_iff_exists, List.find?_isSome]
      exact ⟨ch, hmem, by simpa using htag⟩
    have htag' : getTag found = streamTag := by simpa using List.find?_some hfind
    rw [hfind, h.eq_of_getTag (List.mem_of_find?_eq_some hfind) hmem (htag'.trans htag.symm)]

theorem findChannel_eq_none_iff {this : TelemetryService C} :
    this.findChannel streamTag = none ↔ ∀ ch ∈ this.channels, getTag ch ≠ streamTag := by
  unfold findChannel
  simp

end TelemetryService

namespace Node

open TelemetryService

variable {C : Type} [ITelemetryChannel C] [LawfulTelemetryChannel C] {cfg : NodeConfig} {n n' : Node C}

theorem distinctTags_call (h : DistinctTags n.telemetry.channels) (c : Option StreamCall) :
    DistinctTags (n.call c).telemetry.channels := by
  rcases c with - | ⟨tag, rate, batch⟩ | tag
  · exact h
  · exact distinctTags_onChannels h (getTag_startChannel rate batch)
  · exact distinctTags_onChannels h (getTag_setEnabled false)

/-- **The tags in a run.** -/
theorem distinctTags_run {ram : Mem 32} {ctrl : SystemController} {period fwVersion : UInt32} {chs : List C}
    {t : List (NodeAction × List NodeEvent)} (hw : cfg.wiring = .ethernetdev)
    (h : Machine.Run (Node.act cfg) (Node.startUp ram ctrl period chs fwVersion) t n) :
    DistinctTags n.telemetry.channels := by
  induction h with
  | nil => exact distinctTags_registerAll chs
  | snoc _ hs ih =>
      rw [(streams_act hw hs).1]
      exact distinctTags_call ih _

end Node

/-! ## Requests -/

/-- A `CMD_START_STREAM` or a `CMD_STOP_STREAM` with a command. -/
structure IsStreamRequest (start : Bool) (cmd : PayloadCommand) (r : NodeRequest) : Prop where
  msgType : MessageType.ofCode r.hdr.msgType =
    some (if start then .cmdStartStream else .cmdStopStream)
  payloadLen : r.hdr.payloadLen ≥ 8
  command : PayloadCommand.ofPtr r.payload = cmd

/-- The tag of four printable characters. -/
def PrintableTag (tag : UInt32) : Prop :=
  ∃ a b c d : UInt8, tag = MAKE_FOURCC a b c d ∧ ∀ x ∈ [a, b, c, d], 32 ≤ x ∧ x ≤ 126

theorem PrintableTag.gt {tag : UInt32} (h : PrintableTag tag) : tag > 100 := by
  obtain ⟨a, b, c, d, rfl, hprint⟩ := h
  exact MAKE_FOURCC_gt a b c (hprint d (by simp)).1

namespace PayloadCommand

variable {C : Type} [ITelemetryChannel C] (cmd : PayloadCommand)

/-- What the protocol says of `param2`: the tag of a channel, or 0 for all. -/
def IsFor (ch : C) : Prop := cmd.param2 = 0 ∨ getTag ch = cmd.param2

instance (ch : C) : Decidable (cmd.IsFor ch) := inferInstanceAs (Decidable (_ ∨ _))

/-- The channels a command is for are switched on or off, and no others. -/
def Switches (on : Bool) (chs chs' : List C) : Prop :=
  List.Forall₂ (fun ch ch' => getTag ch' = getTag ch ∧
    isEnabled ch' = if cmd.IsFor ch then on else isEnabled ch) chs chs'

/-- With `param2` 0 the sub-command is 0 too, or the channels that its tag leaves out are as asked for. -/
def NoSubCommand (on : Bool) (chs : List C) : Prop :=
  cmd.param2 = 0 → cmd.cmdId = 0 ∨
    ∀ ch ∈ chs, getTag ch = cmd.cmdId.toUInt32 ∨ isEnabled ch = on

variable {cmd} {on : Bool} {chs : List C} {f : C → C}

theorem Switches.flags {chs' : List C} (h : cmd.Switches on chs chs') :
    chs'.map isEnabled = chs.map fun ch => if cmd.IsFor ch then on else isEnabled ch := by
  induction h with
  | nil => rfl
  | cons hch _ ih => rw [List.map_cons, List.map_cons, hch.2, ih]

/-- A change of the channels with a tag, and the channels the command is for. -/
theorem switches_onChannels {streamTag : UInt32} (h : TelemetryService.DistinctTags chs)
    (hon : ∀ ch, isEnabled (f ch) = on) (htag : ∀ ch, getTag (f ch) = getTag ch) :
    cmd.Switches on chs (TelemetryService.onChannels streamTag f chs) ↔
      ∀ ch ∈ chs, ((streamTag = 0 ∨ getTag ch = streamTag) ↔ cmd.IsFor ch) ∨ isEnabled ch = on := by
  unfold Switches
  rw [TelemetryService.onChannels_eq_map h, List.forall₂_map_right_iff, List.forall₂_same]
  refine forall₂_congr fun ch _ => ?_
  by_cases hasked : streamTag = 0 ∨ getTag ch = streamTag
  · rw [if_pos hasked, hon, htag]
    by_cases hfor : cmd.IsFor ch
    · exact iff_of_true ⟨rfl, (if_pos hfor).symm⟩ (Or.inl (iff_of_true hasked hfor))
    · have hdiffer : ¬ ((streamTag = 0 ∨ getTag ch = streamTag) ↔ cmd.IsFor ch) := fun hsame =>
        hfor (hsame.1 hasked)
      rw [if_neg hfor, or_iff_right hdiffer, and_iff_right rfl]
      exact eq_comm
  · rw [if_neg hasked]
    by_cases hfor : cmd.IsFor ch
    · have hdiffer : ¬ ((streamTag = 0 ∨ getTag ch = streamTag) ↔ cmd.IsFor ch) := fun hsame =>
        hasked (hsame.2 hfor)
      rw [if_pos hfor, or_iff_right hdiffer, and_iff_right rfl]
    · exact iff_of_true ⟨rfl, (if_neg hfor).symm⟩ (Or.inl (iff_of_false hasked hfor))

/-- The handlers take `param2` for a tag above 100, and else the sub-command. -/
theorem switches_stopParam (h : TelemetryService.DistinctTags chs)
    (hparam : cmd.param2 = 0 ∨ PrintableTag cmd.param2) (hon : ∀ ch, isEnabled (f ch) = on)
    (htag : ∀ ch, getTag (f ch) = getTag ch) :
    cmd.Switches on chs (TelemetryService.onChannels (CommandService.stopParam (some cmd)) f chs) ↔
      cmd.NoSubCommand on chs := by
  rw [switches_onChannels h hon htag]
  unfold NoSubCommand IsFor
  rcases hparam with hzero | hprint
  · have htaken : CommandService.stopParam (some cmd) = cmd.cmdId.toUInt32 := by
      simp [CommandService.stopParam, hzero]
    have hcmdId : cmd.cmdId.toUInt32 = 0 ↔ cmd.cmdId = 0 := by
      rw [← UInt32.toNat_inj, ← UInt16.toNat_inj, UInt16.toNat_toUInt32]
      rfl
    rw [htaken]
    by_cases hid : cmd.cmdId = 0
    · simp [hzero, hid]
    · simp [hzero, hid, hcmdId]
  · have htaken : CommandService.stopParam (some cmd) = cmd.param2 := if_pos hprint.gt
    have hne : cmd.param2 ≠ 0 := by
      intro hzero
      have hgt := hprint.gt
      rw [hzero] at hgt
      exact absurd hgt (by decide)
    rw [htaken]
    simp [hne]

end PayloadCommand

namespace Node

variable {C : Type} [ITelemetryChannel C] [LawfulTelemetryChannel C] {n : Node C} {on : Bool}
  {cmd : PayloadCommand} {r : NodeRequest}

/-- Both requests are answered, and change the channels that they take the command to be for. -/
theorem step_streamRequest (L : Layout) (nodeId : UInt16) (n : Node C) (hr : IsStreamRequest on cmd r) :
    ∃ events n', n.step ⟨L, .ethernetdev, nodeId⟩ r = some (events, n') ∧
      ∃ f : C → C, (∀ ch, isEnabled (f ch) = on) ∧ (∀ ch, getTag (f ch) = getTag ch) ∧
        n'.telemetry.channels = TelemetryService.onChannels (CommandService.stopParam (some cmd)) f
          n.telemetry.channels := by
  have hcmd := run_payloadCommand hr.payloadLen hr.command
  have htype : MessageType.ofCode r.hdr.msgType = some .cmdStartStream ∨
      MessageType.ofCode r.hdr.msgType = some .cmdStopStream := by
    cases on with
    | true => exact Or.inl hr.msgType
    | false => exact Or.inr hr.msgType
  obtain ⟨ack, n', hstep, -⟩ := n.step_stream ⟨L, .ethernetdev, nodeId⟩ htype
  have hact : n.act ⟨L, .ethernetdev, nodeId⟩ (.request r) = some ([.reply ack], n') := hstep
  obtain ⟨htelemetry, -⟩ := streams_act rfl hact
  refine ⟨_, n', hstep, ?_⟩
  rw [htelemetry]
  unfold NodeAction.streamCall
  dsimp only
  rw [hr.msgType, hcmd]
  cases on with
  | true =>
      exact ⟨_, TelemetryService.isEnabled_startChannel _ _, TelemetryService.getTag_startChannel _ _, rfl⟩
  | false => exact ⟨_, isEnabled_setEnabled false, getTag_setEnabled false, rfl⟩

/-- **Which channels a request switches.**  In every state that `ethernetdev` reaches, a `CMD_START_STREAM`
or `CMD_STOP_STREAM` with `param2` 0 or the tag of a channel switches just the channels that the protocol
says it is for if and only if `param2` is not 0, or the sub-command is 0, or nothing is left out by taking
the sub-command for a tag. -/
theorem switches_iff {L : Layout} {nodeId : UInt16} {ram : Mem 32} {ctrl : SystemController}
    {period fwVersion : UInt32} {chs : List C} {t : List (NodeAction × List NodeEvent)}
    (h : Machine.Run (Node.act ⟨L, .ethernetdev, nodeId⟩)
      (Node.startUp ram ctrl period chs fwVersion) t n)
    (hr : IsStreamRequest on cmd r)
    (hparam : cmd.param2 = 0 ∨
      PrintableTag cmd.param2 ∧ ∃ ch ∈ n.telemetry.channels, getTag ch = cmd.param2) :
    (∃ events n', n.step ⟨L, .ethernetdev, nodeId⟩ r = some (events, n') ∧
        cmd.Switches on n.telemetry.channels n'.telemetry.channels) ↔
      cmd.NoSubCommand on n.telemetry.channels := by
  have hdistinct := distinctTags_run rfl h
  obtain ⟨events, n', hstep, f, hon, htag, hchannels⟩ := step_streamRequest L nodeId n hr
  rw [← PayloadCommand.switches_stopParam hdistinct (hparam.imp_right And.left) hon htag, ← hchannels]
  constructor
  · rintro ⟨events', n'', hstep', hswitches⟩
    rw [hstep] at hstep'
    cases hstep'
    exact hswitches
  · exact fun hswitches => ⟨events, n', hstep, hswitches⟩

/-- A request with a command. -/
def streamRequest (on : Bool) (cmd : PayloadCommand) : NodeRequest :=
  .of (if on then .cmdStartStream else .cmdStopStream)
    (u16le cmd.cmdId ++ u16le cmd.param1 ++ u32le cmd.param2)

theorem isStreamRequest_streamRequest (on : Bool) (cmd : PayloadCommand) :
    IsStreamRequest on cmd (streamRequest on cmd) := by
  refine ⟨?_, ?_, command_of_bytes cmd.cmdId cmd.param1 cmd.param2⟩
  · cases on with
    | true => rfl
    | false => rfl
  · show UInt16.ofNat (u16le cmd.cmdId ++ u16le cmd.param1 ++ u32le cmd.param2).length ≥ 8
    simp

/-- The counter is started by its tag, whatever the sub-command is. -/
theorem switches_counter :
    ∃ events n', Node.board.step NodeConfig.ethernetdev
        (streamRequest true ⟨7, 500, STREAM_TAG_COUNTER⟩) = some (events, n') ∧
      (⟨7, 500, STREAM_TAG_COUNTER⟩ : PayloadCommand).Switches true Node.board.telemetry.channels
        n'.telemetry.channels := by
  have hprint : PrintableTag STREAM_TAG_COUNTER := ⟨67, 78, 84, 82, rfl, by decide +kernel⟩
  have hregistered : ∃ ch ∈ Node.board.telemetry.channels, getTag ch = STREAM_TAG_COUNTER :=
    ⟨.counter (CounterChannel.create 10 1), by decide +kernel, rfl⟩
  have hrun : Machine.Run (Node.act NodeConfig.ethernetdev) Node.board [] Node.board := .nil
  exact (switches_iff hrun (isStreamRequest_streamRequest true ⟨7, 500, STREAM_TAG_COUNTER⟩)
    (Or.inr ⟨hprint, hregistered⟩)).2 fun hzero => absurd hzero (by decide)

/-- With a sub-command, a start of all channels starts none. -/
theorem start_all_starts_none :
    ¬ ∀ (L : Layout) (nodeId : UInt16) (ram : Mem 32) (ctrl : SystemController) (period fwVersion : UInt32)
      (chs : List BoardChannel) (t : List (NodeAction × List NodeEvent)) (n : Node BoardChannel) (on : Bool)
      (cmd : PayloadCommand) (r : NodeRequest),
      Machine.Run (Node.act ⟨L, .ethernetdev, nodeId⟩)
        (Node.startUp ram ctrl period chs fwVersion) t n →
      IsStreamRequest on cmd r →
      (cmd.param2 = 0 ∨
        PrintableTag cmd.param2 ∧ ∃ ch ∈ n.telemetry.channels, getTag ch = cmd.param2) →
      ∃ events n', n.step ⟨L, .ethernetdev, nodeId⟩ r = some (events, n') ∧
        cmd.Switches on n.telemetry.channels n'.telemetry.channels := by
  intro h
  obtain ⟨events, n', hstep, hswitches⟩ := h Layout.lowest 1 _ _ _ _ _ [] Node.board true ⟨1, 0, 0⟩
    (streamRequest true ⟨1, 0, 0⟩) .nil (isStreamRequest_streamRequest true ⟨1, 0, 0⟩) (Or.inl rfl)
  have hnone : (Node.board.step NodeConfig.ethernetdev (streamRequest true ⟨1, 0, 0⟩)).map
      (fun s => s.2.telemetry.channels.map isEnabled) = some [false, false, false, false, false] := by
    decide +kernel
  rw [show Node.board.step NodeConfig.ethernetdev (streamRequest true ⟨1, 0, 0⟩) = some (events, n')
    from hstep, Option.map_some, Option.some.injEq, hswitches.flags] at hnone
  revert hnone
  decide +kernel

end Node

end EmbeddedPixel
