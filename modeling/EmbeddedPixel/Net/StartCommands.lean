import EmbeddedPixel.Net.Streams

/-!
# Two ways to start a stream

`stream start TAG RATE` on the command line and a `CMD_START_STREAM` that carries the same tag and rate:
`startCommands_agree` says where they leave the node alike.
-/

set_option autoImplicit false

namespace EmbeddedPixel

open Foundation ITelemetryChannel

/-! ## The line -/

/-- `stream start TAG RATE` -/
def startLine (tag : List UInt8) (rate : UInt16) : List UInt8 :=
  ascii "stream" ++ 32 :: (ascii "start" ++ 32 :: (tag ++ 32 :: decimal rate.toNat))

/-- A tag that is typed as one word of four characters. -/
structure TagWord where
  chars : List UInt8
  length_chars : chars.length = 4
  printable : ∀ c ∈ chars, 33 ≤ c ∧ c ≤ 126

namespace TagWord

variable (tag : TagWord)

/-- The tag's `FOURCC`. -/
def code : UInt32 := CliEngine.tagOf tag.chars

theorem chars_ne_nil : tag.chars ≠ [] := by
  intro hnil
  have hlen := tag.length_chars
  rw [hnil] at hlen
  cases hlen

theorem ne_blank {c : UInt8} (h : c ∈ tag.chars) : c ≠ 32 := by
  rintro rfl
  exact absurd (tag.printable 32 h).1 (by decide)

/-- The code of a tag is not taken for a batch count. -/
theorem code_gt : tag.code > 100 := by
  obtain ⟨chars, hlen, hprint⟩ := tag
  obtain ⟨a, b, c, d, rfl⟩ : ∃ a b c d, chars = [a, b, c, d] := by
    match chars, hlen with
    | [a, b, c, d], _ => exact ⟨a, b, c, d, rfl⟩
  have hd : 33 ≤ d := (hprint d (by simp)).1
  have hd' : 32 ≤ d := UInt8.le_trans (by decide) hd
  exact MAKE_FOURCC_gt a b c hd'

theorem code_ne_zero : tag.code ≠ 0 := by
  intro hzero
  have hcode := tag.code_gt
  rw [hzero] at hcode
  exact absurd hcode (by decide)

end TagWord

namespace CliEngine

/-- A line without blanks and line ends around it. -/
theorem trimLine_self {line : List UInt8} (hlen : line.length ≤ 127)
    (hfirst : ∀ h : 0 < line.length, line.get ⟨0, h⟩ ≠ 32 ∧ line.get ⟨0, h⟩ ≠ 9)
    (hlast : ∀ h : line ≠ [], line.getLast h ≠ 13 ∧ line.getLast h ≠ 10 ∧ line.getLast h ≠ 32) :
    trimLine line = line := by
  unfold trimLine
  rw [List.take_of_length_le hlen, List.rdropWhile_eq_self_iff.2 fun h => by
    simpa [and_assoc] using hlast h,
    List.dropWhile_eq_self_iff.2 fun h => by simpa using hfirst h]

theorem nextToken_append {word : List UInt8} (hne : word ≠ []) (h : ∀ c ∈ word, c ≠ 32)
    (rest : List UInt8) : nextToken (word ++ 32 :: rest) = (some word, rest) := by
  unfold nextToken
  rw [strtok_append hne h]

theorem nextToken_word {word : List UInt8} (hne : word ≠ []) (h : ∀ c ∈ word, c ≠ 32) :
    nextToken word = (some word, []) := by
  unfold nextToken
  rw [strtok_word hne h]

theorem digit_ne {n : Nat} {c d : UInt8} (h : c ∈ decimal n) (hd : isDigit d = false) : c ≠ d := by
  rintro rfl
  rw [isDigit_of_mem_decimal h] at hd
  cases hd

theorem rateOf_decimal {n : Nat} (h : n ≤ 2147483647) : rateOf (decimal n) = UInt16.ofNat n := by
  unfold rateOf
  rw [atoi_decimal h]
  apply UInt16.toNat_inj.1
  rw [UInt16.toNat_ofNat', UInt16.toNat_ofNat']
  omega

/-- `stream start` with arguments that end in a digit is taken apart as it was put together. -/
theorem strtok_streamStart {args : List UInt8} (hne : args ≠ []) (hlen : args.length ≤ 100)
    (hlast : isDigit (args.getLast hne) = true) :
    strtok 32 (trimLine (ascii "stream" ++ 32 :: (ascii "start" ++ 32 :: args))) =
      some (ascii "stream", ascii "start" ++ 32 :: args) := by
  rw [trimLine_self, strtok_append (by decide) (by decide +kernel)]
  · have hstream : (ascii "stream").length = 6 := rfl
    have hstart : (ascii "start").length = 5 := rfl
    simp only [List.length_append, List.length_cons, hstream, hstart]
    omega
  · intro h
    have hget : (ascii "stream" ++ 32 :: (ascii "start" ++ 32 :: args)).get ⟨0, h⟩ = 115 := rfl
    rw [hget]
    decide
  · intro h
    have hget : (ascii "stream" ++ 32 :: (ascii "start" ++ 32 :: args)).getLast h = args.getLast hne := by
      simp [hne]
    rw [hget]
    refine ⟨?_, ?_, ?_⟩ <;>
      · intro hc
        rw [hc] at hlast
        exact absurd hlast (by decide)

theorem nextToken_start (args : List UInt8) :
    nextToken (ascii "start" ++ 32 :: args) = (some (ascii "start"), args) :=
  nextToken_append (by decide) (by decide +kernel) args

end CliEngine

/-- `stream start` with arguments. -/
theorem CliCommand.parseLine_streamStart {args : List UInt8} (hne : args ≠ []) (hlen : args.length ≤ 100)
    (hlast : isDigit (args.getLast hne) = true) :
    CliCommand.parseLine (ascii "stream" ++ 32 :: (ascii "start" ++ 32 :: args)) =
      CliCommand.parseStream (some (ascii "start")) (CliEngine.nextToken args).1
        (CliEngine.nextToken (CliEngine.nextToken args).2).1 := by
  unfold parseLine
  rw [CliEngine.strtok_streamStart hne hlen hlast]
  unfold parseTokens
  dsimp only
  rw [CliEngine.nextToken_start, if_neg (by decide), if_pos rfl]

/-- The arguments TAG and RATE. -/
theorem CliEngine.nextToken_tagRate (tag : TagWord) (rate : Nat) :
    (nextToken (tag.chars ++ 32 :: decimal rate)).1 = some tag.chars ∧
      (nextToken (nextToken (tag.chars ++ 32 :: decimal rate)).2).1 = some (decimal rate) := by
  rw [nextToken_append tag.chars_ne_nil fun _ => tag.ne_blank,
    nextToken_word (decimal_ne_nil _) fun _ h => digit_ne h (by decide)]
  exact ⟨rfl, rfl⟩

theorem CliEngine.startArgs_tagRate (tag : TagWord) {rate : Nat} (h : rate ≤ 2147483647) :
    startArgs (some tag.chars) (some (decimal rate)) = (tag.code, UInt16.ofNat rate) := by
  unfold startArgs
  dsimp only
  rw [if_pos tag.length_chars, rateOf_decimal h]
  rfl

/-- The arguments of a line end in a digit, and are not too long. -/
theorem isDigit_getLast_append_decimal (front : List UInt8) (n : Nat) (h : front ++ decimal n ≠ []) :
    isDigit ((front ++ decimal n).getLast h) = true := by
  rw [List.getLast_append_of_ne_nil _ (decimal_ne_nil n)]
  exact isDigit_of_mem_decimal (List.getLast_mem _)

theorem length_decimal_int {n : Nat} (h : n ≤ 2147483647) : (decimal n).length ≤ 10 :=
  length_decimal_le (by decide) (by omega)

/-- **The line is read as it was written.** -/
theorem CliCommand.parseLine_startLine (tag : TagWord) (rate : UInt16) :
    CliCommand.parseLine (startLine tag.chars rate) = .startStream tag.code rate := by
  have hlt := rate.toNat_lt
  have hle : rate.toNat ≤ 2147483647 := by omega
  have hlen := length_decimal_int hle
  have hargs : tag.chars ++ 32 :: decimal rate.toNat = (tag.chars ++ [32]) ++ decimal rate.toNat := by simp
  have hne : tag.chars ++ 32 :: decimal rate.toNat ≠ [] := by simp
  have hlast : isDigit ((tag.chars ++ 32 :: decimal rate.toNat).getLast hne) = true := by
    simp only [hargs]
    exact isDigit_getLast_append_decimal _ _ _
  have hshort : (tag.chars ++ 32 :: decimal rate.toNat).length ≤ 100 := by
    rw [List.length_append, List.length_cons, tag.length_chars]
    omega
  obtain ⟨htag, hrate⟩ := CliEngine.nextToken_tagRate tag rate.toNat
  unfold startLine
  rw [parseLine_streamStart hne hshort hlast, htag, hrate]
  unfold parseStream
  rw [if_pos rfl, CliEngine.startArgs_tagRate tag hle, UInt16.ofNat_toNat]

/-! ## The request -/

/-- A `CMD_START_STREAM` for a tag and a rate. -/
structure IsStartRequest (tag : TagWord) (rate : UInt16) (r : NodeRequest) : Prop where
  msgType : MessageType.ofCode r.hdr.msgType = some .cmdStartStream
  payloadLen : r.hdr.payloadLen ≥ 8
  command : PayloadCommand.ofPtr r.payload = ⟨0, rate, tag.code⟩

theorem view_command (p : BytePtr) :
    (Reader.view 0 8 PayloadCommand.ofPtr).run p = PayloadCommand.ofPtr p := by
  simp (disch := decide) only [Reader.run_view, PayloadCommand.ofPtr, u16At_ofList_bytesAt,
    u32At_ofList_bytesAt, Nat.zero_add]

/-- A command that is long enough is read. -/
theorem run_payloadCommand {r : NodeRequest} {cmd : PayloadCommand} (hlen : r.hdr.payloadLen ≥ 8)
    (hcmd : PayloadCommand.ofPtr r.payload = cmd) :
    (CommandService.payloadCommand r.hdr).run r.payload = some cmd := by
  unfold CommandService.payloadCommand
  rw [if_pos hlen, Reader.run_bind, view_command, hcmd]
  rfl

/-- A start or a stop is acknowledged. -/
theorem Node.step_stream {C : Type} [ITelemetryChannel C] (cfg : NodeConfig) (n : Node C) {r : NodeRequest}
    (h : MessageType.ofCode r.hdr.msgType = some .cmdStartStream ∨
      MessageType.ofCode r.hdr.msgType = some .cmdStopStream) :
    ∃ ack n', n.step cfg r = some ([.reply ack], n') ∧ ack.hdr.msgType = MessageType.cmdAck.code ∧
      ack.toBytes.length = 28 := by
  have hack : ∀ (m : Node C) (rc : UInt32),
      ∃ ack n', some (CommandService.sendAckNack cfg m r.hdr.msgType .ok rc) = some ([.reply ack], n') ∧
        ack.hdr.msgType = MessageType.cmdAck.code ∧ ack.toBytes.length = 28 := by
    intro m rc
    refine ⟨⟨populateHeader cfg.nodeId .cmdAck (m.seqNum + 1) 12 FLAG_IS_RESPONSE false none,
      PayloadAckNack.toBytes ⟨r.hdr.msgType, StatusCode.ok.code, rc, 0⟩⟩, _, rfl, rfl, ?_⟩
    rw [Frame.toBytes, List.length_append, PE_Header.length_toBytes]
    rfl
  unfold Node.step CommandService.processCommand
  rcases h with h | h
  · rw [h]
    dsimp only
    rw [Reader.run_map]
    unfold CommandService.startStream
    rw [Reader.run_bind, Reader.run_pure]
    exact hack _ _
  · rw [h]
    dsimp only
    rw [Reader.run_map]
    unfold CommandService.stopStream
    rw [Reader.run_bind, Reader.run_pure]
    exact hack _ _

/-- The rate 10000 stands for the channel's own. -/
def requestRate (rate : UInt16) : UInt16 := if rate = 10000 then 0 else rate

theorem startParams_command {tag : TagWord} {rate : UInt16} (hrate : rate > 0) :
    CommandService.startParams (some ⟨0, rate, tag.code⟩) = (tag.code, requestRate rate, 0) := by
  have hcode := tag.code_gt
  have hbatch : ¬ (tag.code ≠ 0 ∧ tag.code > 0 ∧ tag.code ≤ 100) :=
    fun h => absurd h.2.2 (UInt32.not_le.2 hcode)
  unfold CommandService.startParams requestRate
  dsimp only
  rw [if_pos hcode, if_neg hbatch]
  by_cases hdefault : rate = 10000
  · rw [if_neg fun h => h.2 hdefault, if_pos hdefault]
  · rw [if_pos ⟨hrate, hdefault⟩, if_neg hdefault]

/-! ## Both -/

section Channels

variable {C : Type} [ITelemetryChannel C]

/-- Two states of a channel that are alike, but for the rate and the batch count where these are
exempt. -/
structure SameChannel (exempt : C → Prop) (ch ch' : C) : Prop where
  isEnabled : isEnabled ch' = isEnabled ch
  settings : ¬ exempt ch →
    getSampleRateHz ch' = getSampleRateHz ch ∧ getBatchCount ch' = getBatchCount ch

/-- Two nodes that stream alike. -/
structure SameStreams (exempt : C → Prop) (n n' : Node C) : Prop where
  destIp : n'.telemetry.destIp = n.telemetry.destIp
  destPort : n'.telemetry.destPort = n.telemetry.destPort
  isStreaming : n'.telemetry.isStreaming = n.telemetry.isStreaming
  channels : List.Forall₂ (SameChannel exempt) n.telemetry.channels n'.telemetry.channels
  nodeState : n'.discovery.state = n.discovery.state

theorem SameChannel.refl (exempt : C → Prop) (ch : C) : SameChannel exempt ch ch :=
  ⟨rfl, fun _ => ⟨rfl, rfl⟩⟩

theorem TelemetryService.forall₂_modifyChannel {R : C → C → Prop} (hself : ∀ ch, R ch ch)
    {streamTag : UInt32} {f g : C → C} (h : ∀ ch, getTag ch = streamTag → R (f ch) (g ch))
    (chs : List C) : List.Forall₂ R (modifyChannel streamTag f chs) (modifyChannel streamTag g chs) := by
  induction chs with
  | nil => exact .nil
  | cons ch chs ih =>
      unfold modifyChannel
      by_cases htag : getTag ch = streamTag
      · rw [if_pos htag, if_pos htag]
        refine .cons (h ch htag) ?_
        exact List.forall₂_same.2 fun ch _ => hself ch
      · rw [if_neg htag, if_neg htag]
        exact .cons (hself ch) ih

variable [LawfulTelemetryChannel C]

/-- Starting a channel at the rate of the line and at the one of the request. -/
theorem sameChannel_start {streamTag : UInt32} (rate : UInt16) {ch : C} (htag : getTag ch = streamTag) :
    SameChannel (fun ch => rate = 10000 ∧ getTag ch = streamTag)
      (TelemetryService.startChannel rate 0 ch)
      (TelemetryService.startChannel (requestRate rate) 0 ch) := by
  refine ⟨?_, fun hexempt => ?_⟩
  · rw [TelemetryService.isEnabled_startChannel, TelemetryService.isEnabled_startChannel]
  · rw [TelemetryService.getTag_startChannel, htag] at hexempt
    have hrate : rate ≠ 10000 := fun h => hexempt ⟨h, rfl⟩
    unfold requestRate
    rw [if_neg hrate]
    exact ⟨rfl, rfl⟩

theorem sameStreams_start (n : Node C) (tag : TagWord) (rate : UInt16) :
    SameStreams (fun ch => rate = 10000 ∧ getTag ch = tag.code) (n.startStreams tag.code rate 0)
      (n.startStreams tag.code (requestRate rate) 0) := by
  refine ⟨rfl, rfl, rfl, ?_, rfl⟩
  show List.Forall₂ _ (TelemetryService.onChannels _ _ _) (TelemetryService.onChannels _ _ _)
  unfold TelemetryService.onChannels
  rw [if_pos tag.code_ne_zero, if_pos tag.code_ne_zero]
  apply TelemetryService.forall₂_modifyChannel (SameChannel.refl _)
  intro ch htag
  exact sameChannel_start rate htag

/-- **The line and the request leave the node alike**, with the telemetry feature on, but for the rate
and the batch count of the channel with the tag where the rate is 10000. -/
theorem startCommands_agree (L : Layout) (nodeId : UInt16) {n : Node C} {tag : TagWord} {rate : UInt16}
    {r : NodeRequest} (hon : n.sysCtrl.isFeatureEnabled .telemetryStream = true) (hrate : rate > 0)
    (hr : IsStartRequest tag rate r) (env : Env) (maxLen : Nat) :
    ∃ events n', n.step ⟨L, .ethernetdev, nodeId⟩ r = some (events, n') ∧
      SameStreams (fun ch => rate = 10000 ∧ getTag ch = tag.code)
        (CliEngine.execute .ethernetdev env n maxLen (startLine tag.chars rate)).node n' := by
  have hline : (CliEngine.execute .ethernetdev env n maxLen (startLine tag.chars rate)).node =
      n.startStreams tag.code rate 0 := by
    rw [CliEngine.node_execute, CliCommand.parseLine_startLine]
    show (n.startTelemetry .ethernetdev tag.code rate 0).2 = _
    rw [Node.startTelemetry_ethernetdev, if_pos hon]
  have hcmd := run_payloadCommand hr.payloadLen hr.command
  obtain ⟨ack, n', hstep, -⟩ := n.step_stream ⟨L, .ethernetdev, nodeId⟩ (Or.inl hr.msgType)
  have hact : n.act ⟨L, .ethernetdev, nodeId⟩ (.request r) = some ([.reply ack], n') := hstep
  have hcall : (NodeAction.request r).streamCall ⟨L, .ethernetdev, nodeId⟩ n.sysCtrl =
      some (.start tag.code (requestRate rate) 0) := by
    unfold NodeAction.streamCall
    dsimp only
    rw [hr.msgType, hcmd, startParams_command hrate]
  obtain ⟨htelemetry, hdiscovery⟩ := Node.streams_act rfl hact
  rw [hcall] at htelemetry hdiscovery
  have hsame := sameStreams_start n tag rate
  refine ⟨_, n', hstep, ?_⟩
  rw [hline]
  refine ⟨?_, ?_, ?_, ?_, ?_⟩
  · rw [htelemetry]
    exact hsame.destIp
  · rw [htelemetry]
    exact hsame.destPort
  · rw [htelemetry]
    exact hsame.isStreaming
  · rw [htelemetry]
    exact hsame.channels
  · rw [hdiscovery]
    exact hsame.nodeState

end Channels

/-! ## The rate 10000 -/

/-- The tag of the counter. -/
def counterWord : TagWord := ⟨ascii "CNTR", by decide, by decide +kernel⟩

/-- `CMD_START_STREAM` for the counter at a rate. -/
def counterRequest (rate : UInt16) : NodeRequest :=
  .of .cmdStartStream (u16le 0 ++ u16le rate ++ u32le counterWord.code)

theorem command_of_bytes (cmdId param1 : UInt16) (param2 : UInt32) :
    PayloadCommand.ofPtr (BytePtr.ofList (u16le cmdId ++ u16le param1 ++ u32le param2)) =
      ⟨cmdId, param1, param2⟩ := by
  unfold PayloadCommand.ofPtr
  rw [PayloadCommand.mk.injEq, List.append_assoc]
  refine ⟨?_, ?_, ?_⟩
  · exact u16At_ofList_drop rfl
  · exact u16At_ofList_drop rfl
  · exact u32At_ofList_drop (List.append_nil (u32le param2)).symm

theorem isStartRequest_counter (rate : UInt16) :
    IsStartRequest counterWord rate (counterRequest rate) := by
  refine ⟨rfl, ?_, command_of_bytes 0 rate counterWord.code⟩
  show UInt16.ofNat (u16le 0 ++ u16le rate ++ u32le counterWord.code).length ≥ 8
  simp

/-- Both start the counter at 500 samples a second. -/
theorem startCommands_agree_counter :
    ∃ events n', Node.board.step NodeConfig.ethernetdev (counterRequest 500) = some (events, n') ∧
      SameStreams (fun ch => (500 : UInt16) = 10000 ∧ getTag ch = counterWord.code)
        (CliEngine.execute .ethernetdev Env.zero Node.board 512 (startLine counterWord.chars 500)).node
        n' :=
  startCommands_agree Layout.lowest 1 (by decide +kernel) (by decide) (isStartRequest_counter 500)
    Env.zero 512

theorem rates_eq {C : Type} [ITelemetryChannel C] {chs chs' : List C}
    (h : List.Forall₂ (SameChannel fun _ => False) chs chs') :
    chs'.map getSampleRateHz = chs.map getSampleRateHz := by
  induction h with
  | nil => rfl
  | cons hch _ ih => rw [List.map_cons, List.map_cons, (hch.settings id).1, ih]

/-- At 10000 they do not. -/
theorem startCommands_differ :
    ¬ ∀ (L : Layout) (nodeId : UInt16) (ram : Mem 32) (ctrl : SystemController) (period fwVersion : UInt32)
      (chs : List BoardChannel) (t : List (NodeAction × List NodeEvent)) (n : Node BoardChannel)
      (tag : TagWord) (rate : UInt16) (r : NodeRequest) (env : Env) (maxLen : Nat),
      Machine.Run (Node.act ⟨L, .ethernetdev, nodeId⟩)
        (Node.startUp ram ctrl period chs fwVersion) t n →
      n.sysCtrl.isFeatureEnabled .telemetryStream = true → rate > 0 → IsStartRequest tag rate r →
      ∃ events n', n.step ⟨L, .ethernetdev, nodeId⟩ r = some (events, n') ∧
        SameStreams (fun _ => False)
          (CliEngine.execute .ethernetdev env n maxLen (startLine tag.chars rate)).node n' := by
  intro h
  have hline : (CliEngine.execute .ethernetdev Env.zero Node.board 512
      (startLine counterWord.chars 10000)).node.telemetry.channels.map getSampleRateHz =
        [10000, 1, 1000, 5000, 50000] := by
    decide +kernel
  have hrequest : (Node.board.step NodeConfig.ethernetdev (counterRequest 10000)).map
      (fun s => s.2.telemetry.channels.map getSampleRateHz) = some [10, 1, 1000, 5000, 50000] := by
    decide +kernel
  obtain ⟨events, n', hstep, hsame⟩ := h Layout.lowest 1 _ _ _ _ _ [] Node.board counterWord 10000
    (counterRequest 10000) Env.zero 512 .nil (by decide +kernel) (by decide)
    (isStartRequest_counter 10000)
  have hrates := rates_eq hsame.channels
  rw [show Node.board.step NodeConfig.ethernetdev (counterRequest 10000) = some (events, n')
    from hstep, Option.map_some, hrates, hline] at hrequest
  exact absurd hrequest (by decide)

end EmbeddedPixel
