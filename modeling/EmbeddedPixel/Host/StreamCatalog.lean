import EmbeddedPixel.Host.TelemetryViews
import EmbeddedPixel.Net.Framing

/-!
# The stream catalog (`CMD_GET_STREAMS` and `capture_live_view`)

The channels a node has registered, as `capture_live_view` reads them out of the node's answer to its
request.

`streamCatalog`: every registered channel is read with its tag, rate and flag; for the title of a channel
the script has its name, cut to 15 bytes, and a title of its own if the channel has no name.
-/

set_option autoImplicit false

namespace EmbeddedPixel.TelemetryViews

open Foundation ITelemetryChannel StreamReceivers CommandService

/-! ## Names -/

/-- A byte that is not NUL is not shown as one. -/
theorem decodeAscii_ne_nul {b : UInt8} (h : b ≠ 0) :
    ¬ ((if b.toNat < 128 then Char.ofNat b.toNat else Char.ofNat 0xFFFD) == Char.ofNat 0) = true := by
  have hpos : 0 < b.toNat := Nat.pos_of_ne_zero fun h0 => h (UInt8.toNat_inj.1 h0)
  split
  · rename_i hascii
    simpa using ofNat_ne_nul _ hascii hpos
  · simp

theorem stripNul_eq (text : List Char) :
    stripNul text = (text.dropWhile (· == Char.ofNat 0)).rdropWhile (· == Char.ofNat 0) := rfl

/-- NULs that follow a text are stripped off. -/
theorem stripNul_append {text : List Char} (hfirst : text.dropWhile (· == Char.ofNat 0) = text)
    (hlast : text.rdropWhile (· == Char.ofNat 0) = text) (k : Nat) :
    stripNul (text ++ List.replicate k (Char.ofNat 0)) = text := by
  have hnuls : (text ++ List.replicate k (Char.ofNat 0)).rdropWhile (· == Char.ofNat 0) = text := by
    induction k with
    | zero => simpa using hlast
    | succ k ih =>
        rw [List.replicate_succ', ← List.append_assoc, List.rdropWhile_concat_pos _ _ _ (by simp)]
        exact ih
  rw [stripNul_eq]
  cases text with
  | nil =>
      rw [List.nil_append, List.dropWhile_eq_nil_iff.2 fun c hc => by simp [List.eq_of_mem_replicate hc]]
      rfl
  | cons c text =>
      have hdrop : (c :: text ++ List.replicate k (Char.ofNat 0)).dropWhile (· == Char.ofNat 0) =
          c :: text ++ List.replicate k (Char.ofNat 0) :=
        List.dropWhile_eq_self_iff.2 fun _ => List.dropWhile_eq_self_iff.1 hfirst (Nat.succ_pos _)
      rw [hdrop, hnuls]

/-- Bytes that neither begin nor end with a NUL, and NULs after them, as they are shown. -/
theorem stripNul_decodeAscii {core : List UInt8} (hfirst : core.head? ≠ some 0)
    (hlast : core.getLast? ≠ some 0) (k : Nat) :
    stripNul (decodeAscii (core ++ List.replicate k 0)) = decodeAscii core := by
  have hsplit : decodeAscii (core ++ List.replicate k 0) =
      decodeAscii core ++ List.replicate k (Char.ofNat 0) := by
    unfold decodeAscii
    rw [List.map_append, List.map_replicate]
    rfl
  rw [hsplit]
  refine stripNul_append (List.dropWhile_eq_self_iff.2 fun hlen => ?_)
    (List.rdropWhile_eq_self_iff.2 fun hne => ?_) k
  · cases core with
    | nil => cases hlen
    | cons b rest => exact decodeAscii_ne_nul fun hb => hfirst (congrArg some hb)
  · have hne' : core ≠ [] := by simpa [decodeAscii] using hne
    simp only [decodeAscii, List.getLast_map]
    refine decodeAscii_ne_nul fun hb => hlast ?_
    rw [List.getLast?_eq_some_getLast hne', hb]

/-- The name in a descriptor, as it is shown. -/
theorem stripNul_nameField {d : StreamDescriptor} (h : ∀ b ∈ d.name, b ≠ 0) :
    stripNul (decodeAscii (nameField d)) = decodeAscii (d.name.take 15) := by
  have hname : ∀ b ∈ d.name.take 15, b ≠ 0 := fun b hb => h b (List.mem_of_mem_take hb)
  refine stripNul_decodeAscii (fun hhead => ?_) (fun hlast => ?_) _
  · exact hname 0 (List.mem_of_mem_head? hhead) rfl
  · exact hname 0 (List.mem_of_mem_getLast? hlast) rfl

/-! ## The request -/

/-- What `capture_live_view` sends. -/
def captureRequest : Option (List UInt8) :=
  packValues "<HBBHH I H H"
    [.int StreamReceivers.PE_MAGIC, .int 1, .int 1, .int 1, .int 0x0120, .int 1, .int 0, .int 0]

def captureHeader : PE_Header :=
  ⟨EmbeddedPixel.PE_MAGIC, 1, 1, 1, MessageType.cmdGetStreams.code, 1, 0, 0⟩

theorem captureRequest_eq : captureRequest = some captureHeader.toBytes := by decide

variable {C : Type} [ITelemetryChannel C]

/-- The node's answer to it, wherever the network cuts it. -/
theorem answer_captureRequest (cfg : NodeConfig) (n : Node C) (env : Env) {conn : List (List UInt8)}
    (h : captureRequest = some conn.flatten) (payloadBuffer : BytePtr) :
    ∃ action, (handleClient conn payloadBuffer).1 = [action] ∧
      n.serveAction cfg env action = some (getStreams cfg n) := by
  have hflatten : conn.flatten = captureHeader.toBytes ++ ([] ++ []) := by
    rw [captureRequest_eq] at h
    exact (Option.some.inj h).symm
  obtain ⟨p, hactions, -⟩ := handleClient_request hflatten rfl rfl (by decide) (by decide) payloadBuffer
  exact ⟨_, hactions, rfl⟩

/-! ## The catalog -/

/-- What a captured stream shows of a channel. -/
structure CapturedAs (s : StreamConfig) (ch : C) : Prop where
  tag : Showable (getTag ch) → s.tag = tagText (getTag ch)
  /-- A name is a C string. -/
  title : (∀ b ∈ getName ch, b ≠ 0) →
    s.display.title =
      if getName ch = [] then "Channel ".toList ++ s.tag else decodeAscii ((getName ch).take 15)
  rateHz : s.rateHz = (getSampleRateHz ch).toNat
  enabled : s.enabled = isEnabled ch

theorem capturedAs (ch : C) : CapturedAs (capturedStream (streamDescriptor ch)) ch where
  tag h := by
    show stripNul (decodeAscii (u32le (getTag ch))) = _
    rw [decodeAscii_tag h, stripNul_tag h]
  title h := by
    have hname : stripNul (decodeAscii (nameField (streamDescriptor ch))) =
        decodeAscii ((getName ch).take 15) := stripNul_nameField h
    show (if stripNul (decodeAscii (nameField (streamDescriptor ch))) = [] then _ else _) = _
    rw [hname]
    by_cases hempty : getName ch = []
    · rw [if_pos hempty, hempty]
      rfl
    · have hne : decodeAscii ((getName ch).take 15) ≠ [] := by
        simpa [decodeAscii] using hempty
      rw [if_neg hempty, if_neg hne]
  rateHz := rfl
  enabled := by
    show ((if isEnabled ch then (1 : UInt8) else 0).toNat != 0) = isEnabled ch
    cases isEnabled ch with
    | true => rfl
    | false => rfl

theorem captureLiveView_of_streams (nodeIp now viewName : List Char) {resp : List UInt8}
    {streams : List StreamConfig} (h : captureStreams resp = some streams) :
    ∃ view, captureLiveView nodeIp now viewName resp = some view ∧ view.streams = streams ∧
      view.nodeId = 1 := by
  unfold captureLiveView
  rw [h]
  exact ⟨_, rfl, rfl, rfl⟩

/-- What the script reads out of the node's answer. -/
theorem captureLiveView_getStreams (cfg : NodeConfig) (n : Node C) (nodeIp now viewName : List Char) :
    ∃ frame n' view, getStreams cfg n = ([.reply frame], n') ∧
      captureLiveView nodeIp now viewName frame.toBytes = some view ∧
      view.streams = n.telemetry.channels.map (fun ch => capturedStream (streamDescriptor ch)) ∧
      view.nodeId = 1 := by
  have hcount : (n.telemetry.channels.map streamDescriptor).length < 65536 := by
    have hle : n.telemetry.channels.length ≤ 8 := n.telemetry.channels_le
    rw [List.length_map]
    omega
  obtain ⟨view, hview, hstreams, hid⟩ := captureLiveView_of_streams nodeIp now viewName
    (captureStreams_response (populateHeader cfg.nodeId .cmdGetStreamsResp (n.seqNum + 1)
      (UInt16.ofNat (getStreamsResp (n.telemetry.channels.map streamDescriptor)).length)
      FLAG_IS_RESPONSE false none) hcount)
  rw [List.map_map] at hstreams
  exact ⟨_, _, view, rfl, hview, hstreams, hid⟩

open TelemetryService in
/-- **The catalog.**  After any registrations there are at most eight channels, of different tags and in
the order of their registrations, and `find_channel` finds the one with a tag; the answer to
`capture_live_view` shows all of them in order. -/
theorem streamCatalog (chs : List C) (cfg : NodeConfig) {n : Node C} (hn : n.telemetry = registerAll chs)
    (env : Env) {conn : List (List UInt8)} (hconn : captureRequest = some conn.flatten)
    (payloadBuffer : BytePtr) (nodeIp now viewName : List Char) :
    (n.telemetry.channels.length ≤ 8 ∧ (n.telemetry.channels.map getTag).Nodup ∧
      n.telemetry.channels.Sublist chs) ∧
    (∀ tag ch, n.telemetry.findChannel tag = some ch ↔
      ch ∈ n.telemetry.channels ∧ getTag ch = tag ∧
        ∀ ch' ∈ n.telemetry.channels, getTag ch' = tag → ch' = ch) ∧
    (∀ tag, n.telemetry.findChannel tag = none ↔ ∀ ch ∈ n.telemetry.channels, getTag ch ≠ tag) ∧
    ∃ action frame n' view, (handleClient conn payloadBuffer).1 = [action] ∧
      n.serveAction cfg env action = some ([.reply frame], n') ∧
      captureLiveView nodeIp now viewName frame.toBytes = some view ∧
      List.Forall₂ CapturedAs view.streams n.telemetry.channels := by
  have hdistinct : DistinctTags n.telemetry.channels := by
    rw [hn]
    exact distinctTags_registerAll chs
  refine ⟨⟨n.telemetry.channels_le, hdistinct, ?_⟩, ?_, fun tag => findChannel_eq_none_iff, ?_⟩
  · rw [hn]
    exact sublist_registerAll chs
  · intro tag ch
    rw [findChannel_eq_some_iff hdistinct]
    constructor
    · rintro ⟨hmem, htag⟩
      exact ⟨hmem, htag, fun ch' hmem' htag' => hdistinct.eq_of_getTag hmem' hmem (htag'.trans htag.symm)⟩
    · rintro ⟨hmem, htag, -⟩
      exact ⟨hmem, htag⟩
  · obtain ⟨action, hactions, hserve⟩ := answer_captureRequest cfg n env hconn payloadBuffer
    obtain ⟨frame, n', view, hreply, hview, hstreams, -⟩ :=
      captureLiveView_getStreams cfg n nodeIp now viewName
    refine ⟨action, frame, n', view, hactions, ?_, hview, ?_⟩
    · rw [hserve, hreply]
    · rw [hstreams, List.forall₂_map_left_iff]
      exact List.forall₂_same.2 fun ch _ => capturedAs ch

/-- The board's channels. -/
theorem streamCatalog_board :
    ∃ action frame n' view,
      (handleClient [captureHeader.toBytes] fun _ => 0).1 = [action] ∧
      Node.board.serveAction ⟨Layout.lowest, Wiring.ethernetdev, 1⟩ Env.zero action =
        some ([.reply frame], n') ∧
      captureLiveView [] [] "live".toList frame.toBytes = some view ∧
      List.Forall₂ CapturedAs view.streams Node.board.telemetry.channels := by
  have hconn : captureRequest = some [captureHeader.toBytes].flatten := by
    rw [captureRequest_eq, List.flatten_singleton]
  have hn : Node.board.telemetry = TelemetryService.registerAll BoardChannel.ethernetdev := rfl
  exact (streamCatalog BoardChannel.ethernetdev ⟨Layout.lowest, Wiring.ethernetdev, 1⟩ hn Env.zero hconn
    _ [] [] _).2.2.2

/-! ## Titles that are not names -/

/-- A counter with a name of its own. -/
structure NamedChannel where
  name : List UInt8
  counter : CounterChannel

instance : ITelemetryChannel NamedChannel where
  getTag ch := getTag ch.counter
  getName := NamedChannel.name
  getSampleRateHz ch := getSampleRateHz ch.counter
  setSampleRateHz rateHz ch := { ch with counter := setSampleRateHz rateHz ch.counter }
  getBatchCount ch := getBatchCount ch.counter
  setBatchCount batch ch := { ch with counter := setBatchCount batch ch.counter }
  getChannelCount ch := getChannelCount ch.counter
  getSampleType ch := getSampleType ch.counter
  isEnabled ch := isEnabled ch.counter
  setEnabled b ch := { ch with counter := setEnabled b ch.counter }

/-- A node after its start with such channels. -/
def namedNode (chs : List NamedChannel) : Node NamedChannel :=
  Node.startUp (fun _ => 0) (SystemController.ethernetdev fun _ => 0) 500 chs (MAKE_VERSION 1 0 0 0)

/-- The titles are the first 15 characters of the names. -/
def TitlesAreNames (chs : List NamedChannel) : Prop :=
  ∀ frame n' view,
    getStreams ⟨Layout.lowest, Wiring.ethernetdev, 1⟩ (namedNode chs) = ([.reply frame], n') →
    captureLiveView [] [] [] frame.toBytes = some view →
    view.streams.map (fun s => s.display.title) =
      (namedNode chs).telemetry.channels.map fun ch =>
        ((getName ch).take 15).map fun b => Char.ofNat b.toNat

theorem not_titlesAreNames {chs : List NamedChannel}
    (h : (namedNode chs).telemetry.channels.map (fun ch =>
        (capturedStream (streamDescriptor ch)).display.title) ≠
      (namedNode chs).telemetry.channels.map fun ch =>
        ((getName ch).take 15).map fun b => Char.ofNat b.toNat) : ¬ TitlesAreNames chs := by
  intro htitles
  obtain ⟨frame, n', view, hreply, hview, hstreams, -⟩ :=
    captureLiveView_getStreams ⟨Layout.lowest, Wiring.ethernetdev, 1⟩ (namedNode chs) [] [] []
  have heq := htitles frame n' view hreply hview
  rw [hstreams, List.map_map] at heq
  exact h heq

/-- A channel without a name, and one whose name is a degree sign. -/
theorem titles_are_not_names :
    (¬ ∀ chs : List NamedChannel, (∀ ch ∈ chs, ∀ b ∈ getName ch, 0 < b.toNat ∧ b.toNat < 128) →
      TitlesAreNames chs) ∧
    ¬ ∀ chs : List NamedChannel, (∀ ch ∈ chs, getName ch ≠ [] ∧ ∀ b ∈ getName ch, b ≠ 0) →
      TitlesAreNames chs := by
  constructor
  · intro h
    exact not_titlesAreNames (by decide +kernel) (h [⟨[], .create 10 1⟩] (by simp [getName]))
  · intro h
    exact not_titlesAreNames (by decide +kernel) (h [⟨[0xB0], .create 10 1⟩] (by simp [getName]))

end EmbeddedPixel.TelemetryViews
