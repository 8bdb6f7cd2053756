import EmbeddedPixel.Host.StreamCatalog

/-!
# The requests of a view (`apply_view` of `scripts/telemetry_views.py`)

`streamRequest` is the frame `apply_view` builds for a stream, `none` standing for an exception;
`streamRequest_eq` gives it for every stream that can be encoded, and `isSome_streamRequest_iff` says which
these are.

`capturedRequests_iff`: a view that was captured from a node, saved and loaded asks for the node's own
channels, in order, exactly when none of their tags has a small letter, a byte above 127 or a NUL in front.
-/

set_option autoImplicit false

namespace EmbeddedPixel.TelemetryViews

open Foundation ITelemetryChannel StreamReceivers CommandService

def MSG_CMD_START_STREAM : Nat := 0x0110

def MSG_CMD_STOP_STREAM : Nat := 0x0111

/-- `encode("ascii")` -/
def encodeAscii (text : List Char) : Option (List UInt8) :=
  text.mapM fun c => if c.toNat < 128 then some (UInt8.ofNat c.toNat) else none

/-- `ljust(4, b"\x00")[:4]` -/
def ljust4 (bytes : List UInt8) : List UInt8 := (bytes ++ List.replicate (4 - bytes.length) 0).take 4

/-- A turn of the loop of `apply_view`, to the sending of the request. -/
def streamRequest (nodeId : Int) (seq : Nat) (stream : StreamConfig) : Option (List UInt8) := do
  let tagBytes ← encodeAscii stream.tag
  let tagVal ← unpack "<I" (ljust4 tagBytes)
  let (msgType, rate) :=
    if stream.enabled ∧ stream.rateHz > 0 then (MSG_CMD_START_STREAM, stream.rateHz)
    else (MSG_CMD_STOP_STREAM, 0)
  let hdr ← packValues "<HBBHH I H H"
    [.int StreamReceivers.PE_MAGIC, .int 1, .int 1, .ofInt nodeId, .int msgType, .int seq, .int 8, .int 0]
  let payload ← packValues "<HHI" (.int 0 :: .ofInt rate :: tagVal)
  some (hdr ++ payload)

/-- The requests of a view, one for each stream. -/
def applyRequests (view : ViewConfig) : List (Option (List UInt8)) :=
  view.streams.mapIdx fun i stream => streamRequest view.nodeId (i + 1) stream

/-! ## What can be encoded -/

/-- A stream whose request can be encoded. -/
structure Encodable (nodeId : Int) (stream : StreamConfig) : Prop where
  tag : ∀ c ∈ stream.tag, c.toNat < 128
  nodeId_nonneg : 0 ≤ nodeId
  nodeId_lt : nodeId < 65536
  rateHz : stream.enabled = true → stream.rateHz < 65536

/-- Whether a stream is started. -/
def StreamConfig.started (stream : StreamConfig) : Bool := stream.enabled && decide (stream.rateHz > 0)

/-- The type of a request. -/
def requestType (stream : StreamConfig) : MessageType :=
  if stream.started then .cmdStartStream else .cmdStopStream

/-- The rate of a request. -/
def requestRate (stream : StreamConfig) : Int := if stream.started then stream.rateHz else 0

/-- The header of a request. -/
def requestHeader (nodeId : Int) (seq : Nat) (stream : StreamConfig) : PE_Header :=
  ⟨EmbeddedPixel.PE_MAGIC, 1, 1, UInt16.ofNat nodeId.toNat, (requestType stream).code,
    UInt32.ofNat seq, 8, 0⟩

/-- The tag of a request. -/
def requestTag (stream : StreamConfig) : UInt32 :=
  u32At (BytePtr.ofList (ljust4 (stream.tag.map fun c => UInt8.ofNat c.toNat))) 0

/-- The command of a request. -/
def requestCommand (stream : StreamConfig) : PayloadCommand :=
  ⟨0, UInt16.ofNat (requestRate stream).toNat, requestTag stream⟩

/-- The bytes of a `PayloadCommand`. -/
def commandBytes (cmd : PayloadCommand) : List UInt8 :=
  u16le cmd.cmdId ++ u16le cmd.param1 ++ u32le cmd.param2

theorem encodeAscii_of_ascii {text : List Char} (h : ∀ c ∈ text, c.toNat < 128) :
    encodeAscii text = some (text.map fun c => UInt8.ofNat c.toNat) := by
  unfold encodeAscii
  induction text with
  | nil => rfl
  | cons c text ih =>
      have hc : c.toNat < 128 := h c (List.mem_cons_self ..)
      rw [List.mapM_cons, ih fun c' hc' => h c' (List.mem_cons_of_mem _ hc'), if_pos hc]
      rfl

theorem encodeAscii_eq_none {text : List Char} {c : Char} (hc : c ∈ text) (h : ¬ c.toNat < 128) :
    encodeAscii text = none := by
  unfold encodeAscii
  induction text with
  | nil => cases hc
  | cons c' text ih =>
      rw [List.mapM_cons]
      rcases List.mem_cons.1 hc with rfl | hc
      · rw [if_neg h]
        rfl
      · rw [ih hc]
        cases (if c'.toNat < 128 then some (UInt8.ofNat c'.toNat) else none) with
        | none => rfl
        | some b => rfl

theorem length_ljust4 (bytes : List UInt8) : (ljust4 bytes).length = 4 := by
  unfold ljust4
  rw [List.length_take, List.length_append, List.length_replicate]
  omega

theorem unpack_ljust4 (bytes : List UInt8) :
    unpack "<I" (ljust4 bytes) = some [.int (u32At (BytePtr.ofList (ljust4 bytes)) 0).toNat] := by
  have hformat : parseFormat "<I" = some [.I] := by decide
  have hlen : (ljust4 bytes).length = calcsize [.I] := length_ljust4 bytes
  unfold unpack
  rw [hformat]
  dsimp only [Option.bind_eq_bind, Option.bind_some]
  rw [if_pos hlen]
  rfl

theorem pack_H (x : UInt16) : Field.H.pack (.int x.toNat) = some (u16le x) := by
  show (if x.toNat < 2 ^ 16 then some (u16le (UInt16.ofNat x.toNat)) else none) = _
  rw [if_pos x.toNat_lt, UInt16.ofNat_toNat]

theorem parseFormat_request : parseFormat "<HBBHH I H H" = some [.H, .B, .B, .H, .H, .I, .H, .H] := by
  decide

theorem parseFormat_command : parseFormat "<HHI" = some [.H, .H, .I] := by decide

theorem packHeader {nodeId : Int} (hlo : 0 ≤ nodeId) (hhi : nodeId < 65536) (msgType : MessageType)
    {seq : Nat} (hseq : seq < 2 ^ 32) :
    packValues "<HBBHH I H H" [.int StreamReceivers.PE_MAGIC, .int 1, .int 1, .ofInt nodeId,
        .int msgType.code.toNat, .int seq, .int 8, .int 0] =
      some (PE_Header.toBytes ⟨EmbeddedPixel.PE_MAGIC, 1, 1, UInt16.ofNat nodeId.toNat, msgType.code,
        UInt32.ofNat seq, 8, 0⟩) := by
  have hid : Field.H.pack (.ofInt nodeId) = some (u16le (UInt16.ofNat nodeId.toNat)) := by
    rw [Field.pack_H_ofInt, if_pos ⟨hlo, hhi⟩]
  have hpackSeq : Field.I.pack (.int seq) = some (u32le (UInt32.ofNat seq)) := if_pos hseq
  have hmagic : Field.H.pack (.int StreamReceivers.PE_MAGIC) = some (u16le EmbeddedPixel.PE_MAGIC) := rfl
  have hone : Field.B.pack (.int 1) = some [1] := rfl
  have hlen : Field.H.pack (.int 8) = some (u16le 8) := rfl
  have hzero : Field.H.pack (.int 0) = some (u16le 0) := rfl
  unfold packValues
  rw [parseFormat_request]
  dsimp only [Option.bind_eq_bind, Option.bind_some]
  rw [packFields_cons hmagic, packFields_cons hone, packFields_cons hone, packFields_cons hid,
    packFields_cons (pack_H msgType.code), packFields_cons hpackSeq, packFields_cons hlen,
    packFields_cons hzero]
  rfl

theorem packCommand {rate : Int} (hlo : 0 ≤ rate) (hhi : rate < 65536) (tag : UInt32) :
    packValues "<HHI" [.int 0, .ofInt rate, .int tag.toNat] =
      some (commandBytes ⟨0, UInt16.ofNat rate.toNat, tag⟩) := by
  have hrate : Field.H.pack (.ofInt rate) = some (u16le (UInt16.ofNat rate.toNat)) := by
    rw [Field.pack_H_ofInt, if_pos ⟨hlo, hhi⟩]
  have htag : Field.I.pack (.int tag.toNat) = some (u32le tag) := by
    show (if tag.toNat < 2 ^ 32 then some (u32le (UInt32.ofNat tag.toNat)) else none) = _
    rw [if_pos tag.toNat_lt, UInt32.ofNat_toNat]
  have hzero : Field.H.pack (.int 0) = some (u16le 0) := rfl
  unfold packValues
  rw [parseFormat_command]
  dsimp only [Option.bind_eq_bind, Option.bind_some]
  rw [packFields_cons hzero, packFields_cons hrate, packFields_cons htag]
  unfold commandBytes
  simp [packFields]

/-- The type and the rate that `apply_view` decides on. -/
theorem requestType_requestRate (stream : StreamConfig) :
    (if stream.enabled ∧ stream.rateHz > 0 then (MSG_CMD_START_STREAM, stream.rateHz)
      else (MSG_CMD_STOP_STREAM, 0)) = ((requestType stream).code.toNat, requestRate stream) := by
  unfold requestType requestRate
  by_cases h : stream.enabled = true ∧ stream.rateHz > 0
  · have hstarted : stream.started = true := by simpa [StreamConfig.started] using h
    rw [if_pos h, if_pos hstarted, if_pos hstarted]
    rfl
  · have hstopped : ¬ stream.started = true := by simpa [StreamConfig.started] using h
    rw [if_neg h, if_neg hstopped, if_neg hstopped]
    rfl

/-- A rate is never negative in a request. -/
theorem requestRate_nonneg (stream : StreamConfig) : 0 ≤ requestRate stream := by
  unfold requestRate
  split
  · rename_i h
    simp only [StreamConfig.started, Bool.and_eq_true, decide_eq_true_eq] at h
    exact Int.le_of_lt h.2
  · exact Int.le_refl 0

theorem requestRate_lt_iff (stream : StreamConfig) :
    requestRate stream < 65536 ↔ (stream.enabled = true → stream.rateHz < 65536) := by
  unfold requestRate
  split
  · rename_i h
    simp only [StreamConfig.started, Bool.and_eq_true, decide_eq_true_eq] at h
    simp [h.1]
  · rename_i h
    simp only [StreamConfig.started, Bool.and_eq_true, decide_eq_true_eq, not_and] at h
    refine iff_of_true (by decide) fun hon => ?_
    have hle := h hon
    omega

/-- The request, its tag being ASCII. -/
theorem streamRequest_of_ascii (nodeId : Int) (seq : Nat) {stream : StreamConfig}
    (h : ∀ c ∈ stream.tag, c.toNat < 128) :
    streamRequest nodeId seq stream = (do
      let hdr ← packValues "<HBBHH I H H"
        [.int StreamReceivers.PE_MAGIC, .int 1, .int 1, .ofInt nodeId,
          .int (requestType stream).code.toNat, .int seq, .int 8, .int 0]
      let payload ← packValues "<HHI"
        [.int 0, .ofInt (requestRate stream), .int (requestTag stream).toNat]
      some (hdr ++ payload)) := by
  unfold streamRequest
  rw [encodeAscii_of_ascii h, requestType_requestRate]
  dsimp only [Option.bind_eq_bind, Option.bind_some]
  rw [unpack_ljust4]
  rfl

/-- **The request of a stream** that can be encoded. -/
theorem streamRequest_eq {nodeId : Int} {stream : StreamConfig} (h : Encodable nodeId stream) {seq : Nat}
    (hseq : seq < 2 ^ 32) :
    streamRequest nodeId seq stream =
      some ((requestHeader nodeId seq stream).toBytes ++ commandBytes (requestCommand stream)) := by
  rw [streamRequest_of_ascii nodeId seq h.tag,
    packHeader h.nodeId_nonneg h.nodeId_lt (requestType stream) hseq,
    packCommand (requestRate_nonneg stream) ((requestRate_lt_iff stream).2 h.rateHz)]
  rfl

theorem packHeader_eq_none {nodeId : Int} {seq : Nat} (msgType : Nat)
    (h : ¬ (0 ≤ nodeId ∧ nodeId < 65536) ∨ ¬ seq < 2 ^ 32) :
    packValues "<HBBHH I H H" [.int StreamReceivers.PE_MAGIC, .int 1, .int 1, .ofInt nodeId,
      .int msgType, .int seq, .int 8, .int 0] = none := by
  unfold packValues
  rw [parseFormat_request]
  dsimp only [Option.bind_eq_bind, Option.bind_some]
  rcases h with h | h
  · have hid : Field.H.pack (.ofInt nodeId) = none := by
      rw [Field.pack_H_ofInt, if_neg h]
    exact packFields_eq_none (by simp) hid
  · have hpack : Field.I.pack (.int seq) = none := if_neg h
    exact packFields_eq_none (by simp) hpack

theorem packCommand_eq_none {rate : Int} (h : ¬ rate < 65536) (tag : Nat) :
    packValues "<HHI" [.int 0, .ofInt rate, .int tag] = none := by
  have hrate : Field.H.pack (.ofInt rate) = none := by
    rw [Field.pack_H_ofInt, if_neg fun hin => h hin.2]
  unfold packValues
  rw [parseFormat_command]
  exact packFields_eq_none (by simp) hrate

/-- **Which requests can be built.** -/
theorem isSome_streamRequest_iff {nodeId : Int} {seq : Nat} {stream : StreamConfig} :
    (streamRequest nodeId seq stream).isSome = true ↔ Encodable nodeId stream ∧ seq < 2 ^ 32 := by
  constructor
  swap
  · rintro ⟨h, hseq⟩
    rw [streamRequest_eq h hseq]
    rfl
  intro hsome
  have htag : ∀ c ∈ stream.tag, c.toNat < 128 := by
    intro c hc
    by_contra hbig
    unfold streamRequest at hsome
    rw [encodeAscii_eq_none hc hbig] at hsome
    cases hsome
  rw [streamRequest_of_ascii nodeId seq htag] at hsome
  have hhdr : (0 ≤ nodeId ∧ nodeId < 65536) ∧ seq < 2 ^ 32 := by
    by_contra hbad
    rw [not_and_or] at hbad
    rw [packHeader_eq_none _ hbad] at hsome
    cases hsome
  have hrate : requestRate stream < 65536 := by
    by_contra hbad
    rw [packHeader hhdr.1.1 hhdr.1.2 _ hhdr.2, packCommand_eq_none hbad] at hsome
    cases hsome
  exact ⟨⟨htag, hhdr.1.1, hhdr.1.2, (requestRate_lt_iff stream).1 hrate⟩, hhdr.2⟩

/-! ## Tags that come back -/

/-- The tag of a captured stream, after it was saved and loaded. -/
def keptText (tag : UInt32) : List Char := upperTag asciiUpper (stripNul (decodeAscii (u32le tag)))

/-- No byte above 127, no small letter, and no NUL in front of another character. -/
def TagKept (tag : UInt32) : Prop :=
  (∀ b ∈ u32le tag, b.toNat < 128 ∧ ¬ (97 ≤ b.toNat ∧ b.toNat ≤ 122)) ∧
    (tag ≠ 0 → (u32le tag).head? ≠ some 0)

instance (tag : UInt32) : Decidable (TagKept tag) :=
  @instDecidableAnd _ _ (List.decidableBAll _ _) inferInstance

/-- The byte of a character. -/
def charByte (c : Char) : UInt8 := UInt8.ofNat c.toNat

/-- A byte below 128, as a character. -/
theorem ascii_char : ∀ n < 128,
    (Char.ofNat n).toNat = n ∧ (¬ (97 ≤ n ∧ n ≤ 122) → (Char.ofNat n).toUpper = Char.ofNat n) := by
  decide +kernel

/-- A text that begins with no NUL is what is left of it. -/
theorem head?_stripNul (text : List Char) : (stripNul text).head? ≠ some (Char.ofNat 0) := by
  intro h
  have hpart : stripNul text <+: text.dropWhile (· == Char.ofNat 0) := List.rdropWhile_prefix _ _
  obtain ⟨rest, hrest⟩ := hpart
  have hnot := List.head?_dropWhile_not (· == Char.ofNat 0) text
  cases hstrip : stripNul text with
  | nil =>
      rw [hstrip] at h
      cases h
  | cons c more =>
      rw [hstrip] at h hrest
      rw [← hrest] at hnot
      simp at h hnot
      exact hnot h

theorem u32le_inj {x y : UInt32} (h : u32le x = u32le y) : x = y := by
  have hread : ∀ z : UInt32, u32At (BytePtr.ofList (u32le z)) 0 = z :=
    fun z => u32At_ofList_drop (List.append_nil (u32le z)).symm
  rw [← hread x, h, hread y]

/-- The byte of a character that is ASCII. -/
theorem toNat_charByte {c : Char} (h : c.toNat < 128) : (charByte c).toNat = c.toNat := by
  show c.toNat % 256 = c.toNat
  omega

theorem mem_ljust4 {bytes : List UInt8} {b : UInt8} (h : b ∈ ljust4 bytes) : b ∈ bytes ∨ b = 0 := by
  rcases List.mem_append.1 (List.mem_of_mem_take h) with h | h
  · exact Or.inl h
  · exact Or.inr (List.eq_of_mem_replicate h)

/-- A tag that comes back is of the kind that does. -/
theorem tagKept_of_back {tag : UInt32} (hascii : ∀ c ∈ keptText tag, c.toNat < 128)
    (hback : ljust4 ((keptText tag).map charByte) = u32le tag) : TagKept tag := by
  constructor
  · intro b hb
    rw [← hback] at hb
    rcases mem_ljust4 hb with hb | rfl
    · obtain ⟨c, hc, rfl⟩ := List.mem_map.1 hb
      rw [toNat_charByte (hascii c hc)]
      obtain ⟨c', -, rfl⟩ := List.mem_map.1 (List.mem_of_mem_take hc)
      exact ⟨hascii _ hc, not_lower_toUpper c'⟩
    · decide
  · intro hne hhead
    rw [← hback] at hhead
    have hfirst := head?_stripNul (decodeAscii (u32le tag))
    unfold keptText upperTag asciiUpper at hascii hback hhead
    cases hstrip : stripNul (decodeAscii (u32le tag)) with
    | nil =>
        rw [hstrip] at hback
        exact hne (u32le_inj (hback.symm.trans rfl))
    | cons c rest =>
        rw [hstrip] at hfirst hhead hascii
        have hc : c.toUpper.toNat < 128 := hascii c.toUpper (by simp)
        have hzero : charByte c.toUpper = 0 := by simpa [ljust4] using hhead
        have hnat : c.toUpper.toNat = 0 := by
          rw [← toNat_charByte hc, hzero]
          rfl
        have hnul : c = Char.ofNat 0 := by
          apply Char.toNat_inj.1
          rw [toNat_toUpper] at hnat
          split at hnat
          · omega
          · exact hnat
        exact hfirst (congrArg some hnul)

/-- The bytes before the NULs at the end. -/
theorem exists_core (l : List UInt8) :
    ∃ core k, l = core ++ List.replicate k 0 ∧ core.getLast? ≠ some 0 := by
  induction l using List.reverseRecOn with
  | nil => exact ⟨[], 0, rfl, by simp⟩
  | append_singleton l b ih =>
      by_cases hb : b = 0
      · obtain ⟨core, k, rfl, hlast⟩ := ih
        refine ⟨core, k + 1, ?_, hlast⟩
        rw [hb, List.replicate_succ', List.append_assoc]
      · exact ⟨l ++ [b], 0, by simp, by simpa using hb⟩

/-- What the script makes of an ASCII byte that is not a small letter. -/
theorem char_of_kept {b : UInt8} (h : b.toNat < 128 ∧ ¬ (97 ≤ b.toNat ∧ b.toNat ≤ 122)) :
    (Char.ofNat b.toNat).toNat < 128 ∧ (Char.ofNat b.toNat).toUpper = Char.ofNat b.toNat ∧
      charByte (Char.ofNat b.toNat) = b := by
  have hnat := (ascii_char b.toNat h.1).1
  refine ⟨hnat.trans_lt h.1, (ascii_char b.toNat h.1).2 h.2, ?_⟩
  unfold charByte
  rw [hnat, UInt8.ofNat_toNat]

/-- A tag of that kind comes back. -/
theorem back_of_tagKept {tag : UInt32} (h : TagKept tag) :
    (∀ c ∈ keptText tag, c.toNat < 128) ∧ ljust4 ((keptText tag).map charByte) = u32le tag := by
  obtain ⟨hbytes, hfront⟩ := h
  obtain ⟨core, k, hcore, hlast⟩ := exists_core (u32le tag)
  have hmem : ∀ b ∈ core, b ∈ u32le tag := by
    intro b hb
    rw [hcore]
    exact List.mem_append_left _ hb
  have hfirst : core.head? ≠ some 0 := by
    intro hhead
    have hzero : tag = 0 := by
      by_contra hne
      refine hfront hne ?_
      rw [hcore, List.head?_append, hhead]
      rfl
    have hzeros : u32le tag = List.replicate 4 0 := by
      rw [hzero]
      rfl
    have hne : core ≠ [] := by
      rintro rfl
      cases hhead
    have hmem' := hmem _ (List.getLast_mem hne)
    rw [hzeros] at hmem'
    exact hlast (by rw [List.getLast?_eq_some_getLast hne, List.eq_of_mem_replicate hmem'])
  have hlen : core.length + k = 4 := by
    have hlen := congrArg List.length hcore
    simpa using hlen.symm
  have hchars : decodeAscii core = core.map fun b => Char.ofNat b.toNat :=
    List.map_congr_left fun b hb => if_pos (hbytes b (hmem b hb)).1
  have htext : keptText tag = core.map fun b => Char.ofNat b.toNat := by
    unfold keptText upperTag asciiUpper
    rw [hcore, stripNul_decodeAscii hfirst hlast, hchars, List.map_map,
      List.take_of_length_le (by rw [List.length_map]; omega)]
    exact List.map_congr_left fun b hb => (char_of_kept (hbytes b (hmem b hb))).2.1
  rw [htext, List.map_map]
  constructor
  · intro c hc
    obtain ⟨b, hb, rfl⟩ := List.mem_map.1 hc
    exact (char_of_kept (hbytes b (hmem b hb))).1
  · have hback : core.map (charByte ∘ fun b => Char.ofNat b.toNat) = core := by
      conv => rhs; rw [← List.map_id core]
      exact List.map_congr_left fun b hb => (char_of_kept (hbytes b (hmem b hb))).2.2
    have hk : 4 - core.length = k := by omega
    unfold ljust4
    rw [hback, hk, ← hcore]
    exact List.take_of_length_le (Nat.le_refl 4)

/-! ## A captured view -/

variable {C : Type} [ITelemetryChannel C]

/-- The stream of a channel in a view that was captured, saved and loaded. -/
def keptStream (ch : C) : StreamConfig := (capturedStream (streamDescriptor ch)).normalised asciiUpper

/-- The request that asks a node for one of its channels as it is. -/
def channelRequest (seq : Nat) (ch : C) : List UInt8 :=
  PE_Header.toBytes ⟨EmbeddedPixel.PE_MAGIC, 1, 1, 1,
      (if isEnabled ch then MessageType.cmdStartStream else MessageType.cmdStopStream).code,
      UInt32.ofNat seq, 8, 0⟩ ++
    commandBytes ⟨0, if isEnabled ch then getSampleRateHz ch else 0, getTag ch⟩

/-- The requests for all of its channels. -/
def channelRequests (n : Node C) : List (Option (List UInt8)) :=
  n.telemetry.channels.mapIdx fun i ch => some (channelRequest (i + 1) ch)

theorem commandBytes_inj {cmd cmd' : PayloadCommand} (h : commandBytes cmd = commandBytes cmd') :
    cmd.param2 = cmd'.param2 :=
  u32le_inj (List.append_inj_right h (by simp))

/-- Saving and loading change the tag no further. -/
theorem tag_keptStream (ch : C) : (keptStream ch).tag = keptText (getTag ch) := upperTag_upperTag _

theorem started_keptStream {ch : C} (hrate : 0 < getSampleRateHz ch) :
    (keptStream ch).started = isEnabled ch := by
  have henabled : (keptStream ch).enabled = isEnabled ch := (capturedAs ch).enabled
  have hpos : 0 < (getSampleRateHz ch).toNat := UInt16.lt_iff_toNat_lt.1 hrate
  have hrateHz : (keptStream ch).rateHz > 0 := Int.natCast_pos.2 hpos
  unfold StreamConfig.started
  rw [henabled, decide_eq_true hrateHz, Bool.and_true]

/-- The tag of the request for a stream is that of the channel if its text comes back. -/
theorem requestTag_keptStream_iff (ch : C) :
    requestTag (keptStream ch) = getTag ch ↔
      ljust4 ((keptText (getTag ch)).map charByte) = u32le (getTag ch) := by
  have hbytes : u32le (requestTag (keptStream ch)) = ljust4 ((keptText (getTag ch)).map charByte) := by
    rw [← tag_keptStream]
    have hlen := length_ljust4 ((keptStream ch).tag.map charByte)
    have hall := bytesAt_ofList (ljust4 ((keptStream ch).tag.map charByte))
    rw [hlen] at hall
    exact (u32le_u32At _ 0).trans hall
  rw [← hbytes]
  exact ⟨fun h => congrArg u32le h, u32le_inj⟩

/-- **The request for the stream of a channel** is the one for the channel itself exactly when its tag comes
back. -/
theorem streamRequest_keptStream_iff {ch : C} (hrate : 0 < getSampleRateHz ch) {seq : Nat}
    (hseq : seq < 2 ^ 32) :
    streamRequest 1 seq (keptStream ch) = some (channelRequest seq ch) ↔ TagKept (getTag ch) := by
  constructor
  · intro h
    obtain ⟨hencodable, -⟩ := isSome_streamRequest_iff.1 (Option.isSome_of_eq_some h)
    rw [streamRequest_eq hencodable hseq] at h
    have hcommand := List.append_inj_right (Option.some.inj h) (by simp)
    have hparams := commandBytes_inj hcommand
    have htag : requestTag (keptStream ch) = getTag ch := hparams
    have hascii := hencodable.tag
    rw [tag_keptStream] at hascii
    exact tagKept_of_back hascii ((requestTag_keptStream_iff ch).1 htag)
  · intro h
    obtain ⟨hascii, hback⟩ := back_of_tagKept h
    rw [← tag_keptStream] at hascii
    have hlt : (getSampleRateHz ch).toNat < 65536 := (getSampleRateHz ch).toNat_lt
    have hencodable : Encodable 1 (keptStream ch) :=
      ⟨hascii, by decide, by decide, fun _ => Int.ofNat_lt.2 hlt⟩
    have hstarted := started_keptStream hrate
    have htype : requestType (keptStream ch) =
        if isEnabled ch then MessageType.cmdStartStream else MessageType.cmdStopStream := by
      unfold requestType
      rw [hstarted]
    have hparam : UInt16.ofNat (requestRate (keptStream ch)).toNat =
        if isEnabled ch then getSampleRateHz ch else 0 := by
      unfold requestRate
      rw [hstarted]
      split
      · exact UInt16.ofNat_toNat
      · rfl
    rw [streamRequest_eq hencodable hseq]
    unfold requestHeader requestCommand channelRequest
    rw [htype, hparam, (requestTag_keptStream_iff ch).2 hback]
    rfl

/-- The requests of a view with the streams of a node's channels. -/
theorem applyRequests_iff {n : Node C} (hrates : ∀ ch ∈ n.telemetry.channels, 0 < getSampleRateHz ch)
    {loaded : ViewConfig} (hid : loaded.nodeId = 1)
    (hstreams : loaded.streams = n.telemetry.channels.map keptStream) :
    applyRequests loaded = channelRequests n ↔ ∀ ch ∈ n.telemetry.channels, TagKept (getTag ch) := by
  have hcount : n.telemetry.channels.length ≤ 8 := n.telemetry.channels_le
  have hone : ∀ i (h : i < n.telemetry.channels.length),
      streamRequest 1 (i + 1) (keptStream n.telemetry.channels[i]) =
          some (channelRequest (i + 1) n.telemetry.channels[i]) ↔
        TagKept (getTag n.telemetry.channels[i]) :=
    fun i h => streamRequest_keptStream_iff (hrates _ (List.getElem_mem h)) (by omega)
  unfold applyRequests channelRequests
  rw [hid, hstreams, List.forall_mem_iff_getElem, ← forall₂_congr hone, List.mapIdx_eq_iff]
  constructor
  · intro h i hi
    have hget := h i
    simpa [hi] using hget.symm
  · intro h i
    by_cases hi : i < n.telemetry.channels.length
    · simpa [hi] using (h i hi).symm
    · simp [hi]

/-- A captured view, saved and loaded. -/
theorem fromDict_captured {n : Node C} {view : ViewConfig} (hid : view.nodeId = 1)
    (hstreams : view.streams =
      n.telemetry.channels.map fun ch => capturedStream (streamDescriptor ch)) :
    ∃ loaded, ViewConfig.fromDict asciiUpper (view.toDict asciiUpper) = some loaded ∧ loaded.nodeId = 1 ∧
      loaded.streams = n.telemetry.channels.map keptStream := by
  refine ⟨_, view.fromDict_toDict asciiUpper, hid, ?_⟩
  dsimp only
  rw [hstreams, List.map_map]
  rfl

/-- **A captured view addresses the node's channels** exactly when none of their tags is changed by its
text. -/
theorem capturedRequests_iff (cfg : NodeConfig) {n : Node C}
    (hrates : ∀ ch ∈ n.telemetry.channels, 0 < getSampleRateHz ch) (env : Env)
    {conn : List (List UInt8)} (hconn : captureRequest = some conn.flatten) (payloadBuffer : BytePtr)
    (nodeIp now viewName : List Char) :
    ∃ action frame n' view loaded, (handleClient conn payloadBuffer).1 = [action] ∧
      n.serveAction cfg env action = some ([.reply frame], n') ∧
      captureLiveView nodeIp now viewName frame.toBytes = some view ∧
      ViewConfig.fromDict asciiUpper (view.toDict asciiUpper) = some loaded ∧
      (applyRequests loaded = channelRequests n ↔
        ∀ ch ∈ n.telemetry.channels, TagKept (getTag ch)) := by
  obtain ⟨action, hactions, hserve⟩ := answer_captureRequest cfg n env hconn payloadBuffer
  obtain ⟨frame, n', view, hreply, hview, hstreams, hid⟩ :=
    captureLiveView_getStreams cfg n nodeIp now viewName
  obtain ⟨loaded, hloaded, hid', hstreams'⟩ := fromDict_captured hid hstreams
  refine ⟨action, frame, n', view, loaded, hactions, ?_, hview, hloaded, ?_⟩
  · rw [hserve, hreply]
  · exact applyRequests_iff hrates hid' hstreams'

/-- The board's channels come back. -/
theorem capturedRequests_iff_board :
    (∃ action frame n' view loaded,
      (handleClient [captureHeader.toBytes] fun _ => 0).1 = [action] ∧
      Node.board.serveAction ⟨Layout.lowest, Wiring.ethernetdev, 1⟩ Env.zero action =
        some ([.reply frame], n') ∧
      captureLiveView [] [] "live".toList frame.toBytes = some view ∧
      ViewConfig.fromDict asciiUpper (view.toDict asciiUpper) = some loaded ∧
      (applyRequests loaded = channelRequests Node.board ↔
        ∀ ch ∈ Node.board.telemetry.channels, TagKept (getTag ch))) ∧
    ∀ ch ∈ Node.board.telemetry.channels, TagKept (getTag ch) := by
  have hconn : captureRequest = some [captureHeader.toBytes].flatten := by
    rw [captureRequest_eq, List.flatten_singleton]
  exact ⟨capturedRequests_iff ⟨Layout.lowest, Wiring.ethernetdev, 1⟩ (by decide +kernel) Env.zero hconn
    _ [] [] _, by decide +kernel⟩

/-! ## Tags that do not come back -/

/-- A node with one channel, after its start. -/
def stressNode (tag : UInt32) : Node StressTestChannel :=
  Node.startUp (fun _ => 0) (SystemController.ethernetdev fun _ => 0) 500 [.create 1 tag 100 1]
    (MAKE_VERSION 1 0 0 0)

/-- The view that is captured from a node, saved and loaded asks for the node's channels as they are. -/
def AddressesOwn (n : Node StressTestChannel) : Prop :=
  (∀ ch ∈ n.telemetry.channels, 0 < getSampleRateHz ch) →
    ∀ frame n' view loaded,
      getStreams ⟨Layout.lowest, Wiring.ethernetdev, 1⟩ n = ([.reply frame], n') →
      captureLiveView [] [] [] frame.toBytes = some view →
      ViewConfig.fromDict asciiUpper (view.toDict asciiUpper) = some loaded →
      applyRequests loaded = channelRequests n

theorem not_addressesOwn {tag : UInt32} (h : ¬ TagKept tag) : ¬ AddressesOwn (stressNode tag) := by
  intro haddresses
  have hchannels : (stressNode tag).telemetry.channels = [.create 1 tag 100 1] := rfl
  have hrates : ∀ ch ∈ (stressNode tag).telemetry.channels, 0 < getSampleRateHz ch := by
    rw [hchannels]
    simp [getSampleRateHz, StressTestChannel.create]
  obtain ⟨frame, n', view, hreply, hview, hstreams, hid⟩ :=
    captureLiveView_getStreams ⟨Layout.lowest, Wiring.ethernetdev, 1⟩ (stressNode tag) [] [] []
  obtain ⟨loaded, hloaded, hid', hstreams'⟩ := fromDict_captured hid hstreams
  have hsame := haddresses hrates frame n' view loaded hreply hview hloaded
  have hkept := (applyRequests_iff hrates hid' hstreams').1 hsame
  rw [hchannels] at hkept
  exact h (hkept _ (List.mem_singleton_self _))

/-- The tags "cntr", a tag of bytes above 127, and "ABC" with a NUL in front. -/
theorem captured_tags_change :
    ¬ AddressesOwn (stressNode (MAKE_FOURCC 99 110 116 114)) ∧ ¬ AddressesOwn (stressNode 0xFFFFFFFF) ∧
      ¬ AddressesOwn (stressNode (MAKE_FOURCC 0 65 66 67)) :=
  ⟨not_addressesOwn (by decide), not_addressesOwn (by decide), not_addressesOwn (by decide)⟩

end EmbeddedPixel.TelemetryViews
