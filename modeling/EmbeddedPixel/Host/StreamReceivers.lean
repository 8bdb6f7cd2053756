import EmbeddedPixel.Foundation.StructFormat
import EmbeddedPixel.Net.Transmit

/-!
# What the host reads out of a stream (`scripts/test_stream_rx.py`, `scripts/telemetry_views.py`)

`testStreamRx` and `runStreamDashboard` are what the two scripts do with one datagram; `none` stands for
`struct.error`.  A text is the list of its characters.

`streamFrames_received`: every frame that is sent is as long as its header says, and both scripts read from
it what was put in, as long as the tag is one they can show and, under a tag they know, there is a value.
-/

set_option autoImplicit false

namespace EmbeddedPixel.StreamReceivers

open Foundation ITelemetryChannel ITelemetryProducer TelemetryTask

def PE_MAGIC : Nat := 0x5045

/-- `decode("ascii", errors="replace")`. -/
def decodeAscii (bytes : List UInt8) : List Char :=
  bytes.map fun b => if b.toNat < 128 then Char.ofNat b.toNat else Char.ofNat 0xFFFD

/-- `strip` of NUL characters. -/
def stripNul (text : List Char) : List Char :=
  ((text.dropWhile (· == Char.ofNat 0)).reverse.dropWhile (· == Char.ofNat 0)).reverse

/-- The fields of the two headers, the tag apart. -/
structure StreamFields where
  seqNum : Nat
  tsUs : Nat
  rateHz : Nat
  sampleCount : Nat
  chCount : Nat
  sampleType : Nat
  deriving DecidableEq, Repr

/-- What is shown of the samples: the first one as a number, their bytes, or how many bytes there are. -/
inductive StreamValue where
  | number (v : PyValue)
  | raw (bytes : List UInt8)
  | rawLen (n : Nat)
  deriving DecidableEq, Repr

structure StreamReading where
  tag : List Char
  fields : StreamFields
  value : StreamValue
  deriving DecidableEq, Repr

/-- The two headers by their formats: the magic number, the bytes of the tag and the other fields. -/
def unpackHeaders (header stream : String) (data : List UInt8) :
    Option (Nat × List UInt8 × StreamFields) := do
  let headerValues ← unpackFrom header data 0
  let streamValues ← unpackFrom stream data 16
  match headerValues, streamValues with
  | [.int magic, _, _, _, _, .int seqNum, _, _],
      [.int tsUs, .bytes tagRaw, .int rateHz, .int sampleCount, .int chCount, .int sampleType] =>
    some (magic, tagRaw, ⟨seqNum, tsUs, rateHz, sampleCount, chCount, sampleType⟩)
  | _, _ => none

/-- `struct.unpack_from(format, data, 36)[0]`. -/
def firstValue (format : String) (data : List UInt8) : Option StreamValue := do
  let values ← unpackFrom format data 36
  values.head?.map .number

/-- `test_stream_rx.py`, for one datagram. -/
def testStreamRx (data : List UInt8) : Option StreamReading := do
  let (_, tagRaw, fields) ← unpackHeaders "<HBBHHIHH" "<Q4sHHHH" data
  let streamTag := decodeAscii tagRaw
  let value ←
    if streamTag = "TEMP".toList then firstValue "<i" data
    else if streamTag = "CNTR".toList then firstValue "<I" data
    else some (.raw (slice data 36 (36 + fields.sampleCount * 4)))
  some ⟨streamTag, fields, value⟩

/-- `run_stream_dashboard`, for one datagram; `some none` is a datagram that is passed over. -/
def runStreamDashboard (activeTags : List (List Char)) (data : List UInt8) :
    Option (Option StreamReading) :=
  if data.length < 36 then some none
  else do
    let (magic, tagRaw, fields) ← unpackHeaders "<HBBHH I H H" "<Q 4s HHHH" data
    let tag := stripNul (decodeAscii tagRaw)
    if magic ≠ PE_MAGIC then some none
    else if tag ∉ activeTags then some none
    else do
      let value ←
        if tag = "TEMP".toList ∧ data.length ≥ 40 then firstValue "<i" data
        else if tag = "CNTR".toList ∧ data.length ≥ 40 then firstValue "<I" data
        else if tag = "ADC0".toList ∧ data.length ≥ 38 then firstValue "<H" data
        else some (.rawLen (data.length - 36))
      some (some ⟨tag, fields, value⟩)

/-! ## Tags -/

/-- The four characters of a tag. -/
def tagText (tag : UInt32) : List Char := (u32le tag).map fun b => Char.ofNat b.toNat

/-- The text that the dashboard makes of a tag. -/
def shownText (tag : UInt32) : List Char := stripNul (decodeAscii (u32le tag))

/-- Four ASCII characters, none of them NUL. -/
def Showable (tag : UInt32) : Prop := ∀ b ∈ u32le tag, 0 < b.toNat ∧ b.toNat < 128

instance (tag : UInt32) : Decidable (Showable tag) := List.decidableBAll _ _

theorem decodeAscii_tag {tag : UInt32} (h : Showable tag) : decodeAscii (u32le tag) = tagText tag := by
  refine List.map_congr_left fun b hb => ?_
  rw [if_pos (h b hb).2]

theorem ofNat_ne_nul : ∀ n < 128, 0 < n → Char.ofNat n ≠ Char.ofNat 0 := by decide

theorem dropWhile_of_forall {p : Char → Bool} {text : List Char} (h : ∀ c ∈ text, p c = false) :
    text.dropWhile p = text := by
  cases text with
  | nil => rfl
  | cons c text => rw [List.dropWhile_cons_of_neg (by simp [h c])]

theorem stripNul_tag {tag : UInt32} (h : Showable tag) : stripNul (tagText tag) = tagText tag := by
  have hnul : ∀ c ∈ tagText tag, (c == Char.ofNat 0) = false := by
    intro c hc
    obtain ⟨b, hb, rfl⟩ := List.mem_map.1 hc
    exact beq_false_of_ne (ofNat_ne_nul _ (h b hb).2 (h b hb).1)
  unfold stripNul
  rw [dropWhile_of_forall hnul, dropWhile_of_forall fun c hc => hnul c (List.mem_reverse.1 hc),
    List.reverse_reverse]

theorem shownText_eq {tag : UInt32} (h : Showable tag) : shownText tag = tagText tag := by
  unfold shownText
  rw [decodeAscii_tag h, stripNul_tag h]

/-! ## One datagram -/

/-- The fields of the two headers of a frame. -/
def StreamFields.ofHeaders (h : PE_Header) (sh : StreamPayloadHeader) : StreamFields where
  seqNum := h.seqNum.toNat
  tsUs := sh.timestampUs.toNat
  rateHz := sh.sampleRateHz.toNat
  sampleCount := sh.sampleCount.toNat
  chCount := sh.channelCount.toNat
  sampleType := sh.sampleType.toNat

variable {h : PE_Header} {sh : StreamPayloadHeader} {rest : List UInt8}

theorem unpackHeaders_frame {header stream : String}
    (hheader : parseFormat header = some [.H, .B, .B, .H, .H, .I, .H, .H])
    (hstream : parseFormat stream = some [.Q, .s 4, .H, .H, .H, .H]) :
    unpackHeaders header stream (h.toBytes ++ (sh.toBytes ++ rest)) =
      some (h.magic.toNat, u32le sh.streamTag, .ofHeaders h sh) := by
  have hlen : 36 ≤ (h.toBytes ++ (sh.toBytes ++ rest)).length := by
    rw [List.length_append, List.length_append, PE_Header.length_toBytes,
      StreamPayloadHeader.length_toBytes]
    omega
  have hsize : 0 + calcsize [.H, .B, .B, .H, .H, .I, .H, .H] = 16 := rfl
  have hsize' : 16 + calcsize [.Q, .s 4, .H, .H, .H, .H] = 36 := rfl
  have hfields := unpackFrom_of_le hheader (hsize.le.trans ((by decide : 16 ≤ 36).trans hlen))
  have hfields' := unpackFrom_of_le hstream (hsize'.le.trans hlen)
  have hmagic : u16At (BytePtr.ofList (h.toBytes ++ (sh.toBytes ++ rest))) 0 = h.magic :=
    u16At_ofList_drop rfl
  have hseq : u32At (BytePtr.ofList (h.toBytes ++ (sh.toBytes ++ rest))) 8 = h.seqNum :=
    u32At_ofList_drop rfl
  have hts : u64At (BytePtr.ofList (h.toBytes ++ (sh.toBytes ++ rest))) 16 = sh.timestampUs :=
    u64At_ofList_drop rfl
  have hrate : u16At (BytePtr.ofList (h.toBytes ++ (sh.toBytes ++ rest))) 28 = sh.sampleRateHz :=
    u16At_ofList_drop rfl
  have hcount : u16At (BytePtr.ofList (h.toBytes ++ (sh.toBytes ++ rest))) 30 = sh.sampleCount :=
    u16At_ofList_drop rfl
  have hch : u16At (BytePtr.ofList (h.toBytes ++ (sh.toBytes ++ rest))) 32 = sh.channelCount :=
    u16At_ofList_drop rfl
  have htype : u16At (BytePtr.ofList (h.toBytes ++ (sh.toBytes ++ rest))) 34 = sh.sampleType :=
    u16At_ofList_drop rfl
  unfold unpackHeaders StreamFields.ofHeaders
  rw [hfields, hfields', ← hmagic, ← hseq, ← hts, ← hrate, ← hcount, ← hch, ← htype]
  rfl

/-- The sample behind the headers. -/
theorem firstValue_frame {format : String} {f : Field} (hformat : parseFormat format = some [f])
    (samples : BytePtr) {k : Nat} (hk : f.width ≤ k) :
    firstValue format (h.toBytes ++ (sh.toBytes ++ bytesAt samples 0 k)) =
      some (.number (f.read samples 0)) := by
  have hlen : (h.toBytes ++ (sh.toBytes ++ bytesAt samples 0 k)).length = 36 + k := by
    rw [List.length_append, List.length_append, PE_Header.length_toBytes,
      StreamPayloadHeader.length_toBytes, length_bytesAt]
    omega
  have hread : f.read (BytePtr.ofList (h.toBytes ++ (sh.toBytes ++ bytesAt samples 0 k))) 36 =
      f.read samples 0 := by
    refine Field.read_congr fun i hi => ?_
    have hdrop := congrFun (ofList_drop (h.toBytes ++ (sh.toBytes ++ bytesAt samples 0 k)) 36) i
    have hrest : (h.toBytes ++ (sh.toBytes ++ bytesAt samples 0 k)).drop 36 = bytesAt samples 0 k := rfl
    rw [hrest, ofList_bytesAt samples (by omega)] at hdrop
    exact hdrop.symm
  have hsize : 36 + calcsize [f] ≤ (h.toBytes ++ (sh.toBytes ++ bytesAt samples 0 k)).length := by
    rw [hlen]
    show 36 + (f.width + 0) ≤ 36 + k
    omega
  unfold firstValue
  rw [unpackFrom_of_le hformat hsize, ← hread]
  rfl

/-! ## Every frame that is sent -/

/-- What the scripts take for the first sample, under the tags they know. -/
def valueOf (tag : UInt32) (samples : BytePtr) : Option PyValue :=
  if tagText tag = "TEMP".toList then some (.ofInt (u32At samples 0).toInt32.toInt)
  else if tagText tag = "CNTR".toList then some (.int (u32At samples 0).toNat)
  else none

/-- Both scripts read the tag, the fields and, if there is one, the value; the dashboard if it shows the
tag. -/
def ReceivedAs (data : List UInt8) (tag : UInt32) (fields : StreamFields) (value : Option PyValue) :
    Prop :=
  (∃ v, testStreamRx data = some ⟨tagText tag, fields, v⟩ ∧ ∀ x ∈ value, v = .number x) ∧
    ∀ activeTags, tagText tag ∈ activeTags →
      ∃ v, runStreamDashboard activeTags data = some (some ⟨tagText tag, fields, v⟩) ∧
        ∀ x ∈ value, v = .number x

/-- Under a tag the scripts know there are samples of four bytes, at least. -/
def HasValue (tag : UInt32) (bytesPerSample : Nat) : Prop :=
  tagText tag ∈ ["TEMP".toList, "CNTR".toList] → 4 ≤ bytesPerSample

theorem firstValue_temp (samples : BytePtr) {k : Nat} (hk : 4 ≤ k) :
    firstValue "<i" (h.toBytes ++ (sh.toBytes ++ bytesAt samples 0 k)) =
      some (.number (.ofInt (u32At samples 0).toInt32.toInt)) :=
  firstValue_frame (show parseFormat "<i" = some [.i] by decide) samples hk

theorem firstValue_cntr (samples : BytePtr) {k : Nat} (hk : 4 ≤ k) :
    firstValue "<I" (h.toBytes ++ (sh.toBytes ++ bytesAt samples 0 k)) =
      some (.number (.int (u32At samples 0).toNat)) :=
  firstValue_frame (show parseFormat "<I" = some [.I] by decide) samples hk

theorem testStreamRx_frame (hshow : Showable sh.streamTag) {samples : BytePtr} {k : Nat}
    (hvalue : HasValue sh.streamTag k) :
    ∃ v, testStreamRx (h.toBytes ++ (sh.toBytes ++ bytesAt samples 0 k)) =
        some ⟨tagText sh.streamTag, .ofHeaders h sh, v⟩ ∧
      ∀ x ∈ valueOf sh.streamTag samples, v = .number x := by
  unfold testStreamRx valueOf
  rw [unpackHeaders_frame (by decide) (by decide)]
  dsimp only [Option.bind_eq_bind, Option.bind_some]
  rw [decodeAscii_tag hshow]
  by_cases ht : tagText sh.streamTag = "TEMP".toList
  · rw [if_pos ht, if_pos ht, firstValue_temp samples (hvalue (by simp [ht]))]
    exact ⟨_, rfl, by simp⟩
  · rw [if_neg ht, if_neg ht]
    by_cases hc : tagText sh.streamTag = "CNTR".toList
    · rw [if_pos hc, if_pos hc, firstValue_cntr samples (hvalue (by simp [hc]))]
      exact ⟨_, rfl, by simp⟩
    · rw [if_neg hc, if_neg hc]
      exact ⟨_, rfl, by simp⟩

/-- What the dashboard takes for the value, of `k` bytes of samples. -/
def dashboardValue (tag : List Char) (k : Nat) (samples : BytePtr) : StreamValue :=
  if tag = "TEMP".toList ∧ 4 ≤ k then .number (.ofInt (u32At samples 0).toInt32.toInt)
  else if tag = "CNTR".toList ∧ 4 ≤ k then .number (.int (u32At samples 0).toNat)
  else if tag = "ADC0".toList ∧ 2 ≤ k then .number (.int (u16At samples 0).toNat)
  else .rawLen k

/-- **Any frame at the dashboard.** -/
theorem runStreamDashboard_eq (hmagic : h.magic.toNat = PE_MAGIC) (samples : BytePtr) (k : Nat)
    (activeTags : List (List Char)) :
    runStreamDashboard activeTags (h.toBytes ++ (sh.toBytes ++ bytesAt samples 0 k)) =
      some (if shownText sh.streamTag ∈ activeTags then
        some ⟨shownText sh.streamTag, .ofHeaders h sh, dashboardValue (shownText sh.streamTag) k samples⟩
      else none) := by
  have hlen : (h.toBytes ++ (sh.toBytes ++ bytesAt samples 0 k)).length = 36 + k := by
    rw [List.length_append, List.length_append, PE_Header.length_toBytes,
      StreamPayloadHeader.length_toBytes, length_bytesAt]
    omega
  have hfour : 36 + k ≥ 40 ↔ 4 ≤ k := by omega
  have htwo : 36 + k ≥ 38 ↔ 2 ≤ k := by omega
  unfold runStreamDashboard
  rw [if_neg (by omega), unpackHeaders_frame (by decide) (by decide)]
  dsimp only [Option.bind_eq_bind, Option.bind_some]
  rw [if_neg (not_not.2 hmagic), hlen]
  simp only [hfour, htwo]
  have htext : stripNul (decodeAscii (u32le sh.streamTag)) = shownText sh.streamTag := rfl
  rw [htext]
  by_cases hactive : shownText sh.streamTag ∈ activeTags
  · rw [if_neg (not_not.2 hactive), if_pos hactive]
    unfold dashboardValue
    split
    · rename_i hk
      rw [firstValue_temp samples hk.2]
      rfl
    · split
      · rename_i hk
        rw [firstValue_cntr samples hk.2]
        rfl
      · split
        · rename_i hk
          rw [firstValue_frame (show parseFormat "<H" = some [.H] by decide) samples hk.2]
          rfl
        · have hrest : 36 + k - 36 = k := by omega
          rw [hrest]
  · rw [if_pos hactive, if_neg hactive]

/-- The value under the tags that both scripts know. -/
theorem dashboardValue_of_valueOf {tag : UInt32} {k : Nat} (hvalue : HasValue tag k) (samples : BytePtr) :
    ∀ x ∈ valueOf tag samples, dashboardValue (tagText tag) k samples = .number x := by
  unfold valueOf dashboardValue
  by_cases ht : tagText tag = "TEMP".toList
  · rw [if_pos ht, if_pos ⟨ht, hvalue (by simp [ht])⟩]
    simp
  · have htemp : ¬ (tagText tag = "TEMP".toList ∧ 4 ≤ k) := fun h => ht h.1
    rw [if_neg ht, if_neg htemp]
    by_cases hc : tagText tag = "CNTR".toList
    · rw [if_pos hc, if_pos ⟨hc, hvalue (by simp [hc])⟩]
      simp
    · rw [if_neg hc]
      simp

theorem runStreamDashboard_frame (hmagic : h.magic.toNat = PE_MAGIC) (hshow : Showable sh.streamTag)
    {samples : BytePtr} {k : Nat} (hvalue : HasValue sh.streamTag k) {activeTags : List (List Char)}
    (hactive : tagText sh.streamTag ∈ activeTags) :
    ∃ v, runStreamDashboard activeTags (h.toBytes ++ (sh.toBytes ++ bytesAt samples 0 k)) =
        some (some ⟨tagText sh.streamTag, .ofHeaders h sh, v⟩) ∧
      ∀ x ∈ valueOf sh.streamTag samples, v = .number x := by
  rw [runStreamDashboard_eq hmagic, shownText_eq hshow, if_pos hactive]
  exact ⟨_, rfl, dashboardValue_of_valueOf hvalue samples⟩

/-- **One frame**, read by both scripts. -/
theorem receivedAs_frame (hmagic : h.magic.toNat = PE_MAGIC) (hshow : Showable sh.streamTag)
    {samples : BytePtr} {k : Nat} (hvalue : HasValue sh.streamTag k) :
    ReceivedAs (h.toBytes ++ (sh.toBytes ++ bytesAt samples 0 k)) sh.streamTag (.ofHeaders h sh)
      (valueOf sh.streamTag samples) :=
  ⟨testStreamRx_frame hshow hvalue, fun _ hactive => runStreamDashboard_frame hmagic hshow hvalue hactive⟩

variable {P : Type} [ITelemetryProducer P] {this task : TelemetryTask P} {env : SendEnv} {ch after : P}
  {d : Datagram}

/-- What a frame that is sent is made of. -/
theorem sent_eq_frame (hle : ∀ buffer n, (produceSamples buffer n ch).1 ≤ n)
    (h : this.sendChannelFrame env ch = (some (.sent d), after, task)) :
    ∃ n samples, produceSamples (this.txFrameBuf.advance 36)
        (samplesToSend (getBatchCount ch) (getBytesPerSample ch)).toNat ch = (n, samples, after) ∧
      n ≠ 0 ∧ getBytesPerSample ch ≠ 0 ∧ n * getBytesPerSample ch ≤ 1436 ∧
      d.bytes = (this.streamFrame env.tickCount ch after n samples).toBytes ∧
      task.seqNum = this.seqNum + 1 := by
  rcases sendChannelFrame_cases this env hle with
    ⟨after', buf, -, hnone⟩ | ⟨n, samples, after', buf, hproduce, hn, hbytes, hfits, hspec⟩
  · rw [hnone] at h
    cases h
  · rw [hspec] at h
    cases hallocates : env.allocates with
    | false => simp [hallocates] at h
    | true =>
        simp only [hallocates, if_true, Prod.mk.injEq, Option.some.injEq, FrameEvent.sent.injEq] at h
        obtain ⟨rfl, rfl, rfl⟩ := h
        exact ⟨n, samples, hproduce, hn, hbytes, hfits, rfl, rfl⟩

/-- What the node puts into the two headers. -/
def sentFields (seqNum tickCount : UInt32) (ch : P) (n : Nat) : StreamFields where
  seqNum := seqNum.toNat
  tsUs := tickCount.toNat * 1000
  rateHz := (getSampleRateHz ch).toNat
  sampleCount := n
  chCount := (getChannelCount ch).toNat
  sampleType := (getSampleType ch).code.toNat

/-- They are what is read out of them. -/
theorem ofHeaders_streamFrame {n : Nat} {samples : BytePtr} (hn : n < 65536)
    (hseq : task.seqNum = this.seqNum + 1) :
    StreamFields.ofHeaders (this.streamFrame env.tickCount ch after n samples).hdr
      (streamHeader env.tickCount ch after n) = sentFields task.seqNum env.tickCount ch n := by
  have hts : (env.tickCount.toUInt64 * 1000).toNat = env.tickCount.toNat * 1000 := by
    have hlt := env.tickCount.toNat_lt
    rw [UInt64.toNat_mul, UInt32.toNat_toUInt64]
    show _ * 1000 % 2 ^ 64 = _
    omega
  simp only [StreamFields.ofHeaders, streamFrame, streamHeader, sentFields, hts,
    UInt16.toNat_ofNat_of_lt' hn, hseq]

/-- The length fields of a datagram, which the node sends with `n` samples of `bytesPerSample` bytes. -/
structure Sized (data : List UInt8) (n bytesPerSample : Nat) : Prop where
  length_eq : data.length = 16 + (u16At (BytePtr.ofList data) 12).toNat
  payloadLen : (u16At (BytePtr.ofList data) 12).toNat = 20 + n * bytesPerSample
  sampleCount : (u16At (BytePtr.ofList data) 30).toNat = n
  length_le : data.length ≤ 1472

/-- **One frame of any channel.** -/
theorem sent_received (hle : ∀ buffer n, (produceSamples buffer n ch).1 ≤ n)
    (h : this.sendChannelFrame env ch = (some (.sent d), after, task)) :
    ∃ n samples, produceSamples (this.txFrameBuf.advance 36)
        (samplesToSend (getBatchCount ch) (getBytesPerSample ch)).toNat ch = (n, samples, after) ∧
      n ≠ 0 ∧ Sized d.bytes n (getBytesPerSample ch) ∧
      (Showable (getTag after) → HasValue (getTag after) (getBytesPerSample ch) →
        ReceivedAs d.bytes (getTag after) (sentFields task.seqNum env.tickCount ch n)
          (valueOf (getTag after) samples)) := by
  obtain ⟨n, samples, hproduce, hn, hbytes, hfits, hframe, hseq⟩ := sent_eq_frame hle h
  have hcount : n ≤ n * getBytesPerSample ch := Nat.le_mul_of_pos_right n (Nat.pos_of_ne_zero hbytes)
  have hlen : d.bytes.length = 36 + n * getBytesPerSample ch := by
    rw [hframe]
    show (_ ++ (_ ++ bytesAt samples 0 (n * getBytesPerSample ch))).length = _
    rw [List.length_append, List.length_append, PE_Header.length_toBytes,
      StreamPayloadHeader.length_toBytes, length_bytesAt]
    omega
  have hpayload : (u16At (BytePtr.ofList d.bytes) 12).toNat = 20 + n * getBytesPerSample ch := by
    have hword : u16At (BytePtr.ofList d.bytes) 12 =
        UInt16.ofNat (20 + n * getBytesPerSample ch) := by
      rw [hframe]
      exact u16At_ofList_drop rfl
    rw [hword, UInt16.toNat_ofNat']
    omega
  have hsamples : (u16At (BytePtr.ofList d.bytes) 30).toNat = n := by
    have hword : u16At (BytePtr.ofList d.bytes) 30 = UInt16.ofNat n := by
      rw [hframe]
      exact u16At_ofList_drop rfl
    rw [hword, UInt16.toNat_ofNat']
    omega
  refine ⟨n, samples, hproduce, hn, ⟨by omega, hpayload, hsamples, by omega⟩, fun hshow hvalue => ?_⟩
  have hreceived : ReceivedAs d.bytes (getTag after)
      (.ofHeaders (this.streamFrame env.tickCount ch after n samples).hdr
        (streamHeader env.tickCount ch after n)) (valueOf (getTag after) samples) := by
    rw [hframe]
    exact receivedAs_frame rfl hshow fun htag =>
      (hvalue htag).trans (Nat.le_mul_of_pos_left _ (Nat.pos_of_ne_zero hn))
  rwa [ofHeaders_streamFrame (by omega) hseq] at hreceived

/-! ### The channels of the source -/

theorem tagText_counter : tagText STREAM_TAG_COUNTER = "CNTR".toList := by decide

theorem tagText_temp : tagText STREAM_TAG_TEMP = "TEMP".toList := by decide

/-- The first sample of the counter is where it stood. -/
theorem valueOf_counter {buffer samples : BytePtr} {k n : Nat} {p p' : CounterProducer}
    (h : produceSamples buffer k p = (n, samples, p')) (hn : n ≠ 0) :
    valueOf STREAM_TAG_COUNTER samples = some (.int p.counter.toNat) := by
  have hk : k ≠ 0 := by
    rintro rfl
    have hnone : produceSamples buffer 0 p = (0, buffer, p) := rfl
    rw [hnone] at h
    cases h
    exact hn rfl
  rw [CounterProducer.produceSamples_eq buffer hk] at h
  cases h
  have hfirst := u32At_write_words buffer
    (CounterProducer.getElem?_count p.counter (Nat.pos_of_ne_zero hk))
  rw [Nat.mul_zero] at hfirst
  unfold valueOf
  rw [tagText_counter, if_neg (by decide), if_pos rfl, hfirst]
  exact congrArg (fun x => some (PyValue.int x.toNat)) (UInt32.add_zero p.counter)

/-- The first sample of the temperature. -/
theorem valueOf_temperature {buffer samples : BytePtr} {k n : Nat} {p p' : TemperatureProducer}
    (h : produceSamples buffer k p = (n, samples, p')) (hn : n ≠ 0) :
    valueOf STREAM_TAG_TEMP samples = some (.ofInt p.tempC.toInt) := by
  have hk : k ≠ 0 := by
    rintro rfl
    have hnone : produceSamples buffer 0 p = (0, buffer, p) := rfl
    rw [hnone] at h
    cases h
    exact hn rfl
  rw [TemperatureProducer.produceSamples_eq buffer hk] at h
  cases h
  have hhead : (List.replicate k p.tempC.toUInt32)[0]? = some p.tempC.toUInt32 := by
    rw [List.getElem?_replicate, if_pos (Nat.pos_of_ne_zero hk)]
  have hfirst := u32At_write_words buffer hhead
  rw [Nat.mul_zero] at hfirst
  unfold valueOf
  rw [tagText_temp, if_pos rfl, hfirst, Int32.toInt32_toUInt32]

/-- **Stream frames fit and decode.**  Of any channel that keeps to its interface a frame is as long as its
headers say, at most a datagram; and both scripts read from it what was put in, as long as the tag can be
shown and, if they know it, there is a value.  For the counter and the temperature that is the first sample. -/
theorem streamFrames_received :
    (∀ {P : Type} [ITelemetryProducer P] (this task : TelemetryTask P) (env : SendEnv) (ch after : P)
      (d : Datagram), (∀ buffer n, (produceSamples buffer n ch).1 ≤ n) →
        this.sendChannelFrame env ch = (some (.sent d), after, task) →
        ∃ n samples, produceSamples (this.txFrameBuf.advance 36)
            (samplesToSend (getBatchCount ch) (getBytesPerSample ch)).toNat ch = (n, samples, after) ∧
          n ≠ 0 ∧ Sized d.bytes n (getBytesPerSample ch) ∧
          (Showable (getTag after) → HasValue (getTag after) (getBytesPerSample ch) →
            ReceivedAs d.bytes (getTag after) (sentFields task.seqNum env.tickCount ch n)
              (valueOf (getTag after) samples))) ∧
    (∀ (this task : TelemetryTask CounterProducer) (env : SendEnv) (ch after : CounterProducer)
      (d : Datagram), this.sendChannelFrame env ch = (some (.sent d), after, task) →
        ∃ n, Sized d.bytes n 4 ∧ ReceivedAs d.bytes STREAM_TAG_COUNTER
          (sentFields task.seqNum env.tickCount ch n) (some (.int ch.counter.toNat))) ∧
    ∀ (this task : TelemetryTask TemperatureProducer) (env : SendEnv) (ch after : TemperatureProducer)
      (d : Datagram), this.sendChannelFrame env ch = (some (.sent d), after, task) →
        ∃ n, Sized d.bytes n 4 ∧ ReceivedAs d.bytes STREAM_TAG_TEMP
          (sentFields task.seqNum env.tickCount ch n) (some (.ofInt ch.tempC.toInt)) := by
  refine ⟨fun this task env ch after d hle h => sent_received hle h, ?_, ?_⟩
  · intro this task env ch after d h
    obtain ⟨n, samples, hproduce, hn, hsized, hreceived⟩ :=
      sent_received (LawfulTelemetryProducer.produceSamples_le · · ch) h
    have hshow : Showable STREAM_TAG_COUNTER := by decide
    have hboth := hreceived hshow fun _ => Nat.le_refl 4
    rw [show getTag after = STREAM_TAG_COUNTER from rfl, valueOf_counter hproduce hn] at hboth
    exact ⟨n, hsized, hboth⟩
  · intro this task env ch after d h
    obtain ⟨n, samples, hproduce, hn, hsized, hreceived⟩ :=
      sent_received (LawfulTelemetryProducer.produceSamples_le · · ch) h
    have hshow : Showable STREAM_TAG_TEMP := by decide
    have hboth := hreceived hshow fun _ => Nat.le_refl 4
    rw [show getTag after = STREAM_TAG_TEMP from rfl, valueOf_temperature hproduce hn] at hboth
    exact ⟨n, hsized, hboth⟩

/-- Tick 7, and a netbuf. -/
def atTick7 : SendEnv := ⟨7, true⟩

/-- The first frame of the counter. -/
theorem streamFrames_received_first :
    ∃ d after task, (TelemetryTask.start TelemetryService.create 1 0).sendChannelFrame atTick7
        (CounterProducer.create 10 1) = (some (.sent d), after, task) ∧
      ∃ n, Sized d.bytes n 4 ∧ ReceivedAs d.bytes STREAM_TAG_COUNTER
        (sentFields task.seqNum 7 (CounterProducer.create 10 1) n) (some (.int 0)) := by
  obtain ⟨d, after, task, h⟩ : ∃ d after task,
      (TelemetryTask.start TelemetryService.create 1 0).sendChannelFrame atTick7
        (CounterProducer.create 10 1) = (some (.sent d), after, task) := ⟨_, _, _, rfl⟩
  exact ⟨d, after, task, h, streamFrames_received.2.1 _ task atTick7 _ after d h⟩

/-- The bytes of one element of a sample. -/
def sizeOfElement : SampleType → Nat
  | .int16 => 2
  | .uint16 => 2
  | .int32 => 4
  | .float32 => 4
  | .uint32 => 4

/-- A counter of half words. -/
def halfWords : StressTestProducer := .create 1 STREAM_TAG_COUNTER 100 1

/-- A stream whose tag is not ASCII. -/
def foreignTag : StressTestProducer := .create 1 0xFFFFFFFF 100 1

/-- The first frame of a channel: what `test_stream_rx.py` makes of it, and its tag. -/
def firstReading (ch : StressTestProducer) : Option (Option StreamReading × UInt32) :=
  match (TelemetryTask.start TelemetryService.create 1 0).sendChannelFrame atTick7 ch with
  | (some (.sent d), after, _) => some (testStreamRx d.bytes, getTag after)
  | _ => none

theorem sent_of_firstReading {ch : StressTestProducer} {p : Option StreamReading × UInt32 → Bool}
    (h : (firstReading ch).any p = true) :
    ∃ d after task, (TelemetryTask.start TelemetryService.create 1 0).sendChannelFrame atTick7 ch =
      (some (.sent d), after, task) ∧ p (testStreamRx d.bytes, getTag after) = true := by
  obtain ⟨⟨event, after, task⟩, hsend⟩ :
    ∃ r, r = (TelemetryTask.start TelemetryService.create 1 0).sendChannelFrame atTick7 ch := ⟨_, rfl⟩
  unfold firstReading at h
  rw [← hsend] at h ⊢
  cases event with
  | none => cases h
  | some e =>
      cases e with
      | lost => cases h
      | sent d => exact ⟨d, after, task, rfl, h⟩

/-- `test_stream_rx.py` stops at a frame of half words under the tag of the counter, and cannot show a tag
that is not ASCII. -/
theorem streamFrames_not_received :
    (¬ ∀ (this task : TelemetryTask StressTestProducer) (env : SendEnv) (ch after : StressTestProducer)
      (d : Datagram), (∀ buffer n, (produceSamples buffer n ch).1 ≤ n) →
        getBytesPerSample ch = (getChannelCount ch).toNat * sizeOfElement (getSampleType ch) →
        this.sendChannelFrame env ch = (some (.sent d), after, task) → Showable (getTag after) →
          ∃ reading, testStreamRx d.bytes = some reading ∧ reading.tag = tagText (getTag after)) ∧
    ¬ ∀ (this task : TelemetryTask StressTestProducer) (env : SendEnv) (ch after : StressTestProducer)
      (d : Datagram), (∀ buffer n, (produceSamples buffer n ch).1 ≤ n) →
        getBytesPerSample ch = (getChannelCount ch).toNat * sizeOfElement (getSampleType ch) →
        this.sendChannelFrame env ch = (some (.sent d), after, task) →
        HasValue (getTag after) (getBytesPerSample ch) →
          ∃ reading, testStreamRx d.bytes = some reading ∧ reading.tag = tagText (getTag after) := by
  constructor
  · intro h
    have hread : (firstReading halfWords).any
        (fun r => decide (r.1 = none ∧ r.2 = STREAM_TAG_COUNTER)) = true := by decide +kernel
    obtain ⟨d, after, task, hsend, hp⟩ := sent_of_firstReading hread
    obtain ⟨hnone, htag⟩ : testStreamRx d.bytes = none ∧ getTag after = STREAM_TAG_COUNTER :=
      of_decide_eq_true hp
    obtain ⟨reading, hsome, -⟩ := h _ task atTick7 halfWords after d
      (LawfulTelemetryProducer.produceSamples_le · · _) rfl hsend (by rw [htag]; decide)
    rw [hnone] at hsome
    cases hsome
  · intro h
    have hread : (firstReading foreignTag).any (fun r => decide (r.2 = 0xFFFFFFFF ∧
        ∀ reading ∈ r.1, reading.tag ≠ tagText r.2)) = true := by decide +kernel
    obtain ⟨d, after, task, hsend, hp⟩ := sent_of_firstReading hread
    obtain ⟨htag, hother⟩ : getTag after = 0xFFFFFFFF ∧
        ∀ reading ∈ testStreamRx d.bytes, reading.tag ≠ tagText (getTag after) := of_decide_eq_true hp
    obtain ⟨reading, hsome, htext⟩ := h _ task atTick7 foreignTag after d
      (LawfulTelemetryProducer.produceSamples_le · · _) rfl hsend (by
        rw [htag]
        exact fun hknown => absurd hknown (by decide))
    exact hother reading hsome htext

end EmbeddedPixel.StreamReceivers
