import EmbeddedPixel.Foundation.Machine
import EmbeddedPixel.Net.Producers
import EmbeddedPixel.Proto.PacketHelper

/-!
# The transmit loop (`net/services/TelemetryService.cpp`)

`TelemetryTask` is the telemetry service with what its loop keeps.  `sendChannelFrame` builds a frame in the
one buffer of the loop and, if lwIP has a netbuf for it, sends it; `iterate` is one turn of the loop, and
`step` a turn or what another task does to the service between two turns.

`sendChannelFrame_spec` says what becomes of a frame, whatever the buffer held.
-/

set_option autoImplicit false

namespace EmbeddedPixel

open Foundation ITelemetryChannel ITelemetryProducer

/-- `StreamPayloadHeader`, 20 bytes. -/
structure StreamPayloadHeader where
  timestampUs : UInt64
  streamTag : UInt32
  sampleRateHz : UInt16
  sampleCount : UInt16
  channelCount : UInt16
  sampleType : UInt16
  deriving DecidableEq, Repr

def StreamPayloadHeader.toBytes (h : StreamPayloadHeader) : List UInt8 :=
  u64le h.timestampUs ++ u32le h.streamTag ++ u16le h.sampleRateHz ++ u16le h.sampleCount ++
    u16le h.channelCount ++ u16le h.sampleType

@[simp] theorem StreamPayloadHeader.length_toBytes (h : StreamPayloadHeader) : h.toBytes.length = 20 := rfl

/-- A datagram, and where it is sent to. -/
structure Datagram where
  destIp : UInt32
  destPort : UInt16
  bytes : List UInt8
  deriving DecidableEq, Repr

/-- What becomes of a frame: it is sent, or `netbuf_new` fails. -/
inductive FrameEvent where
  | sent (d : Datagram)
  | lost
  deriving DecidableEq, Repr

/-- What `sendChannelFrame` finds: the tick count, and whether there is a netbuf. -/
structure SendEnv where
  tickCount : UInt32
  allocates : Bool

/-- What a turn of the loop finds: the tick count, and what there is to each place in the registry. -/
structure LoopEnv where
  ready : Bool
  now : UInt32
  send : Nat → SendEnv

/-- `TelemetryService`, with the state of its transmit loop; `lastWakeTick` is by place. -/
structure TelemetryTask (P : Type) extends TelemetryService P where
  nodeId : UInt16
  lastWakeTick : Nat → UInt32
  seqNum : UInt32
  packetsSent : UInt32
  samplesSent : UInt32
  txFrameBuf : BytePtr

namespace TelemetryTask

variable {P : Type} [ITelemetryProducer P]

/-- The registered service as `run` finds it. -/
def start (service : TelemetryService P) (nodeId : UInt16) (now : UInt32) : TelemetryTask P where
  toTelemetryService := service
  nodeId := nodeId
  lastWakeTick := fun _ => now
  seqNum := 0
  packetsSent := 0
  samplesSent := 0
  txFrameBuf := fun _ => 0

/-- The largest datagram. -/
def MAX_TX_BUFFER : Nat := 1472

/-- `samples_to_send` of `sendChannelFrame`. -/
def samplesToSend (batch : UInt16) (bytesPerSample : Nat) : UInt16 :=
  let samplesToSend := if batch ≤ 100 ∧ batch > 0 then batch else 1
  let maxAllowed := (MAX_TX_BUFFER - 16 - 20) / bytesPerSample
  if samplesToSend.toNat > maxAllowed then UInt16.ofNat maxAllowed else samplesToSend

/-- `sendChannelFrame`; gives what becomes of the frame, if there is one, and the channel. -/
def sendChannelFrame (this : TelemetryTask P) (env : SendEnv) (channel : P) :
    Option FrameEvent × P × TelemetryTask P :=
  let rateHz := getSampleRateHz channel
  let chCount := getChannelCount channel
  let sType := getSampleType channel
  let bytesPerSample := getBytesPerSample channel
  if bytesPerSample = 0 then (none, channel, this)
  else
    let samplesToSend := samplesToSend (getBatchCount channel) bytesPerSample
    let (actualSamples, sampleBuffer, channel) :=
      produceSamples (this.txFrameBuf.advance 36) samplesToSend.toNat channel
    let txFrameBuf : BytePtr := fun i => if i < 36 then this.txFrameBuf i else sampleBuffer (i - 36)
    if actualSamples = 0 then (none, channel, { this with txFrameBuf := txFrameBuf })
    else
      let rawDataBytes := UInt16.ofNat (actualSamples * bytesPerSample)
      let totalPayloadLen := 20 + rawDataBytes
      let streamHdr : StreamPayloadHeader :=
        { timestampUs := env.tickCount.toUInt64 * 1000
          streamTag := getTag channel
          sampleRateHz := rateHz
          sampleCount := UInt16.ofNat actualSamples
          channelCount := chCount
          sampleType := sType.code }
      let seqNum := this.seqNum + 1
      let hdr := populateHeader this.nodeId .streamSensorBatch seqNum totalPayloadLen
        FLAG_HAS_TIMESTAMP false none
      let txFrameBuf := (txFrameBuf.write 16 streamHdr.toBytes).write 0 hdr.toBytes
      if env.allocates then
        let totalDatagramSize := 16 + totalPayloadLen
        (some (.sent ⟨this.destIp, this.destPort, bytesAt txFrameBuf 0 totalDatagramSize.toNat⟩), channel,
          { this with
            seqNum := seqNum
            packetsSent := this.packetsSent + 1
            samplesSent := this.samplesSent + UInt32.ofNat actualSamples
            txFrameBuf := txFrameBuf })
      else (some .lost, channel, { this with seqNum := seqNum, txFrameBuf := txFrameBuf })

/-- The packet interval of `run`, in milliseconds. -/
def intervalMs (rate batch : UInt16) : UInt32 :=
  let rate := if rate = 0 then 1 else rate
  let batch := if batch = 0 then 1 else batch
  let intervalMs := batch.toUInt32 * 1000 / rate.toUInt32
  if intervalMs < 1 then 1 else intervalMs

/-- The channel at a place of the registry. -/
def setChannel (this : TelemetryTask P) (i : Nat) (channel : P) : TelemetryTask P :=
  { this with
    channels := this.channels.set i channel
    channels_le := by
      rw [List.length_set]
      exact this.channels_le }

/-- What a turn of the loop does for one place; `pdMsToTicks` is that of FreeRTOS. -/
def turn (pdMsToTicks : UInt32 → UInt32) (env : LoopEnv) (this : TelemetryTask P) (i : Nat) :
    List (Nat × FrameEvent) × TelemetryTask P :=
  match this.channels[i]? with
  | none => ([], this)
  | some channel =>
    if isEnabled channel = false then ([], this)
    else
      let intervalTicks := pdMsToTicks (intervalMs (getSampleRateHz channel) (getBatchCount channel))
      let intervalTicks := if intervalTicks < 1 then 1 else intervalTicks
      if env.now - this.lastWakeTick i ≥ intervalTicks then
        let (event, channel, this) := this.sendChannelFrame (env.send i) channel
        ((event.map fun e => (i, e)).toList,
          { this.setChannel i channel with
            lastWakeTick := Function.update this.lastWakeTick i env.now })
      else ([], this)

/-- The places in turn. -/
def turns (pdMsToTicks : UInt32 → UInt32) (env : LoopEnv) :
    TelemetryTask P → List Nat → List (Nat × FrameEvent) × TelemetryTask P
  | this, [] => ([], this)
  | this, i :: is =>
    let (events, this) := turn pdMsToTicks env this i
    let (more, this) := turns pdMsToTicks env this is
    (events ++ more, this)

/-- One turn of the loop of `run`. -/
def iterate (this : TelemetryTask P) (pdMsToTicks : UInt32 → UInt32) (env : LoopEnv) :
    List (Nat × FrameEvent) × TelemetryTask P :=
  if this.isStreaming = false ∨ env.ready = false ∨ this.channels.length = 0 then
    ([], { this with lastWakeTick := fun _ => env.now })
  else turns pdMsToTicks env this (List.range this.channels.length)

/-! ## One frame -/

/-- The stream header of `n` samples. -/
def streamHeader (tickCount : UInt32) (before after : P) (n : Nat) : StreamPayloadHeader where
  timestampUs := tickCount.toUInt64 * 1000
  streamTag := getTag after
  sampleRateHz := getSampleRateHz before
  sampleCount := UInt16.ofNat n
  channelCount := getChannelCount before
  sampleType := (getSampleType before).code

/-- The frame of `n` samples at the beginning of `samples`. -/
def streamFrame (this : TelemetryTask P) (tickCount : UInt32) (before after : P) (n : Nat)
    (samples : BytePtr) : Frame where
  hdr :=
    { magic := PE_MAGIC
      version := PE_PROTOCOL_VERSION
      flags := FLAG_HAS_TIMESTAMP
      nodeId := this.nodeId
      msgType := MessageType.streamSensorBatch.code
      seqNum := this.seqNum + 1
      payloadLen := UInt16.ofNat (20 + n * getBytesPerSample before)
      crc16 := 0 }
  payload :=
    (streamHeader tickCount before after n).toBytes ++ bytesAt samples 0 (n * getBytesPerSample before)

variable {this : TelemetryTask P} {ch after : P} {n : Nat} {samples : BytePtr}

/-- What is asked of a channel is the batch, if it is a proper one, or what a datagram has room for. -/
theorem samplesToSend_eq_min (batch : UInt16) (bytesPerSample : Nat) :
    (samplesToSend batch bytesPerSample).toNat =
      min (if batch ≤ 100 ∧ batch > 0 then batch else 1 : UInt16).toNat (1436 / bytesPerSample) := by
  have hmax : 1436 / bytesPerSample ≤ 1436 := Nat.div_le_self _ _
  unfold samplesToSend
  generalize (if batch ≤ 100 ∧ batch > 0 then batch else 1 : UInt16) = wanted
  show (if wanted.toNat > 1436 / bytesPerSample then UInt16.ofNat (1436 / bytesPerSample)
    else wanted).toNat = _
  generalize 1436 / bytesPerSample = room at hmax ⊢
  split
  · rw [UInt16.toNat_ofNat']
    omega
  · omega

/-- What is asked of a channel fits in a datagram. -/
theorem samplesToSend_le (batch : UInt16) (bytesPerSample : Nat) :
    (samplesToSend batch bytesPerSample).toNat ≤ 1436 / bytesPerSample := by
  rw [samplesToSend_eq_min]
  exact min_le_right _ _

/-- Of a channel whose samples fit in a datagram there is one in every frame. -/
theorem samplesToSend_ne_zero (batch : UInt16) {bytesPerSample : Nat} (hpos : 0 < bytesPerSample)
    (hle : bytesPerSample ≤ 1436) : (samplesToSend batch bytesPerSample).toNat ≠ 0 := by
  have hroom : 1 ≤ 1436 / bytesPerSample := (Nat.one_le_div_iff hpos).2 hle
  have hwanted : (if batch ≤ 100 ∧ batch > 0 then batch else 1 : UInt16).toNat ≠ 0 := by
    split
    · rename_i hbatch
      exact Nat.pos_iff_ne_zero.1 (UInt16.lt_iff_toNat_lt.1 hbatch.2)
    · decide
  rw [samplesToSend_eq_min]
  omega

/-- The headers stored over the samples. -/
theorem bytesAt_headers (buf samples : BytePtr) (k : Nat) {hdr streamHdr : List UInt8}
    (hhdr : hdr.length = 16) (hstream : streamHdr.length = 20) :
    bytesAt (BytePtr.write (BytePtr.write (fun i => if i < 36 then buf i else samples (i - 36))
        16 streamHdr) 0 hdr) 0 (36 + k) = hdr ++ (streamHdr ++ bytesAt samples 0 k) := by
  have hbuilds : Builds ([(16, streamHdr)] ++ [(0, hdr)]) 0 (hdr ++ streamHdr) :=
    (Builds.single 16 streamHdr).append_swap (Builds.single 0 hdr) (by rw [hhdr])
  have hlen : (hdr ++ streamHdr).length = 36 := by rw [List.length_append, hhdr, hstream]
  have hread := hbuilds.bytesAt_build_add (fun i => if i < 36 then buf i else samples (i - 36)) k
  rw [hlen] at hread
  refine hread.trans ?_
  rw [List.append_assoc]
  congr 2
  refine bytesAt_congr fun i _ => ?_
  rw [if_neg (by omega)]
  congr 1
  omega

/-- A channel with nothing to send. -/
theorem sendChannelFrame_none (env : SendEnv) (hbytes : getBytesPerSample ch = 0) :
    this.sendChannelFrame env ch = (none, ch, this) := by
  unfold sendChannelFrame
  dsimp only
  rw [if_pos hbytes]

/-- A channel that produces nothing. -/
theorem sendChannelFrame_empty (env : SendEnv) (hbytes : getBytesPerSample ch ≠ 0)
    (hproduce : produceSamples (this.txFrameBuf.advance 36)
      (samplesToSend (getBatchCount ch) (getBytesPerSample ch)).toNat ch = (0, samples, after)) :
    ∃ buf, this.sendChannelFrame env ch = (none, after, { this with txFrameBuf := buf }) := by
  apply Exists.intro
  unfold sendChannelFrame
  dsimp only
  rw [if_neg hbytes, hproduce]
  dsimp only
  rw [if_pos rfl]

/-- **What becomes of the samples of a channel**, whatever the buffer held: they are sent behind the two
headers, or lost, and then all that remains of the frame is its number. -/
theorem sendChannelFrame_spec (env : SendEnv) (hbytes : getBytesPerSample ch ≠ 0)
    (hproduce : produceSamples (this.txFrameBuf.advance 36)
      (samplesToSend (getBatchCount ch) (getBytesPerSample ch)).toNat ch = (n, samples, after))
    (hpos : n ≠ 0) (hle : n ≤ (samplesToSend (getBatchCount ch) (getBytesPerSample ch)).toNat) :
    n * getBytesPerSample ch ≤ 1436 ∧
      ∃ buf, this.sendChannelFrame env ch =
        if env.allocates then
          (some (.sent ⟨this.destIp, this.destPort,
            (this.streamFrame env.tickCount ch after n samples).toBytes⟩), after,
            { this with
              seqNum := this.seqNum + 1
              packetsSent := this.packetsSent + 1
              samplesSent := this.samplesSent + UInt32.ofNat n
              txFrameBuf := buf })
        else (some .lost, after, { this with seqNum := this.seqNum + 1, txFrameBuf := buf }) := by
  have hfits : n * getBytesPerSample ch ≤ 1436 := by
    have hmax := samplesToSend_le (getBatchCount ch) (getBytesPerSample ch)
    exact (Nat.le_div_iff_mul_le (Nat.pos_of_ne_zero hbytes)).1 (hle.trans hmax)
  -- neither length is cut to 16 bits
  have hpayload : (20 + UInt16.ofNat (n * getBytesPerSample ch) : UInt16) =
      UInt16.ofNat (20 + n * getBytesPerSample ch) := by
    rw [UInt16.ofNat_add]
    rfl
  have htotal : (16 + UInt16.ofNat (20 + n * getBytesPerSample ch) : UInt16).toNat =
      36 + n * getBytesPerSample ch := by
    rw [UInt16.toNat_add, UInt16.toNat_ofNat']
    show (16 + _) % 2 ^ 16 = _
    omega
  refine ⟨hfits, ?_⟩
  apply Exists.intro
  unfold sendChannelFrame
  dsimp only
  rw [if_neg hbytes, hproduce]
  dsimp only
  rw [if_neg hpos, hpayload, htotal]
  split
  · rw [bytesAt_headers _ _ _ rfl rfl]
    rfl
  · rfl

/-- The task once a frame is built, and sent if it is. -/
def afterFrame (this : TelemetryTask P) (sent : Bool) (n : Nat) (buf : BytePtr) : TelemetryTask P :=
  if sent then
    { this with
      seqNum := this.seqNum + 1
      packetsSent := this.packetsSent + 1
      samplesSent := this.samplesSent + UInt32.ofNat n
      txFrameBuf := buf }
  else { this with seqNum := this.seqNum + 1, txFrameBuf := buf }

/-- **What a call comes to**: no frame, one that is sent, or one that is lost. -/
theorem sendChannelFrame_cases (this : TelemetryTask P) (env : SendEnv)
    (hle : ∀ buffer n, (produceSamples buffer n ch).1 ≤ n) :
    (∃ after buf, (getBytesPerSample ch = 0 ∨ ∃ samples, produceSamples (this.txFrameBuf.advance 36)
        (samplesToSend (getBatchCount ch) (getBytesPerSample ch)).toNat ch = (0, samples, after)) ∧
      this.sendChannelFrame env ch = (none, after, { this with txFrameBuf := buf })) ∨
    ∃ n samples after buf, produceSamples (this.txFrameBuf.advance 36)
        (samplesToSend (getBatchCount ch) (getBytesPerSample ch)).toNat ch = (n, samples, after) ∧
      n ≠ 0 ∧ getBytesPerSample ch ≠ 0 ∧ n * getBytesPerSample ch ≤ 1436 ∧
      this.sendChannelFrame env ch =
        (some (if env.allocates then .sent ⟨this.destIp, this.destPort,
          (this.streamFrame env.tickCount ch after n samples).toBytes⟩ else .lost), after,
          this.afterFrame env.allocates n buf) := by
  by_cases hbytes : getBytesPerSample ch = 0
  · exact Or.inl ⟨ch, this.txFrameBuf, Or.inl hbytes, sendChannelFrame_none env hbytes⟩
  obtain ⟨⟨n, samples, after⟩, hproduce⟩ : ∃ r, r = produceSamples (this.txFrameBuf.advance 36)
    (samplesToSend (getBatchCount ch) (getBytesPerSample ch)).toNat ch := ⟨_, rfl⟩
  by_cases hn : n = 0
  · subst hn
    obtain ⟨buf, hnone⟩ := sendChannelFrame_empty env hbytes hproduce.symm
    exact Or.inl ⟨after, buf, Or.inr ⟨samples, hproduce.symm⟩, hnone⟩
  · have hcount := hle (this.txFrameBuf.advance 36)
      (samplesToSend (getBatchCount ch) (getBytesPerSample ch)).toNat
    rw [← hproduce] at hcount
    obtain ⟨hfits, buf, hspec⟩ := sendChannelFrame_spec env hbytes hproduce.symm hn hcount
    refine Or.inr ⟨n, samples, after, buf, hproduce.symm, hn, hbytes, hfits, ?_⟩
    rw [hspec]
    unfold afterFrame
    cases env.allocates with
    | true => rfl
    | false => rfl

/-- **What a turn does for a place**: nothing, or what becomes of one frame. -/
theorem turn_cases (pdMsToTicks : UInt32 → UInt32) (env : LoopEnv) (this : TelemetryTask P) (i : Nat) :
    turn pdMsToTicks env this i = ([], this) ∨
      ∃ channel, this.channels[i]? = some channel ∧ isEnabled channel = true ∧
        turn pdMsToTicks env this i =
          (((this.sendChannelFrame (env.send i) channel).1.map fun e => (i, e)).toList,
            { (this.sendChannelFrame (env.send i) channel).2.2.setChannel i
                (this.sendChannelFrame (env.send i) channel).2.1 with
              lastWakeTick := Function.update
                (this.sendChannelFrame (env.send i) channel).2.2.lastWakeTick i env.now }) := by
  unfold turn
  cases this.channels[i]? with
  | none => exact Or.inl rfl
  | some channel =>
      dsimp only
      cases henabled : isEnabled channel with
      | false => exact Or.inl rfl
      | true =>
          rw [if_neg Bool.true_eq_false.mp]
          generalize (if pdMsToTicks (intervalMs (getSampleRateHz channel) (getBatchCount channel)) < 1
            then 1 else _ : UInt32) = intervalTicks
          by_cases hdue : env.now - this.lastWakeTick i ≥ intervalTicks
          · rw [if_pos hdue]
            exact Or.inr ⟨channel, rfl, henabled, rfl⟩
          · rw [if_neg hdue]
            exact Or.inl rfl

/-- An enabled channel whose interval is over. -/
theorem turn_due (pdMsToTicks : UInt32 → UInt32) {env : LoopEnv} {i : Nat} {channel : P}
    (hchannel : this.channels[i]? = some channel) (henabled : isEnabled channel = true)
    (hticks : pdMsToTicks (intervalMs (getSampleRateHz channel) (getBatchCount channel)) ≤ 1)
    (hdue : 1 ≤ env.now - this.lastWakeTick i) :
    turn pdMsToTicks env this i =
      (((this.sendChannelFrame (env.send i) channel).1.map fun e => (i, e)).toList,
        { (this.sendChannelFrame (env.send i) channel).2.2.setChannel i
            (this.sendChannelFrame (env.send i) channel).2.1 with
          lastWakeTick := Function.update
            (this.sendChannelFrame (env.send i) channel).2.2.lastWakeTick i env.now }) := by
  unfold turn
  rw [hchannel]
  dsimp only
  rw [henabled, if_neg Bool.true_eq_false.mp, if_pos]
  split
  · exact hdue
  · exact UInt32.le_trans hticks hdue

/-! ## Runs -/

/-- A turn of the loop, or what another task does to the service between two turns. -/
inductive Action where
  | iterate (env : LoopEnv)
  | startStreaming (destIp : UInt32) (destPort : UInt16) (streamTag : UInt32)
      (sampleRateHz batchCount : UInt16)
  | stopStreaming (streamTag : UInt32)
  | setSampleRateHz (place : Nat) (rateHz : UInt16)
  | setBatchCount (place : Nat) (batch : UInt16)
  | setEnabled (place : Nat) (enabled : Bool)

/-- A change of the channel at a place. -/
def atPlace (this : TelemetryTask P) (i : Nat) (f : P → P) : TelemetryTask P :=
  match this.channels[i]? with
  | none => this
  | some channel => this.setChannel i (f channel)

/-- One action, with what becomes of the frames it builds. -/
def step (pdMsToTicks : UInt32 → UInt32) (this : TelemetryTask P) :
    Action → Option (List (Nat × FrameEvent) × TelemetryTask P)
  | .iterate env => some (this.iterate pdMsToTicks env)
  | .startStreaming destIp destPort streamTag sampleRateHz batchCount =>
    some ([], { this with toTelemetryService :=
      this.toTelemetryService.startStreaming destIp destPort streamTag sampleRateHz batchCount })
  | .stopStreaming streamTag =>
    some ([], { this with toTelemetryService := this.toTelemetryService.stopStreaming streamTag })
  | .setSampleRateHz place rateHz =>
    some ([], this.atPlace place (ITelemetryChannel.setSampleRateHz rateHz))
  | .setBatchCount place batch => some ([], this.atPlace place (ITelemetryChannel.setBatchCount batch))
  | .setEnabled place enabled => some ([], this.atPlace place (ITelemetryChannel.setEnabled enabled))

/-- A channel after calls of its setters. -/
inductive Reconfigured : P → P → Prop where
  | refl (ch : P) : Reconfigured ch ch
  | setEnabled {ch ch' : P} (b : Bool) : Reconfigured ch ch' → Reconfigured ch (setEnabled b ch')
  | setSampleRateHz {ch ch' : P} (rateHz : UInt16) :
      Reconfigured ch ch' → Reconfigured ch (setSampleRateHz rateHz ch')
  | setBatchCount {ch ch' : P} (batch : UInt16) :
      Reconfigured ch ch' → Reconfigured ch (setBatchCount batch ch')

/-- What an action does that is not a turn of the loop: it calls setters of channels. -/
structure Reconfigures (this this' : TelemetryTask P) : Prop where
  seqNum : this'.seqNum = this.seqNum
  packetsSent : this'.packetsSent = this.packetsSent
  samplesSent : this'.samplesSent = this.samplesSent
  channels : List.Forall₂ Reconfigured this.channels this'.channels

theorem Reconfigures.refl (this : TelemetryTask P) : Reconfigures this this :=
  ⟨rfl, rfl, rfl, List.forall₂_same.2 fun ch _ => .refl ch⟩

theorem reconfigured_startChannel (sampleRateHz batchCount : UInt16) (ch : P) :
    Reconfigured ch (TelemetryService.startChannel sampleRateHz batchCount ch) := by
  have hon : Reconfigured ch (setEnabled true ch) := .setEnabled true (.refl ch)
  have hrate : Reconfigured ch (if sampleRateHz > 0 then setSampleRateHz sampleRateHz (setEnabled true ch)
      else setEnabled true ch) := by
    split
    · exact hon.setSampleRateHz sampleRateHz
    · exact hon
  unfold TelemetryService.startChannel
  dsimp only
  split
  · exact hrate.setBatchCount batchCount
  · exact hrate

theorem reconfigured_onChannels {f : P → P} (hf : ∀ ch, Reconfigured ch (f ch)) (streamTag : UInt32)
    (chs : List P) : List.Forall₂ Reconfigured chs (TelemetryService.onChannels streamTag f chs) := by
  unfold TelemetryService.onChannels
  split
  · induction chs with
    | nil => exact .nil
    | cons ch chs ih =>
        unfold TelemetryService.modifyChannel
        split
        · exact .cons (hf ch) (List.forall₂_same.2 fun ch _ => .refl ch)
        · exact .cons (.refl ch) ih
  · exact List.forall₂_map_right_iff.2 (List.forall₂_same.2 fun ch _ => hf ch)

theorem reconfigured_set {new : P} (hnew : Reconfigured ch new) :
    ∀ {chs : List P} {i : Nat}, chs[i]? = some ch → List.Forall₂ Reconfigured chs (chs.set i new)
  | [], i, h => by simp at h
  | c :: chs, 0, h => by
    cases h
    exact .cons hnew (List.forall₂_same.2 fun ch _ => .refl ch)
  | c :: chs, i + 1, h => .cons (.refl c) (reconfigured_set hnew (by simpa using h))

theorem reconfigures_atPlace {f : P → P} (hf : ∀ ch, Reconfigured ch (f ch)) (this : TelemetryTask P)
    (i : Nat) : Reconfigures this (this.atPlace i f) := by
  unfold atPlace
  split
  · exact .refl this
  · rename_i ch hch
    exact ⟨rfl, rfl, rfl, reconfigured_set (hf ch) hch⟩

/-- **What an action does.** -/
theorem step_cases {pdMsToTicks : UInt32 → UInt32} {this' : TelemetryTask P} {a : Action}
    {events : List (Nat × FrameEvent)} (h : step pdMsToTicks this a = some (events, this')) :
    (∃ env, a = .iterate env ∧ this.iterate pdMsToTicks env = (events, this')) ∨
      events = [] ∧ Reconfigures this this' := by
  cases a with
  | iterate env => exact Or.inl ⟨env, rfl, Option.some.inj h⟩
  | startStreaming destIp destPort streamTag sampleRateHz batchCount =>
      cases h
      exact Or.inr ⟨rfl, rfl, rfl, rfl, reconfigured_onChannels
        (reconfigured_startChannel sampleRateHz batchCount) streamTag _⟩
  | stopStreaming streamTag =>
      cases h
      exact Or.inr ⟨rfl, rfl, rfl, rfl, reconfigured_onChannels
        (fun ch => .setEnabled false (.refl ch)) streamTag _⟩
  | setSampleRateHz place rateHz =>
      cases h
      exact Or.inr ⟨rfl, reconfigures_atPlace (fun ch => .setSampleRateHz rateHz (.refl ch)) this place⟩
  | setBatchCount place batch =>
      cases h
      exact Or.inr ⟨rfl, reconfigures_atPlace (fun ch => .setBatchCount batch (.refl ch)) this place⟩
  | setEnabled place enabled =>
      cases h
      exact Or.inr ⟨rfl, reconfigures_atPlace (fun ch => .setEnabled enabled (.refl ch)) this place⟩

end TelemetryTask

end EmbeddedPixel
