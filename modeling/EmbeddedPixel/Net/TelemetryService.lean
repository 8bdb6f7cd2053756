import EmbeddedPixel.Foundation.CString
import EmbeddedPixel.Proto.ProtocolTypes

/-!
# Telemetry channels and their service (`net/ITelemetryChannel.h`, `net/services/TelemetryService.cpp`)

A channel is a value of any type with the operations of `ITelemetryChannel`; the service keeps the
registered ones in order.  A pointer to a channel is its place in the registry, so that a call through
it changes the channel there (`modifyChannel`).  The transmit loop is in `Net.Transmit`.
-/

set_option autoImplicit false

namespace EmbeddedPixel

open Foundation

/-- `ITelemetryChannel`. -/
class ITelemetryChannel (C : Type) where
  getTag : C → UInt32
  getName : C → List UInt8
  getSampleRateHz : C → UInt16
  setSampleRateHz : UInt16 → C → C
  getBatchCount : C → UInt16
  setBatchCount : UInt16 → C → C
  getChannelCount : C → UInt16
  getSampleType : C → SampleType
  isEnabled : C → Bool
  setEnabled : Bool → C → C

/-- `CounterChannel`, less its counter. -/
structure CounterChannel where
  sampleRateHz : UInt16
  batchCount : UInt16
  enabled : Bool
  deriving DecidableEq, Repr

namespace CounterChannel

/-- The constructor. -/
def create (sampleRateHz batchCount : UInt16) : CounterChannel := ⟨sampleRateHz, batchCount, false⟩

instance : ITelemetryChannel CounterChannel where
  getTag _ := STREAM_TAG_COUNTER
  getName _ := ascii "Counter"
  getSampleRateHz := sampleRateHz
  setSampleRateHz rateHz ch :=
    if rateHz > 0 then { ch with sampleRateHz := rateHz, batchCount := 1 } else ch
  getBatchCount := batchCount
  setBatchCount batch ch :=
    { ch with batchCount := if batch > 0 ∧ batch ≤ 100 then batch else 1 }
  getChannelCount _ := 1
  getSampleType _ := .uint32
  isEnabled := enabled
  setEnabled b ch := { ch with enabled := b }

end CounterChannel

def MAX_CHANNELS : Nat := 8

/-- `TelemetryService`, less the state of its transmit loop. -/
structure TelemetryService (C : Type) where
  channels : List C
  channels_le : channels.length ≤ MAX_CHANNELS
  isStreaming : Bool
  destIp : UInt32
  destPort : UInt16

namespace TelemetryService

open ITelemetryChannel

variable {C : Type} [ITelemetryChannel C]

/-- The constructor without a default channel. -/
def create : TelemetryService C where
  channels := []
  channels_le := Nat.zero_le _
  isStreaming := false
  destIp := IPADDR_BROADCAST
  destPort := PORT_STREAM

/-- `register_channel`; two channels that are one object have one tag. -/
def registerChannel (this : TelemetryService C) (channel : C) : Bool × TelemetryService C :=
  if hroom : this.channels.length ≥ MAX_CHANNELS then (false, this)
  else if this.channels.any fun ch => getTag ch == getTag channel then (false, this)
  else
    (true,
      { this with
        channels := this.channels ++ [channel]
        channels_le := by
          rw [List.length_append, List.length_singleton]
          exact Nat.not_le.1 hroom })

/-- `find_channel`. -/
def findChannel (this : TelemetryService C) (streamTag : UInt32) : Option C :=
  this.channels.find? fun ch => getTag ch == streamTag

/-- A change of the channel `find_channel` finds, if it finds one. -/
def modifyChannel (streamTag : UInt32) (f : C → C) : List C → List C
  | [] => []
  | ch :: chs => if getTag ch = streamTag then f ch :: chs else ch :: modifyChannel streamTag f chs

@[simp] theorem length_modifyChannel (streamTag : UInt32) (f : C → C) (chs : List C) :
    (modifyChannel streamTag f chs).length = chs.length := by
  induction chs with
  | nil => rfl
  | cons ch chs ih =>
      unfold modifyChannel
      split
      · rfl
      · rw [List.length_cons, ih, List.length_cons]

/-- What `start_streaming` does to a channel. -/
def startChannel (sampleRateHz batchCount : UInt16) (ch : C) : C :=
  let ch := setEnabled true ch
  let ch := if sampleRateHz > 0 then setSampleRateHz sampleRateHz ch else ch
  if batchCount > 0 ∧ sampleRateHz > 100 then setBatchCount batchCount ch else ch

/-- The channels a request is for: all of them, or the one with a tag. -/
def onChannels (streamTag : UInt32) (f : C → C) (chs : List C) : List C :=
  if streamTag ≠ 0 then modifyChannel streamTag f chs else chs.map f

@[simp] theorem length_onChannels (streamTag : UInt32) (f : C → C) (chs : List C) :
    (onChannels streamTag f chs).length = chs.length := by
  unfold onChannels
  split
  · exact length_modifyChannel streamTag f chs
  · exact List.length_map f

/-- `start_streaming`. -/
def startStreaming (this : TelemetryService C) (destIp : UInt32) (destPort : UInt16)
    (streamTag : UInt32) (sampleRateHz batchCount : UInt16) : TelemetryService C where
  channels := onChannels streamTag (startChannel sampleRateHz batchCount) this.channels
  channels_le := by
    rw [length_onChannels]
    exact this.channels_le
  isStreaming := true
  destIp := destIp
  destPort := destPort

/-- `stop_streaming`. -/
def stopStreaming (this : TelemetryService C) (streamTag : UInt32) : TelemetryService C :=
  let channels := onChannels streamTag (setEnabled false) this.channels
  { this with
    channels := channels
    channels_le := by
      rw [length_onChannels]
      exact this.channels_le
    isStreaming := if streamTag ≠ 0 then channels.any isEnabled else false }

end TelemetryService

end EmbeddedPixel
