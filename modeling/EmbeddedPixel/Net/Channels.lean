import EmbeddedPixel.Net.TelemetryService

/-!
# The channels (`net/ITelemetryChannel.h`)

`LawfulTelemetryChannel` is what the interface says of its setters: each sets its own member.  The
channels of `ethernetdev` have it, and the operations of the service on lawful channels are summed up by
the enabled flags they leave.
-/

set_option autoImplicit false

namespace EmbeddedPixel

open Foundation

/-- The setters of a channel change neither its tag nor, one apart, whether it is enabled. -/
class LawfulTelemetryChannel (C : Type) [ITelemetryChannel C] : Prop where
  isEnabled_setEnabled : ∀ (b : Bool) (ch : C),
    ITelemetryChannel.isEnabled (ITelemetryChannel.setEnabled b ch) = b
  isEnabled_setSampleRateHz : ∀ (rateHz : UInt16) (ch : C),
    ITelemetryChannel.isEnabled (ITelemetryChannel.setSampleRateHz rateHz ch) =
      ITelemetryChannel.isEnabled ch
  isEnabled_setBatchCount : ∀ (batch : UInt16) (ch : C),
    ITelemetryChannel.isEnabled (ITelemetryChannel.setBatchCount batch ch) =
      ITelemetryChannel.isEnabled ch
  getTag_setEnabled : ∀ (b : Bool) (ch : C),
    ITelemetryChannel.getTag (ITelemetryChannel.setEnabled b ch) = ITelemetryChannel.getTag ch
  getTag_setSampleRateHz : ∀ (rateHz : UInt16) (ch : C),
    ITelemetryChannel.getTag (ITelemetryChannel.setSampleRateHz rateHz ch) =
      ITelemetryChannel.getTag ch
  getTag_setBatchCount : ∀ (batch : UInt16) (ch : C),
    ITelemetryChannel.getTag (ITelemetryChannel.setBatchCount batch ch) =
      ITelemetryChannel.getTag ch

/-! ## The registry -/

namespace TelemetryService

open ITelemetryChannel

variable {C : Type} [ITelemetryChannel C]

/-- The service after its constructor and the registrations of `main`. -/
def registerAll (chs : List C) : TelemetryService C :=
  chs.foldl (fun this ch => (this.registerChannel ch).2) create

@[simp] theorem isStreaming_registerChannel (this : TelemetryService C) (ch : C) :
    (this.registerChannel ch).2.isStreaming = this.isStreaming := by
  unfold registerChannel
  split
  · rfl
  split
  · rfl
  · rfl

/-- Registering adds a channel at the end, or nothing. -/
theorem sublist_registerChannel (this : TelemetryService C) (ch : C) :
    (this.registerChannel ch).2.channels.Sublist (this.channels ++ [ch]) := by
  unfold registerChannel
  split
  · exact List.sublist_append_left _ _
  split
  · exact List.sublist_append_left _ _
  · exact List.Sublist.refl _

/-- Registering starts nothing. -/
theorem isStreaming_registerAll (chs : List C) : (registerAll chs).isStreaming = false := by
  have hfold : ∀ this : TelemetryService C,
      (chs.foldl (fun this ch => (this.registerChannel ch).2) this).isStreaming =
        this.isStreaming := by
    induction chs with
    | nil => exact fun _ => rfl
    | cons ch chs ih =>
        intro this
        rw [List.foldl_cons, ih, isStreaming_registerChannel]
  exact hfold create

/-- The registered channels are in the order of their registrations. -/
theorem sublist_registerAll (chs : List C) : (registerAll chs).channels.Sublist chs := by
  have hfold : ∀ this : TelemetryService C,
      (chs.foldl (fun this ch => (this.registerChannel ch).2) this).channels.Sublist
        (this.channels ++ chs) := by
    induction chs with
    | nil => exact fun this => by simp
    | cons ch chs ih =>
        intro this
        have hstep := (sublist_registerChannel this ch).append_right chs
        rw [List.append_assoc] at hstep
        exact (ih _).trans hstep
  exact hfold create

theorem mem_of_mem_registerAll {chs : List C} {ch : C} (h : ch ∈ (registerAll chs).channels) :
    ch ∈ chs :=
  (sublist_registerAll chs).subset h

end TelemetryService

/-! ## The channels of the source -/

instance : LawfulTelemetryChannel CounterChannel where
  isEnabled_setEnabled _ _ := rfl
  isEnabled_setSampleRateHz rateHz ch := by
    show (if rateHz > 0 then { ch with sampleRateHz := rateHz, batchCount := 1 } else ch).enabled =
      ch.enabled
    split
    · rfl
    · rfl
  isEnabled_setBatchCount _ _ := rfl
  getTag_setEnabled _ _ := rfl
  getTag_setSampleRateHz _ _ := rfl
  getTag_setBatchCount _ _ := rfl

/-- `"TEMP"`. -/
def STREAM_TAG_TEMP : UInt32 := MAKE_FOURCC 84 69 77 80

/-- `"STR6"`. -/
def STREAM_TAG_STR6 : UInt32 := MAKE_FOURCC 83 84 82 54

/-- `"STR1"`. -/
def STREAM_TAG_STR1 : UInt32 := MAKE_FOURCC 83 84 82 49

/-- `"RAW0"`. -/
def STREAM_TAG_RAW0 : UInt32 := MAKE_FOURCC 82 65 87 48

/-- `TemperatureChannel`, less its sensor. -/
structure TemperatureChannel where
  sampleRateHz : UInt16
  batchCount : UInt16
  enabled : Bool
  deriving DecidableEq, Repr

/-- `StressTestChannel<NumChannels>`, less its counter. -/
structure StressTestChannel where
  numChannels : UInt16
  tag : UInt32
  sampleRateHz : UInt16
  batchCount : UInt16
  enabled : Bool
  deriving DecidableEq, Repr

namespace TemperatureChannel

/-- The constructor. -/
def create (sampleRateHz batchCount : UInt16) : TemperatureChannel :=
  ⟨sampleRateHz, batchCount, false⟩

instance : ITelemetryChannel TemperatureChannel where
  getTag _ := STREAM_TAG_TEMP
  getName _ := ascii "Temperature"
  getSampleRateHz := sampleRateHz
  setSampleRateHz rateHz ch :=
    if rateHz > 0 then { ch with sampleRateHz := rateHz, batchCount := 1 } else ch
  getBatchCount := batchCount
  setBatchCount batch ch :=
    { ch with batchCount := if batch > 0 ∧ batch ≤ 100 then batch else 1 }
  getChannelCount _ := 1
  getSampleType _ := .int32
  isEnabled := enabled
  setEnabled b ch := { ch with enabled := b }

instance : LawfulTelemetryChannel TemperatureChannel where
  isEnabled_setEnabled _ _ := rfl
  isEnabled_setSampleRateHz rateHz ch := by
    show (if rateHz > 0 then { ch with sampleRateHz := rateHz, batchCount := 1 } else ch).enabled =
      ch.enabled
    split
    · rfl
    · rfl
  isEnabled_setBatchCount _ _ := rfl
  getTag_setEnabled _ _ := rfl
  getTag_setSampleRateHz _ _ := rfl
  getTag_setBatchCount _ _ := rfl

end TemperatureChannel

namespace StressTestChannel

/-- The constructor. -/
def create (numChannels : UInt16) (streamTag : UInt32) (sampleRateHz batchCount : UInt16) :
    StressTestChannel :=
  ⟨numChannels, streamTag, sampleRateHz, batchCount, false⟩

instance : ITelemetryChannel StressTestChannel where
  getTag := tag
  getName _ := ascii "StressStream"
  getSampleRateHz := sampleRateHz
  setSampleRateHz rateHz ch :=
    { ch with sampleRateHz := if rateHz > 0 then rateHz else ch.sampleRateHz }
  getBatchCount := batchCount
  setBatchCount batch ch := { ch with batchCount := if batch > 0 then batch else ch.batchCount }
  getChannelCount := numChannels
  getSampleType _ := .uint16
  isEnabled := enabled
  setEnabled b ch := { ch with enabled := b }

instance : LawfulTelemetryChannel StressTestChannel where
  isEnabled_setEnabled _ _ := rfl
  isEnabled_setSampleRateHz _ _ := rfl
  isEnabled_setBatchCount _ _ := rfl
  getTag_setEnabled _ _ := rfl
  getTag_setSampleRateHz _ _ := rfl
  getTag_setBatchCount _ _ := rfl

end StressTestChannel

/-- A channel of the source, behind the interface. -/
inductive BoardChannel where
  | counter (ch : CounterChannel)
  | temperature (ch : TemperatureChannel)
  | stress (ch : StressTestChannel)
  deriving DecidableEq, Repr

namespace BoardChannel

open ITelemetryChannel

/-- A virtual call that reads. -/
def get {α : Type} (f : ∀ C [ITelemetryChannel C], C → α) : BoardChannel → α
  | .counter ch => f _ ch
  | .temperature ch => f _ ch
  | .stress ch => f _ ch

/-- A virtual call that writes. -/
def set (f : ∀ C [ITelemetryChannel C], C → C) : BoardChannel → BoardChannel
  | .counter ch => .counter (f _ ch)
  | .temperature ch => .temperature (f _ ch)
  | .stress ch => .stress (f _ ch)

instance : ITelemetryChannel BoardChannel where
  getTag := get fun _ => getTag
  getName := get fun _ => getName
  getSampleRateHz := get fun _ => getSampleRateHz
  setSampleRateHz rateHz := set fun _ => setSampleRateHz rateHz
  getBatchCount := get fun _ => getBatchCount
  setBatchCount batch := set fun _ => setBatchCount batch
  getChannelCount := get fun _ => getChannelCount
  getSampleType := get fun _ => getSampleType
  isEnabled := get fun _ => isEnabled
  setEnabled b := set fun _ => setEnabled b

/-- What holds of the call for every lawful class holds of the virtual call. -/
theorem get_set {α : Type} {f : ∀ C [ITelemetryChannel C], C → α}
    {g : ∀ C [ITelemetryChannel C], C → C} {r : ∀ C [ITelemetryChannel C], C → α}
    (h : ∀ C [ITelemetryChannel C] [LawfulTelemetryChannel C] (ch : C), f C (g C ch) = r C ch)
    (ch : BoardChannel) : get f (set g ch) = get r ch := by
  cases ch with
  | counter ch => exact h _ ch
  | temperature ch => exact h _ ch
  | stress ch => exact h _ ch

instance : LawfulTelemetryChannel BoardChannel where
  isEnabled_setEnabled b ch := by
    have h := get_set (f := fun _ => isEnabled) (g := fun _ => setEnabled b) (r := fun _ _ _ => b)
      (fun _ => LawfulTelemetryChannel.isEnabled_setEnabled b) ch
    refine h.trans ?_
    cases ch with
    | counter ch => rfl
    | temperature ch => rfl
    | stress ch => rfl
  isEnabled_setSampleRateHz rateHz :=
    get_set fun _ => LawfulTelemetryChannel.isEnabled_setSampleRateHz rateHz
  isEnabled_setBatchCount batch :=
    get_set fun _ => LawfulTelemetryChannel.isEnabled_setBatchCount batch
  getTag_setEnabled b := get_set fun _ => LawfulTelemetryChannel.getTag_setEnabled b
  getTag_setSampleRateHz rateHz :=
    get_set fun _ => LawfulTelemetryChannel.getTag_setSampleRateHz rateHz
  getTag_setBatchCount batch := get_set fun _ => LawfulTelemetryChannel.getTag_setBatchCount batch

/-- The channels `main` of `ethernetdev` registers, in order. -/
def ethernetdev : List BoardChannel :=
  [.counter (CounterChannel.create 10 1), .temperature (TemperatureChannel.create 1 1),
    .stress (StressTestChannel.create 16 STREAM_TAG_STR1 1000 45),
    .stress (StressTestChannel.create 64 STREAM_TAG_STR6 5000 11),
    .stress (StressTestChannel.create 64 STREAM_TAG_RAW0 50000 11)]

end BoardChannel

end EmbeddedPixel
