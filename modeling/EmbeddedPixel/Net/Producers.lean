import EmbeddedPixel.Foundation.Stores
import EmbeddedPixel.Net.Channels

/-!
# Where samples come from (`net/ITelemetryChannel.h`)

`ITelemetryProducer` is the rest of `ITelemetryChannel`, which only the transmit loop calls; its instances
are the channels of `Net.Channels` with the counter or the sensor behind them.  `LawfulTelemetryProducer`
is what the interface says of `produce_samples`: no more samples than it is asked for.
-/

set_option autoImplicit false

namespace EmbeddedPixel

open Foundation

/-- `ITelemetryChannel`, with what the transmit loop calls. -/
class ITelemetryProducer (P : Type) extends ITelemetryChannel P where
  getBytesPerSample : P → Nat
  /-- Up to `maxSamples` samples for `buffer`: their number, the buffer with them, and the channel. -/
  produceSamples : BytePtr → (maxSamples : Nat) → P → Nat × BytePtr × P

/-- No more samples than asked for. -/
class LawfulTelemetryProducer (P : Type) [ITelemetryProducer P] : Prop where
  produceSamples_le : ∀ (buffer : BytePtr) (maxSamples : Nat) (ch : P),
    (ITelemetryProducer.produceSamples buffer maxSamples ch).1 ≤ maxSamples

/-- The interface of a channel that has another as a part of it. -/
@[reducible] def ITelemetryChannel.ofPart {C P : Type} [ITelemetryChannel C] (get : P → C)
    (set : C → P → P) : ITelemetryChannel P where
  getTag ch := getTag (get ch)
  getName ch := getName (get ch)
  getSampleRateHz ch := getSampleRateHz (get ch)
  setSampleRateHz rateHz ch := set (setSampleRateHz rateHz (get ch)) ch
  getBatchCount ch := getBatchCount (get ch)
  setBatchCount batch ch := set (setBatchCount batch (get ch)) ch
  getChannelCount ch := getChannelCount (get ch)
  getSampleType ch := getSampleType (get ch)
  isEnabled ch := isEnabled (get ch)
  setEnabled b ch := set (setEnabled b (get ch)) ch

/-- Words stored at the beginning of a buffer. -/
theorem u32At_write_words (buffer : BytePtr) {words : List UInt32} {k : Nat} {x : UInt32}
    (h : words[k]? = some x) : u32At (buffer.write 0 (wordsLe words)) (4 * k) = x := by
  obtain ⟨hk, hx⟩ := List.getElem?_eq_some_iff.1 h
  have hbytes := buffer.bytesAt_write 0 (wordsLe words)
  rw [length_wordsLe] at hbytes
  rw [← Nat.zero_add (4 * k), u32At_of_words hbytes k hk, hx]

/-! ## The counter -/

/-- `CounterChannel`. -/
structure CounterProducer extends CounterChannel where
  counter : UInt32
  deriving DecidableEq, Repr

namespace CounterProducer

/-- The constructor. -/
def create (sampleRateHz batchCount : UInt16) : CounterProducer :=
  ⟨CounterChannel.create sampleRateHz batchCount, 0⟩

/-- The loop of `produce_samples`: the samples, and the counter after them. -/
def count (counter : UInt32) : Nat → List UInt32 × UInt32
  | 0 => ([], counter)
  | n + 1 =>
    let (samples, last) := count (counter + 1) n
    (counter :: samples, last)

instance : ITelemetryProducer CounterProducer where
  toITelemetryChannel := .ofPart toCounterChannel fun part ch => { ch with toCounterChannel := part }
  getBytesPerSample _ := 4
  produceSamples buffer maxSamples ch :=
    if maxSamples < 1 then (0, buffer, ch)
    else
      let (samples, counter) := count ch.counter maxSamples
      (maxSamples, buffer.write 0 (wordsLe samples), { ch with counter := counter })

/-- `reset`. -/
def reset (this : CounterProducer) : CounterProducer := { this with counter := 0 }

theorem add_one_add (counter : UInt32) (n : Nat) :
    counter + 1 + UInt32.ofNat n = counter + UInt32.ofNat (n + 1) := by
  rw [UInt32.ofNat_add, UInt32.add_assoc, UInt32.add_comm 1]
  rfl

/-- The counter goes on by as many as there are samples. -/
theorem count_snd (counter : UInt32) (n : Nat) :
    (count counter n).2 = counter + UInt32.ofNat n := by
  induction n generalizing counter with
  | zero => simp [count]
  | succ n ih =>
      show (count (counter + 1) n).2 = _
      rw [ih, add_one_add]

@[simp] theorem length_count (counter : UInt32) (n : Nat) : (count counter n).1.length = n := by
  induction n generalizing counter with
  | zero => rfl
  | succ n ih =>
      show ((count (counter + 1) n).1).length + 1 = n + 1
      rw [ih]

/-- **The samples count by one.** -/
theorem getElem?_count (counter : UInt32) {n k : Nat} (hk : k < n) :
    (count counter n).1[k]? = some (counter + UInt32.ofNat k) := by
  induction n generalizing counter k with
  | zero => simp at hk
  | succ n ih =>
      show (counter :: (count (counter + 1) n).1)[k]? = _
      cases k with
      | zero => simp
      | succ k =>
          rw [List.getElem?_cons_succ, ih (counter + 1) (by omega), add_one_add]

/-- **What the counter produces**: as many samples as it is asked for, from where it stands. -/
theorem produceSamples_eq (buffer : BytePtr) {maxSamples : Nat} (h : maxSamples ≠ 0)
    (ch : CounterProducer) :
    ITelemetryProducer.produceSamples buffer maxSamples ch =
      (maxSamples, buffer.write 0 (wordsLe (count ch.counter maxSamples).1),
        { ch with counter := ch.counter + UInt32.ofNat maxSamples }) := by
  have hall : ITelemetryProducer.produceSamples buffer maxSamples ch =
      (maxSamples, buffer.write 0 (wordsLe (count ch.counter maxSamples).1),
        { ch with counter := (count ch.counter maxSamples).2 }) := if_neg (by omega)
  rw [hall, count_snd]

instance : LawfulTelemetryProducer CounterProducer where
  produceSamples_le buffer maxSamples ch := by
    show (if maxSamples < 1 then (0, buffer, ch) else _ : Nat × BytePtr × CounterProducer).1 ≤ _
    split
    · exact Nat.zero_le _
    · exact Nat.le_refl _

end CounterProducer

/-! ## The temperature -/

/-- `TemperatureChannel`; `sensor k` is what the sensor answers the `k`-th time it is read, `none` if it
fails. -/
structure TemperatureProducer extends TemperatureChannel where
  sensor : Nat → Option Int32
  reads : Nat

namespace TemperatureProducer

/-- The constructor. -/
def create (sensor : Nat → Option Int32) (sampleRateHz batchCount : UInt16) : TemperatureProducer :=
  ⟨TemperatureChannel.create sampleRateHz batchCount, sensor, 0⟩

/-- The temperature of the next samples; a failed reading counts as -999. -/
def tempC (this : TemperatureProducer) : Int32 := (this.sensor this.reads).getD (-999)

instance : ITelemetryProducer TemperatureProducer where
  toITelemetryChannel :=
    .ofPart toTemperatureChannel fun part ch => { ch with toTemperatureChannel := part }
  getBytesPerSample _ := 4
  produceSamples buffer maxSamples ch :=
    if maxSamples < 1 then (0, buffer, ch)
    else
      (maxSamples, buffer.write 0 (wordsLe (List.replicate maxSamples ch.tempC.toUInt32)),
        { ch with reads := ch.reads + 1 })

/-- Every sample is the temperature. -/
theorem produceSamples_eq (buffer : BytePtr) {maxSamples : Nat} (h : maxSamples ≠ 0)
    (ch : TemperatureProducer) :
    ITelemetryProducer.produceSamples buffer maxSamples ch =
      (maxSamples, buffer.write 0 (wordsLe (List.replicate maxSamples ch.tempC.toUInt32)),
        { ch with reads := ch.reads + 1 }) :=
  if_neg (by omega)

instance : LawfulTelemetryProducer TemperatureProducer where
  produceSamples_le buffer maxSamples ch := by
    show (if maxSamples < 1 then (0, buffer, ch)
      else _ : Nat × BytePtr × TemperatureProducer).1 ≤ _
    split
    · exact Nat.zero_le _
    · exact Nat.le_refl _

end TemperatureProducer

/-! ## The stress test -/

/-- `StressTestChannel<NumChannels>`. -/
structure StressTestProducer extends StressTestChannel where
  counter : UInt16
  deriving DecidableEq, Repr

namespace StressTestProducer

/-- The constructor. -/
def create (numChannels : UInt16) (streamTag : UInt32) (sampleRateHz batchCount : UInt16) :
    StressTestProducer :=
  ⟨StressTestChannel.create numChannels streamTag sampleRateHz batchCount, 0⟩

/-- The sample at a count: channel `ch` is `100 * ch` ahead of channel 0. -/
def sample (numChannels counter : UInt16) : List UInt8 :=
  (List.range numChannels.toNat).flatMap fun ch => u16le (counter + UInt16.ofNat (ch * 100))

/-- The loop of `produce_samples`: the samples, and the counter after them. -/
def count (numChannels counter : UInt16) : Nat → List UInt8 × UInt16
  | 0 => ([], counter)
  | n + 1 =>
    let counter := counter + 1
    let (samples, last) := count numChannels counter n
    (sample numChannels counter ++ samples, last)

instance : ITelemetryProducer StressTestProducer where
  toITelemetryChannel :=
    .ofPart toStressTestChannel fun part ch => { ch with toStressTestChannel := part }
  getBytesPerSample ch := ch.numChannels.toNat * 2
  produceSamples buffer maxSamples ch :=
    if maxSamples < 1 then (0, buffer, ch)
    else
      let (samples, counter) := count ch.numChannels ch.counter maxSamples
      (maxSamples, buffer.write 0 samples, { ch with counter := counter })

instance : LawfulTelemetryProducer StressTestProducer where
  produceSamples_le buffer maxSamples ch := by
    show (if maxSamples < 1 then (0, buffer, ch)
      else _ : Nat × BytePtr × StressTestProducer).1 ≤ _
    split
    · exact Nat.zero_le _
    · exact Nat.le_refl _

end StressTestProducer

/-! ## A counter among others -/

/-- A counter, or a channel of any other kind. -/
inductive AmongOthers (D : Type) where
  | counter (ch : CounterProducer)
  | other (ch : D)

namespace AmongOthers

variable {D : Type} [ITelemetryProducer D]

/-- A virtual call that reads. -/
def get {α : Type} (f : ∀ C [ITelemetryProducer C], C → α) : AmongOthers D → α
  | .counter ch => f _ ch
  | .other ch => f _ ch

/-- A virtual call that writes. -/
def set (f : ∀ C [ITelemetryProducer C], C → C) : AmongOthers D → AmongOthers D
  | .counter ch => .counter (f _ ch)
  | .other ch => .other (f _ ch)

instance : ITelemetryProducer (AmongOthers D) where
  getTag := get fun _ => ITelemetryChannel.getTag
  getName := get fun _ => ITelemetryChannel.getName
  getSampleRateHz := get fun _ => ITelemetryChannel.getSampleRateHz
  setSampleRateHz rateHz := set fun _ => ITelemetryChannel.setSampleRateHz rateHz
  getBatchCount := get fun _ => ITelemetryChannel.getBatchCount
  setBatchCount batch := set fun _ => ITelemetryChannel.setBatchCount batch
  getChannelCount := get fun _ => ITelemetryChannel.getChannelCount
  getSampleType := get fun _ => ITelemetryChannel.getSampleType
  isEnabled := get fun _ => ITelemetryChannel.isEnabled
  setEnabled b := set fun _ => ITelemetryChannel.setEnabled b
  getBytesPerSample := get fun _ => ITelemetryProducer.getBytesPerSample
  produceSamples buffer maxSamples
    | .counter ch =>
      let (n, samples, ch) := ITelemetryProducer.produceSamples buffer maxSamples ch
      (n, samples, .counter ch)
    | .other ch =>
      let (n, samples, ch) := ITelemetryProducer.produceSamples buffer maxSamples ch
      (n, samples, .other ch)

instance [LawfulTelemetryProducer D] : LawfulTelemetryProducer (AmongOthers D) where
  produceSamples_le buffer maxSamples
    | .counter ch => LawfulTelemetryProducer.produceSamples_le buffer maxSamples ch
    | .other ch => LawfulTelemetryProducer.produceSamples_le buffer maxSamples ch

/-- Where a counter stands. -/
def counter? : AmongOthers D → Option UInt32
  | .counter ch => some ch.counter
  | .other _ => none

end AmongOthers

end EmbeddedPixel
