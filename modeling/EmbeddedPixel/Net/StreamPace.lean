import Mathlib.Algebra.Order.Field.Rat
import Mathlib.Tactic.Linarith
import EmbeddedPixel.Net.Transmit

/-!
# The pace of a stream

`run` waits for as long as the batch of a channel takes at its rate, and `sendChannelFrame` puts into the
frame what it will of the batch.  `advertised_iff` says when the two come to the rate in the frame.
-/

set_option autoImplicit false

namespace EmbeddedPixel.TelemetryTask

open ITelemetryChannel ITelemetryProducer

variable {rate batch : UInt16} {bytesPerSample : Nat}

/-- The samples of a full frame, one frame a packet interval, are `rate` samples a second, up to a
millisecond of the interval. -/
def Advertised (rate batch : UInt16) (bytesPerSample : Nat) : Prop :=
  let n : ℚ := (samplesToSend batch bytesPerSample).toNat
  let interval : ℚ := (intervalMs rate batch).toNat
  n * 1000 / (interval + 1) < rate.toNat ∧ (rate.toNat : ℚ) ≤ n * 1000 / interval

/-- The batch is not above the cap and lasts a millisecond at least; and the samples that a datagram has room
for last as many whole milliseconds as it does. -/
structure KeepsPace (rate batch : UInt16) (bytesPerSample : Nat) : Prop where
  batch_le : batch.toNat ≤ 100
  rate_le : rate.toNat ≤ 1000 * batch.toNat
  room : ∀ ms, rate.toNat * ms ≤ 1000 * batch.toNat →
    rate.toNat * ms ≤ 1000 * (1436 / bytesPerSample)

/-- The interval is what the batch takes, a millisecond at least. -/
theorem toNat_intervalMs (hrate : 1 ≤ rate.toNat) (hbatch : 1 ≤ batch.toNat) :
    (intervalMs rate batch).toNat = max 1 (1000 * batch.toNat / rate.toNat) := by
  have hr : rate ≠ 0 := by
    rintro rfl
    exact absurd hrate (by decide)
  have hb : batch ≠ 0 := by
    rintro rfl
    exact absurd hbatch (by decide)
  have hlt := batch.toNat_lt
  have hdiv : (batch.toUInt32 * 1000 / rate.toUInt32).toNat = 1000 * batch.toNat / rate.toNat := by
    rw [UInt32.toNat_div, UInt32.toNat_mul, UInt16.toNat_toUInt32, UInt16.toNat_toUInt32]
    show batch.toNat * 1000 % 2 ^ 32 / _ = _
    rw [Nat.mod_eq_of_lt (by omega), Nat.mul_comm]
  unfold intervalMs
  simp only [hr, hb, if_false]
  split
  · rename_i hsmall
    have hzero : (batch.toUInt32 * 1000 / rate.toUInt32).toNat < 1 := UInt32.lt_iff_toNat_lt.1 hsmall
    rw [hdiv] at hzero
    show 1 = _
    omega
  · rename_i hlarge
    have hone : ¬ (batch.toUInt32 * 1000 / rate.toUInt32).toNat < 1 := fun h =>
      hlarge (UInt32.lt_iff_toNat_lt.2 h)
    rw [hdiv] at hone ⊢
    omega

/-- A full frame holds the batch, one sample if the batch is above the cap, or what a datagram holds. -/
theorem toNat_samplesToSend (hbatch : 1 ≤ batch.toNat) :
    (samplesToSend batch bytesPerSample).toNat =
      min (if batch.toNat ≤ 100 then batch.toNat else 1) (1436 / bytesPerSample) := by
  have hwanted : (if batch ≤ 100 ∧ batch > 0 then batch else 1 : UInt16).toNat =
      if batch.toNat ≤ 100 then batch.toNat else 1 := by
    have hiff : (batch ≤ 100 ∧ batch > 0) ↔ batch.toNat ≤ 100 := by
      rw [UInt16.le_iff_toNat_le, gt_iff_lt, UInt16.lt_iff_toNat_lt]
      exact ⟨fun h => h.1, fun h => ⟨h, hbatch⟩⟩
    simp only [hiff]
    split <;> rfl
  rw [samplesToSend_eq_min, hwanted]

theorem one_le_intervalMs (rate batch : UInt16) : 1 ≤ (intervalMs rate batch).toNat := by
  unfold intervalMs
  dsimp only
  generalize _ * 1000 / (if rate = 0 then 1 else rate).toUInt32 = interval
  split
  · decide
  · rename_i hlarge
    rw [UInt32.lt_iff_toNat_lt] at hlarge
    exact Nat.le_of_not_lt hlarge

/-- The pace without fractions. -/
theorem advertised_iff_mul : Advertised rate batch bytesPerSample ↔
    (samplesToSend batch bytesPerSample).toNat * 1000 <
        rate.toNat * ((intervalMs rate batch).toNat + 1) ∧
      rate.toNat * (intervalMs rate batch).toNat ≤
        (samplesToSend batch bytesPerSample).toNat * 1000 := by
  have hone : (1 : ℚ) ≤ (intervalMs rate batch).toNat := by exact_mod_cast one_le_intervalMs rate batch
  unfold Advertised
  dsimp only
  rw [div_lt_iff₀ (by linarith), le_div_iff₀ (by linarith)]
  constructor
  · rintro ⟨hlow, hhigh⟩
    exact ⟨by exact_mod_cast hlow, by exact_mod_cast hhigh⟩
  · rintro ⟨hlow, hhigh⟩
    exact ⟨by exact_mod_cast hlow, by exact_mod_cast hhigh⟩

/-- **Where the advertised rate is the real one.** -/
theorem advertised_iff (hrate : 1 ≤ rate.toNat) (hbatch : 1 ≤ batch.toNat)
    (hbytes : 1 ≤ bytesPerSample) (hbytes' : bytesPerSample ≤ 1436) :
    Advertised rate batch bytesPerSample ↔ KeepsPace rate batch bytesPerSample := by
  have hroom : 1 ≤ 1436 / bytesPerSample := (Nat.one_le_div_iff hbytes).2 hbytes'
  -- what the batch takes, in whole milliseconds
  have htakes : rate.toNat * (1000 * batch.toNat / rate.toNat) ≤ 1000 * batch.toNat :=
    Nat.mul_div_le _ _
  have htakes' : 1000 * batch.toNat < rate.toNat * (1000 * batch.toNat / rate.toNat + 1) :=
    Nat.lt_mul_div_succ _ hrate
  rw [advertised_iff_mul, toNat_intervalMs hrate hbatch, toNat_samplesToSend hbatch]
  obtain ⟨room, hdef⟩ : ∃ room, room = 1436 / bytesPerSample := ⟨_, rfl⟩
  rw [← hdef] at hroom ⊢
  generalize 1000 * batch.toNat / rate.toNat = takes at htakes htakes' ⊢
  rw [Nat.mul_add_one] at htakes'
  constructor
  · rintro ⟨-, hhigh⟩
    have hone : rate.toNat * 1 ≤ rate.toNat * max 1 takes := Nat.mul_le_mul_left _ (Nat.le_max_left ..)
    have hmost : rate.toNat * takes ≤ rate.toNat * max 1 takes :=
      Nat.mul_le_mul_left _ (Nat.le_max_right ..)
    -- a batch above the cap takes a hundred times as long as the one sample that is sent
    have hcap : batch.toNat ≤ 100 := by
      by_contra hover
      rw [if_neg hover] at hhigh
      omega
    rw [if_pos hcap] at hhigh
    refine ⟨hcap, by omega, fun ms hms => ?_⟩
    have hle : ms ≤ takes := by
      by_contra hover
      have hmore : rate.toNat * (takes + 1) ≤ rate.toNat * ms := Nat.mul_le_mul_left _ (by omega)
      rw [Nat.mul_add_one] at hmore
      omega
    have hless : rate.toNat * ms ≤ rate.toNat * takes := Nat.mul_le_mul_left _ hle
    rw [← hdef]
    omega
  · rintro ⟨hcap, hfast, hkeeps⟩
    have hkept := hkeeps takes htakes
    rw [← hdef] at hkept
    have htakes₁ : 1 ≤ takes := by
      by_contra hnone
      have hzero : takes = 0 := by omega
      rw [hzero, Nat.mul_zero] at htakes'
      omega
    rw [if_pos hcap, Nat.max_eq_right htakes₁, Nat.mul_add_one rate.toNat takes]
    omega

/-- The rate of a stream of 64 channels at 5000 Hz, eleven samples a frame. -/
theorem advertised_STR6 : Advertised 5000 11 128 :=
  (advertised_iff (by decide) (by decide) (by decide) (by decide)).2
    ⟨by decide, by decide, fun ms hms => by
      change 5000 * ms ≤ 11000 at hms
      change 5000 * ms ≤ 11000
      exact hms⟩

/-- Of the stream that is to run at 50000 Hz 11000 samples a second are sent. -/
theorem not_advertised_RAW0 :
    ¬ ∀ (rate batch : UInt16) (bytesPerSample : Nat), 1 ≤ rate.toNat → 1 ≤ batch.toNat →
      1 ≤ bytesPerSample → bytesPerSample ≤ 1436 → Advertised rate batch bytesPerSample := by
  intro h
  have hrate := (advertised_iff_mul.1 (h 50000 11 128 (by decide) (by decide) (by decide)
    (by decide))).2
  exact absurd hrate (by decide)

end EmbeddedPixel.TelemetryTask
