import Mathlib

/-!
# Counters that wrap around

`following s k` are the `k` numbers that a 32-bit counter at `s` gives out next: all different while there
are at most `2 ^ 32` of them (`following_nodup`).

A timer reads a 32-bit tick counter and fires when `period` ticks have passed since it last did, by the
difference of the two readings; `fires` are the times, in ticks that do not wrap around, at which it does.
`fires_spaced` — the firings are `period` ticks apart or more.  `fires_dense` — where the readings are at most
`gap` ticks apart, the firings are less than `period + gap` apart.
-/

set_option autoImplicit false

namespace Foundation.Counter

/-! ## Numbers given out -/

/-- The next `k` numbers of a counter at `s`. -/
def following (s : UInt32) : Nat → List UInt32
  | 0 => []
  | k + 1 => (s + 1) :: following (s + 1) k

@[simp] theorem length_following (s : UInt32) (k : Nat) : (following s k).length = k := by
  induction k generalizing s with
  | zero => rfl
  | succ k ih => rw [following, List.length_cons, ih]

theorem add_ofNat_succ (s : UInt32) (k : Nat) :
    s + UInt32.ofNat (k + 1) = s + 1 + UInt32.ofNat k := by
  rw [Nat.add_comm, UInt32.ofNat_add, ← UInt32.add_assoc]
  rfl

/-- The counter goes on where it was left. -/
theorem following_add (s : UInt32) (j k : Nat) :
    following s (j + k) = following s j ++ following (s + UInt32.ofNat j) k := by
  induction j generalizing s with
  | zero =>
      rw [Nat.zero_add, following, List.nil_append]
      exact congrArg (following · k) (UInt32.add_zero s).symm
  | succ j ih =>
      rw [Nat.succ_add, following, following, ih, add_ofNat_succ, List.cons_append]

theorem mem_following {s n : UInt32} {k : Nat} (h : n ∈ following s k) :
    ∃ i, 1 ≤ i ∧ i ≤ k ∧ n = s + UInt32.ofNat i := by
  induction k generalizing s with
  | zero => cases h
  | succ k ih =>
      obtain rfl | h := List.mem_cons.1 h
      · exact ⟨1, le_rfl, by omega, rfl⟩
      · obtain ⟨i, hi, hk, rfl⟩ := ih h
        exact ⟨i + 1, by omega, by omega, (add_ofNat_succ s i).symm⟩

/-- **No number twice** before the counter is through. -/
theorem following_nodup (s : UInt32) {k : Nat} (h : k ≤ 2 ^ 32) : (following s k).Nodup := by
  induction k generalizing s with
  | zero => exact List.nodup_nil
  | succ k ih =>
      refine List.nodup_cons.2 ⟨fun hmem => ?_, ih (s + 1) (by omega)⟩
      obtain ⟨i, hi, hk, heq⟩ := mem_following hmem
      have hzero : UInt32.ofNat i = 0 := UInt32.add_eq_left.1 heq.symm
      have hval := congrArg UInt32.toNat hzero
      rw [UInt32.toNat_ofNat_of_lt' (show i < 2 ^ 32 by omega)] at hval
      have hval : i = 0 := hval
      omega

/-! ## Timers -/

/-- The times at which the timer fires, of those at which the counter is read. -/
def fires (period : UInt32) : (last : Nat) → (times : List Nat) → List Nat
  | _, [] => []
  | last, now :: times =>
    if UInt32.ofNat now - UInt32.ofNat last ≥ period then now :: fires period now times
    else fires period last times

/-- The difference of two readings is the time between them, but for whole turns of the counter. -/
theorem toNat_sub_ofNat {last now : Nat} (h : last ≤ now) :
    (UInt32.ofNat now - UInt32.ofNat last).toNat = (now - last) % 2 ^ 32 := by
  rw [UInt32.toNat_sub, UInt32.toNat_ofNat', UInt32.toNat_ofNat']
  omega

variable {period : UInt32} {last : Nat} {times : List Nat}

theorem fires_chain (h : List.IsChain (· ≤ ·) (last :: times)) :
    List.IsChain (fun a b => a + period.toNat ≤ b) (last :: fires period last times) := by
  induction times generalizing last with
  | nil => exact .singleton _
  | cons now times ih =>
      obtain ⟨hle, hrest⟩ := List.isChain_cons_cons.1 h
      unfold fires
      split
      · rename_i hdue
        have hdue : period.toNat ≤ (UInt32.ofNat now - UInt32.ofNat last).toNat := hdue
        rw [toNat_sub_ofNat hle] at hdue
        have hspan := Nat.mod_le (now - last) (2 ^ 32)
        exact .cons_cons (by omega) (ih hrest)
      · exact ih (hrest.imp_head fun hz => hle.trans hz)

/-- **A timer does not fire early.** -/
theorem fires_spaced (h : List.IsChain (· ≤ ·) (last :: times)) :
    List.Pairwise (fun a b => a + period.toNat ≤ b) (last :: fires period last times) := by
  have htrans : Trans (fun a b : Nat => a + period.toNat ≤ b) (fun a b => a + period.toNat ≤ b)
      (fun a b => a + period.toNat ≤ b) := ⟨fun hab hbc => by omega⟩
  exact List.isChain_iff_pairwise.1 (fires_chain h)

/-- **A timer does not fire late**: `now` is the time of the reading before the first, and the timer was
not due. -/
theorem fires_dense {gap now : Nat} (hroom : period.toNat + gap ≤ 2 ^ 32) (hlast : last ≤ now)
    (hmono : List.IsChain (· ≤ ·) (now :: times))
    (hsteady : List.IsChain (fun a b => b ≤ a + gap) (now :: times)) (hnow : now < last + period.toNat) :
    List.IsChain (fun a b => b < a + (period.toNat + gap)) (last :: fires period last times) ∧
      times.getLastD now < (fires period last times).getLastD last + period.toNat := by
  induction times generalizing last now with
  | nil => exact ⟨.singleton _, hnow⟩
  | cons next times ih =>
      obtain ⟨hle, hrest⟩ := List.isChain_cons_cons.1 hmono
      obtain ⟨hgap, hrest'⟩ := List.isChain_cons_cons.1 hsteady
      rw [List.getLastD_cons]
      unfold fires
      split
      · have hfired : next < next + period.toNat := by omega
        obtain ⟨hchain, hend⟩ := ih le_rfl hrest hrest' hfired
        rw [List.getLastD_cons]
        exact ⟨.cons_cons (by omega) hchain, hend⟩
      · rename_i hearly
        have hearly : (UInt32.ofNat next - UInt32.ofNat last).toNat < period.toNat :=
          UInt32.not_le.1 hearly
        rw [toNat_sub_ofNat (hlast.trans hle), Nat.mod_eq_of_lt (by omega)] at hearly
        exact ih (hlast.trans hle) hrest hrest' (by omega)

end Foundation.Counter
