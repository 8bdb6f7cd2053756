import Mathlib

/-!
# Slots used in rotation

`n` slots take values one after the other, beginning at slot `start` and going round.  The value with number
`j` goes to slot `(start + j) % n`, and stays there until `n` more have come: `Holding`.

`Holding.push` — the next value may change its own slot in any way, if it lies there afterwards; the other
slots must hold what they held.

`window n k m` are the slots of the values `k` to `k + m - 1`: a queue whose ends go round.  No slot is in it
twice as long as it is no longer than the rotation.
-/

set_option autoImplicit false

namespace Foundation

variable {α β : Type} {R : α → β → Prop} {n start : Nat} {slots slots' : Nat → α} {items : List β} {x : β}

/-- The last `n` of the values taken so far lie in their slots; `R` says when a slot holds a value. -/
def Holding (R : α → β → Prop) (n start : Nat) (slots : Nat → α) (items : List β) : Prop :=
  ∀ j (h : j < items.length), items.length ≤ j + n → R (slots ((start + j) % n)) items[j]

namespace Holding

theorem empty (R : α → β → Prop) (n start : Nat) (slots : Nat → α) : Holding R n start slots [] := by
  intro j h
  cases h

/-- Fewer than `n` values apart, two values have different slots. -/
theorem slot_ne {j k : Nat} (hjk : j < k) (hk : k < j + n) : (start + j) % n ≠ (start + k) % n := by
  intro heq
  have hmod : j ≡ k [MOD n] := Nat.ModEq.add_left_cancel' start heq
  have hdvd : n ∣ k - j := (Nat.modEq_iff_dvd' hjk.le).1 hmod
  have hle : n ≤ k - j := Nat.le_of_dvd (by omega) hdvd
  omega

/-- Only what the slots hold matters. -/
theorem mono (h : Holding R n start slots items)
    (hkeep : ∀ i < n, ∀ y, R (slots i) y → R (slots' i) y) : Holding R n start slots' items := by
  intro j hj hlast
  have hn : 0 < n := by omega
  exact hkeep _ (Nat.mod_lt _ hn) _ (h j hj hlast)

/-- **The next value.** -/
theorem push (h : Holding R n start slots items) (hn : 0 < n)
    (hnew : R (slots' ((start + items.length) % n)) x)
    (hkeep : ∀ i < n, i ≠ (start + items.length) % n → ∀ y, R (slots i) y → R (slots' i) y) :
    Holding R n start slots' (items ++ [x]) := by
  intro j hj hlast
  rw [List.length_append, List.length_singleton] at hj hlast
  by_cases hold : j < items.length
  · rw [List.getElem_append_left hold]
    exact hkeep _ (Nat.mod_lt _ hn) (slot_ne hold (by omega)) _ (h j hold (by omega))
  · obtain rfl : j = items.length := by omega
    rw [List.getElem_concat_length rfl]
    exact hnew

end Holding

/-- The slots of `m` values, from number `k` on. -/
def window (n k m : Nat) : List Nat := (List.range' k m).map (· % n)

section Window

variable (n k m : Nat)

@[simp] theorem window_zero : window n k 0 = [] := rfl

@[simp] theorem length_window : (window n k m).length = m := by
  unfold window
  rw [List.length_map, List.length_range']

/-- The queue takes the next slot. -/
theorem window_snoc : window n k (m + 1) = window n k m ++ [(k + m) % n] := by
  unfold window
  rw [List.range'_1_concat, List.map_append, List.map_singleton]

/-- The queue gives its first slot back. -/
theorem window_cons : window n k (m + 1) = k % n :: window n (k + 1) m := rfl

variable {n k m}

theorem window_lt (hn : 0 < n) {i : Nat} (hi : i ∈ window n k m) : i < n := by
  obtain ⟨j, -, rfl⟩ := List.mem_map.1 hi
  exact Nat.mod_lt _ hn

/-- **No slot twice.** -/
theorem window_nodup (hm : m ≤ n) : (window n k m).Nodup := by
  refine List.Nodup.map_on (fun i hi j hj heq => ?_) List.nodup_range'
  rw [List.mem_range'_1] at hi hj
  have hne : ∀ {i j}, k ≤ i → i < j → j < k + m → i % n ≠ j % n := by
    intro i j hki hij hjm
    have hslot : (k + (i - k)) % n ≠ (k + (j - k)) % n :=
      Holding.slot_ne (show i - k < j - k by omega) (by omega)
    rwa [Nat.add_sub_cancel' hki, Nat.add_sub_cancel' (by omega)] at hslot
  rcases Nat.lt_trichotomy i j with hij | rfl | hji
  · exact absurd heq (hne hi.1 hij hj.2)
  · rfl
  · exact absurd heq.symm (hne hj.1 hji hi.2)

end Window

end Foundation
