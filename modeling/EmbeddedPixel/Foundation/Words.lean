import Mathlib.Algebra.Order.Floor.Ring
import Mathlib.Data.Rat.Floor
import Mathlib.Tactic.Linarith

/-!
# Word arithmetic, seen from the integers

A `Words` says what an operation on 64-bit words gives, from the integer it would give without a bound;
`none` is an operation without a meaning.  `machine` is the arithmetic of the target, `checked` admits
only what overflows nowhere, `exact` has no bound.  What is proved for every `Sound` arithmetic holds of the
last two, and a computation that `checked` admits is one of the target as well (`Refines`).

`Within` says of two partial computations that what the one gives, the other gives.
`truncate` is the conversion of a fraction to an integer.
-/

set_option autoImplicit false

namespace Foundation

/-- What one computation gives, the other gives. -/
def Within {α : Type} (x y : Option α) : Prop := ∀ a, x = some a → y = some a

namespace Within

variable {α β : Type} {x y : Option α}

theorem refl (x : Option α) : Within x x := fun _ h => h

theorem bind {f g : α → Option β} (h : Within x y) (hfg : ∀ a, Within (f a) (g a)) :
    Within (x >>= f) (y >>= g) := by
  intro b hb
  obtain ⟨a, ha, hf⟩ := Option.bind_eq_some_iff.1 hb
  exact Option.bind_eq_some_iff.2 ⟨a, h a ha, hfg a b hf⟩

theorem map (h : Within x y) (f : α → β) : Within (x.map f) (y.map f) := by
  intro b hb
  obtain ⟨a, ha, hf⟩ := Option.map_eq_some_iff.1 hb
  exact Option.map_eq_some_iff.2 ⟨a, h a ha, hf⟩

theorem ite {p : Prop} [Decidable p] {x' y' : Option α} (h : Within x y) (h' : Within x' y') :
    Within (if p then x else x') (if p then y else y') := by
  split
  · exact h
  · exact h'

end Within

/-- The results of word operations. -/
structure Words where
  /-- An operation on unsigned words. -/
  u64 : Int → Option Int
  /-- The conversion of an unsigned word, or of a difference of two, to a signed one. -/
  toI64 : Int → Option Int
  /-- An operation on signed words. -/
  i64 : Int → Option Int

namespace Words

/-- A signed word. -/
def signed64 (x : Int) : Option Int := if -2 ^ 63 ≤ x ∧ x < 2 ^ 63 then some x else none

/-- An unsigned word. -/
def unsigned64 (x : Int) : Option Int := if 0 ≤ x ∧ x < 2 ^ 64 then some x else none

/-- Unsigned words wrap around; a signed overflow has no meaning. -/
def machine : Words where
  u64 x := some (x % 2 ^ 64)
  toI64 x := some (Int.bmod x (2 ^ 64))
  i64 := signed64

/-- An overflow of either kind has no meaning. -/
def checked : Words := ⟨unsigned64, signed64, signed64⟩

/-- Integers. -/
def exact : Words := ⟨some, some, some⟩

@[simp] theorem exact_u64 (x : Int) : exact.u64 x = some x := rfl

@[simp] theorem exact_toI64 (x : Int) : exact.toI64 x = some x := rfl

@[simp] theorem exact_i64 (x : Int) : exact.i64 x = some x := rfl

/-- The results that there are, are right. -/
structure Sound (w : Words) : Prop where
  u64 : ∀ {x y}, w.u64 x = some y → y = x
  toI64 : ∀ {x y}, w.toI64 x = some y → y = x
  i64 : ∀ {x y}, w.i64 x = some y → y = x

/-- The results of one arithmetic are those of another. -/
structure Refines (w w' : Words) : Prop where
  u64 : ∀ x, Within (w.u64 x) (w'.u64 x)
  toI64 : ∀ x, Within (w.toI64 x) (w'.toI64 x)
  i64 : ∀ x, Within (w.i64 x) (w'.i64 x)

theorem signed64_eq {x y : Int} (h : signed64 x = some y) : -2 ^ 63 ≤ x ∧ x < 2 ^ 63 ∧ y = x := by
  unfold signed64 at h
  split at h
  · rename_i hx
    cases h
    exact ⟨hx.1, hx.2, rfl⟩
  · cases h

theorem unsigned64_eq {x y : Int} (h : unsigned64 x = some y) : 0 ≤ x ∧ x < 2 ^ 64 ∧ y = x := by
  unfold unsigned64 at h
  split at h
  · rename_i hx
    cases h
    exact ⟨hx.1, hx.2, rfl⟩
  · cases h

theorem sound_exact : exact.Sound :=
  ⟨fun h => (Option.some.inj h).symm, fun h => (Option.some.inj h).symm,
    fun h => (Option.some.inj h).symm⟩

theorem sound_checked : checked.Sound :=
  ⟨fun h => (unsigned64_eq h).2.2, fun h => (signed64_eq h).2.2, fun h => (signed64_eq h).2.2⟩

theorem checked_refines_machine : checked.Refines machine := by
  refine ⟨?_, ?_, fun x => .refl _⟩
  · intro x y h
    obtain ⟨hlow, hhigh, rfl⟩ := unsigned64_eq h
    exact congrArg some (Int.emod_eq_of_lt hlow hhigh)
  · intro x y h
    obtain ⟨hlow, hhigh, rfl⟩ := signed64_eq h
    refine congrArg some (Int.bmod_eq_of_le ?_ ?_)
    · omega
    · omega

/-- The integer is a signed word. -/
def Fits (x : Int) : Prop := -2 ^ 63 ≤ x ∧ x < 2 ^ 63

instance (x : Int) : Decidable (Fits x) := inferInstanceAs (Decidable (_ ∧ _))

/-- The signed word with the bits of an integer. -/
def wrap (x : Int) : Int := Int.bmod x (2 ^ 64)

theorem machine_toI64 (x : Int) : machine.toI64 x = some (wrap x) := rfl

theorem machine_u64 (x : Int) : machine.u64 x = some (x % 2 ^ 64) := rfl

theorem machine_i64_eq_some {x y : Int} : machine.i64 x = some y ↔ Fits x ∧ y = x := by
  constructor
  · intro h
    obtain ⟨hlow, hhigh, rfl⟩ := signed64_eq h
    exact ⟨⟨hlow, hhigh⟩, rfl⟩
  · rintro ⟨hfits, rfl⟩
    exact if_pos hfits

@[simp] theorem wrap_emod (x : Int) : wrap (x % 2 ^ 64) = wrap x := Int.emod_bmod x (2 ^ 64)

/-- What a conversion on the target gives: the signed word that differs by whole turns. -/
theorem machine_toI64_eq {x y : Int} (h : machine.toI64 x = some y) :
    -2 ^ 63 ≤ y ∧ y < 2 ^ 63 ∧ ∃ turns, x = y + 2 ^ 64 * turns := by
  have hy : Int.bmod x (2 ^ 64) = y := Option.some.inj h
  have hlow := Int.le_bmod (x := x) (m := 2 ^ 64) (by decide)
  have hhigh := Int.bmod_lt (x := x) (m := 2 ^ 64) (by decide)
  rw [hy] at hlow hhigh
  refine ⟨hlow, ?_, Int.bdiv x (2 ^ 64), ?_⟩
  · omega
  · have hturns := Int.bmod_add_bdiv x (2 ^ 64)
    rw [hy] at hturns
    exact_mod_cast hturns.symm

theorem wrap_of_fits {x : Int} (h : Fits x) : wrap x = x := by
  obtain ⟨hlow, hhigh, turns, hturns⟩ := machine_toI64_eq (machine_toI64 x)
  obtain ⟨hlow', hhigh'⟩ := h
  omega

/-- What an operation on unsigned words gives there. -/
theorem machine_u64_eq {x y : Int} (h : machine.u64 x = some y) :
    0 ≤ y ∧ y < 2 ^ 64 ∧ ∃ turns, x = y + 2 ^ 64 * turns := by
  have hy : x % 2 ^ 64 = y := Option.some.inj h
  refine ⟨?_, ?_, x / 2 ^ 64, ?_⟩
  · omega
  · omega
  · omega

end Words

/-- The conversion of an integer to 32 bits. -/
theorem toNat_ofInt (x : Int) : ((UInt32.ofInt x).toNat : Int) = x % 2 ^ 32 := by
  unfold UInt32.ofInt
  rw [UInt32.toNat_ofNat']
  omega

/-! ## Truncation -/

/-- The integer part of a fraction. -/
def truncate (x : ℚ) : Int := if x < 0 then ⌈x⌉ else ⌊x⌋

@[simp] theorem truncate_intCast (i : Int) : truncate i = i := by
  unfold truncate
  split
  · exact Int.ceil_intCast i
  · exact Int.floor_intCast i

theorem truncate_of_nonneg {x : ℚ} (h : 0 ≤ x) : truncate x = ⌊x⌋ := if_neg (not_lt.2 h)

theorem truncate_nonneg {x : ℚ} (h : 0 ≤ x) : 0 ≤ truncate x := by
  rw [truncate_of_nonneg h]
  exact Int.floor_nonneg.2 h

theorem truncate_mono {x y : ℚ} (h : x ≤ y) : truncate x ≤ truncate y := by
  unfold truncate
  split
  · rename_i hx
    split
    · exact Int.ceil_le_ceil h
    · rename_i hy
      have hneg : ⌈x⌉ ≤ 0 := Int.ceil_le.2 (by exact_mod_cast hx.le)
      exact hneg.trans (Int.floor_nonneg.2 (not_lt.1 hy))
  · rename_i hx
    rw [if_neg (not_lt.2 ((not_lt.1 hx).trans h))]
    exact Int.floor_le_floor h

end Foundation
