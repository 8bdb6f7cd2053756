import EmbeddedPixel.Foundation.Bytes

/-!
# Programs that read a buffer

A `Reader α` is a computation over a buffer whose only access to it is to copy a block of bytes
out and go on with them.  `run` gives it the bytes behind a pointer; `reach` is the index its
reads end at: the program looks at no byte from `reach` on.

`run_congr` is the footprint rule: two buffers that agree below the reach of a program give it the
same result.  `LocalBelow` is the two-run property of a program that a caller asks for when only
the first bytes of a buffer are its input.
-/

set_option autoImplicit false

namespace Foundation

inductive Reader (α : Type) where
  | ret (a : α)
  | block (off n : Nat) (k : List UInt8 → Reader α)

namespace Reader

variable {α β : Type}

def bind : Reader α → (α → Reader β) → Reader β
  | .ret a, f => f a
  | .block off n k, f => .block off n fun l => (k l).bind f

instance : Monad Reader where
  pure := .ret
  bind := Reader.bind

/-- The `n` bytes from `off`. -/
def bytes (off n : Nat) : Reader (List UInt8) := .block off n .ret

/-- A structure of `n` bytes at `off`, given what its fields are behind a pointer. -/
def view (off n : Nat) (f : BytePtr → α) : Reader α :=
  .block off n fun l => .ret (f (BytePtr.ofList l))

/-- A program over the buffer `n` bytes further on. -/
def advance (n : Nat) : Reader α → Reader α
  | .ret a => .ret a
  | .block off m k => .block (n + off) m fun l => (k l).advance n

/-- The result of the program on the bytes behind `p`. -/
def run : Reader α → BytePtr → α
  | .ret a, _ => a
  | .block off n k, p => (k (bytesAt p off n)).run p

/-- Where the last block of `n` bytes at `off` ends; an empty block reads nothing. -/
def blockEnd (off n : Nat) : Nat := if n = 0 then 0 else off + n

/-- The index the program's reads end at. -/
def reach : Reader α → BytePtr → Nat
  | .ret _, _ => 0
  | .block off n k, p => max (blockEnd off n) ((k (bytesAt p off n)).reach p)

/-! ## Running -/

section Run

variable (p : BytePtr)

@[simp] theorem run_pure (a : α) : (pure a : Reader α).run p = a := rfl

@[simp] theorem run_bind (x : Reader α) (f : α → Reader β) :
    (x >>= f).run p = (f (x.run p)).run p := by
  show (x.bind f).run p = _
  induction x with
  | ret a => rfl
  | block off n k ih => exact ih _

@[simp] theorem run_bytes (off n : Nat) : (bytes off n).run p = bytesAt p off n := rfl

@[simp] theorem run_view (off n : Nat) (f : BytePtr → α) :
    (view off n f).run p = f (BytePtr.ofList (bytesAt p off n)) := rfl

@[simp] theorem run_map (f : α → β) (x : Reader α) : (f <$> x).run p = f (x.run p) :=
  run_bind p x fun a => .ret (f a)

@[simp] theorem run_advance (n : Nat) (x : Reader α) : (x.advance n).run p = x.run (p.advance n) := by
  induction x with
  | ret a => rfl
  | block off m k ih =>
      have hb : bytesAt (p.advance n) off m = bytesAt p (n + off) m := by simp
      simp only [advance, run, hb]
      exact ih _

@[simp] theorem run_ite (c : Prop) [Decidable c] (x y : Reader α) :
    (if c then x else y).run p = if c then x.run p else y.run p := by
  split <;> rfl

end Run

/-! ## Reach -/

section Reach

variable (p : BytePtr)

@[simp] theorem reach_pure (a : α) : (pure a : Reader α).reach p = 0 := rfl

@[simp] theorem reach_bind (x : Reader α) (f : α → Reader β) :
    (x >>= f).reach p = max (x.reach p) ((f (x.run p)).reach p) := by
  show (x.bind f).reach p = _
  induction x with
  | ret a =>
      show (f a).reach p = max 0 ((f a).reach p)
      omega
  | block off n k ih =>
      have h := ih (bytesAt p off n)
      simp only [bind, reach, run, h]
      omega

@[simp] theorem reach_bytes (off n : Nat) : (bytes off n).reach p = blockEnd off n :=
  Nat.max_zero _

@[simp] theorem reach_view (off n : Nat) (f : BytePtr → α) :
    (view off n f).reach p = blockEnd off n := Nat.max_zero _

@[simp] theorem reach_map (f : α → β) (x : Reader α) : (f <$> x).reach p = x.reach p := by
  show (x >>= fun a => pure (f a)).reach p = _
  rw [reach_bind, reach_pure, Nat.max_zero]

@[simp] theorem reach_ite (c : Prop) [Decidable c] (x y : Reader α) :
    (if c then x else y).reach p = if c then x.reach p else y.reach p := by
  split <;> rfl

theorem blockEnd_le {off n b : Nat} (h : off + n ≤ b) : blockEnd off n ≤ b := by
  unfold blockEnd
  split <;> omega

/-- Moved `n` bytes on, a program that reads anything reaches `n` further. -/
theorem reach_advance_le {n b : Nat} (x : Reader α) :
    (x.advance n).reach p ≤ n + b ↔ x.reach (p.advance n) ≤ b := by
  induction x with
  | ret a => simp [advance, reach]
  | block off m k ih =>
      have hb : bytesAt (p.advance n) off m = bytesAt p (n + off) m := by simp
      have he : blockEnd (n + off) m ≤ n + b ↔ blockEnd off m ≤ b := by
        unfold blockEnd
        split <;> omega
      simp only [advance, reach, hb, Nat.max_le, he, ih]

end Reach

/-! ## Locality -/

/-- **Footprint rule**: what a program does not reach decides neither its result nor its reach. -/
theorem run_congr {p q : BytePtr} (x : Reader α) (h : ∀ i < x.reach p, p i = q i) :
    x.run q = x.run p ∧ x.reach q = x.reach p := by
  induction x with
  | ret a => exact ⟨rfl, rfl⟩
  | block off n k ih =>
      have hb : bytesAt q off n = bytesAt p off n := by
        refine bytesAt_congr fun i hi => (h (off + i) ?_).symm
        simp only [reach, blockEnd]
        split <;> omega
      obtain ⟨hr, he⟩ := ih (bytesAt p off n) fun i hi => h i (by simp only [reach]; omega)
      simp only [run, reach, hb, hr, he, and_self]

/-- On the buffer `p`, the program reads only the first `n` bytes, and every buffer that begins
with the same `n` bytes gives the same result. -/
def LocalBelow (x : Reader α) (n : Nat) (p : BytePtr) : Prop :=
  x.reach p ≤ n ∧ ∀ q : BytePtr, (∀ i < n, p i = q i) → x.run q = x.run p

theorem localBelow_iff (x : Reader α) (n : Nat) (p : BytePtr) :
    x.LocalBelow n p ↔ x.reach p ≤ n := by
  refine ⟨fun h => h.1, fun h => ⟨h, fun q hq => (run_congr x fun i hi => hq i ?_).1⟩⟩
  omega

end Reader

end Foundation
