import Mathlib.Data.List.GetD
import EmbeddedPixel.Foundation.Bytes

/-!
# Structures built in place

A program fills a buffer by stores, at offsets and in an order of its own, over whatever the buffer held.
`Builds stores off bytes` says that the stores leave `bytes` at `off`, and everything else as it was: then
none of these bytes depends on what was there before (`Builds.bytesAt_build`).  Stores of fields build
their concatenation (`Builds.append`), also when a later part is stored first (`Builds.append_swap`).
-/

set_option autoImplicit false

namespace Foundation

/-- `memcpy` to offset `off` of a buffer. -/
def BytePtr.write (p : BytePtr) (off : Nat) (bytes : List UInt8) : BytePtr := fun i =>
  if off ≤ i ∧ i < off + bytes.length then bytes.getD (i - off) 0 else p i

/-- Stores, each an offset with its bytes. -/
abbrev Stores := List (Nat × List UInt8)

/-- A buffer after some stores. -/
def BytePtr.build (p : BytePtr) (stores : Stores) : BytePtr :=
  stores.foldl (fun q s => q.write s.1 s.2) p

namespace BytePtr

variable (p : BytePtr)

theorem write_apart {off i : Nat} {bytes : List UInt8} (h : i < off ∨ off + bytes.length ≤ i) :
    p.write off bytes i = p i := by
  unfold write
  rw [if_neg (by omega)]

theorem bytesAt_write (off : Nat) (bytes : List UInt8) :
    bytesAt (p.write off bytes) off bytes.length = bytes := by
  conv_rhs => rw [← bytesAt_ofList bytes]
  refine bytesAt_congr fun i hi => ?_
  unfold write
  rw [if_pos (by omega), Nat.add_sub_cancel_left, Nat.zero_add]
  rfl

@[simp] theorem write_nil (off : Nat) : p.write off [] = p := by
  funext i
  exact p.write_apart (by simp; omega)

/-- Two stores side by side. -/
theorem write_write (off : Nat) (a b : List UInt8) :
    (p.write off a).write (off + a.length) b = p.write off (a ++ b) := by
  funext i
  unfold write
  rw [List.length_append]
  by_cases hb : off + a.length ≤ i ∧ i < off + a.length + b.length
  · rw [if_pos hb, if_pos (by omega), List.getD_append_right _ _ _ _ (by omega)]
    congr 1
    omega
  · rw [if_neg hb]
    by_cases ha : off ≤ i ∧ i < off + a.length
    · rw [if_pos ha, if_pos (by omega), List.getD_append _ _ _ _ (by omega)]
    · rw [if_neg ha, if_neg (by omega)]

/-- The second of two stores side by side, made first. -/
theorem write_write_swap (off : Nat) (a b : List UInt8) :
    (p.write (off + a.length) b).write off a = p.write off (a ++ b) := by
  rw [← write_write]
  funext i
  unfold write
  by_cases ha : off ≤ i ∧ i < off + a.length
  · rw [if_pos ha, if_neg (by omega), if_pos ha]
  · rw [if_neg ha, if_neg ha]

/-- A store over the beginning of another. -/
theorem write_over (off : Nat) {a b : List UInt8} (h : b.length ≤ a.length) :
    (p.write off a).write off b = p.write off (b ++ a.drop b.length) := by
  rw [← write_write]
  conv_lhs => rw [← List.take_append_drop b.length a, ← write_write]
  rw [List.length_take_of_le h]
  funext i
  unfold write
  rw [List.length_take_of_le h]
  by_cases hb : off ≤ i ∧ i < off + b.length
  · rw [if_pos hb, if_neg (by omega), if_pos hb]
  · simp only [if_neg hb]

theorem build_append (stores more : Stores) :
    p.build (stores ++ more) = (p.build stores).build more := by
  unfold build
  rw [List.foldl_append]

end BytePtr

/-- The stores leave `bytes` at `off`, and the rest of the buffer. -/
def Builds (stores : Stores) (off : Nat) (bytes : List UInt8) : Prop :=
  ∀ p : BytePtr, p.build stores = p.write off bytes

namespace Builds

variable {stores more : Stores} {off off' : Nat} {a b : List UInt8}

theorem bytesAt_build (h : Builds stores off a) (p : BytePtr) :
    bytesAt (p.build stores) off a.length = a := by
  rw [h p]
  exact p.bytesAt_write off a

/-- Read past the end of what was built: the rest is what the buffer held. -/
theorem bytesAt_build_add (h : Builds stores off a) (p : BytePtr) (k : Nat) :
    bytesAt (p.build stores) off (a.length + k) = a ++ bytesAt p (off + a.length) k := by
  have hrest : bytesAt (p.build stores) (off + a.length) k = bytesAt p (off + a.length) k := by
    refine bytesAt_congr fun i _ => ?_
    rw [h p]
    exact p.write_apart (by omega)
  rw [bytesAt_add, h.bytesAt_build p, hrest]

theorem of_eq (h : Builds stores off a) (hab : a = b) : Builds stores off b := hab ▸ h

theorem nil (off : Nat) : Builds [] off [] := fun p => (p.write_nil off).symm

theorem single (off : Nat) (bytes : List UInt8) : Builds [(off, bytes)] off bytes := fun _ => rfl

/-- A store over the beginning of another. -/
theorem overwrite (h : b.length ≤ a.length) :
    Builds [(off, a), (off, b)] off (b ++ a.drop b.length) := fun p => p.write_over off h

theorem append (ha : Builds stores off a) (hoff : off' = off + a.length) (hb : Builds more off' b) :
    Builds (stores ++ more) off (a ++ b) := by
  intro p
  subst hoff
  rw [p.build_append, ha p, hb, p.write_write]

/-- The later part is stored first. -/
theorem append_swap (hb : Builds more off' b) (ha : Builds stores off a) (hoff : off' = off + a.length) :
    Builds (more ++ stores) off (a ++ b) := by
  intro p
  subst hoff
  rw [p.build_append, hb p, ha, p.write_write_swap]

theorem cons {bytes : List UInt8} (hoff : off' = off + bytes.length) (h : Builds stores off' b) :
    Builds ((off, bytes) :: stores) off (bytes ++ b) :=
  (single off bytes).append hoff h

end Builds

end Foundation
