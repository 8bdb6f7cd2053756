import Mathlib.Data.BitVec
import Mathlib.Tactic.Ring
import EmbeddedPixel.Foundation.Bytes

/-!
# Byte memory with wrapping addresses

A memory of address width `w` maps every address to a byte; address arithmetic wraps, as a
pointer of that width does.  `Mem.ptr m a` is the pointer to address `a`, and `Mem.store m a n src`
copies `n` bytes from `src` to `a` (`memcpy`, and `memset` with a constant source).

`ptr_store_within` says what a store at an offset inside a region leaves at every index of the
region; `Apart` is the separation of two regions, and `bytesAt_store_apart` its frame rule.
-/

set_option autoImplicit false

namespace Foundation

variable {w : Nat}

/-- Memory with addresses of width `w`. -/
abbrev Mem (w : Nat) := BitVec w → UInt8

namespace Mem

/-- The pointer to address `a`. -/
def ptr (m : Mem w) (a : BitVec w) : BytePtr := fun i => m (a + BitVec.ofNat w i)

/-- `memcpy`: `n` bytes of `src` to address `a`. -/
def store (m : Mem w) (a : BitVec w) (n : Nat) (src : BytePtr) : Mem w :=
  fun x => if (x - a).toNat < n then src (x - a).toNat else m x

/-- The `n` bytes from address `a`. -/
def read (m : Mem w) (a : BitVec w) (n : Nat) : List UInt8 := bytesAt (m.ptr a) 0 n

@[simp] theorem length_read (m : Mem w) (a : BitVec w) (n : Nat) : (m.read a n).length = n := by
  simp [read]

/-- A store at offset `off` of a region, seen from the start of the region. -/
theorem ptr_store_within (m : Mem w) (a : BitVec w) {off n j : Nat} (src : BytePtr)
    (hn : off + n ≤ 2 ^ w) (hj : j < 2 ^ w) :
    (m.store (a + BitVec.ofNat w off) n src).ptr a j =
      if off ≤ j ∧ j < off + n then src (j - off) else m.ptr a j := by
  have hsub : a + BitVec.ofNat w j - (a + BitVec.ofNat w off) =
      BitVec.ofNat w j - BitVec.ofNat w off := by ring
  show (if (a + BitVec.ofNat w j - (a + BitVec.ofNat w off)).toNat < n then
      src (a + BitVec.ofNat w j - (a + BitVec.ofNat w off)).toNat else m (a + BitVec.ofNat w j)) = _
  rw [hsub]
  by_cases hoff : off < 2 ^ w
  · by_cases hle : off ≤ j
    · have hd : (BitVec.ofNat w j - BitVec.ofNat w off).toNat = j - off := by
        rw [BitVec.toNat_sub, BitVec.toNat_ofNat, BitVec.toNat_ofNat, Nat.mod_eq_of_lt hj,
          Nat.mod_eq_of_lt hoff, show 2 ^ w - off + j = (j - off) + 2 ^ w by omega,
          Nat.add_mod_right, Nat.mod_eq_of_lt (by omega)]
      rw [hd]
      by_cases hlt : j - off < n
      · rw [if_pos hlt, if_pos ⟨hle, by omega⟩]
      · rw [if_neg hlt, if_neg (by omega)]
        rfl
    · have hd : (BitVec.ofNat w j - BitVec.ofNat w off).toNat = 2 ^ w - off + j := by
        rw [BitVec.toNat_sub, BitVec.toNat_ofNat, BitVec.toNat_ofNat, Nat.mod_eq_of_lt hj,
          Nat.mod_eq_of_lt hoff, Nat.mod_eq_of_lt (by omega)]
      rw [hd, if_neg (by omega), if_neg (by omega)]
      rfl
  · -- an empty store past the whole address space
    have hn0 : n = 0 := by omega
    subst hn0
    rw [if_neg (by omega), if_neg (by omega)]
    rfl

theorem ptr_store_self (m : Mem w) (a : BitVec w) {n j : Nat} (src : BytePtr)
    (hn : n ≤ 2 ^ w) (hj : j < n) : (m.store a n src).ptr a j = src j := by
  have h : (m.store (a + BitVec.ofNat w 0) n src).ptr a j = _ :=
    ptr_store_within m a src (by omega) (by omega)
  simpa [hj] using h

theorem read_store_self (m : Mem w) (a : BitVec w) {n : Nat} (src : BytePtr) (hn : n ≤ 2 ^ w) :
    (m.store a n src).read a n = bytesAt src 0 n :=
  bytesAt_congr fun k hk => by simpa using ptr_store_self m a src hn hk

/-! ## Separation -/

/-- The regions of `n` bytes at `a` and of `k` bytes at `b` share no address. -/
def Apart (a : BitVec w) (n : Nat) (b : BitVec w) (k : Nat) : Prop :=
  ∀ i < n, ∀ j < k, a + BitVec.ofNat w i ≠ b + BitVec.ofNat w j

theorem Apart.symm {a b : BitVec w} {n k : Nat} (h : Apart a n b k) : Apart b k a n :=
  fun i hi j hj e => h j hj i hi e.symm

theorem Apart.mono {a b : BitVec w} {n k n' k' : Nat} (h : Apart a n b k) (hn : n' ≤ n)
    (hk : k' ≤ k) : Apart a n' b k' :=
  fun i hi j hj => h i (by omega) j (by omega)

/-- A region inside a region that is apart. -/
theorem Apart.within {a b : BitVec w} {n k off n' : Nat} (h : Apart a n b k)
    (hoff : off + n' ≤ n) : Apart (a + BitVec.ofNat w off) n' b k := by
  intro i hi j hj
  rw [BitVec.add_assoc, ← BitVec.ofNat_add]
  exact h (off + i) (by omega) j hj

/-- Regions that end before the address space does are apart when one ends before the other
begins. -/
theorem Apart.of_le {a b : BitVec w} {n k : Nat} (ha : a.toNat + n ≤ 2 ^ w)
    (hb : b.toNat + k ≤ 2 ^ w) (h : a.toNat + n ≤ b.toNat ∨ b.toNat + k ≤ a.toNat) :
    Apart a n b k := by
  intro i hi j hj e
  have e' := congrArg BitVec.toNat e
  simp only [BitVec.toNat_add, BitVec.toNat_ofNat, Nat.add_mod_mod] at e'
  rw [Nat.mod_eq_of_lt (by omega), Nat.mod_eq_of_lt (by omega)] at e'
  omega

theorem ptr_store_apart (m : Mem w) {a b : BitVec w} {n k j : Nat} (src : BytePtr)
    (h : Apart a n b k) (hj : j < k) : (m.store a n src).ptr b j = m.ptr b j := by
  show (if (b + BitVec.ofNat w j - a).toNat < n then _ else _) = m (b + BitVec.ofNat w j)
  refine if_neg fun hlt => h _ hlt j hj ?_
  rw [BitVec.ofNat_toNat, BitVec.setWidth_eq]
  ring

/-- An address that is apart keeps its byte. -/
theorem store_apart (m : Mem w) {a x : BitVec w} {n : Nat} (src : BytePtr) (h : Apart a n x 1) :
    m.store a n src x = m x := by
  have hx := ptr_store_apart m src h Nat.one_pos
  simp only [ptr, BitVec.add_zero] at hx
  exact hx

/-- An address at a distance of less than `n` lies in the region of `n` bytes. -/
theorem not_apart_of_sub_lt {a x : BitVec w} {n : Nat} (h : (x - a).toNat < n) : ¬ Apart a n x 1 := by
  intro hapart
  refine hapart _ h 0 Nat.one_pos ?_
  rw [BitVec.ofNat_toNat, BitVec.setWidth_eq, BitVec.add_comm, BitVec.sub_add_cancel]
  exact (BitVec.add_zero x).symm

/-- **Frame rule**: a store leaves every region apart from it as it was. -/
theorem bytesAt_store_apart (m : Mem w) {a b : BitVec w} {n k i l : Nat} (src : BytePtr)
    (h : Apart a n b k) (hl : i + l ≤ k) :
    bytesAt ((m.store a n src).ptr b) i l = bytesAt (m.ptr b) i l :=
  bytesAt_congr fun _ _ => ptr_store_apart m src h (by omega)

theorem read_store_apart (m : Mem w) {a b : BitVec w} {n k : Nat} (src : BytePtr)
    (h : Apart a n b k) : (m.store a n src).read b k = m.read b k :=
  bytesAt_store_apart m src h (by omega)

/-- The bytes of a region decide what is read from it. -/
theorem ptr_eq_of_read {m m' : Mem w} {a : BitVec w} {n : Nat} (h : m.read a n = m'.read a n) :
    ∀ i < n, m.ptr a i = m'.ptr a i := by
  intro i hi
  simpa using bytesAt_eq_iff.1 h i hi

theorem read_mono {m m' : Mem w} {a : BitVec w} {n k : Nat} (h : m.read a n = m'.read a n)
    (hk : k ≤ n) : m.read a k = m'.read a k := by
  have hb := bytesAt_eq_iff.1 h
  exact bytesAt_congr fun i hi => hb i (by omega)

end Mem

end Foundation
