import Mathlib.Data.List.Basic
import Mathlib.Tactic.Common
import Mathlib.Tactic.Ring

/-!
# Bytes behind a pointer, and little-endian words

A `BytePtr` is what a C program sees behind a `const uint8_t *`: the byte at every index, with
no length attached.  `bytesAt p i n` are the `n` bytes from index `i`; `u16At`, `u32At` read a
little-endian word there, and `u16le`, `u32le` are the bytes of a word; `u64At` and `u64le` are two of
them, the low one first.

`u32At_of_words` reads a word back out of any region that consecutive words (`wordsLe`) were laid
out in.
-/

set_option autoImplicit false

namespace Foundation

/-- The bytes behind a pointer, by index. -/
abbrev BytePtr := Nat → UInt8

/-- The bytes of a list, zero past its end. -/
def BytePtr.ofList (l : List UInt8) : BytePtr := fun i => l.getD i 0

/-- Pointer arithmetic: `p + n`. -/
def BytePtr.advance (p : BytePtr) (n : Nat) : BytePtr := fun i => p (n + i)

@[simp] theorem BytePtr.advance_apply (p : BytePtr) (n i : Nat) : p.advance n i = p (n + i) := rfl

/-- The `n` bytes of `p` from index `i`. -/
def bytesAt (p : BytePtr) (i n : Nat) : List UInt8 := (List.range n).map (fun k => p (i + k))

@[simp] theorem length_bytesAt (p : BytePtr) (i n : Nat) : (bytesAt p i n).length = n := by
  simp [bytesAt]

@[simp] theorem bytesAt_zero (p : BytePtr) (i : Nat) : bytesAt p i 0 = [] := rfl

theorem getElem_bytesAt (p : BytePtr) (i n k : Nat) (h : k < (bytesAt p i n).length) :
    (bytesAt p i n)[k] = p (i + k) := by
  simp [bytesAt]

theorem bytesAt_congr {p q : BytePtr} {i j n : Nat} (h : ∀ k < n, p (i + k) = q (j + k)) :
    bytesAt p i n = bytesAt q j n := by
  unfold bytesAt
  exact List.map_congr_left fun k hk => h k (List.mem_range.1 hk)

theorem bytesAt_eq_iff {p q : BytePtr} {i j n : Nat} :
    bytesAt p i n = bytesAt q j n ↔ ∀ k < n, p (i + k) = q (j + k) := by
  refine ⟨fun h k hk => ?_, bytesAt_congr⟩
  have e := congrArg (fun l : List UInt8 => l[k]?) h
  simpa [bytesAt, hk] using e

theorem bytesAt_add (p : BytePtr) (i n m : Nat) :
    bytesAt p i (n + m) = bytesAt p i n ++ bytesAt p (i + n) m := by
  unfold bytesAt
  rw [List.range_add, List.map_append, List.map_map]
  congr 1
  exact List.map_congr_left fun k _ => by simp [Nat.add_assoc]

@[simp] theorem bytesAt_advance (p : BytePtr) (n i m : Nat) :
    bytesAt (p.advance n) i m = bytesAt p (n + i) m :=
  bytesAt_congr fun k _ => by simp [Nat.add_assoc]

theorem bytesAt_ofList (l : List UInt8) : bytesAt (BytePtr.ofList l) 0 l.length = l := by
  apply List.ext_getElem (by simp)
  intro k h₁ h₂
  simp [getElem_bytesAt, BytePtr.ofList, h₂]

theorem ofList_drop (l : List UInt8) (n : Nat) :
    BytePtr.ofList (l.drop n) = (BytePtr.ofList l).advance n := by
  funext i
  simp [BytePtr.ofList, List.getD_eq_getElem?_getD]

/-- The first bytes of a list. -/
theorem bytesAt_ofList_take {l : List UInt8} {n : Nat} (h : n ≤ l.length) :
    bytesAt (BytePtr.ofList l) 0 n = l.take n := by
  apply List.ext_getElem
  · rw [length_bytesAt, List.length_take, Nat.min_eq_left h]
  intro k h₁ h₂
  have hk : k < l.length := by
    rw [List.length_take] at h₂
    omega
  simp [getElem_bytesAt, BytePtr.ofList, hk]

/-! ## Little-endian words -/

/-- The little-endian half word at index `i`. -/
def u16At (p : BytePtr) (i : Nat) : UInt16 :=
  UInt16.ofNat ((p i).toNat + 256 * (p (i + 1)).toNat)

/-- The little-endian word at index `i`. -/
def u32At (p : BytePtr) (i : Nat) : UInt32 :=
  UInt32.ofNat ((p i).toNat + 256 * (p (i + 1)).toNat + 65536 * (p (i + 2)).toNat +
    16777216 * (p (i + 3)).toNat)

/-- The bytes of a half word, least significant first. -/
def u16le (x : UInt16) : List UInt8 := [UInt8.ofNat x.toNat, UInt8.ofNat (x.toNat / 256)]

/-- The bytes of a word, least significant first. -/
def u32le (x : UInt32) : List UInt8 :=
  [UInt8.ofNat x.toNat, UInt8.ofNat (x.toNat / 256), UInt8.ofNat (x.toNat / 65536),
    UInt8.ofNat (x.toNat / 16777216)]

@[simp] theorem length_u16le (x : UInt16) : (u16le x).length = 2 := rfl

@[simp] theorem length_u32le (x : UInt32) : (u32le x).length = 4 := rfl

theorem u16At_congr {p q : BytePtr} {i j : Nat} (h : ∀ k < 2, p (i + k) = q (j + k)) :
    u16At p i = u16At q j := by
  have h0 : p i = q j := h 0 (by decide)
  have h1 : p (i + 1) = q (j + 1) := h 1 (by decide)
  simp only [u16At, h0, h1]

theorem u32At_congr {p q : BytePtr} {i j : Nat} (h : ∀ k < 4, p (i + k) = q (j + k)) :
    u32At p i = u32At q j := by
  have h0 : p i = q j := h 0 (by decide)
  have h1 : p (i + 1) = q (j + 1) := h 1 (by decide)
  have h2 : p (i + 2) = q (j + 2) := h 2 (by decide)
  have h3 : p (i + 3) = q (j + 3) := h 3 (by decide)
  simp only [u32At, h0, h1, h2, h3]

@[simp] theorem u16At_advance (p : BytePtr) (n i : Nat) :
    u16At (p.advance n) i = u16At p (n + i) :=
  u16At_congr fun k _ => by simp [Nat.add_assoc]

@[simp] theorem u32At_advance (p : BytePtr) (n i : Nat) :
    u32At (p.advance n) i = u32At p (n + i) :=
  u32At_congr fun k _ => by simp [Nat.add_assoc]

/-! ### Fields of a copied block -/

theorem ofList_bytesAt (p : BytePtr) {off n i : Nat} (h : i < n) :
    BytePtr.ofList (bytesAt p off n) i = p (off + i) := by
  simp [BytePtr.ofList, bytesAt, h]

theorem u16At_ofList_bytesAt (p : BytePtr) {off n i : Nat} (h : i + 2 ≤ n) :
    u16At (BytePtr.ofList (bytesAt p off n)) i = u16At p (off + i) :=
  u16At_congr fun k hk => by rw [ofList_bytesAt p (by omega), Nat.add_assoc]

theorem u32At_ofList_bytesAt (p : BytePtr) {off n i : Nat} (h : i + 4 ≤ n) :
    u32At (BytePtr.ofList (bytesAt p off n)) i = u32At p (off + i) :=
  u32At_congr fun k hk => by rw [ofList_bytesAt p (by omega), Nat.add_assoc]

theorem u16At_of_bytes {p : BytePtr} {i : Nat} {x : UInt16} (h : bytesAt p i 2 = u16le x) :
    u16At p i = x := by
  have hx := x.toNat_lt
  simp only [bytesAt, u16le, List.range_succ, List.range_zero, List.nil_append, List.cons_append,
    List.map_cons, List.map_nil, List.cons.injEq, and_true, Nat.add_zero] at h
  obtain ⟨h0, h1⟩ := h
  apply UInt16.toNat_inj.1
  simp only [u16At, h0, h1, UInt16.toNat_ofNat', UInt8.toNat_ofNat']
  omega

theorem u32At_of_bytes {p : BytePtr} {i : Nat} {x : UInt32} (h : bytesAt p i 4 = u32le x) :
    u32At p i = x := by
  have hx := x.toNat_lt
  simp only [bytesAt, u32le, List.range_succ, List.range_zero, List.nil_append, List.cons_append,
    List.map_cons, List.map_nil, List.cons.injEq, and_true, Nat.add_zero] at h
  obtain ⟨h0, h1, h2, h3⟩ := h
  apply UInt32.toNat_inj.1
  simp only [u32At, h0, h1, h2, h3, UInt32.toNat_ofNat', UInt8.toNat_ofNat']
  omega

/-- A half word has the bytes it was read from. -/
theorem u16le_u16At (p : BytePtr) (i : Nat) : u16le (u16At p i) = bytesAt p i 2 := by
  have h0 := (p i).toNat_lt
  have h1 := (p (i + 1)).toNat_lt
  have hx : (u16At p i).toNat = (p i).toNat + 256 * (p (i + 1)).toNat := by
    unfold u16At
    rw [UInt16.toNat_ofNat']
    omega
  have hbytes : bytesAt p i 2 = [p i, p (i + 1)] := rfl
  unfold u16le
  rw [hbytes, hx, List.cons.injEq, List.cons.injEq, ← UInt8.toNat_inj, ← UInt8.toNat_inj,
    UInt8.toNat_ofNat', UInt8.toNat_ofNat']
  refine ⟨?_, ?_, rfl⟩
  · omega
  · omega

/-- A word has the bytes it was read from. -/
theorem u32le_u32At (p : BytePtr) (i : Nat) : u32le (u32At p i) = bytesAt p i 4 := by
  have h0 := (p i).toNat_lt
  have h1 := (p (i + 1)).toNat_lt
  have h2 := (p (i + 2)).toNat_lt
  have h3 := (p (i + 3)).toNat_lt
  have hx : (u32At p i).toNat = (p i).toNat + 256 * (p (i + 1)).toNat + 65536 * (p (i + 2)).toNat +
      16777216 * (p (i + 3)).toNat := by
    unfold u32At
    rw [UInt32.toNat_ofNat']
    omega
  have hbytes : bytesAt p i 4 = [p i, p (i + 1), p (i + 2), p (i + 3)] := rfl
  unfold u32le
  simp only [hbytes, hx, List.cons.injEq, and_true, ← UInt8.toNat_inj, UInt8.toNat_ofNat']
  omega

/-- A half word in a list, given where it stands. -/
theorem u16At_ofList_drop {l rest : List UInt8} {i : Nat} {x : UInt16}
    (h : l.drop i = u16le x ++ rest) : u16At (BytePtr.ofList l) i = x := by
  have hread := u16At_advance (BytePtr.ofList l) i 0
  rw [← ofList_drop, h] at hread
  exact hread.symm.trans (u16At_of_bytes rfl)

/-- A word in a list, given where it stands. -/
theorem u32At_ofList_drop {l rest : List UInt8} {i : Nat} {x : UInt32}
    (h : l.drop i = u32le x ++ rest) : u32At (BytePtr.ofList l) i = x := by
  have hread := u32At_advance (BytePtr.ofList l) i 0
  rw [← ofList_drop, h] at hread
  exact hread.symm.trans (u32At_of_bytes rfl)

/-- The little-endian double word at index `i`. -/
def u64At (p : BytePtr) (i : Nat) : UInt64 :=
  UInt64.ofNat ((u32At p i).toNat + 2 ^ 32 * (u32At p (i + 4)).toNat)

/-- The bytes of a double word, least significant first. -/
def u64le (x : UInt64) : List UInt8 :=
  u32le (UInt32.ofNat x.toNat) ++ u32le (UInt32.ofNat (x.toNat / 2 ^ 32))

@[simp] theorem length_u64le (x : UInt64) : (u64le x).length = 8 := rfl

theorem u64At_congr {p q : BytePtr} {i j : Nat} (h : ∀ k < 8, p (i + k) = q (j + k)) :
    u64At p i = u64At q j := by
  have hlow : u32At p i = u32At q j := u32At_congr fun k hk => h k (by omega)
  have hhigh : u32At p (i + 4) = u32At q (j + 4) := u32At_congr fun k hk => by
    rw [Nat.add_assoc, Nat.add_assoc]
    exact h (4 + k) (by omega)
  rw [u64At, u64At, hlow, hhigh]

/-- A double word in a list, given where it stands. -/
theorem u64At_ofList_drop {l rest : List UInt8} {i : Nat} {x : UInt64}
    (h : l.drop i = u64le x ++ rest) : u64At (BytePtr.ofList l) i = x := by
  have hx := x.toNat_lt
  rw [u64le, List.append_assoc] at h
  have hlow := u32At_ofList_drop h
  have hrest : l.drop (i + 4) = u32le (UInt32.ofNat (x.toNat / 2 ^ 32)) ++ rest := by
    rw [← List.drop_drop, h]
    rfl
  have hhigh := u32At_ofList_drop hrest
  apply UInt64.toNat_inj.1
  rw [u64At, hlow, hhigh, UInt64.toNat_ofNat', UInt32.toNat_ofNat', UInt32.toNat_ofNat']
  omega

/-- Clearing the low `n` bits of a word. -/
theorem toNat_and_mask {m : UInt32} {n : Nat} (hm : m.toBitVec = BitVec.allOnes 32 <<< n)
    (x : UInt32) : (x &&& m).toNat = x.toNat / 2 ^ n * 2 ^ n := by
  have hle : x.toNat / 2 ^ n * 2 ^ n ≤ x.toNat := Nat.div_mul_le_self _ _
  have hx := x.toNat_lt
  show (x.toBitVec &&& m.toBitVec).toNat = _
  rw [hm, ← BitVec.shiftLeft_ushiftRight, BitVec.toNat_shiftLeft, BitVec.toNat_ushiftRight,
    Nat.shiftLeft_eq, Nat.shiftRight_eq_div_pow]
  exact Nat.mod_eq_of_lt (Nat.lt_of_le_of_lt hle hx)

/-- The bytes of consecutive words. -/
def wordsLe (ws : List UInt32) : List UInt8 := ws.flatMap u32le

@[simp] theorem length_wordsLe (ws : List UInt32) : (wordsLe ws).length = 4 * ws.length := by
  induction ws with
  | nil => rfl
  | cons x ws ih =>
      have hx : wordsLe (x :: ws) = u32le x ++ wordsLe ws := rfl
      rw [hx, List.length_append, ih, length_u32le, List.length_cons]
      omega

/-- Consecutive words read back. -/
theorem u32At_of_words {p : BytePtr} {ws : List UInt32} {i : Nat}
    (h : bytesAt p i (4 * ws.length) = wordsLe ws) (k : Nat) (hk : k < ws.length) :
    u32At p (i + 4 * k) = ws[k] := by
  induction ws generalizing i k with
  | nil => simp at hk
  | cons x ws ih =>
      have hlen : 4 * (x :: ws).length = 4 + 4 * ws.length := by
        rw [List.length_cons]
        omega
      have hx : wordsLe (x :: ws) = u32le x ++ wordsLe ws := rfl
      rw [hlen, bytesAt_add, hx] at h
      obtain ⟨h₁, h₂⟩ := List.append_inj h (by simp)
      cases k with
      | zero => exact u32At_of_bytes h₁
      | succ k =>
          have hk' := ih h₂ k (by simpa using hk)
          rw [show i + 4 * (k + 1) = i + 4 + 4 * k by omega]
          exact hk'

end Foundation
