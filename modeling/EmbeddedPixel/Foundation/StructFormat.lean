import Mathlib.Data.List.Forall2
import EmbeddedPixel.Foundation.Bytes

/-!
# Packed formats given by a text

Formats in the notation of Python's `struct` module, little-endian: `"<I2H3s"` is a word, two half
words and three bytes.  `parseFormat` reads the text, `packValues` lays values out and `unpack` takes
them out of a buffer of exactly the format's size, `unpackFrom` out of a longer one; `none` stands for
`struct.error`.

`unpack_slice`: what a part of a buffer unpacks to, read in the buffer itself.  `packValues_of_fits`:
packing succeeds when every value is in the range of its field.
-/

set_option autoImplicit false

namespace Foundation

/-- One packed value: the characters `B`, `H`, `I`, `Q` and `i`, and `s` with its length. -/
inductive Field where
  | B
  | H
  | I
  | Q
  | i
  | s (n : Nat)
  deriving DecidableEq, Repr

/-- What a field unpacks to. -/
inductive PyValue where
  | int (n : Nat)
  | negSucc (n : Nat)
  | bytes (l : List UInt8)
  deriving DecidableEq, Repr

/-- A signed number. -/
def PyValue.ofInt : Int → PyValue
  | .ofNat n => .int n
  | .negSucc n => .negSucc n

def Field.width : Field → Nat
  | B => 1
  | H => 2
  | I => 4
  | Q => 8
  | i => 4
  | s n => n

/-- `struct.calcsize`. -/
def calcsize (fields : List Field) : Nat := (fields.map Field.width).sum

/-! ## The text of a format -/

/-- The fields of a format character with the count before it. -/
def fieldsOf (c : Char) (count : Nat) : Option (List Field) :=
  if c = 'B' then some (List.replicate count .B)
  else if c = 'H' then some (List.replicate count .H)
  else if c = 'I' then some (List.replicate count .I)
  else if c = 'Q' then some (List.replicate count .Q)
  else if c = 'i' then some (List.replicate count .i)
  else if c = 's' then some [.s count]
  else none

/-- The fields of a text, `count` being the digits just read; blanks stand between fields only. -/
def parseFields : (count : Option Nat) → List Char → Option (List Field)
  | none, [] => some []
  | some _, [] => none
  | count, c :: cs =>
    if c.isDigit then parseFields (some (10 * count.getD 0 + (c.toNat - 48))) cs
    else if c.isWhitespace ∧ count = none then parseFields none cs
    else do
      let fields ← fieldsOf c (count.getD 1)
      let rest ← parseFields none cs
      pure (fields ++ rest)

/-- A little-endian format. -/
def parseFormat (text : String) : Option (List Field) :=
  match text.toList with
  | '<' :: cs => parseFields none cs
  | _ => none

example : parseFormat "<IH 2B3s" = some [.I, .H, .B, .B, .s 3] := by decide

/-! ## Unpacking -/

/-- The value of a field at `off`. -/
def Field.read (p : BytePtr) (off : Nat) : Field → PyValue
  | B => .int (p off).toNat
  | H => .int (u16At p off).toNat
  | I => .int (u32At p off).toNat
  | Q => .int (u64At p off).toNat
  | i => .ofInt (u32At p off).toInt32.toInt
  | s n => .bytes (bytesAt p off n)

/-- The values of consecutive fields from `off`. -/
def readFields (p : BytePtr) : List Field → (off : Nat) → List PyValue
  | [], _ => []
  | f :: fs, off => f.read p off :: readFields p fs (off + f.width)

/-- `struct.unpack`. -/
def unpack (format : String) (buffer : List UInt8) : Option (List PyValue) := do
  let fields ← parseFormat format
  if buffer.length = calcsize fields then pure (readFields (BytePtr.ofList buffer) fields 0)
  else none

/-- `struct.unpack_from`. -/
def unpackFrom (format : String) (buffer : List UInt8) (offset : Nat) : Option (List PyValue) := do
  let fields ← parseFormat format
  if offset + calcsize fields ≤ buffer.length then
    pure (readFields (BytePtr.ofList buffer) fields offset)
  else none

theorem unpackFrom_of_le {format : String} {fields : List Field} {l : List UInt8} {off : Nat}
    (hformat : parseFormat format = some fields) (h : off + calcsize fields ≤ l.length) :
    unpackFrom format l off = some (readFields (BytePtr.ofList l) fields off) := by
  unfold unpackFrom
  rw [hformat]
  exact if_pos h

theorem Field.read_congr {p q : BytePtr} {i j : Nat} {f : Field}
    (h : ∀ k < f.width, p (i + k) = q (j + k)) : f.read p i = f.read q j := by
  cases f with
  | B =>
      have hbyte : p i = q j := h 0 (by decide)
      rw [read, read, hbyte]
  | H => rw [read, read, u16At_congr h]
  | I => rw [read, read, u32At_congr h]
  | Q => rw [read, read, u64At_congr h]
  | i => rw [read, read, u32At_congr h]
  | s n =>
      have hbytes : bytesAt p i n = bytesAt q j n := bytesAt_congr h
      rw [read, read, hbytes]

theorem readFields_congr {p q : BytePtr} {fields : List Field} {i j : Nat}
    (h : ∀ k < calcsize fields, p (i + k) = q (j + k)) :
    readFields p fields i = readFields q fields j := by
  induction fields generalizing i j with
  | nil => rfl
  | cons f fs ih =>
      have hsize : calcsize (f :: fs) = f.width + calcsize fs := rfl
      rw [readFields, readFields, Field.read_congr fun k hk => h k (by omega), ih]
      intro k hk
      have hnext := h (f.width + k) (by omega)
      rwa [← Nat.add_assoc, ← Nat.add_assoc] at hnext

/-- **A buffer that is cut off** is read where it has the bytes. -/
theorem unpackFrom_take {format : String} {fields : List Field} {l : List UInt8} {k : Nat}
    (hformat : parseFormat format = some fields) (hk : k ≤ l.length) (off : Nat) :
    unpackFrom format (l.take k) off =
      if off + calcsize fields ≤ k then unpackFrom format l off else none := by
  have hlen : (l.take k).length = k := List.length_take_of_le hk
  by_cases hroom : off + calcsize fields ≤ k
  · rw [if_pos hroom, unpackFrom_of_le hformat (by omega), unpackFrom_of_le hformat (by omega)]
    refine congrArg some (readFields_congr fun i hi => ?_)
    simp only [BytePtr.ofList, List.getD_eq_getElem?_getD]
    rw [List.getElem?_take_of_lt (by omega)]
  · rw [if_neg hroom]
    unfold unpackFrom
    rw [hformat]
    exact if_neg (by omega)

/-- Bytes that a field reads as a value, and no others. -/
def Field.Reads (f : Field) (bytes : List UInt8) (v : PyValue) : Prop :=
  bytes.length = f.width ∧ f.read (BytePtr.ofList bytes) 0 = v

theorem Field.reads_B (x : UInt8) : Field.B.Reads [x] (.int x.toNat) := ⟨rfl, rfl⟩

theorem Field.reads_H (x : UInt16) : Field.H.Reads (u16le x) (.int x.toNat) := by
  have hread : u16At (BytePtr.ofList (u16le x)) 0 = x :=
    u16At_ofList_drop (List.append_nil (u16le x)).symm
  refine ⟨rfl, ?_⟩
  rw [read, hread]

theorem Field.reads_s {n : Nat} {l : List UInt8} (h : l.length = n) : (Field.s n).Reads l (.bytes l) := by
  subst h
  exact ⟨rfl, congrArg PyValue.bytes (bytesAt_ofList l)⟩

/-- **Fields laid out one after another** are read one by one. -/
theorem readFields_append {f : Field} {bytes : List UInt8} {v : PyValue} (h : f.Reads bytes v)
    (fs : List Field) (before more : List UInt8) :
    readFields (BytePtr.ofList (before ++ (bytes ++ more))) (f :: fs) before.length =
      v :: readFields (BytePtr.ofList ((before ++ bytes) ++ more)) fs (before ++ bytes).length := by
  obtain ⟨hlen, hread⟩ := h
  have hfirst : f.read (BytePtr.ofList (before ++ (bytes ++ more))) before.length = v := by
    rw [← hread]
    refine Field.read_congr fun k hk => ?_
    have hin : k < bytes.length := hlen ▸ hk
    simp only [BytePtr.ofList, List.getD_eq_getElem?_getD, Nat.zero_add]
    rw [List.getElem?_append_right (Nat.le_add_right _ _), Nat.add_sub_cancel_left,
      List.getElem?_append_left hin]
  rw [readFields, hfirst, List.length_append, hlen, List.append_assoc]

/-- `l[i:j]`. -/
def slice (l : List UInt8) (i j : Nat) : List UInt8 := (l.take j).drop i

theorem slice_slice (l : List UInt8) {i j k : Nat} (h : i + k ≤ j) :
    slice (slice l i j) 0 k = slice l i (i + k) := by
  unfold slice
  rw [List.drop_zero, List.take_drop, List.take_take, Nat.min_eq_left h]

/-- **A part of a buffer** that lies inside it and has the size of the format. -/
theorem unpack_slice {format : String} {fields : List Field} {l : List UInt8} {i j : Nat}
    (hformat : parseFormat format = some fields) (hj : j ≤ l.length)
    (hsize : i + calcsize fields = j) :
    unpack format (slice l i j) = some (readFields (BytePtr.ofList l) fields i) := by
  have hlen : (slice l i j).length = calcsize fields := by
    unfold slice
    rw [List.length_drop, List.length_take, Nat.min_eq_left hj]
    omega
  unfold unpack
  rw [hformat]
  dsimp only [Option.bind_eq_bind, Option.bind_some]
  rw [if_pos hlen]
  refine congrArg some (readFields_congr fun k hk => ?_)
  simp only [slice, BytePtr.ofList, Nat.zero_add, List.getD_eq_getElem?_getD, List.getElem?_drop]
  rw [List.getElem?_take_of_lt (by omega)]

/-! ## Packing -/

/-- The bytes of a value; a number out of range is refused, bytes are cut or padded. -/
def Field.pack : Field → PyValue → Option (List UInt8)
  | B, .int n => if n < 2 ^ 8 then some [UInt8.ofNat n] else none
  | H, .int n => if n < 2 ^ 16 then some (u16le (UInt16.ofNat n)) else none
  | I, .int n => if n < 2 ^ 32 then some (u32le (UInt32.ofNat n)) else none
  | Q, .int n => if n < 2 ^ 64 then some (u64le (UInt64.ofNat n)) else none
  | i, .int n => if n < 2 ^ 31 then some (u32le (UInt32.ofNat n)) else none
  | i, .negSucc n => if n < 2 ^ 31 then some (u32le (UInt32.ofNat (2 ^ 32 - 1 - n))) else none
  | s n, .bytes l => some (l.take n ++ List.replicate (n - l.length) 0)
  | _, _ => none

def packFields : List Field → List PyValue → Option (List UInt8)
  | [], [] => some []
  | f :: fs, v :: vs => do
    let bytes ← f.pack v
    let rest ← packFields fs vs
    pure (bytes ++ rest)
  | _, _ => none

/-- `struct.pack`. -/
def packValues (format : String) (values : List PyValue) : Option (List UInt8) := do
  let fields ← parseFormat format
  packFields fields values

/-- A number in a half word. -/
theorem Field.pack_H_ofInt (n : Int) :
    Field.H.pack (.ofInt n) =
      if 0 ≤ n ∧ n < 65536 then some (u16le (UInt16.ofNat n.toNat)) else none := by
  cases n with
  | ofNat k =>
      show (if k < 2 ^ 16 then _ else _) = _
      by_cases hk : k < 2 ^ 16
      · rw [if_pos hk, if_pos ⟨Int.natCast_nonneg k, Int.ofNat_lt.2 hk⟩]
        rfl
      · rw [if_neg hk, if_neg fun h => hk (Int.ofNat_lt.1 h.2)]
  | negSucc k =>
      rw [if_neg fun h => Int.not_le.2 (Int.negSucc_lt_zero k) h.1]
      rfl

theorem packFields_cons {f : Field} {v : PyValue} {bytes : List UInt8} (h : f.pack v = some bytes)
    (fs : List Field) (vs : List PyValue) :
    packFields (f :: fs) (v :: vs) = (packFields fs vs).map (bytes ++ ·) := by
  rw [packFields, h]
  cases packFields fs vs with
  | none => rfl
  | some rest => rfl

/-- One value that is out of range makes the whole call fail. -/
theorem packFields_eq_none {fields : List Field} {values : List PyValue} {f : Field} {v : PyValue}
    (hmem : (f, v) ∈ fields.zip values) (h : f.pack v = none) : packFields fields values = none := by
  induction fields generalizing values with
  | nil => cases hmem
  | cons f' fs ih =>
      cases values with
      | nil => cases hmem
      | cons v' vs =>
          rw [packFields]
          rcases List.mem_cons.1 hmem with heq | hmem
          · obtain ⟨rfl, rfl⟩ := Prod.mk.inj heq
            rw [h]
            rfl
          · rw [ih hmem]
            cases f'.pack v' with
            | none => rfl
            | some bytes => rfl

/-- A value that a field has room for. -/
def Field.Fits : Field → PyValue → Prop
  | B, .int n => n < 2 ^ 8
  | H, .int n => n < 2 ^ 16
  | I, .int n => n < 2 ^ 32
  | Q, .int n => n < 2 ^ 64
  | i, .int n => n < 2 ^ 31
  | i, .negSucc n => n < 2 ^ 31
  | s _, .bytes _ => True
  | _, _ => False

theorem Field.pack_of_fits {f : Field} {v : PyValue} (h : f.Fits v) :
    ∃ bytes, f.pack v = some bytes ∧ bytes.length = f.width := by
  cases f with
  | B =>
      cases v with
      | int n => exact ⟨_, if_pos h, rfl⟩
      | _ => exact h.elim
  | H =>
      cases v with
      | int n => exact ⟨_, if_pos h, rfl⟩
      | _ => exact h.elim
  | I =>
      cases v with
      | int n => exact ⟨_, if_pos h, rfl⟩
      | _ => exact h.elim
  | Q =>
      cases v with
      | int n => exact ⟨_, if_pos h, rfl⟩
      | _ => exact h.elim
  | i =>
      cases v with
      | int n => exact ⟨_, if_pos h, rfl⟩
      | negSucc n => exact ⟨_, if_pos h, rfl⟩
      | bytes l => exact h.elim
  | s n =>
      cases v with
      | bytes l =>
          refine ⟨_, rfl, ?_⟩
          rw [List.length_append, List.length_take, List.length_replicate]
          show min n l.length + (n - l.length) = n
          omega
      | _ => exact h.elim

/-- **Values that fit are packed** into as many bytes as the format says. -/
theorem packValues_of_fits {format : String} {fields : List Field} {values : List PyValue}
    (hformat : parseFormat format = some fields) (h : List.Forall₂ Field.Fits fields values) :
    ∃ bytes, packValues format values = some bytes ∧ bytes.length = calcsize fields := by
  have hpack : ∃ bytes, packFields fields values = some bytes ∧ bytes.length = calcsize fields := by
    clear hformat
    induction h with
    | nil => exact ⟨[], rfl, rfl⟩
    | cons hv _ ih =>
        obtain ⟨bytes, hbytes, hwidth⟩ := Field.pack_of_fits hv
        obtain ⟨rest, hrest, hsize⟩ := ih
        refine ⟨bytes ++ rest, ?_, ?_⟩
        · simp only [packFields, hbytes, hrest]
          rfl
        · rw [List.length_append, hwidth, hsize]
          rfl
  unfold packValues
  rw [hformat]
  exact hpack

end Foundation
