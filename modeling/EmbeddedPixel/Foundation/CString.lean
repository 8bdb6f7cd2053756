import Mathlib.Data.List.Basic
import Mathlib.Data.List.TakeWhile
import Mathlib.Tactic.Common
import Mathlib.Tactic.Ring

/-!
# C strings

A C string is the list of its bytes before the terminating NUL.  `cstr` takes it out of a buffer;
`strtok` is one call of `strtok_r` on what the previous call left; `atoi` is `strtol` in base ten
with a 32-bit `long`; `snprintf` is the truncation `snprintf` makes, and `decimal`, `signed` and
`hexUpper` are the conversions `%u`, `%d` and `%0nX`.
-/

set_option autoImplicit false

namespace Foundation

/-- The bytes of an ASCII literal. -/
def ascii (s : String) : List UInt8 := s.toList.map fun c => UInt8.ofNat c.toNat

/-- The string a buffer holds. -/
def cstr (l : List UInt8) : List UInt8 := l.takeWhile (· != 0)

/-- What `snprintf(out, maxLen, ...)` leaves in `out`. -/
def snprintf (maxLen : Nat) (text : List UInt8) : List UInt8 := text.take (maxLen - 1)

/-- `%u`, `%lu`. -/
def decimal (n : Nat) : List UInt8 := (Nat.toDigits 10 n).map fun c => UInt8.ofNat c.toNat

/-- `%d`. -/
def signed (i : Int) : List UInt8 :=
  if i < 0 then ascii "-" ++ decimal i.natAbs else decimal i.natAbs

/-- `%0nX`. -/
def hexUpper (n x : Nat) : List UInt8 :=
  let digits := (Nat.toDigits 16 x).map fun c => UInt8.ofNat c.toUpper.toNat
  List.replicate (n - digits.length) 48 ++ digits

/-- `strtok_r` with a single delimiter: the next token and what is left after it. -/
def strtok (delim : UInt8) (s : List UInt8) : Option (List UInt8 × List UInt8) :=
  match s.dropWhile (· == delim) with
  | [] => none
  | c :: cs => some ((c :: cs).takeWhile (· != delim), ((c :: cs).dropWhile (· != delim)).drop 1)

def isSpace (c : UInt8) : Bool := c == 32 || (9 ≤ c && c ≤ 13)

def isDigit (c : UInt8) : Bool := 48 ≤ c && c ≤ 57

/-- The value of the digits a string begins with. -/
def digitsValue (s : List UInt8) : Nat :=
  (s.takeWhile isDigit).foldl (fun v c => 10 * v + (c.toNat - 48)) 0

/-- `atoi`, saturating as `strtol` does. -/
def atoi (s : List UInt8) : Int :=
  match s.dropWhile isSpace with
  | [] => 0
  | c :: cs =>
    if c == 45 then max (-(digitsValue cs : Int)) (-2147483648)
    else if c == 43 then min (digitsValue cs : Int) 2147483647
    else min (digitsValue (c :: cs) : Int) 2147483647

example : atoi (ascii " -12x") = -12 := by decide

/-! ## Words -/

/-- The token of a string that begins with a word, up to a delimiter or the end. -/
theorem strtok_cut {delim : UInt8} {word rest : List UInt8} (hne : word ≠ [])
    (h : ∀ c ∈ word, c ≠ delim) (hrest : ∀ c ∈ rest.head?, c = delim) :
    strtok delim (word ++ rest) = some (word, rest.drop 1) := by
  cases word with
  | nil => exact absurd rfl hne
  | cons c cs =>
      have hc : c ≠ delim := h c (List.mem_cons_self ..)
      have hall : ∀ x ∈ c :: cs, (x != delim) = true := fun x hx => by simpa using h x hx
      unfold strtok
      rw [List.cons_append, List.dropWhile_cons_of_neg (by simpa using hc)]
      dsimp only
      rw [← List.cons_append, List.takeWhile_append_of_pos hall, List.dropWhile_append_of_pos hall]
      cases rest with
      | nil => simp
      | cons d rest =>
          have hd : d = delim := hrest d rfl
          simp [hd]

/-- The token of a string that begins with a word and a delimiter. -/
theorem strtok_append {delim : UInt8} {word : List UInt8} (hne : word ≠ [])
    (h : ∀ c ∈ word, c ≠ delim) (rest : List UInt8) :
    strtok delim (word ++ delim :: rest) = some (word, rest) :=
  strtok_cut hne h (by simp)

/-- The token of a word. -/
theorem strtok_word {delim : UInt8} {word : List UInt8} (hne : word ≠ [])
    (h : ∀ c ∈ word, c ≠ delim) : strtok delim word = some (word, []) := by
  have hend : ∀ c ∈ ([] : List UInt8).head?, c = delim := by simp
  have htoken := strtok_cut hne h hend
  rw [List.append_nil] at htoken
  exact htoken

/-! ## Numerals -/

theorem decimal_ne_nil (n : Nat) : decimal n ≠ [] := by
  simp [decimal, Nat.toDigits_ne_nil]

theorem length_decimal_le {n k : Nat} (hk : 0 < k) (h : n < 10 ^ k) : (decimal n).length ≤ k := by
  rw [decimal, List.length_map]
  exact (Nat.length_toDigits_le_iff (by decide) hk).2 h

/-- A digit as a byte has the digit's code. -/
theorem toNat_digit {n : Nat} {c : Char} (h : c ∈ Nat.toDigits 10 n) :
    (UInt8.ofNat c.toNat).toNat = c.toNat ∧ 48 ≤ c.toNat ∧ c.toNat ≤ 57 := by
  have hdigit := Nat.isDigit_of_mem_toDigits (by decide) (by decide) h
  unfold Char.isDigit at hdigit
  simp only [Bool.and_eq_true, decide_eq_true_eq] at hdigit
  have hlow : 48 ≤ c.toNat := hdigit.1
  have hhigh : c.toNat ≤ 57 := hdigit.2
  refine ⟨?_, hlow, hhigh⟩
  rw [UInt8.toNat_ofNat']
  omega

theorem isDigit_of_mem_decimal {n : Nat} {c : UInt8} (h : c ∈ decimal n) : isDigit c = true := by
  obtain ⟨d, hd, rfl⟩ := List.mem_map.1 h
  obtain ⟨hcode, hlow, hhigh⟩ := toNat_digit hd
  simp only [isDigit, Bool.and_eq_true, decide_eq_true_eq, UInt8.le_iff_toNat_le, hcode]
  exact ⟨hlow, hhigh⟩

theorem digitsValue_decimal (n : Nat) : digitsValue (decimal n) = n := by
  unfold digitsValue
  rw [List.takeWhile_eq_self_iff.2 fun _ => isDigit_of_mem_decimal, decimal, List.foldl_map]
  calc
    _ = Nat.ofDigitChars 10 (Nat.toDigits 10 n) 0 := by
      rw [Nat.ofDigitChars_eq_foldl]
      apply List.foldl_ext
      intro v c hc
      rw [(toNat_digit hc).1]
      rfl
    _ = n := Nat.ofDigitChars_ten_toDigits

/-- A numeral that `long` holds reads back. -/
theorem atoi_decimal {n : Nat} (h : n ≤ 2147483647) : atoi (decimal n) = n := by
  have hvalue := digitsValue_decimal n
  unfold atoi
  cases hn : decimal n with
  | nil => exact absurd hn (decimal_ne_nil n)
  | cons c cs =>
      have hdigit : isDigit c = true := isDigit_of_mem_decimal (n := n) (by simp [hn])
      simp only [isDigit, Bool.and_eq_true, decide_eq_true_eq, UInt8.le_iff_toNat_le] at hdigit
      have hlow : 48 ≤ c.toNat := hdigit.1
      have hother : ∀ d : UInt8, d.toNat < 48 → c ≠ d := by
        rintro d hd rfl
        omega
      have hspace : isSpace c = false := by
        simp only [isSpace, Bool.or_eq_false_iff, beq_eq_false_iff_ne]
        refine ⟨hother 32 (by decide), ?_⟩
        have hhigh : ¬ c ≤ 13 := by
          rw [UInt8.le_iff_toNat_le]
          have h13 : (13 : UInt8).toNat = 13 := rfl
          omega
        simp [hhigh]
      rw [List.dropWhile_cons_of_neg (by simp [hspace])]
      have hminus : (c == 45) = false := by simpa using hother 45 (by decide)
      have hplus : (c == 43) = false := by simpa using hother 43 (by decide)
      dsimp only
      rw [hminus, hplus, ← hn, hvalue]
      simp only [Bool.false_eq_true, if_false]
      omega

end Foundation
