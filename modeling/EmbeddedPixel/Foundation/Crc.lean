import Mathlib.Data.List.GetD
import Mathlib.Logic.Function.Iterate
import Mathlib.Tactic.Common

/-!
# Cyclic redundancy checks

`run p s bits` is the register of a CRC with generator `p` after the bits, highest first, from the
register `s`.  It is linear: two runs that end alike began with registers that differ as their bits do
(`registers_of_run_eq`).  So bits fed into one register are read off it (`eq_of_run_eq`), as long as they
fit, and a CRC of width `w` detects every burst of at most `w` bits (`burst_detected`).

A byte-wise program takes several bits into the register at once and then shifts: `shifts_xor`.  A
reflected CRC shifts towards its lowest bit, `shiftReflected`; a table of what the low bits become saves
the shifts one at a time (`shifts_reflected_table`).  Read backwards it is a register like any other
(`reverse_shiftReflected`).

A checksum that is sent behind its bits is one with them: the whole leaves the register at a residue of its
own (`run_seal_iff`), so a burst is detected wherever it falls, in the bits, in the checksum or across
(`seal_burst`).
-/

set_option autoImplicit false

namespace Foundation.Crc

variable {w : Nat}

/-- One bit into the register. -/
def feed (p s : BitVec w) (b : Bool) : BitVec w :=
  if s.msb ^^ b then (s <<< 1) ^^^ p else s <<< 1

/-- The register after some bits. -/
def run (p s : BitVec w) (bits : List Bool) : BitVec w := bits.foldl (feed p) s

@[simp] theorem run_nil (p s : BitVec w) : run p s [] = s := rfl

@[simp] theorem run_cons (p s : BitVec w) (b : Bool) (bits : List Bool) :
    run p s (b :: bits) = run p (feed p s b) bits := rfl

theorem run_append (p s : BitVec w) (bits bits' : List Bool) :
    run p s (bits ++ bits') = run p (run p s bits) bits' := by
  unfold run
  rw [List.foldl_append]

theorem getMsbD_feed (p s : BitVec w) (b : Bool) (i : Nat) :
    (feed p s b).getMsbD i = (s.getMsbD (i + 1) ^^ ((s.msb ^^ b) && p.getMsbD i)) := by
  unfold feed
  split
  · rename_i hb
    simp [hb]
  · rename_i hb
    simp [hb]

/-! ## The register tells the bits -/

section Generator

/- The generator has a constant term. -/
variable {p : BitVec w} (hp : p.getMsbD (w - 1) = true)

include hp

theorem width_pos : 0 < w := by
  by_contra h
  have hw : w = 0 := by omega
  subst hw
  simp at hp

/-- The last bit of the register says whether the generator was added. -/
theorem getMsbD_feed_last (s : BitVec w) (b : Bool) :
    (feed p s b).getMsbD (w - 1) = (s.msb ^^ b) := by
  have hw := width_pos hp
  rw [getMsbD_feed, hp, BitVec.getMsbD_of_ge _ _ (by omega)]
  simp

/-- **Linearity**: if as many bits as the register holds, or fewer, take two registers to the same one,
the registers differ as the bits do. -/
theorem registers_of_run_eq {u v : List Bool} (hlen : u.length = v.length) (hw : u.length ≤ w)
    {s s' : BitVec w} (h : run p s u = run p s' v) :
    ∀ i < w, (s.getMsbD i ^^ s'.getMsbD i) = (u.getD i false ^^ v.getD i false) := by
  induction u generalizing v s s' with
  | nil =>
      obtain rfl : v = [] := List.eq_nil_of_length_eq_zero hlen.symm
      intro i _
      have hs : s = s' := h
      simp [hs]
  | cons a u ih =>
      obtain _ | ⟨b, v⟩ := v
      · cases hlen
      have hlen' : u.length = v.length := Nat.succ.inj hlen
      have hu : u.length + 1 ≤ w := hw
      have hafter := ih hlen' (by omega) h
      -- the last bit: both added the generator, or neither
      have hadded : (s.msb ^^ a) = (s'.msb ^^ b) := by
        have hlast := hafter (w - 1) (by omega)
        rw [getMsbD_feed_last hp, getMsbD_feed_last hp, List.getD_eq_default _ _ (by omega),
          List.getD_eq_default _ _ (by omega), Bool.xor_false] at hlast
        exact bne_eq_false_iff_eq.1 hlast
      intro i hi
      cases i with
      | zero =>
          rw [← BitVec.msb_eq_getMsbD_zero, ← BitVec.msb_eq_getMsbD_zero]
          show (s.msb ^^ s'.msb) = (a ^^ b)
          revert hadded
          cases s.msb <;> cases s'.msb <;> cases a <;> cases b <;> simp
      | succ i =>
          have hbefore := hafter i (by omega)
          rw [getMsbD_feed, getMsbD_feed, hadded] at hbefore
          show (s.getMsbD (i + 1) ^^ s'.getMsbD (i + 1)) = (u.getD i false ^^ v.getD i false)
          rw [← hbefore]
          cases (s'.msb ^^ b) && p.getMsbD i <;> simp

/-- Feeding the same bits keeps registers apart. -/
theorem register_of_run_eq {u : List Bool} {s s' : BitVec w} (h : run p s u = run p s' u) :
    s = s' := by
  induction u generalizing s s' with
  | nil => exact h
  | cons b u ih =>
      have hfeed : run p s [b] = run p s' [b] := ih h
      have hbits := registers_of_run_eq hp (u := [b]) rfl (width_pos hp) hfeed
      refine BitVec.eq_of_getMsbD_eq fun i hi => ?_
      simpa using hbits i hi

/-- Bits that fit into the register are told apart by it. -/
theorem eq_of_run_eq {u v : List Bool} (hlen : u.length = v.length) (hw : u.length ≤ w)
    {s : BitVec w} (h : run p s u = run p s v) : u = v := by
  have hbits := registers_of_run_eq hp hlen hw h
  refine List.ext_getElem hlen fun i hu hv => ?_
  have hi := hbits i (by omega)
  rw [List.getD_eq_getElem _ _ hu, List.getD_eq_getElem _ _ hv] at hi
  simpa using hi

end Generator

/-! ## Bursts -/

/-- The words differ, and only inside a stretch of `n` bits. -/
def Burst (n : Nat) (x y : List Bool) : Prop :=
  ∃ pre u v post, x = pre ++ (u ++ post) ∧ y = pre ++ (v ++ post) ∧ u.length = v.length ∧
    u.length ≤ n ∧ u ≠ v

/-- **Burst detection**: a CRC of width `w` changes under every burst of at most `w` bits. -/
theorem burst_detected {p : BitVec w} (hp : p.getMsbD (w - 1) = true) (s : BitVec w)
    {x y : List Bool} (h : Burst w x y) : run p s x ≠ run p s y := by
  obtain ⟨pre, u, v, post, rfl, rfl, hlen, hw, hne⟩ := h
  intro heq
  rw [run_append, run_append, run_append, run_append] at heq
  exact hne (eq_of_run_eq hp hlen hw (register_of_run_eq hp heq))

/-! ## Several bits at once -/

/-- **Taking bits in at once**: add them to the top of the register, then shift it once for each. -/
theorem shifts_xor (p : BitVec w) {m : BitVec w} {bits : List Bool}
    (hm : ∀ i < w, m.getMsbD i = bits.getD i false) (s : BitVec w) (hw : bits.length ≤ w) :
    (fun r => feed p r false)^[bits.length] (s ^^^ m) = run p s bits := by
  induction bits generalizing m s with
  | nil =>
      have hzero : m = 0#w := BitVec.eq_of_getMsbD_eq fun i hi => by simpa using hm i hi
      simp [hzero]
  | cons b bits ih =>
      have hlen : bits.length + 1 ≤ w := hw
      have hb : m.msb = b := by
        rw [BitVec.msb_eq_getMsbD_zero]
        simpa using hm 0 (by omega)
      have hrest : ∀ i < w, (m <<< 1).getMsbD i = bits.getD i false := by
        intro i hi
        rw [BitVec.getMsbD_shiftLeft]
        by_cases hlast : i + 1 < w
        · exact hm (i + 1) hlast
        · rw [BitVec.getMsbD_of_ge _ _ (by omega), List.getD_eq_default _ _ (by omega)]
      have hfirst : feed p (s ^^^ m) false = feed p s b ^^^ (m <<< 1) := by
        unfold feed
        rw [BitVec.msb_xor, hb, Bool.xor_false, BitVec.shiftLeft_xor_distrib]
        split
        · rw [BitVec.xor_assoc, BitVec.xor_comm (m <<< 1) p, BitVec.xor_assoc]
        · rfl
      rw [List.length_cons, Function.iterate_succ_apply, hfirst, ih hrest _ (by omega)]
      rfl

/-! ## Reflected registers -/

/-- One bit out of a reflected register, which is divided from its lowest bit. -/
def shiftReflected (p s : BitVec w) : BitVec w :=
  if s.getLsbD 0 then (s >>> 1) ^^^ p else s >>> 1

theorem xor_xor_cancel (a b p : BitVec w) : (a ^^^ p) ^^^ (b ^^^ p) = a ^^^ b := by
  rw [BitVec.xor_comm b p, BitVec.xor_assoc, ← BitVec.xor_assoc p p b, BitVec.xor_self,
    BitVec.zero_xor]

theorem shiftReflected_xor (p a b : BitVec w) :
    shiftReflected p (a ^^^ b) = shiftReflected p a ^^^ shiftReflected p b := by
  unfold shiftReflected
  rw [BitVec.getLsbD_xor, BitVec.ushiftRight_xor_distrib]
  cases a.getLsbD 0 <;> cases b.getLsbD 0
  · simp
  · simp [BitVec.xor_assoc]
  · simp only [Bool.xor_false, if_true, Bool.false_eq_true, if_false]
    rw [BitVec.xor_assoc, BitVec.xor_assoc, BitVec.xor_comm p]
  · simp only [Bool.xor_self, if_true, Bool.false_eq_true, if_false]
    exact (xor_xor_cancel _ _ p).symm

theorem shifts_reflected_xor (p : BitVec w) (n : Nat) (a b : BitVec w) :
    (shiftReflected p)^[n] (a ^^^ b) = (shiftReflected p)^[n] a ^^^ (shiftReflected p)^[n] b := by
  induction n generalizing a b with
  | zero => rfl
  | succ n ih => simp only [Function.iterate_succ_apply, shiftReflected_xor, ih]

/-- Bits that are zero leave the register without a trace. -/
theorem shifts_reflected_of_low (p : BitVec w) {n : Nat} {s : BitVec w}
    (hs : ∀ i < n, s.getLsbD i = false) : (shiftReflected p)^[n] s = s >>> n := by
  induction n generalizing s with
  | zero => simp
  | succ n ih =>
      have hfirst : shiftReflected p s = s >>> 1 := by
        unfold shiftReflected
        rw [hs 0 (by omega), if_neg (by decide)]
      have hrest : ∀ i < n, (s >>> 1).getLsbD i = false := by
        intro i hi
        rw [BitVec.getLsbD_ushiftRight]
        exact hs (1 + i) (by omega)
      rw [Function.iterate_succ_apply, hfirst, ih hrest, ← BitVec.shiftRight_add,
        Nat.add_comm 1 n]

/-- **Several bits out at once**: what the low bits become, and the others moved down. -/
theorem shifts_reflected_table (p : BitVec w) {n : Nat} {low : BitVec w}
    (hlow : ∀ i < w, low.getLsbD i = decide (i < n)) (s : BitVec w) :
    (shiftReflected p)^[n] s = (shiftReflected p)^[n] (s &&& low) ^^^ (s >>> n) := by
  have hsplit : s = (s &&& low) ^^^ (s &&& ~~~low) := by
    ext i hi
    simp only [BitVec.getElem_xor, BitVec.getElem_and, BitVec.getElem_not]
    cases s[i] <;> cases low[i] <;> rfl
  have hclear : ∀ i < n, (s &&& ~~~low).getLsbD i = false := by
    intro i hi
    by_cases hw : i < w
    · rw [BitVec.getLsbD_and, BitVec.getLsbD_not, hlow i hw]
      simp [hi]
    · exact BitVec.getLsbD_of_ge _ _ (Nat.not_lt.1 hw)
  have hmoved : (s &&& ~~~low) >>> n = s >>> n := by
    refine BitVec.eq_of_getLsbD_eq fun i hi => ?_
    rw [BitVec.getLsbD_ushiftRight, BitVec.getLsbD_ushiftRight]
    by_cases hw : n + i < w
    · rw [BitVec.getLsbD_and, BitVec.getLsbD_not, hlow (n + i) hw]
      simp [hw]
    · rw [BitVec.getLsbD_of_ge _ _ (Nat.not_lt.1 hw), BitVec.getLsbD_of_ge _ _ (Nat.not_lt.1 hw)]
  calc (shiftReflected p)^[n] s
      = (shiftReflected p)^[n] ((s &&& low) ^^^ (s &&& ~~~low)) := by rw [← hsplit]
    _ = (shiftReflected p)^[n] (s &&& low) ^^^ (shiftReflected p)^[n] (s &&& ~~~low) :=
        shifts_reflected_xor p n _ _
    _ = (shiftReflected p)^[n] (s &&& low) ^^^ (s >>> n) := by
        rw [shifts_reflected_of_low p hclear, hmoved]

/-- A reflected register, read backwards. -/
theorem reverse_shiftReflected (p s : BitVec w) :
    (shiftReflected p s).reverse = feed p.reverse s.reverse false := by
  refine BitVec.eq_of_getMsbD_eq fun i _ => ?_
  rw [BitVec.getMsbD_reverse, getMsbD_feed, BitVec.getMsbD_reverse, BitVec.getMsbD_reverse,
    BitVec.msb_reverse, Bool.xor_false, Nat.add_comm i 1]
  unfold shiftReflected
  split
  · rename_i hlow
    simp [hlow]
  · rename_i hlow
    rw [Bool.not_eq_true] at hlow
    simp [hlow]

theorem reverse_shifts_reflected (p : BitVec w) (n : Nat) (s : BitVec w) :
    ((shiftReflected p)^[n] s).reverse = (fun r => feed p.reverse r false)^[n] s.reverse := by
  induction n generalizing s with
  | zero => rfl
  | succ n ih =>
      rw [Function.iterate_succ_apply, Function.iterate_succ_apply, ih, reverse_shiftReflected]

/-! ## A checksum behind its bits -/

/-- The bits of a register, highest first. -/
def wordBits (t : BitVec w) : List Bool := (List.range w).map t.getMsbD

@[simp] theorem length_wordBits (t : BitVec w) : (wordBits t).length = w := by simp [wordBits]

theorem run_wordBits (p s t : BitVec w) :
    run p s (wordBits t) = (fun r => feed p r false)^[w] (s ^^^ t) := by
  have hbits : ∀ i < w, t.getMsbD i = (wordBits t).getD i false := by
    intro i hi
    rw [List.getD_eq_getElem _ _ (by simpa using hi)]
    simp [wordBits]
  have hshifts := shifts_xor p hbits s (by simp)
  rw [length_wordBits] at hshifts
  exact hshifts.symm

/-- **The residue**: the register after bits and their checksum, which is their register up to `k`. -/
theorem run_seal_iff {p : BitVec w} (hp : p.getMsbD (w - 1) = true) {s k t : BitVec w}
    {x : List Bool} :
    run p s (x ++ wordBits t) = (fun r => feed p r false)^[w] k ↔ t = run p s x ^^^ k := by
  have hshift : ∀ r : BitVec w, (fun r => feed p r false)^[w] r = run p r (wordBits 0#w) := by
    intro r
    rw [run_wordBits, BitVec.xor_zero]
  rw [run_append, run_wordBits, hshift, hshift]
  constructor
  · intro h
    rw [← register_of_run_eq hp h, ← BitVec.xor_assoc, BitVec.xor_self, BitVec.zero_xor]
  · rintro rfl
    rw [← BitVec.xor_assoc, BitVec.xor_self, BitVec.zero_xor]

/-- **Burst detection behind a checksum**: bits and checksum damaged by one burst no longer agree. -/
theorem seal_burst {p : BitVec w} (hp : p.getMsbD (w - 1) = true) {s k t t' : BitVec w}
    {x x' : List Bool} (h : t = run p s x ^^^ k)
    (hburst : Burst w (x ++ wordBits t) (x' ++ wordBits t')) : t' ≠ run p s x' ^^^ k := by
  intro h'
  have hsame := ((run_seal_iff hp).2 h).trans ((run_seal_iff hp).2 h').symm
  exact burst_detected hp s hburst hsame

end Foundation.Crc
