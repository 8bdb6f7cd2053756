import Mathlib.Data.Set.Basic
import EmbeddedPixel.Foundation.Memory
import EmbeddedPixel.Foundation.Tiles

/-!
# The external flash (`stm32h7/hal_impl/Stm32ExtMemFlash.cpp`)

`erase`, `write` and `read` of the application build, with what they do to the device: sector erases, page
programs and reads of the memory-mapped window.  `offset`, `size` and their sum are 32-bit words, as
`size_t` is on the target.  A call is given turns for its loop, and has no result while it is still in it;
the caches and the interrupt mask are left out, and the registers of the controller are those of `Xspi`.

Principal results: `erase_covers_iff` — for which ranges the erased sectors are the ones the range meets;
`staysInside_iff` — for which requests a call keeps to the device.
-/

set_option autoImplicit false

namespace EmbeddedPixel

open Foundation

/-- What a call does to the device. -/
inductive FlashAccess where
  /-- `ram_xspi_erase_4k`. -/
  | sectorErase (address : UInt32)
  /-- `ram_xspi_program_page`. -/
  | pageProgram (address : UInt32) (data : List UInt8)
  /-- A `memcpy` out of the memory-mapped window. -/
  | mappedRead (src size : UInt32)
  deriving DecidableEq, Repr

/-- `Stm32ExtMemFlash`. -/
structure Stm32ExtMemFlash where
  baseAddress : UInt32
  totalSize : UInt32
  deriving DecidableEq, Repr

namespace Stm32ExtMemFlash

/-- The constructor's defaults, which `main` uses. -/
def create : Stm32ExtMemFlash where
  baseAddress := 0x70000000
  totalSize := 64 * 1024 * 1024

variable (this : Stm32ExtMemFlash)

/-- The loop of `erase` from `cur`. -/
def eraseLoop (stop : UInt32) : (fuel : Nat) → (cur : UInt32) → Option (List FlashAccess)
  | 0, _ => none
  | fuel + 1, cur =>
    if cur < stop then (eraseLoop stop fuel (cur + 4096)).map (.sectorErase cur :: ·) else some []

/-- `erase`. -/
def erase (offset size : UInt32) (fuel : Nat) : Option (Bool × List FlashAccess) :=
  if offset + size > this.totalSize then some (false, [])
  else (eraseLoop (offset + size) fuel offset).map fun accesses => (true, accesses)

/-- The loop of `write`; `ptr` counts from `data`. -/
def writeLoop (data : BytePtr) :
    (fuel : Nat) → (curOffset : UInt32) → (ptr : Nat) → (remaining : UInt32) →
      Option (List FlashAccess)
  | 0, _, _, _ => none
  | fuel + 1, curOffset, ptr, remaining =>
    if remaining > 0 then
      let pageOffset := curOffset % 256
      let chunk := 256 - pageOffset
      let chunk := if chunk > remaining then remaining else chunk
      (writeLoop data fuel (curOffset + chunk) (ptr + chunk.toNat) (remaining - chunk)).map
        (.pageProgram curOffset (bytesAt data ptr chunk.toNat) :: ·)
    else some []

/-- `write`; `none` for `data` is the null pointer. -/
def write (offset : UInt32) (data : Option BytePtr) (size : UInt32) (fuel : Nat) :
    Option (Bool × List FlashAccess) :=
  match data with
  | none => some (false, [])
  | some data =>
    if offset + size > this.totalSize ∨ size = 0 then some (false, [])
    else (writeLoop data fuel offset 0 size).map fun accesses => (true, accesses)

/-- `read`, with the bytes copied to the buffer. -/
def read (mem : Mem 32) (offset : UInt32) (bufferIsNull : Bool) (size : UInt32) :
    (Bool × List FlashAccess) × List UInt8 :=
  if offset + size > this.totalSize ∨ bufferIsNull ∨ size = 0 then ((false, []), [])
  else
    let src := this.baseAddress + offset
    ((true, [.mappedRead src size]), mem.read src.toBitVec size.toNat)

/-- The bytes of the device that an access erases, programs or reads.  An erase command at an address
erases the sector that contains it. -/
def Touches : FlashAccess → Nat → Prop
  | .sectorErase address, x => x / 4096 = address.toNat / 4096
  | .pageProgram address data, x => address.toNat ≤ x ∧ x < address.toNat + data.length
  | .mappedRead src size, x =>
    (src - this.baseAddress).toNat ≤ x ∧ x < (src - this.baseAddress).toNat + size.toNat

instance : (a : FlashAccess) → (x : Nat) → Decidable (this.Touches a x)
  | .sectorErase address, x => inferInstanceAs (Decidable (x / 4096 = address.toNat / 4096))
  | .pageProgram _ _, _ => inferInstanceAs (Decidable (_ ∧ _))
  | .mappedRead _ _, _ => inferInstanceAs (Decidable (_ ∧ _))

/-- A sum that the device holds does not wrap. -/
theorem toNat_sum {offset size : UInt32} (h : offset.toNat + size.toNat ≤ this.totalSize.toNat) :
    (offset + size).toNat = offset.toNat + size.toNat := by
  have htotal := this.totalSize.toNat_lt
  rw [UInt32.toNat_add]
  exact Nat.mod_eq_of_lt (by omega)

/-! ## Erasing -/

section Erase

variable {stop : UInt32}

/-- The next sector, unless the loop passes the end of the address space. -/
theorem toNat_next {cur : UInt32} (hstop : stop.toNat ≤ 2 ^ 32 - 4096 + cur.toNat % 4096)
    (hcur : cur < stop) : (cur + 4096).toNat = cur.toNat + 4096 := by
  have hlt : cur.toNat < stop.toNat := hcur
  rw [UInt32.toNat_add]
  exact Nat.mod_eq_of_lt (show cur.toNat + 4096 < 2 ^ 32 by omega)

/-- What the loop erases. -/
theorem mem_eraseLoop {fuel : Nat} {cur : UInt32} {accesses : List FlashAccess}
    (hstop : stop.toNat ≤ 2 ^ 32 - 4096 + cur.toNat % 4096)
    (h : eraseLoop stop fuel cur = some accesses) (a : FlashAccess) :
    a ∈ accesses ↔
      ∃ address k, a = .sectorErase address ∧ address.toNat = cur.toNat + 4096 * k ∧
        address.toNat < stop.toNat := by
  induction fuel generalizing cur accesses with
  | zero => cases h
  | succ fuel ih =>
      unfold eraseLoop at h
      split at h
      · rename_i hcur
        have hlt : cur.toNat < stop.toNat := hcur
        have hnext := toNat_next hstop hcur
        obtain ⟨rest, hrest, rfl⟩ := Option.map_eq_some_iff.1 h
        rw [List.mem_cons, ih (by rw [hnext]; omega) hrest]
        constructor
        · rintro (rfl | ⟨address, k, rfl, hk, haddress⟩)
          · exact ⟨cur, 0, rfl, rfl, hlt⟩
          · exact ⟨address, k + 1, rfl, by omega, haddress⟩
        · rintro ⟨address, k, rfl, hk, haddress⟩
          cases k with
          | zero => exact Or.inl (congrArg _ (UInt32.toNat_inj.1 hk))
          | succ k => exact Or.inr ⟨address, k, rfl, by omega, haddress⟩
      · rename_i hcur
        have hle : stop.toNat ≤ cur.toNat := UInt32.not_lt.1 hcur
        cases h
        constructor
        · intro ha
          cases ha
        · rintro ⟨address, k, -, hk, haddress⟩
          omega

/-- The loop comes to its end. -/
theorem eraseLoop_ends {fuel : Nat} {cur : UInt32}
    (hstop : stop.toNat ≤ 2 ^ 32 - 4096 + cur.toNat % 4096)
    (hfuel : stop.toNat ≤ cur.toNat + 4096 * fuel) :
    ∃ accesses, eraseLoop stop (fuel + 1) cur = some accesses := by
  induction fuel generalizing cur with
  | zero => exact ⟨[], if_neg (UInt32.not_lt.2 hfuel)⟩
  | succ fuel ih =>
      unfold eraseLoop
      split
      · rename_i hcur
        have hnext := toNat_next hstop hcur
        obtain ⟨rest, hrest⟩ : ∃ rest, eraseLoop stop (fuel + 1) (cur + 4096) = some rest :=
          ih (by rw [hnext]; omega) (by omega)
        exact ⟨_, by rw [hrest]; rfl⟩
      · exact ⟨[], rfl⟩

/-- The loop never ends: every address it comes to lies below the end. -/
theorem eraseLoop_eq_none {fuel : Nat} {cur : UInt32}
    (hstop : 2 ^ 32 - 4096 + cur.toNat % 4096 < stop.toNat) : eraseLoop stop fuel cur = none := by
  induction fuel generalizing cur with
  | zero => rfl
  | succ fuel ih =>
      have hcur : cur < stop := by
        have := cur.toNat_lt
        exact UInt32.lt_iff_toNat_lt.2 (by omega)
      have hnext : (cur + 4096).toNat % 4096 = cur.toNat % 4096 := by
        rw [UInt32.toNat_add]
        show (cur.toNat + 4096) % 2 ^ 32 % 4096 = _
        omega
      unfold eraseLoop
      rw [if_pos hcur, ih (by rw [hnext]; exact hstop)]
      rfl

/-- `erase` as its loop, for a range that the device holds. -/
theorem erase_eq_some {offset size : UInt32} (h : offset.toNat + size.toNat ≤ this.totalSize.toNat)
    {fuel : Nat} {accesses : List FlashAccess} :
    this.erase offset size fuel = some (true, accesses) ↔
      eraseLoop (offset + size) fuel offset = some accesses := by
  have hguard : ¬ offset + size > this.totalSize := by
    rw [gt_iff_lt, UInt32.not_lt, UInt32.le_iff_toNat_le, this.toNat_sum h]
    exact h
  unfold erase
  rw [if_neg hguard, Option.map_eq_some_iff]
  simp

/-- The erased sectors are those the range meets. -/
structure EraseCovers (offset size : UInt32) (accesses : List FlashAccess) : Prop where
  covered : ∀ x, offset.toNat ≤ x → x < offset.toNat + size.toNat →
    ∃ a ∈ accesses, this.Touches a x
  meets : ∀ a ∈ accesses, ∃ x, offset.toNat ≤ x ∧ x < offset.toNat + size.toNat ∧ this.Touches a x

/-- The sectors of a loop that ends, for a range that reaches no further into its last sector than into
its first. -/
theorem eraseCovers_of_ends {offset size : UInt32}
    (h : offset.toNat + size.toNat ≤ this.totalSize.toNat)
    (hends : (offset + size).toNat ≤ 2 ^ 32 - 4096 + offset.toNat % 4096)
    (hcross : size.toNat = 0 ∨ offset.toNat % 4096 + (size.toNat - 1) % 4096 < 4096) {fuel : Nat}
    {accesses : List FlashAccess} (hloop : eraseLoop (offset + size) fuel offset = some accesses) :
    this.EraseCovers offset size accesses := by
  have hsum := this.toNat_sum h
  have hmem := mem_eraseLoop hends hloop
  constructor
  · intro x hx hx'
    have haddress : (UInt32.ofNat (offset.toNat + 4096 * (x / 4096 - offset.toNat / 4096))).toNat =
        offset.toNat + 4096 * (x / 4096 - offset.toNat / 4096) :=
      UInt32.toNat_ofNat_of_lt' (by rw [UInt32.size]; omega)
    refine ⟨_, (hmem _).2 ⟨_, _, rfl, haddress, by rw [haddress]; omega⟩, ?_⟩
    show x / 4096 = _ / 4096
    rw [haddress]
    omega
  · intro a ha
    obtain ⟨address, k, rfl, hk, hlt⟩ := (hmem a).1 ha
    exact ⟨address.toNat, by omega, by omega, rfl⟩

/-- **When `erase` covers its range.**  It starts at the offset and goes on in steps of a sector, so it
misses the last sector when the range reaches further into it than into the first, unless the loop never
ends. -/
theorem erase_covers_iff {offset size : UInt32}
    (h : offset.toNat + size.toNat ≤ this.totalSize.toNat) :
    (∀ fuel accesses, this.erase offset size fuel = some (true, accesses) →
        this.EraseCovers offset size accesses) ↔
      size = 0 ∨ offset.toNat % 4096 + (size.toNat - 1) % 4096 < 4096 ∨
        2 ^ 32 - 4096 + offset.toNat % 4096 < offset.toNat + size.toNat := by
  have hsum := this.toNat_sum h
  have hsize : size = 0 ↔ size.toNat = 0 := UInt32.toNat_inj.symm
  rw [hsize]
  constructor
  · intro hcovers
    by_contra hcond
    obtain ⟨hpos, hcross, hends⟩ : size.toNat ≠ 0 ∧
        4096 ≤ offset.toNat % 4096 + (size.toNat - 1) % 4096 ∧
        offset.toNat + size.toNat ≤ 2 ^ 32 - 4096 + offset.toNat % 4096 := by omega
    rw [← hsum] at hends
    obtain ⟨accesses, hrun⟩ :
        ∃ accesses, eraseLoop (offset + size) (2 ^ 20 + 1) offset = some accesses :=
      eraseLoop_ends hends (by omega)
    -- the last byte of the range lies beyond the last sector erased
    obtain ⟨a, ha, htouches⟩ := (hcovers _ _ ((this.erase_eq_some h).2 hrun)).covered
      (offset.toNat + size.toNat - 1) (by omega) (by omega)
    obtain ⟨address, k, rfl, hk, hlt⟩ := (mem_eraseLoop hends hrun a).1 ha
    have hsector : (offset.toNat + size.toNat - 1) / 4096 = address.toNat / 4096 := htouches
    omega
  · intro hcond fuel accesses hrun
    have hloop := (this.erase_eq_some h).1 hrun
    by_cases hends : (offset + size).toNat ≤ 2 ^ 32 - 4096 + offset.toNat % 4096
    · exact this.eraseCovers_of_ends h hends (by omega) hloop
    · rw [eraseLoop_eq_none (by omega)] at hloop
      cases hloop

/-- A sector-aligned range. -/
theorem erase_covers_aligned :
    create.EraseCovers 0x1000 0x1800 [.sectorErase 0x1000, .sectorErase 0x2000] :=
  (create.erase_covers_iff (by decide)).2 (by decide) 3 _ (by decide)

/-- Two bytes on either side of a sector boundary: the second sector is not erased. -/
theorem erase_misses_sector :
    ¬ ∀ (this : Stm32ExtMemFlash) (offset size : UInt32),
        offset.toNat + size.toNat ≤ this.totalSize.toNat →
        ∀ fuel accesses, this.erase offset size fuel = some (true, accesses) →
          this.EraseCovers offset size accesses := by
  intro h
  have hrun : create.erase 0xFFF 2 2 = some (true, [.sectorErase 0xFFF]) := by decide
  obtain ⟨a, ha, htouches⟩ := (h create 0xFFF 2 (by decide) 2 _ hrun).covered 0x1000 (by decide)
    (by decide)
  obtain rfl := List.mem_singleton.1 ha
  exact absurd htouches (by unfold Touches; decide)

end Erase

/-! ## Programming -/

section Write

variable {data : BytePtr}

/-- The length of the piece that `write` programs next. -/
def pageChunk (curOffset remaining : UInt32) : UInt32 :=
  if 256 - curOffset % 256 > remaining then remaining else 256 - curOffset % 256

theorem toNat_pageChunk (curOffset remaining : UInt32) :
    (pageChunk curOffset remaining).toNat =
      min (256 - curOffset.toNat % 256) remaining.toNat := by
  have hpage : (256 - curOffset % 256).toNat = 256 - curOffset.toNat % 256 := by
    have hmod : (curOffset % 256).toNat = curOffset.toNat % 256 := UInt32.toNat_mod curOffset 256
    have hle : curOffset % 256 ≤ 256 := by
      rw [UInt32.le_iff_toNat_le, hmod]
      exact Nat.le_of_lt (Nat.mod_lt _ (by decide))
    rw [UInt32.toNat_sub_of_le _ _ hle, hmod]
    rfl
  unfold pageChunk
  split
  · rename_i h
    have hlt : remaining.toNat < (256 - curOffset % 256).toNat := h
    omega
  · rename_i h
    have hle : (256 - curOffset % 256).toNat ≤ remaining.toNat := UInt32.not_lt.1 h
    omega

theorem writeLoop_succ (fuel : Nat) (curOffset : UInt32) (ptr : Nat) (remaining : UInt32) :
    writeLoop data (fuel + 1) curOffset ptr remaining =
      if remaining = 0 then some []
      else
        (writeLoop data fuel (curOffset + pageChunk curOffset remaining)
          (ptr + (pageChunk curOffset remaining).toNat)
          (remaining - pageChunk curOffset remaining)).map
          (.pageProgram curOffset (bytesAt data ptr (pageChunk curOffset remaining).toNat) :: ·) := by
  by_cases hzero : remaining = 0
  · subst hzero
    rfl
  · rw [if_neg hzero]
    exact if_pos (UInt32.pos_iff_ne_zero.2 hzero)

theorem toNat_sub_pageChunk (curOffset remaining : UInt32) :
    (remaining - pageChunk curOffset remaining).toNat =
      remaining.toNat - (pageChunk curOffset remaining).toNat :=
  UInt32.toNat_sub_of_le _ _ (UInt32.le_iff_toNat_le.2 (by rw [toNat_pageChunk]; omega))

/-- The loop comes to its end: every turn programs a byte at least. -/
theorem writeLoop_ends {fuel : Nat} (curOffset : UInt32) (ptr : Nat) {remaining : UInt32}
    (hfuel : remaining.toNat ≤ fuel) :
    ∃ accesses, writeLoop data (fuel + 1) curOffset ptr remaining = some accesses := by
  induction fuel generalizing curOffset ptr remaining with
  | zero =>
      have hzero : remaining = 0 := UInt32.toNat_inj.1 (Nat.le_zero.1 hfuel)
      exact ⟨[], by rw [writeLoop_succ, if_pos hzero]⟩
  | succ fuel ih =>
      rw [writeLoop_succ]
      split
      · exact ⟨[], rfl⟩
      · rename_i hpos
        have hpos : remaining.toNat ≠ 0 := fun h => hpos (UInt32.toNat_inj.1 h)
        have hchunk := toNat_pageChunk curOffset remaining
        have hless : (remaining - pageChunk curOffset remaining).toNat ≤ fuel := by
          rw [toNat_sub_pageChunk]
          omega
        obtain ⟨rest, hrest⟩ := ih (curOffset + pageChunk curOffset remaining)
          (ptr + (pageChunk curOffset remaining).toNat) hless
        exact ⟨_, by rw [hrest]; rfl⟩

/-- A call of `ram_xspi_program_page`. -/
structure PageProgram where
  address : UInt32
  bytes : List UInt8
  deriving DecidableEq, Repr

namespace PageProgram

variable (p : PageProgram)

def access : FlashAccess := .pageProgram p.address p.bytes

/-- Where the bytes go. -/
def piece : Nat × List UInt8 := (p.address.toNat, p.bytes)

/-- It has a byte at least, and does not leave the page it begins in. -/
def InPage : Prop := 1 ≤ p.bytes.length ∧ p.address.toNat % 256 + p.bytes.length ≤ 256

end PageProgram

/-- Page programs for the `n` bytes from `lo`, which `data` holds from `ptr`. -/
structure Pages (data : BytePtr) (lo ptr n : Nat) (pages : List PageProgram) : Prop where
  tiles : Tiles lo (lo + n) (pages.map PageProgram.piece)
  bytes : (pages.map PageProgram.piece).flatMap Prod.snd = bytesAt data ptr n
  inPage : ∀ p ∈ pages, p.InPage

theorem Pages.nil (lo ptr : Nat) : Pages data lo ptr 0 [] where
  tiles := Tiles.nil lo
  bytes := rfl
  inPage := by simp

/-- The next page program, and those for the rest. -/
theorem Pages.cons {lo ptr n : Nat} {p : PageProgram} {pages : List PageProgram} (hp : p.InPage)
    (haddress : p.address.toNat = lo) (hle : p.bytes.length ≤ n)
    (hbytes : p.bytes = bytesAt data ptr p.bytes.length)
    (h : Pages data (lo + p.bytes.length) (ptr + p.bytes.length) (n - p.bytes.length) pages) :
    Pages data lo ptr n (p :: pages) where
  tiles := by
    have htiles := h.tiles
    rw [Nat.add_assoc, Nat.add_sub_cancel' hle] at htiles
    rw [List.map_cons, PageProgram.piece, haddress]
    exact Tiles.cons htiles
  bytes := by
    rw [List.map_cons, List.flatMap_cons, h.bytes]
    conv_rhs => rw [← Nat.add_sub_cancel' hle, bytesAt_add, ← hbytes]
    rfl
  inPage := List.forall_mem_cons.2 ⟨hp, h.inPage⟩

theorem writeLoop_zero (fuel : Nat) (curOffset : UInt32) (ptr : Nat) :
    writeLoop data fuel curOffset ptr 0 = if 0 < fuel then some [] else none := by
  cases fuel with
  | zero => rfl
  | succ fuel => rw [writeLoop_succ, if_pos rfl, if_pos (Nat.succ_pos fuel)]

/-- **The loop of `write`**: it programs the pages of what remains, one in each turn. -/
theorem writeLoop_pages (data : BytePtr) {n : Nat} {curOffset : UInt32} (ptr : Nat) {remaining : UInt32}
    (hrange : curOffset.toNat + remaining.toNat < 2 ^ 32) (hn : remaining.toNat ≤ n) :
    ∃ pages, Pages data curOffset.toNat ptr remaining.toNat pages ∧
      ∀ fuel, writeLoop data fuel curOffset ptr remaining =
        if pages.length < fuel then some (pages.map PageProgram.access) else none := by
  induction n generalizing curOffset ptr remaining with
  | zero =>
      obtain rfl : remaining = 0 := UInt32.toNat_inj.1 (Nat.le_zero.1 hn)
      exact ⟨[], Pages.nil _ ptr, fun fuel => writeLoop_zero fuel curOffset ptr⟩
  | succ n ih =>
      by_cases hzero : remaining = 0
      · subst hzero
        exact ⟨[], Pages.nil _ ptr, fun fuel => writeLoop_zero fuel curOffset ptr⟩
      · have hpos : remaining.toNat ≠ 0 := fun h => hzero (UInt32.toNat_inj.1 h)
        have hchunk := toNat_pageChunk curOffset remaining
        have hsub := toNat_sub_pageChunk curOffset remaining
        have hnext : (curOffset + pageChunk curOffset remaining).toNat =
            curOffset.toNat + (pageChunk curOffset remaining).toNat := by
          rw [UInt32.toNat_add]
          exact Nat.mod_eq_of_lt (by omega)
        have hrange' : (curOffset + pageChunk curOffset remaining).toNat +
            (remaining - pageChunk curOffset remaining).toNat < 2 ^ 32 := by omega
        -- a piece has a byte at least, so less remains after it
        obtain ⟨pages, hpages, hrun⟩ :=
          ih (ptr + (pageChunk curOffset remaining).toNat) hrange' (by omega)
        rw [hnext, hsub] at hpages
        have hlen : (bytesAt data ptr (pageChunk curOffset remaining).toNat).length =
            (pageChunk curOffset remaining).toNat := length_bytesAt data ptr _
        refine ⟨⟨curOffset, bytesAt data ptr (pageChunk curOffset remaining).toNat⟩ :: pages,
          Pages.cons ?_ rfl ?_ ?_ ?_, fun fuel => ?_⟩
        · show 1 ≤ _ ∧ curOffset.toNat % 256 + _ ≤ 256
          rw [hlen]
          omega
        · rw [hlen]
          omega
        · rw [hlen]
        · rwa [hlen]
        · cases fuel with
          | zero => rfl
          | succ fuel =>
              rw [writeLoop_succ, if_neg hzero, hrun fuel, List.length_cons]
              simp only [Nat.succ_lt_succ_iff]
              split
              · rw [Option.map_some, List.map_cons, PageProgram.access]
              · rfl

end Write

/-! ## Staying inside the device -/

/-- The sum of `offset` and `size` wraps to one that the guard lets pass. -/
def WrapsPast (offset size : UInt32) : Prop :=
  2 ^ 32 ≤ offset.toNat + size.toNat ∧ offset.toNat + size.toNat - 2 ^ 32 ≤ this.totalSize.toNat

/-- A call that answered `true` had a range that the device holds, and none went beyond `limit`. -/
structure StaysInside (offset size : UInt32) (limit : Nat) (r : Bool × List FlashAccess) : Prop where
  inRange : r.1 = true → offset.toNat + size.toNat ≤ this.totalSize.toNat
  below : ∀ a ∈ r.2, ∀ x, this.Touches a x → x < limit

theorem staysInside_nothing (offset size : UInt32) (limit : Nat) :
    this.StaysInside offset size limit (false, []) where
  inRange h := by cases h
  below a ha := by cases ha

/-- What the guard says of the true sum. -/
theorem guard_iff {offset size : UInt32} :
    ¬ offset + size > this.totalSize ↔
      offset.toNat + size.toNat ≤ this.totalSize.toNat ∨ this.WrapsPast offset size := by
  have htotal := this.totalSize.toNat_lt
  have ho := offset.toNat_lt
  have hs := size.toNat_lt
  unfold WrapsPast
  rw [gt_iff_lt, UInt32.not_lt, UInt32.le_iff_toNat_le, UInt32.toNat_add]
  show (offset.toNat + size.toNat) % 2 ^ 32 ≤ _ ↔ _
  omega

variable {offset size : UInt32}

/-- The bytes of a page that is programmed inside the range. -/
theorem write_below {data : BytePtr} {fuel : Nat} {accesses : List FlashAccess}
    (hin : offset.toNat + size.toNat ≤ this.totalSize.toNat)
    (h : writeLoop data fuel offset 0 size = some accesses) :
    ∀ a ∈ accesses, ∀ x, this.Touches a x → x < this.totalSize.toNat := by
  have htotal := this.totalSize.toNat_lt
  have hrange : offset.toNat + size.toNat < 2 ^ 32 := by omega
  obtain ⟨pages, hpages, hrun⟩ := writeLoop_pages data 0 hrange (Nat.le_refl _)
  rw [hrun] at h
  obtain ⟨-, hpagesEq⟩ := Option.ite_none_right_eq_some.1 h
  obtain rfl := Option.some.inj hpagesEq
  intro a ha x hx
  obtain ⟨p, hp, rfl⟩ := List.mem_map.1 ha
  have hx : p.address.toNat ≤ x ∧ x < p.address.toNat + p.bytes.length := hx
  have hend : p.address.toNat + p.bytes.length ≤ offset.toNat + size.toNat :=
    (hpages.tiles.within (List.mem_map_of_mem hp)).2
  omega

/-- The bytes of a sector that is erased for the range. -/
theorem erase_below (h64 : this.totalSize ≤ 64 * 1024 * 1024) {fuel : Nat}
    {accesses : List FlashAccess} (hin : offset.toNat + size.toNat ≤ this.totalSize.toNat)
    (h : eraseLoop (offset + size) fuel offset = some accesses) :
    ∀ a ∈ accesses, ∀ x, this.Touches a x → x < (this.totalSize.toNat + 4095) / 4096 * 4096 := by
  have h64 : this.totalSize.toNat ≤ 67108864 := h64
  have hsum := this.toNat_sum hin
  intro a ha x hx
  obtain ⟨address, k, rfl, -, hlt⟩ := (mem_eraseLoop (by omega) h a).1 ha
  have hx : x / 4096 = address.toNat / 4096 := hx
  omega

/-- `erase` keeps to the device, rounded up to a sector, if and only if the sum does not wrap. -/
theorem erase_staysInside_iff (h64 : this.totalSize ≤ 64 * 1024 * 1024) :
    (∀ fuel r, this.erase offset size fuel = some r →
        this.StaysInside offset size ((this.totalSize.toNat + 4095) / 4096 * 4096) r) ↔
      ¬ this.WrapsPast offset size := by
  constructor
  · intro h hwraps
    have hguard := this.guard_iff.2 (Or.inr hwraps)
    have hend : ¬ offset < offset + size := by
      have hwrap := hwraps.1
      have hs := size.toNat_lt
      have ho := offset.toNat_lt
      rw [UInt32.not_lt, UInt32.le_iff_toNat_le, UInt32.toNat_add]
      show (offset.toNat + size.toNat) % 2 ^ 32 ≤ offset.toNat
      omega
    have hrun : this.erase offset size 1 = some (true, []) := by
      unfold erase eraseLoop
      rw [if_neg hguard, if_neg hend]
      rfl
    have hin := (h 1 _ hrun).inRange rfl
    have htotal := this.totalSize.toNat_lt
    have hwrap := hwraps.1
    omega
  · intro hwraps fuel r hrun
    unfold erase at hrun
    split at hrun
    · cases hrun
      exact this.staysInside_nothing offset size _
    · rename_i hguard
      obtain ⟨accesses, hloop, rfl⟩ := Option.map_eq_some_iff.1 hrun
      have hin := (this.guard_iff.1 hguard).resolve_right hwraps
      exact ⟨fun _ => hin, this.erase_below h64 hin hloop⟩

/-- A range whose sum wraps is neither empty nor one that the device holds. -/
theorem WrapsPast.outside (h : this.WrapsPast offset size) :
    size ≠ 0 ∧ this.totalSize.toNat < offset.toNat + size.toNat := by
  have htotal := this.totalSize.toNat_lt
  have ho := offset.toNat_lt
  have hwrap := h.1
  refine ⟨?_, by omega⟩
  rintro rfl
  have hzero : (0 : UInt32).toNat = 0 := rfl
  omega

/-- `write` keeps to the device if and only if it has no data or the sum does not wrap. -/
theorem write_staysInside_iff (data : Option BytePtr) :
    (∀ fuel r, this.write offset data size fuel = some r →
        this.StaysInside offset size this.totalSize.toNat r) ↔
      data = none ∨ ¬ this.WrapsPast offset size := by
  cases data with
  | none =>
      refine ⟨fun _ => Or.inl rfl, fun _ fuel r hrun => ?_⟩
      cases hrun
      exact this.staysInside_nothing offset size _
  | some data =>
      have hdata : (some data = none) = False := eq_false (by simp)
      rw [hdata, false_or]
      constructor
      · intro h hwraps
        obtain ⟨hsize, hout⟩ := hwraps.outside
        obtain ⟨accesses, hloop⟩ :
            ∃ accesses, writeLoop data (size.toNat + 1) offset 0 size = some accesses :=
          writeLoop_ends offset 0 (Nat.le_refl _)
        have hrun : this.write offset (some data) size (size.toNat + 1) = some (true, accesses) := by
          unfold write
          dsimp only
          rw [if_neg (not_or.2 ⟨this.guard_iff.2 (Or.inr hwraps), hsize⟩), hloop]
          rfl
        exact absurd ((h _ _ hrun).inRange rfl) (Nat.not_le.2 hout)
      · intro hwraps fuel r hrun
        unfold write at hrun
        dsimp only at hrun
        split at hrun
        · cases hrun
          exact this.staysInside_nothing offset size _
        · rename_i hguard
          obtain ⟨accesses, hloop, rfl⟩ := Option.map_eq_some_iff.1 hrun
          have hin := (this.guard_iff.1 (not_or.1 hguard).1).resolve_right hwraps
          exact ⟨fun _ => hin, this.write_below hin hloop⟩

/-- `read` keeps to the device if and only if it has no buffer or the sum does not wrap. -/
theorem read_staysInside_iff (mem : Mem 32) (bufferIsNull : Bool) :
    this.StaysInside offset size this.totalSize.toNat (this.read mem offset bufferIsNull size).1 ↔
      bufferIsNull ∨ ¬ this.WrapsPast offset size := by
  unfold read
  constructor
  · intro h
    by_contra hcond
    obtain ⟨hbuffer, hwraps⟩ := not_or.1 hcond
    have hwraps := not_not.1 hwraps
    obtain ⟨hsize, hout⟩ := hwraps.outside
    have hguard := this.guard_iff.2 (Or.inr hwraps)
    rw [if_neg (not_or.2 ⟨hguard, not_or.2 ⟨hbuffer, hsize⟩⟩)] at h
    exact absurd (h.inRange rfl) (Nat.not_le.2 hout)
  · intro hcond
    split
    · exact this.staysInside_nothing offset size _
    · rename_i hguard
      obtain ⟨hrange, hbuffer⟩ := not_or.1 hguard
      have hwraps := hcond.resolve_left (not_or.1 hbuffer).1
      have hin := (this.guard_iff.1 hrange).resolve_right hwraps
      refine ⟨fun _ => hin, fun a ha x hx => ?_⟩
      obtain rfl := List.mem_singleton.1 ha
      have hsrc : this.baseAddress + offset - this.baseAddress = offset := by
        rw [UInt32.add_comm, UInt32.add_sub_cancel]
      have hx : (this.baseAddress + offset - this.baseAddress).toNat ≤ x ∧
          x < (this.baseAddress + offset - this.baseAddress).toNat + size.toNat := hx
      rw [hsrc] at hx
      omega

/-- **When the driver keeps to the device**: if and only if the sum of `offset` and `size` does not wrap
to one that the guard lets pass; a null pointer is refused in any case. -/
theorem staysInside_iff (h64 : this.totalSize ≤ 64 * 1024 * 1024) (data : Option BytePtr)
    (mem : Mem 32) (bufferIsNull : Bool) :
    ((∀ fuel r, this.erase offset size fuel = some r →
        this.StaysInside offset size ((this.totalSize.toNat + 4095) / 4096 * 4096) r) ↔
      ¬ this.WrapsPast offset size) ∧
    ((∀ fuel r, this.write offset data size fuel = some r →
        this.StaysInside offset size this.totalSize.toNat r) ↔
      data = none ∨ ¬ this.WrapsPast offset size) ∧
    (this.StaysInside offset size this.totalSize.toNat (this.read mem offset bufferIsNull size).1 ↔
      bufferIsNull ∨ ¬ this.WrapsPast offset size) :=
  ⟨this.erase_staysInside_iff h64, this.write_staysInside_iff data,
    this.read_staysInside_iff mem bufferIsNull⟩

theorem staysInside_last_sector :
    create.StaysInside 0x03FFF000 0x1000 0x04000000 (true, [.sectorErase 0x03FFF000]) :=
  (create.staysInside_iff (by decide) none (fun _ => 0) true).1.2 (by unfold WrapsPast; decide) 2 _
    (by decide)

/-- The last sector of the address space, whose end wraps to 0, is read. -/
theorem wrapped_range_passes :
    ¬ ∀ (this : Stm32ExtMemFlash) (offset size : UInt32) (data : Option BytePtr) (mem : Mem 32)
        (bufferIsNull : Bool), this.totalSize ≤ 64 * 1024 * 1024 →
        (∀ fuel r, this.erase offset size fuel = some r →
            this.StaysInside offset size ((this.totalSize.toNat + 4095) / 4096 * 4096) r) ∧
          (∀ fuel r, this.write offset data size fuel = some r →
            this.StaysInside offset size this.totalSize.toNat r) ∧
          this.StaysInside offset size this.totalSize.toNat
            (this.read mem offset bufferIsNull size).1 := by
  intro h
  obtain ⟨-, -, hread⟩ := h create 0xFFFFF000 0x1000 none (fun _ => 0) false (by decide)
  exact absurd (hread.inRange (by decide)) (by decide)

end Stm32ExtMemFlash

end EmbeddedPixel
