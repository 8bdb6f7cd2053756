import Mathlib.Data.Set.List
import EmbeddedPixel.Foundation.Flash
import EmbeddedPixel.Targets.ExtMemFlash
import EmbeddedPixel.Targets.Xspi

/-!
# Programming in pages (`Stm32ExtMemFlash::write`)

`write` cuts its range at the page boundaries and calls `ram_xspi_program_page` for each piece.  Three
levels: what the controller is given for an access (`FlashAccess.drive`, `issues_drive`); the page programs
of a call, which put every byte in its place, once (`write_each_byte_once`); and what they leave in the
flash, which is what one write of the whole range leaves (`write_carriesOut`).
-/

set_option autoImplicit false

namespace EmbeddedPixel

open Foundation Foundation.Regs

/-! ## Accesses as the controller sees them -/

namespace FlashAccess

/-- What the loops of `erase` and `write` do for an access; a read of the mapped window needs nothing. -/
def drive (c : XspiConstants) : FlashAccess → Xspi Unit
  | .sectorErase address => do
    ramXspiAbort c
    ramXspiErase4k c address
    ramXspiRestoreMapped c
  | .pageProgram address data => do
    ramXspiAbort c
    ramXspiProgramPage c address (BytePtr.ofList data) (UInt32.ofNat data.length)
    ramXspiRestoreMapped c
  | .mappedRead _ _ => pure ()

/-- The commands an access comes to. -/
def commands : FlashAccess → List XspiWrite
  | .sectorErase address => [.ir 0x06F9, .ir 0x21DE, .ar address]
  | .pageProgram address data =>
    .ir 0x06F9 :: .dlr (UInt32.ofNat data.length - 1) :: .ir 0x12ED :: .ar address :: data.map .dr
  | .mappedRead _ _ => []

variable {c : XspiConstants} {readings : Nat → XspiRead → UInt32}

theorem issues_drive (h : AbortsEnd c readings) {a : FlashAccess}
    (hlen : ∀ address data, a = .pageProgram address data → data.length < 2 ^ 32) :
    Issues XspiWrite.isCommand readings (a.drive c) a.commands := by
  have habort := issues_ramXspiAbort c h
  have hrestore : Issues XspiWrite.isCommand readings (ramXspiRestoreMapped c) [] :=
    issues_ramXspiRestoreMapped c
  cases a with
  | sectorErase address =>
      exact Issues.after habort (Issues.before (issues_ramXspiErase4k c address) hrestore)
  | pageProgram address data =>
      have hbytes : bytesAt (BytePtr.ofList data) 0 (UInt32.ofNat data.length).toNat = data := by
        rw [UInt32.toNat_ofNat_of_lt' (hlen address data rfl), bytesAt_ofList]
      refine Issues.after habort (Issues.before ?_ hrestore)
      have hpage : Issues XspiWrite.isCommand readings _ _ := issues_ramXspiProgramPage c address
        (BytePtr.ofList data) (UInt32.ofNat data.length)
      rwa [hbytes] at hpage
  | mappedRead src size => exact Issues.pure

end FlashAccess

namespace Stm32ExtMemFlash

/-! ## The page programs of a call -/

/-- The page programs put the `size` bytes of `data` at `offset`, each byte once. -/
structure ProgramsOnce (data : BytePtr) (offset size : Nat) (pages : List PageProgram) : Prop where
  length_pos : ∀ p ∈ pages, 1 ≤ p.bytes.length
  length_le : ∀ p ∈ pages, p.bytes.length ≤ 256
  onePage : ∀ p ∈ pages, ∀ x, p.address.toNat ≤ x → x < p.address.toNat + p.bytes.length →
    x / 256 = p.address.toNat / 256
  /-- In increasing order, and no two overlap. -/
  increasing : pages.Pairwise fun p q => p.address.toNat + p.bytes.length ≤ q.address.toNat
  noGap : pages.IsChain fun p q => q.address.toNat = p.address.toNat + p.bytes.length
  covers : ∀ x, (offset ≤ x ∧ x < offset + size) ↔
    ∃ p ∈ pages, p.address.toNat ≤ x ∧ x < p.address.toNat + p.bytes.length
  carries : ∀ p ∈ pages, ∀ x, p.address.toNat ≤ x → x < p.address.toNat + p.bytes.length →
    p.bytes[x - p.address.toNat]? = some (data (x - offset))

variable {data : BytePtr}

theorem Pages.programsOnce {offset size : Nat} {pages : List PageProgram}
    (h : Pages data offset 0 size pages) : ProgramsOnce data offset size pages where
  length_pos p hp := (h.inPage p hp).1
  length_le p hp := by
    have hin := (h.inPage p hp).2
    omega
  onePage p hp x hx hx' := by
    have hin := (h.inPage p hp).2
    omega
  increasing := List.pairwise_map.1 h.tiles.ordered
  noGap := (List.isChain_map _).1 h.tiles.adjacent
  covers x := by
    rw [h.tiles.mem_iff]
    simp only [List.mem_map, exists_exists_and_eq_and]
    rfl
  carries p hp x hx hx' := by
    have hmem := List.mem_map_of_mem (f := PageProgram.piece) hp
    have hge : offset ≤ p.address.toNat := (h.tiles.within hmem).1
    have hlt : p.address.toNat + p.bytes.length ≤ offset + size := (h.tiles.within hmem).2
    have hi : x - p.address.toNat < p.piece.2.length := by
      show _ < p.bytes.length
      omega
    have hpiece := h.tiles.getElem?_of_mem hmem hi
    have hpos : p.piece.1 - offset + (x - p.address.toNat) = x - offset := by
      show p.address.toNat - offset + _ = _
      omega
    have hk : x - offset < (bytesAt data 0 size).length := by
      rw [length_bytesAt]
      omega
    rw [hpos, h.bytes, List.getElem?_eq_getElem hk, getElem_bytesAt, Nat.zero_add] at hpiece
    exact hpiece.symm

/-- `write` of a range that the device holds is its loop. -/
theorem write_eq (this : Stm32ExtMemFlash) {offset size : UInt32} (hsize : 1 ≤ size)
    (h : offset.toNat + size.toNat ≤ this.totalSize.toNat) (fuel : Nat) :
    this.write offset (some data) size fuel =
      (writeLoop data fuel offset 0 size).map fun accesses => (true, accesses) := by
  have hguard := this.guard_iff.2 (Or.inl h)
  have hpos : size ≠ 0 := by
    rintro rfl
    exact absurd hsize (by decide)
  exact if_neg (not_or.2 ⟨hguard, hpos⟩)

/-- **`write` programs each byte once**: it comes to its end, in a turn for each page program and one
more, and its page programs put the data in its place.  On a controller that ends its aborts they are the
commands that the flash is given. -/
theorem write_each_byte_once (this : Stm32ExtMemFlash) {offset size : UInt32} (hsize : 1 ≤ size)
    (h : offset.toNat + size.toNat ≤ this.totalSize.toNat) (data : BytePtr) :
    ∃ pages, ProgramsOnce data offset.toNat size.toNat pages ∧
      (∀ fuel, this.write offset (some data) size fuel =
        if pages.length < fuel then some (true, pages.map PageProgram.access) else none) ∧
      ∀ c readings, AbortsEnd c readings →
        Issues XspiWrite.isCommand readings ((pages.map PageProgram.access).forM (FlashAccess.drive c))
          ((pages.map PageProgram.access).flatMap FlashAccess.commands) := by
  have hrange : offset.toNat + size.toNat < 2 ^ 32 := by
    have htotal := this.totalSize.toNat_lt
    omega
  obtain ⟨pages, hpages, hrun⟩ := writeLoop_pages data 0 hrange (Nat.le_refl _)
  have hone := hpages.programsOnce
  refine ⟨pages, hone, fun fuel => ?_, fun c readings haborts => ?_⟩
  · rw [this.write_eq hsize h, hrun]
    split
    · rfl
    · rfl
  · refine Issues.forM fun a ha => FlashAccess.issues_drive haborts fun address bytes hpage => ?_
    obtain ⟨p, hp, rfl⟩ := List.mem_map.1 ha
    obtain ⟨-, rfl⟩ := FlashAccess.pageProgram.inj hpage
    have hle := hone.length_le p hp
    omega

theorem PageProgram.access_injective : Function.Injective PageProgram.access := by
  rintro ⟨address, bytes⟩ ⟨address', bytes'⟩ h
  obtain ⟨rfl, rfl⟩ := FlashAccess.pageProgram.inj h
  rfl

/-- Constants with a bit, or a field of bits, for each name. -/
def someBits : XspiConstants where
  XSPI_CR_ABORT := 0x2
  XSPI_CR_FMODE := 0x30000000
  XSPI_CR_FMODE_0 := 0x10000000
  XSPI_CR_FMODE_1 := 0x20000000
  XSPI_CR_EN := 0x1
  XSPI_FCR_CTCF := 0x2
  XSPI_FCR_CTEF := 0x1
  XSPI_FCR_CSMF := 0x8
  XSPI_SR_TCF := 0x2
  XSPI_SR_FTF := 0x4
  XSPI_CCR_ISIZE_0 := 0x10
  XSPI_CCR_IMODE_Pos := 0
  XSPI_CCR_ADSIZE_0 := 0x1000
  XSPI_CCR_ADSIZE_1 := 0x2000
  XSPI_CCR_ADMODE_Pos := 8
  XSPI_CCR_ADDTR := 0x800
  XSPI_CCR_DMODE_Pos := 24
  XSPI_CCR_DDTR := 0x8000000

/-- Four bytes across a page boundary, on a controller that is never busy. -/
theorem write_each_byte_once_boundary :
    ProgramsOnce (fun i => UInt8.ofNat i) 0xFE 4 [⟨0xFE, [0, 1]⟩, ⟨0x100, [2, 3]⟩] ∧
      Issues XspiWrite.isCommand (fun _ _ => 0)
        ([.pageProgram 0xFE [0, 1], .pageProgram 0x100 [2, 3]].forM (FlashAccess.drive someBits))
        [.ir 0x06F9, .dlr 1, .ir 0x12ED, .ar 0xFE, .dr 0, .dr 1,
          .ir 0x06F9, .dlr 1, .ir 0x12ED, .ar 0x100, .dr 2, .dr 3] := by
  have hin : (0xFE : UInt32).toNat + (4 : UInt32).toNat ≤ create.totalSize.toNat := by decide
  obtain ⟨pages, hone, hrun, hissues⟩ :=
    create.write_each_byte_once (by decide) hin fun i => UInt8.ofNat i
  have hpages : pages = [⟨0xFE, [0, 1]⟩, ⟨0x100, [2, 3]⟩] := by
    have hvalue : create.write 0xFE (some fun i => UInt8.ofNat i) 4 3 =
        some (true, [⟨0xFE, [0, 1]⟩, ⟨0x100, [2, 3]⟩].map PageProgram.access) := by decide
    rw [hrun] at hvalue
    obtain ⟨-, hsome⟩ := Option.ite_none_right_eq_some.1 hvalue
    exact PageProgram.access_injective.list_map (congrArg Prod.snd (Option.some.inj hsome))
  subst hpages
  exact ⟨hone, hissues someBits (fun _ _ => 0) fun n => ⟨n, Nat.le_refl n, UInt32.zero_and⟩⟩

/-! ## What is stored -/

variable (this : Stm32ExtMemFlash)

/-- What an access makes the flash do: an erase command erases the sector of its address. -/
def flashCmd : FlashAccess → FlashCmd
  | .sectorErase address => .erase (address.toNat / 4096 * 4096) 4096
  | .pageProgram address bytes => .write address.toNat bytes
  | .mappedRead src size => .read (src - this.baseAddress).toNat size.toNat

/-- What the accesses leave in the flash. -/
def leaves (nor : Nor) (accesses : List FlashAccess) (f : Flash) : Flash :=
  (nor.perform (accesses.map this.flashCmd) f).2

/-- The memory-mapped window. -/
def window (f : Flash) : Mem 32 := fun a => f (a - this.baseAddress.toBitVec).toNat

variable {offset size : UInt32}

/-- **The pages are one write**: `write` leaves in the flash what a single write of the range leaves. -/
theorem write_carriesOut (hsize : 1 ≤ size)
    (h : offset.toNat + size.toNat ≤ this.totalSize.toNat) {fuel : Nat} {accesses : List FlashAccess}
    (hwrite : this.write offset (some data) size fuel = some (true, accesses)) (nor : Nor) (f : Flash) :
    nor.perform (accesses.map this.flashCmd) f =
      nor.carryOut f (.write offset.toNat (bytesAt data 0 size.toNat)) := by
  have hrange : offset.toNat + size.toNat < 2 ^ 32 := by
    have htotal := this.totalSize.toNat_lt
    omega
  obtain ⟨pages, hpages, hrun⟩ := writeLoop_pages data 0 hrange (Nat.le_refl _)
  rw [this.write_eq hsize h, hrun, Option.map_eq_some_iff] at hwrite
  obtain ⟨programs, hprograms, heq⟩ := hwrite
  obtain ⟨-, hsome⟩ := Option.ite_none_right_eq_some.1 hprograms
  obtain rfl := Option.some.inj hsome
  obtain rfl := congrArg Prod.snd heq
  have hone := nor.perform_tiles hpages.tiles f
  rw [hpages.bytes, List.map_map] at hone
  rw [List.map_map]
  exact hone

/-- Erase commands leave `0xFF` in the sectors they touch. -/
theorem perform_sectorErases {accesses : List FlashAccess}
    (h : ∀ a ∈ accesses, a ∈ Set.range FlashAccess.sectorErase) (nor : Nor) (f : Flash) (x : Nat) :
    this.leaves nor accesses f x =
      if ∃ a ∈ accesses, this.Touches a x then 0xFF else f x := by
  have hrange : accesses ∈ Set.range (List.map FlashAccess.sectorErase) := by
    rw [Set.range_list_map]
    exact h
  obtain ⟨addresses, rfl⟩ := hrange
  have hcmds : (addresses.map FlashAccess.sectorErase).map this.flashCmd =
      (addresses.map fun a => a.toNat / 4096 * 4096).map (.erase · 4096) := by
    rw [List.map_map, List.map_map]
    rfl
  unfold leaves
  rw [hcmds, nor.perform_erases]
  have htouched : (∃ a ∈ addresses.map fun a => a.toNat / 4096 * 4096, a ≤ x ∧ x < a + 4096) ↔
      ∃ a ∈ addresses.map FlashAccess.sectorErase, this.Touches a x := by
    simp only [List.mem_map, exists_exists_and_eq_and]
    refine exists_congr fun a => and_congr_right fun _ => ?_
    show _ ↔ x / 4096 = a.toNat / 4096
    omega
  simp only [htouched]

/-- `read` of a range that the device holds copies it out of the flash. -/
theorem read_window (hsize : 1 ≤ size) (h : offset.toNat + size.toNat ≤ this.totalSize.toNat)
    (f : Flash) :
    this.read (this.window f) offset false size =
      ((true, [.mappedRead (this.baseAddress + offset) size]), bytesAt f offset.toNat size.toNat) := by
  have htotal := this.totalSize.toNat_lt
  have hpos : size ≠ 0 := by
    rintro rfl
    exact absurd hsize (by decide)
  have hguard := this.guard_iff.2 (Or.inl h)
  unfold read
  rw [if_neg (not_or.2 ⟨hguard, not_or.2 ⟨Bool.false_ne_true, hpos⟩⟩)]
  refine Prod.ext rfl (bytesAt_congr fun i hi => ?_)
  have hsub : (this.baseAddress + offset).toBitVec + BitVec.ofNat 32 (0 + i) -
      this.baseAddress.toBitVec = offset.toBitVec + BitVec.ofNat 32 i := by
    rw [UInt32.toBitVec_add, Nat.zero_add]
    ring
  have haddress : (offset.toBitVec + BitVec.ofNat 32 i).toNat = offset.toNat + i := by
    rw [BitVec.toNat_add, BitVec.toNat_ofNat, UInt32.toNat_toBitVec, Nat.add_mod_mod]
    exact Nat.mod_eq_of_lt (by omega)
  show f _ = f _
  rw [hsub, haddress]

end Stm32ExtMemFlash

end EmbeddedPixel
