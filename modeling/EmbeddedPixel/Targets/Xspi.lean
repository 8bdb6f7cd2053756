import EmbeddedPixel.Foundation.Bytes
import EmbeddedPixel.Foundation.Registers

/-!
# The flash controller (`ram_xspi_*` of `stm32h7/hal_impl/Stm32ExtMemFlash.cpp`)

The functions that drive `XSPI2`, register by register: what they write, what they poll, and for how long.
The masks and positions are those of a header that is not part of the repository, and what a read of `CR`
or `SR` finds is the controller's.  An instruction is given to the flash by `DLR`, `IR`, `AR` and `DR`; the
writes to them are its commands (`isCommand`).

Principal results: `issues_ramXspiErase4k`, `issues_ramXspiProgramPage` — whatever is read, each function
comes to its end and gives the flash a write enable and one instruction; `issues_ramXspiAbort` — for a
controller that clears the abort bit some time.
-/

set_option autoImplicit false

namespace EmbeddedPixel

open Foundation Foundation.Regs

/-- The constants of the CMSIS header. -/
structure XspiConstants where
  XSPI_CR_ABORT : UInt32
  XSPI_CR_FMODE : UInt32
  XSPI_CR_FMODE_0 : UInt32
  XSPI_CR_FMODE_1 : UInt32
  XSPI_CR_EN : UInt32
  XSPI_FCR_CTCF : UInt32
  XSPI_FCR_CTEF : UInt32
  XSPI_FCR_CSMF : UInt32
  XSPI_SR_TCF : UInt32
  XSPI_SR_FTF : UInt32
  XSPI_CCR_ISIZE_0 : UInt32
  XSPI_CCR_IMODE_Pos : UInt32
  XSPI_CCR_ADSIZE_0 : UInt32
  XSPI_CCR_ADSIZE_1 : UInt32
  XSPI_CCR_ADMODE_Pos : UInt32
  XSPI_CCR_ADDTR : UInt32
  XSPI_CCR_DMODE_Pos : UInt32
  XSPI_CCR_DDTR : UInt32

/-- A write to a register of `XSPI2`; those to `DR` are bytes. -/
inductive XspiWrite where
  | cr (value : UInt32)
  | fcr (value : UInt32)
  | ccr (value : UInt32)
  | tcr (value : UInt32)
  | dlr (value : UInt32)
  | ir (value : UInt32)
  | ar (value : UInt32)
  | dr (value : UInt8)
  deriving DecidableEq, Repr

/-- The registers that are read. -/
inductive XspiRead where
  | cr
  | sr
  deriving DecidableEq, Repr

/-- Whether a write gives the flash an instruction, or a part of one. -/
def XspiWrite.isCommand : XspiWrite → Bool
  | .dlr _ | .ir _ | .ar _ | .dr _ => true
  | .cr _ | .fcr _ | .ccr _ | .tcr _ => false

abbrev Xspi := Regs XspiWrite XspiRead UInt32

variable (c : XspiConstants)

/-- `XSPI2->CR |= bits` -/
def setCr (bits : UInt32) : Xspi Unit := do
  let cr ← get .cr
  set (.cr (cr ||| bits))

/-- `XSPI2->CR &= ~bits` -/
def clearCr (bits : UInt32) : Xspi Unit := do
  let cr ← get .cr
  set (.cr (cr &&& ~~~bits))

/-- `while ((XSPI2->SR & mask) == 0 && --timeout > 0) {}` -/
def pollSr (mask : UInt32) : (timeout : Nat) → Xspi Unit
  | 0 => pure ()
  | timeout + 1 => do
    let sr ← get .sr
    if sr &&& mask = 0 ∧ timeout > 0 then pollSr mask timeout else pure ()

def ramXspiAbort : Xspi Unit := do
  setCr c.XSPI_CR_ABORT
  waitFor .cr fun cr => cr &&& c.XSPI_CR_ABORT == 0
  set (.fcr (c.XSPI_FCR_CTCF ||| c.XSPI_FCR_CTEF ||| c.XSPI_FCR_CSMF))
  clearCr c.XSPI_CR_FMODE
  setCr c.XSPI_CR_EN

def ramXspiRestoreMapped : Xspi Unit := do
  clearCr c.XSPI_CR_FMODE
  setCr (c.XSPI_CR_FMODE_1 ||| c.XSPI_CR_FMODE_0)
  setCr c.XSPI_CR_EN

def ramXspiWriteEnable : Xspi Unit := do
  set (.ccr (c.XSPI_CCR_ISIZE_0 ||| (7 <<< c.XSPI_CCR_IMODE_Pos)))
  set (.tcr 0)
  set (.ir 0x06F9)
  pollSr c.XSPI_SR_TCF 100000
  set (.fcr c.XSPI_FCR_CTCF)

/-- `ram_xspi_erase_4k`. -/
def ramXspiErase4k (address : UInt32) : Xspi Unit := do
  ramXspiWriteEnable c
  set (.ccr (c.XSPI_CCR_ISIZE_0 ||| (7 <<< c.XSPI_CCR_IMODE_Pos) |||
    c.XSPI_CCR_ADSIZE_0 ||| c.XSPI_CCR_ADSIZE_1 ||| (7 <<< c.XSPI_CCR_ADMODE_Pos) ||| c.XSPI_CCR_ADDTR))
  set (.tcr 0)
  set (.ir 0x21DE)
  set (.ar address)
  pollSr c.XSPI_SR_TCF 100000
  set (.fcr c.XSPI_FCR_CTCF)

/-- `ram_xspi_program_page`. -/
def ramXspiProgramPage (address : UInt32) (data : BytePtr) (len : UInt32) : Xspi Unit := do
  ramXspiWriteEnable c
  set (.ccr (c.XSPI_CCR_ISIZE_0 ||| (7 <<< c.XSPI_CCR_IMODE_Pos) |||
    c.XSPI_CCR_ADSIZE_0 ||| c.XSPI_CCR_ADSIZE_1 ||| (7 <<< c.XSPI_CCR_ADMODE_Pos) ||| c.XSPI_CCR_ADDTR |||
    (7 <<< c.XSPI_CCR_DMODE_Pos) ||| c.XSPI_CCR_DDTR))
  set (.tcr 0)
  set (.dlr (len - 1))
  set (.ir 0x12ED)
  set (.ar address)
  (List.range len.toNat).forM fun i => do
    pollSr (c.XSPI_SR_FTF ||| c.XSPI_SR_TCF) 100000
    set (.dr (data i))
  pollSr c.XSPI_SR_TCF 100000
  set (.fcr c.XSPI_FCR_CTCF)

/-! ## What they issue -/

variable {readings : Nat → XspiRead → UInt32}

/-- The controller clears the abort bit, whenever it was set. -/
def AbortsEnd (readings : Nat → XspiRead → UInt32) : Prop :=
  ∀ n, ∃ m, n ≤ m ∧ readings m .cr &&& c.XSPI_CR_ABORT = 0

theorem issues_setCr (bits : UInt32) : Issues XspiWrite.isCommand readings (setCr bits) [] :=
  Issues.read fun _ => Issues.set _ readings

theorem issues_clearCr (bits : UInt32) : Issues XspiWrite.isCommand readings (clearCr bits) [] :=
  Issues.read fun _ => Issues.set _ readings

/-- A poll ends when its bit is set, or when the timeout is used up. -/
theorem issues_pollSr (mask : UInt32) (timeout : Nat) :
    Issues XspiWrite.isCommand readings (pollSr mask timeout) [] := by
  induction timeout with
  | zero => exact Issues.pure
  | succ timeout ih =>
      refine Issues.read fun sr => ?_
      split
      · exact ih
      · exact Issues.pure

theorem issues_ramXspiAbort (h : AbortsEnd c readings) :
    Issues XspiWrite.isCommand readings (ramXspiAbort c) [] := by
  have hdone : ∀ n, ∃ m, n ≤ m ∧ (readings m .cr &&& c.XSPI_CR_ABORT == 0) = true := by
    intro n
    obtain ⟨m, hm, hcleared⟩ := h n
    exact ⟨m, hm, by rw [hcleared]; rfl⟩
  unfold ramXspiAbort
  refine Issues.after (issues_setCr _) (Issues.after (Issues.wait hdone) ?_)
  refine Issues.silent rfl (Issues.after (issues_clearCr _) ?_)
  exact issues_setCr _

theorem issues_ramXspiRestoreMapped :
    Issues XspiWrite.isCommand readings (ramXspiRestoreMapped c) [] :=
  Issues.after (issues_clearCr _) (Issues.after (issues_setCr _) (issues_setCr _))

/-- How an instruction ends. -/
theorem issues_finish : Issues XspiWrite.isCommand readings
    (pollSr c.XSPI_SR_TCF 100000 >>= fun _ => set (.fcr c.XSPI_FCR_CTCF)) [] :=
  Issues.after (issues_pollSr _ _) (Issues.set _ readings)

theorem issues_ramXspiWriteEnable :
    Issues XspiWrite.isCommand readings (ramXspiWriteEnable c) [.ir 0x06F9] :=
  Issues.silent rfl (Issues.silent rfl (Issues.shown rfl (issues_finish c)))

/-- **A sector erase**: a write enable, then the instruction with its address. -/
theorem issues_ramXspiErase4k (address : UInt32) :
    Issues XspiWrite.isCommand readings (ramXspiErase4k c address)
      [.ir 0x06F9, .ir 0x21DE, .ar address] := by
  unfold ramXspiErase4k
  refine Issues.bind (issues_ramXspiWriteEnable c) ?_
  refine Issues.silent rfl (Issues.silent rfl ?_)
  exact Issues.shown rfl (Issues.shown rfl (issues_finish c))

/-- **A page program**: a write enable, then the instruction with its address, and one byte after the
other. -/
theorem issues_ramXspiProgramPage (address : UInt32) (data : BytePtr) (len : UInt32) :
    Issues XspiWrite.isCommand readings (ramXspiProgramPage c address data len)
      (.ir 0x06F9 :: .dlr (len - 1) :: .ir 0x12ED :: .ar address ::
        (bytesAt data 0 len.toNat).map .dr) := by
  have hbyte : ∀ i ∈ List.range len.toNat, Issues XspiWrite.isCommand readings
      (pollSr (c.XSPI_SR_FTF ||| c.XSPI_SR_TCF) 100000 >>= fun _ => set (.dr (data i)))
      [.dr (data i)] := fun i _ => Issues.after (issues_pollSr _ _) (Issues.set _ readings)
  unfold ramXspiProgramPage
  refine Issues.bind (issues_ramXspiWriteEnable c) ?_
  refine Issues.silent rfl (Issues.silent rfl ?_)
  refine Issues.shown rfl (Issues.shown rfl (Issues.shown rfl ?_))
  have hstream : (bytesAt data 0 len.toNat).map XspiWrite.dr =
      (List.range len.toNat).flatMap fun i => [.dr (data i)] := by
    rw [← List.map_eq_flatMap, bytesAt, List.map_map]
    simp only [Function.comp_def, Nat.zero_add]
  rw [hstream]
  exact Issues.before (Issues.forM hbyte) (issues_finish c)

end EmbeddedPixel
