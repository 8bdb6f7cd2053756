import Mathlib
import EmbeddedPixel.Foundation.Devices

/-!
# The link (`drivers/lan8742/Lan8742Phy.cpp`, `stm32h7/hal_impl/Stm32H7Eth.cpp`, `Stm32H7Mdio.cpp`)

The driver of the PHY and what the driver of the MAC does with it, as programs that call the HAL: `EthCommand`
where the source passes over what a call returns, `EthRequest` where it looks at it, and the answer is `none`
where the call fails.  Delays, clocks, caches and the log are left out.

`macAccesses`: what is done to the MAC.  `init_spec`, `isLinkUp_spec`, `waitForLink_spec`: what each function
does to it, whatever the calls answer.
-/

set_option autoImplicit false

namespace EmbeddedPixel

open Foundation Foundation.Regs

/-- `hal::EthSpeed` -/
inductive EthSpeed where
  | Speed10M
  | Speed100M
  | Speed1G
  deriving DecidableEq, Repr

/-- `hal::EthDuplex` -/
inductive EthDuplex where
  | Half
  | Full
  deriving DecidableEq, Repr

/-- `ETH_SPEED_100M` and `ETH_SPEED_10M` -/
inductive MacSpeed where
  | ETH_SPEED_10M
  | ETH_SPEED_100M
  deriving DecidableEq, Repr

/-- `ETH_FULLDUPLEX_MODE` and `ETH_HALFDUPLEX_MODE` -/
inductive MacDuplex where
  | ETH_HALFDUPLEX_MODE
  | ETH_FULLDUPLEX_MODE
  deriving DecidableEq, Repr

/-- `HAL_ETH_WritePHYRegister`, `HAL_ETH_SetMACConfig`, of whose configuration speed and duplex are set,
`HAL_ETH_Start`, and `HAL_ETH_SetMACFilterConfig` with `PromiscuousMode` enabled. -/
inductive EthCommand where
  | mdio (phyAddr reg : UInt8) (value : UInt16)
  | setMacConfig (speed : MacSpeed) (duplex : MacDuplex)
  | start
  | promiscuous
  deriving DecidableEq, Repr

/-- `HAL_ETH_ReadPHYRegister`, `HAL_GetTick`, `HAL_ETH_Init`, which sets the MAC up, `HAL_ETH_GetMACConfig` and
`HAL_ETH_GetMACFilterConfig`. -/
inductive EthRequest where
  | mdio (phyAddr reg : UInt8)
  | tick
  | ethInit
  | macConfig
  | macFilterConfig
  deriving DecidableEq, Repr

abbrev EthDriver := Regs EthCommand EthRequest (Option UInt32)

abbrev EthAccess := Access EthCommand EthRequest (Option UInt32)

/-- `HAL_GetTick` -/
def halGetTick : EthDriver UInt32 := do
  let tick ← get .tick
  return tick.getD 0

/-- `Stm32H7Mdio::read` -/
def mdioRead (phyAddr reg : UInt8) : EthDriver (Option UInt16) := do
  let reg32 ← get (.mdio phyAddr reg)
  return reg32.map (·.toUInt16)

def REG_BMCR : UInt8 := 0
def REG_BMSR : UInt8 := 1
def REG_PHYIDR1 : UInt8 := 2
def REG_PHYIDR2 : UInt8 := 3
def REG_PHYSCSR : UInt8 := 31
def BMCR_RESET : UInt16 := (1 : UInt16) <<< 15
def BMSR_LINK_UP : UInt16 := (1 : UInt16) <<< 2
def BMSR_AUTONEG_COMPLETE : UInt16 := (1 : UInt16) <<< 5
def PHYSCSR_SPEED_MASK : UInt16 := 0x001C
def PHYSCSR_10HALF : UInt16 := 0x0004
def PHYSCSR_100HALF : UInt16 := 0x0008
def PHYSCSR_10FULL : UInt16 := 0x0014
def PHYSCSR_100FULL : UInt16 := 0x0018

/-- `attached` is whether `mdio_` is not null. -/
structure Lan8742Phy where
  attached : Bool
  phyAddr : UInt8
  deriving DecidableEq, Repr

namespace Lan8742Phy

variable (this : Lan8742Phy)

/-- The loop of `init`; `turns` bounds its rounds, and `none` is that they are up. -/
def pollReset (tick : UInt32) : (turns : Nat) → EthDriver (Option Bool)
  | 0 => pure none
  | turns + 1 => do
    match ← mdioRead this.phyAddr REG_BMCR with
    | none => pure (some false)
    | some reg =>
      if reg &&& BMCR_RESET ≠ 0 then do
        let now ← halGetTick
        if now - tick < 500 then pollReset tick turns else pure (some false)
      else pure (some true)

def init (turns : Nat) : EthDriver (Option Bool) :=
  if this.attached then do
    match ← mdioRead this.phyAddr REG_BMCR with
    | none => pure (some false)
    | some reg =>
      set (.mdio this.phyAddr REG_BMCR (reg ||| BMCR_RESET))
      let tick ← halGetTick
      pollReset this tick turns
  else pure (some false)

def isLinkUp : EthDriver Bool :=
  if this.attached then do
    match ← mdioRead this.phyAddr REG_BMSR with
    | none => pure false
    | some bmsr => pure (bmsr &&& BMSR_LINK_UP ≠ 0 ∧ bmsr &&& BMSR_AUTONEG_COMPLETE ≠ 0)
  else pure false

def getId : EthDriver UInt32 :=
  if this.attached then do
    match ← mdioRead this.phyAddr REG_PHYIDR1 with
    | none => pure 0xFFFFFFFF
    | some id1 =>
      match ← mdioRead this.phyAddr REG_PHYIDR2 with
      | none => pure 0xFFFFFFFF
      | some id2 => pure ((id1.toUInt32 <<< 16) ||| id2.toUInt32)
  else pure 0xFFFFFFFF

/-- The `switch` of `getLinkConfig`. -/
def linkConfig (physcsr : UInt16) : EthSpeed × EthDuplex :=
  let mode := physcsr &&& PHYSCSR_SPEED_MASK
  if mode = PHYSCSR_100FULL then (.Speed100M, .Full)
  else if mode = PHYSCSR_100HALF then (.Speed100M, .Half)
  else if mode = PHYSCSR_10FULL then (.Speed10M, .Full)
  else if mode = PHYSCSR_10HALF then (.Speed10M, .Half)
  else (.Speed10M, .Half)

/-- `getLinkConfig`; `none` leaves its arguments as they were. -/
def getLinkConfig : EthDriver (Option (EthSpeed × EthDuplex)) :=
  if this.attached then do
    match ← mdioRead this.phyAddr REG_PHYSCSR with
    | none => pure none
    | some physcsr => pure (some (linkConfig physcsr))
  else pure none

end Lan8742Phy

namespace Stm32H7Eth

/-- `speed` and `duplex` of `WaitForLink`. -/
def macMode (speed : EthSpeed) (duplex : EthDuplex) : MacSpeed × MacDuplex :=
  (if speed = .Speed100M then .ETH_SPEED_100M else .ETH_SPEED_10M,
    if duplex = .Full then .ETH_FULLDUPLEX_MODE else .ETH_HALFDUPLEX_MODE)

/-- `Init`, with the PHY as it is then. -/
def init (phy : Lan8742Phy) (turns : Nat) : EthDriver (Option Bool × Lan8742Phy) := do
  match ← get .ethInit with
  | none => pure (some false, phy)
  | some _ =>
    let phy := { phy with attached := true }
    let ok ← phy.init turns
    pure (ok, phy)

/-- The registers of the PHY with address 0, for the log. -/
def dumpRegisters : EthDriver Unit :=
  (List.range 32).forM fun i => do
    let _ ← get (.mdio 0 (UInt8.ofNat i))

/-- `if (get(..) == HAL_OK) { set(..); }` -/
def whenOk (r : EthRequest) (w : EthCommand) : EthDriver Unit := do
  let answer ← get r
  if answer.isSome then set w else pure ()

/-- What `WaitForLink` does once the link is up; `stack` is what `halSpeed` and `halDuplex` hold before they
are set. -/
def bringUp (phy : Lan8742Phy) (stack : EthSpeed × EthDuplex) : EthDriver Unit := do
  let config ← phy.getLinkConfig
  let (speed, duplex) := macMode (config.getD stack).1 (config.getD stack).2
  whenOk .macConfig (.setMacConfig speed duplex)
  dumpRegisters
  set .start
  whenOk .macFilterConfig .promiscuous

/-- The loop of `WaitForLink`; `turns` bounds its rounds, and `none` is that they are up. -/
def pollLink (phy : Lan8742Phy) (timeoutMs : UInt32) (stack : EthSpeed × EthDuplex) (tickstart : UInt32) :
    (turns : Nat) → EthDriver (Option Bool)
  | 0 => pure none
  | turns + 1 => do
    let now ← halGetTick
    if now - tickstart < timeoutMs then do
      if ← phy.isLinkUp then do
        bringUp phy stack
        pure (some true)
      else pollLink phy timeoutMs stack tickstart turns
    else pure (some false)

/-- `WaitForLink` -/
def waitForLink (phy : Lan8742Phy) (timeoutMs : UInt32) (stack : EthSpeed × EthDuplex) (turns : Nat) :
    EthDriver (Option Bool) := do
  let tickstart ← halGetTick
  pollLink phy timeoutMs stack tickstart turns

/-! ## What is done to the MAC -/

def onMac : EthAccess → Bool
  | .wrote (.mdio _ _ _) => false
  | .found (.mdio _ _) _ => false
  | .found .tick _ => false
  | _ => true

/-- All accesses but those of the PHY and of the clock. -/
def macAccesses (log : List EthAccess) : List EthAccess := log.filter onMac

@[simp] theorem macAccesses_append (l l' : List EthAccess) :
    macAccesses (l ++ l') = macAccesses l ++ macAccesses l' :=
  List.filter_append l l'

@[simp] theorem macAccesses_nil : macAccesses [] = [] := rfl

@[simp] theorem macAccesses_cons_tick (v : Option UInt32) (l : List EthAccess) :
    macAccesses (.found .tick v :: l) = macAccesses l := rfl

@[simp] theorem macAccesses_cons_read (phyAddr reg : UInt8) (v : Option UInt32) (l : List EthAccess) :
    macAccesses (.found (.mdio phyAddr reg) v :: l) = macAccesses l := rfl

@[simp] theorem macAccesses_cons_write (phyAddr reg : UInt8) (value : UInt16) (l : List EthAccess) :
    macAccesses (.wrote (.mdio phyAddr reg value) :: l) = macAccesses l := rfl

/-- The mode for what was read of register 31; without it, for what there was on the stack. -/
def modeFor (stack : EthSpeed × EthDuplex) (physcsr : Option UInt32) : MacSpeed × MacDuplex :=
  let config := (physcsr.map fun v => Lan8742Phy.linkConfig v.toUInt16).getD stack
  macMode config.1 config.2

/-- What `whenOk` does. -/
def whenOkLog (r : EthRequest) (w : EthCommand) (answer : Option UInt32) : List EthAccess :=
  .found r answer :: if answer.isSome then [.wrote w] else []

/-- What `bringUp` does, given what it is answered; `dump` is what is read for the log. -/
def bringUpLog (phyAddr : UInt8) (stack : EthSpeed × EthDuplex) (physcsr config filter : Option UInt32)
    (dump : List EthAccess) : List EthAccess :=
  .found (.mdio phyAddr REG_PHYSCSR) physcsr ::
    (whenOkLog .macConfig (.setMacConfig (modeFor stack physcsr).1 (modeFor stack physcsr).2) config ++
      (dump ++ (.wrote .start :: whenOkLog .macFilterConfig .promiscuous filter)))

/-- Register 1 says that the link is up. -/
def LinkBits (bmsr : UInt16) : Prop := bmsr &&& BMSR_LINK_UP ≠ 0 ∧ bmsr &&& BMSR_AUTONEG_COMPLETE ≠ 0

/-- The link is found up, and the MAC brought up. -/
def BroughtUp (phyAddr : UInt8) (stack : EthSpeed × EthDuplex) (log : List EthAccess) : Prop :=
  ∃ bmsr physcsr config filter dump, LinkBits bmsr.toUInt16 ∧
    (∀ a ∈ dump, ∃ reg v, a = .found (.mdio 0 reg) v) ∧
    log = .found (.mdio phyAddr REG_BMSR) (some bmsr) :: bringUpLog phyAddr stack physcsr config filter dump

/-- What a call of `WaitForLink` does to the MAC: where it returns true, it brings it up once the link is found
up, and else it leaves it alone. -/
def Waited (phyAddr : UInt8) (stack : EthSpeed × EthDuplex) (log : List EthAccess) (up : Bool) : Prop :=
  if up then ∃ before found, log = before ++ found ∧ macAccesses before = [] ∧ BroughtUp phyAddr stack found
  else macAccesses log = []

variable {phy : Lan8742Phy} {stack : EthSpeed × EthDuplex} {timeoutMs : UInt32} {turns : Nat}

theorem halGetTick_spec : halGetTick.wlp fun log _ => macAccesses log = [] := by
  unfold halGetTick
  simp

theorem isLinkUp_spec : phy.isLinkUp.wlp fun log up => macAccesses log = [] ∧
    (up = true → phy.attached = true ∧ ∃ bmsr, LinkBits bmsr.toUInt16 ∧
      log = [.found (.mdio phy.phyAddr REG_BMSR) (some bmsr)]) := by
  unfold Lan8742Phy.isLinkUp
  split
  · rename_i hattached
    unfold mdioRead
    simp only [wlp_bind, wlp_get, wlp_pure]
    intro v
    cases v with
    | none => exact ⟨rfl, fun h => absurd h Bool.false_ne_true⟩
    | some bmsr =>
        refine ⟨rfl, fun h => ⟨hattached, bmsr, ?_, rfl⟩⟩
        simpa [LinkBits] using h
  · exact ⟨rfl, fun h => absurd h Bool.false_ne_true⟩

theorem getId_spec : phy.getId.wlp fun log _ => macAccesses log = [] := by
  unfold Lan8742Phy.getId
  split
  · unfold mdioRead
    simp only [wlp_bind, wlp_get, wlp_pure]
    intro id1
    cases id1 with
    | none => rfl
    | some id1 =>
        simp only [Option.map_some, wlp_bind, wlp_get, wlp_pure]
        intro id2
        cases id2 <;> rfl
  · rfl

theorem pollReset_spec (phy : Lan8742Phy) (tick : UInt32) (turns : Nat) :
    (phy.pollReset tick turns).wlp fun log _ => macAccesses log = [] := by
  induction turns with
  | zero => rfl
  | succ turns ih =>
      unfold Lan8742Phy.pollReset mdioRead
      simp only [wlp_bind, wlp_get, wlp_pure]
      intro reg
      cases reg with
      | none => rfl
      | some reg =>
          dsimp only [Option.map_some]
          split
          · rw [wlp_bind]
            refine wlp_mono halGetTick_spec fun log now hlog => ?_
            split
            · refine wlp_mono ih fun log' _ hlog' => ?_
              simp [hlog, hlog']
            · simp [hlog]
          · rfl

theorem phyInit_spec : (phy.init turns).wlp fun log _ => macAccesses log = [] := by
  unfold Lan8742Phy.init
  split
  · unfold mdioRead
    simp only [wlp_bind, wlp_get, wlp_pure]
    intro reg
    cases reg with
    | none => rfl
    | some reg =>
        simp only [Option.map_some, wlp_bind, wlp_set]
        refine wlp_mono halGetTick_spec fun log now hlog => ?_
        refine wlp_mono (pollReset_spec phy now turns) fun log' _ hlog' => ?_
        simp [hlog, hlog']
  · rfl

/-- `Init` calls `HAL_ETH_Init`, and nothing else of the MAC. -/
theorem init_spec : (init phy turns).wlp fun log r => r.2.phyAddr = phy.phyAddr ∧
    ∃ answer, macAccesses log = [.found .ethInit answer] ∧ (r.1 = some true → answer.isSome) := by
  unfold init
  rw [wlp_bind, wlp_get]
  intro answer
  cases answer with
  | none => exact ⟨rfl, none, rfl, fun h => absurd (Option.some.inj h) Bool.false_ne_true⟩
  | some ok =>
      dsimp only
      rw [wlp_bind]
      refine wlp_mono phyInit_spec fun log r hlog => ?_
      rw [wlp_pure]
      refine ⟨rfl, some ok, ?_, fun _ => rfl⟩
      rw [macAccesses_append, List.append_nil, hlog]
      rfl

theorem dumpRegisters_spec :
    dumpRegisters.wlp fun log _ => ∀ a ∈ log, ∃ reg v, a = .found (.mdio 0 reg) v := by
  refine wlp_forM (by simp) (fun l l' hl hl' a ha => ?_) fun i _ => ?_
  · rcases List.mem_append.1 ha with ha | ha
    · exact hl a ha
    · exact hl' a ha
  · simp

theorem getLinkConfig_spec (hattached : phy.attached = true) :
    phy.getLinkConfig.wlp fun log config => ∃ physcsr,
      log = [.found (.mdio phy.phyAddr REG_PHYSCSR) physcsr] ∧
        config = physcsr.map fun v => Lan8742Phy.linkConfig v.toUInt16 := by
  unfold Lan8742Phy.getLinkConfig mdioRead
  rw [if_pos hattached]
  simp only [wlp_bind, wlp_get, wlp_pure]
  intro physcsr
  cases physcsr with
  | none => exact ⟨none, rfl, rfl⟩
  | some physcsr => exact ⟨some physcsr, rfl, rfl⟩

theorem whenOk_spec (r : EthRequest) (w : EthCommand) :
    (whenOk r w).wlp fun log _ => ∃ answer, log = whenOkLog r w answer := by
  unfold whenOk
  rw [wlp_bind, wlp_get]
  intro answer
  cases answer with
  | none => exact ⟨none, rfl⟩
  | some v => exact ⟨some v, rfl⟩

/-- **What `WaitForLink` does once the link is up**, in order. -/
theorem bringUp_spec (hattached : phy.attached = true) :
    (bringUp phy stack).wlp fun log _ => ∃ physcsr config filter dump,
      (∀ a ∈ dump, ∃ reg v, a = .found (.mdio 0 reg) v) ∧
        log = bringUpLog phy.phyAddr stack physcsr config filter dump := by
  unfold bringUp
  rw [wlp_bind]
  refine wlp_mono (getLinkConfig_spec hattached) fun log config hconfig => ?_
  obtain ⟨physcsr, rfl, rfl⟩ := hconfig
  dsimp only
  rw [wlp_bind]
  refine wlp_mono (whenOk_spec _ _) fun conf _ hconf => ?_
  rw [wlp_bind]
  refine wlp_mono dumpRegisters_spec fun dump _ hdump => ?_
  rw [wlp_bind, wlp_set]
  refine wlp_mono (whenOk_spec _ _) fun filt _ hfilt => ?_
  obtain ⟨config, rfl⟩ := hconf
  obtain ⟨filter, rfl⟩ := hfilt
  exact ⟨physcsr, config, filter, dump, hdump, rfl⟩

/-- Accesses before that leave the MAC alone. -/
theorem Waited.after {phyAddr : UInt8} {log log' : List EthAccess} {up : Bool}
    (h : Waited phyAddr stack log' up) (hlog : macAccesses log = []) :
    Waited phyAddr stack (log ++ log') up := by
  cases up with
  | false =>
      have hnone : macAccesses log' = [] := h
      exact (macAccesses_append log log').trans (by rw [hlog, hnone]; rfl)
  | true =>
      obtain ⟨before, found, rfl, hbefore, hfound⟩ := h
      refine ⟨log ++ before, found, (List.append_assoc ..).symm, ?_, hfound⟩
      rw [macAccesses_append, hlog, hbefore, List.nil_append]

theorem pollLink_spec (phy : Lan8742Phy) (timeoutMs : UInt32) (stack : EthSpeed × EthDuplex)
    (tickstart : UInt32) (turns : Nat) :
    (pollLink phy timeoutMs stack tickstart turns).wlp fun log r =>
      ∀ up, r = some up → Waited phy.phyAddr stack log up := by
  induction turns with
  | zero => exact nofun
  | succ turns ih =>
      unfold pollLink
      rw [wlp_bind]
      refine wlp_mono halGetTick_spec fun log now hlog => ?_
      split
      · rw [wlp_bind]
        refine wlp_mono isLinkUp_spec fun log' up hlog' => ?_
        obtain ⟨hlog', hfound⟩ := hlog'
        split
        · rename_i hup
          obtain ⟨hattached, bmsr, hbits, rfl⟩ := hfound hup
          rw [wlp_bind]
          refine wlp_mono (bringUp_spec hattached) fun calls _ hcalls => ?_
          rw [wlp_pure, List.append_nil]
          rintro up ⟨⟩
          obtain ⟨physcsr, config, filter, dump, hdump, rfl⟩ := hcalls
          exact ⟨log, _, rfl, hlog, bmsr, physcsr, config, filter, dump, hbits, hdump, rfl⟩
        · refine wlp_mono ih fun calls r hcalls => ?_
          exact fun up hr => ((hcalls up hr).after hlog').after hlog
      · rw [wlp_pure, List.append_nil]
        rintro up ⟨⟩
        exact hlog

/-- **`WaitForLink`.** -/
theorem waitForLink_spec : (waitForLink phy timeoutMs stack turns).wlp fun log r =>
    ∀ up, r = some up → Waited phy.phyAddr stack log up := by
  unfold waitForLink
  rw [wlp_bind]
  refine wlp_mono halGetTick_spec fun log tick hlog => ?_
  refine wlp_mono (pollLink_spec phy timeoutMs stack tick turns) fun log' r hlog' => ?_
  exact fun up hr => (hlog' up hr).after hlog

/-! ## The bounds of the loops -/

/-- A round of `init`'s loop takes an access. -/
theorem pollReset_turns (phy : Lan8742Phy) (tick : UInt32) (turns : Nat) :
    (phy.pollReset tick turns).wlp fun log r => r = none → turns ≤ log.length := by
  induction turns with
  | zero => exact fun _ => Nat.zero_le _
  | succ turns ih =>
      unfold Lan8742Phy.pollReset mdioRead
      simp only [wlp_bind, wlp_get, wlp_pure]
      intro reg
      cases reg with
      | none =>
          intro h
          cases h
      | some reg =>
          dsimp only [Option.map_some]
          split
          · unfold halGetTick
            simp only [wlp_bind, wlp_get, wlp_pure]
            intro now
            split
            · refine wlp_mono ih fun log r hlog hr => ?_
              have hturns := hlog hr
              simp only [List.length_append, List.length_cons, List.length_nil]
              omega
            · intro h
              cases h
          · intro h
            cases h

theorem init_turns : (init phy turns).wlp fun log r => r.1 = none → turns < log.length := by
  unfold init
  rw [wlp_bind, wlp_get]
  intro ok
  cases ok with
  | none =>
      intro h
      cases h
  | some ok =>
      dsimp only
      unfold Lan8742Phy.init mdioRead
      rw [wlp_bind]
      split
      · simp only [wlp_bind, wlp_get, wlp_pure]
        intro reg
        cases reg with
        | none =>
            intro h
            cases h
        | some reg =>
            simp only [Option.map_some, wlp_bind, wlp_set, halGetTick, wlp_get, wlp_pure]
            intro tick
            refine wlp_mono (pollReset_turns _ _ turns) fun log r hlog hr => ?_
            have hturns := hlog hr
            simp only [List.length_append, List.length_cons, List.length_nil]
            omega
      · intro h
        cases h

/-- A round of `WaitForLink`'s loop takes an access. -/
theorem pollLink_turns (phy : Lan8742Phy) (timeoutMs : UInt32) (stack : EthSpeed × EthDuplex)
    (tickstart : UInt32) (turns : Nat) :
    (pollLink phy timeoutMs stack tickstart turns).wlp fun log r => r = none → turns ≤ log.length := by
  induction turns with
  | zero => exact fun _ => Nat.zero_le _
  | succ turns ih =>
      unfold pollLink halGetTick
      simp only [wlp_bind, wlp_get, wlp_pure]
      intro now
      split
      · rw [wlp_bind]
        refine wlp_mono isLinkUp_spec fun log up _ => ?_
        split
        · rw [wlp_bind]
          refine wlp_intro fun _ _ h => ?_
          cases h
        · refine wlp_mono ih fun log' r hlog hr => ?_
          have hturns := hlog hr
          simp only [List.length_append, List.length_cons, List.length_nil]
          omega
      · intro h
        cases h

theorem waitForLink_turns :
    (waitForLink phy timeoutMs stack turns).wlp fun log r => r = none → turns < log.length := by
  unfold waitForLink halGetTick
  simp only [wlp_bind, wlp_get, wlp_pure]
  intro tick
  refine wlp_mono (pollLink_turns phy timeoutMs stack _ turns) fun log r hlog hr => ?_
  have hturns := hlog hr
  simp only [List.length_append, List.length_cons, List.length_nil]
  omega

end Stm32H7Eth

end EmbeddedPixel
