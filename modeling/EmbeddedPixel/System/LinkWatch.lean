import Mathlib
import EmbeddedPixel.Net.NetLink
import EmbeddedPixel.Targets.EthLink

/-!
# The manager, the drivers and the PHY

`NetManager.step` asks the outside what `Init`, `WaitForLink` and `IsLinkUp` return.  Here the drivers answer,
over a device that changes by itself between any two accesses and between any two steps: the PHY, with the
link, and the MAC.

The link bit of register 1 is latched low: once the link is lost it stays 0 until the register is read
(`LatchesLink`).

`no_loss_missed`: a loss of the link after `WaitForLink`, however short, is found by the next check.
`mac_set_once`: the MAC is initialised, then brought up once, for the mode of the first link, and left alone
from then on.
`step_task_isSome`: the bounds of the drivers' loops leave out no run.
-/

set_option autoImplicit false

namespace EmbeddedPixel

open Foundation NetManager Stm32H7Eth

/-- The node's network with its hardware. -/
structure LinkNode (N D : Type) where
  net : NetManager N
  phy : Lan8742Phy
  dev : D

/-- What can happen next; `quiet` is what the device does by itself before each access of the task. -/
inductive LinkAction (A E : Type) where
  | wire (e : E)
  | task (a : Answers) (stack : EthSpeed × EthDuplex) (quiet : List (List E))
  | thread
  | own (x : A)

namespace LinkNode

variable {N A E D : Type}

/-- What the task asks the drivers from one question to the next, and the answers with what they say;
`none` where `turns` are not enough. -/
def driverCalls (t : Monitor) (a : Answers) (phy : Lan8742Phy) (stack : EthSpeed × EthDuplex) (turns : Nat) :
    EthDriver (Option Answers × Lan8742Phy) :=
  match t.point with
  | .driverInit => do
    let (ok, phy) ← Stm32H7Eth.init phy turns
    if ok = some true then do
      let _ ← phy.getId
      pure (some { a with initOk := true }, phy)
    else pure (ok.map fun ok => { a with initOk := ok }, phy)
  | .waitForLink => do
    let up ← waitForLink phy 1000 stack turns
    pure (up.map fun up => { a with linkUp := up }, phy)
  | .monitorLoop =>
    if a.now - t.lastLinkCheck ≥ 500 then do
      let up ← phy.isLinkUp
      pure (some { a with linkUp := up }, phy)
    else pure (some a, phy)
  | _ => pure (some a, phy)

variable (lwip : Lwip N A) (cfg : IpConfig) (dev : Device EthCommand EthRequest (Option UInt32) E D)

/-- One step. -/
def step (s : LinkNode N D) : LinkAction A E → Option ((List Event × List EthAccess) × LinkNode N D)
  | .wire e => some (([], []), { s with dev := dev.own e s.dev })
  | .task a stack quiet =>
    (dev.drive (driverCalls s.net.task a s.phy stack quiet.length) quiet s.dev).bind fun o =>
      o.result.1.bind fun answers =>
        (NetManager.step lwip cfg s.net (.task answers)).map fun r =>
          ((r.1, o.log), ⟨r.2, o.result.2, o.device⟩)
  | .thread => (NetManager.step lwip cfg s.net .thread).map fun r => ((r.1, []), { s with net := r.2 })
  | .own x => (NetManager.step lwip cfg s.net (.own x)).map fun r => ((r.1, []), { s with net := r.2 })

/-- When the task is created. -/
def start (phyAddr : UInt8) (d : D) : LinkNode N D := ⟨NetManager.start, ⟨false, phyAddr⟩, d⟩

abbrev LinkTrace (A E : Type) := List (LinkAction A E × (List Event × List EthAccess))

/-- What the task did. -/
def netEvents (t : LinkTrace A E) : List Event := t.flatMap (·.2.1)

/-- The accesses of the drivers. -/
def accesses (t : LinkTrace A E) : List EthAccess := t.flatMap (·.2.2)

theorem netEvents_append (t t' : LinkTrace A E) : netEvents (t ++ t') = netEvents t ++ netEvents t' :=
  List.flatMap_append

theorem accesses_append (t t' : LinkTrace A E) : accesses (t ++ t') = accesses t ++ accesses t' :=
  List.flatMap_append

variable {lwip cfg dev} {s s' : LinkNode N D} {t : LinkTrace A E}

/-- Every run is one of the manager, with what the drivers answered. -/
theorem net_runs {phyAddr : UInt8} {d : D} (h : Machine.Run (step lwip cfg dev) (start phyAddr d) t s) :
    ∃ u, Runs lwip cfg u s.net ∧ events u = netEvents t := by
  induction h with
  | nil => exact ⟨[], .nil, rfl⟩
  | @snoc t s s' x o _ hstep ih =>
      obtain ⟨u, hu, hevents⟩ := ih
      have hnew : netEvents (t ++ [(x, o)]) = netEvents t ++ o.1 := by
        rw [netEvents_append]
        simp [netEvents]
      have hnext : ∀ y es net, NetManager.step lwip cfg s.net y = some (es, net) →
          ∃ u', Runs lwip cfg u' net ∧ events u' = netEvents t ++ es := by
        intro y es net hy
        refine ⟨u ++ [(y, es)], hu.snoc hy, ?_⟩
        rw [events_append, hevents]
        simp [events]
      rw [hnew]
      cases x with
      | wire e =>
          cases hstep
          exact ⟨u, hu, by simpa using hevents⟩
      | task a stack quiet =>
          obtain ⟨r, -, hstep⟩ := Option.bind_eq_some_iff.1 hstep
          obtain ⟨answers, -, hstep⟩ := Option.bind_eq_some_iff.1 hstep
          obtain ⟨⟨es, net⟩, hnet, hstep⟩ := Option.map_eq_some_iff.1 hstep
          cases hstep
          exact hnext _ _ _ hnet
      | thread =>
          obtain ⟨⟨es, net⟩, hnet, hstep⟩ := Option.map_eq_some_iff.1 hstep
          cases hstep
          exact hnext _ _ _ hnet
      | own x =>
          cases hstep
          exact hnext (.own x) _ _ rfl

/-- The thread executes a callback, and the task stays where it is. -/
theorem task_of_thread {n n' : NetManager N} {es : List Event}
    (h : NetManager.step lwip cfg n .thread = some (es, n')) : es = [] ∧ n'.task = n.task := by
  unfold NetManager.step at h
  dsimp only at h
  split at h
  · cases h
  · cases h
    exact ⟨rfl, rfl⟩

/-! ## Losses of the link -/

/-- The link bit of register 1 of a PHY.  `link`: the link is up now.  `steady`: it was up ever since the
register was read last. -/
structure LatchesLink (dev : Device EthCommand EthRequest (Option UInt32) E D) (phyAddr : UInt8)
    (link steady : D → Bool) : Prop where
  link_of_steady : ∀ d, steady d = true → link d = true
  /-- Only a read makes up for a loss. -/
  steady_of_own : ∀ e d, steady (dev.own e d) = true → steady d = true
  /-- A link bit that is set says that there was none. -/
  steady_of_read : ∀ d v, (dev.read (.mdio phyAddr REG_BMSR) d).1 = some v →
    v.toUInt16 &&& BMSR_LINK_UP ≠ 0 → steady d = true

/-- `WaitForLink` has returned true. -/
def Started (t : Monitor) : Prop :=
  match t.point with
  | .driverInit => False
  | .waitForLink => False
  | .deleted => False
  | _ => True

variable {link steady : D → Bool} {phy : Lan8742Phy}

theorem Started.of_loop {m : Monitor} (h : m.point = .monitorLoop ∨ m.point = .waitForDhcpLease 0 true) :
    Started m := by
  unfold Started
  rcases h with h | h
  · rw [h]
    trivial
  · rw [h]
    trivial

/-- There is one way to get there, and none back. -/
theorem started_advance (cfg : IpConfig) (m : Monitor) (a : Answers) (lwipReady : Bool) :
    Started (advance cfg a m lwipReady).2 ↔ if m.point = .waitForLink then a.linkUp = true else Started m := by
  obtain ⟨point, dhcpPrinted, linkWasUp, lastLinkCheck⟩ := m
  cases point with
  | driverInit =>
      unfold advance Started
      cases a.initOk <;> simp
  | waitForLink =>
      unfold advance Started
      cases a.linkUp <;> simp
  | deleted => exact Iff.rfl
  | waitForLwip =>
      refine iff_of_true ?_ trivial
      unfold advance enterMonitor
      cases lwipReady with
      | false => trivial
      | true =>
          dsimp only
          rw [if_pos rfl]
          split
          · trivial
          · exact .of_loop (Or.inl rfl)
  | waitForDhcpLease elapsed restored =>
      refine iff_of_true ?_ trivial
      unfold advance
      dsimp only
      split
      · rename_i lease _
        exact .of_loop (Or.inl (afterWait_posted _ a restored lease).2)
      · trivial
  | monitorLoop =>
      refine iff_of_true ?_ trivial
      exact .of_loop (monitorRound_posted cfg ⟨.monitorLoop, dhcpPrinted, linkWasUp, lastLinkCheck⟩ a rfl).2

theorem Started.ne_waitForLink {m : Monitor} (h : Started m) : m.point ≠ .waitForLink := by
  intro hpoint
  unfold Started at h
  rw [hpoint] at h
  exact h

theorem Started.advance {m : Monitor} (h : Started m) (cfg : IpConfig) (a : Answers) (lwipReady : Bool) :
    Started (NetManager.advance cfg a m lwipReady).2 :=
  (started_advance cfg m a lwipReady).2 (by rwa [if_neg h.ne_waitForLink])

/-- **A loss before the register is read is found.** -/
theorem isLinkUp_of_loss (hphy : LatchesLink dev phy.phyAddr link steady) {quiet : List (List E)} {d : D}
    (hloss : steady d = false) {o : Driven EthCommand EthRequest (Option UInt32) E D Bool}
    (h : dev.drive phy.isLinkUp quiet d = some o) : o.result = false := by
  unfold Lan8742Phy.isLinkUp at h
  split at h
  · cases quiet with
    | nil => cases h
    | cons es quiet =>
        have hkept : steady (dev.passes es d) = false := by
          refine dev.passes_keeps (P := fun d => steady d = false) (fun e d hd => ?_) hloss es
          exact Bool.eq_false_iff.2 fun hsteady => by simp [hphy.steady_of_own e d hsteady] at hd
        obtain ⟨o', ho', rfl⟩ := Option.map_eq_some_iff.1 h
        cases hread : (dev.read (.mdio phy.phyAddr REG_BMSR) (dev.passes es d)).1 with
        | none =>
            rw [hread] at ho'
            cases ho'
            rfl
        | some v =>
            rw [hread] at ho'
            cases ho'
            refine decide_eq_false fun hbits => ?_
            rw [hphy.steady_of_read _ v hread hbits.1] at hkept
            cases hkept
  · cases h
    rfl

/-- Which steps of the task are checks. -/
def Checks (t : Monitor) (a : Answers) : Prop := t.point = .monitorLoop ∧ a.now - t.lastLinkCheck ≥ 500

/-- Only a check is a sample. -/
theorem samples_advance (t : Monitor) (a : Answers) (lwipReady : Bool) :
    (Checks t a → samples (advance cfg a t lwipReady).1 = [(a.now, a.linkUp)]) ∧
      (¬ Checks t a → samples (advance cfg a t lwipReady).1 = []) := by
  obtain ⟨point, dhcpPrinted, linkWasUp, lastLinkCheck⟩ := t
  cases point with
  | monitorLoop =>
      unfold advance monitorRound Checks
      dsimp only
      split_ifs <;> simp_all [samples]
  | waitForLink =>
      refine ⟨fun h => absurd h.1 (by simp), fun _ => ?_⟩
      unfold advance
      dsimp only
      split <;> rfl
  | waitForLwip =>
      refine ⟨fun h => absurd h.1 (by simp), fun _ => ?_⟩
      unfold advance
      dsimp only
      split <;> rfl
  | waitForDhcpLease elapsed restored =>
      refine ⟨fun h => absurd h.1 (by simp), fun _ => ?_⟩
      unfold advance
      dsimp only
      split
      · rename_i lease _
        unfold afterWait
        cases restored <;> cases lease <;> rfl
      · rfl
  | driverInit => exact ⟨fun h => absurd h.1 (by simp), fun _ => rfl⟩
  | deleted => exact ⟨fun h => absurd h.1 (by simp), fun _ => rfl⟩

/-- What the drivers are asked after `WaitForLink`. -/
theorem driverCalls_started {m : Monitor} (hstarted : Started m) (a : Answers) (phy : Lan8742Phy)
    (stack : EthSpeed × EthDuplex) (turns : Nat) :
    (Checks m a → driverCalls m a phy stack turns = phy.isLinkUp >>= fun up =>
      pure (some { a with linkUp := up }, phy)) ∧
      (¬ Checks m a → driverCalls m a phy stack turns = pure (some a, phy)) := by
  obtain ⟨point, dhcpPrinted, linkWasUp, lastLinkCheck⟩ := m
  cases point with
  | monitorLoop => exact ⟨fun h => if_pos h.2, fun h => if_neg fun hdue => h ⟨rfl, hdue⟩⟩
  | waitForLwip => exact ⟨fun h => absurd h.1 nofun, fun _ => rfl⟩
  | waitForDhcpLease elapsed restored => exact ⟨fun h => absurd h.1 nofun, fun _ => rfl⟩
  | driverInit => exact hstarted.elim
  | waitForLink => exact hstarted.elim
  | deleted => exact hstarted.elim

/-- **One step after a loss.** -/
theorem step_loss (hphy : LatchesLink dev s.phy.phyAddr link steady) {x : LinkAction A E}
    {o : List Event × List EthAccess} (hstarted : Started s.net.task) (hloss : steady s.dev = false)
    (h : step lwip cfg dev s x = some (o, s')) :
    Started s'.net.task ∧ s'.phy = s.phy ∧
      (samples o.1 = [] ∧ steady s'.dev = false ∨ ∃ now, samples o.1 = [(now, false)]) := by
  cases x with
  | wire e =>
      cases h
      refine ⟨hstarted, rfl, Or.inl ⟨rfl, ?_⟩⟩
      exact Bool.eq_false_iff.2 fun hsteady => by simp [hphy.steady_of_own e _ hsteady] at hloss
  | own x =>
      cases h
      exact ⟨hstarted, rfl, Or.inl ⟨rfl, hloss⟩⟩
  | thread =>
      obtain ⟨⟨es, net⟩, hnet, h⟩ := Option.map_eq_some_iff.1 h
      cases h
      obtain ⟨rfl, htask⟩ := task_of_thread hnet
      refine ⟨?_, rfl, Or.inl ⟨rfl, hloss⟩⟩
      show Started net.task
      rwa [htask]
  | task a stack quiet =>
      obtain ⟨r, hr, h⟩ := Option.bind_eq_some_iff.1 h
      obtain ⟨answers, hanswers, h⟩ := Option.bind_eq_some_iff.1 h
      cases h
      have hcalls := driverCalls_started hstarted a s.phy stack quiet.length
      by_cases hcheck : Checks s.net.task a
      · rw [hcalls.1 hcheck, dev.drive_bind] at hr
        obtain ⟨up, hup, hr⟩ := Option.bind_eq_some_iff.1 hr
        cases hr
        cases hanswers
        have hfalse := isLinkUp_of_loss hphy hloss hup
        refine ⟨hstarted.advance .., rfl, Or.inr ⟨a.now, ?_⟩⟩
        rw [← hfalse]
        exact (samples_advance s.net.task { a with linkUp := up.result } s.net.netif.isSome).1 hcheck
      · rw [hcalls.2 hcheck] at hr
        cases hr
        cases hanswers
        exact ⟨hstarted.advance .., rfl, Or.inl ⟨(samples_advance ..).2 hcheck, hloss⟩⟩

theorem netEvents_snoc (t : LinkTrace A E) (x : LinkAction A E) (o : List Event × List EthAccess) :
    netEvents (t ++ [(x, o)]) = netEvents t ++ o.1 := by
  rw [netEvents_append]
  simp [netEvents]

/-- **A run after a loss**: the first check finds it. -/
theorem run_loss (hphy : LatchesLink dev s.phy.phyAddr link steady) (hstarted : Started s.net.task)
    (hloss : steady s.dev = false) (h : Machine.Run (step lwip cfg dev) s t s') :
    (Started s'.net.task ∧ s'.phy = s.phy ∧ samples (netEvents t) = [] ∧ steady s'.dev = false) ∨
      ∃ now later, samples (netEvents t) = (now, false) :: later := by
  induction h with
  | nil => exact Or.inl ⟨hstarted, rfl, rfl, hloss⟩
  | @snoc t s₁ s₂ x o _ hstep ih =>
      rw [netEvents_snoc, samples_append]
      rcases ih with ⟨hstarted₁, hphy₁, hnone, hloss₁⟩ | ⟨now, later, hfound⟩
      · rw [hnone, List.nil_append]
        obtain ⟨hstarted₂, hphy₂, hstepped⟩ := step_loss (by rwa [hphy₁]) hstarted₁ hloss₁ hstep
        rcases hstepped with ⟨hnone₂, hloss₂⟩ | ⟨now, hfound⟩
        · exact Or.inl ⟨hstarted₂, hphy₂.trans hphy₁, hnone₂, hloss₂⟩
        · exact Or.inr ⟨now, [], hfound⟩
      · rw [hfound]
        exact Or.inr ⟨now, later ++ samples o.1, rfl⟩

/-! ## What the drivers do in a run -/

/-- What is done to the MAC from one question of the task to the next. -/
def MacCalls (point : Point) (phyAddr : UInt8) (stack : EthSpeed × EthDuplex) (answers : Answers)
    (log : List EthAccess) : Prop :=
  match point with
  | .driverInit =>
    ∃ answer, macAccesses log = [.found .ethInit answer] ∧ (answers.initOk = true → answer.isSome)
  | .waitForLink => Waited phyAddr stack log answers.linkUp
  | _ => macAccesses log = []

/-- **What the task asks the drivers**: `Init` and `WaitForLink` alone touch the MAC. -/
theorem driverCalls_spec (m : Monitor) (a : Answers) (phy : Lan8742Phy) (stack : EthSpeed × EthDuplex)
    (turns : Nat) :
    (driverCalls m a phy stack turns).wlp fun log r =>
      r.2.phyAddr = phy.phyAddr ∧
        ∀ answers, r.1 = some answers → MacCalls m.point phy.phyAddr stack answers log := by
  obtain ⟨point, dhcpPrinted, linkWasUp, lastLinkCheck⟩ := m
  cases point with
  | driverInit =>
      unfold driverCalls
      rw [Regs.wlp_bind]
      refine Regs.wlp_mono init_spec fun log r hr => ?_
      obtain ⟨haddr, answer, hlog, hok⟩ := hr
      dsimp only
      split
      · rename_i hup
        rw [Regs.wlp_bind]
        refine Regs.wlp_mono getId_spec fun log' _ hlog' => ?_
        exact ⟨haddr, fun _ _ => ⟨answer, by simp [hlog, hlog'], fun _ => hok hup⟩⟩
      · refine ⟨haddr, fun answers hanswers => ⟨answer, by simp [hlog], fun hinit => hok ?_⟩⟩
        obtain ⟨ok, hr, rfl⟩ := Option.map_eq_some_iff.1 hanswers
        rw [hr]
        exact congrArg some hinit
  | waitForLink =>
      unfold driverCalls
      rw [Regs.wlp_bind]
      refine Regs.wlp_mono waitForLink_spec fun log up hup => ?_
      refine ⟨rfl, fun answers hanswers => ?_⟩
      obtain ⟨up, rfl, rfl⟩ := Option.map_eq_some_iff.1 hanswers
      rw [List.append_nil]
      exact hup up rfl
  | monitorLoop =>
      unfold driverCalls
      dsimp only
      split
      · rw [Regs.wlp_bind]
        refine Regs.wlp_mono isLinkUp_spec fun log up hup => ?_
        exact ⟨rfl, fun _ _ => by simp [MacCalls, hup.1]⟩
      · exact ⟨rfl, fun _ _ => rfl⟩
  | waitForLwip => exact ⟨rfl, fun _ _ => rfl⟩
  | waitForDhcpLease elapsed restored => exact ⟨rfl, fun _ _ => rfl⟩
  | deleted => exact ⟨rfl, fun _ _ => rfl⟩

theorem driverCalls_turns (m : Monitor) (a : Answers) (phy : Lan8742Phy) (stack : EthSpeed × EthDuplex)
    (turns : Nat) : (driverCalls m a phy stack turns).wlp fun log r => r.1 = none → turns < log.length := by
  obtain ⟨point, dhcpPrinted, linkWasUp, lastLinkCheck⟩ := m
  cases point with
  | driverInit =>
      unfold driverCalls
      rw [Regs.wlp_bind]
      refine Regs.wlp_mono init_turns fun log r hturns => ?_
      dsimp only
      split
      · rw [Regs.wlp_bind]
        exact Regs.wlp_intro fun _ _ => nofun
      · refine fun hnone => ?_
        rw [List.append_nil]
        exact hturns (Option.map_eq_none_iff.1 hnone)
  | waitForLink =>
      unfold driverCalls
      rw [Regs.wlp_bind]
      refine Regs.wlp_mono waitForLink_turns fun log up hturns hnone => ?_
      rw [List.append_nil]
      exact hturns (Option.map_eq_none_iff.1 hnone)
  | monitorLoop =>
      unfold driverCalls
      dsimp only
      split
      · rw [Regs.wlp_bind]
        exact Regs.wlp_intro fun _ _ => nofun
      · exact nofun
  | waitForLwip => exact nofun
  | waitForDhcpLease elapsed restored => exact nofun
  | deleted => exact nofun

/-- **The bounds of the loops are no bounds**: a step of the task comes to its end wherever the list is long
enough for its accesses. -/
theorem step_task_isSome (s : LinkNode N D) (a : Answers) (stack : EthSpeed × EthDuplex)
    (quiet : List (List E)) :
    (step lwip cfg dev s (.task a stack quiet)).isSome =
      (dev.drive (driverCalls s.net.task a s.phy stack quiet.length) quiet s.dev).isSome := by
  cases hdrive : dev.drive (driverCalls s.net.task a s.phy stack quiet.length) quiet s.dev with
  | none => simp [step, hdrive]
  | some o =>
      have hturns := dev.drive_of_wlp (driverCalls_turns s.net.task a s.phy stack quiet.length) hdrive
      have hlength := dev.drive_length hdrive
      cases hanswers : o.result.1 with
      | none =>
          have hlong := hturns hanswers
          omega
      | some answers => simp [step, hdrive, hanswers, NetManager.step]

/-- The MAC is initialised, brought up once, and left alone from then on. -/
def SetUpOnce (phyAddr : UInt8) (log : List EthAccess) : Prop :=
  ∃ stack before found after, log = before ++ found ++ after ∧
    (∃ ok, macAccesses before = [.found .ethInit (some ok)]) ∧ BroughtUp phyAddr stack found ∧
    macAccesses after = []

/-- What the drivers have done to the MAC when the task has got to `m`. -/
structure MacLog (phyAddr : UInt8) (m : Monitor) (log : List EthAccess) : Prop where
  untouched : m.point = .driverInit → macAccesses log = []
  /-- `Init` has failed, in `HAL_ETH_Init` or after it. -/
  deleted : m.point = .deleted → ∃ answer, macAccesses log = [.found .ethInit answer]
  initialised : m.point = .waitForLink → ∃ ok, macAccesses log = [.found .ethInit (some ok)]
  setUp : Started m → SetUpOnce phyAddr log

namespace MacLog

variable {phyAddr : UInt8} {m m' : Monitor} {log log' : List EthAccess} {stack : EthSpeed × EthDuplex}

theorem created : MacLog phyAddr NetManager.created [] where
  untouched _ := rfl
  deleted h := by cases h
  initialised h := by cases h
  setUp h := h.elim

theorem of_started (hm : Started m) (h : SetUpOnce phyAddr log) : MacLog phyAddr m log where
  untouched hpoint := by
    unfold Started at hm
    rw [hpoint] at hm
    exact hm.elim
  deleted hpoint := by
    unfold Started at hm
    rw [hpoint] at hm
    exact hm.elim
  initialised hpoint := absurd hpoint hm.ne_waitForLink
  setUp _ := h

theorem of_deleted (hm : m.point = .deleted) {answer : Option UInt32}
    (h : macAccesses log = [.found .ethInit answer]) : MacLog phyAddr m log where
  untouched hpoint := by
    rw [hm] at hpoint
    cases hpoint
  deleted _ := ⟨answer, h⟩
  initialised hpoint := by
    rw [hm] at hpoint
    cases hpoint
  setUp hstarted := by
    unfold Started at hstarted
    rw [hm] at hstarted
    exact hstarted.elim

theorem of_initialised (hm : m.point = .waitForLink) {ok : UInt32}
    (h : macAccesses log = [.found .ethInit (some ok)]) : MacLog phyAddr m log where
  untouched hpoint := by
    rw [hm] at hpoint
    cases hpoint
  deleted hpoint := by
    rw [hm] at hpoint
    cases hpoint
  initialised _ := ⟨ok, h⟩
  setUp hstarted := absurd hm hstarted.ne_waitForLink

/-- After `Init`. -/
theorem init (h : MacLog phyAddr m log) (hm : m.point = .driverInit) (a : Answers) (lwipReady : Bool)
    (hcalls : ∃ answer, macAccesses log' = [.found .ethInit answer] ∧ (a.initOk = true → answer.isSome)) :
    MacLog phyAddr (advance cfg a m lwipReady).2 (log ++ log') := by
  obtain ⟨answer, hlog', hok⟩ := hcalls
  have hboth : macAccesses (log ++ log') = [.found .ethInit answer] := by
    rw [macAccesses_append, h.untouched hm, hlog', List.nil_append]
  cases hinit : a.initOk with
  | false => exact of_deleted (by simp [advance, hm, hinit]) hboth
  | true =>
      obtain ⟨ok, rfl⟩ := Option.isSome_iff_exists.1 (hok hinit)
      exact of_initialised (by simp [advance, hm, hinit]) hboth

/-- After a call of `WaitForLink`. -/
theorem waited (h : MacLog phyAddr m log) (hm : m.point = .waitForLink) (a : Answers) (lwipReady : Bool)
    (hcalls : Waited phyAddr stack log' a.linkUp) :
    MacLog phyAddr (advance cfg a m lwipReady).2 (log ++ log') := by
  obtain ⟨ok, hok⟩ := h.initialised hm
  cases hup : a.linkUp with
  | false =>
      rw [hup] at hcalls
      have hnone : macAccesses log' = [] := hcalls
      have hboth : macAccesses (log ++ log') = [.found .ethInit (some ok)] := by
        rw [macAccesses_append, hok, hnone, List.append_nil]
      exact of_initialised (by simp [advance, hm, hup]) hboth
  | true =>
      rw [hup] at hcalls
      obtain ⟨before, found, rfl, hbefore, hfound⟩ := hcalls
      refine of_started ((started_advance ..).2 (by rwa [if_pos hm])) ?_
      refine ⟨stack, log ++ before, found, [], by simp, ⟨ok, ?_⟩, hfound, rfl⟩
      rw [macAccesses_append, hok, hbefore, List.append_nil]

/-- Where the MAC is left alone. -/
theorem quiet (h : MacLog phyAddr m log) (hlog' : macAccesses log' = []) : MacLog phyAddr m (log ++ log') where
  untouched hm := by rw [macAccesses_append, h.untouched hm, hlog', List.nil_append]
  deleted hm := by
    obtain ⟨answer, hlog⟩ := h.deleted hm
    exact ⟨answer, by rw [macAccesses_append, hlog, hlog', List.append_nil]⟩
  initialised hm := by
    obtain ⟨ok, hlog⟩ := h.initialised hm
    exact ⟨ok, by rw [macAccesses_append, hlog, hlog', List.append_nil]⟩
  setUp hm := by
    obtain ⟨stack, before, found, after, rfl, hinit, hfound, hafter⟩ := h.setUp hm
    refine ⟨stack, before, found, after ++ log', List.append_assoc .., hinit, hfound, ?_⟩
    rw [macAccesses_append, hafter, hlog', List.nil_append]

/-- **One round of the task.** -/
theorem advance (h : MacLog phyAddr m log) (a : Answers) (lwipReady : Bool)
    (hcalls : MacCalls m.point phyAddr stack a log') :
    MacLog phyAddr (NetManager.advance cfg a m lwipReady).2 (log ++ log') := by
  unfold MacCalls at hcalls
  split at hcalls
  · rename_i hm
    exact h.init hm a lwipReady hcalls
  · rename_i hm
    exact h.waited hm a lwipReady hcalls
  · rename_i hinit hwait
    have hquiet := h.quiet hcalls
    by_cases hm : m.point = .deleted
    · rwa [show NetManager.advance cfg a m lwipReady = ([], m) by simp [NetManager.advance, hm]]
    · have hstarted : Started m := by
        unfold Started
        split <;> trivial
      exact of_started (hstarted.advance cfg a lwipReady) (hquiet.setUp hstarted)

end MacLog

/-- **The drivers over a run.** -/
theorem run_macLog {phyAddr : UInt8} {d : D} (h : Machine.Run (step lwip cfg dev) (start phyAddr d) t s) :
    s.phy.phyAddr = phyAddr ∧ MacLog phyAddr s.net.task (accesses t) := by
  induction h with
  | nil => exact ⟨rfl, .created⟩
  | @snoc t s s' x o _ hstep ih =>
      obtain ⟨haddr, hlog⟩ := ih
      have hnew : accesses (t ++ [(x, o)]) = accesses t ++ o.2 := by
        rw [accesses_append]
        simp [accesses]
      rw [hnew]
      cases x with
      | wire e =>
          cases hstep
          exact ⟨haddr, by simpa using hlog⟩
      | own x =>
          cases hstep
          exact ⟨haddr, by simpa using hlog⟩
      | thread =>
          obtain ⟨⟨es, net⟩, hnet, hstep⟩ := Option.map_eq_some_iff.1 hstep
          cases hstep
          refine ⟨haddr, ?_⟩
          rw [List.append_nil]
          show MacLog phyAddr net.task (accesses t)
          rwa [(task_of_thread hnet).2]
      | task a stack quiet =>
          obtain ⟨r, hr, hstep⟩ := Option.bind_eq_some_iff.1 hstep
          obtain ⟨answers, hanswers, hstep⟩ := Option.bind_eq_some_iff.1 hstep
          cases hstep
          obtain ⟨haddr', hcalls⟩ := dev.drive_of_wlp (driverCalls_spec _ _ _ _ _) hr
          have hcalls := hcalls answers hanswers
          rw [haddr] at hcalls
          exact ⟨haddr'.trans haddr, hlog.advance answers _ hcalls⟩

/-- **No loss of the link is missed.**  Where the link is down at any moment after `WaitForLink`, for however
short a time, the next check of the task finds it down; and if the task has seen the link up before, the next
callback that it posts for the link is the one that says so. -/
theorem no_loss_missed {phyAddr : UInt8} {d : D} (hphy : LatchesLink dev phyAddr link steady)
    {before later : LinkTrace A E} (hbefore : Machine.Run (step lwip cfg dev) (start phyAddr d) before s)
    (hstarted : Started s.net.task) (hdown : link s.dev = false)
    (hlater : Machine.Run (step lwip cfg dev) s later s') {now : UInt32} {up : Bool}
    {checks : List (UInt32 × Bool)} (hcheck : samples (netEvents later) = (now, up) :: checks) :
    up = false ∧ (lastSeen s.net.task = true → (linkPosts (netEvents later)).head? = some .linkDown) := by
  have haddr := (run_macLog hbefore).1
  have hloss : steady s.dev = false :=
    Bool.eq_false_iff.2 fun hsteady => by simp [hphy.link_of_steady _ hsteady] at hdown
  obtain rfl : up = false := by
    rcases run_loss (by rwa [haddr]) hstarted hloss hlater with ⟨-, -, hnone, -⟩ | ⟨now', rest, hfound⟩
    · rw [hnone] at hcheck
      cases hcheck
    · rw [hfound] at hcheck
      exact (congrArg Prod.snd (List.cons.inj hcheck).1).symm
  refine ⟨rfl, fun hseen => ?_⟩
  obtain ⟨u, hu, hevents⟩ := net_runs hbefore
  obtain ⟨u', hu', hevents'⟩ := net_runs (hbefore.trans hlater)
  have hfirst := runs_linkSeen hu
  have hwhole := runs_linkSeen hu'
  have hposts := hwhole.posts
  rw [hevents', netEvents_append, linkPosts_append, samples_append, List.map_append, changes_append, ← hevents,
    ← hfirst.posts, ← hfirst.seen, hseen, hcheck] at hposts
  rw [List.append_cancel_left hposts]
  rfl

/-- A link, and whether it was up since register 1 was read. -/
structure PlainLink where
  up : Bool
  latched : Bool
  deriving DecidableEq, Repr

namespace PlainLink

def unbroken (d : PlainLink) : Bool := d.up && d.latched

/-- A PHY with address 0 at 100 Mbit/s in full duplex, whose link comes and goes; no call of the HAL fails. -/
def device : Device EthCommand EthRequest (Option UInt32) Bool PlainLink where
  write _ d := d
  read r d :=
    if r = .mdio 0 REG_BMSR then (some (if d.unbroken then 0x24 else 0x20), { d with latched := d.up })
    else if r = .mdio 0 REG_PHYSCSR then (some 0x18, d)
    else (some 0, d)
  own up d := ⟨up, d.unbroken && up⟩

theorem latchesLink : LatchesLink device 0 PlainLink.up unbroken where
  link_of_steady d h := (Bool.and_eq_true _ _ ▸ h).1
  steady_of_own up d h := by
    have h : (up && (d.unbroken && up)) = true := h
    cases hsteady : d.unbroken <;> simp_all
  steady_of_read d v hread hbit := by
    cases hsteady : d.unbroken with
    | true => rfl
    | false =>
        have hvalue : (device.read (.mdio 0 REG_BMSR) d).1 = some 0x20 := by simp [device, hsteady]
        rw [hvalue] at hread
        cases hread
        exact absurd rfl hbit

/-- The link comes up, and the manager enters its loop. -/
def firstLink : List (LinkAction UInt32 Bool) :=
  [.task ⟨false, 0, false, false, true⟩ (.Speed1G, .Half) (List.replicate 7 []),
    .task ⟨false, 0, false, false, true⟩ (.Speed1G, .Half) (List.replicate 42 []), .thread,
    .task ⟨false, 100, false, false, true⟩ (.Speed1G, .Half) []]

/-- It is back before the next check. -/
def backAgain : List (LinkAction UInt32 Bool) :=
  [.wire true, .task ⟨false, 600, false, false, true⟩ (.Speed1G, .Half) [[]]]

abbrev plainStep := step (E := Bool) (D := PlainLink) plainLwip staticConfig device

end PlainLink

/-- A loss that is over when the task looks. -/
theorem no_loss_missed_short :
    ∃ before s later s', Machine.Run PlainLink.plainStep (start 0 ⟨true, true⟩) before s ∧
      Machine.Run PlainLink.plainStep s later s' ∧ s.dev.up = false ∧ s'.dev.up = true ∧
      (linkPosts (netEvents later)).head? = some .linkDown := by
  have hexec : (Machine.exec PlainLink.plainStep (start 0 ⟨true, true⟩)
      (PlainLink.firstLink ++ [.wire false])).any (fun r =>
        r.2.net.task = ⟨.monitorLoop, false, true, 100⟩ ∧ r.2.dev.up = false ∧
          (Machine.exec PlainLink.plainStep r.2 PlainLink.backAgain).any (fun r' =>
            r'.2.dev.up = true ∧ samples (netEvents r'.1) = [(600, false)])) = true := by
    decide +kernel
  obtain ⟨before, s, hbefore, -, hp⟩ := Machine.exec_any hexec
  obtain ⟨htask, hdown, hlater⟩ := of_decide_eq_true hp
  obtain ⟨later, s', hlater, -, hp'⟩ := Machine.exec_any hlater
  obtain ⟨hup, hcheck⟩ := of_decide_eq_true hp'
  have htask : s.net.task = ⟨.monitorLoop, false, true, 100⟩ := htask
  refine ⟨before, s, later, s', hbefore, hlater, hdown, hup, ?_⟩
  refine (no_loss_missed PlainLink.latchesLink hbefore ?_ hdown hlater hcheck).2 ?_
  · rw [htask]
    trivial
  · rw [htask]
    rfl

/-- **The MAC is set up once.**  Nothing touches it before `Init`, which calls `HAL_ETH_Init` and no more; the
call of `WaitForLink` that finds the link up brings it up, for the mode that it reads from the PHY there, or
what there was on the stack if it reads none; and no loss or recovery of the link after that touches it
again. -/
theorem mac_set_once {phyAddr : UInt8} {d : D} (h : Machine.Run (step lwip cfg dev) (start phyAddr d) t s) :
    MacLog phyAddr s.net.task (accesses t) :=
  (run_macLog h).2

/-- For the link that comes up at 100 Mbit/s in full duplex. -/
theorem mac_set_once_full :
    ∃ t s, Machine.Run PlainLink.plainStep (start 0 ⟨true, true⟩) t s ∧
      .wrote (.setMacConfig .ETH_SPEED_100M .ETH_FULLDUPLEX_MODE) ∈ accesses t ∧ SetUpOnce 0 (accesses t) := by
  have hexec : (Machine.exec PlainLink.plainStep (start 0 ⟨true, true⟩) PlainLink.firstLink).any
      (fun r => r.2.net.task = ⟨.monitorLoop, false, true, 100⟩ ∧
        .wrote (.setMacConfig .ETH_SPEED_100M .ETH_FULLDUPLEX_MODE) ∈ accesses r.1) = true := by
    decide +kernel
  obtain ⟨t, s, hrun, -, hp⟩ := Machine.exec_any hexec
  obtain ⟨htask, hset⟩ := of_decide_eq_true hp
  have htask : s.net.task = ⟨.monitorLoop, false, true, 100⟩ := htask
  refine ⟨t, s, hrun, hset, (mac_set_once hrun).setUp ?_⟩
  rw [htask]
  trivial

end LinkNode

end EmbeddedPixel
