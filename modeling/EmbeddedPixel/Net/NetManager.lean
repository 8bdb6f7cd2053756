import Mathlib
import EmbeddedPixel.Foundation.Bytes
import EmbeddedPixel.Foundation.Machine

/-!
# The network manager (`net/NetManager.h`, `net/NetManager.cpp`)

The manager's task and the `tcpip_thread` of lwIP run side by side.  The task decides and posts callbacks;
the thread executes them one at a time, in the order they were posted, and has activity of its own.  A
step of `NetManager.step` is one of: the task up to its next question to the outside, the thread with the
next callback, or lwIP by itself.

`Monitor` is the task: the place it has come to and the locals of `monitorLoop`.  lwIP is not part of the
repository; `Lwip` is what the manager calls of it, with what these calls are documented to do.  Console
output, the DMA polls of `ethernetif_input` and the delays are left out.
-/

set_option autoImplicit false

namespace EmbeddedPixel

open Foundation

/-- `IpMode`. -/
inductive IpMode where
  | static
  | dhcp
  | dhcpWithFallback
  deriving DecidableEq, Repr

/-- `IpConfig`, less the host name. -/
structure IpConfig where
  mode : IpMode
  staticIp : UInt32
  netmask : UInt32
  gateway : UInt32
  dhcpTimeoutMs : UInt32
  deriving DecidableEq, Repr

/-- `IP4_MAKE`. -/
def IP4_MAKE (a b c d : UInt8) : UInt32 :=
  a.toUInt32 ||| (b.toUInt32 <<< 8) ||| (c.toUInt32 <<< 16) ||| (d.toUInt32 <<< 24)

/-- An lwIP whose interfaces are in `N` and that does `A` by itself. -/
structure Lwip (N A : Type) where
  netifAdd : (ipaddr netmask gw : UInt32) → N
  netifSetAddr : (ipaddr netmask gw : UInt32) → N → N
  netifSetUp : N → N
  netifSetLinkUp : N → N
  netifSetLinkDown : N → N
  dhcpStart : N → N
  dhcpStop : N → N
  own : A → N → N
  isLinkUp : N → Bool
  ipAddr : N → UInt32
  /-- A DHCP client was started on the interface and not stopped since. -/
  dhcpActive : N → Bool
  /- Only the two link calls change the link flag. -/
  link_setLinkUp : ∀ n, isLinkUp (netifSetLinkUp n) = true
  link_setLinkDown : ∀ n, isLinkUp (netifSetLinkDown n) = false
  link_setAddr : ∀ i m g n, isLinkUp (netifSetAddr i m g n) = isLinkUp n
  link_setUp : ∀ n, isLinkUp (netifSetUp n) = isLinkUp n
  link_dhcpStart : ∀ n, isLinkUp (dhcpStart n) = isLinkUp n
  link_dhcpStop : ∀ n, isLinkUp (dhcpStop n) = isLinkUp n
  link_own : ∀ x n, isLinkUp (own x n) = isLinkUp n
  /- The address is the one that was set, until a DHCP client changes it. -/
  addr_add : ∀ i m g, ipAddr (netifAdd i m g) = i
  addr_setAddr : ∀ i m g n, ipAddr (netifSetAddr i m g n) = i
  addr_setUp : ∀ n, ipAddr (netifSetUp n) = ipAddr n
  addr_setLinkUp : ∀ n, ipAddr (netifSetLinkUp n) = ipAddr n
  addr_setLinkDown : ∀ n, ipAddr (netifSetLinkDown n) = ipAddr n
  addr_own : ∀ x n, dhcpActive n = false → ipAddr (own x n) = ipAddr n
  /- Only `dhcp_start` starts a client. -/
  dhcp_add : ∀ i m g, dhcpActive (netifAdd i m g) = false
  dhcp_setAddr : ∀ i m g n, dhcpActive (netifSetAddr i m g n) = dhcpActive n
  dhcp_setUp : ∀ n, dhcpActive (netifSetUp n) = dhcpActive n
  dhcp_setLinkUp : ∀ n, dhcpActive (netifSetLinkUp n) = dhcpActive n
  dhcp_setLinkDown : ∀ n, dhcpActive (netifSetLinkDown n) = dhcpActive n
  dhcp_own : ∀ x n, dhcpActive n = false → dhcpActive (own x n) = false

namespace NetManager

variable {N A : Type}

/-! ## In the `tcpip_thread` -/

section Callbacks

variable (lwip : Lwip N A) (cfg : IpConfig)

/-- `applyStaticIpInternal`. -/
def applyStaticIpInternal (n : N) : N := lwip.netifSetAddr cfg.staticIp cfg.netmask cfg.gateway n

/-- `initLwip`. -/
def initLwip : N :=
  let n :=
    if cfg.mode = .static then lwip.netifAdd cfg.staticIp cfg.netmask cfg.gateway
    else lwip.netifAdd 0 0 0
  let n := lwip.netifSetUp (lwip.netifSetLinkUp n)
  if cfg.mode = .static then applyStaticIpInternal lwip cfg n else lwip.dhcpStart n

/-- What the task posts to the thread. -/
inductive Callback where
  | tcpipInitDone
  | fallbackStatic
  | linkDown
  | linkUp
  deriving DecidableEq, Repr

/-- `on_tcpip_init_done`, `cb_fallback_static`, `cb_link_down` and `cb_link_up`; the interface is there
once the first of them has been executed, and with it `lwip_ready_` is set. -/
def execute : Callback → Option N → Option N
  | .tcpipInitDone, _ => some (initLwip lwip cfg)
  | .fallbackStatic, netif => netif.map (applyStaticIpInternal lwip cfg)
  | .linkDown, netif => netif.map fun n =>
    let n := lwip.netifSetLinkDown n
    if cfg.mode ≠ .static then lwip.dhcpStop n else n
  | .linkUp, netif => netif.map fun n =>
    let n := lwip.netifSetLinkUp n
    if cfg.mode = .static then applyStaticIpInternal lwip cfg n else lwip.dhcpStart n

/-- `is_ready`. -/
def isReady (netif : Option N) : Bool := netif.any fun n => lwip.ipAddr n != 0

end Callbacks

/-! ## The task -/

/-- Where the task waits for an answer. -/
inductive Point where
  /-- `eth_.Init()` -/
  | driverInit
  /-- the loop around `WaitForLink` -/
  | waitForLink
  /-- the loop around `lwip_ready_` -/
  | waitForLwip
  /-- the loop of `waitForDhcpLease`; `restored` where it is called from the monitor loop -/
  | waitForDhcpLease (elapsed : UInt32) (restored : Bool)
  /-- the monitor loop -/
  | monitorLoop
  /-- `vTaskDelete` -/
  | deleted
  deriving DecidableEq, Repr

/-- The task: its place and the locals of `monitorLoop`. -/
structure Monitor where
  point : Point
  dhcpPrinted : Bool
  linkWasUp : Bool
  lastLinkCheck : UInt32
  deriving DecidableEq, Repr

/-- What the outside answers where the task asks: `eth_.Init()`, `xTaskGetTickCount()`,
`dhcp_supplied_address()`, `WaitForLink()` or `IsLinkUp()`, and whether `tcpip_callback` accepts. -/
structure Answers where
  initOk : Bool
  now : UInt32
  supplied : Bool
  linkUp : Bool
  accepted : Bool
  deriving DecidableEq, Repr

/-- What the task does that others can see. -/
inductive Event where
  /-- `IsLinkUp` in the monitor loop -/
  | sample (now : UInt32) (linkUp : Bool)
  /-- `tcpip_init` or `tcpip_callback` -/
  | post (cb : Callback) (accepted : Bool)
  | gratuitousArp
  deriving DecidableEq, Repr

section Task

variable (cfg : IpConfig) (a : Answers) (t : Monitor)

/-- One round of the loop of `waitForDhcpLease`: what it returns, or the next `elapsed`. -/
def leaseRound (timeoutMs elapsed : UInt32) (supplied : Bool) : Bool ⊕ UInt32 :=
  if elapsed < timeoutMs then
    if supplied then .inl true else .inr (elapsed + 10)
  else .inl false

/-- The locals of `monitorLoop` before its first round. -/
def enterLoop : Monitor := ⟨.monitorLoop, false, true, a.now⟩

/-- `monitorLoop` up to its first round, or to the wait before it. -/
def enterMonitor : Monitor :=
  if cfg.mode = .dhcpWithFallback then { enterLoop a with point := .waitForDhcpLease 0 false }
  else enterLoop a

/-- After `waitForDhcpLease`, before the loop or in it. -/
def afterWait (restored lease : Bool) : List Event × Monitor :=
  if restored then
    (if lease then [] else [.post .fallbackStatic a.accepted],
      { t with point := .monitorLoop, linkWasUp := true })
  else
    (if lease then [.gratuitousArp] else [.post .fallbackStatic a.accepted], enterLoop a)

/-- One round of the monitor loop, up to the wait for a lease if there is one. -/
def monitorRound : List Event × Monitor :=
  if a.now - t.lastLinkCheck ≥ 500 then
    let t := { t with lastLinkCheck := a.now }
    let t :=
      if cfg.mode = .dhcp ∧ t.dhcpPrinted = false ∧ a.supplied = true then
        { t with dhcpPrinted := true }
      else t
    if t.linkWasUp = true ∧ a.linkUp = false then
      ([.sample a.now a.linkUp, .post .linkDown a.accepted],
        { t with dhcpPrinted := false, linkWasUp := false })
    else if t.linkWasUp = false ∧ a.linkUp = true then
      ([.sample a.now a.linkUp, .post .linkUp a.accepted],
        if cfg.mode = .dhcpWithFallback then { t with point := .waitForDhcpLease 0 true }
        else { t with linkWasUp := true })
    else ([.sample a.now a.linkUp], t)
  else ([], t)

/-- `run`, from one question to the next; `lwipReady` is `lwip_ready_`. -/
def advance (lwipReady : Bool) : List Event × Monitor :=
  match t.point with
  | .driverInit => ([], { t with point := if a.initOk then .waitForLink else .deleted })
  | .waitForLink =>
    if a.linkUp then ([.post .tcpipInitDone true], { t with point := .waitForLwip }) else ([], t)
  | .waitForLwip => if lwipReady then ([], enterMonitor cfg a) else ([], t)
  | .waitForDhcpLease elapsed restored =>
    match leaseRound cfg.dhcpTimeoutMs elapsed a.supplied with
    | .inl lease => afterWait a t restored lease
    | .inr elapsed => ([], { t with point := .waitForDhcpLease elapsed restored })
  | .monitorLoop => monitorRound cfg a t
  | .deleted => ([], t)

/-- The task when it is created. -/
def created : Monitor := ⟨.driverInit, false, true, 0⟩

end Task

end NetManager

/-- The manager, the callbacks that are posted and not yet executed, and the interface. -/
structure NetManager (N : Type) where
  task : NetManager.Monitor
  mailbox : List NetManager.Callback
  netif : Option N

namespace NetManager

variable {N A : Type} (lwip : Lwip N A) (cfg : IpConfig)

/-- What can happen next. -/
inductive NetAction (A : Type) where
  | task (a : Answers)
  | thread
  | own (x : A)

/-- The callbacks that were accepted. -/
def posted : List Event → List Callback
  | [] => []
  | .post cb true :: es => cb :: posted es
  | _ :: es => posted es

/-- One step of the node's network. -/
def step (s : NetManager N) : NetAction A → Option (List Event × NetManager N)
  | .task a =>
    let r := advance cfg a s.task s.netif.isSome
    some (r.1, { s with task := r.2, mailbox := s.mailbox ++ posted r.1 })
  | .thread =>
    match s.mailbox with
    | [] => none
    | cb :: cbs => some ([], { s with mailbox := cbs, netif := execute lwip cfg cb s.netif })
  | .own x => some ([], { s with netif := s.netif.map (lwip.own x) })

/-- The state when the task is created. -/
def start : NetManager N := ⟨created, [], none⟩

/-- The runs: what happened and what the task did. -/
def Runs (t : List (NetAction A × List Event)) (s : NetManager N) : Prop :=
  Machine.Run (step lwip cfg) start t s

/-- All that the task did in a run. -/
def events (t : List (NetAction A × List Event)) : List Event := t.flatMap (·.2)

end NetManager

end EmbeddedPixel
