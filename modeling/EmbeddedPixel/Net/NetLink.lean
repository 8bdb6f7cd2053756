import Mathlib.Data.List.Chain
import EmbeddedPixel.Net.NetManager

/-!
# The link, the address and the wait for a lease

Whatever the driver, DHCP and lwIP answer, and however the manager's task and the `tcpip_thread`
interleave:

* `link_edges` — the link is sampled at most every 500 ticks, and the link callbacks posted are exactly
  the changes of the samples, the first of which counts against a link that is up.
* `link_follows` — once the mailbox is empty the interface's link flag is what the accepted callbacks
  say, and that is the last sample if none was refused.
* `static_address` — a node with a static address has it from `initLwip` on, in every state.
* `wait_ends_iff` — the wait for a lease that does not come ends, for every timeout but one.

`advance_link` is the spec lemma of the task for all of these.
-/

set_option autoImplicit false

namespace EmbeddedPixel

open Foundation

namespace NetManager

variable {N A : Type} {lwip : Lwip N A} {cfg : IpConfig} {s s' : NetManager N}
  {t : List (NetAction A × List Event)}

/-! ## Samples and callbacks -/

/-- The link states sampled, with the ticks. -/
def samples : List Event → List (UInt32 × Bool)
  | [] => []
  | .sample now linkUp :: es => (now, linkUp) :: samples es
  | _ :: es => samples es

/-- The link callbacks posted, accepted or not. -/
def linkPosts : List Event → List Callback
  | [] => []
  | .post .linkDown _ :: es => .linkDown :: linkPosts es
  | .post .linkUp _ :: es => .linkUp :: linkPosts es
  | _ :: es => linkPosts es

/-- The changes in a list of link states, after a first one. -/
def changes : Bool → List Bool → List Callback
  | _, [] => []
  | true, false :: ups => .linkDown :: changes false ups
  | false, true :: ups => .linkUp :: changes true ups
  | was, _ :: ups => changes was ups

theorem samples_append (es es' : List Event) : samples (es ++ es') = samples es ++ samples es' := by
  induction es with
  | nil => rfl
  | cons e es ih =>
      cases e with
      | sample now linkUp => exact congrArg _ ih
      | post cb ok => exact ih
      | gratuitousArp => exact ih

theorem linkPosts_append (es es' : List Event) :
    linkPosts (es ++ es') = linkPosts es ++ linkPosts es' := by
  induction es with
  | nil => rfl
  | cons e es ih =>
      cases e with
      | sample now linkUp => exact ih
      | post cb ok =>
          cases cb with
          | linkDown => exact congrArg _ ih
          | linkUp => exact congrArg _ ih
          | tcpipInitDone => exact ih
          | fallbackStatic => exact ih
      | gratuitousArp => exact ih

theorem posted_append (es es' : List Event) : posted (es ++ es') = posted es ++ posted es' := by
  induction es with
  | nil => rfl
  | cons e es ih =>
      cases e with
      | sample now linkUp => exact ih
      | post cb ok =>
          cases ok with
          | true => exact congrArg _ ih
          | false => exact ih
      | gratuitousArp => exact ih

theorem changes_append (was : Bool) (ups ups' : List Bool) :
    changes was (ups ++ ups') = changes was ups ++ changes (ups.getLastD was) ups' := by
  induction ups generalizing was with
  | nil => rfl
  | cons up ups ih =>
      have hlast : (up :: ups).getLastD was = ups.getLastD up := by cases ups <;> rfl
      rw [hlast, List.cons_append]
      cases was <;> cases up <;> simp [changes, ih]

theorem getLastD_append {α : Type} (d : α) (l l' : List α) :
    (l ++ l').getLastD d = l'.getLastD (l.getLastD d) := by
  rw [List.getLastD_eq_getLast?, List.getLastD_eq_getLast?, List.getLastD_eq_getLast?,
    List.getLast?_append]
  cases l'.getLast? <;> rfl

/-! ## The task -/

/-- The link state the task has seen last. -/
def lastSeen (t : Monitor) : Bool :=
  match t.point with
  | .waitForDhcpLease _ true => true
  | _ => t.linkWasUp

/-- `link_was_up` is still `false` while the task waits for a lease after a recovery, and has its first
value before the monitor loop. -/
def Consistent (t : Monitor) : Prop :=
  match t.point with
  | .waitForDhcpLease _ true => t.linkWasUp = false
  | .monitorLoop => True
  | _ => t.linkWasUp = true

/-- The task is in the monitor loop, or waits in it. -/
def InLoop (t : Monitor) : Prop :=
  match t.point with
  | .waitForDhcpLease _ restored => restored = true
  | .monitorLoop => True
  | _ => False

/-- What the task does between two questions, as far as the link goes. -/
structure LinkStep (t : Monitor) (es : List Event) (t' : Monitor) : Prop where
  consistent : Consistent t'
  seen : lastSeen t' = ((samples es).map (·.2)).getLastD (lastSeen t)
  posts : linkPosts es = changes (lastSeen t) ((samples es).map (·.2))
  checked : samples es = [] ∧ (InLoop t → InLoop t' ∧ t'.lastLinkCheck = t.lastLinkCheck) ∨
    InLoop t' ∧ ∃ now up, samples es = [(now, up)] ∧ t'.lastLinkCheck = now ∧
      now - t.lastLinkCheck ≥ 500

/-- A step without a sample. -/
theorem LinkStep.quiet {t t' : Monitor} {es : List Event} (hsamples : samples es = [])
    (hposts : linkPosts es = []) (hseen : lastSeen t' = lastSeen t) (hconsistent : Consistent t')
    (hloop : InLoop t → InLoop t' ∧ t'.lastLinkCheck = t.lastLinkCheck) : LinkStep t es t' where
  consistent := hconsistent
  seen := by rw [hsamples]; exact hseen
  posts := by rw [hsamples, hposts]; rfl
  checked := Or.inl ⟨hsamples, hloop⟩

/-- A step with one sample. -/
theorem LinkStep.sampled {t t' : Monitor} {es : List Event} {now : UInt32} {up : Bool}
    (hsamples : samples es = [(now, up)]) (hposts : linkPosts es = changes (lastSeen t) [up])
    (hseen : lastSeen t' = up) (hconsistent : Consistent t') (hloop : InLoop t')
    (hnow : t'.lastLinkCheck = now) (hdue : now - t.lastLinkCheck ≥ 500) : LinkStep t es t' where
  consistent := hconsistent
  seen := by rw [hsamples]; exact hseen
  posts := by rw [hsamples]; exact hposts
  checked := Or.inr ⟨hloop, now, up, hsamples, hnow, hdue⟩

theorem monitorRound_link {t : Monitor} (a : Answers) (hpoint : t.point = .monitorLoop) :
    LinkStep t (monitorRound cfg a t).1 (monitorRound cfg a t).2 := by
  obtain ⟨point, dhcpPrinted, linkWasUp, lastLinkCheck⟩ := t
  cases hpoint
  unfold monitorRound
  split
  swap
  · exact .quiet rfl rfl rfl trivial fun h => ⟨h, rfl⟩
  rename_i hdue
  dsimp only
  -- whether the address was printed does not matter
  have hprinted : ∃ p, (if cfg.mode = .dhcp ∧ dhcpPrinted = false ∧ a.supplied = true then
      (⟨.monitorLoop, true, linkWasUp, a.now⟩ : Monitor)
    else ⟨.monitorLoop, dhcpPrinted, linkWasUp, a.now⟩) = ⟨.monitorLoop, p, linkWasUp, a.now⟩ := by
    split
    · exact ⟨true, rfl⟩
    · exact ⟨dhcpPrinted, rfl⟩
  obtain ⟨p, hp⟩ := hprinted
  rw [hp]
  dsimp only
  split
  · -- the link went down
    rename_i hdown
    obtain ⟨rfl, hlink⟩ := hdown
    rw [hlink]
    exact .sampled rfl rfl rfl trivial trivial rfl hdue
  · rename_i hnotdown
    split
    · -- the link came back
      rename_i hup
      obtain ⟨rfl, hlink⟩ := hup
      rw [hlink]
      split
      · exact .sampled rfl rfl rfl rfl rfl rfl hdue
      · exact .sampled rfl rfl rfl trivial trivial rfl hdue
    · rename_i hnotup
      have hsame : a.linkUp = linkWasUp := by
        revert hnotdown hnotup
        cases linkWasUp <;> cases a.linkUp <;> simp
      refine .sampled rfl ?_ hsame.symm trivial trivial rfl hdue
      rw [hsame]
      show [] = changes linkWasUp [linkWasUp]
      cases linkWasUp <;> rfl

theorem enterMonitor_link {t : Monitor} (a : Answers) (hloop : ¬ InLoop t) (hseen : lastSeen t = true) :
    LinkStep t [] (enterMonitor cfg a) := by
  unfold enterMonitor
  split
  · exact .quiet rfl rfl hseen.symm rfl fun h => absurd h hloop
  · exact .quiet rfl rfl hseen.symm trivial fun h => absurd h hloop

/-- **What the task does between two questions, as far as the link goes.** -/
theorem advance_link {t : Monitor} (a : Answers) (lwipReady : Bool) (h : Consistent t) :
    LinkStep t (advance cfg a t lwipReady).1 (advance cfg a t lwipReady).2 := by
  obtain ⟨point, dhcpPrinted, linkWasUp, lastLinkCheck⟩ := t
  cases point with
  | driverInit =>
      obtain rfl : linkWasUp = true := h
      unfold advance
      dsimp only
      cases a.initOk
      · exact .quiet rfl rfl rfl rfl fun h => h.elim
      · exact .quiet rfl rfl rfl rfl fun h => h.elim
  | waitForLink =>
      obtain rfl : linkWasUp = true := h
      unfold advance
      dsimp only
      split
      · exact .quiet rfl rfl rfl rfl fun h => h.elim
      · exact .quiet rfl rfl rfl rfl fun h => h.elim
  | waitForLwip =>
      obtain rfl : linkWasUp = true := h
      unfold advance
      dsimp only
      split
      · exact enterMonitor_link a (fun h => h) rfl
      · exact .quiet rfl rfl rfl rfl fun h => h.elim
  | waitForDhcpLease elapsed restored =>
      unfold advance afterWait
      dsimp only
      cases restored with
      | true =>
          obtain rfl : linkWasUp = false := h
          split
          · rename_i lease _
            cases lease
            · exact .quiet rfl rfl rfl trivial fun _ => ⟨trivial, rfl⟩
            · exact .quiet rfl rfl rfl trivial fun _ => ⟨trivial, rfl⟩
          · exact .quiet rfl rfl rfl rfl fun _ => ⟨rfl, rfl⟩
      | false =>
          obtain rfl : linkWasUp = true := h
          have hout : ¬ InLoop ⟨.waitForDhcpLease elapsed false, dhcpPrinted, true, lastLinkCheck⟩ := by
            intro hin
            cases hin
          split
          · rename_i lease _
            cases lease
            · exact .quiet rfl rfl rfl trivial fun h => absurd h hout
            · exact .quiet rfl rfl rfl trivial fun h => absurd h hout
          · exact .quiet rfl rfl rfl rfl fun h => absurd h hout
  | monitorLoop => exact monitorRound_link a rfl
  | deleted =>
      obtain rfl : linkWasUp = true := h
      exact .quiet rfl rfl rfl rfl fun h => h.elim

/-! ## Runs -/

theorem events_append (t t' : List (NetAction A × List Event)) :
    events (t ++ t') = events t ++ events t' := by
  unfold events
  rw [List.flatMap_append]

/-- A step of the task, or one that leaves it where it is. -/
theorem step_task {x : NetAction A} {es : List Event} (h : step lwip cfg s x = some (es, s')) :
    (∃ a, (es, s'.task) = advance cfg a s.task s.netif.isSome) ∨ (es = [] ∧ s'.task = s.task) := by
  cases x with
  | task a =>
      cases h
      exact Or.inl ⟨a, rfl⟩
  | thread =>
      unfold step at h
      dsimp only at h
      split at h
      · cases h
      · cases h
        exact Or.inr ⟨rfl, rfl⟩
  | own x =>
      cases h
      exact Or.inr ⟨rfl, rfl⟩

/-- After a run: what the task has seen and posted so far. -/
structure LinkSeen (es : List Event) (t : Monitor) : Prop where
  consistent : Consistent t
  seen : lastSeen t = ((samples es).map (·.2)).getLastD true
  posts : linkPosts es = changes true ((samples es).map (·.2))
  spaced : List.IsChain (fun a b : UInt32 => b - a ≥ 500) ((samples es).map (·.1))
  last : ∀ now ∈ ((samples es).map (·.1)).getLast?, InLoop t ∧ t.lastLinkCheck = now

theorem LinkSeen.next {es es' : List Event} {t t' : Monitor} (h : LinkSeen es t)
    (hstep : LinkStep t es' t') : LinkSeen (es ++ es') t' := by
  refine ⟨hstep.consistent, ?_, ?_, ?_, ?_⟩
  · rw [hstep.seen, h.seen, samples_append, List.map_append, getLastD_append]
  · rw [linkPosts_append, h.posts, hstep.posts, h.seen, samples_append, List.map_append,
      changes_append]
  · rw [samples_append, List.map_append, List.isChain_append]
    refine ⟨h.spaced, ?_, ?_⟩
    · rcases hstep.checked with ⟨hnone, -⟩ | ⟨-, now, up, hone, -, -⟩
      · rw [hnone]
        exact .nil
      · rw [hone]
        exact .singleton _
    · intro a ha b hb
      obtain ⟨-, hlast⟩ := h.last a ha
      rcases hstep.checked with ⟨hnone, -⟩ | ⟨-, now, up, hone, -, hdue⟩
      · rw [hnone] at hb
        cases hb
      · rw [hone] at hb
        cases hb
        rw [← hlast]
        exact hdue
  · intro now hnow
    rw [samples_append, List.map_append] at hnow
    rcases hstep.checked with ⟨hnone, hkept⟩ | ⟨hin, now', up, hone, hcheck, -⟩
    · rw [hnone, List.map_nil, List.append_nil] at hnow
      obtain ⟨hin, hlast⟩ := h.last now hnow
      obtain ⟨hin', hsame⟩ := hkept hin
      exact ⟨hin', hsame.trans hlast⟩
    · rw [hone] at hnow
      rw [List.map_cons, List.map_nil, List.getLast?_append] at hnow
      cases hnow
      exact ⟨hin, hcheck⟩

theorem runs_linkSeen (h : Runs lwip cfg t s) : LinkSeen (events t) s.task := by
  induction h with
  | nil => exact ⟨rfl, rfl, rfl, .nil, by simp [events, samples]⟩
  | @snoc t s s' x es _ hstep ih =>
      have hnew : events (t ++ [(x, es)]) = events t ++ es := by
        rw [events_append]
        simp [events]
      rw [hnew]
      rcases step_task hstep with ⟨a, ha⟩ | ⟨rfl, htask⟩
      · obtain ⟨hes, htask⟩ := Prod.mk.inj ha
        rw [hes, htask]
        exact ih.next (advance_link a _ ih.consistent)
      · rw [List.append_nil, htask]
        exact ih

/-- The least an lwIP can be: a link flag, an address, and whether a DHCP client runs. -/
structure PlainNetif where
  linkUp : Bool
  ipAddr : UInt32
  dhcpActive : Bool
  deriving DecidableEq, Repr

/-- A DHCP client of this one sets the addresses it is offered. -/
def plainLwip : Lwip PlainNetif UInt32 where
  netifAdd ipaddr _ _ := ⟨false, ipaddr, false⟩
  netifSetAddr ipaddr _ _ n := { n with ipAddr := ipaddr }
  netifSetUp n := n
  netifSetLinkUp n := { n with linkUp := true }
  netifSetLinkDown n := { n with linkUp := false }
  dhcpStart n := { n with dhcpActive := true }
  dhcpStop n := { n with dhcpActive := false, ipAddr := 0 }
  own offer n := if n.dhcpActive then { n with ipAddr := offer } else n
  isLinkUp n := n.linkUp
  ipAddr n := n.ipAddr
  dhcpActive n := n.dhcpActive
  link_setLinkUp _ := rfl
  link_setLinkDown _ := rfl
  link_setAddr _ _ _ _ := rfl
  link_setUp _ := rfl
  link_dhcpStart _ := rfl
  link_dhcpStop _ := rfl
  link_own x n := by split <;> rfl
  addr_add _ _ _ := rfl
  addr_setAddr _ _ _ _ := rfl
  addr_setUp _ := rfl
  addr_setLinkUp _ := rfl
  addr_setLinkDown _ := rfl
  addr_own x n h := by rw [h]; rfl
  dhcp_add _ _ _ := rfl
  dhcp_setAddr _ _ _ _ := rfl
  dhcp_setUp _ := rfl
  dhcp_setLinkUp _ := rfl
  dhcp_setLinkDown _ := rfl
  dhcp_own x n h := by rw [h]; exact h

def staticConfig : IpConfig := ⟨.static, IP4_MAKE 192 168 1 50, IP4_MAKE 255 255 255 0, 0, 10000⟩

/-- The link comes up, and is lost at the first check. -/
def linkLost : List (NetAction UInt32) :=
  [.task ⟨true, 0, false, false, true⟩, .task ⟨true, 0, false, true, true⟩, .thread,
    .task ⟨true, 100, false, true, true⟩, .task ⟨true, 600, false, false, true⟩, .own 7]

/-- **The link callbacks are the changes of the link.**  In every run the link is sampled at most every
500 ticks, and the callbacks posted for it are exactly the changes of the samples: down and up in turn,
beginning with a loss. -/
theorem link_edges (lwip : Lwip N A) (cfg : IpConfig) {t : List (NetAction A × List Event)}
    {s : NetManager N} (h : Runs lwip cfg t s) :
    linkPosts (events t) = changes true ((samples (events t)).map (·.2)) ∧
      List.IsChain (fun a b : UInt32 => b - a ≥ 500) ((samples (events t)).map (·.1)) := by
  have hseen := runs_linkSeen h
  exact ⟨hseen.posts, hseen.spaced⟩

theorem link_edges_lost :
    ∃ t s, Runs plainLwip staticConfig t s ∧ linkPosts (events t) = [.linkDown] := by
  have hexec : (Machine.exec (step plainLwip staticConfig) start linkLost).any
      (fun r => samples (events r.1) = [(600, false)]) = true := by
    decide +kernel
  obtain ⟨t, s, hrun, -, hp⟩ := Machine.exec_any hexec
  refine ⟨t, s, hrun, ?_⟩
  rw [(link_edges plainLwip staticConfig hrun).1, of_decide_eq_true hp]
  rfl

/-! ## The interface -/

/-- What a callback makes of the link flag, once there is an interface. -/
def Callback.link : Callback → Bool → Bool
  | .linkDown, _ => false
  | .linkUp, _ => true
  | _, up => up

/-- The link flag after some callbacks. -/
def linkAfter (up : Bool) (cbs : List Callback) : Bool := cbs.foldl (fun up cb => cb.link up) up

theorem linkAfter_append (up : Bool) (cbs cbs' : List Callback) :
    linkAfter up (cbs ++ cbs') = linkAfter (linkAfter up cbs) cbs' := by
  unfold linkAfter
  rw [List.foldl_append]

theorem linkAfter_changes (was : Bool) (ups : List Bool) :
    linkAfter was (changes was ups) = ups.getLastD was := by
  induction ups generalizing was with
  | nil => rfl
  | cons up ups ih =>
      have hlast : (up :: ups).getLastD was = ups.getLastD up := by cases ups <;> rfl
      rw [hlast, ← ih up]
      cases was <;> cases up <;> rfl

/-- No post was refused. -/
def AllAccepted (es : List Event) : Prop := ∀ cb, Event.post cb false ∉ es

theorem linkAfter_posted {es : List Event} (h : AllAccepted es) (up : Bool) :
    linkAfter up (posted es) = linkAfter up (linkPosts es) := by
  induction es generalizing up with
  | nil => rfl
  | cons e es ih =>
      have hes : AllAccepted es := fun cb hcb => h cb (List.mem_cons_of_mem _ hcb)
      cases e with
      | sample now linkUp => exact ih hes up
      | gratuitousArp => exact ih hes up
      | post cb ok =>
          cases ok with
          | false => exact absurd List.mem_cons_self (h cb)
          | true =>
              cases cb with
              | tcpipInitDone => exact ih hes up
              | fallbackStatic => exact ih hes up
              | linkDown => exact ih hes false
              | linkUp => exact ih hes true

theorem isLinkUp_initLwip : lwip.isLinkUp (initLwip lwip cfg) = true := by
  unfold initLwip applyStaticIpInternal
  dsimp only
  split
  · rw [lwip.link_setAddr, lwip.link_setUp, lwip.link_setLinkUp]
  · rw [lwip.link_dhcpStart, lwip.link_setUp, lwip.link_setLinkUp]

/-- A callback on an interface. -/
theorem execute_some (lwip : Lwip N A) (cfg : IpConfig) (cb : Callback) (n : N) (hcb : cb ≠ .tcpipInitDone) :
    ∃ n', execute lwip cfg cb (some n) = some n' ∧
      lwip.isLinkUp n' = cb.link (lwip.isLinkUp n) := by
  cases cb with
  | tcpipInitDone => exact absurd rfl hcb
  | fallbackStatic => exact ⟨_, rfl, lwip.link_setAddr _ _ _ n⟩
  | linkDown =>
      refine ⟨_, rfl, ?_⟩
      show lwip.isLinkUp (if cfg.mode ≠ .static then _ else _) = false
      split
      · rw [lwip.link_dhcpStop, lwip.link_setLinkDown]
      · rw [lwip.link_setLinkDown]
  | linkUp =>
      refine ⟨_, rfl, ?_⟩
      show lwip.isLinkUp (if cfg.mode = .static then _ else _) = true
      split
      · exact (lwip.link_setAddr _ _ _ _).trans (lwip.link_setLinkUp n)
      · rw [lwip.link_dhcpStart, lwip.link_setLinkUp]

/-- How far the node has come: nothing is posted before the driver has a link, the interface is there
when the first callback has been executed, and no other is posted before. -/
def Phase (s : NetManager N) : Prop :=
  match s.task.point with
  | .waitForLwip =>
    (s.netif = none ∧ s.mailbox = [.tcpipInitDone]) ∨ (s.netif.isSome = true ∧ s.mailbox = [])
  | .waitForDhcpLease _ _ => s.netif.isSome = true ∧ Callback.tcpipInitDone ∉ s.mailbox
  | .monitorLoop => s.netif.isSome = true ∧ Callback.tcpipInitDone ∉ s.mailbox
  | _ => s.netif = none ∧ s.mailbox = []

/-- From the monitor loop on the task posts no other `tcpip_init`. -/
theorem monitorRound_posted (cfg : IpConfig) (t : Monitor) (a : Answers) (hpoint : t.point = .monitorLoop) :
    Callback.tcpipInitDone ∉ posted (monitorRound cfg a t).1 ∧
      ((monitorRound cfg a t).2.point = .monitorLoop ∨
        (monitorRound cfg a t).2.point = .waitForDhcpLease 0 true) := by
  obtain ⟨point, dhcpPrinted, linkWasUp, lastLinkCheck⟩ := t
  cases hpoint
  unfold monitorRound
  dsimp only
  generalize a.accepted = ok
  cases ok <;> split_ifs <;> simp [posted]

theorem afterWait_posted (t : Monitor) (a : Answers) (restored lease : Bool) :
    Callback.tcpipInitDone ∉ posted (afterWait a t restored lease).1 ∧
      (afterWait a t restored lease).2.point = .monitorLoop := by
  unfold afterWait enterLoop
  generalize a.accepted = ok
  cases restored <;> cases lease <;> cases ok <;> simp [posted]

/-- The points from which the task no longer posts `tcpip_init`, together. -/
theorem phase_started {t : Monitor} {mailbox : List Callback} {netif : Option N}
    (hpoint : t.point = .monitorLoop ∨ ∃ elapsed restored, t.point = .waitForDhcpLease elapsed restored)
    (hnetif : netif.isSome = true) (hmailbox : Callback.tcpipInitDone ∉ mailbox) :
    Phase ⟨t, mailbox, netif⟩ := by
  unfold Phase
  rcases hpoint with hpoint | ⟨elapsed, restored, hpoint⟩
  · dsimp only
    rw [hpoint]
    exact ⟨hnetif, hmailbox⟩
  · dsimp only
    rw [hpoint]
    exact ⟨hnetif, hmailbox⟩

theorem Phase.task (h : Phase s) (a : Answers) :
    Phase { s with
      task := (advance cfg a s.task s.netif.isSome).2
      mailbox := s.mailbox ++ posted (advance cfg a s.task s.netif.isSome).1 } := by
  obtain ⟨⟨point, dhcpPrinted, linkWasUp, lastLinkCheck⟩, mailbox, netif⟩ := s
  cases point with
  | driverInit =>
      obtain ⟨rfl, rfl⟩ : netif = none ∧ mailbox = [] := h
      unfold advance
      dsimp only
      cases a.initOk
      · exact ⟨rfl, rfl⟩
      · exact ⟨rfl, rfl⟩
  | waitForLink =>
      obtain ⟨rfl, rfl⟩ : netif = none ∧ mailbox = [] := h
      unfold advance
      dsimp only
      cases a.linkUp
      · exact ⟨rfl, rfl⟩
      · exact Or.inl ⟨rfl, rfl⟩
  | waitForLwip =>
      have h : (netif = none ∧ mailbox = [.tcpipInitDone]) ∨ (netif.isSome = true ∧ mailbox = []) := h
      unfold advance
      dsimp only
      rcases h with ⟨rfl, rfl⟩ | ⟨hsome, rfl⟩
      · exact Or.inl ⟨rfl, rfl⟩
      · rw [if_pos hsome]
        refine phase_started ?_ hsome List.not_mem_nil
        unfold enterMonitor enterLoop
        split
        · exact Or.inr ⟨_, _, rfl⟩
        · exact Or.inl rfl
  | waitForDhcpLease elapsed restored =>
      obtain ⟨hsome, hmailbox⟩ :
        netif.isSome = true ∧ Callback.tcpipInitDone ∉ mailbox := h
      unfold advance
      dsimp only
      split
      · rename_i lease _
        obtain ⟨hposted, hpoint⟩ := afterWait_posted
          ⟨.waitForDhcpLease elapsed restored, dhcpPrinted, linkWasUp, lastLinkCheck⟩ a restored lease
        refine phase_started (Or.inl hpoint) hsome fun hmem => ?_
        exact (List.mem_append.1 hmem).elim hmailbox hposted
      · exact phase_started (Or.inr ⟨_, _, rfl⟩) hsome (by simpa [posted] using hmailbox)
  | monitorLoop =>
      obtain ⟨hsome, hmailbox⟩ :
        netif.isSome = true ∧ Callback.tcpipInitDone ∉ mailbox := h
      obtain ⟨hposted, hpoint⟩ := monitorRound_posted cfg
        ⟨.monitorLoop, dhcpPrinted, linkWasUp, lastLinkCheck⟩ a rfl
      have hpoint' : (monitorRound cfg a ⟨.monitorLoop, dhcpPrinted, linkWasUp, lastLinkCheck⟩).2.point
            = .monitorLoop ∨ ∃ elapsed restored,
          (monitorRound cfg a ⟨.monitorLoop, dhcpPrinted, linkWasUp, lastLinkCheck⟩).2.point =
            .waitForDhcpLease elapsed restored :=
        hpoint.imp_right fun h => ⟨_, _, h⟩
      refine phase_started hpoint' hsome fun hmem => ?_
      exact (List.mem_append.1 hmem).elim hmailbox hposted
  | deleted =>
      obtain ⟨rfl, rfl⟩ : netif = none ∧ mailbox = [] := h
      exact ⟨rfl, rfl⟩

/-- The callback at the head of the mailbox is the first of all, or meets an interface. -/
theorem Phase.head {cb : Callback} {cbs : List Callback} (h : Phase s)
    (hmailbox : s.mailbox = cb :: cbs) :
    (s.netif = none ∧ cb = .tcpipInitDone ∧ cbs = [] ∧ s.task.point = .waitForLwip) ∨
      (s.netif.isSome = true ∧ cb ≠ .tcpipInitDone) := by
  have hstarted : Callback.tcpipInitDone ∉ s.mailbox → cb ≠ .tcpipInitDone := by
    rintro hno rfl
    exact hno (by rw [hmailbox]; exact List.mem_cons_self)
  have hnothing : ¬ (s.netif = none ∧ s.mailbox = []) := by
    rw [hmailbox]
    exact fun h => List.cons_ne_nil _ _ h.2
  unfold Phase at h
  cases hpoint : s.task.point with
  | waitForLwip =>
      rw [hpoint] at h
      rcases h with ⟨hnone, hone⟩ | ⟨-, hnil⟩
      · rw [hmailbox] at hone
        obtain ⟨rfl, rfl⟩ := List.cons.inj hone
        exact Or.inl ⟨hnone, rfl, rfl, rfl⟩
      · rw [hmailbox] at hnil
        cases hnil
  | waitForDhcpLease elapsed restored =>
      rw [hpoint] at h
      exact Or.inr ⟨h.1, hstarted h.2⟩
  | monitorLoop =>
      rw [hpoint] at h
      exact Or.inr ⟨h.1, hstarted h.2⟩
  | driverInit =>
      rw [hpoint] at h
      exact absurd h hnothing
  | waitForLink =>
      rw [hpoint] at h
      exact absurd h hnothing
  | deleted =>
      rw [hpoint] at h
      exact absurd h hnothing

theorem Phase.step {x : NetAction A} {es : List Event} (h : Phase s)
    (hstep : step lwip cfg s x = some (es, s')) : Phase s' := by
  cases x with
  | task a =>
      cases hstep
      exact h.task a
  | thread =>
      unfold NetManager.step at hstep
      dsimp only at hstep
      split at hstep
      · cases hstep
      · rename_i cb cbs hmailbox
        cases hstep
        rcases h.head hmailbox with ⟨-, rfl, rfl, hpoint⟩ | ⟨hsome, hcb⟩
        · unfold Phase
          rw [hpoint]
          exact Or.inr ⟨rfl, rfl⟩
        · obtain ⟨n, hn⟩ := Option.isSome_iff_exists.1 hsome
          obtain ⟨n', hexec, -⟩ := execute_some lwip cfg cb n hcb
          rw [hn, hexec]
          obtain ⟨⟨point, dhcpPrinted, linkWasUp, lastLinkCheck⟩, mailbox, netif⟩ := s
          obtain rfl : mailbox = cb :: cbs := hmailbox
          obtain rfl : netif = some n := hn
          have htail : Callback.tcpipInitDone ∉ cb :: cbs → Callback.tcpipInitDone ∉ cbs :=
            fun hno hmem => hno (List.mem_cons_of_mem _ hmem)
          cases point with
          | waitForLwip => rcases h with ⟨hnone, -⟩ | ⟨-, hnil⟩ <;> contradiction
          | waitForDhcpLease elapsed restored => exact ⟨rfl, htail h.2⟩
          | monitorLoop => exact ⟨rfl, htail h.2⟩
          | driverInit => exact absurd h.2 (List.cons_ne_nil _ _)
          | waitForLink => exact absurd h.2 (List.cons_ne_nil _ _)
          | deleted => exact absurd h.2 (List.cons_ne_nil _ _)
  | own x =>
      cases hstep
      obtain ⟨⟨point, dhcpPrinted, linkWasUp, lastLinkCheck⟩, mailbox, netif⟩ := s
      cases netif with
      | none => exact h
      | some n =>
          cases point with
          | waitForLwip =>
              rcases h with ⟨hnone, -⟩ | ⟨-, hnil⟩
              · cases hnone
              · exact Or.inr ⟨rfl, hnil⟩
          | waitForDhcpLease elapsed restored => exact ⟨rfl, h.2⟩
          | monitorLoop => exact ⟨rfl, h.2⟩
          | driverInit => exact absurd h.1 (Option.some_ne_none n)
          | waitForLink => exact absurd h.1 (Option.some_ne_none n)
          | deleted => exact absurd h.1 (Option.some_ne_none n)

/-- The link flag; an interface that is not there yet will begin with its link up. -/
def flag (lwip : Lwip N A) (netif : Option N) : Bool := netif.elim true lwip.isLinkUp

/-- **The flag and the mailbox together say what was accepted.** -/
theorem runs_drain (h : Runs lwip cfg t s) :
    Phase s ∧ linkAfter (flag lwip s.netif) s.mailbox = linkAfter true (posted (events t)) := by
  induction h with
  | nil => exact ⟨⟨rfl, rfl⟩, rfl⟩
  | @snoc t s s' x es _ hstep ih =>
      obtain ⟨hphase, hdrain⟩ := ih
      refine ⟨hphase.step hstep, ?_⟩
      have hnew : events (t ++ [(x, es)]) = events t ++ es := by
        rw [events_append]
        simp [events]
      rw [hnew, posted_append, linkAfter_append, ← hdrain]
      cases x with
      | task a =>
          cases hstep
          exact linkAfter_append _ _ _
      | thread =>
          unfold step at hstep
          dsimp only at hstep
          split at hstep
          · cases hstep
          · rename_i cb cbs hmailbox
            cases hstep
            rw [hmailbox]
            show linkAfter _ cbs = linkAfter (cb.link (flag lwip s.netif)) cbs
            congr 1
            rcases hphase.head hmailbox with ⟨hnone, rfl, -, -⟩ | ⟨hsome, hcb⟩
            · rw [hnone]
              exact isLinkUp_initLwip
            · obtain ⟨n, hn⟩ := Option.isSome_iff_exists.1 hsome
              obtain ⟨n', hexec, hlink⟩ := execute_some lwip cfg cb n hcb
              rw [hn, hexec]
              exact hlink
      | own x =>
          cases hstep
          show linkAfter (flag lwip (s.netif.map (lwip.own x))) s.mailbox =
            linkAfter (flag lwip s.netif) s.mailbox
          congr 1
          cases s.netif with
          | none => rfl
          | some n => exact lwip.link_own x n

/-- **The interface follows the link.**  In every interleaving: once all that was posted is executed, the
link flag of the interface is what the accepted callbacks make of it; if none was refused, that is the
link as it was sampled last. -/
theorem link_follows (lwip : Lwip N A) (cfg : IpConfig) {t : List (NetAction A × List Event)}
    {s : NetManager N} (h : Runs lwip cfg t s) (hempty : s.mailbox = []) {n : N}
    (hn : s.netif = some n) :
    lwip.isLinkUp n = linkAfter true (posted (events t)) ∧
      (AllAccepted (events t) →
        lwip.isLinkUp n = ((samples (events t)).map (·.2)).getLastD true) := by
  obtain ⟨-, hdrain⟩ := runs_drain h
  rw [hempty, hn] at hdrain
  have hflag : lwip.isLinkUp n = linkAfter true (posted (events t)) := hdrain
  refine ⟨hflag, fun haccepted => ?_⟩
  rw [hflag, linkAfter_posted haccepted, (runs_linkSeen h).posts, linkAfter_changes]

theorem link_follows_lost :
    ∃ t s n, Runs plainLwip staticConfig t s ∧ s.netif = some n ∧
      plainLwip.isLinkUp n = linkAfter true (posted (events t)) ∧ plainLwip.isLinkUp n = false := by
  have hexec : (Machine.exec (step plainLwip staticConfig) start (linkLost ++ [.thread])).any
      (fun r => r.2.mailbox = [] ∧ r.2.netif = some ⟨false, IP4_MAKE 192 168 1 50, false⟩) = true := by
    decide +kernel
  obtain ⟨t, s, hrun, -, hp⟩ := Machine.exec_any hexec
  obtain ⟨hempty, hn⟩ := of_decide_eq_true hp
  exact ⟨t, s, _, hrun, hn, (link_follows plainLwip staticConfig hrun hempty hn).1, rfl⟩

/-! ## A static address -/

/-- The interface has the configured address, and no DHCP client. -/
def HasStatic (lwip : Lwip N A) (cfg : IpConfig) (netif : Option N) : Prop :=
  ∀ n, netif = some n → lwip.ipAddr n = cfg.staticIp ∧ lwip.dhcpActive n = false

theorem hasStatic_execute (hmode : cfg.mode = .static) (cb : Callback) {netif : Option N}
    (h : HasStatic lwip cfg netif) : HasStatic lwip cfg (execute lwip cfg cb netif) := by
  intro n' hn'
  cases cb with
  | tcpipInitDone =>
      cases hn'
      unfold initLwip applyStaticIpInternal
      dsimp only
      rw [if_pos hmode, if_pos hmode]
      refine ⟨lwip.addr_setAddr _ _ _ _, ?_⟩
      rw [lwip.dhcp_setAddr, lwip.dhcp_setUp, lwip.dhcp_setLinkUp, lwip.dhcp_add]
  | fallbackStatic =>
      obtain ⟨n, rfl, rfl⟩ := Option.map_eq_some_iff.1 hn'
      obtain ⟨-, hdhcp⟩ := h n rfl
      exact ⟨lwip.addr_setAddr _ _ _ _, (lwip.dhcp_setAddr _ _ _ _).trans hdhcp⟩
  | linkDown =>
      obtain ⟨n, rfl, rfl⟩ := Option.map_eq_some_iff.1 hn'
      obtain ⟨haddr, hdhcp⟩ := h n rfl
      rw [if_neg (not_not.2 hmode)]
      exact ⟨(lwip.addr_setLinkDown n).trans haddr, (lwip.dhcp_setLinkDown n).trans hdhcp⟩
  | linkUp =>
      obtain ⟨n, rfl, rfl⟩ := Option.map_eq_some_iff.1 hn'
      obtain ⟨-, hdhcp⟩ := h n rfl
      rw [if_pos hmode]
      refine ⟨lwip.addr_setAddr _ _ _ _, ?_⟩
      exact (lwip.dhcp_setAddr _ _ _ _).trans ((lwip.dhcp_setLinkUp n).trans hdhcp)

/-- The address is there, and an interface that was there still is. -/
structure StaticSince (lwip : Lwip N A) (cfg : IpConfig) (s s' : NetManager N) : Prop where
  static : HasStatic lwip cfg s'.netif
  kept : s.netif.isSome = true → s'.netif.isSome = true

theorem StaticSince.next (hmode : cfg.mode = .static) {s₁ s₂ : NetManager N} {x : NetAction A}
    {es : List Event} (h : StaticSince lwip cfg s s₁) (hstep : step lwip cfg s₁ x = some (es, s₂)) :
    StaticSince lwip cfg s s₂ := by
  cases x with
  | task a =>
      cases hstep
      exact ⟨h.static, h.kept⟩
  | thread =>
      unfold step at hstep
      dsimp only at hstep
      split at hstep
      · cases hstep
      · rename_i cb cbs _
        cases hstep
        refine ⟨hasStatic_execute hmode cb h.static, fun hsome => ?_⟩
        have hkept := h.kept hsome
        cases cb with
        | tcpipInitDone => rfl
        | fallbackStatic => simpa [execute] using hkept
        | linkDown => simpa [execute] using hkept
        | linkUp => simpa [execute] using hkept
  | own x =>
      cases hstep
      refine ⟨fun n' hn' => ?_, fun hsome => by simpa using h.kept hsome⟩
      obtain ⟨n, hn, rfl⟩ := Option.map_eq_some_iff.1 hn'
      obtain ⟨haddr, hdhcp⟩ := h.static n hn
      exact ⟨(lwip.addr_own x n hdhcp).trans haddr, lwip.dhcp_own x n hdhcp⟩

theorem staticSince_run (hmode : cfg.mode = .static) (hs : HasStatic lwip cfg s.netif)
    (h : Machine.Run (step lwip cfg) s t s') : StaticSince lwip cfg s s' :=
  Machine.Run.invariant ⟨hs, id⟩ (fun _ _ _ _ hnext hstep => hnext.next hmode hstep) h

/-- **A static address stays.**  In every state of every run a node with a static address has it, as soon
as the interface is there; and a node that is ready stays so, whatever happens to the link. -/
theorem static_address (lwip : Lwip N A) {cfg : IpConfig} (hmode : cfg.mode = .static)
    {t t' : List (NetAction A × List Event)} {s s' : NetManager N} (h : Runs lwip cfg t s)
    (h' : Machine.Run (step lwip cfg) s t' s') :
    (∀ n, s'.netif = some n → lwip.ipAddr n = cfg.staticIp) ∧
      (isReady lwip s.netif = true → isReady lwip s'.netif = true) := by
  have hstart : HasStatic lwip cfg (start (N := N)).netif := fun n hn => by cases hn
  have hstatic := (staticSince_run hmode hstart h).static
  have hlater := staticSince_run hmode hstatic h'
  refine ⟨fun n hn => (hlater.static n hn).1, fun hready => ?_⟩
  obtain ⟨n, hn, haddr⟩ := (Option.any_eq_true _ _).1 hready
  obtain ⟨n', hn'⟩ := Option.isSome_iff_exists.1 (hlater.kept (by rw [hn]; rfl))
  unfold isReady
  rw [hn', Option.any_some, (hlater.static n' hn').1, ← (hstatic n hn).1]
  exact haddr

theorem static_address_lost :
    ∃ t s n, Runs plainLwip staticConfig t s ∧ s.netif = some n ∧
      plainLwip.ipAddr n = IP4_MAKE 192 168 1 50 := by
  have hexec : (Machine.exec (step plainLwip staticConfig) start (linkLost ++ [.thread])).any
      (fun r => r.2.netif.isSome) = true := by
    decide +kernel
  obtain ⟨t, s, hrun, -, hsome⟩ := Machine.exec_any hexec
  obtain ⟨n, hn⟩ := Option.isSome_iff_exists.1 hsome
  exact ⟨t, s, n, hrun, hn, (static_address plainLwip rfl hrun .nil).1 n hn⟩

/-! ## The wait for a lease -/

/-- The task after `k` rounds. -/
def rounds (cfg : IpConfig) (answers : Nat → Answers) (t : Monitor) : Nat → Monitor
  | 0 => t
  | k + 1 => (advance cfg (answers k) (rounds cfg answers t k) true).2

/-- `elapsed` after `k` rounds without a lease. -/
def elapsedAfter (k : Nat) : UInt32 := UInt32.ofNat (10 * k)

theorem elapsedAfter_succ (k : Nat) : elapsedAfter k + 10 = elapsedAfter (k + 1) := by
  refine UInt32.toNat_inj.1 ?_
  unfold elapsedAfter
  rw [UInt32.toNat_add, UInt32.toNat_ofNat', UInt32.toNat_ofNat', show (10 : UInt32).toNat = 10 from rfl]
  omega

theorem toNat_elapsedAfter (k : Nat) : (elapsedAfter k).toNat = 10 * k % 4294967296 :=
  UInt32.toNat_ofNat'

/-- Without a lease the task waits as long as `elapsed` is below the timeout, and one round later has left. -/
theorem rounds_waiting (answers : Nat → Answers) {t₀ : Monitor} {restored : Bool}
    (hpoint : t₀.point = .waitForDhcpLease 0 restored) (hno : ∀ i, (answers i).supplied = false)
    {k : Nat} (hk : ∀ j < k, elapsedAfter j < cfg.dhcpTimeoutMs) :
    (rounds cfg answers t₀ k).point = .waitForDhcpLease (elapsedAfter k) restored := by
  induction k with
  | zero => exact hpoint
  | succ k ih =>
      have hwait := ih fun j hj => hk j (Nat.lt_succ_of_lt hj)
      unfold rounds advance leaseRound
      rw [hwait]
      dsimp only
      rw [if_pos (hk k (Nat.lt_succ_self k)), hno k, if_neg (by decide), elapsedAfter_succ]

theorem rounds_left {t₀ : Monitor} {restored : Bool} {answers : Nat → Answers} {k : Nat}
    (hpoint : (rounds cfg answers t₀ k).point = .waitForDhcpLease (elapsedAfter k) restored)
    (hend : ¬ elapsedAfter k < cfg.dhcpTimeoutMs) :
    (rounds cfg answers t₀ (k + 1)).point = .monitorLoop := by
  unfold rounds advance leaseRound
  rw [hpoint]
  dsimp only
  rw [if_neg hend]
  exact (afterWait_posted _ _ _ _).2

/-- **The wait for a lease ends.**  If none comes, the wait ends for every timeout but `0xFFFFFFFF`, and
for every timeout up to `4294967290` it ends in the round in which the time is up. -/
theorem wait_ends_iff (cfg : IpConfig) {t₀ : Monitor} {restored : Bool}
    (hpoint : t₀.point = .waitForDhcpLease 0 restored) :
    ((∀ answers : Nat → Answers, (∀ i, (answers i).supplied = false) →
        ∃ k, (rounds cfg answers t₀ k).point = .monitorLoop) ↔ cfg.dhcpTimeoutMs ≠ 0xFFFFFFFF) ∧
      (cfg.dhcpTimeoutMs.toNat ≤ 4294967290 →
        ∀ answers : Nat → Answers, (∀ i, (answers i).supplied = false) →
          (∀ k ≤ (cfg.dhcpTimeoutMs.toNat + 9) / 10,
            (rounds cfg answers t₀ k).point = .waitForDhcpLease (elapsedAfter k) restored) ∧
          (rounds cfg answers t₀ ((cfg.dhcpTimeoutMs.toNat + 9) / 10 + 1)).point =
            .monitorLoop) := by
  have hlt : ∀ k, elapsedAfter k < cfg.dhcpTimeoutMs ↔
      10 * k % 4294967296 < cfg.dhcpTimeoutMs.toNat := by
    intro k
    rw [UInt32.lt_iff_toNat_lt, toNat_elapsedAfter]
  have hmax : cfg.dhcpTimeoutMs = 0xFFFFFFFF ↔ cfg.dhcpTimeoutMs.toNat = 4294967295 := by
    rw [← UInt32.toNat_inj]
    rfl
  have hbound := cfg.dhcpTimeoutMs.toNat_lt
  refine ⟨⟨fun hends heq => ?_, fun hne answers hno => ?_⟩, fun hle answers hno => ⟨fun k hk => ?_, ?_⟩⟩
  · -- `elapsed` is even
    obtain ⟨k, hk⟩ := hends (fun _ => ⟨true, 0, false, false, true⟩) fun _ => rfl
    have hnever : ∀ j < k, elapsedAfter j < cfg.dhcpTimeoutMs := fun j _ => by
      rw [hlt, hmax.1 heq]
      omega
    have hwait :=
      rounds_waiting (fun _ => ⟨true, 0, false, false, true⟩) hpoint (fun _ => rfl) hnever
    rw [hk] at hwait
    cases hwait
  · -- two below the overflow, after two overflows at most
    have hsome : ∃ k, ¬ elapsedAfter k < cfg.dhcpTimeoutMs := by
      refine ⟨858993459, ?_⟩
      rw [hlt]
      have hnot : cfg.dhcpTimeoutMs.toNat ≠ 4294967295 := fun h => hne (hmax.2 h)
      omega
    have hfirst : ∀ j < Nat.find hsome, elapsedAfter j < cfg.dhcpTimeoutMs := fun j hj =>
      not_not.1 (Nat.find_min hsome hj)
    exact ⟨_, rounds_left (rounds_waiting answers hpoint hno hfirst) (Nat.find_spec hsome)⟩
  · refine rounds_waiting answers hpoint hno fun j hj => (hlt j).2 ?_
    rw [Nat.mod_eq_of_lt (by omega)]
    omega
  · refine rounds_left (rounds_waiting answers hpoint hno fun j hj => (hlt j).2 ?_) fun h => ?_
    · rw [Nat.mod_eq_of_lt (by omega)]
      omega
    · have hlow := (hlt _).1 h
      rw [Nat.mod_eq_of_lt (by omega)] at hlow
      omega

/-- Twelve milliseconds are two rounds. -/
theorem wait_ends_iff_twelve :
    (rounds ⟨.dhcpWithFallback, 0, 0, 0, 12⟩ (fun _ => ⟨true, 0, false, true, true⟩)
      ⟨.waitForDhcpLease 0 true, false, false, 0⟩ 3).point = .monitorLoop := by
  have hpoint : (⟨.waitForDhcpLease 0 true, false, false, 0⟩ : Monitor).point =
      .waitForDhcpLease 0 true := rfl
  obtain ⟨-, hbounded⟩ := wait_ends_iff ⟨.dhcpWithFallback, 0, 0, 0, 12⟩ hpoint
  exact (hbounded (by decide) (fun _ => ⟨true, 0, false, true, true⟩) fun _ => rfl).2

end NetManager

end EmbeddedPixel
