import EmbeddedPixel.Net.NodeActions
import EmbeddedPixel.Net.OtaSessions

/-!
# The OTA lock

`handleBegin` alone asks whether the OTA feature is on.  `marked_unlocked_iff`: an image is marked for
installation with the feature on exactly when the switches since the begin of its session leave it on.
-/

set_option autoImplicit false

namespace EmbeddedPixel

open Foundation

/-- An action and what it brought about. -/
abbrev NodeEntry := NodeAction × List NodeEvent

namespace NodeEntry

/-- An accepted `CMD_OTA_BEGIN`. -/
def Begins : NodeEntry → Prop
  | (.request r, events) => BeginAccepted (r, events)
  | (.console _ _, _) => False

/-- A `CMD_OTA_END` answered with `CMD_ACK`. -/
def Marks : NodeEntry → Prop
  | (.request r, events) => EndAcked (r, events)
  | (.console _ _, _) => False

instance : DecidablePred Begins := fun x =>
  match x with
  | (.request r, events) => inferInstanceAs (Decidable (BeginAccepted (r, events)))
  | (.console _ _, _) => inferInstanceAs (Decidable False)

instance : DecidablePred Marks := fun x =>
  match x with
  | (.request r, events) => inferInstanceAs (Decidable (EndAcked (r, events)))
  | (.console _ _, _) => inferInstanceAs (Decidable False)

end NodeEntry

/-- What an entry switches a feature to. -/
def switchedBy (cfg : NodeConfig) (flag : FeatureFlag) (enabled : Bool) (x : NodeEntry) : Bool :=
  match x.1.featureSwitch cfg with
  | none => enabled
  | some (other, enable) => if other = flag then enable else enabled

/-- What the entries of a trace leave of a feature that is `enabled` before them. -/
def switched (cfg : NodeConfig) (flag : FeatureFlag) (enabled : Bool) (t : List NodeEntry) : Bool :=
  t.foldl (switchedBy cfg flag) enabled

/-- The entries after the last accepted `CMD_OTA_BEGIN`. -/
def sinceBegin (t : List NodeEntry) : List NodeEntry := t.rtakeWhile fun x => ¬ x.Begins

theorem sinceBegin_append {pre post : List NodeEntry} {x : NodeEntry} (hx : x.Begins)
    (hpost : ∀ y ∈ post, ¬ y.Begins) : sinceBegin (pre ++ x :: post) = post := by
  unfold sinceBegin List.rtakeWhile
  have hrev : (pre ++ x :: post).reverse = post.reverse ++ x :: pre.reverse := by simp
  rw [hrev, List.takeWhile_append_of_pos (by simpa using hpost)]
  simp [hx]

namespace Node

open OtaService

variable {C : Type} [ITelemetryChannel C] {cfg : NodeConfig} {n₀ n n' : Node C} {a : NodeAction}
  {events : List NodeEvent} {t : List NodeEntry}

/-- A feature after a run is what the switches leave of it. -/
theorem isFeatureEnabled_run {flag : FeatureFlag} (hflag : flag ≠ .none)
    (h : Machine.Run (Node.act cfg) n₀ t n) :
    n.sysCtrl.isFeatureEnabled flag = switched cfg flag (n₀.sysCtrl.isFeatureEnabled flag) t := by
  refine Machine.Run.track (f := fun n => n.sysCtrl.isFeatureEnabled flag) ?_ h
  intro s a o s' hs
  exact isFeatureEnabled_act hflag hs

/-! ## The session -/

/-- A console line leaves the OTA service alone or aborts its update. -/
theorem ota_console {env : Env} {line : List UInt8}
    (h : n.act cfg (.console env line) = some (events, n')) :
    n'.ota = n.ota ∨ n'.ota = (handleAbort n.ota).2 := by
  rw [node_console h]
  exact CliEngine.ota_execute cfg.wiring env n 512 line

/-- Only an accepted begin opens a session. -/
theorem receiving_act (h : n.act cfg a = some (events, n')) (hno : ¬ NodeEntry.Begins (a, events))
    (hs : n.ota.svc.state ≠ .receiving) : n'.ota.svc.state ≠ .receiving := by
  cases a with
  | request r =>
      refine (session_kept (Machine.Run.single h) ?_).2 hs
      intro y hy
      rw [List.mem_singleton.1 hy]
      exact hno
  | console env line =>
      rcases ota_console h with hota | hota
      · rw [hota]
        exact hs
      · rw [hota]
        intro hidle
        cases hidle

theorem isFeatureEnabled_of_beginError {ctrl : SystemController} {req : PayloadOtaBegin}
    (h : beginError (some ctrl) req = none) : ctrl.isFeatureEnabled .otaRamStaging = true := by
  by_contra hoff
  unfold beginError at h
  rw [if_pos (by simpa using hoff)] at h
  cases h

omit [ITelemetryChannel C] in
/-- A begin is accepted with the OTA feature on. -/
theorem unlocked_of_otaBegin {r : NodeRequest} (hw : cfg.wiring = .ethernetdev)
    (h : (CommandService.otaBegin cfg r.env r.hdr n).run r.payload = some (events, n'))
    (hb : BeginAccepted (r, events)) : n.sysCtrl.isFeatureEnabled .otaRamStaging = true := by
  have hota : cfg.wiring.commandOta = true := by rw [hw]; rfl
  have hctrl : n.otaSysCtrl cfg.wiring = some n.sysCtrl := by rw [hw]; rfl
  have refused : ∀ (st : StatusCode), (events, n') =
      CommandService.sendAckNack cfg n r.hdr.msgType st 0 → False := by
    intro st he
    have hno := CommandService.not_beginAccepted_sendAckNack cfg n r st [] r.hdr.msgType 0
    rw [← he, List.append_nil] at hno
    exact hno hb
  unfold CommandService.otaBegin CommandService.otaRequest at h
  rw [hota, if_neg (by simp)] at h
  split at h
  · exact absurd (Option.some.inj h).symm fun he => refused _ he
  rw [Reader.run_bind, Reader.run_pure, hctrl] at h
  generalize (Reader.view 0 16 PayloadOtaBegin.ofPtr).run r.payload = req at h
  unfold handleBegin at h
  cases he : beginError (some n.sysCtrl) req with
  | none => exact isFeatureEnabled_of_beginError he
  | some e =>
      rw [he] at h
      cases h
      exact absurd (((CommandService.beginAccepted_send_iff cfg _ r e _).1 hb).2 ▸ he)
        OtaMachine.beginError_ne_ok

/-- An accepted begin leaves the OTA feature on. -/
theorem unlocked_of_begins (hw : cfg.wiring = .ethernetdev)
    (h : n.act cfg a = some (events, n')) (hb : NodeEntry.Begins (a, events)) :
    n'.sysCtrl.isFeatureEnabled .otaRamStaging = true := by
  cases a with
  | console env line => exact absurd hb id
  | request r =>
      have htype : MessageType.ofCode r.hdr.msgType = some .cmdOtaBegin := hb.1
      have hstep : (CommandService.otaBegin cfg r.env r.hdr n).run r.payload =
          some (events, n') := by
        have hstep : n.step cfg r = some (events, n') := h
        unfold step CommandService.processCommand at hstep
        rw [htype] at hstep
        exact hstep
      have hno : (NodeAction.request r).featureSwitch cfg = none := by
        unfold NodeAction.featureSwitch
        rw [NodeAction.command_of_type cfg (by rw [htype]; decide)]
        rfl
      rw [isFeatureEnabled_act (by decide) h, hno]
      exact unlocked_of_otaBegin hw hstep hb

/-! ## Marking -/

/-- An entry that marks ends a session, whose image its control block announces. -/
theorem marked_act (h : n.act cfg a = some (events, n')) (he : NodeEntry.Marks (a, events)) :
    n.ota.svc.state = .receiving ∧
      OtaControlBlock.ofPtr (n'.ota.ram.ptr RAM_CONTROL_BLOCK_BASE) =
        controlBlock cfg.layout n.ota.svc .pendingInstall := by
  cases a with
  | console env line => exact absurd he id
  | request r => exact published_of_endAcked h he

/-- No other entry touches the control block. -/
theorem unmarked_act (h : n.act cfg a = some (events, n')) (he : ¬ NodeEntry.Marks (a, events)) :
    n'.ota.ram.read RAM_CONTROL_BLOCK_BASE 32 = n.ota.ram.read RAM_CONTROL_BLOCK_BASE 32 := by
  cases a with
  | request r =>
      obtain ⟨u, hu, hrun⟩ := CommandService.served_processCommand h
      exact OtaMachine.block_of_no_end hrun (hu.not_okEnd he)
  | console env line =>
      rcases ota_console h with hota | hota
      · rw [hota]
      · rw [hota]
        rfl

/-- Without an accepted begin nothing is marked. -/
theorem not_receiving_run (h : Machine.Run (Node.act cfg) n₀ t n) (hno : ∀ x ∈ t, ¬ x.Begins)
    (hs : n₀.ota.svc.state ≠ .receiving) : n.ota.svc.state ≠ .receiving :=
  Machine.Run.keep (Q := fun n => n.ota.svc.state ≠ .receiving) (K := fun x => ¬ NodeEntry.Begins x)
    (fun _ _ _ _ hK hQ hstep => receiving_act hstep hK hQ) h hno hs

/-- **When an image is marked with the OTA feature on.**  In any run of `ethernetdev`, of requests and
console lines in any order, an entry that marks an image writes its control block with the feature on
exactly when the switches since the last accepted begin leave the feature on; every other entry leaves
the control block alone. -/
theorem marked_unlocked_iff {L : Layout} {nodeId : UInt16} {ram : Mem 32} {ctrl : SystemController}
    {period : UInt32} {telemetry : TelemetryService C} {discovery : DiscoveryService}
    (h : Machine.Run (Node.act ⟨L, .ethernetdev, nodeId⟩)
      (Node.powerUp ram ctrl period telemetry discovery) t n)
    (hs : n.act ⟨L, .ethernetdev, nodeId⟩ a = some (events, n')) :
    (NodeEntry.Marks (a, events) →
      OtaControlBlock.ofPtr (n'.ota.ram.ptr RAM_CONTROL_BLOCK_BASE) =
        controlBlock L n.ota.svc .pendingInstall ∧
      (n.sysCtrl.isFeatureEnabled .otaRamStaging = true ↔
        switched ⟨L, .ethernetdev, nodeId⟩ .otaRamStaging true (sinceBegin t) = true)) ∧
    (¬ NodeEntry.Marks (a, events) →
      n'.ota.ram.read RAM_CONTROL_BLOCK_BASE 32 =
        n.ota.ram.read RAM_CONTROL_BLOCK_BASE 32) := by
  refine ⟨fun he => ?_, unmarked_act hs⟩
  obtain ⟨hreceiving, hblock⟩ := marked_act hs he
  refine ⟨hblock, ?_⟩
  rcases Machine.Run.last_entry h NodeEntry.Begins with
    hno | ⟨pre, b, o, post, s₁, s₂, rfl, hb, hpost, -, hbegin, hrest⟩
  · have hidle : (Node.powerUp ram ctrl period telemetry discovery).ota.svc.state ≠ .receiving := by
      intro hidle
      cases hidle
    exact absurd hreceiving (not_receiving_run h hno hidle)
  · rw [sinceBegin_append hb hpost, isFeatureEnabled_run (by decide) hrest,
      unlocked_of_begins rfl hbegin hb]

/-- The begin and the chunk of a session whose image is one byte, then a console line. -/
def lockedSession (line : List UInt8) : List NodeAction :=
  [.request (oneByteBegin 7), .request (oneByteData 7), .console Env.zero line]

/-- A line that does not switch the feature off leaves the session to mark its image with it on. -/
theorem marked_unlocked_status :
    ∃ t n events n', Machine.Run (Node.act NodeConfig.ethernetdev) Node.ethernetdev t n ∧
      n.act NodeConfig.ethernetdev (.request (oneByteEnd 7)) = some (events, n') ∧
      NodeEntry.Marks (.request (oneByteEnd 7), events) ∧
      n.sysCtrl.isFeatureEnabled .otaRamStaging = true := by
  have hexec : (Machine.exec (Node.act NodeConfig.ethernetdev) Node.ethernetdev
      (lockedSession (ascii "ota status"))).any
      (fun r => decide (switched NodeConfig.ethernetdev .otaRamStaging true (sinceBegin r.1) = true) &&
        (r.2.act NodeConfig.ethernetdev (.request (oneByteEnd 7))).any
          fun s => decide (NodeEntry.Marks (.request (oneByteEnd 7), s.1))) = true := by
    decide +kernel
  obtain ⟨t, n, hrun, -, hp⟩ := Machine.exec_any hexec
  obtain ⟨hswitched, hlast⟩ := (Bool.and_eq_true _ _).mp hp
  obtain ⟨⟨events, n'⟩, hend, he⟩ := (Option.any_eq_true _ _).1 hlast
  have he := of_decide_eq_true he
  exact ⟨t, n, events, n', hrun, hend, he,
    (((marked_unlocked_iff hrun hend).1 he).2).2 (of_decide_eq_true hswitched)⟩

/-- Switched off in mid-session, the feature does not keep the image from being marked. -/
theorem marked_while_locked :
    ¬ ∀ (cfg : NodeConfig) (ram : Mem 32) (ctrl : SystemController) (period : UInt32)
      (telemetry : TelemetryService CounterChannel) (discovery : DiscoveryService)
      (t : List NodeEntry) (n n' : Node CounterChannel) (a : NodeAction)
      (events : List NodeEvent), cfg.wiring = .ethernetdev →
        Machine.Run (Node.act cfg) (Node.powerUp ram ctrl period telemetry discovery) t n →
          n.act cfg a = some (events, n') → NodeEntry.Marks (a, events) →
            n.sysCtrl.isFeatureEnabled .otaRamStaging = true := by
  intro h
  have hexec : (Machine.exec (Node.act NodeConfig.ethernetdev) Node.ethernetdev
      (lockedSession (ascii "feature disable ota"))).any
      (fun r => decide (r.2.sysCtrl.isFeatureEnabled .otaRamStaging = false) &&
        (r.2.act NodeConfig.ethernetdev (.request (oneByteEnd 7))).any
          fun s => decide (NodeEntry.Marks (.request (oneByteEnd 7), s.1))) = true := by
    decide +kernel
  obtain ⟨t, n, hrun, -, hp⟩ := Machine.exec_any hexec
  obtain ⟨hlocked, hlast⟩ := (Bool.and_eq_true _ _).mp hp
  obtain ⟨⟨events, n'⟩, hend, he⟩ := (Option.any_eq_true _ _).1 hlast
  have hunlocked := h _ _ _ _ _ _ t n n' _ events rfl hrun hend (of_decide_eq_true he)
  rw [of_decide_eq_true hlocked] at hunlocked
  cases hunlocked

end Node

end EmbeddedPixel
