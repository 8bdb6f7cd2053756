import EmbeddedPixel.Net.Discovery
import EmbeddedPixel.Net.OtaLock
import EmbeddedPixel.Net.Streams
import Mathlib.Data.Fintype.Defs

/-!
# Discovery and node info

A `DISCOVERY_PONG` is filled from the copies that the discovery service got at start-up, a
`CMD_GET_NODE_INFO_RESP` from the controller.  `sameNode_iff` says in which states the two tell the same.
-/

set_option autoImplicit false

namespace EmbeddedPixel

open Foundation

/-- Two payloads describe one node. -/
structure SameNode (p q : PayloadDiscoveryPong) : Prop where
  nodeId : p.nodeId = q.nodeId
  nodeState : p.nodeState = q.nodeState
  ipAddr : p.ipAddr = q.ipAddr
  macAddr : p.macAddr = q.macAddr
  boardId : p.boardId = q.boardId
  fwVersion : p.fwVersion = q.fwVersion
  bootloaderVersion : p.bootloaderVersion = q.bootloaderVersion
  featureFlags : p.featureFlags = q.featureFlags

/-- A frame's payload, read as a node description. -/
def Frame.pong (f : Frame) : PayloadDiscoveryPong :=
  PayloadDiscoveryPong.ofPtr (BytePtr.ofList f.payload)

/-- What a datagram is answered with is the service's description of the node. -/
theorem DiscoveryService.pong_of_handleIncomingPacket {env : Env} {this : DiscoveryService}
    {task : DiscoveryTask} {netbufNew : Bool} {len : Nat} {p : BytePtr} {f : Frame}
    (h : ((this.handleIncomingPacket env task netbufNew len).run p).1 = some f) :
    ∃ challengeId, f.pong = this.pong env task challengeId := by
  have hanswer := DiscoveryService.handleIncomingPacket_eq env this task netbufNew len p
  by_cases hping : DiscoveryService.IsPingFor task.nodeId p len
  · rw [hanswer.1 hping] at h
    unfold DiscoveryService.sendPong at h
    cases netbufNew with
    | false => cases h
    | true =>
        cases h
        exact ⟨_, PayloadDiscoveryPong.ofPtr_toBytes env.macAddr_length⟩
  · rw [hanswer.2 hping] at h
    cases h

namespace Node

variable {C : Type} [ITelemetryChannel C] {n₀ n n' : Node C} {a : NodeAction}
  {events : List NodeEvent} {t : List NodeEntry} {L : Layout} {nodeId : UInt16}

/-- What `CMD_GET_NODE_INFO` is answered with is the controller's description of the node. -/
theorem pong_of_getNodeInfo {r : NodeRequest} {f : Frame}
    (htype : MessageType.ofCode r.hdr.msgType = some .cmdGetNodeInfo)
    (h : n.act ⟨L, .ethernetdev, nodeId⟩ (.request r) = some ([.reply f], n')) :
    f.pong =
      { challengeId := 0
        nodeId := nodeId
        nodeState := n.discovery.state.code
        ipAddr := r.env.ipAddr
        macAddr := r.env.macAddr
        boardId := n.sysCtrl.getBoardId
        fwVersion := n.sysCtrl.getAppVersion
        uptimeMs := r.env.uptimeMs 0
        hwUid := r.env.hwUid
        bootloaderVersion := n.sysCtrl.getBootloaderVersion
        featureFlags := n.sysCtrl.featureFlags } := by
  have hstep : n.step ⟨L, .ethernetdev, nodeId⟩ r = some ([.reply f], n') := h
  unfold step CommandService.processCommand at hstep
  rw [htype] at hstep
  cases hstep
  exact PayloadDiscoveryPong.ofPtr_toBytes r.env.macAddr_length

/-! ## The copies -/

/-- The discovery service has the copies that the start-up gave it. -/
def Copied (ctrl : SystemController) (n : Node C) : Prop :=
  n.discovery =
    { fwVersion := ctrl.getAppVersion
      bootloaderVersion := ctrl.getBootloaderVersion
      boardId := ctrl.getBoardId
      featureFlags := ctrl.featureFlags
      state := n.discovery.state }

/-- The controller differs from one before it in its features at most. -/
structure SameImage (ctrl : SystemController) (n : Node C) : Prop where
  appHeader : n.sysCtrl.appHeader = ctrl.appHeader
  bootInfo : n.sysCtrl.bootInfo = ctrl.bootInfo
  rest : n.sysCtrl.featureFlags &&& ~~~SystemController.featureMask =
    ctrl.featureFlags &&& ~~~SystemController.featureMask

theorem copied_call {ctrl : SystemController} (h : n.Copied ctrl) (c : Option StreamCall) :
    (n.call c).Copied ctrl := by
  rcases c with - | ⟨tag, rate, batch⟩ | tag
  · exact h
  · unfold Copied at h ⊢
    show { n.discovery with state := NodeState.streaming } = _
    rw [h]
    rfl
  · unfold Copied at h ⊢
    show { n.discovery with
      state := if (n.telemetry.stopStreaming tag).isStreaming then n.discovery.state else .idle } = _
    rw [h]
    rfl

theorem copied_act {ctrl : SystemController} (h : n.Copied ctrl)
    (hs : n.act ⟨L, .ethernetdev, nodeId⟩ a = some (events, n')) : n'.Copied ctrl := by
  have hcall := copied_call h (a.streamCall ⟨L, .ethernetdev, nodeId⟩ n.sysCtrl)
  unfold Copied at hcall ⊢
  rw [(streams_act rfl hs).2]
  exact hcall

theorem sameImage_act {cfg : NodeConfig} {ctrl : SystemController} (h : n.SameImage ctrl)
    (hs : n.act cfg a = some (events, n')) : n'.SameImage ctrl := by
  have hctrl := sysCtrl_act hs
  cases hswitch : a.featureSwitch cfg with
  | none =>
      rw [hswitch] at hctrl
      refine ⟨?_, ?_, ?_⟩
      · rw [hctrl, h.appHeader]
      · rw [hctrl, h.bootInfo]
      · rw [hctrl, h.rest]
  | some switch =>
      obtain ⟨flag, enable⟩ := switch
      rw [hswitch] at hctrl
      have hkept := SystemController.setFeature_image n.sysCtrl flag enable
      refine ⟨?_, ?_, ?_⟩
      · rw [hctrl, hkept.1, h.appHeader]
      · rw [hctrl, hkept.2, h.bootInfo]
      · rw [hctrl, SystemController.setFeature_rest, h.rest]

section Runs

variable {ram : Mem 32} {ctrl : SystemController} {period : UInt32} {chs : List C}

theorem copied_run (h : Machine.Run (Node.act ⟨L, .ethernetdev, nodeId⟩)
    (Node.startUp ram ctrl period chs ctrl.getAppVersion) t n) : n.Copied ctrl := by
  have hstart : (Node.startUp ram ctrl period chs ctrl.getAppVersion).Copied ctrl := rfl
  refine Machine.Run.invariant hstart ?_ h
  intro s a o s' hcopied hs
  exact copied_act hcopied hs

theorem sameImage_run {cfg : NodeConfig} (h : Machine.Run (Node.act cfg)
    (Node.startUp ram ctrl period chs ctrl.getAppVersion) t n) : n.SameImage ctrl := by
  have hstart : (Node.startUp ram ctrl period chs ctrl.getAppVersion).SameImage ctrl :=
    ⟨rfl, rfl, rfl⟩
  refine Machine.Run.invariant hstart ?_ h
  intro s a o s' himage hs
  exact sameImage_act himage hs

/-- The flags are those of the start-up if the switches leave every feature what it was. -/
theorem featureFlags_run_iff {cfg : NodeConfig} (h : Machine.Run (Node.act cfg)
    (Node.startUp ram ctrl period chs ctrl.getAppVersion) t n) :
    n.sysCtrl.featureFlags = ctrl.featureFlags ↔
      ∀ flag ≠ .none, switched cfg flag (ctrl.isFeatureEnabled flag) t = ctrl.isFeatureEnabled flag := by
  have hfeature : ∀ flag ≠ FeatureFlag.none, n.sysCtrl.isFeatureEnabled flag =
      switched cfg flag (ctrl.isFeatureEnabled flag) t := fun _ hflag => isFeatureEnabled_run hflag h
  constructor
  · intro hflags flag hflag
    rw [← hfeature flag hflag]
    unfold SystemController.isFeatureEnabled
    rw [hflags]
  · intro hswitched
    apply SystemController.featureFlags_ext (sameImage_run h).rest
    intro flag hflag
    rw [hfeature flag hflag]
    exact hswitched flag hflag

/-- **When a pong and a node info tell the same.**  In a state that `ethernetdev` reaches from its
start-up, by any requests and console lines, the two agree exactly if the lines that switch features leave
every feature as the start-up found it. -/
theorem sameNode_iff {pingEnv : Env} {seqNum : UInt32} {netbufNew : Bool} {len : Nat} {p : BytePtr}
    {r : NodeRequest} {pong info : Frame}
    (h : Machine.Run (Node.act ⟨L, .ethernetdev, nodeId⟩)
      (Node.startUp ram ctrl period chs ctrl.getAppVersion) t n)
    (hpong : ((n.discovery.handleIncomingPacket pingEnv ⟨nodeId, seqNum⟩ netbufNew len).run p).1 =
      some pong)
    (htype : MessageType.ofCode r.hdr.msgType = some .cmdGetNodeInfo)
    (hinfo : n.act ⟨L, .ethernetdev, nodeId⟩ (.request r) = some ([.reply info], n'))
    (hip : pingEnv.ipAddr = r.env.ipAddr) (hmac : pingEnv.macAddr = r.env.macAddr) :
    SameNode pong.pong info.pong ↔
      ∀ flag ≠ .none,
        switched ⟨L, .ethernetdev, nodeId⟩ flag (ctrl.isFeatureEnabled flag) t =
          ctrl.isFeatureEnabled flag := by
  obtain ⟨challengeId, hchallenge⟩ := DiscoveryService.pong_of_handleIncomingPacket hpong
  have hcopied : n.Copied ctrl := copied_run h
  have himage := sameImage_run h
  rw [← featureFlags_run_iff h, hchallenge, pong_of_getNodeInfo htype hinfo]
  unfold DiscoveryService.pong
  rw [hcopied]
  constructor
  · intro hsame
    exact hsame.featureFlags.symm
  · intro hflags
    refine ⟨rfl, rfl, hip, hmac, ?_, ?_, ?_, hflags.symm⟩
    · exact congrArg AppImageHeader.boardId himage.appHeader.symm
    · exact congrArg AppImageHeader.appVersion himage.appHeader.symm
    · exact congrArg BootInfo.bootloaderVersion himage.bootInfo.symm

end Runs

/-! ## A feature switched off -/

/-- `ethernetdev` as `main` starts it. -/
def mainNode : Node BoardChannel :=
  Node.startUp (fun _ => 0) (SystemController.ethernetdev fun _ => 0) 500 BoardChannel.ethernetdev
    (SystemController.ethernetdev fun _ => 0).getAppVersion

/-- A ping for every node. -/
def pingAll : List UInt8 :=
  (populateHeader 0 .discoveryPing 1 8 0 false none).toBytes ++ List.replicate 8 0

/-- What a ping is answered with. -/
def pongTo (n : Node BoardChannel) : Option Frame :=
  ((n.discovery.handleIncomingPacket Env.zero ⟨1, 0⟩ true pingAll.length).run
    (BytePtr.ofList pingAll)).1

/-- What a request for the node info is answered with. -/
def infoFrom (n : Node BoardChannel) : Option (List NodeEvent × Node BoardChannel) :=
  n.act NodeConfig.ethernetdev (.request (.of .cmdGetNodeInfo []))

theorem exists_infoFrom (n : Node BoardChannel) :
    ∃ info n', infoFrom n = some ([.reply info], n') :=
  ⟨_, _, rfl⟩

instance : Fintype FeatureFlag where
  elems :=
    {.none, .ethernetLan8742, .telemetryStream, .tempSensorDts, .otaRamStaging, .otaDualBank,
      .compressionLz4, .secureBoot, .dynamicRate, .uartCli, .timeSync}
  complete flag := by
    cases flag <;> decide

/-- A feature that is switched off and on again is told alike. -/
theorem sameNode_switched_back :
    ∃ t n pong info n', Machine.Run (Node.act NodeConfig.ethernetdev) mainNode t n ∧
      pongTo n = some pong ∧ infoFrom n = some ([.reply info], n') ∧
      SameNode pong.pong info.pong := by
  have hexec : (Machine.exec (Node.act NodeConfig.ethernetdev) mainNode
      [.console Env.zero (ascii "feature disable ota"),
        .console Env.zero (ascii "feature enable ota")]).any
      (fun r => (pongTo r.2).isSome && decide (∀ flag ≠ FeatureFlag.none,
        switched NodeConfig.ethernetdev flag
          ((SystemController.ethernetdev fun _ => 0).isFeatureEnabled flag) r.1 =
            (SystemController.ethernetdev fun _ => 0).isFeatureEnabled flag)) = true := by
    decide +kernel
  obtain ⟨t, n, hrun, -, hp⟩ := Machine.exec_any hexec
  obtain ⟨hanswered, hswitched⟩ := (Bool.and_eq_true _ _).mp hp
  obtain ⟨pong, hpong⟩ := Option.isSome_iff_exists.1 hanswered
  obtain ⟨info, n', hinfo⟩ := exists_infoFrom n
  exact ⟨t, n, pong, info, n', hrun, hpong, hinfo,
    (sameNode_iff hrun hpong rfl hinfo rfl rfl).2 (of_decide_eq_true hswitched)⟩

/-- The pong keeps the flags of the start-up. -/
theorem pong_flags_stale :
    ¬ ∀ (cfg : NodeConfig) (ram : Mem 32) (ctrl : SystemController) (period : UInt32)
      (chs : List BoardChannel) (t : List NodeEntry) (n n' : Node BoardChannel) (pingEnv : Env)
      (seqNum : UInt32) (netbufNew : Bool) (len : Nat) (p : BytePtr) (r : NodeRequest)
      (pong info : Frame), cfg.wiring = .ethernetdev →
        Machine.Run (Node.act cfg) (Node.startUp ram ctrl period chs ctrl.getAppVersion) t n →
          ((n.discovery.handleIncomingPacket pingEnv ⟨cfg.nodeId, seqNum⟩ netbufNew len).run p).1 =
            some pong →
            MessageType.ofCode r.hdr.msgType = some .cmdGetNodeInfo →
              n.act cfg (.request r) = some ([.reply info], n') →
                pingEnv.ipAddr = r.env.ipAddr → pingEnv.macAddr = r.env.macAddr →
                  SameNode pong.pong info.pong := by
  intro h
  have hexec : (Machine.exec (Node.act NodeConfig.ethernetdev) mainNode
      [.console Env.zero (ascii "feature disable telemetry")]).any
      (fun r => (pongTo r.2).any fun pong =>
        decide (pong.pong.featureFlags ≠ r.2.sysCtrl.featureFlags)) = true := by
    decide +kernel
  obtain ⟨t, n, hrun, -, hp⟩ := Machine.exec_any hexec
  obtain ⟨pong, hpong, hstale⟩ := (Option.any_eq_true _ _).1 hp
  obtain ⟨info, n', hinfo⟩ := exists_infoFrom n
  have hsame := h NodeConfig.ethernetdev _ _ _ _ t n n' Env.zero 0 true _ _ _ pong info rfl hrun
    hpong rfl hinfo rfl rfl
  have hflags := hsame.featureFlags
  rw [pong_of_getNodeInfo rfl hinfo] at hflags
  exact of_decide_eq_true hstale hflags

end Node

end EmbeddedPixel
