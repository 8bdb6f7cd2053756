import EmbeddedPixel.Net.OtaService
import EmbeddedPixel.Net.TelemetryService

/-!
# A node

A `Node` is the state of the objects that a request can change: the OTA service with the RAM, the
system controller, the blink period, the telemetry and discovery services and the sequence number of
the command service.  `Wiring` says which of the pointers between them are set, and `Env` is what a
request reads from outside.  The operations are those that `sys/SystemController.cpp` forwards.
-/

set_option autoImplicit false

namespace EmbeddedPixel

open Foundation

/-- `DiscoveryService`, less the state of its own task. -/
structure DiscoveryService where
  fwVersion : UInt32
  bootloaderVersion : UInt32
  boardId : UInt16
  featureFlags : UInt32
  state : NodeState
  deriving DecidableEq, Repr

/-- The constructor. -/
def DiscoveryService.create (fwVersion : UInt32) : DiscoveryService where
  fwVersion := fwVersion
  bootloaderVersion := 0x01000000
  boardId := 0x0001
  featureFlags := 0
  state := .idle

/-- The pointers that may be null: those of `CommandService`, that of `OtaService` and those of
`SystemController`. -/
structure Wiring where
  commandOta : Bool
  commandSysCtrl : Bool
  commandCli : Bool
  otaSysCtrl : Bool
  ctrlNet : Bool
  ctrlTempSensor : Bool
  ctrlBlink : Bool
  ctrlTelemetry : Bool
  ctrlOta : Bool
  ctrlDiscovery : Bool
  deriving DecidableEq, Repr

/-- The wiring of `ethernetdev`. -/
def Wiring.ethernetdev : Wiring := ⟨true, true, true, true, true, true, true, true, true, true⟩

/-- What a request reads from outside: the tick counter, reading by reading, the network interface,
the chip's id, the temperature sensor, and what the stack held where a response is built. -/
structure Env where
  ticks : Nat → UInt32
  ipAddr : UInt32
  macAddr : List UInt8
  macAddr_length : macAddr.length = 6
  hwUid : UInt32 × UInt32 × UInt32
  temperature : Option Int32
  stack : BytePtr

/-- `portTICK_PERIOD_MS` -/
def portTICK_PERIOD_MS : UInt32 := 1

/-- The uptime in ms at the `i`-th reading of the tick counter. -/
def Env.uptimeMs (env : Env) (i : Nat) : UInt32 := env.ticks i * portTICK_PERIOD_MS

structure Node (C : Type) where
  ota : OtaMachine
  sysCtrl : SystemController
  blinkPeriodMs : UInt32
  telemetry : TelemetryService C
  discovery : DiscoveryService
  seqNum : UInt32

/-- A node after power-up: a new OTA service, any RAM. -/
def Node.powerUp {C : Type} (ram : Mem 32) (sysCtrl : SystemController) (blinkPeriodMs : UInt32)
    (telemetry : TelemetryService C) (discovery : DiscoveryService) : Node C :=
  ⟨OtaMachine.start ram, sysCtrl, blinkPeriodMs, telemetry, discovery, 0⟩

/-- An integer as the nearest `float`, which has 24 significant bits; ties go to even. -/
def floatOfInt (i : Int) : Int :=
  let e := Nat.log2 i.natAbs + 1 - 24
  let q := i.natAbs / 2 ^ e
  let r := 2 * (i.natAbs % 2 ^ e)
  let q := if r > 2 ^ e ∨ (r = 2 ^ e ∧ q % 2 = 1) then q + 1 else q
  i.sign * (q * 2 ^ e : Nat)

namespace Node

variable {C : Type} [ITelemetryChannel C] (w : Wiring) (env : Env) (n : Node C)

/-- The controller that the OTA service asks. -/
def otaSysCtrl : Option SystemController := if w.otaSysCtrl then some n.sysCtrl else none

/-- `set_feature` of the controller. -/
def setFeature (flag : FeatureFlag) (enable : Bool) : Node C :=
  { n with sysCtrl := n.sysCtrl.setFeature flag enable }

/-- `get_ip_addr`. -/
def getIpAddr : UInt32 := if w.ctrlNet then env.ipAddr else 0

/-- `get_core_temp_c`: the `float` holds an integer. -/
def getCoreTempC : Int :=
  match if w.ctrlTempSensor then env.temperature else none with
  | none => 0
  | some t => floatOfInt t.toInt

/-- `set_blink_rate`. -/
def setBlinkRate (periodMs : UInt32) : Node C :=
  if w.ctrlBlink then { n with blinkPeriodMs := periodMs } else n

/-- `get_blink_rate`. -/
def getBlinkRate : UInt32 := if w.ctrlBlink then n.blinkPeriodMs else 0

/-- `set_state` of the discovery service. -/
def setDiscoveryState (s : NodeState) : Node C := { n with discovery := { n.discovery with state := s } }

/-- `start_telemetry`. -/
def startTelemetry (tag : UInt32) (rate batch : UInt16) : Bool × Node C :=
  if !n.sysCtrl.isFeatureEnabled .telemetryStream || !w.ctrlTelemetry then (false, n)
  else
    let n :=
      { n with telemetry := n.telemetry.startStreaming IPADDR_BROADCAST PORT_STREAM tag rate batch }
    (true, if w.ctrlDiscovery then n.setDiscoveryState .streaming else n)

/-- `stop_telemetry`. -/
def stopTelemetry (tag : UInt32) : Bool × Node C :=
  if !w.ctrlTelemetry then (false, n)
  else
    let n := { n with telemetry := n.telemetry.stopStreaming tag }
    (true,
      if !n.telemetry.isStreaming && w.ctrlDiscovery then n.setDiscoveryState .idle else n)

@[simp] theorem ota_startTelemetry (tag : UInt32) (rate batch : UInt16) :
    (n.startTelemetry w tag rate batch).2.ota = n.ota := by
  unfold startTelemetry
  split
  · rfl
  · dsimp only
    split
    · rfl
    · rfl

@[simp] theorem ota_stopTelemetry (tag : UInt32) : (n.stopTelemetry w tag).2.ota = n.ota := by
  unfold stopTelemetry
  split
  · rfl
  · dsimp only
    split
    · rfl
    · rfl

@[simp] theorem sysCtrl_startTelemetry (tag : UInt32) (rate batch : UInt16) :
    (n.startTelemetry w tag rate batch).2.sysCtrl = n.sysCtrl := by
  unfold startTelemetry
  split
  · rfl
  · dsimp only
    split
    · rfl
    · rfl

@[simp] theorem sysCtrl_stopTelemetry (tag : UInt32) :
    (n.stopTelemetry w tag).2.sysCtrl = n.sysCtrl := by
  unfold stopTelemetry
  split
  · rfl
  · dsimp only
    split
    · rfl
    · rfl

/-- `is_streaming`. -/
def isStreaming : Bool := w.ctrlTelemetry && n.telemetry.isStreaming

/-- `abort_ota`. -/
def abortOta : Node C :=
  if w.ctrlOta then { n with ota := (OtaService.handleAbort n.ota).2 } else n

omit [ITelemetryChannel C] in
@[simp] theorem sysCtrl_abortOta : (n.abortOta w).sysCtrl = n.sysCtrl := by
  unfold abortOta
  split
  · rfl
  · rfl

omit [ITelemetryChannel C] in
theorem ota_abortOta :
    (n.abortOta w).ota = n.ota ∨ (n.abortOta w).ota = (OtaService.handleAbort n.ota).2 := by
  unfold abortOta
  split
  · exact Or.inr rfl
  · exact Or.inl rfl

omit [ITelemetryChannel C] in
@[simp] theorem ota_setBlinkRate (periodMs : UInt32) : (n.setBlinkRate w periodMs).ota = n.ota := by
  unfold setBlinkRate
  split
  · rfl
  · rfl

omit [ITelemetryChannel C] in
@[simp] theorem sysCtrl_setBlinkRate (periodMs : UInt32) :
    (n.setBlinkRate w periodMs).sysCtrl = n.sysCtrl := by
  unfold setBlinkRate
  split
  · rfl
  · rfl

end Node

end EmbeddedPixel
