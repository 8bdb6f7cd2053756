import Mathlib.Data.List.DropRight
import EmbeddedPixel.Sys.Node

/-!
# The command line (`sys/CliEngine.cpp`)

`execute` takes a command line and the size of the output buffer, and gives the text it leaves there
and the node; after `reboot` it does not come back.
-/

set_option autoImplicit false

namespace EmbeddedPixel

open Foundation

/-- The end of an `execute`. -/
inductive CliResult (C : Type) where
  | text (out : List UInt8) (n : Node C)
  /-- `NVIC_SystemReset` inside the command. -/
  | reset (n : Node C)

/-- The node that a command leaves. -/
def CliResult.node {C : Type} : CliResult C → Node C
  | .text _ n => n
  | .reset n => n

namespace CliEngine

variable {C : Type} [ITelemetryChannel C] (w : Wiring) (env : Env) (n : Node C) (maxLen : Nat)

def helpText : List UInt8 :=
  ascii "=== EmbeddedPixel Command Line Interface ===\r\n" ++
  ascii "  help / ?                   Show available commands\r\n" ++
  ascii "  version / info             Show firmware, bootloader & board info\r\n" ++
  ascii "  status                     Show system health, telemetry & IP status\r\n" ++
  ascii "  feature list               Show active/inactive feature flags\r\n" ++
  ascii "  feature enable <name>      Enable feature (ota, telemetry, dts, cli)\r\n" ++
  ascii "  feature disable <name>     Disable feature (e.g. lock OTA updates)\r\n" ++
  ascii "  stream start [tag] [rate]  Start streaming (e.g. stream start CNTR 50)\r\n" ++
  ascii "  stream stop [tag]          Stop streaming\r\n" ++
  ascii "  ota status                 Display OTA update staging status\r\n" ++
  ascii "  ota abort                  Cancel pending OTA update\r\n" ++
  ascii "  led <period_ms>            Configure LED blink period\r\n" ++
  ascii "  reboot / reset             Reboot node into bootloader\r\n"

def cmdHelp : CliResult C := .text (snprintf maxLen helpText) n

def cmdVersion : CliResult C :=
  let c := n.sysCtrl
  .text (snprintf maxLen
    (ascii "=== Node Version Information ===\r\n" ++
      ascii "  Board:              " ++ getBoardName c.getBoardId ++ ascii " (0x" ++
        hexUpper 4 c.getBoardId.toNat ++ ascii ")\r\n" ++
      ascii "  Node ID:            " ++ decimal c.nodeId.toNat ++ ascii "\r\n" ++
      ascii "  App Firmware:       " ++ formatVersion c.getAppVersion 24 ++ ascii " (0x" ++
        hexUpper 8 c.getAppVersion.toNat ++ ascii ")\r\n" ++
      ascii "  Bootloader:         " ++ formatVersion c.getBootloaderVersion 24 ++ ascii " (0x" ++
        hexUpper 8 c.getBootloaderVersion.toNat ++ ascii ")\r\n" ++
      ascii "  Git Commit:         0x" ++ hexUpper 8 c.getGitCommit.toNat ++ ascii "\r\n" ++
      ascii "  Active Features:    0x" ++ hexUpper 8 c.featureFlags.toNat ++ ascii "\r\n")) n

/-- The integer part of the temperature is limited to the `int` range; its fraction is zero. -/
def cmdStatus : CliResult C :=
  let ip := Node.getIpAddr w env
  let octet (i : UInt32) := decimal ((ip >>> i) &&& 0xFF).toNat
  let tempWhole := min (Node.getCoreTempC w env) 2147483647
  .text (snprintf maxLen
    (ascii "=== System Health & Status ===\r\n" ++
      ascii "  IP Address:    " ++ octet 0 ++ ascii "." ++ octet 8 ++ ascii "." ++ octet 16 ++
        ascii "." ++ octet 24 ++ ascii "\r\n" ++
      ascii "  Uptime:        " ++ decimal (env.uptimeMs 0 / 1000).toNat ++ ascii " seconds (" ++
        decimal (env.uptimeMs 1).toNat ++ ascii " ms)\r\n" ++
      ascii "  Core Temp:     " ++ signed tempWhole ++ ascii ".0 C\r\n" ++
      ascii "  LED Period:    " ++ decimal (n.getBlinkRate w).toNat ++ ascii " ms\r\n" ++
      ascii "  Telemetry:     " ++
        (if n.isStreaming w then ascii "STREAMING ACTIVE" else ascii "IDLE") ++ ascii "\r\n" ++
      ascii "  OTA Updates:   " ++
        (if n.sysCtrl.isFeatureEnabled .otaRamStaging then ascii "ENABLED (Unlocked)"
          else ascii "DISABLED (Locked)") ++ ascii "\r\n")) n

def cmdTime : CliResult C :=
  let uptimeMs := env.uptimeMs 0
  .text (snprintf maxLen
    (ascii "=== Node System Time ===\r\n" ++
      ascii "  Uptime:             " ++ decimal (uptimeMs / 1000).toNat ++ ascii " seconds (" ++
        decimal uptimeMs.toNat ++ ascii " ms)\r\n" ++
      ascii "  Tick Count:         " ++ decimal (env.ticks 1).toNat ++ ascii " ticks\r\n")) n

/-- A line of `feature list`. -/
def featureLine (label : List UInt8) (mask : UInt32) (flag : FeatureFlag) : List UInt8 :=
  ascii "  " ++ label ++ ascii "[0x" ++ hexUpper 4 flag.code.toNat ++ ascii "] : " ++
    (if isFeatureSet mask flag then ascii "ENABLED" else ascii "DISABLED") ++ ascii "\r\n"

def featureList (mask : UInt32) : List UInt8 :=
  ascii "=== Feature Flags Configuration (0x" ++ hexUpper 8 mask.toNat ++ ascii ") ===\r\n" ++
    featureLine (ascii "ota          ") mask .otaRamStaging ++
    featureLine (ascii "telemetry    ") mask .telemetryStream ++
    featureLine (ascii "dts          ") mask .tempSensorDts ++
    featureLine (ascii "ethernet     ") mask .ethernetLan8742 ++
    featureLine (ascii "dynrate      ") mask .dynamicRate ++
    featureLine (ascii "cli          ") mask .uartCli

/-- A feature switched on or off by its name. -/
def cmdFeatureSwitch (action name : List UInt8) (flag : FeatureFlag) : CliResult C :=
  if action = ascii "enable" then
    let n := n.setFeature flag true
    .text (snprintf maxLen (ascii "OK: Feature '" ++ name ++ ascii "' is now ENABLED [Flags: 0x" ++
      hexUpper 8 n.sysCtrl.featureFlags.toNat ++ ascii "]\r\n")) n
  else if action = ascii "disable" then
    let n := n.setFeature flag false
    .text (snprintf maxLen (ascii "OK: Feature '" ++ name ++ ascii "' is now DISABLED [Flags: 0x" ++
      hexUpper 8 n.sysCtrl.featureFlags.toNat ++ ascii "]\r\n")) n
  else
    .text (snprintf maxLen (ascii "ERR: Unknown action '" ++ action ++
      ascii "'. Use 'enable', 'disable', or 'list'.\r\n")) n

def cmdFeature (action name : Option (List UInt8)) : CliResult C :=
  match action with
  | none => .text (snprintf maxLen (featureList n.sysCtrl.featureFlags)) n
  | some action =>
    if action = ascii "list" then .text (snprintf maxLen (featureList n.sysCtrl.featureFlags)) n
    else
      match name with
      | none =>
        .text (snprintf maxLen
          (ascii "ERR: Missing feature name. Example: feature enable ota\r\n")) n
      | some name =>
        let flag := parseFeatureName name
        if flag = .none then
          .text (snprintf maxLen (ascii "ERR: Unknown feature '" ++ name ++
            ascii "'. Supported: ota, telemetry, dts, ethernet, dynrate, cli\r\n")) n
        else cmdFeatureSwitch n maxLen action name flag

/-- The tag an argument of four characters spells. -/
def tagOf (arg : List UInt8) : UInt32 :=
  MAKE_FOURCC (arg.getD 0 0) (arg.getD 1 0) (arg.getD 2 0) (arg.getD 3 0)

/-- `static_cast<uint16_t>(atoi(arg))` -/
def rateOf (arg : List UInt8) : UInt16 := UInt16.ofNat (atoi arg % 65536).toNat

/-- The tag and the rate of `stream start`. -/
def startArgs (arg1 arg2 : Option (List UInt8)) : UInt32 × UInt16 :=
  let tagRate : UInt32 × UInt16 :=
    match arg1 with
    | none => (0, 0)
    | some arg => if arg.length = 4 then (tagOf arg, 0) else (0, rateOf arg)
  match arg2 with
  | none => tagRate
  | some arg => (tagRate.1, rateOf arg)

/-- The tag of `stream stop`. -/
def stopTag : Option (List UInt8) → UInt32
  | none => 0
  | some arg => if arg.length = 4 then tagOf arg else 0

def cmdStream (action arg1 arg2 : Option (List UInt8)) : CliResult C :=
  let status := snprintf maxLen
    (ascii "Streaming is " ++
      (if n.isStreaming w then ascii "ACTIVE" else ascii "STOPPED") ++ ascii "\r\n")
  match action with
  | none => .text status n
  | some action =>
    if action = ascii "status" then .text status n
    else if action = ascii "start" then
      let (tag, rate) := startArgs arg1 arg2
      let (started, n) := n.startTelemetry w tag rate 0
      if started then
        .text (snprintf maxLen (ascii "OK: Telemetry streaming started (tag=0x" ++
          hexUpper 8 tag.toNat ++ ascii ", rate=" ++ decimal rate.toNat ++ ascii " Hz)\r\n")) n
      else
        .text (snprintf maxLen (ascii
          "ERR: Failed to start telemetry (Feature disabled or service unavailable)\r\n")) n
    else if action = ascii "stop" then
      let (_, n) := n.stopTelemetry w (stopTag arg1)
      .text (snprintf maxLen (ascii "OK: Telemetry streaming stopped\r\n")) n
    else
      .text (snprintf maxLen
        (ascii "ERR: Usage: stream start [TAG] [RATE_HZ] | stream stop\r\n")) n

def cmdOta (action : Option (List UInt8)) : CliResult C :=
  let status := snprintf maxLen
    (ascii "OTA Update Service: " ++
      (if n.sysCtrl.isFeatureEnabled .otaRamStaging then ascii "ENABLED (Ready)"
        else ascii "LOCKED / DISABLED") ++ ascii "\r\n")
  match action with
  | none => .text status n
  | some action =>
    if action = ascii "status" then .text status n
    else if action = ascii "abort" then
      .text (snprintf maxLen (ascii "OK: Active OTA update aborted.\r\n")) (n.abortOta w)
    else .text (snprintf maxLen (ascii "ERR: Usage: ota status | ota abort\r\n")) n

def cmdLed (arg : Option (List UInt8)) : CliResult C :=
  match arg with
  | none =>
    .text (snprintf maxLen (ascii "Current LED Blink Period: " ++
      decimal (n.getBlinkRate w).toNat ++ ascii " ms\r\n")) n
  | some arg =>
    let period := atoi arg
    if period < 10 ∨ period > 10000 then
      .text (snprintf maxLen (ascii "ERR: Invalid period " ++ signed period ++
        ascii " ms. Must be between 10 and 10000 ms.\r\n")) n
    else
      .text (snprintf maxLen (ascii "OK: LED blink period set to " ++ signed period ++
        ascii " ms\r\n")) (n.setBlinkRate w (UInt32.ofNat period.toNat))

/-- One more `strtok_r`: a null token leaves nothing to take from. -/
def nextToken (saveptr : List UInt8) : Option (List UInt8) × List UInt8 :=
  match strtok 32 saveptr with
  | none => (none, [])
  | some (token, rest) => (some token, rest)

/-- The commands, given the first token and what is left after it. -/
def dispatch (cmd saveptr : List UInt8) : CliResult C :=
  let (arg1, saveptr) := nextToken saveptr
  let (arg2, saveptr) := nextToken saveptr
  let (arg3, _) := nextToken saveptr
  if cmd = ascii "help" ∨ cmd = ascii "?" then cmdHelp n maxLen
  else if cmd = ascii "version" ∨ cmd = ascii "info" then cmdVersion n maxLen
  else if cmd = ascii "status" then cmdStatus w env n maxLen
  else if cmd = ascii "time" then cmdTime env n maxLen
  else if cmd = ascii "feature" then cmdFeature n maxLen arg1 arg2
  else if cmd = ascii "stream" then cmdStream w n maxLen arg1 arg2 arg3
  else if cmd = ascii "ota" then cmdOta w n maxLen arg1
  else if cmd = ascii "led" then cmdLed w n maxLen arg1
  else if cmd = ascii "reboot" ∨ cmd = ascii "reset" then .reset n
  else
    .text (snprintf maxLen (ascii "ERR: Unknown command '" ++ cmd ++
      ascii "'. Type 'help' for usage.\r\n")) n

/-- The first 127 bytes of a line, less the blanks and line ends around them. -/
def trimLine (inputLine : List UInt8) : List UInt8 :=
  ((inputLine.take 127).rdropWhile fun c => c == 13 || c == 10 || c == 32).dropWhile
    fun c => c == 32 || c == 9

/-- `execute`, for an output buffer that is not empty. -/
def execute (inputLine : List UInt8) : CliResult C :=
  match strtok 32 (trimLine inputLine) with
  | none => .text [] n
  | some (cmd, saveptr) => dispatch w env n maxLen cmd saveptr

end CliEngine

end EmbeddedPixel
