import EmbeddedPixel.Sys.CliEngine

/-!
# What a command line asks for

`CliCommand` is the vocabulary of the command line without its texts: what a line may change, and
nothing about what it prints.  `parseLine` reads a line as a command and `does_execute` says that
`execute` does what the command asks for, so that no later proof goes through the dispatch.
-/

set_option autoImplicit false

namespace EmbeddedPixel

open Foundation

/-- What a command line asks for. -/
inductive CliCommand where
  | setFeature (flag : FeatureFlag) (enable : Bool)
  | startStream (tag : UInt32) (rate : UInt16)
  | stopStream (tag : UInt32)
  | abortOta
  | setBlinkRate (periodMs : UInt32)
  | reboot
  /-- A line that only prints. -/
  | report
  deriving DecidableEq

namespace CliCommand

/-- The arguments of `feature`. -/
def parseFeature : Option (List UInt8) → Option (List UInt8) → CliCommand
  | some action, some name =>
    let flag := parseFeatureName name
    if action = ascii "list" ∨ flag = .none then .report
    else if action = ascii "enable" then .setFeature flag true
    else if action = ascii "disable" then .setFeature flag false
    else .report
  | _, _ => .report

/-- The arguments of `stream`. -/
def parseStream (action arg1 arg2 : Option (List UInt8)) : CliCommand :=
  if action = some (ascii "start") then
    .startStream (CliEngine.startArgs arg1 arg2).1 (CliEngine.startArgs arg1 arg2).2
  else if action = some (ascii "stop") then .stopStream (CliEngine.stopTag arg1)
  else .report

/-- The arguments of `ota`. -/
def parseOta (action : Option (List UInt8)) : CliCommand :=
  if action = some (ascii "abort") then .abortOta else .report

/-- The argument of `led`. -/
def parseLed : Option (List UInt8) → CliCommand
  | none => .report
  | some arg =>
    if atoi arg < 10 ∨ atoi arg > 10000 then .report
    else .setBlinkRate (UInt32.ofNat (atoi arg).toNat)

/-- A command, given the first token and what is left after it. -/
def parseTokens (cmd saveptr : List UInt8) : CliCommand :=
  let (arg1, saveptr) := CliEngine.nextToken saveptr
  let (arg2, saveptr) := CliEngine.nextToken saveptr
  let (arg3, _) := CliEngine.nextToken saveptr
  if cmd = ascii "feature" then parseFeature arg1 arg2
  else if cmd = ascii "stream" then parseStream arg1 arg2 arg3
  else if cmd = ascii "ota" then parseOta arg1
  else if cmd = ascii "led" then parseLed arg1
  else if cmd = ascii "reboot" ∨ cmd = ascii "reset" then .reboot
  else .report

/-- The command a line holds. -/
def parseLine (inputLine : List UInt8) : CliCommand :=
  match strtok 32 (CliEngine.trimLine inputLine) with
  | none => .report
  | some (cmd, saveptr) => parseTokens cmd saveptr

/-- What a command does to a node. -/
def apply {C : Type} [ITelemetryChannel C] (w : Wiring) (n : Node C) : CliCommand → Node C
  | .setFeature flag enable => n.setFeature flag enable
  | .startStream tag rate => (n.startTelemetry w tag rate 0).2
  | .stopStream tag => (n.stopTelemetry w tag).2
  | .abortOta => n.abortOta w
  | .setBlinkRate periodMs => n.setBlinkRate w periodMs
  | .reboot => n
  | .report => n

/-- The feature a command switches, and which way. -/
def featureSwitch : CliCommand → Option (FeatureFlag × Bool)
  | .setFeature flag enable => some (flag, enable)
  | _ => none

/-- A command touches the controller only where it switches a feature. -/
theorem sysCtrl_apply {C : Type} [ITelemetryChannel C] (w : Wiring) (n : Node C) (c : CliCommand) :
    (c.apply w n).sysCtrl =
      match c.featureSwitch with
      | none => n.sysCtrl
      | some (flag, enable) => n.sysCtrl.setFeature flag enable := by
  cases c with
  | setFeature flag enable => rfl
  | startStream tag rate => exact Node.sysCtrl_startTelemetry w n tag rate 0
  | stopStream tag => exact Node.sysCtrl_stopTelemetry w n tag
  | abortOta => exact Node.sysCtrl_abortOta w n
  | setBlinkRate periodMs => exact Node.sysCtrl_setBlinkRate w n periodMs
  | reboot => rfl
  | report => rfl

/-- A command leaves the OTA service alone or aborts its update. -/
theorem ota_apply {C : Type} [ITelemetryChannel C] (w : Wiring) (n : Node C) (c : CliCommand) :
    (c.apply w n).ota = n.ota ∨ (c.apply w n).ota = (OtaService.handleAbort n.ota).2 := by
  cases c with
  | setFeature flag enable => exact Or.inl rfl
  | startStream tag rate => exact Or.inl (Node.ota_startTelemetry w n tag rate 0)
  | stopStream tag => exact Or.inl (Node.ota_stopTelemetry w n tag)
  | abortOta => exact Node.ota_abortOta w n
  | setBlinkRate periodMs => exact Or.inl (Node.ota_setBlinkRate w n periodMs)
  | reboot => exact Or.inl rfl
  | report => exact Or.inl rfl

end CliCommand

/-- The command ended in `NVIC_SystemReset`. -/
def CliResult.isReset {C : Type} : CliResult C → Bool
  | .text .. => false
  | .reset _ => true

namespace CliEngine

open CliCommand

variable {C : Type} [ITelemetryChannel C] (w : Wiring) (env : Env) (n : Node C) (maxLen : Nat)

/-- What a command does: the node it leaves, a reset if it asks for one, and else a text that fits. -/
structure Does (r : CliResult C) (c : CliCommand) : Prop where
  node : r.node = c.apply w n
  isReset : r.isReset = decide (c = .reboot)
  fits : ∀ out n', r = .text out n' → out.length ≤ maxLen - 1

variable {w n maxLen} in
/-- A command that prints. -/
theorem Does.text {text : List UInt8} {n' : Node C} {c : CliCommand} (hn : n' = c.apply w n)
    (hc : decide (c = .reboot) = false) : Does w n maxLen (.text (snprintf maxLen text) n') c := by
  refine ⟨hn, hc.symm, ?_⟩
  intro out n'' h
  cases h
  exact List.length_take_le _ _

theorem does_cmdFeature (action name : Option (List UInt8)) :
    Does w n maxLen (cmdFeature n maxLen action name) (parseFeature action name) := by
  unfold cmdFeature parseFeature
  split
  · exact .text rfl rfl
  · rename_i action
    cases name with
    | none =>
        dsimp only
        split
        · exact .text rfl rfl
        · exact .text rfl rfl
    | some name =>
        dsimp only
        by_cases hlist : action = ascii "list"
        · rw [if_pos hlist, if_pos (Or.inl hlist)]
          exact .text rfl rfl
        rw [if_neg hlist]
        by_cases hflag : parseFeatureName name = .none
        · rw [if_pos hflag, if_pos (Or.inr hflag)]
          exact .text rfl rfl
        rw [if_neg hflag, if_neg (not_or.2 ⟨hlist, hflag⟩)]
        unfold cmdFeatureSwitch
        split
        · exact .text rfl rfl
        split
        · exact .text rfl rfl
        · exact .text rfl rfl

theorem does_cmdStream (action arg1 arg2 : Option (List UInt8)) :
    Does w n maxLen (cmdStream w n maxLen action arg1 arg2) (parseStream action arg1 arg2) := by
  unfold cmdStream parseStream
  dsimp only
  cases action with
  | none => exact .text rfl rfl
  | some action =>
      simp only [Option.some.injEq]
      by_cases hstatus : action = ascii "status"
      · have hstart : action ≠ ascii "start" := by
          rw [hstatus]
          decide
        have hstop : action ≠ ascii "stop" := by
          rw [hstatus]
          decide
        rw [if_pos hstatus, if_neg hstart, if_neg hstop]
        exact .text rfl rfl
      rw [if_neg hstatus]
      split
      · split
        · exact .text rfl rfl
        · exact .text rfl rfl
      split
      · exact .text rfl rfl
      · exact .text rfl rfl

theorem does_cmdOta (action : Option (List UInt8)) :
    Does w n maxLen (cmdOta w n maxLen action) (parseOta action) := by
  unfold cmdOta parseOta
  dsimp only
  cases action with
  | none => exact .text rfl rfl
  | some action =>
      simp only [Option.some.injEq]
      by_cases hstatus : action = ascii "status"
      · have habort : action ≠ ascii "abort" := by
          rw [hstatus]
          decide
        rw [if_pos hstatus, if_neg habort]
        exact .text rfl rfl
      rw [if_neg hstatus]
      split
      · exact .text rfl rfl
      · exact .text rfl rfl

theorem does_cmdLed (arg : Option (List UInt8)) :
    Does w n maxLen (cmdLed w n maxLen arg) (parseLed arg) := by
  unfold cmdLed parseLed
  split
  · exact .text rfl rfl
  · dsimp only
    split
    · exact .text rfl rfl
    · exact .text rfl rfl

theorem does_dispatch (cmd saveptr : List UInt8) :
    Does w n maxLen (dispatch w env n maxLen cmd saveptr) (parseTokens cmd saveptr) := by
  unfold dispatch parseTokens
  dsimp only
  -- the commands in the order of the dispatch
  split
  · rename_i hcmd
    rcases hcmd with rfl | rfl
    · exact .text rfl rfl
    · exact .text rfl rfl
  split
  · rename_i hcmd
    rcases hcmd with rfl | rfl
    · exact .text rfl rfl
    · exact .text rfl rfl
  split
  · rename_i hcmd
    rw [hcmd]
    exact .text rfl rfl
  split
  · rename_i hcmd
    rw [hcmd]
    exact .text rfl rfl
  split
  · exact does_cmdFeature w n maxLen _ _
  split
  · exact does_cmdStream w n maxLen _ _ _
  split
  · exact does_cmdOta w n maxLen _
  split
  · exact does_cmdLed w n maxLen _
  split
  · refine ⟨rfl, rfl, ?_⟩
    intro out n' h
    cases h
  · exact .text rfl rfl

/-- **`execute` does what the command on the line asks for.** -/
theorem does_execute (inputLine : List UInt8) :
    Does w n maxLen (execute w env n maxLen inputLine) (parseLine inputLine) := by
  unfold execute parseLine
  cases strtok 32 (trimLine inputLine) with
  | none =>
      refine ⟨rfl, rfl, ?_⟩
      intro out n' h
      cases h
      exact Nat.zero_le _
  | some token => exact does_dispatch w env n maxLen _ _

theorem node_execute (inputLine : List UInt8) :
    (execute w env n maxLen inputLine).node = (parseLine inputLine).apply w n :=
  (does_execute w env n maxLen inputLine).node

/-- A command line leaves the OTA service alone or aborts its update. -/
theorem ota_execute (inputLine : List UInt8) :
    (execute w env n maxLen inputLine).node.ota = n.ota ∨
      (execute w env n maxLen inputLine).node.ota = (OtaService.handleAbort n.ota).2 := by
  rw [node_execute]
  exact ota_apply w n _

end CliEngine

end EmbeddedPixel
