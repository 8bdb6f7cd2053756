import EmbeddedPixel.Sys.Version

/-!
# The system controller (`sys/SystemController.cpp`)

The controller's own data: the node id, the header of the running image, the boot handover and the
feature flags.  What it forwards to the other services is in `Sys.Node`.
-/

set_option autoImplicit false

namespace EmbeddedPixel

open Foundation

/-- `SystemController`, less its pointers to the services. -/
structure SystemController where
  nodeId : UInt16
  appHeader : AppImageHeader
  bootInfo : BootInfo
  featureFlags : UInt32
  deriving DecidableEq, Repr

namespace SystemController

/-- `boot_info_` when there was no valid handover. -/
def defaultBootInfo : BootInfo :=
  let info : BootInfo := ⟨BOOT_INFO_MAGIC, MAKE_VERSION 1 0 0 0, BootReason.powerOn.code, 0, 1, 0, 0, 0⟩
  { info with structCrc32 := Crc32.calculate info.body }

/-- The constructor; `boot_info_` is zero until `init`. -/
def create (nodeId : UInt16) (appHeader : AppImageHeader) : SystemController :=
  ⟨nodeId, appHeader, ⟨0, 0, 0, 0, 0, 0, 0, 0⟩, appHeader.featureFlags⟩

/-- `SystemController::init`. -/
def init (this : SystemController) (ram : Mem 32) : SystemController :=
  if BootInfo.isValid (ram.ptr BOOT_INFO_RAM_ADDRESS) then
    { this with bootInfo := BootInfo.ofPtr (ram.ptr BOOT_INFO_RAM_ADDRESS) }
  else { this with bootInfo := defaultBootInfo }

/-- `is_feature_enabled`. -/
def isFeatureEnabled (this : SystemController) (flag : FeatureFlag) : Bool :=
  this.featureFlags &&& flag.code != 0

/-- `set_feature`. -/
def setFeature (this : SystemController) (flag : FeatureFlag) (enable : Bool) : SystemController :=
  if enable then { this with featureFlags := this.featureFlags ||| flag.code }
  else { this with featureFlags := this.featureFlags &&& ~~~flag.code }

/-- Two features have no bit in common. -/
theorem code_and_code {flag other : FeatureFlag} (h : flag ≠ other) :
    flag.code &&& other.code = 0 := by
  cases flag <;> cases other <;> first | rfl | exact absurd rfl h

theorem code_ne_zero {flag : FeatureFlag} (h : flag ≠ .none) : flag.code ≠ 0 := by
  cases flag <;> first | decide | exact absurd rfl h

theorem or_and_distrib (x a b : UInt32) : (x ||| a) &&& b = (x &&& b) ||| (a &&& b) := by
  apply UInt32.toBitVec_inj.1
  ext i
  simp [Bool.and_or_distrib_right]

theorem not_and_of_disjoint {a b : UInt32} (h : a &&& b = 0) : ~~~a &&& b = b := by
  have hsplit : (a ||| ~~~a) &&& b = (a &&& b) ||| (~~~a &&& b) := or_and_distrib a (~~~a) b
  have hall : a ||| ~~~a = -1 := by simp
  rw [hall, h] at hsplit
  simpa using hsplit.symm

/-- **A feature is what it was last set to**; setting one leaves the others. -/
theorem isFeatureEnabled_setFeature (this : SystemController) (flag : FeatureFlag) (enable : Bool)
    {other : FeatureFlag} (hother : other ≠ .none) :
    (this.setFeature flag enable).isFeatureEnabled other =
      if flag = other then enable else this.isFeatureEnabled other := by
  unfold setFeature isFeatureEnabled
  cases enable with
  | true =>
      rw [if_pos rfl, or_and_distrib]
      by_cases h : flag = other
      · have hne := code_ne_zero hother
        rw [h, if_pos rfl]
        simp [hne]
      · rw [code_and_code h, if_neg h]
        simp
  | false =>
      rw [if_neg Bool.false_ne_true]
      dsimp only
      rw [UInt32.and_assoc]
      by_cases h : flag = other
      · rw [h, if_pos rfl]
        simp
      · rw [not_and_of_disjoint (code_and_code h), if_neg h]

/-- Each feature is one bit. -/
theorem code_eq_twoPow {flag : FeatureFlag} (h : flag ≠ .none) :
    ∃ i, flag.code.toBitVec = BitVec.twoPow 32 i := by
  cases flag with
  | none => exact absurd rfl h
  | ethernetLan8742 => exact ⟨0, rfl⟩
  | telemetryStream => exact ⟨1, rfl⟩
  | tempSensorDts => exact ⟨2, rfl⟩
  | otaRamStaging => exact ⟨3, rfl⟩
  | otaDualBank => exact ⟨4, rfl⟩
  | compressionLz4 => exact ⟨5, rfl⟩
  | secureBoot => exact ⟨6, rfl⟩
  | dynamicRate => exact ⟨7, rfl⟩
  | uartCli => exact ⟨8, rfl⟩
  | timeSync => exact ⟨9, rfl⟩

/-- A feature is all that its bit can say. -/
theorem and_code (x : UInt32) (flag : FeatureFlag) :
    x &&& flag.code = if x &&& flag.code != 0 then flag.code else 0 := by
  by_cases h : flag = .none
  · rw [h]
    simp [FeatureFlag.code]
  · obtain ⟨i, hi⟩ := code_eq_twoPow h
    split
    · rename_i hne
      apply UInt32.toBitVec_inj.1
      rw [UInt32.toBitVec_and, hi, BitVec.and_twoPow]
      rw [if_pos]
      by_contra hbit
      have hzero : x &&& flag.code = 0 := by
        apply UInt32.toBitVec_inj.1
        rw [UInt32.toBitVec_and, hi, BitVec.and_twoPow, if_neg hbit]
        rfl
      simp [hzero] at hne
    · rename_i heq
      simpa using heq

/-- The bits of the features. -/
def featureMask : UInt32 := 0x3FF

theorem and_or_distrib (x a b : UInt32) : x &&& (a ||| b) = (x &&& a) ||| (x &&& b) := by
  apply UInt32.toBitVec_inj.1
  ext i
  simp [Bool.and_or_distrib_left]

theorem or_not_mask (x m : UInt32) : (x &&& m) ||| (x &&& ~~~m) = x := by
  rw [← and_or_distrib]
  simp

/-- Two controllers have the same flags if they agree on the features and on what is no feature. -/
theorem featureFlags_ext {this other : SystemController}
    (hrest : this.featureFlags &&& ~~~featureMask = other.featureFlags &&& ~~~featureMask)
    (h : ∀ flag ≠ .none, this.isFeatureEnabled flag = other.isFeatureEnabled flag) :
    this.featureFlags = other.featureFlags := by
  have hcode : ∀ flag ≠ FeatureFlag.none,
      this.featureFlags &&& flag.code = other.featureFlags &&& flag.code := by
    intro flag hflag
    have hsame : (this.featureFlags &&& flag.code != 0) = (other.featureFlags &&& flag.code != 0) :=
      h flag hflag
    rw [and_code this.featureFlags, and_code other.featureFlags, hsame]
  have hmask : featureMask =
      FeatureFlag.ethernetLan8742.code ||| FeatureFlag.telemetryStream.code |||
        FeatureFlag.tempSensorDts.code ||| FeatureFlag.otaRamStaging.code |||
        FeatureFlag.otaDualBank.code ||| FeatureFlag.compressionLz4.code |||
        FeatureFlag.secureBoot.code ||| FeatureFlag.dynamicRate.code |||
        FeatureFlag.uartCli.code ||| FeatureFlag.timeSync.code := by
    decide
  rw [← or_not_mask this.featureFlags featureMask, ← or_not_mask other.featureFlags featureMask, hrest,
    hmask]
  simp only [and_or_distrib, ne_eq, reduceCtorEq, not_false_eq_true, hcode]

/-- A switch leaves the image's header and the boot handover. -/
theorem setFeature_image (this : SystemController) (flag : FeatureFlag) (enable : Bool) :
    (this.setFeature flag enable).appHeader = this.appHeader ∧
      (this.setFeature flag enable).bootInfo = this.bootInfo := by
  cases enable with
  | true => exact ⟨rfl, rfl⟩
  | false => exact ⟨rfl, rfl⟩

/-- A switch leaves what is no feature. -/
theorem setFeature_rest (this : SystemController) (flag : FeatureFlag) (enable : Bool) :
    (this.setFeature flag enable).featureFlags &&& ~~~featureMask =
      this.featureFlags &&& ~~~featureMask := by
  have hcode : flag.code &&& ~~~featureMask = 0 := by cases flag <;> rfl
  unfold setFeature
  cases enable with
  | true =>
      rw [if_pos rfl, or_and_distrib, hcode]
      simp
  | false =>
      rw [if_neg Bool.false_ne_true]
      dsimp only
      rw [UInt32.and_assoc, not_and_of_disjoint hcode]

/-- `s_app_image_header` of `ethernetdev`, version 1.0.0. -/
def ethernetdevHeader : AppImageHeader where
  magic := EPFW_MAGIC
  headerVersion := EPFW_HEADER_VERSION
  boardId := BoardId.nucleoH7S3L8.code
  appVersion := MAKE_VERSION 1 0 0 0
  minBootloaderVersion := MAKE_VERSION 1 0 0 0
  featureFlags :=
    FeatureFlag.ethernetLan8742.code ||| FeatureFlag.telemetryStream.code |||
      FeatureFlag.tempSensorDts.code ||| FeatureFlag.otaRamStaging.code |||
      FeatureFlag.dynamicRate.code ||| FeatureFlag.uartCli.code
  imageSize := 0
  imageCrc32 := 0
  buildTimestamp := 0
  gitCommit := 0
  headerCrc32 := 0

/-- The controller of `ethernetdev` after `init`. -/
def ethernetdev (ram : Mem 32) : SystemController := (create 1 ethernetdevHeader).init ram

def getAppVersion (this : SystemController) : UInt32 := this.appHeader.appVersion

def getBootloaderVersion (this : SystemController) : UInt32 := this.bootInfo.bootloaderVersion

def getBoardId (this : SystemController) : UInt16 := this.appHeader.boardId

def getGitCommit (this : SystemController) : UInt32 := this.appHeader.gitCommit

end SystemController

end EmbeddedPixel
