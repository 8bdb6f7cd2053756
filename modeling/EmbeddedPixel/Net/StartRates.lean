import EmbeddedPixel.Net.StreamTargets

/-!
# Rates on the command line

`stream start` takes an argument of four characters for a tag and any other for a rate, and a rate is cut
to sixteen bits.  `rateLine_means_iff` says for which lines the rate is the one that was typed.
-/

set_option autoImplicit false

namespace EmbeddedPixel

open Foundation ITelemetryChannel LawfulTelemetryChannel

/-- A channel has the rate that was set. -/
class LawfulSampleRate (C : Type) [ITelemetryChannel C] : Prop where
  getSampleRateHz_setEnabled : ∀ (b : Bool) (ch : C),
    ITelemetryChannel.getSampleRateHz (ITelemetryChannel.setEnabled b ch) =
      ITelemetryChannel.getSampleRateHz ch
  getSampleRateHz_setSampleRateHz : ∀ (rateHz : UInt16) (ch : C), rateHz > 0 →
    ITelemetryChannel.getSampleRateHz (ITelemetryChannel.setSampleRateHz rateHz ch) = rateHz

instance : LawfulSampleRate CounterChannel where
  getSampleRateHz_setEnabled _ _ := rfl
  getSampleRateHz_setSampleRateHz rateHz ch h := by
    show (if rateHz > 0 then { ch with sampleRateHz := rateHz, batchCount := 1 } else ch).sampleRateHz = _
    rw [if_pos h]

instance : LawfulSampleRate TemperatureChannel where
  getSampleRateHz_setEnabled _ _ := rfl
  getSampleRateHz_setSampleRateHz rateHz ch h := by
    show (if rateHz > 0 then { ch with sampleRateHz := rateHz, batchCount := 1 } else ch).sampleRateHz = _
    rw [if_pos h]

instance : LawfulSampleRate StressTestChannel where
  getSampleRateHz_setEnabled _ _ := rfl
  getSampleRateHz_setSampleRateHz _ _ h := if_pos h

instance : LawfulSampleRate BoardChannel where
  getSampleRateHz_setEnabled b ch := by
    cases ch with
    | counter ch => rfl
    | temperature ch => rfl
    | stress ch => rfl
  getSampleRateHz_setSampleRateHz rateHz ch h := by
    cases ch with
    | counter ch => exact LawfulSampleRate.getSampleRateHz_setSampleRateHz rateHz ch h
    | temperature ch => exact LawfulSampleRate.getSampleRateHz_setSampleRateHz rateHz ch h
    | stress ch => exact LawfulSampleRate.getSampleRateHz_setSampleRateHz rateHz ch h

/-! ## The line -/

/-- The arguments `RATE`, or `TAG RATE`. -/
def rateArgs : Option TagWord → Nat → List UInt8
  | none, rate => decimal rate
  | some tag, rate => tag.chars ++ 32 :: decimal rate

/-- `stream start RATE`, or `stream start TAG RATE`. -/
def rateLine (tag : Option TagWord) (rate : Nat) : List UInt8 :=
  ascii "stream" ++ 32 :: (ascii "start" ++ 32 :: rateArgs tag rate)

/-- The tag that is taken from the line, and the rate. -/
def rateTaken (tag : Option TagWord) (rate : Nat) : UInt32 × UInt16 :=
  match tag with
  | none =>
    if (decimal rate).length = 4 then (CliEngine.tagOf (decimal rate), 0)
    else (0, UInt16.ofNat rate)
  | some tag => (tag.code, UInt16.ofNat rate)

namespace CliEngine

theorem rateArgs_eq (tag : Option TagWord) (rate : Nat) :
    ∃ front, front.length ≤ 5 ∧ rateArgs tag rate = front ++ decimal rate := by
  cases tag with
  | none => exact ⟨[], by decide, rfl⟩
  | some tag =>
      refine ⟨tag.chars ++ [32], ?_, ?_⟩
      · rw [List.length_append, tag.length_chars, List.length_singleton]
      · rw [List.append_assoc]
        rfl

theorem startArgs_rateArgs (tag : Option TagWord) {rate : Nat} (h : rate ≤ 2147483647) :
    startArgs (nextToken (rateArgs tag rate)).1 (nextToken (nextToken (rateArgs tag rate)).2).1 =
      rateTaken tag rate := by
  cases tag with
  | none =>
      unfold rateArgs
      rw [nextToken_word (decimal_ne_nil _) fun _ h => digit_ne h (by decide)]
      unfold startArgs rateTaken
      dsimp only
      rw [rateOf_decimal h]
      rfl
  | some tag =>
      obtain ⟨htag, hrate⟩ := nextToken_tagRate tag rate
      unfold rateArgs
      rw [htag, hrate, startArgs_tagRate tag h]
      rfl

/-- The text begins with `ERR`. -/
def IsError (out : List UInt8) : Prop := ascii "ERR" <+: out

theorem not_isError_of_head {text : List UInt8} {c : UInt8} (h : text.head? = some c) (hc : c ≠ 69)
    (maxLen : Nat) : ¬ IsError (snprintf maxLen text) := by
  rintro ⟨rest, hrest⟩
  have hhead : (snprintf maxLen text).head? = some 69 := by
    rw [← hrest]
    rfl
  unfold snprintf at hhead
  rw [List.head?_take, h] at hhead
  split at hhead
  · cases hhead
  · exact hc (Option.some.inj hhead)

variable {C : Type} [ITelemetryChannel C] {n : Node C}

/-- **What a rate line does** with the telemetry feature on. -/
theorem execute_rateLine (hon : n.sysCtrl.isFeatureEnabled .telemetryStream = true)
    (tag : Option TagWord) {rate : Nat} (hmax : rate ≤ 2147483647) (env : Env) (maxLen : Nat) :
    ∃ out, execute .ethernetdev env n maxLen (rateLine tag rate) =
        .text out (n.startStreams (rateTaken tag rate).1 (rateTaken tag rate).2 0) ∧ ¬ IsError out := by
  obtain ⟨front, hfront, hargs⟩ := rateArgs_eq tag rate
  have hlen := length_decimal_int hmax
  have hne : rateArgs tag rate ≠ [] := by
    rw [hargs]
    simp [decimal_ne_nil]
  have hshort : (rateArgs tag rate).length ≤ 100 := by
    rw [hargs, List.length_append]
    omega
  have hlast : isDigit ((rateArgs tag rate).getLast hne) = true := by
    simp only [hargs]
    exact isDigit_getLast_append_decimal _ _ _
  have hstarted : (n.startTelemetry .ethernetdev (rateTaken tag rate).1 (rateTaken tag rate).2 0) =
      (true, n.startStreams (rateTaken tag rate).1 (rateTaken tag rate).2 0) := by
    unfold Node.startTelemetry
    rw [hon]
    rfl
  unfold execute rateLine
  rw [strtok_streamStart hne hshort hlast]
  unfold dispatch
  dsimp only
  rw [nextToken_start, if_neg (by decide), if_neg (by decide), if_neg (by decide), if_neg (by decide),
    if_neg (by decide), if_pos rfl]
  unfold cmdStream
  dsimp only
  rw [if_neg (by decide), if_pos rfl, startArgs_rateArgs tag hmax, hstarted]
  dsimp only
  rw [if_pos rfl]
  exact ⟨_, rfl, not_isError_of_head rfl (by decide) maxLen⟩

end CliEngine

/-! ## What it means -/

/-- A numeral of four digits is a word of four characters. -/
def TagWord.ofNumeral (rate : Nat) (h : (decimal rate).length = 4) : TagWord where
  chars := decimal rate
  length_chars := h
  printable c hc := by
    have hdigit := isDigit_of_mem_decimal hc
    unfold isDigit at hdigit
    simp only [Bool.and_eq_true, decide_eq_true_eq] at hdigit
    exact ⟨UInt8.le_trans (by decide) hdigit.1, UInt8.le_trans hdigit.2 (by decide)⟩

section Channels

variable {C : Type} [ITelemetryChannel C] {tag : Option TagWord} {rate : Nat} {n : Node C}

/-- The channels a line is for: the one with its tag, or all. -/
def AskedFor (tag : Option TagWord) (ch : C) : Prop :=
  match tag with
  | none => True
  | some tag => getTag ch = tag.code

/-- The rate is what was typed: the channels that are asked for are enabled and have the rate, and the
others are as they were; or the rate is refused where it is none of sixteen bits. -/
def MeansRate (tag : Option TagWord) (rate : Nat) (n n' : Node C) (out : List UInt8) : Prop :=
  if rate ≤ 65535 then
    n'.telemetry.isStreaming = true ∧
    List.Forall₂ (fun ch ch' =>
      (AskedFor tag ch → getTag ch' = getTag ch ∧ isEnabled ch' = true ∧
        (getSampleRateHz ch').toNat = rate) ∧
      (¬ AskedFor tag ch → ch' = ch)) n.telemetry.channels n'.telemetry.channels
  else
    List.Forall₂ (fun ch ch' => isEnabled ch' = isEnabled ch ∧
      getSampleRateHz ch' = getSampleRateHz ch) n.telemetry.channels n'.telemetry.channels ∧
    CliEngine.IsError out

/-- A rate of sixteen bits, and not four digits alone, unless all channels have that rate and are enabled
but for the one that has the digits for its tag. -/
def TakenAsRate (tag : Option TagWord) (rate : Nat) (chs : List C) : Prop :=
  rate ≤ 65535 ∧ (tag = none → (decimal rate).length = 4 → ∀ ch ∈ chs,
    (getSampleRateHz ch).toNat = rate ∧
      (isEnabled ch = true ∨ getTag ch = CliEngine.tagOf (decimal rate)))

theorem TelemetryService.startChannel_rate {rateHz : UInt16} (h : rateHz > 0) (ch : C) :
    startChannel rateHz 0 ch = setSampleRateHz rateHz (setEnabled true ch) := by
  unfold startChannel
  dsimp only
  rw [if_pos h, if_neg fun hbatch => absurd hbatch.1 (by decide)]

variable [LawfulTelemetryChannel C] [LawfulSampleRate C]

/-- A channel that is started with the rate of a line. -/
theorem startChannel_means (hpos : 1 ≤ rate) (hle : rate ≤ 65535) (ch : C) :
    getTag (TelemetryService.startChannel (UInt16.ofNat rate) 0 ch) = getTag ch ∧
      isEnabled (TelemetryService.startChannel (UInt16.ofNat rate) 0 ch) = true ∧
      (getSampleRateHz (TelemetryService.startChannel (UInt16.ofNat rate) 0 ch)).toNat = rate := by
  have hrate : (UInt16.ofNat rate).toNat = rate := by
    rw [UInt16.toNat_ofNat']
    omega
  have hgt : UInt16.ofNat rate > 0 := by
    rw [gt_iff_lt, UInt16.lt_iff_toNat_lt, hrate]
    exact hpos
  refine ⟨TelemetryService.getTag_startChannel _ _ ch, TelemetryService.isEnabled_startChannel _ _ ch, ?_⟩
  rw [TelemetryService.startChannel_rate hgt,
    LawfulSampleRate.getSampleRateHz_setSampleRateHz _ _ hgt, hrate]

/-- What is left of a channel where four digits are taken for a tag. -/
theorem startTag_means_iff (streamTag : UInt32) (ch : C) :
    (getTag (if getTag ch = streamTag then setEnabled true ch else ch) = getTag ch ∧
      isEnabled (if getTag ch = streamTag then setEnabled true ch else ch) = true ∧
      (getSampleRateHz (if getTag ch = streamTag then setEnabled true ch else ch)).toNat = rate) ↔
    (getSampleRateHz ch).toNat = rate ∧ (isEnabled ch = true ∨ getTag ch = streamTag) := by
  by_cases htag : getTag ch = streamTag
  · rw [if_pos htag, getTag_setEnabled, isEnabled_setEnabled,
      LawfulSampleRate.getSampleRateHz_setEnabled]
    simp [htag]
  · rw [if_neg htag]
    simp [htag, and_comm]

/-- **What a start with the arguments of a line comes to.** -/
theorem meansRate_start_iff (h : TelemetryService.DistinctTags n.telemetry.channels) (hpos : 1 ≤ rate)
    {out : List UInt8} (hout : ¬ CliEngine.IsError out) :
    MeansRate tag rate n (n.startStreams (rateTaken tag rate).1 (rateTaken tag rate).2 0) out ↔
      TakenAsRate tag rate n.telemetry.channels := by
  unfold MeansRate TakenAsRate
  by_cases hle : rate ≤ 65535
  swap
  · rw [if_neg hle]
    exact iff_of_false (fun hmeans => hout hmeans.2) fun htaken => hle htaken.1
  have hchannels : (n.startStreams (rateTaken tag rate).1 (rateTaken tag rate).2 0).telemetry.channels =
      TelemetryService.onChannels (rateTaken tag rate).1
        (TelemetryService.startChannel (rateTaken tag rate).2 0) n.telemetry.channels := rfl
  have hstreams : (n.startStreams (rateTaken tag rate).1
      (rateTaken tag rate).2 0).telemetry.isStreaming = true := rfl
  rw [if_pos hle, hstreams, hchannels, TelemetryService.onChannels_eq_map h, List.forall₂_map_right_iff,
    List.forall₂_same]
  cases tag with
  | some tag =>
      have htaken : rateTaken (some tag) rate = (tag.code, UInt16.ofNat rate) := rfl
      rw [htaken]
      refine iff_of_true ⟨rfl, fun ch _ => ⟨fun hasked => ?_, fun hother => ?_⟩⟩
        ⟨hle, fun htag => by cases htag⟩
      · have htag : getTag ch = tag.code := hasked
        rw [if_pos (Or.inr htag)]
        exact startChannel_means hpos hle ch
      · have htag : ¬ getTag ch = tag.code := hother
        exact if_neg (not_or.2 ⟨tag.code_ne_zero, htag⟩)
  | none =>
      by_cases hfour : (decimal rate).length = 4
      · have htaken : rateTaken none rate = (CliEngine.tagOf (decimal rate), 0) := if_pos hfour
        have hne : CliEngine.tagOf (decimal rate) ≠ 0 := (TagWord.ofNumeral rate hfour).code_ne_zero
        have hstart : ∀ ch : C, TelemetryService.startChannel 0 0 ch = setEnabled true ch := fun _ => rfl
        rw [htaken]
        simp only [hne, false_or, hstart, AskedFor, not_true_eq_false, false_implies, and_true, true_and,
          true_implies, hle, hfour, startTag_means_iff]
      · have htaken : rateTaken none rate = (0, UInt16.ofNat rate) := if_neg hfour
        rw [htaken]
        refine iff_of_true ⟨rfl, fun ch _ => ⟨fun _ => ?_, fun hother => absurd trivial hother⟩⟩
          ⟨hle, fun _ hlen => absurd hlen hfour⟩
        rw [if_pos (Or.inl rfl)]
        exact startChannel_means hpos hle ch

/-- A rate line in a state whose channels have different tags. -/
theorem rateLine_iff (h : TelemetryService.DistinctTags n.telemetry.channels)
    (hon : n.sysCtrl.isFeatureEnabled .telemetryStream = true) (tag : Option TagWord) (hpos : 1 ≤ rate)
    (hmax : rate ≤ 2147483647) (env : Env) (maxLen : Nat) :
    (∃ out n', CliEngine.execute .ethernetdev env n maxLen (rateLine tag rate) = .text out n' ∧
        MeansRate tag rate n n' out) ↔
      TakenAsRate tag rate n.telemetry.channels := by
  obtain ⟨out, hexec, hout⟩ := CliEngine.execute_rateLine hon tag hmax env maxLen
  rw [← meansRate_start_iff h hpos hout]
  constructor
  · rintro ⟨out', n', hexec', hmeans⟩
    rw [hexec] at hexec'
    cases hexec'
    exact hmeans
  · exact fun hmeans => ⟨out, _, hexec, hmeans⟩

/-- **When a rate on the command line is the one that was typed.**  In every state that `ethernetdev`
reaches with the telemetry feature on, for every numeral of an `int`: exactly if it is a rate of sixteen
bits and comes after a tag or has not four digits, or all channels are already as they were asked to be but
for the one that has the digits for its tag. -/
theorem rateLine_means_iff {L : Layout} {nodeId : UInt16} {ram : Mem 32} {ctrl : SystemController}
    {period fwVersion : UInt32} {chs : List C} {t : List (NodeAction × List NodeEvent)}
    (h : Machine.Run (Node.act ⟨L, .ethernetdev, nodeId⟩)
      (Node.startUp ram ctrl period chs fwVersion) t n)
    (hon : n.sysCtrl.isFeatureEnabled .telemetryStream = true) (tag : Option TagWord) (hpos : 1 ≤ rate)
    (hmax : rate ≤ 2147483647) (env : Env) (maxLen : Nat) :
    (∃ out n', CliEngine.execute .ethernetdev env n maxLen (rateLine tag rate) = .text out n' ∧
        MeansRate tag rate n n' out) ↔
      TakenAsRate tag rate n.telemetry.channels :=
  rateLine_iff (Node.distinctTags_run rfl h) hon tag hpos hmax env maxLen

end Channels

/-- The counter at 500 samples a second. -/
theorem rateLine_means_counter :
    ∃ out n', CliEngine.execute .ethernetdev Env.zero Node.board 512 (rateLine (some counterWord) 500) =
        .text out n' ∧ MeansRate (some counterWord) 500 Node.board n' out := by
  have hrun : Machine.Run (Node.act NodeConfig.ethernetdev) Node.board [] Node.board := .nil
  exact (rateLine_means_iff hrun (by decide +kernel) (some counterWord) (by decide) (by decide) Env.zero
    512).2 ⟨by decide, fun htag => by cases htag⟩

/-- `stream start 1000` starts nothing, and 65537 is taken for 1. -/
theorem rateLine_not_meant :
    (¬ ∃ out n', CliEngine.execute .ethernetdev Env.zero Node.board 512 (rateLine none 1000) =
        .text out n' ∧ MeansRate none 1000 Node.board n' out) ∧
      ¬ ∃ out n', CliEngine.execute .ethernetdev Env.zero Node.board 512 (rateLine none 65537) =
        .text out n' ∧ MeansRate none 65537 Node.board n' out := by
  have hrun : Machine.Run (Node.act NodeConfig.ethernetdev) Node.board [] Node.board := .nil
  have hdistinct := Node.distinctTags_run rfl hrun
  have hon : Node.board.sysCtrl.isFeatureEnabled .telemetryStream = true := by decide +kernel
  constructor
  · intro hmeans
    obtain ⟨-, htaken⟩ := (rateLine_iff hdistinct hon none (by omega) (by omega) Env.zero 512).1 hmeans
    have hmem : BoardChannel.counter (CounterChannel.create 10 1) ∈ Node.board.telemetry.channels := by
      decide +kernel
    exact absurd (htaken rfl (by decide +kernel) _ hmem).1 (by decide)
  · intro hmeans
    have htaken := (rateLine_iff hdistinct hon none (by omega) (by omega) Env.zero 512).1 hmeans
    exact absurd htaken.1 (by decide)

end EmbeddedPixel
