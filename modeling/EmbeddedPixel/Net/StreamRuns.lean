import EmbeddedPixel.Net.Transmit

/-!
# Runs of the transmit loop

The log of a run is what became of the frames it built, in order.  `logged_run` ties the counts of the task
to it, and `counted_run` the samples of a counter.

`noSilentLoss`: the frames are numbered as they are built, so that two frames of the counter with nothing
missing between them carry samples without a gap.
-/

set_option autoImplicit false

namespace EmbeddedPixel

open Foundation ITelemetryChannel ITelemetryProducer

/-- What became of the frames, each with its place in the registry. -/
abbrev FrameLog := List (Nat × FrameEvent)

namespace Datagram

variable (d : Datagram)

def seqNum : UInt32 := u32At (BytePtr.ofList d.bytes) 8

def sampleCount : Nat := (u16At (BytePtr.ofList d.bytes) 30).toNat

/-- A sample of four bytes. -/
def sampleAt (k : Nat) : UInt32 := u32At (BytePtr.ofList d.bytes) (36 + 4 * k)

/-- The samples count by one from `first`. -/
def CountsFrom (first : UInt32) : Prop := ∀ k < d.sampleCount, d.sampleAt k = first + UInt32.ofNat k

end Datagram

namespace FrameLog

/-- The datagrams that are sent. -/
def sent (log : FrameLog) : List Datagram := log.filterMap fun x =>
  match x.2 with
  | .sent d => some d
  | .lost => none

/-- How many frames are lost. -/
def lost (log : FrameLog) : Nat := log.countP fun x => decide (x.2 = .lost)

@[simp] theorem sent_append (log more : FrameLog) : sent (log ++ more) = sent log ++ sent more :=
  List.filterMap_append

@[simp] theorem sent_cons_sent (i : Nat) (d : Datagram) (log : FrameLog) :
    sent ((i, .sent d) :: log) = d :: sent log := rfl

@[simp] theorem sent_cons_lost (i : Nat) (log : FrameLog) : sent ((i, .lost) :: log) = sent log := rfl

/-- A frame is sent or lost. -/
theorem length_eq (log : FrameLog) : log.length = (sent log).length + lost log := by
  induction log with
  | nil => rfl
  | cons x log ih =>
      obtain ⟨i, e⟩ := x
      cases e with
      | sent d =>
          have hlost : lost ((i, .sent d) :: log) = lost log := List.countP_cons_of_neg (by simp)
          rw [List.length_cons, sent_cons_sent, List.length_cons, hlost, ih]
          omega
      | lost =>
          have hlost : lost ((i, .lost) :: log) = lost log + 1 := List.countP_cons_of_pos (by simp)
          rw [List.length_cons, sent_cons_lost, hlost, ih]
          omega

end FrameLog

namespace TelemetryTask

/-! ## The numbers of the frames -/

section Counts

variable {P : Type} {this this' : TelemetryTask P} {log : FrameLog}

/-- The counts of the task are those of its log, and the frames are numbered in it. -/
structure Logged (log : FrameLog) (this : TelemetryTask P) : Prop where
  seqNum : this.seqNum = UInt32.ofNat log.length
  packetsSent : this.packetsSent = UInt32.ofNat (FrameLog.sent log).length
  samplesSent : this.samplesSent =
    UInt32.ofNat ((FrameLog.sent log).map Datagram.sampleCount).sum
  numbered : ∀ pre i d post, log = pre ++ (i, .sent d) :: post →
    d.seqNum = UInt32.ofNat (pre.length + 1)

/-- Nothing is built before the run. -/
theorem logged_start (service : TelemetryService P) (nodeId : UInt16) (now : UInt32) :
    Logged [] (start service nodeId now) :=
  ⟨rfl, rfl, rfl, fun pre i d post hlog => by simp at hlog⟩

theorem Logged.same (h : Logged log this) (hseq : this'.seqNum = this.seqNum)
    (hpackets : this'.packetsSent = this.packetsSent) (hsamples : this'.samplesSent = this.samplesSent) :
    Logged log this' where
  seqNum := hseq.trans h.seqNum
  packetsSent := hpackets.trans h.packetsSent
  samplesSent := hsamples.trans h.samplesSent
  numbered := h.numbered

theorem Logged.afterLost (h : Logged log this) (i n : Nat) (buf : BytePtr) :
    Logged (log ++ [(i, .lost)]) (this.afterFrame false n buf) := by
  have hsent : FrameLog.sent (log ++ [(i, .lost)]) = FrameLog.sent log := by
    rw [FrameLog.sent_append]
    exact List.append_nil _
  refine ⟨?_, ?_, ?_, fun pre j d post hlog => ?_⟩
  · show this.seqNum + 1 = _
    rw [h.seqNum, List.length_append, List.length_singleton, UInt32.ofNat_add]
    rfl
  · rw [hsent]
    exact h.packetsSent
  · rw [hsent]
    exact h.samplesSent
  · rcases Machine.split_snoc hlog with ⟨-, hlast, -⟩ | ⟨post', -, hlog'⟩
    · cases hlast
    · exact h.numbered pre j d post' hlog'

theorem Logged.afterSent (h : Logged log this) (i : Nat) (buf : BytePtr) {d : Datagram}
    (hseq : d.seqNum = this.seqNum + 1) :
    Logged (log ++ [(i, .sent d)]) (this.afterFrame true d.sampleCount buf) := by
  have hsent : FrameLog.sent (log ++ [(i, .sent d)]) = FrameLog.sent log ++ [d] :=
    FrameLog.sent_append _ _
  refine ⟨?_, ?_, ?_, fun pre j e post hlog => ?_⟩
  · show this.seqNum + 1 = _
    rw [h.seqNum, List.length_append, List.length_singleton, UInt32.ofNat_add]
    rfl
  · show this.packetsSent + 1 = _
    rw [h.packetsSent, hsent, List.length_append, List.length_singleton, UInt32.ofNat_add]
    rfl
  · show this.samplesSent + UInt32.ofNat d.sampleCount = _
    rw [h.samplesSent, hsent, List.map_append, List.sum_append, List.map_singleton, List.sum_singleton,
      UInt32.ofNat_add]
  · rcases Machine.split_snoc hlog with ⟨rfl, hlast, -⟩ | ⟨post', -, hlog'⟩
    · cases hlast
      rw [hseq, h.seqNum, UInt32.ofNat_add]
      rfl
    · exact h.numbered pre j e post' hlog'

end Counts

section Frames

variable {P : Type} [ITelemetryProducer P] {this this' : TelemetryTask P} {log events : FrameLog}

/-- The number in a frame. -/
theorem seqNum_streamFrame (this : TelemetryTask P) (tickCount : UInt32) (before after : P) (n : Nat)
    (samples : BytePtr) (destIp : UInt32) (destPort : UInt16) :
    (⟨destIp, destPort, (this.streamFrame tickCount before after n samples).toBytes⟩ : Datagram).seqNum =
      this.seqNum + 1 :=
  u32At_ofList_drop rfl

theorem sampleCount_streamFrame (this : TelemetryTask P) (tickCount : UInt32) (before after : P) {n : Nat}
    (samples : BytePtr) (destIp : UInt32) (destPort : UInt16) (hn : n ≤ 1436) :
    (⟨destIp, destPort, (this.streamFrame tickCount before after n samples).toBytes⟩ :
      Datagram).sampleCount = n := by
  have hword : u16At (BytePtr.ofList (this.streamFrame tickCount before after n samples).toBytes) 30 =
      UInt16.ofNat n := u16At_ofList_drop rfl
  unfold Datagram.sampleCount
  rw [hword, UInt16.toNat_ofNat']
  omega

theorem sampleAt_streamFrame (this : TelemetryTask P) (tickCount : UInt32) (before after : P) {n k : Nat}
    (samples : BytePtr) (destIp : UInt32) (destPort : UInt16)
    (hk : 4 * k + 4 ≤ n * getBytesPerSample before) :
    (⟨destIp, destPort, (this.streamFrame tickCount before after n samples).toBytes⟩ :
      Datagram).sampleAt k = u32At samples (4 * k) := by
  have hdrop : (this.streamFrame tickCount before after n samples).toBytes.drop 36 =
      bytesAt samples 0 (n * getBytesPerSample before) := rfl
  unfold Datagram.sampleAt
  rw [← u32At_advance, ← ofList_drop, hdrop, u32At_ofList_bytesAt samples hk, Nat.zero_add]

variable [LawfulTelemetryProducer P]

/-- One frame. -/
theorem logged_send (h : Logged log this) (i : Nat) (env : SendEnv) (ch : P) :
    Logged (log ++ (((this.sendChannelFrame env ch).1).map fun e => (i, e)).toList)
      (this.sendChannelFrame env ch).2.2 := by
  rcases sendChannelFrame_cases this env (LawfulTelemetryProducer.produceSamples_le · · ch) with
    ⟨after, buf, -, hnone⟩ | ⟨n, samples, after, buf, -, -, hbytes, hfits, hspec⟩
  · rw [hnone, Option.map_none, Option.toList_none, List.append_nil]
    exact h.same rfl rfl rfl
  · have hn : n ≤ 1436 := (Nat.le_mul_of_pos_right n (Nat.pos_of_ne_zero hbytes)).trans hfits
    rw [hspec]
    cases env.allocates with
    | false => exact h.afterLost i n buf
    | true =>
        have hlogged := h.afterSent i buf (seqNum_streamFrame this env.tickCount ch after n samples
          this.destIp this.destPort)
        rw [sampleCount_streamFrame this _ _ _ _ _ _ hn] at hlogged
        exact hlogged

theorem logged_turn (h : Logged log this) (pdMsToTicks : UInt32 → UInt32) (env : LoopEnv) (i : Nat) :
    Logged (log ++ (turn pdMsToTicks env this i).1) (turn pdMsToTicks env this i).2 := by
  rcases turn_cases pdMsToTicks env this i with hquiet | ⟨ch, -, -, hturn⟩
  · rwa [hquiet, List.append_nil]
  · rw [hturn]
    exact (logged_send h i (env.send i) ch).same rfl rfl rfl

theorem logged_turns (pdMsToTicks : UInt32 → UInt32) (env : LoopEnv) (places : List Nat) :
    ∀ {log : FrameLog} {this : TelemetryTask P}, Logged log this →
      Logged (log ++ (turns pdMsToTicks env this places).1) (turns pdMsToTicks env this places).2 := by
  induction places with
  | nil =>
      intro log this h
      exact (List.append_nil log).symm ▸ h
  | cons i places ih =>
      intro log this h
      have hrest := ih (logged_turn h pdMsToTicks env i)
      rwa [List.append_assoc] at hrest

theorem logged_iterate (h : Logged log this) (pdMsToTicks : UInt32 → UInt32) (env : LoopEnv) :
    Logged (log ++ (this.iterate pdMsToTicks env).1) (this.iterate pdMsToTicks env).2 := by
  unfold iterate
  split
  · rw [List.append_nil]
    exact h.same rfl rfl rfl
  · exact logged_turns pdMsToTicks env _ h

/-- One action. -/
theorem logged_step {pdMsToTicks : UInt32 → UInt32} {a : Action} (h : Logged log this)
    (hs : step pdMsToTicks this a = some (events, this')) : Logged (log ++ events) this' := by
  rcases step_cases hs with ⟨env, -, hiterate⟩ | ⟨rfl, hsame⟩
  · have hlogged := logged_iterate h pdMsToTicks env
    rwa [hiterate] at hlogged
  · rw [List.append_nil]
    exact h.same hsame.seqNum hsame.packetsSent hsame.samplesSent

/-- The log of a run. -/
def logOf (t : List (Action × List (Nat × FrameEvent))) : FrameLog := t.flatMap (·.2)

theorem logOf_snoc (t : List (Action × List (Nat × FrameEvent))) (a : Action)
    (events : List (Nat × FrameEvent)) : logOf (t ++ [(a, events)]) = logOf t ++ events := by
  unfold logOf
  rw [List.flatMap_append, List.flatMap_singleton]

/-- **The counts of a run.** -/
theorem logged_run {pdMsToTicks : UInt32 → UInt32} {t : List (Action × List (Nat × FrameEvent))}
    (h₀ : Logged [] this) (h : Machine.Run (step pdMsToTicks) this t this') : Logged (logOf t) this' := by
  induction h with
  | nil => exact h₀
  | snoc _ hs ih =>
      rw [logOf_snoc]
      exact logged_step ih hs

end Frames

/-! ## The samples of a counter -/

section Counter

variable {D : Type} [ITelemetryProducer D] {this this' : TelemetryTask (AmongOthers D)}
  {log events : FrameLog} {i : Nat}

/-- Where the counter at a place stands. -/
def counterAt (this : TelemetryTask (AmongOthers D)) (i : Nat) : Option UInt32 :=
  this.channels[i]?.bind AmongOthers.counter?

/-- Setters leave the counter. -/
theorem counter?_reconfigured {ch ch' : AmongOthers D} (h : Reconfigured ch ch') :
    ch'.counter? = ch.counter? := by
  induction h with
  | refl => rfl
  | @setEnabled ch' b _ ih => cases ch' <;> exact ih
  | @setSampleRateHz ch' rateHz _ ih => cases ch' <;> exact ih
  | @setBatchCount ch' batch _ ih => cases ch' <;> exact ih

theorem counterAt_reconfigures (h : Reconfigures this this') (i : Nat) :
    this'.counterAt i = this.counterAt i := by
  have hall : ∀ (chs chs' : List (AmongOthers D)), List.Forall₂ Reconfigured chs chs' →
      ∀ i : Nat, chs'[i]?.bind AmongOthers.counter? = chs[i]?.bind AmongOthers.counter? := by
    intro chs chs' hchs
    induction hchs with
    | nil => exact fun _ => rfl
    | cons hch _ ih =>
        intro i
        cases i with
        | zero => exact counter?_reconfigured hch
        | succ i => exact ih i
  exact hall _ _ h.channels i

/-- What a frame of the counter comes to: it has the samples from where the counter stood, and the counter
goes on by as many whether the frame is sent or not. -/
theorem counter_send (this : TelemetryTask (AmongOthers D)) (env : SendEnv) (ch : CounterProducer) :
    (this.sendChannelFrame env (.counter ch)).2.1 = .counter { ch with
        counter := ch.counter + UInt32.ofNat (samplesToSend (getBatchCount ch) 4).toNat } ∧
      if env.allocates then
        ∃ d, (this.sendChannelFrame env (.counter ch)).1 = some (.sent d) ∧ d.CountsFrom ch.counter ∧
          d.sampleCount = (samplesToSend (getBatchCount ch) 4).toNat
      else (this.sendChannelFrame env (.counter ch)).1 = some .lost := by
  have hasked := samplesToSend_ne_zero (getBatchCount ch) (show 0 < 4 by decide) (by decide)
  have hproduce : produceSamples (this.txFrameBuf.advance 36)
      (samplesToSend (getBatchCount ch) 4).toNat (AmongOthers.counter (D := D) ch) =
        ((samplesToSend (getBatchCount ch) 4).toNat, (this.txFrameBuf.advance 36).write 0
          (wordsLe (CounterProducer.count ch.counter (samplesToSend (getBatchCount ch) 4).toNat).1),
          .counter { ch with
            counter := ch.counter + UInt32.ofNat (samplesToSend (getBatchCount ch) 4).toNat }) :=
    congrArg (fun r => (r.1, r.2.1, AmongOthers.counter r.2.2))
      (CounterProducer.produceSamples_eq (this.txFrameBuf.advance 36) hasked ch)
  have hle : ∀ buffer n, (produceSamples buffer n (AmongOthers.counter (D := D) ch)).1 ≤ n :=
    fun buffer n => LawfulTelemetryProducer.produceSamples_le buffer n ch
  rcases sendChannelFrame_cases this env hle with
    ⟨after, buf, hnone | ⟨samples, hnone⟩, -⟩ | ⟨n, samples, after, buf, hsome, -, -, hfits, hspec⟩
  · exact absurd hnone (by decide : ¬ (4 : Nat) = 0)
  · have hboth := hproduce.symm.trans hnone
    exact absurd (Prod.mk.inj hboth).1 hasked
  · have hboth := hproduce.symm.trans hsome
    simp only [Prod.mk.injEq] at hboth
    obtain ⟨hn, rfl, rfl⟩ := hboth
    rw [hspec]
    refine ⟨rfl, ?_⟩
    cases env.allocates with
    | false => rfl
    | true =>
        have hfits' : n * 4 ≤ 1436 := hfits
        have hcount := sampleCount_streamFrame this env.tickCount (AmongOthers.counter (D := D) ch)
          (.counter { ch with counter := ch.counter + UInt32.ofNat n }) ((this.txFrameBuf.advance 36).write 0
            (wordsLe (CounterProducer.count ch.counter n).1)) this.destIp this.destPort
          (show n ≤ 1436 by omega)
        rw [hn]
        refine ⟨_, rfl, fun k hk => ?_, hcount⟩
        have hroom : 4 * k + 4 ≤ n * 4 := by omega
        rw [sampleAt_streamFrame this _ _ _ _ _ _ hroom]
        exact u32At_write_words _ (CounterProducer.getElem?_count ch.counter (by omega))

/-- The counter at place `i`, by the log: between two of its frames that follow each other it goes on without
a gap, and it stands where the last one has left it. -/
structure Continued (i : Nat) (log : FrameLog) (this : TelemetryTask (AmongOthers D)) : Prop where
  counter : ∃ c, this.counterAt i = some c
  last : ∀ pre d mid, log = pre ++ (i, .sent d) :: mid → (∀ x ∈ mid, x.1 ≠ i) →
    ∃ first, d.CountsFrom first ∧ this.counterAt i = some (first + UInt32.ofNat d.sampleCount)
  next : ∀ pre d mid d' post, log = pre ++ (i, .sent d) :: (mid ++ (i, .sent d') :: post) →
    (∀ x ∈ mid, x.1 ≠ i) →
      ∃ first, d.CountsFrom first ∧ d'.CountsFrom (first + UInt32.ofNat d.sampleCount)

omit [ITelemetryProducer D] in
theorem Continued.same (h : Continued i log this) (hsame : this'.counterAt i = this.counterAt i) :
    Continued i log this' := by
  obtain ⟨hcounter, hlast, hnext⟩ := h
  rw [← hsame] at hcounter
  exact ⟨hcounter, fun pre d mid hlog hmid => hsame ▸ hlast pre d mid hlog hmid, hnext⟩

omit [ITelemetryProducer D] in
/-- An entry that is not a frame sent for place `i` ends no pair of frames. -/
theorem Continued.next_snoc (h : Continued i log this) {x : Nat × FrameEvent}
    (hx : ∀ d, x ≠ (i, .sent d)) (pre : FrameLog) (d : Datagram) (mid : FrameLog) (d' : Datagram)
    (post : FrameLog) (hlog : log ++ [x] = pre ++ (i, .sent d) :: (mid ++ (i, .sent d') :: post))
    (hmid : ∀ x ∈ mid, x.1 ≠ i) :
    ∃ first, d.CountsFrom first ∧ d'.CountsFrom (first + UInt32.ofNat d.sampleCount) := by
  rw [← List.cons_append, ← List.append_assoc] at hlog
  rcases Machine.split_snoc hlog with ⟨-, hlast, -⟩ | ⟨post', -, hlog'⟩
  · exact absurd hlast.symm (hx d')
  · rw [List.append_assoc, List.cons_append] at hlog'
    exact h.next pre d mid d' post' hlog' hmid

omit [ITelemetryProducer D] in
/-- A frame of another place. -/
theorem Continued.other (h : Continued i log this) {j : Nat} (hj : j ≠ i) (e : FrameEvent)
    (hsame : this'.counterAt i = this.counterAt i) : Continued i (log ++ [(j, e)]) this' := by
  refine ⟨hsame ▸ h.counter, fun pre d mid hlog hmid => ?_,
    h.next_snoc fun d hd => hj (Prod.mk.inj hd).1⟩
  rw [hsame]
  rcases Machine.split_snoc hlog with ⟨-, hlast, -⟩ | ⟨mid', rfl, hlog'⟩
  · exact absurd (Prod.mk.inj hlast).1.symm hj
  · exact h.last pre d mid' hlog' fun x hx => hmid x (List.mem_append_left _ hx)

omit [ITelemetryProducer D] in
/-- A frame of place `i` that is lost. -/
theorem Continued.lost (h : Continued i log this) {c : UInt32} (hc : this'.counterAt i = some c) :
    Continued i (log ++ [(i, .lost)]) this' := by
  refine ⟨⟨c, hc⟩, fun pre d mid hlog hmid => ?_, h.next_snoc fun d hd => by cases hd⟩
  rcases Machine.split_snoc hlog with ⟨-, hlast, -⟩ | ⟨mid', rfl, hlog'⟩
  · cases hlast
  · exact absurd rfl (hmid (i, .lost) (by simp))

omit [ITelemetryProducer D] in
/-- A frame of place `i` that is sent. -/
theorem Continued.sent (h : Continued i log this) {c : UInt32} {d : Datagram}
    (hc : this.counterAt i = some c) (hd : d.CountsFrom c)
    (hc' : this'.counterAt i = some (c + UInt32.ofNat d.sampleCount)) :
    Continued i (log ++ [(i, .sent d)]) this' := by
  refine ⟨⟨_, hc'⟩, fun pre e mid hlog hmid => ?_, fun pre e mid d' post hlog hmid => ?_⟩
  · rcases Machine.split_snoc hlog with ⟨-, hlast, -⟩ | ⟨mid', rfl, -⟩
    · cases hlast
      exact ⟨c, hd, hc'⟩
    · exact absurd rfl (hmid (i, .sent d) (by simp))
  · rw [← List.cons_append, ← List.append_assoc] at hlog
    rcases Machine.split_snoc hlog with ⟨hlog', hlast, -⟩ | ⟨post', -, hlog'⟩
    · cases hlast
      obtain ⟨first, hfirst, hstands⟩ := h.last pre e mid hlog'.symm hmid
      rw [hc] at hstands
      exact ⟨first, hfirst, Option.some.inj hstands ▸ hd⟩
    · rw [List.append_assoc, List.cons_append] at hlog'
      exact h.next pre e mid d' post' hlog' hmid

variable [LawfulTelemetryProducer D]

/-- A frame leaves the registry. -/
theorem service_send (this : TelemetryTask (AmongOthers D)) (env : SendEnv) (ch : AmongOthers D) :
    (this.sendChannelFrame env ch).2.2.toTelemetryService = this.toTelemetryService := by
  rcases sendChannelFrame_cases this env (LawfulTelemetryProducer.produceSamples_le · · ch) with
    ⟨after, buf, -, hnone⟩ | ⟨n, samples, after, buf, -, -, -, -, hspec⟩
  · rw [hnone]
  · rw [hspec]
    cases env.allocates with
    | true => rfl
    | false => rfl

omit [ITelemetryProducer D] [LawfulTelemetryProducer D] in
theorem counterAt_set {j : Nat} {ch new : AmongOthers D} (hch : this.channels[j]? = some ch)
    (hnew : this'.channels = this.channels.set j new) (i : Nat) :
    this'.counterAt i = if j = i then new.counter? else this.counterAt i := by
  unfold counterAt
  rw [hnew]
  by_cases hj : j = i
  · subst hj
    have hlt : j < this.channels.length := (List.getElem?_eq_some_iff.1 hch).1
    rw [List.getElem?_set_self hlt, if_pos rfl]
    rfl
  · rw [List.getElem?_set_ne hj, if_neg hj]

theorem continued_turn (h : Continued i log this) (pdMsToTicks : UInt32 → UInt32) (env : LoopEnv)
    (j : Nat) :
    Continued i (log ++ (turn pdMsToTicks env this j).1) (turn pdMsToTicks env this j).2 := by
  rcases turn_cases pdMsToTicks env this j with hquiet | ⟨ch, hch, -, hturn⟩
  · rwa [hquiet, List.append_nil]
  rw [hturn]
  have hchannels := congrArg TelemetryService.channels (service_send this (env.send j) ch)
  generalize hsend : this.sendChannelFrame (env.send j) ch = r at hchannels
  have hnew : ({ r.2.2.setChannel j r.2.1 with
      lastWakeTick := Function.update r.2.2.lastWakeTick j env.now } :
        TelemetryTask (AmongOthers D)).channels = this.channels.set j r.2.1 := by
    rw [← hchannels]
    rfl
  have hset := counterAt_set hch hnew i
  by_cases hj : j = i
  · subst hj
    obtain ⟨c, hc⟩ := h.counter
    have hcounter : ch.counter? = some c := by
      unfold counterAt at hc
      rwa [hch] at hc
    cases ch with
    | other ch => cases hcounter
    | counter ch =>
        cases hcounter
        obtain ⟨hafter, hevent⟩ := counter_send this (env.send j) ch
        rw [hsend] at hafter hevent
        have hstands := congrArg AmongOthers.counter? hafter
        rw [if_pos rfl, hstands] at hset
        cases hallocates : (env.send j).allocates with
        | false =>
            rw [hallocates, if_neg Bool.false_ne_true] at hevent
            rw [hevent]
            exact h.lost hset
        | true =>
            rw [hallocates, if_pos rfl] at hevent
            obtain ⟨d, hsent, hfirst, hcount⟩ := hevent
            rw [hsent]
            refine h.sent hc hfirst ?_
            rw [hcount]
            exact hset
  · rw [if_neg hj] at hset
    cases r.1 with
    | none =>
        rw [Option.map_none, Option.toList_none, List.append_nil]
        exact h.same hset
    | some e => exact h.other hj e hset

theorem continued_turns (pdMsToTicks : UInt32 → UInt32) (env : LoopEnv) (places : List Nat) :
    ∀ {log : FrameLog} {this : TelemetryTask (AmongOthers D)}, Continued i log this →
      Continued i (log ++ (turns pdMsToTicks env this places).1)
        (turns pdMsToTicks env this places).2 := by
  induction places with
  | nil =>
      intro log this h
      exact (List.append_nil log).symm ▸ h
  | cons j places ih =>
      intro log this h
      have hrest := ih (continued_turn h pdMsToTicks env j)
      rwa [List.append_assoc] at hrest

/-- One action. -/
theorem continued_step {pdMsToTicks : UInt32 → UInt32} {a : Action} (h : Continued i log this)
    (hs : step pdMsToTicks this a = some (events, this')) : Continued i (log ++ events) this' := by
  rcases step_cases hs with ⟨env, -, hiterate⟩ | ⟨rfl, hsetters⟩
  · unfold iterate at hiterate
    split at hiterate
    · cases hiterate
      rw [List.append_nil]
      exact h.same rfl
    · have hturns := continued_turns pdMsToTicks env (List.range this.channels.length) h
      rwa [hiterate] at hturns
  · rw [List.append_nil]
    exact h.same (counterAt_reconfigures hsetters i)

/-- **The counter in a run.** -/
theorem continued_run {pdMsToTicks : UInt32 → UInt32} {t : List (Action × List (Nat × FrameEvent))}
    (h₀ : Continued i [] this) (h : Machine.Run (step pdMsToTicks) this t this') :
    Continued i (logOf t) this' := by
  induction h with
  | nil => exact h₀
  | snoc _ hs ih =>
      rw [logOf_snoc]
      exact continued_step ih hs

end Counter

/-! ## Loss that does not show -/

/-- Numbers that count by one. -/
theorem last_of_isChain {x y : UInt32} {l : List UInt32}
    (h : (x :: (l ++ [y])).IsChain fun a b => b = a + 1) : y = x + UInt32.ofNat (l.length + 1) := by
  induction l generalizing x with
  | nil =>
      rw [List.nil_append, List.isChain_cons_cons] at h
      exact h.1
  | cons z l ih =>
      rw [List.cons_append, List.isChain_cons_cons] at h
      rw [ih h.2, h.1, CounterProducer.add_one_add]
      rfl

/-- Between two frames with consecutive numbers all the way nothing is lost, or 2^32 frames are. -/
theorem lost_eq_zero {log pre mid post : FrameLog} {i j : Nat} {d d' : Datagram}
    (hnumbered : ∀ pre i d post, log = pre ++ (i, .sent d) :: post →
      d.seqNum = UInt32.ofNat (pre.length + 1))
    (hlog : log = pre ++ (i, .sent d) :: (mid ++ (j, .sent d') :: post))
    (hchain : ((d :: (FrameLog.sent mid ++ [d'])).map Datagram.seqNum).IsChain fun a b => b = a + 1)
    (hfew : FrameLog.lost mid < 2 ^ 32) : FrameLog.lost mid = 0 := by
  have hfirst := hnumbered _ _ _ _ hlog
  have hlog' : log = (pre ++ (i, .sent d) :: mid) ++ (j, .sent d') :: post := by
    rw [hlog, List.append_assoc, List.cons_append]
  have hsecond := hnumbered _ _ _ _ hlog'
  rw [List.map_cons, List.map_append, List.map_singleton] at hchain
  have hlast := last_of_isChain hchain
  rw [hfirst, hsecond, List.length_map, ← UInt32.ofNat_add, ← UInt32.toNat_inj, UInt32.toNat_ofNat',
    UInt32.toNat_ofNat', List.length_append, List.length_cons] at hlast
  have hlen := FrameLog.length_eq mid
  omega

/-- **No silent loss.**  In every run of the loop over any channels that keep to their interface, the frame
built `k`-th has the number `k`; the statistics are those of the frames that were sent; and two frames of a
counter that follow each other, with consecutive numbers between them and less than 2^32 frames lost, carry
samples without a gap. -/
theorem noSilentLoss {D : Type} [ITelemetryProducer D] [LawfulTelemetryProducer D]
    {pdMsToTicks : UInt32 → UInt32} {service : TelemetryService (AmongOthers D)} {nodeId : UInt16}
    {now : UInt32} {t : List (Action × List (Nat × FrameEvent))} {s : TelemetryTask (AmongOthers D)}
    (h : Machine.Run (step pdMsToTicks) (start service nodeId now) t s) :
    (∀ pre i d post, logOf t = pre ++ (i, .sent d) :: post →
      d.seqNum = UInt32.ofNat (pre.length + 1)) ∧
    s.packetsSent = UInt32.ofNat (FrameLog.sent (logOf t)).length ∧
    s.samplesSent = UInt32.ofNat ((FrameLog.sent (logOf t)).map Datagram.sampleCount).sum ∧
    ∀ i ch, service.channels[i]? = some (.counter ch) → ∀ pre d mid d' post,
      logOf t = pre ++ (i, .sent d) :: (mid ++ (i, .sent d') :: post) → (∀ e, (i, .sent e) ∉ mid) →
      ((d :: (FrameLog.sent mid ++ [d'])).map Datagram.seqNum).IsChain (fun a b => b = a + 1) →
      FrameLog.lost mid < 2 ^ 32 →
        ∃ first, d.CountsFrom first ∧ d'.CountsFrom (first + UInt32.ofNat d.sampleCount) := by
  obtain ⟨-, hpackets, hsamples, hnumbered⟩ := logged_run (logged_start service nodeId now) h
  refine ⟨hnumbered, hpackets, hsamples, fun i ch hch pre d mid d' post hlog hnext hchain hfew => ?_⟩
  have hcounter : (start service nodeId now).counterAt i = some ch.counter := by
    unfold counterAt
    rw [show (start service nodeId now).channels[i]? = some (.counter ch) from hch]
    rfl
  have hrun := continued_run (i := i) ⟨⟨_, hcounter⟩, fun pre d mid hlog => by simp at hlog,
    fun pre d mid d' post hlog => by simp at hlog⟩ h
  refine hrun.next pre d mid d' post hlog fun x hx hxi => ?_
  -- what stands between the two for this place was neither sent nor lost
  have hnone := lost_eq_zero hnumbered hlog hchain hfew
  obtain ⟨j, e⟩ := x
  cases hxi
  cases e with
  | sent e => exact hnext e hx
  | lost =>
      have hlost := List.countP_eq_zero.1 hnone (j, .lost) hx
      simp at hlost

/-! ### A counter alone -/

/-- A registry of one counter. -/
def soleCounter : TelemetryService (AmongOthers StressTestProducer) where
  channels := [.counter (CounterProducer.create 10 1)]
  channels_le := by decide
  isStreaming := false
  destIp := 0
  destPort := 0

/-- A counter that streams, alone. -/
structure Sole (this : TelemetryTask (AmongOthers StressTestProducer)) (ch : CounterProducer) : Prop where
  channels : this.channels = [.counter ch]
  enabled : ch.enabled = true
  isStreaming : this.isStreaming = true

variable {this : TelemetryTask (AmongOthers StressTestProducer)} {ch : CounterProducer}

/-- A turn in which the counter is due. -/
def dueTurn (this : TelemetryTask (AmongOthers StressTestProducer)) (allocates : Bool) : LoopEnv :=
  ⟨true, this.lastWakeTick 0 + 1, fun _ => ⟨0, allocates⟩⟩

/-- A turn of the loop is the turn of the only place. -/
theorem Sole.iterate_eq (h : Sole this ch) (allocates : Bool) :
    this.iterate (fun _ => 1) (dueTurn this allocates) =
      TelemetryTask.turn (fun _ => 1) (dueTurn this allocates) this 0 := by
  have hbusy : ¬ (this.isStreaming = false ∨ (dueTurn this allocates).ready = false ∨
      this.channels.length = 0) := by
    rw [h.isStreaming, h.channels]
    rintro (hoff | hoff | hoff)
    · cases hoff
    · cases hoff
    · cases hoff
  unfold iterate
  rw [if_neg hbusy, h.channels]
  exact Prod.ext (List.append_nil _) rfl

/-- There the counter is due. -/
theorem Sole.due (this : TelemetryTask (AmongOthers StressTestProducer)) (allocates : Bool) :
    (1 : UInt32) ≤ (dueTurn this allocates).now - this.lastWakeTick 0 := by
  show 1 ≤ this.lastWakeTick 0 + 1 - this.lastWakeTick 0
  rw [UInt32.add_comm, UInt32.add_sub_cancel]
  exact UInt32.le_refl 1

/-- What such a turn comes to. -/
theorem Sole.turn (h : Sole this ch) (allocates : Bool) :
    ∃ e this', step (fun _ => 1) this (.iterate (dueTurn this allocates)) = some ([(0, e)], this') ∧
      Sole this' { ch with
        counter := ch.counter + UInt32.ofNat (samplesToSend ch.batchCount 4).toNat } ∧
      if allocates then
        ∃ d, e = .sent d ∧ d.CountsFrom ch.counter ∧
          d.sampleCount = (samplesToSend ch.batchCount 4).toNat
      else e = .lost := by
  obtain ⟨hafter, hevent⟩ := counter_send this ⟨0, allocates⟩ ch
  have hservice := service_send this ⟨0, allocates⟩ (.counter ch)
  have hplace : this.channels[0]? = some (.counter ch) := by
    rw [h.channels]
    rfl
  have hturn := turn_due (fun _ => 1) hplace h.enabled (UInt32.le_refl 1) (Sole.due this allocates)
  have hsend : (dueTurn this allocates).send 0 = ⟨0, allocates⟩ := rfl
  obtain ⟨e, he, hwhat⟩ : ∃ e, (this.sendChannelFrame ⟨0, allocates⟩ (.counter ch)).1 = some e ∧
      if allocates then
        ∃ d, e = .sent d ∧ d.CountsFrom ch.counter ∧
          d.sampleCount = (samplesToSend ch.batchCount 4).toNat
      else e = .lost := by
    cases allocates with
    | true =>
        obtain ⟨d, hsent, hrest⟩ := hevent
        exact ⟨.sent d, hsent, d, rfl, hrest⟩
    | false => exact ⟨.lost, hevent, rfl⟩
  rw [hsend, ← h.iterate_eq allocates] at hturn
  -- what the frame comes to is all that is used of it
  generalize this.sendChannelFrame ⟨0, allocates⟩ (.counter ch) = frame at hafter hservice he hturn
  refine ⟨e, _, congrArg some (hturn.trans (Prod.ext ?_ rfl)), ⟨?_, h.enabled, ?_⟩, hwhat⟩
  · show (frame.1.map fun e => (0, e)).toList = _
    rw [he]
    rfl
  · show frame.2.2.channels.set 0 frame.2.1 = _
    rw [hservice, hafter, h.channels]
    rfl
  · show frame.2.2.isStreaming = true
    rw [hservice]
    exact h.isStreaming

/-- Any number of turns in which the frame is lost. -/
theorem Sole.losses (h : Sole this ch) (hbatch : ch.batchCount = 1) (n : Nat) :
    ∃ t this', Machine.Run (step fun _ => 1) this t this' ∧ logOf t = List.replicate n (0, .lost) ∧
      Sole this' { ch with counter := ch.counter + UInt32.ofNat n } := by
  induction n with
  | zero =>
      refine ⟨[], this, .nil, rfl, ?_⟩
      have hsame : ch.counter + UInt32.ofNat 0 = ch.counter := UInt32.add_zero _
      rw [hsame]
      exact h
  | succ n ih =>
      obtain ⟨t, this', hrun, hlog, hsole⟩ := ih
      obtain ⟨e, this'', hstep, hsole', he⟩ := hsole.turn false
      have hlost : e = .lost := he
      refine ⟨t ++ [(.iterate (dueTurn this' false), [(0, e)])], this'', hrun.snoc hstep, ?_, ?_⟩
      · rw [logOf_snoc, hlog, hlost, List.replicate_succ']
      · have hasked : (samplesToSend ch.batchCount 4).toNat = 1 := by
          rw [hbatch]
          decide
        simp only [hasked, UInt32.add_assoc, ← UInt32.ofNat_add] at hsole'
        exact hsole'

/-- Two frames of the counter, one after the other. -/
theorem noSilentLoss_twoFrames :
    ∃ t s d d', Machine.Run (step fun _ => 1) (start soleCounter 1 0) t s ∧
      logOf t = [(0, .sent d), (0, .sent d')] ∧
      ∃ first, d.CountsFrom first ∧ d'.CountsFrom (first + UInt32.ofNat d.sampleCount) := by
  obtain ⟨s₁, hstart, hsole₁⟩ : ∃ s₁, step (fun _ => 1) (start soleCounter 1 0)
      (.startStreaming 0 0 STREAM_TAG_COUNTER 10 0) = some ([], s₁) ∧ Sole s₁ ⟨⟨10, 1, true⟩, 0⟩ :=
    ⟨_, rfl, rfl, rfl, rfl⟩
  obtain ⟨e₁, s₂, hsend, hsole₂, d, rfl, -⟩ := hsole₁.turn true
  obtain ⟨e₂, s₃, hagain, -, d', rfl, -⟩ := hsole₂.turn true
  obtain ⟨t, hrun, hlog⟩ : ∃ t, Machine.Run (step fun _ => 1) (start soleCounter 1 0) t s₃ ∧
      logOf t = [] ++ (0, .sent d) :: ([] ++ (0, .sent d') :: []) :=
    ⟨_, .cons hstart (.cons hsend (.single hagain)), rfl⟩
  have hnumbered := (logged_run (logged_start soleCounter 1 0) hrun).numbered
  refine ⟨t, s₃, d, d', hrun, hlog, (noSilentLoss hrun).2.2.2 0 (CounterProducer.create 10 1) rfl
    [] d [] d' [] hlog (fun e he => by cases he) ?_ (by decide)⟩
  have hnumber : d.seqNum = UInt32.ofNat 1 := hnumbered [] 0 d _ hlog
  have hnumber' : d'.seqNum = UInt32.ofNat 2 := hnumbered [(0, .sent d)] 0 d' [] hlog
  show [d.seqNum, d'.seqNum].IsChain _
  rw [hnumber, hnumber']
  decide

theorem sent_replicate_lost (n : Nat) : FrameLog.sent (List.replicate n (0, .lost)) = [] := by
  induction n with
  | zero => rfl
  | succ n ih => exact ih

/-- A run that sends two samples, loses two and then single ones, `2 ^ 32` frames in all, and sends the next. -/
theorem silent_run :
    ∃ t s d d' n, Machine.Run (step fun _ => 1) (start soleCounter 1 0) t s ∧ n = 2 ^ 32 ∧
      logOf t = (0, .sent d) :: (List.replicate n (0, .lost) ++ [(0, .sent d')]) ∧
      d.sampleCount = 2 ∧ d.CountsFrom 0 ∧ d'.sampleCount = 1 ∧ d'.CountsFrom 3 := by
  obtain ⟨n, hn⟩ : ∃ n, n = 2 ^ 32 - 1 := ⟨_, rfl⟩
  have htwo : (samplesToSend 2 4).toNat = 2 := by decide
  obtain ⟨s₁, hstart, hsole₁⟩ : ∃ s₁, step (fun _ => 1) (start soleCounter 1 0)
      (.startStreaming 0 0 STREAM_TAG_COUNTER 200 2) = some ([], s₁) ∧ Sole s₁ ⟨⟨200, 2, true⟩, 0⟩ :=
    ⟨_, rfl, rfl, rfl, rfl⟩
  obtain ⟨e₁, s₂, hsend, hsole₂, d, rfl, hfirst, hcount⟩ := hsole₁.turn true
  obtain ⟨e₂, s₃, hlose, hsole₃, he₂⟩ := hsole₂.turn false
  have hlost : e₂ = .lost := he₂
  subst hlost
  obtain ⟨s₄, hbatch, hsole₄⟩ : ∃ s₄, step (fun _ => 1) s₃ (.setBatchCount 0 1) = some ([], s₄) ∧
      Sole s₄ ⟨⟨200, 1, true⟩, 4⟩ := by
    have hplace : s₃.atPlace 0 (ITelemetryChannel.setBatchCount 1) =
        s₃.setChannel 0 (.counter ⟨⟨200, 1, true⟩, 4⟩) := by
      unfold atPlace
      rw [hsole₃.channels, htwo]
      rfl
    refine ⟨_, congrArg (fun s => some ([], s)) hplace, ?_, rfl, hsole₃.isStreaming⟩
    show s₃.channels.set 0 _ = _
    rw [hsole₃.channels]
    rfl
  obtain ⟨t, s₅, hlosses, hlog, hsole₅⟩ := hsole₄.losses rfl n
  obtain ⟨e₃, s₆, hagain, hsole₆, d', rfl, hfirst', hcount'⟩ := hsole₅.turn true
  have hwrap : (4 + UInt32.ofNat n : UInt32) = 3 := by
    rw [hn]
    decide
  refine ⟨_, s₆, d, d', n + 1,
    (Machine.Run.cons hstart (.cons hsend (.cons hlose (.cons hbatch hlosses)))).snoc hagain, by omega, ?_,
    hcount, hfirst, hcount', hwrap ▸ hfirst'⟩
  rw [logOf_snoc]
  show ([] ++ ([(0, .sent d)] ++ ([(0, .lost)] ++ ([] ++ logOf t)))) ++ [(0, .sent d')] = _
  rw [hlog]
  rfl

/-- Where `2 ^ 32` frames are lost, not all of as many samples, the next number is consecutive and the next
sample is not. -/
theorem silentLoss :
    ¬ ∀ (pdMsToTicks : UInt32 → UInt32) (service : TelemetryService (AmongOthers StressTestProducer))
      (nodeId : UInt16) (now : UInt32) (t : List (Action × List (Nat × FrameEvent)))
      (s : TelemetryTask (AmongOthers StressTestProducer)),
      Machine.Run (step pdMsToTicks) (start service nodeId now) t s →
      ∀ i ch, service.channels[i]? = some (.counter ch) → ∀ pre d mid d' post,
        logOf t = pre ++ (i, .sent d) :: (mid ++ (i, .sent d') :: post) →
        (∀ e, (i, .sent e) ∉ mid) →
        ((d :: (FrameLog.sent mid ++ [d'])).map Datagram.seqNum).IsChain (fun a b => b = a + 1) →
          ∃ first, d.CountsFrom first ∧ d'.CountsFrom (first + UInt32.ofNat d.sampleCount) := by
  intro h
  obtain ⟨t, s, d, d', n, hrun, hn, hlog, hcount, hfirst, hcount', hfirst'⟩ := silent_run
  have hnumbered := (logged_run (logged_start soleCounter 1 0) hrun).numbered
  have hnumber : d.seqNum = UInt32.ofNat 1 := hnumbered [] 0 d _ hlog
  have hnumber' : d'.seqNum = UInt32.ofNat (n + 2) := by
    have hsplit : logOf t = ((0, .sent d) :: List.replicate n (0, .lost)) ++ (0, .sent d') :: [] := hlog
    have hlast := hnumbered _ 0 d' [] hsplit
    rwa [List.length_cons, List.length_replicate] at hlast
  obtain ⟨first, hd, hd'⟩ := h (fun _ => 1) soleCounter 1 0 t s hrun 0 (CounterProducer.create 10 1) rfl
    [] d (List.replicate n (0, .lost)) d' [] hlog (fun e he => by
      have hlost := List.eq_of_mem_replicate he
      cases hlost) (by
      rw [sent_replicate_lost]
      show [d.seqNum, d'.seqNum].IsChain _
      rw [hnumber, hnumber', hn]
      decide)
  have hzero := (hd 0 (by omega)).symm.trans (hfirst 0 (by omega))
  have hthree := (hd' 0 (by omega)).symm.trans (hfirst' 0 (by omega))
  have hzero' : first = 0 := (UInt32.add_left_inj _).1 hzero
  rw [hzero', hcount] at hthree
  exact absurd hthree (by decide)

end TelemetryTask

end EmbeddedPixel
