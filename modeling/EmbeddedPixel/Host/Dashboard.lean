import Mathlib
import EmbeddedPixel.Host.TelemetryViews

/-!
# The dashboard (`scripts/telemetry_views.py`, `run_stream_dashboard`)

The loop takes one datagram after the other, counts the packets of each stream, keeps the last value, writes a
row of the CSV file and now and then renders the line of the terminal.  `StreamReceivers.runStreamDashboard` is
what it reads out of one datagram.  `formats` says for which times `datetime.fromtimestamp` has a date; it has
none after the year 9999.

`dashboard_run`: what has been counted and written after any datagrams, and what alone ends the loop.
`sent_frames_shown`: a row for each frame of a node that arrives, with what the node put into it.
-/

set_option autoImplicit false

namespace EmbeddedPixel.TelemetryViews

open Foundation StreamReceivers ITelemetryChannel ITelemetryProducer TelemetryTask

/-- A row of the CSV file, the time of the host apart. -/
structure CsvRow where
  nodeUtcUs : Nat
  streamTag : List Char
  value : PyValue
  rateHz : Nat
  seqNum : Nat
  deriving DecidableEq, Repr

/-- What the line of the terminal says of a stream: its last value and the packets counted. -/
structure StatusPart where
  tag : List Char
  value : Option StreamValue
  rateHz : Int
  pkts : Nat
  deriving DecidableEq, Repr

/-- `d[key] = value` -/
def dictSet {α : Type} (d : List (List Char × α)) (key : List Char) (value : α) : List (List Char × α) :=
  if d.any (·.1 = key) then d.map fun e => if e.1 = key then (key, value) else e else d ++ [(key, value)]

/-- `if value` -/
def Json.truthy : Json → Bool
  | null => false
  | bool b => b
  | int n => n != 0
  | float x => x != 0
  | str s => !s.isEmpty
  | list l => !l.isEmpty
  | dict d => !d.isEmpty

namespace ViewConfig

variable (view : ViewConfig)

/-- `active_tags` -/
def activeTags : List (List Char × StreamConfig) :=
  (view.streams.filter (·.enabled)).foldl (fun d s => dictSet d s.tag s) []

/-- The tags that are shown. -/
def shownTags : List (List Char) := view.activeTags.map (·.1)

/-- `view.export.get("save_csv", False)` -/
def saveCsv : Bool := ((view.export.lookup "save_csv").getD (.bool false)).truthy

/-- `view.layout.get("refresh_rate_ms", 100) / 1000.0`; `none` is an exception. -/
def refresh : Option Float :=
  match (view.layout.lookup "refresh_rate_ms").getD (.int 100) with
  -- from there on there is no such float
  | .int n => if n.natAbs < (2 ^ 54 - 1) * 2 ^ 970 then some (Float.ofInt n / 1000) else none
  | .float x => some (x / 1000)
  | .bool b => some ((if b then 1 else 0) / 1000)
  | _ => none

end ViewConfig

/-- The locals of the loop, the CSV file and the line of the terminal. -/
structure Dashboard where
  packetCounts : List Char → Nat
  lastValues : List Char → Option StreamValue
  lastTime : Float
  csv : List CsvRow
  line : List StatusPart

namespace Dashboard

/-- The row of a packet; without a number the value is 0. -/
def rowOf (r : StreamReading) : CsvRow where
  nodeUtcUs := r.fields.tsUs
  streamTag := r.tag
  value := match r.value with
    | .number v => v
    | _ => .int 0
  rateHz := r.fields.rateHz
  seqNum := r.fields.seqNum

/-- Before the loop. -/
def start (now : Float) : Dashboard := ⟨fun _ => 0, fun _ => none, now, [], []⟩

variable (formats : Nat → Bool) (view : ViewConfig)

/-- `status_parts` -/
def status (s : Dashboard) : List StatusPart :=
  view.activeTags.map fun e => ⟨e.1, s.lastValues e.1, e.2.rateHz, s.packetCounts e.1⟩

/-- A packet is counted, kept and written. -/
def count (s : Dashboard) (r : StreamReading) : Dashboard :=
  { s with
    packetCounts := Function.update s.packetCounts r.tag (s.packetCounts r.tag + 1)
    lastValues := Function.update s.lastValues r.tag (some r.value)
    csv := if view.saveCsv then s.csv ++ [rowOf r] else s.csv }

/-- The line of the terminal, if it is time; `none` is an exception. -/
def render (s : Dashboard) (r : StreamReading) (now : Float) : Option Dashboard := do
  let refresh ← view.refresh
  if now - s.lastTime ≥ refresh then
    if r.fields.tsUs > 1000000000000 ∧ formats r.fields.tsUs = false then none
    else some { s with lastTime := now, line := status view s }
  else some s

/-- What the loop reads out of a datagram of any length. -/
def received (data : List UInt8) : Option (Option StreamReading) :=
  runStreamDashboard view.shownTags (data.take 2048)

/-- One turn of the loop. -/
def onDatagram (s : Dashboard) (arrival : List UInt8 × Float) : Option Dashboard := do
  match ← received view arrival.1 with
  | none => some s
  | some r => render formats view (count view s r) r arrival.2

/-- The loop, until it is interrupted; `none` is an exception before that. -/
def run (now : Float) (arrivals : List (List UInt8 × Float)) : Option Dashboard :=
  arrivals.foldlM (onDatagram formats view) (start now)

/-! ## Reading any datagram -/

/-- The headers are there once there are 36 bytes. -/
theorem unpackHeaders_isSome {data : List UInt8} (h : 36 ≤ data.length) :
    ∃ magic tagRaw fields, unpackHeaders "<HBBHH I H H" "<Q 4s HHHH" data = some (magic, tagRaw, fields) := by
  have hheader : parseFormat "<HBBHH I H H" = some [.H, .B, .B, .H, .H, .I, .H, .H] := by decide
  have hstream : parseFormat "<Q 4s HHHH" = some [.Q, .s 4, .H, .H, .H, .H] := by decide
  have hsize : 0 + calcsize [.H, .B, .B, .H, .H, .I, .H, .H] = 16 := rfl
  have hsize' : 16 + calcsize [.Q, .s 4, .H, .H, .H, .H] = 36 := rfl
  unfold unpackHeaders
  rw [unpackFrom_of_le hheader (by omega), unpackFrom_of_le hstream (by omega)]
  exact ⟨_, _, _, rfl⟩

theorem firstValue_isSome {format : String} {f : Field} (hformat : parseFormat format = some [f])
    {data : List UInt8} (h : 36 + f.width ≤ data.length) : ∃ v, firstValue format data = some v := by
  have hsize : 36 + calcsize [f] ≤ data.length := h
  unfold firstValue
  rw [unpackFrom_of_le hformat hsize]
  exact ⟨_, rfl⟩

/-- **No datagram raises**, whatever its bytes and its length. -/
theorem received_isSome (data : List UInt8) : ∃ r, received view data = some r := by
  unfold received runStreamDashboard
  generalize data.take 2048 = data
  split
  · exact ⟨none, rfl⟩
  · rename_i hlen
    obtain ⟨magic, tagRaw, fields, hheaders⟩ := unpackHeaders_isSome (Nat.le_of_not_lt hlen)
    rw [hheaders]
    dsimp only [Option.bind_eq_bind, Option.bind_some]
    split
    · exact ⟨none, rfl⟩
    · split
      · exact ⟨none, rfl⟩
      · split
        · rename_i h
          obtain ⟨v, hv⟩ := firstValue_isSome (show parseFormat "<i" = some [.i] by decide) h.2
          rw [hv]
          exact ⟨_, rfl⟩
        · split
          · rename_i h
            obtain ⟨v, hv⟩ := firstValue_isSome (show parseFormat "<I" = some [.I] by decide) h.2
            rw [hv]
            exact ⟨_, rfl⟩
          · split
            · rename_i h
              obtain ⟨v, hv⟩ := firstValue_isSome (show parseFormat "<H" = some [.H] by decide) h.2
              rw [hv]
              exact ⟨_, rfl⟩
            · exact ⟨_, rfl⟩

/-! ## What has been counted -/

/-- What the packets that are shown say, in their order. -/
def readings (arrivals : List (List UInt8 × Float)) : List StreamReading :=
  arrivals.filterMap fun a => (received view a.1).join

/-- The line after some packets. -/
def lineOf (packets : List StreamReading) : List StatusPart :=
  view.activeTags.map fun e =>
    ⟨e.1, ((packets.filter (·.tag = e.1)).getLast?).map (·.value), e.2.rateHz, packets.countP (·.tag = e.1)⟩

/-- Every packet is counted, the last value of each stream is kept and each packet has its row; the line is
that of a moment before. -/
structure Follows (packets : List StreamReading) (s : Dashboard) : Prop where
  packetCounts : ∀ tag, s.packetCounts tag = packets.countP (·.tag = tag)
  lastValues : ∀ tag, s.lastValues tag = ((packets.filter (·.tag = tag)).getLast?).map (·.value)
  csv : s.csv = if view.saveCsv then packets.map rowOf else []
  line : s.line = [] ∨ ∃ front, front <+: packets ∧ s.line = lineOf view front

/-- A time that cannot be shown. -/
def Undated (r : StreamReading) : Prop := 1000000000000 < r.fields.tsUs ∧ formats r.fields.tsUs = false

variable {formats view} {s s' : Dashboard} {packets : List StreamReading} {r : StreamReading} {now : Float}

theorem follows_start (now : Float) : Follows view [] (start now) where
  packetCounts := fun _ => rfl
  lastValues := fun _ => rfl
  csv := by simp [start]
  line := Or.inl rfl

/-- A packet is counted. -/
theorem Follows.count (h : Follows view packets s) (r : StreamReading) :
    Follows view (packets ++ [r]) (count view s r) where
  packetCounts := by
    intro tag
    show Function.update s.packetCounts r.tag (s.packetCounts r.tag + 1) tag = _
    rw [List.countP_append, ← h.packetCounts]
    by_cases ht : tag = r.tag
    · subst ht
      simp
    · rw [Function.update_of_ne ht, List.countP_singleton, if_neg (by simpa using Ne.symm ht)]
      rfl
  lastValues := by
    intro tag
    show Function.update s.lastValues r.tag (some r.value) tag = _
    rw [List.filter_append]
    by_cases ht : tag = r.tag
    · subst ht
      simp
    · rw [Function.update_of_ne ht, List.filter_cons_of_neg (by simpa using Ne.symm ht), List.filter_nil,
        List.append_nil]
      exact h.lastValues tag
  csv := by
    show (if view.saveCsv then s.csv ++ [rowOf r] else s.csv) = _
    rw [h.csv]
    by_cases hsave : view.saveCsv = true
    · simp [hsave]
    · simp [hsave]
  line := by
    rcases h.line with hline | ⟨front, hfront, hline⟩
    · exact Or.inl hline
    · exact Or.inr ⟨front, hfront.trans (List.prefix_append _ _), hline⟩

/-- Rendering changes the line alone. -/
theorem Follows.render (h : Follows view packets s) (hrender : render formats view s r now = some s') :
    Follows view packets s' := by
  unfold Dashboard.render at hrender
  obtain ⟨refresh, -, hrender⟩ := Option.bind_eq_some_iff.1 hrender
  split at hrender
  · split at hrender
    · cases hrender
    · obtain rfl := Option.some.inj hrender
      refine ⟨h.packetCounts, h.lastValues, h.csv, Or.inr ⟨packets, List.prefix_rfl, ?_⟩⟩
      refine List.map_congr_left fun e _ => ?_
      rw [h.lastValues, h.packetCounts]
  · obtain rfl := Option.some.inj hrender
    exact h

/-- What alone is an exception. -/
theorem render_eq_none (h : render formats view s r now = none) :
    view.refresh = none ∨ Undated formats r := by
  unfold render at h
  cases hrefresh : view.refresh with
  | none => exact Or.inl rfl
  | some refresh =>
      rw [hrefresh] at h
      dsimp only [Option.bind_eq_bind, Option.bind_some] at h
      split at h
      · split at h
        · rename_i hundated
          exact Or.inr hundated
        · cases h
      · cases h

/-- **One turn of the loop.** -/
theorem onDatagram_cases (a : List UInt8 × Float) :
    (readings view [a] = [] ∧ onDatagram formats view s a = some s) ∨
      ∃ r, readings view [a] = [r] ∧
        onDatagram formats view s a = render formats view (count view s r) r a.2 := by
  obtain ⟨read, hread⟩ := received_isSome view a.1
  unfold readings onDatagram
  rw [List.filterMap_cons, List.filterMap_nil, hread]
  cases read with
  | none => exact Or.inl ⟨rfl, rfl⟩
  | some r => exact Or.inr ⟨r, rfl, rfl⟩

theorem run_append (now : Float) (arrivals : List (List UInt8 × Float)) (a : List UInt8 × Float) :
    run formats view now (arrivals ++ [a]) =
      (run formats view now arrivals).bind fun s => onDatagram formats view s a := by
  unfold run
  rw [List.foldlM_append]
  simp

theorem readings_append (arrivals : List (List UInt8 × Float)) (a : List UInt8 × Float) :
    readings view (arrivals ++ [a]) = readings view arrivals ++ readings view [a] :=
  List.filterMap_append

/-- As long as it runs. -/
theorem follows_run {arrivals : List (List UInt8 × Float)} (h : run formats view now arrivals = some s) :
    Follows view (readings view arrivals) s := by
  induction arrivals using List.reverseRecOn generalizing s with
  | nil =>
      obtain rfl := Option.some.inj h
      exact follows_start now
  | append_singleton arrivals a ih =>
      rw [run_append] at h
      obtain ⟨before, hrun, hturn⟩ := Option.bind_eq_some_iff.1 h
      rw [readings_append]
      rcases onDatagram_cases a with ⟨hnil, hsame⟩ | ⟨r, hr, hrender⟩
      · rw [hsame] at hturn
        obtain rfl := Option.some.inj hturn
        rw [hnil, List.append_nil]
        exact ih hrun
      · rw [hrender] at hturn
        rw [hr]
        exact ((ih hrun).count r).render hturn

/-- What ends it. -/
theorem run_eq_none {arrivals : List (List UInt8 × Float)} (h : run formats view now arrivals = none) :
    readings view arrivals ≠ [] ∧ (view.refresh = none ∨ ∃ r ∈ readings view arrivals, Undated formats r) := by
  induction arrivals using List.reverseRecOn with
  | nil => cases h
  | append_singleton arrivals a ih =>
      rw [run_append] at h
      rw [readings_append]
      cases hrun : run formats view now arrivals with
      | none =>
          obtain ⟨hne, hwhy⟩ := ih hrun
          refine ⟨List.append_ne_nil_of_left_ne_nil hne _, hwhy.imp_right ?_⟩
          rintro ⟨r, hr, hundated⟩
          exact ⟨r, List.mem_append_left _ hr, hundated⟩
      | some s =>
          rw [hrun, Option.bind_some] at h
          rcases onDatagram_cases a with ⟨-, hsame⟩ | ⟨r, hr, hrender⟩
          · rw [hsame] at h
            cases h
          · rw [hrender] at h
            rw [hr]
            refine ⟨by simp, (render_eq_none h).imp_right fun hundated => ?_⟩
            exact ⟨r, List.mem_append_right _ (List.mem_singleton_self r), hundated⟩

/-- Where the refresh rate is no number, the first packet ends it. -/
theorem run_of_refresh (hrefresh : view.refresh = none) {arrivals : List (List UInt8 × Float)}
    (hne : readings view arrivals ≠ []) : run formats view now arrivals = none := by
  induction arrivals using List.reverseRecOn with
  | nil => exact absurd rfl hne
  | append_singleton arrivals a ih =>
      rw [run_append]
      by_cases hbefore : readings view arrivals = []
      · rw [readings_append, hbefore, List.nil_append] at hne
        cases hrun : run formats view now arrivals with
        | none => rfl
        | some s =>
            rcases onDatagram_cases a with ⟨hnil, -⟩ | ⟨r, -, hrender⟩
            · exact absurd hnil hne
            · show onDatagram formats view s a = none
              rw [hrender]
              unfold render
              rw [hrefresh]
              rfl
      · rw [ih hbefore]
        rfl

/-- **The dashboard, over any datagrams.**  As long as it runs, it has counted every packet, kept the last
value of each stream and written a row for each packet, and shown a line that was right.  No datagram ends it
but by a time that has no date; where the refresh rate is no number, the first packet does. -/
theorem dashboard_run (formats : Nat → Bool) (view : ViewConfig) (now : Float)
    (arrivals : List (List UInt8 × Float)) :
    (∀ s, run formats view now arrivals = some s → Follows view (readings view arrivals) s) ∧
      (run formats view now arrivals = none →
        view.refresh = none ∨ ∃ r ∈ readings view arrivals, Undated formats r) ∧
      (view.refresh = none → (run formats view now arrivals = none ↔ readings view arrivals ≠ [])) :=
  ⟨fun _ h => follows_run h, fun h => (run_eq_none h).2,
    fun hrefresh => ⟨fun h => (run_eq_none h).1, run_of_refresh hrefresh⟩⟩

/-! ## The frames of a node -/

/-- What a node puts into a frame; `bytes` is how long its samples are. -/
structure SentFrame where
  tag : UInt32
  fields : StreamFields
  bytes : Nat
  samples : BytePtr

namespace SentFrame

variable (f : SentFrame)

/-- The first sample under the tags that the script knows, and 0 under any other. -/
def value : PyValue :=
  if shownText f.tag = "TEMP".toList ∧ 4 ≤ f.bytes then .ofInt (u32At f.samples 0).toInt32.toInt
  else if shownText f.tag = "CNTR".toList ∧ 4 ≤ f.bytes then .int (u32At f.samples 0).toNat
  else if shownText f.tag = "ADC0".toList ∧ 2 ≤ f.bytes then .int (u16At f.samples 0).toNat
  else .int 0

/-- The row that says so. -/
def row : CsvRow := ⟨f.fields.tsUs, shownText f.tag, f.value, f.fields.rateHz, f.fields.seqNum⟩

/-- What is to be read out of it. -/
def reading : StreamReading :=
  ⟨shownText f.tag, f.fields, dashboardValue (shownText f.tag) f.bytes f.samples⟩

theorem rowOf_reading : rowOf f.reading = f.row := by
  unfold row value reading rowOf dashboardValue
  dsimp only
  by_cases htemp : shownText f.tag = "TEMP".toList ∧ 4 ≤ f.bytes
  · simp only [if_pos htemp]
  · simp only [if_neg htemp]
    by_cases hcntr : shownText f.tag = "CNTR".toList ∧ 4 ≤ f.bytes
    · simp only [if_pos hcntr]
    · simp only [if_neg hcntr]
      by_cases hadc : shownText f.tag = "ADC0".toList ∧ 2 ≤ f.bytes
      · simp only [if_pos hadc]
      · simp only [if_neg hadc]

/-- Where both scripts find a value, it is this one. -/
theorem value_of_valueOf (hshow : Showable f.tag) (hvalue : HasValue f.tag f.bytes) :
    ∀ x ∈ valueOf f.tag f.samples, f.value = x := by
  intro x hx
  have hnumber := dashboardValue_of_valueOf hvalue f.samples x hx
  rw [← shownText_eq hshow] at hnumber
  have hrow : (rowOf f.reading).value = f.value := congrArg CsvRow.value f.rowOf_reading
  unfold rowOf reading at hrow
  dsimp only at hrow
  rw [hnumber] at hrow
  exact hrow.symm

end SentFrame

/-- The bytes of a frame that some node sends, of some channel that keeps to its interface. -/
inductive SentAs : List UInt8 → SentFrame → Prop where
  | frame {P : Type} [ITelemetryProducer P] {this task : TelemetryTask P} {env : SendEnv} {ch after : P}
      {d : Datagram} {n : Nat} {samples : BytePtr} (hle : ∀ buffer n, (produceSamples buffer n ch).1 ≤ n)
      (hsend : this.sendChannelFrame env ch = (some (.sent d), after, task))
      (hproduce : produceSamples (this.txFrameBuf.advance 36)
        (samplesToSend (getBatchCount ch) (getBytesPerSample ch)).toNat ch = (n, samples, after)) :
      SentAs d.bytes
        ⟨getTag after, sentFields task.seqNum env.tickCount ch n, n * getBytesPerSample ch, samples⟩

variable {data : List UInt8} {f : SentFrame}

/-- **One frame at the dashboard.** -/
theorem received_sent (view : ViewConfig) (h : SentAs data f) :
    f.fields.tsUs < 2 ^ 32 * 1000 ∧
      received view data = some (if shownText f.tag ∈ view.shownTags then some f.reading else none) := by
  cases h with
  | @frame P _ this task env ch after d n samples hle hsend hproduce =>
      obtain ⟨n', samples', hproduce', -, hsized, -⟩ := sent_received hle hsend
      obtain ⟨n'', samples'', hproduce'', -, hpos, hfits, hbytes, hseq⟩ := sent_eq_frame hle hsend
      rw [hproduce] at hproduce' hproduce''
      cases hproduce'
      cases hproduce''
      have htake : d.bytes.take 2048 = d.bytes := List.take_of_length_le (hsized.length_le.trans (by decide))
      refine ⟨Nat.mul_lt_mul_of_pos_right env.tickCount.toNat_lt (by decide), ?_⟩
      have hcount : n ≤ n * getBytesPerSample ch := Nat.le_mul_of_pos_right n (Nat.pos_of_ne_zero hpos)
      have hread : runStreamDashboard view.shownTags
          (this.streamFrame env.tickCount ch after n samples).toBytes = _ :=
        runStreamDashboard_eq rfl samples _ view.shownTags
      rw [ofHeaders_streamFrame (by omega) hseq] at hread
      unfold received
      rw [htake, hbytes]
      exact hread

/-- The frames whose tags are shown. -/
def shown (view : ViewConfig) (frames : List SentFrame) : List SentFrame :=
  frames.filter fun f => view.shownTags.contains (shownText f.tag)

/-- **What is read of any frames** that arrive. -/
theorem readings_sent (view : ViewConfig) {arrivals : List (List UInt8 × Float)} {frames : List SentFrame}
    (h : List.Forall₂ (fun a f => SentAs a.1 f) arrivals frames) :
    (∀ f ∈ shown view frames, f.fields.tsUs < 2 ^ 32 * 1000) ∧
      readings view arrivals = (shown view frames).map SentFrame.reading := by
  induction h with
  | nil => exact ⟨by simp [shown], rfl⟩
  | @cons a f arrivals frames ha _ ih =>
      obtain ⟨hlt, hreceived⟩ := received_sent view ha
      obtain ⟨hall, hreadings⟩ := ih
      unfold readings shown at hreadings ⊢
      unfold shown at hall
      by_cases htag : shownText f.tag ∈ view.shownTags
      · rw [if_pos htag] at hreceived
        rw [List.filterMap_cons_some (by rw [hreceived]; rfl), List.filter_cons_of_pos (by simpa using htag),
          List.map_cons, hreadings]
        exact ⟨List.forall_mem_cons.2 ⟨hlt, hall⟩, rfl⟩
      · rw [if_neg htag] at hreceived
        rw [List.filterMap_cons_none (by rw [hreceived]; rfl), List.filter_cons_of_neg (by simpa using htag)]
        exact ⟨hall, hreadings⟩

/-- **The frames of the nodes at the dashboard.**  Whatever frames arrive of those that nodes send, in whatever
order and however often, the loop goes on if the refresh rate is a number: it has counted those whose tags
are shown, and the CSV file has a row for each, in their order, with the time, the rate and the number that
the node put in, and the first sample under the tags that the script knows. -/
theorem sent_frames_shown (hformats : ∀ tsUs < 2 ^ 32 * 1000, formats tsUs = true)
    (hrefresh : view.refresh ≠ none) (now : Float) {arrivals : List (List UInt8 × Float)}
    {frames : List SentFrame} (h : List.Forall₂ (fun a f => SentAs a.1 f) arrivals frames) :
    ∃ s, run formats view now arrivals = some s ∧
      (∀ tag, s.packetCounts tag = (shown view frames).countP (shownText ·.tag = tag)) ∧
      (view.saveCsv = true → s.csv = (shown view frames).map SentFrame.row) := by
  obtain ⟨hlt, hreadings⟩ := readings_sent view h
  cases hrun : run formats view now arrivals with
  | none =>
      exfalso
      rcases (run_eq_none hrun).2 with hnone | ⟨r, hr, hlate, hundated⟩
      · exact hrefresh hnone
      · rw [hreadings] at hr
        obtain ⟨f, hf, rfl⟩ := List.mem_map.1 hr
        have hdated : formats f.reading.fields.tsUs = true := hformats _ (hlt f hf)
        rw [hdated] at hundated
        cases hundated
  | some s =>
      have hfollows := follows_run hrun
      refine ⟨s, rfl, fun tag => ?_, fun hsave => ?_⟩
      · rw [hfollows.packetCounts, hreadings, List.countP_map]
        rfl
      · rw [hfollows.csv, if_pos hsave, hreadings, List.map_map]
        exact List.map_congr_left fun f _ => f.rowOf_reading

/-- A view of the counter, with a CSV file. -/
def counterView : ViewConfig where
  name := "bench".toList
  streams := [{ tag := "CNTR".toList, rateHz := 10 }]
  «export» := [("save_csv", .bool true)]

theorem counterView_refresh : counterView.refresh ≠ none := by
  have hint : ∀ k, (100 : Int).natAbs < (2 ^ 54 - 1) * 2 ^ k := fun k =>
    Nat.lt_of_lt_of_le (by decide) (Nat.le_mul_of_pos_right (2 ^ 54 - 1) k.two_pow_pos)
  have hrefresh : counterView.refresh =
      if (100 : Int).natAbs < (2 ^ 54 - 1) * 2 ^ 970 then some (Float.ofInt 100 / 1000) else none := rfl
  rw [hrefresh, if_pos (hint 970)]
  exact Option.some_ne_none _

/-- The first frame of the counter, twice. -/
theorem sent_frames_shown_twice :
    ∃ data f, SentAs data f ∧ f.tag = STREAM_TAG_COUNTER ∧ f.value = .int 0 ∧
      ∃ s, run (fun _ => true) counterView 0 [(data, 0), (data, 1)] = some s ∧
        (∀ tag, s.packetCounts tag = (shown counterView [f, f]).countP (shownText ·.tag = tag)) ∧
        (counterView.saveCsv = true → s.csv = (shown counterView [f, f]).map SentFrame.row) := by
  obtain ⟨d, after, task, hsend⟩ : ∃ d after task,
      (TelemetryTask.start TelemetryService.create 1 0).sendChannelFrame atTick7
        (CounterProducer.create 10 1) = (some (.sent d), after, task) := ⟨_, _, _, rfl⟩
  have hle := fun buffer n => LawfulTelemetryProducer.produceSamples_le buffer n (CounterProducer.create 10 1)
  obtain ⟨n, samples, hproduce, hn, -⟩ := sent_eq_frame hle hsend
  have hsent := SentAs.frame hle hsend hproduce
  refine ⟨d.bytes, _, hsent, rfl, ?_,
    sent_frames_shown (fun _ _ => rfl) counterView_refresh 0 (.cons hsent (.cons hsent .nil))⟩
  refine SentFrame.value_of_valueOf _ (show Showable STREAM_TAG_COUNTER by decide) (fun _ => ?_) _
    (valueOf_counter hproduce hn)
  show 4 ≤ n * 4
  omega

end Dashboard

end EmbeddedPixel.TelemetryViews
