import EmbeddedPixel.Host.StreamReceivers
import EmbeddedPixel.Net.StreamTargets
import EmbeddedPixel.Net.TxBuffer

/-!
# Telemetry views (`scripts/telemetry_views.py`)

A `ViewConfig` is what the script saves of a set of streams.  `toDict` and `fromDict` go between it and the
dictionary of its file, with the `upper` of Python as a parameter; a field that holds a value of another type
than it is declared with gives `none`.
`captureStreams` is what `capture_live_view` reads out of the response it has received, `none` standing for
an exception.

`fromDict_toDict`: what is read back from a saved view.  `captureStreams_response`: the streams read from a
`CMD_GET_STREAMS_RESP` are the descriptors in it.
-/

set_option autoImplicit false

namespace EmbeddedPixel.TelemetryViews

open Foundation ITelemetryChannel StreamReceivers

/-! ## The classes -/

/-- A value of a JSON file. -/
inductive Json where
  | null
  | bool (b : Bool)
  | int (n : Int)
  | float (x : Float)
  | str (s : List Char)
  | list (l : List Json)
  | dict (d : List (String × Json))

abbrev Dict := List (String × Json)

structure ChannelDisplay where
  title : List Char := []
  units : List Char := []
  color : List Char := "cyan".toList
  yMin : Option Float := none
  yMax : Option Float := none
  warnThreshold : Option Float := none
  bufferSize : Int := 100

structure StreamConfig where
  tag : List Char
  rateHz : Int
  enabled : Bool := true
  display : ChannelDisplay := {}

structure ViewConfig where
  name : List Char
  description : List Char := []
  version : Int := 1
  nodeId : Int := 1
  streams : List StreamConfig := []
  layout : Dict := [("mode", .str "dashboard".toList), ("refresh_rate_ms", .int 100)]
  «export» : Dict := [("save_csv", .bool false), ("csv_prefix", .str "telemetry".toList)]

/-! ## Saving and loading -/

namespace Json

def isNull : Json → Bool
  | null => true
  | _ => false

def asBool : Json → Option Bool
  | bool b => some b
  | _ => none

def asInt : Json → Option Int
  | int n => some n
  | _ => none

/-- A number, or `None`. -/
def asFloat : Json → Option (Option Float)
  | null => some none
  | int n => some (some (Float.ofInt n))
  | float x => some (some x)
  | _ => none

def asStr : Json → Option (List Char)
  | str s => some s
  | _ => none

def asList : Json → Option (List Json)
  | list l => some l
  | _ => none

def asDict : Json → Option Dict
  | dict d => some d
  | _ => none

/-- `Optional[float]` -/
def ofFloat : Option Float → Json
  | none => null
  | some x => float x

end Json

/-- `data.get(key, default)` -/
def Dict.get {α : Type} (read : Json → Option α) (data : Dict) (key : String) (default : α) : Option α :=
  match data.lookup key with
  | none => some default
  | some v => read v

/-- `asdict` -/
def ChannelDisplay.asdict (display : ChannelDisplay) : Dict :=
  [("title", .str display.title), ("units", .str display.units), ("color", .str display.color),
    ("y_min", .ofFloat display.yMin), ("y_max", .ofFloat display.yMax),
    ("warn_threshold", .ofFloat display.warnThreshold), ("buffer_size", .int display.bufferSize)]

/-- `str.upper`, of texts of ASCII characters and U+FFFD. -/
def asciiUpper (text : List Char) : List Char := text.map Char.toUpper

section Files

variable (upper : List Char → List Char)

/-- `tag.upper()[:4]` -/
def upperTag (tag : List Char) : List Char := (upper tag).take 4

namespace StreamConfig

/-- `StreamConfig.to_dict` -/
def toDict (self : StreamConfig) : Dict :=
  [("tag", .str (upperTag upper self.tag)), ("rate_hz", .int self.rateHz), ("enabled", .bool self.enabled),
    ("display", .dict (self.display.asdict.filter fun kv => !kv.2.isNull))]

/-- `StreamConfig.from_dict` -/
def fromDict (data : Dict) : Option StreamConfig := do
  let dispData ← data.get Json.asDict "display" []
  let titleTag ← data.get Json.asStr "tag" []
  let title ← dispData.get Json.asStr "title" ("Channel ".toList ++ titleTag)
  let units ← dispData.get Json.asStr "units" []
  let color ← dispData.get Json.asStr "color" "cyan".toList
  let yMin ← dispData.get Json.asFloat "y_min" none
  let yMax ← dispData.get Json.asFloat "y_max" none
  let warnThreshold ← dispData.get Json.asFloat "warn_threshold" none
  let bufferSize ← dispData.get Json.asInt "buffer_size" 100
  let tag ← data.get Json.asStr "tag" "UNKN".toList
  let rateHz ← data.get Json.asInt "rate_hz" 10
  let enabled ← data.get Json.asBool "enabled" true
  some ⟨upperTag upper tag, rateHz, enabled, ⟨title, units, color, yMin, yMax, warnThreshold, bufferSize⟩⟩

end StreamConfig

namespace ViewConfig

/-- `ViewConfig.to_dict` -/
def toDict (self : ViewConfig) : Dict :=
  [("name", .str self.name), ("description", .str self.description), ("version", .int self.version),
    ("node_id", .int self.nodeId), ("streams", .list (self.streams.map fun s => .dict (s.toDict upper))),
    ("layout", .dict self.layout), ("export", .dict self.export)]

/-- `ViewConfig.from_dict` -/
def fromDict (data : Dict) : Option ViewConfig := do
  let streamsData ← data.get Json.asList "streams" []
  let streams ← streamsData.mapM fun s => s.asDict.bind (StreamConfig.fromDict upper)
  let name ← data.get Json.asStr "name" "unnamed_view".toList
  let description ← data.get Json.asStr "description" []
  let version ← data.get Json.asInt "version" 1
  let nodeId ← data.get Json.asInt "node_id" 1
  let layout ← data.get Json.asDict "layout"
    [("mode", .str "dashboard".toList), ("refresh_rate_ms", .int 100)]
  let «export» ← data.get Json.asDict "export"
    [("save_csv", .bool false), ("csv_prefix", .str "telemetry".toList)]
  some ⟨name, description, version, nodeId, streams, layout, «export»⟩

end ViewConfig

/-- A stream whose tag was put into capitals and cut to four characters, as it was saved and as it was
loaded. -/
def StreamConfig.normalised (s : StreamConfig) : StreamConfig :=
  { s with tag := upperTag upper (upperTag upper s.tag) }

/-- The display that is read back is the one saved. -/
theorem StreamConfig.fromDict_toDict (s : StreamConfig) :
    fromDict upper (s.toDict upper) = some (s.normalised upper) := by
  obtain ⟨tag, rateHz, enabled, title, units, color, yMin, yMax, warnThreshold, bufferSize⟩ := s
  cases yMin <;> cases yMax <;> cases warnThreshold <;> rfl

/-- **What is read back from a saved view** is the view with its tags in capitals. -/
theorem ViewConfig.fromDict_toDict (v : ViewConfig) :
    fromDict upper (v.toDict upper) =
      some { v with streams := v.streams.map (StreamConfig.normalised upper) } := by
  have hstreams : (v.streams.map fun s : StreamConfig => Json.dict (s.toDict upper)).mapM
      (fun s : Json => s.asDict.bind (StreamConfig.fromDict upper)) =
        some (v.streams.map (StreamConfig.normalised upper)) := by
    induction v.streams with
    | nil => rfl
    | cons s ss ih =>
        rw [List.map_cons, List.mapM_cons, ih]
        have hone : (Json.dict (s.toDict upper)).asDict.bind (StreamConfig.fromDict upper) =
            some (s.normalised upper) := s.fromDict_toDict upper
        rw [hone]
        rfl
  show (do
    let streams ← (v.streams.map fun s : StreamConfig => Json.dict (s.toDict upper)).mapM
      (fun s : Json => s.asDict.bind (StreamConfig.fromDict upper))
    some (ViewConfig.mk v.name v.description v.version v.nodeId streams v.layout v.export)) = _
  rw [hstreams]
  rfl

end Files

/-! ## Capitals -/

/-- Capitals are 32 before the small letters. -/
theorem toNat_toUpper (c : Char) :
    c.toUpper.toNat = if 97 ≤ c.toNat ∧ c.toNat ≤ 122 then c.toNat - 32 else c.toNat := by
  unfold Char.toUpper
  by_cases h : 97 ≤ c.toNat ∧ c.toNat ≤ 122
  · have hlower : 'a'.val ≤ c.val ∧ c.val ≤ 'z'.val := h
    have hshift : ('A'.val - 'a'.val).toNat = 4294967264 := by decide
    have hval : c.toNat = c.val.toNat := rfl
    rw [dif_pos hlower, if_pos h]
    show (c.val + ('A'.val - 'a'.val)).toNat = _
    rw [UInt32.toNat_add, hshift]
    omega
  · have hlower : ¬ ('a'.val ≤ c.val ∧ c.val ≤ 'z'.val) := h
    rw [dif_neg hlower, if_neg h]

/-- A character that is not a small letter. -/
theorem toUpper_of_not_lower {c : Char} (h : ¬ (97 ≤ c.toNat ∧ c.toNat ≤ 122)) : c.toUpper = c := by
  apply Char.toNat_inj.1
  rw [toNat_toUpper, if_neg h]

/-- What `toUpper` gives is not a small letter. -/
theorem not_lower_toUpper (c : Char) : ¬ (97 ≤ c.toUpper.toNat ∧ c.toUpper.toNat ≤ 122) := by
  rw [toNat_toUpper]
  split
  · omega
  · assumption

theorem toUpper_toUpper (c : Char) : c.toUpper.toUpper = c.toUpper :=
  toUpper_of_not_lower (not_lower_toUpper c)

theorem upperTag_upperTag (tag : List Char) :
    upperTag asciiUpper (upperTag asciiUpper tag) = upperTag asciiUpper tag := by
  unfold upperTag asciiUpper
  rw [List.map_take, List.map_map, List.take_take]
  congr 1
  refine List.map_congr_left fun c _ => ?_
  exact toUpper_toUpper c

/-! ## Capturing -/

/-- The display of a channel with a tag and a name. -/
def displayOf (tagStr nameStr : List Char) : ChannelDisplay where
  title := if nameStr = [] then "Channel ".toList ++ tagStr else nameStr
  units :=
    if tagStr = "TEMP".toList then "°C".toList
    else if tagStr = "CNTR".toList then "counts".toList
    else "mV".toList
  color :=
    if tagStr = "TEMP".toList then "yellow".toList
    else if tagStr = "CNTR".toList then "cyan".toList
    else "magenta".toList

/-- The stream of the fields of a descriptor. -/
def streamOf (tagRaw nameRaw : List UInt8) (rateHz enabled : Nat) : StreamConfig :=
  let tagStr := stripNul (decodeAscii tagRaw)
  let nameStr := stripNul (decodeAscii nameRaw)
  { tag := tagStr
    rateHz := rateHz
    enabled := enabled != 0
    display := displayOf tagStr nameStr }

/-- The loop of `capture_live_view`, for the descriptors left. -/
def captureLoop (resp : List UInt8) : (left offset : Nat) → Option (List StreamConfig)
  | 0, _ => some []
  | left + 1, offset =>
    if offset + 32 > resp.length then some []
    else do
      let values ← unpackFrom "<4s 16s HHHH B" resp offset
      match values with
      | [.bytes tagRaw, .bytes nameRaw, .int rateHz, _, _, _, .int enabled] =>
        let streams ← captureLoop resp left (offset + 32)
        some (streamOf tagRaw nameRaw rateHz enabled :: streams)
      | _ => none

/-- The streams `capture_live_view` reads out of a response. -/
def captureStreams (resp : List UInt8) : Option (List StreamConfig) :=
  if resp.length < 20 then none
  else do
    let values ← unpackFrom "<H" resp 16
    match values with
    | [.int streamCount] => captureLoop resp streamCount 20
    | _ => none

/-- `capture_live_view`, with the response and the texts of the address and the time. -/
def captureLiveView (nodeIp now viewName : List Char) (resp : List UInt8) : Option ViewConfig := do
  let streams ← captureStreams resp
  some
    { name := viewName
      description := "Auto-captured view from ".toList ++ nodeIp ++ " at ".toList ++ now
      streams := streams }

/-- The name in a descriptor. -/
def nameField (d : StreamDescriptor) : List UInt8 :=
  d.name.take 15 ++ List.replicate (16 - (d.name.take 15).length) 0

theorem length_nameField (d : StreamDescriptor) : (nameField d).length = 16 := by
  have hle : (d.name.take 15).length ≤ 15 := List.length_take_le 15 d.name
  unfold nameField
  rw [List.length_append, List.length_replicate]
  omega

/-- What is read out of a descriptor. -/
def capturedStream (d : StreamDescriptor) : StreamConfig :=
  streamOf (u32le d.streamTag) (nameField d) d.sampleRateHz.toNat d.isEnabled.toNat

theorem unpackFrom_descriptor (before : List UInt8) (d : StreamDescriptor) (more : List UInt8) :
    unpackFrom "<4s 16s HHHH B" (before ++ (d.toBytes ++ more)) before.length =
      some [.bytes (u32le d.streamTag), .bytes (nameField d), .int d.sampleRateHz.toNat,
        .int d.batchCount.toNat, .int d.channelCount.toNat, .int d.sampleType.toNat,
        .int d.isEnabled.toNat] := by
  have hformat : parseFormat "<4s 16s HHHH B" = some [.s 4, .s 16, .H, .H, .H, .H, .B] := by decide
  have hsize : before.length + calcsize [.s 4, .s 16, .H, .H, .H, .H, .B] ≤
      (before ++ (d.toBytes ++ more)).length := by
    rw [List.length_append, List.length_append, StreamDescriptor.length_toBytes]
    show before.length + 29 ≤ _
    omega
  have hbytes : d.toBytes = u32le d.streamTag ++ (nameField d ++ (u16le d.sampleRateHz ++
      (u16le d.batchCount ++ (u16le d.channelCount ++ (u16le d.sampleType ++
        ([d.isEnabled] ++ [0, 0, 0])))))) := by
    unfold StreamDescriptor.toBytes nameField
    simp only [List.append_assoc]
    rfl
  rw [unpackFrom_of_le hformat hsize, hbytes]
  simp only [List.append_assoc]
  rw [readFields_append (Field.reads_s (length_u32le _)),
    readFields_append (Field.reads_s (length_nameField d)),
    readFields_append (Field.reads_H _), readFields_append (Field.reads_H _),
    readFields_append (Field.reads_H _), readFields_append (Field.reads_H _),
    readFields_append (Field.reads_B _)]
  rfl

/-- The loop reads the descriptors that are there. -/
theorem captureLoop_descriptors (before : List UInt8) (ds : List StreamDescriptor) :
    captureLoop (before ++ ds.flatMap StreamDescriptor.toBytes) ds.length before.length =
      some (ds.map capturedStream) := by
  induction ds generalizing before with
  | nil => rfl
  | cons d ds ih =>
      have hnext := ih (before ++ d.toBytes)
      rw [List.length_append, StreamDescriptor.length_toBytes, List.append_assoc] at hnext
      have hroom : ¬ before.length + 32 >
          (before ++ (d.toBytes ++ ds.flatMap StreamDescriptor.toBytes)).length := by
        rw [List.length_append, List.length_append, StreamDescriptor.length_toBytes]
        omega
      rw [List.flatMap_cons, List.length_cons]
      unfold captureLoop
      rw [if_neg hroom, unpackFrom_descriptor]
      dsimp only [Option.bind_eq_bind, Option.bind_some]
      rw [hnext]
      rfl

/-- **The streams read from a response** are the descriptors in it. -/
theorem captureStreams_response (hdr : PE_Header) {ds : List StreamDescriptor} (h : ds.length < 65536) :
    captureStreams (Frame.toBytes ⟨hdr, getStreamsResp ds⟩) = some (ds.map capturedStream) := by
  have hbytes : Frame.toBytes ⟨hdr, getStreamsResp ds⟩ =
      hdr.toBytes ++ (u16le (UInt16.ofNat ds.length) ++ (u16le 0 ++ ds.flatMap StreamDescriptor.toBytes)) := by
    unfold Frame.toBytes getStreamsResp
    simp only [List.append_assoc]
  have hlen : (Frame.toBytes ⟨hdr, getStreamsResp ds⟩).length = 20 + ds.length * 32 := by
    rw [Frame.toBytes, List.length_append, PE_Header.length_toBytes, length_getStreamsResp]
    omega
  have hcount : unpackFrom "<H" (Frame.toBytes ⟨hdr, getStreamsResp ds⟩) 16 =
      some [.int ds.length] := by
    have hformat : parseFormat "<H" = some [.H] := by decide
    have hsize : 16 + calcsize [.H] ≤ (Frame.toBytes ⟨hdr, getStreamsResp ds⟩).length := by
      rw [hlen]
      show 16 + 2 ≤ _
      omega
    have hread := readFields_append (Field.reads_H (UInt16.ofNat ds.length)) [] hdr.toBytes
      (u16le 0 ++ ds.flatMap StreamDescriptor.toBytes)
    rw [PE_Header.length_toBytes, UInt16.toNat_ofNat_of_lt' h] at hread
    rw [unpackFrom_of_le hformat hsize, hbytes, hread]
    rfl
  have hloop := captureLoop_descriptors
    (hdr.toBytes ++ (u16le (UInt16.ofNat ds.length) ++ u16le 0)) ds
  unfold captureStreams
  rw [if_neg (by omega), hcount, hbytes]
  rw [List.append_assoc, List.append_assoc] at hloop
  exact hloop

end EmbeddedPixel.TelemetryViews
