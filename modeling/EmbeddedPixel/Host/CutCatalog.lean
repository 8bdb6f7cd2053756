import EmbeddedPixel.Host.StreamCatalog

/-!
# A catalog that is cut off (`capture_live_view` and `scripts/test_get_streams.py`)

Both scripts send the same request and take what one `recv` returns for the whole answer; TCP may hand over
any first part of it.  `testGetStreams` is what the second one prints, and whether it comes to its end.

`catalog_cut`: `capture_live_view` returns a view of the streams that have arrived whole, without a word about
the others; `test_get_streams.py` prints those and raises `struct.error` if there are others.
-/

set_option autoImplicit false

namespace EmbeddedPixel.TelemetryViews

open Foundation ITelemetryChannel StreamReceivers CommandService

/-- A line that `test_get_streams.py` prints of a stream. -/
structure StreamLine where
  tag : List Char
  name : List Char
  rateHz : Nat
  batch : Nat
  channels : Nat
  sampleType : Nat
  enabled : Bool
  deriving DecidableEq, Repr

/-- What `test_get_streams.py` sends. -/
def testGetStreamsRequest : Option (List UInt8) :=
  packValues "<HBBHHIHH" [.int 0x5045, .int 1, .int 1, .int 1, .int 0x0120, .int 1, .int 0, .int 0]

/-- The line of a descriptor. -/
def streamLine (tagRaw nameRaw : List UInt8) (rateHz batch channels sampleType enabled : Nat) : StreamLine where
  tag := decodeAscii tagRaw
  name := (decodeAscii nameRaw).rdropWhile (· == Char.ofNat 0)
  rateHz := rateHz
  batch := batch
  channels := channels
  sampleType := sampleType
  enabled := enabled != 0

/-- The loop of `test_get_streams.py`: the lines, and whether it is not ended by `struct.error`. -/
def printLoop (resp : List UInt8) : (left offset : Nat) → List StreamLine × Bool
  | 0, _ => ([], true)
  | left + 1, offset =>
    match unpackFrom "<4s 16s HHHH B" resp offset with
    | some [.bytes tagRaw, .bytes nameRaw, .int rateHz, .int batch, .int channels, .int sampleType,
        .int enabled] =>
      let later := printLoop resp left (offset + 32)
      (streamLine tagRaw nameRaw rateHz batch channels sampleType enabled :: later.1, later.2)
    | _ => ([], false)

/-- `test_get_streams.py`, with the response. -/
def testGetStreams (resp : List UInt8) : List StreamLine × Bool :=
  match unpackFrom "<HBBHHIHH" resp 0, unpackFrom "<HH" resp 16 with
  | some _, some [.int streamCount, _] => printLoop resp streamCount 20
  | _, _ => ([], false)

/-- What it prints of a descriptor. -/
def printedLine (d : StreamDescriptor) : StreamLine :=
  streamLine (u32le d.streamTag) (nameField d) d.sampleRateHz.toNat d.batchCount.toNat d.channelCount.toNat
    d.sampleType.toNat d.isEnabled.toNat

/-- The two scripts send the same. -/
theorem testGetStreamsRequest_eq : testGetStreamsRequest = captureRequest := by decide

/-! ## The loops -/

theorem parseFormat_descriptor : parseFormat "<4s 16s HHHH B" = some [.s 4, .s 16, .H, .H, .H, .H, .B] := by
  decide

/-- A descriptor of a buffer that is cut off behind it. -/
theorem unpackFrom_cut (before : List UInt8) (d : StreamDescriptor) (more : List UInt8) {k : Nat}
    (hk : k ≤ (before ++ (d.toBytes ++ more)).length) :
    unpackFrom "<4s 16s HHHH B" ((before ++ (d.toBytes ++ more)).take k) before.length =
      if before.length + 29 ≤ k then
        some [.bytes (u32le d.streamTag), .bytes (nameField d), .int d.sampleRateHz.toNat,
          .int d.batchCount.toNat, .int d.channelCount.toNat, .int d.sampleType.toNat,
          .int d.isEnabled.toNat]
      else none := by
  rw [unpackFrom_take parseFormat_descriptor hk, unpackFrom_descriptor]
  rfl

/-- The loop of `capture_live_view` takes the descriptors that are there. -/
theorem captureLoop_cut (before : List UInt8) (ds : List StreamDescriptor) {k : Nat}
    (hk : k ≤ (before ++ ds.flatMap StreamDescriptor.toBytes).length) :
    captureLoop ((before ++ ds.flatMap StreamDescriptor.toBytes).take k) ds.length before.length =
      some ((ds.take ((k - before.length) / 32)).map capturedStream) := by
  induction ds generalizing before with
  | nil => simp [captureLoop]
  | cons d ds ih =>
      have hbytes : before ++ (d :: ds).flatMap StreamDescriptor.toBytes =
          before ++ (d.toBytes ++ ds.flatMap StreamDescriptor.toBytes) := by rw [List.flatMap_cons]
      rw [hbytes] at hk ⊢
      have hlen : ((before ++ (d.toBytes ++ ds.flatMap StreamDescriptor.toBytes)).take k).length = k :=
        List.length_take_of_le hk
      rw [List.length_cons]
      unfold captureLoop
      rw [hlen]
      by_cases hroom : before.length + 32 > k
      · have hnone : (k - before.length) / 32 = 0 := Nat.div_eq_of_lt (by omega)
        rw [if_pos hroom, hnone]
        rfl
      · have hnext := ih (before ++ d.toBytes) (by rwa [List.append_assoc])
        have hmore : (k - before.length) / 32 = (k - (before.length + 32)) / 32 + 1 := by omega
        rw [List.append_assoc, List.length_append, StreamDescriptor.length_toBytes] at hnext
        rw [if_neg hroom, unpackFrom_cut before d _ hk, if_pos (by omega)]
        dsimp only [Option.bind_eq_bind, Option.bind_some]
        rw [hnext, hmore]
        rfl

/-- The loop of `test_get_streams.py` needs all but the last three bytes of a descriptor. -/
theorem printLoop_cut (before : List UInt8) (ds : List StreamDescriptor) {k : Nat}
    (hk : k ≤ (before ++ ds.flatMap StreamDescriptor.toBytes).length) :
    printLoop ((before ++ ds.flatMap StreamDescriptor.toBytes).take k) ds.length before.length =
      ((ds.take ((k + 3 - before.length) / 32)).map printedLine,
        decide (ds.length ≤ (k + 3 - before.length) / 32)) := by
  induction ds generalizing before with
  | nil => simp [printLoop]
  | cons d ds ih =>
      have hbytes : before ++ (d :: ds).flatMap StreamDescriptor.toBytes =
          before ++ (d.toBytes ++ ds.flatMap StreamDescriptor.toBytes) := by rw [List.flatMap_cons]
      rw [hbytes] at hk ⊢
      rw [List.length_cons]
      unfold printLoop
      rw [unpackFrom_cut before d _ hk]
      by_cases hroom : before.length + 29 ≤ k
      · have hnext := ih (before ++ d.toBytes) (by rwa [List.append_assoc])
        have hmore : (k + 3 - before.length) / 32 = (k + 3 - (before.length + 32)) / 32 + 1 := by omega
        rw [List.append_assoc, List.length_append, StreamDescriptor.length_toBytes] at hnext
        rw [if_pos hroom]
        dsimp only
        rw [hnext, hmore]
        simp [printedLine]
      · have hnone : (k + 3 - before.length) / 32 = 0 := Nat.div_eq_of_lt (by omega)
        rw [if_neg hroom, hnone]
        simp

/-! ## The answer -/

variable {C : Type} [ITelemetryChannel C]

/-- The bytes of the answer. -/
theorem getStreams_bytes (hdr : PE_Header) (ds : List StreamDescriptor) :
    Frame.toBytes ⟨hdr, getStreamsResp ds⟩ =
      (hdr.toBytes ++ (u16le (UInt16.ofNat ds.length) ++ u16le 0)) ++ ds.flatMap StreamDescriptor.toBytes := by
  unfold Frame.toBytes getStreamsResp
  simp only [List.append_assoc]

/-- The count in the answer. -/
theorem unpackFrom_count (hdr : PE_Header) {ds : List StreamDescriptor} (h : ds.length < 65536) :
    unpackFrom "<H" (Frame.toBytes ⟨hdr, getStreamsResp ds⟩) 16 = some [.int ds.length] ∧
      unpackFrom "<HH" (Frame.toBytes ⟨hdr, getStreamsResp ds⟩) 16 = some [.int ds.length, .int 0] := by
  have hbytes : Frame.toBytes ⟨hdr, getStreamsResp ds⟩ =
      hdr.toBytes ++ (u16le (UInt16.ofNat ds.length) ++ (u16le 0 ++ ds.flatMap StreamDescriptor.toBytes)) := by
    rw [getStreams_bytes]
    simp only [List.append_assoc]
  have hlen : 20 ≤ (Frame.toBytes ⟨hdr, getStreamsResp ds⟩).length := by
    rw [Frame.toBytes, List.length_append, PE_Header.length_toBytes, length_getStreamsResp]
    omega
  have hreserved := readFields_append (Field.reads_H 0) [] (hdr.toBytes ++ u16le (UInt16.ofNat ds.length))
    (ds.flatMap StreamDescriptor.toBytes)
  have hcount := fun fs => readFields_append (Field.reads_H (UInt16.ofNat ds.length)) fs hdr.toBytes
    (u16le 0 ++ ds.flatMap StreamDescriptor.toBytes)
  rw [PE_Header.length_toBytes, UInt16.toNat_ofNat_of_lt' h] at hcount
  constructor
  · rw [unpackFrom_of_le (show parseFormat "<H" = some [.H] by decide) (Nat.le_trans (by decide) hlen), hbytes,
      hcount]
    rfl
  · rw [unpackFrom_of_le (show parseFormat "<HH" = some [.H, .H] by decide) (Nat.le_trans (by decide) hlen),
      hbytes, hcount, hreserved]
    rfl

theorem captureStreams_cut (hdr : PE_Header) {ds : List StreamDescriptor} (h : ds.length < 65536) {k : Nat}
    (hk : k ≤ (Frame.toBytes ⟨hdr, getStreamsResp ds⟩).length) :
    captureStreams ((Frame.toBytes ⟨hdr, getStreamsResp ds⟩).take k) =
      if k < 20 then none else some ((ds.take ((k - 20) / 32)).map capturedStream) := by
  have hlen := List.length_take_of_le hk
  unfold captureStreams
  rw [hlen]
  by_cases hshort : k < 20
  · rw [if_pos hshort, if_pos hshort]
  · rw [if_neg hshort, if_neg hshort, unpackFrom_take (show parseFormat "<H" = some [.H] by decide) hk,
      if_pos (show 16 + calcsize [.H] ≤ k from Nat.le_trans (by decide) (Nat.le_of_not_lt hshort)),
      (unpackFrom_count hdr h).1]
    rw [getStreams_bytes] at hk ⊢
    exact captureLoop_cut _ ds hk

theorem testGetStreams_cut (hdr : PE_Header) {ds : List StreamDescriptor} (h : ds.length < 65536) {k : Nat}
    (hk : k ≤ (Frame.toBytes ⟨hdr, getStreamsResp ds⟩).length) :
    testGetStreams ((Frame.toBytes ⟨hdr, getStreamsResp ds⟩).take k) =
      if k < 20 then ([], false)
      else ((ds.take ((k - 17) / 32)).map printedLine, decide (ds.length ≤ (k - 17) / 32)) := by
  have hheader : parseFormat "<HBBHHIHH" = some [.H, .B, .B, .H, .H, .I, .H, .H] := by decide
  unfold testGetStreams
  rw [unpackFrom_take hheader hk, unpackFrom_take (show parseFormat "<HH" = some [.H, .H] by decide) hk]
  by_cases hshort : k < 20
  · rw [if_pos hshort, if_neg (show ¬ 16 + calcsize [.H, .H] ≤ k from Nat.not_le_of_lt hshort)]
    split
    · rename_i hnone
      cases hnone
    · rfl
  · have hlong : 20 ≤ k := Nat.le_of_not_lt hshort
    rw [if_neg hshort, if_pos (show 16 + calcsize [.H, .H] ≤ k from hlong),
      if_pos (show 0 + calcsize [.H, .B, .B, .H, .H, .I, .H, .H] ≤ k from Nat.le_trans (by decide) hlong),
      unpackFrom_of_le hheader (Nat.le_trans (Nat.le_trans (by decide) hlong) hk), (unpackFrom_count hdr h).2]
    rw [getStreams_bytes] at hk ⊢
    have hlines := printLoop_cut (hdr.toBytes ++ (u16le (UInt16.ofNat ds.length) ++ u16le 0)) ds hk
    have hk17 : k + 3 - 20 = k - 17 := by omega
    rw [show (hdr.toBytes ++ (u16le (UInt16.ofNat ds.length) ++ u16le 0)).length = 20 from rfl, hk17] at hlines
    exact hlines

/-- **A catalog that is cut off.**  Of the answer to the request of either script, wherever the network cuts it,
let `k` bytes arrive.  Below 20 bytes `capture_live_view` raises; else its view has the channels, in their
order, whose 32 bytes have arrived, and no others.  `test_get_streams.py` prints a channel for which at most
the three reserved bytes are missing, and comes to its end exactly if it prints all. -/
theorem catalog_cut (cfg : NodeConfig) (n : Node C) (env : Env) {conn : List (List UInt8)}
    (hconn : captureRequest = some conn.flatten ∨ testGetStreamsRequest = some conn.flatten)
    (payloadBuffer : BytePtr) (nodeIp now viewName : List Char) :
    ∃ action frame n', (handleClient conn payloadBuffer).1 = [action] ∧
      n.serveAction cfg env action = some ([.reply frame], n') ∧
      frame.toBytes.length = 20 + 32 * n.telemetry.channels.length ∧
      ∀ k ≤ frame.toBytes.length,
        ((captureLiveView nodeIp now viewName (frame.toBytes.take k)).map ViewConfig.streams =
          if k < 20 then none
          else some ((n.telemetry.channels.take ((k - 20) / 32)).map fun ch =>
            capturedStream (streamDescriptor ch))) ∧
        testGetStreams (frame.toBytes.take k) =
          if k < 20 then ([], false)
          else ((n.telemetry.channels.take ((k - 17) / 32)).map fun ch => printedLine (streamDescriptor ch),
            decide (n.telemetry.channels.length ≤ (k - 17) / 32)) := by
  rw [testGetStreamsRequest_eq, or_self] at hconn
  obtain ⟨action, hactions, hserve⟩ := answer_captureRequest cfg n env hconn payloadBuffer
  have hcount : (n.telemetry.channels.map streamDescriptor).length < 65536 := by
    have hle : n.telemetry.channels.length ≤ 8 := n.telemetry.channels_le
    rw [List.length_map]
    omega
  refine ⟨action, _, _, hactions, hserve, ?_, fun k hk => ⟨?_, ?_⟩⟩
  · rw [Frame.toBytes, List.length_append, PE_Header.length_toBytes, length_getStreamsResp, List.length_map]
    omega
  · have hcut := captureStreams_cut _ hcount hk
    rw [← List.map_take, List.map_map] at hcut
    unfold captureLiveView
    rw [hcut]
    split
    · rfl
    · rfl
  · have hcut := testGetStreams_cut _ hcount hk
    rw [← List.map_take, List.map_map, List.length_map] at hcut
    exact hcut

/-- The board's channels. -/
theorem catalog_cut_board :
    ∃ action frame n', (handleClient [captureHeader.toBytes] fun _ => 0).1 = [action] ∧
      Node.board.serveAction ⟨Layout.lowest, Wiring.ethernetdev, 1⟩ Env.zero action =
        some ([.reply frame], n') ∧
      frame.toBytes.length = 20 + 32 * Node.board.telemetry.channels.length ∧
      ∀ k ≤ frame.toBytes.length,
        ((captureLiveView [] [] "live".toList (frame.toBytes.take k)).map ViewConfig.streams =
          if k < 20 then none
          else some ((Node.board.telemetry.channels.take ((k - 20) / 32)).map fun ch =>
            capturedStream (streamDescriptor ch))) ∧
        testGetStreams (frame.toBytes.take k) =
          if k < 20 then ([], false)
          else ((Node.board.telemetry.channels.take ((k - 17) / 32)).map fun ch =>
              printedLine (streamDescriptor ch),
            decide (Node.board.telemetry.channels.length ≤ (k - 17) / 32)) := by
  have hconn : captureRequest = some [captureHeader.toBytes].flatten := by
    rw [captureRequest_eq, List.flatten_singleton]
  exact catalog_cut ⟨Layout.lowest, Wiring.ethernetdev, 1⟩ Node.board Env.zero (Or.inl hconn) (fun _ => 0) [] []
    "live".toList

end EmbeddedPixel.TelemetryViews
