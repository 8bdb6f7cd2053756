import EmbeddedPixel.Net.CommandService

/-!
# Which payload bytes a request is read from

`processCommand` gets the static payload buffer, of which only the first `payload_len` bytes belong
to the request.  `request_local_iff` says exactly when no other byte is read, and then none matters:
when the request is not a data chunk or a command text whose inner length runs past `payload_len`
(`Overreads`).
-/

set_option autoImplicit false

namespace EmbeddedPixel

open Foundation

namespace OtaService

variable (p : BytePtr)

/-- A chunk is read, all of it, once the session and the size let it through. -/
theorem reach_handleData (L : Layout) (c : Option SystemController) (req : PayloadOtaData)
    (dataLen : UInt16) (m : OtaMachine) :
    (handleData L c req dataLen m).reach p =
      if m.svc.state = .receiving ∧ req.offset + dataLen.toUInt32 ≤ m.svc.totalImageSize then
        Reader.blockEnd 0 dataLen.toNat
      else 0 := by
  unfold handleData
  by_cases hs : m.svc.state = .receiving
  · rw [if_neg (not_not.2 hs)]
    by_cases hle : req.offset + dataLen.toUInt32 ≤ m.svc.totalImageSize
    · rw [if_neg (UInt32.not_lt.2 hle), if_pos ⟨hs, hle⟩]
      unfold chunkCrcOk
      by_cases hcrc : req.chunkCrc16 = 0
      · simp [hcrc]
      · simp [hcrc]
        split
        · simp
        · simp
    · rw [if_pos (UInt32.not_le.1 hle), if_neg fun h => hle h.2]
      rfl
  · rw [if_pos hs, if_neg fun h => hs h.1]
    rfl

end OtaService

namespace CommandService

variable {C : Type} (cfg : NodeConfig) (env : Env) (hdr : PE_Header) (n : Node C) (p : BytePtr)

/-! ## Structures in the payload -/

theorem view_otaBegin :
    (Reader.view 0 16 PayloadOtaBegin.ofPtr).run p = PayloadOtaBegin.ofPtr p := by
  simp (disch := decide) only [Reader.run_view, PayloadOtaBegin.ofPtr, u32At_ofList_bytesAt,
    u16At_ofList_bytesAt, Nat.zero_add]

theorem view_otaEnd : (Reader.view 0 8 PayloadOtaEnd.ofPtr).run p = PayloadOtaEnd.ofPtr p := by
  simp (disch := decide) only [Reader.run_view, PayloadOtaEnd.ofPtr, u32At_ofList_bytesAt,
    ofList_bytesAt, Nat.zero_add]

theorem view_otaData :
    (Reader.view 0 8 PayloadOtaData.ofPtr).run p = PayloadOtaData.ofPtr p := by
  simp (disch := decide) only [Reader.run_view, PayloadOtaData.ofPtr, u32At_ofList_bytesAt,
    u16At_ofList_bytesAt, Nat.zero_add]

theorem view_cliExec :
    (Reader.view 0 4 PayloadCliExec.ofPtr).run p = PayloadCliExec.ofPtr p := by
  simp (disch := decide) only [Reader.run_view, PayloadCliExec.ofPtr, u16At_ofList_bytesAt,
    Nat.zero_add]

/-- A structure that the length check covers. -/
theorem reach_view_le {α : Type} {size len : Nat} (f : BytePtr → α) (h : size ≤ len) :
    (Reader.view 0 size f).reach p ≤ len := by
  rw [Reader.reach_view]
  exact Reader.blockEnd_le (by omega)

/-! ## Requests -/

theorem reach_payloadCommand : (payloadCommand hdr).reach p ≤ hdr.payloadLen.toNat := by
  unfold payloadCommand
  split
  · rename_i hlen
    rw [Reader.reach_bind, Reader.reach_pure, Nat.max_zero]
    exact reach_view_le p _ hlen
  · exact Nat.zero_le _

/-- Where an OTA request reaches. -/
theorem reach_otaRequest (size : UInt16) (serve : Reader (Option (Reply C))) (b : Nat) :
    (otaRequest cfg hdr n size serve).reach p ≤ b ↔
      (cfg.wiring.commandOta = true → size ≤ hdr.payloadLen → serve.reach p ≤ b) := by
  unfold otaRequest
  split
  · rename_i hota
    have hota : cfg.wiring.commandOta = false := by simpa using hota
    refine ⟨fun _ h => ?_, fun _ => Nat.zero_le _⟩
    rw [hota] at h
    cases h
  · rename_i hota
    have hota : cfg.wiring.commandOta = true := by simpa using hota
    split
    · rename_i hlen
      exact ⟨fun _ _ h => absurd hlen (UInt16.not_lt.2 h), fun _ => Nat.zero_le _⟩
    · rename_i hlen
      exact ⟨fun h _ _ => h, fun h => h hota (UInt16.not_lt.1 hlen)⟩

theorem reach_otaBegin : (otaBegin cfg env hdr n).reach p ≤ hdr.payloadLen.toNat := by
  refine (reach_otaRequest cfg hdr n p _ _ _).2 fun _ hlen => ?_
  rw [Reader.reach_bind, Reader.reach_pure, Nat.max_zero]
  exact reach_view_le p _ hlen

theorem reach_otaEnd : (otaEnd cfg hdr n).reach p ≤ hdr.payloadLen.toNat := by
  refine (reach_otaRequest cfg hdr n p _ _ _).2 fun _ hlen => ?_
  rw [Reader.reach_bind, Reader.reach_pure, Nat.max_zero]
  exact reach_view_le p _ hlen

/-- A chunk is served whose length, given in the request, runs past the payload. -/
def ChunkOverread : Prop :=
  let req := PayloadOtaData.ofPtr p
  cfg.wiring.commandOta = true ∧ 8 ≤ hdr.payloadLen.toNat ∧ n.ota.svc.state = .receiving ∧
    req.offset + req.chunkLen.toUInt32 ≤ n.ota.svc.totalImageSize ∧
    hdr.payloadLen.toNat < 8 + req.chunkLen.toNat

theorem reach_otaData :
    (otaData cfg hdr n).reach p ≤ hdr.payloadLen.toNat ↔ ¬ ChunkOverread cfg hdr n p := by
  have hview := view_otaData p
  unfold otaData
  rw [reach_otaRequest]
  unfold ChunkOverread
  constructor
  · rintro h ⟨hota, hlen, hs, hle, hover⟩
    have h := h hota hlen
    rw [Reader.reach_bind, hview, Reader.reach_bind, Reader.reach_pure, Nat.max_zero] at h
    have hadv := (Nat.max_le.1 h).2
    rw [show hdr.payloadLen.toNat = 8 + (hdr.payloadLen.toNat - 8) by omega,
      Reader.reach_advance_le, OtaService.reach_handleData, if_pos ⟨hs, hle⟩] at hadv
    unfold Reader.blockEnd at hadv
    split at hadv
    · omega
    · omega
  · intro hno hota hlen
    have hlen : 8 ≤ hdr.payloadLen.toNat := hlen
    rw [Reader.reach_bind, hview, Reader.reach_bind, Reader.reach_pure, Nat.max_zero]
    refine Nat.max_le.2 ⟨reach_view_le p _ hlen, ?_⟩
    rw [show hdr.payloadLen.toNat = 8 + (hdr.payloadLen.toNat - 8) by omega,
      Reader.reach_advance_le, OtaService.reach_handleData]
    split
    · rename_i hserved
      refine Reader.blockEnd_le ?_
      by_contra hover
      exact hno ⟨hota, hlen, hserved.1, hserved.2, by omega⟩
    · exact Nat.zero_le _

section Telemetry

variable [ITelemetryChannel C]

theorem reach_startStream : (startStream cfg hdr n).reach p ≤ hdr.payloadLen.toNat := by
  unfold startStream
  rw [Reader.reach_bind, Reader.reach_pure, Nat.max_zero]
  exact reach_payloadCommand hdr p

theorem reach_stopStream : (stopStream cfg hdr n).reach p ≤ hdr.payloadLen.toNat := by
  unfold stopStream
  rw [Reader.reach_bind, Reader.reach_pure, Nat.max_zero]
  exact reach_payloadCommand hdr p

/-- A command text whose length, given in the request, runs past the payload. -/
def TextOverread : Prop :=
  cfg.wiring.commandCli = true ∧ 4 ≤ hdr.payloadLen.toNat ∧
    hdr.payloadLen.toNat < 4 + min (PayloadCliExec.ofPtr p).cmdLen.toNat 127

theorem reach_cliExec :
    (cliExec cfg env hdr n).reach p ≤ hdr.payloadLen.toNat ↔ ¬ TextOverread cfg hdr p := by
  have hview := view_cliExec p
  unfold cliExec TextOverread
  split
  · rename_i hcli
    have hcli : cfg.wiring.commandCli = false := by simpa using hcli
    rw [hcli]
    refine ⟨fun _ h => ?_, fun _ => Nat.zero_le _⟩
    cases h.1
  · rename_i hcli
    have hcli : cfg.wiring.commandCli = true := by simpa using hcli
    rw [Reader.reach_bind, Reader.reach_pure, Nat.max_zero]
    unfold cliText
    split
    · rename_i hlen
      have hlen : 4 ≤ hdr.payloadLen.toNat := hlen
      rw [Reader.reach_bind, hview, Reader.reach_bind, Reader.reach_pure, Nat.max_zero,
        Reader.reach_bytes, Nat.max_le]
      unfold Reader.blockEnd
      constructor
      · rintro ⟨-, h⟩ ⟨-, -, hover⟩
        split at h
        · omega
        · omega
      · intro h
        refine ⟨reach_view_le p _ hlen, ?_⟩
        by_contra hover
        refine h ⟨hcli, hlen, ?_⟩
        split at hover
        · omega
        · omega
    · rename_i hlen
      have hlen : ¬ 4 ≤ hdr.payloadLen.toNat := hlen
      rw [Reader.reach_bind, Reader.reach_pure, Nat.max_zero, Reader.reach_bytes]
      refine ⟨fun _ h => hlen h.2.1, fun _ => Reader.blockEnd_le ?_⟩
      omega

/-- A length inside the request runs past the payload, and is served. -/
def Overreads : Prop :=
  match MessageType.ofCode hdr.msgType with
  | some .cmdOtaData => ChunkOverread cfg hdr n p
  | some .cmdCliExec => TextOverread cfg hdr p
  | _ => False

/-- **A request is interpreted from its own bytes**: no byte from `payload_len` on is read, and no
such byte changes the response or the node, exactly when no inner length that is served runs past the
payload. -/
theorem request_local_iff :
    (processCommand cfg env hdr n).LocalBelow hdr.payloadLen.toNat p ↔
      ¬ Overreads cfg hdr n p := by
  rw [Reader.localBelow_iff]
  unfold processCommand Overreads
  generalize MessageType.ofCode hdr.msgType = type
  split
  · simp
  · simpa using reach_startStream cfg hdr n p
  · simpa using reach_stopStream cfg hdr n p
  · simp
  · simpa using reach_otaBegin cfg env hdr n p
  · exact reach_otaData cfg hdr n p
  · simpa using reach_otaEnd cfg hdr n p
  · simp
  · simp
  · rw [Reader.reach_map]
    exact reach_cliExec cfg env hdr n p
  · simp
  · simp

end Telemetry

end CommandService

/-! ## A leftover chunk -/

/-- An environment where all that is read from outside is zero. -/
def Env.zero : Env := ⟨fun _ => 0, 0, List.replicate 6 0, rfl, (0, 0, 0), none, fun _ => 0⟩

/-- A request of a type with a payload, read into a buffer that is zero after it. -/
def NodeRequest.of (type : MessageType) (payload : List UInt8) : NodeRequest :=
  ⟨Env.zero,
    ⟨PE_MAGIC, PE_PROTOCOL_VERSION, 0, 0, type.code, 0, UInt16.ofNat payload.length, 0⟩,
    BytePtr.ofList payload⟩

/-- `ethernetdev` with its counter channel, after power-up. -/
def Node.ethernetdev : Node CounterChannel :=
  Node.powerUp (fun _ => 0) (SystemController.ethernetdev fun _ => 0) 500
    (TelemetryService.create.registerChannel (CounterChannel.create 10 1)).2
    (DiscoveryService.create (MAKE_VERSION 1 0 0 0))

def NodeConfig.ethernetdev : NodeConfig := ⟨Layout.lowest, Wiring.ethernetdev, 1⟩

/-- The payload of `CMD_OTA_BEGIN` for an image without a version. -/
def beginPayload (imageSize imageCrc32 : UInt32) : List UInt8 :=
  u32le imageSize ++ u32le imageCrc32 ++ u32le 0 ++ u16le 1024 ++ u16le 0

/-- A data request of eight bytes that announces one byte of chunk, in a buffer where an earlier
request has left a byte behind. -/
def bareData (left : UInt8) : NodeRequest where
  env := Env.zero
  hdr := (NodeRequest.of .cmdOtaData (List.replicate 8 0)).hdr
  payload := BytePtr.ofList (u32le 0 ++ u16le 1 ++ u16le 0 ++ [left])

/-- The byte left behind is staged. -/
theorem leftover_staged :
    ¬ ∀ (cfg : NodeConfig) (ram : Mem 32) (ctrl : SystemController) (period : UInt32)
      (telemetry : TelemetryService CounterChannel) (discovery : DiscoveryService)
      (t : List (NodeRequest × List NodeEvent)) (n : Node CounterChannel),
      Machine.Run (Node.step cfg) (Node.powerUp ram ctrl period telemetry discovery) t n →
        ∀ (env : Env) (hdr : PE_Header), hdr.payloadLen ≤ 2048 → ∀ p q : BytePtr,
          (∀ i < hdr.payloadLen.toNat, p i = q i) →
            Node.step cfg n ⟨env, hdr, q⟩ = Node.step cfg n ⟨env, hdr, p⟩ := by
  intro h
  have hexec : (Machine.exec (Node.step NodeConfig.ethernetdev) Node.ethernetdev
      [.of .cmdOtaBegin (beginPayload 1 0)]).any
      (fun r => decide (∀ left ∈ ([7, 9] : List UInt8),
        (Node.step NodeConfig.ethernetdev r.2 (bareData left)).map
          (fun s => s.2.ota.ram Layout.lowest.stagingBuffer) = some left)) = true := by
    decide +kernel
  obtain ⟨t, n, hrun, -, hp⟩ := Machine.exec_any hexec
  have hstaged := of_decide_eq_true hp
  have hagree : ∀ i < (bareData 7).hdr.payloadLen.toNat,
      (bareData 7).payload i = (bareData 9).payload i := by decide
  have hsame : Node.step NodeConfig.ethernetdev n (bareData 9) =
      Node.step NodeConfig.ethernetdev n (bareData 7) :=
    h _ _ _ _ _ _ t n hrun Env.zero (bareData 7).hdr (by decide) _ _ hagree
  have hseven := hstaged 7 (by simp)
  rw [← hsame, hstaged 9 (by simp)] at hseven
  exact absurd hseven (by decide)

end EmbeddedPixel
