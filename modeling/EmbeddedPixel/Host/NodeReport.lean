import EmbeddedPixel.Host.OtaUpdater

/-!
# What the host makes of a node's report

A `PayloadDiscoveryPong` is 48 bytes, as the script's format says, but the format gives eighteen values
(the MAC address six, the hardware id three) and the tuple has thirteen targets.
`pong_never_decoded` — no report is decoded, neither as the answer to `CMD_GET_NODE_INFO` nor while the
script waits for the node after the reboot.
-/

set_option autoImplicit false

namespace EmbeddedPixel.OtaUpdater

open Foundation

/-- A header as the node wrote it. -/
theorem parseHeader_toBytes (hdr : PE_Header) (rest : List UInt8) :
    parseHeader (hdr.toBytes ++ rest) =
      .ok (some ⟨hdr.msgType.toNat, hdr.payloadLen.toNat⟩) := by
  have hlen : 16 ≤ (hdr.toBytes ++ rest).length := by
    rw [List.length_append, PE_Header.length_toBytes]
    omega
  have htype : u16At (BytePtr.ofList (hdr.toBytes ++ rest)) 6 = hdr.msgType :=
    u16At_ofList_drop rfl
  have hsize : u16At (BytePtr.ofList (hdr.toBytes ++ rest)) 12 = hdr.payloadLen :=
    u16At_ofList_drop rfl
  unfold parseHeader
  rw [if_neg (by omega), unpackOrRaise_slice parseFormat_header hlen rfl, ← htype, ← hsize]
  rfl

/-- Eighteen values, thirteen targets. -/
theorem decodePong_of_le {payload : List UInt8} (h : 48 ≤ payload.length) :
    decodePong payload = .error .valueError := by
  have hformat : parseFormat "<IHHI 6B H I I III I I" =
      some [.I, .H, .H, .I, .B, .B, .B, .B, .B, .B, .H, .I, .I, .I, .I, .I, .I, .I] := by decide
  unfold decodePong
  rw [unpackOrRaise_slice hformat h rfl]
  rfl

theorem checkNode_of_le {payload : List UInt8} (h : 48 ≤ payload.length)
    (hdrInfo : Option ImageHeader) :
    checkNode hdrInfo CMD_GET_NODE_INFO_RESP payload = .error .valueError := by
  unfold checkNode
  rw [if_pos ⟨rfl, by omega⟩, if_pos h, decodePong_of_le h]
  rfl

theorem length_pong {p : PayloadDiscoveryPong} (hmac : p.macAddr.length = 6) :
    p.toBytes.length = 48 := by
  simp [PayloadDiscoveryPong.toBytes, hmac]

/-- What decoding a report should give. -/
def ActiveNode.ofPong (p : PayloadDiscoveryPong) : ActiveNode :=
  ⟨p.boardId.toNat, p.fwVersion.toNat, p.uptimeMs.toNat, p.bootloaderVersion.toNat,
    p.featureFlags.toNat⟩

/-- **No report is decoded.**  For every `PayloadDiscoveryPong`: the decoding raises `ValueError`, and
so do the two places that call it, whatever the header of the image and of the datagram. -/
theorem pong_never_decoded (p : PayloadDiscoveryPong) (hmac : p.macAddr.length = 6)
    (hdrInfo : Option ImageHeader) (hdr : PE_Header)
    (htype : hdr.msgType = MessageType.discoveryPong.code) :
    decodePong p.toBytes ≠ .ok (.ofPong p) ∧
      checkNode hdrInfo CMD_GET_NODE_INFO_RESP p.toBytes = .error .valueError ∧
      onDatagram (hdr.toBytes ++ p.toBytes) = .error .valueError := by
  have hlen := length_pong hmac
  have hdecode := decodePong_of_le (Nat.le_of_eq hlen.symm)
  refine ⟨?_, checkNode_of_le (Nat.le_of_eq hlen.symm) hdrInfo, ?_⟩
  · rw [hdecode]
    intro h
    cases h
  · have hpayload : (hdr.toBytes ++ p.toBytes).drop 16 = p.toBytes :=
      List.drop_left' (PE_Header.length_toBytes hdr)
    have hcode : hdr.msgType.toNat = 3 := by
      rw [htype]
      rfl
    unfold onDatagram
    rw [if_neg (by simp), parseHeader_toBytes, hcode]
    dsimp only [bind, Except.bind, Option.map_some]
    rw [hpayload, if_pos (show p.toBytes.length ≥ 48 by omega), hdecode]
    rfl

/-- A report of zeros. -/
theorem pong_never_decoded_zero :
    onDatagram ((populateHeader 0 .discoveryPong 0 48 FLAG_IS_RESPONSE false none).toBytes ++
      (PayloadDiscoveryPong.mk 0 0 0 0 [0, 0, 0, 0, 0, 0] 0 0 0 (0, 0, 0) 0 0).toBytes) =
        .error .valueError :=
  (pong_never_decoded (PayloadDiscoveryPong.mk 0 0 0 0 [0, 0, 0, 0, 0, 0] 0 0 0 (0, 0, 0) 0 0) rfl
    none (populateHeader 0 .discoveryPong 0 48 FLAG_IS_RESPONSE false none) rfl).2.2

theorem pong_not_read_back :
    ¬ ∀ p : PayloadDiscoveryPong, p.macAddr.length = 6 →
      decodePong p.toBytes = .ok (.ofPong p) := by
  intro h
  have hzero := h ⟨0, 0, 0, 0, [0, 0, 0, 0, 0, 0], 0, 0, 0, (0, 0, 0), 0, 0⟩ rfl
  have hraise : decodePong (PayloadDiscoveryPong.toBytes
      ⟨0, 0, 0, 0, [0, 0, 0, 0, 0, 0], 0, 0, 0, (0, 0, 0), 0, 0⟩) = .error .valueError := by
    decide +kernel
  rw [hraise] at hzero
  cases hzero

end EmbeddedPixel.OtaUpdater
