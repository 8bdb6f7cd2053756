import Mathlib.Data.List.GetD
import EmbeddedPixel.Net.CommandService

/-!
# Framing on a command connection (`handleClient` of `net/services/CommandService.cpp`)

`NetconnStreamReader` hands out the bytes of a connection, which `netconn_recv` gives in buffers of any
length; it keeps the buffer in use with the place in it, and its fields say that the place is inside.
`handleClient` reads frame after frame through it into the static payload buffer.

`parseFrames` is the parser on the bytes alone.  `handleClient_eq_parseFrames`: what a connection
brings about depends on the bytes it carries, not on where the network cuts them.
-/

set_option autoImplicit false

namespace EmbeddedPixel

open Foundation

/-! ## The stream reader -/

/-- `NetconnStreamReader`; `conn` are the buffers `netconn_recv` gives before it fails. -/
structure NetconnStreamReader where
  conn : List (List UInt8)
  curBuf : Option (List UInt8)
  bufOffset : Nat
  bufLen : Nat
  bufLen_eq : ∀ buf ∈ curBuf, bufLen = buf.length
  bufOffset_le : bufOffset ≤ bufLen

namespace NetconnStreamReader

/-- The constructor. -/
def create (conn : List (List UInt8)) : NetconnStreamReader :=
  ⟨conn, none, 0, 0, by simp, Nat.le_refl 0⟩

/-- The reader after `netconn_recv` has given a buffer. -/
def received (buf : List UInt8) (conn : List (List UInt8)) : NetconnStreamReader :=
  ⟨conn, some buf, 0, buf.length, by simp, Nat.zero_le _⟩

/-- The start of a turn of the loop: the next buffer is received if none is in use or the one in use
is used up. -/
def refill (this : NetconnStreamReader) : Option NetconnStreamReader :=
  if this.curBuf.isNone ∨ this.bufOffset ≥ this.bufLen then
    match this.conn with
    | [] => none
    | buf :: conn => some (received buf conn)
  else some this

/-- `netbuf_copy_partial(buf, dest + copied, len, offset)` -/
def netbufCopyPartial (buf : List UInt8) (dest : BytePtr) (copied len offset : Nat) : BytePtr :=
  fun i => if copied ≤ i ∧ i < copied + len then buf.getD (offset + (i - copied)) 0 else dest i

/-- How much of what is needed is in the buffer in use. -/
def toCopy (this : NetconnStreamReader) (needed copied : Nat) : Nat :=
  let available := this.bufLen - this.bufOffset
  if needed - copied < available then needed - copied else available

theorem toCopy_le (this : NetconnStreamReader) (needed copied : Nat) :
    this.bufOffset + this.toCopy needed copied ≤ this.bufLen := by
  have h := this.bufOffset_le
  unfold toCopy
  dsimp only
  split
  · omega
  · omega

/-- `buf_offset_ += to_copy` -/
def consume (this : NetconnStreamReader) (needed copied : Nat) : NetconnStreamReader :=
  { this with
    bufOffset := this.bufOffset + this.toCopy needed copied
    bufOffset_le := this.toCopy_le needed copied }

/-- Receiving uses up a buffer; without it there is something to copy. -/
theorem refill_progress {this r : NetconnStreamReader} (h : this.refill = some r) :
    r.conn.length < this.conn.length ∨ r = this ∧ r.bufOffset < r.bufLen := by
  unfold refill at h
  split at h
  · split at h
    · cases h
    · rename_i hconn
      cases h
      rw [hconn]
      exact Or.inl (Nat.lt_succ_self _)
  · rename_i huse
    cases h
    exact Or.inr ⟨rfl, by omega⟩

/-- The loop of `readExact`, which fills `dest` from `copied` on. -/
def readExact (this : NetconnStreamReader) (dest : BytePtr) (needed copied : Nat) :
    Bool × BytePtr × NetconnStreamReader :=
  if copied < needed then
    match _ : this.refill with
    | none => (false, dest, this)
    | some r =>
      let n := r.toCopy needed copied
      let dest := netbufCopyPartial (r.curBuf.getD []) dest copied n r.bufOffset
      (r.consume needed copied).readExact dest needed (copied + n)
  else (true, dest, this)
termination_by this.conn.length + (needed - copied)
decreasing_by
  rename_i hr
  have hprogress := refill_progress hr
  simp only [consume, toCopy]
  rcases hprogress with hlt | ⟨rfl, hlt⟩
  · split
    · omega
    · omega
  · split
    · omega
    · omega

/-! ### What the reader still has -/

/-- The bytes that have not been handed out. -/
def unread (this : NetconnStreamReader) : List UInt8 :=
  (this.curBuf.getD []).drop this.bufOffset ++ this.conn.flatten

@[simp] theorem unread_create (conn : List (List UInt8)) : (create conn).unread = conn.flatten := by
  simp [unread, create]

/-- The buffer in use, as a list: its length is `buf_len_`. -/
theorem length_curBuf {this : NetconnStreamReader} (h : this.curBuf.isSome) :
    (this.curBuf.getD []).length = this.bufLen := by
  obtain ⟨buf, hbuf⟩ := Option.isSome_iff_exists.1 h
  rw [hbuf, this.bufLen_eq buf hbuf]
  rfl

theorem unread_of_refill_none {this : NetconnStreamReader} (h : this.refill = none) :
    this.unread = [] := by
  unfold refill at h
  split at h
  · rename_i hused
    split at h
    · rename_i hconn
      unfold unread
      rw [hconn, List.flatten_nil, List.append_nil]
      rcases hbuf : this.curBuf with - | buf
      · simp
      · have hlen := this.bufLen_eq buf hbuf
        simp only [hbuf, Option.isNone_some, Bool.false_eq_true, false_or] at hused
        rw [Option.getD_some, List.drop_eq_nil_iff]
        omega
    · cases h
  · cases h

theorem unread_of_refill {this r : NetconnStreamReader} (h : this.refill = some r) :
    r.unread = this.unread ∧ r.curBuf.isSome := by
  unfold refill at h
  split at h
  · rename_i hused
    split at h
    · cases h
    · rename_i buf conn hconn
      cases h
      refine ⟨?_, rfl⟩
      have hdrop : (this.curBuf.getD []).drop this.bufOffset = [] := by
        rcases hbuf : this.curBuf with - | used
        · simp
        · have hlen := this.bufLen_eq used hbuf
          simp only [hbuf, Option.isNone_some, Bool.false_eq_true, false_or] at hused
          rw [Option.getD_some, List.drop_eq_nil_iff]
          omega
      simp [unread, received, hdrop, hconn]
  · rename_i huse
    cases h
    refine ⟨rfl, ?_⟩
    rw [Option.isSome_iff_ne_none]
    intro hnone
    simp [hnone] at huse

/-- What a turn of the loop copies are the next bytes. -/
theorem copied_eq_take {r : NetconnStreamReader} (h : r.curBuf.isSome) (needed copied : Nat)
    (dest : BytePtr) :
    bytesAt (netbufCopyPartial (r.curBuf.getD []) dest copied (r.toCopy needed copied) r.bufOffset)
      copied (r.toCopy needed copied) = r.unread.take (r.toCopy needed copied) := by
  have hlen := length_curBuf h
  have hle := r.toCopy_le needed copied
  apply List.ext_getElem
  · simp [unread, hlen]
    omega
  · intro k h₁ h₂
    have hk : k < r.toCopy needed copied := by simpa using h₁
    have hin : r.bufOffset + k < (r.curBuf.getD []).length := by omega
    rw [getElem_bytesAt]
    simp only [netbufCopyPartial, Nat.le_add_right, Nat.add_lt_add_iff_left, hk, and_self, if_true,
      Nat.add_sub_cancel_left, List.getElem_take]
    unfold unread
    rw [List.getElem_append_left (by rw [List.length_drop]; omega), List.getElem_drop,
      List.getD_eq_getElem _ _ hin]

theorem unread_consume {r : NetconnStreamReader} (h : r.curBuf.isSome) (needed copied : Nat) :
    (r.consume needed copied).unread = r.unread.drop (r.toCopy needed copied) := by
  have hlen := length_curBuf h
  have hle := r.toCopy_le needed copied
  unfold unread consume
  dsimp only
  rw [List.drop_append_of_le_length (by rw [List.length_drop]; omega), List.drop_drop]

/-- A turn of the loop does not copy too much. -/
theorem toCopy_le_needed (r : NetconnStreamReader) (needed copied : Nat) :
    r.toCopy needed copied ≤ needed - copied := by
  unfold toCopy
  dsimp only
  split
  · omega
  · omega

theorem toCopy_le_unread {r : NetconnStreamReader} (h : r.curBuf.isSome) (needed copied : Nat) :
    r.toCopy needed copied ≤ r.unread.length := by
  have hlen := length_curBuf h
  have hle := r.toCopy_le needed copied
  unfold unread
  rw [List.length_append, List.length_drop]
  omega

/-- **`readExact` takes the next bytes off the connection**, wherever the buffers end, and fails
exactly when there are too few. -/
theorem readExact_spec (this : NetconnStreamReader) (dest : BytePtr) (needed copied : Nat) :
    ((this.readExact dest needed copied).1 = true ↔ needed - copied ≤ this.unread.length) ∧
    ((this.readExact dest needed copied).1 = true →
      (this.readExact dest needed copied).2.2.unread = this.unread.drop (needed - copied) ∧
      (∀ i < copied, (this.readExact dest needed copied).2.1 i = dest i) ∧
      bytesAt (this.readExact dest needed copied).2.1 copied (needed - copied) =
        this.unread.take (needed - copied)) := by
  fun_induction readExact this dest needed copied with
  | case1 this dest copied hlt hnone =>
      have hempty := unread_of_refill_none hnone
      refine ⟨?_, fun h => by cases h⟩
      simp [hempty]
      omega
  | case2 this dest copied hlt r hr n dest' ih =>
      obtain ⟨hunread, hbuf⟩ := unread_of_refill hr
      obtain ⟨hok, hdone⟩ := ih
      have hn : n ≤ needed - copied := toCopy_le_needed r needed copied
      have hlen : n ≤ r.unread.length := toCopy_le_unread hbuf needed copied
      have hrest : (r.consume needed copied).unread = r.unread.drop n := unread_consume hbuf _ _
      rw [hrest] at hok hdone
      rw [← hunread]
      have hsplit : needed - copied = n + (needed - (copied + n)) := by omega
      refine ⟨?_, fun h => ?_⟩
      · rw [hok, List.length_drop]
        omega
      · obtain ⟨hleft, hkept, hbytes⟩ := hdone h
        refine ⟨?_, fun i hi => ?_, ?_⟩
        · rw [hleft, List.drop_drop, ← hsplit]
        · rw [hkept i (by omega)]
          show netbufCopyPartial _ _ _ _ _ i = _
          unfold netbufCopyPartial
          rw [if_neg (by omega)]
        · have hnew : bytesAt dest' copied n = r.unread.take n := copied_eq_take hbuf _ _ _
          rw [hsplit, bytesAt_add, hbytes, List.take_add, ← hnew]
          congr 1
          apply bytesAt_congr
          intro k hk
          exact hkept _ (by omega)
  | case3 this dest copied hge =>
      have hzero : needed - copied = 0 := by omega
      refine ⟨?_, fun _ => ⟨?_, fun _ _ => rfl, ?_⟩⟩
      · simp [hzero]
      · simp [hzero]
      · simp [hzero]

end NetconnStreamReader

/-! ## The connection -/

/-- What `handleClient` does about a frame. -/
inductive ClientAction where
  | processCommand (hdr : PE_Header) (payload : BytePtr)
  | sendAckNack (cmdId : UInt16) (status : StatusCode)

namespace CommandService

/-- `sizeof(s_payload_buffer)` -/
def PAYLOAD_BUFFER_SIZE : Nat := 2048

/-- The payload, if the header announces one. -/
def readPayload (hdr : PE_Header) (reader : NetconnStreamReader) (payloadBuffer : BytePtr) :
    Bool × BytePtr × NetconnStreamReader :=
  if hdr.payloadLen > 0 then reader.readExact payloadBuffer hdr.payloadLen.toNat 0
  else (true, payloadBuffer, reader)

/-- One turn of the loop of `handleClient`: what it does about the frame, the payload buffer after it,
and the reader if the loop goes on. -/
def clientTurn (reader : NetconnStreamReader) (payloadBuffer : BytePtr) :
    Option ClientAction × BytePtr × Option NetconnStreamReader :=
  -- all of the header is written before it is looked at
  match reader.readExact (fun _ => 0) 16 0 with
  | (false, _, _) => (none, payloadBuffer, none)
  | (true, bytes, reader) =>
    let hdr := PE_Header.ofPtr bytes
    if hdr.magic ≠ PE_MAGIC then
      (some (.sendAckNack hdr.msgType .errInvalidMagic), payloadBuffer, none)
    else if hdr.payloadLen.toNat > PAYLOAD_BUFFER_SIZE then
      (some (.sendAckNack hdr.msgType .errInvalidPayload), payloadBuffer, none)
    else
      match readPayload hdr reader payloadBuffer with
      | (false, payloadBuffer, _) => (none, payloadBuffer, none)
      | (true, payloadBuffer, reader) =>
        (some (.processCommand hdr payloadBuffer), payloadBuffer,
          if hdr.msgType ≠ MessageType.cmdOtaData.code then none else some reader)

end CommandService

/-! ## The parser on the bytes -/

/-- What a frame brings about. -/
inductive Received where
  | dispatched (hdr : PE_Header) (payload : List UInt8)
  | refused (cmdId : UInt16) (status : StatusCode)
  deriving DecidableEq

/-- A dispatched frame has as much payload as its header says. -/
def ClientAction.received : ClientAction → Received
  | .processCommand hdr payload => .dispatched hdr (bytesAt payload 0 hdr.payloadLen.toNat)
  | .sendAckNack cmdId status => .refused cmdId status

/-- The frame a stream begins with, and the rest of the stream if it is parsed as well. -/
def parseFrame (stream : List UInt8) : Option Received × Option (List UInt8) :=
  if stream.length < 16 then (none, none)
  else
    let hdr := PE_Header.ofPtr (BytePtr.ofList stream)
    let payloadLen := hdr.payloadLen.toNat
    let rest := stream.drop 16
    if hdr.magic ≠ PE_MAGIC then (some (.refused hdr.msgType .errInvalidMagic), none)
    else if payloadLen > 2048 then (some (.refused hdr.msgType .errInvalidPayload), none)
    else if rest.length < payloadLen then (none, none)
    else
      (some (.dispatched hdr (rest.take payloadLen)),
        if MessageType.ofCode hdr.msgType = some .cmdOtaData then some (rest.drop payloadLen)
        else none)

theorem length_parseFrame {stream rest : List UInt8} {r : Option Received}
    (h : parseFrame stream = (r, some rest)) : rest.length < stream.length := by
  unfold parseFrame at h
  split at h
  · cases h
  dsimp only at h
  split at h
  · cases h
  split at h
  · cases h
  split at h
  · cases h
  split at h
  · cases h
    simp only [List.length_drop]
    omega
  · cases h

/-- The parser: frame after frame, to the first that is not a data chunk. -/
def parseFrames (stream : List UInt8) : List Received :=
  match _ : parseFrame stream with
  | (received, none) => received.toList
  | (received, some rest) => received.toList ++ parseFrames rest
termination_by stream.length
decreasing_by
  rename_i h
  exact length_parseFrame h

theorem parseFrames_of_last {stream : List UInt8} {r : Option Received}
    (h : parseFrame stream = (r, none)) : parseFrames stream = r.toList := by
  unfold parseFrames
  split
  · rename_i h'
    rw [h] at h'
    cases h'
    rfl
  · rename_i h'
    rw [h] at h'
    cases h'

theorem parseFrames_of_more {stream rest : List UInt8} {r : Option Received}
    (h : parseFrame stream = (r, some rest)) :
    parseFrames stream = r.toList ++ parseFrames rest := by
  rw [parseFrames]
  split
  · rename_i h'
    rw [h] at h'
    cases h'
  · rename_i h'
    rw [h] at h'
    cases h'
    rfl

/-- A stream that begins with a whole frame. -/
theorem parseFrame_append (hdr : PE_Header) {payload more : List UInt8}
    (hlen : payload.length = hdr.payloadLen.toNat) :
    parseFrame (hdr.toBytes ++ (payload ++ more)) =
      if hdr.magic ≠ PE_MAGIC then (some (.refused hdr.msgType .errInvalidMagic), none)
      else if hdr.payloadLen.toNat > 2048 then
        (some (.refused hdr.msgType .errInvalidPayload), none)
      else
        (some (.dispatched hdr payload),
          if MessageType.ofCode hdr.msgType = some .cmdOtaData then some more else none) := by
  have hhdr := PE_Header.ofPtr_append hdr (payload ++ more)
  have hrest : (hdr.toBytes ++ (payload ++ more)).drop 16 = payload ++ more :=
    List.drop_left' (PE_Header.length_toBytes hdr)
  unfold parseFrame
  rw [if_neg (by simp), hhdr, hrest]
  simp [← hlen]

/-- A part of a frame is not dispatched. -/
theorem parseFrame_of_part {hdr : PE_Header} {payload p : List UInt8}
    (hlen : payload.length = hdr.payloadLen.toNat) (hmagic : hdr.magic = PE_MAGIC)
    (hfits : hdr.payloadLen.toNat ≤ 2048) (hp : p <+: hdr.toBytes ++ payload)
    (hne : p ≠ hdr.toBytes ++ payload) : parseFrame p = (none, none) := by
  obtain ⟨rest, hrest⟩ := hp
  have hshort : p.length < 16 + payload.length := by
    have htotal := congrArg List.length hrest
    rw [List.length_append, List.length_append, PE_Header.length_toBytes] at htotal
    have hpos : 0 < rest.length := by
      rw [List.length_pos_iff]
      rintro rfl
      rw [List.append_nil] at hrest
      exact hne hrest
    omega
  unfold parseFrame
  split
  · rfl
  · rename_i hge
    have hhdr : PE_Header.ofPtr (BytePtr.ofList p) = hdr := by
      have htake : p.take 16 = hdr.toBytes := by
        have h16 := congrArg (List.take 16) hrest
        rw [List.take_append_of_le_length (by omega), List.take_left' (PE_Header.length_toBytes hdr)] at h16
        exact h16
      rw [← List.take_append_drop 16 p, htake]
      exact PE_Header.ofPtr_append hdr (p.drop 16)
    rw [hhdr]
    dsimp only
    rw [if_neg (not_not.2 hmagic), if_neg (Nat.not_lt.2 hfits), if_pos]
    rw [List.length_drop]
    omega
/-! ## The connection and the parser -/

theorem ofCode_eq_cmdOtaData {c : UInt16} :
    MessageType.ofCode c = some .cmdOtaData ↔ c = MessageType.cmdOtaData.code := by
  constructor
  · intro h
    exact (MessageType.code_of_ofCode h).symm
  · rintro rfl
    exact MessageType.ofCode_code .cmdOtaData

namespace CommandService

theorem readPayload_spec (hdr : PE_Header) (reader : NetconnStreamReader)
    (payloadBuffer : BytePtr) :
    ((readPayload hdr reader payloadBuffer).1 = true ↔
      hdr.payloadLen.toNat ≤ reader.unread.length) ∧
    ((readPayload hdr reader payloadBuffer).1 = true →
      (readPayload hdr reader payloadBuffer).2.2.unread =
        reader.unread.drop hdr.payloadLen.toNat ∧
      bytesAt (readPayload hdr reader payloadBuffer).2.1 0 hdr.payloadLen.toNat =
        reader.unread.take hdr.payloadLen.toNat) := by
  obtain ⟨hok, hdone⟩ := reader.readExact_spec payloadBuffer hdr.payloadLen.toNat 0
  unfold readPayload
  split
  · exact ⟨hok, fun h => ⟨(hdone h).1, (hdone h).2.2⟩⟩
  · rename_i hpos
    have hzero : hdr.payloadLen.toNat = 0 := by
      have hle : hdr.payloadLen.toNat ≤ 0 := UInt16.not_lt.1 hpos
      omega
    simp [hzero]

/-- A turn of `handleClient` does with the bytes that are left what the parser does. -/
theorem clientTurn_eq_parseFrame (reader : NetconnStreamReader) (payloadBuffer : BytePtr) :
    ((clientTurn reader payloadBuffer).1.map ClientAction.received,
      (clientTurn reader payloadBuffer).2.2.map NetconnStreamReader.unread) =
        parseFrame reader.unread := by
  obtain ⟨hok, hdone⟩ := reader.readExact_spec (fun _ => 0) 16 0
  unfold clientTurn parseFrame
  split
  · rename_i hread
    rw [hread] at hok
    rw [if_pos]
    · rfl
    · simpa using hok
  · rename_i bytes reader' hread
    rw [hread] at hok hdone
    obtain ⟨hunread, -, hbytes⟩ := hdone rfl
    have hlen : 16 ≤ reader.unread.length := hok.1 rfl
    rw [if_neg (Nat.not_lt.2 hlen)]
    have hhdr : PE_Header.ofPtr bytes = PE_Header.ofPtr (BytePtr.ofList reader.unread) := by
      apply PE_Header.ofPtr_congr
      have hsame := bytesAt_eq_iff.1 (hbytes.trans (bytesAt_ofList_take hlen).symm)
      simpa using hsame
    rw [hhdr, ← hunread]
    generalize PE_Header.ofPtr (BytePtr.ofList reader.unread) = hdr
    dsimp only
    by_cases hmagic : hdr.magic = PE_MAGIC
    swap
    · rw [if_pos hmagic, if_pos hmagic]
      rfl
    rw [if_neg (not_not.2 hmagic), if_neg (not_not.2 hmagic)]
    by_cases hlong : hdr.payloadLen.toNat > 2048
    · rw [if_pos hlong, if_pos (show hdr.payloadLen.toNat > PAYLOAD_BUFFER_SIZE from hlong)]
      rfl
    rw [if_neg hlong, if_neg (show ¬ hdr.payloadLen.toNat > PAYLOAD_BUFFER_SIZE from hlong)]
    obtain ⟨hgot, hpayload⟩ := readPayload_spec hdr reader' payloadBuffer
    split
    · rename_i hread'
      rw [hread'] at hgot
      rw [if_pos]
      · rfl
      · simpa using hgot
    · rename_i buffer reader'' hread'
      rw [hread'] at hgot hpayload
      obtain ⟨hrest, hpayload⟩ := hpayload rfl
      rw [if_neg (Nat.not_lt.2 (hgot.1 rfl)), ← hpayload, ← hrest]
      by_cases hdata : hdr.msgType = MessageType.cmdOtaData.code
      · rw [if_neg (not_not.2 hdata), if_pos (ofCode_eq_cmdOtaData.2 hdata)]
        rfl
      · rw [if_pos hdata, if_neg (mt ofCode_eq_cmdOtaData.1 hdata)]
        rfl

/-- What is left after a turn is less than before it. -/
theorem clientTurn_progress {reader reader' : NetconnStreamReader} {payloadBuffer buffer : BytePtr}
    {action : Option ClientAction}
    (h : clientTurn reader payloadBuffer = (action, buffer, some reader')) :
    reader'.unread.length < reader.unread.length := by
  have hparse := clientTurn_eq_parseFrame reader payloadBuffer
  rw [h] at hparse
  exact length_parseFrame hparse.symm

/-- The loop of `handleClient`: what it does in turn, and the payload buffer after it. -/
def clientLoop (reader : NetconnStreamReader) (payloadBuffer : BytePtr) :
    List ClientAction × BytePtr :=
  match _ : clientTurn reader payloadBuffer with
  | (action, payloadBuffer, none) => (action.toList, payloadBuffer)
  | (action, payloadBuffer, some reader) =>
    let (actions, payloadBuffer) := clientLoop reader payloadBuffer
    (action.toList ++ actions, payloadBuffer)
termination_by reader.unread.length
decreasing_by
  rename_i h
  exact clientTurn_progress h

/-- `handleClient`, for a connection that gives the buffers `conn`. -/
def handleClient (conn : List (List UInt8)) (payloadBuffer : BytePtr) :
    List ClientAction × BytePtr :=
  clientLoop (.create conn) payloadBuffer

theorem clientLoop_eq_parseFrames (reader : NetconnStreamReader) (payloadBuffer : BytePtr) :
    (clientLoop reader payloadBuffer).1.map ClientAction.received = parseFrames reader.unread := by
  have hlist : ∀ a : Option ClientAction,
      a.toList.map ClientAction.received = (a.map ClientAction.received).toList := by
    intro a
    cases a with
    | none => rfl
    | some a => rfl
  fun_induction clientLoop reader payloadBuffer with
  | case1 reader payloadBuffer action buffer h =>
      have hparse := clientTurn_eq_parseFrame reader payloadBuffer
      rw [h] at hparse
      rw [parseFrames_of_last hparse.symm]
      exact hlist action
  | case2 reader payloadBuffer action buffer reader' h actions buffer' hloop ih =>
      have hparse := clientTurn_eq_parseFrame reader payloadBuffer
      rw [h] at hparse
      rw [parseFrames_of_more hparse.symm, ← ih, hloop, List.map_append]
      exact congrArg (· ++ _) (hlist action)

/-- **Framing does not depend on segmentation**: however the bytes of a connection are cut into buffers,
`handleClient` passes to `processCommand` and refuses exactly what the parser on the bytes does. -/
theorem handleClient_eq_parseFrames (conn : List (List UInt8)) (payloadBuffer : BytePtr) :
    (handleClient conn payloadBuffer).1.map ClientAction.received = parseFrames conn.flatten := by
  unfold handleClient
  rw [clientLoop_eq_parseFrames, NetconnStreamReader.unread_create]

/-- Where the parser stops at the first frame. -/
theorem received_of_last {conn : List (List UInt8)} {r : Option Received}
    (h : parseFrame conn.flatten = (r, none)) (payloadBuffer : BytePtr) :
    (handleClient conn payloadBuffer).1.map ClientAction.received = r.toList := by
  have hloop := clientLoop_eq_parseFrames (.create conn) payloadBuffer
  rwa [NetconnStreamReader.unread_create, parseFrames_of_last h] at hloop

theorem eq_processCommand_of_received {action : ClientAction} {hdr : PE_Header} {payload : List UInt8}
    (h : action.received = .dispatched hdr payload) :
    ∃ p, action = .processCommand hdr p ∧ bytesAt p 0 hdr.payloadLen.toNat = payload := by
  cases action with
  | processCommand hdr' p =>
      obtain ⟨rfl, hp⟩ := Received.dispatched.inj h
      exact ⟨p, rfl, hp⟩
  | sendAckNack cmdId status => cases h

/-- **One request**: a whole frame that is not `CMD_OTA_DATA` is dispatched, and nothing after it. -/
theorem handleClient_request {conn : List (List UInt8)} {hdr : PE_Header} {payload more : List UInt8}
    (h : conn.flatten = hdr.toBytes ++ (payload ++ more)) (hlen : payload.length = hdr.payloadLen.toNat)
    (hmagic : hdr.magic = PE_MAGIC) (hfits : hdr.payloadLen.toNat ≤ 2048)
    (hlast : MessageType.ofCode hdr.msgType ≠ some .cmdOtaData) (payloadBuffer : BytePtr) :
    ∃ p, (handleClient conn payloadBuffer).1 = [.processCommand hdr p] ∧
      bytesAt p 0 hdr.payloadLen.toNat = payload := by
  have hframe : parseFrame (hdr.toBytes ++ (payload ++ more)) = _ := parseFrame_append hdr hlen
  rw [if_neg (not_not.2 hmagic), if_neg (Nat.not_lt.2 hfits), if_neg hlast] at hframe
  rw [← h] at hframe
  have hreceived := received_of_last hframe payloadBuffer
  obtain ⟨action, hactions, haction⟩ := List.map_eq_singleton_iff.1 hreceived
  obtain ⟨p, rfl, hp⟩ := eq_processCommand_of_received haction
  exact ⟨p, hactions, hp⟩

end CommandService

/-- The node's part in an action of `handleClient`. -/
def Node.serveAction {C : Type} [ITelemetryChannel C] (cfg : NodeConfig) (n : Node C) (env : Env) :
    ClientAction → Option (List NodeEvent × Node C)
  | .processCommand hdr payload => n.step cfg ⟨env, hdr, payload⟩
  | .sendAckNack cmdId status => some (CommandService.sendAckNack cfg n cmdId status 0)

end EmbeddedPixel
