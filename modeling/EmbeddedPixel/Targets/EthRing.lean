import EmbeddedPixel.Foundation.Machine
import EmbeddedPixel.Targets.EthTransmit

/-!
# The ring of receive buffers (`stm32h7/hal_impl/Stm32H7Eth.cpp`)

The DMA stores what it receives in the buffers of `Rx_Buff`, while the task reads them in
`HAL_ETH_RxLinkCallback` and gives them out again in `HAL_ETH_RxAllocateCallback`, which goes round the table
and does not ask which buffers are in use.  The cache may fetch lines of the table at any time.

The HAL has `ETH_RX_DESC_CNT` descriptors, which it uses in order: it asks for a buffer for a descriptor that
has none, the DMA takes the next buffer it was given, and the HAL calls the link callback for the one that was
filled first.  That much of it is in `RxRing.step`.

`received_in_order`: every fragment gets to its callback once, in order, with the bytes that were received.
`output_delivered`: so what lwIP gets are packets of the other node, in order and whole.
-/

set_option autoImplicit false

namespace EmbeddedPixel

open Foundation

/-- The number of receive descriptors, and of buffers of `Rx_Buff`. -/
def ETH_RX_DESC_CNT : Nat := 4

/-- Where `Rx_Buff` lies. -/
abbrev RxBuff := DmaBuff ETH_RX_DESC_CNT

/-- The memory as the processor and as the DMA sees it, and `rx_alloc_idx`. -/
structure EthRx where
  cpu : Mem 32
  ram : Mem 32
  rxAllocIdx : Nat
  rxAllocIdx_lt : rxAllocIdx < ETH_RX_DESC_CNT

namespace EthRx

variable (b : RxBuff) (s : EthRx)

/-- `HAL_ETH_RxAllocateCallback`. -/
def rxAllocateCallback : BitVec 32 × EthRx :=
  (b.slot s.rxAllocIdx,
    { s with
      rxAllocIdx := (s.rxAllocIdx + 1) % ETH_RX_DESC_CNT
      rxAllocIdx_lt := Nat.mod_lt _ (by decide) })

/-- `SCB_InvalidateDCache_by_Addr`: the lines of a range are taken from memory again. -/
def invalidate (buff : BitVec 32) (length : UInt16) : EthRx :=
  let size := DCache.alignedSize buff (BitVec.ofNat 32 length.toNat)
  { s with cpu := fun a => if DCache.Cleans (DCache.alignedAddr buff) size a then s.ram a else s.cpu a }

/-- What `HAL_ETH_RxLinkCallback` copies to the pbuf it gets. -/
def rxFragment (buff : BitVec 32) (length : UInt16) (length_le : length.toNat ≤ ETH_MAX_PAYLOAD)
    (pbuf : Option Nat) : EthRx × RxFragment :=
  let s := s.invalidate buff length
  (s, ⟨s.cpu.ptr buff, length, length_le, pbuf⟩)

/-- The DMA stores a fragment. -/
def receive (buff : BitVec 32) (bytes : List UInt8) : EthRx :=
  { s with ram := s.ram.store buff bytes.length (BytePtr.ofList bytes) }

/-- The cache fetches lines of the table of its own accord.  The processor does not write there. -/
def fetch (lines : BitVec 32 → Bool) : EthRx :=
  { s with
    cpu := fun a =>
      if lines a ∧ (a - b.addr).toNat < ETH_RX_DESC_CNT * ETH_MAX_PAYLOAD then s.ram a else s.cpu a }

end EthRx

/-- A buffer that the DMA has filled. -/
structure RxStored where
  buff : BitVec 32
  bytes : List UInt8
  length_le : bytes.length ≤ ETH_MAX_PAYLOAD

/-- The length of a fragment, as a descriptor has it. -/
def RxStored.length (d : RxStored) : UInt16 := UInt16.ofNat d.bytes.length

theorem RxStored.toNat_length (d : RxStored) : d.length.toNat = d.bytes.length := by
  have hle := d.length_le
  unfold ETH_MAX_PAYLOAD at hle
  unfold RxStored.length
  rw [UInt16.toNat_ofNat']
  omega

/-- The driver with the descriptors, in ring order: those that the DMA has filled, and those that wait with a
buffer. -/
structure RxRing where
  mem : EthRx
  filled : List RxStored
  waiting : List (BitVec 32)

/-- What happens to the receive buffers. -/
inductive RxEvent where
  /-- The HAL asks for a buffer. -/
  | allocate
  /-- The DMA stores a fragment in the next buffer. -/
  | receive (bytes : List UInt8) (length_le : bytes.length ≤ ETH_MAX_PAYLOAD)
  /-- The cache fetches lines. -/
  | fetch (lines : BitVec 32 → Bool)
  /-- The HAL has the first fragment linked, and `pbuf_alloc` answers. -/
  | link (pbuf : Option Nat)

namespace RxRing

variable (b : RxBuff)

/-- One event, with the fragment that the link callback copies. -/
def step (r : RxRing) : RxEvent → Option (Option RxFragment × RxRing)
  | .allocate =>
    if r.filled.length + r.waiting.length < ETH_RX_DESC_CNT then
      let (buff, mem) := r.mem.rxAllocateCallback b
      some (none, { r with mem, waiting := r.waiting ++ [buff] })
    else none
  | .receive bytes length_le =>
    match r.waiting with
    | [] => none
    | buff :: waiting =>
      some (none, ⟨r.mem.receive buff bytes, r.filled ++ [⟨buff, bytes, length_le⟩], waiting⟩)
  | .fetch lines => some (none, { r with mem := r.mem.fetch b lines })
  | .link pbuf =>
    match r.filled with
    | [] => none
    | d :: filled =>
      let (mem, fragment) := r.mem.rxFragment d.buff d.length (d.toNat_length ▸ d.length_le) pbuf
      some (some fragment, { r with mem, filled })

/-- Before `HAL_ETH_Start`. -/
def start (mem : EthRx) : RxRing := ⟨mem, [], []⟩

/-- The buffers that are given out, in order. -/
def buffers (r : RxRing) : List (BitVec 32) := r.filled.map (·.buff) ++ r.waiting

/-- The fragments that the DMA stored in a run. -/
def stored (t : List (RxEvent × Option RxFragment)) : List (List UInt8) :=
  t.filterMap fun x =>
    match x.1 with
    | .receive bytes _ => some bytes
    | _ => none

/-- The fragments that were linked. -/
def linked (t : List (RxEvent × Option RxFragment)) : List RxFragment := t.filterMap (·.2)

@[simp] theorem stored_append (t t' : List (RxEvent × Option RxFragment)) :
    stored (t ++ t') = stored t ++ stored t' := List.filterMap_append ..

@[simp] theorem linked_append (t t' : List (RxEvent × Option RxFragment)) :
    linked (t ++ t') = linked t ++ linked t' := List.filterMap_append ..

variable {b} {s₀ : EthRx} {t : List (RxEvent × Option RxFragment)} {r : RxRing}

/-- **What the link callback has for its pbuf** is what lies in memory, whatever the cache has fetched. -/
theorem bytes_rxFragment (s : EthRx) (buff : BitVec 32) {length : UInt16}
    (hlength : length.toNat ≤ ETH_MAX_PAYLOAD) (pbuf : Option Nat) :
    (s.rxFragment buff length hlength pbuf).2.bytes = s.ram.read buff length.toNat :=
  EthTx.clean_frame s.ram s.cpu buff hlength

/-! ## What every event keeps -/

/-- The buffers given out are a part of the rotation; those that are filled hold what was received. -/
structure Intact (b : RxBuff) (s₀ : EthRx) (t : List (RxEvent × Option RxFragment)) (r : RxRing) : Prop where
  rotation : ∃ k, r.buffers = (window ETH_RX_DESC_CNT k r.buffers.length).map b.slot ∧
    (k + r.buffers.length) % ETH_RX_DESC_CNT = r.mem.rxAllocIdx
  room : r.buffers.length ≤ ETH_RX_DESC_CNT
  holds : ∀ d ∈ r.filled, r.mem.ram.read d.buff d.bytes.length = d.bytes
  inOrder : (linked t).map RxFragment.bytes ++ r.filled.map (·.bytes) = stored t
  outside : ∀ a, Mem.Apart b.addr (ETH_RX_DESC_CNT * ETH_MAX_PAYLOAD) a 1 →
    r.mem.cpu a = s₀.cpu a ∧ r.mem.ram a = s₀.ram a

/-- A buffer that is given out is one of the table, and no other one shares an address with it. -/
theorem Intact.slots (h : Intact b s₀ t r) :
    (∀ buff ∈ r.buffers, ∃ i < ETH_RX_DESC_CNT, buff = b.slot i) ∧
      r.buffers.Pairwise fun buff buff' => Mem.Apart buff ETH_MAX_PAYLOAD buff' ETH_MAX_PAYLOAD := by
  obtain ⟨k, hbuffers, -⟩ := h.rotation
  have hlt : ∀ i ∈ window ETH_RX_DESC_CNT k r.buffers.length, i < ETH_RX_DESC_CNT :=
    fun i hi => window_lt (by decide) hi
  rw [hbuffers]
  constructor
  · intro buff hbuff
    obtain ⟨i, hi, rfl⟩ := List.mem_map.1 hbuff
    exact ⟨i, hlt i hi, rfl⟩
  · rw [List.pairwise_map]
    exact (window_nodup h.room).imp_of_mem fun hi hj hne => b.slot_apart (hlt _ hi) (hlt _ hj) hne

theorem intact_start (b : RxBuff) (s : EthRx) : Intact b s [] (start s) where
  rotation := ⟨s.rxAllocIdx, rfl, Nat.mod_eq_of_lt s.rxAllocIdx_lt⟩
  room := Nat.zero_le _
  holds := nofun
  inOrder := rfl
  outside := fun _ _ => ⟨rfl, rfl⟩

theorem Intact.allocate (h : Intact b s₀ t r) (hroom : r.filled.length + r.waiting.length < ETH_RX_DESC_CNT) :
    Intact b s₀ (t ++ [(.allocate, none)])
      { r with
        mem := (r.mem.rxAllocateCallback b).2
        waiting := r.waiting ++ [(r.mem.rxAllocateCallback b).1] } := by
  have hbuffers : buffers
      { r with
        mem := (r.mem.rxAllocateCallback b).2
        waiting := r.waiting ++ [(r.mem.rxAllocateCallback b).1] } = r.buffers ++ [b.slot r.mem.rxAllocIdx] :=
    (List.append_assoc ..).symm
  refine ⟨?_, ?_, h.holds, ?_, h.outside⟩
  · obtain ⟨k, hwindow, hidx⟩ := h.rotation
    rw [hbuffers, List.length_append, List.length_singleton]
    refine ⟨k, ?_, ?_⟩
    · rw [window_snoc, hidx, List.map_append, ← hwindow]
      rfl
    · rw [← Nat.add_assoc, ← Nat.mod_add_mod, hidx]
      rfl
  · rw [hbuffers]
    unfold buffers
    simp only [List.length_append, List.length_map, List.length_singleton]
    omega
  · rw [linked_append, stored_append]
    simpa [linked, stored] using h.inOrder

theorem Intact.receive (h : Intact b s₀ t r) {buff : BitVec 32} {waiting : List (BitVec 32)}
    (hwaiting : r.waiting = buff :: waiting) (bytes : List UInt8) (hlength : bytes.length ≤ ETH_MAX_PAYLOAD) :
    Intact b s₀ (t ++ [(.receive bytes hlength, none)])
      ⟨r.mem.receive buff bytes, r.filled ++ [⟨buff, bytes, hlength⟩], waiting⟩ := by
  have hbuffers : buffers ⟨r.mem.receive buff bytes, r.filled ++ [⟨buff, bytes, hlength⟩], waiting⟩ =
      r.buffers := by
    unfold buffers
    rw [hwaiting, List.map_append, List.append_assoc]
    rfl
  obtain ⟨hslot, happart⟩ := h.slots
  refine ⟨?_, ?_, fun d hd => ?_, ?_, fun a ha => ?_⟩
  · rw [hbuffers]
    exact h.rotation
  · rw [hbuffers]
    exact h.room
  · rcases List.mem_append.1 hd with hd | hd
    · have hother : Mem.Apart d.buff ETH_MAX_PAYLOAD buff ETH_MAX_PAYLOAD := by
        unfold buffers at happart
        rw [hwaiting, List.pairwise_append] at happart
        exact happart.2.2 d.buff (List.mem_map_of_mem hd) buff List.mem_cons_self
      exact (Mem.read_store_apart _ _ (hother.symm.mono hlength d.length_le)).trans (h.holds d hd)
    · obtain rfl := List.mem_singleton.1 hd
      refine (Mem.read_store_self _ _ _ (hlength.trans (by decide))).trans ?_
      exact bytesAt_ofList bytes
  · rw [linked_append, stored_append, ← h.inOrder]
    simp [linked, stored]
  · obtain ⟨i, hi, rfl⟩ := hslot buff (by simp [buffers, hwaiting])
    obtain ⟨hcpu, hram⟩ := h.outside a ha
    have hstore := Mem.store_apart r.mem.ram (BytePtr.ofList bytes)
      ((b.slot_outside hi ha).mono hlength le_rfl)
    exact ⟨hcpu, hstore.trans hram⟩

theorem Intact.fetch (h : Intact b s₀ t r) (lines : BitVec 32 → Bool) :
    Intact b s₀ (t ++ [(.fetch lines, none)]) { r with mem := r.mem.fetch b lines } where
  rotation := h.rotation
  room := h.room
  holds := h.holds
  inOrder := by
    rw [linked_append, stored_append]
    simpa [linked, stored] using h.inOrder
  outside a ha := by
    obtain ⟨hcpu, hram⟩ := h.outside a ha
    refine ⟨Eq.trans (if_neg fun hin => Mem.not_apart_of_sub_lt hin.2 ha) hcpu, hram⟩

theorem Intact.link (haligned : b.addr.toNat % 32 = 0) (h : Intact b s₀ t r) {d : RxStored}
    {filled : List RxStored} (hfilled : r.filled = d :: filled) (pbuf : Option Nat)
    (hlength : d.length.toNat ≤ ETH_MAX_PAYLOAD) :
    Intact b s₀ (t ++ [(.link pbuf, some (r.mem.rxFragment d.buff d.length hlength pbuf).2)])
      { r with mem := (r.mem.rxFragment d.buff d.length hlength pbuf).1, filled } := by
  have hbuffers : r.buffers = d.buff :: (filled.map (·.buff) ++ r.waiting) := by
    unfold buffers
    rw [hfilled]
    rfl
  obtain ⟨i, hi, hslot⟩ := h.slots.1 d.buff (by simp [hbuffers])
  refine ⟨?_, ?_, fun d' hd' => ?_, ?_, fun a ha => ?_⟩
  · obtain ⟨k, hwindow, hidx⟩ := h.rotation
    rw [hbuffers, List.length_cons] at hwindow hidx
    rw [window_cons] at hwindow
    refine ⟨k + 1, (List.cons.inj hwindow).2, ?_⟩
    rw [Nat.add_right_comm]
    exact hidx
  · have hroom := h.room
    rw [hbuffers, List.length_cons] at hroom
    exact (Nat.le_succ _).trans hroom
  · exact h.holds d' (by simp [hfilled, hd'])
  · have hcopied := bytes_rxFragment r.mem d.buff hlength pbuf
    rw [d.toNat_length, h.holds d (by simp [hfilled])] at hcopied
    rw [linked_append, stored_append, ← h.inOrder, hfilled]
    simp [linked, stored, hcopied]
  · obtain ⟨hcpu, hram⟩ := h.outside a ha
    have hbase : d.buff.toNat % 32 = 0 := by
      rw [hslot, (b.toNat_slot hi).1]
      unfold ETH_MAX_PAYLOAD
      omega
    refine ⟨Eq.trans (if_neg fun hin => ?_) hcpu, hram⟩
    have hwithin := DCache.cleans_within hbase (by simpa using hlength) hin
    exact Mem.not_apart_of_sub_lt hwithin (hslot ▸ b.slot_outside hi ha)

/-- **One event.** -/
theorem Intact.step (haligned : b.addr.toNat % 32 = 0) (h : Intact b s₀ t r) {e : RxEvent}
    {o : Option RxFragment} {r' : RxRing} (hstep : step b r e = some (o, r')) :
    Intact b s₀ (t ++ [(e, o)]) r' := by
  unfold RxRing.step at hstep
  cases e with
  | allocate =>
      dsimp only at hstep
      split at hstep
      · rename_i hroom
        cases hstep
        exact h.allocate hroom
      · cases hstep
  | receive bytes hlength =>
      dsimp only at hstep
      split at hstep
      · cases hstep
      · rename_i hwaiting
        cases hstep
        exact h.receive hwaiting bytes hlength
  | fetch lines =>
      cases hstep
      exact h.fetch lines
  | link pbuf =>
      dsimp only at hstep
      split at hstep
      · cases hstep
      · rename_i hfilled
        cases hstep
        exact h.link haligned hfilled pbuf _

theorem intact_of_run (haligned : b.addr.toNat % 32 = 0) (h : Machine.Run (RxRing.step b) (start s₀) t r) :
    Intact b s₀ t r := by
  induction h with
  | nil => exact intact_start b s₀
  | snoc _ hstep ih => exact ih.step haligned hstep

/-- `Rx_Buff` in `SRAMAHB`. -/
def sram : RxBuff := ⟨0x30000080#32, by decide⟩

/-- The memory before the first fragment. -/
def idle : EthRx := ⟨fun _ => 0xFF, fun _ => 0xEE, 0, by decide⟩

end RxRing

/-! ## From one node to another -/

namespace TxRun

open RxFrame RxRing

variable {copyPartial : CopyPartial} {t : List (RxEvent × Option RxFragment)} {frames : List RxFrame}

/-- A frame of one fragment has its bytes. -/
theorem bytes_of_singletons (hread : frames.map (·.fragments) = (linked t).map fun f => [f]) :
    frames.map RxFrame.bytes = (linked t).map RxFragment.bytes := by
  have hflat := congrArg (List.map (List.flatMap RxFragment.bytes)) hread
  rw [List.map_map, List.map_map] at hflat
  refine hflat.trans (List.map_congr_left fun f _ => ?_)
  exact List.append_nil _

/-- **From driver to driver**, whatever the wire loses: the DMA of one node stores frames that the other sent,
each in one buffer.  What `ProcessRx` then hands to lwIP are packets that lwIP of the other output, in their
order, each whole and filled up with zeros to 60 bytes, and none cut short for want of a pbuf. -/
theorem output_delivered (copyPartial : CopyPartial) (hcopy : CopiesOut copyPartial) (b : TxBuff) (s : EthTx)
    (events : List OutputEvent) (b' : RxBuff) (haligned : b'.addr.toNat % 32 = 0) (s' : EthRx)
    {t : List (RxEvent × Option RxFragment)} {r : RxRing} (h : Machine.Run (RxRing.step b') (start s') t r)
    (hwire : (stored t).Sublist (run copyPartial b s events).frames) (frames : List RxFrame)
    (hread : frames.map (·.fragments) = (linked t).map fun f => [f]) :
    ∃ handed payloads, processRx true frames = some handed ∧
      List.Forall₂ IsPacket handed.reduceOption payloads ∧
      payloads.Sublist (events.filterMap OutputEvent.frame) := by
  have hintact := intact_of_run haligned h
  have hlinked : ((linked t).map RxFragment.bytes).Sublist (run copyPartial b s events).frames := by
    refine List.Sublist.trans ?_ hwire
    rw [← hintact.inOrder]
    exact List.sublist_append_left _ _
  refine output_received copyPartial hcopy b s events frames ?_ fun frame hframe => ?_
  · rw [bytes_of_singletons hread]
    exact hlinked
  · obtain ⟨f, hf, hone⟩ := List.mem_map.1 (hread ▸ List.mem_map_of_mem hframe :
      frame.fragments ∈ (linked t).map fun f => [f])
    refine packed_singleton hone.symm ?_
    have hsent := hlinked.subset (List.mem_map_of_mem hf)
    rw [(sent_of_run hcopy s events).frames] at hsent
    obtain ⟨e, -, he⟩ := List.mem_filterMap.1 hsent
    have hlength := (length_frame he).1
    rw [f.length_bytes] at hlength
    exact Nat.lt_of_lt_of_le (by decide) hlength

/-- The frame of three bytes, over the wire. -/
theorem output_delivered_hello :
    ∃ f r, Machine.Run (RxRing.step RxRing.sram) (start RxRing.idle)
        [(.allocate, none), (.receive (padded [1, 2, 3]) (by decide), none), (.link (some 0), some f)] r ∧
      ∃ handed payloads, processRx true [⟨fun _ => ⟨none, [], 0, 0⟩, none, [f]⟩] = some handed ∧
        List.Forall₂ IsPacket handed.reduceOption payloads ∧
        payloads.Sublist ([OutputEvent.output true (fun _ => 7) hello true].filterMap OutputEvent.frame) := by
  obtain ⟨f, r, hrun⟩ : ∃ f r, Machine.Run (RxRing.step RxRing.sram) (start RxRing.idle)
      [(.allocate, none), (.receive (padded [1, 2, 3]) (by decide), none), (.link (some 0), some f)] r :=
    ⟨_, _, .cons rfl (.cons rfl (.single rfl))⟩
  refine ⟨f, r, hrun, output_delivered copyWhole copyWhole_copiesOut sram idle
    [.output true (fun _ => 7) hello true] RxRing.sram (by decide) RxRing.idle hrun ?_ _ rfl⟩
  rw [(sent_of_run copyWhole_copiesOut idle _).frames]
  exact List.Sublist.refl _

end TxRun

end EmbeddedPixel
