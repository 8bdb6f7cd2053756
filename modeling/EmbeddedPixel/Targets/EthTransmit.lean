import EmbeddedPixel.Foundation.Memory
import EmbeddedPixel.Foundation.Rotation
import EmbeddedPixel.Targets.EthReceive

/-!
# Sending Ethernet frames (`net/lwip_port/ethernetif.cpp`, `stm32h7/hal_impl/Stm32H7Eth.cpp`)

`low_level_output` gets a chain of pbufs from lwIP, and `Transmit` copies its bytes to the next of the four
buffers of `Tx_Buff`, fills a short frame up with zeros and hands the buffer to the HAL.  The DMA reads main
memory, and the processor writes to its cache: what the DMA sees is what `SCB_CleanDCache_by_Addr` wrote back,
and whatever else the cache wrote back on its own (`evicted`).

`pbuf_copy_partial` is lwIP's; `CopiesOut` says what it does with a whole chain.
-/

set_option autoImplicit false

namespace EmbeddedPixel

open Foundation

/-- The number of buffers of `Tx_Buff`. -/
def ETH_TX_DESC_CNT : Nat := 4

/-- The shortest frame, without its checksum. -/
def minFrame : Nat := 60

/-! ## Cache lines -/

namespace DCache

/-- `(uint32_t)buf & ~0x1FUL`. -/
def alignedAddr (buf : BitVec 32) : BitVec 32 := buf &&& ~~~0x1F#32

/-- `(((uint32_t)buf - alignedAddr) + send_len + 0x1FUL) & ~0x1FUL`. -/
def alignedSize (buf sendLen : BitVec 32) : BitVec 32 :=
  (buf - alignedAddr buf + sendLen + 0x1F#32) &&& ~~~0x1F#32

/-- `SCB_CleanDCache_by_Addr` writes back the lines of this range. -/
def Cleans (addr size a : BitVec 32) : Prop := (a - addr).toNat < size.toNat

instance (addr size a : BitVec 32) : Decidable (Cleans addr size a) := by
  unfold Cleans
  infer_instance

theorem toNat_alignDown (x : BitVec 32) : (x &&& ~~~0x1F#32).toNat = x.toNat / 32 * 32 := by
  have hshift : x &&& ~~~0x1F#32 = x >>> 5 <<< 5 := by
    ext i hi
    simp only [BitVec.getElem_and, BitVec.getElem_shiftLeft]
    interval_cases i <;> simp
  rw [hshift, BitVec.toNat_shiftLeft, BitVec.toNat_ushiftRight, Nat.shiftRight_eq_div_pow,
    Nat.shiftLeft_eq, Nat.mod_eq_of_lt]
  have hx := x.isLt
  omega

/-- **The range that is cleaned covers the frame**, wherever the buffer lies. -/
theorem cleans_frame {buf sendLen : BitVec 32} {k : Nat} (hlen : sendLen.toNat ≤ ETH_MAX_PAYLOAD)
    (hk : k < sendLen.toNat) :
    Cleans (alignedAddr buf) (alignedSize buf sendLen) (buf + BitVec.ofNat 32 k) := by
  unfold ETH_MAX_PAYLOAD at hlen
  have hbuf := buf.isLt
  have hdown : (alignedAddr buf).toNat = buf.toNat / 32 * 32 := toNat_alignDown buf
  have hoff : (buf - alignedAddr buf).toNat = buf.toNat % 32 := by
    rw [BitVec.toNat_sub_of_le (by rw [BitVec.le_def]; omega), hdown]
    omega
  have hat : (buf + BitVec.ofNat 32 k - alignedAddr buf).toNat = buf.toNat % 32 + k := by
    rw [show buf + BitVec.ofNat 32 k - alignedAddr buf = (buf - alignedAddr buf) + BitVec.ofNat 32 k by ring,
      BitVec.toNat_add, BitVec.toNat_ofNat, hoff]
    omega
  have hsum : (buf - alignedAddr buf + sendLen + 0x1F#32).toNat = buf.toNat % 32 + sendLen.toNat + 31 := by
    rw [BitVec.toNat_add, BitVec.toNat_add, hoff, BitVec.toNat_ofNat]
    omega
  unfold Cleans alignedSize
  rw [hat, toNat_alignDown, hsum]
  omega

/-- No line outside of an aligned buffer is in the range. -/
theorem cleans_within {buf size a : BitVec 32} (haligned : buf.toNat % 32 = 0)
    (hsize : size.toNat ≤ ETH_MAX_PAYLOAD) (h : Cleans (alignedAddr buf) (alignedSize buf size) a) :
    (a - buf).toNat < ETH_MAX_PAYLOAD := by
  have hdown : alignedAddr buf = buf := by
    apply BitVec.eq_of_toNat_eq
    unfold alignedAddr
    rw [toNat_alignDown]
    omega
  unfold ETH_MAX_PAYLOAD at *
  unfold Cleans alignedSize at h
  rw [hdown, BitVec.sub_self, BitVec.zero_add, toNat_alignDown, BitVec.toNat_add, BitVec.toNat_ofNat] at h
  omega

end DCache

/-! ## Chains of pbufs -/

/-- A `pbuf` of a chain: its bytes. -/
structure TxPbuf where
  payload : BytePtr
  len : UInt16

/-- The bytes of a pbuf. -/
def TxPbuf.bytes (q : TxPbuf) : List UInt8 := bytesAt q.payload 0 q.len.toNat

/-- A packet that lwIP gives to `linkoutput`; `rest` are the pbufs behind `next` of the first. -/
structure TxChain where
  first : TxPbuf
  rest : List TxPbuf
  totLen : UInt16
  totLen_eq : totLen.toNat = ((first :: rest).map (·.len.toNat)).sum

namespace TxChain

/-- The bytes of a packet. -/
def bytes (p : TxChain) : List UInt8 := (p.first :: p.rest).flatMap TxPbuf.bytes

@[simp] theorem length_bytes (p : TxChain) : p.bytes.length = p.totLen.toNat := by
  rw [p.totLen_eq]
  unfold bytes TxPbuf.bytes
  rw [List.length_flatMap]
  simp only [length_bytesAt]

/-- A packet of one pbuf. -/
theorem bytes_single {p : TxChain} (hrest : p.rest = []) :
    p.first.len = p.totLen ∧ p.bytes = bytesAt p.first.payload 0 p.totLen.toNat := by
  have hlen : p.first.len = p.totLen := by
    have htot := p.totLen_eq
    rw [hrest] at htot
    exact UInt16.toNat_inj.1 (by simpa using htot.symm)
  refine ⟨hlen, ?_⟩
  unfold bytes
  rw [hrest, ← hlen]
  exact List.append_nil _

end TxChain

/-- `pbuf_copy_partial(p, dst, len, offset)`: what `dst` holds then. -/
abbrev CopyPartial := TxChain → BytePtr → (len offset : Nat) → BytePtr

/-- A whole chain is copied to the front of `dst`. -/
def CopiesOut (copyPartial : CopyPartial) : Prop :=
  ∀ (p : TxChain) (dst : BytePtr), bytesAt (copyPartial p dst p.totLen.toNat 0) 0 p.totLen.toNat = p.bytes

/-! ## `Transmit` -/

/-- Where a table of `n` DMA buffers lies. -/
structure DmaBuff (n : Nat) where
  addr : BitVec 32
  fits : addr.toNat + n * ETH_MAX_PAYLOAD ≤ 2 ^ 32

/-- Buffer `i` of a table. -/
def DmaBuff.slot {n : Nat} (b : DmaBuff n) (i : Nat) : BitVec 32 :=
  b.addr + BitVec.ofNat 32 (i * ETH_MAX_PAYLOAD)

/-- Where `Tx_Buff` lies. -/
abbrev TxBuff := DmaBuff ETH_TX_DESC_CNT

/-- The memory as the processor and as the DMA sees it, and `tx_idx`. -/
structure EthTx where
  cpu : Mem 32
  ram : Mem 32
  txIdx : Nat
  txIdx_lt : txIdx < ETH_TX_DESC_CNT

/-- What `HAL_ETH_Transmit` is given. -/
structure TxPacket where
  buffer : BitVec 32
  length : Nat

/-- The result of an output, `err_t`. -/
inductive ErrT where
  | ERR_OK
  | ERR_MEM
  | ERR_IF
  deriving DecidableEq, Repr

namespace EthTx

variable (b : TxBuff) (s : EthTx)

/-- `memcpy`, and `memset` for what is missing of the shortest frame. -/
def fill (cpu : Mem 32) (buf : BitVec 32) (buffer : BytePtr) (length : Nat) : Mem 32 × Nat :=
  let cpu := cpu.store buf length buffer
  if length < minFrame then
    (cpu.store (buf + BitVec.ofNat 32 length) (minFrame - length) (fun _ => 0), minFrame)
  else (cpu, length)

/-- `SCB_CleanDCache_by_Addr` for a frame. -/
def clean (cpu ram : Mem 32) (buf : BitVec 32) (sendLen : Nat) : Mem 32 := fun a =>
  let sendLen := BitVec.ofNat 32 sendLen
  if DCache.Cleans (DCache.alignedAddr buf) (DCache.alignedSize buf sendLen) a then cpu a else ram a

/-- `Transmit`; `halOk` is whether `HAL_ETH_Transmit` answers `HAL_OK`. -/
def transmit (buffer : Option BytePtr) (length : UInt16) (halOk : Bool) : EthTx × Option TxPacket × Bool :=
  match buffer with
  | none => (s, none, false)
  | some buffer =>
    if length.toNat > ETH_MAX_PAYLOAD then (s, none, false) else
    let buf := b.slot s.txIdx
    let (cpu, sendLen) := fill s.cpu buf buffer length.toNat
    ({ cpu
       ram := clean cpu s.ram buf sendLen
       txIdx := (s.txIdx + 1) % ETH_TX_DESC_CNT
       txIdx_lt := Nat.mod_lt _ (by decide) },
      some ⟨buf, sendLen⟩, halOk)

/-- `low_level_output`; `attached` says whether the interface has its state and that its driver, and `stack` is
what the local buffer holds before. -/
def lowLevelOutput (copyPartial : CopyPartial) (attached : Bool) (stack : BytePtr) (p : TxChain)
    (halOk : Bool) : EthTx × Option TxPacket × ErrT :=
  if !attached then (s, none, .ERR_IF) else
  match p.rest with
  | [] =>
    let (s', packet, ok) := s.transmit b (some p.first.payload) p.first.len halOk
    (s', packet, if ok then .ERR_OK else .ERR_IF)
  | _ :: _ =>
    if p.totLen.toNat > ETH_MAX_PAYLOAD then (s, none, .ERR_MEM) else
    let buffer := copyPartial p stack p.totLen.toNat 0
    let (s', packet, ok) := s.transmit b (some buffer) p.totLen halOk
    (s', packet, if ok then .ERR_OK else .ERR_IF)

end EthTx

/-! ## What a buffer holds -/

/-- The frame of a packet: filled up with zeros to 60 bytes. -/
def padded (bytes : List UInt8) : List UInt8 := bytes ++ List.replicate (minFrame - bytes.length) 0

@[simp] theorem length_padded (bytes : List UInt8) : (padded bytes).length = max minFrame bytes.length := by
  unfold padded
  rw [List.length_append, List.length_replicate]
  omega

namespace DmaBuff

variable {n : Nat} (b : DmaBuff n)

theorem toNat_slot {i : Nat} (hi : i < n) :
    (b.slot i).toNat = b.addr.toNat + i * ETH_MAX_PAYLOAD ∧ (b.slot i).toNat + ETH_MAX_PAYLOAD ≤ 2 ^ 32 := by
  have hfits := b.fits
  have hlast : (i + 1) * ETH_MAX_PAYLOAD ≤ n * ETH_MAX_PAYLOAD := Nat.mul_le_mul_right _ hi
  unfold slot
  unfold ETH_MAX_PAYLOAD at *
  rw [BitVec.toNat_add, BitVec.toNat_ofNat]
  omega

theorem slot_apart {i j : Nat} (hi : i < n) (hj : j < n) (hij : i ≠ j) :
    Mem.Apart (b.slot i) ETH_MAX_PAYLOAD (b.slot j) ETH_MAX_PAYLOAD := by
  obtain ⟨hti, hwi⟩ := b.toNat_slot hi
  obtain ⟨htj, hwj⟩ := b.toNat_slot hj
  unfold ETH_MAX_PAYLOAD at *
  exact Mem.Apart.of_le hwi hwj (by omega)

/-- What lies outside a table lies outside its buffers. -/
theorem slot_outside {i : Nat} (hi : i < n) {a : BitVec 32} {k : Nat}
    (h : Mem.Apart b.addr (n * ETH_MAX_PAYLOAD) a k) : Mem.Apart (b.slot i) ETH_MAX_PAYLOAD a k := by
  refine h.within ?_
  rw [← Nat.succ_mul]
  exact Nat.mul_le_mul_right _ hi

end DmaBuff

namespace EthTx

variable {b : TxBuff} {s : EthTx}

/-- What the copy leaves in its buffer: the frame. -/
theorem fill_frame (cpu : Mem 32) (buf : BitVec 32) (buffer : BytePtr) {length : Nat}
    (hlength : length ≤ ETH_MAX_PAYLOAD) :
    (fill cpu buf buffer length).2 = max minFrame length ∧
      (fill cpu buf buffer length).1.read buf (max minFrame length) = padded (bytesAt buffer 0 length) := by
  have hlength : length ≤ 1536 := hlength
  unfold fill padded Mem.read minFrame
  rw [length_bytesAt]
  split
  · rename_i hshort
    refine ⟨(Nat.max_eq_left hshort.le).symm, ?_⟩
    rw [Nat.max_eq_left hshort.le, show (60 : Nat) = length + (60 - length) by omega, bytesAt_add,
      Nat.add_sub_cancel_left]
    congr 1
    · refine bytesAt_congr fun k hk => ?_
      rw [Nat.zero_add, Mem.ptr_store_within _ _ _ (by omega) (by omega), if_neg (by omega)]
      exact Mem.ptr_store_self _ _ _ (by omega) hk
    · refine List.ext_getElem (by simp) fun k hk hk' => ?_
      rw [length_bytesAt] at hk
      rw [getElem_bytesAt, Mem.ptr_store_within _ _ _ (by omega) (by omega), if_pos (by omega),
        List.getElem_replicate]
  · rename_i hlong
    have hmax : max 60 length = length := Nat.max_eq_right (by omega)
    refine ⟨hmax.symm, ?_⟩
    rw [hmax, Nat.sub_eq_zero_of_le (by omega), List.replicate_zero, List.append_nil]
    exact Mem.read_store_self _ _ _ (by omega)

/-- The copy stays in its buffer. -/
theorem fill_apart (cpu : Mem 32) {buf a : BitVec 32} {k : Nat} (buffer : BytePtr) {length : Nat}
    (hlength : length ≤ ETH_MAX_PAYLOAD) (hapart : Mem.Apart buf ETH_MAX_PAYLOAD a k) {j : Nat} (hj : j < k) :
    (fill cpu buf buffer length).1.ptr a j = cpu.ptr a j := by
  have hcopy : (cpu.store buf length buffer).ptr a j = cpu.ptr a j :=
    Mem.ptr_store_apart cpu buffer (hapart.mono hlength le_rfl) hj
  unfold fill
  dsimp only
  split
  · rename_i hshort
    have hwithin : length + (minFrame - length) ≤ ETH_MAX_PAYLOAD := by
      unfold minFrame ETH_MAX_PAYLOAD at *
      omega
    exact (Mem.ptr_store_apart _ (fun _ => 0) (hapart.within hwithin) hj).trans hcopy
  · exact hcopy

/-- The DMA sees the frame that the processor sees. -/
theorem clean_frame (cpu ram : Mem 32) (buf : BitVec 32) {sendLen : Nat}
    (hlen : sendLen ≤ ETH_MAX_PAYLOAD) :
    (clean cpu ram buf sendLen).read buf sendLen = cpu.read buf sendLen := by
  have hmod : (BitVec.ofNat 32 sendLen).toNat = sendLen := by
    unfold ETH_MAX_PAYLOAD at hlen
    rw [BitVec.toNat_ofNat]
    omega
  refine bytesAt_congr fun k hk => if_pos (DCache.cleans_frame ?_ ?_)
  · rw [hmod]
    exact hlen
  · rw [hmod, Nat.zero_add]
    exact hk

/-- The bytes of a buffer, as the processor and as the DMA sees them. -/
def slots (b : TxBuff) (s : EthTx) (i : Nat) : BytePtr × BytePtr :=
  (s.cpu.ptr (b.slot i), s.ram.ptr (b.slot i))

/-- Both see a frame at the front of a buffer. -/
def HoldsFrame (slot : BytePtr × BytePtr) (frame : List UInt8) : Prop :=
  frame.length ≤ ETH_MAX_PAYLOAD ∧ bytesAt slot.1 0 frame.length = frame ∧
    bytesAt slot.2 0 frame.length = frame

/-- A buffer holds its frame as long as the processor does not write there and memory gets at most what the
processor wrote. -/
theorem HoldsFrame.keep {slot slot' : BytePtr × BytePtr} {frame : List UInt8} (h : HoldsFrame slot frame)
    (hcpu : ∀ k < ETH_MAX_PAYLOAD, slot'.1 k = slot.1 k)
    (hram : ∀ k < ETH_MAX_PAYLOAD, slot'.2 k = slot.1 k ∨ slot'.2 k = slot.2 k) : HoldsFrame slot' frame := by
  obtain ⟨hlen, hfst, hsnd⟩ := h
  have hboth := bytesAt_eq_iff.1 (hfst.trans hsnd.symm)
  refine ⟨hlen, Eq.trans (bytesAt_congr fun k hk => ?_) hfst, Eq.trans (bytesAt_congr fun k hk => ?_) hsnd⟩
  · exact hcpu (0 + k) (by omega)
  · obtain heq | heq := hram (0 + k) (by omega)
    · rw [heq]
      exact hboth k hk
    · exact heq

/-- The frame that the DMA reads. -/
def frameOf (s : EthTx) (packet : TxPacket) : List UInt8 := s.ram.read packet.buffer packet.length

/-- **One frame**: what the DMA reads of it, and that the other buffers hold what they held. -/
theorem transmit_spec (b : TxBuff) (s : EthTx) (buffer : BytePtr) {length : UInt16} (halOk : Bool)
    (hlength : length.toNat ≤ ETH_MAX_PAYLOAD) :
    ∃ s' packet, s.transmit b (some buffer) length halOk = (s', some packet, halOk) ∧
      s'.frameOf packet = padded (bytesAt buffer 0 length.toNat) ∧
      s'.txIdx = (s.txIdx + 1) % ETH_TX_DESC_CNT ∧
      HoldsFrame (slots b s' s.txIdx) (padded (bytesAt buffer 0 length.toNat)) ∧
      (∀ i < ETH_TX_DESC_CNT, i ≠ s.txIdx → ∀ frame, HoldsFrame (slots b s i) frame →
        HoldsFrame (slots b s' i) frame) ∧
      ∀ a, Mem.Apart b.addr (ETH_TX_DESC_CNT * ETH_MAX_PAYLOAD) a 1 → s'.cpu a = s.cpu a := by
  obtain ⟨hlen, hframe⟩ := fill_frame s.cpu (b.slot s.txIdx) buffer hlength
  have hmax : max minFrame length.toNat ≤ ETH_MAX_PAYLOAD := by
    unfold minFrame ETH_MAX_PAYLOAD at *
    omega
  have hclean := clean_frame (fill s.cpu (b.slot s.txIdx) buffer length.toNat).1 s.ram (b.slot s.txIdx) hmax
  unfold transmit
  dsimp only
  rw [if_neg (by omega), hlen]
  refine ⟨_, _, rfl, hclean.trans hframe, rfl, ?_, ?_, ?_⟩
  · have hpadded : (padded (bytesAt buffer 0 length.toNat)).length = max minFrame length.toNat := by
      rw [length_padded, length_bytesAt]
    unfold HoldsFrame
    rw [hpadded]
    exact ⟨hmax, hframe, hclean.trans hframe⟩
  · intro i hi hne frame hold
    have hapart := b.slot_apart s.txIdx_lt hi hne.symm
    have hcpu : ∀ k < ETH_MAX_PAYLOAD, (fill s.cpu (b.slot s.txIdx) buffer length.toNat).1.ptr (b.slot i) k =
        s.cpu.ptr (b.slot i) k := fun k hk => fill_apart s.cpu buffer hlength hapart hk
    refine hold.keep hcpu fun k hk => ?_
    show clean _ _ _ _ (b.slot i + BitVec.ofNat 32 k) = _ ∨ clean _ _ _ _ (b.slot i + BitVec.ofNat 32 k) = _
    unfold clean
    dsimp only
    split
    · exact Or.inl (hcpu k hk)
    · exact Or.inr rfl
  · intro a hapart
    have hout : (fill s.cpu (b.slot s.txIdx) buffer length.toNat).1.ptr a 0 = s.cpu.ptr a 0 :=
      fill_apart s.cpu buffer hlength (b.slot_outside s.txIdx_lt hapart) Nat.one_pos
    simpa [Mem.ptr] using hout

/-- A packet longer than a buffer is refused, in one way or the other. -/
theorem lowLevelOutput_long (b : TxBuff) (s : EthTx) (copyPartial : CopyPartial) (stack : BytePtr)
    {p : TxChain} (halOk : Bool) (hlong : ¬ p.totLen.toNat ≤ ETH_MAX_PAYLOAD) :
    s.lowLevelOutput b copyPartial true stack p halOk =
      (s, none, if p.rest = [] then .ERR_IF else .ERR_MEM) := by
  unfold lowLevelOutput transmit
  cases hrest : p.rest with
  | nil =>
      obtain ⟨hlen, -⟩ := TxChain.bytes_single hrest
      simp only [Bool.not_true, Bool.false_eq_true, if_false, hlen, if_pos (Nat.lt_of_not_le hlong), if_true]
  | cons q rest =>
      simp only [Bool.not_true, Bool.false_eq_true, if_false, if_pos (Nat.lt_of_not_le hlong),
        if_neg (List.cons_ne_nil q rest)]

/-- Any other goes to `Transmit` with all of its bytes. -/
theorem lowLevelOutput_fits (b : TxBuff) (s : EthTx) {copyPartial : CopyPartial}
    (hcopy : CopiesOut copyPartial) (stack : BytePtr) {p : TxChain} (halOk : Bool)
    (hfits : p.totLen.toNat ≤ ETH_MAX_PAYLOAD) :
    ∃ buffer, bytesAt buffer 0 p.totLen.toNat = p.bytes ∧
      ∀ s' packet ok, s.transmit b (some buffer) p.totLen halOk = (s', packet, ok) →
        s.lowLevelOutput b copyPartial true stack p halOk = (s', packet, if ok then .ERR_OK else .ERR_IF) := by
  cases hrest : p.rest with
  | nil =>
      obtain ⟨hlen, hbytes⟩ := TxChain.bytes_single hrest
      refine ⟨p.first.payload, hbytes.symm, fun s' packet ok heq => ?_⟩
      unfold lowLevelOutput
      rw [hrest]
      simp only [Bool.not_true, Bool.false_eq_true, if_false, hlen, heq]
  | cons q rest =>
      refine ⟨copyPartial p stack p.totLen.toNat 0, hcopy p stack, fun s' packet ok heq => ?_⟩
      unfold lowLevelOutput
      rw [hrest]
      simp only [Bool.not_true, Bool.false_eq_true, if_false, if_neg (Nat.not_lt.2 hfits), heq]

/-- The cache writes back lines of its own accord. -/
def evict (s : EthTx) (lines : BitVec 32 → Bool) : EthTx :=
  { s with ram := fun a => if lines a then s.cpu a else s.ram a }

theorem evict_holds (b : TxBuff) (s : EthTx) (lines : BitVec 32 → Bool) (i : Nat) {frame : List UInt8}
    (h : HoldsFrame (slots b s i) frame) : HoldsFrame (slots b (s.evict lines) i) frame := by
  refine h.keep (fun k _ => rfl) fun k _ => ?_
  show (if lines (b.slot i + BitVec.ofNat 32 k) then _ else _) = _ ∨
    (if lines (b.slot i + BitVec.ofNat 32 k) then _ else _) = _
  split
  · exact Or.inl rfl
  · exact Or.inr rfl

end EthTx

/-! ## Runs -/

/-- What happens: the cache writes lines back, or lwIP outputs a packet. -/
inductive OutputEvent where
  | evict (lines : BitVec 32 → Bool)
  | output (attached : Bool) (stack : BytePtr) (p : TxChain) (halOk : Bool)

namespace OutputEvent

/-- The frame that an output is to send. -/
def frame : OutputEvent → Option (List UInt8)
  | evict _ => none
  | output attached _ p _ =>
    if attached ∧ p.totLen.toNat ≤ ETH_MAX_PAYLOAD then some (padded p.bytes) else none

/-- What lwIP is to be told. -/
def err : OutputEvent → Option ErrT
  | evict _ => none
  | output attached _ p halOk =>
    if attached ∧ p.totLen.toNat ≤ ETH_MAX_PAYLOAD then some (if halOk then .ERR_OK else .ERR_IF)
    else if attached ∧ p.rest ≠ [] then some .ERR_MEM
    else some .ERR_IF

end OutputEvent

/-- A driver with the frames that the HAL got, as the DMA read them, and the answers to lwIP. -/
structure TxRun where
  state : EthTx
  frames : List (List UInt8)
  errs : List ErrT

namespace TxRun

open EthTx

variable (copyPartial : CopyPartial) (b : TxBuff)

/-- One event. -/
def step (r : TxRun) : OutputEvent → TxRun
  | .evict lines => { r with state := r.state.evict lines }
  | .output attached stack p halOk =>
    let (s, packet, e) := r.state.lowLevelOutput b copyPartial attached stack p halOk
    ⟨s, r.frames ++ (packet.map s.frameOf).toList, r.errs ++ [e]⟩

/-- The events of a run. -/
def run (s : EthTx) (events : List OutputEvent) : TxRun := events.foldl (step copyPartial b) ⟨s, [], []⟩

/-- What a run has done so far. -/
structure Sent (s : EthTx) (events : List OutputEvent) (r : TxRun) : Prop where
  frames : r.frames = events.filterMap OutputEvent.frame
  errs : r.errs = events.filterMap OutputEvent.err
  txIdx : r.state.txIdx = (s.txIdx + r.frames.length) % ETH_TX_DESC_CNT
  holding : Holding HoldsFrame ETH_TX_DESC_CNT s.txIdx (slots b r.state) r.frames
  outside : ∀ a, Mem.Apart b.addr (ETH_TX_DESC_CNT * ETH_MAX_PAYLOAD) a 1 → r.state.cpu a = s.cpu a

variable {copyPartial b} {s : EthTx} {events : List OutputEvent} {r : TxRun}

/-- An output that hands nothing to the HAL. -/
theorem Sent.refused (h : Sent b s events r) {e : OutputEvent} {err : ErrT} (hframe : e.frame = none)
    (herr : e.err = some err) : Sent b s (events ++ [e]) ⟨r.state, r.frames ++ [], r.errs ++ [err]⟩ where
  frames := by simp [h.frames, hframe]
  errs := by simp [h.errs, herr]
  txIdx := by
    rw [List.append_nil]
    exact h.txIdx
  holding := by
    rw [List.append_nil]
    exact h.holding
  outside := h.outside

/-- An output that hands on a frame. -/
theorem Sent.transmitted (h : Sent b s events r) {e : OutputEvent} {buffer : BytePtr} {length : UInt16}
    (halOk : Bool) {err : ErrT} (hlength : length.toNat ≤ ETH_MAX_PAYLOAD)
    (hframe : e.frame = some (padded (bytesAt buffer 0 length.toNat))) (herr : e.err = some err) :
    ∃ s' packet, r.state.transmit b (some buffer) length halOk = (s', some packet, halOk) ∧
      Sent b s (events ++ [e]) ⟨s', r.frames ++ [s'.frameOf packet], r.errs ++ [err]⟩ := by
  obtain ⟨s', packet, heq, hread, hidx, hnew, hkeep, hout⟩ :=
    transmit_spec b r.state buffer halOk hlength
  have hslot : r.state.txIdx = (s.txIdx + r.frames.length) % ETH_TX_DESC_CNT := h.txIdx
  refine ⟨s', packet, heq, ?_, ?_, ?_, ?_, ?_⟩
  · simp [h.frames, hframe, hread]
  · simp [h.errs, herr]
  · rw [hidx, hslot, List.length_append, List.length_singleton, Nat.mod_add_mod, Nat.add_assoc]
  · rw [hread]
    refine h.holding.push (by decide) ?_ ?_
    · rw [← hslot]
      exact hnew
    · rw [← hslot]
      exact hkeep
  · intro a ha
    exact (hout a ha).trans (h.outside a ha)

/-- **One event.** -/
theorem Sent.step (hcopy : CopiesOut copyPartial) (h : Sent b s events r) (e : OutputEvent) :
    Sent b s (events ++ [e]) (r.step copyPartial b e) := by
  cases e with
  | evict lines =>
      refine ⟨?_, ?_, h.txIdx, h.holding.mono fun i _ y => evict_holds b _ lines i, h.outside⟩
      · rw [List.filterMap_append]
        exact h.frames.trans (List.append_nil _).symm
      · rw [List.filterMap_append]
        exact h.errs.trans (List.append_nil _).symm
  | output attached stack p halOk =>
      unfold TxRun.step
      cases attached with
      | false => exact h.refused (by simp [OutputEvent.frame]) (by simp [OutputEvent.err])
      | true =>
          by_cases hfits : p.totLen.toNat ≤ ETH_MAX_PAYLOAD
          · obtain ⟨buffer, hbytes, hout⟩ := lowLevelOutput_fits b r.state hcopy stack halOk hfits
            have hframe : (OutputEvent.output true stack p halOk).frame =
                some (padded (bytesAt buffer 0 p.totLen.toNat)) := by
              rw [hbytes]
              exact if_pos ⟨rfl, hfits⟩
            obtain ⟨s', packet, heq, hsent⟩ := h.transmitted halOk hfits hframe
              (if_pos ⟨rfl, hfits⟩)
            simp only [hout s' _ _ heq]
            exact hsent
          · simp only [lowLevelOutput_long b r.state copyPartial stack halOk hfits]
            refine h.refused (if_neg fun hc => hfits hc.2) ?_
            by_cases hrest : p.rest = []
            · simp [OutputEvent.err, hfits, hrest]
            · simp [OutputEvent.err, hfits, hrest]

theorem sent_of_run (hcopy : CopiesOut copyPartial) (s : EthTx) (events : List OutputEvent) :
    Sent b s events (run copyPartial b s events) := by
  induction events using List.reverseRecOn with
  | nil =>
      refine ⟨rfl, rfl, ?_, Holding.empty _ _ _ _, fun a _ => rfl⟩
      exact (Nat.mod_eq_of_lt s.txIdx_lt).symm
  | append_singleton events e ih =>
      unfold run
      rw [List.foldl_append]
      exact ih.step hcopy e

/-- A frame that is sent is long enough and fits a buffer. -/
theorem length_frame {e : OutputEvent} {frame : List UInt8} (h : e.frame = some frame) :
    minFrame ≤ frame.length ∧ frame.length ≤ ETH_MAX_PAYLOAD := by
  cases e with
  | evict lines => cases h
  | output attached stack p halOk =>
      by_cases hfits : attached = true ∧ p.totLen.toNat ≤ ETH_MAX_PAYLOAD
      · have hframe : (OutputEvent.output attached stack p halOk).frame = some (padded p.bytes) := if_pos hfits
        obtain rfl := Option.some.inj (h.symm.trans hframe)
        rw [length_padded, p.length_bytes]
        exact ⟨le_max_left _ _, Nat.max_le.2 ⟨by decide, hfits.2⟩⟩
      · have hframe : (OutputEvent.output attached stack p halOk).frame = none := if_neg hfits
        rw [hframe] at h
        cases h

/-- **What is sent, over any run.**  The HAL gets the packets that fit a buffer, each with all of its bytes and
filled up with zeros to 60, in the order of their output, whatever the buffers and the stack held before and
however the HAL answers; lwIP is told of every other.  The last four lie in their buffers unharmed where the
DMA reads them, and no byte outside `Tx_Buff` has changed. -/
theorem run_sent (copyPartial : CopyPartial) (hcopy : CopiesOut copyPartial) (b : TxBuff) (s : EthTx)
    (events : List OutputEvent) :
    (run copyPartial b s events).frames = events.filterMap OutputEvent.frame ∧
      (run copyPartial b s events).errs = events.filterMap OutputEvent.err ∧
      (∀ frame ∈ (run copyPartial b s events).frames,
        minFrame ≤ frame.length ∧ frame.length ≤ ETH_MAX_PAYLOAD) ∧
      (∀ j (h : j < (run copyPartial b s events).frames.length),
        (run copyPartial b s events).frames.length ≤ j + ETH_TX_DESC_CNT →
          (run copyPartial b s events).state.ram.read (b.slot ((s.txIdx + j) % ETH_TX_DESC_CNT))
            (run copyPartial b s events).frames[j].length = (run copyPartial b s events).frames[j]) ∧
      ∀ a, Mem.Apart b.addr (ETH_TX_DESC_CNT * ETH_MAX_PAYLOAD) a 1 →
        (run copyPartial b s events).state.cpu a = s.cpu a := by
  have hsent := sent_of_run (b := b) hcopy s events
  refine ⟨hsent.frames, hsent.errs, fun frame hframe => ?_, fun j hj hlast => ?_, hsent.outside⟩
  · rw [hsent.frames] at hframe
    obtain ⟨e, -, he⟩ := List.mem_filterMap.1 hframe
    exact length_frame he
  · exact (hsent.holding j hj hlast).2.2

/-- Two packets, the first of two pbufs: what the HAL gets, by the theorem. -/
def hello : TxChain where
  first := ⟨BytePtr.ofList [1, 2], 2⟩
  rest := [⟨BytePtr.ofList [3], 1⟩]
  totLen := 3
  totLen_eq := by decide

/-- `pbuf_copy_partial`, as far as it is used here. -/
def copyWhole (p : TxChain) (dst : BytePtr) (len offset : Nat) : BytePtr := fun k =>
  if k < len then BytePtr.ofList (p.bytes.drop offset) k else dst k

theorem copyWhole_copiesOut : CopiesOut copyWhole := by
  intro p dst
  have hbytes := bytesAt_ofList p.bytes
  rw [p.length_bytes] at hbytes
  refine Eq.trans (bytesAt_congr fun k hk => ?_) hbytes
  unfold copyWhole
  rw [if_pos (by omega), List.drop_zero]

/-- `Tx_Buff` in `SRAMAHB`. -/
def sram : TxBuff := ⟨0x30000000#32, by decide⟩

/-- The driver before the first packet. -/
def idle : EthTx := ⟨fun _ => 0xFF, fun _ => 0xFF, 0, by decide⟩

/-- A packet of three bytes, for a driver at rest. -/
def helloRun : TxRun := run copyWhole sram idle [.output true (fun _ => 7) hello true]

theorem run_sent_hello :
    helloRun.frames = [.output true (fun _ => 7) hello true].filterMap OutputEvent.frame ∧
      helloRun.errs = [.output true (fun _ => 7) hello true].filterMap OutputEvent.err ∧
      (∀ frame ∈ helloRun.frames, minFrame ≤ frame.length ∧ frame.length ≤ ETH_MAX_PAYLOAD) ∧
      (∀ j (h : j < helloRun.frames.length), helloRun.frames.length ≤ j + ETH_TX_DESC_CNT →
        helloRun.state.ram.read (sram.slot ((idle.txIdx + j) % ETH_TX_DESC_CNT)) helloRun.frames[j].length =
          helloRun.frames[j]) ∧
      ∀ a, Mem.Apart sram.addr (ETH_TX_DESC_CNT * ETH_MAX_PAYLOAD) a 1 → helloRun.state.cpu a = idle.cpu a :=
  run_sent copyWhole copyWhole_copiesOut sram idle [.output true (fun _ => 7) hello true]

end TxRun

/-! ## From one node to another -/

namespace RxFrame

open RxList

/-- The DMA fills a buffer before it takes the next, and takes none for nothing. -/
def Packed (frame : RxFrame) : Prop :=
  (∀ f ∈ frame.fragments, 0 < f.length.toNat) ∧
    ∀ front f rest, frame.fragments = front ++ f :: rest → rest ≠ [] → f.length.toNat = ETH_MAX_PAYLOAD

/-- What `rx_cb_` gets is a chain with these bytes. -/
def IsPacket (handed : Nat × (Nat → Pbuf)) (bytes : List UInt8) : Prop :=
  ∃ chain, Seg (fun q => (handed.2 q).next) (some handed.1) chain none ∧
    chain.flatMap (fun q => (handed.2 q).payload) = bytes ∧
    (handed.2 handed.1).totLen.toNat = (chain.map fun q => (handed.2 q).len.toNat).sum

theorem packed_singleton {frame : RxFrame} {f : RxFragment} (hone : frame.fragments = [f])
    (hpos : 0 < f.length.toNat) : frame.Packed := by
  unfold Packed
  rw [hone]
  refine ⟨fun g hg => ?_, fun front g rest hsplit hrest => ?_⟩
  · rw [List.mem_singleton.1 hg]
    exact hpos
  · have hlength := congrArg List.length hsplit
    simp only [List.length_append, List.length_cons, List.length_nil] at hlength
    exact absurd (List.eq_nil_of_length_eq_zero (by omega)) hrest

/-- A frame no longer than a buffer takes one. -/
theorem Packed.one {frame : RxFrame} (h : frame.Packed) (hshort : frame.bytes.length ≤ ETH_MAX_PAYLOAD) :
    frame.fragments = [] ∨ ∃ f, frame.fragments = [f] := by
  obtain ⟨hpos, hfull⟩ := h
  unfold bytes at hshort
  cases hfragments : frame.fragments with
  | nil => exact Or.inl rfl
  | cons f rest =>
      cases rest with
      | nil => exact Or.inr ⟨f, rfl⟩
      | cons g rest =>
          have hf := hfull [] f (g :: rest) hfragments (List.cons_ne_nil _ _)
          have hg := hpos g (by simp [hfragments])
          rw [hfragments] at hshort
          simp only [List.flatMap_cons, List.length_append, RxFragment.length_bytes] at hshort
          omega

/-- So there is one pbuf for all of it, or none. -/
theorem Packed.allOrNothing {frame : RxFrame} (h : frame.Packed)
    (hshort : frame.bytes.length ≤ ETH_MAX_PAYLOAD) :
    ((linked frame.fragments).map (·.1)).Nodup ∧ frame.AllOrNothing := by
  unfold AllOrNothing
  obtain hnil | ⟨f, hone⟩ := h.one hshort
  · rw [hnil]
    exact ⟨List.nodup_nil, Or.inl fun f hf => by cases hf⟩
  · rw [hone]
    cases hpbuf : f.pbuf with
    | none => simp [linked, hpbuf]
    | some p =>
        exact ⟨by simp [linked, hpbuf], Or.inr ⟨by simp [hpbuf], Nat.lt_of_le_of_lt hshort (by decide)⟩⟩

/-- **A frame that fits one buffer** is handed on whole, or there was no pbuf for it. -/
theorem handOn_short {frame : RxFrame} (hpacked : frame.Packed)
    (hshort : frame.bytes.length ≤ ETH_MAX_PAYLOAD) :
    ∃ handed, frame.handOn true = some handed ∧ ∀ h, handed = some h → IsPacket h frame.bytes := by
  obtain ⟨hlinked, hall⟩ := hpacked.allOrNothing hshort
  obtain ⟨handed, hrun, hiff⟩ := handOn_whole_iff true frame hlinked
  refine ⟨handed, hrun, ?_⟩
  rintro ⟨p, heap⟩ rfl
  obtain ⟨chain, hseg, hbytes, hcounts⟩ := hiff.2 (Or.inr hall) p heap rfl
  refine ⟨chain, hseg, hbytes, ?_⟩
  cases chain with
  | nil => exact absurd hseg (by simp [Seg])
  | cons q rest =>
      obtain rfl : p = q := Option.some.inj hseg.1
      exact hcounts [] p rest rfl

/-- What `ProcessRx` hands on of frames that fit one buffer each: some of them, whole and in order. -/
theorem processRx_short {frames : List RxFrame} (hpacked : ∀ frame ∈ frames, frame.Packed)
    (hshort : ∀ frame ∈ frames, frame.bytes.length ≤ ETH_MAX_PAYLOAD) :
    ∃ handed payloads, processRx true frames = some handed ∧
      List.Forall₂ IsPacket handed.reduceOption payloads ∧ payloads.Sublist (frames.map bytes) := by
  induction frames with
  | nil => exact ⟨[], [], rfl, List.Forall₂.nil, List.Sublist.slnil⟩
  | cons frame frames ih =>
      obtain ⟨h, hone, hpacket⟩ := handOn_short (hpacked frame List.mem_cons_self)
        (hshort frame List.mem_cons_self)
      obtain ⟨handed, payloads, hrest, hall, hsub⟩ :=
        ih (fun f hf => hpacked f (List.mem_cons_of_mem _ hf)) fun f hf => hshort f (List.mem_cons_of_mem _ hf)
      have hrun : processRx true (frame :: frames) = some (h :: handed) := by
        unfold processRx at hrest ⊢
        rw [List.mapM_cons, hone, hrest]
        rfl
      cases h with
      | none => exact ⟨none :: handed, payloads, hrun, hall, hsub.cons _⟩
      | some q =>
          exact ⟨some q :: handed, frame.bytes :: payloads, hrun, List.Forall₂.cons (hpacket q rfl) hall,
            hsub.cons_cons _⟩

end RxFrame

namespace TxRun

open RxFrame

/-- **From driver to driver**, whatever the wire loses: what `ProcessRx` of one node hands to lwIP are packets
that lwIP of the other output, in their order, each whole and filled up with zeros to 60 bytes, and none cut
short for want of a pbuf. -/
theorem output_received (copyPartial : CopyPartial) (hcopy : CopiesOut copyPartial) (b : TxBuff) (s : EthTx)
    (events : List OutputEvent) (frames : List RxFrame)
    (hwire : (frames.map RxFrame.bytes).Sublist (run copyPartial b s events).frames)
    (hpacked : ∀ frame ∈ frames, frame.Packed) :
    ∃ handed payloads, processRx true frames = some handed ∧
      List.Forall₂ IsPacket handed.reduceOption payloads ∧
      payloads.Sublist (events.filterMap OutputEvent.frame) := by
  rw [(sent_of_run hcopy s events).frames] at hwire
  have hshort : ∀ frame ∈ frames, frame.bytes.length ≤ ETH_MAX_PAYLOAD := by
    intro frame hframe
    obtain ⟨e, -, he⟩ := List.mem_filterMap.1 (hwire.subset (List.mem_map_of_mem hframe))
    exact (length_frame he).2
  obtain ⟨handed, payloads, hrun, hall, hsub⟩ := processRx_short hpacked hshort
  exact ⟨handed, payloads, hrun, hall, hsub.trans hwire⟩

end TxRun

end EmbeddedPixel
