import EmbeddedPixel.Foundation.Bytes
import EmbeddedPixel.Foundation.LinkedList
import Mathlib.Algebra.BigOperators.Group.List.Basic

/-!
# Receiving Ethernet frames (`stm32h7/hal_impl/Stm32H7Eth.cpp`)

`HAL_ETH_RxLinkCallback` builds the chain of a frame in the heap of pbufs, one fragment at a time, and
`ProcessRx` hands the chain on.  The HAL calls the callback for the fragments of a frame in their order,
with `pStart` null before the first, and returns `pStart`.  A fragment fits one DMA buffer and so one pbuf
of the pool; `pbuf_alloc` gives an address or the null pointer, a new address each time.

`rxLink_eq`: the chain is that of the fragments for which there was a pbuf.  `processRx_whole_iff`: so a frame
is handed on whole, or not at all, unless some of its fragments found a pbuf and others did not.
-/

set_option autoImplicit false

namespace EmbeddedPixel

open Foundation

/-- `ETH_MAX_PAYLOAD`, the length of a DMA buffer; `PBUF_POOL_BUFSIZE` is the same. -/
def ETH_MAX_PAYLOAD : Nat := 1536

/-- `struct pbuf`, with the bytes its payload points to. -/
structure Pbuf where
  next : Option Nat
  payload : List UInt8
  totLen : UInt16
  len : UInt16

/-- A call of `HAL_ETH_RxLinkCallback`: the buffer, its length, and what `pbuf_alloc` returns. -/
structure RxFragment where
  buff : BytePtr
  length : UInt16
  length_le : length.toNat ≤ ETH_MAX_PAYLOAD
  pbuf : Option Nat

namespace RxFragment

/-- The bytes of a fragment. -/
def bytes (f : RxFragment) : List UInt8 := bytesAt f.buff 0 f.length.toNat

@[simp] theorem length_bytes (f : RxFragment) : f.bytes.length = f.length.toNat :=
  length_bytesAt f.buff 0 f.length.toNat

/-- The pbuf after `pbuf_alloc` and `pbuf_take`. -/
def toPbuf (f : RxFragment) : Pbuf := ⟨none, f.bytes, f.length, f.length⟩

end RxFragment

/-- The heap with `*pStart` and `*pEnd`. -/
structure RxList where
  heap : Nat → Pbuf
  pStart : Option Nat
  pEnd : Option Nat

namespace RxList

/-- `HAL_ETH_RxLinkCallback`; `none` is a null pointer that is followed, or a loop over `tot_len` that takes
more than `fuel` turns. -/
def rxLinkCallback (fuel : Nat) (s : RxList) (f : RxFragment) : Option RxList :=
  match f.pbuf with
  | none => some s -- out of memory
  | some p =>
    let heap := Function.update s.heap p f.toPbuf
    match s.pStart with
    | none => some ⟨heap, some p, some p⟩
    | some start => do
      let last ← s.pEnd
      let heap := Function.update heap last { heap last with next := some p }
      let heap ← visit Pbuf.next (fun q => { q with totLen := q.totLen + f.length }) p fuel
        (some start) heap
      some ⟨heap, some start, some p⟩

/-- The callbacks of a frame, one for each fragment. -/
def rxLink (fuel : Nat) (s : RxList) (frame : List RxFragment) : Option RxList :=
  frame.foldlM (rxLinkCallback fuel) s

/-! ## The chain -/

/-- The fragments that found a pbuf, with their addresses. -/
def linked (frame : List RxFragment) : List (Nat × RxFragment) :=
  frame.filterMap fun f => f.pbuf.map fun p => (p, f)

/-- The lengths of fragments, added up. -/
def sumLen (chain : List (Nat × RxFragment)) : Nat := (chain.map (·.2.length.toNat)).sum

/-- Every pbuf of a chain holds its fragment, and counts what lies from it to the end. -/
def Holds (heap : Nat → Pbuf) : List (Nat × RxFragment) → Prop
  | [] => True
  | (p, f) :: chain =>
    (heap p).payload = f.bytes ∧ (heap p).len = f.length ∧
      (heap p).totLen = UInt16.ofNat (sumLen ((p, f) :: chain)) ∧ Holds heap chain

/-- The list is the chain of these fragments. -/
structure Chain (s : RxList) (chain : List (Nat × RxFragment)) : Prop where
  seg : Seg (fun p => (s.heap p).next) s.pStart (chain.map (·.1)) none
  holds : Holds s.heap chain
  last : ∀ front p f, chain = front ++ [(p, f)] → s.pEnd = some p

theorem sumLen_append (chain chain' : List (Nat × RxFragment)) :
    sumLen (chain ++ chain') = sumLen chain + sumLen chain' := by
  unfold sumLen
  rw [List.map_append, List.sum_append]

/-- A fragment is added to the counts of a chain. -/
theorem holds_append {heap heap' : Nat → Pbuf} {chain : List (Nat × RxFragment)} {p : Nat}
    {f : RxFragment} (h : Holds heap chain) (hlast : heap' p = f.toPbuf)
    (hcounted : ∀ q ∈ chain.map (·.1), (heap' q).payload = (heap q).payload ∧
      (heap' q).len = (heap q).len ∧ (heap' q).totLen = (heap q).totLen + f.length) :
    Holds heap' (chain ++ [(p, f)]) := by
  induction chain with
  | nil =>
      have hsum : UInt16.ofNat (sumLen [(p, f)]) = f.length := by simp [sumLen]
      refine ⟨?_, ?_, ?_, trivial⟩
      · rw [hlast]
        rfl
      · rw [hlast]
        rfl
      · rw [hlast, hsum]
        rfl
  | cons c chain ih =>
      obtain ⟨hpayload, hlen, htot, hrest⟩ := h
      obtain ⟨hpayload', hlen', htot'⟩ := hcounted c.1 List.mem_cons_self
      have hsum : sumLen (c :: (chain ++ [(p, f)])) = sumLen (c :: chain) + f.length.toNat := by
        rw [← List.cons_append, sumLen_append]
        simp [sumLen]
      have hcount : (heap' c.1).totLen = UInt16.ofNat (sumLen (c :: (chain ++ [(p, f)]))) := by
        rw [htot', htot, hsum, UInt16.ofNat_add, UInt16.ofNat_toNat]
      exact ⟨hpayload'.trans hpayload, hlen'.trans hlen, hcount,
        ih hrest fun q hq => hcounted q (List.mem_cons_of_mem _ hq)⟩

/-- The heap once the last pbuf points to a new one and the counts before it are raised. -/
theorem visit_linked {fuel : Nat} {heap : Nat → Pbuf} {start : Option Nat} {front : List Nat}
    {last p : Nat} {f : RxFragment} (hseg : Seg (fun q => (heap q).next) start (front ++ [last]) none)
    (hnodup : (front ++ [last]).Nodup) (hp : p ∉ front ++ [last])
    (hfuel : (front ++ [last]).length < fuel) {heap' : Nat → Pbuf}
    (hheap : heap' = Function.update heap p f.toPbuf) :
    ∃ heap'', visit Pbuf.next (fun q => { q with totLen := q.totLen + f.length }) p fuel start
        (Function.update heap' last { heap' last with next := some p }) = some heap'' ∧
      heap'' p = f.toPbuf ∧
      Seg (fun q => (heap'' q).next) start (front ++ [last]) (some p) ∧
      ∀ q ∈ front ++ [last], (heap'' q).payload = (heap q).payload ∧
        (heap'' q).len = (heap q).len ∧ (heap'' q).totLen = (heap q).totLen + f.length := by
  have hold : ∀ q ∈ front ++ [last], heap' q = heap q := by
    intro q hq
    have hqp : q ≠ p := by
      rintro rfl
      exact hp hq
    rw [hheap, Function.update_of_ne hqp]
  have hlast : last ∈ front ++ [last] := List.mem_append_right _ List.mem_cons_self
  have hfront : last ∉ front := by
    intro hmem
    exact (List.nodup_append.1 hnodup).2.2 _ hmem _ List.mem_cons_self rfl
  generalize hlinked : Function.update heap' last { heap' last with next := some p } = linked
  have hnext : ∀ q ∈ front ++ [last],
      (linked q).next = Function.update (fun q => (heap q).next) last (some p) q := by
    intro q hq
    rw [← hlinked]
    by_cases hql : q = last
    · rw [hql, Function.update_self, Function.update_self]
    · rw [Function.update_of_ne hql, Function.update_of_ne hql, hold q hq]
  have hseg' : Seg (fun q => (linked q).next) start (front ++ [last]) (some p) :=
    (hseg.relink hfront).congr hnext
  refine ⟨_, visit_eq (by intro q; rfl) hseg' hnodup hp hfuel, ?_, ?_, ?_⟩
  · have hpl : p ≠ last := by
      rintro rfl
      exact hp hlast
    rw [if_neg hp, ← hlinked, Function.update_of_ne hpl, hheap, Function.update_self]
  · refine hseg'.congr fun q hq => ?_
    rw [if_pos hq]
  · intro q hq
    rw [if_pos hq, ← hlinked, ← hold q hq]
    by_cases hql : q = last
    · rw [hql, Function.update_self]
      exact ⟨rfl, rfl, rfl⟩
    · rw [Function.update_of_ne hql]
      exact ⟨rfl, rfl, rfl⟩

/-- **One fragment** with a pbuf of its own comes to the end of the chain. -/
theorem rxLinkCallback_eq {fuel : Nat} {s : RxList} {chain : List (Nat × RxFragment)} {p : Nat}
    {f : RxFragment} (h : Chain s chain) (hf : f.pbuf = some p)
    (hnodup : (chain.map (·.1)).Nodup) (hp : p ∉ chain.map (·.1)) (hfuel : chain.length < fuel) :
    ∃ s', rxLinkCallback fuel s f = some s' ∧ Chain s' (chain ++ [(p, f)]) := by
  -- once the last node points to the new one, the chain ends there
  have hend : ∀ {heap : Nat → Pbuf} {q : Option Nat}, heap p = f.toPbuf →
      Seg (fun q => (heap q).next) q (chain.map (·.1)) (some p) →
      Seg (fun q => (heap q).next) q ((chain ++ [(p, f)]).map (·.1)) none := by
    intro heap q hheap hseg
    rw [List.map_append]
    refine hseg.append ⟨rfl, ?_⟩
    show (heap p).next = none
    rw [hheap]
    rfl
  have hlast' : ∀ front q g, chain ++ [(p, f)] = front ++ [(q, g)] → some p = some q := by
    intro front q g heq
    have hlasts := (List.append_inj' heq rfl).2
    rw [(Prod.mk.inj (List.cons.inj hlasts).1).1]
  unfold rxLinkCallback
  rw [hf]
  dsimp only
  obtain rfl | ⟨front, ⟨l, fl⟩, rfl⟩ := List.eq_nil_or_concat' chain
  · have hstart : s.pStart = none := h.seg
    rw [hstart]
    refine ⟨_, rfl, hend (Function.update_self _ _ _) rfl, ?_, hlast'⟩
    exact holds_append h.holds (Function.update_self _ _ _) fun q hq => by cases hq
  · obtain ⟨start, hstart⟩ : ∃ start, s.pStart = some start := by
      have hseg := h.seg
      cases front with
      | nil => exact ⟨_, hseg.1⟩
      | cons c front => exact ⟨_, hseg.1⟩
    have hseg := h.seg
    rw [List.map_append] at hseg hnodup hp
    have hlength : (front.map (·.1) ++ [l]).length < fuel := by simpa using hfuel
    obtain ⟨heap, hvisit, hnew, hseg', hcounted⟩ := visit_linked hseg hnodup hp hlength rfl
    rw [hstart, h.last front l fl rfl]
    rw [hstart] at hvisit hseg'
    refine ⟨⟨heap, some start, some p⟩, ?_, hend hnew ?_, holds_append h.holds hnew ?_, hlast'⟩
    · dsimp only [Option.bind_eq_bind, Option.bind_some]
      rw [hvisit]
      rfl
    · rw [List.map_append]
      exact hseg'
    · rw [List.map_append]
      exact hcounted

/-- **All fragments of a frame**: the chain is that of the fragments that found a pbuf. -/
theorem rxLink_eq {fuel : Nat} {s : RxList} {chain : List (Nat × RxFragment)}
    {frame : List RxFragment} (h : Chain s chain)
    (hnodup : ((chain ++ linked frame).map (·.1)).Nodup)
    (hfuel : (chain ++ linked frame).length ≤ fuel) :
    ∃ s', rxLink fuel s frame = some s' ∧ Chain s' (chain ++ linked frame) := by
  induction frame generalizing s chain with
  | nil => exact ⟨s, rfl, by simpa [linked] using h⟩
  | cons f frame ih =>
      cases hf : f.pbuf with
      | none =>
          have hlinked : linked (f :: frame) = linked frame := by simp [linked, hf]
          rw [hlinked] at hnodup hfuel ⊢
          obtain ⟨s', hrun, hchain⟩ := ih h hnodup hfuel
          have hskip : rxLinkCallback fuel s f = some s := by
            unfold rxLinkCallback
            rw [hf]
          exact ⟨s', by rw [← hrun]; unfold rxLink; rw [List.foldlM_cons, hskip]; rfl, hchain⟩
      | some p =>
          have hlinked : linked (f :: frame) = (p, f) :: linked frame := by simp [linked, hf]
          have hassoc : chain ++ linked (f :: frame) = (chain ++ [(p, f)]) ++ linked frame := by
            rw [hlinked, List.append_assoc]
            rfl
          rw [hassoc] at hnodup hfuel ⊢
          obtain ⟨hold, -, -⟩ := List.nodup_append.1 (List.map_append ▸ hnodup)
          rw [List.map_append] at hold
          obtain ⟨hchain, -, hnew⟩ := List.nodup_append.1 hold
          have hp : p ∉ chain.map (·.1) := fun hmem => hnew p hmem p List.mem_cons_self rfl
          have hroom : chain.length < fuel := by
            simp only [List.length_append, List.length_singleton] at hfuel
            omega
          obtain ⟨t, hstep, ht⟩ := rxLinkCallback_eq h hf hchain hp hroom
          obtain ⟨s', hrun, hs'⟩ := ih ht hnodup hfuel
          exact ⟨s', by rw [← hrun]; unfold rxLink; rw [List.foldlM_cons, hstep]; rfl, hs'⟩

/-! ## What a chain holds -/

theorem holds_payload {heap : Nat → Pbuf} {chain : List (Nat × RxFragment)} (h : Holds heap chain) :
    (chain.map (·.1)).flatMap (fun q => (heap q).payload) = chain.flatMap (·.2.bytes) := by
  induction chain with
  | nil => rfl
  | cons c chain ih =>
      obtain ⟨hpayload, -, -, hrest⟩ := h
      rw [List.map_cons, List.flatMap_cons, List.flatMap_cons, ih hrest, hpayload]

theorem holds_len {heap : Nat → Pbuf} {chain : List (Nat × RxFragment)} (h : Holds heap chain) :
    ((chain.map (·.1)).map fun q => (heap q).len.toNat).sum = sumLen chain := by
  induction chain with
  | nil => rfl
  | cons c chain ih =>
      obtain ⟨-, hlen, -, hrest⟩ := h
      simp only [List.map_cons, List.sum_cons, ih hrest, hlen, sumLen]

/-- From any pbuf of a chain on it is a chain. -/
theorem holds_drop {heap : Nat → Pbuf} {front rest : List (Nat × RxFragment)}
    (h : Holds heap (front ++ rest)) : Holds heap rest := by
  induction front with
  | nil => exact h
  | cons c front ih => exact ih h.2.2.2

theorem length_linked_bytes (frame : List RxFragment) :
    ((linked frame).flatMap (·.2.bytes)).length = sumLen (linked frame) := by
  rw [List.length_flatMap]
  simp [sumLen]

theorem length_linked_bytes_le (frame : List RxFragment) :
    ((linked frame).flatMap (·.2.bytes)).length ≤ (frame.flatMap (·.bytes)).length := by
  induction frame with
  | nil => exact Nat.le_refl _
  | cons f frame ih =>
      cases hf : f.pbuf with
      | none => simp [linked, hf] at ih ⊢; omega
      | some p => simp [linked, hf] at ih ⊢; omega

/-- The fragments that found a pbuf have all bytes of the frame if and only if the others are empty. -/
theorem linked_bytes_iff (frame : List RxFragment) :
    (linked frame).flatMap (·.2.bytes) = frame.flatMap (·.bytes) ↔
      ∀ f ∈ frame, f.pbuf = none → f.length = 0 := by
  induction frame with
  | nil => simp [linked]
  | cons f frame ih =>
      rw [List.forall_mem_cons, ← ih, List.flatMap_cons]
      cases hf : f.pbuf with
      | some p =>
          have hlinked : linked (f :: frame) = (p, f) :: linked frame := by simp [linked, hf]
          rw [hlinked, List.flatMap_cons, List.append_cancel_left_eq]
          simp
      | none =>
          have hlinked : linked (f :: frame) = linked frame := by simp [linked, hf]
          rw [hlinked]
          constructor
          · intro h
            have hle := length_linked_bytes_le frame
            rw [h, List.length_append, f.length_bytes] at hle
            have hzero : f.length = 0 := UInt16.toNat_inj.1 (show f.length.toNat = 0 by omega)
            have hnil : f.bytes = [] := List.eq_nil_of_length_eq_zero (by rw [f.length_bytes, hzero]; rfl)
            exact ⟨fun _ => hzero, by rw [h, hnil]; rfl⟩
          · rintro ⟨hzero, h⟩
            have hnil : f.bytes = [] :=
              List.eq_nil_of_length_eq_zero (by rw [f.length_bytes, hzero rfl]; rfl)
            rw [h, hnil]
            rfl

end RxList

/-! ## `ProcessRx` -/

/-- A frame that `HAL_ETH_ReadData` delivers: the heap it finds, the pointer that was left in `pEnd`, and the
fragments. -/
structure RxFrame where
  heap : Nat → Pbuf
  pEnd : Option Nat
  fragments : List RxFragment

namespace RxFrame

open RxList

/-- One turn of `ProcessRx`: what `rx_cb_` gets, if it is set, and the heap then. -/
def handOn (rxCb : Bool) (frame : RxFrame) : Option (Option (Nat × (Nat → Pbuf))) := do
  let s ← rxLink (frame.fragments.length + 1) ⟨frame.heap, none, frame.pEnd⟩ frame.fragments
  match s.pStart with
  | none => some none
  | some p => if rxCb then some (some (p, s.heap)) else some none -- `pbuf_free`

/-- The loop of `ProcessRx`. -/
def processRx (rxCb : Bool) (frames : List RxFrame) :
    Option (List (Option (Nat × (Nat → Pbuf)))) := frames.mapM (handOn rxCb)

/-- The bytes of a frame. -/
def bytes (frame : RxFrame) : List UInt8 := frame.fragments.flatMap (·.bytes)

/-- What is handed on is nothing, or a chain with all bytes of the frame in which every `tot_len` is the
number of bytes from its pbuf to the end. -/
def WholeOrDropped (frame : RxFrame) (handed : Option (Nat × (Nat → Pbuf))) : Prop :=
  ∀ p heap, handed = some (p, heap) →
    ∃ chain, Seg (fun q => (heap q).next) (some p) chain none ∧
      chain.flatMap (fun q => (heap q).payload) = frame.bytes ∧
      ∀ front q rest, chain = front ++ q :: rest →
        (heap q).totLen.toNat = ((q :: rest).map fun q => (heap q).len.toNat).sum

/-- No fragment found a pbuf, or those that did not are empty; and the frame is shorter than 64 KiB. -/
def AllOrNothing (frame : RxFrame) : Prop :=
  (∀ f ∈ frame.fragments, f.pbuf = none) ∨
    (∀ f ∈ frame.fragments, f.pbuf = none → f.length = 0) ∧ frame.bytes.length < 2 ^ 16

/-- A chain is whole if its fragments have all bytes of the frame and its lengths add up without a carry. -/
theorem whole_iff {frame : RxFrame} {s : RxList} {p : Nat} {chain : List (Nat × RxFragment)}
    (h : Chain s chain) (hstart : s.pStart = some p) :
    frame.WholeOrDropped (some (p, s.heap)) ↔
      chain.flatMap (·.2.bytes) = frame.bytes ∧ sumLen chain < 2 ^ 16 := by
  have hseg := h.seg
  rw [hstart] at hseg
  constructor
  · intro hwhole
    obtain ⟨addrs, hseg', hbytes, hcounts⟩ := hwhole p s.heap rfl
    obtain rfl := hseg'.unique hseg
    rw [holds_payload h.holds] at hbytes
    refine ⟨hbytes, ?_⟩
    cases chain with
    | nil => exact absurd hseg (by simp [Seg])
    | cons c chain =>
        -- the first pbuf counts the whole chain
        have hcount := hcounts [] c.1 (chain.map (·.1)) rfl
        have hfirst : (s.heap c.1).totLen = UInt16.ofNat (sumLen (c :: chain)) := h.holds.2.2.1
        have hsum : ((c.1 :: chain.map (·.1)).map fun q => (s.heap q).len.toNat).sum =
            sumLen (c :: chain) := holds_len h.holds
        rw [hsum, hfirst] at hcount
        rw [← hcount]
        exact UInt16.toNat_lt _
  · rintro ⟨hbytes, hsum⟩ p' heap hhanded
    cases hhanded
    refine ⟨chain.map (·.1), hseg, (holds_payload h.holds).trans hbytes, ?_⟩
    intro front q rest heq
    obtain ⟨front', tail, rfl, -, htail⟩ := List.map_eq_append_iff.1 heq
    obtain ⟨c, rest', rfl, rfl, rfl⟩ := List.map_eq_cons_iff.1 htail
    have hdrop := holds_drop h.holds
    have hcount : (s.heap c.1).totLen = UInt16.ofNat (sumLen (c :: rest')) := hdrop.2.2.1
    have hlens : ((c.1 :: rest'.map (·.1)).map fun q => (s.heap q).len.toNat).sum =
        sumLen (c :: rest') := holds_len hdrop
    rw [sumLen_append] at hsum
    rw [hlens, hcount]
    exact UInt16.toNat_ofNat_of_lt' (Nat.lt_of_le_of_lt (Nat.le_add_left _ _) hsum)

/-- **When a frame is handed on whole or not at all.** -/
theorem handOn_whole_iff (rxCb : Bool) (frame : RxFrame)
    (hnodup : ((linked frame.fragments).map (·.1)).Nodup) :
    ∃ handed, frame.handOn rxCb = some handed ∧
      (frame.WholeOrDropped handed ↔ rxCb = false ∨ frame.AllOrNothing) := by
  have hempty : Chain ⟨frame.heap, none, frame.pEnd⟩ [] :=
    ⟨rfl, trivial, fun front p f h => absurd h.symm (by simp)⟩
  have hfuel : ([] ++ linked frame.fragments).length ≤ frame.fragments.length + 1 :=
    Nat.le_succ_of_le (List.length_filterMap_le _ _)
  obtain ⟨s, hrun, hchain⟩ := rxLink_eq hempty hnodup hfuel
  have hchain : Chain s (linked frame.fragments) := hchain
  unfold handOn
  rw [hrun]
  dsimp only [Option.bind_eq_bind, Option.bind_some]
  cases hstart : s.pStart with
  | none =>
      have hnone : ∀ f ∈ frame.fragments, f.pbuf = none := by
        have hseg := hchain.seg
        rw [hstart] at hseg
        cases hlinked : linked frame.fragments with
        | nil => simpa [linked] using hlinked
        | cons c chain =>
            rw [hlinked] at hseg
            exact absurd hseg.1 (by simp)
      refine ⟨none, rfl, fun _ => Or.inr (Or.inl hnone), fun _ p heap h => ?_⟩
      cases h
  | some p =>
      cases rxCb with
      | false => exact ⟨none, rfl, fun _ => Or.inl rfl, fun _ p heap h => by cases h⟩
      | true =>
          refine ⟨_, rfl, (whole_iff hchain hstart).trans ?_⟩
          have hsome : ¬ ∀ f ∈ frame.fragments, f.pbuf = none := by
            intro hnone
            have hlinked : linked frame.fragments = [] := by simpa [linked] using hnone
            have hseg := hchain.seg
            rw [hstart, hlinked] at hseg
            exact absurd hseg (by simp [Seg])
          have hlength := length_linked_bytes frame.fragments
          unfold AllOrNothing
          rw [← linked_bytes_iff, or_iff_right (by decide), or_iff_right hsome]
          refine and_congr_right fun hbytes => ?_
          rw [← hlength, hbytes]

/-- **When `ProcessRx` hands on frames whole or not at all**: for every frame, if and only if all of its
fragments found a pbuf or none did; an empty fragment does not count. -/
theorem processRx_whole_iff (rxCb : Bool) (frames : List RxFrame)
    (hnodup : ∀ frame ∈ frames, ((linked frame.fragments).map (·.1)).Nodup) :
    ∃ handed, processRx rxCb frames = some handed ∧
      List.Forall₂ (fun frame h => frame.WholeOrDropped h ↔ rxCb = false ∨ frame.AllOrNothing) frames
        handed := by
  induction frames with
  | nil => exact ⟨[], rfl, List.Forall₂.nil⟩
  | cons frame frames ih =>
      obtain ⟨h, hone, hiff⟩ := handOn_whole_iff rxCb frame (hnodup frame List.mem_cons_self)
      obtain ⟨handed, hrest, hall⟩ := ih fun f hf => hnodup f (List.mem_cons_of_mem _ hf)
      refine ⟨h :: handed, ?_, List.Forall₂.cons hiff hall⟩
      unfold processRx at hrest ⊢
      rw [List.mapM_cons, hone, hrest]
      rfl

/-- A frame of 1600 bytes in two fragments, and what `pbuf_alloc` gives for each. -/
def inTwo (first second : Option Nat) : RxFrame where
  heap _ := ⟨none, [], 0, 0⟩
  pEnd := none
  fragments :=
    [⟨fun _ => 0, 1536, by decide, first⟩, ⟨fun _ => 0, 64, by decide, second⟩]

theorem processRx_two_pbufs :
    ∃ handed, processRx true [inTwo (some 0) (some 1)] = some handed ∧
      List.Forall₂ (fun frame h => frame.WholeOrDropped h ↔ true = false ∨ frame.AllOrNothing)
        [inTwo (some 0) (some 1)] handed :=
  processRx_whole_iff true [inTwo (some 0) (some 1)] (by simp [inTwo, linked])

/-- The second fragment finds no pbuf, and the first is handed on alone. -/
theorem processRx_partial_frame :
    ¬ ∀ (rxCb : Bool) (frames : List RxFrame),
        (∀ frame ∈ frames, ((linked frame.fragments).map (·.1)).Nodup) →
        ∃ handed, processRx rxCb frames = some handed ∧
          List.Forall₂ WholeOrDropped frames handed := by
  intro h
  obtain ⟨handed, hrun, hall⟩ := h true [inTwo (some 0) none] (by simp [inTwo, linked])
  obtain ⟨h', hone, hiff⟩ := handOn_whole_iff true (inTwo (some 0) none) (by simp [inTwo, linked])
  have hrun' : processRx true [inTwo (some 0) none] = some [h'] := by
    unfold processRx
    rw [List.mapM_cons, hone]
    rfl
  obtain rfl := Option.some.inj (hrun.symm.trans hrun')
  cases hall with
  | cons hwhole _ =>
      have hcond := hiff.1 hwhole
      simp [AllOrNothing, inTwo] at hcond

end RxFrame

end EmbeddedPixel
