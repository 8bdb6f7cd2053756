import Mathlib.Data.List.GetD
import EmbeddedPixel.Foundation.Memory
import EmbeddedPixel.Foundation.Tiles

/-!
# Programs over a RAM and a NOR flash

A `Prog` reads and writes a RAM and issues erase, write and read commands to a flash.  What becomes
of a command is decided outside: the device carries it out (`ok`), reports success but leaves the
flash and the answer in any state (`okBut`), or reports an error and leaves the flash in any state
(`error`).  When the list of replies is used up the power is lost, at that command.

`Prog.exec` runs a program and keeps the log of the commands and their answers.  `Prog.issue` is the
program that issues a list of commands until one is refused and gathers the bytes they read:
`exec_issue` says everything it can do, `exec_issue_ok` what it does when every command is carried
out, in terms of `Nor.perform`.  The last section says what writing in pieces comes to, one write
(`perform_tiles`), and what erasing sectors and then writing and reading back chunks does:
`perform_install`.
-/

set_option autoImplicit false

namespace Foundation

/-- The bytes of a flash. -/
abbrev Flash := Nat → UInt8

inductive FlashCmd where
  | erase (addr size : Nat)
  | write (addr : Nat) (data : List UInt8)
  | read (addr size : Nat)
  deriving DecidableEq, Repr

/-- Whether a command can change the flash. -/
def FlashCmd.changes : FlashCmd → Bool
  | erase _ _ => true
  | write _ _ => true
  | read _ _ => false

/-- A NOR flash: what programming a byte makes of it.  An erased byte takes the value written. -/
structure Nor where
  program : UInt8 → UInt8 → UInt8
  program_erased : ∀ d, program 0xFF d = d

namespace Nor

variable (nor : Nor)

/-- What a command returns and leaves when the device carries it out. -/
def carryOut (f : Flash) : FlashCmd → List UInt8 × Flash
  | .erase a n => ([], fun i => if a ≤ i ∧ i < a + n then 0xFF else f i)
  | .write a data =>
    ([], fun i => if a ≤ i ∧ i < a + data.length then nor.program (f i) (data.getD (i - a) 0) else f i)
  | .read a n => (bytesAt f a n, f)

/-- A list of commands, each carried out: the bytes read and the flash. -/
def perform : List FlashCmd → Flash → List UInt8 × Flash
  | [], f => ([], f)
  | c :: cs, f =>
    ((nor.carryOut f c).1 ++ (perform cs (nor.carryOut f c).2).1,
      (perform cs (nor.carryOut f c).2).2)

end Nor

/-- What becomes of a command. -/
inductive FlashReply where
  | ok
  | okBut (after : Flash) (data : BytePtr)
  | error (after : Flash)

/-- A command with its answer. -/
structure FlashEntry where
  cmd : FlashCmd
  ok : Bool
  data : List UInt8
  deriving DecidableEq, Repr

/-- The part of `data` that a command hands to its caller. -/
def FlashCmd.returned (data : BytePtr) : FlashCmd → List UInt8
  | read _ n => bytesAt data 0 n
  | _ => []

/-- What the answer to a command adds to the bytes read. -/
def FlashCmd.kept (c : FlashCmd) (data : List UInt8) : List UInt8 := if c.changes then [] else data

/-- The answer to a command and the flash after it. -/
def Nor.answer (nor : Nor) (f : Flash) (c : FlashCmd) : FlashReply → FlashEntry × Flash
  | .ok => (⟨c, true, (nor.carryOut f c).1⟩, (nor.carryOut f c).2)
  | .okBut after data => (⟨c, true, c.returned data⟩, after)
  | .error after => (⟨c, false, []⟩, after)

/-- The answers to a list of commands, one reply to each. -/
def Nor.answers (nor : Nor) : List FlashCmd → Flash → List FlashReply → List FlashEntry
  | c :: cs, f, r :: rs => (nor.answer f c r).1 :: answers nor cs (nor.answer f c r).2 rs
  | _, _, _ => []

theorem Nor.answer_cmd (nor : Nor) (f : Flash) (c : FlashCmd) (r : FlashReply) :
    (nor.answer f c r).1.cmd = c := by
  cases r <;> rfl

theorem Nor.kept_answer (nor : Nor) (f : Flash) (c : FlashCmd) (r : FlashReply) :
    c.kept (nor.answer f c r).1.data = (nor.answer f c r).1.data := by
  cases c <;> cases r <;> rfl

/-- Programs over a RAM with addresses of width `w` and a flash. -/
inductive Prog (w : Nat) (α : Type) where
  | ret (a : α)
  | get (k : Mem w → Prog w α)
  | store (a : BitVec w) (bytes : List UInt8) (k : Prog w α)
  | flash (c : FlashCmd) (k : Bool → List UInt8 → Prog w α)

structure World (w : Nat) where
  ram : Mem w
  flash : Flash

/-- How a program went: the world it left, the commands it issued, and its result with the replies
it did not use, or `none` when the power was lost. -/
structure Outcome (w : Nat) (α : Type) where
  world : World w
  log : List FlashEntry
  result : Option (α × List FlashReply)

namespace Prog

variable {w : Nat} {α β : Type}

def bind : Prog w α → (α → Prog w β) → Prog w β
  | .ret a, f => f a
  | .get k, f => .get fun m => (k m).bind f
  | .store a bytes k, f => .store a bytes (k.bind f)
  | .flash c k, f => .flash c fun ok data => (k ok data).bind f

instance : Monad (Prog w) where
  pure := .ret
  bind := Prog.bind

/-- The RAM. -/
def memory : Prog w (Mem w) := .get .ret

/-- Writes bytes to the RAM. -/
def put (a : BitVec w) (bytes : List UInt8) : Prog w Unit := .store a bytes (.ret ())

/-- Issues a command whose answer is only whether it succeeded. -/
def succeeds (c : FlashCmd) : Prog w Bool := .flash c fun ok _ => .ret ok

/-- Issues a read: the bytes, unless it was refused. -/
def readBack (addr size : Nat) : Prog w (Option (List UInt8)) :=
  .flash (.read addr size) fun ok data => .ret (if ok then some data else none)

def exec (nor : Nor) : Prog w α → World w → List FlashReply → Outcome w α
  | .ret a, s, rs => ⟨s, [], some (a, rs)⟩
  | .get k, s, rs => (k s.ram).exec nor s rs
  | .store a bytes k, s, rs =>
    k.exec nor { s with ram := s.ram.store a bytes.length (BytePtr.ofList bytes) } rs
  | .flash _ _, s, [] => ⟨s, [], none⟩
  | .flash c k, s, r :: rs =>
    let e := nor.answer s.flash c r
    let o := (k e.1.ok e.1.data).exec nor { s with flash := e.2 } rs
    ⟨o.world, e.1 :: o.log, o.result⟩

end Prog

/-- Goes on from an outcome that has a result. -/
def Outcome.andThen {w : Nat} {α β : Type} (o : Outcome w α)
    (k : α → World w → List FlashReply → Outcome w β) : Outcome w β :=
  match o.result with
  | none => ⟨o.world, o.log, none⟩
  | some (a, rs) =>
    ⟨(k a o.world rs).world, o.log ++ (k a o.world rs).log, (k a o.world rs).result⟩

namespace Prog

variable {w : Nat} {α β : Type} (nor : Nor)

@[simp] theorem exec_pure (a : α) (s : World w) (rs : List FlashReply) :
    (pure a : Prog w α).exec nor s rs = ⟨s, [], some (a, rs)⟩ := rfl

@[simp] theorem exec_memory_bind (f : Mem w → Prog w α) (s : World w) (rs : List FlashReply) :
    (memory >>= f).exec nor s rs = (f s.ram).exec nor s rs := rfl

@[simp] theorem exec_put_bind (a : BitVec w) (bytes : List UInt8) (f : Unit → Prog w α)
    (s : World w) (rs : List FlashReply) :
    (put a bytes >>= f).exec nor s rs =
      (f ()).exec nor { s with ram := s.ram.store a bytes.length (BytePtr.ofList bytes) } rs := rfl

@[simp] theorem exec_put (a : BitVec w) (bytes : List UInt8) (s : World w)
    (rs : List FlashReply) :
    (put a bytes).exec nor s rs =
      ⟨{ s with ram := s.ram.store a bytes.length (BytePtr.ofList bytes) }, [],
        some ((), rs)⟩ := rfl

/-- **Sequencing.** -/
theorem exec_bind (x : Prog w α) (f : α → Prog w β) (s : World w) (rs : List FlashReply) :
    (x >>= f).exec nor s rs = (x.exec nor s rs).andThen fun a s' rs' => (f a).exec nor s' rs' := by
  show (x.bind f).exec nor s rs = _
  induction x generalizing s rs with
  | ret a => rfl
  | get k ih => exact ih _ _ _
  | store a bytes k ih => exact ih _ _
  | flash c k ih =>
      cases rs with
      | nil => rfl
      | cons r rs =>
          simp only [bind, exec, ih]
          unfold Outcome.andThen
          dsimp only
          split <;> rfl

theorem bind_ret (x : Prog w α) : x.bind .ret = x := by
  induction x with
  | ret a => rfl
  | get k ih => simp only [bind, ih]
  | store a bytes k ih => simp only [bind, ih]
  | flash c k ih => simp only [bind, ih]

theorem bind_bind {γ : Type} (x : Prog w α) (f : α → Prog w β) (g : β → Prog w γ) :
    (x.bind f).bind g = x.bind fun a => (f a).bind g := by
  induction x with
  | ret a => rfl
  | get k ih => simp only [bind, ih]
  | store a bytes k ih => simp only [bind, ih]
  | flash c k ih => simp only [bind, ih]

instance : LawfulMonad (Prog w) := by
  refine LawfulMonad.mk' (Prog w) ?_ ?_ ?_
  · intro α x
    exact bind_ret x
  · intro α β a f
    rfl
  · intro α β γ x f g
    exact bind_bind x f g

/-! ## Issuing a list of commands -/

/-- Issues the commands in order, until one is refused, adding the bytes they read to `acc`. -/
def issue : List FlashCmd → (acc : List UInt8) → Prog w (Option (List UInt8))
  | [], acc => pure (some acc)
  | c :: cs, acc => .flash c fun ok data =>
    if ok then issue cs (acc ++ c.kept data) else pure none

/-- What issuing `cs` can come to: a prefix of the commands was issued and the RAM is as it was.
Either the power was lost before the last command, or the last command issued was refused, or all
were accepted and the bytes read are handed back. -/
def Issued (cs : List FlashCmd) (acc : List UInt8) (s : World w)
    (o : Outcome w (Option (List UInt8))) : Prop :=
  o.world.ram = s.ram ∧ o.log.map (·.cmd) <+: cs ∧
    match o.result with
    | none => (∀ e ∈ o.log, e.ok = true) ∧ o.log.length < cs.length
    | some (none, _) => ∃ e ∈ o.log, e.ok = false
    | some (some data, _) =>
      (∀ e ∈ o.log, e.ok = true) ∧ o.log.map (·.cmd) = cs ∧ data = acc ++ o.log.flatMap (·.data)

theorem exec_issue_cons (c : FlashCmd) (cs : List FlashCmd) (acc : List UInt8) (s : World w)
    (r : FlashReply) (rs : List FlashReply) :
    (issue (c :: cs) acc).exec nor s (r :: rs) =
      if (nor.answer s.flash c r).1.ok then
        let o := (issue cs (acc ++ (nor.answer s.flash c r).1.data)).exec nor
          { s with flash := (nor.answer s.flash c r).2 } rs
        ⟨o.world, (nor.answer s.flash c r).1 :: o.log, o.result⟩
      else ⟨{ s with flash := (nor.answer s.flash c r).2 }, [(nor.answer s.flash c r).1],
        some (none, rs)⟩ := by
  simp only [issue, exec, nor.kept_answer]
  split
  · rfl
  · rfl

/-- **Everything `issue` can do.** -/
theorem exec_issue (cs : List FlashCmd) (acc : List UInt8) (s : World w) (rs : List FlashReply) :
    Issued cs acc s ((issue cs acc).exec nor s rs) := by
  induction cs generalizing acc s rs with
  | nil => simp [issue, Issued]
  | cons c cs ih =>
      cases rs with
      | nil => simp [issue, exec, Issued]
      | cons r rs =>
          rw [exec_issue_cons]
          have hc := nor.answer_cmd s.flash c r
          split
          · rename_i hok
            obtain ⟨hram, hpre, hres⟩ := ih (acc ++ (nor.answer s.flash c r).1.data)
              { s with flash := (nor.answer s.flash c r).2 } rs
            refine ⟨hram, by simpa [hc] using hpre, ?_⟩
            revert hres
            generalize (issue cs _).exec nor _ rs = o
            obtain ⟨s', log, result⟩ := o
            rcases result with _ | ⟨_ | data, rest⟩
            · rintro ⟨hall, hlen⟩
              exact ⟨by simpa [hok] using hall, by simpa using hlen⟩
            · rintro ⟨e, he, hf⟩
              exact ⟨e, by simp [he], hf⟩
            · rintro ⟨hall, hcmd, hdata⟩
              exact ⟨by simpa [hok] using hall, by simpa [hc] using hcmd, by simp [hdata]⟩
          · rename_i hok
            refine ⟨rfl, by simp [hc], (nor.answer s.flash c r).1, by simp, by simpa using hok⟩

/-- How issuing ends, by the answers of the device: the replies end before one refuses, one refuses,
or none does and they last. -/
theorem result_issue (cs : List FlashCmd) (acc : List UInt8) (s : World w) (rs : List FlashReply) :
    (((issue cs acc).exec nor s rs).result = none ∧
        (∀ e ∈ nor.answers cs s.flash rs, e.ok = true) ∧ rs.length < cs.length) ∨
      (∃ rest, ((issue cs acc).exec nor s rs).result = some (none, rest) ∧
        ∃ e ∈ nor.answers cs s.flash rs, e.ok = false) ∨
      ∃ rest, ((issue cs acc).exec nor s rs).result =
          some (some (acc ++ (nor.answers cs s.flash rs).flatMap (·.data)), rest) ∧
        (∀ e ∈ nor.answers cs s.flash rs, e.ok = true) ∧ cs.length ≤ rs.length := by
  induction cs generalizing acc s rs with
  | nil =>
      refine Or.inr (Or.inr ⟨rs, ?_, ?_, Nat.zero_le _⟩)
      · simp [issue, Nor.answers]
      · simp [Nor.answers]
  | cons c cs ih =>
      cases rs with
      | nil =>
          refine Or.inl ⟨rfl, ?_, Nat.succ_pos _⟩
          simp [Nor.answers]
      | cons r rs =>
          rw [exec_issue_cons, Nor.answers]
          split
          · rename_i hok
            rcases ih (acc ++ (nor.answer s.flash c r).1.data)
              { s with flash := (nor.answer s.flash c r).2 } rs with
              ⟨hres, hall, hlen⟩ | ⟨rest, hres, e, he, hf⟩ | ⟨rest, hres, hall, hlen⟩
            · refine Or.inl ⟨hres, ?_, Nat.succ_lt_succ hlen⟩
              rw [List.forall_mem_cons]
              exact ⟨hok, hall⟩
            · exact Or.inr (Or.inl ⟨rest, hres, e, List.mem_cons_of_mem _ he, hf⟩)
            · refine Or.inr (Or.inr ⟨rest, ?_, ?_, Nat.succ_le_succ hlen⟩)
              · rw [List.flatMap_cons, ← List.append_assoc]
                exact hres
              · rw [List.forall_mem_cons]
                exact ⟨hok, hall⟩
          · rename_i hok
            exact Or.inr (Or.inl ⟨rs, rfl, _, List.mem_cons_self, by simpa using hok⟩)

/-- **When every command is carried out**, the flash and the bytes read are those of
`Nor.perform`. -/
theorem exec_issue_ok (cs : List FlashCmd) (acc : List UInt8) (s : World w)
    (rest : List FlashReply) :
    ((issue cs acc).exec nor s (List.replicate cs.length .ok ++ rest)).world =
        { s with flash := (nor.perform cs s.flash).2 } ∧
      ((issue cs acc).exec nor s (List.replicate cs.length .ok ++ rest)).result =
        some (some (acc ++ (nor.perform cs s.flash).1), rest) := by
  induction cs generalizing acc s with
  | nil => simp [issue, Nor.perform]
  | cons c cs ih =>
      obtain ⟨hw, hr⟩ := ih (acc ++ (nor.carryOut s.flash c).1)
        { s with flash := (nor.carryOut s.flash c).2 }
      rw [List.length_cons, List.replicate_succ, List.cons_append, exec_issue_cons]
      refine ⟨hw, ?_⟩
      rw [Nor.perform, ← List.append_assoc]
      exact hr

/-- Issuing two lists one after the other. -/
theorem issue_append (cs ds : List FlashCmd) (acc : List UInt8) :
    (issue (cs ++ ds) acc : Prog w _) = issue cs acc >>= fun
      | none => pure none
      | some acc' => issue ds acc' := by
  induction cs generalizing acc with
  | nil => rfl
  | cons c cs ih =>
      show Prog.flash c _ = Prog.flash c _
      congr 1
      funext ok data
      cases ok with
      | false => rfl
      | true => exact ih _

end Prog

/-! ## Erasing, programming and reading back -/

/-- The addresses `cur`, `cur + size`, ... below `stop`. -/
def sectorsFrom (size stop : Nat) : (fuel cur : Nat) → List Nat
  | 0, _ => []
  | fuel + 1, cur => if cur < stop then cur :: sectorsFrom size stop fuel (cur + size) else []

/-- The chunks of at most `size` bytes from `off` to `stop`, each with its length. -/
def chunksFrom (size stop : Nat) : (fuel off : Nat) → List (Nat × Nat)
  | 0, _ => []
  | fuel + 1, off =>
    if off < stop then
      (off, min size (stop - off)) :: chunksFrom size stop fuel (off + min size (stop - off))
    else []

theorem sectorsFrom_covers {size stop i : Nat} (hsize : 0 < size) :
    ∀ {fuel cur : Nat}, stop ≤ cur + fuel → cur ≤ i → i < stop →
      ∃ a ∈ sectorsFrom size stop fuel cur, a ≤ i ∧ i < a + size
  | 0, _, hf, hc, hi => by omega
  | fuel + 1, cur, hf, hc, hi => by
    rw [sectorsFrom, if_pos (by omega)]
    by_cases h : i < cur + size
    · exact ⟨cur, List.mem_cons_self, hc, h⟩
    · obtain ⟨a, ha, hai⟩ :=
        @sectorsFrom_covers size stop i hsize fuel (cur + size) (by omega) (by omega) hi
      exact ⟨a, List.mem_cons_of_mem _ ha, hai⟩

theorem sectorsFrom_of_le {size stop cur : Nat} (h : stop ≤ cur) (fuel : Nat) :
    sectorsFrom size stop fuel cur = [] := by
  cases fuel with
  | zero => rfl
  | succ fuel => rw [sectorsFrom, if_neg (by omega)]

theorem chunksFrom_of_le {size stop off : Nat} (h : stop ≤ off) (fuel : Nat) :
    chunksFrom size stop fuel off = [] := by
  cases fuel with
  | zero => rfl
  | succ fuel => rw [chunksFrom, if_neg (by omega)]

/-- Fuel beyond the distance to `stop` changes nothing. -/
theorem sectorsFrom_fuel {size stop : Nat} (hsize : 0 < size) :
    ∀ {fuel fuel' cur : Nat}, stop ≤ cur + fuel → stop ≤ cur + fuel' →
      sectorsFrom size stop fuel cur = sectorsFrom size stop fuel' cur
  | 0, fuel', cur, hf, _ => by
    have hend : stop ≤ cur := hf
    rw [sectorsFrom_of_le hend, sectorsFrom_of_le hend]
  | fuel + 1, 0, cur, _, hf' => by
    have hend : stop ≤ cur := hf'
    rw [sectorsFrom_of_le hend, sectorsFrom_of_le hend]
  | fuel + 1, fuel' + 1, cur, hf, hf' => by
    have h := @sectorsFrom_fuel size stop hsize fuel fuel' (cur + size) (by omega) (by omega)
    rw [sectorsFrom, sectorsFrom, h]

/-- The chunks begin where the sectors of their size do. -/
theorem chunksFrom_eq {size stop : Nat} : ∀ {fuel off : Nat},
    chunksFrom size stop fuel off =
      (sectorsFrom size stop fuel off).map fun a => (a, min size (stop - a))
  | 0, _ => rfl
  | fuel + 1, off => by
    rw [chunksFrom, sectorsFrom]
    split
    · rw [List.map_cons, ← chunksFrom_eq]
      by_cases hlast : off + size ≤ stop
      · rw [show min size (stop - off) = size by omega]
      · -- the last chunk: both lists end
        rw [chunksFrom_of_le (by omega), chunksFrom_of_le (by omega)]
    · rfl

theorem length_sectorsFrom_le {size stop n : Nat} : ∀ {fuel cur : Nat},
    stop ≤ cur + n * size → (sectorsFrom size stop fuel cur).length ≤ n := by
  induction n with
  | zero =>
      intro fuel cur h
      rw [sectorsFrom_of_le (by omega)]
      exact Nat.le_refl 0
  | succ n ih =>
      intro fuel cur h
      cases fuel with
      | zero => exact Nat.zero_le _
      | succ fuel =>
          rw [sectorsFrom]
          split
          · refine Nat.succ_le_succ (ih ?_)
            rw [Nat.succ_mul] at h
            omega
          · exact Nat.zero_le _

namespace Nor

variable (nor : Nor)

theorem perform_append (cs ds : List FlashCmd) (f : Flash) :
    nor.perform (cs ++ ds) f =
      ((nor.perform cs f).1 ++ (nor.perform ds (nor.perform cs f).2).1,
        (nor.perform ds (nor.perform cs f).2).2) := by
  induction cs generalizing f with
  | nil => rfl
  | cons c cs ih => simp [perform, ih]

theorem perform_erases (size : Nat) (addrs : List Nat) (f : Flash) (i : Nat) :
    (nor.perform (addrs.map (.erase · size)) f).2 i =
      if ∃ a ∈ addrs, a ≤ i ∧ i < a + size then 0xFF else f i := by
  induction addrs generalizing f with
  | nil => simp [perform]
  | cons a addrs ih =>
      simp only [List.map_cons, perform, ih, carryOut, List.mem_cons, exists_eq_or_imp]
      by_cases h : ∃ b ∈ addrs, b ≤ i ∧ i < b + size
      · rw [if_pos h, if_pos (Or.inr h)]
      · rw [if_neg h]
        by_cases ha : a ≤ i ∧ i < a + size
        · rw [if_pos ha, if_pos (Or.inl ha)]
        · rw [if_neg ha, if_neg (not_or.2 ⟨ha, h⟩)]

theorem perform_erases_data (size : Nat) (addrs : List Nat) (f : Flash) :
    (nor.perform (addrs.map (.erase · size)) f).1 = [] := by
  induction addrs generalizing f with
  | nil => rfl
  | cons a addrs ih => simpa [perform, carryOut] using ih _

/-- Two writes side by side are one. -/
theorem carryOut_write_write (a : Nat) (xs ys : List UInt8) (f : Flash) :
    (nor.carryOut (nor.carryOut f (.write a xs)).2 (.write (a + xs.length) ys)).2 =
      (nor.carryOut f (.write a (xs ++ ys))).2 := by
  funext i
  simp only [carryOut, List.length_append]
  by_cases hys : a + xs.length ≤ i ∧ i < a + xs.length + ys.length
  · rw [if_pos hys, if_neg (by omega), if_pos (by omega), List.getD_append_right _ _ _ _ (by omega),
      Nat.sub_sub]
  · rw [if_neg hys]
    by_cases hxs : a ≤ i ∧ i < a + xs.length
    · rw [if_pos hxs, if_pos (by omega), List.getD_append _ _ _ _ (by omega)]
    · rw [if_neg hxs, if_neg (by omega)]

/-- **Writing piece by piece**: pieces that lie end to end are programmed as one write of what they hold,
whatever programming a byte makes of it. -/
theorem perform_tiles {lo hi : Nat} {pieces : List (Nat × List UInt8)} (h : Tiles lo hi pieces)
    (f : Flash) :
    nor.perform (pieces.map fun p => .write p.1 p.2) f =
      nor.carryOut f (.write lo (pieces.flatMap Prod.snd)) := by
  induction h generalizing f with
  | nil lo =>
      refine Prod.ext rfl (funext fun i => (if_neg ?_).symm)
      simp
  | cons _ ih =>
      rw [List.map_cons, perform, ih, List.flatMap_cons]
      exact Prod.ext rfl (nor.carryOut_write_write _ _ _ f)

/-- Chunks lie end to end. -/
theorem tiles_chunks (src : BytePtr) {size stop : Nat} (hsize : 0 < size) :
    ∀ {fuel off : Nat}, stop ≤ off + fuel → off ≤ stop →
      Tiles off stop ((chunksFrom size stop fuel off).map fun c => (c.1, bytesAt src c.1 c.2)) := by
  intro fuel
  induction fuel with
  | zero =>
      intro off hf ho
      obtain rfl : off = stop := by omega
      exact Tiles.nil off
  | succ fuel ih =>
      intro off hf ho
      rw [chunksFrom]
      split
      · refine Tiles.cons ?_
        rw [length_bytesAt]
        exact ih (by omega) (by omega)
      · obtain rfl : off = stop := by omega
        exact Tiles.nil off

theorem flatMap_chunks (p : BytePtr) (size stop : Nat) (hsize : 0 < size) :
    ∀ (fuel off : Nat), stop ≤ off + fuel → off ≤ stop →
      ((chunksFrom size stop fuel off).flatMap fun c => bytesAt p c.1 c.2) =
        bytesAt p off (stop - off) := by
  intro fuel
  induction fuel with
  | zero =>
      intro off hf ho
      rw [show stop - off = 0 by omega]
      rfl
  | succ fuel ih =>
      intro off hf ho
      by_cases hoff : off < stop
      · rw [chunksFrom, if_pos hoff, List.flatMap_cons]
        generalize hn : min size (stop - off) = n
        rw [ih (off + n) (by omega) (by omega), ← bytesAt_add]
        congr 1
        omega
      · rw [chunksFrom, if_neg hoff, show stop - off = 0 by omega]
        rfl

/-- Writing chunk by chunk is one write. -/
theorem perform_chunks (src : BytePtr) {size stop fuel off : Nat} (hsize : 0 < size)
    (hfuel : stop ≤ off + fuel) (hoff : off ≤ stop) (f : Flash) :
    nor.perform ((chunksFrom size stop fuel off).map fun c => .write c.1 (bytesAt src c.1 c.2)) f =
      nor.carryOut f (.write off (bytesAt src off (stop - off))) := by
  have hone := nor.perform_tiles (tiles_chunks src hsize hfuel hoff) f
  rw [List.map_map, List.flatMap_map, flatMap_chunks src size stop hsize fuel off hfuel hoff] at hone
  exact hone

/-- Programming erased bytes chunk by chunk stores them. -/
theorem perform_writes (src : BytePtr) (size stop : Nat) (hsize : 0 < size) :
    ∀ (fuel off : Nat) (f : Flash), stop ≤ off + fuel →
      (∀ i, off ≤ i → i < stop → f i = 0xFF) → ∀ i,
      (nor.perform ((chunksFrom size stop fuel off).map fun c =>
        .write c.1 (bytesAt src c.1 c.2)) f).2 i = if off ≤ i ∧ i < stop then src i else f i := by
  intro fuel off f hf herased i
  by_cases hoff : off ≤ stop
  · rw [nor.perform_chunks src hsize hf hoff]
    simp only [carryOut, length_bytesAt, Nat.add_sub_cancel' hoff]
    by_cases hi : off ≤ i ∧ i < stop
    · rw [if_pos hi, if_pos hi, herased i hi.1 hi.2, nor.program_erased]
      have hk : i - off < stop - off := by omega
      simp [bytesAt, hk, Nat.add_sub_cancel' hi.1]
    · rw [if_neg hi, if_neg hi]
  · rw [chunksFrom_of_le (by omega), if_neg (by omega)]
    rfl

theorem perform_writes_data (src : BytePtr) (cs : List (Nat × Nat)) (f : Flash) :
    (nor.perform (cs.map fun c => .write c.1 (bytesAt src c.1 c.2)) f).1 = [] := by
  induction cs generalizing f with
  | nil => rfl
  | cons c cs ih => simpa [perform, carryOut] using ih _

theorem perform_reads (cs : List (Nat × Nat)) (f : Flash) :
    nor.perform (cs.map fun c => .read c.1 c.2) f = (cs.flatMap fun c => bytesAt f c.1 c.2, f) := by
  induction cs with
  | nil => rfl
  | cons c cs ih => simp [perform, carryOut, ih]

end Nor

/-- Erases every sector below `eraseSize`, programs the first `len` bytes of `src` in chunks, and
reads them back in chunks. -/
def installPlan (sector chunk eraseSize len : Nat) (src : BytePtr) : List FlashCmd :=
  (sectorsFrom sector eraseSize eraseSize 0).map (.erase · sector) ++
    ((chunksFrom chunk len len 0).map (fun c => .write c.1 (bytesAt src c.1 c.2)) ++
      (chunksFrom chunk len len 0).map (fun c => .read c.1 c.2))

/-- **Erase, program, verify**: whatever the flash held, it holds the bytes of `src` when the plan
has been carried out, and they are what was read back. -/
theorem perform_install (nor : Nor) {sector chunk eraseSize len : Nat} (src : BytePtr) (f : Flash)
    (hsector : 0 < sector) (hchunk : 0 < chunk) (hlen : len ≤ eraseSize) :
    (∀ i < len, (nor.perform (installPlan sector chunk eraseSize len src) f).2 i = src i) ∧
      (nor.perform (installPlan sector chunk eraseSize len src) f).1 = bytesAt src 0 len := by
  have herased : ∀ i, 0 ≤ i → i < len →
      (nor.perform ((sectorsFrom sector eraseSize eraseSize 0).map (.erase · sector)) f).2 i =
        0xFF := by
    intro i h0 hi
    rw [nor.perform_erases]
    exact if_pos (sectorsFrom_covers hsector (by omega) h0 (by omega))
  have hwrites := nor.perform_writes src chunk len hchunk len 0 _ (by omega) herased
  unfold installPlan
  simp only [nor.perform_append, nor.perform_reads, nor.perform_erases_data,
    nor.perform_writes_data, List.nil_append]
  refine ⟨fun i hi => ?_, ?_⟩
  · rw [hwrites, if_pos (by omega)]
  · rw [Nor.flatMap_chunks _ chunk len hchunk len 0 (by omega) (by omega), Nat.sub_zero]
    refine bytesAt_congr fun i hi => ?_
    rw [hwrites, if_pos (by omega)]

end Foundation
