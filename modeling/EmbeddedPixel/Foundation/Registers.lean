import Mathlib.Data.List.Basic
import Mathlib.Tactic.Common

/-!
# Programs that drive a peripheral

A `Regs W R V α` writes registers (`W`: which one, with its value), reads them (`R`), and waits for one to
satisfy a condition.  What a read finds is decided outside: `readings n r` is what register `r` holds at
the `n`-th read.  `run` is given turns for every wait and has no result while a wait needs more;
`Runs` says that enough turns give a result, the same for all of them.

`Issues seen readings x ws` says that `x` comes to its end and that the writes it makes, those counted by
`seen`, are `ws`, in this order and whatever the reads find.  Its rules follow the program
(`Issues.bind`, `Issues.read`, `Issues.wait`, `Issues.forM`).
-/

set_option autoImplicit false

namespace Foundation

inductive Regs (W R V α : Type) where
  | ret (a : α)
  | write (w : W) (k : Regs W R V α)
  | read (r : R) (k : V → Regs W R V α)
  | wait (r : R) (done : V → Bool) (k : Regs W R V α)

/-- How a program ended: its result, the writes it made, and how many reads there were by then. -/
structure Ran (W α : Type) where
  result : α
  log : List W
  reads : Nat

namespace Regs

variable {W R V α β : Type}

def bind : Regs W R V α → (α → Regs W R V β) → Regs W R V β
  | .ret a, f => f a
  | .write w k, f => .write w (k.bind f)
  | .read r k, f => .read r fun v => (k v).bind f
  | .wait r done k, f => .wait r done (k.bind f)

instance : Monad (Regs W R V) where
  pure := .ret
  bind := Regs.bind

/-- `REG = value`. -/
def set (w : W) : Regs W R V Unit := .write w (.ret ())

/-- The value of a register. -/
def get (r : R) : Regs W R V V := .read r .ret

/-- `while (!done(REG)) {}` -/
def waitFor (r : R) (done : V → Bool) : Regs W R V Unit := .wait r done (.ret ())

variable (readings : Nat → R → V)

/-- The number of reads there were when a wait is over. -/
def waited (r : R) (done : V → Bool) : (turns n : Nat) → Option Nat
  | 0, _ => none
  | turns + 1, n => if done (readings n r) then some (n + 1) else waited r done turns (n + 1)

def run (turns : Nat) : Regs W R V α → (reads : Nat) → Option (Ran W α)
  | .ret a, n => some ⟨a, [], n⟩
  | .write w k, n => (k.run turns n).map fun o => { o with log := w :: o.log }
  | .read r k, n => (k (readings n r)).run turns (n + 1)
  | .wait r done k, n => (waited readings r done turns n).bind fun n' => k.run turns n'

/-- The program comes to its end, with `o`. -/
def Runs (x : Regs W R V α) (n : Nat) (o : Ran W α) : Prop :=
  ∃ enough, ∀ turns, enough ≤ turns → x.run readings turns n = some o

variable {readings}

/-- A wait is over when a read to come meets its condition. -/
theorem waited_of_done {r : R} {done : V → Bool} {n m : Nat} (hm : n ≤ m)
    (hdone : done (readings m r) = true) :
    ∃ n', ∀ turns, m < n + turns → waited readings r done turns n = some n' := by
  obtain ⟨k, rfl⟩ := Nat.exists_eq_add_of_le hm
  induction k generalizing n with
  | zero =>
      refine ⟨n + 1, fun turns hturns => ?_⟩
      cases turns with
      | zero => omega
      | succ turns => exact if_pos hdone
  | succ k ih =>
      by_cases hnow : done (readings n r) = true
      · refine ⟨n + 1, fun turns hturns => ?_⟩
        cases turns with
        | zero => omega
        | succ turns => exact if_pos hnow
      · obtain ⟨n', hn'⟩ := ih (Nat.le_add_right (n + 1) k) (by rwa [Nat.add_right_comm])
        refine ⟨n', fun turns hturns => ?_⟩
        cases turns with
        | zero => omega
        | succ turns =>
            unfold waited
            rw [if_neg hnow]
            exact hn' turns (by omega)

theorem run_bind (x : Regs W R V α) (f : α → Regs W R V β) (turns n : Nat) :
    (x >>= f).run readings turns n =
      (x.run readings turns n).bind fun o =>
        ((f o.result).run readings turns o.reads).map fun o' => { o' with log := o.log ++ o'.log } := by
  show (x.bind f).run readings turns n = _
  induction x generalizing n with
  | ret a => simp [bind, run]
  | write w k ih =>
      simp only [bind, run, ih, Option.map_bind, Option.bind_map]
      congr 1
      funext o
      simp [Function.comp_def]
  | read r k ih => exact ih _ _
  | wait r done k ih => simp only [bind, run, ih, Option.bind_assoc]

/-- **Sequencing.** -/
theorem Runs.bind {x : Regs W R V α} {f : α → Regs W R V β} {n : Nat} {o : Ran W α} {o' : Ran W β}
    (hx : Runs readings x n o) (hf : Runs readings (f o.result) o.reads o') :
    Runs readings (x >>= f) n { o' with log := o.log ++ o'.log } := by
  obtain ⟨enough, hx⟩ := hx
  obtain ⟨enough', hf⟩ := hf
  refine ⟨max enough enough', fun turns hturns => ?_⟩
  rw [run_bind, hx turns (by omega), Option.bind_some, hf turns (by omega)]
  rfl

/-- The program comes to its end, and the writes counted by `seen` are `ws`. -/
def Issues (seen : W → Bool) (readings : Nat → R → V) (x : Regs W R V Unit) (ws : List W) : Prop :=
  ∀ n, ∃ o, Runs readings x n o ∧ o.log.filter seen = ws

namespace Issues

variable {seen : W → Bool} {x y : Regs W R V Unit} {ws ws' : List W}

theorem pure : Issues seen readings (Pure.pure ()) [] := fun _ => ⟨_, ⟨0, fun _ _ => rfl⟩, rfl⟩

theorem set (w : W) (readings : Nat → R → V) :
    Issues seen readings (Regs.set w) ([w].filter seen) := fun n =>
  ⟨⟨(), [w], n⟩, ⟨0, fun _ _ => rfl⟩, rfl⟩

theorem bind (hx : Issues seen readings x ws) (hy : Issues seen readings y ws') :
    Issues seen readings (x >>= fun _ => y) (ws ++ ws') := by
  intro n
  obtain ⟨o, hrun, hlog⟩ := hx n
  obtain ⟨o', hrun', hlog'⟩ := hy o.reads
  refine ⟨_, hrun.bind hrun', ?_⟩
  rw [List.filter_append, hlog, hlog']

theorem after (hx : Issues seen readings x []) (hy : Issues seen readings y ws) :
    Issues seen readings (x >>= fun _ => y) ws := bind hx hy

theorem before (hx : Issues seen readings x ws) (hy : Issues seen readings y []) :
    Issues seen readings (x >>= fun _ => y) ws := by
  have h := bind hx hy
  rwa [List.append_nil] at h

/-- A write that does not count. -/
theorem silent {w : W} (hw : seen w = false) (hy : Issues seen readings y ws) :
    Issues seen readings (Regs.set w >>= fun _ => y) ws := by
  have h := bind (set w readings) hy
  rwa [List.filter_cons_of_neg (by simp [hw]), List.filter_nil, List.nil_append] at h

/-- A write that counts. -/
theorem shown {w : W} (hw : seen w = true) (hy : Issues seen readings y ws) :
    Issues seen readings (Regs.set w >>= fun _ => y) (w :: ws) := by
  have h := bind (set w readings) hy
  rwa [List.filter_cons_of_pos hw, List.filter_nil, List.singleton_append] at h

/-- Whatever the register holds. -/
theorem read {r : R} {k : V → Regs W R V Unit} (h : ∀ v, Issues seen readings (k v) ws) :
    Issues seen readings (get r >>= k) ws := by
  intro n
  obtain ⟨o, ⟨enough, hrun⟩, hlog⟩ := h (readings n r) (n + 1)
  exact ⟨o, ⟨enough, hrun⟩, hlog⟩

/-- A wait for something that always comes again. -/
theorem wait {r : R} {done : V → Bool} (h : ∀ n, ∃ m, n ≤ m ∧ done (readings m r) = true) :
    Issues seen readings (waitFor r done) [] := by
  intro n
  obtain ⟨m, hm, hdone⟩ := h n
  obtain ⟨n', hwaited⟩ := waited_of_done hm hdone
  refine ⟨⟨(), [], n'⟩, ⟨m + 1, fun turns hturns => ?_⟩, rfl⟩
  show (waited readings r done turns n).bind _ = _
  rw [hwaited turns (by omega)]
  rfl

/-- One program after the other for the elements of a list. -/
theorem forM {γ : Type} {l : List γ} {f : γ → Regs W R V Unit} {g : γ → List W}
    (h : ∀ c ∈ l, Issues seen readings (f c) (g c)) :
    Issues seen readings (l.forM f) (l.flatMap g) := by
  induction l with
  | nil => exact pure
  | cons c l ih =>
      rw [List.flatMap_cons]
      show Issues seen readings (f c >>= fun _ => l.forM f) _
      exact bind (h c List.mem_cons_self) (ih fun d hd => h d (List.mem_cons_of_mem _ hd))

end Issues

end Regs

end Foundation
