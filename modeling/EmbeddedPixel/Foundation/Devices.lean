import EmbeddedPixel.Foundation.Registers

/-!
# Programs of `Regs` on a device

A `Device` answers reads, which may change it, takes writes, and changes by itself (`own`).  `drive` runs a
program on it: `quiet` lists what the device does by itself before each access, and there is no result where
the list is too short.

`wlp x Q`: whatever the reads find, `Q` holds of the accesses that `x` makes and of its result.  Its rules
follow the program (`wlp_bind`, `wlp_get`, `wlp_set`), and `drive_of_wlp` makes of it a fact about `drive`.
-/

set_option autoImplicit false

namespace Foundation

/-- An access, with what it found. -/
inductive Access (W R V : Type) where
  | wrote (w : W)
  | found (r : R) (v : V)
  deriving DecidableEq, Repr

structure Device (W R V E D : Type) where
  write : W → D → D
  read : R → D → V × D
  own : E → D → D

/-- How a program ended on a device: its result, the accesses it made, what is left of the list, and the
device. -/
structure Driven (W R V E D α : Type) where
  result : α
  log : List (Access W R V)
  rest : List (List E)
  device : D

variable {W R V E D α β : Type}

namespace Device

variable (dev : Device W R V E D)

/-- What happens by itself. -/
def passes (es : List E) (d : D) : D := es.foldl (fun d e => dev.own e d) d

/-- A wait: its reads, what is left of the list, and the device. -/
def awaits (r : R) (done : V → Bool) :
    (quiet : List (List E)) → D → Option (List (Access W R V) × List (List E) × D)
  | [], _ => none
  | es :: quiet, d =>
    let found := dev.read r (dev.passes es d)
    if done found.1 then some ([.found r found.1], quiet, found.2)
    else (awaits r done quiet found.2).map fun o => (.found r found.1 :: o.1, o.2)

def drive : Regs W R V α → (quiet : List (List E)) → D → Option (Driven W R V E D α)
  | .ret a, quiet, d => some ⟨a, [], quiet, d⟩
  | .write _ _, [], _ => none
  | .write w k, es :: quiet, d =>
    (drive k quiet (dev.write w (dev.passes es d))).map fun o => { o with log := .wrote w :: o.log }
  | .read _ _, [], _ => none
  | .read r k, es :: quiet, d =>
    let found := dev.read r (dev.passes es d)
    (drive (k found.1) quiet found.2).map fun o => { o with log := .found r found.1 :: o.log }
  | .wait r done k, quiet, d =>
    (dev.awaits r done quiet d).bind fun w =>
      (drive k w.2.1 w.2.2).map fun o => { o with log := w.1 ++ o.log }

/-- What a device can do by itself keeps what each of its changes keeps. -/
theorem passes_keeps {P : D → Prop} (h : ∀ e d, P d → P (dev.own e d)) {d : D} (hd : P d) (es : List E) :
    P (dev.passes es d) := by
  induction es generalizing d with
  | nil => exact hd
  | cons e es ih => exact ih (h e d hd)

end Device

namespace Regs

/-- Whatever the reads find. -/
def wlp : Regs W R V α → (List (Access W R V) → α → Prop) → Prop
  | .ret a, Q => Q [] a
  | .write w k, Q => k.wlp fun l a => Q (.wrote w :: l) a
  | .read r k, Q => ∀ v, (k v).wlp fun l a => Q (.found r v :: l) a
  | .wait r done k, Q => ∀ (vs : List V) v, (∀ x ∈ vs, done x = false) → done v = true →
    k.wlp fun l a => Q (vs.map (.found r) ++ .found r v :: l) a

variable {Q Q' : List (Access W R V) → α → Prop}

theorem wlp_mono {x : Regs W R V α} (h : x.wlp Q) (hQ : ∀ l a, Q l a → Q' l a) : x.wlp Q' := by
  induction x generalizing Q Q' with
  | ret a => exact hQ _ _ h
  | write w k ih => exact ih h fun l a => hQ _ a
  | read r k ih => exact fun v => ih v (h v) fun l a => hQ _ a
  | wait r done k ih => exact fun vs v hvs hv => ih (h vs v hvs hv) fun l a => hQ _ a

theorem wlp_intro {x : Regs W R V α} (hQ : ∀ l a, Q l a) : x.wlp Q := by
  induction x generalizing Q with
  | ret a => exact hQ _ _
  | write w k ih => exact ih fun l a => hQ _ a
  | read r k ih => exact fun v => ih v fun l a => hQ _ a
  | wait r done k ih => exact fun vs v _ _ => ih fun l a => hQ _ a

@[simp] theorem wlp_pure (a : α) : (pure a : Regs W R V α).wlp Q ↔ Q [] a := Iff.rfl

@[simp] theorem wlp_get {r : R} {Q : List (Access W R V) → V → Prop} :
    (get r : Regs W R V V).wlp Q ↔ ∀ v, Q [.found r v] v := Iff.rfl

@[simp] theorem wlp_set {w : W} {Q : List (Access W R V) → Unit → Prop} :
    (set w : Regs W R V Unit).wlp Q ↔ Q [.wrote w] () := Iff.rfl

/-- **Sequencing.** -/
@[simp] theorem wlp_bind (x : Regs W R V α) (f : α → Regs W R V β)
    (Q : List (Access W R V) → β → Prop) :
    (x >>= f).wlp Q ↔ x.wlp fun l a => (f a).wlp fun l' b => Q (l ++ l') b := by
  show (x.bind f).wlp Q ↔ _
  induction x generalizing Q with
  | ret a => simp [bind, wlp]
  | write w k ih => simp only [bind, wlp, ih, List.cons_append]
  | read r k ih => simp only [bind, wlp, ih, List.cons_append]
  | wait r done k ih => simp only [bind, wlp, ih, List.append_assoc, List.cons_append]

/-- One program after the other, where what each adds to what there was is as before. -/
theorem wlp_forM {γ : Type} {l : List γ} {f : γ → Regs W R V Unit} {I : List (Access W R V) → Prop}
    (hnil : I []) (happend : ∀ l l', I l → I l' → I (l ++ l')) (h : ∀ c ∈ l, (f c).wlp fun log _ => I log) :
    (l.forM f).wlp fun log _ => I log := by
  induction l with
  | nil => exact hnil
  | cons c l ih =>
      show (f c >>= fun _ => l.forM f).wlp _
      rw [wlp_bind]
      refine wlp_mono (h c List.mem_cons_self) fun log _ hlog => ?_
      refine wlp_mono (ih fun d hd => h d (List.mem_cons_of_mem _ hd)) fun log' _ hlog' => ?_
      exact happend _ _ hlog hlog'

end Regs

namespace Device

variable (dev : Device W R V E D)

theorem awaits_eq {r : R} {done : V → Bool} {quiet : List (List E)} {d : D}
    {o : List (Access W R V) × List (List E) × D} (h : dev.awaits r done quiet d = some o) :
    ∃ (vs : List V) (v : V), (∀ x ∈ vs, done x = false) ∧ done v = true ∧
      o.1 = vs.map (.found r) ++ [.found r v] := by
  induction quiet generalizing d o with
  | nil => cases h
  | cons es quiet ih =>
      unfold awaits at h
      dsimp only at h
      split at h
      · rename_i hdone
        obtain rfl := Option.some.inj h
        exact ⟨[], _, by simp, hdone, rfl⟩
      · rename_i hdone
        obtain ⟨o', ho', rfl⟩ := Option.map_eq_some_iff.1 h
        obtain ⟨vs, v, hvs, hv, hlog⟩ := ih ho'
        refine ⟨_ :: vs, v, List.forall_mem_cons.2 ⟨by simpa using hdone, hvs⟩, hv, ?_⟩
        rw [hlog]
        rfl

theorem awaits_length {r : R} {done : V → Bool} {quiet : List (List E)} {d : D}
    {o : List (Access W R V) × List (List E) × D} (h : dev.awaits r done quiet d = some o) :
    o.1.length + o.2.1.length = quiet.length := by
  induction quiet generalizing d o with
  | nil => cases h
  | cons es quiet ih =>
      unfold awaits at h
      dsimp only at h
      split at h
      · obtain rfl := Option.some.inj h
        exact Nat.add_comm 1 _
      · obtain ⟨o', ho', rfl⟩ := Option.map_eq_some_iff.1 h
        have hrest := ih ho'
        simp only [List.length_cons]
        omega

/-- **Sequencing.** -/
theorem drive_bind (x : Regs W R V α) (f : α → Regs W R V β) (quiet : List (List E)) (d : D) :
    dev.drive (x >>= f) quiet d = (dev.drive x quiet d).bind fun o =>
      (dev.drive (f o.result) o.rest o.device).map fun o' => { o' with log := o.log ++ o'.log } := by
  show dev.drive (x.bind f) quiet d = _
  induction x generalizing quiet d with
  | ret a => simp [Regs.bind, drive]
  | write w k ih =>
      cases quiet with
      | nil => rfl
      | cons es quiet =>
          simp only [Regs.bind, drive, ih, Option.map_bind, Option.bind_map]
          congr 1
          funext o
          simp [Function.comp_def]
  | read r k ih =>
      cases quiet with
      | nil => rfl
      | cons es quiet =>
          simp only [Regs.bind, drive, ih, Option.map_bind, Option.bind_map]
          congr 1
          funext o
          simp [Function.comp_def]
  | wait r done k ih =>
      simp only [Regs.bind, drive, ih, Option.map_bind, Option.bind_map, Option.bind_assoc]
      congr 1
      funext w
      congr 1
      funext o
      simp [Function.comp_def]

/-- Each access takes one entry of the list. -/
theorem drive_length {x : Regs W R V α} {quiet : List (List E)} {d : D} {o : Driven W R V E D α}
    (h : dev.drive x quiet d = some o) : o.log.length + o.rest.length = quiet.length := by
  induction x generalizing quiet d o with
  | ret a =>
      obtain rfl := Option.some.inj h
      exact Nat.zero_add _
  | write w k ih =>
      cases quiet with
      | nil => cases h
      | cons es quiet =>
          obtain ⟨o', ho', rfl⟩ := Option.map_eq_some_iff.1 h
          have hrest := ih ho'
          simp only [List.length_cons]
          omega
  | read r k ih =>
      cases quiet with
      | nil => cases h
      | cons es quiet =>
          obtain ⟨o', ho', rfl⟩ := Option.map_eq_some_iff.1 h
          have hrest := ih _ ho'
          simp only [List.length_cons]
          omega
  | wait r done k ih =>
      obtain ⟨w, hw, h⟩ := Option.bind_eq_some_iff.1 h
      obtain ⟨o', ho', rfl⟩ := Option.map_eq_some_iff.1 h
      have hrest := ih ho'
      have hwait := dev.awaits_length hw
      simp only [List.length_append]
      omega

/-- **What holds whatever is read** holds on every device, whatever it does by itself. -/
theorem drive_of_wlp {x : Regs W R V α} {Q : List (Access W R V) → α → Prop} (hx : x.wlp Q)
    {quiet : List (List E)} {d : D} {o : Driven W R V E D α} (h : dev.drive x quiet d = some o) :
    Q o.log o.result := by
  induction x generalizing Q quiet d o with
  | ret a =>
      obtain rfl := Option.some.inj h
      exact hx
  | write w k ih =>
      cases quiet with
      | nil => cases h
      | cons es quiet =>
          obtain ⟨o', ho', rfl⟩ := Option.map_eq_some_iff.1 h
          exact ih hx ho'
  | read r k ih =>
      cases quiet with
      | nil => cases h
      | cons es quiet =>
          obtain ⟨o', ho', rfl⟩ := Option.map_eq_some_iff.1 h
          exact ih _ (hx _) ho'
  | wait r done k ih =>
      obtain ⟨w, hw, h⟩ := Option.bind_eq_some_iff.1 h
      obtain ⟨o', ho', rfl⟩ := Option.map_eq_some_iff.1 h
      obtain ⟨vs, v, hvs, hv, hlog⟩ := dev.awaits_eq hw
      have hk := ih (hx vs v hvs hv) ho'
      show Q (w.1 ++ o'.log) _
      rw [hlog, List.append_assoc]
      exact hk

end Device

end Foundation
