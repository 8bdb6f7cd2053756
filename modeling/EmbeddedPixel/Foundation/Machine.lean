import Mathlib.Data.List.Basic
import Mathlib.Data.List.Induction
import Mathlib.Data.List.Forall2
import Mathlib.Tactic.Common

/-!
# Runs of a partial step function

`step s a = some (o, s')`: in state `s` the action `a` is answered with `o` and leaves `s'`.
`step s a = none`: the program has no meaning past this action (in C, undefined behaviour).

`Run step s₀ t s` holds when the actions of the trace `t`, in that order, lead from `s₀` to `s`
and were answered as `t` records.  `Run.invariant` and `Run.keep` package the induction over a run,
of any steps and of steps of a kind; `Run.always_iff` makes of an exact condition on a step
one on a run; `Run.track` follows a value that the trace alone decides;
`Run.split_at` cuts a run open at one of its steps,
`Run.last_entry` at the last step of a kind; and `Run.simulate` carries a run of one machine to a run
of another.
`exec` computes a run, `exec_any` turns what a computed run shows into a fact about runs, and
`complete_iff` says when a list of actions is carried out to its end.
-/

set_option autoImplicit false

namespace Foundation.Machine

variable {S A O : Type*} {step : S → A → Option (O × S)}

/-- An entry of a list that has grown by one is the new one or was there before. -/
theorem split_snoc {α : Type*} {l pre post : List α} {x y : α} (h : l ++ [x] = pre ++ y :: post) :
    (pre = l ∧ y = x ∧ post = []) ∨ ∃ post', post = post' ++ [x] ∧ l = pre ++ y :: post' := by
  rcases List.eq_nil_or_concat post with rfl | ⟨post', z, rfl⟩
  · obtain ⟨rfl, hlast⟩ := List.append_inj' h rfl
    exact Or.inl ⟨rfl, (List.cons.inj hlast).1.symm, rfl⟩
  · rw [List.concat_eq_append, ← List.cons_append, ← List.append_assoc] at h
    obtain ⟨rfl, hlast⟩ := List.append_inj' h rfl
    cases hlast
    exact Or.inr ⟨post', by rw [List.concat_eq_append], rfl⟩

/-- The runs of `step` from `s₀`, with their traces. -/
inductive Run (step : S → A → Option (O × S)) (s₀ : S) : List (A × O) → S → Prop
  | nil : Run step s₀ [] s₀
  | snoc {t : List (A × O)} {s s' : S} {a : A} {o : O} :
      Run step s₀ t s → step s a = some (o, s') → Run step s₀ (t ++ [(a, o)]) s'

namespace Run

variable {s₀ s : S} {t : List (A × O)}

theorem single {s' : S} {a : A} {o : O} (h : step s a = some (o, s')) : Run step s [(a, o)] s' :=
  Run.snoc Run.nil h

theorem trans {t' : List (A × O)} {s' : S} (h : Run step s₀ t s) (h' : Run step s t' s') :
    Run step s₀ (t ++ t') s' := by
  induction h' with
  | nil => simpa using h
  | snoc _ hs ih => rw [← List.append_assoc]; exact ih.snoc hs

theorem cons {s' : S} {a : A} {o : O} {t' : List (A × O)} (h : step s₀ a = some (o, s))
    (h' : Run step s t' s') : Run step s₀ ((a, o) :: t') s' :=
  (single h).trans h'

theorem split {t t' : List (A × O)} {s' : S} (h : Run step s₀ (t ++ t') s') :
    ∃ s, Run step s₀ t s ∧ Run step s t' s' := by
  generalize hu : t ++ t' = u at h
  induction h generalizing t' with
  | nil =>
      obtain ⟨rfl, rfl⟩ := List.append_eq_nil_iff.1 hu
      exact ⟨s₀, .nil, .nil⟩
  | @snoc u s s' a o hr hs ih =>
      rcases List.eq_nil_or_concat t' with rfl | ⟨t'', x, rfl⟩
      · refine ⟨s', ?_, .nil⟩
        rw [List.append_nil] at hu
        rw [hu]
        exact hr.snoc hs
      · rw [List.concat_eq_append, ← List.append_assoc] at hu
        obtain ⟨hu', hx⟩ := List.append_inj' hu rfl
        obtain ⟨s₁, h₁, h₂⟩ := ih hu'
        cases hx
        refine ⟨s₁, h₁, ?_⟩
        rw [List.concat_eq_append]
        exact h₂.snoc hs

theorem nil_inv {s' : S} (h : Run step s₀ [] s') : s' = s₀ := by
  generalize hu : ([] : List (A × O)) = u at h
  cases h with
  | nil => rfl
  | snoc _ _ => simp at hu

theorem cons_inv {s' : S} {a : A} {o : O} {t : List (A × O)} (h : Run step s₀ ((a, o) :: t) s') :
    ∃ s₁, step s₀ a = some (o, s₁) ∧ Run step s₁ t s' := by
  have h' : Run step s₀ ([(a, o)] ++ t) s' := h
  obtain ⟨s₁, h₁, h₂⟩ := split h'
  refine ⟨s₁, ?_, h₂⟩
  generalize hu : [(a, o)] = u at h₁
  cases h₁ with
  | nil => cases hu
  | @snoc u _ _ _ _ hr hs =>
      have hu₀ : [] ++ [(a, o)] = u ++ [_] := hu
      obtain ⟨hu', hx⟩ := List.append_inj' hu₀ rfl
      subst hu'
      cases hx
      rw [nil_inv hr] at hs
      exact hs

/-- A trace leads to one state. -/
theorem deterministic {s' : S} (h : Run step s₀ t s) (h' : Run step s₀ t s') : s = s' := by
  induction h generalizing s' with
  | nil => exact (nil_inv h').symm
  | @snoc u s s₁ a o _ hs ih =>
      obtain ⟨s₂, hu, hlast⟩ := split h'
      have hsame := ih hu
      subst hsame
      obtain ⟨s₃, hs', hnil⟩ := cons_inv hlast
      rw [hs] at hs'
      cases hs'
      exact (nil_inv hnil).symm

/-- A run cut open at one of its steps. -/
theorem split_at {pre post : List (A × O)} {a : A} {o : O} {s' : S}
    (h : Run step s₀ (pre ++ (a, o) :: post) s') :
    ∃ s s₁, Run step s₀ pre s ∧ step s a = some (o, s₁) ∧ Run step s₁ post s' := by
  obtain ⟨s, h₁, h₂⟩ := split h
  obtain ⟨s₁, hs, h₃⟩ := cons_inv h₂
  exact ⟨s, s₁, h₁, hs, h₃⟩

/-- **Invariant rule**: what holds at the start and is kept by every step holds after every run. -/
theorem invariant {Inv : S → Prop} (h₀ : Inv s₀)
    (hstep : ∀ s a o s', Inv s → step s a = some (o, s') → Inv s') (h : Run step s₀ t s) :
    Inv s := by
  induction h with
  | nil => exact h₀
  | snoc _ hs ih => exact hstep _ _ _ _ ih hs

/-- What every step of a kind keeps is kept by every run made of such steps. -/
theorem keep {Q : S → Prop} {K : A × O → Prop}
    (hstep : ∀ s a o s', K (a, o) → Q s → step s a = some (o, s') → Q s')
    (h : Run step s₀ t s) (hK : ∀ x ∈ t, K x) (h₀ : Q s₀) : Q s := by
  induction h with
  | nil => exact h₀
  | snoc _ hs ih =>
      refine hstep _ _ _ _ (hK _ (by simp)) (ih fun x hx => hK x ?_) hs
      exact List.mem_append_left _ hx

/-- **Exact-condition rule**: where a step keeps `P` exactly if it meets `Q`, every state of a run has
`P` exactly if every step of the run meets `Q`. -/
theorem always_iff {P : S → Prop} {Q : S → A → Prop} (h₀ : P s₀)
    (hstep : ∀ s a o s', P s → step s a = some (o, s') → (P s' ↔ Q s a))
    (h : Run step s₀ t s) :
    (∀ pre post s₁, t = pre ++ post → Run step s₀ pre s₁ → P s₁) ↔
      ∀ pre a o post s₁, t = pre ++ (a, o) :: post → Run step s₀ pre s₁ → Q s₁ a := by
  constructor
  · rintro hP pre a o post s₁ rfl hpre
    obtain ⟨s₁', s₂, hpre', hs, -⟩ := split_at h
    have hsame : s₁ = s₁' := deterministic hpre hpre'
    subst hsame
    have hnext := hP (pre ++ [(a, o)]) post s₂ (by simp) (hpre.snoc hs)
    exact (hstep _ _ _ _ (hP pre _ s₁ rfl hpre) hs).1 hnext
  · intro hQ pre post s₁ ht hpre
    induction hpre generalizing post with
    | nil => exact h₀
    | @snoc u s s' a o hr hs ih =>
        have hsplit : t = u ++ (a, o) :: post := by
          rw [ht]
          simp
        exact (hstep _ _ _ _ (ih _ hsplit) hs).2 (hQ u a o post s hsplit hr)

/-- **Tracking rule**: what every step updates by its own entry of the trace, a run updates by its
trace. -/
theorem track {B : Type*} {f : S → B} {upd : B → A × O → B}
    (hstep : ∀ s a o s', step s a = some (o, s') → f s' = upd (f s) (a, o))
    (h : Run step s₀ t s) : f s = t.foldl upd (f s₀) := by
  induction h with
  | nil => rfl
  | snoc _ hs ih => rw [hstep _ _ _ _ hs, ih, List.foldl_append, List.foldl_cons, List.foldl_nil]

/-- A trace without an entry of a kind, or its last entry of the kind with what precedes it. -/
theorem last_entry {S A O : Type*} {step : S → A → Option (O × S)} {s₀ s : S} {t : List (A × O)}
    (h : Run step s₀ t s) (K : A × O → Prop) :
    (∀ x ∈ t, ¬ K x) ∨
      ∃ pre a o post s₁ s₂, t = pre ++ (a, o) :: post ∧ K (a, o) ∧ (∀ x ∈ post, ¬ K x) ∧
        Run step s₀ pre s₁ ∧ step s₁ a = some (o, s₂) ∧ Run step s₂ post s := by
  induction h with
  | nil => exact Or.inl (by simp)
  | @snoc t s s' a o hr hs ih =>
      by_cases hK : K (a, o)
      · exact Or.inr ⟨t, a, o, [], s, s', rfl, hK, by simp, hr, hs, .nil⟩
      · rcases ih with hno | ⟨pre, b, u, post, s₁, s₂, rfl, hb, hpost, hpre, hb₁, hb₂⟩
        · refine Or.inl fun x hx => ?_
          rcases List.mem_append.1 hx with hx | hx
          · exact hno x hx
          · rw [List.mem_singleton.1 hx]
            exact hK
        · refine Or.inr ⟨pre, b, u, post ++ [(a, o)], s₁, s₂, by simp, hb, fun x hx => ?_, hpre,
            hb₁, hb₂.snoc hs⟩
          rcases List.mem_append.1 hx with hx | hx
          · exact hpost x hx
          · rw [List.mem_singleton.1 hx]
            exact hK

/-- **Simulation**: if every step of a machine is, seen through `view`, a run of another machine that
stands in a relation to the step, so is every run of it. -/
theorem simulate {S' A' O' : Type*} {step' : S' → A' → Option (O' × S')} (view : S → S')
    {R : A × O → List (A' × O') → Prop}
    (hstep : ∀ s a o s', step s a = some (o, s') →
      ∃ u, R (a, o) u ∧ Run step' (view s) u (view s'))
    (h : Run step s₀ t s) : ∃ us, List.Forall₂ R t us ∧ Run step' (view s₀) us.flatten (view s) := by
  induction h with
  | nil => exact ⟨[], .nil, .nil⟩
  | snoc _ hs ih =>
      obtain ⟨us, hR, hrun⟩ := ih
      obtain ⟨u, hu, hlast⟩ := hstep _ _ _ _ hs
      refine ⟨us ++ [u], List.rel_append hR (.cons hu .nil), ?_⟩
      rw [List.flatten_append]
      apply hrun.trans
      simpa using hlast

end Run

/-- An entry of a simulating run comes from a step of the simulated one. -/
theorem mem_flatten_of_forall₂ {E E' : Type*} {R : E → List E' → Prop} {t : List E}
    {us : List (List E')} {y : E'} (h : List.Forall₂ R t us) (hy : y ∈ us.flatten) :
    ∃ x ∈ t, ∃ u, R x u ∧ y ∈ u := by
  induction h with
  | nil => simp at hy
  | @cons x u t us hu _ ih =>
      rw [List.flatten_cons, List.mem_append] at hy
      rcases hy with hy | hy
      · exact ⟨x, by simp, u, hu, hy⟩
      · obtain ⟨x', hx', u', hu', hy'⟩ := ih hy
        exact ⟨x', List.mem_cons_of_mem x hx', u', hu', hy'⟩

/-- Carries out a list of actions; `none` once a step has no meaning. -/
def exec (step : S → A → Option (O × S)) : S → List A → Option (List (A × O) × S)
  | s, [] => some ([], s)
  | s, a :: as =>
    match step s a with
    | none => none
    | some (o, s') => (exec step s' as).map fun r => ((a, o) :: r.1, r.2)

theorem exec_run : ∀ {as : List A} {s s' : S} {t : List (A × O)},
    exec step s as = some (t, s') → Run step s t s'
  | [], s, s', t, h => by cases h; exact .nil
  | a :: as, s, s', t, h => by
    simp only [exec] at h
    split at h
    · cases h
    · rename_i o s₁ hs
      obtain ⟨⟨t', s''⟩, ht, he⟩ := Option.map_eq_some_iff.1 h
      cases he
      exact Run.cons hs (exec_run ht)

theorem run_exec {s s' : S} {t : List (A × O)} (h : Run step s t s') :
    exec step s (t.map (·.1)) = some (t, s') := by
  have key : ∀ (u : List (A × O)) (s : S), Run step s u s' → exec step s (u.map (·.1)) = some (u, s') := by
    intro u
    induction u with
    | nil =>
        intro s hr
        rw [Run.nil_inv hr]
        rfl
    | cons x u ih =>
        intro s hr
        obtain ⟨a, o⟩ := x
        obtain ⟨s₁, hs, hr'⟩ := Run.cons_inv hr
        simp [exec, hs, ih s₁ hr']
  exact key t s h

/-- `exec` computes exactly the runs. -/
theorem exec_iff {as : List A} {s s' : S} {t : List (A × O)} :
    exec step s as = some (t, s') ↔ Run step s t s' ∧ t.map (·.1) = as := by
  refine ⟨fun h => ⟨exec_run h, ?_⟩, fun ⟨hr, he⟩ => by rw [← he]; exact run_exec hr⟩
  induction as generalizing s t with
  | nil => cases h; rfl
  | cons a as ih =>
      simp only [exec] at h
      split at h
      · cases h
      · rename_i o s₁ hs
        obtain ⟨⟨t', s''⟩, ht, he⟩ := Option.map_eq_some_iff.1 h
        cases he
        simp [ih ht]

/-- **Completion rule**: a list of actions is carried out to its end, each with `P` where it is taken,
exactly if `P` is what each finds wherever the ones before it lead. -/
theorem complete_iff (step : S → A → Option (O × S)) (s₀ : S) (P : S → A → Prop)
    (hstep : ∀ s a, P s a → ∃ r, step s a = some r) (as : List A) :
    (∃ t s, Run step s₀ t s ∧ t.map (·.1) = as ∧
      ∀ pre a o post s₁, t = pre ++ (a, o) :: post → Run step s₀ pre s₁ → P s₁ a) ↔
    ∀ pre a post t s, as = pre ++ a :: post → Run step s₀ t s → t.map (·.1) = pre → P s a := by
  constructor
  · rintro ⟨u, s', hu, rfl, hP⟩ pre a post t s hsplit ht rfl
    obtain ⟨u₁, u₂, rfl, hu₁, hu₂⟩ := List.map_eq_append_iff.1 hsplit
    obtain ⟨⟨b, o⟩, u₃, rfl, rfl, -⟩ := List.map_eq_cons_iff.1 hu₂
    obtain ⟨s₁, hs₁, -⟩ := Run.split hu
    -- the same actions lead to the same state
    have hsame : exec step s₀ (u₁.map (·.1)) = some (u₁, s₁) := run_exec hs₁
    rw [hu₁, run_exec ht] at hsame
    cases hsame
    exact hP t b o u₃ s rfl ht
  · intro hP
    induction as using List.reverseRecOn with
    | nil => exact ⟨[], s₀, .nil, rfl, by simp⟩
    | append_singleton as a ih =>
        obtain ⟨t, s, ht, rfl, hprefix⟩ := ih fun pre b post t s hsplit => by
          refine hP pre b (post ++ [a]) t s ?_
          rw [hsplit, List.append_assoc, List.cons_append]
        have hlast := hP _ a [] t s rfl ht rfl
        obtain ⟨⟨o, s'⟩, hs'⟩ := hstep s a hlast
        refine ⟨t ++ [(a, o)], s', ht.snoc hs', by simp, ?_⟩
        intro pre b q post s₁ hsplit hpre
        rcases List.eq_nil_or_concat post with rfl | ⟨post', x, rfl⟩
        · obtain ⟨rfl, hx⟩ := List.append_inj' hsplit rfl
          cases hx
          rw [Run.deterministic hpre ht]
          exact hlast
        · rw [List.concat_eq_append, ← List.cons_append, ← List.append_assoc] at hsplit
          obtain ⟨rfl, -⟩ := List.append_inj' hsplit rfl
          exact hprefix pre b q post' s₁ rfl hpre

/-- What `exec` finds at the end of a run is true of a run. -/
theorem exec_any {as : List A} {s : S} {p : List (A × O) × S → Bool}
    (h : (exec step s as).any p = true) :
    ∃ t s', Run step s t s' ∧ t.map (·.1) = as ∧ p (t, s') = true := by
  cases he : exec step s as with
  | none => simp [he] at h
  | some r =>
      obtain ⟨hr, hm⟩ := exec_iff.1 he
      exact ⟨r.1, r.2, hr, hm, by simpa [he] using h⟩

end Foundation.Machine
