import Mathlib.Data.List.Nodup
import Mathlib.Logic.Function.Basic

/-!
# Linked lists in a heap

A heap gives every address a node, and `next` is the pointer a node holds; `none` is the null pointer.
`Seg next q as r` says that the pointers lead from `q` through the addresses `as` to `r`.  A pointer that
leads to the null pointer does so along one list (`Seg.unique`).

`visit` is the loop `for (q = start; q != stop; q = q->next)` with a body that changes the node it is at:
`visit_eq` says what it leaves.
-/

set_option autoImplicit false

namespace Foundation

variable {α N : Type}

/-- The pointers lead from `q` through `as` to `r`. -/
def Seg (next : α → Option α) : Option α → List α → Option α → Prop
  | q, [], r => q = r
  | q, a :: as, r => q = some a ∧ Seg next (next a) as r

namespace Seg

variable {next next' : α → Option α} {q r s : Option α} {as bs : List α}

theorem append (h : Seg next q as r) (h' : Seg next r bs s) : Seg next q (as ++ bs) s := by
  induction as generalizing q with
  | nil =>
      have hq : q = r := h
      rw [hq]
      exact h'
  | cons a as ih => exact ⟨h.1, ih h.2⟩

/-- Only the pointers of the nodes passed matter. -/
theorem congr (h : Seg next q as r) (hnext : ∀ a ∈ as, next' a = next a) : Seg next' q as r := by
  induction as generalizing q with
  | nil => exact h
  | cons a as ih =>
      refine ⟨h.1, ?_⟩
      rw [hnext a List.mem_cons_self]
      exact ih h.2 fun b hb => hnext b (List.mem_cons_of_mem _ hb)

theorem unique (h : Seg next q as none) (h' : Seg next q bs none) : as = bs := by
  induction as generalizing q bs with
  | nil =>
      have hq : q = none := h
      cases bs with
      | nil => rfl
      | cons b bs =>
          rw [hq] at h'
          exact absurd h'.1 (by simp)
  | cons a as ih =>
      cases bs with
      | nil =>
          have hq : q = none := h'
          rw [hq] at h
          exact absurd h.1 (by simp)
      | cons b bs =>
          obtain rfl : a = b := Option.some.inj (h.1.symm.trans h'.1)
          rw [ih h.2 h'.2]

/-- The last node of a list is given another pointer. -/
theorem relink [DecidableEq α] {a : α} (h : Seg next q (as ++ [a]) r) (ha : a ∉ as) :
    Seg (Function.update next a s) q (as ++ [a]) s := by
  induction as generalizing q with
  | nil => exact ⟨h.1, by rw [Function.update_self]; rfl⟩
  | cons b as ih =>
      obtain ⟨hb, has⟩ := not_or.1 (mt List.mem_cons.2 ha)
      refine ⟨h.1, ?_⟩
      rw [Function.update_of_ne (Ne.symm hb)]
      exact ih h.2 has

end Seg

/-! ## Visiting the nodes -/

section Visit

variable [DecidableEq α] (next : N → Option α) (body : N → N) (stop : α)

/-- `for (q = start; q != stop; q = q->next)`; `none` is a null pointer that is followed, or a loop that
is still going on. -/
def visit : (fuel : Nat) → (q : Option α) → (α → N) → Option (α → N)
  | 0, _, _ => none
  | _ + 1, none, _ => none
  | fuel + 1, some q, heap =>
    if q = stop then some heap
    else
      let heap := Function.update heap q (body (heap q))
      visit fuel (next (heap q)) heap

variable {next body stop}

/-- **What the loop leaves**: every node before `stop` changed once, and the others as they were. -/
theorem visit_eq (hbody : ∀ n, next (body n) = next n) {as : List α} {fuel : Nat} {q : Option α}
    {heap : α → N} (hseg : Seg (fun a => next (heap a)) q as (some stop)) (hnodup : as.Nodup)
    (hstop : stop ∉ as) (hfuel : as.length < fuel) :
    visit next body stop fuel q heap =
      some fun a => if a ∈ as then body (heap a) else heap a := by
  induction as generalizing fuel q heap with
  | nil =>
      obtain ⟨fuel, rfl⟩ := Nat.exists_eq_succ_of_ne_zero (Nat.ne_of_gt hfuel)
      have hq : q = some stop := hseg
      subst hq
      simp [visit]
  | cons b as ih =>
      obtain ⟨fuel, rfl⟩ := Nat.exists_eq_succ_of_ne_zero (Nat.ne_zero_of_lt hfuel)
      obtain ⟨rfl, hrest⟩ := hseg
      obtain ⟨hb, has⟩ := List.nodup_cons.1 hnodup
      obtain ⟨hne, hstop⟩ := not_or.1 (mt List.mem_cons.2 hstop)
      have hkept : ∀ a ∈ as, Function.update heap b (body (heap b)) a = heap a := by
        intro a ha
        have hab : a ≠ b := by
          rintro rfl
          exact hb ha
        exact Function.update_of_ne hab _ _
      have hseg' : Seg (fun a => next (Function.update heap b (body (heap b)) a)) (next (heap b)) as
          (some stop) := hrest.congr fun a ha => by rw [hkept a ha]
      have hstep : next (Function.update heap b (body (heap b)) b) = next (heap b) := by
        rw [Function.update_self, hbody]
      rw [visit, if_neg (Ne.symm hne)]
      dsimp only
      rw [hstep, ih hseg' has hstop (Nat.lt_of_succ_lt_succ hfuel)]
      congr 1
      funext a
      by_cases ha : a = b
      · subst ha
        simp [hb]
      · simp [ha]

end Visit

end Foundation
