import Mathlib.Data.List.Chain
import Mathlib.Data.List.Basic

/-!
# Pieces that lie end to end

A range that is handled piece by piece: `Tiles lo hi pieces` says that the pieces, each a position with
its elements, begin at `lo`, that each begins where the one before it ends, and that the last one ends at
`hi`.  Then every position of the range is in a piece (`mem_iff`), in one only (`ordered`), and a piece holds
what the range holds there (`getElem?_of_mem`).
-/

set_option autoImplicit false

namespace Foundation

variable {α : Type*}

/-- The pieces lie end to end from `lo` to `hi`. -/
inductive Tiles : Nat → Nat → List (Nat × List α) → Prop
  | nil (lo : Nat) : Tiles lo lo []
  | cons {lo hi : Nat} {xs : List α} {pieces : List (Nat × List α)} :
      Tiles (lo + xs.length) hi pieces → Tiles lo hi ((lo, xs) :: pieces)

namespace Tiles

variable {lo mid hi : Nat} {pieces more : List (Nat × List α)}

/-- What the pieces hold, in order, is as long as the range. -/
theorem length_flatMap (h : Tiles lo hi pieces) : lo + (pieces.flatMap Prod.snd).length = hi := by
  induction h with
  | nil lo => rfl
  | cons _ ih =>
      rw [List.flatMap_cons, List.length_append, ← Nat.add_assoc]
      exact ih

theorem le (h : Tiles lo hi pieces) : lo ≤ hi := by
  have hlen := h.length_flatMap
  omega

theorem append (h : Tiles lo mid pieces) (hmore : Tiles mid hi more) : Tiles lo hi (pieces ++ more) := by
  induction h with
  | nil lo => exact hmore
  | cons _ ih => exact cons (ih hmore)

/-- Every piece is in the range. -/
theorem within (h : Tiles lo hi pieces) {p : Nat × List α} (hp : p ∈ pieces) :
    lo ≤ p.1 ∧ p.1 + p.2.length ≤ hi := by
  induction h with
  | nil lo => cases hp
  | cons hrest ih =>
      have hle := hrest.le
      rcases List.mem_cons.1 hp with rfl | hp
      · exact ⟨Nat.le_refl _, hle⟩
      · have hin := ih hp
        omega

/-- No two pieces overlap, and later ones lie higher. -/
theorem ordered (h : Tiles lo hi pieces) : pieces.Pairwise fun p q => p.1 + p.2.length ≤ q.1 := by
  induction h with
  | nil lo => exact List.Pairwise.nil
  | cons hrest ih => exact List.Pairwise.cons (fun q hq => (hrest.within hq).1) ih

/-- Each piece begins where the one before it ends. -/
theorem adjacent (h : Tiles lo hi pieces) : pieces.IsChain fun p q => q.1 = p.1 + p.2.length := by
  induction h with
  | nil lo => exact List.IsChain.nil
  | cons hrest ih =>
      cases hrest with
      | nil => exact List.IsChain.singleton _
      | cons _ => exact List.IsChain.cons_cons rfl ih

/-- The positions of the pieces are those of the range. -/
theorem mem_iff (h : Tiles lo hi pieces) (x : Nat) :
    (lo ≤ x ∧ x < hi) ↔ ∃ p ∈ pieces, p.1 ≤ x ∧ x < p.1 + p.2.length := by
  induction h with
  | nil lo =>
      constructor
      · rintro ⟨hle, hlt⟩
        omega
      · rintro ⟨p, hp, -⟩
        cases hp
  | @cons lo hi xs pieces hrest ih =>
      have hle := hrest.le
      rw [List.exists_mem_cons_iff, ← ih]
      dsimp only
      omega

/-- A piece holds what the range holds at its positions. -/
theorem getElem?_of_mem (h : Tiles lo hi pieces) {p : Nat × List α} (hp : p ∈ pieces) {i : Nat}
    (hi : i < p.2.length) : (pieces.flatMap Prod.snd)[p.1 - lo + i]? = p.2[i]? := by
  induction h with
  | nil lo => cases hp
  | @cons lo hi xs pieces hrest ih =>
      rw [List.flatMap_cons]
      dsimp only
      rcases List.mem_cons.1 hp with rfl | hp
      · rw [Nat.sub_self, Nat.zero_add, List.getElem?_append_left hi]
      · have hge := (hrest.within hp).1
        rw [List.getElem?_append_right (by omega), ← ih hp]
        congr 1
        omega

end Tiles

end Foundation
