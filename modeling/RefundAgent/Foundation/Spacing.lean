import Mathlib.Algebra.Order.Floor.Semiring
import Mathlib.Tactic

/-!
# Spaced sequences

Times of which each lies at least a fixed distance after all earlier ones, and how
many of them a window can hold.
-/

namespace RefundAgent
namespace Foundation

universe u

section Spaced

variable {α : Type u} [Field α] [LinearOrder α] {d : α}
  {xs : List α}

def Spaced (d : α) (xs : List α) : Prop :=
  xs.Pairwise fun a b => a + d ≤ b

theorem Spaced.nil : Spaced d [] :=
  List.Pairwise.nil

theorem Spaced.concat {x : α} (h : Spaced d xs) (hx : forall a, a ∈ xs -> a + d ≤ x) :
    Spaced d (xs ++ [x]) := by
  apply List.pairwise_append.mpr
  refine ⟨h, List.pairwise_singleton _ x, ?_⟩
  intro a ha b hb
  rw [List.mem_singleton.mp hb]
  exact hx a ha

variable [IsStrictOrderedRing α]

theorem Spaced.length_mul_le {x bound : α} (h : Spaced d (x :: xs))
    (hbound : forall a, a ∈ x :: xs -> a ≤ bound) : x + xs.length * d ≤ bound := by
  induction xs generalizing x with
  | nil =>
      have hx := hbound x List.mem_cons_self
      simpa using hx
  | cons y ys ih =>
      rcases List.pairwise_cons.mp h with ⟨hfirst, hrest⟩
      have hy : x + d ≤ y := hfirst y List.mem_cons_self
      have htail := ih hrest fun a ha => hbound a (List.mem_cons_of_mem x ha)
      calc
        x + ((y :: ys).length : α) * d = x + d + ys.length * d := by
          push_cast [List.length_cons]
          ring
        _ ≤ y + ys.length * d := add_le_add hy (le_refl _)
        _ ≤ bound := htail

variable [FloorSemiring α]

theorem Spaced.length_le (h : Spaced d xs) (hd : 0 < d) {start t : α}
    (hwindow : forall a, a ∈ xs -> start ≤ a ∧ a ≤ start + t) :
    xs.length ≤ ⌊t / d⌋₊ + 1 := by
  cases xs with
  | nil => exact Nat.zero_le _
  | cons x rest =>
      have hfill := h.length_mul_le fun a ha => (hwindow a ha).right
      have hstart := (hwindow x List.mem_cons_self).left
      have hroom : rest.length * d ≤ t := by linarith
      have hfloor : rest.length ≤ ⌊t / d⌋₊ := Nat.le_floor ((le_div_iff₀ hd).mpr hroom)
      exact Nat.succ_le_succ hfloor

end Spaced

end Foundation
end RefundAgent
