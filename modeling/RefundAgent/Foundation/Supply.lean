import Mathlib.Tactic

/-!
# Fresh identifiers

A supply hands out the values of an injective sequence one after the other.
Which sequence it is stays open; a value that has been handed out is never
handed out again.
-/

namespace RefundAgent
namespace Foundation

structure Supply where
  gen : Nat -> Nat
  injective : forall i j, gen i = gen j -> i = j
  next : Nat

namespace Supply

def fresh (s : Supply) : Nat :=
  s.gen s.next

def advance (s : Supply) : Supply :=
  { s with next := s.next + 1 }

/-- The value has been handed out before. -/
def Issued (s : Supply) (x : Nat) : Prop :=
  exists i, i < s.next ∧ s.gen i = x

/-- The same sequence, possibly further along. -/
def Extends (s t : Supply) : Prop :=
  t.gen = s.gen ∧ s.next ≤ t.next

theorem issued_fresh_advance (s : Supply) : s.advance.Issued s.fresh :=
  ⟨s.next, Nat.lt_succ_self s.next, rfl⟩

theorem extends_refl (s : Supply) : s.Extends s :=
  ⟨rfl, Nat.le_refl s.next⟩

theorem Extends.trans {s t u : Supply} (h : s.Extends t) (h' : t.Extends u) :
    s.Extends u :=
  ⟨h'.left.trans h.left, Nat.le_trans h.right h'.right⟩

theorem extends_advance (s : Supply) : s.Extends s.advance :=
  ⟨rfl, Nat.le_succ s.next⟩

theorem Issued.mono {s t : Supply} {x : Nat} (h : s.Issued x)
    (hext : s.Extends t) : t.Issued x := by
  rcases h with ⟨i, hi, hgen⟩
  refine ⟨i, Nat.lt_of_lt_of_le hi hext.right, ?_⟩
  rw [hext.left]
  exact hgen

end Supply

end Foundation
end RefundAgent
