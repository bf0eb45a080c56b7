import Mathlib.Order.Lattice
import Mathlib.Data.List.Basic

/-!
# Timelines

The times on a record and on the entries below it.  The clock that is read for an update
may go backwards; the times stay ordered when an update clamps what it writes by the
times that the record already has.
-/

namespace RefundAgent
namespace Foundation

universe u v

/-- The times of a record: its creation, its last update and the marks it has. -/
structure Stamps (τ : Type u) where
  created : τ
  updated : τ
  marks : List τ

section Timelines

variable {τ : Type u} [Preorder τ] {α : Type v}

namespace Stamps

variable {s s' s'' : Stamps τ}

structure Ordered (s : Stamps τ) : Prop where
  updated : s.created ≤ s.updated
  marks : forall t, t ∈ s.marks -> s.created ≤ t

structure Advances (s s' : Stamps τ) : Prop where
  created : s'.created = s.created
  updated : s.updated ≤ s'.updated

/-- One update: it advances, and a mark that it sets is not before the creation. -/
structure Clamps (s s' : Stamps τ) : Prop where
  advances : s.Advances s'
  marks : forall t, t ∈ s'.marks -> t ∈ s.marks ∨ s.created ≤ t

theorem Advances.refl (s : Stamps τ) : s.Advances s :=
  ⟨rfl, le_refl s.updated⟩

theorem Ordered.clamp (h : s.Ordered) (hc : s.Clamps s') : s'.Ordered := by
  constructor
  · rw [hc.advances.created]
    exact le_trans h.updated hc.advances.updated
  · intro t ht
    rw [hc.advances.created]
    rcases hc.marks t ht with hold | hnew
    · exact h.marks t hold
    · exact hnew

end Stamps

/-- A record and its entries: the entries start in their order, and none starts after the
record was last updated or ends before it starts. -/
structure Timeline (precedes : α -> α -> Prop) (span : α -> τ × Option τ) (s : Stamps τ)
    (entries : List α) : Prop where
  stamps : s.Ordered
  started : forall a, a ∈ entries -> (span a).1 ≤ s.updated
  finished : forall a, a ∈ entries -> forall t, (span a).2 = some t -> (span a).1 ≤ t
  ordered : entries.Pairwise fun a b => precedes a b ∧ (span a).1 ≤ (span b).1

namespace Timeline

variable {precedes : α -> α -> Prop} {span : α -> τ × Option τ} {s s' : Stamps τ}
  {entries : List α}

theorem nil (h : s.Ordered) : Timeline precedes span s [] where
  stamps := h
  started := fun a ha => (by cases ha)
  finished := fun a ha => (by cases ha)
  ordered := List.Pairwise.nil

theorem clamp (h : Timeline precedes span s entries) (hc : s.Clamps s') :
    Timeline precedes span s' entries where
  stamps := h.stamps.clamp hc
  started := fun a ha => le_trans (h.started a ha) hc.advances.updated
  finished := h.finished
  ordered := h.ordered

theorem concat (h : Timeline precedes span s entries) {a : α}
    (hspan : span a = (s.updated, none)) (ha : forall b, b ∈ entries -> precedes b a) :
    Timeline precedes span s (entries ++ [a]) := by
  constructor
  · exact h.stamps
  · intro b hb
    rcases List.mem_append.mp hb with hb | hb
    · exact h.started b hb
    · rw [List.mem_singleton.mp hb, hspan]
  · intro b hb t ht
    rcases List.mem_append.mp hb with hb | hb
    · exact h.finished b hb t ht
    · rw [List.mem_singleton.mp hb, hspan] at ht
      cases ht
  · rw [List.pairwise_append]
    refine ⟨h.ordered, List.pairwise_singleton _ _, ?_⟩
    intro b hb c hc
    rw [List.mem_singleton.mp hc, hspan]
    exact ⟨ha b hb, h.started b hb⟩

theorem map (h : Timeline precedes span s entries) (f : α -> α)
    (hprecedes : forall a b, precedes a b -> precedes (f a) (f b))
    (hstart : forall a, (span (f a)).1 = (span a).1)
    (hfinish : forall a, a ∈ entries -> forall t, (span (f a)).2 = some t ->
      (span a).1 ≤ t) :
    Timeline precedes span s (entries.map f) := by
  constructor
  · exact h.stamps
  · intro b hb
    rcases List.mem_map.mp hb with ⟨a, ha, rfl⟩
    rw [hstart]
    exact h.started a ha
  · intro b hb t ht
    rcases List.mem_map.mp hb with ⟨a, ha, rfl⟩
    rw [hstart]
    exact hfinish a ha t ht
  · rw [List.pairwise_map]
    apply h.ordered.imp
    intro a b hab
    rw [hstart, hstart]
    exact ⟨hprecedes a b hab.left, hab.right⟩

theorem start_le (h : Timeline precedes span s entries)
    (hasymm : forall a b, precedes a b -> ¬precedes b a) {a b : α} (ha : a ∈ entries)
    (hb : b ∈ entries) (hab : precedes a b) : (span a).1 ≤ (span b).1 := by
  have hforward : entries.Pairwise fun c d => precedes c d -> (span c).1 ≤ (span d).1 :=
    h.ordered.imp fun hcd _ => hcd.right
  have hbackward : entries.Pairwise
      (flip fun c d => precedes c d -> (span c).1 ≤ (span d).1) :=
    h.ordered.imp fun hcd hdc => absurd hdc (hasymm _ _ hcd.left)
  exact hforward.forall_of_forall_of_flip (fun _ _ _ => le_refl _) hbackward ha hb hab

end Timeline

end Timelines

end Foundation
end RefundAgent
