import Mathlib.Tactic

/-!
# Runs

A run of a labelled step relation, with its stages kept: the state before, the
event and the state after each step.  The rules below turn facts about one step
into facts about every stage of a run and about any two stages of it.
-/

namespace RefundAgent
namespace Foundation

universe u v

structure Stage (σ : Type u) (ε : Type v) where
  before : σ
  event : ε
  after : σ

inductive Run {σ : Type u} {ε : Type v} (step : σ -> ε -> σ -> Prop) :
    σ -> List (Stage σ ε) -> σ -> Prop
  | nil (s : σ) : Run step s [] s
  | cons {s t u : σ} {e : ε} {stages : List (Stage σ ε)} (h : step s e t)
      (rest : Run step t stages u) : Run step s (⟨s, e, t⟩ :: stages) u

namespace Run

variable {σ : Type u} {ε : Type v} {step : σ -> ε -> σ -> Prop} {s t : σ}
  {stages : List (Stage σ ε)}

theorem append {u : σ} {more : List (Stage σ ε)} (h : Run step s stages t)
    (h' : Run step t more u) : Run step s (stages ++ more) u := by
  induction h with
  | nil => exact h'
  | cons hstep _ ih => exact cons hstep (ih h')

theorem split {past rest : List (Stage σ ε)} {x : Stage σ ε} :
    forall {s : σ}, Run step s (past ++ x :: rest) t ->
      Run step s past x.before ∧ step x.before x.event x.after ∧
        Run step x.after rest t := by
  induction past with
  | nil =>
      intro s h
      cases h with
      | cons hstep hrest => exact ⟨nil _, hstep, hrest⟩
  | cons y past ih =>
      intro s h
      cases h with
      | cons hstep hrest =>
          rcases ih hrest with ⟨hpast, hx, hmore⟩
          exact ⟨cons hstep hpast, hx, hmore⟩

theorem invariant {I : σ -> Prop} {C : Stage σ ε -> Prop}
    (hstep : forall x : Stage σ ε, C x -> step x.before x.event x.after ->
      I x.before -> I x.after)
    (h : Run step s stages t) (hs : I s) (hC : forall x, x ∈ stages -> C x) :
    I t ∧ forall x, x ∈ stages ->
      step x.before x.event x.after ∧ I x.before ∧ I x.after := by
  induction h with
  | nil => exact ⟨hs, by simp⟩
  | @cons s t u e stages h rest ih =>
      have ht : I t :=
        hstep ⟨s, e, t⟩ (hC _ List.mem_cons_self) h hs
      have hrest := ih ht fun x hx => hC x (List.mem_cons_of_mem _ hx)
      refine ⟨hrest.left, ?_⟩
      intro x hx
      rcases List.mem_cons.mp hx with rfl | hx
      · exact ⟨h, hs, ht⟩
      · exact hrest.right x hx

theorem history {I : List (Stage σ ε) -> σ -> Prop} {C : Stage σ ε -> Prop}
    (hstep : forall past x, C x -> step x.before x.event x.after ->
      I past x.before -> I (past ++ [x]) x.after)
    (h : Run step s stages t) :
    forall {l : List (Stage σ ε)}, I l s -> (forall x, x ∈ stages -> C x) ->
      I (l ++ stages) t := by
  induction h with
  | nil =>
      intro past hs _
      rw [List.append_nil]
      exact hs
  | @cons s t u e stages h rest ih =>
      intro past hs hC
      have ht := hstep past ⟨s, e, t⟩ (hC _ List.mem_cons_self) h hs
      have hrest := ih ht fun x hx => hC x (List.mem_cons_of_mem _ hx)
      rw [List.append_assoc, List.singleton_append] at hrest
      exact hrest

theorem introduced {P : σ -> Prop} (h : Run step s stages t) (hs : ¬P s) (ht : P t) :
    exists x, x ∈ stages ∧ ¬P x.before ∧ P x.after := by
  induction h with
  | nil => exact absurd ht hs
  | @cons s u t e rest hstep _ ih =>
      by_cases hu : P u
      · exact ⟨_, List.mem_cons_self, hs, hu⟩
      · rcases ih hu ht with ⟨x, hx, hP⟩
        exact ⟨x, List.mem_cons_of_mem _ hx, hP⟩

theorem relates {R : σ -> σ -> Prop} (hrefl : forall s, R s s)
    (htrans : forall {s t u}, R s t -> R t u -> R s u)
    (h : Run step s stages t)
    (hstage : forall x, x ∈ stages -> R x.before x.after) :
    R s t ∧ forall x, x ∈ stages -> R s x.before ∧ R x.after t := by
  induction h with
  | nil s => exact ⟨hrefl s, by simp⟩
  | @cons s t u e stages h rest ih =>
      have hst : R s t := hstage ⟨s, e, t⟩ List.mem_cons_self
      have hrest := ih fun x hx => hstage x (List.mem_cons_of_mem _ hx)
      refine ⟨htrans hst hrest.left, ?_⟩
      intro x hx
      rcases List.mem_cons.mp hx with rfl | hx
      · exact ⟨hrefl s, hrest.left⟩
      · exact ⟨htrans hst (hrest.right x hx).left, (hrest.right x hx).right⟩

theorem ordered {R : σ -> σ -> Prop} (hrefl : forall s, R s s)
    (htrans : forall {s t u}, R s t -> R t u -> R s u)
    (h : Run step s stages t)
    (hstage : forall x, x ∈ stages -> R x.before x.after) :
    stages.Pairwise fun x y => R x.after y.before := by
  induction h with
  | nil => exact List.Pairwise.nil
  | @cons s t u e stages h rest ih =>
      have hlater := fun x hx => hstage x (List.mem_cons_of_mem _ hx)
      refine List.pairwise_cons.mpr ⟨?_, ih hlater⟩
      intro y hy
      exact ((relates hrefl htrans rest hlater).right y hy).left

end Run

theorem sum_le_one_of_pairwise {α : Type u} {f : α -> Nat} {E : α -> Prop} :
    forall {l : List α}, (forall x, x ∈ l -> ¬E x -> f x = 0) ->
      (forall x, x ∈ l -> f x ≤ 1) -> (l.Pairwise fun x y => E x -> ¬E y) ->
      (l.map f).sum ≤ 1 := by
  intro l
  induction l with
  | nil => simp
  | cons x rest ih =>
      intro hzero hone hpair
      rw [List.pairwise_cons] at hpair
      have hrest := ih (fun y hy => hzero y (List.mem_cons_of_mem x hy))
        (fun y hy => hone y (List.mem_cons_of_mem x hy)) hpair.right
      rw [List.map_cons, List.sum_cons]
      by_cases hx : E x
      · have hnone : (rest.map f).sum = 0 := by
          rw [List.sum_eq_zero]
          intro n hn
          rcases List.mem_map.mp hn with ⟨y, hy, rfl⟩
          exact hzero y (List.mem_cons_of_mem x hy) (hpair.left y hy hx)
        have := hone x List.mem_cons_self
        omega
      · have := hzero x List.mem_cons_self hx
        omega

end Foundation
end RefundAgent
