import RefundAgent.Foundation.Program

/-!
# Workflows

A workflow is a graph of nodes.  A node is a program that turns one state into
the next; it may name its successor itself, and otherwise the edge function
does.  A run visits one node after the other until an edge leads out of the
graph, and gives up after a fixed number of visits.

Where a rank decreases along every edge, a run that starts with more visits than
the rank of its first node never gives up.
-/

namespace RefundAgent
namespace Foundation

structure Workflow (σ ε ν τ : Type) : Type 1 where
  node : ν -> τ -> Program σ ε (τ × Option ν)
  edge : ν -> τ -> Except ε (Option ν)
  exhausted : ε

namespace Workflow

variable {σ ε ν τ : Type}

/-- The successor of a node after it has run. -/
def next (w : Workflow σ ε ν τ) (n : ν) (result : τ × Option ν) :
    Except ε (Option ν) :=
  match result.2 with
  | some destination => Except.ok (some destination)
  | none => w.edge n result.1

/-- The visited nodes and the last state, starting from one node. -/
def run (w : Workflow σ ε ν τ) : Nat -> ν -> τ -> Program σ ε (List ν × τ)
  | 0, _, _ => Program.raise w.exhausted
  | visits + 1, n, t => do
      let result ← w.node n t
      let successor ← Program.done (w.next n result)
      match successor with
      | none => pure ([n], result.1)
      | some destination => do
          let rest ← w.run visits destination result.1
          pure (n :: rest.1, rest.2)

section Judgement

variable {Inv : σ -> Prop} {Rely Guarantee : σ -> σ -> Prop} {Fault : ε -> Prop}

theorem safe (hrefl : forall s, Rely s s) {w : Workflow σ ε ν τ}
    (hnode : forall n t s, Inv s ->
      Program.Safe Inv Rely Guarantee Fault (w.node n t) s (fun _ _ => True)) :
    forall (visits : Nat) (n : ν) (t : τ) (s : σ), Inv s ->
      Program.Safe Inv Rely Guarantee Fault (w.run visits n t) s (fun _ _ => True) := by
  intro visits
  induction visits with
  | zero => exact fun n t s hs => Program.Safe.raise fun _ _ _ => trivial
  | succ visits ih =>
      intro n t s hs
      refine Program.Safe.bind hrefl (fun _ _ _ => trivial) ?_ (hnode n t s hs)
      intro result u hu _
      refine Program.Safe.bind (P := fun _ _ => True) hrefl (fun _ _ _ => trivial) ?_
        (fun _ _ _ => trivial)
      intro successor v hv _
      cases successor with
      | none => exact Program.Safe.pure fun _ _ _ => trivial
      | some destination =>
          refine Program.Safe.bind hrefl (fun _ _ _ => trivial) ?_
            (ih destination result.1 v hv)
          exact fun _ _ _ _ => Program.Safe.pure fun _ _ _ => trivial

end Judgement

/--
A fact about the state that each node hands on to its successors bounds the
transactions of the whole run.
-/
theorem within {P : forall {γ : Type}, Transaction σ ε γ -> Prop}
    {J : ν -> τ -> Prop} {w : Workflow σ ε ν τ}
    (hnode : forall n t, J n t -> Program.Within P (w.node n t) fun result =>
      forall d, w.next n result = Except.ok (some d) -> J d result.1) :
    forall (visits : Nat) (n : ν) (t : τ), J n t ->
      Program.Within P (w.run visits n t) (fun _ => True) := by
  intro visits
  induction visits with
  | zero => exact fun n t _ => Program.Within.raise _
  | succ visits ih =>
      intro n t ht
      refine Program.Within.bind ?_ (hnode n t ht)
      intro result hresult
      refine Program.Within.bind (Q := fun d => w.next n result = Except.ok d) ?_
        (fun d hd => hd)
      intro successor hsuccessor
      cases successor with
      | none => exact Program.Within.pure trivial
      | some destination =>
          refine Program.Within.bind ?_ (ih destination result.1 (hresult _ hsuccessor))
          exact fun _ _ => Program.Within.pure trivial

/--
The same with what holds where a run leaves the graph.  Every node on the way has
been reached with its fact.
-/
theorem within_path {P : forall {γ : Type}, Transaction σ ε γ -> Prop}
    {J : ν -> τ -> Prop} {E : τ -> Prop} {w : Workflow σ ε ν τ}
    (hnode : forall n t, J n t -> Program.Within P (w.node n t) fun result =>
      (forall d, w.next n result = Except.ok (some d) -> J d result.1) ∧
        (w.next n result = Except.ok none -> E result.1)) :
    forall (visits : Nat) (n : ν) (t : τ), J n t ->
      Program.Within P (w.run visits n t) fun r =>
        E r.2 ∧ forall m, m ∈ r.1 -> exists u, J m u := by
  intro visits
  induction visits with
  | zero => exact fun n t _ => Program.Within.raise _
  | succ visits ih =>
      intro n t ht
      refine Program.Within.bind ?_ (hnode n t ht)
      intro result hresult
      refine Program.Within.bind (Q := fun d => w.next n result = Except.ok d) ?_
        (fun d hd => hd)
      intro successor hsuccessor
      cases successor with
      | none =>
          refine Program.Within.pure ⟨hresult.right hsuccessor, ?_⟩
          intro m hm
          rw [List.mem_singleton.mp hm]
          exact ⟨t, ht⟩
      | some d =>
          refine Program.Within.bind ?_ (ih d result.1 (hresult.left d hsuccessor))
          rintro ⟨path, t'⟩ ⟨hend, hpath⟩
          refine Program.Within.pure ⟨hend, ?_⟩
          intro m hm
          rcases List.mem_cons.mp hm with rfl | hm
          · exact ⟨t, ht⟩
          · exact hpath m hm

/-!
## Undisturbed runs
-/

variable {w : Workflow σ ε ν τ} {n destination : ν} {t t' : τ} {s s' : σ}
  {goto : Option ν} {visits : Nat}

/--
A fact about the state that each visit hands on to the next one holds wherever
the run passes.  A node that no edge leaves is the last one.
-/
theorem run_passes {J : ν -> τ -> Prop}
    (hnode : forall n t s t' goto s' d, J n t ->
      (w.node n t).run s = (Except.ok (t', goto), s') ->
      w.next n (t', goto) = Except.ok (some d) -> J d t') :
    forall {visits : Nat} {n : ν} {t t' : τ} {s s' : σ} {path : List ν}, J n t ->
      (w.run visits n t).run s = (Except.ok (path, t'), s') -> forall m, m ∈ path ->
      exists t₁ s₁ t₂ goto s₂, J m t₁ ∧
        (w.node m t₁).run s₁ = (Except.ok (t₂, goto), s₂) ∧
        (w.next m (t₂, goto) = Except.ok none -> t' = t₂ ∧ s' = s₂) := by
  intro visits
  induction visits with
  | zero =>
      intro n t t' s s' path _ h
      cases h
  | succ visits ih =>
      intro n t t' s s' path ht h m hm
      rw [run] at h
      rcases Program.run_bind_eq_ok.mp h with ⟨⟨t₁, goto⟩, s₁, hfirst, h₁⟩
      rcases Program.run_done_bind h₁ with ⟨successor, hnext, h₂⟩
      cases successor with
      | none =>
          cases h₂
          rw [List.mem_singleton.mp hm]
          exact ⟨t, s, _, goto, _, ht, hfirst, fun _ => ⟨rfl, rfl⟩⟩
      | some d =>
          rcases Program.run_bind_eq_ok.mp h₂ with ⟨⟨rest, t₂⟩, s₂, hrest, hlast⟩
          cases hlast
          rcases List.mem_cons.mp hm with rfl | hm
          · refine ⟨t, s, t₁, goto, s₁, ht, hfirst, ?_⟩
            intro hnone
            rw [hnext] at hnone
            cases hnone
          · exact ih (hnode n t s t₁ goto s₁ d ht hfirst hnext) hrest m hm

/-!
## Ranked workflows
-/

section Ranked

variable {linked : ν -> ν -> Prop} {last : ν -> Prop}

/-- Where a visit can lead to, and where a run can end. -/
def Links (w : Workflow σ ε ν τ) (linked : ν -> ν -> Prop) (last : ν -> Prop) : Prop :=
  forall n t, Program.Within (fun {_ : Type} _ => True) (w.node n t) fun result =>
    (forall d, w.next n result = Except.ok (some d) -> linked n d) ∧
      (w.next n result = Except.ok none -> last n)

theorem Links.path (h : w.Links linked last) (visits : Nat) (n : ν) (t : τ) :
    Program.Within (fun {_ : Type} _ => True) (w.run visits n t) fun r =>
      exists rest, r.1 = n :: rest ∧ List.IsChain linked r.1 ∧
        exists m, r.1.getLast? = some m ∧ last m := by
  induction visits generalizing n t with
  | zero => exact Program.Within.raise _
  | succ visits ih =>
      refine Program.Within.bind ?_ (h n t)
      intro result hresult
      refine Program.Within.bind (Q := fun d => w.next n result = Except.ok d) ?_
        (fun d hd => hd)
      intro successor hsuccessor
      cases successor with
      | none =>
          refine Program.Within.pure ⟨[], rfl, List.IsChain.singleton n, n, rfl, ?_⟩
          exact hresult.right hsuccessor
      | some d =>
          refine Program.Within.bind ?_ (ih d result.1)
          rintro ⟨path, t'⟩ ⟨rest, rfl, hchain, m, hm, hlast⟩
          refine Program.Within.pure ⟨d :: rest, rfl, ?_, m, ?_, hlast⟩
          · exact List.IsChain.cons_cons (hresult.left d hsuccessor) hchain
          · rw [List.getLast?_cons_cons]
            exact hm

variable {rank : ν -> Nat}

/-- A run that is given more visits than the rank of its first node never gives up. -/
theorem Links.run_add (h : w.Links linked last)
    (hrank : forall n d, linked n d -> rank d < rank n) {visits : Nat} {n : ν} {t : τ}
    (hvisits : rank n < visits) (more : Nat) :
    w.run (visits + more) n t = w.run visits n t := by
  induction visits generalizing n t with
  | zero => exact absurd hvisits (Nat.not_lt_zero _)
  | succ visits ih =>
      rw [Nat.add_right_comm]
      unfold run
      refine Program.Within.bind_congr ?_ (h n t)
      intro result hresult
      cases hnext : w.next n result with
      | error e => rfl
      | ok successor =>
          cases successor with
          | none => rfl
          | some d =>
              have hlower := hrank n d (hresult.left d hnext)
              show (w.run (visits + more) d result.1 >>= fun rest =>
                pure (n :: rest.1, rest.2)) = (w.run visits d result.1 >>= fun rest =>
                  pure (n :: rest.1, rest.2))
              rw [ih (Nat.lt_of_lt_of_le hlower (Nat.lt_succ_iff.mp hvisits))]

theorem path_descends (hrank : forall n d, linked n d -> rank d < rank n)
    {path : List ν} (h : List.IsChain linked path) :
    path.Pairwise fun n d => rank d < rank n := by
  have hchain : List.IsChain (fun n d => rank d < rank n) path :=
    h.imp fun n d hlink => hrank n d hlink
  have htrans : IsTrans ν fun n d => rank d < rank n :=
    ⟨fun _ _ _ h h' => Nat.lt_trans h' h⟩
  exact hchain.pairwise

theorem path_nodup (hrank : forall n d, linked n d -> rank d < rank n) {path : List ν}
    (h : List.IsChain linked path) : path.Nodup := by
  refine (path_descends hrank h).imp ?_
  intro n d hlower heq
  rw [heq] at hlower
  exact Nat.lt_irrefl _ hlower

theorem path_enters {m : ν} : forall {rest : List ν} {n : ν},
    List.IsChain linked (n :: rest) -> m ∈ rest ->
      exists p, p ∈ n :: rest ∧ linked p m := by
  intro rest
  induction rest with
  | nil => exact fun _ hm => (by cases hm)
  | cons d rest ih =>
      intro n h hm
      rw [List.isChain_cons_cons] at h
      rcases List.mem_cons.mp hm with rfl | hm
      · exact ⟨n, List.mem_cons_self, h.left⟩
      · rcases ih h.right hm with ⟨p, hp, hlink⟩
        exact ⟨p, List.mem_cons_of_mem n hp, hlink⟩

theorem path_ends {m : ν} : forall {rest : List ν} {n d : ν},
    List.IsChain linked (n :: d :: rest) -> (n :: d :: rest).getLast? = some m ->
      exists front p, n :: d :: rest = front ++ [p, m] ∧ linked p m := by
  intro rest
  induction rest with
  | nil =>
      intro n d h hm
      rw [List.isChain_cons_cons] at h
      cases hm
      exact ⟨[], n, rfl, h.left⟩
  | cons e rest ih =>
      intro n d h hm
      rw [List.isChain_cons_cons] at h
      rw [List.getLast?_cons_cons] at hm
      rcases ih h.right hm with ⟨front, p, heq, hlink⟩
      refine ⟨n :: front, p, ?_, hlink⟩
      rw [heq, List.cons_append]

theorem path_length (hrank : forall n d, linked n d -> rank d < rank n) :
    forall {path : List ν} {n : ν}, List.IsChain linked (n :: path) ->
      (n :: path).length ≤ rank n + 1 := by
  intro path
  induction path with
  | nil => exact fun _ => Nat.le_add_left 1 _
  | cons d rest ih =>
      intro n h
      rw [List.isChain_cons_cons] at h
      have hlower := hrank n d h.left
      have hrest := ih h.right
      simp only [List.length_cons] at hrest ⊢
      omega

end Ranked

end Workflow

end Foundation
end RefundAgent
