import RefundAgent.Foundation.Trace

/-!
# Calls that act at one point

A program reads, decides and writes in transactions of its own, and others write
in between.  It acts at one point when every transaction but its last is idle,
and the last one does to the state that it meets all that the program ever does,
as if it had been called there and then.  A program that does nothing answers
from the last state that it has seen.
-/

namespace RefundAgent
namespace Foundation
namespace Program

variable {σ ε α β : Type}

section Judgement

variable (Inv : σ -> Prop) (Rely Idle : σ -> σ -> Prop) (Fault : ε -> Prop)

/--
From the given state on: the answers that need no action, by the state that was
seen last, and the actions with the values returned for them.
-/
def AtOnce (Answer : α -> σ -> Prop) (Act : α -> σ -> σ -> Prop) :
    Program σ ε α -> σ -> Prop
  | done r, s => forall a, r = Except.ok a -> Answer a s
  | call tx next, s => forall t, Rely s t -> Inv t ->
      (forall e, Fault e ∨ tx t = Except.error e ->
        AtOnce Answer Act (next (Except.error e)) t) ∧
      (forall b u, tx t = Except.ok (b, u) ->
        (Idle t u ∧ AtOnce Answer Act (next (Except.ok b)) u) ∨
        (exists a, next (Except.ok b) = done (Except.ok a) ∧ Act a t u))

/-- No action is allowed. -/
abbrev NoAct : α -> σ -> σ -> Prop := fun _ _ _ => False

variable {Inv Rely Idle Fault}
variable {N N' : α -> σ -> Prop} {S S' : α -> σ -> σ -> Prop}

namespace AtOnce

theorem mono (hN : forall a s, N a s -> N' a s)
    (hS : forall a s t, S a s t -> S' a s t) :
    forall {p : Program σ ε α} {s : σ}, AtOnce Inv Rely Idle Fault N S p s ->
      AtOnce Inv Rely Idle Fault N' S' p s := by
  intro p
  induction p with
  | done r => exact fun h a ha => hN a _ (h a ha)
  | call tx next ih =>
      intro s h t hst ht
      rcases h t hst ht with ⟨herror, hok⟩
      constructor
      · exact fun e he => ih _ (herror e he)
      · intro b u hu
        rcases hok b u hu with ⟨hidle, hrest⟩ | ⟨a, hdone, hact⟩
        · exact Or.inl ⟨hidle, ih _ hrest⟩
        · exact Or.inr ⟨a, hdone, hS a t u hact⟩

theorem pure {a : α} {s : σ} (h : N a s) :
    AtOnce Inv Rely Idle Fault N S (Pure.pure a : Program σ ε α) s := by
  intro b hb
  cases hb
  exact h

theorem raise (e : ε) (s : σ) :
    AtOnce Inv Rely Idle Fault N S (Program.raise e : Program σ ε α) s := by
  intro b hb
  cases hb

theorem bind {P : β -> σ -> Prop} {f : β -> Program σ ε α}
    (hf : forall b t, P b t -> AtOnce Inv Rely Idle Fault N S (f b) t) :
    forall {p : Program σ ε β} {s : σ}, AtOnce Inv Rely Idle Fault P NoAct p s ->
      AtOnce Inv Rely Idle Fault N S (p >>= f) s := by
  intro p
  induction p with
  | done r =>
      intro s h
      cases r with
      | ok b => exact hf b s (h b rfl)
      | error e => exact raise e s
  | call tx next ih =>
      intro s h t hst ht
      rcases h t hst ht with ⟨herror, hok⟩
      constructor
      · exact fun e he => ih _ (herror e he)
      · intro b u hu
        rcases hok b u hu with ⟨hidle, hrest⟩ | ⟨_, _, hact⟩
        · exact Or.inl ⟨hidle, ih _ hrest⟩
        · exact hact.elim

theorem compute {r : Except ε β} {f : β -> Program σ ε α} {s : σ}
    (h : forall b, r = Except.ok b -> AtOnce Inv Rely Idle Fault N S (f b) s) :
    AtOnce Inv Rely Idle Fault N S (done r >>= f) s := by
  cases r with
  | ok b => exact h b rfl
  | error e => exact raise e s

theorem require {c : Prop} [Decidable c] {e : ε} {f : Unit -> Program σ ε α} {s : σ}
    (h : c -> AtOnce Inv Rely Idle Fault N S (f ()) s) :
    AtOnce Inv Rely Idle Fault N S (Program.require c e >>= f) s := by
  unfold Program.require
  by_cases hc : c
  · rw [if_pos hc]
    exact h hc
  · rw [if_neg hc]
    exact raise e s

theorem ite {c : Prop} [Decidable c] {p q : Program σ ε α} {s : σ}
    (hp : c -> AtOnce Inv Rely Idle Fault N S p s)
    (hq : ¬c -> AtOnce Inv Rely Idle Fault N S q s) :
    AtOnce Inv Rely Idle Fault N S (if c then p else q) s := by
  by_cases hc : c
  · rw [if_pos hc]
    exact hp hc
  · rw [if_neg hc]
    exact hq hc

theorem look {tx : Transaction σ ε α} {s : σ}
    (h : forall t, Rely s t -> Inv t -> forall a u, tx t = Except.ok (a, u) ->
      Idle t u ∧ N a u) :
    AtOnce Inv Rely Idle Fault N S (perform tx) s := by
  intro t hst ht
  constructor
  · exact fun e _ => raise e t
  · intro a u hu
    rcases h t hst ht a u hu with ⟨hidle, hN⟩
    exact Or.inl ⟨hidle, pure hN⟩

theorem write {tx : Transaction σ ε β} {g : β -> α} {s : σ}
    (h : forall t, Rely s t -> Inv t -> forall b u, tx t = Except.ok (b, u) ->
      S (g b) t u) :
    AtOnce Inv Rely Idle Fault N S
      (perform tx >>= fun b => (Pure.pure (g b) : Program σ ε α)) s := by
  intro t hst ht
  constructor
  · exact fun e _ => raise e t
  · exact fun b u hu => Or.inr ⟨g b, rfl, h t hst ht b u hu⟩

theorem transact {tx : Transaction σ ε α} {s : σ}
    (h : forall t, Rely s t -> Inv t -> forall a u, tx t = Except.ok (a, u) ->
      (Idle t u ∧ N a u) ∨ S a t u) :
    AtOnce Inv Rely Idle Fault N S (perform tx) s := by
  intro t hst ht
  constructor
  · exact fun e _ => raise e t
  · intro a u hu
    rcases h t hst ht a u hu with ⟨hidle, hN⟩ | hS
    · exact Or.inl ⟨hidle, pure hN⟩
    · exact Or.inr ⟨a, rfl, hS⟩

theorem rescue {handler : ε -> Option (Program σ ε α)}
    (hcatch : forall e q t, handler e = some q ->
      AtOnce Inv Rely Idle Fault N S q t) :
    forall {p : Program σ ε α} {s : σ}, AtOnce Inv Rely Idle Fault N S p s ->
      AtOnce Inv Rely Idle Fault N S (p.rescue handler) s := by
  intro p
  induction p with
  | done r =>
      intro s h
      cases r with
      | ok a => exact h
      | error e =>
          show AtOnce Inv Rely Idle Fault N S
            ((handler e).getD (done (Except.error e))) s
          cases hq : handler e with
          | none => exact raise e s
          | some q => exact hcatch e q s hq
  | call tx next ih =>
      intro s h t hst ht
      rcases h t hst ht with ⟨herror, hok⟩
      constructor
      · exact fun e he => ih _ (herror e he)
      · intro b u hu
        rcases hok b u hu with ⟨hidle, hrest⟩ | ⟨a, hdone, hact⟩
        · exact Or.inl ⟨hidle, ih _ hrest⟩
        · refine Or.inr ⟨a, ?_, hact⟩
          show (next (Except.ok b)).rescue handler = done (Except.ok a)
          rw [hdone]
          rfl

theorem since (hrefl : forall s, Rely s s)
    (htrans : forall {s t u}, Rely s t -> Rely t u -> Rely s u)
    (hidle : forall {s t}, Idle s t -> Rely s t) :
    forall {p : Program σ ε α} {s : σ}, AtOnce Inv Rely Idle Fault N S p s ->
      AtOnce Inv Rely Idle Fault (fun a t => Rely s t ∧ N a t)
        (fun a t u => Rely s t ∧ S a t u) p s := by
  intro p
  induction p with
  | done r => exact fun {s} h a ha => ⟨hrefl s, h a ha⟩
  | call tx next ih =>
      intro s h t hst ht
      rcases h t hst ht with ⟨herror, hok⟩
      have hlater : forall {q : Program σ ε α} {u : σ}, Rely t u ->
          AtOnce Inv Rely Idle Fault (fun a v => Rely u v ∧ N a v)
            (fun a v w => Rely u v ∧ S a v w) q u ->
          AtOnce Inv Rely Idle Fault (fun a v => Rely s v ∧ N a v)
            (fun a v w => Rely s v ∧ S a v w) q u := by
        intro q u htu hq
        have hsu := htrans hst htu
        exact hq.mono (fun a v hv => ⟨htrans hsu hv.left, hv.right⟩)
          (fun a v w hv => ⟨htrans hsu hv.left, hv.right⟩)
      constructor
      · exact fun e he => hlater (hrefl t) (ih _ (herror e he))
      · intro b u hu
        rcases hok b u hu with ⟨hquiet, hrest⟩ | ⟨a, hdone, hact⟩
        · exact Or.inl ⟨hquiet, hlater (hidle hquiet) (ih _ hrest)⟩
        · exact Or.inr ⟨a, hdone, hst, hact⟩

end AtOnce

end Judgement

/-!
## What a program that acts at one point has done
-/

section Ended

variable {Inv : σ -> Prop} {Rely Idle : σ -> σ -> Prop} {Fault : ε -> Prop}
  {N : α -> σ -> Prop} {S : α -> σ -> σ -> Prop}

/-- The transactions of a program as others leave room for them. -/
def Amid (Inv : σ -> Prop) (Rely : σ -> σ -> Prop) : σ -> List (σ × σ) -> Prop
  | _, [] => True
  | s, (t, u) :: rest => Rely s t ∧ Inv t ∧ Amid Inv Rely u rest

theorem Amid.of_pairwise : forall {own : List (σ × σ)} {s : σ},
    (forall a, a ∈ own -> Rely s a.1) -> (own.Pairwise fun a b => Rely a.2 b.1) ->
    (forall a, a ∈ own -> Inv a.1) -> Amid Inv Rely s own := by
  intro own
  induction own with
  | nil => exact fun _ _ _ => trivial
  | cons a rest ih =>
      intro s hfirst hpairs hinv
      rw [List.pairwise_cons] at hpairs
      constructor
      · exact hfirst a List.mem_cons_self
      · constructor
        · exact hinv a List.mem_cons_self
        · exact ih hpairs.left hpairs.right fun b hb => hinv b (List.mem_cons_of_mem a hb)

/-- The state after the last of its transactions. -/
def lastSeen (s : σ) (own : List (σ × σ)) : σ :=
  (own.getLast?.map Prod.snd).getD s

theorem lastSeen_cons (s : σ) (x : σ × σ) (rest : List (σ × σ)) :
    lastSeen s (x :: rest) = lastSeen x.2 rest := by
  unfold lastSeen
  cases rest with
  | nil => rfl
  | cons y more =>
      rw [List.getLast?_cons_cons]
      rw [List.getLast?_eq_some_getLast (List.cons_ne_nil y more)]
      rfl

theorem lastSeen_eq (s : σ) (own : List (σ × σ)) :
    (own = [] ∧ lastSeen s own = s) ∨ exists a, a ∈ own ∧ lastSeen s own = a.2 := by
  induction own generalizing s with
  | nil => exact Or.inl ⟨rfl, rfl⟩
  | cons a rest ih =>
      right
      rw [lastSeen_cons]
      rcases ih a.2 with ⟨_, hlast⟩ | ⟨b, hb, hlast⟩
      · exact ⟨a, List.mem_cons_self, hlast⟩
      · exact ⟨b, List.mem_cons_of_mem a hb, hlast⟩

/-- All transactions are idle, and the answer is drawn from what was seen. -/
def Answered (Idle : σ -> σ -> Prop) (N : α -> σ -> Prop) (s : σ) (own : List (σ × σ))
    (r : Except ε α) : Prop :=
  (forall x, x ∈ own -> Idle x.1 x.2) ∧ forall a, r = Except.ok a -> N a (lastSeen s own)

/-- All transactions but the last are idle, and the last one does what is returned. -/
def Acted (Idle : σ -> σ -> Prop) (S : α -> σ -> σ -> Prop) (own : List (σ × σ))
    (r : Except ε α) : Prop :=
  exists first x a, own = first ++ [x] ∧ r = Except.ok a ∧
    (forall y, y ∈ first -> Idle y.1 y.2) ∧ S a x.1 x.2

theorem Answered.cons {s : σ} {x : σ × σ} {own : List (σ × σ)} {r : Except ε α}
    (h : Answered Idle N x.2 own r) (hx : Idle x.1 x.2) :
    Answered Idle N s (x :: own) r := by
  constructor
  · exact List.forall_mem_cons.mpr ⟨hx, h.left⟩
  · intro a ha
    rw [lastSeen_cons]
    exact h.right a ha

theorem Acted.cons {x : σ × σ} {own : List (σ × σ)} {r : Except ε α}
    (h : Acted Idle S own r) (hx : Idle x.1 x.2) : Acted Idle S (x :: own) r := by
  rcases h with ⟨first, y, a, rfl, hr, hfirst, hact⟩
  exact ⟨x :: first, y, a, rfl, hr, List.forall_mem_cons.mpr ⟨hx, hfirst⟩, hact⟩

theorem AtOnce.returned (hrefl : forall s, Idle s s) {r : Except ε α} :
    forall {p : Program σ ε α} {s : σ} {own : List (σ × σ)},
      AtOnce Inv Rely Idle Fault N S p s -> Returns Fault p own r ->
      Amid Inv Rely s own -> Answered Idle N s own r ∨ Acted Idle S own r := by
  intro p
  induction p with
  | done x =>
      intro s own h hreturns _
      rcases Returns.of_done hreturns with ⟨rfl, rfl⟩
      exact Or.inl ⟨fun y hy => (by cases hy), h⟩
  | @call γ tx next ih =>
      intro s own h hreturns hamid
      -- one idle transaction, and the rest of the program from the state after it
      have hidle : forall {t u : σ} {rest : List (σ × σ)} {y : Except ε γ}, Idle t u ->
          AtOnce Inv Rely Idle Fault N S (next y) u -> Returns Fault (next y) rest r ->
          Amid Inv Rely u rest ->
          Answered Idle N s ((t, u) :: rest) r ∨ Acted Idle S ((t, u) :: rest) r := by
        intro t u rest y htu hnext hmore hlater
        rcases ih y hnext hmore hlater with hanswer | hact
        · exact Or.inl (hanswer.cons htu)
        · exact Or.inr (hact.cons htu)
      cases hreturns with
      | cons hstep hmore =>
          rcases hamid with ⟨hst, ht, hlater⟩
          rcases h _ hst ht with ⟨herror, hok⟩
          cases hstep with
          | raise htx => exact hidle (hrefl _) (herror _ (Or.inr htx)) hmore hlater
          | fault he => exact hidle (hrefl _) (herror _ (Or.inl he)) hmore hlater
          | commit htx =>
              rcases hok _ _ htx with ⟨hquiet, hnext⟩ | ⟨a, hdone, hact⟩
              · exact hidle hquiet hnext hmore hlater
              · rw [hdone] at hmore
                rcases Returns.of_done hmore with ⟨rfl, rfl⟩
                refine Or.inr ⟨[], _, a, rfl, rfl, fun y hy => (by cases hy), hact⟩

end Ended

end Program
end Foundation
end RefundAgent
