import RefundAgent.Foundation.Program

/-!
# Traces

What one program does while others run too: the states before and after each of
its own transactions.  The end of one transaction and the beginning of the next
need not agree, since the others act in between.
-/

namespace RefundAgent
namespace Foundation
namespace Program

variable {σ ε α β : Type}

inductive Trace (Fault : ε -> Prop) :
    Program σ ε α -> List (σ × σ) -> Program σ ε α -> Prop
  | nil (p : Program σ ε α) : Trace Fault p [] p
  | cons {p q r : Program σ ε α} {s t : σ} {rest : List (σ × σ)}
      (h : Advance Fault p s q t) (h' : Trace Fault q rest r) :
      Trace Fault p ((s, t) :: rest) r

/-- The program has made these transactions and has ended with this outcome. -/
def Returns (Fault : ε -> Prop) (p : Program σ ε α) (own : List (σ × σ))
    (r : Except ε α) : Prop :=
  Trace Fault p own (done r)

variable {Fault : ε -> Prop}

theorem Trace.snoc {p q r : Program σ ε α} {own : List (σ × σ)} {s t : σ}
    (h : Trace Fault p own q) (hlast : Advance Fault q s r t) :
    Trace Fault p (own ++ [(s, t)]) r := by
  induction h with
  | nil => exact Trace.cons hlast (Trace.nil r)
  | cons hfirst _ ih => exact Trace.cons hfirst (ih hlast)

theorem next_ne : forall (p : Program σ ε α) {γ : Type} (tx : Transaction σ ε γ)
    (next : Except ε γ -> Program σ ε α) (r : Except ε γ), p = call tx next ->
      next r ≠ p := by
  intro p
  induction p with
  | done x =>
      intro γ tx next r hp
      cases hp
  | call tx' next' ih =>
      intro γ tx next r hp hnext
      cases hp
      exact ih r tx' next' r hnext rfl

theorem Advance.ne {p q : Program σ ε α} {s t : σ} (h : Advance Fault p s q t) :
    q ≠ p := by
  cases h with
  | commit htx => exact next_ne _ _ _ _ rfl
  | raise htx => exact next_ne _ _ _ _ rfl
  | fault he => exact next_ne _ _ _ _ rfl

theorem Advance.of_call {tx : Transaction σ ε β} {next : Except ε β -> Program σ ε α}
    {q : Program σ ε α} {s t : σ} (h : Advance Fault (call tx next) s q t) :
    (exists b, tx s = Except.ok (b, t) ∧ q = next (Except.ok b)) ∨
      (t = s ∧ exists e, (Fault e ∨ tx s = Except.error e) ∧
        q = next (Except.error e)) := by
  cases h with
  | commit htx => exact Or.inl ⟨_, htx, rfl⟩
  | raise htx => exact Or.inr ⟨rfl, _, Or.inr htx, rfl⟩
  | fault he => exact Or.inr ⟨rfl, _, Or.inl he, rfl⟩

theorem Advance.of_perform_bind {tx : Transaction σ ε β} {f : β -> Program σ ε α}
    {q : Program σ ε α} {s t : σ} (h : Advance Fault (perform tx >>= f) s q t) :
    (exists b, tx s = Except.ok (b, t) ∧ q = f b) ∨
      (t = s ∧ exists e, (Fault e ∨ tx s = Except.error e) ∧ q = Program.raise e) :=
  Advance.of_call h

theorem require_bind {c : Prop} [Decidable c] {e : ε} {f : Unit -> Program σ ε α} (hc : c) :
    (require c e >>= f) = f () := by
  unfold require
  rw [if_pos hc]
  rfl

theorem require_bind_false {c : Prop} [Decidable c] {e : ε} {f : Unit -> Program σ ε α}
    (hc : ¬c) : (require c e >>= f) = raise e := by
  unfold require
  rw [if_neg hc]
  rfl

theorem Advance.not_done {r : Except ε α} {q : Program σ ε α} {s t : σ} :
    ¬Advance Fault (done r) s q t := by
  intro h
  cases h

namespace Returns

variable {own : List (σ × σ)}

theorem of_done {r r' : Except ε α} (h : Returns Fault (done r) own r') :
    own = [] ∧ r' = r := by
  cases h with
  | nil => exact ⟨rfl, rfl⟩
  | cons hstep _ => cases hstep

theorem of_raise {e : ε} {r : Except ε α}
    (h : Returns Fault (raise e : Program σ ε α) own r) :
    own = [] ∧ r = Except.error e :=
  of_done h

theorem of_pure {a : α} {r : Except ε α}
    (h : Returns Fault (Pure.pure a : Program σ ε α) own r) :
    own = [] ∧ r = Except.ok a :=
  of_done h

theorem of_performed {tx : Transaction σ ε α} {r : Except ε α}
    (h : Returns Fault (perform tx) own r) :
    exists s t, own = [(s, t)] ∧
      ((exists a, tx s = Except.ok (a, t) ∧ r = Except.ok a) ∨
        (t = s ∧ exists e, r = Except.error e ∧ (Fault e ∨ tx s = Except.error e))) := by
  cases h with
  | cons hstep hrest =>
      cases hstep with
      | commit htx =>
          rcases of_done hrest with ⟨rfl, rfl⟩
          exact ⟨_, _, rfl, Or.inl ⟨_, htx, rfl⟩⟩
      | raise htx =>
          rcases of_done hrest with ⟨rfl, rfl⟩
          exact ⟨_, _, rfl, Or.inr ⟨rfl, _, rfl, Or.inr htx⟩⟩
      | fault he =>
          rcases of_done hrest with ⟨rfl, rfl⟩
          exact ⟨_, _, rfl, Or.inr ⟨rfl, _, rfl, Or.inl he⟩⟩

theorem of_perform {tx : Transaction σ ε α} {r : Except ε α}
    (h : Returns Fault (perform tx) own r) :
    exists s t, own = [(s, t)] ∧
      ((exists a, tx s = Except.ok (a, t) ∧ r = Except.ok a) ∨
        (t = s ∧ exists e, r = Except.error e)) := by
  rcases of_performed h with ⟨s, t, hown, hok | ⟨hsame, e, hr, _⟩⟩
  · exact ⟨s, t, hown, Or.inl hok⟩
  · exact ⟨s, t, hown, Or.inr ⟨hsame, e, hr⟩⟩

theorem of_bind {f : β -> Program σ ε α} {r : Except ε α} :
    forall {p : Program σ ε β} {own : List (σ × σ)}, Returns Fault (p >>= f) own r ->
      (exists b first rest, Returns Fault p first (Except.ok b) ∧
        Returns Fault (f b) rest r ∧ own = first ++ rest) ∨
      (exists e, Returns Fault p own (Except.error e) ∧ r = Except.error e) := by
  intro p
  induction p with
  | done x =>
      intro own h
      cases x with
      | ok b => exact Or.inl ⟨b, [], own, Trace.nil _, h, rfl⟩
      | error e =>
          rcases of_done h with ⟨rfl, rfl⟩
          exact Or.inr ⟨e, Trace.nil _, rfl⟩
  | @call γ tx next ih =>
      -- one transaction of the first part, then the rest of the sequence
      have hstep : forall {x : Except ε γ} {s t : σ} {rest : List (σ × σ)},
          Advance Fault (call tx next) s (next x) t ->
          Returns Fault (next x >>= f) rest r ->
          (exists b first more, Returns Fault (call tx next) first (Except.ok b) ∧
            Returns Fault (f b) more r ∧ (s, t) :: rest = first ++ more) ∨
          (exists e, Returns Fault (call tx next) ((s, t) :: rest) (Except.error e) ∧
            r = Except.error e) := by
        intro x s t rest hfirst hrest
        rcases ih x hrest with ⟨b, first, more, hp, hf, rfl⟩ | ⟨e, hp, hr⟩
        · exact Or.inl ⟨b, (s, t) :: first, more, Trace.cons hfirst hp, hf, rfl⟩
        · exact Or.inr ⟨e, Trace.cons hfirst hp, hr⟩
      intro own h
      cases h with
      | cons hfirst hrest =>
          cases hfirst with
          | commit htx => exact hstep (Advance.commit htx) hrest
          | raise htx => exact hstep (Advance.raise htx) hrest
          | fault he => exact hstep (Advance.fault he) hrest

theorem of_rescued {handler : ε -> Option (Program σ ε α)} {r : Except ε α} :
    forall {p : Program σ ε α} {own : List (σ × σ)},
      Returns Fault (p.rescue handler) own r ->
      (Returns Fault p own r ∧ forall e, r = Except.error e -> handler e = none) ∨
      (exists e q first rest, Returns Fault p first (Except.error e) ∧
        handler e = some q ∧ Returns Fault q rest r ∧ own = first ++ rest) := by
  intro p
  induction p with
  | done x =>
      intro own h
      cases x with
      | ok a =>
          refine Or.inl ⟨h, fun e he => ?_⟩
          rw [(of_done h).right] at he
          cases he
      | error e =>
          have h : Returns Fault ((handler e).getD (done (Except.error e))) own r := h
          cases hq : handler e with
          | none =>
              rw [hq] at h
              refine Or.inl ⟨h, fun e' he' => ?_⟩
              rw [(of_done h).right] at he'
              cases he'
              exact hq
          | some q =>
              rw [hq] at h
              exact Or.inr ⟨e, q, [], own, Trace.nil _, hq, h, rfl⟩
  | @call γ tx next ih =>
      have hstep : forall {x : Except ε γ} {s t : σ} {rest : List (σ × σ)},
          Advance Fault (call tx next) s (next x) t ->
          Returns Fault ((next x).rescue handler) rest r ->
          (Returns Fault (call tx next) ((s, t) :: rest) r ∧
            forall e, r = Except.error e -> handler e = none) ∨
          (exists e q first more, Returns Fault (call tx next) first (Except.error e) ∧
            handler e = some q ∧ Returns Fault q more r ∧
            (s, t) :: rest = first ++ more) := by
        intro x s t rest hfirst hrest
        rcases ih x hrest with ⟨hp, hnone⟩ | ⟨e, q, first, more, hp, hq, hmore, rfl⟩
        · exact Or.inl ⟨Trace.cons hfirst hp, hnone⟩
        · exact Or.inr ⟨e, q, (s, t) :: first, more, Trace.cons hfirst hp, hq, hmore, rfl⟩
      intro own h
      cases h with
      | cons hfirst hrest =>
          cases hfirst with
          | commit htx => exact hstep (Advance.commit htx) hrest
          | raise htx => exact hstep (Advance.raise htx) hrest
          | fault he => exact hstep (Advance.fault he) hrest

theorem of_rescue {handler : ε -> Option (Program σ ε α)} {r : Except ε α}
    {p : Program σ ε α} {own : List (σ × σ)} (h : Returns Fault (p.rescue handler) own r) :
    Returns Fault p own r ∨
      (exists e q first rest, Returns Fault p first (Except.error e) ∧
        handler e = some q ∧ Returns Fault q rest r ∧ own = first ++ rest) := by
  rcases h.of_rescued with ⟨hp, _⟩ | hq
  · exact Or.inl hp
  · exact Or.inr hq

theorem of_require {c : Prop} [Decidable c] {e : ε} {f : Unit -> Program σ ε α}
    {r : Except ε α} (h : Returns Fault (require c e >>= f) own r) :
    (c ∧ Returns Fault (f ()) own r) ∨ (own = [] ∧ r = Except.error e) := by
  unfold require at h
  by_cases hc : c
  · rw [if_pos hc] at h
    exact Or.inl ⟨hc, h⟩
  · rw [if_neg hc] at h
    exact Or.inr (of_done h)

section Results

variable {f : β -> Program σ ε α} {a : α}

theorem ok_of_bind {p : Program σ ε β} (h : Returns Fault (p >>= f) own (Except.ok a)) :
    exists b first rest, Returns Fault p first (Except.ok b) ∧
      Returns Fault (f b) rest (Except.ok a) ∧ own = first ++ rest := by
  rcases h.of_bind with hparts | ⟨_, _, he⟩
  · exact hparts
  · cases he

theorem ok_of_require {c : Prop} [Decidable c] {e : ε} {f : Unit -> Program σ ε α}
    (h : Returns Fault (require c e >>= f) own (Except.ok a)) :
    c ∧ Returns Fault (f ()) own (Except.ok a) := by
  rcases h.of_require with hrest | ⟨_, he⟩
  · exact hrest
  · cases he

theorem ok_of_compute {r : Except ε β}
    (h : Returns Fault (done r >>= f) own (Except.ok a)) :
    exists b, r = Except.ok b ∧ Returns Fault (f b) own (Except.ok a) := by
  cases r with
  | ok b => exact ⟨b, rfl, h⟩
  | error e =>
      have hdone := of_done (r := Except.error e) h
      cases hdone.right

theorem ok_of_perform {tx : Transaction σ ε α}
    (h : Returns Fault (perform tx) own (Except.ok a)) :
    exists s t, own = [(s, t)] ∧ tx s = Except.ok (a, t) := by
  rcases h.of_perform with ⟨s, t, hown, ⟨b, htx, hb⟩ | ⟨_, _, he⟩⟩
  · cases hb
    exact ⟨s, t, hown, htx⟩
  · cases he

end Results

end Returns

/-!
## All transactions of a trace
-/

section Everywhere

variable {P : forall {γ : Type}, Transaction σ ε γ -> Prop} {Q : α -> Prop}

theorem Within.trace {p q : Program σ ε α} {own : List (σ × σ)} (h : Within P p Q)
    (htrace : Trace Fault p own q) :
    Within P q Q ∧ forall a, a ∈ own -> a.2 = a.1 ∨
      exists (γ : Type) (tx : Transaction σ ε γ) (c : γ), P tx ∧
        tx a.1 = Except.ok (c, a.2) := by
  induction htrace with
  | nil => exact ⟨h, fun a ha => (by cases ha)⟩
  | cons hstep _ ih =>
      rcases h.advance hstep with ⟨hrest, hfirst⟩
      refine ⟨(ih hrest).left, fun a ha => ?_⟩
      rcases List.mem_cons.mp ha with rfl | ha
      · exact hfirst
      · exact (ih hrest).right a ha

theorem Within.returned {p : Program σ ε α} {own : List (σ × σ)} {a : α}
    (h : Within P p Q) (hreturns : Returns Fault p own (Except.ok a)) : Q a :=
  (h.trace hreturns).left a rfl

end Everywhere

end Program
end Foundation
end RefundAgent
