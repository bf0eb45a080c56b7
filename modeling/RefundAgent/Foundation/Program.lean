import RefundAgent.Foundation.Transaction
import Mathlib.Tactic

/-!
# Programs over a shared state

A program is a sequence of transactions, each chosen from the outcomes of the
ones before.  Other programs may run between two of its transactions, so what
it read may be out of date when it writes.

`Safe` is the rely-guarantee judgement for one program.  The rely says what the
others may do between its transactions, the guarantee what each of its own
transactions must do in return, and the invariant what may be assumed of the
state a transaction starts from.
-/

namespace RefundAgent
namespace Foundation

inductive Program (σ ε α : Type) : Type 1 where
  | done (result : Except ε α)
  | call {β : Type} (tx : Transaction σ ε β) (next : Except ε β -> Program σ ε α)

namespace Program

variable {σ ε α β : Type}

def bind : Program σ ε α -> (α -> Program σ ε β) -> Program σ ε β
  | done (Except.ok a), f => f a
  | done (Except.error e), _ => done (Except.error e)
  | call tx next, f => call tx (fun r => (next r).bind f)

instance : Monad (Program σ ε) where
  pure a := done (Except.ok a)
  bind := bind

def raise (e : ε) : Program σ ε α :=
  done (Except.error e)

/-- A single transaction. -/
def perform (tx : Transaction σ ε α) : Program σ ε α :=
  call tx done

def require (c : Prop) [Decidable c] (e : ε) : Program σ ε Unit :=
  if c then done (Except.ok ()) else raise e

/-- Handle the errors selected by a handler; others pass through. -/
def rescue (p : Program σ ε α) (handler : ε -> Option (Program σ ε α)) :
    Program σ ε α :=
  match p with
  | done (Except.ok a) => done (Except.ok a)
  | done (Except.error e) => (handler e).getD (done (Except.error e))
  | call tx next => call tx (fun r => (next r).rescue handler)

/-- Run a program with nothing else in between. -/
def run : Program σ ε α -> σ -> Except ε α × σ
  | done r, s => (r, s)
  | call tx next, s => (next (tx.commit s).1).run (tx.commit s).2

/-!
## Undisturbed runs
-/

@[simp] theorem run_done (r : Except ε α) (s : σ) : (done r).run s = (r, s) := rfl

@[simp] theorem run_pure (a : α) (s : σ) :
    (Pure.pure a : Program σ ε α).run s = (Except.ok a, s) := rfl

@[simp] theorem run_raise (e : ε) (s : σ) :
    (raise e : Program σ ε α).run s = (Except.error e, s) := rfl

@[simp] theorem run_perform (tx : Transaction σ ε α) (s : σ) :
    (perform tx).run s = tx.commit s := rfl

theorem run_bind_ok {f : β -> Program σ ε α} :
    forall {p : Program σ ε β} {s t : σ} {b : β}, p.run s = (Except.ok b, t) ->
      (p >>= f).run s = (f b).run t := by
  intro p
  induction p with
  | done r =>
      intro s t b h
      cases h
      rfl
  | call tx next ih => exact fun h => ih _ h

theorem run_bind_error {f : β -> Program σ ε α} :
    forall {p : Program σ ε β} {s t : σ} {e : ε}, p.run s = (Except.error e, t) ->
      (p >>= f).run s = (Except.error e, t) := by
  intro p
  induction p with
  | done r =>
      intro s t e h
      cases h
      rfl
  | call tx next ih => exact fun h => ih _ h

theorem run_bind_eq_ok {f : β -> Program σ ε α} {p : Program σ ε β} {s u : σ} {a : α} :
    (p >>= f).run s = (Except.ok a, u) ↔
      exists b t, p.run s = (Except.ok b, t) ∧ (f b).run t = (Except.ok a, u) := by
  constructor
  · intro h
    rcases hp : p.run s with ⟨r, t⟩
    cases r with
    | ok b =>
        rw [run_bind_ok hp] at h
        exact ⟨b, t, rfl, h⟩
    | error e =>
        rw [run_bind_error hp] at h
        cases h
  · intro h
    rcases h with ⟨b, t, hp, hf⟩
    rw [run_bind_ok hp, hf]

theorem run_rescue_ok {handler : ε -> Option (Program σ ε α)} :
    forall {p : Program σ ε α} {s t : σ} {a : α}, p.run s = (Except.ok a, t) ->
      (p.rescue handler).run s = (Except.ok a, t) := by
  intro p
  induction p with
  | done r =>
      intro s t a h
      cases h
      rfl
  | call tx next ih => exact fun h => ih _ h

theorem run_rescue_error {handler : ε -> Option (Program σ ε α)} :
    forall {p : Program σ ε α} {s t : σ} {e : ε}, p.run s = (Except.error e, t) ->
      (p.rescue handler).run s = ((handler e).getD (done (Except.error e))).run t := by
  intro p
  induction p with
  | done r =>
      intro s t e h
      cases h
      rfl
  | call tx next ih => exact fun h => ih _ h

theorem run_rescue_eq_ok {handler : ε -> Option (Program σ ε α)} {p : Program σ ε α}
    {s u : σ} {a : α} (h : (p.rescue handler).run s = (Except.ok a, u)) :
    p.run s = (Except.ok a, u) ∨ exists e t q, p.run s = (Except.error e, t) ∧
      handler e = some q ∧ q.run t = (Except.ok a, u) := by
  rcases hp : p.run s with ⟨r, t⟩
  cases r with
  | ok b =>
      rw [run_rescue_ok hp] at h
      exact Or.inl h
  | error e =>
      rw [run_rescue_error hp] at h
      cases hq : handler e with
      | none =>
          rw [hq] at h
          cases h
      | some q =>
          rw [hq] at h
          exact Or.inr ⟨e, t, q, rfl, hq, h⟩

@[simp] theorem run_require {c : Prop} [Decidable c] {e : ε} {s : σ} :
    (require c e : Program σ ε Unit).run s =
      (if c then Except.ok () else Except.error e, s) := by
  unfold require
  by_cases h : c
  · rw [if_pos h, if_pos h, run_done]
  · rw [if_neg h, if_neg h, run_raise]

theorem run_require_bind {c : Prop} [Decidable c] {e : ε} {f : Unit -> Program σ ε α}
    {s u : σ} {a : α} (h : (require c e >>= f).run s = (Except.ok a, u)) :
    c ∧ (f ()).run s = (Except.ok a, u) := by
  rcases run_bind_eq_ok.mp h with ⟨_, t, hc, hrest⟩
  rw [run_require] at hc
  by_cases hcond : c
  · rw [if_pos hcond] at hc
    cases hc
    exact ⟨hcond, hrest⟩
  · rw [if_neg hcond] at hc
    cases hc

theorem run_done_bind {r : Except ε β} {f : β -> Program σ ε α} {s u : σ} {a : α}
    (h : (done r >>= f).run s = (Except.ok a, u)) :
    exists b, r = Except.ok b ∧ (f b).run s = (Except.ok a, u) := by
  cases r with
  | ok b => exact ⟨b, rfl, h⟩
  | error e => cases h

theorem run_perform_bind {tx : Transaction σ ε β} {f : β -> Program σ ε α} {s u : σ}
    {a : α} (h : (perform tx >>= f).run s = (Except.ok a, u)) :
    exists b t, tx s = Except.ok (b, t) ∧ (f b).run t = (Except.ok a, u) := by
  rcases run_bind_eq_ok.mp h with ⟨b, t, hb, hrest⟩
  rw [run_perform] at hb
  rcases tx.commit_cases s with ⟨b', t', htx, hcommit⟩ | ⟨e, htx, hcommit⟩
  · rw [hcommit] at hb
    cases hb
    exact ⟨b, t, htx, hrest⟩
  · rw [hcommit] at hb
    cases hb

/--
One transaction of a program.  Besides committing or raising, a call may fail
for a reason outside the model, such as a lost connection; such a failure is
reported to the program and leaves the state alone.
-/
inductive Advance (Fault : ε -> Prop) :
    Program σ ε α -> σ -> Program σ ε α -> σ -> Prop where
  | commit {β : Type} {tx : Transaction σ ε β}
      {next : Except ε β -> Program σ ε α} {s t : σ} {b : β}
      (h : tx s = Except.ok (b, t)) :
      Advance Fault (call tx next) s (next (Except.ok b)) t
  | raise {β : Type} {tx : Transaction σ ε β}
      {next : Except ε β -> Program σ ε α} {s : σ} {e : ε}
      (h : tx s = Except.error e) :
      Advance Fault (call tx next) s (next (Except.error e)) s
  | fault {β : Type} {tx : Transaction σ ε β}
      {next : Except ε β -> Program σ ε α} {s : σ} {e : ε} (h : Fault e) :
      Advance Fault (call tx next) s (next (Except.error e)) s

section Judgement

variable (Inv : σ -> Prop) (Rely Guarantee : σ -> σ -> Prop) (Fault : ε -> Prop)

def Safe : Program σ ε α -> σ -> (Except ε α -> σ -> Prop) -> Prop
  | done r, s, Q => forall t, Rely s t -> Inv t -> Q r t
  | call tx next, s, Q => forall t, Rely s t -> Inv t ->
      (forall e, Fault e ∨ tx t = Except.error e ->
        Safe (next (Except.error e)) t Q) ∧
      (forall b u, tx t = Except.ok (b, u) ->
        Guarantee t u ∧ Safe (next (Except.ok b)) u Q)

variable {Inv Rely Guarantee Fault}
variable {Q Q' : Except ε α -> σ -> Prop}

theorem Safe.later (htrans : forall {s t u}, Rely s t -> Rely t u -> Rely s u)
    {p : Program σ ε α} {s t : σ} (h : Safe Inv Rely Guarantee Fault p s Q)
    (hst : Rely s t) : Safe Inv Rely Guarantee Fault p t Q := by
  cases p with
  | done r => exact fun u htu => h u (htrans hst htu)
  | call tx next => exact fun u htu => h u (htrans hst htu)

theorem Safe.of_later (hrefl : forall s, Rely s s) {p : Program σ ε α} {s : σ}
    (h : forall t, Rely s t -> Inv t -> Safe Inv Rely Guarantee Fault p t Q) :
    Safe Inv Rely Guarantee Fault p s Q := by
  cases p with
  | done r => exact fun t hst ht => h t hst ht t (hrefl t) ht
  | call tx next => exact fun t hst ht => h t hst ht t (hrefl t) ht

theorem Safe.mono (hQ : forall r t, Q r t -> Q' r t) :
    forall {p : Program σ ε α} {s : σ}, Safe Inv Rely Guarantee Fault p s Q ->
      Safe Inv Rely Guarantee Fault p s Q' := by
  intro p
  induction p with
  | done r => exact fun h t hst ht => hQ r t (h t hst ht)
  | call tx next ih =>
      intro s h t hst ht
      have hcall := h t hst ht
      refine ⟨fun e he => ih _ (hcall.left e he), ?_⟩
      intro b u hu
      exact ⟨(hcall.right b u hu).left, ih _ (hcall.right b u hu).right⟩

theorem Safe.bind (hrefl : forall s, Rely s s)
    {P : Except ε β -> σ -> Prop} {f : β -> Program σ ε α}
    (herr : forall e t, P (Except.error e) t -> Q (Except.error e) t)
    (hok : forall b t, Inv t -> P (Except.ok b) t ->
      Safe Inv Rely Guarantee Fault (f b) t Q) :
    forall {p : Program σ ε β} {s : σ}, Safe Inv Rely Guarantee Fault p s P ->
      Safe Inv Rely Guarantee Fault (p >>= f) s Q := by
  intro p
  induction p with
  | done r =>
      intro s h
      cases r with
      | ok b => exact Safe.of_later hrefl fun t hst ht => hok b t ht (h t hst ht)
      | error e => exact fun t hst ht => herr e t (h t hst ht)
  | call tx next ih =>
      intro s h t hst ht
      have hcall := h t hst ht
      refine ⟨fun e he => ih _ (hcall.left e he), ?_⟩
      intro b u hu
      exact ⟨(hcall.right b u hu).left, ih _ (hcall.right b u hu).right⟩

theorem Safe.rescue (hrefl : forall s, Rely s s)
    {P : Except ε α -> σ -> Prop} {handler : ε -> Option (Program σ ε α)}
    (hpass : forall r t, P r t -> Q r t)
    (hcatch : forall e q t, handler e = some q -> Inv t -> P (Except.error e) t ->
      Safe Inv Rely Guarantee Fault q t Q) :
    forall {p : Program σ ε α} {s : σ}, Safe Inv Rely Guarantee Fault p s P ->
      Safe Inv Rely Guarantee Fault (p.rescue handler) s Q := by
  intro p
  induction p with
  | done r =>
      intro s h
      cases r with
      | ok a => exact fun t hst ht => hpass _ t (h t hst ht)
      | error e =>
          show Safe Inv Rely Guarantee Fault
            ((handler e).getD (done (Except.error e))) s Q
          cases hq : handler e with
          | none => exact fun t hst ht => hpass _ t (h t hst ht)
          | some q =>
              exact Safe.of_later hrefl fun t hst ht =>
                hcatch e q t hq ht (h t hst ht)
  | call tx next ih =>
      intro s h t hst ht
      have hcall := h t hst ht
      refine ⟨fun e he => ih _ (hcall.left e he), ?_⟩
      intro b u hu
      exact ⟨(hcall.right b u hu).left, ih _ (hcall.right b u hu).right⟩

theorem Safe.perform {tx : Transaction σ ε α} {s : σ}
    (hstable : forall r t u, Rely t u -> Q r t -> Q r u)
    (hstep : forall t, Rely s t -> Inv t ->
      (forall e, Q (Except.error e) t) ∧
      forall a u, tx t = Except.ok (a, u) -> Guarantee t u ∧ Q (Except.ok a) u) :
    Safe Inv Rely Guarantee Fault (perform tx) s Q := by
  intro t hst ht
  have h := hstep t hst ht
  refine ⟨fun e _ u htu _ => hstable _ t u htu (h.left e), ?_⟩
  intro a u hu
  refine ⟨(h.right a u hu).left, ?_⟩
  exact fun v huv _ => hstable _ u v huv (h.right a u hu).right

theorem Safe.pure {a : α} {s : σ}
    (h : forall t, Rely s t -> Inv t -> Q (Except.ok a) t) :
    Safe Inv Rely Guarantee Fault (Pure.pure a : Program σ ε α) s Q :=
  h

theorem Safe.raise {e : ε} {s : σ}
    (h : forall t, Rely s t -> Inv t -> Q (Except.error e) t) :
    Safe Inv Rely Guarantee Fault (raise e : Program σ ε α) s Q :=
  h

theorem Safe.since (htrans : forall {s t u}, Rely s t -> Rely t u -> Rely s u)
    (hguarantee : forall {s t}, Guarantee s t -> Rely s t) :
    forall {p : Program σ ε α} {s : σ}, Safe Inv Rely Guarantee Fault p s Q ->
      Safe Inv Rely Guarantee Fault p s (fun r t => Rely s t ∧ Q r t) := by
  intro p
  induction p with
  | done r => exact fun h t hst ht => ⟨hst, h t hst ht⟩
  | call tx next ih =>
      intro s h t hst ht
      have hcall := h t hst ht
      refine ⟨fun e he => ?_, fun b u hu => ⟨(hcall.right b u hu).left, ?_⟩⟩
      · exact (ih _ (hcall.left e he)).mono fun r v hv =>
          ⟨htrans hst hv.left, hv.right⟩
      · have hsu := htrans hst (hguarantee (hcall.right b u hu).left)
        exact (ih _ (hcall.right b u hu).right).mono fun r v hv =>
          ⟨htrans hsu hv.left, hv.right⟩

theorem Safe.advance (hrefl : forall s, Rely s s) {p q : Program σ ε α} {s t : σ}
    (h : Safe Inv Rely Guarantee Fault p s Q) (hs : Inv s)
    (hstep : Advance Fault p s q t) :
    (t = s ∨ Guarantee s t) ∧ Safe Inv Rely Guarantee Fault q t Q := by
  cases hstep with
  | commit htx =>
      have hcall := (h s (hrefl s) hs).right _ _ htx
      exact ⟨Or.inr hcall.left, hcall.right⟩
  | raise htx => exact ⟨Or.inl rfl, (h s (hrefl s) hs).left _ (Or.inr htx)⟩
  | fault he => exact ⟨Or.inl rfl, (h s (hrefl s) hs).left _ (Or.inl he)⟩

theorem Safe.of_bind_run (hrefl : forall s, Rely s s)
    (hinv : forall {s t}, Inv s -> Guarantee s t -> Inv t) {f : β -> Program σ ε α}
    {t : σ} {b : β} : forall {p : Program σ ε β} {s : σ},
      Safe Inv Rely Guarantee Fault (p >>= f) s Q -> Inv s ->
      p.run s = (Except.ok b, t) -> Safe Inv Rely Guarantee Fault (f b) t Q ∧ Inv t := by
  intro p
  induction p with
  | done r =>
      intro s h hs hrun
      cases hrun
      exact ⟨h, hs⟩
  | call tx next ih =>
      intro s h hs hrun
      have hcall := h s (hrefl s) hs
      rw [Program.run] at hrun
      rcases tx.commit_cases s with ⟨c, u, htx, hcommit⟩ | ⟨e, htx, hcommit⟩
      · rw [hcommit] at hrun
        have hok := hcall.right c u htx
        exact ih _ hok.right (hinv hs hok.left) hrun
      · rw [hcommit] at hrun
        exact ih _ (hcall.left e (Or.inr htx)) hs hrun

theorem Safe.run (hrefl : forall s, Rely s s)
    (hinv : forall {s t}, Inv s -> Guarantee s t -> Inv t) :
    forall {p : Program σ ε α} {s : σ}, Safe Inv Rely Guarantee Fault p s Q -> Inv s ->
      Inv (p.run s).2 ∧ Q (p.run s).1 (p.run s).2 := by
  intro p
  induction p with
  | done r => exact fun h hs => ⟨hs, h _ (hrefl _) hs⟩
  | call tx next ih =>
      intro s h hs
      have hcall := h s (hrefl s) hs
      rw [Program.run]
      rcases tx.commit_cases s with ⟨b, t, htx, hcommit⟩ | ⟨e, htx, hcommit⟩
      · rw [hcommit]
        have hok := hcall.right b t htx
        exact ih _ hok.right (hinv hs hok.left)
      · rw [hcommit]
        exact ih _ (hcall.left e (Or.inr htx)) hs

end Judgement

/-!
## All transactions of a program

`Within` says something about every transaction that a program could ever come
to, whatever its transactions return, and about every value it could return.
-/

section Everywhere

variable {P : forall {γ : Type}, Transaction σ ε γ -> Prop}

def Within (P : forall {γ : Type}, Transaction σ ε γ -> Prop) :
    Program σ ε α -> (α -> Prop) -> Prop
  | done r, Q => forall a, r = Except.ok a -> Q a
  | call tx next, Q => P tx ∧ forall r, Within P (next r) Q

namespace Within

variable {Q Q' : α -> Prop} {R : β -> Prop}

theorem pure {a : α} (h : Q a) : Within P (Pure.pure a : Program σ ε α) Q := by
  intro b hb
  cases hb
  exact h

theorem raise (e : ε) : Within P (raise e : Program σ ε α) Q := by
  intro b hb
  cases hb

theorem unrestricted :
    forall p : Program σ ε α, Within (fun {_ : Type} _ => True) p (fun _ => True)
  | done _ => fun _ _ => trivial
  | call _ next => ⟨trivial, fun r => unrestricted (next r)⟩

theorem perform {tx : Transaction σ ε α} (h : P tx) :
    Within P (perform tx) (fun _ => True) :=
  ⟨h, fun _ _ _ => trivial⟩

theorem require {c : Prop} [Decidable c] {e : ε} :
    Within P (require c e : Program σ ε Unit) (fun _ => c) := by
  unfold Program.require
  by_cases hc : c
  · rw [if_pos hc]
    exact fun _ _ => hc
  · rw [if_neg hc]
    exact raise e

theorem mono (hQ : forall a, Q a -> Q' a) :
    forall {p : Program σ ε α}, Within P p Q -> Within P p Q' := by
  intro p
  induction p with
  | done r => exact fun h a ha => hQ a (h a ha)
  | call tx next ih => exact fun h => ⟨h.left, fun r => ih r (h.right r)⟩

theorem weaken {P' : forall {γ : Type}, Transaction σ ε γ -> Prop}
    (hP : forall {γ : Type} (tx : Transaction σ ε γ), P tx -> P' tx) :
    forall {p : Program σ ε α}, Within P p Q -> Within P' p Q := by
  intro p
  induction p with
  | done r => exact fun h => h
  | call tx next ih => exact fun h => ⟨hP tx h.left, fun r => ih r (h.right r)⟩

theorem bind {f : α -> Program σ ε β} (hf : forall a, Q a -> Within P (f a) R) :
    forall {p : Program σ ε α}, Within P p Q -> Within P (p >>= f) R := by
  intro p
  induction p with
  | done r =>
      intro h
      cases r with
      | ok a => exact hf a (h a rfl)
      | error e => exact raise e
  | call tx next ih => exact fun h => ⟨h.left, fun r => ih r (h.right r)⟩

theorem rescue {handler : ε -> Option (Program σ ε α)}
    (hcatch : forall e q, handler e = some q -> Within P q Q) :
    forall {p : Program σ ε α}, Within P p Q -> Within P (p.rescue handler) Q := by
  intro p
  induction p with
  | done r =>
      intro h
      cases r with
      | ok a => exact h
      | error e =>
          show Within P ((handler e).getD (done (Except.error e))) Q
          cases hq : handler e with
          | none => exact raise e
          | some q => exact hcatch e q hq
  | call tx next ih => exact fun h => ⟨h.left, fun r => ih r (h.right r)⟩

theorem ite {c : Prop} [Decidable c] {p q : Program σ ε α} (hp : c -> Within P p Q)
    (hq : ¬c -> Within P q Q) : Within P (if c then p else q) Q := by
  by_cases hc : c
  · rw [if_pos hc]
    exact hp hc
  · rw [if_neg hc]
    exact hq hc

theorem and : forall {p : Program σ ε α}, Within P p Q ->
    Within (fun {_ : Type} _ => True) p Q' -> Within P p (fun a => Q a ∧ Q' a) := by
  intro p
  induction p with
  | done r => exact fun h h' a ha => ⟨h a ha, h' a ha⟩
  | call tx next ih => exact fun h h' => ⟨h.left, fun r => ih r (h.right r) (h'.right r)⟩

theorem bind_congr {f g : α -> Program σ ε β} (hfg : forall a, Q a -> f a = g a) :
    forall {p : Program σ ε α}, Within P p Q -> p >>= f = p >>= g := by
  intro p
  induction p with
  | done r =>
      intro h
      cases r with
      | ok a => exact hfg a (h a rfl)
      | error e => rfl
  | call tx next ih =>
      intro h
      exact congrArg (call tx) (funext fun r => ih r (h.right r))

theorem advance {Fault : ε -> Prop} {p q : Program σ ε α} {s t : σ}
    (h : Within P p Q) (hstep : Advance Fault p s q t) :
    Within P q Q ∧ (t = s ∨ exists (γ : Type) (tx : Transaction σ ε γ) (c : γ),
      P tx ∧ tx s = Except.ok (c, t)) := by
  cases hstep with
  | @commit γ tx next _ _ c htx => exact ⟨h.right _, Or.inr ⟨γ, tx, c, h.left, htx⟩⟩
  | raise htx => exact ⟨h.right _, Or.inl rfl⟩
  | fault he => exact ⟨h.right _, Or.inl rfl⟩

end Within

end Everywhere

section Answers

/--
From the given state on, and whatever the others do in between, the program
returns the given outcome and none of its transactions changes the state.
-/
def Answers (Rely : σ -> σ -> Prop) (p : Program σ ε α) (s : σ) (r : Except ε α) :
    Prop :=
  Safe (fun _ => True) Rely (fun t u => u = t) (fun _ => False) p s
    (fun outcome _ => outcome = r)

end Answers

end Program

end Foundation
end RefundAgent
