import Mathlib.Tactic

/-!
# Transactions

A transaction reads and rewrites a state and either commits with a value or
raises.  A raised error carries no state: whatever the transaction had written
before is lost, which is how a relational database rolls back.

The lemmas named `_eq_ok` say what a committed transaction must have done.
They peel a composed transaction into the facts its steps checked, so proofs
about a transaction never unfold the monad.
-/

namespace RefundAgent
namespace Foundation

def Transaction (σ ε α : Type) : Type :=
  σ -> Except ε (α × σ)

namespace Transaction

variable {σ ε α β γ : Type}

instance : Monad (Transaction σ ε) where
  pure a := fun s => Except.ok (a, s)
  bind x f := fun s =>
    match x s with
    | Except.ok (a, t) => f a t
    | Except.error e => Except.error e

def raise (e : ε) : Transaction σ ε α :=
  fun _ => Except.error e

/-- Continue only when a condition holds. -/
def require (c : Prop) [Decidable c] (e : ε) : Transaction σ ε Unit :=
  if c then pure () else raise e

def read (f : σ -> α) : Transaction σ ε α :=
  fun s => Except.ok (f s, s)

def write (f : σ -> σ) : Transaction σ ε Unit :=
  fun s => Except.ok ((), f s)

/-- Read a row that may be missing. -/
def fetch (f : σ -> Option α) (e : ε) : Transaction σ ε α :=
  fun s =>
    match f s with
    | some a => Except.ok (a, s)
    | none => Except.error e

/-- A statement that may be refused. -/
def execute (f : σ -> Except ε σ) : Transaction σ ε Unit :=
  fun s =>
    match f s with
    | Except.ok t => Except.ok ((), t)
    | Except.error e => Except.error e

/-- Rename the errors a transaction raises. -/
def translate (g : ε -> ε) (x : Transaction σ ε α) : Transaction σ ε α :=
  fun s =>
    match x s with
    | Except.ok r => Except.ok r
    | Except.error e => Except.error (g e)

/-- Run a transaction for every element of a list and collect the values. -/
def forEach : List β -> (β -> Transaction σ ε γ) -> Transaction σ ε (List γ)
  | [], _ => pure []
  | b :: rest, f => do
      let c ← f b
      let cs ← forEach rest f
      pure (c :: cs)

/-- The outcome a caller sees, with the state left behind. -/
def commit (x : Transaction σ ε α) (s : σ) : Except ε α × σ :=
  match x s with
  | Except.ok (a, t) => (Except.ok a, t)
  | Except.error e => (Except.error e, s)

/-!
## Inversion
-/

@[simp] theorem pure_eq_ok {a : α} {s : σ} {r : α × σ} :
    (pure a : Transaction σ ε α) s = Except.ok r ↔ (a, s) = r := by
  show Except.ok (a, s) = Except.ok r ↔ _
  simp

@[simp] theorem bind_eq_ok {x : Transaction σ ε α} {f : α -> Transaction σ ε β}
    {s : σ} {r : β × σ} :
    (x >>= f) s = Except.ok r ↔
      exists a t, x s = Except.ok (a, t) ∧ f a t = Except.ok r := by
  show (match x s with
    | Except.ok (a, t) => f a t
    | Except.error e => Except.error e) = Except.ok r ↔ _
  cases x s with
  | error e => simp
  | ok p =>
      rcases p with ⟨a, t⟩
      simp

@[simp] theorem map_eq_ok {x : Transaction σ ε α} {f : α -> β} {s : σ}
    {r : β × σ} :
    (f <$> x) s = Except.ok r ↔
      exists a t, x s = Except.ok (a, t) ∧ (f a, t) = r := by
  show (x >>= fun a => pure (f a)) s = Except.ok r ↔ _
  simp only [bind_eq_ok, pure_eq_ok]

@[simp] theorem raise_eq_ok {e : ε} {s : σ} {r : α × σ} :
    (raise e : Transaction σ ε α) s = Except.ok r ↔ False := by
  simp [raise]

@[simp] theorem require_eq_ok {c : Prop} [Decidable c] {e : ε} {s : σ}
    {r : Unit × σ} :
    (require c e : Transaction σ ε Unit) s = Except.ok r ↔
      c ∧ ((), s) = r := by
  unfold require
  by_cases hc : c
  · simp [hc]
  · simp [hc]

@[simp] theorem read_eq_ok {f : σ -> α} {s : σ} {r : α × σ} :
    (read f : Transaction σ ε α) s = Except.ok r ↔ (f s, s) = r := by
  simp [read]

@[simp] theorem write_eq_ok {f : σ -> σ} {s : σ} {r : Unit × σ} :
    (write f : Transaction σ ε Unit) s = Except.ok r ↔ ((), f s) = r := by
  simp [write]

@[simp] theorem fetch_eq_ok {f : σ -> Option α} {e : ε} {s : σ} {r : α × σ} :
    (fetch f e : Transaction σ ε α) s = Except.ok r ↔
      f s = some r.1 ∧ s = r.2 := by
  unfold fetch
  cases f s with
  | none => simp
  | some a => simp [Prod.ext_iff]

@[simp] theorem execute_eq_ok {f : σ -> Except ε σ} {s : σ} {r : Unit × σ} :
    (execute f : Transaction σ ε Unit) s = Except.ok r ↔
      f s = Except.ok r.2 := by
  unfold execute
  cases f s with
  | error e => simp
  | ok t => simp [Prod.ext_iff]

@[simp] theorem translate_eq_ok {g : ε -> ε} {x : Transaction σ ε α} {s : σ}
    {r : α × σ} :
    translate g x s = Except.ok r ↔ x s = Except.ok r := by
  unfold translate
  cases x s with
  | error e => simp
  | ok p => simp

@[simp] theorem ite_eq_ok {c : Prop} [Decidable c] {x y : Transaction σ ε α}
    {s : σ} {r : α × σ} :
    (if c then x else y) s = Except.ok r ↔
      (c ∧ x s = Except.ok r) ∨ (¬c ∧ y s = Except.ok r) := by
  by_cases hc : c
  · simp [hc]
  · simp [hc]

theorem commit_ok {x : Transaction σ ε α} {s t : σ} {a : α}
    (h : x s = Except.ok (a, t)) : commit x s = (Except.ok a, t) := by
  unfold commit
  rw [h]

theorem commit_error {x : Transaction σ ε α} {s : σ} {e : ε}
    (h : x s = Except.error e) : commit x s = (Except.error e, s) := by
  unfold commit
  rw [h]

theorem commit_cases (x : Transaction σ ε α) (s : σ) :
    (exists a t, x s = Except.ok (a, t) ∧ commit x s = (Except.ok a, t)) ∨
      (exists e, x s = Except.error e ∧ commit x s = (Except.error e, s)) := by
  cases h : x s with
  | error e => exact Or.inr ⟨e, rfl, commit_error h⟩
  | ok p => exact Or.inl ⟨p.1, p.2, rfl, commit_ok h⟩

/-!
## Evaluation

The same facts read forwards, for showing that a transaction does commit.
-/

theorem bind_ok {x : Transaction σ ε α} {f : α -> Transaction σ ε β} {s t : σ}
    {a : α} (h : x s = Except.ok (a, t)) : (x >>= f) s = f a t := by
  show (match x s with
    | Except.ok (a, t) => f a t
    | Except.error e => Except.error e) = _
  rw [h]

theorem require_ok {c : Prop} [Decidable c] {e : ε} {s : σ} (h : c) :
    (require c e : Transaction σ ε Unit) s = Except.ok ((), s) :=
  require_eq_ok.mpr ⟨h, rfl⟩

theorem fetch_ok {f : σ -> Option α} {e : ε} {s : σ} {a : α}
    (h : f s = some a) :
    (fetch f e : Transaction σ ε α) s = Except.ok (a, s) :=
  fetch_eq_ok.mpr ⟨h, rfl⟩

/-!
## Errors

Which errors a transaction cannot raise, whatever the state it starts from.
-/

def Avoids (e : ε) (x : Transaction σ ε α) : Prop :=
  forall s, x s ≠ Except.error e

theorem bind_eq_error {x : Transaction σ ε α} {f : α -> Transaction σ ε β} {s : σ}
    {e : ε} : (x >>= f) s = Except.error e ↔
      x s = Except.error e ∨ exists a t, x s = Except.ok (a, t) ∧
        f a t = Except.error e := by
  show (match x s with
    | Except.ok (a, t) => f a t
    | Except.error e => Except.error e) = Except.error e ↔ _
  cases x s with
  | error e' => simp
  | ok p =>
      rcases p with ⟨a, t⟩
      simp

theorem require_eq_error {c : Prop} [Decidable c] {e e' : ε} {s : σ} :
    (require c e : Transaction σ ε Unit) s = Except.error e' ↔ ¬c ∧ e = e' := by
  unfold require
  by_cases hc : c
  · rw [if_pos hc]
    show Except.ok ((), s) = Except.error e' ↔ _
    simp [hc]
  · rw [if_neg hc]
    simp [raise, hc]

theorem fetch_eq_error {f : σ -> Option α} {e e' : ε} {s : σ} :
    (fetch f e : Transaction σ ε α) s = Except.error e' ↔ f s = none ∧ e = e' := by
  unfold fetch
  cases f s with
  | none => simp
  | some a => simp

theorem translate_eq_error {g : ε -> ε} {x : Transaction σ ε α} {s : σ} {e : ε} :
    translate g x s = Except.error e ↔ exists e', x s = Except.error e' ∧ g e' = e := by
  unfold translate
  cases x s with
  | error e' => simp
  | ok p => simp

theorem require_bind_error {c : Prop} [Decidable c] {e e' : ε}
    {f : Unit -> Transaction σ ε β} {s : σ}
    (h : (require c e >>= f) s = Except.error e') :
    e = e' ∨ (c ∧ f () s = Except.error e') := by
  rcases bind_eq_error.mp h with hfail | ⟨_, t, hok, hrest⟩
  · exact Or.inl (require_eq_error.mp hfail).right
  · rw [require_eq_ok] at hok
    rcases hok with ⟨hc, hsame⟩
    cases hsame
    exact Or.inr ⟨hc, hrest⟩

theorem fetch_bind_error {g : σ -> Option α} {e e' : ε} {f : α -> Transaction σ ε β}
    {s : σ} (h : (fetch g e >>= f) s = Except.error e') :
    e = e' ∨ exists a, g s = some a ∧ f a s = Except.error e' := by
  rcases bind_eq_error.mp h with hfail | ⟨a, t, hok, hrest⟩
  · exact Or.inl (fetch_eq_error.mp hfail).right
  · rw [fetch_eq_ok] at hok
    rcases hok with ⟨ha, hsame⟩
    cases hsame
    exact Or.inr ⟨a, ha, hrest⟩

namespace Avoids

variable {e : ε} {x : Transaction σ ε α}

theorem pure (a : α) : Avoids e (Pure.pure a : Transaction σ ε α) := by
  intro s h
  cases h

theorem raise {e' : ε} (h : e' ≠ e) : Avoids e (raise e' : Transaction σ ε α) := by
  intro s herror
  exact h (Except.error.inj herror)

theorem require {c : Prop} [Decidable c] {e' : ε} (h : e' ≠ e) :
    Avoids e (require c e' : Transaction σ ε Unit) := by
  intro s herror
  exact h (require_eq_error.mp herror).right

theorem read (f : σ -> α) : Avoids e (read f : Transaction σ ε α) := by
  intro s h
  cases h

theorem write (f : σ -> σ) : Avoids e (write f : Transaction σ ε Unit) := by
  intro s h
  cases h

theorem fetch {f : σ -> Option α} {e' : ε} (h : e' ≠ e) :
    Avoids e (fetch f e' : Transaction σ ε α) := by
  intro s herror
  exact h (fetch_eq_error.mp herror).right

theorem bind {f : α -> Transaction σ ε β} (hx : Avoids e x)
    (hf : forall a, Avoids e (f a)) : Avoids e (x >>= f) := by
  intro s herror
  rcases bind_eq_error.mp herror with h | ⟨a, t, _, h⟩
  · exact hx s h
  · exact hf a t h

theorem ite {c : Prop} [Decidable c] {y : Transaction σ ε α} (hx : Avoids e x)
    (hy : Avoids e y) : Avoids e (if c then x else y) := by
  by_cases hc : c
  · rw [if_pos hc]
    exact hx
  · rw [if_neg hc]
    exact hy

end Avoids

/-!
## Relations between the states

A reflexive and transitive relation that every statement keeps is kept by the
whole transaction.
-/

/-- A committed run leads to a related state. -/
def Keeps (R : σ -> σ -> Prop) (x : Transaction σ ε α) : Prop :=
  forall s a t, x s = Except.ok (a, t) -> R s t

namespace Keeps

variable {R : σ -> σ -> Prop} {x : Transaction σ ε α}

theorem raise (e : ε) : Keeps R (raise e : Transaction σ ε α) := by
  intro s a t h
  cases h

theorem pure (hrefl : forall s, R s s) (a : α) :
    Keeps R (Pure.pure a : Transaction σ ε α) := by
  intro s b t h
  cases h
  exact hrefl s

theorem require (hrefl : forall s, R s s) (c : Prop) [Decidable c] (e : ε) :
    Keeps R (require c e : Transaction σ ε Unit) := by
  intro s b t h
  rw [require_eq_ok] at h
  cases h.right
  exact hrefl s

theorem read (hrefl : forall s, R s s) (f : σ -> α) :
    Keeps R (read f : Transaction σ ε α) := by
  intro s b t h
  cases h
  exact hrefl s

theorem fetch (hrefl : forall s, R s s) (f : σ -> Option α) (e : ε) :
    Keeps R (fetch f e : Transaction σ ε α) := by
  intro s b t h
  rw [fetch_eq_ok] at h
  have hs : s = t := h.right
  rw [← hs]
  exact hrefl s

theorem bind (htrans : forall s t u, R s t -> R t u -> R s u)
    {f : α -> Transaction σ ε β} (hx : Keeps R x) (hf : forall a, Keeps R (f a)) :
    Keeps R (x >>= f) := by
  intro s b u h
  rcases bind_eq_ok.mp h with ⟨a, t, ha, hb⟩
  exact htrans s t u (hx s a t ha) (hf a t b u hb)

theorem translate (g : ε -> ε) (hx : Keeps R x) : Keeps R (translate g x) := by
  intro s a t h
  rw [translate_eq_ok] at h
  exact hx s a t h

theorem ite {c : Prop} [Decidable c] {y : Transaction σ ε α} (hx : Keeps R x)
    (hy : Keeps R y) : Keeps R (if c then x else y) := by
  by_cases hc : c
  · rw [if_pos hc]
    exact hx
  · rw [if_neg hc]
    exact hy

theorem forEach (hrefl : forall s, R s s)
    (htrans : forall s t u, R s t -> R t u -> R s u)
    {f : β -> Transaction σ ε γ} (hf : forall b, Keeps R (f b)) :
    forall items : List β, Keeps R (forEach items f) := by
  intro items
  induction items with
  | nil => exact Keeps.pure hrefl []
  | cons b rest ih =>
      exact bind htrans (hf b) fun c => bind htrans ih fun cs =>
        Keeps.pure hrefl (c :: cs)

end Keeps

/-!
## Loops

The rule for a loop whose bodies each rely on a fact about their own element.
The fact has to survive the bodies of the other elements; what the bodies
achieve has to compose, and a fact about a collected value has to survive
whatever runs after it.
-/

theorem forEach_relates {R : σ -> σ -> Prop} {P : β -> σ -> Prop}
    {Q : γ -> σ -> Prop} {D : β -> β -> Prop}
    (hrefl : forall s, R s s)
    (htrans : forall {s t u}, R s t -> R t u -> R s u)
    (hstable : forall {c s t}, R s t -> Q c s -> Q c t)
    {f : β -> Transaction σ ε γ}
    (hbody : forall {b s c t}, P b s -> f b s = Except.ok (c, t) ->
      R s t ∧ Q c t ∧ forall d, D b d -> P d s -> P d t) :
    forall {items : List β} {s t : σ} {cs : List γ},
      items.Pairwise D -> (forall b, b ∈ items -> P b s) ->
      forEach items f s = Except.ok (cs, t) ->
      R s t ∧ forall c, c ∈ cs -> Q c t := by
  intro items
  induction items with
  | nil =>
      intro s t cs _ _ h
      simp only [forEach, pure_eq_ok, Prod.mk.injEq] at h
      rw [← h.left, ← h.right]
      exact ⟨hrefl s, by simp⟩
  | cons b rest ih =>
      intro s t cs hdistinct hready h
      simp only [forEach, bind_eq_ok, pure_eq_ok, Prod.mk.injEq] at h
      rcases h with ⟨c, u, hb, ds, v, hrest, hcs, hv⟩
      have hfirst := hbody (hready b List.mem_cons_self) hb
      rw [List.pairwise_cons] at hdistinct
      have hready' : forall d, d ∈ rest -> P d u := by
        intro d hd
        exact hfirst.right.right d (hdistinct.left d hd)
          (hready d (List.mem_cons_of_mem b hd))
      have hlater := ih hdistinct.right hready' hrest
      rw [← hv, ← hcs]
      refine ⟨htrans hfirst.left hlater.left, ?_⟩
      intro e he
      rcases List.mem_cons.mp he with rfl | he
      · exact hstable hlater.left hfirst.right.left
      · exact hlater.right e he

theorem forEach_avoids {P : β -> σ -> Prop} {D : β -> β -> Prop} {e : ε}
    {f : β -> Transaction σ ε γ}
    (hbody : forall {b s}, P b s -> f b s ≠ Except.error e)
    (hkeep : forall {b s c t}, P b s -> f b s = Except.ok (c, t) ->
      forall d, D b d -> P d s -> P d t) :
    forall {items : List β} {s : σ}, items.Pairwise D ->
      (forall b, b ∈ items -> P b s) -> forEach items f s ≠ Except.error e := by
  intro items
  induction items with
  | nil =>
      intro s _ _ h
      cases h
  | cons b rest ih =>
      intro s hdistinct hready h
      rw [List.pairwise_cons] at hdistinct
      have hb := hready b List.mem_cons_self
      rcases bind_eq_error.mp h with h | ⟨c, t, hc, h⟩
      · exact hbody hb h
      · rcases bind_eq_error.mp h with h | ⟨cs, u, _, h⟩
        · refine ih hdistinct.right ?_ h
          intro d hd
          exact hkeep hb hc d (hdistinct.left d hd) (hready d (List.mem_cons_of_mem b hd))
        · cases h

end Transaction

end Foundation
end RefundAgent
