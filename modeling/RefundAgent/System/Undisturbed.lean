import RefundAgent.System.CaseCalls

/-!
# Undisturbed runs

Runs of a call with nothing else between its transactions, and the two kinds of
call of which nothing remains: those that only draw identifiers, and those that
fail.
-/

namespace RefundAgent

open Foundation

/-!
## Runs that write nothing
-/

/-- The same tables; at most identifiers have been drawn. -/
structure SameTables (db db' : Database) : Prop where
  operations : db'.operations = db.operations
  cases : db'.cases = db.cases
  outbox : db'.outbox = db.outbox
  inbox : db'.inbox = db.inbox
  refunds : db'.refunds = db.refunds
  ids : db.ids.Extends db'.ids

theorem SameTables.refl (db : Database) : SameTables db db :=
  ⟨rfl, rfl, rfl, rfl, rfl, db.ids.extends_refl⟩

theorem SameTables.trans {a b c : Database} (h : SameTables a b) (h' : SameTables b c) :
    SameTables a c where
  operations := h'.operations.trans h.operations
  cases := h'.cases.trans h.cases
  outbox := h'.outbox.trans h.outbox
  inbox := h'.inbox.trans h.inbox
  refunds := h'.refunds.trans h.refunds
  ids := h.ids.trans h'.ids

section Runs

variable {α β : Type}

/-- However it ends, the call has written nothing. -/
def Quiet (p : Call α) : Prop :=
  forall db, SameTables db (p.run db).2

/-- A call that fails has written nothing. -/
def Unwritten (p : Call α) : Prop :=
  forall db e db', p.run db = (Except.error e, db') -> SameTables db db'

theorem Quiet.done (r : Except Failure α) : Quiet (Program.done r : Call α) :=
  fun db => SameTables.refl db

theorem Quiet.require (c : Prop) [Decidable c] (e : Failure) :
    Quiet (Program.require c e : Call Unit) := by
  intro db
  rw [Program.run_require]
  exact SameTables.refl db

theorem freshId_quiet : Quiet freshId :=
  fun db => ⟨rfl, rfl, rfl, rfl, rfl, db.ids.extends_advance⟩

theorem Unwritten.bind {p : Call α} {f : α -> Call β} (hp : Quiet p)
    (hf : forall a, Unwritten (f a)) : Unwritten (p >>= f) := by
  intro db e db' hrun
  have hsame := hp db
  rcases hfirst : p.run db with ⟨r, db₁⟩
  rw [hfirst] at hsame
  cases r with
  | ok a =>
      rw [Program.run_bind_ok hfirst] at hrun
      exact hsame.trans (hf a db₁ e db' hrun)
  | error e' =>
      rw [Program.run_bind_error hfirst] at hrun
      cases hrun
      exact hsame

theorem Unwritten.write (tx : Tx α) (g : α -> β) :
    Unwritten (Program.perform tx >>= fun a => (Pure.pure (g a) : Call β)) := by
  intro db e db' hrun
  rcases tx.commit_cases db with ⟨a, t, _, hcommit⟩ | ⟨e', _, hcommit⟩
  · rw [Program.run_bind_ok (p := Program.perform tx) hcommit] at hrun
    cases hrun
  · rw [Program.run_bind_error (p := Program.perform tx) hcommit] at hrun
    cases hrun
    exact SameTables.refl db

end Runs

/-!
## Identifiers
-/

theorem freshId_run (db : Database) :
    freshId.run db = (Except.ok db.ids.fresh, { db with ids := db.ids.advance }) := rfl

theorem SameTables.advance (db : Database) :
    SameTables db { db with ids := db.ids.advance } :=
  ⟨rfl, rfl, rfl, rfl, rfl, db.ids.extends_advance⟩

theorem run_freshId_bind {α : Type} {f : UUID -> Call α} {db db' : Database} {a : α}
    (h : (freshId >>= f).run db = (Except.ok a, db')) :
    exists id db₁, SameTables db db₁ ∧ (f id).run db₁ = (Except.ok a, db') := by
  rcases Program.run_bind_eq_ok.mp h with ⟨id, db₁, hid, hrest⟩
  rw [freshId_run] at hid
  cases hid
  exact ⟨_, _, SameTables.advance db, hrest⟩

/-!
## Tests

An undisturbed run of a concrete call can be evaluated.
-/

/-- The call returns, and what it returns passes a test. -/
def returnsWith {α : Type} (p : Call α) (db : Database)
    (check : α -> Database -> Bool) : Bool :=
  match p.run db with
  | (Except.ok a, db') => check a db'
  | (Except.error _, _) => false

theorem returnsWith_eq_true {α : Type} {p : Call α} {db : Database}
    {check : α -> Database -> Bool} (h : returnsWith p db check = true) :
    exists a db', p.run db = (Except.ok a, db') ∧ check a db' = true := by
  unfold returnsWith at h
  rcases hrun : p.run db with ⟨r, db'⟩
  rw [hrun] at h
  cases r with
  | ok a => exact ⟨a, db', rfl, h⟩
  | error e => cases h

end RefundAgent
