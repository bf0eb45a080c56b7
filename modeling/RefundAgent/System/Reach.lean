import RefundAgent.System.World

/-!
# What every run keeps

Each job moves the database by labels of its own kind, each step of a service
call by a label that finishes nothing.  The world stays good: the database is
sound, every handle belongs to its command, and every call that has begun still
behaves.
-/

namespace RefundAgent

open Foundation

/-!
## The moves of a job
-/

/-- The labels of the moves that a job may make. -/
def Job.permits (db : Database) : Job -> Label -> Prop
  | claimOutbox _ _ _ _ _, l => l.claimsOutbox
  | renewOutbox _ _ _ _ _, l => exists m m', l = { outbox := OutboxLabel.renew m m' }
  | recoverOutbox batchSize scan clock, l =>
      l.recovers (expiredOutbox db scan clock batchSize)
  | retryOutbox retry now, l => exists m a,
      l = { outbox := OutboxLabel.finish (Ending.retried retry now) m a }
  | finalizeOutbox claimed verdict _, l => l.inbox = InboxLabel.keep ∧
      exists now m a, l.outbox = OutboxLabel.finish (Ending.finalized verdict now) m a ∧
        m.commandId = claimed.commandId
  | finalizeOrderOperation _ _ _, l => l.outbox = OutboxLabel.keep ∧ l.inbox.finishes
  | finalizeSupportCase _ _ _, l => l.outbox = OutboxLabel.keep ∧ l.inbox.finishes
  | receiveInbox incoming, l => l = { inbox := InboxLabel.receive incoming }
  | _, l => l.inboxOnly

/-- The jobs that handle several rows in one transaction. -/
def Job.batch : Job -> Bool
  | claimOutbox _ _ _ _ _ => true
  | recoverOutbox _ _ _ => true
  | claimInbox _ _ _ _ _ => true
  | recoverInbox _ _ _ => true
  | _ => false

/-- What a transaction did: one move at most, unless it is a batch. -/
def Did (batch : Bool) (P : Label -> Prop) (db db' : Database) : Prop :=
  match batch with
  | true => Moves P db db'
  | false => db' = db ∨ exists l, P l ∧ Move l db db'

theorem Did.moves {batch : Bool} {P : Label -> Prop} {db db' : Database}
    (h : Did batch P db db') : Moves P db db' := by
  cases batch with
  | true => exact h
  | false =>
      rcases h with rfl | ⟨l, hl, hmove⟩
      · exact Moves.refl P db'
      · exact Moves.single hl hmove

theorem Did.refl (batch : Bool) (P : Label -> Prop) (db : Database) :
    Did batch P db db := by
  cases batch with
  | true => exact Moves.refl P db
  | false => exact Or.inl rfl

theorem InboxFinished.inboxOnly {inboxId : UUID} {e : InboxEnding} {m : InboxMessage}
    {a : InboxProcessingAttempt} {db db' : Database}
    (h : InboxFinished inboxId e m a db db') (he : e.isProcessed = false) :
    Did false Label.inboxOnly db db' := by
  refine Or.inr ⟨_, ⟨rfl, rfl, rfl, id, fun e' m' a' hl => ?_⟩, h.move⟩
  cases hl
  exact he

theorem CallbackFinished.finishes {claimed : ClaimedInboxMessage}
    {result : InboxFinalizationResult} {l : Label} {db db' : Database}
    (h : CallbackFinished claimed result l db db') : l.inbox.finishes := by
  rcases h.ended with ⟨e, m, a, hl, _⟩
  rw [hl]
  trivial

theorem Job.did {j : Job} {handles claimed : List ClaimedOutboxMessage}
    {db db' : Database} (hadmissible : j.Admissible handles)
    (hgenuine : forall c, c ∈ handles -> c.Genuine db)
    (h : j.transaction db = Except.ok (claimed, db')) :
    Did j.batch (j.permits db) db db' ∧ forall c, c ∈ claimed -> c.Genuine db' := by
  cases j with
  | claimOutbox workerId batchSize leaseSeconds scan clock =>
      exact claimDueOutbox_moves h
  | renewOutbox commandId leaseId leaseOwner leaseSeconds clock =>
      simp only [transaction, Transaction.map_eq_ok, Prod.mk.injEq] at h
      rcases h with ⟨_, _, h, rfl, rfl⟩
      refine ⟨?_, by simp⟩
      rcases renewOutboxLease_move h with hsame | ⟨m, m', hmove, _⟩
      · exact Or.inl hsame
      · exact Or.inr ⟨_, ⟨m, m', rfl⟩, hmove⟩
  | recoverOutbox batchSize scan clock =>
      simp only [transaction, Transaction.map_eq_ok, Prod.mk.injEq] at h
      rcases h with ⟨_, _, h, rfl, rfl⟩
      exact ⟨recoverExpiredOutboxLeases_moves h, by simp⟩
  | retryOutbox retry now =>
      simp only [transaction, Transaction.map_eq_ok, Prod.mk.injEq] at h
      rcases h with ⟨_, _, h, rfl, rfl⟩
      rcases scheduleOutboxRetry_move h hadmissible with ⟨m, a, hmove, _⟩
      exact ⟨Or.inr ⟨_, ⟨m, a, rfl⟩, hmove⟩, by simp⟩
  | finalizeOutbox c verdict now =>
      simp only [transaction, Transaction.map_eq_ok, Prod.mk.injEq] at h
      rcases h with ⟨_, _, h, rfl, rfl⟩
      rcases finalize_move h (hgenuine c hadmissible) with
        ⟨lo, lc, now', m, a, hmove, hid, _⟩
      exact ⟨Or.inr ⟨_, ⟨rfl, now', m, a, rfl, hid⟩, hmove⟩, by simp⟩
  | receiveInbox incoming =>
      simp only [transaction, Transaction.map_eq_ok, Prod.mk.injEq] at h
      rcases h with ⟨_, _, h, rfl, rfl⟩
      refine ⟨?_, by simp⟩
      rcases receiveInboxIdempotently_move h hadmissible with hsame | hmove
      · exact Or.inl hsame
      · exact Or.inr ⟨_, rfl, hmove⟩
  | claimInbox workerId batchSize leaseSeconds scan clock =>
      simp only [transaction, Transaction.map_eq_ok, Prod.mk.injEq] at h
      rcases h with ⟨_, _, h, rfl, rfl⟩
      exact ⟨claimDueInbox_moves h, by simp⟩
  | renewInbox inboxId leaseId leaseOwner leaseSeconds clock =>
      simp only [transaction, Transaction.map_eq_ok, Prod.mk.injEq] at h
      rcases h with ⟨_, _, h, rfl, rfl⟩
      refine ⟨?_, by simp⟩
      rcases renewInboxLease_move h with hsame | ⟨m, m', hmove⟩
      · exact Or.inl hsame
      · exact Or.inr ⟨_, ⟨rfl, rfl, rfl, id, fun e m a hl => (by cases hl)⟩, hmove⟩
  | recoverInbox batchSize scan clock =>
      simp only [transaction, Transaction.map_eq_ok, Prod.mk.injEq] at h
      rcases h with ⟨_, _, h, rfl, rfl⟩
      exact ⟨recoverExpiredInboxLeases_moves h, by simp⟩
  | failInbox inboxId leaseId leaseOwner errorCode errorMessage now =>
      simp only [transaction, Transaction.map_eq_ok, Prod.mk.injEq] at h
      rcases h with ⟨_, _, h, rfl, rfl⟩
      rcases markInboxFailed_move h with ⟨e, m, a, hfinished, he⟩
      exact ⟨hfinished.inboxOnly he, by simp⟩
  | retryInbox inboxId leaseId leaseOwner attemptId nextAvailableAt errorCode
      errorMessage now =>
      simp only [transaction, Transaction.map_eq_ok, Prod.mk.injEq] at h
      rcases h with ⟨_, _, h, rfl, rfl⟩
      rcases scheduleInboxRetry_move h with ⟨e, m, a, hfinished, he⟩
      exact ⟨hfinished.inboxOnly he, by simp⟩
  | finalizeOrderOperation c retryAvailableAt now =>
      simp only [transaction, Transaction.map_eq_ok, Prod.mk.injEq] at h
      rcases h with ⟨_, _, h, rfl, rfl⟩
      rcases finalizeOrderOperation_spec h with ⟨l, hl, _⟩
      exact ⟨Or.inr ⟨l, ⟨hl.outbox, hl.finishes⟩, hl.move⟩, by simp⟩
  | finalizeSupportCase c retryAvailableAt now =>
      simp only [transaction, Transaction.map_eq_ok, Prod.mk.injEq] at h
      rcases h with ⟨_, _, h, rfl, rfl⟩
      rcases finalizeSupportCase_spec h with ⟨l, hl, _⟩
      exact ⟨Or.inr ⟨l, ⟨hl.outbox, hl.finishes⟩, hl.move⟩, by simp⟩

/-!
## Good worlds
-/

/-- The labels of the moves that a step may make. -/
def Event.permits (db : Database) : Event -> Label -> Prop
  | job j, l => j.permits db l
  | start, _ => False
  | advance, l => l.served AnyDecision

def Event.batch : Event -> Bool
  | job j => j.batch
  | _ => false

structure World.Good (w : World) : Prop where
  sound : Sound w.db
  genuine : forall c, c ∈ w.handles -> c.Genuine w.db
  behaved : forall r, r ∈ w.calls -> Behaves AnyDecision r.call w.db (fun _ _ => True)

theorem Behaves.later {D : HandoffDecision -> Prop} {α : Type} {p : Call α}
    {db db' : Database} {P : α -> Database -> Prop} (h : Behaves D p db P)
    (hlater : Later db db') : Behaves D p db' P :=
  ⟨Program.Safe.later (fun h h' => h.trans h') h.safe hlater⟩

theorem World.initial_good (ids : Supply) : (World.initial ids).Good :=
  ⟨Sound.initial ids, fun c hc => (by cases hc), fun r hr => (by cases hr)⟩

theorem Behaves.advance {D : HandoffDecision -> Prop} {α : Type} {p q : Call α}
    {db db' : Database} {P : α -> Database -> Prop} (h : Behaves D p db P)
    (hsound : Sound db) (hstep : Program.Advance (fun _ => True) p db q db') :
    Did false (Label.served D) db db' ∧ Behaves D q db' P := by
  rcases Program.Safe.advance Later.refl h.safe hsound hstep with ⟨hdid, hsafe⟩
  exact ⟨hdid, ⟨hsafe⟩⟩

theorem World.Step.after_job {w w' : World} {j : Job}
    (h : World.Step w (Event.job j) w') :
    w' = w.perform j ∧ j.Admissible w.handles := by
  cases h with
  | job hadmissible => exact ⟨rfl, hadmissible⟩

theorem World.Step.spec {w w' : World} {e : Event} (h : World.Step w e w')
    (hgood : w.Good) : Did e.batch (e.permits w.db) w.db w'.db ∧ w'.Good := by
  cases h with
  | @job j hadmissible =>
      unfold World.perform
      cases htx : j.transaction w.db with
      | error f => exact ⟨Did.refl _ _ _, hgood⟩
      | ok r =>
          rcases Job.did hadmissible hgood.genuine htx with ⟨hdid, hclaimed⟩
          have hlater := hdid.moves.later
          refine ⟨hdid, hdid.moves.sound hgood.sound, ?_, ?_⟩
          · intro c hc
            rcases List.mem_append.mp hc with hc | hc
            · exact (hgood.genuine c hc).later hlater
            · exact hclaimed c hc
          · exact fun r hr => (hgood.behaved r hr).later hlater
  | @start α p hmethod =>
      refine ⟨Or.inl rfl, hgood.sound, hgood.genuine, ?_⟩
      intro r hr
      rcases List.mem_append.mp hr with hr | hr
      · exact hgood.behaved r hr
      · rw [List.mem_singleton.mp hr]
        exact hmethod.harmless (fun _ _ => trivial) w.db
  | @advance α p q db' before after hcalls hstep =>
      have hp : Behaves AnyDecision p w.db (fun _ _ => True) := by
        refine hgood.behaved ⟨α, p⟩ ?_
        rw [hcalls]
        simp
      rcases hp.advance hgood.sound hstep with ⟨hdid, hq⟩
      have hlater := hdid.moves.later
      refine ⟨hdid, hdid.moves.sound hgood.sound, ?_, ?_⟩
      · exact fun c hc => (hgood.genuine c hc).later hlater
      · intro r hr
        rcases List.mem_append.mp hr with hr | hr
        · refine (hgood.behaved r ?_).later hlater
          rw [hcalls]
          exact List.mem_append_left _ hr
        · rcases List.mem_cons.mp hr with rfl | hr
          · exact hq
          · refine (hgood.behaved r ?_).later hlater
            rw [hcalls]
            exact List.mem_append_right _ (List.mem_cons_of_mem _ hr)

/-- A stage of a run: what it did, and the good worlds around it. -/
structure GoodStage (x : Stage World Event) : Prop where
  step : World.Step x.before x.event x.after
  before : x.before.Good
  after : x.after.Good
  did : Did x.event.batch (x.event.permits x.before.db) x.before.db x.after.db

theorem GoodStage.later {x : Stage World Event} (h : GoodStage x) :
    Later x.before.db x.after.db :=
  h.did.moves.later

theorem World.Runs.good {stages : List (Stage World Event)} {w : World}
    (h : World.Runs stages w) :
    w.Good ∧ forall x, x ∈ stages -> GoodStage x := by
  rcases h with ⟨ids, hrun⟩
  have hkept := hrun.invariant (I := World.Good) (C := fun _ => True)
    (fun x _ hstep hgood => (hstep.spec hgood).right) (World.initial_good ids)
    (fun _ _ => trivial)
  refine ⟨hkept.left, ?_⟩
  intro x hx
  rcases hkept.right x hx with ⟨hstep, hbefore, hafter⟩
  exact ⟨hstep, hbefore, hafter, (hstep.spec hbefore).left⟩

theorem World.Runs.related {R : Database -> Database -> Prop} (hrefl : forall db, R db db)
    (htrans : forall {a b c}, R a b -> R b c -> R a c)
    (hmove : forall l db db', Move l db db' -> R db db')
    {stages : List (Stage World Event)} {w : World} (h : World.Runs stages w)
    {x : Stage World Event} (hx : x ∈ stages) :
    R x.before.db x.after.db ∧ R x.after.db w.db := by
  have hstage : forall y, y ∈ stages -> R y.before.db y.after.db := by
    intro y hy
    refine (h.good.right y hy).did.moves.preserves (I := fun db => R y.before.db db) ?_
      (hrefl _)
    intro l db db' _ hm hdb
    exact htrans hdb (hmove l db db' hm)
  rcases h with ⟨ids, hrun⟩
  have htrans' : forall {a b c : World}, R a.db b.db -> R b.db c.db -> R a.db c.db :=
    fun h h' => htrans h h'
  have hrelates := hrun.relates (R := fun w w' => R w.db w'.db) (fun w => hrefl w.db)
    htrans' hstage
  exact ⟨hstage x hx, (hrelates.right x hx).right⟩

theorem World.Runs.later_stage {stages : List (Stage World Event)} {w : World}
    (h : World.Runs stages w) {x : Stage World Event} (hx : x ∈ stages) :
    Later x.after.db w.db :=
  (h.related Later.refl (fun h h' => h.trans h') (fun _ _ _ hm => hm.later) hx).right

theorem World.Runs.kept {I : Database -> Prop} (hinitial : forall ids, I (Database.initial ids))
    (hmove : forall l db db', Move l db db' -> Sound db -> I db -> I db')
    {stages : List (Stage World Event)} {w : World} (h : World.Runs stages w) :
    I w.db ∧ forall x, x ∈ stages -> I x.before.db ∧ I x.after.db := by
  have hgood := h.good.right
  rcases h with ⟨ids, hrun⟩
  have hkept := hrun.invariant (I := fun w => Sound w.db ∧ I w.db) (C := GoodStage) ?_
    ⟨Sound.initial ids, hinitial ids⟩ hgood
  · constructor
    · exact hkept.left.right
    · intro x hx
      rcases hkept.right x hx with ⟨_, hbefore, hafter⟩
      exact ⟨hbefore.right, hafter.right⟩
  · intro x hx _ hbefore
    refine hx.did.moves.preserves (I := fun db => Sound db ∧ I db) ?_ hbefore
    intro l db db' _ hm hdb
    exact ⟨hm.sound hdb.left, hmove l db db' hm hdb.left hdb.right⟩

theorem World.Reachable.sound {w : World} (h : w.Reachable) : Sound w.db := by
  rcases h with ⟨stages, hrun⟩
  exact hrun.good.left.sound

end RefundAgent
