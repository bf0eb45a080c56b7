import RefundAgent.System.RedriveMoves

/-!
# Callbacks as moves

What the inbox repository and the inbox finalizers do to the database.
-/

namespace RefundAgent

open Foundation

/-!
## Statements on the inbox
-/

theorem updateInbox_spec {inboxId : UUID} {p : InboxMessage -> Bool}
    {f : InboxMessage -> InboxMessage} {db db' : Database}
    (h : updateInbox inboxId p f db = Except.ok (1, db')) :
    exists r, db.inbox.messages.get inboxId = some r ∧ p r = true ∧
      db'.inbox = { db.inbox with messages := db.inbox.messages.put (f r) } ∧
      Touches Group.inbox db db' := by
  rcases updateInbox_one.mp h with ⟨r, hget, hp, rfl⟩
  exact ⟨r, hget, hp, rfl, fun _ => rfl, fun _ => rfl, fun _ => rfl,
    fun hg => absurd rfl hg, rfl, db.ids.extends_refl⟩

theorem updateProcessingAttempts_spec {p : InboxProcessingAttempt -> Bool}
    {f : InboxProcessingAttempt -> InboxProcessingAttempt}
    {hf : forall a, (f a).attemptId = a.attemptId} {db db' : Database}
    (h : updateProcessingAttempts p f hf db = Except.ok (1, db')) :
    exists a, db.inbox.attempts.get a.attemptId = some a ∧ p a = true ∧
      db'.inbox = { db.inbox with attempts := db.inbox.attempts.put (f a) } ∧
      Touches Group.inbox db db' := by
  rcases updateProcessingAttempts_one h with ⟨a, ha, rfl⟩
  have hmem : a ∈ db.inbox.attempts.select p := by
    rw [ha]
    exact List.mem_singleton.mpr rfl
  have hsel := Table.mem_select.mp hmem
  exact ⟨a, Table.get_of_mem hsel.left, hsel.right, rfl, fun _ => rfl, fun _ => rfl,
    fun _ => rfl, fun hg => absurd rfl hg, rfl, db.ids.extends_refl⟩

theorem finishInboxAttempt_spec {attemptId inboxId leaseId : UUID}
    {workerId : String} {r : InboxAttemptResult} {db db' : Database}
    (h : finishInboxAttempt attemptId inboxId leaseId workerId r db =
      Except.ok (1, db')) :
    errorFieldValid r.safeErrorCode ∧ errorFieldValid r.safeErrorMessage ∧
      exists a, db.inbox.attempts.get a.attemptId = some a ∧ a.inboxId = inboxId ∧
        a.isOpen = true ∧
        db'.inbox = { db.inbox with attempts := db.inbox.attempts.put (r.apply a) } ∧
        Touches Group.inbox db db' := by
  simp only [finishInboxAttempt, Transaction.bind_eq_ok, validateErrorFields_eq_ok] at h
  rcases h with ⟨_, _, ⟨hcode, hmessage, rfl⟩, hup⟩
  rcases updateProcessingAttempts_spec hup with ⟨a, hget, hp, hout, htouch⟩
  simp only [Bool.and_eq_true, decide_eq_true_eq] at hp
  exact ⟨hcode, hmessage, a, hget, hp.left.left.left.right, hp.right, hout, htouch⟩

/-- An attempt on a message has been ended, and nothing else has happened. -/
structure InboxFinished (inboxId : UUID) (e : InboxEnding) (m : InboxMessage)
    (a : InboxProcessingAttempt) (db db' : Database) : Prop where
  step : InboxStep (InboxLabel.finish e m a) db.inbox db'.inbox
  message : m.inboxId = inboxId
  touches : Touches Group.inbox db db'

theorem InboxFinished.of_updates {inboxId : UUID} {e : InboxEnding}
    {m : InboxMessage} {a : InboxProcessingAttempt} {db db₁ db₂ : Database}
    (hget : db.inbox.messages.get inboxId = some m)
    (hheld : m.status = InboxProcessingStatus.processing)
    (hattempt : db.inbox.attempts.get a.attemptId = some a)
    (hmessage : a.inboxId = inboxId) (hopen : a.isOpen = true) (hallowed : e.Allowed)
    (hfinished : db₁.inbox =
      { db.inbox with attempts := db.inbox.attempts.put (e.attempt a) })
    (hmoved : db₂.inbox =
      { db₁.inbox with messages := db₁.inbox.messages.put (e.message m) })
    (htouch : Touches Group.inbox db db₁) (htouch' : Touches Group.inbox db₁ db₂) :
    InboxFinished inboxId e m a db db₂ := by
  have hid := Table.get_key hget
  refine ⟨?_, hid, htouch.trans htouch'⟩
  rw [hmoved, hfinished]
  exact InboxStep.finish (by rw [hid]; exact hget) hheld hattempt
    (hmessage.trans hid.symm) hopen hallowed

theorem InboxFinished.of_statements {attemptId inboxId leaseId : UUID}
    {leaseOwner : String} {r : InboxAttemptResult} {e : InboxEnding}
    {p : InboxMessage -> Bool} {db db₁ db₂ : Database}
    (hfinish : finishInboxAttempt attemptId inboxId leaseId leaseOwner r db =
      Except.ok (1, db₁))
    (hup : updateInbox inboxId p e.message db₁ = Except.ok (1, db₂))
    (hattempt : e.attempt = r.apply)
    (hp : forall m, p m = true -> m.status = InboxProcessingStatus.processing)
    (hallowed : errorFieldValid r.safeErrorCode -> errorFieldValid r.safeErrorMessage ->
      e.Allowed) :
    exists m a, InboxFinished inboxId e m a db db₂ := by
  rcases finishInboxAttempt_spec hfinish with ⟨hcode, hmessage, a, ha, haid, hopen, hout₁,
    htouch₁⟩
  rcases updateInbox_spec hup with ⟨m, hm, hpm, hout₂, htouch₂⟩
  rw [← hattempt] at hout₁
  rw [hout₁] at hm
  exact ⟨m, a, InboxFinished.of_updates hm (hp m hpm) ha haid hopen
    (hallowed hcode hmessage) hout₁ hout₂ htouch₁ htouch₂⟩

theorem held_of_inboxLeaseHeld {leaseId : UUID} {leaseOwner : String}
    (m : InboxMessage) (h : inboxLeaseHeld leaseId leaseOwner m = true) :
    m.status = InboxProcessingStatus.processing := by
  unfold inboxLeaseHeld at h
  simp only [Bool.and_eq_true, decide_eq_true_eq] at h
  exact h.right

theorem failAttempt_spec {attemptId inboxId leaseId : UUID} {leaseOwner : String}
    {now : Time} {errorCode errorMessage : Option String} {db db' : Database}
    (h : failAttempt attemptId inboxId leaseId leaseOwner now errorCode errorMessage
      db = Except.ok ((), db')) :
    exists m a, InboxFinished inboxId
      (InboxEnding.failed now errorCode errorMessage) m a db db' := by
  simp only [failAttempt, markInboxFailedRow, Transaction.bind_eq_ok,
    validateErrorFields_eq_ok, Transaction.require_eq_ok, Prod.mk.injEq] at h
  rcases h with ⟨_, db₁, hfinish, _, _, ⟨rfl, _, rfl⟩, _, _, ⟨_, _, ⟨_, _, rfl⟩, hup⟩,
    rfl, _, rfl⟩
  exact InboxFinished.of_statements hfinish hup rfl held_of_inboxLeaseHeld
    fun hcode hmessage => ⟨hcode, hmessage⟩

theorem retryAttempt_spec {attemptId inboxId leaseId : UUID} {leaseOwner : String}
    {availableAt now : Time} {errorCode errorMessage : Option String}
    {db db' : Database}
    (h : retryAttempt attemptId inboxId leaseId leaseOwner availableAt now errorCode
      errorMessage db = Except.ok ((), db')) :
    exists m a, InboxFinished inboxId
      (InboxEnding.retried availableAt now errorCode errorMessage) m a db db' := by
  simp only [retryAttempt, scheduleInboxRetryRow, Transaction.bind_eq_ok,
    validateErrorFields_eq_ok, Transaction.require_eq_ok, Prod.mk.injEq] at h
  rcases h with ⟨_, db₁, hfinish, _, _, ⟨rfl, _, rfl⟩, _, _, ⟨_, _, ⟨_, _, rfl⟩, hup⟩,
    rfl, _, rfl⟩
  exact InboxFinished.of_statements hfinish hup rfl held_of_inboxLeaseHeld
    fun hcode hmessage => ⟨hcode, hmessage⟩

theorem processCallback_spec {claimed : ClaimedInboxMessage} {lease : InboxLease}
    {now : Time} {db db' : Database}
    (h : processCallback claimed lease now db = Except.ok ((), db')) :
    exists m a, InboxFinished claimed.inboxId (InboxEnding.processed now) m a db db' := by
  simp only [processCallback, markInboxProcessed, Transaction.bind_eq_ok,
    Transaction.require_eq_ok, Prod.mk.injEq] at h
  rcases h with ⟨_, db₁, hfinish, _, _, ⟨rfl, _, rfl⟩, _, _, hup, rfl, _, rfl⟩
  exact InboxFinished.of_statements hfinish hup rfl held_of_inboxLeaseHeld
    fun _ _ => trivial

theorem InboxFinished.move {inboxId : UUID} {e : InboxEnding} {m : InboxMessage}
    {a : InboxProcessingAttempt} {db db' : Database}
    (h : InboxFinished inboxId e m a db db') :
    Move { inbox := InboxLabel.finish e m a } db db' := by
  refine ((Steps.refl db).thenInbox rfl h.touches h.step).move ?_
  cases e with
  | processed now => exact Combination.callbackOnly
  | failed now errorCode errorMessage =>
      exact Combination.inbox fun e m a hl => (by cases hl; rfl)
  | retried availableAt now errorCode errorMessage =>
      exact Combination.inbox fun e m a hl => (by cases hl; rfl)
  | expired now availableAt updatedAt =>
      exact Combination.inbox fun e m a hl => (by cases hl; rfl)
  | exhausted now failedAt updatedAt =>
      exact Combination.inbox fun e m a hl => (by cases hl; rfl)

/-!
## The repository
-/

theorem insertInboxRow_spec {m : InboxMessage} {db db' : Database}
    (h : insertInboxRow m db = Except.ok ((), db')) :
    exists t, db.inbox.messages.insert? m = some t ∧ m.checks = true ∧
      db'.inbox = { db.inbox with messages := t } ∧ Touches Group.inbox db db' := by
  rcases insertInboxRow_eq_ok h with ⟨t, ht, hchecks, rfl⟩
  exact ⟨t, ht, hchecks, rfl, fun _ => rfl, fun _ => rfl, fun _ => rfl,
    fun hg => absurd rfl hg, rfl, db.ids.extends_refl⟩

theorem receiveInboxIdempotently_move {incoming : InboxMessage} {db db' : Database}
    {outcome : Except Failure InboxMessage}
    (h : receiveInboxIdempotently incoming db = Except.ok (outcome, db'))
    (hfresh : incoming.checks = true -> FreshInbox incoming) :
    db' = db ∨ Move { inbox := InboxLabel.receive incoming } db db' := by
  simp only [receiveInboxIdempotently, Transaction.translate_eq_ok] at h
  rw [Transaction.bind_eq_ok] at h
  rcases h with ⟨stored, _, hstored, h⟩
  simp only [Transaction.read_eq_ok, Prod.mk.injEq] at hstored
  rcases hstored with ⟨_, rfl⟩
  cases stored with
  | some row =>
      simp only [Transaction.bind_eq_ok, Transaction.fetch_eq_ok,
        Transaction.require_eq_ok, Transaction.pure_eq_ok, Prod.mk.injEq] at h
      rcases h with ⟨_, _, ⟨_, rfl⟩, _, _, ⟨_, _, rfl⟩, _, rfl⟩
      exact Or.inl rfl
  | none =>
      simp only [Transaction.bind_eq_ok, Transaction.pure_eq_ok, Prod.mk.injEq] at h
      rcases h with ⟨_, db₁, hins, _, rfl⟩
      rcases insertInboxRow_spec hins with ⟨t, ht, hchecks, hout, htouch⟩
      have hstep : InboxStep (InboxLabel.receive incoming) db.inbox db₁.inbox := by
        rw [hout]
        exact InboxStep.receive (hfresh hchecks) ht
      exact Or.inr (((Steps.refl db).thenInbox rfl htouch hstep).move
        (Combination.inbox fun e m a hl => (by cases hl)))

theorem renewInboxLease_move {inboxId leaseId : UUID} {leaseOwner : String}
    {leaseSeconds : Rat} {clock : Nat -> Time} {db db' : Database} {renewed : Bool}
    (h : renewInboxLease inboxId leaseId leaseOwner leaseSeconds clock db =
      Except.ok (renewed, db')) :
    db' = db ∨ exists m m', Move { inbox := InboxLabel.renew m m' } db db' := by
  simp only [renewInboxLease, Transaction.bind_eq_ok, validateClaimParameters_eq_ok,
    Transaction.pure_eq_ok, Prod.mk.injEq] at h
  rcases h with ⟨_, _, ⟨_, _, _, rfl⟩, n, db₁, hup, _, rfl⟩
  rcases updateInbox_cases hup with hzero | ⟨_, hone⟩
  · exact Or.inl (congrArg Prod.snd hzero)
  · rcases updateInbox_spec hone with ⟨m, hm, hp, hout, htouch⟩
    rw [Bool.and_eq_true] at hp
    have hid := Table.get_key hm
    have hstep : InboxStep (InboxLabel.renew m
        (m.setRenewed (clock 1 + seconds leaseSeconds) (clock 2))) db.inbox
        db₁.inbox := by
      rw [hout]
      exact InboxStep.renew (by rw [hid]; exact hm) (held_of_inboxLeaseHeld m hp.left)
    exact Or.inr ⟨m, _, ((Steps.refl db).thenInbox rfl htouch hstep).move
      (Combination.inbox fun e m a hl => (by cases hl))⟩

theorem markInboxFailed_move {inboxId leaseId : UUID} {leaseOwner : String}
    {errorCode errorMessage : Option String} {now : Time} {db db' : Database}
    (h : markInboxFailed inboxId leaseId leaseOwner errorCode errorMessage now db =
      Except.ok ((), db')) :
    exists e m a, InboxFinished inboxId e m a db db' ∧ e.isProcessed = false := by
  simp only [markInboxFailed, Transaction.translate_eq_ok, Transaction.bind_eq_ok,
    Transaction.fetch_eq_ok] at h
  rcases h with ⟨_, _, ⟨_, rfl⟩, hfail⟩
  rcases failAttempt_spec hfail with ⟨m, a, hfinished⟩
  exact ⟨_, m, a, hfinished, rfl⟩

theorem scheduleInboxRetry_move {inboxId leaseId : UUID} {leaseOwner : String}
    {attemptId : UUID} {nextAvailableAt : Time}
    {errorCode errorMessage : Option String} {now : Time} {db db' : Database}
    (h : scheduleInboxRetry inboxId leaseId leaseOwner attemptId nextAvailableAt
      errorCode errorMessage now db = Except.ok ((), db')) :
    exists e m a, InboxFinished inboxId e m a db db' ∧ e.isProcessed = false := by
  simp only [scheduleInboxRetry, Transaction.translate_eq_ok, Transaction.bind_eq_ok,
    Transaction.fetch_eq_ok, Transaction.ite_eq_ok] at h
  rcases h with ⟨_, _, ⟨_, rfl⟩, ⟨_, hfail⟩ | ⟨_, hretry⟩⟩
  · rcases failAttempt_spec hfail with ⟨m, a, hfinished⟩
    exact ⟨_, m, a, hfinished, rfl⟩
  · rcases retryAttempt_spec hretry with ⟨m, a, hfinished⟩
    exact ⟨_, m, a, hfinished, rfl⟩

/-!
## Claims and recovery
-/

theorem insertProcessingAttempt_spec {a : InboxProcessingAttempt}
    {db db' : Database} (h : insertProcessingAttempt a db = Except.ok ((), db')) :
    exists t, db.inbox.attempts.insert? a = some t ∧
      db'.inbox = { db.inbox with attempts := t } ∧ Touches Group.inbox db db' := by
  rcases insertProcessingAttempt_eq_ok h with ⟨t, ht, rfl⟩
  exact ⟨t, ht, rfl, fun _ => rfl, fun _ => rfl, fun _ => rfl,
    fun hg => absurd rfl hg, rfl, db.ids.extends_refl⟩

/-- A move of the inbox alone. -/
def Label.inboxOnly (l : Label) : Prop :=
  l.operation = OperationLabel.keep ∧ l.case = CaseLabel.keep ∧
    l.outbox = OutboxLabel.keep ∧ ¬l.inbox.receives ∧
    forall e m a, l.inbox = InboxLabel.finish e m a -> e.isProcessed = false

theorem claimInboxRow_move {workerId : String} {leaseSeconds : Rat}
    {clock : UUID -> Nat -> Time} {row : InboxMessage} {db db' : Database}
    {claimed : ClaimedInboxMessage}
    (h : claimInboxRow workerId leaseSeconds clock row db = Except.ok (claimed, db'))
    (hworker : Text.strip workerId ≠ "")
    (hrow : db.inbox.messages.get row.inboxId = some row) :
    exists m' a, Move { inbox := InboxLabel.claim row m' a } db db' ∧
      db'.inbox.messages = db.inbox.messages.put m' ∧ m'.inboxId = row.inboxId := by
  simp only [claimInboxRow, Transaction.bind_eq_ok, Transaction.fetch_eq_ok,
    Transaction.require_eq_ok, Transaction.pure_eq_ok, Prod.mk.injEq] at h
  rcases h with ⟨leaseId, db₁, hlease, attemptId, db₂, hattempt, _, db₃, hup, _, _,
    ⟨rfl, _, rfl⟩, updated, _, ⟨hupdated, rfl⟩, _, db₄, hins, _, _, ⟨_, _, rfl⟩, _, rfl⟩
  have hdrawn := newId_spec hlease
  have hdrawn' := newId_spec hattempt
  rcases updateInbox_spec hup with ⟨r, hr, hp, hout, htouch⟩
  have hbefore : db₂.inbox = db.inbox := hdrawn'.inbox.trans hdrawn.inbox
  have hrr : r = row := by
    rw [hbefore, hrow] at hr
    exact (Option.some.inj hr).symm
  subst hrr
  have hself := Table.get_put_self (r := r.setClaimed leaseId workerId
    (clock r.inboxId 1 + seconds leaseSeconds) (clock r.inboxId 2)) hrow
  have hupdated' : updated = r.setClaimed leaseId workerId
      (clock r.inboxId 1 + seconds leaseSeconds) (clock r.inboxId 2) := by
    rw [hout, hbefore] at hupdated
    exact (Option.some.inj (hself.symm.trans hupdated)).symm
  subst hupdated'
  rcases insertProcessingAttempt_spec hins with ⟨t, ht, hout', htouch'⟩
  rw [hout, hbefore] at ht
  simp only [Bool.and_eq_true, decide_eq_true_eq] at hp
  have hstep := InboxStep.claim hrow hp hworker ht
  have hafter : db₄.inbox = { db.inbox with
      messages := db.inbox.messages.put (r.setClaimed leaseId workerId
        (clock r.inboxId 1 + seconds leaseSeconds) (clock r.inboxId 2))
      attempts := t } := by
    rw [hout', hout, hbefore]
  rw [← hafter] at hstep
  refine ⟨_, _, ((Steps.refl db).thenInbox rfl
    (((hdrawn.touches _).trans (hdrawn'.touches _)).trans (htouch.trans htouch'))
    hstep).move (Combination.inbox fun e m a hl => (by cases hl)), ?_, rfl⟩
  rw [hafter]

theorem dueInbox_get {db : Database} {scan : List UUID}
    {clock : UUID -> Nat -> Time} {batchSize : Int} {m : InboxMessage}
    (h : m ∈ dueInbox db scan clock batchSize) :
    db.inbox.messages.get m.inboxId = some m := by
  have hmem := List.mem_of_mem_take h
  rw [List.mem_insertionSort, List.mem_filter] at hmem
  exact Table.get_of_mem (Table.mem_of_mem_visit hmem.left)

theorem dueInbox_pairwise (db : Database) (scan : List UUID)
    (clock : UUID -> Nat -> Time) (batchSize : Int) :
    (dueInbox db scan clock batchSize).Pairwise
      (fun a b => a.inboxId ≠ b.inboxId) := by
  refine List.Pairwise.sublist (List.take_sublist _ _) ?_
  have hperm := List.perm_insertionSort InboxMessage.dueBefore
    ((db.inbox.messages.visit scan).filter fun m => m.due (clock m.inboxId 0))
  refine hperm.symm.pairwise (List.Pairwise.sublist List.filter_sublist
    (Table.pairwise_visit _ _)) ?_
  exact fun h => Ne.symm h

theorem claimDueInbox_moves {workerId : String} {batchSize : Int}
    {leaseSeconds : Rat} {scan : List UUID} {clock : UUID -> Nat -> Time}
    {db db' : Database} {claimed : List ClaimedInboxMessage}
    (h : claimDueInbox workerId batchSize leaseSeconds scan clock db =
      Except.ok (claimed, db')) : Moves Label.inboxOnly db db' := by
  simp only [claimDueInbox, Transaction.bind_eq_ok, validateClaimParameters_eq_ok,
    Transaction.translate_eq_ok, Transaction.read_eq_ok, Prod.mk.injEq] at h
  rcases h with ⟨_, _, ⟨hworker, _, _, rfl⟩, rows, _, ⟨rfl, rfl⟩, hloop⟩
  refine (Transaction.forEach_relates (R := Moves Label.inboxOnly)
    (P := fun m db => db.inbox.messages.get m.inboxId = some m)
    (Q := fun _ _ => True) (D := fun a b => a.inboxId ≠ b.inboxId)
    (Moves.refl _) (fun h h' => h.trans h') (fun _ _ => trivial) ?_
    (dueInbox_pairwise _ _ _ _) (fun m hm => dueInbox_get hm) hloop).left
  intro m db c db' hm hbody
  rcases claimInboxRow_move hbody hworker hm with ⟨m', a, hmove, hput, hid⟩
  refine ⟨Moves.single ⟨rfl, rfl, rfl, id, fun e m a hl => (by cases hl)⟩ hmove, trivial, ?_⟩
  intro d hne hd
  rw [hput, Table.get_put_ne]
  · exact hd
  · rw [hid]
    exact Ne.symm hne

theorem recoverInboxRow_move {clock : UUID -> Nat -> Time} {row : InboxMessage}
    {db db' : Database} (h : recoverInboxRow clock row db = Except.ok ((), db'))
    (hrow : db.inbox.messages.get row.inboxId = some row) :
    exists e a, Move { inbox := InboxLabel.finish e row a } db db' ∧
      e.isProcessed = false ∧
      db'.inbox.messages = db.inbox.messages.put (e.message row) := by
  simp only [recoverInboxRow, Transaction.bind_eq_ok, Transaction.require_eq_ok,
    Prod.mk.injEq] at h
  rcases h with ⟨_, db₁, hfinish, _, _, ⟨rfl, _, rfl⟩, _, db₂, hup, rfl, _, rfl⟩
  rcases updateProcessingAttempts_spec hfinish with ⟨a, ha, hp, hout₁, htouch₁⟩
  unfold inboxAttemptOfLease at hp
  simp only [Bool.and_eq_true, decide_eq_true_eq] at hp
  rcases updateInbox_spec hup with ⟨r, hr, hpr, hout₂, htouch₂⟩
  have hrr : r = row := by
    rw [hout₁] at hr
    exact (Option.some.inj (hrow.symm.trans hr)).symm
  subst hrr
  simp only [Bool.and_eq_true, decide_eq_true_eq] at hpr
  have hfinal : forall e : InboxEnding, e.isProcessed = false -> e.Allowed ->
      e.attempt = InboxProcessingAttempt.setLeaseExpired (clock r.inboxId 1) ->
      e.message = (if 5 ≤ r.attemptsInCycle then
        InboxMessage.setExhausted (clock r.inboxId 3) (clock r.inboxId 4)
      else
        InboxMessage.setRecovered (clock r.inboxId 3) (clock r.inboxId 4)) ->
      exists e a, Move { inbox := InboxLabel.finish e r a } db db₂ ∧
        e.isProcessed = false ∧
        db₂.inbox.messages = db.inbox.messages.put (e.message r) := by
    intro e hprocessed hallowed hattempt hmessage
    have hfinished := InboxFinished.of_updates (e := e) hrow hpr.left.left.left ha
      hp.left.left.left hp.right hallowed (by rw [hattempt]; exact hout₁)
      (by rw [hmessage]; exact hout₂) htouch₁ htouch₂
    refine ⟨e, a, hfinished.move, hprocessed, ?_⟩
    rw [hout₂, hout₁, hmessage]
  by_cases hlast : 5 ≤ r.attemptsInCycle
  · exact hfinal (InboxEnding.exhausted (clock r.inboxId 1) (clock r.inboxId 3)
      (clock r.inboxId 4)) rfl trivial rfl (by rw [if_pos hlast]; rfl)
  · exact hfinal (InboxEnding.expired (clock r.inboxId 1) (clock r.inboxId 3)
      (clock r.inboxId 4)) rfl trivial rfl (by rw [if_neg hlast]; rfl)

theorem recoverExpiredInboxLeases_moves {batchSize : Nat} {scan : List UUID}
    {clock : UUID -> Nat -> Time} {db db' : Database} {n : Nat}
    (h : recoverExpiredInboxLeases batchSize scan clock db = Except.ok (n, db')) :
    Moves Label.inboxOnly db db' := by
  simp only [recoverExpiredInboxLeases, Transaction.translate_eq_ok,
    Transaction.bind_eq_ok, Transaction.read_eq_ok, Transaction.pure_eq_ok,
    Prod.mk.injEq] at h
  rcases h with ⟨rows, _, ⟨hrows, rfl⟩, units, _, hloop, _, rfl⟩
  refine (Transaction.forEach_relates (R := Moves Label.inboxOnly)
    (P := fun m db => db.inbox.messages.get m.inboxId = some m)
    (Q := fun _ _ => True) (D := fun a b => a.inboxId ≠ b.inboxId)
    (Moves.refl _) (fun h h' => h.trans h') (fun _ _ => trivial) ?_ ?_ ?_ hloop).left
  · intro m db _ db' hm hbody
    rcases recoverInboxRow_move hbody hm with ⟨e, a, hmove, hprocessed, hput⟩
    refine ⟨Moves.single ⟨rfl, rfl, rfl, id, fun e' m a hl => ?_⟩ hmove, trivial, ?_⟩
    · cases hl
      exact hprocessed
    · intro d hne hd
      rw [hput, Table.get_put_ne]
      · exact hd
      · rw [InboxEnding.message_inboxId]
        exact Ne.symm hne
  · rw [← hrows]
    exact List.Pairwise.sublist (List.take_sublist _ _)
      (List.Pairwise.sublist List.filter_sublist (Table.pairwise_visit _ _))
  · intro m hm
    rw [← hrows] at hm
    have hmem := List.mem_of_mem_take hm
    rw [List.mem_filter] at hmem
    exact Table.get_of_mem (Table.mem_of_mem_visit hmem.left)

/-!
## The finalizers
-/

/-- The callback was not applied. -/
def InboxFinalizationResult.refused (r : InboxFinalizationResult) : Prop :=
  r.outcome = InboxFinalizationOutcome.failed ∨
    r.outcome = InboxFinalizationOutcome.retryScheduled

/-- An attempt that ends without an effect on the aggregate. -/
def EndedUnprocessed (claimed : ClaimedInboxMessage)
    (result : InboxFinalizationResult) (db db' : Database) : Prop :=
  result.refused ∧ exists e m a, InboxFinished claimed.inboxId e m a db db' ∧
    e.isProcessed = false

theorem failCallback_spec {claimed : ClaimedInboxMessage} {lease : InboxLease}
    {now : Time} {code : String} {kind : ProviderAggregateType} {db db' : Database}
    {result : InboxFinalizationResult}
    (h : failCallback claimed lease now code kind db = Except.ok (result, db')) :
    EndedUnprocessed claimed result db db' := by
  simp only [failCallback, Transaction.bind_eq_ok, Transaction.pure_eq_ok,
    Prod.mk.injEq] at h
  rcases h with ⟨_, _, hfail, rfl, rfl⟩
  rcases failAttempt_spec hfail with ⟨m, a, hfinished⟩
  exact ⟨Or.inl rfl, _, m, a, hfinished, rfl⟩

theorem retryOrFail_spec {claimed : ClaimedInboxMessage} {lease : InboxLease}
    {attemptsInCycle : Nat} {now availableAt : Time} {kind : ProviderAggregateType}
    {db db' : Database} {result : InboxFinalizationResult}
    (h : retryOrFail claimed lease attemptsInCycle now availableAt kind db =
      Except.ok (result, db')) : EndedUnprocessed claimed result db db' := by
  simp only [retryOrFail, Transaction.ite_eq_ok, Transaction.bind_eq_ok,
    Transaction.pure_eq_ok, Prod.mk.injEq] at h
  rcases h with ⟨_, hfail⟩ | ⟨_, _, _, hretry, rfl, rfl⟩
  · exact failCallback_spec hfail
  · rcases retryAttempt_spec hretry with ⟨m, a, hfinished⟩
    exact ⟨Or.inr rfl, _, m, a, hfinished, rfl⟩

/-- Opening a callback ends its attempt or changes nothing. -/
def Opened (claimed : ClaimedInboxMessage)
    (opened : Except InboxFinalizationResult SettledCallback) (db db' : Database) :
    Prop :=
  match opened with
  | Except.error result => EndedUnprocessed claimed result db db'
  | Except.ok _ => db' = db

theorem settleCommand_spec {claimed : ClaimedInboxMessage} {lease : InboxLease}
    {kind : ProviderAggregateType} {inbox : InboxMessage} {now retryAvailableAt : Time}
    {db db' : Database} {opened : Except InboxFinalizationResult SettledCallback}
    (h : settleCommand claimed lease kind inbox now retryAvailableAt db =
      Except.ok (opened, db')) : Opened claimed opened db db' := by
  unfold settleCommand at h
  rw [Transaction.bind_eq_ok] at h
  rcases h with ⟨found, _, hfound, h⟩
  simp only [Transaction.read_eq_ok, Prod.mk.injEq] at hfound
  rcases hfound with ⟨_, rfl⟩
  cases found with
  | none =>
      simp only [Transaction.map_eq_ok, Prod.mk.injEq] at h
      rcases h with ⟨_, _, hfail, rfl, rfl⟩
      exact failCallback_spec hfail
  | some outbox =>
      simp only [Transaction.bind_eq_ok, Transaction.require_eq_ok,
        Transaction.ite_eq_ok, Transaction.map_eq_ok, Prod.mk.injEq] at h
      rcases h with ⟨_, _, ⟨_, _, rfl⟩, ⟨_, _, _, hfail, rfl, rfl⟩ | ⟨_, _, _,
        ⟨_, _, rfl⟩, ⟨_, _, _, hfail, rfl, rfl⟩ | ⟨_, h⟩⟩⟩
      · exact failCallback_spec hfail
      · exact failCallback_spec hfail
      · cases hready : decideInboxOutboxReadiness outbox.status with
        | retry =>
            rw [hready] at h
            simp only [Transaction.bind_eq_ok, Transaction.require_eq_ok,
              Transaction.map_eq_ok, Prod.mk.injEq] at h
            rcases h with ⟨_, _, ⟨_, _, rfl⟩, _, _, hretry, rfl, rfl⟩
            exact retryOrFail_spec hretry
        | ready =>
            rw [hready] at h
            simp only [Transaction.pure_eq_ok, Prod.mk.injEq] at h
            rcases h with ⟨rfl, rfl⟩
            rfl
        | dead =>
            rw [hready] at h
            simp only [Transaction.pure_eq_ok, Prod.mk.injEq] at h
            rcases h with ⟨rfl, rfl⟩
            rfl

theorem lockInbox_spec {claimed : ClaimedInboxMessage} {databaseNow : Time}
    {db db' : Database} {locked : InboxMessage × Time}
    (h : lockInbox claimed databaseNow db = Except.ok (locked, db')) : db' = db := by
  simp only [lockInbox, Transaction.bind_eq_ok, Transaction.fetch_eq_ok,
    Transaction.require_eq_ok, Transaction.pure_eq_ok, Prod.mk.injEq] at h
  rcases h with ⟨_, _, ⟨_, rfl⟩, _, _, ⟨_, rfl⟩, _, _, ⟨_, _, rfl⟩, _, _, ⟨_, rfl⟩, _, _,
    ⟨_, _, rfl⟩, _, rfl⟩
  rfl

theorem openCallback_spec {claimed : ClaimedInboxMessage} {lease : InboxLease}
    {kind : ProviderAggregateType} {wrongKind : String}
    {databaseNow retryAvailableAt : Time} {db db' : Database}
    {opened : Except InboxFinalizationResult SettledCallback}
    (h : openCallback claimed lease kind wrongKind databaseNow retryAvailableAt db =
      Except.ok (opened, db')) : Opened claimed opened db db' := by
  simp only [openCallback, Transaction.bind_eq_ok, Transaction.require_eq_ok,
    Transaction.ite_eq_ok, Transaction.map_eq_ok, Prod.mk.injEq] at h
  rcases h with ⟨locked, db₁, hlock, _, _, ⟨_, _, rfl⟩,
    ⟨_, _, _, hfail, rfl, rfl⟩ | ⟨_, _, _, ⟨_, _, rfl⟩, hsettle⟩⟩
  · rw [lockInbox_spec hlock] at hfail
    exact failCallback_spec hfail
  · rw [lockInbox_spec hlock] at hsettle
    exact settleCommand_spec hsettle

theorem callbackKey_under (rest : String) :
    KeyUnder Writer.callback.head ("provider-webhook:" ++ rest) := by
  refine ⟨rest, ?_⟩
  have hhead : "provider-webhook:" = Writer.callback.head ++ ":" := rfl
  rw [hhead]

theorem decide_apply {current target : OperationRecordStatus}
    {status : ProviderCommandExecutionStatus} {reference incoming : Option String}
    (haction : (decideOrderOperationCallback current status reference incoming).action =
      InboxAction.apply)
    (htarget : (decideOrderOperationCallback current status reference
      incoming).targetStatus = some target) :
    (current = OperationRecordStatus.submitted ∨
        current = OperationRecordStatus.processing) ∧
      (target = OperationRecordStatus.processing ∨
        target = OperationRecordStatus.completed ∨
        target = OperationRecordStatus.rejected) ∧
      target ∈ allowedStatusTransitions current := by
  unfold decideOrderOperationCallback at haction htarget
  by_cases hcompatible : providerReferenceIsCompatible reference incoming = false
  · rw [if_pos hcompatible] at haction
    cases haction
  · rw [if_neg hcompatible] at haction htarget
    cases current <;> cases status <;>
      simp_all [decideStatusMatrix, callbackTarget, allowedStatusTransitions]

theorem decide_duplicate {current : OperationRecordStatus}
    {status : ProviderCommandExecutionStatus} {reference incoming : Option String}
    (haction : (decideOrderOperationCallback current status reference incoming).action =
      InboxAction.duplicate) :
    current ≠ OperationRecordStatus.pendingConfirmation ∧
      current ≠ OperationRecordStatus.queued ∧
      current ≠ OperationRecordStatus.manualReview := by
  unfold decideOrderOperationCallback at haction
  by_cases hcompatible : providerReferenceIsCompatible reference incoming = false
  · rw [if_pos hcompatible] at haction
    cases haction
  · rw [if_neg hcompatible] at haction
    cases current <;> simp_all

theorem decide_compatible {current : OperationRecordStatus}
    {status : ProviderCommandExecutionStatus} {reference incoming : Option String}
    (haction : (decideOrderOperationCallback current status reference incoming).action =
      InboxAction.apply) : providerReferenceIsCompatible reference incoming = true := by
  unfold decideOrderOperationCallback at haction
  by_cases hcompatible : providerReferenceIsCompatible reference incoming = false
  · rw [if_pos hcompatible] at haction
    cases haction
  · exact Bool.not_eq_false _ ▸ hcompatible

/-- What a finalizer call does: it ends one attempt and changes at most one row. -/
structure CallbackFinished (claimed : ClaimedInboxMessage)
    (result : InboxFinalizationResult) (l : Label) (db db' : Database) : Prop where
  move : Move l db db'
  outbox : l.outbox = OutboxLabel.keep
  ended : exists e m a, l.inbox = InboxLabel.finish e m a ∧
    m.inboxId = claimed.inboxId ∧ (e.isProcessed = true ↔ ¬result.refused)
  refused : result.refused ->
    l.operation = OperationLabel.keep ∧ l.case = CaseLabel.keep

theorem EndedUnprocessed.finished {claimed : ClaimedInboxMessage}
    {result : InboxFinalizationResult} {db db' : Database}
    (h : EndedUnprocessed claimed result db db') :
    exists l, CallbackFinished claimed result l db db' ∧
      l.operation = OperationLabel.keep ∧ l.case = CaseLabel.keep := by
  rcases h with ⟨hrefused, e, m, a, hfinished, hprocessed⟩
  refine ⟨_, ⟨hfinished.move, rfl, ⟨e, m, a, rfl, hfinished.message, ?_⟩,
    fun _ => ⟨rfl, rfl⟩⟩, rfl, rfl⟩
  rw [hprocessed]
  exact ⟨fun hf => (by cases hf), fun hn => absurd hrefused hn⟩

structure ReadOperation (row o : OrderOperation) (db : Database) : Prop where
  get : db.operations.rows.get o.operationId = some row
  status : o.status = row.status
  version : o.version = row.version
  id : o.operationId = row.operationId
  reference : o.providerReference = row.providerReference.map Text.trim

theorem ReadOperation.of_row {row o : OrderOperation} {db : Database} {id : UUID}
    (hget : db.operations.rows.get id = some row) (hrow : row.ofRow? = some o) :
    ReadOperation row o db := by
  rcases OrderOperation.ofRow?_eq_some hrow with ⟨rfl, _⟩
  refine ⟨?_, rfl, rfl, rfl, rfl⟩
  show db.operations.rows.get row.operationId = some row
  rw [Table.get_key hget]
  exact hget

/-- The status of an operation and its reference, as the finalizer reads them. -/
structure Standing where
  status : OperationRecordStatus
  reference : Option String
deriving DecidableEq

def OrderOperation.standing (o : OrderOperation) : Standing :=
  ⟨o.status, o.providerReference.map Text.trim⟩

/-- The decision that the policy takes on a standing. -/
def Standing.decision (p : Standing) (event : ProviderWebhookEventData) : InboxDecision :=
  decideOrderOperationCallback p.status event.commandStatus p.reference
    (incomingReference event)

/-- What becomes of a standing when a callback of a published command meets it. -/
def Standing.meet (p : Standing) (event : ProviderWebhookEventData) : Standing :=
  match (p.decision event).action, (p.decision event).targetStatus with
  | InboxAction.apply, some target =>
      ⟨target, (incomingReference event).orElse fun _ => p.reference⟩
  | InboxAction.duplicate, _ =>
      ⟨p.status, p.reference.orElse fun _ => incomingReference event⟩
  | _, _ => p

/-- A label that gives an operation a standing. -/
def OperationLabel.Leads (row : OrderOperation) (p : Standing) : OperationLabel -> Prop
  | keep => p = row.standing
  | update _ o o' _ => o = row ∧ o'.standing = p
  | create _ _ => False

theorem ReadOperation.standing {row o : OrderOperation} {db : Database}
    (h : ReadOperation row o db) : row.standing = ⟨o.status, o.providerReference⟩ := by
  rw [h.status, h.reference]
  rfl

theorem incomingReference_trim (event : ProviderWebhookEventData) :
    (incomingReference event).map Text.trim = incomingReference event := by
  unfold incomingReference
  rw [Option.map_map]
  congr 1
  funext t
  exact t.clean.left

theorem callbackFinished_of_operation {claimed : ClaimedInboxMessage}
    {lease : InboxLease} {now : Time} {result : InboxFinalizationResult}
    {o n : OrderOperation} {e : List OrderOperationEvent} {db db₁ db₂ : Database}
    (hsteps : Steps { operation := OperationLabel.update Writer.callback o n e } db
      db₁) (hchange : CallbackChange o n) (hsingle : e.length ≤ 1)
    (hprocess : processCallback claimed lease now db₁ = Except.ok ((), db₂))
    (hresult : ¬result.refused) :
    exists l, CallbackFinished claimed result l db db₂ ∧ l.case = CaseLabel.keep ∧
      exists es, l.operation = OperationLabel.update Writer.callback o n es := by
  rcases processCallback_spec hprocess with ⟨m, a, hfinished⟩
  exact ⟨_, ⟨(hsteps.thenInbox rfl hfinished.touches hfinished.step).move
      (Combination.callbackOperation hchange hsingle), rfl,
    ⟨_, m, a, rfl, hfinished.message, fun _ => hresult, fun _ => rfl⟩,
    fun hr => absurd hr hresult⟩, rfl, e, rfl⟩

theorem callbackFinished_of_process {claimed : ClaimedInboxMessage}
    {lease : InboxLease} {now : Time} {result : InboxFinalizationResult}
    {db db' : Database}
    (hprocess : processCallback claimed lease now db = Except.ok ((), db'))
    (hresult : ¬result.refused) :
    exists l, CallbackFinished claimed result l db db' ∧ l.case = CaseLabel.keep ∧
      l.operation = OperationLabel.keep := by
  rcases processCallback_spec hprocess with ⟨m, a, hfinished⟩
  exact ⟨_, ⟨hfinished.move, rfl, ⟨_, m, a, rfl, hfinished.message, fun _ => hresult,
    fun _ => rfl⟩, fun hr => absurd hr hresult⟩, rfl, rfl⟩

theorem applied_reference {stored read incoming : Option String}
    (hread : read = stored.map Text.trim)
    (hcompatible : providerReferenceIsCompatible read incoming = true) :
    stored = none ∨ (incoming.orElse fun _ => read) = stored ∨
      (incoming.orElse fun _ => read) = stored.map Text.trim := by
  unfold providerReferenceIsCompatible at hcompatible
  cases hincoming : incoming with
  | none => exact Or.inr (Or.inr hread)
  | some r =>
      rw [hincoming] at hcompatible
      cases hstored : stored with
      | none => exact Or.inl rfl
      | some s =>
          rw [hread, hstored] at hcompatible
          have hsame : some (Text.trim s) = some r := by simpa using hcompatible
          exact Or.inr (Or.inr hsame.symm)

theorem applyCallback_spec {claimed : ClaimedInboxMessage} {lease : InboxLease}
    {row o : OrderOperation} {target : OperationRecordStatus}
    {incoming : Option String} {now : Time} {db db' : Database}
    {result : InboxFinalizationResult}
    (h : applyCallback claimed lease o target incoming now db =
      Except.ok (result, db')) (hread : ReadOperation row o db)
    (hbefore : o.status = OperationRecordStatus.submitted ∨
      o.status = OperationRecordStatus.processing)
    (hafter : target = OperationRecordStatus.processing ∨
      target = OperationRecordStatus.completed ∨
      target = OperationRecordStatus.rejected)
    (hallowed : target ∈ allowedStatusTransitions o.status)
    (hcompatible : providerReferenceIsCompatible o.providerReference incoming = true) :
    exists l, CallbackFinished claimed result l db db' ∧ l.case = CaseLabel.keep ∧
      exists es, l.operation = OperationLabel.update Writer.callback row
        (o.setCallback target (incoming.orElse fun _ => o.providerReference) now row)
        es := by
  simp only [applyCallback, updateCurrentOperation, Transaction.bind_eq_ok,
    Transaction.require_eq_ok, Transaction.pure_eq_ok, Prod.mk.injEq] at h
  rcases h with ⟨_, _, ⟨_, db₁, hup, rfl, _, rfl⟩, eventId, db₂, hid, reference, db₃,
    hparse, _, db₄, hins, _, db₅, hprocess, rfl, rfl⟩
  rcases updateOperation_spec hup with ⟨r, hr, _, hchecks, hfree, hrows, hevents, htouch⟩
  have hrr : r = row := Option.some.inj (hr.symm.trans hread.get)
  subst hrr
  have hdrawn := newId_spec hid
  rcases parseReference_eq_ok hparse with ⟨hparsed, hdb₃⟩
  simp only at hparsed hdb₃
  subst hdb₃
  have happended := insertOperationEvent_spec hins
  have hall := hdrawn.eventsAppended.trans happended
  refine callbackFinished_of_operation
    (o := r) (n := o.setCallback target
      (incoming.orElse fun _ => o.providerReference) now r)
    (e := [statusChangedEvent o eventId
      ("provider-webhook:" ++ toString claimed.inboxId ++ ":operation-status") target
      reference "system" now])
    ((Steps.refl db).thenOperation rfl (htouch.trans hall.touches)
      (OperationStep.of_update ?_ hfree ?_ ?_ ?_ ?_) ?_) ⟨?_, rfl, rfl⟩ (Nat.le_refl 1)
    hprocess (fun hr => (by rcases hr with hr | hr <;> cases hr))
  · rw [← hread.id]
    exact hread.get
  · rw [hall.rows, hrows]
  · rw [hall.appended, hevents]
    rfl
  · have hunused := hall.unused
    rw [hevents] at hunused
    exact hunused
  · constructor
    · rfl
    · rfl
    · exact congrArg (· + 1) hread.version
    · exact hchecks
    · refine Or.inr ⟨Or.inl ?_, _, rfl, congrArg some hread.status, rfl⟩
      rw [← hread.status]
      exact hallowed
    · intro e he
      rw [List.mem_singleton.mp he]
      exact hread.id
    · intro e he
      rw [List.mem_singleton.mp he]
      have hkey := callbackKey_under (toString claimed.inboxId ++ ":operation-status")
      rw [← String.append_assoc] at hkey
      exact hkey
    · refine ⟨fun _ => OrderOperation.legible_of_parsed hparsed, ?_, fun hafter' => ?_⟩
      · exact Or.inr (applied_reference hread.reference hcompatible)
      · rcases hafter with htarget | htarget | htarget <;> subst htarget <;>
          rcases hafter' with h | h | h <;> cases h
  · intro e he
    rw [List.mem_singleton.mp he]
    exact hdrawn.issued.mono happended.touches.ids
  · rw [← hread.status]
    exact Or.inr ⟨hbefore, hafter⟩

theorem absorbCallback_spec {claimed : ClaimedInboxMessage} {lease : InboxLease}
    {row o : OrderOperation} {outcome : InboxFinalizationOutcome}
    {incoming : Option String} {now : Time} {db db' : Database}
    {result : InboxFinalizationResult}
    (h : absorbCallback claimed lease o outcome incoming now db =
      Except.ok (result, db')) (hread : ReadOperation row o db)
    (houtcome : outcome = InboxFinalizationOutcome.duplicate ∨
      outcome = InboxFinalizationOutcome.stale)
    (hstatus : outcome = InboxFinalizationOutcome.duplicate ->
      o.status ≠ OperationRecordStatus.pendingConfirmation ∧
        o.status ≠ OperationRecordStatus.queued ∧
        o.status ≠ OperationRecordStatus.manualReview)
    (hincoming : exists t : Option CleanText, incoming = t.map CleanText.text) :
    exists l, CallbackFinished claimed result l db db' ∧ l.case = CaseLabel.keep ∧
      if outcome = InboxFinalizationOutcome.duplicate ∧
          o.providerReference = none ∧ incoming ≠ none then
        exists es, l.operation = OperationLabel.update Writer.callback row
          (o.setReference incoming now row) es
      else
        l.operation = OperationLabel.keep := by
  have hresult : ¬({ outcome := outcome
                     aggregateType := ProviderAggregateType.orderOperation
                     previousStatus := some o.status
                     currentStatus := some o.status } :
      InboxFinalizationResult).refused := by
    rcases houtcome with rfl | rfl <;> rintro (hr | hr) <;> cases hr
  simp only [absorbCallback, updateCurrentOperation, Transaction.bind_eq_ok,
    Transaction.ite_eq_ok, Transaction.require_eq_ok, Transaction.pure_eq_ok,
    Prod.mk.injEq] at h
  rcases h with ⟨hfill, _, _, ⟨_, db₁, hup, rfl, _, rfl⟩, _, db₂, hprocess, rfl, rfl⟩ |
    ⟨hfill, _, db₂, hprocess, rfl, rfl⟩
  · simp only [if_pos hfill]
    rcases updateOperation_spec hup with
      ⟨r, hr, _, hchecks, hfree, hrows, hevents, htouch⟩
    have hrr : r = row := Option.some.inj (hr.symm.trans hread.get)
    subst hrr
    refine callbackFinished_of_operation (o := r) (n := o.setReference incoming now r)
      (e := []) ((Steps.refl db).thenOperation rfl htouch
        (OperationStep.of_update ?_ hfree hrows ?_ ?_ ?_) ?_) ⟨?_, rfl, rfl⟩
      (Nat.zero_le 1) hprocess hresult
    · rw [← hread.id]
      exact hread.get
    · rw [hevents, List.append_nil]
    · simp
    · have hempty : r.providerReference = none := by
        have hnone := hread.reference.symm.trans hfill.right.left
        exact Option.map_eq_none_iff.mp hnone
      rcases hincoming with ⟨t, rfl⟩
      refine ⟨rfl, rfl, congrArg (· + 1) hread.version, hchecks, Or.inl ⟨rfl, rfl⟩, by simp,
        by simp, fun _ => OrderOperation.legible_of_parsed (t := t) ?_,
        Or.inr (Or.inl hempty), fun hafter => ?_⟩
      · show t.map CleanText.text = (t.map CleanText.text).map Text.trim
        cases t with
        | none => rfl
        | some t => exact congrArg some t.clean.left.symm
      have hpast := hstatus hfill.left
      rw [hread.status] at hpast
      rcases hafter with h | h | h
      · exact absurd h hpast.left
      · exact absurd h hpast.right.left
      · exact absurd h hpast.right.right
    · simp [OperationLabel.events]
    · refine Or.inl ⟨rfl, ?_⟩
      rw [← hread.status]
      exact hstatus hfill.left
  · simp only [if_neg hfill]
    exact callbackFinished_of_process hprocess hresult

section Meeting

variable {claimed : ClaimedInboxMessage} {lease : InboxLease} {row o : OrderOperation}
  {event : ProviderWebhookEventData} {now : Time} {db db' : Database}
  {result : InboxFinalizationResult}

theorem Standing.meet_kept {p : Standing} (hstale : (p.decision event).action =
      InboxAction.conflict ∨ (p.decision event).action = InboxAction.stale) :
    p.meet event = p := by
  unfold Standing.meet
  rcases hstale with h | h
  · simp only [h]
  · simp only [h]

theorem Standing.meet_apply {p : Standing} {target : OperationRecordStatus}
    (haction : (p.decision event).action = InboxAction.apply)
    (htarget : (p.decision event).targetStatus = some target) :
    p.meet event = ⟨target, (incomingReference event).orElse fun _ => p.reference⟩ := by
  unfold Standing.meet
  simp only [haction, htarget]

theorem Standing.meet_duplicate {p : Standing}
    (haction : (p.decision event).action = InboxAction.duplicate) :
    p.meet event =
      ⟨p.status, p.reference.orElse fun _ => incomingReference event⟩ := by
  unfold Standing.meet
  simp only [haction]

theorem ReadOperation.reference_trim (hread : ReadOperation row o db) :
    o.providerReference.map Text.trim = o.providerReference := by
  rw [hread.reference]
  cases row.providerReference with
  | none => rfl
  | some t => exact congrArg some (Text.trim_trim t)

theorem applyCallback_leads {target : OperationRecordStatus}
    (hread : ReadOperation row o db)
    (haction : (row.standing.decision event).action = InboxAction.apply)
    (htarget : (row.standing.decision event).targetStatus = some target)
    (h : applyCallback claimed lease o target (incomingReference event) now db =
      Except.ok (result, db')) :
    exists l, CallbackFinished claimed result l db db' ∧ l.case = CaseLabel.keep ∧
      l.operation.Leads row (row.standing.meet event) := by
  rcases decide_apply haction htarget with ⟨hbefore, hafter, hallowed⟩
  have hstatus : row.standing.status = o.status := hread.status.symm
  rw [hstatus] at hbefore hallowed
  rcases applyCallback_spec h hread hbefore hafter hallowed
    (by rw [hread.standing] at haction; exact decide_compatible haction) with
    ⟨l, hl, hcase, es, hoperation⟩
  refine ⟨l, hl, hcase, ?_⟩
  rw [hoperation, Standing.meet_apply haction htarget, hread.standing]
  refine ⟨rfl, ?_⟩
  cases hincoming : incomingReference event with
  | none => exact congrArg (Standing.mk target) hread.reference_trim
  | some t =>
      have htrim := incomingReference_trim event
      rw [hincoming] at htrim
      exact congrArg (Standing.mk target) htrim

theorem absorbDuplicate_leads (hread : ReadOperation row o db)
    (haction : (row.standing.decision event).action = InboxAction.duplicate)
    (h : absorbCallback claimed lease o InboxFinalizationOutcome.duplicate
      (incomingReference event) now db = Except.ok (result, db')) :
    exists l, CallbackFinished claimed result l db db' ∧ l.case = CaseLabel.keep ∧
      l.operation.Leads row (row.standing.meet event) := by
  have hstatus : row.standing.status = o.status := hread.status.symm
  have hpast := decide_duplicate haction
  rw [hstatus] at hpast
  rcases absorbCallback_spec h hread (Or.inl rfl) (fun _ => hpast)
    ⟨_, rfl⟩ with
    ⟨l, hl, hcase, hoperation⟩
  refine ⟨l, hl, hcase, ?_⟩
  rw [Standing.meet_duplicate haction, hread.standing]
  by_cases hfill : o.providerReference = none ∧ incomingReference event ≠ none
  · rw [if_pos ⟨rfl, hfill⟩] at hoperation
    rcases hoperation with ⟨es, hoperation⟩
    rw [hoperation, hfill.left]
    refine ⟨rfl, ?_⟩
    show (⟨row.status, (incomingReference event).map Text.trim⟩ : Standing) = _
    rw [incomingReference_trim, hread.status]
    rfl
  · rw [if_neg fun hno => hfill hno.right] at hoperation
    rw [hoperation]
    show _ = row.standing
    rw [hread.standing]
    congr 1
    cases hreference : o.providerReference with
    | some t => rfl
    | none => exact not_not.mp fun hno => hfill ⟨hreference, hno⟩

theorem absorbStale_leads (hread : ReadOperation row o db)
    (haction : (row.standing.decision event).action = InboxAction.stale)
    (h : absorbCallback claimed lease o InboxFinalizationOutcome.stale
      (incomingReference event) now db = Except.ok (result, db')) :
    exists l, CallbackFinished claimed result l db db' ∧ l.case = CaseLabel.keep ∧
      l.operation.Leads row (row.standing.meet event) := by
  rcases absorbCallback_spec h hread (Or.inr rfl) (fun hno => (by cases hno))
    ⟨_, rfl⟩ with
    ⟨l, hl, hcase, hoperation⟩
  rw [if_neg fun hno => (by cases hno.left)] at hoperation
  refine ⟨l, hl, hcase, ?_⟩
  rw [hoperation, Standing.meet_kept (Or.inr haction)]
  exact rfl

end Meeting

theorem meetOperation_spec {claimed : ClaimedInboxMessage} {lease : InboxLease}
    {row o : OrderOperation} {c : SettledCallback} {db db' : Database}
    {result : InboxFinalizationResult}
    (h : meetOperation claimed lease c o db = Except.ok (result, db'))
    (hread : ReadOperation row o db) :
    exists l p, CallbackFinished claimed result l db db' ∧ l.case = CaseLabel.keep ∧
      l.operation.Leads row p ∧
      (c.dead = false -> p = row.standing.meet c.inbox.payload) := by
  have hended : EndedUnprocessed claimed result db db' ->
      (c.dead = false -> row.standing.meet c.inbox.payload = row.standing) ->
      exists l p, CallbackFinished claimed result l db db' ∧ l.case = CaseLabel.keep ∧
        l.operation.Leads row p ∧
        (c.dead = false -> p = row.standing.meet c.inbox.payload) := by
    intro hended hsame
    rcases hended.finished with ⟨l, hl, hoperation, hcase⟩
    refine ⟨l, row.standing, hl, hcase, ?_, fun hdead => (hsame hdead).symm⟩
    rw [hoperation]
    exact rfl
  have hled : (exists l, CallbackFinished claimed result l db db' ∧
      l.case = CaseLabel.keep ∧
        l.operation.Leads row (row.standing.meet c.inbox.payload)) ->
      exists l p, CallbackFinished claimed result l db db' ∧ l.case = CaseLabel.keep ∧
        l.operation.Leads row p ∧
        (c.dead = false -> p = row.standing.meet c.inbox.payload) := by
    rintro ⟨l, hl, hcase, hleads⟩
    exact ⟨l, _, hl, hcase, hleads, fun _ => rfl⟩
  have hdecision : decideOrderOperationCallback o.status c.inbox.payload.commandStatus
      o.providerReference (incomingReference c.inbox.payload) =
      row.standing.decision c.inbox.payload := by
    rw [hread.standing]
    rfl
  simp only [meetOperation, Transaction.ite_eq_ok, Transaction.bind_eq_ok,
    Transaction.fetch_eq_ok, hdecision] at h
  rcases h with ⟨hconflict, hfail⟩ | ⟨hmet, ⟨hdead, hfail⟩ | ⟨_, ⟨happly, target, _,
    ⟨htarget, rfl⟩, hcallback⟩ | ⟨happly, ⟨hduplicate, habsorb⟩ | ⟨hfresh, habsorb⟩⟩⟩⟩
  · exact hended (failCallback_spec hfail) fun _ => Standing.meet_kept (Or.inl hconflict)
  · refine hended (failCallback_spec hfail) fun halive => ?_
    rw [hdead.left] at halive
    cases halive
  · exact hled (applyCallback_leads hread happly htarget hcallback)
  · exact hled (absorbDuplicate_leads hread hduplicate habsorb)
  · refine hled (absorbStale_leads hread ?_ habsorb)
    cases haction : (row.standing.decision c.inbox.payload).action with
    | apply => exact absurd haction happly
    | duplicate => exact absurd haction hfresh
    | stale => rfl
    | conflict => exact absurd haction hmet

theorem finalizeOrderOperation_spec {claimed : ClaimedInboxMessage}
    {retryAvailableAt databaseNow : Time} {db db' : Database}
    {result : InboxFinalizationResult}
    (h : finalizeOrderOperation claimed retryAvailableAt databaseNow db =
      Except.ok (result, db')) :
    exists l, CallbackFinished claimed result l db db' ∧ l.case = CaseLabel.keep := by
  have hended : EndedUnprocessed claimed result db db' ->
      exists l, CallbackFinished claimed result l db db' ∧ l.case = CaseLabel.keep := by
    intro hended
    rcases hended.finished with ⟨l, hl, _, hcase⟩
    exact ⟨l, hl, hcase⟩
  simp only [finalizeOrderOperation, Transaction.translate_eq_ok] at h
  rw [Transaction.bind_eq_ok] at h
  rcases h with ⟨lease, _, hlease, h⟩
  simp only [Transaction.fetch_eq_ok] at hlease
  rcases hlease with ⟨_, rfl⟩
  rw [Transaction.bind_eq_ok] at h
  rcases h with ⟨opened, db₁, hopen, h⟩
  have hopened := openCallback_spec hopen
  cases opened with
  | error r =>
      simp only [Transaction.pure_eq_ok, Prod.mk.injEq] at h
      rcases h with ⟨rfl, rfl⟩
      exact hended hopened
  | ok c =>
      simp only [Opened] at hopened
      subst hopened
      simp only at h
      rw [Transaction.bind_eq_ok] at h
      rcases h with ⟨found, _, hfound, h⟩
      simp only [Transaction.read_eq_ok, Prod.mk.injEq] at hfound
      rcases hfound with ⟨hfound, rfl⟩
      cases found with
      | none => exact hended (failCallback_spec h)
      | some row =>
          simp only [Transaction.bind_eq_ok, operationFromRow_eq_ok,
            Transaction.ite_eq_ok] at h
          rcases h with ⟨o, _, ⟨hrow, rfl⟩, ⟨_, hfail⟩ | ⟨_, hmeet⟩⟩
          · exact hended (failCallback_spec hfail)
          · rcases meetOperation_spec hmeet (ReadOperation.of_row hfound hrow) with
              ⟨l, _, hl, hcase, _⟩
            exact ⟨l, hl, hcase⟩

theorem keysApart_of_callback {c : SupportCase} {ev : SupportCaseEvent}
    (h : KeyUnder Writer.callback.head ev.idempotencyKey) :
    (CaseLabel.record c ev).KeysApart := by
  intro e he hunder
  rw [List.mem_singleton.mp he] at hunder
  cases Writer.eq_of_key hunder h

/-- What `finalize_support_case` does: it never touches the case row. -/
theorem finalizeSupportCase_spec {claimed : ClaimedInboxMessage}
    {retryAvailableAt databaseNow : Time} {db db' : Database}
    {result : InboxFinalizationResult}
    (h : finalizeSupportCase claimed retryAvailableAt databaseNow db =
      Except.ok (result, db')) :
    exists l, CallbackFinished claimed result l db db' ∧
      l.operation = OperationLabel.keep ∧ db'.cases.rows = db.cases.rows := by
  have hended : EndedUnprocessed claimed result db db' ->
      exists l, CallbackFinished claimed result l db db' ∧
        l.operation = OperationLabel.keep ∧ db'.cases.rows = db.cases.rows := by
    intro hended
    rcases hended.finished with ⟨l, hl, hop, hcase⟩
    have hstep := hl.move.case
    rw [hcase] at hstep
    exact ⟨l, hl, hop, by rw [hstep.eq_of_keep]⟩
  simp only [finalizeSupportCase, Transaction.translate_eq_ok] at h
  rw [Transaction.bind_eq_ok] at h
  rcases h with ⟨lease, _, hlease, h⟩
  simp only [Transaction.fetch_eq_ok] at hlease
  rcases hlease with ⟨_, rfl⟩
  rw [Transaction.bind_eq_ok] at h
  rcases h with ⟨opened, db₁, hopen, h⟩
  have hopened := openCallback_spec hopen
  cases opened with
  | error r =>
      simp only [Transaction.pure_eq_ok, Prod.mk.injEq] at h
      rcases h with ⟨rfl, rfl⟩
      exact hended hopened
  | ok c =>
      simp only [Opened] at hopened
      subst hopened
      simp only at h
      rw [Transaction.bind_eq_ok] at h
      rcases h with ⟨found, _, hfound, h⟩
      simp only [Transaction.read_eq_ok, Prod.mk.injEq] at hfound
      rcases hfound with ⟨hfound, rfl⟩
      cases found with
      | none => exact hended (failCallback_spec h)
      | some row =>
          simp only [Transaction.bind_eq_ok, caseFromRow_eq_ok, Transaction.ite_eq_ok,
            Transaction.pure_eq_ok, Prod.mk.injEq] at h
          rcases h with ⟨_, _, ⟨_, rfl, rfl⟩, ⟨_, hfail⟩ | ⟨_, eventId, db₂, hid,
            reference, db₃, hparse, _, db₄, hins, _, db₅, hprocess, rfl, rfl⟩⟩
          · exact hended (failCallback_spec hfail)
          · have hdb₃ : db₃ = db₂ := (parseReference_eq_ok hparse).right
            subst hdb₃
            have hdrawn := newId_spec hid
            have hwritten := (insertCaseEvent_spec hins).afterId hdrawn
            have hissued := hdrawn.issued.mono (insertCaseEvent_spec hins).touches.ids
            rcases processCallback_spec hprocess with ⟨m, a, hfinished⟩
            have hkey := callbackKey_under
              (toString c.inbox.inboxId ++ ":case-provider-update")
            rw [← String.append_assoc] at hkey
            have hstep := CaseStep.record (by rw [Table.get_key hfound]; exact hfound)
              ⟨rfl, rfl, rfl⟩ hwritten.rows ⟨hwritten.appended, hwritten.unused⟩
              (not_redriveKey (Writer.colon_not_mem_head Writer.callback) (by decide)
                hkey) (providerUpdateEvent_recounts rfl)
            have hsteps := (Steps.refl db₁).thenCase rfl hwritten.touches hstep (by
              intro e he
              rw [List.mem_singleton.mp he]
              exact hissued)
            refine ⟨_, ⟨(hsteps.thenInbox rfl hfinished.touches hfinished.step).move
              (Combination.callbackCase (keysApart_of_callback hkey)), rfl, ⟨_, m, a, rfl,
                hfinished.message, fun _ => ?_, fun _ => rfl⟩, fun hr => ?_⟩, rfl, ?_⟩
            · rintro (hr | hr) <;> cases hr
            · rcases hr with hr | hr <;> cases hr
            · rw [hfinished.touches.cases (by decide), hwritten.rows]

/-!
## Redrive
-/

theorem redriveInboxTransaction_move {scope : AccessScope} {inboxId : UUID}
    {request : ProviderRedriveRequest} {missed : Bool} {clock : Nat -> Time}
    {db db' : Database} {view : ProviderRedriveView}
    (h : redriveInboxTransaction scope inboxId request missed clock db =
      Except.ok (view, db')) :
    db' = db ∨ exists m m', Move { inbox := InboxLabel.redrive m m' } db db' := by
  unfold redriveInboxTransaction at h
  rw [Transaction.bind_eq_ok] at h
  rcases h with ⟨m, _, hfetch, h⟩
  simp only [Transaction.fetch_eq_ok, Option.filter_eq_some_iff] at hfetch
  rcases hfetch with ⟨⟨hm, htenant⟩, rfl⟩
  rw [Transaction.bind_eq_ok] at h
  rcases h with ⟨replay, _, hreplay, h⟩
  simp only [Transaction.read_eq_ok, Prod.mk.injEq] at hreplay
  rcases hreplay with ⟨_, rfl⟩
  cases replay with
  | some row => exact Or.inl (answer_eq_ok h)
  | none =>
      simp only [beginInboxCycle, Transaction.bind_eq_ok, Transaction.require_eq_ok,
        Transaction.pure_eq_ok, Prod.mk.injEq] at h
      rcases h with ⟨_, _, ⟨_, _, rfl⟩, redriveId, db₁,
        hid, _, db₂, hup, _, _, ⟨rfl, _, rfl⟩, _, db₃, hins, _, rfl⟩
      have hdrawn := newId_spec hid
      have hkey := Table.get_key hm
      rcases updateInbox_spec hup with ⟨r, hr, hp, hout, htouch⟩
      rcases insertInboxRedrive_eq_ok hins with ⟨_, t, ht, hafter⟩
      have hrr : r = m := by
        rw [hdrawn.inbox, hkey, hm] at hr
        exact (Option.some.inj hr).symm
      subst hrr
      simp only [Bool.and_eq_true, decide_eq_true_eq] at hp
      have htouch' : Touches Group.inbox db₂ db₃ := by
        rw [show db₃ = _ from hafter]
        exact ⟨fun _ => rfl, fun _ => rfl, fun _ => rfl, fun hg => absurd rfl hg,
          rfl, db₂.ids.extends_refl⟩
      have hstep : InboxStep (InboxLabel.redrive r (r.setRedriven
          (r.processingCycle + 1) (clock 0) (max (clock 1) r.updatedAt)))
          db₁.inbox db₃.inbox := by
        rw [show db₃.inbox = _ from congrArg Database.inbox hafter, hout]
        refine InboxStep.redrive
          (r := inboxRedriveRow scope r request redriveId (max (clock 1) r.updatedAt))
          (by rw [hdrawn.inbox, hkey]; exact hm) hp.left.right ?_ ⟨rfl, rfl, rfl⟩
        rw [hout] at ht
        exact ht
      have hsteps := ((Steps.refl db₁).afterId hdrawn).thenInbox rfl
        (htouch.trans htouch') hstep
      exact Or.inr ⟨r, _, hsteps.move (Combination.inbox fun e m a hl => (by cases hl))⟩

end RefundAgent
