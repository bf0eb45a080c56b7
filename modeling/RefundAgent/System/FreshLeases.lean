import RefundAgent.System.ActiveOrders

/-!
# Fresh leases

A claim hands out a handle whose texts have been stripped, and the guards compare
it with the columns as they were written.  The handle works exactly when the name
of the worker has no surrounding white space.
-/

namespace RefundAgent

open Foundation

/-!
## Outbox
-/

/-- The row and the open attempt that a claim has left behind its handle. -/
structure HeldCommand (workerId : String) (c : ClaimedOutboxMessage) (m : OutboxMessage)
    (a : OutboxDeliveryAttempt) : Prop where
  handle : c = ClaimedOutboxMessage.ofRow m a
  status : m.status = OutboxDeliveryStatus.processing
  owner : m.leaseOwner = some workerId
  lease : m.leaseId = some a.leaseId
  expiry : exists t, m.leaseExpiresAt = some t
  worker : a.workerId = workerId
  command : a.commandId = m.commandId
  isOpen : a.isOpen = true
  cycle : a.deliveryCycle = m.deliveryCycle
  number : a.attemptNumber = m.attemptsInCycle

/-- The handle is backed by the tables. -/
def Handed (workerId : String) (c : ClaimedOutboxMessage) (db : Database) : Prop :=
  exists m a, HeldCommand workerId c m a ∧
    db.outbox.messages.get c.commandId = some m ∧
    db.outbox.attempts.get c.attempt.attemptId = some a

/-- Leased commands and their attempts are left as they are. -/
def LeasesKept (db db' : Database) : Prop :=
  (forall id m, db.outbox.messages.get id = some m ->
    m.status = OutboxDeliveryStatus.processing ->
    db'.outbox.messages.get id = some m) ∧
  forall id a, db.outbox.attempts.get id = some a -> db'.outbox.attempts.get id = some a

theorem LeasesKept.trans {a b c : Database} (h : LeasesKept a b) (h' : LeasesKept b c) :
    LeasesKept a c := by
  constructor
  · intro id m hm hstatus
    exact h'.left id m (h.left id m hm hstatus) hstatus
  · intro id x hx
    exact h'.right id x (h.right id x hx)

theorem Handed.kept {workerId : String} {c : ClaimedOutboxMessage} {db db' : Database}
    (h : Handed workerId c db) (hkept : LeasesKept db db') : Handed workerId c db' := by
  rcases h with ⟨m, a, hheld, hm, ha⟩
  exact ⟨m, a, hheld, hkept.left _ m hm hheld.status, hkept.right _ a ha⟩

theorem claimOutboxRow_handed {workerId : String} {leaseSeconds : Rat}
    {clock : UUID -> Nat -> Time} {row : OutboxMessage} {db db' : Database}
    {c : ClaimedOutboxMessage}
    (h : claimOutboxRow workerId leaseSeconds clock row db = Except.ok (c, db'))
    (hrow : db.outbox.messages.get row.commandId = some row) (hdue : row.claimable) :
    LeasesKept db db' ∧ Handed workerId c db' ∧
      exists m', db'.outbox.messages = db.outbox.messages.put m' ∧
        m'.commandId = row.commandId := by
  simp only [claimOutboxRow, Transaction.bind_eq_ok, Transaction.fetch_eq_ok,
    Transaction.require_eq_ok, Transaction.pure_eq_ok, Prod.mk.injEq] at h
  rcases h with ⟨leaseId, db₁, hlease, attemptId, db₂, hattempt, _, db₃, hup, _, _,
    ⟨rfl, _, rfl⟩, updated, _, ⟨hupdated, rfl⟩, _, db₄, hins, _, _, ⟨_, _, rfl⟩, rfl, rfl⟩
  rcases updateOutbox_spec hup with ⟨r, hr, _, hout, _⟩
  have hbefore : db₂.outbox = db.outbox :=
    (newId_spec hattempt).outbox.trans (newId_spec hlease).outbox
  have hrr : r = row := by
    rw [hbefore, hrow] at hr
    exact (Option.some.inj hr).symm
  subst hrr
  have hself := Table.get_put_self (r := r.setClaimed leaseId workerId
    (clock r.commandId 1 + seconds leaseSeconds) (clock r.commandId 2)) hrow
  have hupdated' : updated = r.setClaimed leaseId workerId
      (clock r.commandId 1 + seconds leaseSeconds) (clock r.commandId 2) := by
    rw [hout, hbefore] at hupdated
    exact (Option.some.inj (hself.symm.trans hupdated)).symm
  subst hupdated'
  rcases insertDeliveryAttempt_spec hins with ⟨t, ht, hout', _⟩
  rw [hout, hbefore] at ht
  have hafter : db₄.outbox = { db.outbox with
      messages := db.outbox.messages.put (r.setClaimed leaseId workerId
        (clock r.commandId 1 + seconds leaseSeconds) (clock r.commandId 2))
      attempts := t } := by
    rw [hout', hout, hbefore]
  rw [Table.insert?_eq_some] at ht
  refine ⟨⟨?_, ?_⟩, ⟨_, _, ⟨rfl, rfl, rfl, rfl, ⟨_, rfl⟩, rfl, rfl, rfl, rfl, rfl⟩, ?_, ?_⟩,
    r.setClaimed leaseId workerId (clock r.commandId 1 + seconds leaseSeconds)
      (clock r.commandId 2), ?_, rfl⟩
  · intro id m hm hstatus
    rw [hafter, Table.get_put_ne]
    · exact hm
    · -- a command that can be claimed is not leased
      rintro rfl
      have hsame := Option.some.inj (hm.symm.trans hrow)
      rw [hsame] at hstatus
      rcases hdue.left with hpending | hretry
      · rw [hstatus] at hpending
        cases hpending
      · rw [hstatus] at hretry
        cases hretry
  · intro id a ha
    rw [hafter]
    exact Table.get_of_rows_append ht.right ha
  · rw [hafter]
    exact hself
  · rw [hafter]
    exact (Table.get_of_rows_append_singleton ht.right _).trans (if_pos rfl)
  · rw [hafter]

theorem claimDueOutbox_handed {workerId : String} {batchSize : Int}
    {leaseSeconds : Rat} {scan : List UUID} {clock : UUID -> Nat -> Time}
    {db db' : Database} {claimed : List ClaimedOutboxMessage}
    (h : claimDueOutbox workerId batchSize leaseSeconds scan clock db =
      Except.ok (claimed, db')) :
    Text.strip workerId ≠ "" ∧ forall c, c ∈ claimed -> Handed workerId c db' := by
  simp only [claimDueOutbox, Transaction.bind_eq_ok, validateClaimParameters_eq_ok,
    Transaction.translate_eq_ok, Transaction.read_eq_ok, Prod.mk.injEq] at h
  rcases h with ⟨_, _, ⟨hworker, _, _, rfl⟩, rows, _, ⟨rfl, rfl⟩, hloop⟩
  refine ⟨hworker, (Transaction.forEach_relates (R := LeasesKept)
    (P := fun m db => db.outbox.messages.get m.commandId = some m ∧ m.claimable)
    (Q := fun c db => Handed workerId c db)
    (D := fun a b => a.commandId ≠ b.commandId)
    (fun _ => ⟨fun _ _ hm _ => hm, fun _ _ ha => ha⟩) (fun h h' => h.trans h')
    (fun h hc => hc.kept h) ?_ (dueOutbox_pairwise _ _ _ _)
    (fun m hm => dueOutbox_claimable hm) hloop).right⟩
  intro m db c db' hm hbody
  rcases claimOutboxRow_handed hbody hm.left hm.right with ⟨hkept, hhanded, m', hput, hid⟩
  refine ⟨hkept, hhanded, ?_⟩
  intro d hne hd
  refine ⟨?_, hd.right⟩
  rw [hput, Table.get_put_ne]
  · exact hd.left
  · rw [hid]
    exact Ne.symm hne

/-- The command and its attempts are as they were. -/
def CommandUntouched (commandId : UUID) (db db' : Database) : Prop :=
  db'.outbox.messages.get commandId = db.outbox.messages.get commandId ∧
    forall id a, db.outbox.attempts.get id = some a -> a.commandId = commandId ->
      db'.outbox.attempts.get id = some a

namespace OutboxRetry

/-- The retry is scheduled with the handle. -/
def ByHandle (r : OutboxRetry) (c : ClaimedOutboxMessage) : Prop :=
  r.commandId = c.commandId ∧ c.leaseId = some r.leaseId ∧
    c.leaseOwner = some r.leaseOwner ∧ r.attemptId = c.attempt.attemptId

/-- The further arguments pass their own checks. -/
def ArgumentsValid (r : OutboxRetry) : Prop :=
  errorFieldValid r.errorCode ∧ errorFieldValid r.errorMessage ∧
    (forall s, r.retryAfterSeconds = some s -> 0 ≤ s) ∧
    forall n, r.httpStatus = some n -> 100 ≤ n

end OutboxRetry

structure OutboxLeaseUsable (c : ClaimedOutboxMessage) (db : Database) : Prop where
  renews : forall leaseId leaseOwner leaseSeconds clock, c.leaseId = some leaseId ->
    c.leaseOwner = some leaseOwner -> 0 < leaseSeconds ->
    (forall t, c.leaseExpiresAt = some t -> clock 0 < t) ->
    exists db', renewOutboxLease c.commandId leaseId leaseOwner leaseSeconds clock db =
      Except.ok (true, db')
  retries : forall r now, OutboxRetry.ByHandle r c -> r.ArgumentsValid ->
    c.attemptsInCycle < 8 -> exists db', scheduleOutboxRetry r now db = Except.ok ((), db')
  retryConflicts : forall r now id, OutboxRetry.ByHandle r c ->
    scheduleOutboxRetry r now db ≠ Except.error (Failure.leaseConflict id)
  locks : forall databaseNow, (forall t, c.leaseExpiresAt = some t -> databaseNow < t) ->
    exists now, lockClaimedCommand c databaseNow db = Except.ok (now, db)

section Outbox

variable {workerId : String} {c : ClaimedOutboxMessage} {db : Database}

theorem Handed.untouched {db' : Database} (h : Handed workerId c db)
    (hsame : CommandUntouched c.commandId db db') : Handed workerId c db' := by
  rcases h with ⟨m, a, hheld, hm, ha⟩
  have hid := Table.get_key hm
  exact ⟨m, a, hheld, hsame.left.trans hm, hsame.right _ a ha (hheld.command.trans hid)⟩

theorem Handed.locks (h : Handed workerId c db) (htrim : Text.trim workerId = workerId)
    {databaseNow : Time} (hnow : forall t, c.leaseExpiresAt = some t -> databaseNow < t) :
    exists now, lockClaimedCommand c databaseNow db = Except.ok (now, db) := by
  rcases h with ⟨m, a, hheld, hm, ha⟩
  rcases hheld with ⟨rfl, hstatus, howner, hlease, ⟨t, ht⟩, hworker, hcommand, hopen, hcycle,
    hnumber⟩
  have hcurrent : claimedMessageCurrent m (ClaimedOutboxMessage.ofRow m a) databaseNow =
      true := by
    simp [claimedMessageCurrent, ClaimedOutboxMessage.ofRow, hstatus, howner, htrim, ht]
    exact hnow t ht
  have hattempt : claimedAttemptCurrent a (ClaimedOutboxMessage.ofRow m a) = true := by
    simp [claimedAttemptCurrent, ClaimedOutboxMessage.ofRow, hcycle, hnumber, hlease,
      howner, hworker, htrim]
  have hfound : openAttemptOf db (ClaimedOutboxMessage.ofRow m a).attempt.attemptId
      (ClaimedOutboxMessage.ofRow m a).commandId = some a := by
    unfold openAttemptOf
    rw [ha]
    simp [Option.filter, hopen, hcommand, ClaimedOutboxMessage.ofRow]
  refine ⟨max databaseNow (greatest m.createdAt m.updatedAt a.startedAt), ?_⟩
  simp only [lockClaimedCommand, Transaction.bind_eq_ok, Transaction.fetch_eq_ok,
    Transaction.require_eq_ok, Transaction.pure_eq_ok, Prod.mk.injEq]
  exact ⟨m, db, ⟨hm, rfl⟩, (), db, ⟨hcurrent, trivial, rfl⟩, a, db, ⟨hfound, rfl⟩, (), db,
    ⟨hattempt, trivial, rfl⟩, rfl, rfl⟩

theorem Handed.renews (h : Handed workerId c db) (htrim : Text.trim workerId = workerId)
    (hworker : Text.strip workerId ≠ "") {leaseId : UUID} {leaseOwner : String}
    {leaseSeconds : Rat} {clock : Nat -> Time} (hlease : c.leaseId = some leaseId)
    (howner : c.leaseOwner = some leaseOwner) (hseconds : 0 < leaseSeconds)
    (hnow : forall t, c.leaseExpiresAt = some t -> clock 0 < t) :
    exists db', renewOutboxLease c.commandId leaseId leaseOwner leaseSeconds clock db =
      Except.ok (true, db') := by
  rcases h with ⟨m, a, hheld, hm, ha⟩
  have hrow : c.leaseId = m.leaseId ∧ c.leaseOwner = some workerId ∧
      c.leaseExpiresAt = m.leaseExpiresAt := by
    rw [hheld.handle]
    exact ⟨rfl, by simp [ClaimedOutboxMessage.ofRow, hheld.owner, htrim], rfl⟩
  cases hrow.right.left.symm.trans howner
  rcases hheld.expiry with ⟨t, ht⟩
  have hguard : (decide (m.leaseId = some leaseId) &&
      decide (m.leaseOwner = some workerId) &&
      decide (m.status = OutboxDeliveryStatus.processing) &&
      m.leaseExpiresAt.any fun t => decide (clock 0 < t)) = true := by
    simp [hrow.left.symm.trans hlease, hheld.owner, hheld.status, ht,
      hnow t (hrow.right.right.trans ht)]
  simp only [renewOutboxLease, Transaction.bind_eq_ok, validateClaimParameters_eq_ok,
    Transaction.pure_eq_ok, Prod.mk.injEq]
  exact ⟨_, (), db, ⟨hworker, le_refl 1, hseconds, rfl⟩, 1, _,
    updateOutbox_one.mpr ⟨m, hm, hguard, rfl⟩, rfl, rfl⟩

theorem HeldCommand.row {m : OutboxMessage} {a : OutboxDeliveryAttempt}
    (h : HeldCommand workerId c m a) (htrim : Text.trim workerId = workerId)
    {r : OutboxRetry} (hr : r.ByHandle c) :
    m.leaseId = some r.leaseId ∧ m.leaseOwner = some r.leaseOwner ∧
      c.attemptsInCycle = m.attemptsInCycle := by
  rcases hr with ⟨_, hlease, howner, _⟩
  rw [h.handle] at hlease howner ⊢
  refine ⟨hlease, ?_, rfl⟩
  simpa [ClaimedOutboxMessage.ofRow, h.owner, htrim] using howner

theorem HeldCommand.select {m : OutboxMessage} {a : OutboxDeliveryAttempt}
    (h : HeldCommand workerId c m a) (htrim : Text.trim workerId = workerId)
    (hm : db.outbox.messages.get c.commandId = some m)
    (ha : db.outbox.attempts.get c.attempt.attemptId = some a) {r : OutboxRetry}
    (hr : r.ByHandle c) :
    db.outbox.attempts.select (fun a => decide (a.attemptId = r.attemptId) &&
      decide (a.commandId = r.commandId) && decide (a.leaseId = r.leaseId) &&
      decide (a.workerId = r.leaseOwner) && a.isOpen) = [a] := by
  rcases h.row htrim hr with ⟨hlease, howner, _⟩
  rcases hr with ⟨hcommand, _, _, hattempt⟩
  have hid := Table.get_key hm
  have hkey := Table.get_key ha
  have hlease' : a.leaseId = r.leaseId := Option.some.inj (h.lease.symm.trans hlease)
  have howner' : workerId = r.leaseOwner := Option.some.inj (h.owner.symm.trans howner)
  refine Table.select_eq_singleton_of_get ha ?_ ?_
  · simp only [Bool.and_eq_true, decide_eq_true_eq]
    exact ⟨⟨⟨⟨hkey.trans hattempt.symm, (h.command.trans hid).trans hcommand.symm⟩, hlease'⟩,
      h.worker.trans howner'⟩, h.isOpen⟩
  · intro s hs
    simp only [Bool.and_eq_true, decide_eq_true_eq] at hs
    exact hs.left.left.left.left.trans hattempt

theorem finishDeliveryAttempt_of_select {attemptId commandId leaseId : UUID}
    {owner : String} {result : DeliveryAttemptResult} {a : OutboxDeliveryAttempt}
    (hcode : errorFieldValid result.safeErrorCode)
    (hmessage : errorFieldValid result.safeErrorMessage)
    (hretry : forall s, result.retryAfterSeconds = some s -> 0 ≤ s)
    (hchecks : (result.apply a).checks = true)
    (hselect : db.outbox.attempts.select (fun a => decide (a.attemptId = attemptId) &&
      decide (a.commandId = commandId) && decide (a.leaseId = leaseId) &&
      decide (a.workerId = owner) && a.isOpen) = [a]) :
    exists db', finishDeliveryAttempt attemptId commandId leaseId owner result db =
      Except.ok (1, db') ∧ db'.outbox.messages = db.outbox.messages := by
  have hhit : forall x, x ∈ db.outbox.attempts.select (fun a =>
      decide (a.attemptId = attemptId) && decide (a.commandId = commandId) &&
        decide (a.leaseId = leaseId) && decide (a.workerId = owner) && a.isOpen) ->
      (result.apply x).checks = true := by
    intro x hx
    rw [hselect] at hx
    rw [List.mem_singleton.mp hx]
    exact hchecks
  simp only [finishDeliveryAttempt, updateDeliveryAttempts, Transaction.bind_eq_ok,
    validateErrorFields_eq_ok, Transaction.require_eq_ok, Transaction.read_eq_ok,
    Transaction.write_eq_ok, Transaction.pure_eq_ok, Prod.mk.injEq]
  exact ⟨_, ⟨(), db, ⟨hcode, hmessage, rfl⟩, (), db, ⟨hretry, trivial, rfl⟩, _, db,
    ⟨rfl, rfl⟩, (), db, ⟨hhit, trivial, rfl⟩, (), _, ⟨trivial, rfl⟩,
    congrArg List.length hselect, rfl⟩, rfl⟩

theorem Handed.retries (h : Handed workerId c db) (htrim : Text.trim workerId = workerId)
    {r : OutboxRetry} {now : Time} (hr : r.ByHandle c) (hvalid : r.ArgumentsValid)
    (hbound : c.attemptsInCycle < 8) :
    exists db', scheduleOutboxRetry r now db = Except.ok ((), db') := by
  rcases h with ⟨m, a, hheld, hm, ha⟩
  have hselect := hheld.select htrim hm ha hr
  rcases hheld.row htrim hr with ⟨hlease, howner, hcount⟩
  rcases hvalid with ⟨hcode, hmessage, hretry, hstatus⟩
  rw [← hr.left] at hm
  have hchecks : ((r.attemptResult now).apply a).checks = true := by
    unfold OutboxDeliveryAttempt.checks OutboxRetry.attemptResult DeliveryAttemptResult.apply
    cases hhttp : r.httpStatus with
    | none => rfl
    | some n => simp [hstatus n hhttp]
  have hfinished : exists db₁, finishDeliveryAttempt r.attemptId r.commandId r.leaseId
      r.leaseOwner (r.attemptResult now) db = Except.ok (1, db₁) ∧
      db₁.outbox.messages = db.outbox.messages :=
    finishDeliveryAttempt_of_select hcode hmessage hretry hchecks hselect
  rcases hfinished with ⟨db₁, hfinish, hkept⟩
  have hguard : (decide (m.status = OutboxDeliveryStatus.processing) &&
      decide (m.leaseId = some r.leaseId) &&
      decide (m.leaseOwner = some r.leaseOwner)) = true := by
    simp [hheld.status, hlease, howner]
  simp only [scheduleOutboxRetry, updateOutboxTransition, Transaction.translate_eq_ok,
    Transaction.bind_eq_ok, Transaction.fetch_eq_ok, Transaction.require_eq_ok,
    validateErrorFields_eq_ok, Prod.mk.injEq]
  exact ⟨_, m, db, ⟨hm, rfl⟩, (), db, ⟨hheld.status, trivial, rfl⟩, (), db,
    ⟨hlease, trivial, rfl⟩, (), db, ⟨howner, trivial, rfl⟩, (), db,
    ⟨hcount ▸ hbound, trivial, rfl⟩, 1, db₁, hfinish, (), db₁, ⟨rfl, trivial, rfl⟩, 1, _,
    ⟨(), db₁, ⟨hcode, hmessage, rfl⟩,
      updateOutbox_one.mpr ⟨m, by rw [hkept]; exact hm, hguard, rfl⟩⟩, rfl, trivial, rfl⟩

theorem eq_of_persistenceError {message : String} {e : Failure} {id : UUID}
    (h : persistenceError message e = Failure.leaseConflict id) :
    e = Failure.leaseConflict id := by
  unfold persistenceError at h
  split at h
  · cases h
  · exact h

theorem leaseConflict_notMem (id : UUID) :
    forall f, f ∈ writeFailures -> f ≠ Failure.leaseConflict id := by
  simp [writeFailures]

theorem finishDeliveryAttempt_count {attemptId commandId leaseId : UUID}
    {owner : String} {result : DeliveryAttemptResult} {n : Nat} {db' : Database}
    (h : finishDeliveryAttempt attemptId commandId leaseId owner result db =
      Except.ok (n, db')) :
    n = (db.outbox.attempts.select (fun a => decide (a.attemptId = attemptId) &&
      decide (a.commandId = commandId) && decide (a.leaseId = leaseId) &&
      decide (a.workerId = owner) && a.isOpen)).length ∧
    db'.outbox.messages = db.outbox.messages := by
  simp only [finishDeliveryAttempt, updateDeliveryAttempts, Transaction.bind_eq_ok,
    validateErrorFields_eq_ok, Transaction.require_eq_ok, Transaction.read_eq_ok,
    Transaction.write_eq_ok, Transaction.pure_eq_ok, Prod.mk.injEq] at h
  rcases h with ⟨_, _, ⟨_, _, rfl⟩, _, _, ⟨_, _, rfl⟩, _, _, ⟨rfl, rfl⟩, _, _, ⟨_, _, rfl⟩,
    _, _, ⟨_, rfl⟩, rfl, rfl⟩
  exact ⟨rfl, rfl⟩

theorem Handed.retryConflicts (h : Handed workerId c db)
    (htrim : Text.trim workerId = workerId) {r : OutboxRetry} {now : Time} {id : UUID}
    (hr : r.ByHandle c) :
    scheduleOutboxRetry r now db ≠ Except.error (Failure.leaseConflict id) := by
  rcases h with ⟨m, a, hheld, hm, ha⟩
  have hselect := hheld.select htrim hm ha hr
  rcases hheld.row htrim hr with ⟨hlease, howner, _⟩
  rw [← hr.left] at hm
  have hguard : (decide (m.status = OutboxDeliveryStatus.processing) &&
      decide (m.leaseId = some r.leaseId) &&
      decide (m.leaseOwner = some r.leaseOwner)) = true := by
    simp [hheld.status, hlease, howner]
  intro herror
  rcases Transaction.translate_eq_error.mp herror with ⟨e, h, he⟩
  rw [eq_of_persistenceError he] at h
  -- the row is there, and its lease is the one of the handle
  replace h := (Transaction.bind_ok (Transaction.fetch_ok
    (f := fun db : Database => db.outbox.messages.get r.commandId) hm)).symm.trans h
  replace h := (Transaction.bind_ok (Transaction.require_ok hheld.status)).symm.trans h
  replace h := (Transaction.bind_ok (Transaction.require_ok hlease)).symm.trans h
  replace h := (Transaction.bind_ok (Transaction.require_ok howner)).symm.trans h
  rcases Transaction.require_bind_error h with hexhausted | ⟨_, h⟩
  · cases hexhausted
  · rcases Transaction.bind_eq_error.mp h with h | ⟨n, db₁, hfinish, h⟩
    · exact finishDeliveryAttempt_avoids (leaseConflict_notMem id) _ _ _ _ _ db h
    · rcases finishDeliveryAttempt_count hfinish with ⟨hcount, hkept⟩
      rw [hselect] at hcount
      replace h := (Transaction.bind_ok (Transaction.require_ok hcount)).symm.trans h
      rcases Transaction.bind_eq_error.mp h with h | ⟨k, db₂, hup, h⟩
      · exact updateOutboxTransition_avoids (leaseConflict_notMem id) _ _ _ _ db₁ h
      · have hone : k = 1 := by
          simp only [updateOutboxTransition, Transaction.bind_eq_ok,
            validateErrorFields_eq_ok] at hup
          rcases hup with ⟨_, _, ⟨_, _, rfl⟩, hup⟩
          rcases updateOutbox_cases hup with ⟨_, hzero⟩ | ⟨hone, _⟩
          · rw [hkept] at hzero
            rw [hzero m hm] at hguard
            cases hguard
          · exact hone
        exact (Transaction.require_eq_error.mp h).left hone

theorem Handed.usable_iff (h : Handed workerId c db) (hworker : Text.strip workerId ≠ "") :
    OutboxLeaseUsable c db ↔ Text.trim workerId = workerId := by
  constructor
  · intro husable
    rcases h with ⟨m, a, hheld, hm, ha⟩
    rcases hheld.expiry with ⟨t, ht⟩
    have hhandle : c.leaseOwner = some (Text.trim workerId) ∧ c.leaseExpiresAt = some t := by
      rw [hheld.handle]
      exact ⟨by simp [ClaimedOutboxMessage.ofRow, hheld.owner], ht⟩
    have hbefore : forall x, c.leaseExpiresAt = some x -> t - 1 < x := by
      intro x hx
      cases hhandle.right.symm.trans hx
      exact sub_one_lt t
    rcases husable.locks (t - 1) hbefore with ⟨now, hlock⟩
    simp only [lockClaimedCommand, Transaction.bind_eq_ok, Transaction.fetch_eq_ok,
      Transaction.require_eq_ok] at hlock
    rcases hlock with ⟨m', _, ⟨hm', rfl⟩, _, _, ⟨hcurrent, _⟩, _⟩
    cases hm.symm.trans hm'
    simp only [claimedMessageCurrent, Bool.and_eq_true, decide_eq_true_eq] at hcurrent
    have howner := hcurrent.left.right
    rw [hheld.owner, hhandle.left] at howner
    exact (Option.some.inj howner).symm
  · intro htrim
    constructor
    · intro leaseId leaseOwner leaseSeconds clock hlease howner hseconds hnow
      exact h.renews htrim hworker hlease howner hseconds hnow
    · intro r now hr hvalid hbound
      exact h.retries htrim hr hvalid hbound
    · intro r now id hr
      exact h.retryConflicts htrim hr
    · intro databaseNow hnow
      exact h.locks htrim hnow

end Outbox

/-!
## Inbox
-/

theorem InboxMessage.valid_of_stripped {m : InboxMessage} (h : m.stripped.valid = true) :
    m.valid = true := by
  have htext : forall s, textAccepted (Text.trim s) = textAccepted s := by
    intro s
    simp only [textAccepted, Text.trim_trim]
  have herror : forall s, errorTextAccepted (Text.trim s) = errorTextAccepted s := by
    intro s
    simp only [errorTextAccepted, Text.trim_trim]
  unfold InboxMessage.valid at h ⊢
  simp only [Bool.and_eq_true, decide_eq_true_eq] at h ⊢
  simp only [InboxMessage.stripped, Option.isSome_map, Option.all_map, htext, herror] at h
  exact h

/-- The row and the open attempt that a claim has left behind its handle. -/
structure HeldEvent (workerId : String) (c : ClaimedInboxMessage) (m : InboxMessage)
    (a : InboxProcessingAttempt) : Prop where
  handle : c = ClaimedInboxMessage.ofRow m a
  valid : m.valid = true
  status : m.status = InboxProcessingStatus.processing
  owner : m.leaseOwner = some workerId
  lease : m.leaseId = some a.leaseId
  expiry : exists t, m.leaseExpiresAt = some t
  worker : a.workerId = workerId
  inbox : a.inboxId = m.inboxId
  isOpen : a.isOpen = true
  cycle : a.processingCycle = m.processingCycle
  number : a.attemptNumber = m.processingAttempts

/-- The handle is backed by the tables. -/
def InboxHanded (workerId : String) (c : ClaimedInboxMessage) (db : Database) : Prop :=
  exists m a, HeldEvent workerId c m a ∧
    db.inbox.messages.get c.inboxId = some m ∧
    db.inbox.attempts.get c.attempt.attemptId = some a

/-- Leased events and their attempts are left as they are. -/
def InboxLeasesKept (db db' : Database) : Prop :=
  (forall id m, db.inbox.messages.get id = some m ->
    m.status = InboxProcessingStatus.processing ->
    db'.inbox.messages.get id = some m) ∧
  forall id a, db.inbox.attempts.get id = some a -> db'.inbox.attempts.get id = some a

theorem InboxLeasesKept.trans {a b c : Database} (h : InboxLeasesKept a b)
    (h' : InboxLeasesKept b c) : InboxLeasesKept a c := by
  constructor
  · intro id m hm hstatus
    exact h'.left id m (h.left id m hm hstatus) hstatus
  · intro id x hx
    exact h'.right id x (h.right id x hx)

theorem InboxHanded.kept {workerId : String} {c : ClaimedInboxMessage} {db db' : Database}
    (h : InboxHanded workerId c db) (hkept : InboxLeasesKept db db') :
    InboxHanded workerId c db' := by
  rcases h with ⟨m, a, hheld, hm, ha⟩
  exact ⟨m, a, hheld, hkept.left _ m hm hheld.status, hkept.right _ a ha⟩

theorem claimInboxRow_handed {workerId : String} {leaseSeconds : Rat}
    {clock : UUID -> Nat -> Time} {row : InboxMessage} {db db' : Database}
    {c : ClaimedInboxMessage}
    (h : claimInboxRow workerId leaseSeconds clock row db = Except.ok (c, db'))
    (hrow : db.inbox.messages.get row.inboxId = some row) :
    InboxLeasesKept db db' ∧ InboxHanded workerId c db' ∧
      exists m', db'.inbox.messages = db.inbox.messages.put m' ∧
        m'.inboxId = row.inboxId := by
  simp only [claimInboxRow, Transaction.bind_eq_ok, Transaction.fetch_eq_ok,
    Transaction.require_eq_ok, Transaction.pure_eq_ok, Prod.mk.injEq] at h
  rcases h with ⟨leaseId, db₁, hlease, attemptId, db₂, hattempt, _, db₃, hup, _, _,
    ⟨rfl, _, rfl⟩, updated, _, ⟨hupdated, rfl⟩, _, db₄, hins, _, _, ⟨hvalid, _, rfl⟩, rfl,
    rfl⟩
  rcases updateInbox_spec hup with ⟨r, hr, hp, hout, _⟩
  have hbefore : db₂.inbox = db.inbox :=
    (newId_spec hattempt).inbox.trans (newId_spec hlease).inbox
  have hrr : r = row := by
    rw [hbefore, hrow] at hr
    exact (Option.some.inj hr).symm
  subst hrr
  have hself := Table.get_put_self (r := r.setClaimed leaseId workerId
    (clock r.inboxId 1 + seconds leaseSeconds) (clock r.inboxId 2)) hrow
  have hupdated' : updated = r.setClaimed leaseId workerId
      (clock r.inboxId 1 + seconds leaseSeconds) (clock r.inboxId 2) := by
    rw [hout, hbefore] at hupdated
    exact (Option.some.inj (hself.symm.trans hupdated)).symm
  subst hupdated'
  rcases insertProcessingAttempt_spec hins with ⟨t, ht, hout', _⟩
  rw [hout, hbefore] at ht
  have hafter : db₄.inbox = { db.inbox with
      messages := db.inbox.messages.put (r.setClaimed leaseId workerId
        (clock r.inboxId 1 + seconds leaseSeconds) (clock r.inboxId 2))
      attempts := t } := by
    rw [hout', hout, hbefore]
  rw [Table.insert?_eq_some] at ht
  simp only [Bool.and_eq_true, decide_eq_true_eq] at hp
  have hrowValid : (r.setClaimed leaseId workerId (clock r.inboxId 1 + seconds leaseSeconds)
      (clock r.inboxId 2)).valid = true := by
    unfold ClaimedInboxMessage.valid at hvalid
    simp only [Bool.and_eq_true] at hvalid
    exact InboxMessage.valid_of_stripped hvalid.left.left.left.left.left.left.left
  refine ⟨⟨?_, ?_⟩, ⟨_, _, ⟨rfl, hrowValid, rfl, rfl, rfl, ⟨_, rfl⟩, rfl, rfl, rfl, rfl,
    rfl⟩, ?_, ?_⟩, r.setClaimed leaseId workerId
      (clock r.inboxId 1 + seconds leaseSeconds) (clock r.inboxId 2), ?_, rfl⟩
  · intro id m hm hstatus
    rw [hafter, Table.get_put_ne]
    · exact hm
    · rintro rfl
      have hsame := Option.some.inj (hm.symm.trans hrow)
      rw [hsame, hp.left] at hstatus
      cases hstatus
  · intro id a ha
    rw [hafter]
    exact Table.get_of_rows_append ht.right ha
  · rw [hafter]
    exact hself
  · rw [hafter]
    exact (Table.get_of_rows_append_singleton ht.right _).trans (if_pos rfl)
  · rw [hafter]

theorem claimDueInbox_handed {workerId : String} {batchSize : Int}
    {leaseSeconds : Rat} {scan : List UUID} {clock : UUID -> Nat -> Time}
    {db db' : Database} {claimed : List ClaimedInboxMessage}
    (h : claimDueInbox workerId batchSize leaseSeconds scan clock db =
      Except.ok (claimed, db')) :
    Text.strip workerId ≠ "" ∧ forall c, c ∈ claimed -> InboxHanded workerId c db' := by
  simp only [claimDueInbox, Transaction.bind_eq_ok, validateClaimParameters_eq_ok,
    Transaction.translate_eq_ok, Transaction.read_eq_ok, Prod.mk.injEq] at h
  rcases h with ⟨_, _, ⟨hworker, _, _, rfl⟩, rows, _, ⟨rfl, rfl⟩, hloop⟩
  refine ⟨hworker, (Transaction.forEach_relates (R := InboxLeasesKept)
    (P := fun m db => db.inbox.messages.get m.inboxId = some m)
    (Q := fun c db => InboxHanded workerId c db)
    (D := fun a b => a.inboxId ≠ b.inboxId)
    (fun _ => ⟨fun _ _ hm _ => hm, fun _ _ ha => ha⟩) (fun h h' => h.trans h')
    (fun h hc => hc.kept h) ?_ (dueInbox_pairwise _ _ _ _)
    (fun m hm => dueInbox_get hm) hloop).right⟩
  intro m db c db' hm hbody
  rcases claimInboxRow_handed hbody hm with ⟨hkept, hhanded, m', hput, hid⟩
  refine ⟨hkept, hhanded, ?_⟩
  intro d hne hd
  rw [hput, Table.get_put_ne]
  · exact hd
  · rw [hid]
    exact Ne.symm hne

/-- The event and its attempts are as they were. -/
def EventUntouched (inboxId : UUID) (db db' : Database) : Prop :=
  db'.inbox.messages.get inboxId = db.inbox.messages.get inboxId ∧
    forall id a, db.inbox.attempts.get id = some a -> a.inboxId = inboxId ->
      db'.inbox.attempts.get id = some a

structure InboxLeaseUsable (c : ClaimedInboxMessage) (db : Database) : Prop where
  renews : forall leaseId leaseOwner leaseSeconds clock, c.leaseId = some leaseId ->
    c.leaseOwner = some leaseOwner -> 0 < leaseSeconds ->
    (forall t, c.leaseExpiresAt = some t -> clock 0 < t) ->
    exists db', renewInboxLease c.inboxId leaseId leaseOwner leaseSeconds clock db =
      Except.ok (true, db')
  retries : forall leaseId leaseOwner nextAvailableAt errorCode errorMessage now,
    c.leaseId = some leaseId -> c.leaseOwner = some leaseOwner ->
    errorFieldValid errorCode -> errorFieldValid errorMessage -> c.attemptsInCycle < 5 ->
    exists db', scheduleInboxRetry c.inboxId leaseId leaseOwner c.attempt.attemptId
      nextAvailableAt errorCode errorMessage now db = Except.ok ((), db')
  retryConflicts : forall leaseId leaseOwner nextAvailableAt errorCode errorMessage now id,
    c.leaseId = some leaseId -> c.leaseOwner = some leaseOwner ->
    scheduleInboxRetry c.inboxId leaseId leaseOwner c.attempt.attemptId nextAvailableAt
      errorCode errorMessage now db ≠ Except.error (Failure.leaseConflict id)
  locks : forall databaseNow, (forall t, c.leaseExpiresAt = some t -> databaseNow < t) ->
    exists locked, lockInbox c databaseNow db = Except.ok (locked, db)

section Inbox

variable {workerId : String} {c : ClaimedInboxMessage} {db : Database}

theorem InboxHanded.untouched {db' : Database} (h : InboxHanded workerId c db)
    (hsame : EventUntouched c.inboxId db db') : InboxHanded workerId c db' := by
  rcases h with ⟨m, a, hheld, hm, ha⟩
  have hid := Table.get_key hm
  exact ⟨m, a, hheld, hsame.left.trans hm, hsame.right _ a ha (hheld.inbox.trans hid)⟩

theorem HeldEvent.row {m : InboxMessage} {a : InboxProcessingAttempt}
    (h : HeldEvent workerId c m a) (htrim : Text.trim workerId = workerId) :
    c.leaseId = m.leaseId ∧ c.leaseOwner = m.leaseOwner ∧
      c.leaseExpiresAt = m.leaseExpiresAt ∧ c.attemptsInCycle = m.attemptsInCycle := by
  rw [h.handle]
  refine ⟨rfl, ?_, rfl, rfl⟩
  show m.leaseOwner.map Text.trim = m.leaseOwner
  rw [h.owner, Option.map_some, htrim]

theorem HeldEvent.leaseHeld {m : InboxMessage} {a : InboxProcessingAttempt}
    (h : HeldEvent workerId c m a) (htrim : Text.trim workerId = workerId)
    {leaseId : UUID} {leaseOwner : String} (hlease : c.leaseId = some leaseId)
    (howner : c.leaseOwner = some leaseOwner) :
    inboxLeaseHeld leaseId leaseOwner m = true := by
  have hrow := h.row htrim
  simp [inboxLeaseHeld, ← hrow.left, ← hrow.right.left, hlease, howner, h.status]

theorem InboxHanded.locks (h : InboxHanded workerId c db)
    (htrim : Text.trim workerId = workerId) {databaseNow : Time}
    (hnow : forall t, c.leaseExpiresAt = some t -> databaseNow < t) :
    exists locked, lockInbox c databaseNow db = Except.ok (locked, db) := by
  rcases h with ⟨m, a, hheld, hm, ha⟩
  rcases hheld.expiry with ⟨t, ht⟩
  rcases hheld.row htrim with ⟨hlease, howner, hexpiry, _⟩
  have hbefore := hnow t (hexpiry.trans ht)
  have hparsed : (inboxFromRow m).toOption = some m.stripped := by
    unfold inboxFromRow
    rw [if_pos hheld.valid]
    rfl
  have hstripped : m.stripped.leaseOwner = some workerId := by
    show m.leaseOwner.map Text.trim = some workerId
    rw [hheld.owner, Option.map_some, htrim]
  have hcurrent : inboxMessageCurrent m.stripped c databaseNow = true := by
    unfold inboxMessageCurrent
    rw [hstripped, howner, hheld.owner, hlease]
    simp [InboxMessage.stripped, hheld.status, ht, hbefore]
  have hfound : openInboxAttemptOf db c = some a := by
    have hid := Table.get_key hm
    unfold openInboxAttemptOf
    rw [ha]
    simp [Option.filter, hheld.isOpen, hheld.inbox.trans hid, hlease, hheld.lease, howner,
      hheld.owner, hheld.worker]
  have hattempt : inboxAttemptCurrent m.stripped a c = true := by
    unfold inboxAttemptCurrent
    rw [hstripped, hheld.handle]
    simp [ClaimedInboxMessage.ofRow, InboxMessage.stripped, hheld.cycle, hheld.number,
      hheld.inbox, hheld.lease, hheld.worker]
  simp only [lockInbox, Transaction.bind_eq_ok, Transaction.fetch_eq_ok,
    Transaction.require_eq_ok, Transaction.pure_eq_ok, Prod.mk.injEq]
  exact ⟨_, m, db, ⟨hm, rfl⟩, m.stripped, db, ⟨hparsed, rfl⟩, (), db,
    ⟨hcurrent, trivial, rfl⟩, a, db, ⟨hfound, rfl⟩, (), db, ⟨hattempt, trivial, rfl⟩, rfl,
    rfl⟩

theorem InboxHanded.renews (h : InboxHanded workerId c db)
    (htrim : Text.trim workerId = workerId) (hworker : Text.strip workerId ≠ "")
    {leaseId : UUID} {leaseOwner : String} {leaseSeconds : Rat} {clock : Nat -> Time}
    (hlease : c.leaseId = some leaseId) (howner : c.leaseOwner = some leaseOwner)
    (hseconds : 0 < leaseSeconds)
    (hnow : forall t, c.leaseExpiresAt = some t -> clock 0 < t) :
    exists db', renewInboxLease c.inboxId leaseId leaseOwner leaseSeconds clock db =
      Except.ok (true, db') := by
  rcases h with ⟨m, a, hheld, hm, ha⟩
  rcases hheld.expiry with ⟨t, ht⟩
  have hrow := hheld.row htrim
  have hsame : workerId = leaseOwner :=
    Option.some.inj (hheld.owner.symm.trans (hrow.right.left.symm.trans howner))
  have hbefore := hnow t (hrow.right.right.left.trans ht)
  have hguard : (inboxLeaseHeld leaseId leaseOwner m &&
      m.leaseExpiresAt.any fun t => decide (clock 0 < t)) = true := by
    rw [hheld.leaseHeld htrim hlease howner, ht]
    simp [hbefore]
  simp only [renewInboxLease, Transaction.bind_eq_ok, validateClaimParameters_eq_ok,
    Transaction.pure_eq_ok, Prod.mk.injEq]
  exact ⟨_, (), db, ⟨hsame ▸ hworker, le_refl 1, hseconds, rfl⟩, 1, _,
    updateInbox_one.mpr ⟨m, hm, hguard, rfl⟩, rfl, rfl⟩

theorem HeldEvent.select {m : InboxMessage} {a : InboxProcessingAttempt}
    (h : HeldEvent workerId c m a) (htrim : Text.trim workerId = workerId)
    (hm : db.inbox.messages.get c.inboxId = some m)
    (ha : db.inbox.attempts.get c.attempt.attemptId = some a) {leaseId : UUID}
    {leaseOwner : String} (hlease : c.leaseId = some leaseId)
    (howner : c.leaseOwner = some leaseOwner) :
    db.inbox.attempts.select (fun a => decide (a.attemptId = c.attempt.attemptId) &&
      decide (a.inboxId = c.inboxId) && decide (a.leaseId = leaseId) &&
      decide (a.workerId = leaseOwner) && a.isOpen) = [a] := by
  have hid := Table.get_key hm
  have hkey := Table.get_key ha
  have hrow := h.row htrim
  have hlease' : a.leaseId = leaseId :=
    Option.some.inj (h.lease.symm.trans (hrow.left.symm.trans hlease))
  have howner' : workerId = leaseOwner :=
    Option.some.inj (h.owner.symm.trans (hrow.right.left.symm.trans howner))
  refine Table.select_eq_singleton_of_get ha ?_ ?_
  · simp only [Bool.and_eq_true, decide_eq_true_eq]
    exact ⟨⟨⟨⟨hkey, h.inbox.trans hid⟩, hlease'⟩, h.worker.trans howner'⟩, h.isOpen⟩
  · intro s hs
    simp only [Bool.and_eq_true, decide_eq_true_eq] at hs
    exact hs.left.left.left.left

theorem finishInboxAttempt_eq_ok {attemptId inboxId leaseId : UUID} {owner : String}
    {result : InboxAttemptResult} {n : Nat} {db' : Database} :
    finishInboxAttempt attemptId inboxId leaseId owner result db = Except.ok (n, db') ↔
      errorFieldValid result.safeErrorCode ∧ errorFieldValid result.safeErrorMessage ∧
      n = (db.inbox.attempts.select (fun a => decide (a.attemptId = attemptId) &&
        decide (a.inboxId = inboxId) && decide (a.leaseId = leaseId) &&
        decide (a.workerId = owner) && a.isOpen)).length ∧
      db' = { db with inbox :=
        { db.inbox with attempts := (db.inbox.attempts.updateWhere
          (fun a => decide (a.attemptId = attemptId) && decide (a.inboxId = inboxId) &&
            decide (a.leaseId = leaseId) && decide (a.workerId = owner) && a.isOpen)
          result.apply fun _ => rfl) } } := by
  simp only [finishInboxAttempt, updateProcessingAttempts, Transaction.bind_eq_ok,
    validateErrorFields_eq_ok, Transaction.read_eq_ok, Transaction.write_eq_ok,
    Transaction.pure_eq_ok, Prod.mk.injEq]
  constructor
  · rintro ⟨_, _, ⟨hcode, hmessage, rfl⟩, _, _, ⟨rfl, rfl⟩, _, _, ⟨_, rfl⟩, rfl, rfl⟩
    exact ⟨hcode, hmessage, rfl, rfl⟩
  · rintro ⟨hcode, hmessage, rfl, rfl⟩
    exact ⟨(), db, ⟨hcode, hmessage, rfl⟩, _, db, ⟨rfl, rfl⟩, (), _, ⟨trivial, rfl⟩, rfl, rfl⟩

theorem finishInboxAttempt_avoids (attemptId inboxId leaseId : UUID) (owner : String)
    (result : InboxAttemptResult) (id : UUID) :
    Transaction.Avoids (Failure.leaseConflict id)
      (finishInboxAttempt attemptId inboxId leaseId owner result) := by
  apply Transaction.Avoids.bind (validateErrorFields_avoids
    (leaseConflict_notMem id) _ _)
  intro _
  apply Transaction.Avoids.bind (Transaction.Avoids.read _)
  intro _
  apply Transaction.Avoids.bind (Transaction.Avoids.write _)
  intro _
  exact Transaction.Avoids.pure _

/-- The update of a leased row, with the fields of its error. -/
def updateLeased (inboxId leaseId : UUID) (leaseOwner : String)
    (errorCode errorMessage : Option String) (f : InboxMessage -> InboxMessage) : Tx Nat := do
  validateErrorFields errorCode errorMessage
  updateInbox inboxId (inboxLeaseHeld leaseId leaseOwner) f

/-- An attempt is finished, and its row leaves the lease. -/
def endLeased (attemptId inboxId leaseId : UUID) (leaseOwner : String)
    (result : InboxAttemptResult) (f : InboxMessage -> InboxMessage) : Tx Unit := do
  let finished ← finishInboxAttempt attemptId inboxId leaseId leaseOwner result
  Transaction.require (finished = 1) (Failure.leaseConflict inboxId)
  let affected ← updateLeased inboxId leaseId leaseOwner result.safeErrorCode
    result.safeErrorMessage f
  Transaction.require (affected = 1) (Failure.leaseConflict inboxId)

/-- A handle that is backed by the tables ends its attempt without a conflict. -/
theorem InboxHanded.ends (h : InboxHanded workerId c db)
    (htrim : Text.trim workerId = workerId) {leaseId : UUID} {leaseOwner : String}
    (hlease : c.leaseId = some leaseId) (howner : c.leaseOwner = some leaseOwner)
    (result : InboxAttemptResult) (f : InboxMessage -> InboxMessage) :
    (errorFieldValid result.safeErrorCode -> errorFieldValid result.safeErrorMessage ->
      exists db', endLeased c.attempt.attemptId c.inboxId leaseId leaseOwner result f db =
        Except.ok ((), db')) ∧
    forall id, endLeased c.attempt.attemptId c.inboxId leaseId leaseOwner result f db ≠
      Except.error (Failure.leaseConflict id) := by
  rcases h with ⟨m, a, hheld, hm, ha⟩
  have hselect := congrArg List.length (hheld.select htrim hm ha hlease howner)
  have hguard := hheld.leaseHeld htrim hlease howner
  constructor
  · intro hcode hmessage
    simp only [endLeased, updateLeased, Transaction.bind_eq_ok, Transaction.require_eq_ok,
      validateErrorFields_eq_ok, finishInboxAttempt_eq_ok, Prod.mk.injEq]
    exact ⟨_, 1, _, ⟨hcode, hmessage, hselect.symm, rfl⟩, (), _, ⟨rfl, trivial, rfl⟩, 1, _,
      ⟨(), _, ⟨hcode, hmessage, rfl⟩, updateInbox_one.mpr ⟨m, hm, hguard, rfl⟩⟩, rfl,
      trivial, rfl⟩
  · intro id herror
    rcases Transaction.bind_eq_error.mp herror with h | ⟨n, db₁, hfinish, h⟩
    · exact finishInboxAttempt_avoids _ _ _ _ _ id db h
    · rcases finishInboxAttempt_eq_ok.mp hfinish with ⟨_, _, hcount, hafter⟩
      replace h := (Transaction.bind_ok
        (Transaction.require_ok (hcount.trans hselect))).symm.trans h
      rcases Transaction.bind_eq_error.mp h with h | ⟨k, db₂, hup, h⟩
      · have havoids : Transaction.Avoids (Failure.leaseConflict id)
            (updateLeased c.inboxId leaseId leaseOwner result.safeErrorCode
              result.safeErrorMessage f) :=
          Transaction.Avoids.bind (validateErrorFields_avoids
    (leaseConflict_notMem id) _ _) fun _ =>
            updateInbox_avoids _ _ _
        exact havoids db₁ h
      · apply (Transaction.require_eq_error.mp h).left
        simp only [updateLeased, Transaction.bind_eq_ok, validateErrorFields_eq_ok] at hup
        rcases hup with ⟨_, _, ⟨_, _, rfl⟩, hup⟩
        have hrow : db₁.inbox.messages.get c.inboxId = some m := by
          rw [hafter]
          exact hm
        have hone := (updateInbox_one (f := f)).mpr ⟨m, hrow, hguard, rfl⟩
        exact (Prod.mk.inj (Except.ok.inj (hup.symm.trans hone))).left

theorem InboxHanded.retries (h : InboxHanded workerId c db)
    (htrim : Text.trim workerId = workerId) {leaseId : UUID} {leaseOwner : String}
    (hlease : c.leaseId = some leaseId) (howner : c.leaseOwner = some leaseOwner)
    {nextAvailableAt now : Time} {errorCode errorMessage : Option String} :
    (errorFieldValid errorCode -> errorFieldValid errorMessage -> c.attemptsInCycle < 5 ->
      exists db', scheduleInboxRetry c.inboxId leaseId leaseOwner c.attempt.attemptId
        nextAvailableAt errorCode errorMessage now db = Except.ok ((), db')) ∧
    forall id, scheduleInboxRetry c.inboxId leaseId leaseOwner c.attempt.attemptId
      nextAvailableAt errorCode errorMessage now db ≠
        Except.error (Failure.leaseConflict id) := by
  have hends := h.ends htrim hlease howner
  rcases h with ⟨m, a, hheld, hm, ha⟩
  have hfound : (db.inbox.messages.get c.inboxId).filter
      (inboxLeaseHeld leaseId leaseOwner) = some m := by
    rw [hm]
    simp [Option.filter, hheld.leaseHeld htrim hlease howner]
  have hcount := (hheld.row htrim).right.right.right
  constructor
  · intro hcode hmessage hbound
    let result : InboxAttemptResult :=
      { finishedAt := now
        outcome := InboxAttemptOutcome.retryScheduled
        safeErrorCode := errorCode
        safeErrorMessage := errorMessage }
    rcases (hends result (InboxMessage.setRetry nextAvailableAt now errorCode
      errorMessage)).left hcode hmessage with ⟨db', hdb'⟩
    refine ⟨db', Transaction.translate_eq_ok.mpr ?_⟩
    refine (Transaction.bind_ok (Transaction.fetch_ok (f := fun db : Database =>
      (db.inbox.messages.get c.inboxId).filter (inboxLeaseHeld leaseId leaseOwner))
      hfound)).trans ?_
    rw [if_neg (by omega)]
    exact hdb'
  · intro id herror
    rcases Transaction.translate_eq_error.mp herror with ⟨e, h, he⟩
    rw [eq_of_persistenceError he] at h
    replace h := (Transaction.bind_ok (Transaction.fetch_ok (f := fun db : Database =>
      (db.inbox.messages.get c.inboxId).filter (inboxLeaseHeld leaseId leaseOwner))
      hfound)).symm.trans h
    split at h
    · exact (hends _ _).right id h
    · exact (hends _ _).right id h

theorem InboxHanded.usable_iff (h : InboxHanded workerId c db)
    (hworker : Text.strip workerId ≠ "") :
    InboxLeaseUsable c db ↔ Text.trim workerId = workerId := by
  constructor
  · intro husable
    rcases h with ⟨m, a, hheld, hm, ha⟩
    rcases hheld.expiry with ⟨t, ht⟩
    have hhandle : c.leaseOwner = some (Text.trim workerId) ∧ c.leaseExpiresAt = some t := by
      rw [hheld.handle]
      refine ⟨?_, ht⟩
      show m.leaseOwner.map Text.trim = some (Text.trim workerId)
      rw [hheld.owner, Option.map_some]
    have hbefore : forall x, c.leaseExpiresAt = some x -> t - 1 < x := by
      intro x hx
      cases hhandle.right.symm.trans hx
      exact sub_one_lt t
    rcases husable.locks (t - 1) hbefore with ⟨now, hlock⟩
    simp only [lockInbox, Transaction.bind_eq_ok, Transaction.fetch_eq_ok,
      Transaction.require_eq_ok] at hlock
    rcases hlock with ⟨_, _, ⟨_, rfl⟩, _, _, ⟨_, rfl⟩, _, _, ⟨_, _, rfl⟩, a', _, ⟨ha', rfl⟩, _⟩
    -- the open attempt is compared with the stripped name
    unfold openInboxAttemptOf at ha'
    rw [ha] at ha'
    simp only [Option.filter_eq_some_iff, Bool.and_eq_true, decide_eq_true_eq] at ha'
    rcases ha' with ⟨hsame, ⟨_, howner⟩, _⟩
    cases hsame
    rw [hheld.worker, hhandle.left] at howner
    exact (Option.some.inj howner).symm
  · intro htrim
    constructor
    · intro leaseId leaseOwner leaseSeconds clock hlease howner hseconds hnow
      exact h.renews htrim hworker hlease howner hseconds hnow
    · intro leaseId leaseOwner nextAvailableAt errorCode errorMessage now hlease howner
      exact (h.retries htrim hlease howner).left
    · intro leaseId leaseOwner nextAvailableAt errorCode errorMessage now id hlease howner
      exact (h.retries htrim hlease howner).right id
    · intro databaseNow hnow
      exact h.locks htrim hnow

end Inbox

/-!
## Claims
-/

/--
Whatever a claim returns, and as long as nothing else touches the message: the
handle passes every guard before its lease expires exactly when the name of the
worker has no surrounding white space.
-/
theorem fresh_lease_usable_iff (workerId : String) (batchSize : Int) (leaseSeconds : Rat)
    (scan : List UUID) (clock : UUID -> Nat -> Time) (db db' later : Database) :
    (forall claimed c, claimDueOutbox workerId batchSize leaseSeconds scan clock db =
        Except.ok (claimed, db') -> c ∈ claimed ->
      CommandUntouched c.commandId db' later ->
      (OutboxLeaseUsable c later ↔ Text.trim workerId = workerId)) ∧
    (forall claimed c, claimDueInbox workerId batchSize leaseSeconds scan clock db =
        Except.ok (claimed, db') -> c ∈ claimed ->
      EventUntouched c.inboxId db' later ->
      (InboxLeaseUsable c later ↔ Text.trim workerId = workerId)) := by
  constructor
  · intro claimed c hclaim hc hsame
    rcases claimDueOutbox_handed hclaim with ⟨hworker, hhanded⟩
    exact ((hhanded c hc).untouched hsame).usable_iff hworker
  · intro claimed c hclaim hc hsame
    rcases claimDueInbox_handed hclaim with ⟨hworker, hhanded⟩
    exact ((hhanded c hc).untouched hsame).usable_iff hworker

theorem sampleQueued_claimed (workerId : String)
    (h : ((claimDueOutbox workerId 1 30 [4] (fun _ _ => 0) sampleQueued.db).toOption.any
      fun r => !r.1.isEmpty) = true) :
    exists claimed c db', claimDueOutbox workerId 1 30 [4] (fun _ _ => 0) sampleQueued.db =
      Except.ok (claimed, db') ∧ c ∈ claimed := by
  generalize sampleQueued.db = db at *
  cases hclaim : claimDueOutbox workerId 1 30 [4] (fun _ _ => 0) db with
  | error e =>
      rw [hclaim] at h
      cases h
  | ok r =>
      rw [hclaim] at h
      rcases r with ⟨claimed, db'⟩
      cases claimed with
      | nil => cases h
      | cons c rest => exact ⟨c :: rest, c, db', rfl, List.mem_cons_self⟩

theorem fresh_lease_usable_iff_worker : exists claimed c db',
    claimDueOutbox "worker" 1 30 [4] (fun _ _ => 0) sampleQueued.db =
      Except.ok (claimed, db') ∧ c ∈ claimed ∧ OutboxLeaseUsable c db' := by
  rcases sampleQueued_claimed "worker" (by decide +kernel) with ⟨claimed, c, db', hclaim, hc⟩
  exact ⟨claimed, c, db', hclaim, hc,
    ((fresh_lease_usable_iff "worker" 1 30 [4] (fun _ _ => 0) sampleQueued.db db' db').left
      claimed c hclaim hc ⟨rfl, fun _ _ ha _ => ha⟩).mpr (by decide)⟩

/-- A name with a space at its end is accepted, and every call is a conflict. -/
theorem fresh_lease_conflicts : ¬forall (w : World), w.Reachable ->
    forall workerId batchSize leaseSeconds scan clock claimed c db',
      claimDueOutbox workerId batchSize leaseSeconds scan clock w.db =
        Except.ok (claimed, db') -> c ∈ claimed -> OutboxLeaseUsable c db' := by
  intro h
  rcases sampleQueued_runs with ⟨stages, hrun, _⟩
  rcases sampleQueued_claimed "worker " (by decide +kernel) with
    ⟨claimed, c, db', hclaim, hc⟩
  rcases claimDueOutbox_handed hclaim with ⟨hworker, hhanded⟩
  have htrim := ((hhanded c hc).usable_iff hworker).mp
    (h _ ⟨stages, hrun⟩ "worker " 1 30 [4] (fun _ _ => 0) claimed c db' hclaim hc)
  exact absurd htrim (by decide)

end RefundAgent
