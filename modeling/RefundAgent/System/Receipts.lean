import RefundAgent.Integrations.WebhookAdapter
import RefundAgent.System.Reach

/-!
# Receipts

An event of a provider connection is stored once.  What its row was received
with never changes, so a later receipt is compared with the first one, whatever
has happened to the row in the meantime.
-/

namespace RefundAgent

open Foundation

/-!
## Rows that can be read
-/

/-- What the validator demands of the columns that change over time. -/
structure InboxReadable (m : InboxMessage) : Prop where
  cycle : 1 ≤ m.processingCycle
  digest : isSha256 m.rawBodySha256 = true
  leaseOwner : m.status = InboxProcessingStatus.processing ↔ m.leaseOwner.isSome = true
  leaseExpiresAt : m.status = InboxProcessingStatus.processing ↔
    m.leaseExpiresAt.isSome = true
  owner : m.leaseOwner.all textAccepted = true
  errorCode : m.lastErrorCode.all errorTextAccepted = true
  errorMessage : m.lastErrorMessage.all errorTextAccepted = true

namespace InboxReadable

variable {m : InboxMessage}

theorem receive (h : FreshInbox m) : InboxReadable m := by
  have hdigest := h.checks
  unfold InboxMessage.checks at hdigest
  rw [Bool.and_eq_true] at hdigest
  have hstatus : m.status ≠ InboxProcessingStatus.processing := by
    rw [h.status]
    decide
  refine ⟨Nat.le_of_eq h.cycle.symm, hdigest.right, ?_, ?_, ?_, ?_, ?_⟩
  · rw [h.lease.right.left]
    exact iff_of_false hstatus Bool.false_ne_true
  · rw [h.lease.right.right]
    exact iff_of_false hstatus Bool.false_ne_true
  · rw [h.lease.right.left]
    rfl
  · rw [h.errors.left]
    rfl
  · rw [h.errors.right]
    rfl

theorem claim (h : InboxReadable m) {leaseId : UUID} {workerId : String}
    (hworker : Text.strip workerId ≠ "") (expiresAt now : Time) :
    InboxReadable (m.setClaimed leaseId workerId expiresAt now) := by
  refine ⟨h.cycle, h.digest, iff_of_true rfl rfl, iff_of_true rfl rfl, ?_, h.errorCode,
    h.errorMessage⟩
  exact decide_eq_true (Text.trim_ne_empty_of_strip hworker)

theorem renew (h : InboxReadable m) (hheld : m.status = InboxProcessingStatus.processing)
    (expiresAt now : Time) : InboxReadable (m.setRenewed expiresAt now) :=
  ⟨h.cycle, h.digest, h.leaseOwner, iff_of_true hheld rfl, h.owner, h.errorCode,
    h.errorMessage⟩

theorem finish (h : InboxReadable m) {e : InboxEnding} (hallowed : e.Allowed) :
    InboxReadable (e.message m) := by
  have hstatus := e.message_not_processing m
  have hlease : (e.message m).leaseOwner = none ∧ (e.message m).leaseExpiresAt = none := by
    cases e <;> exact ⟨rfl, rfl⟩
  have herrors : (e.message m).lastErrorCode.all errorTextAccepted = true ∧
      (e.message m).lastErrorMessage.all errorTextAccepted = true := by
    cases e with
    | processed now => exact ⟨h.errorCode, h.errorMessage⟩
    | failed now errorCode errorMessage =>
        exact ⟨errorTextAccepted_of_valid hallowed.left,
          errorTextAccepted_of_valid hallowed.right⟩
    | retried availableAt now errorCode errorMessage =>
        exact ⟨errorTextAccepted_of_valid hallowed.left,
          errorTextAccepted_of_valid hallowed.right⟩
    | expired now availableAt updatedAt => exact ⟨h.errorCode, h.errorMessage⟩
    | exhausted now failedAt updatedAt =>
        refine ⟨?_, h.errorMessage⟩
        show errorTextAccepted "lease_expired_attempts_exhausted" = true
        decide
  refine ⟨?_, ?_, ?_, ?_, ?_, herrors.left, herrors.right⟩
  · cases e <;> exact h.cycle
  · cases e <;> exact h.digest
  · rw [hlease.left]
    exact iff_of_false hstatus Bool.false_ne_true
  · rw [hlease.right]
    exact iff_of_false hstatus Bool.false_ne_true
  · rw [hlease.left]
    rfl

theorem redrive (h : InboxReadable m) (cycle : Nat) (availableAt now : Time) :
    InboxReadable (m.setRedriven (cycle + 1) availableAt now) := by
  have hreceived : InboxProcessingStatus.received ≠ InboxProcessingStatus.processing := by
    decide
  exact ⟨Nat.le_add_left 1 cycle, h.digest, iff_of_false hreceived Bool.false_ne_true,
    iff_of_false hreceived Bool.false_ne_true, rfl, rfl, rfl⟩

end InboxReadable

theorem InboxStep.readable {l : InboxLabel} {t u : InboxTables} (h : InboxStep l t u)
    (ht : forall m, m ∈ t.messages.rows -> InboxReadable m) :
    forall m, m ∈ u.messages.rows -> InboxReadable m := by
  have hput : forall new, InboxReadable new ->
      forall m, m ∈ (t.messages.put new).rows -> InboxReadable m := by
    intro new hnew m hm
    rcases Table.mem_put hm with rfl | ⟨hold, _⟩
    · exact hnew
    · exact ht m hold
  cases h with
  | keep => exact ht
  | receive fresh insert =>
      intro m hm
      rw [(Table.insert?_eq_some.mp insert).right] at hm
      rcases List.mem_append.mp hm with hm | hm
      · exact ht m hm
      · rw [List.mem_singleton.mp hm]
        exact InboxReadable.receive fresh
  | claim get due worker insert =>
      exact hput _ ((ht _ (Table.mem_of_get get)).claim worker _ _)
  | renew get held => exact hput _ ((ht _ (Table.mem_of_get get)).renew held _ _)
  | finish get held getAttempt ofMessage isOpen allowed =>
      exact hput _ ((ht _ (Table.mem_of_get get)).finish allowed)
  | redrive get failed insert audit =>
      exact hput _ ((ht _ (Table.mem_of_get get)).redrive _ _ _)

theorem InboxReadable.valid {m : InboxMessage} {attempts : List InboxProcessingAttempt}
    (h : InboxReadable m) (hsound : EventSound m attempts)
    (hclean : m.toReceivedWebhook.Clean) : m.valid = true := by
  have htext : forall s, TextClean s -> textAccepted s = true := by
    intro s hs
    refine decide_eq_true ?_
    rw [hs.left]
    exact hs.right
  have hmarked := hsound.marked
  unfold InboxMessage.valid
  simp only [Bool.and_eq_true, decide_eq_true_eq]
  exact ⟨⟨⟨⟨⟨⟨⟨⟨⟨⟨⟨⟨⟨⟨hmarked.times, hmarked.leaseId⟩, h.leaseOwner⟩, h.leaseExpiresAt⟩,
    hmarked.processedAt⟩, hmarked.failedAt⟩, h.cycle⟩, hsound.counted.bound⟩,
    htext _ hclean.connection⟩, htext _ hclean.event⟩, htext _ hclean.tenant⟩, h.digest⟩,
    h.owner⟩, h.errorCode⟩, h.errorMessage⟩

/-!
## Where a row comes from
-/

theorem InboxStep.origin {l : InboxLabel} {t u : InboxTables} (h : InboxStep l t u) :
    forall m', m' ∈ u.messages.rows ->
      (exists m, m ∈ t.messages.rows ∧ m.toReceivedWebhook = m'.toReceivedWebhook) ∨
        l = InboxLabel.receive m' := by
  have hput : forall old new : InboxMessage,
      t.messages.get old.inboxId = some old ->
      new.toReceivedWebhook = old.toReceivedWebhook ->
      forall m', m' ∈ (t.messages.put new).rows ->
        exists m, m ∈ t.messages.rows ∧ m.toReceivedWebhook = m'.toReceivedWebhook := by
    intro old new hold hsame m' hm'
    rcases Table.mem_put hm' with rfl | ⟨hrest, _⟩
    · exact ⟨old, Table.mem_of_get hold, hsame.symm⟩
    · exact ⟨m', hrest, rfl⟩
  cases h with
  | keep => exact fun m' hm' => Or.inl ⟨m', hm', rfl⟩
  | receive fresh insert =>
      intro m' hm'
      rw [(Table.insert?_eq_some.mp insert).right] at hm'
      rcases List.mem_append.mp hm' with hm' | hm'
      · exact Or.inl ⟨m', hm', rfl⟩
      · rw [List.mem_singleton.mp hm']
        exact Or.inr rfl
  | claim get due worker insert =>
      exact fun m' hm' => Or.inl (hput _ _ get (by rfl) m' hm')
  | renew get held => exact fun m' hm' => Or.inl (hput _ _ get (by rfl) m' hm')
  | @finish _ e m a get held getAttempt ofMessage isOpen allowed =>
      exact fun m' hm' => Or.inl (hput _ _ get (e.message_received m) m' hm')
  | redrive get failed insert audit =>
      exact fun m' hm' => Or.inl (hput _ _ get (by rfl) m' hm')

theorem Moves.received_origin {P : Label -> Prop} {db db' : Database} (h : Moves P db db')
    (hP : forall l, P l -> ¬l.inbox.receives) :
    forall m', m' ∈ db'.inbox.messages.rows ->
      exists m, m ∈ db.inbox.messages.rows ∧
        m.toReceivedWebhook = m'.toReceivedWebhook := by
  induction h with
  | refl => exact fun m' hm' => ⟨m', hm', rfl⟩
  | tail _ hlast ih =>
      rcases hlast with ⟨l, hl, hmove⟩
      intro m' hm'
      rcases hmove.inbox.origin m' hm' with ⟨m₁, hm₁, hsame⟩ | hreceive
      · rcases ih m₁ hm₁ with ⟨m, hm, hfirst⟩
        exact ⟨m, hm, hfirst.trans hsame⟩
      · refine absurd ?_ (hP l hl)
        rw [hreceive]
        trivial

theorem Moves.readable {P : Label -> Prop} {db db' : Database} (h : Moves P db db')
    (hdb : forall m, m ∈ db.inbox.messages.rows -> InboxReadable m) :
    forall m, m ∈ db'.inbox.messages.rows -> InboxReadable m :=
  Moves.preserves (I := fun db => forall m, m ∈ db.inbox.messages.rows -> InboxReadable m)
    (fun _ _ _ _ hmove => hmove.inbox.readable) h hdb

theorem InboxLabel.not_receives_of_finishes {l : InboxLabel} (h : l.finishes) :
    ¬l.receives := by
  cases l with
  | finish e m a => exact id
  | _ => exact absurd h id

theorem Event.permits_not_receives {db : Database} {e : Event} {l : Label}
    (hl : e.permits db l)
    (hother : forall incoming, e ≠ Event.job (Job.receiveInbox incoming)) :
    ¬l.inbox.receives := by
  cases e with
  | start => exact absurd hl id
  | advance => exact hl.right.right.left
  | job j =>
      have hjob : j.permits db l := hl
      cases j with
      | claimOutbox workerId batchSize leaseSeconds scan clock =>
          rcases hjob with ⟨m, m', a, rfl⟩
          exact id
      | renewOutbox commandId leaseId leaseOwner leaseSeconds clock =>
          rcases hjob with ⟨m, m', rfl⟩
          exact id
      | recoverOutbox batchSize scan clock =>
          rcases hjob with ⟨m, a, now, first, second, _, _, hinbox⟩
          rw [hinbox]
          exact id
      | retryOutbox retry now =>
          rcases hjob with ⟨m, a, rfl⟩
          exact id
      | finalizeOutbox claimed verdict now =>
          rw [hjob.left]
          exact id
      | receiveInbox incoming => exact absurd rfl (hother incoming)
      | finalizeOrderOperation claimed retryAvailableAt now =>
          exact InboxLabel.not_receives_of_finishes hjob.right
      | finalizeSupportCase claimed retryAvailableAt now =>
          exact InboxLabel.not_receives_of_finishes hjob.right
      | claimInbox workerId batchSize leaseSeconds scan clock =>
          exact hjob.right.right.right.left
      | renewInbox inboxId leaseId leaseOwner leaseSeconds clock =>
          exact hjob.right.right.right.left
      | recoverInbox batchSize scan clock => exact hjob.right.right.right.left
      | failInbox inboxId leaseId leaseOwner errorCode errorMessage now =>
          exact hjob.right.right.right.left
      | retryInbox inboxId leaseId leaseOwner attemptId nextAvailableAt errorCode
          errorMessage now =>
          exact hjob.right.right.right.left

/-!
## One receipt
-/

/-- The same event of the same connection. -/
def SameEvent (a b : ReceivedWebhook) : Prop :=
  a.providerConnectionId = b.providerConnectionId ∧ a.eventId = b.eventId

/-- The same tenant, command, aggregate, body hash and typed event. -/
def SameContent (a b : ReceivedWebhook) : Prop :=
  a.tenantId = b.tenantId ∧ a.commandId = b.commandId ∧ a.aggregateType = b.aggregateType ∧
    a.aggregateId = b.aggregateId ∧ a.rawBodySha256 = b.rawBodySha256 ∧
    a.payload = b.payload

theorem storedEvent_eq_none {db : Database} {incoming : InboxMessage} :
    storedEvent db incoming.providerConnectionId incoming.eventId = none ↔
      forall m, m ∈ db.inbox.messages.rows ->
        ¬SameEvent m.toReceivedWebhook incoming.toReceivedWebhook := by
  unfold storedEvent
  rw [List.head?_eq_none_iff, List.eq_nil_iff_forall_not_mem]
  constructor
  · intro h m hm hsame
    refine h m (Table.mem_select.mpr ⟨hm, ?_⟩)
    rw [Bool.and_eq_true, decide_eq_true_eq, decide_eq_true_eq]
    exact hsame
  · intro h m hm
    rcases Table.mem_select.mp hm with ⟨hrow, hsame⟩
    rw [Bool.and_eq_true, decide_eq_true_eq, decide_eq_true_eq] at hsame
    exact h m hrow hsame

theorem storedEvent_eq_some {db : Database} {incoming m : InboxMessage}
    (h : storedEvent db incoming.providerConnectionId incoming.eventId = some m) :
    m ∈ db.inbox.messages.rows ∧
      SameEvent m.toReceivedWebhook incoming.toReceivedWebhook := by
  rcases Table.mem_select.mp (List.mem_of_head? h) with ⟨hrow, hsame⟩
  rw [Bool.and_eq_true, decide_eq_true_eq, decide_eq_true_eq] at hsame
  exact ⟨hrow, hsame⟩

theorem replayConflicts_eq_nil {existing incoming : InboxMessage}
    (hsame : SameEvent existing.toReceivedWebhook incoming.toReceivedWebhook) :
    replayConflicts existing incoming = [] ↔
      SameContent existing.toReceivedWebhook incoming.toReceivedWebhook := by
  unfold replayConflicts SameContent
  dsimp only
  rw [List.map_eq_nil_iff, List.filter_eq_nil_iff]
  simp only [List.mem_cons, List.not_mem_nil, or_false, forall_eq_or_imp, forall_eq,
    Bool.not_eq_true', Bool.not_eq_false, decide_eq_true_eq]
  rw [hsame.left, hsame.right]
  simp

theorem InboxMessage.stripped_received {m : InboxMessage}
    (hclean : m.toReceivedWebhook.Clean) :
    m.stripped.toReceivedWebhook = m.toReceivedWebhook := by
  rcases m with ⟨⟨_, connection, event, tenant, _, _, _, _, _, _⟩, _, _, _, _, _, _, _, _,
    _, _, _, _, _⟩
  have hconnection := hclean.connection.left
  have hevent := hclean.event.left
  have htenant := hclean.tenant.left
  simp only [InboxMessage.stripped] at hconnection hevent htenant ⊢
  rw [hconnection, hevent, htenant]

theorem receiveInboxIdempotently_stored {db : Database} {incoming m : InboxMessage}
    (hstored : storedEvent db incoming.providerConnectionId incoming.eventId = some m)
    (hclean : m.toReceivedWebhook.Clean) (hvalid : m.valid = true) :
    (SameContent m.toReceivedWebhook incoming.toReceivedWebhook ->
      receiveInboxIdempotently incoming db = Except.ok (Except.ok m.stripped, db)) ∧
    (¬SameContent m.toReceivedWebhook incoming.toReceivedWebhook ->
      exists fields, fields ≠ [] ∧
        receiveInboxIdempotently incoming db =
          Except.error (Failure.inboxEventConflict fields)) := by
  have hrow : inboxFromRow m = Except.ok m.stripped := if_pos hvalid
  have hreceived := InboxMessage.stripped_received hclean
  have hiff : replayConflicts m.stripped incoming = [] ↔
      SameContent m.toReceivedWebhook incoming.toReceivedWebhook := by
    have hsame := (storedEvent_eq_some hstored).right
    rw [← hreceived] at hsame
    rw [replayConflicts_eq_nil hsame, hreceived]
  constructor
  · intro hcontent
    rw [receiveInboxIdempotently, Transaction.translate_eq_ok]
    rw [Transaction.bind_eq_ok]
    refine ⟨some m, db, by rw [Transaction.read_eq_ok, hstored], ?_⟩
    simp only [Transaction.bind_eq_ok, Transaction.fetch_eq_ok, Transaction.require_eq_ok,
      Transaction.pure_eq_ok, Prod.mk.injEq]
    refine ⟨m.stripped, db, ⟨by rw [hrow]; rfl, rfl⟩, (), db,
      ⟨hiff.mpr hcontent, trivial, rfl⟩, hrow, rfl⟩
  · intro hcontent
    refine ⟨replayConflicts m.stripped incoming, fun hnil => hcontent (hiff.mp hnil), ?_⟩
    have hne : ¬replayConflicts m.stripped incoming = [] :=
      fun hnil => hcontent (hiff.mp hnil)
    rw [receiveInboxIdempotently, Transaction.translate_eq_error]
    refine ⟨Failure.inboxEventConflict (replayConflicts m.stripped incoming), ?_, rfl⟩
    rw [Transaction.bind_eq_error]
    refine Or.inr ⟨some m, db, by rw [Transaction.read_eq_ok, hstored], ?_⟩
    rw [Transaction.bind_eq_error]
    refine Or.inr ⟨m.stripped, db, Transaction.fetch_ok (by rw [hrow]; rfl), ?_⟩
    rw [Transaction.bind_eq_error]
    exact Or.inl (Transaction.require_eq_error.mpr ⟨hne, rfl⟩)

theorem receiveInboxIdempotently_committed {db db' : Database} {incoming : InboxMessage}
    {outcome : Except Failure InboxMessage}
    (h : receiveInboxIdempotently incoming db = Except.ok (outcome, db')) :
    (db' = db ∧ exists m, storedEvent db incoming.providerConnectionId
        incoming.eventId = some m) ∨
      (storedEvent db incoming.providerConnectionId incoming.eventId = none ∧
        db'.inbox.messages.rows = db.inbox.messages.rows ++ [incoming]) := by
  simp only [receiveInboxIdempotently, Transaction.translate_eq_ok] at h
  rw [Transaction.bind_eq_ok] at h
  rcases h with ⟨stored, _, hstored, h⟩
  simp only [Transaction.read_eq_ok, Prod.mk.injEq] at hstored
  rcases hstored with ⟨hstored, rfl⟩
  cases stored with
  | some m =>
      simp only [Transaction.bind_eq_ok, Transaction.fetch_eq_ok,
        Transaction.require_eq_ok, Transaction.pure_eq_ok, Prod.mk.injEq] at h
      rcases h with ⟨_, _, ⟨_, rfl⟩, _, _, ⟨_, _, rfl⟩, _, rfl⟩
      exact Or.inl ⟨rfl, m, hstored⟩
  | none =>
      simp only [Transaction.bind_eq_ok, Transaction.pure_eq_ok, Prod.mk.injEq] at h
      rcases h with ⟨_, db₁, hins, _, rfl⟩
      rcases insertInboxRow_spec hins with ⟨t, ht, _, hinbox, _⟩
      refine Or.inr ⟨hstored, ?_⟩
      rw [hinbox]
      exact (Table.insert?_eq_some.mp ht).right

/-!
## Runs
-/

/-- The receipts of a run come from the router. -/
def RoutedReceipts (stages : List (Stage World Event)) : Prop :=
  forall x, x ∈ stages -> forall incoming,
    x.event = Event.job (Job.receiveInbox incoming) -> RoutedReceipt incoming

/-- The stage is a receipt that commits. -/
def CommitsReceipt (x : Stage World Event) (incoming : InboxMessage) : Prop :=
  x.event = Event.job (Job.receiveInbox incoming) ∧
    exists r, receiveInboxIdempotently incoming x.before.db = Except.ok r

/-- The stage is the first receipt of its event that commits. -/
def FirstReceipt (past : List (Stage World Event)) (incoming : InboxMessage) : Prop :=
  exists before x after, past = before ++ x :: after ∧ CommitsReceipt x incoming ∧
    forall y, y ∈ before -> forall other, CommitsReceipt y other ->
      ¬SameEvent other.toReceivedWebhook incoming.toReceivedWebhook

structure ReceiptHistory (past : List (Stage World Event)) (w : World) : Prop where
  good : w.Good
  readable : forall m, m ∈ w.db.inbox.messages.rows -> InboxReadable m
  single : forall m n, m ∈ w.db.inbox.messages.rows -> n ∈ w.db.inbox.messages.rows ->
    SameEvent m.toReceivedWebhook n.toReceivedWebhook -> m = n
  clean : forall m, m ∈ w.db.inbox.messages.rows -> m.toReceivedWebhook.Clean
  first : forall m, m ∈ w.db.inbox.messages.rows -> exists incoming,
    FirstReceipt past incoming ∧ incoming.toReceivedWebhook = m.toReceivedWebhook
  committed : forall x, x ∈ past -> forall incoming, CommitsReceipt x incoming ->
    exists m, m ∈ w.db.inbox.messages.rows ∧
      SameEvent m.toReceivedWebhook incoming.toReceivedWebhook

theorem ReceiptHistory.start (ids : Supply) : ReceiptHistory [] (World.initial ids) where
  good := World.initial_good ids
  readable := fun m hm => (by cases hm)
  single := fun m n hm => (by cases hm)
  clean := fun m hm => (by cases hm)
  first := fun m hm => (by cases hm)
  committed := fun x hx => (by cases hx)

theorem FirstReceipt.append {past : List (Stage World Event)} {incoming : InboxMessage}
    (h : FirstReceipt past incoming) (x : Stage World Event) :
    FirstReceipt (past ++ [x]) incoming := by
  rcases h with ⟨before, y, after, rfl, hcommits, hfirst⟩
  exact ⟨before, y, after ++ [x], by simp, hcommits, hfirst⟩

theorem Later.received {db db' : Database} (h : Later db db') {m : InboxMessage}
    (hm : m ∈ db.inbox.messages.rows) :
    exists m', m' ∈ db'.inbox.messages.rows ∧
      m'.toReceivedWebhook = m.toReceivedWebhook := by
  rcases h.inbox _ m (Table.get_of_mem hm) with ⟨m', hm', hsame⟩
  exact ⟨m', Table.mem_of_get hm', hsame⟩

theorem World.Step.received {w w' : World} {e : Event} (h : World.Step w e w')
    (hgood : w.Good) :
    forall m', m' ∈ w'.db.inbox.messages.rows ->
      (exists m, m ∈ w.db.inbox.messages.rows ∧
        m.toReceivedWebhook = m'.toReceivedWebhook) ∨
      (CommitsReceipt ⟨w, e, w'⟩ m' ∧ forall m, m ∈ w.db.inbox.messages.rows ->
        ¬SameEvent m.toReceivedWebhook m'.toReceivedWebhook) := by
  by_cases hreceive : exists incoming, e = Event.job (Job.receiveInbox incoming)
  · rcases hreceive with ⟨incoming, rfl⟩
    intro m' hm'
    rcases h.after_job with ⟨rfl, _⟩
    unfold World.perform at hm'
    cases hjob : (Job.receiveInbox incoming).transaction w.db with
    | error f =>
        rw [hjob] at hm'
        exact Or.inl ⟨m', hm', rfl⟩
    | ok r =>
        rw [hjob] at hm'
        simp only [Job.transaction, Transaction.map_eq_ok] at hjob
        rcases hjob with ⟨outcome, db', htx, rfl⟩
        have hcommits : CommitsReceipt
            ⟨w, Event.job (Job.receiveInbox incoming), w.perform (Job.receiveInbox incoming)⟩
            incoming := ⟨rfl, _, htx⟩
        rcases receiveInboxIdempotently_committed htx with ⟨rfl, _⟩ | ⟨hnone, hrows⟩
        · exact Or.inl ⟨m', hm', rfl⟩
        · rw [hrows] at hm'
          rcases List.mem_append.mp hm' with hm' | hm'
          · exact Or.inl ⟨m', hm', rfl⟩
          · rw [List.mem_singleton.mp hm']
            exact Or.inr ⟨hcommits, storedEvent_eq_none.mp hnone⟩
  · intro m' hm'
    push Not at hreceive
    exact Or.inl ((h.spec hgood).left.moves.received_origin
      (fun l hl => Event.permits_not_receives hl hreceive) m' hm')

theorem ReceiptHistory.step {past : List (Stage World Event)} {x : Stage World Event}
    (h : ReceiptHistory past x.before) (hstep : World.Step x.before x.event x.after)
    (hrouted : forall incoming, x.event = Event.job (Job.receiveInbox incoming) ->
      RoutedReceipt incoming) : ReceiptHistory (past ++ [x]) x.after := by
  have hspec := hstep.spec h.good
  have hreceived := hstep.received h.good
  have hlater := hspec.left.moves.later
  refine ⟨hspec.right, hspec.left.moves.readable h.readable, ?_, ?_, ?_, ?_⟩
  · -- two rows of one event: both are old, or none of them is
    intro m' n' hm' hn' hsame
    rcases hreceived m' hm' with ⟨m, hm, hmsame⟩ | ⟨⟨hmevent, _⟩, hmfresh⟩
    · rcases hreceived n' hn' with ⟨n, hn, hnsame⟩ | ⟨_, hnfresh⟩
      · have heq : m = n := by
          refine h.single m n hm hn ?_
          rw [hmsame, hnsame]
          exact hsame
        refine Table.eq_of_key_eq hm' hn' ?_
        show m'.toReceivedWebhook.inboxId = n'.toReceivedWebhook.inboxId
        rw [← hmsame, ← hnsame, heq]
      · refine absurd ?_ (hnfresh m hm)
        rw [hmsame]
        exact hsame
    · rcases hreceived n' hn' with ⟨n, hn, hnsame⟩ | ⟨⟨hnevent, _⟩, _⟩
      · refine absurd ?_ (hmfresh n hn)
        rw [hnsame]
        exact ⟨hsame.left.symm, hsame.right.symm⟩
      · rw [show x.event = _ from hmevent] at hnevent
        cases hnevent
        rfl
  · intro m' hm'
    rcases hreceived m' hm' with ⟨m, hm, hsame⟩ | ⟨⟨hevent, _⟩, _⟩
    · rw [← hsame]
      exact h.clean m hm
    · exact (hrouted m' hevent).spec.left
  · intro m' hm'
    rcases hreceived m' hm' with ⟨m, hm, hsame⟩ | ⟨hcommits, hfresh⟩
    · rcases h.first m hm with ⟨incoming, hfirst, hincoming⟩
      exact ⟨incoming, hfirst.append x, hincoming.trans hsame⟩
    · refine ⟨m', ⟨past, x, [], rfl, hcommits, ?_⟩, rfl⟩
      intro y hy other hother hsame
      rcases h.committed y hy other hother with ⟨m, hm, hevent⟩
      exact hfresh m hm ⟨hevent.left.trans hsame.left, hevent.right.trans hsame.right⟩
  · intro y hy incoming hcommits
    rcases List.mem_append.mp hy with hy | hy
    · rcases h.committed y hy incoming hcommits with ⟨m, hm, hevent⟩
      rcases hlater.received hm with ⟨m', hm', hsame⟩
      refine ⟨m', hm', ?_⟩
      rw [hsame]
      exact hevent
    · rw [List.mem_singleton.mp hy] at hcommits
      rcases hcommits with ⟨hevent, ⟨outcome, db'⟩, htx⟩
      have hafter : x.after.db = db' := by
        rw [hevent] at hstep
        rw [hstep.after_job.left, World.perform,
          show (Job.receiveInbox incoming).transaction x.before.db = Except.ok ([], db') by
            simp only [Job.transaction, Transaction.map_eq_ok]
            exact ⟨_, _, htx, rfl⟩]
      rw [hafter]
      rcases receiveInboxIdempotently_committed htx with ⟨rfl, m, hm⟩ | ⟨_, hrows⟩
      · exact ⟨m, (storedEvent_eq_some hm).left, (storedEvent_eq_some hm).right⟩
      · refine ⟨incoming, ?_, rfl, rfl⟩
        rw [hrows]
        exact List.mem_append_right _ (List.mem_singleton.mpr rfl)

theorem World.Runs.receiptHistory {stages : List (Stage World Event)} {w : World}
    (h : World.Runs stages w) (hrouted : RoutedReceipts stages) : ReceiptHistory stages w := by
  rcases h with ⟨ids, hrun⟩
  exact hrun.history (I := ReceiptHistory)
    (C := fun x => forall incoming, x.event = Event.job (Job.receiveInbox incoming) ->
      RoutedReceipt incoming)
    (fun past x hC hstep hpast => hpast.step hstep hC) (ReceiptHistory.start ids)
    hrouted

theorem receivedRow_fresh {inboxId : UUID} {connectionId eventId tenantId : String}
    {event : ProviderWebhookEventData} {sha : String} {receivedAt : Time}
    (h : (receivedRow inboxId connectionId eventId tenantId event sha receivedAt).checks =
      true) :
    FreshInbox (receivedRow inboxId connectionId eventId tenantId event sha receivedAt) :=
  ⟨h, rfl, rfl, rfl, rfl, ⟨rfl, rfl, rfl⟩, ⟨rfl, rfl⟩, rfl, rfl, rfl⟩

def sampleNotice : ProviderWebhookEventData :=
  { commandId := 4
    aggregateType := ProviderAggregateType.orderOperation
    aggregateId := 0
    commandStatus := ProviderCommandExecutionStatus.completed
    providerOperationId := none
    providerReference := none
    orderId := none
    occurredAt := 0 }

def sampleDigests : Digests :=
  { hmac := fun key message => List.replicate 32 ((key ++ message).foldl UInt8.xor 0)
    sha256 := fun body => List.replicate 32 (body.foldl UInt8.xor 0)
    hmacLength := fun _ _ => List.length_replicate }

def sampleSigning : SigningConnection :=
  { connectionId := "connection"
    tenantId := "acme"
    signingSecret := "secret"
    validityWindowSeconds := 300
    idNotEmpty := by decide
    secretNotEmpty := by decide
    windowPositive := by decide +kernel }

def sampleWire : WebhookWire :=
  { loads := fun _ => some (JsonTree.object
      [("event_id", JsonTree.string "event"),
        ("provider_connection_id", JsonTree.string "connection"),
        ("tenant_id", JsonTree.string "acme"),
        ("timestamp", JsonTree.string (formatTimestamp sampleSecond)),
        ("event_type", JsonTree.string "provider_command_status_changed"),
        ("data", JsonTree.object
          [("command_id", JsonTree.number 4),
            ("aggregate_type", JsonTree.string "order_operation"),
            ("aggregate_id", JsonTree.number 0),
            ("command_status", JsonTree.string "completed"),
            ("occurred_at", JsonTree.number 0)])])
    uuid := fun v =>
      match v with
      | JsonTree.number q => some q.num.toNat
      | _ => none
    datetime := fun v =>
      match v with
      | JsonTree.string s => (strptime s).map UtcSecond.time
      | JsonTree.number q => some q.num
      | _ => none }

def sampleEnvelope : ProviderWebhookEnvelope :=
  { eventId := ⟨"event", by decide⟩
    providerConnectionId := ⟨"connection", by decide⟩
    tenantId := sampleTenantText
    timestamp := sampleSecond.time
    data := sampleNotice }

/-- The headers of the provider, which signs the body `{}`. -/
def sampleHeaders : WebhookHeaders :=
  { eventId := "event"
    timestamp := formatTimestamp sampleSecond
    signature := (computeSignature sampleDigests (encode "secret") sampleSecond "event"
      [123, 125]).toOption.getD "" }

theorem sampleHeaders_verified : VerifiedWebhook sampleWire sampleDigests sampleSigning
    sampleHeaders [123, 125] (sampleSecond.time + 1000000) sampleEnvelope where
  signature := ⟨sampleSecond, strptime_formatTimestamp sampleSecond, rfl, by rfl,
    by decide +kernel⟩
  decoded := rfl
  event := rfl
  connection := rfl
  tenant := rfl

/-- The row of one request; every request has an inbox id of its own. -/
def sampleReceipt (inboxId : UUID) : InboxMessage :=
  receivedRow inboxId "connection" "event" "acme" sampleNotice
    (hexdigest (sampleDigests.sha256 [123, 125])) 0

theorem sampleReceipt_routed (inboxId : UUID) : RoutedReceipt (sampleReceipt inboxId) :=
  sampleHeaders_verified.routed (by decide +kernel) (by decide +kernel) (by decide +kernel)
    inboxId 0

end RefundAgent
