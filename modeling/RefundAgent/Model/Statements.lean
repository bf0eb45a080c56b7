import RefundAgent.Model.Database

/-!
# Statements

The INSERT and UPDATE statements of the service, one definition per table and
kind.  An insert enforces the primary key, the unique constraints and the
checks of its table; an update returns the number of rows it changed.  Each
statement comes with the lemma that says what a successful run has done.
-/

namespace RefundAgent

open Foundation

/-- `uuid4()`. -/
def newId : Tx UUID :=
  fun db => Except.ok (db.ids.fresh, { db with ids := db.ids.advance })

theorem newId_eq_ok {db db' : Database} {id : UUID} :
    newId db = Except.ok (id, db') ↔
      db.ids.fresh = id ∧ { db with ids := db.ids.advance } = db' := by
  simp [newId]

/-- Append a row whose primary key must be new. -/
def insertRow {ρ : Type} {key : ρ -> UUID}
    (table : Database -> Table ρ UUID key)
    (store : Database -> Table ρ UUID key -> Database) (row : ρ) : Tx Unit :=
  Transaction.execute fun db =>
    match (table db).insert? row with
    | some t => Except.ok (store db t)
    | none => Except.error (Failure.uniqueViolation UniqueConstraint.primaryKey)

theorem insertRow_eq_ok {ρ : Type} {key : ρ -> UUID}
    {table : Database -> Table ρ UUID key}
    {store : Database -> Table ρ UUID key -> Database} {row : ρ}
    {db : Database} {r : Unit × Database} :
    insertRow table store row db = Except.ok r ↔
      exists t, (table db).insert? row = some t ∧ store db t = r.2 := by
  unfold insertRow
  rw [Transaction.execute_eq_ok]
  cases (table db).insert? row with
  | none => simp
  | some t => simp

/-!
## Order operations
-/

/-- Another active operation of the tenant holds the order. -/
def activeOrderTaken (db : Database) (o : OrderOperation) : Bool :=
  o.active && db.operations.rows.rows.any fun r =>
    r.active && decide (r.operationId ≠ o.operationId) &&
      decide (r.tenantId = o.tenantId) && decide (r.orderId = o.orderId)

def insertOperation (o : OrderOperation) : Tx Unit := do
  Transaction.require (o.checks = true) Failure.checkViolation
  let db ← Transaction.read id
  Transaction.require
    (forall r, r ∈ db.operations.rows.rows -> r.idempotencyKey ≠ o.idempotencyKey)
    (Failure.uniqueViolation UniqueConstraint.orderOperationsIdempotencyKey)
  Transaction.require
    (forall r, r ∈ db.operations.rows.rows ->
      ¬(r.threadId = o.threadId ∧ r.sourceMessageId = o.sourceMessageId))
    (Failure.uniqueViolation UniqueConstraint.orderOperationsSourceMessage)
  Transaction.require (activeOrderTaken db o = false)
    (Failure.uniqueViolation UniqueConstraint.orderOperationsActiveOrder)
  insertRow (fun db => db.operations.rows)
    (fun db t => { db with operations := { db.operations with rows := t } }) o

theorem insertOperation_eq_ok {o : OrderOperation} {db : Database}
    {r : Unit × Database} (h : insertOperation o db = Except.ok r) :
    exists t, db.operations.rows.insert? o = some t ∧ o.checks = true ∧
      activeOrderTaken db o = false ∧
      r.2 = { db with operations := { db.operations with rows := t } } := by
  simp only [insertOperation, Transaction.bind_eq_ok, Transaction.require_eq_ok,
    Transaction.read_eq_ok, insertRow_eq_ok, Prod.mk.injEq] at h
  rcases h with ⟨_, _, ⟨hc, _, rfl⟩, _, _, ⟨rfl, rfl⟩, _, _, ⟨_, _, rfl⟩, _, _,
    ⟨_, _, rfl⟩, _, _, ⟨ha, _, rfl⟩, t, ht, hr⟩
  exact ⟨t, ht, hc, ha, hr.symm⟩

/-- UPDATE of one operation by primary key and a further condition. -/
def updateOperation (operationId : UUID) (where_ : OrderOperation -> Bool)
    (set_ : OrderOperation -> OrderOperation) : Tx Nat :=
  fun db =>
    match db.operations.rows.get operationId with
    | none => Except.ok (0, db)
    | some r =>
        if where_ r = true then
          if (set_ r).checks = false then
            Except.error Failure.checkViolation
          else if activeOrderTaken db (set_ r) = true then
            Except.error
              (Failure.uniqueViolation UniqueConstraint.orderOperationsActiveOrder)
          else
            Except.ok (1, { db with operations :=
              { db.operations with rows := db.operations.rows.put (set_ r) } })
        else
          Except.ok (0, db)

theorem updateOperation_one {operationId : UUID} {p : OrderOperation -> Bool}
    {f : OrderOperation -> OrderOperation} {db db' : Database} :
    updateOperation operationId p f db = Except.ok (1, db') ↔
      exists r, db.operations.rows.get operationId = some r ∧ p r = true ∧
        (f r).checks = true ∧ activeOrderTaken db (f r) = false ∧
        db' = { db with operations :=
          { db.operations with rows := db.operations.rows.put (f r) } } := by
  unfold updateOperation
  cases hget : db.operations.rows.get operationId with
  | none => simp
  | some r =>
      by_cases hp : p r = true
      · by_cases hc : (f r).checks = false
        · simp [hp, hc]
        · by_cases ha : activeOrderTaken db (f r) = true
          · simp [hp, hc, ha]
          · simp only [Bool.not_eq_false] at hc
            simp only [Bool.not_eq_true] at ha
            simp only [hp, hc, ha, if_true, Option.some.injEq, exists_eq_left',
              true_and, Bool.false_eq_true, Bool.true_eq_false, if_false,
              Except.ok.injEq, Prod.mk.injEq]
            exact eq_comm
      · simp [hp]

/-- INSERT of one operation event. -/
def insertOperationEvent (e : OrderOperationEvent) : Tx Unit := do
  let db ← Transaction.read id
  Transaction.require
    (forall r, r ∈ db.operations.events.rows -> r.idempotencyKey ≠ e.idempotencyKey)
    (Failure.uniqueViolation UniqueConstraint.orderOperationEventsIdempotencyKey)
  Transaction.require
    (forall c, e.supportCaseId = some c -> (db.cases.rows.get c).isSome = true)
    Failure.foreignKeyViolation
  insertRow (fun db => db.operations.events)
    (fun db t => { db with operations := { db.operations with events := t } }) e

/-- The INSERT statements for a tuple of events, in order. -/
def insertOperationEvents : List OrderOperationEvent -> Tx Unit
  | [] => pure ()
  | e :: rest => do
      insertOperationEvent e
      insertOperationEvents rest

theorem insertOperationEvent_eq_ok {e : OrderOperationEvent} {db : Database}
    {r : Unit × Database} :
    insertOperationEvent e db = Except.ok r ↔
      (forall x, x ∈ db.operations.events.rows ->
        x.idempotencyKey ≠ e.idempotencyKey) ∧
      (forall c, e.supportCaseId = some c ->
        (db.cases.rows.get c).isSome = true) ∧
      exists t, db.operations.events.insert? e = some t ∧
        { db with operations := { db.operations with events := t } } = r.2 := by
  simp only [insertOperationEvent, Transaction.bind_eq_ok,
    Transaction.require_eq_ok, Transaction.read_eq_ok, insertRow_eq_ok,
    Prod.mk.injEq]
  constructor
  · rintro ⟨_, _, ⟨rfl, rfl⟩, _, _, ⟨hk, _, rfl⟩, _, _, ⟨hf, _, rfl⟩, t, ht, hr⟩
    exact ⟨hk, hf, t, ht, hr⟩
  · rintro ⟨hk, hf, t, ht, hr⟩
    exact ⟨db, db, ⟨rfl, rfl⟩, (), db, ⟨hk, trivial, rfl⟩, (), db,
      ⟨hf, trivial, rfl⟩, t, ht, hr⟩

theorem insertOperationEvents_eq_ok {es : List OrderOperationEvent} :
    forall {db : Database} {r : Unit × Database},
      insertOperationEvents es db = Except.ok r ->
      exists t, t.rows = db.operations.events.rows ++ es ∧
        (forall e, e ∈ es -> forall c, e.supportCaseId = some c ->
          (db.cases.rows.get c).isSome = true) ∧
        (forall e, e ∈ es -> forall x, x ∈ db.operations.events.rows ->
          x.idempotencyKey ≠ e.idempotencyKey) ∧
        r.2 = { db with operations := { db.operations with events := t } } := by
  induction es with
  | nil =>
      intro db r h
      simp only [insertOperationEvents, Transaction.pure_eq_ok] at h
      refine ⟨db.operations.events, by simp, by simp, by simp, ?_⟩
      rw [← h]
  | cons e rest ih =>
      intro db r h
      simp only [insertOperationEvents, Transaction.bind_eq_ok,
        insertOperationEvent_eq_ok] at h
      rcases h with ⟨_, db1, ⟨hk, hf, t1, ht1, rfl⟩, hrest⟩
      rcases ih hrest with ⟨t, ht, hf', hk', hr⟩
      have hrows := (Table.insert?_eq_some.mp ht1).right
      refine ⟨t, by simp [ht, hrows], ?_, ?_, hr⟩
      · intro d hd
        rcases List.mem_cons.mp hd with rfl | hd
        · exact hf
        · exact hf' d hd
      · intro d hd x hx
        rcases List.mem_cons.mp hd with rfl | hd
        · exact hk x hx
        · exact hk' d hd x (by simp [hrows, hx])

/-!
## Support cases
-/

/-- Another unresolved case holds the place of the active-case indexes. -/
def activeCaseTaken (db : Database) (c : SupportCase) : Option UniqueConstraint :=
  if c.unresolved = false then
    none
  else if c.caseType = CaseType.deliveryInvestigation then
    if c.orderId.isSome = true ∧ (db.cases.rows.rows.any fun r =>
        r.unresolved && decide (r.caseId ≠ c.caseId) &&
          decide (r.caseType = CaseType.deliveryInvestigation) &&
          decide (r.tenantId = c.tenantId) && decide (r.threadId = c.threadId) &&
          decide (r.orderId = c.orderId)) = true then
      some UniqueConstraint.supportCasesActiveDeliveryOrder
    else
      none
  else if (db.cases.rows.rows.any fun r =>
      r.unresolved && decide (r.caseId ≠ c.caseId) &&
        decide (r.caseType = c.caseType) && decide (r.tenantId = c.tenantId) &&
        decide (r.threadId = c.threadId)) = true then
    some UniqueConstraint.supportCasesActiveThreadType
  else
    none

/-- Refuse a case row that violates a check or an active-case index. -/
def refuseCase (db : Database) (c : SupportCase) : Option Failure :=
  if c.checks = false then
    some Failure.checkViolation
  else
    (activeCaseTaken db c).map Failure.uniqueViolation

def insertCase (c : SupportCase) : Tx Unit := do
  let refused ← Transaction.read (fun db => refuseCase db c)
  match refused with
  | some e => Transaction.raise e
  | none =>
      insertRow (fun db => db.cases.rows)
        (fun db t => { db with cases := { db.cases with rows := t } }) c

theorem insertCase_eq_ok {c : SupportCase} {db : Database} {r : Unit × Database} :
    insertCase c db = Except.ok r ↔ refuseCase db c = none ∧
      exists t, db.cases.rows.insert? c = some t ∧
        { db with cases := { db.cases with rows := t } } = r.2 := by
  simp only [insertCase, Transaction.bind_eq_ok, Transaction.read_eq_ok]
  constructor
  · rintro ⟨refused, db1, h, hins⟩
    rw [Prod.mk.injEq] at h
    rcases h with ⟨rfl, rfl⟩
    cases href : refuseCase db c with
    | some e => simp [href] at hins
    | none => exact ⟨rfl, by simpa only [href, insertRow_eq_ok] using hins⟩
  · rintro ⟨href, hins⟩
    refine ⟨none, db, by rw [href], ?_⟩
    exact insertRow_eq_ok.mpr hins

/-- UPDATE of one case by primary key and a further condition. -/
def updateCase (caseId : UUID) (where_ : SupportCase -> Bool)
    (set_ : SupportCase -> SupportCase) : Tx Nat :=
  fun db =>
    match db.cases.rows.get caseId with
    | none => Except.ok (0, db)
    | some r =>
        if where_ r = true then
          match refuseCase db (set_ r) with
          | some e => Except.error e
          | none => Except.ok (1, { db with cases :=
              { db.cases with rows := db.cases.rows.put (set_ r) } })
        else
          Except.ok (0, db)

theorem updateCase_one {caseId : UUID} {p : SupportCase -> Bool}
    {f : SupportCase -> SupportCase} {db db' : Database} :
    updateCase caseId p f db = Except.ok (1, db') ↔
      exists r, db.cases.rows.get caseId = some r ∧ p r = true ∧
        refuseCase db (f r) = none ∧
        db' = { db with cases :=
          { db.cases with rows := db.cases.rows.put (f r) } } := by
  unfold updateCase
  cases hget : db.cases.rows.get caseId with
  | none => simp
  | some r =>
      by_cases hp : p r = true
      · cases href : refuseCase db (f r) with
        | some e => simp [hp, href]
        | none =>
            simp only [hp, if_true, Option.some.injEq, exists_eq_left', href,
              Except.ok.injEq, Prod.mk.injEq, true_and]
            exact eq_comm
      · simp [hp]

/-- INSERT of one case event. -/
def insertCaseEvent (e : SupportCaseEvent) : Tx Unit := do
  let db ← Transaction.read id
  Transaction.require
    (forall r, r ∈ db.cases.events.rows -> r.idempotencyKey ≠ e.idempotencyKey)
    (Failure.uniqueViolation UniqueConstraint.supportCaseEventsIdempotency)
  insertRow (fun db => db.cases.events)
    (fun db t => { db with cases := { db.cases with events := t } }) e

theorem insertCaseEvent_eq_ok {e : SupportCaseEvent} {db : Database}
    {r : Unit × Database} :
    insertCaseEvent e db = Except.ok r ↔
      (forall x, x ∈ db.cases.events.rows -> x.idempotencyKey ≠ e.idempotencyKey) ∧
      exists t, db.cases.events.insert? e = some t ∧
        { db with cases := { db.cases with events := t } } = r.2 := by
  simp only [insertCaseEvent, Transaction.bind_eq_ok, Transaction.require_eq_ok,
    Transaction.read_eq_ok, insertRow_eq_ok, Prod.mk.injEq]
  constructor
  · rintro ⟨_, _, ⟨rfl, rfl⟩, _, _, ⟨hk, _, rfl⟩, t, ht, hr⟩
    exact ⟨hk, t, ht, hr⟩
  · rintro ⟨hk, t, ht, hr⟩
    exact ⟨db, db, ⟨rfl, rfl⟩, (), db, ⟨hk, trivial, rfl⟩, t, ht, hr⟩

/-- `ON CONFLICT (idempotency_key) DO NOTHING`. -/
def insertCaseEventOnce (e : SupportCaseEvent) : Tx Unit := do
  let db ← Transaction.read id
  if forall r, r ∈ db.cases.events.rows -> r.idempotencyKey ≠ e.idempotencyKey then
    insertCaseEvent e
  else
    pure ()

/-!
## Refund requests
-/

/-- `ON CONFLICT (order_id) DO NOTHING`; the result says whether a row was written. -/
def insertRefundOnce (r : RefundRequest) : Tx Bool := do
  let db ← Transaction.read id
  if forall x, x ∈ db.refunds.rows -> x.orderId ≠ r.orderId then do
    insertRow (fun db => db.refunds) (fun db t => { db with refunds := t }) r
    pure true
  else
    pure false

/-!
## Outbox
-/

def insertOutboxRow (m : OutboxMessage) : Tx Unit := do
  let db ← Transaction.read id
  Transaction.require
    (forall r, r ∈ db.outbox.messages.rows ->
      ¬(r.tenantId = m.tenantId ∧ r.idempotencyKey = m.idempotencyKey))
    (Failure.uniqueViolation UniqueConstraint.outboxMessagesTenantIdempotency)
  insertRow (fun db => db.outbox.messages)
    (fun db t => { db with outbox := { db.outbox with messages := t } }) m

theorem insertOutboxRow_eq_ok {m : OutboxMessage} {db : Database}
    {r : Unit × Database} (h : insertOutboxRow m db = Except.ok r) :
    exists t, db.outbox.messages.insert? m = some t ∧
      r.2 = { db with outbox := { db.outbox with messages := t } } := by
  simp only [insertOutboxRow, Transaction.bind_eq_ok, Transaction.require_eq_ok,
    Transaction.read_eq_ok, insertRow_eq_ok, Prod.mk.injEq] at h
  rcases h with ⟨_, _, ⟨rfl, rfl⟩, _, _, ⟨_, _, rfl⟩, t, ht, hr⟩
  exact ⟨t, ht, hr.symm⟩

/-- UPDATE of one outbox message by primary key and a further condition. -/
def updateOutbox (commandId : UUID) (where_ : OutboxMessage -> Bool)
    (set_ : OutboxMessage -> OutboxMessage) : Tx Nat :=
  fun db =>
    match db.outbox.messages.get commandId with
    | none => Except.ok (0, db)
    | some r =>
        if where_ r = true then
          Except.ok (1, { db with outbox :=
            { db.outbox with messages := db.outbox.messages.put (set_ r) } })
        else
          Except.ok (0, db)

theorem updateOutbox_one {commandId : UUID} {p : OutboxMessage -> Bool}
    {f : OutboxMessage -> OutboxMessage} {db db' : Database} :
    updateOutbox commandId p f db = Except.ok (1, db') ↔
      exists r, db.outbox.messages.get commandId = some r ∧ p r = true ∧
        db' = { db with outbox :=
          { db.outbox with messages := db.outbox.messages.put (f r) } } := by
  unfold updateOutbox
  cases hget : db.outbox.messages.get commandId with
  | none => simp
  | some r =>
      by_cases hp : p r = true
      · simp only [hp, if_true, Option.some.injEq, exists_eq_left',
          Except.ok.injEq, Prod.mk.injEq, true_and]
        exact eq_comm
      · simp [hp]

theorem updateOutbox_cases {commandId : UUID} {p : OutboxMessage -> Bool}
    {f : OutboxMessage -> OutboxMessage} {db : Database} {r : Nat × Database}
    (h : updateOutbox commandId p f db = Except.ok r) :
    (r = (0, db) ∧ forall m, db.outbox.messages.get commandId = some m ->
        p m = false) ∨
      (r.1 = 1 ∧ updateOutbox commandId p f db = Except.ok (1, r.2)) := by
  cases hget : db.outbox.messages.get commandId with
  | none =>
      simp only [updateOutbox, hget, Except.ok.injEq] at h
      exact Or.inl ⟨h.symm, by simp⟩
  | some m =>
      by_cases hp : p m = true
      · simp only [updateOutbox, hget, hp, if_true, Except.ok.injEq] at h ⊢
        rw [← h]
        exact Or.inr ⟨rfl, rfl⟩
      · simp only [updateOutbox, hget, if_neg hp, Except.ok.injEq] at h
        refine Or.inl ⟨h.symm, ?_⟩
        intro m' hm'
        cases hm'
        simpa using hp

def insertDeliveryAttempt (a : OutboxDeliveryAttempt) : Tx Unit := do
  Transaction.require (a.checks = true) Failure.checkViolation
  let db ← Transaction.read id
  Transaction.require
    (forall r, r ∈ db.outbox.attempts.rows ->
      ¬(r.commandId = a.commandId ∧ r.deliveryCycle = a.deliveryCycle ∧
        r.attemptNumber = a.attemptNumber))
    (Failure.uniqueViolation UniqueConstraint.outboxDeliveryAttemptsCycleNumber)
  insertRow (fun db => db.outbox.attempts)
    (fun db t => { db with outbox := { db.outbox with attempts := t } }) a

theorem insertDeliveryAttempt_eq_ok {a : OutboxDeliveryAttempt} {db : Database}
    {r : Unit × Database} (h : insertDeliveryAttempt a db = Except.ok r) :
    exists t, db.outbox.attempts.insert? a = some t ∧ a.checks = true ∧
      r.2 = { db with outbox := { db.outbox with attempts := t } } := by
  simp only [insertDeliveryAttempt, Transaction.bind_eq_ok,
    Transaction.require_eq_ok, Transaction.read_eq_ok, insertRow_eq_ok,
    Prod.mk.injEq] at h
  rcases h with ⟨_, _, ⟨hc, _, rfl⟩, _, _, ⟨rfl, rfl⟩, _, _, ⟨_, _, rfl⟩, t, ht, hr⟩
  exact ⟨t, ht, hc, hr.symm⟩

/-- UPDATE of every delivery attempt satisfying a condition. -/
def updateDeliveryAttempts (where_ : OutboxDeliveryAttempt -> Bool)
    (set_ : OutboxDeliveryAttempt -> OutboxDeliveryAttempt)
    (hset : forall a, (set_ a).attemptId = a.attemptId) : Tx Nat := do
  let hit ← Transaction.read (fun db => db.outbox.attempts.select where_)
  Transaction.require (forall a, a ∈ hit -> (set_ a).checks = true)
    Failure.checkViolation
  Transaction.write (fun db => { db with outbox :=
    { db.outbox with attempts := db.outbox.attempts.updateWhere where_ set_ hset } })
  pure hit.length

theorem updateDeliveryAttempts_one {p : OutboxDeliveryAttempt -> Bool}
    {f : OutboxDeliveryAttempt -> OutboxDeliveryAttempt}
    {hf : forall a, (f a).attemptId = a.attemptId} {db db' : Database}
    (h : updateDeliveryAttempts p f hf db = Except.ok (1, db')) :
    exists a, db.outbox.attempts.select p = [a] ∧ (f a).checks = true ∧
      db' = { db with outbox :=
        { db.outbox with attempts := db.outbox.attempts.put (f a) } } := by
  simp only [updateDeliveryAttempts, Transaction.bind_eq_ok,
    Transaction.require_eq_ok, Transaction.read_eq_ok, Transaction.write_eq_ok,
    Transaction.pure_eq_ok, Prod.mk.injEq] at h
  rcases h with ⟨_, _, ⟨rfl, rfl⟩, _, _, ⟨hc, _, rfl⟩, _, _, ⟨_, rfl⟩, hlen, rfl⟩
  rcases List.length_eq_one_iff.mp hlen with ⟨a, ha⟩
  refine ⟨a, ha, hc a (by rw [ha]; exact List.mem_singleton.mpr rfl), ?_⟩
  rw [Table.updateWhere_of_select_eq_singleton ha]

def insertOutboxRedrive (a : OutboxRedrive) : Tx Unit := do
  let db ← Transaction.read id
  Transaction.require
    (forall r, r ∈ db.outbox.redrives.rows ->
      ¬(r.tenantId = a.tenantId ∧ r.requestId = a.requestId))
    (Failure.uniqueViolation UniqueConstraint.outboxRedrivesTenantRequest)
  insertRow (fun db => db.outbox.redrives)
    (fun db t => { db with outbox := { db.outbox with redrives := t } }) a

theorem insertOutboxRedrive_eq_ok {a : OutboxRedrive} {db : Database}
    {r : Unit × Database} :
    insertOutboxRedrive a db = Except.ok r ↔
      (forall x, x ∈ db.outbox.redrives.rows ->
        ¬(x.tenantId = a.tenantId ∧ x.requestId = a.requestId)) ∧
      exists t, db.outbox.redrives.insert? a = some t ∧
        { db with outbox := { db.outbox with redrives := t } } = r.2 := by
  simp only [insertOutboxRedrive, Transaction.bind_eq_ok,
    Transaction.require_eq_ok, Transaction.read_eq_ok, insertRow_eq_ok,
    Prod.mk.injEq]
  constructor
  · rintro ⟨_, _, ⟨rfl, rfl⟩, _, _, ⟨hk, _, rfl⟩, t, ht, hr⟩
    exact ⟨hk, t, ht, hr⟩
  · rintro ⟨hk, t, ht, hr⟩
    exact ⟨db, db, ⟨rfl, rfl⟩, (), db, ⟨hk, trivial, rfl⟩, t, ht, hr⟩

/-!
## Inbox
-/

def insertInboxRow (m : InboxMessage) : Tx Unit := do
  Transaction.require (m.checks = true) Failure.checkViolation
  insertRow (fun db => db.inbox.messages)
    (fun db t => { db with inbox := { db.inbox with messages := t } }) m

theorem insertInboxRow_eq_ok {m : InboxMessage} {db : Database}
    {r : Unit × Database} (h : insertInboxRow m db = Except.ok r) :
    exists t, db.inbox.messages.insert? m = some t ∧ m.checks = true ∧
      r.2 = { db with inbox := { db.inbox with messages := t } } := by
  simp only [insertInboxRow, Transaction.bind_eq_ok, Transaction.require_eq_ok,
    insertRow_eq_ok, Prod.mk.injEq] at h
  rcases h with ⟨_, _, ⟨hc, _, rfl⟩, t, ht, hr⟩
  exact ⟨t, ht, hc, hr.symm⟩

/-- UPDATE of one inbox message by primary key and a further condition. -/
def updateInbox (inboxId : UUID) (where_ : InboxMessage -> Bool)
    (set_ : InboxMessage -> InboxMessage) : Tx Nat :=
  fun db =>
    match db.inbox.messages.get inboxId with
    | none => Except.ok (0, db)
    | some r =>
        if where_ r = true then
          Except.ok (1, { db with inbox :=
            { db.inbox with messages := db.inbox.messages.put (set_ r) } })
        else
          Except.ok (0, db)

theorem updateInbox_one {inboxId : UUID} {p : InboxMessage -> Bool}
    {f : InboxMessage -> InboxMessage} {db db' : Database} :
    updateInbox inboxId p f db = Except.ok (1, db') ↔
      exists r, db.inbox.messages.get inboxId = some r ∧ p r = true ∧
        db' = { db with inbox :=
          { db.inbox with messages := db.inbox.messages.put (f r) } } := by
  unfold updateInbox
  cases hget : db.inbox.messages.get inboxId with
  | none => simp
  | some r =>
      by_cases hp : p r = true
      · simp only [hp, if_true, Option.some.injEq, exists_eq_left',
          Except.ok.injEq, Prod.mk.injEq, true_and]
        exact eq_comm
      · simp [hp]

theorem updateInbox_cases {inboxId : UUID} {p : InboxMessage -> Bool}
    {f : InboxMessage -> InboxMessage} {db : Database} {r : Nat × Database}
    (h : updateInbox inboxId p f db = Except.ok r) :
    r = (0, db) ∨
      (r.1 = 1 ∧ updateInbox inboxId p f db = Except.ok (1, r.2)) := by
  cases hget : db.inbox.messages.get inboxId with
  | none =>
      simp only [updateInbox, hget, Except.ok.injEq] at h
      exact Or.inl h.symm
  | some m =>
      by_cases hp : p m = true
      · simp only [updateInbox, hget, hp, if_true, Except.ok.injEq] at h ⊢
        rw [← h]
        exact Or.inr ⟨rfl, rfl⟩
      · simp only [updateInbox, hget, if_neg hp, Except.ok.injEq] at h
        exact Or.inl h.symm

def insertProcessingAttempt (a : InboxProcessingAttempt) : Tx Unit := do
  let db ← Transaction.read id
  Transaction.require
    (forall r, r ∈ db.inbox.attempts.rows ->
      ¬(r.inboxId = a.inboxId ∧ r.attemptNumber = a.attemptNumber))
    (Failure.uniqueViolation UniqueConstraint.inboxProcessingAttemptsNumber)
  insertRow (fun db => db.inbox.attempts)
    (fun db t => { db with inbox := { db.inbox with attempts := t } }) a

theorem insertProcessingAttempt_eq_ok {a : InboxProcessingAttempt}
    {db : Database} {r : Unit × Database}
    (h : insertProcessingAttempt a db = Except.ok r) :
    exists t, db.inbox.attempts.insert? a = some t ∧
      r.2 = { db with inbox := { db.inbox with attempts := t } } := by
  simp only [insertProcessingAttempt, Transaction.bind_eq_ok,
    Transaction.require_eq_ok, Transaction.read_eq_ok, insertRow_eq_ok,
    Prod.mk.injEq] at h
  rcases h with ⟨_, _, ⟨rfl, rfl⟩, _, _, ⟨_, _, rfl⟩, t, ht, hr⟩
  exact ⟨t, ht, hr.symm⟩

/-- UPDATE of every processing attempt satisfying a condition. -/
def updateProcessingAttempts (where_ : InboxProcessingAttempt -> Bool)
    (set_ : InboxProcessingAttempt -> InboxProcessingAttempt)
    (hset : forall a, (set_ a).attemptId = a.attemptId) : Tx Nat := do
  let hit ← Transaction.read (fun db => db.inbox.attempts.select where_)
  Transaction.write (fun db => { db with inbox :=
    { db.inbox with attempts := db.inbox.attempts.updateWhere where_ set_ hset } })
  pure hit.length

theorem updateProcessingAttempts_one {p : InboxProcessingAttempt -> Bool}
    {f : InboxProcessingAttempt -> InboxProcessingAttempt}
    {hf : forall a, (f a).attemptId = a.attemptId} {db db' : Database}
    (h : updateProcessingAttempts p f hf db = Except.ok (1, db')) :
    exists a, db.inbox.attempts.select p = [a] ∧
      db' = { db with inbox :=
        { db.inbox with attempts := db.inbox.attempts.put (f a) } } := by
  simp only [updateProcessingAttempts, Transaction.bind_eq_ok,
    Transaction.read_eq_ok, Transaction.write_eq_ok, Transaction.pure_eq_ok,
    Prod.mk.injEq] at h
  rcases h with ⟨_, _, ⟨rfl, rfl⟩, _, _, ⟨_, rfl⟩, hlen, rfl⟩
  rcases List.length_eq_one_iff.mp hlen with ⟨a, ha⟩
  exact ⟨a, ha, by rw [Table.updateWhere_of_select_eq_singleton ha]⟩

def insertInboxRedrive (a : InboxRedrive) : Tx Unit := do
  let db ← Transaction.read id
  Transaction.require
    (forall r, r ∈ db.inbox.redrives.rows ->
      ¬(r.tenantId = a.tenantId ∧ r.requestId = a.requestId))
    (Failure.uniqueViolation UniqueConstraint.inboxRedrivesTenantRequest)
  insertRow (fun db => db.inbox.redrives)
    (fun db t => { db with inbox := { db.inbox with redrives := t } }) a

theorem insertInboxRedrive_eq_ok {a : InboxRedrive} {db : Database}
    {r : Unit × Database} (h : insertInboxRedrive a db = Except.ok r) :
    (forall x, x ∈ db.inbox.redrives.rows ->
        ¬(x.tenantId = a.tenantId ∧ x.requestId = a.requestId)) ∧
      exists t, db.inbox.redrives.insert? a = some t ∧
        r.2 = { db with inbox := { db.inbox with redrives := t } } := by
  simp only [insertInboxRedrive, Transaction.bind_eq_ok,
    Transaction.require_eq_ok, Transaction.read_eq_ok, insertRow_eq_ok,
    Prod.mk.injEq] at h
  rcases h with ⟨_, _, ⟨rfl, rfl⟩, _, _, ⟨hk, _, rfl⟩, t, ht, hr⟩
  exact ⟨hk, t, ht, hr.symm⟩

end RefundAgent
