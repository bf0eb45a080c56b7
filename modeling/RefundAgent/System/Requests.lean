import RefundAgent.System.OnePoint

/-!
# Requests about an operation act at one point

`CustomerRequest.DoneAt` says what a request does if it is served in one step: the
operation is read, decided upon and stored with its events, and possibly a command is
queued.  The five methods of the service read in one transaction and write in another one,
and every run of them is such a step, or an answer that changes nothing.
-/

namespace RefundAgent

open Foundation

/-!
## One step
-/

/-- What the customer reads of an operation of their own, and the row behind it. -/
structure Held (scope : AccessScope) (db : Database) (o row : OrderOperation) : Prop extends
    ReadFrom db o row where
  tenant : row.tenantId = scope.tenantId
  customer : some row.customerId = scope.customerId

/-- What is returned is what is stored, and nothing else is. -/
structure Enacts (result : OperationServiceResult) (command : Option OutboxMessage)
    (db db' : Database) : Prop where
  rows : db'.operations.rows = db.operations.rows.put result.operation
  events : db'.operations.events.rows = db.operations.events.rows ++ result.events
  unused : forall e, e ∈ result.events -> forall d, d ∈ db.operations.events.rows ->
    d.idempotencyKey ≠ e.idempotencyKey
  messages : db'.outbox.messages.rows = db.outbox.messages.rows ++ command.toList
  attempts : db'.outbox.attempts = db.outbox.attempts
  redrives : db'.outbox.redrives = db.outbox.redrives
  cases : db'.cases = db.cases
  inbox : db'.inbox = db.inbox
  refunds : db'.refunds = db.refunds

namespace CustomerRequest

section Step

variable (q : CustomerRequest) (scope : AccessScope) (operationId : UUID)
  (requestId : String) (provider : Nat -> Except Failure SubmittedOperation)
  (clock : Nat -> Time)

/-- The key under which an event of the request is recorded. -/
def keyFor (operationId : UUID) (word requestId : String) : String :=
  operationKey operationId (word ++ Text.strip requestId)

/-- What the request makes of an operation: the operation that is stored, its events, and
the command that is queued. -/
def Decides (current : OrderOperation) (result : OperationServiceResult)
    (command : Option OutboxMessage) : Prop :=
  match q with
  | confirm => command = none ∧ current.requiresManualReview = true ∧
      current.status = OperationRecordStatus.pendingConfirmation ∧
      exists n first second, pendingDecision PendingAction.confirmed current
        (keyFor current.operationId "confirmed:" requestId) scope.identity first second
        (clock n) = Except.ok result
  | cancel => command = none ∧
      current.status = OperationRecordStatus.pendingConfirmation ∧
      exists n first second, pendingDecision PendingAction.cancelled current
        (keyFor current.operationId "cancelled:" requestId) scope.identity first second
        (clock n) = Except.ok result
  | submit => command = none ∧ current.requiresManualReview = false ∧
      current.status = OperationRecordStatus.pendingConfirmation ∧
      exists n submitted first second, provider n = Except.ok submitted ∧
        submission current submitted.reference
          (keyFor current.operationId "submitted:" requestId) scope.identity first second
          (clock n) = Except.ok result
  | queue connectionId => current.requiresManualReview = false ∧
      current.status = OperationRecordStatus.pendingConfirmation ∧
      exists connection commandId first second,
        CleanText.parse? (Text.strip connectionId) = some connection ∧
        queueing current (Text.strip requestId) scope.identity first second (clock 0)
          (clock 1) = Except.ok result ∧
        command = some (outboxRow (ProviderCommandEnvelope.forOrderOperation
          result.operation connection commandId) result.operation.updatedAt)
  | attach supportCaseId => command = none ∧ current.requiresManualReview = true ∧
      current.status = OperationRecordStatus.manualReview ∧ current.supportCaseId = none ∧
      exists n eventId, result = attachment current supportCaseId eventId
        (keyFor current.operationId "support-case:" requestId) (clock n)

/-- The request is served here and now. -/
def DoneAt (result : OperationServiceResult) (db db' : Database) : Prop :=
  exists current row command, Held scope db current row ∧
    current.operationId = operationId ∧
    q.Decides scope requestId provider clock current result command ∧
    Enacts result command db db'

/-- There is nothing to do here and now: the request is on record, or the operation is in
a status that answers it. -/
def AnsweredAt (result : OperationServiceResult) (db : Database) : Prop :=
  result.action = OperationServiceAction.statusUnchanged ∧ result.events = [] ∧
    (exists row, Held scope db result.operation row) ∧
    ((exists e, q.recorded scope operationId requestId db = some e ∧
        result.operation.operationId = e.operationId) ∨
      (result.operation.operationId = operationId ∧ q.answers result.operation))

end Step

end CustomerRequest

/-!
## Reading
-/

section Reads

variable {scope : AccessScope} {operationId : UUID} {db : Database}

theorem findOperation_held {db' : Database} {found : Option OrderOperation}
    (h : findOperation scope operationId db = Except.ok (found, db')) :
    db' = db ∧ forall o, found = some o -> o.operationId = operationId ∧
      exists row, Held scope db o row := by
  simp only [findOperation, Transaction.bind_eq_ok, customerOwnedVisibility,
    Transaction.fetch_eq_ok] at h
  rcases h with ⟨customerId, _, ⟨hcustomer, rfl⟩, hfetch⟩
  rcases fetchOperation_eq_ok hfetch with ⟨hsame, hfound, _⟩
  constructor
  · exact hsame
  · intro o ho
    rcases hfound o ho with ⟨row, hrow, hparsed⟩
    rw [Option.filter_eq_some_iff] at hrow
    rcases hrow with ⟨hget, howned⟩
    have hid : o.operationId = row.operationId := by
      rw [(OrderOperation.ofRow?_eq_some hparsed).left]
    have hrow : row.operationId = operationId := Table.get_key hget
    simp only [OrderOperation.ownedBy, Bool.and_eq_true, decide_eq_true_eq] at howned
    refine ⟨hid.trans hrow, row, ⟨⟨?_, hparsed⟩, howned.left, ?_⟩⟩
    · rw [hid, hrow]
      exact hget
    · rw [hcustomer, howned.right]

theorem getOperation_looks :
    Looks (getOperation scope operationId) db fun o t => o.operationId = operationId ∧
      exists row, Held scope t o row := by
  refine Atomic.bind (P := fun found t => forall o, found = some o ->
    o.operationId = operationId ∧ exists row, Held scope t o row) ?_ ?_
  · apply Atomic.look
    intro t _ _ found u hu
    rcases findOperation_held hu with ⟨rfl, hheld⟩
    exact ⟨rfl, hheld⟩
  · intro found t _ hheld
    cases found with
    | none => exact Atomic.raise
    | some o => exact Atomic.pure (hheld o rfl)

theorem findEvent_looks {key : String} :
    Looks (Program.perform (findEventByIdempotencyKey scope key)) db fun prior t =>
      prior = ownEvent scope key t := by
  apply Atomic.look
  intro t _ _ prior u hu
  simp only [findEventByIdempotencyKey, Transaction.bind_eq_ok, customerOwnedVisibility,
    Transaction.fetch_eq_ok, Transaction.read_eq_ok, Prod.mk.injEq] at hu
  rcases hu with ⟨customerId, _, ⟨hcustomer, rfl⟩, hprior, rfl⟩
  refine ⟨rfl, ?_⟩
  rw [← hprior]
  unfold ownEvent
  rw [hcustomer]
  simp only [Option.some.injEq]

theorem Held.again {s t : Database} {o row row' : OrderOperation} (h : Held scope s o row)
    (hst : Since s t) (hget : t.operations.rows.get o.operationId = some row')
    (hversion : row'.version = o.version) : row' = row ∧ Held scope t o row := by
  rcases hst.later.operations _ row h.get with ⟨row'', hget', _, _, hsame⟩
  rw [hget] at hget'
  cases hget'
  have hread : o.version = row.version := by rw [h.eq]
  have hrow := hsame (hversion.trans hread)
  subst hrow
  exact ⟨rfl, ⟨⟨hget, h.parsed⟩, h.tenant, h.customer⟩⟩

theorem Held.unchanged {s t : Database} {o o' row row' : OrderOperation}
    (h : Held scope s o row) (hst : Since s t) (h' : Held scope t o' row')
    (hid : o'.operationId = o.operationId)
    (ht : Untouched t) (hpending : o'.status = OperationRecordStatus.pendingConfirmation) :
    row' = row := by
  have hstatus : row'.status = OperationRecordStatus.pendingConfirmation := by
    rw [← hpending, h'.eq]
  have hone := ht row' (Table.mem_of_get h'.get) hstatus
  rcases hst.later.operations _ row h.get with ⟨row'', hget, _, hle, hsame⟩
  rw [← hid, h'.get] at hget
  cases hget
  have hvalid := (OrderOperation.ofRow?_eq_some h.parsed).right
  simp only [OrderOperation.valid, Bool.and_eq_true, decide_eq_true_eq] at hvalid
  have hpositive : 1 ≤ row.version := by
    have hread : o.version = row.version := by rw [h.eq]
    rw [← hread]
    exact hvalid.right
  exact hsame (by omega)

end Reads

/-!
## Writing
-/

theorem OrderOperation.setFrom_row {row current : OrderOperation} {status : OperationRecordStatus}
    {supportCaseId : Option UUID} {reference : Option String} {updatedAt : Time}
    {version : Nat}
    (h : current = { row with providerReference := row.providerReference.map Text.trim }) :
    OrderOperation.setFrom { current with
        status := status, supportCaseId := supportCaseId, providerReference := reference,
        updatedAt := updatedAt, version := version } row =
      { current with
        status := status, supportCaseId := supportCaseId, providerReference := reference,
        updatedAt := updatedAt, version := version } := by
  rw [h]
  rfl

/-- A decision on an operation changes these columns and no others. -/
structure Revises (current updated : OrderOperation) : Prop where
  revised : exists status supportCaseId reference updatedAt,
    updated = { current with
      status := status, supportCaseId := supportCaseId, providerReference := reference,
      updatedAt := updatedAt, version := current.version + 1 }

theorem Revises.withStatus (current : OrderOperation) (status : OperationRecordStatus)
    (reference : Option String) (now : Time) :
    Revises current (current.withStatus status reference now) :=
  ⟨status, current.supportCaseId, _, now, rfl⟩

theorem status_bind_eq_ok {current updated : OrderOperation} {eventId : UUID}
    {key actor : String} {f : OrderOperationEvent -> Except Failure OperationServiceResult}
    {result : OperationServiceResult}
    (h : (statusUpdateEvent current updated eventId key actor >>= f) = Except.ok result) :
    exists status, statusUpdateEvent current updated eventId key actor = Except.ok status ∧
      f status = Except.ok result := by
  cases hs : statusUpdateEvent current updated eventId key actor with
  | error e =>
      rw [hs] at h
      cases h
  | ok status =>
      rw [hs] at h
      exact ⟨status, rfl, h⟩

theorem pendingDecision_operation {a : PendingAction} {current : OrderOperation}
    {key actor : String} {first second : UUID} {now : Time} {result : OperationServiceResult}
    (h : pendingDecision a current key actor first second now = Except.ok result) :
    result.action = a.action ∧
      result.operation = current.withStatus (a.nextStatus current) none now := by
  cases a with
  | confirmed =>
      rcases status_bind_eq_ok h with ⟨status, _, hresult⟩
      cases hresult
      exact ⟨rfl, rfl⟩
  | cancelled =>
      rcases status_bind_eq_ok h with ⟨status, _, hresult⟩
      cases hresult
      exact ⟨rfl, rfl⟩

theorem submission_operation {current : OrderOperation} {reference key actor : String}
    {first second : UUID} {now : Time} {result : OperationServiceResult}
    (h : submission current reference key actor first second now = Except.ok result) :
    result.action = OperationServiceAction.submitted ∧ result.operation =
      current.withStatus OperationRecordStatus.submitted (some reference) now := by
  rcases status_bind_eq_ok h with ⟨status, _, hresult⟩
  cases hresult
  exact ⟨rfl, rfl⟩

theorem queueing_operation {current : OrderOperation} {request actor : String}
    {first second : UUID} {now updatedAt : Time} {result : OperationServiceResult}
    (h : queueing current request actor first second now updatedAt = Except.ok result) :
    result.action = OperationServiceAction.queued ∧ result.operation =
      current.withStatus OperationRecordStatus.queued none updatedAt := by
  rcases status_bind_eq_ok h with ⟨status, _, hresult⟩
  cases hresult
  exact ⟨rfl, rfl⟩

theorem Revises.attachment (current : OrderOperation) (supportCaseId eventId : UUID)
    (key : String) (now : Time) :
    Revises current (attachment current supportCaseId eventId key now).operation :=
  ⟨current.status, some supportCaseId, current.providerReference, now, rfl⟩

section Writes

variable {scope : AccessScope} {s t u : Database} {current row : OrderOperation}
  {result : OperationServiceResult}

theorem writeOperation_enacts (hheld : Held scope s current row) (hst : Since s t)
    (hrevises : Revises current result.operation)
    (h : writeOperation scope result.operation result.events current.version t =
      Except.ok ((), u)) :
    Held scope t current row ∧ Enacts result none t u := by
  simp only [writeOperation, customerOwnedVisibility, Transaction.bind_eq_ok,
    Transaction.fetch_eq_ok, Transaction.require_eq_ok, Prod.mk.injEq] at h
  rcases h with ⟨customerId, _, ⟨_, rfl⟩, _, t₁, hup, _, _, ⟨rfl, _, rfl⟩, hevents⟩
  rcases updateOperation_spec hup with ⟨r, hget, hp, _, _, hrows, hold, htouch⟩
  have happended := insertOperationEvents_spec hevents
  rcases hrevises.revised with ⟨status, supportCaseId, reference, updatedAt, hupdated⟩
  have hid : result.operation.operationId = current.operationId := by rw [hupdated]
  rw [hid] at hget
  simp only [Bool.and_eq_true, decide_eq_true_eq] at hp
  rcases hheld.again hst hget hp.left with ⟨rfl, hnow⟩
  have hboth := htouch.trans happended.touches
  have hset : result.operation.setFrom r = result.operation := by
    rw [hupdated]
    exact OrderOperation.setFrom_row hheld.eq
  refine ⟨hnow, ?_⟩
  constructor
  · rw [happended.rows, hrows, hset]
  · rw [happended.appended, hold]
  · have hunused := happended.unused
    rw [hold] at hunused
    exact hunused
  · rw [hboth.outbox (by simp)]
    exact (List.append_nil _).symm
  · rw [hboth.outbox (by simp)]
  · rw [hboth.outbox (by simp)]
  · exact hboth.cases (by simp)
  · exact hboth.inbox (by simp)
  · exact hboth.refunds

theorem updateOperationWithEvents_enacts (hheld : Held scope s current row)
    (hst : Since s t) (hrevises : Revises current result.operation)
    (h : updateOperationWithEvents scope result.operation result.events current.version t =
      Except.ok ((), u)) :
    Held scope t current row ∧ Enacts result none t u := by
  simp only [updateOperationWithEvents, Transaction.translate_eq_ok,
    Transaction.bind_eq_ok, validateOwnership, Transaction.require_eq_ok,
    Prod.mk.injEq] at h
  rcases h with ⟨_, _, ⟨_, _, ⟨_, _, rfl⟩, _, _, ⟨_, _, rfl⟩, _, _, ⟨_, _, rfl⟩, _, _,
    rfl⟩, hwrite⟩
  exact writeOperation_enacts hheld hst hrevises hwrite

theorem queueOperationWithEventsAndCommand_enacts {command : ProviderCommandEnvelope}
    (hheld : Held scope s current row) (hst : Since s t)
    (hrevises : Revises current result.operation)
    (h : queueOperationWithEventsAndCommand scope result.operation result.events command
      current.version t = Except.ok ((), u)) :
    Held scope t current row ∧
      Enacts result (some (outboxRow command result.operation.updatedAt)) t u := by
  simp only [queueOperationWithEventsAndCommand, Transaction.translate_eq_ok] at h
  cases hmatch : operationCommandMismatch result.operation result.events command
      current.version with
  | some message =>
      rw [hmatch] at h
      exact absurd h (by simp)
  | none =>
      simp only [hmatch, Transaction.bind_eq_ok, validateOwnership,
        Transaction.require_eq_ok, Prod.mk.injEq] at h
      rcases h with ⟨_, _, ⟨_, _, ⟨_, _, rfl⟩, _, _, ⟨_, _, rfl⟩, _, _, ⟨_, _, rfl⟩, _,
        _, rfl⟩, _, t₁, hwrite, hins⟩
      rcases writeOperation_enacts hheld hst hrevises hwrite with ⟨hnow, henacts⟩
      rcases insertOutboxRow_eq_ok hins with ⟨messages, hmessages, hu⟩
      have hrows := (Table.insert?_eq_some.mp hmessages).right
      have hold := henacts.messages
      rw [Option.toList_none, List.append_nil] at hold
      have hu : u = { t₁ with outbox := { t₁.outbox with messages := messages } } := hu
      subst hu
      refine ⟨hnow, ⟨henacts.rows, henacts.events, henacts.unused, ?_, henacts.attempts,
        henacts.redrives, henacts.cases, henacts.inbox, henacts.refunds⟩⟩
      show messages.rows = _
      rw [hrows, hold]
      rfl

end Writes

/-!
## The methods
-/

section Methods

variable {scope : AccessScope} {operationId : UUID} {key : String} {db : Database}
  {N : OperationServiceResult -> Database -> Prop}
  {S : OperationServiceResult -> Database -> Database -> Prop}

def unchanged (o : OrderOperation) : OperationServiceResult :=
  { action := OperationServiceAction.statusUnchanged, operation := o, events := [] }

theorem unchangedResult_atomic
    (h : forall t o, Since db t -> o.operationId = operationId ->
      (exists row, Held scope t o row) -> N (unchanged o) t) :
    Atomic (unchangedResult scope operationId) db N S := by
  apply Atomic.bind getOperation_looks
  intro o t ht hheld
  exact Atomic.pure (h t o ht hheld.left hheld.right)

/-- An event that is on record answers for the operation it names. -/
def Replays (scope : AccessScope) (key : String)
    (N : OperationServiceResult -> Database -> Prop) : Prop :=
  forall t o e, ownEvent scope key t = some e -> o.operationId = e.operationId ->
    (exists row, Held scope t o row) -> N (unchanged o) t

theorem replayed_atomic {run : Call OperationServiceResult} (hN : Replays scope key N)
    (hrun : forall t, Since db t -> Atomic run t N S) :
    Atomic (do
      let prior ← Program.perform (findEventByIdempotencyKey scope key)
      match prior with
      | some event => unchangedResult scope event.operationId
      | none => run) db N S := by
  apply Atomic.bind findEvent_looks
  intro prior t ht hprior
  cases prior with
  | none => exact hrun t ht
  | some e =>
      apply unchangedResult_atomic
      intro u o htu hid hheld
      exact hN u o e (ownEvent_later htu.operationEvents hprior.symm) hid hheld

theorem updateOrRetry_atomic {s : Database} {current row : OrderOperation}
    {result : OperationServiceResult} {again : Call OperationServiceResult}
    (hheld : Held scope s current row) (hsdb : Since s db)
    (hrevises : Revises current result.operation) (hN : Replays scope key N)
    (hS : forall t u, Steady t -> Held scope t current row -> Enacts result none t u ->
      S result t u)
    (hagain : forall t, Atomic again t N S) :
    Atomic (updateOrRetry scope key current result again) db N S := by
  apply Atomic.rescue
  · apply Atomic.write
    intro t hdt ht b u hu
    rcases updateOperationWithEvents_enacts hheld (hsdb.trans hdt) hrevises hu with
      ⟨hnow, henacts⟩
    exact hS t u ht hnow henacts
  · intro e q t hq
    by_cases hconflict : updateConflict e = true
    · rw [if_pos hconflict] at hq
      cases hq
      exact replayed_atomic hN fun u _ => hagain u
    · rw [if_neg hconflict] at hq
      cases hq

theorem pendingAttempts_atomic {a : PendingAction} {clock : Nat -> Time}
    (hN : Replays scope key N)
    (hanswer : forall t o, o.operationId = operationId -> (exists row, Held scope t o row) ->
      o.status ≠ OperationRecordStatus.pendingConfirmation -> a.alreadyDone o = true ->
      N (unchanged o) t)
    (hS : forall t u current row result n first second, Steady t ->
      Held scope t current row -> current.operationId = operationId ->
      current.status = OperationRecordStatus.pendingConfirmation ->
      pendingDecision a current key scope.identity first second (clock n) =
        Except.ok result -> Enacts result none t u -> S result t u) (n : Nat) :
    forall db, Atomic (pendingAttempts scope operationId a key clock n) db N S := by
  induction n with
  | zero => exact fun db => Atomic.raise
  | succ n ih =>
      intro db
      apply Atomic.bind getOperation_looks
      rintro current t _ ⟨hid, hheld⟩
      apply Atomic.ite
      · intro hstatus
        apply Atomic.ite
        · exact fun hdone => Atomic.pure (hanswer t current hid hheld hstatus hdone)
        · exact fun _ => Atomic.raise
      · intro hstatus
        rcases hheld with ⟨row, hheld⟩
        have hpending := not_not.mp hstatus
        apply Atomic.draw
        intro first t₁ htt₁
        apply Atomic.draw
        intro second t₂ ht₁t₂
        apply Atomic.compute
        intro result hresult
        apply updateOrRetry_atomic hheld (htt₁.trans ht₁t₂) _ hN _ ih
        · rw [(pendingDecision_operation hresult).right]
          exact Revises.withStatus current _ _ _
        · intro u v hu hnow henacts
          exact hS u v current row result n first second hu hnow hid hpending hresult henacts

theorem submitAttempts_atomic {provider : Nat -> Except Failure SubmittedOperation}
    {clock : Nat -> Time} (hN : Replays scope key N)
    (hanswer : forall t o, o.operationId = operationId -> (exists row, Held scope t o row) ->
      o.requiresManualReview = false -> o.status = OperationRecordStatus.submitted ->
      o.providerReference ≠ none -> N (unchanged o) t)
    (hS : forall t u current row result n submitted first second,
      Held scope t current row -> current.operationId = operationId ->
      current.requiresManualReview = false ->
      current.status = OperationRecordStatus.pendingConfirmation ->
      provider n = Except.ok submitted ->
      submission current submitted.reference key scope.identity first second (clock n) =
        Except.ok result -> Enacts result none t u -> S result t u) (n : Nat) :
    forall db, Atomic (submitAttempts scope operationId key provider clock n) db N S := by
  induction n with
  | zero => exact fun db => Atomic.raise
  | succ n ih =>
      intro db
      apply Atomic.bind getOperation_looks
      rintro current t _ ⟨hid, hheld⟩
      apply Atomic.require
      intro hautomatic
      apply Atomic.ite
      · rintro ⟨hstatus, hreference⟩
        exact Atomic.pure (hanswer t current hid hheld hautomatic hstatus hreference)
      · intro _
        rcases hheld with ⟨row, hheld⟩
        apply Atomic.require
        intro hpending
        apply Atomic.compute
        intro submitted hsubmitted
        apply Atomic.draw
        intro first t₁ htt₁
        apply Atomic.draw
        intro second t₂ ht₁t₂
        apply Atomic.compute
        intro result hresult
        apply updateOrRetry_atomic hheld (htt₁.trans ht₁t₂) _ hN _ ih
        · rw [(submission_operation hresult).right]
          exact Revises.withStatus current _ _ _
        · intro u v _ hnow henacts
          exact hS u v current row result n submitted first second hnow hid hautomatic hpending
            hsubmitted hresult henacts

theorem attachAttempts_atomic {supportCaseId : UUID} {clock : Nat -> Time}
    (hN : Replays scope key N)
    (hanswer : forall t o, o.operationId = operationId -> (exists row, Held scope t o row) ->
      o.requiresManualReview = true -> o.status = OperationRecordStatus.manualReview ->
      o.supportCaseId = some supportCaseId -> N (unchanged o) t)
    (hS : forall t u current row n eventId, Held scope t current row ->
      current.operationId = operationId -> current.requiresManualReview = true ->
      current.status = OperationRecordStatus.manualReview ->
      current.supportCaseId = none ->
      Enacts (attachment current supportCaseId eventId key (clock n)) none t u ->
      S (attachment current supportCaseId eventId key (clock n)) t u) (n : Nat) :
    forall db, Atomic (attachAttempts scope operationId supportCaseId key clock n) db N
      S := by
  induction n with
  | zero => exact fun db => Atomic.raise
  | succ n ih =>
      intro db
      apply Atomic.bind getOperation_looks
      rintro current t _ ⟨hid, hheld⟩
      apply Atomic.require
      rintro ⟨hreview, hstatus⟩
      cases hcase : current.supportCaseId with
      | some attached =>
          apply Atomic.ite
          · intro hsame
            rw [hsame] at hcase
            exact Atomic.pure (hanswer t current hid hheld hreview hstatus hcase)
          · exact fun _ => Atomic.raise
      | none =>
          rcases hheld with ⟨row, hheld⟩
          apply Atomic.draw
          intro eventId t₁ htt₁
          apply updateOrRetry_atomic hheld htt₁ (Revises.attachment _ _ _ _ _) hN _ ih
          intro u v _ hnow henacts
          exact hS u v current row n eventId hnow hid hreview hstatus hcase henacts

end Methods

namespace CustomerRequest

variable {scope : AccessScope} {operationId : UUID} {requestId : String}
  {provider : Nat -> Except Failure SubmittedOperation} {clock : Nat -> Time}

theorem normalizeRequestId_eq_strip {request : String}
    (h : normalizeRequestId requestId = Except.ok request) : request = Text.strip requestId := by
  unfold normalizeRequestId at h
  split at h
  · cases h
  · cases h
    rfl

theorem answeredAt_recorded {q : CustomerRequest} {word : String}
    (hword : q.keyWord = some word) :
    Replays scope (keyFor operationId word requestId)
      (q.AnsweredAt scope operationId requestId) := by
  intro t o e he hid hheld
  refine ⟨rfl, rfl, hheld, Or.inl ⟨e, ?_, hid⟩⟩
  unfold recorded
  rw [hword]
  exact he

theorem answeredAt_status {q : CustomerRequest} {t : Database} {o : OrderOperation}
    (hid : o.operationId = operationId) (hheld : exists row, Held scope t o row)
    (h : q.answers o) : q.AnsweredAt scope operationId requestId (unchanged o) t :=
  ⟨rfl, rfl, hheld, Or.inr ⟨hid, h⟩⟩

theorem changeFromPending_atomic {a : PendingAction}
    {N : OperationServiceResult -> Database -> Prop}
    {S : OperationServiceResult -> Database -> Database -> Prop}
    (hN : Replays scope (operationKey operationId (a.word ++ ":" ++ Text.strip requestId)) N)
    (hanswer : forall t o, o.operationId = operationId -> (exists row, Held scope t o row) ->
      o.status ≠ OperationRecordStatus.pendingConfirmation -> a.alreadyDone o = true ->
      N (unchanged o) t)
    (hS : forall t u current row result n first second, Steady t ->
      Held scope t current row -> current.operationId = operationId ->
      current.status = OperationRecordStatus.pendingConfirmation ->
      pendingDecision a current (operationKey operationId (a.word ++ ":" ++
        Text.strip requestId)) scope.identity first second (clock n) = Except.ok result ->
      Enacts result none t u -> S result t u) (db : Database) :
    Atomic (changeFromPending scope operationId requestId a clock) db N S := by
  apply Atomic.compute
  intro request hrequest
  cases normalizeRequestId_eq_strip hrequest
  apply replayed_atomic hN
  intro t _
  exact pendingAttempts_atomic hN hanswer hS maxWriteAttempts t

/-- Confirmation is for operations that need a review; an operation that is still pending
needs one as long as it has needed one before. -/
theorem confirmOperation_atomic (db : Database) :
    Atomic (confirmOperation scope operationId requestId clock) db
      (confirm.AnsweredAt scope operationId requestId)
      (confirm.DoneAt scope operationId requestId provider clock) := by
  have hN : Replays scope (keyFor operationId "confirmed:" requestId)
      (confirm.AnsweredAt scope operationId requestId) := answeredAt_recorded rfl
  apply Atomic.bind getOperation_looks
  rintro o s _ ⟨hid, row, hheld⟩
  apply Atomic.require
  intro hreview
  have hrest : Atomic (changeFromPending scope operationId requestId PendingAction.confirmed
      clock) s (confirm.AnsweredAt scope operationId requestId)
      (fun result t u => Untouched t ∧ exists current row n first second,
        Held scope t current row ∧ current.operationId = operationId ∧
        current.status = OperationRecordStatus.pendingConfirmation ∧
        pendingDecision PendingAction.confirmed current
          (keyFor operationId "confirmed:" requestId) scope.identity first second
          (clock n) = Except.ok result ∧ Enacts result none t u) := by
    apply changeFromPending_atomic (a := PendingAction.confirmed) hN
    · exact fun u o' hid' hheld' hstatus hdone =>
        answeredAt_status hid' hheld' ⟨hdone, hstatus⟩
    · exact fun u v current row' result n first second hu hnow hid' hpending hresult henacts =>
        ⟨hu.untouched, current, row', n, first, second, hnow, hid', hpending, hresult, henacts⟩
  refine hrest.since.mono (fun _ _ h => h.right) ?_
  rintro result t u ⟨hst, ht, current, row', n, first, second, hnow, hid', hpending, hresult,
    henacts⟩
  have hsame := hheld.unchanged hst hnow (hid'.trans hid.symm) ht hpending
  have hcurrent : current.requiresManualReview = true := by
    rw [← hreview, hheld.eq, hnow.eq, hsame]
  rw [← hid'] at hresult
  exact ⟨current, row', none, hnow, hid', ⟨rfl, hcurrent, hpending, n, first, second, hresult⟩,
    henacts⟩

theorem cancelPendingOperation_atomic (db : Database) :
    Atomic (cancelPendingOperation scope operationId requestId clock) db
      (cancel.AnsweredAt scope operationId requestId)
      (cancel.DoneAt scope operationId requestId provider clock) := by
  have hN : Replays scope (keyFor operationId "cancelled:" requestId)
      (cancel.AnsweredAt scope operationId requestId) := answeredAt_recorded rfl
  apply changeFromPending_atomic (a := PendingAction.cancelled) hN
  · intro u o hid hheld _ hdone
    have hcancelled : o.status = OperationRecordStatus.cancelledByCustomer :=
      of_decide_eq_true hdone
    exact answeredAt_status hid hheld hcancelled
  · intro u v current row result n first second _ hnow hid hpending hresult henacts
    rw [← hid] at hresult
    exact ⟨current, row, none, hnow, hid, ⟨rfl, hpending, n, first, second, hresult⟩, henacts⟩

theorem submitConfirmedOperation_atomic (db : Database) :
    Atomic (submitConfirmedOperation scope operationId requestId provider clock) db
      (submit.AnsweredAt scope operationId requestId)
      (submit.DoneAt scope operationId requestId provider clock) := by
  have hN : Replays scope (keyFor operationId "submitted:" requestId)
      (submit.AnsweredAt scope operationId requestId) := answeredAt_recorded rfl
  apply Atomic.compute
  intro request hrequest
  cases normalizeRequestId_eq_strip hrequest
  apply replayed_atomic hN
  intro t _
  apply submitAttempts_atomic hN
  · intro u o hid hheld hautomatic hstatus hreference
    exact answeredAt_status hid hheld ⟨hautomatic, hstatus, hreference⟩
  · intro u v current row result n submitted first second hnow hid hautomatic hpending
      hsubmitted hresult henacts
    rw [← hid] at hresult
    exact ⟨current, row, none, hnow, hid, ⟨rfl, hautomatic, hpending, n, submitted, first,
      second, hsubmitted, hresult⟩, henacts⟩

theorem queueConfirmedOperation_atomic {connectionId : String} (db : Database) :
    Atomic (queueConfirmedOperation scope operationId requestId connectionId clock) db
      ((queue connectionId).AnsweredAt scope operationId requestId)
      ((queue connectionId).DoneAt scope operationId requestId provider clock) := by
  apply Atomic.compute
  intro request hrequest
  cases normalizeRequestId_eq_strip hrequest
  cases hconnection : CleanText.parse? (Text.strip connectionId) with
  | none => exact Atomic.raise
  | some connection =>
      apply Atomic.bind getOperation_looks
      rintro current s _ ⟨hid, hheld⟩
      apply Atomic.require
      intro hautomatic
      apply Atomic.ite
      · exact fun hqueued => Atomic.pure (answeredAt_status hid hheld ⟨hautomatic, hqueued⟩)
      · intro _
        rcases hheld with ⟨row, hheld⟩
        apply Atomic.require
        intro hpending
        apply Atomic.draw
        intro first t₁ hst₁
        apply Atomic.draw
        intro second t₂ ht₁t₂
        apply Atomic.compute
        intro result hresult
        apply Atomic.draw
        intro commandId t₃ ht₂t₃
        apply Atomic.require
        intro _
        apply Atomic.write
        intro t ht₃t _ b u hu
        have hrevises : Revises current result.operation := by
          rw [(queueing_operation hresult).right]
          exact Revises.withStatus current _ _ _
        have hst := ((hst₁.trans ht₁t₂).trans ht₂t₃).trans ht₃t
        rcases queueOperationWithEventsAndCommand_enacts hheld hst hrevises hu with
          ⟨hnow, henacts⟩
        exact ⟨current, row, _, hnow, hid, ⟨hautomatic, hpending, connection, commandId, first,
          second, hconnection, hresult, rfl⟩, henacts⟩

theorem attachSupportCase_atomic {supportCaseId : UUID} (db : Database) :
    Atomic (attachSupportCase scope operationId supportCaseId requestId clock) db
      ((attach supportCaseId).AnsweredAt scope operationId requestId)
      ((attach supportCaseId).DoneAt scope operationId requestId provider clock) := by
  have hN : Replays scope (keyFor operationId "support-case:" requestId)
      ((attach supportCaseId).AnsweredAt scope operationId requestId) :=
    answeredAt_recorded rfl
  apply Atomic.compute
  intro request hrequest
  cases normalizeRequestId_eq_strip hrequest
  apply replayed_atomic hN
  intro t _
  apply attachAttempts_atomic hN
  · intro u o hid hheld hreview hstatus hcase
    exact answeredAt_status hid hheld ⟨hreview, hstatus, hcase⟩
  · intro u v current row n eventId hnow hid hreview hstatus hfree henacts
    refine ⟨current, row, none, hnow, hid, ⟨rfl, hreview, hstatus, hfree, n, eventId, ?_⟩,
      henacts⟩
    rw [hid]

theorem call_atomic (q : CustomerRequest) (db : Database) :
    Atomic (q.call scope operationId requestId provider clock) db
      (q.AnsweredAt scope operationId requestId)
      (q.DoneAt scope operationId requestId provider clock) := by
  cases q with
  | confirm => exact confirmOperation_atomic db
  | cancel => exact cancelPendingOperation_atomic db
  | submit => exact submitConfirmedOperation_atomic db
  | queue connectionId =>
      unfold call
      exact queueConfirmedOperation_atomic db
  | attach supportCaseId => exact attachSupportCase_atomic db

end CustomerRequest

/-!
## Runs
-/

/--
Every run of the five methods, among any number of turns, other calls and workers, is one
step.  A call that has ended has either changed nothing, and then what it has answered was
right in a state between its beginning and its end; or its last transaction has read,
decided and stored all at once, whatever had happened since the operation was first looked
at, and its other transactions have changed no table.  A call that fails has changed
nothing.
-/
theorem request_acts_at_one_point {stages : List (Stage World Event)} {w : World}
    (h : World.Runs stages w) {x : Stage World Event} (hx : x ∈ stages) {i : Nat}
    {q : CustomerRequest} {scope : AccessScope} {operationId : UUID} {requestId : String}
    {provider : Nat -> Except Failure SubmittedOperation} {clock : Nat -> Time}
    {r : Except Failure OperationServiceResult}
    (hbegins : Begins i (q.call scope operationId requestId provider clock) x)
    (hended : w.Ended i r) :
    AnswersIn stages i x (q.AnsweredAt scope operationId requestId) r ∨
      ActsIn stages i (q.DoneAt scope operationId requestId provider clock) r :=
  h.at_one_point hx hbegins hended fun db => q.call_atomic db

theorem World.Runs.serve_entered {stages : List (Stage World Event)} {w : World}
    (h : World.Runs stages w) {α : Type} {p : Call α} (hp : Method AnyDecision p) :
    exists more x, World.Runs (stages ++ more) (w.serve p) ∧ x ∈ more ∧
      Begins w.calls.length p x ∧ (w.serve p).Ended w.calls.length (p.run w.db).1 := by
  rcases h with ⟨ids, hrun⟩
  rcases World.run_calls p { w with calls := w.calls ++ [⟨α, p⟩] } w.calls [] rfl with
    ⟨more, hmore, _⟩
  refine ⟨_, ⟨w, Event.start, { w with calls := w.calls ++ [⟨α, p⟩] }⟩,
    ⟨ids, hrun.append (Run.cons (World.Step.start hp) hmore)⟩, List.mem_cons_self,
    ⟨rfl, by simp⟩, ?_⟩
  unfold World.Ended World.serve
  simp

/-- The customer cancels once more, under another request id. -/
def sampleCancelAgain : Call OperationServiceResult :=
  cancelPendingOperation sampleScope 0 "again" (fun _ => 0)

/-- Both calls find the operation pending.  The first one writes before the second one,
whose write fails and which looks once more. -/
def sampleLostRace : List Bool :=
  List.replicate 4 true ++ List.replicate 4 false ++ [true] ++ List.replicate 3 false

def sampleCancelRace : World :=
  samplePending.race sampleCancel sampleCancelAgain sampleLostRace

theorem sampleCancelRace_actions :
    ((resultOf (raceOf sampleLostRace sampleCancel sampleCancelAgain samplePending.db).1).bind
        Except.toOption).map OperationServiceResult.action =
      some OperationServiceAction.cancelled ∧
    ((resultOf (raceOf sampleLostRace sampleCancel sampleCancelAgain
        samplePending.db).2.1).bind Except.toOption).map OperationServiceResult.action =
      some OperationServiceAction.statusUnchanged := by
  decide +kernel

theorem sampleCancelRace_runs : exists stages x x' i j,
    exists result result' : OperationServiceResult,
    World.Runs stages sampleCancelRace ∧ x ∈ stages ∧ x' ∈ stages ∧ i ≠ j ∧
    Begins i (CustomerRequest.cancel.call sampleScope 0 "request"
      (fun _ => Except.error Failure.orderNotAccessible) (fun _ => 0)) x ∧
    Begins j (CustomerRequest.cancel.call sampleScope 0 "again"
      (fun _ => Except.error Failure.orderNotAccessible) (fun _ => 0)) x' ∧
    sampleCancelRace.Ended i (Except.ok result) ∧ sampleCancelRace.Ended j (Except.ok result') ∧
    result.action = OperationServiceAction.cancelled ∧
    result'.action = OperationServiceAction.statusUnchanged := by
  have hstart : World.Runs [] (World.initial sampleIds) := ⟨sampleIds, Run.nil _⟩
  rcases hstart.serve (Method.createPendingOperation sampleScope sampleRequest
    sampleSnapshot sampleDecision "please cancel" (fun _ => 0)) with ⟨first, hfirst, _⟩
  have hpending : World.Runs ([] ++ first) samplePending := hfirst
  have hactions := sampleCancelRace_actions
  unfold sampleCancelRace
  generalize samplePending = w at hpending hactions ⊢
  rcases hpending.race (Method.cancelPendingOperation sampleScope 0 "request" (fun _ => 0))
    (Method.cancelPendingOperation sampleScope 0 "again" (fun _ => 0)) sampleLostRace with
    ⟨all, x, x', hrun, hx, hx', hbegins, hbegins'⟩
  rcases resultOf_ok hactions.left with ⟨result, hresult, haction⟩
  rcases resultOf_ok hactions.right with ⟨result', hresult', haction'⟩
  have hended := w.race_ended sampleCancel sampleCancelAgain sampleLostRace
  exact ⟨all, x, x', _, _, result, result', hrun, hx, hx', Nat.ne_of_lt (Nat.lt_succ_self _),
    hbegins, hbegins', hended.left _ hresult, hended.right _ hresult', haction, haction'⟩

/-- The winner acts at one point, although the other call has read in between. -/
theorem request_acts_at_one_point_sample :
    exists stages i j, exists result result' : OperationServiceResult,
      World.Runs stages sampleCancelRace ∧ i ≠ j ∧
      ActsIn stages i (CustomerRequest.cancel.DoneAt sampleScope 0 "request"
        (fun _ => Except.error Failure.orderNotAccessible) (fun _ => 0))
        (Except.ok result) ∧
      sampleCancelRace.Ended i (Except.ok result) ∧ sampleCancelRace.Ended j (Except.ok result') ∧
      result'.action = OperationServiceAction.statusUnchanged := by
  rcases sampleCancelRace_runs with ⟨stages, x, x', i, j, result, result', hrun, hx, _, hne,
    hbegins, _, hended, hended', haction, haction'⟩
  refine ⟨stages, i, j, result, result', hrun, hne, ?_, hended, hended', haction'⟩
  rcases request_acts_at_one_point hrun hx hbegins hended with hanswer | hact
  · -- an answer that changes nothing would have another action
    rcases hanswer.right result rfl with ⟨y, _, hright⟩
    rw [hright.left] at haction
    cases haction
  · exact hact

/-!
## One decision
-/

namespace CustomerRequest

/-- The requests that decide about an operation which waits for the customer. -/
def decisive : CustomerRequest -> Bool
  | attach _ => false
  | _ => true

section Decisions

variable {q : CustomerRequest} {scope : AccessScope} {operationId : UUID}
  {requestId : String} {provider : Nat -> Except Failure SubmittedOperation}
  {clock : Nat -> Time} {current : OrderOperation} {result : OperationServiceResult}
  {command : Option OutboxMessage}

theorem Decides.revises (h : q.Decides scope requestId provider clock current result command) :
    Revises current result.operation := by
  cases q with
  | confirm =>
      rcases h with ⟨_, _, _, n, first, second, hresult⟩
      rw [(pendingDecision_operation hresult).right]
      exact Revises.withStatus _ _ _ _
  | cancel =>
      rcases h with ⟨_, _, n, first, second, hresult⟩
      rw [(pendingDecision_operation hresult).right]
      exact Revises.withStatus _ _ _ _
  | submit =>
      rcases h with ⟨_, _, _, n, submitted, first, second, _, hresult⟩
      rw [(submission_operation hresult).right]
      exact Revises.withStatus _ _ _ _
  | queue connectionId =>
      rcases h with ⟨_, _, connection, commandId, first, second, _, hresult, _⟩
      rw [(queueing_operation hresult).right]
      exact Revises.withStatus _ _ _ _
  | attach supportCaseId =>
      rcases h with ⟨_, _, _, _, n, eventId, hresult⟩
      rw [hresult]
      exact Revises.attachment _ _ _ _ _

theorem Decides.pending (h : q.Decides scope requestId provider clock current result command)
    (hq : q.decisive = true) :
    current.status = OperationRecordStatus.pendingConfirmation := by
  cases q with
  | confirm => exact h.right.right.left
  | cancel => exact h.right.left
  | submit => exact h.right.right.left
  | queue connectionId => exact h.right.left
  | attach supportCaseId => cases hq

theorem DoneAt.stored {db db' : Database}
    (h : q.DoneAt scope operationId requestId provider clock result db db')
    (hq : q.decisive = true) :
    (exists row, db.operations.rows.get operationId = some row ∧
      row.status = OperationRecordStatus.pendingConfirmation) ∧
    exists row', db'.operations.rows.get operationId = some row' ∧ 2 ≤ row'.version := by
  rcases h with ⟨current, row, command, hheld, hid, hdecides, henacts⟩
  have hget := hheld.get
  rw [hid] at hget
  constructor
  · refine ⟨row, hget, ?_⟩
    rw [← hdecides.pending hq, hheld.eq]
  · rcases hdecides.revises.revised with ⟨status, supportCaseId, reference, updatedAt,
      hupdated⟩
    have hkey : result.operation.operationId = operationId := by
      rw [hupdated]
      exact hid
    refine ⟨result.operation, ?_, ?_⟩
    · have hold : db.operations.rows.get result.operation.operationId = some row := by
        rw [hkey]
        exact hget
      rw [henacts.rows, ← hkey]
      exact Table.get_put_self hold
    · have hvalid := (OrderOperation.ofRow?_eq_some hheld.parsed).right
      simp only [OrderOperation.valid, Bool.and_eq_true, decide_eq_true_eq] at hvalid
      have hversion : result.operation.version = current.version + 1 := by rw [hupdated]
      have hpositive := hvalid.right
      omega

theorem DoneAt.not_again {db db' : Database}
    (h : q.DoneAt scope operationId requestId provider clock result db db')
    (hq : q.decisive = true) {q' : CustomerRequest} {scope' : AccessScope}
    {requestId' : String} {provider' : Nat -> Except Failure SubmittedOperation}
    {clock' : Nat -> Time} {result' : OperationServiceResult} {u u' : Database}
    (h' : q'.DoneAt scope' operationId requestId' provider' clock' result' u u')
    (hq' : q'.decisive = true) (hsteady : Steady u) : ¬Since db' u := by
  intro hsince
  rcases (h.stored hq).right with ⟨row, hget, hversion⟩
  rcases (h'.stored hq').left with ⟨row', hget', hpending⟩
  rcases hsince.later.operations _ row hget with ⟨row'', hget'', _, hle, _⟩
  rw [hget'] at hget''
  cases hget''
  have hone := hsteady.untouched row' (Table.mem_of_get hget') hpending
  omega

end Decisions

end CustomerRequest

/-- One of two stages is later than the other. -/
def Apart (y z : Stage World Event) : Prop :=
  Since y.after.db z.before.db ∨ Since z.after.db y.before.db

instance : Std.Symm Apart := ⟨fun _ _ h => Or.symm h⟩

theorem World.Runs.apart {stages : List (Stage World Event)} {w : World}
    (h : World.Runs stages w) {y z : Stage World Event} (hy : y ∈ stages) (hz : z ∈ stages)
    (hne : y ≠ z) : Apart y z := by
  have hpairs : stages.Pairwise Apart := h.since_stages.right.imp Or.inl
  exact hpairs.forall hy hz hne

/-- The last transactions of two calls that have none in common. -/
theorem Makes.last_apart {stages first first' : List (Stage World Event)} {w : World}
    (h : World.Runs stages w) {i j : Nat} {α β : Type} {p : Call α} {q : Call β}
    {x x' y z : Stage World Event} {r : Except Failure α} {r' : Except Failure β}
    (hmade : Makes stages i p x (first ++ [y]) r)
    (hmade' : Makes stages j q x' (first' ++ [z]) r')
    (hapart : forall u, u ∈ first ++ [y] -> u ∉ first' ++ [z]) :
    y ∈ stages ∧ z ∈ stages ∧ Apart y z := by
  have hy : y ∈ first ++ [y] := List.mem_append_right first List.mem_cons_self
  have hz : z ∈ first' ++ [z] := List.mem_append_right first' List.mem_cons_self
  have hstages : y ≠ z := by
    rintro rfl
    exact hapart y hy hz
  exact ⟨(hmade.mem hy).left, (hmade'.mem hz).left,
    h.apart (hmade.mem hy).left (hmade'.mem hz).left hstages⟩

/-- Of two calls that decide about one operation, one at least has changed nothing, wherever
they have been made. -/
theorem World.Runs.one_decision {stages : List (Stage World Event)} {w : World}
    (h : World.Runs stages w) {x x' : Stage World Event} {i j : Nat}
    {own own' : List (Stage World Event)} {q q' : CustomerRequest}
    {scope scope' : AccessScope} {operationId : UUID} {requestId requestId' : String}
    {provider provider' : Nat -> Except Failure SubmittedOperation}
    {clock clock' : Nat -> Time} {result result' : OperationServiceResult}
    (hq : q.decisive = true) (hq' : q'.decisive = true)
    (hmade : Makes stages i (q.call scope operationId requestId provider clock) x own
      (Except.ok result))
    (hmade' : Makes stages j (q'.call scope' operationId requestId' provider' clock') x' own'
      (Except.ok result'))
    (hapart : forall y, y ∈ own -> y ∉ own') :
    (result.action = OperationServiceAction.statusUnchanged ∧
      forall y, y ∈ own -> SameTables y.before.db y.after.db) ∨
    (result'.action = OperationServiceAction.statusUnchanged ∧
      forall y, y ∈ own' -> SameTables y.before.db y.after.db) := by
  rcases h.made_at_one_point hmade fun db => q.call_atomic db with hanswer | hact
  · left
    rcases hanswer.right result rfl with ⟨_, _, hright⟩
    exact ⟨hright.left, hanswer.idle⟩
  · rcases h.made_at_one_point hmade' fun db => q'.call_atomic db with hanswer | hact'
    · right
      rcases hanswer.right result' rfl with ⟨_, _, hright⟩
      exact ⟨hright.left, hanswer.idle⟩
    · -- both have acted, one after the other
      exfalso
      rcases hact with ⟨first, y, a, rfl, _, _, hdone⟩
      rcases hact' with ⟨first', z, a', rfl, _, _, hdone'⟩
      rcases hmade.last_apart h hmade' hapart with ⟨hy, hz, hsince | hsince⟩
      · exact hdone.not_again hq hdone' hq' (h.steady z hz) hsince
      · exact hdone'.not_again hq' hdone hq (h.steady y hy) hsince

/--
One decision for each operation.  However many calls confirm, cancel, submit or queue the
same operation, under whichever request ids, interleaved with each other and with the
workers: of any two of them that have returned, one at least has changed nothing.
-/
theorem decided_once {stages : List (Stage World Event)} {w : World}
    (h : World.Runs stages w) {x x' : Stage World Event} (hx : x ∈ stages)
    (hx' : x' ∈ stages) {i j : Nat} (hne : i ≠ j) {q q' : CustomerRequest}
    {scope scope' : AccessScope} {operationId : UUID} {requestId requestId' : String}
    {provider provider' : Nat -> Except Failure SubmittedOperation}
    {clock clock' : Nat -> Time} {result result' : OperationServiceResult}
    (hq : q.decisive = true) (hq' : q'.decisive = true)
    (hbegins : Begins i (q.call scope operationId requestId provider clock) x)
    (hbegins' : Begins j (q'.call scope' operationId requestId' provider' clock') x')
    (hended : w.Ended i (Except.ok result)) (hended' : w.Ended j (Except.ok result')) :
    (result.action = OperationServiceAction.statusUnchanged ∧
      forall y, y ∈ ownStages i stages -> SameTables y.before.db y.after.db) ∨
    (result'.action = OperationServiceAction.statusUnchanged ∧
      forall y, y ∈ ownStages j stages -> SameTables y.before.db y.after.db) := by
  have hmade := h.makes hx hbegins hended
  have hmade' := h.makes hx' hbegins' hended'
  exact h.one_decision hq hq' hmade hmade' (hmade.apart h hmade' hne)

theorem World.Ended.serve {w : World} {i : Nat} {α β : Type} {r : Except Failure α}
    (h : w.Ended i r) (p : Call β) : (w.serve p).Ended i r := by
  unfold World.Ended at h ⊢
  have hbound : i < w.calls.length := (List.getElem?_eq_some_iff.mp h).choose
  show (w.calls ++ [_])[i]? = _
  rw [List.getElem?_append_left hbound]
  exact h

theorem World.serve_length (w : World) {α : Type} (p : Call α) :
    (w.serve p).calls.length = w.calls.length + 1 := by
  show (w.calls ++ [_]).length = _
  rw [List.length_append]
  rfl

theorem decided_once_sample :
    exists stages, World.Runs stages sampleCancelRace ∧
    exists (i j : Nat) (result result' : OperationServiceResult), i ≠ j ∧
      sampleCancelRace.Ended i (Except.ok result) ∧ sampleCancelRace.Ended j (Except.ok result') ∧
      result.action = OperationServiceAction.cancelled ∧
      result'.action = OperationServiceAction.statusUnchanged ∧
      forall y, y ∈ ownStages j stages -> SameTables y.before.db y.after.db := by
  rcases sampleCancelRace_runs with ⟨stages, x, x', i, j, result, result', hrun, hx, hx', hne,
    hbegins, hbegins', hended, hended', haction, haction'⟩
  refine ⟨stages, hrun, i, j, result, result', hne, hended, hended', haction, haction', ?_⟩
  rcases decided_once hrun hx hx' hne rfl rfl hbegins hbegins' hended hended' with
    hsame | hsame
  · rw [hsame.left] at haction
    cases haction
  · exact hsame.right

end RefundAgent
