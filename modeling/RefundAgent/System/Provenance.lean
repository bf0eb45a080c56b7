import RefundAgent.System.Reach

/-!
# Where operations come from

Of all the transactions of a turn only one inserts an order operation, and what
it inserts has been evaluated by the same turn on a snapshot that the turn has
read.  So in a run of turns every operation goes back to an evaluation by a turn
that has begun before, and an operation that is queued goes back to one that
found it eligible.
-/

namespace RefundAgent

open Foundation

/-!
## Transactions that insert no operation
-/

/-- The same operations are on record. -/
def SameOperations (db db' : Database) : Prop :=
  db'.operations.rows.rows.map OrderOperation.operationId =
    db.operations.rows.rows.map OrderOperation.operationId

theorem SameOperations.refl (db : Database) : SameOperations db db := rfl

theorem SameOperations.trans (a b c : Database) (h : SameOperations a b)
    (h' : SameOperations b c) : SameOperations a c :=
  Eq.trans h' h

/-- A transaction that inserts no operation. -/
def Spares {α : Type} (tx : Tx α) : Prop :=
  Transaction.Keeps SameOperations tx

namespace Spares

variable {α β : Type}

theorem of_rows {tx : Tx α} (h : forall db a db', tx db = Except.ok (a, db') ->
    db'.operations.rows = db.operations.rows) : Spares tx := by
  intro db a db' htx
  unfold SameOperations
  rw [h db a db' htx]

theorem pure (a : α) : Spares (Pure.pure a : Tx α) :=
  Transaction.Keeps.pure SameOperations.refl a

theorem raise (e : Failure) : Spares (Transaction.raise e : Tx α) :=
  Transaction.Keeps.raise e

theorem require (c : Prop) [Decidable c] (e : Failure) :
    Spares (Transaction.require c e) :=
  Transaction.Keeps.require SameOperations.refl c e

theorem read (f : Database -> α) : Spares (Transaction.read f : Tx α) :=
  Transaction.Keeps.read SameOperations.refl f

theorem fetch (f : Database -> Option α) (e : Failure) :
    Spares (Transaction.fetch f e : Tx α) :=
  Transaction.Keeps.fetch SameOperations.refl f e

theorem bind {tx : Tx α} {f : α -> Tx β} (h : Spares tx)
    (hf : forall a, Spares (f a)) : Spares (tx >>= f) :=
  Transaction.Keeps.bind SameOperations.trans h hf

theorem translate {g : Failure -> Failure} {tx : Tx α} (h : Spares tx) :
    Spares (Transaction.translate g tx) :=
  Transaction.Keeps.translate g h

theorem ite {c : Prop} [Decidable c] {tx ty : Tx α} (hx : Spares tx)
    (hy : Spares ty) : Spares (if c then tx else ty) :=
  Transaction.Keeps.ite hx hy

theorem insertRow {ρ : Type} {key : ρ -> UUID}
    {table : Database -> Table ρ UUID key}
    {store : Database -> Table ρ UUID key -> Database} {row : ρ}
    (h : forall db t, (store db t).operations.rows = db.operations.rows) :
    Spares (RefundAgent.insertRow table store row) := by
  refine of_rows ?_
  intro db a db' hrow
  rcases insertRow_eq_ok.mp hrow with ⟨t, _, hstore⟩
  have hdb : store db t = db' := hstore
  rw [← hdb]
  exact h db t

end Spares

/-!
## Statements
-/

theorem newId_spares : Spares newId := by
  refine Spares.of_rows ?_
  intro db id db' h
  rw [← (newId_eq_ok.mp h).right]

theorem updateOperation_spares (operationId : UUID) (p : OrderOperation -> Bool)
    (f : OrderOperation -> OrderOperation) : Spares (updateOperation operationId p f) := by
  intro db n db' h
  cases hget : db.operations.rows.get operationId with
  | none =>
      simp only [updateOperation, hget] at h
      cases h
      exact SameOperations.refl db
  | some r =>
      simp only [updateOperation, hget] at h
      by_cases hp : p r = true
      · rw [if_pos hp] at h
        by_cases hc : (f r).checks = false
        · rw [if_pos hc] at h
          cases h
        · rw [if_neg hc] at h
          by_cases ha : activeOrderTaken db (f r) = true
          · rw [if_pos ha] at h
            cases h
          · rw [if_neg ha] at h
            cases h
            exact Table.map_key_put _ _
      · rw [if_neg hp] at h
        cases h
        exact SameOperations.refl db

theorem insertOperationEvent_spares (e : OrderOperationEvent) :
    Spares (insertOperationEvent e) := by
  refine Spares.bind (Spares.read _) fun db => ?_
  refine Spares.bind (Spares.require _ _) fun _ => ?_
  refine Spares.bind (Spares.require _ _) fun _ => ?_
  exact Spares.insertRow fun _ _ => rfl

theorem insertOperationEvents_spares (es : List OrderOperationEvent) :
    Spares (insertOperationEvents es) := by
  induction es with
  | nil => exact Spares.pure ()
  | cons e rest ih => exact Spares.bind (insertOperationEvent_spares e) fun _ => ih

theorem insertCase_spares (c : SupportCase) : Spares (insertCase c) := by
  refine Spares.bind (Spares.read _) fun refused => ?_
  cases refused with
  | some e => exact Spares.raise e
  | none => exact Spares.insertRow fun _ _ => rfl

theorem insertCaseEvent_spares (e : SupportCaseEvent) : Spares (insertCaseEvent e) := by
  refine Spares.bind (Spares.read _) fun db => ?_
  refine Spares.bind (Spares.require _ _) fun _ => ?_
  exact Spares.insertRow fun _ _ => rfl

theorem updateCase_spares (caseId : UUID) (p : SupportCase -> Bool)
    (f : SupportCase -> SupportCase) : Spares (updateCase caseId p f) := by
  refine Spares.of_rows ?_
  intro db n db' h
  cases hget : db.cases.rows.get caseId with
  | none =>
      simp only [updateCase, hget] at h
      cases h
      rfl
  | some r =>
      simp only [updateCase, hget] at h
      by_cases hp : p r = true
      · rw [if_pos hp] at h
        cases hrefused : refuseCase db (f r) with
        | some e =>
            simp only [hrefused] at h
            cases h
        | none =>
            simp only [hrefused] at h
            cases h
            rfl
      · rw [if_neg hp] at h
        cases h
        rfl

theorem insertOutboxMessage_spares (command : ProviderCommandEnvelope) (now : Time) :
    Spares (insertOutboxMessage command now) := by
  refine Spares.bind (Spares.read _) fun db => ?_
  refine Spares.bind (Spares.require _ _) fun _ => ?_
  exact Spares.insertRow fun _ _ => rfl

theorem insertRefundOnce_spares (r : RefundRequest) : Spares (insertRefundOnce r) := by
  refine Spares.bind (Spares.read _) fun db => ?_
  refine Spares.ite ?_ (Spares.pure false)
  exact Spares.bind (Spares.insertRow fun _ _ => rfl) fun _ => Spares.pure true

/-!
## Repositories
-/

theorem operationFromRow_spares (row : OrderOperation) :
    Spares (operationFromRow row) := by
  unfold operationFromRow
  cases row.ofRow? with
  | some o => exact Spares.pure o
  | none => exact Spares.raise _

theorem caseFromRow_spares (row : SupportCase) : Spares (caseFromRow row) :=
  Spares.bind (Spares.require _ _) fun _ => Spares.pure row

theorem fetchOperation_spares (query : Database -> Option OrderOperation) :
    Spares (fetchOperation query) := by
  refine Spares.bind (Spares.read _) fun found => ?_
  cases found with
  | none => exact Spares.pure none
  | some row => exact Spares.bind (operationFromRow_spares row) fun o => Spares.pure _

theorem findOperation_spares (scope : AccessScope) (operationId : UUID) :
    Spares (findOperation scope operationId) :=
  Spares.bind (Spares.fetch _ _) fun _ => fetchOperation_spares _

theorem findBySourceMessage_spares (scope : AccessScope)
    (threadId sourceMessageId : CleanText) :
    Spares (findBySourceMessage scope threadId sourceMessageId) :=
  Spares.bind (Spares.fetch _ _) fun _ => fetchOperation_spares _

theorem findActiveByOrderId_spares (scope : AccessScope) (orderId : OrderId) :
    Spares (findActiveByOrderId scope orderId) :=
  Spares.bind (Spares.fetch _ _) fun _ => fetchOperation_spares _

theorem findEventByIdempotencyKey_spares (scope : AccessScope) (key : String) :
    Spares (findEventByIdempotencyKey scope key) :=
  Spares.bind (Spares.fetch _ _) fun _ => Spares.read _

theorem validateOwnership_spares (scope : AccessScope) (operation : OrderOperation)
    (events : List OrderOperationEvent) :
    Spares (validateOwnership scope operation events) := by
  refine Spares.bind (Spares.require _ _) fun _ => ?_
  refine Spares.bind (Spares.require _ _) fun _ => ?_
  exact Spares.bind (Spares.require _ _) fun _ => Spares.require _ _

theorem writeOperation_spares (scope : AccessScope) (operation : OrderOperation)
    (events : List OrderOperationEvent) (expectedVersion : Nat) :
    Spares (writeOperation scope operation events expectedVersion) := by
  refine Spares.bind (Spares.fetch _ _) fun customerId => ?_
  refine Spares.bind (updateOperation_spares _ _ _) fun affected => ?_
  exact Spares.bind (Spares.require _ _) fun _ => insertOperationEvents_spares events

theorem updateOperationWithEvents_spares (scope : AccessScope)
    (operation : OrderOperation) (events : List OrderOperationEvent)
    (expectedVersion : Nat) :
    Spares (updateOperationWithEvents scope operation events expectedVersion) :=
  Spares.translate (Spares.bind (validateOwnership_spares _ _ _) fun _ =>
    writeOperation_spares _ _ _ _)

theorem queueOperationWithEventsAndCommand_spares (scope : AccessScope)
    (operation : OrderOperation) (events : List OrderOperationEvent)
    (command : ProviderCommandEnvelope) (expectedVersion : Nat) :
    Spares (queueOperationWithEventsAndCommand scope operation events command
      expectedVersion) := by
  refine Spares.translate ?_
  cases operationCommandMismatch operation events command expectedVersion with
  | some message => exact Spares.raise _
  | none =>
      refine Spares.bind (validateOwnership_spares _ _ _) fun _ => ?_
      refine Spares.bind (writeOperation_spares _ _ _ _) fun _ => ?_
      exact insertOutboxMessage_spares _ _

theorem visibleCases_spares (scope : AccessScope) : Spares (visibleCases scope) := by
  unfold visibleCases
  cases caseVisibility scope with
  | ok p => exact Spares.pure p
  | error e => exact Spares.raise e

theorem fetchCase_spares (query : Database -> Option SupportCase) :
    Spares (fetchCase query) := by
  refine Spares.bind (Spares.read _) fun found => ?_
  cases found with
  | none => exact Spares.pure none
  | some row => exact Spares.bind (caseFromRow_spares row) fun c => Spares.pure _

theorem findCaseBySourceMessage_spares (scope : AccessScope)
    (threadId sourceMessageId : CleanText) :
    Spares (findCaseBySourceMessage scope threadId sourceMessageId) :=
  Spares.bind (visibleCases_spares scope) fun _ => fetchCase_spares _

theorem findUnresolvedCase_spares (scope : AccessScope) (threadId : CleanText)
    (caseType : CaseType) (orderId : Option TrimmedText) :
    Spares (findUnresolvedCase scope threadId caseType orderId) := by
  refine Spares.bind (visibleCases_spares scope) fun visible => ?_
  refine Spares.ite ?_ (fetchCase_spares _)
  exact Spares.bind (Spares.require _ _) fun _ => fetchCase_spares _

theorem listThreadCases_spares (scope : AccessScope) (threadId : CleanText) :
    Spares (listThreadCases scope threadId) := by
  refine Spares.bind (visibleCases_spares scope) fun visible => ?_
  refine Spares.bind (Spares.read _) fun page => ?_
  exact Transaction.Keeps.forEach SameOperations.refl SameOperations.trans
    caseFromRow_spares page

theorem validateCaseOwnership_spares (scope : AccessScope) (c : SupportCase)
    (event : SupportCaseEvent) : Spares (validateCaseOwnership scope c event) := by
  refine Spares.bind (Spares.require _ _) fun _ => ?_
  exact Spares.bind (Spares.require _ _) fun _ => Spares.require _ _

theorem createCaseWithEvent_spares (scope : AccessScope) (c : SupportCase)
    (event : SupportCaseEvent) : Spares (createCaseWithEvent scope c event) := by
  refine Spares.translate ?_
  refine Spares.bind (validateCaseOwnership_spares _ _ _) fun _ => ?_
  exact Spares.bind (insertCase_spares c) fun _ => insertCaseEvent_spares event

theorem writeCase_spares (scope : AccessScope) (c : SupportCase)
    (event : SupportCaseEvent) (expectedVersion : Nat) :
    Spares (writeCase scope c event expectedVersion) := by
  refine Spares.bind (visibleCases_spares scope) fun visible => ?_
  refine Spares.bind (updateCase_spares _ _ _) fun affected => ?_
  exact Spares.bind (Spares.require _ _) fun _ => insertCaseEvent_spares event

theorem updateCaseWithEvent_spares (scope : AccessScope) (c : SupportCase)
    (event : SupportCaseEvent) (expectedVersion : Nat) :
    Spares (updateCaseWithEvent scope c event expectedVersion) := by
  refine Spares.translate ?_
  refine Spares.bind (Spares.require _ _) fun _ => ?_
  refine Spares.bind (validateCaseOwnership_spares _ _ _) fun _ => ?_
  exact writeCase_spares _ _ _ _

theorem createCaseWithEventAndCommand_spares (scope : AccessScope) (c : SupportCase)
    (event : SupportCaseEvent) (command : ProviderCommandEnvelope) :
    Spares (createCaseWithEventAndCommand scope c event command) := by
  refine Spares.translate ?_
  cases caseCommandMismatch c event command with
  | some message => exact Spares.raise _
  | none =>
      refine Spares.bind (validateCaseOwnership_spares _ _ _) fun _ => ?_
      refine Spares.bind (insertCase_spares c) fun _ => ?_
      refine Spares.bind (insertCaseEvent_spares event) fun _ => ?_
      exact insertOutboxMessage_spares _ _

theorem appendDeliveryTriggerAndEnsureCommand_spares (scope : AccessScope)
    (c : SupportCase) (event : SupportCaseEvent) (command : ProviderCommandEnvelope)
    (expectedVersion : Nat) :
    Spares (appendDeliveryTriggerAndEnsureCommand scope c event command
      expectedVersion) := by
  refine Spares.translate ?_
  refine Spares.bind (Spares.require _ _) fun _ => ?_
  cases caseCommandMismatch c event command with
  | some message => exact Spares.raise _
  | none =>
      refine Spares.bind (validateCaseOwnership_spares _ _ _) fun _ => ?_
      refine Spares.bind (writeCase_spares _ _ _ _) fun _ => ?_
      refine Spares.bind (Spares.read _) fun hasCommand => ?_
      refine Spares.ite (Spares.pure false) ?_
      exact Spares.bind (insertOutboxMessage_spares _ _) fun _ => Spares.pure true

theorem createRefundRequest_spares (scope : AccessScope) (refund : RefundRequest) :
    Spares (createRefundRequest scope refund) := by
  refine Spares.translate ?_
  refine Spares.bind (Spares.fetch _ _) fun _ => ?_
  exact Spares.bind (Spares.require _ _) fun _ => insertRefundOnce_spares refund

theorem linkedReviewCase_spares (operation : OrderOperation) (caseId : UUID) :
    Spares (linkedReviewCase operation caseId) := by
  refine Spares.bind (Spares.fetch _ _) fun row => ?_
  refine Spares.bind (caseFromRow_spares row) fun c => ?_
  exact Spares.bind (Spares.require _ _) fun _ => Spares.pure _

theorem queueFailureCase_spares (operation : OrderOperation) (requestId : String)
    (now : Time) : Spares (queueFailureCase operation requestId now) := by
  refine Spares.bind (Spares.read _) fun found => ?_
  cases found with
  | none =>
      refine Spares.bind newId_spares fun caseId => ?_
      refine Spares.bind newId_spares fun eventId => ?_
      refine Spares.bind (insertCase_spares _) fun _ => ?_
      exact Spares.bind (insertCaseEvent_spares _) fun _ => Spares.pure _
  | some row =>
      refine Spares.bind (caseFromRow_spares row) fun existing => ?_
      refine Spares.bind (updateCase_spares _ _ _) fun affected => ?_
      refine Spares.bind (Spares.require _ _) fun _ => ?_
      refine Spares.bind newId_spares fun eventId => ?_
      exact Spares.bind (insertCaseEvent_spares _) fun _ => Spares.pure _

theorem moveToReview_spares (scope : AccessScope) (operation : OrderOperation)
    (requestId : String) (replay : Bool) (now : Time) :
    Spares (moveToReview scope operation requestId replay now) := by
  refine Spares.bind (queueFailureCase_spares _ _ _) fun found => ?_
  refine Spares.bind (updateOperation_spares _ _ _) fun affected => ?_
  refine Spares.bind (Spares.require _ _) fun _ => ?_
  cases replay with
  | true => exact Spares.pure _
  | false =>
      refine Spares.bind newId_spares fun first => ?_
      refine Spares.bind newId_spares fun second => ?_
      refine Spares.bind newId_spares fun third => ?_
      exact Spares.bind (insertOperationEvents_spares _) fun _ => Spares.pure _

theorem moveOnce_spares (scope : AccessScope) (operationId : UUID) (requestId : String)
    (now : Time) : Spares (moveOnce scope operationId requestId now) := by
  refine Spares.bind (Spares.fetch _ _) fun row => ?_
  refine Spares.bind (operationFromRow_spares row) fun operation => ?_
  refine Spares.bind (Spares.require _ _) fun _ => ?_
  refine Spares.bind (Spares.read _) fun replay => ?_
  cases operation.supportCaseId with
  | some caseId =>
      refine Spares.ite (linkedReviewCase_spares _ _) ?_
      exact Spares.bind (Spares.require _ _) fun _ => moveToReview_spares _ _ _ _ _
  | none => exact Spares.bind (Spares.require _ _) fun _ => moveToReview_spares _ _ _ _ _

/-!
## Calls that insert no operation
-/

structure Sparing {α : Type} (p : Call α) : Prop where
  all : Program.Within (fun {_ : Type} tx => Spares tx) p (fun _ => True)

namespace Sparing

variable {α β : Type}

theorem pure (a : α) : Sparing (Pure.pure a : Call α) :=
  ⟨Program.Within.pure trivial⟩

theorem raise (e : Failure) : Sparing (Program.raise e : Call α) :=
  ⟨Program.Within.raise e⟩

theorem done (r : Except Failure α) : Sparing (Program.done r : Call α) :=
  ⟨fun _ _ => trivial⟩

theorem perform {tx : Tx α} (h : Spares tx) : Sparing (Program.perform tx) :=
  ⟨Program.Within.perform h⟩

theorem require (c : Prop) [Decidable c] (e : Failure) :
    Sparing (Program.require c e : Call Unit) :=
  ⟨Program.Within.require.mono fun _ _ => trivial⟩

theorem bind {p : Call α} {f : α -> Call β} (h : Sparing p)
    (hf : forall a, Sparing (f a)) : Sparing (p >>= f) :=
  ⟨Program.Within.bind (fun a _ => (hf a).all) h.all⟩

theorem rescue {p : Call α} {handler : Failure -> Option (Call α)} (h : Sparing p)
    (hcatch : forall e q, handler e = some q -> Sparing q) :
    Sparing (p.rescue handler) :=
  ⟨Program.Within.rescue (fun e q hq => (hcatch e q hq).all) h.all⟩

theorem ite {c : Prop} [Decidable c] {p q : Call α} (hp : Sparing p)
    (hq : Sparing q) : Sparing (if c then p else q) :=
  ⟨Program.Within.ite (fun _ => hp.all) (fun _ => hq.all)⟩

end Sparing

theorem freshId_sparing : Sparing freshId :=
  Sparing.perform newId_spares

theorem getOperation_sparing (scope : AccessScope) (operationId : UUID) :
    Sparing (getOperation scope operationId) := by
  refine Sparing.bind (Sparing.perform (findOperation_spares _ _)) fun found => ?_
  cases found with
  | some operation => exact Sparing.pure operation
  | none => exact Sparing.raise _

theorem unchangedResult_sparing (scope : AccessScope) (operationId : UUID) :
    Sparing (unchangedResult scope operationId) :=
  Sparing.bind (getOperation_sparing _ _) fun _ => Sparing.pure _

theorem answered_sparing {scope : AccessScope} {key : String}
    {again : Call OperationServiceResult} (h : Sparing again) :
    Sparing (do
      let prior ← Program.perform (findEventByIdempotencyKey scope key)
      match prior with
      | some event => unchangedResult scope event.operationId
      | none => again) := by
  refine Sparing.bind (Sparing.perform (findEventByIdempotencyKey_spares _ _))
    fun prior => ?_
  cases prior with
  | some event => exact unchangedResult_sparing _ _
  | none => exact h

theorem updateOrRetry_sparing {scope : AccessScope} {key : String}
    {current : OrderOperation} {result : OperationServiceResult}
    {again : Call OperationServiceResult} (h : Sparing again) :
    Sparing (updateOrRetry scope key current result again) := by
  refine Sparing.rescue ?_ ?_
  · refine Sparing.bind (Sparing.perform ?_) fun _ => Sparing.pure _
    exact updateOperationWithEvents_spares _ _ _ _
  · intro e q hq
    by_cases he : updateConflict e = true
    · rw [if_pos he] at hq
      cases hq
      exact answered_sparing h
    · rw [if_neg he] at hq
      cases hq

theorem pendingAttempts_sparing (scope : AccessScope) (operationId : UUID)
    (a : PendingAction) (key : String) (clock : Nat -> Time) (n : Nat) :
    Sparing (pendingAttempts scope operationId a key clock n) := by
  induction n with
  | zero => exact Sparing.raise _
  | succ n ih =>
      refine Sparing.bind (getOperation_sparing _ _) fun current => ?_
      refine Sparing.ite (Sparing.ite (Sparing.pure _) (Sparing.raise _)) ?_
      refine Sparing.bind freshId_sparing fun statusId => ?_
      refine Sparing.bind freshId_sparing fun decisionId => ?_
      exact Sparing.bind (Sparing.done _) fun result => updateOrRetry_sparing ih

theorem changeFromPending_sparing (scope : AccessScope) (operationId : UUID)
    (requestId : String) (a : PendingAction) (clock : Nat -> Time) :
    Sparing (changeFromPending scope operationId requestId a clock) :=
  Sparing.bind (Sparing.done _) fun _ =>
    answered_sparing (pendingAttempts_sparing _ _ _ _ _ _)

theorem confirmOperation_sparing (scope : AccessScope) (operationId : UUID)
    (requestId : String) (clock : Nat -> Time) :
    Sparing (confirmOperation scope operationId requestId clock) := by
  refine Sparing.bind (getOperation_sparing _ _) fun operation => ?_
  exact Sparing.bind (Sparing.require _ _) fun _ => changeFromPending_sparing _ _ _ _ _

theorem queueConfirmedOperation_sparing (scope : AccessScope) (operationId : UUID)
    (requestId connectionId : String) (clock : Nat -> Time) :
    Sparing (queueConfirmedOperation scope operationId requestId connectionId clock) := by
  refine Sparing.bind (Sparing.done _) fun request => ?_
  cases CleanText.parse? (Text.strip connectionId) with
  | none => exact Sparing.raise _
  | some connection =>
      refine Sparing.bind (getOperation_sparing _ _) fun current => ?_
      refine Sparing.bind (Sparing.require _ _) fun _ => ?_
      refine Sparing.ite (Sparing.pure _) ?_
      refine Sparing.bind (Sparing.require _ _) fun _ => ?_
      refine Sparing.bind freshId_sparing fun statusId => ?_
      refine Sparing.bind freshId_sparing fun confirmationId => ?_
      refine Sparing.bind (Sparing.done _) fun result => ?_
      refine Sparing.bind freshId_sparing fun commandId => ?_
      refine Sparing.bind (Sparing.require _ _) fun _ => ?_
      refine Sparing.bind (Sparing.perform ?_) fun _ => Sparing.pure _
      exact queueOperationWithEventsAndCommand_spares _ _ _ _ _

theorem attachAttempts_sparing (scope : AccessScope) (operationId supportCaseId : UUID)
    (key : String) (clock : Nat -> Time) (n : Nat) :
    Sparing (attachAttempts scope operationId supportCaseId key clock n) := by
  induction n with
  | zero => exact Sparing.raise _
  | succ n ih =>
      refine Sparing.bind (getOperation_sparing _ _) fun current => ?_
      refine Sparing.bind (Sparing.require _ _) fun _ => ?_
      cases current.supportCaseId with
      | some attached => exact Sparing.ite (Sparing.pure _) (Sparing.raise _)
      | none => exact Sparing.bind freshId_sparing fun _ => updateOrRetry_sparing ih

theorem attachSupportCase_sparing (scope : AccessScope)
    (operationId supportCaseId : UUID) (requestId : String) (clock : Nat -> Time) :
    Sparing (attachSupportCase scope operationId supportCaseId requestId clock) :=
  Sparing.bind (Sparing.done _) fun _ =>
    answered_sparing (attachAttempts_sparing _ _ _ _ _ _)

theorem moveAttempts_sparing (scope : AccessScope) (operationId : UUID)
    (requestId : String) (clock : Nat -> Time) (n : Nat) :
    Sparing (moveAttempts scope operationId requestId clock n) := by
  induction n with
  | zero => exact Sparing.raise _
  | succ n ih =>
      refine Sparing.rescue (Sparing.perform (moveOnce_spares _ _ _ _)) ?_
      intro e q hq
      unfold moveFailure at hq
      split at hq
      · split at hq
        · cases hq
          exact ih
        · cases hq
          exact Sparing.raise _
      · cases hq
        exact Sparing.raise _
      · split at hq
        · cases hq
          exact Sparing.raise _
        · cases hq

theorem moveToProviderManualReview_sparing (scope : AccessScope) (operationId : UUID)
    (requestId : String) (clock : Nat -> Time) :
    Sparing (moveToProviderManualReview scope operationId requestId clock) :=
  Sparing.bind (Sparing.done _) fun _ => moveAttempts_sparing _ _ _ _ _

theorem createRefund_sparing (scope : AccessScope) (orderId : String) (now : Time) :
    Sparing (createRefund scope orderId now) := by
  unfold createRefund
  cases scope.customerId with
  | none => exact Sparing.raise _
  | some customerId =>
      refine Sparing.bind freshId_sparing fun refundId => ?_
      cases OrderId.parse? orderId with
      | none => exact Sparing.raise _
      | some order => exact Sparing.perform (createRefundRequest_spares _ _)

theorem createCase_sparing (scope : AccessScope) (customerId : CleanText)
    (trigger : CaseTrigger) (decision : HandoffDecision) (caseType : CaseType)
    (priority : CasePriority) (now : Time) :
    Sparing (createCase scope customerId trigger decision caseType priority now) := by
  refine Sparing.bind freshId_sparing fun caseId => ?_
  refine Sparing.bind (Sparing.require _ _) fun _ => ?_
  refine Sparing.bind freshId_sparing fun eventId => ?_
  exact Sparing.bind (Sparing.perform (createCaseWithEvent_spares _ _ _)) fun _ =>
    Sparing.pure _

theorem createDeliveryCaseWithCommand_sparing (scope : AccessScope)
    (customerId : CleanText) (trigger : CaseTrigger) (decision : HandoffDecision)
    (priority : CasePriority) (issueType : DeliveryIssueType) (connectionId : CleanText)
    (now : Time) : Sparing (createDeliveryCaseWithCommand scope customerId trigger
      decision priority issueType connectionId now) := by
  refine Sparing.bind (Sparing.require _ _) fun _ => ?_
  refine Sparing.bind freshId_sparing fun caseId => ?_
  refine Sparing.bind (Sparing.require _ _) fun _ => ?_
  refine Sparing.bind freshId_sparing fun eventId => ?_
  refine Sparing.bind freshId_sparing fun commandId => ?_
  refine Sparing.bind (Sparing.done _) fun command => ?_
  exact Sparing.bind (Sparing.perform (createCaseWithEventAndCommand_spares _ _ _ _))
    fun _ => Sparing.pure _

theorem appendTrigger_sparing (scope : AccessScope) (existing : SupportCase)
    (trigger : CaseTrigger) (decision : HandoffDecision) (priority : CasePriority)
    (metadata : Option CommandMetadata) (now : Time) :
    Sparing (appendTrigger scope existing trigger decision priority metadata now) := by
  refine Sparing.bind (Sparing.require _ _) fun _ => ?_
  refine Sparing.bind freshId_sparing fun eventId => ?_
  split
  · refine Sparing.bind freshId_sparing fun commandId => ?_
    refine Sparing.bind (Sparing.done _) fun command => ?_
    refine Sparing.bind (Sparing.perform ?_) fun _ => Sparing.pure _
    exact appendDeliveryTriggerAndEnsureCommand_spares _ _ _ _ _
  · exact Sparing.bind (Sparing.perform (updateCaseWithEvent_spares _ _ _ _)) fun _ =>
      Sparing.pure _

theorem handoffAttempts_sparing {scope : AccessScope} {trigger : CaseTrigger}
    {caseType : CaseType} {create : Time -> Call CaseServiceResult}
    {append : SupportCase -> Time -> Call CaseServiceResult} {failure : String}
    {clock : Nat -> Time} (hcreate : forall now, Sparing (create now))
    (happend : forall c now, Sparing (append c now)) (n : Nat) :
    Sparing (handoffAttempts scope trigger caseType create append failure clock n) := by
  induction n with
  | zero => exact Sparing.raise _
  | succ n ih =>
      refine Sparing.bind (Sparing.perform (findCaseBySourceMessage_spares _ _ _))
        fun duplicate => ?_
      cases duplicate with
      | some c => exact Sparing.pure _
      | none =>
          refine Sparing.bind (Sparing.perform (findUnresolvedCase_spares _ _ _ _))
            fun existing => ?_
          refine Sparing.rescue ?_ ?_
          · cases existing with
            | none => exact hcreate _
            | some c => exact happend c _
          · intro e q hq
            by_cases he : caseConflict e = true
            · rw [if_pos he] at hq
              cases hq
              exact ih
            · rw [if_neg he] at hq
              cases hq

theorem recordHandoff_sparing (scope : AccessScope) (trigger : CaseTrigger)
    (decision : HandoffDecision) (clock : Nat -> Time) :
    Sparing (recordHandoff scope trigger decision clock) := by
  unfold recordHandoff
  split
  · exact Sparing.raise _
  · refine Sparing.ite ?_ (Sparing.pure _)
    exact handoffAttempts_sparing (fun _ => createCase_sparing _ _ _ _ _ _ _)
      (fun _ _ => appendTrigger_sparing _ _ _ _ _ _ _) _
  · exact Sparing.ite (Sparing.raise _) (Sparing.pure _)

theorem recordDeliveryInvestigation_sparing (scope : AccessScope) (trigger : CaseTrigger)
    (decision : HandoffDecision) (issueType : DeliveryIssueType) (connectionId : String)
    (clock : Nat -> Time) : Sparing (recordDeliveryInvestigation scope trigger decision
      issueType connectionId clock) := by
  unfold recordDeliveryInvestigation
  split
  · exact Sparing.raise _
  · exact Sparing.raise _
  · refine Sparing.bind (Sparing.require _ _) fun _ => ?_
    cases CleanText.parse? (Text.strip connectionId) with
    | none => exact Sparing.raise _
    | some connection =>
        exact handoffAttempts_sparing
          (fun _ => createDeliveryCaseWithCommand_sparing _ _ _ _ _ _ _ _)
          (fun _ _ => appendTrigger_sparing _ _ _ _ _ _ _) _

end RefundAgent
