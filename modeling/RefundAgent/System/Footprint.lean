import RefundAgent.System.Reach

/-!
# Footprints

What a call may change, whatever its transactions return and whatever the others do
in between.  The events that record a customer's confirmation are a part of their own:
an operation is confirmed, queued or handed to a reviewer only together with one of them.
-/

namespace RefundAgent

open Foundation

inductive Part where
  | operations
  | confirmations
  | cases
  | outbox
  | commands
  | inbox
  | refunds
deriving DecidableEq, Repr

def OrderOperationEvent.isConfirmation (e : OrderOperationEvent) : Bool :=
  decide (e.eventType = OperationEventType.confirmationRecorded)

def Database.confirmations (db : Database) : List OrderOperationEvent :=
  db.operations.events.rows.filter OrderOperationEvent.isConfirmation

/-- The provider commands that have been queued. -/
def Database.commands (db : Database) : List UUID :=
  db.outbox.messages.rows.map fun m => m.commandId

/-- The part has not changed. -/
def Part.Same (db db' : Database) : Part -> Prop
  | Part.operations => db'.operations = db.operations
  | Part.confirmations => db'.confirmations = db.confirmations
  | Part.cases => db'.cases = db.cases
  | Part.outbox => db'.outbox = db.outbox
  | Part.commands => db'.commands = db.commands
  | Part.inbox => db'.inbox = db.inbox
  | Part.refunds => db'.refunds = db.refunds

/-- Only the listed parts have changed. -/
def Respects (F : List Part) (db db' : Database) : Prop :=
  forall part, part ∉ F -> part.Same db db'

namespace Respects

variable {F : List Part} {db : Database}

theorem refl (db : Database) : Respects F db db := by
  intro part _
  cases part <;> rfl

theorem trans (a b c : Database) (h : Respects F a b) (h' : Respects F b c) :
    Respects F a c := by
  intro part hpart
  have hfirst := h part hpart
  have hsecond := h' part hpart
  cases part <;> exact Eq.trans hsecond hfirst

theorem cases (h : Part.cases ∈ F) (t : CaseTables) :
    Respects F db { db with cases := t } := by
  intro part hpart
  cases part with
  | cases => exact absurd h hpart
  | _ => rfl

theorem outbox (h : Part.outbox ∈ F) {t : OutboxTables}
    (ht : Part.commands ∉ F ->
      t.messages.rows.map (fun m => m.commandId) = db.commands) :
    Respects F db { db with outbox := t } := by
  intro part hpart
  cases part with
  | outbox => exact absurd h hpart
  | commands => exact ht hpart
  | _ => rfl

theorem refunds (h : Part.refunds ∈ F) (t : RefundTable) :
    Respects F db { db with refunds := t } := by
  intro part hpart
  cases part with
  | refunds => exact absurd h hpart
  | _ => rfl

theorem operations (h : Part.operations ∈ F)
    (t : Table OrderOperation UUID OrderOperation.operationId) :
    Respects F db { db with operations := { db.operations with rows := t } } := by
  intro part hpart
  cases part with
  | operations => exact absurd h hpart
  | _ => rfl

theorem operationEvent (h : Part.operations ∈ F) {e : OrderOperationEvent}
    (he : e.isConfirmation = true -> Part.confirmations ∈ F)
    {t : Table OrderOperationEvent UUID OrderOperationEvent.eventId}
    (ht : t.rows = db.operations.events.rows ++ [e]) :
    Respects F db { db with operations := { db.operations with events := t } } := by
  intro part hpart
  cases part with
  | operations => exact absurd h hpart
  | confirmations =>
      show t.rows.filter _ = db.operations.events.rows.filter _
      by_cases hconfirms : e.isConfirmation = true
      · exact absurd (he hconfirms) hpart
      · rw [ht, List.filter_append, List.filter_cons_of_neg hconfirms, List.filter_nil,
          List.append_nil]
  | _ => rfl

end Respects

/-- A transaction that changes only the listed parts. -/
def Confines (F : List Part) {α : Type} (tx : Tx α) : Prop :=
  Transaction.Keeps (Respects F) tx

namespace Confines

variable {F : List Part} {α β : Type}

theorem pure (a : α) : Confines F (Pure.pure a : Tx α) :=
  Transaction.Keeps.pure Respects.refl a

theorem raise (e : Failure) : Confines F (Transaction.raise e : Tx α) :=
  Transaction.Keeps.raise e

theorem require (c : Prop) [Decidable c] (e : Failure) :
    Confines F (Transaction.require c e) :=
  Transaction.Keeps.require Respects.refl c e

theorem read (f : Database -> α) : Confines F (Transaction.read f : Tx α) :=
  Transaction.Keeps.read Respects.refl f

theorem fetch (f : Database -> Option α) (e : Failure) :
    Confines F (Transaction.fetch f e : Tx α) :=
  Transaction.Keeps.fetch Respects.refl f e

theorem bind {tx : Tx α} {f : α -> Tx β} (h : Confines F tx)
    (hf : forall a, Confines F (f a)) : Confines F (tx >>= f) :=
  Transaction.Keeps.bind Respects.trans h hf

theorem translate {g : Failure -> Failure} {tx : Tx α} (h : Confines F tx) :
    Confines F (Transaction.translate g tx) :=
  Transaction.Keeps.translate g h

theorem ite {c : Prop} [Decidable c] {tx ty : Tx α} (hx : Confines F tx)
    (hy : Confines F ty) : Confines F (if c then tx else ty) :=
  Transaction.Keeps.ite hx hy

theorem insertRow {ρ : Type} {key : ρ -> UUID} {table : Database -> Table ρ UUID key}
    {store : Database -> Table ρ UUID key -> Database} {row : ρ}
    (h : forall db t, (table db).insert? row = some t -> Respects F db (store db t)) :
    Confines F (RefundAgent.insertRow table store row) := by
  intro db a db' hrow
  rcases insertRow_eq_ok.mp hrow with ⟨t, hinsert, hstore⟩
  have hdb : store db t = db' := hstore
  rw [← hdb]
  exact h db t hinsert

end Confines

/-!
## Statements
-/

section Statements

variable {F : List Part}

theorem newId_confines : Confines F newId := by
  intro db id db' h part _
  rw [← (newId_eq_ok.mp h).right]
  cases part <;> rfl

theorem insertOperation_confines (h : Part.operations ∈ F) (o : OrderOperation) :
    Confines F (insertOperation o) := by
  refine Confines.bind (Confines.require _ _) fun _ => ?_
  refine Confines.bind (Confines.read _) fun db => ?_
  refine Confines.bind (Confines.require _ _) fun _ => ?_
  refine Confines.bind (Confines.require _ _) fun _ => ?_
  refine Confines.bind (Confines.require _ _) fun _ => ?_
  exact Confines.insertRow fun _ t _ => Respects.operations h t

theorem updateOperation_confines (h : Part.operations ∈ F) (operationId : UUID)
    (p : OrderOperation -> Bool) (f : OrderOperation -> OrderOperation) :
    Confines F (updateOperation operationId p f) := by
  intro db n db' hupdate
  cases hget : db.operations.rows.get operationId with
  | none =>
      simp only [updateOperation, hget] at hupdate
      cases hupdate
      exact Respects.refl db
  | some r =>
      simp only [updateOperation, hget] at hupdate
      by_cases hp : p r = true
      · rw [if_pos hp] at hupdate
        by_cases hc : (f r).checks = false
        · rw [if_pos hc] at hupdate
          cases hupdate
        · rw [if_neg hc] at hupdate
          by_cases ha : activeOrderTaken db (f r) = true
          · rw [if_pos ha] at hupdate
            cases hupdate
          · rw [if_neg ha] at hupdate
            cases hupdate
            exact Respects.operations h _
      · rw [if_neg hp] at hupdate
        cases hupdate
        exact Respects.refl db

theorem insertOperationEvent_confines (h : Part.operations ∈ F)
    {e : OrderOperationEvent} (he : e.isConfirmation = true -> Part.confirmations ∈ F) :
    Confines F (insertOperationEvent e) := by
  refine Confines.bind (Confines.read _) fun db => ?_
  refine Confines.bind (Confines.require _ _) fun _ => ?_
  refine Confines.bind (Confines.require _ _) fun _ => ?_
  apply Confines.insertRow
  intro db t ht
  exact Respects.operationEvent h he (Table.insert?_eq_some.mp ht).right

/-- The events that are inserted need no permission beyond the one for operations. -/
def EventsPermitted (F : List Part) (es : List OrderOperationEvent) : Prop :=
  forall e, e ∈ es -> e.isConfirmation = true -> Part.confirmations ∈ F

theorem insertOperationEvents_confines (h : Part.operations ∈ F)
    {es : List OrderOperationEvent} (hes : EventsPermitted F es) :
    Confines F (insertOperationEvents es) := by
  induction es with
  | nil => exact Confines.pure ()
  | cons e rest ih =>
      apply Confines.bind (insertOperationEvent_confines h (hes e List.mem_cons_self))
      intro _
      exact ih fun e' he' => hes e' (List.mem_cons_of_mem e he')

theorem insertCase_confines (h : Part.cases ∈ F) (c : SupportCase) :
    Confines F (insertCase c) := by
  refine Confines.bind (Confines.read _) fun refused => ?_
  cases refused with
  | some e => exact Confines.raise e
  | none => exact Confines.insertRow fun _ _ _ => Respects.cases h _

theorem insertCaseEvent_confines (h : Part.cases ∈ F) (e : SupportCaseEvent) :
    Confines F (insertCaseEvent e) := by
  refine Confines.bind (Confines.read _) fun db => ?_
  refine Confines.bind (Confines.require _ _) fun _ => ?_
  exact Confines.insertRow fun _ _ _ => Respects.cases h _

theorem updateCase_confines (h : Part.cases ∈ F) (caseId : UUID)
    (p : SupportCase -> Bool) (f : SupportCase -> SupportCase) :
    Confines F (updateCase caseId p f) := by
  intro db n db' hupdate
  cases hget : db.cases.rows.get caseId with
  | none =>
      simp only [updateCase, hget] at hupdate
      cases hupdate
      exact Respects.refl db
  | some r =>
      simp only [updateCase, hget] at hupdate
      by_cases hp : p r = true
      · rw [if_pos hp] at hupdate
        cases hrefused : refuseCase db (f r) with
        | some e =>
            simp only [hrefused] at hupdate
            cases hupdate
        | none =>
            simp only [hrefused] at hupdate
            cases hupdate
            exact Respects.cases h _
      · rw [if_neg hp] at hupdate
        cases hupdate
        exact Respects.refl db

theorem insertOutboxMessage_confines (h : Part.outbox ∈ F ∧ Part.commands ∈ F)
    (command : ProviderCommandEnvelope) (now : Time) :
    Confines F (insertOutboxMessage command now) := by
  refine Confines.bind (Confines.read _) fun db => ?_
  refine Confines.bind (Confines.require _ _) fun _ => ?_
  exact Confines.insertRow fun _ _ _ =>
    Respects.outbox h.left fun hcommands => absurd h.right hcommands

theorem insertRefundOnce_confines (h : Part.refunds ∈ F) (r : RefundRequest) :
    Confines F (insertRefundOnce r) := by
  refine Confines.bind (Confines.read _) fun db => ?_
  refine Confines.ite ?_ (Confines.pure false)
  apply Confines.bind (Confines.insertRow fun _ t _ => Respects.refunds h t)
  exact fun _ => Confines.pure true

end Statements

/-!
## Repositories
-/

section Repositories

variable {F : List Part}

theorem operationFromRow_confines (row : OrderOperation) :
    Confines F (operationFromRow row) := by
  unfold operationFromRow
  cases row.ofRow? with
  | some o => exact Confines.pure o
  | none => exact Confines.raise _

theorem caseFromRow_confines (row : SupportCase) : Confines F (caseFromRow row) :=
  Confines.bind (Confines.require _ _) fun _ => Confines.pure row

theorem fetchOperation_confines (query : Database -> Option OrderOperation) :
    Confines F (fetchOperation query) := by
  refine Confines.bind (Confines.read _) fun found => ?_
  cases found with
  | none => exact Confines.pure none
  | some row => exact Confines.bind (operationFromRow_confines row) fun o => Confines.pure _

theorem findOperation_confines (scope : AccessScope) (operationId : UUID) :
    Confines F (findOperation scope operationId) :=
  Confines.bind (Confines.fetch _ _) fun _ => fetchOperation_confines _

theorem findBySourceMessage_confines (scope : AccessScope)
    (threadId sourceMessageId : CleanText) :
    Confines F (findBySourceMessage scope threadId sourceMessageId) :=
  Confines.bind (Confines.fetch _ _) fun _ => fetchOperation_confines _

theorem findActiveByOrderId_confines (scope : AccessScope) (orderId : OrderId) :
    Confines F (findActiveByOrderId scope orderId) :=
  Confines.bind (Confines.fetch _ _) fun _ => fetchOperation_confines _

theorem findEventByIdempotencyKey_confines (scope : AccessScope) (key : String) :
    Confines F (findEventByIdempotencyKey scope key) :=
  Confines.bind (Confines.fetch _ _) fun _ => Confines.read _

theorem validateOwnership_confines (scope : AccessScope) (operation : OrderOperation)
    (events : List OrderOperationEvent) :
    Confines F (validateOwnership scope operation events) := by
  refine Confines.bind (Confines.require _ _) fun _ => ?_
  refine Confines.bind (Confines.require _ _) fun _ => ?_
  exact Confines.bind (Confines.require _ _) fun _ => Confines.require _ _

theorem createOperationWithEvents_confines (h : Part.operations ∈ F)
    (scope : AccessScope) (operation : OrderOperation)
    {events : List OrderOperationEvent} (hevents : EventsPermitted F events) :
    Confines F (createOperationWithEvents scope operation events) := by
  apply Confines.translate
  refine Confines.bind (validateOwnership_confines _ _ _) fun _ => ?_
  refine Confines.bind (insertOperation_confines h _) fun _ => ?_
  exact insertOperationEvents_confines h hevents

theorem writeOperation_confines (h : Part.operations ∈ F) (scope : AccessScope)
    (operation : OrderOperation) {events : List OrderOperationEvent}
    (hevents : EventsPermitted F events) (expectedVersion : Nat) :
    Confines F (writeOperation scope operation events expectedVersion) := by
  refine Confines.bind (Confines.fetch _ _) fun customerId => ?_
  refine Confines.bind (updateOperation_confines h _ _ _) fun affected => ?_
  apply Confines.bind (Confines.require _ _)
  exact fun _ => insertOperationEvents_confines h hevents

theorem updateOperationWithEvents_confines (h : Part.operations ∈ F)
    (scope : AccessScope) (operation : OrderOperation)
    {events : List OrderOperationEvent} (hevents : EventsPermitted F events)
    (expectedVersion : Nat) :
    Confines F (updateOperationWithEvents scope operation events expectedVersion) := by
  apply Confines.translate
  apply Confines.bind (validateOwnership_confines _ _ _)
  exact fun _ => writeOperation_confines h _ _ hevents _

theorem queueOperationWithEventsAndCommand_confines (h : Part.operations ∈ F)
    (hconfirms : Part.confirmations ∈ F) (houtbox : Part.outbox ∈ F ∧ Part.commands ∈ F)
    (scope : AccessScope) (operation : OrderOperation)
    (events : List OrderOperationEvent) (command : ProviderCommandEnvelope)
    (expectedVersion : Nat) :
    Confines F (queueOperationWithEventsAndCommand scope operation events command
      expectedVersion) := by
  apply Confines.translate
  cases operationCommandMismatch operation events command expectedVersion with
  | some message => exact Confines.raise _
  | none =>
      refine Confines.bind (validateOwnership_confines _ _ _) fun _ => ?_
      refine Confines.bind (writeOperation_confines h _ _ ?_ _) fun _ => ?_
      · exact fun _ _ _ => hconfirms
      · exact insertOutboxMessage_confines houtbox _ _

theorem visibleCases_confines (scope : AccessScope) : Confines F (visibleCases scope) := by
  unfold visibleCases
  cases caseVisibility scope with
  | ok p => exact Confines.pure p
  | error e => exact Confines.raise e

theorem fetchCase_confines (query : Database -> Option SupportCase) :
    Confines F (fetchCase query) := by
  refine Confines.bind (Confines.read _) fun found => ?_
  cases found with
  | none => exact Confines.pure none
  | some row => exact Confines.bind (caseFromRow_confines row) fun c => Confines.pure _

theorem findCaseBySourceMessage_confines (scope : AccessScope)
    (threadId sourceMessageId : CleanText) :
    Confines F (findCaseBySourceMessage scope threadId sourceMessageId) :=
  Confines.bind (visibleCases_confines scope) fun _ => fetchCase_confines _

theorem findUnresolvedCase_confines (scope : AccessScope) (threadId : CleanText)
    (caseType : CaseType) (orderId : Option TrimmedText) :
    Confines F (findUnresolvedCase scope threadId caseType orderId) := by
  refine Confines.bind (visibleCases_confines scope) fun visible => ?_
  refine Confines.ite ?_ (fetchCase_confines _)
  exact Confines.bind (Confines.require _ _) fun _ => fetchCase_confines _

theorem listThreadCases_confines (scope : AccessScope) (threadId : CleanText) :
    Confines F (listThreadCases scope threadId) := by
  refine Confines.bind (visibleCases_confines scope) fun visible => ?_
  refine Confines.bind (Confines.read _) fun page => ?_
  exact Transaction.Keeps.forEach Respects.refl Respects.trans caseFromRow_confines page

theorem validateCaseOwnership_confines (scope : AccessScope) (c : SupportCase)
    (event : SupportCaseEvent) : Confines F (validateCaseOwnership scope c event) := by
  refine Confines.bind (Confines.require _ _) fun _ => ?_
  exact Confines.bind (Confines.require _ _) fun _ => Confines.require _ _

theorem createCaseWithEvent_confines (h : Part.cases ∈ F) (scope : AccessScope)
    (c : SupportCase) (event : SupportCaseEvent) :
    Confines F (createCaseWithEvent scope c event) := by
  apply Confines.translate
  refine Confines.bind (validateCaseOwnership_confines _ _ _) fun _ => ?_
  exact Confines.bind (insertCase_confines h c) fun _ => insertCaseEvent_confines h event

theorem writeCase_confines (h : Part.cases ∈ F) (scope : AccessScope) (c : SupportCase)
    (event : SupportCaseEvent) (expectedVersion : Nat) :
    Confines F (writeCase scope c event expectedVersion) := by
  refine Confines.bind (visibleCases_confines scope) fun visible => ?_
  refine Confines.bind (updateCase_confines h _ _ _) fun affected => ?_
  exact Confines.bind (Confines.require _ _) fun _ => insertCaseEvent_confines h event

theorem updateCaseWithEvent_confines (h : Part.cases ∈ F) (scope : AccessScope)
    (c : SupportCase) (event : SupportCaseEvent) (expectedVersion : Nat) :
    Confines F (updateCaseWithEvent scope c event expectedVersion) := by
  apply Confines.translate
  refine Confines.bind (Confines.require _ _) fun _ => ?_
  refine Confines.bind (validateCaseOwnership_confines _ _ _) fun _ => ?_
  exact writeCase_confines h _ _ _ _

theorem createCaseWithEventAndCommand_confines (h : Part.cases ∈ F)
    (houtbox : Part.outbox ∈ F ∧ Part.commands ∈ F) (scope : AccessScope) (c : SupportCase)
    (event : SupportCaseEvent) (command : ProviderCommandEnvelope) :
    Confines F (createCaseWithEventAndCommand scope c event command) := by
  apply Confines.translate
  cases caseCommandMismatch c event command with
  | some message => exact Confines.raise _
  | none =>
      refine Confines.bind (validateCaseOwnership_confines _ _ _) fun _ => ?_
      refine Confines.bind (insertCase_confines h c) fun _ => ?_
      refine Confines.bind (insertCaseEvent_confines h event) fun _ => ?_
      exact insertOutboxMessage_confines houtbox _ _

theorem appendDeliveryTriggerAndEnsureCommand_confines (h : Part.cases ∈ F)
    (houtbox : Part.outbox ∈ F ∧ Part.commands ∈ F) (scope : AccessScope) (c : SupportCase)
    (event : SupportCaseEvent) (command : ProviderCommandEnvelope)
    (expectedVersion : Nat) :
    Confines F (appendDeliveryTriggerAndEnsureCommand scope c event command
      expectedVersion) := by
  apply Confines.translate
  refine Confines.bind (Confines.require _ _) fun _ => ?_
  cases caseCommandMismatch c event command with
  | some message => exact Confines.raise _
  | none =>
      refine Confines.bind (validateCaseOwnership_confines _ _ _) fun _ => ?_
      refine Confines.bind (writeCase_confines h _ _ _ _) fun _ => ?_
      refine Confines.bind (Confines.read _) fun hasCommand => ?_
      refine Confines.ite (Confines.pure false) ?_
      apply Confines.bind (insertOutboxMessage_confines houtbox _ _)
      exact fun _ => Confines.pure true

theorem createRefundRequest_confines (h : Part.refunds ∈ F) (scope : AccessScope)
    (refund : RefundRequest) : Confines F (createRefundRequest scope refund) := by
  apply Confines.translate
  refine Confines.bind (Confines.fetch _ _) fun _ => ?_
  exact Confines.bind (Confines.require _ _) fun _ => insertRefundOnce_confines h refund

end Repositories

/-!
## Calls
-/

/-- A call all of whose transactions change only the listed parts. -/
structure Confined (F : List Part) {α : Type} (p : Call α) (Q : α -> Prop) : Prop where
  all : Program.Within (fun {_ : Type} tx => Confines F tx) p Q

/-- Nothing is said of the value that a call returns. -/
abbrev Anything {α : Type} : α -> Prop := fun _ => True

namespace Confined

variable {F : List Part} {α β : Type} {Q Q' : α -> Prop} {R : β -> Prop}

theorem pure {a : α} (h : Q a) : Confined F (Pure.pure a : Call α) Q :=
  ⟨Program.Within.pure h⟩

theorem raise (e : Failure) : Confined F (Program.raise e : Call α) Q :=
  ⟨Program.Within.raise e⟩

theorem done (r : Except Failure α) :
    Confined F (Program.done r : Call α) fun a => r = Except.ok a :=
  ⟨fun _ ha => ha⟩

theorem perform {tx : Tx α} (h : Confines F tx) :
    Confined F (Program.perform tx) Anything :=
  ⟨Program.Within.perform h⟩

theorem require (c : Prop) [Decidable c] (e : Failure) :
    Confined F (Program.require c e : Call Unit) fun _ => c :=
  ⟨Program.Within.require⟩

theorem bind {p : Call α} {f : α -> Call β} (h : Confined F p Q)
    (hf : forall a, Q a -> Confined F (f a) R) : Confined F (p >>= f) R :=
  ⟨Program.Within.bind (fun a ha => (hf a ha).all) h.all⟩

theorem rescue {p : Call α} {handler : Failure -> Option (Call α)}
    (h : Confined F p Q)
    (hcatch : forall e q, handler e = some q -> Confined F q Q) :
    Confined F (p.rescue handler) Q :=
  ⟨Program.Within.rescue (fun e q hq => (hcatch e q hq).all) h.all⟩

theorem ite {c : Prop} [Decidable c] {p q : Call α} (hp : Confined F p Q)
    (hq : Confined F q Q) : Confined F (if c then p else q) Q :=
  ⟨Program.Within.ite (fun _ => hp.all) (fun _ => hq.all)⟩

theorem mono {p : Call α} (h : Confined F p Q) (hQ : forall a, Q a -> Q' a) :
    Confined F p Q' :=
  ⟨h.all.mono hQ⟩

theorem anything {p : Call α} (h : Confined F p Q) : Confined F p Anything :=
  h.mono fun _ _ => trivial

end Confined

/-!
## Operation services
-/

section OperationCalls

variable {F : List Part}

theorem freshId_confined : Confined F freshId Anything :=
  Confined.perform newId_confines

theorem getOperation_confined (scope : AccessScope) (operationId : UUID) :
    Confined F (getOperation scope operationId) Anything := by
  apply Confined.bind (Confined.perform (findOperation_confines _ _))
  intro found _
  cases found with
  | some operation => exact Confined.pure trivial
  | none => exact Confined.raise _

theorem unchangedResult_confined (scope : AccessScope) (operationId : UUID) :
    Confined F (unchangedResult scope operationId) Anything :=
  Confined.bind (getOperation_confined _ _) fun _ _ => Confined.pure trivial

theorem answered_confined {scope : AccessScope} {key : String}
    {again : Call OperationServiceResult} (h : Confined F again Anything) :
    Confined F (do
      let prior ← Program.perform (findEventByIdempotencyKey scope key)
      match prior with
      | some event => unchangedResult scope event.operationId
      | none => again) Anything := by
  apply Confined.bind (Confined.perform (findEventByIdempotencyKey_confines _ _))
  intro prior _
  cases prior with
  | some event => exact unchangedResult_confined _ _
  | none => exact h

theorem updateOrRetry_confined (hoperations : Part.operations ∈ F)
    {scope : AccessScope} {key : String} {current : OrderOperation}
    {result : OperationServiceResult} (hevents : EventsPermitted F result.events)
    {again : Call OperationServiceResult} (h : Confined F again Anything) :
    Confined F (updateOrRetry scope key current result again) Anything := by
  apply Confined.rescue
  · apply Confined.bind (Confined.perform
      (updateOperationWithEvents_confines hoperations _ _ hevents _))
    exact fun _ _ => Confined.pure trivial
  · intro e q hq
    by_cases he : updateConflict e = true
    · rw [if_pos he] at hq
      cases hq
      exact answered_confined h
    · rw [if_neg he] at hq
      cases hq

theorem findExistingOperation_confined (scope : AccessScope)
    (request : OrderOperationRequest) :
    Confined F (findExistingOperation scope request) Anything := by
  apply Confined.bind (Confined.perform (findBySourceMessage_confines _ _ _))
  intro duplicate _
  cases duplicate with
  | some operation => exact Confined.pure trivial
  | none => exact Confined.perform (findActiveByOrderId_confines _ _)

theorem createAttempts_confined (hoperations : Part.operations ∈ F)
    (scope : AccessScope) (customerId : CleanText) (request : OrderOperationRequest)
    (snapshot : OrderSnapshot) (decision : OperationDecision) (excerpt : CleanText)
    (clock : Nat -> Time) (n : Nat) :
    Confined F (createAttempts scope customerId request snapshot decision excerpt clock n)
      Anything := by
  induction n with
  | zero =>
      apply Confined.bind (findExistingOperation_confined _ _)
      intro existing _
      cases existing with
      | some operation => exact Confined.pure trivial
      | none => exact Confined.raise _
  | succ n ih =>
      apply Confined.bind (findExistingOperation_confined _ _)
      intro existing _
      cases existing with
      | some operation => exact Confined.pure trivial
      | none =>
          apply Confined.rescue
          · refine Confined.bind freshId_confined fun operationId _ => ?_
            refine Confined.bind (Confined.require _ _) fun _ _ => ?_
            refine Confined.bind freshId_confined fun eventId _ => ?_
            refine Confined.bind (Confined.perform
              (createOperationWithEvents_confines hoperations _ _ ?_)) fun _ _ => ?_
            · intro e he hconfirms
              rw [List.mem_singleton.mp he] at hconfirms
              cases hconfirms
            · exact Confined.pure trivial
          · intro e q hq
            by_cases he : creationConflict e = true
            · rw [if_pos he] at hq
              cases hq
              exact ih
            · rw [if_neg he] at hq
              cases hq

theorem createPendingOperation_confined (hoperations : Part.operations ∈ F)
    (scope : AccessScope) (request : OrderOperationRequest) (snapshot : OrderSnapshot)
    (decision : OperationDecision) (requestExcerpt : String) (clock : Nat -> Time) :
    Confined F (createPendingOperation scope request snapshot decision requestExcerpt
      clock) Anything := by
  unfold createPendingOperation
  cases scope.customerId with
  | none => exact Confined.raise _
  | some customerId =>
      refine Confined.bind (Confined.require _ _) fun _ _ => ?_
      refine Confined.bind (Confined.require _ _) fun _ _ => ?_
      refine Confined.bind (Confined.require _ _) fun _ _ => ?_
      refine Confined.bind (Confined.require _ _) fun _ _ => ?_
      refine Confined.bind (Confined.require _ _) fun _ _ => ?_
      cases CleanText.parse? (Text.strip requestExcerpt) with
      | none => exact Confined.raise _
      | some excerpt => exact createAttempts_confined hoperations _ _ _ _ _ _ _ _

theorem statusUpdateEvent_silent {current updated : OrderOperation} {eventId : UUID}
    {key actor : String} {e : OrderOperationEvent}
    (h : statusUpdateEvent current updated eventId key actor = Except.ok e) :
    e.isConfirmation = false := by
  unfold statusUpdateEvent at h
  cases hreference : eventReference updated.providerReference with
  | error f =>
      rw [hreference] at h
      cases h
  | ok reference =>
      rw [hreference] at h
      cases h
      rfl

theorem pendingDecision_permitted {a : PendingAction}
    (h : a = PendingAction.confirmed -> Part.confirmations ∈ F)
    {current : OrderOperation} {key actor : String} {statusId decisionId : UUID}
    {now : Time} {result : OperationServiceResult}
    (hresult : pendingDecision a current key actor statusId decisionId now =
      Except.ok result) : EventsPermitted F result.events := by
  cases a with
  | confirmed => exact fun _ _ _ => h rfl
  | cancelled =>
      intro e he hconfirms
      unfold pendingDecision at hresult
      dsimp only at hresult
      cases hstatus : statusUpdateEvent current
          (current.withStatus (PendingAction.cancelled.nextStatus current) none now)
          statusId key actor with
      | error f =>
          rw [hstatus] at hresult
          cases hresult
      | ok status =>
          rw [hstatus] at hresult
          cases hresult
          rw [List.mem_singleton.mp he, statusUpdateEvent_silent hstatus] at hconfirms
          cases hconfirms

theorem pendingAttempts_confined (hoperations : Part.operations ∈ F) {a : PendingAction}
    (ha : a = PendingAction.confirmed -> Part.confirmations ∈ F) (scope : AccessScope)
    (operationId : UUID) (key : String) (clock : Nat -> Time) (n : Nat) :
    Confined F (pendingAttempts scope operationId a key clock n) Anything := by
  induction n with
  | zero => exact Confined.raise _
  | succ n ih =>
      refine Confined.bind (getOperation_confined _ _) fun current _ => ?_
      apply Confined.ite (Confined.ite (Confined.pure trivial) (Confined.raise _))
      refine Confined.bind freshId_confined fun statusId _ => ?_
      refine Confined.bind freshId_confined fun decisionId _ => ?_
      refine Confined.bind (Confined.done _) fun result hresult => ?_
      exact updateOrRetry_confined hoperations (pendingDecision_permitted ha hresult) ih

theorem changeFromPending_confined (hoperations : Part.operations ∈ F)
    {a : PendingAction} (ha : a = PendingAction.confirmed -> Part.confirmations ∈ F)
    (scope : AccessScope) (operationId : UUID) (requestId : String)
    (clock : Nat -> Time) :
    Confined F (changeFromPending scope operationId requestId a clock) Anything :=
  Confined.bind (Confined.done _) fun _ _ =>
    answered_confined (pendingAttempts_confined hoperations ha _ _ _ _ _)

theorem confirmOperation_confined (hoperations : Part.operations ∈ F)
    (hconfirms : Part.confirmations ∈ F) (scope : AccessScope) (operationId : UUID)
    (requestId : String) (clock : Nat -> Time) :
    Confined F (confirmOperation scope operationId requestId clock) Anything := by
  refine Confined.bind (getOperation_confined _ _) fun operation _ => ?_
  refine Confined.bind (Confined.require _ _) fun _ _ => ?_
  exact changeFromPending_confined hoperations (fun _ => hconfirms) _ _ _ _

theorem cancelPendingOperation_confined (hoperations : Part.operations ∈ F)
    (scope : AccessScope) (operationId : UUID) (requestId : String)
    (clock : Nat -> Time) :
    Confined F (cancelPendingOperation scope operationId requestId clock) Anything :=
  changeFromPending_confined hoperations (fun h => (by cases h)) _ _ _ _

theorem queueConfirmedOperation_confined (hoperations : Part.operations ∈ F)
    (hconfirms : Part.confirmations ∈ F) (houtbox : Part.outbox ∈ F ∧ Part.commands ∈ F)
    (scope : AccessScope) (operationId : UUID) (requestId connectionId : String)
    (clock : Nat -> Time) :
    Confined F (queueConfirmedOperation scope operationId requestId connectionId clock)
      Anything := by
  refine Confined.bind (Confined.done _) fun request _ => ?_
  cases CleanText.parse? (Text.strip connectionId) with
  | none => exact Confined.raise _
  | some connection =>
      refine Confined.bind (getOperation_confined _ _) fun current _ => ?_
      refine Confined.bind (Confined.require _ _) fun _ _ => ?_
      apply Confined.ite (Confined.pure trivial)
      refine Confined.bind (Confined.require _ _) fun _ _ => ?_
      refine Confined.bind freshId_confined fun statusId _ => ?_
      refine Confined.bind freshId_confined fun confirmationId _ => ?_
      refine Confined.bind (Confined.done _) fun result _ => ?_
      refine Confined.bind freshId_confined fun commandId _ => ?_
      refine Confined.bind (Confined.require _ _) fun _ _ => ?_
      refine Confined.bind (Confined.perform ?_) fun _ _ => Confined.pure trivial
      exact queueOperationWithEventsAndCommand_confines hoperations hconfirms houtbox
        _ _ _ _ _

theorem attachAttempts_confined (hoperations : Part.operations ∈ F)
    (scope : AccessScope) (operationId supportCaseId : UUID) (key : String)
    (clock : Nat -> Time) (n : Nat) :
    Confined F (attachAttempts scope operationId supportCaseId key clock n) Anything := by
  induction n with
  | zero => exact Confined.raise _
  | succ n ih =>
      refine Confined.bind (getOperation_confined _ _) fun current _ => ?_
      refine Confined.bind (Confined.require _ _) fun _ _ => ?_
      cases current.supportCaseId with
      | some attached => exact Confined.ite (Confined.pure trivial) (Confined.raise _)
      | none =>
          refine Confined.bind freshId_confined fun eventId _ => ?_
          refine updateOrRetry_confined hoperations ?_ ih
          intro e he hconfirms
          rw [List.mem_singleton.mp he] at hconfirms
          cases hconfirms

theorem attachSupportCase_confined (hoperations : Part.operations ∈ F)
    (scope : AccessScope) (operationId supportCaseId : UUID) (requestId : String)
    (clock : Nat -> Time) :
    Confined F (attachSupportCase scope operationId supportCaseId requestId clock)
      Anything :=
  Confined.bind (Confined.done _) fun _ _ =>
    answered_confined (attachAttempts_confined hoperations _ _ _ _ _ _)

theorem createRefund_confined (hrefunds : Part.refunds ∈ F) (scope : AccessScope)
    (orderId : String) (now : Time) :
    Confined F (createRefund scope orderId now) Anything := by
  unfold createRefund
  cases scope.customerId with
  | none => exact Confined.raise _
  | some customerId =>
      refine Confined.bind freshId_confined fun refundId _ => ?_
      cases OrderId.parse? orderId with
      | none => exact Confined.raise _
      | some order => exact Confined.perform (createRefundRequest_confines hrefunds _ _)

end OperationCalls

/-!
## The provider fallback
-/

section Fallback

variable {F : List Part}

theorem linkedReviewCase_confines (operation : OrderOperation) (caseId : UUID) :
    Confines F (linkedReviewCase operation caseId) := by
  refine Confines.bind (Confines.fetch _ _) fun row => ?_
  refine Confines.bind (caseFromRow_confines row) fun c => ?_
  exact Confines.bind (Confines.require _ _) fun _ => Confines.pure _

theorem queueFailureCase_confines (hcases : Part.cases ∈ F) (operation : OrderOperation)
    (requestId : String) (now : Time) :
    Confines F (queueFailureCase operation requestId now) := by
  refine Confines.bind (Confines.read _) fun found => ?_
  cases found with
  | none =>
      refine Confines.bind newId_confines fun caseId => ?_
      refine Confines.bind newId_confines fun eventId => ?_
      refine Confines.bind (insertCase_confines hcases _) fun _ => ?_
      apply Confines.bind (insertCaseEvent_confines hcases _)
      exact fun _ => Confines.pure _
  | some row =>
      refine Confines.bind (caseFromRow_confines row) fun existing => ?_
      refine Confines.bind (updateCase_confines hcases _ _ _) fun affected => ?_
      refine Confines.bind (Confines.require _ _) fun _ => ?_
      refine Confines.bind newId_confines fun eventId => ?_
      apply Confines.bind (insertCaseEvent_confines hcases _)
      exact fun _ => Confines.pure _

theorem moveToReview_confines (hcases : Part.cases ∈ F)
    (hoperations : Part.operations ∈ F) (hconfirms : Part.confirmations ∈ F)
    (scope : AccessScope) (operation : OrderOperation) (requestId : String)
    (replay : Bool) (now : Time) :
    Confines F (moveToReview scope operation requestId replay now) := by
  refine Confines.bind (queueFailureCase_confines hcases _ _ _) fun found => ?_
  refine Confines.bind (updateOperation_confines hoperations _ _ _) fun affected => ?_
  refine Confines.bind (Confines.require _ _) fun _ => ?_
  cases replay with
  | true => exact Confines.pure _
  | false =>
      refine Confines.bind newId_confines fun first => ?_
      refine Confines.bind newId_confines fun second => ?_
      refine Confines.bind newId_confines fun third => ?_
      apply Confines.bind (insertOperationEvents_confines hoperations
        fun _ _ _ => hconfirms)
      exact fun _ => Confines.pure _

theorem moveOnce_confines (hcases : Part.cases ∈ F) (hoperations : Part.operations ∈ F)
    (hconfirms : Part.confirmations ∈ F) (scope : AccessScope) (operationId : UUID)
    (requestId : String) (now : Time) :
    Confines F (moveOnce scope operationId requestId now) := by
  have hmove := moveToReview_confines hcases hoperations hconfirms scope
  refine Confines.bind (Confines.fetch _ _) fun row => ?_
  refine Confines.bind (operationFromRow_confines row) fun operation => ?_
  refine Confines.bind (Confines.require _ _) fun _ => ?_
  refine Confines.bind (Confines.read _) fun replay => ?_
  cases operation.supportCaseId with
  | some caseId =>
      apply Confines.ite (linkedReviewCase_confines _ _)
      exact Confines.bind (Confines.require _ _) fun _ => hmove _ _ _ _
  | none => exact Confines.bind (Confines.require _ _) fun _ => hmove _ _ _ _

theorem moveToProviderManualReview_confined (hcases : Part.cases ∈ F)
    (hoperations : Part.operations ∈ F) (hconfirms : Part.confirmations ∈ F)
    (scope : AccessScope) (operationId : UUID) (requestId : String)
    (clock : Nat -> Time) :
    Confined F (moveToProviderManualReview scope operationId requestId clock)
      Anything := by
  refine Confined.bind (Confined.done _) fun request _ => ?_
  generalize 3 = n
  induction n with
  | zero => exact Confined.raise _
  | succ n ih =>
      apply Confined.rescue (Confined.perform
        (moveOnce_confines hcases hoperations hconfirms _ _ _ _))
      intro e q hq
      unfold moveFailure at hq
      split at hq
      · split at hq
        · cases hq
          exact ih
        · cases hq
          exact Confined.raise _
      · cases hq
        exact Confined.raise _
      · split at hq
        · cases hq
          exact Confined.raise _
        · cases hq

end Fallback

/-!
## Case services
-/

section CaseCalls

variable {F : List Part}

theorem createCase_confined (hcases : Part.cases ∈ F) (scope : AccessScope)
    (customerId : CleanText) (trigger : CaseTrigger) (decision : HandoffDecision)
    (caseType : CaseType) (priority : CasePriority) (now : Time) :
    Confined F (createCase scope customerId trigger decision caseType priority now)
      Anything := by
  refine Confined.bind freshId_confined fun caseId _ => ?_
  refine Confined.bind (Confined.require _ _) fun _ _ => ?_
  refine Confined.bind freshId_confined fun eventId _ => ?_
  apply Confined.bind (Confined.perform (createCaseWithEvent_confines hcases _ _ _))
  exact fun _ _ => Confined.pure trivial

theorem createDeliveryCaseWithCommand_confined (hcases : Part.cases ∈ F)
    (houtbox : Part.outbox ∈ F ∧ Part.commands ∈ F) (scope : AccessScope)
    (customerId : CleanText)
    (trigger : CaseTrigger) (decision : HandoffDecision) (priority : CasePriority)
    (issueType : DeliveryIssueType) (connectionId : CleanText) (now : Time) :
    Confined F (createDeliveryCaseWithCommand scope customerId trigger decision priority
      issueType connectionId now) Anything := by
  refine Confined.bind (Confined.require _ _) fun _ _ => ?_
  refine Confined.bind freshId_confined fun caseId _ => ?_
  refine Confined.bind (Confined.require _ _) fun _ _ => ?_
  refine Confined.bind freshId_confined fun eventId _ => ?_
  refine Confined.bind freshId_confined fun commandId _ => ?_
  refine Confined.bind (Confined.done _) fun command _ => ?_
  apply Confined.bind (Confined.perform
    (createCaseWithEventAndCommand_confines hcases houtbox _ _ _ _))
  exact fun _ _ => Confined.pure trivial

theorem appendTrigger_confined (hcases : Part.cases ∈ F)
    {metadata : Option CommandMetadata}
    (houtbox : metadata ≠ none -> Part.outbox ∈ F ∧ Part.commands ∈ F)
    (scope : AccessScope) (existing : SupportCase) (trigger : CaseTrigger)
    (decision : HandoffDecision) (priority : CasePriority) (now : Time) :
    Confined F (appendTrigger scope existing trigger decision priority metadata now)
      Anything := by
  refine Confined.bind (Confined.require _ _) fun _ _ => ?_
  refine Confined.bind freshId_confined fun eventId _ => ?_
  split
  · refine Confined.bind freshId_confined fun commandId _ => ?_
    refine Confined.bind (Confined.done _) fun command _ => ?_
    refine Confined.bind (Confined.perform ?_) fun _ _ => Confined.pure trivial
    exact appendDeliveryTriggerAndEnsureCommand_confines hcases
      (houtbox (Option.some_ne_none _)) _ _ _ _ _
  · apply Confined.bind (Confined.perform (updateCaseWithEvent_confines hcases _ _ _ _))
    exact fun _ _ => Confined.pure trivial

theorem handoffAttempts_confined {scope : AccessScope} {trigger : CaseTrigger}
    {caseType : CaseType} {create : Time -> Call CaseServiceResult}
    {append : SupportCase -> Time -> Call CaseServiceResult} {failure : String}
    {clock : Nat -> Time} (hcreate : forall now, Confined F (create now) Anything)
    (happend : forall c now, Confined F (append c now) Anything) (n : Nat) :
    Confined F (handoffAttempts scope trigger caseType create append failure clock n)
      Anything := by
  induction n with
  | zero => exact Confined.raise _
  | succ n ih =>
      apply Confined.bind (Confined.perform (findCaseBySourceMessage_confines _ _ _))
      intro duplicate _
      cases duplicate with
      | some c => exact Confined.pure trivial
      | none =>
          apply Confined.bind (Confined.perform (findUnresolvedCase_confines _ _ _ _))
          intro existing _
          apply Confined.rescue
          · cases existing with
            | none => exact hcreate _
            | some c => exact happend c _
          · intro e q hq
            by_cases he : caseConflict e = true
            · rw [if_pos he] at hq
              cases hq
              exact ih
            · rw [if_neg he] at hq
              cases hq

theorem recordHandoff_confined (hcases : Part.cases ∈ F) (scope : AccessScope)
    (trigger : CaseTrigger) (decision : HandoffDecision) (clock : Nat -> Time) :
    Confined F (recordHandoff scope trigger decision clock) Anything := by
  unfold recordHandoff
  split
  · exact Confined.raise _
  · refine Confined.ite ?_ (Confined.pure trivial)
    apply handoffAttempts_confined
    · exact fun _ => createCase_confined hcases _ _ _ _ _ _ _
    · exact fun _ _ => appendTrigger_confined hcases (fun h => absurd rfl h) _ _ _ _ _ _
  · exact Confined.ite (Confined.raise _) (Confined.pure trivial)

theorem recordDeliveryInvestigation_confined (hcases : Part.cases ∈ F)
    (houtbox : Part.outbox ∈ F ∧ Part.commands ∈ F) (scope : AccessScope)
    (trigger : CaseTrigger)
    (decision : HandoffDecision) (issueType : DeliveryIssueType) (connectionId : String)
    (clock : Nat -> Time) :
    Confined F (recordDeliveryInvestigation scope trigger decision issueType connectionId
      clock) Anything := by
  unfold recordDeliveryInvestigation
  split
  · exact Confined.raise _
  · exact Confined.raise _
  · refine Confined.bind (Confined.require _ _) fun _ _ => ?_
    cases CleanText.parse? (Text.strip connectionId) with
    | none => exact Confined.raise _
    | some connection =>
        apply handoffAttempts_confined
        · intro now
          exact createDeliveryCaseWithCommand_confined hcases houtbox _ _ _ _ _ _ _ _
        · exact fun _ _ => appendTrigger_confined hcases (fun _ => houtbox) _ _ _ _ _ _

end CaseCalls

end RefundAgent
