import RefundAgent.Foundation.Run
import RefundAgent.System.TurnCalls

/-!
# The running system

The database, the outbox messages that have been handed to a worker, and the
service calls that have begun.  A step is one transaction of a worker job, the
beginning of a service call, or one transaction of a call that has begun, in
any order and by any number of workers and callers.  A job that raises leaves
everything as it was.
-/

namespace RefundAgent

open Foundation

/-!
## Jobs
-/

/-- The transactions of the delivery worker and the callback worker. -/
inductive Job where
  | claimOutbox (workerId : String) (batchSize : Int) (leaseSeconds : Rat)
      (scan : List UUID) (clock : UUID -> Nat -> Time)
  | renewOutbox (commandId leaseId : UUID) (leaseOwner : String) (leaseSeconds : Rat)
      (clock : Nat -> Time)
  | recoverOutbox (batchSize : Nat) (scan : List UUID) (clock : UUID -> Nat -> Time)
  | retryOutbox (retry : OutboxRetry) (now : Time)
  | finalizeOutbox (claimed : ClaimedOutboxMessage) (verdict : Verdict) (now : Time)
  | receiveInbox (incoming : InboxMessage)
  | claimInbox (workerId : String) (batchSize : Int) (leaseSeconds : Rat)
      (scan : List UUID) (clock : UUID -> Nat -> Time)
  | renewInbox (inboxId leaseId : UUID) (leaseOwner : String) (leaseSeconds : Rat)
      (clock : Nat -> Time)
  | recoverInbox (batchSize : Nat) (scan : List UUID) (clock : UUID -> Nat -> Time)
  | failInbox (inboxId leaseId : UUID) (leaseOwner : String)
      (errorCode errorMessage : Option String) (now : Time)
  | retryInbox (inboxId leaseId : UUID) (leaseOwner : String) (attemptId : UUID)
      (nextAvailableAt : Time) (errorCode errorMessage : Option String) (now : Time)
  | finalizeOrderOperation (claimed : ClaimedInboxMessage)
      (retryAvailableAt now : Time)
  | finalizeSupportCase (claimed : ClaimedInboxMessage) (retryAvailableAt now : Time)

namespace Job

/-- The transaction of a job, with the outbox messages it hands out. -/
def transaction : Job -> Tx (List ClaimedOutboxMessage)
  | claimOutbox workerId batchSize leaseSeconds scan clock =>
      claimDueOutbox workerId batchSize leaseSeconds scan clock
  | renewOutbox commandId leaseId leaseOwner leaseSeconds clock =>
      (fun _ => []) <$> renewOutboxLease commandId leaseId leaseOwner leaseSeconds clock
  | recoverOutbox batchSize scan clock =>
      (fun _ => []) <$> recoverExpiredOutboxLeases batchSize scan clock
  | retryOutbox retry now => (fun _ => []) <$> scheduleOutboxRetry retry now
  | finalizeOutbox claimed verdict now =>
      (fun _ => []) <$> finalize claimed verdict.finalization now
  | receiveInbox incoming => (fun _ => []) <$> receiveInboxIdempotently incoming
  | claimInbox workerId batchSize leaseSeconds scan clock =>
      (fun _ => []) <$> claimDueInbox workerId batchSize leaseSeconds scan clock
  | renewInbox inboxId leaseId leaseOwner leaseSeconds clock =>
      (fun _ => []) <$> renewInboxLease inboxId leaseId leaseOwner leaseSeconds clock
  | recoverInbox batchSize scan clock =>
      (fun _ => []) <$> recoverExpiredInboxLeases batchSize scan clock
  | failInbox inboxId leaseId leaseOwner errorCode errorMessage now =>
      (fun _ => []) <$>
        markInboxFailed inboxId leaseId leaseOwner errorCode errorMessage now
  | retryInbox inboxId leaseId leaseOwner attemptId nextAvailableAt errorCode
      errorMessage now =>
      (fun _ => []) <$> scheduleInboxRetry inboxId leaseId leaseOwner attemptId
        nextAvailableAt errorCode errorMessage now
  | finalizeOrderOperation claimed retryAvailableAt now =>
      (fun _ => []) <$>
        RefundAgent.finalizeOrderOperation claimed retryAvailableAt now
  | finalizeSupportCase claimed retryAvailableAt now =>
      (fun _ => []) <$> RefundAgent.finalizeSupportCase claimed retryAvailableAt now

/--
What the callers of the repositories see to: a command is finalized through a
handle that a claim has returned, however old; a retry is scheduled only for a
kind of failure that `decide_retry` retries; and the webhook receiver builds the
inbox rows it stores.
-/
def Admissible (handles : List ClaimedOutboxMessage) : Job -> Prop
  | retryOutbox retry _ => retry.failureKind ∈ retryableFailureKinds
  | finalizeOutbox claimed _ _ => claimed ∈ handles
  | receiveInbox incoming => incoming.checks = true -> FreshInbox incoming
  | _ => True

end Job

/-!
## Calls
-/

/--
The service methods that write, and the turns that call them.  The handoff
decisions that a caller passes satisfy a condition.
-/
inductive Method (D : HandoffDecision -> Prop) : {α : Type} -> Call α -> Prop
  | createPendingOperation (scope : AccessScope) (request : OrderOperationRequest)
      (snapshot : OrderSnapshot) (decision : OperationDecision)
      (requestExcerpt : String) (clock : Nat -> Time) :
      Method D (createPendingOperation scope request snapshot decision requestExcerpt
        clock)
  | confirmOperation (scope : AccessScope) (operationId : UUID) (requestId : String)
      (clock : Nat -> Time) :
      Method D (confirmOperation scope operationId requestId clock)
  | cancelPendingOperation (scope : AccessScope) (operationId : UUID)
      (requestId : String) (clock : Nat -> Time) :
      Method D (cancelPendingOperation scope operationId requestId clock)
  | submitConfirmedOperation (scope : AccessScope) (operationId : UUID)
      (requestId : String) (provider : Nat -> Except Failure SubmittedOperation)
      (clock : Nat -> Time) :
      Method D (submitConfirmedOperation scope operationId requestId provider clock)
  | queueConfirmedOperation (scope : AccessScope) (operationId : UUID)
      (requestId connectionId : String) (clock : Nat -> Time) :
      Method D (queueConfirmedOperation scope operationId requestId connectionId clock)
  | attachSupportCase (scope : AccessScope) (operationId supportCaseId : UUID)
      (requestId : String) (clock : Nat -> Time) :
      Method D (attachSupportCase scope operationId supportCaseId requestId clock)
  | moveToProviderManualReview (scope : AccessScope) (operationId : UUID)
      (requestId : String) (clock : Nat -> Time) :
      Method D (moveToProviderManualReview scope operationId requestId clock)
  | recordHandoff (scope : AccessScope) (trigger : CaseTrigger)
      (decision : HandoffDecision) (clock : Nat -> Time) (hd : D decision) :
      Method D (recordHandoff scope trigger decision clock)
  | recordDeliveryInvestigation (scope : AccessScope) (trigger : CaseTrigger)
      (decision : HandoffDecision) (issueType : DeliveryIssueType)
      (connectionId : String) (clock : Nat -> Time) (hd : D decision) :
      Method D (recordDeliveryInvestigation scope trigger decision issueType
        connectionId clock)
  | changeStatus (scope : AccessScope) (caseId : UUID) (targetStatus : CaseStatus)
      (requestId : String) (onHoldReason : Option OnHoldReason)
      (clock : Nat -> Time) :
      Method D (changeStatus scope caseId targetStatus requestId onHoldReason clock)
  | assignCase (scope : AccessScope) (directory : IdentityDirectory) (caseId : UUID)
      (agentId requestId : String) (clock : Nat -> Time) :
      Method D (assignCase scope directory caseId agentId requestId clock)
  | redriveOutbox (scope : AccessScope) (commandId : UUID)
      (request : ProviderRedriveRequest) (missed : Bool) (clock : Nat -> Time) :
      Method D (redriveOutbox scope commandId request missed clock)
  | redriveInbox (scope : AccessScope) (inboxId : UUID)
      (request : ProviderRedriveRequest) (missed : Bool) (clock : Nat -> Time) :
      Method D (redriveInbox scope inboxId request missed clock)
  | createRefund (scope : AccessScope) (orderId : String) (now : Time) :
      Method D (createRefund scope orderId now)
  | turn (env : Environment) (s : RefundState) : Method D (turn env s)

/-- Nothing is asked of a decision. -/
abbrev AnyDecision : HandoffDecision -> Prop := fun _ => True

theorem Method.harmless {D : HandoffDecision -> Prop}
    (hD : forall d, PolicyDecision d -> D d) {α : Type} {p : Call α} (h : Method D p) :
    Harmless D p := by
  cases h with
  | createPendingOperation => exact createPendingOperation_harmless _ _ _ _ _ _
  | confirmOperation => exact confirmOperation_harmless _ _ _ _
  | cancelPendingOperation => exact cancelPendingOperation_harmless _ _ _ _
  | submitConfirmedOperation => exact submitConfirmedOperation_harmless _ _ _ _ _
  | queueConfirmedOperation => exact queueConfirmedOperation_harmless _ _ _ _ _
  | attachSupportCase => exact attachSupportCase_harmless _ _ _ _ _
  | moveToProviderManualReview => exact moveToProviderManualReview_harmless _ _ _ _
  | recordHandoff _ _ _ _ hd => exact recordHandoff_harmless _ _ _ _ hd
  | recordDeliveryInvestigation _ _ _ _ _ _ hd =>
      exact recordDeliveryInvestigation_harmless _ _ _ _ _ _ hd
  | changeStatus => exact changeStatus_harmless _ _ _ _ _ _
  | assignCase => exact assignCase_harmless _ _ _ _ _ _
  | redriveOutbox => exact redriveOutbox_harmless _ _ _ _ _
  | redriveInbox => exact redriveInbox_harmless _ _ _ _ _
  | createRefund => exact createRefund_harmless _ _ _
  | turn => exact turn_harmless _ _ hD

/-- A call that has begun, as far as it has come. -/
structure Running : Type 1 where
  result : Type
  call : Call result

/-!
## The world
-/

structure World : Type 1 where
  db : Database
  handles : List ClaimedOutboxMessage
  calls : List Running

namespace World

/-- Nothing has happened yet. -/
def initial (ids : Supply) : World :=
  { db := Database.initial ids, handles := [], calls := [] }

/-- One worker job. -/
def perform (w : World) (j : Job) : World :=
  match j.transaction w.db with
  | Except.ok (claimed, db') =>
      { w with db := db', handles := w.handles ++ claimed }
  | Except.error _ => w

end World

inductive Event where
  | job (j : Job)
  | start
  | advance

inductive World.Step : World -> Event -> World -> Prop
  | job {w : World} {j : Job} (h : j.Admissible w.handles) :
      World.Step w (Event.job j) (w.perform j)
  | start {w : World} {α : Type} {p : Call α} (h : Method AnyDecision p) :
      World.Step w Event.start { w with calls := w.calls ++ [⟨α, p⟩] }
  | advance {w : World} {α : Type} {p q : Call α} {db' : Database}
      {before after : List Running} (calls : w.calls = before ++ ⟨α, p⟩ :: after)
      (h : Program.Advance (fun _ => True) p w.db q db') :
      World.Step w Event.advance
        { w with db := db', calls := before ++ ⟨α, q⟩ :: after }

/-- The runs of the system from an empty database. -/
def World.Runs (stages : List (Stage World Event)) (w : World) : Prop :=
  exists ids, Run World.Step (World.initial ids) stages w

/-- The states that some run leads to. -/
def World.Reachable (w : World) : Prop :=
  exists stages, World.Runs stages w

/-!
## Building runs

A job extends a run by one stage.  A call that nobody disturbs extends it by
one stage for its beginning and one for each of its transactions.
-/

/-- A call run from beginning to end. -/
def World.serve (w : World) {α : Type} (p : Call α) : World :=
  { w with
    db := (p.run w.db).2
    calls := w.calls ++ [⟨α, Program.done (p.run w.db).1⟩] }

/-- The stages that belong to service calls. -/
def Event.ofCall : Event -> Bool
  | job _ => false
  | _ => true

theorem World.Runs.job {stages : List (Stage World Event)} {w : World}
    (h : World.Runs stages w) {j : Job} (hj : j.Admissible w.handles) :
    World.Runs (stages ++ [⟨w, Event.job j, w.perform j⟩]) (w.perform j) := by
  rcases h with ⟨ids, hrun⟩
  exact ⟨ids, hrun.append (Run.cons (World.Step.job hj) (Run.nil _))⟩

theorem World.run_calls {α : Type} (p : Call α) :
    forall (w : World) (before after : List Running), w.calls = before ++ ⟨α, p⟩ :: after ->
      exists more, Run World.Step w more
        { w with
          db := (p.run w.db).2
          calls := before ++ ⟨α, Program.done (p.run w.db).1⟩ :: after } ∧
        forall x, x ∈ more -> x.event = Event.advance := by
  induction p with
  | done r =>
      intro w before after hcalls
      refine ⟨[], ?_, by simp⟩
      have hsame : { w with
          db := ((Program.done r : Call α).run w.db).2
          calls := before ++ ⟨α, Program.done ((Program.done r : Call α).run
            w.db).1⟩ :: after } = w := by
        rcases w with ⟨db, handles, calls⟩
        cases hcalls
        rfl
      rw [hsame]
      exact Run.nil w
  | @call β tx next ih =>
      intro w before after hcalls
      have hadvance : Program.Advance (fun _ => True) (Program.call tx next) w.db
          (next (tx.commit w.db).1) (tx.commit w.db).2 := by
        rcases tx.commit_cases w.db with ⟨b, t, htx, hcommit⟩ | ⟨e, htx, hcommit⟩
        · rw [hcommit]
          exact Program.Advance.commit htx
        · rw [hcommit]
          exact Program.Advance.raise htx
      have hstep := @World.Step.advance w α _ _ _ before after hcalls hadvance
      rcases ih (tx.commit w.db).1
        { w with
          db := (tx.commit w.db).2
          calls := before ++ ⟨α, next (tx.commit w.db).1⟩ :: after } before after rfl with
        ⟨more, hrun, hevents⟩
      refine ⟨_, Run.cons hstep hrun, ?_⟩
      intro x hx
      rcases List.mem_cons.mp hx with rfl | hx
      · rfl
      · exact hevents x hx

theorem World.Runs.serve {stages : List (Stage World Event)} {w : World}
    (h : World.Runs stages w) {α : Type} {p : Call α} (hp : Method AnyDecision p) :
    exists more, World.Runs (stages ++ more) (w.serve p) ∧
      forall x, x ∈ more -> x.event.ofCall = true := by
  rcases h with ⟨ids, hrun⟩
  rcases World.run_calls p { w with calls := w.calls ++ [⟨α, p⟩] } w.calls [] rfl with
    ⟨more, hmore, hevents⟩
  refine ⟨_, ⟨ids, hrun.append (Run.cons (World.Step.start hp) hmore)⟩, ?_⟩
  intro x hx
  rcases List.mem_cons.mp hx with rfl | hx
  · rfl
  · rw [hevents x hx]
    rfl

theorem World.Reachable.initial (ids : Supply) : (World.initial ids).Reachable :=
  ⟨[], ids, Run.nil _⟩

theorem World.Reachable.job {w : World} (h : w.Reachable) {j : Job}
    (hj : j.Admissible w.handles) : (w.perform j).Reachable := by
  rcases h with ⟨stages, hrun⟩
  exact ⟨_, hrun.job hj⟩

/-!
## An example

One customer asks for a cancellation and confirms it, the command is queued and
a worker claims it.  The runs below are shown to be possible by evaluation.
-/

def sampleIds : Supply :=
  { gen := fun n => n, injective := fun _ _ h => h, next := 0 }

def sampleScope : AccessScope :=
  { sampleUser with permissions := [] }

def sampleRequest : OrderOperationRequest :=
  { threadId := sampleThreadText
    sourceMessageId := sampleMessageText
    orderId := sampleOrderText
    operationType := OperationType.cancellation
    reason := OperationReason.noLongerNeeded
    replacementVariantId := none
    customerId := sampleScope.userId
    tenantId := sampleScope.tenantId
    fieldsValid := by decide }

def sampleSnapshot : OrderSnapshot :=
  sampleOrder

def sampleDecision : OperationDecision :=
  eligibleDecision OperationType.cancellation "cancellation_eligible"
    "This order can be cancelled."

/-- The operation has the identifier 0 and its command the identifier 4. -/
def sampleQueued : World :=
  ((World.initial sampleIds).serve
    (createPendingOperation sampleScope sampleRequest sampleSnapshot sampleDecision
      "please cancel" (fun _ => 0))).serve
    (queueConfirmedOperation sampleScope 0 "request" "connection" (fun _ => 0))

def sampleClaim : Job :=
  Job.claimOutbox "worker" 1 30 [4] (fun _ _ => 0)

def sampleHandle : ClaimedOutboxMessage :=
  (sampleQueued.perform sampleClaim).handles.head (by decide +kernel)

/-- The provider takes the command. -/
def sampleAccepted : Verdict :=
  Verdict.accepted
    { commandId := 4
      providerOperationId := some "op-1"
      providerReference := none
      status := ProviderCommandAcceptanceStatus.accepted
      receivedAt := 0
      nonEmpty := by decide }

def sampleFinalized (verdict : Verdict) : World :=
  (sampleQueued.perform sampleClaim).perform
    (Job.finalizeOutbox sampleHandle verdict 0)

theorem sampleQueued_runs : exists stages, World.Runs stages sampleQueued ∧
    forall x, x ∈ stages -> x.event.ofCall = true := by
  have hstart : World.Runs [] (World.initial sampleIds) := ⟨sampleIds, Run.nil _⟩
  rcases hstart.serve (Method.createPendingOperation sampleScope sampleRequest
    sampleSnapshot sampleDecision "please cancel" (fun _ => 0)) with ⟨first, hfirst, h₁⟩
  rcases hfirst.serve (Method.queueConfirmedOperation sampleScope 0 "request"
    "connection" (fun _ => 0)) with ⟨second, hsecond, h₂⟩
  refine ⟨_, hsecond, ?_⟩
  intro x hx
  rcases List.mem_append.mp hx with hx | hx
  · exact h₁ x hx
  · exact h₂ x hx

theorem sampleFinalized_runs (verdict : Verdict) :
    exists stages, World.Runs stages (sampleFinalized verdict) ∧
      forall x, x ∈ stages -> x.event.ofCall = true ∨
        x.event = Event.job sampleClaim ∨
        x.event = Event.job (Job.finalizeOutbox sampleHandle verdict 0) := by
  rcases sampleQueued_runs with ⟨stages, hrun, hcalls⟩
  have hclaimed := hrun.job (j := sampleClaim) trivial
  have hhandle : (Job.finalizeOutbox sampleHandle verdict 0).Admissible
      (sampleQueued.perform sampleClaim).handles := List.head_mem _
  refine ⟨_, hclaimed.job hhandle, ?_⟩
  intro x hx
  simp only [List.mem_append, List.mem_singleton] at hx
  rcases hx with (hx | rfl) | rfl
  · exact Or.inl (hcalls x hx)
  · exact Or.inr (Or.inl rfl)
  · exact Or.inr (Or.inr rfl)

end RefundAgent
