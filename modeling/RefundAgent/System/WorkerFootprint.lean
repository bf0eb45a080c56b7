import RefundAgent.System.Footprint

/-!
# Footprints of the workers and of the staff

What a job of a worker and a request of the staff may change.  A worker follows up on a
provider's answer in the aggregate of its command, and leaves alone what the customer
has said.
-/

namespace RefundAgent

open Foundation

/-!
## Statements
-/

theorem Respects.inbox {F : List Part} {db : Database} (h : Part.inbox ∈ F)
    (t : InboxTables) : Respects F db { db with inbox := t } := by
  intro part hpart
  cases part with
  | inbox => exact absurd h hpart
  | _ => rfl

namespace Confines

variable {F : List Part} {α β : Type}

theorem write {f : Database -> Database} (h : forall db, Respects F db (f db)) :
    Confines F (Transaction.write f) := by
  intro db a db' hwrite
  cases hwrite
  exact h db

theorem map (f : α -> β) {tx : Tx α} (h : Confines F tx) : Confines F (f <$> tx) :=
  Confines.bind h fun _ => Confines.pure _

theorem forEach {f : α -> Tx β} (hf : forall a, Confines F (f a)) (items : List α) :
    Confines F (Transaction.forEach items f) :=
  Transaction.Keeps.forEach Respects.refl Respects.trans hf items

end Confines

section Statements

variable {F : List Part}

theorem updateOutbox_confines (h : Part.outbox ∈ F) (commandId : UUID)
    (p : OutboxMessage -> Bool) (f : OutboxMessage -> OutboxMessage) :
    Confines F (updateOutbox commandId p f) := by
  intro db n db' hupdate
  rcases updateOutbox_cases hupdate with ⟨hsame, _⟩ | ⟨_, hone⟩
  · cases hsame
    exact Respects.refl _
  · rcases updateOutbox_one.mp hone with ⟨r, _, _, hdb⟩
    have hdb : db' = _ := hdb
    rw [hdb]
    exact Respects.outbox h fun _ => Table.map_key_put _ _

theorem updateInbox_confines (h : Part.inbox ∈ F) (inboxId : UUID)
    (p : InboxMessage -> Bool) (f : InboxMessage -> InboxMessage) :
    Confines F (updateInbox inboxId p f) := by
  intro db n db' hupdate
  rcases updateInbox_cases hupdate with hsame | ⟨_, hone⟩
  · cases hsame
    exact Respects.refl _
  · rcases updateInbox_one.mp hone with ⟨r, _, _, hdb⟩
    have hdb : db' = _ := hdb
    rw [hdb]
    exact Respects.inbox h _

theorem insertDeliveryAttempt_confines (h : Part.outbox ∈ F) (a : OutboxDeliveryAttempt) :
    Confines F (insertDeliveryAttempt a) := by
  refine Confines.bind (Confines.require _ _) fun _ => ?_
  refine Confines.bind (Confines.read _) fun db => ?_
  refine Confines.bind (Confines.require _ _) fun _ => ?_
  exact Confines.insertRow fun _ _ _ => Respects.outbox h fun _ => rfl

theorem updateDeliveryAttempts_confines (h : Part.outbox ∈ F)
    (p : OutboxDeliveryAttempt -> Bool)
    (f : OutboxDeliveryAttempt -> OutboxDeliveryAttempt)
    (hf : forall a, (f a).attemptId = a.attemptId) :
    Confines F (updateDeliveryAttempts p f hf) := by
  refine Confines.bind (Confines.read _) fun hit => ?_
  refine Confines.bind (Confines.require _ _) fun _ => ?_
  refine Confines.bind (Confines.write ?_) fun _ => Confines.pure _
  exact fun db => Respects.outbox h fun _ => rfl

theorem insertOutboxRedrive_confines (h : Part.outbox ∈ F) (a : OutboxRedrive) :
    Confines F (insertOutboxRedrive a) := by
  refine Confines.bind (Confines.read _) fun db => ?_
  refine Confines.bind (Confines.require _ _) fun _ => ?_
  exact Confines.insertRow fun _ _ _ => Respects.outbox h fun _ => rfl

theorem insertInboxRow_confines (h : Part.inbox ∈ F) (m : InboxMessage) :
    Confines F (insertInboxRow m) := by
  apply Confines.bind (Confines.require _ _)
  exact fun _ => Confines.insertRow fun _ _ _ => Respects.inbox h _

theorem insertProcessingAttempt_confines (h : Part.inbox ∈ F)
    (a : InboxProcessingAttempt) : Confines F (insertProcessingAttempt a) := by
  refine Confines.bind (Confines.read _) fun db => ?_
  refine Confines.bind (Confines.require _ _) fun _ => ?_
  exact Confines.insertRow fun _ _ _ => Respects.inbox h _

theorem updateProcessingAttempts_confines (h : Part.inbox ∈ F)
    (p : InboxProcessingAttempt -> Bool)
    (f : InboxProcessingAttempt -> InboxProcessingAttempt)
    (hf : forall a, (f a).attemptId = a.attemptId) :
    Confines F (updateProcessingAttempts p f hf) := by
  refine Confines.bind (Confines.read _) fun hit => ?_
  apply Confines.bind (Confines.write fun _ => Respects.inbox h _)
  exact fun _ => Confines.pure _

theorem insertInboxRedrive_confines (h : Part.inbox ∈ F) (a : InboxRedrive) :
    Confines F (insertInboxRedrive a) := by
  refine Confines.bind (Confines.read _) fun db => ?_
  refine Confines.bind (Confines.require _ _) fun _ => ?_
  exact Confines.insertRow fun _ _ _ => Respects.inbox h _

theorem insertCaseEventOnce_confines (h : Part.cases ∈ F) (e : SupportCaseEvent) :
    Confines F (insertCaseEventOnce e) := by
  refine Confines.bind (Confines.read _) fun db => ?_
  exact Confines.ite (insertCaseEvent_confines h e) (Confines.pure ())

theorem validateErrorFields_confines (errorCode errorMessage : Option String) :
    Confines F (validateErrorFields errorCode errorMessage) := by
  have hfield : forall (name : String) (value : Option String),
      Confines F (validateErrorField name value) := by
    intro name value
    cases value with
    | none => exact Confines.pure ()
    | some v => exact Confines.bind (Confines.require _ _) fun _ => Confines.require _ _
  exact Confines.bind (hfield _ _) fun _ => hfield _ _

theorem validateClaimParameters_confines (workerId : String) (batchSize : Int)
    (leaseSeconds : Rat) :
    Confines F (validateClaimParameters workerId batchSize leaseSeconds) := by
  refine Confines.bind (Confines.require _ _) fun _ => ?_
  exact Confines.bind (Confines.require _ _) fun _ => Confines.require _ _

theorem parseReference_confines (model : String) (reference : Option String) :
    Confines F (parseReference model reference) := by
  intro db r db' h
  have hsame : db' = db := (parseReference_eq_ok h).right
  rw [hsame]
  exact Respects.refl db

theorem statusChangedEvent_permitted {operation : OrderOperation} {eventId : UUID}
    {key : String} {newStatus : OperationRecordStatus} {reference : Option CleanText}
    {actor : String} {now : Time} :
    (statusChangedEvent operation eventId key newStatus reference actor
      now).isConfirmation = true -> Part.confirmations ∈ F :=
  fun h => (by cases h)

end Statements

/-!
## The outbox
-/

section Outbox

variable {F : List Part}

theorem claimDueOutbox_confines (houtbox : Part.outbox ∈ F) (workerId : String)
    (batchSize : Int) (leaseSeconds : Rat) (scan : List UUID)
    (clock : UUID -> Nat -> Time) :
    Confines F (claimDueOutbox workerId batchSize leaseSeconds scan clock) := by
  apply Confines.bind (validateClaimParameters_confines _ _ _)
  intro _
  apply Confines.translate
  refine Confines.bind (Confines.read _) fun rows => Confines.forEach (fun row => ?_) rows
  refine Confines.bind newId_confines fun leaseId => ?_
  refine Confines.bind newId_confines fun attemptId => ?_
  refine Confines.bind (updateOutbox_confines houtbox _ _ _) fun affected => ?_
  refine Confines.bind (Confines.require _ _) fun _ => ?_
  refine Confines.bind (Confines.fetch _ _) fun updated => ?_
  refine Confines.bind (insertDeliveryAttempt_confines houtbox _) fun _ => ?_
  exact Confines.bind (Confines.require _ _) fun _ => Confines.pure _

theorem renewOutboxLease_confines (houtbox : Part.outbox ∈ F) (commandId leaseId : UUID)
    (leaseOwner : String) (leaseSeconds : Rat) (clock : Nat -> Time) :
    Confines F (renewOutboxLease commandId leaseId leaseOwner leaseSeconds clock) := by
  refine Confines.bind (validateClaimParameters_confines _ _ _) fun _ => ?_
  apply Confines.bind (updateOutbox_confines houtbox _ _ _)
  exact fun _ => Confines.pure _

theorem updateOutboxTransition_confines (houtbox : Part.outbox ∈ F)
    (commandId leaseId : UUID) (leaseOwner : String) (t : OutboxTransition) :
    Confines F (updateOutboxTransition commandId leaseId leaseOwner t) :=
  Confines.bind (validateErrorFields_confines _ _) fun _ =>
    updateOutbox_confines houtbox _ _ _

theorem finishDeliveryAttempt_confines (houtbox : Part.outbox ∈ F)
    (attemptId commandId leaseId : UUID) (workerId : String)
    (r : DeliveryAttemptResult) :
    Confines F (finishDeliveryAttempt attemptId commandId leaseId workerId r) := by
  refine Confines.bind (validateErrorFields_confines _ _) fun _ => ?_
  apply Confines.bind (Confines.require _ _)
  exact fun _ => updateDeliveryAttempts_confines houtbox _ _ _

theorem scheduleOutboxRetry_confines (houtbox : Part.outbox ∈ F) (r : OutboxRetry)
    (now : Time) : Confines F (scheduleOutboxRetry r now) := by
  apply Confines.translate
  refine Confines.bind (Confines.fetch _ _) fun m => ?_
  refine Confines.bind (Confines.require _ _) fun _ => ?_
  refine Confines.bind (Confines.require _ _) fun _ => ?_
  refine Confines.bind (Confines.require _ _) fun _ => ?_
  refine Confines.bind (Confines.require _ _) fun _ => ?_
  refine Confines.bind (finishDeliveryAttempt_confines houtbox _ _ _ _ _) fun _ => ?_
  refine Confines.bind (Confines.require _ _) fun _ => ?_
  refine Confines.bind (updateOutboxTransition_confines houtbox _ _ _ _) fun _ => ?_
  exact Confines.require _ _

theorem ensureTechnicalReviewCase_confines (hcases : Part.cases ∈ F)
    (claimed : ClaimedOutboxMessage) (operation : OrderOperation) (now : Time) :
    Confines F (ensureTechnicalReviewCase claimed operation now) := by
  refine Confines.bind (Confines.read _) fun found => ?_
  cases found with
  | some row =>
      refine Confines.bind (caseFromRow_confines row) fun existing => ?_
      refine Confines.bind (updateCase_confines hcases _ _ _) fun affected => ?_
      refine Confines.bind (Confines.require _ _) fun _ => ?_
      refine Confines.bind newId_confines fun eventId => ?_
      apply Confines.bind (insertCaseEventOnce_confines hcases _)
      exact fun _ => Confines.pure _
  | none =>
      refine Confines.bind newId_confines fun caseId => ?_
      refine Confines.bind newId_confines fun eventId => ?_
      refine Confines.bind (insertCase_confines hcases _) fun _ => ?_
      apply Confines.bind (insertCaseEvent_confines hcases _)
      exact fun _ => Confines.pure _

theorem finalizeOperation_confines (hcases : Part.cases ∈ F)
    (hoperations : Part.operations ∈ F) (claimed : ClaimedOutboxMessage)
    (target : FinalTarget) (providerResult : Option ProviderCommandResult)
    (failureKind : Option ProviderFailureKind) (now : Time) :
    Confines F (finalizeOperation claimed target providerResult failureKind now) := by
  refine Confines.bind (Confines.fetch _ _) fun row => ?_
  refine Confines.bind (operationFromRow_confines row) fun operation => ?_
  refine Confines.bind (Confines.require _ _) fun _ => ?_
  have hreview : Confines F (reviewCaseOf claimed operation
      (finalStatus target failureKind) now) := by
    refine Confines.ite ?_ (Confines.pure _)
    apply Confines.bind (ensureTechnicalReviewCase_confines hcases _ _ _)
    exact fun _ => Confines.pure _
  refine Confines.bind hreview fun supportCaseId => ?_
  refine Confines.bind (updateOperation_confines hoperations _ _ _) fun affected => ?_
  refine Confines.bind (Confines.require _ _) fun _ => ?_
  refine Confines.bind newId_confines fun eventId => ?_
  refine Confines.bind (parseReference_confines _ _) fun reference => ?_
  apply Confines.bind (insertOperationEvent_confines hoperations statusChangedEvent_permitted)
  intro _
  cases supportCaseId with
  | none => exact Confines.pure ()
  | some caseId =>
      refine Confines.ite (Confines.bind newId_confines fun eventId => ?_)
        (Confines.pure ())
      exact insertOperationEvent_confines hoperations fun h => (by cases h)

theorem finalizeCase_confines (hcases : Part.cases ∈ F) (claimed : ClaimedOutboxMessage)
    (target : FinalTarget) (providerResult : Option ProviderCommandResult) (now : Time) :
    Confines F (finalizeCase claimed target providerResult now) := by
  refine Confines.bind (Confines.fetch _ _) fun row => ?_
  refine Confines.bind (caseFromRow_confines row) fun c => ?_
  refine Confines.bind (Confines.require _ _) fun _ => ?_
  have hfailed : Confines F (recordDeliveryFailed claimed target c now) := by
    refine Confines.ite ?_ (Confines.pure ())
    apply Confines.bind (updateCase_confines hcases _ _ _)
    exact fun _ => Confines.require _ _
  refine Confines.bind hfailed fun _ => ?_
  refine Confines.bind newId_confines fun eventId => ?_
  refine Confines.bind (parseReference_confines _ _) fun reference => ?_
  exact insertCaseEvent_confines hcases _

theorem recoverExpiredOutboxLeases_confines (houtbox : Part.outbox ∈ F)
    (hcases : Part.cases ∈ F) (hoperations : Part.operations ∈ F) (batchSize : Nat)
    (scan : List UUID) (clock : UUID -> Nat -> Time) :
    Confines F (recoverExpiredOutboxLeases batchSize scan clock) := by
  apply Confines.translate
  refine Confines.bind (Confines.read _) fun rows => ?_
  refine Confines.bind (Confines.forEach (fun row => ?_) rows) fun _ => Confines.pure _
  refine Confines.bind (Confines.fetch _ _) fun attempt => ?_
  have haggregate : forall now, Confines F (recoverAggregate row attempt now) := by
    intro now
    refine Confines.ite ?_ (Confines.pure ())
    apply Confines.bind (Confines.require _ _)
    exact fun _ => finalizeOperation_confines hcases hoperations _ _ _ _ _
  refine Confines.bind (haggregate _) fun _ => ?_
  refine Confines.bind (updateDeliveryAttempts_confines houtbox _ _ _) fun _ => ?_
  refine Confines.bind (Confines.require _ _) fun _ => ?_
  apply Confines.bind (updateOutbox_confines houtbox _ _ _)
  exact fun _ => Confines.pure ()

theorem finalize_confines (houtbox : Part.outbox ∈ F) (hcases : Part.cases ∈ F)
    (hoperations : Part.operations ∈ F) (claimed : ClaimedOutboxMessage)
    (f : Finalization) (databaseNow : Time) :
    Confines F (finalize claimed f databaseNow) := by
  apply Confines.translate
  refine Confines.bind (Confines.fetch _ _) fun leaseId => ?_
  refine Confines.bind (Confines.fetch _ _) fun leaseOwner => ?_
  have hlock : Confines F (lockClaimedCommand claimed databaseNow) := by
    refine Confines.bind (Confines.fetch _ _) fun m => ?_
    refine Confines.bind (Confines.require _ _) fun _ => ?_
    refine Confines.bind (Confines.fetch _ _) fun a => ?_
    exact Confines.bind (Confines.require _ _) fun _ => Confines.pure _
  refine Confines.bind hlock fun now => ?_
  have haggregate : Confines F (finalizeAggregate claimed f now) := by
    unfold finalizeAggregate
    cases claimed.aggregateType with
    | orderOperation => exact finalizeOperation_confines hcases hoperations _ _ _ _ _
    | supportCase => exact finalizeCase_confines hcases _ _ _ _
  refine Confines.bind haggregate fun _ => ?_
  refine Confines.bind (finishDeliveryAttempt_confines houtbox _ _ _ _ _) fun _ => ?_
  refine Confines.bind (Confines.require _ _) fun _ => ?_
  refine Confines.bind (updateOutboxTransition_confines houtbox _ _ _ _) fun _ => ?_
  exact Confines.require _ _

end Outbox

/-!
## The inbox
-/

section Inbox

variable {F : List Part}

theorem receiveInboxIdempotently_confines (hinbox : Part.inbox ∈ F)
    (incoming : InboxMessage) : Confines F (receiveInboxIdempotently incoming) := by
  apply Confines.translate
  refine Confines.bind (Confines.read _) fun stored => ?_
  cases stored with
  | none =>
      apply Confines.bind (insertInboxRow_confines hinbox _)
      exact fun _ => Confines.pure _
  | some row =>
      refine Confines.bind (Confines.fetch _ _) fun existing => ?_
      exact Confines.bind (Confines.require _ _) fun _ => Confines.pure _

theorem claimDueInbox_confines (hinbox : Part.inbox ∈ F) (workerId : String)
    (batchSize : Int) (leaseSeconds : Rat) (scan : List UUID)
    (clock : UUID -> Nat -> Time) :
    Confines F (claimDueInbox workerId batchSize leaseSeconds scan clock) := by
  apply Confines.bind (validateClaimParameters_confines _ _ _)
  intro _
  apply Confines.translate
  refine Confines.bind (Confines.read _) fun rows => Confines.forEach (fun row => ?_) rows
  refine Confines.bind newId_confines fun leaseId => ?_
  refine Confines.bind newId_confines fun attemptId => ?_
  refine Confines.bind (updateInbox_confines hinbox _ _ _) fun affected => ?_
  refine Confines.bind (Confines.require _ _) fun _ => ?_
  refine Confines.bind (Confines.fetch _ _) fun updated => ?_
  refine Confines.bind (insertProcessingAttempt_confines hinbox _) fun _ => ?_
  exact Confines.bind (Confines.require _ _) fun _ => Confines.pure _

theorem renewInboxLease_confines (hinbox : Part.inbox ∈ F) (inboxId leaseId : UUID)
    (leaseOwner : String) (leaseSeconds : Rat) (clock : Nat -> Time) :
    Confines F (renewInboxLease inboxId leaseId leaseOwner leaseSeconds clock) := by
  refine Confines.bind (validateClaimParameters_confines _ _ _) fun _ => ?_
  apply Confines.bind (updateInbox_confines hinbox _ _ _)
  exact fun _ => Confines.pure _

theorem recoverExpiredInboxLeases_confines (hinbox : Part.inbox ∈ F) (batchSize : Nat)
    (scan : List UUID) (clock : UUID -> Nat -> Time) :
    Confines F (recoverExpiredInboxLeases batchSize scan clock) := by
  apply Confines.translate
  refine Confines.bind (Confines.read _) fun rows => ?_
  refine Confines.bind (Confines.forEach (fun row => ?_) rows) fun _ => Confines.pure _
  refine Confines.bind (updateProcessingAttempts_confines hinbox _ _ _) fun _ => ?_
  refine Confines.bind (Confines.require _ _) fun _ => ?_
  apply Confines.bind (updateInbox_confines hinbox _ _ _)
  exact fun _ => Confines.require _ _

theorem finishInboxAttempt_confines (hinbox : Part.inbox ∈ F)
    (attemptId inboxId leaseId : UUID) (workerId : String) (r : InboxAttemptResult) :
    Confines F (finishInboxAttempt attemptId inboxId leaseId workerId r) :=
  Confines.bind (validateErrorFields_confines _ _) fun _ =>
    updateProcessingAttempts_confines hinbox _ _ _

theorem failAttempt_confines (hinbox : Part.inbox ∈ F) (attemptId inboxId leaseId : UUID)
    (leaseOwner : String) (now : Time) (errorCode errorMessage : Option String) :
    Confines F (failAttempt attemptId inboxId leaseId leaseOwner now errorCode
      errorMessage) := by
  refine Confines.bind (finishInboxAttempt_confines hinbox _ _ _ _ _) fun _ => ?_
  refine Confines.bind (Confines.require _ _) fun _ => ?_
  refine Confines.bind (Confines.bind (validateErrorFields_confines _ _) fun _ =>
    updateInbox_confines hinbox _ _ _) fun _ => ?_
  exact Confines.require _ _

theorem retryAttempt_confines (hinbox : Part.inbox ∈ F) (attemptId inboxId leaseId : UUID)
    (leaseOwner : String) (availableAt now : Time)
    (errorCode errorMessage : Option String) :
    Confines F (retryAttempt attemptId inboxId leaseId leaseOwner availableAt now
      errorCode errorMessage) := by
  refine Confines.bind (finishInboxAttempt_confines hinbox _ _ _ _ _) fun _ => ?_
  refine Confines.bind (Confines.require _ _) fun _ => ?_
  refine Confines.bind (Confines.bind (validateErrorFields_confines _ _) fun _ =>
    updateInbox_confines hinbox _ _ _) fun _ => ?_
  exact Confines.require _ _

theorem markInboxFailed_confines (hinbox : Part.inbox ∈ F) (inboxId leaseId : UUID)
    (leaseOwner : String) (errorCode errorMessage : Option String) (now : Time) :
    Confines F (markInboxFailed inboxId leaseId leaseOwner errorCode errorMessage now) := by
  apply Confines.translate
  apply Confines.bind (Confines.fetch _ _)
  exact fun _ => failAttempt_confines hinbox _ _ _ _ _ _ _

theorem scheduleInboxRetry_confines (hinbox : Part.inbox ∈ F) (inboxId leaseId : UUID)
    (leaseOwner : String) (attemptId : UUID) (nextAvailableAt : Time)
    (errorCode errorMessage : Option String) (now : Time) :
    Confines F (scheduleInboxRetry inboxId leaseId leaseOwner attemptId nextAvailableAt
      errorCode errorMessage now) := by
  apply Confines.translate
  apply Confines.bind (Confines.fetch _ _)
  exact fun _ => Confines.ite (failAttempt_confines hinbox _ _ _ _ _ _ _)
    (retryAttempt_confines hinbox _ _ _ _ _ _ _ _)

theorem processCallback_confines (hinbox : Part.inbox ∈ F) (claimed : ClaimedInboxMessage)
    (lease : InboxLease) (now : Time) : Confines F (processCallback claimed lease now) := by
  refine Confines.bind (finishInboxAttempt_confines hinbox _ _ _ _ _) fun _ => ?_
  refine Confines.bind (Confines.require _ _) fun _ => ?_
  apply Confines.bind (updateInbox_confines hinbox _ _ _)
  exact fun _ => Confines.require _ _

theorem failCallback_confines (hinbox : Part.inbox ∈ F) (claimed : ClaimedInboxMessage)
    (lease : InboxLease) (now : Time) (code : String) (kind : ProviderAggregateType) :
    Confines F (failCallback claimed lease now code kind) :=
  Confines.bind (failAttempt_confines hinbox _ _ _ _ _ _ _) fun _ => Confines.pure _

theorem settleCommand_confines (hinbox : Part.inbox ∈ F) (claimed : ClaimedInboxMessage)
    (lease : InboxLease) (kind : ProviderAggregateType) (inbox : InboxMessage)
    (now retryAvailableAt : Time) :
    Confines F (settleCommand claimed lease kind inbox now retryAvailableAt) := by
  have hfail : forall code, Confines F (Except.error <$>
      failCallback claimed lease now code kind :
        Tx (Except InboxFinalizationResult SettledCallback)) :=
    fun code => Confines.map _ (failCallback_confines hinbox _ _ _ _ _)
  refine Confines.bind (Confines.read _) fun found => ?_
  cases found with
  | none => exact hfail _
  | some outbox =>
      refine Confines.bind (Confines.require _ _) fun _ => Confines.ite (hfail _) ?_
      refine Confines.bind (Confines.require _ _) fun _ => Confines.ite (hfail _) ?_
      cases decideInboxOutboxReadiness outbox.status with
      | retry =>
          refine Confines.bind (Confines.require _ _) fun _ => Confines.map _ ?_
          refine Confines.ite (failCallback_confines hinbox _ _ _ _ _) ?_
          apply Confines.bind (retryAttempt_confines hinbox _ _ _ _ _ _ _ _)
          exact fun _ => Confines.pure _
      | ready => exact Confines.pure _
      | dead => exact Confines.pure _

theorem openCallback_confines (hinbox : Part.inbox ∈ F) (claimed : ClaimedInboxMessage)
    (lease : InboxLease) (kind : ProviderAggregateType) (wrongKind : String)
    (databaseNow retryAvailableAt : Time) :
    Confines F (openCallback claimed lease kind wrongKind databaseNow
      retryAvailableAt) := by
  have hlock : Confines F (lockInbox claimed databaseNow) := by
    refine Confines.bind (Confines.fetch _ _) fun row => ?_
    refine Confines.bind (Confines.fetch _ _) fun persisted => ?_
    refine Confines.bind (Confines.require _ _) fun _ => ?_
    refine Confines.bind (Confines.fetch _ _) fun attempt => ?_
    exact Confines.bind (Confines.require _ _) fun _ => Confines.pure _
  refine Confines.bind hlock fun locked => ?_
  refine Confines.bind (Confines.require _ _) fun _ => ?_
  refine Confines.ite (Confines.map _ (failCallback_confines hinbox _ _ _ _ _)) ?_
  apply Confines.bind (Confines.require _ _)
  exact fun _ => settleCommand_confines hinbox _ _ _ _ _ _

theorem updateCurrentOperation_confines (hoperations : Part.operations ∈ F)
    (claimed : ClaimedInboxMessage) (operation : OrderOperation)
    (f : OrderOperation -> OrderOperation) :
    Confines F (updateCurrentOperation claimed operation f) :=
  Confines.bind (updateOperation_confines hoperations _ _ _) fun _ => Confines.require _ _

theorem meetOperation_confines (hinbox : Part.inbox ∈ F)
    (hoperations : Part.operations ∈ F) (claimed : ClaimedInboxMessage)
    (lease : InboxLease) (c : SettledCallback) (operation : OrderOperation) :
    Confines F (meetOperation claimed lease c operation) := by
  have habsorb : forall outcome incoming,
      Confines F (absorbCallback claimed lease operation outcome incoming c.now) := by
    intro outcome incoming
    have hrest : Confines F (do
        processCallback claimed lease c.now
        pure
          { outcome := outcome
            aggregateType := ProviderAggregateType.orderOperation
            previousStatus := some operation.status
            currentStatus := some operation.status } : Tx InboxFinalizationResult) :=
      Confines.bind (processCallback_confines hinbox _ _ _) fun _ => Confines.pure _
    refine Confines.ite ?_ hrest
    exact Confines.bind (updateCurrentOperation_confines hoperations _ _ _) fun _ => hrest
  unfold meetOperation
  refine Confines.ite (failCallback_confines hinbox _ _ _ _ _) ?_
  refine Confines.ite (failCallback_confines hinbox _ _ _ _ _) ?_
  refine Confines.ite ?_ (Confines.ite (habsorb _ _) (habsorb _ _))
  refine Confines.bind (Confines.fetch _ _) fun target => ?_
  refine Confines.bind (updateCurrentOperation_confines hoperations _ _ _) fun _ => ?_
  refine Confines.bind newId_confines fun eventId => ?_
  refine Confines.bind (parseReference_confines _ _) fun reference => ?_
  refine Confines.bind (insertOperationEvent_confines hoperations
    statusChangedEvent_permitted) fun _ => ?_
  exact Confines.bind (processCallback_confines hinbox _ _ _) fun _ => Confines.pure _

theorem finalizeOrderOperation_confines (hinbox : Part.inbox ∈ F)
    (hoperations : Part.operations ∈ F) (claimed : ClaimedInboxMessage)
    (retryAvailableAt databaseNow : Time) :
    Confines F (finalizeOrderOperation claimed retryAvailableAt databaseNow) := by
  apply Confines.translate
  refine Confines.bind (Confines.fetch _ _) fun lease => ?_
  refine Confines.bind (openCallback_confines hinbox _ _ _ _ _ _) fun opened => ?_
  cases opened with
  | error result => exact Confines.pure _
  | ok c =>
      refine Confines.bind (Confines.read _) fun found => ?_
      cases found with
      | none => exact failCallback_confines hinbox _ _ _ _ _
      | some row =>
          refine Confines.bind (operationFromRow_confines row) fun operation => ?_
          exact Confines.ite (failCallback_confines hinbox _ _ _ _ _)
            (meetOperation_confines hinbox hoperations _ _ _ _)

theorem finalizeSupportCase_confines (hinbox : Part.inbox ∈ F) (hcases : Part.cases ∈ F)
    (claimed : ClaimedInboxMessage) (retryAvailableAt databaseNow : Time) :
    Confines F (finalizeSupportCase claimed retryAvailableAt databaseNow) := by
  apply Confines.translate
  refine Confines.bind (Confines.fetch _ _) fun lease => ?_
  refine Confines.bind (openCallback_confines hinbox _ _ _ _ _ _) fun opened => ?_
  cases opened with
  | error result => exact Confines.pure _
  | ok c =>
      refine Confines.bind (Confines.read _) fun found => ?_
      cases found with
      | none => exact failCallback_confines hinbox _ _ _ _ _
      | some row =>
          refine Confines.bind (caseFromRow_confines row) fun case => ?_
          refine Confines.ite (failCallback_confines hinbox _ _ _ _ _) ?_
          refine Confines.bind newId_confines fun eventId => ?_
          refine Confines.bind (parseReference_confines _ _) fun reference => ?_
          refine Confines.bind (insertCaseEvent_confines hcases _) fun _ => ?_
          apply Confines.bind (processCallback_confines hinbox _ _ _)
          exact fun _ => Confines.pure _

end Inbox

/-!
## Jobs
-/

/-- The parts that a job may change. -/
def Job.parts : Job -> List Part
  | recoverOutbox _ _ _ => [Part.outbox, Part.cases, Part.operations]
  | finalizeOutbox _ _ _ => [Part.outbox, Part.cases, Part.operations]
  | claimOutbox _ _ _ _ _ => [Part.outbox]
  | renewOutbox _ _ _ _ _ => [Part.outbox]
  | retryOutbox _ _ => [Part.outbox]
  | finalizeOrderOperation _ _ _ => [Part.inbox, Part.operations]
  | finalizeSupportCase _ _ _ => [Part.inbox, Part.cases]
  | _ => [Part.inbox]

theorem Job.confines (j : Job) : Confines j.parts j.transaction := by
  have houtbox : Part.outbox ∈ [Part.outbox] := List.mem_singleton_self _
  have hinbox : Part.inbox ∈ [Part.inbox] := List.mem_singleton_self _
  have haggregates : Part.outbox ∈ [Part.outbox, Part.cases, Part.operations] ∧
      Part.cases ∈ [Part.outbox, Part.cases, Part.operations] ∧
      Part.operations ∈ [Part.outbox, Part.cases, Part.operations] := by
    decide
  have hcallback : forall part : Part, Part.inbox ∈ [Part.inbox, part] ∧
      part ∈ [Part.inbox, part] :=
    fun _ => ⟨List.mem_cons_self, List.mem_cons_of_mem _ (List.mem_singleton_self _)⟩
  rcases haggregates with ⟨hfirst, hcases, hoperations⟩
  cases j with
  | claimOutbox => exact claimDueOutbox_confines houtbox _ _ _ _ _
  | renewOutbox => exact Confines.map _ (renewOutboxLease_confines houtbox _ _ _ _ _)
  | recoverOutbox =>
      apply Confines.map
      exact recoverExpiredOutboxLeases_confines hfirst hcases hoperations _ _ _
  | retryOutbox => exact Confines.map _ (scheduleOutboxRetry_confines houtbox _ _)
  | finalizeOutbox =>
      exact Confines.map _ (finalize_confines hfirst hcases hoperations _ _ _)
  | receiveInbox => exact Confines.map _ (receiveInboxIdempotently_confines hinbox _)
  | claimInbox => exact Confines.map _ (claimDueInbox_confines hinbox _ _ _ _ _)
  | renewInbox => exact Confines.map _ (renewInboxLease_confines hinbox _ _ _ _ _)
  | recoverInbox => exact Confines.map _ (recoverExpiredInboxLeases_confines hinbox _ _ _)
  | failInbox => exact Confines.map _ (markInboxFailed_confines hinbox _ _ _ _ _ _)
  | retryInbox =>
      exact Confines.map _ (scheduleInboxRetry_confines hinbox _ _ _ _ _ _ _ _)
  | finalizeOrderOperation =>
      apply Confines.map
      exact finalizeOrderOperation_confines (hcallback _).left (hcallback _).right _ _ _
  | finalizeSupportCase =>
      apply Confines.map
      exact finalizeSupportCase_confines (hcallback _).left (hcallback _).right _ _ _

theorem World.perform_respects (w : World) (j : Job) :
    Respects j.parts w.db (w.perform j).db := by
  unfold World.perform
  cases htx : j.transaction w.db with
  | error e => exact Respects.refl _
  | ok r => exact j.confines w.db r.1 r.2 htx

theorem Job.parts_spare (j : Job) : Part.confirmations ∉ j.parts ∧
    Part.commands ∉ j.parts ∧ Part.refunds ∉ j.parts := by
  cases j <;> simp [Job.parts]

/-!
## Staff
-/

section Staff

variable {F : List Part}

theorem getCaseOrRaise_confined (scope : AccessScope) (caseId : UUID) :
    Confined F (getCaseOrRaise scope caseId) Anything := by
  have hfind : Confines F (findCase scope caseId) :=
    Confines.bind (visibleCases_confines scope) fun _ => fetchCase_confines _
  apply Confined.bind (Confined.perform hfind)
  intro found _
  cases found with
  | some c => exact Confined.pure trivial
  | none => exact Confined.raise _

theorem updateCaseOrRetry_confined (hcases : Part.cases ∈ F) {scope : AccessScope}
    {key : String} {current updated : SupportCase} {event : SupportCaseEvent}
    {action : CaseServiceAction} {again : Call CaseServiceResult}
    (h : Confined F again Anything) :
    Confined F (updateCaseOrRetry scope key current updated event action again)
      Anything := by
  apply Confined.rescue
  · apply Confined.bind (Confined.perform (updateCaseWithEvent_confines hcases _ _ _ _))
    exact fun _ _ => Confined.pure trivial
  · intro e q hq
    split at hq
    · cases hq
      refine Confined.bind (Confined.perform (Confines.read _)) fun duplicate _ => ?_
      cases duplicate with
      | none => exact h
      | some event =>
          have hfind : Confines F (findCase scope event.caseId) :=
            Confines.bind (visibleCases_confines scope) fun _ => fetchCase_confines _
          refine Confined.bind (Confined.perform hfind) fun found _ => ?_
          cases found with
          | none => exact h
          | some c => exact Confined.pure trivial
    · cases hq
      exact h
    · cases hq

theorem replayedCase_confined {scope : AccessScope} {key : String}
    {run : Call CaseServiceResult} (h : Confined F run Anything) :
    Confined F (replayedCase scope key run) Anything := by
  refine Confined.bind (Confined.perform (Confines.read _)) fun previous _ => ?_
  cases previous with
  | none => exact h
  | some event =>
      exact Confined.bind (getCaseOrRaise_confined _ _) fun _ _ => Confined.pure trivial

theorem changeStatus_confined (hcases : Part.cases ∈ F) (scope : AccessScope)
    (caseId : UUID) (targetStatus : CaseStatus) (requestId : String)
    (onHoldReason : Option OnHoldReason) (clock : Nat -> Time) :
    Confined F (changeStatus scope caseId targetStatus requestId onHoldReason clock)
      Anything := by
  refine Confined.bind (Confined.require _ _) fun _ _ => ?_
  refine Confined.bind (Confined.done _) fun request _ => replayedCase_confined ?_
  generalize maxWriteAttempts = n
  induction n with
  | zero => exact Confined.raise _
  | succ n ih =>
      refine Confined.bind (getCaseOrRaise_confined _ _) fun current _ => ?_
      refine Confined.ite (Confined.pure trivial) ?_
      refine Confined.bind (Confined.require _ _) fun _ _ => ?_
      refine Confined.bind (Confined.require _ _) fun _ _ => ?_
      refine Confined.bind (Confined.require _ _) fun _ _ => ?_
      refine Confined.bind (Confined.require _ _) fun _ _ => ?_
      refine Confined.bind freshId_confined fun eventId _ => ?_
      exact updateCaseOrRetry_confined hcases ih

theorem assignCase_confined (hcases : Part.cases ∈ F) (scope : AccessScope)
    (directory : IdentityDirectory) (caseId : UUID) (agentId requestId : String)
    (clock : Nat -> Time) :
    Confined F (assignCase scope directory caseId agentId requestId clock) Anything := by
  refine Confined.bind (Confined.require _ _) fun _ _ => ?_
  refine Confined.bind (Confined.done _) fun agent _ => ?_
  refine Confined.bind (Confined.done _) fun request _ => replayedCase_confined ?_
  refine Confined.bind (getCaseOrRaise_confined _ _) fun _ _ => ?_
  refine Confined.bind (Confined.done _) fun _ _ => ?_
  generalize maxWriteAttempts = n
  induction n with
  | zero => exact Confined.raise _
  | succ n ih =>
      refine Confined.bind (getCaseOrRaise_confined _ _) fun current _ => ?_
      refine Confined.ite (Confined.pure trivial) ?_
      refine Confined.bind (Confined.require _ _) fun _ _ => ?_
      refine Confined.bind freshId_confined fun eventId _ => ?_
      exact updateCaseOrRetry_confined hcases ih

theorem answer_confines {α : Type} (r : Except Failure α) : Confines F (answer r) := by
  cases r with
  | ok a => exact Confines.pure a
  | error e => exact Confines.raise e

theorem redrive_confined {ρ : Type} {look : Database -> Option ρ}
    {validate : ρ -> Except Failure ProviderRedriveView} {tx : Tx ProviderRedriveView}
    {audit : UniqueConstraint} {missing : Failure} (h : Confines F tx) :
    Confined F ((replayOr look validate tx).rescue (redriveFailure audit do
      let row ← Program.perform (Transaction.fetch look missing)
      Program.done (validate row))) Anything := by
  apply Confined.rescue
  · refine Confined.bind (Confined.perform (Confines.read _)) fun replay _ => ?_
    cases replay with
    | some row => exact (Confined.done _).anything
    | none => exact Confined.perform h
  · intro e q hq
    unfold redriveFailure at hq
    split at hq
    · split at hq
      · cases hq
        apply Confined.bind (Confined.perform (Confines.fetch _ _))
        exact fun _ _ => (Confined.done _).anything
      · cases hq
        exact Confined.raise _
    · split at hq
      · cases hq
        exact Confined.raise _
      · cases hq

theorem insertCaseRedriveEvent_confines (hcases : Part.cases ∈ F) (scope : AccessScope)
    (caseId : UUID) (customerId : CleanText) (commandId : UUID)
    (request : ProviderRedriveRequest) (redriveId : UUID) (now : Time) :
    Confines F (insertCaseRedriveEvent scope caseId customerId commandId request redriveId
      now) :=
  Confines.bind newId_confines fun _ => insertCaseEvent_confines hcases _

theorem redriveAggregate_confines (hcases : Part.cases ∈ F)
    (hoperations : Part.operations ∈ F) (scope : AccessScope) (message : OutboxMessage)
    (request : ProviderRedriveRequest) (redriveId : UUID) (now : Time) :
    Confines F (redriveAggregate scope message request redriveId now) := by
  unfold redriveAggregate
  cases message.aggregateType with
  | orderOperation =>
      refine Confines.bind (Confines.fetch _ _) fun operation => ?_
      refine Confines.bind (Confines.require _ _) fun _ => ?_
      refine Confines.bind (Confines.fetch _ _) fun c => ?_
      refine Confines.bind (Confines.require _ _) fun _ => ?_
      refine Confines.bind (updateOperation_confines hoperations _ _ _) fun _ => ?_
      refine Confines.bind (Confines.require _ _) fun _ => ?_
      refine Confines.bind newId_confines fun eventId => ?_
      apply Confines.bind (insertOperationEvent_confines hoperations fun h => (by cases h))
      exact fun _ => insertCaseRedriveEvent_confines hcases _ _ _ _ _ _ _
  | supportCase =>
      refine Confines.bind (Confines.require _ _) fun _ => ?_
      refine Confines.bind (Confines.fetch _ _) fun c => ?_
      apply Confines.bind (Confines.require _ _)
      exact fun _ => insertCaseRedriveEvent_confines hcases _ _ _ _ _ _ _

theorem redriveOutbox_confined (houtbox : Part.outbox ∈ F) (hcases : Part.cases ∈ F)
    (hoperations : Part.operations ∈ F) (scope : AccessScope) (commandId : UUID)
    (request : ProviderRedriveRequest) (missed : Bool) (clock : Nat -> Time) :
    Confined F (redriveOutbox scope commandId request missed clock) Anything := by
  refine Confined.bind (Confined.require _ _) fun _ _ => redrive_confined ?_
  refine Confines.bind (Confines.fetch _ _) fun message => ?_
  refine Confines.bind (Confines.read _) fun replay => ?_
  cases replay with
  | some row => exact answer_confines _
  | none =>
      refine Confines.bind (Confines.read _) fun attempt => ?_
      refine Confines.bind (Confines.require _ _) fun _ => ?_
      refine Confines.bind newId_confines fun redriveId => ?_
      refine Confines.bind (redriveAggregate_confines hcases hoperations _ _ _ _ _)
        fun _ => ?_
      refine Confines.bind (updateOutbox_confines houtbox _ _ _) fun _ => ?_
      refine Confines.bind (Confines.require _ _) fun _ => ?_
      apply Confines.bind (insertOutboxRedrive_confines houtbox _)
      exact fun _ => Confines.pure _

theorem redriveInbox_confined (hinbox : Part.inbox ∈ F) (scope : AccessScope)
    (inboxId : UUID) (request : ProviderRedriveRequest) (missed : Bool)
    (clock : Nat -> Time) :
    Confined F (redriveInbox scope inboxId request missed clock) Anything := by
  refine Confined.bind (Confined.require _ _) fun _ _ => redrive_confined ?_
  refine Confines.bind (Confines.fetch _ _) fun message => ?_
  refine Confines.bind (Confines.read _) fun replay => ?_
  cases replay with
  | some row => exact answer_confines _
  | none =>
      refine Confines.bind (Confines.require _ _) fun _ => ?_
      refine Confines.bind newId_confines fun redriveId => ?_
      refine Confines.bind (updateInbox_confines hinbox _ _ _) fun _ => ?_
      refine Confines.bind (Confines.require _ _) fun _ => ?_
      apply Confines.bind (insertInboxRedrive_confines hinbox _)
      exact fun _ => Confines.pure _

end Staff

end RefundAgent
