import RefundAgent.System.Reach

/-!
# Commands and their operations

The two state machines agree in every reachable state.  The check that the
finalizer makes before it moves an operation therefore never fails, neither for
a worker that reports a result nor for the recovery of expired leases.
-/

namespace RefundAgent

open Foundation

/-- The error of `_finalize_operation` for an operation that is not its own. -/
def associationInvalid : Failure :=
  Failure.valueError "provider command operation association is invalid"

/-!
## Statements that raise something else
-/

section Avoids

open Transaction

theorem newId_avoids {e : Failure} : Avoids e newId := by
  intro db h
  cases h

theorem insertRow_avoids {ρ : Type} {key : ρ -> UUID} {e : Failure}
    (he : Failure.uniqueViolation UniqueConstraint.primaryKey ≠ e)
    (table : Database -> Table ρ UUID key)
    (store : Database -> Table ρ UUID key -> Database) (row : ρ) :
    Avoids e (insertRow table store row) := by
  intro db h
  unfold insertRow execute at h
  cases hins : (table db).insert? row with
  | none =>
      simp only [hins] at h
      exact he (Except.error.inj h)
  | some t =>
      simp only [hins] at h
      cases h

theorem updateOperation_avoids (operationId : UUID) (p : OrderOperation -> Bool)
    (f : OrderOperation -> OrderOperation) :
    Avoids associationInvalid (updateOperation operationId p f) := by
  intro db h
  unfold updateOperation at h
  split at h
  · cases h
  · split at h
    · split at h
      · cases h
      · split at h
        · cases h
        · cases h
    · cases h

theorem refuseCase_ne (db : Database) (c : SupportCase) :
    refuseCase db c ≠ some associationInvalid := by
  intro h
  unfold refuseCase at h
  split at h
  · cases h
  · rw [Option.map_eq_some_iff] at h
    rcases h with ⟨u, _, hu⟩
    cases hu

theorem updateCase_avoids (caseId : UUID) (p : SupportCase -> Bool)
    (f : SupportCase -> SupportCase) :
    Avoids associationInvalid (updateCase caseId p f) := by
  intro db h
  unfold updateCase at h
  split at h
  · cases h
  · split at h
    · split at h
      · rename_i e hrefused
        rw [Except.error.inj h] at hrefused
        exact refuseCase_ne _ _ hrefused
      · cases h
    · cases h

theorem insertCase_avoids (c : SupportCase) :
    Avoids associationInvalid (insertCase c) := by
  intro db h
  rcases bind_eq_error.mp h with h | ⟨refused, db', hread, h⟩
  · cases h
  · cases hread
    cases hrefused : refuseCase db c with
    | none =>
        simp only [hrefused] at h
        exact insertRow_avoids (by decide) _ _ _ db h
    | some e =>
        simp only [hrefused] at h
        rw [Except.error.inj h] at hrefused
        exact refuseCase_ne db c hrefused

theorem insertOperationEvent_avoids (e : OrderOperationEvent) :
    Avoids associationInvalid (insertOperationEvent e) :=
  Avoids.bind (Avoids.read _) fun _ => Avoids.bind (Avoids.require (by decide)) fun _ =>
    Avoids.bind (Avoids.require (by decide)) fun _ => insertRow_avoids (by decide) _ _ _

theorem insertCaseEvent_avoids (e : SupportCaseEvent) :
    Avoids associationInvalid (insertCaseEvent e) :=
  Avoids.bind (Avoids.read _) fun _ => Avoids.bind (Avoids.require (by decide)) fun _ =>
    insertRow_avoids (by decide) _ _ _

theorem insertCaseEventOnce_avoids (e : SupportCaseEvent) :
    Avoids associationInvalid (insertCaseEventOnce e) :=
  Avoids.bind (Avoids.read _) fun _ => Avoids.ite (insertCaseEvent_avoids e)
    (Avoids.pure ())

theorem caseFromRow_avoids (row : SupportCase) :
    Avoids associationInvalid (caseFromRow row) :=
  Avoids.bind (Avoids.require (by decide)) fun _ => Avoids.pure row

theorem operationFromRow_avoids (row : OrderOperation) :
    Avoids associationInvalid (operationFromRow row) := by
  unfold operationFromRow
  split
  · exact Avoids.pure _
  · exact Avoids.raise (by decide)

theorem parseReference_avoids {model : String} (reference : Option String)
    (hmodel : Failure.validationError model ≠ associationInvalid) :
    Avoids associationInvalid (parseReference model reference) := by
  unfold parseReference
  split
  · exact Avoids.pure _
  · split
    · exact Avoids.pure _
    · exact Avoids.raise hmodel

theorem leaseConflict_ne (id : UUID) : Failure.leaseConflict id ≠ associationInvalid := by
  intro h
  cases h

theorem lockClaimedCommand_avoids (claimed : ClaimedOutboxMessage) (now : Time) :
    Avoids associationInvalid (lockClaimedCommand claimed now) :=
  Avoids.bind (Avoids.fetch (leaseConflict_ne _)) fun _ =>
    Avoids.bind (Avoids.require (leaseConflict_ne _)) fun _ =>
      Avoids.bind (Avoids.fetch (leaseConflict_ne _)) fun _ =>
        Avoids.bind (Avoids.require (leaseConflict_ne _)) fun _ => Avoids.pure _

theorem ensureTechnicalReviewCase_avoids (claimed : ClaimedOutboxMessage)
    (o : OrderOperation) (now : Time) :
    Avoids associationInvalid (ensureTechnicalReviewCase claimed o now) := by
  refine Avoids.bind (Avoids.read _) ?_
  intro found
  cases found with
  | some row =>
      refine Avoids.bind (caseFromRow_avoids row) ?_
      intro existing
      refine Avoids.bind (updateCase_avoids _ _ _) ?_
      intro affected
      refine Avoids.bind (Avoids.require (leaseConflict_ne _)) ?_
      intro _
      refine Avoids.bind newId_avoids ?_
      intro eventId
      exact Avoids.bind (insertCaseEventOnce_avoids _) fun _ => Avoids.pure _
  | none =>
      refine Avoids.bind newId_avoids ?_
      intro caseId
      refine Avoids.bind newId_avoids ?_
      intro eventId
      refine Avoids.bind (insertCase_avoids _) ?_
      intro _
      exact Avoids.bind (insertCaseEvent_avoids _) fun _ => Avoids.pure _

theorem reviewCaseOf_avoids (claimed : ClaimedOutboxMessage) (o : OrderOperation)
    (newStatus : OperationRecordStatus) (now : Time) :
    Avoids associationInvalid (reviewCaseOf claimed o newStatus now) :=
  Avoids.ite (Avoids.bind (ensureTechnicalReviewCase_avoids claimed o now) fun _ =>
    Avoids.pure _) (Avoids.pure _)

theorem recordAttachedCase_avoids (claimed : ClaimedOutboxMessage) (o : OrderOperation)
    (newStatus : OperationRecordStatus) (supportCaseId : Option UUID) (now : Time) :
    Avoids associationInvalid
      (recordAttachedCase claimed o newStatus supportCaseId now) := by
  unfold recordAttachedCase
  cases supportCaseId with
  | none => exact Avoids.pure ()
  | some caseId =>
      exact Avoids.ite (Avoids.bind newId_avoids fun _ => insertOperationEvent_avoids _)
        (Avoids.pure ())

theorem finalizeCase_avoids (claimed : ClaimedOutboxMessage) (target : FinalTarget)
    (result : Option ProviderCommandResult) (now : Time) :
    Avoids associationInvalid (finalizeCase claimed target result now) := by
  refine Avoids.bind (Avoids.fetch (by decide)) ?_
  intro row
  refine Avoids.bind (caseFromRow_avoids row) ?_
  intro case
  refine Avoids.bind (Avoids.require (by decide)) ?_
  intro _
  refine Avoids.bind ?_ ?_
  · exact Avoids.ite (Avoids.bind (updateCase_avoids _ _ _) fun _ =>
      Avoids.require (leaseConflict_ne _)) (Avoids.pure ())
  · intro _
    refine Avoids.bind newId_avoids ?_
    intro eventId
    exact Avoids.bind (parseReference_avoids _ (by decide)) fun _ =>
      insertCaseEvent_avoids _

/-- What the guarded writes to a leased message raise by themselves. -/
def writeFailures : List Failure :=
  [Failure.valueError "error_code must not be blank",
    Failure.valueError "error_code must not exceed 500 characters",
    Failure.valueError "error_message must not be blank",
    Failure.valueError "error_message must not exceed 500 characters",
    Failure.valueError "retry_after_seconds must not be negative",
    Failure.checkViolation]

section Writes

variable {e : Failure} (he : forall f, f ∈ writeFailures -> f ≠ e)

include he

theorem validateErrorFields_avoids (errorCode errorMessage : Option String) :
    Avoids e (validateErrorFields errorCode errorMessage) := by
  refine Avoids.bind ?_ fun _ => ?_
  · cases errorCode with
    | none => exact Avoids.pure ()
    | some v =>
        exact Avoids.bind (Avoids.require (he _ (by decide))) fun _ =>
          Avoids.require (he _ (by decide))
  · cases errorMessage with
    | none => exact Avoids.pure ()
    | some v =>
        exact Avoids.bind (Avoids.require (he _ (by decide))) fun _ =>
          Avoids.require (he _ (by decide))

theorem updateDeliveryAttempts_avoids (p : OutboxDeliveryAttempt -> Bool)
    (f : OutboxDeliveryAttempt -> OutboxDeliveryAttempt)
    (hf : forall a, (f a).attemptId = a.attemptId) :
    Avoids e (updateDeliveryAttempts p f hf) :=
  Avoids.bind (Avoids.read _) fun _ =>
    Avoids.bind (Avoids.require (he _ (by decide))) fun _ =>
      Avoids.bind (Avoids.write _) fun _ => Avoids.pure _

theorem finishDeliveryAttempt_avoids (attemptId commandId leaseId : UUID)
    (workerId : String) (r : DeliveryAttemptResult) :
    Avoids e (finishDeliveryAttempt attemptId commandId leaseId workerId r) :=
  Avoids.bind (validateErrorFields_avoids he _ _) fun _ =>
    Avoids.bind (Avoids.require (he _ (by decide))) fun _ =>
      updateDeliveryAttempts_avoids he _ _ _

end Writes

theorem updateOutbox_avoids {e : Failure} (commandId : UUID) (p : OutboxMessage -> Bool)
    (f : OutboxMessage -> OutboxMessage) : Avoids e (updateOutbox commandId p f) := by
  intro db h
  unfold updateOutbox at h
  split at h
  · cases h
  · split at h
    · cases h
    · cases h

theorem updateOutboxTransition_avoids {e : Failure}
    (he : forall f, f ∈ writeFailures -> f ≠ e) (commandId leaseId : UUID)
    (leaseOwner : String) (t : OutboxTransition) :
    Avoids e (updateOutboxTransition commandId leaseId leaseOwner t) :=
  Avoids.bind (validateErrorFields_avoids he _ _) fun _ => updateOutbox_avoids _ _ _

theorem associationInvalid_notMem : forall f, f ∈ writeFailures -> f ≠ associationInvalid := by
  decide

end Avoids

/-!
## The check of the finalizer
-/

theorem finalizeOperation_association {claimed : ClaimedOutboxMessage}
    {target : FinalTarget} {result : Option ProviderCommandResult}
    {failureKind : Option ProviderFailureKind} {now : Time} {db : Database}
    (h : finalizeOperation claimed target result failureKind now db =
      Except.error associationInvalid) :
    exists row, db.operations.rows.get claimed.aggregateId = some row ∧
      ¬(row.tenantId = claimed.tenantId ∧ row.status = OperationRecordStatus.queued) := by
  unfold finalizeOperation at h
  rcases Transaction.bind_eq_error.mp h with h | ⟨row, db₁, hrow, h⟩
  · exact absurd h (Transaction.Avoids.fetch (by decide) db)
  · rw [Transaction.fetch_eq_ok] at hrow
    rcases hrow with ⟨hrow, rfl⟩
    rcases Transaction.bind_eq_error.mp h with h | ⟨o, db₂, hparsed, h⟩
    · exact absurd h (operationFromRow_avoids row db)
    · rw [operationFromRow_eq_ok] at hparsed
      rcases hparsed with ⟨hparsed, rfl⟩
      have ho : o = { row with
          providerReference := row.providerReference.map Text.trim } :=
        (OrderOperation.ofRow?_eq_some hparsed).left
      rcases Transaction.bind_eq_error.mp h with h | ⟨_, db₃, _, h⟩
      · refine ⟨row, hrow, ?_⟩
        have hbad := (Transaction.require_eq_error.mp h).left
        rw [ho] at hbad
        exact hbad
      · -- every later statement raises errors of its own
        refine absurd h (Transaction.Avoids.bind (reviewCaseOf_avoids _ _ _ _) ?_ db₃)
        intro caseId
        refine Transaction.Avoids.bind (updateOperation_avoids _ _ _) ?_
        intro affected
        refine Transaction.Avoids.bind
          (Transaction.Avoids.require (leaseConflict_ne _)) ?_
        intro _
        refine Transaction.Avoids.bind newId_avoids ?_
        intro eventId
        refine Transaction.Avoids.bind (parseReference_avoids _ (by decide)) ?_
        intro reference
        exact Transaction.Avoids.bind (insertOperationEvent_avoids _) fun _ =>
          recordAttachedCase_avoids _ _ _ _ _

theorem Sound.associated {db : Database} (h : Sound db) {claimed : ClaimedOutboxMessage}
    {m : OutboxMessage} {target : FinalTarget} {result : Option ProviderCommandResult}
    {failureKind : Option ProviderFailureKind} {now : Time}
    (hm : m ∈ db.outbox.messages.rows)
    (hheld : m.status = OutboxDeliveryStatus.processing)
    (hkind : claimed.aggregateType = ProviderAggregateType.orderOperation)
    (henv : m.toProviderCommandEnvelope = claimed.toProviderCommandEnvelope) :
    finalizeOperation claimed target result failureKind now db ≠
      Except.error associationInvalid := by
  intro herror
  rcases finalizeOperation_association herror with ⟨row, hrow, hbad⟩
  have hmkind : m.aggregateType = ProviderAggregateType.orderOperation :=
    (congrArg ProviderCommandEnvelope.aggregateType henv).trans hkind
  rcases h.coupled m hm hmkind with ⟨o, ho, hcoupled⟩
  rw [congrArg ProviderCommandEnvelope.aggregateId henv, hrow] at ho
  cases ho
  refine hbad ⟨?_, ?_⟩
  · exact hcoupled.tenant.trans (congrArg ProviderCommandEnvelope.tenantId henv)
  · refine hcoupled.waiting.mp ?_
    unfold OutboxMessage.undelivered
    rw [hheld]
    decide

theorem finalizerError_ne {message : String} {e : Failure}
    (h : finalizerError message e = associationInvalid) : e = associationInvalid := by
  unfold finalizerError at h
  split at h
  · cases h
  · exact h

theorem Sound.finalize_associated {db : Database} (h : Sound db)
    {claimed : ClaimedOutboxMessage} (hgenuine : claimed.Genuine db) (f : Finalization)
    (now : Time) : finalize claimed f now db ≠ Except.error associationInvalid := by
  intro hraised
  unfold finalize at hraised
  rcases Transaction.translate_eq_error.mp hraised with ⟨e, hbody, he⟩
  rw [finalizerError_ne he] at hbody
  rcases Transaction.bind_eq_error.mp hbody with hfetch | ⟨leaseId, db₁, hid, hfrom₁⟩
  · exact Transaction.Avoids.fetch (by decide) db hfetch
  rcases Transaction.fetch_eq_ok.mp hid with ⟨_, hdb₁⟩
  rcases Transaction.bind_eq_error.mp hfrom₁ with hfetch | ⟨leaseOwner, db₂, ho, hfrom₂⟩
  · exact Transaction.Avoids.fetch (by decide) db₁ hfetch
  rcases Transaction.fetch_eq_ok.mp ho with ⟨_, hdb₂⟩
  rcases Transaction.bind_eq_error.mp hfrom₂ with hlock | ⟨now', db₃, hlock, hfrom₃⟩
  · exact lockClaimedCommand_avoids claimed now db₂ hlock
  rcases lockClaimedCommand_held hlock with ⟨hdb₃, m, hm, hheld⟩
  have hsame : db₃ = db := by
    rw [hdb₃, ← show db₁ = db₂ from hdb₂, ← show db = db₁ from hdb₁]
  rw [hsame] at hfrom₃
  rw [← hdb₃, hsame] at hm
  rcases hgenuine with ⟨m', hm', henv⟩
  rw [hm] at hm'
  cases hm'
  rcases Transaction.bind_eq_error.mp hfrom₃ with haggregate | ⟨_, db₄, _, hrest⟩
  · unfold finalizeAggregate at haggregate
    cases hkind : claimed.aggregateType with
    | orderOperation =>
        rw [hkind] at haggregate
        exact h.associated (Table.mem_of_get hm) hheld hkind henv haggregate
    | supportCase =>
        rw [hkind] at haggregate
        exact finalizeCase_avoids _ _ _ _ _ haggregate
  · refine Transaction.Avoids.bind (finishDeliveryAttempt_avoids
      associationInvalid_notMem _ _ _ _ _) ?_ db₄ hrest
    intro finished
    refine Transaction.Avoids.bind (Transaction.Avoids.require (leaseConflict_ne _)) ?_
    intro _
    exact Transaction.Avoids.bind (updateOutboxTransition_avoids
      associationInvalid_notMem _ _ _ _) fun _ =>
      Transaction.Avoids.require (leaseConflict_ne _)

theorem Sound.recovery_associated {db : Database} (h : Sound db)
    {clock : UUID -> Nat -> Time} {row : OutboxMessage}
    (hrow : db.outbox.messages.get row.commandId = some row)
    (hheld : row.status = OutboxDeliveryStatus.processing) :
    recoverOutboxRow clock row db ≠ Except.error associationInvalid := by
  intro hraised
  unfold recoverOutboxRow at hraised
  rcases Transaction.bind_eq_error.mp hraised with hfetch | ⟨attempt, db₁, hid, hfrom₁⟩
  · exact Transaction.Avoids.fetch (leaseConflict_ne _) db hfetch
  rcases Transaction.fetch_eq_ok.mp hid with ⟨_, hdb₁⟩
  rw [← show db = db₁ from hdb₁] at hfrom₁
  rcases Transaction.bind_eq_error.mp hfrom₁ with haggregate | ⟨_, db₂, _, hrest⟩
  · unfold recoverAggregate at haggregate
    split at haggregate
    · rename_i hlast
      rcases Transaction.bind_eq_error.mp haggregate with hinvalid | ⟨_, db₃, hok, hlater⟩
      · exact Transaction.Avoids.require (by decide) db hinvalid
      · rw [Transaction.require_eq_ok] at hok
        rw [← show db = db₃ from congrArg Prod.snd hok.right] at hlater
        exact h.associated (Table.mem_of_get hrow) hheld hlast.right rfl hlater
    · cases haggregate
  · refine Transaction.Avoids.bind (updateDeliveryAttempts_avoids
      associationInvalid_notMem _ _ _) ?_ db₂ hrest
    intro finished
    refine Transaction.Avoids.bind (Transaction.Avoids.require (leaseConflict_ne _)) ?_
    intro _
    exact Transaction.Avoids.bind (updateOutbox_avoids _ _ _) fun _ =>
      Transaction.Avoids.pure ()

theorem Sound.recoveries_associated {db : Database} (h : Sound db) (batchSize : Nat)
    (scan : List UUID) (clock : UUID -> Nat -> Time) :
    Transaction.forEach (expiredOutbox db scan clock batchSize)
      (recoverOutboxRow clock) db ≠ Except.error associationInvalid := by
  refine Transaction.forEach_avoids
    (P := fun m d => Sound d ∧ d.outbox.messages.get m.commandId = some m ∧
      m.status = OutboxDeliveryStatus.processing)
    (D := fun a b => a.commandId ≠ b.commandId) ?_ ?_ (expiredOutbox_pairwise _ _ _ _) ?_
  · intro m d hm
    exact hm.left.recovery_associated hm.right.left hm.right.right
  · intro m d u d' hm hbody other hne hother
    rcases recoverOutboxRow_move hbody hm.right.left hm.right.right with
      ⟨l, a, now, first, second, hmove, _, _, hput⟩
    refine ⟨hmove.sound hm.left, ?_, hother.right.right⟩
    rw [hput, Table.get_put_ne]
    · exact hother.right.left
    · rw [Ending.message_commandId]
      exact Ne.symm hne
  · intro m hm
    exact ⟨h, expiredOutbox_held hm⟩

/-!
## The coupling
-/

/--
Operations and their commands agree in every reachable state, and the error that
`_finalize_operation` raises for an operation that is not queued is never raised:
not through any handle that a claim has returned, and not by lease recovery.
-/
theorem operation_outbox_coupled {w : World} (h : w.Reachable) :
    (forall m, m ∈ w.db.outbox.messages.rows ->
      m.aggregateType = ProviderAggregateType.orderOperation ->
      exists o, w.db.operations.rows.get m.aggregateId = some o ∧
        ((m.status = OutboxDeliveryStatus.pending ∨
          m.status = OutboxDeliveryStatus.processing ∨
          m.status = OutboxDeliveryStatus.retryScheduled) ↔
            o.status = OperationRecordStatus.queued) ∧
        (m.status = OutboxDeliveryStatus.published ->
          o.status = OperationRecordStatus.submitted ∨
            o.status = OperationRecordStatus.processing ∨
            o.status = OperationRecordStatus.completed ∨
            o.status = OperationRecordStatus.rejected) ∧
        (m.status = OutboxDeliveryStatus.dead ->
          m.lastFailureKind = some ProviderFailureKind.providerRejection ->
          o.status = OperationRecordStatus.rejected) ∧
        (m.status = OutboxDeliveryStatus.dead ->
          m.lastFailureKind ≠ some ProviderFailureKind.providerRejection ->
          o.status = OperationRecordStatus.manualReview ∧
            o.requiresManualReview = true ∧ o.supportCaseId.isSome = true)) ∧
    (forall claimed f now, claimed ∈ w.handles ->
      finalize claimed f now w.db ≠ Except.error associationInvalid) ∧
    (forall batchSize scan clock,
      Transaction.forEach (expiredOutbox w.db scan clock batchSize)
        (recoverOutboxRow clock) w.db ≠ Except.error associationInvalid) := by
  rcases h with ⟨stages, hrun⟩
  have hgood := hrun.good.left
  refine ⟨?_, ?_, hgood.sound.recoveries_associated⟩
  · intro m hm hkind
    rcases hgood.sound.coupled m hm hkind with ⟨o, ho, hcoupled⟩
    refine ⟨o, ho, ?_, hcoupled.published, hcoupled.rejected, ?_⟩
    · rw [← hcoupled.waiting]
      unfold OutboxMessage.undelivered
      rw [decide_eq_true_eq]
    · intro hdead hcause
      rcases hcoupled.reviewed hdead hcause with ⟨hstatus, hreview, c, hc, _⟩
      refine ⟨hstatus, hreview, ?_⟩
      rw [hc]
      rfl
  · intro claimed f now hclaimed
    exact hgood.sound.finalize_associated (hgood.genuine claimed hclaimed) f now

theorem operation_outbox_coupled_sample : exists m o,
    (sampleFinalized sampleAccepted).db.outbox.messages.rows = [m] ∧
    m.status = OutboxDeliveryStatus.published ∧
    (sampleFinalized sampleAccepted).db.operations.rows.get m.aggregateId = some o ∧
    (o.status = OperationRecordStatus.submitted ∨
      o.status = OperationRecordStatus.processing ∨
      o.status = OperationRecordStatus.completed ∨
      o.status = OperationRecordStatus.rejected) := by
  rcases sampleFinalized_runs sampleAccepted with ⟨stages, hrun, _⟩
  have hlength : (sampleFinalized sampleAccepted).db.outbox.messages.rows.length = 1 := by
    decide +kernel
  have hstatus : forall m, m ∈ (sampleFinalized sampleAccepted).db.outbox.messages.rows ->
      m.status = OutboxDeliveryStatus.published ∧
        m.aggregateType = ProviderAggregateType.orderOperation := by
    decide +kernel
  generalize sampleFinalized sampleAccepted = w at hrun hlength hstatus ⊢
  rcases List.length_eq_one_iff.mp hlength with ⟨m, hm⟩
  have hmem : m ∈ w.db.outbox.messages.rows := by
    rw [hm]
    exact List.mem_cons_self
  rcases hstatus m hmem with ⟨hpublished, hkind⟩
  rcases (operation_outbox_coupled ⟨stages, hrun⟩).left m hmem hkind with
    ⟨o, ho, _, hagrees, _⟩
  exact ⟨m, o, hm, hpublished, ho, hagrees hpublished⟩

end RefundAgent
