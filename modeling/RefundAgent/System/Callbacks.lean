import RefundAgent.System.Reach

/-!
# Callbacks

What holds of the inbox in every run.  A callback may be claimed, expire, fail,
be retried and be redriven any number of times; its effect happens at most once,
because only a finalizer that marks it processed has one, and processed is final.
-/

namespace RefundAgent

open Foundation

/-!
## One finalizer call
-/

theorem Combination.of_inboxFinish {lo : OperationLabel} {lc : CaseLabel}
    {lx : OutboxLabel} {e : InboxEnding} {m : InboxMessage}
    {a : InboxProcessingAttempt}
    (h : Combination lo lc lx (InboxLabel.finish e m a)) :
    lo.events.length + lc.events.length ≤ 1 ∧
      (lo = OperationLabel.keep ∨
        exists o o' es, lo = OperationLabel.update Writer.callback o o' es) := by
  cases h with
  | inbox h => exact ⟨Nat.zero_le 1, Or.inl rfl⟩
  | callbackOperation h single => exact ⟨single, Or.inr ⟨_, _, _, rfl⟩⟩
  | callbackOnly => exact ⟨Nat.zero_le 1, Or.inl rfl⟩
  | callbackCase => exact ⟨Nat.le_refl 1, Or.inl rfl⟩

theorem OperationStep.events_length {l : OperationLabel} {t u : OperationTables}
    (h : OperationStep l t u) :
    u.events.rows.length = t.events.rows.length + l.events.length := by
  cases h with
  | keep => rfl
  | create insert free appended unused new =>
      rw [appended, List.length_append]
      rfl
  | @update _ events w o o' es get free appended unused change =>
      show events.rows.length = _
      rw [appended, List.length_append]
      rfl

theorem OperationStep.get_none {w : Writer} {o o' : OrderOperation}
    {es : List OrderOperationEvent} {t u : OperationTables}
    (h : OperationStep (OperationLabel.update w o o' es) t u) {id : UUID}
    (hnone : t.rows.get id = none) : u.rows.get id = none := by
  cases h with
  | update get free appended unused change =>
      show (t.rows.put o').get id = none
      rw [Table.get_put_ne]
      · exact hnone
      · intro hid
        rw [hid, operationId_of_frozen change.frozen, get] at hnone
        cases hnone

/-- The version of an operation, zero before it exists. -/
def Database.operationVersion (db : Database) (operationId : UUID) : Nat :=
  (db.operations.rows.get operationId).elim 0 OrderOperation.version

theorem OperationStep.version_le {w : Writer} {o o' : OrderOperation}
    {es : List OrderOperationEvent} {db db' : Database}
    (h : OperationStep (OperationLabel.update w o o' es) db.operations db'.operations)
    (id : UUID) : db'.operationVersion id ≤ db.operationVersion id + 1 := by
  have hrow := h.updated
  unfold Database.operationVersion
  cases hget : db.operations.rows.get id with
  | some r =>
      rcases h.get_cases hget with hsame | ⟨w', o₁, es', hl, hnew, _⟩
      · rw [hsame]
        exact Nat.le_succ _
      · cases hl
        rw [hnew]
        show o'.version ≤ o.version + 1
        rw [hrow.change.version]
  | none =>
      rw [h.get_none hget]
      exact Nat.zero_le _

/-- What a finalizer call leaves alone, and how little it can change. -/
structure CallbackEffect (claimed : ClaimedInboxMessage) (db db' : Database) :
    Prop where
  once : db'.operations.events.rows.length + db'.cases.events.rows.length ≤
    db.operations.events.rows.length + db.cases.events.rows.length + 1
  version : forall id, db'.operationVersion id ≤ db.operationVersion id + 1
  kept : ¬(db'.operations = db.operations ∧ db'.cases = db.cases) ->
    (exists m, db.inbox.messages.get claimed.inboxId = some m ∧
      m.status = InboxProcessingStatus.processing) ∧
    exists m, db'.inbox.messages.get claimed.inboxId = some m ∧
      m.status = InboxProcessingStatus.processed

theorem InboxEnding.processed_of_isProcessed {e : InboxEnding}
    (h : e.isProcessed = true) : exists now, e = InboxEnding.processed now := by
  cases e with
  | processed now => exact ⟨now, rfl⟩
  | _ => cases h

theorem InboxStep.finished {e : InboxEnding} {m : InboxMessage}
    {a : InboxProcessingAttempt} {t u : InboxTables}
    (h : InboxStep (InboxLabel.finish e m a) t u) :
    t.messages.get m.inboxId = some m ∧
      m.status = InboxProcessingStatus.processing ∧
      u.messages.get m.inboxId = some (e.message m) := by
  cases h with
  | finish get held getAttempt ofMessage isOpen allowed =>
      refine ⟨get, held, ?_⟩
      show (t.messages.put (e.message m)).get m.inboxId = _
      rw [← e.message_inboxId m]
      exact Table.get_put_self (by rw [e.message_inboxId]; exact get)

theorem CallbackFinished.effect {claimed : ClaimedInboxMessage}
    {result : InboxFinalizationResult} {l : Label} {db db' : Database}
    (h : CallbackFinished claimed result l db db') :
    CallbackEffect claimed db db' := by
  rcases h.ended with ⟨e, m, a, hinbox, hid, hprocessed⟩
  have hcombined := h.move.combined
  rw [hinbox] at hcombined
  rcases hcombined.of_inboxFinish with ⟨hcount, hoperation⟩
  refine ⟨?_, ?_, ?_⟩
  · rw [h.move.operation.events_length, h.move.case.events_eq, List.length_append]
    omega
  · intro id
    have hstep := h.move.operation
    rcases hoperation with hkeep | ⟨o, o', es, hupdate⟩
    · rw [hkeep] at hstep
      unfold Database.operationVersion
      rw [hstep.eq_of_keep]
      exact Nat.le_succ _
    · rw [hupdate] at hstep
      exact hstep.version_le id
  · intro hchanged
    have hstep := h.move.inbox
    rw [hinbox] at hstep
    rcases hstep.finished with ⟨hbefore, hheld, hafter⟩
    have happlied : ¬result.refused := by
      intro hrefused
      rcases h.refused hrefused with ⟨hop, hcase⟩
      refine hchanged ⟨?_, ?_⟩
      · have hkeep := h.move.operation
        rw [hop] at hkeep
        exact hkeep.eq_of_keep
      · have hkeep := h.move.case
        rw [hcase] at hkeep
        exact hkeep.eq_of_keep
    rcases InboxEnding.processed_of_isProcessed (hprocessed.mpr happlied) with ⟨now, rfl⟩
    rw [hid] at hbefore hafter
    exact ⟨⟨m, hbefore, hheld⟩, _, hafter, rfl⟩

theorem finalizer_effect {claimed : ClaimedInboxMessage}
    {retryAvailableAt now : Time} {db db' : Database}
    {result : InboxFinalizationResult}
    (h : finalizeOrderOperation claimed retryAvailableAt now db =
        Except.ok (result, db') ∨
      finalizeSupportCase claimed retryAvailableAt now db = Except.ok (result, db')) :
    CallbackEffect claimed db db' := by
  rcases h with h | h
  · rcases finalizeOrderOperation_spec h with ⟨l, hl, _⟩
    exact hl.effect
  · rcases finalizeSupportCase_spec h with ⟨l, hl, _⟩
    exact hl.effect

/-!
## Runs
-/

/-- The inbox event that a finalizer job is about. -/
def Event.finalizes (inboxId : UUID) : Event -> Bool
  | job (Job.finalizeOrderOperation claimed _ _) => decide (claimed.inboxId = inboxId)
  | job (Job.finalizeSupportCase claimed _ _) => decide (claimed.inboxId = inboxId)
  | _ => false

/-- The operation and case events that a stage adds. -/
def eventsWritten (x : Stage World Event) : Nat :=
  x.after.db.operations.events.rows.length + x.after.db.cases.events.rows.length -
    (x.before.db.operations.events.rows.length +
      x.before.db.cases.events.rows.length)

/-- By how much a stage raises the version of an operation. -/
def versionGain (operationId : UUID) (x : Stage World Event) : Nat :=
  x.after.db.operationVersion operationId - x.before.db.operationVersion operationId

/-- The stage changes the operation tables or the case tables. -/
def Effective (x : Stage World Event) : Prop :=
  ¬(x.after.db.operations = x.before.db.operations ∧
    x.after.db.cases = x.before.db.cases)

/-- The event has been processed, and the row is final. -/
def ProcessedKept (w w' : World) : Prop :=
  forall id m, w.db.inbox.messages.get id = some m ->
    m.status = InboxProcessingStatus.processed ->
    w'.db.inbox.messages.get id = some m

theorem GoodStage.processedKept {x : Stage World Event} (h : GoodStage x) :
    ProcessedKept x.before x.after := by
  intro id m hm hdone
  have hkey := Table.get_key hm
  refine h.did.moves.preserves (I := fun db => db.inbox.messages.get id = some m) ?_ hm
  intro l db db' _ hmove hget
  have hget' : db.inbox.messages.get m.inboxId = some m := by
    rw [hkey]
    exact hget
  have hkept := hmove.inbox.processed_kept hget' hdone
  rw [hkey] at hkept
  exact hkept

theorem GoodStage.callbackEffect {x : Stage World Event} (h : GoodStage x)
    {inboxId : UUID} (hx : x.event.finalizes inboxId = true) :
    x.after.db = x.before.db ∨ exists claimed : ClaimedInboxMessage,
      claimed.inboxId = inboxId ∧ CallbackEffect claimed x.before.db x.after.db := by
  have hstep := h.step
  cases hevent : x.event with
  | start =>
      rw [hevent] at hx
      cases hx
  | advance =>
      rw [hevent] at hx
      cases hx
  | job j =>
      rw [hevent] at hx hstep
      rw [hstep.after_job.left]
      unfold World.perform
      cases htx : j.transaction x.before.db with
      | error f => exact Or.inl rfl
      | ok r =>
          right
          cases j with
          | finalizeOrderOperation claimed retryAvailableAt now =>
              rcases Transaction.map_eq_ok.mp htx with ⟨result, db', hcall, rfl⟩
              exact ⟨claimed, of_decide_eq_true hx, finalizer_effect (Or.inl hcall)⟩
          | finalizeSupportCase claimed retryAvailableAt now =>
              rcases Transaction.map_eq_ok.mp htx with ⟨result, db', hcall, rfl⟩
              exact ⟨claimed, of_decide_eq_true hx, finalizer_effect (Or.inr hcall)⟩
          | _ => cases hx

theorem World.Runs.effective_once {stages : List (Stage World Event)} {w : World}
    (h : World.Runs stages w) (inboxId : UUID) :
    (stages.filter fun x => x.event.finalizes inboxId).Pairwise
      fun x y => Effective x -> ¬Effective y := by
  have hgood := h.good.right
  rcases h with ⟨ids, hrun⟩
  have hordered := hrun.ordered (R := ProcessedKept) (fun _ _ _ hm _ => hm)
    (fun h h' id m hm hd => h' id m (h id m hm hd) hd)
    (fun x hx => (hgood x hx).processedKept)
  refine List.Pairwise.imp_of_mem ?_ (hordered.filter _)
  intro x y hx hy hxy hxe hye
  rw [List.mem_filter] at hx hy
  rcases (hgood x hx.left).callbackEffect hx.right with hsame | ⟨c, hc, heffect⟩
  · exact hxe (by rw [hsame]; exact ⟨rfl, rfl⟩)
  rcases (hgood y hy.left).callbackEffect hy.right with hsame | ⟨d, hd, heffect'⟩
  · exact hye (by rw [hsame]; exact ⟨rfl, rfl⟩)
  rcases (heffect.kept hxe).right with ⟨m, hm, hdone⟩
  rcases (heffect'.kept hye).left with ⟨m', hm', hheld⟩
  have hkept := hxy _ m hm hdone
  rw [hc, ← hd, hm'] at hkept
  cases hkept
  rw [hdone] at hheld
  cases hheld

theorem World.Runs.callback_sums {stages : List (Stage World Event)} {w : World}
    (h : World.Runs stages w) (inboxId : UUID) :
    ((stages.filter fun x => x.event.finalizes inboxId).map eventsWritten).sum ≤ 1 ∧
      forall operationId, ((stages.filter fun x => x.event.finalizes inboxId).map
        (versionGain operationId)).sum ≤ 1 := by
  have heffect : forall x, x ∈ stages.filter (fun x => x.event.finalizes inboxId) ->
      x.after.db = x.before.db ∨ exists claimed : ClaimedInboxMessage,
        claimed.inboxId = inboxId ∧ CallbackEffect claimed x.before.db x.after.db := by
    intro x hx
    rw [List.mem_filter] at hx
    exact (h.good.right x hx.left).callbackEffect hx.right
  refine ⟨sum_le_one_of_pairwise ?_ ?_ (h.effective_once inboxId), fun operationId =>
    sum_le_one_of_pairwise ?_ ?_ (h.effective_once inboxId)⟩
  · intro x _ hx
    rcases not_not.mp hx with ⟨hops, hcases⟩
    unfold eventsWritten
    rw [hops, hcases]
    omega
  · intro x hx
    unfold eventsWritten
    rcases heffect x hx with hsame | ⟨_, _, heff⟩
    · rw [hsame]
      omega
    · have := heff.once
      omega
  · intro x _ hx
    rcases not_not.mp hx with ⟨hops, _⟩
    unfold versionGain Database.operationVersion
    rw [hops]
    omega
  · intro x hx
    unfold versionGain
    rcases heffect x hx with hsame | ⟨_, _, heff⟩
    · rw [hsame]
      omega
    · have := heff.version operationId
      omega

theorem callback_refused {tx : Tx InboxFinalizationResult} {db : Database}
    (claimed : ClaimedInboxMessage)
    (hspec : forall result db', tx db = Except.ok (result, db') ->
      exists l, CallbackFinished claimed result l db db')
    (h : forall result, (tx.commit db).1 = Except.ok result -> result.refused) :
    (tx.commit db).2.operations = db.operations ∧
      (tx.commit db).2.cases = db.cases := by
  rcases tx.commit_cases db with ⟨result, db', htx, hcommit⟩ | ⟨e, _, hcommit⟩
  · rw [hcommit] at h ⊢
    rcases hspec result db' htx with ⟨l, hl⟩
    rcases hl.refused (h result rfl) with ⟨hop, hcase⟩
    have hkeep := hl.move.operation
    have hkeep' := hl.move.case
    rw [hop] at hkeep
    rw [hcase] at hkeep'
    exact ⟨hkeep.eq_of_keep, hkeep'.eq_of_keep⟩
  · rw [hcommit]
    exact ⟨rfl, rfl⟩

/--
The effect of a callback happens at most once.  In every run, all finalizer
calls on one inbox event together write at most one operation or case event and
raise the version of an operation at most once; a finalizer call that raises, or
that reports `failed` or `retry_scheduled`, leaves both aggregates and their
events alone; and a callback of a support case never changes a case row.
-/
theorem callback_effect_at_most_once {stages : List (Stage World Event)} {w : World}
    (h : World.Runs stages w) :
    (forall inboxId,
      ((stages.filter fun x => x.event.finalizes inboxId).map eventsWritten).sum ≤ 1 ∧
        forall operationId, ((stages.filter fun x => x.event.finalizes inboxId).map
          (versionGain operationId)).sum ≤ 1) ∧
    (forall claimed retryAvailableAt now (db : Database) tx,
      tx = finalizeOrderOperation claimed retryAvailableAt now ∨
        tx = finalizeSupportCase claimed retryAvailableAt now ->
      (forall result, (Transaction.commit tx db).1 = Except.ok result ->
        result.refused) ->
      (Transaction.commit tx db).2.operations = db.operations ∧
        (Transaction.commit tx db).2.cases = db.cases) ∧
    (forall claimed retryAvailableAt now (db : Database),
      ((finalizeSupportCase claimed retryAvailableAt now).commit db).2.cases.rows =
        db.cases.rows) := by
  refine ⟨fun inboxId => h.callback_sums inboxId, ?_, ?_⟩
  · rintro claimed retryAvailableAt now db tx (rfl | rfl) hrefused
    · refine callback_refused claimed ?_ hrefused
      intro result db' htx
      rcases finalizeOrderOperation_spec htx with ⟨l, hl, _⟩
      exact ⟨l, hl⟩
    · refine callback_refused claimed ?_ hrefused
      intro result db' htx
      rcases finalizeSupportCase_spec htx with ⟨l, hl, _⟩
      exact ⟨l, hl⟩
  · intro claimed retryAvailableAt now db
    rcases Transaction.commit_cases
      (finalizeSupportCase claimed retryAvailableAt now) db with
      ⟨result, db', htx, hcommit⟩ | ⟨e, _, hcommit⟩
    · rw [hcommit]
      rcases finalizeSupportCase_spec htx with ⟨_, _, _, hrows⟩
      exact hrows
    · rw [hcommit]

/-- The provider reports that it has begun. -/
def sampleEvent : InboxMessage :=
  { inboxId := 100
    providerConnectionId := "connection"
    eventId := "event"
    tenantId := "acme"
    commandId := 4
    aggregateType := ProviderAggregateType.orderOperation
    aggregateId := 0
    payload :=
      { commandId := 4
        aggregateType := ProviderAggregateType.orderOperation
        aggregateId := 0
        commandStatus := ProviderCommandExecutionStatus.processing
        providerOperationId := none
        providerReference := none
        orderId := none
        occurredAt := 0 }
    rawBodySha256 := "0000000000000000000000000000000000000000000000000000000000000000"
    receivedAt := 0
    status := InboxProcessingStatus.received
    processingAttempts := 0
    processingCycle := 1
    attemptsInCycle := 0
    availableAt := 0
    leaseId := none
    leaseOwner := none
    leaseExpiresAt := none
    lastErrorCode := none
    lastErrorMessage := none
    updatedAt := 0
    processedAt := none
    failedAt := none }

def sampleInboxClaimed : World :=
  ((sampleFinalized sampleAccepted).perform (Job.receiveInbox sampleEvent)).perform
    (Job.claimInbox "worker" 1 30 [100] (fun _ _ => 0))

def sampleCallback : ClaimedInboxMessage :=
  { toInboxMessage := sampleInboxClaimed.db.inbox.messages.rows.head (by decide +kernel)
    attempt := sampleInboxClaimed.db.inbox.attempts.rows.head (by decide +kernel) }

def sampleProcessed : World :=
  sampleInboxClaimed.perform (Job.finalizeOrderOperation sampleCallback 0 0)

theorem sampleInboxClaimed_runs : exists stages, World.Runs stages sampleInboxClaimed := by
  rcases sampleFinalized_runs sampleAccepted with ⟨stages, hrun, _⟩
  have hfresh : (Job.receiveInbox sampleEvent).Admissible
      (sampleFinalized sampleAccepted).handles := fun hchecks =>
    ⟨hchecks, rfl, rfl, rfl, rfl, ⟨rfl, rfl, rfl⟩, ⟨rfl, rfl⟩, rfl, rfl, rfl⟩
  exact ⟨_, (hrun.job hfresh).job (j := Job.claimInbox "worker" 1 30 [100]
    (fun _ _ => 0)) trivial⟩

theorem sampleProcessed_runs : exists stages, World.Runs stages sampleProcessed := by
  rcases sampleInboxClaimed_runs with ⟨stages, hrun⟩
  exact ⟨_, hrun.job (j := Job.finalizeOrderOperation sampleCallback 0 0) trivial⟩

/-- A run in which the callback does have its effect. -/
theorem callback_effect_sample : exists stages, World.Runs stages sampleProcessed ∧
    sampleProcessed.db.operations.rows.rows.map OrderOperation.status =
      [OperationRecordStatus.processing] ∧
    ((stages.filter fun x => x.event.finalizes 100).map eventsWritten).sum ≤ 1 := by
  rcases sampleProcessed_runs with ⟨stages, hrun⟩
  exact ⟨stages, hrun, by decide +kernel,
    ((callback_effect_at_most_once hrun).left 100).left⟩

/-!
## Messages and attempts
-/

/--
The inbox invariant.  In every run the attempts of a message are numbered
`1..processing_attempts`, both counters agree with them, an attempt is open
exactly while the message is processing, the time stamps agree with the status,
and the received columns of a message never change.
-/
theorem inbox_sound_in_every_run {stages : List (Stage World Event)} {w : World}
    (h : World.Runs stages w) :
    InboxSound w.db.inbox ∧
      forall x, x ∈ stages -> forall id m, x.after.db.inbox.messages.get id = some m ->
        exists m', w.db.inbox.messages.get id = some m' ∧
          m'.toReceivedWebhook = m.toReceivedWebhook := by
  have hgood := h.good
  refine ⟨hgood.left.sound.inbox, ?_⟩
  intro x hx
  exact (h.later_stage hx).inbox

theorem inbox_sound_sample : exists stages m, World.Runs stages sampleProcessed ∧
    sampleProcessed.db.inbox.messages.rows = [m] ∧
    EventSound m (sampleProcessed.db.inbox.attemptsOf m.inboxId) := by
  rcases sampleProcessed_runs with ⟨stages, hrun⟩
  have hlength : sampleProcessed.db.inbox.messages.rows.length = 1 := by decide +kernel
  rcases List.length_eq_one_iff.mp hlength with ⟨m, hm⟩
  refine ⟨stages, m, hrun, hm, ?_⟩
  refine (inbox_sound_in_every_run hrun).left.events m ?_
  rw [hm]
  exact List.mem_cons_self

end RefundAgent
