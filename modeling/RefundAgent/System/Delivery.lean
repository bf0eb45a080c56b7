import RefundAgent.System.Reach

/-!
# The delivery of commands

What every run keeps of a command and its attempts, and what a command that has
died leaves on its aggregate.  Two of the properties one would expect depend on
what the provider answers and on who finds the expired lease; both conditions
are named here.
-/

namespace RefundAgent

open Foundation

theorem Event.finish_cases {db : Database} {x : Event} {l : Label} {e : Ending}
    {m : OutboxMessage} {a : OutboxDeliveryAttempt} (hl : x.permits db l)
    (hfinish : l.outbox = OutboxLabel.finish e m a) :
    (exists claimed verdict now now',
      x = Event.job (Job.finalizeOutbox claimed verdict now) ∧
        e = Ending.finalized verdict now') ∨
    (exists retry now, e = Ending.retried retry now) ∨
    (exists batchSize scan clock now first second,
      x = Event.job (Job.recoverOutbox batchSize scan clock) ∧
        m ∈ expiredOutbox db scan clock batchSize ∧
        e = expiryOf m now first second) := by
  cases x with
  | start => cases hl
  | advance =>
      have hno := hl.left
      rw [hfinish] at hno
      exact absurd trivial hno
  | job j =>
      cases j with
      | claimOutbox workerId batchSize leaseSeconds scan clock =>
          rcases hl with ⟨m', m'', a', hlabel⟩
          rw [hlabel] at hfinish
          cases hfinish
      | renewOutbox commandId leaseId leaseOwner leaseSeconds clock =>
          rcases hl with ⟨m', m'', hlabel⟩
          rw [hlabel] at hfinish
          cases hfinish
      | recoverOutbox batchSize scan clock =>
          rcases hl with ⟨m', a', now, first, second, hm, hlabel, _⟩
          rw [hlabel] at hfinish
          cases hfinish
          exact Or.inr (Or.inr ⟨batchSize, scan, clock, now, first, second, rfl, hm, rfl⟩)
      | retryOutbox retry now =>
          rcases hl with ⟨m', a', hlabel⟩
          rw [hlabel] at hfinish
          cases hfinish
          exact Or.inr (Or.inl ⟨retry, now, rfl⟩)
      | finalizeOutbox claimed verdict now =>
          rcases hl with ⟨_, now', m', a', hlabel, _⟩
          rw [hlabel] at hfinish
          cases hfinish
          exact Or.inl ⟨claimed, verdict, now, now', rfl, rfl⟩
      | finalizeOrderOperation claimed retryAvailableAt now =>
          rw [show l.outbox = OutboxLabel.keep from hl.left] at hfinish
          cases hfinish
      | finalizeSupportCase claimed retryAvailableAt now =>
          rw [show l.outbox = OutboxLabel.keep from hl.left] at hfinish
          cases hfinish
      | receiveInbox incoming =>
          rw [show l = { inbox := InboxLabel.receive incoming } from hl] at hfinish
          cases hfinish
      | _ =>
          rw [hl.right.right.left] at hfinish
          cases hfinish

/-!
## Commands and attempts
-/

/-- The provider's operation id, where the result has one, is not blank. -/
def Verdict.identified (v : Verdict) : Bool :=
  (v.finalization.providerResult.bind fun r => r.providerOperationId).all textAccepted

def Event.identified : Event -> Bool
  | job (Job.finalizeOutbox _ verdict _) => verdict.identified
  | _ => true

/-- Every attempt has an operation id that its validator accepts, or none. -/
def Identified (db : Database) : Prop :=
  forall a, a ∈ db.outbox.attempts.rows ->
    a.providerOperationId.all textAccepted = true

theorem OutboxStep.attempt_origin {l : OutboxLabel} {t u : OutboxTables}
    (h : OutboxStep l t u) {a : OutboxDeliveryAttempt} (ha : a ∈ u.attempts.rows) :
    a ∈ t.attempts.rows ∨ a.providerOperationId = none ∨
      exists e m b, l = OutboxLabel.finish e m b ∧ b ∈ t.attempts.rows ∧
        a = e.attempt b := by
  cases h with
  | keep => exact Or.inl ha
  | queue valid free insert => exact Or.inl ha
  | claim get due worker insert =>
      rw [(Table.insert?_eq_some.mp insert).right] at ha
      rcases List.mem_append.mp ha with ha | ha
      · exact Or.inl ha
      · rw [List.mem_singleton.mp ha]
        exact Or.inr (Or.inl rfl)
  | renew get held => exact Or.inl ha
  | @finish _ e m b get held getAttempt ofCommand isOpen allowed checks =>
      rcases Table.mem_put ha with rfl | ⟨ha, _⟩
      · exact Or.inr (Or.inr ⟨e, m, b, rfl, Table.mem_of_get getAttempt, rfl⟩)
      · exact Or.inl ha
  | redrive get dead insert audit => exact Or.inl ha

theorem Move.identified {x : Event} {l : Label} {db d d' : Database}
    (hl : x.permits db l) (h : Move l d d') (hx : x.identified = true)
    (hd : Identified d) : Identified d' := by
  intro a ha
  rcases h.outbox.attempt_origin ha with ha | hnone | ⟨e, m, b, hlabel, hb, rfl⟩
  · exact hd a ha
  · rw [hnone]
    rfl
  · rcases Event.finish_cases hl hlabel with ⟨c, v, now, now', rfl, rfl⟩ |
      ⟨retry, now, rfl⟩ | ⟨n, scan, clock, now, first, second, _, _, rfl⟩
    · exact hx
    · rfl
    · rw [expiryOf_attempt]
      exact hd b hb

theorem World.Runs.identified {stages : List (Stage World Event)} {w : World}
    (h : World.Runs stages w)
    (hx : forall x, x ∈ stages -> x.event.identified = true) : Identified w.db := by
  have hgood := h.good.right
  rcases h with ⟨ids, hrun⟩
  refine (hrun.invariant (I := fun w => Identified w.db)
    (C := fun x => GoodStage x ∧ x.event.identified = true) ?_ ?_ ?_).left
  · rintro x ⟨hstage, hident⟩ _ hbefore
    refine hstage.did.moves.preserves (I := Identified) ?_ hbefore
    intro l d d' hl hmove hd
    exact hmove.identified hl hident hd
  · intro a ha
    cases ha
  · exact fun x hmem => ⟨hgood x hmem, hx x hmem⟩

/--
The outbox invariant.  In every run the attempts of every cycle of a command are
numbered from one, those of the current cycle up to `attempts_in_cycle`, which is
at most eight; an attempt is open exactly while the message is processing and
then carries its lease; the lease and the time stamps agree with the status; and
the message passes its validator.  The attempts pass theirs as long as no result
with a blank operation id has been finalized.
-/
theorem outbox_sound_in_every_run {stages : List (Stage World Event)} {w : World}
    (h : World.Runs stages w)
    (hident : forall x, x ∈ stages -> x.event.identified = true) :
    (forall m, m ∈ w.db.outbox.messages.rows ->
      CommandSound m (w.db.outbox.attemptsOf m.commandId) ∧ m.valid = true) ∧
    (forall a, a ∈ w.db.outbox.attempts.rows -> a.valid = true ∧
      exists m, w.db.outbox.messages.get a.commandId = some m) := by
  have hsound := h.good.left.sound.outbox
  have hids := h.identified hident
  refine ⟨?_, ?_⟩
  · intro m hm
    have hcommand := hsound.commands m hm
    exact ⟨hcommand, hcommand.marked.valid hcommand.numbered.positive⟩
  · intro a ha
    exact ⟨(hsound.attempts a ha).left.valid (hids a ha), (hsound.attempts a ha).right⟩

theorem outbox_sound_sample : exists stages a,
    World.Runs stages (sampleFinalized sampleAccepted) ∧
    (sampleFinalized sampleAccepted).db.outbox.attempts.rows = [a] ∧
    a.isOpen = false ∧ a.valid = true := by
  rcases sampleFinalized_runs sampleAccepted with ⟨stages, hrun, hevents⟩
  have hlength : (sampleFinalized sampleAccepted).db.outbox.attempts.rows.length = 1 := by
    decide +kernel
  have hclosed : forall a, a ∈ (sampleFinalized sampleAccepted).db.outbox.attempts.rows ->
      a.isOpen = false := by
    decide +kernel
  have hident : forall x, x ∈ stages -> x.event.identified = true := by
    intro x hx
    rcases hevents x hx with hcall | hclaim | hfinal
    · cases hevent : x.event with
      | job j =>
          rw [hevent] at hcall
          cases hcall
      | start => rfl
      | advance => rfl
    · rw [hclaim]
      rfl
    · rw [hfinal]
      decide
  generalize sampleFinalized sampleAccepted = w at hrun hlength hclosed ⊢
  rcases List.length_eq_one_iff.mp hlength with ⟨a, ha⟩
  have hmem : a ∈ w.db.outbox.attempts.rows := by
    rw [ha]
    exact List.mem_cons_self
  exact ⟨stages, a, hrun, ha, hclosed a hmem,
    ((outbox_sound_in_every_run hrun hident).right a hmem).left⟩

/-- A provider that answers with a tab for its operation id. -/
def sampleBlank : Verdict :=
  Verdict.accepted
    { commandId := 4
      providerOperationId := some "\t"
      providerReference := none
      status := ProviderCommandAcceptanceStatus.accepted
      receivedAt := 0
      nonEmpty := by decide }

/-- The database stores the answer, and the stored attempt fails its validator. -/
theorem blank_operation_id_stored :
    ¬forall stages w, World.Runs stages w ->
      forall a, a ∈ w.db.outbox.attempts.rows -> a.valid = true := by
  intro h
  rcases sampleFinalized_runs sampleBlank with ⟨stages, hrun, _⟩
  have hinvalid : ¬forall a, a ∈ (sampleFinalized sampleBlank).db.outbox.attempts.rows ->
      a.valid = true := by
    decide +kernel
  exact hinvalid (h stages _ hrun)

/-!
## Dead commands
-/

structure InvestigationMarked (t : CaseTables) (m : OutboxMessage) (c : SupportCase) :
    Prop where
  get : t.rows.get m.aggregateId = some c
  reason : HandoffReason.providerDeliveryFailed ∈ c.reasonCodes
  event : exists ev, ev ∈ t.events.rows ∧ ev.caseId = c.caseId ∧
    ev.eventType = CaseEventType.providerUpdate ∧
    ev.providerCommandId = some m.commandId ∧
    ev.idempotencyKey = deliveryKey m.commandId m.deliveryCycle "rejected"

structure OperationMarked (db : Database) (m : OutboxMessage) (o : OrderOperation)
    (c : SupportCase) : Prop where
  get : db.operations.rows.get m.aggregateId = some o
  status : o.status = OperationRecordStatus.manualReview
  linked : o.supportCaseId = some c.caseId
  getCase : db.cases.rows.get c.caseId = some c
  reason : HandoffReason.providerDeliveryFailed ∈ c.reasonCodes

/-- Dead, and not because the provider has rejected the command. -/
def OutboxMessage.technicallyDead (m : OutboxMessage) : Prop :=
  m.status = OutboxDeliveryStatus.dead ∧
    m.lastFailureKind ≠ some ProviderFailureKind.providerRejection

/-- Every command that is dead for a technical reason shows on its aggregate. -/
def Surfaced (db : Database) : Prop :=
  forall m, m ∈ db.outbox.messages.rows -> m.technicallyDead ->
    match m.aggregateType with
    | ProviderAggregateType.orderOperation => exists o c, OperationMarked db m o c
    | ProviderAggregateType.supportCase => exists c, InvestigationMarked db.cases m c

/-- Every dead command of a delivery investigation shows on its case. -/
def InvestigationsMarked (db : Database) : Prop :=
  forall m, m ∈ db.outbox.messages.rows -> m.status = OutboxDeliveryStatus.dead ->
    m.aggregateType = ProviderAggregateType.supportCase ->
    exists c, InvestigationMarked db.cases m c

theorem InvestigationMarked.of_caseStep {l : CaseLabel} {t u : CaseTables}
    {m : OutboxMessage} {c : SupportCase} (h : InvestigationMarked t m c)
    (hstep : CaseStep l t u) : exists c', InvestigationMarked u m c' := by
  rcases hstep.reasons_kept h.get with ⟨c', hc', hfrozen, hreasons⟩
  rcases h.event with ⟨ev, hev, hcase, hkind, hcommand, hkey⟩
  refine ⟨c', hc', hreasons _ h.reason, ev, ?_, ?_, hkind, hcommand, hkey⟩
  · rw [hstep.events_eq]
    exact List.mem_append_left _ hev
  · rw [hcase, caseId_of_frozen hfrozen]

theorem CaseSettled.marked {e : Ending} {m : OutboxMessage} {c : SupportCase}
    {ev : SupportCaseEvent} {l : CaseLabel} {t u : CaseTables}
    (h : CaseSettled e m c ev l) (hstep : CaseStep l t u)
    (hdead : (e.message m).status = OutboxDeliveryStatus.dead) :
    InvestigationMarked u (e.message m) c := by
  have hresult : l.result = some c := by
    rcases h.label with rfl | ⟨c₀, rfl⟩
    · rfl
    · rfl
  have hevent : ev ∈ l.events := by
    rcases h.label with rfl | ⟨c₀, rfl⟩
    · exact List.mem_cons_self
    · exact List.mem_cons_self
  rcases h.finalized with ⟨v, now, rfl, hkey, hreason, _⟩
  have htarget : v.finalization.target = FinalTarget.dead := by
    have hstatus : v.finalization.target.status = OutboxDeliveryStatus.dead := hdead
    cases htarget : v.finalization.target with
    | published =>
        rw [htarget] at hstatus
        cases hstatus
    | dead => rfl
  rw [htarget] at hkey
  refine ⟨?_, hreason htarget, ev, ?_, h.event.left, h.event.right.left,
    h.event.right.right, hkey⟩
  · show u.rows.get m.aggregateId = some c
    rw [← h.case]
    exact hstep.get_result hresult
  · rw [hstep.events_eq]
    exact List.mem_append_right _ hevent

/-- The move does not abandon a delivery investigation. -/
def Label.keepsInvestigations (l : Label) : Prop :=
  forall now deadAt updatedAt m a,
    l.outbox = OutboxLabel.finish (Ending.exhausted now deadAt updatedAt) m a ->
    m.aggregateType ≠ ProviderAggregateType.supportCase

theorem OutboxStep.finish_of_dead {l : OutboxLabel} {t u : OutboxTables}
    (h : OutboxStep l t u) {m : OutboxMessage} (hm : l.result = some m)
    (hdead : m.status = OutboxDeliveryStatus.dead) :
    exists e m₀ a, l = OutboxLabel.finish e m₀ a ∧ m = e.message m₀ := by
  cases h with
  | keep => cases hm
  | queue valid free insert =>
      cases hm
      cases hdead
  | claim get due worker insert =>
      cases hm
      cases hdead
  | renew get held =>
      cases hm
      have hheld : OutboxDeliveryStatus.processing = OutboxDeliveryStatus.dead :=
        held.symm.trans hdead
      cases hheld
  | @finish _ e m₀ a get held getAttempt ofCommand isOpen allowed checks =>
      cases hm
      exact ⟨e, m₀, a, rfl, rfl⟩
  | redrive get dead insert audit =>
      cases hm
      cases hdead

theorem Move.marked_new {l : Label} {db db' : Database} (h : Move l db db')
    (hl : l.keepsInvestigations) {m : OutboxMessage} (hm : l.outbox.result = some m)
    (hdead : m.status = OutboxDeliveryStatus.dead)
    (hkind : m.aggregateType = ProviderAggregateType.supportCase) :
    exists c, InvestigationMarked db'.cases m c := by
  rcases h.outbox.finish_of_dead hm hdead with ⟨e, m₀, a, hlabel, rfl⟩
  have hsame : m₀.aggregateType = ProviderAggregateType.supportCase := by
    rw [← hkind]
    exact (congrArg ProviderCommandEnvelope.aggregateType (e.message_envelope m₀)).symm
  have hcase := h.case
  have hcombined := h.combined
  rw [hlabel] at hcombined
  generalize l.operation = lo at hcombined
  generalize l.case = lc at hcase hcombined
  generalize l.inbox = li at hcombined
  cases hcombined with
  | reschedule _ _ hsettles =>
      cases e with
      | finalized v now => cases hsettles
      | retried r now => cases hdead
      | expired now availableAt updatedAt => cases hdead
      | exhausted now deadAt updatedAt => cases hsettles
  | abandonCase _ hcasekind => exact absurd hcasekind (hl _ _ _ _ _ hlabel)
  | settleOperation _ hsettled _ =>
      rw [hsettled.kind] at hsame
      cases hsame
  | settleCase _ hsettled => exact ⟨_, hsettled.marked hcase hdead⟩

theorem Move.investigationsMarked {l : Label} {db db' : Database} (h : Move l db db')
    (hl : l.keepsInvestigations) (hdb : InvestigationsMarked db) :
    InvestigationsMarked db' := by
  intro m hm hdead hkind
  rcases h.outbox.origin hm with hresult | ⟨hold, _⟩
  · exact h.marked_new hl hresult hdead hkind
  · rcases hdb m hold hdead hkind with ⟨c, hc⟩
    exact hc.of_caseStep h.case

/--
The recoveries of the run find no delivery investigation on its eighth attempt.
-/
def KeepsInvestigations (x : Stage World Event) : Prop :=
  forall batchSize scan clock m,
    x.event = Event.job (Job.recoverOutbox batchSize scan clock) ->
    m ∈ expiredOutbox x.before.db scan clock batchSize ->
    m.aggregateType = ProviderAggregateType.supportCase -> m.attemptsInCycle < 8

theorem KeepsInvestigations.label {x : Stage World Event} (h : KeepsInvestigations x)
    {l : Label} (hl : x.event.permits x.before.db l) : l.keepsInvestigations := by
  intro now deadAt updatedAt m a hlabel hkind
  rcases Event.finish_cases hl hlabel with ⟨c, v, now, now', _, he⟩ | ⟨retry, now, he⟩ |
    ⟨n, scan, clock, now, first, second, hevent, hm, he⟩
  · cases he
  · cases he
  · unfold expiryOf at he
    rw [if_pos (h n scan clock m hevent hm hkind)] at he
    cases he

theorem World.Runs.investigationsMarked {stages : List (Stage World Event)} {w : World}
    (h : World.Runs stages w) (hx : forall x, x ∈ stages -> KeepsInvestigations x) :
    InvestigationsMarked w.db := by
  have hgood := h.good.right
  rcases h with ⟨ids, hrun⟩
  refine (hrun.invariant (I := fun w => InvestigationsMarked w.db)
    (C := fun x => GoodStage x ∧ KeepsInvestigations x) ?_ ?_ ?_).left
  · rintro x ⟨hstage, hkeeps⟩ _ hbefore
    refine hstage.did.moves.preserves (I := InvestigationsMarked) ?_ hbefore
    intro l d d' hl hmove hd
    exact hmove.investigationsMarked (hkeeps.label hl) hd
  · intro m hm
    cases hm
  · exact fun x hmem => ⟨hgood x hmem, hx x hmem⟩

/--
Every command that is dead for a technical reason shows on its aggregate, in
every run whose lease recoveries never meet a delivery investigation on its
eighth attempt: that branch of the recovery writes the outbox alone.
-/
theorem dead_command_surfaced {stages : List (Stage World Event)} {w : World}
    (h : World.Runs stages w) (hx : forall x, x ∈ stages -> KeepsInvestigations x) :
    Surfaced w.db := by
  have hsound := h.good.left.sound
  have hmarked := h.investigationsMarked hx
  intro m hm hdead
  cases hkind : m.aggregateType with
  | supportCase => exact hmarked m hm hdead.left hkind
  | orderOperation =>
      rcases hsound.coupled m hm hkind with ⟨o, ho, hcoupled⟩
      rcases hcoupled.reviewed hdead.left hdead.right with
        ⟨hstatus, _, c, hlinked, hc, hreview⟩
      exact ⟨o, c, ho, hstatus, hlinked, hc, hreview.reason⟩

/-- A customer reports a damaged package. -/
def sampleTrigger : CaseTrigger :=
  { threadId := sampleRequest.threadId
    sourceMessageId := sampleRequest.sourceMessageId
    orderId := some (TrimmedText.ofString "ORD-10001")
    riskLevel := none
    riskCategories := []
    triggeringMessageExcerpt := ⟨"the package is damaged", by decide⟩
    excerpt_length := by decide }

def sampleInvestigation : HandoffDecision :=
  { shouldCreateCase := true
    caseType := some CaseType.deliveryInvestigation
    priority := some CasePriority.p2
    reasonCodes := [HandoffReason.deliveryDamageClaim]
    decisionValid := by decide }

def sampleCustomer : AccessScope :=
  { sampleScope with permissions := [Permission.casesReadOwn] }

/-- The case has the identifier 0 and its command the identifier 2. -/
def sampleInvestigated : World :=
  (World.initial sampleIds).serve
    (recordDeliveryInvestigation sampleCustomer sampleTrigger sampleInvestigation
      DeliveryIssueType.packageDamaged "connection" (fun _ => 0))

theorem sampleInvestigated_runs : exists stages,
    World.Runs stages sampleInvestigated ∧
      forall x, x ∈ stages -> x.event.ofCall = true := by
  have hstart : World.Runs [] (World.initial sampleIds) := ⟨sampleIds, Run.nil _⟩
  exact hstart.serve (Method.recordDeliveryInvestigation sampleCustomer sampleTrigger
    sampleInvestigation DeliveryIssueType.packageDamaged "connection" (fun _ => 0) trivial)

def sampleInvestigationClaim (now : Time) : Job :=
  Job.claimOutbox "worker" 1 30 [2] (fun _ _ => now)

def sampleInvestigationHandle : ClaimedOutboxMessage :=
  (sampleInvestigated.perform (sampleInvestigationClaim 0)).handles.head
    (by decide +kernel)

/-- The worker gives the command up. -/
def sampleGivenUp : World :=
  (sampleInvestigated.perform (sampleInvestigationClaim 0)).perform
    (Job.finalizeOutbox sampleInvestigationHandle
      (Verdict.terminalFailure ProviderFailureKind.validationError none none) 0)

theorem sampleGivenUp_runs : exists stages, World.Runs stages sampleGivenUp ∧
    forall x, x ∈ stages -> KeepsInvestigations x := by
  rcases sampleInvestigated_runs with ⟨stages, hrun, hcalls⟩
  have hclaimed := hrun.job (j := sampleInvestigationClaim 0) trivial
  have hhandle : (Job.finalizeOutbox sampleInvestigationHandle
      (Verdict.terminalFailure ProviderFailureKind.validationError none none)
      0).Admissible (sampleInvestigated.perform (sampleInvestigationClaim 0)).handles :=
    List.head_mem _
  refine ⟨_, hclaimed.job hhandle, ?_⟩
  -- no stage of the run recovers a lease
  intro x hx batchSize scan clock m hevent _ _
  simp only [List.mem_append, List.mem_singleton] at hx
  rcases hx with (hx | rfl) | rfl
  · have hcall := hcalls x hx
    rw [hevent] at hcall
    cases hcall
  · cases hevent
  · cases hevent

theorem dead_command_surfaced_sample : exists stages m,
    World.Runs stages sampleGivenUp ∧ sampleGivenUp.db.outbox.messages.rows = [m] ∧
    m.technicallyDead ∧ exists c, InvestigationMarked sampleGivenUp.db.cases m c := by
  rcases sampleGivenUp_runs with ⟨stages, hrun, hkeeps⟩
  have hlength : sampleGivenUp.db.outbox.messages.rows.length = 1 := by decide +kernel
  have hdead : forall m, m ∈ sampleGivenUp.db.outbox.messages.rows ->
      m.status = OutboxDeliveryStatus.dead ∧
        m.lastFailureKind = some ProviderFailureKind.validationError ∧
        m.aggregateType = ProviderAggregateType.supportCase := by decide +kernel
  generalize sampleGivenUp = w at hrun hlength hdead ⊢
  rcases List.length_eq_one_iff.mp hlength with ⟨m, hm⟩
  have hmem : m ∈ w.db.outbox.messages.rows := by
    rw [hm]
    exact List.mem_cons_self
  rcases hdead m hmem with ⟨hstatus, hkind, haggregate⟩
  have htechnical : m.technicallyDead := ⟨hstatus, by rw [hkind]; decide⟩
  have hmark := dead_command_surfaced hrun hkeeps m hmem htechnical
  rw [haggregate] at hmark
  exact ⟨stages, m, hrun, hm, htechnical, hmark⟩

/-- One worker after another claims the command and is never heard of again. -/
def sampleCrashed : Nat -> World
  | 0 => sampleInvestigated
  | n + 1 =>
      ((sampleCrashed n).perform (sampleInvestigationClaim (n * 100000000))).perform
        (Job.recoverOutbox 1 [2] (fun _ _ => n * 100000000 + 50000000))

theorem sampleCrashed_reachable (n : Nat) : (sampleCrashed n).Reachable := by
  induction n with
  | zero =>
      rcases sampleInvestigated_runs with ⟨stages, hrun, _⟩
      exact ⟨stages, hrun⟩
  | succ n ih =>
      exact (ih.job (j := sampleInvestigationClaim (n * 100000000)) trivial).job
        (j := Job.recoverOutbox 1 [2] (fun _ _ => n * 100000000 + 50000000)) trivial

/-- Eight crashed workers leave the command dead and nothing on its case. -/
theorem dead_command_not_surfaced : ¬forall w : World, w.Reachable -> Surfaced w.db := by
  intro h
  have hsurfaced := h _ (sampleCrashed_reachable 8)
  have hdead : exists m, m ∈ (sampleCrashed 8).db.outbox.messages.rows ∧
      m.status = OutboxDeliveryStatus.dead ∧ m.lastFailureKind = none ∧
      m.aggregateType = ProviderAggregateType.supportCase := by decide +kernel
  have hreasons : forall c, c ∈ (sampleCrashed 8).db.cases.rows.rows ->
      HandoffReason.providerDeliveryFailed ∉ c.reasonCodes := by decide +kernel
  generalize sampleCrashed 8 = w at hsurfaced hdead hreasons
  rcases hdead with ⟨m, hm, hstatus, hkind, haggregate⟩
  have hmark := hsurfaced m hm ⟨hstatus, by rw [hkind]; simp⟩
  rw [haggregate] at hmark
  rcases hmark with ⟨c, hc⟩
  exact hreasons c (Table.mem_of_get hc.get) hc.reason

end RefundAgent
