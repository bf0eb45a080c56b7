import RefundAgent.System.Evaluation

/-!
# Submission

A run of turns, with workers in between.  The decision on a request is taken
before the customer is asked and is not taken again after the answer; what a
queued operation carries is the version of the order on which it was taken.
-/

namespace RefundAgent

open Foundation

/-!
## Rows that count as automatic
-/

/--
The operations that no reviewer looks at: those that ask for no review, and
those that have a command.  A condition on them and the version each command
expects.
-/
structure Automatic (E : OrderOperation -> Prop) (db : Database) : Prop where
  plain : forall o, o ∈ db.operations.rows.rows -> o.requiresManualReview = false -> E o
  commanded : forall m, m ∈ db.outbox.messages.rows ->
    m.aggregateType = ProviderAggregateType.orderOperation ->
    forall o, db.operations.rows.get m.aggregateId = some o ->
      E o ∧ m.expectedOrderVersion = some o.orderVersion

/-- A condition on what is fixed when an operation is created. -/
def FixedAtCreation (E : OrderOperation -> Prop) : Prop :=
  forall o o' : OrderOperation, o'.frozen = o.frozen ->
    o'.policyReasonCodes = o.policyReasonCodes -> E o -> E o'

theorem orderVersion_of_frozen {o o' : OrderOperation} (h : o'.frozen = o.frozen) :
    o'.orderVersion = o.orderVersion := by
  show o'.frozen.orderVersion = _
  rw [h]
  rfl

section Moves

variable {E : OrderOperation -> Prop} {l : Label} {db db' : Database}

theorem Move.automatic_update (h : Move l db db') (hdb : Sound db)
    (hE : FixedAtCreation E) (hauto : Automatic E db) {w : Writer}
    {o o' : OrderOperation} {es : List OrderOperationEvent}
    (hl : l.operation = OperationLabel.update w o o' es)
    (hplain : o'.requiresManualReview = false) : E o' := by
  rcases l with ⟨lo, lc, lx, li, lr⟩
  have hop := h.operation
  have hcombined := h.combined
  have houtbox := h.outbox
  simp only at hl hop hcombined houtbox
  subst hl
  have hrow := hop.updated
  have hmem := Table.mem_of_get hrow.before
  refine hE o o' hrow.change.frozen hrow.change.policy ?_
  cases hcombined with
  | changeOperation hchange => exact hauto.plain o hmem (hchange.review.symm.trans hplain)
  | fallback hchange hl keys =>
      rw [hchange.review] at hplain
      cases hplain
  | queueOperation hq => exact hauto.plain o hmem (hq.kept.symm.trans hplain)
  | settleOperation a hset hl => exact hauto.plain o hmem (hdb.plain o hmem hset.before)
  | redriveOperation hred audit =>
      have hsource := houtbox.mem_source rfl
      refine (hauto.commanded _ hsource hred.kind o ?_).left
      rw [← hred.aggregate]
      exact hrow.before
  | callbackOperation hchange single =>
      exact hauto.plain o hmem (hchange.review.left.symm.trans hplain)

theorem Move.automatic_commanded (h : Move l db db') (hdb : Sound db)
    (hE : FixedAtCreation E) (hauto : Automatic E db) {m : OutboxMessage}
    (hm : m ∈ db'.outbox.messages.rows)
    (hkind : m.aggregateType = ProviderAggregateType.orderOperation)
    {o' : OrderOperation} (ho' : db'.operations.rows.get m.aggregateId = some o') :
    E o' ∧ m.expectedOrderVersion = some o'.orderVersion := by
  have hold : forall y : OutboxMessage, y ∈ db.outbox.messages.rows ->
      m.toProviderCommandEnvelope = y.toProviderCommandEnvelope ->
      E o' ∧ m.expectedOrderVersion = some o'.orderVersion := by
    intro y hy henv
    have hykind : y.aggregateType = ProviderAggregateType.orderOperation := by
      rw [← hkind]
      exact (congrArg ProviderCommandEnvelope.aggregateType henv).symm
    have hagg : m.aggregateId = y.aggregateId :=
      congrArg ProviderCommandEnvelope.aggregateId henv
    have hversion : m.expectedOrderVersion = y.expectedOrderVersion :=
      congrArg ProviderCommandEnvelope.expectedOrderVersion henv
    rcases hdb.coupled y hy hykind with ⟨o, ho, _⟩
    have hheld := hauto.commanded y hy hykind o ho
    rcases h.operation.get_cases ho with hsame | ⟨w, o₁, es, hl, ho₁, _⟩
    · rw [hagg, hsame] at ho'
      cases ho'
      exact ⟨hheld.left, hversion.trans hheld.right⟩
    · rw [hagg, ho₁] at ho'
      cases ho'
      have hop := h.operation
      rw [hl] at hop
      have hchange := hop.updated.change
      refine ⟨hE o o' hchange.frozen hchange.policy hheld.left, ?_⟩
      rw [orderVersion_of_frozen hchange.frozen]
      exact hversion.trans hheld.right
  rcases h.outbox.origin hm with hnew | ⟨hkept, _⟩
  · rcases h.outbox.source_of_result hnew with ⟨command, now, hq, hrow⟩ | ⟨y, _, hy, henv⟩
    · rcases l with ⟨lo, lc, lx, li, lr⟩
      have hop := h.operation
      have hcombined := h.combined
      simp only at hq hop hcombined
      subst hq
      rw [← hrow] at hcombined
      cases hcombined with
      | @queueOperation o o₁ es _ hqueued =>
          have hupdated := hop.updated
          rw [hqueued.aggregate, hupdated.after] at ho'
          cases ho'
          have hmem := Table.mem_of_get hupdated.before
          have hplain := hqueued.kept.symm.trans hqueued.review
          refine ⟨hE o o' hupdated.change.frozen hupdated.change.policy
            (hauto.plain o hmem hplain), ?_⟩
          rw [orderVersion_of_frozen hupdated.change.frozen]
          exact hqueued.version
      | queueInvestigation hl hc hqueued =>
          rw [hqueued.kind] at hkind
          cases hkind
    · exact hold y hy henv
  · exact hold m hkept rfl

theorem Move.automatic (h : Move l db db') (hdb : Sound db) (hE : FixedAtCreation E)
    (hauto : Automatic E db)
    (hnew : forall o e, l.operation = OperationLabel.create o e ->
      o.requiresManualReview = false -> E o) : Automatic E db' where
  plain := by
    intro o ho hplain
    rcases h.operation.row_origin ho with hold | ⟨e, hl, _⟩ | ⟨w, o₀, es, hl⟩
    · exact hauto.plain o hold hplain
    · exact hnew o e hl hplain
    · exact h.automatic_update hdb hE hauto hl hplain
  commanded := fun m hm hkind o ho => h.automatic_commanded hdb hE hauto hm hkind ho

end Moves

theorem Job.creates_nothing {j : Job} {db d d' : Database} {l : Label}
    (hl : j.permits db l) (h : Move l d d') {o : OrderOperation}
    {e : OrderOperationEvent} : l.operation ≠ OperationLabel.create o e := by
  intro hcreate
  rcases l with ⟨lo, lc, lx, li, lr⟩
  have hcombined := h.combined
  simp only at hcreate hcombined
  subst hcreate
  cases hcombined
  cases j with
  | claimOutbox workerId batchSize leaseSeconds scan clock =>
      rcases hl with ⟨m, m', a, hl⟩
      cases hl
  | renewOutbox commandId leaseId leaseOwner leaseSeconds clock =>
      rcases hl with ⟨m, m', hl⟩
      cases hl
  | recoverOutbox batchSize scan clock =>
      rcases hl with ⟨m, a, now, first, second, _, hl, _⟩
      cases hl
  | retryOutbox retry now =>
      rcases hl with ⟨m, a, hl⟩
      cases hl
  | finalizeOutbox claimed verdict now =>
      rcases hl with ⟨_, now', m, a, hl, _⟩
      cases hl
  | finalizeOrderOperation claimed retryAvailableAt now => exact hl.right
  | finalizeSupportCase claimed retryAvailableAt now => exact hl.right
  | receiveInbox incoming => cases hl
  | claimInbox workerId batchSize leaseSeconds scan clock => cases hl.left
  | renewInbox inboxId leaseId leaseOwner leaseSeconds clock => cases hl.left
  | recoverInbox batchSize scan clock => cases hl.left
  | failInbox inboxId leaseId leaseOwner errorCode errorMessage now => cases hl.left
  | retryInbox inboxId leaseId leaseOwner attemptId nextAvailableAt errorCode
      errorMessage now => cases hl.left

/-!
## Runs of turns
-/

structure StartsTurn (x : Stage World Event) (env : Environment) (s : RefundState) :
    Prop where
  event : x.event = Event.start
  begun : x.after.calls = x.before.calls ++ [⟨_, turn env s⟩]

/-- Of the service calls only turns are begun. -/
def OfTurns (x : Stage World Event) : Prop :=
  x.event = Event.start -> exists env s, StartsTurn x env s

/-- A turn that began at one of the stages has found the operation eligible. -/
def FoundEligible (stages : List (Stage World Event)) (o : OrderOperation) : Prop :=
  exists x env s decision, x ∈ stages ∧ StartsTurn x env s ∧
    env.Evaluated o decision ∧ decision.outcome = OperationOutcome.eligible

theorem FoundEligible.more {stages : List (Stage World Event)} {o : OrderOperation}
    (h : FoundEligible stages o) (more : List (Stage World Event)) :
    FoundEligible (stages ++ more) o := by
  rcases h with ⟨x, env, s, decision, hx, hrest⟩
  exact ⟨x, env, s, decision, List.mem_append_left _ hx, hrest⟩

theorem Records.of_frozen {o o' : OrderOperation} {request : OrderOperationRequest}
    {snapshot : OrderSnapshot} {decision : OperationDecision}
    (h : o.Records request snapshot decision) (hfrozen : o'.frozen = o.frozen)
    (hpolicy : o'.policyReasonCodes = o.policyReasonCodes) :
    o'.Records request snapshot decision := by
  constructor
  · show o'.frozen.orderId = _
    rw [hfrozen]
    exact h.orderId
  · show o'.frozen.operationType = _
    rw [hfrozen]
    exact h.operationType
  · show o'.frozen.requestReasonCode = _
    rw [hfrozen]
    exact h.reason
  · show o'.frozen.replacementVariantId = _
    rw [hfrozen]
    exact h.variant
  · show o'.frozen.threadId = _
    rw [hfrozen]
    exact h.threadId
  · show o'.frozen.sourceMessageId = _
    rw [hfrozen]
    exact h.sourceMessageId
  · show o'.frozen.orderVersion = _
    rw [hfrozen]
    exact h.orderVersion
  · rw [hpolicy]
    exact h.policyCodes

theorem foundEligible_fixed (stages : List (Stage World Event)) :
    FixedAtCreation (FoundEligible stages) := by
  intro o o' hfrozen hpolicy h
  rcases h with ⟨x, env, s, decision, hx, hstart, ⟨request, snapshot, heval, hrec⟩, hout⟩
  exact ⟨x, env, s, decision, hx, hstart,
    ⟨request, snapshot, heval, Records.of_frozen hrec hfrozen hpolicy⟩, hout⟩

theorem Environment.Inserts.eligible {env : Environment} {o : OrderOperation}
    (h : env.Inserts o) (hplain : o.requiresManualReview = false) :
    exists decision, env.Evaluated o decision ∧
      decision.outcome = OperationOutcome.eligible := by
  rcases h with ⟨decision, hevaluated, houtcome, hreview⟩
  refine ⟨decision, hevaluated, ?_⟩
  rcases houtcome with houtcome | houtcome
  · exact houtcome
  · rw [hplain, houtcome] at hreview
    cases hreview

/-- What a run of turns keeps: the calls are turns, and eligibility is on record. -/
structure TurnsKept (stages : List (Stage World Event)) (w : World) : Prop where
  good : w.Good
  calls : forall r, r ∈ w.calls -> exists x env s, x ∈ stages ∧ StartsTurn x env s ∧
    env.Within r.call (fun _ => True)
  eligible : Automatic (FoundEligible stages) w.db

theorem Automatic.more {stages : List (Stage World Event)} {db : Database}
    (h : Automatic (FoundEligible stages) db) (more : List (Stage World Event)) :
    Automatic (FoundEligible (stages ++ more)) db where
  plain := fun o ho hplain => (h.plain o ho hplain).more more
  commanded := fun m hm hkind o ho =>
    ⟨(h.commanded m hm hkind o ho).left.more more, (h.commanded m hm hkind o ho).right⟩

theorem Moves.automatic {P : Label -> Prop} {E : OrderOperation -> Prop}
    {db db' : Database} (h : Moves P db db') (hE : FixedAtCreation E)
    (hP : forall l d d', P l -> Move l d d' -> forall o e,
      l.operation ≠ OperationLabel.create o e) (hdb : Sound db)
    (hauto : Automatic E db) : Automatic E db' := by
  have hkept := h.preserves (I := fun d => Sound d ∧ Automatic E d)
    (fun l d d' hl hmove hd => ⟨hmove.sound hd.left, hmove.automatic hd.left hE hd.right
      (fun o e hcreate => absurd hcreate (hP l d d' hl hmove o e))⟩) ⟨hdb, hauto⟩
  exact hkept.right

theorem TurnsKept.initial (ids : Supply) : TurnsKept [] (World.initial ids) where
  good := World.initial_good ids
  calls := fun r hr => (by cases hr)
  eligible := ⟨fun o ho => (by cases ho), fun m hm => (by cases hm)⟩

theorem Environment.Within.advance {env : Environment} {α : Type} {p q : Call α}
    {db db' : Database} (h : env.Within p (fun _ => True))
    (hstep : Program.Advance (fun _ => True) p db q db') :
    env.Within q (fun _ => True) ∧ forall o, o ∈ db'.operations.rows.rows ->
      o.operationId ∈ db.operations.rows.rows.map OrderOperation.operationId ∨
        env.Inserts o := by
  rcases h.all.advance hstep with ⟨hq, hsame | ⟨γ, tx, c, hadmits, htx⟩⟩
  · refine ⟨⟨hq⟩, ?_⟩
    intro o ho
    rw [hsame] at ho
    exact Or.inl (List.mem_map_of_mem ho)
  · exact ⟨⟨hq⟩, hadmits db c db' htx⟩

theorem OperationStep.new_id {o : OrderOperation} {e : OrderOperationEvent}
    {t u : OperationTables} (h : OperationStep (OperationLabel.create o e) t u) :
    o ∈ u.rows.rows ∧ o.operationId ∉ t.rows.rows.map OrderOperation.operationId := by
  cases h with
  | create insert free appended unused new =>
      have hins := Table.insert?_eq_some.mp insert
      constructor
      · show o ∈ Table.rows _
        rw [hins.right]
        exact List.mem_append_right _ (List.mem_singleton.mpr rfl)
      · intro hmem
        rcases List.mem_map.mp hmem with ⟨r, hr, hid⟩
        exact Table.get_eq_none.mp hins.left r hr hid

theorem TurnsKept.step {past : List (Stage World Event)} {x : Stage World Event}
    (hturn : OfTurns x) (hstep : World.Step x.before x.event x.after)
    (h : TurnsKept past x.before) : TurnsKept (past ++ [x]) x.after := by
  have hspec := hstep.spec h.good
  have hcalls : forall r, r ∈ x.before.calls -> exists y env s, y ∈ past ++ [x] ∧
      StartsTurn y env s ∧ env.Within r.call (fun _ => True) := by
    intro r hr
    rcases h.calls r hr with ⟨y, env, s, hy, hrest⟩
    exact ⟨y, env, s, List.mem_append_left _ hy, hrest⟩
  rcases x with ⟨w, e, w'⟩
  simp only at hstep hspec hcalls h
  cases hstep with
  | @job j hadmissible =>
      refine ⟨hspec.right, ?_, ?_⟩
      · have hsame : (w.perform j).calls = w.calls := by
          unfold World.perform
          cases j.transaction w.db with
          | error f => rfl
          | ok r => rfl
        intro r hr
        exact hcalls r (hsame ▸ hr)
      · have hkept := hspec.left.moves.automatic (foundEligible_fixed past)
          (fun l d d' hl hmove o e => Job.creates_nothing hl hmove) h.good.sound h.eligible
        exact hkept.more _
  | @start α p hmethod =>
      rcases hturn rfl with ⟨env, s, hstart⟩
      refine ⟨hspec.right, ?_, h.eligible.more _⟩
      intro r hr
      rw [hstart.begun] at hr
      rcases List.mem_append.mp hr with hr | hr
      · exact hcalls r hr
      · rw [List.mem_singleton.mp hr]
        exact ⟨_, env, s, List.mem_append_right _ (List.mem_singleton.mpr rfl), hstart,
          turn_within env s⟩
  | @advance α p q db' before after heq hadvance =>
      rcases h.calls ⟨α, p⟩ (by rw [heq]; simp) with ⟨y, env, s, hy, hstart, hp⟩
      rcases hp.advance hadvance with ⟨hq, hnew⟩
      refine ⟨hspec.right, ?_, ?_⟩
      · intro r hr
        rcases List.mem_append.mp hr with hr | hr
        · exact hcalls r (by rw [heq]; exact List.mem_append_left _ hr)
        · rcases List.mem_cons.mp hr with rfl | hr
          · exact ⟨y, env, s, List.mem_append_left _ hy, hstart, hq⟩
          · refine hcalls r ?_
            rw [heq]
            exact List.mem_append_right _ (List.mem_cons_of_mem _ hr)
      · rcases hspec.left with hsame | ⟨l, _, hmove⟩
        · have hsame : db' = w.db := hsame
          show Automatic _ db'
          rw [hsame]
          exact h.eligible.more _
        · refine hmove.automatic h.good.sound (foundEligible_fixed _)
            (h.eligible.more _) ?_
          intro o e hcreate hplain
          have hop := hmove.operation
          rw [hcreate] at hop
          rcases hnew o hop.new_id.left with hmem | hinserts
          · exact absurd hmem hop.new_id.right
          · rcases hinserts.eligible hplain with ⟨decision, hevaluated, houtcome⟩
            exact ⟨y, env, s, decision, List.mem_append_left _ hy, hstart, hevaluated,
              houtcome⟩

theorem World.Runs.turnsKept {stages : List (Stage World Event)} {w : World}
    (h : World.Runs stages w) (hturns : forall x, x ∈ stages -> OfTurns x) :
    TurnsKept stages w := by
  rcases h with ⟨ids, hrun⟩
  exact hrun.history (I := TurnsKept) (C := OfTurns)
    (fun past x hturn hstep hkept => hkept.step hturn hstep)
    (TurnsKept.initial ids) hturns

/-!
## Queued operations
-/

/--
Whatever is queued in a run of turns was found eligible, for the request it
records, by a turn that has begun before: on a snapshot that the turn had read
and at the time it looked.  The operation and its command carry the version of
that snapshot.
-/
theorem queued_operation_was_eligible {stages : List (Stage World Event)} {w : World}
    (h : World.Runs stages w) (hturns : forall x, x ∈ stages -> OfTurns x)
    {o : OrderOperation} (ho : o ∈ w.db.operations.rows.rows)
    (hqueued : o.status = OperationRecordStatus.queued) :
    exists x env s request snapshot decision, x ∈ stages ∧ StartsTurn x env s ∧
      env.Evaluates request snapshot decision ∧
      decision.outcome = OperationOutcome.eligible ∧
      o.Records request snapshot decision ∧
      forall m, m ∈ w.db.outbox.messages.rows ->
        m.aggregateType = ProviderAggregateType.orderOperation ->
        m.aggregateId = o.operationId -> m.expectedOrderVersion = some snapshot.version := by
  have hkept := h.turnsKept hturns
  have hplain := hkept.good.sound.plain o ho hqueued
  rcases hkept.eligible.plain o ho hplain with
    ⟨x, env, s, decision, hx, hstart, ⟨request, snapshot, hevaluates, hrecords⟩, houtcome⟩
  refine ⟨x, env, s, request, snapshot, decision, hx, hstart, hevaluates, houtcome,
    hrecords, ?_⟩
  intro m hm hkind hagg
  have hget : w.db.operations.rows.get m.aggregateId = some o := by
    rw [hagg]
    exact Table.get_of_mem ho
  rw [← hrecords.orderVersion]
  exact (hkept.eligible.commanded m hm hkind o hget).right

/-!
## Examples

A customer asks to return an order one day after its delivery and is asked to
confirm.  The answer comes on the eighth day, when the window has closed.
-/

theorem World.Runs.turn {stages : List (Stage World Event)} {w : World}
    (h : World.Runs stages w) (hturns : forall x, x ∈ stages -> OfTurns x)
    (env : Environment) (s : RefundState) :
    exists more, World.Runs (stages ++ more) (w.serve (turn env s)) ∧
      forall x, x ∈ stages ++ more -> OfTurns x := by
  rcases h with ⟨ids, hrun⟩
  rcases World.run_calls (RefundAgent.turn env s)
    { w with calls := w.calls ++ [⟨_, RefundAgent.turn env s⟩] } w.calls [] rfl with
    ⟨more, hmore, hevents⟩
  refine ⟨_, ⟨ids, hrun.append (Run.cons (World.Step.start (Method.turn env s)) hmore)⟩,
    ?_⟩
  intro x hx
  rcases List.mem_append.mp hx with hx | hx
  · exact hturns x hx
  · rcases List.mem_cons.mp hx with rfl | hx
    · exact fun _ => ⟨env, s, rfl, rfl⟩
    · intro hstart
      rw [hevents x hx] at hstart
      cases hstart

def day : Time := 24 * 60 * 60 * 1000000

/-- The order of the example after its delivery. -/
def sampleDelivered : OrderSnapshot :=
  { sampleOrder with
    fulfillmentStatus := FulfillmentStatus.delivered
    shippedAt := some 0
    deliveredAt := some 0 }

def sampleReturn : OrderOperationRequest :=
  { threadId := sampleThreadText
    sourceMessageId := ⟨"message-1", by decide⟩
    orderId := sampleDelivered.orderId
    operationType := OperationType.return
    reason := OperationReason.changedMind
    replacementVariantId := none
    customerId := sampleUser.userId
    tenantId := sampleUser.tenantId
    fieldsValid := by decide }

def sampleLateEnvironment : Environment :=
  { sampleEnvironment with
    route := { step := Intent.returnRequest, humanHandoffRequested := false }
    extraction := { sampleExtraction with
      operationType := some OperationType.return
      reason := some OperationReason.changedMind
      shapeValid := by decide }
    getOrderForCustomer := fun _ _ _ => Except.ok (some sampleDelivered)
    now := day
    clock := fun _ _ => 8 * day }

def sampleLate : World :=
  (World.initial sampleIds).serve
    (turn sampleLateEnvironment (RefundState.start sampleMessages))

theorem sampleLate_runs : exists stages, World.Runs stages sampleLate ∧
    forall x, x ∈ stages -> OfTurns x := by
  have hstart : World.Runs [] (World.initial sampleIds) := ⟨sampleIds, Run.nil _⟩
  rcases hstart.turn (fun x hx => (by cases hx)) sampleLateEnvironment
    (RefundState.start sampleMessages) with ⟨more, hruns, hturns⟩
  exact ⟨_, hruns, hturns⟩

def sampleLateOperation : OrderOperation :=
  sampleLate.db.operations.rows.rows.head (by decide +kernel)

theorem sampleLateOperation_mem :
    sampleLateOperation ∈ sampleLate.db.operations.rows.rows :=
  List.head_mem _

theorem queued_operation_was_eligible_late :
    exists stages : List (Stage World Event), World.Runs stages sampleLate ∧
      exists x env s request snapshot decision, x ∈ stages ∧ StartsTurn x env s ∧
        env.Evaluates request snapshot decision ∧
        decision.outcome = OperationOutcome.eligible ∧
        sampleLateOperation.Records request snapshot decision := by
  rcases sampleLate_runs with ⟨stages, hruns, hturns⟩
  have hqueued : sampleLateOperation.status = OperationRecordStatus.queued := by
    decide +kernel
  have hmem := sampleLateOperation_mem
  generalize sampleLateOperation = o at hqueued hmem
  generalize sampleLate = w at hruns hmem
  rcases queued_operation_was_eligible hruns hturns hmem hqueued with
    ⟨x, env, s, request, snapshot, decision, hx, hstart, heval, hout, hrec, _⟩
  exact ⟨stages, hruns, x, env, s, request, snapshot, decision, hx, hstart, heval, hout,
    hrec⟩

/--
The return is queued on the eighth day although the order has not changed and
the policy, asked on that day, rejects it.
-/
theorem return_queued_after_window :
    sampleLate.Reachable ∧
      sampleLateOperation ∈ sampleLate.db.operations.rows.rows ∧
      sampleLateOperation.status = OperationRecordStatus.queued ∧
      sampleLateOperation.updatedAt = 8 * day ∧
      sampleLateOperation.Records sampleReturn sampleDelivered
        (operationPolicy OperationType.return sampleDelivered day thresholds none) ∧
      exists decision, evaluateOperation sampleReturn sampleDelivered
        sampleLateOperation.updatedAt thresholds none = Except.ok decision ∧
        decision.outcome = OperationOutcome.rejected := by
  have hreach : sampleLate.Reachable := by
    rcases sampleLate_runs with ⟨stages, hruns, _⟩
    exact ⟨stages, hruns⟩
  have hqueued : sampleLateOperation.status = OperationRecordStatus.queued := by
    decide +kernel
  have htime : sampleLateOperation.updatedAt = 8 * day := by decide +kernel
  refine ⟨hreach, sampleLateOperation_mem, hqueued, htime, ?_, ?_⟩
  · constructor <;> decide +kernel
  · rw [htime]
    exact ⟨_, rfl, by decide +kernel⟩

end RefundAgent
