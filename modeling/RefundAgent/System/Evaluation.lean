import RefundAgent.System.Provenance

/-!
# Evaluations and operations

What a turn inserts it has evaluated.  The link is followed through the rest of
an operation's life: whatever is queued was found eligible when its turn looked
at the order, and carries the version of the order that the turn looked at.
-/

namespace RefundAgent

open Foundation

/-!
## Evaluations of a turn
-/

/-- The turn has read the snapshot of the order for its customer. -/
def Environment.Reads (env : Environment) (snapshot : OrderSnapshot) : Prop :=
  exists scope customerId orderId, env.requireScope = Except.ok scope ∧
    scope.customerId = some customerId ∧
    env.getOrderForCustomer orderId customerId scope.tenantId =
      Except.ok (some snapshot)

/-- The turn has applied the operation policy and come to the decision. -/
structure Environment.Evaluates (env : Environment) (request : OrderOperationRequest)
    (snapshot : OrderSnapshot) (decision : OperationDecision) : Prop where
  read : env.Reads snapshot
  policy : exists availability,
    replacementAvailability env request = Except.ok availability ∧
      evaluateOperation request snapshot env.now thresholds availability =
        Except.ok decision

/-- The operation is what was requested, on the version of the snapshot. -/
structure OrderOperation.Records (o : OrderOperation) (request : OrderOperationRequest)
    (snapshot : OrderSnapshot) (decision : OperationDecision) : Prop where
  orderId : o.orderId = request.orderId
  operationType : o.operationType = request.operationType
  reason : o.requestReasonCode = request.reason
  variant : o.replacementVariantId = request.replacementVariantId
  threadId : o.threadId = request.threadId
  sourceMessageId : o.sourceMessageId = request.sourceMessageId
  orderVersion : o.orderVersion = snapshot.version
  policyCodes : o.policyReasonCodes = decision.reasonCodes

/-- The operation has been evaluated by the turn. -/
def Environment.Evaluated (env : Environment) (o : OrderOperation)
    (decision : OperationDecision) : Prop :=
  exists request snapshot, env.Evaluates request snapshot decision ∧
    o.Records request snapshot decision

/-- The operation as the turn inserts it. -/
def Environment.Inserts (env : Environment) (o : OrderOperation) : Prop :=
  exists decision, env.Evaluated o decision ∧
    (decision.outcome = OperationOutcome.eligible ∨
      decision.outcome = OperationOutcome.manualReview) ∧
    o.requiresManualReview = decide (decision.outcome = OperationOutcome.manualReview)

/-- A transaction whose new operations the turn has evaluated. -/
def Environment.Admits (env : Environment) {α : Type} (tx : Tx α) : Prop :=
  Transaction.Keeps (fun db db' => forall o, o ∈ db'.operations.rows.rows ->
    o.operationId ∈ db.operations.rows.rows.map OrderOperation.operationId ∨
      env.Inserts o) tx

theorem Spares.admits {env : Environment} {α : Type} {tx : Tx α} (h : Spares tx) :
    env.Admits tx := by
  intro db a db' htx o ho
  have hsame := h db a db' htx
  unfold SameOperations at hsame
  rw [← hsame]
  exact Or.inl (List.mem_map_of_mem ho)

structure Environment.Within (env : Environment) {α : Type} (p : Call α)
    (Q : α -> Prop) : Prop where
  all : Program.Within (fun {_ : Type} tx => env.Admits tx) p Q

namespace Environment.Within

variable {env : Environment} {α β : Type} {Q : α -> Prop} {R : β -> Prop}

theorem pure {a : α} (h : Q a) : env.Within (Pure.pure a : Call α) Q :=
  ⟨Program.Within.pure h⟩

theorem raise (e : Failure) : env.Within (Program.raise e : Call α) Q :=
  ⟨Program.Within.raise e⟩

theorem settled (r : Except Failure α) :
    env.Within (RefundAgent.settled r) (fun a => r = Except.ok a) :=
  ⟨fun _ ha => ha⟩

theorem perform {tx : Tx α} (h : env.Admits tx) :
    env.Within (Program.perform tx) (fun _ => True) :=
  ⟨Program.Within.perform h⟩

theorem require (c : Prop) [Decidable c] (e : Failure) :
    env.Within (Program.require c e : Call Unit) (fun _ => c) :=
  ⟨Program.Within.require⟩

theorem bind {p : Call α} {f : α -> Call β} (h : env.Within p Q)
    (hf : forall a, Q a -> env.Within (f a) R) : env.Within (p >>= f) R :=
  ⟨Program.Within.bind (fun a ha => (hf a ha).all) h.all⟩

theorem rescue {p : Call α} {handler : Failure -> Option (Call α)} (h : env.Within p Q)
    (hcatch : forall e q, handler e = some q -> env.Within q Q) :
    env.Within (p.rescue handler) Q :=
  ⟨Program.Within.rescue (fun e q hq => (hcatch e q hq).all) h.all⟩

theorem ite {c : Prop} [Decidable c] {p q : Call α} (hp : env.Within p Q)
    (hq : env.Within q Q) : env.Within (if c then p else q) Q :=
  ⟨Program.Within.ite (fun _ => hp.all) (fun _ => hq.all)⟩

theorem mono {Q' : α -> Prop} {p : Call α} (h : env.Within p Q)
    (hQ : forall a, Q a -> Q' a) : env.Within p Q' :=
  ⟨h.all.mono hQ⟩

end Environment.Within

theorem Sparing.within {env : Environment} {α : Type} {p : Call α} (h : Sparing p) :
    env.Within p (fun _ => True) :=
  ⟨Program.Within.weaken (fun _ htx => Spares.admits htx) h.all⟩

/-!
## Creation
-/

theorem createOperationWithEvents_admits {env : Environment} {scope : AccessScope}
    {o : OrderOperation} {es : List OrderOperationEvent} (h : env.Inserts o) :
    env.Admits (createOperationWithEvents scope o es) := by
  intro db a db' htx r hr
  simp only [createOperationWithEvents, Transaction.translate_eq_ok,
    Transaction.bind_eq_ok, validateOwnership, Transaction.require_eq_ok,
    Prod.mk.injEq] at htx
  rcases htx with ⟨_, _, ⟨_, _, ⟨_, _, rfl⟩, _, _, ⟨_, _, rfl⟩, _, _, ⟨_, _, rfl⟩, _, _,
    rfl⟩, _, db₁, hins, hevents⟩
  rcases insertOperation_eq_ok hins with ⟨t, ht, _, _, hdb₁⟩
  rcases insertOperationEvents_eq_ok hevents with ⟨events, _, _, _, hdb'⟩
  have hdb₁ : db₁ = { db with operations := { db.operations with rows := t } } := hdb₁
  have hrows : db'.operations.rows = t := by
    rw [show db' = _ from hdb', hdb₁]
  rw [hrows, (Table.insert?_eq_some.mp ht).right] at hr
  rcases List.mem_append.mp hr with hr | hr
  · exact Or.inl (List.mem_map_of_mem hr)
  · rw [List.mem_singleton.mp hr]
    exact Or.inr h

theorem findExistingOperation_sparing (scope : AccessScope)
    (request : OrderOperationRequest) :
    Sparing (findExistingOperation scope request) := by
  refine Sparing.bind (Sparing.perform (findBySourceMessage_spares _ _ _))
    fun duplicate => ?_
  cases duplicate with
  | some operation => exact Sparing.pure _
  | none => exact Sparing.perform (findActiveByOrderId_spares _ _)

section Creation

variable {env : Environment} {scope : AccessScope} {customerId : CleanText}
  {request : OrderOperationRequest} {snapshot : OrderSnapshot}
  {decision : OperationDecision}

theorem pendingOperation_inserts (h : env.Evaluates request snapshot decision)
    (houtcome : decision.outcome = OperationOutcome.eligible ∨
      decision.outcome = OperationOutcome.manualReview)
    (excerpt : CleanText) (operationId : UUID) (now : Time) :
    env.Inserts (pendingOperation scope customerId request snapshot decision excerpt
      operationId now) :=
  ⟨decision, ⟨request, snapshot, h, rfl, rfl, rfl, rfl, rfl, rfl, rfl, rfl⟩, houtcome,
    rfl⟩

theorem createAttempts_within (h : env.Evaluates request snapshot decision)
    (houtcome : decision.outcome = OperationOutcome.eligible ∨
      decision.outcome = OperationOutcome.manualReview)
    (excerpt : CleanText) (clock : Nat -> Time) (n : Nat) :
    env.Within (createAttempts scope customerId request snapshot decision excerpt clock
      n) (fun _ => True) := by
  induction n with
  | zero =>
      refine Environment.Within.bind (findExistingOperation_sparing _ _).within ?_
      intro existing _
      cases existing with
      | some operation => exact Environment.Within.pure trivial
      | none => exact Environment.Within.raise _
  | succ n ih =>
      refine Environment.Within.bind (findExistingOperation_sparing _ _).within ?_
      intro existing _
      cases existing with
      | some operation => exact Environment.Within.pure trivial
      | none =>
          refine Environment.Within.rescue ?_ ?_
          · refine Environment.Within.bind freshId_sparing.within fun operationId _ => ?_
            refine Environment.Within.bind (Environment.Within.require _ _) fun _ _ => ?_
            refine Environment.Within.bind freshId_sparing.within fun eventId _ => ?_
            refine Environment.Within.bind (Environment.Within.perform
              (createOperationWithEvents_admits
                (pendingOperation_inserts h houtcome _ _ _))) fun _ _ => ?_
            exact Environment.Within.pure trivial
          · intro e q hq
            by_cases he : creationConflict e = true
            · rw [if_pos he] at hq
              cases hq
              exact ih
            · rw [if_neg he] at hq
              cases hq

theorem createPendingOperation_within (h : env.Evaluates request snapshot decision)
    (requestExcerpt : String) (clock : Nat -> Time) :
    env.Within (createPendingOperation scope request snapshot decision requestExcerpt
      clock) (fun _ => True) := by
  unfold createPendingOperation
  cases scope.customerId with
  | none => exact Environment.Within.raise _
  | some customerId =>
      refine Environment.Within.bind (Environment.Within.require _ _) fun _ _ => ?_
      refine Environment.Within.bind (Environment.Within.require _ _) fun _ _ => ?_
      refine Environment.Within.bind (Environment.Within.require _ _) fun _ _ => ?_
      refine Environment.Within.bind (Environment.Within.require _ _)
        fun _ houtcome => ?_
      refine Environment.Within.bind (Environment.Within.require _ _) fun _ _ => ?_
      cases CleanText.parse? (Text.strip requestExcerpt) with
      | none => exact Environment.Within.raise _
      | some excerpt => exact createAttempts_within h houtcome excerpt clock _

end Creation

/-!
## Nodes of the operation subflow
-/

section Nodes

variable (env : Environment)

theorem persistOrRespond_within (s : RefundState) {request : OrderOperationRequest}
    {snapshot : OrderSnapshot} {decision : OperationDecision}
    (h : env.Evaluates request snapshot decision) (excerpt : String) :
    env.Within (persistOrRespond env s request snapshot decision excerpt)
      (fun _ => True) := by
  unfold persistOrRespond
  refine Environment.Within.ite ?_ (Environment.Within.pure trivial)
  refine Environment.Within.bind (Environment.Within.settled _) fun scope _ => ?_
  refine Environment.Within.bind (createPendingOperation_within h _ _) fun result _ => ?_
  exact Environment.Within.ite (Environment.Within.pure trivial)
    (Environment.Within.pure trivial)

theorem evaluateOrderOperation_within (s : RefundState) {snapshot : OrderSnapshot}
    (h : env.Reads snapshot) (threadId sourceMessageId excerpt : String)
    (extraction : OperationRequestExtraction) :
    env.Within (evaluateOrderOperation env s snapshot threadId sourceMessageId excerpt
      extraction) (fun _ => True) := by
  unfold evaluateOrderOperation
  refine Environment.Within.bind (Environment.Within.settled _) fun scope _ => ?_
  cases scope.customerId with
  | none => exact Environment.Within.pure trivial
  | some customerId =>
      refine Environment.Within.bind (Environment.Within.settled _) fun request _ => ?_
      refine Environment.Within.bind (Environment.Within.settled _)
        fun availability havailability => ?_
      refine Environment.Within.bind (Environment.Within.settled _)
        fun decision hdecision => ?_
      exact persistOrRespond_within env s ⟨h, availability, havailability, hdecision⟩
        excerpt

theorem evaluateOperationRequest_within (s : RefundState)
    (h : forall snapshot, s.operationSnapshot = some snapshot -> env.Reads snapshot) :
    env.Within (evaluateOperationRequest env s) (fun _ => True) := by
  unfold evaluateOperationRequest
  cases s.operationExtraction with
  | none => exact Environment.Within.raise _
  | some extraction =>
      refine Environment.Within.ite (Environment.Within.pure trivial) ?_
      cases hsnapshot : s.operationSnapshot with
      | none => exact Environment.Within.raise _
      | some snapshot =>
          refine Environment.Within.bind (Environment.Within.settled _)
            fun metadata _ => ?_
          cases extraction.deliveryIssueType with
          | some issueType =>
              exact (Environment.Within.settled _).mono fun _ _ => trivial
          | none =>
              exact evaluateOrderOperation_within env s (h snapshot hsnapshot) _ _ _ _

theorem submitConfirmedOperationNode_sparing (s : RefundState) :
    Sparing (submitConfirmedOperationNode env s) := by
  unfold submitConfirmedOperationNode
  refine Sparing.bind (Sparing.done _) fun operationId => ?_
  refine Sparing.rescue ?_ ?_
  · refine Sparing.bind (Sparing.done _) fun scope => ?_
    refine Sparing.bind (Sparing.done _) fun connectionId => ?_
    exact Sparing.bind (queueConfirmedOperation_sparing _ _ _ _ _) fun _ => Sparing.pure _
  · intro e q hq
    by_cases he : connectionUnavailable e = true
    · rw [if_pos he] at hq
      cases hq
      refine Sparing.bind (Sparing.done _) fun scope => ?_
      exact Sparing.bind (moveToProviderManualReview_sparing _ _ _ _) fun _ =>
        Sparing.pure _
    · rw [if_neg he] at hq
      cases hq

theorem confirmManualOperationNode_sparing (s : RefundState) :
    Sparing (confirmManualOperationNode env s) := by
  unfold confirmManualOperationNode
  refine Sparing.bind (Sparing.done _) fun operationId => ?_
  refine Sparing.bind (Sparing.done _) fun scope => ?_
  exact Sparing.bind (confirmOperation_sparing _ _ _ _) fun _ => Sparing.pure _

theorem cancelOperationNode_sparing (s : RefundState) :
    Sparing (cancelOperationNode env s) := by
  unfold cancelOperationNode cancelPendingOperation
  refine Sparing.bind (Sparing.done _) fun operationId => ?_
  refine Sparing.bind (Sparing.done _) fun scope => ?_
  exact Sparing.bind (changeFromPending_sparing _ _ _ _ _) fun _ => Sparing.pure _

theorem operationConfirmationNode_answers {env : Environment} {s : RefundState}
    {n : OperationNode} (h : operationConfirmationNode env s = Except.ok n) :
    n ≠ OperationNode.extractOperationRequest ∧
      n ≠ OperationNode.evaluateOperationRequest := by
  unfold operationConfirmationNode at h
  split at h
  · split at h <;> cases h <;> exact ⟨by decide, by decide⟩
  · split at h
    · cases h
    · split at h
      · cases h
        exact ⟨by decide, by decide⟩
      · split at h <;> cases h <;> exact ⟨by decide, by decide⟩

/-- What the state of the subflow says when a node is reached. -/
def SnapshotRead (n : OperationNode) (s : RefundState) : Prop :=
  n = OperationNode.extractOperationRequest ∨ n = OperationNode.evaluateOperationRequest ->
    forall snapshot, s.operationSnapshot = some snapshot -> env.Reads snapshot

theorem loadOperationSnapshot_reads {s s' : RefundState}
    (h : loadOperationSnapshot env s = Except.ok s') {snapshot : OrderSnapshot}
    (hs : s'.operationSnapshot = some snapshot) : env.Reads snapshot := by
  unfold loadOperationSnapshot at h
  cases horder : s.orderId with
  | none =>
      simp only [horder] at h
      cases h
      cases hs
  | some orderId =>
      simp only [horder] at h
      cases hscope : env.requireScope with
      | error e =>
          rw [hscope] at h
          cases h
      | ok scope =>
          rw [hscope] at h
          cases hcustomer : scope.customerId with
          | none =>
              simp only [Bind.bind, Except.bind, hcustomer] at h
              cases h
              cases hs
          | some customerId =>
              simp only [Bind.bind, Except.bind, hcustomer] at h
              cases hget : env.getOrderForCustomer orderId customerId scope.tenantId with
              | error e =>
                  rw [hget] at h
                  cases h
              | ok found =>
                  rw [hget] at h
                  cases found with
                  | none =>
                      cases h
                      cases hs
                  | some read =>
                      cases h
                      cases hs
                      exact ⟨scope, customerId, orderId, hscope, hcustomer, hget⟩

theorem stays_within {ν : Type} {p : Call RefundState} {Q : RefundState -> Prop}
    (h : env.Within p Q) :
    env.Within (stays p : Call (RefundState × Option ν))
      (fun result => Q result.1 ∧ result.2 = none) :=
  Environment.Within.bind h fun _ hs => Environment.Within.pure ⟨hs, rfl⟩

theorem stays_last {p : Call RefundState} (h : env.Within p (fun _ => True))
    {n : OperationNode} (hn : forall s d, operationEdge n s = some d ->
      d ≠ OperationNode.extractOperationRequest ∧
        d ≠ OperationNode.evaluateOperationRequest) :
    env.Within (stays p) fun result =>
      forall d, (operationSubgraph env).next n result = Except.ok (some d) ->
        SnapshotRead env d result.1 := by
  refine (stays_within env h).mono ?_
  rintro ⟨s, goto⟩ ⟨_, hgoto⟩ d hd
  cases hgoto
  have hedge : operationEdge n s = some d := Except.ok.inj hd
  rintro (hd | hd)
  · exact absurd hd (hn s d hedge).left
  · exact absurd hd (hn s d hedge).right

theorem operationNode_within (n : OperationNode) (s : RefundState)
    (h : SnapshotRead env n s) :
    env.Within (operationNode env n s) fun result =>
      forall d, (operationSubgraph env).next n result = Except.ok (some d) ->
        SnapshotRead env d result.1 := by
  cases n with
  | detectOperationOrder =>
      refine stays_last env (Environment.Within.pure trivial) ?_
      intro s d hd
      simp only [operationEdge] at hd
      by_cases horder : s.orderId.isSome = true
      · rw [if_pos horder] at hd
        cases hd
        exact ⟨by decide, by decide⟩
      · rw [if_neg horder] at hd
        cases hd
  | loadOperationSnapshot =>
      refine (stays_within env (Environment.Within.settled _)).mono ?_
      rintro ⟨s', goto⟩ ⟨hload, _⟩ d _ _ snapshot hsnapshot
      exact loadOperationSnapshot_reads env hload hsnapshot
  | extractOperationRequest =>
      have hpure : env.Within (pure (extractOperationRequest env s))
          (fun s' => s' = extractOperationRequest env s) := Environment.Within.pure rfl
      refine (stays_within env hpure).mono ?_
      rintro ⟨s', goto⟩ ⟨hs', _⟩ d _ _ snapshot hsnapshot
      refine h (Or.inl rfl) snapshot ?_
      rw [show s' = _ from hs'] at hsnapshot
      unfold extractOperationRequest at hsnapshot
      cases hlatest : s.latestMessage with
      | none =>
          rw [hlatest] at hsnapshot
          exact hsnapshot
      | some message =>
          rw [hlatest] at hsnapshot
          exact hsnapshot
  | evaluateOperationRequest =>
      refine stays_last env
        (evaluateOperationRequest_within env s (h (Or.inr rfl))) ?_
      intro s d hd
      simp only [operationEdge] at hd
      by_cases hasks : asksForConfirmation s = true
      · rw [if_pos hasks] at hd
        cases hd
        exact ⟨by decide, by decide⟩
      · rw [if_neg hasks] at hd
        cases hd
  | operationConfirmation =>
      refine Environment.Within.bind (Environment.Within.settled _)
        fun destination hdestination => Environment.Within.pure ?_
      intro d hd
      have hd : destination = d := Option.some.inj (Except.ok.inj hd)
      rw [← hd]
      rintro (hextract | hevaluate)
      · exact absurd hextract (operationConfirmationNode_answers hdestination).left
      · exact absurd hevaluate (operationConfirmationNode_answers hdestination).right
  | submitConfirmedOperation =>
      exact stays_last env (submitConfirmedOperationNode_sparing env s).within
        fun s d hd => (by cases hd)
  | confirmManualOperation =>
      exact stays_last env (confirmManualOperationNode_sparing env s).within
        fun s d hd => (by cases hd)
  | cancelOperation =>
      exact stays_last env (cancelOperationNode_sparing env s).within
        fun s d hd => (by cases hd)
  | confirmDeliveryInvestigation =>
      exact stays_last env (Environment.Within.pure trivial) fun s d hd => (by cases hd)
  | cancelDeliveryInvestigation =>
      exact stays_last env (Environment.Within.pure trivial) fun s d hd => (by cases hd)

theorem operationSubflow_within (s : RefundState) :
    env.Within (operationSubflow env s) (fun _ => True) := by
  refine ⟨Workflow.within (J := SnapshotRead env) ?_ _ _ _ ?_⟩
  · exact fun n t ht => (operationNode_within env n t ht).all
  · rintro (h | h) <;> cases h

/-!
## A turn
-/

theorem createRefundNode_sparing (s : RefundState) : Sparing (createRefundNode env s) := by
  unfold createRefundNode
  cases s.orderId with
  | none => exact Sparing.pure _
  | some orderId =>
      refine Sparing.bind (Sparing.done _) fun scope => ?_
      refine Sparing.bind (createRefund_sparing _ _ _) fun created => ?_
      exact Sparing.ite (Sparing.pure _) (Sparing.pure _)

theorem supportCaseStatusNode_sparing (s : RefundState) :
    Sparing (supportCaseStatusNode env s) := by
  unfold supportCaseStatusNode
  cases env.requireThreadId with
  | error e => exact Sparing.pure _
  | ok threadId =>
      refine Sparing.bind (Sparing.done _) fun scope => ?_
      refine Sparing.bind (Sparing.done _) fun thread => ?_
      refine Sparing.bind (Sparing.perform (listThreadCases_spares _ _)) fun cases => ?_
      exact Sparing.ite (Sparing.pure _) (Sparing.pure _)

theorem openInvestigation_sparing (s : RefundState) (scope : AccessScope)
    (trigger : CaseTrigger) (decision : HandoffDecision) (issueType : DeliveryIssueType) :
    Sparing (openInvestigation env s scope trigger decision issueType) := by
  unfold openInvestigation
  cases env.resolve scope.tenantId with
  | ok connectionId =>
      exact Sparing.bind (recordDeliveryInvestigation_sparing _ _ _ _ _ _) fun _ =>
        Sparing.pure _
  | error e =>
      refine Sparing.ite ?_ (Sparing.raise _)
      exact Sparing.bind (recordHandoff_sparing _ _ _ _) fun _ => Sparing.pure _

theorem finalizeCaseHandoff_sparing (s : RefundState) :
    Sparing (finalizeCaseHandoff env s) := by
  unfold finalizeCaseHandoff
  refine Sparing.ite (Sparing.pure _) ?_
  refine Sparing.bind (Sparing.done _) fun input => ?_
  refine Sparing.ite ?_ (Sparing.pure _)
  unfold recordDecision
  refine Sparing.bind (Sparing.done _) fun trigger => ?_
  refine Sparing.bind (Sparing.done _) fun scope => ?_
  refine Sparing.ite ?_ ?_
  · exact Sparing.bind (recordHandoff_sparing _ _ _ _) fun _ => Sparing.pure _
  · refine Sparing.bind (Sparing.done _) fun issueType => ?_
    exact openInvestigation_sparing env s scope trigger _ issueType

theorem attachOperationCase_sparing (s : RefundState) :
    Sparing (attachOperationCase env s) := by
  unfold attachOperationCase
  cases s.operationId with
  | none => exact Sparing.pure _
  | some operationId =>
      cases s.supportCaseId with
      | none => exact Sparing.pure _
      | some caseId =>
          refine Sparing.ite (Sparing.pure _) (Sparing.ite (Sparing.pure _) ?_)
          refine Sparing.bind (Sparing.done _) fun scope => ?_
          exact Sparing.bind (attachSupportCase_sparing _ _ _ _ _) fun _ =>
            Sparing.pure _

theorem stays_any {ν : Type} {p : Call RefundState} (h : env.Within p (fun _ => True)) :
    env.Within (stays p : Call (RefundState × Option ν)) (fun _ => True) :=
  (stays_within env h).mono fun _ _ => trivial

theorem stays_sparing {ν : Type} {p : Call RefundState} (h : Sparing p) :
    env.Within (stays p : Call (RefundState × Option ν)) (fun _ => True) :=
  stays_any env h.within

theorem graphNode_within (n : Node) (s : RefundState) :
    env.Within (graphNode env n s) (fun _ => True) := by
  cases n with
  | searchNode => exact stays_sparing env (Sparing.done _)
  | orderResponse => exact stays_sparing env (Sparing.done _)
  | confirmHumanHandoff =>
      exact (Sparing.bind (Sparing.done _) fun _ => Sparing.pure _).within
  | confirmOrderPriority =>
      exact (Sparing.bind (Sparing.done _) fun _ => Sparing.pure _).within
  | approvalNode => exact Environment.Within.pure trivial
  | proceed => exact stays_sparing env (createRefundNode_sparing env s)
  | supportCaseStatus => exact stays_sparing env (supportCaseStatusNode_sparing env s)
  | operationSubflow =>
      refine stays_any env ?_
      exact Environment.Within.bind (operationSubflow_within env s) fun _ _ =>
        Environment.Within.pure trivial
  | finalizeCaseHandoff => exact stays_sparing env (finalizeCaseHandoff_sparing env s)
  | attachOperationCase => exact stays_sparing env (attachOperationCase_sparing env s)
  | _ => exact stays_any env (Environment.Within.pure trivial)

theorem turn_within (s : RefundState) : env.Within (turn env s) (fun _ => True) :=
  ⟨Workflow.within (J := fun _ _ => True)
    (fun n t _ => (graphNode_within env n t).all.mono fun _ _ _ _ => trivial) _ _ _
    trivial⟩

end Nodes

end RefundAgent
