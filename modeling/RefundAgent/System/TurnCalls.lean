import RefundAgent.Graph.Turn
import RefundAgent.System.CaseCalls

/-!
# Turns among other calls

A turn reaches the database only through the services, so a turn behaves when
its service calls do.  The refund service is the one that has not been treated
before: it writes one row and touches nothing else.
-/

namespace RefundAgent

open Foundation

variable {D : HandoffDecision -> Prop}

/-!
## Composition
-/

namespace Harmless

variable {α β : Type}

theorem pure (a : α) : Harmless D (Pure.pure a : Call α) :=
  fun _ => Behaves.pure fun _ _ => trivial

theorem raise (e : Failure) : Harmless D (Program.raise e : Call α) :=
  fun _ => Behaves.raise

theorem settled (r : Except Failure α) : Harmless D (RefundAgent.settled r) :=
  fun _ => Behaves.done fun _ _ _ _ => trivial

theorem bind {p : Call α} {f : α -> Call β} (h : Harmless D p)
    (hnext : forall a, Harmless D (f a)) : Harmless D (p >>= f) :=
  fun db => Behaves.bind (h db) fun a t _ _ => hnext a t

theorem rescue {p : Call α} {handler : Failure -> Option (Call α)} (h : Harmless D p)
    (hcatch : forall e q, handler e = some q -> Harmless D q) :
    Harmless D (p.rescue handler) :=
  fun db => Behaves.rescue (h db) fun e q t hq _ => hcatch e q hq t

theorem ite {c : Prop} [Decidable c] {p q : Call α} (hp : Harmless D p)
    (hq : Harmless D q) : Harmless D (if c then p else q) := by
  by_cases hc : c
  · rw [if_pos hc]
    exact hp
  · rw [if_neg hc]
    exact hq

theorem workflow {ν τ : Type} {w : Workflow Database Failure ν τ}
    (h : forall n t, Harmless D (w.node n t)) (visits : Nat) (n : ν) (t : τ) :
    Harmless D (w.run visits n t) := by
  intro db
  refine ⟨Program.Safe.of_later Later.refl fun db' _ hsound => ?_⟩
  have hnode (n t s) (_ : Sound s) :
      Program.Safe Sound Later (Served D) (fun _ => True) (w.node n t) s fun _ _ => True :=
    ((h n t s).safe).mono fun _ _ _ => trivial
  exact (Workflow.safe Later.refl hnode visits n t db' hsound).mono
    fun _ _ _ _ _ => trivial

end Harmless

/-!
## Refunds and reports
-/

theorem insertRefundOnce_step {r : RefundRequest} {db db' : Database} {created : Bool}
    (h : insertRefundOnce r db = Except.ok (created, db')) :
    (created = false ∧ db' = db) ∨
      (created = true ∧ exists refunds, RefundStep (some r) db.refunds refunds ∧
        db' = { db with refunds := refunds }) := by
  simp only [insertRefundOnce, Transaction.bind_eq_ok, Transaction.read_eq_ok] at h
  rcases h with ⟨seen, t, hread, h⟩
  cases hread
  by_cases hfree : forall x, x ∈ db.refunds.rows -> x.orderId ≠ r.orderId
  · rw [id, if_pos hfree] at h
    simp only [Transaction.bind_eq_ok, insertRow_eq_ok, Transaction.pure_eq_ok,
      Prod.mk.injEq] at h
    rcases h with ⟨_, u, ⟨refunds, hinsert, hstore⟩, hcreated, hdb⟩
    refine Or.inr ⟨hcreated.symm, refunds, RefundStep.create hfree hinsert, ?_⟩
    rw [← hdb]
    exact hstore.symm
  · rw [id, if_neg hfree] at h
    simp only [Transaction.pure_eq_ok, Prod.mk.injEq] at h
    exact Or.inl ⟨h.left.symm, h.right.symm⟩

theorem createRefundRequest_eq_ok {scope : AccessScope} {r : RefundRequest}
    {db db' : Database} {created : Bool} :
    createRefundRequest scope r db = Except.ok (created, db') ↔
      some r.customerId = scope.customerId ∧ r.tenantId = scope.tenantId ∧
        insertRefundOnce r db = Except.ok (created, db') := by
  simp only [createRefundRequest, customerOwnedVisibility, Transaction.translate_eq_ok,
    Transaction.bind_eq_ok, Transaction.fetch_eq_ok, Transaction.require_eq_ok]
  constructor
  · rintro ⟨_, _, ⟨_, hfirst⟩, _, _, ⟨hown, hsecond⟩, hinsert⟩
    cases hfirst
    cases hsecond
    exact ⟨hown.left, hown.right, hinsert⟩
  · rintro ⟨hcustomer, htenant, hinsert⟩
    exact ⟨r.customerId, db, ⟨hcustomer.symm, rfl⟩, (), db, ⟨⟨hcustomer, htenant⟩, rfl⟩,
      hinsert⟩

theorem createRefundRequest_served {scope : AccessScope} {r : RefundRequest}
    {db db' : Database} {created : Bool} (hissued : db.ids.Issued r.refundId)
    (h : createRefundRequest scope r db = Except.ok (created, db')) :
    Served D db db' := by
  rw [createRefundRequest_eq_ok] at h
  rcases insertRefundOnce_step h.right.right with ⟨_, hsame⟩ | ⟨_, refunds, hstep, hnew⟩
  · rw [hsame]
    exact Served.refl db
  · refine Served.of_steps (l := { refund := some r }) ?_ Combination.idle
      ⟨id, id, id, trivial⟩
    rw [hnew]
    refine { Steps.refl db with refund := hstep, createdIds := ?_ }
    rintro x (hx | hx | hx | hx)
    · cases hx
    · cases hx
    · cases hx
    · rw [← Option.some.inj hx]
      exact hissued

theorem createRefund_harmless (scope : AccessScope) (orderId : String) (now : Time) :
    Harmless D (createRefund scope orderId now) := by
  unfold createRefund
  cases scope.customerId with
  | none => exact Harmless.raise _
  | some customerId =>
      intro db
      refine Behaves.bind (freshId_behaves db) ?_
      intro refundId t _ hissued
      cases OrderId.parse? orderId with
      | none => exact Harmless.raise _ t
      | some order =>
          refine Behaves.act ?_
          intro u htu _ created v hv
          exact createRefundRequest_served (hissued.mono htu.ids) hv

theorem listThreadCases_same {scope : AccessScope} {threadId : CleanText}
    {db db' : Database} {cases : List SupportCase}
    (h : listThreadCases scope threadId db = Except.ok (cases, db')) : db' = db := by
  simp only [listThreadCases, visibleCases, Transaction.bind_eq_ok] at h
  rcases h with ⟨visible, t, hvisible, page, u, hpage, hall⟩
  have ht : t = db := by
    cases hv : caseVisibility scope with
    | ok p =>
        rw [hv] at hvisible
        cases hvisible
        rfl
    | error e =>
        rw [hv] at hvisible
        cases hvisible
  cases hpage
  rw [← ht]
  have hloop := Transaction.forEach_relates (R := fun s t : Database => t = s)
    (P := fun _ _ => True) (Q := fun _ _ => True) (D := fun _ _ => True)
    (fun _ => rfl) (fun h h' => h'.trans h) (fun _ _ => trivial) (f := caseFromRow)
    (by
      intro row s case s' _ hrow
      simp only [caseFromRow, Transaction.bind_eq_ok, Transaction.require_eq_ok,
        Transaction.pure_eq_ok, Prod.mk.injEq] at hrow
      rcases hrow with ⟨_, s'', ⟨_, hmiddle⟩, _, hlast⟩
      have hsame : s' = s := hlast.symm.trans hmiddle.right.symm
      exact ⟨hsame, trivial, fun _ _ _ => trivial⟩)
    (List.pairwise_of_forall fun _ _ => trivial) (fun _ _ => trivial) hall
  exact hloop.left

/-!
## Nodes
-/

theorem Harmless.stays {ν : Type} {p : Call RefundState} (h : Harmless D p) :
    Harmless D (RefundAgent.stays p : Call (RefundState × Option ν)) :=
  Harmless.bind h fun _ => Harmless.pure _

variable (env : Environment) (s : RefundState)

theorem createRefundNode_harmless : Harmless D (createRefundNode env s) := by
  unfold createRefundNode
  cases s.orderId with
  | none => exact Harmless.pure _
  | some orderId =>
      refine Harmless.bind (Harmless.settled _) fun scope => ?_
      refine Harmless.bind (createRefund_harmless scope orderId.text _) fun created => ?_
      exact Harmless.ite (Harmless.pure _) (Harmless.pure _)

theorem persistOrRespond_harmless (request : OrderOperationRequest)
    (snapshot : OrderSnapshot) (decision : OperationDecision) (excerpt : String) :
    Harmless D (persistOrRespond env s request snapshot decision excerpt) := by
  unfold persistOrRespond
  refine Harmless.ite ?_ (Harmless.pure _)
  refine Harmless.bind (Harmless.settled _) fun scope => ?_
  refine Harmless.bind (createPendingOperation_harmless _ _ _ _ _ _) fun result => ?_
  exact Harmless.ite (Harmless.pure _) (Harmless.pure _)

theorem evaluateOrderOperation_harmless (snapshot : OrderSnapshot)
    (threadId sourceMessageId excerpt : String) (extraction : OperationRequestExtraction) :
    Harmless D (evaluateOrderOperation env s snapshot threadId sourceMessageId excerpt
      extraction) := by
  unfold evaluateOrderOperation
  refine Harmless.bind (Harmless.settled _) fun scope => ?_
  cases scope.customerId with
  | none => exact Harmless.pure _
  | some customerId =>
      refine Harmless.bind (Harmless.settled _) fun request => ?_
      refine Harmless.bind (Harmless.settled _) fun availability => ?_
      refine Harmless.bind (Harmless.settled _) fun decision => ?_
      exact persistOrRespond_harmless env s request snapshot decision excerpt

theorem evaluateOperationRequest_harmless : Harmless D (evaluateOperationRequest env s) := by
  unfold evaluateOperationRequest
  cases s.operationExtraction with
  | none => exact Harmless.raise _
  | some extraction =>
      refine Harmless.ite (Harmless.pure _) ?_
      cases s.operationSnapshot with
      | none => exact Harmless.raise _
      | some snapshot =>
          refine Harmless.bind (Harmless.settled _) fun metadata => ?_
          cases extraction.deliveryIssueType with
          | some issueType => exact Harmless.settled _
          | none => exact evaluateOrderOperation_harmless env s snapshot _ _ _ extraction

theorem submitConfirmedOperationNode_harmless :
    Harmless D (submitConfirmedOperationNode env s) := by
  unfold submitConfirmedOperationNode
  refine Harmless.bind (Harmless.settled _) fun operationId => ?_
  refine Harmless.rescue ?_ ?_
  · refine Harmless.bind (Harmless.settled _) fun scope => ?_
    refine Harmless.bind (Harmless.settled _) fun connectionId => ?_
    refine Harmless.bind (queueConfirmedOperation_harmless _ _ _ _ _) fun result => ?_
    exact Harmless.pure _
  · intro e q hq
    by_cases he : connectionUnavailable e = true
    · rw [if_pos he] at hq
      cases hq
      refine Harmless.bind (Harmless.settled _) fun scope => ?_
      refine Harmless.bind (moveToProviderManualReview_harmless _ _ _ _)
        fun fallback => ?_
      exact Harmless.pure _
    · rw [if_neg he] at hq
      cases hq

theorem confirmManualOperationNode_harmless :
    Harmless D (confirmManualOperationNode env s) := by
  unfold confirmManualOperationNode
  refine Harmless.bind (Harmless.settled _) fun operationId => ?_
  refine Harmless.bind (Harmless.settled _) fun scope => ?_
  exact Harmless.bind (confirmOperation_harmless _ _ _ _) fun _ => Harmless.pure _

theorem cancelOperationNode_harmless : Harmless D (cancelOperationNode env s) := by
  unfold cancelOperationNode
  refine Harmless.bind (Harmless.settled _) fun operationId => ?_
  refine Harmless.bind (Harmless.settled _) fun scope => ?_
  exact Harmless.bind (cancelPendingOperation_harmless _ _ _ _) fun _ => Harmless.pure _

theorem openInvestigation_harmless (scope : AccessScope) (trigger : CaseTrigger)
    {decision : HandoffDecision} (issueType : DeliveryIssueType) (hd : D decision)
    (hsafe : D (safeDecision decision)) :
    Harmless D (openInvestigation env s scope trigger decision issueType) := by
  unfold openInvestigation
  cases env.resolve scope.tenantId with
  | ok connectionId =>
      exact Harmless.bind (recordDeliveryInvestigation_harmless _ _ _ _ _ _ hd)
        fun _ => Harmless.pure _
  | error e =>
      refine Harmless.ite ?_ (Harmless.raise _)
      exact Harmless.bind (recordHandoff_harmless _ _ _ _ hsafe) fun _ => Harmless.pure _

/--
The handoff decisions of the turns: those of the policy, and the one that
replaces the decision of an investigation that no provider connection can take.
-/
inductive PolicyDecision : HandoffDecision -> Prop
  | policy (input : HandoffPolicyInput) : PolicyDecision (determineHandoffPolicy input)
  | safe {input : HandoffPolicyInput} (h : (determineHandoffPolicy input).caseType =
      some CaseType.deliveryInvestigation) :
      PolicyDecision (safeDecision (determineHandoffPolicy input))

theorem recordDecision_harmless (hD : forall d, PolicyDecision d -> D d)
    (input : HandoffPolicyInput) :
    Harmless D (recordDecision env s (determineHandoffPolicy input)) := by
  have hd := hD _ (PolicyDecision.policy input)
  unfold recordDecision
  refine Harmless.bind (Harmless.settled _) fun trigger => ?_
  refine Harmless.bind (Harmless.settled _) fun scope => ?_
  by_cases hkind : (determineHandoffPolicy input).caseType ≠
      some CaseType.deliveryInvestigation
  · rw [if_pos hkind]
    exact Harmless.bind (recordHandoff_harmless _ _ _ _ hd) fun _ => Harmless.pure _
  · rw [if_neg hkind]
    refine Harmless.bind (Harmless.settled _) fun issueType => ?_
    exact openInvestigation_harmless env s scope trigger issueType hd
      (hD _ (PolicyDecision.safe (not_not.mp hkind)))

theorem finalizeCaseHandoff_harmless (hD : forall d, PolicyDecision d -> D d) :
    Harmless D (finalizeCaseHandoff env s) := by
  unfold finalizeCaseHandoff
  refine Harmless.ite (Harmless.pure _) ?_
  refine Harmless.bind (Harmless.settled _) fun input => ?_
  exact Harmless.ite (recordDecision_harmless env s hD input) (Harmless.pure _)

theorem attachOperationCase_harmless : Harmless D (attachOperationCase env s) := by
  unfold attachOperationCase
  cases s.operationId with
  | none => exact Harmless.pure _
  | some operationId =>
      cases s.supportCaseId with
      | none => exact Harmless.pure _
      | some caseId =>
          refine Harmless.ite (Harmless.pure _) (Harmless.ite (Harmless.pure _) ?_)
          refine Harmless.bind (Harmless.settled _) fun scope => ?_
          exact Harmless.bind (attachSupportCase_harmless _ _ _ _ _)
            fun _ => Harmless.pure _

theorem supportCaseStatusNode_harmless : Harmless D (supportCaseStatusNode env s) := by
  unfold supportCaseStatusNode
  cases env.requireThreadId with
  | error e => exact Harmless.pure _
  | ok threadId =>
      refine Harmless.bind (Harmless.settled _) fun scope => ?_
      refine Harmless.bind (Harmless.settled _) fun thread => ?_
      refine Harmless.bind (fun db => Behaves.read (fun _ _ _ _ _ => trivial) ?_)
        fun cases => Harmless.ite (Harmless.pure _) (Harmless.pure _)
      intro t cases u hu
      exact ⟨listThreadCases_same hu, trivial⟩

/-!
## The graphs
-/

theorem operationNode_harmless (n : OperationNode) :
    Harmless D (operationNode env n s) := by
  cases n with
  | detectOperationOrder => exact Harmless.stays (Harmless.pure _)
  | loadOperationSnapshot => exact Harmless.stays (Harmless.settled _)
  | extractOperationRequest => exact Harmless.stays (Harmless.pure _)
  | evaluateOperationRequest =>
      exact Harmless.stays (evaluateOperationRequest_harmless env s)
  | operationConfirmation =>
      exact Harmless.bind (Harmless.settled _) fun _ => Harmless.pure _
  | submitConfirmedOperation =>
      exact Harmless.stays (submitConfirmedOperationNode_harmless env s)
  | confirmManualOperation =>
      exact Harmless.stays (confirmManualOperationNode_harmless env s)
  | cancelOperation => exact Harmless.stays (cancelOperationNode_harmless env s)
  | confirmDeliveryInvestigation => exact Harmless.stays (Harmless.pure _)
  | cancelDeliveryInvestigation => exact Harmless.stays (Harmless.pure _)

theorem operationSubflow_harmless : Harmless D (operationSubflow env s) :=
  Harmless.workflow (fun n t => operationNode_harmless env t n) _ _ _

theorem graphNode_harmless (hD : forall d, PolicyDecision d -> D d) (n : Node) :
    Harmless D (graphNode env n s) := by
  cases n with
  | searchNode => exact Harmless.stays (Harmless.settled _)
  | orderResponse => exact Harmless.stays (Harmless.settled _)
  | confirmHumanHandoff =>
      exact Harmless.bind (Harmless.settled _) fun _ => Harmless.pure _
  | confirmOrderPriority =>
      exact Harmless.bind (Harmless.settled _) fun _ => Harmless.pure _
  | approvalNode => exact Harmless.pure _
  | proceed => exact Harmless.stays (createRefundNode_harmless env s)
  | supportCaseStatus => exact Harmless.stays (supportCaseStatusNode_harmless env s)
  | operationSubflow =>
      refine Harmless.stays ?_
      exact Harmless.bind (operationSubflow_harmless env s) fun _ => Harmless.pure _
  | finalizeCaseHandoff => exact Harmless.stays (finalizeCaseHandoff_harmless env s hD)
  | attachOperationCase => exact Harmless.stays (attachOperationCase_harmless env s)
  | _ => exact Harmless.stays (Harmless.pure _)

theorem turn_harmless (hD : forall d, PolicyDecision d -> D d) :
    Harmless D (turn env s) :=
  Harmless.workflow (fun n t => graphNode_harmless env t hD n) _ _ _

end RefundAgent
