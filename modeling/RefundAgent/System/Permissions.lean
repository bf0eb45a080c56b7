import RefundAgent.Graph.Paths
import RefundAgent.Risk.Matcher
import RefundAgent.System.CallTraces
import RefundAgent.System.Footprint
import RefundAgent.System.Reasons

/-!
# What a turn is permitted

The graph is the only thing that stands between a model's output and a write.  A turn
writes a confirmation or a command only if the customer has said yes to the operation,
a refund only if the customer has approved it, and after a critical message nothing but
support cases; whatever the models, the stores and the other callers do.
-/

namespace RefundAgent

open Foundation

/-!
## Nodes
-/

structure RefundState.Fresh (s : RefundState) : Prop where
  operation : s.operationId = none
  domain : s.domainCaseReasonCodes = []

theorem RefundState.Fresh.say {s : RefundState} (h : s.Fresh) (text : String) :
    (s.say text).Fresh :=
  ⟨h.operation, h.domain⟩

/-- The customer has agreed, or there is nothing that would open an investigation. -/
def Environment.Quiet (env : Environment) (s : RefundState) : Prop :=
  env.operationConfirmation = ResumeValue.bool true ∨ s.domainCaseReasonCodes = []

theorem stays_confined {F : List Part} {ν : Type} {p : Call RefundState}
    {Q : RefundState -> Prop} (h : Confined F p Q) :
    Confined F (stays p : Call (RefundState × Option ν)) fun result => Q result.1 :=
  Confined.bind h fun _ hs => Confined.pure hs

section Nodes

variable {F : List Part} {env : Environment} {s : RefundState}

theorem checkRiskRules_fresh (env : Environment) (s : RefundState) :
    (checkRiskRules env s).Fresh :=
  ⟨rfl, rfl⟩

theorem classifySemanticRisk_fresh (h : s.Fresh) : (classifySemanticRisk env s).Fresh := by
  unfold classifySemanticRisk
  cases s.latestMessage with
  | none => exact ⟨h.operation, h.domain⟩
  | some message => exact ⟨h.operation, h.domain⟩

theorem llmCallRouter_fresh (env : Environment) (s : RefundState) :
    (llmCallRouter env s).Fresh := by
  unfold llmCallRouter
  cases s.latestMessage with
  | none => exact ⟨rfl, rfl⟩
  | some message => exact ⟨rfl, rfl⟩

theorem classifyFormalComplaint_fresh (h : s.Fresh) :
    (classifyFormalComplaint env s).Fresh := by
  unfold classifyFormalComplaint
  cases s.latestMessage with
  | none => exact ⟨h.operation, h.domain⟩
  | some message => exact ⟨h.operation, h.domain⟩

theorem confirmHumanHandoff_fresh (h : s.Fresh) {r : RefundState × Node}
    (hr : confirmHumanHandoff env s = Except.ok r) : r.1.Fresh := by
  unfold confirmHumanHandoff at hr
  split at hr
  · cases hr
    exact ⟨h.operation, h.domain⟩
  · split at hr
    · cases hroute : routeAfterHumanHandoffDeclined s with
      | error e =>
          rw [hroute] at hr
          cases hr
      | ok d =>
          rw [hroute] at hr
          cases hr
          exact ⟨h.operation, h.domain⟩
    · cases hr

theorem confirmOrderPriority_fresh (h : s.Fresh) {r : RefundState × Node}
    (hr : confirmOrderPriority env s = Except.ok r) : r.1.Fresh := by
  unfold confirmOrderPriority at hr
  split at hr
  · cases hr
    exact ⟨h.operation, h.domain⟩
  · split at hr
    · cases hr
      exact ⟨h.operation, h.domain⟩
    · cases hr

theorem handleComplaint_fresh (h : s.Fresh) : (handleComplaint env s).Fresh := by
  unfold handleComplaint
  cases s.latestMessage with
  | none => exact h.say _
  | some message => exact h.say _

theorem handleNoncriticalRisk_fresh (h : s.Fresh) :
    (handleNoncriticalRisk env s).Fresh := by
  unfold handleNoncriticalRisk
  cases s.latestMessage with
  | none => exact h.say _
  | some message => exact h.say _

theorem handleCriticalRisk_fresh (h : s.Fresh) : (handleCriticalRisk env s).Fresh :=
  ⟨h.operation, h.domain⟩

theorem detectOrder_fresh (h : s.Fresh) : (detectOrder env s).Fresh := by
  unfold detectOrder
  cases s.latestMessage with
  | none => exact ⟨h.operation, h.domain⟩
  | some message =>
      dsimp only
      split
      · split
        · exact ⟨h.operation, h.domain⟩
        · exact ⟨h.operation, h.domain⟩
      · split
        · split
          · exact ⟨h.operation, h.domain⟩
          · exact ⟨h.operation, h.domain⟩
        · exact ⟨h.operation, h.domain⟩

theorem searchOrderNode_fresh (h : s.Fresh) {s' : RefundState}
    (hs' : searchOrderNode env s = Except.ok s') : s'.Fresh := by
  unfold searchOrderNode at hs'
  cases hscope : env.requireScope with
  | error e =>
      rw [hscope] at hs'
      cases hs'
  | ok scope =>
      simp only [hscope, Bind.bind, Except.bind] at hs'
      split at hs'
      · cases hs'
        exact ⟨h.operation, h.domain⟩
      · cases hs'
      · split at hs'
        · cases hs'
          exact ⟨h.operation, h.domain⟩
        · cases hs'
          exact ⟨h.operation, h.domain⟩

theorem orderResponseNode_fresh (h : s.Fresh) {s' : RefundState}
    (hs' : orderResponseNode s = Except.ok s') : s'.Fresh := by
  unfold orderResponseNode at hs'
  cases hinfo : s.orderInfo with
  | none =>
      simp only [hinfo] at hs'
      cases hs'
  | some order =>
      simp only [hinfo] at hs'
      cases hs'
      exact h.say _

theorem checkRefundEligibilityNode_fresh (h : s.Fresh) :
    (checkRefundEligibilityNode env s).Fresh := by
  unfold checkRefundEligibilityNode
  dsimp only
  split
  · exact ⟨h.operation, h.domain⟩
  · split
    · exact ⟨h.operation, h.domain⟩
    · exact ⟨h.operation, h.domain⟩

theorem createRefundNode_confined (hrefunds : Part.refunds ∈ F) (h : s.Fresh) :
    Confined F (createRefundNode env s) RefundState.Fresh := by
  unfold createRefundNode
  cases s.orderId with
  | none => exact Confined.pure ⟨h.operation, h.domain⟩
  | some orderId =>
      refine Confined.bind (Confined.done _) fun scope _ => ?_
      refine Confined.bind (createRefund_confined hrefunds _ _ _) fun created _ => ?_
      exact Confined.ite (Confined.pure ⟨h.operation, h.domain⟩)
        (Confined.pure ⟨h.operation, h.domain⟩)

theorem supportCaseStatusNode_confined (h : s.Fresh) :
    Confined F (supportCaseStatusNode env s) RefundState.Fresh := by
  unfold supportCaseStatusNode
  cases env.requireThreadId with
  | error e => exact Confined.pure (h.say _)
  | ok threadId =>
      refine Confined.bind (Confined.done _) fun scope _ => ?_
      refine Confined.bind (Confined.done _) fun thread _ => ?_
      refine Confined.bind (Confined.perform (listThreadCases_confines _ _))
        fun cases _ => ?_
      exact Confined.ite (Confined.pure (h.say _)) (Confined.pure (h.say _))

/-!
## The operation subflow
-/

theorem loadOperationSnapshot_fresh (h : s.Fresh) {s' : RefundState}
    (hs' : loadOperationSnapshot env s = Except.ok s') : s'.Fresh := by
  unfold loadOperationSnapshot at hs'
  cases horder : s.orderId with
  | none =>
      simp only [horder] at hs'
      cases hs'
      exact ⟨h.operation, h.domain⟩
  | some orderId =>
      cases hscope : env.requireScope with
      | error e =>
          simp only [horder, hscope, Bind.bind, Except.bind] at hs'
          cases hs'
      | ok scope =>
          cases hcustomer : scope.customerId with
          | none =>
              simp only [horder, hscope, hcustomer, Bind.bind, Except.bind] at hs'
              cases hs'
              exact ⟨h.operation, h.domain⟩
          | some customerId =>
              cases hget : env.getOrderForCustomer orderId customerId scope.tenantId with
              | error e =>
                  simp only [horder, hscope, hcustomer, hget, Bind.bind, Except.bind] at hs'
                  cases hs'
              | ok found =>
                  simp only [horder, hscope, hcustomer, hget, Bind.bind, Except.bind] at hs'
                  cases found with
                  | none =>
                      cases hs'
                      exact ⟨h.operation, h.domain⟩
                  | some snapshot =>
                      cases hs'
                      exact ⟨h.operation, h.domain⟩

theorem extractOperationRequest_fresh (h : s.Fresh) :
    (extractOperationRequest env s).Fresh := by
  unfold extractOperationRequest
  cases s.latestMessage with
  | none => exact ⟨h.operation, h.domain⟩
  | some message => exact ⟨h.operation, h.domain⟩

/-- Domain codes of a delivery report go together with the question to the customer. -/
structure RefundState.Evaluated (s : RefundState) : Prop where
  asked : s.domainCaseReasonCodes ≠ [] -> asksForConfirmation s = true
  report : s.operationId ≠ none -> s.domainCaseReasonCodes = []

theorem RefundState.Evaluated.of_domain (h : s.domainCaseReasonCodes = []) : s.Evaluated :=
  ⟨fun hne => absurd h hne, fun _ => h⟩

theorem evaluateDeliveryReport_evaluated (h : s.Fresh) {snapshot : OrderSnapshot}
    {threadId sourceMessageId : String} {issueType : DeliveryIssueType} {asked : Bool}
    {s' : RefundState}
    (hs' : evaluateDeliveryReport env s snapshot threadId sourceMessageId issueType asked =
      Except.ok s') : s'.Evaluated := by
  unfold evaluateDeliveryReport at hs'
  cases hthread : cleanField "DeliveryIssueRequest" threadId with
  | error e =>
      simp only [hthread, Bind.bind, Except.bind] at hs'
      cases hs'
  | ok thread =>
      cases hmessage : cleanField "DeliveryIssueRequest" sourceMessageId with
      | error e =>
          simp only [hthread, hmessage, Bind.bind, Except.bind] at hs'
          cases hs'
      | ok message =>
          simp only [hthread, hmessage, Bind.bind, Except.bind] at hs'
          split at hs'
          · cases hs'
          · rename_i decision _
            cases hs'
            constructor
            · -- without a manual review the codes are still those of a fresh turn
              intro hne
              by_cases hmanual : decision.outcome = DeliveryOutcome.manualReview
              · refine decide_eq_true (Or.inr ⟨h.operation, ?_, hne⟩)
                exact decide_eq_true hmanual
              · refine absurd ?_ hne
                show (if decision.outcome = DeliveryOutcome.manualReview then
                  decision.reasonCodes else s.domainCaseReasonCodes) = []
                rw [if_neg hmanual, h.domain]
            · exact fun hne => absurd h.operation hne

theorem persistOrRespond_confined (hoperations : Part.operations ∈ F) (h : s.Fresh)
    (request : OrderOperationRequest) (snapshot : OrderSnapshot)
    (decision : OperationDecision) (excerpt : String) :
    Confined F (persistOrRespond env s request snapshot decision excerpt)
      RefundState.Evaluated := by
  unfold persistOrRespond
  refine Confined.ite ?_ (Confined.pure (RefundState.Evaluated.of_domain h.domain))
  refine Confined.bind (Confined.done _) fun scope _ => ?_
  apply Confined.bind (createPendingOperation_confined hoperations _ _ _ _ _ _)
  intro result _
  exact Confined.ite (Confined.pure (RefundState.Evaluated.of_domain h.domain))
    (Confined.pure (RefundState.Evaluated.of_domain h.domain))

theorem evaluateOperationRequest_confined (hoperations : Part.operations ∈ F)
    (h : s.Fresh) :
    Confined F (evaluateOperationRequest env s) RefundState.Evaluated := by
  unfold evaluateOperationRequest
  cases s.operationExtraction with
  | none => exact Confined.raise _
  | some extraction =>
      refine Confined.ite (Confined.pure ?_) ?_
      · exact RefundState.Evaluated.of_domain h.domain
      cases s.operationSnapshot with
      | none => exact Confined.raise _
      | some snapshot =>
          refine Confined.bind (Confined.done _) fun metadata _ => ?_
          cases extraction.deliveryIssueType with
          | some issueType =>
              apply (Confined.done _).mono
              exact fun s' hs' => evaluateDeliveryReport_evaluated h hs'
          | none =>
              refine Confined.bind (Confined.done _) fun scope _ => ?_
              cases scope.customerId with
              | none => exact Confined.pure (RefundState.Evaluated.of_domain h.domain)
              | some customerId =>
                  refine Confined.bind (Confined.done _) fun request _ => ?_
                  refine Confined.bind (Confined.done _) fun availability _ => ?_
                  refine Confined.bind (Confined.done _) fun decision _ => ?_
                  exact persistOrRespond_confined hoperations h _ _ _ _

theorem submitConfirmedOperationNode_confined (hcases : Part.cases ∈ F)
    (hoperations : Part.operations ∈ F) (hconfirms : Part.confirmations ∈ F)
    (houtbox : Part.outbox ∈ F ∧ Part.commands ∈ F) :
    Confined F (submitConfirmedOperationNode env s) Anything := by
  unfold submitConfirmedOperationNode
  refine Confined.bind (Confined.done _) fun operationId _ => ?_
  apply Confined.rescue
  · refine Confined.bind (Confined.done _) fun scope _ => ?_
    refine Confined.bind (Confined.done _) fun connectionId _ => ?_
    apply Confined.bind
      (queueConfirmedOperation_confined hoperations hconfirms houtbox _ _ _ _ _)
    exact fun _ _ => Confined.pure trivial
  · intro e q hq
    by_cases he : connectionUnavailable e = true
    · rw [if_pos he] at hq
      cases hq
      refine Confined.bind (Confined.done _) fun scope _ => ?_
      apply Confined.bind
        (moveToProviderManualReview_confined hcases hoperations hconfirms _ _ _ _)
      exact fun _ _ => Confined.pure trivial
    · rw [if_neg he] at hq
      cases hq

theorem confirmManualOperationNode_confined (hoperations : Part.operations ∈ F)
    (hconfirms : Part.confirmations ∈ F) :
    Confined F (confirmManualOperationNode env s) Anything := by
  unfold confirmManualOperationNode
  refine Confined.bind (Confined.done _) fun operationId _ => ?_
  refine Confined.bind (Confined.done _) fun scope _ => ?_
  apply Confined.bind (confirmOperation_confined hoperations hconfirms _ _ _ _)
  exact fun _ _ => Confined.pure trivial

theorem cancelOperationNode_confined (hoperations : Part.operations ∈ F) :
    Confined F (cancelOperationNode env s) fun s' =>
      s'.domainCaseReasonCodes = s.domainCaseReasonCodes := by
  unfold cancelOperationNode
  refine Confined.bind (Confined.done _) fun operationId _ => ?_
  refine Confined.bind (Confined.done _) fun scope _ => ?_
  apply Confined.bind (cancelPendingOperation_confined hoperations _ _ _ _)
  exact fun _ _ => Confined.pure rfl

/-- What is known of the state when a node of the subflow is reached. -/
def Environment.Heading (env : Environment) : OperationNode -> RefundState -> Prop
  | OperationNode.operationConfirmation, s => s.Evaluated
  | OperationNode.submitConfirmedOperation, _ =>
      env.operationConfirmation = ResumeValue.bool true
  | OperationNode.confirmManualOperation, _ =>
      env.operationConfirmation = ResumeValue.bool true
  | OperationNode.confirmDeliveryInvestigation, _ =>
      env.operationConfirmation = ResumeValue.bool true
  | OperationNode.cancelOperation, s => s.domainCaseReasonCodes = []
  | OperationNode.cancelDeliveryInvestigation, _ => True
  | _, s => s.Fresh

theorem operationConfirmationNode_heads (h : s.Evaluated) {d : OperationNode}
    (hd : operationConfirmationNode env s = Except.ok d) : env.Heading d s := by
  unfold operationConfirmationNode at hd
  split at hd
  · split at hd
    · cases hd
      trivial
    · rename_i hsome
      cases hd
      apply h.report
      intro hnone
      rw [hnone] at hsome
      exact hsome rfl
  · split at hd
    · cases hd
    · rename_i hyes
      have hyes := Classical.not_not.mp hyes
      split at hd
      · cases hd
        exact hyes
      · split at hd
        · cases hd
          exact hyes
        · cases hd
          exact hyes

/-- What a node of the subflow must establish. -/
def Environment.Onward (env : Environment) (n : OperationNode)
    (result : RefundState × Option OperationNode) : Prop :=
  (forall d, (operationSubgraph env).next n result = Except.ok (some d) ->
    env.Heading d result.1) ∧
  ((operationSubgraph env).next n result = Except.ok none -> env.Quiet result.1)

theorem stays_onward {p : Call RefundState} {n : OperationNode} {Q : RefundState -> Prop}
    (h : Confined F p Q)
    (hnext : forall s' d, Q s' -> operationEdge n s' = some d -> env.Heading d s')
    (hend : forall s', Q s' -> operationEdge n s' = none -> env.Quiet s') :
    Confined F (stays p) (env.Onward n) := by
  apply Confined.bind h
  intro s' hs'
  apply Confined.pure
  constructor
  · exact fun d hd => hnext s' d hs' (Except.ok.inj hd)
  · exact fun hd => hend s' hs' (Except.ok.inj hd)

theorem operationNode_onward (hcases : Part.cases ∈ F) (hoperations : Part.operations ∈ F)
    (hyes : env.operationConfirmation = ResumeValue.bool true ->
      Part.confirmations ∈ F ∧ Part.outbox ∈ F ∧ Part.commands ∈ F) (n : OperationNode)
    (h : env.Heading n s) : Confined F (operationNode env n s) (env.Onward n) := by
  cases n with
  | detectOperationOrder =>
      apply stays_onward (Confined.pure (detectOrder_fresh h))
      · intro s' d hs' hd
        simp only [operationEdge] at hd
        split at hd
        · cases hd
          exact hs'
        · cases hd
      · exact fun s' hs' _ => Or.inr hs'.domain
  | loadOperationSnapshot =>
      apply stays_onward (Q := RefundState.Fresh)
      · exact (Confined.done _).mono fun s' hs' => loadOperationSnapshot_fresh h hs'
      · intro s' d hs' hd
        simp only [operationEdge] at hd
        split at hd
        · cases hd
          exact hs'
        · cases hd
      · exact fun s' hs' _ => Or.inr hs'.domain
  | extractOperationRequest =>
      apply stays_onward (Confined.pure (extractOperationRequest_fresh h))
      · intro s' d hs' hd
        cases hd
        exact hs'
      · exact fun s' _ hd => (by cases hd)
  | evaluateOperationRequest =>
      apply stays_onward (evaluateOperationRequest_confined hoperations h)
      · intro s' d hs' hd
        simp only [operationEdge] at hd
        split at hd
        · cases hd
          exact hs'
        · cases hd
      · intro s' hs' hd
        simp only [operationEdge] at hd
        split at hd
        · cases hd
        · rename_i hasks
          exact Or.inr (Classical.byContradiction fun hne => hasks (hs'.asked hne))
  | operationConfirmation =>
      refine Confined.bind (Confined.done _) fun destination hdestination => ?_
      refine Confined.pure ⟨fun d hd => ?_, fun hd => (by cases hd)⟩
      cases hd
      exact operationConfirmationNode_heads h hdestination
  | submitConfirmedOperation =>
      apply stays_onward (submitConfirmedOperationNode_confined hcases hoperations
        (hyes h).left (hyes h).right)
      · exact fun s' d _ hd => (by cases hd)
      · exact fun s' _ _ => Or.inl h
  | confirmManualOperation =>
      apply stays_onward (confirmManualOperationNode_confined hoperations (hyes h).left)
      · exact fun s' d _ hd => (by cases hd)
      · exact fun s' _ _ => Or.inl h
  | cancelOperation =>
      apply stays_onward (cancelOperationNode_confined hoperations)
      · exact fun s' d _ hd => (by cases hd)
      · intro s' hs' _
        exact Or.inr (Eq.trans hs' h)
  | confirmDeliveryInvestigation =>
      apply stays_onward (Q := fun _ => True) (Confined.pure trivial)
      · exact fun s' d _ hd => (by cases hd)
      · exact fun s' _ _ => Or.inl h
  | cancelDeliveryInvestigation =>
      apply stays_onward (Q := fun s' => s'.domainCaseReasonCodes = []) (Confined.pure rfl)
      · exact fun s' d _ hd => (by cases hd)
      · exact fun s' hs' _ => Or.inr hs'

theorem operationSubflow_confined (hcases : Part.cases ∈ F)
    (hoperations : Part.operations ∈ F)
    (hyes : env.operationConfirmation = ResumeValue.bool true ->
      Part.confirmations ∈ F ∧ Part.outbox ∈ F ∧ Part.commands ∈ F) (h : s.Fresh) :
    Confined F (operationSubflow env s) fun r => env.Quiet r.2 := by
  have hnode : forall n t, env.Heading n t ->
      Program.Within (fun {_ : Type} tx => Confines F tx) ((operationSubgraph env).node n t)
        (env.Onward n) :=
    fun n t ht => (operationNode_onward hcases hoperations hyes n ht).all
  have hwithin := Workflow.within_path hnode recursionLimit
    OperationNode.detectOperationOrder s h
  exact ⟨hwithin.mono fun r hr => hr.left⟩

/-!
## The last two nodes
-/

theorem caseType_ne_investigation {input : HandoffPolicyInput} (hinput : InputOf s input)
    (h : s.domainCaseReasonCodes = []) :
    (determineHandoffPolicy input).caseType ≠ some CaseType.deliveryInvestigation := by
  intro htype
  rcases (determineHandoffPolicy_type htype).left with ⟨r, hr, hkind⟩
  have hdomain := hinput.domain
  rw [h] at hdomain
  have hcodes : [] = input.domainCaseReasonCodes := Except.ok.inj hdomain
  have hrisk : forall c, riskCaseType c ≠ CaseType.deliveryInvestigation := by
    intro c
    cases c <;> decide
  rw [mem_handoffReasons] at hr
  rcases hr with ⟨c, _, rfl⟩ | ⟨reason, c, hlevel, _, rfl⟩ | ⟨severity, _, rfl⟩ |
    ⟨_, rfl⟩ | ⟨_, rfl⟩ | ⟨_, rfl⟩ | hcode
  · exact hrisk c hkind
  · cases hsemantic : input.semanticRiskLevel with
    | none =>
        rw [hsemantic] at hlevel
        cases hlevel
    | some level =>
        rw [hsemantic] at hlevel
        have hrank := semanticReason_rank hlevel c
        rw [hkind] at hrank
        exact absurd hrank (by decide)
  · cases severity <;> cases hkind
  · cases hkind
  · cases hkind
  · cases hkind
  · rw [← hcodes] at hcode
    cases hcode

theorem openInvestigation_confined (hcases : Part.cases ∈ F)
    (houtbox : Part.outbox ∈ F ∧ Part.commands ∈ F)
    (scope : AccessScope) (trigger : CaseTrigger) (decision : HandoffDecision)
    (issueType : DeliveryIssueType) :
    Confined F (openInvestigation env s scope trigger decision issueType) fun s' =>
      s'.operationId = s.operationId := by
  unfold openInvestigation
  cases env.resolve scope.tenantId with
  | ok connectionId =>
      apply Confined.bind
        (recordDeliveryInvestigation_confined hcases houtbox _ _ _ _ _ _)
      exact fun _ _ => Confined.pure rfl
  | error e =>
      refine Confined.ite ?_ (Confined.raise _)
      apply Confined.bind (recordHandoff_confined hcases _ _ _ _)
      exact fun _ _ => Confined.pure rfl

theorem finalizeCaseHandoff_confined (hcases : Part.cases ∈ F)
    (houtbox : (Part.outbox ∈ F ∧ Part.commands ∈ F) ∨ s.domainCaseReasonCodes = []) :
    Confined F (finalizeCaseHandoff env s) fun s' => s'.operationId = s.operationId := by
  unfold finalizeCaseHandoff
  refine Confined.ite (Confined.pure rfl) ?_
  refine Confined.bind (Confined.done _) fun input hinput => ?_
  refine Confined.ite ?_ (Confined.pure rfl)
  unfold recordDecision
  refine Confined.bind (Confined.done _) fun trigger _ => ?_
  refine Confined.bind (Confined.done _) fun scope _ => ?_
  by_cases htype : (determineHandoffPolicy input).caseType =
      some CaseType.deliveryInvestigation
  · rw [if_neg (not_not_intro htype)]
    rcases houtbox with houtbox | hdomain
    · refine Confined.bind (Confined.done _) fun issueType _ => ?_
      exact openInvestigation_confined hcases houtbox _ _ _ _
    · exact absurd htype (caseType_ne_investigation (buildHandoffPolicyInput_ok hinput)
        hdomain)
  · rw [if_pos htype]
    apply Confined.bind (recordHandoff_confined hcases _ _ _ _)
    exact fun _ _ => Confined.pure rfl

theorem attachOperationCase_confined
    (hoperations : s.operationId = none ∨ Part.operations ∈ F) :
    Confined F (attachOperationCase env s) Anything := by
  unfold attachOperationCase
  cases hid : s.operationId with
  | none => exact Confined.pure trivial
  | some operationId =>
      rw [hid] at hoperations
      rcases hoperations with hnone | hoperations
      · cases hnone
      cases s.supportCaseId with
      | none => exact Confined.pure trivial
      | some caseId =>
          refine Confined.ite (Confined.pure trivial)
            (Confined.ite (Confined.pure trivial) ?_)
          refine Confined.bind (Confined.done _) fun scope _ => ?_
          apply Confined.bind (attachSupportCase_confined hoperations _ _ _ _ _)
          exact fun _ _ => Confined.pure trivial

end Nodes

/-!
## The main graph
-/

/-- The parts that the answer about the operation opens to a turn. -/
structure Environment.Permits (env : Environment) (F : List Part) : Prop where
  cases : Part.cases ∈ F
  operations : Part.operations ∈ F
  confirmed : env.operationConfirmation = ResumeValue.bool true ->
    Part.confirmations ∈ F ∧ Part.outbox ∈ F ∧ Part.commands ∈ F

/-- What is known of the state when a node of the main graph is reached. -/
def Environment.Standing (env : Environment) : Node -> RefundState -> Prop
  | Node.checkRiskRules, _ => True
  | Node.proceed, s => s.Fresh ∧ env.refundApproval = ResumeValue.bool true
  | Node.finalizeCaseHandoff, s => env.Quiet s
  | Node.attachOperationCase, _ => True
  | _, s => s.Fresh

/-- What a node of the main graph leaves behind. -/
def Environment.Leaves (env : Environment) : Node -> RefundState -> Prop
  | Node.operationSubflow, s => env.Quiet s
  | Node.finalizeCaseHandoff, _ => True
  | Node.attachOperationCase, _ => True
  | _, s => s.Fresh

section Graph

variable {F : List Part} {env : Environment} {n d : Node} {s : RefundState}

theorem Node.Leads.approved (h : n.Leads Node.proceed) : n = Node.approvalNode := by
  unfold Node.Leads at h
  revert h
  cases n <;> decide

theorem Environment.Leaves.standing (h : env.Leaves n s) (hlead : n.Leads d)
    (hd : d ≠ Node.proceed) : env.Standing d s := by
  have hfresh : s.Fresh -> env.Standing d s := by
    intro hs
    cases d with
    | checkRiskRules => exact trivial
    | proceed => exact absurd rfl hd
    | finalizeCaseHandoff => exact Or.inr hs.domain
    | attachOperationCase => exact trivial
    | _ => exact hs
  cases n with
  | operationSubflow =>
      rw [List.mem_singleton.mp hlead]
      exact h
  | finalizeCaseHandoff =>
      rw [List.mem_singleton.mp hlead]
      exact trivial
  | attachOperationCase => cases hlead
  | _ => exact hfresh h

theorem graphNode_leaves (hF : env.Permits F)
    (hrefunds : n = Node.proceed -> Part.refunds ∈ F) (h : env.Standing n s) :
    Confined F (graphNode env n s) fun result => env.Leaves n result.1 := by
  cases n with
  | checkRiskRules => exact stays_confined (Confined.pure (checkRiskRules_fresh env s))
  | classifySemanticRisk =>
      exact stays_confined (Confined.pure (classifySemanticRisk_fresh h))
  | llmCallRouter => exact stays_confined (Confined.pure (llmCallRouter_fresh env s))
  | classifyFormalComplaint =>
      exact stays_confined (Confined.pure (classifyFormalComplaint_fresh h))
  | confirmHumanHandoff =>
      apply Confined.bind (Confined.done _)
      exact fun r hr => Confined.pure (confirmHumanHandoff_fresh h hr)
  | acknowledgeHumanHandoff => exact stays_confined (Confined.pure (h.say _))
  | confirmOrderPriority =>
      apply Confined.bind (Confined.done _)
      exact fun r hr => Confined.pure (confirmOrderPriority_fresh h hr)
  | resumeOrderFlow => exact stays_confined (Confined.pure h)
  | handleComplaint => exact stays_confined (Confined.pure (handleComplaint_fresh h))
  | handleNoncriticalRisk =>
      exact stays_confined (Confined.pure (handleNoncriticalRisk_fresh h))
  | handleCriticalRisk => exact stays_confined (Confined.pure (handleCriticalRisk_fresh h))
  | detectOrder => exact stays_confined (Confined.pure (detectOrder_fresh h))
  | searchNode =>
      exact stays_confined ((Confined.done _).mono fun s' hs' => searchOrderNode_fresh h hs')
  | orderResponse =>
      exact stays_confined
        ((Confined.done _).mono fun s' hs' => orderResponseNode_fresh h hs')
  | checkRefundEligibility =>
      exact stays_confined (Confined.pure (checkRefundEligibilityNode_fresh h))
  | approvalNode => exact Confined.pure h
  | proceed => exact stays_confined (createRefundNode_confined (hrefunds rfl) h.left)
  | cancel => exact stays_confined (Confined.pure (h.say _))
  | supportCaseStatus => exact stays_confined (supportCaseStatusNode_confined h)
  | operationSubflow =>
      apply stays_confined
      apply Confined.bind (operationSubflow_confined hF.cases hF.operations hF.confirmed h)
      exact fun r hr => Confined.pure hr
  | finalizeCaseHandoff =>
      refine (stays_confined (finalizeCaseHandoff_confined hF.cases ?_)).anything
      rcases h with hyes | hdomain
      · exact Or.inl (hF.confirmed hyes).right
      · exact Or.inr hdomain
  | attachOperationCase =>
      exact (stays_confined (attachOperationCase_confined (Or.inr hF.operations))).anything

theorem graphNode_onward (hF : env.Permits F)
    (hrefunds : n = Node.proceed -> Part.refunds ∈ F) (h : env.Standing n s) :
    Confined F (graphNode env n s) fun result => forall d,
      (graph env).next n result = Except.ok (some d) -> env.Standing d result.1 := by
  have hlinks := (graphNode_leaves hF hrefunds h).all.and (graph_links env n s)
  refine ⟨?_⟩
  by_cases hn : n = Node.approvalNode
  · -- the node itself names its successor, by the answer
    subst hn
    apply Program.Within.pure
    intro d hd
    cases hd
    show env.Standing (approvalNode env) s
    unfold approvalNode
    by_cases happroved : env.refundApproval = ResumeValue.bool true
    · rw [if_pos happroved]
      exact ⟨h, happroved⟩
    · rw [if_neg happroved]
      exact h
  · refine hlinks.mono ?_
    intro result hresult d hd
    have hlead := hresult.right.left d hd
    refine hresult.left.standing hlead ?_
    rintro rfl
    exact hn hlead.approved

theorem turn_confined (hF : env.Permits F)
    (hrefunds : env.refundApproval = ResumeValue.bool true -> Part.refunds ∈ F)
    (s : RefundState) : Confined F (turn env s) Anything := by
  have hnode : forall n t, env.Standing n t ->
      Program.Within (fun {_ : Type} tx => Confines F tx) ((graph env).node n t)
        fun result => forall d, (graph env).next n result = Except.ok (some d) ->
          env.Standing d result.1 := by
    intro n t ht
    refine (graphNode_onward hF ?_ ht).all
    rintro rfl
    exact hrefunds ht.right
  exact ⟨Workflow.within hnode recursionLimit Node.checkRiskRules s trivial⟩

end Graph

/-!
## Critical messages
-/

/-- A hard rule matches the message, or the classifier finds a high or critical risk. -/
def Environment.Critical (env : Environment) (s : RefundState) : Prop :=
  (env.matcher.matchText ((s.latestMessage.map Prod.fst).getD "")).hardCritical = true ∨
    s.latestMessage ≠ none ∧ (env.risk.riskLevel = SemanticRiskLevel.high ∨
      env.risk.riskLevel = SemanticRiskLevel.critical)

/-- The nodes of an escalation. -/
def escalationNodes : List Node :=
  [Node.checkRiskRules, Node.classifySemanticRisk, Node.handleCriticalRisk,
    Node.finalizeCaseHandoff, Node.attachOperationCase]

/-- What is known of the state at the nodes of an escalation; it comes to no other. -/
def Environment.Escalates (env : Environment) (s₀ : RefundState) :
    Node -> RefundState -> Prop
  | Node.checkRiskRules, s => s = s₀
  | Node.classifySemanticRisk, s => s.Fresh ∧ s.latestMessage ≠ none ∧
      (env.risk.riskLevel = SemanticRiskLevel.high ∨
        env.risk.riskLevel = SemanticRiskLevel.critical)
  | Node.handleCriticalRisk, s => s.Fresh
  | Node.finalizeCaseHandoff, s => s.Fresh
  | Node.attachOperationCase, s => s.operationId = none
  | _, _ => False

section Escalation

variable {env : Environment} {s₀ s : RefundState} {n : Node}

theorem Environment.Escalates.mem (h : env.Escalates s₀ n s) : n ∈ escalationNodes := by
  cases n with
  | checkRiskRules => decide
  | classifySemanticRisk => decide
  | handleCriticalRisk => decide
  | finalizeCaseHandoff => decide
  | attachOperationCase => decide
  | _ => exact h.elim

theorem graphNode_escalates (hcritical : env.Critical s₀) (h : env.Escalates s₀ n s) :
    Confined [Part.cases] (graphNode env n s) fun result => forall d,
      (graph env).next n result = Except.ok (some d) -> env.Escalates s₀ d result.1 := by
  have hcases : Part.cases ∈ [Part.cases] := List.mem_cons_self
  cases n with
  | checkRiskRules =>
      subst h
      refine Confined.bind (Q := fun s' => s' = checkRiskRules env s)
        (Confined.pure rfl) fun s' hs' => Confined.pure fun d hd => ?_
      cases hs'
      cases hd
      show env.Escalates s (routeAfterRiskRules (checkRiskRules env s)) _
      unfold routeAfterRiskRules
      by_cases hhard : (checkRiskRules env s).riskHardCritical = true
      · rw [if_pos hhard]
        exact checkRiskRules_fresh env s
      · rw [if_neg hhard]
        rcases hcritical with hmatch | ⟨hmessage, hlevel⟩
        · exact absurd hmatch hhard
        · exact ⟨checkRiskRules_fresh env s, hmessage, hlevel⟩
  | classifySemanticRisk =>
      rcases h with ⟨hfresh, hmessage, hlevel⟩
      refine Confined.bind (Q := fun s' => s' = classifySemanticRisk env s)
        (Confined.pure rfl) fun s' hs' => Confined.pure fun d hd => ?_
      cases hs'
      have hroute : routeAfterSemanticRisk (classifySemanticRisk env s) =
          Except.ok Node.handleCriticalRisk := by
        rcases Option.ne_none_iff_exists'.mp hmessage with ⟨message, hmessage⟩
        unfold routeAfterSemanticRisk classifySemanticRisk
        simp only [hmessage]
        rcases hlevel with hlevel | hlevel
        · rw [hlevel]
        · rw [hlevel]
      have hd : (routeAfterSemanticRisk (classifySemanticRisk env s)).map some =
          Except.ok (some d) := hd
      rw [hroute] at hd
      cases hd
      exact classifySemanticRisk_fresh hfresh
  | handleCriticalRisk =>
      refine Confined.bind (Confined.pure (handleCriticalRisk_fresh h)) fun s' hs' => ?_
      refine Confined.pure fun d hd => ?_
      cases hd
      exact hs'
  | finalizeCaseHandoff =>
      refine Confined.bind (finalizeCaseHandoff_confined hcases (Or.inr h.domain))
        fun s' hs' => Confined.pure fun d hd => ?_
      cases hd
      exact Eq.trans hs' h.operation
  | attachOperationCase =>
      refine Confined.bind (attachOperationCase_confined (Or.inl h)) fun s' _ => ?_
      exact Confined.pure fun d hd => (by cases hd)
  | _ => exact h.elim

theorem turn_escalates (hcritical : env.Critical s) :
    Confined [Part.cases] (turn env s) fun r => forall m, m ∈ r.1 -> m ∈ escalationNodes := by
  have hnode : forall n t, env.Escalates s n t ->
      Program.Within (fun {_ : Type} tx => Confines [Part.cases] tx) ((graph env).node n t)
        fun result => (forall d, (graph env).next n result = Except.ok (some d) ->
          env.Escalates s d result.1) ∧
          ((graph env).next n result = Except.ok none -> True) :=
    fun n t ht => (graphNode_escalates hcritical ht).all.mono fun _ h => ⟨h, fun _ => trivial⟩
  have hwithin := Workflow.within_path (E := fun _ => True) hnode recursionLimit
    Node.checkRiskRules s rfl
  refine ⟨hwithin.mono ?_⟩
  rintro r ⟨_, hpath⟩ m hm
  rcases hpath m hm with ⟨u, hu⟩
  exact hu.mem

end Escalation

/-!
## Runs
-/

section Runs

variable {stages : List (Stage World Event)} {w : World} {x y : Stage World Event} {i : Nat}

theorem World.Runs.own {P : forall {γ : Type}, Tx γ -> Prop} {α : Type} {p : Call α}
    {Q : α -> Prop} (h : World.Runs stages w) (hx : x ∈ stages) (hbegins : Begins i p x)
    (hp : Program.Within P p Q) (hy : y ∈ stages) (hadv : Advances i y) :
    y.after.db = y.before.db ∨ exists (γ : Type) (tx : Tx γ) (c : γ), P tx ∧
      tx y.before.db = Except.ok (c, y.after.db) := by
  have hgood := h.good.right
  have hmeets : forall z, z ∈ stages -> MeetsOnly (fun _ => True) i z :=
    fun z hz => (hgood z hz).step.meetsOnly i
  rcases h.followed hx hbegins hmeets with ⟨own, q, hq⟩
  exact (hp.trace hq.trace).right _ (hq.complete y hy hadv)

theorem World.Runs.returns {P : forall {γ : Type}, Tx γ -> Prop} {α : Type} {p : Call α}
    {Q : α -> Prop} (h : World.Runs stages w) (hx : x ∈ stages) (hbegins : Begins i p x)
    (hp : Program.Within P p Q) {a : α} (hended : w.Ended i (Except.ok a)) : Q a := by
  rcases h.returned hx hbegins hended with ⟨own, hreturns, _⟩
  exact hp.returned hreturns

theorem World.Runs.respects {F : List Part} {α : Type} {p : Call α} {Q : α -> Prop}
    (h : World.Runs stages w) (hx : x ∈ stages) (hbegins : Begins i p x)
    (hp : Confined F p Q) (hy : y ∈ stages) (hadv : Advances i y) :
    Respects F y.before.db y.after.db := by
  rcases h.own hx hbegins hp.all hy hadv with hsame | ⟨γ, tx, c, htx, hrun⟩
  · rw [hsame]
    exact Respects.refl _
  · exact htx _ c _ hrun

variable {env : Environment} {s : RefundState}

/--
A turn that returns has passed the nodes along the edges of the graph and none of them
twice, from the risk rules to the handoff and the attachment; and neither graph could
make use of a larger recursion limit.
-/
theorem turn_path (h : World.Runs stages w) (hx : x ∈ stages)
    (hbegins : Begins i (turn env s) x) {path : List Node} {s' : RefundState}
    (hended : w.Ended i (Except.ok (path, s'))) :
    TurnPath path ∧ forall more,
      (graph env).run (recursionLimit + more) Node.checkRiskRules s = turn env s ∧
      (operationSubgraph env).run (recursionLimit + more)
        OperationNode.detectOperationOrder s = operationSubflow env s :=
  ⟨h.returns hx hbegins (turn_follows env s) hended, turn_unbounded env s⟩

/--
Consent.  Whatever the models, the stores, the workers and the other callers do, a turn
leaves the confirmations of operations and the provider commands alone unless the
customer has answered yes to the operation, and the refund requests unless the customer
has approved the refund; and it never touches the inbox.
-/
theorem turn_permitted (h : World.Runs stages w) (hx : x ∈ stages)
    (hbegins : Begins i (turn env s) x) (hy : y ∈ stages) (hadv : Advances i y) :
    (env.operationConfirmation ≠ ResumeValue.bool true ->
      y.after.db.confirmations = y.before.db.confirmations ∧
        y.after.db.outbox = y.before.db.outbox) ∧
    (env.refundApproval ≠ ResumeValue.bool true ->
      y.after.db.refunds = y.before.db.refunds) ∧
    y.after.db.inbox = y.before.db.inbox := by
  have hrespects : forall F : List Part, env.Permits F ->
      (env.refundApproval = ResumeValue.bool true -> Part.refunds ∈ F) ->
      Respects F y.before.db y.after.db :=
    fun F hF hrefunds => h.respects hx hbegins (turn_confined hF hrefunds s) hy hadv
  refine ⟨fun hno => ?_, fun hno => ?_, ?_⟩
  · have hparts := hrespects [Part.cases, Part.operations, Part.refunds]
      ⟨by decide, by decide, fun hyes => absurd hyes hno⟩ (fun _ => by decide)
    exact ⟨hparts Part.confirmations (by decide), hparts Part.outbox (by decide)⟩
  · exact hrespects
      [Part.cases, Part.operations, Part.confirmations, Part.outbox, Part.commands]
      ⟨by decide, by decide, fun _ => by decide⟩ (fun hyes => absurd hyes hno)
      Part.refunds (by decide)
  · exact hrespects [Part.cases, Part.operations, Part.confirmations, Part.outbox,
        Part.commands, Part.refunds]
      ⟨by decide, by decide, fun _ => by decide⟩ (fun _ => by decide)
      Part.inbox (by decide)

theorem escalation_critical {p : Node} (hp : p ∈ escalationNodes)
    (h : p.Leads Node.finalizeCaseHandoff) : p = Node.handleCriticalRisk := by
  unfold Node.Leads at h
  revert hp h
  cases p <;> decide

/--
Escalation.  After a message that a hard rule matches or that the classifier finds to be
of high or critical risk, a turn touches nothing but support cases, and if it returns it
has passed the node for critical risks and no node of the self-service flows; whatever
the router, the other models and the customer's answers say.
-/
theorem critical_turn_escalates (h : World.Runs stages w) (hx : x ∈ stages)
    (hbegins : Begins i (turn env s) x) (hcritical : env.Critical s) :
    (forall y, y ∈ stages -> Advances i y ->
      y.after.db.operations = y.before.db.operations ∧
      y.after.db.outbox = y.before.db.outbox ∧ y.after.db.inbox = y.before.db.inbox ∧
      y.after.db.refunds = y.before.db.refunds) ∧
    forall (path : List Node) (s' : RefundState), w.Ended i (Except.ok (path, s')) ->
      Node.handleCriticalRisk ∈ path ∧ forall m, m ∈ path -> m ∈ escalationNodes := by
  constructor
  · intro y hy hadv
    have hparts := h.respects hx hbegins (turn_escalates hcritical) hy hadv
    exact ⟨hparts Part.operations (by decide), hparts Part.outbox (by decide),
      hparts Part.inbox (by decide), hparts Part.refunds (by decide)⟩
  · intro path s' hended
    have hnodes : forall m, m ∈ path -> m ∈ escalationNodes :=
      h.returns hx hbegins (turn_escalates hcritical).all hended
    have hpath : TurnPath path := h.returns hx hbegins (turn_follows env s) hended
    rcases hpath.handed_off with ⟨p, hp, hlead⟩
    rw [escalation_critical (hnodes p hp) hlead] at hp
    exact ⟨hp, hnodes⟩

end Runs

/-!
## Examples

The customer whose cancellation has been found eligible answers no; and a customer
whose message has been found critical while the router sees a cancellation.
-/

def sampleDeclined : Environment :=
  { sampleEnvironment with operationConfirmation := ResumeValue.bool false }

def sampleTables : Risk.UnicodeTables :=
  { normalize := fun _ text => text
    casefold := fun text => String.ofList (text.toList.map Char.toLower)
    isWord := fun c => c.isAlphanum || c == '_' }

def sampleRule : Risk.RiskRule :=
  { id := "hard_legal_001"
    pattern := "I'll sue"
    category := RiskCategory.legal
    ruleType := RiskRuleType.hardCritical
    matchType := Risk.MatchType.phrase
    language := Risk.RiskLanguage.en
    severity := Risk.RiskSeverity.critical
    notBlank := by decide +kernel
    severityFits := by decide }

def sampleRules : Risk.RiskRuleSet :=
  { normalization :=
      { unicodeForm := Risk.UnicodeForm.nfkc
        casefold := true
        collapseWhitespace := true
        normalizeApostrophes := true }
    hardCritical := [sampleRule]
    riskSignals := []
    hardTyped := by simp [sampleRule]
    signalsTyped := by simp
    idsUnique := by simp }

/-- The turns of a service that has been given the rules of a file. -/
def sampleWatched (rules : Risk.RiskRuleSet) : Environment :=
  { sampleEnvironment with
    matcher := rules.matcher (Risk.normalizeText sampleTables) sampleTables.isWord }

/-- The rule occurs once the apostrophe, the case and the white space are normalised. -/
def sampleThreat : List Message :=
  [Message.human (Content.text "Refund me  or I\u2019LL\nsue.") (some "message-1")]

theorem sampleTurn_served (env : Environment) (s : RefundState)
    (hwrites : ((turn env s).run (World.initial sampleIds).db).2 ≠
      (World.initial sampleIds).db) :
    exists all x y w, World.Runs all w ∧ x ∈ all ∧ Begins 0 (turn env s) x ∧ y ∈ all ∧
      Advances 0 y ∧ w.Ended 0 ((turn env s).run (World.initial sampleIds).db).1 := by
  have hstart : World.Runs [] (World.initial sampleIds) := ⟨sampleIds, Run.nil _⟩
  have hcalls : (World.initial sampleIds).calls.length = 0 := rfl
  generalize World.initial sampleIds = w₀ at hstart hcalls hwrites
  rcases hstart.serve_traced (Method.turn env s) with ⟨all, x, hrun, hx, hbegins, hended, _⟩
  rw [hcalls] at hbegins hended
  rcases hrun.returned hx hbegins hended with ⟨own, hreturns, hstage, _⟩
  cases own with
  | nil =>
      exfalso
      generalize turn env s = p at hreturns hwrites
      generalize hr : (p.run w₀.db).1 = r at hreturns
      cases hreturns
      exact hwrites rfl
  | cons a rest =>
      rcases hstage a (List.mem_cons_self ..) with ⟨y, hy, hadv, _⟩
      exact ⟨all, x, y, _, hrun, hx, hbegins, hy, hadv, hended⟩

/-- The path of a turn that is served by itself. -/
def servedPath (env : Environment) (messages : List Message) : Option (List Node) :=
  ((turn env (RefundState.start messages)).run
    (World.initial sampleIds).db).1.toOption.map Prod.fst

/-- The numbers of rows that a turn leaves in the empty store. -/
def servedRows (env : Environment) (messages : List Message) : Nat × Nat :=
  let db := ((turn env (RefundState.start messages)).run (World.initial sampleIds).db).2
  (db.operations.rows.rows.length, db.cases.rows.rows.length)

theorem servedRows_writes {env : Environment} (messages : List Message)
    (h : servedRows env messages ≠ (0, 0)) :
    ((turn env (RefundState.start messages)).run (World.initial sampleIds).db).2 ≠
      (World.initial sampleIds).db := by
  intro hsame
  apply h
  unfold servedRows
  rw [hsame]
  rfl

theorem servedPath_ended {env : Environment} {messages : List Message} {path : List Node}
    {w : World} (hpath : servedPath env messages = some path)
    (h : w.Ended 0 ((turn env (RefundState.start messages)).run
      (World.initial sampleIds).db).1) :
    exists s' : RefundState, w.Ended 0 (Except.ok (path, s')) := by
  unfold servedPath at hpath
  cases hrun : ((turn env (RefundState.start messages)).run
      (World.initial sampleIds).db).1 with
  | error e =>
      rw [hrun] at hpath
      cases hpath
  | ok r =>
      rw [hrun] at hpath h
      cases hpath
      exact ⟨r.2, h⟩

theorem turn_path_sample :
    exists stages w, exists path : List Node, exists s' : RefundState,
      World.Runs stages w ∧ w.Ended 0 (Except.ok (path, s')) ∧ TurnPath path ∧
      path.length = 6 := by
  have hpath : servedPath sampleEnvironment sampleMessages =
      some [Node.checkRiskRules, Node.classifySemanticRisk, Node.llmCallRouter,
        Node.operationSubflow, Node.finalizeCaseHandoff, Node.attachOperationCase] := by
    decide +kernel
  rcases sampleTurn_served sampleEnvironment _
    (servedRows_writes sampleMessages (by decide +kernel)) with
    ⟨all, x, y, w, hrun, hx, hbegins, _, _, hended⟩
  rcases servedPath_ended hpath hended with ⟨s', hended⟩
  exact ⟨all, w, _, s', hrun, hended, (turn_path hrun hx hbegins hended).left, rfl⟩

theorem turn_permitted_sample :
    exists stages w y, World.Runs stages w ∧ y ∈ stages ∧ Advances 0 y ∧
      (y.after.db.confirmations = y.before.db.confirmations ∧
        y.after.db.outbox = y.before.db.outbox) ∧
      y.after.db.refunds = y.before.db.refunds ∧ y.after.db.inbox = y.before.db.inbox := by
  rcases sampleTurn_served sampleDeclined _
    (servedRows_writes sampleMessages (by decide +kernel)) with
    ⟨all, x, y, w, hrun, hx, hbegins, hy, hadv, _⟩
  have hpermitted := turn_permitted hrun hx hbegins hy hadv
  exact ⟨all, w, y, hrun, hy, hadv, hpermitted.left (fun h => by cases h),
    hpermitted.right.left (fun h => by cases h), hpermitted.right.right⟩

theorem sampleRules_match :
    ((sampleWatched sampleRules).matcher.matchText "Refund me  or I\u2019LL\nsue.").hardCritical =
      true := by
  show ((sampleRules.matcher _ _).matchText _).hardCritical = true
  rw [Risk.matchText_matcher]
  decide +kernel

/-- The rules are read from a file, and one of them occurs in the message. -/
theorem critical_turn_escalates_sample : exists rules : Risk.RiskRuleSet,
    Risk.loadRiskRules sampleRules.document = Except.ok rules ∧
      exists stages w x, exists path : List Node, exists s' : RefundState,
        World.Runs stages w ∧ x ∈ stages ∧
        Begins 0 (turn (sampleWatched rules) (RefundState.start sampleThreat)) x ∧
        w.Ended 0 (Except.ok (path, s')) ∧ path.length = 4 ∧
        Node.handleCriticalRisk ∈ path ∧ forall m, m ∈ path -> m ∈ escalationNodes := by
  have hpath : servedPath (sampleWatched sampleRules) sampleThreat =
      some [Node.checkRiskRules, Node.handleCriticalRisk, Node.finalizeCaseHandoff,
        Node.attachOperationCase] := by
    decide +kernel
  rcases sampleTurn_served (sampleWatched sampleRules) _
    (servedRows_writes sampleThreat (by decide +kernel)) with
    ⟨all, x, y, w, hrun, hx, hbegins, _, _, hended⟩
  rcases servedPath_ended hpath hended with ⟨s', hended⟩
  have hescalates := critical_turn_escalates hrun hx hbegins (Or.inl sampleRules_match)
  exact ⟨sampleRules, Risk.loadRiskRules_document sampleRules, all, w, x, _, s', hrun, hx,
    hbegins, hended, rfl, hescalates.right _ s' hended⟩

end RefundAgent
