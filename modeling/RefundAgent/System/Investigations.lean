import RefundAgent.Graph.Turn
import RefundAgent.System.HandoffRuns
import RefundAgent.System.Reach
import RefundAgent.System.Reasons

/-!
# Confirmed delivery investigations

When a confirmed delivery report leads to an open case with a provider command.
The subflow tells the customer that the investigation is open; the handoff node
opens it later, and only when the turn has no reason of a preferred kind and the
message has not been recorded before.
-/

namespace RefundAgent

open Foundation

/-!
## What the confirmation means
-/

/-- The state after a delivery report that needs an investigation. -/
structure DeliveryReported (s : RefundState) : Prop where
  operation : s.operationId = none
  issue : exists extraction issueType, s.operationExtraction = some extraction ∧
    extraction.deliveryIssueType = some issueType
  reported : s.domainCaseReasonCodes ≠ []
  codes : forall code, code ∈ s.domainCaseReasonCodes -> exists r,
    HandoffReason.parse? code = some r ∧ r.caseType = CaseType.deliveryInvestigation

/-- The literal stands for a reason to investigate a delivery. -/
def isDeliveryCode (code : String) : Bool :=
  (HandoffReason.parse? code).any fun r =>
    decide (r.caseType = CaseType.deliveryInvestigation)

theorem isDeliveryCode_eq_true {code : String} (h : isDeliveryCode code = true) :
    exists r, HandoffReason.parse? code = some r ∧
      r.caseType = CaseType.deliveryInvestigation := by
  unfold isDeliveryCode at h
  rw [Option.any_eq_true] at h
  rcases h with ⟨r, hr, hkind⟩
  exact ⟨r, hr, of_decide_eq_true hkind⟩

/-- A decision to review a report gives reasons to investigate it. -/
def DeliveryDecision.investigates (d : DeliveryDecision) : Prop :=
  d.outcome = DeliveryOutcome.manualReview ->
    d.reasonCodes ≠ [] ∧ forall code, code ∈ d.reasonCodes -> isDeliveryCode code = true

theorem deliveryManual_investigates {issueType : DeliveryIssueType}
    {code displayReason : String} {priority : CasePriority}
    (h : isDeliveryCode code = true) :
    (deliveryManual issueType code displayReason priority).investigates := by
  intro _
  constructor
  · simp [deliveryManual]
  · intro code' hcode
    rw [List.mem_singleton.mp hcode]
    exact h

theorem deliverySelfService_investigates (issueType : DeliveryIssueType)
    (code displayReason : String) :
    (deliverySelfService issueType code displayReason).investigates := by
  intro h
  cases h

theorem evaluateTrackingStalled_investigates (snapshot : OrderSnapshot) (now : Time) :
    (evaluateTrackingStalled snapshot now).investigates := by
  unfold evaluateTrackingStalled
  split
  · exact deliveryManual_investigates (by decide)
  · split
    · exact deliveryManual_investigates (by decide)
    · split
      · exact deliveryManual_investigates (by decide)
      · exact deliverySelfService_investigates _ _ _

theorem evaluateDelayed_investigates (snapshot : OrderSnapshot) (now : Time)
    (requested : Bool) : (evaluateDelayed snapshot now requested).investigates := by
  unfold evaluateDelayed
  split
  · exact deliveryManual_investigates (by decide)
  · split
    · exact deliverySelfService_investigates _ _ _
    · split
      · exact deliveryManual_investigates (by decide)
      · exact deliverySelfService_investigates _ _ _

theorem deliveryPolicy_investigates (issueType : DeliveryIssueType) (requested : Bool)
    (snapshot : OrderSnapshot) (now : Time) :
    (deliveryPolicy issueType requested snapshot now).investigates := by
  unfold deliveryPolicy
  split
  · exact deliveryManual_investigates (by decide)
  · cases issueType with
    | trackingStalled => exact evaluateTrackingStalled_investigates snapshot now
    | delayed => exact evaluateDelayed_investigates snapshot now requested
    | deliveryFailed => exact deliveryManual_investigates (by decide)
    | markedDeliveredNotReceived => exact deliveryManual_investigates (by decide)
    | packageDamaged => exact deliveryManual_investigates (by decide)
    | wrongItemOrMissingParts =>
        intro h
        cases h
    | otherDeliveryIssue => exact deliveryManual_investigates (by decide)

/-- A question about no operation is a question about a delivery report. -/
def AsksAboutReport (s : RefundState) : Prop :=
  s.operationId = none -> s.operationOutcome.any GraphOutcome.isManualReview = true ->
    DeliveryReported s

theorem evaluateDeliveryReport_asks {env : Environment} {s s' : RefundState}
    {snapshot : OrderSnapshot} {threadId sourceMessageId : String}
    {issueType : DeliveryIssueType} {requested : Bool}
    {extraction : OperationRequestExtraction}
    (hextraction : s.operationExtraction = some extraction)
    (hissue : extraction.deliveryIssueType = some issueType)
    (h : evaluateDeliveryReport env s snapshot threadId sourceMessageId issueType
      requested = Except.ok s') : s'.orderId = s.orderId ∧ AsksAboutReport s' := by
  unfold evaluateDeliveryReport at h
  cases hthread : cleanField "DeliveryIssueRequest" threadId with
  | error e =>
      rw [hthread] at h
      cases h
  | ok thread =>
      cases hmessage : cleanField "DeliveryIssueRequest" sourceMessageId with
      | error e =>
          simp only [hthread, hmessage, Bind.bind, Except.bind] at h
          cases h
      | ok message =>
          simp only [hthread, hmessage, Bind.bind, Except.bind, evaluateDeliveryIssue,
            ne_eq, not_true_eq_false, if_false] at h
          have hpolicy := deliveryPolicy_investigates issueType requested snapshot env.now
          generalize deliveryPolicy issueType requested snapshot env.now = decision at h hpolicy
          cases h
          refine ⟨rfl, ?_⟩
          intro hoperation houtcome
          have hmanual : decision.outcome = DeliveryOutcome.manualReview := by
            simpa [RefundState.say, GraphOutcome.isManualReview] using houtcome
          have hcodes := hpolicy hmanual
          have hstate : (if decision.outcome = DeliveryOutcome.manualReview then
              decision.reasonCodes else s.domainCaseReasonCodes) = decision.reasonCodes :=
            if_pos hmanual
          refine ⟨hoperation, ⟨extraction, issueType, hextraction, hissue⟩, ?_, ?_⟩
          · show (if decision.outcome = DeliveryOutcome.manualReview then
              decision.reasonCodes else s.domainCaseReasonCodes) ≠ []
            rw [hstate]
            exact hcodes.left
          · intro code hcode
            have hmem : code ∈ (if decision.outcome = DeliveryOutcome.manualReview then
              decision.reasonCodes else s.domainCaseReasonCodes) := hcode
            rw [hstate] at hmem
            exact isDeliveryCode_eq_true (hcodes.right code hmem)

theorem persistOrRespond_asks {env : Environment} {s s' : RefundState}
    {request : OrderOperationRequest} {snapshot : OrderSnapshot}
    {decision : OperationDecision} {excerpt : String} {db db' : Database}
    (h : (persistOrRespond env s request snapshot decision excerpt).run db =
      (Except.ok s', db')) : s'.orderId = s.orderId ∧ AsksAboutReport s' := by
  unfold persistOrRespond at h
  by_cases houtcome : decision.outcome = OperationOutcome.eligible ∨
      decision.outcome = OperationOutcome.manualReview
  · rw [if_pos houtcome] at h
    rcases Program.run_done_bind h with ⟨scope, _, h₁⟩
    rcases Program.run_bind_eq_ok.mp h₁ with ⟨result, db₁, _, h₂⟩
    have hsome : forall update : RefundState,
        update.operationId = some result.operation.operationId -> AsksAboutReport update := by
      intro update hid hnone
      rw [hid] at hnone
      cases hnone
    by_cases hdone : result.action = OperationServiceAction.duplicateIgnored ∧
        result.operation.status ≠ OperationRecordStatus.pendingConfirmation
    · rw [if_pos hdone] at h₂
      cases h₂
      exact ⟨rfl, hsome _ rfl⟩
    · rw [if_neg hdone] at h₂
      cases h₂
      exact ⟨rfl, hsome _ rfl⟩
  · rw [if_neg houtcome] at h
    cases h
    refine ⟨rfl, ?_⟩
    intro _ hmanual
    have hreview : decision.outcome = OperationOutcome.manualReview := by
      simpa [RefundState.say, RefundState.withDecision, GraphOutcome.isManualReview]
        using hmanual
    exact absurd (Or.inr hreview) houtcome

theorem evaluateOperationRequest_asks {env : Environment} {s s' : RefundState}
    {db db' : Database}
    (h : (evaluateOperationRequest env s).run db = (Except.ok s', db')) :
    s'.orderId = s.orderId ∧ AsksAboutReport s' := by
  unfold evaluateOperationRequest at h
  cases hextraction : s.operationExtraction with
  | none =>
      simp only [hextraction] at h
      cases h
  | some extraction =>
      simp only [hextraction] at h
      by_cases hambiguous : extraction.ambiguous = true
      · rw [if_pos hambiguous] at h
        cases h
        refine ⟨rfl, ?_⟩
        intro _ hmanual
        cases hmanual
      · rw [if_neg hambiguous] at h
        cases hsnapshot : s.operationSnapshot with
        | none =>
            simp only [hsnapshot] at h
            cases h
        | some snapshot =>
            simp only [hsnapshot] at h
            rcases Program.run_done_bind h with ⟨metadata, _, h₁⟩
            cases hissue : extraction.deliveryIssueType with
            | some issueType =>
                simp only [hissue] at h₁
                have hreport := congrArg Prod.fst h₁
                exact evaluateDeliveryReport_asks hextraction hissue hreport
            | none =>
                simp only [hissue, evaluateOrderOperation] at h₁
                rcases Program.run_done_bind h₁ with ⟨scope, _, h₂⟩
                cases hcustomer : scope.customerId with
                | none =>
                    simp only [hcustomer] at h₂
                    cases h₂
                    refine ⟨rfl, ?_⟩
                    intro _ hmanual
                    cases hmanual
                | some customerId =>
                    simp only [hcustomer] at h₂
                    rcases Program.run_done_bind h₂ with ⟨request, _, h₃⟩
                    rcases Program.run_done_bind h₃ with ⟨availability, _, h₄⟩
                    rcases Program.run_done_bind h₄ with ⟨decision, _, h₅⟩
                    exact persistOrRespond_asks h₅

/-- What is known of the state when the subflow comes to a node. -/
def Heading : OperationNode -> RefundState -> Prop
  | OperationNode.detectOperationOrder, _ => True
  | OperationNode.operationConfirmation, s => s.orderId.isSome = true ∧
      (s.operationId = none -> DeliveryReported s)
  | OperationNode.confirmDeliveryInvestigation, s => s.orderId.isSome = true ∧
      DeliveryReported s
  | _, s => s.orderId.isSome = true

theorem stays_run_ok {ν : Type} {p : Call RefundState} {s' : RefundState}
    {goto : Option ν} {db db' : Database}
    (h : (stays p).run db = (Except.ok (s', goto), db')) :
    p.run db = (Except.ok s', db') ∧ goto = none := by
  unfold stays at h
  rcases Program.run_bind_eq_ok.mp h with ⟨s₁, db₁, hp, hlast⟩
  cases hlast
  exact ⟨hp, rfl⟩

theorem loadOperationSnapshot_order {env : Environment} {s s' : RefundState}
    (h : loadOperationSnapshot env s = Except.ok s') : s'.orderId = s.orderId := by
  unfold loadOperationSnapshot at h
  cases horder : s.orderId with
  | none =>
      simp only [horder] at h
      cases h
      rfl
  | some orderId =>
      simp only [horder] at h
      cases hscope : env.requireScope with
      | error e =>
          rw [hscope] at h
          cases h
      | ok scope =>
          simp only [hscope, Bind.bind, Except.bind] at h
          cases hcustomer : scope.customerId with
          | none =>
              simp only [hcustomer] at h
              cases h
              rfl
          | some customerId =>
              simp only [hcustomer] at h
              cases hget : env.getOrderForCustomer orderId customerId scope.tenantId with
              | error e =>
                  rw [hget] at h
                  cases h
              | ok snapshot =>
                  simp only [hget] at h
                  cases snapshot with
                  | none =>
                      cases h
                      rfl
                  | some snapshot =>
                      cases h
                      rfl

theorem extractOperationRequest_order (env : Environment) (s : RefundState) :
    (extractOperationRequest env s).orderId = s.orderId := by
  unfold extractOperationRequest
  cases s.latestMessage with
  | none => rfl
  | some message => rfl

theorem operationConfirmationNode_heading {env : Environment} {s : RefundState}
    {d : OperationNode} (hs : Heading OperationNode.operationConfirmation s)
    (h : operationConfirmationNode env s = Except.ok d) : Heading d s := by
  unfold operationConfirmationNode at h
  by_cases hno : env.operationConfirmation = ResumeValue.bool false
  · rw [if_pos hno] at h
    by_cases hnone : s.operationId.isNone = true
    · rw [if_pos hnone] at h
      cases h
      exact hs.left
    · rw [if_neg hnone] at h
      cases h
      exact hs.left
  · rw [if_neg hno] at h
    by_cases hyes : env.operationConfirmation ≠ ResumeValue.bool true
    · rw [if_pos hyes] at h
      cases h
    · rw [if_neg hyes] at h
      by_cases hnone : s.operationId.isNone = true
      · rw [if_pos hnone] at h
        cases h
        exact ⟨hs.left, hs.right (Option.isNone_iff_eq_none.mp hnone)⟩
      · rw [if_neg hnone] at h
        by_cases hmanual : s.operationOutcome.any GraphOutcome.isManualReview = true
        · rw [if_pos hmanual] at h
          cases h
          exact hs.left
        · rw [if_neg hmanual] at h
          cases h
          exact hs.left

theorem operationSubgraph_heading {env : Environment} (n : OperationNode)
    (s : RefundState) (db : Database) (s' : RefundState) (goto : Option OperationNode)
    (db' : Database) (d : OperationNode) (hs : Heading n s)
    (hrun : ((operationSubgraph env).node n s).run db = (Except.ok (s', goto), db'))
    (hnext : (operationSubgraph env).next n (s', goto) = Except.ok (some d)) :
    Heading d s' := by
  have hplain : forall {p : Call RefundState},
      (stays p : Call (RefundState × Option OperationNode)).run db =
        (Except.ok (s', goto), db') ->
      p.run db = (Except.ok s', db') ∧ operationEdge n s' = some d := by
    intro p hp
    rcases stays_run_ok hp with ⟨hrun', rfl⟩
    exact ⟨hrun', Except.ok.inj hnext⟩
  cases n with
  | detectOperationOrder =>
      rcases hplain hrun with ⟨_, hedge⟩
      simp only [operationEdge] at hedge
      by_cases hsome : s'.orderId.isSome = true
      · rw [if_pos hsome] at hedge
        cases hedge
        exact hsome
      · rw [if_neg hsome] at hedge
        cases hedge
  | loadOperationSnapshot =>
      rcases hplain hrun with ⟨hload, hedge⟩
      have horder := loadOperationSnapshot_order (congrArg Prod.fst hload)
      simp only [operationEdge] at hedge
      by_cases hfound : s'.operationLookupSuccess = true
      · rw [if_pos hfound] at hedge
        cases hedge
        show s'.orderId.isSome = true
        rw [horder]
        exact hs
      · rw [if_neg hfound] at hedge
        cases hedge
  | extractOperationRequest =>
      rcases hplain hrun with ⟨hextract, hedge⟩
      cases hextract
      cases hedge
      show (extractOperationRequest env s).orderId.isSome = true
      rw [extractOperationRequest_order]
      exact hs
  | evaluateOperationRequest =>
      rcases hplain hrun with ⟨heval, hedge⟩
      rcases evaluateOperationRequest_asks heval with ⟨horder, hasks⟩
      simp only [operationEdge] at hedge
      by_cases hask : asksForConfirmation s' = true
      · rw [if_pos hask] at hedge
        cases hedge
        refine ⟨by rw [horder]; exact hs, ?_⟩
        intro hnone
        have hcond := of_decide_eq_true hask
        rcases hcond with ⟨hsome, _⟩ | ⟨_, hmanual, _⟩
        · exact absurd hnone hsome
        · exact hasks hnone hmanual
      · rw [if_neg hask] at hedge
        cases hedge
  | operationConfirmation =>
      rcases Program.run_done_bind hrun with ⟨destination, hdestination, hlast⟩
      cases hlast
      have hd : destination = d := Option.some.inj (Except.ok.inj hnext)
      rw [← hd]
      exact operationConfirmationNode_heading hs hdestination
  | submitConfirmedOperation => cases (hplain hrun).right
  | confirmManualOperation => cases (hplain hrun).right
  | cancelOperation => cases (hplain hrun).right
  | confirmDeliveryInvestigation => cases (hplain hrun).right
  | cancelDeliveryInvestigation => cases (hplain hrun).right

/-- The customer has confirmed a delivery investigation for the order. -/
def InvestigationConfirmed (env : Environment) (s : RefundState) (x : OrderId) : Prop :=
  exists s₀ db path db', (operationSubflow env s₀).run db = (Except.ok (path, s), db') ∧
    OperationNode.confirmDeliveryInvestigation ∈ path ∧ s.orderId = some x

theorem InvestigationConfirmed.reported {env : Environment} {s : RefundState}
    {x : OrderId} (h : InvestigationConfirmed env s x) : DeliveryReported s := by
  rcases h with ⟨s₀, db, path, db', hrun, hmem, _⟩
  rcases Workflow.run_passes (J := Heading) operationSubgraph_heading
    (n := OperationNode.detectOperationOrder) trivial hrun _ hmem with
    ⟨s₁, db₁, s₂, goto, db₂, hheading, hnode, hlast⟩
  rcases stays_run_ok hnode with ⟨hconfirm, rfl⟩
  cases hconfirm
  rw [(hlast rfl).left]
  exact ⟨hheading.right.operation, hheading.right.issue, hheading.right.reported,
    hheading.right.codes⟩

/-!
## What the handoff makes of it
-/

/-- An unresolved investigation of the order that has a provider command. -/
def InvestigationOpen (db : Database) (tenantId threadId : CleanText) (x : OrderId) :
    Prop :=
  exists c, c ∈ db.cases.rows.rows ∧ c.tenantId = tenantId ∧ c.threadId = threadId ∧
    c.caseType = CaseType.deliveryInvestigation ∧
    c.orderId = some (TrimmedText.ofString x.text) ∧ c.unresolved = true ∧
    hasCaseCommand db c.caseId = true

theorem InvestigationOpen.congr {db db' : Database} (h : SameTables db db')
    (tenantId threadId : CleanText) (x : OrderId) :
    InvestigationOpen db' tenantId threadId x ↔ InvestigationOpen db tenantId threadId x := by
  unfold InvestigationOpen hasCaseCommand
  rw [h.cases, h.outbox]

theorem caseType_of_frozen {c c' : SupportCase} (h : c'.frozen = c.frozen) :
    c'.caseType = c.caseType := by
  show c'.frozen.caseType = c.frozen.caseType
  rw [h]

theorem CaseWritten.investigationOpen_iff {db db' : Database} {c : SupportCase}
    {e : SupportCaseEvent} (h : CaseWritten db db' c e) (houtbox : db'.outbox = db.outbox)
    (hkind : c.caseType ≠ CaseType.deliveryInvestigation) (tenantId threadId : CleanText)
    (x : OrderId) :
    InvestigationOpen db' tenantId threadId x ↔ InvestigationOpen db tenantId threadId x := by
  constructor
  · rintro ⟨d, hd, htenant, hthread, hdelivery, hrest⟩
    rcases h.get_cases (Table.get_of_mem hd) with rfl | hold
    · exact absurd hdelivery hkind
    · refine ⟨d, Table.mem_of_get hold, htenant, hthread, hdelivery, hrest.left,
        hrest.right.left, ?_⟩
      rw [← hasCaseCommand_of_outbox houtbox]
      exact hrest.right.right
  · rintro ⟨d, hd, htenant, hthread, hdelivery, hrest⟩
    have hget := Table.get_of_mem hd
    have hother : d.caseId ≠ c.caseId := by
      intro hid
      rw [hid] at hget
      exact hkind ((caseType_of_frozen (h.before d hget)).trans hdelivery)
    rw [← h.others d.caseId hother] at hget
    refine ⟨d, Table.mem_of_get hget, htenant, hthread, hdelivery, hrest.left,
      hrest.right.left, ?_⟩
    rw [hasCaseCommand_of_outbox houtbox]
    exact hrest.right.right

theorem buildCaseTrigger_order {env : Environment} {s : RefundState}
    {trigger : CaseTrigger} (h : buildCaseTrigger env s = Except.ok trigger) :
    trigger.orderId = s.caseOrder := by
  unfold buildCaseTrigger at h
  rcases hmeta : turnMetadata env s
      "A text HumanMessage is required when creating a support case"
      "The triggering HumanMessage must have a stable message ID"
      "The triggering message must not be empty" with e | metadata
  · rw [hmeta] at h
    cases h
  rcases hthread : cleanField "CaseTrigger" metadata.1 with e | thread
  · simp only [hmeta, hthread, Bind.bind, Except.bind] at h
    cases h
  rcases hmessage : cleanField "CaseTrigger" metadata.2.1 with e | message
  · simp only [hmeta, hthread, hmessage, Bind.bind, Except.bind] at h
    cases h
  rcases hexcerpt : cleanField "CaseTrigger" metadata.2.2 with e | excerpt
  · simp only [hmeta, hthread, hmessage, hexcerpt, Bind.bind, Except.bind] at h
    cases h
  simp only [hmeta, hthread, hmessage, hexcerpt, Bind.bind, Except.bind] at h
  by_cases hlength : excerpt.text.length ≤ 500
  · rw [dif_pos hlength] at h
    cases h
    rfl
  · rw [dif_neg hlength] at h
    cases h

theorem DeliveryReported.type_iff {s : RefundState} (h : DeliveryReported s)
    {input : HandoffPolicyInput} (hinput : buildHandoffPolicyInput s = Except.ok input) :
    (determineHandoffPolicy input).shouldCreateCase = true ∧
      ((determineHandoffPolicy input).caseType = some CaseType.deliveryInvestigation ↔
        s.Undiverted) := by
  have hof := buildHandoffPolicyInput_ok hinput
  have hdomain : forall r, r ∈ input.domainCaseReasonCodes ->
      r.caseType = CaseType.deliveryInvestigation := by
    intro r hr
    rcases (mem_parseReasons hof.domain r).mp hr with ⟨code, hcode, hparse⟩
    rcases h.codes code hcode with ⟨r', hparse', hkind⟩
    rw [hparse] at hparse'
    cases hparse'
    exact hkind
  rcases List.exists_mem_of_ne_nil _ h.reported with ⟨code, hcode⟩
  rcases h.codes code hcode with ⟨r, hparse, hkind⟩
  have hr : r ∈ handoffReasons input := by
    refine mem_handoffReasons.mpr (Or.inr (Or.inr (Or.inr (Or.inr (Or.inr (Or.inr ?_))))))
    exact (mem_parseReasons hof.domain r).mpr ⟨code, hcode, hparse⟩
  refine ⟨determineHandoffPolicy_positive.mpr (List.ne_nil_of_mem hr), ?_⟩
  rw [determineHandoffPolicy_type_iff hr hkind,
    outranked_iff hof (k := caseTypeRank CaseType.deliveryInvestigation) (by decide)
      (by decide)]
  constructor
  · exact fun hboth => hboth.left
  · refine fun hplain => ⟨hplain, ?_⟩
    intro r hr
    rw [hdomain r hr]

/--
A confirmed investigation is open after the handoff exactly when it was open
before, or the turn has no reason that outranks the report and its message has
not been recorded.
-/
theorem investigation_open_iff {env : Environment} {s s' : RefundState} {x : OrderId}
    {scope : AccessScope} {trigger : CaseTrigger} {db db' : Database}
    (hconfirmed : InvestigationConfirmed env s x)
    (hscope : env.requireScope = Except.ok scope)
    (htrigger : buildCaseTrigger env s = Except.ok trigger)
    (hresolve : exists connection, env.resolve scope.tenantId = Except.ok connection)
    (h : (finalizeCaseHandoff env s).run db = (Except.ok s', db')) :
    InvestigationOpen db' scope.tenantId trigger.threadId x ↔
      InvestigationOpen db scope.tenantId trigger.threadId x ∨
        (caseAlreadyPersisted s = false ∧ s.Undiverted ∧
          sourceCase scope trigger.threadId trigger.sourceMessageId db.cases = none) := by
  have hreported := hconfirmed.reported
  rcases hconfirmed with ⟨_, _, _, _, _, _, horder⟩
  have hcaseOrder : trigger.orderId = some (TrimmedText.ofString x.text) := by
    rw [buildCaseTrigger_order htrigger]
    unfold RefundState.caseOrder
    rw [horder]
    rfl
  rcases finalizeCaseHandoff_run_ok h with ⟨hpersisted, rfl, _⟩ |
    ⟨hpersisted, input, hinput, hdecision⟩
  · constructor
    · exact fun hopen => Or.inl hopen
    · rintro (hopen | ⟨hnot, _⟩)
      · exact hopen
      · rw [hpersisted] at hnot
        cases hnot
  · rcases hreported.type_iff hinput with ⟨hpositive, htype⟩
    rcases hdecision with ⟨hnegative, _⟩ | ⟨_, caseType, scope', trigger', c, hkind, htaken⟩
    · rw [hpositive] at hnegative
      cases hnegative
    · have hscope' := htaken.authorised
      rw [hscope] at hscope'
      cases hscope'
      have htrigger' := htaken.built
      rw [htrigger] at htrigger'
      cases htrigger'
      rw [hkind, Option.some.injEq] at htype
      rcases htaken.recorded with ⟨priority, reasons, hrecorded, _⟩
      cases hrecorded with
      | duplicate found same =>
          rw [InvestigationOpen.congr same]
          constructor
          · exact fun hopen => Or.inl hopen
          · rintro (hopen | ⟨_, _, hfresh⟩)
            · exact hopen
            · rw [hfresh] at found
              cases found
      | written fresh recorded write =>
          by_cases hdelivery : caseType = CaseType.deliveryInvestigation
          · -- the report's own type: the case that has been written is the investigation
            have howner := AccessScope.owns_iff.mp recorded.owner
            have hopen : InvestigationOpen db' scope.tenantId trigger.threadId x := by
              refine ⟨c, Table.mem_of_get write.stored, howner.left, recorded.thread,
                recorded.kind.trans hdelivery, ?_, recorded.unresolved,
                htaken.command hdelivery hresolve fresh⟩
              rw [recorded.order hdelivery, hcaseOrder]
            exact ⟨fun _ => Or.inr ⟨hpersisted, htype.mp hdelivery, fresh⟩, fun _ => hopen⟩
          · have hother : c.caseType ≠ CaseType.deliveryInvestigation := by
              rw [recorded.kind]
              exact hdelivery
            rw [write.investigationOpen_iff (htaken.outbox hdelivery) hother]
            constructor
            · exact fun hopen => Or.inl hopen
            · rintro (hopen | ⟨_, hplain, _⟩)
              · exact hopen
              · exact absurd (htype.mpr hplain) hdelivery

/-!
## An example

A customer reports a damaged package and confirms.  In the second report the
same message is also a legal risk of medium level.
-/

def sampleReportEnvironment : Environment :=
  { sampleEnvironment with
    route := { step := Intent.deliveryIssue, humanHandoffRequested := false }
    extraction := { sampleExtraction with
      operationType := none
      reason := none
      deliveryIssueType := some DeliveryIssueType.packageDamaged
      shapeValid := by decide } }

def sampleThread : CleanText :=
  sampleThreadText

theorem sampleReport_scope :
    sampleReportEnvironment.requireScope = Except.ok sampleUser := by
  have hauthentic : sampleUser.authentic = true := by decide +kernel
  unfold Environment.requireScope
  rw [show sampleReportEnvironment.user = some sampleUser from rfl]
  exact if_pos hauthentic

/-- The report is confirmed, and what the handoff then leaves passes a test. -/
def sampleReport (s : RefundState) (check : RefundState -> Database -> Bool) : Bool :=
  returnsWith (operationSubflow sampleReportEnvironment s) (Database.initial sampleIds)
    fun visited _ =>
      decide (OperationNode.confirmDeliveryInvestigation ∈ visited.1) &&
      decide (visited.2.orderId = some sampleOrder.orderId) &&
      ((buildCaseTrigger sampleReportEnvironment visited.2).toOption.any fun trigger =>
        decide (trigger.threadId = sampleThread)) &&
      returnsWith (finalizeCaseHandoff sampleReportEnvironment visited.2)
        (Database.initial sampleIds) fun _ db => check visited.2 db

theorem sampleReport_eq_true {s₀ : RefundState} {check : RefundState -> Database -> Bool}
    (h : sampleReport s₀ check = true) :
    exists s trigger s' db,
      InvestigationConfirmed sampleReportEnvironment s sampleOrder.orderId ∧
      buildCaseTrigger sampleReportEnvironment s = Except.ok trigger ∧
      trigger.threadId = sampleThread ∧
      (finalizeCaseHandoff sampleReportEnvironment s).run (Database.initial sampleIds) =
        (Except.ok s', db) ∧ check s db = true := by
  rcases returnsWith_eq_true h with ⟨⟨path, s⟩, db₁, hrun, hchecked⟩
  simp only [Bool.and_eq_true, decide_eq_true_eq] at hchecked
  rcases hchecked with ⟨⟨⟨hmem, horder⟩, htrigger⟩, hfinal⟩
  rcases returnsWith_eq_true hfinal with ⟨s', db, hfinalize, hcheck⟩
  rw [Option.any_eq_true] at htrigger
  rcases htrigger with ⟨trigger, hbuilt, hthread⟩
  refine ⟨s, trigger, s', db, ⟨s₀, _, path, db₁, hrun, hmem, horder⟩, ?_,
    of_decide_eq_true hthread, hfinalize, hcheck⟩
  cases hresult : buildCaseTrigger sampleReportEnvironment s with
  | error e =>
      rw [hresult] at hbuilt
      cases hbuilt
  | ok trigger' =>
      rw [hresult] at hbuilt
      cases hbuilt
      rfl

theorem investigation_open_iff_damaged :
    exists (s : RefundState) (trigger : CaseTrigger) (db : Database),
      InvestigationConfirmed sampleReportEnvironment s sampleOrder.orderId ∧
      (InvestigationOpen db sampleUser.tenantId trigger.threadId sampleOrder.orderId ↔
        InvestigationOpen (Database.initial sampleIds) sampleUser.tenantId
          trigger.threadId sampleOrder.orderId ∨
          (caseAlreadyPersisted s = false ∧ s.Undiverted ∧
            sourceCase sampleUser trigger.threadId trigger.sourceMessageId
              (Database.initial sampleIds).cases = none)) := by
  have htest : sampleReport (RefundState.start sampleMessages) (fun _ _ => true) = true := by
    decide +kernel
  rcases sampleReport_eq_true htest with
    ⟨s, trigger, s', db, hconfirmed, htrigger, _, hfinal, _⟩
  refine ⟨s, trigger, db, hconfirmed, ?_⟩
  exact investigation_open_iff hconfirmed sampleReport_scope htrigger ⟨"connection", rfl⟩
    hfinal

/-- The medium risk diverts the report: no investigation is open afterwards. -/
theorem diverted_investigation_not_open :
    (World.initial sampleIds).Reachable ∧
    exists s trigger s' db,
      InvestigationConfirmed sampleReportEnvironment s sampleOrder.orderId ∧
      sampleReportEnvironment.requireScope = Except.ok sampleUser ∧
      buildCaseTrigger sampleReportEnvironment s = Except.ok trigger ∧
      sampleReportEnvironment.resolve sampleUser.tenantId = Except.ok "connection" ∧
      (finalizeCaseHandoff sampleReportEnvironment s).run (World.initial sampleIds).db =
        (Except.ok s', db) ∧
      ¬InvestigationOpen db sampleUser.tenantId trigger.threadId sampleOrder.orderId := by
  have htest : sampleReport
      { RefundState.start sampleMessages with
        semanticRiskLevel := some SemanticRiskLevel.medium
        semanticRiskCategories := [SemanticRiskCategory.legal] }
      (fun _ db => db.cases.rows.rows.all fun c =>
        decide (c.caseType ≠ CaseType.deliveryInvestigation)) = true := by
    decide +kernel
  rcases sampleReport_eq_true htest with
    ⟨s, trigger, s', db, hconfirmed, htrigger, _, hfinal, hcheck⟩
  refine ⟨World.Reachable.initial sampleIds, s, trigger, s', db, hconfirmed,
    sampleReport_scope, htrigger, rfl, hfinal, ?_⟩
  rintro ⟨c, hc, _, _, hdelivery, _⟩
  have hother := List.all_eq_true.mp hcheck c hc
  exact of_decide_eq_true hother hdelivery

end RefundAgent
