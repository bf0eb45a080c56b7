import RefundAgent.Graph.Turn

/-!
# Paths through the graph

No path through the main graph or through the operation subflow comes back to a
node, so the recursion limit of the runtime never ends a turn.
-/

namespace RefundAgent

open Foundation

/-!
## The main graph
-/

/-- Where the edges of a node and the answers to its interrupt lead. -/
def Node.successors : Node -> List Node
  | Node.checkRiskRules => [Node.handleCriticalRisk, Node.classifySemanticRisk]
  | Node.classifySemanticRisk => [Node.handleCriticalRisk, Node.llmCallRouter]
  | Node.llmCallRouter =>
      [Node.finalizeCaseHandoff, Node.classifyFormalComplaint, Node.confirmHumanHandoff,
        Node.supportCaseStatus, Node.confirmOrderPriority, Node.operationSubflow,
        Node.detectOrder]
  | Node.classifyFormalComplaint =>
      [Node.confirmHumanHandoff, Node.handleNoncriticalRisk, Node.handleComplaint]
  | Node.confirmHumanHandoff =>
      [Node.acknowledgeHumanHandoff, Node.handleNoncriticalRisk, Node.handleComplaint,
        Node.confirmOrderPriority, Node.resumeOrderFlow, Node.detectOrder]
  | Node.acknowledgeHumanHandoff => [Node.finalizeCaseHandoff]
  | Node.confirmOrderPriority => [Node.resumeOrderFlow, Node.handleNoncriticalRisk]
  | Node.resumeOrderFlow => [Node.detectOrder, Node.operationSubflow]
  | Node.handleComplaint => [Node.finalizeCaseHandoff]
  | Node.handleNoncriticalRisk => [Node.finalizeCaseHandoff]
  | Node.handleCriticalRisk => [Node.finalizeCaseHandoff]
  | Node.detectOrder => [Node.searchNode, Node.finalizeCaseHandoff]
  | Node.searchNode =>
      [Node.finalizeCaseHandoff, Node.orderResponse, Node.checkRefundEligibility]
  | Node.orderResponse => [Node.finalizeCaseHandoff]
  | Node.checkRefundEligibility => [Node.finalizeCaseHandoff, Node.approvalNode]
  | Node.approvalNode => [Node.proceed, Node.cancel]
  | Node.proceed => [Node.finalizeCaseHandoff]
  | Node.cancel => [Node.finalizeCaseHandoff]
  | Node.supportCaseStatus => [Node.finalizeCaseHandoff]
  | Node.operationSubflow => [Node.finalizeCaseHandoff]
  | Node.finalizeCaseHandoff => [Node.attachOperationCase]
  | Node.attachOperationCase => []

/-- The number of nodes that can still follow. -/
def Node.rank : Node -> Nat
  | Node.checkRiskRules => 13
  | Node.classifySemanticRisk => 12
  | Node.llmCallRouter => 11
  | Node.classifyFormalComplaint => 10
  | Node.confirmHumanHandoff => 9
  | Node.confirmOrderPriority => 8
  | Node.resumeOrderFlow => 7
  | Node.detectOrder => 6
  | Node.searchNode => 5
  | Node.checkRefundEligibility => 4
  | Node.approvalNode => 3
  | Node.finalizeCaseHandoff => 1
  | Node.attachOperationCase => 0
  | _ => 2

def Node.Leads (n d : Node) : Prop :=
  d ∈ n.successors

instance (n d : Node) : Decidable (n.Leads d) :=
  inferInstanceAs (Decidable (d ∈ n.successors))

theorem Node.Leads.rank {n d : Node} (h : n.Leads d) : d.rank < n.rank := by
  have hall : forall d, d ∈ n.successors -> d.rank < n.rank := by
    cases n <;> decide
  exact hall d h

theorem Node.Leads.attachment {n : Node} (h : n.Leads Node.attachOperationCase) :
    n = Node.finalizeCaseHandoff := by
  unfold Node.Leads at h
  revert h
  cases n <;> decide

/-- The node leaves the choice of its successor to the edges. -/
def Node.edged (n : Node) : Bool :=
  decide (n ≠ Node.confirmHumanHandoff ∧ n ≠ Node.confirmOrderPriority ∧
    n ≠ Node.approvalNode)

theorem routeAfterSemanticRisk_leads {s : RefundState} {d : Node}
    (h : routeAfterSemanticRisk s = Except.ok d) :
    Node.classifySemanticRisk.Leads d := by
  unfold routeAfterSemanticRisk at h
  cases hlevel : s.semanticRiskLevel with
  | none =>
      simp only [hlevel] at h
      cases h
  | some level =>
      simp only [hlevel] at h
      cases level <;> cases h <;> decide

theorem routeByIntentAndRisk_leads {s : RefundState} {d : Node}
    (h : routeByIntentAndRisk s = Except.ok d) : Node.llmCallRouter.Leads d := by
  unfold routeByIntentAndRisk at h
  split at h
  · cases h
    decide
  · cases h
    decide
  · split at h
    · cases h
      decide
    · split at h
      · cases h
        decide
      · split at h
        · cases h
          decide
        · cases h
          decide
        · split at h <;> cases h <;> decide
        · cases h

theorem routeAfterFormalComplaint_leads (s : RefundState) :
    Node.classifyFormalComplaint.Leads (routeAfterFormalComplaint s) := by
  unfold routeAfterFormalComplaint
  split
  · decide
  · split <;> decide

theorem routeAfterHumanHandoffDeclined_leads {s : RefundState} {d : Node}
    (h : routeAfterHumanHandoffDeclined s = Except.ok d) :
    Node.confirmHumanHandoff.Leads d := by
  unfold routeAfterHumanHandoffDeclined at h
  dsimp only at h
  split at h
  · cases h
  · cases h
    decide
  · cases h
    decide
  · cases h
    decide
  · cases h
  · cases h
    decide
  · cases h
    decide
  · split at h <;> cases h <;> decide
  · cases h

theorem routeAfterOrderLookup_leads {s : RefundState} {d : Node}
    (h : routeAfterOrderLookup s = Except.ok d) : Node.searchNode.Leads d := by
  unfold routeAfterOrderLookup at h
  split at h
  · cases h
    decide
  · split at h
    · cases h
      decide
    · split at h
      · cases h
        decide
      · cases h

theorem routeAfterOrderPriority_leads {s : RefundState} {d : Node}
    (h : routeAfterOrderPriority s = Except.ok d) : Node.resumeOrderFlow.Leads d := by
  unfold routeAfterOrderPriority at h
  split at h
  · cases h
    decide
  · cases h
    decide
  · split at h
    · cases h
      decide
    · cases h
  · cases h

theorem map_some_eq_ok {r : Except Failure Node} {d : Node}
    (h : r.map some = Except.ok (some d)) : r = Except.ok d := by
  cases r with
  | ok d' =>
      cases h
      rfl
  | error e => cases h

theorem map_some_ne_none {r : Except Failure Node} : r.map some ≠ Except.ok none := by
  cases r with
  | ok d => exact fun h => (by cases h)
  | error e => exact fun h => (by cases h)

theorem graphEdge_leads {n : Node} (hn : n.edged = true) (s : RefundState) :
    (forall d, graphEdge n s = Except.ok (some d) -> n.Leads d) ∧
      (graphEdge n s = Except.ok none -> n = Node.attachOperationCase) := by
  have hfixed : forall d d' : Node, n.Leads d' ->
      (Except.ok (some d') : Except Failure (Option Node)) = Except.ok (some d) ->
        n.Leads d := by
    intro d d' hleads h
    cases h
    exact hleads
  have hsome : forall d : Node, (Except.ok (some d) : Except Failure (Option Node)) =
      Except.ok none -> n = Node.attachOperationCase := fun d h => (by cases h)
  cases n with
  | checkRiskRules =>
      refine ⟨fun d h => hfixed d _ ?_ h, hsome _⟩
      unfold routeAfterRiskRules
      split <;> decide
  | classifySemanticRisk =>
      exact ⟨fun d h => routeAfterSemanticRisk_leads (map_some_eq_ok h),
        fun h => absurd h map_some_ne_none⟩
  | llmCallRouter =>
      exact ⟨fun d h => routeByIntentAndRisk_leads (map_some_eq_ok h),
        fun h => absurd h map_some_ne_none⟩
  | classifyFormalComplaint =>
      exact ⟨fun d h => hfixed d _ (routeAfterFormalComplaint_leads s) h, hsome _⟩
  | confirmHumanHandoff => cases hn
  | acknowledgeHumanHandoff => exact ⟨fun d h => hfixed d _ (by decide) h, hsome _⟩
  | confirmOrderPriority => cases hn
  | resumeOrderFlow =>
      exact ⟨fun d h => routeAfterOrderPriority_leads (map_some_eq_ok h),
        fun h => absurd h map_some_ne_none⟩
  | handleComplaint => exact ⟨fun d h => hfixed d _ (by decide) h, hsome _⟩
  | handleNoncriticalRisk => exact ⟨fun d h => hfixed d _ (by decide) h, hsome _⟩
  | handleCriticalRisk => exact ⟨fun d h => hfixed d _ (by decide) h, hsome _⟩
  | detectOrder =>
      refine ⟨fun d h => hfixed d _ ?_ h, hsome _⟩
      unfold routeAfterDetection
      split <;> decide
  | searchNode =>
      exact ⟨fun d h => routeAfterOrderLookup_leads (map_some_eq_ok h),
        fun h => absurd h map_some_ne_none⟩
  | orderResponse => exact ⟨fun d h => hfixed d _ (by decide) h, hsome _⟩
  | checkRefundEligibility =>
      refine ⟨fun d h => hfixed d _ ?_ h, hsome _⟩
      unfold routeAfterPolicy
      split <;> decide
  | approvalNode => cases hn
  | proceed => exact ⟨fun d h => hfixed d _ (by decide) h, hsome _⟩
  | cancel => exact ⟨fun d h => hfixed d _ (by decide) h, hsome _⟩
  | supportCaseStatus => exact ⟨fun d h => hfixed d _ (by decide) h, hsome _⟩
  | operationSubflow => exact ⟨fun d h => hfixed d _ (by decide) h, hsome _⟩
  | finalizeCaseHandoff => exact ⟨fun d h => hfixed d _ (by decide) h, hsome _⟩
  | attachOperationCase => exact ⟨fun d h => (by cases h), fun _ => rfl⟩

theorem stays_next {ν : Type} {p : Call RefundState} :
    Program.Within (fun {_ : Type} _ => True) (stays p : Call (RefundState × Option ν))
      fun result => result.2 = none := by
  refine Program.Within.bind (Q := fun _ => True) ?_ (Program.Within.unrestricted p)
  exact fun _ _ => Program.Within.pure rfl

theorem graph_links (env : Environment) :
    (graph env).Links Node.Leads fun n => n = Node.attachOperationCase := by
  intro n s
  by_cases hn : n.edged = true
  · have hstays : Program.Within (fun {_ : Type} _ => True) ((graph env).node n s)
        fun result => result.2 = none := by
      cases n with
      | confirmHumanHandoff => cases hn
      | confirmOrderPriority => cases hn
      | approvalNode => cases hn
      | _ => exact stays_next
    refine hstays.mono ?_
    rintro ⟨s', goto⟩ hgoto
    have hgoto : goto = none := hgoto
    rw [hgoto]
    exact graphEdge_leads hn s'
  · -- the three nodes that resume an interrupt name their successor
    have hnext : forall (s' : RefundState) (d : Node), n.Leads d ->
        (forall d', (graph env).next n (s', some d) = Except.ok (some d') -> n.Leads d') ∧
          ((graph env).next n (s', some d) = Except.ok none ->
            n = Node.attachOperationCase) := by
      intro s' d hleads
      refine ⟨fun d' h => ?_, fun h => (by cases h)⟩
      cases h
      exact hleads
    cases n with
    | confirmHumanHandoff =>
        refine Program.Within.bind (Q := fun r => Node.confirmHumanHandoff.Leads r.2)
          (fun r hr => Program.Within.pure (hnext r.1 r.2 hr)) ?_
        intro r hr
        unfold confirmHumanHandoff at hr
        split at hr
        · cases hr
          show Node.confirmHumanHandoff.Leads Node.acknowledgeHumanHandoff
          decide
        · split at hr
          · cases hroute : routeAfterHumanHandoffDeclined s with
            | error e =>
                rw [hroute] at hr
                cases hr
            | ok d =>
                rw [hroute] at hr
                cases hr
                exact routeAfterHumanHandoffDeclined_leads hroute
          · cases hr
    | confirmOrderPriority =>
        refine Program.Within.bind (Q := fun r => Node.confirmOrderPriority.Leads r.2)
          (fun r hr => Program.Within.pure (hnext r.1 r.2 hr)) ?_
        intro r hr
        unfold confirmOrderPriority at hr
        split at hr
        · cases hr
          show Node.confirmOrderPriority.Leads Node.resumeOrderFlow
          decide
        · split at hr
          · cases hr
            show Node.confirmOrderPriority.Leads Node.handleNoncriticalRisk
            decide
          · cases hr
    | approvalNode =>
        refine Program.Within.pure (hnext s (approvalNode env) ?_)
        unfold approvalNode
        split <;> decide
    | _ => exact absurd rfl hn

/-!
## The operation subflow
-/

/-- Where the edges of a node and the answer to the confirmation lead. -/
def OperationNode.successors : OperationNode -> List OperationNode
  | OperationNode.detectOperationOrder => [OperationNode.loadOperationSnapshot]
  | OperationNode.loadOperationSnapshot => [OperationNode.extractOperationRequest]
  | OperationNode.extractOperationRequest => [OperationNode.evaluateOperationRequest]
  | OperationNode.evaluateOperationRequest => [OperationNode.operationConfirmation]
  | OperationNode.operationConfirmation =>
      [OperationNode.cancelDeliveryInvestigation, OperationNode.cancelOperation,
        OperationNode.confirmDeliveryInvestigation, OperationNode.confirmManualOperation,
        OperationNode.submitConfirmedOperation]
  | _ => []

def OperationNode.rank : OperationNode -> Nat
  | OperationNode.detectOperationOrder => 5
  | OperationNode.loadOperationSnapshot => 4
  | OperationNode.extractOperationRequest => 3
  | OperationNode.evaluateOperationRequest => 2
  | OperationNode.operationConfirmation => 1
  | _ => 0

def OperationNode.Leads (n d : OperationNode) : Prop :=
  d ∈ n.successors

instance (n d : OperationNode) : Decidable (n.Leads d) :=
  inferInstanceAs (Decidable (d ∈ n.successors))

theorem OperationNode.Leads.rank {n d : OperationNode} (h : n.Leads d) :
    d.rank < n.rank := by
  have hall : forall d, d ∈ n.successors -> d.rank < n.rank := by
    cases n <;> decide
  exact hall d h

theorem operationEdge_leads {n d : OperationNode} {s : RefundState}
    (h : operationEdge n s = some d) : n.Leads d := by
  unfold operationEdge at h
  split at h
  · split at h <;> cases h
    decide
  · split at h <;> cases h
    decide
  · cases h
    decide
  · split at h <;> cases h
    decide
  · cases h

theorem operationConfirmationNode_leads {env : Environment} {s : RefundState}
    {d : OperationNode} (h : operationConfirmationNode env s = Except.ok d) :
    OperationNode.operationConfirmation.Leads d := by
  unfold operationConfirmationNode at h
  split at h
  · split at h <;> cases h <;> decide
  · split at h
    · cases h
    · split at h
      · cases h
        decide
      · split at h <;> cases h <;> decide

theorem operationSubgraph_links (env : Environment) :
    (operationSubgraph env).Links OperationNode.Leads fun _ => True := by
  intro n s
  by_cases hn : n = OperationNode.operationConfirmation
  · subst hn
    refine Program.Within.bind
      (Q := fun d => operationConfirmationNode env s = Except.ok d) ?_ (fun _ hd => hd)
    intro d hd
    refine Program.Within.pure ⟨fun d' h => ?_, fun _ => trivial⟩
    cases h
    exact operationConfirmationNode_leads hd
  · have hstays : Program.Within (fun {_ : Type} _ => True)
        ((operationSubgraph env).node n s) fun result => result.2 = none := by
      cases n with
      | operationConfirmation => exact absurd rfl hn
      | _ => exact stays_next
    refine hstays.mono ?_
    rintro ⟨s', goto⟩ hgoto
    have hgoto : goto = none := hgoto
    rw [hgoto]
    refine ⟨fun d h => ?_, fun _ => trivial⟩
    exact operationEdge_leads (Except.ok.inj h)

/-!
## Turns
-/

structure TurnPath (path : List Node) : Prop where
  starts : path.head? = some Node.checkRiskRules
  chain : List.IsChain Node.Leads path
  distinct : path.Nodup
  bounded : path.length ≤ 14
  ends : exists front,
    path = front ++ [Node.finalizeCaseHandoff, Node.attachOperationCase]

theorem TurnPath.handed_off {path : List Node} (h : TurnPath path) :
    exists p, p ∈ path ∧ p.Leads Node.finalizeCaseHandoff := by
  rcases h.ends with ⟨front, hends⟩
  have hmem : Node.finalizeCaseHandoff ∈ path := by
    rw [hends]
    simp
  cases path with
  | nil => cases hmem
  | cons n rest =>
      have hn : n = Node.checkRiskRules := Option.some.inj h.starts
      rcases List.mem_cons.mp hmem with heq | hrest
      · rw [hn] at heq
        cases heq
      · exact Workflow.path_enters h.chain hrest

theorem turn_follows (env : Environment) (s : RefundState) :
    Program.Within (fun {_ : Type} _ => True) (turn env s) fun r => TurnPath r.1 := by
  refine ((graph_links env).path recursionLimit Node.checkRiskRules s).mono ?_
  rintro ⟨path, s'⟩ ⟨rest, hpath, hchain, m, hm, hlast⟩
  have hpath : path = Node.checkRiskRules :: rest := hpath
  subst hpath
  have hrank : forall n d : Node, n.Leads d -> d.rank < n.rank := fun _ _ h => h.rank
  refine ⟨rfl, hchain, Workflow.path_nodup hrank hchain, Workflow.path_length hrank hchain,
    ?_⟩
  cases rest with
  | nil =>
      cases hm
      cases hlast
  | cons d rest =>
      rcases Workflow.path_ends hchain hm with ⟨front, p, heq, hlead⟩
      rw [hlast] at heq hlead
      rw [hlead.attachment] at heq
      exact ⟨front, heq⟩

theorem turn_unbounded (env : Environment) (s : RefundState) (more : Nat) :
    (graph env).run (recursionLimit + more) Node.checkRiskRules s = turn env s ∧
      (operationSubgraph env).run (recursionLimit + more)
        OperationNode.detectOperationOrder s = operationSubflow env s := by
  constructor
  · exact (graph_links env).run_add (fun _ _ h => h.rank) (by decide) more
  · exact (operationSubgraph_links env).run_add (fun _ _ h => h.rank) (by decide) more

end RefundAgent
