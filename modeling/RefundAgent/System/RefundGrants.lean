import RefundAgent.Integrations.EnvelopeRow
import RefundAgent.System.Permissions
import RefundAgent.System.TurnCalls

/-!
# Refunds that a turn grants

From the refund table back to the answers on which the row rests: the order record that
the turn has looked up for its own customer, the policy that it has applied to the
record, and the approval of the customer.
-/

namespace RefundAgent

open Foundation

/-!
## What a grant rests on
-/

structure Environment.Found (env : Environment) (customerId tenantId : CleanText)
    (order : OrderInfo) : Prop where
  scope : exists scope, env.requireScope = Except.ok scope ∧
    scope.customerId = some customerId ∧ scope.tenantId = tenantId
  record : exists number : OrderId,
    searchOrder env number customerId tenantId = some order

/-- The policy lets a refund of the order through without a review. -/
structure Environment.Refundable (env : Environment) (order : OrderInfo) : Prop where
  window : exists date, order.deliveryDate = some date ∧ 0 ≤ env.today 1 - date ∧
    env.today 1 - date ≤ 7
  delivered : order.status = "delivered"
  unrefunded : order.refunded = false
  amount : order.amount < 10000

/-- A refund request of the turn: approved, on a record that the policy lets through. -/
structure Environment.Grants (env : Environment) (r : RefundRequest) : Prop where
  approved : env.refundApproval = ResumeValue.bool true
  pending : r.status = RefundStatus.pending
  order : exists order, order.orderId = r.orderId ∧
    env.Found r.customerId r.tenantId order ∧ env.Refundable order

theorem Environment.Found.owned {env : Environment} {customerId tenantId : CleanText}
    {order : OrderInfo} (h : env.Found customerId tenantId order) :
    exists number record, env.orders number = some record ∧
      record.ownerCustomerId = customerId.text ∧ record.tenantId = tenantId.text ∧
      record.orderId = order.orderId := by
  rcases h.record with ⟨number, hsearch⟩
  unfold searchOrder at hsearch
  cases hrecord : env.orders number.text with
  | none =>
      rw [hrecord] at hsearch
      cases hsearch
  | some record =>
      simp only [hrecord] at hsearch
      by_cases hforeign : record.ownerCustomerId ≠ customerId.text ∨
          record.tenantId ≠ tenantId.text
      · rw [if_pos hforeign] at hsearch
        cases hsearch
      · rw [if_neg hforeign] at hsearch
        cases hsearch
        push Not at hforeign
        exact ⟨number.text, record, hrecord, hforeign.left, hforeign.right, rfl⟩

theorem checkRefundPolicy_refundable {env : Environment} {order : OrderInfo}
    (heligible : (checkRefundPolicy (some order) (env.today 1)).eligible = true)
    (hplain : (checkRefundPolicy (some order) (env.today 1)).requiresManualReview = false) :
    env.Refundable order ∧
      (checkRefundPolicy (some order) (env.today 1)).orderId = some order.orderId := by
  unfold checkRefundPolicy at heligible hplain ⊢
  dsimp only at heligible hplain ⊢
  cases hdate : order.deliveryDate with
  | none =>
      simp only [hdate] at heligible
      cases heligible
  | some date =>
      simp only [hdate] at heligible hplain ⊢
      by_cases hearly : env.today 1 - date < 0
      · rw [if_pos hearly] at heligible
        cases heligible
      rw [if_neg hearly] at heligible hplain ⊢
      by_cases hlate : 7 < env.today 1 - date
      · rw [if_pos hlate] at heligible
        cases heligible
      rw [if_neg hlate] at heligible hplain ⊢
      by_cases hstatus : order.status ≠ "delivered"
      · rw [if_pos hstatus] at heligible
        cases heligible
      rw [if_neg hstatus] at heligible hplain ⊢
      by_cases hrefunded : order.refunded = true
      · rw [if_pos hrefunded] at heligible
        cases heligible
      rw [if_neg hrefunded] at heligible hplain ⊢
      by_cases hamount : 10000 ≤ order.amount
      · rw [if_pos hamount] at hplain
        cases hplain
      rw [if_neg hamount]
      exact ⟨⟨⟨date, hdate, Int.not_lt.mp hearly, Int.not_lt.mp hlate⟩,
        not_not.mp hstatus, Bool.eq_false_iff.mpr hrefunded, Nat.lt_of_not_le hamount⟩, rfl⟩

/-!
## Transactions
-/

/-- A transaction that adds no refund request but those that satisfy a condition. -/
def AddsRefunds (G : RefundRequest -> Prop) {α : Type} (tx : Tx α) : Prop :=
  Transaction.Keeps (fun db db' => forall r, r ∈ db'.refunds.rows ->
    r ∈ db.refunds.rows ∨ G r) tx

theorem Confines.addsRefunds {G : RefundRequest -> Prop} {F : List Part} {α : Type}
    {tx : Tx α} (h : Confines F tx) (hF : Part.refunds ∉ F) : AddsRefunds G tx := by
  intro db a db' htx r hr
  have hsame : db'.refunds = db.refunds := h db a db' htx Part.refunds hF
  rw [hsame] at hr
  exact Or.inl hr

theorem createRefundRequest_addsRefunds {G : RefundRequest -> Prop} {scope : AccessScope}
    {refund : RefundRequest} (h : G refund) :
    AddsRefunds G (createRefundRequest scope refund) := by
  intro db created db' htx r hr
  rcases insertRefundOnce_step (createRefundRequest_eq_ok.mp htx).right.right with
    ⟨_, hsame⟩ | ⟨_, refunds, hstep, hnew⟩
  · rw [hsame] at hr
    exact Or.inl hr
  · rw [hnew] at hr
    cases hstep with
    | create unused hinsert =>
        have hr : r ∈ refunds.rows := hr
        rw [(Table.insert?_eq_some.mp hinsert).right] at hr
        rcases List.mem_append.mp hr with hr | hr
        · exact Or.inl hr
        · rw [List.mem_singleton.mp hr]
          exact Or.inr h

/-!
## Nodes
-/

/-- How far a turn has come towards a refund when a node is reached. -/
def Environment.Approaches (env : Environment) : Node -> RefundState -> Prop
  | Node.checkRefundEligibility, s => exists customerId tenantId order,
      s.orderInfo = some order ∧ env.Found customerId tenantId order
  | Node.approvalNode, s => exists customerId tenantId order,
      s.orderId = some order.orderId ∧ env.Found customerId tenantId order ∧
        env.Refundable order
  | Node.proceed, s => env.refundApproval = ResumeValue.bool true ∧
      exists customerId tenantId order, s.orderId = some order.orderId ∧
        env.Found customerId tenantId order ∧ env.Refundable order
  | _, _ => True

section Nodes

variable {env : Environment} {s : RefundState} {n d : Node}

theorem Environment.Approaches.elsewhere (h : d ≠ Node.checkRefundEligibility)
    (h' : d ≠ Node.approvalNode) (h'' : d ≠ Node.proceed) (s : RefundState) :
    env.Approaches d s := by
  cases d with
  | checkRefundEligibility => exact absurd rfl h
  | approvalNode => exact absurd rfl h'
  | proceed => exact absurd rfl h''
  | _ => trivial

theorem Node.Leads.searched (h : n.Leads Node.checkRefundEligibility) :
    n = Node.searchNode := by
  unfold Node.Leads at h
  revert h
  cases n <;> decide

theorem Node.Leads.checked (h : n.Leads Node.approvalNode) :
    n = Node.checkRefundEligibility := by
  unfold Node.Leads at h
  revert h
  cases n <;> decide

theorem searchOrderNode_found {s' : RefundState}
    (h : searchOrderNode env s = Except.ok s') (hsuccess : s'.searchSuccess = true) :
    exists customerId tenantId order, s'.orderInfo = some order ∧
      env.Found customerId tenantId order := by
  unfold searchOrderNode at h
  cases hscope : env.requireScope with
  | error e =>
      rw [hscope] at h
      cases h
  | ok scope =>
      simp only [hscope, Bind.bind, Except.bind] at h
      split at h
      · cases h
        cases hsuccess
      · cases h
      · rename_i customerId orderId hcustomer horder
        cases hsearch : searchOrder env orderId customerId scope.tenantId with
        | none =>
            simp only [hsearch] at h
            cases h
            cases hsuccess
        | some order =>
            simp only [hsearch] at h
            cases h
            exact ⟨customerId, scope.tenantId, order, rfl, ⟨scope, hscope, hcustomer, rfl⟩,
              orderId, hsearch⟩

theorem searchNode_approaches (env : Environment) (s : RefundState) :
    Program.Within (fun {_ : Type} _ => True) (graphNode env Node.searchNode s)
      fun result => forall d, (graph env).next Node.searchNode result =
        Except.ok (some d) -> env.Approaches d result.1 := by
  refine Program.Within.bind (Q := fun s' => searchOrderNode env s = Except.ok s') ?_
    (fun s' hs' => hs')
  intro s' hs'
  apply Program.Within.pure
  intro d hd
  have hd : routeAfterOrderLookup s' = Except.ok d := map_some_eq_ok hd
  unfold routeAfterOrderLookup at hd
  cases hsuccess : s'.searchSuccess with
  | false =>
      rw [hsuccess] at hd
      cases hd
      trivial
  | true =>
      rw [hsuccess, if_neg (by decide)] at hd
      split at hd
      · cases hd
        trivial
      · split at hd
        · cases hd
          exact searchOrderNode_found hs' hsuccess
        · cases hd

theorem checkRefundEligibilityNode_approves
    (h : env.Approaches Node.checkRefundEligibility s)
    (hroute : routeAfterPolicy (checkRefundEligibilityNode env s) = Node.approvalNode) :
    env.Approaches Node.approvalNode (checkRefundEligibilityNode env s) := by
  rcases h with ⟨customerId, tenantId, order, hinfo, hfound⟩
  have hpolicy := @checkRefundPolicy_refundable env order
  unfold checkRefundEligibilityNode routeAfterPolicy at hroute
  unfold checkRefundEligibilityNode
  rw [hinfo] at hroute ⊢
  dsimp only at hroute ⊢
  generalize checkRefundPolicy (some order) (env.today 1) = result at hpolicy hroute ⊢
  rcases result with ⟨eligible, reason, review, orderId⟩
  cases eligible with
  | false => cases hroute
  | true =>
      cases review with
      | true => cases hroute
      | false =>
          rcases hpolicy rfl rfl with ⟨hrefundable, horder⟩
          exact ⟨customerId, tenantId, order, horder, hfound, hrefundable⟩

theorem graphNode_approaches (h : env.Approaches n s) :
    Program.Within (fun {_ : Type} _ => True) (graphNode env n s) fun result =>
      forall d, (graph env).next n result = Except.ok (some d) ->
        env.Approaches d result.1 := by
  by_cases hsearch : n = Node.searchNode
  · subst hsearch
    exact searchNode_approaches env s
  by_cases hcheck : n = Node.checkRefundEligibility
  · subst hcheck
    refine Program.Within.bind (Q := fun s' => s' = checkRefundEligibilityNode env s) ?_
      (Program.Within.pure rfl)
    rintro s' rfl
    apply Program.Within.pure
    intro d hd
    have hd : some (routeAfterPolicy (checkRefundEligibilityNode env s)) = some d :=
      Except.ok.inj hd
    have hd : routeAfterPolicy (checkRefundEligibilityNode env s) = d := Option.some.inj hd
    by_cases hroute : d = Node.approvalNode
    · subst hroute
      exact checkRefundEligibilityNode_approves h hd
    · unfold routeAfterPolicy at hd
      split at hd
      · rw [← hd]
        trivial
      · exact absurd hd.symm hroute
  by_cases happroval : n = Node.approvalNode
  · subst happroval
    apply Program.Within.pure
    intro d hd
    have hd : approvalNode env = d := Option.some.inj (Except.ok.inj hd)
    unfold approvalNode at hd
    by_cases happroved : env.refundApproval = ResumeValue.bool true
    · rw [if_pos happroved] at hd
      rw [← hd]
      exact ⟨happroved, h⟩
    · rw [if_neg happroved] at hd
      rw [← hd]
      trivial
  refine (graph_links env n s).mono fun result hresult d hd => ?_
  have hlead := hresult.left d hd
  apply Environment.Approaches.elsewhere
  · rintro rfl
    exact hsearch hlead.searched
  · rintro rfl
    exact hcheck hlead.checked
  · rintro rfl
    exact happroval hlead.approved

theorem createRefundNode_grants (h : env.Approaches Node.proceed s) :
    Program.Within (fun {_ : Type} tx => AddsRefunds env.Grants tx) (createRefundNode env s)
      (fun _ => True) := by
  rcases h with ⟨happroved, customerId, tenantId, order, horder, hfound, hrefundable⟩
  unfold createRefundNode
  rw [horder]
  refine Program.Within.bind (Q := fun scope => env.requireScope = Except.ok scope) ?_
    (fun scope hscope => hscope)
  intro scope hscope
  refine Program.Within.bind (Q := fun _ => True)
    (fun created _ => Program.Within.ite (fun _ => Program.Within.pure trivial)
      (fun _ => Program.Within.pure trivial)) ?_
  rcases hfound with ⟨⟨scope', hscope', hcustomer, rfl⟩, hrecord⟩
  rw [hscope] at hscope'
  cases hscope'
  unfold createRefund
  rw [hcustomer, OrderId.parse?_text]
  refine Program.Within.bind (Q := fun _ => True) ?_ (Program.Within.perform
    (newId_confines.addsRefunds (F := []) List.not_mem_nil))
  intro refundId _
  apply Program.Within.perform
  apply createRefundRequest_addsRefunds
  exact ⟨happroved, rfl, order, rfl, ⟨⟨scope, hscope, hcustomer, rfl⟩, hrecord⟩, hrefundable⟩

end Nodes

/-- Everything but the refund requests. -/
def otherParts : List Part :=
  [Part.operations, Part.confirmations, Part.cases, Part.outbox, Part.commands, Part.inbox]

theorem graphNode_grants {env : Environment} {n : Node} {s : RefundState}
    (hstanding : env.Standing n s) (h : env.Approaches n s) :
    Program.Within (fun {_ : Type} tx => AddsRefunds env.Grants tx) (graphNode env n s)
      fun result => forall d, (graph env).next n result = Except.ok (some d) ->
        env.Standing d result.1 ∧ env.Approaches d result.1 := by
  have hF : env.Permits otherParts := ⟨by decide, by decide, fun _ => by decide⟩
  have happroaches := graphNode_approaches h
  by_cases hn : n = Node.proceed
  · subst hn
    have hall : env.Permits (Part.refunds :: otherParts) :=
      ⟨by decide, by decide, fun _ => by decide⟩
    have honward := (graphNode_onward hall (fun _ => by decide) hstanding).all
    have hgrants : Program.Within (fun {_ : Type} tx => AddsRefunds env.Grants tx)
        (graphNode env Node.proceed s) (fun _ => True) :=
      Program.Within.bind (fun _ _ => Program.Within.pure trivial)
        (createRefundNode_grants h)
    refine (hgrants.and ((honward.weaken fun _ _ => trivial).and happroaches)).mono ?_
    exact fun result hresult d hd => ⟨hresult.right.left d hd, hresult.right.right d hd⟩
  · have honward := (graphNode_onward hF (fun hproceed => absurd hproceed hn) hstanding).all
    refine ((honward.weaken fun _ htx => htx.addsRefunds (by decide)).and
      happroaches).mono ?_
    exact fun result hresult d hd => ⟨hresult.left d hd, hresult.right d hd⟩

theorem turn_grants (env : Environment) (s : RefundState) :
    Program.Within (fun {_ : Type} tx => AddsRefunds env.Grants tx) (turn env s)
      (fun _ => True) :=
  Workflow.within (J := fun n s => env.Standing n s ∧ env.Approaches n s)
    (fun _ _ h => graphNode_grants h.left h.right) recursionLimit Node.checkRiskRules s
    ⟨trivial, trivial⟩

end RefundAgent
