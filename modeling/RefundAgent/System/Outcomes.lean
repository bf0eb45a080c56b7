import RefundAgent.Operations.Eligibility
import RefundAgent.System.Submission

/-!
# Outcomes of an order

The refund flow and the operation flow keep separate tables.  Each of them
excludes a second outcome of its own kind, and the operation flow refuses when
the order snapshot shows a refund or another operation.  Neither flow looks into
the table of the other.
-/

namespace RefundAgent

open Foundation

theorem evaluateOperation_eligible {request : OrderOperationRequest}
    {snapshot : OrderSnapshot} {now : Time} {limits : CurrencyThresholds}
    {available : Option Bool} {decision : OperationDecision}
    (h : evaluateOperation request snapshot now limits available = Except.ok decision)
    (houtcome : decision.outcome = OperationOutcome.eligible) :
    snapshot.refunding = false ∧ conflictingOperation snapshot = none := by
  have happroved := (eligible_iff.mp ⟨decision, h, houtcome⟩).right
  exact ⟨OrderSnapshot.refunding_eq_false.mpr happroved.payment,
    conflictingOperation_eq_none.mpr happroved.free⟩

theorem OperationSound.single_active {t : OperationTables} (h : OperationSound t)
    {o o' : OrderOperation} (ho : o ∈ t.rows.rows) (ho' : o' ∈ t.rows.rows)
    (hactive : o.active = true) (hactive' : o'.active = true)
    (htenant : o.tenantId = o'.tenantId) (horder : o.orderId = o'.orderId) : o = o' := by
  by_contra hne
  refine h.free o' ho' ⟨o, ho, hactive, hactive', ?_, htenant, horder⟩
  exact fun hid => hne (Table.eq_of_key_eq ho ho' hid)

/--
One outcome for each order in either flow.  In every run of turns, with workers
in between, an order has at most one refund request over all tenants and at most
one active operation in its tenant; and whatever is queued was evaluated before
on a snapshot that showed neither a refund nor another operation.
-/
theorem one_outcome_in_each_flow {stages : List (Stage World Event)} {w : World}
    (h : World.Runs stages w) (hturns : forall x, x ∈ stages -> OfTurns x) :
    (forall r r', r ∈ w.db.refunds.rows -> r' ∈ w.db.refunds.rows ->
      r.orderId = r'.orderId -> r = r') ∧
    (forall o o', o ∈ w.db.operations.rows.rows -> o' ∈ w.db.operations.rows.rows ->
      o.active = true -> o'.active = true -> o.tenantId = o'.tenantId ->
      o.orderId = o'.orderId -> o = o') ∧
    forall o, o ∈ w.db.operations.rows.rows ->
      o.status = OperationRecordStatus.queued ->
      exists x env s request snapshot decision, x ∈ stages ∧ StartsTurn x env s ∧
        env.Evaluates request snapshot decision ∧ o.Records request snapshot decision ∧
        snapshot.refunding = false ∧ conflictingOperation snapshot = none := by
  have hsound := h.good.left.sound
  refine ⟨hsound.refunds, ?_, ?_⟩
  · intro o o' ho ho' hactive hactive' htenant horder
    exact hsound.operations.single_active ho ho' hactive hactive' htenant horder
  · intro o ho hqueued
    have hkept := h.turnsKept hturns
    rcases hkept.eligible.plain o ho (hsound.plain o ho hqueued) with
      ⟨x, env, s, decision, hx, hstart, ⟨request, snapshot, hevaluates, hrecords⟩, hout⟩
    rcases hevaluates.policy with ⟨availability, _, hpolicy⟩
    exact ⟨x, env, s, request, snapshot, decision, hx, hstart, hevaluates, hrecords,
      evaluateOperation_eligible hpolicy hout⟩

/-!
## An example

A refund is approved for a delivered order; the next turn of the same customer
returns it.  The order system has heard of neither.
-/

def sampleRefundEnvironment : Environment :=
  { sampleEnvironment with
    route := { step := Intent.refundRequest, humanHandoffRequested := false }
    refundApproval := ResumeValue.bool true
    orders := fun _ => some
      { orderId := sampleOrder.orderId
        productName := "lamp"
        status := "delivered"
        deliveryDaysAgo := some 1
        amount := 4999
        refunded := false
        ownerCustomerId := "kim"
        tenantId := "acme" } }

def sampleReturnMessages : List Message :=
  [Message.human (Content.text "I want to return ORD-10001") (some "message-2")]

def sampleBoth : World :=
  ((World.initial sampleIds).serve
    (turn sampleRefundEnvironment (RefundState.start sampleMessages))).serve
    (turn { sampleLateEnvironment with clock := fun _ _ => day }
      (RefundState.start sampleReturnMessages))

theorem sampleBoth_runs : exists stages, World.Runs stages sampleBoth ∧
    forall x, x ∈ stages -> OfTurns x := by
  have hstart : World.Runs [] (World.initial sampleIds) := ⟨sampleIds, Run.nil _⟩
  rcases hstart.turn (fun x hx => (by cases hx)) sampleRefundEnvironment
    (RefundState.start sampleMessages) with ⟨first, hfirst, hturns⟩
  rcases hfirst.turn hturns { sampleLateEnvironment with clock := fun _ _ => day }
    (RefundState.start sampleReturnMessages) with ⟨second, hsecond, hturns'⟩
  exact ⟨_, hsecond, hturns'⟩

def sampleRefund : RefundRequest :=
  sampleBoth.db.refunds.rows.head (by decide +kernel)

def sampleReturned : OrderOperation :=
  sampleBoth.db.operations.rows.rows.head (by decide +kernel)

theorem one_outcome_in_each_flow_both :
    exists stages : List (Stage World Event), World.Runs stages sampleBoth ∧
      exists x env s request snapshot decision, x ∈ stages ∧ StartsTurn x env s ∧
        env.Evaluates request snapshot decision ∧
        sampleReturned.Records request snapshot decision ∧
        snapshot.refunding = false ∧ conflictingOperation snapshot = none := by
  rcases sampleBoth_runs with ⟨stages, hruns, hturns⟩
  have hqueued : sampleReturned.status = OperationRecordStatus.queued := by
    decide +kernel
  have hmem : sampleReturned ∈ sampleBoth.db.operations.rows.rows := List.head_mem _
  generalize sampleReturned = o at hqueued hmem
  generalize sampleBoth = w at hruns hmem
  exact ⟨stages, hruns, (one_outcome_in_each_flow hruns hturns).right.right o hmem
    hqueued⟩

/-- The order has a pending refund request and a queued return. -/
theorem refund_and_return_of_one_order :
    sampleBoth.Reachable ∧ sampleRefund ∈ sampleBoth.db.refunds.rows ∧
      sampleReturned ∈ sampleBoth.db.operations.rows.rows ∧
      sampleRefund.orderId = sampleReturned.orderId ∧
      sampleRefund.tenantId = sampleReturned.tenantId ∧
      sampleRefund.status = RefundStatus.pending ∧
      sampleReturned.operationType = OperationType.return ∧
      sampleReturned.status = OperationRecordStatus.queued := by
  have hreach : sampleBoth.Reachable := by
    rcases sampleBoth_runs with ⟨stages, hruns, _⟩
    exact ⟨stages, hruns⟩
  refine ⟨hreach, List.head_mem _, List.head_mem _, ?_⟩
  decide +kernel

end RefundAgent
