import Mathlib.Order.Interval.Set.OrdConnected
import RefundAgent.Operations.Policy

/-!
# The matrix of automatic operations

The policy is a chain of early returns.  Here the requests that pass all of them
are described by what the snapshot shows, the way the business rules list them.
-/

namespace RefundAgent

open Foundation

/-!
## The facts
-/

/-- The dates and the statuses of the order agree with each other. -/
structure OrderSnapshot.Consistent (s : OrderSnapshot) : Prop where
  delivered : s.fulfillmentStatus = FulfillmentStatus.delivered ↔ s.deliveredAt ≠ none
  unshipped : s.fulfillmentStatus = FulfillmentStatus.unfulfilled -> s.shippedAt = none
  shipped : s.fulfillmentStatus = FulfillmentStatus.shipped ∨
    s.fulfillmentStatus = FulfillmentStatus.delivered -> s.shippedAt ≠ none
  pending : s.orderStatus = OrderStatus.pendingPayment ->
    s.fulfillmentStatus = FulfillmentStatus.unfulfilled
  cancelled : s.orderStatus = OrderStatus.cancelled ->
    s.fulfillmentStatus = FulfillmentStatus.unfulfilled
  created : forall t, s.deliveredAt = some t -> s.createdAt ≤ t

/-- No operation on record is under way or done. -/
def OrderSnapshot.Free (s : OrderSnapshot) : Prop :=
  forall o, o ∈ s.existingOperations -> o.status ≠ OperationStatus.submitted ∧
    o.status ≠ OperationStatus.processing ∧ o.status ≠ OperationStatus.manualReview ∧
    o.status ≠ OperationStatus.completed

/-- A delivered order inside the window, of a kind and a currency that are admitted. -/
structure OrderSnapshot.Returnable (s : OrderSnapshot) (flag : Option Bool)
    (thresholds : CurrencyThresholds) (now : Time) : Prop where
  delivered : s.fulfillmentStatus = FulfillmentStatus.delivered
  window : exists t, s.deliveredAt = some t ∧ t ≤ now ∧ now ≤ t + returnWindow
  flag : flag = some true
  configured : thresholds s.currency ≠ none

/-- The row of the matrix for the type of the operation. -/
def OrderSnapshot.Admits (s : OrderSnapshot) (thresholds : CurrencyThresholds)
    (replacementAvailable : Option Bool) (now : Time) : OperationType -> Prop
  | OperationType.cancellation =>
      (s.orderStatus = OrderStatus.pendingPayment ∨ s.orderStatus = OrderStatus.confirmed) ∧
        s.fulfillmentStatus = FulfillmentStatus.unfulfilled
  | OperationType.return =>
      s.Returnable s.returnEligible thresholds now ∧
        forall t, thresholds s.currency = some t -> (s.amount : Rat) < t
  | OperationType.exchange =>
      s.Returnable s.exchangeEligible thresholds now ∧ replacementAvailable = some true

structure OrderSnapshot.Approved (s : OrderSnapshot) (thresholds : CurrencyThresholds)
    (replacementAvailable : Option Bool) (now : Time) (operationType : OperationType) :
    Prop where
  consistent : s.Consistent
  free : s.Free
  payment : s.paymentStatus ≠ PaymentStatus.refundPending ∧
    s.paymentStatus ≠ PaymentStatus.refunded
  admits : s.Admits thresholds replacementAvailable now operationType

/-!
## One check after the other
-/

theorem hasContradictoryLifecycle_eq_false {s : OrderSnapshot} :
    hasContradictoryLifecycle s = false ↔ s.Consistent := by
  unfold hasContradictoryLifecycle
  constructor
  · intro h
    split_ifs at h with h₁ h₂ h₃ h₄ h₅ h₆
    constructor
    · constructor
      · exact fun hd hnone => h₁ ⟨hd, hnone⟩
      · intro hsome
        by_contra hd
        exact h₂ ⟨hd, hsome⟩
    · intro hu
      by_contra hs
      exact h₃ ⟨hu, hs⟩
    · exact fun hs hnone => h₄ ⟨hs, hnone⟩
    · intro hp
      by_contra hu
      exact h₅ ⟨hp, hu⟩
    · intro hc
      by_contra hu
      exact h₆ ⟨hc, hu⟩
    · intro t ht
      rw [ht] at h
      exact Int.not_lt.mp (of_decide_eq_false h)
  · intro h
    rw [if_neg fun hd => h.delivered.mp hd.left hd.right,
      if_neg fun hd => hd.left (h.delivered.mpr hd.right),
      if_neg fun hu => hu.right (h.unshipped hu.left),
      if_neg fun hs => h.shipped hs.left hs.right,
      if_neg fun hp => hp.right (h.pending hp.left),
      if_neg fun hc => hc.right (h.cancelled hc.left)]
    cases ht : s.deliveredAt with
    | none => rfl
    | some t => exact decide_eq_false (Int.not_lt.mpr (h.created t ht))

theorem ExistingOperation.active_eq_false {o : ExistingOperation} :
    o.active = false ↔ o.status ≠ OperationStatus.submitted ∧
      o.status ≠ OperationStatus.processing ∧ o.status ≠ OperationStatus.manualReview ∧
      o.status ≠ OperationStatus.completed := by
  unfold ExistingOperation.active
  cases o.status <;> simp

theorem conflictingOperation_eq_none {s : OrderSnapshot} :
    conflictingOperation s = none ↔ s.Free := by
  unfold conflictingOperation OrderSnapshot.Free
  rw [List.find?_eq_none]
  constructor
  · intro h o ho
    exact ExistingOperation.active_eq_false.mp (Bool.eq_false_iff.mpr (h o ho))
  · intro h o ho
    exact Bool.eq_false_iff.mp (ExistingOperation.active_eq_false.mpr (h o ho))

theorem OrderSnapshot.refunding_eq_false {s : OrderSnapshot} :
    s.refunding = false ↔ s.paymentStatus ≠ PaymentStatus.refundPending ∧
      s.paymentStatus ≠ PaymentStatus.refunded := by
  unfold OrderSnapshot.refunding
  rw [decide_eq_false_iff_not, not_or]

theorem evaluateCancellation_eligible {s : OrderSnapshot} :
    (evaluateCancellation s).outcome = OperationOutcome.eligible ↔
      s.refunding = false ∧ (s.orderStatus = OrderStatus.pendingPayment ∨
        s.orderStatus = OrderStatus.confirmed) ∧
      s.fulfillmentStatus = FulfillmentStatus.unfulfilled := by
  unfold evaluateCancellation
  cases s.refunding <;> cases s.orderStatus <;> cases s.fulfillmentStatus <;>
    simp [rejectedDecision, manualDecision, eligibleDecision]

theorem evaluateEligibility_eligible {t : OperationType} {s : OrderSnapshot}
    {thresholds : CurrencyThresholds} :
    (evaluateEligibility t s thresholds).outcome = OperationOutcome.eligible ↔
      (if t = OperationType.return then s.returnEligible else s.exchangeEligible) =
          some true ∧
        thresholds s.currency ≠ none ∧
        (t = OperationType.return ->
          forall x, thresholds s.currency = some x -> (s.amount : Rat) < x) := by
  unfold evaluateEligibility
  generalize (if t = OperationType.return then s.returnEligible
    else s.exchangeEligible) = flag
  cases flag with
  | none => simp [manualDecision]
  | some b =>
      cases b with
      | false => simp [rejectedDecision]
      | true =>
          cases hx : thresholds s.currency with
          | none => simp [manualDecision]
          | some x =>
              by_cases hreview : t = OperationType.return ∧ x ≤ (s.amount : Rat)
              · simp only [if_pos hreview]
                constructor
                · intro h
                  cases h
                · rintro ⟨_, _, h⟩
                  exact absurd hreview.right (not_le.mpr (h hreview.left x rfl))
              · simp only [if_neg hreview]
                refine ⟨fun _ => ⟨trivial, by simp, ?_⟩, fun _ => rfl⟩
                intro ht y hy
                rw [← Option.some.inj hy]
                exact not_le.mp fun hle => hreview ⟨ht, hle⟩

theorem evaluateReturnOrExchange_eligible_iff {t : OperationType} {s : OrderSnapshot}
    {now : Time} {thresholds : CurrencyThresholds} :
    (evaluateReturnOrExchange t s now thresholds).outcome = OperationOutcome.eligible ↔
      s.refunding = false ∧
        s.Returnable (if t = OperationType.return then s.returnEligible
          else s.exchangeEligible) thresholds now ∧
        (t = OperationType.return ->
          forall x, thresholds s.currency = some x -> (s.amount : Rat) < x) := by
  unfold evaluateReturnOrExchange
  by_cases hrefund : s.refunding = true
  · rw [if_pos hrefund, hrefund]
    simp [rejectedDecision]
  rw [if_neg hrefund]
  have hrefund : s.refunding = false := Bool.eq_false_iff.mpr hrefund
  by_cases hdelivered : s.fulfillmentStatus = FulfillmentStatus.delivered
  swap
  · rw [if_pos hdelivered]
    refine ⟨fun h => (by cases h), fun h => absurd h.right.left.delivered hdelivered⟩
  rw [if_neg (not_not.mpr hdelivered)]
  cases hat : s.deliveredAt with
  | none =>
      refine ⟨fun h => (by cases h), fun h => ?_⟩
      rcases h.right.left.window with ⟨x, hx, _⟩
      rw [hat] at hx
      cases hx
  | some x =>
      have hwindow : (exists y, s.deliveredAt = some y ∧ y ≤ now ∧
          now ≤ y + returnWindow) ↔ x ≤ now ∧ now ≤ x + returnWindow := by
        rw [hat]
        simp
      by_cases hearly : now < x
      · simp only [if_pos hearly]
        refine ⟨fun h => (by cases h), fun h => ?_⟩
        exact absurd (hwindow.mp h.right.left.window).left (Int.not_le.mpr hearly)
      by_cases hlate : x + returnWindow < now
      · simp only [if_neg hearly, if_pos hlate]
        refine ⟨fun h => (by cases h), fun h => ?_⟩
        exact absurd (hwindow.mp h.right.left.window).right (Int.not_le.mpr hlate)
      simp only [if_neg hearly, if_neg hlate, evaluateEligibility_eligible]
      constructor
      · rintro ⟨hflag, hconfigured, hamount⟩
        refine ⟨hrefund, ⟨hdelivered, hwindow.mpr ?_, hflag, hconfigured⟩, hamount⟩
        exact ⟨Int.not_lt.mp hearly, Int.not_lt.mp hlate⟩
      · rintro ⟨_, hreturnable, hamount⟩
        exact ⟨hreturnable.flag, hreturnable.configured, hamount⟩

theorem evaluateExchange_eligible_iff {s : OrderSnapshot} {now : Time}
    {thresholds : CurrencyThresholds} {available : Option Bool} :
    (evaluateExchange s now thresholds available).outcome = OperationOutcome.eligible ↔
      s.refunding = false ∧ s.Returnable s.exchangeEligible thresholds now ∧
        available = some true := by
  unfold evaluateExchange
  have hbase := @evaluateReturnOrExchange_eligible_iff OperationType.exchange s now thresholds
  rw [if_neg (by decide)] at hbase
  by_cases h : (evaluateReturnOrExchange OperationType.exchange s now
      thresholds).outcome = OperationOutcome.eligible
  · rw [if_neg (not_not.mpr h)]
    have hheld := hbase.mp h
    cases available with
    | none => simp [manualDecision]
    | some b =>
        cases b with
        | false => simp [rejectedDecision]
        | true => simp [eligibleDecision, hheld.left, hheld.right.left]
  · rw [if_pos h]
    refine ⟨fun hyes => absurd hyes h, fun hyes => absurd (hbase.mpr ?_) h⟩
    exact ⟨hyes.left, hyes.right.left, fun hno => (by cases hno)⟩

theorem operationPolicy_eligible_iff {t : OperationType} {s : OrderSnapshot}
    {now : Time} {thresholds : CurrencyThresholds} {available : Option Bool} :
    (operationPolicy t s now thresholds available).outcome = OperationOutcome.eligible ↔
      s.Approved thresholds available now t := by
  unfold operationPolicy
  by_cases hlifecycle : hasContradictoryLifecycle s = true
  · rw [if_pos hlifecycle]
    refine ⟨fun h => (by cases h), fun h => ?_⟩
    rw [hasContradictoryLifecycle_eq_false.mpr h.consistent] at hlifecycle
    cases hlifecycle
  rw [if_neg hlifecycle]
  have hconsistent := hasContradictoryLifecycle_eq_false.mp
    (Bool.eq_false_iff.mpr hlifecycle)
  cases hconflict : conflictingOperation s with
  | some existing =>
      refine ⟨fun h => (by cases h), fun h => ?_⟩
      rw [conflictingOperation_eq_none.mpr h.free] at hconflict
      cases hconflict
  | none =>
      have hfree := conflictingOperation_eq_none.mp hconflict
      cases t with
      | cancellation =>
          rw [evaluateCancellation_eligible, OrderSnapshot.refunding_eq_false]
          exact ⟨fun h => ⟨hconsistent, hfree, h.left, h.right⟩,
            fun h => ⟨h.payment, h.admits⟩⟩
      | «return» =>
          rw [evaluateReturnOrExchange_eligible_iff, OrderSnapshot.refunding_eq_false,
            if_pos rfl]
          exact ⟨fun h => ⟨hconsistent, hfree, h.left, h.right.left, h.right.right rfl⟩,
            fun h => ⟨h.payment, h.admits.left, fun _ => h.admits.right⟩⟩
      | exchange =>
          rw [evaluateExchange_eligible_iff, OrderSnapshot.refunding_eq_false]
          exact ⟨fun h => ⟨hconsistent, hfree, h.left, h.right⟩,
            fun h => ⟨h.payment, h.admits⟩⟩

/-!
## The times of eligibility
-/

/-- The policy lets the request through automatically at this time. -/
def Eligible (request : OrderOperationRequest) (snapshot : OrderSnapshot)
    (thresholds : CurrencyThresholds) (replacementAvailable : Option Bool) (now : Time) :
    Prop :=
  exists decision,
    evaluateOperation request snapshot now thresholds replacementAvailable =
      Except.ok decision ∧ decision.outcome = OperationOutcome.eligible

theorem eligible_iff {request : OrderOperationRequest} {snapshot : OrderSnapshot}
    {thresholds : CurrencyThresholds} {available : Option Bool} {now : Time} :
    Eligible request snapshot thresholds available now ↔
      request.orderId = snapshot.orderId ∧
        snapshot.Approved thresholds available now request.operationType := by
  unfold Eligible evaluateOperation
  by_cases horder : request.orderId = snapshot.orderId
  · rw [if_neg (not_not.mpr horder), ← operationPolicy_eligible_iff]
    constructor
    · rintro ⟨decision, hdecision, houtcome⟩
      rw [← Except.ok.inj hdecision] at houtcome
      exact ⟨horder, houtcome⟩
    · exact fun h => ⟨_, rfl, h.right⟩
  · rw [if_pos horder]
    constructor
    · rintro ⟨decision, hdecision, _⟩
      cases hdecision
    · exact fun h => absurd h.left horder

theorem OrderSnapshot.Returnable.between {s : OrderSnapshot} {flag : Option Bool}
    {thresholds : CurrencyThresholds} {first now last : Time}
    (hfirst : s.Returnable flag thresholds first)
    (hlast : s.Returnable flag thresholds last) (h : first ≤ now) (h' : now ≤ last) :
    s.Returnable flag thresholds now := by
  rcases hfirst.window with ⟨t, ht, hstart, _⟩
  rcases hlast.window with ⟨t', ht', _, hend⟩
  rw [ht] at ht'
  cases ht'
  exact ⟨hfirst.delivered, ⟨t, ht, Int.le_trans hstart h, Int.le_trans h' hend⟩,
    hfirst.flag, hfirst.configured⟩

theorem OrderSnapshot.Approved.between {s : OrderSnapshot}
    {thresholds : CurrencyThresholds} {available : Option Bool} {t : OperationType}
    {first now last : Time} (hfirst : s.Approved thresholds available first t)
    (hlast : s.Approved thresholds available last t) (h : first ≤ now) (h' : now ≤ last) :
    s.Approved thresholds available now t := by
  refine ⟨hfirst.consistent, hfirst.free, hfirst.payment, ?_⟩
  have hstart := hfirst.admits
  have hend := hlast.admits
  cases t with
  | cancellation => exact hstart
  | «return» => exact ⟨hstart.left.between hend.left h h', hstart.right⟩
  | exchange => exact ⟨hstart.left.between hend.left h h', hstart.right⟩

end RefundAgent
