import RefundAgent.System.Requests

/-!
# Refund requests

An order has one refund request, whoever asks for it and however often.  The call that has
written it answers yes, all others answer no and change nothing, and the request stays as
it was written.
-/

namespace RefundAgent

open Foundation

/-!
## One step
-/

/-- The table of refund requests has one more row, and nothing else has changed. -/
structure Requests (r : RefundRequest) (db db' : Database) : Prop where
  first : forall x, x ∈ db.refunds.rows -> x.orderId ≠ r.orderId
  rows : db'.refunds.rows = db.refunds.rows ++ [r]
  operations : db'.operations = db.operations
  cases : db'.cases = db.cases
  outbox : db'.outbox = db.outbox
  inbox : db'.inbox = db.inbox

section Step

variable (scope : AccessScope) (orderId : String) (now : Time)

/-- The first request for the order, of the customer who asks. -/
def RefundCreated (created : Bool) (db db' : Database) : Prop :=
  created = true ∧ exists customerId order refundId,
    scope.customerId = some customerId ∧ OrderId.parse? orderId = some order ∧
    Requests (pendingRefund scope customerId order refundId now) db db'

/-- The order has a request. -/
def RefundKnown (created : Bool) (db : Database) : Prop :=
  created = false ∧ exists order r, OrderId.parse? orderId = some order ∧
    r ∈ db.refunds.rows ∧ r.orderId = order

end Step

variable {scope : AccessScope} {orderId : String} {now : Time}

theorem insertRefundOnce_cases {r : RefundRequest} {db db' : Database} {created : Bool}
    (h : insertRefundOnce r db = Except.ok (created, db')) :
    (db' = db ∧ created = false ∧ exists x, x ∈ db.refunds.rows ∧ x.orderId = r.orderId) ∨
      (created = true ∧ Requests r db db') := by
  simp only [insertRefundOnce, Transaction.bind_eq_ok, Transaction.read_eq_ok,
    Prod.mk.injEq] at h
  rcases h with ⟨_, _, ⟨rfl, rfl⟩, h⟩
  rw [Transaction.ite_eq_ok] at h
  rcases h with ⟨hfree, h⟩ | ⟨htaken, h⟩
  · simp only [Transaction.bind_eq_ok, insertRow_eq_ok, Transaction.pure_eq_ok,
      Prod.mk.injEq] at h
    rcases h with ⟨_, _, ⟨t, ht, _, rfl⟩, rfl, rfl⟩
    exact Or.inr ⟨rfl, hfree, (Table.insert?_eq_some.mp ht).right, rfl, rfl, rfl, rfl⟩
  · simp only [Transaction.pure_eq_ok, Prod.mk.injEq] at h
    push Not at htaken
    exact Or.inl ⟨h.right.symm, h.left.symm, htaken⟩

theorem createRefund_atomic (db : Database) :
    Atomic (createRefund scope orderId now) db (RefundKnown orderId)
      (RefundCreated scope orderId now) := by
  unfold createRefund
  split
  · exact Atomic.raise
  · rename_i customerId hcustomer
    apply Atomic.draw
    intro refundId t _
    split
    · exact Atomic.raise
    · rename_i order horder
      apply Atomic.transact
      intro u _ _ created v hv
      rw [createRefundRequest_eq_ok] at hv
      rcases insertRefundOnce_cases hv.right.right with ⟨hsame, hno, x, hx, hxorder⟩ | ⟨hyes, hdone⟩
      · exact Or.inl ⟨hsame, hno, order, x, horder, hx, hxorder⟩
      · exact Or.inr ⟨hyes, customerId, order, refundId, hcustomer, horder, hdone⟩

/-!
## Runs
-/

theorem Since.refund {db db' : Database} (h : Since db db') {r : RefundRequest}
    (hr : r ∈ db.refunds.rows) : r ∈ db'.refunds.rows := by
  rcases h.refunds with ⟨more, hmore⟩
  rw [hmore]
  exact List.mem_append_left _ hr

/-- The order has one request. -/
def OneRefund (r : RefundRequest) (db : Database) : Prop :=
  r ∈ db.refunds.rows ∧ forall r', r' ∈ db.refunds.rows -> r'.orderId = r.orderId -> r' = r

/-- A call that has returned leaves one request for its order, wherever it has been made. -/
theorem World.Runs.one_refund {stages : List (Stage World Event)} {w : World}
    (h : World.Runs stages w) {x : Stage World Event} {i : Nat}
    {own : List (Stage World Event)} {created : Bool}
    (hmade : Makes stages i (createRefund scope orderId now) x own (Except.ok created)) :
    exists order r, OrderId.parse? orderId = some order ∧ r.orderId = order ∧
      OneRefund r w.db ∧
      (created = true -> (exists customerId refundId, scope.customerId = some customerId ∧
          r = pendingRefund scope customerId order refundId now) ∧
        forall x' j own' scope' orderId' now' created',
          OrderId.parse? orderId' = some order ->
          Makes stages j (createRefund scope' orderId' now') x' own' (Except.ok created') ->
          (forall y, y ∈ own -> y ∉ own') -> created' = false ∧
            forall y, y ∈ own' -> SameTables y.before.db y.after.db) := by
  have hone : forall {r : RefundRequest}, r ∈ w.db.refunds.rows -> OneRefund r w.db :=
    fun hr => ⟨hr, fun r' hr' hsame => h.good.left.sound.refunds r' _ hr' hr hsame⟩
  rcases h.made_at_one_point hmade createRefund_atomic with hanswer | hact
  · rcases hanswer.right created rfl with ⟨y, hy, rfl, order, r, horder, hr, hrorder⟩
    have hmem : y ∈ stages := by
      rcases hy with rfl | hy
      · exact hmade.entered
      · exact (hmade.mem hy).left
    exact ⟨order, r, horder, hrorder, hone ((h.since_final hmem).refund hr),
      fun hno => (by cases hno)⟩
  · rcases hact with ⟨first, y, a, rfl, ha, _, rfl, customerId, order, refundId, hcustomer,
      horder, hdone⟩
    have hmem := (hmade.mem (List.mem_append_right first List.mem_cons_self)).left
    have hr : pendingRefund scope customerId order refundId now ∈ y.after.db.refunds.rows := by
      rw [hdone.rows]
      exact List.mem_append_right _ (List.mem_singleton.mpr rfl)
    refine ⟨order, _, horder, rfl, hone ((h.since_final hmem).refund hr), fun _ =>
      ⟨⟨customerId, refundId, hcustomer, rfl⟩, ?_⟩⟩
    intro x' j own' scope' orderId' now' created' horder' hmade' hapart
    rcases h.made_at_one_point hmade' createRefund_atomic with hanswer | hact'
    · rcases hanswer.right created' rfl with ⟨_, _, hno, _⟩
      exact ⟨hno, hanswer.idle⟩
    · -- both have written a request for the order, one after the other
      exfalso
      rcases hact' with ⟨first', z, a', rfl, _, _, _, customerId', order', refundId', _,
        hparsed, hdone'⟩
      rw [horder'] at hparsed
      cases hparsed
      have hr' : pendingRefund scope' customerId' order refundId' now' ∈
          z.after.db.refunds.rows := by
        rw [hdone'.rows]
        exact List.mem_append_right _ (List.mem_singleton.mpr rfl)
      rcases hmade.last_apart h hmade' hapart with ⟨_, _, hsince | hsince⟩
      · exact hdone'.first _ (hsince.refund hr) rfl
      · exact hdone.first _ (hsince.refund hr') rfl

/--
One request for each order.  When a call has returned, then in every state from there on
the order that was asked for has one request and only one; if the call has answered yes,
the request is the one that it has built for its caller, and every other call that has
returned about the order, of whatever customer, has answered no and changed no table.
-/
theorem refund_requested_once {stages : List (Stage World Event)} {w : World}
    (h : World.Runs stages w) {x : Stage World Event} (hx : x ∈ stages) {i : Nat}
    {created : Bool} (hbegins : Begins i (createRefund scope orderId now) x)
    (hended : w.Ended i (Except.ok created)) :
    exists order r, OrderId.parse? orderId = some order ∧ r.orderId = order ∧
      OneRefund r w.db ∧
      (created = true -> (exists customerId refundId, scope.customerId = some customerId ∧
          r = pendingRefund scope customerId order refundId now) ∧
        forall x' j scope' orderId' now' created', x' ∈ stages -> j ≠ i ->
          OrderId.parse? orderId' = some order ->
          Begins j (createRefund scope' orderId' now') x' ->
          w.Ended j (Except.ok created') -> created' = false ∧
            forall y, y ∈ ownStages j stages -> SameTables y.before.db y.after.db) := by
  have hmade := h.makes hx hbegins hended
  rcases h.one_refund hmade with ⟨order, r, horder, hr, hone, hfirst⟩
  refine ⟨order, r, horder, hr, hone, fun hyes => ⟨(hfirst hyes).left, ?_⟩⟩
  intro x' j scope' orderId' now' created' hx' hne horder' hbegins' hended'
  have hmade' := h.makes hx' hbegins' hended'
  exact (hfirst hyes).right x' j _ scope' orderId' now' created' horder' hmade'
    (hmade.apart h hmade' hne.symm)

/-- The customer asks for a refund. -/
def sampleRefundCall : Call Bool := createRefund sampleScope "ORD-10001" 0

theorem sampleRefundCall_method : Method AnyDecision sampleRefundCall :=
  Method.createRefund sampleScope "ORD-10001" 0

/-- Both calls have built their request when the first one writes. -/
def sampleBothRefund : List Bool :=
  [true, false, true, false]

def sampleRefundedTwice : World :=
  (World.initial sampleIds).race sampleRefundCall sampleRefundCall sampleBothRefund

theorem sampleRefundedTwice_answers :
    (resultOf (raceOf sampleBothRefund sampleRefundCall sampleRefundCall
        (World.initial sampleIds).db).1).bind Except.toOption = some true ∧
      (resultOf (raceOf sampleBothRefund sampleRefundCall sampleRefundCall
        (World.initial sampleIds).db).2.1).bind Except.toOption = some false := by
  decide +kernel

/-- The customer asks twice at the same time. -/
theorem refund_requested_once_sample :
    exists stages, World.Runs stages sampleRefundedTwice ∧
      exists (i j : Nat) (r : RefundRequest), i ≠ j ∧
        sampleRefundedTwice.Ended i (Except.ok true) ∧
        sampleRefundedTwice.Ended j (Except.ok false) ∧ OneRefund r sampleRefundedTwice.db ∧
        forall y, y ∈ ownStages j stages -> SameTables y.before.db y.after.db := by
  have hstart : World.Runs [] (World.initial sampleIds) := ⟨sampleIds, Run.nil _⟩
  have hanswers := sampleRefundedTwice_answers
  unfold sampleRefundedTwice
  generalize World.initial sampleIds = w at hstart hanswers ⊢
  rcases hstart.race sampleRefundCall_method sampleRefundCall_method sampleBothRefund with
    ⟨all, x, x', hrun, hx, hx', hbegins, hbegins'⟩
  rcases resultOf_ok (f := id) (by rw [Option.map_id, id, hanswers.left]) with
    ⟨created, hresult, rfl⟩
  rcases resultOf_ok (f := id) (by rw [Option.map_id, id, hanswers.right]) with
    ⟨created', hresult', rfl⟩
  have hboth := w.race_ended sampleRefundCall sampleRefundCall sampleBothRefund
  have hended := hboth.left _ hresult
  have hended' := hboth.right _ hresult'
  rcases refund_requested_once hrun hx hbegins hended with ⟨order, r, horder, _, hone, hfirst⟩
  rcases (hfirst rfl).right x' _ _ _ _ _ hx' (Nat.succ_ne_self _) horder hbegins' hended' with
    ⟨_, hidle⟩
  exact ⟨all, hrun, _, _, r, (Nat.succ_ne_self _).symm, hended, hended', hone, hidle⟩

end RefundAgent
