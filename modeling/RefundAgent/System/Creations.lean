import RefundAgent.System.Requests

/-!
# Creating an operation

The creation service looks for an operation of the message and for an active one of the
order, each in a transaction of its own, and writes in a third one.  It relies on the unique
constraints of the table: every run of it is one step, and no message creates two
operations.
-/

namespace RefundAgent

open Foundation

/-!
## One step
-/

/-- A new operation with the event of its creation, and nothing else. -/
structure Creates (o : OrderOperation) (e : OrderOperationEvent) (db db' : Database) :
    Prop where
  fresh : db.operations.rows.get o.operationId = none
  first : forall r, r ∈ db.operations.rows.rows ->
    ¬(r.threadId = o.threadId ∧ r.sourceMessageId = o.sourceMessageId)
  free : ¬OrderTaken db.operations o
  rows : db'.operations.rows.rows = db.operations.rows.rows ++ [o]
  events : db'.operations.events.rows = db.operations.events.rows ++ [e]
  unused : forall d, d ∈ db.operations.events.rows -> d.idempotencyKey ≠ e.idempotencyKey
  cases : db'.cases = db.cases
  outbox : db'.outbox = db.outbox
  inbox : db'.inbox = db.inbox
  refunds : db'.refunds = db.refunds

theorem Creates.stored {o : OrderOperation} {e : OrderOperationEvent} {db db' : Database}
    (h : Creates o e db db') : db'.operations.rows.get o.operationId = some o := by
  apply Table.get_of_mem
  rw [h.rows]
  exact List.mem_append_right _ (List.mem_singleton.mpr rfl)

/-- A decision of the policy that may be recorded for the request. -/
structure Recordable (request : OrderOperationRequest) (snapshot : OrderSnapshot)
    (decision : OperationDecision) : Prop where
  order : request.orderId = snapshot.orderId
  kind : decision.operationType = request.operationType
  outcome : decision.outcome = OperationOutcome.eligible ∨
    decision.outcome = OperationOutcome.manualReview
  confirmation : decision.requiresConfirmation = true

section Step

variable (scope : AccessScope) (request : OrderOperationRequest) (snapshot : OrderSnapshot)
  (decision : OperationDecision) (requestExcerpt : String) (clock : Nat -> Time)

/-- The operation is created here and now, where neither the message nor the order has
one. -/
def CreatedAt (result : OperationServiceResult) (db db' : Database) : Prop :=
  exists customerId excerpt n operationId eventId operation event,
    scope.customerId = some customerId ∧
    CleanText.parse? (Text.strip requestExcerpt) = some excerpt ∧
    Recordable request snapshot decision ∧
    operation = pendingOperation scope customerId request snapshot decision excerpt
      operationId (clock n) ∧
    operation.valid = true ∧ event = operationCreatedEvent operation eventId ∧
    result = ⟨OperationServiceAction.created, operation, [event]⟩ ∧
    Creates operation event db db'

/-- The caller has an operation of the message or an active one of the order. -/
def KnownAt (result : OperationServiceResult) (db : Database) : Prop :=
  exists o row, result = duplicateIgnored o ∧ Held scope db o row ∧
    ((o.threadId = request.threadId ∧ o.sourceMessageId = request.sourceMessageId) ∨
      (o.orderId = request.orderId ∧ o.active = true))

end Step

/-!
## Reading and writing
-/

section Parts

variable {scope : AccessScope} {request : OrderOperationRequest} {db db' : Database}

theorem fetchOperation_held {p : OrderOperation -> Bool} {customerId : CleanText}
    {found : Option OrderOperation} (hcustomer : scope.customerId = some customerId)
    (hp : forall o, p o = true -> o.ownedBy scope.tenantId customerId = true)
    (h : fetchOperation (fun db => db.operations.rows.rows.find? p) db =
      Except.ok (found, db')) :
    db' = db ∧ forall o, found = some o -> exists row, Held scope db o row ∧ p row = true := by
  rcases fetchOperation_eq_ok h with ⟨hsame, hfound, _⟩
  refine ⟨hsame, fun o ho => ?_⟩
  rcases hfound o ho with ⟨row, hrow, hparsed⟩
  have hmatch := List.find?_some hrow
  have hmem := List.mem_of_find?_eq_some hrow
  have howned := hp row hmatch
  have hid : o.operationId = row.operationId := by
    rw [(OrderOperation.ofRow?_eq_some hparsed).left]
  simp only [OrderOperation.ownedBy, Bool.and_eq_true, decide_eq_true_eq] at howned
  refine ⟨row, ⟨⟨?_, hparsed⟩, howned.left, ?_⟩, hmatch⟩
  · rw [hid]
    exact Table.get_of_mem hmem
  · rw [hcustomer, howned.right]

theorem findExistingOperation_looks :
    Looks (findExistingOperation scope request) db fun found t => forall o,
      found = some o -> KnownAt scope request (duplicateIgnored o) t := by
  apply Atomic.bind (P := fun found t => forall o, found = some o ->
    KnownAt scope request (duplicateIgnored o) t)
  · apply Atomic.look
    intro t _ _ found u hu
    simp only [findBySourceMessage, Transaction.bind_eq_ok, customerOwnedVisibility,
      Transaction.fetch_eq_ok] at hu
    rcases hu with ⟨customerId, _, ⟨hcustomer, rfl⟩, hfetch⟩
    rcases fetchOperation_held hcustomer (fun o ho => ((Bool.and_eq_true _ _).mp ho).right)
      hfetch with ⟨rfl, hfound⟩
    refine ⟨rfl, fun o ho => ?_⟩
    rcases hfound o ho with ⟨row, hheld, hmatch⟩
    simp only [Bool.and_eq_true, decide_eq_true_eq] at hmatch
    refine ⟨o, row, rfl, hheld, Or.inl ⟨?_, ?_⟩⟩
    · rw [hheld.eq]
      exact hmatch.left.left
    · rw [hheld.eq]
      exact hmatch.left.right
  · intro found t _ hknown
    cases found with
    | some o => exact Atomic.pure hknown
    | none =>
        apply Atomic.look
        intro t _ _ found u hu
        simp only [findActiveByOrderId, Transaction.bind_eq_ok, customerOwnedVisibility,
          Transaction.fetch_eq_ok] at hu
        rcases hu with ⟨customerId, _, ⟨hcustomer, rfl⟩, hfetch⟩
        rcases fetchOperation_held hcustomer
          (fun o ho => ((Bool.and_eq_true _ _).mp ho).right) hfetch with ⟨rfl, hfound⟩
        refine ⟨rfl, fun o ho => ?_⟩
        rcases hfound o ho with ⟨row, hheld, hmatch⟩
        simp only [Bool.and_eq_true, decide_eq_true_eq] at hmatch
        refine ⟨o, row, rfl, hheld, Or.inr ⟨?_, ?_⟩⟩
        · rw [hheld.eq]
          exact hmatch.left.left
        · rw [hheld.eq]
          exact hmatch.left.right

theorem insertOperation_first {o : OrderOperation}
    (h : insertOperation o db = Except.ok ((), db')) :
    forall r, r ∈ db.operations.rows.rows ->
      ¬(r.threadId = o.threadId ∧ r.sourceMessageId = o.sourceMessageId) := by
  simp only [insertOperation, Transaction.bind_eq_ok, Transaction.require_eq_ok,
    Transaction.read_eq_ok, Prod.mk.injEq] at h
  rcases h with ⟨_, _, ⟨_, _, rfl⟩, _, _, ⟨rfl, rfl⟩, _, _, ⟨_, _, rfl⟩, _, _,
    ⟨hfirst, _⟩, _⟩
  exact hfirst

theorem createOperationWithEvents_creates {o : OrderOperation} {e : OrderOperationEvent}
    (h : createOperationWithEvents scope o [e] db = Except.ok ((), db')) :
    Creates o e db db' := by
  simp only [createOperationWithEvents, Transaction.translate_eq_ok,
    Transaction.bind_eq_ok, validateOwnership, Transaction.require_eq_ok,
    Prod.mk.injEq] at h
  rcases h with ⟨_, _, ⟨_, _, ⟨_, _, rfl⟩, _, _, ⟨_, _, rfl⟩, _, _, ⟨_, _, rfl⟩, _, _,
    rfl⟩, _, db₁, hins, hevents⟩
  rcases insertOperation_spec hins with ⟨hrows, hold, _, hfree, htouch⟩
  have happended := insertOperationEvents_spec hevents
  have hboth := htouch.trans happended.touches
  have hinsert := Table.insert?_eq_some.mp hrows
  constructor
  · exact hinsert.left
  · exact insertOperation_first hins
  · exact hfree
  · rw [happended.rows]
    exact hinsert.right
  · rw [happended.appended, hold]
  · have hunused := happended.unused e (List.mem_singleton.mpr rfl)
    rw [hold] at hunused
    exact hunused
  · exact hboth.cases (by simp)
  · exact hboth.outbox (by simp)
  · exact hboth.inbox (by simp)
  · exact hboth.refunds

end Parts

/-!
## The service
-/

section Service

variable {scope : AccessScope} {request : OrderOperationRequest} {snapshot : OrderSnapshot}
  {decision : OperationDecision} {requestExcerpt : String} {clock : Nat -> Time}

theorem createAttempts_atomic {customerId excerpt : CleanText}
    (hcustomer : scope.customerId = some customerId)
    (hexcerpt : CleanText.parse? (Text.strip requestExcerpt) = some excerpt)
    (hrecordable : Recordable request snapshot decision) (n : Nat) :
    forall db, Atomic (createAttempts scope customerId request snapshot decision excerpt
      clock n) db (KnownAt scope request)
      (CreatedAt scope request snapshot decision requestExcerpt clock) := by
  induction n with
  | zero =>
      intro db
      apply Atomic.bind findExistingOperation_looks
      intro existing t _ hknown
      cases existing with
      | some o => exact Atomic.pure (hknown o rfl)
      | none => exact Atomic.raise
  | succ n ih =>
      intro db
      apply Atomic.bind findExistingOperation_looks
      intro existing t _ hknown
      cases existing with
      | some o => exact Atomic.pure (hknown o rfl)
      | none =>
          apply Atomic.rescue
          · apply Atomic.draw
            intro operationId t₁ _
            apply Atomic.require
            intro hvalid
            apply Atomic.draw
            intro eventId t₂ _
            apply Atomic.write
            intro u _ _ b v hv
            exact ⟨customerId, excerpt, n, operationId, eventId, _, _, hcustomer, hexcerpt,
              hrecordable, rfl, hvalid, rfl, rfl, createOperationWithEvents_creates hv⟩
          · intro e q u hq
            split at hq
            · cases hq
              exact ih u
            · cases hq

theorem createPendingOperation_atomic (db : Database) :
    Atomic (createPendingOperation scope request snapshot decision requestExcerpt clock) db
      (KnownAt scope request)
      (CreatedAt scope request snapshot decision requestExcerpt clock) := by
  unfold createPendingOperation
  split
  · exact Atomic.raise
  · rename_i customerId hcustomer
    apply Atomic.require
    intro _
    apply Atomic.require
    intro horder
    apply Atomic.require
    intro hkind
    apply Atomic.require
    intro houtcome
    apply Atomic.require
    intro hconfirmation
    split
    · exact Atomic.raise
    · rename_i excerpt hexcerpt
      exact createAttempts_atomic hcustomer hexcerpt
        ⟨horder, hkind, houtcome, hconfirmation⟩ maxWriteAttempts db

end Service

/-!
## Runs
-/

section Runs

variable {stages : List (Stage World Event)} {w : World} {x x' : Stage World Event}
  {i j : Nat} {scope scope' : AccessScope} {request request' : OrderOperationRequest}
  {snapshot snapshot' : OrderSnapshot} {decision decision' : OperationDecision}
  {requestExcerpt requestExcerpt' : String} {clock clock' : Nat -> Time}

/--
Every run of the creation service, among any number of turns, other calls and workers, is
one step.  A call that has ended has either changed nothing, and then the operation that it
returns was one of the message, or an active one of the order, in a state between its
beginning and its end; or its last transaction has found neither the message nor the order
taken and has written the operation and its event, and no other transaction of it has
changed a table.
-/
theorem creation_acts_at_one_point (h : World.Runs stages w) (hx : x ∈ stages)
    {r : Except Failure OperationServiceResult}
    (hbegins : Begins i (createPendingOperation scope request snapshot decision
      requestExcerpt clock) x)
    (hended : w.Ended i r) :
    AnswersIn stages i x (KnownAt scope request) r ∨
      ActsIn stages i (CreatedAt scope request snapshot decision requestExcerpt clock) r :=
  h.at_one_point hx hbegins hended createPendingOperation_atomic

theorem CreatedAt.not_again {result result' : OperationServiceResult}
    {db₁ db₂ db₃ db₄ : Database}
    (h : CreatedAt scope request snapshot decision requestExcerpt clock result db₁ db₂)
    (h' : CreatedAt scope' request' snapshot' decision' requestExcerpt' clock' result' db₃
      db₄) (hthread : request.threadId = request'.threadId)
    (hmessage : request.sourceMessageId = request'.sourceMessageId)
    (hst : Since db₂ db₃) : False := by
  rcases h with ⟨customerId, excerpt, n, operationId, eventId, o, e, _, _, _, rfl, _, _, _,
    hcreates⟩
  rcases h' with ⟨customerId', excerpt', n', operationId', eventId', o', e', _, _, _, rfl, _,
    _, _, hcreates'⟩
  rcases hst.later.operations _ _ hcreates.stored with ⟨row, hrow, hfrozen, _⟩
  apply hcreates'.first row (Table.mem_of_get hrow)
  constructor
  · show row.frozen.threadId = _
    rw [hfrozen]
    exact hthread
  · show row.frozen.sourceMessageId = _
    rw [hfrozen]
    exact hmessage

theorem KnownAt.ignored {result : OperationServiceResult} {db : Database}
    (h : KnownAt scope request result db) :
    result.action = OperationServiceAction.duplicateIgnored := by
  rcases h with ⟨o, row, rfl, _⟩
  rfl

/-- Of two calls for one message, one at least has changed no table, wherever they have been
made. -/
theorem World.Runs.one_creation (h : World.Runs stages w)
    {own own' : List (Stage World Event)} {result result' : OperationServiceResult}
    (hthread : request.threadId = request'.threadId)
    (hmessage : request.sourceMessageId = request'.sourceMessageId)
    (hmade : Makes stages i (createPendingOperation scope request snapshot decision
      requestExcerpt clock) x own (Except.ok result))
    (hmade' : Makes stages j (createPendingOperation scope' request' snapshot' decision'
      requestExcerpt' clock') x' own' (Except.ok result'))
    (hapart : forall y, y ∈ own -> y ∉ own') :
    (result.action = OperationServiceAction.duplicateIgnored ∧
      forall y, y ∈ own -> SameTables y.before.db y.after.db) ∨
    (result'.action = OperationServiceAction.duplicateIgnored ∧
      forall y, y ∈ own' -> SameTables y.before.db y.after.db) := by
  rcases h.made_at_one_point hmade createPendingOperation_atomic with hanswer | hact
  · left
    rcases hanswer.right result rfl with ⟨_, _, hright⟩
    exact ⟨hright.ignored, hanswer.idle⟩
  · rcases h.made_at_one_point hmade' createPendingOperation_atomic with hanswer | hact'
    · right
      rcases hanswer.right result' rfl with ⟨_, _, hright⟩
      exact ⟨hright.ignored, hanswer.idle⟩
    · -- both have created an operation of the message, one after the other
      exfalso
      rcases hact with ⟨first, y, a, rfl, _, _, hdone⟩
      rcases hact' with ⟨first', z, a', rfl, _, _, hdone'⟩
      rcases hmade.last_apart h hmade' hapart with ⟨_, _, hsince | hsince⟩
      · exact hdone.not_again hdone' hthread hmessage hsince
      · exact hdone'.not_again hdone hthread.symm hmessage.symm hsince

/--
One message creates one operation.  Of any two calls for the same message of a thread that
have returned, for whatever orders and whoever has made them, at least one has changed no
table and has answered with an operation that was there.
-/
theorem message_creates_once (h : World.Runs stages w) (hx : x ∈ stages) (hx' : x' ∈ stages)
    (hne : i ≠ j) {result result' : OperationServiceResult}
    (hthread : request.threadId = request'.threadId)
    (hmessage : request.sourceMessageId = request'.sourceMessageId)
    (hbegins : Begins i (createPendingOperation scope request snapshot decision
      requestExcerpt clock) x)
    (hbegins' : Begins j (createPendingOperation scope' request' snapshot' decision'
      requestExcerpt' clock') x')
    (hended : w.Ended i (Except.ok result)) (hended' : w.Ended j (Except.ok result')) :
    (result.action = OperationServiceAction.duplicateIgnored ∧
      forall y, y ∈ ownStages i stages -> SameTables y.before.db y.after.db) ∨
    (result'.action = OperationServiceAction.duplicateIgnored ∧
      forall y, y ∈ ownStages j stages -> SameTables y.before.db y.after.db) := by
  have hmade := h.makes hx hbegins hended
  have hmade' := h.makes hx' hbegins' hended'
  exact h.one_creation hthread hmessage hmade hmade' (hmade.apart h hmade' hne)

end Runs

/-- The customer asks for the cancellation of an order. -/
def sampleAsk : Call OperationServiceResult :=
  createPendingOperation sampleScope sampleRequest sampleSnapshot sampleDecision
    "please cancel" (fun _ => 0)

theorem sampleAsk_method : Method AnyDecision sampleAsk :=
  Method.createPendingOperation sampleScope sampleRequest sampleSnapshot sampleDecision
    "please cancel" (fun _ => 0)

def sampleBothAsk : List Bool :=
  List.replicate 4 true ++ List.replicate 4 false ++ [true] ++ List.replicate 2 false

/-- The message is received twice at the same time: neither call finds an operation, and
the second one meets the operation of the first when it writes. -/
def sampleAskedTwice : World :=
  (World.initial sampleIds).race sampleAsk sampleAsk sampleBothAsk

theorem sampleAskedTwice_actions :
    ((resultOf (raceOf sampleBothAsk sampleAsk sampleAsk (World.initial sampleIds).db).1).bind
        Except.toOption).map OperationServiceResult.action =
      some OperationServiceAction.created ∧
    ((resultOf (raceOf sampleBothAsk sampleAsk sampleAsk (World.initial sampleIds).db).2.1).bind
        Except.toOption).map OperationServiceResult.action =
      some OperationServiceAction.duplicateIgnored := by
  decide +kernel

theorem sampleAskedTwice_runs : exists stages x x' i j,
    exists result result' : OperationServiceResult,
    World.Runs stages sampleAskedTwice ∧ x ∈ stages ∧ x' ∈ stages ∧ i ≠ j ∧
    Begins i sampleAsk x ∧ Begins j sampleAsk x' ∧
    sampleAskedTwice.Ended i (Except.ok result) ∧
    sampleAskedTwice.Ended j (Except.ok result') ∧
    result.action = OperationServiceAction.created ∧
    result'.action = OperationServiceAction.duplicateIgnored := by
  have hstart : World.Runs [] (World.initial sampleIds) := ⟨sampleIds, Run.nil _⟩
  have hactions := sampleAskedTwice_actions
  unfold sampleAskedTwice
  generalize World.initial sampleIds = w at hstart hactions ⊢
  rcases hstart.race sampleAsk_method sampleAsk_method sampleBothAsk with
    ⟨all, x, x', hrun, hx, hx', hbegins, hbegins'⟩
  rcases resultOf_ok hactions.left with ⟨result, hresult, haction⟩
  rcases resultOf_ok hactions.right with ⟨result', hresult', haction'⟩
  have hended := w.race_ended sampleAsk sampleAsk sampleBothAsk
  exact ⟨all, x, x', _, _, result, result', hrun, hx, hx', Nat.ne_of_lt (Nat.lt_succ_self _),
    hbegins, hbegins', hended.left _ hresult, hended.right _ hresult', haction, haction'⟩

theorem creation_acts_at_one_point_sample :
    exists stages i j, exists result result' : OperationServiceResult,
      World.Runs stages sampleAskedTwice ∧ i ≠ j ∧
      ActsIn stages i (CreatedAt sampleScope sampleRequest sampleSnapshot sampleDecision
        "please cancel" (fun _ => 0)) (Except.ok result) ∧
      sampleAskedTwice.Ended i (Except.ok result) ∧
      sampleAskedTwice.Ended j (Except.ok result') ∧
      result'.action = OperationServiceAction.duplicateIgnored := by
  rcases sampleAskedTwice_runs with ⟨stages, x, x', i, j, result, result', hrun, hx, _, hne,
    hbegins, _, hended, hended', haction, haction'⟩
  refine ⟨stages, i, j, result, result', hrun, hne, ?_, hended, hended', haction'⟩
  rcases creation_acts_at_one_point hrun hx hbegins hended with hanswer | hact
  · -- an answer that changes nothing is no creation
    rcases hanswer.right result rfl with ⟨y, _, hright⟩
    rw [hright.ignored] at haction
    cases haction
  · exact hact

theorem message_creates_once_sample :
    exists stages, World.Runs stages sampleAskedTwice ∧
    exists (i j : Nat) (result result' : OperationServiceResult), i ≠ j ∧
      sampleAskedTwice.Ended i (Except.ok result) ∧
      sampleAskedTwice.Ended j (Except.ok result') ∧
      result.action = OperationServiceAction.created ∧
      result'.action = OperationServiceAction.duplicateIgnored ∧
      forall y, y ∈ ownStages j stages -> SameTables y.before.db y.after.db := by
  rcases sampleAskedTwice_runs with ⟨stages, x, x', i, j, result, result', hrun, hx, hx', hne,
    hbegins, hbegins', hended, hended', haction, _⟩
  rcases message_creates_once hrun hx hx' hne rfl rfl hbegins hbegins' hended hended' with
    hsame | hsame
  · rw [hsame.left] at haction
    cases haction
  · exact ⟨stages, hrun, i, j, result, result', hne, hended, hended', haction, hsame⟩

end RefundAgent
