import RefundAgent.System.CallTraces
import RefundAgent.System.Coupling

/-!
# One active operation for an order

The look for an active operation and the insert of a new one are two
transactions.  What ties them together is the unique index on active orders:
whoever comes second is refused, looks again, and answers with what is there.
-/

namespace RefundAgent

open Foundation

/-!
## What a call has done
-/

/-- Nothing has changed but the supply of identifiers. -/
def Silent (a : Database × Database) : Prop :=
  a.2 = { a.1 with ids := a.2.ids }

/-- The operation, as it is read from its row, was there at some transaction. -/
def SeenIn (own : List (Database × Database)) (o : OrderOperation) : Prop :=
  exists a, a ∈ own ∧ exists row, row ∈ a.1.operations.rows.rows ∧ row.ofRow? = some o

abbrev Fault : Failure -> Prop := fun _ => True

theorem Silent.refl (db : Database) : Silent (db, db) := rfl

theorem silent_of_read {α : Type} {tx : Tx α} {own : List (Database × Database)}
    {r : Except Failure α}
    (hread : forall s a t, tx s = Except.ok (a, t) -> t = s)
    (h : Program.Returns Fault (Program.perform tx) own r) :
    forall a, a ∈ own -> Silent a := by
  rcases h.of_perform with ⟨s, t, rfl, ⟨b, htx, _⟩ | ⟨rfl, _⟩⟩
  · intro a ha
    rw [List.mem_singleton.mp ha, hread s b t htx]
    exact Silent.refl s
  · intro a ha
    rw [List.mem_singleton.mp ha]
    exact Silent.refl _

theorem freshId_silent {own : List (Database × Database)} {r : Except Failure UUID}
    (h : Program.Returns Fault freshId own r) : forall a, a ∈ own -> Silent a := by
  rcases Program.Returns.of_perform h with ⟨s, t, rfl, ⟨b, htx, _⟩ | ⟨rfl, _⟩⟩
  · intro a ha
    rw [List.mem_singleton.mp ha]
    rw [← (newId_eq_ok.mp htx).right]
    exact rfl
  · intro a ha
    rw [List.mem_singleton.mp ha]
    exact Silent.refl _

section Reads

variable {scope : AccessScope} {own : List (Database × Database)}

theorem ownedFetch_spec {query : CleanText -> Database -> Option OrderOperation}
    {s t : Database} {found : Option OrderOperation}
    (hquery : forall c db row, query c db = some row -> row ∈ db.operations.rows.rows)
    (h : (do
      let customerId ← customerOwnedVisibility scope
      fetchOperation (query customerId)) s = Except.ok (found, t)) :
    t = s ∧ forall o, found = some o ->
      exists row, row ∈ s.operations.rows.rows ∧ row.ofRow? = some o := by
  simp only [customerOwnedVisibility, Transaction.bind_eq_ok, Transaction.fetch_eq_ok] at h
  rcases h with ⟨c, _, ⟨_, rfl⟩, hfetch⟩
  rcases fetchOperation_eq_ok hfetch with ⟨hsame, hfound, _⟩
  refine ⟨hsame, ?_⟩
  intro o ho
  rcases hfound o ho with ⟨row, hrow, hparsed⟩
  exact ⟨row, hquery _ _ _ hrow, hparsed⟩

theorem ownedFetch_returns {query : CleanText -> Database -> Option OrderOperation}
    {r : Except Failure (Option OrderOperation)}
    (hquery : forall c db row, query c db = some row -> row ∈ db.operations.rows.rows)
    (h : Program.Returns Fault (Program.perform (do
      let customerId ← customerOwnedVisibility scope
      fetchOperation (query customerId))) own r) :
    (forall a, a ∈ own -> Silent a) ∧ forall o, r = Except.ok (some o) -> SeenIn own o := by
  refine ⟨silent_of_read (fun s a t htx => (ownedFetch_spec hquery htx).left) h, ?_⟩
  intro o ho
  rcases h.of_perform with ⟨s, t, rfl, ⟨found, htx, hr⟩ | ⟨_, e, hr⟩⟩
  · rw [hr] at ho
    rcases (ownedFetch_spec hquery htx).right o (Except.ok.inj ho) with ⟨row, hrow, hparsed⟩
    exact ⟨(s, t), List.mem_cons_self, row, hrow, hparsed⟩
  · rw [hr] at ho
    cases ho

theorem findExistingOperation_returns {request : OrderOperationRequest}
    {r : Except Failure (Option OrderOperation)}
    (h : Program.Returns Fault (findExistingOperation scope request) own r) :
    (forall a, a ∈ own -> Silent a) ∧ forall o, r = Except.ok (some o) -> SeenIn own o := by
  unfold findExistingOperation at h
  rcases h.of_bind with ⟨duplicate, first, rest, hfirst, hrest, rfl⟩ | ⟨e, hfirst, rfl⟩
  · have hsilent := ownedFetch_returns (fun _ _ _ hrow => List.mem_of_find?_eq_some hrow)
      hfirst
    cases duplicate with
    | some operation =>
        rcases Program.Returns.of_pure hrest with ⟨rfl, rfl⟩
        rw [List.append_nil]
        refine ⟨hsilent.left, ?_⟩
        intro o ho
        exact hsilent.right o (by rw [← Except.ok.inj ho])
    | none =>
        have hlast := ownedFetch_returns
          (fun _ _ _ hrow => List.mem_of_find?_eq_some hrow) hrest
        refine ⟨?_, ?_⟩
        · intro a ha
          rcases List.mem_append.mp ha with ha | ha
          · exact hsilent.left a ha
          · exact hlast.left a ha
        · intro o ho
          rcases hlast.right o ho with ⟨a, ha, hseen⟩
          exact ⟨a, List.mem_append_right _ ha, hseen⟩
  · refine ⟨(ownedFetch_returns (fun _ _ _ hrow => List.mem_of_find?_eq_some hrow)
      hfirst).left, ?_⟩
    intro o ho
    cases ho

end Reads

section Creation

variable {scope : AccessScope} {customerId : CleanText} {request : OrderOperationRequest}
  {snapshot : OrderSnapshot} {decision : OperationDecision} {excerpt : CleanText}
  {own : List (Database × Database)}

/-- The transaction has inserted an operation for the order of the request. -/
structure Inserted (scope : AccessScope) (request : OrderOperationRequest)
    (o : OrderOperation) (a : Database × Database) : Prop where
  tenant : o.tenantId = scope.tenantId
  order : o.orderId = request.orderId
  active : o.active = true
  insert : a.1.operations.rows.insert? o = some a.2.operations.rows
  free : ¬OrderTaken a.1.operations o

/-- The three ways in which a call of `create_pending_operation` can end. -/
inductive CreationEnd (scope : AccessScope) (request : OrderOperationRequest)
    (own : List (Database × Database)) : Except Failure OperationServiceResult -> Prop
  | created {result : OperationServiceResult} {f : List (Database × Database)}
      {a : Database × Database} (action : result.action = OperationServiceAction.created)
      (inserted : Inserted scope request result.operation a)
      (last : own = f ++ [a]) (silent : forall b, b ∈ f -> Silent b) :
      CreationEnd scope request own (Except.ok result)
  | ignored {o : OrderOperation} (seen : SeenIn own o)
      (silent : forall b, b ∈ own -> Silent b) :
      CreationEnd scope request own (Except.ok (duplicateIgnored o))
  | raised {e : Failure} (silent : forall b, b ∈ own -> Silent b) :
      CreationEnd scope request own (Except.error e)

theorem CreationEnd.after {first rest : List (Database × Database)}
    {r : Except Failure OperationServiceResult}
    (hfirst : forall b, b ∈ first -> Silent b) (h : CreationEnd scope request rest r) :
    CreationEnd scope request (first ++ rest) r := by
  have hsilent : (forall b, b ∈ rest -> Silent b) ->
      forall b, b ∈ first ++ rest -> Silent b := by
    intro hrest b hb
    rcases List.mem_append.mp hb with hb | hb
    · exact hfirst b hb
    · exact hrest b hb
  cases h with
  | @created result before a action inserted last silent =>
      refine CreationEnd.created (f := first ++ before) action inserted ?_ ?_
      · rw [last, List.append_assoc]
      · intro b hb
        rcases List.mem_append.mp hb with hb | hb
        · exact hfirst b hb
        · exact silent b hb
  | ignored seen silent =>
      rcases seen with ⟨a, ha, hrow⟩
      exact CreationEnd.ignored ⟨a, List.mem_append_right _ ha, hrow⟩ (hsilent silent)
  | raised silent => exact CreationEnd.raised (hsilent silent)

theorem writePendingOperation_returns {now : Time}
    {r : Except Failure OperationServiceResult}
    (h : Program.Returns Fault (writePendingOperation scope customerId request snapshot
      decision excerpt now) own r) : CreationEnd scope request own r := by
  unfold writePendingOperation at h
  rcases h.of_bind with ⟨operationId, first, rest, hfirst, h₁, rfl⟩ | ⟨e, hfirst, rfl⟩
  swap
  · exact CreationEnd.raised (freshId_silent hfirst)
  refine CreationEnd.after (freshId_silent hfirst) ?_
  rcases Program.Returns.of_require h₁ with ⟨_, h₂⟩ | ⟨rfl, rfl⟩
  swap
  · exact CreationEnd.raised fun b hb => (by cases hb)
  rcases h₂.of_bind with ⟨eventId, second, rest, hsecond, h₃, rfl⟩ | ⟨e, hsecond, rfl⟩
  swap
  · exact CreationEnd.raised (freshId_silent hsecond)
  refine CreationEnd.after (freshId_silent hsecond) ?_
  rcases h₃.of_bind with ⟨_, third, rest, hwrite, h₄, rfl⟩ | ⟨e, hwrite, rfl⟩
  · rcases Program.Returns.of_pure h₄ with ⟨rfl, rfl⟩
    rcases hwrite.of_perform with ⟨s, t, rfl, ⟨_, htx, _⟩ | ⟨_, e, hr⟩⟩
    swap
    · cases hr
    simp only [createOperationWithEvents, Transaction.translate_eq_ok,
      Transaction.bind_eq_ok, validateOwnership, insertOperationEvents] at htx
    rcases htx with ⟨_, s₁, hvalid, _, t₁, hinsert, htail⟩
    simp only [Transaction.require_eq_ok, Prod.mk.injEq] at hvalid
    rcases hvalid with ⟨_, _, ⟨_, _, rfl⟩, _, _, ⟨_, _, rfl⟩, _, _, ⟨_, _, rfl⟩, _, _, rfl⟩
    rcases htail with ⟨_, _, hevent, hnil⟩
    rcases insertOperation_spec hinsert with ⟨hrows, _, _, hfree, _⟩
    have happended := insertOperationEvent_spec hevent
    have hlast : t.operations.rows = t₁.operations.rows := by
      have hdone := Transaction.pure_eq_ok.mp hnil
      cases hdone
      exact happended.rows
    rw [List.append_nil]
    refine CreationEnd.created (f := []) rfl ⟨rfl, rfl, rfl, ?_, hfree⟩ rfl
      (fun b hb => (by cases hb))
    show s.operations.rows.insert? _ = some t.operations.rows
    rw [hlast]
    exact hrows
  · rcases hwrite.of_perform with ⟨s, t, rfl, ⟨_, _, hr⟩ | ⟨rfl, _⟩⟩
    · cases hr
    · refine CreationEnd.raised ?_
      intro b hb
      rw [List.mem_singleton.mp hb]
      exact Silent.refl _

theorem createAttempts_returns {clock : Nat -> Time} :
    forall (n : Nat) {own : List (Database × Database)}
      {r : Except Failure OperationServiceResult},
      Program.Returns Fault (createAttempts scope customerId request snapshot decision
        excerpt clock n) own r -> CreationEnd scope request own r := by
  intro n
  induction n with
  | zero =>
      intro own r h
      unfold createAttempts at h
      rcases h.of_bind with ⟨found, first, rest, hfirst, hrest, rfl⟩ | ⟨e, hfirst, rfl⟩
      · rcases findExistingOperation_returns hfirst with ⟨hsilent, hseen⟩
        cases found with
        | some o =>
            rcases Program.Returns.of_pure hrest with ⟨rfl, rfl⟩
            rw [List.append_nil]
            exact CreationEnd.ignored (hseen o rfl) hsilent
        | none =>
            rcases Program.Returns.of_raise hrest with ⟨rfl, rfl⟩
            rw [List.append_nil]
            exact CreationEnd.raised hsilent
      · exact CreationEnd.raised (findExistingOperation_returns hfirst).left
  | succ n ih =>
      intro own r h
      unfold createAttempts at h
      rcases h.of_bind with ⟨found, first, rest, hfirst, hrest, rfl⟩ | ⟨e, hfirst, rfl⟩
      swap
      · exact CreationEnd.raised (findExistingOperation_returns hfirst).left
      rcases findExistingOperation_returns hfirst with ⟨hsilent, hseen⟩
      cases found with
      | some o =>
          rcases Program.Returns.of_pure hrest with ⟨rfl, rfl⟩
          rw [List.append_nil]
          exact CreationEnd.ignored (hseen o rfl) hsilent
      | none =>
          refine CreationEnd.after hsilent ?_
          rcases Program.Returns.of_rescue hrest with hwrite |
            ⟨e, q, before, more, hwrite, hq, hagain, rfl⟩
          · exact writePendingOperation_returns hwrite
          · -- a refused attempt has written nothing
            have hrefused : forall b, b ∈ before -> Silent b := by
              cases writePendingOperation_returns hwrite with
              | raised silent => exact silent
            refine CreationEnd.after hrefused ?_
            by_cases hconflict : creationConflict e = true
            · rw [if_pos hconflict] at hq
              cases hq
              exact ih hagain
            · rw [if_neg hconflict] at hq
              cases hq

/-- How a call of `create_pending_operation` can end, whatever runs in between. -/
theorem createPendingOperation_returns {requestExcerpt : String} {clock : Nat -> Time}
    {r : Except Failure OperationServiceResult}
    (h : Program.Returns Fault (createPendingOperation scope request snapshot decision
      requestExcerpt clock) own r) : CreationEnd scope request own r := by
  have hnothing : forall e, own = [] ∧ r = Except.error e ->
      CreationEnd scope request own r := by
    rintro e ⟨rfl, rfl⟩
    exact CreationEnd.raised fun b hb => (by cases hb)
  unfold createPendingOperation at h
  cases hcustomer : scope.customerId with
  | none =>
      simp only [hcustomer] at h
      exact hnothing _ (Program.Returns.of_raise h)
  | some customerId =>
      simp only [hcustomer] at h
      rcases Program.Returns.of_require h with ⟨_, h⟩ | hraised
      swap
      · exact hnothing _ hraised
      rcases Program.Returns.of_require h with ⟨_, h⟩ | hraised
      swap
      · exact hnothing _ hraised
      rcases Program.Returns.of_require h with ⟨_, h⟩ | hraised
      swap
      · exact hnothing _ hraised
      rcases Program.Returns.of_require h with ⟨_, h⟩ | hraised
      swap
      · exact hnothing _ hraised
      rcases Program.Returns.of_require h with ⟨_, h⟩ | hraised
      swap
      · exact hnothing _ hraised
      cases hexcerpt : CleanText.parse? (Text.strip requestExcerpt) with
      | none =>
          simp only [hexcerpt] at h
          exact hnothing _ (Program.Returns.of_raise h)
      | some excerpt =>
          simp only [hexcerpt] at h
          exact createAttempts_returns maxWriteAttempts h

end Creation

/-!
## Redrives
-/

/-- The violation of the unique index on active orders. -/
def activeOrderViolation : Failure :=
  Failure.uniqueViolation UniqueConstraint.orderOperationsActiveOrder

section Redrives

open Transaction

/--
An operation under review is active, so nobody else holds its order, and putting
it back into the queue takes nothing that it does not have already.
-/
theorem recoverOperation_free {scope : AccessScope} {message : OutboxMessage}
    {request : ProviderRedriveRequest} {redriveId : UUID} {now : Time} {db : Database}
    (hdb : Sound db) :
    recoverOperation scope message request redriveId now db ≠
      Except.error activeOrderViolation := by
  intro h
  unfold recoverOperation at h
  rcases fetch_bind_error h with hfail | ⟨operation, hoperation, h₁⟩
  · cases hfail
  rcases require_bind_error h₁ with hfail | ⟨hredrivable, h₂⟩
  · cases hfail
  rcases fetch_bind_error h₂ with hfail | ⟨case, _, h₃⟩
  · cases hfail
  rcases require_bind_error h₃ with hfail | ⟨_, h₄⟩
  · cases hfail
  rcases bind_eq_error.mp h₄ with hfail | ⟨affected, db₂, _, h₅⟩
  · rw [Option.filter_eq_some_iff] at hoperation
    have hget := hoperation.left
    have hrow := Table.mem_of_get hget
    rw [← Table.get_key hget] at hget
    unfold updateOperation at hfail
    simp only [hget] at hfail
    split at hfail
    · split at hfail
      · cases hfail
      · split at hfail
        · rename_i htaken
          simp only [OrderOperation.redrivable, Bool.and_eq_true, decide_eq_true_eq]
            at hredrivable
          have hstatus := hredrivable.left.left.left.right
          rw [← Bool.not_eq_false, activeOrderTaken_eq_false, not_not] at htaken
          rcases htaken with ⟨r, hr, hactive, _, hne, htenant, horder⟩
          refine hdb.operations.free operation hrow ⟨r, hr, hactive, ?_, hne, htenant, horder⟩
          unfold OrderOperation.active
          rw [hstatus]
          decide
        · cases hfail
    · cases hfail
  · have havoids : Avoids activeOrderViolation (do
        Transaction.require (affected = 1) (stateConflict "aggregate_state_changed")
        let eventId ← newId
        insertOperationEvent
          (redriveEvent scope message operation.operationId eventId request now)
        insertCaseRedriveEvent scope case.caseId message.customerId message.commandId
          request redriveId now) := by
      refine Avoids.bind (Avoids.require (by decide)) fun _ => ?_
      refine Avoids.bind newId_avoids fun _ => Avoids.bind ?_ fun _ => ?_
      · refine Avoids.bind (Avoids.read _) fun _ => ?_
        refine Avoids.bind (Avoids.require (by decide)) fun _ => ?_
        exact Avoids.bind (Avoids.require (by decide)) fun _ =>
          insertRow_avoids (by decide) _ _ _
      · refine Avoids.bind newId_avoids fun _ => ?_
        refine Avoids.bind (Avoids.read _) fun _ => ?_
        exact Avoids.bind (Avoids.require (by decide)) fun _ =>
          insertRow_avoids (by decide) _ _ _
    exact havoids db₂ h₅

theorem auditSupportCase_free {scope : AccessScope} {message : OutboxMessage}
    {request : ProviderRedriveRequest} {redriveId : UUID} {now : Time} :
    Avoids activeOrderViolation
      (auditSupportCase scope message request redriveId now) := by
  refine Avoids.bind (Avoids.require (by decide)) fun _ => ?_
  refine Avoids.bind (Avoids.fetch (by decide)) fun _ => ?_
  refine Avoids.bind (Avoids.require (by decide)) fun _ => ?_
  refine Avoids.bind newId_avoids fun _ => ?_
  refine Avoids.bind (Avoids.read _) fun _ => ?_
  exact Avoids.bind (Avoids.require (by decide)) fun _ => insertRow_avoids (by decide) _ _ _

theorem answer_avoids {α : Type} {e : Failure} {r : Except Failure α}
    (h : r ≠ Except.error e) : Avoids e (answer r) := by
  cases r with
  | ok a => exact Avoids.pure a
  | error e' => exact Avoids.raise fun he => h (congrArg Except.error he)

theorem updateInbox_avoids {e : Failure} (inboxId : UUID) (p : InboxMessage -> Bool)
    (f : InboxMessage -> InboxMessage) : Avoids e (updateInbox inboxId p f) := by
  intro db h
  unfold updateInbox at h
  split at h
  · cases h
  · split at h <;> cases h

/-- A redrive of a command never meets the index on active orders. -/
theorem redriveOutboxTransaction_free {scope : AccessScope} {commandId : UUID}
    {request : ProviderRedriveRequest} {missed : Bool} {clock : Nat -> Time}
    {db : Database} (hdb : Sound db) :
    redriveOutboxTransaction scope commandId request missed clock db ≠
      Except.error activeOrderViolation := by
  intro h
  unfold redriveOutboxTransaction at h
  rcases fetch_bind_error h with hfail | ⟨message, _, h₁⟩
  · cases hfail
  rcases bind_eq_error.mp h₁ with hfail | ⟨replay, _, hread, h₂⟩
  · cases hfail
  cases hread
  cases hreplay : lockedOutboxAudit db scope.tenantId commandId request.requestId missed with
  | some row =>
      simp only [hreplay] at h₂
      refine answer_avoids ?_ db h₂
      unfold validateOutboxReplay
      split <;> intro hr <;> cases hr
  | none =>
      simp only [hreplay] at h₂
      rcases bind_eq_error.mp h₂ with hfail | ⟨attempt, _, hread, h₃⟩
      · cases hfail
      cases hread
      rcases require_bind_error h₃ with hfail | ⟨_, h₄⟩
      · cases hfail
      unfold beginOutboxCycle at h₄
      rcases bind_eq_error.mp h₄ with hfail | ⟨redriveId, db₁, hid, h₅⟩
      · exact newId_avoids db hfail
      have hdb₁ : Sound db₁ := by
        rcases Drawn.served (D := AnyDecision) (newId_spec hid) with ⟨l, _, hmove⟩
        exact hmove.sound hdb
      rcases bind_eq_error.mp h₅ with hfail | ⟨_, db₂, _, h₆⟩
      · unfold redriveAggregate at hfail
        cases hkind : message.aggregateType with
        | orderOperation =>
            simp only [hkind] at hfail
            exact recoverOperation_free hdb₁ hfail
        | supportCase =>
            simp only [hkind] at hfail
            exact auditSupportCase_free db₁ hfail
      · have havoids : Avoids activeOrderViolation (do
            let affected ← updateOutbox message.commandId
              (fun m => decide (m.tenantId = scope.tenantId) &&
                decide (m.status = OutboxDeliveryStatus.dead) &&
                decide (m.deliveryCycle = message.deliveryCycle))
              (OutboxMessage.setRedriven (message.deliveryCycle + 1) (clock 0)
                (max (clock 1) message.updatedAt))
            Transaction.require (affected = 1) (stateConflict "redrive_state_changed")
            let row := outboxRedriveRow scope message request redriveId
              (max (clock 1) message.updatedAt)
            insertOutboxRedrive row
            pure { row.view with requestId := some request.requestId }) := by
          refine Avoids.bind (updateOutbox_avoids _ _ _) fun _ => ?_
          refine Avoids.bind (Avoids.require (by decide)) fun _ => ?_
          refine Avoids.bind ?_ fun _ => Avoids.pure _
          refine Avoids.bind (Avoids.read _) fun _ => ?_
          exact Avoids.bind (Avoids.require (by decide)) fun _ =>
            insertRow_avoids (by decide) _ _ _
        exact havoids db₂ h₆

theorem redriveInboxTransaction_free {scope : AccessScope} {inboxId : UUID}
    {request : ProviderRedriveRequest} {missed : Bool} {clock : Nat -> Time} :
    Avoids activeOrderViolation
      (redriveInboxTransaction scope inboxId request missed clock) := by
  refine Avoids.bind (Avoids.fetch (by decide)) fun message => ?_
  refine Avoids.bind (Avoids.read _) fun replay => ?_
  cases replay with
  | some row =>
      refine answer_avoids ?_
      unfold validateInboxReplay
      split <;> intro hr <;> cases hr
  | none =>
      refine Avoids.bind (Avoids.require fun hno => (by cases hno)) fun _ => ?_
      refine Avoids.bind newId_avoids fun _ => ?_
      refine Avoids.bind (updateInbox_avoids _ _ _) fun _ => ?_
      refine Avoids.bind (Avoids.require (by decide)) fun _ => ?_
      refine Avoids.bind ?_ fun _ => Avoids.pure _
      refine Avoids.bind (Avoids.read _) fun _ => ?_
      exact Avoids.bind (Avoids.require (by decide)) fun _ =>
        insertRow_avoids (by decide) _ _ _

end Redrives

/-!
## Every run
-/

/-- The call in the given place is one of `create_pending_operation`. -/
def CreatesAt (stages : List (Stage World Event)) (i : Nat) (scope : AccessScope)
    (request : OrderOperationRequest) : Prop :=
  exists x snapshot decision excerpt clock, x ∈ stages ∧
    Begins i (createPendingOperation scope request snapshot decision excerpt clock) x

/-- The stage in which the call in the given place inserts its operation. -/
def InsertsAt (stages : List (Stage World Event)) (i : Nat) (scope : AccessScope)
    (request : OrderOperationRequest) (o : OrderOperation) (x : Stage World Event) : Prop :=
  x ∈ stages ∧ Advances i x ∧ Inserted scope request o (Stage.dbs x)

theorem World.Runs.creation {stages : List (Stage World Event)} {w : World}
    (h : World.Runs stages w) {i : Nat} {scope : AccessScope}
    {request : OrderOperationRequest} {r : Except Failure OperationServiceResult}
    (hcreates : CreatesAt stages i scope request) (hended : w.Ended i r) :
    (exists result x, r = Except.ok result ∧
      result.action = OperationServiceAction.created ∧
      InsertsAt stages i scope request result.operation x) ∨
    ((forall x, x ∈ stages -> Advances i x -> Silent (Stage.dbs x)) ∧
      ((exists e, r = Except.error e) ∨
        exists o x, r = Except.ok (duplicateIgnored o) ∧ x ∈ stages ∧ Advances i x ∧
          exists row, row ∈ x.before.db.operations.rows.rows ∧ row.ofRow? = some o)) := by
  rcases hcreates with ⟨x, snapshot, decision, excerpt, clock, hx, hbegins⟩
  rcases h.returned hx hbegins hended with ⟨own, hreturns, hstage, hcomplete⟩
  cases createPendingOperation_returns hreturns with
  | @created result first a action inserted last silent =>
      have ha : a ∈ own := by
        rw [last]
        exact List.mem_append_right _ List.mem_cons_self
      rcases hstage a ha with ⟨y, hy, hadvances, rfl⟩
      exact Or.inl ⟨result, y, rfl, action, hy, hadvances, inserted⟩
  | @ignored o seen silent =>
      rcases seen with ⟨a, ha, row, hrow, hparsed⟩
      rcases hstage a ha with ⟨y, hy, hadvances, rfl⟩
      exact Or.inr ⟨fun z hz hadv => silent _ (hcomplete z hz hadv),
        Or.inr ⟨o, y, rfl, hy, hadvances, row, hrow, hparsed⟩⟩
  | raised silent =>
      exact Or.inr ⟨fun z hz hadv => silent _ (hcomplete z hz hadv), Or.inl ⟨_, rfl⟩⟩

theorem Inserted.released {scope scope' : AccessScope}
    {request request' : OrderOperationRequest} {o o' : OrderOperation}
    {a b : Database × Database} (h : Inserted scope request o a)
    (h' : Inserted scope' request' o' b) (hlater : Later a.2 b.1)
    (htenant : scope.tenantId = scope'.tenantId)
    (horder : request.orderId = request'.orderId) :
    exists row, b.1.operations.rows.get o.operationId = some row ∧ row.active = false := by
  rcases Table.insert?_eq_some.mp h.insert with ⟨hnew, hrows⟩
  have hmem : o ∈ a.2.operations.rows.rows := by
    rw [hrows]
    exact List.mem_append_right _ List.mem_cons_self
  rcases hlater.operations _ o (Table.get_of_mem hmem) with ⟨row, hrow, hfrozen, _⟩
  refine ⟨row, hrow, ?_⟩
  by_contra hactive
  rw [Bool.not_eq_false] at hactive
  refine h'.free ⟨row, Table.mem_of_get hrow, hactive, h'.active, ?_, ?_, ?_⟩
  · intro hid
    have hfree := (Table.insert?_eq_some.mp h'.insert).left
    rw [← hid, operationId_of_frozen hfrozen] at hfree
    rw [hrow] at hfree
    cases hfree
  · rw [tenantId_of_frozen hfrozen, h.tenant, h'.tenant, htenant]
  · show row.frozen.orderId = _
    rw [hfrozen, h'.order, ← horder]
    exact h.order

theorem World.Runs.either_later {stages : List (Stage World Event)} {w : World}
    (h : World.Runs stages w) {x y : Stage World Event} (hx : x ∈ stages)
    (hy : y ∈ stages) (hne : x ≠ y) :
    Later x.after.db y.before.db ∨ Later y.after.db x.before.db := by
  have hgood := h.good.right
  rcases h with ⟨ids, hrun⟩
  have htrans : forall {a b c : World}, Later a.db b.db -> Later b.db c.db ->
      Later a.db c.db := fun h h' => h.trans h'
  have hordered := hrun.ordered (R := fun w w' => Later w.db w'.db)
    (fun w => Later.refl w.db) htrans (fun z hz => (hgood z hz).later)
  have heither : stages.Pairwise fun x y =>
      Later x.after.db y.before.db ∨ Later y.after.db x.before.db :=
    hordered.imp Or.inl
  have : Std.Symm fun x y : Stage World Event =>
      Later x.after.db y.before.db ∨ Later y.after.db x.before.db :=
    ⟨fun _ _ hor => hor.symm⟩
  exact heither.forall hx hy hne

/--
One active operation for an order.  In every run at most one operation of a
tenant and an order is active.  A call of `create_pending_operation` that has
ended has inserted the operation that it returns as created; or it has written
nothing and has raised, or returned an operation that was in the database at one
of its transactions.  When two calls for one order have both created one, the
operation inserted first was no longer active when the second was inserted.  And
no redrive violates the index on active orders.
-/
theorem one_active_operation_per_order {stages : List (Stage World Event)} {w : World}
    (h : World.Runs stages w) :
    (forall o o', o ∈ w.db.operations.rows.rows -> o' ∈ w.db.operations.rows.rows ->
      o.active = true -> o'.active = true -> o.tenantId = o'.tenantId ->
      o.orderId = o'.orderId -> o = o') ∧
    (forall i scope request r, CreatesAt stages i scope request -> w.Ended i r ->
      (exists result x, r = Except.ok result ∧
        result.action = OperationServiceAction.created ∧
        InsertsAt stages i scope request result.operation x) ∨
      ((forall x, x ∈ stages -> Advances i x -> Silent (Stage.dbs x)) ∧
        ((exists e, r = Except.error e) ∨
          exists o x, r = Except.ok (duplicateIgnored o) ∧ x ∈ stages ∧ Advances i x ∧
            exists row, row ∈ x.before.db.operations.rows.rows ∧
              row.ofRow? = some o))) ∧
    (forall i j scope scope' request request' (a b : OperationServiceResult), i ≠ j ->
      CreatesAt stages i scope request -> CreatesAt stages j scope' request' ->
      scope.tenantId = scope'.tenantId -> request.orderId = request'.orderId ->
      w.Ended i (Except.ok a) -> w.Ended j (Except.ok b) ->
      a.action = OperationServiceAction.created ->
      b.action = OperationServiceAction.created ->
      exists x y, InsertsAt stages i scope request a.operation x ∧
        InsertsAt stages j scope' request' b.operation y ∧
        ((exists row, y.before.db.operations.rows.get a.operation.operationId = some row ∧
          row.active = false) ∨
        (exists row, x.before.db.operations.rows.get b.operation.operationId = some row ∧
          row.active = false))) ∧
    (forall scope commandId request missed clock,
      redriveOutboxTransaction scope commandId request missed clock w.db ≠
          Except.error activeOrderViolation ∧
        redriveInboxTransaction scope commandId request missed clock w.db ≠
          Except.error activeOrderViolation) := by
  have hsound := h.good.left.sound
  refine ⟨?_, fun i scope request r hcreates hended => h.creation hcreates hended, ?_, ?_⟩
  · intro o o' ho ho' hactive hactive' htenant horder
    by_contra hne
    refine hsound.operations.free o' ho' ⟨o, ho, hactive, hactive', ?_, htenant, horder⟩
    intro hid
    exact hne (Table.eq_of_key_eq ho ho' hid)
  · intro i j scope scope' request request' a b hij hi hj htenant horder hendi hendj ha hb
    have hcreated : forall {k : Nat} {scope : AccessScope}
        {request : OrderOperationRequest} {c : OperationServiceResult},
        CreatesAt stages k scope request -> w.Ended k (Except.ok c) ->
        c.action = OperationServiceAction.created ->
        exists x, InsertsAt stages k scope request c.operation x := by
      intro k scope request c hk hended hc
      rcases h.creation hk hended with ⟨result, x, hr, _, hx⟩ | ⟨_, ⟨e, hr⟩ | ⟨o, x, hr, _⟩⟩
      · cases hr
        exact ⟨x, hx⟩
      · cases hr
      · cases hr
        cases hc
    rcases hcreated hi hendi ha with ⟨x, hx⟩
    rcases hcreated hj hendj hb with ⟨y, hy⟩
    refine ⟨x, y, hx, hy, ?_⟩
    have hne : x ≠ y := by
      intro hxy
      have hboth := hy.right.left
      rw [← hxy] at hboth
      exact hij ((h.good.right x hx.left).step.advances_unique hx.right.left hboth)
    rcases h.either_later hx.left hy.left hne with hlater | hlater
    · exact Or.inl (hx.right.right.released hy.right.right hlater htenant horder)
    · exact Or.inr (hy.right.right.released hx.right.right hlater htenant.symm horder.symm)
  · intro scope commandId request missed clock
    exact ⟨redriveOutboxTransaction_free hsound, redriveInboxTransaction_free w.db⟩

/-!
## Two calls that both create

The second call has begun before the first one writes.  The customer cancels the
operation of the first before the second looks, so the order is free again.
-/

def sampleRival : OrderOperationRequest :=
  { sampleRequest with sourceMessageId := sampleNextMessageText }

def sampleCreate (request : OrderOperationRequest) : Call OperationServiceResult :=
  createPendingOperation sampleScope request sampleSnapshot sampleDecision "please cancel"
    (fun _ => 0)

def sampleCancel : Call OperationServiceResult :=
  cancelPendingOperation sampleScope 0 "request" (fun _ => 0)

/-- The database after the first creation. -/
def sampleRaceCreated : Database :=
  ((sampleCreate sampleRequest).run (Database.initial sampleIds)).2

/-- The database after the cancellation. -/
def sampleRaceCancelled : Database := (sampleCancel.run sampleRaceCreated).2

/-- Both calls have begun and neither has done anything yet. -/
def BothBegun (stages : List (Stage World Event)) {α : Type} (p q : Call α) : Prop :=
  exists x, x ∈ stages ∧ x.after.calls = [⟨_, p⟩, ⟨_, q⟩]

theorem overtaken_runs (ids : Supply) {α β : Type} {p q : Call α} {c : Call β}
    (hp : Method AnyDecision p) (hq : Method AnyDecision q) (hc : Method AnyDecision c)
    {db₁ db₂ : Database}
    (h₁ : (p.run (Database.initial ids)).2 = db₁) (h₂ : (c.run db₁).2 = db₂) :
    exists stages w, World.Runs stages w ∧ BothBegun stages p q ∧
      (exists x, x ∈ stages ∧ Begins 0 p x) ∧ (exists x, x ∈ stages ∧ Begins 1 q x) ∧
      w.Ended 0 (p.run (Database.initial ids)).1 ∧ w.Ended 1 (q.run db₂).1 := by
  let r : Running := ⟨_, Program.done (p.run (Database.initial ids)).1⟩
  let w₀ : World := World.initial ids
  have hfirst : World.Step w₀ Event.start { w₀ with calls := [⟨_, p⟩] } :=
    World.Step.start hp
  have hsecond : World.Step { w₀ with calls := [⟨_, p⟩] } Event.start
      { w₀ with calls := [⟨_, p⟩, ⟨_, q⟩] } := World.Step.start hq
  have hthird : World.Step { w₀ with db := db₁, calls := [r, ⟨_, q⟩] } Event.start
      { w₀ with db := db₁, calls := [r, ⟨_, q⟩, ⟨_, c⟩] } := World.Step.start hc
  rcases World.run_calls p { w₀ with calls := [⟨_, p⟩, ⟨_, q⟩] } [] [⟨_, q⟩] rfl with
    ⟨create, hcreate, _⟩
  rcases World.run_calls c { w₀ with db := db₁, calls := [r, ⟨_, q⟩, ⟨_, c⟩] }
    [r, ⟨_, q⟩] [] rfl with ⟨cancel, hcancel, _⟩
  let d : Running := ⟨_, Program.done (c.run db₁).1⟩
  rcases World.run_calls q { w₀ with db := db₂, calls := [r, ⟨_, q⟩, d] } [r] [d] rfl with
    ⟨again, hagain, _⟩
  have hcreated : Run World.Step { w₀ with calls := [⟨_, p⟩, ⟨_, q⟩] } create
      { w₀ with db := db₁, calls := [r, ⟨_, q⟩] } := by
    rw [← h₁]
    exact hcreate
  have hcancelled : Run World.Step { w₀ with db := db₁, calls := [r, ⟨_, q⟩, ⟨_, c⟩] }
      cancel { w₀ with db := db₂, calls := [r, ⟨_, q⟩, d] } := by
    rw [← h₂]
    exact hcancel
  have hrun := Run.cons hfirst (Run.cons hsecond (hcreated.append (Run.cons hthird
    (hcancelled.append hagain))))
  refine ⟨_, _, ⟨ids, hrun⟩, ?_, ?_, ?_, rfl, rfl⟩
  · exact ⟨_, List.mem_cons_of_mem _ List.mem_cons_self, rfl⟩
  · exact ⟨_, List.mem_cons_self, rfl, rfl⟩
  · exact ⟨_, List.mem_cons_of_mem _ List.mem_cons_self, rfl, rfl⟩

theorem sampleRace_runs : exists stages w, World.Runs stages w ∧
    BothBegun stages (sampleCreate sampleRequest) (sampleCreate sampleRival) ∧
    CreatesAt stages 0 sampleScope sampleRequest ∧
    CreatesAt stages 1 sampleScope sampleRival ∧
    w.Ended 0 ((sampleCreate sampleRequest).run (Database.initial sampleIds)).1 ∧
    w.Ended 1 ((sampleCreate sampleRival).run sampleRaceCancelled).1 := by
  rcases overtaken_runs sampleIds
    (Method.createPendingOperation sampleScope sampleRequest sampleSnapshot
      sampleDecision "please cancel" (fun _ => 0))
    (Method.createPendingOperation sampleScope sampleRival sampleSnapshot
      sampleDecision "please cancel" (fun _ => 0))
    (Method.cancelPendingOperation sampleScope 0 "request" (fun _ => 0))
    (Eq.refl sampleRaceCreated) (Eq.refl sampleRaceCancelled) with
    ⟨stages, w, hrun, hboth, ⟨x, hx, hfirst⟩, ⟨y, hy, hsecond⟩, hend, hend'⟩
  exact ⟨stages, w, hrun, hboth, ⟨x, _, _, _, _, hx, hfirst⟩, ⟨y, _, _, _, _, hy, hsecond⟩,
    hend, hend'⟩

/-- The outcome of a call is a created operation. -/
def created? : Except Failure OperationServiceResult -> Bool
  | Except.ok result => decide (result.action = OperationServiceAction.created)
  | Except.error _ => false

theorem created?_eq_true {r : Except Failure OperationServiceResult}
    (h : created? r = true) :
    exists result, r = Except.ok result ∧
      result.action = OperationServiceAction.created := by
  cases r with
  | ok result => exact ⟨result, rfl, of_decide_eq_true h⟩
  | error e => cases h

theorem sampleRace_created :
    created? ((sampleCreate sampleRequest).run (Database.initial sampleIds)).1 = true ∧
      created? ((sampleCreate sampleRival).run sampleRaceCancelled).1 = true := by
  decide +kernel

/-- Of two calls that race for one order, both may return created. -/
theorem racing_calls_both_create :
    exists stages w, exists a b : OperationServiceResult, World.Runs stages w ∧
    BothBegun stages (sampleCreate sampleRequest) (sampleCreate sampleRival) ∧
    CreatesAt stages 0 sampleScope sampleRequest ∧
    CreatesAt stages 1 sampleScope sampleRival ∧
    sampleRequest.orderId = sampleRival.orderId ∧
    w.Ended 0 (Except.ok a) ∧ a.action = OperationServiceAction.created ∧
    w.Ended 1 (Except.ok b) ∧ b.action = OperationServiceAction.created := by
  rcases sampleRace_runs with ⟨stages, w, hrun, hboth, hfirst, hsecond, hend, hend'⟩
  rcases created?_eq_true sampleRace_created.left with ⟨a, ha, haction⟩
  rcases created?_eq_true sampleRace_created.right with ⟨b, hb, hbction⟩
  rw [ha] at hend
  rw [hb] at hend'
  exact ⟨stages, w, a, b, hrun, hboth, hfirst, hsecond, rfl, hend, haction, hend', hbction⟩

/-- In that run the first operation was released before the second was inserted. -/
theorem one_active_operation_per_order_released :
    exists stages, exists a b : OrderOperation, exists x y,
    InsertsAt stages 0 sampleScope sampleRequest a x ∧
    InsertsAt stages 1 sampleScope sampleRival b y ∧
    ((exists row, y.before.db.operations.rows.get a.operationId = some row ∧
      row.active = false) ∨
    (exists row, x.before.db.operations.rows.get b.operationId = some row ∧
      row.active = false)) := by
  rcases sampleRace_runs with ⟨stages, w, hrun, _, hfirst, hsecond, hend, hend'⟩
  rcases created?_eq_true sampleRace_created.left with ⟨a, ha, haction⟩
  rcases created?_eq_true sampleRace_created.right with ⟨b, hb, hbction⟩
  rw [ha] at hend
  rw [hb] at hend'
  rcases (one_active_operation_per_order hrun).right.right.left 0 1 sampleScope sampleScope
    sampleRequest sampleRival a b Nat.zero_ne_one hfirst hsecond rfl rfl hend hend' haction
    hbction with ⟨x, y, hx, hy, hreleased⟩
  exact ⟨stages, a.operation, b.operation, x, y, hx, hy, hreleased⟩

end RefundAgent
