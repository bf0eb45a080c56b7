import RefundAgent.Graph.State
import RefundAgent.System.Undisturbed

/-!
# Case writes of a turn

What the lookups of the case service find for a customer, and which rows its
writes leave behind.
-/

namespace RefundAgent

open Foundation

/-!
## Lookups

A customer sees the cases of its own tenant and its own identity, and nothing
else; each of the two lookups of the handoff is a query on those.
-/

/-- The case is the customer's own. -/
def AccessScope.owns (scope : AccessScope) (c : SupportCase) : Bool :=
  decide (c.tenantId = scope.tenantId) && decide (some c.customerId = scope.customerId)

theorem AccessScope.owns_iff {scope : AccessScope} {c : SupportCase} :
    scope.owns c = true ↔ c.tenantId = scope.tenantId ∧
      some c.customerId = scope.customerId := by
  simp [AccessScope.owns]

theorem AccessScope.role_of_customerId {scope : AccessScope} {customerId : CleanText}
    (h : scope.customerId = some customerId) :
    scope.role = Role.customer ∧ customerId = scope.userId := by
  unfold AccessScope.customerId at h
  by_cases hrole : scope.role = Role.customer
  · rw [if_pos hrole] at h
    exact ⟨hrole, (Option.some.inj h).symm⟩
  · rw [if_neg hrole] at h
    cases h

theorem AccessScope.hasPermission_iff {scope : AccessScope} (h : scope.authentic = true)
    (p : Permission) : scope.hasPermission p = true ↔ p ∈ rolePermissions scope.role := by
  simp only [AccessScope.authentic, Bool.and_eq_true, List.all_eq_true,
    decide_eq_true_eq] at h
  simp only [AccessScope.hasPermission, decide_eq_true_eq]
  exact ⟨h.left p, h.right p⟩

theorem caseVisibility_customer {scope : AccessScope} {customerId : CleanText}
    (h : scope.authentic = true) (hcustomer : scope.customerId = some customerId) :
    caseVisibility scope = Except.ok scope.owns := by
  have hrole := (AccessScope.role_of_customerId hcustomer).left
  have hall : ¬scope.hasPermission Permission.casesReadAll = true := by
    rw [AccessScope.hasPermission_iff h, hrole]
    decide
  have hassigned : ¬scope.hasPermission Permission.casesReadAssigned = true := by
    rw [AccessScope.hasPermission_iff h, hrole]
    decide
  have hown : scope.hasPermission Permission.casesReadOwn = true := by
    rw [AccessScope.hasPermission_iff h, hrole]
    decide
  unfold caseVisibility
  rw [if_neg hall, if_neg hassigned, if_pos hown]
  simp only [hcustomer]
  congr 1
  funext c
  simp [AccessScope.owns, hcustomer]

/-- The case that `find_by_source_message` finds for a customer. -/
def sourceCase (scope : AccessScope) (threadId sourceMessageId : CleanText)
    (t : CaseTables) : Option SupportCase :=
  (((t.events.select fun e =>
      decide (e.sourceMessageId = some sourceMessageId)).filterMap fun e =>
    ((t.rows.get e.caseId).filter fun c =>
      decide (c.threadId = threadId) && scope.owns c).map fun c =>
        (e, c)).insertionSort earlierEvent).head?.map Prod.snd

/-- The case that `find_unresolved_case` finds for a customer. -/
def openCase (scope : AccessScope) (threadId : CleanText) (caseType : CaseType)
    (orderId : Option TrimmedText) (t : CaseTables) : Option SupportCase :=
  t.rows.rows.find? fun c =>
    decide (c.threadId = threadId) && decide (c.caseType = caseType) &&
      (decide (caseType ≠ CaseType.deliveryInvestigation) || decide (c.orderId = orderId)) &&
      c.unresolved && scope.owns c

theorem fetchCase_found {query : Database -> Option SupportCase} {db db' : Database}
    {found : Option SupportCase}
    (h : fetchCase query db = Except.ok (found, db')) :
    db' = db ∧ found = query db := by
  simp only [fetchCase, Transaction.bind_eq_ok, Transaction.read_eq_ok,
    Prod.mk.injEq] at h
  rcases h with ⟨row, _, ⟨rfl, rfl⟩, h⟩
  cases hq : query db with
  | none =>
      simp only [hq, Transaction.pure_eq_ok, Prod.mk.injEq] at h
      exact ⟨h.right.symm, h.left.symm⟩
  | some row =>
      simp only [hq, Transaction.bind_eq_ok, caseFromRow_eq_ok, Transaction.pure_eq_ok,
        Prod.mk.injEq] at h
      rcases h with ⟨_, _, ⟨_, rfl, rfl⟩, hfound, hdb⟩
      exact ⟨hdb.symm, hfound.symm⟩

section Customer

variable {scope : AccessScope} {customerId : CleanText}

theorem visibleCases_customer (h : scope.authentic = true)
    (hcustomer : scope.customerId = some customerId) :
    visibleCases scope = pure scope.owns := by
  unfold visibleCases
  rw [caseVisibility_customer h hcustomer]

theorem findCaseBySourceMessage_found (h : scope.authentic = true)
    (hcustomer : scope.customerId = some customerId)
    {threadId sourceMessageId : CleanText} {db db' : Database}
    {found : Option SupportCase}
    (hfind : findCaseBySourceMessage scope threadId sourceMessageId db =
      Except.ok (found, db')) :
    db' = db ∧ found = sourceCase scope threadId sourceMessageId db.cases := by
  unfold findCaseBySourceMessage at hfind
  rw [visibleCases_customer h hcustomer] at hfind
  exact fetchCase_found hfind

theorem findUnresolvedCase_found (h : scope.authentic = true)
    (hcustomer : scope.customerId = some customerId) {threadId : CleanText}
    {caseType : CaseType} {orderId : Option TrimmedText} {db db' : Database}
    {found : Option SupportCase}
    (hfind : findUnresolvedCase scope threadId caseType orderId db =
      Except.ok (found, db')) :
    db' = db ∧ found = openCase scope threadId caseType orderId db.cases := by
  unfold findUnresolvedCase at hfind
  rw [visibleCases_customer h hcustomer] at hfind
  unfold openCase
  by_cases hkind : caseType = CaseType.deliveryInvestigation
  · simp only [hkind, Transaction.bind_eq_ok, Transaction.require_eq_ok,
      Transaction.pure_eq_ok, Prod.mk.injEq, if_true] at hfind
    rcases hfind with ⟨_, _, ⟨rfl, rfl⟩, _, _, ⟨_, _, rfl⟩, hfetch⟩
    have hfound := fetchCase_found hfetch
    simpa [hkind] using hfound
  · simp only [if_neg hkind, Transaction.bind_eq_ok,
      Transaction.pure_eq_ok, Prod.mk.injEq] at hfind
    rcases hfind with ⟨_, _, ⟨rfl, rfl⟩, hfetch⟩
    have hfound := fetchCase_found hfetch
    simpa [hkind] using hfound

end Customer

theorem openCase_some {scope : AccessScope} {threadId : CleanText} {caseType : CaseType}
    {orderId : Option TrimmedText} {t : CaseTables} {c : SupportCase}
    (h : openCase scope threadId caseType orderId t = some c) :
    c ∈ t.rows.rows ∧ c.threadId = threadId ∧ c.caseType = caseType ∧
      (caseType = CaseType.deliveryInvestigation -> c.orderId = orderId) ∧
      c.unresolved = true ∧ scope.owns c = true := by
  have hmem := List.mem_of_find?_eq_some h
  have hp := List.find?_some h
  simp only [Bool.and_eq_true, Bool.or_eq_true, decide_eq_true_eq] at hp
  refine ⟨hmem, hp.left.left.left.left, hp.left.left.left.right, ?_, hp.left.right,
    hp.right⟩
  intro hkind
  rcases hp.left.left.right with hne | heq
  · exact absurd hkind hne
  · exact heq

/-!
## Writes
-/

structure CaseWritten (db db' : Database) (c : SupportCase) (e : SupportCaseEvent) :
    Prop where
  stored : db'.cases.rows.get c.caseId = some c
  before : forall d, db.cases.rows.get c.caseId = some d -> c.frozen = d.frozen
  others : forall id, id ≠ c.caseId -> db'.cases.rows.get id = db.cases.rows.get id
  events : db'.cases.events.rows = db.cases.events.rows ++ [e]
  operations : db'.operations = db.operations
  commands : forall id, hasCaseCommand db id = true -> hasCaseCommand db' id = true

theorem CaseWritten.after {db db₁ db' : Database} {c : SupportCase}
    {e : SupportCaseEvent} (h : CaseWritten db₁ db' c e) (hsame : SameTables db db₁) :
    CaseWritten db db' c e where
  stored := h.stored
  before := by
    rw [← hsame.cases]
    exact h.before
  others := by
    intro id hid
    rw [h.others id hid, hsame.cases]
  events := by rw [h.events, hsame.cases]
  operations := by rw [h.operations, hsame.operations]
  commands := by
    intro id hid
    refine h.commands id ?_
    unfold hasCaseCommand at hid ⊢
    rw [hsame.outbox]
    exact hid

theorem CaseWritten.get_cases {db db' : Database} {c d : SupportCase}
    {e : SupportCaseEvent} (h : CaseWritten db db' c e) {id : UUID}
    (hget : db'.cases.rows.get id = some d) :
    d = c ∨ db.cases.rows.get id = some d := by
  by_cases hid : id = c.caseId
  · rw [hid, h.stored] at hget
    exact Or.inl (Option.some.inj hget).symm
  · rw [h.others id hid] at hget
    exact Or.inr hget

theorem hasCaseCommand_of_outbox {db db' : Database} (h : db'.outbox = db.outbox)
    (id : UUID) : hasCaseCommand db' id = hasCaseCommand db id := by
  unfold hasCaseCommand
  rw [h]

theorem insertCase_written {c : SupportCase} {e : SupportCaseEvent}
    {db db₁ db₂ : Database} (hins : insertCase c db = Except.ok ((), db₁))
    (hev : insertCaseEvent e db₁ = Except.ok ((), db₂)) :
    CaseWritten db db₂ c e ∧ db₂.outbox = db.outbox := by
  rcases insertCase_spec hins with ⟨hrows, hevents, htouch, _⟩
  have hwritten := insertCaseEvent_spec hev
  have happend := (Table.insert?_eq_some.mp hrows).right
  have hget := Table.get_of_rows_append_singleton happend
  have hboth := htouch.trans hwritten.touches
  have houtbox : db₂.outbox = db.outbox := hboth.outbox (by simp)
  refine ⟨⟨?_, ?_, ?_, ?_, hboth.operations (by simp), ?_⟩, houtbox⟩
  · rw [hwritten.rows, hget, if_pos rfl]
  · intro d hd
    rw [(Table.insert?_eq_some.mp hrows).left] at hd
    cases hd
  · intro id hid
    rw [hwritten.rows, hget, if_neg hid]
  · rw [hwritten.appended, hevents]
  · intro id hid
    rw [hasCaseCommand_of_outbox houtbox]
    exact hid

theorem insertOutboxMessage_commands {command : ProviderCommandEnvelope} {now : Time}
    {db db' : Database} (h : insertOutboxMessage command now db = Except.ok ((), db')) :
    db'.cases = db.cases ∧ db'.operations = db.operations ∧
      (forall id, hasCaseCommand db id = true -> hasCaseCommand db' id = true) ∧
      (command.aggregateType = ProviderAggregateType.supportCase ->
        hasCaseCommand db' command.aggregateId = true) := by
  rcases insertOutboxRow_eq_ok h with ⟨t, ht, hdb⟩
  have hrows := (Table.insert?_eq_some.mp ht).right
  have hdb' : db' = { db with outbox := { db.outbox with messages := t } } := hdb
  rw [hdb']
  refine ⟨rfl, rfl, ?_, ?_⟩
  · intro id hid
    simp only [hasCaseCommand, hrows, List.any_append, Bool.or_eq_true]
    exact Or.inl hid
  · intro hkind
    simp only [hasCaseCommand, hrows, List.any_append, Bool.or_eq_true]
    refine Or.inr ?_
    simp only [List.any_cons, List.any_nil, Bool.or_false, Bool.and_eq_true,
      decide_eq_true_eq]
    exact ⟨hkind, rfl⟩

theorem CaseWritten.withCommand {c : SupportCase} {e : SupportCaseEvent}
    {command : ProviderCommandEnvelope} {now : Time} {db db₁ db' : Database}
    (h : CaseWritten db db₁ c e) (hmatch : caseCommandMismatch c e command = none)
    (hins : insertOutboxMessage command now db₁ = Except.ok ((), db')) :
    CaseWritten db db' c e ∧ hasCaseCommand db' c.caseId = true := by
  rcases insertOutboxMessage_commands hins with ⟨hcases, hoperations, hmono, hnew⟩
  have hqueued := (caseCommandMismatch_none hmatch now).right
  have haggregate : command.aggregateId = c.caseId := hqueued.aggregate
  refine ⟨⟨?_, h.before, ?_, ?_, ?_, ?_⟩, ?_⟩
  · rw [hcases]
    exact h.stored
  · rw [hcases]
    exact h.others
  · rw [hcases]
    exact h.events
  · rw [hoperations]
    exact h.operations
  · exact fun id hid => hmono id (h.commands id hid)
  · rw [← haggregate]
    exact hnew hqueued.kind

theorem createCaseWithEvent_written {scope : AccessScope} {c : SupportCase}
    {e : SupportCaseEvent} {db db' : Database}
    (h : createCaseWithEvent scope c e db = Except.ok ((), db')) :
    CaseWritten db db' c e ∧ db'.outbox = db.outbox := by
  simp only [createCaseWithEvent, Transaction.translate_eq_ok,
    Transaction.bind_eq_ok] at h
  rcases h with ⟨_, db₁, hvalid, _, db₂, hins, hev⟩
  rw [validateCaseOwnership_eq_ok hvalid] at hins
  exact insertCase_written hins hev

theorem createCaseWithEventAndCommand_written {scope : AccessScope} {c : SupportCase}
    {e : SupportCaseEvent} {command : ProviderCommandEnvelope} {db db' : Database}
    (h : createCaseWithEventAndCommand scope c e command db = Except.ok ((), db')) :
    CaseWritten db db' c e ∧ hasCaseCommand db' c.caseId = true := by
  simp only [createCaseWithEventAndCommand, Transaction.translate_eq_ok] at h
  cases hmatch : caseCommandMismatch c e command with
  | some message =>
      rw [hmatch] at h
      exact absurd h (by simp)
  | none =>
      simp only [hmatch, Transaction.bind_eq_ok] at h
      rcases h with ⟨_, db₁, hvalid, _, db₂, hins, _, db₃, hev, hout⟩
      rw [validateCaseOwnership_eq_ok hvalid] at hins
      exact (insertCase_written hins hev).left.withCommand hmatch hout

theorem writeCase_written {scope : AccessScope} {current updated : SupportCase}
    {e : SupportCaseEvent} {db db' : Database}
    (hget : db.cases.rows.get current.caseId = some current)
    (hchange : CaseUpdated current updated)
    (h : writeCase scope updated e current.version db = Except.ok ((), db')) :
    CaseWritten db db' updated e ∧ db'.outbox = db.outbox := by
  simp only [writeCase, Transaction.bind_eq_ok, Transaction.require_eq_ok,
    Prod.mk.injEq] at h
  rcases h with ⟨visible, db₁, hvisible, _, db₂, hup, _, _, ⟨rfl, _, rfl⟩, hins⟩
  have hsame := visibleCases_eq_ok hvisible
  subst hsame
  rcases updateCase_spec hup with ⟨row, hrow, _, hrows, hevents, htouch, _⟩
  have hwritten := insertCaseEvent_spec hins
  have hid : updated.caseId = current.caseId := caseId_of_frozen hchange.frozen
  rw [hid, hget] at hrow
  cases hrow
  rw [SupportCase.setFrom_eq hchange.frozen] at hrows
  have hboth := htouch.trans hwritten.touches
  have houtbox : db'.outbox = db₁.outbox := hboth.outbox (by simp)
  have hold : db₁.cases.rows.get updated.caseId = some current := by
    rw [hid]
    exact hget
  refine ⟨⟨?_, ?_, ?_, ?_, hboth.operations (by simp), ?_⟩, houtbox⟩
  · rw [hwritten.rows, hrows]
    exact Table.get_put_self hold
  · intro d hd
    rw [hold] at hd
    cases hd
    exact hchange.frozen
  · intro id hne
    rw [hwritten.rows, hrows]
    exact Table.get_put_ne hne
  · rw [hwritten.appended, hevents]
  · intro id hcommand
    rw [hasCaseCommand_of_outbox houtbox]
    exact hcommand

theorem updateCaseWithEvent_written {scope : AccessScope} {current updated : SupportCase}
    {e : SupportCaseEvent} {db db' : Database}
    (hget : db.cases.rows.get current.caseId = some current)
    (hchange : CaseUpdated current updated)
    (h : updateCaseWithEvent scope updated e current.version db = Except.ok ((), db')) :
    CaseWritten db db' updated e ∧ db'.outbox = db.outbox := by
  simp only [updateCaseWithEvent, Transaction.translate_eq_ok, Transaction.bind_eq_ok,
    Transaction.require_eq_ok, Prod.mk.injEq] at h
  rcases h with ⟨_, _, ⟨_, _, rfl⟩, _, db₁, hvalid, hw⟩
  rw [validateCaseOwnership_eq_ok hvalid] at hw
  exact writeCase_written hget hchange hw

theorem appendDeliveryTriggerAndEnsureCommand_written {scope : AccessScope}
    {current updated : SupportCase} {e : SupportCaseEvent}
    {command : ProviderCommandEnvelope} {queued : Bool} {db db' : Database}
    (hget : db.cases.rows.get current.caseId = some current)
    (hchange : CaseUpdated current updated)
    (h : appendDeliveryTriggerAndEnsureCommand scope updated e command current.version db
      = Except.ok (queued, db')) :
    CaseWritten db db' updated e ∧ hasCaseCommand db' updated.caseId = true := by
  simp only [appendDeliveryTriggerAndEnsureCommand, Transaction.translate_eq_ok,
    Transaction.bind_eq_ok, Transaction.require_eq_ok, Prod.mk.injEq] at h
  rcases h with ⟨_, _, ⟨_, _, rfl⟩, h⟩
  cases hmatch : caseCommandMismatch updated e command with
  | some message =>
      rw [hmatch] at h
      exact absurd h (by simp)
  | none =>
      simp only [hmatch, Transaction.bind_eq_ok, ensureCaseCommand,
        Transaction.read_eq_ok, Transaction.ite_eq_ok, Transaction.pure_eq_ok,
        Prod.mk.injEq] at h
      rcases h with ⟨_, db₁, hvalid, _, db₂, hw, _, _, ⟨hhas, rfl⟩, hensure⟩
      rw [validateCaseOwnership_eq_ok hvalid] at hw
      rcases writeCase_written hget hchange hw with ⟨hwritten, _⟩
      rcases hensure with ⟨hcommand, _, hdb⟩ | ⟨_, _, db₃, hins, _, hdb⟩
      · rw [← hdb]
        exact ⟨hwritten, by rw [hhas]; exact hcommand⟩
      · rw [← hdb]
        exact hwritten.withCommand hmatch hins

/-!
## Calls

A call that fails has written nothing; a call that returns has written one case
and one event.
-/

theorem createCase_unwritten (scope : AccessScope) (customerId : CleanText)
    (trigger : CaseTrigger) (decision : HandoffDecision) (caseType : CaseType)
    (priority : CasePriority) (now : Time) :
    Unwritten (createCase scope customerId trigger decision caseType priority now) := by
  refine Unwritten.bind freshId_quiet fun caseId => ?_
  refine Unwritten.bind (Quiet.require _ _) fun _ => ?_
  refine Unwritten.bind freshId_quiet fun eventId => ?_
  exact Unwritten.write _ _

theorem createDeliveryCaseWithCommand_unwritten (scope : AccessScope)
    (customerId : CleanText) (trigger : CaseTrigger) (decision : HandoffDecision)
    (priority : CasePriority) (issueType : DeliveryIssueType)
    (connectionId : CleanText) (now : Time) :
    Unwritten (createDeliveryCaseWithCommand scope customerId trigger decision priority
      issueType connectionId now) := by
  refine Unwritten.bind (Quiet.require _ _) fun _ => ?_
  refine Unwritten.bind freshId_quiet fun caseId => ?_
  refine Unwritten.bind (Quiet.require _ _) fun _ => ?_
  refine Unwritten.bind freshId_quiet fun eventId => ?_
  refine Unwritten.bind freshId_quiet fun commandId => ?_
  refine Unwritten.bind (Quiet.done _) fun command => ?_
  exact Unwritten.write _ _

theorem appendTrigger_unwritten (scope : AccessScope) (existing : SupportCase)
    (trigger : CaseTrigger) (decision : HandoffDecision) (priority : CasePriority)
    (metadata : Option CommandMetadata) (now : Time) :
    Unwritten (appendTrigger scope existing trigger decision priority metadata now) := by
  unfold appendTrigger
  refine Unwritten.bind (Quiet.require _ _) fun _ => ?_
  refine Unwritten.bind freshId_quiet fun eventId => ?_
  split
  · refine Unwritten.bind freshId_quiet fun commandId => ?_
    refine Unwritten.bind (Quiet.done _) fun command => ?_
    exact Unwritten.write _ _
  · exact Unwritten.write _ _

theorem createCase_run_ok {scope : AccessScope} {customerId : CleanText}
    {trigger : CaseTrigger} {decision : HandoffDecision} {caseType : CaseType}
    {priority : CasePriority} {now : Time} {db db' : Database}
    {result : CaseServiceResult}
    (h : (createCase scope customerId trigger decision caseType priority now).run db =
      (Except.ok result, db')) :
    exists caseId e, result.case = some (newCase scope customerId trigger caseType
        priority decision.reasonCodes caseId now) ∧
      CaseWritten db db' (newCase scope customerId trigger caseType priority
        decision.reasonCodes caseId now) e ∧ db'.outbox = db.outbox := by
  unfold createCase at h
  rcases run_freshId_bind h with ⟨caseId, db₁, hsame₁, h₁⟩
  rcases Program.run_require_bind h₁ with ⟨_, h₂⟩
  rcases run_freshId_bind h₂ with ⟨eventId, db₂, hsame₂, h₃⟩
  rcases Program.run_perform_bind h₃ with ⟨_, db₃, htx, h₄⟩
  cases h₄
  have hsame := hsame₁.trans hsame₂
  rcases createCaseWithEvent_written htx with ⟨hwritten, houtbox⟩
  exact ⟨caseId, _, rfl, hwritten.after hsame, houtbox.trans hsame.outbox⟩

theorem createDeliveryCaseWithCommand_run_ok {scope : AccessScope}
    {customerId : CleanText} {trigger : CaseTrigger} {decision : HandoffDecision}
    {priority : CasePriority} {issueType : DeliveryIssueType} {connectionId : CleanText}
    {now : Time} {db db' : Database} {result : CaseServiceResult}
    (h : (createDeliveryCaseWithCommand scope customerId trigger decision priority
      issueType connectionId now).run db = (Except.ok result, db')) :
    exists caseId e, result.case = some (newCase scope customerId trigger
        CaseType.deliveryInvestigation priority decision.reasonCodes caseId now) ∧
      CaseWritten db db' (newCase scope customerId trigger CaseType.deliveryInvestigation
        priority decision.reasonCodes caseId now) e ∧
      hasCaseCommand db' caseId = true := by
  unfold createDeliveryCaseWithCommand at h
  rcases Program.run_require_bind h with ⟨_, h₁⟩
  rcases run_freshId_bind h₁ with ⟨caseId, db₁, hsame₁, h₂⟩
  rcases Program.run_require_bind h₂ with ⟨_, h₃⟩
  rcases run_freshId_bind h₃ with ⟨eventId, db₂, hsame₂, h₄⟩
  rcases run_freshId_bind h₄ with ⟨commandId, db₃, hsame₃, h₅⟩
  rcases Program.run_done_bind h₅ with ⟨command, _, h₆⟩
  rcases Program.run_perform_bind h₆ with ⟨_, db₄, htx, h₇⟩
  cases h₇
  have hsame := (hsame₁.trans hsame₂).trans hsame₃
  rcases createCaseWithEventAndCommand_written htx with ⟨hwritten, hcommand⟩
  exact ⟨caseId, _, rfl, hwritten.after hsame, hcommand⟩

theorem appendTrigger_run_ok {scope : AccessScope} {existing : SupportCase}
    {trigger : CaseTrigger} {decision : HandoffDecision} {priority : CasePriority}
    {metadata : Option CommandMetadata} {now : Time} {db db' : Database}
    {result : CaseServiceResult}
    (hget : db.cases.rows.get existing.caseId = some existing)
    (h : (appendTrigger scope existing trigger decision priority metadata now).run db =
      (Except.ok result, db')) :
    exists e, result.case = some (existing.withTrigger trigger decision priority now) ∧
      CaseWritten db db' (existing.withTrigger trigger decision priority now) e ∧
      (metadata = none -> db'.outbox = db.outbox) ∧
      (existing.caseType = CaseType.deliveryInvestigation -> metadata.isSome = true ->
        hasCaseCommand db' existing.caseId = true) := by
  unfold appendTrigger at h
  rcases Program.run_require_bind h with ⟨_, h₁⟩
  rcases run_freshId_bind h₁ with ⟨eventId, db₁, hsame₁, h₂⟩
  have hchange := withTrigger_updated existing trigger decision priority now
  split at h₂
  · rename_i m hkind
    rcases run_freshId_bind h₂ with ⟨commandId, db₂, hsame₂, h₃⟩
    rcases Program.run_done_bind h₃ with ⟨command, _, h₄⟩
    rcases Program.run_perform_bind h₄ with ⟨_, db₃, htx, h₅⟩
    cases h₅
    have hsame := hsame₁.trans hsame₂
    have hrow : db₂.cases.rows.get existing.caseId = some existing := by
      rw [hsame.cases]
      exact hget
    rcases appendDeliveryTriggerAndEnsureCommand_written hrow hchange htx with
      ⟨hwritten, hcommand⟩
    exact ⟨_, rfl, hwritten.after hsame, by simp, fun _ _ => hcommand⟩
  · rename_i hplain
    rcases Program.run_perform_bind h₂ with ⟨_, db₂, htx, h₃⟩
    cases h₃
    have hrow : db₁.cases.rows.get existing.caseId = some existing := by
      rw [hsame₁.cases]
      exact hget
    rcases updateCaseWithEvent_written hrow hchange htx with ⟨hwritten, houtbox⟩
    refine ⟨_, rfl, hwritten.after hsame₁, fun _ => houtbox.trans hsame₁.outbox, ?_⟩
    intro hkind hsome
    rcases Option.isSome_iff_exists.mp hsome with ⟨m, hm⟩
    exact absurd hm (hplain m hkind)

end RefundAgent
