import RefundAgent.System.Delivery
import RefundAgent.System.Requests

/-!
# Requests about a case act at one point

A handoff, a delivery investigation, a status change and an assignment: what each does if
it is served in one step, and that every run of the four methods is such a step or an
answer that changes nothing.
-/

namespace RefundAgent

open Foundation

inductive CaseRequest where
  | handoff (trigger : CaseTrigger) (decision : HandoffDecision)
  | delivery (trigger : CaseTrigger) (decision : HandoffDecision)
      (issueType : DeliveryIssueType) (connectionId : String)
  | status (caseId : UUID) (targetStatus : CaseStatus) (requestId : String)
      (onHoldReason : Option OnHoldReason)
  | assign (directory : IdentityDirectory) (caseId : UUID) (agentId requestId : String)

/-- The method that serves the request. -/
def CaseRequest.call (scope : AccessScope) (clock : Nat -> Time) :
    CaseRequest -> Call CaseServiceResult
  | handoff trigger decision => recordHandoff scope trigger decision clock
  | delivery trigger decision issueType connectionId =>
      recordDeliveryInvestigation scope trigger decision issueType connectionId clock
  | status caseId targetStatus requestId onHoldReason =>
      changeStatus scope caseId targetStatus requestId onHoldReason clock
  | assign directory caseId agentId requestId =>
      assignCase scope directory caseId agentId requestId clock

/-!
## One step
-/

/-- The case is stored, and the scope may look at it. -/
structure Sees (scope : AccessScope) (db : Database) (c : SupportCase) : Prop where
  stored : db.cases.rows.get c.caseId = some c
  visible : exists p, caseVisibility scope = Except.ok p ∧ p c = true

/-- Besides the case, one event is written and possibly a command, and nothing else. -/
structure Logs (event : SupportCaseEvent) (command : Option OutboxMessage)
    (db db' : Database) : Prop where
  events : db'.cases.events.rows = db.cases.events.rows ++ [event]
  unused : forall d, d ∈ db.cases.events.rows -> d.idempotencyKey ≠ event.idempotencyKey
  messages : db'.outbox.messages.rows = db.outbox.messages.rows ++ command.toList
  attempts : db'.outbox.attempts = db.outbox.attempts
  redrives : db'.outbox.redrives = db.outbox.redrives
  operations : db'.operations = db.operations
  inbox : db'.inbox = db.inbox
  refunds : db'.refunds = db.refunds

/-- A new case, where no unresolved case has its place. -/
structure Opens (case : SupportCase) (event : SupportCaseEvent)
    (command : Option OutboxMessage) (db db' : Database) : Prop extends
    Logs event command db db' where
  fresh : db.cases.rows.get case.caseId = none
  admitted : CaseAdmitted db case
  rows : db'.cases.rows.rows = db.cases.rows.rows ++ [case]

structure Updates (scope : AccessScope) (current case : SupportCase)
    (event : SupportCaseEvent) (command : Option OutboxMessage) (db db' : Database) :
    Prop extends Logs event command db db' where
  sees : Sees scope db current
  admitted : CaseAdmitted db case
  rows : db'.cases.rows = db.cases.rows.put case

/-- The command of a delivery investigation, unless the case has had one. -/
def Queues (metadata : Option CommandMetadata) (case : SupportCase) (had : Bool)
    (command : Option OutboxMessage) : Prop :=
  match metadata with
  | none => command = none
  | some m =>
      if had then command = none
      else exists commandId envelope,
        deliveryCommand case m.issueType m.connectionId commandId = Except.ok envelope ∧
        command = some (outboxRow envelope case.updatedAt)

section Step

variable (scope : AccessScope) (clock : Nat -> Time)

/-- A message is recorded: on a new case, or on the unresolved case of its kind. -/
def TriggerDone (trigger : CaseTrigger) (decision : HandoffDecision) (caseType : CaseType)
    (metadata : Option CommandMetadata) (result : CaseServiceResult) (db db' : Database) :
    Prop :=
  exists customerId priority n, scope.customerId = some customerId ∧
    decision.shouldCreateCase = true ∧ decision.caseType = some caseType ∧
    decision.priority = some priority ∧
    ((exists caseId eventId case event command,
        case = newCase scope customerId trigger caseType priority decision.reasonCodes
          caseId (clock n) ∧
        event = triggerEvent case trigger decision.reasonCodes eventId
          CaseEventType.caseCreated none priority (clock n) ∧
        result = ⟨CaseServiceAction.created, some case, some event⟩ ∧
        Queues metadata case false command ∧ Opens case event command db db') ∨
      (exists existing eventId case event command, existing.threadId = trigger.threadId ∧
        existing.caseType = caseType ∧ existing.unresolved = true ∧
        (caseType = CaseType.deliveryInvestigation ->
          existing.orderId = trigger.orderId) ∧
        case = existing.withTrigger trigger decision priority (clock n) ∧
        event = triggerEvent existing trigger decision.reasonCodes eventId
          CaseEventType.triggerAppended (some existing.priority) case.priority (clock n) ∧
        result = ⟨CaseServiceAction.eventAppended, some case, some event⟩ ∧
        Queues metadata case (hasCaseCommand db case.caseId) command ∧
        Updates scope existing case event command db db'))

/-- The message is already on record in a case of the thread. -/
def TriggerKnown (trigger : CaseTrigger) (result : CaseServiceResult) (db : Database) :
    Prop :=
  exists c e, result = ⟨CaseServiceAction.duplicateIgnored, some c, none⟩ ∧
    Sees scope db c ∧ c.threadId = trigger.threadId ∧ e ∈ db.cases.events.rows ∧
    e.sourceMessageId = some trigger.sourceMessageId ∧ e.caseId = c.caseId

/-- The event that an earlier request of the tenant has left under a key. -/
def tenantEvent (key : String) (db : Database) : Option SupportCaseEvent :=
  db.cases.events.rows.find? fun e =>
    decide (e.tenantId = scope.tenantId) && decide (e.idempotencyKey = key)

/-- The case is as the request wants it, or the request is on record for it. -/
def CaseAsAsked (caseId : UUID) (key : String) (done : SupportCase -> Prop)
    (result : CaseServiceResult) (db : Database) : Prop :=
  exists c, result = caseUnchanged c ∧ Sees scope db c ∧
    ((c.caseId = caseId ∧ done c) ∨
      exists e, tenantEvent scope key db = some e ∧ c.caseId = e.caseId)

def statusKey (caseId : UUID) (requestId : String) : String :=
  "status:" ++ toString caseId ++ ":" ++ Text.strip requestId

def assignKey (caseId : UUID) (requestId : String) : String :=
  "assign:" ++ toString caseId ++ ":" ++ Text.strip requestId

def StatusDone (caseId : UUID) (targetStatus : CaseStatus) (requestId : String)
    (onHoldReason : Option OnHoldReason) (result : CaseServiceResult) (db db' : Database) :
    Prop :=
  exists current n eventId case event, current.caseId = caseId ∧
    targetStatus ∈ allowedCaseStatusTransitions current.status ∧
    (targetStatus = CaseStatus.onHold ↔ onHoldReason.isSome = true) ∧
    case = current.withStatus targetStatus onHoldReason (clock n) ∧
    event = caseStatusEvent current targetStatus onHoldReason eventId
      (statusKey caseId requestId) scope.identity (clock n) ∧
    result = ⟨CaseServiceAction.statusChanged, some case, some event⟩ ∧
    Updates scope current case event none db db'

def AssignDone (directory : IdentityDirectory) (caseId : UUID) (agentId requestId : String)
    (result : CaseServiceResult) (db db' : Database) : Prop :=
  exists agent current n eventId case event,
    validateAgentId agentId = Except.ok agent ∧
    requireAssignmentTarget directory scope.tenantId agent = Except.ok () ∧
    current.caseId = caseId ∧ current.assignedAgentId ≠ some agent ∧
    case = current.withAgent agent (clock n) ∧
    event = assignedEvent current agent eventId (assignKey caseId requestId)
      scope.identity (clock n) ∧
    result = ⟨CaseServiceAction.assigned, some case, some event⟩ ∧
    Updates scope current case event none db db'

namespace CaseRequest

/-- The request is served here and now. -/
def DoneAt (result : CaseServiceResult) (db db' : Database) : CaseRequest -> Prop
  | handoff trigger decision => exists caseType,
      TriggerDone scope clock trigger decision caseType none result db db'
  | delivery trigger decision issueType connectionId => exists connection,
      CleanText.parse? (Text.strip connectionId) = some connection ∧
      TriggerDone scope clock trigger decision CaseType.deliveryInvestigation
        (some ⟨issueType, connection⟩) result db db'
  | status caseId targetStatus requestId onHoldReason =>
      (scope.hasPermission Permission.casesUpdateAssigned = true ∨
        scope.hasPermission Permission.casesUpdateAll = true) ∧
      StatusDone scope clock caseId targetStatus requestId onHoldReason result db db'
  | assign directory caseId agentId requestId =>
      scope.hasPermission Permission.casesAssign = true ∧
      AssignDone scope clock directory caseId agentId requestId result db db'

/-- There is nothing to do here and now. -/
def AnsweredAt (result : CaseServiceResult) (db : Database) : CaseRequest -> Prop
  | handoff trigger decision =>
      (decision.shouldCreateCase = false ∧
        result = ⟨CaseServiceAction.notCreated, none, none⟩) ∨
      TriggerKnown scope trigger result db
  | delivery trigger _ _ _ => TriggerKnown scope trigger result db
  | status caseId targetStatus requestId _ =>
      CaseAsAsked scope caseId (statusKey caseId requestId)
        (fun c => c.status = targetStatus) result db
  | assign _ caseId agentId requestId => exists agent,
      validateAgentId agentId = Except.ok agent ∧
      CaseAsAsked scope caseId (assignKey caseId requestId)
        (fun c => c.assignedAgentId = some agent) result db

end CaseRequest

end Step

/-!
## Reading
-/

section Reads

variable {scope : AccessScope} {db : Database}

theorem visibleCases_visibility {db' : Database} {p : SupportCase -> Bool}
    (h : visibleCases scope db = Except.ok (p, db')) :
    caseVisibility scope = Except.ok p ∧ db' = db := by
  unfold visibleCases at h
  cases hv : caseVisibility scope with
  | error e =>
      rw [hv] at h
      exact absurd h (by simp)
  | ok q =>
      simp only [hv, Transaction.pure_eq_ok, Prod.mk.injEq] at h
      exact ⟨congrArg Except.ok h.left, h.right.symm⟩

theorem Sees.of_get {p : SupportCase -> Bool} (hp : caseVisibility scope = Except.ok p)
    {id : UUID} {c : SupportCase} (h : (db.cases.rows.get id).filter p = some c) :
    c.caseId = id ∧ Sees scope db c := by
  rw [Option.filter_eq_some_iff] at h
  have hid : c.caseId = id := Table.get_key h.left
  refine ⟨hid, ?_, p, hp, h.right⟩
  rw [hid]
  exact h.left

theorem Sees.again {s t : Database} {c row : SupportCase} (h : Sees scope s c)
    (hst : Since s t) (hget : t.cases.rows.get c.caseId = some row)
    (hversion : row.version = c.version) : row = c ∧ Sees scope t c := by
  rcases hst.later.cases _ c h.stored with ⟨row', hget', _, _, hsame⟩
  rw [hget] at hget'
  cases hget'
  have hrow := hsame hversion
  rw [hrow] at hget
  exact ⟨hrow, hget, h.visible⟩

theorem findCase_looks {caseId : UUID} :
    Looks (Program.perform (findCase scope caseId)) db fun found t =>
      forall c, found = some c -> c.caseId = caseId ∧ Sees scope t c := by
  apply Atomic.look
  intro t _ _ found u hu
  simp only [findCase, Transaction.bind_eq_ok] at hu
  rcases hu with ⟨p, t₁, hvisible, hfetch⟩
  rcases visibleCases_visibility hvisible with ⟨hp, rfl⟩
  rcases fetchCase_eq_ok hfetch with ⟨rfl, hfound⟩
  exact ⟨rfl, fun c hc => Sees.of_get hp (hfound c hc)⟩

theorem getCaseOrRaise_looks {caseId : UUID} :
    Looks (getCaseOrRaise scope caseId) db fun c t => c.caseId = caseId ∧ Sees scope t c := by
  apply Atomic.bind findCase_looks
  intro found t _ hfound
  cases found with
  | none => exact Atomic.raise
  | some c => exact Atomic.pure (hfound c rfl)

theorem findCaseEvent_looks {key : String} :
    Looks (Program.perform (findCaseEventByIdempotencyKey scope key)) db fun found t =>
      found = tenantEvent scope key t := by
  apply Atomic.look
  intro t _ _ found u hu
  simp only [findCaseEventByIdempotencyKey, Transaction.read_eq_ok, Prod.mk.injEq] at hu
  rcases hu with ⟨hfound, rfl⟩
  exact ⟨rfl, hfound.symm⟩

theorem tenantEvent_since {key : String} {s t : Database} {e : SupportCaseEvent}
    (hst : Since s t) (h : tenantEvent scope key s = some e) :
    tenantEvent scope key t = some e := by
  rcases hst.caseEvents with ⟨more, hmore⟩
  unfold tenantEvent at h ⊢
  rw [hmore, List.find?_append, h]
  rfl

theorem findCaseBySourceMessage_looks {trigger : CaseTrigger} :
    Looks (Program.perform (findCaseBySourceMessage scope trigger.threadId
      trigger.sourceMessageId)) db fun found t => forall c, found = some c ->
        TriggerKnown scope trigger ⟨CaseServiceAction.duplicateIgnored, some c, none⟩ t := by
  apply Atomic.look
  intro t _ _ found u hu
  simp only [findCaseBySourceMessage, Transaction.bind_eq_ok] at hu
  rcases hu with ⟨p, t₁, hvisible, hfetch⟩
  rcases visibleCases_visibility hvisible with ⟨hp, rfl⟩
  rcases fetchCase_eq_ok hfetch with ⟨rfl, hfound⟩
  refine ⟨rfl, fun c hc => ?_⟩
  have hquery := hfound c hc
  rw [Option.map_eq_some_iff] at hquery
  rcases hquery with ⟨⟨e, c'⟩, hhead, rfl⟩
  have hmem := List.mem_of_mem_head? hhead
  rw [List.mem_insertionSort, List.mem_filterMap] at hmem
  rcases hmem with ⟨e', he', hfilter⟩
  rw [Option.map_eq_some_iff] at hfilter
  rcases hfilter with ⟨c'', hget, hpair⟩
  cases hpair
  rw [Option.filter_eq_some_iff] at hget
  rw [Table.mem_select] at he'
  simp only [Bool.and_eq_true, decide_eq_true_eq] at hget he'
  have hid : c'.caseId = e.caseId := Table.get_key hget.left
  refine ⟨c', e, rfl, ⟨?_, p, hp, hget.right.right⟩, hget.right.left, he'.left, he'.right,
    hid.symm⟩
  rw [hid]
  exact hget.left

theorem findUnresolvedCase_looks {threadId : CleanText} {caseType : CaseType}
    {orderId : Option TrimmedText} :
    Looks (Program.perform (findUnresolvedCase scope threadId caseType orderId)) db
      fun found t => forall c, found = some c -> Sees scope t c ∧ c.threadId = threadId ∧
        c.caseType = caseType ∧ c.unresolved = true ∧
        (caseType = CaseType.deliveryInvestigation -> c.orderId = orderId) := by
  have hsees : forall {t : Database} {p : SupportCase -> Bool} {f : SupportCase -> Bool}
      {c : SupportCase}, caseVisibility scope = Except.ok p ->
      (forall c, f c = true -> p c = true) -> t.cases.rows.rows.find? f = some c ->
      Sees scope t c := by
    intro t p f c hp hf hfind
    exact ⟨Table.get_of_mem (List.mem_of_find?_eq_some hfind), p, hp,
      hf c (List.find?_some hfind)⟩
  apply Atomic.look
  intro t _ _ found u hu
  simp only [findUnresolvedCase, Transaction.bind_eq_ok, Transaction.ite_eq_ok,
    Transaction.require_eq_ok, Prod.mk.injEq] at hu
  rcases hu with ⟨p, t₁, hvisible, ⟨hkind, _, _, ⟨_, _, rfl⟩, hfetch⟩ | ⟨hkind, hfetch⟩⟩
  · rcases visibleCases_visibility hvisible with ⟨hp, rfl⟩
    rcases fetchCase_eq_ok hfetch with ⟨rfl, hfound⟩
    refine ⟨rfl, fun c hc => ?_⟩
    have hquery := hfound c hc
    have hmatch := List.find?_some hquery
    simp only [Bool.and_eq_true, decide_eq_true_eq] at hmatch
    refine ⟨hsees hp ?_ hquery, hmatch.left.left.left.left, hmatch.left.left.left.right,
      hmatch.left.right, fun _ => hmatch.left.left.right⟩
    intro d hd
    simp only [Bool.and_eq_true] at hd
    exact hd.right
  · rcases visibleCases_visibility hvisible with ⟨hp, rfl⟩
    rcases fetchCase_eq_ok hfetch with ⟨rfl, hfound⟩
    refine ⟨rfl, fun c hc => ?_⟩
    have hquery := hfound c hc
    have hmatch := List.find?_some hquery
    simp only [Bool.and_eq_true, decide_eq_true_eq] at hmatch
    refine ⟨hsees hp ?_ hquery, hmatch.left.left.left, hmatch.left.left.right,
      hmatch.left.right, fun hdelivery => absurd hdelivery hkind⟩
    intro d hd
    simp only [Bool.and_eq_true] at hd
    exact hd.right

end Reads

/-!
## Writing
-/

section Writes

variable {scope : AccessScope} {s t u : Database} {current case : SupportCase}
  {event : SupportCaseEvent}

theorem Logs.of_touches {db db₁ : Database} (hold : db₁.cases.events = t.cases.events)
    (htouch : Touches Group.cases t db₁)
    (hevents : CaseEventsWritten [event] db₁ db) : Logs event none t db := by
  have hboth := htouch.trans hevents.touches
  constructor
  · rw [hevents.appended, hold]
  · intro d hd
    rw [← hold] at hd
    exact hevents.unused event List.mem_cons_self d hd
  · rw [hboth.outbox (by simp)]
    exact (List.append_nil _).symm
  · rw [hboth.outbox (by simp)]
  · rw [hboth.outbox (by simp)]
  · exact hboth.operations (by simp)
  · exact hboth.inbox (by simp)
  · exact hboth.refunds

theorem Logs.queue {envelope : ProviderCommandEnvelope} {now : Time}
    (h : Logs event none s t)
    (hins : insertOutboxMessage envelope now t = Except.ok ((), u)) :
    Logs event (some (outboxRow envelope now)) s u ∧ u.cases = t.cases := by
  rcases insertOutboxRow_eq_ok hins with ⟨messages, hmessages, hu⟩
  have hrows := (Table.insert?_eq_some.mp hmessages).right
  have hold := h.messages
  rw [Option.toList_none, List.append_nil] at hold
  have hu : u = { t with outbox := { t.outbox with messages := messages } } := hu
  subst hu
  refine ⟨⟨h.events, h.unused, ?_, h.attempts, h.redrives, h.operations, h.inbox,
    h.refunds⟩, rfl⟩
  show messages.rows = _
  rw [hrows, hold]
  rfl

theorem createCase_opens {db₁ : Database} (hins : insertCase case t = Except.ok ((), db₁))
    (hev : insertCaseEvent event db₁ = Except.ok ((), u)) : Opens case event none t u := by
  rcases insertCase_spec hins with ⟨hrows, hold, htouch, hadmitted⟩
  have hevents := insertCaseEvent_spec hev
  have hinsert := Table.insert?_eq_some.mp hrows
  refine ⟨Logs.of_touches hold htouch hevents, hinsert.left, hadmitted, ?_⟩
  rw [hevents.rows]
  exact hinsert.right

theorem createCaseWithEvent_opens
    (h : createCaseWithEvent scope case event t = Except.ok ((), u)) :
    Opens case event none t u := by
  simp only [createCaseWithEvent, Transaction.translate_eq_ok, Transaction.bind_eq_ok] at h
  rcases h with ⟨_, t₁, hvalid, _, t₂, hins, hev⟩
  cases validateCaseOwnership_eq_ok hvalid
  exact createCase_opens hins hev

theorem createCaseWithEventAndCommand_opens {envelope : ProviderCommandEnvelope}
    (h : createCaseWithEventAndCommand scope case event envelope t = Except.ok ((), u)) :
    Opens case event (some (outboxRow envelope case.updatedAt)) t u := by
  simp only [createCaseWithEventAndCommand, Transaction.translate_eq_ok] at h
  cases hmatch : caseCommandMismatch case event envelope with
  | some message =>
      rw [hmatch] at h
      exact absurd h (by simp)
  | none =>
      simp only [hmatch, Transaction.bind_eq_ok] at h
      rcases h with ⟨_, t₁, hvalid, _, t₂, hins, _, t₃, hev, hout⟩
      cases validateCaseOwnership_eq_ok hvalid
      have hopens := createCase_opens hins hev
      rcases hopens.toLogs.queue hout with ⟨hlogs, hcases⟩
      refine ⟨hlogs, hopens.fresh, hopens.admitted, ?_⟩
      rw [hcases]
      exact hopens.rows

theorem writeCase_updates (hsees : Sees scope s current) (hst : Since s t)
    (hchange : CaseUpdated current case)
    (h : writeCase scope case event current.version t = Except.ok ((), u)) :
    Updates scope current case event none t u := by
  simp only [writeCase, Transaction.bind_eq_ok, Transaction.require_eq_ok,
    Prod.mk.injEq] at h
  rcases h with ⟨visible, t₁, hvisible, _, t₂, hup, _, _, ⟨rfl, _, rfl⟩, hins⟩
  cases visibleCases_eq_ok hvisible
  rcases updateCase_spec hup with ⟨row, hget, hp, hrows, hold, htouch, hadmitted⟩
  have hevents := insertCaseEvent_spec hins
  simp only [Bool.and_eq_true, decide_eq_true_eq] at hp
  rw [caseId_of_frozen hchange.frozen] at hget
  rcases hsees.again hst hget hp.left with ⟨rfl, hnow⟩
  rw [SupportCase.setFrom_eq hchange.frozen] at hrows hadmitted
  refine ⟨Logs.of_touches hold htouch hevents, hnow, hadmitted, ?_⟩
  rw [hevents.rows, hrows]

theorem updateCaseWithEvent_updates (hsees : Sees scope s current) (hst : Since s t)
    (hchange : CaseUpdated current case)
    (h : updateCaseWithEvent scope case event current.version t = Except.ok ((), u)) :
    Updates scope current case event none t u := by
  simp only [updateCaseWithEvent, Transaction.translate_eq_ok, Transaction.bind_eq_ok,
    Transaction.require_eq_ok, Prod.mk.injEq] at h
  rcases h with ⟨_, _, ⟨_, _, rfl⟩, _, t₁, hvalid, hwrite⟩
  cases validateCaseOwnership_eq_ok hvalid
  exact writeCase_updates hsees hst hchange hwrite

theorem appendDeliveryTriggerAndEnsureCommand_updates {envelope : ProviderCommandEnvelope}
    {queued : Bool} (hsees : Sees scope s current) (hst : Since s t)
    (hchange : CaseUpdated current case)
    (h : appendDeliveryTriggerAndEnsureCommand scope case event envelope current.version t =
      Except.ok (queued, u)) :
    Updates scope current case event
      (if hasCaseCommand t case.caseId then none
        else some (outboxRow envelope case.updatedAt)) t u := by
  simp only [appendDeliveryTriggerAndEnsureCommand, Transaction.translate_eq_ok,
    Transaction.bind_eq_ok, Transaction.require_eq_ok, Prod.mk.injEq] at h
  rcases h with ⟨_, _, ⟨_, _, rfl⟩, h⟩
  cases hmatch : caseCommandMismatch case event envelope with
  | some message =>
      rw [hmatch] at h
      exact absurd h (by simp)
  | none =>
      simp only [hmatch, Transaction.bind_eq_ok, ensureCaseCommand,
        Transaction.read_eq_ok, Transaction.ite_eq_ok, Transaction.pure_eq_ok,
        Prod.mk.injEq] at h
      rcases h with ⟨_, t₁, hvalid, _, t₂, hwrite, had, _, ⟨hhad, rfl⟩, hensure⟩
      cases validateCaseOwnership_eq_ok hvalid
      have hupdates := writeCase_updates hsees hst hchange hwrite
      have hsame : hasCaseCommand t₂ case.caseId = hasCaseCommand t case.caseId := by
        unfold hasCaseCommand
        rw [hupdates.messages, Option.toList_none, List.append_nil]
      rw [← hsame, hhad]
      rcases hensure with ⟨hcommand, _, rfl⟩ | ⟨hcommand, _, t₃, hins, _, rfl⟩
      · rw [if_pos hcommand]
        exact hupdates
      · rw [if_neg hcommand]
        rcases hupdates.toLogs.queue hins with ⟨hlogs, hcases⟩
        refine ⟨hlogs, hupdates.sees, hupdates.admitted, ?_⟩
        rw [hcases]
        exact hupdates.rows

end Writes

/-!
## Handoffs
-/

section Handoffs

variable {scope : AccessScope} {clock : Nat -> Time} {trigger : CaseTrigger}
  {decision : HandoffDecision} {caseType : CaseType} {priority : CasePriority}
  {customerId : CleanText} {N : CaseServiceResult -> Database -> Prop}

structure Called (scope : AccessScope) (decision : HandoffDecision)
    (customerId : CleanText) (caseType : CaseType) (priority : CasePriority) : Prop where
  customer : scope.customerId = some customerId
  positive : decision.shouldCreateCase = true
  kind : decision.caseType = some caseType
  urgency : decision.priority = some priority

theorem createCase_atomic (h : Called scope decision customerId caseType priority) (n : Nat)
    (db : Database) :
    Atomic (createCase scope customerId trigger decision caseType priority (clock n)) db N
      (TriggerDone scope clock trigger decision caseType none) := by
  apply Atomic.draw
  intro caseId t₁ _
  apply Atomic.require
  intro _
  apply Atomic.draw
  intro eventId t₂ _
  apply Atomic.write
  intro t _ _ b u hu
  exact ⟨customerId, priority, n, h.customer, h.positive, h.kind, h.urgency,
    Or.inl ⟨caseId, eventId, _, _, none, rfl, rfl, rfl, rfl, createCaseWithEvent_opens hu⟩⟩

theorem createDeliveryCaseWithCommand_atomic {issueType : DeliveryIssueType}
    {connection : CleanText}
    (h : Called scope decision customerId CaseType.deliveryInvestigation priority) (n : Nat)
    (db : Database) :
    Atomic (createDeliveryCaseWithCommand scope customerId trigger decision priority
      issueType connection (clock n)) db N
      (TriggerDone scope clock trigger decision CaseType.deliveryInvestigation
        (some ⟨issueType, connection⟩)) := by
  apply Atomic.require
  intro _
  apply Atomic.draw
  intro caseId t₁ _
  apply Atomic.require
  intro _
  apply Atomic.draw
  intro eventId t₂ _
  apply Atomic.draw
  intro commandId t₃ _
  apply Atomic.compute
  intro envelope henvelope
  apply Atomic.write
  intro t _ _ b u hu
  exact ⟨customerId, priority, n, h.customer, h.positive, h.kind, h.urgency,
    Or.inl ⟨caseId, eventId, _, _, _, rfl, rfl, rfl, ⟨commandId, envelope, henvelope, rfl⟩,
      createCaseWithEventAndCommand_opens hu⟩⟩

structure FoundOpen (scope : AccessScope) (trigger : CaseTrigger) (caseType : CaseType)
    (db : Database) (c : SupportCase) : Prop where
  sees : Sees scope db c
  thread : c.threadId = trigger.threadId
  kind : c.caseType = caseType
  unresolved : c.unresolved = true
  order : caseType = CaseType.deliveryInvestigation -> c.orderId = trigger.orderId

theorem appendTrigger_atomic {metadata : Option CommandMetadata} {existing : SupportCase}
    (h : Called scope decision customerId caseType priority) {s db : Database}
    (hfound : FoundOpen scope trigger caseType s existing) (hsdb : Since s db)
    (hmetadata : metadata ≠ none -> caseType = CaseType.deliveryInvestigation) (n : Nat) :
    Atomic (appendTrigger scope existing trigger decision priority metadata (clock n)) db N
      (TriggerDone scope clock trigger decision caseType metadata) := by
  have hchange := withTrigger_updated existing trigger decision priority (clock n)
  have hdone : forall {eventId : UUID} {command : Option OutboxMessage} {t u : Database},
      Queues metadata (existing.withTrigger trigger decision priority (clock n))
        (hasCaseCommand t existing.caseId) command ->
      Updates scope existing (existing.withTrigger trigger decision priority (clock n))
        (triggerEvent existing trigger decision.reasonCodes eventId
          CaseEventType.triggerAppended (some existing.priority)
          (existing.withTrigger trigger decision priority (clock n)).priority (clock n))
        command t u ->
      TriggerDone scope clock trigger decision caseType metadata
        ⟨CaseServiceAction.eventAppended,
          some (existing.withTrigger trigger decision priority (clock n)),
          some (triggerEvent existing trigger decision.reasonCodes eventId
            CaseEventType.triggerAppended (some existing.priority)
            (existing.withTrigger trigger decision priority (clock n)).priority (clock n))⟩
        t u := by
    intro eventId command t u hqueues hupdates
    exact ⟨customerId, priority, n, h.customer, h.positive, h.kind, h.urgency,
      Or.inr ⟨existing, eventId, _, _, command, hfound.thread, hfound.kind,
        hfound.unresolved, hfound.order, rfl, rfl, rfl, hqueues, hupdates⟩⟩
  unfold appendTrigger
  apply Atomic.require
  intro _
  apply Atomic.draw
  intro eventId t₁ hdbt₁
  split
  · rename_i m hkind
    apply Atomic.draw
    intro commandId t₂ ht₁t₂
    apply Atomic.compute
    intro envelope henvelope
    apply Atomic.write
    intro t ht₂t _ queued u hu
    have hupdates := appendDeliveryTriggerAndEnsureCommand_updates hfound.sees
      (((hsdb.trans hdbt₁).trans ht₁t₂).trans ht₂t) hchange hu
    refine hdone ?_ hupdates
    show if hasCaseCommand t existing.caseId = true then _ else _
    by_cases hhad : hasCaseCommand t existing.caseId = true
    · rw [if_pos hhad]
      exact if_pos hhad
    · rw [if_neg hhad]
      exact ⟨commandId, envelope, henvelope, if_neg hhad⟩
  · rename_i metadata _ _ hplain
    apply Atomic.write
    intro t ht₁t _ b u hu
    have hnone : metadata = none := by
      by_contra hsome
      rcases Option.ne_none_iff_exists'.mp hsome with ⟨m, hm⟩
      exact hplain m (hfound.kind.trans (hmetadata hsome)) hm
    refine hdone ?_ (updateCaseWithEvent_updates hfound.sees
      ((hsdb.trans hdbt₁).trans ht₁t) hchange hu)
    rw [hnone]
    rfl

theorem handoffAttempts_atomic {S : CaseServiceResult -> Database -> Database -> Prop}
    {create : Time -> Call CaseServiceResult}
    {append : SupportCase -> Time -> Call CaseServiceResult} {failure : String}
    (hknown : forall t c,
      TriggerKnown scope trigger ⟨CaseServiceAction.duplicateIgnored, some c, none⟩ t ->
      N ⟨CaseServiceAction.duplicateIgnored, some c, none⟩ t)
    (hcreate : forall n db, Atomic (create (clock n)) db N S)
    (happend : forall n s existing, FoundOpen scope trigger caseType s existing ->
      Atomic (append existing (clock n)) s N S) (n : Nat) :
    forall db, Atomic (handoffAttempts scope trigger caseType create append failure clock n)
      db N S := by
  induction n with
  | zero => exact fun db => Atomic.raise
  | succ n ih =>
      intro db
      apply Atomic.bind findCaseBySourceMessage_looks
      intro duplicate t _ hduplicate
      cases duplicate with
      | some c => exact Atomic.pure (hknown t c (hduplicate c rfl))
      | none =>
          apply Atomic.bind findUnresolvedCase_looks
          intro existing t' _ hexisting
          apply Atomic.rescue
          · cases existing with
            | none => exact hcreate n t'
            | some c =>
                rcases hexisting c rfl with ⟨hsees, hthread, hkind, hopen, horder⟩
                exact happend n t' c ⟨hsees, hthread, hkind, hopen, horder⟩
          · intro e q u hq
            split at hq
            · cases hq
              exact ih u
            · cases hq

theorem recordHandoff_atomic (db : Database) :
    Atomic (recordHandoff scope trigger decision clock) db
      (fun result t => (CaseRequest.handoff trigger decision).AnsweredAt scope result t)
      (fun result t u => (CaseRequest.handoff trigger decision).DoneAt scope clock result t
        u) := by
  unfold recordHandoff
  split
  · exact Atomic.raise
  · rename_i customerId caseType priority hcustomer hkind hpriority
    split
    · rename_i hpositive
      have hcalled : Called scope decision customerId caseType priority :=
        ⟨hcustomer, hpositive, hkind, hpriority⟩
      apply handoffAttempts_atomic
      · exact fun t c h => Or.inr h
      · intro n s
        exact (createCase_atomic hcalled n s).mono (fun _ _ h => h)
          (fun _ _ _ h => ⟨caseType, h⟩)
      · intro n s existing hfound
        exact (appendTrigger_atomic hcalled hfound (Since.refl s)
          (fun hsome => absurd rfl hsome) n).mono (fun _ _ h => h)
          (fun _ _ _ h => ⟨caseType, h⟩)
    · rename_i hnegative
      exact Atomic.pure (Or.inl ⟨Bool.eq_false_iff.mpr hnegative, rfl⟩)
  · split
    · exact Atomic.raise
    · rename_i hnegative
      exact Atomic.pure (Or.inl ⟨Bool.eq_false_iff.mpr hnegative, rfl⟩)

theorem recordDeliveryInvestigation_atomic {issueType : DeliveryIssueType}
    {connectionId : String} (db : Database) :
    Atomic (recordDeliveryInvestigation scope trigger decision issueType connectionId clock)
      db
      (fun result t => (CaseRequest.delivery trigger decision issueType
        connectionId).AnsweredAt scope result t)
      (fun result t u => (CaseRequest.delivery trigger decision issueType
        connectionId).DoneAt scope clock result t u) := by
  unfold recordDeliveryInvestigation
  split
  · exact Atomic.raise
  · exact Atomic.raise
  · rename_i customerId priority hcustomer hpriority
    apply Atomic.require
    rintro ⟨hpositive, hkind⟩
    have hcalled : Called scope decision customerId CaseType.deliveryInvestigation priority :=
      ⟨hcustomer, hpositive, hkind, hpriority⟩
    cases hconnection : CleanText.parse? (Text.strip connectionId) with
    | none => exact Atomic.raise
    | some connection =>
        apply handoffAttempts_atomic
        · exact fun t c h => h
        · intro n s
          exact (createDeliveryCaseWithCommand_atomic hcalled n s).mono (fun _ _ h => h)
            (fun _ _ _ h => ⟨connection, hconnection, h⟩)
        · intro n s existing hfound
          exact (appendTrigger_atomic hcalled hfound (Since.refl s) (fun _ => rfl) n).mono
            (fun _ _ h => h) (fun _ _ _ h => ⟨connection, hconnection, h⟩)

end Handoffs

/-!
## Status changes and assignments
-/

section Agents

variable {scope : AccessScope} {clock : Nat -> Time} {caseId : UUID} {requestId : String}
  {key : String} {done : SupportCase -> Prop}

theorem replayedCase_atomic {run : Call CaseServiceResult} {db : Database}
    {S : CaseServiceResult -> Database -> Database -> Prop}
    (hrun : forall t, Atomic run t (CaseAsAsked scope caseId key done) S) :
    Atomic (replayedCase scope key run) db (CaseAsAsked scope caseId key done) S := by
  apply Atomic.bind findCaseEvent_looks
  intro previous t _ hprevious
  cases previous with
  | none => exact hrun t
  | some e =>
      apply Atomic.bind getCaseOrRaise_looks
      rintro c u htu ⟨hid, hsees⟩
      exact Atomic.pure ⟨c, rfl, hsees, Or.inr ⟨e, tenantEvent_since htu hprevious.symm, hid⟩⟩

theorem updateCaseOrRetry_atomic {current updated : SupportCase} {event : SupportCaseEvent}
    {action : CaseServiceAction} {again : Call CaseServiceResult} {s db : Database}
    {S : CaseServiceResult -> Database -> Database -> Prop}
    (hsees : Sees scope s current) (hsdb : Since s db) (hchange : CaseUpdated current updated)
    (hS : forall t u, Updates scope current updated event none t u ->
      S ⟨action, some updated, some event⟩ t u)
    (hagain : forall t, Atomic again t (CaseAsAsked scope caseId key done) S) :
    Atomic (updateCaseOrRetry scope key current updated event action again) db
      (CaseAsAsked scope caseId key done) S := by
  apply Atomic.rescue
  · apply Atomic.write
    intro t hdt _ b u hu
    exact hS t u (updateCaseWithEvent_updates hsees (hsdb.trans hdt) hchange hu)
  · intro e q t hq
    split at hq
    · cases hq
      apply Atomic.bind findCaseEvent_looks
      intro duplicate u _ hduplicate
      cases duplicate with
      | none => exact hagain u
      | some e =>
          apply Atomic.bind findCase_looks
          intro found v huv hfound
          cases found with
          | none => exact hagain v
          | some c =>
              rcases hfound c rfl with ⟨hid, hsees⟩
              exact Atomic.pure ⟨c, rfl, hsees,
                Or.inr ⟨e, tenantEvent_since huv hduplicate.symm, hid⟩⟩
    · cases hq
      exact hagain t
    · cases hq

theorem withStatus_updated (current : SupportCase) (targetStatus : CaseStatus)
    (onHoldReason : Option OnHoldReason) (now : Time) :
    CaseUpdated current (current.withStatus targetStatus onHoldReason now) :=
  ⟨rfl, rfl, fun _ hr => hr, Or.inl (Nat.le_refl _), fun x hx => ⟨x, hx, Nat.le_refl _⟩⟩

theorem withAgent_updated (current : SupportCase) (agent : CleanText) (now : Time) :
    CaseUpdated current (current.withAgent agent now) :=
  ⟨rfl, rfl, fun _ hr => hr, Or.inl (Nat.le_refl _), fun x hx => ⟨x, hx, Nat.le_refl _⟩⟩

theorem statusAttempts_atomic {targetStatus : CaseStatus}
    {onHoldReason : Option OnHoldReason} (n : Nat) :
    forall db, Atomic (statusAttempts scope caseId targetStatus onHoldReason
      (statusKey caseId requestId) clock n) db
      (CaseAsAsked scope caseId (statusKey caseId requestId) fun c =>
        c.status = targetStatus)
      (StatusDone scope clock caseId targetStatus requestId onHoldReason) := by
  induction n with
  | zero => exact fun db => Atomic.raise
  | succ n ih =>
      intro db
      apply Atomic.bind getCaseOrRaise_looks
      rintro current t _ ⟨hid, hsees⟩
      apply Atomic.ite
      · exact fun hsame => Atomic.pure ⟨current, rfl, hsees, Or.inl ⟨hid, hsame⟩⟩
      · intro _
        apply Atomic.require
        intro hallowed
        apply Atomic.require
        intro hneeded
        apply Atomic.require
        intro hvain
        apply Atomic.require
        intro _
        apply Atomic.draw
        intro eventId t' htt'
        apply updateCaseOrRetry_atomic hsees htt' (withStatus_updated _ _ _ _) _ ih
        intro u v hupdates
        refine ⟨current, n, eventId, _, _, hid, hallowed, ⟨hneeded, fun hsome => ?_⟩, rfl, rfl,
          rfl, hupdates⟩
        by_contra hother
        have hnone := hvain hother
        rw [Option.isNone_iff_eq_none] at hnone
        rw [hnone] at hsome
        cases hsome

theorem changeStatus_atomic {targetStatus : CaseStatus} {onHoldReason : Option OnHoldReason}
    (db : Database) :
    Atomic (changeStatus scope caseId targetStatus requestId onHoldReason clock) db
      (fun result t => (CaseRequest.status caseId targetStatus requestId
        onHoldReason).AnsweredAt scope result t)
      (fun result t u => (CaseRequest.status caseId targetStatus requestId
        onHoldReason).DoneAt scope clock result t u) := by
  apply Atomic.require
  intro hpermission
  apply Atomic.compute
  intro request hrequest
  cases CustomerRequest.normalizeRequestId_eq_strip hrequest
  have hrun : forall t, Atomic (statusAttempts scope caseId targetStatus onHoldReason
      (statusKey caseId requestId) clock maxWriteAttempts) t
      (CaseAsAsked scope caseId (statusKey caseId requestId) fun c => c.status = targetStatus)
      (StatusDone scope clock caseId targetStatus requestId onHoldReason) :=
    statusAttempts_atomic maxWriteAttempts
  exact (replayedCase_atomic hrun).mono (fun _ _ h => h) (fun _ _ _ h => ⟨hpermission, h⟩)

theorem assignAttempts_atomic {directory : IdentityDirectory} {agentId : String}
    {agent : CleanText} (hagent : validateAgentId agentId = Except.ok agent)
    (htarget : requireAssignmentTarget directory scope.tenantId agent = Except.ok ())
    (n : Nat) :
    forall db, Atomic (assignAttempts scope caseId agent (assignKey caseId requestId) clock n)
      db (CaseAsAsked scope caseId (assignKey caseId requestId) fun c =>
        c.assignedAgentId = some agent)
      (AssignDone scope clock directory caseId agentId requestId) := by
  induction n with
  | zero => exact fun db => Atomic.raise
  | succ n ih =>
      intro db
      apply Atomic.bind getCaseOrRaise_looks
      rintro current t _ ⟨hid, hsees⟩
      apply Atomic.ite
      · exact fun hsame => Atomic.pure ⟨current, rfl, hsees, Or.inl ⟨hid, hsame⟩⟩
      · intro hother
        apply Atomic.require
        intro _
        apply Atomic.draw
        intro eventId t' htt'
        apply updateCaseOrRetry_atomic hsees htt' (withAgent_updated _ _ _) _ ih
        intro u v hupdates
        exact ⟨agent, current, n, eventId, _, _, hagent, htarget, hid, hother, rfl, rfl, rfl,
          hupdates⟩

theorem assignCase_atomic {directory : IdentityDirectory} {agentId : String}
    (db : Database) :
    Atomic (assignCase scope directory caseId agentId requestId clock) db
      (fun result t => (CaseRequest.assign directory caseId agentId
        requestId).AnsweredAt scope result t)
      (fun result t u => (CaseRequest.assign directory caseId agentId
        requestId).DoneAt scope clock result t u) := by
  apply Atomic.require
  intro hpermission
  apply Atomic.compute
  intro agent hagent
  apply Atomic.compute
  intro request hrequest
  cases CustomerRequest.normalizeRequestId_eq_strip hrequest
  have hrun : forall t, Atomic (do
      let _ ← getCaseOrRaise scope caseId
      Program.done (requireAssignmentTarget directory scope.tenantId agent)
      assignAttempts scope caseId agent (assignKey caseId requestId) clock maxWriteAttempts) t
      (CaseAsAsked scope caseId (assignKey caseId requestId) fun c =>
        c.assignedAgentId = some agent)
      (AssignDone scope clock directory caseId agentId requestId) := by
    intro t
    apply Atomic.bind getCaseOrRaise_looks
    intro c u _ _
    apply Atomic.compute
    intro _ htarget
    exact assignAttempts_atomic hagent htarget maxWriteAttempts u
  exact (replayedCase_atomic hrun).mono (fun _ _ h => ⟨agent, hagent, h⟩)
    (fun _ _ _ h => ⟨hpermission, h⟩)

end Agents

theorem CaseRequest.call_atomic {scope : AccessScope} {clock : Nat -> Time} (q : CaseRequest)
    (db : Database) :
    Atomic (q.call scope clock) db (fun result t => q.AnsweredAt scope result t)
      (fun result t u => q.DoneAt scope clock result t u) := by
  cases q with
  | handoff trigger decision =>
      unfold call
      exact recordHandoff_atomic db
  | delivery trigger decision issueType connectionId =>
      unfold call
      exact recordDeliveryInvestigation_atomic db
  | status caseId targetStatus requestId onHoldReason =>
      unfold call
      exact changeStatus_atomic db
  | assign directory caseId agentId requestId =>
      unfold call
      exact assignCase_atomic db

/-!
## Runs
-/

/--
Every run of the four methods of the case service, among any number of turns, other calls
and workers, is one step.  A call that has ended has either changed nothing, and then what
it has answered was right in a state between its beginning and its end; or its last
transaction has done everything at once, on the case as it was stored at that moment, and
its other transactions have changed no table.
-/
theorem case_request_acts_at_one_point {stages : List (Stage World Event)} {w : World}
    (h : World.Runs stages w) {x : Stage World Event} (hx : x ∈ stages) {i : Nat}
    {q : CaseRequest} {scope : AccessScope} {clock : Nat -> Time}
    {r : Except Failure CaseServiceResult} (hbegins : Begins i (q.call scope clock) x)
    (hended : w.Ended i r) :
    AnswersIn stages i x (fun result db => q.AnsweredAt scope result db) r ∨
      ActsIn stages i (fun result db db' => q.DoneAt scope clock result db db') r :=
  h.at_one_point hx hbegins hended fun db => q.call_atomic db

theorem sampleInvestigated_created :
    (((recordDeliveryInvestigation sampleCustomer sampleTrigger sampleInvestigation
      DeliveryIssueType.packageDamaged "connection" (fun _ => 0)).run
      (World.initial sampleIds).db).1.toOption.map CaseServiceResult.action) =
        some CaseServiceAction.created := by
  decide +kernel

/-- The customer reports a damaged package: the call has acted. -/
theorem case_request_acts_at_one_point_sample :
    exists stages w i, World.Runs stages w ∧ exists r,
      ActsIn stages i (fun result db db' => (CaseRequest.delivery sampleTrigger
        sampleInvestigation DeliveryIssueType.packageDamaged "connection").DoneAt
          sampleCustomer (fun _ => 0) result db db') r ∧
      w.Ended i r := by
  have hstart : World.Runs [] (World.initial sampleIds) := ⟨sampleIds, Run.nil _⟩
  have hcreated := sampleInvestigated_created
  generalize World.initial sampleIds = w at hstart hcreated
  rcases hstart.serve_entered (Method.recordDeliveryInvestigation sampleCustomer sampleTrigger
    sampleInvestigation DeliveryIssueType.packageDamaged "connection" (fun _ => 0) trivial)
    with ⟨more, x, hrun, hx, hbegins, hended⟩
  have hcall : Begins w.calls.length ((CaseRequest.delivery sampleTrigger sampleInvestigation
    DeliveryIssueType.packageDamaged "connection").call sampleCustomer (fun _ => 0)) x :=
    hbegins
  refine ⟨_, _, w.calls.length, hrun, _, ?_, hended⟩
  rcases case_request_acts_at_one_point hrun (List.mem_append_right _ hx) hcall hended with
    hanswer | hact
  · -- an answer that changes nothing creates no case
    cases hresult : ((recordDeliveryInvestigation sampleCustomer sampleTrigger
        sampleInvestigation DeliveryIssueType.packageDamaged "connection"
        (fun _ => 0)).run w.db).1 with
    | error e =>
        rw [hresult] at hcreated
        cases hcreated
    | ok result =>
        rw [hresult] at hcreated
        rcases hanswer.right result hresult with ⟨y, _, c, e, hright, _⟩
        have haction := Option.some.inj hcreated
        rw [hright] at haction
        cases haction
  · exact hact

end RefundAgent
