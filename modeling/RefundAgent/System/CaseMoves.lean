import RefundAgent.Cases.Service
import RefundAgent.System.OperationMoves

/-!
# The case repository as moves

The same as for operations: a call writes with the version it has read, and
`KnownCase` is what remains of the read once others may have run.
-/

namespace RefundAgent

open Foundation

/-!
## Reading
-/

def KnownCase (c : SupportCase) (db : Database) : Prop :=
  exists row, db.cases.rows.get c.caseId = some row ∧ c.version ≤ row.version ∧
    (row.version = c.version -> row = c)

theorem KnownCase.later {c : SupportCase} {db db' : Database} (h : KnownCase c db)
    (hlater : Later db db') : KnownCase c db' := by
  rcases h with ⟨row, hget, hle, heq⟩
  rcases hlater.cases _ row hget with ⟨row', hget', _, hle', heq'⟩
  refine ⟨row', hget', Nat.le_trans hle hle', ?_⟩
  intro hv
  have hsame : row'.version = row.version := by omega
  rw [heq' hsame]
  exact heq (by omega)

theorem KnownCase.of_get {c : SupportCase} {db : Database} {id : UUID}
    (hget : db.cases.rows.get id = some c) : KnownCase c db := by
  refine ⟨c, ?_, Nat.le_refl _, fun _ => rfl⟩
  rw [Table.get_key hget]
  exact hget

theorem KnownCase.of_mem {c : SupportCase} {db : Database}
    (hmem : c ∈ db.cases.rows.rows) : KnownCase c db :=
  KnownCase.of_get (Table.get_of_mem hmem)

theorem fetchCase_eq_ok {query : Database -> Option SupportCase} {db db' : Database}
    {found : Option SupportCase}
    (h : fetchCase query db = Except.ok (found, db')) :
    db' = db ∧ forall c, found = some c -> query db = some c := by
  simp only [fetchCase, Transaction.bind_eq_ok, Transaction.read_eq_ok,
    Prod.mk.injEq] at h
  rcases h with ⟨row, _, ⟨rfl, rfl⟩, h⟩
  cases hq : query db with
  | none =>
      simp only [hq, Transaction.pure_eq_ok, Prod.mk.injEq] at h
      rcases h with ⟨rfl, rfl⟩
      exact ⟨rfl, by simp⟩
  | some row =>
      simp only [hq, Transaction.bind_eq_ok, caseFromRow_eq_ok, Transaction.pure_eq_ok,
        Prod.mk.injEq] at h
      rcases h with ⟨_, _, ⟨_, rfl, rfl⟩, rfl, rfl⟩
      exact ⟨rfl, fun c hc => hc⟩

theorem visibleCases_eq_ok {scope : AccessScope} {db db' : Database}
    {p : SupportCase -> Bool} (h : visibleCases scope db = Except.ok (p, db')) :
    db' = db := by
  unfold visibleCases at h
  cases hv : caseVisibility scope with
  | error e =>
      rw [hv] at h
      exact absurd h (by simp)
  | ok q =>
      simp only [hv, Transaction.pure_eq_ok, Prod.mk.injEq] at h
      exact h.right.symm

theorem findCase_spec {scope : AccessScope} {caseId : UUID} {db db' : Database}
    {found : Option SupportCase}
    (h : findCase scope caseId db = Except.ok (found, db')) :
    db' = db ∧ forall c, found = some c -> KnownCase c db := by
  simp only [findCase, Transaction.bind_eq_ok] at h
  rcases h with ⟨visible, db₁, hvisible, hfetch⟩
  have hsame := visibleCases_eq_ok hvisible
  subst hsame
  have hread := fetchCase_eq_ok hfetch
  refine ⟨hread.left, ?_⟩
  intro c hc
  have hget := hread.right c hc
  rw [Option.filter_eq_some_iff] at hget
  exact KnownCase.of_get hget.left

theorem findCaseBySourceMessage_spec {scope : AccessScope}
    {threadId sourceMessageId : CleanText} {db db' : Database}
    {found : Option SupportCase}
    (h : findCaseBySourceMessage scope threadId sourceMessageId db =
      Except.ok (found, db')) : db' = db := by
  simp only [findCaseBySourceMessage, Transaction.bind_eq_ok] at h
  rcases h with ⟨visible, db₁, hvisible, hfetch⟩
  rw [(fetchCase_eq_ok hfetch).left, visibleCases_eq_ok hvisible]

theorem findUnresolvedCase_spec {scope : AccessScope} {threadId : CleanText}
    {caseType : CaseType} {orderId : Option TrimmedText} {db db' : Database}
    {found : Option SupportCase}
    (h : findUnresolvedCase scope threadId caseType orderId db =
      Except.ok (found, db')) :
    db' = db ∧ forall c, found = some c -> KnownCase c db ∧ c.caseType = caseType := by
  have hread : forall {p : SupportCase -> Bool} {db₁ : Database},
      (forall c, p c = true -> c.caseType = caseType) -> db₁ = db ->
      fetchCase (fun db => db.cases.rows.rows.find? p) db₁ = Except.ok (found, db') ->
      db' = db ∧ forall c, found = some c -> KnownCase c db ∧ c.caseType = caseType := by
    intro p db₁ hp hsame hfetch
    subst hsame
    have hfetched := fetchCase_eq_ok hfetch
    refine ⟨hfetched.left, fun c hc => ⟨?_, ?_⟩⟩
    · exact KnownCase.of_mem (List.mem_of_find?_eq_some (hfetched.right c hc))
    · exact hp c (List.find?_some (hfetched.right c hc))
  simp only [findUnresolvedCase, Transaction.bind_eq_ok, Transaction.ite_eq_ok,
    Transaction.require_eq_ok, Prod.mk.injEq] at h
  rcases h with ⟨visible, db₁, hvisible, ⟨_, _, _, ⟨_, _, rfl⟩, hfetch⟩ | ⟨_, hfetch⟩⟩
  · refine hread ?_ (visibleCases_eq_ok hvisible) hfetch
    intro c hc
    simp only [Bool.and_eq_true, decide_eq_true_eq] at hc
    tauto
  · refine hread ?_ (visibleCases_eq_ok hvisible) hfetch
    intro c hc
    simp only [Bool.and_eq_true, decide_eq_true_eq] at hc
    tauto

/-!
## Writing
-/

variable {D : HandoffDecision -> Prop}

/-- A key that neither a redrive nor the finalizer of a command writes under. -/
structure ServiceKey (key : String) : Prop where
  redrive : ¬KeyUnder redriveHead key
  delivery : ¬KeyUnder Writer.delivery.head key

/-- What the service decides: an update of the case it has read, with its event. -/
structure CaseWrite (D : HandoffDecision -> Prop) (current updated : SupportCase)
    (e : SupportCaseEvent) : Prop where
  change : CaseUpdated current updated
  owner : OfCase current e
  key : ServiceKey e.idempotencyKey
  told : Recounts current.facts updated e
  ground : UpdateGround D current updated

theorem SupportCase.setFrom_eq {c c' : SupportCase} (h : c'.frozen = c.frozen) :
    c'.setFrom c = c' := by
  have hc : c = { c.frozen with
      orderId := c.orderId
      priority := c.priority
      status := c.status
      riskLevel := c.riskLevel
      riskCategories := c.riskCategories
      reasonCodes := c.reasonCodes
      onHoldReason := c.onHoldReason
      updatedAt := c.updatedAt
      version := c.version
      assignedAgentId := c.assignedAgentId } := rfl
  rw [hc, ← h]
  rfl

theorem writeCase_spec {scope : AccessScope} {current updated : SupportCase}
    {e : SupportCaseEvent} {db db' : Database} (hknown : KnownCase current db)
    (hwrite : CaseWrite D current updated e)
    (h : writeCase scope updated e current.version db = Except.ok ((), db')) :
    CaseStep (CaseLabel.update current updated [e]) db.cases db'.cases ∧
      Touches Group.cases db db' := by
  simp only [writeCase, Transaction.bind_eq_ok, Transaction.require_eq_ok,
    Prod.mk.injEq] at h
  rcases h with ⟨visible, db₁, hvisible, _, db₂, hup, _, _, ⟨rfl, _, rfl⟩, hins⟩
  have hsame := visibleCases_eq_ok hvisible
  subst hsame
  rcases updateCase_spec hup with ⟨row, hget, hp, hrows, hevents, htouch, hentry⟩
  have hwritten := insertCaseEvent_spec hins
  simp only [Bool.and_eq_true, decide_eq_true_eq] at hp
  rcases hknown with ⟨row', hget', _, heq⟩
  have hrow : row = current := by
    rw [caseId_of_frozen hwrite.change.frozen, hget'] at hget
    cases hget
    exact heq hp.left
  subst hrow
  rw [SupportCase.setFrom_eq hwrite.change.frozen] at hrows hentry
  refine ⟨CaseStep.update ?_ hwrite.change hentry.checks hentry.free ?_ ?_ ⟨?_, ?_⟩ ?_ ?_
    (Nat.le_refl 1), htouch.trans hwritten.touches⟩
  · rw [← caseId_of_frozen hwrite.change.frozen]
    exact hget
  · intro d hd
    rw [List.mem_singleton.mp hd]
    exact hwrite.owner
  · rw [hwritten.rows, hrows]
  · rw [hwritten.appended, hevents]
  · have hunused := hwritten.unused
    rw [hevents] at hunused
    exact hunused
  · intro d hd
    rw [List.mem_singleton.mp hd]
    exact hwrite.key.redrive
  · intro d hd
    rw [List.mem_singleton.mp hd]
    exact hwrite.told

theorem CaseLabel.keysApart_of_single {l : CaseLabel} {e : SupportCaseEvent}
    (hl : l.events = [e]) (h : ServiceKey e.idempotencyKey) : l.KeysApart := by
  intro d hd
  rw [hl] at hd
  rw [List.mem_singleton.mp hd]
  exact h.delivery

theorem validateCaseOwnership_eq_ok {scope : AccessScope} {c : SupportCase}
    {e : SupportCaseEvent} {db db' : Database}
    (h : validateCaseOwnership scope c e db = Except.ok ((), db')) : db' = db := by
  simp only [validateCaseOwnership, Transaction.bind_eq_ok, Transaction.require_eq_ok,
    Prod.mk.injEq] at h
  rcases h with ⟨_, _, ⟨_, _, rfl⟩, _, _, ⟨_, _, rfl⟩, _, _, rfl⟩
  rfl

theorem updateCaseWithEvent_served {scope : AccessScope}
    {current updated : SupportCase} {e : SupportCaseEvent} {db db' : Database}
    (hknown : KnownCase current db) (hwrite : CaseWrite D current updated e)
    (hid : db.ids.Issued e.eventId)
    (h : updateCaseWithEvent scope updated e current.version db =
      Except.ok ((), db')) : Served D db db' := by
  simp only [updateCaseWithEvent, Transaction.translate_eq_ok, Transaction.bind_eq_ok,
    Transaction.require_eq_ok, Prod.mk.injEq] at h
  rcases h with ⟨_, _, ⟨_, _, rfl⟩, _, db₁, hvalid, hw⟩
  have hsame := validateCaseOwnership_eq_ok hvalid
  subst hsame
  rcases writeCase_spec hknown hwrite hw with ⟨hstep, htouch⟩
  refine Served.of_steps ((Steps.refl db₁).thenCase rfl htouch hstep ?_)
    (Combination.changeCase trivial (CaseLabel.keysApart_of_single rfl hwrite.key))
    ⟨id, id, id, hwrite.ground⟩
  intro d hd
  rw [List.mem_singleton.mp hd]
  exact hid.mono htouch.ids

/-- What the service builds: a valid case and its first event. -/
structure CaseOpened (D : HandoffDecision -> Prop) (db : Database) (c : SupportCase)
    (e : SupportCaseEvent) : Prop where
  valid : c.valid = true
  owner : OfCase c e
  key : ServiceKey e.idempotencyKey
  told : Recounts CaseFacts.unknown c e
  ground : OpenGround D c
  caseId : db.ids.Issued c.caseId
  eventId : db.ids.Issued e.eventId

theorem insertCase_steps {c : SupportCase} {e : SupportCaseEvent}
    {db db₁ db₂ : Database} (hopen : CaseOpened D db c e)
    (hins : insertCase c db = Except.ok ((), db₁))
    (hev : insertCaseEvent e db₁ = Except.ok ((), db₂)) :
    Steps { case := CaseLabel.create c e } db db₂ := by
  rcases insertCase_spec hins with ⟨hrows, hevents, htouch, hentry⟩
  have hwritten := insertCaseEvent_spec hev
  refine (Steps.refl db).thenCase rfl (htouch.trans hwritten.touches)
    (CaseStep.create ?_ hopen.valid hentry.checks hentry.free hopen.owner ⟨?_, ?_⟩
      hopen.key.redrive hopen.told) ?_ ?_
  · rw [hwritten.rows, ← hrows]
  · rw [hwritten.appended, hevents]
  · have hunused := hwritten.unused
    rw [hevents] at hunused
    exact hunused
  · intro d hd
    rw [List.mem_singleton.mp hd]
    exact hopen.eventId.mono (htouch.trans hwritten.touches).ids
  · intro x hx
    cases hx
    exact hopen.caseId.mono (htouch.trans hwritten.touches).ids

theorem createCaseWithEvent_served {scope : AccessScope} {c : SupportCase}
    {e : SupportCaseEvent} {db db' : Database} (hopen : CaseOpened D db c e)
    (h : createCaseWithEvent scope c e db = Except.ok ((), db')) : Served D db db' := by
  simp only [createCaseWithEvent, Transaction.translate_eq_ok,
    Transaction.bind_eq_ok] at h
  rcases h with ⟨_, db₁, hvalid, _, db₂, hins, hev⟩
  have hsame := validateCaseOwnership_eq_ok hvalid
  subst hsame
  exact Served.of_steps (insertCase_steps hopen hins hev)
    (Combination.changeCase trivial (CaseLabel.keysApart_of_single rfl hopen.key))
    ⟨id, id, id, hopen.ground⟩

theorem caseCommandMismatch_none {c : SupportCase} {e : SupportCaseEvent}
    {command : ProviderCommandEnvelope} (h : caseCommandMismatch c e command = none)
    (now : Time) :
    command.valid = true ∧ InvestigationQueued c (outboxRow command now) := by
  simp only [caseCommandMismatch, Option.map_eq_none_iff, List.find?_eq_none,
    List.forall_mem_cons, Bool.not_eq_true', Bool.not_eq_false, decide_eq_true_eq] at h
  rcases h with ⟨hvalid, hcase, _, hcommand, hkind, haggregate, htenant, hcustomer, _⟩
  exact ⟨hvalid, hkind, hcommand, haggregate, htenant, hcustomer, hcase⟩

theorem createCaseWithEventAndCommand_served {scope : AccessScope} {c : SupportCase}
    {e : SupportCaseEvent} {command : ProviderCommandEnvelope} {db db' : Database}
    (hopen : CaseOpened D db c e) (hcommandId : db.ids.Issued command.commandId)
    (h : createCaseWithEventAndCommand scope c e command db = Except.ok ((), db')) :
    Served D db db' := by
  simp only [createCaseWithEventAndCommand, Transaction.translate_eq_ok] at h
  cases hmatch : caseCommandMismatch c e command with
  | some message =>
      rw [hmatch] at h
      exact absurd h (by simp)
  | none =>
      simp only [hmatch, Transaction.bind_eq_ok] at h
      rcases h with ⟨_, db₁, hvalid, _, db₂, hins, _, db₃, hev, hout⟩
      have hsame := validateCaseOwnership_eq_ok hvalid
      subst hsame
      rcases caseCommandMismatch_none hmatch c.updatedAt with ⟨hcommand, hqueued⟩
      rcases insertOutboxMessage_spec hcommand hout with ⟨hstep, htouch⟩
      have hsteps := insertCase_steps hopen hins hev
      exact Served.of_steps (hsteps.thenOutbox rfl htouch
        hstep (fun x hx => by cases hx) (fun x hx => by
          cases hx
          exact hcommandId.mono (hsteps.ids.trans htouch.ids)))
        (Combination.queueInvestigation trivial rfl hqueued
          (CaseLabel.keysApart_of_single rfl hopen.key)) ⟨id, id, id, hopen.ground⟩

theorem appendDeliveryTriggerAndEnsureCommand_served {scope : AccessScope}
    {current updated : SupportCase} {e : SupportCaseEvent}
    {command : ProviderCommandEnvelope} {db db' : Database} {queued : Bool}
    (hknown : KnownCase current db) (hwrite : CaseWrite D current updated e)
    (hid : db.ids.Issued e.eventId) (hcommandId : db.ids.Issued command.commandId)
    (h : appendDeliveryTriggerAndEnsureCommand scope updated e command current.version
      db = Except.ok (queued, db')) : Served D db db' := by
  simp only [appendDeliveryTriggerAndEnsureCommand, Transaction.translate_eq_ok,
    Transaction.bind_eq_ok, Transaction.require_eq_ok, Prod.mk.injEq] at h
  rcases h with ⟨_, _, ⟨_, _, rfl⟩, h⟩
  cases hmatch : caseCommandMismatch updated e command with
  | some message =>
      rw [hmatch] at h
      exact absurd h (by simp)
  | none =>
      simp only [hmatch, Transaction.bind_eq_ok, ensureCaseCommand,
        Transaction.read_eq_ok, Transaction.ite_eq_ok, Transaction.pure_eq_ok,
        Prod.mk.injEq] at h
      rcases h with ⟨_, db₁, hvalid, _, db₂, hw, _, _, ⟨_, rfl⟩, hensure⟩
      have hsame := validateCaseOwnership_eq_ok hvalid
      subst hsame
      rcases writeCase_spec hknown hwrite hw with ⟨hstep, htouch⟩
      have hsteps := (Steps.refl db₁).thenCase rfl htouch hstep (by
        intro d hd
        rw [List.mem_singleton.mp hd]
        exact hid.mono htouch.ids)
      have hkeys := CaseLabel.keysApart_of_single
        (l := CaseLabel.update current updated [e]) rfl hwrite.key
      rcases hensure with ⟨_, _, rfl⟩ | ⟨_, _, db₃, hins, _, rfl⟩
      · exact Served.of_steps hsteps (Combination.changeCase trivial hkeys)
          ⟨id, id, id, hwrite.ground⟩
      · rcases caseCommandMismatch_none hmatch updated.updatedAt with
          ⟨hcommand, hqueued⟩
        rcases insertOutboxMessage_spec hcommand hins with ⟨hout, htouch'⟩
        exact Served.of_steps (hsteps.thenOutbox rfl htouch' hout
          (fun x hx => by cases hx) (fun x hx => by
            cases hx
            exact hcommandId.mono (hsteps.ids.trans htouch'.ids)))
          (Combination.queueInvestigation trivial rfl hqueued hkeys)
          ⟨id, id, id, hwrite.ground⟩

end RefundAgent
