import RefundAgent.System.CallTraces
import RefundAgent.System.CaseHistory

/-!
# Status changes

How a call of `change_status` can end, whatever other callers and workers do
between its transactions.  The handlers of the API know all of its failures but
one: a case that is reopened meets the unique indexes on unresolved cases.
-/

namespace RefundAgent

open Foundation

/-!
## The handlers of the API
-/

/-- The envelope of `_error_response`. -/
structure ApiErrorResponse where
  statusCode : Nat
  code : String
  message : String
deriving DecidableEq, Repr

/-- `register_case_exception_handlers`: the answer to a failure, if it has a handler. -/
def caseExceptionHandler : Failure -> Option ApiErrorResponse
  | Failure.forbidden _ => some ⟨403, "forbidden",
      "The authenticated caller is not allowed to perform this action."⟩
  | Failure.caseNotFound _ => some ⟨404, "case_not_found",
      "The requested support case does not exist."⟩
  | Failure.assignmentTargetUnavailable => some ⟨404, "assignment_target_unavailable",
      "The requested assignment target is not available."⟩
  | Failure.directoryInfrastructureUnavailable => some ⟨503,
      "identity_directory_unavailable",
      "The identity directory is temporarily unavailable."⟩
  | Failure.invalidCaseStatusTransition _ _ => some ⟨409,
      "invalid_case_status_transition",
      "The requested support-case status transition is not allowed."⟩
  | Failure.concurrentCaseUpdate _ => some ⟨409, "concurrent_case_update",
      "The support case changed concurrently. Retry the request."⟩
  | Failure.casePersistence _ => some ⟨503, "case_storage_unavailable",
      "Support-case storage is temporarily unavailable."⟩
  | _ => none

/-- The failure has a handler. -/
def Failure.handled (e : Failure) : Prop :=
  (caseExceptionHandler e).isSome = true

/-- A failure of the storage, as the case repository reports it. -/
def Failure.ofStorage (e : Failure) : Prop :=
  exists message, e = Failure.casePersistence message

theorem Failure.handled_of_storage {e : Failure} (h : e.ofStorage) : e.handled := by
  rcases h with ⟨message, rfl⟩
  exact rfl

/-!
## What the transactions of a status change fail with
-/

section Failures

variable {scope : AccessScope} {caseId : UUID} {targetStatus : CaseStatus}
  {onHoldReason : Option OnHoldReason} {current : SupportCase} {db : Database}
  {e : Failure}

theorem visibleCases_error (h : visibleCases scope db = Except.error e) :
    exists message, e = Failure.forbidden message := by
  unfold visibleCases caseVisibility at h
  by_cases hall : scope.hasPermission Permission.casesReadAll = true
  · rw [if_pos hall] at h
    cases h
  rw [if_neg hall] at h
  by_cases hassigned : scope.hasPermission Permission.casesReadAssigned = true
  · rw [if_pos hassigned] at h
    cases h
  rw [if_neg hassigned] at h
  by_cases hown : scope.hasPermission Permission.casesReadOwn = true
  · rw [if_pos hown] at h
    cases hcustomer : scope.customerId with
    | none =>
        rw [hcustomer] at h
        cases h
        exact ⟨_, rfl⟩
    | some customerId =>
        rw [hcustomer] at h
        cases h
  · rw [if_neg hown] at h
    cases h
    exact ⟨_, rfl⟩

theorem findCase_error (hdb : Sound db)
    (h : findCase scope caseId db = Except.error e) : e.handled := by
  unfold findCase at h
  rcases Transaction.bind_eq_error.mp h with hvisible | ⟨visible, db', hvisible, hfetch⟩
  · rcases visibleCases_error hvisible with ⟨message, rfl⟩
    exact rfl
  have hsame := visibleCases_eq_ok hvisible
  subst hsame
  unfold fetchCase at hfetch
  rcases Transaction.bind_eq_error.mp hfetch with hread | ⟨found, db₁, hread, hrow⟩
  · cases hread
  rw [Transaction.read_eq_ok] at hread
  cases hread
  cases hfound : (db'.cases.rows.get caseId).filter visible with
  | none =>
      rw [hfound] at hrow
      cases hrow
  | some row =>
      simp only [hfound] at hrow
      rcases Transaction.bind_eq_error.mp hrow with hinvalid | ⟨_, _, _, hpure⟩
      · unfold caseFromRow at hinvalid
        rcases Transaction.bind_eq_error.mp hinvalid with hrequire | ⟨_, _, _, hpure⟩
        · -- the rows of the table are valid
          have hget := (Option.filter_eq_some_iff.mp hfound).left
          exact absurd (hdb.cases.valid row (Table.mem_of_get hget))
            (Transaction.require_eq_error.mp hrequire).left
        · cases hpure
      · cases hpure

/-- The failures that end a write attempt: handled ones, or the key of the request. -/
def Failure.ofAttempt (e : Failure) : Prop :=
  e.handled ∨ exists key, e = Failure.duplicateIdempotencyKey key

theorem insertRow_error {ρ : Type} {id : ρ -> UUID} {table : Database -> Table ρ UUID id}
    {store : Database -> Table ρ UUID id -> Database} {row : ρ} {db : Database}
    {e : Failure} (h : insertRow table store row db = Except.error e) :
    e = Failure.uniqueViolation UniqueConstraint.primaryKey := by
  unfold insertRow Transaction.execute at h
  cases hinsert : (table db).insert? row with
  | none =>
      simp only [hinsert] at h
      exact (Except.error.inj h).symm
  | some t =>
      simp only [hinsert] at h
      cases h

theorem insertCaseEvent_error {event : SupportCaseEvent} {db : Database} {e : Failure}
    (hevent : event.sourceMessageId = none)
    (h : insertCaseEvent event db = Except.error e) :
    (caseWriteError event "Failed to update support case" e).ofAttempt := by
  unfold insertCaseEvent at h
  rcases Transaction.bind_eq_error.mp h with hread | ⟨_, _, _, h⟩
  · cases hread
  rcases Transaction.bind_eq_error.mp h with hused | ⟨_, _, _, hinsert⟩
  · rw [← (Transaction.require_eq_error.mp hused).right]
    unfold caseWriteError
    simp only [hevent]
    exact Or.inr ⟨_, rfl⟩
  · rw [insertRow_error hinsert]
    exact Or.inl rfl

theorem updateCase_error {where_ : SupportCase -> Bool} {set_ : SupportCase -> SupportCase}
    {event : SupportCaseEvent}
    (hfree : forall r, db.cases.rows.get caseId = some r -> where_ r = true ->
      ¬CaseTaken db.cases (set_ r))
    (h : updateCase caseId where_ set_ db = Except.error e) :
    (caseWriteError event "Failed to update support case" e).ofAttempt := by
  unfold updateCase at h
  cases hget : db.cases.rows.get caseId with
  | none =>
      simp only [hget] at h
      cases h
  | some r =>
      simp only [hget] at h
      by_cases hwhere : where_ r = true
      · rw [if_pos hwhere] at h
        unfold refuseCase at h
        by_cases hchecks : (set_ r).checks = false
        · simp only [if_pos hchecks] at h
          cases h
          exact Or.inl rfl
        · rw [Bool.not_eq_false] at hchecks
          simp only [hchecks, Bool.true_eq_false, if_false,
            (activeCaseTaken_eq_none hchecks).mpr (hfree r hget hwhere)] at h
          cases h
      · rw [if_neg hwhere] at h
        cases h

theorem activeCaseTaken_constraint {c : SupportCase} {k : UniqueConstraint}
    (h : activeCaseTaken db c = some k) :
    k = UniqueConstraint.supportCasesActiveThreadType ∨
      k = UniqueConstraint.supportCasesActiveDeliveryOrder := by
  unfold activeCaseTaken at h
  split_ifs at h <;> cases h
  · exact Or.inr rfl
  · exact Or.inl rfl

/-!
### The write
-/

/--
Nothing stands in the way of writing the case with its new status over the one
that has been read: the caller is not a customer other than the owner, and while
the row is the one that has been read, no other unresolved case holds the place
that the case takes in the unique indexes.
-/
structure Unhindered (scope : AccessScope) (caseId : UUID) (targetStatus : CaseStatus)
    (current : SupportCase) (db : Database) : Prop where
  owner : scope.role = Role.customer -> some current.customerId = scope.customerId
  free : db.cases.rows.get caseId = some current ->
    ¬CaseTaken db.cases { current with status := targetStatus }

theorem Unhindered.free_of_unresolved (hdb : Sound db) (hc : current ∈ db.cases.rows.rows)
    (hopen : current.unresolved = true) (targetStatus : CaseStatus) :
    ¬CaseTaken db.cases { current with status := targetStatus } := by
  rintro ⟨r, hr, hrunresolved, _, hid, htenant, hthread, htype, horder⟩
  exact hdb.cases.free current hc
    ⟨r, hr, hrunresolved, hopen, hid, htenant, hthread, htype, horder⟩

theorem validateCaseOwnership_allows {case : SupportCase} {event : SupportCaseEvent}
    (htenant : case.tenantId = scope.tenantId)
    (howner : scope.role = Role.customer -> some case.customerId = scope.customerId)
    (hevent : event.tenantId = scope.tenantId) :
    validateCaseOwnership scope case event db = Except.ok ((), db) := by
  simp only [validateCaseOwnership, Transaction.bind_eq_ok, Transaction.require_eq_ok]
  exact ⟨(), db, ⟨htenant, rfl⟩, (), db, ⟨howner, rfl⟩, hevent, rfl⟩

section Write

variable {p : SupportCase -> Bool} {now : Time} {eventId : UUID} {key actor : String}

theorem updateCaseWithEvent_error (hid : current.caseId = caseId)
    (htenant : current.tenantId = scope.tenantId)
    (hcurrent : forall r, db.cases.rows.get caseId = some r ->
      r.version = current.version -> r = current)
    (hfree : Unhindered scope caseId targetStatus current db)
    (h : updateCaseWithEvent scope (current.withStatus targetStatus onHoldReason now)
      (caseStatusEvent current targetStatus onHoldReason eventId key actor now)
      current.version db = Except.error e) : e.ofAttempt := by
  unfold updateCaseWithEvent at h
  rcases Transaction.translate_eq_error.mp h with ⟨e', hwrite, rfl⟩
  clear h
  rcases Transaction.bind_eq_error.mp hwrite with hversion | ⟨_, db₁, hok, hrest⟩
  · exact absurd rfl (Transaction.require_eq_error.mp hversion).left
  rw [Transaction.require_eq_ok] at hok
  rcases hok with ⟨_, hsame⟩
  cases hsame
  rcases Transaction.bind_eq_error.mp hrest with hownership | ⟨_, db₂, hok, hwritten⟩
  · have hallowed : validateCaseOwnership scope
        (current.withStatus targetStatus onHoldReason now)
        (caseStatusEvent current targetStatus onHoldReason eventId key actor now) db =
          Except.ok ((), db) :=
      validateCaseOwnership_allows htenant hfree.owner htenant
    rw [hallowed] at hownership
    cases hownership
  have hsame := validateCaseOwnership_eq_ok hok
  subst hsame
  unfold writeCase at hwritten
  rcases Transaction.bind_eq_error.mp hwritten with hvisible | ⟨visible, db₃, hvisible, hset⟩
  · rcases visibleCases_error hvisible with ⟨message, rfl⟩
    exact Or.inl rfl
  have hsame := visibleCases_eq_ok hvisible
  subst hsame
  rcases Transaction.bind_eq_error.mp hset with hupdate | ⟨affected, db₄, _, hlast⟩
  · refine updateCase_error ?_ hupdate
    intro r hr hwhere
    rw [Bool.and_eq_true, decide_eq_true_eq] at hwhere
    have hr' : db₃.cases.rows.get caseId = some r := by
      rw [← hid]
      exact hr
    have hsame := hcurrent r hr' hwhere.left
    subst hsame
    exact hfree.free hr'
  rcases Transaction.bind_eq_error.mp hlast with hraced | ⟨_, _, _, hevent⟩
  · rw [← (Transaction.require_eq_error.mp hraced).right]
    exact Or.inl rfl
  · exact insertCaseEvent_error rfl hevent

/-- What nobody handles, neither the service nor the API. -/
def Failure.stray (e : Failure) : Prop :=
  (exists message, e = Failure.valueError message) ∨
    exists caseId, e = Failure.activeCaseConflict caseId

theorem Failure.stray.not_handled (h : e.stray) : ¬e.handled := by
  rcases h with ⟨message, rfl⟩ | ⟨caseId, rfl⟩
  · exact Bool.false_ne_true
  · exact Bool.false_ne_true

theorem writeCase_taken (event : SupportCaseEvent)
    (hvisible : caseVisibility scope = Except.ok p) (hp : p current = true)
    (hget : db.cases.rows.get current.caseId = some current)
    (hchecks : (current.withStatus targetStatus onHoldReason now).checks = true)
    (htaken : CaseTaken db.cases { current with status := targetStatus }) :
    exists k, (k = UniqueConstraint.supportCasesActiveThreadType ∨
        k = UniqueConstraint.supportCasesActiveDeliveryOrder) ∧
      writeCase scope (current.withStatus targetStatus onHoldReason now) event
        current.version db = Except.error (Failure.uniqueViolation k) := by
  have hsome : activeCaseTaken db (current.withStatus targetStatus onHoldReason now) ≠ none :=
    fun hnone => (activeCaseTaken_eq_none hchecks).mp hnone htaken
  rcases Option.ne_none_iff_exists'.mp hsome with ⟨k, hk⟩
  refine ⟨k, activeCaseTaken_constraint hk, ?_⟩
  have hrefused : refuseCase db
      ((current.withStatus targetStatus onHoldReason now).setFrom current) =
        some (Failure.uniqueViolation k) := by
    show refuseCase db (current.withStatus targetStatus onHoldReason now) = _
    unfold refuseCase
    rw [if_neg (by rw [hchecks]; exact Bool.true_eq_false_eq_False), hk]
    rfl
  have hupdate : updateCase current.caseId
      (fun r => decide (r.version = current.version) && p r)
      (current.withStatus targetStatus onHoldReason now).setFrom db =
        Except.error (Failure.uniqueViolation k) := by
    unfold updateCase
    simp only [hget, decide_true, hp, Bool.and_self, if_true, hrefused]
  refine Transaction.bind_eq_error.mpr (Or.inr ⟨p, db, ?_, ?_⟩)
  · unfold visibleCases
    rw [hvisible]
    rfl
  · exact Transaction.bind_eq_error.mpr (Or.inl hupdate)

theorem updateCaseWithEvent_hindered (hvisible : caseVisibility scope = Except.ok p)
    (hp : p current = true)
    (hchecks : db.cases.rows.get caseId = some current ->
      (current.withStatus targetStatus onHoldReason now).checks = true)
    (h : ¬Unhindered scope caseId targetStatus current db) :
    exists e, e.stray ∧
      updateCaseWithEvent scope (current.withStatus targetStatus onHoldReason now)
        (caseStatusEvent current targetStatus onHoldReason eventId key actor now)
        current.version db = Except.error e := by
  have htenant := caseVisibility_tenant hvisible hp
  -- the version of the new row is right, so the checks of the owner come next
  have hbegun : forall {e : Failure},
      (do
        validateCaseOwnership scope (current.withStatus targetStatus onHoldReason now)
          (caseStatusEvent current targetStatus onHoldReason eventId key actor now)
        writeCase scope (current.withStatus targetStatus onHoldReason now)
          (caseStatusEvent current targetStatus onHoldReason eventId key actor now)
          current.version : Tx Unit) db = Except.error e ->
      updateCaseWithEvent scope (current.withStatus targetStatus onHoldReason now)
        (caseStatusEvent current targetStatus onHoldReason eventId key actor now)
        current.version db = Except.error (caseWriteError
          (caseStatusEvent current targetStatus onHoldReason eventId key actor now)
          "Failed to update support case" e) := by
    intro e he
    refine Transaction.translate_eq_error.mpr ⟨e, ?_, rfl⟩
    exact Transaction.bind_eq_error.mpr
      (Or.inr ⟨(), db, Transaction.require_eq_ok.mpr ⟨rfl, rfl⟩, he⟩)
  by_cases howner : scope.role = Role.customer -> some current.customerId = scope.customerId
  · have hget : db.cases.rows.get caseId = some current := by
      by_contra hno
      exact h ⟨howner, fun hget => absurd hget hno⟩
    have htaken : CaseTaken db.cases { current with status := targetStatus } := by
      by_contra hno
      exact h ⟨howner, fun _ => hno⟩
    have hsame : db.cases.rows.get current.caseId = some current := by
      rw [Table.get_key hget]
      exact hget
    rcases writeCase_taken
      (caseStatusEvent current targetStatus onHoldReason eventId key actor now)
      hvisible hp hsame (hchecks hget) htaken with ⟨k, hk, hwrite⟩
    refine ⟨_, ?_, hbegun (Transaction.bind_eq_error.mpr (Or.inr ⟨(), db,
      validateCaseOwnership_allows htenant howner htenant, hwrite⟩))⟩
    rcases hk with rfl | rfl
    · exact Or.inr ⟨_, rfl⟩
    · exact Or.inr ⟨_, rfl⟩
  · refine ⟨_, ?_, hbegun (Transaction.bind_eq_error.mpr (Or.inl
      (Transaction.bind_eq_error.mpr (Or.inr ⟨(), db,
        Transaction.require_eq_ok.mpr ⟨htenant, rfl⟩, Transaction.bind_eq_error.mpr
          (Or.inl (Transaction.require_eq_error.mpr ⟨howner, rfl⟩))⟩))))⟩
    exact Or.inl ⟨_, rfl⟩

end Write

section Checks

variable {now : Time}
  (hreason : targetStatus = CaseStatus.onHold ↔ onHoldReason.isSome = true)
  (hnow : current.createdAt ≤ now)

include hreason hnow

theorem withStatus_valid (hvalid : current.valid = true) :
    (current.withStatus targetStatus onHoldReason now).valid = true := by
  unfold SupportCase.valid at hvalid ⊢
  simp only [Bool.and_eq_true, decide_eq_true_eq] at hvalid ⊢
  rcases hvalid with ⟨⟨⟨⟨⟨_, _⟩, horder⟩, hcodes⟩, hexcerpt⟩, _⟩
  exact ⟨⟨⟨⟨⟨hnow, hreason⟩, horder⟩, hcodes⟩, hexcerpt⟩, Nat.le_add_left 1 _⟩

theorem withStatus_checks (hchecks : current.checks = true) :
    (current.withStatus targetStatus onHoldReason now).checks = true := by
  unfold SupportCase.checks at hchecks ⊢
  simp only [Bool.and_eq_true, decide_eq_true_eq] at hchecks ⊢
  rcases hchecks with ⟨⟨⟨⟨_, _⟩, horder⟩, hcodes⟩, hlength⟩
  exact ⟨⟨⟨⟨hnow, hreason⟩, horder⟩, hcodes⟩, hlength⟩

end Checks

end Failures

/-!
## The points of the call

What is left of a call of `change_status` is one of eight programs.  At two of
them the call holds a case that it has read.
-/

/-- The write of one attempt, and what follows it. -/
def statusWrite (scope : AccessScope) (caseId : UUID) (targetStatus : CaseStatus)
    (onHoldReason : Option OnHoldReason) (key : String) (clock : Nat -> Time) (n : Nat)
    (current : SupportCase) (eventId : UUID) : Call CaseServiceResult :=
  updateCaseOrRetry scope key current
    (current.withStatus targetStatus onHoldReason (clock n))
    (caseStatusEvent current targetStatus onHoldReason eventId key scope.identity (clock n))
    CaseServiceAction.statusChanged
    (statusAttempts scope caseId targetStatus onHoldReason key clock n)

/-- The case of a recorded request. -/
def recordedCase (scope : AccessScope) (event : SupportCaseEvent) : Call CaseServiceResult := do
  let case ← getCaseOrRaise scope event.caseId
  pure (caseUnchanged case)

/-- After a write that has met the key of the request: the case of its event. -/
def duplicateCase (scope : AccessScope) (again : Call CaseServiceResult)
    (event : SupportCaseEvent) : Call CaseServiceResult := do
  let case ← Program.perform (findCase scope event.caseId)
  match case with
  | some case => pure (caseUnchanged case)
  | none => again

/-- After a write that has met the key of the request: its event. -/
def duplicateEvent (scope : AccessScope) (key : String) (again : Call CaseServiceResult) :
    Call CaseServiceResult := do
  let duplicate ← Program.perform (findCaseEventByIdempotencyKey scope key)
  match duplicate with
  | none => again
  | some event => duplicateCase scope again event

/-- A case that has been read, when others have written it or not. -/
structure AsRead (scope : AccessScope) (caseId : UUID) (current : SupportCase)
    (db : Database) : Prop where
  visible : exists p, caseVisibility scope = Except.ok p ∧ p current = true
  row : exists c, db.cases.rows.get caseId = some c ∧ c.frozen = current.frozen ∧
    current.version ≤ c.version ∧ (c.version = current.version -> c = current)

theorem AsRead.later {scope : AccessScope} {caseId : UUID} {current : SupportCase}
    {db db' : Database} (h : AsRead scope caseId current db) (hlater : Later db db') :
    AsRead scope caseId current db' := by
  refine ⟨h.visible, ?_⟩
  rcases h.row with ⟨c, hget, hfrozen, hversion, hsame⟩
  rcases hlater.cases caseId c hget with ⟨c', hget', hfrozen', hversion', hsame'⟩
  refine ⟨c', hget', hfrozen'.trans hfrozen, Nat.le_trans hversion hversion', ?_⟩
  intro heq
  have hfirst : c.version = current.version := by omega
  rw [hsame' (heq.trans hfirst.symm), hsame hfirst]

section Call

variable (scope : AccessScope) (caseId : UUID) (targetStatus : CaseStatus)
  (onHoldReason : Option OnHoldReason) (key : String) (clock : Nat -> Time)

inductive StatusPoint (db : Database) : Call CaseServiceResult -> Prop
  | replay : StatusPoint db (replayedCase scope key
      (statusAttempts scope caseId targetStatus onHoldReason key clock maxWriteAttempts))
  | recorded (event : SupportCaseEvent) : StatusPoint db (recordedCase scope event)
  | attempt (n : Nat) :
      StatusPoint db (statusAttempts scope caseId targetStatus onHoldReason key clock n)
  | fresh (n : Nat) (current : SupportCase) (read : AsRead scope caseId current db) :
      StatusPoint db (freshId >>=
        statusWrite scope caseId targetStatus onHoldReason key clock n current)
  | write (n : Nat) (current : SupportCase) (eventId : UUID)
      (read : AsRead scope caseId current db) : StatusPoint db
        (statusWrite scope caseId targetStatus onHoldReason key clock n current eventId)
  | duplicate (n : Nat) : StatusPoint db (duplicateEvent scope key
      (statusAttempts scope caseId targetStatus onHoldReason key clock n))
  | found (n : Nat) (event : SupportCaseEvent) : StatusPoint db (duplicateCase scope
      (statusAttempts scope caseId targetStatus onHoldReason key clock n) event)
  | ended (r : Except Failure CaseServiceResult)
      (handled : forall e, r = Except.error e -> e.handled) : StatusPoint db (Program.done r)

variable {scope caseId targetStatus onHoldReason key clock} {db db' : Database}
  {q q' : Call CaseServiceResult} {Fault : Failure -> Prop}

theorem StatusPoint.later
    (h : StatusPoint scope caseId targetStatus onHoldReason key clock db q)
    (hlater : Later db db') :
    StatusPoint scope caseId targetStatus onHoldReason key clock db' q := by
  cases h with
  | replay => exact StatusPoint.replay
  | recorded event => exact StatusPoint.recorded event
  | attempt n => exact StatusPoint.attempt n
  | fresh n current read => exact StatusPoint.fresh n current (read.later hlater)
  | write n current eventId read =>
      exact StatusPoint.write n current eventId (read.later hlater)
  | duplicate n => exact StatusPoint.duplicate n
  | found n event => exact StatusPoint.found n event
  | ended r handled => exact StatusPoint.ended r handled

theorem StatusPoint.failed {e : Failure}
    (h : StatusPoint scope caseId targetStatus onHoldReason key clock db
      (Program.done (Except.error e))) : e.handled := by
  generalize hq : (Program.done (Except.error e) : Call CaseServiceResult) = q at h
  cases h with
  | ended r handled =>
      cases hq
      exact handled e rfl
  | attempt n =>
      cases n with
      | zero =>
          cases hq
          exact rfl
      | succ n => cases hq
  | _ => cases hq

theorem StatusPoint.raised {e : Failure} (h : e.handled) :
    StatusPoint scope caseId targetStatus onHoldReason key clock db
      (Program.raise e : Call CaseServiceResult) := by
  refine StatusPoint.ended _ ?_
  intro e' he'
  cases he'
  exact h

theorem StatusPoint.returned {result : CaseServiceResult} :
    StatusPoint scope caseId targetStatus onHoldReason key clock db
      (pure result : Call CaseServiceResult) :=
  StatusPoint.ended _ fun _ he => (by cases he)


theorem findCaseEvent_step {f : Option SupportCaseEvent -> Call CaseServiceResult}
    (h : Program.Advance Failure.ofStorage
      (Program.perform (findCaseEventByIdempotencyKey scope key) >>= f) db q db') :
    db' = db ∧ ((exists found, q = f found) ∨ exists e, e.handled ∧ q = Program.raise e) := by
  rcases h.of_perform_bind with ⟨found, hread, rfl⟩ | ⟨rfl, e, he, rfl⟩
  · unfold findCaseEventByIdempotencyKey at hread
    rw [Transaction.read_eq_ok] at hread
    cases hread
    exact ⟨rfl, Or.inl ⟨_, rfl⟩⟩
  · refine ⟨rfl, Or.inr ⟨e, ?_, rfl⟩⟩
    rcases he with hfault | hraise
    · exact Failure.handled_of_storage hfault
    · cases hraise

theorem findCase_found {found : Option SupportCase}
    (h : findCase scope caseId db = Except.ok (found, db')) :
    db' = db ∧ forall c, found = some c ->
      (exists p, caseVisibility scope = Except.ok p ∧ p c = true) ∧
      db.cases.rows.get caseId = some c := by
  refine ⟨(findCase_spec h).left, ?_⟩
  simp only [findCase, Transaction.bind_eq_ok] at h
  rcases h with ⟨visible, db₁, hvisible, hfetch⟩
  have hsame := visibleCases_eq_ok hvisible
  subst hsame
  intro c hc
  have hget := Option.filter_eq_some_iff.mp ((fetchCase_eq_ok hfetch).right c hc)
  refine ⟨?_, hget.left⟩
  unfold visibleCases at hvisible
  cases hp : caseVisibility scope with
  | error e =>
      rw [hp] at hvisible
      cases hvisible
  | ok p =>
      simp only [hp, Transaction.pure_eq_ok, Prod.mk.injEq] at hvisible
      exact ⟨p, rfl, by rw [hvisible.left]; exact hget.right⟩

theorem findCase_answer {next : Except Failure (Option SupportCase) -> Call CaseServiceResult}
    (hdb : Sound db) (h : Program.Advance Failure.ofStorage
      (Program.call (findCase scope caseId) next) db q db') :
    db' = db ∧ ((exists found, q = next (Except.ok found) ∧ forall c, found = some c ->
        (exists p, caseVisibility scope = Except.ok p ∧ p c = true) ∧
        db.cases.rows.get caseId = some c) ∨
      exists e, e.handled ∧ q = next (Except.error e)) := by
  rcases h.of_call with ⟨found, hread, rfl⟩ | ⟨rfl, e, he, rfl⟩
  · exact ⟨(findCase_found hread).left, Or.inl ⟨found, rfl, (findCase_found hread).right⟩⟩
  · refine ⟨rfl, Or.inr ⟨e, ?_, rfl⟩⟩
    rcases he with hfault | hraise
    · exact Failure.handled_of_storage hfault
    · exact findCase_error hdb hraise

theorem getCaseOrRaise_step {f : SupportCase -> Call CaseServiceResult}
    (hdb : Sound db) (h : Program.Advance Failure.ofStorage
      (getCaseOrRaise scope caseId >>= f) db q db') :
    db' = db ∧ ((exists c, q = f c ∧
        (exists p, caseVisibility scope = Except.ok p ∧ p c = true) ∧
        db.cases.rows.get caseId = some c) ∨
      exists e, e.handled ∧ q = Program.raise e) := by
  rcases findCase_answer hdb h with ⟨hsame, ⟨found, rfl, hfound⟩ | ⟨e, he, rfl⟩⟩
  · refine ⟨hsame, ?_⟩
    cases found with
    | none =>
        have hmissing : (Failure.caseNotFound caseId).handled := rfl
        exact Or.inr ⟨_, hmissing, rfl⟩
    | some c => exact Or.inl ⟨c, rfl, hfound c rfl⟩
  · exact ⟨hsame, Or.inr ⟨e, he, rfl⟩⟩

theorem freshId_step {f : UUID -> Call CaseServiceResult}
    (h : Program.Advance Failure.ofStorage (freshId >>= f) db q db') :
    db'.cases = db.cases ∧
      ((exists id, q = f id) ∨ exists e, e.handled ∧ q = Program.raise e) := by
  rcases Program.Advance.of_perform_bind h with ⟨id, hnew, rfl⟩ | ⟨rfl, e, he, rfl⟩
  · exact ⟨(newId_spec hnew).cases, Or.inl ⟨id, rfl⟩⟩
  · refine ⟨rfl, Or.inr ⟨e, ?_, rfl⟩⟩
    rcases he with hfault | hraise
    · exact Failure.handled_of_storage hfault
    · cases hraise

theorem updateCaseOrRetry_step {current updated : SupportCase} {event : SupportCaseEvent}
    {action : CaseServiceAction} {again : Call CaseServiceResult}
    (h : Program.Advance Fault
      (updateCaseOrRetry scope key current updated event action again) db q db') :
    (exists result, q = pure result) ∨
      (db' = db ∧ exists e, (Fault e ∨
          (updateCaseWithEvent scope updated event current.version db = Except.error e ∧
            Program.Advance (fun _ => False)
              (updateCaseOrRetry scope key current updated event action again) db q db')) ∧
        (q = duplicateEvent scope key again ∨ q = again ∨
          (q = Program.raise e ∧ forall key, e ≠ Failure.duplicateIdempotencyKey key))) := by
  rcases Program.Advance.of_call h with ⟨_, _, rfl⟩ | ⟨rfl, e, he, rfl⟩
  · exact Or.inl ⟨_, rfl⟩
  · refine Or.inr ⟨rfl, e, he.imp_right fun hraise =>
      ⟨hraise, Program.Advance.raise hraise⟩, ?_⟩
    cases e with
    | duplicateIdempotencyKey key' => exact Or.inl rfl
    | concurrentCaseUpdate message => exact Or.inr (Or.inl rfl)
    | _ => exact Or.inr (Or.inr ⟨rfl, fun _ he => (by cases he)⟩)

theorem statusAttempts_step {n : Nat} (hdb : Sound db)
    (hreason : targetStatus = CaseStatus.onHold ↔ onHoldReason.isSome = true)
    (hclock : forall c, db.cases.rows.get caseId = some c -> forall n, c.createdAt ≤ clock n)
    (h : Program.Advance Failure.ofStorage
      (statusAttempts scope caseId targetStatus onHoldReason key clock (n + 1)) db q db') :
    db' = db ∧ ((exists current, AsRead scope caseId current db ∧
        q = freshId >>=
          statusWrite scope caseId targetStatus onHoldReason key clock n current) ∨
      exists r, (forall e, r = Except.error e -> e.handled) ∧ q = Program.done r) := by
  rcases getCaseOrRaise_step hdb h with ⟨rfl, ⟨current, rfl, hvisible, hget⟩ | ⟨e, he, rfl⟩⟩
  swap
  · exact ⟨rfl, Or.inr ⟨_, fun e' he' => by cases he'; exact he, rfl⟩⟩
  refine ⟨rfl, ?_⟩
  by_cases hsame : current.status = targetStatus
  · rw [if_pos hsame]
    exact Or.inr ⟨Except.ok (caseUnchanged current), fun e he => (by cases he), rfl⟩
  have hvalid : (current.withStatus targetStatus onHoldReason (clock n)).valid = true :=
    withStatus_valid hreason (hclock current hget n)
      (hdb.cases.valid current (Table.mem_of_get hget))
  have hother : targetStatus ≠ CaseStatus.onHold -> onHoldReason.isNone = true := by
    intro hne
    cases onHoldReason with
    | none => rfl
    | some reason => exact absurd (hreason.mpr rfl) hne
  rw [if_neg hsame]
  by_cases hallowed : targetStatus ∈ allowedCaseStatusTransitions current.status
  · rw [Program.require_bind hallowed, Program.require_bind hreason.mp,
      Program.require_bind hother, Program.require_bind hvalid]
    exact Or.inl ⟨current, ⟨hvisible, current, hget, rfl, Nat.le_refl _, fun _ => rfl⟩, rfl⟩
  · rw [Program.require_bind_false hallowed]
    exact Or.inr ⟨_, fun e he => by cases he; exact rfl, rfl⟩

/-- One transaction of the call: it goes on, and unless it returns it changes no case. -/
theorem StatusPoint.step (hdb : Sound db) (hlater : Later db db')
    (hreason : targetStatus = CaseStatus.onHold ↔ onHoldReason.isSome = true)
    (hclock : forall c, db.cases.rows.get caseId = some c -> forall n, c.createdAt ≤ clock n)
    (hfree : forall n current eventId,
      q = statusWrite scope caseId targetStatus onHoldReason key clock n current eventId ->
      (exists p, caseVisibility scope = Except.ok p ∧ p current = true) ->
      Program.Advance (fun _ => False) q db q' db' ->
      Unhindered scope caseId targetStatus current db)
    (hpoint : StatusPoint scope caseId targetStatus onHoldReason key clock db q)
    (h : Program.Advance Failure.ofStorage q db q' db') :
    StatusPoint scope caseId targetStatus onHoldReason key clock db' q' ∧
      ((exists result, q' = pure result) ∨ db'.cases = db.cases) := by
  cases hpoint with
  | replay =>
      rcases findCaseEvent_step h with ⟨rfl, ⟨found, rfl⟩ | ⟨e, he, rfl⟩⟩
      · cases found with
        | none => exact ⟨StatusPoint.attempt _, Or.inr rfl⟩
        | some event => exact ⟨StatusPoint.recorded event, Or.inr rfl⟩
      · exact ⟨StatusPoint.raised he, Or.inr rfl⟩
  | recorded event =>
      rcases getCaseOrRaise_step hdb h with ⟨rfl, ⟨c, rfl, _⟩ | ⟨e, he, rfl⟩⟩
      · exact ⟨StatusPoint.returned, Or.inr rfl⟩
      · exact ⟨StatusPoint.raised he, Or.inr rfl⟩
  | attempt n =>
      cases n with
      | zero => exact absurd h Program.Advance.not_done
      | succ n =>
          rcases statusAttempts_step hdb hreason hclock h with
            ⟨rfl, ⟨current, hread, rfl⟩ | ⟨r, hr, rfl⟩⟩
          · exact ⟨StatusPoint.fresh n current hread, Or.inr rfl⟩
          · exact ⟨StatusPoint.ended r hr, Or.inr rfl⟩
  | fresh n current read =>
      rcases freshId_step h with ⟨hcases, ⟨eventId, rfl⟩ | ⟨e, he, rfl⟩⟩
      · exact ⟨StatusPoint.write n current eventId (read.later hlater), Or.inr hcases⟩
      · exact ⟨StatusPoint.raised he, Or.inr hcases⟩
  | write n current eventId read =>
      rcases updateCaseOrRetry_step h with ⟨result, rfl⟩ | ⟨rfl, e, hfailed, hnext⟩
      · exact ⟨StatusPoint.returned, Or.inl ⟨result, rfl⟩⟩
      refine ⟨?_, Or.inr rfl⟩
      rcases hnext with rfl | rfl | ⟨rfl, hplain⟩
      · exact StatusPoint.duplicate n
      · exact StatusPoint.attempt n
      refine StatusPoint.raised ?_
      rcases hfailed with hfault | ⟨hraise, hanswered⟩
      · exact Failure.handled_of_storage hfault
      · rcases read.row with ⟨c, hget, hfrozen, _, hsame⟩
        rcases read.visible with ⟨p, hp, hseen⟩
        have hattempt : e.ofAttempt := by
          refine updateCaseWithEvent_error ?_ (caseVisibility_tenant hp hseen) ?_
            (hfree n current eventId rfl ⟨p, hp, hseen⟩ hanswered) hraise
          · exact (caseId_of_frozen hfrozen).symm.trans (Table.get_key hget)
          · intro r hr
            rw [hget] at hr
            cases hr
            exact hsame
        rcases hattempt with hhandled | ⟨key', rfl⟩
        · exact hhandled
        · exact absurd rfl (hplain key')
  | duplicate n =>
      rcases findCaseEvent_step h with ⟨rfl, ⟨found, rfl⟩ | ⟨e, he, rfl⟩⟩
      · cases found with
        | none => exact ⟨StatusPoint.attempt n, Or.inr rfl⟩
        | some event => exact ⟨StatusPoint.found n event, Or.inr rfl⟩
      · exact ⟨StatusPoint.raised he, Or.inr rfl⟩
  | found n event =>
      rcases findCase_answer hdb h with ⟨rfl, ⟨found, rfl, _⟩ | ⟨e, he, rfl⟩⟩
      · cases found with
        | none => exact ⟨StatusPoint.attempt n, Or.inr rfl⟩
        | some c => exact ⟨StatusPoint.returned, Or.inr rfl⟩
      · exact ⟨StatusPoint.raised he, Or.inr rfl⟩
  | ended r handled => exact absurd h Program.Advance.not_done

theorem statusWrite_hindered {n : Nat} {current : SupportCase} {eventId : UUID}
    (hdb : Sound db)
    (hreason : targetStatus = CaseStatus.onHold ↔ onHoldReason.isSome = true)
    (hclock : forall c, db.cases.rows.get caseId = some c -> forall n, c.createdAt ≤ clock n)
    (hvisible : exists p, caseVisibility scope = Except.ok p ∧ p current = true)
    (hhindered : ¬Unhindered scope caseId targetStatus current db)
    (h : Program.Advance (fun _ => False)
      (statusWrite scope caseId targetStatus onHoldReason key clock n current eventId) db q db') :
    exists e, e.stray ∧ q = Program.done (Except.error e) := by
  rcases hvisible with ⟨p, hp, hseen⟩
  have hchecks : db.cases.rows.get caseId = some current ->
      (current.withStatus targetStatus onHoldReason (clock n)).checks = true := fun hget =>
    withStatus_checks hreason (hclock current hget n)
      (hdb.cases.checked current (Table.mem_of_get hget))
  have hrefused : exists e, e.stray ∧
      updateCaseWithEvent scope (current.withStatus targetStatus onHoldReason (clock n))
        (caseStatusEvent current targetStatus onHoldReason eventId key scope.identity (clock n))
        current.version db = Except.error e :=
    updateCaseWithEvent_hindered hp hseen hchecks hhindered
  rcases hrefused with ⟨e, hstray, hraise⟩
  rcases Program.Advance.of_call h with ⟨_, hok, _⟩ | ⟨_, e', hno | herror, rfl⟩
  · rw [hraise] at hok
    cases hok
  · exact absurd hno not_false
  rw [hraise] at herror
  cases herror
  refine ⟨e, hstray, ?_⟩
  rcases hstray with ⟨message, rfl⟩ | ⟨caseId', rfl⟩
  · exact rfl
  · exact rfl

theorem changeStatus_begins {requestId : String} (hrequest : Text.strip requestId ≠ "") :
    StatusPoint scope caseId targetStatus onHoldReason
      ("status:" ++ toString caseId ++ ":" ++ Text.strip requestId) clock db
      (changeStatus scope caseId targetStatus requestId onHoldReason clock) := by
  have hnormal : normalizeRequestId requestId = Except.ok (Text.strip requestId) :=
    if_neg hrequest
  unfold changeStatus
  by_cases hpermission : scope.hasPermission Permission.casesUpdateAssigned = true ∨
      scope.hasPermission Permission.casesUpdateAll = true
  · rw [Program.require_bind hpermission, hnormal]
    exact StatusPoint.replay
  · rw [Program.require_bind_false hpermission]
    exact StatusPoint.raised rfl

end Call

/-!
## The contract
-/

/--
In this stage the call in the given place makes a write attempt of `change_status`
for the case as it has read it, and the storage carries the transaction out: it
commits, or the database refuses it.
-/
structure WritesStatus (i : Nat) (scope : AccessScope) (caseId : UUID)
    (targetStatus : CaseStatus) (onHoldReason : Option OnHoldReason) (clock : Nat -> Time)
    (current : SupportCase) (y : Stage World Event) : Prop where
  advances : Advances i y
  attempt : exists key n eventId, y.before.calls[i]? = some ⟨CaseServiceResult,
    statusWrite scope caseId targetStatus onHoldReason key clock n current eventId⟩
  visible : exists p, caseVisibility scope = Except.ok p ∧ p current = true
  answered : MeetsOnly (fun _ => False) i y

theorem MeetsOnly.of_advance {Fault : Failure -> Prop} {i : Nat} {y : Stage World Event}
    {α : Type} {q q' : Call α} (hbefore : y.before.calls[i]? = some ⟨α, q⟩)
    (hafter : y.after.calls[i]? = some ⟨α, q'⟩)
    (h : Program.Advance Fault q y.before.db q' y.after.db) : MeetsOnly Fault i y := by
  intro β p p' hp hp' _
  rw [hbefore] at hp
  rw [hafter] at hp'
  have hp : (⟨α, q⟩ : Running) = ⟨β, p⟩ := Option.some.inj hp
  cases hp
  have hp' : (⟨α, q'⟩ : Running) = ⟨α, p'⟩ := Option.some.inj hp'
  cases hp'
  exact h

section Contract

variable {stages : List (Stage World Event)} {w : World} {x : Stage World Event} {i : Nat}
  {scope : AccessScope} {caseId : UUID} {targetStatus : CaseStatus} {requestId : String}
  {onHoldReason : Option OnHoldReason} {clock : Nat -> Time}
  {r : Except Failure CaseServiceResult}

theorem changeStatus_unhindered (h : World.Runs stages w) (hx : x ∈ stages)
    (hbegins : Begins i
      (changeStatus scope caseId targetStatus requestId onHoldReason clock) x)
    (hended : w.Ended i r)
    (hmeets : forall y, y ∈ stages -> MeetsOnly Failure.ofStorage i y)
    (hrequest : Text.strip requestId ≠ "")
    (hreason : targetStatus = CaseStatus.onHold ↔ onHoldReason.isSome = true)
    (hclock : forall y, y ∈ stages -> Advances i y -> forall c,
      y.before.db.cases.rows.get caseId = some c -> forall n, c.createdAt ≤ clock n)
    (hfree : forall y, y ∈ stages -> forall current,
      WritesStatus i scope caseId targetStatus onHoldReason clock current y ->
      Unhindered scope caseId targetStatus current y.before.db) :
    (exists result, r = Except.ok result) ∨
    exists e, r = Except.error e ∧ e.handled ∧
      forall y, y ∈ stages -> Advances i y -> y.after.db.cases = y.before.db.cases := by
  have hgood := h.good.right
  have hpoints := h.along hx hbegins hmeets
    (I := fun past w q =>
      StatusPoint scope caseId targetStatus onHoldReason
        ("status:" ++ toString caseId ++ ":" ++ Text.strip requestId) clock w.db q ∧
      ((exists result, q = pure result) ∨ forall y, y ∈ past -> Advances i y ->
        y.after.db.cases = y.before.db.cases)) ?_ ?_ ?_
  · rcases hpoints with ⟨q, hnow, hpoint, hkept⟩
    unfold World.Ended at hended
    rw [hended] at hnow
    have hnow : (⟨_, Program.done r⟩ : Running) = ⟨_, q⟩ := Option.some.inj hnow
    cases hnow
    cases r with
    | ok result => exact Or.inl ⟨result, rfl⟩
    | error e =>
        refine Or.inr ⟨e, rfl, hpoint.failed, ?_⟩
        rcases hkept with ⟨result, hreturned⟩ | hkept
        · cases hreturned
        · exact hkept
  · intro past y _ hnone
    exact ⟨changeStatus_begins hrequest,
      Or.inr fun z hz hadvances => absurd hadvances (hnone z hz)⟩
  · rintro past y q hy hother _ ⟨hpoint, hkept⟩
    refine ⟨hpoint.later (hgood y hy).later, hkept.imp_right fun hkept z hz hadvances => ?_⟩
    rcases mem_snoc hz with hold | rfl
    · exact hkept z hold hadvances
    · exact absurd hadvances hother
  · rintro past y q q' hy hadvances hbefore hafter hadvance ⟨hpoint, hkept⟩
    have hstep := hpoint.step (hgood y hy).before.sound (hgood y hy).later hreason
      (hclock y hy hadvances) ?_ hadvance
    · refine ⟨hstep.left, hstep.right.imp_right fun hcases z hz hadvances' => ?_⟩
      rcases mem_snoc hz with hold | rfl
      · rcases hkept with ⟨result, rfl⟩ | hkept
        · exact absurd hadvance Program.Advance.not_done
        · exact hkept z hold hadvances'
      · exact hcases
    · rintro n current eventId rfl hvisible hanswered
      exact hfree y hy current ⟨hadvances, ⟨_, n, eventId, hbefore⟩, hvisible,
        MeetsOnly.of_advance hbefore hafter hanswered⟩

theorem changeStatus_hindered (h : World.Runs stages w) (hx : x ∈ stages)
    (hbegins : Begins i
      (changeStatus scope caseId targetStatus requestId onHoldReason clock) x)
    (hended : w.Ended i r)
    (hreason : targetStatus = CaseStatus.onHold ↔ onHoldReason.isSome = true)
    (hclock : forall y, y ∈ stages -> Advances i y -> forall c,
      y.before.db.cases.rows.get caseId = some c -> forall n, c.createdAt ≤ clock n)
    {y : Stage World Event} (hy : y ∈ stages) {current : SupportCase}
    (hwrites : WritesStatus i scope caseId targetStatus onHoldReason clock current y)
    (hhindered : ¬Unhindered scope caseId targetStatus current y.before.db) :
    exists e, r = Except.error e ∧ ¬e.handled := by
  have hgood := h.good.right
  -- once it has failed so, the call has no transaction left
  have hended' := h.along hx hbegins (fun z hz => (hgood z hz).step.meetsOnly i)
    (I := fun past _ q => y ∈ past -> exists e, e.stray ∧ q = Program.done (Except.error e))
    ?_ ?_ ?_
  · rcases hended' with ⟨q, hnow, hfailed⟩
    rcases hfailed hy with ⟨e, hstray, rfl⟩
    unfold World.Ended at hended
    rw [hended] at hnow
    have hnow : (⟨_, Program.done r⟩ : Running) = ⟨_, Program.done (Except.error e)⟩ :=
      Option.some.inj hnow
    cases hnow
    exact ⟨e, rfl, hstray.not_handled⟩
  · intro past z _ hnone hmem
    exact absurd hwrites.advances (hnone y hmem)
  · intro past z q _ hother _ hfailed hmem
    rcases mem_snoc hmem with hold | rfl
    · exact hfailed hold
    · exact absurd hwrites.advances hother
  · intro past z q q' hz hadvances hbefore hafter hadvance hfailed hmem
    rcases mem_snoc hmem with hold | rfl
    · rcases hfailed hold with ⟨e, _, rfl⟩
      exact absurd hadvance Program.Advance.not_done
    · rcases hwrites.attempt with ⟨key, n, eventId, hattempt⟩
      rw [hbefore] at hattempt
      have hattempt : (⟨CaseServiceResult, q⟩ : Running) = ⟨_, _⟩ := Option.some.inj hattempt
      cases hattempt
      exact statusWrite_hindered (hgood y hz).before.sound hreason (hclock y hz hadvances)
        hwrites.visible hhindered (hwrites.answered _ _ _ hbefore hafter hadvance.ne)

end Contract

/--
The error contract of `change_status`, and when it is kept.  In every run, a call
with a well-formed request, a clock that is not before the creation of the case and
a storage that fails as the repository reports it has returned, or it has raised a
failure with a handler and none of its transactions has changed a case or an event,
if and only if each of its writes starts from a state in which the caller is no
customer other than the owner, and no other unresolved case has the place of the
case with its new status.
-/
theorem change_status_contract {stages : List (Stage World Event)} {w : World}
    (h : World.Runs stages w) {x : Stage World Event} (hx : x ∈ stages) {i : Nat}
    {scope : AccessScope} {caseId : UUID} {targetStatus : CaseStatus} {requestId : String}
    {onHoldReason : Option OnHoldReason} {clock : Nat -> Time}
    (hbegins : Begins i
      (changeStatus scope caseId targetStatus requestId onHoldReason clock) x)
    {r : Except Failure CaseServiceResult} (hended : w.Ended i r)
    (hmeets : forall y, y ∈ stages -> MeetsOnly Failure.ofStorage i y)
    (hrequest : Text.strip requestId ≠ "")
    (hreason : targetStatus = CaseStatus.onHold ↔ onHoldReason.isSome = true)
    (hclock : forall y, y ∈ stages -> Advances i y -> forall c,
      y.before.db.cases.rows.get caseId = some c -> forall n, c.createdAt ≤ clock n) :
    ((exists result, r = Except.ok result) ∨
      exists e, r = Except.error e ∧ e.handled ∧
        forall y, y ∈ stages -> Advances i y -> y.after.db.cases = y.before.db.cases) ↔
    forall y, y ∈ stages -> forall current,
      WritesStatus i scope caseId targetStatus onHoldReason clock current y ->
      Unhindered scope caseId targetStatus current y.before.db := by
  constructor
  · intro hcontract y hy current hwrites
    by_contra hhindered
    rcases changeStatus_hindered h hx hbegins hended hreason hclock hy hwrites hhindered with
      ⟨e, rfl, hunhandled⟩
    rcases hcontract with ⟨result, hno⟩ | ⟨e', he', hhandled, _⟩
    · cases hno
    · cases he'
      exact hunhandled hhandled
  · exact changeStatus_unhindered h hx hbegins hended hmeets hrequest hreason hclock

def sampleStatusChange (targetStatus : CaseStatus) (requestId : String) :
    Call CaseServiceResult :=
  changeStatus sampleCaseSupervisor 0 targetStatus requestId none (fun _ => 0)

theorem sampleStatusChange_method (targetStatus : CaseStatus) (requestId : String) :
    Method AnyDecision (sampleStatusChange targetStatus requestId) :=
  Method.changeStatus _ _ _ _ _ _

/-- The work on the case of the example begins. -/
theorem change_status_contract_started :
    exists stages w i, World.Runs stages w ∧
      exists r : Except Failure CaseServiceResult, w.Ended i r ∧
        ((exists result, r = Except.ok result) ∨ exists e, r = Except.error e ∧ e.handled ∧
          forall y, y ∈ stages -> Advances i y -> y.after.db.cases = y.before.db.cases) := by
  rcases sampleInvestigated_runs with ⟨stages, hrun, _⟩
  rcases hrun.serve_traced (sampleStatusChange_method CaseStatus.inProgress "start") with
    ⟨all, x, hall, hx, hbegins, hended, hmeets, hvisited⟩
  have hstates : ((visitedBy (sampleStatusChange CaseStatus.inProgress "start")
      sampleInvestigated.db).all fun db => (db.cases.rows.get 0).all fun c =>
        decide (c.createdAt = 0) && c.unresolved) = true := by
    decide +kernel
  generalize sampleInvestigated = w at *
  have hcase : forall y, y ∈ all -> Advances w.calls.length y -> forall c,
      y.before.db.cases.rows.get 0 = some c -> c.createdAt = 0 ∧ c.unresolved = true := by
    intro y hy hadvances c hc
    have hone := List.all_eq_true.mp hstates _ (hvisited y hy hadvances)
    rw [hc] at hone
    simpa using hone
  have hgood := hall.good.right
  refine ⟨all, _, _, hall, _, hended, (change_status_contract hall hx hbegins hended
    (hmeets Failure.ofStorage) (by decide) (by decide) ?_).mpr ?_⟩
  · intro y hy hadvances c hc n
    rw [(hcase y hy hadvances c hc).left]
  · intro y hy current hwrites
    constructor
    · intro hcustomer
      cases hcustomer
    · intro hc
      exact Unhindered.free_of_unresolved (hgood y hy).before.sound (Table.mem_of_get hc)
        (hcase y hy hwrites.advances current hc).right _

/-- The customer reports once more, when the first case has been resolved. -/
def sampleSecondTrigger : CaseTrigger :=
  { sampleTrigger with sourceMessageId := sampleNextMessageText }

def sampleResolved : World :=
  (sampleInvestigated.serve (sampleStatusChange CaseStatus.inProgress "start")).serve
    (sampleStatusChange CaseStatus.resolved "done")

def sampleReported : World :=
  sampleResolved.serve
    (recordDeliveryInvestigation sampleCustomer sampleSecondTrigger sampleInvestigation
      DeliveryIssueType.packageDamaged "connection" (fun _ => 0))

theorem sampleReported_runs : exists stages, World.Runs stages sampleReported := by
  rcases sampleInvestigated_runs with ⟨stages, hrun, _⟩
  rcases hrun.serve (sampleStatusChange_method CaseStatus.inProgress "start") with
    ⟨first, hfirst, _⟩
  rcases hfirst.serve (sampleStatusChange_method CaseStatus.resolved "done") with
    ⟨second, hsecond, _⟩
  rcases hsecond.serve (Method.recordDeliveryInvestigation sampleCustomer
    sampleSecondTrigger sampleInvestigation DeliveryIssueType.packageDamaged "connection"
    (fun _ => 0) trivial) with ⟨third, hthird, _⟩
  exact ⟨_, hthird⟩

/-- The first case is reopened while the second one is open, and nobody handles that. -/
theorem change_status_reopened : exists stages w x i r,
    World.Runs stages w ∧ x ∈ stages ∧
    Begins i (sampleStatusChange CaseStatus.open "reopen") x ∧
    w.Ended i (r : Except Failure CaseServiceResult) ∧
    (forall y, y ∈ stages -> MeetsOnly Failure.ofStorage i y) ∧
    (forall y, y ∈ stages -> Advances i y -> forall c,
      y.before.db.cases.rows.get 0 = some c -> c.createdAt ≤ 0) ∧
    exists e, r = Except.error e ∧ ¬e.handled := by
  rcases sampleReported_runs with ⟨stages, hrun⟩
  rcases hrun.serve_traced (sampleStatusChange_method CaseStatus.open "reopen") with
    ⟨all, x, hall, hx, hbegins, hended, hmeets, hvisited⟩
  have hstates : ((visitedBy (sampleStatusChange CaseStatus.open "reopen")
      sampleReported.db).all fun db => (db.cases.rows.get 0).all fun c =>
        decide (c.createdAt ≤ 0)) = true := by
    decide +kernel
  have herror : (match ((sampleStatusChange CaseStatus.open "reopen").run
      sampleReported.db).1 with
    | Except.ok _ => none
    | Except.error e => some e) = some (Failure.activeCaseConflict 0) := by
    decide +kernel
  generalize sampleReported = w at *
  refine ⟨all, _, x, _, _, hall, hx, hbegins, hended, hmeets _, ?_,
    Failure.activeCaseConflict 0, ?_, Bool.false_ne_true⟩
  · intro y hy hadvances c hc
    have hone := List.all_eq_true.mp hstates _ (hvisited y hy hadvances)
    rw [hc] at hone
    exact decide_eq_true_eq.mp hone
  cases hr : ((sampleStatusChange CaseStatus.open "reopen").run w.db).1 with
  | ok result =>
      rw [hr] at herror
      cases herror
  | error e =>
      rw [hr] at herror
      rw [Option.some.inj herror]

end RefundAgent
