import RefundAgent.Foundation.Ledger
import RefundAgent.System.Reach

/-!
# Manual redrives

The audit records of a message are the ledger of its cycles.  A request is
answered from its record as soon as it has one, so a repeated request gets the
view of the first and changes nothing, whatever has become of the message.
-/

namespace RefundAgent

open Foundation

/-!
## The ledger
-/

def OutboxRedrive.span (r : OutboxRedrive) : Nat × Nat :=
  (r.previousCycle, r.newCycle)

def InboxRedrive.span (r : InboxRedrive) : Nat × Nat :=
  (r.previousCycle, r.newCycle)

def OutboxLedger (t : OutboxTables) : Prop :=
  Ledger OutboxRedrive.commandId OutboxRedrive.span (fun m => m.deliveryCycle)
    t.messages t.redrives.rows

def InboxLedger (t : InboxTables) : Prop :=
  Ledger InboxRedrive.inboxId InboxRedrive.span (fun m => m.processingCycle)
    t.messages t.redrives.rows

theorem OutboxStep.ledger {l : OutboxLabel} {t u : OutboxTables}
    (h : OutboxStep l t u) (ht : OutboxLedger t) : OutboxLedger u := by
  unfold OutboxLedger at ht ⊢
  cases h with
  | keep => exact ht
  | queue valid free insert => exact ht.insert insert rfl
  | claim get due worker insert => exact ht.rewrite get rfl rfl
  | renew get held => exact ht.rewrite get rfl rfl
  | @finish _ e m a get held getAttempt ofCommand isOpen allowed checks =>
      exact ht.rewrite get (e.message_commandId m) (e.message_deliveryCycle m)
  | redrive get dead insert audit =>
      show Ledger _ _ _ _ _
      rw [(Table.insert?_eq_some.mp insert).right]
      refine ht.advance get rfl rfl audit.right.left ?_
      exact Prod.ext audit.right.right.left audit.right.right.right

theorem InboxStep.ledger {l : InboxLabel} {t u : InboxTables}
    (h : InboxStep l t u) (ht : InboxLedger t) : InboxLedger u := by
  unfold InboxLedger at ht ⊢
  cases h with
  | keep => exact ht
  | receive fresh insert => exact ht.insert insert fresh.cycle
  | claim get due worker insert => exact ht.rewrite get rfl rfl
  | renew get held => exact ht.rewrite get rfl rfl
  | @finish _ e m a get held getAttempt ofMessage isOpen allowed =>
      exact ht.rewrite get (e.message_inboxId m) (e.message_processingCycle m)
  | redrive get failed insert audit =>
      show Ledger _ _ _ _ _
      rw [(Table.insert?_eq_some.mp insert).right]
      exact ht.advance get rfl rfl audit.left (Prod.ext audit.right.left audit.right.right)

structure Ledgered (db : Database) : Prop where
  outbox : OutboxLedger db.outbox
  inbox : InboxLedger db.inbox

theorem Ledgered.initial (ids : Supply) : Ledgered (Database.initial ids) :=
  ⟨Ledger.empty, Ledger.empty⟩

theorem World.Runs.ledgered {stages : List (Stage World Event)} {w : World}
    (h : World.Runs stages w) : Ledgered w.db := by
  refine (h.kept Ledgered.initial ?_).left
  intro l d d' hmove _ hd
  exact ⟨hmove.outbox.ledger hd.outbox, hmove.inbox.ledger hd.inbox⟩

/-!
## Audit records
-/

structure AuditsKept (db db' : Database) : Prop where
  outbox : forall tenantId requestId row,
    outboxAuditForRequest db tenantId requestId = some row ->
    outboxAuditForRequest db' tenantId requestId = some row
  inbox : forall tenantId requestId row,
    inboxAuditForRequest db tenantId requestId = some row ->
    inboxAuditForRequest db' tenantId requestId = some row

theorem AuditsKept.refl (db : Database) : AuditsKept db db :=
  ⟨fun _ _ _ h => h, fun _ _ _ h => h⟩

theorem AuditsKept.trans {a b c : Database} (h : AuditsKept a b) (h' : AuditsKept b c) :
    AuditsKept a c :=
  ⟨fun t q r hr => h'.outbox t q r (h.outbox t q r hr),
    fun t q r hr => h'.inbox t q r (h.inbox t q r hr)⟩

theorem find?_append_left {α : Type} {p : α -> Bool} {xs ys : List α} {a : α}
    (h : xs.find? p = some a) : (xs ++ ys).find? p = some a := by
  rw [List.find?_append, h]
  rfl

theorem OutboxStep.redrives_append {l : OutboxLabel} {t u : OutboxTables}
    (h : OutboxStep l t u) : exists new, u.redrives.rows = t.redrives.rows ++ new := by
  cases h with
  | redrive get dead insert audit => exact ⟨_, (Table.insert?_eq_some.mp insert).right⟩
  | _ => exact ⟨[], (List.append_nil _).symm⟩

theorem InboxStep.redrives_append {l : InboxLabel} {t u : InboxTables}
    (h : InboxStep l t u) : exists new, u.redrives.rows = t.redrives.rows ++ new := by
  cases h with
  | redrive get failed insert audit => exact ⟨_, (Table.insert?_eq_some.mp insert).right⟩
  | _ => exact ⟨[], (List.append_nil _).symm⟩

theorem Move.audits_kept {l : Label} {db db' : Database} (h : Move l db db') :
    AuditsKept db db' := by
  rcases h.outbox.redrives_append with ⟨new, hnew⟩
  rcases h.inbox.redrives_append with ⟨new', hnew'⟩
  refine ⟨?_, ?_⟩
  · intro tenantId requestId row hrow
    unfold outboxAuditForRequest at hrow ⊢
    rw [hnew]
    exact find?_append_left hrow
  · intro tenantId requestId row hrow
    unfold inboxAuditForRequest at hrow ⊢
    rw [hnew']
    exact find?_append_left hrow

theorem Moves.audits_kept {P : Label -> Prop} {db db' : Database} (h : Moves P db db') :
    AuditsKept db db' := by
  refine h.preserves (I := AuditsKept db) ?_ (AuditsKept.refl db)
  intro l d d' _ hmove hd
  exact hd.trans hmove.audits_kept

theorem World.Runs.audits_kept {stages : List (Stage World Event)} {w : World}
    (h : World.Runs stages w) {x : Stage World Event} (hx : x ∈ stages) :
    AuditsKept x.before.db x.after.db ∧ AuditsKept x.after.db w.db := by
  have hgood := h.good.right
  have hstage : forall y, y ∈ stages -> AuditsKept y.before.db y.after.db :=
    fun y hy => (hgood y hy).did.moves.audits_kept
  rcases h with ⟨ids, hrun⟩
  have htrans : forall {a b c : World}, AuditsKept a.db b.db -> AuditsKept b.db c.db ->
      AuditsKept a.db c.db := fun h h' => h.trans h'
  exact ⟨hstage x hx, ((hrun.relates (R := fun w w' => AuditsKept w.db w'.db)
    (fun w => AuditsKept.refl w.db) htrans hstage).right x hx).right⟩

/-!
## Requests

The outbox and the inbox have the same protocol: look for a record of the
request, lock and look again, or find the record after the insert has failed.
-/

section Requests

variable {ρ : Type} {look : Database -> Option ρ}
  {validate : ρ -> Except Failure ProviderRedriveView} {tx : Tx ProviderRedriveView}
  {audit : UniqueConstraint} {missing : Failure}

/-- The request is on record with the given view. -/
def OnRecord (look : Database -> Option ρ)
    (validate : ρ -> Except Failure ProviderRedriveView) (db : Database)
    (view : ProviderRedriveView) : Prop :=
  exists row, look db = some row ∧ validate row = Except.ok view

/-- `redrive_outbox` and `redrive_inbox` after the authorization. -/
def redriveProtocol (look : Database -> Option ρ)
    (validate : ρ -> Except Failure ProviderRedriveView) (tx : Tx ProviderRedriveView)
    (audit : UniqueConstraint) (missing : Failure) :
    Program Database Failure ProviderRedriveView :=
  (replayOr look validate tx).rescue (redriveFailure audit do
    let row ← Program.perform (Transaction.fetch look missing)
    Program.done (validate row))

/-- The errors of a replay are none that the protocol handles. -/
def PlainErrors (validate : ρ -> Except Failure ProviderRedriveView) : Prop :=
  forall row e, validate row = Except.error e ->
    exists code, e = Failure.providerOperationsConflict code

theorem redriveProtocol_answers (look : Database -> Option ρ)
    (tx : Tx ProviderRedriveView) (audit : UniqueConstraint) (missing : Failure)
    {db : Database} {row : ρ} (hlook : forall t, AuditsKept db t -> look t = some row)
    (hplain : PlainErrors validate) :
    Program.Answers AuditsKept (redriveProtocol look validate tx audit missing) db
      (validate row) := by
  intro t hdt _
  refine ⟨?_, ?_⟩
  · rintro e (he | he)
    · cases he
    · cases he
  · intro found u hu
    rw [Transaction.read_eq_ok] at hu
    cases hu
    refine ⟨rfl, ?_⟩
    rw [hlook t hdt]
    show Program.Safe _ _ _ _ ((Program.done (validate row)).rescue _) _ _
    cases hvalid : validate row with
    | ok view => exact fun _ _ _ => rfl
    | error e =>
        rcases hplain row e hvalid with ⟨code, rfl⟩
        exact fun _ _ _ => rfl

theorem redriveProtocol_records {db : Database}
    (hkept : forall {t u row}, AuditsKept t u -> look t = some row -> look u = some row)
    (htx : forall {t view u}, tx t = Except.ok (view, u) ->
      AuditsKept t u ∧ OnRecord look validate u view) :
    Program.Safe (fun _ => True) AuditsKept AuditsKept (fun _ => True)
      (redriveProtocol look validate tx audit missing) db
      (fun r t => forall view, r = Except.ok view -> OnRecord look validate t view) := by
  have hstable : forall {t u view}, AuditsKept t u -> OnRecord look validate t view ->
      OnRecord look validate u view := by
    rintro t u view htu ⟨row, hrow, hview⟩
    exact ⟨row, hkept htu hrow, hview⟩
  have hrecorded : forall {row : ρ} {s : Database}, look s = some row ->
      Program.Safe (fun _ => True) AuditsKept AuditsKept (fun _ => True)
        (Program.done (validate row)) s
        (fun r t => forall view, r = Except.ok view -> OnRecord look validate t view) := by
    intro row s hrow t hst _ view hview
    exact ⟨row, hkept hst hrow, hview⟩
  refine Program.Safe.rescue AuditsKept.refl (P := fun r t => forall view,
    r = Except.ok view -> OnRecord look validate t view) (fun _ _ h => h) ?_ ?_
  · -- the request has lost a race for its record
    intro e q t hq _ _
    unfold redriveFailure at hq
    split at hq
    · split at hq
      · cases hq
        refine Program.Safe.bind AuditsKept.refl
          (P := fun r u => forall row, r = Except.ok row -> look u = some row) ?_ ?_ ?_
        · intro e u _ view hview
          cases hview
        · intro row u _ hrow
          exact hrecorded (hrow row rfl)
        · refine Program.Safe.perform ?_ ?_
          · intro r u v huv hr row hrow
            exact hkept huv (hr row hrow)
          · intro u _ _
            refine ⟨fun e row hrow => (by cases hrow), ?_⟩
            intro row v hv
            rw [Transaction.fetch_eq_ok] at hv
            rcases hv with ⟨hrow, rfl⟩
            refine ⟨AuditsKept.refl _, ?_⟩
            intro row' hrow'
            cases hrow'
            exact hrow
      · cases hq
        exact fun _ _ _ view hview => (by cases hview)
    · split at hq
      · cases hq
        exact fun _ _ _ view hview => (by cases hview)
      · cases hq
  · refine Program.Safe.bind AuditsKept.refl
      (P := fun r u => forall row, r = Except.ok (some row) -> look u = some row) ?_ ?_ ?_
    · intro e u _ view hview
      cases hview
    · intro found u _ hfound
      cases found with
      | some row => exact hrecorded (hfound row rfl)
      | none =>
          refine Program.Safe.perform ?_ ?_
          · intro r v v' hv hr view hview
            exact hstable hv (hr view hview)
          · intro v _ _
            refine ⟨fun e view hview => (by cases hview), ?_⟩
            intro view v' hv'
            refine ⟨(htx hv').left, ?_⟩
            intro view' hview'
            cases hview'
            exact (htx hv').right
    · refine Program.Safe.perform ?_ ?_
      · intro r u v huv hr row hrow
        exact hkept huv (hr row hrow)
      · intro u _ _
        refine ⟨fun e row hrow => (by cases hrow), ?_⟩
        intro found v hv
        rw [Transaction.read_eq_ok] at hv
        cases hv
        refine ⟨AuditsKept.refl _, ?_⟩
        intro row hrow
        exact Except.ok.inj hrow

end Requests

/-!
## The two repositories
-/

theorem validateOutboxReplay_plain (commandId : UUID) (request : ProviderRedriveRequest) :
    PlainErrors fun row => validateOutboxReplay row commandId request := by
  intro row e h
  simp only [validateOutboxReplay] at h
  split at h
  · cases h
  · cases h
    exact ⟨_, rfl⟩

theorem validateInboxReplay_plain (inboxId : UUID) (request : ProviderRedriveRequest) :
    PlainErrors fun row => validateInboxReplay row inboxId request := by
  intro row e h
  simp only [validateInboxReplay] at h
  split at h
  · cases h
  · cases h
    exact ⟨_, rfl⟩

theorem redriveOutbox_eq {scope : AccessScope}
    (hauth : scope.hasProviderOperationsPermission Permission.providerOpsRedrive = true)
    (commandId : UUID) (request : ProviderRedriveRequest) (missed : Bool)
    (clock : Nat -> Time) :
    redriveOutbox scope commandId request missed clock =
      redriveProtocol
        (fun db => outboxAuditForRequest db scope.tenantId request.requestId)
        (fun row => validateOutboxReplay row commandId request)
        (redriveOutboxTransaction scope commandId request missed clock)
        UniqueConstraint.outboxRedrivesTenantRequest
        (stateConflict "request_id_conflict") := by
  unfold redriveOutbox authorizeProviderOperations Program.require
  rw [if_pos hauth]
  rfl

theorem redriveInbox_eq {scope : AccessScope}
    (hauth : scope.hasProviderOperationsPermission Permission.providerOpsRedrive = true)
    (inboxId : UUID) (request : ProviderRedriveRequest) (missed : Bool)
    (clock : Nat -> Time) :
    redriveInbox scope inboxId request missed clock =
      redriveProtocol
        (fun db => inboxAuditForRequest db scope.tenantId request.requestId)
        (fun row => validateInboxReplay row inboxId request)
        (redriveInboxTransaction scope inboxId request missed clock)
        UniqueConstraint.inboxRedrivesTenantRequest
        (stateConflict "request_id_conflict") := by
  unfold redriveInbox authorizeProviderOperations Program.require
  rw [if_pos hauth]
  rfl

theorem answer_outcome {α : Type} {outcome : Except Failure α} {db db' : Database}
    {a : α} (h : answer outcome db = Except.ok (a, db')) :
    outcome = Except.ok a ∧ db' = db := by
  cases outcome with
  | ok b =>
      simp only [answer, Transaction.pure_eq_ok, Prod.mk.injEq] at h
      rw [h.left]
      exact ⟨rfl, h.right.symm⟩
  | error e => simp only [answer, Transaction.raise_eq_ok] at h

theorem safeRequestId?_eq (request : ProviderRedriveRequest) :
    safeRequestId? request.requestId = some request.requestId := by
  unfold safeRequestId?
  rw [if_pos request.wellFormed]

theorem redriveOutboxTransaction_records {scope : AccessScope} {commandId : UUID}
    {request : ProviderRedriveRequest} {missed : Bool} {clock : Nat -> Time}
    {db db' : Database} {view : ProviderRedriveView}
    (h : redriveOutboxTransaction scope commandId request missed clock db =
      Except.ok (view, db')) :
    OnRecord (fun db => outboxAuditForRequest db scope.tenantId request.requestId)
      (fun row => validateOutboxReplay row commandId request) db' view := by
  unfold redriveOutboxTransaction at h
  rw [Transaction.bind_eq_ok] at h
  rcases h with ⟨m, _, hfetch, h⟩
  simp only [Transaction.fetch_eq_ok, Option.filter_eq_some_iff] at hfetch
  rcases hfetch with ⟨⟨hm, htenant⟩, rfl⟩
  rw [Transaction.bind_eq_ok] at h
  rcases h with ⟨replay, _, hreplay, h⟩
  simp only [Transaction.read_eq_ok, Prod.mk.injEq] at hreplay
  rcases hreplay with ⟨hlook, rfl⟩
  cases replay with
  | some row =>
      rcases answer_outcome h with ⟨hvalid, rfl⟩
      unfold lockedOutboxAudit at hlook
      rw [Option.filter_eq_some_iff] at hlook
      exact ⟨row, hlook.left, hvalid⟩
  | none =>
      simp only [beginOutboxCycle, Transaction.bind_eq_ok, Transaction.read_eq_ok,
        Transaction.require_eq_ok, Transaction.pure_eq_ok, Prod.mk.injEq] at h
      rcases h with ⟨attempt, _, ⟨_, rfl⟩, _, _, ⟨_, _, rfl⟩, redriveId, db₁, _, _, db₂, _,
        _, db₃, _, _, _, ⟨_, _, rfl⟩, _, db₄, hins, hview, rfl⟩
      rcases insertOutboxRedrive_eq_ok.mp hins with ⟨hunused, t, ht, hafter⟩
      refine ⟨outboxRedriveRow scope m request redriveId (max (clock 1) m.updatedAt), ?_, ?_⟩
      · -- no earlier record has the tenant and the request
        rw [show db₄ = _ from hafter.symm]
        show t.rows.find? _ = _
        rw [(Table.insert?_eq_some.mp ht).right, List.find?_append]
        have hnone : (db₃.outbox.redrives.rows.find? fun r =>
            decide (r.tenantId = scope.tenantId) &&
              decide (r.requestId = request.requestId)) = none := by
          rw [List.find?_eq_none]
          intro r hr hmatch
          simp only [Bool.and_eq_true, decide_eq_true_eq] at hmatch
          exact hunused r hr hmatch
        rw [hnone]
        simp [outboxRedriveRow]
      · show validateOutboxReplay _ commandId request = _
        unfold validateOutboxReplay
        have hid := Table.get_key hm
        rw [if_pos ⟨hid, rfl⟩, ← hview]
        show Except.ok (OutboxRedrive.view _) = _
        unfold OutboxRedrive.view
        rw [show (outboxRedriveRow scope m request redriveId
          (max (clock 1) m.updatedAt)).requestId = request.requestId from rfl,
          safeRequestId?_eq]

theorem redriveInboxTransaction_records {scope : AccessScope} {inboxId : UUID}
    {request : ProviderRedriveRequest} {missed : Bool} {clock : Nat -> Time}
    {db db' : Database} {view : ProviderRedriveView}
    (h : redriveInboxTransaction scope inboxId request missed clock db =
      Except.ok (view, db')) :
    OnRecord (fun db => inboxAuditForRequest db scope.tenantId request.requestId)
      (fun row => validateInboxReplay row inboxId request) db' view := by
  unfold redriveInboxTransaction at h
  rw [Transaction.bind_eq_ok] at h
  rcases h with ⟨m, _, hfetch, h⟩
  simp only [Transaction.fetch_eq_ok, Option.filter_eq_some_iff] at hfetch
  rcases hfetch with ⟨⟨hm, htenant⟩, rfl⟩
  rw [Transaction.bind_eq_ok] at h
  rcases h with ⟨replay, _, hreplay, h⟩
  simp only [Transaction.read_eq_ok, Prod.mk.injEq] at hreplay
  rcases hreplay with ⟨hlook, rfl⟩
  cases replay with
  | some row =>
      rcases answer_outcome h with ⟨hvalid, rfl⟩
      unfold lockedInboxAudit at hlook
      rw [Option.filter_eq_some_iff] at hlook
      exact ⟨row, hlook.left, hvalid⟩
  | none =>
      simp only [beginInboxCycle, Transaction.bind_eq_ok, Transaction.require_eq_ok,
        Transaction.pure_eq_ok, Prod.mk.injEq] at h
      rcases h with ⟨_, _, ⟨_, _, rfl⟩, redriveId, db₁, _, _, db₂, _, _, _, ⟨_, _, rfl⟩, _,
        db₃, hins, hview, rfl⟩
      rcases insertInboxRedrive_eq_ok hins with ⟨hunused, t, ht, hafter⟩
      refine ⟨inboxRedriveRow scope m request redriveId (max (clock 1) m.updatedAt), ?_, ?_⟩
      · rw [show db₃ = _ from hafter]
        show t.rows.find? _ = _
        rw [(Table.insert?_eq_some.mp ht).right, List.find?_append]
        have hnone : (db₂.inbox.redrives.rows.find? fun r =>
            decide (r.tenantId = scope.tenantId) &&
              decide (r.requestId = request.requestId)) = none := by
          rw [List.find?_eq_none]
          intro r hr hmatch
          simp only [Bool.and_eq_true, decide_eq_true_eq] at hmatch
          exact hunused r hr hmatch
        rw [hnone]
        simp [inboxRedriveRow]
      · show validateInboxReplay _ inboxId request = _
        unfold validateInboxReplay
        have hid := Table.get_key hm
        rw [if_pos ⟨hid, rfl⟩, ← hview]
        show Except.ok (InboxRedrive.view _) = _
        unfold InboxRedrive.view
        rw [show (inboxRedriveRow scope m request redriveId
          (max (clock 1) m.updatedAt)).requestId = request.requestId from rfl,
          safeRequestId?_eq]

/-!
## Idempotency
-/

section Idempotency

variable {ρ : Type}

/-- The request is on record for the target and with its reason. -/
def RequestRecorded (audit : Database -> CleanText -> String -> Option ρ)
    (target : ρ -> UUID) (reason : ρ -> RedriveReasonCode) (db : Database)
    (tenantId : CleanText) (id : UUID) (request : ProviderRedriveRequest) (row : ρ) :
    Prop :=
  audit db tenantId request.requestId = some row ∧ target row = id ∧
    reason row = request.reasonCode

/--
The protocol of a redrive method in a given state.  Each clause speaks about a
call that begins in this state and runs among any other steps.
-/
structure RedriveProtocol (audit : Database -> CleanText -> String -> Option ρ)
    (target : ρ -> UUID) (reason : ρ -> RedriveReasonCode)
    (view : ρ -> ProviderRedriveView)
    (redrive : AccessScope -> UUID -> ProviderRedriveRequest -> Bool -> (Nat -> Time) ->
      Program Database Failure ProviderRedriveView) (db : Database) : Prop where
  /-- A call that succeeds is on record, with the view it returns. -/
  recorded : forall scope id request missed clock,
    scope.hasProviderOperationsPermission Permission.providerOpsRedrive = true ->
    Program.Safe (fun _ => True) AuditsKept AuditsKept (fun _ => True)
      (redrive scope id request missed clock) db
      (fun r t => forall v, r = Except.ok v -> exists row,
        RequestRecorded audit target reason t scope.tenantId id request row ∧
          view row = v)
  /-- A repeated request returns the recorded view and changes nothing. -/
  repeated : forall scope id request missed clock row,
    scope.hasProviderOperationsPermission Permission.providerOpsRedrive = true ->
    RequestRecorded audit target reason db scope.tenantId id request row ->
    Program.Answers AuditsKept (redrive scope id request missed clock) db
      (Except.ok (view row))
  /-- The request id of another target or reason is refused. -/
  refused : forall scope id request missed clock row,
    scope.hasProviderOperationsPermission Permission.providerOpsRedrive = true ->
    audit db scope.tenantId request.requestId = some row ->
    ¬(target row = id ∧ reason row = request.reasonCode) ->
    Program.Answers AuditsKept (redrive scope id request missed clock) db
      (Except.error (Failure.providerOperationsConflict "request_id_conflict"))
  /-- Of the requests for one target, one at most has left each cycle. -/
  single : forall tenantId tenantId' id request request' row row',
    RequestRecorded audit target reason db tenantId id request row ->
    RequestRecorded audit target reason db tenantId' id request' row' ->
    request.requestId ≠ request'.requestId ->
    (view row).previousCycle ≠ (view row').previousCycle

end Idempotency

theorem validateOutboxReplay_eq_ok {row : OutboxRedrive} {commandId : UUID}
    {request : ProviderRedriveRequest} {v : ProviderRedriveView}
    (h : validateOutboxReplay row commandId request = Except.ok v) :
    (row.commandId = commandId ∧ row.reasonCode = request.reasonCode) ∧ row.view = v := by
  unfold validateOutboxReplay at h
  split at h
  · exact ⟨‹_›, Except.ok.inj h⟩
  · cases h

theorem validateInboxReplay_eq_ok {row : InboxRedrive} {inboxId : UUID}
    {request : ProviderRedriveRequest} {v : ProviderRedriveView}
    (h : validateInboxReplay row inboxId request = Except.ok v) :
    (row.inboxId = inboxId ∧ row.reasonCode = request.reasonCode) ∧ row.view = v := by
  unfold validateInboxReplay at h
  split at h
  · exact ⟨‹_›, Except.ok.inj h⟩
  · cases h

theorem outboxAuditForRequest_spec {db : Database} {tenantId : CleanText}
    {requestId : String} {row : OutboxRedrive}
    (h : outboxAuditForRequest db tenantId requestId = some row) :
    row ∈ db.outbox.redrives.rows ∧ row.requestId = requestId := by
  have hmatch := List.find?_some h
  simp only [Bool.and_eq_true, decide_eq_true_eq] at hmatch
  exact ⟨List.mem_of_find?_eq_some h, hmatch.right⟩

theorem inboxAuditForRequest_spec {db : Database} {tenantId : CleanText}
    {requestId : String} {row : InboxRedrive}
    (h : inboxAuditForRequest db tenantId requestId = some row) :
    row ∈ db.inbox.redrives.rows ∧ row.requestId = requestId := by
  have hmatch := List.find?_some h
  simp only [Bool.and_eq_true, decide_eq_true_eq] at hmatch
  exact ⟨List.mem_of_find?_eq_some h, hmatch.right⟩

theorem redriveOutbox_protocol {db : Database} (h : OutboxLedger db.outbox) :
    RedriveProtocol outboxAuditForRequest OutboxRedrive.commandId
      OutboxRedrive.reasonCode OutboxRedrive.view redriveOutbox db where
  recorded := by
    intro scope commandId request missed clock hauth
    rw [redriveOutbox_eq hauth]
    refine (redriveProtocol_records (fun hkept hrow => hkept.outbox _ _ _ hrow) ?_).mono ?_
    · intro t view u htx
      refine ⟨?_, redriveOutboxTransaction_records htx⟩
      rcases redriveOutboxTransaction_move htx with rfl | ⟨lo, lc, m, m', r, hmove, _⟩
      · exact AuditsKept.refl u
      · exact hmove.audits_kept
    · intro r t hr v hv
      rcases hr v hv with ⟨row, hrow, hvalid⟩
      rcases validateOutboxReplay_eq_ok hvalid with ⟨hmatch, hview⟩
      exact ⟨row, ⟨hrow, hmatch⟩, hview⟩
  repeated := by
    intro scope commandId request missed clock row hauth hrow
    rw [redriveOutbox_eq hauth]
    have hanswers := redriveProtocol_answers
      (fun db => outboxAuditForRequest db scope.tenantId request.requestId)
      (redriveOutboxTransaction scope commandId request missed clock)
      UniqueConstraint.outboxRedrivesTenantRequest (stateConflict "request_id_conflict")
      (fun t ht => ht.outbox _ _ _ hrow.left)
      (validateOutboxReplay_plain commandId request)
    have hvalid : validateOutboxReplay row commandId request = Except.ok row.view :=
      if_pos hrow.right
    simp only [hvalid] at hanswers
    exact hanswers
  refused := by
    intro scope commandId request missed clock row hauth hrow hother
    rw [redriveOutbox_eq hauth]
    have hanswers := redriveProtocol_answers
      (fun db => outboxAuditForRequest db scope.tenantId request.requestId)
      (redriveOutboxTransaction scope commandId request missed clock)
      UniqueConstraint.outboxRedrivesTenantRequest (stateConflict "request_id_conflict")
      (fun t ht => ht.outbox _ _ _ hrow) (validateOutboxReplay_plain commandId request)
    have hvalid : validateOutboxReplay row commandId request =
        Except.error (Failure.providerOperationsConflict "request_id_conflict") :=
      if_neg hother
    simp only [hvalid] at hanswers
    exact hanswers
  single := by
    intro tenantId tenantId' commandId request request' row row' hrow hrow' hne
    rcases outboxAuditForRequest_spec hrow.left with ⟨hmem, hid⟩
    rcases outboxAuditForRequest_spec hrow'.left with ⟨hmem', hid'⟩
    rcases h.known row hmem with ⟨m, hm⟩
    have hkey := Table.get_key hm
    have hchain := h.chained m (Table.mem_of_get hm)
    rw [hkey] at hchain
    have hsame : row'.commandId = row.commandId := by
      rw [hrow'.right.left, hrow.right.left]
    intro hspan
    have hrows := hchain.unique (mem_entriesOf.mpr ⟨hmem, rfl⟩)
      (mem_entriesOf.mpr ⟨hmem', hsame⟩) hspan
    rw [← hid, ← hid', hrows] at hne
    exact hne rfl

theorem redriveInbox_protocol {db : Database} (h : InboxLedger db.inbox) :
    RedriveProtocol inboxAuditForRequest InboxRedrive.inboxId InboxRedrive.reasonCode
      InboxRedrive.view redriveInbox db where
  recorded := by
    intro scope inboxId request missed clock hauth
    rw [redriveInbox_eq hauth]
    refine (redriveProtocol_records (fun hkept hrow => hkept.inbox _ _ _ hrow) ?_).mono ?_
    · intro t view u htx
      refine ⟨?_, redriveInboxTransaction_records htx⟩
      rcases redriveInboxTransaction_move htx with rfl | ⟨m, m', hmove⟩
      · exact AuditsKept.refl u
      · exact hmove.audits_kept
    · intro r t hr v hv
      rcases hr v hv with ⟨row, hrow, hvalid⟩
      rcases validateInboxReplay_eq_ok hvalid with ⟨hmatch, hview⟩
      exact ⟨row, ⟨hrow, hmatch⟩, hview⟩
  repeated := by
    intro scope inboxId request missed clock row hauth hrow
    rw [redriveInbox_eq hauth]
    have hanswers := redriveProtocol_answers
      (fun db => inboxAuditForRequest db scope.tenantId request.requestId)
      (redriveInboxTransaction scope inboxId request missed clock)
      UniqueConstraint.inboxRedrivesTenantRequest (stateConflict "request_id_conflict")
      (fun t ht => ht.inbox _ _ _ hrow.left)
      (validateInboxReplay_plain inboxId request)
    have hvalid : validateInboxReplay row inboxId request = Except.ok row.view :=
      if_pos hrow.right
    simp only [hvalid] at hanswers
    exact hanswers
  refused := by
    intro scope inboxId request missed clock row hauth hrow hother
    rw [redriveInbox_eq hauth]
    have hanswers := redriveProtocol_answers
      (fun db => inboxAuditForRequest db scope.tenantId request.requestId)
      (redriveInboxTransaction scope inboxId request missed clock)
      UniqueConstraint.inboxRedrivesTenantRequest (stateConflict "request_id_conflict")
      (fun t ht => ht.inbox _ _ _ hrow) (validateInboxReplay_plain inboxId request)
    have hvalid : validateInboxReplay row inboxId request =
        Except.error (Failure.providerOperationsConflict "request_id_conflict") :=
      if_neg hother
    simp only [hvalid] at hanswers
    exact hanswers
  single := by
    intro tenantId tenantId' inboxId request request' row row' hrow hrow' hne
    rcases inboxAuditForRequest_spec hrow.left with ⟨hmem, hid⟩
    rcases inboxAuditForRequest_spec hrow'.left with ⟨hmem', hid'⟩
    rcases h.known row hmem with ⟨m, hm⟩
    have hkey := Table.get_key hm
    have hchain := h.chained m (Table.mem_of_get hm)
    rw [hkey] at hchain
    have hsame : row'.inboxId = row.inboxId := by
      rw [hrow'.right.left, hrow.right.left]
    intro hspan
    have hrows := hchain.unique (mem_entriesOf.mpr ⟨hmem, rfl⟩)
      (mem_entriesOf.mpr ⟨hmem', hsame⟩) hspan
    rw [← hid, ← hid', hrows] at hne
    exact hne rfl

/--
In every run the audit records are the ledger of the cycles, they are kept, and
both redrive methods follow the protocol of the requests on record.
-/
theorem redrive_ledger_and_protocol {stages : List (Stage World Event)} {w : World}
    (h : World.Runs stages w) :
    (forall m, m ∈ w.db.outbox.messages.rows ->
      let audits := entriesOf OutboxRedrive.commandId w.db.outbox.redrives.rows m.commandId
      m.deliveryCycle = 1 + audits.length ∧
        audits.map OutboxRedrive.span = cycleChain m.deliveryCycle) ∧
    (forall m, m ∈ w.db.inbox.messages.rows ->
      let audits := entriesOf InboxRedrive.inboxId w.db.inbox.redrives.rows m.inboxId
      m.processingCycle = 1 + audits.length ∧
        audits.map InboxRedrive.span = cycleChain m.processingCycle) ∧
    (forall x, x ∈ stages ->
      AuditsKept x.before.db x.after.db ∧ AuditsKept x.after.db w.db) ∧
    RedriveProtocol outboxAuditForRequest OutboxRedrive.commandId
      OutboxRedrive.reasonCode OutboxRedrive.view redriveOutbox w.db ∧
    RedriveProtocol inboxAuditForRequest InboxRedrive.inboxId InboxRedrive.reasonCode
      InboxRedrive.view redriveInbox w.db := by
  have hledger := h.ledgered
  refine ⟨?_, ?_, ?_, ?_, ?_⟩
  · intro m hm
    have hchained := hledger.outbox.chained m hm
    exact ⟨hchained.cycle_eq, hchained.chain⟩
  · intro m hm
    have hchained := hledger.inbox.chained m hm
    exact ⟨hchained.cycle_eq, hchained.chain⟩
  · exact fun x hx => h.audits_kept hx
  · exact redriveOutbox_protocol hledger.outbox
  · exact redriveInbox_protocol hledger.inbox

def sampleSupervisor : AccessScope :=
  { sampleScope with
    role := Role.supervisor
    permissions := [Permission.providerOpsRedrive] }

def sampleRedrive : ProviderRedriveRequest :=
  { requestId := "redrive-1"
    reasonCode := RedriveReasonCode.manualRetryApproved
    wellFormed := by decide }

def sampleFailed : World :=
  sampleFinalized (Verdict.terminalFailure ProviderFailureKind.validationError none none)

/-- The command has failed for good and a supervisor asks for a new cycle. -/
def sampleRedriven : World :=
  sampleFailed.serve (redriveOutbox sampleSupervisor 4 sampleRedrive false (fun _ => 0))

theorem sampleRedriven_runs : exists stages, World.Runs stages sampleRedriven := by
  rcases sampleFinalized_runs
    (Verdict.terminalFailure ProviderFailureKind.validationError none none) with
    ⟨stages, hrun, _⟩
  rcases World.Runs.serve hrun
    (Method.redriveOutbox sampleSupervisor 4 sampleRedrive false (fun _ => 0)) with
    ⟨more, hmore, _⟩
  exact ⟨_, hmore⟩

theorem redrive_ledger_sample : exists stages m row,
    World.Runs stages sampleRedriven ∧
    sampleRedriven.db.outbox.messages.get 4 = some m ∧ m.deliveryCycle = 2 ∧
    outboxAuditForRequest sampleRedriven.db sampleSupervisor.tenantId "redrive-1" =
      some row ∧
    (entriesOf OutboxRedrive.commandId sampleRedriven.db.outbox.redrives.rows 4).map
      OutboxRedrive.span = [(1, 2)] ∧
    Program.Answers AuditsKept
      (redriveOutbox sampleSupervisor 4 sampleRedrive false (fun _ => 0))
      sampleRedriven.db (Except.ok row.view) := by
  rcases sampleRedriven_runs with ⟨stages, hrun⟩
  have hmessage : exists m, sampleRedriven.db.outbox.messages.get 4 = some m ∧
      m.deliveryCycle = 2 := by
    refine ⟨(sampleRedriven.db.outbox.messages.get 4).get (by decide +kernel), ?_, ?_⟩
    · exact (Option.some_get _).symm
    · decide +kernel
  have haudit : exists row,
      outboxAuditForRequest sampleRedriven.db sampleSupervisor.tenantId "redrive-1" =
        some row ∧ row.commandId = 4 ∧
      row.reasonCode = RedriveReasonCode.manualRetryApproved := by
    refine ⟨(outboxAuditForRequest sampleRedriven.db sampleSupervisor.tenantId
      "redrive-1").get (by decide +kernel), (Option.some_get _).symm, ?_, ?_⟩
    · decide +kernel
    · decide +kernel
  generalize sampleRedriven = w at hrun hmessage haudit ⊢
  rcases hmessage with ⟨m, hm, hcycle⟩
  rcases haudit with ⟨row, hrow, hcommand, hreason⟩
  rcases redrive_ledger_and_protocol hrun with ⟨houtbox, _, _, hprotocol, _⟩
  have hchain := (houtbox m (Table.mem_of_get hm)).right
  have hkey := Table.get_key hm
  rw [hkey, hcycle] at hchain
  exact ⟨stages, m, row, hrun, hm, hcycle, hrow, hchain,
    hprotocol.repeated sampleSupervisor 4 sampleRedrive false (fun _ => 0) row
      (by decide) ⟨hrow, hcommand, hreason⟩⟩

end RefundAgent
