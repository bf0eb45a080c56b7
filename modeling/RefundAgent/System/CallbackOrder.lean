import RefundAgent.System.Callbacks

/-!
# The order of callbacks

A published command may be answered by any number of callbacks, in any order and
more than once.  A callback either advances the status of the operation or leaves
it alone, so the status that remains is the most advanced one that was reported.
-/

namespace RefundAgent

open Foundation

/-!
## Most advanced
-/

/-- How far an operation has come with the provider. -/
def OperationRecordStatus.progress : OperationRecordStatus -> Nat
  | submitted => 1
  | processing => 2
  | completed => 3
  | rejected => 3
  | _ => 0

/-- The provider has nothing more to say. -/
def OperationRecordStatus.concluded (s : OperationRecordStatus) : Prop :=
  s = OperationRecordStatus.completed ∨ s = OperationRecordStatus.rejected

/--
The most advanced of the first status and the reported ones.  An operation that
is concluded at first stays as it is.
-/
structure MostAdvanced (first : OperationRecordStatus)
    (reported : List ProviderCommandExecutionStatus) (last : OperationRecordStatus) :
    Prop where
  attained : last = first ∨ exists s, s ∈ reported ∧ last = callbackTarget s
  bound : forall s, s ∈ reported -> (callbackTarget s).progress ≤ last.progress
  grown : first.progress ≤ last.progress
  concluded : first.concluded -> last = first

theorem callbackTarget_progress (s : ProviderCommandExecutionStatus) :
    1 ≤ (callbackTarget s).progress ∧ (callbackTarget s).progress ≤ 3 := by
  cases s <;> decide

theorem OperationRecordStatus.progress_of_concluded {s : OperationRecordStatus}
    (h : s.concluded) : s.progress = 3 := by
  rcases h with rfl | rfl <;> rfl

theorem OperationRecordStatus.eq_of_progress {s t : OperationRecordStatus}
    (hs : 1 ≤ s.progress) (h : s.progress = t.progress) :
    s = t ∨ (s.concluded ∧ t.concluded) := by
  unfold concluded
  cases s <;> cases t <;> simp_all [progress]

theorem MostAdvanced.unique {first a b : OperationRecordStatus}
    {reported reported' : List ProviderCommandExecutionStatus}
    (h : MostAdvanced first reported a) (h' : MostAdvanced first reported' b)
    (hfirst : 1 ≤ first.progress) (hsame : forall s, s ∈ reported ↔ s ∈ reported')
    (hnot : ¬(ProviderCommandExecutionStatus.completed ∈ reported ∧
      ProviderCommandExecutionStatus.rejected ∈ reported)) : a = b := by
  by_cases hend : first.concluded
  · rw [h.concluded hend, h'.concluded hend]
  have hle : a.progress ≤ b.progress := by
    rcases h.attained with rfl | ⟨s, hs, rfl⟩
    · exact h'.grown
    · exact h'.bound s ((hsame s).mp hs)
  have hge : b.progress ≤ a.progress := by
    rcases h'.attained with rfl | ⟨s, hs, rfl⟩
    · exact h.grown
    · exact h.bound s ((hsame s).mpr hs)
  have hreport : forall x : OperationRecordStatus, x.concluded ->
      (x = first ∨ exists s, s ∈ reported ∧ x = callbackTarget s) ->
      exists s, s ∈ reported ∧ x = callbackTarget s := by
    intro x hx hattained
    rcases hattained with rfl | hs
    · exact absurd hx hend
    · exact hs
  rcases OperationRecordStatus.eq_of_progress (Nat.le_trans hfirst h.grown)
    (Nat.le_antisymm hle hge) with hab | ⟨ha, hb⟩
  · exact hab
  · have hattained' : b = first ∨ exists s, s ∈ reported ∧ b = callbackTarget s := by
      rcases h'.attained with hb' | ⟨s, hs, hb'⟩
      · exact Or.inl hb'
      · exact Or.inr ⟨s, (hsame s).mpr hs, hb'⟩
    rcases hreport a ha h.attained with ⟨s, hs, has⟩
    rcases hreport b hb hattained' with ⟨t, ht, hbt⟩
    cases s with
    | accepted =>
        rw [has] at ha
        rcases ha with ha | ha <;> cases ha
    | processing =>
        rw [has] at ha
        rcases ha with ha | ha <;> cases ha
    | completed =>
        cases t with
        | completed => rw [has, hbt]
        | rejected => exact absurd ⟨hs, ht⟩ hnot
        | _ =>
            rw [hbt] at hb
            rcases hb with hb | hb <;> cases hb
    | rejected =>
        cases t with
        | rejected => rw [has, hbt]
        | completed => exact absurd ⟨ht, hs⟩ hnot
        | _ =>
            rw [hbt] at hb
            rcases hb with hb | hb <;> cases hb

/-!
## Standings
-/

/-- The references of callbacks agree with each other and with the operation. -/
structure Compatible (p : Standing) (events : List ProviderWebhookEventData) : Prop where
  operation : forall e, e ∈ events ->
    providerReferenceIsCompatible p.reference (incomingReference e) = true
  pairwise : forall e e', e ∈ events -> e' ∈ events ->
    providerReferenceIsCompatible (incomingReference e) (incomingReference e') = true

theorem Standing.meet_reference (p : Standing) (e : ProviderWebhookEventData) :
    (p.meet e).reference = p.reference ∨
      (p.meet e).reference = incomingReference e := by
  unfold Standing.meet
  split
  · cases incomingReference e with
    | none => exact Or.inl rfl
    | some t => exact Or.inr rfl
  · cases p.reference with
    | none => exact Or.inr rfl
    | some t => exact Or.inl rfl
  · exact Or.inl rfl

theorem Compatible.meet {p : Standing} {e : ProviderWebhookEventData}
    {events : List ProviderWebhookEventData} (h : Compatible p (e :: events)) :
    Compatible (p.meet e) events := by
  constructor
  · intro e' he'
    rcases p.meet_reference e with hreference | hreference
    · rw [hreference]
      exact h.operation e' (List.mem_cons_of_mem _ he')
    · rw [hreference]
      exact h.pairwise e e' List.mem_cons_self (List.mem_cons_of_mem _ he')
  · intro a b ha hb
    exact h.pairwise a b (List.mem_cons_of_mem _ ha) (List.mem_cons_of_mem _ hb)

/-- A concluded operation keeps its status, whatever a callback says. -/
theorem Standing.meet_concluded {p : Standing} (h : p.status.concluded)
    (e : ProviderWebhookEventData) : (p.meet e).status = p.status := by
  have hkept : (p.decision e).action ≠ InboxAction.apply := by
    unfold Standing.decision decideOrderOperationCallback
    by_cases hc : providerReferenceIsCompatible p.reference (incomingReference e) = false
    · rw [if_pos hc]
      exact InboxAction.noConfusion
    · rw [if_neg hc]
      rcases h with hs | hs <;> rw [hs] <;> cases e.commandStatus <;> decide
  unfold Standing.meet
  cases haction : (p.decision e).action with
  | apply => exact absurd haction hkept
  | _ => rfl

theorem Standing.meet_status {p : Standing} {e : ProviderWebhookEventData}
    (hcompatible : providerReferenceIsCompatible p.reference (incomingReference e) = true)
    (hp : 1 ≤ p.status.progress) :
    (p.meet e).status =
      if p.status.progress < (callbackTarget e.commandStatus).progress then
        callbackTarget e.commandStatus
      else
        p.status := by
  by_cases hend : p.status.concluded
  · rw [p.meet_concluded hend, if_neg]
    have := OperationRecordStatus.progress_of_concluded hend
    have := (callbackTarget_progress e.commandStatus).right
    omega
  have hdecision : p.decision e =
      decideOrderOperationCallback p.status e.commandStatus none none := by
    unfold Standing.decision decideOrderOperationCallback
    rw [hcompatible]
    rfl
  unfold Standing.meet
  rw [hdecision]
  cases hs : p.status with
  | submitted => cases e.commandStatus <;> rfl
  | processing => cases e.commandStatus <;> first | rfl | exact hs
  | completed => exact absurd (Or.inl hs) hend
  | rejected => exact absurd (Or.inr hs) hend
  | _ =>
      rw [hs] at hp
      exact absurd hp (by decide)

theorem Standing.meet_all {events : List ProviderWebhookEventData} :
    forall {p : Standing}, Compatible p events -> 1 ≤ p.status.progress ->
      MostAdvanced p.status (events.map ProviderWebhookEventData.commandStatus)
        (events.foldl Standing.meet p).status := by
  induction events with
  | nil =>
      intro p _ _
      exact ⟨Or.inl rfl, fun s hs => (by cases hs), Nat.le_refl _, fun _ => rfl⟩
  | cons e events ih =>
      intro p hcompatible hp
      have hstatus := Standing.meet_status (hcompatible.operation e List.mem_cons_self) hp
      have htarget := callbackTarget_progress e.commandStatus
      -- what the rest does to the standing that the first callback leaves
      have hraised : p.status.progress ≤ (p.meet e).status.progress ∧
          (callbackTarget e.commandStatus).progress ≤ (p.meet e).status.progress := by
        rw [hstatus]
        split <;> omega
      have hrest := ih hcompatible.meet (Nat.le_trans hp hraised.left)
      rw [List.foldl_cons, List.map_cons]
      constructor
      · rcases hrest.attained with hlast | ⟨s, hs, hlast⟩
        · rw [hlast, hstatus]
          split
          · exact Or.inr ⟨_, List.mem_cons_self, rfl⟩
          · exact Or.inl rfl
        · exact Or.inr ⟨s, List.mem_cons_of_mem _ hs, hlast⟩
      · intro s hs
        rcases List.mem_cons.mp hs with rfl | hs
        · exact Nat.le_trans hraised.right hrest.grown
        · exact hrest.bound s hs
      · exact Nat.le_trans hraised.left hrest.grown
      · intro hend
        have hkept := p.meet_concluded hend e
        rw [← hkept] at hend ⊢
        exact hrest.concluded hend

/-!
## One callback
-/

/-- The callbacks of a command name it, its aggregate and, if any, its order. -/
def InboxMessage.answers (inbox : InboxMessage) (m : OutboxMessage) : Bool :=
  payloadAssociationMatches inbox && outboxAssociationMatches m inbox &&
    inbox.payload.orderId.all fun o => decide (o = m.payload.orderId)

theorem InboxMessage.answers_iff {inbox : InboxMessage} {m : OutboxMessage} :
    inbox.answers m = true ↔ payloadAssociationMatches inbox = true ∧
      outboxAssociationMatches m inbox = true ∧
      (inbox.payload.orderId.all fun o => decide (o = m.payload.orderId)) = true := by
  unfold answers
  rw [Bool.and_eq_true, Bool.and_eq_true, and_assoc]

theorem outboxAssociationMatches_iff {m : OutboxMessage} {inbox : InboxMessage} :
    outboxAssociationMatches m inbox = true ↔ m.tenantId.text = inbox.tenantId ∧
      m.connectionId.text = inbox.providerConnectionId ∧
      m.aggregateType = inbox.aggregateType ∧ m.aggregateId = inbox.aggregateId ∧
      m.commandId = inbox.commandId := by
  unfold outboxAssociationMatches
  simp only [Bool.and_eq_true, decide_eq_true_eq, and_assoc]

theorem lockInbox_read {claimed : ClaimedInboxMessage} {databaseNow : Time}
    {db db' : Database} {locked : InboxMessage × Time}
    (h : lockInbox claimed databaseNow db = Except.ok (locked, db')) :
    db' = db ∧ exists row, db.inbox.messages.get claimed.inboxId = some row ∧
      locked.1 = row.stripped := by
  refine ⟨lockInbox_spec h, ?_⟩
  simp only [lockInbox, Transaction.bind_eq_ok, Transaction.fetch_eq_ok,
    Transaction.require_eq_ok, Transaction.pure_eq_ok, Prod.mk.injEq] at h
  rcases h with ⟨row, _, ⟨hrow, rfl⟩, read, _, ⟨hread, rfl⟩, _, _, ⟨_, _, rfl⟩, _, _,
    ⟨_, rfl⟩, _, _, ⟨_, _, rfl⟩, rfl, rfl⟩
  refine ⟨row, hrow, ?_⟩
  unfold inboxFromRow at hread
  by_cases hvalid : row.valid = true
  · rw [if_pos hvalid] at hread
    exact (Option.some.inj hread).symm
  · rw [if_neg hvalid] at hread
    cases hread

/-- What has been checked when a command is settled, or why it is not. -/
def Settled (kind : ProviderAggregateType) (inbox : InboxMessage) (db : Database) :
    Except InboxFinalizationResult SettledCallback -> Prop
  | Except.ok c => c.inbox = inbox ∧
      db.outbox.messages.get inbox.commandId = some c.outbox ∧
      payloadKindMatches kind c.outbox = true ∧
      outboxAssociationMatches c.outbox inbox = true ∧
      (c.outbox.status = OutboxDeliveryStatus.published -> c.dead = false)
  | Except.error _ => forall m, db.outbox.messages.get m.commandId = some m ->
      m.status = OutboxDeliveryStatus.published -> payloadKindMatches kind m = true ->
      outboxAssociationMatches m inbox = false

theorem settleCommand_settled {claimed : ClaimedInboxMessage} {lease : InboxLease}
    {kind : ProviderAggregateType} {inbox : InboxMessage} {now retryAvailableAt : Time}
    {db db' : Database} {opened : Except InboxFinalizationResult SettledCallback}
    (h : settleCommand claimed lease kind inbox now retryAvailableAt db =
      Except.ok (opened, db')) : Settled kind inbox db opened := by
  unfold settleCommand at h
  rw [Transaction.bind_eq_ok] at h
  rcases h with ⟨found, _, hfound, h⟩
  simp only [Transaction.read_eq_ok, Prod.mk.injEq] at hfound
  rcases hfound with ⟨hfound, rfl⟩
  -- a command that passes the association check is the one that was looked up
  have hlooked : forall m, db.outbox.messages.get m.commandId = some m ->
      outboxAssociationMatches m inbox = true -> found = some m := by
    intro m hm hmatches
    rw [← hfound, ← (outboxAssociationMatches_iff.mp hmatches).right.right.right.right]
    exact hm
  have hrefused : forall (result : InboxFinalizationResult),
      (forall m, found = some m -> m.status = OutboxDeliveryStatus.published ->
        payloadKindMatches kind m = true -> outboxAssociationMatches m inbox = false) ->
      Settled kind inbox db (Except.error result) := by
    intro result hno m hm hpublished hkind
    by_contra hmatches
    rw [Bool.not_eq_false] at hmatches
    rw [hno m (hlooked m hm hmatches) hpublished hkind] at hmatches
    cases hmatches
  cases hf : found with
  | none =>
      rw [hf] at h
      simp only [Transaction.map_eq_ok, Prod.mk.injEq] at h
      rcases h with ⟨result, _, _, rfl, rfl⟩
      refine hrefused result ?_
      intro m hm
      rw [hf] at hm
      cases hm
  | some outbox =>
      rw [hf] at h
      simp only [Transaction.bind_eq_ok, Transaction.require_eq_ok,
        Transaction.ite_eq_ok, Transaction.map_eq_ok, Prod.mk.injEq] at h
      have hsome : forall m, found = some m -> m = outbox := by
        intro m hm
        rw [hf] at hm
        exact (Option.some.inj hm).symm
      rcases h with ⟨_, _, ⟨_, _, rfl⟩, ⟨hother, result, _, _, rfl, rfl⟩ | ⟨hkind, _, _,
        ⟨_, _, rfl⟩, ⟨hmismatch, result, _, _, rfl, rfl⟩ | ⟨hmatches, h⟩⟩⟩
      · refine hrefused result ?_
        intro m hm _ hkind
        rw [hsome m hm, hother] at hkind
        cases hkind
      · refine hrefused result ?_
        intro m hm _ _
        rw [hsome m hm]
        exact hmismatch
      · rw [Bool.not_eq_false] at hkind hmatches
        have hget : db.outbox.messages.get inbox.commandId = some outbox := by
          rw [hfound, hf]
        cases hready : decideInboxOutboxReadiness outbox.status with
        | retry =>
            rw [hready] at h
            simp only [Transaction.bind_eq_ok, Transaction.require_eq_ok,
              Transaction.map_eq_ok, Prod.mk.injEq] at h
            rcases h with ⟨_, _, ⟨_, _, rfl⟩, result, _, _, rfl, rfl⟩
            refine hrefused result ?_
            intro m hm hpublished _
            rw [← hsome m hm, hpublished] at hready
            cases hready
        | ready =>
            rw [hready] at h
            simp only [Transaction.pure_eq_ok, Prod.mk.injEq] at h
            rcases h with ⟨rfl, rfl⟩
            exact ⟨rfl, hget, hkind, hmatches, fun _ => rfl⟩
        | dead =>
            rw [hready] at h
            simp only [Transaction.pure_eq_ok, Prod.mk.injEq] at h
            rcases h with ⟨rfl, rfl⟩
            refine ⟨rfl, hget, hkind, hmatches, ?_⟩
            intro hpublished
            have hpublished : outbox.status = OutboxDeliveryStatus.published := hpublished
            rw [hpublished] at hready
            cases hready

/-- The row that a callback is opened on, and what has been found out about it. -/
structure OpenedOn (kind : ProviderAggregateType) (row : InboxMessage) (db : Database)
    (opened : Except InboxFinalizationResult SettledCallback) : Prop where
  about : row.aggregateType = kind
  matched : payloadAssociationMatches row.stripped = true ->
    Settled kind row.stripped db opened
  unmatched : payloadAssociationMatches row.stripped = false ->
    exists result, opened = Except.error result

theorem openCallback_on {claimed : ClaimedInboxMessage} {lease : InboxLease}
    {kind : ProviderAggregateType} {wrongKind : String}
    {databaseNow retryAvailableAt : Time} {db db' : Database}
    {opened : Except InboxFinalizationResult SettledCallback}
    (h : openCallback claimed lease kind wrongKind databaseNow retryAvailableAt db =
      Except.ok (opened, db')) :
    exists row, db.inbox.messages.get claimed.inboxId = some row ∧
      OpenedOn kind row db opened := by
  simp only [openCallback, Transaction.bind_eq_ok, Transaction.require_eq_ok,
    Transaction.ite_eq_ok, Transaction.map_eq_ok, Prod.mk.injEq] at h
  rcases h with ⟨locked, db₁, hlock, _, _, ⟨hkind, _, rfl⟩, hrest⟩
  rcases lockInbox_read hlock with ⟨rfl, row, hrow, hlocked⟩
  rw [hlocked] at hkind hrest
  refine ⟨row, hrow, hkind, ?_, ?_⟩
  · intro hmatched
    rcases hrest with ⟨hno, _⟩ | ⟨_, _, _, ⟨_, _, rfl⟩, hsettle⟩
    · rw [hmatched] at hno
      cases hno
    · exact settleCommand_settled hsettle
  · intro hunmatched
    rcases hrest with ⟨_, result, _, _, rfl, rfl⟩ | ⟨hno, _⟩
    · exact ⟨result, rfl⟩
    · exact absurd hunmatched hno

theorem EndedUnprocessed.operations {claimed : ClaimedInboxMessage}
    {result : InboxFinalizationResult} {db db' : Database}
    (h : EndedUnprocessed claimed result db db') : db'.operations = db.operations := by
  rcases h.finished with ⟨l, hl, hoperation, _⟩
  have hstep := hl.move.operation
  rw [hoperation] at hstep
  exact hstep.eq_of_keep

namespace OperationLabel.Leads

variable {l : OperationLabel} {t u : OperationTables} {row : OrderOperation}
  {p : Standing}

theorem standing (h : l.Leads row p) (hstep : OperationStep l t u) {id : UUID}
    (hget : t.rows.get id = some row) :
    exists o', u.rows.get id = some o' ∧ o'.standing = p := by
  cases l with
  | keep =>
      rw [hstep.eq_of_keep]
      have h : p = row.standing := h
      exact ⟨row, hget, h.symm⟩
  | create o e => exact absurd h not_false
  | update w o o' es =>
      rcases h with ⟨rfl, hp⟩
      refine ⟨o', ?_, hp⟩
      rw [← Table.get_key hget]
      exact hstep.updated.after

theorem others (h : l.Leads row p) (hstep : OperationStep l t u) {id : UUID}
    {o : OrderOperation} (ho : t.rows.get id = some o) (hne : id ≠ row.operationId) :
    u.rows.get id = some o := by
  rcases hstep.get_cases ho with hsame | ⟨w, o', es, rfl, _, hid⟩
  · exact hsame
  · have hrow : o = row := h.left
    rw [← hid, hrow] at hne
    exact absurd rfl hne

end OperationLabel.Leads

structure PublishedFor (db : Database) (m : OutboxMessage) (o : OrderOperation) : Prop where
  command : db.outbox.messages.get m.commandId = some m
  published : m.status = OutboxDeliveryStatus.published
  kind : m.aggregateType = ProviderAggregateType.orderOperation
  operation : db.operations.rows.get m.aggregateId = some o

theorem PublishedFor.coupled {db : Database} {m : OutboxMessage} {o : OrderOperation}
    (h : PublishedFor db m o) (hdb : Sound db) : Coupled db.cases m o := by
  rcases hdb.coupled m (Table.mem_of_get h.command) h.kind with ⟨o', ho', hcoupled⟩
  rw [h.operation] at ho'
  cases ho'
  exact hcoupled

theorem PublishedFor.progress {db : Database} {m : OutboxMessage} {o : OrderOperation}
    (h : PublishedFor db m o) (hdb : Sound db) : 1 ≤ o.status.progress := by
  rcases (h.coupled hdb).published h.published with hs | hs | hs | hs <;> rw [hs] <;> decide

theorem operationAssociationMatches_iff {db : Database} {m : OutboxMessage}
    {row o : OrderOperation} {c : SettledCallback} (hm : PublishedFor db m row)
    (hdb : Sound db) (hrow : row.ofRow? = some o) (houtbox : c.outbox = m)
    (hmatches : outboxAssociationMatches m c.inbox = true) :
    operationAssociationMatches o c =
      c.inbox.payload.orderId.all fun x => decide (x = m.payload.orderId) := by
  have hassociated := (hm.coupled hdb).toAssociated
  have hid := Table.get_key hm.operation
  rw [(OrderOperation.ofRow?_eq_some hrow).left]
  unfold operationAssociationMatches
  simp only [houtbox, hassociated.tenant, hassociated.customer, hassociated.order,
    hassociated.operationType, hassociated.version, hassociated.source,
    (outboxAssociationMatches_iff.mp hmatches).left, decide_true, Bool.true_and,
    Bool.and_true]
  rw [decide_eq_true hid, Bool.true_and]

/-- The outcome of a callback that meets a standing, and its error code. -/
def Standing.ending (p : Standing) (e : ProviderWebhookEventData) :
    InboxFinalizationOutcome × Option String :=
  match (p.decision e).action with
  | InboxAction.apply => (InboxFinalizationOutcome.applied, none)
  | InboxAction.duplicate => (InboxFinalizationOutcome.duplicate, none)
  | InboxAction.stale => (InboxFinalizationOutcome.stale, none)
  | InboxAction.conflict =>
      (InboxFinalizationOutcome.failed,
        if p.reference ≠ none ∧ incomingReference e ≠ none ∧
            p.reference ≠ incomingReference e then
          some "provider_reference_conflict"
        else
          some "terminal_status_conflict")

section Finalizing

variable {claimed : ClaimedInboxMessage} {db db' : Database}
  {result : InboxFinalizationResult} {m : OutboxMessage} {o : OrderOperation}

theorem failCallback_result {lease : InboxLease} {now : Time} {code : String}
    {kind : ProviderAggregateType}
    (h : failCallback claimed lease now code kind db = Except.ok (result, db')) :
    result.outcome = InboxFinalizationOutcome.failed ∧ result.safeErrorCode = some code := by
  simp only [failCallback, Transaction.bind_eq_ok, Transaction.pure_eq_ok,
    Prod.mk.injEq] at h
  rcases h with ⟨_, _, _, rfl, _⟩
  exact ⟨rfl, rfl⟩

theorem absorbCallback_result {lease : InboxLease} {read : OrderOperation}
    {outcome : InboxFinalizationOutcome} {incoming : Option String} {now : Time}
    (h : absorbCallback claimed lease read outcome incoming now db =
      Except.ok (result, db')) :
    result.outcome = outcome ∧ result.safeErrorCode = none := by
  simp only [absorbCallback, Transaction.bind_eq_ok, Transaction.ite_eq_ok,
    Transaction.pure_eq_ok, Prod.mk.injEq] at h
  rcases h with ⟨_, _, _, _, _, _, _, rfl, _⟩ | ⟨_, _, _, _, rfl, _⟩
  · exact ⟨rfl, rfl⟩
  · exact ⟨rfl, rfl⟩

theorem meetOperation_ending {lease : InboxLease} {c : SettledCallback}
    {row read : OrderOperation}
    (h : meetOperation claimed lease c read db = Except.ok (result, db'))
    (hread : ReadOperation row read db) (halive : c.dead = false) :
    (result.outcome, result.safeErrorCode) = row.standing.ending c.inbox.payload := by
  have hdecision : decideOrderOperationCallback read.status c.inbox.payload.commandStatus
      read.providerReference (incomingReference c.inbox.payload) =
      row.standing.decision c.inbox.payload := by
    rw [hread.standing]
    rfl
  have hreference : row.standing.reference = read.providerReference := by
    rw [hread.standing]
  simp only [meetOperation, Transaction.ite_eq_ok, Transaction.bind_eq_ok,
    Transaction.fetch_eq_ok, hdecision] at h
  unfold Standing.ending
  rcases h with ⟨hconflict, hfail⟩ | ⟨hmet, ⟨hdead, _⟩ | ⟨_, ⟨happly, target, _, _,
    hcallback⟩ | ⟨happly, ⟨hduplicate, habsorb⟩ | ⟨hfresh, habsorb⟩⟩⟩⟩
  · rcases failCallback_result hfail with ⟨houtcome, hcode⟩
    rw [hconflict, houtcome, hcode]
    unfold conflictCode
    rw [hreference]
    split <;> rfl
  · rw [hdead.left] at halive
    cases halive
  · simp only [applyCallback, Transaction.bind_eq_ok, Transaction.pure_eq_ok,
      Prod.mk.injEq] at hcallback
    rcases hcallback with ⟨_, _, _, _, _, _, _, _, _, _, _, _, _, _, _, rfl, _⟩
    rw [happly]
  · rcases absorbCallback_result habsorb with ⟨houtcome, hcode⟩
    rw [hduplicate, houtcome, hcode]
  · rcases absorbCallback_result habsorb with ⟨houtcome, hcode⟩
    rw [houtcome, hcode]
    cases haction : (row.standing.decision c.inbox.payload).action with
    | apply => exact absurd haction happly
    | duplicate => exact absurd haction hfresh
    | stale => rfl
    | conflict => exact absurd haction hmet

/--
The standing that a committed call on an inbox row leaves the operation with, and
how the callback ends if it answers the command.
-/
def LeftWith (row : InboxMessage) (m : OutboxMessage) (o : OrderOperation)
    (result : InboxFinalizationResult) (db' : Database) : Prop :=
  (row.stripped.answers m = true ->
    (result.outcome, result.safeErrorCode) = o.standing.ending row.payload) ∧
  exists o', db'.operations.rows.get m.aggregateId = some o' ∧
    o'.standing = if row.stripped.answers m = true then
      o.standing.meet row.payload
    else
      o.standing

theorem LeftWith.of_ended {row : InboxMessage} (hm : PublishedFor db m o)
    (hended : EndedUnprocessed claimed result db db')
    (hno : row.stripped.answers m = true -> False) : LeftWith row m o result db' := by
  refine ⟨fun hyes => (hno hyes).elim, o, ?_, ?_⟩
  · rw [hended.operations]
    exact hm.operation
  · rw [if_neg hno]

theorem LeftWith.of_meeting {row : InboxMessage} {lease : InboxLease}
    {c : SettledCallback} {target read : OrderOperation} (hdb : Sound db)
    (hm : PublishedFor db m o) (hinbox : c.inbox = row.stripped)
    (hkind : row.aggregateType = ProviderAggregateType.orderOperation)
    (hpayload : payloadAssociationMatches row.stripped = true)
    (hsettled : Settled ProviderAggregateType.orderOperation row.stripped db
      (Except.ok c))
    (htarget : db.operations.rows.get c.inbox.aggregateId = some target)
    (hread : target.ofRow? = some read)
    (hmatches : operationAssociationMatches read c = true)
    (h : meetOperation claimed lease c read db = Except.ok (result, db')) :
    LeftWith row m o result db' := by
  rcases hsettled with ⟨_, hget, _, hcmatches, halive⟩
  rcases outboxAssociationMatches_iff.mp hcmatches with ⟨_, _, hctype, hcaggregate, _⟩
  rcases meetOperation_spec h (ReadOperation.of_row htarget hread) with
    ⟨l, p, hl, _, hleads, hp⟩
  by_cases haggregate : c.inbox.aggregateId = m.aggregateId
  · rw [haggregate] at htarget
    have hsame : target = o := Option.some.inj (htarget.symm.trans hm.operation)
    have houtbox : c.outbox = m := by
      refine hdb.single c.outbox m (Table.mem_of_get hget) (Table.mem_of_get hm.command)
        ?_ hm.kind ?_
      · rw [hctype]
        exact hkind
      · rw [hcaggregate, ← haggregate, hinbox]
    rw [hsame] at hread hleads hp
    rw [houtbox] at hcmatches halive
    have hanswers : row.stripped.answers m = true := by
      refine InboxMessage.answers_iff.mpr ⟨hpayload, hcmatches, ?_⟩
      rw [operationAssociationMatches_iff hm hdb hread houtbox
        (by rw [hinbox]; exact hcmatches), hinbox] at hmatches
      exact hmatches
    rcases hleads.standing hl.move.operation hm.operation with ⟨o', ho', hstanding⟩
    refine ⟨fun _ => ?_, o', ho', ?_⟩
    · have hending := meetOperation_ending h (ReadOperation.of_row htarget (hsame ▸ hread))
        (halive hm.published)
      rw [hsame, hinbox] at hending
      exact hending
    · rw [if_pos hanswers, hstanding, hp (halive hm.published), hinbox]
      rfl
  · have hother : row.stripped.answers m = true -> False := by
      intro hyes
      have hnamed := (InboxMessage.answers_iff.mp hyes).right.left
      refine haggregate ?_
      rw [hinbox]
      exact (outboxAssociationMatches_iff.mp hnamed).right.right.right.left.symm
    refine ⟨fun hyes => (hother hyes).elim, o,
      hleads.others hl.move.operation hm.operation ?_, ?_⟩
    · rw [Table.get_key htarget]
      exact fun hid => haggregate hid.symm
    · rw [if_neg hother]

theorem finalizeOrderOperation_standing {retryAvailableAt databaseNow : Time}
    (hdb : Sound db) (hm : PublishedFor db m o)
    (h : finalizeOrderOperation claimed retryAvailableAt databaseNow db =
      Except.ok (result, db')) :
    exists row, db.inbox.messages.get claimed.inboxId = some row ∧
      LeftWith row m o result db' := by
  simp only [finalizeOrderOperation, Transaction.translate_eq_ok] at h
  rw [Transaction.bind_eq_ok] at h
  rcases h with ⟨lease, _, hlease, h⟩
  simp only [Transaction.fetch_eq_ok] at hlease
  rcases hlease with ⟨_, rfl⟩
  rw [Transaction.bind_eq_ok] at h
  rcases h with ⟨opened, db₁, hopen, h⟩
  have hopened := openCallback_spec hopen
  rcases openCallback_on hopen with ⟨row, hrow, hon⟩
  refine ⟨row, hrow, ?_⟩
  cases opened with
  | error r =>
      simp only [Transaction.pure_eq_ok, Prod.mk.injEq] at h
      rcases h with ⟨rfl, rfl⟩
      refine LeftWith.of_ended hm hopened ?_
      intro hyes
      rcases InboxMessage.answers_iff.mp hyes with ⟨hpayload, hmatches, _⟩
      rw [hon.matched hpayload m hm.command hm.published (hm.coupled hdb).payload]
        at hmatches
      cases hmatches
  | ok c =>
      simp only [Opened] at hopened
      subst hopened
      have hpayload : payloadAssociationMatches row.stripped = true := by
        by_contra hno
        rw [Bool.not_eq_true] at hno
        rcases hon.unmatched hno with ⟨_, hc⟩
        cases hc
      have hsettled := hon.matched hpayload
      have hinbox := hsettled.left
      -- a callback of this command has been settled with it, and names its operation
      have hnamed : row.stripped.answers m = true ->
          c.outbox = m ∧ c.inbox.aggregateId = m.aggregateId := by
        intro hyes
        have hmatches := (InboxMessage.answers_iff.mp hyes).right.left
        rcases outboxAssociationMatches_iff.mp hmatches with
          ⟨_, _, _, haggregate, hcommand⟩
        have hget := hsettled.right.left
        rw [← hcommand, hm.command] at hget
        rw [hinbox]
        exact ⟨(Option.some.inj hget).symm, haggregate.symm⟩
      simp only at h
      rw [Transaction.bind_eq_ok] at h
      rcases h with ⟨found, _, hfound, h⟩
      simp only [Transaction.read_eq_ok, Prod.mk.injEq] at hfound
      rcases hfound with ⟨hfound, rfl⟩
      cases found with
      | none =>
          refine LeftWith.of_ended hm (failCallback_spec h) ?_
          intro hyes
          rw [(hnamed hyes).right, hm.operation] at hfound
          cases hfound
      | some target =>
          simp only [Transaction.bind_eq_ok, operationFromRow_eq_ok,
            Transaction.ite_eq_ok] at h
          rcases h with ⟨read, _, ⟨hread, rfl⟩, ⟨hmismatch, hfail⟩ | ⟨hmatch, hmeet⟩⟩
          · refine LeftWith.of_ended hm (failCallback_spec hfail) ?_
            intro hyes
            rcases hnamed hyes with ⟨houtbox, haggregate⟩
            rw [haggregate, hm.operation] at hfound
            cases hfound
            rcases InboxMessage.answers_iff.mp hyes with ⟨_, hmatches, horder⟩
            rw [operationAssociationMatches_iff hm hdb hread houtbox
              (by rw [hinbox]; exact hmatches), hinbox, horder] at hmismatch
            cases hmismatch
          · rw [Bool.not_eq_false] at hmatch
            exact LeftWith.of_meeting hdb hm hinbox hon.about hpayload hsettled hfound
              hread hmatch hmeet

end Finalizing

/-!
## Runs
-/

theorem OutboxStep.published_kept {l : OutboxLabel} {t u : OutboxTables}
    (hstep : OutboxStep l t u) {m : OutboxMessage}
    (hm : t.messages.get m.commandId = some m)
    (hdone : m.status = OutboxDeliveryStatus.published) :
    u.messages.get m.commandId = some m := by
  have hkept : forall {x x' : OutboxMessage}, t.messages.get x.commandId = some x ->
      x'.commandId = x.commandId -> x.status ≠ OutboxDeliveryStatus.published ->
      (t.messages.put x').get m.commandId = some m := by
    intro x x' hx hid hstatus
    rw [Table.get_put_ne]
    · exact hm
    · intro hkey
      have hkey : m.commandId = x.commandId := hkey.trans hid
      rw [hkey, hx] at hm
      cases hm
      exact hstatus hdone
  cases hstep with
  | keep => exact hm
  | queue valid free insert =>
      exact Table.get_of_rows_append (Table.insert?_eq_some.mp insert).right hm
  | claim get due worker insert =>
      refine hkept get rfl ?_
      rcases due.left with hs | hs <;> rw [hs] <;> decide
  | renew get held => exact hkept get rfl (by rw [held]; decide)
  | @finish _ e x a get held getAttempt ofCommand isOpen allowed checks =>
      exact hkept get (e.message_commandId x) (by rw [held]; decide)
  | redrive get dead insert audit => exact hkept get rfl (by rw [dead]; decide)

/-- The label ends no callback as processed. -/
def Label.unprocessed (l : Label) : Prop :=
  forall e x a, l.inbox = InboxLabel.finish e x a -> e.isProcessed = false

theorem Move.publishedFor {l : Label} {db db' : Database} (h : Move l db db')
    (hdb : Sound db) {m : OutboxMessage} {o : OrderOperation} (hm : PublishedFor db m o)
    (hl : l.unprocessed) : PublishedFor db' m o := by
  refine ⟨h.outbox.published_kept hm.command hm.published, hm.published, hm.kind, ?_⟩
  rcases h.operation.get_cases hm.operation with hsame | ⟨w, o', es, hupdate, _, _⟩
  · exact hsame
  · have hprogress := hm.progress hdb
    have habsurd : forall s, o.status = s -> s.progress = 0 -> False := by
      intro s hs hzero
      rw [hs, hzero] at hprogress
      cases hprogress
    rcases l with ⟨lo, lc, lx, li, lr⟩
    have hcombined := h.combined
    unfold Label.unprocessed at hl
    simp only at hupdate hcombined hl
    subst hupdate
    cases hcombined with
    | changeOperation hchange keys =>
        rcases hchange.status with hs | hs
        · exact absurd rfl (habsurd _ hs.left)
        · exact absurd rfl (habsurd _ hs.left)
    | fallback hchange hl keys => exact absurd rfl (habsurd _ hchange.before)
    | queueOperation hq keys => exact absurd rfl (habsurd _ hq.before)
    | settleOperation a hset hl => exact absurd rfl (habsurd _ hset.before)
    | redriveOperation hred audit => exact absurd rfl (habsurd _ hred.before)
    | callbackOperation hchange single => cases hl _ _ _ rfl

theorem InboxLabel.unprocessed_of_not_finishes {l : InboxLabel} (h : ¬l.finishes) :
    forall e x a, l = InboxLabel.finish e x a -> e.isProcessed = false := by
  intro e x a hl
  rw [hl] at h
  exact absurd trivial h

theorem Event.permits_unprocessed {db : Database} {e : Event} {l : Label}
    (hl : e.permits db l)
    (hoperation : forall c r n, e ≠ Event.job (Job.finalizeOrderOperation c r n))
    (hcase : forall c r n, e ≠ Event.job (Job.finalizeSupportCase c r n)) :
    l.unprocessed := by
  cases e with
  | start => exact absurd hl id
  | advance => exact InboxLabel.unprocessed_of_not_finishes hl.right.left
  | job j =>
      have hjob : j.permits db l := hl
      cases j with
      | claimOutbox workerId batchSize leaseSeconds scan clock =>
          rcases hjob with ⟨m, m', a, rfl⟩
          exact InboxLabel.unprocessed_of_not_finishes id
      | renewOutbox commandId leaseId leaseOwner leaseSeconds clock =>
          rcases hjob with ⟨m, m', rfl⟩
          exact InboxLabel.unprocessed_of_not_finishes id
      | recoverOutbox batchSize scan clock =>
          rcases hjob with ⟨m, a, now, first, second, _, _, hinbox⟩
          unfold Label.unprocessed
          rw [hinbox]
          exact InboxLabel.unprocessed_of_not_finishes id
      | retryOutbox retry now =>
          rcases hjob with ⟨m, a, rfl⟩
          exact InboxLabel.unprocessed_of_not_finishes id
      | finalizeOutbox claimed verdict now =>
          unfold Label.unprocessed
          rw [hjob.left]
          exact InboxLabel.unprocessed_of_not_finishes id
      | receiveInbox incoming =>
          have hjob : l = { inbox := InboxLabel.receive incoming } := hjob
          rw [hjob]
          exact InboxLabel.unprocessed_of_not_finishes id
      | finalizeOrderOperation claimed retryAvailableAt now =>
          exact absurd rfl (hoperation _ _ _)
      | finalizeSupportCase claimed retryAvailableAt now => exact absurd rfl (hcase _ _ _)
      | claimInbox workerId batchSize leaseSeconds scan clock =>
          exact hjob.right.right.right.right
      | renewInbox inboxId leaseId leaseOwner leaseSeconds clock =>
          exact hjob.right.right.right.right
      | recoverInbox batchSize scan clock => exact hjob.right.right.right.right
      | failInbox inboxId leaseId leaseOwner errorCode errorMessage now =>
          exact hjob.right.right.right.right
      | retryInbox inboxId leaseId leaseOwner attemptId nextAvailableAt errorCode
          errorMessage now =>
          exact hjob.right.right.right.right

/-- The callback of a command that a stage processes: a finalizer call that commits. -/
def callbackOf (m : OutboxMessage) (x : Stage World Event) :
    Option ProviderWebhookEventData :=
  match x.event with
  | Event.job (Job.finalizeOrderOperation claimed retryAvailableAt now) =>
      match finalizeOrderOperation claimed retryAvailableAt now x.before.db with
      | Except.ok _ =>
          ((x.before.db.inbox.messages.get claimed.inboxId).filter fun row =>
            row.stripped.answers m).map fun row => row.payload
      | Except.error _ => none
  | _ => none

/-- The callbacks of a command that a run processes, in the order of the run. -/
def callbacksOf (m : OutboxMessage) (stages : List (Stage World Event)) :
    List ProviderWebhookEventData :=
  stages.filterMap (callbackOf m)

theorem World.perform_commit {w : World} {j : Job} {α : Type} {tx : Tx α}
    (h : j.transaction = (fun _ => []) <$> tx) :
    (w.perform j).db = (tx.commit w.db).2 := by
  unfold World.perform
  rcases tx.commit_cases w.db with ⟨a, t, htx, hcommit⟩ | ⟨e, htx, hcommit⟩
  · have hj : j.transaction w.db = Except.ok ([], t) := by
      rw [h, Transaction.map_eq_ok]
      exact ⟨a, t, htx, rfl⟩
    rw [hj, hcommit]
  · rw [hcommit]
    cases hj : j.transaction w.db with
    | error f => rfl
    | ok r =>
        rw [h, Transaction.map_eq_ok] at hj
        rcases hj with ⟨a, t, hok, _⟩
        rw [htx] at hok
        cases hok

theorem World.run_job (w : World) {j : Job} (h : j.Admissible w.handles) :
    Run World.Step w [⟨w, Event.job j, w.perform j⟩] (w.perform j) :=
  Run.cons (World.Step.job h) (Run.nil _)

theorem GoodStage.standing_finalized {x : Stage World Event} (h : GoodStage x)
    {claimed : ClaimedInboxMessage} {retryAvailableAt now : Time}
    (hevent : x.event =
      Event.job (Job.finalizeOrderOperation claimed retryAvailableAt now))
    {m : OutboxMessage} {o : OrderOperation} (hm : PublishedFor x.before.db m o) :
    exists o', x.after.db.operations.rows.get m.aggregateId = some o' ∧
      o'.standing = (callbackOf m x).elim o.standing o.standing.meet := by
  have hstep := h.step
  rw [hevent] at hstep
  have hafter : x.after.db = ((finalizeOrderOperation claimed retryAvailableAt
      now).commit x.before.db).2 := by
    rw [hstep.after_job.left]
    exact World.perform_commit rfl
  rw [hafter]
  unfold callbackOf
  rw [hevent]
  simp only
  cases hcall : finalizeOrderOperation claimed retryAvailableAt now x.before.db with
  | error f =>
      rw [Transaction.commit_error hcall]
      exact ⟨o, hm.operation, rfl⟩
  | ok r =>
      rw [Transaction.commit_ok hcall]
      rcases finalizeOrderOperation_standing h.before.sound hm hcall with
        ⟨row, hrow, _, o', ho', hstanding⟩
      refine ⟨o', ho', ?_⟩
      rw [hstanding]
      simp only [hrow]
      by_cases hanswers : row.stripped.answers m = true
      · simp [Option.filter, hanswers]
      · simp [Option.filter, hanswers]

theorem GoodStage.standing {x : Stage World Event} (h : GoodStage x) {m : OutboxMessage}
    {o : OrderOperation} (hm : PublishedFor x.before.db m o) :
    exists o', PublishedFor x.after.db m o' ∧
      o'.standing = (callbackOf m x).elim o.standing o.standing.meet := by
  have hcommand : x.after.db.outbox.messages.get m.commandId = some m :=
    h.did.moves.preserves (I := fun db => db.outbox.messages.get m.commandId = some m)
      (fun _ _ _ _ hmove hget => hmove.outbox.published_kept hget hm.published) hm.command
  by_cases hoperation : exists c r n,
      x.event = Event.job (Job.finalizeOrderOperation c r n)
  · rcases hoperation with ⟨claimed, retryAvailableAt, now, hevent⟩
    rcases h.standing_finalized hevent hm with ⟨o', ho', hstanding⟩
    exact ⟨o', ⟨hcommand, hm.published, hm.kind, ho'⟩, hstanding⟩
  -- any other stage processes no callback of an operation
  have hother : forall c r n, x.event ≠ Event.job (Job.finalizeOrderOperation c r n) :=
    fun c r n hevent => hoperation ⟨c, r, n, hevent⟩
  have hnone : callbackOf m x = none := by
    unfold callbackOf
    split
    · rename_i claimed retryAvailableAt now hevent
      exact absurd hevent (hother _ _ _)
    · rfl
  rw [hnone]
  refine ⟨o, ?_, rfl⟩
  by_cases hcase : exists c r n, x.event = Event.job (Job.finalizeSupportCase c r n)
  · rcases hcase with ⟨claimed, retryAvailableAt, now, hevent⟩
    have hstep := h.step
    rw [hevent] at hstep
    have hafter : x.after.db = ((finalizeSupportCase claimed retryAvailableAt
        now).commit x.before.db).2 := by
      rw [hstep.after_job.left]
      exact World.perform_commit rfl
    refine ⟨hcommand, hm.published, hm.kind, ?_⟩
    rw [hafter]
    rcases (finalizeSupportCase claimed retryAvailableAt now).commit_cases
      x.before.db with ⟨result, db', htx, hcommit⟩ | ⟨e, _, hcommit⟩
    · rw [hcommit]
      rcases finalizeSupportCase_spec htx with ⟨l, hl, hkeep, _⟩
      have hmove := hl.move.operation
      rw [hkeep] at hmove
      show db'.operations.rows.get m.aggregateId = some o
      rw [hmove.eq_of_keep]
      exact hm.operation
    · rw [hcommit]
      exact hm.operation
  · have hkept := h.did.moves.preserves
      (I := fun db => Sound db ∧ PublishedFor db m o) ?_ ⟨h.before.sound, hm⟩
    · exact hkept.right
    · intro l db db' hl hmove hdb
      exact ⟨hmove.sound hdb.left, hmove.publishedFor hdb.left hdb.right
        (Event.permits_unprocessed hl hother fun c r n hevent => hcase ⟨c, r, n, hevent⟩)⟩

theorem World.Good.standing {w w' : World} {stages : List (Stage World Event)}
    (hw : w.Good) (hrun : Run World.Step w stages w') {m : OutboxMessage}
    {o : OrderOperation} (hm : PublishedFor w.db m o) :
    exists o', PublishedFor w'.db m o' ∧
      o'.standing = (callbacksOf m stages).foldl Standing.meet o.standing := by
  have hkept := hrun.history (C := fun _ => True) (l := [])
    (I := fun past w => w.Good ∧ exists o', PublishedFor w.db m o' ∧
      o'.standing = (callbacksOf m past).foldl Standing.meet o.standing)
    ?_ ⟨hw, o, hm, rfl⟩ (fun _ _ => trivial)
  · exact hkept.right
  · rintro past x - hstep ⟨hgood, o₁, hm₁, hstanding⟩
    rcases hstep.spec hgood with ⟨hdid, hgood'⟩
    refine ⟨hgood', ?_⟩
    rcases (GoodStage.mk hstep hgood hgood' hdid).standing hm₁ with ⟨o₂, hm₂, hlast⟩
    refine ⟨o₂, hm₂, ?_⟩
    rw [hlast, hstanding]
    unfold callbacksOf
    rw [List.filterMap_append, List.foldl_append]
    cases hcallback : callbackOf m x with
    | none => simp [hcallback]
    | some e => simp [hcallback]

/-- The same statuses are reported, in whatever order and however often. -/
def SameReports (first second : List ProviderWebhookEventData) : Prop :=
  forall s, s ∈ first.map ProviderWebhookEventData.commandStatus ↔
    s ∈ second.map ProviderWebhookEventData.commandStatus

/-- Both conclusions are reported. -/
def Contradictory (events : List ProviderWebhookEventData) : Prop :=
  ProviderCommandExecutionStatus.completed ∈
      events.map ProviderWebhookEventData.commandStatus ∧
    ProviderCommandExecutionStatus.rejected ∈
      events.map ProviderWebhookEventData.commandStatus

/--
The order of callbacks does not matter.  In any run from a state in which the
command of an operation is published, the callbacks of the command that are
processed leave the most advanced status of those reported, provided that their
references agree and that they do not contain both conclusions; any other run
that processes the same reports, in another order or more often, leaves the same
status; and no stage changes the status of an operation that is completed or
rejected.
-/
theorem callback_order_irrelevant {w w' : World} {stages : List (Stage World Event)}
    (hw : w.Reachable) (hrun : Run World.Step w stages w') {m : OutboxMessage}
    {o : OrderOperation} (hm : m ∈ w.db.outbox.messages.rows)
    (hkind : m.aggregateType = ProviderAggregateType.orderOperation)
    (hpublished : m.status = OutboxDeliveryStatus.published)
    (ho : w.db.operations.rows.get m.aggregateId = some o) :
    (Compatible o.standing (callbacksOf m stages) ->
      ¬Contradictory (callbacksOf m stages) ->
      exists o', w'.db.operations.rows.get m.aggregateId = some o' ∧
        MostAdvanced o.status
          ((callbacksOf m stages).map ProviderWebhookEventData.commandStatus) o'.status ∧
        forall (other : List (Stage World Event)) (w'' : World),
          Run World.Step w other w'' ->
          Compatible o.standing (callbacksOf m other) ->
          SameReports (callbacksOf m stages) (callbacksOf m other) ->
          exists o'', w''.db.operations.rows.get m.aggregateId = some o'' ∧
            o''.status = o'.status) ∧
    (forall x, x ∈ stages -> forall a,
      x.before.db.operations.rows.get m.aggregateId = some a -> a.status.concluded ->
      exists b, x.after.db.operations.rows.get m.aggregateId = some b ∧
        b.status = a.status) := by
  rcases hw with ⟨first, hfirst⟩
  have hgood := hfirst.good.left
  have hfor : PublishedFor w.db m o := ⟨Table.get_of_mem hm, hpublished, hkind, ho⟩
  have hprogress : 1 ≤ o.standing.status.progress := hfor.progress hgood.sound
  have hend : forall (other : List (Stage World Event)) (w'' : World),
      Run World.Step w other w'' -> Compatible o.standing (callbacksOf m other) ->
      exists o'', w''.db.operations.rows.get m.aggregateId = some o'' ∧
        MostAdvanced o.status
          ((callbacksOf m other).map ProviderWebhookEventData.commandStatus) o''.status := by
    intro other w'' hother hcompatible
    rcases hgood.standing hother hfor with ⟨o'', hfor'', hstanding⟩
    refine ⟨o'', hfor''.operation, ?_⟩
    have hall := Standing.meet_all hcompatible hprogress
    rw [← hstanding] at hall
    exact hall
  constructor
  · intro hcompatible hnot
    rcases hend stages w' hrun hcompatible with ⟨o', ho', hmost⟩
    refine ⟨o', ho', hmost, ?_⟩
    intro other w'' hother hcompatible' hsame
    rcases hend other w'' hother hcompatible' with ⟨o'', ho'', hmost'⟩
    exact ⟨o'', ho'', (hmost.unique hmost' hprogress hsame hnot).symm⟩
  · have hkept := hrun.invariant (C := fun _ => True)
      (I := fun w => w.Good ∧ exists o', PublishedFor w.db m o') ?_
      ⟨hgood, o, hfor⟩ (fun _ _ => trivial)
    · intro x hx a ha hconcluded
      rcases hkept.right x hx with ⟨hstep, ⟨hbefore, o₁, hfor₁⟩, _⟩
      have hsame : a = o₁ := Option.some.inj (ha.symm.trans hfor₁.operation)
      subst hsame
      rcases hstep.spec hbefore with ⟨hdid, hafter⟩
      rcases (GoodStage.mk hstep hbefore hafter hdid).standing hfor₁ with
        ⟨b, hforb, hstanding⟩
      refine ⟨b, hforb.operation, ?_⟩
      have hstatus : b.standing.status = a.status := by
        rw [hstanding]
        cases callbackOf m x with
        | none => rfl
        | some e => exact a.standing.meet_concluded hconcluded e
      exact hstatus
    · rintro x - hstep ⟨hbefore, o₁, hfor₁⟩
      rcases hstep.spec hbefore with ⟨hdid, hafter⟩
      rcases (GoodStage.mk hstep hbefore hafter hdid).standing hfor₁ with ⟨b, hforb, _⟩
      exact ⟨hafter, b, hforb⟩

/-!
## An example

The provider reports that the command is being processed, that it is completed, and once
more that it is being processed.
-/

def sampleProgressReport (inboxId : UUID) (eventId : String)
    (status : ProviderCommandExecutionStatus) : InboxMessage :=
  { sampleEvent with
    inboxId := inboxId
    eventId := eventId
    payload := { sampleEvent.payload with commandStatus := status } }

/-- The three reports have been received and claimed. -/
def sampleReports : World :=
  ((((sampleFinalized sampleAccepted).perform
    (Job.receiveInbox (sampleProgressReport 100 "begun"
      ProviderCommandExecutionStatus.processing))).perform
    (Job.receiveInbox (sampleProgressReport 101 "done"
      ProviderCommandExecutionStatus.completed))).perform
    (Job.receiveInbox (sampleProgressReport 102 "begun again"
      ProviderCommandExecutionStatus.processing))).perform
    (Job.claimInbox "worker" 3 30 [100, 101, 102] (fun _ _ => 0))

theorem sampleReports_reachable : sampleReports.Reachable := by
  rcases sampleFinalized_runs sampleAccepted with ⟨stages, hrun, _⟩
  have hfresh : forall id event status handles,
      (Job.receiveInbox (sampleProgressReport id event status)).Admissible handles :=
    fun _ _ _ _ hchecks => ⟨hchecks, rfl, rfl, rfl, rfl, ⟨rfl, rfl, rfl⟩, ⟨rfl, rfl⟩, rfl,
      rfl, rfl⟩
  exact ⟨_, (((hrun.job (hfresh 100 "begun" _ _)).job (hfresh 101 "done" _ _)).job
    (hfresh 102 "begun again" _ _)).job
      (j := Job.claimInbox "worker" 3 30 [100, 101, 102] (fun _ _ => 0)) trivial⟩

def samplePublished : OutboxMessage :=
  sampleReports.db.outbox.messages.rows.head (by decide +kernel)

def sampleSubmitted : OrderOperation :=
  sampleReports.db.operations.rows.rows.head (by decide +kernel)

theorem sampleReports_claims : sampleReports.db.inbox.messages.rows.length = 3 ∧
    sampleReports.db.inbox.attempts.rows.length = 3 := by
  decide +kernel

/-- The job that processes one of the three reports. -/
def sampleFinalizing (k : Fin 3) : Job :=
  Job.finalizeOrderOperation
    { toInboxMessage := sampleReports.db.inbox.messages.rows.get
        ⟨k, by rw [sampleReports_claims.left]; exact k.isLt⟩
      attempt := sampleReports.db.inbox.attempts.rows.get
        ⟨k, by rw [sampleReports_claims.right]; exact k.isLt⟩ } 0 0

theorem sampleFinalizing_admissible (k : Fin 3) (handles : List ClaimedOutboxMessage) :
    (sampleFinalizing k).Admissible handles := by
  unfold sampleFinalizing
  exact trivial

/-- The stages in which jobs are done one after the other. -/
def jobStages (w : World) : List Job -> List (Stage World Event)
  | [] => []
  | job :: jobs => ⟨w, Event.job job, w.perform job⟩ :: jobStages (w.perform job) jobs

theorem jobStages_run {jobs : List Job}
    (h : forall job, job ∈ jobs -> forall handles, job.Admissible handles) :
    forall w : World, Run World.Step w (jobStages w jobs) (jobs.foldl World.perform w) := by
  induction jobs with
  | nil => exact fun w => Run.nil w
  | cons job jobs ih =>
      intro w
      exact Run.cons (World.Step.job (h job List.mem_cons_self w.handles))
        (ih (fun j hj => h j (List.mem_cons_of_mem job hj)) _)

/-- The stages in which the reports are processed in a given order. -/
def sampleProcessing (order : List (Fin 3)) : List (Stage World Event) :=
  jobStages sampleReports (order.map sampleFinalizing)

def sampleProcessedIn (order : List (Fin 3)) : World :=
  (order.map sampleFinalizing).foldl World.perform sampleReports

theorem sampleProcessedIn_run (order : List (Fin 3)) :
    Run World.Step sampleReports (sampleProcessing order) (sampleProcessedIn order) := by
  refine jobStages_run (fun job hjob => ?_) sampleReports
  rcases List.mem_map.mp hjob with ⟨k, _, rfl⟩
  exact sampleFinalizing_admissible k

def sampleStatusReport (status : ProviderCommandExecutionStatus) : ProviderWebhookEventData :=
  { sampleEvent.payload with commandStatus := status }

theorem sampleStatusReport_compatible (p : Standing)
    (statuses : List ProviderCommandExecutionStatus) :
    Compatible p (statuses.map sampleStatusReport) := by
  have hnone : forall e, e ∈ statuses.map sampleStatusReport -> incomingReference e = none := by
    intro e he
    rcases List.mem_map.mp he with ⟨s, _, rfl⟩
    rfl
  constructor
  · intro e he
    rw [hnone e he]
    simp [providerReferenceIsCompatible]
  · intro e e' he he'
    rw [hnone e he, hnone e' he']
    rfl

theorem sampleProcessing_forward :
    callbacksOf samplePublished (sampleProcessing [0, 1, 2]) =
      [ProviderCommandExecutionStatus.processing, ProviderCommandExecutionStatus.completed,
        ProviderCommandExecutionStatus.processing].map sampleStatusReport := by
  decide +kernel

theorem sampleProcessing_backward :
    callbacksOf samplePublished (sampleProcessing [1, 2, 0]) =
      [ProviderCommandExecutionStatus.completed, ProviderCommandExecutionStatus.processing,
        ProviderCommandExecutionStatus.processing].map sampleStatusReport := by
  decide +kernel

theorem samplePublished_mem : samplePublished ∈ sampleReports.db.outbox.messages.rows := by
  unfold samplePublished
  exact List.head_mem _

theorem sampleSubmitted_published :
    sampleSubmitted.status = OperationRecordStatus.submitted ∧
      samplePublished.status = OutboxDeliveryStatus.published ∧
      samplePublished.aggregateType = ProviderAggregateType.orderOperation ∧
      sampleReports.db.operations.rows.get samplePublished.aggregateId =
        some sampleSubmitted := by
  decide +kernel

/-- The order in which the reports came, and one in which the conclusion comes first. -/
theorem callback_order_irrelevant_processing :
    exists o o', (sampleProcessedIn [0, 1, 2]).db.operations.rows.get
        samplePublished.aggregateId = some o ∧
      (sampleProcessedIn [1, 2, 0]).db.operations.rows.get samplePublished.aggregateId =
        some o' ∧ o'.status = o.status ∧
      MostAdvanced OperationRecordStatus.submitted
        [ProviderCommandExecutionStatus.processing, ProviderCommandExecutionStatus.completed,
          ProviderCommandExecutionStatus.processing] o.status := by
  rcases sampleSubmitted_published with ⟨hstatus, hpublished, hkind, hoperation⟩
  have hrun := sampleProcessedIn_run [0, 1, 2]
  have hrun' := sampleProcessedIn_run [1, 2, 0]
  have horder := (callback_order_irrelevant sampleReports_reachable hrun samplePublished_mem
    hkind hpublished hoperation).left
  rw [sampleProcessing_forward, hstatus] at horder
  have hbackward := sampleProcessing_backward
  generalize sampleProcessing [1, 2, 0] = backward at hrun' hbackward
  generalize sampleProcessedIn [0, 1, 2] = w at horder ⊢
  generalize sampleProcessedIn [1, 2, 0] = w' at hrun' ⊢
  rcases horder (sampleStatusReport_compatible _ _) (by rintro ⟨_, h⟩; revert h; decide) with
    ⟨o₁, ho₁, hmost, hother⟩
  rcases hother backward w' hrun' (by rw [hbackward]; exact sampleStatusReport_compatible _ _)
    (by rw [hbackward]; intro s; cases s <;> decide) with ⟨o₂, ho₂, hsame⟩
  exact ⟨o₁, o₂, ho₁, ho₂, hsame, hmost⟩

end RefundAgent
