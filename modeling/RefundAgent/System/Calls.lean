import RefundAgent.System.CaseMoves

/-!
# Calls of the two services

`Behaves` is the rely-guarantee judgement for a call that runs among others:
whatever the others do between its transactions, each transaction that commits
is a move.  The postcondition speaks about calls that return.
-/

namespace RefundAgent

open Foundation

variable {D : HandoffDecision -> Prop}

structure Behaves (D : HandoffDecision -> Prop) {α : Type} (p : Call α) (db : Database)
    (P : α -> Database -> Prop) : Prop where
  safe : Program.Safe Sound Later (Served D) (fun _ => True) p db
    fun r t => forall a, r = Except.ok a -> P a t

namespace Behaves

variable {α β : Type} {p : Call α} {db : Database} {P : α -> Database -> Prop}
  {Q : β -> Database -> Prop}

theorem since (h : Behaves D p db P) :
    Program.Safe Sound Later (Served D) (fun _ => True) p db
      fun r t => Later db t ∧ forall a, r = Except.ok a -> P a t :=
  Program.Safe.since (fun h h' => h.trans h') (fun h => h.later) h.safe

theorem bind {f : α -> Call β} (h : Behaves D p db P)
    (hnext : forall a t, Later db t -> P a t -> Behaves D (f a) t Q) :
    Behaves D (p >>= f) db Q := by
  refine ⟨Program.Safe.bind Later.refl ?_ ?_ h.since⟩
  · intro e t _ a ha
    cases ha
  · intro a t _ ht
    exact (hnext a t ht.left (ht.right a rfl)).safe

theorem rescue {handler : Failure -> Option (Call α)}
    (h : Behaves D p db P)
    (hcatch : forall e q t, handler e = some q -> Later db t -> Behaves D q t P) :
    Behaves D (p.rescue handler) db P := by
  refine ⟨Program.Safe.rescue Later.refl (fun r t ht => ht.right) ?_ h.since⟩
  intro e q t hq _ ht
  exact (hcatch e q t hq ht.left).safe

theorem perform {tx : Tx α} (hstable : forall a t u, Later t u -> P a t -> P a u)
    (hstep : forall t, Later db t -> Sound t -> forall a u, tx t = Except.ok (a, u) ->
      Served D t u ∧ P a u) : Behaves D (Program.perform tx) db P := by
  refine ⟨Program.Safe.perform ?_ ?_⟩
  · intro r t u htu hr a ha
    exact hstable a t u htu (hr a ha)
  · intro t hdt ht
    refine ⟨fun e a ha => (by cases ha), ?_⟩
    intro a u hu
    refine ⟨(hstep t hdt ht a u hu).left, ?_⟩
    intro b hb
    cases hb
    exact (hstep t hdt ht a u hu).right

theorem act {tx : Tx α} (hstep : forall t, Later db t -> Sound t -> forall a u,
    tx t = Except.ok (a, u) -> Served D t u) :
    Behaves D (Program.perform tx) db (fun _ _ => True) :=
  perform (fun _ _ _ _ _ => trivial)
    (fun t hdt ht a u hu => ⟨hstep t hdt ht a u hu, trivial⟩)

theorem read {tx : Tx α} (hstable : forall a t u, Later t u -> P a t -> P a u)
    (hread : forall t a u, tx t = Except.ok (a, u) -> u = t ∧ P a t) :
    Behaves D (Program.perform tx) db P := by
  refine perform hstable ?_
  intro t _ _ a u hu
  rcases hread t a u hu with ⟨rfl, hP⟩
  exact ⟨Served.refl u, hP⟩

theorem pure {a : α} (h : forall t, Later db t -> P a t) :
    Behaves D (Pure.pure a : Call α) db P := by
  refine ⟨fun t hdt _ b hb => ?_⟩
  cases hb
  exact h t hdt

theorem raise {e : Failure} : Behaves D (Program.raise e : Call α) db P := by
  refine ⟨fun t _ _ a ha => ?_⟩
  cases ha

theorem done {r : Except Failure α} (h : forall a t, r = Except.ok a -> Later db t ->
    P a t) : Behaves D (Program.done r : Call α) db P :=
  ⟨fun t hdt _ a ha => h a t ha hdt⟩

theorem compute {r : Except Failure α} {f : α -> Call β}
    (h : forall a, r = Except.ok a -> Behaves D (f a) db Q) :
    Behaves D (Program.done r >>= f) db Q := by
  cases r with
  | ok a => exact h a rfl
  | error e => exact raise

theorem require {c : Prop} [Decidable c] {e : Failure} {f : Unit -> Call β}
    (h : c -> Behaves D (f ()) db Q) : Behaves D (Program.require c e >>= f) db Q := by
  unfold Program.require
  by_cases hc : c
  · rw [if_pos hc]
    exact h hc
  · rw [if_neg hc]
    exact raise

end Behaves

/-!
## Reads and identifiers
-/

theorem freshId_behaves (db : Database) :
    Behaves D freshId db (fun id t => t.ids.Issued id) := by
  refine Behaves.perform (fun id t u htu ht => ht.mono htu.ids) ?_
  intro t _ _ id u hu
  have hdrawn := newId_spec hu
  exact ⟨hdrawn.served, hdrawn.issued⟩

theorem getOperation_behaves (scope : AccessScope) (operationId : UUID)
    (db : Database) :
    Behaves D (getOperation scope operationId) db
      (fun o t => Known o t ∧ o.operationId = operationId) := by
  refine Behaves.bind (P := fun found t => forall o, found = some o ->
    Known o t ∧ o.operationId = operationId) (Behaves.read ?_ ?_) ?_
  · intro found t u htu ht o ho
    exact ⟨(ht o ho).left.later htu, (ht o ho).right⟩
  · intro t found u hu
    have hfound := findOperation_spec hu
    exact ⟨hfound.left, hfound.right⟩
  · intro found t _ ht
    cases found with
    | none => exact Behaves.raise
    | some o =>
        have ho := ht o rfl
        exact Behaves.pure fun u htu => ⟨ho.left.later htu, ho.right⟩

theorem unchangedResult_behaves (scope : AccessScope) (operationId : UUID)
    (db : Database) :
    Behaves D (unchangedResult scope operationId) db (fun _ _ => True) :=
  Behaves.bind (getOperation_behaves scope operationId db)
    (fun _ _ _ _ => Behaves.pure fun _ _ => trivial)

theorem findEventByIdempotencyKey_behaves (scope : AccessScope) (key : String)
    (db : Database) :
    Behaves D (Program.perform (findEventByIdempotencyKey scope key)) db
      (fun _ _ => True) := by
  refine Behaves.read (fun _ _ _ _ _ => trivial) ?_
  intro t found u hu
  simp only [findEventByIdempotencyKey, customerOwnedVisibility,
    Transaction.bind_eq_ok, Transaction.fetch_eq_ok, Transaction.read_eq_ok,
    Prod.mk.injEq] at hu
  rcases hu with ⟨_, _, ⟨_, rfl⟩, _, rfl⟩
  exact ⟨rfl, trivial⟩

/-!
## Decisions of the operation service
-/

theorem KeyUnder.append {head key : String} (h : KeyUnder head key)
    (suffix : String) : KeyUnder head (key ++ suffix) := by
  rcases h with ⟨rest, rfl⟩
  exact ⟨rest ++ suffix, by simp only [String.append_assoc]⟩

theorem operationKey_under (operationId : UUID) (rest : String) :
    KeyUnder (operationHead operationId) (operationKey operationId rest) :=
  ⟨rest, rfl⟩

theorem eventReference_eq_ok {reference : Option String} {t : Option CleanText}
    (h : eventReference reference = Except.ok t) :
    t.map CleanText.text = reference.map Text.trim := by
  cases reference with
  | none =>
      cases h
      rfl
  | some s =>
      unfold eventReference at h
      cases hs : CleanText.parse? s with
      | none =>
          simp only [hs] at h
          cases h
      | some u =>
          simp only [hs] at h
          cases h
          exact congrArg some (CleanText.parse?_eq_some.mp hs)

theorem statusUpdateEvent_eq_ok {current updated : OrderOperation} {eventId : UUID}
    {key actor : String} {e : OrderOperationEvent}
    (h : statusUpdateEvent current updated eventId key actor = Except.ok e) :
    updated.legible ∧ exists reference, e = statusChangedEvent current eventId key
      updated.status reference actor updated.updatedAt := by
  unfold statusUpdateEvent at h
  cases hr : eventReference updated.providerReference with
  | error f =>
      rw [hr] at h
      cases h
  | ok reference =>
      rw [hr] at h
      cases h
      exact ⟨OrderOperation.legible_of_parsed (eventReference_eq_ok hr), reference, rfl⟩

theorem Referenced.of_pending {current : OrderOperation} {target : OperationRecordStatus}
    {reference : Option String} {now : Time}
    (hpending : current.status = OperationRecordStatus.pendingConfirmation)
    (hreference : target.unanswered -> reference = none)
    (hlegible : (current.withStatus target reference now).legible) :
    Referenced current (current.withStatus target reference now) := by
  refine ⟨fun _ => hlegible, Or.inl (Or.inl hpending), fun hafter =>
    ⟨Or.inl hpending, fun hempty => ?_⟩⟩
  show (reference.orElse fun _ => current.providerReference) = none
  rw [hreference hafter, hempty]
  rfl

structure Decided (current : OrderOperation) (result : OperationServiceResult)
    (ids : List UUID) : Prop where
  write : OperationWrite current result.operation result.events
  frozen : result.operation.frozen = current.frozen
  ids : forall e, e ∈ result.events -> e.eventId ∈ ids

theorem Decided.of_confirmation {current : OrderOperation}
    {target : OperationRecordStatus} {reference : Option String}
    {action : OperationServiceAction} {first second : UUID}
    {key statusKey actor : String} {now eventTime : Time} {status : OrderOperationEvent}
    (hpending : current.status = OperationRecordStatus.pendingConfirmation)
    (htarget : target ∈ allowedStatusTransitions
      OperationRecordStatus.pendingConfirmation)
    (hreference : target.unanswered -> reference = none)
    (hkey : KeyUnder (operationHead current.operationId) key)
    (hstatusKey : KeyUnder (operationHead current.operationId) statusKey)
    (hstatus : statusUpdateEvent current (current.withStatus target reference now)
      first statusKey actor = Except.ok status) :
    Decided current
      { action := action
        operation := current.withStatus target reference now
        events := [confirmationRecordedEvent current second key actor eventTime,
          status] } [first, second] := by
  rcases statusUpdateEvent_eq_ok hstatus with ⟨hlegible, eventRef, rfl⟩
  refine ⟨⟨rfl, rfl, rfl, Or.inr ⟨Or.inl ?_, _, rfl, rfl, rfl⟩, ?_, ?_,
    Referenced.of_pending hpending hreference hlegible⟩, rfl, ?_⟩
  · rw [hpending]
    exact htarget
  · intro e he
    simp only [List.mem_cons, List.not_mem_nil, or_false] at he
    rcases he with rfl | rfl <;> rfl
  · intro e he
    simp only [List.mem_cons, List.not_mem_nil, or_false] at he
    rcases he with rfl | rfl
    · exact hkey
    · exact hstatusKey
  · intro e he
    simp only [List.mem_cons, List.not_mem_nil, or_false] at he
    rcases he with rfl | rfl
    · exact List.mem_cons_of_mem _ List.mem_cons_self
    · exact List.mem_cons_self

theorem Decided.of_status {current : OrderOperation}
    {target : OperationRecordStatus} {reference : Option String} {first : UUID}
    {key actor : String} {now : Time} {status : OrderOperationEvent}
    (action : OperationServiceAction)
    (hpending : current.status = OperationRecordStatus.pendingConfirmation)
    (htarget : target ∈ allowedStatusTransitions
      OperationRecordStatus.pendingConfirmation)
    (hreference : target.unanswered -> reference = none)
    (hkey : KeyUnder (operationHead current.operationId) key)
    (hstatus : statusUpdateEvent current (current.withStatus target reference now)
      first key actor = Except.ok status) :
    Decided current
      { action := action
        operation := current.withStatus target reference now
        events := [status] } [first] := by
  rcases statusUpdateEvent_eq_ok hstatus with ⟨hlegible, eventRef, rfl⟩
  refine ⟨⟨rfl, rfl, rfl, Or.inr ⟨Or.inl ?_, _, rfl, rfl, rfl⟩, ?_, ?_,
    Referenced.of_pending hpending hreference hlegible⟩, rfl, ?_⟩
  · rw [hpending]
    exact htarget
  · intro e he
    rw [List.mem_singleton.mp he]
    rfl
  · intro e he
    rw [List.mem_singleton.mp he]
    exact hkey
  · intro e he
    rw [List.mem_singleton.mp he]
    exact List.mem_cons_self

theorem PendingAction.nextStatus_allowed (a : PendingAction) (o : OrderOperation) :
    a.nextStatus o ∈ allowedStatusTransitions
        OperationRecordStatus.pendingConfirmation ∧
      a.nextStatus o ≠ OperationRecordStatus.pendingConfirmation ∧
      a.nextStatus o ≠ OperationRecordStatus.queued := by
  cases a with
  | cancelled => simp [nextStatus, allowedStatusTransitions]
  | confirmed =>
      unfold nextStatus
      cases o.requiresManualReview with
      | false => exact ⟨by decide, by decide, by decide⟩
      | true => exact ⟨by decide, by decide, by decide⟩

theorem pendingDecision_decided {a : PendingAction} {current : OrderOperation}
    {key actor : String} {first second : UUID} {now : Time}
    {result : OperationServiceResult}
    (hpending : current.status = OperationRecordStatus.pendingConfirmation)
    (hkey : KeyUnder (operationHead current.operationId) key)
    (h : pendingDecision a current key actor first second now = Except.ok result) :
    Decided current result [first, second] ∧
      ServiceStatus current result.operation := by
  have hallowed := a.nextStatus_allowed current
  have hservice : ServiceStatus current
      (current.withStatus (a.nextStatus current) none now) :=
    Or.inl ⟨hpending, hallowed.right⟩
  cases a with
  | confirmed =>
      simp only [pendingDecision] at h
      cases hs : statusUpdateEvent current (current.withStatus
          (PendingAction.confirmed.nextStatus current) none now) first
          (key ++ ":status") actor with
      | error f =>
          rw [hs] at h
          cases h
      | ok status =>
          rw [hs] at h
          cases h
          exact ⟨Decided.of_confirmation hpending hallowed.left (fun _ => rfl) hkey
            (hkey.append ":status") hs, hservice⟩
  | cancelled =>
      simp only [pendingDecision] at h
      cases hs : statusUpdateEvent current (current.withStatus
          (PendingAction.cancelled.nextStatus current) none now) first key actor with
      | error f =>
          rw [hs] at h
          cases h
      | ok status =>
          rw [hs] at h
          cases h
          have hdecided := Decided.of_status PendingAction.cancelled.action hpending
            hallowed.left (fun _ => rfl) hkey hs
          refine ⟨⟨hdecided.write, rfl, ?_⟩, hservice⟩
          intro e he
          rw [List.mem_singleton.mp (hdecided.ids e he)]
          exact List.mem_cons_self

theorem submission_decided {current : OrderOperation} {reference key actor : String}
    {first second : UUID} {now : Time} {result : OperationServiceResult}
    (hpending : current.status = OperationRecordStatus.pendingConfirmation)
    (hkey : KeyUnder (operationHead current.operationId) key)
    (h : submission current reference key actor first second now =
      Except.ok result) :
    Decided current result [first, second] ∧
      ServiceStatus current result.operation := by
  unfold submission at h
  simp only at h
  cases hs : statusUpdateEvent current (current.withStatus
      OperationRecordStatus.submitted (some reference) now) first (key ++ ":status")
      actor with
  | error f =>
      rw [hs] at h
      cases h
  | ok status =>
      rw [hs] at h
      cases h
      exact ⟨Decided.of_confirmation hpending (by decide)
        (fun hno => (by rcases hno with h | h | h <;> cases h)) hkey
        (hkey.append ":status") hs, Or.inl ⟨hpending, by simp [OrderOperation.withStatus],
          by simp [OrderOperation.withStatus]⟩⟩

theorem queueing_decided {current : OrderOperation} {request actor : String}
    {first second : UUID} {now updatedAt : Time} {result : OperationServiceResult}
    (hpending : current.status = OperationRecordStatus.pendingConfirmation)
    (h : queueing current request actor first second now updatedAt =
      Except.ok result) :
    Decided current result [first, second] := by
  unfold queueing at h
  simp only at h
  cases hs : statusUpdateEvent current (current.withStatus
      OperationRecordStatus.queued none updatedAt) first
      (operationKey current.operationId ("queued:" ++ request)) actor with
  | error f =>
      rw [hs] at h
      cases h
  | ok status =>
      rw [hs] at h
      cases h
      exact Decided.of_confirmation hpending (by decide) (fun _ => rfl)
        (operationKey_under _ _)
        (operationKey_under _ _) hs

theorem attachment_decided {current : OrderOperation} {key : String}
    (supportCaseId eventId : UUID) (now : Time)
    (hreview : current.status = OperationRecordStatus.manualReview)
    (hfree : current.supportCaseId = none)
    (hkey : KeyUnder (operationHead current.operationId) key) :
    Decided current (attachment current supportCaseId eventId key now) [eventId] ∧
      ServiceStatus current
        (attachment current supportCaseId eventId key now).operation := by
  refine ⟨⟨⟨rfl, rfl, rfl, Or.inl ⟨rfl, rfl⟩, ?_, ?_, id, Or.inl (Or.inr (Or.inr hreview)),
    fun _ => ⟨Or.inr (Or.inr hreview), id⟩⟩, rfl, ?_⟩, Or.inr ⟨hreview, rfl, hfree⟩⟩
  · intro e he
    rw [List.mem_singleton.mp he]
    rfl
  · intro e he
    rw [List.mem_singleton.mp he]
    exact hkey
  · intro e he
    rw [List.mem_singleton.mp he]
    exact List.mem_cons_self

/-!
## Calls of the operation service
-/

/-- A call that behaves wherever it starts. -/
def Harmless (D : HandoffDecision -> Prop) {α : Type} (p : Call α) : Prop :=
  forall db, Behaves D p db (fun _ _ => True)

theorem updateOrRetry_behaves {scope : AccessScope} {key : String}
    {current : OrderOperation} {result : OperationServiceResult}
    {again : Call OperationServiceResult} {ids : List UUID} {db : Database}
    (hknown : Known current db) (hdecided : Decided current result ids)
    (hstatus : ServiceStatus current result.operation)
    (hids : forall x, x ∈ ids -> db.ids.Issued x) (hagain : Harmless D again) :
    Behaves D (updateOrRetry scope key current result again) db (fun _ _ => True) := by
  refine Behaves.rescue ?_ ?_
  · refine Behaves.bind (Behaves.act ?_) (fun _ _ _ _ => Behaves.pure fun _ _ => trivial)
    intro t hdt _ a u hu
    exact updateOperationWithEvents_served (hknown.later hdt) hdecided.write hstatus
      (fun e he => (hids _ (hdecided.ids e he)).mono hdt.ids) hu
  · intro e q t hq _
    by_cases hconflict : updateConflict e = true
    · rw [if_pos hconflict] at hq
      cases hq
      refine Behaves.bind (findEventByIdempotencyKey_behaves scope key t) ?_
      intro prior u _ _
      cases prior with
      | none => exact hagain u
      | some event => exact unchangedResult_behaves scope event.operationId u
    · rw [if_neg hconflict] at hq
      cases hq

theorem replayed_behaves {scope : AccessScope} {key : String}
    {run : Call OperationServiceResult} (hrun : Harmless D run) :
    Harmless D (do
      let prior ← Program.perform (findEventByIdempotencyKey scope key)
      match prior with
      | some event => unchangedResult scope event.operationId
      | none => run) := by
  intro db
  refine Behaves.bind (findEventByIdempotencyKey_behaves scope key db) ?_
  intro prior t _ _
  cases prior with
  | none => exact hrun t
  | some event => exact unchangedResult_behaves scope event.operationId t

theorem pendingAttempts_harmless (scope : AccessScope) (operationId : UUID)
    (a : PendingAction) {key : String} (hkey : KeyUnder (operationHead operationId) key)
    (clock : Nat -> Time) (n : Nat) :
    Harmless D (pendingAttempts scope operationId a key clock n) := by
  induction n with
  | zero => exact fun _ => Behaves.raise
  | succ n ih =>
      intro db
      refine Behaves.bind (getOperation_behaves scope operationId db) ?_
      rintro current t _ ⟨hknown, hid⟩
      rw [← hid] at hkey
      by_cases hpending : current.status = OperationRecordStatus.pendingConfirmation
      · rw [if_neg (not_not_intro hpending)]
        refine Behaves.bind (freshId_behaves t) ?_
        intro first t₁ htt₁ hfirst
        refine Behaves.bind (freshId_behaves t₁) ?_
        intro second t₂ ht₁t₂ hsecond
        refine Behaves.compute fun result hresult => ?_
        rcases pendingDecision_decided hpending hkey hresult with ⟨hdecided, hstatus⟩
        refine updateOrRetry_behaves (hknown.later (htt₁.trans ht₁t₂)) hdecided hstatus
          ?_ ih
        intro x hx
        simp only [List.mem_cons, List.not_mem_nil, or_false] at hx
        rcases hx with rfl | rfl
        · exact hfirst.mono ht₁t₂.ids
        · exact hsecond
      · rw [if_pos hpending]
        by_cases hdone : a.alreadyDone current = true
        · rw [if_pos hdone]
          exact Behaves.pure fun _ _ => trivial
        · rw [if_neg hdone]
          exact Behaves.raise

theorem changeFromPending_harmless (scope : AccessScope) (operationId : UUID)
    (requestId : String) (a : PendingAction) (clock : Nat -> Time) :
    Harmless D (changeFromPending scope operationId requestId a clock) := by
  intro db
  refine Behaves.compute fun request _ => ?_
  exact replayed_behaves (pendingAttempts_harmless scope operationId a
    (operationKey_under operationId (a.word ++ ":" ++ request)) clock
    maxWriteAttempts) db

theorem confirmOperation_harmless (scope : AccessScope) (operationId : UUID)
    (requestId : String) (clock : Nat -> Time) :
    Harmless D (confirmOperation scope operationId requestId clock) := by
  intro db
  refine Behaves.bind (getOperation_behaves scope operationId db) ?_
  intro operation t _ _
  exact Behaves.require fun _ =>
    changeFromPending_harmless scope operationId requestId PendingAction.confirmed
      clock t

theorem cancelPendingOperation_harmless (scope : AccessScope) (operationId : UUID)
    (requestId : String) (clock : Nat -> Time) :
    Harmless D (cancelPendingOperation scope operationId requestId clock) :=
  changeFromPending_harmless scope operationId requestId PendingAction.cancelled clock

theorem submitAttempts_harmless (scope : AccessScope) (operationId : UUID)
    {key : String} (hkey : KeyUnder (operationHead operationId) key)
    (provider : Nat -> Except Failure SubmittedOperation) (clock : Nat -> Time)
    (n : Nat) :
    Harmless D (submitAttempts scope operationId key provider clock n) := by
  induction n with
  | zero => exact fun _ => Behaves.raise
  | succ n ih =>
      intro db
      refine Behaves.bind (getOperation_behaves scope operationId db) ?_
      rintro current t _ ⟨hknown, hid⟩
      rw [← hid] at hkey
      refine Behaves.require fun _ => ?_
      by_cases hsubmitted : current.status = OperationRecordStatus.submitted ∧
          current.providerReference ≠ none
      · rw [if_pos hsubmitted]
        exact Behaves.pure fun _ _ => trivial
      · rw [if_neg hsubmitted]
        refine Behaves.require fun hpending => ?_
        refine Behaves.compute fun submitted _ => ?_
        refine Behaves.bind (freshId_behaves t) ?_
        intro first t₁ htt₁ hfirst
        refine Behaves.bind (freshId_behaves t₁) ?_
        intro second t₂ ht₁t₂ hsecond
        refine Behaves.compute fun result hresult => ?_
        rcases submission_decided hpending hkey hresult with ⟨hdecided, hstatus⟩
        refine updateOrRetry_behaves (hknown.later (htt₁.trans ht₁t₂)) hdecided hstatus
          ?_ ih
        intro x hx
        simp only [List.mem_cons, List.not_mem_nil, or_false] at hx
        rcases hx with rfl | rfl
        · exact hfirst.mono ht₁t₂.ids
        · exact hsecond

theorem submitConfirmedOperation_harmless (scope : AccessScope) (operationId : UUID)
    (requestId : String) (provider : Nat -> Except Failure SubmittedOperation)
    (clock : Nat -> Time) :
    Harmless D (submitConfirmedOperation scope operationId requestId provider clock) := by
  intro db
  refine Behaves.compute fun request _ => ?_
  exact replayed_behaves (submitAttempts_harmless scope operationId
    (operationKey_under operationId ("submitted:" ++ request)) provider clock
    maxWriteAttempts) db

theorem attachAttempts_harmless (scope : AccessScope)
    (operationId supportCaseId : UUID) {key : String}
    (hkey : KeyUnder (operationHead operationId) key) (clock : Nat -> Time) (n : Nat) :
    Harmless D (attachAttempts scope operationId supportCaseId key clock n) := by
  induction n with
  | zero => exact fun _ => Behaves.raise
  | succ n ih =>
      intro db
      refine Behaves.bind (getOperation_behaves scope operationId db) ?_
      rintro current t _ ⟨hknown, hid⟩
      rw [← hid] at hkey
      refine Behaves.require fun hreview => ?_
      cases hattached : current.supportCaseId with
      | some attached =>
          by_cases hsame : attached = supportCaseId
          · simp only [if_pos hsame]
            exact Behaves.pure fun _ _ => trivial
          · simp only [if_neg hsame]
            exact Behaves.raise
      | none =>
          refine Behaves.bind (freshId_behaves t) ?_
          intro eventId t₁ htt₁ hevent
          rcases attachment_decided supportCaseId eventId (clock n) hreview.right
            hattached hkey with ⟨hdecided, hstatus⟩
          refine updateOrRetry_behaves (hknown.later htt₁) hdecided hstatus ?_ ih
          intro x hx
          rw [List.mem_singleton.mp hx]
          exact hevent

theorem attachSupportCase_harmless (scope : AccessScope)
    (operationId supportCaseId : UUID) (requestId : String) (clock : Nat -> Time) :
    Harmless D (attachSupportCase scope operationId supportCaseId requestId clock) := by
  intro db
  refine Behaves.compute fun request _ => ?_
  exact replayed_behaves (attachAttempts_harmless scope operationId supportCaseId
    (operationKey_under operationId ("support-case:" ++ request)) clock
    maxWriteAttempts) db

theorem queueConfirmedOperation_harmless (scope : AccessScope) (operationId : UUID)
    (requestId connectionId : String) (clock : Nat -> Time) :
    Harmless D (queueConfirmedOperation scope operationId requestId connectionId
      clock) := by
  intro db
  refine Behaves.compute fun request _ => ?_
  cases CleanText.parse? (Text.strip connectionId) with
  | none => exact Behaves.raise
  | some connection =>
      refine Behaves.bind (getOperation_behaves scope operationId db) ?_
      rintro current t₀ _ ⟨hknown, _⟩
      refine Behaves.require fun hautomatic => ?_
      by_cases hqueued : current.status = OperationRecordStatus.queued
      · rw [if_pos hqueued]
        exact Behaves.pure fun _ _ => trivial
      · rw [if_neg hqueued]
        refine Behaves.require fun hpending => ?_
        refine Behaves.bind (freshId_behaves t₀) ?_
        intro first t₁ ht₀t₁ hfirst
        refine Behaves.bind (freshId_behaves t₁) ?_
        intro second t₂ ht₁t₂ hsecond
        refine Behaves.compute fun result hresult => ?_
        have hdecided := queueing_decided hpending hresult
        refine Behaves.bind (freshId_behaves t₂) ?_
        intro commandId t₃ ht₂t₃ hcommand
        refine Behaves.require fun _ => ?_
        refine Behaves.bind (Behaves.act ?_)
          (fun _ _ _ _ => Behaves.pure fun _ _ => trivial)
        intro u ht₃u _ a v hv
        have hlate := ht₂t₃.trans ht₃u
        refine queueOperationWithEventsAndCommand_served
          (hknown.later ((ht₀t₁.trans ht₁t₂).trans hlate))
          ⟨hdecided.write, hpending, hautomatic, hdecided.frozen⟩ ?_ ?_ hv
        · intro e he
          have hmem := hdecided.ids e he
          simp only [List.mem_cons, List.not_mem_nil, or_false] at hmem
          rcases hmem with hid | hid
          · rw [hid]
            exact hfirst.mono (ht₁t₂.trans hlate).ids
          · rw [hid]
            exact hsecond.mono hlate.ids
        · exact hcommand.mono ht₃u.ids

/-!
## Creation and fallback
-/

theorem OrderOperation.checks_of_valid {o : OrderOperation} (h : o.valid = true) :
    o.checks = true := by
  simp only [valid, Bool.and_eq_true] at h
  simp only [checks, Bool.and_eq_true]
  exact ⟨⟨h.left.left.left.left.left.left.right, h.left.left.left.left.left.right⟩,
    h.left.left.left.left.right⟩

theorem pendingOperation_created {scope : AccessScope} {customerId : CleanText}
    {request : OrderOperationRequest} {snapshot : OrderSnapshot}
    {decision : OperationDecision} {excerpt : CleanText} {operationId eventId : UUID}
    {now : Time}
    (hvalid : (pendingOperation scope customerId request snapshot decision excerpt
      operationId now).valid = true) :
    OperationCreated
      (pendingOperation scope customerId request snapshot decision excerpt operationId
        now)
      (operationCreatedEvent (pendingOperation scope customerId request snapshot
        decision excerpt operationId now) eventId) := by
  refine ⟨hvalid, rfl, rfl, rfl, OrderOperation.checks_of_valid hvalid, rfl, rfl, ?_,
    ⟨"operation:" ++ request.threadId.text ++ ":" ++ request.sourceMessageId.text, rfl⟩, rfl⟩
  refine ⟨request.threadId.text ++ ":" ++ request.sourceMessageId.text ++ ":created", ?_⟩
  have hhead : "operation:" = Writer.service.head ++ ":" := rfl
  show "operation:" ++ request.threadId.text ++ ":" ++ request.sourceMessageId.text ++
    ":created" = _
  rw [hhead]
  simp only [String.append_assoc]

theorem findExistingOperation_harmless (scope : AccessScope)
    (request : OrderOperationRequest) :
    Harmless D (findExistingOperation scope request) := by
  have hread : forall {query : CleanText -> Database -> Option OrderOperation}
      (db : Database), Behaves D (Program.perform (do
        let customerId ← customerOwnedVisibility scope
        fetchOperation (query customerId))) db (fun _ _ => True) := by
    intro query db
    refine Behaves.read (fun _ _ _ _ _ => trivial) ?_
    intro t found u hu
    simp only [customerOwnedVisibility, Transaction.bind_eq_ok,
      Transaction.fetch_eq_ok] at hu
    rcases hu with ⟨_, _, ⟨_, rfl⟩, hfetch⟩
    exact ⟨fetchOperation_spec hfetch, trivial⟩
  intro db
  refine Behaves.bind (P := fun _ _ => True) (hread db) ?_
  intro duplicate t _ _
  cases duplicate with
  | some operation => exact Behaves.pure fun _ _ => trivial
  | none => exact hread t

theorem writePendingOperation_harmless (scope : AccessScope) (customerId : CleanText)
    (request : OrderOperationRequest) (snapshot : OrderSnapshot)
    (decision : OperationDecision) (excerpt : CleanText) (now : Time) :
    Harmless D (writePendingOperation scope customerId request snapshot decision excerpt
      now) := by
  intro db
  refine Behaves.bind (freshId_behaves db) ?_
  intro operationId t _ hoperation
  refine Behaves.require fun hvalid => ?_
  refine Behaves.bind (freshId_behaves t) ?_
  intro eventId t₁ htt₁ hid
  refine Behaves.bind (Behaves.act ?_) (fun _ _ _ _ => Behaves.pure fun _ _ => trivial)
  intro u ht₁u _ a v hv
  exact createOperationWithEvents_served (pendingOperation_created hvalid)
    (hid.mono ht₁u.ids) (hoperation.mono (htt₁.trans ht₁u).ids) hv

theorem createAttempts_harmless (scope : AccessScope) (customerId : CleanText)
    (request : OrderOperationRequest) (snapshot : OrderSnapshot)
    (decision : OperationDecision) (excerpt : CleanText) (clock : Nat -> Time)
    (n : Nat) :
    Harmless D (createAttempts scope customerId request snapshot decision excerpt clock
      n) := by
  induction n with
  | zero =>
      intro db
      refine Behaves.bind (findExistingOperation_harmless scope request db) ?_
      intro existing t _ _
      cases existing with
      | some operation => exact Behaves.pure fun _ _ => trivial
      | none => exact Behaves.raise
  | succ n ih =>
      intro db
      refine Behaves.bind (findExistingOperation_harmless scope request db) ?_
      intro existing t _ _
      cases existing with
      | some operation => exact Behaves.pure fun _ _ => trivial
      | none =>
          refine Behaves.rescue (writePendingOperation_harmless scope customerId request
            snapshot decision excerpt (clock n) t) ?_
          intro e q u hq _
          by_cases hconflict : creationConflict e = true
          · rw [if_pos hconflict] at hq
            cases hq
            exact ih u
          · rw [if_neg hconflict] at hq
            cases hq

theorem createPendingOperation_harmless (scope : AccessScope)
    (request : OrderOperationRequest) (snapshot : OrderSnapshot)
    (decision : OperationDecision) (requestExcerpt : String) (clock : Nat -> Time) :
    Harmless D (createPendingOperation scope request snapshot decision requestExcerpt
      clock) := by
  intro db
  unfold createPendingOperation
  cases scope.customerId with
  | none => exact Behaves.raise
  | some customerId =>
      refine Behaves.require fun _ => Behaves.require fun _ => Behaves.require fun _ =>
        Behaves.require fun _ => Behaves.require fun _ => ?_
      cases CleanText.parse? (Text.strip requestExcerpt) with
      | none => exact Behaves.raise
      | some excerpt =>
          exact createAttempts_harmless scope customerId request snapshot decision
            excerpt clock maxWriteAttempts db

theorem moveAttempts_harmless (scope : AccessScope) (operationId : UUID)
    (requestId : String) (clock : Nat -> Time) (n : Nat) :
    Harmless D (moveAttempts scope operationId requestId clock n) := by
  induction n with
  | zero => exact fun _ => Behaves.raise
  | succ n ih =>
      intro db
      refine Behaves.rescue (Behaves.act fun t _ ht a u hu => moveOnce_served ht hu) ?_
      intro e q t hq _
      have hcases : q = moveAttempts scope operationId requestId clock n ∨
          exists f, q = Program.raise f := by
        unfold moveFailure at hq
        split at hq
        · split at hq
          · exact Or.inl (Option.some.inj hq).symm
          · exact Or.inr ⟨_, (Option.some.inj hq).symm⟩
        · exact Or.inr ⟨_, (Option.some.inj hq).symm⟩
        · split at hq
          · exact Or.inr ⟨_, (Option.some.inj hq).symm⟩
          · cases hq
      rcases hcases with rfl | ⟨f, rfl⟩
      · exact ih t
      · exact Behaves.raise

theorem moveToProviderManualReview_harmless (scope : AccessScope)
    (operationId : UUID) (requestId : String) (clock : Nat -> Time) :
    Harmless D (moveToProviderManualReview scope operationId requestId clock) := by
  intro db
  refine Behaves.compute fun request _ => ?_
  exact moveAttempts_harmless scope operationId request clock 3 db

end RefundAgent
