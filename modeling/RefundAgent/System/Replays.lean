import RefundAgent.System.ActiveOrders

/-!
# Replays of operation requests

The five requests that a customer makes about an existing operation.  Four of them look
for an event under their own key before anything else, and all of them answer from some
status without a write; what a repeated request meets is decided by the two.
-/

namespace RefundAgent

open Foundation

inductive CustomerRequest where
  | confirm
  | cancel
  | submit
  | queue (connectionId : String)
  | attach (supportCaseId : UUID)
deriving DecidableEq, Repr

/-- The event that a customer's earlier request has left under a key. -/
def ownEvent (scope : AccessScope) (key : String) (db : Database) :
    Option OrderOperationEvent :=
  db.operations.events.rows.find? fun e =>
    decide (e.idempotencyKey = key) && decide (e.tenantId = scope.tenantId) &&
      decide (some e.customerId = scope.customerId)

namespace CustomerRequest

/-- The method that serves the request. -/
def call (q : CustomerRequest) (scope : AccessScope) (operationId : UUID)
    (requestId : String) (provider : Nat -> Except Failure SubmittedOperation)
    (clock : Nat -> Time) : Call OperationServiceResult :=
  match q with
  | confirm => confirmOperation scope operationId requestId clock
  | cancel => cancelPendingOperation scope operationId requestId clock
  | submit => submitConfirmedOperation scope operationId requestId provider clock
  | queue connectionId =>
      queueConfirmedOperation scope operationId requestId connectionId clock
  | attach supportCaseId =>
      attachSupportCase scope operationId supportCaseId requestId clock

/-- What stands before the request id in the key that the method looks for. -/
def keyWord : CustomerRequest -> Option String
  | confirm => some "confirmed:"
  | cancel => some "cancelled:"
  | submit => some "submitted:"
  | queue _ => none
  | attach _ => some "support-case:"

/-- The event that the method finds under its own key. -/
def recorded (q : CustomerRequest) (scope : AccessScope) (operationId : UUID)
    (requestId : String) (db : Database) : Option OrderOperationEvent :=
  q.keyWord.bind fun word =>
    ownEvent scope (operationKey operationId (word ++ Text.strip requestId)) db

/-- The states of an operation in which the method answers without a write. -/
def answers (q : CustomerRequest) (o : OrderOperation) : Prop :=
  match q with
  | confirm => o.active = true ∧ o.status ≠ OperationRecordStatus.pendingConfirmation
  | cancel => o.status = OperationRecordStatus.cancelledByCustomer
  | submit => o.requiresManualReview = false ∧
      o.status = OperationRecordStatus.submitted ∧ o.providerReference ≠ none
  | queue _ => o.requiresManualReview = false ∧ o.status = OperationRecordStatus.queued
  | attach supportCaseId => o.requiresManualReview = true ∧
      o.status = OperationRecordStatus.manualReview ∧ o.supportCaseId = some supportCaseId

/-- Either the request is on record for the operation, or the method answers from the
status; and `confirm_operation` first asks that the operation needs a review. -/
def Replayable (q : CustomerRequest) (scope : AccessScope) (operationId : UUID)
    (requestId : String) (db : Database) : Prop :=
  exists row, db.operations.rows.get operationId = some row ∧
    (q = confirm -> row.requiresManualReview = true) ∧
    match q.recorded scope operationId requestId db with
    | some e => e.operationId = operationId
    | none => q.answers row

end CustomerRequest

/-- The call answers `unchanged` with the operation as it is, and writes nothing. -/
def AnswersUnchanged (operationId : UUID) (p : Call OperationServiceResult)
    (db : Database) : Prop :=
  exists o row,
    p.run db = (Except.ok
      { action := OperationServiceAction.statusUnchanged
        operation := o
        events := [] }, db) ∧
    db.operations.rows.get operationId = some row ∧ row.ofRow? = some o

/-!
## Undisturbed calls
-/

/-- The operation is there and belongs to the customer. -/
def Visible (scope : AccessScope) (operationId : UUID) (db : Database) : Prop :=
  exists row customerId, scope.customerId = some customerId ∧
    db.operations.rows.get operationId = some row ∧
    row.ownedBy scope.tenantId customerId = true

theorem Visible.later {scope : AccessScope} {operationId : UUID} {db db' : Database}
    (h : Visible scope operationId db) (hlater : Later db db') :
    Visible scope operationId db' := by
  rcases h with ⟨row, customerId, hcustomer, hget, howned⟩
  rcases hlater.operations _ row hget with ⟨row', hget', hfrozen, _⟩
  refine ⟨row', customerId, hcustomer, hget', ?_⟩
  unfold OrderOperation.ownedBy at howned ⊢
  have htenant : row'.tenantId = row.tenantId := by
    show row'.frozen.tenantId = row.frozen.tenantId
    rw [hfrozen]
  have howner : row'.customerId = row.customerId := by
    show row'.frozen.customerId = row.frozen.customerId
    rw [hfrozen]
  rw [htenant, howner]
  exact howned

theorem Sound.readable {db : Database} (h : Sound db) {row : OrderOperation}
    (hrow : row ∈ db.operations.rows.rows) : exists o, row.ofRow? = some o := by
  have hvalid := h.operations.valid row hrow
  have hlegible := h.operations.legible row hrow
  refine ⟨{ row with providerReference := row.providerReference.map Text.trim }, ?_⟩
  unfold OrderOperation.ofRow?
  exact if_pos ⟨hvalid, hlegible⟩

section Reads

variable {scope : AccessScope} {operationId : UUID} {db : Database}

theorem getOperation_run_ok {o : OrderOperation} {t : Database}
    (h : (getOperation scope operationId).run db = (Except.ok o, t)) :
    t = db ∧ Visible scope operationId db ∧
      exists row, db.operations.rows.get operationId = some row ∧
        row.ofRow? = some o := by
  rcases Program.run_perform_bind h with ⟨found, s, hfind, hrest⟩
  simp only [findOperation, Transaction.bind_eq_ok, customerOwnedVisibility,
    Transaction.fetch_eq_ok] at hfind
  rcases hfind with ⟨customerId, _, ⟨hcustomer, rfl⟩, hfetch⟩
  rcases fetchOperation_eq_ok hfetch with ⟨rfl, hfound, _⟩
  cases found with
  | none => cases hrest
  | some o' =>
      cases hrest
      rcases hfound o rfl with ⟨row, hrow, hparsed⟩
      rw [Option.filter_eq_some_iff] at hrow
      exact ⟨rfl, ⟨row, customerId, hcustomer, hrow.left, hrow.right⟩, row, hrow.left,
        hparsed⟩

theorem getOperation_run (hdb : Sound db) (h : Visible scope operationId db) :
    exists o row, db.operations.rows.get operationId = some row ∧ row.ofRow? = some o ∧
      (getOperation scope operationId).run db = (Except.ok o, db) := by
  rcases h with ⟨row, customerId, hcustomer, hget, howned⟩
  rcases hdb.readable (Table.mem_of_get hget) with ⟨o, ho⟩
  refine ⟨o, row, hget, ho, ?_⟩
  have hfilter : (db.operations.rows.get operationId).filter
      (OrderOperation.ownedBy scope.tenantId customerId) = some row := by
    rw [hget, Option.filter_some, if_pos howned]
  have hfind : findOperation scope operationId db = Except.ok (some o, db) := by
    simp only [findOperation, Transaction.bind_eq_ok, customerOwnedVisibility,
      Transaction.fetch_eq_ok, fetchOperation, Transaction.read_eq_ok]
    refine ⟨customerId, db, ⟨hcustomer, rfl⟩, some row, db, by rw [hfilter], ?_⟩
    simp only [Transaction.bind_eq_ok, operationFromRow_eq_ok]
    exact ⟨o, db, ⟨ho, rfl⟩, rfl⟩
  have hperform : (Program.perform (findOperation scope operationId) :
      Call (Option OrderOperation)).run db = (Except.ok (some o), db) :=
    Transaction.commit_ok hfind
  exact Program.run_bind_ok hperform

theorem findEvent_run {α : Type} {key : String} {customerId : CleanText}
    (hcustomer : scope.customerId = some customerId)
    (f : Option OrderOperationEvent -> Call α) :
    (Program.perform (findEventByIdempotencyKey scope key) >>= f).run db =
      (f (ownEvent scope key db)).run db := by
  have hfind : findEventByIdempotencyKey scope key db =
      Except.ok (ownEvent scope key db, db) := by
    simp only [findEventByIdempotencyKey, Transaction.bind_eq_ok, customerOwnedVisibility,
      Transaction.fetch_eq_ok, Transaction.read_eq_ok]
    refine ⟨customerId, db, ⟨hcustomer, rfl⟩, ?_⟩
    unfold ownEvent
    rw [hcustomer]
    simp only [Option.some.injEq]
  have hcommit : (Program.perform (findEventByIdempotencyKey scope key) :
      Call (Option OrderOperationEvent)).run db = (Except.ok (ownEvent scope key db), db) := by
    rw [Program.run_perform]
    exact Transaction.commit_ok hfind
  exact Program.run_bind_ok hcommit

end Reads

/-!
## Answers without a write
-/

/-- A call of the service that returns when nobody disturbs it. -/
structure Completes {α : Type} (p : Call α) (db : Database) (a : α) (u : Database) :
    Prop where
  behaves : Behaves AnyDecision p db (fun _ _ => True)
  run : p.run db = (Except.ok a, u)

namespace Completes

variable {α β : Type} {db u : Database} {a : α}

theorem bind {p : Call β} {f : β -> Call α} (h : Completes (p >>= f) db a u)
    (hdb : Sound db) : exists b t, p.run db = (Except.ok b, t) ∧ Sound t ∧
      Completes (f b) t a u := by
  rcases Program.run_bind_eq_ok.mp h.run with ⟨b, t, hfirst, hrest⟩
  have hleft := Program.Safe.of_bind_run Later.refl
    (fun hs hserved => by
      rcases hserved with ⟨l, _, hmove⟩
      exact hmove.sound hs) h.behaves.safe hdb hfirst
  exact ⟨b, t, hfirst, hleft.right, ⟨hleft.left⟩, hrest⟩

theorem later {p : Call α} (h : Completes p db a u) (hdb : Sound db) : Later db u := by
  have hended := Program.Safe.run Later.refl
    (fun hs hserved => by
      rcases hserved with ⟨l, _, hmove⟩
      exact hmove.sound hs) h.behaves.since hdb
  rw [h.run] at hended
  exact hended.right.left

theorem draw {f : UUID -> Call α} (h : Completes (freshId >>= f) db a u)
    (hdb : Sound db) : u ≠ db := by
  rcases h.bind hdb with ⟨id, t, hfirst, ht, hrest⟩
  have hlater := (hrest.later ht).ids.right
  have hids : t.ids.next = db.ids.next + 1 := by
    have hnew : newId.commit db = (Except.ok id, t) := hfirst
    rw [Transaction.commit_ok (newId_eq_ok.mpr ⟨rfl, rfl⟩)] at hnew
    cases hnew
    rfl
  rintro rfl
  omega

end Completes

section Answers

variable {scope : AccessScope} {operationId : UUID} {db : Database}

theorem AnswersUnchanged.congr {p q : Call OperationServiceResult}
    (h : p.run db = q.run db) :
    AnswersUnchanged operationId p db ↔ AnswersUnchanged operationId q db := by
  unfold AnswersUnchanged
  rw [h]

theorem unchangedResult_answers (hdb : Sound db) {id : UUID}
    (hvisible : id = operationId -> Visible scope operationId db) :
    AnswersUnchanged operationId (unchangedResult scope id) db ↔ id = operationId := by
  constructor
  · rintro ⟨o, row, hrun, hget, hparsed⟩
    rcases Program.run_bind_eq_ok.mp hrun with ⟨o', t, hfind, hdone⟩
    rcases getOperation_run_ok hfind with ⟨rfl, _, row', hget', hparsed'⟩
    cases hdone
    have hsame : row.operationId = row'.operationId := by
      have ho := congrArg OrderOperation.operationId
        (OrderOperation.ofRow?_eq_some hparsed).left
      have ho' := congrArg OrderOperation.operationId
        (OrderOperation.ofRow?_eq_some hparsed').left
      exact ho.symm.trans ho'
    rw [show row.operationId = operationId from Table.get_key hget,
      show row'.operationId = id from Table.get_key hget'] at hsame
    exact hsame.symm
  · rintro rfl
    rcases getOperation_run hdb (hvisible rfl) with ⟨o, row, hget, hparsed, hrun⟩
    exact ⟨_, row, Program.run_bind_ok hrun, hget, hparsed⟩

theorem getOperation_answers (hdb : Sound db) (hvisible : Visible scope operationId db)
    (f : OrderOperation -> Call OperationServiceResult) :
    exists o row, db.operations.rows.get operationId = some row ∧
      row.ofRow? = some o ∧
      o = { row with providerReference := row.providerReference.map Text.trim } ∧
      (AnswersUnchanged operationId (getOperation scope operationId >>= f) db ↔
        AnswersUnchanged operationId (f o) db) := by
  rcases getOperation_run hdb hvisible with ⟨o, row, hget, hparsed, hrun⟩
  exact ⟨o, row, hget, hparsed, (OrderOperation.ofRow?_eq_some hparsed).left,
    AnswersUnchanged.congr (Program.run_bind_ok hrun)⟩

theorem Behaves.looked {f : OrderOperation -> Call OperationServiceResult}
    {o : OrderOperation} {row : OrderOperation} (hdb : Sound db)
    (hvisible : Visible scope operationId db)
    (hget : db.operations.rows.get operationId = some row) (ho : row.ofRow? = some o)
    (h : Behaves AnyDecision (getOperation scope operationId >>= f) db fun _ _ => True) :
    Behaves AnyDecision (f o) db fun _ _ => True := by
  rcases getOperation_run hdb hvisible with ⟨o', row', hget', hparsed, hrun⟩
  rw [hget] at hget'
  cases hget'
  rw [ho] at hparsed
  cases hparsed
  have hleft := Program.Safe.of_bind_run Later.refl
    (fun hs hserved => by
      rcases hserved with ⟨l, _, hmove⟩
      exact hmove.sound hs) h.safe hdb hrun
  exact ⟨hleft.left⟩

theorem exists_row {P : OrderOperation -> Prop} {row : OrderOperation}
    (hget : db.operations.rows.get operationId = some row) :
    (exists row', db.operations.rows.get operationId = some row' ∧ P row') ↔ P row := by
  rw [hget]
  constructor
  · rintro ⟨row', hrow, h⟩
    cases hrow
    exact h
  · exact fun h => ⟨row, rfl, h⟩

theorem answersUnchanged_pure {row o : OrderOperation}
    (hget : db.operations.rows.get operationId = some row) (ho : row.ofRow? = some o) :
    AnswersUnchanged operationId
      (pure
        { action := OperationServiceAction.statusUnchanged
          operation := o
          events := [] }) db :=
  ⟨_, row, rfl, hget, ho⟩

theorem not_answersUnchanged_raise (e : Failure) :
    ¬AnswersUnchanged operationId (Program.raise e) db := by
  rintro ⟨_, _, hrun, _⟩
  cases hrun

theorem not_answersUnchanged_freshId (hdb : Sound db)
    {f : UUID -> Call OperationServiceResult}
    (hbehaves : Behaves AnyDecision (freshId >>= f) db fun _ _ => True) :
    ¬AnswersUnchanged operationId (freshId >>= f) db := by
  rintro ⟨_, _, hrun, _⟩
  exact Completes.draw ⟨hbehaves, hrun⟩ hdb rfl

theorem answersUnchanged_require {c : Prop} [Decidable c] {e : Failure}
    {f : Unit -> Call OperationServiceResult} :
    AnswersUnchanged operationId (Program.require c e >>= f) db ↔
      c ∧ AnswersUnchanged operationId (f ()) db := by
  unfold AnswersUnchanged
  constructor
  · rintro ⟨o, row, hrun, hrest⟩
    rcases Program.run_require_bind hrun with ⟨hc, hrun⟩
    exact ⟨hc, o, row, hrun, hrest⟩
  · rintro ⟨hc, o, row, hrun, hrest⟩
    refine ⟨o, row, ?_, hrest⟩
    unfold Program.require
    rw [if_pos hc]
    exact hrun

theorem pendingAttempts_answers (hdb : Sound db) (hvisible : Visible scope operationId db)
    (a : PendingAction) {key : String} (hkey : KeyUnder (operationHead operationId) key)
    (clock : Nat -> Time) (n : Nat) :
    AnswersUnchanged operationId (pendingAttempts scope operationId a key clock (n + 1)) db
      ↔ exists row, db.operations.rows.get operationId = some row ∧
        row.status ≠ OperationRecordStatus.pendingConfirmation ∧
        a.alreadyDone row = true := by
  have hbehaves : Behaves AnyDecision
      (pendingAttempts scope operationId a key clock (n + 1)) db fun _ _ => True :=
    pendingAttempts_harmless scope operationId a hkey clock (n + 1) db
  unfold pendingAttempts at hbehaves ⊢
  rcases getOperation_answers hdb hvisible _ with ⟨o, row, hget, hparsed, ho, hiff⟩
  rw [hiff]
  have hbehaves := hbehaves.looked hdb hvisible hget hparsed
  have hstatus : o.status = row.status := by rw [ho]
  have hdone : a.alreadyDone o = a.alreadyDone row := by
    rw [ho]
    cases a with
    | confirmed => rfl
    | cancelled => rfl
  rw [hstatus, hdone] at hbehaves ⊢
  rw [exists_row hget]
  by_cases hpending : row.status = OperationRecordStatus.pendingConfirmation
  · rw [if_neg (not_not_intro hpending)] at hbehaves ⊢
    exact iff_of_false (not_answersUnchanged_freshId hdb hbehaves)
      fun h => h.left hpending
  · rw [if_pos hpending]
    by_cases halready : a.alreadyDone row = true
    · rw [if_pos halready]
      exact iff_of_true (answersUnchanged_pure hget hparsed) ⟨hpending, halready⟩
    · rw [if_neg halready]
      exact iff_of_false (not_answersUnchanged_raise _) fun h => halready h.right

theorem Behaves.of_require {c : Prop} [Decidable c] {e : Failure}
    {f : Unit -> Call OperationServiceResult} (hc : c)
    (h : Behaves AnyDecision (Program.require c e >>= f) db fun _ _ => True) :
    Behaves AnyDecision (f ()) db fun _ _ => True := by
  unfold Program.require at h
  rw [if_pos hc] at h
  exact h

theorem submitAttempts_answers (hdb : Sound db) (hvisible : Visible scope operationId db)
    {key : String} (hkey : KeyUnder (operationHead operationId) key)
    (provider : Nat -> Except Failure SubmittedOperation) (clock : Nat -> Time) (n : Nat) :
    AnswersUnchanged operationId
        (submitAttempts scope operationId key provider clock (n + 1)) db ↔
      exists row, db.operations.rows.get operationId = some row ∧
        CustomerRequest.submit.answers row := by
  have hbehaves : Behaves AnyDecision
      (submitAttempts scope operationId key provider clock (n + 1)) db fun _ _ => True :=
    submitAttempts_harmless scope operationId hkey provider clock (n + 1) db
  unfold submitAttempts at hbehaves ⊢
  rcases getOperation_answers hdb hvisible _ with ⟨o, row, hget, hparsed, ho, hiff⟩
  rw [hiff, answersUnchanged_require]
  have hbehaves := hbehaves.looked hdb hvisible hget hparsed
  have hanswers : o.requiresManualReview = false ∧
      (o.status = OperationRecordStatus.submitted ∧ o.providerReference ≠ none) ↔
        CustomerRequest.submit.answers row := by
    rw [ho]
    show _ ↔ row.requiresManualReview = false ∧
      row.status = OperationRecordStatus.submitted ∧ row.providerReference ≠ none
    simp only [ne_eq, Option.map_eq_none_iff]
  rw [exists_row hget, ← hanswers]
  refine and_congr_right fun hautomatic => ?_
  have hbehaves := hbehaves.of_require hautomatic
  by_cases hsubmitted : o.status = OperationRecordStatus.submitted ∧
      o.providerReference ≠ none
  · rw [if_pos hsubmitted]
    exact iff_of_true (answersUnchanged_pure hget hparsed) hsubmitted
  · rw [if_neg hsubmitted] at hbehaves ⊢
    refine iff_of_false ?_ hsubmitted
    rw [answersUnchanged_require]
    rintro ⟨hpending, hanswer⟩
    have hbehaves := hbehaves.of_require hpending
    cases hprovider : provider n with
    | error e =>
        rw [hprovider] at hanswer
        exact not_answersUnchanged_raise e hanswer
    | ok submitted =>
        rw [hprovider] at hbehaves hanswer
        exact not_answersUnchanged_freshId hdb hbehaves hanswer

theorem attachAttempts_answers (hdb : Sound db) (hvisible : Visible scope operationId db)
    (supportCaseId : UUID) {key : String}
    (hkey : KeyUnder (operationHead operationId) key) (clock : Nat -> Time) (n : Nat) :
    AnswersUnchanged operationId
        (attachAttempts scope operationId supportCaseId key clock (n + 1)) db ↔
      exists row, db.operations.rows.get operationId = some row ∧
        (CustomerRequest.attach supportCaseId).answers row := by
  have hbehaves : Behaves AnyDecision
      (attachAttempts scope operationId supportCaseId key clock (n + 1)) db
        fun _ _ => True :=
    attachAttempts_harmless scope operationId supportCaseId hkey clock (n + 1) db
  unfold attachAttempts at hbehaves ⊢
  rcases getOperation_answers hdb hvisible _ with ⟨o, row, hget, hparsed, ho, hiff⟩
  rw [hiff, answersUnchanged_require, exists_row hget]
  have hbehaves := hbehaves.looked hdb hvisible hget hparsed
  have hanswers : (o.requiresManualReview = true ∧
      o.status = OperationRecordStatus.manualReview) ∧
        o.supportCaseId = some supportCaseId ↔
      (CustomerRequest.attach supportCaseId).answers row := by
    rw [ho]
    show _ ↔ row.requiresManualReview = true ∧
      row.status = OperationRecordStatus.manualReview ∧
        row.supportCaseId = some supportCaseId
    rw [and_assoc]
  rw [← hanswers]
  refine and_congr_right fun hreview => ?_
  have hbehaves := hbehaves.of_require hreview
  cases hattached : o.supportCaseId with
  | some attached =>
      by_cases hsame : attached = supportCaseId
      · simp only [if_pos hsame]
        refine iff_of_true (answersUnchanged_pure hget hparsed) ?_
        rw [hsame]
      · simp only [if_neg hsame]
        refine iff_of_false (not_answersUnchanged_raise _) ?_
        exact fun h => hsame (Option.some.inj h)
  | none =>
      simp only [hattached] at hbehaves
      refine iff_of_false (not_answersUnchanged_freshId hdb hbehaves) ?_
      exact fun h => (by cases h)

theorem queueConfirmedOperation_answers (hdb : Sound db)
    (hvisible : Visible scope operationId db) {requestId connectionId : String}
    (hrequest : Text.strip requestId ≠ "")
    (hconnection : CleanText.parse? (Text.strip connectionId) ≠ none)
    (clock : Nat -> Time) :
    AnswersUnchanged operationId
        (queueConfirmedOperation scope operationId requestId connectionId clock) db ↔
      exists row, db.operations.rows.get operationId = some row ∧
        (CustomerRequest.queue connectionId).answers row := by
  have hbehaves : Behaves AnyDecision
      (queueConfirmedOperation scope operationId requestId connectionId clock) db
        fun _ _ => True :=
    queueConfirmedOperation_harmless scope operationId requestId connectionId clock db
  unfold queueConfirmedOperation normalizeRequestId at hbehaves ⊢
  rw [if_neg hrequest] at hbehaves ⊢
  rcases Option.ne_none_iff_exists'.mp hconnection with ⟨connection, hparse⟩
  simp only [hparse] at hbehaves ⊢
  rcases getOperation_answers hdb hvisible _ with ⟨o, row, hget, hparsed, ho, hiff⟩
  refine hiff.trans ?_
  rw [answersUnchanged_require, exists_row hget]
  have hbehaves := Behaves.looked hdb hvisible hget hparsed hbehaves
  have hanswers : o.requiresManualReview = false ∧
      o.status = OperationRecordStatus.queued ↔
        (CustomerRequest.queue connectionId).answers row := by
    rw [ho]
    exact Iff.rfl
  rw [← hanswers]
  refine and_congr_right fun hautomatic => ?_
  have hbehaves := hbehaves.of_require hautomatic
  by_cases hqueued : o.status = OperationRecordStatus.queued
  · rw [if_pos hqueued]
    exact iff_of_true (answersUnchanged_pure hget hparsed) hqueued
  · rw [if_neg hqueued] at hbehaves ⊢
    refine iff_of_false ?_ hqueued
    rw [answersUnchanged_require]
    rintro ⟨hpending, hanswer⟩
    exact not_answersUnchanged_freshId hdb (hbehaves.of_require hpending) hanswer

/-!
## What a repeated request meets
-/

theorem replayed_answers (hdb : Sound db) {customerId : CleanText}
    (hcustomer : scope.customerId = some customerId) {key : String}
    (hvisible : forall e, ownEvent scope key db = some e -> e.operationId = operationId ->
      Visible scope operationId db) (rest : Call OperationServiceResult) :
    AnswersUnchanged operationId (do
        let prior ← Program.perform (findEventByIdempotencyKey scope key)
        match prior with
        | some event => unchangedResult scope event.operationId
        | none => rest) db ↔
      match ownEvent scope key db with
      | some e => e.operationId = operationId
      | none => AnswersUnchanged operationId rest db := by
  rw [AnswersUnchanged.congr (findEvent_run hcustomer _)]
  cases hfound : ownEvent scope key db with
  | none => exact Iff.rfl
  | some e => exact unchangedResult_answers hdb (hvisible e hfound)

namespace CustomerRequest

/-- What stands behind the look at the recorded event. -/
def attempts (q : CustomerRequest) (scope : AccessScope) (operationId : UUID)
    (key : String) (provider : Nat -> Except Failure SubmittedOperation)
    (clock : Nat -> Time) : Call OperationServiceResult :=
  match q with
  | confirm => pendingAttempts scope operationId PendingAction.confirmed key clock
      maxWriteAttempts
  | cancel => pendingAttempts scope operationId PendingAction.cancelled key clock
      maxWriteAttempts
  | submit => submitAttempts scope operationId key provider clock maxWriteAttempts
  | queue _ => unchangedResult scope operationId
  | attach supportCaseId =>
      attachAttempts scope operationId supportCaseId key clock maxWriteAttempts

/-- A method that looks for an event under its own key. -/
def keyedCall (q : CustomerRequest) (scope : AccessScope) (operationId : UUID)
    (key : String) (provider : Nat -> Except Failure SubmittedOperation)
    (clock : Nat -> Time) : Call OperationServiceResult := do
  let prior ← Program.perform (findEventByIdempotencyKey scope key)
  match prior with
  | some event => unchangedResult scope event.operationId
  | none => q.attempts scope operationId key provider clock

section Keyed

variable {q : CustomerRequest} {word requestId : String}
  {provider : Nat -> Except Failure SubmittedOperation} {clock : Nat -> Time}

theorem call_keyed (hword : q.keyWord = some word) (hrequest : Text.strip requestId ≠ "")
    (hq : q ≠ confirm) :
    q.call scope operationId requestId provider clock = q.keyedCall scope operationId
      (operationKey operationId (word ++ Text.strip requestId)) provider clock := by
  cases q with
  | confirm => exact absurd rfl hq
  | cancel =>
      cases hword
      show changeFromPending _ _ _ _ _ = _
      unfold changeFromPending normalizeRequestId
      rw [if_neg hrequest]
      rfl
  | submit =>
      cases hword
      show submitConfirmedOperation _ _ _ _ _ = _
      unfold submitConfirmedOperation normalizeRequestId
      rw [if_neg hrequest]
      rfl
  | queue _ => cases hword
  | attach supportCaseId =>
      cases hword
      show attachSupportCase _ _ _ _ _ = _
      unfold attachSupportCase normalizeRequestId
      rw [if_neg hrequest]
      rfl

theorem call_confirm (hrequest : Text.strip requestId ≠ "") :
    confirm.call scope operationId requestId provider clock = (do
      let operation ← getOperation scope operationId
      Program.require (operation.requiresManualReview = true)
        (Failure.valueError "automatic operations must use submit_confirmed_operation")
      confirm.keyedCall scope operationId
        (operationKey operationId ("confirmed:" ++ Text.strip requestId)) provider
          clock) := by
  show confirmOperation _ _ _ _ = _
  unfold confirmOperation changeFromPending normalizeRequestId
  rw [if_neg hrequest]
  rfl

theorem attempts_answers (hword : q.keyWord = some word) (hdb : Sound db)
    (hvisible : Visible scope operationId db) {key : String}
    (hkey : KeyUnder (operationHead operationId) key) :
    AnswersUnchanged operationId (q.attempts scope operationId key provider clock) db ↔
      exists row, db.operations.rows.get operationId = some row ∧ q.answers row := by
  cases q with
  | confirm =>
      refine (pendingAttempts_answers hdb hvisible PendingAction.confirmed hkey clock
        2).trans ?_
      exact exists_congr fun row => and_congr_right fun _ => and_comm
  | cancel =>
      refine (pendingAttempts_answers hdb hvisible PendingAction.cancelled hkey clock
        2).trans ?_
      refine exists_congr fun row => and_congr_right fun _ => ?_
      show row.status ≠ _ ∧ decide (row.status = _) = true ↔
        row.status = OperationRecordStatus.cancelledByCustomer
      rw [decide_eq_true_iff]
      refine and_iff_right_of_imp fun hstatus => ?_
      rw [hstatus]
      exact fun h => (by cases h)
  | submit => exact submitAttempts_answers hdb hvisible hkey provider clock 2
  | queue _ => cases hword
  | attach supportCaseId =>
      exact attachAttempts_answers hdb hvisible supportCaseId hkey clock 2

theorem keyedCall_answers (hword : q.keyWord = some word) (hdb : Sound db)
    (hvisible : Visible scope operationId db) :
    AnswersUnchanged operationId (q.keyedCall scope operationId
        (operationKey operationId (word ++ Text.strip requestId)) provider clock) db ↔
      exists row, db.operations.rows.get operationId = some row ∧
        match q.recorded scope operationId requestId db with
        | some e => e.operationId = operationId
        | none => q.answers row := by
  rcases id hvisible with ⟨row, customerId, hcustomer, hget, _⟩
  refine (replayed_answers hdb hcustomer (fun _ _ _ => hvisible) _).trans ?_
  rw [attempts_answers hword hdb hvisible (operationKey_under operationId _),
    exists_row hget, exists_row hget]
  unfold recorded
  rw [hword]
  exact Iff.rfl

theorem call_answers (hdb : Sound db) (hvisible : Visible scope operationId db)
    (hrequest : Text.strip requestId ≠ "")
    (hconnection : forall c, q = queue c -> CleanText.parse? (Text.strip c) ≠ none) :
    AnswersUnchanged operationId (q.call scope operationId requestId provider clock) db ↔
      q.Replayable scope operationId requestId db := by
  by_cases hconfirm : q = confirm
  · rw [hconfirm, call_confirm hrequest]
    rcases getOperation_answers hdb hvisible _ with ⟨o, row, hget, _, ho, hiff⟩
    rw [hiff, answersUnchanged_require, keyedCall_answers rfl hdb hvisible, ho]
    unfold Replayable
    rw [exists_row hget, exists_row hget]
    exact and_congr_left fun _ => ⟨fun h _ => h, fun h => h rfl⟩
  · rcases id hvisible with ⟨row, customerId, hcustomer, hget, _⟩
    unfold Replayable
    rw [exists_row hget]
    have hfree : (q = confirm -> row.requiresManualReview = true) := fun h => absurd h hconfirm
    rw [and_iff_right hfree]
    cases hword : q.keyWord with
    | some word =>
        rw [call_keyed hword hrequest hconfirm, keyedCall_answers hword hdb hvisible,
          exists_row hget]
    | none =>
        cases q with
        | queue c =>
            refine (queueConfirmedOperation_answers hdb hvisible hrequest
              (hconnection c rfl) clock).trans ?_
            rw [exists_row hget]
            exact Iff.rfl
        | confirm => cases hword
        | cancel => cases hword
        | submit => cases hword
        | attach _ => cases hword

theorem call_foreign (hdb : Sound db) (hrequest : Text.strip requestId ≠ "")
    {e : OrderOperationEvent}
    (hrecorded : q.recorded scope operationId requestId db = some e)
    (hforeign : e.operationId ≠ operationId) :
    ¬AnswersUnchanged operationId (q.call scope operationId requestId provider clock) db ∧
      ¬q.Replayable scope operationId requestId db := by
  constructor
  · intro hanswer
    unfold recorded at hrecorded
    rw [Option.bind_eq_some_iff] at hrecorded
    rcases hrecorded with ⟨word, hword, hown⟩
    have hcustomer : exists customerId, scope.customerId = some customerId := by
      have hfound := List.find?_some hown
      simp only [Bool.and_eq_true, decide_eq_true_eq] at hfound
      exact ⟨_, hfound.right.symm⟩
    rcases hcustomer with ⟨customerId, hcustomer⟩
    have hkeyed : AnswersUnchanged operationId (q.keyedCall scope operationId
        (operationKey operationId (word ++ Text.strip requestId)) provider clock) db := by
      by_cases hconfirm : q = confirm
      · subst hconfirm
        cases hword
        rw [call_confirm hrequest] at hanswer
        rcases hanswer with ⟨answer, row, hrun, hrest⟩
        rcases Program.run_bind_eq_ok.mp hrun with ⟨o, t, hfind, hrun⟩
        rcases getOperation_run_ok hfind with ⟨rfl, _⟩
        exact ⟨answer, row, (Program.run_require_bind hrun).right, hrest⟩
      · rw [call_keyed hword hrequest hconfirm] at hanswer
        exact hanswer
    have hother := (replayed_answers hdb hcustomer
      (fun e' he' hid => absurd hid (by
        rw [hown] at he'
        cases he'
        exact hforeign)) _).mp hkeyed
    rw [hown] at hother
    exact hforeign hother
  · rintro ⟨row, _, _, hmatch⟩
    rw [hrecorded] at hmatch
    exact hforeign hmatch

end Keyed

end CustomerRequest

end Answers

/-!
## What a request that has succeeded has done
-/

section Outcomes

variable {scope : AccessScope} {operationId : UUID} {own : List (Database × Database)}

theorem getOperation_returns {o : OrderOperation}
    (h : Program.Returns Fault (getOperation scope operationId) own (Except.ok o)) :
    o.operationId = operationId ∧ exists a, a ∈ own ∧
      Visible scope operationId a.2 ∧
      exists row, a.2.operations.rows.get operationId = some row ∧
        row.ofRow? = some o := by
  rcases h.ok_of_bind with ⟨found, first, rest, hfind, hrest, rfl⟩
  rcases hfind.ok_of_perform with ⟨s, t, rfl, htx⟩
  cases found with
  | none =>
      rcases Program.Returns.of_raise hrest with ⟨_, he⟩
      cases he
  | some o' =>
      rcases Program.Returns.of_pure hrest with ⟨_, he⟩
      cases he
      have hrun : (getOperation scope operationId).run s = (Except.ok o, t) :=
        Program.run_bind_ok (p := Program.perform (findOperation scope operationId))
          (Transaction.commit_ok htx)
      rcases getOperation_run_ok hrun with ⟨rfl, hvisible, row, hget, hparsed⟩
      have hid := congrArg OrderOperation.operationId
        (OrderOperation.ofRow?_eq_some hparsed).left
      have hrow : row.operationId = operationId := Table.get_key hget
      refine ⟨hid.trans hrow, (t, t), ?_, hvisible, row, hget, hparsed⟩
      exact List.mem_append_left _ List.mem_cons_self

theorem unchangedResult_returns {result : OperationServiceResult}
    (h : Program.Returns Fault (unchangedResult scope operationId) own
      (Except.ok result)) :
    result.action = OperationServiceAction.statusUnchanged ∧
      exists a, a ∈ own ∧ Visible scope operationId a.2 := by
  rcases h.ok_of_bind with ⟨o, first, rest, hfind, hrest, rfl⟩
  rcases Program.Returns.of_pure hrest with ⟨_, he⟩
  cases he
  rcases getOperation_returns hfind with ⟨_, a, ha, hvisible, _⟩
  exact ⟨rfl, a, List.mem_append_left _ ha, hvisible⟩

/-- A transaction after which the request is on record for its operation. -/
def RecordedIn (own : List (Database × Database)) (scope : AccessScope)
    (operationId : UUID) (key : String) : Prop :=
  exists a, a ∈ own ∧ exists e, ownEvent scope key a.2 = some e ∧
    e.operationId = operationId

theorem ownEvent_appended {key : String} {es : List OrderOperationEvent}
    {s t : Database} (happended : EventsAppended es s t)
    (howner : forall e, e ∈ es -> e.operationId = operationId)
    (htenant : forall e, e ∈ es -> e.tenantId = scope.tenantId)
    (hcustomer : forall e, e ∈ es -> some e.customerId = scope.customerId)
    {e : OrderOperationEvent} (he : e ∈ es) (hkey : e.idempotencyKey = key) :
    exists e', ownEvent scope key t = some e' ∧ e'.operationId = operationId := by
  have hnew : ownEvent scope key t ≠ none := by
    intro hnone
    have hfree := List.find?_eq_none.mp hnone e (by
      rw [happended.appended]
      exact List.mem_append_right _ he)
    simp only [Bool.and_eq_true, decide_eq_true_eq] at hfree
    exact hfree ⟨⟨hkey, htenant e he⟩, hcustomer e he⟩
  rcases Option.ne_none_iff_exists'.mp hnew with ⟨e', he'⟩
  refine ⟨e', he', ?_⟩
  have hkey' : e'.idempotencyKey = key := by
    have hfound := List.find?_some he'
    simp only [Bool.and_eq_true, decide_eq_true_eq] at hfound
    exact hfound.left.left
  have hmem := List.mem_of_find?_eq_some he'
  rw [happended.appended] at hmem
  rcases List.mem_append.mp hmem with hold | hnew
  · exact absurd (hkey'.trans hkey.symm) (happended.unused e he e' hold)
  · exact howner e' hnew

theorem updateOperationWithEvents_recorded {operation : OrderOperation}
    {es : List OrderOperationEvent} {version : Nat} {s t : Database} {key : String}
    (h : updateOperationWithEvents scope operation es version s = Except.ok ((), t))
    (howner : forall e, e ∈ es -> e.operationId = operationId)
    (hkey : exists e, e ∈ es ∧ e.idempotencyKey = key) :
    exists e', ownEvent scope key t = some e' ∧ e'.operationId = operationId := by
  simp only [updateOperationWithEvents, Transaction.translate_eq_ok,
    Transaction.bind_eq_ok, validateOwnership, Transaction.require_eq_ok,
    Prod.mk.injEq] at h
  rcases h with ⟨_, _, ⟨_, _, ⟨_, _, rfl⟩, _, _, ⟨_, _, rfl⟩, _, _, ⟨htenant, _, rfl⟩, hcustomer,
    _, rfl⟩, hwrite⟩
  simp only [writeOperation, Transaction.bind_eq_ok, Transaction.require_eq_ok] at hwrite
  rcases hwrite with ⟨_, _, _, _, _, hupdate, _, _, ⟨_, _, rfl⟩, hinsert⟩
  have happended := insertOperationEvents_spec hinsert
  rcases hkey with ⟨e, he, hkey⟩
  exact ownEvent_appended happended howner htenant hcustomer he hkey

/-- The operation was there for the customer at one of the transactions. -/
def VisibleIn (own : List (Database × Database)) (scope : AccessScope)
    (operationId : UUID) : Prop :=
  exists a, a ∈ own ∧ Visible scope operationId a.2

theorem RecordedIn.right {first : List (Database × Database)} {key : String}
    (h : RecordedIn own scope operationId key) :
    RecordedIn (first ++ own) scope operationId key := by
  rcases h with ⟨a, ha, hrecorded⟩
  exact ⟨a, List.mem_append_right _ ha, hrecorded⟩

theorem updateOrRetry_returns {key : String} {current : OrderOperation}
    {result r : OperationServiceResult} {again : Call OperationServiceResult}
    (h : Program.Returns Fault (updateOrRetry scope key current result again) own
      (Except.ok r))
    (howner : forall e, e ∈ result.events -> e.operationId = operationId)
    (hkey : exists e, e ∈ result.events ∧ e.idempotencyKey = key) :
    RecordedIn own scope operationId key ∨
      r.action = OperationServiceAction.statusUnchanged ∨
      exists first rest, own = first ++ rest ∧
        Program.Returns Fault again rest (Except.ok r) := by
  rcases Program.Returns.of_rescue h with hwrite | ⟨e, q, first, rest, _, hq, hagain, rfl⟩
  · left
    rcases hwrite.ok_of_bind with ⟨_, first, rest, hperform, hrest, rfl⟩
    rcases hperform.ok_of_perform with ⟨s, t, rfl, htx⟩
    exact ⟨(s, t), List.mem_append_left _ List.mem_cons_self,
      updateOperationWithEvents_recorded htx howner hkey⟩
  · right
    by_cases hconflict : updateConflict e = true
    · rw [if_pos hconflict] at hq
      cases hq
      rcases hagain.ok_of_bind with ⟨prior, second, third, _, hthird, rfl⟩
      cases prior with
      | some event => exact Or.inl (unchangedResult_returns hthird).left
      | none =>
          refine Or.inr ⟨first ++ second, third, ?_, hthird⟩
          rw [List.append_assoc]
    · rw [if_neg hconflict] at hq
      cases hq

/-- What the attempts of a method leave behind when they succeed. -/
structure Attempted (own : List (Database × Database)) (scope : AccessScope)
    (operationId : UUID) (key : String) (result : OperationServiceResult) : Prop where
  visible : VisibleIn own scope operationId
  recorded : result.action ≠ OperationServiceAction.statusUnchanged ->
    RecordedIn own scope operationId key

theorem Attempted.of_update {key : String} {current : OrderOperation}
    {result r : OperationServiceResult} {again : Call OperationServiceResult}
    {first rest : List (Database × Database)}
    (hvisible : VisibleIn first scope operationId)
    (h : Program.Returns Fault (updateOrRetry scope key current result again) rest
      (Except.ok r))
    (howner : forall e, e ∈ result.events -> e.operationId = operationId)
    (hkey : exists e, e ∈ result.events ∧ e.idempotencyKey = key)
    (hagain : forall own, Program.Returns Fault again own (Except.ok r) ->
      Attempted own scope operationId key r) :
    Attempted (first ++ rest) scope operationId key r := by
  refine ⟨?_, fun hne => ?_⟩
  · rcases hvisible with ⟨a, ha, h⟩
    exact ⟨a, List.mem_append_left _ ha, h⟩
  · rcases updateOrRetry_returns h howner hkey with hrecorded | hunchanged |
      ⟨before, after, rfl, hrest⟩
    · exact hrecorded.right
    · exact absurd hunchanged hne
    · exact ((hagain after hrest).recorded hne).right.right

theorem Attempted.after {key : String} {result : OperationServiceResult}
    {first : List (Database × Database)} (h : Attempted own scope operationId key result) :
    Attempted (first ++ own) scope operationId key result := by
  refine ⟨?_, fun hne => (h.recorded hne).right⟩
  rcases h.visible with ⟨a, ha, hvisible⟩
  exact ⟨a, List.mem_append_right _ ha, hvisible⟩

theorem Attempted.answered {key : String} {o : OrderOperation}
    {r : OperationServiceResult} {first rest : List (Database × Database)}
    (hvisible : VisibleIn first scope operationId)
    (h : Program.Returns Fault
      (pure
        { action := OperationServiceAction.statusUnchanged
          operation := o
          events := [] } : Call OperationServiceResult) rest (Except.ok r)) :
    Attempted (first ++ rest) scope operationId key r := by
  rcases Program.Returns.of_pure h with ⟨_, he⟩
  cases he
  rcases hvisible with ⟨a, ha, h⟩
  exact ⟨⟨a, List.mem_append_left _ ha, h⟩, fun hne => absurd rfl hne⟩

theorem VisibleIn.of_getOperation {o : OrderOperation}
    (h : Program.Returns Fault (getOperation scope operationId) own (Except.ok o)) :
    VisibleIn own scope operationId := by
  rcases getOperation_returns h with ⟨_, a, ha, hvisible, _⟩
  exact ⟨a, ha, hvisible⟩

theorem VisibleIn.left {rest : List (Database × Database)}
    (h : VisibleIn own scope operationId) : VisibleIn (own ++ rest) scope operationId := by
  rcases h with ⟨a, ha, hvisible⟩
  exact ⟨a, List.mem_append_left _ ha, hvisible⟩

theorem pendingDecision_key {a : PendingAction} {current : OrderOperation}
    {key actor : String} {first second : UUID} {now : Time}
    {result : OperationServiceResult}
    (h : pendingDecision a current key actor first second now = Except.ok result) :
    exists e, e ∈ result.events ∧ e.idempotencyKey = key := by
  cases a with
  | confirmed =>
      simp only [pendingDecision] at h
      cases hs : statusUpdateEvent current (current.withStatus
          (PendingAction.confirmed.nextStatus current) none now) first
          (key ++ ":status") actor with
      | error f =>
          rw [hs] at h
          cases h
      | ok status =>
          rw [hs] at h
          cases h
          exact ⟨_, List.mem_cons_self, rfl⟩
  | cancelled =>
      simp only [pendingDecision] at h
      cases hs : statusUpdateEvent current (current.withStatus
          (PendingAction.cancelled.nextStatus current) none now) first key actor with
      | error f =>
          rw [hs] at h
          cases h
      | ok status =>
          rw [hs] at h
          cases h
          rcases statusUpdateEvent_eq_ok hs with ⟨_, _, rfl⟩
          exact ⟨_, List.mem_cons_self, rfl⟩

theorem submission_key {current : OrderOperation} {reference key actor : String}
    {first second : UUID} {now : Time} {result : OperationServiceResult}
    (h : submission current reference key actor first second now =
      Except.ok result) : exists e, e ∈ result.events ∧ e.idempotencyKey = key := by
  unfold submission at h
  simp only at h
  cases hs : statusUpdateEvent current (current.withStatus
      OperationRecordStatus.submitted (some reference) now) first (key ++ ":status")
      actor with
  | error f =>
      rw [hs] at h
      cases h
  | ok status =>
      rw [hs] at h
      cases h
      exact ⟨_, List.mem_cons_self, rfl⟩

theorem pendingAttempts_returns {a : PendingAction} {key : String}
    (hkey : KeyUnder (operationHead operationId) key) {clock : Nat -> Time} (n : Nat) :
    forall {own : List (Database × Database)} {r : OperationServiceResult},
      Program.Returns Fault (pendingAttempts scope operationId a key clock n) own
        (Except.ok r) -> Attempted own scope operationId key r := by
  induction n with
  | zero =>
      intro own r h
      rcases Program.Returns.of_raise h with ⟨_, he⟩
      cases he
  | succ n ih =>
      intro own r h
      rcases h.ok_of_bind with ⟨current, first, rest, hfind, hrest, rfl⟩
      have hvisible := VisibleIn.of_getOperation hfind
      have hid := (getOperation_returns hfind).left
      by_cases hpending : current.status = OperationRecordStatus.pendingConfirmation
      · rw [if_neg (not_not_intro hpending)] at hrest
        rcases hrest.ok_of_bind with ⟨statusId, second, rest, _, hsecond, rfl⟩
        rcases hsecond.ok_of_bind with ⟨decisionId, third, rest, _, hthird, rfl⟩
        rcases hthird.ok_of_compute with ⟨result, hresult, hupdate⟩
        rw [← List.append_assoc, ← List.append_assoc]
        refine Attempted.of_update hvisible.left.left hupdate ?_ (pendingDecision_key hresult)
          fun own h => ih h
        rw [← hid] at hkey ⊢
        exact (pendingDecision_decided hpending hkey hresult).left.write.owner
      · rw [if_pos hpending] at hrest
        by_cases hdone : a.alreadyDone current = true
        · rw [if_pos hdone] at hrest
          exact Attempted.answered hvisible hrest
        · rw [if_neg hdone] at hrest
          rcases Program.Returns.of_raise hrest with ⟨_, he⟩
          cases he

theorem submitAttempts_returns {key : String}
    (hkey : KeyUnder (operationHead operationId) key)
    {provider : Nat -> Except Failure SubmittedOperation} {clock : Nat -> Time} (n : Nat) :
    forall {own : List (Database × Database)} {r : OperationServiceResult},
      Program.Returns Fault (submitAttempts scope operationId key provider clock n) own
        (Except.ok r) -> Attempted own scope operationId key r := by
  induction n with
  | zero =>
      intro own r h
      rcases Program.Returns.of_raise h with ⟨_, he⟩
      cases he
  | succ n ih =>
      intro own r h
      rcases h.ok_of_bind with ⟨current, first, rest, hfind, hrest, rfl⟩
      have hvisible := VisibleIn.of_getOperation hfind
      have hid := (getOperation_returns hfind).left
      rcases hrest.ok_of_require with ⟨_, hrest⟩
      by_cases hsubmitted : current.status = OperationRecordStatus.submitted ∧
          current.providerReference ≠ none
      · rw [if_pos hsubmitted] at hrest
        exact Attempted.answered hvisible hrest
      · rw [if_neg hsubmitted] at hrest
        rcases hrest.ok_of_require with ⟨hpending, hrest⟩
        rcases hrest.ok_of_compute with ⟨submitted, _, hsend⟩
        rcases hsend.ok_of_bind with ⟨statusId, second, rest, _, hsecond, rfl⟩
        rcases hsecond.ok_of_bind with ⟨confirmationId, third, rest, _, hthird, rfl⟩
        rcases hthird.ok_of_compute with ⟨result, hresult, hupdate⟩
        rw [← List.append_assoc, ← List.append_assoc]
        refine Attempted.of_update hvisible.left.left hupdate ?_ (submission_key hresult)
          fun own h => ih h
        rw [← hid] at hkey ⊢
        exact (submission_decided hpending hkey hresult).left.write.owner

theorem attachAttempts_returns {supportCaseId : UUID} {key : String} {clock : Nat -> Time}
    (n : Nat) :
    forall {own : List (Database × Database)} {r : OperationServiceResult},
      Program.Returns Fault (attachAttempts scope operationId supportCaseId key clock n) own
        (Except.ok r) -> Attempted own scope operationId key r := by
  induction n with
  | zero =>
      intro own r h
      rcases Program.Returns.of_raise h with ⟨_, he⟩
      cases he
  | succ n ih =>
      intro own r h
      rcases h.ok_of_bind with ⟨current, first, rest, hfind, hrest, rfl⟩
      have hvisible := VisibleIn.of_getOperation hfind
      have hid := (getOperation_returns hfind).left
      rcases hrest.ok_of_require with ⟨_, hrest⟩
      cases hattached : current.supportCaseId with
      | some attached =>
          simp only [hattached] at hrest
          by_cases hsame : attached = supportCaseId
          · simp only [if_pos hsame] at hrest
            exact Attempted.answered hvisible hrest
          · simp only [if_neg hsame] at hrest
            rcases Program.Returns.of_raise hrest with ⟨_, he⟩
            cases he
      | none =>
          simp only [hattached] at hrest
          rcases hrest.ok_of_bind with ⟨eventId, second, rest, _, hupdate, rfl⟩
          rw [← List.append_assoc]
          refine Attempted.of_update hvisible.left hupdate ?_ ⟨_, List.mem_cons_self, rfl⟩
            fun own h => ih h
          intro e he
          rw [List.mem_singleton.mp he]
          exact hid

namespace CustomerRequest

variable {q : CustomerRequest} {scope : AccessScope} {operationId : UUID}
  {requestId : String} {provider : Nat -> Except Failure SubmittedOperation}
  {clock : Nat -> Time} {own : List (Database × Database)} {r : OperationServiceResult}

theorem normalizeRequestId_eq_ok {request : String}
    (h : normalizeRequestId requestId = Except.ok request) :
    Text.strip requestId ≠ "" := by
  intro hblank
  unfold normalizeRequestId at h
  rw [if_pos hblank] at h
  cases h

theorem call_accepted
    (h : Program.Returns Fault (q.call scope operationId requestId provider clock) own
      (Except.ok r)) :
    Text.strip requestId ≠ "" ∧
      forall c, q = queue c -> CleanText.parse? (Text.strip c) ≠ none := by
  cases q with
  | confirm =>
      rcases Program.Returns.ok_of_bind h with ⟨o, first, rest, _, hrest, rfl⟩
      rcases hrest.ok_of_require with ⟨_, hrest⟩
      rcases hrest.ok_of_compute with ⟨request, hrequest, _⟩
      exact ⟨normalizeRequestId_eq_ok hrequest, fun c hc => (by cases hc)⟩
  | cancel =>
      rcases Program.Returns.ok_of_compute h with ⟨request, hrequest, _⟩
      exact ⟨normalizeRequestId_eq_ok hrequest, fun c hc => (by cases hc)⟩
  | submit =>
      rcases Program.Returns.ok_of_compute h with ⟨request, hrequest, _⟩
      exact ⟨normalizeRequestId_eq_ok hrequest, fun c hc => (by cases hc)⟩
  | queue connectionId =>
      rcases Program.Returns.ok_of_compute h with ⟨request, hrequest, hrest⟩
      refine ⟨normalizeRequestId_eq_ok hrequest, fun c hc hnone => ?_⟩
      cases hc
      simp only [hnone] at hrest
      rcases Program.Returns.of_raise hrest with ⟨_, he⟩
      cases he
  | attach supportCaseId =>
      rcases Program.Returns.ok_of_compute h with ⟨request, hrequest, _⟩
      exact ⟨normalizeRequestId_eq_ok hrequest, fun c hc => (by cases hc)⟩

theorem attempts_returns {word : String} (hword : q.keyWord = some word) {key : String}
    (hkey : KeyUnder (operationHead operationId) key)
    (h : Program.Returns Fault (q.attempts scope operationId key provider clock) own
      (Except.ok r)) : Attempted own scope operationId key r := by
  cases q with
  | confirm => exact pendingAttempts_returns hkey _ h
  | cancel => exact pendingAttempts_returns hkey _ h
  | submit => exact submitAttempts_returns hkey _ h
  | queue _ => cases hword
  | attach _ => exact attachAttempts_returns _ h

/-- An event under the key of the request belongs to another operation. -/
def ForeignIn (own : List (Database × Database)) (scope : AccessScope)
    (operationId : UUID) (key : String) : Prop :=
  exists a, a ∈ own ∧ exists e, ownEvent scope key a.2 = some e ∧
    e.operationId ≠ operationId

theorem keyedCall_returns {word : String} (hword : q.keyWord = some word) {key : String}
    (hkey : KeyUnder (operationHead operationId) key)
    (h : Program.Returns Fault (q.keyedCall scope operationId key provider clock) own
      (Except.ok r)) :
    (VisibleIn own scope operationId ∨ ForeignIn own scope operationId key) ∧
      (r.action ≠ OperationServiceAction.statusUnchanged ->
        RecordedIn own scope operationId key) := by
  rcases Program.Returns.ok_of_bind h with ⟨prior, first, rest, hfind, hrest, rfl⟩
  rcases hfind.ok_of_perform with ⟨s, t, rfl, htx⟩
  simp only [findEventByIdempotencyKey, Transaction.bind_eq_ok, customerOwnedVisibility,
    Transaction.fetch_eq_ok, Transaction.read_eq_ok, Prod.mk.injEq] at htx
  rcases htx with ⟨customerId, _, ⟨hcustomer, rfl⟩, hprior, rfl⟩
  have hfound : prior = ownEvent scope key s := by
    rw [← hprior]
    unfold ownEvent
    rw [hcustomer]
    simp only [Option.some.injEq]
  cases prior with
  | none =>
      have hattempted : Attempted ([(s, s)] ++ rest) scope operationId key r :=
        (attempts_returns hword hkey hrest).after
      exact ⟨Or.inl hattempted.visible, hattempted.recorded⟩
  | some event =>
      rcases unchangedResult_returns hrest with ⟨haction, a, ha, hvisible⟩
      refine ⟨?_, fun hne => absurd haction hne⟩
      by_cases hid : event.operationId = operationId
      · rw [hid] at hvisible
        exact Or.inl ⟨a, List.mem_append_right _ ha, hvisible⟩
      · exact Or.inr ⟨(s, s), List.mem_cons_self, event, hfound.symm, hid⟩

/-- What a request that has succeeded has met at its transactions. -/
structure Succeeded (q : CustomerRequest) (own : List (Database × Database))
    (scope : AccessScope) (operationId : UUID) (requestId : String)
    (result : OperationServiceResult) : Prop where
  reached : VisibleIn own scope operationId ∨
    exists word, q.keyWord = some word ∧
      ForeignIn own scope operationId (operationKey operationId (word ++ Text.strip requestId))
  recorded : result.action ≠ OperationServiceAction.statusUnchanged ->
    forall word, q.keyWord = some word ->
      RecordedIn own scope operationId
        (operationKey operationId (word ++ Text.strip requestId))

theorem call_succeeded
    (h : Program.Returns Fault (q.call scope operationId requestId provider clock) own
      (Except.ok r)) : q.Succeeded own scope operationId requestId r := by
  have hrequest := (call_accepted h).left
  by_cases hconfirm : q = confirm
  · subst hconfirm
    rw [call_confirm hrequest] at h
    rcases h.ok_of_bind with ⟨o, first, rest, hfind, hrest, rfl⟩
    rcases hrest.ok_of_require with ⟨_, hrest⟩
    have hkeyed := keyedCall_returns rfl (operationKey_under operationId _) hrest
    refine ⟨Or.inl (VisibleIn.of_getOperation hfind).left, fun hne word hword => ?_⟩
    cases hword
    exact (hkeyed.right hne).right
  · cases hword : q.keyWord with
    | some word =>
        rw [call_keyed hword hrequest hconfirm] at h
        have hkeyed := keyedCall_returns hword (operationKey_under operationId _) h
        refine ⟨?_, ?_⟩
        · rcases hkeyed.left with hvisible | hforeign
          · exact Or.inl hvisible
          · exact Or.inr ⟨word, hword, hforeign⟩
        · intro hne word' hword'
          rw [hword] at hword'
          cases hword'
          exact hkeyed.right hne
    | none =>
        refine ⟨?_, fun _ word hw => ?_⟩
        · cases q with
          | queue connectionId =>
              rcases Program.Returns.ok_of_compute h with ⟨request, _, hrest⟩
              cases hparse : CleanText.parse? (Text.strip connectionId) with
              | none =>
                  simp only [hparse] at hrest
                  rcases Program.Returns.of_raise hrest with ⟨_, he⟩
                  cases he
              | some connection =>
                  simp only [hparse] at hrest
                  rcases hrest.ok_of_bind with ⟨o, first, rest, hfind, _, rfl⟩
                  exact Or.inl (VisibleIn.of_getOperation hfind).left
          | confirm => cases hword
          | cancel => cases hword
          | submit => cases hword
          | attach _ => cases hword
        · rw [hword] at hw
          cases hw

end CustomerRequest

end Outcomes

/-!
## Runs
-/

theorem ownEvent_later {scope : AccessScope} {key : String} {db db' : Database}
    {e : OrderOperationEvent}
    (happended : exists more, db'.operations.events.rows =
      db.operations.events.rows ++ more)
    (h : ownEvent scope key db = some e) : ownEvent scope key db' = some e := by
  rcases happended with ⟨more, hmore⟩
  unfold ownEvent at h ⊢
  rw [hmore, List.find?_append, h]
  rfl

theorem World.Runs.events_appended {stages : List (Stage World Event)} {w : World}
    (h : World.Runs stages w) {x : Stage World Event} (hx : x ∈ stages) :
    exists more, w.db.operations.events.rows =
      x.after.db.operations.events.rows ++ more := by
  refine (h.related
    (R := fun db db' => exists more, db'.operations.events.rows =
      db.operations.events.rows ++ more) ?_ ?_ ?_ hx).right
  · exact fun db => ⟨[], (List.append_nil _).symm⟩
  · rintro a b c ⟨m, hm⟩ ⟨m', hm'⟩
    exact ⟨m ++ m', by rw [hm', hm, List.append_assoc]⟩
  · exact fun l db db' hmove => ⟨_, hmove.operation.events_eq⟩

/--
Repeated requests.  When a call of one of the five methods has returned, a second call
with the same request id answers with the operation as it is and writes nothing exactly
when the request is on record for this operation, or, where nothing is on record, the
operation is in a state that the method answers from; whatever the provider and the clock
would say.  A request that one of the four recording methods has answered with a change is
on record from then on, whatever has happened to the operation since.
-/
theorem repeated_request_answered {stages : List (Stage World Event)} {w : World}
    (h : World.Runs stages w) {x : Stage World Event} (hx : x ∈ stages) {i : Nat}
    {q : CustomerRequest} {scope : AccessScope} {operationId : UUID} {requestId : String}
    {provider : Nat -> Except Failure SubmittedOperation} {clock : Nat -> Time}
    {result : OperationServiceResult}
    (hbegins : Begins i (q.call scope operationId requestId provider clock) x)
    (hended : w.Ended i (Except.ok result)) :
    (forall provider' clock',
      AnswersUnchanged operationId (q.call scope operationId requestId provider' clock') w.db
        ↔ q.Replayable scope operationId requestId w.db) ∧
    (result.action ≠ OperationServiceAction.statusUnchanged -> q.keyWord ≠ none ->
      exists e, q.recorded scope operationId requestId w.db = some e ∧
        e.operationId = operationId) := by
  rcases h.returned hx hbegins hended with ⟨own, hreturns, hstage, _⟩
  have hdb := h.good.left.sound
  rcases CustomerRequest.call_accepted hreturns with ⟨hrequest, hconnection⟩
  have hsucceeded := CustomerRequest.call_succeeded hreturns
  have hlater : forall {word : String} {a : Database × Database} {e : OrderOperationEvent},
      q.keyWord = some word -> a ∈ own ->
      ownEvent scope (operationKey operationId (word ++ Text.strip requestId)) a.2 = some e ->
      q.recorded scope operationId requestId w.db = some e := by
    intro word a e hword ha he
    rcases hstage a ha with ⟨y, hy, _, rfl⟩
    unfold CustomerRequest.recorded
    rw [hword]
    exact ownEvent_later (h.events_appended hy) he
  refine ⟨fun provider' clock' => ?_, fun hne hword => ?_⟩
  · rcases hsucceeded.reached with ⟨a, ha, hvisible⟩ | ⟨word, hword, a, ha, e, he, hforeign⟩
    · rcases hstage a ha with ⟨y, hy, _, rfl⟩
      exact CustomerRequest.call_answers hdb (hvisible.later (h.later_stage hy)) hrequest
        hconnection
    · have hneither : ¬AnswersUnchanged operationId
          (q.call scope operationId requestId provider' clock') w.db ∧
            ¬q.Replayable scope operationId requestId w.db :=
        CustomerRequest.call_foreign hdb hrequest (hlater hword ha he) hforeign
      exact iff_of_false hneither.left hneither.right
  · rcases Option.ne_none_iff_exists'.mp hword with ⟨word, hword⟩
    rcases hsucceeded.recorded hne word hword with ⟨a, ha, e, he, hid⟩
    exact ⟨e, hlater hword ha he, hid⟩

/-- The world in which the customer has one pending operation. -/
def samplePending : World :=
  (World.initial sampleIds).serve (sampleCreate sampleRequest)

theorem samplePending_cancelled :
    (sampleCancel.run samplePending.db).1.toOption.map OperationServiceResult.action =
      some OperationServiceAction.cancelled := by
  decide +kernel

/-- The customer cancels the operation, and asks again. -/
theorem repeated_request_answered_sample :
    exists stages w i, exists result : OperationServiceResult, World.Runs stages w ∧
    w.Ended i (Except.ok result) ∧ result.action = OperationServiceAction.cancelled ∧
    (forall provider clock,
      AnswersUnchanged 0 (CustomerRequest.cancel.call sampleScope 0 "request" provider clock)
        w.db ↔ CustomerRequest.cancel.Replayable sampleScope 0 "request" w.db) ∧
    exists e, CustomerRequest.cancel.recorded sampleScope 0 "request" w.db = some e ∧
      e.operationId = 0 := by
  have hstart : World.Runs [] (World.initial sampleIds) := ⟨sampleIds, Run.nil _⟩
  rcases hstart.serve (Method.createPendingOperation sampleScope sampleRequest
    sampleSnapshot sampleDecision "please cancel" (fun _ => 0)) with ⟨first, hfirst, _⟩
  have hpending : World.Runs ([] ++ first) samplePending := hfirst
  have hcancelled := samplePending_cancelled
  generalize samplePending = w at hpending hcancelled
  rcases hpending.serve_traced (Method.cancelPendingOperation sampleScope 0 "request"
    (fun _ => 0)) with ⟨all, x, hrun, hx, hbegins, hended, _⟩
  have hended : World.Ended _ w.calls.length (sampleCancel.run w.db).1 := hended
  cases hresult : (sampleCancel.run w.db).1 with
  | error e =>
      rw [hresult] at hcancelled
      cases hcancelled
  | ok result =>
      rw [hresult] at hcancelled hended
      have haction : result.action = OperationServiceAction.cancelled :=
        Option.some.inj hcancelled
      have hcall : Begins w.calls.length (CustomerRequest.cancel.call sampleScope 0 "request"
          (fun _ => Except.error Failure.orderNotAccessible) (fun _ => 0)) x := hbegins
      have hanswered := repeated_request_answered hrun hx hcall hended
      refine ⟨all, _, _, result, hrun, hended, haction, hanswered.left,
        hanswered.right ?_ ?_⟩
      · rw [haction]
        exact fun h => (by cases h)
      · exact fun h => (by cases h)

end RefundAgent
