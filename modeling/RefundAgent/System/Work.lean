import RefundAgent.System.Sound

/-!
# The work of a transaction

A transaction touches the groups of tables one after the other.  `Steps`
collects what it has done so far, one label per group; each lemma named `then`
adds the work on one more group.  A finished collection is a move once its
labels are known to be one of the combinations.

The statements come with lemmas named `_spec` that say what a successful run
has done, table by table.
-/

namespace RefundAgent

open Foundation

inductive Group where
  | operations
  | cases
  | outbox
  | inbox
deriving DecidableEq, Repr

structure Touches (g : Group) (db db' : Database) : Prop where
  operations : g ≠ Group.operations -> db'.operations = db.operations
  cases : g ≠ Group.cases -> db'.cases = db.cases
  outbox : g ≠ Group.outbox -> db'.outbox = db.outbox
  inbox : g ≠ Group.inbox -> db'.inbox = db.inbox
  refunds : db'.refunds = db.refunds
  ids : db.ids.Extends db'.ids

theorem Touches.refl (g : Group) (db : Database) : Touches g db db :=
  ⟨fun _ => rfl, fun _ => rfl, fun _ => rfl, fun _ => rfl, rfl, db.ids.extends_refl⟩

theorem Touches.trans {g : Group} {a b c : Database} (h : Touches g a b)
    (h' : Touches g b c) : Touches g a c where
  operations := fun hg => (h'.operations hg).trans (h.operations hg)
  cases := fun hg => (h'.cases hg).trans (h.cases hg)
  outbox := fun hg => (h'.outbox hg).trans (h.outbox hg)
  inbox := fun hg => (h'.inbox hg).trans (h.inbox hg)
  refunds := h'.refunds.trans h.refunds
  ids := h.ids.trans h'.ids

/-- An identifier has been drawn and nothing else has happened. -/
structure Drawn (id : UUID) (db db' : Database) : Prop where
  operations : db'.operations = db.operations
  cases : db'.cases = db.cases
  outbox : db'.outbox = db.outbox
  inbox : db'.inbox = db.inbox
  refunds : db'.refunds = db.refunds
  ids : db.ids.Extends db'.ids
  issued : db'.ids.Issued id

theorem Drawn.touches {id : UUID} {db db' : Database} (h : Drawn id db db')
    (g : Group) : Touches g db db' :=
  ⟨fun _ => h.operations, fun _ => h.cases, fun _ => h.outbox, fun _ => h.inbox,
    h.refunds, h.ids⟩

theorem newId_spec {db db' : Database} {id : UUID}
    (h : newId db = Except.ok (id, db')) : Drawn id db db' := by
  rcases newId_eq_ok.mp h with ⟨rfl, rfl⟩
  exact ⟨rfl, rfl, rfl, rfl, rfl, db.ids.extends_advance, db.ids.issued_fresh_advance⟩

/-!
## Steps
-/

theorem CaseStep.eq_of_keep {t u : CaseTables} (h : CaseStep CaseLabel.keep t u) :
    u = t := by
  cases h
  rfl

theorem OutboxStep.eq_of_keep {t u : OutboxTables}
    (h : OutboxStep OutboxLabel.keep t u) : u = t := by
  cases h
  rfl

theorem InboxStep.eq_of_keep {t u : InboxTables}
    (h : InboxStep InboxLabel.keep t u) : u = t := by
  cases h
  rfl

structure Steps (l : Label) (db db' : Database) : Prop where
  operation : OperationStep l.operation db.operations db'.operations
  case : CaseStep l.case db.cases db'.cases
  outbox : OutboxStep l.outbox db.outbox db'.outbox
  inbox : InboxStep l.inbox db.inbox db'.inbox
  refund : RefundStep l.refund db.refunds db'.refunds
  ids : db.ids.Extends db'.ids
  operationEventIds : forall e, e ∈ l.operation.events -> db'.ids.Issued e.eventId
  caseEventIds : forall e, e ∈ l.case.events -> db'.ids.Issued e.eventId
  redriveIds : forall x, l.outbox.redriveId? = some x -> db'.ids.Issued x
  createdIds : forall x, l.creates x -> db'.ids.Issued x

namespace Steps

variable {l : Label} {db db' db'' : Database}

theorem move (h : Steps l db db')
    (hc : Combination l.operation l.case l.outbox l.inbox)
    (hs : forall c c', l.case = CaseLabel.update c c' [] -> l.Silent db := by
      intro c c' hl; cases hl) : Move l db db' :=
  ⟨h.operation, h.case, h.outbox, h.inbox, h.refund, hc, h.ids, h.operationEventIds,
    h.caseEventIds, h.redriveIds, h.createdIds, hs⟩

theorem refl (db : Database) : Steps {} db db where
  operation := OperationStep.keep _
  case := CaseStep.keep _
  outbox := OutboxStep.keep _
  inbox := InboxStep.keep _
  refund := RefundStep.keep _
  ids := db.ids.extends_refl
  operationEventIds := fun e he => (by cases he)
  caseEventIds := fun e he => (by cases he)
  redriveIds := fun x hx => (by cases hx)
  createdIds := fun x hx => (by rcases hx with hx | hx | hx | hx <;> cases hx)

theorem afterId {id : UUID} (h : Steps l db' db'') (hid : Drawn id db db') :
    Steps l db db'' where
  operation := by rw [← hid.operations]; exact h.operation
  case := by rw [← hid.cases]; exact h.case
  outbox := by rw [← hid.outbox]; exact h.outbox
  inbox := by rw [← hid.inbox]; exact h.inbox
  refund := by rw [← hid.refunds]; exact h.refund
  ids := hid.ids.trans h.ids
  operationEventIds := h.operationEventIds
  caseEventIds := h.caseEventIds
  redriveIds := h.redriveIds
  createdIds := h.createdIds

theorem thenOperation {lo : OperationLabel} (h : Steps l db db')
    (hl : l.operation = OperationLabel.keep)
    (ht : Touches Group.operations db' db'')
    (hstep : OperationStep lo db'.operations db''.operations)
    (hids : forall e, e ∈ lo.events -> db''.ids.Issued e.eventId)
    (hnew : forall x, lo.created? = some x -> db''.ids.Issued x := by
      intro x hx; cases hx) :
    Steps { l with operation := lo } db db'' where
  operation := by
    have hsame := h.operation
    rw [hl] at hsame
    rw [hsame.eq_of_keep] at hstep
    exact hstep
  case := by rw [ht.cases (by decide)]; exact h.case
  outbox := by rw [ht.outbox (by decide)]; exact h.outbox
  inbox := by rw [ht.inbox (by decide)]; exact h.inbox
  refund := by rw [ht.refunds]; exact h.refund
  ids := h.ids.trans ht.ids
  operationEventIds := hids
  caseEventIds := fun e he => (h.caseEventIds e he).mono ht.ids
  redriveIds := fun x hx => (h.redriveIds x hx).mono ht.ids
  createdIds := by
    intro x hx
    rcases hx with hx | hx
    · exact hnew x hx
    · exact (h.createdIds x (Or.inr hx)).mono ht.ids

theorem thenCase {lc : CaseLabel} (h : Steps l db db')
    (hl : l.case = CaseLabel.keep) (ht : Touches Group.cases db' db'')
    (hstep : CaseStep lc db'.cases db''.cases)
    (hids : forall e, e ∈ lc.events -> db''.ids.Issued e.eventId)
    (hnew : forall x, lc.created? = some x -> db''.ids.Issued x := by
      intro x hx; cases hx) :
    Steps { l with case := lc } db db'' where
  operation := by rw [ht.operations (by decide)]; exact h.operation
  case := by
    have hsame := h.case
    rw [hl] at hsame
    rw [hsame.eq_of_keep] at hstep
    exact hstep
  outbox := by rw [ht.outbox (by decide)]; exact h.outbox
  inbox := by rw [ht.inbox (by decide)]; exact h.inbox
  refund := by rw [ht.refunds]; exact h.refund
  ids := h.ids.trans ht.ids
  operationEventIds := fun e he => (h.operationEventIds e he).mono ht.ids
  caseEventIds := hids
  redriveIds := fun x hx => (h.redriveIds x hx).mono ht.ids
  createdIds := by
    intro x hx
    rcases hx with hx | hx | hx
    · exact (h.createdIds x (Or.inl hx)).mono ht.ids
    · exact hnew x hx
    · exact (h.createdIds x (Or.inr (Or.inr hx))).mono ht.ids

theorem thenOutbox {lx : OutboxLabel} (h : Steps l db db')
    (hl : l.outbox = OutboxLabel.keep) (ht : Touches Group.outbox db' db'')
    (hstep : OutboxStep lx db'.outbox db''.outbox)
    (hids : forall x, lx.redriveId? = some x -> db''.ids.Issued x)
    (hnew : forall x, lx.created? = some x -> db''.ids.Issued x := by
      intro x hx; cases hx) :
    Steps { l with outbox := lx } db db'' where
  operation := by rw [ht.operations (by decide)]; exact h.operation
  case := by rw [ht.cases (by decide)]; exact h.case
  outbox := by
    have hsame := h.outbox
    rw [hl] at hsame
    rw [hsame.eq_of_keep] at hstep
    exact hstep
  inbox := by rw [ht.inbox (by decide)]; exact h.inbox
  refund := by rw [ht.refunds]; exact h.refund
  ids := h.ids.trans ht.ids
  operationEventIds := fun e he => (h.operationEventIds e he).mono ht.ids
  caseEventIds := fun e he => (h.caseEventIds e he).mono ht.ids
  redriveIds := hids
  createdIds := by
    intro x hx
    rcases hx with hx | hx | hx | hx
    · exact (h.createdIds x (Or.inl hx)).mono ht.ids
    · exact (h.createdIds x (Or.inr (Or.inl hx))).mono ht.ids
    · exact hnew x hx
    · exact (h.createdIds x (Or.inr (Or.inr (Or.inr hx)))).mono ht.ids

theorem thenInbox {li : InboxLabel} (h : Steps l db db')
    (hl : l.inbox = InboxLabel.keep) (ht : Touches Group.inbox db' db'')
    (hstep : InboxStep li db'.inbox db''.inbox) :
    Steps { l with inbox := li } db db'' where
  operation := by rw [ht.operations (by decide)]; exact h.operation
  case := by rw [ht.cases (by decide)]; exact h.case
  outbox := by rw [ht.outbox (by decide)]; exact h.outbox
  inbox := by
    have hsame := h.inbox
    rw [hl] at hsame
    rw [hsame.eq_of_keep] at hstep
    exact hstep
  refund := by rw [ht.refunds]; exact h.refund
  ids := h.ids.trans ht.ids
  operationEventIds := fun e he => (h.operationEventIds e he).mono ht.ids
  caseEventIds := fun e he => (h.caseEventIds e he).mono ht.ids
  redriveIds := fun x hx => (h.redriveIds x hx).mono ht.ids
  createdIds := fun x hx => (h.createdIds x hx).mono ht.ids

end Steps

/-!
## Statements on order operations
-/

theorem activeOrderTaken_eq_false {db : Database} {o : OrderOperation} :
    activeOrderTaken db o = false ↔ ¬OrderTaken db.operations o := by
  unfold activeOrderTaken OrderTaken
  rw [Bool.eq_false_iff, Ne, Bool.and_eq_true, List.any_eq_true]
  simp only [Bool.and_eq_true, decide_eq_true_eq]
  constructor
  · rintro h ⟨r, hr, hra, hoa, hne, ht, ho⟩
    exact h ⟨hoa, r, hr, ⟨⟨hra, hne⟩, ht⟩, ho⟩
  · rintro h ⟨hoa, r, hr, ⟨⟨hra, hne⟩, ht⟩, ho⟩
    exact h ⟨r, hr, hra, hoa, hne, ht, ho⟩

theorem insertOperation_spec {o : OrderOperation} {db db' : Database}
    (h : insertOperation o db = Except.ok ((), db')) :
    db.operations.rows.insert? o = some db'.operations.rows ∧
      db'.operations.events = db.operations.events ∧ o.checks = true ∧
      ¬OrderTaken db.operations o ∧ Touches Group.operations db db' := by
  rcases insertOperation_eq_ok h with ⟨t, ht, hchecks, hfree, rfl⟩
  exact ⟨ht, rfl, hchecks, activeOrderTaken_eq_false.mp hfree,
    fun hg => absurd rfl hg, fun _ => rfl, fun _ => rfl, fun _ => rfl, rfl,
    db.ids.extends_refl⟩

theorem updateOperation_spec {operationId : UUID} {p : OrderOperation -> Bool}
    {f : OrderOperation -> OrderOperation} {db db' : Database}
    (h : updateOperation operationId p f db = Except.ok (1, db')) :
    exists r, db.operations.rows.get operationId = some r ∧ p r = true ∧
      (f r).checks = true ∧ ¬OrderTaken db.operations (f r) ∧
      db'.operations.rows = db.operations.rows.put (f r) ∧
      db'.operations.events = db.operations.events ∧
      Touches Group.operations db db' := by
  rcases updateOperation_one.mp h with ⟨r, hget, hp, hchecks, hfree, rfl⟩
  exact ⟨r, hget, hp, hchecks, activeOrderTaken_eq_false.mp hfree, rfl, rfl,
    fun hg => absurd rfl hg, fun _ => rfl, fun _ => rfl, fun _ => rfl, rfl,
    db.ids.extends_refl⟩

structure EventsAppended (es : List OrderOperationEvent) (db db' : Database) :
    Prop where
  rows : db'.operations.rows = db.operations.rows
  appended : db'.operations.events.rows = db.operations.events.rows ++ es
  unused : forall e, e ∈ es -> forall x, x ∈ db.operations.events.rows ->
    x.idempotencyKey ≠ e.idempotencyKey
  touches : Touches Group.operations db db'

theorem insertOperationEvents_spec {es : List OrderOperationEvent}
    {db db' : Database} (h : insertOperationEvents es db = Except.ok ((), db')) :
    EventsAppended es db db' := by
  rcases insertOperationEvents_eq_ok h with ⟨t, ht, _, hunused, rfl⟩
  exact ⟨rfl, ht, hunused, fun hg => absurd rfl hg, fun _ => rfl, fun _ => rfl,
    fun _ => rfl, rfl, db.ids.extends_refl⟩

theorem insertOperationEvent_spec {e : OrderOperationEvent} {db db' : Database}
    (h : insertOperationEvent e db = Except.ok ((), db')) :
    EventsAppended [e] db db' := by
  rcases insertOperationEvent_eq_ok.mp h with ⟨hunused, _, t, ht, rfl⟩
  refine ⟨rfl, (Table.insert?_eq_some.mp ht).right, ?_, fun hg => absurd rfl hg,
    fun _ => rfl, fun _ => rfl, fun _ => rfl, rfl, db.ids.extends_refl⟩
  intro d hd
  rw [List.mem_singleton.mp hd]
  exact hunused

theorem EventsAppended.trans {es es' : List OrderOperationEvent} {a b c : Database}
    (h : EventsAppended es a b) (h' : EventsAppended es' b c) :
    EventsAppended (es ++ es') a c where
  rows := h'.rows.trans h.rows
  appended := by rw [h'.appended, h.appended, List.append_assoc]
  unused := by
    intro e he x hx
    rcases List.mem_append.mp he with he | he
    · exact h.unused e he x hx
    · exact h'.unused e he x (by rw [h.appended]; exact List.mem_append_left _ hx)
  touches := h.touches.trans h'.touches

theorem EventsAppended.refl (db : Database) : EventsAppended [] db db :=
  ⟨rfl, by simp, by simp, Touches.refl _ _⟩

theorem Drawn.eventsAppended {id : UUID} {db db' : Database} (h : Drawn id db db') :
    EventsAppended [] db db' :=
  ⟨by rw [h.operations], by simp [h.operations], by simp, h.touches _⟩

theorem OperationStep.of_update {t u : OperationTables} {w : Writer}
    {o o' : OrderOperation} {es : List OrderOperationEvent}
    (hget : t.rows.get o.operationId = some o) (hfree : ¬OrderTaken t o')
    (hrows : u.rows = t.rows.put o') (hevents : u.events.rows = t.events.rows ++ es)
    (hunused : forall e, e ∈ es -> forall x, x ∈ t.events.rows ->
      x.idempotencyKey ≠ e.idempotencyKey)
    (hchange : OperationUpdated w o o' es) :
    OperationStep (OperationLabel.update w o o' es) t u := by
  rcases u with ⟨rows, events⟩
  cases hrows
  exact OperationStep.update hget hfree hevents hunused hchange

/-!
## Statements on support cases
-/

/-- The row passes the checks and no other case holds its place. -/
structure CaseAdmitted (db : Database) (c : SupportCase) : Prop where
  checks : c.checks = true
  free : ¬CaseTaken db.cases c

theorem activeCaseTaken_eq_none {db : Database} {c : SupportCase}
    (hchecks : c.checks = true) :
    activeCaseTaken db c = none ↔ ¬CaseTaken db.cases c := by
  have horder : c.caseType = CaseType.deliveryInvestigation ->
      c.orderId.isSome = true := by
    intro hkind
    cases horder : c.orderId with
    | none => simp [SupportCase.checks, hkind, horder] at hchecks
    | some o => rfl
  unfold activeCaseTaken CaseTaken
  cases hactive : c.unresolved with
  | false => simp
  | true =>
      rw [if_neg (by simp)]
      by_cases hkind : c.caseType = CaseType.deliveryInvestigation
      · simp only [if_pos hkind, horder hkind, true_and]
        constructor
        · intro h hex
          rcases hex with ⟨r, hr, hopen, hne, htenant, hthread, htype, hsame⟩
          rw [if_pos] at h
          · cases h
          · rw [List.any_eq_true]
            exact ⟨r, hr, by simp [hopen, hne, htenant, hthread, htype, hsame, hkind]⟩
        · intro h
          rw [if_neg]
          intro hany
          rw [List.any_eq_true] at hany
          rcases hany with ⟨r, hr, hp⟩
          simp only [Bool.and_eq_true, decide_eq_true_eq] at hp
          exact h ⟨r, hr, hp.left.left.left.left.left, hp.left.left.left.left.right,
            hp.left.left.right, hp.left.right,
            hp.left.left.left.right.trans hkind.symm, fun _ => hp.right⟩
      · simp only [if_neg hkind]
        constructor
        · intro h hex
          rcases hex with ⟨r, hr, hopen, _, hne, htenant, hthread, htype, _⟩
          rw [if_pos] at h
          · cases h
          · rw [List.any_eq_true]
            exact ⟨r, hr, by simp [hopen, hne, htenant, hthread, htype]⟩
        · intro h
          rw [if_neg]
          intro hany
          rw [List.any_eq_true] at hany
          rcases hany with ⟨r, hr, hp⟩
          simp only [Bool.and_eq_true, decide_eq_true_eq] at hp
          exact h ⟨r, hr, hp.left.left.left.left, trivial, hp.left.left.left.right,
            hp.left.right, hp.right, hp.left.left.right, fun h' => absurd h' hkind⟩

theorem refuseCase_eq_none {db : Database} {c : SupportCase} :
    refuseCase db c = none ↔ CaseAdmitted db c := by
  unfold refuseCase
  cases hchecks : c.checks with
  | false =>
      rw [if_pos rfl]
      constructor
      · intro h
        cases h
      · intro h
        rw [h.checks] at hchecks
        cases hchecks
  | true =>
      rw [if_neg (by simp), Option.map_eq_none_iff, activeCaseTaken_eq_none hchecks]
      exact ⟨fun h => ⟨hchecks, h⟩, fun h => h.free⟩

theorem insertCase_spec {c : SupportCase} {db db' : Database}
    (h : insertCase c db = Except.ok ((), db')) :
    db.cases.rows.insert? c = some db'.cases.rows ∧
      db'.cases.events = db.cases.events ∧ Touches Group.cases db db' ∧
      CaseAdmitted db c := by
  rcases insertCase_eq_ok.mp h with ⟨hentry, t, ht, rfl⟩
  exact ⟨ht, rfl, ⟨fun _ => rfl, fun hg => absurd rfl hg, fun _ => rfl, fun _ => rfl, rfl,
    db.ids.extends_refl⟩, refuseCase_eq_none.mp hentry⟩

theorem updateCase_spec {caseId : UUID} {p : SupportCase -> Bool}
    {f : SupportCase -> SupportCase} {db db' : Database}
    (h : updateCase caseId p f db = Except.ok (1, db')) :
    exists r, db.cases.rows.get caseId = some r ∧ p r = true ∧
      db'.cases.rows = db.cases.rows.put (f r) ∧
      db'.cases.events = db.cases.events ∧ Touches Group.cases db db' ∧
      CaseAdmitted db (f r) := by
  rcases updateCase_one.mp h with ⟨r, hget, hp, hentry, rfl⟩
  exact ⟨r, hget, hp, rfl, rfl, ⟨fun _ => rfl, fun hg => absurd rfl hg, fun _ => rfl,
    fun _ => rfl, rfl, db.ids.extends_refl⟩, refuseCase_eq_none.mp hentry⟩

structure CaseEventsWritten (es : List SupportCaseEvent) (db db' : Database) :
    Prop where
  rows : db'.cases.rows = db.cases.rows
  appended : db'.cases.events.rows = db.cases.events.rows ++ es
  unused : forall e, e ∈ es -> forall x, x ∈ db.cases.events.rows ->
    x.idempotencyKey ≠ e.idempotencyKey
  touches : Touches Group.cases db db'

theorem CaseEventsWritten.afterId {id : UUID} {es : List SupportCaseEvent}
    {db db' db'' : Database} (h : CaseEventsWritten es db' db'')
    (hid : Drawn id db db') : CaseEventsWritten es db db'' where
  rows := by rw [h.rows, hid.cases]
  appended := by rw [h.appended, hid.cases]
  unused := by
    have hunused := h.unused
    rw [hid.cases] at hunused
    exact hunused
  touches := (hid.touches _).trans h.touches

theorem insertCaseEvent_spec {e : SupportCaseEvent} {db db' : Database}
    (h : insertCaseEvent e db = Except.ok ((), db')) :
    CaseEventsWritten [e] db db' := by
  rcases insertCaseEvent_eq_ok.mp h with ⟨hunused, t, ht, rfl⟩
  refine ⟨rfl, (Table.insert?_eq_some.mp ht).right, ?_, fun _ => rfl,
    fun hg => absurd rfl hg, fun _ => rfl, fun _ => rfl, rfl, db.ids.extends_refl⟩
  intro d hd
  rw [List.mem_singleton.mp hd]
  exact hunused

/-- The event written, or left out because its key was there. -/
structure EventOnce (e : SupportCaseEvent) (es : List SupportCaseEvent)
    (db : Database) : Prop where
  events : forall d, d ∈ es -> d = e
  single : es.length ≤ 1
  silent : es = [] -> exists x, x ∈ db.cases.events.rows ∧
    x.idempotencyKey = e.idempotencyKey

theorem EventOnce.written (e : SupportCaseEvent) (db : Database) : EventOnce e [e] db :=
  ⟨fun _ hd => List.mem_singleton.mp hd, Nat.le_refl 1, fun h => (by cases h)⟩

theorem insertCaseEventOnce_spec {e : SupportCaseEvent} {db db' : Database}
    (h : insertCaseEventOnce e db = Except.ok ((), db')) :
    exists es, EventOnce e es db ∧ CaseEventsWritten es db db' := by
  simp only [insertCaseEventOnce, Transaction.bind_eq_ok, Transaction.read_eq_ok,
    Transaction.ite_eq_ok, Transaction.pure_eq_ok, Prod.mk.injEq] at h
  rcases h with ⟨_, _, ⟨rfl, rfl⟩, ⟨_, hins⟩ | ⟨hused, _, rfl⟩⟩
  · exact ⟨[e], EventOnce.written e _, insertCaseEvent_spec hins⟩
  · refine ⟨[], ⟨by simp, Nat.zero_le 1, fun _ => ?_⟩, rfl, by simp, by simp,
      Touches.refl _ _⟩
    by_contra hno
    refine hused fun r hr hkey => hno ⟨r, hr, hkey⟩

theorem not_redriveKey {head key : String} (hcolon : ':' ∉ head.toList)
    (hne : head ≠ redriveHead) (h : KeyUnder head key) :
    ¬KeyUnder redriveHead key :=
  fun h' => hne (KeyUnder.head_eq hcolon (by decide) h h')

end RefundAgent
