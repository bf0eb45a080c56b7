import RefundAgent.System.CaseRequests
import RefundAgent.System.Creations
import RefundAgent.System.Permissions
import RefundAgent.System.RefundRequests

/-!
# The service calls of a turn

A turn changes the database through the services only.  Each of its calls of a service is a
run of that call among the transactions of the turn, so it acts at one point like a call
that is made on its own: every transaction of a turn that changes a table is the one write
of a service call.
-/

namespace RefundAgent

open Foundation

/-!
## The services
-/

/-- What the fallback of an unavailable provider has done in one transaction. -/
def MovedToReview (scope : AccessScope) (operationId : UUID) (requestId : String)
    (clock : Nat -> Time) (result : ProviderQueueFailureResult) (db db' : Database) : Prop :=
  exists request n, normalizeRequestId requestId = Except.ok request ∧
    moveOnce scope operationId request (clock n) db = Except.ok (result, db')

/-- The calls of the services, each with what it does in one step. -/
inductive Service : {α : Type} -> Call α -> (α -> Database -> Database -> Prop) -> Prop
  | creation (scope : AccessScope) (request : OrderOperationRequest)
      (snapshot : OrderSnapshot) (decision : OperationDecision) (requestExcerpt : String)
      (clock : Nat -> Time) :
      Service (createPendingOperation scope request snapshot decision requestExcerpt clock)
        (CreatedAt scope request snapshot decision requestExcerpt clock)
  | request (q : CustomerRequest) (scope : AccessScope) (operationId : UUID)
      (requestId : String) (provider : Nat -> Except Failure SubmittedOperation)
      (clock : Nat -> Time) :
      Service (q.call scope operationId requestId provider clock)
        (q.DoneAt scope operationId requestId provider clock)
  | case (q : CaseRequest) (scope : AccessScope) (clock : Nat -> Time) :
      Service (q.call scope clock) (q.DoneAt scope clock)
  | refund (scope : AccessScope) (orderId : String) (now : Time) :
      Service (createRefund scope orderId now) (RefundCreated scope orderId now)
  | fallback (scope : AccessScope) (operationId : UUID) (requestId : String)
      (clock : Nat -> Time) :
      Service (moveToProviderManualReview scope operationId requestId clock)
        (MovedToReview scope operationId requestId clock)

theorem moveAttempts_atomic {scope : AccessScope} {operationId : UUID}
    {requestId request : String} {clock : Nat -> Time}
    (hrequest : normalizeRequestId requestId = Except.ok request) (n : Nat) :
    forall db, Atomic (moveAttempts scope operationId request clock n) db
      (fun _ _ => True) (MovedToReview scope operationId requestId clock) := by
  induction n with
  | zero => exact fun _ => Atomic.raise
  | succ n ih =>
      intro db
      apply Atomic.rescue
      · apply Atomic.transact
        exact fun t _ _ a u hu => Or.inr ⟨request, 2 - n, hrequest, hu⟩
      · -- a failed try is repeated, or the call raises
        intro e q t hq
        unfold moveFailure at hq
        split at hq
        · split at hq
          · cases hq
            exact ih t
          · cases hq
            exact Atomic.raise
        · cases hq
          exact Atomic.raise
        · split at hq
          · cases hq
            exact Atomic.raise
          · cases hq

theorem Service.atomic {α : Type} {p : Call α} {S : α -> Database -> Database -> Prop}
    (h : Service p S) : exists N, forall db, Atomic p db N S := by
  cases h with
  | creation scope request snapshot decision requestExcerpt clock =>
      exact ⟨_, createPendingOperation_atomic⟩
  | request q scope operationId requestId provider clock =>
      exact ⟨_, fun db => q.call_atomic db⟩
  | case q scope clock => exact ⟨_, fun db => q.call_atomic db⟩
  | refund scope orderId now => exact ⟨_, createRefund_atomic⟩
  | fallback scope operationId requestId clock =>
      exact ⟨_, fun db => Atomic.compute fun request hrequest =>
        moveAttempts_atomic hrequest 3 db⟩

/-- The stage is the one write of a service call that the call in the given place has made;
the other transactions of that call have changed no table. -/
def WritesOnce (stages : List (Stage World Event)) (i : Nat) (y : Stage World Event) : Prop :=
  exists (α : Type) (p : Call α) (S : α -> Database -> Database -> Prop) (a : α)
    (x : Stage World Event) (first : List (Stage World Event)),
    Service p S ∧ Makes stages i p x (first ++ [y]) (Except.ok a) ∧
    (forall z, z ∈ first -> SameTables z.before.db z.after.db) ∧
    S a y.before.db y.after.db

/-!
## Composition
-/

/-- A call that changes the database through the services only. -/
structure Composed {α : Type} (p : Call α) : Prop where
  writes : forall {stages : List (Stage World Event)} {w : World} {i : Nat}
    {x : Stage World Event} {own : List (Stage World Event)} {r : Except Failure α},
    World.Runs stages w -> Makes stages i p x own r -> forall y, y ∈ own ->
      SameTables y.before.db y.after.db ∨ WritesOnce stages i y

namespace Composed

variable {α β : Type} {p : Call α}

theorem done (r : Except Failure α) : Composed (Program.done r : Call α) := by
  constructor
  intro stages w i x own r' _ hmade y hy
  have hnone := hmade.returns.of_done.left
  rw [List.map_eq_nil_iff.mp hnone] at hy
  cases hy

theorem pure (a : α) : Composed (Pure.pure a : Call α) :=
  done (Except.ok a)

theorem raise (e : Failure) : Composed (Program.raise e : Call α) :=
  done (Except.error e)

theorem bind {f : α -> Call β} (hp : Composed p) (hf : forall a, Composed (f a)) :
    Composed (p >>= f) := by
  constructor
  intro stages w i x own r hrun hmade y hy
  rcases hmade.of_bind with ⟨a, first, x', rest, rfl, hfirst, hrest⟩ | ⟨e, hfirst, _⟩
  · rcases List.mem_append.mp hy with hy | hy
    · exact hp.writes hrun hfirst y hy
    · exact (hf a).writes hrun hrest y hy
  · exact hp.writes hrun hfirst y hy

theorem rescue {handler : Failure -> Option (Call α)} (hp : Composed p)
    (hcatch : forall e q, handler e = some q -> Composed q) : Composed (p.rescue handler) := by
  constructor
  intro stages w i x own r hrun hmade y hy
  rcases hmade.of_rescue with hmade | ⟨e, q, first, x', rest, rfl, hfirst, hq, hrest⟩
  · exact hp.writes hrun hmade y hy
  · rcases List.mem_append.mp hy with hy | hy
    · exact hp.writes hrun hfirst y hy
    · exact (hcatch e q hq).writes hrun hrest y hy

theorem ite {c : Prop} [Decidable c] {q : Call α} (hp : Composed p) (hq : Composed q) :
    Composed (if c then p else q) := by
  split
  · exact hp
  · exact hq

theorem read {tx : Tx α} (h : Transaction.Keeps Eq tx) :
    Composed (Program.perform tx) := by
  constructor
  intro stages w i x own r _ hmade y hy
  rcases hmade.returns.of_performed with ⟨s, t, hown, hsame⟩
  have hdbs : Stage.dbs y = (s, t) := by
    have hmem := List.mem_map_of_mem (f := Stage.dbs) hy
    rw [hown] at hmem
    exact List.mem_singleton.mp hmem
  have hst : t = s := by
    rcases hsame with ⟨a, htx, _⟩ | ⟨hsame, _⟩
    · exact (h s a t htx).symm
    · exact hsame
  left
  have hafter : y.after.db = y.before.db := by
    rw [show y.after.db = t from congrArg Prod.snd hdbs,
      show y.before.db = s from congrArg Prod.fst hdbs, hst]
  rw [hafter]
  exact SameTables.refl _

theorem service {S : α -> Database -> Database -> Prop} (h : Service p S) : Composed p := by
  constructor
  intro stages w i x own r hrun hmade y hy
  rcases h.atomic with ⟨N, hatomic⟩
  rcases hrun.made_at_one_point hmade hatomic with hanswer | ⟨first, z, a, rfl, rfl, hidle, hdone⟩
  · exact Or.inl (hanswer.idle y hy)
  · rcases List.mem_append.mp hy with hy | hy
    · exact Or.inl (hidle y hy)
    · rw [List.mem_singleton.mp hy]
      exact Or.inr ⟨α, p, S, a, x, first, h, hmade, hidle, hdone⟩

theorem workflow {ν τ : Type} {g : Workflow Database Failure ν τ}
    (hnode : forall n t, Composed (g.node n t)) (visits : Nat) :
    forall n t, Composed (g.run visits n t) := by
  induction visits with
  | zero => exact fun _ _ => raise _
  | succ visits ih =>
      intro n t
      refine bind (hnode n t) fun result => bind (done _) fun successor => ?_
      cases successor with
      | none => exact pure _
      | some destination => exact bind (ih destination result.1) fun _ => pure _

end Composed

/-!
## The nodes
-/

section Nodes

variable {env : Environment}

theorem request_composed (q : CustomerRequest) (scope : AccessScope) (operationId : UUID)
    (requestId : String) (clock : Nat -> Time) :
    Composed (q.call scope operationId requestId
      (fun _ => Except.error Failure.orderNotAccessible) clock) :=
  Composed.service (Service.request q scope operationId requestId _ clock)

theorem queueConfirmedOperation_composed (scope : AccessScope) (operationId : UUID)
    (requestId connectionId : String) (clock : Nat -> Time) :
    Composed (queueConfirmedOperation scope operationId requestId connectionId clock) :=
  request_composed (CustomerRequest.queue connectionId) scope operationId requestId clock

theorem confirmOperation_composed (scope : AccessScope) (operationId : UUID)
    (requestId : String) (clock : Nat -> Time) :
    Composed (confirmOperation scope operationId requestId clock) :=
  request_composed CustomerRequest.confirm scope operationId requestId clock

theorem cancelPendingOperation_composed (scope : AccessScope) (operationId : UUID)
    (requestId : String) (clock : Nat -> Time) :
    Composed (cancelPendingOperation scope operationId requestId clock) :=
  request_composed CustomerRequest.cancel scope operationId requestId clock

theorem attachSupportCase_composed (scope : AccessScope) (operationId caseId : UUID)
    (requestId : String) (clock : Nat -> Time) :
    Composed (attachSupportCase scope operationId caseId requestId clock) :=
  request_composed (CustomerRequest.attach caseId) scope operationId requestId clock

theorem recordHandoff_composed (scope : AccessScope) (trigger : CaseTrigger)
    (decision : HandoffDecision) (clock : Nat -> Time) :
    Composed (recordHandoff scope trigger decision clock) :=
  Composed.service (Service.case (CaseRequest.handoff trigger decision) scope clock)

theorem recordDeliveryInvestigation_composed (scope : AccessScope) (trigger : CaseTrigger)
    (decision : HandoffDecision) (issueType : DeliveryIssueType) (connectionId : String)
    (clock : Nat -> Time) :
    Composed (recordDeliveryInvestigation scope trigger decision issueType connectionId
      clock) :=
  Composed.service
    (Service.case (CaseRequest.delivery trigger decision issueType connectionId) scope clock)

theorem stays_composed {ν : Type} {p : Call RefundState} (h : Composed p) :
    Composed (stays p : Call (RefundState × Option ν)) :=
  h.bind fun _ => Composed.pure _

theorem persistOrRespond_composed (s : RefundState) (request : OrderOperationRequest)
    (snapshot : OrderSnapshot) (decision : OperationDecision) (excerpt : String) :
    Composed (persistOrRespond env s request snapshot decision excerpt) := by
  unfold persistOrRespond
  refine Composed.ite (Composed.bind (Composed.done _) fun scope => ?_) (Composed.pure _)
  refine Composed.bind (Composed.service (Service.creation scope request snapshot decision
    excerpt _)) fun result => ?_
  exact Composed.ite (Composed.pure _) (Composed.pure _)

theorem evaluateOperationRequest_composed (s : RefundState) :
    Composed (evaluateOperationRequest env s) := by
  unfold evaluateOperationRequest
  split
  · exact Composed.raise _
  · refine Composed.ite (Composed.pure _) ?_
    split
    · exact Composed.raise _
    · refine Composed.bind (Composed.done _) fun metadata => ?_
      split
      · exact Composed.done _
      · unfold evaluateOrderOperation
        refine Composed.bind (Composed.done _) fun scope => ?_
        split
        · exact Composed.pure _
        · refine Composed.bind (Composed.done _) fun request => ?_
          refine Composed.bind (Composed.done _) fun availability => ?_
          refine Composed.bind (Composed.done _) fun decision => ?_
          exact persistOrRespond_composed s request _ decision _

theorem submitConfirmedOperationNode_composed (s : RefundState) :
    Composed (submitConfirmedOperationNode env s) := by
  unfold submitConfirmedOperationNode
  refine Composed.bind (Composed.done _) fun operationId => ?_
  apply Composed.rescue
  · refine Composed.bind (Composed.done _) fun scope => ?_
    refine Composed.bind (Composed.done _) fun connectionId => ?_
    exact Composed.bind (queueConfirmedOperation_composed _ _ _ _ _) fun _ => Composed.pure _
  · -- the fallback for a provider without a connection
    intro e q hq
    split at hq
    · cases hq
      refine Composed.bind (Composed.done _) fun scope => ?_
      exact Composed.bind (Composed.service (Service.fallback scope operationId _ _))
        fun _ => Composed.pure _
    · cases hq

theorem operationNode_composed (n : OperationNode) (s : RefundState) :
    Composed (operationNode env n s) := by
  cases n with
  | detectOperationOrder => exact stays_composed (Composed.pure _)
  | loadOperationSnapshot => exact stays_composed (Composed.done _)
  | extractOperationRequest => exact stays_composed (Composed.pure _)
  | evaluateOperationRequest => exact stays_composed (evaluateOperationRequest_composed s)
  | operationConfirmation => exact Composed.bind (Composed.done _) fun _ => Composed.pure _
  | submitConfirmedOperation =>
      exact stays_composed (submitConfirmedOperationNode_composed s)
  | confirmManualOperation =>
      refine stays_composed (Composed.bind (Composed.done _) fun operationId => ?_)
      refine Composed.bind (Composed.done _) fun scope => ?_
      exact Composed.bind (confirmOperation_composed _ _ _ _) fun _ => Composed.pure _
  | cancelOperation =>
      refine stays_composed (Composed.bind (Composed.done _) fun operationId => ?_)
      refine Composed.bind (Composed.done _) fun scope => ?_
      exact Composed.bind (cancelPendingOperation_composed _ _ _ _) fun _ => Composed.pure _
  | confirmDeliveryInvestigation => exact stays_composed (Composed.pure _)
  | cancelDeliveryInvestigation => exact stays_composed (Composed.pure _)

theorem openInvestigation_composed (s : RefundState) (scope : AccessScope)
    (trigger : CaseTrigger) (decision : HandoffDecision) (issueType : DeliveryIssueType) :
    Composed (openInvestigation env s scope trigger decision issueType) := by
  unfold openInvestigation
  split
  · exact Composed.bind (recordDeliveryInvestigation_composed _ _ _ _ _ _)
      fun _ => Composed.pure _
  · refine Composed.ite ?_ (Composed.raise _)
    exact Composed.bind (recordHandoff_composed _ _ _ _) fun _ => Composed.pure _

theorem finalizeCaseHandoff_composed (s : RefundState) :
    Composed (finalizeCaseHandoff env s) := by
  unfold finalizeCaseHandoff
  refine Composed.ite (Composed.pure _) (Composed.bind (Composed.done _) fun input => ?_)
  refine Composed.ite ?_ (Composed.pure _)
  unfold recordDecision
  refine Composed.bind (Composed.done _) fun trigger => ?_
  refine Composed.bind (Composed.done _) fun scope => ?_
  refine Composed.ite ?_ (Composed.bind (Composed.done _) fun issueType => ?_)
  · exact Composed.bind (recordHandoff_composed _ _ _ _) fun _ => Composed.pure _
  · exact openInvestigation_composed s scope trigger _ issueType

theorem attachOperationCase_composed (s : RefundState) :
    Composed (attachOperationCase env s) := by
  unfold attachOperationCase
  split
  · refine Composed.ite (Composed.pure _) (Composed.ite (Composed.pure _) ?_)
    refine Composed.bind (Composed.done _) fun scope => ?_
    exact Composed.bind (attachSupportCase_composed _ _ _ _ _) fun _ => Composed.pure _
  · exact Composed.pure _

theorem createRefundNode_composed (s : RefundState) : Composed (createRefundNode env s) := by
  unfold createRefundNode
  split
  · exact Composed.pure _
  · rename_i orderId _
    refine Composed.bind (Composed.done _) fun scope => ?_
    refine Composed.bind (Composed.service (Service.refund scope orderId.text _))
      fun created => ?_
    exact Composed.ite (Composed.pure _) (Composed.pure _)

theorem listThreadCases_reads (scope : AccessScope) (threadId : CleanText) :
    Transaction.Keeps Eq (listThreadCases scope threadId) := by
  have hrefl : forall db : Database, db = db := fun _ => rfl
  have htrans : forall s t u : Database, s = t -> t = u -> s = u := fun _ _ _ h h' => h.trans h'
  have hvisible : Transaction.Keeps Eq (visibleCases scope) :=
    fun _ _ _ h => (visibleCases_eq_ok h).symm
  refine Transaction.Keeps.bind htrans hvisible fun _ => ?_
  refine Transaction.Keeps.bind htrans (Transaction.Keeps.read hrefl _) fun page => ?_
  refine Transaction.Keeps.forEach hrefl htrans ?_ page
  exact fun row db c db' h => (caseFromRow_eq_ok.mp h).right.right

theorem supportCaseStatusNode_composed (s : RefundState) :
    Composed (supportCaseStatusNode env s) := by
  unfold supportCaseStatusNode
  split
  · exact Composed.pure _
  · refine Composed.bind (Composed.done _) fun scope => ?_
    refine Composed.bind (Composed.done _) fun thread => ?_
    refine Composed.bind (Composed.read (listThreadCases_reads scope thread)) fun cases => ?_
    exact Composed.ite (Composed.pure _) (Composed.pure _)

theorem graphNode_composed (n : Node) (s : RefundState) : Composed (graphNode env n s) := by
  cases n with
  | confirmHumanHandoff => exact Composed.bind (Composed.done _) fun _ => Composed.pure _
  | confirmOrderPriority => exact Composed.bind (Composed.done _) fun _ => Composed.pure _
  | searchNode => exact stays_composed (Composed.done _)
  | orderResponse => exact stays_composed (Composed.done _)
  | approvalNode => exact Composed.pure _
  | proceed => exact stays_composed (createRefundNode_composed s)
  | supportCaseStatus => exact stays_composed (supportCaseStatusNode_composed s)
  | operationSubflow =>
      exact stays_composed (Composed.bind
        (Composed.workflow operationNode_composed recursionLimit _ s) fun _ => Composed.pure _)
  | finalizeCaseHandoff => exact stays_composed (finalizeCaseHandoff_composed s)
  | attachOperationCase => exact stays_composed (attachOperationCase_composed s)
  | _ => exact stays_composed (Composed.pure _)

end Nodes

/--
A turn writes through its service calls.  In every run, each transaction of a turn that has
ended changes no table, or it is the one write of a call of a service: the stages of that
call follow one another among those of the turn, none of the others has changed a table, and
the write is what the service does in one step to the database that it meets.
-/
theorem turn_writes_at_one_point {stages : List (Stage World Event)} {w : World}
    (h : World.Runs stages w) {x y : Stage World Event} (hx : x ∈ stages) (hy : y ∈ stages)
    {i : Nat} {env : Environment} {s : RefundState}
    {r : Except Failure (List Node × RefundState)} (hbegins : Begins i (turn env s) x)
    (hended : w.Ended i r) (hadvances : Advances i y) :
    SameTables y.before.db y.after.db ∨ WritesOnce stages i y :=
  (Composed.workflow graphNode_composed recursionLimit _ s).writes h
    (h.makes hx hbegins hended) y (mem_ownStages.mpr ⟨hy, hadvances⟩)

theorem World.Step.advances {w w' : World} (h : World.Step w Event.advance w') :
    exists k, k < w.calls.length ∧ Advances k ⟨w, Event.advance, w'⟩ := by
  cases h with
  | @advance α p q db' before after hcalls hadvance =>
      refine ⟨before.length, by rw [hcalls]; simp, ⟨α, p⟩, ?_, ?_⟩
      · show w.calls[before.length]? = _
        rw [hcalls]
        simp
      · show (before ++ ⟨α, q⟩ :: after)[before.length]? ≠ _
        rw [List.getElem?_append_right (Nat.le_refl _), Nat.sub_self]
        intro hsame
        have hsame : (⟨α, q⟩ : Running) = ⟨α, p⟩ := Option.some.inj hsame
        cases hsame
        exact hadvance.ne rfl

/-- A call that is alone in the system makes every change of the database by itself. -/
theorem World.Runs.serve_writes {stages : List (Stage World Event)} {w : World}
    (h : World.Runs stages w) (hidle : w.calls = []) {α : Type} {p : Call α}
    (hp : Method AnyDecision p) {P : Database -> Prop} (hbefore : ¬P w.db)
    (hafter : P (p.run w.db).2) :
    exists all x y, World.Runs all (w.serve p) ∧ x ∈ all ∧ Begins 0 p x ∧
      (w.serve p).Ended 0 (p.run w.db).1 ∧ y ∈ all ∧ Advances 0 y ∧ ¬P y.before.db ∧
      P y.after.db := by
  rcases h.serve_entered hp with ⟨_, _, _, _, _, hended⟩
  rw [hidle] at hended
  rcases h with ⟨ids, hrun⟩
  rcases World.run_calls p { w with calls := w.calls ++ [⟨α, p⟩] } w.calls [] rfl with
    ⟨more, hmore, hevents⟩
  have hall : World.Runs (stages ++ ⟨w, Event.start, { w with calls := w.calls ++ [⟨α, p⟩] }⟩ ::
      more) (w.serve p) := ⟨ids, hrun.append (Run.cons (World.Step.start hp) hmore)⟩
  have hsteps : forall y, y ∈ more -> World.Step y.before y.event y.after := fun y hy =>
    (hall.good.right y (List.mem_append_right _ (List.mem_cons_of_mem _ hy))).step
  have hlength := hmore.relates (R := fun w w' => w.calls.length ≤ w'.calls.length)
    (fun _ => Nat.le_refl _) (fun h h' => Nat.le_trans h h')
    (fun y hy => (hsteps y hy).calls_length)
  rcases hmore.introduced (P := fun w => P w.db) hbefore hafter with ⟨y, hy, hfrom, hto⟩
  refine ⟨_, ⟨w, Event.start, { w with calls := w.calls ++ [⟨α, p⟩] }⟩, y, hall,
    List.mem_append_right _ List.mem_cons_self, ⟨by rw [hidle]; rfl, by simp [hidle]⟩, hended,
    List.mem_append_right _ (List.mem_cons_of_mem _ hy), ?_, hfrom, hto⟩
  have hstep := hsteps y hy
  rw [hevents y hy] at hstep
  rcases hstep.advances with ⟨k, hk, hadvances⟩
  have hplaces : (w.serve p).calls.length = 1 := by
    rw [World.serve_length, hidle]
    rfl
  have hfirst : k = 0 := by
    have hbound := (hlength.right y hy).right
    have hgrown := hstep.calls_length
    have hserved : (w.serve p).calls.length = _ := hplaces
    have hbound : y.after.calls.length ≤ (w.serve p).calls.length := hbound
    omega
  rw [hfirst] at hadvances
  exact hadvances

/-- The turn in which the customer asks for a cancellation creates its operation so. -/
theorem turn_writes_at_one_point_sample : exists stages w y, World.Runs stages w ∧
    y ∈ stages ∧ y.before.db.operations.rows.rows = [] ∧ WritesOnce stages 0 y := by
  have hrows : ((turn sampleEnvironment (RefundState.start sampleMessages)).run
      (World.initial sampleIds).db).2.operations.rows.rows.length = 1 := by
    decide +kernel
  have hstart : World.Runs [] (World.initial sampleIds) := ⟨sampleIds, Run.nil _⟩
  have hempty : (World.initial sampleIds).db.operations.rows.rows = [] := rfl
  have hidle : (World.initial sampleIds).calls = [] := rfl
  generalize World.initial sampleIds = w at hrows hstart hempty hidle
  rcases hstart.serve_writes hidle (Method.turn sampleEnvironment
    (RefundState.start sampleMessages)) (P := fun db => db.operations.rows.rows ≠ [])
    (fun h => h hempty) (fun h => by rw [h] at hrows; cases hrows) with
    ⟨all, x, y, hrun, hx, hbegins, hended, hy, hadvances, hbefore, hafter⟩
  refine ⟨all, _, y, hrun, hy, Classical.not_not.mp hbefore, ?_⟩
  rcases turn_writes_at_one_point hrun hx hy hbegins hended hadvances with hsame | hwrites
  · -- a transaction that changes no table has added no operation
    rw [hsame.operations] at hafter
    exact absurd hafter hbefore
  · exact hwrites

end RefundAgent
