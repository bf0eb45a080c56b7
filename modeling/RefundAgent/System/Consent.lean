import RefundAgent.System.RefundGrants
import RefundAgent.System.Submission
import RefundAgent.System.WorkerFootprint

/-!
# Consent on record

The whole application: turns of the chat, requests of the staff, and the workers with the
webhook receiver, in any order.  Whatever stands in the tables at the end, a
confirmation, a provider command or a refund request was put there by a turn, and the
customer of that turn had agreed to it.
-/

namespace RefundAgent

open Foundation

/-!
## The application
-/

inductive StaffRequest : {α : Type} -> Call α -> Prop
  | changeStatus (scope : AccessScope) (caseId : UUID) (targetStatus : CaseStatus)
      (requestId : String) (onHoldReason : Option OnHoldReason)
      (clock : Nat -> Time) :
      StaffRequest (changeStatus scope caseId targetStatus requestId onHoldReason clock)
  | assignCase (scope : AccessScope) (directory : IdentityDirectory) (caseId : UUID)
      (agentId requestId : String) (clock : Nat -> Time) :
      StaffRequest (assignCase scope directory caseId agentId requestId clock)
  | redriveOutbox (scope : AccessScope) (commandId : UUID)
      (request : ProviderRedriveRequest) (missed : Bool) (clock : Nat -> Time) :
      StaffRequest (redriveOutbox scope commandId request missed clock)
  | redriveInbox (scope : AccessScope) (inboxId : UUID)
      (request : ProviderRedriveRequest) (missed : Bool) (clock : Nat -> Time) :
      StaffRequest (redriveInbox scope inboxId request missed clock)

/-- The parts that are open to the staff. -/
def staffParts : List Part :=
  [Part.operations, Part.cases, Part.outbox, Part.inbox]

theorem StaffRequest.confined {α : Type} {p : Call α} (h : StaffRequest p) :
    Confined staffParts p Anything := by
  have hcases : Part.cases ∈ staffParts := by decide
  have hoperations : Part.operations ∈ staffParts := by decide
  have houtbox : Part.outbox ∈ staffParts := by decide
  have hinbox : Part.inbox ∈ staffParts := by decide
  cases h with
  | changeStatus => exact changeStatus_confined hcases _ _ _ _ _ _
  | assignCase => exact assignCase_confined hcases _ _ _ _ _ _
  | redriveOutbox => exact redriveOutbox_confined houtbox hcases hoperations _ _ _ _ _
  | redriveInbox => exact redriveInbox_confined hinbox _ _ _ _ _

/-- The calls that begin are turns and requests of the staff. -/
def OfApplication (x : Stage World Event) : Prop :=
  x.event = Event.start -> (exists env s, StartsTurn x env s) ∨
    exists α, exists p : Call α, StaffRequest p ∧
      x.after.calls = x.before.calls ++ [⟨α, p⟩]

/-!
## Where a call has begun
-/

theorem begins_of_append {x : Stage World Event} {α : Type} {p : Call α}
    (h : x.after.calls = x.before.calls ++ [⟨α, p⟩]) :
    Begins x.before.calls.length p x := by
  refine ⟨rfl, ?_⟩
  rw [h, List.getElem?_append_right (Nat.le_refl _), Nat.sub_self]
  rfl

theorem World.perform_calls (w : World) (j : Job) : (w.perform j).calls = w.calls := by
  unfold World.perform
  cases j.transaction w.db with
  | ok r => rfl
  | error e => rfl

theorem World.Step.grows {w w' : World} {e : Event} (h : World.Step w e w') :
    w'.calls.length = w.calls.length ∨
      e = Event.start ∧ w'.calls.length = w.calls.length + 1 := by
  cases h with
  | @job j hadmissible =>
      left
      rw [w.perform_calls]
  | start hmethod => exact Or.inr ⟨rfl, List.length_append⟩
  | advance heq hadvance =>
      left
      rw [heq, List.length_append, List.length_append]
      rfl

theorem World.places_begun {ids : Supply} {stages : List (Stage World Event)} {w : World}
    (h : Run World.Step (World.initial ids) stages w) {i : Nat}
    (hi : i < w.calls.length) :
    exists x, x ∈ stages ∧ x.event = Event.start ∧ x.before.calls.length = i := by
  have hkept := h.history (C := fun _ => True) (l := [])
    (I := fun past w => forall i, i < w.calls.length ->
      exists x, x ∈ past ∧ x.event = Event.start ∧ x.before.calls.length = i)
    ?_ (fun i hi => absurd hi (Nat.not_lt_zero i)) (fun _ _ => trivial)
  · exact hkept i hi
  · intro past x _ hstep hpast i hi
    rcases Nat.lt_or_ge i x.before.calls.length with hlt | hge
    · rcases hpast i hlt with ⟨y, hy, hrest⟩
      exact ⟨y, List.mem_append_left _ hy, hrest⟩
    · rcases hstep.grows with hsame | ⟨hstart, hgrown⟩
      · rw [hsame] at hi
        exact absurd hi (Nat.not_lt_of_le hge)
      · rw [hgrown] at hi
        exact ⟨x, List.mem_append_right _ (List.mem_singleton_self _), hstart,
          Nat.le_antisymm hge (Nat.lt_succ_iff.mp hi)⟩

theorem World.Runs.begun {stages : List (Stage World Event)} {w : World}
    (h : World.Runs stages w) {y : Stage World Event} (hy : y ∈ stages) {i : Nat}
    (hadv : Advances i y) :
    exists x, x ∈ stages ∧ x.event = Event.start ∧ x.before.calls.length = i := by
  rcases h with ⟨ids, hrun⟩
  rcases List.append_of_mem hy with ⟨past, rest, rfl⟩
  rcases hadv with ⟨r, hr, _⟩
  have hi : i < y.before.calls.length := (List.getElem?_eq_some_iff.mp hr).choose
  rcases World.places_begun hrun.split.left hi with ⟨x, hx, hrest⟩
  exact ⟨x, List.mem_append_left _ hx, hrest⟩

/-!
## Who changes what the customer has agreed to
-/

/-- Only a turn changes these. -/
def Part.agreed : Part -> Prop
  | confirmations => True
  | commands => True
  | refunds => True
  | _ => False

structure TurnStage (stages : List (Stage World Event)) (y : Stage World Event)
    (i : Nat) (x : Stage World Event) (env : Environment) (s : RefundState) : Prop where
  start : x ∈ stages
  starts : StartsTurn x env s
  begins : Begins i (turn env s) x
  stage : y ∈ stages
  advances : Advances i y

theorem Part.same_refl (part : Part) (db : Database) : part.Same db db :=
  Respects.refl (F := []) db part (List.not_mem_nil)

theorem World.Step.agreed {w w' : World} {e : Event} (h : World.Step w e w')
    {part : Part} (hpart : part.agreed) (hchanged : ¬part.Same w.db w'.db) :
    exists i : Nat, exists r : Running, w.calls[i]? = some r ∧ w'.calls[i]? ≠ some r := by
  cases h with
  | @job j hadmissible =>
      exfalso
      apply hchanged
      refine w.perform_respects j part ?_
      rcases j.parts_spare with ⟨hconfirms, hcommands, hrefunds⟩
      cases part with
      | confirmations => exact hconfirms
      | commands => exact hcommands
      | refunds => exact hrefunds
      | _ => cases hpart
  | start hmethod => exact absurd (part.same_refl _) hchanged
  | @advance α p q db' before after heq hadvance =>
      refine ⟨before.length, ⟨α, p⟩, ?_, ?_⟩
      · rw [heq, List.getElem?_append_right (Nat.le_refl _), Nat.sub_self]
        rfl
      · show (before ++ ⟨α, q⟩ :: after)[before.length]? ≠ _
        rw [List.getElem?_append_right (Nat.le_refl _), Nat.sub_self]
        intro hpq
        cases hpq
        exact hadvance.ne rfl

theorem World.Runs.agreed_by_turn {stages : List (Stage World Event)} {w : World}
    (h : World.Runs stages w) (happ : forall x, x ∈ stages -> OfApplication x)
    (part : Part) (hpart : part.agreed) {y : Stage World Event} (hy : y ∈ stages)
    (hchanged : ¬part.Same y.before.db y.after.db) :
    exists i x env s, TurnStage stages y i x env s := by
  rcases (h.good.right y hy).step.agreed hpart hchanged with ⟨i, hadv⟩
  rcases h.begun hy hadv with ⟨x, hx, hevent, rfl⟩
  rcases happ x hx hevent with ⟨env, s, hstart⟩ | ⟨α, p, hstaff, hstart⟩
  · exact ⟨_, x, env, s, hx, hstart, begins_of_append hstart.begun, hy, hadv⟩
  · exfalso
    apply hchanged
    refine h.respects hx (begins_of_append hstart) hstaff.confined hy hadv part ?_
    cases part with
    | confirmations => decide
    | commands => decide
    | refunds => decide
    | _ => cases hpart

/-!
## What stands in the tables
-/

section Records

variable {stages : List (Stage World Event)} {w : World}

theorem TurnStage.agreed {y x : Stage World Event} {i : Nat} {env : Environment}
    {s : RefundState} (h : World.Runs stages w) (hturn : TurnStage stages y i x env s)
    {part : Part} (hpart : part = Part.confirmations ∨ part = Part.commands)
    (hchanged : ¬part.Same y.before.db y.after.db) :
    env.operationConfirmation = ResumeValue.bool true := by
  by_contra hno
  apply hchanged
  have hF : env.Permits [Part.cases, Part.operations, Part.refunds] :=
    ⟨by decide, by decide, fun hyes => absurd hyes hno⟩
  refine h.respects hturn.start hturn.begins (turn_confined hF (fun _ => by decide) s)
    hturn.stage hturn.advances part ?_
  rcases hpart with rfl | rfl
  · decide
  · decide

/--
Whatever command stands in the outbox, a turn whose customer had said yes to the
operation has queued it; and whatever confirmation stands in the event log, such a turn
has recorded it.
-/
theorem agreement_on_record (h : World.Runs stages w)
    (happ : forall x, x ∈ stages -> OfApplication x) :
    (forall m, m ∈ w.db.outbox.messages.rows -> exists i x y env s,
      TurnStage stages y i x env s ∧ m.commandId ∉ y.before.db.commands ∧
        m.commandId ∈ y.after.db.commands ∧
        env.operationConfirmation = ResumeValue.bool true) ∧
    forall e, e ∈ w.db.operations.events.rows ->
      e.eventType = OperationEventType.confirmationRecorded -> exists i x y env s,
        TurnStage stages y i x env s ∧ e ∉ y.before.db.operations.events.rows ∧
          e ∈ y.after.db.operations.events.rows ∧
          env.operationConfirmation = ResumeValue.bool true := by
  rcases id h with ⟨ids, hrun⟩
  constructor
  · intro m hm
    rcases hrun.introduced (P := fun w => m.commandId ∈ w.db.commands)
      (fun hnone => by cases hnone) (List.mem_map_of_mem hm) with ⟨y, hy, hbefore, hafter⟩
    have hchanged : ¬Part.commands.Same y.before.db y.after.db := by
      intro hsame
      have hsame : y.after.db.commands = y.before.db.commands := hsame
      rw [hsame] at hafter
      exact hbefore hafter
    rcases h.agreed_by_turn happ Part.commands trivial hy hchanged with
      ⟨i, x, env, s, hturn⟩
    exact ⟨i, x, y, env, s, hturn, hbefore, hafter,
      hturn.agreed h (Or.inr rfl) hchanged⟩
  · intro e he hkind
    rcases hrun.introduced (P := fun w => e ∈ w.db.operations.events.rows)
      (fun hnone => by cases hnone) he with ⟨y, hy, hbefore, hafter⟩
    have hchanged : ¬Part.confirmations.Same y.before.db y.after.db := by
      intro hsame
      have hsame : y.after.db.confirmations = y.before.db.confirmations := hsame
      have hconfirms : e ∈ y.after.db.confirmations :=
        List.mem_filter.mpr ⟨hafter, decide_eq_true hkind⟩
      rw [hsame] at hconfirms
      exact hbefore (List.mem_filter.mp hconfirms).left
    rcases h.agreed_by_turn happ Part.confirmations trivial hy hchanged with
      ⟨i, x, env, s, hturn⟩
    exact ⟨i, x, y, env, s, hturn, hbefore, hafter,
      hturn.agreed h (Or.inl rfl) hchanged⟩

/--
Whatever stands in the refund table, a turn has granted it: on a delivered order of its
own customer, unrefunded, at most seven days old and under the limit, and approved by
the customer.
-/
theorem refund_was_granted (h : World.Runs stages w)
    (happ : forall x, x ∈ stages -> OfApplication x) {r : RefundRequest}
    (hr : r ∈ w.db.refunds.rows) :
    exists i x y env s, TurnStage stages y i x env s ∧ r ∉ y.before.db.refunds.rows ∧
      r ∈ y.after.db.refunds.rows ∧ env.Grants r ∧
      exists number record, env.orders number = some record ∧
        record.ownerCustomerId = r.customerId.text ∧
        record.tenantId = r.tenantId.text ∧ record.orderId = r.orderId := by
  rcases id h with ⟨ids, hrun⟩
  rcases hrun.introduced (P := fun w => r ∈ w.db.refunds.rows)
    (fun hnone => by cases hnone) hr with ⟨y, hy, hbefore, hafter⟩
  have hchanged : ¬Part.refunds.Same y.before.db y.after.db := by
    intro hsame
    have hsame : y.after.db.refunds = y.before.db.refunds := hsame
    rw [hsame] at hafter
    exact hbefore hafter
  rcases h.agreed_by_turn happ Part.refunds trivial hy hchanged with
    ⟨i, x, env, s, hturn⟩
  have hgrants : env.Grants r := by
    rcases h.own hturn.start hturn.begins (turn_grants env s) hturn.stage
      hturn.advances with hsame | ⟨γ, tx, c, htx, hrun⟩
    · rw [hsame] at hafter
      exact absurd hafter hbefore
    · rcases htx _ c _ hrun r hafter with hold | hgrants
      · exact absurd hold hbefore
      · exact hgrants
  rcases hgrants.order with ⟨order, horder, hfound, hrefundable⟩
  rcases hfound.owned with ⟨number, record, hnumber, hcustomer, htenant, hid⟩
  exact ⟨i, x, y, env, s, hturn, hbefore, hafter, hgrants, number, record, hnumber,
    hcustomer, htenant, hid.trans horder⟩

end Records

/-!
## Examples

One turn in which the customer says yes to a cancellation, and one in which the customer
approves the refund of an order that was delivered two days ago.
-/

theorem OfTurns.application {x : Stage World Event} (h : OfTurns x) : OfApplication x :=
  fun hstart => Or.inl (h hstart)

def sampleRefunding : Environment :=
  { sampleEnvironment with
    route := { step := Intent.refundRequest, humanHandoffRequested := false }
    refundApproval := ResumeValue.bool true
    orders := fun _ => some
      { orderId := sampleOrder.orderId
        productName := "lamp"
        status := "delivered"
        deliveryDaysAgo := some 2
        amount := 4999
        refunded := false
        ownerCustomerId := sampleUserText.text
        tenantId := sampleTenantText.text } }

theorem agreement_on_record_sample :
    exists stages w m, World.Runs stages w ∧ m ∈ w.db.outbox.messages.rows ∧
      exists i x y env s, TurnStage stages y i x env s ∧
        m.commandId ∉ y.before.db.commands ∧ m.commandId ∈ y.after.db.commands ∧
        env.operationConfirmation = ResumeValue.bool true := by
  have hstart : World.Runs [] (World.initial sampleIds) := ⟨sampleIds, Run.nil _⟩
  rcases hstart.turn (fun x hx => by cases hx) sampleEnvironment
    (RefundState.start sampleMessages) with ⟨more, hrun, hturns⟩
  have hrows : ((World.initial sampleIds).serve (turn sampleEnvironment
      (RefundState.start sampleMessages))).db.outbox.messages.rows ≠ [] := by
    decide +kernel
  generalize (World.initial sampleIds).serve _ = w at hrun hrows
  rcases List.exists_mem_of_ne_nil _ hrows with ⟨m, hm⟩
  have hrecord := agreement_on_record hrun fun x hx => (hturns x hx).application
  exact ⟨_, w, m, hrun, hm, hrecord.left m hm⟩

theorem refund_was_granted_sample :
    exists stages w r, World.Runs stages w ∧ r ∈ w.db.refunds.rows ∧
      exists i x y env s, TurnStage stages y i x env s ∧ env.Grants r := by
  have hstart : World.Runs [] (World.initial sampleIds) := ⟨sampleIds, Run.nil _⟩
  rcases hstart.turn (fun x hx => by cases hx) sampleRefunding
    (RefundState.start sampleMessages) with ⟨more, hrun, hturns⟩
  have hrows : ((World.initial sampleIds).serve (turn sampleRefunding
      (RefundState.start sampleMessages))).db.refunds.rows ≠ [] := by
    decide +kernel
  generalize (World.initial sampleIds).serve _ = w at hrun hrows
  rcases List.exists_mem_of_ne_nil _ hrows with ⟨r, hr⟩
  rcases refund_was_granted hrun (fun x hx => (hturns x hx).application) hr with
    ⟨i, x, y, env, s, hturn, _, _, hgrants, _⟩
  exact ⟨_, w, r, hrun, hr, i, x, y, env, s, hturn, hgrants⟩

end RefundAgent
