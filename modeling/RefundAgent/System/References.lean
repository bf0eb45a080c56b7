import RefundAgent.System.CallbackOrder
import RefundAgent.System.Delivery

/-!
# References of the provider

An operation carries at most one reference of the provider.  It is empty as long
as the provider has not answered, so the finalizer of the outbox, which assigns
the reference of the answer without looking, never overwrites one.  Callbacks are
compared with it, and may fill it in.
-/

namespace RefundAgent

open Foundation

/-!
## Written once
-/

/-- An operation that the provider has not answered has no reference. -/
def Unreferenced (t : OperationTables) : Prop :=
  forall o, o ∈ t.rows.rows -> o.status.unanswered -> o.providerReference = none

/-- A reference is left alone, or rewritten as the model reads it. -/
def Restated (r r' : String) : Prop :=
  r' = r ∨ r' = Text.trim r

theorem Restated.trans {r s t : String} (h : Restated r s) (h' : Restated s t) :
    Restated r t := by
  rcases h with rfl | rfl
  · exact h'
  · rcases h' with rfl | rfl
    · exact Or.inr rfl
    · exact Or.inr (Text.trim_trim r)

theorem Restated.trim {r r' : String} (h : Restated r r') : Text.trim r' = Text.trim r := by
  rcases h with rfl | rfl
  · rfl
  · exact Text.trim_trim r

theorem OperationStep.unreferenced {l : OperationLabel} {t u : OperationTables}
    (h : OperationStep l t u) (ht : Unreferenced t) : Unreferenced u := by
  cases h with
  | keep => exact ht
  | @create _ rows _ o e insert free appended unused new =>
      intro x hx hopen
      have hx : x ∈ rows.rows := hx
      rw [(Table.insert?_eq_some.mp insert).right] at hx
      rcases List.mem_append.mp hx with hold | hnew
      · exact ht x hold hopen
      · rw [List.mem_singleton.mp hnew]
        exact new.reference
  | update get free appended unused change =>
      intro x hx hopen
      rcases Table.mem_put hx with rfl | ⟨hold, _⟩
      · rcases change.reference.blank hopen with ⟨hbefore, hblank⟩
        exact hblank (ht _ (Table.mem_of_get get) hbefore)
      · exact ht x hold hopen

theorem OperationStep.restated {l : OperationLabel} {t u : OperationTables}
    (h : OperationStep l t u) (ht : Unreferenced t) {id : UUID} {o : OrderOperation}
    {r : String} (hget : t.rows.get id = some o) (hr : o.providerReference = some r) :
    exists o' r', u.rows.get id = some o' ∧ o'.providerReference = some r' ∧
      Restated r r' := by
  rcases h.get_cases hget with hsame | ⟨w, o', es, rfl, hnew, _⟩
  · exact ⟨o, r, hsame, hr, Or.inl rfl⟩
  · rcases h.updated.change.reference.kept with hopen | hnone | hkept | hkept
    · rw [ht o (Table.mem_of_get hget) hopen] at hr
      cases hr
    · rw [hnone] at hr
      cases hr
    · exact ⟨o', r, hnew, hkept.trans hr, Or.inl rfl⟩
    · rw [hr] at hkept
      exact ⟨o', Text.trim r, hnew, hkept, Or.inr rfl⟩

/-- The references of one state, found again in another. -/
def ReferencesKept (w w' : World) : Prop :=
  forall id o r, w.db.operations.rows.get id = some o -> o.providerReference = some r ->
    exists o' r', w'.db.operations.rows.get id = some o' ∧
      o'.providerReference = some r' ∧ Restated r r'

theorem ReferencesKept.refl (w : World) : ReferencesKept w w :=
  fun _ o r hget hr => ⟨o, r, hget, hr, Or.inl rfl⟩

theorem ReferencesKept.trans {w w' w'' : World} (h : ReferencesKept w w')
    (h' : ReferencesKept w' w'') : ReferencesKept w w'' := by
  intro id o r hget hr
  rcases h id o r hget hr with ⟨o₁, r₁, hget₁, hr₁, hsame⟩
  rcases h' id o₁ r₁ hget₁ hr₁ with ⟨o₂, r₂, hget₂, hr₂, hsame'⟩
  exact ⟨o₂, r₂, hget₂, hr₂, hsame.trans hsame'⟩

theorem GoodStage.unreferenced {x : Stage World Event} (h : GoodStage x)
    (hx : Unreferenced x.before.db.operations) : Unreferenced x.after.db.operations :=
  h.did.moves.preserves (I := fun db => Unreferenced db.operations)
    (fun _ _ _ _ hmove hdb => hmove.operation.unreferenced hdb) hx

theorem GoodStage.referencesKept {x : Stage World Event} (h : GoodStage x)
    (hx : Unreferenced x.before.db.operations) : ReferencesKept x.before x.after := by
  intro id o r hget hr
  have hkept := h.did.moves.preserves
    (I := fun db => Unreferenced db.operations ∧
      exists o' r', db.operations.rows.get id = some o' ∧
        o'.providerReference = some r' ∧ Restated r r') ?_ ⟨hx, o, r, hget, hr, Or.inl rfl⟩
  · exact hkept.right
  · rintro l db db' - hmove ⟨hdb, o₁, r₁, hget₁, hr₁, hsame⟩
    refine ⟨hmove.operation.unreferenced hdb, ?_⟩
    rcases hmove.operation.restated hdb hget₁ hr₁ with ⟨o₂, r₂, hget₂, hr₂, hsame'⟩
    exact ⟨o₂, r₂, hget₂, hr₂, hsame.trans hsame'⟩

theorem World.Runs.unreferenced {stages : List (Stage World Event)} {w : World}
    (h : World.Runs stages w) : Unreferenced w.db.operations ∧
      forall x, x ∈ stages -> Unreferenced x.before.db.operations := by
  have hgood := h.good.right
  rcases h with ⟨ids, hrun⟩
  have hkept := hrun.invariant (I := fun w => Unreferenced w.db.operations)
    (C := GoodStage) (fun x hx _ hbefore => hx.unreferenced hbefore)
    (fun o ho => by cases ho) hgood
  exact ⟨hkept.left, fun x hx => (hkept.right x hx).right.left⟩

/--
The reference of the provider is written once.  In every run, once an operation
has a reference, every later stage leaves it as it is or strips the white space
around it, and none sets it back to null; the reference that the model reads is
the same ever after.
-/
theorem reference_written_once {stages rest : List (Stage World Event)} {w w' : World}
    (h : World.Runs stages w) (hrun : Run World.Step w rest w') {id : UUID}
    {o : OrderOperation} {r : String} (hget : w.db.operations.rows.get id = some o)
    (hr : o.providerReference = some r) :
    (forall x, x ∈ rest -> exists a b s s',
      x.before.db.operations.rows.get id = some a ∧ a.providerReference = some s ∧
      x.after.db.operations.rows.get id = some b ∧ b.providerReference = some s' ∧
      (s' = s ∨ s' = Text.trim s) ∧ Text.trim s' = Text.trim r) ∧
    exists o' r', w'.db.operations.rows.get id = some o' ∧
      o'.providerReference = some r' ∧ (r' = r ∨ r' = Text.trim r) := by
  have hall : World.Runs (stages ++ rest) w' := by
    rcases h with ⟨ids, hfirst⟩
    exact ⟨ids, hfirst.append hrun⟩
  have hgood := hall.good.right
  have hunref := hall.unreferenced.right
  have hstage : forall x, x ∈ rest -> ReferencesKept x.before x.after := by
    intro x hx
    have hmem := List.mem_append_right stages hx
    exact (hgood x hmem).referencesKept (hunref x hmem)
  have hkept := hrun.relates ReferencesKept.refl ReferencesKept.trans hstage
  refine ⟨?_, hkept.left id o r hget hr⟩
  intro x hx
  rcases (hkept.right x hx).left id o r hget hr with ⟨a, s, ha, hs, hsame⟩
  rcases hstage x hx id a s ha hs with ⟨b, s', hb, hs', hsame'⟩
  exact ⟨a, b, s, s', ha, hs, hb, hs', hsame', hsame'.trim.trans hsame.trim⟩

/-- The provider takes the command, and answers with identifiers. -/
def sampleAnswer (operationId reference : Option String)
    (h : operationId ≠ some "" ∧ reference ≠ some "") : ProviderCommandResult :=
  { commandId := 4
    providerOperationId := operationId
    providerReference := reference
    status := ProviderCommandAcceptanceStatus.accepted
    receivedAt := 0
    nonEmpty := h }

/-- A callback has arrived and is claimed. -/
def World.deliver (w : World) (event : InboxMessage) : World :=
  (w.perform (Job.receiveInbox event)).perform
    (Job.claimInbox "worker" 1 30 [event.inboxId] (fun _ _ => 0))

def samplePadded : Verdict :=
  Verdict.accepted (sampleAnswer none (some " ref-1 ") (by decide))

def samplePaddedWorld : World :=
  (sampleFinalized samplePadded).deliver sampleEvent

def samplePaddedCallback : ClaimedInboxMessage :=
  { toInboxMessage := samplePaddedWorld.db.inbox.messages.rows.head (by decide +kernel)
    attempt := samplePaddedWorld.db.inbox.attempts.rows.head (by decide +kernel) }

theorem World.Runs.deliver {stages : List (Stage World Event)} {w : World}
    (h : World.Runs stages w) {event : InboxMessage}
    (hfresh : (Job.receiveInbox event).Admissible w.handles) :
    exists stages', World.Runs stages' (w.deliver event) :=
  ⟨_, (h.job hfresh).job (j := Job.claimInbox "worker" 1 30 [event.inboxId]
    (fun _ _ => 0)) trivial⟩

theorem sampleEvent_admissible (handles : List ClaimedOutboxMessage) :
    (Job.receiveInbox sampleEvent).Admissible handles :=
  fun hchecks => ⟨hchecks, rfl, rfl, rfl, rfl, ⟨rfl, rfl, rfl⟩, ⟨rfl, rfl⟩, rfl, rfl, rfl⟩

theorem samplePaddedWorld_runs : exists stages, World.Runs stages samplePaddedWorld := by
  rcases sampleFinalized_runs samplePadded with ⟨_, hfirst, _⟩
  exact hfirst.deliver (sampleEvent_admissible _)

theorem samplePaddedWorld_reference : exists o,
    samplePaddedWorld.db.operations.rows.get 0 = some o ∧
      o.providerReference = some " ref-1 " := by
  have hsome : (samplePaddedWorld.db.operations.rows.get 0).map
      OrderOperation.providerReference = some (some " ref-1 ") := by
    decide +kernel
  exact Option.map_eq_some_iff.mp hsome

theorem reference_written_once_padded : exists o' r',
    (samplePaddedWorld.perform (Job.finalizeOrderOperation samplePaddedCallback 0
      0)).db.operations.rows.get 0 = some o' ∧ o'.providerReference = some r' ∧
      (r' = " ref-1 " ∨ r' = Text.trim " ref-1 ") := by
  rcases samplePaddedWorld_runs with ⟨stages, hrun⟩
  rcases samplePaddedWorld_reference with ⟨o, ho, hr⟩
  have hrest := World.run_job samplePaddedWorld
    (j := Job.finalizeOrderOperation samplePaddedCallback 0 0) trivial
  exact (reference_written_once hrun hrest ho hr).right

/-- White space around a reference is lost when a callback rewrites the row. -/
theorem reference_restated : exists stages w e w' o o', World.Runs stages w ∧
    World.Step w e w' ∧ w.db.operations.rows.get 0 = some o ∧
    o.providerReference = some " ref-1 " ∧ w'.db.operations.rows.get 0 = some o' ∧
    o'.providerReference = some "ref-1" := by
  rcases samplePaddedWorld_runs with ⟨stages, hrun⟩
  rcases samplePaddedWorld_reference with ⟨o, ho, hr⟩
  have hstep := World.Step.job (w := samplePaddedWorld)
    (j := Job.finalizeOrderOperation samplePaddedCallback 0 0) trivial
  have hafter : exists o', (samplePaddedWorld.perform (Job.finalizeOrderOperation
      samplePaddedCallback 0 0)).db.operations.rows.get 0 = some o' ∧
        o'.providerReference = some "ref-1" := by
    have hsome : ((samplePaddedWorld.perform (Job.finalizeOrderOperation
        samplePaddedCallback 0 0)).db.operations.rows.get 0).map
        OrderOperation.providerReference = some (some "ref-1") := by
      decide +kernel
    exact Option.map_eq_some_iff.mp hsome
  generalize samplePaddedWorld = w at *
  rcases hafter with ⟨o', ho', hr'⟩
  exact ⟨stages, w, _, _, o, o', hrun, hstep, ho, hr, ho', hr'⟩

/-!
## The answer of the provider
-/

theorem finalizeOperation_reference {claimed : ClaimedOutboxMessage} {target : FinalTarget}
    {result : ProviderCommandResult} {failureKind : Option ProviderFailureKind}
    {now : Time} {db db' : Database}
    (h : finalizeOperation claimed target (some result) failureKind now db =
      Except.ok ((), db')) :
    exists o', db'.operations.rows.get claimed.aggregateId = some o' ∧
      o'.providerReference = result.providerReference := by
  simp only [finalizeOperation, Transaction.bind_eq_ok, Transaction.fetch_eq_ok,
    operationFromRow_eq_ok, Transaction.require_eq_ok, Prod.mk.injEq] at h
  rcases h with ⟨row, _, ⟨hget, rfl⟩, o, _, ⟨hrow, rfl⟩, _, _, ⟨_, _, rfl⟩, supportCaseId,
    db₁, _, _, db₂, hup, _, _, ⟨rfl, _, rfl⟩, eventId, db₃, hid, reference, db₄, hparse, _,
    db₅, hstatus, hattach⟩
  rcases updateOperation_spec hup with ⟨r, hr, _, _, _, hrows, _, _⟩
  have hdb₄ : db₄ = db₃ := (parseReference_eq_ok hparse).right
  subst hdb₄
  rcases recordAttachedCase_spec hattach with ⟨es, hside, _⟩
  -- the events that follow leave the row alone
  have hall := ((newId_spec hid).eventsAppended.trans
    (insertOperationEvent_spec hstatus)).trans hside
  have hkey : r.operationId = claimed.aggregateId := by
    have hread : o.operationId = row.operationId := by
      rw [(OrderOperation.ofRow?_eq_some hrow).left]
    exact (Table.get_key hr).trans (hread.trans (Table.get_key hget))
  refine ⟨o.setFinalized (finalStatus target failureKind) supportCaseId
    (finalReference (some result) o) now r, ?_, rfl⟩
  rw [hall.rows, hrows, ← hkey]
  rw [← Table.get_key hr] at hr
  exact Table.get_put_self (r := o.setFinalized _ _ _ now r) hr

theorem finalize_accepted {claimed : ClaimedOutboxMessage} {result : ProviderCommandResult}
    {databaseNow : Time} {db db' : Database}
    (h : finalize claimed (Verdict.accepted result).finalization databaseNow db =
      Except.ok ((), db'))
    (hgenuine : claimed.Genuine db)
    (hkind : claimed.aggregateType = ProviderAggregateType.orderOperation) :
    exists m o, PublishedFor db' m o ∧ m.commandId = claimed.commandId ∧
      o.providerReference = result.providerReference := by
  simp only [finalize, Transaction.translate_eq_ok, Transaction.bind_eq_ok,
    Transaction.fetch_eq_ok, Transaction.require_eq_ok, Prod.mk.injEq] at h
  rcases h with ⟨leaseId, _, ⟨_, rfl⟩, leaseOwner, _, ⟨_, rfl⟩, now, db₀, hlock, _, db₁,
    haggregate, _, db₂, hfinish, _, _, ⟨rfl, _, rfl⟩, _, db₃, htransition, rfl, _, rfl⟩
  rcases lockClaimedCommand_spec hlock with ⟨hsame, m, hm, _, _⟩
  subst hsame
  rcases hgenuine with ⟨m₁, hm₁, henv⟩
  rw [hm] at hm₁
  cases hm₁
  unfold finalizeAggregate at haggregate
  rw [hkind] at haggregate
  rcases (finalizeOperation_spec haggregate
    (Verdict.accepted result).result_of_review).left with ⟨_, _, _, _, hfinal⟩
  rcases finalizeOperation_reference haggregate with ⟨o', ho', hreference⟩
  rcases finishDeliveryAttempt_spec hfinish with ⟨_, _, _, _, _, _, _, _, _, hout₂, htouch₂⟩
  rcases updateOutboxTransition_spec htransition with ⟨m₂, hm₂, _, _, _, hout₃, htouch₃⟩
  have hmm : m₂ = m := by
    rw [hout₂, hfinal.steps.outbox.eq_of_keep] at hm₂
    exact (Option.some.inj (hm.symm.trans hm₂)).symm
  subst hmm
  have hid := Table.get_key hm
  refine ⟨((Verdict.accepted result).finalization.transition now).apply m₂, o',
    ⟨?_, rfl, ?_, ?_⟩, hid, hreference⟩
  · rw [hout₃]
    rw [← hid] at hm₂
    exact Table.get_put_self (r := OutboxTransition.apply _ m₂) hm₂
  · exact (congrArg ProviderCommandEnvelope.aggregateType henv).trans hkind
  · rw [htouch₃.operations (by decide), htouch₂.operations (by decide)]
    have haggregateId : m₂.aggregateId = claimed.aggregateId :=
      congrArg ProviderCommandEnvelope.aggregateId henv
    show db₁.operations.rows.get m₂.aggregateId = some o'
    rw [haggregateId]
    exact ho'

/-!
## Callbacks and their results
-/

/-- The callback of a command that a stage processes, and how the call ends. -/
def answerOf (m : OutboxMessage) (x : Stage World Event) :
    Option (ProviderWebhookEventData × InboxFinalizationResult) :=
  match x.event with
  | Event.job (Job.finalizeOrderOperation claimed retryAvailableAt now) =>
      match finalizeOrderOperation claimed retryAvailableAt now x.before.db with
      | Except.ok r =>
          ((x.before.db.inbox.messages.get claimed.inboxId).filter fun row =>
            row.stripped.answers m).map fun row => (row.payload, r.1)
      | Except.error _ => none
  | _ => none

theorem callbackOf_eq (m : OutboxMessage) (x : Stage World Event) :
    callbackOf m x = (answerOf m x).map Prod.fst := by
  rcases x with ⟨before, event, after⟩
  unfold callbackOf answerOf
  cases event with
  | job j =>
      cases j with
      | finalizeOrderOperation claimed retryAvailableAt now =>
          simp only
          cases finalizeOrderOperation claimed retryAvailableAt now before.db with
          | error f => rfl
          | ok r =>
              simp only
              rw [Option.map_map]
              rfl
      | _ => rfl
  | _ => rfl

theorem callbackOf_of_answer {m : OutboxMessage} {x : Stage World Event}
    {e : ProviderWebhookEventData} {result : InboxFinalizationResult}
    (h : answerOf m x = some (e, result)) : callbackOf m x = some e := by
  rw [callbackOf_eq, h]
  rfl

theorem mem_callbacksOf {m : OutboxMessage} {stages : List (Stage World Event)}
    {x : Stage World Event} (hx : x ∈ stages) {e : ProviderWebhookEventData}
    (h : callbackOf m x = some e) : e ∈ callbacksOf m stages :=
  List.mem_filterMap.mpr ⟨x, hx, h⟩

theorem GoodStage.answered {x : Stage World Event} (h : GoodStage x) {m : OutboxMessage}
    {o : OrderOperation} (hm : PublishedFor x.before.db m o) {e : ProviderWebhookEventData}
    {result : InboxFinalizationResult} (ha : answerOf m x = some (e, result)) :
    (result.outcome, result.safeErrorCode) = o.standing.ending e := by
  unfold answerOf at ha
  split at ha
  · rename_i claimed retryAvailableAt now hevent
    split at ha
    · rename_i r hcall
      rcases Option.map_eq_some_iff.mp ha with ⟨row, hrow, hpair⟩
      rcases Option.filter_eq_some_iff.mp hrow with ⟨hget, hanswers⟩
      cases hpair
      rcases finalizeOrderOperation_standing h.before.sound hm hcall with
        ⟨row', hget', hending, _⟩
      have hsame : row' = row := Option.some.inj (hget'.symm.trans hget)
      rw [hsame] at hending
      exact hending hanswers
    · cases ha
  · cases ha

theorem World.Good.standing_kept {P : Standing -> Prop}
    {C : Standing -> ProviderWebhookEventData -> Prop}
    (hP : forall p e, C p e -> P p -> P (p.meet e)) {w w' : World}
    {stages : List (Stage World Event)} (hw : w.Good)
    (hrun : Run World.Step w stages w') {m : OutboxMessage} {o : OrderOperation}
    (hm : PublishedFor w.db m o) (ho : P o.standing)
    (hC : forall x, x ∈ stages -> forall e a, callbackOf m x = some e ->
      PublishedFor x.before.db m a -> C a.standing e) :
    (exists o', PublishedFor w'.db m o' ∧ P o'.standing) ∧
      forall x, x ∈ stages -> GoodStage x ∧
        exists a, PublishedFor x.before.db m a ∧ P a.standing := by
  have hkept := hrun.invariant
    (I := fun w => w.Good ∧ exists o', PublishedFor w.db m o' ∧ P o'.standing)
    (C := fun x => forall e a, callbackOf m x = some e ->
      PublishedFor x.before.db m a -> C a.standing e)
    ?_ ⟨hw, o, hm, ho⟩ hC
  · refine ⟨hkept.left.right, ?_⟩
    intro x hx
    rcases hkept.right x hx with ⟨hstep, hbefore, hafter⟩
    exact ⟨⟨hstep, hbefore.left, hafter.left, (hstep.spec hbefore.left).left⟩,
      hbefore.right⟩
  · rintro x hC hstep ⟨hgood, a, ha, hPa⟩
    rcases hstep.spec hgood with ⟨hdid, hgood'⟩
    refine ⟨hgood', ?_⟩
    rcases (GoodStage.mk hstep hgood hgood' hdid).standing ha with ⟨b, hb, hstanding⟩
    refine ⟨b, hb, ?_⟩
    rw [hstanding]
    cases hcallback : callbackOf m x with
    | none => exact hPa
    | some e => exact hP a.standing e (hC e a hcallback ha) hPa

theorem Standing.decision_compatible {p : Standing} {e : ProviderWebhookEventData}
    (h : (p.decision e).action ≠ InboxAction.conflict) :
    providerReferenceIsCompatible p.reference (incomingReference e) = true := by
  by_contra hno
  rw [Bool.not_eq_true] at hno
  refine h ?_
  unfold Standing.decision decideOrderOperationCallback
  rw [if_pos hno]

theorem providerReferenceIsCompatible_iff {current incoming : Option String} :
    providerReferenceIsCompatible current incoming = true ↔
      current = none ∨ incoming = none ∨ current = incoming := by
  unfold providerReferenceIsCompatible
  simp only [Bool.or_eq_true, Option.isNone_iff_eq_none, decide_eq_true_eq, or_assoc]

theorem Standing.meet_reference_some {p : Standing} {r : String}
    (hp : p.reference = some r) (e : ProviderWebhookEventData) :
    (p.meet e).reference = some r := by
  cases haction : (p.decision e).action with
  | conflict => rw [p.meet_kept (Or.inl haction), hp]
  | stale => rw [p.meet_kept (Or.inr haction), hp]
  | duplicate =>
      rw [p.meet_duplicate haction, hp]
      rfl
  | apply =>
      have hcompatible := p.decision_compatible (by rw [haction]; decide)
      rw [hp, providerReferenceIsCompatible_iff] at hcompatible
      unfold Standing.meet
      rw [haction]
      cases (p.decision e).targetStatus with
      | none => exact hp
      | some target =>
          rcases hcompatible with hno | hnone | hsame
          · cases hno
          · rw [hnone, hp]
            rfl
          · rw [← hsame]
            rfl

theorem Standing.ending_conflict (p : Standing) (e : ProviderWebhookEventData) :
    (p.ending e).2 = some "provider_reference_conflict" ↔
      providerReferenceIsCompatible p.reference (incomingReference e) = false := by
  constructor
  · intro hcode
    by_contra hno
    rw [Bool.not_eq_false, providerReferenceIsCompatible_iff] at hno
    unfold Standing.ending at hcode
    cases haction : (p.decision e).action with
    | conflict =>
        rw [haction] at hcode
        simp only at hcode
        rw [if_neg] at hcode
        · exact absurd hcode (by decide)
        · rintro ⟨hcurrent, hincoming, hdiffer⟩
          rcases hno with h | h | h
          · exact hcurrent h
          · exact hincoming h
          · exact hdiffer h
    | _ =>
        rw [haction] at hcode
        cases hcode
  · intro hno
    have haction : (p.decision e).action = InboxAction.conflict := by
      unfold Standing.decision decideOrderOperationCallback
      rw [if_pos hno]
    unfold Standing.ending
    rw [haction]
    simp only
    rw [if_pos]
    rw [← Bool.not_eq_true, providerReferenceIsCompatible_iff, not_or, not_or] at hno
    exact ⟨hno.left, hno.right.left, hno.right.right⟩

/-!
## Consistent identifiers
-/

/-- The identifiers of a callback are those of the answer, as far as it has any. -/
structure Consistent (operationId reference : Option String)
    (e : ProviderWebhookEventData) : Prop where
  operation : forall t, e.providerOperationId = some t ->
    some t.text = operationId.map Text.trim
  reference : forall t, e.providerReference = some t ->
    some t.text = reference.map Text.trim

/-- A callback that is compared by the identifier that the answer has left behind. -/
def ComparedAlike (operationId reference : Option String)
    (e : ProviderWebhookEventData) : Prop :=
  reference = none ∨ e.providerReference ≠ none ∨ e.providerOperationId = none ∨
    operationId.map Text.trim = reference.map Text.trim

/-- The standing of an operation whose callbacks are consistent with the answer. -/
def Standing.OfAnswer (operationId reference : Option String) (p : Standing) : Prop :=
  match reference with
  | some r => p.reference = some (Text.trim r)
  | none => p.reference = none ∨ p.reference = operationId.map Text.trim

theorem Consistent.incoming {operationId reference : Option String}
    {e : ProviderWebhookEventData} (h : Consistent operationId reference e) :
    incomingReference e = none ∨
      (e.providerReference ≠ none ∧ incomingReference e = reference.map Text.trim) ∨
      (e.providerReference = none ∧ e.providerOperationId ≠ none ∧
        incomingReference e = operationId.map Text.trim) := by
  unfold incomingReference
  cases hreference : e.providerReference with
  | some t => exact Or.inr (Or.inl ⟨Option.some_ne_none t, h.reference t hreference⟩)
  | none =>
      cases hoperation : e.providerOperationId with
      | some t =>
          exact Or.inr (Or.inr ⟨rfl, Option.some_ne_none t, h.operation t hoperation⟩)
      | none => exact Or.inl rfl

theorem Standing.OfAnswer.meet {operationId reference : Option String} {p : Standing}
    {e : ProviderWebhookEventData} (hp : p.OfAnswer operationId reference)
    (he : Consistent operationId reference e) :
    (p.meet e).OfAnswer operationId reference := by
  cases reference with
  | some r => exact Standing.meet_reference_some hp e
  | none =>
      rcases p.meet_reference e with hkept | hfilled
      · show _ ∨ _
        rw [hkept]
        exact hp
      · show _ ∨ _
        rw [hfilled]
        rcases he.incoming with hnone | ⟨_, hnone⟩ | ⟨_, _, hsome⟩
        · exact Or.inl hnone
        · exact Or.inl hnone
        · exact Or.inr hsome

theorem Standing.OfAnswer.compatible_iff {operationId reference : Option String}
    {p : Standing} {e : ProviderWebhookEventData} (hp : p.OfAnswer operationId reference)
    (he : Consistent operationId reference e) :
    providerReferenceIsCompatible p.reference (incomingReference e) = true ↔
      ComparedAlike operationId reference e := by
  rw [providerReferenceIsCompatible_iff]
  cases reference with
  | none =>
      refine ⟨fun _ => Or.inl rfl, fun _ => ?_⟩
      have hp : p.reference = none ∨ p.reference = operationId.map Text.trim := hp
      rcases hp with hp | hp
      · exact Or.inl hp
      · rcases he.incoming with hnone | ⟨_, hnone⟩ | ⟨_, _, hsome⟩
        · exact Or.inr (Or.inl hnone)
        · exact Or.inr (Or.inl hnone)
        · exact Or.inr (Or.inr (hp.trans hsome.symm))
  | some r =>
      have hp : p.reference = some (Text.trim r) := hp
      rw [hp]
      unfold ComparedAlike
      constructor
      · rintro (hno | hnone | hsame)
        · cases hno
        · refine Or.inr (Or.inr (Or.inl ?_))
          unfold incomingReference at hnone
          cases hoperation : e.providerOperationId with
          | none => rfl
          | some t =>
              rw [hoperation] at hnone
              cases hreference : e.providerReference <;> rw [hreference] at hnone <;>
                cases hnone
        · rcases he.incoming with hnone | ⟨hpresent, _⟩ | ⟨_, _, hsome⟩
          · rw [hnone] at hsame
            cases hsame
          · exact Or.inr (Or.inl hpresent)
          · exact Or.inr (Or.inr (Or.inr (hsome.symm.trans hsame.symm)))
      · rintro (hno | hpresent | habsent | hsame)
        · cases hno
        · rcases he.incoming with hnone | ⟨_, hsome⟩ | ⟨hno, _⟩
          · exact Or.inr (Or.inl hnone)
          · exact Or.inr (Or.inr hsome.symm)
          · exact absurd hno hpresent
        · rcases he.incoming with hnone | ⟨_, hsome⟩ | ⟨_, hno, _⟩
          · exact Or.inr (Or.inl hnone)
          · exact Or.inr (Or.inr hsome.symm)
          · exact absurd habsent hno
        · rcases he.incoming with hnone | ⟨_, hsome⟩ | ⟨_, _, hsome⟩
          · exact Or.inr (Or.inl hnone)
          · exact Or.inr (Or.inr hsome.symm)
          · exact Or.inr (Or.inr (hsame.symm.trans hsome.symm))

/--
The answer leaves only its reference behind, while a callback without a reference
is compared by the identifier of the provider's operation.  After a command has
been accepted with these two identifiers, the callbacks of the command that carry
no others, in any run, never fail for their reference if and only if each of them
has a reference, has no identifier of the operation, or the answer had no
reference or the same text for both.
-/
theorem consistent_callbacks_accepted_iff {w w' : World}
    {stages : List (Stage World Event)} (hw : w.Reachable)
    {claimed : ClaimedOutboxMessage} {result : ProviderCommandResult} {now : Time}
    (hclaimed : claimed ∈ w.handles)
    (hkind : claimed.aggregateType = ProviderAggregateType.orderOperation) {db : Database}
    (haccepted : finalize claimed (Verdict.accepted result).finalization now w.db =
      Except.ok ((), db))
    (hrun : Run World.Step
      (w.perform (Job.finalizeOutbox claimed (Verdict.accepted result) now)) stages w')
    {m : OutboxMessage} (hm : db.outbox.messages.get claimed.commandId = some m)
    (hconsistent : forall e, e ∈ callbacksOf m stages ->
      Consistent result.providerOperationId result.providerReference e) :
    (forall x, x ∈ stages -> forall e ending, answerOf m x = some (e, ending) ->
      ending.safeErrorCode ≠ some "provider_reference_conflict") ↔
    forall e, e ∈ callbacksOf m stages ->
      ComparedAlike result.providerOperationId result.providerReference e := by
  have hgood : w.Good := by
    rcases hw with ⟨first, hfirst⟩
    exact hfirst.good.left
  have hdb : (w.perform (Job.finalizeOutbox claimed (Verdict.accepted result) now)).db =
      db := by
    rw [World.perform_commit rfl, Transaction.commit_ok haccepted]
  have hnext := (World.Step.job (w := w)
    (j := Job.finalizeOutbox claimed (Verdict.accepted result) now) hclaimed).spec hgood
  rcases finalize_accepted haccepted (hgood.genuine claimed hclaimed) hkind with
    ⟨m', o, hfor, hcommand, hreference⟩
  have hmm : m' = m := by
    have hget := hfor.command
    rw [hcommand, hm] at hget
    exact (Option.some.inj hget).symm
  subst hmm
  rw [← hdb] at hfor
  have hfirst : o.standing.OfAnswer result.providerOperationId
      result.providerReference := by
    unfold Standing.OfAnswer OrderOperation.standing
    rw [hreference]
    cases result.providerReference with
    | none => exact Or.inl rfl
    | some r => rfl
  have hkept := (hnext.right.standing_kept
    (P := Standing.OfAnswer result.providerOperationId result.providerReference)
    (C := fun _ e => Consistent result.providerOperationId result.providerReference e)
    (fun p e he hp => hp.meet he) hrun hfor hfirst
    (fun x hx e _ he _ => hconsistent e (mem_callbacksOf hx he))).right
  -- one callback, at the standing that it meets
  have hone : forall x, x ∈ stages -> forall e ending, answerOf m' x = some (e, ending) ->
      (ending.safeErrorCode ≠ some "provider_reference_conflict" ↔
        ComparedAlike result.providerOperationId result.providerReference e) := by
    intro x hx e ending hanswer
    rcases hkept x hx with ⟨hstage, a, ha, hstanding⟩
    have hcallback := mem_callbacksOf hx (callbackOf_of_answer hanswer)
    have hending := congrArg Prod.snd (hstage.answered ha hanswer)
    have hending : ending.safeErrorCode = (a.standing.ending e).2 := hending
    rw [hending, ← hstanding.compatible_iff (hconsistent e hcallback), Ne,
      a.standing.ending_conflict e, Bool.not_eq_false]
  constructor
  · intro h e he
    rcases List.mem_filterMap.mp he with ⟨x, hx, hcallback⟩
    rw [callbackOf_eq] at hcallback
    rcases Option.map_eq_some_iff.mp hcallback with ⟨⟨e', ending⟩, hanswer, rfl⟩
    exact (hone x hx e' ending hanswer).mp (h x hx e' ending hanswer)
  · intro h x hx e ending hanswer
    exact (hone x hx e ending hanswer).mpr
      (h e (mem_callbacksOf hx (callbackOf_of_answer hanswer)))

def sampleOperationId : CleanText :=
  { text := "op-1", clean := by decide }

def sampleReference : CleanText :=
  { text := "ref-1", clean := by decide }

/-- What the provider reports in the examples, with or without identifiers. -/
def sampleProgress (inboxId : UUID) (eventId : String)
    (status : ProviderCommandExecutionStatus)
    (operationId reference : Option CleanText) : InboxMessage :=
  { sampleEvent with
    inboxId := inboxId
    eventId := eventId
    payload :=
      { sampleEvent.payload with
        commandStatus := status
        providerOperationId := operationId
        providerReference := reference } }

theorem sampleProgress_admissible (inboxId : UUID) (eventId : String)
    (status : ProviderCommandExecutionStatus) (operationId reference : Option CleanText)
    (handles : List ClaimedOutboxMessage) :
    (Job.receiveInbox (sampleProgress inboxId eventId status operationId
      reference)).Admissible handles :=
  fun hchecks => ⟨hchecks, rfl, rfl, rfl, rfl, ⟨rfl, rfl, rfl⟩, ⟨rfl, rfl⟩, rfl, rfl, rfl⟩

/-- A callback arrives, is claimed and is finalized. -/
def World.answering (w : World) (event : InboxMessage) (claimed : ClaimedInboxMessage) :
    List (Stage World Event) :=
  let claim := Job.claimInbox "worker" 1 30 [event.inboxId] (fun _ _ => 0)
  let final := Job.finalizeOrderOperation claimed 0 0
  [⟨w, Event.job (Job.receiveInbox event), w.perform (Job.receiveInbox event)⟩,
    ⟨w.perform (Job.receiveInbox event), Event.job claim, w.deliver event⟩,
    ⟨w.deliver event, Event.job final, (w.deliver event).perform final⟩]

theorem World.answering_run (w : World) {event : InboxMessage}
    (hfresh : (Job.receiveInbox event).Admissible w.handles)
    (claimed : ClaimedInboxMessage) :
    Run World.Step w (w.answering event claimed)
      ((w.deliver event).perform (Job.finalizeOrderOperation claimed 0 0)) :=
  Run.cons (World.Step.job hfresh) (Run.cons (World.Step.job trivial)
    (Run.cons (World.Step.job trivial) (Run.nil _)))

/-- The provider takes the command under both identifiers. -/
def sampleIdentified : ProviderCommandResult :=
  sampleAnswer (some "op-1") (some "ref-1") (by decide)

/-- The provider reports progress under the identifier of its operation. -/
def sampleNamed : InboxMessage :=
  sampleProgress 100 "event" ProviderCommandExecutionStatus.processing
    (some sampleOperationId) none

def sampleNamedWorld : World :=
  (sampleFinalized (Verdict.accepted sampleIdentified)).deliver sampleNamed

def sampleNamedCallback : ClaimedInboxMessage :=
  { toInboxMessage := sampleNamedWorld.db.inbox.messages.rows.head (by decide +kernel)
    attempt := sampleNamedWorld.db.inbox.attempts.rows.head (by decide +kernel) }

def sampleNamedStages : List (Stage World Event) :=
  (sampleFinalized (Verdict.accepted sampleIdentified)).answering sampleNamed
    sampleNamedCallback

/-- The state in which the command of the examples is claimed. -/
def sampleClaimedWorld : World :=
  sampleQueued.perform sampleClaim

theorem sampleClaimedWorld_reachable : sampleClaimedWorld.Reachable := by
  rcases sampleQueued_runs with ⟨stages, hrun, _⟩
  exact ⟨_, hrun.job (j := sampleClaim) trivial⟩

theorem sampleNamed_refused : exists db m,
    finalize sampleHandle (Verdict.accepted sampleIdentified).finalization 0
      sampleClaimedWorld.db = Except.ok ((), db) ∧
    db.outbox.messages.get sampleHandle.commandId = some m ∧
    callbacksOf m sampleNamedStages = [sampleNamed.payload] ∧
    exists x ending, x ∈ sampleNamedStages ∧
      answerOf m x = some (sampleNamed.payload, ending) ∧
      ending.safeErrorCode = some "provider_reference_conflict" := by
  have hevaluated : ((finalize sampleHandle (Verdict.accepted
      sampleIdentified).finalization 0 sampleClaimedWorld.db).toOption.bind fun r =>
        (r.2.outbox.messages.get sampleHandle.commandId).map fun m =>
          (callbacksOf m sampleNamedStages,
            (sampleNamedStages.filterMap (answerOf m)).map fun a =>
              (a.1, a.2.safeErrorCode))) =
      some ([sampleNamed.payload],
        [(sampleNamed.payload, some "provider_reference_conflict")]) := by
    decide +kernel
  generalize sampleNamedStages = stages at *
  generalize sampleClaimedWorld.db = before at *
  generalize sampleHandle = claimed at *
  cases hfinal : finalize claimed (Verdict.accepted sampleIdentified).finalization 0
    before with
  | error f =>
      rw [hfinal] at hevaluated
      cases hevaluated
  | ok r =>
      rcases r with ⟨_, db⟩
      rw [hfinal] at hevaluated
      simp only [Except.toOption, Option.bind_some, Option.map_eq_some_iff,
        Prod.mk.injEq] at hevaluated
      rcases hevaluated with ⟨m, hm, hcallbacks, hanswers⟩
      refine ⟨db, m, rfl, hm, hcallbacks, ?_⟩
      have hmem : (sampleNamed.payload, some "provider_reference_conflict") ∈
          (stages.filterMap (answerOf m)).map fun a => (a.1, a.2.safeErrorCode) := by
        rw [hanswers]
        exact List.mem_singleton_self _
      rcases List.mem_map.mp hmem with ⟨⟨e, ending⟩, hanswer, hpair⟩
      rcases List.mem_filterMap.mp hanswer with ⟨x, hx, hax⟩
      simp only [Prod.mk.injEq] at hpair
      rw [hpair.left] at hax
      exact ⟨x, ending, hx, hax, hpair.right⟩

theorem sampleNamed_consistent : Consistent sampleIdentified.providerOperationId
    sampleIdentified.providerReference sampleNamed.payload := by
  constructor
  · intro t ht
    have ht : some sampleOperationId = some t := ht
    cases ht
    decide +kernel
  · intro t ht
    cases ht

theorem sampleHandle_claimed : sampleHandle ∈ sampleClaimedWorld.handles :=
  List.head_mem _

theorem sampleHandle_kind :
    sampleHandle.aggregateType = ProviderAggregateType.orderOperation := by
  decide +kernel

theorem sampleNamedStages_run : Run World.Step
    (sampleClaimedWorld.perform (Job.finalizeOutbox sampleHandle
      (Verdict.accepted sampleIdentified) 0)) sampleNamedStages
    (sampleNamedWorld.perform (Job.finalizeOrderOperation sampleNamedCallback 0 0)) :=
  World.answering_run _ (sampleProgress_admissible _ _ _ _ _ _) _

/-- Only the identifier of the operation is reported, and the callback is refused. -/
theorem consistent_callbacks_accepted_named : exists m,
    ¬forall x, x ∈ sampleNamedStages -> forall e ending,
      answerOf m x = some (e, ending) ->
      ending.safeErrorCode ≠ some "provider_reference_conflict" := by
  rcases sampleNamed_refused with ⟨db, m, hfinal, hm, hcallbacks, _⟩
  have hcompared := consistent_callbacks_accepted_iff sampleClaimedWorld_reachable
    sampleHandle_claimed sampleHandle_kind hfinal sampleNamedStages_run hm
  rw [hcallbacks] at hcompared
  refine ⟨m, fun hall => ?_⟩
  have halike := (hcompared fun e he => by
    rw [List.mem_singleton.mp he]
    exact sampleNamed_consistent).mp hall _ (List.mem_singleton_self _)
  rcases halike with hno | hno | hno | hno
  · cases hno
  · exact hno rfl
  · cases hno
  · exact absurd hno (by decide +kernel)

/-- Identifiers that never change are taken for a conflict. -/
theorem consistent_callback_refused : exists (w w' : World)
    (stages : List (Stage World Event)) (claimed : ClaimedOutboxMessage)
    (result : ProviderCommandResult) (db : Database) (m : OutboxMessage), w.Reachable ∧
    claimed ∈ w.handles ∧
    finalize claimed (Verdict.accepted result).finalization 0 w.db = Except.ok ((), db) ∧
    Run World.Step (w.perform (Job.finalizeOutbox claimed (Verdict.accepted result) 0))
      stages w' ∧
    db.outbox.messages.get claimed.commandId = some m ∧
    (forall e, e ∈ callbacksOf m stages ->
      Consistent result.providerOperationId result.providerReference e) ∧
    exists x e ending, x ∈ stages ∧ answerOf m x = some (e, ending) ∧
      ending.safeErrorCode = some "provider_reference_conflict" := by
  rcases sampleNamed_refused with ⟨db, m, hfinal, hm, hcallbacks, x, ending, hx, hanswer,
    hcode⟩
  refine ⟨_, _, _, _, _, db, m, sampleClaimedWorld_reachable, sampleHandle_claimed, hfinal,
    sampleNamedStages_run, hm, ?_, x, _, ending, hx, hanswer, hcode⟩
  intro e he
  rw [hcallbacks] at he
  rw [List.mem_singleton.mp he]
  exact sampleNamed_consistent

/-!
## Lost references
-/

/-- The callback has been processed, not refused or postponed. -/
def InboxFinalizationResult.successful (r : InboxFinalizationResult) : Prop :=
  r.outcome = InboxFinalizationOutcome.applied ∨
    r.outcome = InboxFinalizationOutcome.duplicate ∨
    r.outcome = InboxFinalizationOutcome.stale

/--
A stage processes a callback of the command that carries a reference, and the
policy takes the given action on the operation as it stands before.
-/
def CarriesReference (m : OutboxMessage) (x : Stage World Event)
    (action : InboxAction) : Prop :=
  exists e a, callbackOf m x = some e ∧ incomingReference e ≠ none ∧
    x.before.db.operations.rows.get m.aggregateId = some a ∧
    (a.standing.decision e).action = action

theorem Standing.action_of_successful {p : Standing} {e : ProviderWebhookEventData}
    {result : InboxFinalizationResult}
    (h : (result.outcome, result.safeErrorCode) = p.ending e)
    (hsuccess : result.successful) : (p.decision e).action ≠ InboxAction.conflict := by
  intro haction
  unfold Standing.ending at h
  rw [haction] at h
  have houtcome : result.outcome = InboxFinalizationOutcome.failed := congrArg Prod.fst h
  rcases hsuccess with hs | hs | hs <;> rw [houtcome] at hs <;> cases hs

theorem Standing.successful_of_action {p : Standing} {e : ProviderWebhookEventData}
    {result : InboxFinalizationResult}
    (h : (result.outcome, result.safeErrorCode) = p.ending e)
    (haction : (p.decision e).action ≠ InboxAction.conflict) : result.successful := by
  unfold Standing.ending at h
  have houtcome := congrArg Prod.fst h
  cases hcase : (p.decision e).action with
  | apply =>
      rw [hcase] at houtcome
      exact Or.inl houtcome
  | duplicate =>
      rw [hcase] at houtcome
      exact Or.inr (Or.inl houtcome)
  | stale =>
      rw [hcase] at houtcome
      exact Or.inr (Or.inr houtcome)
  | conflict => exact absurd hcase haction

theorem Standing.target_of_apply {p : Standing} {e : ProviderWebhookEventData}
    (h : (p.decision e).action = InboxAction.apply) :
    exists target, (p.decision e).targetStatus = some target := by
  unfold Standing.decision decideOrderOperationCallback at h ⊢
  split at h
  · cases h
  · split at h
    · cases h
    · split at h
      · cases h
      · rename_i hcompatible hwaiting hother
        rw [if_neg hcompatible, if_neg hwaiting, if_neg hother]
        cases hmatrix : decideStatusMatrix p.status e.commandStatus with
        | conflict =>
            rw [hmatrix] at h
            cases h
        | _ => exact ⟨_, rfl⟩

theorem Standing.meet_reference_of_met {p : Standing} {e : ProviderWebhookEventData}
    {r : String} (hr : incomingReference e = some r)
    (haction : (p.decision e).action = InboxAction.apply ∨
      (p.decision e).action = InboxAction.duplicate) : (p.meet e).reference = some r := by
  have hcompatible : providerReferenceIsCompatible p.reference (incomingReference e) =
      true := by
    apply p.decision_compatible
    rcases haction with h | h <;> rw [h] <;> decide
  rw [hr, providerReferenceIsCompatible_iff] at hcompatible
  rcases haction with haction | haction
  · rcases p.target_of_apply haction with ⟨target, htarget⟩
    rw [p.meet_apply haction htarget, hr]
    rfl
  · rw [p.meet_duplicate haction, hr]
    rcases hcompatible with hnone | hno | hsame
    · rw [hnone]
      rfl
    · cases hno
    · rw [hsame]
      rfl

theorem World.Good.reference_kept {w w' : World} {stages : List (Stage World Event)}
    (hw : w.Good) (hrun : Run World.Step w stages w') {m : OutboxMessage}
    {o : OrderOperation} (hm : PublishedFor w.db m o) {r : String}
    (hr : o.standing.reference = some r) :
    (exists o', PublishedFor w'.db m o' ∧ o'.standing.reference = some r) ∧
      forall x, x ∈ stages -> GoodStage x ∧
        exists a, PublishedFor x.before.db m a ∧ a.standing.reference = some r :=
  hw.standing_kept (P := fun p => p.reference = some r) (C := fun _ _ => True)
    (fun _ e _ hp => Standing.meet_reference_some hp e) hrun hm hr
    (fun _ _ _ _ _ _ => trivial)

theorem World.Good.reference_after {w w' : World} {stages : List (Stage World Event)}
    (hw : w.Good) (hrun : Run World.Step w stages w') {m : OutboxMessage}
    {o : OrderOperation} (hm : PublishedFor w.db m o) {x : Stage World Event}
    (hx : x ∈ stages) {e : ProviderWebhookEventData} (he : callbackOf m x = some e)
    {r : String} (hr : incomingReference e = some r) {a : OrderOperation}
    (ha : PublishedFor x.before.db m a)
    (haction : (a.standing.decision e).action = InboxAction.apply ∨
      (a.standing.decision e).action = InboxAction.duplicate ∨
      (a.standing.decision e).action ≠ InboxAction.conflict ∧
        a.standing.reference ≠ none) :
    exists o', PublishedFor w'.db m o' ∧ o'.standing.reference = some r := by
  have hstage := ((hw.standing_kept (P := fun _ => True) (C := fun _ _ => True)
    (fun _ _ _ _ => trivial) hrun hm trivial
    (fun _ _ _ _ _ _ => trivial)).right x hx).left
  rcases List.append_of_mem hx with ⟨past, rest, rfl⟩
  rcases hstage.standing ha with ⟨b, hb, hstanding⟩
  rw [he] at hstanding
  have hstanding : b.standing = a.standing.meet e := hstanding
  refine (hstage.after.reference_kept hrun.split.right.right hb ?_).left
  rw [hstanding]
  rcases haction with hmet | hmet | ⟨hmet, hpresent⟩
  · exact Standing.meet_reference_of_met hr (Or.inl hmet)
  · exact Standing.meet_reference_of_met hr (Or.inr hmet)
  · have hcompatible := Standing.decision_compatible hmet
    rw [hr, providerReferenceIsCompatible_iff] at hcompatible
    rcases hcompatible with hno | hno | hsame
    · exact absurd hno hpresent
    · cases hno
    · exact Standing.meet_reference_some hsame e

/-- The stage writes the reference of its callback, or finds it written. -/
def ReferenceMet (m : OutboxMessage) (x : Stage World Event) : Prop :=
  CarriesReference m x InboxAction.apply ∨ CarriesReference m x InboxAction.duplicate

theorem World.Good.reference_unwritten {w w' : World} {stages : List (Stage World Event)}
    (hw : w.Good) (hrun : Run World.Step w stages w') {m : OutboxMessage}
    {o : OrderOperation} (hm : PublishedFor w.db m o) (ho : o.standing.reference = none)
    (hno : forall x, x ∈ stages -> ¬ReferenceMet m x) :
    exists o', PublishedFor w'.db m o' ∧ o'.standing.reference = none := by
  refine (hw.standing_kept (P := fun p => p.reference = none)
    (C := fun p e => incomingReference e = none ∨
      ((p.decision e).action ≠ InboxAction.apply ∧
        (p.decision e).action ≠ InboxAction.duplicate)) ?_ hrun hm ho ?_).left
  · intro p e hcarried hp
    rcases p.meet_reference e with hsame | hfilled
    · rw [hsame, hp]
    · rcases hcarried with hnone | ⟨happly, hduplicate⟩
      · rw [hfilled, hnone]
      · have hkept : p.meet e = p := by
          apply p.meet_kept
          cases hcase : (p.decision e).action with
          | apply => exact absurd hcase happly
          | duplicate => exact absurd hcase hduplicate
          | stale => exact Or.inr rfl
          | conflict => exact Or.inl rfl
        rw [hkept, hp]
  · intro x hx e b he hb
    by_cases hnone : incomingReference e = none
    · exact Or.inl hnone
    · refine Or.inr ⟨fun happly => hno x hx (Or.inl ?_),
        fun hduplicate => hno x hx (Or.inr ?_)⟩
      · exact ⟨e, b, he, hnone, hb.operation, happly⟩
      · exact ⟨e, b, he, hnone, hb.operation, hduplicate⟩

theorem World.Good.reference_met {w w' : World} {stages : List (Stage World Event)}
    (hw : w.Good) (hrun : Run World.Step w stages w') {m : OutboxMessage}
    {o : OrderOperation} (hm : PublishedFor w.db m o) {x : Stage World Event}
    (hx : x ∈ stages) (hmet : ReferenceMet m x) :
    exists e s, callbackOf m x = some e ∧ incomingReference e = some s ∧
      exists o', PublishedFor w'.db m o' ∧ o'.standing.reference = some s := by
  rcases ((hw.standing_kept (P := fun _ => True) (C := fun _ _ => True)
    (fun _ _ _ _ => trivial) hrun hm trivial
    (fun _ _ _ _ _ _ => trivial)).right x hx).right with ⟨b, hb, _⟩
  have hcarried : exists e, callbackOf m x = some e ∧ incomingReference e ≠ none ∧
      ((b.standing.decision e).action = InboxAction.apply ∨
        (b.standing.decision e).action = InboxAction.duplicate) := by
    rcases hmet with ⟨e, b', he, hcarries, hb', haction⟩ | ⟨e, b', he, hcarries, hb', haction⟩
    · rw [hb.operation] at hb'
      cases hb'
      exact ⟨e, he, hcarries, Or.inl haction⟩
    · rw [hb.operation] at hb'
      cases hb'
      exact ⟨e, he, hcarries, Or.inr haction⟩
  rcases hcarried with ⟨e, he, hcarries, haction⟩
  rcases Option.ne_none_iff_exists'.mp hcarries with ⟨s, hs⟩
  refine ⟨e, s, he, hs, hw.reference_after hrun hm hx he hs hb ?_⟩
  rcases haction with h | h
  · exact Or.inl h
  · exact Or.inr (Or.inl h)

/--
No reference is lost, unless a late callback was the only one that carried it.  In
any run from a state in which the command is published, whose callbacks have
references that do not contradict each other, the operation ends with the
reference of every callback that was processed successfully if and only if, in
case the policy finds a callback with a reference stale, the operation had a
reference at first or a callback that carries one is applied or is a duplicate.
-/
theorem references_kept_iff {w w' : World} {stages : List (Stage World Event)}
    (hw : w.Reachable) (hrun : Run World.Step w stages w') {m : OutboxMessage}
    {o : OrderOperation} (hm : m ∈ w.db.outbox.messages.rows)
    (hkind : m.aggregateType = ProviderAggregateType.orderOperation)
    (hpublished : m.status = OutboxDeliveryStatus.published)
    (ho : w.db.operations.rows.get m.aggregateId = some o)
    (hpair : forall e e', e ∈ callbacksOf m stages -> e' ∈ callbacksOf m stages ->
      providerReferenceIsCompatible (incomingReference e) (incomingReference e') = true) :
    (forall x, x ∈ stages -> forall e ending r, answerOf m x = some (e, ending) ->
      ending.successful -> incomingReference e = some r ->
      exists o', w'.db.operations.rows.get m.aggregateId = some o' ∧
        o'.providerReference.map Text.trim = some r) ↔
    ((exists x, x ∈ stages ∧ CarriesReference m x InboxAction.stale) ->
      o.providerReference ≠ none ∨ exists x, x ∈ stages ∧ ReferenceMet m x) := by
  have hgood : w.Good := by
    rcases hw with ⟨first, hfirst⟩
    exact hfirst.good.left
  have hfor : PublishedFor w.db m o := ⟨Table.get_of_mem hm, hpublished, hkind, ho⟩
  have hstages := (hgood.standing_kept (P := fun _ => True) (C := fun _ _ => True)
    (fun _ _ _ _ => trivial) hrun hfor trivial (fun _ _ _ _ _ _ => trivial)).right
  constructor
  · rintro hkept ⟨x, hx, e, a, he, hcarries, ha, haction⟩
    by_contra hno
    rw [not_or, not_not] at hno
    rcases hgood.reference_unwritten hrun hfor (congrArg (Option.map Text.trim) hno.left)
      (fun y hy hmet => hno.right ⟨y, hy, hmet⟩) with ⟨o₁, hfor₁, hnone⟩
    rw [callbackOf_eq] at he
    rcases Option.map_eq_some_iff.mp he with ⟨⟨e', ending⟩, hanswer, rfl⟩
    rcases hstages x hx with ⟨hstage, a', ha', _⟩
    have hsame : a' = a := Option.some.inj (ha'.operation.symm.trans ha)
    subst hsame
    rcases Option.ne_none_iff_exists'.mp hcarries with ⟨r, hr⟩
    have hsuccess := Standing.successful_of_action (hstage.answered ha' hanswer)
      (by rw [haction]; decide)
    rcases hkept x hx e' ending r hanswer hsuccess hr with ⟨o₂, ho₂, hsome⟩
    rw [hfor₁.operation] at ho₂
    cases ho₂
    have hnone : o₁.providerReference.map Text.trim = none := hnone
    rw [hnone] at hsome
    cases hsome
  · intro hcondition x hx e ending r hanswer hsuccess hr
    have he := callbackOf_of_answer hanswer
    rcases hstages x hx with ⟨hstage, a, ha, _⟩
    have hmet := Standing.action_of_successful (hstage.answered ha hanswer) hsuccess
    have hend : (exists o', PublishedFor w'.db m o' ∧ o'.standing.reference = some r) ->
        exists o', w'.db.operations.rows.get m.aggregateId = some o' ∧
          o'.providerReference.map Text.trim = some r := by
      rintro ⟨o', hfor', hreference⟩
      exact ⟨o', hfor'.operation, hreference⟩
    apply hend
    by_cases hpresent : a.standing.reference = none
    · cases haction : (a.standing.decision e).action with
      | apply => exact hgood.reference_after hrun hfor hx he hr ha (Or.inl haction)
      | duplicate =>
          exact hgood.reference_after hrun hfor hx he hr ha (Or.inr (Or.inl haction))
      | conflict => exact absurd haction hmet
      | stale =>
          have hcarries : incomingReference e ≠ none := by
            rw [hr]
            exact Option.some_ne_none r
          rcases hcondition ⟨x, hx, e, a, he, hcarries, ha.operation, haction⟩ with
            hfirst | ⟨y, hy, hother⟩
          · -- an operation that has a reference at first has it here
            rcases Option.ne_none_iff_exists'.mp hfirst with ⟨s, hs⟩
            have hreference : o.standing.reference = some (Text.trim s) :=
              congrArg (Option.map Text.trim) hs
            rcases ((hgood.reference_kept hrun hfor hreference).right x hx).right with
              ⟨a', ha', hsome⟩
            have hsame : a' = a :=
              Option.some.inj (ha'.operation.symm.trans ha.operation)
            rw [hsame, hpresent] at hsome
            cases hsome
          · rcases hgood.reference_met hrun hfor hy hother with ⟨e', s, he', hs, hend'⟩
            have hcompatible := hpair e e' (mem_callbacksOf hx he) (mem_callbacksOf hy he')
            rw [hr, hs, providerReferenceIsCompatible_iff] at hcompatible
            rcases hcompatible with hno | hno | hsame
            · cases hno
            · cases hno
            · rw [hsame]
              exact hend'
    · exact hgood.reference_after hrun hfor hx he hr ha (Or.inr (Or.inr ⟨hmet, hpresent⟩))

/-- The acceptance arrives late, and only it carries the reference. -/
def sampleDelayed : InboxMessage :=
  sampleProgress 101 "late" ProviderCommandExecutionStatus.accepted none
    (some sampleReference)

def sampleDelayedWorld : World :=
  sampleProcessed.deliver sampleDelayed

def sampleDelayedCallback : ClaimedInboxMessage :=
  { toInboxMessage := sampleDelayedWorld.db.inbox.messages.rows.getLast (by decide +kernel)
    attempt := sampleDelayedWorld.db.inbox.attempts.rows.getLast (by decide +kernel) }

def sampleDelayedStages : List (Stage World Event) :=
  sampleProcessed.answering sampleDelayed sampleDelayedCallback

def sampleDelayedEnd : World :=
  sampleDelayedWorld.perform (Job.finalizeOrderOperation sampleDelayedCallback 0 0)

theorem sampleDelayedStages_run :
    Run World.Step sampleProcessed sampleDelayedStages sampleDelayedEnd :=
  World.answering_run _ (sampleProgress_admissible _ _ _ _ _ _) _

theorem sampleProcessed_published : exists o, samplePublished ∈
      sampleProcessed.db.outbox.messages.rows ∧
    samplePublished.aggregateType = ProviderAggregateType.orderOperation ∧
    samplePublished.status = OutboxDeliveryStatus.published ∧
    sampleProcessed.db.operations.rows.get samplePublished.aggregateId = some o := by
  have hoperation : ((sampleProcessed.db.operations.rows.get
      samplePublished.aggregateId).isSome) = true := by
    decide +kernel
  rcases Option.isSome_iff_exists.mp hoperation with ⟨o, ho⟩
  exact ⟨o, by decide +kernel, by decide +kernel, by decide +kernel, ho⟩

theorem sampleDelayed_processed :
    callbacksOf samplePublished sampleDelayedStages = [sampleDelayed.payload] ∧
    (exists x ending, x ∈ sampleDelayedStages ∧
      answerOf samplePublished x = some (sampleDelayed.payload, ending) ∧
      ending.successful) ∧
    (sampleDelayedEnd.db.operations.rows.get samplePublished.aggregateId).map
      OrderOperation.providerReference = some none := by
  have hcallbacks : callbacksOf samplePublished sampleDelayedStages = [sampleDelayed.payload] := by
    decide +kernel
  have hanswers : (sampleDelayedStages.filterMap (answerOf samplePublished)).map
      (fun a => (a.1, a.2.outcome)) =
        [(sampleDelayed.payload, InboxFinalizationOutcome.stale)] := by
    decide +kernel
  have hend : (sampleDelayedEnd.db.operations.rows.get samplePublished.aggregateId).map
      OrderOperation.providerReference = some none := by
    decide +kernel
  generalize sampleDelayedStages = stages at *
  refine ⟨hcallbacks, ?_, hend⟩
  have hmem : (sampleDelayed.payload, InboxFinalizationOutcome.stale) ∈
      (stages.filterMap (answerOf samplePublished)).map fun a => (a.1, a.2.outcome) := by
    rw [hanswers]
    exact List.mem_singleton_self _
  rcases List.mem_map.mp hmem with ⟨⟨e, ending⟩, hanswer, hpair⟩
  rcases List.mem_filterMap.mp hanswer with ⟨x, hx, hax⟩
  simp only [Prod.mk.injEq] at hpair
  rw [hpair.left] at hax
  exact ⟨x, ending, hx, hax, Or.inr (Or.inr hpair.right)⟩

theorem sampleDelayed_compatible (e e' : ProviderWebhookEventData)
    (he : e ∈ callbacksOf samplePublished sampleDelayedStages)
    (he' : e' ∈ callbacksOf samplePublished sampleDelayedStages) :
    providerReferenceIsCompatible (incomingReference e) (incomingReference e') = true := by
  rw [sampleDelayed_processed.left] at he he'
  rw [List.mem_singleton.mp he, List.mem_singleton.mp he']
  decide +kernel

theorem references_kept_late :
    (exists x, x ∈ sampleDelayedStages ∧
      CarriesReference samplePublished x InboxAction.stale) ∧
    ¬exists x, x ∈ sampleDelayedStages ∧ ReferenceMet samplePublished x := by
  rcases sampleProcessed_published with ⟨o, hm, hkind, hpublished, ho⟩
  have hkept := references_kept_iff sampleProcessed_runs sampleDelayedStages_run hm hkind
    hpublished ho sampleDelayed_compatible
  rcases sampleDelayed_processed with ⟨_, ⟨x, ending, hx, hanswer, hsuccess⟩, hend⟩
  have hlost := mt hkept.mpr fun hall => by
    rcases hall x hx _ ending "ref-1" hanswer hsuccess (by decide +kernel) with
      ⟨o', ho', hreference⟩
    rw [ho'] at hend
    have hnone : o'.providerReference = none := Option.some.inj hend
    rw [hnone] at hreference
    cases hreference
  rw [Classical.not_imp, not_or] at hlost
  exact ⟨hlost.left, hlost.right.right⟩

/-- A reference that only a late callback carries is lost. -/
theorem late_reference_lost : exists (w w' : World) (stages : List (Stage World Event))
    (m : OutboxMessage) (o : OrderOperation), w.Reachable ∧
    Run World.Step w stages w' ∧ m ∈ w.db.outbox.messages.rows ∧
    m.aggregateType = ProviderAggregateType.orderOperation ∧
    m.status = OutboxDeliveryStatus.published ∧
    w.db.operations.rows.get m.aggregateId = some o ∧
    (forall e e', e ∈ callbacksOf m stages -> e' ∈ callbacksOf m stages ->
      providerReferenceIsCompatible (incomingReference e) (incomingReference e') = true) ∧
    exists x e ending r, x ∈ stages ∧ answerOf m x = some (e, ending) ∧
      ending.successful ∧ incomingReference e = some r ∧
      (w'.db.operations.rows.get m.aggregateId).map OrderOperation.providerReference =
        some none := by
  rcases sampleProcessed_published with ⟨o, hm, hkind, hpublished, ho⟩
  rcases sampleDelayed_processed with ⟨_, ⟨x, ending, hx, hanswer, hsuccess⟩, hend⟩
  exact ⟨_, _, _, _, o, sampleProcessed_runs, sampleDelayedStages_run, hm, hkind, hpublished,
    ho, sampleDelayed_compatible, x, _, ending, "ref-1", hx, hanswer, hsuccess,
    by decide +kernel, hend⟩

end RefundAgent
