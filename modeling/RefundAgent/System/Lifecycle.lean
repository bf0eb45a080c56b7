import RefundAgent.System.Reach

/-!
# The life of an order operation

Every transaction of every writer changes an operation at most once, by a
change that the transition table allows or by the redrive step, and puts that
change on record.  A batch of expired leases is the one transaction that may
change several operations; each of them leaves `queued` and none comes back.
-/

namespace RefundAgent

open Foundation

theorem finalStatus_ne_queued (target : FinalTarget)
    (failureKind : Option ProviderFailureKind) :
    finalStatus target failureKind ≠ OperationRecordStatus.queued := by
  unfold finalStatus
  split
  · decide
  · split
    · decide
    · decide

theorem Combination.of_outboxFinish {lo : OperationLabel} {lc : CaseLabel}
    {li : InboxLabel} {e : Ending} {m : OutboxMessage} {a : OutboxDeliveryAttempt}
    (h : Combination lo lc (OutboxLabel.finish e m a) li) :
    lo = OperationLabel.keep ∨
      exists o o' es, lo = OperationLabel.update Writer.delivery o o' es ∧
        o.status = OperationRecordStatus.queued ∧
        o'.status ≠ OperationRecordStatus.queued := by
  cases h with
  | reschedule _ _ h => exact Or.inl rfl
  | abandonCase _ h => exact Or.inl rfl
  | settleCase _ h => exact Or.inl rfl
  | settleOperation _ h hl =>
      refine Or.inr ⟨_, _, _, rfl, h.before, ?_⟩
      rw [h.after]
      cases e with
      | finalized v now => exact finalStatus_ne_queued _ _
      | _ => simp [Ending.operationStatus]

/-- Operations change at most once, and only by leaving `queued`. -/
structure Settles (t u : OperationTables) : Prop where
  advance : OperationAdvance t u
  leaves : forall id o, t.rows.get id = some o ->
    exists o', u.rows.get id = some o' ∧
      (o' = o ∨ (o.status = OperationRecordStatus.queued ∧
        o'.status ≠ OperationRecordStatus.queued))

theorem Settles.refl (t : OperationTables) : Settles t t :=
  ⟨OperationAdvance.refl t, fun _ o h => ⟨o, h, Or.inl rfl⟩⟩

theorem Settles.trans {t u v : OperationTables} (h : Settles t u)
    (h' : Settles u v) : Settles t v := by
  -- A row that has left `queued` is not touched a second time.
  have honce : forall id o o' o'', t.rows.get id = some o ->
      u.rows.get id = some o' -> v.rows.get id = some o'' -> o' = o ∨ o'' = o' := by
    intro id o o' o'' ho ho' ho''
    rcases h.leaves id o ho with ⟨o₁, ho₁, hfirst⟩
    rcases h'.leaves id o' ho' with ⟨o₂, ho₂, hsecond⟩
    rw [ho'] at ho₁
    rw [ho''] at ho₂
    cases ho₁
    cases ho₂
    rcases hfirst with heq | ⟨_, hleft⟩
    · exact Or.inl heq
    · rcases hsecond with heq | ⟨hqueued, _⟩
      · exact Or.inr heq
      · exact absurd hqueued hleft
  refine ⟨h.advance.trans h'.advance honce, ?_⟩
  intro id o ho
  rcases h.leaves id o ho with ⟨o₁, ho₁, hfirst⟩
  rcases h'.leaves id o₁ ho₁ with ⟨o₂, ho₂, hsecond⟩
  refine ⟨o₂, ho₂, ?_⟩
  rcases hfirst with rfl | ⟨hqueued, hleft⟩
  · exact hsecond
  · rcases hsecond with rfl | ⟨hqueued', _⟩
    · exact Or.inr ⟨hqueued, hleft⟩
    · exact absurd hqueued' hleft

theorem OperationStep.settles {w : Writer} {o o' : OrderOperation}
    {es : List OrderOperationEvent} {t u : OperationTables}
    (h : OperationStep (OperationLabel.update w o o' es) t u)
    (hbefore : o.status = OperationRecordStatus.queued)
    (hafter : o'.status ≠ OperationRecordStatus.queued) : Settles t u := by
  refine ⟨h.advance, ?_⟩
  intro id r hr
  rcases h.get_cases hr with hsame | ⟨w', r', es', hl, hnew, _⟩
  · exact ⟨r, hsame, Or.inl rfl⟩
  · cases hl
    exact ⟨o', hnew, Or.inr ⟨hbefore, hafter⟩⟩

theorem Moves.settles {P : Label -> Prop}
    (hP : forall l, P l -> exists e m a, l.outbox = OutboxLabel.finish e m a)
    {db db' : Database} (h : Moves P db db') : Settles db.operations db'.operations := by
  refine h.preserves (I := fun d => Settles db.operations d.operations) ?_
    (Settles.refl _)
  intro l d d' hl hmove hd
  rcases hP l hl with ⟨e, m, a, hout⟩
  have hcombined := hmove.combined
  rw [hout] at hcombined
  have hstep := hmove.operation
  rcases hcombined.of_outboxFinish with hkeep | ⟨o, o', es, hupdate, hbefore, hafter⟩
  · rw [hkeep] at hstep
    rw [hstep.eq_of_keep]
    exact hd
  · rw [hupdate] at hstep
    exact hd.trans (hstep.settles hbefore hafter)

theorem Moves.operations_kept {P : Label -> Prop}
    (hP : forall l, P l -> l.operation = OperationLabel.keep) {db db' : Database}
    (h : Moves P db db') : db'.operations = db.operations := by
  refine h.preserves (I := fun d => d.operations = db.operations) ?_ rfl
  intro l d d' hl hmove hd
  have hstep := hmove.operation
  rw [hP l hl] at hstep
  rw [hstep.eq_of_keep]
  exact hd

theorem GoodStage.advance {x : Stage World Event} (h : GoodStage x) :
    OperationAdvance x.before.db.operations x.after.db.operations := by
  have hdid := h.did
  cases hbatch : x.event.batch with
  | false =>
      rw [hbatch] at hdid
      rcases hdid with hsame | ⟨l, _, hmove⟩
      · rw [hsame]
        exact OperationAdvance.refl _
      · exact hmove.operation.advance
  | true =>
      have hsame : x.after.db.operations = x.before.db.operations ->
          OperationAdvance x.before.db.operations x.after.db.operations := by
        intro hsame
        rw [hsame]
        exact OperationAdvance.refl _
      cases hevent : x.event with
      | start =>
          rw [hevent] at hbatch
          cases hbatch
      | advance =>
          rw [hevent] at hbatch
          cases hbatch
      | job j =>
          rw [hevent] at hdid hbatch
          have hmoves := hdid.moves
          cases j with
          | claimOutbox workerId batchSize leaseSeconds scan clock =>
              refine hsame (hmoves.operations_kept ?_)
              rintro l ⟨m, m', a, rfl⟩
              rfl
          | recoverOutbox batchSize scan clock =>
              refine (hmoves.settles ?_).advance
              rintro l ⟨m, a, now, first, second, _, hout, _⟩
              exact ⟨_, m, a, hout⟩
          | claimInbox workerId batchSize leaseSeconds scan clock =>
              exact hsame (hmoves.operations_kept fun l hl => hl.left)
          | recoverInbox batchSize scan clock =>
              exact hsame (hmoves.operations_kept fun l hl => hl.left)
          | _ => cases hbatch

/-!
## Runs
-/

/-- The statuses that are never left. -/
def OperationRecordStatus.final : OperationRecordStatus -> Bool
  | completed => true
  | rejected => true
  | cancelledByCustomer => true
  | _ => false

theorem not_transition_of_final {s t : OperationRecordStatus} (h : s.final = true) :
    ¬Transition s t := by
  cases s <;> simp_all [OperationRecordStatus.final, Transition, redriveTransition,
    allowedStatusTransitions]

/-- A final status stays. -/
def FinalKept (w w' : World) : Prop :=
  forall id o, w.db.operations.rows.get id = some o -> o.status.final = true ->
    exists o', w'.db.operations.rows.get id = some o' ∧ o'.status = o.status

theorem GoodStage.finalKept {x : Stage World Event} (h : GoodStage x) :
    FinalKept x.before x.after := by
  intro id o ho hfinal
  rcases h.advance with ⟨es, _, hrows⟩
  rcases hrows id o ho with ⟨o', ho', hchange⟩
  refine ⟨o', ho', ?_⟩
  rcases hchange.status with hsame | ⟨htransition, _⟩
  · exact hsame.left
  · exact absurd htransition (not_transition_of_final hfinal)

theorem FinalKept.trans {a b c : World} (h : FinalKept a b) (h' : FinalKept b c) :
    FinalKept a c := by
  intro id o ho hfinal
  rcases h id o ho hfinal with ⟨o₁, ho₁, hs₁⟩
  rcases h' id o₁ ho₁ (by rw [hs₁]; exact hfinal) with ⟨o₂, ho₂, hs₂⟩
  exact ⟨o₂, ho₂, hs₂.trans hs₁⟩

/--
The lifecycle and the audit chain of order operations.  In every run of all
writers, every transaction changes an operation at most once: the change is one
that the transition table allows or the redrive step, it raises the version by
one, and it is recorded by exactly one event.  A final status is never left, and
the recorded changes lead from `pending_confirmation` to the current status.
-/
theorem operation_lifecycle {stages : List (Stage World Event)} {w : World}
    (h : World.Runs stages w) :
    (forall x, x ∈ stages ->
      OperationAdvance x.before.db.operations x.after.db.operations) ∧
    (forall x, x ∈ stages -> FinalKept x.after w) ∧
    (forall o, o ∈ w.db.operations.rows.rows ->
      Linked OperationRecordStatus.pendingConfirmation
        (statusChanges w.db.operations.events.rows o.operationId) o.status) := by
  have hgood := h.good
  refine ⟨fun x hx => (hgood.right x hx).advance, ?_,
    hgood.left.sound.operations.chain⟩
  intro x hx
  rcases h with ⟨ids, hrun⟩
  have hkept := hrun.relates (R := FinalKept) (fun _ _ o ho _ => ⟨o, ho, rfl⟩)
    (fun h h' => h.trans h') (fun y hy => (hgood.right y hy).finalKept)
  exact (hkept.right x hx).right

/-- A run in which the operation is queued and then submitted. -/
theorem operation_lifecycle_sample :
    exists stages o, World.Runs stages (sampleFinalized sampleAccepted) ∧
      (sampleFinalized sampleAccepted).db.operations.rows.rows = [o] ∧
      o.status = OperationRecordStatus.submitted ∧
      Linked OperationRecordStatus.pendingConfirmation
        (statusChanges (sampleFinalized sampleAccepted).db.operations.events.rows
          o.operationId) o.status := by
  rcases sampleFinalized_runs sampleAccepted with ⟨stages, hrun, _⟩
  have hstatus : (sampleFinalized sampleAccepted).db.operations.rows.rows.map
      OrderOperation.status = [OperationRecordStatus.submitted] := by decide +kernel
  generalize sampleFinalized sampleAccepted = w at hrun hstatus ⊢
  rcases List.map_eq_singleton_iff.mp hstatus with ⟨o, ho, hsubmitted⟩
  refine ⟨stages, o, hrun, ho, hsubmitted, ?_⟩
  refine (operation_lifecycle hrun).right.right o ?_
  rw [ho]
  exact List.mem_cons_self

end RefundAgent
