import RefundAgent.System.Delivery
import RefundAgent.System.PolicyLayers
import RefundAgent.System.Reasons

/-!
# The urgency of a case

What the writers of cases do to the priority and the reasons of a case.  The
service merges a handoff decision and keeps the more urgent priority; a failed
delivery sets the priority of a review outright; a failed investigation gets its
reason and keeps its priority.

The handoff decisions are those of the policy.  No decision for a review of an
order operation is of the highest priority, since every reason of that priority
asks for a preferred type of case.
-/

namespace RefundAgent

open Foundation

/-!
## The decisions of the policy
-/

theorem HandoffReason.calm_of_rank (r : HandoffReason)
    (h : caseTypeRank CaseType.orderOperationReview ≤ caseTypeRank r.caseType) :
    priorityRank CasePriority.p1 ≤ priorityRank r.priority := by
  have hrisk : forall c, caseTypeRank (riskCaseType c) ≤ 2 := riskCaseType_rank
  cases r with
  | hardCritical c => exact absurd (Nat.le_trans h (hrisk c)) (by decide)
  | semanticCritical c => exact absurd (Nat.le_trans h (hrisk c)) (by decide)
  | semanticHigh c => exact absurd (Nat.le_trans h (hrisk c)) (by decide)
  | semanticMedium c => exact absurd (Nat.le_trans h (hrisk c)) (by decide)
  | staffConductCritical => exact absurd h (by decide)
  | _ => decide

theorem PolicyDecision.covers {d : HandoffDecision} (h : PolicyDecision d)
    {p : CasePriority} (hp : d.priority = some p) {r : HandoffReason}
    (hr : r ∈ d.reasonCodes) : priorityRank p ≤ priorityRank r.priority := by
  cases h with
  | policy input =>
      exact (determineHandoffPolicy_priority hp).right r (mem_reasonCodes.mp hr)
  | @safe input hkind =>
      cases hp
      rcases List.mem_append.mp (mem_fromKeys.mp hr) with hr | hr
      · have hrank := (determineHandoffPolicy_type hkind).right r (mem_reasonCodes.mp hr)
        exact r.calm_of_rank (Nat.le_trans (by decide) hrank)
      · rw [List.mem_singleton.mp hr]
        decide

theorem PolicyDecision.calm {d : HandoffDecision} (h : PolicyDecision d)
    (hkind : d.caseType = some CaseType.orderOperationReview) {p : CasePriority}
    (hp : d.priority = some p) : priorityRank CasePriority.p1 ≤ priorityRank p := by
  cases h with
  | policy input =>
      rcases (determineHandoffPolicy_priority hp).left with ⟨r, hr, rfl⟩
      exact r.calm_of_rank ((determineHandoffPolicy_type hkind).right r hr)
  | safe hdelivery => cases hkind

/-!
## Runs with the decisions of the policy
-/

/-- A step begins a call, if any, with decisions that satisfy a condition. -/
def Event.BegunWith (D : HandoffDecision -> Prop) (w : World) (e : Event)
    (w' : World) : Prop :=
  e = Event.start -> exists (α : Type) (p : Call α),
    w'.calls = w.calls ++ [⟨α, p⟩] ∧ Method D p

/-- Every call keeps acting on such decisions. -/
def World.Guided (D : HandoffDecision -> Prop) (w : World) : Prop :=
  forall r, r ∈ w.calls -> Behaves D r.call w.db (fun _ _ => True)

theorem World.Step.guided {D : HandoffDecision -> Prop}
    (hD : forall d, PolicyDecision d -> D d) {w w' : World} {e : Event}
    (h : World.Step w e w') (hgood : w.Good) (hbegun : e.BegunWith D w w')
    (hw : w.Guided D) :
    w'.Guided D ∧ (e = Event.advance -> Did false (Label.served D) w.db w'.db) := by
  have hlater : Later w.db w'.db := (h.spec hgood).left.moves.later
  cases h with
  | @job j hadmissible =>
      refine ⟨fun r hr => ?_, fun he => (by cases he)⟩
      have hcalls : (w.perform j).calls = w.calls := by
        unfold World.perform
        cases j.transaction w.db with
        | error f => rfl
        | ok r => rfl
      rw [hcalls] at hr
      exact (hw r hr).later hlater
  | @start α p hmethod =>
      refine ⟨fun r hr => ?_, fun he => (by cases he)⟩
      rcases List.mem_append.mp hr with hr | hr
      · exact hw r hr
      · rcases hbegun rfl with ⟨β, q, hcalls, hq⟩
        rw [List.append_cancel_left hcalls] at hr
        rw [List.mem_singleton.mp hr]
        exact hq.harmless hD w.db
  | @advance α p q db' before after hcalls hstep =>
      have hp : Behaves D p w.db (fun _ _ => True) := by
        refine hw ⟨α, p⟩ ?_
        rw [hcalls]
        simp
      rcases hp.advance hgood.sound hstep with ⟨hdid, hq⟩
      refine ⟨fun r hr => ?_, fun _ => hdid⟩
      rcases List.mem_append.mp hr with hr | hr
      · refine (hw r ?_).later hlater
        rw [hcalls]
        exact List.mem_append_left _ hr
      · rcases List.mem_cons.mp hr with rfl | hr
        · exact hq
        · refine (hw r ?_).later hlater
          rw [hcalls]
          exact List.mem_append_right _ (List.mem_cons_of_mem _ hr)

theorem World.Runs.serve_begun {D : HandoffDecision -> Prop}
    {stages : List (Stage World Event)} {w : World} (h : World.Runs stages w)
    {α : Type} {p : Call α} (hany : Method AnyDecision p) (hp : Method D p) :
    exists more, World.Runs (stages ++ more) (w.serve p) ∧
      forall x, x ∈ more -> x.event.BegunWith D x.before x.after ∧
        x.event.ofCall = true := by
  rcases h with ⟨ids, hrun⟩
  rcases World.run_calls p { w with calls := w.calls ++ [⟨α, p⟩] } w.calls [] rfl with
    ⟨more, hmore, hevents⟩
  refine ⟨_, ⟨ids, hrun.append (Run.cons (World.Step.start hany) hmore)⟩, ?_⟩
  intro x hx
  rcases List.mem_cons.mp hx with rfl | hx
  · exact ⟨fun _ => ⟨α, p, rfl, hp⟩, rfl⟩
  · unfold Event.BegunWith
    rw [hevents x hx]
    exact ⟨fun he => (by cases he), rfl⟩

/-!
## Why a case changes
-/

/-- The stage records that the command of an investigation has failed. -/
structure DeliveryFailed (x : Stage World Event) (c c' : SupportCase) : Prop where
  event : exists claimed verdict now,
    x.event = Event.job (Job.finalizeOutbox claimed verdict now) ∧
      verdict.finalization.target = FinalTarget.dead ∧ claimed.aggregateId = c.caseId
  get : x.before.db.cases.rows.get c.caseId = some c
  undelivered : Undelivered c c'

/-- A case step of a stage: a decision or a failed delivery stands behind it. -/
def Prudent (x : Stage World Event) (l : Label) : Prop :=
  l.case.Grounded PolicyDecision ∨
    exists c c' es, l.case = CaseLabel.update c c' es ∧ DeliveryFailed x c c'

/-- Outside the services only a failed investigation changes a case without grounds. -/
theorem Move.grounded_or_settled {l : Label} {db db' : Database} (h : Move l db db')
    (hl : l.outbox.finishes ∨ l.inbox ≠ InboxLabel.keep ∨ l.case = CaseLabel.keep) :
    l.case.Grounded (fun _ => False) ∨ exists e m a c ev,
      l.outbox = OutboxLabel.finish e m a ∧ CaseSettled e m c ev l.case := by
  have hcombined := h.combined
  rcases l with ⟨lo, lc, lx, li, lr⟩
  cases hcombined with
  | changeCase hwrites keys =>
      rcases hl with hl | hl | hl
      · cases hl
      · exact absurd rfl hl
      · rw [show lc = CaseLabel.keep from hl]
        exact Or.inl trivial
  | queueInvestigation hwrites hc hq keys =>
      rcases hl with hl | hl | hl
      · cases hl
      · exact absurd rfl hl
      · rw [show lc = CaseLabel.keep from hl]
        exact Or.inl trivial
  | fallback hfallback hwrites keys => exact Or.inl hfallback.ground
  | settleOperation a hsettled hwrites recorded => exact Or.inl hsettled.ground
  | settleCase a hsettled => exact Or.inr ⟨_, _, a, _, _, rfl, hsettled⟩
  | _ => exact Or.inl trivial

theorem Did.imp {batch : Bool} {P Q : Label -> Prop} {db db' : Database}
    (himp : forall l d d', P l -> Move l d d' -> (batch = false -> d = db) -> Q l)
    (h : Did batch P db db') : Did batch Q db db' := by
  cases batch with
  | true =>
      have hmoves : Moves P db db' := h
      show Moves Q db db'
      induction hmoves with
      | refl => exact Moves.refl Q db
      | @tail d d' _ hlast ih =>
          rcases hlast with ⟨l, hl, hm⟩
          exact (ih ‹_›).trans
            (Moves.single (himp l d d' hl hm fun hno => (by cases hno)) hm)
  | false =>
      rcases h with hsame | ⟨l, hl, hmove⟩
      · exact Or.inl hsame
      · exact Or.inr ⟨l, himp l _ _ hl hmove fun _ => rfl, hmove⟩

theorem Job.permits_case {db : Database} {j : Job} {l : Label} (h : j.permits db l) :
    l.outbox.finishes ∨ l.inbox ≠ InboxLabel.keep ∨ l.case = CaseLabel.keep := by
  cases j with
  | claimOutbox workerId batchSize leaseSeconds scan clock =>
      rcases h with ⟨m, m', a, rfl⟩
      exact Or.inr (Or.inr rfl)
  | renewOutbox commandId leaseId leaseOwner leaseSeconds clock =>
      rcases h with ⟨m, m', rfl⟩
      exact Or.inr (Or.inr rfl)
  | recoverOutbox batchSize scan clock =>
      rcases h with ⟨m, a, now, first, second, _, hlabel, _⟩
      rw [hlabel]
      exact Or.inl trivial
  | retryOutbox retry now =>
      rcases h with ⟨m, a, rfl⟩
      exact Or.inl trivial
  | finalizeOutbox claimed verdict now =>
      rcases h with ⟨_, now', m, a, hlabel, _⟩
      rw [hlabel]
      exact Or.inl trivial
  | receiveInbox incoming =>
      rw [show l = _ from h]
      exact Or.inr (Or.inr rfl)
  | finalizeOrderOperation c retryAvailableAt now =>
      refine Or.inr (Or.inl fun hkeep => ?_)
      have hfinishes := h.right
      rw [hkeep] at hfinishes
      cases hfinishes
  | finalizeSupportCase c retryAvailableAt now =>
      refine Or.inr (Or.inl fun hkeep => ?_)
      have hfinishes := h.right
      rw [hkeep] at hfinishes
      cases hfinishes
  | claimInbox workerId batchSize leaseSeconds scan clock => exact Or.inr (Or.inr h.right.left)
  | renewInbox inboxId leaseId leaseOwner leaseSeconds clock =>
      exact Or.inr (Or.inr h.right.left)
  | recoverInbox batchSize scan clock => exact Or.inr (Or.inr h.right.left)
  | failInbox inboxId leaseId leaseOwner errorCode errorMessage now =>
      exact Or.inr (Or.inr h.right.left)
  | retryInbox inboxId leaseId leaseOwner attemptId nextAvailableAt errorCode
      errorMessage now => exact Or.inr (Or.inr h.right.left)

theorem GoodStage.deliveryFailed {x : Stage World Event} (h : GoodStage x)
    {claimed : ClaimedOutboxMessage} {v : Verdict} {now now' : Time}
    (hevent : x.event = Event.job (Job.finalizeOutbox claimed v now))
    {l : Label} {db' : Database} (hmove : Move l x.before.db db') {m : OutboxMessage}
    {a : OutboxDeliveryAttempt}
    (hfinish : l.outbox = OutboxLabel.finish (Ending.finalized v now') m a)
    (hid : m.commandId = claimed.commandId) {c c₀ : SupportCase} {ev : SupportCaseEvent}
    (hsettled : CaseSettled (Ending.finalized v now') m c ev l.case)
    (hlabel : l.case = CaseLabel.update c₀ c [ev]) : DeliveryFailed x c₀ c := by
  have hcase := hmove.case
  rw [hlabel] at hcase
  cases hcase with
  | update get change checks free owner rows events keys =>
      have hoid := caseId_of_frozen change.frozen
      refine ⟨⟨claimed, v, now, hevent, ?_, ?_⟩, get, hsettled.undelivered c₀ hlabel⟩
      · rcases hsettled.finalized with ⟨v', now₁, hv, _, _, hrecord⟩
        cases hv
        by_contra hdead
        have hno := hrecord hdead
        rw [hlabel] at hno
        cases hno
      · have hstep := h.step
        rw [hevent] at hstep
        rcases h.before.genuine claimed hstep.after_job.right with ⟨m₁, hm₁, henv⟩
        have houtbox := hmove.outbox
        rw [hfinish] at houtbox
        have hget := Table.get_of_mem (houtbox.mem_source rfl)
        rw [hid, hm₁] at hget
        cases hget
        rw [← hoid, hsettled.case]
        show claimed.toProviderCommandEnvelope.aggregateId = _
        rw [← henv]

theorem GoodStage.prudent {x : Stage World Event} (h : GoodStage x)
    (hserved : x.event = Event.advance ->
      Did false (Label.served PolicyDecision) x.before.db x.after.db) :
    Did x.event.batch (fun l => x.event.permits x.before.db l ∧ Prudent x l)
      x.before.db x.after.db := by
  cases hevent : x.event with
  | start =>
      have hdid := h.did
      rw [hevent] at hdid
      exact hdid.imp fun l d d' hl _ _ => (by cases hl)
  | advance =>
      refine (hserved hevent).imp fun l d d' hl _ _ => ⟨?_, Or.inl hl.right.right.right⟩
      exact ⟨hl.left, hl.right.left, hl.right.right.left,
        hl.right.right.right.mono fun _ _ => trivial⟩
  | job j =>
      have hdid := h.did
      rw [hevent] at hdid
      refine hdid.imp fun l d d' hl hmove hd => ⟨hl, ?_⟩
      rcases hmove.grounded_or_settled (Job.permits_case hl) with hground |
        ⟨e, m, a, c, ev, hfinish, hsettled⟩
      · exact Or.inl (hground.mono fun _ hno => hno.elim)
      · rcases hsettled.finalized with ⟨v, now, rfl, _, _, hrecord⟩
        have hl' : (Event.job j).permits x.before.db l := hl
        rcases Event.finish_cases hl' hfinish with ⟨claimed, v', now₁, now', hj, he⟩ |
          ⟨retry, now₁, he⟩ | ⟨n, scan, clock, now₁, first, second, _, _, he⟩
        · cases hj
          cases he
          rcases hl with ⟨_, now₂, m', a', hlabel, hid⟩
          rw [hfinish] at hlabel
          cases hlabel
          rcases hsettled.label with hlabel | ⟨c₀, hlabel⟩
          · refine Or.inl ?_
            rw [hlabel]
            trivial
          · rw [hd rfl] at hmove
            exact Or.inr ⟨c₀, c, [ev], hlabel,
              h.deliveryFailed hevent hmove hfinish hid hsettled hlabel⟩
        · cases he
        · unfold expiryOf at he
          split at he <;> cases he

/-!
## Reviews are never of the highest priority
-/

/-- The priority `p1` that a failed delivery writes makes no review less urgent. -/
def ReviewsCalm (db : Database) : Prop :=
  forall c, c ∈ db.cases.rows.rows -> c.caseType = CaseType.orderOperationReview ->
    priorityRank CasePriority.p1 ≤ priorityRank c.priority

theorem CaseUpdated.caseType {c c' : SupportCase} (h : CaseUpdated c c') :
    c'.caseType = c.caseType := by
  show c'.frozen.caseType = c.frozen.caseType
  rw [h.frozen]

theorem CaseStep.row_cases {l : CaseLabel} {t u : CaseTables} (h : CaseStep l t u)
    {r : SupportCase} (hr : r ∈ u.rows.rows) :
    r ∈ t.rows.rows ∨ (exists e, l = CaseLabel.create r e) ∨
      exists c es, l = CaseLabel.update c r es ∧ c ∈ t.rows.rows ∧ CaseUpdated c r := by
  cases h with
  | keep => exact Or.inl hr
  | @create _ _ c e insert valid checks free owner events keys =>
      rw [(Table.insert?_eq_some.mp insert).right] at hr
      rcases List.mem_append.mp hr with hr | hr
      · exact Or.inl hr
      · cases List.mem_singleton.mp hr
        exact Or.inr (Or.inl ⟨e, rfl⟩)
  | @update _ _ c c' es get change checks free owner rows events keys =>
      rw [rows] at hr
      rcases Table.mem_put hr with rfl | ⟨hr, _⟩
      · exact Or.inr (Or.inr ⟨c, es, rfl, Table.mem_of_get get, change⟩)
      · exact Or.inl hr
  | record get owner rows events keys =>
      rw [rows] at hr
      exact Or.inl hr
  | redrive get owner rows events =>
      rw [rows] at hr
      exact Or.inl hr

theorem Move.reviewsCalm {x : Stage World Event} {l : Label} {db db' : Database}
    (h : Move l db db') (hl : Prudent x l) (hdb : ReviewsCalm db) :
    ReviewsCalm db' := by
  intro r hr hkind
  rcases h.case.row_cases hr with hold | ⟨e, hlabel⟩ | ⟨c, es, hlabel, hc, hchange⟩
  · exact hdb r hold hkind
  · rcases hl with hground | ⟨c, c', es, hupdate, _⟩
    · rw [hlabel] at hground
      cases hground with
      | decided hd kind priority reasons => exact hd.calm (kind.trans (by rw [hkind])) priority
      | technical kind priority reasons =>
          rw [priority]
    · rw [hlabel] at hupdate
      cases hupdate
  · have hckind : c.caseType = CaseType.orderOperationReview := by
      rw [← hchange.caseType]
      exact hkind
    have hcalm := hdb c hc hckind
    rcases hl with hground | ⟨c₁, c₂, es', hupdate, hfailed⟩
    · rw [hlabel] at hground
      cases hground with
      | kept priority reasons =>
          rw [priority]
          exact hcalm
      | decided hd kind decision priority reasons =>
          have hdcalm := hd.calm (kind.trans (by rw [hckind])) decision
          rw [priority]
          unfold selectHigherPriority
          split
          · exact hdcalm
          · exact hcalm
      | technical kind priority reasons => rw [priority]
    · rw [hlabel] at hupdate
      cases hupdate
      rw [hfailed.undelivered.kind] at hckind
      cases hckind

/-!
## Urgency and reasons only grow
-/

/-- A later state of a case: as urgent, with the reasons and the risk it had. -/
structure AsUrgent (c c' : SupportCase) : Prop where
  priority : priorityRank c'.priority ≤ priorityRank c.priority
  reasons : forall r, r ∈ c.reasonCodes -> r ∈ c'.reasonCodes
  risk : forall a, c.riskLevel = some a ->
    exists b, c'.riskLevel = some b ∧ riskLevelRank a ≤ riskLevelRank b

theorem AsUrgent.refl (c : SupportCase) : AsUrgent c c :=
  ⟨Nat.le_refl _, fun _ h => h, fun a h => ⟨a, h, Nat.le_refl _⟩⟩

theorem AsUrgent.trans {c d e : SupportCase} (h : AsUrgent c d) (h' : AsUrgent d e) :
    AsUrgent c e where
  priority := Nat.le_trans h'.priority h.priority
  reasons := fun r hr => h'.reasons r (h.reasons r hr)
  risk := by
    intro a ha
    rcases h.risk a ha with ⟨b, hb, hab⟩
    rcases h'.risk b hb with ⟨d, hd, hbd⟩
    exact ⟨d, hd, Nat.le_trans hab hbd⟩

theorem CaseUpdated.asUrgent {c c' : SupportCase} (h : CaseUpdated c c')
    (hcalm : c.caseType = CaseType.orderOperationReview ->
      priorityRank CasePriority.p1 ≤ priorityRank c.priority) : AsUrgent c c' := by
  refine ⟨?_, h.reasons, h.risk⟩
  rcases h.urgency with hle | ⟨hkind, hp1⟩
  · exact hle
  · rw [hp1]
    exact hcalm hkind

theorem CaseStep.asUrgent {l : CaseLabel} {db db' : Database}
    (h : CaseStep l db.cases db'.cases) (hcalm : ReviewsCalm db) {id : UUID}
    {c : SupportCase} (hc : db.cases.rows.get id = some c) :
    exists c', db'.cases.rows.get id = some c' ∧ AsUrgent c c' := by
  generalize hu : db'.cases = u at h
  generalize ht : db.cases = t at h
  rw [ht] at hc
  cases h with
  | keep => exact ⟨c, hc, AsUrgent.refl c⟩
  | create insert valid checks free owner events keys =>
      exact ⟨c, Table.get_of_rows_append (Table.insert?_eq_some.mp insert).right hc,
        AsUrgent.refl c⟩
  | @update _ _ c₁ c' es get change checks free owner rows events keys =>
      have hmem : c₁ ∈ db.cases.rows.rows := by
        rw [ht]
        exact Table.mem_of_get get
      rw [rows]
      exact get_put_related (R := AsUrgent) t.rows get (caseId_of_frozen change.frozen)
        AsUrgent.refl (change.asUrgent (hcalm c₁ hmem)) id c hc
  | record get owner rows events keys =>
      rw [rows]
      exact ⟨c, hc, AsUrgent.refl c⟩
  | redrive get owner rows events =>
      rw [rows]
      exact ⟨c, hc, AsUrgent.refl c⟩

/-- Every case of one state has a state as urgent in the other. -/
def CasesGrow (db db' : Database) : Prop :=
  forall id c, db.cases.rows.get id = some c ->
    exists c', db'.cases.rows.get id = some c' ∧ AsUrgent c c'

theorem CasesGrow.trans {a b c : Database} (h : CasesGrow a b) (h' : CasesGrow b c) :
    CasesGrow a c := by
  intro id k hk
  rcases h id k hk with ⟨k₁, hk₁, hle₁⟩
  rcases h' id k₁ hk₁ with ⟨k₂, hk₂, hle₂⟩
  exact ⟨k₂, hk₂, hle₁.trans hle₂⟩

/-- A run with the decisions of the policy: every stage has grounds and calm reviews. -/
structure PrudentStage (x : Stage World Event) : Prop where
  good : GoodStage x
  did : Did x.event.batch (fun l => x.event.permits x.before.db l ∧ Prudent x l)
    x.before.db x.after.db
  calm : ReviewsCalm x.before.db

theorem World.Runs.prudent {stages : List (Stage World Event)} {w : World}
    (h : World.Runs stages w)
    (hpolicy : forall x, x ∈ stages ->
      x.event.BegunWith PolicyDecision x.before x.after) :
    forall x, x ∈ stages -> PrudentStage x := by
  have hgood := h.good.right
  rcases h with ⟨ids, hrun⟩
  have hkept := hrun.invariant
    (I := fun w => w.Guided PolicyDecision ∧ ReviewsCalm w.db)
    (C := fun x => GoodStage x ∧ x.event.BegunWith PolicyDecision x.before x.after)
    ?_ ⟨fun r hr => (by cases hr), fun c hc => (by cases hc)⟩
    (fun x hx => ⟨hgood x hx, hpolicy x hx⟩)
  · intro x hx
    rcases hkept.right x hx with ⟨hstep, ⟨hguided, hcalm⟩, _⟩
    have hspec := hstep.guided (fun _ hd => hd) (hgood x hx).before (hpolicy x hx) hguided
    exact ⟨hgood x hx, (hgood x hx).prudent hspec.right, hcalm⟩
  · rintro x ⟨hstage, hbegun⟩ hstep ⟨hguided, hcalm⟩
    have hspec := hstep.guided (fun _ hd => hd) hstage.before hbegun hguided
    refine ⟨hspec.left, ?_⟩
    refine (hstage.prudent hspec.right).moves.preserves (I := ReviewsCalm) ?_ hcalm
    intro l d d' hl hmove hd
    exact hmove.reviewsCalm hl.right hd

theorem Move.casesGrow {x : Stage World Event} {l : Label} {db db' : Database}
    (h : Move l db db') (hcalm : ReviewsCalm db)
    (hgrow : CasesGrow x.before.db db) : CasesGrow x.before.db db' :=
  hgrow.trans fun _ _ hc => h.case.asUrgent hcalm hc

/--
Urgency and reasons of a case only grow.  In every run whose handoff decisions are
those of the policy, no step makes a case less urgent, takes a reason away or lowers
its risk level: the priority `p1` that a failed delivery writes into a review is
never a step back, since no review is of priority `p0`.
-/
theorem case_urgency_only_grows {stages : List (Stage World Event)} {w : World}
    (h : World.Runs stages w)
    (hpolicy : forall x, x ∈ stages ->
      x.event.BegunWith PolicyDecision x.before x.after)
    {x : Stage World Event} (hx : x ∈ stages) {id : UUID} {c : SupportCase}
    (hc : x.before.db.cases.rows.get id = some c) :
    exists c', x.after.db.cases.rows.get id = some c' ∧
      priorityRank c'.priority ≤ priorityRank c.priority ∧
      (forall r, r ∈ c.reasonCodes -> r ∈ c'.reasonCodes) ∧
      (forall a, c.riskLevel = some a ->
        exists b, c'.riskLevel = some b ∧ riskLevelRank a ≤ riskLevelRank b) := by
  have hstage := h.prudent hpolicy x hx
  have hkept := hstage.did.moves.preserves
    (I := fun d => ReviewsCalm d ∧ CasesGrow x.before.db d) ?_
    ⟨hstage.calm, fun _ c hc => ⟨c, hc, AsUrgent.refl c⟩⟩
  · rcases hkept.right id c hc with ⟨c', hc', hle⟩
    exact ⟨c', hc', hle.priority, hle.reasons, hle.risk⟩
  · rintro l d d' ⟨_, hl⟩ hmove ⟨hcalm, hgrow⟩
    exact ⟨hmove.reviewsCalm hl hcalm, hmove.casesGrow hcalm hgrow⟩

/-- The customer reports a late package and nothing else. -/
def samplePolicyInput : HandoffPolicyInput :=
  domainInput [HandoffReason.deliveryOverdueInvestigation]

/-- The case has the identifier 0 and its command the identifier 2. -/
def sampleOverdue : World :=
  (World.initial sampleIds).serve
    (recordDeliveryInvestigation sampleCustomer sampleTrigger
      (determineHandoffPolicy samplePolicyInput) DeliveryIssueType.delayed
      "connection" (fun _ => 0))

theorem sampleOverdue_runs : exists stages, World.Runs stages sampleOverdue ∧
    forall x, x ∈ stages -> x.event.BegunWith PolicyDecision x.before x.after ∧
      x.event.ofCall = true := by
  have hstart : World.Runs [] (World.initial sampleIds) := ⟨sampleIds, Run.nil _⟩
  exact hstart.serve_begun
    (Method.recordDeliveryInvestigation sampleCustomer sampleTrigger
      (determineHandoffPolicy samplePolicyInput) DeliveryIssueType.delayed "connection"
      (fun _ => 0) trivial)
    (Method.recordDeliveryInvestigation sampleCustomer sampleTrigger
      (determineHandoffPolicy samplePolicyInput) DeliveryIssueType.delayed "connection"
      (fun _ => 0) (PolicyDecision.policy samplePolicyInput))

def sampleOverdueClaimed : World :=
  sampleOverdue.perform (sampleInvestigationClaim 0)

def sampleOverdueHandle : ClaimedOutboxMessage :=
  sampleOverdueClaimed.handles.head (by decide +kernel)

/-- The worker ends the delivery of the command. -/
def sampleOverdueEnded (verdict : Verdict) : World :=
  sampleOverdueClaimed.perform (Job.finalizeOutbox sampleOverdueHandle verdict 0)

theorem World.Runs.job_stage {stages : List (Stage World Event)} {w : World}
    (h : World.Runs stages w) {j : Job} (hj : j.Admissible w.handles) :
    exists x, World.Runs (stages ++ [x]) (w.perform j) ∧ x.before = w ∧
      x.event = Event.job j ∧ x.after = w.perform j :=
  ⟨_, h.job hj, rfl, rfl, rfl⟩

theorem sampleOverdueClaimed_runs : exists stages,
    World.Runs stages sampleOverdueClaimed ∧ forall x, x ∈ stages ->
      x.event.BegunWith PolicyDecision x.before x.after ∧ (x.event.ofCall = true ∨
        x.event = Event.job (sampleInvestigationClaim 0)) := by
  rcases sampleOverdue_runs with ⟨stages, hrun, hbegun⟩
  rcases hrun.job_stage (j := sampleInvestigationClaim 0) trivial with
    ⟨x, hclaimed, _, hevent, _⟩
  refine ⟨_, hclaimed, ?_⟩
  intro y hy
  rcases List.mem_append.mp hy with hy | hy
  · exact ⟨(hbegun y hy).left, Or.inl (hbegun y hy).right⟩
  · rw [List.mem_singleton.mp hy]
    refine ⟨fun he => ?_, Or.inr hevent⟩
    rw [hevent] at he
    cases he

theorem sampleOverdueEnded_runs (verdict : Verdict) : exists stages x,
    World.Runs (stages ++ [x]) (sampleOverdueEnded verdict) ∧
    (forall y, y ∈ stages ++ [x] ->
      y.event.BegunWith PolicyDecision y.before y.after) ∧
    (forall y, y ∈ stages -> y.event.ofCall = true ∨
      y.event = Event.job (sampleInvestigationClaim 0)) ∧
    x.before = sampleOverdueClaimed ∧ x.after = sampleOverdueEnded verdict ∧
    x.event = Event.job (Job.finalizeOutbox sampleOverdueHandle verdict 0) := by
  rcases sampleOverdueClaimed_runs with ⟨stages, hclaimed, hbegun⟩
  have hhandle : (Job.finalizeOutbox sampleOverdueHandle verdict 0).Admissible
      sampleOverdueClaimed.handles := List.head_mem _
  rcases hclaimed.job_stage hhandle with ⟨x, hended, hbefore, hevent, hafter⟩
  refine ⟨stages, x, hended, ?_, fun y hy => (hbegun y hy).right, hbefore, hafter, hevent⟩
  intro y hy
  rcases List.mem_append.mp hy with hy | hy
  · exact (hbegun y hy).left
  · rw [List.mem_singleton.mp hy]
    intro he
    rw [hevent] at he
    cases he

def sampleTerminal : Verdict :=
  Verdict.terminalFailure ProviderFailureKind.validationError none none

/-- The case of the late package, before and after its command is given up. -/
theorem case_urgency_only_grows_overdue : exists stages c c',
    World.Runs stages (sampleOverdueEnded sampleTerminal) ∧
    sampleOverdueClaimed.db.cases.rows.get 0 = some c ∧
    (sampleOverdueEnded sampleTerminal).db.cases.rows.get 0 = some c' ∧
    priorityRank c'.priority ≤ priorityRank c.priority ∧
    HandoffReason.deliveryOverdueInvestigation ∈ c'.reasonCodes := by
  rcases sampleOverdueEnded_runs sampleTerminal with
    ⟨stages, x, hrun, hbegun, _, hbefore, hafter, _⟩
  have hcase : exists c, sampleOverdueClaimed.db.cases.rows.get 0 = some c ∧
      HandoffReason.deliveryOverdueInvestigation ∈ c.reasonCodes := by
    decide +kernel
  have hmem : x ∈ stages ++ [x] := List.mem_append_right _ (List.mem_singleton.mpr rfl)
  rcases hcase with ⟨c, hc, hreason⟩
  rw [← hbefore] at hc ⊢
  rw [← hafter] at hrun ⊢
  rcases case_urgency_only_grows hrun hbegun hmem hc with ⟨c', hc', hle, hreasons, _⟩
  exact ⟨_, c, c', hrun, hc, hc', hle, hreasons _ hreason⟩

/-!
## The priority of a case and its reasons
-/

/-- Every case is as urgent as each of its reasons. -/
def PriorityCovers (db : Database) : Prop :=
  forall c, c ∈ db.cases.rows.rows -> forall r, r ∈ c.reasonCodes ->
    priorityRank c.priority ≤ priorityRank r.priority

/-- Every investigation whose command is dead is as urgent as a failed delivery. -/
def FailedUrgent (db : Database) : Prop :=
  forall m, m ∈ db.outbox.messages.rows -> m.status = OutboxDeliveryStatus.dead ->
    m.aggregateType = ProviderAggregateType.supportCase ->
    exists c, db.cases.rows.get m.aggregateId = some c ∧
      priorityRank c.priority ≤ priorityRank CasePriority.p1

/-- The job of the stage has committed, if it has one. -/
def Committed (x : Stage World Event) : Prop :=
  forall j, x.event = Event.job j -> exists r, j.transaction x.before.db = Except.ok r

theorem GoodStage.committed_or_same {x : Stage World Event} (h : GoodStage x) :
    Committed x ∨ x.after.db = x.before.db := by
  by_cases hsame : x.after.db = x.before.db
  · exact Or.inr hsame
  refine Or.inl fun j hevent => ?_
  have hstep := h.step
  rw [hevent] at hstep
  generalize hafter : x.after = w at hstep hsame
  cases hstep with
  | job hadmissible =>
      unfold World.perform at hsame
      cases htx : j.transaction x.before.db with
      | ok r => exact ⟨r, rfl⟩
      | error e =>
          rw [htx] at hsame
          exact absurd rfl hsame

/--
Where a command fails, its investigation is already of priority `p1` or `p0`: when
the finalizer adds the reason, and when a recovery meets the eighth attempt.  A job
that raises fails no command.
-/
structure FailsUrgent (x : Stage World Event) : Prop where
  finalized : forall claimed verdict now c,
    x.event = Event.job (Job.finalizeOutbox claimed verdict now) ->
    (exists r, (Job.finalizeOutbox claimed verdict now).transaction x.before.db =
      Except.ok r) ->
    verdict.finalization.target = FinalTarget.dead ->
    x.before.db.cases.rows.get claimed.aggregateId = some c ->
    c.caseType = CaseType.deliveryInvestigation ->
    HandoffReason.providerDeliveryFailed ∉ c.reasonCodes ->
    priorityRank c.priority ≤ priorityRank CasePriority.p1
  recovered : forall batchSize scan clock m c,
    x.event = Event.job (Job.recoverOutbox batchSize scan clock) ->
    (exists r, (Job.recoverOutbox batchSize scan clock).transaction x.before.db =
      Except.ok r) ->
    m ∈ expiredOutbox x.before.db scan clock batchSize ->
    m.aggregateType = ProviderAggregateType.supportCase -> 8 ≤ m.attemptsInCycle ->
    x.before.db.cases.rows.get m.aggregateId = some c ->
    priorityRank c.priority ≤ priorityRank CasePriority.p1

theorem OpenGround.covers {c : SupportCase} (h : OpenGround PolicyDecision c)
    {r : HandoffReason} (hr : r ∈ c.reasonCodes) :
    priorityRank c.priority ≤ priorityRank r.priority := by
  cases h with
  | decided hd kind priority reasons =>
      rw [reasons] at hr
      exact hd.covers priority hr
  | technical kind priority reasons =>
      rw [reasons] at hr
      rw [priority, List.mem_singleton.mp hr]
      decide

theorem UpdateGround.covers {c c' : SupportCase} (h : UpdateGround PolicyDecision c c')
    (hcalm : c.caseType = CaseType.orderOperationReview ->
      priorityRank CasePriority.p1 ≤ priorityRank c.priority)
    (hc : forall r, r ∈ c.reasonCodes -> priorityRank c.priority ≤ priorityRank r.priority)
    {r : HandoffReason} (hr : r ∈ c'.reasonCodes) :
    priorityRank c'.priority ≤ priorityRank r.priority := by
  cases h with
  | kept priority reasons =>
      rw [reasons] at hr
      rw [priority]
      exact hc r hr
  | @decided d p hd kind decision priority reasons =>
      rw [reasons] at hr
      rw [priority]
      have hle := selectHigherPriority_le c.priority p
      rcases List.mem_append.mp (mem_fromKeys.mp hr) with hr | hr
      · exact Nat.le_trans hle.left (hc r hr)
      · exact Nat.le_trans hle.right (hd.covers decision hr)
  | technical kind priority reasons =>
      rw [reasons] at hr
      rw [priority]
      rcases List.mem_append.mp (mem_fromKeys.mp hr) with hr | hr
      · exact Nat.le_trans (hcalm kind) (hc r hr)
      · rw [List.mem_singleton.mp hr]
        decide

theorem DeliveryFailed.covers {x : Stage World Event} {c c' : SupportCase}
    (h : DeliveryFailed x c c') (hx : FailsUrgent x) (hok : Committed x)
    (hc : forall r, r ∈ c.reasonCodes -> priorityRank c.priority ≤ priorityRank r.priority)
    {r : HandoffReason} (hr : r ∈ c'.reasonCodes) :
    priorityRank c'.priority ≤ priorityRank r.priority := by
  rcases h.event with ⟨claimed, verdict, now, hevent, hdead, hid⟩
  rw [h.undelivered.priority]
  rw [h.undelivered.reasons] at hr
  rcases List.mem_append.mp hr with hr | hr
  · exact hc r hr
  · have hget := h.get
    rw [← hid] at hget
    rw [List.mem_singleton.mp hr]
    exact hx.finalized claimed verdict now c hevent (hok _ hevent) hdead hget
      h.undelivered.kind h.undelivered.fresh

theorem Move.priorityCovers {x : Stage World Event} {l : Label} {db db' : Database}
    (h : Move l db db') (hl : Prudent x l) (hx : FailsUrgent x)
    (hok : Committed x) (hcalm : ReviewsCalm db) (hdb : PriorityCovers db) :
    PriorityCovers db' := by
  intro k hk r hr
  rcases h.case.row_cases hk with hold | ⟨e, hlabel⟩ | ⟨c, es, hlabel, hc, hchange⟩
  · exact hdb k hold r hr
  · rcases hl with hground | ⟨c, c', es, hupdate, _⟩
    · rw [hlabel] at hground
      exact OpenGround.covers hground hr
    · rw [hlabel] at hupdate
      cases hupdate
  · rcases hl with hground | ⟨c₁, c₂, es', hupdate, hfailed⟩
    · rw [hlabel] at hground
      exact UpdateGround.covers hground (hcalm c hc) (hdb c hc) hr
    · rw [hlabel] at hupdate
      cases hupdate
      exact hfailed.covers hx hok (hdb c hc) hr

theorem Move.failed_new {x : Stage World Event} {l : Label} {db db' : Database}
    (h : Move l db db') (hl : x.event.permits x.before.db l) (hx : FailsUrgent x)
    (hok : Committed x) (hsound : Sound x.before.db) (hgrow : CasesGrow x.before.db db')
    (hcovers : PriorityCovers db') {m : OutboxMessage} (hm : l.outbox.result = some m)
    (hdead : m.status = OutboxDeliveryStatus.dead)
    (hkind : m.aggregateType = ProviderAggregateType.supportCase) :
    exists c, db'.cases.rows.get m.aggregateId = some c ∧
      priorityRank c.priority ≤ priorityRank CasePriority.p1 := by
  by_cases hkeeps : l.keepsInvestigations
  · rcases h.marked_new hkeeps hm hdead hkind with ⟨c, hc⟩
    exact ⟨c, hc.get, hcovers c (Table.mem_of_get hc.get) _ hc.reason⟩
  · simp only [Label.keepsInvestigations, ne_eq, not_forall, not_not] at hkeeps
    rcases hkeeps with ⟨now, deadAt, updatedAt, m₀, a, hlabel, hcase⟩
    rw [hlabel] at hm
    cases hm
    rcases Event.finish_cases hl hlabel with ⟨c, v, now, now', _, he⟩ |
      ⟨retry, now, he⟩ | ⟨n, scan, clock, now, first, second, hevent, hm₀, he⟩
    · cases he
    · cases he
    · have heighth : 8 ≤ m₀.attemptsInCycle := by
        unfold expiryOf at he
        split at he
        · cases he
        · exact Nat.le_of_not_lt ‹_›
      have hmem := Table.mem_of_get (expiredOutbox_held hm₀).left
      rcases hsound.investigated m₀ hmem hcase with ⟨c, hc, _⟩
      rcases hgrow _ c hc with ⟨c', hc', hle⟩
      exact ⟨c', hc', Nat.le_trans hle.priority
        (hx.recovered n scan clock m₀ c hevent (hok _ hevent) hm₀ hcase heighth hc)⟩

theorem Move.failedUrgent {x : Stage World Event} {l : Label} {db db' : Database}
    (h : Move l db db') (hl : x.event.permits x.before.db l) (hx : FailsUrgent x)
    (hok : Committed x) (hsound : Sound x.before.db) (hcalm : ReviewsCalm db)
    (hgrow : CasesGrow x.before.db db') (hcovers : PriorityCovers db')
    (hdb : FailedUrgent db) : FailedUrgent db' := by
  intro m hm hdead hkind
  rcases h.outbox.origin hm with hresult | ⟨hold, _⟩
  · exact h.failed_new hl hx hok hsound hgrow hcovers hresult hdead hkind
  · rcases hdb m hold hdead hkind with ⟨c, hc, hp1⟩
    rcases h.case.asUrgent hcalm hc with ⟨c', hc', hle⟩
    exact ⟨c', hc', Nat.le_trans hle.priority hp1⟩

/--
The priority of a case reflects its reasons, in every run with the decisions of the
policy in which no job that commits fails the command of an investigation while the
case is of priority `p2` or `p3`.  The finalizer adds the reason of priority `p1` and leaves the
priority of the case alone, and the recovery of an eighth lease changes nothing.
-/
theorem case_priority_reflects_reasons {stages : List (Stage World Event)} {w : World}
    (h : World.Runs stages w)
    (hpolicy : forall x, x ∈ stages ->
      x.event.BegunWith PolicyDecision x.before x.after)
    (hurgent : forall x, x ∈ stages -> FailsUrgent x) :
    PriorityCovers w.db ∧ FailedUrgent w.db := by
  have hprudent := h.prudent hpolicy
  rcases h with ⟨ids, hrun⟩
  refine (hrun.invariant (I := fun w => PriorityCovers w.db ∧ FailedUrgent w.db)
    (C := fun x => PrudentStage x ∧ FailsUrgent x) ?_ ?_ ?_).left
  · rintro x ⟨hstage, hx⟩ _ ⟨hcovers, hfailed⟩
    rcases hstage.good.committed_or_same with hok | hsame
    swap
    · rw [hsame]
      exact ⟨hcovers, hfailed⟩
    have hkept := hstage.did.moves.preserves
      (I := fun d => ReviewsCalm d ∧ CasesGrow x.before.db d ∧ PriorityCovers d ∧
        FailedUrgent d) ?_
      ⟨hstage.calm, fun _ c hc => ⟨c, hc, AsUrgent.refl c⟩, hcovers, hfailed⟩
    · exact hkept.right.right
    · rintro l d d' ⟨hpermits, hl⟩ hmove ⟨hcalm, hgrow, hcovers, hfailed⟩
      have hgrow' := hmove.casesGrow hcalm hgrow
      have hcovers' := hmove.priorityCovers hl hx hok hcalm hcovers
      exact ⟨hmove.reviewsCalm hl hcalm, hgrow', hcovers',
        hmove.failedUrgent hpermits hx hok hstage.good.before.sound hcalm hgrow' hcovers'
          hfailed⟩
  · exact ⟨fun c hc => (by cases hc), fun m hm => (by cases hm)⟩
  · exact fun x hx => ⟨hprudent x hx, hurgent x hx⟩

theorem sampleTaken_nonEmpty :
    some "op-1" ≠ some "" ∧ (none : Option String) ≠ some "" := by
  decide

/-- The provider takes the command of the investigation. -/
def sampleTaken : Verdict :=
  Verdict.accepted
    { commandId := 2
      providerOperationId := some "op-1"
      providerReference := none
      status := ProviderCommandAcceptanceStatus.accepted
      receivedAt := 0
      nonEmpty := sampleTaken_nonEmpty }

theorem sampleOverdue_failsUrgent {stages : List (Stage World Event)}
    {x : Stage World Event}
    (h : forall y, y ∈ stages -> y.event.ofCall = true ∨
      y.event = Event.job (sampleInvestigationClaim 0))
    (hx : x.event = Event.job (Job.finalizeOutbox sampleOverdueHandle sampleTaken 0)) :
    forall y, y ∈ stages ++ [x] -> FailsUrgent y := by
  intro y hy
  rcases List.mem_append.mp hy with hy | hy
  · -- neither a call nor the claim ends an attempt
    constructor
    · intro claimed verdict now c hevent
      rcases h y hy with hcall | hclaim
      · rw [hevent] at hcall
        cases hcall
      · rw [hevent] at hclaim
        cases hclaim
    · intro batchSize scan clock m c hevent
      rcases h y hy with hcall | hclaim
      · rw [hevent] at hcall
        cases hcall
      · rw [hevent] at hclaim
        cases hclaim
  · rw [List.mem_singleton.mp hy]
    constructor
    · intro claimed verdict now c hevent _ hdead
      rw [hx] at hevent
      injection hevent with hjob
      injection hjob with _ hverdict
      rw [← hverdict] at hdead
      cases hdead
    · intro batchSize scan clock m c hevent
      rw [hx] at hevent
      injection hevent with hjob
      injection hjob

theorem case_priority_reflects_reasons_overdue : exists stages c,
    World.Runs stages (sampleOverdueEnded sampleTaken) ∧
    c ∈ (sampleOverdueEnded sampleTaken).db.cases.rows.rows ∧
    HandoffReason.deliveryOverdueInvestigation ∈ c.reasonCodes ∧
    priorityRank c.priority ≤
      priorityRank HandoffReason.deliveryOverdueInvestigation.priority := by
  rcases sampleOverdueEnded_runs sampleTaken with
    ⟨stages, x, hrun, hbegun, hevents, _, _, hevent⟩
  have hurgent := sampleOverdue_failsUrgent hevents hevent
  have hcase : exists c, c ∈ (sampleOverdueEnded sampleTaken).db.cases.rows.rows ∧
      HandoffReason.deliveryOverdueInvestigation ∈ c.reasonCodes := by decide +kernel
  have hcovers := (case_priority_reflects_reasons hrun hbegun hurgent).left
  generalize sampleOverdueEnded sampleTaken = w at hrun hcase hcovers ⊢
  rcases hcase with ⟨c, hc, hreason⟩
  exact ⟨_, c, hrun, hc, hreason, hcovers c hc _ hreason⟩

/-- The late package: the reason of its failed command is of priority `p1`, the case not. -/
theorem case_priority_below_reason : ¬forall stages (w : World), World.Runs stages w ->
    (forall x, x ∈ stages -> x.event.BegunWith PolicyDecision x.before x.after) ->
    PriorityCovers w.db ∧ FailedUrgent w.db := by
  intro h
  rcases sampleOverdueEnded_runs sampleTerminal with ⟨stages, x, hrun, hbegun, _⟩
  have hcovers := (h _ _ hrun hbegun).left
  have hcase : exists c, c ∈ (sampleOverdueEnded sampleTerminal).db.cases.rows.rows ∧
      HandoffReason.providerDeliveryFailed ∈ c.reasonCodes ∧
      c.priority = CasePriority.p2 := by decide +kernel
  generalize sampleOverdueEnded sampleTerminal = w at hcovers hcase
  rcases hcase with ⟨c, hc, hreason, hpriority⟩
  have hle := hcovers c hc _ hreason
  rw [hpriority] at hle
  exact absurd hle (by decide)

end RefundAgent
