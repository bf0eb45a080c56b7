import RefundAgent.Foundation.Chronicle
import RefundAgent.System.Delivery

/-!
# The history of a case

The events of a case, in the order in which they were committed, tell its
status, the reason of its hold, its priority and its agent.  Every writer of
cases writes the row and the event that tells the change in one transaction, and
each of them has read the row that it changes.

One statement could break this: the finalizer of a failed command leaves its
event out when the key is taken.  It never is, because the same transaction
writes an event of the operation under a key that is taken in the same cases.
-/

namespace RefundAgent

open Foundation

/-!
## The keys of the finalizer
-/

theorem deliveryKey_under (commandId : UUID) (cycle : Nat) (suffix : String) :
    KeyUnder Writer.delivery.head (deliveryKey commandId cycle suffix) := by
  refine ⟨toString commandId ++ ":cycle:" ++ toString cycle ++ ":" ++ suffix, ?_⟩
  have hhead : "provider-command:" = Writer.delivery.head ++ ":" := rfl
  unfold deliveryKey
  rw [hhead]
  simp only [String.append_assoc]

theorem deliveryKey_suffix {id id' : UUID} {n n' : Nat} {suffix : String}
    (h : deliveryKey id n suffix = deliveryKey id' n' suffix) (other : String) :
    deliveryKey id n other = deliveryKey id' n' other := by
  unfold deliveryKey at h ⊢
  rw [Text.append_left_inj h]

theorem deliveryKey_last {id : UUID} {n : Nat} {suffix : String} {c : Char}
    (h : suffix.toList.getLast? = some c) :
    (deliveryKey id n suffix).toList.getLast? = some c := by
  unfold deliveryKey
  rw [String.toList_append, List.getLast?_append, h]
  rfl

theorem deliveryKey_ne_word {id id' : UUID} {n n' : Nat} (target : FinalTarget) :
    deliveryKey id n "technical-review" ≠ deliveryKey id' n' target.word := by
  intro h
  have hreview := @deliveryKey_last id n _ 'w'
    (by decide : "technical-review".toList.getLast? = some 'w')
  have hword : target.word.toList.getLast? = some 'd' := by
    cases target <;> decide
  rw [h, deliveryKey_last hword] at hreview
  exact absurd hreview (by decide)

theorem RedriveAudited.apart {r : OutboxRedrive} {ev : SupportCaseEvent}
    (h : RedriveAudited r ev) : ¬KeyUnder Writer.delivery.head ev.idempotencyKey := by
  intro hunder
  have hredrive : KeyUnder redriveHead ev.idempotencyKey := by
    refine ⟨r.tenantId.text ++ ":" ++ toString r.redriveId, ?_⟩
    have hhead : "provider-redrive:" = redriveHead ++ ":" := rfl
    rw [h.key, hhead]
    simp only [String.append_assoc]
  have hheads := KeyUnder.head_eq (Writer.colon_not_mem_head Writer.delivery) (by decide)
    hunder hredrive
  exact absurd hheads (by decide)

/-- Where a technical review has been recorded on a case, the operation has it too. -/
def Countersigned (db : Database) : Prop :=
  forall x, x ∈ db.cases.events.rows -> forall id n,
    x.idempotencyKey = deliveryKey id n "technical-review" ->
    exists y, y ∈ db.operations.events.rows ∧
      y.idempotencyKey = deliveryKey id n "status"

theorem Countersigned.initial (ids : Supply) : Countersigned (Database.initial ids) :=
  fun x hx => (by cases hx)

theorem Move.countersigns {l : Label} {db db' : Database} (h : Move l db db')
    {x : SupportCaseEvent} (hx : x ∈ l.case.events) {id : UUID} {n : Nat}
    (hkey : x.idempotencyKey = deliveryKey id n "technical-review") :
    exists y, y ∈ l.operation.events ∧ y.idempotencyKey = deliveryKey id n "status" := by
  have hunder : KeyUnder Writer.delivery.head x.idempotencyKey := by
    rw [hkey]
    exact deliveryKey_under id n _
  have hcombined := h.combined
  rcases l with ⟨lo, lc, lx, li, lr⟩
  cases hcombined with
  | fallback hchange hl keys => exact absurd hunder (hchange.caseKeys x hx)
  | changeCase hl keys => exact absurd hunder (keys x hx)
  | queueInvestigation hl hc hqueued keys => exact absurd hunder (keys x hx)
  | settleOperation a hsettled hl recorded =>
      have hsame := deliveryKey_suffix (hkey.symm.trans (hsettled.caseKeys x hx)) "status"
      rw [hsame]
      exact recorded
  | settleCase a hsettled =>
      rcases hsettled.finalized with ⟨v, now, _, hword, _⟩
      rcases hsettled.label with hlabel | ⟨c₀, hlabel⟩
      all_goals
        have hx' := hx
        rw [hlabel] at hx'
        rw [List.mem_singleton.mp hx', hword] at hkey
        exact absurd hkey.symm (deliveryKey_ne_word _)
  | redriveOperation hredriven audit =>
      rw [List.mem_singleton.mp hx] at hunder
      exact absurd hunder (audit.apart)
  | redriveCase kind audit =>
      rw [List.mem_singleton.mp hx] at hunder
      exact absurd hunder (audit.apart)
  | callbackCase keys => exact absurd hunder (keys x hx)
  | _ => cases hx

theorem Move.countersigned {l : Label} {db db' : Database} (h : Move l db db')
    (hdb : Countersigned db) : Countersigned db' := by
  intro x hx id n hkey
  rw [h.case.events_eq] at hx
  rw [h.operation.events_eq]
  rcases List.mem_append.mp hx with hx | hx
  · rcases hdb x hx id n hkey with ⟨y, hy, hykey⟩
    exact ⟨y, List.mem_append_left _ hy, hykey⟩
  · rcases h.countersigns hx hkey with ⟨y, hy, hykey⟩
    exact ⟨y, List.mem_append_right _ hy, hykey⟩

theorem Move.event_of_update {l : Label} {db db' : Database} (h : Move l db db')
    (hdb : Countersigned db) {c c' : SupportCase} :
    l.case ≠ CaseLabel.update c c' [] := by
  intro hl
  rcases h.silent c c' hl with ⟨e, m, a, x, hout, hx, hkey⟩
  rcases hdb x hx m.commandId m.deliveryCycle hkey with ⟨y, hy, hykey⟩
  have hcombined := h.combined
  have hstep := h.operation
  rcases l with ⟨lo, lc, lx, li, lr⟩
  cases hout
  cases hl
  cases hcombined with
  | settleOperation a hsettled hl recorded =>
      rcases recorded with ⟨z, hz, hzkey⟩
      exact hstep.events_unused hz y hy (hykey.trans hzkey.symm)
  | settleCase a hsettled =>
      rcases hsettled.label with hlabel | ⟨c₀, hlabel⟩
      · cases hlabel
      · cases hlabel

/-!
## The log of a case
-/

/-- The events of a case in the order of their commits. -/
def CaseTables.log (t : CaseTables) (id : UUID) : List SupportCaseEvent :=
  t.events.rows.filter fun e => decide (e.caseId = id)

theorem CaseTables.log_append {t u : CaseTables} {es : List SupportCaseEvent}
    (h : u.events.rows = t.events.rows ++ es) (id : UUID) :
    u.log id = t.log id ++ es.filter fun e => decide (e.caseId = id) := by
  unfold CaseTables.log
  rw [h, List.filter_append]

/-- The log of a case tells what the case is, and names none but its reasons. -/
structure Reconstructed (t : CaseTables) (c : SupportCase) : Prop where
  told : Chronicle CaseFacts.read CaseFacts.Recalled CaseFacts.unknown (t.log c.caseId)
    c.facts
  reasons : forall e, e ∈ t.log c.caseId -> forall r, r ∈ e.reasonCodes ->
    r ∈ c.reasonCodes

theorem Reconstructed.of_others {t u : CaseTables} {es : List SupportCaseEvent}
    {c : SupportCase} (h : Reconstructed t c) (happended : u.events.rows = t.events.rows ++ es)
    (hes : forall e, e ∈ es -> e.caseId ≠ c.caseId) : Reconstructed u c := by
  have hlog : u.log c.caseId = t.log c.caseId := by
    rw [CaseTables.log_append happended]
    have hnone : es.filter (fun e => decide (e.caseId = c.caseId)) = [] := by
      rw [List.filter_eq_nil_iff]
      intro e he hid
      exact hes e he (of_decide_eq_true hid)
    rw [hnone, List.append_nil]
  constructor
  · rw [hlog]
    exact h.told
  · rw [hlog]
    exact h.reasons

theorem Reconstructed.step {t u : CaseTables} {c c' : SupportCase} {e : SupportCaseEvent}
    (h : Reconstructed t c) (happended : u.events.rows = t.events.rows ++ [e])
    (hid : e.caseId = c.caseId) (hid' : c'.caseId = c.caseId)
    (hreasons : forall r, r ∈ c.reasonCodes -> r ∈ c'.reasonCodes)
    (he : Recounts c.facts c' e) : Reconstructed u c' := by
  have hlog : u.log c'.caseId = t.log c.caseId ++ [e] := by
    rw [CaseTables.log_append happended, hid']
    congr 1
    exact List.filter_eq_self.mpr fun d hd => by
      rw [List.mem_singleton.mp hd]
      exact decide_eq_true hid
  constructor
  · rw [hlog, ← he.facts]
    exact h.told.snoc he.recalled
  · intro d hd r hr
    rw [hlog] at hd
    rcases List.mem_append.mp hd with hd | hd
    · exact hreasons r (h.reasons d hd r hr)
    · rw [List.mem_singleton.mp hd] at hr
      exact he.reasons r hr

/-- Every case is what its log tells. -/
def Logged (t : CaseTables) : Prop :=
  forall c, c ∈ t.rows.rows -> Reconstructed t c

theorem Reconstructed.opened {t u : CaseTables} {c : SupportCase} {e : SupportCaseEvent}
    (ht : CaseSound t) (hfree : t.rows.get c.caseId = none)
    (happended : u.events.rows = t.events.rows ++ [e]) (hid : e.caseId = c.caseId)
    (he : Recounts CaseFacts.unknown c e) : Reconstructed u c := by
  have hold : t.log c.caseId = [] := by
    unfold CaseTables.log
    rw [List.filter_eq_nil_iff]
    intro d hd hsame
    rcases ht.owned d hd with ⟨r, hr, _⟩
    rw [of_decide_eq_true hsame, hfree] at hr
    cases hr
  have hlog : u.log c.caseId = [] ++ [e] := by
    rw [CaseTables.log_append happended, hold]
    congr 1
    exact List.filter_eq_self.mpr fun d hd => by
      rw [List.mem_singleton.mp hd]
      exact decide_eq_true hid
  constructor
  · rw [hlog, ← he.facts]
    exact Chronicle.nil.snoc he.recalled
  · intro d hd r hr
    rw [hlog, List.nil_append] at hd
    rw [List.mem_singleton.mp hd] at hr
    exact he.reasons r hr

theorem CaseStep.logged {l : CaseLabel} {t u : CaseTables} (h : CaseStep l t u)
    (hloud : forall c c', l ≠ CaseLabel.update c c' []) (ht : CaseSound t)
    (hlogged : Logged t) : Logged u := by
  -- the case of the event, and every other case
  have hrest : forall {d : SupportCase} {e : SupportCaseEvent} {id : UUID},
      d ∈ t.rows.rows -> u.events.rows = t.events.rows ++ [e] -> e.caseId = id ->
      d.caseId ≠ id -> Reconstructed u d := by
    intro d e id hd happended hid hne
    refine (hlogged d hd).of_others happended fun x hx => ?_
    rw [List.mem_singleton.mp hx, hid]
    exact Ne.symm hne
  have hrecord : forall {c : SupportCase} {e : SupportCaseEvent},
      t.rows.get c.caseId = some c -> u.rows = t.rows ->
      u.events.rows = t.events.rows ++ [e] -> e.caseId = c.caseId ->
      Recounts c.facts c e -> Logged u := by
    intro c e hget hrows happended hid he d hd
    rw [hrows] at hd
    by_cases hsame : d.caseId = c.caseId
    · rw [Table.eq_of_key_eq hd (Table.mem_of_get hget) hsame]
      exact (hlogged c (Table.mem_of_get hget)).step happended hid rfl (fun _ hr => hr) he
    · exact hrest hd happended hid hsame
  cases h with
  | keep => exact hlogged
  | @create _ _ c e insert valid checks free owner events keys told =>
      rcases Table.insert?_eq_some.mp insert with ⟨hfree, hrows⟩
      intro d hd
      rw [hrows] at hd
      rcases List.mem_append.mp hd with hd | hd
      · refine hrest hd events.appended owner.id ?_
        intro hsame
        have hget := Table.get_of_mem hd
        rw [hsame, hfree] at hget
        cases hget
      · rw [List.mem_singleton.mp hd]
        exact Reconstructed.opened ht hfree events.appended owner.id told
  | @update _ _ c c' es get change checks free owner rows events keys told single =>
      have hid := caseId_of_frozen change.frozen
      cases es with
      | nil => exact absurd rfl (hloud c c')
      | cons e rest =>
          have hnil : rest = [] := by
            cases rest with
            | nil => rfl
            | cons d rest =>
                simp only [List.length_cons] at single
                omega
          subst hnil
          intro d hd
          rw [rows] at hd
          rcases Table.mem_put hd with rfl | ⟨hd, hne⟩
          · exact (hlogged c (Table.mem_of_get get)).step events.appended
              (owner e List.mem_cons_self).id hid change.reasons
              (told e List.mem_cons_self)
          · refine hrest hd events.appended (owner e List.mem_cons_self).id ?_
            rw [← hid]
            exact hne
  | record get owner rows events keys told =>
      exact hrecord get rows events.appended owner.id told
  | redrive get owner rows events told =>
      exact hrecord get rows events.appended owner.id told

/-!
## Every run
-/

structure Chronicled (db : Database) : Prop where
  sound : Sound db
  countersigned : Countersigned db
  logged : Logged db.cases

theorem Move.chronicled {l : Label} {db db' : Database} (h : Move l db db')
    (hdb : Chronicled db) : Chronicled db' where
  sound := h.sound hdb.sound
  countersigned := h.countersigned hdb.countersigned
  logged := h.case.logged (fun _ _ => h.event_of_update hdb.countersigned)
    hdb.sound.cases hdb.logged

theorem World.Runs.chronicled {stages : List (Stage World Event)} {w : World}
    (h : World.Runs stages w) : Chronicled w.db := by
  refine (h.kept (fun ids => ?_) fun _ _ _ hm _ hs => hm.chronicled hs).left
  exact ⟨Sound.initial ids, Countersigned.initial ids, fun c hc => (by cases hc)⟩

/--
The event log reconstructs the case.  In every state that a run reaches, reading
the events of a case in the order of their commits gives the status, the reason
of the hold, the priority and the agent of its row; the previous values that an
event names are the ones read before it; and the row has every reason of every
event.
-/
theorem case_log_reconstructs_case {w : World} (h : w.Reachable) {c : SupportCase}
    (hc : c ∈ w.db.cases.rows.rows) :
    (w.db.cases.log c.caseId).foldl CaseFacts.read CaseFacts.unknown =
        { status := some c.status
          onHoldReason := c.onHoldReason
          priority := some c.priority
          assignedAgentId := c.assignedAgentId } ∧
      (forall before e after, w.db.cases.log c.caseId = before ++ e :: after ->
        (before.foldl CaseFacts.read CaseFacts.unknown).Recalled e) ∧
      (forall e, e ∈ w.db.cases.log c.caseId -> forall r, r ∈ e.reasonCodes ->
        r ∈ c.reasonCodes) := by
  rcases h with ⟨stages, hrun⟩
  have hlog := hrun.chronicled.logged c hc
  exact ⟨hlog.told.result, hlog.told.recalled, hlog.reasons⟩

/-- A supervisor who works on cases. -/
def sampleCaseSupervisor : AccessScope :=
  { sampleScope with
    role := Role.supervisor
    permissions := [Permission.casesReadAll, Permission.casesUpdateAll,
      Permission.casesAssign] }

def sampleStaff : IdentityDirectory :=
  some fun tenantId userId => Except.ok (some
    { tenantId := tenantId
      userId := userId
      active := true
      roles := [Role.supportAgent] })

/-- The case of an investigation is assigned, taken into progress and put on hold. -/
def sampleHandled : World :=
  ((sampleInvestigated.serve
    (assignCase sampleCaseSupervisor sampleStaff 0 "agent" "assign" (fun _ => 0))).serve
    (changeStatus sampleCaseSupervisor 0 CaseStatus.inProgress "start" none
      (fun _ => 0))).serve
    (changeStatus sampleCaseSupervisor 0 CaseStatus.onHold "hold"
      (some OnHoldReason.waitingCustomer) (fun _ => 0))

theorem sampleHandled_reachable : sampleHandled.Reachable := by
  rcases sampleInvestigated_runs with ⟨stages, hrun, _⟩
  rcases hrun.serve (Method.assignCase sampleCaseSupervisor sampleStaff 0 "agent" "assign"
    (fun _ => 0)) with ⟨first, hfirst, _⟩
  rcases hfirst.serve (Method.changeStatus sampleCaseSupervisor 0 CaseStatus.inProgress
    "start" none (fun _ => 0)) with ⟨second, hsecond, _⟩
  rcases hsecond.serve (Method.changeStatus sampleCaseSupervisor 0 CaseStatus.onHold "hold"
    (some OnHoldReason.waitingCustomer) (fun _ => 0)) with ⟨third, hthird, _⟩
  exact ⟨_, hthird⟩

/-- The log of the case has an entry for each change, the last one for the hold. -/
theorem case_log_reconstructs_investigation : exists c,
    c ∈ sampleHandled.db.cases.rows.rows ∧ c.status = CaseStatus.onHold ∧
      (sampleHandled.db.cases.log c.caseId).length = 4 ∧
      (sampleHandled.db.cases.log c.caseId).foldl CaseFacts.read CaseFacts.unknown =
        { status := some c.status
          onHoldReason := c.onHoldReason
          priority := some c.priority
          assignedAgentId := c.assignedAgentId } := by
  have hcase : exists c, c ∈ sampleHandled.db.cases.rows.rows ∧
      c.status = CaseStatus.onHold ∧ (sampleHandled.db.cases.log c.caseId).length = 4 := by
    decide +kernel
  have hreachable := sampleHandled_reachable
  generalize sampleHandled = w at hcase hreachable ⊢
  rcases hcase with ⟨c, hc, hstatus, hlength⟩
  exact ⟨c, hc, hstatus, hlength, (case_log_reconstructs_case hreachable hc).left⟩

end RefundAgent
