import RefundAgent.Graph.Handoff
import RefundAgent.System.CaseWrites

/-!
# Undisturbed handoffs

What the handoff of a turn leaves behind when nothing else runs between its
transactions.  A try that fails writes nothing, so the try that succeeds sees
the tables as the handoff found them: it either finds a case with an event of
the same message, or opens a case, or merges the trigger into an open one.
-/

namespace RefundAgent

open Foundation

/-!
## The handoff
-/

section Handoff

variable {scope : AccessScope} {customerId : CleanText} {trigger : CaseTrigger}

inductive HandoffRun (scope : AccessScope) (trigger : CaseTrigger) (caseType : CaseType)
    (create : Time -> Call CaseServiceResult)
    (append : SupportCase -> Time -> Call CaseServiceResult) (db : Database) :
    CaseServiceResult -> Database -> Prop
  | duplicate {c : SupportCase} {db' : Database}
      (found : sourceCase scope trigger.threadId trigger.sourceMessageId db.cases =
        some c)
      (same : SameTables db db') :
      HandoffRun scope trigger caseType create append db
        ⟨CaseServiceAction.duplicateIgnored, some c, none⟩ db'
  | create {db₀ db' : Database} {now : Time} {result : CaseServiceResult}
      (fresh : sourceCase scope trigger.threadId trigger.sourceMessageId db.cases = none)
      (none_open : openCase scope trigger.threadId caseType trigger.orderId db.cases =
        none)
      (same : SameTables db db₀) (run : (create now).run db₀ = (Except.ok result, db')) :
      HandoffRun scope trigger caseType create append db result db'
  | append {c : SupportCase} {db₀ db' : Database} {now : Time}
      {result : CaseServiceResult}
      (fresh : sourceCase scope trigger.threadId trigger.sourceMessageId db.cases = none)
      (found : openCase scope trigger.threadId caseType trigger.orderId db.cases = some c)
      (same : SameTables db db₀)
      (run : (append c now).run db₀ = (Except.ok result, db')) :
      HandoffRun scope trigger caseType create append db result db'

theorem HandoffRun.after {caseType : CaseType} {create : Time -> Call CaseServiceResult}
    {append : SupportCase -> Time -> Call CaseServiceResult} {db db₁ db' : Database}
    {result : CaseServiceResult} (hsame : SameTables db db₁)
    (h : HandoffRun scope trigger caseType create append db₁ result db') :
    HandoffRun scope trigger caseType create append db result db' := by
  cases h with
  | duplicate found same =>
      rw [hsame.cases] at found
      exact HandoffRun.duplicate found (hsame.trans same)
  | create fresh none_open same run =>
      rw [hsame.cases] at fresh none_open
      exact HandoffRun.create fresh none_open (hsame.trans same) run
  | append fresh found same run =>
      rw [hsame.cases] at fresh found
      exact HandoffRun.append fresh found (hsame.trans same) run

theorem handoffAttempts_run_ok (hauth : scope.authentic = true)
    (hcustomer : scope.customerId = some customerId) {caseType : CaseType}
    {create : Time -> Call CaseServiceResult}
    {append : SupportCase -> Time -> Call CaseServiceResult} {failure : String}
    {clock : Nat -> Time} (hcreate : forall now, Unwritten (create now))
    (happend : forall c now, Unwritten (append c now)) :
    forall {n : Nat} {db db' : Database} {result : CaseServiceResult},
      (handoffAttempts scope trigger caseType create append failure clock n).run db =
        (Except.ok result, db') ->
      HandoffRun scope trigger caseType create append db result db' := by
  intro n
  induction n with
  | zero =>
      intro db db' result h
      cases h
  | succ n ih =>
      intro db db' result h
      unfold handoffAttempts at h
      rcases Program.run_perform_bind h with ⟨duplicate, db₁, hdup, h₁⟩
      rcases findCaseBySourceMessage_found hauth hcustomer hdup with ⟨rfl, hsource⟩
      cases duplicate with
      | some c =>
          cases h₁
          exact HandoffRun.duplicate hsource.symm (SameTables.refl _)
      | none =>
          rcases Program.run_perform_bind h₁ with ⟨existing, db₂, hopen, h₂⟩
          rcases findUnresolvedCase_found hauth hcustomer hopen with ⟨rfl, hfound⟩
          rcases Program.run_rescue_eq_ok h₂ with hrun | ⟨e, db₃, q, hrun, hq, hagain⟩
          · cases existing with
            | none => exact HandoffRun.create hsource.symm hfound.symm (SameTables.refl _) hrun
            | some c =>
                exact HandoffRun.append hsource.symm hfound.symm (SameTables.refl _) hrun
          · -- the try failed and wrote nothing, so the next one starts where it did
            have hsame : SameTables db₂ db₃ := by
              cases existing with
              | none => exact hcreate (clock n) _ _ _ hrun
              | some c => exact happend c (clock n) _ _ _ hrun
            by_cases hconflict : caseConflict e = true
            · rw [if_pos hconflict] at hq
              cases hq
              exact (ih hagain).after hsame
            · rw [if_neg hconflict] at hq
              cases hq

structure CaseRecorded (scope : AccessScope) (trigger : CaseTrigger)
    (caseType : CaseType) (priority : CasePriority) (reasons : List HandoffReason)
    (t : CaseTables) (c : SupportCase) : Prop where
  thread : c.threadId = trigger.threadId
  owner : scope.owns c = true
  kind : c.caseType = caseType
  unresolved : c.unresolved = true
  reasons : forall r, r ∈ c.reasonCodes ↔ r ∈ reasons ∨
    exists c₀, openCase scope trigger.threadId caseType trigger.orderId t = some c₀ ∧
      r ∈ c₀.reasonCodes
  urgency : priorityRank c.priority ≤ priorityRank priority
  order : caseType = CaseType.deliveryInvestigation -> c.orderId = trigger.orderId

theorem newCase_recorded (hcustomer : scope.customerId = some customerId)
    {caseType : CaseType} {priority : CasePriority} {reasons : List HandoffReason}
    {caseId : UUID} {now : Time} {t : CaseTables}
    (hnone : openCase scope trigger.threadId caseType trigger.orderId t = none) :
    CaseRecorded scope trigger caseType priority reasons t
      (newCase scope customerId trigger caseType priority reasons caseId now) where
  thread := rfl
  owner := by
    rw [AccessScope.owns_iff, hcustomer]
    exact ⟨rfl, rfl⟩
  kind := rfl
  unresolved := rfl
  reasons := by
    intro r
    rw [hnone]
    simp [newCase]
  urgency := Nat.le_refl _
  order := fun _ => rfl

theorem orderOr_self (order : Option TrimmedText) : orderOr order order = order := by
  cases order with
  | none => rfl
  | some o =>
      unfold orderOr
      by_cases h : o.text = ""
      · simp only [if_pos h]
      · simp only [if_neg h]

theorem withTrigger_recorded {caseType : CaseType} {priority : CasePriority}
    {decision : HandoffDecision} {now : Time} {t : CaseTables} {c : SupportCase}
    (hopen : openCase scope trigger.threadId caseType trigger.orderId t = some c) :
    CaseRecorded scope trigger caseType priority decision.reasonCodes t
      (c.withTrigger trigger decision priority now) := by
  rcases openCase_some hopen with ⟨_, hthread, hkind, horder, hunresolved, howner⟩
  refine ⟨hthread, howner, hkind, hunresolved, ?_, ?_, ?_⟩
  · intro r
    show r ∈ mergeUnique c.reasonCodes decision.reasonCodes ↔ _
    unfold mergeUnique
    rw [mem_fromKeys, List.mem_append, hopen]
    constructor
    · rintro (hr | hr)
      · exact Or.inr ⟨c, rfl, hr⟩
      · exact Or.inl hr
    · rintro (hr | ⟨c₀, hc₀, hr⟩)
      · exact Or.inr hr
      · cases hc₀
        exact Or.inl hr
  · exact (selectHigherPriority_le c.priority priority).right
  · intro hdelivery
    show orderOr c.orderId trigger.orderId = trigger.orderId
    rw [horder hdelivery]
    exact orderOr_self _

/-- What the recording of a decision has left behind, and the case it reports. -/
inductive DecisionRecorded (scope : AccessScope) (trigger : CaseTrigger)
    (caseType : CaseType) (priority : CasePriority) (reasons : List HandoffReason)
    (db : Database) : SupportCase -> Database -> Prop
  | duplicate {c : SupportCase} {db' : Database}
      (found : sourceCase scope trigger.threadId trigger.sourceMessageId db.cases =
        some c)
      (same : SameTables db db') :
      DecisionRecorded scope trigger caseType priority reasons db c db'
  | written {c : SupportCase} {e : SupportCaseEvent} {db' : Database}
      (fresh : sourceCase scope trigger.threadId trigger.sourceMessageId db.cases = none)
      (recorded : CaseRecorded scope trigger caseType priority reasons db.cases c)
      (write : CaseWritten db db' c e) :
      DecisionRecorded scope trigger caseType priority reasons db c db'

theorem recordHandoff_run_ok (hauth : scope.authentic = true)
    {decision : HandoffDecision} {caseType : CaseType} {priority : CasePriority}
    (hpositive : decision.shouldCreateCase = true)
    (hkind : decision.caseType = some caseType)
    (hpriority : decision.priority = some priority) {clock : Nat -> Time}
    {db db' : Database} {result : CaseServiceResult}
    (h : (recordHandoff scope trigger decision clock).run db = (Except.ok result, db')) :
    exists c, result.case = some c ∧ scope.customerId.isSome = true ∧
      DecisionRecorded scope trigger caseType priority decision.reasonCodes db c db' ∧
      db'.outbox = db.outbox := by
  unfold recordHandoff at h
  cases hcustomer : scope.customerId with
  | none =>
      simp only [hcustomer] at h
      cases h
  | some customerId =>
      simp only [hcustomer, hkind, hpriority, if_pos hpositive] at h
      have hrun := handoffAttempts_run_ok hauth hcustomer
        (fun now => createCase_unwritten scope customerId trigger decision caseType
          priority now)
        (fun c now => appendTrigger_unwritten scope c trigger decision priority none now) h
      cases hrun with
      | @duplicate c _ found same =>
          exact ⟨c, rfl, rfl, DecisionRecorded.duplicate found same, same.outbox⟩
      | create fresh none_open same run =>
          rcases createCase_run_ok run with ⟨caseId, e, hcase, hwritten, houtbox⟩
          exact ⟨_, hcase, rfl, DecisionRecorded.written fresh
            (newCase_recorded hcustomer none_open) (hwritten.after same),
            houtbox.trans same.outbox⟩
      | append fresh found same run =>
          have hget := Table.get_of_mem (openCase_some found).left
          rw [← same.cases] at hget
          rcases appendTrigger_run_ok hget run with ⟨e, hcase, hwritten, houtbox, _⟩
          exact ⟨_, hcase, rfl, DecisionRecorded.written fresh
            (withTrigger_recorded found) (hwritten.after same),
            (houtbox rfl).trans same.outbox⟩

theorem recordDeliveryInvestigation_run_ok (hauth : scope.authentic = true)
    {decision : HandoffDecision} {priority : CasePriority}
    (hpriority : decision.priority = some priority) {issueType : DeliveryIssueType}
    {connectionId : String} {clock : Nat -> Time} {db db' : Database}
    {result : CaseServiceResult}
    (h : (recordDeliveryInvestigation scope trigger decision issueType connectionId
      clock).run db = (Except.ok result, db')) :
    exists c, result.case = some c ∧ scope.customerId.isSome = true ∧
      DecisionRecorded scope trigger CaseType.deliveryInvestigation priority
        decision.reasonCodes db c db' ∧
      (sourceCase scope trigger.threadId trigger.sourceMessageId db.cases = none ->
        hasCaseCommand db' c.caseId = true) := by
  unfold recordDeliveryInvestigation at h
  cases hcustomer : scope.customerId with
  | none =>
      simp only [hcustomer] at h
      cases h
  | some customerId =>
      simp only [hcustomer, hpriority] at h
      rcases Program.run_require_bind h with ⟨_, h⟩
      cases hconnection : CleanText.parse? (Text.strip connectionId) with
      | none =>
          simp only [hconnection] at h
          cases h
      | some connection =>
          simp only [hconnection] at h
          have hrun := handoffAttempts_run_ok hauth hcustomer
            (fun now => createDeliveryCaseWithCommand_unwritten scope customerId trigger
              decision priority issueType connection now)
            (fun c now => appendTrigger_unwritten scope c trigger decision priority
              (some ⟨issueType, connection⟩) now) h
          cases hrun with
          | @duplicate c _ found same =>
              refine ⟨c, rfl, rfl, DecisionRecorded.duplicate found same, ?_⟩
              intro hnone
              rw [hnone] at found
              cases found
          | create fresh none_open same run =>
              rcases createDeliveryCaseWithCommand_run_ok run with
                ⟨caseId, e, hcase, hwritten, hcommand⟩
              exact ⟨_, hcase, rfl, DecisionRecorded.written fresh
                (newCase_recorded hcustomer none_open) (hwritten.after same),
                fun _ => hcommand⟩
          | append fresh found same run =>
              have hget := Table.get_of_mem (openCase_some found).left
              rw [← same.cases] at hget
              rcases appendTrigger_run_ok hget run with
                ⟨e, hcase, hwritten, _, hcommand⟩
              exact ⟨_, hcase, rfl, DecisionRecorded.written fresh
                (withTrigger_recorded found) (hwritten.after same),
                fun _ => hcommand (openCase_some found).right.right.left rfl⟩

end Handoff

/-!
## The node
-/

structure Reports (s s' : RefundState) (c : SupportCase) : Prop where
  case : s'.supportCaseId = some c.caseId
  kind : s'.supportCaseType = some c.caseType
  reasons : s'.supportCaseReasonCodes = c.reasonCodes
  operation : s'.operationId = s.operationId
  status : s'.operationStatus = s.operationStatus

theorem withCase_reports {s : RefundState} {result : CaseServiceResult} {c : SupportCase}
    (h : result.case = some c) : Reports s (s.withCase result) c := by
  unfold RefundState.withCase
  rw [h]
  exact ⟨rfl, rfl, rfl, rfl, rfl⟩

theorem Reports.say {s s' : RefundState} {c : SupportCase} (h : Reports s s' c)
    (text : String) : Reports s (s'.say text) c :=
  ⟨h.case, h.kind, h.reasons, h.operation, h.status⟩

structure DecisionTaken (env : Environment) (s s' : RefundState)
    (decision : HandoffDecision) (caseType : CaseType) (scope : AccessScope)
    (trigger : CaseTrigger) (c : SupportCase) (db db' : Database) : Prop where
  built : buildCaseTrigger env s = Except.ok trigger
  authorised : env.requireScope = Except.ok scope
  customer : scope.customerId.isSome = true
  reports : Reports s s' c
  recorded : exists priority reasons,
    DecisionRecorded scope trigger caseType priority reasons db c db' ∧
      (caseType ≠ CaseType.deliveryInvestigation -> reasons = decision.reasonCodes)
  outbox : caseType ≠ CaseType.deliveryInvestigation -> db'.outbox = db.outbox
  command : caseType = CaseType.deliveryInvestigation ->
    (exists connection, env.resolve scope.tenantId = Except.ok connection) ->
    sourceCase scope trigger.threadId trigger.sourceMessageId db.cases = none ->
    hasCaseCommand db' c.caseId = true

theorem requireScope_ok {env : Environment} {scope : AccessScope}
    (h : env.requireScope = Except.ok scope) :
    env.user = some scope ∧ scope.authentic = true := by
  unfold Environment.requireScope at h
  cases huser : env.user with
  | none =>
      rw [huser] at h
      cases h
  | some user =>
      simp only [huser] at h
      by_cases hauth : user.authentic = true
      · rw [if_pos hauth] at h
        cases h
        exact ⟨rfl, hauth⟩
      · rw [if_neg hauth] at h
        cases h

theorem recordDecision_run_ok {env : Environment} {s s' : RefundState}
    {decision : HandoffDecision} (hpositive : decision.shouldCreateCase = true)
    {db db' : Database}
    (h : (recordDecision env s decision).run db = (Except.ok s', db')) :
    exists caseType scope trigger c, decision.caseType = some caseType ∧
      DecisionTaken env s s' decision caseType scope trigger c db db' := by
  unfold recordDecision at h
  rcases Program.run_done_bind h with ⟨trigger, htrigger, h₁⟩
  rcases Program.run_done_bind h₁ with ⟨scope, hscope, h₂⟩
  have hauth := (requireScope_ok hscope).right
  have hvalid := decision.decisionValid
  rw [if_pos hpositive] at hvalid
  rcases Option.isSome_iff_exists.mp hvalid.left with ⟨caseType, hkind⟩
  rcases Option.isSome_iff_exists.mp hvalid.right.left with ⟨priority, hpriority⟩
  refine ⟨caseType, scope, trigger, ?_⟩
  by_cases hdelivery : caseType = CaseType.deliveryInvestigation
  · rw [if_neg (by rw [hkind, hdelivery]; simp)] at h₂
    rcases Program.run_done_bind h₂ with ⟨issueType, hissue, h₃⟩
    unfold openInvestigation at h₃
    cases hresolve : env.resolve scope.tenantId with
    | ok connection =>
        simp only [hresolve] at h₃
        rcases Program.run_bind_eq_ok.mp h₃ with ⟨result, db₁, hrecord, hlast⟩
        cases hlast
        rcases recordDeliveryInvestigation_run_ok hauth hpriority hrecord with
          ⟨c, hcase, hcustomer, hrecorded, hcommand⟩
        refine ⟨c, hkind, htrigger, hscope, hcustomer, (withCase_reports hcase).say _,
          ⟨priority, _, by rw [hdelivery]; exact hrecorded, ?_⟩, ?_,
          fun _ _ hfresh => hcommand hfresh⟩
        · exact fun hne => absurd hdelivery hne
        · exact fun hne => absurd hdelivery hne
    | error e =>
        simp only [hresolve] at h₃
        by_cases hunavailable : connectionUnavailable e = true
        · rw [if_pos hunavailable] at h₃
          rcases Program.run_bind_eq_ok.mp h₃ with ⟨result, db₁, hrecord, hlast⟩
          cases hlast
          have htaken := recordHandoff_run_ok hauth
            (show (safeDecision decision).shouldCreateCase = true from rfl) rfl rfl hrecord
          rcases htaken with ⟨c, hcase, hcustomer, hrecorded, houtbox⟩
          refine ⟨c, hkind, htrigger, hscope, hcustomer, (withCase_reports hcase).say _,
            ⟨CasePriority.p1, _, by rw [hdelivery]; exact hrecorded, ?_⟩,
            fun _ => houtbox, ?_⟩
          · exact fun hne => absurd hdelivery hne
          · rintro _ ⟨connection, hconnection⟩
            rw [hresolve] at hconnection
            cases hconnection
        · rw [if_neg hunavailable] at h₃
          cases h₃
  · rw [if_pos (by rw [hkind]; simpa using hdelivery)] at h₂
    rcases Program.run_bind_eq_ok.mp h₂ with ⟨result, db₁, hrecord, hlast⟩
    cases hlast
    rcases recordHandoff_run_ok hauth hpositive hkind hpriority hrecord with
      ⟨c, hcase, hcustomer, hrecorded, houtbox⟩
    exact ⟨c, hkind, htrigger, hscope, hcustomer, withCase_reports hcase,
      ⟨priority, _, hrecorded, fun _ => rfl⟩, fun _ => houtbox,
      fun hkind' => absurd hkind' hdelivery⟩

theorem finalizeCaseHandoff_run_ok {env : Environment} {s s' : RefundState}
    {db db' : Database}
    (h : (finalizeCaseHandoff env s).run db = (Except.ok s', db')) :
    (caseAlreadyPersisted s = true ∧ db' = db ∧
      s'.supportCaseId = s.supportCaseId ∧ s'.supportCaseType = s.supportCaseType ∧
      s'.supportCaseReasonCodes = s.supportCaseReasonCodes ∧
      s'.operationId = s.operationId ∧ s'.operationStatus = s.operationStatus) ∨
    (caseAlreadyPersisted s = false ∧ exists input,
      buildHandoffPolicyInput s = Except.ok input ∧
      (((determineHandoffPolicy input).shouldCreateCase = false ∧ db' = db) ∨
        ((determineHandoffPolicy input).shouldCreateCase = true ∧
          exists caseType scope trigger c,
            (determineHandoffPolicy input).caseType = some caseType ∧
            DecisionTaken env s s' (determineHandoffPolicy input) caseType scope trigger
              c db db'))) := by
  unfold finalizeCaseHandoff at h
  by_cases hpersisted : caseAlreadyPersisted s = true
  · rw [if_pos hpersisted] at h
    cases h
    exact Or.inl ⟨hpersisted, rfl, rfl, rfl, rfl, rfl, rfl⟩
  · rw [if_neg hpersisted] at h
    rcases Program.run_done_bind h with ⟨input, hinput, h₁⟩
    refine Or.inr ⟨by simpa using hpersisted, input, hinput, ?_⟩
    by_cases hpositive : (determineHandoffPolicy input).shouldCreateCase = true
    · rw [if_pos hpositive] at h₁
      exact Or.inr ⟨hpositive, recordDecision_run_ok hpositive h₁⟩
    · rw [if_neg hpositive] at h₁
      cases h₁
      exact Or.inl ⟨by simpa using hpositive, rfl⟩

end RefundAgent
