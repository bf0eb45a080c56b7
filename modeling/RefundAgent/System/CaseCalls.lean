import RefundAgent.System.Calls
import RefundAgent.System.InboxMoves

/-!
# Calls of the case service and of the redrive console
-/

namespace RefundAgent

open Foundation

variable {D : HandoffDecision -> Prop}

/-!
## Keys

The service writes its events under three heads, none of them the head of the
redrive events or of the events of a finalized command.
-/

theorem serviceKey_of_head {head : String} (rest : String) (hcolon : ':' ∉ head.toList)
    (hredrive : head ≠ redriveHead) (hdelivery : head ≠ Writer.delivery.head) :
    ServiceKey (head ++ ":" ++ rest) where
  redrive := not_redriveKey hcolon hredrive ⟨rest, rfl⟩
  delivery := fun hunder => hdelivery (KeyUnder.head_eq hcolon
    (Writer.colon_not_mem_head Writer.delivery) ⟨rest, rfl⟩ hunder)

theorem messageKey_service (trigger : CaseTrigger) : ServiceKey (messageKey trigger) := by
  have hkey : messageKey trigger = "message" ++ ":" ++ (trigger.threadId.text ++ ":" ++
      trigger.sourceMessageId.text) := by
    have hhead : "message:" = "message" ++ ":" := rfl
    unfold messageKey
    rw [hhead]
    simp only [String.append_assoc]
  rw [hkey]
  exact serviceKey_of_head _ (by decide) (by decide) (by decide)

theorem statusKey_service (caseId : UUID) (request : String) :
    ServiceKey ("status:" ++ toString caseId ++ ":" ++ request) := by
  have hkey : "status:" ++ toString caseId ++ ":" ++ request =
      "status" ++ ":" ++ (toString caseId ++ ":" ++ request) := by
    have hhead : "status:" = "status" ++ ":" := rfl
    rw [hhead]
    simp only [String.append_assoc]
  rw [hkey]
  exact serviceKey_of_head _ (by decide) (by decide) (by decide)

theorem assignKey_service (caseId : UUID) (request : String) :
    ServiceKey ("assign:" ++ toString caseId ++ ":" ++ request) := by
  have hkey : "assign:" ++ toString caseId ++ ":" ++ request =
      "assign" ++ ":" ++ (toString caseId ++ ":" ++ request) := by
    have hhead : "assign:" = "assign" ++ ":" := rfl
    rw [hhead]
    simp only [String.append_assoc]
  rw [hkey]
  exact serviceKey_of_head _ (by decide) (by decide) (by decide)

/-!
## Handoffs
-/

theorem triggerEvent_opens {scope : AccessScope} {customerId : CleanText}
    {trigger : CaseTrigger} {caseType : CaseType} {priority : CasePriority}
    {reasonCodes : List HandoffReason} {caseId eventId : UUID} {now now' : Time} :
    Recounts CaseFacts.unknown
      (newCase scope customerId trigger caseType priority reasonCodes caseId now)
      (triggerEvent (newCase scope customerId trigger caseType priority reasonCodes caseId
        now) trigger reasonCodes eventId CaseEventType.caseCreated none priority now') where
  facts := rfl
  recalled := ⟨fun s hs => (by cases hs), fun p hp => (by cases hp),
    fun a ha => (by cases ha)⟩
  reasons := fun _ hr => hr

theorem createCase_harmless (scope : AccessScope) (customerId : CleanText)
    (trigger : CaseTrigger) (decision : HandoffDecision) (caseType : CaseType)
    (priority : CasePriority) (now : Time) (hd : D decision)
    (hkind : decision.caseType = some caseType)
    (hpriority : decision.priority = some priority) :
    Harmless D (createCase scope customerId trigger decision caseType priority now) := by
  intro db
  refine Behaves.bind (freshId_behaves db) ?_
  intro caseId t _ hcase
  refine Behaves.require fun hvalid => ?_
  refine Behaves.bind (freshId_behaves t) ?_
  intro eventId t₁ htt₁ hid
  refine Behaves.bind (Behaves.act ?_) (fun _ _ _ _ => Behaves.pure fun _ _ => trivial)
  intro u ht₁u _ a v hv
  exact createCaseWithEvent_served ⟨hvalid, ⟨rfl, rfl, rfl⟩, messageKey_service trigger,
    triggerEvent_opens, OpenGround.decided hd hkind hpriority rfl,
    hcase.mono (htt₁.trans ht₁u).ids, hid.mono ht₁u.ids⟩ hv

theorem deliveryCommand_id {case : SupportCase} {issueType : DeliveryIssueType}
    {connectionId : CleanText} {commandId : UUID} {command : ProviderCommandEnvelope}
    (h : deliveryCommand case issueType connectionId commandId = Except.ok command) :
    command.commandId = commandId := by
  unfold deliveryCommand at h
  split at h
  · cases h
  · split at h
    · cases h
    · split at h
      · cases h
      · cases h
        rfl

theorem createDeliveryCaseWithCommand_harmless (scope : AccessScope)
    (customerId : CleanText) (trigger : CaseTrigger) (decision : HandoffDecision)
    (priority : CasePriority) (issueType : DeliveryIssueType)
    (connectionId : CleanText) (now : Time) (hd : D decision)
    (hkind : decision.caseType = some CaseType.deliveryInvestigation)
    (hpriority : decision.priority = some priority) :
    Harmless D (createDeliveryCaseWithCommand scope customerId trigger decision priority
      issueType connectionId now) := by
  intro db
  refine Behaves.require fun _ => ?_
  refine Behaves.bind (freshId_behaves db) ?_
  intro caseId t _ hcase
  refine Behaves.require fun hvalid => ?_
  refine Behaves.bind (freshId_behaves t) ?_
  intro eventId t₁ htt₁ hid
  refine Behaves.bind (freshId_behaves t₁) ?_
  intro commandId t₂ ht₁t₂ hcommandId
  refine Behaves.compute fun command hcommand => ?_
  refine Behaves.bind (Behaves.act ?_) (fun _ _ _ _ => Behaves.pure fun _ _ => trivial)
  intro u ht₂u _ a v hv
  have hlate := ht₁t₂.trans ht₂u
  refine createCaseWithEventAndCommand_served ⟨hvalid, ⟨rfl, rfl, rfl⟩,
    messageKey_service trigger, triggerEvent_opens,
    OpenGround.decided hd hkind hpriority rfl, hcase.mono (htt₁.trans hlate).ids,
    hid.mono hlate.ids⟩ ?_ hv
  rw [deliveryCommand_id hcommand]
  exact hcommandId.mono ht₂u.ids

theorem withTrigger_updated (existing : SupportCase) (trigger : CaseTrigger)
    (decision : HandoffDecision) (priority : CasePriority) (now : Time) :
    CaseUpdated existing (existing.withTrigger trigger decision priority now) := by
  refine ⟨rfl, rfl, fun r hr => ?_, Or.inl ?_, fun x hx => ?_⟩
  · show r ∈ mergeUnique existing.reasonCodes decision.reasonCodes
    unfold mergeUnique
    rw [mem_fromKeys, List.mem_append]
    exact Or.inl hr
  · exact (selectHigherPriority_le existing.priority priority).left
  · show exists y, selectHigherRiskLevel existing.riskLevel trigger.riskLevel = some y ∧ _
    rw [hx]
    exact selectHigherRiskLevel_le x trigger.riskLevel

theorem triggerEvent_recounts {existing : SupportCase} {trigger : CaseTrigger}
    {decision : HandoffDecision} {priority : CasePriority} {eventId : UUID}
    {now now' : Time} :
    Recounts existing.facts (existing.withTrigger trigger decision priority now)
      (triggerEvent existing trigger decision.reasonCodes eventId
        CaseEventType.triggerAppended (some existing.priority)
        (existing.withTrigger trigger decision priority now).priority now') where
  facts := rfl
  recalled := ⟨fun s hs => (by cases hs), fun p hp => hp, fun a ha => (by cases ha)⟩
  reasons := by
    intro r hr
    show r ∈ mergeUnique existing.reasonCodes decision.reasonCodes
    unfold mergeUnique
    rw [mem_fromKeys, List.mem_append]
    exact Or.inr hr

theorem appendTrigger_behaves {scope : AccessScope} {existing : SupportCase}
    {trigger : CaseTrigger} {decision : HandoffDecision} {priority : CasePriority}
    {metadata : Option CommandMetadata} {now : Time} {db : Database} (hd : D decision)
    (hkind : decision.caseType = some existing.caseType)
    (hpriority : decision.priority = some priority) (hknown : KnownCase existing db) :
    Behaves D (appendTrigger scope existing trigger decision priority metadata now) db
      (fun _ _ => True) := by
  unfold appendTrigger
  refine Behaves.require fun _ => ?_
  refine Behaves.bind (freshId_behaves db) ?_
  intro eventId t hdt hid
  have hwrite : CaseWrite D existing (existing.withTrigger trigger decision priority now)
      (triggerEvent existing trigger decision.reasonCodes eventId
        CaseEventType.triggerAppended (some existing.priority)
        (existing.withTrigger trigger decision priority now).priority now) :=
    ⟨withTrigger_updated existing trigger decision priority now, ⟨rfl, rfl, rfl⟩,
      messageKey_service trigger, triggerEvent_recounts,
      UpdateGround.decided hd hkind hpriority rfl rfl⟩
  have hplain : Behaves D (do
      Program.perform (updateCaseWithEvent scope
        (existing.withTrigger trigger decision priority now)
        (triggerEvent existing trigger decision.reasonCodes eventId
          CaseEventType.triggerAppended (some existing.priority)
          (existing.withTrigger trigger decision priority now).priority now)
        existing.version)
      pure ⟨CaseServiceAction.eventAppended,
        some (existing.withTrigger trigger decision priority now),
        some (triggerEvent existing trigger decision.reasonCodes eventId
          CaseEventType.triggerAppended (some existing.priority)
          (existing.withTrigger trigger decision priority now).priority now)⟩ :
        Call CaseServiceResult) t (fun _ _ => True) := by
    refine Behaves.bind (Behaves.act ?_)
      (fun _ _ _ _ => Behaves.pure fun _ _ => trivial)
    intro u htu _ a v hv
    exact updateCaseWithEvent_served (hknown.later (hdt.trans htu)) hwrite
      (hid.mono htu.ids) hv
  split
  · refine Behaves.bind (freshId_behaves t) ?_
    intro commandId t₁ htt₁ hcommandId
    refine Behaves.compute fun command hcommand => ?_
    refine Behaves.bind (Behaves.act ?_)
      (fun _ _ _ _ => Behaves.pure fun _ _ => trivial)
    intro u ht₁u _ a v hv
    have hlate := htt₁.trans ht₁u
    refine appendDeliveryTriggerAndEnsureCommand_served
      (hknown.later (hdt.trans hlate)) hwrite (hid.mono hlate.ids) ?_ hv
    rw [deliveryCommand_id hcommand]
    exact hcommandId.mono ht₁u.ids
  · exact hplain

theorem handoffAttempts_harmless {scope : AccessScope} {trigger : CaseTrigger}
    {caseType : CaseType} {create : Time -> Call CaseServiceResult}
    {append : SupportCase -> Time -> Call CaseServiceResult} {failure : String}
    {clock : Nat -> Time} (hcreate : forall now, Harmless D (create now))
    (happend : forall c now db, KnownCase c db -> c.caseType = caseType ->
      Behaves D (append c now) db (fun _ _ => True)) (n : Nat) :
    Harmless D (handoffAttempts scope trigger caseType create append failure clock n) := by
  induction n with
  | zero => exact fun _ => Behaves.raise
  | succ n ih =>
      intro db
      refine Behaves.bind (P := fun _ _ => True)
        (Behaves.read (fun _ _ _ _ _ => trivial) fun t a u hu =>
          ⟨findCaseBySourceMessage_spec hu, trivial⟩) ?_
      intro duplicate t _ _
      cases duplicate with
      | some case => exact Behaves.pure fun _ _ => trivial
      | none =>
          refine Behaves.bind (P := fun found t => forall c, found = some c ->
            KnownCase c t ∧ c.caseType = caseType)
            (Behaves.read ?_ fun t a u hu => findUnresolvedCase_spec hu) ?_
          · intro found t u htu ht c hc
            exact ⟨(ht c hc).left.later htu, (ht c hc).right⟩
          · intro existing u _ hknown
            refine Behaves.rescue ?_ ?_
            · cases existing with
              | none => exact hcreate (clock n) u
              | some case =>
                  exact happend case (clock n) u (hknown case rfl).left
                    (hknown case rfl).right
            · intro e q v hq _
              by_cases hconflict : caseConflict e = true
              · rw [if_pos hconflict] at hq
                cases hq
                exact ih v
              · rw [if_neg hconflict] at hq
                cases hq

theorem recordHandoff_harmless (scope : AccessScope) (trigger : CaseTrigger)
    (decision : HandoffDecision) (clock : Nat -> Time) (hd : D decision) :
    Harmless D (recordHandoff scope trigger decision clock) := by
  intro db
  unfold recordHandoff
  split
  · exact Behaves.raise
  · next customerId caseType priority _ hkind hpriority =>
    split
    · exact handoffAttempts_harmless
        (fun now => createCase_harmless _ _ _ _ _ _ now hd hkind hpriority)
        (fun c now db hc hc' => appendTrigger_behaves hd (by rw [hkind, hc']) hpriority hc)
        maxWriteAttempts db
    · exact Behaves.pure fun _ _ => trivial
  · split
    · exact Behaves.raise
    · exact Behaves.pure fun _ _ => trivial

theorem recordDeliveryInvestigation_harmless (scope : AccessScope)
    (trigger : CaseTrigger) (decision : HandoffDecision)
    (issueType : DeliveryIssueType) (connectionId : String) (clock : Nat -> Time)
    (hd : D decision) :
    Harmless D (recordDeliveryInvestigation scope trigger decision issueType connectionId
      clock) := by
  intro db
  unfold recordDeliveryInvestigation
  split
  · exact Behaves.raise
  · exact Behaves.raise
  · next customerId priority _ hpriority =>
    refine Behaves.require fun hdecided => ?_
    cases CleanText.parse? (Text.strip connectionId) with
    | none => exact Behaves.raise
    | some connection =>
        exact handoffAttempts_harmless
          (fun now => createDeliveryCaseWithCommand_harmless _ _ _ _ _ _ _ now hd
            hdecided.right hpriority)
          (fun c now db hc hc' => appendTrigger_behaves hd (by rw [hdecided.right, hc'])
            hpriority hc) maxWriteAttempts db

/-!
## Agents
-/

theorem findCase_behaves (scope : AccessScope) (caseId : UUID) (db : Database) :
    Behaves D (Program.perform (findCase scope caseId)) db
      (fun found t => forall c, found = some c -> KnownCase c t) :=
  Behaves.read (fun _ _ _ htu ht c hc => (ht c hc).later htu)
    (fun _ _ _ hu => findCase_spec hu)

theorem getCaseOrRaise_behaves (scope : AccessScope) (caseId : UUID)
    (db : Database) :
    Behaves D (getCaseOrRaise scope caseId) db (fun c t => KnownCase c t) := by
  refine Behaves.bind (findCase_behaves scope caseId db) ?_
  intro found t _ ht
  cases found with
  | none => exact Behaves.raise
  | some c => exact Behaves.pure fun u htu => (ht c rfl).later htu

theorem findCaseEvent_behaves (scope : AccessScope) (key : String) (db : Database) :
    Behaves D (Program.perform (findCaseEventByIdempotencyKey scope key)) db
      (fun _ _ => True) := by
  refine Behaves.read (fun _ _ _ _ _ => trivial) ?_
  intro t found u hu
  simp only [findCaseEventByIdempotencyKey, Transaction.read_eq_ok,
    Prod.mk.injEq] at hu
  exact ⟨hu.right.symm, trivial⟩

theorem updateCaseOrRetry_behaves {scope : AccessScope} {key : String}
    {current updated : SupportCase} {event : SupportCaseEvent}
    {action : CaseServiceAction} {again : Call CaseServiceResult} {db : Database}
    (hknown : KnownCase current db) (hwrite : CaseWrite D current updated event)
    (hid : db.ids.Issued event.eventId) (hagain : Harmless D again) :
    Behaves D (updateCaseOrRetry scope key current updated event action again) db
      (fun _ _ => True) := by
  refine Behaves.rescue ?_ ?_
  · refine Behaves.bind (Behaves.act ?_)
      (fun _ _ _ _ => Behaves.pure fun _ _ => trivial)
    intro t hdt _ a u hu
    exact updateCaseWithEvent_served (hknown.later hdt) hwrite (hid.mono hdt.ids) hu
  · intro e q t hq _
    split at hq
    · cases hq
      refine Behaves.bind (findCaseEvent_behaves scope key t) ?_
      intro duplicate u _ _
      cases duplicate with
      | none => exact hagain u
      | some event =>
          refine Behaves.bind (findCase_behaves scope event.caseId u) ?_
          intro found v _ _
          cases found with
          | none => exact hagain v
          | some case => exact Behaves.pure fun _ _ => trivial
    · cases hq
      exact hagain t
    · cases hq

theorem replayedCase_harmless {scope : AccessScope} {key : String}
    {run : Call CaseServiceResult} (hrun : Harmless D run) :
    Harmless D (replayedCase scope key run) := by
  intro db
  refine Behaves.bind (findCaseEvent_behaves scope key db) ?_
  intro previous t _ _
  cases previous with
  | none => exact hrun t
  | some event =>
      exact Behaves.bind (getCaseOrRaise_behaves scope event.caseId t)
        (fun _ _ _ _ => Behaves.pure fun _ _ => trivial)

theorem caseStatusEvent_recounts {current : SupportCase} {targetStatus : CaseStatus}
    {onHoldReason : Option OnHoldReason} {eventId : UUID} {key actor : String}
    {now now' : Time} :
    Recounts current.facts (current.withStatus targetStatus onHoldReason now)
      (caseStatusEvent current targetStatus onHoldReason eventId key actor now') where
  facts := rfl
  recalled := ⟨fun s hs => hs, fun p hp => hp, fun a ha => (by cases ha)⟩
  reasons := fun r hr => (by cases hr)

theorem assignedEvent_recounts {current : SupportCase} {agentId : CleanText}
    {eventId : UUID} {key actor : String} {now now' : Time} :
    Recounts current.facts (current.withAgent agentId now)
      (assignedEvent current agentId eventId key actor now') where
  facts := rfl
  recalled := ⟨fun s hs => (by cases hs), fun p hp => (by cases hp), fun a ha => ha⟩
  reasons := fun r hr => (by cases hr)

theorem statusAttempts_harmless (scope : AccessScope) (caseId : UUID)
    (targetStatus : CaseStatus) (onHoldReason : Option OnHoldReason) {key : String}
    (hkey : ServiceKey key) (clock : Nat -> Time) (n : Nat) :
    Harmless D (statusAttempts scope caseId targetStatus onHoldReason key clock n) := by
  induction n with
  | zero => exact fun _ => Behaves.raise
  | succ n ih =>
      intro db
      refine Behaves.bind (getCaseOrRaise_behaves scope caseId db) ?_
      intro current t _ hknown
      by_cases hsame : current.status = targetStatus
      · rw [if_pos hsame]
        exact Behaves.pure fun _ _ => trivial
      · rw [if_neg hsame]
        refine Behaves.require fun _ => Behaves.require fun _ => Behaves.require fun _ =>
          Behaves.require fun _ => ?_
        refine Behaves.bind (freshId_behaves t) ?_
        intro eventId t₁ htt₁ hid
        exact updateCaseOrRetry_behaves (hknown.later htt₁)
          ⟨⟨rfl, rfl, fun _ hr => hr, Or.inl (Nat.le_refl _),
              fun x hx => ⟨x, hx, Nat.le_refl _⟩⟩, ⟨rfl, rfl, rfl⟩, hkey,
            caseStatusEvent_recounts, UpdateGround.kept rfl rfl⟩ hid ih

theorem changeStatus_harmless (scope : AccessScope) (caseId : UUID)
    (targetStatus : CaseStatus) (requestId : String)
    (onHoldReason : Option OnHoldReason) (clock : Nat -> Time) :
    Harmless D (changeStatus scope caseId targetStatus requestId onHoldReason clock) := by
  intro db
  refine Behaves.require fun _ => ?_
  refine Behaves.compute fun request _ => ?_
  exact replayedCase_harmless (statusAttempts_harmless scope caseId targetStatus
    onHoldReason (statusKey_service caseId request) clock maxWriteAttempts) db

theorem assignAttempts_harmless (scope : AccessScope) (caseId : UUID)
    (agentId : CleanText) {key : String} (hkey : ServiceKey key)
    (clock : Nat -> Time) (n : Nat) :
    Harmless D (assignAttempts scope caseId agentId key clock n) := by
  induction n with
  | zero => exact fun _ => Behaves.raise
  | succ n ih =>
      intro db
      refine Behaves.bind (getCaseOrRaise_behaves scope caseId db) ?_
      intro current t _ hknown
      by_cases hsame : current.assignedAgentId = some agentId
      · rw [if_pos hsame]
        exact Behaves.pure fun _ _ => trivial
      · rw [if_neg hsame]
        refine Behaves.require fun _ => ?_
        refine Behaves.bind (freshId_behaves t) ?_
        intro eventId t₁ htt₁ hid
        exact updateCaseOrRetry_behaves (hknown.later htt₁)
          ⟨⟨rfl, rfl, fun _ hr => hr, Or.inl (Nat.le_refl _),
              fun x hx => ⟨x, hx, Nat.le_refl _⟩⟩, ⟨rfl, rfl, rfl⟩, hkey,
            assignedEvent_recounts, UpdateGround.kept rfl rfl⟩ hid ih

theorem assignCase_harmless (scope : AccessScope) (directory : IdentityDirectory)
    (caseId : UUID) (agentId requestId : String) (clock : Nat -> Time) :
    Harmless D (assignCase scope directory caseId agentId requestId clock) := by
  intro db
  refine Behaves.require fun _ => ?_
  refine Behaves.compute fun agent _ => Behaves.compute fun request _ => ?_
  refine replayedCase_harmless ?_ db
  intro t
  refine Behaves.bind (getCaseOrRaise_behaves scope caseId t) ?_
  intro case t₁ _ _
  refine Behaves.compute fun _ _ => ?_
  exact assignAttempts_harmless scope caseId agent
    (assignKey_service caseId request) clock maxWriteAttempts t₁

/-!
## Redrive
-/

theorem redrive_harmless {ρ : Type} {look : Database -> Option ρ}
    {validate : ρ -> Except Failure ProviderRedriveView} {tx : Tx ProviderRedriveView}
    {scope : AccessScope} {audit : UniqueConstraint} {reload : Call ProviderRedriveView}
    (htx : forall db view db', tx db = Except.ok (view, db') -> Served D db db')
    (hreload : Harmless D reload) :
    Harmless D (do
      authorizeProviderOperations scope Permission.providerOpsRedrive
      (replayOr look validate tx).rescue (redriveFailure audit reload)) := by
  intro db
  refine Behaves.require fun _ => Behaves.rescue (P := fun _ _ => True) ?_ ?_
  · refine Behaves.bind (P := fun _ _ => True)
      (Behaves.read (fun _ _ _ _ _ => trivial) ?_) ?_
    · intro t found u hu
      rw [Transaction.read_eq_ok] at hu
      exact ⟨(congrArg Prod.snd hu).symm, trivial⟩
    · intro found t _ _
      cases found with
      | some row => exact Behaves.done fun _ _ _ _ => trivial
      | none => exact Behaves.act fun t _ _ view u hu => htx t view u hu
  · intro e q t hq _
    unfold redriveFailure at hq
    split at hq
    · split at hq
      · cases hq
        exact hreload t
      · cases hq
        exact Behaves.raise
    · split at hq
      · cases hq
        exact Behaves.raise
      · cases hq

theorem reload_harmless {α : Type} {query : Database -> Option α} {missing : Failure}
    {validate : α -> Except Failure ProviderRedriveView} :
    Harmless D (do
      let row ← Program.perform (Transaction.fetch query missing)
      Program.done (validate row) : Call ProviderRedriveView) := by
  intro db
  refine Behaves.bind (P := fun _ _ => True)
    (Behaves.read (fun _ _ _ _ _ => trivial) ?_)
    (fun _ _ _ _ => Behaves.done fun _ _ _ _ => trivial)
  intro t row u hu
  exact ⟨(Transaction.fetch_eq_ok.mp hu).right.symm, trivial⟩

theorem redriveOutbox_harmless (scope : AccessScope) (commandId : UUID)
    (request : ProviderRedriveRequest) (missed : Bool) (clock : Nat -> Time) :
    Harmless D (redriveOutbox scope commandId request missed clock) := by
  refine redrive_harmless ?_ reload_harmless
  intro db view db' h
  rcases redriveOutboxTransaction_move h with rfl | ⟨lo, lc, m, m', r, hmove, _⟩
  · exact Served.refl db'
  · refine ⟨_, ⟨id, id, id, ?_⟩, hmove⟩
    cases hmove.combined <;> trivial

theorem redriveInbox_harmless (scope : AccessScope) (inboxId : UUID)
    (request : ProviderRedriveRequest) (missed : Bool) (clock : Nat -> Time) :
    Harmless D (redriveInbox scope inboxId request missed clock) := by
  refine redrive_harmless ?_ reload_harmless
  intro db view db' h
  rcases redriveInboxTransaction_move h with rfl | ⟨m, m', hmove⟩
  · exact Served.refl db'
  · refine ⟨_, ⟨id, id, id, ?_⟩, hmove⟩
    trivial

end RefundAgent
