import RefundAgent.Foundation.Timeline
import RefundAgent.System.Callbacks

/-!
# Timestamps

Every statement that sets a timestamp of an integration table clamps it, so the order of
the timestamps of a message and its attempts survives clocks that go backwards.
-/

namespace RefundAgent

open Foundation

theorem le_greatest_middle (a b c : Time) : b ≤ greatest a b c :=
  le_max_of_le_right (le_max_left b c)

/-- An update that sets each of its times to the greatest of a reading and what the row
already has. -/
theorem Stamps.clamps_greatest {s s' : Stamps Time} (now : Time)
    (hcreated : s'.created = s.created)
    (hupdated : s'.updated = greatest now s.updated s.created)
    (hmarks : forall t, t ∈ s'.marks ->
      t ∈ s.marks ∨ exists reading, t = greatest reading s.updated s.created) :
    s.Clamps s' := by
  refine ⟨⟨hcreated, ?_⟩, ?_⟩
  · rw [hupdated]
    exact le_greatest_middle now s.updated s.created
  · intro t ht
    rcases hmarks t ht with hold | ⟨reading, rfl⟩
    · exact Or.inl hold
    · exact Or.inr (le_greatest reading s.updated s.created)

/-!
## Outbox messages
-/

def OutboxMessage.stamps (m : OutboxMessage) : Stamps Time :=
  { created := m.createdAt
    updated := m.updatedAt
    marks := m.publishedAt.toList ++ m.deadAt.toList }

inductive OutboxUpdate (m : OutboxMessage) : OutboxMessage -> Prop
  | claimed (leaseId : UUID) (workerId : String) (expiresAt now : Time) :
      OutboxUpdate m (m.setClaimed leaseId workerId expiresAt now)
  | renewed (expiresAt now : Time) : OutboxUpdate m (m.setRenewed expiresAt now)
  | transition (t : OutboxTransition) : OutboxUpdate m (t.apply m)
  | recovered (availableAt now : Time) : OutboxUpdate m (m.setRecovered availableAt now)
  | exhausted (deadAt now : Time) : OutboxUpdate m (m.setExhausted deadAt now)
  | redriven (newCycle : Nat) (availableAt now : Time) :
      OutboxUpdate m (m.setRedriven newCycle availableAt now)

theorem OutboxTransition.marks {t : OutboxTransition} {m : OutboxMessage} {x : Time}
    (h : x ∈ (t.apply m).stamps.marks) : x ∈ m.stamps.marks ∨
      exists reading, x = greatest reading m.updatedAt m.createdAt := by
  rcases List.mem_append.mp h with hx | hx
  · rw [Option.mem_toList] at hx
    cases hset : t.publishedAt with
    | none =>
        simp only [OutboxTransition.apply, hset] at hx
        exact Or.inl (List.mem_append_left _ (Option.mem_toList.mpr hx))
    | some now =>
        simp only [OutboxTransition.apply, hset, Option.some.injEq] at hx
        exact Or.inr ⟨now, hx.symm⟩
  · rw [Option.mem_toList] at hx
    cases hset : t.deadAt with
    | none =>
        simp only [OutboxTransition.apply, hset] at hx
        exact Or.inl (List.mem_append_right _ (Option.mem_toList.mpr hx))
    | some now =>
        simp only [OutboxTransition.apply, hset, Option.some.injEq] at hx
        exact Or.inr ⟨now, hx.symm⟩

theorem OutboxUpdate.clamps {m m' : OutboxMessage} (h : OutboxUpdate m m') :
    m.stamps.Clamps m'.stamps := by
  cases h with
  | claimed leaseId workerId expiresAt now =>
      exact Stamps.clamps_greatest now rfl rfl fun _ ht => Or.inl ht
  | renewed expiresAt now =>
      exact Stamps.clamps_greatest now rfl rfl fun _ ht => Or.inl ht
  | transition t =>
      exact Stamps.clamps_greatest t.updatedAt rfl rfl fun _ ht => t.marks ht
  | recovered availableAt now =>
      exact Stamps.clamps_greatest now rfl rfl fun _ ht => Or.inl ht
  | exhausted deadAt now =>
      refine Stamps.clamps_greatest now rfl rfl ?_
      intro t ht
      rcases List.mem_append.mp ht with ht | ht
      · exact Or.inl (List.mem_append_left _ ht)
      · exact Or.inr ⟨deadAt, List.mem_singleton.mp ht⟩
  | redriven newCycle availableAt now =>
      exact Stamps.clamps_greatest now rfl rfl fun _ ht => (by cases ht)

theorem Ending.update (e : Ending) (m : OutboxMessage) : OutboxUpdate m (e.message m) := by
  cases e with
  | finalized v now => exact OutboxUpdate.transition _
  | retried r now => exact OutboxUpdate.transition _
  | expired now availableAt updatedAt => exact OutboxUpdate.recovered _ _
  | exhausted now deadAt updatedAt => exact OutboxUpdate.exhausted _ _

/-!
## Delivery attempts
-/

namespace OutboxDeliveryAttempt

def span (a : OutboxDeliveryAttempt) : Time × Option Time :=
  (a.startedAt, a.finishedAt)

/-- The attempt belongs to an earlier cycle, or has a smaller number in the same one. -/
def Precedes (a b : OutboxDeliveryAttempt) : Prop :=
  a.deliveryCycle < b.deliveryCycle ∨
    (a.deliveryCycle = b.deliveryCycle ∧ a.attemptNumber < b.attemptNumber)

theorem Precedes.asymm {a b : OutboxDeliveryAttempt} (h : a.Precedes b) :
    ¬b.Precedes a := by
  unfold Precedes at h ⊢
  omega

end OutboxDeliveryAttempt

inductive DeliveryUpdate (a : OutboxDeliveryAttempt) : OutboxDeliveryAttempt -> Prop
  | finished (r : DeliveryAttemptResult) : DeliveryUpdate a (r.apply a)
  | expired (now : Time) (code : String) : DeliveryUpdate a (a.setLeaseExpired now code)

theorem DeliveryUpdate.span {a a' : OutboxDeliveryAttempt} (h : DeliveryUpdate a a') :
    a'.startedAt = a.startedAt ∧
      forall t, a'.finishedAt = some t -> a.startedAt ≤ t := by
  cases h with
  | finished r =>
      refine ⟨rfl, ?_⟩
      rintro t ⟨⟩
      exact le_max_right _ _
  | expired now code =>
      refine ⟨rfl, ?_⟩
      rintro t ⟨⟩
      exact le_max_right _ _

theorem Ending.attempt_update (e : Ending) (a : OutboxDeliveryAttempt) :
    DeliveryUpdate a (e.attempt a) := by
  cases e with
  | finalized v now => exact DeliveryUpdate.finished _
  | retried r now => exact DeliveryUpdate.finished _
  | expired now availableAt updatedAt => exact DeliveryUpdate.expired _ _
  | exhausted now deadAt updatedAt => exact DeliveryUpdate.expired _ _

/-- The times of a command and its attempts are ordered. -/
def CommandTimed (m : OutboxMessage) (attempts : List OutboxDeliveryAttempt) : Prop :=
  Timeline OutboxDeliveryAttempt.Precedes OutboxDeliveryAttempt.span m.stamps attempts

namespace CommandTimed

variable {m : OutboxMessage} {attempts : List OutboxDeliveryAttempt}

theorem precedes_next (h : Numbered m attempts) {a : OutboxDeliveryAttempt}
    (ha : a ∈ attempts) {next : OutboxDeliveryAttempt}
    (hcycle : next.deliveryCycle = m.deliveryCycle)
    (hnumber : next.attemptNumber = m.attemptsInCycle + 1) : a.Precedes next := by
  rcases Nat.lt_or_eq_of_le (h.cycles a ha).right with hlt | heq
  · left
    rw [hcycle]
    exact hlt
  · right
    have hmem : a.attemptNumber ∈ cycleNumbers attempts m.deliveryCycle := by
      unfold cycleNumbers
      exact List.mem_map_of_mem (List.mem_filter.mpr ⟨ha, decide_eq_true heq⟩)
    rw [h.current, List.mem_range'_1] at hmem
    constructor
    · rw [hcycle]
      exact heq
    · omega

theorem claim (h : CommandTimed m attempts) (hsound : CommandSound m attempts)
    (leaseId attemptId : UUID) (workerId : String) (expiresAt now : Time) :
    CommandTimed (m.setClaimed leaseId workerId expiresAt now)
      (attempts ++ [claimAttempt (m.setClaimed leaseId workerId expiresAt now) attemptId
        leaseId workerId]) := by
  have hclaimed := Timeline.clamp h
    (OutboxUpdate.claimed leaseId workerId expiresAt now).clamps
  exact hclaimed.concat rfl fun b hb => precedes_next hsound.numbered hb rfl rfl

theorem finish (h : CommandTimed m attempts) (e : Ending) (attemptId : UUID) :
    CommandTimed (e.message m) (endAttempt e attemptId attempts) := by
  refine Timeline.map (Timeline.clamp h (e.update m).clamps) _ ?_ ?_ ?_
  · intro a b hab
    unfold OutboxDeliveryAttempt.Precedes at hab ⊢
    split <;> split <;> simpa using hab
  · intro a
    split
    · exact (e.attempt_update a).span.left
    · rfl
  · intro a ha t ht
    split at ht
    · exact (e.attempt_update a).span.right t ht
    · exact h.finished a ha t ht

theorem queue (command : ProviderCommandEnvelope) (now : Time) :
    CommandTimed (outboxRow command now) [] :=
  Timeline.nil ⟨le_refl now, fun t ht => (by cases ht)⟩

end CommandTimed

theorem OutboxStep.timed {l : OutboxLabel} {t u : OutboxTables} (hstep : OutboxStep l t u)
    (hsound : OutboxSound t)
    (h : forall m, m ∈ t.messages.rows -> CommandTimed m (t.attemptsOf m.commandId)) :
    forall m, m ∈ u.messages.rows -> CommandTimed m (u.attemptsOf m.commandId) := by
  have hput : forall {u : OutboxTables} {m' : OutboxMessage},
      u.messages = t.messages.put m' ->
      (forall id, id ≠ m'.commandId -> u.attemptsOf id = t.attemptsOf id) ->
      CommandTimed m' (u.attemptsOf m'.commandId) ->
      forall x, x ∈ u.messages.rows -> CommandTimed x (u.attemptsOf x.commandId) := by
    intro u m' hmessages hother hown x hx
    rw [hmessages] at hx
    rcases Table.mem_put hx with rfl | ⟨hx, hne⟩
    · exact hown
    · rw [hother x.commandId hne]
      exact h x hx
  cases hstep with
  | keep => exact h
  | @queue _ messages command now valid free insert =>
      have hrows := Table.insert?_eq_some.mp insert
      intro x hx
      rw [hrows.right] at hx
      rcases List.mem_append.mp hx with hx | hx
      · exact h x hx
      · rw [List.mem_singleton.mp hx]
        have hnone : t.attemptsOf (outboxRow command now).commandId = [] := by
          unfold OutboxTables.attemptsOf Table.select
          rw [List.filter_eq_nil_iff]
          intro a ha hc
          rcases (hsound.attempts a ha).right with ⟨m, hm⟩
          rw [of_decide_eq_true hc, hrows.left] at hm
          cases hm
        show CommandTimed _ (t.attemptsOf (outboxRow command now).commandId)
        rw [hnone]
        exact CommandTimed.queue command now
  | @claim _ attempts m leaseId attemptId workerId expiresAt now get due worker insert =>
      have hrows := (Table.insert?_eq_some.mp insert).right
      have hm := Table.mem_of_get get
      refine hput rfl ?_ ?_
      · intro id hid
        exact attemptsOf_insert_other (t := t) hrows (Ne.symm hid)
      · refine Eq.mpr (congrArg (CommandTimed _)
          (attemptsOf_insert_own (t := t) hrows rfl)) ?_
        exact (h m hm).claim (hsound.commands m hm) leaseId attemptId workerId expiresAt now
  | @renew _ m expiresAt now get held =>
      refine hput rfl (fun _ _ => rfl) ?_
      exact Timeline.clamp (h m (Table.mem_of_get get))
        (OutboxUpdate.renewed expiresAt now).clamps
  | @finish _ e m a get held getAttempt ofCommand isOpen allowed checks =>
      refine hput rfl ?_ ?_
      · intro id hid
        rw [Ending.message_commandId, ← ofCommand] at hid
        exact attemptsOf_put_other (by rw [Ending.attempt_attemptId]; exact getAttempt)
          (e.attempt_commandId a) (Ne.symm hid)
      · rw [Ending.message_commandId, ← ofCommand]
        refine Eq.mpr (congrArg (CommandTimed _) (attemptsOf_end getAttempt)) ?_
        rw [ofCommand]
        exact (h m (Table.mem_of_get get)).finish e a.attemptId
  | @redrive _ redrives m r availableAt now get dead insert audit =>
      refine hput rfl (fun _ _ => rfl) ?_
      exact Timeline.clamp (h m (Table.mem_of_get get))
        (OutboxUpdate.redriven (m.deliveryCycle + 1) availableAt now).clamps

theorem OutboxStep.advances {l : OutboxLabel} {t u : OutboxTables}
    (h : OutboxStep l t u) : forall id m, t.messages.get id = some m ->
      exists m', u.messages.get id = some m' ∧ m.stamps.Advances m'.stamps := by
  have hrefl := fun m : OutboxMessage => Stamps.Advances.refl m.stamps
  cases h with
  | keep => exact fun _ m h => ⟨m, h, hrefl m⟩
  | queue valid free insert => exact get_insert_related insert hrefl
  | @claim _ attempts m leaseId attemptId workerId expiresAt now get due worker insert =>
      exact get_put_related t.messages get rfl hrefl
        (OutboxUpdate.claimed leaseId workerId expiresAt now).clamps.advances
  | @renew _ m expiresAt now get held =>
      exact get_put_related t.messages get rfl hrefl
        (OutboxUpdate.renewed expiresAt now).clamps.advances
  | @finish _ e m a get held getAttempt ofCommand isOpen allowed checks =>
      exact get_put_related t.messages get (e.message_commandId m) hrefl
        (e.update m).clamps.advances
  | @redrive _ redrives m r availableAt now get dead insert audit =>
      exact get_put_related t.messages get rfl hrefl
        (OutboxUpdate.redriven _ availableAt now).clamps.advances

/-!
## Inbox messages
-/

def InboxMessage.stamps (m : InboxMessage) : Stamps Time :=
  { created := m.receivedAt
    updated := m.updatedAt
    marks := m.processedAt.toList ++ m.failedAt.toList }

inductive InboxUpdate (m : InboxMessage) : InboxMessage -> Prop
  | claimed (leaseId : UUID) (workerId : String) (expiresAt now : Time) :
      InboxUpdate m (m.setClaimed leaseId workerId expiresAt now)
  | renewed (expiresAt now : Time) : InboxUpdate m (m.setRenewed expiresAt now)
  | processed (processedAt : Time) : InboxUpdate m (m.setProcessed processedAt)
  | failed (failedAt : Time) (errorCode errorMessage : Option String) :
      InboxUpdate m (m.setFailed failedAt errorCode errorMessage)
  | retried (availableAt updatedAt : Time) (errorCode errorMessage : Option String) :
      InboxUpdate m (m.setRetry availableAt updatedAt errorCode errorMessage)
  | recovered (availableAt now : Time) : InboxUpdate m (m.setRecovered availableAt now)
  | exhausted (failedAt now : Time) : InboxUpdate m (m.setExhausted failedAt now)
  | redriven (newCycle : Nat) (availableAt now : Time) :
      InboxUpdate m (m.setRedriven newCycle availableAt now)

theorem InboxUpdate.clamps {m m' : InboxMessage} (h : InboxUpdate m m') :
    m.stamps.Clamps m'.stamps := by
  cases h with
  | claimed leaseId workerId expiresAt now =>
      exact Stamps.clamps_greatest now rfl rfl fun _ ht => Or.inl ht
  | renewed expiresAt now =>
      exact Stamps.clamps_greatest now rfl rfl fun _ ht => Or.inl ht
  | processed processedAt =>
      refine Stamps.clamps_greatest processedAt rfl rfl ?_
      intro t ht
      rcases List.mem_cons.mp ht with ht | ht
      · exact Or.inr ⟨processedAt, ht⟩
      · exact Or.inl (List.mem_append_right _ ht)
  | failed failedAt errorCode errorMessage =>
      refine Stamps.clamps_greatest failedAt rfl rfl ?_
      intro t ht
      rcases List.mem_append.mp ht with ht | ht
      · exact Or.inl (List.mem_append_left _ ht)
      · exact Or.inr ⟨failedAt, List.mem_singleton.mp ht⟩
  | retried availableAt updatedAt errorCode errorMessage =>
      exact Stamps.clamps_greatest updatedAt rfl rfl fun _ ht => Or.inl ht
  | recovered availableAt now =>
      exact Stamps.clamps_greatest now rfl rfl fun _ ht => Or.inl ht
  | exhausted failedAt now =>
      refine Stamps.clamps_greatest now rfl rfl ?_
      intro t ht
      rcases List.mem_append.mp ht with ht | ht
      · exact Or.inl (List.mem_append_left _ ht)
      · exact Or.inr ⟨failedAt, List.mem_singleton.mp ht⟩
  | redriven newCycle availableAt now =>
      exact Stamps.clamps_greatest now rfl rfl fun _ ht => (by cases ht)

theorem InboxEnding.update (e : InboxEnding) (m : InboxMessage) :
    InboxUpdate m (e.message m) := by
  cases e with
  | processed now => exact InboxUpdate.processed _
  | failed now errorCode errorMessage => exact InboxUpdate.failed _ _ _
  | retried availableAt now errorCode errorMessage => exact InboxUpdate.retried _ _ _ _
  | expired now availableAt updatedAt => exact InboxUpdate.recovered _ _
  | exhausted now failedAt updatedAt => exact InboxUpdate.exhausted _ _

/-!
## Processing attempts
-/

namespace InboxProcessingAttempt

def span (a : InboxProcessingAttempt) : Time × Option Time :=
  (a.startedAt, a.finishedAt)

/-- The attempts of a message are numbered through all its cycles. -/
def Precedes (a b : InboxProcessingAttempt) : Prop :=
  a.attemptNumber < b.attemptNumber

end InboxProcessingAttempt

inductive ProcessingUpdate (a : InboxProcessingAttempt) : InboxProcessingAttempt -> Prop
  | finished (r : InboxAttemptResult) : ProcessingUpdate a (r.apply a)
  | expired (now : Time) : ProcessingUpdate a (a.setLeaseExpired now)

theorem ProcessingUpdate.span {a a' : InboxProcessingAttempt}
    (h : ProcessingUpdate a a') : a'.startedAt = a.startedAt ∧
      forall t, a'.finishedAt = some t -> a.startedAt ≤ t := by
  cases h with
  | finished r =>
      refine ⟨rfl, ?_⟩
      rintro t ⟨⟩
      exact le_max_right _ _
  | expired now =>
      refine ⟨rfl, ?_⟩
      rintro t ⟨⟩
      exact le_max_right _ _

theorem InboxEnding.attempt_update (e : InboxEnding) (a : InboxProcessingAttempt) :
    ProcessingUpdate a (e.attempt a) := by
  cases e with
  | processed now => exact ProcessingUpdate.finished _
  | failed now errorCode errorMessage => exact ProcessingUpdate.finished _
  | retried availableAt now errorCode errorMessage => exact ProcessingUpdate.finished _
  | expired now availableAt updatedAt => exact ProcessingUpdate.expired _
  | exhausted now failedAt updatedAt => exact ProcessingUpdate.expired _

/-- The times of an event and its attempts are ordered. -/
def EventTimed (m : InboxMessage) (attempts : List InboxProcessingAttempt) : Prop :=
  Timeline InboxProcessingAttempt.Precedes InboxProcessingAttempt.span m.stamps attempts

namespace EventTimed

variable {m : InboxMessage} {attempts : List InboxProcessingAttempt}

theorem claim (h : EventTimed m attempts) (hsound : EventSound m attempts)
    (leaseId attemptId : UUID) (workerId : String) (expiresAt now : Time) :
    EventTimed (m.setClaimed leaseId workerId expiresAt now)
      (attempts ++ [claimInboxAttempt (m.setClaimed leaseId workerId expiresAt now)
        attemptId leaseId workerId]) := by
  have hclaimed := Timeline.clamp h
    (InboxUpdate.claimed leaseId workerId expiresAt now).clamps
  refine hclaimed.concat rfl ?_
  intro b hb
  have hmem := List.mem_map_of_mem (f := InboxProcessingAttempt.attemptNumber) hb
  rw [hsound.counted.lifetime, List.mem_range'_1] at hmem
  show b.attemptNumber < m.processingAttempts + 1
  omega

theorem finish (h : EventTimed m attempts) (e : InboxEnding) (attemptId : UUID) :
    EventTimed (e.message m) (endInboxAttempt e attemptId attempts) := by
  refine Timeline.map (Timeline.clamp h (e.update m).clamps) _ ?_ ?_ ?_
  · intro a b hab
    unfold InboxProcessingAttempt.Precedes at hab ⊢
    split <;> split <;> simpa using hab
  · intro a
    split
    · exact (e.attempt_update a).span.left
    · rfl
  · intro a ha t ht
    split at ht
    · exact (e.attempt_update a).span.right t ht
    · exact h.finished a ha t ht

theorem receive (h : FreshInbox m) : EventTimed m [] := by
  refine Timeline.nil ⟨le_of_eq h.times.symm, ?_⟩
  intro t ht
  unfold InboxMessage.stamps at ht
  rw [h.marks.left, h.marks.right] at ht
  cases ht

end EventTimed

theorem InboxStep.timed {l : InboxLabel} {t u : InboxTables} (hstep : InboxStep l t u)
    (hsound : InboxSound t)
    (h : forall m, m ∈ t.messages.rows -> EventTimed m (t.attemptsOf m.inboxId)) :
    forall m, m ∈ u.messages.rows -> EventTimed m (u.attemptsOf m.inboxId) := by
  have hput : forall {u : InboxTables} {m' : InboxMessage},
      u.messages = t.messages.put m' ->
      (forall id, id ≠ m'.inboxId -> u.attemptsOf id = t.attemptsOf id) ->
      EventTimed m' (u.attemptsOf m'.inboxId) ->
      forall x, x ∈ u.messages.rows -> EventTimed x (u.attemptsOf x.inboxId) := by
    intro u m' hmessages hother hown x hx
    rw [hmessages] at hx
    rcases Table.mem_put hx with rfl | ⟨hx, hne⟩
    · exact hown
    · rw [hother x.inboxId hne]
      exact h x hx
  cases hstep with
  | keep => exact h
  | @receive _ messages m fresh insert =>
      have hrows := Table.insert?_eq_some.mp insert
      intro x hx
      rw [hrows.right] at hx
      rcases List.mem_append.mp hx with hx | hx
      · exact h x hx
      · rw [List.mem_singleton.mp hx]
        have hnone : t.attemptsOf m.inboxId = [] := by
          unfold InboxTables.attemptsOf Table.select
          rw [List.filter_eq_nil_iff]
          intro a ha hc
          rcases hsound.attempts a ha with ⟨m', hm'⟩
          rw [of_decide_eq_true hc, hrows.left] at hm'
          cases hm'
        show EventTimed _ (t.attemptsOf m.inboxId)
        rw [hnone]
        exact EventTimed.receive fresh
  | @claim _ attempts m leaseId attemptId workerId expiresAt now get due worker insert =>
      have hrows := (Table.insert?_eq_some.mp insert).right
      have hm := Table.mem_of_get get
      refine hput rfl ?_ ?_
      · intro id hid
        exact inboxAttemptsOf_insert_other (t := t) hrows (Ne.symm hid)
      · refine Eq.mpr (congrArg (EventTimed _)
          (inboxAttemptsOf_insert_own (t := t) hrows rfl)) ?_
        exact (h m hm).claim (hsound.events m hm) leaseId attemptId workerId expiresAt now
  | @renew _ m expiresAt now get held =>
      refine hput rfl (fun _ _ => rfl) ?_
      exact Timeline.clamp (h m (Table.mem_of_get get))
        (InboxUpdate.renewed expiresAt now).clamps
  | @finish _ e m a get held getAttempt ofMessage isOpen allowed =>
      refine hput rfl ?_ ?_
      · intro id hid
        rw [InboxEnding.message_inboxId, ← ofMessage] at hid
        exact inboxAttemptsOf_end_other getAttempt (Ne.symm hid)
      · rw [InboxEnding.message_inboxId, ← ofMessage]
        refine Eq.mpr (congrArg (EventTimed _) (inboxAttemptsOf_end getAttempt)) ?_
        rw [ofMessage]
        exact (h m (Table.mem_of_get get)).finish e a.attemptId
  | @redrive _ redrives m r availableAt now get failed insert audit =>
      refine hput rfl (fun _ _ => rfl) ?_
      exact Timeline.clamp (h m (Table.mem_of_get get))
        (InboxUpdate.redriven (m.processingCycle + 1) availableAt now).clamps

theorem InboxStep.advances {l : InboxLabel} {t u : InboxTables}
    (h : InboxStep l t u) : forall id m, t.messages.get id = some m ->
      exists m', u.messages.get id = some m' ∧ m.stamps.Advances m'.stamps := by
  have hrefl := fun m : InboxMessage => Stamps.Advances.refl m.stamps
  cases h with
  | keep => exact fun _ m h => ⟨m, h, hrefl m⟩
  | receive fresh insert => exact get_insert_related insert hrefl
  | @claim _ attempts m leaseId attemptId workerId expiresAt now get due worker insert =>
      exact get_put_related t.messages get rfl hrefl
        (InboxUpdate.claimed leaseId workerId expiresAt now).clamps.advances
  | @renew _ m expiresAt now get held =>
      exact get_put_related t.messages get rfl hrefl
        (InboxUpdate.renewed expiresAt now).clamps.advances
  | @finish _ e m a get held getAttempt ofMessage isOpen allowed =>
      exact get_put_related t.messages get (e.message_inboxId m) hrefl
        (e.update m).clamps.advances
  | @redrive _ redrives m r availableAt now get failed insert audit =>
      exact get_put_related t.messages get rfl hrefl
        (InboxUpdate.redriven _ availableAt now).clamps.advances

/-!
## Runs
-/

inductive OperationUpdate (r : OrderOperation) : OrderOperation -> Prop
  | finalized (operation : OrderOperation) (newStatus : OperationRecordStatus)
      (supportCaseId : Option UUID) (reference : Option String) (now : Time) :
      OperationUpdate r (operation.setFinalized newStatus supportCaseId reference now r)
  | callback (operation : OrderOperation) (status : OperationRecordStatus)
      (reference : Option String) (now : Time) :
      OperationUpdate r (operation.setCallback status reference now r)
  | reference (operation : OrderOperation) (reference : Option String) (now : Time) :
      OperationUpdate r (operation.setReference reference now r)
  | redriven (now : Time) : OperationUpdate r (r.setRedriven now)

theorem OperationUpdate.timely {r r' : OrderOperation} (h : OperationUpdate r r') :
    r'.createdAt ≤ r'.updatedAt := by
  cases h <;> exact le_greatest _ _ _

inductive CaseUpdate (r : SupportCase) : SupportCase -> Prop
  | technicalReview (existing : SupportCase) (now : Time) :
      CaseUpdate r (existing.setTechnicalReview now r)
  | deliveryFailed (case : SupportCase) (now : Time) :
      CaseUpdate r (case.setDeliveryFailed now r)

theorem CaseUpdate.timely {r r' : SupportCase} (h : CaseUpdate r r') :
    r'.createdAt ≤ r'.updatedAt := by
  cases h <;> exact le_greatest _ _ _

/-- The times of all rows that the integration reads are in order. -/
structure TimestampsOrdered (db : Database) : Prop where
  outbox : forall m, m ∈ db.outbox.messages.rows -> m.createdAt ≤ m.updatedAt ∧
    (forall t, m.publishedAt = some t -> m.createdAt ≤ t) ∧
    forall t, m.deadAt = some t -> m.createdAt ≤ t
  inbox : forall m, m ∈ db.inbox.messages.rows -> m.receivedAt ≤ m.updatedAt ∧
    (forall t, m.processedAt = some t -> m.receivedAt ≤ t) ∧
    forall t, m.failedAt = some t -> m.receivedAt ≤ t
  deliveries : forall a, a ∈ db.outbox.attempts.rows ->
    (forall t, a.finishedAt = some t -> a.startedAt ≤ t) ∧
    forall b, b ∈ db.outbox.attempts.rows -> a.commandId = b.commandId ->
      a.Precedes b -> a.startedAt ≤ b.startedAt
  processings : forall a, a ∈ db.inbox.attempts.rows ->
    (forall t, a.finishedAt = some t -> a.startedAt ≤ t) ∧
    forall b, b ∈ db.inbox.attempts.rows -> a.inboxId = b.inboxId ->
      a.Precedes b -> a.startedAt ≤ b.startedAt
  operations : forall o, o ∈ db.operations.rows.rows -> o.createdAt ≤ o.updatedAt
  cases : forall c, c ∈ db.cases.rows.rows -> c.createdAt ≤ c.updatedAt

/-- No row that a statement of the integration would write fails the condition on its
times, whatever the clocks say. -/
structure WritesOrdered (db : Database) : Prop where
  queued : forall command now,
    (outboxRow command now).createdAt ≤ (outboxRow command now).updatedAt
  received : forall inboxId connectionId eventId tenantId event sha256 now,
    (receivedRow inboxId connectionId eventId tenantId event sha256 now).receivedAt ≤
      (receivedRow inboxId connectionId eventId tenantId event sha256 now).updatedAt
  reviewed : forall operation caseId now,
    (technicalReviewCase operation caseId now).createdAt ≤
      (technicalReviewCase operation caseId now).updatedAt
  outbox : forall m m', m ∈ db.outbox.messages.rows -> OutboxUpdate m m' ->
    m'.createdAt ≤ m'.updatedAt
  inbox : forall m m', m ∈ db.inbox.messages.rows -> InboxUpdate m m' ->
    m'.receivedAt ≤ m'.updatedAt
  deliveries : forall a a', a ∈ db.outbox.attempts.rows -> DeliveryUpdate a a' ->
    forall t, a'.finishedAt = some t -> a'.startedAt ≤ t
  processings : forall a a', a ∈ db.inbox.attempts.rows -> ProcessingUpdate a a' ->
    forall t, a'.finishedAt = some t -> a'.startedAt ≤ t
  operations : forall o o', o ∈ db.operations.rows.rows -> OperationUpdate o o' ->
    o'.createdAt ≤ o'.updatedAt
  cases : forall c c', c ∈ db.cases.rows.rows -> CaseUpdate c c' ->
    c'.createdAt ≤ c'.updatedAt

/-- A message keeps its creation, and its last update does not go back. -/
structure TimestampsAdvance (db db' : Database) : Prop where
  outbox : forall id m, db.outbox.messages.get id = some m ->
    exists m', db'.outbox.messages.get id = some m' ∧
      m'.createdAt = m.createdAt ∧ m.updatedAt ≤ m'.updatedAt
  inbox : forall id m, db.inbox.messages.get id = some m ->
    exists m', db'.inbox.messages.get id = some m' ∧
      m'.receivedAt = m.receivedAt ∧ m.updatedAt ≤ m'.updatedAt

namespace TimestampsAdvance

variable {db db' db'' : Database}

theorem refl (db : Database) : TimestampsAdvance db db where
  outbox := fun _ m hm => ⟨m, hm, rfl, le_refl _⟩
  inbox := fun _ m hm => ⟨m, hm, rfl, le_refl _⟩

theorem trans (h : TimestampsAdvance db db') (h' : TimestampsAdvance db' db'') :
    TimestampsAdvance db db'' := by
  constructor
  · intro id m hm
    rcases h.outbox id m hm with ⟨m', hm', hcreated, hupdated⟩
    rcases h'.outbox id m' hm' with ⟨m'', hm'', hcreated', hupdated'⟩
    exact ⟨m'', hm'', hcreated'.trans hcreated, le_trans hupdated hupdated'⟩
  · intro id m hm
    rcases h.inbox id m hm with ⟨m', hm', hcreated, hupdated⟩
    rcases h'.inbox id m' hm' with ⟨m'', hm'', hcreated', hupdated'⟩
    exact ⟨m'', hm'', hcreated'.trans hcreated, le_trans hupdated hupdated'⟩

theorem of_move {l : Label} (h : Move l db db') : TimestampsAdvance db db' where
  outbox := fun id m hm => (h.outbox.advances id m hm).imp fun _ hm' =>
    ⟨hm'.left, hm'.right.created, hm'.right.updated⟩
  inbox := fun id m hm => (h.inbox.advances id m hm).imp fun _ hm' =>
    ⟨hm'.left, hm'.right.created, hm'.right.updated⟩

end TimestampsAdvance

structure Timed (db : Database) : Prop where
  commands : forall m, m ∈ db.outbox.messages.rows ->
    CommandTimed m (db.outbox.attemptsOf m.commandId)
  events : forall m, m ∈ db.inbox.messages.rows ->
    EventTimed m (db.inbox.attemptsOf m.inboxId)

theorem World.Runs.timed {stages : List (Stage World Event)} {w : World}
    (h : World.Runs stages w) : Timed w.db := by
  refine (h.kept (I := Timed) ?_ ?_).left
  · intro ids
    exact ⟨fun m hm => (by cases hm), fun m hm => (by cases hm)⟩
  · intro l db db' hmove hsound htimed
    exact ⟨hmove.outbox.timed hsound.outbox htimed.commands,
      hmove.inbox.timed hsound.inbox htimed.events⟩

theorem Timed.ordered {db : Database} (h : Timed db) (hsound : Sound db) :
    TimestampsOrdered db := by
  constructor
  · intro m hm
    have hstamps := (h.commands m hm).stamps
    refine ⟨hstamps.updated, ?_, ?_⟩
    · intro t ht
      exact hstamps.marks t (List.mem_append_left _ (Option.mem_toList.mpr ht))
    · intro t ht
      exact hstamps.marks t (List.mem_append_right _ (Option.mem_toList.mpr ht))
  · intro m hm
    have hstamps := (h.events m hm).stamps
    refine ⟨hstamps.updated, ?_, ?_⟩
    · intro t ht
      exact hstamps.marks t (List.mem_append_left _ (Option.mem_toList.mpr ht))
    · intro t ht
      exact hstamps.marks t (List.mem_append_right _ (Option.mem_toList.mpr ht))
  · intro a ha
    rcases (hsound.outbox.attempts a ha).right with ⟨m, hm⟩
    have htimed := h.commands m (Table.mem_of_get hm)
    rw [Table.get_key hm] at htimed
    have hmem : a ∈ db.outbox.attemptsOf a.commandId :=
      Table.mem_select.mpr ⟨ha, decide_eq_true rfl⟩
    refine ⟨htimed.finished a hmem, ?_⟩
    intro b hb hcommand hab
    exact htimed.start_le (fun _ _ => OutboxDeliveryAttempt.Precedes.asymm) hmem
      (Table.mem_select.mpr ⟨hb, decide_eq_true hcommand.symm⟩) hab
  · intro a ha
    rcases hsound.inbox.attempts a ha with ⟨m, hm⟩
    have htimed := h.events m (Table.mem_of_get hm)
    rw [Table.get_key hm] at htimed
    have hmem : a ∈ db.inbox.attemptsOf a.inboxId :=
      Table.mem_select.mpr ⟨ha, decide_eq_true rfl⟩
    refine ⟨htimed.finished a hmem, ?_⟩
    intro b hb hmessage hab
    exact htimed.start_le (fun _ _ => Nat.lt_asymm) hmem
      (Table.mem_select.mpr ⟨hb, decide_eq_true hmessage.symm⟩) hab
  · intro o ho
    have hchecks := hsound.operations.checked o ho
    simp only [OrderOperation.checks, Bool.and_eq_true, decide_eq_true_eq] at hchecks
    exact hchecks.right
  · intro c hc
    have hvalid := hsound.cases.valid c hc
    simp only [SupportCase.valid, Bool.and_eq_true, decide_eq_true_eq] at hvalid
    exact hvalid.left.left.left.left.left

theorem Timed.writes {db : Database} (h : Timed db) : WritesOrdered db where
  queued := fun _ now => le_refl now
  received := fun _ _ _ _ _ _ now => le_refl now
  reviewed := fun _ _ now => le_refl now
  outbox := fun m _ hm hu => ((h.commands m hm).stamps.clamp hu.clamps).updated
  inbox := fun m _ hm hu => ((h.events m hm).stamps.clamp hu.clamps).updated
  deliveries := by
    intro a a' _ hu t ht
    rw [hu.span.left]
    exact hu.span.right t ht
  processings := by
    intro a a' _ hu t ht
    rw [hu.span.left]
    exact hu.span.right t ht
  operations := fun _ _ _ hu => hu.timely
  cases := fun _ _ _ hu => hu.timely

/--
The timestamps of the integration are ordered in every run, whatever the clocks say: the
last update of a message never goes back, no mark of a message is before its creation, an
attempt does not finish before it starts, and the attempts start in their order.  No row
that a statement writes fails the condition on its times.
-/
theorem integration_timestamps_ordered {stages : List (Stage World Event)} {w : World}
    (h : World.Runs stages w) :
    TimestampsOrdered w.db ∧ WritesOrdered w.db ∧
      forall x, x ∈ stages -> TimestampsAdvance x.before.db x.after.db ∧
        TimestampsAdvance x.after.db w.db := by
  refine ⟨h.timed.ordered h.good.left.sound, h.timed.writes, ?_⟩
  intro x hx
  exact h.related TimestampsAdvance.refl (fun h h' => h.trans h')
    (fun _ _ _ hm => TimestampsAdvance.of_move hm) hx

def sampleLateClaim : Job :=
  Job.claimOutbox "worker" 1 30 [4] (fun _ _ => 5000000)

def sampleLateHandle : ClaimedOutboxMessage :=
  (sampleQueued.perform sampleLateClaim).handles.head (by decide +kernel)

/-- The clock goes back between the claim of a command and its end, and once more before
a callback arrives and is claimed. -/
def sampleClockBack : World :=
  ((((sampleQueued.perform sampleLateClaim).perform
    (Job.finalizeOutbox sampleLateHandle sampleAccepted 4000000)).perform
      (Job.receiveInbox sampleEvent)).perform
        (Job.claimInbox "worker" 1 30 [100] (fun _ _ => 2000000)))

theorem sampleClockBack_runs : exists stages, World.Runs stages sampleClockBack := by
  rcases sampleQueued_runs with ⟨stages, hrun, _⟩
  have hclaimed := hrun.job (j := sampleLateClaim) trivial
  have hhandle : (Job.finalizeOutbox sampleLateHandle sampleAccepted 4000000).Admissible
      (sampleQueued.perform sampleLateClaim).handles := List.head_mem _
  have hfresh : forall handles, (Job.receiveInbox sampleEvent).Admissible handles :=
    fun _ hchecks => ⟨hchecks, rfl, rfl, rfl, rfl, ⟨rfl, rfl, rfl⟩, ⟨rfl, rfl⟩, rfl, rfl, rfl⟩
  exact ⟨_, ((hclaimed.job hhandle).job (hfresh _)).job
    (j := Job.claimInbox "worker" 1 30 [100] (fun _ _ => 2000000)) trivial⟩

/-- The end of the attempt is clamped to its start. -/
theorem integration_timestamps_sample : exists stages, World.Runs stages sampleClockBack ∧
    sampleClockBack.db.outbox.attempts.rows.map (fun a => (a.startedAt, a.finishedAt)) =
      [(5000000, some 5000000)] ∧
    sampleClockBack.db.inbox.attempts.rows.length = 1 ∧
    TimestampsOrdered sampleClockBack.db ∧ WritesOrdered sampleClockBack.db := by
  rcases sampleClockBack_runs with ⟨stages, hrun⟩
  have hordered := integration_timestamps_ordered hrun
  exact ⟨stages, hrun, by decide +kernel, by decide +kernel, hordered.left,
    hordered.right.left⟩

/-- The refusal of a retry that does not lie after the database time. -/
def retryTimeRefused : Failure :=
  Failure.valueError "retry_available_at must be aware and later than database time"

/-- The callback of the example comes before its command has been delivered. -/
def sampleEarly : World :=
  (sampleQueued.perform (Job.receiveInbox sampleEvent)).perform
    (Job.claimInbox "worker" 1 30 [100] (fun _ _ => 0))

def sampleEarlyCallback : ClaimedInboxMessage :=
  { toInboxMessage := sampleEarly.db.inbox.messages.rows.head (by decide +kernel)
    attempt := sampleEarly.db.inbox.attempts.rows.head (by decide +kernel) }

theorem sampleEarly_runs : exists stages, World.Runs stages sampleEarly := by
  rcases sampleQueued_runs with ⟨stages, hrun, _⟩
  have hfresh : (Job.receiveInbox sampleEvent).Admissible sampleQueued.handles :=
    fun hchecks => ⟨hchecks, rfl, rfl, rfl, rfl, ⟨rfl, rfl, rfl⟩, ⟨rfl, rfl⟩, rfl, rfl, rfl⟩
  exact ⟨_, (hrun.job hfresh).job (j := Job.claimInbox "worker" 1 30 [100]
    (fun _ _ => 0)) trivial⟩

/--
One timestamp check does refuse a step: a finalizer whose command is not delivered yet
raises when the retry time, which comes from the clock of the process, is not after the
time of the database.  With a later retry time the same call schedules the retry.
-/
theorem integration_timestamp_refused :
    (exists stages, World.Runs stages sampleEarly) ∧
    (match finalizeOrderOperation sampleEarlyCallback 5 10 sampleEarly.db with
      | Except.error e => e = retryTimeRefused
      | Except.ok _ => False) ∧
    (match finalizeOrderOperation sampleEarlyCallback 15 10 sampleEarly.db with
      | Except.error _ => False
      | Except.ok r => r.1.outcome = InboxFinalizationOutcome.retryScheduled) := by
  refine ⟨sampleEarly_runs, ?_, ?_⟩
  · have hrefused : (match finalizeOrderOperation sampleEarlyCallback 5 10 sampleEarly.db with
        | Except.error e => decide (e = retryTimeRefused)
        | Except.ok _ => false) = true := by
      decide +kernel
    revert hrefused
    split <;> simp
  · have hscheduled : (match finalizeOrderOperation sampleEarlyCallback 15 10
          sampleEarly.db with
        | Except.error _ => false
        | Except.ok r => decide (r.1.outcome =
            InboxFinalizationOutcome.retryScheduled)) = true := by
      decide +kernel
    revert hscheduled
    split <;> simp

end RefundAgent
