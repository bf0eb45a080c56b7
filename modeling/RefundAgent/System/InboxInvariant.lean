import RefundAgent.System.Move

/-!
# The inbox invariant

The counterpart of the outbox invariant.  An inbox message counts its attempts
twice: over its lifetime, which numbers the attempts, and within the current
cycle, which a redrive starts again from zero.
-/

namespace RefundAgent

open Foundation

/-- The attempts on one message, in the order in which they were made. -/
def InboxTables.attemptsOf (t : InboxTables) (inboxId : UUID) :
    List InboxProcessingAttempt :=
  t.attempts.select fun a => decide (a.inboxId = inboxId)

/-- The attempts of one cycle. -/
def inCycle (attempts : List InboxProcessingAttempt) (cycle : Nat) :
    List InboxProcessingAttempt :=
  attempts.filter fun a => decide (a.processingCycle = cycle)

theorem inCycle_append {attempts : List InboxProcessingAttempt}
    {a : InboxProcessingAttempt} {cycle : Nat} (h : a.processingCycle = cycle) :
    inCycle (attempts ++ [a]) cycle = inCycle attempts cycle ++ [a] := by
  simp [inCycle, h]

/-!
## The invariant of one message
-/

structure InboxCounted (m : InboxMessage) (attempts : List InboxProcessingAttempt) :
    Prop where
  lifetime : attempts.map InboxProcessingAttempt.attemptNumber =
    List.range' 1 m.processingAttempts
  cycles : forall a, a ∈ attempts -> a.processingCycle ≤ m.processingCycle
  current : m.attemptsInCycle = (inCycle attempts m.processingCycle).length
  bound : m.attemptsInCycle ≤ 5

structure InboxCarriesLease (m : InboxMessage) (a : InboxProcessingAttempt) :
    Prop where
  lease : some a.leaseId = m.leaseId
  worker : some a.workerId = m.leaseOwner
  cycle : a.processingCycle = m.processingCycle
  number : a.attemptNumber = m.processingAttempts

/-- An attempt is open exactly while the message is processing. -/
structure InboxLeased (m : InboxMessage) (attempts : List InboxProcessingAttempt) :
    Prop where
  opened : m.status = InboxProcessingStatus.processing ->
    exists a, attempts.filter InboxProcessingAttempt.isOpen = [a] ∧
      InboxCarriesLease m a
  closed : m.status ≠ InboxProcessingStatus.processing ->
    attempts.filter InboxProcessingAttempt.isOpen = []

structure InboxMarked (m : InboxMessage) : Prop where
  times : m.receivedAt ≤ m.updatedAt
  leaseId : m.status = InboxProcessingStatus.processing ↔ m.leaseId.isSome = true
  processedAt : m.status = InboxProcessingStatus.processed ↔
    m.processedAt.isSome = true
  failedAt : m.status = InboxProcessingStatus.failed ↔ m.failedAt.isSome = true

structure EventSound (m : InboxMessage) (attempts : List InboxProcessingAttempt) :
    Prop where
  counted : InboxCounted m attempts
  leased : InboxLeased m attempts
  marked : InboxMarked m

structure InboxSound (t : InboxTables) : Prop where
  events : forall m, m ∈ t.messages.rows -> EventSound m (t.attemptsOf m.inboxId)
  attempts : forall a, a ∈ t.attempts.rows ->
    exists m, t.messages.get a.inboxId = some m

/-!
## Endings
-/

namespace InboxEnding

variable (e : InboxEnding) (a : InboxProcessingAttempt) (m : InboxMessage)

@[simp] theorem attempt_attemptId : (e.attempt a).attemptId = a.attemptId := by
  cases e <;> rfl

@[simp] theorem attempt_inboxId : (e.attempt a).inboxId = a.inboxId := by
  cases e <;> rfl

@[simp] theorem attempt_processingCycle :
    (e.attempt a).processingCycle = a.processingCycle := by
  cases e <;> rfl

@[simp] theorem attempt_attemptNumber :
    (e.attempt a).attemptNumber = a.attemptNumber := by
  cases e <;> rfl

@[simp] theorem attempt_isOpen : (e.attempt a).isOpen = false := by
  cases e <;> rfl

@[simp] theorem message_inboxId : (e.message m).inboxId = m.inboxId := by
  cases e <;> rfl

@[simp] theorem message_processingCycle :
    (e.message m).processingCycle = m.processingCycle := by
  cases e <;> rfl

@[simp] theorem message_processingAttempts :
    (e.message m).processingAttempts = m.processingAttempts := by
  cases e <;> rfl

@[simp] theorem message_attemptsInCycle :
    (e.message m).attemptsInCycle = m.attemptsInCycle := by
  cases e <;> rfl

theorem message_not_processing :
    (e.message m).status ≠ InboxProcessingStatus.processing := by
  cases e <;> simp [message, InboxMessage.setProcessed, InboxMessage.setFailed,
    InboxMessage.setRetry, InboxMessage.setRecovered, InboxMessage.setExhausted]

theorem marked {m : InboxMessage} (h : InboxMarked m)
    (hm : m.status = InboxProcessingStatus.processing) :
    InboxMarked (e.message m) := by
  have hprocessed := h.processedAt
  have hfailed := h.failedAt
  rw [hm] at hprocessed hfailed
  cases e <;> refine ⟨le_max_of_le_right (le_max_right _ _), ?_, ?_, ?_⟩ <;>
    simp_all [message, InboxMessage.setProcessed, InboxMessage.setFailed,
      InboxMessage.setRetry, InboxMessage.setRecovered, InboxMessage.setExhausted]

end InboxEnding

/-- End one attempt of a list. -/
def endInboxAttempt (e : InboxEnding) (attemptId : UUID)
    (attempts : List InboxProcessingAttempt) : List InboxProcessingAttempt :=
  attempts.map fun s => if s.attemptId = attemptId then e.attempt s else s

theorem mem_endInboxAttempt {e : InboxEnding} {attemptId : UUID}
    {attempts : List InboxProcessingAttempt} {s : InboxProcessingAttempt}
    (h : s ∈ endInboxAttempt e attemptId attempts) :
    (exists a, a ∈ attempts ∧ a.attemptId = attemptId ∧ s = e.attempt a) ∨
      (s ∈ attempts ∧ s.attemptId ≠ attemptId) := by
  rcases List.mem_map.mp h with ⟨a, ha, hs⟩
  by_cases hid : a.attemptId = attemptId
  · rw [if_pos hid] at hs
    exact Or.inl ⟨a, ha, hid, hs.symm⟩
  · rw [if_neg hid] at hs
    rw [← hs]
    exact Or.inr ⟨ha, hid⟩

theorem InboxCounted.finish {m : InboxMessage}
    {attempts : List InboxProcessingAttempt} (h : InboxCounted m attempts)
    (e : InboxEnding) (attemptId : UUID) :
    InboxCounted (e.message m) (endInboxAttempt e attemptId attempts) := by
  have hnumber : forall s : InboxProcessingAttempt,
      (if s.attemptId = attemptId then e.attempt s else s).attemptNumber =
        s.attemptNumber := by
    intro s
    by_cases hs : s.attemptId = attemptId <;> simp [hs]
  have hcycle : forall s : InboxProcessingAttempt,
      (if s.attemptId = attemptId then e.attempt s else s).processingCycle =
        s.processingCycle := by
    intro s
    by_cases hs : s.attemptId = attemptId <;> simp [hs]
  constructor
  · unfold endInboxAttempt
    rw [List.map_map, InboxEnding.message_processingAttempts, ← h.lifetime]
    exact List.map_congr_left fun s _ => hnumber s
  · intro s hs
    rw [InboxEnding.message_processingCycle]
    rcases mem_endInboxAttempt hs with ⟨a, ha, _, rfl⟩ | ⟨hs, _⟩
    · rw [InboxEnding.attempt_processingCycle]
      exact h.cycles a ha
    · exact h.cycles s hs
  · unfold inCycle endInboxAttempt
    rw [InboxEnding.message_attemptsInCycle, InboxEnding.message_processingCycle,
      List.filter_map, List.length_map, h.current]
    simp only [inCycle, Function.comp_def, hcycle]
  · rw [InboxEnding.message_attemptsInCycle]
    exact h.bound

/-!
## Steps on one message
-/

theorem EventSound.receive {m : InboxMessage} (h : FreshInbox m) :
    EventSound m [] where
  counted := ⟨by rw [h.attempts]; rfl, by simp, by rw [h.inCycle]; rfl,
    by rw [h.inCycle]; exact Nat.zero_le 5⟩
  leased := ⟨fun hs => (by rw [h.status] at hs; cases hs), fun _ => rfl⟩
  marked := ⟨le_of_eq h.times.symm, by simp [h.status, h.lease.left],
    by simp [h.status, h.marks.left], by simp [h.status, h.marks.right]⟩

theorem EventSound.claim {m : InboxMessage} {attempts : List InboxProcessingAttempt}
    (h : EventSound m attempts) (hm : m.status = InboxProcessingStatus.received)
    (hdue : m.attemptsInCycle < 5) {leaseId attemptId : UUID} {workerId : String}
    {expiresAt now : Time} :
    EventSound (m.setClaimed leaseId workerId expiresAt now)
      (attempts ++ [claimInboxAttempt (m.setClaimed leaseId workerId expiresAt now)
        attemptId leaseId workerId]) := by
  have hidle : m.status ≠ InboxProcessingStatus.processing := by simp [hm]
  refine ⟨?_, ?_, ?_⟩
  · constructor
    · show List.map _ _ = List.range' 1 (m.processingAttempts + 1)
      rw [List.map_append, h.counted.lifetime, List.range'_1_concat, Nat.add_comm 1]
      rfl
    · intro a ha
      rcases List.mem_append.mp ha with ha | ha
      · exact h.counted.cycles a ha
      · rw [List.mem_singleton.mp ha]
        exact Nat.le_refl _
    · refine Eq.trans ?_ (congrArg List.length (inCycle_append rfl)).symm
      rw [List.length_append]
      exact congrArg (· + 1) h.counted.current
    · exact hdue
  · constructor
    · intro _
      refine ⟨claimInboxAttempt (m.setClaimed leaseId workerId expiresAt now) attemptId
        leaseId workerId, ?_, ⟨rfl, rfl, rfl, rfl⟩⟩
      rw [List.filter_append, h.leased.closed hidle]
      rfl
    · intro hno
      exact absurd rfl hno
  · have hprocessed := h.marked.processedAt
    have hfailed := h.marked.failedAt
    rw [hm] at hprocessed hfailed
    exact ⟨le_max_of_le_right (le_max_right _ _), by simp [InboxMessage.setClaimed],
      by simpa [InboxMessage.setClaimed] using hprocessed,
      by simpa [InboxMessage.setClaimed] using hfailed⟩

theorem EventSound.renew {m : InboxMessage} {attempts : List InboxProcessingAttempt}
    (h : EventSound m attempts) {expiresAt now : Time} :
    EventSound (m.setRenewed expiresAt now) attempts where
  counted := ⟨h.counted.lifetime, h.counted.cycles, h.counted.current,
    h.counted.bound⟩
  leased := by
    refine ⟨?_, h.leased.closed⟩
    intro hs
    rcases h.leased.opened hs with ⟨a, ha, hc⟩
    exact ⟨a, ha, ⟨hc.lease, hc.worker, hc.cycle, hc.number⟩⟩
  marked := ⟨le_max_of_le_right (le_max_right _ _), h.marked.leaseId,
    h.marked.processedAt, h.marked.failedAt⟩

/-- A redrive opens a cycle without attempts and keeps the lifetime count. -/
theorem EventSound.redrive {m : InboxMessage}
    {attempts : List InboxProcessingAttempt} (h : EventSound m attempts)
    (hm : m.status = InboxProcessingStatus.failed) {availableAt now : Time} :
    EventSound (m.setRedriven (m.processingCycle + 1) availableAt now) attempts := by
  refine ⟨?_, ?_, ?_⟩
  · refine ⟨h.counted.lifetime, ?_, ?_, Nat.zero_le 5⟩
    · intro a ha
      exact Nat.le_succ_of_le (h.counted.cycles a ha)
    · have hnone : inCycle attempts (m.processingCycle + 1) = [] := by
        unfold inCycle
        rw [List.filter_eq_nil_iff]
        intro a ha hc
        have hle := h.counted.cycles a ha
        rw [decide_eq_true_eq] at hc
        omega
      show 0 = (inCycle attempts (m.processingCycle + 1)).length
      rw [hnone]
      rfl
  · constructor
    · intro hs
      cases hs
    · intro _
      exact h.leased.closed (by simp [hm])
  · exact ⟨le_max_of_le_right (le_max_right _ _), by simp [InboxMessage.setRedriven],
      by simp [InboxMessage.setRedriven], by simp [InboxMessage.setRedriven]⟩

theorem EventSound.finish {m : InboxMessage}
    {attempts : List InboxProcessingAttempt} (h : EventSound m attempts)
    (hm : m.status = InboxProcessingStatus.processing) {a : InboxProcessingAttempt}
    (ha : a ∈ attempts) (hopen : a.isOpen = true) (e : InboxEnding) :
    EventSound (e.message m) (endInboxAttempt e a.attemptId attempts) := by
  refine ⟨h.counted.finish e a.attemptId, ?_, e.marked h.marked hm⟩
  refine ⟨fun hs => absurd hs (e.message_not_processing m), fun _ => ?_⟩
  rcases h.leased.opened hm with ⟨b, hb, _⟩
  have hopened : forall s, s ∈ attempts -> s.isOpen = true -> s = b := by
    intro s hs hso
    have hmem : s ∈ attempts.filter InboxProcessingAttempt.isOpen :=
      List.mem_filter.mpr ⟨hs, hso⟩
    rw [hb] at hmem
    exact List.mem_singleton.mp hmem
  rw [List.filter_eq_nil_iff]
  intro s hs hso
  rcases mem_endInboxAttempt hs with ⟨c, _, _, rfl⟩ | ⟨hs, hne⟩
  · rw [InboxEnding.attempt_isOpen] at hso
    cases hso
  · exact hne (congrArg InboxProcessingAttempt.attemptId
      ((hopened s hs hso).trans (hopened a ha hopen).symm))

/-!
## Steps
-/

theorem inboxAttemptsOf_end_other {t : InboxTables} {e : InboxEnding}
    {a : InboxProcessingAttempt} {inboxId : UUID}
    (hget : t.attempts.get a.attemptId = some a) (hne : a.inboxId ≠ inboxId) :
    InboxTables.attemptsOf { t with attempts := t.attempts.put (e.attempt a) }
        inboxId = t.attemptsOf inboxId := by
  refine Table.filter_put_of_not ?_ ?_
  · rw [decide_eq_false_iff_not, InboxEnding.attempt_inboxId]
    exact hne
  · intro s hs hkey
    rw [InboxEnding.attempt_attemptId] at hkey
    rw [Table.eq_of_key_eq hs (Table.mem_of_get hget) hkey, decide_eq_false_iff_not]
    exact hne

theorem inboxAttemptsOf_end {t : InboxTables} {e : InboxEnding}
    {a : InboxProcessingAttempt} (hget : t.attempts.get a.attemptId = some a) :
    InboxTables.attemptsOf { t with attempts := t.attempts.put (e.attempt a) }
        a.inboxId = endInboxAttempt e a.attemptId (t.attemptsOf a.inboxId) := by
  unfold InboxTables.attemptsOf endInboxAttempt
  have hget' : t.attempts.get (e.attempt a).attemptId = some a := by
    rw [InboxEnding.attempt_attemptId]
    exact hget
  rw [Table.select_put hget' (by rw [InboxEnding.attempt_inboxId])]
  apply List.map_congr_left
  intro s hs
  rw [InboxEnding.attempt_attemptId]
  by_cases hid : s.attemptId = a.attemptId
  · rw [if_pos hid, if_pos hid,
      Table.eq_of_key_eq (Table.mem_select.mp hs).left (Table.mem_of_get hget) hid]
  · rw [if_neg hid, if_neg hid]

theorem inboxAttemptsOf_insert_own {t u : InboxTables} {a : InboxProcessingAttempt}
    {inboxId : UUID} (hrows : u.attempts.rows = t.attempts.rows ++ [a])
    (h : a.inboxId = inboxId) :
    u.attemptsOf inboxId = t.attemptsOf inboxId ++ [a] := by
  unfold InboxTables.attemptsOf Table.select
  rw [hrows, List.filter_append]
  simp [h]

theorem inboxAttemptsOf_insert_other {t u : InboxTables}
    {a : InboxProcessingAttempt} {inboxId : UUID}
    (hrows : u.attempts.rows = t.attempts.rows ++ [a]) (h : a.inboxId ≠ inboxId) :
    u.attemptsOf inboxId = t.attemptsOf inboxId := by
  unfold InboxTables.attemptsOf Table.select
  rw [hrows, List.filter_append]
  simp [h]

theorem InboxSound.put_events {t u : InboxTables} (h : InboxSound t)
    {m' : InboxMessage} (hmessages : u.messages = t.messages.put m')
    (hother : forall id, id ≠ m'.inboxId -> u.attemptsOf id = t.attemptsOf id)
    (hown : EventSound m' (u.attemptsOf m'.inboxId)) :
    forall x, x ∈ u.messages.rows -> EventSound x (u.attemptsOf x.inboxId) := by
  intro x hx
  rw [hmessages] at hx
  rcases Table.mem_put hx with rfl | ⟨hx, hne⟩
  · exact hown
  · rw [hother x.inboxId hne]
    exact h.events x hx

theorem InboxStep.sound {l : InboxLabel} {t u : InboxTables}
    (hstep : InboxStep l t u) (h : InboxSound t) : InboxSound u := by
  have hlater := hstep.later
  have hexists : forall {a : InboxProcessingAttempt}, a ∈ t.attempts.rows ->
      exists m, u.messages.get a.inboxId = some m := by
    intro a ha
    rcases h.attempts a ha with ⟨m, hm⟩
    rcases hlater _ m hm with ⟨m', hm', _⟩
    exact ⟨m', hm'⟩
  cases hstep with
  | keep => exact h
  | @receive _ messages m fresh insert =>
      have hrows := Table.insert?_eq_some.mp insert
      refine ⟨?_, fun a ha => hexists ha⟩
      intro x hx
      rw [hrows.right] at hx
      rcases List.mem_append.mp hx with hx | hx
      · exact h.events x hx
      · rw [List.mem_singleton.mp hx]
        have hnone : t.attemptsOf m.inboxId = [] := by
          unfold InboxTables.attemptsOf Table.select
          rw [List.filter_eq_nil_iff]
          intro a ha hc
          rcases h.attempts a ha with ⟨m', hm'⟩
          rw [of_decide_eq_true hc, hrows.left] at hm'
          cases hm'
        show EventSound _ (t.attemptsOf m.inboxId)
        rw [hnone]
        exact EventSound.receive fresh
  | @claim _ attempts m leaseId attemptId workerId expiresAt now get due worker insert =>
      have hrows := (Table.insert?_eq_some.mp insert).right
      have hm := h.events m (Table.mem_of_get get)
      constructor
      · refine h.put_events rfl ?_ ?_
        · intro id hid
          exact inboxAttemptsOf_insert_other (t := t) hrows (Ne.symm hid)
        · refine Eq.mpr (congrArg (EventSound _)
            (inboxAttemptsOf_insert_own (t := t) hrows rfl)) ?_
          exact hm.claim due.left due.right
      · intro a ha
        rw [hrows] at ha
        rcases List.mem_append.mp ha with ha | ha
        · exact hexists ha
        · rw [List.mem_singleton.mp ha]
          exact (hlater _ m get).imp fun _ h => h.left
  | @renew _ m expiresAt now get held =>
      refine ⟨h.put_events rfl (fun _ _ => rfl) ?_, fun a ha => hexists ha⟩
      exact (h.events m (Table.mem_of_get get)).renew
  | @finish _ e m a get held getAttempt ofMessage isOpen allowed =>
      have hmem := Table.mem_of_get getAttempt
      constructor
      · refine h.put_events rfl ?_ ?_
        · intro id hid
          rw [InboxEnding.message_inboxId, ← ofMessage] at hid
          exact inboxAttemptsOf_end_other getAttempt (Ne.symm hid)
        · rw [InboxEnding.message_inboxId, ← ofMessage]
          refine Eq.mpr (congrArg (EventSound _) (inboxAttemptsOf_end getAttempt)) ?_
          have hm := h.events m (Table.mem_of_get get)
          rw [← ofMessage] at hm
          exact hm.finish held (Table.mem_select.mpr ⟨hmem, decide_eq_true rfl⟩) isOpen
            e
      · intro s hs
        rcases Table.mem_put hs with rfl | ⟨hs, _⟩
        · rw [InboxEnding.attempt_inboxId]
          exact hexists hmem
        · exact hexists hs
  | @redrive _ redrives m r availableAt now get failed insert audit =>
      refine ⟨h.put_events rfl (fun _ _ => rfl) ?_, fun a ha => hexists ha⟩
      exact (h.events m (Table.mem_of_get get)).redrive failed

theorem InboxSound.initial (ids : Supply) :
    InboxSound (Database.initial ids).inbox where
  events := fun m hm => (by cases hm)
  attempts := fun a ha => (by cases ha)

/-!
## Processed messages
-/

theorem InboxStep.processed_kept {l : InboxLabel} {t u : InboxTables}
    (hstep : InboxStep l t u) {m : InboxMessage}
    (hm : t.messages.get m.inboxId = some m)
    (hdone : m.status = InboxProcessingStatus.processed) :
    u.messages.get m.inboxId = some m := by
  have hkept : forall {x x' : InboxMessage}, t.messages.get x.inboxId = some x ->
      x'.inboxId = x.inboxId -> x.status ≠ InboxProcessingStatus.processed ->
      (t.messages.put x').get m.inboxId = some m := by
    intro x x' hx hid hstatus
    rw [Table.get_put_ne]
    · exact hm
    · intro hkey
      have hkey : m.inboxId = x.inboxId := hkey.trans hid
      rw [hkey, hx] at hm
      cases hm
      exact hstatus hdone
  cases hstep with
  | keep => exact hm
  | receive fresh insert =>
      exact Table.get_of_rows_append (Table.insert?_eq_some.mp insert).right hm
  | claim get due worker insert => exact hkept get rfl (by simp [due.left])
  | renew get held => exact hkept get rfl (by simp [held])
  | @finish _ e x a get held getAttempt ofMessage isOpen allowed =>
      exact hkept get (e.message_inboxId x) (by simp [held])
  | redrive get failed => exact hkept get rfl (by simp [failed])

end RefundAgent
