import RefundAgent.System.Move

/-!
# The outbox invariant

What holds of one command is stated about its message and the list of its
attempts in the order in which they were made.  A step touches one command;
the others keep both.
-/

namespace RefundAgent

open Foundation

/-- The attempts of one command, in the order in which they were made. -/
def OutboxTables.attemptsOf (t : OutboxTables) (commandId : UUID) :
    List OutboxDeliveryAttempt :=
  t.attempts.select fun a => decide (a.commandId = commandId)

/-- The numbers of the attempts of one cycle. -/
def cycleNumbers (attempts : List OutboxDeliveryAttempt) (cycle : Nat) : List Nat :=
  (attempts.filter fun a => decide (a.deliveryCycle = cycle)).map
    OutboxDeliveryAttempt.attemptNumber

/-!
## The invariant of one command
-/

structure Numbered (m : OutboxMessage) (attempts : List OutboxDeliveryAttempt) :
    Prop where
  positive : 1 ≤ m.deliveryCycle
  cycles : forall a, a ∈ attempts ->
    1 ≤ a.deliveryCycle ∧ a.deliveryCycle ≤ m.deliveryCycle
  current : cycleNumbers attempts m.deliveryCycle = List.range' 1 m.attemptsInCycle
  earlier : forall cycle, cycle < m.deliveryCycle ->
    exists n, n ≤ 8 ∧ cycleNumbers attempts cycle = List.range' 1 n
  bound : m.attemptsInCycle ≤ 8

structure CarriesLease (m : OutboxMessage) (a : OutboxDeliveryAttempt) : Prop where
  lease : some a.leaseId = m.leaseId
  worker : some a.workerId = m.leaseOwner
  cycle : a.deliveryCycle = m.deliveryCycle
  number : a.attemptNumber = m.attemptsInCycle

/-- An attempt is open exactly while the message is processing. -/
structure Leased (m : OutboxMessage) (attempts : List OutboxDeliveryAttempt) :
    Prop where
  opened : m.status = OutboxDeliveryStatus.processing ->
    exists a, attempts.filter OutboxDeliveryAttempt.isOpen = [a] ∧ CarriesLease m a
  closed : m.status ≠ OutboxDeliveryStatus.processing ->
    attempts.filter OutboxDeliveryAttempt.isOpen = []

structure Marked (m : OutboxMessage) : Prop where
  envelope : m.toProviderCommandEnvelope.valid = true
  times : m.createdAt ≤ m.updatedAt
  leaseId : m.status = OutboxDeliveryStatus.processing ↔ m.leaseId.isSome = true
  leaseOwner : m.status = OutboxDeliveryStatus.processing ↔
    m.leaseOwner.isSome = true
  leaseExpiresAt : m.status = OutboxDeliveryStatus.processing ↔
    m.leaseExpiresAt.isSome = true
  publishedAt : m.status = OutboxDeliveryStatus.published ↔
    m.publishedAt.isSome = true
  deadAt : m.status = OutboxDeliveryStatus.dead ↔ m.deadAt.isSome = true
  owner : m.leaseOwner.all textAccepted = true
  errorCode : m.lastErrorCode.all errorTextAccepted = true
  errorMessage : m.lastErrorMessage.all errorTextAccepted = true

/-- How the last attempt of a dead command ended. -/
def TerminalEvidence (m : OutboxMessage) (a : OutboxDeliveryAttempt) : Prop :=
  (a.outcome = some DeliveryAttemptOutcome.providerRejected ∧
      a.failureKind = some ProviderFailureKind.providerRejection ∧
      m.lastFailureKind = some ProviderFailureKind.providerRejection) ∨
    (m.lastFailureKind ≠ some ProviderFailureKind.providerRejection ∧
      ((a.outcome = some DeliveryAttemptOutcome.terminalFailure ∧
          exists kind, a.failureKind = some kind ∧ kind ∈ technicalFailureKinds) ∨
        (a.outcome = some DeliveryAttemptOutcome.leaseExpired ∧
          a.failureKind = none ∧ m.attemptsInCycle = maxAttempts)))

structure Evident (m : OutboxMessage) (attempts : List OutboxDeliveryAttempt) :
    Prop where
  accepted : forall a, a ∈ attempts ->
    a.outcome = some DeliveryAttemptOutcome.accepted ->
    m.status = OutboxDeliveryStatus.published
  once : (attempts.filter fun a =>
    decide (a.outcome = some DeliveryAttemptOutcome.accepted)).length ≤ 1
  rejection : m.lastFailureKind = some ProviderFailureKind.providerRejection ->
    m.status = OutboxDeliveryStatus.dead
  dead : m.status = OutboxDeliveryStatus.dead ->
    exists a, a ∈ attempts ∧ a.isOpen = false ∧
      a.deliveryCycle = m.deliveryCycle ∧ a.attemptNumber = m.attemptsInCycle ∧
      TerminalEvidence m a

structure CommandSound (m : OutboxMessage) (attempts : List OutboxDeliveryAttempt) :
    Prop where
  numbered : Numbered m attempts
  leased : Leased m attempts
  marked : Marked m
  evident : Evident m attempts

/--
What the validator of an attempt demands, apart from the provider's operation
id, which the code does not check.
-/
structure AttemptSound (a : OutboxDeliveryAttempt) : Prop where
  times : forall t, a.finishedAt = some t -> a.startedAt ≤ t
  outcome : a.outcome.isSome = a.finishedAt.isSome
  failure : OutboxDeliveryAttempt.outcomeNamesFailure a.outcome = a.failureKind.isSome
  cycle : 1 ≤ a.deliveryCycle
  number : 1 ≤ a.attemptNumber
  worker : textAccepted a.workerId = true
  httpStatus : a.httpStatus.all (fun n => decide (100 ≤ n)) = true
  reference : a.providerReference.all textAccepted = true
  errorCode : a.safeErrorCode.all errorTextAccepted = true
  errorMessage : a.safeErrorMessage.all errorTextAccepted = true
  retryAfter : a.retryAfterSeconds.all (fun r => decide (0 ≤ r)) = true

theorem AttemptSound.valid {a : OutboxDeliveryAttempt} (h : AttemptSound a)
    (hid : a.providerOperationId.all textAccepted = true) : a.valid = true := by
  unfold OutboxDeliveryAttempt.valid
  simp only [Bool.and_eq_true, decide_eq_true_eq, Option.all_eq_true]
  refine ⟨⟨⟨⟨⟨⟨⟨⟨⟨⟨⟨fun t ht => h.times t ht, h.outcome⟩, h.failure⟩, h.cycle⟩,
    h.number⟩, h.worker⟩, ?_⟩, ?_⟩, ?_⟩, ?_⟩, ?_⟩, ?_⟩
  · simpa [Option.all_eq_true] using h.httpStatus
  · simpa [Option.all_eq_true] using hid
  · simpa [Option.all_eq_true] using h.reference
  · simpa [Option.all_eq_true] using h.errorCode
  · simpa [Option.all_eq_true] using h.errorMessage
  · simpa [Option.all_eq_true] using h.retryAfter

structure OutboxSound (t : OutboxTables) : Prop where
  commands : forall m, m ∈ t.messages.rows ->
    CommandSound m (t.attemptsOf m.commandId)
  attempts : forall a, a ∈ t.attempts.rows -> AttemptSound a ∧
    exists m, t.messages.get a.commandId = some m

theorem Marked.valid {m : OutboxMessage} (h : Marked m) (hcycle : 1 ≤ m.deliveryCycle) :
    m.valid = true := by
  have henv := h.envelope
  unfold ProviderCommandEnvelope.valid at henv
  unfold OutboxMessage.valid
  simp only [Bool.and_eq_true, decide_eq_true_eq] at henv ⊢
  refine ⟨⟨⟨⟨⟨⟨⟨⟨⟨⟨⟨h.times, h.leaseId⟩, h.leaseOwner⟩, h.leaseExpiresAt⟩,
    h.publishedAt⟩, h.deadAt⟩, ?_⟩, henv.left⟩, hcycle⟩, h.owner⟩, h.errorCode⟩,
    h.errorMessage⟩
  have hkind := henv.right
  cases hcommand : m.commandType with
  | deliveryInvestigation =>
      rw [hcommand] at hkind
      simp only [operationTypeByCommand, Bool.and_eq_true, decide_eq_true_eq] at hkind
      simp [hkind.left.left.left, hkind.left.left.right]
  | cancelOrder =>
      rw [hcommand] at hkind
      simp only [operationTypeByCommand, Bool.and_eq_true, decide_eq_true_eq] at hkind
      simp [hkind.left.left.left, hkind.left.left.right]
  | returnOrder =>
      rw [hcommand] at hkind
      simp only [operationTypeByCommand, Bool.and_eq_true, decide_eq_true_eq] at hkind
      simp [hkind.left.left.left, hkind.left.left.right]
  | exchangeOrder =>
      rw [hcommand] at hkind
      simp only [operationTypeByCommand, Bool.and_eq_true, decide_eq_true_eq] at hkind
      simp [hkind.left.left.left, hkind.left.left.right]

/-!
## Endings
-/

theorem le_greatest (a b c : Time) : c ≤ greatest a b c :=
  le_max_of_le_right (le_max_right b c)

theorem errorTextAccepted_of_valid {value : Option String}
    (h : errorFieldValid value) : value.all errorTextAccepted = true := by
  cases value with
  | none => rfl
  | some s =>
      have hlen := (h s rfl).right
      have hle := Text.length_stripWith_le Text.isWhiteSpace s
      simp only [Option.all_some, errorTextAccepted, decide_eq_true_eq]
      exact Nat.le_trans hle hlen

namespace Ending

variable (e : Ending) (a : OutboxDeliveryAttempt) (m : OutboxMessage)

@[simp] theorem attempt_attemptId : (e.attempt a).attemptId = a.attemptId := by
  cases e <;> rfl

@[simp] theorem attempt_commandId : (e.attempt a).commandId = a.commandId := by
  cases e <;> rfl

@[simp] theorem attempt_deliveryCycle :
    (e.attempt a).deliveryCycle = a.deliveryCycle := by
  cases e <;> rfl

@[simp] theorem attempt_attemptNumber :
    (e.attempt a).attemptNumber = a.attemptNumber := by
  cases e <;> rfl

@[simp] theorem attempt_isOpen : (e.attempt a).isOpen = false := by
  cases e <;> rfl

@[simp] theorem message_commandId : (e.message m).commandId = m.commandId := by
  cases e <;> rfl

@[simp] theorem message_deliveryCycle :
    (e.message m).deliveryCycle = m.deliveryCycle := by
  cases e <;> rfl

@[simp] theorem message_attemptsInCycle :
    (e.message m).attemptsInCycle = m.attemptsInCycle := by
  cases e <;> rfl

theorem message_not_processing :
    (e.message m).status ≠ OutboxDeliveryStatus.processing := by
  cases e with
  | finalized v now => cases v <;> simp [message, OutboxTransition.apply,
      Finalization.transition, Verdict.finalization, Finalization.accepted,
      Finalization.rejected, Finalization.terminalFailure, FinalTarget.status]
  | retried r now => simp [message, OutboxTransition.apply, OutboxRetry.transition]
  | expired now availableAt updatedAt => simp [message, OutboxMessage.setRecovered]
  | exhausted now deadAt updatedAt => simp [message, OutboxMessage.setExhausted]

end Ending

theorem all_orElse {α : Type} {p : α -> Bool} {a b : Option α}
    (ha : a.all p = true) (hb : b.all p = true) :
    (a.orElse fun _ => b).all p = true := by
  cases a with
  | none => exact hb
  | some x => exact ha

theorem OutboxTransition.marked {t : OutboxTransition} {m : OutboxMessage}
    (h : Marked m) (hm : m.status = OutboxDeliveryStatus.processing)
    (hprocessing : t.targetStatus ≠ OutboxDeliveryStatus.processing)
    (hpublished : t.targetStatus = OutboxDeliveryStatus.published ↔
      t.publishedAt.isSome = true)
    (hdead : t.targetStatus = OutboxDeliveryStatus.dead ↔ t.deadAt.isSome = true)
    (hcode : errorFieldValid t.lastErrorCode)
    (hmessage : errorFieldValid t.lastErrorMessage) : Marked (t.apply m) := by
  have hnotPublished : m.publishedAt = none := by
    cases hp : m.publishedAt with
    | none => rfl
    | some p =>
        have := h.publishedAt.mpr (by rw [hp]; rfl)
        rw [hm] at this
        cases this
  have hnotDead : m.deadAt = none := by
    cases hd : m.deadAt with
    | none => rfl
    | some d =>
        have := h.deadAt.mpr (by rw [hd]; rfl)
        rw [hm] at this
        cases this
  constructor
  · exact h.envelope
  · exact le_greatest _ _ _
  · simpa [OutboxTransition.apply] using hprocessing
  · simpa [OutboxTransition.apply] using hprocessing
  · simpa [OutboxTransition.apply] using hprocessing
  · rw [show (t.apply m).status = t.targetStatus from rfl, hpublished]
    cases hp : t.publishedAt with
    | none => simp [OutboxTransition.apply, hp, hnotPublished]
    | some p => simp [OutboxTransition.apply, hp]
  · rw [show (t.apply m).status = t.targetStatus from rfl, hdead]
    cases hd : t.deadAt with
    | none => simp [OutboxTransition.apply, hd, hnotDead]
    | some d => simp [OutboxTransition.apply, hd]
  · rfl
  · exact all_orElse (errorTextAccepted_of_valid hcode) h.errorCode
  · exact all_orElse (errorTextAccepted_of_valid hmessage) h.errorMessage

theorem Ending.marked {e : Ending} {m : OutboxMessage} (h : Marked m)
    (hm : m.status = OutboxDeliveryStatus.processing) (hallowed : e.Allowed m) :
    Marked (e.message m) := by
  cases e with
  | finalized v now =>
      refine OutboxTransition.marked h hm ?_ ?_ ?_ hallowed.left hallowed.right.left
      · cases v <;> simp [Finalization.transition, Verdict.finalization,
          Finalization.accepted, Finalization.rejected,
          Finalization.terminalFailure, FinalTarget.status]
      · cases v <;> simp [Finalization.transition, Verdict.finalization,
          Finalization.accepted, Finalization.rejected,
          Finalization.terminalFailure, FinalTarget.status]
      · cases v <;> simp [Finalization.transition, Verdict.finalization,
          Finalization.accepted, Finalization.rejected,
          Finalization.terminalFailure, FinalTarget.status]
  | retried r now =>
      refine OutboxTransition.marked h hm ?_ ?_ ?_ hallowed.right.right.left
        hallowed.right.right.right.left
      · simp [OutboxRetry.transition]
      · simp [OutboxRetry.transition]
      · simp [OutboxRetry.transition]
  | expired now availableAt updatedAt =>
      have hpublished := h.publishedAt
      have hdead := h.deadAt
      rw [hm] at hpublished hdead
      exact ⟨h.envelope, le_greatest _ _ _, by simp [message, OutboxMessage.setRecovered],
        by simp [message, OutboxMessage.setRecovered],
        by simp [message, OutboxMessage.setRecovered],
        by simpa [message, OutboxMessage.setRecovered] using hpublished,
        by simpa [message, OutboxMessage.setRecovered] using hdead, rfl,
        h.errorCode, h.errorMessage⟩
  | exhausted now deadAt updatedAt =>
      have hpublished := h.publishedAt
      rw [hm] at hpublished
      exact ⟨h.envelope, le_greatest _ _ _, by simp [message, OutboxMessage.setExhausted],
        by simp [message, OutboxMessage.setExhausted],
        by simp [message, OutboxMessage.setExhausted],
        by simpa [message, OutboxMessage.setExhausted] using hpublished,
        by simp [message, OutboxMessage.setExhausted], rfl,
        (by decide : errorTextAccepted "lease_expired_attempts_exhausted" = true),
        h.errorMessage⟩

/-!
## Claims and endings on the list of attempts
-/

theorem cycleNumbers_append_same {attempts : List OutboxDeliveryAttempt}
    {a : OutboxDeliveryAttempt} {cycle : Nat} (h : a.deliveryCycle = cycle) :
    cycleNumbers (attempts ++ [a]) cycle =
      cycleNumbers attempts cycle ++ [a.attemptNumber] := by
  simp [cycleNumbers, h]

theorem cycleNumbers_append_other {attempts : List OutboxDeliveryAttempt}
    {a : OutboxDeliveryAttempt} {cycle : Nat} (h : a.deliveryCycle ≠ cycle) :
    cycleNumbers (attempts ++ [a]) cycle = cycleNumbers attempts cycle := by
  simp [cycleNumbers, h]

theorem cycleNumbers_map {f : OutboxDeliveryAttempt -> OutboxDeliveryAttempt}
    (hcycle : forall a, (f a).deliveryCycle = a.deliveryCycle)
    (hnumber : forall a, (f a).attemptNumber = a.attemptNumber)
    (attempts : List OutboxDeliveryAttempt) (cycle : Nat) :
    cycleNumbers (attempts.map f) cycle = cycleNumbers attempts cycle := by
  unfold cycleNumbers
  rw [List.filter_map, List.map_map]
  simp only [Function.comp_def, hcycle, hnumber]

/-- End one attempt of a list. -/
def endAttempt (e : Ending) (attemptId : UUID)
    (attempts : List OutboxDeliveryAttempt) : List OutboxDeliveryAttempt :=
  attempts.map fun s => if s.attemptId = attemptId then e.attempt s else s

theorem cycleNumbers_endAttempt (e : Ending) (attemptId : UUID)
    (attempts : List OutboxDeliveryAttempt) (cycle : Nat) :
    cycleNumbers (endAttempt e attemptId attempts) cycle =
      cycleNumbers attempts cycle := by
  refine cycleNumbers_map ?_ ?_ attempts cycle
  · intro a
    by_cases h : a.attemptId = attemptId <;> simp [h]
  · intro a
    by_cases h : a.attemptId = attemptId <;> simp [h]

theorem mem_endAttempt {e : Ending} {attemptId : UUID}
    {attempts : List OutboxDeliveryAttempt} {s : OutboxDeliveryAttempt}
    (h : s ∈ endAttempt e attemptId attempts) :
    (exists a, a ∈ attempts ∧ a.attemptId = attemptId ∧ s = e.attempt a) ∨
      (s ∈ attempts ∧ s.attemptId ≠ attemptId) := by
  rcases List.mem_map.mp h with ⟨a, ha, hs⟩
  by_cases hid : a.attemptId = attemptId
  · rw [if_pos hid] at hs
    exact Or.inl ⟨a, ha, hid, hs.symm⟩
  · rw [if_neg hid] at hs
    rw [← hs]
    exact Or.inr ⟨ha, hid⟩

theorem CommandSound.claim {m : OutboxMessage}
    {attempts : List OutboxDeliveryAttempt} (h : CommandSound m attempts)
    (hdue : m.claimable) {leaseId attemptId : UUID} {workerId : String}
    {expiresAt now : Time} (hworker : Text.strip workerId ≠ "") :
    CommandSound (m.setClaimed leaseId workerId expiresAt now)
      (attempts ++ [claimAttempt (m.setClaimed leaseId workerId expiresAt now)
        attemptId leaseId workerId]) := by
  have hidle : m.status ≠ OutboxDeliveryStatus.processing := by
    rcases hdue.left with hs | hs <;> simp [hs]
  have hpublished : m.status ≠ OutboxDeliveryStatus.published := by
    rcases hdue.left with hs | hs <;> simp [hs]
  have hdead : m.status ≠ OutboxDeliveryStatus.dead := by
    rcases hdue.left with hs | hs <;> simp [hs]
  have hnotAccepted : forall a, a ∈ attempts ->
      a.outcome ≠ some DeliveryAttemptOutcome.accepted :=
    fun a ha hout => hpublished (h.evident.accepted a ha hout)
  refine ⟨?_, ?_, ?_, ?_⟩
  · constructor
    · exact h.numbered.positive
    · intro a ha
      rcases List.mem_append.mp ha with ha | ha
      · exact h.numbered.cycles a ha
      · rw [List.mem_singleton.mp ha]
        exact ⟨h.numbered.positive, Nat.le_refl _⟩
    · refine Eq.trans (cycleNumbers_append_same rfl) ?_
      show cycleNumbers attempts m.deliveryCycle ++ [m.attemptsInCycle + 1] =
        List.range' 1 (m.attemptsInCycle + 1)
      rw [h.numbered.current, List.range'_1_concat, Nat.add_comm 1]
    · intro cycle hcycle
      rcases h.numbered.earlier cycle hcycle with ⟨n, hbound, hn⟩
      exact ⟨n, hbound, (cycleNumbers_append_other (Nat.ne_of_gt hcycle)).trans hn⟩
    · exact hdue.right
  · constructor
    · intro _
      refine ⟨claimAttempt (m.setClaimed leaseId workerId expiresAt now) attemptId
        leaseId workerId, ?_, ⟨rfl, rfl, rfl, rfl⟩⟩
      rw [List.filter_append, h.leased.closed hidle]
      rfl
    · intro hno
      exact absurd rfl hno
  · have hpub := h.marked.publishedAt
    have hded := h.marked.deadAt
    simp only [hpublished, hdead, false_iff] at hpub hded
    exact ⟨h.marked.envelope, le_greatest _ _ _, by simp [OutboxMessage.setClaimed],
      by simp [OutboxMessage.setClaimed], by simp [OutboxMessage.setClaimed],
      by simpa [OutboxMessage.setClaimed] using hpub,
      by simpa [OutboxMessage.setClaimed] using hded,
      by simpa [OutboxMessage.setClaimed, textAccepted] using
        Text.trim_ne_empty_of_strip hworker,
      h.marked.errorCode, h.marked.errorMessage⟩
  · constructor
    · intro a ha hout
      rcases List.mem_append.mp ha with ha | ha
      · exact absurd hout (hnotAccepted a ha)
      · rw [List.mem_singleton.mp ha] at hout
        cases hout
    · rw [List.filter_append]
      simpa [claimAttempt] using h.evident.once
    · intro hkind
      exact absurd (h.evident.rejection hkind) hdead
    · intro hstatus
      cases hstatus

theorem CommandSound.renew {m : OutboxMessage}
    {attempts : List OutboxDeliveryAttempt} (h : CommandSound m attempts)
    (hm : m.status = OutboxDeliveryStatus.processing) {expiresAt now : Time} :
    CommandSound (m.setRenewed expiresAt now) attempts where
  numbered := ⟨h.numbered.positive, h.numbered.cycles, h.numbered.current,
    h.numbered.earlier, h.numbered.bound⟩
  leased := by
    refine ⟨?_, h.leased.closed⟩
    intro hs
    rcases h.leased.opened hs with ⟨a, ha, hc⟩
    exact ⟨a, ha, ⟨hc.lease, hc.worker, hc.cycle, hc.number⟩⟩
  marked := ⟨h.marked.envelope, le_greatest _ _ _, h.marked.leaseId,
    h.marked.leaseOwner, by simp [OutboxMessage.setRenewed, hm],
    h.marked.publishedAt, h.marked.deadAt, h.marked.owner, h.marked.errorCode,
    h.marked.errorMessage⟩
  evident := ⟨h.evident.accepted, h.evident.once, h.evident.rejection,
    h.evident.dead⟩

theorem CommandSound.redrive {m : OutboxMessage}
    {attempts : List OutboxDeliveryAttempt} (h : CommandSound m attempts)
    (hm : m.status = OutboxDeliveryStatus.dead) {availableAt now : Time} :
    CommandSound (m.setRedriven (m.deliveryCycle + 1) availableAt now) attempts := by
  have hnotAccepted : forall a, a ∈ attempts ->
      a.outcome ≠ some DeliveryAttemptOutcome.accepted := by
    intro a ha hout
    have := h.evident.accepted a ha hout
    rw [hm] at this
    cases this
  refine ⟨?_, ?_, ?_, ?_⟩
  · constructor
    · exact Nat.le_add_left 1 _
    · intro a ha
      exact ⟨(h.numbered.cycles a ha).left,
        Nat.le_succ_of_le (h.numbered.cycles a ha).right⟩
    · show cycleNumbers attempts (m.deliveryCycle + 1) = []
      unfold cycleNumbers
      rw [List.map_eq_nil_iff, List.filter_eq_nil_iff]
      intro a ha hc
      have hle := (h.numbered.cycles a ha).right
      rw [decide_eq_true_eq] at hc
      omega
    · intro cycle hcycle
      rcases Nat.lt_succ_iff_lt_or_eq.mp hcycle with hlt | heq
      · exact h.numbered.earlier cycle hlt
      · rw [heq]
        exact ⟨m.attemptsInCycle, h.numbered.bound, h.numbered.current⟩
    · exact Nat.zero_le 8
  · constructor
    · intro hs
      cases hs
    · intro _
      exact h.leased.closed (by simp [hm])
  · exact ⟨h.marked.envelope, le_greatest _ _ _, by simp [OutboxMessage.setRedriven],
      by simp [OutboxMessage.setRedriven], by simp [OutboxMessage.setRedriven],
      by simp [OutboxMessage.setRedriven], by simp [OutboxMessage.setRedriven], rfl,
      rfl, rfl⟩
  · exact ⟨fun a ha hout => absurd hout (hnotAccepted a ha), h.evident.once,
      fun hk => (by cases hk), fun hs => (by cases hs)⟩

/-!
## Ending the open attempt
-/

theorem AttemptSound.failureKind_of_open {a : OutboxDeliveryAttempt}
    (h : AttemptSound a) (ho : a.isOpen = true) : a.failureKind = none := by
  have hfinished : a.finishedAt = none := Option.isNone_iff_eq_none.mp ho
  have houtcome := h.outcome
  rw [hfinished, Option.isSome_none, Option.isSome_eq_false_iff,
    Option.isNone_iff_eq_none] at houtcome
  have hfailure := h.failure
  rw [houtcome] at hfailure
  exact Option.isNone_iff_eq_none.mp (Option.isSome_eq_false_iff.mp hfailure.symm)

namespace Ending

theorem published_of_accepted {e : Ending} {a : OutboxDeliveryAttempt}
    (h : (e.attempt a).outcome = some DeliveryAttemptOutcome.accepted)
    (m : OutboxMessage) : (e.message m).status = OutboxDeliveryStatus.published := by
  cases e with
  | finalized v now =>
      cases v with
      | accepted result => rfl
      | rejected result => cases h
      | terminalFailure kind code message =>
          simp only [attempt, DeliveryAttemptResult.apply,
            Finalization.attemptResult, Verdict.finalization,
            Finalization.terminalFailure, finalOutcome, Option.some.injEq,
            reduceCtorEq, if_false] at h
          by_cases hk : kind = ProviderFailureKind.providerRejection
          · rw [if_pos hk] at h
            cases h
          · rw [if_neg hk] at h
            cases h
  | retried r now => cases h
  | expired now availableAt updatedAt => cases h
  | exhausted now deadAt updatedAt => cases h

theorem dead_of_rejection {e : Ending} {m : OutboxMessage}
    (hold : m.lastFailureKind ≠ some ProviderFailureKind.providerRejection)
    (hallowed : e.Allowed m)
    (h : (e.message m).lastFailureKind =
      some ProviderFailureKind.providerRejection) :
    (e.message m).status = OutboxDeliveryStatus.dead := by
  cases e with
  | finalized v now =>
      cases v with
      | accepted result => exact absurd h hold
      | rejected result => rfl
      | terminalFailure kind code message => rfl
  | retried r now =>
      have hkind : r.failureKind = ProviderFailureKind.providerRejection :=
        Option.some.inj h
      have hretryable := hallowed.right.left
      rw [hkind] at hretryable
      exact absurd hretryable (by decide)
  | expired now availableAt updatedAt => exact absurd h hold
  | exhausted now deadAt updatedAt => rfl

theorem evidence {e : Ending} {m : OutboxMessage} {a : OutboxDeliveryAttempt}
    (hold : m.lastFailureKind ≠ some ProviderFailureKind.providerRejection)
    (hallowed : e.Allowed m) (hbound : m.attemptsInCycle ≤ 8)
    (hkind : a.failureKind = none)
    (h : (e.message m).status = OutboxDeliveryStatus.dead) :
    TerminalEvidence (e.message m) (e.attempt a) := by
  cases e with
  | finalized v now =>
      cases v with
      | accepted result => cases h
      | rejected result => exact Or.inl ⟨rfl, rfl, rfl⟩
      | terminalFailure kind code message =>
          by_cases hk : kind = ProviderFailureKind.providerRejection
          · subst hk
            exact Or.inl ⟨rfl, rfl, rfl⟩
          · refine Or.inr ⟨fun hc => hk (Option.some.inj hc), Or.inl ⟨?_, kind, rfl, ?_⟩⟩
            · simp [attempt, DeliveryAttemptResult.apply, Finalization.attemptResult,
                Verdict.finalization, Finalization.terminalFailure, finalOutcome, hk]
            · cases kind <;> first | decide | exact absurd rfl hk
  | retried r now => cases h
  | expired now availableAt updatedAt => cases h
  | exhausted now deadAt updatedAt =>
      exact Or.inr ⟨hold, Or.inr ⟨rfl, hkind, Nat.le_antisymm hbound hallowed⟩⟩

end Ending

theorem CommandSound.finish {m : OutboxMessage}
    {attempts : List OutboxDeliveryAttempt} (h : CommandSound m attempts)
    (hm : m.status = OutboxDeliveryStatus.processing) {a : OutboxDeliveryAttempt}
    (ha : a ∈ attempts) (hopen : a.isOpen = true) (hsound : AttemptSound a)
    (huniq : forall s, s ∈ attempts -> s.attemptId = a.attemptId -> s = a)
    {e : Ending} (hallowed : e.Allowed m) :
    CommandSound (e.message m) (endAttempt e a.attemptId attempts) := by
  rcases h.leased.opened hm with ⟨b, hb, hlease⟩
  have hopened : forall s, s ∈ attempts -> s.isOpen = true -> s = b := by
    intro s hs hso
    have hmem : s ∈ attempts.filter OutboxDeliveryAttempt.isOpen :=
      List.mem_filter.mpr ⟨hs, hso⟩
    rw [hb] at hmem
    exact List.mem_singleton.mp hmem
  have hab : a = b := hopened a ha hopen
  have hmem : e.attempt a ∈ endAttempt e a.attemptId attempts :=
    List.mem_map.mpr ⟨a, ha, by rw [if_pos rfl]⟩
  have hnoRejection :
      m.lastFailureKind ≠ some ProviderFailureKind.providerRejection := by
    intro hk
    have := h.evident.rejection hk
    rw [hm] at this
    cases this
  have hnotAccepted : forall s, s ∈ attempts ->
      s.outcome ≠ some DeliveryAttemptOutcome.accepted := by
    intro s hs hout
    have := h.evident.accepted s hs hout
    rw [hm] at this
    cases this
  refine ⟨?_, ?_, Ending.marked h.marked hm hallowed, ?_⟩
  · constructor
    · simpa using h.numbered.positive
    · intro s hs
      rw [Ending.message_deliveryCycle]
      rcases mem_endAttempt hs with ⟨b, hb, _, rfl⟩ | ⟨hs, _⟩
      · rw [Ending.attempt_deliveryCycle]
        exact h.numbered.cycles b hb
      · exact h.numbered.cycles s hs
    · rw [cycleNumbers_endAttempt, Ending.message_deliveryCycle,
        Ending.message_attemptsInCycle]
      exact h.numbered.current
    · intro cycle hcycle
      rw [cycleNumbers_endAttempt]
      exact h.numbered.earlier cycle (by simpa using hcycle)
    · simpa using h.numbered.bound
  · refine ⟨fun hs => absurd hs (e.message_not_processing m), fun _ => ?_⟩
    rw [List.filter_eq_nil_iff]
    intro s hs hso
    rcases mem_endAttempt hs with ⟨c, _, _, rfl⟩ | ⟨hs, hne⟩
    · rw [Ending.attempt_isOpen] at hso
      cases hso
    · exact hne (congrArg OutboxDeliveryAttempt.attemptId
        ((hopened s hs hso).trans hab.symm))
  · constructor
    · intro s hs hout
      rcases mem_endAttempt hs with ⟨c, _, _, rfl⟩ | ⟨hs, _⟩
      · exact Ending.published_of_accepted hout m
      · exact absurd hout (hnotAccepted s hs)
    · -- an accepted attempt of the new list was the open one of the old list
      unfold endAttempt
      rw [List.filter_map, List.length_map, ← List.countP_eq_length_filter]
      have hle := List.countP_mono_left (l := attempts)
        (p := (fun s : OutboxDeliveryAttempt =>
          decide (s.outcome = some DeliveryAttemptOutcome.accepted)) ∘ fun s =>
            if s.attemptId = a.attemptId then e.attempt s else s)
        (q := OutboxDeliveryAttempt.isOpen) (by
          intro s hs hout
          by_cases hid : s.attemptId = a.attemptId
          · rw [huniq s hs hid]
            exact hopen
          · simp only [Function.comp, if_neg hid, decide_eq_true_eq] at hout
            exact absurd hout (hnotAccepted s hs))
      rw [List.countP_eq_length_filter (p := OutboxDeliveryAttempt.isOpen), hb] at hle
      exact hle
    · exact Ending.dead_of_rejection hnoRejection hallowed
    · intro hdead
      refine ⟨e.attempt a, hmem, e.attempt_isOpen a, ?_, ?_,
        Ending.evidence hnoRejection hallowed h.numbered.bound
          (hsound.failureKind_of_open hopen) hdead⟩
      · rw [Ending.attempt_deliveryCycle, Ending.message_deliveryCycle, hab]
        exact hlease.cycle
      · rw [Ending.attempt_attemptNumber, Ending.message_attemptsInCycle, hab]
        exact hlease.number

theorem finalOutcome_namesFailure (v : Verdict) :
    OutboxDeliveryAttempt.outcomeNamesFailure
        (some (finalOutcome v.finalization.target v.finalization.failureKind)) =
      v.finalization.failureKind.isSome := by
  cases v with
  | accepted result => rfl
  | rejected result => rfl
  | terminalFailure kind code message => cases kind <;> rfl

theorem Ending.attempt_sound {e : Ending} {m : OutboxMessage}
    {a : OutboxDeliveryAttempt} (h : AttemptSound a) (ho : a.isOpen = true)
    (hallowed : e.Allowed m) (hchecks : (e.attempt a).checks = true) :
    AttemptSound (e.attempt a) := by
  have hkind := h.failureKind_of_open ho
  have htimes : forall now t, some (max now a.startedAt) = some t -> a.startedAt ≤ t := by
    intro now t ht
    cases ht
    exact le_max_right _ _
  simp only [OutboxDeliveryAttempt.checks, Bool.and_eq_true] at hchecks
  cases e with
  | finalized v now =>
      exact ⟨htimes now, rfl, finalOutcome_namesFailure v, h.cycle, h.number, h.worker,
        hchecks.left.left, (Option.all_eq_true _ _).mpr hallowed.right.right,
        errorTextAccepted_of_valid hallowed.left,
        errorTextAccepted_of_valid hallowed.right.left, rfl⟩
  | retried r now =>
      refine ⟨htimes now, rfl, rfl, h.cycle, h.number, h.worker, hchecks.left.left, rfl,
        errorTextAccepted_of_valid hallowed.right.right.left,
        errorTextAccepted_of_valid hallowed.right.right.right.left,
        (Option.all_eq_true _ _).mpr ?_⟩
      intro s hs
      exact decide_eq_true (hallowed.right.right.right.right s hs)
  | expired now availableAt updatedAt =>
      exact ⟨htimes now, rfl, by simp [attempt, OutboxDeliveryAttempt.setLeaseExpired,
          OutboxDeliveryAttempt.outcomeNamesFailure, hkind],
        h.cycle, h.number, h.worker, h.httpStatus, h.reference,
        (by decide : errorTextAccepted "lease_expired" = true), h.errorMessage,
        h.retryAfter⟩
  | exhausted now deadAt updatedAt =>
      exact ⟨htimes now, rfl, by simp [attempt, OutboxDeliveryAttempt.setLeaseExpired,
          OutboxDeliveryAttempt.outcomeNamesFailure, hkind],
        h.cycle, h.number, h.worker, h.httpStatus, h.reference,
        (by decide : errorTextAccepted "lease_expired_attempts_exhausted" = true),
        h.errorMessage, h.retryAfter⟩

/-!
## Steps
-/

theorem CommandSound.queue {command : ProviderCommandEnvelope} {now : Time}
    (h : command.valid = true) : CommandSound (outboxRow command now) [] where
  numbered := ⟨Nat.le_refl 1, by simp, rfl, fun c hc => ⟨0, Nat.zero_le 8, rfl⟩, Nat.zero_le 8⟩
  leased := ⟨fun hs => (by cases hs), fun _ => rfl⟩
  marked := ⟨h, le_refl now, by simp [outboxRow], by simp [outboxRow],
    by simp [outboxRow], by simp [outboxRow], by simp [outboxRow], rfl, rfl, rfl⟩
  evident := ⟨by simp, Nat.zero_le 1, fun hk => (by cases hk), fun hs => (by cases hs)⟩

theorem attemptsOf_put_other {t : OutboxTables} {a b : OutboxDeliveryAttempt}
    {commandId : UUID} (hget : t.attempts.get b.attemptId = some a)
    (hcommand : b.commandId = a.commandId) (hne : a.commandId ≠ commandId) :
    OutboxTables.attemptsOf { t with attempts := t.attempts.put b } commandId =
      t.attemptsOf commandId := by
  refine Table.filter_put_of_not ?_ ?_
  · rw [decide_eq_false_iff_not, hcommand]
    exact hne
  · intro s hs hkey
    have hrow : s = a := Table.eq_of_key_eq hs (Table.mem_of_get hget)
      (hkey.trans (Table.get_key hget).symm)
    rw [hrow, decide_eq_false_iff_not]
    exact hne

theorem attemptsOf_end {t : OutboxTables} {e : Ending} {a : OutboxDeliveryAttempt}
    (hget : t.attempts.get a.attemptId = some a) :
    OutboxTables.attemptsOf { t with attempts := t.attempts.put (e.attempt a) }
        a.commandId = endAttempt e a.attemptId (t.attemptsOf a.commandId) := by
  unfold OutboxTables.attemptsOf endAttempt
  have hget' : t.attempts.get (e.attempt a).attemptId = some a := by
    rw [Ending.attempt_attemptId]
    exact hget
  rw [Table.select_put hget' (by rw [Ending.attempt_commandId])]
  apply List.map_congr_left
  intro s hs
  rw [Ending.attempt_attemptId]
  by_cases hid : s.attemptId = a.attemptId
  · rw [if_pos hid, if_pos hid,
      Table.eq_of_key_eq (Table.mem_select.mp hs).left (Table.mem_of_get hget) hid]
  · rw [if_neg hid, if_neg hid]

theorem attemptsOf_insert_own {t u : OutboxTables} {a : OutboxDeliveryAttempt}
    {commandId : UUID} (hrows : u.attempts.rows = t.attempts.rows ++ [a])
    (h : a.commandId = commandId) :
    u.attemptsOf commandId = t.attemptsOf commandId ++ [a] := by
  unfold OutboxTables.attemptsOf Table.select
  rw [hrows, List.filter_append]
  simp [h]

theorem attemptsOf_insert_other {t u : OutboxTables} {a : OutboxDeliveryAttempt}
    {commandId : UUID} (hrows : u.attempts.rows = t.attempts.rows ++ [a])
    (h : a.commandId ≠ commandId) : u.attemptsOf commandId = t.attemptsOf commandId := by
  unfold OutboxTables.attemptsOf Table.select
  rw [hrows, List.filter_append]
  simp [h]

theorem claimAttempt_sound {m : OutboxMessage} (hm : 1 ≤ m.deliveryCycle)
    {leaseId attemptId : UUID} {workerId : String} {expiresAt now : Time}
    (hworker : Text.strip workerId ≠ "") :
    AttemptSound (claimAttempt (m.setClaimed leaseId workerId expiresAt now) attemptId
      leaseId workerId) where
  times := fun t ht => (by cases ht)
  outcome := rfl
  failure := rfl
  cycle := hm
  number := Nat.le_add_left 1 _
  worker := decide_eq_true (Text.trim_ne_empty_of_strip hworker)
  httpStatus := rfl
  reference := rfl
  errorCode := rfl
  errorMessage := rfl
  retryAfter := rfl

theorem OutboxSound.put_commands {t u : OutboxTables} (h : OutboxSound t)
    {m' : OutboxMessage} (hmessages : u.messages = t.messages.put m')
    (hother : forall id, id ≠ m'.commandId -> u.attemptsOf id = t.attemptsOf id)
    (hown : CommandSound m' (u.attemptsOf m'.commandId)) :
    forall x, x ∈ u.messages.rows -> CommandSound x (u.attemptsOf x.commandId) := by
  intro x hx
  rw [hmessages] at hx
  rcases Table.mem_put hx with rfl | ⟨hx, hne⟩
  · exact hown
  · rw [hother x.commandId hne]
    exact h.commands x hx

theorem OutboxStep.sound {l : OutboxLabel} {t u : OutboxTables}
    (hstep : OutboxStep l t u) (h : OutboxSound t) : OutboxSound u := by
  have hlater := hstep.later
  have hexists : forall {a : OutboxDeliveryAttempt}, a ∈ t.attempts.rows ->
      exists m, u.messages.get a.commandId = some m := by
    intro a ha
    rcases (h.attempts a ha).right with ⟨m, hm⟩
    rcases hlater _ m hm with ⟨m', hm', _⟩
    exact ⟨m', hm'⟩
  cases hstep with
  | keep => exact h
  | @queue _ messages command now valid free insert =>
      have hrows := (Table.insert?_eq_some.mp insert)
      constructor
      · intro x hx
        rw [hrows.right] at hx
        rcases List.mem_append.mp hx with hx | hx
        · exact h.commands x hx
        · rw [List.mem_singleton.mp hx]
          have hnone : t.attemptsOf (outboxRow command now).commandId = [] := by
            unfold OutboxTables.attemptsOf Table.select
            rw [List.filter_eq_nil_iff]
            intro a ha hc
            rcases (h.attempts a ha).right with ⟨m, hm⟩
            rw [of_decide_eq_true hc, hrows.left] at hm
            cases hm
          show CommandSound _ (t.attemptsOf (outboxRow command now).commandId)
          rw [hnone]
          exact CommandSound.queue valid
      · exact fun a ha => ⟨(h.attempts a ha).left, hexists ha⟩
  | @claim _ attempts m leaseId attemptId workerId expiresAt now get due worker insert =>
      have hrows := (Table.insert?_eq_some.mp insert).right
      have hm := h.commands m (Table.mem_of_get get)
      constructor
      · refine h.put_commands rfl ?_ ?_
        · intro id hid
          exact attemptsOf_insert_other (t := t) hrows (Ne.symm hid)
        · refine Eq.mpr (congrArg (CommandSound _)
            (attemptsOf_insert_own (t := t) hrows rfl)) ?_
          exact hm.claim due worker
      · intro a ha
        rw [hrows] at ha
        rcases List.mem_append.mp ha with ha | ha
        · exact ⟨(h.attempts a ha).left, hexists ha⟩
        · rw [List.mem_singleton.mp ha]
          refine ⟨claimAttempt_sound hm.numbered.positive worker, ?_⟩
          exact (hlater _ m get).imp fun _ h => h.left
  | @renew _ m expiresAt now get held =>
      constructor
      · refine h.put_commands rfl (fun _ _ => rfl) ?_
        exact (h.commands m (Table.mem_of_get get)).renew held
      · exact fun a ha => ⟨(h.attempts a ha).left, hexists ha⟩
  | @finish _ e m a get held getAttempt ofCommand isOpen allowed checks =>
      have hmem := Table.mem_of_get getAttempt
      have hsound := (h.attempts a hmem).left
      constructor
      · refine h.put_commands rfl ?_ ?_
        · intro id hid
          rw [Ending.message_commandId, ← ofCommand] at hid
          exact attemptsOf_put_other (by rw [Ending.attempt_attemptId]; exact getAttempt)
            (e.attempt_commandId a) (Ne.symm hid)
        · rw [Ending.message_commandId, ← ofCommand]
          refine Eq.mpr (congrArg (CommandSound _) (attemptsOf_end getAttempt)) ?_
          have hm := h.commands m (Table.mem_of_get get)
          rw [← ofCommand] at hm
          refine hm.finish held ?_ isOpen hsound ?_ allowed
          · exact Table.mem_select.mpr ⟨hmem, decide_eq_true rfl⟩
          · intro s hs hid
            exact Table.eq_of_key_eq (Table.mem_select.mp hs).left hmem hid
      · intro s hs
        rcases Table.mem_put hs with rfl | ⟨hs, _⟩
        · rw [Ending.attempt_commandId]
          exact ⟨Ending.attempt_sound hsound isOpen allowed checks, hexists hmem⟩
        · exact ⟨(h.attempts s hs).left, hexists hs⟩
  | @redrive _ redrives m r availableAt now get dead insert audit =>
      constructor
      · refine h.put_commands rfl (fun _ _ => rfl) ?_
        exact (h.commands m (Table.mem_of_get get)).redrive dead
      · exact fun a ha => ⟨(h.attempts a ha).left, hexists ha⟩

theorem OutboxSound.initial (ids : Supply) :
    OutboxSound (Database.initial ids).outbox where
  commands := fun m hm => (by cases hm)
  attempts := fun a ha => (by cases ha)

/-!
## Finished attempts
-/

theorem OutboxStep.finished_kept {l : OutboxLabel} {t u : OutboxTables}
    (hstep : OutboxStep l t u) {a : OutboxDeliveryAttempt}
    (ha : t.attempts.get a.attemptId = some a) (hclosed : a.isOpen = false) :
    u.attempts.get a.attemptId = some a := by
  cases hstep with
  | keep => exact ha
  | queue valid free insert => exact ha
  | claim get due worker insert =>
      exact Table.get_of_rows_append (Table.insert?_eq_some.mp insert).right ha
  | renew get held => exact ha
  | @finish _ e m b get held getAttempt ofCommand isOpen allowed checks =>
      have hne : a.attemptId ≠ (e.attempt b).attemptId := by
        intro hid
        rw [Ending.attempt_attemptId] at hid
        rw [hid, getAttempt] at ha
        cases ha
        rw [isOpen] at hclosed
        cases hclosed
      show (t.attempts.put (e.attempt b)).get a.attemptId = some a
      rw [Table.get_put_ne hne]
      exact ha
  | redrive get dead insert audit => exact ha

end RefundAgent
