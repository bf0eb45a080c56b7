import RefundAgent.System.Dispatch
import RefundAgent.System.Reach

/-!
# Retry decisions

The delay before a retry as one formula over the parameters that pass validation,
and what bounds the attempts of a cycle: the decision, the claim and the retry
transaction each look at the count by themselves.
-/

namespace RefundAgent

open Foundation

/-!
## The delay
-/

/-- The parameters pass validation, and a random source keeps to its range. -/
structure RetryParameters.Accepted (p : RetryParameters) (attemptsSoFar limit : Int)
    (retryAfterSeconds : Option Rat) : Prop where
  attempts : 0 ≤ attemptsSoFar
  limit : 1 ≤ limit
  base : 0 < p.baseDelaySeconds
  multiplier : 1 ≤ p.backoffMultiplier
  jitter : 0 ≤ p.jitterSeconds
  cap : forall m, p.maxDelaySeconds = some m -> 0 < m
  retryAfter : forall r, retryAfterSeconds = some r -> 0 ≤ r
  sample : forall s, p.randomSource = some s -> 0 ≤ s ∧ s < 1

namespace RetryParameters

/-- The exponential part of the delay. -/
def backoff (p : RetryParameters) (attemptsSoFar : Int) : Rat :=
  p.baseDelaySeconds * p.backoffMultiplier ^ (max (attemptsSoFar - 1) 0).toNat

/-- The random part of the delay. -/
def jitterOf (p : RetryParameters) : Rat :=
  p.jitterSeconds * p.randomSource.getD 0

/-- The delay: capped, but never shorter than `Retry-After`. -/
def delay (p : RetryParameters) (attemptsSoFar : Int) (retryAfterSeconds : Option Rat) :
    Rat :=
  let capped := p.maxDelaySeconds.elim (p.backoff attemptsSoFar + p.jitterOf)
    (min (p.backoff attemptsSoFar + p.jitterOf))
  retryAfterSeconds.elim capped (max capped)

end RetryParameters

theorem validateRetryParameters_eq_ok {n : Int} {p : RetryParameters}
    {retryAfter : Option Rat} :
    validateRetryParameters n p retryAfter = Except.ok () ↔
      0 ≤ n ∧ 0 < p.baseDelaySeconds ∧ 1 ≤ p.backoffMultiplier ∧ 0 ≤ p.jitterSeconds ∧
        (forall m, p.maxDelaySeconds = some m -> 0 < m) ∧
        forall r, retryAfter = some r -> 0 ≤ r := by
  have hcap : (p.maxDelaySeconds.any fun m => decide (m ≤ 0)) = true ↔
      ¬forall m, p.maxDelaySeconds = some m -> 0 < m := by
    cases p.maxDelaySeconds <;> simp
  have hafter : (retryAfter.any fun r => decide (r < 0)) = true ↔
      ¬forall r, retryAfter = some r -> 0 ≤ r := by
    cases retryAfter <;> simp
  unfold validateRetryParameters
  split_ifs with h₁ h₂ h₃ h₄ h₅ h₆
  · exact ⟨fun h => (by cases h), fun h => absurd h.left (not_le.mpr h₁)⟩
  · exact ⟨fun h => (by cases h), fun h => absurd h.right.left (not_lt.mpr h₂)⟩
  · exact ⟨fun h => (by cases h), fun h => absurd h.right.right.left (not_le.mpr h₃)⟩
  · exact ⟨fun h => (by cases h), fun h => absurd h.right.right.right.left (not_le.mpr h₄)⟩
  · exact ⟨fun h => (by cases h), fun h => absurd h.right.right.right.right.left
      (hcap.mp h₅)⟩
  · exact ⟨fun h => (by cases h), fun h => absurd h.right.right.right.right.right
      (hafter.mp h₆)⟩
  · constructor
    · intro _
      exact ⟨not_lt.mp h₁, not_le.mp h₂, not_lt.mp h₃, not_lt.mp h₄,
        not_not.mp fun h => h₅ (hcap.mpr h), not_not.mp fun h => h₆ (hafter.mpr h)⟩
    · intro _
      rfl

section Delay

variable {p : RetryParameters} {n n' limit : Int} {retryAfter retryAfter' : Option Rat}
  {kind : ProviderFailureKind}

theorem RetryParameters.Accepted.validated (h : p.Accepted n limit retryAfter) :
    validateRetryParameters n p retryAfter = Except.ok () :=
  validateRetryParameters_eq_ok.mpr
    ⟨h.attempts, h.base, h.multiplier, h.jitter, h.cap, h.retryAfter⟩

theorem retryDelaySeconds_eq (h : p.Accepted n limit retryAfter) :
    retryDelaySeconds n p retryAfter = Except.ok (p.delay n retryAfter) := by
  unfold retryDelaySeconds RetryParameters.delay RetryParameters.backoff
    RetryParameters.jitterOf
  rw [h.validated]
  cases hsample : p.randomSource with
  | none => simp [Bind.bind, Except.bind, pure, Except.pure]
  | some s =>
      by_cases hjitter : 0 < p.jitterSeconds
      · simp [Bind.bind, Except.bind, pure, Except.pure, hjitter, h.sample s hsample]
      · have hzero : p.jitterSeconds = 0 := le_antisymm (not_lt.mp hjitter) h.jitter
        simp [Bind.bind, Except.bind, pure, Except.pure, hzero]

theorem decideRetry_eq (h : p.Accepted n limit retryAfter) :
    decideRetry kind n retryAfter p limit = Except.ok
      { retryable := decide (kind ∈ retryableFailureKinds ∧ n < limit)
        kind := kind
        attemptsSoFar := n
        maxAttempts := limit
        delaySeconds := if kind ∈ retryableFailureKinds ∧ n < limit then
          some (p.delay n retryAfter) else none
        retryAfterSeconds := retryAfter
        exhausted := decide (limit ≤ n) } := by
  unfold decideRetry
  rw [if_neg (not_lt.mpr h.attempts), if_neg (not_lt.mpr h.limit), h.validated,
    retryDelaySeconds_eq h]
  by_cases hkind : kind ∈ retryableFailureKinds
  · by_cases hleft : n < limit
    · simp [Bind.bind, Except.bind, pure, Except.pure, Functor.map, Except.map, hkind,
        hleft]
    · have hle : limit ≤ n := not_lt.mp hleft
      simp [Bind.bind, Except.bind, pure, Except.pure, hkind, hle]
  · simp [Bind.bind, Except.bind, pure, Except.pure, hkind]

theorem RetryParameters.Accepted.jitterOf_nonneg (h : p.Accepted n limit retryAfter) :
    0 ≤ p.jitterOf := by
  unfold RetryParameters.jitterOf
  cases hsample : p.randomSource with
  | none => simp
  | some s => exact mul_nonneg h.jitter (h.sample s hsample).left

theorem RetryParameters.Accepted.backoff_pos (h : p.Accepted n limit retryAfter) :
    0 < p.backoff n := by
  have hpow : (1 : Rat) ≤ p.backoffMultiplier ^ (max (n - 1) 0).toNat :=
    one_le_pow₀ h.multiplier
  exact mul_pos h.base (lt_of_lt_of_le one_pos hpow)

theorem RetryParameters.Accepted.delay_pos (h : p.Accepted n limit retryAfter) :
    0 < p.delay n retryAfter := by
  have hsum : 0 < p.backoff n + p.jitterOf :=
    add_pos_of_pos_of_nonneg h.backoff_pos h.jitterOf_nonneg
  have hcapped : 0 < p.maxDelaySeconds.elim (p.backoff n + p.jitterOf)
      (min (p.backoff n + p.jitterOf)) := by
    cases hcap : p.maxDelaySeconds with
    | none => exact hsum
    | some m => exact lt_min hsum (h.cap m hcap)
  unfold RetryParameters.delay
  cases retryAfter with
  | none => exact hcapped
  | some r => exact lt_of_lt_of_le hcapped (le_max_left _ _)

theorem RetryParameters.retryAfter_le_delay {r : Rat} (hr : retryAfter = some r) :
    r ≤ p.delay n retryAfter := by
  rw [hr]
  exact le_max_right _ _

theorem RetryParameters.delay_le {m : Rat}
    (hm : p.maxDelaySeconds = some m) :
    p.delay n retryAfter ≤ retryAfter.elim m (max m) := by
  have hcapped : p.maxDelaySeconds.elim (p.backoff n + p.jitterOf)
      (min (p.backoff n + p.jitterOf)) ≤ m := by
    rw [hm]
    exact min_le_right _ _
  unfold RetryParameters.delay
  cases retryAfter with
  | none => exact hcapped
  | some r => exact max_le_max hcapped (le_refl r)

/-- A later attempt and a longer `Retry-After` never shorten the delay. -/
theorem RetryParameters.Accepted.delay_mono (h : p.Accepted n limit retryAfter)
    (hn : n ≤ n') (hafter : forall r, retryAfter = some r ->
      exists r', retryAfter' = some r' ∧ r ≤ r') :
    p.delay n retryAfter ≤ p.delay n' retryAfter' := by
  have hbackoff : p.backoff n ≤ p.backoff n' := by
    have hexponent : (max (n - 1) 0).toNat ≤ (max (n' - 1) 0).toNat := by omega
    exact mul_le_mul_of_nonneg_left (pow_le_pow_right₀ h.multiplier hexponent)
      (le_of_lt h.base)
  have hsum : p.backoff n + p.jitterOf ≤ p.backoff n' + p.jitterOf :=
    add_le_add hbackoff (le_refl p.jitterOf)
  have hcapped : p.maxDelaySeconds.elim (p.backoff n + p.jitterOf)
        (min (p.backoff n + p.jitterOf)) ≤
      p.maxDelaySeconds.elim (p.backoff n' + p.jitterOf)
        (min (p.backoff n' + p.jitterOf)) := by
    cases p.maxDelaySeconds with
    | none => exact hsum
    | some m => exact min_le_min hsum (le_refl m)
  unfold RetryParameters.delay
  cases hr : retryAfter with
  | some r =>
      rcases hafter r hr with ⟨r', hr', hle⟩
      rw [hr']
      exact max_le_max hcapped hle
  | none =>
      cases retryAfter' with
      | none => exact hcapped
      | some r' => exact le_trans hcapped (le_max_left _ _)

structure RetryDecision.Keeps (d : RetryDecision) (kind : ProviderFailureKind)
    (n limit : Int) (retryAfter : Option Rat) (p : RetryParameters) : Prop where
  retryable : d.retryable = true ↔ kind ∈ retryableFailureKinds ∧ n < limit
  delayed : d.delaySeconds.isSome = d.retryable
  positive : forall s, d.delaySeconds = some s -> 0 < s
  patient : forall s r, d.delaySeconds = some s -> retryAfter = some r -> r ≤ s
  capped : forall s m, d.delaySeconds = some s -> p.maxDelaySeconds = some m ->
    s ≤ retryAfter.elim m (max m)

theorem decideRetry_delay {d : RetryDecision} {s : Rat} (h : p.Accepted n limit retryAfter)
    (hd : decideRetry kind n retryAfter p limit = Except.ok d)
    (hs : d.delaySeconds = some s) : s = p.delay n retryAfter := by
  rw [decideRetry_eq h] at hd
  rw [← Except.ok.inj hd] at hs
  dsimp only at hs
  split at hs
  · exact (Option.some.inj hs).symm
  · cases hs

theorem decideRetry_keeps (h : p.Accepted n limit retryAfter) :
    exists d, decideRetry kind n retryAfter p limit = Except.ok d ∧
      d.Keeps kind n limit retryAfter p := by
  have hd : decideRetry kind n retryAfter p limit = _ := decideRetry_eq h
  refine ⟨_, hd, ?_, ?_, ?_, ?_, ?_⟩
  · exact decide_eq_true_iff
  · dsimp only
    split
    · next hretry => rw [decide_eq_true hretry, Option.isSome_some]
    · next hretry => rw [decide_eq_false hretry, Option.isSome_none]
  · intro s hs
    rw [decideRetry_delay h hd hs]
    exact h.delay_pos
  · intro s r hs hr
    rw [decideRetry_delay h hd hs]
    exact RetryParameters.retryAfter_le_delay hr
  · intro s m hs hm
    rw [decideRetry_delay h hd hs]
    exact RetryParameters.delay_le hm

end Delay

/-!
## The attempts of a cycle
-/

/-- The attempts that a delivery cycle of a command has started. -/
def OutboxTables.startedIn (t : OutboxTables) (commandId : UUID) (cycle : Nat) :
    List OutboxDeliveryAttempt :=
  (t.attemptsOf commandId).filter fun a => decide (a.deliveryCycle = cycle)

theorem length_cycleNumbers (attempts : List OutboxDeliveryAttempt) (cycle : Nat) :
    (cycleNumbers attempts cycle).length =
      (attempts.filter fun a => decide (a.deliveryCycle = cycle)).length := by
  unfold cycleNumbers
  exact List.length_map _

theorem Numbered.started_le {m : OutboxMessage} {attempts : List OutboxDeliveryAttempt}
    (h : Numbered m attempts) (cycle : Nat) :
    (attempts.filter fun a => decide (a.deliveryCycle = cycle)).length ≤ 8 := by
  rw [← length_cycleNumbers]
  rcases Nat.lt_trichotomy cycle m.deliveryCycle with hlt | heq | hgt
  · rcases h.earlier cycle hlt with ⟨n, hbound, hn⟩
    rw [hn, List.length_range']
    exact hbound
  · rw [heq, h.current, List.length_range']
    exact h.bound
  · have hnone : cycleNumbers attempts cycle = [] := by
      unfold cycleNumbers
      rw [List.map_eq_nil_iff, List.filter_eq_nil_iff]
      intro a ha hcycle
      rw [decide_eq_true_eq] at hcycle
      have hle := (h.cycles a ha).right
      omega
    rw [hnone]
    exact Nat.zero_le 8

theorem OutboxSound.started_le {t : OutboxTables} (h : OutboxSound t) (commandId : UUID)
    (cycle : Nat) : (t.startedIn commandId cycle).length ≤ 8 := by
  unfold OutboxTables.startedIn
  cases hm : t.messages.get commandId with
  | some m =>
      have hcommand := h.commands m (Table.mem_of_get hm)
      rw [Table.get_key hm] at hcommand
      exact hcommand.numbered.started_le cycle
  | none =>
      have hnone : t.attemptsOf commandId = [] := by
        rw [List.eq_nil_iff_forall_not_mem]
        intro a ha
        rcases Table.mem_select.mp ha with ⟨ha, hid⟩
        rcases (h.attempts a ha).right with ⟨m, hget⟩
        rw [of_decide_eq_true hid, hm] at hget
        cases hget
      rw [hnone]
      exact Nat.zero_le 8

/-!
## The eighth failure
-/

/-- An attempt that was scheduled for retry is not the eighth of its cycle. -/
def RetriesEarly (t : OutboxTables) : Prop :=
  forall a, a ∈ t.attempts.rows ->
    a.outcome = some DeliveryAttemptOutcome.retryScheduled -> a.attemptNumber < 8

theorem Ending.retried_of_outcome {e : Ending} {a : OutboxDeliveryAttempt}
    (h : (e.attempt a).outcome = some DeliveryAttemptOutcome.retryScheduled) :
    exists r now, e = Ending.retried r now := by
  cases e with
  | retried r now => exact ⟨r, now, rfl⟩
  | finalized v now =>
      have houtcome := Option.some.inj h
      change finalOutcome v.finalization.target v.finalization.failureKind = _ at houtcome
      unfold finalOutcome at houtcome
      split_ifs at houtcome
  | expired now _ _ => cases Option.some.inj h
  | exhausted now _ _ => cases Option.some.inj h

theorem Leased.carries {m : OutboxMessage} {attempts : List OutboxDeliveryAttempt}
    (h : Leased m attempts) (hheld : m.status = OutboxDeliveryStatus.processing)
    {a : OutboxDeliveryAttempt} (ha : a ∈ attempts) (hopen : a.isOpen = true) :
    CarriesLease m a := by
  rcases h.opened hheld with ⟨b, hfilter, hcarries⟩
  have hmem : a ∈ attempts.filter OutboxDeliveryAttempt.isOpen :=
    List.mem_filter.mpr ⟨ha, hopen⟩
  rw [hfilter] at hmem
  rw [List.mem_singleton.mp hmem]
  exact hcarries

theorem OutboxStep.retriesEarly {l : OutboxLabel} {t u : OutboxTables}
    (h : OutboxStep l t u) (hsound : OutboxSound t) (ht : RetriesEarly t) :
    RetriesEarly u := by
  cases h with
  | claim get due worker insert =>
      intro a ha houtcome
      rw [(Table.insert?_eq_some.mp insert).right] at ha
      rcases List.mem_append.mp ha with ha | ha
      · exact ht a ha houtcome
      · rw [List.mem_singleton.mp ha] at houtcome
        cases houtcome
  | @finish _ e m b get held getAttempt ofCommand isOpen allowed checks =>
      intro a ha houtcome
      rcases Table.mem_put ha with rfl | ⟨ha, _⟩
      · rcases Ending.retried_of_outcome houtcome with ⟨r, now, rfl⟩
        -- the open attempt has the number that the retry has compared with the limit
        have hcommand := hsound.commands m (Table.mem_of_get get)
        have hmem : b ∈ t.attemptsOf m.commandId :=
          Table.mem_select.mpr ⟨Table.mem_of_get getAttempt, decide_eq_true ofCommand⟩
        have hnumber := (hcommand.leased.carries held hmem isOpen).number
        change b.attemptNumber < 8
        rw [hnumber]
        exact allowed.left
      · exact ht a ha houtcome
  | _ => exact ht

theorem World.Runs.retriesEarly {stages : List (Stage World Event)} {w : World}
    (h : World.Runs stages w) : RetriesEarly w.db.outbox := by
  refine (h.kept (I := fun db => RetriesEarly db.outbox) ?_ ?_).left
  · intro ids a ha
    cases ha
  · intro l db db' hmove hsound hdb
    exact hmove.outbox.retriesEarly hsound.outbox hdb

theorem early_of_scheduleOutboxRetry {item : OutboxItem} {o : DispatchOutcomes}
    {retry : ScheduledRetry}
    (h : WorkerCall.scheduleOutboxRetry retry ∈ (process item o).calls) :
    item.claimed.attempt.attemptNumber < 8 := by
  rw [process_calls] at h
  rcases List.mem_append.mp h with h | h
  · cases ofHandler_dispatch _ h
  · unfold handlerCalls at h
    cases hfailure : dispatchFailure item o with
    | none =>
        rw [hfailure] at h
        cases h
    | some e =>
        simp only [hfailure] at h
        split at h
        · cases h
        · by_contra hlate
          have hterminal : ¬Retries item e := fun hretries => hlate hretries.right
          rw [handleFailure_terminal (dispatchFailure_wellFormed hfailure) hterminal] at h
          unfold recordTerminalFailure at h
          split at h
          · rcases List.mem_singleton.mp h with h
            cases h
          · split at h
            · cases List.mem_singleton.mp h
            · cases List.mem_singleton.mp h

/-!
## Retries
-/

/--
Retry decisions.  Whatever parameters pass validation, a failure is retried exactly
if its kind is retried and attempts are left, and a delay is given exactly then; the
delay is positive, at least `Retry-After`, at most the longer of cap and `Retry-After`,
and a later attempt or a longer `Retry-After` never shortens it.  In every run no
cycle of a command starts more than eight attempts and no eighth attempt ends in a
retry, and the worker asks for none.
-/
theorem retry_decisions_bounded :
    (forall (kind : ProviderFailureKind) (n limit : Int) (retryAfter : Option Rat)
        (p : RetryParameters), p.Accepted n limit retryAfter ->
      exists d, decideRetry kind n retryAfter p limit = Except.ok d ∧
        d.Keeps kind n limit retryAfter p) ∧
    (forall (kind : ProviderFailureKind) (n n' limit : Int)
        (retryAfter retryAfter' : Option Rat) (p : RetryParameters)
        (d d' : RetryDecision) (s s' : Rat),
      p.Accepted n limit retryAfter -> p.Accepted n' limit retryAfter' ->
      decideRetry kind n retryAfter p limit = Except.ok d -> d.delaySeconds = some s ->
      decideRetry kind n' retryAfter' p limit = Except.ok d' ->
      d'.delaySeconds = some s' -> n ≤ n' ->
      (forall r, retryAfter = some r -> exists r', retryAfter' = some r' ∧ r ≤ r') ->
      s ≤ s') ∧
    (forall w : World, w.Reachable ->
      (forall commandId cycle, (w.db.outbox.startedIn commandId cycle).length ≤ 8) ∧
      RetriesEarly w.db.outbox) ∧
    forall (item : OutboxItem) (o : DispatchOutcomes) (retry : ScheduledRetry),
      WorkerCall.scheduleOutboxRetry retry ∈ (process item o).calls ->
      item.claimed.attempt.attemptNumber < 8 := by
  refine ⟨fun _ _ _ _ _ h => decideRetry_keeps h, ?_, ?_,
    fun _ _ _ h => early_of_scheduleOutboxRetry h⟩
  · intro kind n n' limit retryAfter retryAfter' p d d' s s' h h' hd hs hd' hs' hn hafter
    rw [decideRetry_delay h hd hs, decideRetry_delay h' hd' hs']
    exact h.delay_mono hn hafter
  · rintro w ⟨stages, hrun⟩
    constructor
    · intro commandId cycle
      exact hrun.good.left.sound.outbox.started_le commandId cycle
    · exact hrun.retriesEarly

def sampleRetryParameters : RetryParameters :=
  { jitterSeconds := 1, maxDelaySeconds := some 3, randomSource := some (1 / 2) }

theorem sampleRetryParameters_accepted {n : Int} (hn : 0 ≤ n) :
    sampleRetryParameters.Accepted n 8 (some 10) := by
  constructor
  · exact hn
  · decide
  · decide +kernel
  · decide +kernel
  · decide +kernel
  · intro m hm
    have hcap : (3 : Rat) = m := Option.some.inj hm
    rw [← hcap]
    decide +kernel
  · intro r hr
    cases hr
    decide +kernel
  · intro r hr
    cases hr
    decide +kernel

theorem retry_decisions_bounded_timeout :
    exists d, decideRetry ProviderFailureKind.timeout 3 (some 10) sampleRetryParameters 8 =
        Except.ok d ∧
      d.Keeps ProviderFailureKind.timeout 3 8 (some 10) sampleRetryParameters ∧
      d.delaySeconds = some 10 ∧
      forall d' s', decideRetry ProviderFailureKind.timeout 4 (some 10) sampleRetryParameters 8 =
        Except.ok d' -> d'.delaySeconds = some s' -> 10 ≤ s' := by
  have hfirst := sampleRetryParameters_accepted (n := 3) (by decide)
  have hsecond := sampleRetryParameters_accepted (n := 4) (by decide)
  have hten : (decideRetry ProviderFailureKind.timeout 3 (some 10) sampleRetryParameters
      8).toOption.bind RetryDecision.delaySeconds = some 10 := by
    decide +kernel
  rcases retry_decisions_bounded.left ProviderFailureKind.timeout 3 8 (some 10)
    sampleRetryParameters hfirst with ⟨d, hd, hkeeps⟩
  rw [hd] at hten
  refine ⟨d, hd, hkeeps, hten, ?_⟩
  intro d' s' hd' hs'
  exact retry_decisions_bounded.right.left ProviderFailureKind.timeout 3 4 8 (some 10)
    (some 10) sampleRetryParameters d d' 10 s' hfirst hsecond hd hten hd' hs' (by decide)
    fun r hr => ⟨r, hr, le_refl r⟩

end RefundAgent
