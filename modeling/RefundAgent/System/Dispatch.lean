import RefundAgent.Integrations.OutboxWorker

/-!
# Batches of the dispatch worker

When a batch of claimed commands is accounted for, and when the acceptance of a
command is kept.  The handler of a failure knows
two exceptions of `schedule_outbox_retry`; any other one, and the overflow of the
time of the next attempt, leaves the task of the item and ends the batch.
-/

namespace RefundAgent

open Foundation

/-!
## The decision about a retry
-/

/-- The delay before the next attempt: doubled each time, at least `Retry-After`. -/
def backoffDelay (attemptNumber : Nat) (retryAfterSeconds : Option Rat) : Rat :=
  retryAfterSeconds.elim (2 ^ (attemptNumber - 1)) (max (2 ^ (attemptNumber - 1)))

theorem validateRetryParameters_default {n : Nat} {retryAfter : Option Rat}
    (h : (retryAfter.all fun r => decide (0 ≤ r)) = true) :
    validateRetryParameters n {} retryAfter = Except.ok () := by
  have hany : (retryAfter.any fun r => decide (r < 0)) = false := by
    cases retryAfter with
    | none => rfl
    | some r =>
        have hr : 0 ≤ r := of_decide_eq_true h
        exact decide_eq_false (not_lt.mpr hr)
  unfold validateRetryParameters
  rw [if_neg (by omega), if_neg (by norm_num), if_neg (by norm_num), if_neg (by norm_num),
    if_neg (by simp), hany, if_neg Bool.false_ne_true]

theorem retryDelaySeconds_default {n : Nat} {retryAfter : Option Rat}
    (h : (retryAfter.all fun r => decide (0 ≤ r)) = true) :
    retryDelaySeconds n {} retryAfter = Except.ok (backoffDelay n retryAfter) := by
  have hexponent : (max ((n : Int) - 1) 0).toNat = n - 1 := by omega
  unfold retryDelaySeconds
  rw [validateRetryParameters_default h]
  simp [Bind.bind, Except.bind, pure, Except.pure, hexponent, backoffDelay]

theorem decideRetry_default {kind : ProviderFailureKind} {n : Nat}
    {retryAfter : Option Rat} (h : (retryAfter.all fun r => decide (0 ≤ r)) = true) :
    decideRetry kind n retryAfter = Except.ok
      { retryable := decide (kind ∈ retryableFailureKinds ∧ n < 8)
        kind := kind
        attemptsSoFar := n
        maxAttempts := 8
        delaySeconds := if kind ∈ retryableFailureKinds ∧ n < 8 then
          some (backoffDelay n retryAfter) else none
        retryAfterSeconds := retryAfter
        exhausted := decide (8 ≤ n) } := by
  have hlimit : ¬(((maxAttempts : Nat) : Int) < 1) := by decide
  unfold decideRetry
  rw [if_neg (by omega), if_neg hlimit, validateRetryParameters_default h]
  by_cases hretry : kind ∈ retryableFailureKinds ∧ n < 8
  · have hle : ¬8 ≤ n := by omega
    simp [Bind.bind, Except.bind, pure, Except.pure, hretry, hle, maxAttempts,
      retryDelaySeconds_default h, Functor.map, Except.map]
  · have hmany : kind ∈ retryableFailureKinds -> 8 ≤ n := by
      intro hkind
      by_contra hn
      exact hretry ⟨hkind, Nat.lt_of_not_le hn⟩
    simpa [Bind.bind, Except.bind, pure, Except.pure, hretry, maxAttempts] using hmany

/-!
## The failure of an item
-/

/-- The exception with which the renewals end the wait for the request. -/
def renewalFailure (item : OutboxItem) : List RenewalTick -> Option DispatchError
  | [] => none
  | tick :: rest =>
      match tick.renewed with
      | Except.error e => some e
      | Except.ok false =>
          some (DispatchError.raised (Failure.leaseConflict item.claimed.commandId))
      | Except.ok true => if tick.responded then none else renewalFailure item rest

/-- The exception of the finalizer that is told the response. -/
def finalizerFailure (o : DispatchOutcomes) (response : ProviderCommandResult) :
    Option DispatchError :=
  match (if response.status = ProviderCommandAcceptanceStatus.accepted then o.accepted
    else o.rejected) with
  | Except.error e => some e
  | Except.ok _ => none

/-- The exception that ends the dispatch of an item, if any awaited call raises one. -/
def dispatchFailure (item : OutboxItem) (o : DispatchOutcomes) : Option DispatchError :=
  match toEnvelope item with
  | Except.error e => some e
  | Except.ok _ =>
      match o.lookup with
      | Except.error e => some e
      | Except.ok connection =>
          match checkConnection item connection with
          | Except.error e => some e
          | Except.ok _ =>
              match renewalFailure item o.ticks with
              | some e => some e
              | none =>
                  match o.response with
                  | Except.error e => some e
                  | Except.ok response => finalizerFailure o response

theorem sendWithLeaseRenewal_outcome (item : OutboxItem) (o : DispatchOutcomes)
    (ticks : List RenewalTick) : (sendWithLeaseRenewal item o ticks).outcome =
      match renewalFailure item ticks with
      | some e => Except.error e
      | none => o.response := by
  induction ticks with
  | nil => rfl
  | cons tick rest ih =>
      unfold sendWithLeaseRenewal renewalFailure
      cases tick.renewed with
      | error e => rfl
      | ok renewed =>
          cases renewed with
          | false => rfl
          | true =>
              cases tick.responded with
              | true => rfl
              | false => exact ih

/-- The result of an item that counts it in exactly one place. -/
def WorkerRunResult.single (r : WorkerRunResult) : Prop :=
  r.published + r.retried + r.dead + r.leaseConflicts + r.failed = 1

theorem recordResponse_outcome (o : DispatchOutcomes) (response : ProviderCommandResult) :
    match finalizerFailure o response with
    | some e => (recordResponse o response).outcome = Except.error e
    | none => exists r, (recordResponse o response).outcome = Except.ok r ∧ r.single := by
  unfold recordResponse finalizerFailure
  by_cases hstatus : response.status = ProviderCommandAcceptanceStatus.accepted
  · simp only [if_pos hstatus]
    cases haccepted : o.accepted with
    | error e => rfl
    | ok _ => exact ⟨_, rfl, rfl⟩
  · simp only [if_neg hstatus]
    cases hrejected : o.rejected with
    | error e => rfl
    | ok _ => exact ⟨_, rfl, rfl⟩

theorem dispatch_outcome (item : OutboxItem) (o : DispatchOutcomes) :
    match dispatchFailure item o with
    | some e => (dispatch item o).outcome = Except.error e
    | none => exists r, (dispatch item o).outcome = Except.ok r ∧ r.single := by
  unfold dispatch dispatchFailure
  cases toEnvelope item with
  | error e => rfl
  | ok envelope =>
      cases hlookup : o.lookup with
      | error e => rfl
      | ok connection =>
          dsimp only [Traced.bind, Traced.await]
          cases hcheck : checkConnection item connection with
          | error e => rfl
          | ok _ =>
              have hsend := sendWithLeaseRenewal_outcome item o o.ticks
              dsimp only
              cases hrenewal : renewalFailure item o.ticks with
              | some e =>
                  rw [hrenewal] at hsend
                  rw [hsend]
              | none =>
                  rw [hrenewal] at hsend
                  dsimp only at hsend ⊢
                  rw [hsend]
                  cases hresponse : o.response with
                  | error e => rfl
                  | ok response => exact recordResponse_outcome o response

theorem renewalFailure_cases {item : OutboxItem} {ticks : List RenewalTick}
    {e : DispatchError} (h : renewalFailure item ticks = some e) :
    e.isLeaseConflict = true ∨ e ∈ ticks.flatMap fun t => raisedBy t.renewed := by
  induction ticks with
  | nil => cases h
  | cons tick rest ih =>
      rw [List.flatMap_cons, List.mem_append]
      unfold renewalFailure at h
      cases hrenewed : tick.renewed with
      | error x =>
          rw [hrenewed] at h
          cases h
          exact Or.inr (Or.inl List.mem_cons_self)
      | ok renewed =>
          rw [hrenewed] at h
          cases renewed with
          | false =>
              cases h
              exact Or.inl rfl
          | true =>
              cases hresponded : tick.responded with
              | true =>
                  rw [hresponded] at h
                  cases h
              | false =>
                  rw [hresponded] at h
                  rcases ih h with hlease | hmem
                  · exact Or.inl hlease
                  · exact Or.inr (Or.inr hmem)

theorem wellFormed_of_isLeaseConflict {e : DispatchError} (h : e.isLeaseConflict = true) :
    e.wellFormed = true := by
  cases e with
  | raised f => rfl
  | _ => cases h

theorem dispatchFailure_wellFormed {item : OutboxItem} {o : DispatchOutcomes}
    {e : DispatchError} (h : dispatchFailure item o = some e) : e.wellFormed = true := by
  have hmem := o.wellFormed e
  simp only [List.mem_append] at hmem
  unfold dispatchFailure toEnvelope at h
  split at h
  · rename_i henvelope
    split at henvelope
    · cases henvelope
    · cases henvelope
      cases h
      rfl
  · split at h
    · rename_i hlookup
      cases h
      exact hmem (Or.inl (Or.inl (Or.inl (Or.inl (by rw [hlookup]; exact List.mem_cons_self)))))
    · split at h
      · rename_i hcheck
        unfold checkConnection at hcheck
        split at hcheck
        · cases hcheck
        · cases hcheck
          cases h
          rfl
      · split at h
        · rename_i hrenewal
          cases h
          rcases renewalFailure_cases hrenewal with hlease | hticks
          · exact wellFormed_of_isLeaseConflict hlease
          · exact hmem (Or.inl (Or.inl (Or.inl (Or.inr hticks))))
        · split at h
          · rename_i hresponse
            cases h
            exact hmem (Or.inl (Or.inl (Or.inr (by rw [hresponse]; exact List.mem_cons_self))))
          · rename_i response hresponse
            unfold finalizerFailure at h
            split at h
            · rename_i hfinalizer
              cases h
              split at hfinalizer
              · exact hmem (Or.inl (Or.inr (by rw [hfinalizer]; exact List.mem_cons_self)))
              · exact hmem (Or.inr (by rw [hfinalizer]; exact List.mem_cons_self))
            · cases h

/-!
## The handler of a failure
-/

/-- The failure is of a kind that is retried, and attempts are left. -/
def Retries (item : OutboxItem) (e : DispatchError) : Prop :=
  e.failureKind ∈ retryableFailureKinds ∧ item.claimed.attempt.attemptNumber < 8

/-- The time of the next attempt can be named. -/
def Schedulable (item : OutboxItem) (o : DispatchOutcomes) (e : DispatchError) : Prop :=
  o.now + timedelta (backoffDelay item.claimed.attempt.attemptNumber e.retryAfter) ≤ latestTime

/-- `schedule_outbox_retry` returns, or raises one of the exceptions that are handled. -/
def ScheduleHandled (o : DispatchOutcomes) : Prop :=
  forall e, o.scheduled = Except.error e ->
    e.isAttemptsExhausted = true ∨ e.isLeaseConflict = true

instance (item : OutboxItem) (e : DispatchError) : Decidable (Retries item e) := by
  unfold Retries
  infer_instance

/-- The retry that the worker schedules for a failure. -/
def scheduledRetry (item : OutboxItem) (o : DispatchOutcomes) (e : DispatchError) :
    ScheduledRetry :=
  { failureKind := e.failureKind
    errorCode := e.safeError.1
    errorMessage := e.safeError.2
    retryAfterSeconds := e.retryAfter
    nextAvailableAt :=
      o.now + timedelta (backoffDelay item.claimed.attempt.attemptNumber e.retryAfter)
    httpStatus := e.statusCode? }

section Handler

variable {item : OutboxItem} {o : DispatchOutcomes} {e : DispatchError}

theorem handleFailure_terminal (he : e.wellFormed = true) (h : ¬Retries item e) :
    handleFailure item o e = recordTerminalFailure o e := by
  unfold handleFailure
  rw [decideRetry_default he]
  have hno : decide (e.failureKind ∈ retryableFailureKinds ∧
      item.claimed.attempt.attemptNumber < 8) = false := decide_eq_false h
  simp only [hno]

theorem handleFailure_retries (he : e.wellFormed = true) (h : Retries item e)
    (htime : Schedulable item o e) :
    handleFailure item o e = recordRetry o e (scheduledRetry item o e) := by
  unfold handleFailure
  rw [decideRetry_default he]
  have hyes : decide (e.failureKind ∈ retryableFailureKinds ∧
      item.claimed.attempt.attemptNumber < 8) = true := decide_eq_true h
  have hafter : timeAfter o.now (backoffDelay item.claimed.attempt.attemptNumber
      e.retryAfter) = Except.ok _ := if_pos htime
  have hdelay : (if e.failureKind ∈ retryableFailureKinds ∧
      item.claimed.attempt.attemptNumber < 8 then some (backoffDelay
        item.claimed.attempt.attemptNumber e.retryAfter) else none) = some _ := if_pos h
  simp only [hyes, hdelay, hafter]
  rfl

theorem handleFailure_overflows (he : e.wellFormed = true) (h : Retries item e)
    (htime : ¬Schedulable item o e) :
    handleFailure item o e = Traced.raise DispatchError.unexpected := by
  unfold handleFailure
  rw [decideRetry_default he]
  have hyes : decide (e.failureKind ∈ retryableFailureKinds ∧
      item.claimed.attempt.attemptNumber < 8) = true := decide_eq_true h
  have hafter : timeAfter o.now (backoffDelay item.claimed.attempt.attemptNumber
      e.retryAfter) = Except.error _ := if_neg htime
  have hdelay : (if e.failureKind ∈ retryableFailureKinds ∧
      item.claimed.attempt.attemptNumber < 8 then some (backoffDelay
        item.claimed.attempt.attemptNumber e.retryAfter) else none) = some _ := if_pos h
  simp only [hyes, hdelay, hafter]

theorem recordTerminalFailure_outcome :
    exists r, (recordTerminalFailure o e).outcome = Except.ok r ∧ r.single := by
  unfold recordTerminalFailure
  split
  · exact ⟨_, rfl, rfl⟩
  · split
    · exact ⟨_, rfl, rfl⟩
    · exact ⟨_, rfl, rfl⟩

theorem recordRetry_outcome (retry : ScheduledRetry) :
    (exists r, (recordRetry o e retry).outcome = Except.ok r ∧ r.single) ↔
      ScheduleHandled o := by
  unfold recordRetry ScheduleHandled
  cases hscheduled : o.scheduled with
  | ok _ => exact ⟨fun _ x hx => (by cases hx), fun _ => ⟨_, rfl, rfl⟩⟩
  | error x =>
      dsimp only [Traced.bind, Traced.await, Traced.handle]
      by_cases hexhausted : x.isAttemptsExhausted = true
      · rw [if_pos hexhausted]
        refine ⟨fun _ y hy => ?_, fun _ => recordTerminalFailure_outcome⟩
        cases hy
        exact Or.inl hexhausted
      · rw [if_neg hexhausted]
        by_cases hlease : x.isLeaseConflict = true
        · rw [if_pos hlease]
          refine ⟨fun _ y hy => ?_, fun _ => ⟨_, rfl, rfl⟩⟩
          cases hy
          exact Or.inr hlease
        · rw [if_neg hlease]
          constructor
          · rintro ⟨r, hr, _⟩
            cases hr
          · intro h
            rcases h x rfl with h | h
            · exact absurd h hexhausted
            · exact absurd h hlease

theorem handleFailure_outcome (he : e.wellFormed = true) :
    (exists r, (handleFailure item o e).outcome = Except.ok r ∧ r.single) ↔
      (Retries item e -> Schedulable item o e ∧ ScheduleHandled o) := by
  by_cases hretries : Retries item e
  · by_cases htime : Schedulable item o e
    · rw [handleFailure_retries he hretries htime, recordRetry_outcome]
      exact ⟨fun h _ => ⟨htime, h⟩, fun h => (h hretries).right⟩
    · rw [handleFailure_overflows he hretries htime]
      constructor
      · rintro ⟨r, hr, _⟩
        cases hr
      · exact fun h => absurd (h hretries).left htime
  · rw [handleFailure_terminal he hretries]
    exact ⟨fun _ h => absurd h hretries, fun _ => recordTerminalFailure_outcome⟩

end Handler

/-- No exception of the item leaves its task. -/
def Contained (item : OutboxItem) (o : DispatchOutcomes) : Prop :=
  forall e, dispatchFailure item o = some e -> e.isLeaseConflict = false ->
    Retries item e -> Schedulable item o e ∧ ScheduleHandled o

theorem process_outcome (item : OutboxItem) (o : DispatchOutcomes) :
    (exists r, (process item o).outcome = Except.ok r ∧ r.single) ↔ Contained item o := by
  have hdispatch := dispatch_outcome item o
  unfold process Contained Traced.handle
  cases hfailure : dispatchFailure item o with
  | none =>
      rw [hfailure] at hdispatch
      rcases hdispatch with ⟨r, hr, hsingle⟩
      rw [hr]
      exact ⟨fun _ e he => (by cases he), fun _ => ⟨r, rfl, hsingle⟩⟩
  | some e =>
      rw [hfailure] at hdispatch
      rw [show (dispatch item o).outcome = Except.error e from hdispatch]
      dsimp only
      cases hlease : e.isLeaseConflict with
      | true =>
          rw [if_pos rfl]
          refine ⟨fun _ x hx hno => ?_, fun _ => ⟨_, rfl, rfl⟩⟩
          cases hx
          rw [hlease] at hno
          cases hno
      | false =>
          rw [if_neg Bool.false_ne_true,
            handleFailure_outcome (dispatchFailure_wellFormed hfailure)]
          refine ⟨fun h x hx _ => ?_, fun h => h e rfl hlease⟩
          cases hx
          exact h

/-!
## Batches
-/

section Gather

variable {α : Type}

theorem length_foldl_set (outcomes : List α) (order : List Nat)
    (slots : List (Option α)) :
    (order.foldl (fun slots i => slots.set i outcomes[i]?) slots).length =
      slots.length := by
  induction order generalizing slots with
  | nil => rfl
  | cons i rest ih => rw [List.foldl_cons, ih, List.length_set]

theorem getElem?_foldl_set (outcomes : List α) {j : Nat} (order : List Nat)
    (slots : List (Option α)) (hj : j < slots.length) :
    (order.foldl (fun slots i => slots.set i outcomes[i]?) slots)[j]? =
      if j ∈ order then some outcomes[j]? else slots[j]? := by
  induction order generalizing slots with
  | nil => rfl
  | cons i rest ih =>
      rw [List.foldl_cons, ih _ (by rw [List.length_set]; exact hj), List.getElem?_set]
      by_cases hrest : j ∈ rest
      · rw [if_pos hrest, if_pos (List.mem_cons_of_mem i hrest)]
      · rw [if_neg hrest]
        by_cases hi : i = j
        · rw [if_pos hi, if_pos (by rw [hi]; exact hj), hi, if_pos List.mem_cons_self]
        · rw [if_neg hi, if_neg]
          intro hmem
          rcases List.mem_cons.mp hmem with hsame | hmem
          · exact hi hsame.symm
          · exact hrest hmem

theorem gather_eq (outcomes : List α) {order : List Nat}
    (horder : order.Perm (List.range outcomes.length)) :
    gather outcomes order = outcomes.map some := by
  unfold gather
  refine List.ext_getElem? fun j => ?_
  by_cases hj : j < outcomes.length
  · have hmem : j ∈ order := horder.mem_iff.mpr (List.mem_range.mpr hj)
    rw [getElem?_foldl_set _ _ _ (by rw [List.length_replicate]; exact hj), if_pos hmem,
      List.getElem?_map, List.getElem?_eq_getElem hj]
    rfl
  · rw [List.getElem?_eq_none, List.getElem?_eq_none]
    · rw [List.length_map]
      exact Nat.le_of_not_lt hj
    · rw [length_foldl_set, List.length_replicate]
      exact Nat.le_of_not_lt hj

end Gather

theorem collect_ok {outcomes : List (Except DispatchError WorkerRunResult)}
    {results : List WorkerRunResult} :
    collect (outcomes.map some) = Except.ok results ↔ outcomes = results.map Except.ok := by
  induction outcomes generalizing results with
  | nil =>
      constructor
      · intro h
        cases h
        rfl
      · intro h
        rw [List.map_eq_nil_iff.mp h.symm]
        rfl
  | cons outcome rest ih =>
      cases outcome with
      | error e =>
          constructor
          · intro h
            cases h
          · intro h
            cases results with
            | nil => cases h
            | cons r results => cases (List.cons.inj h).left
      | ok r =>
          rw [List.map_cons]
          unfold collect
          cases hrest : collect (rest.map some) with
          | error e =>
              constructor
              · intro h
                cases h
              · intro h
                cases results with
                | nil => cases h
                | cons r' results =>
                    have hok := ih.mpr (List.cons.inj h).right
                    rw [hrest] at hok
                    cases hok
          | ok results' =>
              have hsplit := ih.mp hrest
              constructor
              · intro h
                cases h
                rw [hsplit]
                rfl
              · intro h
                cases results with
                | nil => cases h
                | cons r' results =>
                    rcases List.cons.inj h with ⟨hr, hmore⟩
                    have hok := ih.mpr hmore
                    rw [hrest] at hok
                    cases hok
                    cases hr
                    rfl

/-- The counters of a batch are those of its items, added up. -/
structure Tally (result : WorkerRunResult) (results : List WorkerRunResult) : Prop where
  published : result.published = (results.map WorkerRunResult.published).sum
  retried : result.retried = (results.map WorkerRunResult.retried).sum
  dead : result.dead = (results.map WorkerRunResult.dead).sum
  leaseConflicts : result.leaseConflicts = (results.map WorkerRunResult.leaseConflicts).sum
  failed : result.failed = (results.map WorkerRunResult.failed).sum

theorem foldl_merge (results : List WorkerRunResult) (start : WorkerRunResult) :
    results.foldl WorkerRunResult.merge start =
      { claimed := start.claimed
        published := start.published + (results.map WorkerRunResult.published).sum
        retried := start.retried + (results.map WorkerRunResult.retried).sum
        dead := start.dead + (results.map WorkerRunResult.dead).sum
        leaseConflicts :=
          start.leaseConflicts + (results.map WorkerRunResult.leaseConflicts).sum
        failed := start.failed + (results.map WorkerRunResult.failed).sum } := by
  induction results generalizing start with
  | nil => simp
  | cons r rest ih =>
      rw [List.foldl_cons, ih]
      simp only [WorkerRunResult.merge, List.map_cons, List.sum_cons, Nat.add_assoc]

theorem tally_merge (results : List WorkerRunResult) (n : Nat) :
    Tally (results.foldl WorkerRunResult.merge { claimed := n }) results := by
  rw [foldl_merge]
  constructor
  all_goals exact Nat.zero_add _

theorem Tally.total {result : WorkerRunResult} {results : List WorkerRunResult}
    (h : Tally result results) (hsingle : forall r, r ∈ results -> r.single) :
    result.published + result.retried + result.dead + result.leaseConflicts +
      result.failed = results.length := by
  rw [h.published, h.retried, h.dead, h.leaseConflicts, h.failed]
  clear h
  induction results with
  | nil => rfl
  | cons r rest ih =>
      have hr : r.published + r.retried + r.dead + r.leaseConflicts + r.failed = 1 :=
        hsingle r List.mem_cons_self
      have hrest := ih fun x hx => hsingle x (List.mem_cons_of_mem r hx)
      simp only [List.map_cons, List.sum_cons, List.length_cons]
      omega

/--
The batch is accounted for: `run_once` returns, every item is counted in exactly one
place as it would be on its own, and the counters add up to the claimed items.
-/
def Accounted (batch : List (OutboxItem × DispatchOutcomes)) (order : List Nat) : Prop :=
  exists result results,
    runOnce batch order = Except.ok result ∧ result.claimed = batch.length ∧
    (batch.map fun x => (process x.1 x.2).outcome) = results.map Except.ok ∧
    (forall r, r ∈ results -> r.single) ∧ Tally result results ∧
    result.published + result.retried + result.dead + result.leaseConflicts +
      result.failed = result.claimed

theorem results_of_contained {batch : List (OutboxItem × DispatchOutcomes)}
    (h : forall x, x ∈ batch -> Contained x.1 x.2) :
    exists results : List WorkerRunResult,
      (batch.map fun x => (process x.1 x.2).outcome) = results.map Except.ok ∧
      forall r, r ∈ results -> r.single := by
  induction batch with
  | nil => exact ⟨[], rfl, fun r hr => (by cases hr)⟩
  | cons x rest ih =>
      rcases (process_outcome x.1 x.2).mpr (h x List.mem_cons_self) with ⟨r, hr, hsingle⟩
      rcases ih fun y hy => h y (List.mem_cons_of_mem x hy) with ⟨results, hresults, hall⟩
      refine ⟨r :: results, ?_, ?_⟩
      · rw [List.map_cons, List.map_cons, hr, hresults]
      · intro y hy
        rcases List.mem_cons.mp hy with rfl | hy
        · exact hsingle
        · exact hall y hy

theorem contained_of_accounted {batch : List (OutboxItem × DispatchOutcomes)}
    {order : List Nat} (h : Accounted batch order) :
    forall x, x ∈ batch -> Contained x.1 x.2 := by
  rcases h with ⟨result, results, _, _, houtcomes, hsingle, _⟩
  intro x hx
  have hmem : (process x.1 x.2).outcome ∈ results.map Except.ok := by
    rw [← houtcomes]
    exact List.mem_map_of_mem (f := fun x => (process x.1 x.2).outcome) hx
  rcases List.mem_map.mp hmem with ⟨r, hr, houtcome⟩
  exact (process_outcome x.1 x.2).mp ⟨r, houtcome.symm, hsingle r hr⟩

/--
A batch is accounted for, whatever the order in which its tasks end, exactly when no
item meets an exception that its handler lets through: for an item whose failure is
to be retried, the time of the next attempt can be named, and
`schedule_outbox_retry` returns or raises one of the two exceptions it is known for.
-/
theorem outbox_batch_accounted_iff (batch : List (OutboxItem × DispatchOutcomes))
    {order : List Nat} (horder : order.Perm (List.range batch.length)) :
    Accounted batch order ↔ forall x, x ∈ batch -> Contained x.1 x.2 := by
  constructor
  · exact contained_of_accounted
  · intro h
    rcases results_of_contained h with ⟨results, houtcomes, hsingle⟩
    have hlength : results.length = batch.length := by
      have hsame := congrArg List.length houtcomes
      rw [List.length_map, List.length_map] at hsame
      exact hsame.symm
    have hgather : gather (batch.map fun x => (process x.1 x.2).outcome) order =
        (batch.map fun x => (process x.1 x.2).outcome).map some :=
      gather_eq _ (by rw [List.length_map]; exact horder)
    have hrun : runOnce batch order =
        Except.ok (results.foldl WorkerRunResult.merge { claimed := batch.length }) := by
      unfold runOnce
      dsimp only
      rw [hgather, collect_ok.mpr houtcomes]
      rfl
    have htally := tally_merge results batch.length
    have hclaimed : (results.foldl WorkerRunResult.merge
        { claimed := batch.length }).claimed = batch.length := by
      rw [foldl_merge]
    refine ⟨_, results, hrun, hclaimed, houtcomes, hsingle, htally, ?_⟩
    rw [htally.total hsingle, hlength, hclaimed]

/-- A command on its first attempt. -/
def sampleItem : OutboxItem where
  claimed :=
    { commandId := 4
      idempotencyKey := "order-operation:0"
      sourceMessageId := sampleMessageText
      aggregateType := ProviderAggregateType.orderOperation
      aggregateId := 0
      expectedOrderVersion := some 1
      tenantId := sampleTenantText
      customerId := sampleUserText
      connectionId := { text := "provider", clean := by decide }
      commandType := ProviderCommandType.cancelOrder
      payload := ProviderCommandPayload.orderOperation
        sampleOrderText OperationType.cancellation OperationReason.changedMind none
      providerCapability := ProviderCapability.orderOperation
      status := OutboxDeliveryStatus.processing
      deliveryCycle := 1
      attemptsInCycle := 1
      availableAt := 0
      leaseId := some 7
      leaseOwner := some "worker"
      leaseExpiresAt := some 60
      lastFailureKind := none
      lastErrorCode := none
      lastErrorMessage := none
      createdAt := 0
      updatedAt := 0
      publishedAt := none
      deadAt := none
      attempt :=
        { attemptId := 8
          commandId := 4
          deliveryCycle := 1
          attemptNumber := 1
          leaseId := 7
          workerId := "worker"
          startedAt := 0
          finishedAt := none
          outcome := none
          failureKind := none
          httpStatus := none
          providerOperationId := none
          providerReference := none
          safeErrorCode := none
          safeErrorMessage := none
          retryAfterSeconds := none
          nextAvailableAt := none } }
  valid := by decide

def sampleAcceptance : ProviderCommandResult where
  commandId := 4
  providerOperationId := some "operation-1"
  providerReference := none
  status := ProviderCommandAcceptanceStatus.accepted
  receivedAt := 0
  nonEmpty := by decide

/-- The provider is busy and asks for the given delay. -/
def sampleBusy (retryAfter : Rat) (h : 0 ≤ retryAfter) : DispatchOutcomes where
  lookup := Except.ok (ProviderConnectionResolver.sampleConnection "provider" "acme")
  ticks := []
  response := Except.error (DispatchError.httpStatus 503 (some retryAfter))
  accepted := Except.ok ()
  rejected := Except.ok ()
  scheduled := Except.ok ()
  terminal := Except.ok ()
  now := 0
  wellFormed := by
    intro e he
    rcases List.mem_singleton.mp he with rfl
    exact decide_eq_true h

/-- The provider answers at once, and the finalizer ends as given. -/
def sampleAnswered (accepted : Except DispatchError Unit)
    (h : forall e, accepted = Except.error e -> e.wellFormed = true) :
    DispatchOutcomes where
  lookup := Except.ok (ProviderConnectionResolver.sampleConnection "provider" "acme")
  ticks := []
  response := Except.ok sampleAcceptance
  accepted := accepted
  rejected := Except.ok ()
  scheduled := Except.ok ()
  terminal := Except.ok ()
  now := 0
  wellFormed := by
    intro e he
    simp only [raisedBy, List.flatMap_nil, List.append_nil, List.nil_append] at he
    cases accepted with
    | ok _ => cases he
    | error x =>
        rcases List.mem_singleton.mp he with rfl
        exact h e rfl

theorem contained_sampleAnswered :
    Contained sampleItem (sampleAnswered (Except.ok ()) (fun _ h => by cases h)) := by
  intro e he
  cases he

theorem dispatchFailure_sampleBusy (r : Rat) (h : 0 ≤ r) :
    dispatchFailure sampleItem (sampleBusy r h) =
      some (DispatchError.httpStatus 503 (some r)) :=
  rfl

theorem retries_sampleBusy (r : Rat) :
    Retries sampleItem (DispatchError.httpStatus 503 (some r)) := by
  constructor
  · show ProviderFailureKind.httpRetryable ∈ retryableFailureKinds
    decide
  · decide

/-- A busy provider holds up one item; the other is published before it. -/
def sampleBatch : List (OutboxItem × DispatchOutcomes) :=
  [(sampleItem, sampleBusy 30 (by norm_num)),
    (sampleItem, sampleAnswered (Except.ok ()) (fun _ h => by cases h))]

theorem outbox_batch_accounted_iff_two :
    Accounted sampleBatch [1, 0] := by
  apply (@outbox_batch_accounted_iff sampleBatch [1, 0] (List.Perm.swap 0 1 [])).mpr
  intro x hx
  rcases List.mem_cons.mp hx with rfl | hx
  · intro e he _ _
    cases (dispatchFailure_sampleBusy 30 (by norm_num)).symm.trans he
    constructor
    · show (0 : Time) + timedelta (max (2 ^ (1 - 1)) 30) ≤ latestTime
      decide +kernel
    · intro x hx
      cases hx
  · rcases List.mem_singleton.mp hx with rfl
    exact contained_sampleAnswered

/-- A delay that no `datetime` can name ends the batch, though the other item is fine. -/
theorem outbox_batch_aborted : ¬forall (batch : List (OutboxItem × DispatchOutcomes))
    (order : List Nat), order.Perm (List.range batch.length) -> Accounted batch order := by
  intro h
  have hbatch := contained_of_accounted
    (h [(sampleItem, sampleBusy 1000000000000 (by norm_num)),
      (sampleItem, sampleAnswered (Except.ok ()) (fun _ h => by cases h))] [0, 1]
      (List.Perm.refl _))
  have htime := (hbatch _ List.mem_cons_self _
    (dispatchFailure_sampleBusy 1000000000000 (by norm_num)) rfl
    (retries_sampleBusy 1000000000000)).left
  revert htime
  show ¬(0 : Time) + timedelta (max (2 ^ (1 - 1)) 1000000000000) ≤ latestTime
  decide +kernel

/-!
## Accepted commands
-/

/-- The request is done when the wait for it ends. -/
def responds : List RenewalTick -> Bool
  | [] => true
  | tick :: rest =>
      match tick.renewed with
      | Except.ok true => tick.responded || responds rest
      | _ => tick.responded

structure Returned (item : OutboxItem) (o : DispatchOutcomes)
    (result : ProviderCommandResult) : Prop where
  envelope : toEnvelope item = Except.ok item.claimed.toProviderCommandEnvelope
  connection : exists c, o.lookup = Except.ok c ∧ checkConnection item c = Except.ok ()
  responds : responds o.ticks = true
  response : o.response = Except.ok result

def WorkerCall.isTerminalFailure : WorkerCall -> Bool
  | terminalFailure _ _ _ => true
  | _ => false

/-- The calls that only the handler of a failure makes. -/
def WorkerCall.ofHandler : WorkerCall -> Bool
  | scheduleOutboxRetry _ => true
  | terminalFailure _ _ _ => true
  | _ => false

/-- No terminal failure is recorded once the transport has returned an acceptance. -/
def KeepsAcceptance (item : OutboxItem) (o : DispatchOutcomes) : Prop :=
  forall before after result,
    (process item o).calls = before ++ WorkerCall.responded result :: after ->
    result.status = ProviderCommandAcceptanceStatus.accepted ->
    forall call, call ∈ after -> call.isTerminalFailure = false

/-- The exception of a renewal or of `OutboxFinalizer.accepted`. -/
def acceptanceFailure (item : OutboxItem) (o : DispatchOutcomes) : Option DispatchError :=
  match renewalFailure item o.ticks with
  | some e => some e
  | none =>
      match o.accepted with
      | Except.error e => some e
      | Except.ok _ => none

/-- The handler of a failure comes to record it as terminal. -/
def EndsTerminal (item : OutboxItem) (o : DispatchOutcomes) (e : DispatchError) : Prop :=
  ¬Retries item e ∨ (Schedulable item o e ∧
    exists x, o.scheduled = Except.error x ∧ x.isAttemptsExhausted = true)

/-- The calls that follow the failure of the dispatch. -/
def handlerCalls (item : OutboxItem) (o : DispatchOutcomes) : List WorkerCall :=
  match dispatchFailure item o with
  | none => []
  | some e => if e.isLeaseConflict then [] else (handleFailure item o e).calls

section Acceptance

variable {item : OutboxItem} {o : DispatchOutcomes}

theorem responded_mem_requestDone {result : ProviderCommandResult} :
    WorkerCall.responded result ∈ requestDone o ↔ o.response = Except.ok result := by
  unfold requestDone
  cases o.response with
  | error e => simp
  | ok r => simp [eq_comm]

theorem responded_mem_send {result : ProviderCommandResult} (ticks : List RenewalTick) :
    WorkerCall.responded result ∈ (sendWithLeaseRenewal item o ticks).calls ↔
      responds ticks = true ∧ o.response = Except.ok result := by
  induction ticks with
  | nil =>
      rw [← responded_mem_requestDone]
      simp [sendWithLeaseRenewal, responds]
  | cons tick rest ih =>
      unfold sendWithLeaseRenewal responds
      cases tick.renewed with
      | error e => cases tick.responded <;> simp [responded_mem_requestDone]
      | ok renewed =>
          cases renewed with
          | false => cases tick.responded <;> simp [responded_mem_requestDone]
          | true =>
              cases tick.responded with
              | true => simp [responded_mem_requestDone]
              | false => simpa using ih

theorem ofHandler_send (ticks : List RenewalTick) : forall call,
    call ∈ (sendWithLeaseRenewal item o ticks).calls -> call.ofHandler = false := by
  have hdone : forall call, call ∈ requestDone o -> call.ofHandler = false := by
    intro call hcall
    unfold requestDone at hcall
    split at hcall
    · rcases List.mem_singleton.mp hcall with rfl
      rfl
    · cases hcall
  have hsome : forall (b : Bool) call, call ∈ WorkerCall.renewOutboxLease ::
      (if b then requestDone o else []) -> call.ofHandler = false := by
    intro b call hcall
    rcases List.mem_cons.mp hcall with rfl | hcall
    · rfl
    · cases b with
      | true => exact hdone call hcall
      | false => cases hcall
  induction ticks with
  | nil => exact hdone
  | cons tick rest ih =>
      unfold sendWithLeaseRenewal
      cases tick.renewed with
      | error e => exact hsome tick.responded
      | ok renewed =>
          cases renewed with
          | false => exact hsome tick.responded
          | true =>
              cases hresponded : tick.responded with
              | true => exact hsome true
              | false =>
                  intro call hcall
                  rcases List.mem_cons.mp hcall with rfl | hcall
                  · rfl
                  · exact ih call hcall

theorem recordResponse_calls (response : ProviderCommandResult) :
    (recordResponse o response).calls = [WorkerCall.accepted response] ∨
      (recordResponse o response).calls = [WorkerCall.rejected response] := by
  unfold recordResponse Traced.bind Traced.await
  by_cases hstatus : response.status = ProviderCommandAcceptanceStatus.accepted
  · rw [if_pos hstatus]
    cases o.accepted with
    | error e => exact Or.inl rfl
    | ok _ => exact Or.inl rfl
  · rw [if_neg hstatus]
    cases o.rejected with
    | error e => exact Or.inr rfl
    | ok _ => exact Or.inr rfl

theorem dispatch_calls {c : ProviderConnection} {envelope : ProviderCommandEnvelope}
    (henvelope : toEnvelope item = Except.ok envelope)
    (hlookup : o.lookup = Except.ok c) (hcheck : checkConnection item c = Except.ok ()) :
    exists final, (dispatch item o).calls =
        [WorkerCall.resolveByConnectionId, WorkerCall.sendCommand] ++
          (sendWithLeaseRenewal item o o.ticks).calls ++ final ∧
      (final = [] ∨ exists r, final = [WorkerCall.accepted r] ∨
        final = [WorkerCall.rejected r]) := by
  unfold dispatch
  rw [henvelope]
  simp only [Traced.bind, Traced.await, hlookup, hcheck]
  cases houtcome : (sendWithLeaseRenewal item o o.ticks).outcome with
  | error e => exact ⟨[], by simp, Or.inl rfl⟩
  | ok response =>
      exact ⟨(recordResponse o response).calls, by simp,
        Or.inr ⟨response, recordResponse_calls response⟩⟩

theorem dispatch_calls_early (h : ¬exists c envelope, toEnvelope item = Except.ok envelope ∧
    o.lookup = Except.ok c ∧ checkConnection item c = Except.ok ()) :
    forall call, call ∈ (dispatch item o).calls ->
      call = WorkerCall.resolveByConnectionId := by
  intro call hcall
  unfold dispatch at hcall
  cases henvelope : toEnvelope item with
  | error e =>
      rw [henvelope] at hcall
      cases hcall
  | ok envelope =>
      rw [henvelope] at hcall
      cases hlookup : o.lookup with
      | error e =>
          simp only [Traced.bind, Traced.await, hlookup] at hcall
          exact List.mem_singleton.mp hcall
      | ok c =>
          cases hcheck : checkConnection item c with
          | error e =>
              simp only [Traced.bind, Traced.await, hlookup, hcheck, Traced.raise] at hcall
              exact List.mem_singleton.mp hcall
          | ok _ => exact absurd ⟨c, envelope, henvelope, hlookup, hcheck⟩ h

theorem responded_mem_dispatch {result : ProviderCommandResult} :
    WorkerCall.responded result ∈ (dispatch item o).calls ↔ Returned item o result := by
  by_cases hreach : exists c envelope, toEnvelope item = Except.ok envelope ∧
      o.lookup = Except.ok c ∧ checkConnection item c = Except.ok ()
  · rcases hreach with ⟨c, envelope, henvelope, hlookup, hcheck⟩
    rcases dispatch_calls henvelope hlookup hcheck with ⟨final, hcalls, hfinal⟩
    have hnot : WorkerCall.responded result ∉ final := by
      rcases hfinal with rfl | ⟨r, rfl | rfl⟩
      · exact List.not_mem_nil
      · simp
      · simp
    have hsend : WorkerCall.responded result ∈ (dispatch item o).calls ↔
        WorkerCall.responded result ∈ (sendWithLeaseRenewal item o o.ticks).calls := by
      rw [hcalls]
      simp [hnot]
    rw [hsend, responded_mem_send]
    constructor
    · rintro ⟨hresponds, hresponse⟩
      have hsame : toEnvelope item = Except.ok item.claimed.toProviderCommandEnvelope := by
        unfold toEnvelope at henvelope ⊢
        split at henvelope
        · rename_i hvalid
          rw [if_pos hvalid]
        · cases henvelope
      exact ⟨hsame, ⟨c, hlookup, hcheck⟩, hresponds, hresponse⟩
    · rintro ⟨_, _, hresponds, hresponse⟩
      exact ⟨hresponds, hresponse⟩
  · constructor
    · intro hmem
      cases dispatch_calls_early hreach _ hmem
    · rintro ⟨henvelope, ⟨c, hlookup, hcheck⟩, _, _⟩
      exact absurd ⟨c, _, henvelope, hlookup, hcheck⟩ hreach

theorem ofHandler_dispatch : forall call, call ∈ (dispatch item o).calls ->
    call.ofHandler = false := by
  intro call hcall
  by_cases hreach : exists c envelope, toEnvelope item = Except.ok envelope ∧
      o.lookup = Except.ok c ∧ checkConnection item c = Except.ok ()
  · rcases hreach with ⟨c, envelope, henvelope, hlookup, hcheck⟩
    rcases dispatch_calls henvelope hlookup hcheck with ⟨final, hcalls, hfinal⟩
    rw [hcalls] at hcall
    rcases List.mem_append.mp hcall with hcall | hcall
    · rcases List.mem_append.mp hcall with hcall | hcall
      · rcases List.mem_cons.mp hcall with rfl | hcall
        · rfl
        · rcases List.mem_singleton.mp hcall with rfl
          rfl
      · exact ofHandler_send o.ticks call hcall
    · rcases hfinal with rfl | ⟨r, rfl | rfl⟩
      · cases hcall
      · rcases List.mem_singleton.mp hcall with rfl
        rfl
      · rcases List.mem_singleton.mp hcall with rfl
        rfl
  · rw [dispatch_calls_early hreach call hcall]
    rfl

theorem isTerminalFailure_dispatch : forall call, call ∈ (dispatch item o).calls ->
    call.isTerminalFailure = false := by
  intro call hcall
  have hother := ofHandler_dispatch call hcall
  cases call with
  | terminalFailure failureKind errorCode errorMessage => cases hother
  | _ => rfl

theorem handleFailure_calls {e : DispatchError} (he : e.wellFormed = true) :
    (forall result, WorkerCall.responded result ∉ (handleFailure item o e).calls) ∧
      ((forall call, call ∈ (handleFailure item o e).calls ->
        call.isTerminalFailure = false) ↔ ¬EndsTerminal item o e) := by
  have hterminal : exists kind code message, (recordTerminalFailure o e).calls =
      [WorkerCall.terminalFailure kind code message] := by
    unfold recordTerminalFailure
    split
    · exact ⟨_, _, _, rfl⟩
    · split
      · exact ⟨_, _, _, rfl⟩
      · exact ⟨_, _, _, rfl⟩
  rcases hterminal with ⟨kind, code, message, hterminal⟩
  unfold EndsTerminal
  by_cases hretries : Retries item e
  · by_cases htime : Schedulable item o e
    · rw [handleFailure_retries he hretries htime]
      unfold recordRetry
      cases hscheduled : o.scheduled with
      | ok _ =>
          simp [Traced.bind, Traced.await, Traced.handle, Traced.pure, hretries,
            WorkerCall.isTerminalFailure]
      | error x =>
          by_cases hexhausted : x.isAttemptsExhausted = true
          · simp [Traced.bind, Traced.await, Traced.handle, hexhausted, hterminal,
              hretries, htime, WorkerCall.isTerminalFailure]
          · by_cases hlease : x.isLeaseConflict = true
            · simp [Traced.bind, Traced.await, Traced.handle, hexhausted, hlease,
                Traced.pure, hretries, WorkerCall.isTerminalFailure]
            · simp [Traced.bind, Traced.await, Traced.handle, hexhausted, hlease,
                Traced.raise, hretries, WorkerCall.isTerminalFailure]
    · rw [handleFailure_overflows he hretries htime]
      simp [Traced.raise, hretries, htime]
  · rw [handleFailure_terminal he hretries, hterminal]
    simp [hretries, WorkerCall.isTerminalFailure]

theorem process_calls :
    (process item o).calls = (dispatch item o).calls ++ handlerCalls item o := by
  have hdispatch := dispatch_outcome item o
  unfold process Traced.handle handlerCalls
  cases hfailure : dispatchFailure item o with
  | none =>
      rw [hfailure] at hdispatch
      rcases hdispatch with ⟨r, hr, _⟩
      rw [hr, List.append_nil]
  | some e =>
      rw [hfailure] at hdispatch
      rw [show (dispatch item o).outcome = Except.error e from hdispatch]
      dsimp only
      cases e.isLeaseConflict with
      | true => rfl
      | false => rfl

theorem Returned.dispatchFailure_eq {result : ProviderCommandResult}
    (h : Returned item o result)
    (hstatus : result.status = ProviderCommandAcceptanceStatus.accepted) :
    dispatchFailure item o = acceptanceFailure item o := by
  rcases h with ⟨henvelope, ⟨c, hlookup, hcheck⟩, _, hresponse⟩
  unfold dispatchFailure acceptanceFailure
  simp only [henvelope, hlookup, hcheck, hresponse]
  cases renewalFailure item o.ticks with
  | some e => rfl
  | none => simp only [finalizerFailure, if_pos hstatus]

theorem responded_notMem_handlerCalls (result : ProviderCommandResult) :
    WorkerCall.responded result ∉ handlerCalls item o := by
  unfold handlerCalls
  cases hfailure : dispatchFailure item o with
  | none => exact List.not_mem_nil
  | some e =>
      cases hlease : e.isLeaseConflict with
      | true => simp [hlease]
      | false =>
          simp only [hlease, Bool.false_eq_true, if_false]
          exact (handleFailure_calls (dispatchFailure_wellFormed hfailure)).left result

theorem isTerminalFailure_handlerCalls :
    (forall call, call ∈ handlerCalls item o -> call.isTerminalFailure = false) ↔
      forall e, dispatchFailure item o = some e ->
        e.isLeaseConflict = true ∨ ¬EndsTerminal item o e := by
  unfold handlerCalls
  cases hfailure : dispatchFailure item o with
  | none => simp
  | some e =>
      cases hlease : e.isLeaseConflict with
      | true => simp [hlease]
      | false =>
          simp only [hlease, Bool.false_eq_true, if_false, Option.some.injEq,
            (handleFailure_calls (dispatchFailure_wellFormed hfailure)).right]
          exact ⟨fun h x hx => hx ▸ Or.inr h, fun h => (h e rfl).resolve_left (by simp [hlease])⟩

end Acceptance

theorem after_mem_append_iff {α : Type} {p : α -> Prop} {A B : List α} {r : α}
    (hr : r ∉ B) (hA : forall x, x ∈ A -> p x) :
    (forall before after, A ++ B = before ++ r :: after -> forall x, x ∈ after -> p x) ↔
      (r ∈ A -> forall x, x ∈ B -> p x) := by
  constructor
  · intro h hmem x hx
    rcases List.append_of_mem hmem with ⟨before, after, rfl⟩
    exact h before (after ++ B) (by simp) x (List.mem_append_right after hx)
  · intro h before after hsplit x hx
    rcases List.append_eq_append_iff.mp hsplit with ⟨more, _, hB⟩ | ⟨more, hA', hmore⟩
    · exact absurd (by rw [hB]; simp) hr
    · cases more with
      | nil => exact absurd (by rw [← List.nil_append B, ← hmore]; exact List.mem_cons_self) hr
      | cons y more =>
          rcases List.cons.inj hmore with ⟨rfl, rfl⟩
          rcases List.mem_append.mp hx with hx | hx
          · exact hA x (by rw [hA']; simp [hx])
          · exact h (by rw [hA']; simp) x hx

/--
An accepted command is never recorded as failed by the attempt that got the
acceptance exactly when an exception of a renewal or of `OutboxFinalizer.accepted`
that comes with it is a `LeaseConflictError`, or of a kind that is retried while
attempts are left and `schedule_outbox_retry` does not refuse the retry as exhausted.
-/
theorem acceptance_kept_iff (item : OutboxItem) (o : DispatchOutcomes) :
    KeepsAcceptance item o ↔ forall result e, Returned item o result ->
      result.status = ProviderCommandAcceptanceStatus.accepted ->
      acceptanceFailure item o = some e ->
      e.isLeaseConflict = true ∨ ¬EndsTerminal item o e := by
  have hafter := fun result => after_mem_append_iff
    (@responded_notMem_handlerCalls item o result)
    (@isTerminalFailure_dispatch item o)
  unfold KeepsAcceptance
  rw [process_calls]
  constructor
  · intro h result e hreturned hstatus hfailure
    have hhandler := (hafter result).mp
      (fun before after hsplit => h before after result hsplit hstatus)
      (responded_mem_dispatch.mpr hreturned)
    apply isTerminalFailure_handlerCalls.mp hhandler
    rw [hreturned.dispatchFailure_eq hstatus]
    exact hfailure
  · intro h before after result hsplit hstatus
    apply (hafter result).mpr _ before after hsplit
    intro hmem
    have hreturned := responded_mem_dispatch.mp hmem
    apply isTerminalFailure_handlerCalls.mpr
    intro e he
    rw [hreturned.dispatchFailure_eq hstatus] at he
    exact h result e hreturned hstatus he

/-- The finalizer fails on an accepted command, and the handler records it as dead. -/
theorem acceptance_recorded_failed :
    ¬forall (item : OutboxItem) (o : DispatchOutcomes), KeepsAcceptance item o := by
  intro h
  have hcalls : (process sampleItem (sampleAnswered (Except.error DispatchError.unexpected)
      (fun e he => by cases he; rfl))).calls =
      [WorkerCall.resolveByConnectionId, WorkerCall.sendCommand] ++
        WorkerCall.responded sampleAcceptance ::
          [WorkerCall.accepted sampleAcceptance,
            WorkerCall.terminalFailure ProviderFailureKind.validationError
              "unexpected_provider_error"
              "Provider command delivery failed unexpectedly."] := rfl
  cases h _ _ _ _ _ hcalls rfl _ (List.mem_cons_of_mem _ List.mem_cons_self)

end RefundAgent
