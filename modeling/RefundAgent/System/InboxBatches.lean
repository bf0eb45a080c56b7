import RefundAgent.Integrations.InboxWorker
import RefundAgent.System.Callbacks
import RefundAgent.System.Dispatch

/-!
# Batches of the inbox worker

Every claimed callback is counted once, whatever its finalizer and its renewals do
and in whatever order they do it.  Only the time of a retry, which a task computes
before its `try`, can end the batch.
-/

namespace RefundAgent

open Foundation

namespace InboxWorker

/-!
## One item
-/

/-- The time of a retry can be named. -/
def RetryNameable (retryDelaySeconds : Rat) (o : InboxOutcomes) : Prop :=
  o.now + timedelta retryDelaySeconds ≤ latestTime

theorem total_ofResult (claimed : ClaimedInboxMessage) (result : InboxFinalizationResult) :
    (InboxWorkerRunResult.ofResult claimed result).total = 1 := by
  unfold InboxWorkerRunResult.ofResult
  split
  · rfl
  · cases result.outcome <;> rfl

section Item

variable {retryDelaySeconds : Rat} {claimed : ClaimedInboxMessage} {o : InboxOutcomes}

theorem process_nameable (h : RetryNameable retryDelaySeconds o) :
    process retryDelaySeconds claimed o =
      match finalizeWithLeaseRenewal claimed o.ticks
          (finalizerFor claimed o (o.now + timedelta retryDelaySeconds)) with
      | Except.error e =>
          if e.isLeaseConflict then
            Except.ok { leaseConflicts := 1 }
          else
            Except.ok { errors := 1 }
      | Except.ok result => Except.ok (InboxWorkerRunResult.ofResult claimed result) := by
  have htime : retryAvailableAt retryDelaySeconds o.now =
      Except.ok (o.now + timedelta retryDelaySeconds) := if_pos h
  unfold process
  rw [htime]
  rfl

theorem process_counted : (exists r, process retryDelaySeconds claimed o = Except.ok r ∧
    r.total = 1) ↔ RetryNameable retryDelaySeconds o := by
  constructor
  · rintro ⟨r, hr, _⟩
    by_contra htime
    have hraise : retryAvailableAt retryDelaySeconds o.now =
        Except.error InboxWorkerError.overflow := if_neg htime
    unfold process at hr
    rw [hraise] at hr
    cases hr
  · intro h
    rw [process_nameable h]
    cases finalizeWithLeaseRenewal claimed o.ticks
        (finalizerFor claimed o (o.now + timedelta retryDelaySeconds)) with
    | ok result => exact ⟨_, rfl, total_ofResult claimed result⟩
    | error e =>
        cases hlease : e.isLeaseConflict with
        | true => exact ⟨_, if_pos hlease, rfl⟩
        | false => exact ⟨_, if_neg (by simp [hlease]), rfl⟩

/-- The renewals went well, and the finalizer was still running after each of them. -/
def StillRunning (ticks : List InboxRenewalTick) : Prop :=
  forall tick, tick ∈ ticks -> tick.renewed = Except.ok true ∧ tick.completed = false

theorem awaitFinalizer_running {inboxId : UUID}
    {finalized : Except InboxWorkerError InboxFinalizationResult}
    {before : List InboxRenewalTick} (h : StillRunning before)
    (ticks : List InboxRenewalTick) :
    awaitFinalizer inboxId finalized (before ++ ticks) =
      awaitFinalizer inboxId finalized ticks := by
  induction before with
  | nil => rfl
  | cons tick rest ih =>
      rcases h tick List.mem_cons_self with ⟨hrenewed, hcompleted⟩
      rw [List.cons_append, awaitFinalizer, hrenewed, hcompleted]
      exact ih fun t ht => h t (List.mem_cons_of_mem tick ht)

/--
A renewal of the item reports false when the finalizer has completed with a result:
that result is the one that is counted.
-/
def CountsCompleted (retryDelaySeconds : Rat) (claimed : ClaimedInboxMessage)
    (o : InboxOutcomes) : Prop :=
  forall before tick after result, claimed.leaseId.isSome = true ->
    claimed.leaseOwner.isSome = true -> o.ticks = before ++ tick :: after ->
    StillRunning before -> tick.renewed = Except.ok false -> tick.completed = true ->
    finalizerFor claimed o (o.now + timedelta retryDelaySeconds) = Except.ok result ->
    process retryDelaySeconds claimed o =
      Except.ok (InboxWorkerRunResult.ofResult claimed result)

theorem counts_completed (h : RetryNameable retryDelaySeconds o) :
    CountsCompleted retryDelaySeconds claimed o := by
  intro before tick after result hid howner hticks hrunning hrenewed hcompleted hresult
  have hawait : finalizeWithLeaseRenewal claimed o.ticks (Except.ok result) =
      Except.ok result := by
    unfold finalizeWithLeaseRenewal
    rw [if_pos ⟨hid, howner⟩, hticks, awaitFinalizer_running hrunning, awaitFinalizer,
      hrenewed, hcompleted]
    rfl
  rw [process_nameable h, hresult, hawait]

end Item

theorem leaseConflicts_ofResult (claimed : ClaimedInboxMessage)
    (result : InboxFinalizationResult) :
    (InboxWorkerRunResult.ofResult claimed result).leaseConflicts = 0 := by
  unfold InboxWorkerRunResult.ofResult
  split
  · rfl
  · cases result.outcome <;> rfl

/-!
## The batch
-/

theorem total_foldl_merge (results : List InboxWorkerRunResult)
    (start : InboxWorkerRunResult) :
    (results.foldl InboxWorkerRunResult.merge start).total =
      start.total + (results.map InboxWorkerRunResult.total).sum := by
  induction results generalizing start with
  | nil => simp
  | cons r rest ih =>
      rw [List.foldl_cons, ih]
      simp only [InboxWorkerRunResult.merge, InboxWorkerRunResult.total, List.map_cons,
        List.sum_cons]
      omega

theorem claimed_foldl_merge (results : List InboxWorkerRunResult)
    (start : InboxWorkerRunResult) :
    (results.foldl InboxWorkerRunResult.merge start).claimed = start.claimed := by
  induction results generalizing start with
  | nil => rfl
  | cons r rest ih =>
      rw [List.foldl_cons, ih]
      rfl

theorem gatherValues_ok {ε α : Type} {results : List α} {order : List Nat}
    (horder : order.Perm (List.range results.length)) :
    gatherValues (results.map (Except.ok (ε := ε))) order = Except.ok results := by
  have hnone : (order.filterMap fun i => (results.map (Except.ok (ε := ε)))[i]?).findSome?
      errorOf = none := by
    rw [List.findSome?_eq_none_iff]
    intro outcome houtcome
    rcases List.mem_filterMap.mp houtcome with ⟨i, _, hi⟩
    rw [List.getElem?_map] at hi
    rcases Option.map_eq_some_iff.mp hi with ⟨r, _, rfl⟩
    rfl
  have hgather : gather (results.map (Except.ok (ε := ε))) order =
      (results.map Except.ok).map some :=
    gather_eq _ (by rw [List.length_map]; exact horder)
  unfold gatherValues
  rw [hnone]
  dsimp only
  rw [hgather, List.map_map]
  clear horder hnone hgather
  congr 1
  induction results with
  | nil => rfl
  | cons r rest ih =>
      rw [List.map_cons, List.filterMap_cons]
      exact congrArg (List.cons r) ih

theorem runOnce_results {retryDelaySeconds : Rat}
    {batch : List (ClaimedInboxMessage × InboxOutcomes)} {order : List Nat}
    {results : List InboxWorkerRunResult} (horder : order.Perm (List.range batch.length))
    (h : (batch.map fun x => process retryDelaySeconds x.1 x.2) = results.map Except.ok) :
    runOnce retryDelaySeconds batch order =
      Except.ok (results.foldl InboxWorkerRunResult.merge { claimed := batch.length }) := by
  have hlength : batch.length = results.length := by
    have hsame := congrArg List.length h
    rw [List.length_map, List.length_map] at hsame
    exact hsame
  unfold runOnce
  rw [h, gatherValues_ok (by rw [← hlength]; exact horder)]
  rfl

/-- Each result counts once. -/
def Single (results : List InboxWorkerRunResult) : Prop :=
  forall r, r ∈ results -> r.total = 1

theorem Single.sum {results : List InboxWorkerRunResult} (h : Single results) :
    (results.map InboxWorkerRunResult.total).sum = results.length := by
  induction results with
  | nil => rfl
  | cons r rest ih =>
      have hr : r.total = 1 := h r List.mem_cons_self
      have hrest := ih fun x hx => h x (List.mem_cons_of_mem r hx)
      rw [List.map_cons, List.sum_cons, List.length_cons, hr, hrest]
      omega

/--
The batch is accounted for: `run_once` returns, every item is counted in one place as
it would be on its own, the counters add up to the claimed items, and a result that is
there when a renewal reports false is the one counted, never as a lease conflict.
-/
structure Accounted (retryDelaySeconds : Rat)
    (batch : List (ClaimedInboxMessage × InboxOutcomes)) (order : List Nat) : Prop where
  returns : exists result results,
    runOnce retryDelaySeconds batch order = Except.ok result ∧
    result = results.foldl InboxWorkerRunResult.merge { claimed := batch.length } ∧
    (batch.map fun x => process retryDelaySeconds x.1 x.2) = results.map Except.ok ∧
    Single results ∧ result.claimed = batch.length ∧
    result.applied + result.duplicates + result.stale + result.retried + result.failed +
      result.leaseConflicts + result.errors = result.claimed
  completed : forall x, x ∈ batch -> CountsCompleted retryDelaySeconds x.1 x.2
  noConflict : forall x, x ∈ batch -> forall result,
    (InboxWorkerRunResult.ofResult x.1 result).leaseConflicts = 0

theorem results_of_nameable {retryDelaySeconds : Rat}
    {batch : List (ClaimedInboxMessage × InboxOutcomes)}
    (h : forall x, x ∈ batch -> RetryNameable retryDelaySeconds x.2) :
    exists results : List InboxWorkerRunResult,
      (batch.map fun x => process retryDelaySeconds x.1 x.2) = results.map Except.ok ∧
      Single results := by
  induction batch with
  | nil => exact ⟨[], rfl, fun r hr => (by cases hr)⟩
  | cons x rest ih =>
      have hcounted : exists r, process retryDelaySeconds x.1 x.2 = Except.ok r ∧
          r.total = 1 := process_counted.mpr (h x List.mem_cons_self)
      rcases hcounted with ⟨r, hr, hsingle⟩
      rcases ih fun y hy => h y (List.mem_cons_of_mem x hy) with ⟨results, hresults, hall⟩
      refine ⟨r :: results, ?_, ?_⟩
      · rw [List.map_cons, List.map_cons, hr, hresults]
      · intro y hy
        rcases List.mem_cons.mp hy with rfl | hy
        · exact hsingle
        · exact hall y hy

theorem nameable_of_accounted {retryDelaySeconds : Rat}
    {batch : List (ClaimedInboxMessage × InboxOutcomes)} {order : List Nat}
    (h : Accounted retryDelaySeconds batch order) :
    forall x, x ∈ batch -> RetryNameable retryDelaySeconds x.2 := by
  rcases h.returns with ⟨result, results, _, _, houtcomes, hsingle, _⟩
  intro x hx
  have hmem : process retryDelaySeconds x.1 x.2 ∈ results.map Except.ok := by
    rw [← houtcomes]
    exact List.mem_map_of_mem (f := fun x => process retryDelaySeconds x.1 x.2) hx
  rcases List.mem_map.mp hmem with ⟨r, hr, houtcome⟩
  exact process_counted.mp ⟨r, houtcome.symm, hsingle r hr⟩

end InboxWorker

open InboxWorker

/--
A batch of callbacks is accounted for, whatever its finalizers and renewals do and in
whatever order its tasks end, exactly when each task can name the time of a retry.
-/
theorem inbox_batch_accounted_iff (retryDelaySeconds : Rat)
    (batch : List (ClaimedInboxMessage × InboxOutcomes)) {order : List Nat}
    (horder : order.Perm (List.range batch.length)) :
    InboxWorker.Accounted retryDelaySeconds batch order ↔
      forall x, x ∈ batch -> RetryNameable retryDelaySeconds x.2 := by
  constructor
  · exact nameable_of_accounted
  · intro h
    rcases results_of_nameable h with ⟨results, houtcomes, hsingle⟩
    have hlength : results.length = batch.length := by
      have hsame := congrArg List.length houtcomes
      rw [List.length_map, List.length_map] at hsame
      exact hsame.symm
    have hclaimed := claimed_foldl_merge results { claimed := batch.length }
    have htotal := total_foldl_merge results { claimed := batch.length }
    rw [hsingle.sum, hlength] at htotal
    constructor
    · refine ⟨_, results, runOnce_results horder houtcomes, rfl, houtcomes, hsingle,
        hclaimed, ?_⟩
      rw [hclaimed]
      exact htotal.trans (Nat.zero_add batch.length)
    · exact fun x hx => counts_completed (h x hx)
    · exact fun x _ => leaseConflicts_ofResult x.1

/-- The finalizer commits while the renewal that follows reports false. -/
def sampleRaced : InboxOutcomes where
  now := 0
  ticks := [{ renewed := Except.ok false, completed := true }]
  finalizeOrderOperation := fun _ => Except.ok
    { outcome := InboxFinalizationOutcome.applied
      aggregateType := ProviderAggregateType.orderOperation }
  finalizeSupportCase := fun _ => Except.error InboxWorkerError.unexpected

theorem inbox_batch_accounted_iff_raced :
    InboxWorker.Accounted 5 [(sampleCallback, sampleRaced)] [0] := by
  apply (inbox_batch_accounted_iff 5 [(sampleCallback, sampleRaced)]
    (List.Perm.refl _)).mpr
  intro x hx
  rcases List.mem_singleton.mp hx with rfl
  show (0 : Time) + timedelta (5 : Int) ≤ latestTime
  rw [timedelta_whole]
  decide

/-- A delay that the worker accepts, and that takes every clock past the last time. -/
theorem inbox_batch_aborted : ¬forall (retryDelaySeconds : Rat)
    (batch : List (ClaimedInboxMessage × InboxOutcomes)) (order : List Nat),
    0 < retryDelaySeconds -> order.Perm (List.range batch.length) ->
    InboxWorker.Accounted retryDelaySeconds batch order := by
  intro h
  have haccounted := h 1000000000000 [(sampleCallback, sampleRaced)] [0] (by norm_num)
    (List.Perm.refl _)
  have htime : (0 : Time) + timedelta (1000000000000 : Int) ≤ latestTime :=
    nameable_of_accounted haccounted _ List.mem_cons_self
  rw [timedelta_whole] at htime
  revert htime
  decide

end RefundAgent
