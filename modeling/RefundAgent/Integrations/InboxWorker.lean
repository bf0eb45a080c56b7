import RefundAgent.Integrations.InboxFinalizer
import RefundAgent.Integrations.OutboxWorker

/-!
# The inbox worker

`inbox_worker.py`: one batch of claimed callbacks, each processed by a task of its
own.  A task races its finalizer against a timer; whenever the timer is first, the
lease is renewed, and the finalizer may complete while the renewal is on its way.
-/

namespace RefundAgent

open Foundation

/-- The ordinary exceptions that a task of the inbox worker meets. -/
inductive InboxWorkerError where
  | raised (failure : Failure)
  | overflow
  | unexpected
deriving DecidableEq, Repr

def InboxWorkerError.isLeaseConflict : InboxWorkerError -> Bool
  | raised (Failure.leaseConflict _) => true
  | _ => false

/-- The timer has run before the finalizer has completed; how the renewal then ends. -/
structure InboxRenewalTick where
  renewed : Except InboxWorkerError Bool
  /-- The finalizer has completed by the time the renewal ends. -/
  completed : Bool

/-- What the processing of one item meets; the finalizers are told when to retry. -/
structure InboxOutcomes where
  now : Time
  ticks : List InboxRenewalTick
  finalizeOrderOperation : Time -> Except InboxWorkerError InboxFinalizationResult
  finalizeSupportCase : Time -> Except InboxWorkerError InboxFinalizationResult

structure InboxWorkerRunResult where
  claimed : Nat := 0
  applied : Nat := 0
  duplicates : Nat := 0
  stale : Nat := 0
  retried : Nat := 0
  failed : Nat := 0
  leaseConflicts : Nat := 0
  errors : Nat := 0
deriving DecidableEq, Repr

namespace InboxWorkerRunResult

/-- `_result_counter`; every action has a counter. -/
def ofResult (claimed : ClaimedInboxMessage) (result : InboxFinalizationResult) :
    InboxWorkerRunResult :=
  if result.aggregateType ≠ claimed.aggregateType then
    { errors := 1 }
  else
    match result.outcome with
    | InboxFinalizationOutcome.applied => { applied := 1 }
    | InboxFinalizationOutcome.duplicate => { duplicates := 1 }
    | InboxFinalizationOutcome.stale => { stale := 1 }
    | InboxFinalizationOutcome.retryScheduled => { retried := 1 }
    | InboxFinalizationOutcome.failed => { failed := 1 }

/-- `_merge`. -/
def merge (left right : InboxWorkerRunResult) : InboxWorkerRunResult :=
  { claimed := left.claimed
    applied := left.applied + right.applied
    duplicates := left.duplicates + right.duplicates
    stale := left.stale + right.stale
    retried := left.retried + right.retried
    failed := left.failed + right.failed
    leaseConflicts := left.leaseConflicts + right.leaseConflicts
    errors := left.errors + right.errors }

/-- The sum of the counters. -/
def total (r : InboxWorkerRunResult) : Nat :=
  r.applied + r.duplicates + r.stale + r.retried + r.failed + r.leaseConflicts + r.errors

end InboxWorkerRunResult

namespace InboxWorker

/-- `clock() + timedelta(seconds=retry_delay_seconds)`, which may overflow. -/
def retryAvailableAt (retryDelaySeconds : Rat) (now : Time) : Except InboxWorkerError Time :=
  if now + timedelta retryDelaySeconds ≤ latestTime then
    Except.ok (now + timedelta retryDelaySeconds)
  else
    Except.error InboxWorkerError.overflow

/-- The loop of `_finalize_with_lease_renewal`, from one wait to the next. -/
def awaitFinalizer (inboxId : UUID)
    (finalized : Except InboxWorkerError InboxFinalizationResult) :
    List InboxRenewalTick -> Except InboxWorkerError InboxFinalizationResult
  | [] => finalized
  | tick :: rest =>
      match tick.renewed with
      | Except.error e => Except.error e
      | Except.ok false =>
          -- the finalizer may have committed and cleared the lease meanwhile
          if tick.completed then finalized
          else Except.error (InboxWorkerError.raised (Failure.leaseConflict inboxId))
      | Except.ok true =>
          if tick.completed then finalized else awaitFinalizer inboxId finalized rest

/-- `_finalize_with_lease_renewal`. -/
def finalizeWithLeaseRenewal (claimed : ClaimedInboxMessage) (ticks : List InboxRenewalTick)
    (finalized : Except InboxWorkerError InboxFinalizationResult) :
    Except InboxWorkerError InboxFinalizationResult :=
  if claimed.leaseId.isSome ∧ claimed.leaseOwner.isSome then
    awaitFinalizer claimed.inboxId finalized ticks
  else
    Except.error (InboxWorkerError.raised (Failure.assertionError ""))

/-- The finalizer of the aggregate, told when to retry. -/
def finalizerFor (claimed : ClaimedInboxMessage) (o : InboxOutcomes) (retryAt : Time) :
    Except InboxWorkerError InboxFinalizationResult :=
  if claimed.aggregateType = ProviderAggregateType.orderOperation then
    o.finalizeOrderOperation retryAt
  else
    o.finalizeSupportCase retryAt

/-- `_process`; the time of a retry is computed before the `try`. -/
def process (retryDelaySeconds : Rat) (claimed : ClaimedInboxMessage) (o : InboxOutcomes) :
    Except InboxWorkerError InboxWorkerRunResult := do
  let retryAt ← retryAvailableAt retryDelaySeconds o.now
  match finalizeWithLeaseRenewal claimed o.ticks (finalizerFor claimed o retryAt) with
  | Except.error e =>
      if e.isLeaseConflict then
        Except.ok { leaseConflicts := 1 }
      else
        Except.ok { errors := 1 }
  | Except.ok result => Except.ok (InboxWorkerRunResult.ofResult claimed result)

/-- The exception of an outcome. -/
def errorOf {ε α : Type} : Except ε α -> Option ε
  | Except.error e => some e
  | Except.ok _ => none

/-- The value of an outcome. -/
def valueOf {ε α : Type} : Except ε α -> Option α
  | Except.error _ => none
  | Except.ok a => some a

/--
`asyncio.gather` without `return_exceptions`, for tasks that end in the given order:
the first exception is raised, else each value goes to the place of its task.
-/
def gatherValues {ε α : Type} (outcomes : List (Except ε α)) (order : List Nat) :
    Except ε (List α) :=
  match (order.filterMap fun i => outcomes[i]?).findSome? errorOf with
  | some e => Except.error e
  | none => Except.ok ((gather outcomes order).filterMap fun slot => slot.bind valueOf)

/-- `run_once` on the claimed batch, whose tasks end in the given order. -/
def runOnce (retryDelaySeconds : Rat) (batch : List (ClaimedInboxMessage × InboxOutcomes))
    (order : List Nat) : Except InboxWorkerError InboxWorkerRunResult :=
  (gatherValues (batch.map fun x => process retryDelaySeconds x.1 x.2) order).map
    fun results => results.foldl InboxWorkerRunResult.merge { claimed := batch.length }

end InboxWorker

end RefundAgent
