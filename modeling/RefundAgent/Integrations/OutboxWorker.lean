import RefundAgent.Integrations.ConnectionResolver
import RefundAgent.Integrations.OutboxRepository
import RefundAgent.Integrations.Retry

/-!
# The dispatch worker

`outbox_worker.py`: one batch of claimed commands, each processed by a task of its
own.  Whatever a task awaits is given by its outcome: the lookup of the connection,
the request, the renewals of the lease while the request is on its way, the
finalizer and the repository.  The processing of an item is the list of the calls it
makes and the counter it ends with, or the exception that leaves it.
-/

namespace RefundAgent

open Foundation

/-!
## One item
-/

structure OutboxItem where
  claimed : ClaimedOutboxMessage
  valid : claimed.valid = true

/-- A renewal that is due before the request is done, and how it ends. -/
structure RenewalTick where
  renewed : Except DispatchError Bool
  /-- The request is done by the time the renewal ends. -/
  responded : Bool

/-- The constructor of `HTTPStatusError` refuses a negative delay. -/
def DispatchError.wellFormed (e : DispatchError) : Bool :=
  e.retryAfter.all fun r => decide (0 ≤ r)

def raisedBy {α : Type} : Except DispatchError α -> List DispatchError
  | Except.ok _ => []
  | Except.error e => [e]

structure DispatchOutcomes where
  lookup : Except DispatchError ProviderConnection
  ticks : List RenewalTick
  response : Except DispatchError ProviderCommandResult
  accepted : Except DispatchError Unit
  rejected : Except DispatchError Unit
  scheduled : Except DispatchError Unit
  terminal : Except DispatchError Unit
  now : Time
  wellFormed : forall e, e ∈ raisedBy lookup ++ ticks.flatMap (fun t => raisedBy t.renewed) ++
    raisedBy response ++ raisedBy accepted ++ raisedBy rejected -> e.wellFormed = true

/-- The arguments of `schedule_outbox_retry` that the worker computes. -/
structure ScheduledRetry where
  failureKind : ProviderFailureKind
  errorCode : String
  errorMessage : String
  retryAfterSeconds : Option Rat
  nextAvailableAt : Time
  httpStatus : Option Int
deriving DecidableEq

inductive WorkerCall where
  | resolveByConnectionId
  | sendCommand
  | responded (result : ProviderCommandResult)
  | renewOutboxLease
  | accepted (result : ProviderCommandResult)
  | rejected (result : ProviderCommandResult)
  | scheduleOutboxRetry (retry : ScheduledRetry)
  | terminalFailure (failureKind : ProviderFailureKind) (errorCode errorMessage : String)

structure WorkerRunResult where
  claimed : Nat := 0
  published : Nat := 0
  retried : Nat := 0
  dead : Nat := 0
  leaseConflicts : Nat := 0
  failed : Nat := 0
deriving DecidableEq, Repr

/-- The calls made, and the value or the exception at the end. -/
structure Traced (α : Type) where
  calls : List WorkerCall
  outcome : Except DispatchError α

namespace Traced

variable {α β : Type}

def raise (e : DispatchError) : Traced α :=
  { calls := [], outcome := Except.error e }

/-- One awaited call and its outcome. -/
def await (call : WorkerCall) (outcome : Except DispatchError α) : Traced α :=
  { calls := [call], outcome := outcome }

def bind (t : Traced α) (f : α -> Traced β) : Traced β :=
  match t.outcome with
  | Except.ok a => { calls := t.calls ++ (f a).calls, outcome := (f a).outcome }
  | Except.error e => { calls := t.calls, outcome := Except.error e }

/-- An exception handler. -/
def handle (t : Traced α) (f : DispatchError -> Traced α) : Traced α :=
  match t.outcome with
  | Except.ok a => { calls := t.calls, outcome := Except.ok a }
  | Except.error e => { calls := t.calls ++ (f e).calls, outcome := (f e).outcome }

def pure (a : α) : Traced α :=
  { calls := [], outcome := Except.ok a }

end Traced

namespace DispatchError

def isLeaseConflict : DispatchError -> Bool
  | raised (Failure.leaseConflict _) => true
  | _ => false

def isAttemptsExhausted : DispatchError -> Bool
  | raised (Failure.outboxAttemptsExhausted _) => true
  | _ => false

/-- `_safe_error`. -/
def safeError : DispatchError -> String × String
  | providerConnectionNotFound =>
      ("provider_connection_not_found", "Provider connection is unavailable.")
  | providerConnection => ("provider_connection_error", "Provider connection failed.")
  | providerTimeout => ("provider_timeout", "Provider request timed out.")
  | httpStatus statusCode _ =>
      ("provider_http_" ++ toString statusCode, "Provider returned an HTTP error.")
  | error =>
      if error.isValueError then
        ("provider_validation_error", "Provider command or response validation failed.")
      else
        ("unexpected_provider_error", "Provider command delivery failed unexpectedly.")

/-- The kind under which the worker files a failure. -/
def failureKind (e : DispatchError) : ProviderFailureKind :=
  (classifyFailure e).getD ProviderFailureKind.validationError

end DispatchError

/-- The last microsecond that a `datetime` can name. -/
def latestTime : Time := 253402300799999999

/--
`timedelta(seconds=s)`, in microseconds.  The whole seconds are exact; the rest is
multiplied as a double before it is rounded.
-/
def timedelta (s : Rat) : Time :=
  s.num.tdiv s.den * 1000000 +
    roundHalfEven (binary64 ((s - s.num.tdiv s.den) * 1000000))

theorem timedelta_whole (n : Int) : timedelta n = n * 1000000 := by
  have hround : roundHalfEven 0 = 0 := roundHalfEven_intCast 0
  unfold timedelta
  rw [Rat.num_intCast, Rat.den_intCast, Int.natCast_one, Int.tdiv_one, sub_self, zero_mul,
    binary64_zero, hround, add_zero]

-- the double just below 1.0016235, whose fraction becomes a tie when it is multiplied
example : timedelta (1127727805341383 / 1125899906842624) = 1001624 := by
  decide +kernel

/-- `clock() + timedelta(seconds=delay)`, which may overflow. -/
def timeAfter (now : Time) (delay : Rat) : Except DispatchError Time :=
  if now + timedelta delay ≤ latestTime then Except.ok (now + timedelta delay)
  else Except.error DispatchError.unexpected

section Processing

variable (item : OutboxItem) (o : DispatchOutcomes)

/-- The end of the request, noted when the transport has returned a result. -/
def requestDone : List WorkerCall :=
  match o.response with
  | Except.ok result => [WorkerCall.responded result]
  | Except.error _ => []

/-- `_send_with_lease_renewal`, from one wait to the next. -/
def sendWithLeaseRenewal : List RenewalTick -> Traced ProviderCommandResult
  | [] => { calls := requestDone o, outcome := o.response }
  | tick :: rest =>
      let done := if tick.responded then requestDone o else []
      match tick.renewed with
      | Except.error e =>
          { calls := WorkerCall.renewOutboxLease :: done, outcome := Except.error e }
      | Except.ok false =>
          { calls := WorkerCall.renewOutboxLease :: done
            outcome := Except.error
              (DispatchError.raised (Failure.leaseConflict item.claimed.commandId)) }
      | Except.ok true =>
          if tick.responded then
            { calls := WorkerCall.renewOutboxLease :: done, outcome := o.response }
          else
            { calls := WorkerCall.renewOutboxLease :: (sendWithLeaseRenewal rest).calls
              outcome := (sendWithLeaseRenewal rest).outcome }

/-- `to_envelope`, which validates the envelope again. -/
def toEnvelope : Except DispatchError ProviderCommandEnvelope :=
  if item.claimed.toProviderCommandEnvelope.valid then
    Except.ok item.claimed.toProviderCommandEnvelope
  else
    Except.error (DispatchError.raised (Failure.validationError "ProviderCommandEnvelope"))

/-- The check of the connection that the lookup has found. -/
def checkConnection (connection : ProviderConnection) : Except DispatchError Unit :=
  if ProviderConnectionResolver.matchesCommand connection item.claimed.connectionId
      item.claimed.tenantId item.claimed.providerCapability then
    Except.ok ()
  else
    Except.error (DispatchError.raised
      (Failure.valueError "provider connection did not match persisted command"))

/-- The finalizer is told what the provider has answered. -/
def recordResponse (response : ProviderCommandResult) : Traced WorkerRunResult :=
  if response.status = ProviderCommandAcceptanceStatus.accepted then
    (Traced.await (WorkerCall.accepted response) o.accepted).bind fun _ =>
      Traced.pure { published := 1 }
  else
    (Traced.await (WorkerCall.rejected response) o.rejected).bind fun _ =>
      Traced.pure { dead := 1 }

/-- The body of the `try` of `_process`. -/
def dispatch : Traced WorkerRunResult :=
  match toEnvelope item with
  | Except.error e => Traced.raise e
  | Except.ok _ =>
      (Traced.await WorkerCall.resolveByConnectionId o.lookup).bind fun connection =>
        match checkConnection item connection with
        | Except.error e => Traced.raise e
        | Except.ok _ =>
            (Traced.await WorkerCall.sendCommand (Except.ok ())).bind fun _ =>
              (sendWithLeaseRenewal item o o.ticks).bind (recordResponse o)

/-- The end of `_handle_failure`. -/
def recordTerminalFailure (error : DispatchError) : Traced WorkerRunResult :=
  let call := WorkerCall.terminalFailure error.failureKind error.safeError.1
    error.safeError.2
  match o.terminal with
  | Except.ok _ => Traced.await call (Except.ok { dead := 1 })
  | Except.error e =>
      if e.isLeaseConflict then Traced.await call (Except.ok { leaseConflicts := 1 })
      else Traced.await call (Except.ok { failed := 1 })

/-- The call of `schedule_outbox_retry` and its handlers. -/
def recordRetry (error : DispatchError) (retry : ScheduledRetry) :
    Traced WorkerRunResult :=
  (Traced.await (WorkerCall.scheduleOutboxRetry retry) o.scheduled).bind
    (fun _ => Traced.pure { retried := 1 }) |>.handle fun e =>
      if e.isAttemptsExhausted then recordTerminalFailure o error
      else if e.isLeaseConflict then Traced.pure { leaseConflicts := 1 }
      else Traced.raise e

/-- `_handle_failure`. -/
def handleFailure (error : DispatchError) : Traced WorkerRunResult :=
  match decideRetry error.failureKind item.claimed.attempt.attemptNumber error.retryAfter with
  | Except.error f => Traced.raise (DispatchError.raised f)
  | Except.ok decision =>
      match decision.retryable, decision.delaySeconds with
      | true, some delay =>
          match timeAfter o.now delay with
          | Except.error e => Traced.raise e
          | Except.ok nextAvailableAt =>
              recordRetry o error
                { failureKind := error.failureKind
                  errorCode := error.safeError.1
                  errorMessage := error.safeError.2
                  retryAfterSeconds := decision.retryAfterSeconds
                  nextAvailableAt := nextAvailableAt
                  httpStatus := error.statusCode? }
      | _, _ => recordTerminalFailure o error

/-- `_process`. -/
def process : Traced WorkerRunResult :=
  (dispatch item o).handle fun e =>
    if e.isLeaseConflict then Traced.pure { leaseConflicts := 1 } else handleFailure item o e

end Processing

/-!
## A batch
-/

/-- `_merge`. -/
def WorkerRunResult.merge (left right : WorkerRunResult) : WorkerRunResult :=
  { claimed := left.claimed
    published := left.published + right.published
    retried := left.retried + right.retried
    dead := left.dead + right.dead
    leaseConflicts := left.leaseConflicts + right.leaseConflicts
    failed := left.failed + right.failed }

/--
`asyncio.gather` with `return_exceptions`: the tasks end in the given order, each
outcome goes to the place of its task.
-/
def gather {α : Type} (outcomes : List α) (order : List Nat) : List (Option α) :=
  order.foldl (fun slots i => slots.set i outcomes[i]?)
    (List.replicate outcomes.length none)

/-- The loop of `_gather_batch` over the gathered outcomes; the first exception is raised. -/
def collect : List (Option (Except DispatchError WorkerRunResult)) ->
    Except DispatchError (List WorkerRunResult)
  | [] => Except.ok []
  | some (Except.error e) :: _ => Except.error e
  | some (Except.ok result) :: rest => (collect rest).map fun results => result :: results
  | none :: rest => collect rest

/-- `run_once` on the claimed batch, whose tasks end in the given order. -/
def runOnce (batch : List (OutboxItem × DispatchOutcomes)) (order : List Nat) :
    Except DispatchError WorkerRunResult :=
  let outcomes := batch.map fun x => (process x.1 x.2).outcome
  (collect (gather outcomes order)).map fun results =>
    results.foldl WorkerRunResult.merge { claimed := batch.length }

end RefundAgent
