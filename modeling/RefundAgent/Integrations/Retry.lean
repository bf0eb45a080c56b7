import RefundAgent.Model.Database

/-!
# Retry policy

Failure classification and the delay before the next delivery.  Seconds are
rational numbers: the checks for finite values have nothing to refuse here.
-/

namespace RefundAgent

open Foundation

def maxAttempts : Nat := 8

/-- The exceptions that reach the failure handler of the dispatch worker. -/
inductive DispatchError where
  | httpStatus (statusCode : Int) (retryAfterSeconds : Option Rat)
  | providerConnection
  | providerTimeout
  | providerRejection
  | providerConnectionNotFound
  | raised (failure : Failure)
  | unexpected
deriving DecidableEq, Repr

namespace DispatchError

def isValueError : DispatchError -> Bool
  | raised failure => failure.isValueError
  | _ => false

/-- `getattr(error, "retry_after_seconds", None)`. -/
def retryAfter : DispatchError -> Option Rat
  | httpStatus _ retryAfterSeconds => retryAfterSeconds
  | _ => none

def statusCode? : DispatchError -> Option Int
  | httpStatus statusCode _ => some statusCode
  | _ => none

end DispatchError

def retryableFailureKinds : List ProviderFailureKind :=
  [ProviderFailureKind.networkError, ProviderFailureKind.timeout,
    ProviderFailureKind.httpRetryable]

/-- `classify_http_status`; `none` is the `ValueError`. -/
def classifyHttpStatus (statusCode : Int) : Option ProviderFailureKind :=
  if statusCode = 408 ∨ statusCode = 429 ∨ (500 ≤ statusCode ∧ statusCode ≤ 599) then
    some ProviderFailureKind.httpRetryable
  else if 400 ≤ statusCode ∧ statusCode ≤ 499 then
    some ProviderFailureKind.httpClientError
  else
    none

/-- `classify_failure`; `none` is the `ValueError`. -/
def classifyFailure : DispatchError -> Option ProviderFailureKind
  | DispatchError.providerRejection => some ProviderFailureKind.providerRejection
  | DispatchError.providerTimeout => some ProviderFailureKind.timeout
  | DispatchError.providerConnection => some ProviderFailureKind.networkError
  | DispatchError.httpStatus statusCode _ => classifyHttpStatus statusCode
  | error =>
      if error.isValueError then some ProviderFailureKind.validationError else none

structure RetryParameters where
  baseDelaySeconds : Rat := 1
  backoffMultiplier : Rat := 2
  jitterSeconds : Rat := 0
  maxDelaySeconds : Option Rat := none
  randomSource : Option Rat := none

/-- `_validate_retry_parameters`. -/
def validateRetryParameters (attemptsSoFar : Int) (p : RetryParameters)
    (retryAfterSeconds : Option Rat) : Except Failure Unit :=
  if attemptsSoFar < 0 then
    Except.error (Failure.valueError "attempts_so_far must not be negative")
  else if p.baseDelaySeconds ≤ 0 then
    Except.error (Failure.valueError "base_delay_seconds must be positive")
  else if p.backoffMultiplier < 1 then
    Except.error (Failure.valueError "backoff_multiplier must be at least 1.0")
  else if p.jitterSeconds < 0 then
    Except.error (Failure.valueError "jitter_seconds must not be negative")
  else if p.maxDelaySeconds.any (fun m => decide (m ≤ 0)) = true then
    Except.error (Failure.valueError "max_delay_seconds must be positive when set")
  else if retryAfterSeconds.any (fun r => decide (r < 0)) = true then
    Except.error (Failure.valueError "retry_after_seconds must not be negative")
  else
    Except.ok ()

/-- `retry_delay_seconds`. -/
def retryDelaySeconds (attemptsSoFar : Int) (p : RetryParameters)
    (retryAfterSeconds : Option Rat) : Except Failure Rat := do
  validateRetryParameters attemptsSoFar p retryAfterSeconds
  let exponent := (max (attemptsSoFar - 1) 0).toNat
  let backoff := p.baseDelaySeconds * p.backoffMultiplier ^ exponent
  let jittered ←
    match p.randomSource with
    | some sample =>
        if 0 < p.jitterSeconds then
          if 0 ≤ sample ∧ sample < 1 then
            pure (backoff + p.jitterSeconds * sample)
          else
            Except.error
              (Failure.valueError "random_source must return values in [0, 1)")
        else
          pure backoff
    | none => pure backoff
  let capped := p.maxDelaySeconds.elim jittered (min jittered)
  pure (retryAfterSeconds.elim capped (max capped))

structure RetryDecision where
  retryable : Bool
  kind : ProviderFailureKind
  attemptsSoFar : Int
  maxAttempts : Int
  delaySeconds : Option Rat
  retryAfterSeconds : Option Rat
  exhausted : Bool
deriving DecidableEq, Repr

/-- `decide_retry`. -/
def decideRetry (kind : ProviderFailureKind) (attemptsSoFar : Int)
    (retryAfterSeconds : Option Rat) (p : RetryParameters := {})
    (limit : Int := maxAttempts) : Except Failure RetryDecision := do
  if attemptsSoFar < 0 then
    Except.error (Failure.valueError "attempts_so_far must not be negative")
  if limit < 1 then
    Except.error (Failure.valueError "max_attempts must be at least 1")
  validateRetryParameters attemptsSoFar p retryAfterSeconds
  let exhausted := decide (limit ≤ attemptsSoFar)
  let retryable := decide (kind ∈ retryableFailureKinds) && !exhausted
  let delay ←
    if retryable then
      some <$> retryDelaySeconds attemptsSoFar p retryAfterSeconds
    else
      pure none
  pure
    { retryable := retryable
      kind := kind
      attemptsSoFar := attemptsSoFar
      maxAttempts := limit
      delaySeconds := delay
      retryAfterSeconds := retryAfterSeconds
      exhausted := exhausted }

end RefundAgent
