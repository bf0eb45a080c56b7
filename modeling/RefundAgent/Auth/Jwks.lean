import RefundAgent.Foundation.Dict
import RefundAgent.Foundation.JsonTree
import RefundAgent.Foundation.Text

/-!
# The cache of signing keys

`auth/jwks.py`: the parser of a key set, the cache, and its calls.  A call runs
without interruption up to the next point where it awaits: the refresh lock, or
the fetch of the key set.  A step of the machine below is one such stretch of one
call, with the readings of the clock that it makes.
-/

namespace RefundAgent

open Foundation

/-- What the cache is configured with; `fromDict` stands for `PyJWK.from_dict`. -/
structure JwksPolicy (κ : Type) where
  allowedAlgorithms : List String
  ttlSeconds : Nat
  fromDict : List (String × JsonTree) -> Option κ
  algorithmName : κ -> String

/-!
## The key set
-/

section Parser

variable {κ : Type} (policy : JwksPolicy κ)

/-- The key may be used for signatures. -/
def signingUse (rawKey : List (String × JsonTree)) : Bool :=
  match JsonTree.field rawKey "use" with
  | none => true
  | some use => use.isText "sig"

/-- The listed operations, if any, include the verification. -/
def verifies (rawKey : List (String × JsonTree)) : Bool :=
  match JsonTree.field rawKey "key_ops" with
  | none => true
  | some JsonTree.null => true
  | some (JsonTree.array operations) => operations.any (JsonTree.isText "verify")
  | some _ => false

/-- The declared algorithm; a value that cannot be hashed is an error. -/
def declaredAllowed (rawKey : List (String × JsonTree)) : Option Bool :=
  match JsonTree.field rawKey "alg" with
  | none => some true
  | some JsonTree.null => some true
  | some (JsonTree.string algorithm) =>
      some (decide (algorithm ∈ policy.allowedAlgorithms))
  | some (JsonTree.array _) => none
  | some (JsonTree.object _) => none
  | some _ => some false

/-- The key itself, kept if its algorithm is allowed. -/
def keepKey (parsed : Dict String κ) (kid : String)
    (rawKey : List (String × JsonTree)) : Option (Dict String κ) :=
  match policy.fromDict rawKey with
  | none => none
  | some key =>
      if policy.algorithmName key ∈ policy.allowedAlgorithms then some (parsed.set kid key)
      else some parsed

/-- The body of the loop of `_parse_signing_keys`. -/
def parseSigningKey (parsed : Dict String κ) (rawKey : JsonTree) :
    Option (Dict String κ) :=
  match rawKey with
  | JsonTree.object fields =>
      match JsonTree.field fields "kid" with
      | some (JsonTree.string kid) =>
          if Text.strip kid = "" ∨ 256 < kid.length then none
          else if (parsed.get (Text.strip kid)).isSome then none
          else if signingUse fields = false then some parsed
          else if verifies fields = false then some parsed
          else
            match declaredAllowed policy fields with
            | none => none
            | some false => some parsed
            | some true => keepKey policy parsed (Text.strip kid) fields
      | _ => none
  | _ => none

/-- `_parse_signing_keys`; nothing stands for a key set that is refused. -/
def parseSigningKeys (payload : JsonTree) : Option (Dict String κ) :=
  match payload with
  | JsonTree.object fields =>
      match JsonTree.field fields "keys" with
      | some (JsonTree.array rawKeys) =>
          if rawKeys = [] ∨ 32 < rawKeys.length then none
          else
            match rawKeys.foldlM (parseSigningKey policy) [] with
            | some [] => none
            | other => other
      | _ => none
  | _ => none

end Parser

/-!
## The cache
-/

structure JwksCache (κ : Type) where
  keys : Dict String κ
  expiresAt : Rat
  generation : Nat
  lastRefreshFailed : Bool

inductive JwksError where
  | invalidIdentifier
  | unknownSigningKey
  | infrastructureUnavailable
deriving DecidableEq, Repr

/-- A call of `get_signing_key` or `refresh`, by the point it has reached. -/
inductive JwksCall (κ : Type) where
  | idle
  | waiting (kid : String) (observedGeneration : Nat)
  | fetching (kid : String) (observedGeneration : Nat)
  | waitingRefresh
  | fetchingRefresh
  | returned (key : κ)
  | refreshed
  | raised (error : JwksError)
  | cancelled
deriving DecidableEq

namespace JwksCache

variable {κ : Type}

def empty : JwksCache κ :=
  { keys := [], expiresAt := 0, generation := 0, lastRefreshFailed := false }

/-- The cached key, unless the set has expired. -/
def cached (c : JwksCache κ) (kid : String) (now : Rat) : Option κ :=
  match c.keys.get kid with
  | some key => if now < c.expiresAt then some key else none
  | none => none

/-- The end of `get_signing_key`, after the refresh. -/
def conclude (c : JwksCache κ) (kid : String) (now : Rat) : JwksCall κ :=
  match c.keys.get kid with
  | none => JwksCall.raised JwksError.unknownSigningKey
  | some key =>
      if c.expiresAt ≤ now then JwksCall.raised JwksError.infrastructureUnavailable
      else JwksCall.returned key

/-- `_refresh_locked` once the key set has been fetched, or has not. -/
def refresh (policy : JwksPolicy κ) (c : JwksCache κ) (keys : Option (Dict String κ))
    (now : Rat) : JwksCache κ :=
  match keys with
  | none => { c with generation := c.generation + 1, lastRefreshFailed := true }
  | some keys =>
      { keys := keys
        expiresAt := now + policy.ttlSeconds
        generation := c.generation + 1
        lastRefreshFailed := false }

end JwksCache

/-!
## The calls
-/

/-- One stretch of a call, with the readings of the clock that it makes. -/
inductive JwksEvent where
  | getSigningKey (i : Nat) (kid : String) (now : Rat)
  | refresh (i : Nat)
  | acquire (i : Nat) (now later : Rat)
  | fetched (i : Nat) (payload : Option JsonTree) (now later : Rat)
  | cancel (i : Nat)

structure JwksWorld (κ : Type) where
  cache : JwksCache κ
  lock : Option Nat
  calls : Nat -> JwksCall κ
  now : Rat

namespace JwksWorld

variable {κ : Type} (policy : JwksPolicy κ)

def initial (now : Rat) : JwksWorld κ :=
  { cache := JwksCache.empty, lock := none, calls := fun _ => JwksCall.idle, now := now }

def put (w : JwksWorld κ) (i : Nat) (c : JwksCall κ) : JwksWorld κ :=
  { w with calls := Function.update w.calls i c }

/-- `get_signing_key` up to the lock. -/
def beginKey (w : JwksWorld κ) (i : Nat) (kid : String) : JwksWorld κ :=
  if Text.strip kid = "" ∨ 256 < kid.length then
    w.put i (JwksCall.raised JwksError.invalidIdentifier)
  else
    match w.cache.cached (Text.strip kid) w.now with
    | some key => w.put i (JwksCall.returned key)
    | none => w.put i (JwksCall.waiting (Text.strip kid) w.cache.generation)

/-- `get_signing_key` from the lock to the fetch, or to its end. -/
def enterKey (w : JwksWorld κ) (i : Nat) (kid : String) (observedGeneration : Nat)
    (later : Rat) : JwksWorld κ :=
  match w.cache.cached kid w.now with
  | some key => w.put i (JwksCall.returned key)
  | none =>
      if w.cache.generation = observedGeneration then
        { w with lock := some i }.put i (JwksCall.fetching kid observedGeneration)
      else if w.cache.lastRefreshFailed then
        w.put i (JwksCall.raised JwksError.infrastructureUnavailable)
      else
        { w with now := later }.put i (w.cache.conclude kid later)

/-- The key set of a payload, if it has been fetched and is not refused. -/
def fetchedKeys (payload : Option JsonTree) : Option (Dict String κ) :=
  payload.bind (parseSigningKeys policy)

/-- A call after its refresh, from the end of the fetch to the end of the call. -/
def leave (w : JwksWorld κ) (i : Nat) (keys : Option (Dict String κ)) (now later : Rat)
    (result : JwksCache κ -> JwksCall κ) : JwksWorld κ :=
  let cache := w.cache.refresh policy keys now
  match keys with
  | none =>
      { w with cache := cache, lock := none, now := now }.put i
        (JwksCall.raised JwksError.infrastructureUnavailable)
  | some _ => { w with cache := cache, lock := none, now := later }.put i (result cache)

/-- One step of the calls; the clock never goes back. -/
def step (w : JwksWorld κ) : JwksEvent -> Option (JwksWorld κ)
  | JwksEvent.getSigningKey i kid now =>
      match w.calls i with
      | JwksCall.idle => if w.now ≤ now then some ({ w with now := now }.beginKey i kid) else none
      | _ => none
  | JwksEvent.refresh i =>
      match w.calls i with
      | JwksCall.idle => some (w.put i JwksCall.waitingRefresh)
      | _ => none
  | JwksEvent.acquire i now later =>
      if w.lock = none ∧ w.now ≤ now ∧ now ≤ later then
        match w.calls i with
        | JwksCall.waiting kid observed =>
            some ({ w with now := now }.enterKey i kid observed later)
        | JwksCall.waitingRefresh =>
            some ({ w with lock := some i }.put i JwksCall.fetchingRefresh)
        | _ => none
      else none
  | JwksEvent.fetched i payload now later =>
      if w.lock = some i ∧ w.now ≤ now ∧ now ≤ later then
        match w.calls i with
        | JwksCall.fetching kid _ =>
            some (w.leave policy i (fetchedKeys policy payload) now later
              fun cache => cache.conclude kid later)
        | JwksCall.fetchingRefresh =>
            some (w.leave policy i (fetchedKeys policy payload) now later
              fun _ => JwksCall.refreshed)
        | _ => none
      else none
  | JwksEvent.cancel i =>
      match w.calls i with
      | JwksCall.waiting _ _ => some (w.put i JwksCall.cancelled)
      | JwksCall.waitingRefresh => some (w.put i JwksCall.cancelled)
      | JwksCall.fetching _ _ => some ({ w with lock := none }.put i JwksCall.cancelled)
      | JwksCall.fetchingRefresh => some ({ w with lock := none }.put i JwksCall.cancelled)
      | _ => none

def Step (w : JwksWorld κ) (e : JwksEvent) (w' : JwksWorld κ) : Prop :=
  w.step policy e = some w'

end JwksWorld
end RefundAgent
