import RefundAgent.Auth.Jwks
import RefundAgent.Foundation.Run

/-!
# Runs of the signing key cache

Whatever the schedule of the calls, the outcomes of the fetches and the readings of
the clock: a returned key is in the set of the latest refresh, which has not
expired, and calls that have seen one generation complete one refresh at most.
-/

namespace RefundAgent

open Foundation

namespace JwksWorld

variable {κ : Type} {policy : JwksPolicy κ} {w w' : JwksWorld κ} {e : JwksEvent}

/-!
## The turns of a call
-/

inductive Turn (policy : JwksPolicy κ) (w : JwksWorld κ) :
    JwksEvent -> JwksWorld κ -> Prop
  | refused {i : Nat} {kid : String} {now : Rat} (idle : w.calls i = JwksCall.idle) :
      Turn policy w (JwksEvent.getSigningKey i kid now)
        ({ w with now := now }.put i (JwksCall.raised JwksError.invalidIdentifier))
  | served {i : Nat} {kid : String} {now : Rat} {key : κ}
      (idle : w.calls i = JwksCall.idle)
      (hit : w.cache.cached (Text.strip kid) now = some key) :
      Turn policy w (JwksEvent.getSigningKey i kid now)
        ({ w with now := now }.put i (JwksCall.returned key))
  | queued {i : Nat} {kid : String} {now : Rat} (idle : w.calls i = JwksCall.idle) :
      Turn policy w (JwksEvent.getSigningKey i kid now)
        ({ w with now := now }.put i
          (JwksCall.waiting (Text.strip kid) w.cache.generation))
  | queuedRefresh {i : Nat} (idle : w.calls i = JwksCall.idle) :
      Turn policy w (JwksEvent.refresh i) (w.put i JwksCall.waitingRefresh)
  | found {i observed : Nat} {now later : Rat} {kid : String} {key : κ}
      (waiting : w.calls i = JwksCall.waiting kid observed)
      (hit : w.cache.cached kid now = some key) :
      Turn policy w (JwksEvent.acquire i now later)
        ({ w with now := now }.put i (JwksCall.returned key))
  | fetch {i observed : Nat} {now later : Rat} {kid : String} (free : w.lock = none)
      (waiting : w.calls i = JwksCall.waiting kid observed)
      (same : w.cache.generation = observed) :
      Turn policy w (JwksEvent.acquire i now later)
        ({ w with now := now, lock := some i }.put i (JwksCall.fetching kid observed))
  | failed {i observed : Nat} {now later : Rat} {kid : String}
      (waiting : w.calls i = JwksCall.waiting kid observed) :
      Turn policy w (JwksEvent.acquire i now later)
        ({ w with now := now }.put i
          (JwksCall.raised JwksError.infrastructureUnavailable))
  | concluded {i observed : Nat} {now later : Rat} {kid : String}
      (waiting : w.calls i = JwksCall.waiting kid observed) :
      Turn policy w (JwksEvent.acquire i now later)
        ({ w with now := later }.put i (w.cache.conclude kid later))
  | fetchRefresh {i : Nat} {now later : Rat} (free : w.lock = none)
      (waiting : w.calls i = JwksCall.waitingRefresh) :
      Turn policy w (JwksEvent.acquire i now later)
        ({ w with lock := some i }.put i JwksCall.fetchingRefresh)
  | left {i observed : Nat} {payload : Option JsonTree} {now later : Rat} {kid : String}
      (held : w.lock = some i) (fetching : w.calls i = JwksCall.fetching kid observed) :
      Turn policy w (JwksEvent.fetched i payload now later)
        (w.leave policy i (fetchedKeys policy payload) now later
          fun cache => cache.conclude kid later)
  | leftRefresh {i : Nat} {payload : Option JsonTree} {now later : Rat}
      (held : w.lock = some i) (fetching : w.calls i = JwksCall.fetchingRefresh) :
      Turn policy w (JwksEvent.fetched i payload now later)
        (w.leave policy i (fetchedKeys policy payload) now later
          fun _ => JwksCall.refreshed)
  | cancelled {i : Nat} (h : (exists kid observed,
        w.calls i = JwksCall.waiting kid observed) ∨
        w.calls i = JwksCall.waitingRefresh) :
      Turn policy w (JwksEvent.cancel i) (w.put i JwksCall.cancelled)
  | abandoned {i : Nat} (h : (exists kid observed,
        w.calls i = JwksCall.fetching kid observed) ∨
        w.calls i = JwksCall.fetchingRefresh) :
      Turn policy w (JwksEvent.cancel i)
        ({ w with lock := none }.put i JwksCall.cancelled)

theorem beginKey_turn {i : Nat} {kid : String} {now : Rat}
    (idle : w.calls i = JwksCall.idle) :
    Turn policy w (JwksEvent.getSigningKey i kid now)
      ({ w with now := now }.beginKey i kid) := by
  unfold beginKey
  split
  · exact Turn.refused idle
  · split
    · rename_i hit
      exact Turn.served idle hit
    · exact Turn.queued idle

theorem enterKey_turn {i observed : Nat} {kid : String} {now later : Rat}
    (free : w.lock = none) (waiting : w.calls i = JwksCall.waiting kid observed) :
    Turn policy w (JwksEvent.acquire i now later)
      ({ w with now := now }.enterKey i kid observed later) := by
  unfold enterKey
  split
  · rename_i hit
    exact Turn.found waiting hit
  · split
    · rename_i same
      exact Turn.fetch free waiting same
    · split
      · exact Turn.failed waiting
      · exact Turn.concluded waiting

theorem Step.turn (h : Step policy w e w') : Turn policy w e w' := by
  unfold Step at h
  cases e with
  | getSigningKey i kid now =>
      simp only [step] at h
      split at h
      · rename_i idle
        split at h
        · cases h
          exact beginKey_turn idle
        · cases h
      · cases h
  | refresh i =>
      simp only [step] at h
      split at h
      · rename_i idle
        cases h
        exact Turn.queuedRefresh idle
      · cases h
  | acquire i now later =>
      simp only [step] at h
      split at h
      · rename_i hready
        split at h
        · rename_i waiting
          cases h
          exact enterKey_turn hready.left waiting
        · rename_i waiting
          cases h
          exact Turn.fetchRefresh hready.left waiting
        · cases h
      · cases h
  | fetched i payload now later =>
      simp only [step] at h
      split at h
      · rename_i hready
        split at h
        · rename_i fetching
          cases h
          exact Turn.left hready.left fetching
        · rename_i fetching
          cases h
          exact Turn.leftRefresh hready.left fetching
        · cases h
      · cases h
  | cancel i =>
      simp only [step] at h
      split at h
      · rename_i waiting
        cases h
        exact Turn.cancelled (Or.inl ⟨_, _, waiting⟩)
      · rename_i waiting
        cases h
        exact Turn.cancelled (Or.inr waiting)
      · rename_i fetching
        cases h
        exact Turn.abandoned (Or.inl ⟨_, _, fetching⟩)
      · rename_i fetching
        cases h
        exact Turn.abandoned (Or.inr fetching)
      · cases h

/-!
## What a turn changes
-/

@[simp] theorem put_calls_self (i : Nat) (c : JwksCall κ) : (w.put i c).calls i = c := by
  simp [put]

theorem put_calls_ne {i j : Nat} (hj : j ≠ i) (c : JwksCall κ) :
    (w.put i c).calls j = w.calls j := by
  simp [put, hj]

section Leave

variable {i : Nat} {keys : Option (Dict String κ)} {now later : Rat}
  {result : JwksCache κ -> JwksCall κ}

@[simp] theorem leave_cache : (w.leave policy i keys now later result).cache =
    w.cache.refresh policy keys now := by
  cases keys with
  | none => rfl
  | some keys => rfl

theorem leave_calls_self : (w.leave policy i keys now later result).calls i =
      JwksCall.raised JwksError.infrastructureUnavailable ∨
    (w.leave policy i keys now later result).calls i =
      result (w.cache.refresh policy keys now) ∧
      (w.leave policy i keys now later result).now = later := by
  cases keys with
  | none => exact Or.inl (put_calls_self i _)
  | some keys => exact Or.inr ⟨put_calls_self i _, rfl⟩

theorem leave_calls_ne {j : Nat} (hj : j ≠ i) :
    (w.leave policy i keys now later result).calls j = w.calls j := by
  cases keys with
  | none => exact put_calls_ne hj _
  | some keys => exact put_calls_ne hj _

end Leave

@[simp] theorem refresh_generation (c : JwksCache κ) (keys : Option (Dict String κ))
    (now : Rat) : (c.refresh policy keys now).generation = c.generation + 1 := by
  cases keys with
  | none => rfl
  | some keys => rfl

end JwksWorld

/-- Neither new nor waiting for a key nor inside a fetch. -/
def JwksCall.settled {κ : Type} : JwksCall κ -> Bool
  | idle => false
  | waiting _ _ => false
  | fetching _ _ => false
  | fetchingRefresh => false
  | _ => true

/-- The call that a step is about. -/
def JwksEvent.actor : JwksEvent -> Nat
  | getSigningKey i _ _ => i
  | refresh i => i
  | acquire i _ _ => i
  | fetched i _ _ _ => i
  | cancel i => i

/-- The end of a fetch, whatever its outcome. -/
def JwksEvent.completes : JwksEvent -> Prop
  | fetched _ _ _ _ => True
  | _ => False

namespace JwksWorld

variable {κ : Type} {policy : JwksPolicy κ} {w w' : JwksWorld κ} {e : JwksEvent}

theorem Turn.others (h : Turn policy w e w') {j : Nat} (hj : j ≠ e.actor) :
    w'.calls j = w.calls j := by
  cases h with
  | left held fetching => exact leave_calls_ne hj
  | leftRefresh held fetching => exact leave_calls_ne hj
  | _ => exact put_calls_ne hj _

theorem Turn.cache_cases (h : Turn policy w e w') :
    (w'.cache = w.cache ∧ ¬e.completes) ∨ exists i payload now later,
      e = JwksEvent.fetched i payload now later ∧ w.lock = some i ∧
        w'.cache = w.cache.refresh policy (fetchedKeys policy payload) now := by
  cases h with
  | left held fetching => exact Or.inr ⟨_, _, _, _, rfl, held, leave_cache⟩
  | leftRefresh held fetching => exact Or.inr ⟨_, _, _, _, rfl, held, leave_cache⟩
  | _ => exact Or.inl ⟨rfl, id⟩

/-!
## One step
-/

/-- The calls that wait or fetch have seen a generation that fits. -/
structure Coherent (w : JwksWorld κ) : Prop where
  waiting : forall j kid observed, w.calls j = JwksCall.waiting kid observed ->
    observed ≤ w.cache.generation
  fetching : forall j kid observed, w.calls j = JwksCall.fetching kid observed ->
    observed = w.cache.generation ∧ w.lock = some j
  refreshing : forall j, w.calls j = JwksCall.fetchingRefresh -> w.lock = some j

theorem initial_coherent (now : Rat) : (initial now : JwksWorld κ).Coherent where
  waiting := fun _ _ _ h => (by cases h)
  fetching := fun _ _ _ h => (by cases h)
  refreshing := fun _ h => (by cases h)

/-- What a call was before, seen from a later state. -/
structure Follows (w w' : JwksWorld κ) : Prop where
  generation : w.cache.generation ≤ w'.cache.generation
  idle : forall j, w'.calls j = JwksCall.idle -> w.calls j = JwksCall.idle
  waiting : forall j kid observed, w'.calls j = JwksCall.waiting kid observed ->
    w.calls j = JwksCall.idle ∨ w.calls j = JwksCall.waiting kid observed

theorem Follows.refl (w : JwksWorld κ) : Follows w w :=
  ⟨Nat.le_refl _, fun _ h => h, fun _ _ _ h => Or.inr h⟩

theorem Follows.trans {a b c : JwksWorld κ} (h : Follows a b) (h' : Follows b c) :
    Follows a c where
  generation := Nat.le_trans h.generation h'.generation
  idle := fun j hj => h.idle j (h'.idle j hj)
  waiting := by
    intro j kid observed hj
    rcases h'.waiting j kid observed hj with hidle | hwaiting
    · exact Or.inl (h.idle j hidle)
    · exact h.waiting j kid observed hwaiting

theorem conclude_cases (c : JwksCache κ) (kid : String) (now : Rat) :
    (exists e, c.conclude kid now = JwksCall.raised e) ∨
      exists key, c.conclude kid now = JwksCall.returned key ∧
        c.keys.get kid = some key ∧ now < c.expiresAt := by
  unfold JwksCache.conclude
  split
  · exact Or.inl ⟨_, rfl⟩
  · rename_i key hkey
    split
    · exact Or.inl ⟨_, rfl⟩
    · exact Or.inr ⟨key, rfl, hkey, not_le.mp ‹_›⟩

theorem cached_eq_some {c : JwksCache κ} {kid : String} {now : Rat} {key : κ}
    (h : c.cached kid now = some key) : c.keys.get kid = some key ∧ now < c.expiresAt := by
  unfold JwksCache.cached at h
  split at h
  · rename_i hkey
    split at h
    · cases h
      exact ⟨hkey, ‹_›⟩
    · cases h
  · cases h

inductive Stands (w w' : JwksWorld κ) (i : Nat) : Prop
  | waiting {kid : String} (idle : w.calls i = JwksCall.idle)
      (after : w'.calls i = JwksCall.waiting kid w.cache.generation)
  | fetching {kid : String}
      (before : w.calls i = JwksCall.waiting kid w.cache.generation) (free : w.lock = none)
      (after : w'.calls i = JwksCall.fetching kid w.cache.generation)
      (held : w'.lock = some i) (same : w'.cache = w.cache)
  | refreshing (after : w'.calls i = JwksCall.fetchingRefresh) (held : w'.lock = some i)
  | settled (after : (w'.calls i).settled = true)

theorem conclude_settled (c : JwksCache κ) (kid : String) (now : Rat) :
    (c.conclude kid now).settled = true := by
  rcases conclude_cases c kid now with ⟨e, he⟩ | ⟨key, hkey, _⟩
  · rw [he]
    rfl
  · rw [hkey]
    rfl

theorem Stands.of_put {i : Nat} {c : JwksCall κ} {v : JwksWorld κ}
    (hc : c.settled = true) : Stands w (v.put i c) i := by
  refine Stands.settled ?_
  rw [put_calls_self]
  exact hc

theorem Stands.of_leave {i : Nat} {keys : Option (Dict String κ)} {now later : Rat}
    {result : JwksCache κ -> JwksCall κ}
    (hresult : forall c, (result c).settled = true) :
    Stands w (w.leave policy i keys now later result) i := by
  refine Stands.settled ?_
  rcases leave_calls_self with hraised | ⟨hafter, _⟩
  · rw [hraised]
    rfl
  · rw [hafter]
    exact hresult _

theorem Turn.stands (h : Turn policy w e w') : Stands w w' e.actor := by
  cases h with
  | queued idle => exact Stands.waiting idle (put_calls_self _ _)
  | fetch free waiting same =>
      cases same
      exact Stands.fetching waiting free (put_calls_self _ _) rfl rfl
  | concluded waiting => exact Stands.of_put (conclude_settled _ _ _)
  | fetchRefresh free waiting => exact Stands.refreshing (put_calls_self _ _) rfl
  | left held fetching => exact Stands.of_leave fun c => conclude_settled c _ _
  | leftRefresh held fetching => exact Stands.of_leave fun _ => rfl
  | _ => exact Stands.of_put rfl

theorem Turn.follows (h : Turn policy w e w') : Follows w w' := by
  refine ⟨?_, ?_, ?_⟩
  · rcases h.cache_cases with ⟨hsame, _⟩ | ⟨i, payload, now, later, _, _, hcache⟩
    · rw [hsame]
    · rw [hcache, refresh_generation]
      exact Nat.le_succ _
  · intro j hj
    by_cases hactor : j = e.actor
    · rw [hactor] at hj
      cases h.stands with
      | waiting idle after => exact hactor ▸ idle
      | fetching before free after held same => cases after.symm.trans hj
      | refreshing after held => cases after.symm.trans hj
      | settled after =>
          rw [hj] at after
          cases after
    · rw [← h.others hactor]
      exact hj
  · intro j kid observed hj
    by_cases hactor : j = e.actor
    · rw [hactor] at hj ⊢
      cases h.stands with
      | waiting idle after => exact Or.inl idle
      | fetching before free after held same => cases after.symm.trans hj
      | refreshing after held => cases after.symm.trans hj
      | settled after =>
          rw [hj] at after
          cases after
    · rw [← h.others hactor]
      exact Or.inr hj

theorem Turn.lock_kept (h : Turn policy w e w') (hw : w.Coherent) {j : Nat}
    (hj : j ≠ e.actor) (hlock : w.lock = some j) :
    w'.lock = some j ∧ w'.cache = w.cache := by
  cases h with
  | fetch free waiting same =>
      rw [free] at hlock
      cases hlock
  | fetchRefresh free waiting =>
      rw [free] at hlock
      cases hlock
  | left held fetching =>
      rw [held] at hlock
      exact absurd (Option.some.inj hlock).symm hj
  | leftRefresh held fetching =>
      rw [held] at hlock
      exact absurd (Option.some.inj hlock).symm hj
  | abandoned h =>
      rcases h with ⟨kid, observed, hfetching⟩ | hfetching
      · rw [(hw.fetching _ kid observed hfetching).right] at hlock
        exact absurd (Option.some.inj hlock).symm hj
      · rw [hw.refreshing _ hfetching] at hlock
        exact absurd (Option.some.inj hlock).symm hj
  | _ => exact ⟨hlock, rfl⟩

theorem Turn.coherent (h : Turn policy w e w') (hw : w.Coherent) : w'.Coherent := by
  have hgeneration := h.follows.generation
  refine ⟨?_, ?_, ?_⟩
  · intro j kid observed hj
    by_cases hactor : j = e.actor
    · rw [hactor] at hj
      cases h.stands with
      | waiting idle after =>
          cases after.symm.trans hj
          exact hgeneration
      | fetching before free after held same => cases after.symm.trans hj
      | refreshing after held => cases after.symm.trans hj
      | settled after =>
          rw [hj] at after
          cases after
    · rw [h.others hactor] at hj
      exact Nat.le_trans (hw.waiting j kid observed hj) hgeneration
  · intro j kid observed hj
    by_cases hactor : j = e.actor
    · rw [hactor] at hj ⊢
      cases h.stands with
      | waiting idle after => cases after.symm.trans hj
      | fetching before free after held same =>
          cases after.symm.trans hj
          rw [same]
          exact ⟨rfl, held⟩
      | refreshing after held => cases after.symm.trans hj
      | settled after =>
          rw [hj] at after
          cases after
    · rw [h.others hactor] at hj
      have hold := hw.fetching j kid observed hj
      have hkept := h.lock_kept hw hactor hold.right
      rw [hkept.right]
      exact ⟨hold.left, hkept.left⟩
  · intro j hj
    by_cases hactor : j = e.actor
    · rw [hactor] at hj ⊢
      cases h.stands with
      | waiting idle after => cases after.symm.trans hj
      | fetching before free after held same => cases after.symm.trans hj
      | refreshing after held => exact held
      | settled after =>
          rw [hj] at after
          cases after
    · rw [h.others hactor] at hj
      exact (h.lock_kept hw hactor (hw.refreshing j hj)).left

/-- The key that a call asks for, at its beginning or at a point where it waits. -/
def Asks (w : JwksWorld κ) (e : JwksEvent) (i : Nat) (kid : String) : Prop :=
  (exists text now, e = JwksEvent.getSigningKey i text now ∧ kid = Text.strip text) ∨
    (exists observed, w.calls i = JwksCall.waiting kid observed) ∨
    exists observed, w.calls i = JwksCall.fetching kid observed

theorem Turn.returned (h : Turn policy w e w') {key : κ}
    (hafter : w'.calls e.actor = JwksCall.returned key) :
    exists kid, Asks w e e.actor kid ∧ w'.cache.keys.get kid = some key ∧
      w'.now < w'.cache.expiresAt := by
  cases h with
  | @served i kid now k idle hit =>
      cases (put_calls_self _ _).symm.trans hafter
      exact ⟨_, Or.inl ⟨kid, now, rfl, rfl⟩, cached_eq_some hit⟩
  | @found i observed now later kid k waiting hit =>
      cases (put_calls_self _ _).symm.trans hafter
      exact ⟨_, Or.inr (Or.inl ⟨observed, waiting⟩), cached_eq_some hit⟩
  | @concluded i observed now later kid waiting =>
      have hend := (put_calls_self _ _).symm.trans hafter
      rcases conclude_cases w.cache kid later with ⟨x, hx⟩ | ⟨k, hk, hget, hnow⟩
      · cases hx.symm.trans hend
      · cases hk.symm.trans hend
        exact ⟨_, Or.inr (Or.inl ⟨observed, waiting⟩), hget, hnow⟩
  | @left i observed payload now later kid held fetching =>
      rcases leave_calls_self with hraised | ⟨hresult, hnow⟩
      · cases hraised.symm.trans hafter
      · have hend := hresult.symm.trans hafter
        rcases conclude_cases (w.cache.refresh policy (fetchedKeys policy payload) now) kid
          later with ⟨x, hx⟩ | ⟨k, hk, hget, hlt⟩
        · cases hx.symm.trans hend
        · cases hk.symm.trans hend
          refine ⟨_, Or.inr (Or.inr ⟨observed, fetching⟩), ?_, ?_⟩
          · rw [leave_cache]
            exact hget
          · rw [hnow, leave_cache]
            exact hlt
  | leftRefresh held fetching =>
      rcases leave_calls_self with hraised | ⟨hresult, _⟩
      · cases hraised.symm.trans hafter
      · cases hresult.symm.trans hafter
  | _ => cases (put_calls_self _ _).symm.trans hafter

theorem Turn.not_waiting (h : Turn policy w e w') (he : e.completes) {kid : String}
    {observed : Nat} : w.calls e.actor ≠ JwksCall.waiting kid observed := by
  intro hwaiting
  cases h with
  | left held fetching => cases fetching.symm.trans hwaiting
  | leftRefresh held fetching => cases fetching.symm.trans hwaiting
  | _ => exact he

/-!
## Whole runs
-/

/-- The key set of a successful refresh, and the time at which it expires. -/
def refreshed (policy : JwksPolicy κ) : JwksEvent -> Option (Dict String κ × Rat)
  | JwksEvent.fetched _ payload now _ =>
      (fetchedKeys policy payload).map fun keys => (keys, now + policy.ttlSeconds)
  | _ => none

/-- The most recent successful refresh of a run. -/
def latest (policy : JwksPolicy κ) (stages : List (Stage (JwksWorld κ) JwksEvent)) :
    Option (Dict String κ × Rat) :=
  stages.reverse.findSome? fun x => refreshed policy x.event

theorem latest_append (stages : List (Stage (JwksWorld κ) JwksEvent))
    (x : Stage (JwksWorld κ) JwksEvent) :
    latest policy (stages ++ [x]) = (refreshed policy x.event).or (latest policy stages) := by
  unfold latest
  rw [List.reverse_append, List.reverse_singleton, List.singleton_append,
    List.findSome?_cons]
  cases refreshed policy x.event with
  | none => rfl
  | some r => rfl

/-- The cache holds what the most recent refresh has brought. -/
def Current (policy : JwksPolicy κ) (past : List (Stage (JwksWorld κ) JwksEvent))
    (w : JwksWorld κ) : Prop :=
  match latest policy past with
  | some r => w.cache.keys = r.1 ∧ w.cache.expiresAt = r.2
  | none => w.cache.keys = []

/-- A step without a successful refresh changes neither the keys nor their expiry. -/
theorem Turn.unchanged (h : Turn policy w e w') (he : refreshed policy e = none) :
    w'.cache.keys = w.cache.keys ∧ w'.cache.expiresAt = w.cache.expiresAt := by
  rcases h.cache_cases with ⟨hsame, _⟩ | ⟨i, payload, now, later, rfl, _, hcache⟩
  · rw [hsame]
    exact ⟨rfl, rfl⟩
  · have hnone : fetchedKeys policy payload = none := Option.map_eq_none_iff.mp he
    rw [hcache, hnone]
    exact ⟨rfl, rfl⟩

theorem Turn.current {past : List (Stage (JwksWorld κ) JwksEvent)}
    (h : Turn policy w e w') (hw : Current policy past w) :
    Current policy (past ++ [⟨w, e, w'⟩]) w' := by
  unfold Current
  rw [latest_append]
  cases he : refreshed policy e with
  | none =>
      have hsame := h.unchanged he
      rw [Option.none_or, hsame.left, hsame.right]
      exact hw
  | some r =>
      rcases h.cache_cases with ⟨_, hno⟩ | ⟨i, payload, now, later, rfl, _, hcache⟩
      · cases e with
        | fetched i payload now later => exact absurd trivial hno
        | _ => cases he
      · rcases Option.map_eq_some_iff.mp he with ⟨keys, hkeys, rfl⟩
        rw [hcache, hkeys]
        exact ⟨rfl, rfl⟩

/-- The stage begins the fetch of a call for a key. -/
def Fetches (x : Stage (JwksWorld κ) JwksEvent) (i : Nat) : Prop :=
  x.event.actor = i ∧ exists kid observed, x.after.calls i = JwksCall.fetching kid observed

/-- The stage completes the refresh of a call for a key that saw the generation. -/
def Completes (x : Stage (JwksWorld κ) JwksEvent) (generation : Nat) : Prop :=
  x.event.completes ∧
    exists kid, x.before.calls x.event.actor = JwksCall.fetching kid generation

structure SafeRun (policy : JwksPolicy κ)
    (stages : List (Stage (JwksWorld κ) JwksEvent)) : Prop where
  returned : forall past x rest, stages = past ++ x :: rest ->
    forall i key, x.after.calls i = JwksCall.returned key ->
    x.before.calls i ≠ JwksCall.returned key ->
    exists kid keys expiresAt, Asks x.before x.event i kid ∧
      latest policy (past ++ [x]) = some (keys, expiresAt) ∧
      keys.get kid = some key ∧ x.after.now < expiresAt
  unchanged : forall x, x ∈ stages -> refreshed policy x.event = none ->
    x.after.cache.keys = x.before.cache.keys ∧
      x.after.cache.expiresAt = x.before.cache.expiresAt
  single : forall i, stages.Pairwise fun x y => Fetches x i -> ¬Fetches y i
  spared : forall i, stages.Pairwise fun x y =>
    (exists kid observed, x.before.calls i = JwksCall.waiting kid observed) ->
    x.event.completes -> ¬Fetches y i
  coalesced : forall generation, stages.Pairwise fun x y =>
    Completes x generation -> ¬Completes y generation

structure GoodTurn (policy : JwksPolicy κ) (x : Stage (JwksWorld κ) JwksEvent) :
    Prop where
  turn : Turn policy x.before x.event x.after
  before : x.before.Coherent

theorem GoodTurn.fetches {x : Stage (JwksWorld κ) JwksEvent} (h : GoodTurn policy x)
    {i : Nat} (hx : Fetches x i) : exists kid,
      x.before.calls i = JwksCall.waiting kid x.before.cache.generation := by
  rcases hx with ⟨rfl, kid, observed, hafter⟩
  cases h.turn.stands with
  | waiting idle after => cases after.symm.trans hafter
  | fetching before free after held same => exact ⟨_, before⟩
  | refreshing after held => cases after.symm.trans hafter
  | settled after =>
      rw [hafter] at after
      cases after

theorem GoodTurn.completes {x : Stage (JwksWorld κ) JwksEvent} (h : GoodTurn policy x)
    (hx : x.event.completes) :
    x.after.cache.generation = x.before.cache.generation + 1 := by
  rcases h.turn.cache_cases with ⟨_, hno⟩ | ⟨i, payload, now, later, _, _, hcache⟩
  · exact absurd hx hno
  · rw [hcache, refresh_generation]

theorem good_of_run {start : Rat} {stages : List (Stage (JwksWorld κ) JwksEvent)}
    (h : Run (Step policy) (initial start) stages w) :
    forall x, x ∈ stages -> GoodTurn policy x := by
  intro x hx
  have hkept := h.invariant (I := Coherent) (C := fun _ => True)
    (fun x _ hstep hcoherent => hstep.turn.coherent hcoherent) (initial_coherent start)
    (fun _ _ => trivial)
  rcases hkept.right x hx with ⟨hstep, hbefore, _⟩
  exact ⟨hstep.turn, hbefore⟩

theorem current_of_run {start : Rat} {stages : List (Stage (JwksWorld κ) JwksEvent)}
    (h : Run (Step policy) (initial start) stages w) : Current policy stages w := by
  have hkept := h.history (I := Current policy) (C := fun _ => True)
    (fun past x _ hstep hcurrent => hstep.turn.current hcurrent)
    (l := []) rfl (fun _ _ => trivial)
  exact hkept

theorem follows_of_run {start : Rat} {stages : List (Stage (JwksWorld κ) JwksEvent)}
    (h : Run (Step policy) (initial start) stages w) :
    stages.Pairwise fun x y => Follows x.after y.before :=
  h.ordered (R := Follows) Follows.refl (fun h h' => h.trans h')
    (fun x hx => (good_of_run h x hx).turn.follows)

theorem pairwise_of_run {start : Rat} {stages : List (Stage (JwksWorld κ) JwksEvent)}
    (h : Run (Step policy) (initial start) stages w)
    {R : Stage (JwksWorld κ) JwksEvent -> Stage (JwksWorld κ) JwksEvent -> Prop}
    (hR : forall x y, GoodTurn policy x -> GoodTurn policy y ->
      Follows x.after y.before -> R x y) : stages.Pairwise R := by
  have hgood := good_of_run h
  refine List.Pairwise.imp_of_mem ?_ (follows_of_run h)
  intro x y hx hy hfollows
  exact hR x y (hgood x hx) (hgood y hy) hfollows

/--
The cache is safe under every schedule of its calls, every outcome of the fetches
and every clock that does not go back.  A returned key is in the set of the most
recent successful refresh, which has not expired; a failed refresh changes neither
the keys nor the expiry; a call for a key fetches at most once, and not at all if
it was waiting while a refresh was completed; and the calls that have seen one
generation complete at most one refresh.
-/
theorem signing_key_cache_safe {start : Rat}
    {stages : List (Stage (JwksWorld κ) JwksEvent)}
    (h : Run (Step policy) (initial start) stages w) : SafeRun policy stages where
  returned := by
    intro past x rest hstages i key hafter hbefore
    rw [hstages] at h
    rcases h.split with ⟨hpast, hstep, _⟩
    have hturn := hstep.turn
    have hactor : x.event.actor = i := by
      by_contra hne
      rw [hturn.others (fun hi => hne hi.symm)] at hafter
      exact hbefore hafter
    rw [← hactor] at hafter ⊢
    rcases hturn.returned hafter with ⟨kid, hasks, hkey, hnow⟩
    have hcurrent := hturn.current (current_of_run hpast)
    unfold Current at hcurrent
    cases hlatest : latest policy (past ++ [x]) with
    | none =>
        rw [show latest policy (past ++ [⟨x.before, x.event, x.after⟩]) = none from
          hlatest] at hcurrent
        rw [show x.after.cache.keys = [] from hcurrent] at hkey
        cases hkey
    | some r =>
        rw [show latest policy (past ++ [⟨x.before, x.event, x.after⟩]) = some r from
          hlatest] at hcurrent
        refine ⟨kid, r.1, r.2, hasks, rfl, ?_, ?_⟩
        · rw [← hcurrent.left]
          exact hkey
        · rw [← hcurrent.right]
          exact hnow
  unchanged := fun x hx he => (good_of_run h x hx).turn.unchanged he
  single := by
    intro i
    refine pairwise_of_run h ?_
    rintro x y _ hy hfollows ⟨_, kid, observed, hafter⟩ hfetches
    rcases hy.fetches hfetches with ⟨kid', hwaiting⟩
    rcases hfollows.waiting i kid' _ hwaiting with hidle | hstill
    · cases hafter.symm.trans hidle
    · cases hafter.symm.trans hstill
  spared := by
    intro i
    refine pairwise_of_run h ?_
    rintro x y hx hy hfollows ⟨kid, observed, hwaiting⟩ hcompletes hfetches
    have hle := hx.before.waiting i kid observed hwaiting
    have hnew := hx.completes hcompletes
    have hlater := hfollows.generation
    have hother : i ≠ x.event.actor := by
      intro hi
      rw [hi] at hwaiting
      exact hx.turn.not_waiting hcompletes hwaiting
    have hstill := (hx.turn.others hother).trans hwaiting
    rcases hy.fetches hfetches with ⟨kid', hwaiting'⟩
    rcases hfollows.waiting i kid' _ hwaiting' with hidle | hsame
    · cases hstill.symm.trans hidle
    · cases hstill.symm.trans hsame
      omega
  coalesced := by
    intro generation
    refine pairwise_of_run h ?_
    rintro x y hx hy hfollows ⟨hcompletes, kid, hfetching⟩ ⟨_, kid', hfetching'⟩
    have hseen := (hx.before.fetching _ kid generation hfetching).left
    have hseen' := (hy.before.fetching _ kid' generation hfetching').left
    have hnew := hx.completes hcompletes
    have hlater := hfollows.generation
    omega

def samplePolicy : JwksPolicy String :=
  { allowedAlgorithms := ["RS256"]
    ttlSeconds := 300
    fromDict := fun _ => some "key"
    algorithmName := fun _ => "RS256" }

def samplePayload : JsonTree :=
  JsonTree.object [("keys", JsonTree.array
    [JsonTree.object [("kid", JsonTree.string "kid-1")]])]

/-- Two callers miss the key at once; the first one fetches it, and the second one, which
has waited for the lock, finds it. -/
theorem signing_key_cache_safe_sample : exists stages w,
    Run (Step samplePolicy) (initial 0) stages w ∧
      w.calls 0 = JwksCall.returned "key" ∧ w.calls 1 = JwksCall.returned "key" ∧
      SafeRun samplePolicy stages := by
  have hrun : exists stages w, Run (Step samplePolicy) (initial 0) stages w ∧
      w.calls 0 = JwksCall.returned "key" ∧ w.calls 1 = JwksCall.returned "key" :=
    ⟨_, _, Run.cons (e := JwksEvent.getSigningKey 0 " kid-1" 0) rfl
      (Run.cons (e := JwksEvent.getSigningKey 1 "kid-1" 0) rfl
        (Run.cons (e := JwksEvent.acquire 0 0 0) rfl
          (Run.cons (e := JwksEvent.fetched 0 (some samplePayload) 1 2) rfl
            (Run.cons (e := JwksEvent.acquire 1 2 3) rfl (Run.nil _))))),
      by decide +kernel, by decide +kernel⟩
  rcases hrun with ⟨stages, w, hrun, hfirst, hsecond⟩
  exact ⟨stages, w, hrun, hfirst, hsecond, signing_key_cache_safe hrun⟩

end JwksWorld
end RefundAgent
