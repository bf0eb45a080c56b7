import RefundAgent.Foundation.Spacing
import RefundAgent.Integrations.ConnectionResolver

/-!
# Rate gates

`integrations/rate_limit.py`: the gate of a connection, the calls of `acquire` that
meet at it, and the registry of the gates.  A call runs without interruption up to
the next point where it awaits; every event carries what the clock reads there.
-/

namespace RefundAgent

open Foundation

/-!
## The gate
-/

structure ConnectionExecutionGate where
  slots : Nat
  requestsPerSecond : Option Rat
  nextRequestAt : Rat
  rateLock : Option Nat
deriving DecidableEq

namespace ConnectionExecutionGate

/-- `__init__`. -/
def create (maxConcurrency : Nat) (requestsPerSecond : Option Rat) :
    ConnectionExecutionGate :=
  { slots := maxConcurrency
    requestsPerSecond := requestsPerSecond
    nextRequestAt := 0
    rateLock := none }

/-- The start time that the body of the lock reserves. -/
def scheduled (gate : ConnectionExecutionGate) (now : Rat) : Rat :=
  max now gate.nextRequestAt

/-- The gate after the reservation, with the lock released. -/
def reserve (gate : ConnectionExecutionGate) (rate now : Rat) : ConnectionExecutionGate :=
  { gate with nextRequestAt := gate.scheduled now + 1 / rate, rateLock := none }

end ConnectionExecutionGate

/-- A call of `acquire`, by the point it has reached. -/
inductive AcquireCall where
  | idle
  | waitingSlot
  | waitingLock (asked : Rat)
  | locked (asked : Rat)
  | reserved (asked scheduled : Rat)
  | sleeping (asked scheduled wakesAt : Rat)
  | running (scheduled : Option Rat) (begunAt : Rat)
  | ended
deriving DecidableEq, Repr

inductive GateEvent where
  | acquire (call : Nat)
  | enter (call : Nat)
  | lock (call : Nat)
  | reserve (call : Nat)
  | measure (call : Nat)
  | wake (call : Nat)
  | leave (call : Nat)
  | cancel (call : Nat)
deriving DecidableEq, Repr

/-- A reserved start time, and when the call that has it asked for one. -/
structure Reservation where
  call : Nat
  asked : Rat
  startAt : Rat
deriving DecidableEq, Repr

/-- The gate, the clock, the calls, and the reservations in their order. -/
structure GateWorld where
  gate : ConnectionExecutionGate
  now : Rat
  calls : Nat -> AcquireCall
  reservations : List Reservation

namespace GateWorld

def start (maxConcurrency : Nat) (requestsPerSecond : Option Rat) (now : Rat) : GateWorld :=
  { gate := ConnectionExecutionGate.create maxConcurrency requestsPerSecond
    now := now
    calls := fun _ => AcquireCall.idle
    reservations := [] }

def put (w : GateWorld) (i : Nat) (call : AcquireCall) : GateWorld :=
  { w with calls := fun j => if j = i then call else w.calls j }

/-- A call that leaves gives its slot back. -/
def giveBack (w : GateWorld) (i : Nat) : GateWorld :=
  { w with gate := { w.gate with slots := w.gate.slots + 1 } }.put i AcquireCall.ended

/-- The call enters with a slot; without a rate there is nothing to wait for. -/
def takeSlot (w : GateWorld) (i : Nat) : GateWorld :=
  { w with gate := { w.gate with slots := w.gate.slots - 1 } }.put i
    (match w.gate.requestsPerSecond with
    | none => AcquireCall.running none w.now
    | some _ => AcquireCall.waitingLock w.now)

/-- The body of the lock. -/
def book (w : GateWorld) (i : Nat) (rate asked : Rat) : GateWorld :=
  { w with
    gate := w.gate.reserve rate w.now
    reservations := w.reservations ++ [Reservation.mk i asked (w.gate.scheduled w.now)] }.put i
    (AcquireCall.reserved asked (w.gate.scheduled w.now))

/-- What follows the lock: the second reading of the clock, and the sleep. -/
def await (w : GateWorld) (i : Nat) (asked scheduled : Rat) : GateWorld :=
  w.put i
    (if 0 < scheduled - w.now then
      AcquireCall.sleeping asked scheduled (w.now + (scheduled - w.now))
    else
      AcquireCall.running (some scheduled) w.now)

/-- What one event does, at the time that the world shows. -/
def turn (w : GateWorld) : GateEvent -> Option GateWorld
  | GateEvent.acquire i =>
      match w.calls i with
      | AcquireCall.idle => some (w.put i AcquireCall.waitingSlot)
      | _ => none
  | GateEvent.enter i =>
      match w.calls i with
      | AcquireCall.waitingSlot => if 0 < w.gate.slots then some (w.takeSlot i) else none
      | _ => none
  | GateEvent.lock i =>
      match w.calls i with
      | AcquireCall.waitingLock asked =>
          if w.gate.rateLock = none then
            some ({ w with gate := { w.gate with rateLock := some i } }.put i
              (AcquireCall.locked asked))
          else
            none
      | _ => none
  | GateEvent.reserve i =>
      match w.calls i, w.gate.requestsPerSecond with
      | AcquireCall.locked asked, some rate => some (w.book i rate asked)
      | _, _ => none
  | GateEvent.measure i =>
      match w.calls i with
      | AcquireCall.reserved asked scheduled => some (w.await i asked scheduled)
      | _ => none
  | GateEvent.wake i =>
      match w.calls i with
      | AcquireCall.sleeping _ scheduled wakesAt =>
          if wakesAt ≤ w.now then
            some (w.put i (AcquireCall.running (some scheduled) w.now))
          else
            none
      | _ => none
  | GateEvent.leave i =>
      match w.calls i with
      | AcquireCall.running _ _ => some (w.giveBack i)
      | _ => none
  | GateEvent.cancel i =>
      match w.calls i with
      | AcquireCall.waitingSlot => some (w.put i AcquireCall.ended)
      | AcquireCall.waitingLock _ => some (w.giveBack i)
      | AcquireCall.sleeping _ _ _ => some (w.giveBack i)
      | AcquireCall.running _ _ => some (w.giveBack i)
      | _ => none

/-- An event at a time, which is not before the latest reading of the clock. -/
def step (w : GateWorld) (e : GateEvent × Rat) : Option GateWorld :=
  if w.now ≤ e.2 then { w with now := e.2 }.turn e.1 else none

/-- A run of events; an event that cannot happen ends it with nothing. -/
def run (w : GateWorld) (events : List (GateEvent × Rat)) : Option GateWorld :=
  events.foldlM step w

@[simp] theorem put_gate (w : GateWorld) (i : Nat) (call : AcquireCall) :
    (w.put i call).gate = w.gate := rfl

@[simp] theorem put_now (w : GateWorld) (i : Nat) (call : AcquireCall) :
    (w.put i call).now = w.now := rfl

@[simp] theorem put_reservations (w : GateWorld) (i : Nat) (call : AcquireCall) :
    (w.put i call).reservations = w.reservations := rfl

theorem put_calls (w : GateWorld) (i : Nat) (call : AcquireCall) (j : Nat) :
    (w.put i call).calls j = if j = i then call else w.calls j := rfl

theorem run_preserves {I : GateWorld -> Prop}
    (hstep : forall w e w', step w e = some w' -> I w -> I w') :
    forall {events : List (GateEvent × Rat)} {w w' : GateWorld},
      w.run events = some w' -> I w -> I w' := by
  intro events
  induction events with
  | nil =>
      intro w w' h hw
      cases h
      exact hw
  | cons e rest ih =>
      intro w w' h hw
      unfold run at h
      rw [List.foldlM_cons, Option.bind_eq_bind, Option.bind_eq_some_iff] at h
      rcases h with ⟨u, hu, hrest⟩
      exact ih hrest (hstep w e u hu hw)

end GateWorld

/-!
## Spacing
-/

/-- What the gate and its reservations owe to a call at its point. -/
def AcquireCall.Standing (reservations : List Reservation) (now : Rat) (i : Nat) :
    AcquireCall -> Prop
  | waitingLock asked => asked ≤ now
  | locked asked => asked ≤ now
  | reserved asked scheduled => Reservation.mk i asked scheduled ∈ reservations
  | sleeping asked scheduled wakesAt =>
      Reservation.mk i asked scheduled ∈ reservations ∧ scheduled ≤ wakesAt
  | running scheduled begunAt => exists asked startAt, scheduled = some startAt ∧
      Reservation.mk i asked startAt ∈ reservations ∧ startAt ≤ begunAt
  | _ => True

theorem AcquireCall.Standing.later {reservations more : List Reservation} {now now' : Rat}
    {i : Nat} {call : AcquireCall} (h : call.Standing reservations now i)
    (hnow : now ≤ now') : call.Standing (reservations ++ more) now' i := by
  cases call with
  | waitingLock asked => exact le_trans h hnow
  | locked asked => exact le_trans h hnow
  | reserved asked scheduled => exact List.mem_append_left more h
  | sleeping asked scheduled wakesAt => exact ⟨List.mem_append_left more h.left, h.right⟩
  | running scheduled begunAt =>
      rcases h with ⟨asked, startAt, hsome, hmem, hle⟩
      exact ⟨asked, startAt, hsome, List.mem_append_left more hmem, hle⟩
  | _ => trivial

/-- A gate with a rate: the next start time lies behind all reserved ones. -/
structure GateWorld.Paced (rate : Rat) (w : GateWorld) : Prop where
  rated : w.gate.requestsPerSecond = some rate
  spaced : Spaced (1 / rate) (w.reservations.map Reservation.startAt)
  next : forall x, x ∈ w.reservations -> x.startAt + 1 / rate ≤ w.gate.nextRequestAt
  asked : forall x, x ∈ w.reservations -> x.asked ≤ x.startAt
  standing : forall i, (w.calls i).Standing w.reservations w.now i

namespace GateWorld

variable {w w' : GateWorld} {rate : Rat} {i : Nat}

theorem start_paced (maxConcurrency : Nat) (rate now : Rat) :
    Paced rate (start maxConcurrency (some rate) now) where
  rated := rfl
  spaced := Spaced.nil
  next := fun x hx => (by cases hx)
  asked := fun x hx => (by cases hx)
  standing := fun _ => trivial

theorem Paced.tick (h : w.Paced rate) {now : Rat} (hnow : w.now ≤ now) :
    Paced rate { w with now := now } where
  rated := h.rated
  spaced := h.spaced
  next := h.next
  asked := h.asked
  standing := by
    intro i
    have hlater : (w.calls i).Standing (w.reservations ++ []) now i :=
      (h.standing i).later hnow
    rwa [List.append_nil] at hlater

theorem Paced.put (h : w.Paced rate) {gate : ConnectionExecutionGate} {call : AcquireCall}
    (hrated : gate.requestsPerSecond = w.gate.requestsPerSecond)
    (hnext : gate.nextRequestAt = w.gate.nextRequestAt)
    (hcall : call.Standing w.reservations w.now i) :
    Paced rate ({ w with gate := gate }.put i call) where
  rated := hrated.trans h.rated
  spaced := h.spaced
  next := by
    intro x hx
    rw [put_gate, hnext]
    exact h.next x hx
  asked := h.asked
  standing := by
    intro j
    rw [put_calls]
    by_cases hj : j = i
    · rw [if_pos hj, hj]
      exact hcall
    · rw [if_neg hj]
      exact h.standing j

theorem Paced.giveBack (h : w.Paced rate) : Paced rate (w.giveBack i) :=
  h.put rfl rfl trivial

theorem Paced.takeSlot (h : w.Paced rate) : Paced rate (w.takeSlot i) := by
  unfold GateWorld.takeSlot
  rw [h.rated]
  exact h.put rfl rfl (le_refl w.now)

theorem Paced.book (h : w.Paced rate) (hrate : 0 < rate) {asked : Rat}
    (hcall : w.calls i = AcquireCall.locked asked) : Paced rate (w.book i rate asked) where
  rated := h.rated
  spaced := by
    show Spaced (1 / rate) ((w.reservations ++ [_]).map Reservation.startAt)
    rw [List.map_append]
    apply h.spaced.concat
    intro s hs
    rcases List.mem_map.mp hs with ⟨x, hx, rfl⟩
    exact le_trans (h.next x hx) (le_max_right _ _)
  next := by
    intro x hx
    rcases List.mem_append.mp hx with hx | hx
    · have hstep : (0 : Rat) < 1 / rate := one_div_pos.mpr hrate
      have hle := le_trans (h.next x hx) (le_max_right w.now w.gate.nextRequestAt)
      exact le_trans hle (le_add_of_nonneg_right (le_of_lt hstep))
    · rw [List.mem_singleton.mp hx]
      exact le_refl _
  asked := by
    intro x hx
    rcases List.mem_append.mp hx with hx | hx
    · exact h.asked x hx
    · rw [List.mem_singleton.mp hx]
      have hstanding := h.standing i
      rw [hcall] at hstanding
      exact le_trans hstanding (le_max_left _ _)
  standing := by
    intro j
    show (if j = i then _ else w.calls j).Standing (w.reservations ++ [_]) w.now j
    by_cases hj : j = i
    · rw [if_pos hj, hj]
      exact List.mem_append_right _ List.mem_cons_self
    · rw [if_neg hj]
      exact (h.standing j).later (le_refl w.now)

theorem Paced.await (h : w.Paced rate) {asked scheduled : Rat}
    (hcall : w.calls i = AcquireCall.reserved asked scheduled) :
    Paced rate (w.await i asked scheduled) := by
  have hbooked := h.standing i
  rw [hcall] at hbooked
  apply h.put rfl rfl
  split
  · exact ⟨hbooked, by linarith⟩
  · next hdue => exact ⟨asked, scheduled, rfl, hbooked, by linarith⟩

theorem Paced.turn (h : w.Paced rate) (hrate : 0 < rate) {e : GateEvent}
    (hturn : w.turn e = some w') : w'.Paced rate := by
  cases e with
  | acquire i =>
      simp only [GateWorld.turn] at hturn
      split at hturn
      · cases hturn
        exact h.put rfl rfl trivial
      · cases hturn
  | enter i =>
      simp only [GateWorld.turn] at hturn
      split at hturn
      · split at hturn
        · cases hturn
          exact h.takeSlot
        · cases hturn
      · cases hturn
  | lock i =>
      simp only [GateWorld.turn] at hturn
      split at hturn
      · next hcall =>
          split at hturn
          · cases hturn
            have hstanding := h.standing i
            rw [hcall] at hstanding
            exact h.put rfl rfl hstanding
          · cases hturn
      · cases hturn
  | reserve i =>
      simp only [GateWorld.turn] at hturn
      split at hturn
      · next hcall hrated =>
          cases hturn
          rw [h.rated] at hrated
          cases hrated
          exact h.book hrate hcall
      · cases hturn
  | measure i =>
      simp only [GateWorld.turn] at hturn
      split at hturn
      · next hcall =>
          cases hturn
          exact h.await hcall
      · cases hturn
  | wake i =>
      simp only [GateWorld.turn] at hturn
      split at hturn
      · next hcall =>
          split at hturn
          · next hdue =>
              cases hturn
              have hstanding := h.standing i
              rw [hcall] at hstanding
              exact h.put rfl rfl
                ⟨_, _, rfl, hstanding.left, le_trans hstanding.right hdue⟩
          · cases hturn
      · cases hturn
  | leave i =>
      simp only [GateWorld.turn] at hturn
      split at hturn
      · cases hturn
        exact h.giveBack
      · cases hturn
  | cancel i =>
      simp only [GateWorld.turn] at hturn
      split at hturn
      · cases hturn
        exact h.put rfl rfl trivial
      · cases hturn
        exact h.giveBack
      · cases hturn
        exact h.giveBack
      · cases hturn
        exact h.giveBack
      · cases hturn

theorem Paced.step (h : w.Paced rate) (hrate : 0 < rate) {e : GateEvent × Rat}
    (hstep : w.step e = some w') : w'.Paced rate := by
  unfold GateWorld.step at hstep
  split at hstep
  · next hnow => exact (h.tick hnow).turn hrate hstep
  · cases hstep

theorem paced_of_run (hrate : 0 < rate) {maxConcurrency : Nat} {now : Rat}
    {events : List (GateEvent × Rat)}
    (h : (start maxConcurrency (some rate) now).run events = some w) : w.Paced rate :=
  run_preserves (fun _ _ _ hstep hw => hw.step hrate hstep) h
    (start_paced maxConcurrency rate now)

end GateWorld

/-!
## The registry

A gate is known by its place in the order in which the gates were made.
-/

structure ConnectionGateRegistry where
  gates : Dict String Nat
  made : List ConnectionExecutionGate

namespace ConnectionGateRegistry

def empty : ConnectionGateRegistry :=
  { gates := []
    made := [] }

/-- `for_connection`. -/
def forConnection (registry : ConnectionGateRegistry) (connection : ProviderConnection) :
    Nat × ConnectionGateRegistry :=
  match registry.gates.get connection.connectionId with
  | some gate => (gate, registry)
  | none =>
      (registry.made.length,
        { gates := registry.gates.set connection.connectionId registry.made.length
          made := registry.made ++ [ConnectionExecutionGate.create connection.maxConcurrency
            connection.requestsPerSecond] })

theorem forConnection_known {registry : ConnectionGateRegistry}
    {connection : ProviderConnection} {gate : Nat}
    (h : registry.gates.get connection.connectionId = some gate) :
    registry.forConnection connection = (gate, registry) := by
  unfold forConnection
  rw [h]

theorem forConnection_new {registry : ConnectionGateRegistry}
    {connection : ProviderConnection}
    (h : registry.gates.get connection.connectionId = none) :
    registry.forConnection connection = (registry.made.length,
      { gates := registry.gates.set connection.connectionId registry.made.length
        made := registry.made ++ [ConnectionExecutionGate.create connection.maxConcurrency
          connection.requestsPerSecond] }) := by
  unfold forConnection
  rw [h]

structure Keyed (registry : ConnectionGateRegistry) : Prop where
  made : forall id gate, registry.gates.get id = some gate ->
    gate < registry.made.length
  own : forall id id' gate, registry.gates.get id = some gate ->
    registry.gates.get id' = some gate -> id = id'

theorem empty_keyed : empty.Keyed where
  made := fun _ _ h => (by cases h)
  own := fun _ _ _ h => (by cases h)

theorem Keyed.forConnection {registry : ConnectionGateRegistry} (h : registry.Keyed)
    (connection : ProviderConnection) : (registry.forConnection connection).2.Keyed := by
  cases hget : registry.gates.get connection.connectionId with
  | some gate =>
      rw [forConnection_known hget]
      exact h
  | none =>
      rw [forConnection_new hget]
      constructor
      · intro id gate hgate
        simp only [Dict.get_set] at hgate
        simp only [List.length_append, List.length_singleton]
        split at hgate
        · cases hgate
          exact Nat.lt_succ_self _
        · exact Nat.lt_succ_of_lt (h.made id gate hgate)
      · intro id id' gate hgate hgate'
        simp only [Dict.get_set] at hgate hgate'
        split at hgate
        · next hid =>
            split at hgate'
            · next hid' => exact hid.trans hid'.symm
            · cases hgate
              exact absurd (h.made id' _ hgate') (Nat.lt_irrefl _)
        · split at hgate'
          · cases hgate'
            exact absurd (h.made id _ hgate) (Nat.lt_irrefl _)
          · exact h.own id id' gate hgate hgate'

theorem forConnection_keeps (registry : ConnectionGateRegistry)
    (connections : List ProviderConnection) {id : String} {gate : Nat}
    (h : registry.gates.get id = some gate) :
    (connections.foldl (fun r c => (r.forConnection c).2) registry).gates.get id =
      some gate := by
  induction connections generalizing registry with
  | nil => exact h
  | cons c rest ih =>
      apply ih
      show (registry.forConnection c).2.gates.get id = some gate
      cases hget : registry.gates.get c.connectionId with
      | some _ =>
          rw [forConnection_known hget]
          exact h
      | none =>
          rw [forConnection_new hget, Dict.get_set]
          split
          · next hid =>
              rw [hid, hget] at h
              cases h
          · exact h

theorem forConnection_get (registry : ConnectionGateRegistry)
    (connection : ProviderConnection) :
    (registry.forConnection connection).2.gates.get connection.connectionId =
      some (registry.forConnection connection).1 := by
  cases hget : registry.gates.get connection.connectionId with
  | some gate =>
      rw [forConnection_known hget]
      exact hget
  | none =>
      rw [forConnection_new hget, Dict.get_set, if_pos rfl]

/-- Two connections get one gate exactly if they have one id, whatever comes between. -/
theorem forConnection_shared {registry : ConnectionGateRegistry} (h : registry.Keyed)
    (connection other : ProviderConnection) (between : List ProviderConnection) :
    ((between.foldl (fun r c => (r.forConnection c).2)
        (registry.forConnection connection).2).forConnection other).1 =
        (registry.forConnection connection).1 ↔
      other.connectionId = connection.connectionId := by
  have hkeyed : forall (connections : List ProviderConnection) {r : ConnectionGateRegistry},
      r.Keyed -> (connections.foldl (fun r c => (r.forConnection c).2) r).Keyed := by
    intro connections
    induction connections with
    | nil => exact fun hr => hr
    | cons c rest ih => exact fun hr => ih (hr.forConnection c)
  have hfirst := forConnection_keeps _ between (registry.forConnection_get connection)
  have hall := hkeyed between (h.forConnection connection)
  generalize between.foldl (fun r c => (r.forConnection c).2)
    (registry.forConnection connection).2 = r at hfirst hall
  constructor
  · intro hsame
    have hother := r.forConnection_get other
    have hkept := forConnection_keeps r [other] hfirst
    rw [hsame] at hother
    exact (hall.forConnection other).own _ _ _ hother hkept
  · intro hid
    rw [← hid] at hfirst
    rw [forConnection_known hfirst]

end ConnectionGateRegistry

/-!
## Spacing
-/

/--
Rate gate spacing.  In every run of the calls of one gate with `rate` requests per
second: the reserved start times are at least `1 / rate` apart, none lies before the
moment its caller asked, a request that runs has reserved a time and did not begin
before it, and a window of length `t` has at most `⌊rate * t⌋ + 1` of them.
-/
theorem rate_gate_spacing {rate : Rat} (hrate : 0 < rate) {maxConcurrency : Nat}
    {now : Rat} {events : List (GateEvent × Rat)} {w : GateWorld}
    (h : (GateWorld.start maxConcurrency (some rate) now).run events = some w) :
    (w.reservations.Pairwise fun x y => x.startAt + 1 / rate ≤ y.startAt) ∧
    (forall x, x ∈ w.reservations -> x.asked ≤ x.startAt) ∧
    (forall i scheduled begunAt,
      w.calls i = AcquireCall.running scheduled begunAt ->
      exists asked startAt, scheduled = some startAt ∧
        Reservation.mk i asked startAt ∈ w.reservations ∧ startAt ≤ begunAt) ∧
    forall first t : Rat,
      (w.reservations.filter fun x =>
        decide (first ≤ x.startAt ∧ x.startAt ≤ first + t)).length ≤ ⌊rate * t⌋₊ + 1 := by
  have hpaced := GateWorld.paced_of_run hrate h
  refine ⟨List.pairwise_map.mp hpaced.spaced, hpaced.asked, ?_, ?_⟩
  · intro i scheduled begunAt hcall
    have hstanding := hpaced.standing i
    rw [hcall] at hstanding
    exact hstanding
  · intro first t
    have hspaced : Spaced (1 / rate) ((w.reservations.filter fun x =>
        decide (first ≤ x.startAt ∧ x.startAt ≤ first + t)).map Reservation.startAt) :=
      List.pairwise_map.mpr (List.Pairwise.filter _ (List.pairwise_map.mp hpaced.spaced))
    have hwindow : forall s, s ∈ (w.reservations.filter fun x =>
        decide (first ≤ x.startAt ∧ x.startAt ≤ first + t)).map Reservation.startAt ->
        first ≤ s ∧ s ≤ first + t := by
      intro s hs
      rcases List.mem_map.mp hs with ⟨x, hx, rfl⟩
      exact of_decide_eq_true (List.mem_filter.mp hx).right
    have hcount := hspaced.length_le (one_div_pos.mpr hrate) hwindow
    rwa [List.length_map, div_div_eq_mul_div, div_one, mul_comm] at hcount

/-- The second request is reserved half a second later, and sleeps until then. -/
def sampleGateEvents : List (GateEvent × Rat) :=
  [(GateEvent.acquire 0, 10), (GateEvent.enter 0, 10), (GateEvent.acquire 1, 10),
    (GateEvent.enter 1, 10), (GateEvent.lock 0, 10), (GateEvent.reserve 0, 10),
    (GateEvent.lock 1, 10), (GateEvent.measure 0, 10), (GateEvent.reserve 1, 81 / 8),
    (GateEvent.measure 1, 41 / 4), (GateEvent.leave 0, 41 / 4), (GateEvent.wake 1, 11)]

def sampleLimited (tenantId : String) : ProviderConnection :=
  { ProviderConnectionResolver.sampleConnection "provider" tenantId with
    requestsPerSecond := some 2 }

/-- The gate that the connections of two tenants share. -/
theorem rate_gate_spacing_sample : exists gate registry w,
    ConnectionGateRegistry.empty.forConnection (sampleLimited "acme") = (gate, registry) ∧
    (registry.forConnection (sampleLimited "umbrella")).1 = gate ∧
    registry.made[gate]? = some (GateWorld.start 4 (some 2) 10).gate ∧
    (GateWorld.start 4 (some 2) 10).run sampleGateEvents = some w ∧
    w.reservations.map Reservation.startAt = [10, 21 / 2] ∧
    (w.reservations.Pairwise fun x y => x.startAt + 1 / 2 ≤ y.startAt) ∧
    exists asked startAt, (some (21 / 2) : Option Rat) = some startAt ∧
      Reservation.mk 1 asked startAt ∈ w.reservations ∧ startAt ≤ 11 := by
  have hevaluated : ((GateWorld.start 4 (some 2) 10).run sampleGateEvents).map
      (fun w => (w.reservations.map Reservation.startAt, w.calls 1)) =
      some ([10, 21 / 2], AcquireCall.running (some (21 / 2)) 11) := by decide +kernel
  rcases Option.map_eq_some_iff.mp hevaluated with ⟨w, hrun, hpair⟩
  have hspacing := rate_gate_spacing (by norm_num) hrun
  rcases Prod.mk.inj hpair with ⟨hstarts, hcall⟩
  have hshared := (ConnectionGateRegistry.forConnection_shared
    ConnectionGateRegistry.empty_keyed (sampleLimited "acme") (sampleLimited "umbrella")
    []).mpr rfl
  exact ⟨_, _, w, rfl, hshared, rfl, hrun, hstarts, hspacing.left,
    hspacing.right.right.left 1 _ _ hcall⟩

end RefundAgent
