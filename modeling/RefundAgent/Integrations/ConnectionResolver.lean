import RefundAgent.Foundation.Dict
import RefundAgent.Model.Messages

/-!
# Outbound provider connections

`connection_resolver.py`: the connections of the configuration, indexed by tenant and
capability for the command that is queued, and by connection id and capability for
the command that is sent.
-/

namespace RefundAgent

open Foundation

inductive AuthScheme where
  | bearer
  | apiKey
  | none
deriving DecidableEq, Repr

structure ProviderAuthentication where
  scheme : AuthScheme
  credential : Option String
  apiKeyHeader : Option String
deriving DecidableEq

structure ProviderTimeout where
  connectSeconds : Rat
  readSeconds : Rat
  writeSeconds : Rat
deriving DecidableEq

/-- `base_url`, by its scheme and its text. -/
structure BaseUrl where
  scheme : String
  text : String
deriving DecidableEq

structure ProviderConnection where
  connectionId : String
  tenantId : String
  capability : ProviderCapability
  baseUrl : BaseUrl
  endpoint : String
  authentication : ProviderAuthentication
  timeout : ProviderTimeout
  maxConcurrency : Nat
  requestsPerSecond : Option Rat
deriving DecidableEq

/-- The fields that must agree when capabilities share a connection. -/
structure ConnectionIdentity where
  baseUrl : String
  scheme : AuthScheme
  credential : Option String
  apiKeyHeader : Option String
  timeout : ProviderTimeout
  maxConcurrency : Nat
  requestsPerSecond : Option Rat
deriving DecidableEq

namespace ProviderConnection

def selection (c : ProviderConnection) : String × ProviderCapability :=
  (c.tenantId, c.capability)

def pin (c : ProviderConnection) : String × ProviderCapability :=
  (c.connectionId, c.capability)

/-- `_connection_identity`. -/
def identity (c : ProviderConnection) : ConnectionIdentity :=
  { baseUrl := c.baseUrl.text
    scheme := c.authentication.scheme
    credential := c.authentication.credential
    apiKeyHeader := c.authentication.apiKeyHeader
    timeout := c.timeout
    maxConcurrency := c.maxConcurrency
    requestsPerSecond := c.requestsPerSecond }

end ProviderConnection

structure ProviderConnectionResolver where
  bySelection : Dict (String × ProviderCapability) ProviderConnection
  byIdAndCapability : Dict (String × ProviderCapability) ProviderConnection

namespace ProviderConnectionResolver

def capabilityWord : ProviderCapability -> String
  | ProviderCapability.orderQuery => "order_query"
  | ProviderCapability.inventoryQuery => "inventory_query"
  | ProviderCapability.orderOperation => "order_operation"

/-- The first configured connection with the id, in the order of the index. -/
def configured (r : ProviderConnectionResolver) (connectionId : String) :
    Option ProviderConnection :=
  (r.byIdAndCapability.find? fun e => decide (e.1.1 = connectionId)).map Prod.snd

/-- The body of the loop of `__init__`. -/
def add (allowInsecureHttp : Bool) (r : ProviderConnectionResolver)
    (connection : ProviderConnection) : Except String ProviderConnectionResolver :=
  if connection.baseUrl.scheme ≠ "https" ∧ allowInsecureHttp = false then
    Except.error "provider connections must use https outside explicit development mode"
  else if (r.bySelection.get connection.selection).isSome then
    Except.error ("duplicate provider connection for tenant/capability: " ++
      connection.tenantId ++ "/" ++ capabilityWord connection.capability)
  else if (r.configured connection.connectionId).any
      (fun existing : ProviderConnection =>
        decide (existing.identity ≠ connection.identity)) then
    Except.error "connections sharing connection_id must have identical transport settings"
  else
    Except.ok
      { bySelection := r.bySelection.set connection.selection connection
        byIdAndCapability := r.byIdAndCapability.set connection.pin connection }

/-- `EnvironmentProviderConnectionResolver.__init__`. -/
def init (connections : List ProviderConnection) (allowInsecureHttp : Bool) :
    Except String ProviderConnectionResolver :=
  connections.foldlM (add allowInsecureHttp) { bySelection := [], byIdAndCapability := [] }

/-- `resolve`; nothing stands for `ProviderConnectionNotFoundError`. -/
def resolve (r : ProviderConnectionResolver) (tenantId : String)
    (capability : ProviderCapability) : Option ProviderConnection :=
  r.bySelection.get (tenantId, capability)

/-- `resolve_by_connection_id`. -/
def resolveByConnectionId (r : ProviderConnectionResolver) (connectionId : String)
    (capability : ProviderCapability) : Option ProviderConnection :=
  r.byIdAndCapability.get (connectionId, capability)

/-!
## What the indexes hold
-/

/-- The indexes of a list of connections: the first of a selection, the last of a pin. -/
structure Indexes (l : List ProviderConnection) (r : ProviderConnectionResolver) :
    Prop where
  selected : forall k, r.bySelection.get k =
    l.find? fun c => decide (c.selection = k)
  pinned : forall k, r.byIdAndCapability.get k =
    l.reverse.find? fun c => decide (c.pin = k)
  distinct : l.Pairwise fun c d => c.selection ≠ d.selection

theorem add_indexes {allow : Bool} {l : List ProviderConnection}
    {r r' : ProviderConnectionResolver} {c : ProviderConnection}
    (h : add allow r c = Except.ok r') (hr : Indexes l r) : Indexes (l ++ [c]) r' := by
  unfold add at h
  split at h
  · cases h
  · split at h
    · cases h
    · rename_i hfresh
      have hnone : r.bySelection.get c.selection = none := by
        simpa using hfresh
      split at h
      · cases h
      · cases h
        constructor
        · intro k
          rw [Dict.get_set, List.find?_append, ← hr.selected k]
          by_cases hk : k = c.selection
          · rw [if_pos hk, hk, hnone, List.find?_cons_of_pos (by simp)]
            rfl
          · rw [if_neg hk, List.find?_cons_of_neg (by simpa using fun h => hk h.symm)]
            simp
        · intro k
          rw [Dict.get_set, List.reverse_append, List.reverse_singleton,
            List.singleton_append]
          by_cases hk : k = c.pin
          · rw [if_pos hk, List.find?_cons_of_pos (by simpa using hk.symm)]
          · rw [if_neg hk, List.find?_cons_of_neg (by simpa using fun h => hk h.symm)]
            exact hr.pinned k
        · rw [List.pairwise_append]
          refine ⟨hr.distinct, List.pairwise_singleton _ _, ?_⟩
          intro d hd e he
          rw [List.mem_singleton.mp he]
          intro hsame
          have hno := List.find?_eq_none.mp ((hr.selected c.selection).symm.trans hnone) d hd
          exact hno (decide_eq_true hsame)

theorem foldlM_indexes {allow : Bool} {more : List ProviderConnection} :
    forall {l : List ProviderConnection} {r r' : ProviderConnectionResolver},
      more.foldlM (add allow) r = Except.ok r' -> Indexes l r ->
      Indexes (l ++ more) r' := by
  induction more with
  | nil =>
      intro l r r' h hr
      cases h
      rw [List.append_nil]
      exact hr
  | cons c rest ih =>
      intro l r r' h hr
      rw [List.foldlM_cons] at h
      cases hadd : add allow r c with
      | error e =>
          rw [hadd] at h
          cases h
      | ok r₁ =>
          rw [hadd] at h
          have hrest := ih h (add_indexes hadd hr)
          rw [List.append_assoc, List.singleton_append] at hrest
          exact hrest

theorem init_indexes {connections : List ProviderConnection} {allow : Bool}
    {r : ProviderConnectionResolver} (h : init connections allow = Except.ok r) :
    Indexes connections r :=
  foldlM_indexes h ⟨fun _ => rfl, fun _ => rfl, List.Pairwise.nil⟩

/-!
## The round trip of a pinned connection
-/

/-- The connection id of a command that a service queues with a connection. -/
def pinnedId (connection : ProviderConnection) : Option CleanText :=
  CleanText.parse? (Text.strip connection.connectionId)

/-- The check of the worker before it sends a command. -/
def matchesCommand (connection : ProviderConnection) (connectionId tenantId : CleanText)
    (capability : ProviderCapability) : Bool :=
  decide (connection.connectionId = connectionId.text) &&
    decide (connection.tenantId = tenantId.text) &&
    decide (connection.capability = capability)

/--
The command that the tenant queues with the connection is sent through that
connection.
-/
def RoundTrips (r : ProviderConnectionResolver) (tenantId : CleanText)
    (capability : ProviderCapability) (connection : ProviderConnection) : Prop :=
  exists id, pinnedId connection = some id ∧
    r.resolveByConnectionId id.text capability = some connection ∧
    matchesCommand connection id tenantId capability = true

/-- The connection has an id of its own among those configured after it. -/
structure Unshadowed (connection : ProviderConnection)
    (after : List ProviderConnection) : Prop where
  stripped : Text.strip connection.connectionId = connection.connectionId
  named : connection.connectionId ≠ ""
  last : forall c, c ∈ after -> c.connectionId = connection.connectionId ->
    c.capability ≠ connection.capability

theorem Indexes.pinned_split {before after : List ProviderConnection}
    {connection : ProviderConnection} {r : ProviderConnectionResolver}
    (h : Indexes (before ++ connection :: after) r)
    (k : String × ProviderCapability) :
    r.byIdAndCapability.get k =
      (after.reverse.find? fun c => decide (c.pin = k)).or
        ((connection :: before.reverse).find? fun c => decide (c.pin = k)) := by
  rw [h.pinned k, List.reverse_append, List.reverse_cons, List.append_assoc,
    List.singleton_append, List.find?_append]

/--
The pin of a connection round-trips exactly when its id has no white space around
it and no connection that comes later in the configuration has the same id and the
same capability.
-/
theorem pinned_connection_round_trips {connections : List ProviderConnection}
    {allow : Bool} {r : ProviderConnectionResolver}
    (h : init connections allow = Except.ok r) {tenantId : CleanText}
    {capability : ProviderCapability} {connection : ProviderConnection}
    (hresolve : r.resolve tenantId.text capability = some connection) :
    exists before after, connections = before ++ connection :: after ∧
      (RoundTrips r tenantId capability connection ↔ Unshadowed connection after) := by
  have hindexes := init_indexes h
  have hfound := (hindexes.selected _).symm.trans hresolve
  rcases List.find?_eq_some_iff_append.mp hfound with ⟨hkey, before, after, hsplit, _⟩
  have hselection : connection.selection = (tenantId.text, capability) :=
    of_decide_eq_true hkey
  have htenant : connection.tenantId = tenantId.text := congrArg Prod.fst hselection
  have hcapability : connection.capability = capability := congrArg Prod.snd hselection
  refine ⟨before, after, hsplit, ?_⟩
  constructor
  · rintro ⟨id, hid, hpinned, hmatch⟩
    simp only [matchesCommand, Bool.and_eq_true, decide_eq_true_eq] at hmatch
    have hstrip : id.text = Text.strip connection.connectionId := by
      rw [CleanText.parse?_eq_some.mp hid, Text.trim_strip]
    have hsame := hmatch.left.left
    refine ⟨hstrip.symm.trans hsame.symm, ?_, ?_⟩
    · rw [hsame]
      exact id.clean.right
    · -- the last connection with the pin is this one
      intro c hc hcid hccap
      rw [hsplit] at hindexes
      have hlast := (hindexes.pinned_split _).symm.trans hpinned
      have hpin : c.pin = (id.text, capability) := by
        unfold ProviderConnection.pin
        rw [hcid, hccap, hsame, hcapability]
      cases hfind : after.reverse.find? fun c => decide (c.pin = (id.text, capability)) with
      | none =>
          exact List.find?_eq_none.mp hfind c (List.mem_reverse.mpr hc) (decide_eq_true hpin)
      | some d =>
          rw [hfind] at hlast
          cases hlast
          have hd := List.mem_reverse.mp (List.mem_of_find?_eq_some hfind)
          have hdistinct := (List.pairwise_append.mp hindexes.distinct).right.left
          exact (List.pairwise_cons.mp hdistinct).left connection hd rfl
  · intro hown
    have hclean : Text.trim connection.connectionId = connection.connectionId := by
      rw [← hown.stripped, Text.trim_strip]
    let id : CleanText :=
      { text := connection.connectionId, clean := ⟨hclean, hown.named⟩ }
    have hpin : connection.pin = (id.text, capability) := by
      rw [← hcapability]
      rfl
    rw [hsplit] at hindexes
    refine ⟨id, ?_, ?_, ?_⟩
    · unfold pinnedId
      rw [hown.stripped]
      exact CleanText.parse?_text id
    · have hnone : (after.reverse.find? fun c =>
          decide (c.pin = (id.text, capability))) = none := by
        rw [List.find?_eq_none]
        intro c hc hmatch
        have hcpin := (of_decide_eq_true hmatch).trans hpin.symm
        exact hown.last c (List.mem_reverse.mp hc) (congrArg Prod.fst hcpin)
          (congrArg Prod.snd hcpin)
      show r.byIdAndCapability.get _ = _
      rw [hindexes.pinned_split, hnone, List.find?_cons_of_pos (by simpa using hpin)]
      rfl
    · simp only [matchesCommand, Bool.and_eq_true, decide_eq_true_eq]
      exact ⟨⟨rfl, htenant⟩, hcapability⟩

/-!
## An example
-/

/-- The connection of a tenant of a provider that serves several tenants. -/
def sampleConnection (connectionId tenantId : String) : ProviderConnection :=
  { connectionId := connectionId
    tenantId := tenantId
    capability := ProviderCapability.orderOperation
    baseUrl := { scheme := "https", text := "https://provider.example.test/" }
    endpoint := "/v1/" ++ tenantId ++ "/commands"
    authentication :=
      { scheme := AuthScheme.bearer, credential := some "secret", apiKeyHeader := none }
    timeout := { connectSeconds := 5, readSeconds := 30, writeSeconds := 30 }
    maxConcurrency := 4
    requestsPerSecond := none }

def sampleConnections : List ProviderConnection :=
  [sampleConnection "provider" "acme", sampleConnection "provider" "umbrella"]

theorem sampleConnections_accepted : exists r,
    init sampleConnections false = Except.ok r ∧
      r.resolve "acme" ProviderCapability.orderOperation =
        some (sampleConnection "provider" "acme") ∧
      r.resolve "umbrella" ProviderCapability.orderOperation =
        some (sampleConnection "provider" "umbrella") ∧
      r.resolveByConnectionId "provider" ProviderCapability.orderOperation =
        some (sampleConnection "provider" "umbrella") :=
  ⟨_, rfl, rfl, rfl, rfl⟩

/-- Between the two, a connection of a third tenant under an id of its own. -/
def sampleMixedConnections : List ProviderConnection :=
  [sampleConnection "provider" "acme", sampleConnection "own" "initech",
    sampleConnection "provider" "umbrella"]

theorem sampleMixedConnections_accepted : exists r,
    init sampleMixedConnections false = Except.ok r ∧
      r.resolve "acme" ProviderCapability.orderOperation =
        some (sampleConnection "provider" "acme") ∧
      r.resolve "initech" ProviderCapability.orderOperation =
        some (sampleConnection "own" "initech") :=
  ⟨_, rfl, rfl, rfl⟩

theorem sampleMixedConnections_split {before after : List ProviderConnection}
    {connection : ProviderConnection}
    (h : sampleMixedConnections = before ++ connection :: after) :
    (connection.tenantId = "acme" -> sampleConnection "provider" "umbrella" ∈ after) ∧
      (connection.tenantId = "initech" ->
        after = [sampleConnection "provider" "umbrella"]) := by
  rcases before with _ | ⟨_, _ | ⟨_, before⟩⟩
  · rcases List.cons.inj h with ⟨rfl, rfl⟩
    exact ⟨fun _ => List.mem_cons_of_mem _ List.mem_cons_self, fun hno => absurd hno (by decide)⟩
  · rcases List.cons.inj (List.cons.inj h).right with ⟨rfl, rfl⟩
    exact ⟨fun hno => absurd hno (by decide), fun _ => rfl⟩
  · have hrest := (List.cons.inj (List.cons.inj h).right).right
    rcases before with _ | ⟨_, before⟩
    · rcases List.cons.inj hrest with ⟨rfl, rfl⟩
      exact ⟨fun hno => absurd hno (by decide), fun hno => absurd hno (by decide)⟩
    · have hnil := (List.cons.inj hrest).right
      cases before <;> cases hnil

theorem pinned_connection_round_trips_mixed : exists r acme initech,
    init sampleMixedConnections false = Except.ok r ∧
      RoundTrips r initech ProviderCapability.orderOperation
        (sampleConnection "own" "initech") ∧
      ¬RoundTrips r acme ProviderCapability.orderOperation
        (sampleConnection "provider" "acme") := by
  rcases sampleMixedConnections_accepted with ⟨r, hr, hacme, hinitech⟩
  let acme : CleanText := { text := "acme", clean := by decide }
  let initech : CleanText := { text := "initech", clean := by decide }
  refine ⟨r, acme, initech, hr, ?_, ?_⟩
  · rcases @pinned_connection_round_trips _ _ _ hr initech _ _ hinitech with
      ⟨before, after, hsplit, hiff⟩
    refine hiff.mpr ⟨by decide, by decide, ?_⟩
    rw [(sampleMixedConnections_split hsplit).right rfl]
    intro c hc hid
    rw [List.mem_singleton.mp hc] at hid
    exact absurd hid (by decide)
  · rcases @pinned_connection_round_trips _ _ _ hr acme _ _ hacme with
      ⟨before, after, hsplit, hiff⟩
    intro htrips
    exact (hiff.mp htrips).last _ ((sampleMixedConnections_split hsplit).left rfl) rfl rfl

/-- Two tenants of one provider: the command of the first finds the second. -/
theorem pinned_connection_shadowed :
    ¬forall (connections : List ProviderConnection) (allow : Bool)
      (r : ProviderConnectionResolver) (tenantId : CleanText)
      (capability : ProviderCapability) (connection : ProviderConnection),
      init connections allow = Except.ok r ->
      r.resolve tenantId.text capability = some connection ->
      RoundTrips r tenantId capability connection := by
  intro h
  rcases sampleConnections_accepted with ⟨r, hr, hresolve, _, hpinned⟩
  rcases h sampleConnections false r { text := "acme", clean := by decide } _ _ hr hresolve
    with ⟨id, hid, hfound, hmatch⟩
  simp only [matchesCommand, Bool.and_eq_true, decide_eq_true_eq] at hmatch
  rw [← hmatch.left.left] at hfound
  have hsame := hpinned.symm.trans hfound
  exact absurd (congrArg (fun c => c.map ProviderConnection.tenantId) hsame) (by decide)

end ProviderConnectionResolver
end RefundAgent
