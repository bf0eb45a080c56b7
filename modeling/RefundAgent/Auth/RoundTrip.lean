import RefundAgent.Auth.Identity

/-!
# The trip of an identity

An identity that the claim policy makes is read back from the payload that the
server keeps of it: its key splits at the only separator, its permissions name
exactly one role, and stripping finds nothing more to strip.
-/

namespace RefundAgent

open Foundation

/-!
## Values
-/

theorem Role.parse?_value (r : Role) : Role.parse? r.value = some r := by
  cases r with
  | customer => rfl
  | supportAgent => rfl
  | supervisor => rfl

theorem Permission.mem_all (p : Permission) : p ∈ Permission.all := by
  cases p <;> decide

theorem Permission.value_injective : Function.Injective Permission.value := by
  intro p q h
  cases p <;> cases q <;> first | rfl | exact absurd h (by decide)

theorem Permission.parse?_value (p : Permission) : Permission.parse? p.value = some p := by
  unfold Permission.parse?
  cases hfind : Permission.all.find? fun q => decide (q.value = p.value) with
  | none =>
      have hnone := List.find?_eq_none.mp hfind p (Permission.mem_all p)
      exact absurd (decide_eq_true rfl) hnone
  | some q =>
      have hq := List.find?_some hfind
      rw [decide_eq_true_eq] at hq
      rw [Permission.value_injective hq]

theorem rolePermissions_injective {r r' : Role}
    (h : (rolePermissions r).toFinset = (rolePermissions r').toFinset) : r = r' := by
  revert h
  cases r <;> cases r' <;> decide

theorem deriveRole_eq_some {permissions : Finset Permission} {role : Role} :
    deriveRole permissions = some role ↔ permissions = (rolePermissions role).toFinset := by
  unfold deriveRole
  constructor
  · intro h
    have hrole := List.find?_some h
    rwa [decide_eq_true_eq] at hrole
  · intro h
    cases hfind : Role.all.find? fun r =>
        decide (permissions = (rolePermissions r).toFinset) with
    | none =>
        have hrole : role ∈ Role.all := by cases role <;> decide
        exact absurd (decide_eq_true h) (List.find?_eq_none.mp hfind role hrole)
    | some r =>
        have hr := List.find?_some hfind
        rw [decide_eq_true_eq] at hr
        rw [rolePermissions_injective (hr.symm.trans h)]

/-!
## Keys
-/

theorem encodeIdentityKey_eq_ok {tenantId userId key : String} :
    encodeIdentityKey tenantId userId = Except.ok key ↔
      checkIdentityPart tenantId "tenant_id" = Except.ok () ∧
        checkIdentityPart userId "user_id" = Except.ok () ∧
          key = tenantId ++ ":" ++ userId := by
  unfold encodeIdentityKey
  cases hTenant : checkIdentityPart tenantId "tenant_id" with
  | error e => simp [Bind.bind, Except.bind]
  | ok _ =>
      cases hUser : checkIdentityPart userId "user_id" with
      | error e => simp [Bind.bind, Except.bind]
      | ok _ => simp [Bind.bind, Except.bind, pure, Except.pure, eq_comm]

theorem colon_not_mem_of_check {value field : String}
    (h : checkIdentityPart value field = Except.ok ()) : ':' ∉ value.toList := by
  have hvalid := (checkIdentityPart_eq_ok.mp h).left
  unfold validateIdentityPart at hvalid
  rw [Bool.and_eq_true] at hvalid
  exact of_decide_eq_true hvalid.right

theorem decodeIdentityKey_encode {tenantId userId key : String}
    (h : encodeIdentityKey tenantId userId = Except.ok key) :
    decodeIdentityKey key = Except.ok (tenantId, userId) := by
  rcases encodeIdentityKey_eq_ok.mp h with ⟨hTenant, hUser, rfl⟩
  have htenant := colon_not_mem_of_check hTenant
  have huser := colon_not_mem_of_check hUser
  have hlist : (tenantId ++ ":" ++ userId).toList =
      tenantId.toList ++ ':' :: userId.toList := by
    simp [String.toList_append]
  have hcount : (tenantId ++ ":" ++ userId).toList.count ':' = 1 := by
    rw [hlist, List.count_append, List.count_cons_self, List.count_eq_zero.mpr htenant,
      List.count_eq_zero.mpr huser]
  have hsplit : ((tenantId ++ ":" ++ userId).toList.splitOn ':').map String.ofList =
      [tenantId, userId] := by
    rw [hlist, List.splitOn_append_cons_self_of_not_mem htenant,
      List.splitOn_eq_singleton huser]
    simp
  unfold decodeIdentityKey
  rw [if_neg (not_not.mpr hcount), hsplit]
  simp only [hTenant, hUser]
  rfl

theorem encodeIdentityKey_injective {tenantId userId tenantId' userId' key : String}
    (h : encodeIdentityKey tenantId userId = Except.ok key)
    (h' : encodeIdentityKey tenantId' userId' = Except.ok key) :
    tenantId = tenantId' ∧ userId = userId' := by
  have hpair := (decodeIdentityKey_encode h).symm.trans (decodeIdentityKey_encode h')
  exact Prod.mk.inj (Except.ok.inj hpair)

namespace AuthenticatedIdentity

theorem parse?_self (i : AuthenticatedIdentity) :
    parse? i.userId.text i.tenantId.text i.role i.permissions = some i := by
  unfold parse?
  simp only [CleanText.parse?_text]
  rw [dif_pos i.tenantValid, dif_pos i.userValid]

theorem parse?_eq_some {userId tenantId : String} {role : Role}
    {permissions : Finset Permission} {i : AuthenticatedIdentity}
    (h : parse? userId tenantId role permissions = some i) :
    i.role = role ∧ i.permissions = permissions := by
  unfold parse? at h
  split at h
  · split at h
    · split at h
      · rw [← Option.some.inj h]
        exact ⟨rfl, rfl⟩
      · cases h
    · cases h
  · cases h

theorem identityKey_eq (i : AuthenticatedIdentity) :
    i.identityKey = Except.ok (i.tenantId.text ++ ":" ++ i.userId.text) :=
  encodeIdentityKey_eq_ok.mpr ⟨i.tenantValid, i.userValid, rfl⟩

theorem scope_eq (i : AuthenticatedIdentity) : exists scope : AccessScope,
    i.scope = some scope ∧ scope.tenantId = i.tenantId ∧ scope.userId = i.userId ∧
      scope.role = i.role ∧ forall p, p ∈ scope.permissions ↔ p ∈ i.permissions := by
  unfold AuthenticatedIdentity.scope AccessScope.parse?
  simp only [CleanText.parse?_text]
  rw [dif_pos i.tenantValid, dif_pos i.userValid]
  refine ⟨_, rfl, rfl, rfl, rfl, ?_⟩
  intro p
  rw [List.mem_filter, decide_eq_true_eq]
  exact and_iff_right (Permission.mem_all p)

end AuthenticatedIdentity

/-!
## The claims
-/

theorem identityFromVerifiedClaims_permissions {claims : List (String × JsonTree)}
    {mapping : ClaimMappingConfig} {i : AuthenticatedIdentity}
    (h : identityFromVerifiedClaims claims mapping = Except.ok i) :
    i.permissions = (rolePermissions i.role).toFinset := by
  unfold identityFromVerifiedClaims at h
  simp only [Bind.bind, Except.bind] at h
  split at h
  · cases h
  · split at h
    · cases h
    · split at h
      · cases h
      · split at h
        · cases h
        · split at h
          · split at h
            · next hparse =>
                rcases AuthenticatedIdentity.parse?_eq_some hparse with ⟨hrole, hpermissions⟩
                cases h
                rw [hrole, hpermissions]
            · cases h
          · cases h

/-!
## The payload
-/

theorem mapM_readPermission (permissions : List Permission) :
    ((permissions.map Permission.value).map UserValue.text).mapM readPermission =
      Except.ok permissions := by
  induction permissions with
  | nil => rfl
  | cons p rest ih =>
      have hp : readPermission (UserValue.text p.value) = Except.ok p := by
        simp only [readPermission, Permission.parse?_value]
      rw [List.map_cons, List.map_cons, List.mapM_cons, hp, ih]
      rfl

theorem sort_values (permissions : Finset Permission) :
    exists listed : List Permission, listed.toFinset = permissions ∧
      (permissions.image Permission.value).sort (· ≤ ·) = listed.map Permission.value := by
  have hrange : (permissions.image Permission.value).sort (· ≤ ·) ∈
      Set.range (List.map Permission.value) := by
    rw [Set.range_list_map]
    intro s hs
    rcases Finset.mem_image.mp ((Finset.mem_sort _).mp hs) with ⟨p, _, rfl⟩
    exact Set.mem_range_self p
  rcases hrange with ⟨listed, hlisted⟩
  refine ⟨listed, ?_, hlisted.symm⟩
  have himage : listed.toFinset.image Permission.value =
      permissions.image Permission.value := by
    ext s
    have hs : s ∈ listed.map Permission.value ↔ s ∈ permissions.image Permission.value := by
      rw [hlisted, Finset.mem_sort]
    rw [← hs, List.mem_map, Finset.mem_image]
    simp only [List.mem_toFinset]
  exact Finset.image_injective Permission.value_injective himage

theorem identityFromUserPayload_userFields {i : AuthenticatedIdentity} {key : String}
    (hkey : i.identityKey = Except.ok key)
    (hpermissions : i.permissions = (rolePermissions i.role).toFinset) :
    identityFromUserPayload (UserPayload.dict (userFields i key)) = Except.ok i := by
  have hidentity : (UserPayload.dict (userFields i key)).read "identity" =
      some (UserValue.text key) := rfl
  have hrole : (UserPayload.dict (userFields i key)).read "role" =
      some (UserValue.text i.role.value) := rfl
  have hread : (UserPayload.dict (userFields i key)).read "permissions" =
      some (UserValue.collection false
        (((i.permissions.image Permission.value).sort (· ≤ ·)).map UserValue.text)) := rfl
  have hparts : readIdentityKey (UserPayload.dict (userFields i key)) =
      Except.ok (i.tenantId.text, i.userId.text) := by
    have hvisible : Text.strip key ≠ "" := by
      rw [i.identityKey_eq] at hkey
      rw [← Except.ok.inj hkey]
      intro hblank
      have hcolon := Text.stripWith_eq_empty.mp hblank ':' (by simp [String.toList_append])
      exact absurd hcolon (by decide)
    unfold readIdentityKey
    simp only [hidentity, if_neg hvisible, decodeIdentityKey_encode hkey]
  have hset : readPermissions (UserPayload.dict (userFields i key)) =
      Except.ok i.permissions := by
    rcases sort_values i.permissions with ⟨listed, hlisted, hsort⟩
    unfold readPermissions
    simp only [hread, hsort, mapM_readPermission]
    exact congrArg Except.ok hlisted
  have hderived := deriveRole_eq_some.mpr hpermissions
  have hmatch : readRole (UserPayload.dict (userFields i key)) i.role =
      Except.ok i.role := by
    unfold readRole
    simp only [hrole, Role.parse?_value, if_pos]
  simp only [identityFromUserPayload, Bind.bind, Except.bind, hparts, hset, hderived, hmatch,
    i.parse?_self]
  rfl

theorem readRole_eq_ok {payload : UserPayload} {derived role : Role}
    (h : readRole payload derived = Except.ok role) : role = derived := by
  unfold readRole at h
  split at h
  · split at h
    · split at h
      · next hsame => exact (Except.ok.inj h).symm.trans hsame
      · cases h
    · exact (Except.ok.inj h).symm
  · exact (Except.ok.inj h).symm

theorem identityFromUserPayload_permissions {payload : UserPayload}
    {i : AuthenticatedIdentity} (h : identityFromUserPayload payload = Except.ok i) :
    i.permissions = (rolePermissions i.role).toFinset := by
  unfold identityFromUserPayload at h
  split at h
  · cases h
  · simp only [Bind.bind, Except.bind] at h
    split at h
    · cases h
    · split at h
      · cases h
      · split at h
        · cases h
        · next hderived =>
            split at h
            · cases h
            · next hrole =>
                split at h
                · next hparse =>
                    rcases AuthenticatedIdentity.parse?_eq_some hparse with ⟨hi, hset⟩
                    cases h
                    rw [hset, hi, readRole_eq_ok hrole]
                    exact deriveRole_eq_some.mp hderived
                · cases h

/-!
## The trip
-/

/--
Identity survives the trip through the agent server.  An identity that the claim
policy makes of verified claims is the one read back from the dictionary kept of it,
with the same scope; keys tell tenants and users apart and decode to them; and an
accepted payload, whatever its fields, has exactly the permissions of its role.
-/
theorem identity_survives :
    (forall claims mapping i,
      identityFromVerifiedClaims claims mapping = Except.ok i ->
      exists fields scope, authenticate (Except.ok i) = Except.ok fields ∧
        identityFromUserPayload (UserPayload.dict fields) = Except.ok i ∧
        i.scope = some scope ∧
        forall j, identityFromUserPayload (UserPayload.dict fields) = Except.ok j ->
          j.scope = some scope) ∧
    (forall claims mapping i claims' mapping' j,
      identityFromVerifiedClaims claims mapping = Except.ok i ->
      identityFromVerifiedClaims claims' mapping' = Except.ok j ->
      exists key, encodeIdentityKey i.tenantId.text i.userId.text = Except.ok key ∧
        decodeIdentityKey key = Except.ok (i.tenantId.text, i.userId.text) ∧
        (encodeIdentityKey j.tenantId.text j.userId.text = Except.ok key ->
          i.tenantId = j.tenantId ∧ i.userId = j.userId)) ∧
    forall payload i, identityFromUserPayload payload = Except.ok i ->
      i.permissions = (rolePermissions i.role).toFinset := by
  refine ⟨?_, ?_, fun payload i h => identityFromUserPayload_permissions h⟩
  · intro claims mapping i h
    have hkey := i.identityKey_eq
    have hback := identityFromUserPayload_userFields hkey
      (identityFromVerifiedClaims_permissions h)
    rcases i.scope_eq with ⟨scope, hscope, _⟩
    refine ⟨_, scope, by simp only [authenticate, hkey], hback, hscope, ?_⟩
    intro j hj
    rw [← Except.ok.inj (hback.symm.trans hj)]
    exact hscope
  · intro claims mapping i claims' mapping' j _ _
    have hkey := i.identityKey_eq
    refine ⟨_, hkey, decodeIdentityKey_encode hkey, ?_⟩
    intro hsame
    rcases encodeIdentityKey_injective hkey hsame with ⟨htenant, huser⟩
    exact ⟨CleanText.ext htenant, CleanText.ext huser⟩

def sampleMapping : ClaimMappingConfig :=
  { userIdClaim := "sub"
    tenantIdClaim := "tenant"
    groupsClaim := "groups"
    roleGroups := [(Role.customer, ["customers"]), (Role.supervisor, ["leads"])] }

/-- The claims of a verified token, with blanks around the name of the tenant. -/
def sampleClaims (user group : String) : List (String × JsonTree) :=
  [("sub", JsonTree.string user), ("tenant", JsonTree.string " acme "),
    ("groups", JsonTree.array [JsonTree.string group])]

theorem sampleClaims_read (user group : String)
    (h : (identityFromVerifiedClaims (sampleClaims user group) sampleMapping).toOption.map
      (fun i => i.userId.text) = some user) :
    exists i, identityFromVerifiedClaims (sampleClaims user group) sampleMapping =
      Except.ok i ∧ i.userId.text = user := by
  cases hi : identityFromVerifiedClaims (sampleClaims user group) sampleMapping with
  | error e =>
      rw [hi] at h
      cases h
  | ok i =>
      rw [hi] at h
      exact ⟨i, rfl, Option.some.inj h⟩

theorem identity_survives_tenant : exists i j fields scope key,
    identityFromVerifiedClaims (sampleClaims "ada" "customers") sampleMapping = Except.ok i ∧
    identityFromVerifiedClaims (sampleClaims "grace" "leads") sampleMapping = Except.ok j ∧
    authenticate (Except.ok i) = Except.ok fields ∧
    identityFromUserPayload (UserPayload.dict fields) = Except.ok i ∧
    i.scope = some scope ∧
    i.permissions = (rolePermissions i.role).toFinset ∧
    encodeIdentityKey i.tenantId.text i.userId.text = Except.ok key ∧
    decodeIdentityKey key = Except.ok (i.tenantId.text, "ada") ∧
    encodeIdentityKey j.tenantId.text j.userId.text ≠ Except.ok key := by
  rcases sampleClaims_read "ada" "customers" (by decide +kernel) with
    ⟨i, hi, hada⟩
  rcases sampleClaims_read "grace" "leads" (by decide +kernel) with
    ⟨j, hj, hgrace⟩
  rcases identity_survives.left _ _ i hi with ⟨fields, scope, hfields, hback, hscope, _⟩
  rcases identity_survives.right.left _ _ i _ _ j hi hj with ⟨key, hkey, hdecoded, hinjective⟩
  rw [hada] at hdecoded
  refine ⟨i, j, fields, scope, key, hi, hj, hfields, hback, hscope,
    identity_survives.right.right _ i hback, hkey, hdecoded, ?_⟩
  intro hsame
  have huser := (hinjective hsame).right
  rw [huser, hgrace] at hada
  exact absurd hada (by decide)

end RefundAgent
