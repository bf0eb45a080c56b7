import RefundAgent.Foundation.Dict
import RefundAgent.Foundation.JsonTree
import RefundAgent.Model.Database
import Mathlib.Data.Finset.Sort
import Mathlib.Data.String.Basic

/-!
# Identities

The claims of a verified token as an identity, the payload that the agent server
keeps of it, and the identity that the graph reads back from such a payload.  A
`frozenset` of permissions is a `Finset`.
-/

namespace RefundAgent

open Foundation

/-!
## Roles and permissions
-/

namespace Role

def value : Role -> String
  | customer => "customer"
  | supportAgent => "support_agent"
  | supervisor => "supervisor"

def all : List Role := [customer, supportAgent, supervisor]

/-- The role with a value, if the value is in `_VALID_ROLES`. -/
def parse? (s : String) : Option Role :=
  all.find? fun r => decide (r.value = s)

end Role

namespace Permission

def value : Permission -> String
  | ordersReadOwn => "orders:read:own"
  | ordersOperateOwn => "orders:operate:own"
  | casesReadOwn => "cases:read:own"
  | casesReadAssigned => "cases:read:assigned"
  | casesReadAll => "cases:read:all"
  | casesUpdateAssigned => "cases:update:assigned"
  | casesUpdateAll => "cases:update:all"
  | casesAssign => "cases:assign"
  | providerOpsRead => "provider_ops:read"
  | providerOpsRedrive => "provider_ops:redrive"

def all : List Permission :=
  [ordersReadOwn, ordersOperateOwn, casesReadOwn, casesReadAssigned, casesReadAll,
    casesUpdateAssigned, casesUpdateAll, casesAssign, providerOpsRead,
    providerOpsRedrive]

/-- The permission with a value, if the value is in `_VALID_PERMISSIONS`. -/
def parse? (s : String) : Option Permission :=
  all.find? fun p => decide (p.value = s)

end Permission

/-- `ROLE_PERMISSIONS`. -/
def rolePermissions : Role -> List Permission
  | Role.customer =>
      [Permission.ordersReadOwn, Permission.ordersOperateOwn, Permission.casesReadOwn]
  | Role.supportAgent => [Permission.casesReadAssigned, Permission.casesUpdateAssigned]
  | Role.supervisor =>
      [Permission.casesReadOwn, Permission.casesReadAssigned, Permission.casesReadAll,
        Permission.casesUpdateAssigned, Permission.casesUpdateAll,
        Permission.casesAssign, Permission.providerOpsRead,
        Permission.providerOpsRedrive]

/-- `derive_role`; `none` is the `ValueError`. -/
def deriveRole (permissions : Finset Permission) : Option Role :=
  Role.all.find? fun role => decide (permissions = (rolePermissions role).toFinset)

/-!
## Identity keys
-/

def reservedTenantIds : List String := ["legacy"]

/-- `_validate_identity_part`, with the texts of its errors. -/
def checkIdentityPart (value field : String) : Except Failure Unit :=
  if Text.strip value = "" then
    Except.error (Failure.valueError (field ++ " must be a non-empty string"))
  else if ':' ∈ value.toList then
    Except.error (Failure.valueError (field ++ " must not contain the separator ':'"))
  else if field = "tenant_id" ∧ Text.strip value ∈ reservedTenantIds then
    Except.error (Failure.valueError (field ++ " is reserved: " ++ Text.strip value))
  else
    Except.ok ()

/-- `encode_identity_key`. -/
def encodeIdentityKey (tenantId userId : String) : Except Failure String := do
  checkIdentityPart tenantId "tenant_id"
  checkIdentityPart userId "user_id"
  pure (tenantId ++ ":" ++ userId)

/-- `decode_identity_key`. -/
def decodeIdentityKey (key : String) : Except Failure (String × String) :=
  if key.toList.count ':' ≠ 1 then
    Except.error (Failure.valueError "identity key must contain exactly one separator")
  else
    match (key.toList.splitOn ':').map String.ofList with
    | [tenantId, userId] => do
        checkIdentityPart tenantId "tenant_id"
        checkIdentityPart userId "user_id"
        pure (tenantId, userId)
    | _ => Except.error (Failure.valueError "not enough values to unpack")

/-!
## Identities and scopes
-/

/-- `AuthenticatedIdentity`, together with what its validator has checked. -/
structure AuthenticatedIdentity where
  userId : CleanText
  tenantId : CleanText
  role : Role
  permissions : Finset Permission
  tenantValid : checkIdentityPart tenantId.text "tenant_id" = Except.ok ()
  userValid : checkIdentityPart userId.text "user_id" = Except.ok ()

theorem checkIdentityPart_eq_ok {value field : String} :
    checkIdentityPart value field = Except.ok () ↔
      validateIdentityPart value = true ∧
        ¬(field = "tenant_id" ∧ Text.strip value ∈ reservedTenantIds) := by
  unfold checkIdentityPart validateIdentityPart
  rw [Bool.and_eq_true, decide_eq_true_eq, decide_eq_true_eq]
  by_cases hempty : Text.strip value = ""
  · rw [if_pos hempty]
    exact ⟨fun h => (by cases h), fun h => absurd hempty h.left.left⟩
  · rw [if_neg hempty]
    by_cases hcolon : ':' ∈ value.toList
    · rw [if_pos hcolon]
      exact ⟨fun h => (by cases h), fun h => absurd hcolon h.left.right⟩
    · rw [if_neg hcolon]
      by_cases hreserved : field = "tenant_id" ∧ Text.strip value ∈ reservedTenantIds
      · rw [if_pos hreserved]
        exact ⟨fun h => (by cases h), fun h => absurd hreserved h.right⟩
      · rw [if_neg hreserved]
        exact ⟨fun _ => ⟨⟨hempty, hcolon⟩, hreserved⟩, fun _ => rfl⟩

theorem checkIdentityPart_tenant {value : String} :
    checkIdentityPart value "tenant_id" = Except.ok () ↔
      validateIdentityPart value = true ∧ Text.strip value ≠ "legacy" := by
  rw [checkIdentityPart_eq_ok]
  constructor
  · rintro ⟨hvalid, hfree⟩
    exact ⟨hvalid, fun h => hfree ⟨rfl, List.mem_singleton.mpr h⟩⟩
  · rintro ⟨hvalid, hfree⟩
    exact ⟨hvalid, fun h => hfree (List.mem_singleton.mp h.right)⟩

theorem checkIdentityPart_user {value : String} :
    checkIdentityPart value "user_id" = Except.ok () ↔
      validateIdentityPart value = true := by
  rw [checkIdentityPart_eq_ok]
  exact ⟨fun h => h.left, fun h => ⟨h, fun hfield => absurd hfield.left (by decide)⟩⟩

instance (value : String) : Decidable (checkIdentityPart value "tenant_id" = Except.ok ()) :=
  decidable_of_iff _ checkIdentityPart_tenant.symm

instance (value : String) : Decidable (checkIdentityPart value "user_id" = Except.ok ()) :=
  decidable_of_iff _ checkIdentityPart_user.symm

namespace AuthenticatedIdentity

/-- Validation: strip, refuse empty texts, then the validator of the model. -/
def parse? (userId tenantId : String) (role : Role) (permissions : Finset Permission) :
    Option AuthenticatedIdentity :=
  match CleanText.parse? userId, CleanText.parse? tenantId with
  | some userId, some tenantId =>
      if hTenant : checkIdentityPart tenantId.text "tenant_id" = Except.ok () then
        if hUser : checkIdentityPart userId.text "user_id" = Except.ok () then
          some
            { userId := userId
              tenantId := tenantId
              role := role
              permissions := permissions
              tenantValid := hTenant
              userValid := hUser }
        else
          none
      else
        none
  | _, _ => none

/-- `identity_key`. -/
def identityKey (i : AuthenticatedIdentity) : Except Failure String :=
  encodeIdentityKey i.tenantId.text i.userId.text

end AuthenticatedIdentity

/-- Validation of an `AccessScope`; the permissions are listed in their own order. -/
def AccessScope.parse? (tenantId userId : String) (role : Role)
    (permissions : Finset Permission) : Option AccessScope :=
  match CleanText.parse? tenantId, CleanText.parse? userId with
  | some tenantId, some userId =>
      if hTenant : checkIdentityPart tenantId.text "tenant_id" = Except.ok () then
        if hUser : checkIdentityPart userId.text "user_id" = Except.ok () then
          some
            { tenantId := tenantId
              userId := userId
              role := role
              permissions := Permission.all.filter fun p => decide (p ∈ permissions)
              tenantValid := checkIdentityPart_tenant.mp hTenant
              userValid := checkIdentityPart_user.mp hUser }
        else
          none
      else
        none
  | _, _ => none

/-- `scope`. -/
def AuthenticatedIdentity.scope (i : AuthenticatedIdentity) : Option AccessScope :=
  AccessScope.parse? i.tenantId.text i.userId.text i.role i.permissions

/-!
## The claim policy
-/

structure ClaimMappingConfig where
  userIdClaim : String
  tenantIdClaim : String
  groupsClaim : String
  roleGroups : Dict Role (List String)

/-- `_required_string_claim`. -/
def requiredStringClaim (claims : List (String × JsonTree)) (name : String) :
    Except Failure String :=
  match JsonTree.field claims name with
  | some (JsonTree.string value) =>
      if Text.strip value = "" then
        Except.error (Failure.unauthenticated "required identity claim is invalid")
      else
        Except.ok (Text.strip value)
  | _ => Except.error (Failure.unauthenticated "required identity claim is invalid")

/-- The stripped name of a group. -/
def groupName : JsonTree -> Option String
  | JsonTree.string group => if Text.strip group = "" then none else some (Text.strip group)
  | _ => none

/-- `_required_string_sequence_claim`. -/
def requiredStringSequenceClaim (claims : List (String × JsonTree)) (name : String) :
    Except Failure (List String) :=
  match JsonTree.field claims name with
  | some (JsonTree.array (item :: items)) =>
      match (item :: items).mapM groupName with
      | some groups => Except.ok groups
      | none =>
          Except.error (Failure.unauthenticated "required identity groups claim is invalid")
  | _ => Except.error (Failure.unauthenticated "required identity groups claim is invalid")

/-- The roles that one of the groups belongs to. -/
def ClaimMappingConfig.matchedRoles (mapping : ClaimMappingConfig) (groups : List String) :
    List Role :=
  ((mapping.roleGroups.filter fun e => groups.any fun g => decide (g ∈ e.2)).map
    Prod.fst).dedup

/-- `identity_from_verified_claims`. -/
def identityFromVerifiedClaims (claims : List (String × JsonTree))
    (mapping : ClaimMappingConfig) : Except Failure AuthenticatedIdentity := do
  if (JsonTree.field claims "permissions").isSome then
    Except.error (Failure.unauthenticated "token permissions are not accepted")
  let userId ← requiredStringClaim claims mapping.userIdClaim
  let tenantId ← requiredStringClaim claims mapping.tenantIdClaim
  let groups ← requiredStringSequenceClaim claims mapping.groupsClaim
  match mapping.matchedRoles groups with
  | [role] =>
      match AuthenticatedIdentity.parse? userId tenantId role
          (rolePermissions role).toFinset with
      | some identity => pure identity
      | none => Except.error (Failure.unauthenticated "identity claims are invalid")
  | _ => Except.error (Failure.unauthenticated "identity role mapping is invalid")

/-!
## The payload of the server
-/

/-- The values of a payload; a collection is a list, a tuple, a set or a frozenset. -/
inductive UserValue where
  | text (s : String)
  | flag (b : Bool)
  | collection (hashable : Bool) (items : List UserValue)
  | other (hashable : Bool)

/-- A dictionary, or an object with attributes and items. -/
inductive UserPayload where
  | missing
  | dict (fields : Dict String UserValue)
  | object (attributes items : Dict String UserValue)

/-- `_read`; `none` is Python's `None`. -/
def UserPayload.read : UserPayload -> String -> Option UserValue
  | missing, _ => none
  | dict fields, key => fields.get key
  | object attributes items, key =>
      match attributes.get key with
      | some value => some value
      | none => items.get key

inductive PayloadError where
  | unauthenticated (message : String)
  | unknownPermission (permission : UserValue)
  | unhashable
  | validationError

/-- A member of the permissions; the lookup in a set hashes what it looks up. -/
def readPermission : UserValue -> Except PayloadError Permission
  | UserValue.text s =>
      match Permission.parse? s with
      | some permission => Except.ok permission
      | none => Except.error (PayloadError.unknownPermission (UserValue.text s))
  | UserValue.flag b => Except.error (PayloadError.unknownPermission (UserValue.flag b))
  | UserValue.collection false _ => Except.error PayloadError.unhashable
  | UserValue.other false => Except.error PayloadError.unhashable
  | value => Except.error (PayloadError.unknownPermission value)

/-- The key, decoded. -/
def readIdentityKey (payload : UserPayload) : Except PayloadError (String × String) :=
  match payload.read "identity" with
  | some (UserValue.text key) =>
      if Text.strip key = "" then
        Except.error (PayloadError.unauthenticated "authenticated user has no identity key")
      else
        match decodeIdentityKey key with
        | Except.ok parts => Except.ok parts
        | Except.error _ => Except.error
            (PayloadError.unauthenticated "authenticated user has an invalid identity key")
  | _ => Except.error (PayloadError.unauthenticated "authenticated user has no identity key")

/-- The permissions, checked one by one. -/
def readPermissions (payload : UserPayload) : Except PayloadError (Finset Permission) :=
  match payload.read "permissions" with
  | some (UserValue.collection _ items) => List.toFinset <$> items.mapM readPermission
  | _ => Except.error (PayloadError.unauthenticated "authenticated user has no permissions")

/-- The role that the payload names, which has to be the derived one. -/
def readRole (payload : UserPayload) (derived : Role) : Except PayloadError Role :=
  match payload.read "role" with
  | some (UserValue.text s) =>
      match Role.parse? s with
      | some role =>
          if role = derived then
            Except.ok role
          else
            Except.error (PayloadError.unauthenticated "role and permissions do not match")
      | none => Except.ok derived
  | _ => Except.ok derived

/-- `identity_from_user_payload`. -/
def identityFromUserPayload (payload : UserPayload) :
    Except PayloadError AuthenticatedIdentity :=
  match payload with
  | UserPayload.missing =>
      Except.error (PayloadError.unauthenticated "authenticated user is missing")
  | payload => do
      let parts ← readIdentityKey payload
      let permissions ← readPermissions payload
      match deriveRole permissions with
      | none =>
          Except.error
            (PayloadError.unauthenticated "permission set does not map to a known role")
      | some derived => do
          let role ← readRole payload derived
          match AuthenticatedIdentity.parse? parts.2 parts.1 role permissions with
          | some identity => pure identity
          | none => Except.error PayloadError.validationError

inductive ResolveError where
  | unauthenticated
  | infrastructureUnavailable

inductive AuthenticateError where
  | httpException (statusCode : Nat) (detail : String)
  | raised (failure : Failure)

/-- The dictionary that the server keeps of an identity. -/
def userFields (i : AuthenticatedIdentity) (key : String) : Dict String UserValue :=
  [("identity", UserValue.text key),
    ("display_name", UserValue.text (i.role.value ++ ":" ++ i.userId.text)),
    ("is_authenticated", UserValue.flag true),
    ("permissions", UserValue.collection false
      (((i.permissions.image Permission.value).sort (· ≤ ·)).map UserValue.text)),
    ("user_id", UserValue.text i.userId.text),
    ("tenant_id", UserValue.text i.tenantId.text),
    ("role", UserValue.text i.role.value)]

/-- `authenticate`, given what the identity provider resolved. -/
def authenticate :
    Except ResolveError AuthenticatedIdentity -> Except AuthenticateError (Dict String UserValue)
  | Except.error ResolveError.unauthenticated =>
      Except.error (AuthenticateError.httpException 401 "Unauthorized")
  | Except.error ResolveError.infrastructureUnavailable =>
      Except.error (AuthenticateError.httpException 503 "Identity service unavailable")
  | Except.ok identity =>
      match identity.identityKey with
      | Except.ok key => Except.ok (userFields identity key)
      | Except.error e => Except.error (AuthenticateError.raised e)

end RefundAgent
