import WaterCare.Py.Text
import WaterCare.Service.Authentication
import WaterCare.Store.World

/-!
`AccountLifecycleService` over the tables of users, groups and permissions. The lifecycle lock
serializes its calls, so each is one transaction; the tokens it revokes are not among the
tables.
-/

namespace WaterCare.Service
open Store Py

namespace AccountLifecycle
open AccountLifecycleService

structure Permission where
  id : Nat
  appLabel : String
  model : String
  codename : String
  deriving DecidableEq

structure Group where
  id : Nat
  name : String
  permissions : List Nat
  deriving DecidableEq

structure Member extends User where
  authVersion : Nat
  groups : List Nat
  userPermissions : List Nat
  deriving DecidableEq

structure Snapshot where
  role : UserRole
  isActive : Bool
  isStaff : Bool
  isSuperuser : Bool
  authVersion : Nat
  groups : List String
  permissions : List String
  credentialChanged : Option Bool
  deriving DecidableEq

inductive EventType
  | deactivate
  | reactivate
  | adminPermissionChange
  | credentialRecovery
  deriving DecidableEq

structure AuditEvent where
  actor : Nat
  target : Nat
  eventType : EventType
  before : Snapshot
  after : Snapshot
  changedFields : List String
  reason : String
  correlationId : Nat
  deriving DecidableEq

/-- The tables; users are known by their keys. -/
structure Accounts where
  users : List Member
  groups : List Group
  permissions : List Permission
  events : List AuditEvent
  nextGroup : Nat
  keys : (users.map fun user => user.id).Nodup

inductive Refusal
  | lifecycle (code : String)
  /-- The audit event does not pass its `full_clean`. -/
  | validation
  deriving DecidableEq

structure LifecycleSettings extends SessionSettings where
  /-- `full_clean` of a changed row raises nothing. -/
  isClean : Accounts → Member → Bool
  /-- PostgreSQL's `UPPER`, one character at a time. -/
  upper : Char → Char

/-- A call of the service; an id that is no UUID is `none`. -/
structure Request where
  change : Change
  actor : Nat
  target : Nat
  reason : String
  correlationId : Option Nat

/-! ### The policy group -/

def accountAdminGroup : String := "T017_ACCOUNT_ADMINISTRATORS"

def accountAdminPermissionCodes : List String := ["add_user", "change_user", "view_user"]

/-- Both lists have the same members. -/
def sameCodes (found codes : List String) : Bool :=
  found.all codes.contains && codes.all found.contains

section
variable (dir : Accounts)

def permissionsOf (group : Group) : List Permission :=
  dir.permissions.filter fun p => group.permissions.contains p.id

/-- The permission is one of the user model. -/
def Permission.isOfUser (p : Permission) : Bool :=
  decide (p.appLabel = "accounts") && decide (p.model = "user")

/-- The permissions that the policy names. -/
def policyPermissions : List Permission :=
  dir.permissions.filter fun p => p.isOfUser && accountAdminPermissionCodes.contains p.codename

def policyGroup : Option Group :=
  dir.groups.find? fun group => decide (group.name = accountAdminGroup)

/-- `Group.objects.get_or_create`. -/
def getOrCreateGroup : Accounts × Group :=
  match policyGroup dir with
  | some group => (dir, group)
  | none =>
      let group := ⟨dir.nextGroup, accountAdminGroup, []⟩
      ({ dir with groups := dir.groups ++ [group], nextGroup := dir.nextGroup + 1 }, group)

/-- `_ensure_policy_group`; codenames are compared whatever their model is. -/
def ensurePolicyGroup : Option (Accounts × Group) :=
  if !sameCodes ((policyPermissions dir).map (·.codename)) accountAdminPermissionCodes then none
  else
    let (dir, group) := getOrCreateGroup dir
    if sameCodes ((permissionsOf dir group).map (·.codename)) accountAdminPermissionCodes then
      some (dir, group)
    else
      let group := { group with permissions := (policyPermissions dir).map (·.id) }
      some ({ dir with groups := replaceRow (·.id) group dir.groups }, group)

/-- The group has every permission of the policy. -/
def grantsPolicy (group : Group) : Bool :=
  accountAdminPermissionCodes.all
    (((permissionsOf dir group).filter (·.isOfUser)).map (·.codename)).contains

/-- The row with what its membership is worth. -/
def account (group : Group) (user : Member) : Account where
  toUser := user.toUser
  authVersion := user.authVersion
  isAccountAdmin := user.groups.contains group.id && grantsPolicy dir group

/-- `_is_practical_admin`, where no group is given. -/
def isPracticalAdmin (user : Member) : Bool :=
  (policyGroup dir).any fun group => AccountLifecycleService.isPracticalAdmin (account dir group user)

/-! ### One call -/

/-- What the queries of a call find beside its two rows. -/
def findings (settings : LifecycleSettings) (group : Group) (target : Member) (change : Change) :
    Findings where
  policyComplete := true
  otherSuperuser := dir.users.any fun user => user.isActive && user.isStaff && user.isSuperuser &&
    decide (user.id ≠ target.id) && user.hasUsablePassword
  otherPracticalAdmin := dir.users.any fun user => user.isActive && user.isSynthetic &&
    user.isStaff && decide (user.role = .operator) && user.groups.contains group.id &&
      decide (user.id ≠ target.id) && user.hasUsablePassword
  usernameTaken :=
    match change with
    | .updateConsultantCredentials username _ =>
        let name :=
          match username with
          | some name => settings.normalizeSyntheticUsername name
          | none => some target.username
        name.any fun name => dir.users.any fun user => decide (user.id ≠ target.id) &&
          decide (user.username.toList.map settings.upper = name.toList.map settings.upper)
    | _ => false
  isClean :=
    match change with
    | .updateConsultantCredentials username _ =>
        let name :=
          match username with
          | some name => settings.normalizeSyntheticUsername name
          | none => some target.username
        name.all fun name => settings.isClean dir
          { target with username := name, authVersion := target.authVersion + 1 }
    | _ => true

/-- The row that a call saves, from the changed account. -/
def saved (group : Group) (target : Member) (change : Change) (row : Account) : Member where
  toUser := row.toUser
  authVersion := row.authVersion
  userPermissions := target.userPermissions
  groups :=
    match change with
    | .grantAccountAdmin => target.groups.insert group.id
    | .revokeAccountAdmin => target.groups.filter (· ≠ group.id)
    | _ => target.groups

def snapshot (user : Member) (credentialChanged : Option Bool) : Snapshot where
  role := user.role
  isActive := user.isActive
  isStaff := user.isStaff
  isSuperuser := user.isSuperuser
  authVersion := user.authVersion
  groups := sortedStrings
    ((dir.groups.filter fun group => user.groups.contains group.id).map (·.name))
  permissions := sortedStrings ((dir.permissions.filter fun p =>
    user.userPermissions.contains p.id || dir.groups.any fun group =>
      user.groups.contains group.id && group.permissions.contains p.id).map (·.codename))
  credentialChanged := credentialChanged

def forbiddenKeyFragments : List String := ["password", "token", "secret", "hash"]

/-- `_validate_snapshot`: no name has a forbidden part; the keys and the codes have none. -/
def Snapshot.isClean (snapshot : Snapshot) : Bool :=
  (snapshot.groups ++ snapshot.permissions).all fun name =>
    forbiddenKeyFragments.all fun fragment =>
      !isSubstring fragment (name.map fun c => c.toLower)

def Change.eventType : Change → EventType
  | .deactivate => .deactivate
  | .reactivate => .reactivate
  | .updateConsultantCredentials _ _ => .credentialRecovery
  | .grantAccountAdmin | .revokeAccountAdmin => .adminPermissionChange

def Change.fields : Change → List String
  | .deactivate | .reactivate => ["is_active", "auth_version"]
  | .updateConsultantCredentials _ _ => ["auth_version", "credential_changed"]
  | .grantAccountAdmin | .revokeAccountAdmin =>
      ["is_staff", "auth_version", "groups", "permissions"]

/-- Whether a credential has changed is told of credentials only. -/
def Change.credential (change : Change) (changed : Bool) : Option Bool :=
  match change with
  | .updateConsultantCredentials _ _ => some changed
  | _ => none

def put (user : Member) : Accounts :=
  { dir with
    users := replaceRow (·.id) user dir.users
    keys := by
      rw [map_replaceRow (fun user : Member => user.id)]
      exact dir.keys }

end

/-- The call from the locked rows on. -/
def perform (settings : LifecycleSettings) (dir : Accounts) (group : Group)
    (actor target : Member) (change : Change) (reason : String) (correlationId : Nat) :
    Except Refusal Accounts :=
  match changed settings.toSessionSettings (findings dir settings group target change)
      (account dir group actor) (account dir group target) change with
  | .error code => .error (.lifecycle code)
  | .ok row =>
      let user := saved group target change row
      let after := put dir user
      let event : AuditEvent :=
        { actor := actor.id
          target := target.id
          eventType := Change.eventType change
          before := snapshot dir target (Change.credential change false)
          after := snapshot after user (Change.credential change true)
          changedFields := Change.fields change
          reason := reason
          correlationId := correlationId }
      if event.before.isClean && event.after.isClean then
        .ok { after with events := after.events ++ [event] }
      else .error .validation

def memberOf (dir : Accounts) (id : Nat) : Option Member :=
  dir.users.find? fun user => decide (user.id = id)

/-- `deactivate`, `reactivate`, `update_consultant_credentials`, `grant_account_admin` and
`revoke_account_admin`. -/
def attempt (settings : LifecycleSettings) (dir : Accounts) (r : Request) :
    Except Refusal Accounts :=
  let reason := strip r.reason
  if reason = "" then .error (.lifecycle "REASON_REQUIRED")
  else
    match r.correlationId with
    | none => .error (.lifecycle "CORRELATION_ID_REQUIRED")
    | some correlationId =>
        match memberOf dir r.actor, memberOf dir r.target with
        | some actor, some target =>
            match ensurePolicyGroup dir with
            | none => .error (.lifecycle "ACCOUNT_ADMIN_POLICY_INCOMPLETE")
            | some (dir, group) =>
                perform settings dir group actor target r.change reason correlationId
        | _, _ => .error (.lifecycle "ACCOUNT_NOT_FOUND")

/-- A refused call is rolled back, with the repair of the group. -/
def execute (settings : LifecycleSettings) (dir : Accounts) (r : Request) :
    Accounts × Option Refusal :=
  match attempt settings dir r with
  | .error refusal => (dir, some refusal)
  | .ok after => (after, none)

end AccountLifecycle
end WaterCare.Service
