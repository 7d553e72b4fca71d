import Mathlib.Logic.Function.Basic
import WaterCare.Machine.Locks
import WaterCare.Py.Text
import WaterCare.Store.Rows

/-!
`authentication_service.py`, `account_lifecycle_service.py` and `jwt_authentication.py`: pairs
of tokens and what revokes them. A transaction sees what is committed and what it has written
itself, keeps its row locks to its end, and is taken one query at a time.
-/

namespace WaterCare.Service
open Store Py

/-! ### Rows and tokens -/

/-- A user with what its sessions depend on. -/
structure Account extends User where
  authVersion : Nat
  /-- In the group of the account administrators. -/
  isAccountAdmin : Bool
  deriving DecidableEq

/-- The claims of a refresh token; `sub` stands for the user's row. -/
structure RefreshToken where
  jti : Nat
  subject : Nat
  roleCode : UserRole
  authVersion : Nat
  iat : Instant
  exp : Instant
  deriving DecidableEq

structure AccessToken where
  subject : Nat
  roleCode : UserRole
  authVersion : Nat
  iat : Instant
  exp : Instant
  deriving DecidableEq

structure TokenPair where
  access : AccessToken
  refresh : RefreshToken
  accessExpiresIn : Nat
  refreshExpiresIn : Nat
  deriving DecidableEq

structure OutstandingToken where
  jti : Nat
  user : Nat
  createdAt : Instant
  expiresAt : Instant
  deriving DecidableEq

structure Database where
  users : Nat → Option Account
  outstanding : List OutstandingToken
  blacklisted : List Nat

/-- What a transaction has written. -/
structure Writes where
  user : Option Account
  outstanding : List OutstandingToken
  blacklisted : List Nat

namespace Database

/-- The rows as a transaction with these writes sees them, and as it commits them. -/
def under (db : Database) (writes : Writes) : Database where
  users :=
    match writes.user with
    | none => db.users
    | some row => Function.update db.users row.id (some row)
  outstanding := db.outstanding ++ writes.outstanding
  blacklisted := db.blacklisted ++ writes.blacklisted

end Database

namespace AccountRepository

def lockActiveByPk (db : Database) (id : Nat) : Option Account :=
  (db.users id).filter (·.isActive)

def lockActiveBySubject (db : Database) (subject : Nat) : Option Account :=
  (db.users subject).filter (·.isActive)

def findActiveBySubject (db : Database) (subject : Nat) : Option Account :=
  (db.users subject).filter (·.isActive)

end AccountRepository

structure SessionSettings where
  accessLifetime : Nat
  refreshLifetime : Nat
  /-- `normalize_synthetic_username`. -/
  normalizeSyntheticUsername : String → Option String
  /-- `validate_consultant_password` raises nothing. -/
  isConsultantPassword : String → Bool

namespace JWTAuthentication

/-- `get_user`, for a token with its claims. -/
def getUser (db : Database) (token : AccessToken) : Option Account :=
  (AccountRepository.findActiveBySubject db token.subject).filter fun user =>
    user.isActive && decide (token.roleCode = user.role) &&
      decide (token.authVersion = user.authVersion)

end JWTAuthentication

namespace AuthenticationService

/-- `RefreshToken.for_user` with the claims that `issue_pair` adds. -/
def forUser (settings : SessionSettings) (user : Account) (jti : Nat) (now : Instant) :
    RefreshToken where
  jti := jti
  subject := user.id
  roleCode := user.role
  authVersion := user.authVersion
  iat := now
  exp := now + settings.refreshLifetime

/-- The pair of a refresh token, on the clock of its creation. -/
def pairOf (settings : SessionSettings) (refresh : RefreshToken) : TokenPair where
  access :=
    { subject := refresh.subject
      roleCode := refresh.roleCode
      authVersion := refresh.authVersion
      iat := refresh.iat
      exp := refresh.iat + settings.accessLifetime }
  refresh := refresh
  accessExpiresIn := settings.accessLifetime
  refreshExpiresIn := refresh.exp - refresh.iat

/-- `_active_user_for_refresh`, on the locked row. -/
def isCurrent (token : RefreshToken) (user : Account) : Bool :=
  decide (user.role = token.roleCode) && decide (user.authVersion = token.authVersion)

end AuthenticationService

/-! ### Changes of an account -/

namespace AccountLifecycleService

inductive Change
  | deactivate
  | reactivate
  | updateConsultantCredentials (username newPassword : Option String)
  | grantAccountAdmin
  | revokeAccountAdmin

/-- What the queries of a change find beside the rows of actor and target. -/
structure Findings where
  /-- The permissions of the administrator group are all there. -/
  policyComplete : Bool
  otherSuperuser : Bool
  otherPracticalAdmin : Bool
  usernameTaken : Bool
  /-- `full_clean` of the changed row raises nothing. -/
  isClean : Bool

def isPracticalAdmin (user : Account) : Bool :=
  user.isActive && user.isSynthetic && user.isStaff && decide (user.role = .operator) &&
    user.hasUsablePassword && user.isAccountAdmin

def authorizeActor (actor : Account) : Except String Unit :=
  if !(actor.isActive && actor.isSynthetic && actor.isStaff && decide (actor.role = .operator) &&
      actor.hasUsablePassword) then
    .error "ACCOUNT_ADMIN_REQUIRED"
  else if actor.isSuperuser then .ok ()
  else if !isPracticalAdmin actor then .error "ACCOUNT_ADMIN_REQUIRED"
  else .ok ()

def protectLastSuperuser (found : Findings) (target : Account) : Except String Unit :=
  if !(target.isActive && target.isStaff && target.isSuperuser && target.hasUsablePassword) then
    .ok ()
  else if !found.otherSuperuser then .error "LAST_ADMIN_PROTECTED"
  else .ok ()

def protectLastPracticalAdmin (found : Findings) (target : Account) : Except String Unit :=
  if !isPracticalAdmin target then .ok ()
  else if !found.otherPracticalAdmin then .error "LAST_ADMIN_PROTECTED"
  else .ok ()

section
variable (settings : SessionSettings) (found : Findings) (actor target : Account)

def deactivate : Except String Account :=
  if actor.id = target.id then .error "SELF_DEACTIVATION_DENIED"
  else if !target.isActive then .error "ACCOUNT_STATE_CONFLICT"
  else do
    protectLastSuperuser found target
    protectLastPracticalAdmin found target
    pure { target with isActive := false, authVersion := target.authVersion + 1 }

def reactivate : Except String Account :=
  if target.isActive then .error "ACCOUNT_STATE_CONFLICT"
  else .ok { target with isActive := true, authVersion := target.authVersion + 1 }

def updateConsultantCredentials (username newPassword : Option String) : Except String Account :=
  let given := newPassword.filter (· != "")
  if target.role ≠ .consultant then .error "CONSULTANT_ACCOUNT_REQUIRED"
  else
    let normalized :=
      match username with
      | some name => settings.normalizeSyntheticUsername name
      | none => some target.username
    match normalized with
    | none => .error "CONSULTANT_CREDENTIAL_INVALID"
    | some name =>
        if !given.all settings.isConsultantPassword then .error "CONSULTANT_CREDENTIAL_INVALID"
        else if found.usernameTaken then .error "CONSULTANT_USERNAME_CONFLICT"
        else if name = target.username ∧ given.isNone then .error "ACCOUNT_STATE_CONFLICT"
        else if !found.isClean then .error "CONSULTANT_CREDENTIAL_INVALID"
        else
          .ok { target with
            username := name
            hasUsablePassword := given.isSome || target.hasUsablePassword
            authVersion := target.authVersion + 1 }

def grantAccountAdmin : Except String Account :=
  if target.isSuperuser ∨ target.role ≠ .operator then .error "PRIVILEGE_ESCALATION_DENIED"
  else if !target.isActive then .error "ACCOUNT_STATE_CONFLICT"
  else if !target.hasUsablePassword then .error "PRIVILEGE_ESCALATION_DENIED"
  else if isPracticalAdmin target then .error "ACCOUNT_STATE_CONFLICT"
  else
    .ok { target with
      isAccountAdmin := true
      isStaff := true
      authVersion := target.authVersion + 1 }

def revokeAccountAdmin : Except String Account :=
  if actor.id = target.id then .error "SELF_ADMIN_CHANGE_DENIED"
  else if target.isSuperuser then .error "PRIVILEGE_ESCALATION_DENIED"
  else if !isPracticalAdmin target then .error "ACCOUNT_STATE_CONFLICT"
  else do
    protectLastPracticalAdmin found target
    pure { target with
      isAccountAdmin := false
      isStaff := false
      authVersion := target.authVersion + 1 }

/-- The target's row after a change, from the locked rows. -/
def changed (change : Change) : Except String Account :=
  if !found.policyComplete then .error "ACCOUNT_ADMIN_POLICY_INCOMPLETE"
  else do
    authorizeActor actor
    if !target.isSynthetic then .error "SYNTHETIC_ACCOUNT_REQUIRED"
    else
      match change with
      | .deactivate => deactivate found actor target
      | .reactivate => reactivate target
      | .updateConsultantCredentials username newPassword =>
          updateConsultantCredentials settings found target username newPassword
      | .grantAccountAdmin => grantAccountAdmin target
      | .revokeAccountAdmin => revokeAccountAdmin found actor target

end
end AccountLifecycleService

/-! ### Transactions -/

namespace Sessions
open AuthenticationService AccountLifecycleService

inductive Key
  /-- The row of `AccountLifecycleLock`. -/
  | lifecycle
  | user (id : Nat)
  | outstanding (jti : Nat)
  deriving DecidableEq

inductive Operation
  | issuePair (user : Nat)
  | refresh (token : RefreshToken)
  | logout (token : RefreshToken)
  /-- `confirm_password_reset` with a ticket for the user at this version. -/
  | passwordReset (user authVersionAtIssue : Nat)
  | lifecycle (change : Change) (actor target : Nat) (reason : String)

/-- The refresh token a request brings. -/
def Operation.token : Operation → Option RefreshToken
  | .refresh token | .logout token => some token
  | .issuePair _ | .passwordReset _ _ | .lifecycle _ _ _ _ => none

/-- How far a transaction is: the query it has done last, with the rows it has read. -/
inductive Phase
  | begun
  | validated (token : RefreshToken)
  | lockedUser (user : Account)
  | relocked (user : Account)
  | created (user : Account) (refresh : RefreshToken)
  | issued (user : Account) (pair : TokenPair)
  | recorded (user : Account) (pair : Option TokenPair)
  | spent (user : Account) (pair : Option TokenPair)
  | serialized
  | lockedOne (row : Account)
  | lockedUsers (actor target : Account)
  | saved (target : Account)
  | revoking (target : Account) (todo : List Nat)
  | finished

structure Worker where
  operation : Operation
  phase : Phase
  writes : Writes
  locks : List Key

inductive Event
  /-- A pair, and the token it was exchanged for. -/
  | issued (spent : Option RefreshToken) (pair : TokenPair)
  | loggedOut (token : RefreshToken)
  | authVersionChanged (user : Nat)
  | refreshAccepted (token : RefreshToken)
  | accessAccepted (token : AccessToken)
  deriving DecidableEq

structure State where
  database : Database
  workers : List Worker
  history : List Event
  nextJti : Nat

/-- What a query meets outside the rows of a transaction. -/
structure Outside where
  now : Instant
  found : Findings

def noWrites : Writes := ⟨none, [], []⟩

namespace Worker
variable (w : Worker)

/-- The end of a transaction: its locks are free. -/
def ended : Worker := { w with phase := .finished, writes := noWrites, locks := [] }

def reaches (phase : Phase) : Worker := { w with phase := phase }

/-- A row that a query has locked, or the end of the transaction where it found none. -/
def locking (row : Option Account) (phase : Account → Phase) : Worker :=
  match row with
  | none => w.ended
  | some user => { w with phase := phase user, locks := .user user.id :: w.locks }

/-- `OutstandingToken.get_or_create`, for the token of the request. -/
def recording (view : Database) (token : RefreshToken) (user : Account) (phase : Phase) : Worker :=
  if view.outstanding.any fun row => decide (row.jti = token.jti) then w.reaches phase
  else
    { w with
      phase := phase
      writes := { w.writes with
        outstanding := w.writes.outstanding ++ [⟨token.jti, user.id, token.iat, token.exp⟩] } }

/-- `BlacklistedToken.get_or_create`. -/
def blacklisting (view : Database) (jti : Nat) (phase : Phase) : Worker :=
  if view.blacklisted.contains jti then w.reaches phase
  else
    { w with
      phase := phase
      writes := { w.writes with blacklisted := w.writes.blacklisted ++ [jti] } }

/-- A changed user row is saved. -/
def saving (target : Account) : Worker :=
  { w with phase := .saved target, writes := { w.writes with user := some target } }

end Worker

/-- A token the service has signed and returned; others are not accepted. -/
def State.hasReturned (s : State) (token : RefreshToken) : Bool :=
  s.history.any fun
    | .issued _ pair => decide (pair.refresh = token)
    | _ => false

/-- `_validated_refresh`: signature, expiry and the blacklist as it is committed. -/
def validatedRefresh (s : State) (now : Instant) (token : RefreshToken) : Bool :=
  s.hasReturned token && decide (now < token.exp) && !s.database.blacklisted.contains token.jti

section
variable (settings : SessionSettings) (o : Outside) (s : State) (w : Worker)

/-- The transaction ends with its rows written and an event. -/
def commit (event : Event) : State × Worker :=
  ({ s with database := s.database.under w.writes, history := s.history ++ [event] }, w.ended)

/-- The first query of a transaction. -/
def begin : State × Worker :=
  match w.operation with
  | .issuePair user =>
      (s, w.locking (AccountRepository.lockActiveByPk s.database user) .relocked)
  | .refresh token | .logout token =>
      (s, if validatedRefresh s o.now token then w.reaches (.validated token) else w.ended)
  | .passwordReset user _ =>
      let row := (s.database.users user).filter fun user =>
        user.isActive && decide (user.role = .customer) && user.isSynthetic
      (s, w.locking row .lockedUser)
  | .lifecycle _ _ _ reason =>
      (s, if hasText reason then { w with phase := .serialized, locks := .lifecycle :: w.locks }
        else w.ended)

/-- From the locked row of the user: `_active_user_for_refresh` and what follows it, or the
changed row of a reset. -/
def withUser (user : Account) : State × Worker :=
  let view := s.database.under w.writes
  match w.operation with
  | .refresh token =>
      if !isCurrent token user then (s, w.ended)
      else
        ({ s with history := s.history ++ [.refreshAccepted token] },
          w.locking (AccountRepository.lockActiveByPk view user.id) .relocked)
  | .logout token =>
      if !isCurrent token user then (s, w.ended)
      else
        ({ s with history := s.history ++ [.refreshAccepted token] },
          w.recording view token user (.recorded user none))
  | .passwordReset _ version =>
      if user.authVersion ≠ version then (s, w.ended)
      else
        (s, w.saving
          { user with hasUsablePassword := true, authVersion := user.authVersion + 1 })
  | .issuePair _ | .lifecycle _ _ _ _ => (s, w.ended)

/-- The new token gets its last expiry, that of the token it replaces. -/
def finishIssue (user : Account) (refresh : RefreshToken) : State × Worker :=
  match w.operation.token with
  | none => (s, w.reaches (.issued user (pairOf settings refresh)))
  | some token =>
      if token.exp ≤ refresh.iat then (s, w.ended)
      else
        let rows := w.writes.outstanding.map fun row =>
          if row.jti = refresh.jti then { row with expiresAt := token.exp } else row
        (s, { w with
          phase := .issued user (pairOf settings { refresh with exp := token.exp })
          writes := { w.writes with outstanding := rows } })

/-- `_lock_users`: the two rows in the order of their keys. -/
def lockUsers (row : Option Account) : State × Worker :=
  match w.operation with
  | .lifecycle _ actor target _ =>
      match row with
      | none => (s, w.locking (s.database.users (min actor target)) .lockedOne)
      | some first =>
          if actor = target then (s, w.reaches (.lockedUsers first first))
          else if actor < target then
            (s, w.locking (s.database.users target) fun second => .lockedUsers first second)
          else (s, w.locking (s.database.users actor) fun second => .lockedUsers second first)
  | .issuePair _ | .refresh _ | .logout _ | .passwordReset _ _ => (s, w.ended)

/-- The next query of a transaction, or its end. -/
def advance : State × Worker :=
  let view := s.database.under w.writes
  match w.phase with
  | .begun => begin o s w
  | .validated token =>
      (s, w.locking (AccountRepository.lockActiveBySubject s.database token.subject) .lockedUser)
  | .lockedUser user => withUser s w user
  | .relocked user =>
      let refresh := forUser settings user s.nextJti o.now
      ({ s with nextJti := s.nextJti + 1 },
        { w with
          phase := .created user refresh
          writes := { w.writes with
            outstanding := w.writes.outstanding ++
              [⟨refresh.jti, user.id, refresh.iat, refresh.exp⟩] } })
  | .created user refresh => finishIssue settings s w user refresh
  | .issued user pair =>
      match w.operation.token with
      | none => commit s w (.issued none pair)
      | some token => (s, w.recording view token user (.recorded user (some pair)))
  | .recorded user pair =>
      match w.operation.token with
      | none => (s, w.ended)
      | some token => (s, w.blacklisting view token.jti (.spent user pair))
  | .spent _ pair =>
      match w.operation.token, pair with
      | some token, some pair => commit s w (.issued (some token) pair)
      | some token, none => commit s w (.loggedOut token)
      | none, _ => (s, w.ended)
  | .serialized => lockUsers s w none
  | .lockedOne row => lockUsers s w (some row)
  | .lockedUsers actor target =>
      match w.operation with
      | .lifecycle change _ _ _ =>
          match changed settings o.found actor target change with
          | .error _ => (s, w.ended)
          | .ok row => (s, w.saving row)
      | .issuePair _ | .refresh _ | .logout _ | .passwordReset _ _ => (s, w.ended)
  | .saved target =>
      let todo := (view.outstanding.filter fun row => decide (row.user = target.id)).map (·.jti)
      (s, { w with phase := .revoking target todo, locks := todo.map .outstanding ++ w.locks })
  | .revoking target [] => commit s w (.authVersionChanged target.id)
  | .revoking target (jti :: todo) => (s, w.blacklisting view jti (.revoking target todo))
  | .finished => (s, w)

end

/-! ### The system -/

inductive Occurrence
  | requested (operation : Operation)
  | turn (worker : Nat) (outside : Outside)
  /-- An error or a lost connection rolls a transaction back. -/
  | rolledBack (worker : Nat)
  /-- A request authenticates itself with an access token. -/
  | authenticated (token : AccessToken) (now : Instant)
  /-- A user registers. -/
  | registered (row : Account)

def Step (settings : SessionSettings) (s : State) : Occurrence → State → Prop
  | .requested operation, t =>
      t = { s with workers := s.workers ++ [⟨operation, .begun, noWrites, []⟩] }
  | .turn k outside, t =>
      ∃ w, s.workers[k]? = some w ∧
        -- a row locked by another transaction is waited for
        Machine.available Worker.locks s.workers k (advance settings outside s w).2.locks = true ∧
        t = { (advance settings outside s w).1 with
          workers := s.workers.set k (advance settings outside s w).2 }
  | .rolledBack k, t => t = { s with workers := s.workers.modify k Worker.ended }
  | .authenticated token now, t =>
      (∃ spent pair, .issued spent pair ∈ s.history ∧ pair.access = token) ∧ now < token.exp ∧
        (JWTAuthentication.getUser s.database token).isSome = true ∧
        t = { s with history := s.history ++ [.accessAccepted token] }
  | .registered row, t =>
      s.database.users row.id = none ∧
        t = { s with database := { s.database with
          users := Function.update s.database.users row.id (some row) } }

/-- Nobody has a token and nothing is under way; the rows are found under their keys. -/
def Initial (s : State) : Prop :=
  s.workers = [] ∧ s.history = [] ∧ s.database.outstanding = [] ∧ s.database.blacklisted = [] ∧
    ∀ id row, s.database.users id = some row → row.id = id

end Sessions
end WaterCare.Service
