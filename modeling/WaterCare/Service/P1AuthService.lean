import WaterCare.Service.P1Auth

/-!
`P1AuthService` as its callers see it: each call is one transaction, with its answer. Codes
are asked for by identity, checked by number, and passwords are checked by username.
-/

namespace WaterCare.Service
open Store Py

namespace P1AuthService
open P1Auth

/-! ### Settings and tables -/

/-- The Unicode tables of Python and of the database, as far as names are compared by them. -/
structure Unicode where
  nfkc : String → String
  casefold : String → String
  /-- PostgreSQL's `UPPER`, one character at a time. -/
  upper : Char → Char

structure AuthSettings extends P1Settings where
  loginWindowSeconds : Nat
  loginMaxFailures : Nat
  unicode : Unicode
  /-- `crypto.fingerprint("challenge-request", ...)`, of the sorted entries. -/
  fingerprint : List (String × String) → String
  /-- `crypto.digest("login-subject", ...)`. -/
  subjectDigest : String → String
  /-- `lookup_hmac`, which refuses what is no email. -/
  lookupHmac : String → Option String
  checkPassword : String → String → Bool
  dummyPasswordHash : String
  /-- `P1AuthOtpCipher.encrypt`. -/
  encryptOtp : String → String

structure AuthUser extends Account where
  employeeNo : Option String
  password : String

structure CustomerProfile extends Customer where
  customerNo : String
  customerName : String

structure EmailContact extends ContractEmailContact where
  emailLookupHmac : String

/-- The rows that the service reads and does not change, each table in the order of its keys. -/
structure Registry where
  users : List AuthUser
  customers : List CustomerProfile
  contacts : List EmailContact
  subscriptions : List Subscription
  links : List CustomerAccountLink

inductive OutboxStatus
  | pending
  | sent
  | failed
  | suppressed
  deriving DecidableEq

structure EmailOutbox where
  challenge : Nat
  contact : Option Nat
  encryptedOtp : String
  status : OutboxStatus
  lastErrorCode : String

structure LoginRateBucket where
  windowStartedAt : Instant
  failureCount : Nat
  lastFailedAt : Option Instant
  deriving DecidableEq

structure AuthDatabase where
  buckets : Purpose → String → Option ChallengeRateBucket
  challenges : List OtpChallenge
  outbox : List EmailOutbox
  tickets : List Ticket
  loginBuckets : String → Option LoginRateBucket
  /-- The subjects of the `LOGIN_FAILURE` events. -/
  loginFailures : List String
  nextId : Nat

/-- `BackendError`, with its message. -/
structure BackendError where
  code : String
  message : String
  statusCode : Nat
  retryAfter : Option Nat
  deriving DecidableEq

inductive Refusal
  | backend (error : BackendError)
  /-- `full_clean` has raised. -/
  | validation
  deriving DecidableEq

/-! ### Errors -/

def verificationFailed : BackendError where
  code := "AUTH_VERIFICATION_FAILED"
  message := "인증정보를 확인할 수 없습니다. 처음부터 다시 시도해 주세요."
  statusCode := 401
  retryAfter := none

/-- `_rate_limited`. -/
def tooManyRequests (retryAfter : Nat) : BackendError where
  code := "AUTH_RATE_LIMITED"
  message := "요청 횟수를 초과했습니다. 안내된 시간 후 다시 시도해 주세요."
  statusCode := 429
  retryAfter := some (max 1 retryAfter)

def invalidIdempotencyKey : BackendError where
  code := "INVALID_REQUEST"
  message := "Idempotency-Key 헤더를 확인해 주세요."
  statusCode := 400
  retryAfter := none

def duplicateEvent : BackendError where
  code := "DUPLICATE_EVENT"
  message := "동일 Idempotency-Key가 다른 요청에 재사용되었습니다."
  statusCode := 409
  retryAfter := none

def loginFailed : BackendError where
  code := "AUTH_LOGIN_FAILED"
  message := "아이디 또는 비밀번호를 확인해 주세요."
  statusCode := 401
  retryAfter := none

/-! ### Identities -/

/-- The validated fields of `P1ChallengeRequestSerializer`. -/
structure Identity where
  customerNumber : Option String
  contractNumber : Option String
  name : Option String
  email : Option String
  username : Option String
  deriving DecidableEq

/-- The value, unless it is missing or empty. -/
def given (value : Option String) : Option String := value.filter (· ≠ "")

/-- `P1ChallengeRequestSerializer.validate`. -/
def admits (purpose : Purpose) (identity : Identity) : Bool :=
  let contractValues := (given identity.customerNumber).isSome || (given identity.contractNumber).isSome
  let emailValues := (given identity.name).isSome || (given identity.email).isSome
  if contractValues = emailValues then false
  else if contractValues &&
      !((given identity.customerNumber).isSome && (given identity.contractNumber).isSome) then false
  else if emailValues && !((given identity.name).isSome && (given identity.email).isSome) then false
  else if emailValues && decide (purpose = .passwordReset) && (given identity.username).isNone then
    false
  else if (given identity.username).isSome && !(emailValues && decide (purpose = .passwordReset)) then
    false
  else true

section
variable (settings : AuthSettings)

def normalizeText (value : String) : String := strip (settings.unicode.nfkc value)

def normalizeUsername (value : String) : String :=
  settings.unicode.casefold (normalizeText settings value)

/-- `_identity_fingerprint`. -/
def identityFingerprint (identity : Identity) : String :=
  let text (key : String) (value : Option String) : List (String × String) :=
    ((given value).map fun v => (key, normalizeText settings v)).toList
  let folded (key : String) (value : Option String) : List (String × String) :=
    ((given value).map fun v => (key, normalizeUsername settings v)).toList
  settings.fingerprint
    (text "contract_number" identity.contractNumber ++ text "customer_number" identity.customerNumber ++
      folded "email" identity.email ++ text "name" identity.name ++
      folded "username" identity.username)

variable (registry : Registry)

/-- The contracts that make a customer eligible, by the contract number where one is given. -/
def eligible (identity : Identity) (customer : Nat) (row : Subscription) : Bool :=
  decide (row.customer = customer) && decide (row.status = .active) &&
    (!(given identity.customerNumber).isSome ||
      decide (some row.contractNo = identity.contractNumber))

/-- The customer and the email of a contact are those of the identity. -/
def matchesIdentity (identity : Identity) (lookup : Option String) (contact : EmailContact)
    (customer : CustomerProfile) : Bool :=
  match given identity.customerNumber with
  | some number => decide (customer.customerNo = number)
  | none => decide (some contact.emailLookupHmac = lookup) &&
      decide (some customer.customerName = identity.name)

/-- The contacts that an identity finds. -/
def contactsOf (identity : Identity) : List (EmailContact × CustomerProfile) :=
  let lookup := identity.email.bind settings.lookupHmac
  registry.contacts.filterMap fun contact =>
    if contact.isActive && contact.isPrimary && contact.isClassified then
      (registry.customers.find? fun customer => decide (customer.id = contact.customer) &&
        customer.isSynthetic && customer.deletedAt.isNone &&
        matchesIdentity identity lookup contact customer &&
        registry.subscriptions.any (eligible identity customer.id)).map fun customer =>
          (contact, customer)
    else none

/-- The active link of a customer to an active customer account. -/
def currentLink (customer : Nat) : Option (CustomerAccountLink × AuthUser) :=
  registry.links.findSome? fun link =>
    if link.customer = customer ∧ link.isActive then
      (registry.users.find? fun user => decide (user.id = link.user) && user.isActive &&
        decide (user.role = .customer) && user.isSynthetic).map fun user => (link, user)
    else none

/-- `_resolve_target`. -/
def resolveTarget (identity : Identity) (purpose : Purpose) : Option ResolvedTarget :=
  if (given identity.customerNumber).isNone && (identity.email.bind settings.lookupHmac).isNone then
    none
  else
    match contactsOf settings registry identity with
    | [(contact, customer)] =>
        let subscription :=
          if (given identity.customerNumber).isSome then
            registry.subscriptions.find? (eligible identity customer.id)
          else none
        if (given identity.customerNumber).isSome && subscription.isNone then none
        else
          let subscription := subscription.map (·.id)
          match purpose with
          | .signup =>
              if customer.user.isSome || (currentLink registry customer.id).isSome then none
              else some ⟨customer.id, contact.id, none, subscription⟩
          | .usernameRecovery | .passwordReset =>
              match currentLink registry customer.id with
              | none => none
              | some (link, user) =>
                  if customer.user ≠ some link.user then none
                  else if (given identity.username).any fun name =>
                      decide (settings.unicode.casefold user.username ≠
                        settings.unicode.casefold name) then
                    none
                  else some ⟨customer.id, contact.id, some user.id, subscription⟩
    | _ => none

/-! ### `create_challenge` -/

/-- What is read off the clock and drawn at random. -/
structure Drawn where
  now : Instant
  otpCode : String
  rawTicket : String

structure ChallengeData where
  challengeId : Nat
  expiresIn : Nat
  resendAfter : Nat
  message : String
  deriving DecidableEq

def challengeData (challenge : OtpChallenge) : ChallengeData :=
  ⟨challenge.id, settings.otpTtlSeconds, settings.otpResendSeconds,
    "등록된 계약 연락처가 확인되면 인증번호가 발송됩니다."⟩

/-- `_replay_challenge`. -/
def replayChallenge (challenge : OtpChallenge) (fingerprint : String) :
    Except Refusal ChallengeData :=
  if challenge.requestFingerprintHmac ≠ fingerprint then .error (.backend duplicateEvent)
  else .ok (challengeData settings challenge)

/-- `P1AuthOtpChallenge.clean`. -/
def challengeIsClean (challenge : OtpChallenge) : Bool :=
  decide (challenge.targetResolved = (challenge.customer.isSome && challenge.contact.isSome)) &&
    (challenge.contact.all fun id => registry.contacts.any fun contact =>
      decide (contact.id = id) && decide (some contact.customer = challenge.customer)) &&
    (challenge.subscription.all fun id => registry.subscriptions.any fun row =>
      decide (row.id = id) && decide (some row.customer = challenge.customer)) &&
    (challenge.user.all fun user => challenge.customer.all fun customer =>
      registry.links.any fun link => decide (link.customer = customer) &&
        decide (link.user = user) && link.isActive)

/-- `P1AuthEmailOutboxService.enqueue`. -/
def enqueue (challenge : OtpChallenge) (contact : Option Nat) (otpCode : String) : EmailOutbox :=
  match challenge.targetResolved, contact with
  | true, some id => ⟨challenge.id, some id, settings.encryptOtp otpCode, .pending, ""⟩
  | _, _ => ⟨challenge.id, none, "", .suppressed, "TARGET_UNRESOLVED"⟩

/-- The seconds after which a request that comes too early may come again. -/
def resendRetryAfter (now last : Instant) : Nat :=
  (last + seconds settings.otpResendSeconds - now) / 1000000 + 1

/-- The older challenges of the identity are consumed. -/
def consumeOpen (purpose : Purpose) (fingerprint : String) (now : Instant) (row : OtpChallenge) :
    OtpChallenge :=
  if row.purpose = purpose ∧ row.requestFingerprintHmac = fingerprint ∧ row.consumedAt.isNone then
    { row with consumedAt := some now }
  else row

/-- The new challenge, with the bucket it is counted in. -/
def insertNew (o : Drawn) (db : AuthDatabase) (challenge : OtpChallenge)
    (bucket : ChallengeRateBucket) : AuthDatabase :=
  { db with
    buckets := Function.update db.buckets challenge.purpose
      (Function.update (db.buckets challenge.purpose) challenge.requestFingerprintHmac
        (some { bucket with
          requestCount := bucket.requestCount + 1, lastRequestedAt := some o.now }))
    challenges := db.challenges.map
      (consumeOpen challenge.purpose challenge.requestFingerprintHmac o.now) ++ [challenge]
    outbox := db.outbox ++ [enqueue settings challenge challenge.contact o.otpCode]
    nextId := db.nextId + 1 }

/-- The bucket of the identity, of a new window where the old one is over. -/
def bucketFor (db : AuthDatabase) (now : Instant) (purpose : Purpose) (fingerprint : String) :
    ChallengeRateBucket :=
  currentBucket settings.toP1Settings now
    ((db.buckets purpose fingerprint).getD ⟨now, 0, none⟩)

/-- The refusal of a bucket, if there is one. -/
def refusal (now : Instant) (bucket : ChallengeRateBucket) : Option Nat :=
  match bucket.lastRequestedAt with
  | some last =>
      if now < last + seconds settings.otpResendSeconds then
        some (resendRetryAfter settings now last)
      else if settings.challengeMaxPerWindow ≤ bucket.requestCount then some 3600
      else none
  | none => if settings.challengeMaxPerWindow ≤ bucket.requestCount then some 3600 else none

def challengeOfKey (db : AuthDatabase) (purpose : Purpose) (hmac : String) : Option OtpChallenge :=
  db.challenges.find? fun row =>
    decide (row.purpose = purpose) && decide (row.idempotencyKeyHmac = hmac)

/-- The challenge that a request creates. -/
def draft (o : Drawn) (db : AuthDatabase) (purpose : Purpose) (identity : Identity)
    (hmac : String) : OtpChallenge :=
  newChallenge settings.toP1Settings db.nextId o.now (resolveTarget settings registry identity purpose)
    o.otpCode purpose (identityFingerprint settings identity) hmac

/-- What follows where no challenge of the key is there. -/
def createNew (o : Drawn) (db : AuthDatabase) (purpose : Purpose) (identity : Identity)
    (hmac : String) : AuthDatabase × Except Refusal ChallengeData :=
  let bucket := bucketFor settings db o.now purpose (identityFingerprint settings identity)
  match refusal settings o.now bucket with
  | some retryAfter => (db, .error (.backend (tooManyRequests retryAfter)))
  | none =>
      let challenge := draft settings registry o db purpose identity hmac
      if challengeIsClean registry challenge then
        (insertNew settings o db challenge bucket, .ok (challengeData settings challenge))
      else (db, .error .validation)

def createChallenge (o : Drawn) (db : AuthDatabase) (purpose : Purpose) (identity : Identity)
    (key : String) : AuthDatabase × Except Refusal ChallengeData :=
  match idempotencyKey key with
  | none => (db, .error (.backend invalidIdempotencyKey))
  | some normalized =>
      match challengeOfKey db purpose (settings.keyDigest normalized) with
      | some existing =>
          (db, replayChallenge settings existing (identityFingerprint settings identity))
      | none => createNew settings registry o db purpose identity (settings.keyDigest normalized)

/-! ### `verify_*` -/

/-- The tables as `lock_current` reads them. -/
def view : P1Auth.Database where
  users id := (registry.users.find? fun row => decide (row.id = id)).map (·.toAccount)
  customers id := (registry.customers.find? fun row => decide (row.id = id)).map (·.toCustomer)
  contacts id := (registry.contacts.find? fun row => decide (row.id = id)).map
    (·.toContractEmailContact)
  subscriptions := registry.subscriptions
  links := registry.links
  buckets _ _ := none
  challenges := []
  tickets := []
  receipts := []

/-- The queries of `lock_current`, of which there are five. -/
def lookUp (challenge : OtpChallenge) : Nat → P1AuthTargetService.Stage → Option CurrentAuthTarget
  | 0, _ => none
  | n + 1, stage =>
      match P1AuthTargetService.lockCurrent (view registry) challenge stage with
      | .missing => none
      | .next stage _ => lookUp challenge n stage
      | .found target _ => some target

def lockCurrent (challenge : OtpChallenge) : Option CurrentAuthTarget :=
  lookUp registry challenge 5 .customer

def putRow (db : AuthDatabase) (row : OtpChallenge) : AuthDatabase :=
  { db with challenges := replaceRow (·.id) row db.challenges }

/-- `_lock_and_verify_challenge`; its errors are returned, and what it has saved is committed. -/
def lockAndVerifyChallenge (o : Drawn) (db : AuthDatabase) (purpose : Purpose) (id : Nat)
    (otpCode : String) :
    AuthDatabase × Except BackendError (OtpChallenge × CurrentAuthTarget) :=
  match db.challenges.find? fun row => decide (row.id = id) && decide (row.purpose = purpose) with
  | none => (db, .error verificationFailed)
  | some row =>
      if row.maxFailures ≤ row.failureCount then
        (db, .error (tooManyRequests settings.otpResendSeconds))
      else if row.consumedAt.isSome ∨ row.verifiedAt.isSome ∨ row.expiresAt ≤ o.now then
        (db, .error verificationFailed)
      else if settings.otpDigest row.id purpose otpCode ≠ row.otpDigest then
        let row := { row with failureCount := row.failureCount + 1 }
        (putRow db row, .error (if row.maxFailures ≤ row.failureCount then
          tooManyRequests settings.otpResendSeconds else verificationFailed))
      else if !row.targetResolved ∨ row.customer.isNone then (db, .error verificationFailed)
      else
        match lockCurrent registry row with
        | none => (putRow db { row with consumedAt := some o.now }, .error verificationFailed)
        | some target =>
            let row := { row with verifiedAt := some o.now, consumedAt := some o.now }
            (putRow db row, .ok (row, target))

inductive Verification
  | claimTicket (raw : String) (expiresIn : Nat)
  | maskedUsername (username : String)
  | resetTicket (raw : String) (expiresIn : Nat)
  deriving DecidableEq

/-- The ticket of a verified challenge is saved. -/
def issueTicket (o : Drawn) (db : AuthDatabase) (row : OtpChallenge) (target : CurrentAuthTarget)
    (purpose : TicketPurpose) (user : Option Account) : AuthDatabase :=
  { db with
    tickets := db.tickets ++ [⟨db.nextId, purpose, settings.ticketDigest o.rawTicket, row.id,
      target.customer.id, user.map (·.authVersion), user.map (·.id),
      o.now + seconds settings.ticketTtlSeconds, none⟩]
    nextId := db.nextId + 1 }

/-- `verify_signup_challenge`, `verify_username_challenge` and
`verify_password_reset_challenge`. -/
def verifyChallenge (o : Drawn) (db : AuthDatabase) (purpose : Purpose) (id : Nat)
    (otpCode : String) : AuthDatabase × Except BackendError Verification :=
  match lockAndVerifyChallenge settings registry o db purpose id otpCode with
  | (db, .error error) => (db, .error error)
  | (db, .ok (row, target)) =>
      match purpose with
      | .signup =>
          (issueTicket settings o db row target .claim none,
            .ok (.claimTicket o.rawTicket settings.ticketTtlSeconds))
      | .usernameRecovery =>
          match target.user with
          | none => (db, .error verificationFailed)
          | some user => (db, .ok (.maskedUsername user.username))
      | .passwordReset =>
          match target.user with
          | none => (db, .error verificationFailed)
          | some user =>
              (issueTicket settings o db row target .passwordReset (some user),
                .ok (.resetTicket o.rawTicket settings.ticketTtlSeconds))

/-! ### `login` -/

/-- `username__iexact`. -/
def iexact (stored spelled : String) : Bool :=
  decide (stored.toList.map settings.unicode.upper = spelled.toList.map settings.unicode.upper)

/-- The account may log in with a password. -/
def mayLogIn (user : AuthUser) : Bool :=
  user.isActive && user.isSynthetic &&
    ((decide (user.role = .customer) &&
        (registry.links.any fun link => decide (link.user = user.id) && link.isActive) &&
        (registry.customers.find? fun row => decide (row.user = some user.id)).all
          (·.deletedAt.isNone)) ||
      (decide (user.role = .consultant) && user.employeeNo.isSome))

def loginUser (username : String) : Option AuthUser :=
  registry.users.find? fun user => iexact settings user.username username && mayLogIn registry user

def subjectOf (username : String) : String :=
  settings.subjectDigest (normalizeUsername settings username)

/-- The bucket of a spelling, of a new window where the old one is over. -/
def loginBucketFor (db : AuthDatabase) (now : Instant) (subject : String) : LoginRateBucket :=
  let bucket := (db.loginBuckets subject).getD ⟨now, 0, none⟩
  if bucket.windowStartedAt + seconds settings.loginWindowSeconds ≤ now then ⟨now, 0, none⟩
  else bucket

def loginRetryAfter (now : Instant) (bucket : LoginRateBucket) : Nat :=
  max 1 ((bucket.windowStartedAt + seconds settings.loginWindowSeconds - now) / 1000000 + 1)

def putLoginBucket (db : AuthDatabase) (subject : String) (bucket : LoginRateBucket) :
    AuthDatabase :=
  { db with loginBuckets := Function.update db.loginBuckets subject (some bucket) }

def login (o : Drawn) (db : AuthDatabase) (username password : String) :
    AuthDatabase × Except BackendError AuthUser :=
  let subject := subjectOf settings username
  let bucket := loginBucketFor settings db o.now subject
  if settings.loginMaxFailures ≤ bucket.failureCount then
    (db, .error (tooManyRequests (loginRetryAfter settings o.now bucket)))
  else
    let user := loginUser settings registry username
    let passwordOk := settings.checkPassword password
      (user.elim settings.dummyPasswordHash (·.password))
    match user, passwordOk with
    | some user, true =>
        ({ putLoginBucket db subject ⟨o.now, 0, none⟩ with
            loginFailures := db.loginFailures.filter (· ≠ subject) }, .ok user)
    | _, _ =>
        ({ putLoginBucket db subject
              { bucket with failureCount := bucket.failureCount + 1, lastFailedAt := some o.now } with
            loginFailures := db.loginFailures ++ [subject] }, .error loginFailed)

end
end P1AuthService
end WaterCare.Service
