import WaterCare.Service.Authentication
import WaterCare.Store.World

/-!
`p1_auth_service.py` and `p1_auth_target_service.py`: one-time codes, the tickets they are
exchanged for, and the two operations a ticket is spent on. A transaction is taken one query
at a time, keeps its row locks to its end, and is seen by the others when it commits.
-/

namespace WaterCare.Service
open Store Py

namespace P1Auth

/-- Instants are counted in microseconds. -/
def seconds (n : Nat) : Nat := 1000000 * n

/-! ### Rows -/

inductive Purpose
  | signup
  | usernameRecovery
  | passwordReset
  deriving DecidableEq

/-- `P1AuthTicket.Purpose`. -/
inductive TicketPurpose
  | claim
  | passwordReset
  deriving DecidableEq

/-- `P1AuthOperationReceipt.Operation`. -/
inductive ReceiptOperation
  | signup
  | passwordReset
  deriving DecidableEq

/-- A challenge; its number stands for the public identifier. -/
structure OtpChallenge where
  id : Nat
  purpose : Purpose
  customer : Option Nat
  contact : Option Nat
  subscription : Option Nat
  user : Option Nat
  targetResolved : Bool
  idempotencyKeyHmac : String
  requestFingerprintHmac : String
  otpDigest : String
  expiresAt : Instant
  failureCount : Nat
  maxFailures : Nat
  verifiedAt : Option Instant
  consumedAt : Option Instant
  deriving DecidableEq

structure Ticket where
  id : Nat
  purpose : TicketPurpose
  digest : String
  challenge : Nat
  customer : Nat
  authVersionAtIssue : Option Nat
  user : Option Nat
  expiresAt : Instant
  consumedAt : Option Instant
  deriving DecidableEq

structure OperationReceipt where
  operation : ReceiptOperation
  idempotencyKeyHmac : String
  requestFingerprintHmac : String
  user : Nat
  authVersionAtCompletion : Nat
  completedAt : Instant
  deriving DecidableEq

structure ChallengeRateBucket where
  windowStartedAt : Instant
  requestCount : Nat
  lastRequestedAt : Option Instant
  deriving DecidableEq

structure ContractEmailContact where
  id : Nat
  customer : Nat
  isActive : Bool
  isPrimary : Bool
  /-- Its classification is `SYNTHETIC` or `APPROVED_TEST_PII`. -/
  isClassified : Bool
  deriving DecidableEq

structure CustomerAccountLink where
  id : Nat
  user : Nat
  customer : Nat
  isActive : Bool
  deriving DecidableEq

structure Database where
  users : Nat → Option Account
  customers : Nat → Option Customer
  contacts : Nat → Option ContractEmailContact
  /-- In the order of their keys. -/
  subscriptions : List Subscription
  links : List CustomerAccountLink
  buckets : Purpose → String → Option ChallengeRateBucket
  challenges : List OtpChallenge
  tickets : List Ticket
  receipts : List OperationReceipt

structure P1Settings where
  otpTtlSeconds : Nat
  otpResendSeconds : Nat
  otpMaxFailures : Nat
  ticketTtlSeconds : Nat
  challengeWindowHours : Nat
  challengeMaxPerWindow : Nat
  idempotencyReplayTtlSeconds : Nat
  /-- `otp_digest`. -/
  otpDigest : Nat → Purpose → String → String
  /-- `ticket_digest`. -/
  ticketDigest : String → String
  /-- `digest("idempotency-key", ...)`. -/
  keyDigest : String → String

/-- What `_resolve_target` has found. -/
structure ResolvedTarget where
  customer : Nat
  contact : Nat
  user : Option Nat
  subscription : Option Nat

structure CurrentAuthTarget where
  customer : Customer
  contact : ContractEmailContact
  user : Option Account
  subscription : Option Subscription

/-- A row that is locked, or the entry of a unique index that a new row takes. -/
inductive Key
  | challenge (id : Nat)
  | challengeIndex (purpose : Purpose) (idempotencyKeyHmac : String)
  | bucket (purpose : Purpose) (requestFingerprintHmac : String)
  | idempotency (operation : ReceiptOperation) (idempotencyKeyHmac : String)
  | receipt (operation : ReceiptOperation) (idempotencyKeyHmac : String)
  | ticket (id : Nat)
  | customer (id : Nat)
  | contact (id : Nat)
  | subscription (id : Nat)
  | user (id : Nat)
  | link (id : Nat)
  | linkIndex (customer : Nat)
  deriving DecidableEq

namespace Database
variable (db : Database)

def challengeOfKey (purpose : Purpose) (idempotencyKeyHmac : String) : Option OtpChallenge :=
  db.challenges.find? fun row =>
    decide (row.purpose = purpose) && decide (row.idempotencyKeyHmac = idempotencyKeyHmac)

def challengeOf (purpose : Purpose) (id : Nat) : Option OtpChallenge :=
  db.challenges.find? fun row => decide (row.id = id) && decide (row.purpose = purpose)

/-- `_lock_operation_receipt`, with its lock apart. -/
def receiptOf (operation : ReceiptOperation) (idempotencyKeyHmac : String) :
    Option OperationReceipt :=
  db.receipts.find? fun row =>
    decide (row.operation = operation) && decide (row.idempotencyKeyHmac = idempotencyKeyHmac)

def ticketOf (purpose : TicketPurpose) (digest : String) : Option Ticket :=
  db.tickets.find? fun row => decide (row.digest = digest) && decide (row.purpose = purpose)

def activeLink (customer : Nat) : Option CustomerAccountLink :=
  db.links.find? fun link => decide (link.customer = customer) && link.isActive

end Database

/-! ### The target of a challenge -/

namespace P1AuthTargetService

/-- The rows that `lock_current` has locked. -/
inductive Stage
  | customer
  | contact (customer : Customer)
  | subscription (customer : Customer) (contact : ContractEmailContact)
  | links (customer : Customer) (contact : ContractEmailContact) (subscription : Subscription)
  | user (customer : Customer) (contact : ContractEmailContact) (subscription : Subscription)
  | userLink (customer : Customer) (contact : ContractEmailContact) (subscription : Subscription)
      (user : Account)

/-- What one query of `lock_current` leads to. -/
inductive Looked
  | missing
  | next (stage : Stage) (key : Key)
  | found (target : CurrentAuthTarget) (keys : List Key)

/-- The subscription is part of the target only if the challenge names one. -/
def targetOf (challenge : OtpChallenge) (customer : Customer) (contact : ContractEmailContact)
    (subscription : Subscription) (user : Option Account) : CurrentAuthTarget :=
  ⟨customer, contact, user, if challenge.subscription.isSome then some subscription else none⟩

/-- The next query of `lock_current`. -/
def lockCurrent (db : Database) (challenge : OtpChallenge) : Stage → Looked
  | .customer =>
      match challenge.customer, challenge.contact with
      | some id, some _ =>
          match (db.customers id).filter fun row => row.isSynthetic && row.deletedAt.isNone with
          | none => .missing
          | some customer => .next (.contact customer) (.customer id)
      | _, _ => .missing
  | .contact customer =>
      match challenge.contact with
      | none => .missing
      | some id =>
          match (db.contacts id).filter fun row => decide (row.customer = customer.id) &&
              row.isActive && row.isPrimary && row.isClassified with
          | none => .missing
          | some contact => .next (.subscription customer contact) (.contact id)
  | .subscription customer contact =>
      match db.subscriptions.find? fun row => decide (row.customer = customer.id) &&
          decide (row.status = .active) &&
          challenge.subscription.all fun id => decide (row.id = id) with
      | none => .missing
      | some subscription =>
          let stage := if challenge.purpose = .signup then Stage.links customer contact subscription
            else .user customer contact subscription
          .next stage (.subscription subscription.id)
  | .links customer contact subscription =>
      match db.activeLink customer.id with
      | some _ => .missing
      | none =>
          if customer.user.isSome then .missing
          else .found (targetOf challenge customer contact subscription none) []
  | .user customer contact subscription =>
      match challenge.user with
      | none => .missing
      | some id =>
          if customer.user ≠ some id then .missing
          else
            match (db.users id).filter fun row =>
                row.isActive && decide (row.role = .customer) && row.isSynthetic with
            | none => .missing
            | some user => .next (.userLink customer contact subscription user) (.user id)
  | .userLink customer contact subscription user =>
      match db.links.find? fun link => decide (link.customer = customer.id) &&
          decide (link.user = user.id) && link.isActive with
      | none => .missing
      | some link => .found (targetOf challenge customer contact subscription (some user)) [.link link.id]

end P1AuthTargetService

/-! ### Transactions -/

inductive Operation
  | createChallenge (purpose : Purpose) (fingerprint idempotencyKey : String)
  | verifyChallenge (purpose : Purpose) (challenge : Nat) (otpCode : String)
  | signup (claimTicket username fingerprint idempotencyKey : String)
  | confirmPasswordReset (resetTicket fingerprint idempotencyKey : String)

/-- What the target of a challenge is locked for. -/
inductive Use
  /-- The challenge, its code compared at the time. -/
  | verifying (challenge : OtpChallenge) (now : Instant)
  | spending (ticket : Ticket) (challenge : OtpChallenge)

def Use.challenge : Use → OtpChallenge
  | .verifying challenge _ => challenge
  | .spending _ challenge => challenge

/-- How far a transaction is: the query it has done last, with the rows it has read. -/
inductive Phase
  | begun
  | bucketLocked (bucket : ChallengeRateBucket) (now : Instant)
  | drafted (challenge : OtpChallenge) (code : String) (bucket : ChallengeRateBucket)
      (now : Instant)
  | inserted (challenge : OtpChallenge) (code : String) (bucket : ChallengeRateBucket)
      (now : Instant)
  | superseding (challenge : OtpChallenge) (code : String) (bucket : ChallengeRateBucket)
      (now : Instant) (todo superseded : List Nat)
  | challengeLocked (challenge : OtpChallenge)
  | looking (use : Use) (stage : P1AuthTargetService.Stage)
  | looked (use : Use) (target : Option CurrentAuthTarget)
  | prechecked
  | keyed
  | unused
  | ticketLocked (ticket : Ticket) (challenge : OtpChallenge)
  | targetChecked (ticket : Ticket) (target : CurrentAuthTarget)
  | userCreated (ticket : Ticket) (customer : Customer) (user : Account)
  | linked (ticket : Ticket) (customer : Customer) (user : Account) (link : CustomerAccountLink)
  | userSaved (ticket : Ticket) (user : Account)
  | signupRecorded (ticket : Ticket) (customer : Customer) (user : Account)
      (link : CustomerAccountLink) (receipt : OperationReceipt)
  | resetRecorded (ticket : Ticket) (user : Account) (receipt : OperationReceipt)
  /-- An `IntegrityError` has rolled a signup back. -/
  | violated
  | replaying (receipt : OperationReceipt)
  | answered
  | finished

structure Worker where
  operation : Operation
  phase : Phase
  locks : List Key

/-- What was committed. -/
inductive Event
  | challengeCreated (challenge : OtpChallenge) (code : String)
  | codeRefused (challenge : Nat)
  | challengeVerified (challenge : Nat) (code : String) (verifiedAt : Instant)
  | ticketIssued (ticket : Ticket)
  | signedUp (idempotencyKey : String) (ticket customer user : Nat)
  | passwordReset (idempotencyKey : String) (ticket user : Nat)
  deriving DecidableEq

structure State where
  database : Database
  workers : List Worker
  history : List Event
  nextId : Nat

/-- What a query meets outside the rows of the tables, and what is drawn at random. -/
structure Outside where
  now : Instant
  target : Option ResolvedTarget
  otpCode : String
  rawTicket : String
  /-- `full_clean` of the challenge raises nothing. -/
  challengeIsClean : Bool
  /-- Name and email of a signup are those of the contract, if it has any. -/
  identityMatches : Bool
  usernameTaken : Bool
  /-- The row of the user violates a constraint. -/
  userViolates : Bool
  /-- `full_clean` of customer and link raises nothing. -/
  linkIsClean : Bool
  /-- The user of a receipt has a customer profile that is deleted. -/
  profileIsDeleted : Bool
  passwordMatches : Bool

namespace Worker
variable (w : Worker)

/-- The end of a transaction: its locks are free. -/
def ended : Worker := { w with phase := .finished, locks := [] }

def reaches (phase : Phase) : Worker := { w with phase := phase }

def locking (keys : List Key) (phase : Phase) : Worker :=
  { w with phase := phase, locks := keys ++ w.locks }

end Worker

/-- `_idempotency_key`. -/
def idempotencyKey (value : String) : Option String :=
  let normalized := strip value
  if normalized = "" ∨ 128 < normalized.length then none else some normalized

/-- The receipt, the ticket and the key of an operation that spends a ticket. -/
structure Spending where
  operation : ReceiptOperation
  purpose : TicketPurpose
  rawTicket : String
  fingerprint : String
  idempotencyKey : String

def Operation.spending : Operation → Option Spending
  | .signup claimTicket _ fingerprint key => some ⟨.signup, .claim, claimTicket, fingerprint, key⟩
  | .confirmPasswordReset resetTicket fingerprint key =>
      some ⟨.passwordReset, .passwordReset, resetTicket, fingerprint, key⟩
  | .createChallenge _ _ _ | .verifyChallenge _ _ _ => none

section
variable (settings : P1Settings) (o : Outside) (s : State) (w : Worker)

def State.commit (database : Database) (events : List Event) : State :=
  { s with database := database, history := s.history ++ events }

def keyHmac (spending : Spending) : String := settings.keyDigest (strip spending.idempotencyKey)

/-! #### `create_challenge` -/

/-- The bucket of a new window, where the old one is over. -/
def currentBucket (now : Instant) (bucket : ChallengeRateBucket) : ChallengeRateBucket :=
  if bucket.windowStartedAt + seconds (settings.challengeWindowHours * 3600) ≤ now then
    ⟨now, 0, none⟩
  else bucket

/-- The last request is too recent. -/
def resendsEarly (now : Instant) (bucket : ChallengeRateBucket) : Bool :=
  bucket.lastRequestedAt.any fun last => decide (now < last + seconds settings.otpResendSeconds)

def rateLimited (now : Instant) (bucket : ChallengeRateBucket) : Bool :=
  resendsEarly settings now bucket || decide (settings.challengeMaxPerWindow ≤ bucket.requestCount)

def newChallenge (id : Nat) (now : Instant) (target : Option ResolvedTarget) (otpCode : String)
    (purpose : Purpose) (fingerprint keyHmac : String) : OtpChallenge where
  id := id
  purpose := purpose
  customer := target.map (·.customer)
  contact := target.map (·.contact)
  subscription := target.bind (·.subscription)
  user := target.bind (·.user)
  targetResolved := target.isSome
  idempotencyKeyHmac := keyHmac
  requestFingerprintHmac := fingerprint
  otpDigest := settings.otpDigest id purpose otpCode
  expiresAt := now + seconds settings.otpTtlSeconds
  failureCount := 0
  maxFailures := settings.otpMaxFailures
  verifiedAt := none
  consumedAt := none

/-- The first query: a challenge of the key, or else the bucket of the target. -/
def beginChallenge (purpose : Purpose) (fingerprint key : String) : State × Worker :=
  match idempotencyKey key with
  | none => (s, w.ended)
  | some normalized =>
      match s.database.challengeOfKey purpose (settings.keyDigest normalized) with
      | some existing => (s, w.locking [.challenge existing.id] .answered)
      | none =>
          let bucket := (s.database.buckets purpose fingerprint).getD ⟨o.now, 0, none⟩
          (s, w.locking [.bucket purpose fingerprint] (.bucketLocked bucket o.now))

def setBucket (db : Database) (purpose : Purpose) (fingerprint : String)
    (bucket : ChallengeRateBucket) : Database :=
  { db with
    buckets := Function.update db.buckets purpose
      (Function.update (db.buckets purpose) fingerprint (some bucket)) }

/-- From the locked bucket: the challenge that another request has made meanwhile, or a new one. -/
def draftChallenge (bucket : ChallengeRateBucket) (now : Instant) (purpose : Purpose)
    (fingerprint key : String) : State × Worker :=
  let hmac := settings.keyDigest (strip key)
  match s.database.challengeOfKey purpose hmac with
  | some _ => (s.commit (setBucket s.database purpose fingerprint bucket) [], w.ended)
  | none =>
      let current := currentBucket settings now bucket
      if rateLimited settings now current then (s, w.ended)
      else if !o.challengeIsClean then (s, w.ended)
      else
        let challenge :=
          newChallenge settings s.nextId now o.target o.otpCode purpose fingerprint hmac
        ({ s with nextId := s.nextId + 1 },
          w.locking [.challenge challenge.id] (.drafted challenge o.otpCode current now))

/-- The row is inserted, unless its key is taken. -/
def insertChallenge (challenge : OtpChallenge) (code : String) (bucket : ChallengeRateBucket)
    (now : Instant) : State × Worker :=
  match s.database.challengeOfKey challenge.purpose challenge.idempotencyKeyHmac with
  | some _ => (s, w.ended)
  | none =>
      (s, w.locking [.challengeIndex challenge.purpose challenge.idempotencyKeyHmac]
        (.inserted challenge code bucket now))

/-- The open challenges of the same target, which the new one supersedes. -/
def openChallenges (challenge : OtpChallenge) : List Nat :=
  (s.database.challenges.filter fun row => decide (row.purpose = challenge.purpose) &&
    decide (row.requestFingerprintHmac = challenge.requestFingerprintHmac) &&
    row.consumedAt.isNone && decide (row.id ≠ challenge.id)).map (·.id)

def supersede (superseded : List Nat) (now : Instant) (row : OtpChallenge) : OtpChallenge :=
  if row.id ∈ superseded then { row with consumedAt := some now } else row

def commitChallenge (challenge : OtpChallenge) (code : String) (bucket : ChallengeRateBucket)
    (now : Instant) (superseded : List Nat) : State × Worker :=
  let db := setBucket s.database challenge.purpose challenge.requestFingerprintHmac
    { bucket with requestCount := bucket.requestCount + 1, lastRequestedAt := some now }
  (s.commit { db with
      challenges := db.challenges.map (supersede superseded now) ++ [challenge] }
    [.challengeCreated challenge code], w.ended)

/-- One row of the update is locked, and updated if it is still open. -/
def supersedeNext (challenge : OtpChallenge) (code : String) (bucket : ChallengeRateBucket)
    (now : Instant) (id : Nat) (todo superseded : List Nat) : State × Worker :=
  let isOpen := s.database.challenges.any fun row => decide (row.id = id) && row.consumedAt.isNone
  (s, w.locking [.challenge id] (.superseding challenge code bucket now todo
    (if isOpen then superseded ++ [id] else superseded)))

/-! #### `verify_*` -/

def putChallenge (db : Database) (row : OtpChallenge) : Database :=
  { db with challenges := replaceRow (·.id) row db.challenges }

/-- `_lock_and_verify_challenge` on the locked row, up to its target. -/
def compareCode (row : OtpChallenge) (otpCode : String) : State × Worker :=
  if row.maxFailures ≤ row.failureCount then (s, w.ended)
  else if row.consumedAt.isSome ∨ row.verifiedAt.isSome ∨ row.expiresAt ≤ o.now then (s, w.ended)
  else if settings.otpDigest row.id row.purpose otpCode ≠ row.otpDigest then
    (s.commit (putChallenge s.database { row with failureCount := row.failureCount + 1 })
      [.codeRefused row.id], w.ended)
  else if !row.targetResolved ∨ row.customer.isNone then (s, w.ended)
  else (s, w.reaches (.looking (.verifying row o.now) .customer))

/-- The ticket that a verified challenge is exchanged for. -/
def newTicket (row : OtpChallenge) (target : CurrentAuthTarget) : Option Ticket :=
  let ticket (purpose : TicketPurpose) (version user : Option Nat) : Ticket :=
    ⟨s.nextId, purpose, settings.ticketDigest o.rawTicket, row.id, target.customer.id, version,
      user, o.now + seconds settings.ticketTtlSeconds, none⟩
  match row.purpose with
  | .signup => some (ticket .claim none none)
  | .usernameRecovery => none
  | .passwordReset => target.user.map fun user =>
      ticket .passwordReset (some user.authVersion) (some user.id)

/-- The challenge is verified, or consumed where it has no target any more. -/
def finishVerification (row : OtpChallenge) (now : Instant) (otpCode : String)
    (target : Option CurrentAuthTarget) : State × Worker :=
  match target with
  | none =>
      (s.commit (putChallenge s.database { row with consumedAt := some now }) [], w.ended)
  | some target =>
      let verified := putChallenge s.database
        { row with verifiedAt := some now, consumedAt := some now }
      match newTicket settings o s row target with
      | none => (s.commit verified [.challengeVerified row.id otpCode now], w.ended)
      | some ticket =>
          -- digest and challenge of a ticket are unique
          if s.database.tickets.any fun other => decide (other.digest = ticket.digest) ||
              decide (other.challenge = ticket.challenge) then
            (s, w.ended)
          else
            ({ s.commit { verified with tickets := verified.tickets ++ [ticket] }
                [.challengeVerified row.id otpCode now, .ticketIssued ticket] with
              nextId := s.nextId + 1 }, w.ended)

/-! #### `signup` and `confirm_password_reset` -/

/-- A receipt or a usable ticket is there, before the transaction. -/
def precheck (spending : Spending) : Bool :=
  (s.database.receiptOf spending.operation (keyHmac settings spending)).isSome ||
    (s.database.ticketOf spending.purpose (settings.ticketDigest spending.rawTicket)).any
      fun ticket => ticket.consumedAt.isNone && decide (o.now < ticket.expiresAt)

/-- The receipt of the operation, which is locked and replayed, or what follows without one. -/
def orReplay (spending : Spending) (rest : State × Worker) : State × Worker :=
  match s.database.receiptOf spending.operation (keyHmac settings spending) with
  | some receipt =>
      (s, w.locking [.receipt spending.operation (keyHmac settings spending)] (.replaying receipt))
  | none => rest

/-- The ticket is locked, with the challenge it was issued for. -/
def lockTicket (spending : Spending) : State × Worker :=
  match s.database.ticketOf spending.purpose (settings.ticketDigest spending.rawTicket) with
  | none => (s, w.ended)
  | some ticket =>
      if spending.purpose = .passwordReset ∧ ticket.user.isNone then (s, w.ended)
      else
        match s.database.challenges.find? fun row => decide (row.id = ticket.challenge) with
        | none => (s, w.ended)
        | some challenge =>
            (s, w.locking [.ticket ticket.id] (.ticketLocked ticket challenge))

def checkTicket (spending : Spending) (ticket : Ticket) (challenge : OtpChallenge) :
    State × Worker :=
  if ticket.consumedAt.isSome ∨ ticket.expiresAt ≤ o.now then
    orReplay settings s w spending (s, w.ended)
  else (s, w.reaches (.looking (.spending ticket challenge) .customer))

/-- The target is the one of the ticket. -/
def checkTarget (spending : Spending) (ticket : Ticket) (target : CurrentAuthTarget) :
    State × Worker :=
  match spending.operation with
  | .signup =>
      if target.customer.id ≠ ticket.customer ∨ target.user.isSome then (s, w.ended)
      else if !o.identityMatches then (s, w.ended)
      else (s, w.reaches (.targetChecked ticket target))
  | .passwordReset =>
      match target.user with
      | none => (s, w.ended)
      | some user =>
          if some user.id ≠ ticket.user ∨ target.customer.id ≠ ticket.customer ∨
              ticket.authVersionAtIssue ≠ some user.authVersion then (s, w.ended)
          else (s, w.reaches (.targetChecked ticket target))

def newUser (username : String) (customer : Customer) : Account where
  id := s.nextId
  username := username
  role := .customer
  isActive := true
  isSynthetic := true
  isStaff := false
  isSuperuser := false
  hasUsablePassword := true
  mayCancelInquiry := false
  fullName := toString customer.id
  phone := ""
  authVersion := 1
  isAccountAdmin := false

/-- The row of the user: a new one, or the one with the new password. -/
def writeUser (ticket : Ticket) (target : CurrentAuthTarget) : State × Worker :=
  match w.operation with
  | .signup _ username _ _ =>
      if o.usernameTaken then (s, w.ended)
      else if o.userViolates then (s, { w with phase := .violated, locks := [] })
      else
        let user := newUser s username target.customer
        ({ s with nextId := s.nextId + 1 },
          w.locking [.user user.id] (.userCreated ticket target.customer user))
  | .confirmPasswordReset _ _ _ =>
      match target.user with
      | none => (s, w.ended)
      | some user => (s, w.reaches (.userSaved ticket user))
  | .createChallenge _ _ _ | .verifyChallenge _ _ _ => (s, w.ended)

/-- Customer and link are written, unless the customer has an active link. -/
def writeLink (ticket : Ticket) (customer : Customer) (user : Account) : State × Worker :=
  if !o.linkIsClean then (s, w.ended)
  else
    match s.database.activeLink customer.id with
    | some _ => (s, { w with phase := .violated, locks := [] })
    | none =>
        ({ s with nextId := s.nextId + 1 },
          w.locking [.linkIndex customer.id]
            (.linked ticket customer user ⟨s.nextId, user.id, customer.id, true⟩))

def receiptFor (spending : Spending) (user : Account) : OperationReceipt :=
  ⟨spending.operation, keyHmac settings spending, spending.fingerprint, user.id, user.authVersion,
    o.now⟩

/-- The receipt is inserted, unless its key is taken. -/
def writeReceipt (spending : Spending) (taken : Worker) (phase : Phase) : State × Worker :=
  match s.database.receiptOf spending.operation (keyHmac settings spending) with
  | some _ => (s, taken)
  | none => (s, w.locking [.receipt spending.operation (keyHmac settings spending)] phase)

def putTicket (db : Database) (row : Ticket) : Database :=
  { db with tickets := replaceRow (·.id) row db.tickets }

def commitSignup (spending : Spending) (ticket : Ticket) (customer : Customer) (user : Account)
    (link : CustomerAccountLink) (receipt : OperationReceipt) : State × Worker :=
  let db := putTicket s.database { ticket with consumedAt := some o.now }
  (s.commit { db with
      users := Function.update db.users user.id (some user)
      customers := Function.update db.customers customer.id
        (some { customer with user := some user.id })
      links := db.links ++ [link]
      receipts := db.receipts ++ [receipt] }
    [.signedUp (strip spending.idempotencyKey) ticket.id customer.id user.id], w.ended)

def resetUser (user : Account) : Account :=
  { user with hasUsablePassword := true, authVersion := user.authVersion + 1 }

def commitReset (spending : Spending) (ticket : Ticket) (user : Account)
    (receipt : OperationReceipt) : State × Worker :=
  let db := putTicket s.database { ticket with consumedAt := some o.now }
  (s.commit { db with
      users := Function.update db.users user.id (some (resetUser user))
      receipts := db.receipts ++ [receipt] }
    [.passwordReset (strip spending.idempotencyKey) ticket.id user.id], w.ended)

/-- `_lock_current_receipt_user`, and the answer of the first time. -/
def replay (spending : Spending) (receipt : OperationReceipt) : State × Worker :=
  if receipt.requestFingerprintHmac ≠ spending.fingerprint then (s, w.ended)
  else
    match (s.database.users receipt.user).filter fun row =>
        row.isActive && decide (row.role = .customer) && row.isSynthetic &&
          (s.database.links.any fun link => decide (link.user = row.id) && link.isActive) &&
          !o.profileIsDeleted with
    | none => (s, w.ended)
    | some user =>
        if receipt.completedAt + seconds settings.idempotencyReplayTtlSeconds < o.now ∨
            user.authVersion ≠ receipt.authVersionAtCompletion ∨ !o.passwordMatches then
          (s, w.ended)
        else (s, w.locking [.user user.id] .answered)

/-! #### The next query -/

/-- The next query of an operation that spends a ticket, or its end. -/
def spend (spending : Spending) : State × Worker :=
  match w.phase with
  | .begun =>
      if (idempotencyKey spending.idempotencyKey).isNone then (s, w.ended)
      else if precheck settings o s spending then (s, w.reaches .prechecked)
      else (s, w.ended)
  | .prechecked =>
      (s, w.locking [.idempotency spending.operation (keyHmac settings spending)] .keyed)
  | .keyed => orReplay settings s w spending (s, w.reaches .unused)
  | .unused => lockTicket settings s w spending
  | .ticketLocked ticket challenge => checkTicket settings o s w spending ticket challenge
  | .looked (.spending ticket _) (some target) => checkTarget o s w spending ticket target
  | .targetChecked ticket target =>
      orReplay settings s w spending (writeUser o s w ticket target)
  | .userCreated ticket customer user => writeLink o s w ticket customer user
  | .linked ticket customer user link =>
      writeReceipt settings s w spending { w with phase := .violated, locks := [] }
        (.signupRecorded ticket customer user link (receiptFor settings o spending user))
  | .userSaved ticket user =>
      writeReceipt settings s w spending w.ended
        (.resetRecorded ticket user (receiptFor settings o spending (resetUser user)))
  | .signupRecorded ticket customer user link receipt =>
      commitSignup o s w spending ticket customer user link receipt
  | .resetRecorded ticket user receipt => commitReset o s w spending ticket user receipt
  | .violated => orReplay settings s w spending (s, w.ended)
  | .replaying receipt => replay settings o s w spending receipt
  | _ => (s, w.ended)

/-- The next query of a challenge that is created, or its end. -/
def create (purpose : Purpose) (fingerprint key : String) : State × Worker :=
  match w.phase with
  | .begun => beginChallenge settings o s w purpose fingerprint key
  | .bucketLocked bucket now =>
      draftChallenge settings o s w bucket now purpose fingerprint key
  | .drafted challenge code bucket now => insertChallenge s w challenge code bucket now
  | .inserted challenge code bucket now =>
      (s, w.reaches (.superseding challenge code bucket now (openChallenges s challenge) []))
  | .superseding challenge code bucket now (id :: todo) superseded =>
      supersedeNext s w challenge code bucket now id todo superseded
  | .superseding challenge code bucket now [] superseded =>
      commitChallenge s w challenge code bucket now superseded
  | _ => (s, w.ended)

/-- The next query of a challenge that is verified, or its end. -/
def verify (purpose : Purpose) (id : Nat) (otpCode : String) : State × Worker :=
  match w.phase with
  | .begun =>
      match s.database.challengeOf purpose id with
      | none => (s, w.ended)
      | some row => (s, w.locking [.challenge row.id] (.challengeLocked row))
  | .challengeLocked row => compareCode settings o s w row otpCode
  | .looked (.verifying row now) target => finishVerification settings o s w row now otpCode target
  | _ => (s, w.ended)

/-- The next query of a transaction, or its end. -/
def advance : State × Worker :=
  match w.phase with
  | .looking use stage =>
      match P1AuthTargetService.lockCurrent s.database use.challenge stage with
      | .missing => (s, w.reaches (.looked use none))
      | .next stage key => (s, w.locking [key] (.looking use stage))
      | .found target keys => (s, w.locking keys (.looked use (some target)))
  | .answered | .finished => (s, w.ended)
  | _ =>
      match w.operation with
      | .createChallenge purpose fingerprint key => create settings o s w purpose fingerprint key
      | .verifyChallenge purpose id otpCode => verify settings o s w purpose id otpCode
      | .signup claimTicket _ fingerprint key =>
          spend settings o s w ⟨.signup, .claim, claimTicket, fingerprint, key⟩
      | .confirmPasswordReset resetTicket fingerprint key =>
          spend settings o s w ⟨.passwordReset, .passwordReset, resetTicket, fingerprint, key⟩

end

/-! ### The system -/

/-- What other services commit: a row of theirs is revoked, changed or new. A customer keeps its
account. -/
inductive Revision
  | user (row : Account)
  | customer (row : Customer)
  | contact (row : ContractEmailContact)
  | subscriptions (rows : List Subscription)
  | revokeLink (id : Nat)

/-- The row another service has to lock. -/
def Revision.key : Revision → Option Key
  | .user row => some (.user row.id)
  | .customer row => some (.customer row.id)
  | .contact row => some (.contact row.id)
  | .subscriptions _ => none
  | .revokeLink id => some (.link id)

def Revision.keepsAccount (db : Database) : Revision → Prop
  | .customer row => ∀ old, db.customers row.id = some old → row.user = old.user
  | _ => True

def Revision.apply (db : Database) : Revision → Database
  | .user row => { db with users := Function.update db.users row.id (some row) }
  | .customer row => { db with customers := Function.update db.customers row.id (some row) }
  | .contact row => { db with contacts := Function.update db.contacts row.id (some row) }
  | .subscriptions rows => { db with subscriptions := rows }
  | .revokeLink id =>
      { db with links := db.links.map fun link =>
          if link.id = id then { link with isActive := false } else link }

inductive Occurrence
  | requested (operation : Operation)
  | turn (worker : Nat) (outside : Outside)
  /-- An error or a lost connection rolls a transaction back. -/
  | rolledBack (worker : Nat)
  | revised (revision : Revision)

def Step (settings : P1Settings) (s : State) : Occurrence → State → Prop
  | .requested operation, t =>
      t = { s with workers := s.workers ++ [⟨operation, .begun, []⟩] }
  | .turn k outside, t =>
      ∃ w, s.workers[k]? = some w ∧
        -- a row locked by another transaction is waited for
        Machine.available Worker.locks s.workers k (advance settings outside s w).2.locks = true ∧
        t = { (advance settings outside s w).1 with
          workers := s.workers.set k (advance settings outside s w).2 }
  | .rolledBack k, t => t = { s with workers := s.workers.modify k Worker.ended }
  | .revised revision, t =>
      (∀ key, revision.key = some key → ∀ w ∈ s.workers, key ∉ w.locks) ∧
        revision.keepsAccount s.database ∧
        t = { s with database := revision.apply s.database }

/-- Nothing was asked for yet, and the links are those of the customers that had an account
when links were introduced. -/
structure Initial (s : State) : Prop where
  workers : s.workers = []
  history : s.history = []
  challenges : s.database.challenges = []
  tickets : s.database.tickets = []
  receipts : s.database.receipts = []
  users : ∀ id row, s.database.users id = some row → row.id = id
  customers : ∀ id row, s.database.customers id = some row → row.id = id
  links : (s.database.links.map (·.customer)).Nodup
  accounts : ∀ link ∈ s.database.links, ∃ row, s.database.customers link.customer = some row ∧
    row.user = some link.user

end P1Auth
end WaterCare.Service
