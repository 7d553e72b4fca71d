import WaterCare.Machine.Locks
import WaterCare.Machine.Run
import WaterCare.Service.P1Auth

/-!
Transactions over one-time codes and tickets. What a transaction has read of the rows it has
locked stays true until it ends, and what it commits concerns these rows only.
-/

namespace WaterCare.Runtime.P1Auth
open Machine Store Py
open Service Service.P1Auth Service.P1Auth.P1AuthTargetService

/-! ### What a transaction relies on -/

/-- The row as it was inserted. -/
def created (row : OtpChallenge) : OtpChallenge :=
  { row with failureCount := 0, verifiedAt := none, consumedAt := none }

def unspent (row : Ticket) : Ticket := { row with consumedAt := none }

/-- The code of a request to verify. -/
def codeOf : Operation → Option String
  | .verifyChallenge _ _ otpCode => some otpCode
  | .createChallenge _ _ _ | .signup _ _ _ _ | .confirmPasswordReset _ _ _ => none

/-- What the request spends its ticket on. -/
def receiptOf (operation : Operation) : Option ReceiptOperation :=
  operation.spending.map (·.operation)

section
variable (settings : P1Settings) (s : State) (w : Worker)

/-- A new challenge, whose number nobody else has. -/
structure Fresh (challenge : OtpChallenge) (code : String) : Prop where
  locked : .challenge challenge.id ∈ w.locks
  below : challenge.id < s.nextId
  new : ∀ row ∈ s.database.challenges, row.id ≠ challenge.id
  blank : created challenge = challenge
  digest : challenge.otpDigest = settings.otpDigest challenge.id challenge.purpose code

/-- The row is locked and as it was read. -/
structure HasChallenge (row : OtpChallenge) : Prop where
  locked : .challenge row.id ∈ w.locks
  there : row ∈ s.database.challenges

/-- The challenge lets the code pass. -/
structure Fits (row : OtpChallenge) (now : Instant) (code : String) : Prop where
  unverified : row.verifiedAt = none
  below : row.failureCount < row.maxFailures
  unexpired : now < row.expiresAt
  digest : settings.otpDigest row.id row.purpose code = row.otpDigest

structure HasTicket (row : Ticket) : Prop where
  locked : .ticket row.id ∈ w.locks
  there : row ∈ s.database.tickets

structure HasCustomer (row : Customer) : Prop where
  locked : .customer row.id ∈ w.locks
  there : s.database.customers row.id = some row

structure HasUser (row : Account) : Prop where
  locked : .user row.id ∈ w.locks
  there : s.database.users row.id = some row

/-- The ticket was issued for the challenge. -/
structure Backs (challenge : OtpChallenge) (ticket : Ticket) : Prop where
  named : challenge.id = ticket.challenge
  history : ∃ code, .challengeCreated (created challenge) code ∈ s.history

/-- What the rows of `lock_current` are read for. -/
def Using : Use → Prop
  | .verifying row now => HasChallenge s w row ∧ ∃ code, codeOf w.operation = some code ∧
      Fits settings row now code
  | .spending ticket challenge => HasTicket s w ticket ∧ ticket.consumedAt = none ∧
      Backs s challenge ticket

/-- The rows that `lock_current` has locked so far. -/
def Staged (challenge : OtpChallenge) : Stage → Prop
  | .customer => True
  | .contact customer | .subscription customer _ | .links customer _ _ | .user customer _ _ =>
      challenge.customer = some customer.id ∧ HasCustomer s w customer
  | .userLink customer _ _ user =>
      challenge.customer = some customer.id ∧ HasCustomer s w customer ∧ HasUser s w user

structure IsTarget (challenge : OtpChallenge) (target : CurrentAuthTarget) : Prop where
  named : challenge.customer = some target.customer.id
  customer : HasCustomer s w target.customer
  free : target.user = none → target.customer.user = none
  user : ∀ user, target.user = some user → HasUser s w user

/-- A ticket that is about to be spent. -/
structure Spends (ticket : Ticket) (operation : ReceiptOperation) : Prop where
  operation : receiptOf w.operation = some operation
  has : HasTicket s w ticket
  unconsumed : ticket.consumedAt = none

/-- A ticket that is spent on an account for the customer of its challenge. -/
structure Signing (ticket : Ticket) (customer : Customer) : Prop extends
    Spends s w ticket .signup where
  challenge : ∃ challenge, Backs s challenge ticket ∧ challenge.customer = some customer.id
  owner : HasCustomer s w customer
  free : customer.user = none

/-- A ticket that is spent on a password, with the user's version of its issue. -/
structure Resetting (ticket : Ticket) (user : Account) : Prop extends
    Spends s w ticket .passwordReset where
  account : HasUser s w user
  named : ticket.user = some user.id
  version : ticket.authVersionAtIssue = some user.authVersion

/-- A target that the ticket may be spent on. -/
structure Checked (ticket : Ticket) (target : CurrentAuthTarget) : Prop where
  signup : receiptOf w.operation = some .signup → Signing s w ticket target.customer
  reset : receiptOf w.operation = some .passwordReset →
    ∀ user, target.user = some user → Resetting s w ticket user

/-- A receipt whose key nobody else takes. -/
structure Recording (receipt : OperationReceipt) : Prop where
  locked : .receipt receipt.operation receipt.idempotencyKeyHmac ∈ w.locks
  new : s.database.receiptOf receipt.operation receipt.idempotencyKeyHmac = none
  key : ∃ spending, w.operation.spending = some spending ∧
    receipt.operation = spending.operation ∧
      receipt.idempotencyKeyHmac = keyHmac settings spending

/-- The new link joins the new user and the customer. -/
structure Joins (customer : Customer) (user : Account) (link : CustomerAccountLink) : Prop where
  locked : .user user.id ∈ w.locks
  customer : link.customer = customer.id
  user : link.user = user.id

/-- What a transaction may rely on after each of its queries. -/
def Holding : Prop :=
  match w.phase with
  | .drafted challenge code _ _ | .inserted challenge code _ _ => Fresh settings s w challenge code
  | .superseding challenge code _ _ _ superseded =>
      Fresh settings s w challenge code ∧ ∀ id ∈ superseded, .challenge id ∈ w.locks
  | .challengeLocked row => HasChallenge s w row
  | .looking use stage => Using settings s w use ∧ Staged s w use.challenge stage
  | .looked use target => Using settings s w use ∧
      ∀ found, target = some found → IsTarget s w use.challenge found
  | .ticketLocked ticket challenge => HasTicket s w ticket ∧ Backs s challenge ticket
  | .targetChecked ticket target => Checked s w ticket target
  | .userCreated ticket customer user => Signing s w ticket customer ∧ .user user.id ∈ w.locks
  | .linked ticket customer user link => Signing s w ticket customer ∧ Joins w customer user link
  | .userSaved ticket user => Resetting s w ticket user
  | .signupRecorded ticket customer user link receipt =>
      Signing s w ticket customer ∧ Joins w customer user link ∧ Recording settings s w receipt
  | .resetRecorded ticket user receipt =>
      Resetting s w ticket user ∧ Recording settings s w receipt
  | .begun | .bucketLocked _ _ | .prechecked | .keyed | .unused | .violated | .replaying _
  | .answered | .finished => True

end

/-! ### What stays true -/

/-- What a transaction has read of the rows it has locked is the same in another state. -/
structure Keeps (s : State) (w : Worker) (t : State) (after : Worker) : Prop where
  operation : after.operation = w.operation
  locks : ∀ key ∈ w.locks, key ∈ after.locks
  challenges : ∀ row, .challenge row.id ∈ w.locks →
    (row ∈ t.database.challenges ↔ row ∈ s.database.challenges)
  tickets : ∀ row, .ticket row.id ∈ w.locks → row ∈ s.database.tickets → row ∈ t.database.tickets
  receipts : ∀ operation hmac, .receipt operation hmac ∈ w.locks →
    t.database.receiptOf operation hmac = s.database.receiptOf operation hmac
  users : ∀ id, .user id ∈ w.locks → t.database.users id = s.database.users id
  customers : ∀ id, .customer id ∈ w.locks → t.database.customers id = s.database.customers id
  history : ∀ e ∈ s.history, e ∈ t.history
  below : s.nextId ≤ t.nextId

namespace Keeps
variable {settings : P1Settings} {s t : State} {w after : Worker}

/-- The transaction takes further locks. -/
theorem locking (s : State) (w : Worker) (keys : List Key) (phase : Phase) :
    Keeps s w s (w.locking keys phase) where
  operation := rfl
  locks _ mem := List.mem_append_right keys mem
  challenges _ _ := .rfl
  tickets _ _ there := there
  receipts _ _ _ := rfl
  users _ _ := rfl
  customers _ _ := rfl
  history _ mem := mem
  below := Nat.le_refl _

theorem reaches (s : State) (w : Worker) (phase : Phase) : Keeps s w s (w.reaches phase) :=
  locking s w [] phase

/-- The transaction takes a number, and the lock of its row. -/
theorem numbering (s : State) (w : Worker) (keys : List Key) (phase : Phase) :
    Keeps s w { s with nextId := s.nextId + 1 } (w.locking keys phase) :=
  have keeps := locking s w keys phase
  ⟨keeps.operation, keeps.locks, keeps.challenges, keeps.tickets, keeps.receipts, keeps.users,
    keeps.customers, keeps.history, Nat.le_succ _⟩

variable (keeps : Keeps s w t after)
include keeps

theorem fresh {challenge : OtpChallenge} {code : String}
    (fresh : Fresh settings s w challenge code) : Fresh settings t after challenge code where
  locked := keeps.locks _ fresh.locked
  below := Nat.lt_of_lt_of_le fresh.below keeps.below
  new row mem same := by
    have locked : .challenge row.id ∈ w.locks := same ▸ fresh.locked
    exact fresh.new row ((keeps.challenges row locked).1 mem) same
  blank := fresh.blank
  digest := fresh.digest

theorem hasChallenge {row : OtpChallenge} (has : HasChallenge s w row) : HasChallenge t after row :=
  ⟨keeps.locks _ has.locked, (keeps.challenges row has.locked).2 has.there⟩

theorem hasTicket {row : Ticket} (has : HasTicket s w row) : HasTicket t after row :=
  ⟨keeps.locks _ has.locked, keeps.tickets row has.locked has.there⟩

theorem hasCustomer {row : Customer} (has : HasCustomer s w row) : HasCustomer t after row :=
  ⟨keeps.locks _ has.locked, (keeps.customers row.id has.locked).trans has.there⟩

theorem hasUser {row : Account} (has : HasUser s w row) : HasUser t after row :=
  ⟨keeps.locks _ has.locked, (keeps.users row.id has.locked).trans has.there⟩

theorem backs {challenge : OtpChallenge} {ticket : Ticket} (backs : Backs s challenge ticket) :
    Backs t challenge ticket := by
  have ⟨code, mem⟩ := backs.history
  exact ⟨backs.named, code, keeps.history _ mem⟩

theorem uses {use : Use} (uses : Using settings s w use) : Using settings t after use := by
  cases use with
  | verifying row now =>
    have ⟨has, code, its, fits⟩ := uses
    refine ⟨keeps.hasChallenge has, code, ?_, fits⟩
    rwa [keeps.operation]
  | spending ticket challenge =>
    exact ⟨keeps.hasTicket uses.1, uses.2.1, keeps.backs uses.2.2⟩

theorem staged {challenge : OtpChallenge} {stage : Stage} (staged : Staged s w challenge stage) :
    Staged t after challenge stage := by
  cases stage with
  | customer => trivial
  | contact | subscription | links | user => exact ⟨staged.1, keeps.hasCustomer staged.2⟩
  | userLink => exact ⟨staged.1, keeps.hasCustomer staged.2.1, keeps.hasUser staged.2.2⟩

theorem isTarget {challenge : OtpChallenge} {target : CurrentAuthTarget}
    (its : IsTarget s w challenge target) : IsTarget t after challenge target :=
  ⟨its.named, keeps.hasCustomer its.customer, its.free,
    fun user is => keeps.hasUser (its.user user is)⟩

theorem spends {ticket : Ticket} {operation : ReceiptOperation}
    (spends : Spends s w ticket operation) : Spends t after ticket operation := by
  refine ⟨?_, keeps.hasTicket spends.has, spends.unconsumed⟩
  rw [keeps.operation]
  exact spends.operation

theorem signing {ticket : Ticket} {customer : Customer} (signing : Signing s w ticket customer) :
    Signing t after ticket customer := by
  have ⟨challenge, backs, named⟩ := signing.challenge
  exact ⟨keeps.spends signing.toSpends, ⟨challenge, keeps.backs backs, named⟩,
    keeps.hasCustomer signing.owner, signing.free⟩

theorem resetting {ticket : Ticket} {user : Account} (resetting : Resetting s w ticket user) :
    Resetting t after ticket user :=
  ⟨keeps.spends resetting.toSpends, keeps.hasUser resetting.account, resetting.named,
    resetting.version⟩

theorem recording {receipt : OperationReceipt} (recording : Recording settings s w receipt) :
    Recording settings t after receipt := by
  refine ⟨keeps.locks _ recording.locked,
    (keeps.receipts _ _ recording.locked).trans recording.new, ?_⟩
  rw [keeps.operation]
  exact recording.key

theorem joins {customer : Customer} {user : Account} {link : CustomerAccountLink}
    (joins : Joins w customer user link) : Joins after customer user link :=
  ⟨keeps.locks _ joins.locked, joins.customer, joins.user⟩

end Keeps

/-- A transaction may rely on the same after a step of another one. -/
theorem Keeps.holding {settings : P1Settings} {s t : State} {w : Worker} (keeps : Keeps s w t w)
    (holding : Holding settings s w) : Holding settings t w := by
  unfold Holding at holding ⊢
  split at holding
  · exact keeps.fresh holding
  · exact keeps.fresh holding
  · exact ⟨keeps.fresh holding.1, holding.2⟩
  · exact keeps.hasChallenge holding
  · exact ⟨keeps.uses holding.1, keeps.staged holding.2⟩
  · exact ⟨keeps.uses holding.1, fun found is => keeps.isTarget (holding.2 found is)⟩
  · exact ⟨keeps.hasTicket holding.1, keeps.backs holding.2⟩
  · exact ⟨fun its => keeps.signing (holding.signup its),
      fun its user is => keeps.resetting (holding.reset its user is)⟩
  · exact ⟨keeps.signing holding.1, holding.2⟩
  · exact ⟨keeps.signing holding.1, holding.2⟩
  · exact keeps.resetting holding
  · exact ⟨keeps.signing holding.1, holding.2.1, keeps.recording holding.2.2⟩
  · exact ⟨keeps.resetting holding.1, keeps.recording holding.2⟩
  all_goals trivial

/-! ### What a query commits -/

/-- A new ticket for the customer of a challenge, with the user's version of the time. -/
structure Issues (s : State) (row : OtpChallenge) (ticket : Ticket) : Prop where
  id : ticket.id = s.nextId
  challenge : ticket.challenge = row.id
  unconsumed : ticket.consumedAt = none
  customer : row.customer = some ticket.customer
  version : ∀ user, ticket.user = some user → ∃ account, s.database.users user = some account ∧
    ticket.authVersionAtIssue = some account.authVersion

/-- The row with its verification. -/
def verifiedRow (row : OtpChallenge) (now : Instant) : OtpChallenge :=
  { row with verifiedAt := some now, consumedAt := some now }

/-- What a query does to what the others see. -/
inductive Effect (settings : P1Settings) (s : State) (w : Worker) : State → Prop
  | quiet : Effect settings s w s
  | numbered : Effect settings s w { s with nextId := s.nextId + 1 }
  | counted {purpose : Purpose} {fingerprint : String} {bucket : ChallengeRateBucket} :
      Effect settings s w (s.commit (setBucket s.database purpose fingerprint bucket) [])
  | challenged {challenge : OtpChallenge} {code : String} {bucket : ChallengeRateBucket}
      {now : Instant} {superseded : List Nat} (fresh : Fresh settings s w challenge code)
      (locked : ∀ id ∈ superseded, .challenge id ∈ w.locks) :
      Effect settings s w (commitChallenge s w challenge code bucket now superseded).1
  | refused {row : OtpChallenge} (has : HasChallenge s w row) (unverified : row.verifiedAt = none) :
      Effect settings s w (s.commit
        (putChallenge s.database { row with failureCount := row.failureCount + 1 })
        [.codeRefused row.id])
  | abandoned {row : OtpChallenge} {now : Instant} (has : HasChallenge s w row) :
      Effect settings s w
        (s.commit (putChallenge s.database { row with consumedAt := some now }) [])
  | verified {row : OtpChallenge} {now : Instant} {code : String} (has : HasChallenge s w row)
      (fits : Fits settings row now code) :
      Effect settings s w (s.commit (putChallenge s.database (verifiedRow row now))
        [.challengeVerified row.id code now])
  | issued {row : OtpChallenge} {now : Instant} {code : String} {ticket : Ticket}
      (has : HasChallenge s w row) (fits : Fits settings row now code)
      (issues : Issues s row ticket) :
      Effect settings s w
        { s.commit { putChallenge s.database (verifiedRow row now) with
              tickets := s.database.tickets ++ [ticket] }
            [.challengeVerified row.id code now, .ticketIssued ticket] with
          nextId := s.nextId + 1 }
  | signedUp {o : Outside} {spending : Spending} {ticket : Ticket} {customer : Customer}
      {user : Account} {link : CustomerAccountLink} {receipt : OperationReceipt}
      (its : w.operation.spending = some spending) (signing : Signing s w ticket customer)
      (joins : Joins w customer user link) (recording : Recording settings s w receipt) :
      Effect settings s w (commitSignup o s w spending ticket customer user link receipt).1
  | reset {o : Outside} {spending : Spending} {ticket : Ticket} {user : Account}
      {receipt : OperationReceipt} (its : w.operation.spending = some spending)
      (resetting : Resetting s w ticket user) (recording : Recording settings s w receipt) :
      Effect settings s w (commitReset o s w spending ticket user receipt).1

/-- A query leaves the transaction with something to rely on. -/
structure Advances (settings : P1Settings) (s : State) (w : Worker) (next : State × Worker) :
    Prop where
  effect : Effect settings s w next.1
  holding : Holding settings next.1 next.2

section
variable {settings : P1Settings} {o : Outside} {s t : State} {w after : Worker}

theorem advances_quiet (holding : Holding settings s after) : Advances settings s w (s, after) :=
  ⟨.quiet, holding⟩

theorem advances_done (effect : Effect settings s w t) : Advances settings s w (t, w.ended) :=
  ⟨effect, trivial⟩

theorem advances_ended : Advances settings s w (s, w.ended) := advances_done .quiet

/-- The rows that transactions meet. -/
structure Tables (s : State) : Prop where
  ids : (s.database.challenges.map (·.id)).Nodup
  below : ∀ row ∈ s.database.challenges, row.id < s.nextId
  created : ∀ row ∈ s.database.challenges, ∃ code, .challengeCreated (created row) code ∈ s.history
  users : ∀ id row, s.database.users id = some row → row.id = id
  customers : ∀ id row, s.database.customers id = some row → row.id = id

/-! #### New challenges -/

theorem begin_advances (purpose : Purpose) (fingerprint key : String) :
    Advances settings s w (beginChallenge settings o s w purpose fingerprint key) := by
  unfold beginChallenge
  split
  · exact advances_ended
  · split
    · exact advances_quiet trivial
    · exact advances_quiet trivial

theorem draft_advances (tables : Tables s) (bucket : ChallengeRateBucket) (now : Instant)
    (purpose : Purpose) (fingerprint key : String) :
    Advances settings s w (draftChallenge settings o s w bucket now purpose fingerprint key) := by
  unfold draftChallenge
  dsimp only
  split
  · exact advances_done .counted
  · split
    · exact advances_ended
    · split
      · exact advances_ended
      · refine ⟨.numbered, ⟨.head _, Nat.lt_succ_self _, fun row mem => ?_, rfl, rfl⟩⟩
        exact Nat.ne_of_lt (tables.below row mem)

theorem insert_advances {challenge : OtpChallenge} {code : String} {bucket : ChallengeRateBucket}
    {now : Instant} (fresh : Fresh settings s w challenge code) :
    Advances settings s w (insertChallenge s w challenge code bucket now) := by
  unfold insertChallenge
  split
  · exact advances_ended
  · exact advances_quiet ((Keeps.locking s w _ _).fresh fresh)

theorem supersedeNext_advances {challenge : OtpChallenge} {code : String}
    {bucket : ChallengeRateBucket} {now : Instant} {id : Nat} {todo superseded : List Nat}
    (fresh : Fresh settings s w challenge code)
    (locked : ∀ id ∈ superseded, .challenge id ∈ w.locks) :
    Advances settings s w (supersedeNext s w challenge code bucket now id todo superseded) := by
  unfold supersedeNext
  refine advances_quiet ⟨(Keeps.locking s w _ _).fresh fresh, fun other mem => ?_⟩
  have cases_ : other ∈ superseded ∨ other = id := by
    split at mem
    · exact (List.mem_append.1 mem).imp_right List.mem_singleton.1
    · exact .inl mem
  cases cases_ with
  | inl old => exact .tail _ (locked other old)
  | inr new =>
    rw [new]
    exact .head _

/-! #### Verification -/

theorem compare_advances {row : OtpChallenge} {otpCode : String}
    (its : codeOf w.operation = some otpCode) (has : HasChallenge s w row) :
    Advances settings s w (compareCode settings o s w row otpCode) := by
  unfold compareCode
  split
  · exact advances_ended
  · rename_i below
    split
    · exact advances_ended
    · rename_i usable
      have unverified : row.verifiedAt = none :=
        Option.not_isSome_iff_eq_none.1 fun is => usable (.inr (.inl is))
      have unexpired : o.now < row.expiresAt :=
        Nat.lt_of_not_le fun le => usable (.inr (.inr le))
      split
      · exact advances_done (.refused has unverified)
      · rename_i same
        split
        · exact advances_ended
        · refine advances_quiet ⟨⟨(Keeps.reaches s w _).hasChallenge has, otpCode, its, ?_⟩, trivial⟩
          exact ⟨unverified, Nat.lt_of_not_le below, unexpired, Decidable.not_not.1 same⟩

theorem newTicket_issues {row : OtpChallenge} {target : CurrentAuthTarget} {ticket : Ticket}
    (its : IsTarget s w row target) (new : newTicket settings o s row target = some ticket) :
    Issues s row ticket := by
  unfold newTicket at new
  dsimp only at new
  split at new
  · cases new
    exact ⟨rfl, rfl, rfl, its.named, nofun⟩
  · cases new
  · have ⟨user, found, is⟩ := Option.map_eq_some_iff.1 new
    cases is
    refine ⟨rfl, rfl, rfl, its.named, fun id named => ?_⟩
    cases named
    exact ⟨user, (its.user user found).there, rfl⟩

theorem finish_advances {row : OtpChallenge} {now : Instant} {otpCode : String}
    {target : Option CurrentAuthTarget} (has : HasChallenge s w row)
    (fits : Fits settings row now otpCode)
    (its : ∀ found, target = some found → IsTarget s w row found) :
    Advances settings s w (finishVerification settings o s w row now otpCode target) := by
  unfold finishVerification
  cases target with
  | none => exact advances_done (.abandoned has)
  | some target =>
    dsimp only
    split
    · exact advances_done (.verified has fits)
    · rename_i ticket new
      split
      · exact advances_ended
      · exact advances_done (.issued has fits (newTicket_issues (its target rfl) new))

/-! #### The rows of a target -/

/-- A row that `lock_current` finds is under its own key. -/
theorem Tables.customer (tables : Tables s) {id : Nat} {keep : Customer → Bool} {row : Customer}
    (found : (s.database.customers id).filter keep = some row) :
    row.id = id ∧ s.database.customers row.id = some row := by
  have there := (Option.filter_eq_some_iff.1 found).1
  have named := tables.customers _ _ there
  exact ⟨named, named ▸ there⟩

theorem Tables.user (tables : Tables s) {id : Nat} {keep : Account → Bool} {row : Account}
    (found : (s.database.users id).filter keep = some row) :
    row.id = id ∧ s.database.users row.id = some row := by
  have there := (Option.filter_eq_some_iff.1 found).1
  have named := tables.users _ _ there
  exact ⟨named, named ▸ there⟩

/-- What `lock_current` leads to, with the rows locked so far. -/
def Lookup (s : State) (w : Worker) (use : Use) : Looked → Prop
  | .missing => True
  | .next stage key => Staged s (w.locking [key] (.looking use stage)) use.challenge stage
  | .found target keys =>
      IsTarget s (w.locking keys (.looked use (some target))) use.challenge target

theorem lockCurrent_ok (tables : Tables s) {use : Use} {stage : Stage}
    (staged : Staged s w use.challenge stage) :
    Lookup s w use (lockCurrent s.database use.challenge stage) := by
  unfold lockCurrent
  split
  · split
    · rename_i id _ named _
      split
      · trivial
      · rename_i customer found
        have ⟨same, there⟩ := tables.customer found
        subst same
        exact ⟨named, .head _, there⟩
    · trivial
  · split
    · trivial
    · split
      · trivial
      · exact (Keeps.locking s w _ _).staged staged
  · split
    · trivial
    · dsimp only
      split
      · exact (Keeps.locking s w _ _).staged staged
      · exact (Keeps.locking s w _ _).staged staged
  · split
    · trivial
    · split
      · trivial
      · rename_i free
        have ⟨named, has⟩ := staged
        refine ⟨named, (Keeps.locking s w _ _).hasCustomer has, fun _ => ?_, nofun⟩
        exact Option.not_isSome_iff_eq_none.1 free
  · split
    · trivial
    · split
      · trivial
      · split
        · trivial
        · rename_i user found
          have ⟨named, has⟩ := staged
          have ⟨same, there⟩ := tables.user found
          subst same
          exact ⟨named, (Keeps.locking s w _ _).hasCustomer has, .head _, there⟩
  · split
    · trivial
    · have ⟨named, has, hasUser⟩ := staged
      refine ⟨named, (Keeps.locking s w _ _).hasCustomer has, nofun, fun user is => ?_⟩
      cases is
      exact (Keeps.locking s w _ _).hasUser hasUser

/-! #### Tickets -/

section
variable {spending : Spending}

theorem orReplay_advances {rest : State × Worker} (its : Advances settings s w rest) :
    Advances settings s w (orReplay settings s w spending rest) := by
  unfold orReplay
  split
  · exact advances_quiet trivial
  · exact its

theorem lockTicket_advances (tables : Tables s) :
    Advances settings s w (lockTicket settings s w spending) := by
  unfold lockTicket
  split
  · exact advances_ended
  · rename_i ticket found
    split
    · exact advances_ended
    · split
      · exact advances_ended
      · rename_i challenge read
        have there : ticket ∈ s.database.tickets := List.mem_of_find?_eq_some found
        have mem : challenge ∈ s.database.challenges := List.mem_of_find?_eq_some read
        have named : challenge.id = ticket.challenge := by simpa using List.find?_some read
        exact advances_quiet ⟨⟨.head _, there⟩, named, tables.created _ mem⟩

theorem checkTicket_advances {ticket : Ticket} {challenge : OtpChallenge}
    (has : HasTicket s w ticket) (backs : Backs s challenge ticket) :
    Advances settings s w (checkTicket settings o s w spending ticket challenge) := by
  unfold checkTicket
  split
  · exact orReplay_advances advances_ended
  · rename_i usable
    have unconsumed : ticket.consumedAt = none :=
      Option.not_isSome_iff_eq_none.1 fun is => usable (.inl is)
    have keeps := Keeps.reaches s w (.looking (.spending ticket challenge) .customer)
    exact advances_quiet ⟨⟨keeps.hasTicket has, unconsumed, keeps.backs backs⟩, trivial⟩

theorem receiptOf_spending (its : w.operation.spending = some spending) :
    receiptOf w.operation = some spending.operation := by
  unfold receiptOf
  rw [its]
  rfl

theorem checkTarget_advances (its : w.operation.spending = some spending) {ticket : Ticket}
    {challenge : OtpChallenge} {target : CurrentAuthTarget} (has : HasTicket s w ticket)
    (unconsumed : ticket.consumedAt = none) (backs : Backs s challenge ticket)
    (current : IsTarget s w challenge target) :
    Advances settings s w (checkTarget o s w spending ticket target) := by
  have operation := receiptOf_spending its
  have keeps := Keeps.reaches s w (.targetChecked ticket target)
  unfold checkTarget
  split
  · rename_i signup
    rw [signup] at operation
    split
    · exact advances_ended
    · rename_i fits
      split
      · exact advances_ended
      · have free : target.user = none :=
          Option.not_isSome_iff_eq_none.1 fun is => fits (.inr is)
        have signing : Signing s w ticket target.customer :=
          ⟨⟨operation, has, unconsumed⟩, ⟨challenge, backs, current.named⟩, current.customer,
            current.free free⟩
        refine advances_quiet ⟨fun _ => keeps.signing signing, fun other => ?_⟩
        change receiptOf w.operation = _ at other
        rw [operation] at other
        cases other
  · rename_i reset
    rw [reset] at operation
    split
    · exact advances_ended
    · rename_i user found
      split
      · exact advances_ended
      · rename_i fits
        refine advances_quiet ⟨fun other => ?_, fun _ user' is => ?_⟩
        · change receiptOf w.operation = _ at other
          rw [operation] at other
          cases other
        · cases found.symm.trans is
          have named : ticket.user = some user.id :=
            (Decidable.not_not.1 fun other => fits (.inl other)).symm
          have version : ticket.authVersionAtIssue = some user.authVersion :=
            Decidable.not_not.1 fun other => fits (.inr (.inr other))
          exact keeps.resetting
            ⟨⟨operation, has, unconsumed⟩, current.user user found, named, version⟩

theorem writeUser_advances {ticket : Ticket} {target : CurrentAuthTarget}
    (checked : Checked s w ticket target) :
    Advances settings s w (writeUser o s w ticket target) := by
  unfold writeUser
  split
  · rename_i op
    have signing : Signing s w ticket target.customer := by
      refine checked.signup ?_
      rw [op]
      rfl
    split
    · exact advances_ended
    · split
      · exact advances_quiet trivial
      · exact ⟨.numbered, (Keeps.numbering s w _ _).signing signing, .head _⟩
  · rename_i op
    have resetting : ∀ user, target.user = some user → Resetting s w ticket user := by
      refine checked.reset ?_
      rw [op]
      rfl
    split
    · exact advances_ended
    · rename_i user found
      exact advances_quiet ((Keeps.reaches s w _).resetting (resetting user found))
  · exact advances_ended
  · exact advances_ended

theorem writeLink_advances {ticket : Ticket} {customer : Customer} {user : Account}
    (signing : Signing s w ticket customer) (locked : .user user.id ∈ w.locks) :
    Advances settings s w (writeLink o s w ticket customer user) := by
  unfold writeLink
  split
  · exact advances_ended
  · split
    · exact advances_quiet trivial
    · exact ⟨.numbered, (Keeps.numbering s w _ _).signing signing, .tail _ locked, rfl, rfl⟩

/-- The receipt is inserted under the lock of its key. -/
theorem writeReceipt_advances (its : w.operation.spending = some spending) {user : Account}
    {taken : Worker} {phase : Phase} (blank : Advances settings s w (s, taken))
    (next : Recording settings s
      (w.locking [.receipt spending.operation (keyHmac settings spending)] phase)
        (receiptFor settings o spending user) →
      Holding settings s
        (w.locking [.receipt spending.operation (keyHmac settings spending)] phase)) :
    Advances settings s w (writeReceipt settings s w spending taken phase) := by
  unfold writeReceipt
  split
  · exact blank
  · rename_i new
    exact advances_quiet (next ⟨.head _, new, spending, its, rfl, rfl⟩)

theorem replay_advances {receipt : OperationReceipt} :
    Advances settings s w (replay settings o s w spending receipt) := by
  unfold replay
  split
  · exact advances_ended
  · split
    · exact advances_ended
    · split
      · exact advances_ended
      · exact advances_quiet trivial

/-! #### The next query -/

theorem spend_advances (tables : Tables s) (its : w.operation.spending = some spending)
    (holding : Holding settings s w) : Advances settings s w (spend settings o s w spending) := by
  unfold Holding at holding
  unfold spend
  split
  · split
    · exact advances_ended
    · split
      · exact advances_quiet trivial
      · exact advances_ended
  · exact advances_quiet trivial
  · exact orReplay_advances (advances_quiet trivial)
  · exact lockTicket_advances tables
  · rename_i phase
    rw [phase] at holding
    exact checkTicket_advances holding.1 holding.2
  · rename_i phase
    rw [phase] at holding
    have ⟨⟨has, unconsumed, backs⟩, current⟩ := holding
    exact checkTarget_advances its has unconsumed backs (current _ rfl)
  · rename_i phase
    rw [phase] at holding
    exact orReplay_advances (writeUser_advances holding)
  · rename_i phase
    rw [phase] at holding
    exact writeLink_advances holding.1 holding.2
  · rename_i ticket customer user link phase
    rw [phase] at holding
    have keeps := Keeps.locking s w [.receipt spending.operation (keyHmac settings spending)]
      (.signupRecorded ticket customer user link (receiptFor settings o spending user))
    exact writeReceipt_advances its (advances_quiet trivial) fun recording =>
      ⟨keeps.signing holding.1, keeps.joins holding.2, recording⟩
  · rename_i ticket user phase
    rw [phase] at holding
    have keeps := Keeps.locking s w [.receipt spending.operation (keyHmac settings spending)]
      (.resetRecorded ticket user (receiptFor settings o spending (resetUser user)))
    exact writeReceipt_advances its advances_ended fun recording =>
      ⟨keeps.resetting holding, recording⟩
  · rename_i phase
    rw [phase] at holding
    exact advances_done (.signedUp its holding.1 holding.2.1 holding.2.2)
  · rename_i phase
    rw [phase] at holding
    exact advances_done (.reset its holding.1 holding.2)
  · exact orReplay_advances advances_ended
  · exact replay_advances
  · exact advances_ended

end

theorem create_advances (tables : Tables s) {purpose : Purpose} {fingerprint key : String}
    (holding : Holding settings s w) :
    Advances settings s w (create settings o s w purpose fingerprint key) := by
  unfold Holding at holding
  unfold create
  split
  · exact begin_advances purpose fingerprint key
  · exact draft_advances tables _ _ purpose fingerprint key
  · rename_i phase
    rw [phase] at holding
    exact insert_advances holding
  · rename_i phase
    rw [phase] at holding
    exact advances_quiet ⟨(Keeps.reaches s w _).fresh holding, nofun⟩
  · rename_i phase
    rw [phase] at holding
    exact supersedeNext_advances holding.1 holding.2
  · rename_i phase
    rw [phase] at holding
    exact advances_done (.challenged holding.1 holding.2)
  · exact advances_ended

theorem verify_advances {purpose : Purpose} {id : Nat} {otpCode : String}
    (its : codeOf w.operation = some otpCode) (holding : Holding settings s w) :
    Advances settings s w (verify settings o s w purpose id otpCode) := by
  unfold Holding at holding
  unfold verify
  split
  · split
    · exact advances_ended
    · rename_i row found
      exact advances_quiet ⟨.head _, List.mem_of_find?_eq_some found⟩
  · rename_i phase
    rw [phase] at holding
    exact compare_advances its holding
  · rename_i row now target phase
    rw [phase] at holding
    have ⟨⟨has, code, its', fits⟩, current⟩ := holding
    cases its.symm.trans its'
    exact finish_advances has fits current
  · exact advances_ended

/-- Whatever a transaction has read and written, it may rely on it after its next query. -/
theorem advance_ok (tables : Tables s) (holding : Holding settings s w) :
    Advances settings s w (advance settings o s w) := by
  have whole := holding
  unfold Holding at holding
  unfold advance
  split
  · rename_i use stage phase
    rw [phase] at holding
    have ⟨uses, staged⟩ := holding
    have found := lockCurrent_ok tables staged
    split
    · refine advances_quiet ⟨(Keeps.reaches s w (.looked use none)).uses uses, fun other is => ?_⟩
      cases is
    · rename_i stage' key is
      rw [is] at found
      exact advances_quiet ⟨(Keeps.locking s w [key] (.looking use stage')).uses uses, found⟩
    · rename_i target keys is
      rw [is] at found
      refine advances_quiet
        ⟨(Keeps.locking s w keys (.looked use (some target))).uses uses, fun other same => ?_⟩
      cases same
      exact found
  · exact advances_ended
  · exact advances_ended
  · split
    · exact create_advances tables whole
    · rename_i op
      refine verify_advances ?_ whole
      rw [op]
      rfl
    · rename_i op
      refine spend_advances tables ?_ whole
      rw [op]
      rfl
    · rename_i op
      refine spend_advances tables ?_ whole
      rw [op]
      rfl

/-! ### Commits of others -/

theorem supersede_id (superseded : List Nat) (now : Instant) (row : OtpChallenge) :
    (supersede superseded now row).id = row.id := by
  unfold supersede
  split <;> rfl

@[simp]
theorem created_supersede (superseded : List Nat) (now : Instant) (row : OtpChallenge) :
    created (supersede superseded now row) = created row := by
  unfold supersede
  split <;> rfl

/-- A row that is not superseded is among the rows as before. -/
theorem mem_supersede {superseded : List Nat} {now : Instant} {rows : List OtpChallenge}
    {row : OtpChallenge} (kept : row.id ∉ superseded) :
    row ∈ rows.map (supersede superseded now) ↔ row ∈ rows := by
  constructor
  · intro mem
    have ⟨old, there, is⟩ := List.mem_map.1 mem
    have same : old.id = row.id := by rw [← is, supersede_id]
    unfold supersede at is
    rw [same, if_neg kept] at is
    exact is ▸ there
  · intro there
    refine List.mem_map.2 ⟨row, there, ?_⟩
    unfold supersede
    rw [if_neg kept]

theorem mem_replace_ne {α : Type} {id : α → Nat} {row x : α} {rows : List α}
    (other : id x ≠ id row) : x ∈ replaceRow id row rows ↔ x ∈ rows := by
  constructor
  · intro mem
    cases mem_replaceRow_cases mem with
    | inl old => exact old.1
    | inr new => exact absurd (congrArg id new) other
  · intro there
    exact mem_replaceRow_other there other

/-- A receipt of another key is found as before. -/
theorem receiptOf_append {db : P1Auth.Database} {receipt : OperationReceipt}
    {operation : ReceiptOperation} {hmac : String}
    (other : receipt.operation = operation → receipt.idempotencyKeyHmac ≠ hmac) :
    P1Auth.Database.receiptOf { db with receipts := db.receipts ++ [receipt] } operation hmac =
      db.receiptOf operation hmac := by
  have no : (decide (receipt.operation = operation) &&
      decide (receipt.idempotencyKeyHmac = hmac)) = false := by
    rw [Bool.and_eq_false_imp, decide_eq_true_eq]
    exact fun same => decide_eq_false (other same)
  unfold P1Auth.Database.receiptOf
  rw [List.find?_append, List.find?_singleton, no]
  simp

section
variable {other : Worker} (apart : ∀ key ∈ other.locks, key ∉ w.locks)
include apart

theorem keeps_put {row row' : OtpChallenge} {more : List Event} (has : HasChallenge s w row)
    (same : row'.id = row.id) :
    Keeps s other (s.commit (putChallenge s.database row') more) other where
  operation := rfl
  locks _ mem := mem
  challenges x locked := by
    refine mem_replace_ne fun is => ?_
    rw [is, same] at locked
    exact apart _ locked has.locked
  tickets _ _ there := there
  receipts _ _ _ := rfl
  users _ _ := rfl
  customers _ _ := rfl
  history _ mem := List.mem_append_left _ mem
  below := Nat.le_refl _

/-- What is committed with a ticket that is spent leaves the other locked rows. -/
theorem keeps_ticket {ticket : Ticket} (locked : .ticket ticket.id ∈ w.locks) {now : Instant}
    {x : Ticket} (locked' : .ticket x.id ∈ other.locks) (there : x ∈ s.database.tickets) :
    x ∈ (putTicket s.database { ticket with consumedAt := some now }).tickets := by
  refine mem_replaceRow_other there fun is => ?_
  have is : x.id = ticket.id := is
  rw [is] at locked'
  exact apart _ locked' locked

theorem keeps_receipt {db : P1Auth.Database} {receipt : OperationReceipt}
    (recording : Recording settings s w receipt) {operation : ReceiptOperation} {hmac : String}
    (locked : .receipt operation hmac ∈ other.locks) :
    P1Auth.Database.receiptOf { db with receipts := db.receipts ++ [receipt] } operation hmac =
      db.receiptOf operation hmac := by
  refine receiptOf_append fun same same' => ?_
  rw [← same, ← same'] at locked
  exact apart _ locked recording.locked

/-- A query leaves what the other transactions have locked. -/
theorem Effect.keeps (effect : Effect settings s w t) : Keeps s other t other := by
  cases effect with
  | quiet => exact Keeps.reaches s other other.phase
  | numbered => exact Keeps.numbering s other [] other.phase
  | counted =>
    have keeps := Keeps.reaches s other other.phase
    exact ⟨rfl, keeps.locks, keeps.challenges, keeps.tickets, keeps.receipts, keeps.users,
      keeps.customers, fun _ mem => List.mem_append_left _ mem, Nat.le_refl _⟩
  | @challenged challenge code bucket now superseded fresh locked =>
    refine ⟨rfl, fun _ mem => mem, fun row held => ?_, fun _ _ there => there, fun _ _ _ => rfl,
      fun _ _ => rfl, fun _ _ => rfl, fun _ mem => List.mem_append_left _ mem, Nat.le_refl _⟩
    have kept : row.id ∉ superseded := fun mem => apart _ held (locked _ mem)
    have new : row ≠ challenge := fun is => apart _ held (is ▸ fresh.locked)
    change row ∈ s.database.challenges.map (supersede superseded now) ++ [challenge] ↔ _
    rw [List.mem_append, mem_supersede kept, List.mem_singleton, or_iff_left new]
  | refused has _ => exact keeps_put apart has rfl
  | abandoned has => exact keeps_put apart has rfl
  | verified has _ => exact keeps_put apart has rfl
  | @issued row now code ticket has fits issues =>
    have keeps : Keeps s other (s.commit (putChallenge s.database (verifiedRow row now)) []) other :=
      keeps_put apart has rfl
    exact ⟨rfl, keeps.locks, keeps.challenges, fun _ _ there => List.mem_append_left _ there,
      keeps.receipts, keeps.users, keeps.customers, fun _ mem => List.mem_append_left _ mem,
      Nat.le_succ _⟩
  | @signedUp o spending ticket customer user link receipt its signing joins recording =>
    refine ⟨rfl, fun _ mem => mem, fun _ _ => .rfl, fun x held there => ?_, fun _ _ held => ?_,
      fun id held => ?_, fun id held => ?_, fun _ mem => List.mem_append_left _ mem,
      Nat.le_refl _⟩
    · exact keeps_ticket apart signing.has.locked held there
    · exact keeps_receipt apart recording held
    · refine Function.update_of_ne (fun is => ?_) _ _
      exact apart _ held (is ▸ joins.locked)
    · refine Function.update_of_ne (fun is => ?_) _ _
      exact apart _ held (is ▸ signing.owner.locked)
  | @reset o spending ticket user receipt its resetting recording =>
    refine ⟨rfl, fun _ mem => mem, fun _ _ => .rfl, fun x held there => ?_, fun _ _ held => ?_,
      fun id held => ?_, fun _ _ => rfl, fun _ mem => List.mem_append_left _ mem, Nat.le_refl _⟩
    · exact keeps_ticket apart resetting.has.locked held there
    · exact keeps_receipt apart recording held
    · refine Function.update_of_ne (fun is => ?_) _ _
      exact apart _ held (is ▸ resetting.account.locked)

end

/-! #### The rows after a commit -/

theorem tables_put (tables : Tables s) {row row' : OtpChallenge} {more : List Event}
    (has : HasChallenge s w row) (same : created row' = created row) :
    Tables (s.commit (putChallenge s.database row') more) where
  ids := by
    change ((replaceRow (·.id) row' s.database.challenges).map (·.id)).Nodup
    rw [map_replaceRow]
    exact tables.ids
  below x mem := by
    cases mem_replaceRow_cases mem with
    | inl old => exact tables.below x old.1
    | inr new =>
      have named : (created row').id = (created row).id := by rw [same]
      change row'.id = row.id at named
      rw [new, named]
      exact tables.below row has.there
  created x mem := by
    have known {y : OtpChallenge} (there : y ∈ s.database.challenges) :
        ∃ code, .challengeCreated (created y) code ∈ s.history ++ more := by
      have ⟨code, mem⟩ := tables.created y there
      exact ⟨code, List.mem_append_left _ mem⟩
    cases mem_replaceRow_cases mem with
    | inl old => exact known old.1
    | inr new =>
      rw [new, same]
      exact known has.there
  users := tables.users
  customers := tables.customers

theorem ids_update {α : Type} {rows : Nat → Option α} (idOf : α → Nat)
    (ids : ∀ id row, rows id = some row → idOf row = id) (new : α) (id : Nat) (row : α)
    (found : Function.update rows (idOf new) (some new) id = some row) : idOf row = id := by
  by_cases own : id = idOf new
  · rw [own, Function.update_self] at found
    cases found
    exact own.symm
  · rw [Function.update_of_ne own] at found
    exact ids id row found

/-- The tables after a query. -/
theorem Effect.tables (effect : Effect settings s w t) (tables : Tables s) : Tables t := by
  have known {y : OtpChallenge} (more : List Event) (there : y ∈ s.database.challenges) :
      ∃ code, .challengeCreated (created y) code ∈ s.history ++ more := by
    have ⟨code, mem⟩ := tables.created y there
    exact ⟨code, List.mem_append_left _ mem⟩
  cases effect with
  | quiet => exact tables
  | numbered => exact ⟨tables.ids, fun row mem => Nat.lt_succ_of_lt (tables.below row mem), tables.created,
      tables.users, tables.customers⟩
  | counted => exact ⟨tables.ids, tables.below, fun _ mem => known [] mem, tables.users, tables.customers⟩
  | @challenged challenge code bucket now superseded fresh locked =>
    have old {x : OtpChallenge} (mem : x ∈ s.database.challenges.map (supersede superseded now)) :
        ∃ y ∈ s.database.challenges, x.id = y.id ∧ created x = created y := by
      have ⟨y, there, is⟩ := List.mem_map.1 mem
      refine ⟨y, there, ?_, ?_⟩
      · rw [← is, supersede_id]
      · rw [← is, created_supersede]
    refine ⟨?_, fun x mem => ?_, fun x mem => ?_, tables.users, tables.customers⟩
    · change ((s.database.challenges.map (supersede superseded now) ++ [challenge]).map
        (·.id)).Nodup
      have kept : (·.id) ∘ supersede superseded now = OtpChallenge.id :=
        funext (supersede_id superseded now)
      rw [List.map_append, List.map_map, kept]
      refine List.nodup_append.2 ⟨tables.ids, List.nodup_singleton _, fun id mem other new => ?_⟩
      have ⟨row, there, is⟩ := List.mem_map.1 mem
      rw [List.mem_singleton.1 new, ← is]
      exact fresh.new row there
    · cases List.mem_append.1 mem with
      | inl before =>
        have ⟨y, there, same, _⟩ := old before
        rw [same]
        exact tables.below y there
      | inr new =>
        rw [List.mem_singleton.1 new]
        exact fresh.below
    · cases List.mem_append.1 mem with
      | inl before =>
        have ⟨y, there, _, same⟩ := old before
        rw [same]
        exact known _ there
      | inr new =>
        rw [List.mem_singleton.1 new, fresh.blank]
        exact ⟨code, List.mem_append_right _ (.head _)⟩
  | refused has _ => exact tables_put tables has rfl
  | abandoned has => exact tables_put tables has rfl
  | verified has _ => exact tables_put tables has rfl
  | @issued row now code ticket has fits issues =>
    have after : Tables (s.commit (putChallenge s.database (verifiedRow row now))
        [.challengeVerified row.id code now, .ticketIssued ticket]) := tables_put tables has rfl
    exact ⟨after.ids, fun x mem => Nat.lt_succ_of_lt (after.below x mem), after.created, after.users,
      after.customers⟩
  | @signedUp o spending ticket customer user link receipt its signing joins recording =>
    exact ⟨tables.ids, tables.below, fun _ mem => known _ mem,
      ids_update (fun row : Account => row.id) tables.users user,
      ids_update (fun row : Customer => row.id) tables.customers
        { customer with user := some user.id }⟩
  | @reset o spending ticket user receipt its resetting recording =>
    exact ⟨tables.ids, tables.below, fun _ mem => known _ mem,
      ids_update (fun row : Account => row.id) tables.users (resetUser user), tables.customers⟩

end

end WaterCare.Runtime.P1Auth
