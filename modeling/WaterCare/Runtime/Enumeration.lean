import Mathlib.Data.List.Forall2
import WaterCare.Runtime.Throttle

/-!
Two runs over two registries. Codes are asked for, wrong codes are tried, and wrong passwords:
the answers do not tell which of the registries it is. The ids of challenges are renamed by an
injective function.
-/

namespace WaterCare.Runtime.Enumeration
open Machine Store Service
open P1Auth P1AuthService
open Throttle (createNew_refused createNew_free)

inductive Call
  | createChallenge (purpose : Purpose) (identity : Identity) (key : String)
  | verify (purpose : Purpose) (challenge : Nat) (otpCode : String)
  | login (username password : String)
  deriving DecidableEq

structure Occurrence where
  drawn : Drawn
  call : Call

/-- The answer of a call; a body names a challenge by its id. -/
inductive Outcome
  | challenged (data : ChallengeData)
  | verified (verification : Verification)
  | loggedIn (user : Nat)
  | refused (error : BackendError)
  /-- The serializer has refused the request. -/
  | inadmissible
  /-- `full_clean` has raised. -/
  | invalid
  deriving DecidableEq

structure State where
  database : AuthDatabase
  /-- The codes that were generated, by challenge. -/
  generated : Nat → String
  outcomes : List Outcome

def Outcome.ofChallenge : Except Refusal ChallengeData → Outcome
  | .ok data => .challenged data
  | .error (.backend error) => .refused error
  | .error .validation => .invalid

def Outcome.ofVerification : Except BackendError Verification → Outcome
  | .ok verification => .verified verification
  | .error error => .refused error

def Outcome.ofLogin : Except BackendError AuthUser → Outcome
  | .ok user => .loggedIn user.id
  | .error error => .refused error

/-- The body with another name for the challenge. -/
def Outcome.rename (f : Nat → Nat) : Outcome → Outcome
  | .challenged data => .challenged { data with challengeId := f data.challengeId }
  | outcome => outcome

def Call.rename (f : Nat → Nat) : Call → Call
  | .verify purpose challenge otpCode => .verify purpose (f challenge) otpCode
  | call => call

section
variable (settings : AuthSettings) (registry : Registry)

def answer (db : AuthDatabase) (o : Occurrence) : AuthDatabase × Outcome :=
  match o.call with
  | .createChallenge purpose identity key =>
      if admits purpose identity then
        (createChallenge settings registry o.drawn db purpose identity key).map id .ofChallenge
      else (db, .inadmissible)
  | .verify purpose challenge otpCode =>
      (verifyChallenge settings registry o.drawn db purpose challenge otpCode).map id .ofVerification
  | .login username password =>
      (login settings registry o.drawn db username password).map id .ofLogin

/-- The call does not have the code of the challenge, or the password of the account. -/
def Wrong (s : State) : Call → Prop
  | .createChallenge _ _ _ => True
  | .verify _ challenge otpCode =>
      ∀ row ∈ s.database.challenges, row.id = challenge → otpCode ≠ s.generated challenge
  | .login username password => ∀ user, loginUser settings registry username = some user →
      settings.checkPassword password user.password = false

/-- The code belongs to the challenge that is new, if there is one. -/
def generated (s : State) (after : AuthDatabase) (otpCode : String) : Nat → String :=
  if after.nextId = s.database.nextId then s.generated
  else Function.update s.generated s.database.nextId otpCode

def Step (s : State) (o : Occurrence) (t : State) : Prop :=
  Wrong settings registry s o.call ∧
    t = ⟨(answer settings registry s.database o).1,
      generated s (answer settings registry s.database o).1 o.drawn.otpCode,
      s.outcomes ++ [(answer settings registry s.database o).2]⟩

/-- Two steps at one time, with the same call. -/
def Steps (registry registry' : Registry) (f : Nat → Nat) (p : State × State)
    (e : Occurrence × Occurrence) (q : State × State) : Prop :=
  e.1.drawn.now = e.2.drawn.now ∧ e.2.call = e.1.call.rename f ∧
    Step settings registry p.1 e.1 q.1 ∧ Step settings registry' p.2 e.2 q.2

end

/-! ### Tables that look the same -/

/-- A challenge with another name and another target. -/
structure Twin (f : Nat → Nat) (row row' : OtpChallenge) : Prop where
  id : row'.id = f row.id
  purpose : row'.purpose = row.purpose
  key : row'.idempotencyKeyHmac = row.idempotencyKeyHmac
  fingerprint : row'.requestFingerprintHmac = row.requestFingerprintHmac
  expiresAt : row'.expiresAt = row.expiresAt
  failureCount : row'.failureCount = row.failureCount
  maxFailures : row'.maxFailures = row.maxFailures
  verifiedAt : row'.verifiedAt = row.verifiedAt
  consumedAt : row'.consumedAt = row.consumedAt

structure Alike (f : Nat → Nat) (db db' : AuthDatabase) : Prop where
  buckets : db'.buckets = db.buckets
  loginBuckets : db'.loginBuckets = db.loginBuckets
  twins : List.Forall₂ (Twin f) db.challenges db'.challenges
  next : ∀ k, db'.nextId + k = f (db.nextId + k)

/-- The digests are those of the codes, and new ids are new. -/
structure Coded (settings : AuthSettings) (s : State) : Prop where
  digest : ∀ row ∈ s.database.challenges,
    row.otpDigest = settings.otpDigest row.id row.purpose (s.generated row.id)
  fresh : ∀ row ∈ s.database.challenges, row.id < s.database.nextId

section
variable {settings : AuthSettings} {registry registry' : Registry} {f : Nat → Nat}
  {db db' : AuthDatabase}

theorem find_twins {rows rows' : List OtpChallenge} {p p' : OtpChallenge → Bool}
    (twins : List.Forall₂ (Twin f) rows rows')
    (agree : ∀ row row', Twin f row row' → p' row' = p row) :
    (rows.find? p = none ∧ rows'.find? p' = none) ∨
      ∃ row row', rows.find? p = some row ∧ rows'.find? p' = some row' ∧ Twin f row row' := by
  induction twins with
  | nil => exact .inl ⟨rfl, rfl⟩
  | cons twin rest ih =>
    rename_i row row' rows rows'
    rw [List.find?_cons, List.find?_cons, agree row row' twin]
    cases p row with
    | true => exact .inr ⟨row, row', rfl, rfl, twin⟩
    | false => exact ih

/-! ### Codes that are asked for -/

section
variable {identity : Identity} {purpose : Purpose}

theorem contactsOf_found {contact : EmailContact} {customer : CustomerProfile}
    (mem : (contact, customer) ∈ contactsOf settings registry identity) :
    contact ∈ registry.contacts ∧ contact.customer = customer.id := by
  have ⟨other, there, found⟩ := List.mem_filterMap.1 mem
  split at found
  · have ⟨customer', is, same⟩ := Option.map_eq_some_iff.1 found
    cases same
    have holds := List.find?_some is
    simp only [Bool.and_eq_true, decide_eq_true_eq] at holds
    exact ⟨there, holds.1.1.1.1.symm⟩
  · cases found

theorem currentLink_found {customer : Nat} {link : CustomerAccountLink} {user : AuthUser}
    (found : currentLink registry customer = some (link, user)) :
    link ∈ registry.links ∧ link.customer = customer ∧ link.user = user.id ∧ link.isActive = true := by
  have ⟨other, mem, is⟩ := List.exists_of_findSome?_eq_some found
  split at is
  · rename_i here
    have ⟨user', is', same⟩ := Option.map_eq_some_iff.1 is
    cases same
    have holds := List.find?_some is'
    simp only [Bool.and_eq_true, decide_eq_true_eq] at holds
    exact ⟨mem, here.1, holds.1.1.1.symm, here.2⟩
  · cases is

/-- The rows of a target that is resolved belong together. -/
structure Joined (registry : Registry) (target : ResolvedTarget) : Prop where
  contact : ∃ contact ∈ registry.contacts, contact.id = target.contact ∧
    contact.customer = target.customer
  subscription : ∀ id, target.subscription = some id → ∃ row ∈ registry.subscriptions,
    row.id = id ∧ row.customer = target.customer
  user : ∀ id, target.user = some id → ∃ link ∈ registry.links,
    link.customer = target.customer ∧ link.user = id ∧ link.isActive = true

theorem resolveTarget_joined {target : ResolvedTarget}
    (found : resolveTarget settings registry identity purpose = some target) :
    Joined registry target := by
  unfold resolveTarget at found
  split at found
  · cases found
  · split at found
    · rename_i contact customer is
      have ⟨there, its⟩ : contact ∈ registry.contacts ∧ contact.customer = customer.id := by
        refine @contactsOf_found settings registry identity contact customer ?_
        rw [is]
        exact List.mem_singleton_self _
      dsimp only at found
      have eligible_ (row : Subscription)
          (is : (if (given identity.customerNumber).isSome = true then
            registry.subscriptions.find? (eligible identity customer.id)
          else none) = some row) :
          row ∈ registry.subscriptions ∧ row.customer = customer.id := by
        split at is
        · have holds := List.find?_some is
          unfold eligible at holds
          simp only [Bool.and_eq_true, decide_eq_true_eq] at holds
          exact ⟨List.mem_of_find?_eq_some is, holds.1.1⟩
        · cases is
      generalize (if (given identity.customerNumber).isSome = true then
        registry.subscriptions.find? (eligible identity customer.id) else none) = subscription
        at found eligible_
      have subscribed (id : Nat) (is : subscription.map (fun row => row.id) = some id) :
          ∃ row ∈ registry.subscriptions, row.id = id ∧ row.customer = customer.id := by
        have ⟨row, is, same⟩ := Option.map_eq_some_iff.1 is
        exact ⟨row, (eligible_ row is).1, same, (eligible_ row is).2⟩
      split at found
      · cases found
      · cases purpose with
        | signup =>
          dsimp only at found
          split at found
          · cases found
          · cases found
            exact ⟨⟨contact, there, rfl, its⟩, subscribed, nofun⟩
        | usernameRecovery | passwordReset =>
          dsimp only at found
          split at found
          · cases found
          · rename_i link user linked
            have ⟨mem, customer_, user_, active⟩ := currentLink_found linked
            split at found
            · cases found
            · split at found
              · cases found
              · cases found
                refine ⟨⟨contact, there, rfl, its⟩, subscribed, fun id is => ?_⟩
                exact ⟨link, mem, customer_, user_.trans (Option.some.inj is), active⟩
    · cases found

/-- The challenge of any request is clean, whether or not its target was found. -/
theorem draft_clean (o : Drawn) (db : AuthDatabase) (hmac : String) :
    challengeIsClean registry (draft settings registry o db purpose identity hmac) = true := by
  unfold draft challengeIsClean newChallenge
  cases found : resolveTarget settings registry identity purpose with
  | none => rfl
  | some target =>
    have ⟨⟨contact, mem, same, its⟩, subscription, user⟩ := resolveTarget_joined found
    simp only [Option.map_some, Option.bind_some, Option.isSome_some, Bool.and_self, decide_true,
      Bool.true_and, Option.all_some, Bool.and_eq_true]
    refine ⟨⟨?_, ?_⟩, ?_⟩
    · exact List.any_eq_true.2 ⟨contact, mem, by rw [same, its]; simp⟩
    · refine Option.all_eq_true _ _ |>.2 fun id is => ?_
      have ⟨row, mem, same, its⟩ := subscription id is
      exact List.any_eq_true.2 ⟨row, mem, by rw [same, its]; simp⟩
    · refine Option.all_eq_true _ _ |>.2 fun id is => ?_
      have ⟨link, mem, its, same, active⟩ := user id is
      exact List.any_eq_true.2 ⟨link, mem, by rw [its, same, active]; simp⟩

theorem Twin.consumeOpen {row row' : OtpChallenge} (twin : Twin f row row') (fingerprint : String)
    (now : Instant) : Twin f (P1AuthService.consumeOpen purpose fingerprint now row)
      (P1AuthService.consumeOpen purpose fingerprint now row') := by
  have ⟨named, purpose_, key, fingerprint_, expires, failures, limit, verified, consumed⟩ := twin
  unfold P1AuthService.consumeOpen
  by_cases open_ : row.purpose = purpose ∧ row.requestFingerprintHmac = fingerprint ∧
      row.consumedAt.isNone
  · have open' : row'.purpose = purpose ∧ row'.requestFingerprintHmac = fingerprint ∧
        row'.consumedAt.isNone := by
      rwa [purpose_, fingerprint_, consumed]
    rw [if_pos open_, if_pos open']
    exact ⟨named, purpose_, key, fingerprint_, expires, failures, limit, verified, rfl⟩
  · have other : ¬(row'.purpose = purpose ∧ row'.requestFingerprintHmac = fingerprint ∧
        row'.consumedAt.isNone) := by
      rwa [purpose_, fingerprint_, consumed]
    rw [if_neg open_, if_neg other]
    exact twin

theorem draft_twin {o o' : Drawn} (same : o.now = o'.now) (alike : Alike f db db') (hmac : String) :
    Twin f (draft settings registry o db purpose identity hmac)
      (draft settings registry' o' db' purpose identity hmac) := by
  have next : db'.nextId = f db.nextId := alike.next 0
  refine ⟨next, rfl, rfl, rfl, ?_, rfl, rfl, rfl, rfl⟩
  exact congrArg (· + seconds settings.otpTtlSeconds) same.symm

/-- The renamed answer of the first run is the one of the second, and the tables stay alike. -/
structure Answers (f : Nat → Nat) (first second : AuthDatabase × Outcome) : Prop where
  alike : Alike f first.1 second.1
  outcome : second.2 = first.2.rename f

theorem insert_alike {o o' : Drawn} (same : o.now = o'.now) (alike : Alike f db db')
    (bucket : ChallengeRateBucket) {challenge challenge' : OtpChallenge}
    (twin : Twin f challenge challenge') :
    Alike f (insertNew settings o db challenge bucket) (insertNew settings o' db' challenge' bucket) := by
  unfold insertNew
  rw [twin.purpose, twin.fingerprint, ← same, alike.buckets]
  refine ⟨rfl, alike.loginBuckets, ?_, fun k => ?_⟩
  · refine List.rel_append ?_ (.cons twin .nil)
    rw [List.forall₂_map_left_iff, List.forall₂_map_right_iff]
    exact alike.twins.imp fun _ _ twin => twin.consumeOpen _ _
  · rw [Nat.add_assoc, Nat.add_assoc]
    exact alike.next (1 + k)

/-- Where no challenge of the key is there, the bucket alone decides. -/
theorem createNew_eq (o : Drawn) (db : AuthDatabase) (hmac : String) :
    createNew settings registry o db purpose identity hmac =
      match refusal settings o.now
          (bucketFor settings db o.now purpose (identityFingerprint settings identity)) with
      | some retryAfter => (db, .error (.backend (tooManyRequests retryAfter)))
      | none =>
          (insertNew settings o db (draft settings registry o db purpose identity hmac)
              (bucketFor settings db o.now purpose (identityFingerprint settings identity)),
            .ok (challengeData settings (draft settings registry o db purpose identity hmac))) := by
  cases free : refusal settings o.now
      (bucketFor settings db o.now purpose (identityFingerprint settings identity)) with
  | some retryAfter => exact createNew_refused free
  | none => exact (createNew_free free).trans (if_pos (draft_clean o db hmac))

theorem challengeData_twin {row row' : OtpChallenge} (twin : Twin f row row') :
    Outcome.challenged (challengeData settings row') =
      (Outcome.challenged (challengeData settings row)).rename f := by
  unfold challengeData
  rw [twin.id]
  rfl

theorem createChallenge_alike {o o' : Drawn} (same : o.now = o'.now) (alike : Alike f db db')
    (key : String) :
    Answers f ((createChallenge settings registry o db purpose identity key).map id .ofChallenge)
      ((createChallenge settings registry' o' db' purpose identity key).map id .ofChallenge) := by
  unfold createChallenge
  cases idempotencyKey key with
  | none => exact ⟨alike, rfl⟩
  | some normalized =>
    have found := @find_twins f _ _ (fun row => decide (row.purpose = purpose) &&
        decide (row.idempotencyKeyHmac = settings.keyDigest normalized))
      (fun row => decide (row.purpose = purpose) &&
        decide (row.idempotencyKeyHmac = settings.keyDigest normalized)) alike.twins
      fun row row' twin => by rw [twin.purpose, twin.key]
    unfold challengeOfKey
    dsimp only
    cases found with
    | inl none_ =>
      rw [none_.1, none_.2]
      dsimp only
      rw [createNew_eq, createNew_eq]
      unfold bucketFor
      rw [alike.buckets, ← same]
      have twin := @draft_twin settings registry registry' f db db' identity purpose o o' same alike
        (settings.keyDigest normalized)
      cases refusal settings o.now (currentBucket settings.toP1Settings o.now
        ((db.buckets purpose (identityFingerprint settings identity)).getD ⟨o.now, 0, none⟩)) with
      | some retryAfter => exact ⟨alike, rfl⟩
      | none => exact ⟨insert_alike same alike _ twin, challengeData_twin twin⟩
    | inr both =>
      have ⟨row, row', is, is', twin⟩ := both
      rw [is, is']
      unfold replayChallenge
      dsimp only
      rw [twin.fingerprint]
      by_cases other : row.requestFingerprintHmac ≠ identityFingerprint settings identity
      · rw [if_pos other, if_pos other]
        exact ⟨alike, rfl⟩
      · rw [if_neg other, if_neg other]
        exact ⟨alike, challengeData_twin twin⟩

end

/-! ### Wrong codes -/

theorem putRow_alike (injective : Function.Injective f) (alike : Alike f db db')
    {row row' : OtpChallenge} (twin : Twin f row row') : Alike f (putRow db row) (putRow db' row') := by
  unfold putRow replaceRow
  refine ⟨alike.buckets, alike.loginBuckets, ?_, alike.next⟩
  rw [List.forall₂_map_left_iff, List.forall₂_map_right_iff]
  refine alike.twins.imp fun other other' twins => ?_
  dsimp only
  by_cases same : other.id = row.id
  · have same' : other'.id = row'.id := by rw [twin.id, twins.id, same]
    rw [if_pos same, if_pos same']
    exact twin
  · have other_ : other'.id ≠ row'.id := by
      rw [twin.id, twins.id]
      exact fun is => same (injective is)
    rw [if_neg same, if_neg other_]
    exact twins

/-- The challenge with one more failure. -/
def failedRow (row : OtpChallenge) : OtpChallenge :=
  { row with failureCount := row.failureCount + 1 }

/-- A wrong code is an error, which the challenge and the time decide. -/
theorem verifyChallenge_wrong {o : Drawn} {purpose : Purpose} {challenge : Nat} {otpCode : String}
    {row : OtpChallenge} (found : db.challenges.find? (fun row => decide (row.id = challenge) &&
      decide (row.purpose = purpose)) = some row)
    (wrong : settings.otpDigest row.id row.purpose otpCode ≠ row.otpDigest) :
    verifyChallenge settings registry o db purpose challenge otpCode =
      if row.maxFailures ≤ row.failureCount then
        (db, .error (tooManyRequests settings.otpResendSeconds))
      else if row.consumedAt.isSome ∨ row.verifiedAt.isSome ∨ row.expiresAt ≤ o.now then
        (db, .error verificationFailed)
      else
        (putRow db (failedRow row), .error (if row.maxFailures ≤ row.failureCount + 1 then
          tooManyRequests settings.otpResendSeconds else verificationFailed)) := by
  have holds := List.find?_some found
  simp only [Bool.and_eq_true, decide_eq_true_eq] at holds
  rw [holds.2] at wrong
  unfold verifyChallenge lockAndVerifyChallenge
  rw [found]
  dsimp only
  rw [if_pos wrong]
  by_cases full : row.maxFailures ≤ row.failureCount
  · rw [if_pos full, if_pos full]
  · rw [if_neg full, if_neg full]
    by_cases elapsed : row.consumedAt.isSome ∨ row.verifiedAt.isSome ∨ row.expiresAt ≤ o.now
    · rw [if_pos elapsed, if_pos elapsed]
    · rw [if_neg elapsed, if_neg elapsed]
      rfl

theorem verifyChallenge_alike {o o' : Drawn} (same : o.now = o'.now)
    (injective : Function.Injective f) (alike : Alike f db db') {purpose : Purpose}
    {challenge : Nat} {otpCode : String}
    (wrong : ∀ row ∈ db.challenges, row.id = challenge →
      settings.otpDigest row.id row.purpose otpCode ≠ row.otpDigest)
    (wrong' : ∀ row ∈ db'.challenges, row.id = f challenge →
      settings.otpDigest row.id row.purpose otpCode ≠ row.otpDigest) :
    Answers f
      ((verifyChallenge settings registry o db purpose challenge otpCode).map id .ofVerification)
      ((verifyChallenge settings registry' o' db' purpose (f challenge) otpCode).map id
        .ofVerification) := by
  have found := @find_twins f _ _
    (fun row => decide (row.id = challenge) && decide (row.purpose = purpose))
    (fun row => decide (row.id = f challenge) && decide (row.purpose = purpose)) alike.twins
    fun row row' twin => by simp only [twin.id, twin.purpose, injective.eq_iff]
  cases found with
  | inl none_ =>
    unfold verifyChallenge lockAndVerifyChallenge
    rw [none_.1, none_.2]
    exact ⟨alike, rfl⟩
  | inr both =>
    have ⟨row, row', is, is', twin⟩ := both
    have holds := List.find?_some is
    have holds' := List.find?_some is'
    simp only [Bool.and_eq_true, decide_eq_true_eq] at holds holds'
    rw [verifyChallenge_wrong is (wrong row (List.mem_of_find?_eq_some is) holds.1),
      verifyChallenge_wrong is' (wrong' row' (List.mem_of_find?_eq_some is') holds'.1)]
    have ⟨named, purpose_, key, fingerprint, expires, failures, limit, verified, consumed⟩ := twin
    rw [failures, limit, consumed, verified, expires, ← same]
    by_cases full : row.maxFailures ≤ row.failureCount
    · rw [if_pos full, if_pos full]
      exact ⟨alike, rfl⟩
    · rw [if_neg full, if_neg full]
      by_cases elapsed : row.consumedAt.isSome ∨ row.verifiedAt.isSome ∨ row.expiresAt ≤ o.now
      · rw [if_pos elapsed, if_pos elapsed]
        exact ⟨alike, rfl⟩
      · rw [if_neg elapsed, if_neg elapsed]
        have twin' : Twin f (failedRow row) (failedRow row') :=
          ⟨named, purpose_, key, fingerprint, expires, congrArg (· + 1) failures, limit, verified,
            consumed⟩
        exact ⟨putRow_alike injective alike twin', rfl⟩

/-! ### Wrong passwords -/

/-- A wrong password is an error, which the bucket of the spelling decides. -/
theorem login_wrong {o : Drawn} {username password : String}
    (wrong : ∀ user, loginUser settings registry username = some user →
      settings.checkPassword password user.password = false) :
    login settings registry o db username password =
      let bucket := loginBucketFor settings db o.now (subjectOf settings username)
      if settings.loginMaxFailures ≤ bucket.failureCount then
        (db, .error (tooManyRequests (loginRetryAfter settings o.now bucket)))
      else
        ({ putLoginBucket db (subjectOf settings username)
              { bucket with failureCount := bucket.failureCount + 1, lastFailedAt := some o.now } with
            loginFailures := db.loginFailures ++ [subjectOf settings username] },
          .error loginFailed) := by
  unfold login
  dsimp only
  cases found : loginUser settings registry username with
  | none => rfl
  | some user =>
    rw [Option.elim_some, wrong user found]

theorem login_alike {o o' : Drawn} (same : o.now = o'.now) (alike : Alike f db db')
    {username password : String}
    (wrong : ∀ user, loginUser settings registry username = some user →
      settings.checkPassword password user.password = false)
    (wrong' : ∀ user, loginUser settings registry' username = some user →
      settings.checkPassword password user.password = false) :
    Answers f ((login settings registry o db username password).map id .ofLogin)
      ((login settings registry' o' db' username password).map id .ofLogin) := by
  have bucket : loginBucketFor settings db' o'.now (subjectOf settings username) =
      loginBucketFor settings db o.now (subjectOf settings username) := by
    unfold loginBucketFor
    rw [alike.loginBuckets, same]
  rw [login_wrong wrong, login_wrong wrong', bucket, ← same]
  dsimp only
  generalize loginBucketFor settings db o.now (subjectOf settings username) = current
  by_cases full : settings.loginMaxFailures ≤ current.failureCount
  · rw [if_pos full, if_pos full]
    exact ⟨alike, rfl⟩
  · rw [if_neg full, if_neg full]
    refine ⟨⟨alike.buckets, ?_, alike.twins, alike.next⟩, rfl⟩
    exact congrArg (Function.update · _ _) alike.loginBuckets

/-! ### One step -/

/-- The row has the name, the purpose and the digest of an old one. -/
def FromOld (rows : List OtpChallenge) (row : OtpChallenge) : Prop :=
  ∃ old ∈ rows, row.id = old.id ∧ row.purpose = old.purpose ∧ row.otpDigest = old.otpDigest

/-- What a call without the code and without the password does to the challenges. -/
inductive Rows (settings : AuthSettings) (db : AuthDatabase) (otpCode : String) :
    AuthDatabase → Prop
  | kept {after : AuthDatabase} (next : after.nextId = db.nextId)
      (old : ∀ row ∈ after.challenges, FromOld db.challenges row) : Rows settings db otpCode after
  | grown {after : AuthDatabase} {purpose : Purpose} (next : after.nextId = db.nextId + 1)
      (old : ∀ row ∈ after.challenges, FromOld db.challenges row ∨ row.id = db.nextId ∧
        row.otpDigest = settings.otpDigest db.nextId row.purpose otpCode) :
      Rows settings db otpCode after

theorem Rows.unchanged {otpCode : String} : Rows settings db otpCode db :=
  .kept rfl fun row mem => ⟨row, mem, rfl, rfl, rfl⟩

theorem createChallenge_rows (o : Drawn) (purpose : Purpose) (identity : Identity) (key : String) :
    Rows settings db o.otpCode (createChallenge settings registry o db purpose identity key).1 := by
  unfold createChallenge
  split
  · exact .unchanged
  · split
    · exact .unchanged
    · rw [createNew_eq]
      split
      · exact .unchanged
      · refine @Rows.grown _ _ _ _ purpose rfl fun row mem => ?_
        cases List.mem_append.1 mem with
        | inl old =>
          have ⟨other, there, is⟩ := List.mem_map.1 old
          refine .inl ⟨other, there, ?_⟩
          rw [← is]
          unfold P1AuthService.consumeOpen
          split <;> exact ⟨rfl, rfl, rfl⟩
        | inr new =>
          rw [List.mem_singleton.1 new]
          exact .inr ⟨rfl, rfl⟩

theorem verifyChallenge_rows {o : Drawn} {purpose : Purpose} {challenge : Nat} {otpCode : String}
    (wrong : ∀ row ∈ db.challenges, row.id = challenge →
      settings.otpDigest row.id row.purpose otpCode ≠ row.otpDigest) :
    Rows settings db o.otpCode
      (verifyChallenge settings registry o db purpose challenge otpCode).1 := by
  cases found : db.challenges.find? fun row => decide (row.id = challenge) &&
      decide (row.purpose = purpose) with
  | none =>
    unfold verifyChallenge lockAndVerifyChallenge
    rw [found]
    exact .unchanged
  | some row =>
    have mem := List.mem_of_find?_eq_some found
    have holds := List.find?_some found
    simp only [Bool.and_eq_true, decide_eq_true_eq] at holds
    rw [verifyChallenge_wrong found (wrong row mem holds.1)]
    split
    · exact .unchanged
    · split
      · exact .unchanged
      · refine .kept rfl fun other mem' => ?_
        cases mem_replaceRow mem' with
        | inl old => exact ⟨other, old, rfl, rfl, rfl⟩
        | inr same => exact ⟨row, mem, by rw [same.1]; exact ⟨rfl, rfl, rfl⟩⟩

theorem login_rows {o : Drawn} {username password : String}
    (wrong : ∀ user, loginUser settings registry username = some user →
      settings.checkPassword password user.password = false) :
    Rows settings db o.otpCode (login settings registry o db username password).1 := by
  rw [login_wrong wrong]
  dsimp only
  split
  · exact .unchanged
  · exact .kept rfl fun row mem => ⟨row, mem, rfl, rfl, rfl⟩

section
variable {s t s' t' : State} {o o' : Occurrence}

/-- A code that was not generated has another digest. -/
theorem Coded.wrong (coded : Coded settings s)
    (collisionFree : ∀ id purpose, Function.Injective (settings.otpDigest id purpose))
    {challenge : Nat} {otpCode : String}
    (other : ∀ row ∈ s.database.challenges, row.id = challenge → otpCode ≠ s.generated challenge) :
    ∀ row ∈ s.database.challenges, row.id = challenge →
      settings.otpDigest row.id row.purpose otpCode ≠ row.otpDigest := by
  intro row mem named same
  rw [coded.digest row mem] at same
  refine other row mem named ?_
  rw [← named]
  exact collisionFree row.id row.purpose same

theorem answer_rows (coded : Coded settings s)
    (collisionFree : ∀ id purpose, Function.Injective (settings.otpDigest id purpose))
    (wrong : Wrong settings registry s o.call) :
    Rows settings s.database o.drawn.otpCode (answer settings registry s.database o).1 := by
  unfold answer
  cases is : o.call with
  | createChallenge purpose identity key =>
    dsimp only
    split
    · rw [Prod.map_fst]
      exact createChallenge_rows o.drawn purpose identity key
    · exact .unchanged
  | verify purpose challenge otpCode =>
    rw [is] at wrong
    exact verifyChallenge_rows (coded.wrong collisionFree wrong)
  | login username password =>
    rw [is] at wrong
    exact login_rows wrong

theorem Coded.step (coded : Coded settings s)
    (collisionFree : ∀ id purpose, Function.Injective (settings.otpDigest id purpose))
    (step : Step settings registry s o t) : Coded settings t := by
  have ⟨wrong, is⟩ := step
  have rows := answer_rows coded collisionFree wrong
  rw [is]
  generalize (answer settings registry s.database o).1 = after at rows
  cases rows with
  | kept next old =>
    have same : generated s after o.drawn.otpCode = s.generated := if_pos next
    rw [same]
    refine ⟨fun row mem => ?_, fun row mem => ?_⟩
    · have ⟨other, there, named, purpose, digest⟩ := old row mem
      rw [digest, named, purpose]
      exact coded.digest other there
    · have ⟨other, there, named, _⟩ := old row mem
      change row.id < after.nextId
      rw [next, named]
      exact coded.fresh other there
  | grown next old =>
    have update : generated s after o.drawn.otpCode =
        Function.update s.generated s.database.nextId o.drawn.otpCode :=
      if_neg (by rw [next]; exact Nat.succ_ne_self _)
    rw [update]
    refine ⟨fun row mem => ?_, fun row mem => ?_⟩
    · dsimp only
      cases old row mem with
      | inl old =>
        have ⟨other, there, named, purpose, digest⟩ := old
        have below := coded.fresh other there
        rw [digest, named, purpose, Function.update_of_ne (Nat.ne_of_lt below)]
        exact coded.digest other there
      | inr new =>
        rw [new.2, new.1, Function.update_self]
    · change row.id < after.nextId
      rw [next]
      cases old row mem with
      | inl old =>
        have ⟨other, there, named, _⟩ := old
        rw [named]
        exact Nat.lt_succ_of_lt (coded.fresh other there)
      | inr new =>
        rw [new.1]
        exact Nat.lt_succ_self _

theorem answer_alike (injective : Function.Injective f)
    (collisionFree : ∀ id purpose, Function.Injective (settings.otpDigest id purpose))
    (coded : Coded settings s) (coded' : Coded settings s')
    (alike : Alike f s.database s'.database) (same : o.drawn.now = o'.drawn.now)
    (call : o'.call = o.call.rename f) (wrong : Wrong settings registry s o.call)
    (wrong' : Wrong settings registry' s' o'.call) :
    Answers f (answer settings registry s.database o) (answer settings registry' s'.database o') := by
  rw [call] at wrong'
  unfold answer
  rw [call]
  cases is : o.call with
  | createChallenge purpose identity key =>
    dsimp only [Call.rename]
    split
    · exact createChallenge_alike same alike key
    · exact ⟨alike, rfl⟩
  | verify purpose challenge otpCode =>
    rw [is] at wrong wrong'
    exact verifyChallenge_alike same injective alike (coded.wrong collisionFree wrong)
      (coded'.wrong collisionFree wrong')
  | login username password =>
    rw [is] at wrong wrong'
    exact login_alike same alike wrong wrong'

/-! ### Runs -/

/-- What holds between the calls of two runs. -/
structure Sound (settings : AuthSettings) (f : Nat → Nat) (p : State × State) : Prop where
  coded : Coded settings p.1
  coded' : Coded settings p.2
  alike : Alike f p.1.database p.2.database
  outcomes : p.2.outcomes = p.1.outcomes.map (Outcome.rename f)

theorem Sound.step {p q : State × State} {e : Occurrence × Occurrence} (sound : Sound settings f p)
    (injective : Function.Injective f)
    (collisionFree : ∀ id purpose, Function.Injective (settings.otpDigest id purpose))
    (steps : Steps settings registry registry' f p e q) : Sound settings f q := by
  have ⟨same, call, first, second⟩ := steps
  have coded := sound.coded.step collisionFree first
  have coded' := sound.coded'.step collisionFree second
  have answers := answer_alike injective collisionFree sound.coded sound.coded' sound.alike same call
    first.1 second.1
  refine ⟨coded, coded', ?_, ?_⟩
  · rw [first.2, second.2]
    exact answers.alike
  · rw [first.2, second.2]
    change p.2.outcomes ++ [_] = (p.1.outcomes ++ [_]).map (Outcome.rename f)
    rw [sound.outcomes, answers.outcome, List.map_append, List.map_singleton]

theorem run_indistinguishable {start start' : State} {labels : List (Occurrence × Occurrence)}
    (collisionFree : ∀ id purpose, Function.Injective (settings.otpDigest id purpose))
    (injective : Function.Injective f) (coded : Coded settings start)
    (coded' : Coded settings start') (alike : Alike f start.database start'.database)
    (empty : start.outcomes = []) (empty' : start'.outcomes = [])
    (run : Run (Steps settings registry registry' f) (start, start') labels (s, s')) :
    s'.outcomes = s.outcomes.map (Outcome.rename f) := by
  have base : Sound settings f (start, start') :=
    ⟨coded, coded', alike, by rw [empty, empty', List.map_nil]⟩
  have sound : Sound settings f (s, s') :=
    run.invariant (fun _ _ _ sound steps => sound.step injective collisionFree steps) base
  exact sound.outcomes

end

end

/-! ### A customer, and nobody -/

namespace EnumerationSample
open Throttle.ThrottleSample (settings registry byNumbers)

def nobody : Registry := ⟨[], [], [], [], []⟩

def start : State := ⟨Throttle.ThrottleSample.start.database, fun _ => "", []⟩

theorem start_coded : Coded settings start :=
  ⟨fun _ mem => absurd mem List.not_mem_nil, fun _ mem => absurd mem List.not_mem_nil⟩

theorem start_alike : Alike id start.database start.database :=
  ⟨rfl, rfl, .nil, fun _ => rfl⟩

def isWrong (registry : Registry) (s : State) : Call → Bool
  | .createChallenge _ _ _ => true
  | .verify _ challenge otpCode => s.database.challenges.all fun row =>
      decide (row.id = challenge → otpCode ≠ s.generated challenge)
  | .login username password => (loginUser settings registry username).all fun user =>
      !settings.checkPassword password user.password

theorem isWrong_wrong {registry : Registry} {s : State} {call : Call}
    (wrong : isWrong registry s call = true) : Wrong settings registry s call := by
  cases call with
  | createChallenge => trivial
  | verify purpose challenge otpCode =>
    exact fun row mem => of_decide_eq_true (List.all_eq_true.1 wrong row mem)
  | login username password =>
    intro user found
    have wrong : (loginUser settings registry username).all (fun user =>
      !settings.checkPassword password user.password) = true := wrong
    rw [found, Option.all_some, Bool.not_eq_true'] at wrong
    exact wrong

def perform (registry : Registry) (s : State) (o : Occurrence) : Option State :=
  if isWrong registry s o.call then
    some ⟨(answer settings registry s.database o).1,
      generated s (answer settings registry s.database o).1 o.drawn.otpCode,
      s.outcomes ++ [(answer settings registry s.database o).2]⟩
  else none

theorem perform_step {registry : Registry} {s t : State} {o : Occurrence}
    (performed : perform registry s o = some t) : Step settings registry s o t := by
  unfold perform at performed
  split at performed
  · rename_i wrong
    exact ⟨isWrong_wrong wrong, (Option.some.inj performed).symm⟩
  · cases performed

def performBoth (p : State × State) (e : Occurrence × Occurrence) : Option (State × State) :=
  if e.1.drawn.now = e.2.drawn.now ∧ e.2.call = e.1.call.rename id then
    (perform registry p.1 e.1).bind fun s => (perform nobody p.2 e.2).map fun s' => (s, s')
  else none

theorem performBoth_steps {p q : State × State} {e : Occurrence × Occurrence}
    (performed : performBoth p e = some q) : Steps settings registry nobody id p e q := by
  unfold performBoth at performed
  split at performed
  · rename_i same
    have ⟨s, first, rest⟩ := Option.bind_eq_some_iff.1 performed
    have ⟨s', second, is⟩ := Option.map_eq_some_iff.1 rest
    rw [← is]
    exact ⟨same.1, same.2, perform_step first, perform_step second⟩
  · cases performed

/-- A code is asked for twice, too early, a wrong one is tried, and a password. -/
def calls : List Occurrence :=
  [⟨⟨seconds 100, "123456", "ticket"⟩, .createChallenge .signup byNumbers "key-0001"⟩,
    ⟨⟨seconds 110, "", ""⟩, .createChallenge .signup byNumbers "key-0002"⟩,
    ⟨⟨seconds 120, "", ""⟩, .verify .signup 10 "000000"⟩,
    ⟨⟨seconds 130, "", ""⟩, .login "kim" "wrong"⟩]

end EnumerationSample

open EnumerationSample Throttle.ThrottleSample in
/-- The code of the one goes to a customer, and the code of the other to nobody. -/
theorem run_indistinguishable_nobody :
    ∃ labels s s', Run (Steps settings registry nobody id)
        (EnumerationSample.start, EnumerationSample.start) labels (s, s') ∧
      s.outcomes.length = 4 ∧ s.database.challenges.any (·.targetResolved) = true ∧
        s'.database.challenges.any (·.targetResolved) = false ∧
          s'.outcomes = s.outcomes.map (Outcome.rename id) := by
  have done : (((calls.map fun o => (o, o)).foldlM performBoth
      (EnumerationSample.start, EnumerationSample.start)).map fun p =>
        decide (p.1.outcomes.length = 4) && p.1.database.challenges.any (·.targetResolved) &&
          !p.2.database.challenges.any (·.targetResolved)) = some true := by
    decide +kernel
  have ⟨(s, s'), performed, checks⟩ := Option.map_eq_some_iff.1 done
  have ⟨checks, unresolved⟩ := Bool.and_eq_true_iff.1 checks
  have ⟨four, resolved⟩ := Bool.and_eq_true_iff.1 checks
  have run := Run.foldlM (fun _ _ _ => performBoth_steps) .refl performed
  have same := run_indistinguishable (fun _ _ _ _ same => same) Function.injective_id start_coded
    start_coded start_alike rfl rfl run
  exact ⟨_, s, s', run, of_decide_eq_true four, resolved, Eq.mp (Bool.not_eq_true' _) unresolved, same⟩

end WaterCare.Runtime.Enumeration
