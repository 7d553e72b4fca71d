import WaterCare.Client.Kotlin
import WaterCare.Machine.Pool
import WaterCare.Machine.Run

/-!
The session of the mobile client: `Interceptors.kt`, `TokenStore.kt` and the login and logout of
`Repositories.kt`. Every read and write of the store, every acquisition of the lock and every
refresh request and reply is a step of its own.
-/

namespace WaterCare.Client.TokenAuthenticator
open Machine Pool Kotlin

/-! ### The store and the calls -/

structure AuthTokens where
  accessToken : String
  refreshToken : String
  deriving DecidableEq

/-- The pair in the store, with the number of the login that saved it unless a refresh did. -/
structure StoredTokens where
  tokens : AuthTokens
  login : Option Nat
  deriving DecidableEq

/-- Where a call stands. `before` is the read ahead of the lock, `latest` the one inside it. -/
inductive Phase
  | inFlight
  | waiting (before : AuthTokens)
  | holding (before : AuthTokens)
  | requesting (before latest : AuthTokens)
  | awaiting (before latest : AuthTokens)
  | answered (before latest : AuthTokens) (session : Option AuthTokens)
  | finished
  deriving DecidableEq

/-- An API call. Its responses so far are those of its attempts. -/
structure Call where
  encodedPath : String
  authorization : Option String
  attempts : Nat
  /-- The logins that had saved their tokens when `authenticate` started. -/
  startedAt : Nat
  phase : Phase
  deriving DecidableEq

/-- A logout that has read the refresh token it revokes. -/
structure Logout where
  refreshToken : Option String
  cleared : Bool
  deriving DecidableEq

/-- The client with its server, and what has happened so far. -/
structure State where
  store : Option StoredTokens
  lock : Option Nat
  calls : List Call
  logouts : List Logout
  /-- The refresh tokens the server has given out, and those it has accepted. -/
  issued : List String
  accepted : List String
  /-- The refresh tokens the client has sent to the refresh endpoint, the last one first. -/
  sent : List String
  logins : Nat
  /-- A logout has cleared the store, and no login has saved its tokens since. -/
  loggedOut : Bool
  /-- The logins whose tokens a call has overwritten or cleared, with the start of the call. -/
  displaced : List (Nat × Nat)

/-! ### `TokenAuthenticator.authenticate` -/

/-- `isPublicAuthPath`. -/
def isPublicAuthPath (encodedPath : String) : Bool :=
  let path := trimEndOf '/' encodedPath
  path == "/api/v1/auth/demo-login" || path == "/api/v1/auth/signup" ||
    path == "/api/v1/auth/login" || path == "/api/v1/auth/refresh" ||
    startsWith "/api/v1/auth/contract-verification/challenges" path ||
    startsWith "/api/v1/auth/account-recovery/username/challenges" path ||
    startsWith "/api/v1/auth/password-reset/" path

def bearer (token : String) : String := "Bearer " ++ token

/-- `AuthInterceptor.intercept`: the header of the first attempt. -/
def interceptedHeader (encodedPath : String) (store : Option StoredTokens) : Option String :=
  if isPublicAuthPath encodedPath then none
  else
    (store.map (·.tokens.accessToken)).bind fun token =>
      if isBlank token then none else some (bearer token)

/-- `failedToken`. -/
def failedToken (authorization : Option String) : Option String :=
  authorization.map fun header => trim (removePrefix "Bearer " header)

/-- Another call has renewed the tokens since the failed request was sent. -/
def renewed (authorization : Option String) (latest : AuthTokens) : Bool :=
  (failedToken authorization).any fun failed =>
    !isBlank failed && decide (latest.accessToken ≠ failed)

namespace Call
variable (c : Call)

/-- `authenticate` up to the read ahead of the lock. -/
def authenticate (logins : Nat) (store : Option StoredTokens) : Call :=
  if isPublicAuthPath c.encodedPath then { c with phase := .finished }
  else if 2 ≤ c.attempts then { c with phase := .finished }
  else if endsWith "/auth/refresh" c.encodedPath then { c with phase := .finished }
  else
    match store with
    | none => { c with phase := .finished }
    | some stored => { c with phase := .waiting stored.tokens, startedAt := logins }

/-- The request is sent once more with an access token. -/
def resent (token : String) : Call :=
  { c with authorization := some (bearer token), attempts := c.attempts + 1, phase := .inFlight }

end Call

/-! ### Steps -/

/-- What comes of a refresh request; the new tokens of a lost reply are not seen. -/
inductive Reply
  | session (tokens : AuthTokens)
  | lost (tokens : AuthTokens)
  | failed

inductive Action
  | send (encodedPath : String)
  | respond (call : Nat) (unauthorized : Bool)
  | acquire (call : Nat)
  | readLatest (call : Nat)
  | requestRefresh (call : Nat)
  | reply (call : Nat) (reply : Reply)
  | write (call : Nat)
  | login (tokens : AuthTokens)
  | readForLogout
  | logout (number : Nat)

namespace State
variable (s : State)

def setCall (i : Nat) (c : Call) : State := { s with calls := s.calls.set i c }

/-- The logins whose tokens the store holds, as a call that started at some time displaces them. -/
def displacing (startedAt : Nat) : List (Nat × Nat) :=
  match s.store.bind (·.login) with
  | none => s.displaced
  | some login => (login, startedAt) :: s.displaced

/-- The server accepts a refresh token it has not accepted before and gives out a new pair. -/
def accept (refreshToken : String) (tokens : AuthTokens) : Option State :=
  if refreshToken ∉ s.accepted ∧ tokens.refreshToken ∉ s.issued then
    some { s with
      accepted := refreshToken :: s.accepted
      issued := tokens.refreshToken :: s.issued }
  else none

/-- The read inside the lock. -/
def readLatest (i : Nat) (c : Call) (before : AuthTokens) : State :=
  match s.store with
  | none => { s.setCall i { c with phase := .finished } with lock := none }
  | some latest =>
      if renewed c.authorization latest.tokens then
        { s.setCall i (c.resent latest.tokens.accessToken) with lock := none }
      else s.setCall i { c with phase := .requesting before latest.tokens }

/-- `saveBlocking` of the new tokens, or `clearBlocking`. -/
def write (i : Nat) (c : Call) : Option AuthTokens → State
  | some tokens =>
      { s.setCall i (c.resent tokens.accessToken) with
        store := some ⟨tokens, none⟩
        lock := none
        displaced := s.displacing c.startedAt }
  | none =>
      { s.setCall i { c with phase := .finished } with
        store := none
        lock := none
        displaced := s.displacing c.startedAt }

def perform : Action → Option State
  | .send path =>
      some { s with calls := s.calls ++ [⟨path, interceptedHeader path s.store, 1, 0, .inFlight⟩] }
  | .respond i unauthorized =>
      s.calls[i]?.bind fun c =>
        match c.phase with
        | .inFlight =>
            if unauthorized then some (s.setCall i (c.authenticate s.logins s.store))
            else some (s.setCall i { c with phase := .finished })
        | _ => none
  | .acquire i =>
      s.calls[i]?.bind fun c =>
        match c.phase, s.lock with
        | .waiting before, none =>
            some { s.setCall i { c with phase := .holding before } with lock := some i }
        | _, _ => none
  | .readLatest i =>
      s.calls[i]?.bind fun c =>
        match c.phase with
        | .holding before => some (s.readLatest i c before)
        | _ => none
  | .requestRefresh i =>
      s.calls[i]?.bind fun c =>
        match c.phase with
        | .requesting before latest =>
            some { s.setCall i { c with phase := .awaiting before latest } with
              sent := before.refreshToken :: s.sent }
        | _ => none
  | .reply i reply =>
      s.calls[i]?.bind fun c =>
        match c.phase with
        | .awaiting before latest =>
            match reply with
            | .session tokens =>
                (s.accept before.refreshToken tokens).map fun t =>
                  t.setCall i { c with phase := .answered before latest (some tokens) }
            | .lost tokens =>
                (s.accept before.refreshToken tokens).map fun t =>
                  t.setCall i { c with phase := .answered before latest none }
            | .failed => some (s.setCall i { c with phase := .answered before latest none })
        | _ => none
  | .write i =>
      s.calls[i]?.bind fun c =>
        match c.phase with
        | .answered _ _ session => some (s.write i c session)
        | _ => none
  | .login tokens =>
      if tokens.refreshToken ∈ s.issued then none
      else
        some { s with
          store := some ⟨tokens, some (s.logins + 1)⟩
          issued := tokens.refreshToken :: s.issued
          logins := s.logins + 1
          loggedOut := false }
  | .readForLogout =>
      some { s with logouts := s.logouts ++ [⟨s.store.map (·.tokens.refreshToken), false⟩] }
  | .logout k =>
      s.logouts[k]?.bind fun l =>
        if l.cleared then none
        else
          some { s with
            store := none
            logouts := s.logouts.set k { l with cleared := true }
            loggedOut := true }

end State

def Step (s : State) (a : Action) (t : State) : Prop := s.perform a = some t

/-- The client has started with the tokens it kept, if any. -/
structure Initial (s : State) : Prop where
  lock : s.lock = none
  calls : s.calls = []
  logouts : s.logouts = []
  kept : ∀ stored, s.store = some stored →
    stored.login = none ∧ stored.tokens.refreshToken ∈ s.issued
  sent : s.sent = []
  loggedOut : s.loggedOut = false
  displaced : s.displaced = []

/-! ### The property -/

structure SessionIntegrity (s : State) : Prop where
  /-- No refresh token is sent to the refresh endpoint twice. -/
  sentOnce : s.sent.Nodup
  /-- After a logout the store is empty until a login. -/
  loggedOut : s.loggedOut = true → s.store = none
  /-- The tokens of a login are displaced only by a call that started after it. -/
  displaced : ∀ p ∈ s.displaced, p.1 ≤ p.2
  /-- No request is resent twice. -/
  resentOnce : ∀ c ∈ s.calls, c.attempts ≤ 2

/-- The pair the call has read inside the lock is still the one that it depends on. -/
def Call.isCurrent (c : Call) (store : Option StoredTokens) : Bool :=
  match c.phase with
  | .requesting before latest => decide (before = latest)
  | .answered _ latest session =>
      decide (store.map (·.tokens) = some latest) || (session.isNone && store.isNone)
  | _ => true

/-- A call asks for a refresh with the pair it has read inside the lock, and writes the outcome
while the store holds that pair. A failed refresh may also find the store empty. -/
def Orderly (s : State) : Action → Prop
  | .requestRefresh i | .write i => (s.calls[i]?.all fun c => c.isCurrent s.store) = true
  | _ => True

instance (s : State) (a : Action) : Decidable (Orderly s a) := by
  cases a <;> unfold Orderly <;> infer_instance

/-! ### The invariant -/

namespace Phase

/-- The read ahead of the lock, while the call depends on it. -/
def before : Phase → Option AuthTokens
  | waiting before | holding before | requesting before _ | awaiting before _
  | answered before _ _ => some before
  | inFlight | finished => none

/-- The read inside the lock, while the call depends on it. -/
def latest : Phase → Option AuthTokens
  | requesting _ latest | awaiting _ latest | answered _ latest _ => some latest
  | _ => none

/-- The call holds the lock. -/
def inside : Phase → Bool
  | holding _ | requesting _ _ | awaiting _ _ | answered _ _ _ => true
  | inFlight | waiting _ | finished => false

/-- The call has sent the refresh token of its pair. -/
def spending : Phase → Bool
  | awaiting _ _ | answered _ _ _ => true
  | _ => false

end Phase

/-- The store holds the pair that a call has read, or a logout has cleared it since, or a login that
came after the call has saved its own. -/
def Held (s : State) (startedAt : Nat) (read : AuthTokens) : Prop :=
  s.store.map (·.tokens) = some read ∨ (s.store = none ∧ s.loggedOut = true) ∨
    ∃ stored n, s.store = some stored ∧ stored.login = some n ∧ startedAt < n

/-- What holds of each call: a call that reads the pair a login saved starts after it, the holder
of the lock is the only one to spend a token, and the pair it has received is unspent. -/
structure CallInvariant (s : State) (i : Nat) (c : Call) : Prop where
  attempts : c.attempts ≤ 2
  first : ∀ b, c.phase.before = some b → c.attempts ≤ 1
  known : ∀ b, c.phase.before = some b → b.refreshToken ∈ s.issued
  started : ∀ b, c.phase.before = some b → c.startedAt ≤ s.logins
  loggedIn : ∀ b n, c.phase.before = some b → s.store = some ⟨b, some n⟩ → n ≤ c.startedAt
  lock : c.phase.inside = true → s.lock = some i
  unspent : ∀ b l, c.phase = .requesting b l → l.refreshToken ∉ s.sent
  same : ∀ b l, (c.phase = .awaiting b l ∨ ∃ session, c.phase = .answered b l session) → b = l
  fresh : ∀ b l t, c.phase = .answered b l (some t) →
    t.refreshToken ∈ s.issued ∧ t.refreshToken ∉ s.sent
  held : ∀ l, c.phase.latest = some l → Held s c.startedAt l

structure Invariant (s : State) : Prop where
  sentOnce : s.sent.Nodup
  sentIssued : s.sent ⊆ s.issued
  loggedOut : s.loggedOut = true → s.store = none
  displaced : ∀ p ∈ s.displaced, p.1 ≤ p.2
  known : ∀ stored, s.store = some stored → stored.tokens.refreshToken ∈ s.issued
  past : ∀ stored n, s.store = some stored → stored.login = some n → n ≤ s.logins
  calls : Each (CallInvariant s) s.calls
  /-- The stored refresh token has been sent only by the call that is about to replace it. -/
  spender : ∀ stored, s.store = some stored → stored.tokens.refreshToken ∈ s.sent →
    ∃ i : Nat, ∃ c : Call, s.calls[i]? = some c ∧ c.phase.spending = true

section
variable {s t : State} {i j : Nat} {c d : Call}

theorem inside_of_spending {p : Phase} (spending : p.spending = true) : p.inside = true := by
  cases p <;> first | rfl | cases spending

theorem inside_of_latest {p : Phase} {l : AuthTokens} (read : p.latest = some l) :
    p.inside = true ∧ ∃ b, p.before = some b := by
  cases p <;> first | exact ⟨rfl, _, rfl⟩ | cases read

theorem before_of_inside {p : Phase} (inside : p.inside = true) : p.before ≠ none := by
  cases p <;> simp [Phase.before, Phase.inside] at *

/-- A step of another call, or one that leaves the lock and the sent tokens alone. -/
theorem CallInvariant.keep (h : CallInvariant s j c) (issued : s.issued ⊆ t.issued)
    (logins : s.logins ≤ t.logins)
    (store : ∀ b n, b.refreshToken ∈ s.issued → t.store = some ⟨b, some n⟩ →
      s.store = some ⟨b, some n⟩)
    (inside : c.phase.inside = true → t.lock = s.lock ∧ t.sent = s.sent ∧
      ∀ k l, k ≤ s.logins → Held s k l → Held t k l) :
    CallInvariant t j c where
  attempts := h.attempts
  first := h.first
  known b read := issued (h.known b read)
  started b read := (h.started b read).trans logins
  loggedIn b n read stored := h.loggedIn b n read (store b n (h.known b read) stored)
  lock locked := (inside locked).1.trans (h.lock locked)
  unspent b l phase := by
    rw [(inside (by rw [phase]; rfl)).2.1]
    exact h.unspent b l phase
  same := h.same
  fresh b l tokens phase := by
    rw [(inside (by rw [phase]; rfl)).2.1]
    exact ⟨issued (h.fresh b l tokens phase).1, (h.fresh b l tokens phase).2⟩
  held l read := by
    have ⟨locked, b, first⟩ := inside_of_latest read
    exact (inside locked).2.2 _ _ (h.started b first) (h.held l read)

/-- A call that has come to its end or is sent again. -/
theorem CallInvariant.idle (attempts : c.attempts ≤ 2) (read : c.phase.before = none) :
    CallInvariant s i c := by
  have outside (b : AuthTokens) : c.phase.before ≠ some b := by
    rw [read]
    exact fun h => by cases h
  refine ⟨attempts, fun b h => absurd h (outside b), fun b h => absurd h (outside b),
    fun b h => absurd h (outside b), fun b _ h => absurd h (outside b), ?_, ?_, ?_, ?_, ?_⟩
  · intro inside
    exact absurd read (before_of_inside inside)
  · intro b l phase
    exact absurd (by rw [phase]; rfl) (outside b)
  · intro b l phase
    rcases phase with phase | ⟨session, phase⟩ <;> exact absurd (by rw [phase]; rfl) (outside b)
  · intro b l tokens phase
    exact absurd (by rw [phase]; rfl) (outside b)
  · intro l latest
    have ⟨_, b, first⟩ := inside_of_latest latest
    exact absurd first (outside b)

/-- A call that goes on with the pair it has read. -/
theorem CallInvariant.proceed {p : Phase} (old : CallInvariant s i c)
    (same : c.phase.before = p.before) (issued : s.issued ⊆ t.issued) (logins : t.logins = s.logins)
    (store : t.store = s.store) (lock : t.lock = some i)
    (unspent : ∀ b l, p = .requesting b l → l.refreshToken ∉ t.sent)
    (spent : ∀ b l, (p = .awaiting b l ∨ ∃ session, p = .answered b l session) → b = l)
    (fresh : ∀ b l u, p = .answered b l (some u) →
      u.refreshToken ∈ t.issued ∧ u.refreshToken ∉ t.sent)
    (held : ∀ l, p.latest = some l → Held t c.startedAt l) :
    CallInvariant t i { c with phase := p } where
  attempts := old.attempts
  first b read := old.first b (same.trans read)
  known b read := issued (old.known b (same.trans read))
  started b read := logins ▸ old.started b (same.trans read)
  loggedIn b n read held := old.loggedIn b n (same.trans read) (store.symm.trans held)
  lock _ := lock
  unspent := unspent
  same := spent
  fresh := fresh
  held := held

/-- Two calls are not inside the lock together. -/
theorem Invariant.exclusive (h : Invariant s) (found : s.calls[i]? = some c)
    (found' : s.calls[j]? = some d) (inside : c.phase.inside = true)
    (inside' : d.phase.inside = true) : i = j := by
  have locked := (h.calls i c found).lock inside
  rw [(h.calls j d found').lock inside'] at locked
  exact (Option.some.inj locked).symm

/-- While the lock is free or its holder has not asked for a refresh, the stored token is unspent. -/
theorem Invariant.unspent (h : Invariant s) (found : s.calls[i]? = some c)
    (inside : c.phase.inside = true) (idle : c.phase.spending = false) {stored : StoredTokens}
    (store : s.store = some stored) : stored.tokens.refreshToken ∉ s.sent := by
  intro sent
  obtain ⟨j, d, found', spending⟩ := h.spender stored store sent
  obtain rfl := h.exclusive found found' inside (inside_of_spending spending)
  rw [found] at found'
  cases found'
  rw [idle] at spending
  cases spending

/-- A step that changes one call and no other part of the state that the calls depend on. -/
theorem Invariant.change (h : Invariant s) (found : s.calls[i]? = some c)
    (own : CallInvariant (s.setCall i d) i d)
    (spending : c.phase.spending = true → d.phase.spending = true) :
    Invariant (s.setCall i d) where
  sentOnce := h.sentOnce
  sentIssued := h.sentIssued
  loggedOut := h.loggedOut
  displaced := h.displaced
  known := h.known
  past := h.past
  calls := h.calls.set own fun _ _ _ other =>
    other.keep (fun _ mem => mem) le_rfl (fun _ _ _ stored => stored) fun _ => ⟨rfl, rfl, fun _ _ _ held => held⟩
  spender := by
    intro stored store sent
    obtain ⟨j, e, found', held⟩ := h.spender stored store sent
    by_cases same : j = i
    · subst same
      rw [found] at found'
      cases found'
      exact ⟨j, d, set_self found, spending held⟩
    · exact ⟨j, e, (set_other same).trans found', held⟩

/-- The holder leaves the lock without a refresh. -/
theorem Invariant.leave (h : Invariant s) (found : s.calls[i]? = some c)
    (inside : c.phase.inside = true) (idle : c.phase.spending = false) (attempts : d.attempts ≤ 2)
    (read : d.phase.before = none) : Invariant { s.setCall i d with lock := none } where
  sentOnce := h.sentOnce
  sentIssued := h.sentIssued
  loggedOut := h.loggedOut
  displaced := h.displaced
  known := h.known
  past := h.past
  calls := by
    intro j e there
    rcases of_set there with ⟨rfl, rfl⟩ | ⟨other, there⟩
    · exact .idle attempts read
    · refine (h.calls j e there).keep (fun _ mem => mem) le_rfl (fun _ _ _ stored => stored) ?_
      intro inside'
      exact absurd (h.exclusive there found inside' inside) other
  spender := by
    intro stored store sent
    exact absurd sent (h.unspent found inside idle store)

/-! ### One step -/

theorem Invariant.spawn (h : Invariant s) (attempts : d.attempts ≤ 2) (read : d.phase.before = none) :
    Invariant { s with calls := s.calls ++ [d] } where
  sentOnce := h.sentOnce
  sentIssued := h.sentIssued
  loggedOut := h.loggedOut
  displaced := h.displaced
  known := h.known
  past := h.past
  calls := h.calls.spawn (.idle attempts read) fun _ _ other =>
    other.keep (fun _ mem => mem) le_rfl (fun _ _ _ stored => stored) fun _ => ⟨rfl, rfl, fun _ _ _ held => held⟩
  spender := by
    intro stored store sent
    have ⟨j, e, found, held⟩ := h.spender stored store sent
    exact ⟨j, e, spawn_old found, held⟩

/-- `authenticate` ends or waits for the lock with the pair it has read. -/
theorem authenticate_cases (logins : Nat) (store : Option StoredTokens) :
    c.authenticate logins store = { c with phase := .finished } ∨
      c.attempts ≤ 1 ∧ ∃ stored, store = some stored ∧
        c.authenticate logins store =
          { c with phase := .waiting stored.tokens, startedAt := logins } := by
  unfold Call.authenticate
  by_cases isPublic : isPublicAuthPath c.encodedPath = true
  · exact .inl (if_pos isPublic)
  · by_cases again : 2 ≤ c.attempts
    · exact .inl ((if_neg isPublic).trans (if_pos again))
    · by_cases refresh : endsWith "/auth/refresh" c.encodedPath = true
      · exact .inl ((if_neg isPublic).trans ((if_neg again).trans (if_pos refresh)))
      · rw [if_neg isPublic, if_neg again, if_neg refresh]
        cases store with
        | none => exact .inl rfl
        | some stored => exact .inr ⟨by omega, stored, rfl, rfl⟩

theorem Invariant.respond (h : Invariant s) (found : s.calls[i]? = some c)
    (sent : c.phase = .inFlight) :
    Invariant (s.setCall i (c.authenticate s.logins s.store)) := by
  have old := h.calls i c found
  rcases authenticate_cases s.logins s.store with ended | ⟨attempts, stored, store, waiting⟩
  · rw [ended]
    refine h.change found (.idle old.attempts rfl) ?_
    rw [sent]
    exact fun spending => by cases spending
  · rw [waiting]
    refine h.change found ?_ (by rw [sent]; exact fun spending => by cases spending)
    have read : ∀ b, Phase.before (.waiting stored.tokens) = some b → b = stored.tokens :=
      fun b same => (Option.some.inj same).symm
    refine ⟨old.attempts, fun _ _ => attempts, ?_, fun _ _ => le_rfl, ?_, ?_, ?_, ?_, ?_, ?_⟩
    · intro b same
      rw [read b same]
      exact h.known stored store
    · intro b n _ held
      exact h.past _ n held rfl
    · exact fun inside => by cases inside
    · exact fun b l phase => by cases phase
    · rintro b l (phase | ⟨session, phase⟩) <;> cases phase
    · exact fun b l t phase => by cases phase
    · exact fun l latest => by cases latest

theorem Invariant.acquire {before : AuthTokens} (h : Invariant s) (found : s.calls[i]? = some c)
    (waiting : c.phase = .waiting before) (free : s.lock = none) :
    Invariant { s.setCall i { c with phase := .holding before } with lock := some i } := by
  have old := h.calls i c found
  have same : c.phase.before = some before := by rw [waiting]; rfl
  have outside : ∀ (j : Nat) (e : Call), s.calls[j]? = some e → e.phase.inside ≠ true := by
    intro j e there inside
    have locked := (h.calls j e there).lock inside
    rw [free] at locked
    cases locked
  refine ⟨h.sentOnce, h.sentIssued, h.loggedOut, h.displaced, h.known, h.past, ?_, ?_⟩
  · intro j e there
    rcases of_set there with ⟨rfl, rfl⟩ | ⟨other, there⟩
    · refine old.proceed same (fun _ mem => mem) rfl rfl rfl ?_ ?_ ?_ ?_
      · exact fun b l phase => by cases phase
      · rintro b l (phase | ⟨session, phase⟩) <;> cases phase
      · exact fun b l t phase => by cases phase
      · exact fun l latest => by cases latest
    · exact (h.calls j e there).keep (fun _ mem => mem) le_rfl (fun _ _ _ stored => stored)
        fun inside => absurd inside (outside j e there)
  · intro stored store sent
    have ⟨j, e, there, spending⟩ := h.spender stored store sent
    exact absurd (inside_of_spending spending) (outside j e there)

theorem Invariant.readLatest {before : AuthTokens} (h : Invariant s) (found : s.calls[i]? = some c)
    (holding : c.phase = .holding before) : Invariant (s.readLatest i c before) := by
  have old := h.calls i c found
  have same : c.phase.before = some before := by rw [holding]; rfl
  have inside : c.phase.inside = true := by rw [holding]; rfl
  have idle : c.phase.spending = false := by rw [holding]; rfl
  unfold State.readLatest
  cases store : s.store with
  | none => exact h.leave found inside idle old.attempts rfl
  | some latest =>
      simp only
      by_cases new : renewed c.authorization latest.tokens = true
      · rw [if_pos new]
        exact h.leave found inside idle (Nat.succ_le_succ (old.first before same)) rfl
      · rw [if_neg new]
        refine h.change found ?_ (by rw [idle]; exact fun spending => by cases spending)
        refine old.proceed same (fun _ mem => mem) rfl rfl (old.lock inside) ?_ ?_ ?_ ?_
        · intro b l phase
          cases phase
          exact h.unspent found inside idle store
        · rintro b l (phase | ⟨session, phase⟩) <;> cases phase
        · exact fun b l t phase => by cases phase
        · intro l read
          cases read
          exact .inl (congrArg (Option.map (·.tokens)) store)

theorem Invariant.requestRefresh {before latest : AuthTokens} (h : Invariant s)
    (found : s.calls[i]? = some c) (requesting : c.phase = .requesting before latest)
    (orderly : before = latest) :
    Invariant { s.setCall i { c with phase := .awaiting before latest } with
      sent := before.refreshToken :: s.sent } := by
  have old := h.calls i c found
  have same : c.phase.before = some before := by rw [requesting]; rfl
  have inside : c.phase.inside = true := by rw [requesting]; rfl
  have unspent := orderly ▸ old.unspent before latest requesting
  refine ⟨List.nodup_cons.2 ⟨unspent, h.sentOnce⟩, ?_, h.loggedOut, h.displaced, h.known, h.past,
    ?_, ?_⟩
  · exact List.cons_subset.2 ⟨old.known before same, h.sentIssued⟩
  · intro j e there
    rcases of_set there with ⟨rfl, rfl⟩ | ⟨other, there⟩
    · refine old.proceed same (fun _ mem => mem) rfl rfl (old.lock inside) ?_ ?_ ?_ ?_
      · exact fun b l phase => by cases phase
      · rintro b l (phase | ⟨session, phase⟩) <;> cases phase
        exact orderly
      · exact fun b l t phase => by cases phase
      · intro l read
        exact old.held l (by rw [requesting]; exact read)
    · exact (h.calls j e there).keep (fun _ mem => mem) le_rfl (fun _ _ _ stored => stored)
        fun inside' => absurd (h.exclusive there found inside' inside) other
  · intro stored store _
    exact ⟨i, _, set_self found, rfl⟩

/-- The outcome of a refresh reaches the call; the server may have given out a new pair. -/
theorem Invariant.answer {before latest : AuthTokens} {session : Option AuthTokens}
    {issued accepted : List String} (h : Invariant s) (found : s.calls[i]? = some c)
    (awaiting : c.phase = .awaiting before latest) (more : s.issued ⊆ issued)
    (fresh : ∀ u, session = some u → u.refreshToken ∈ issued ∧ u.refreshToken ∉ s.issued) :
    Invariant { s.setCall i { c with phase := .answered before latest session } with
      issued := issued
      accepted := accepted } := by
  have old := h.calls i c found
  have same : c.phase.before = some before := by rw [awaiting]; rfl
  have inside : c.phase.inside = true := by rw [awaiting]; rfl
  refine ⟨h.sentOnce, List.Subset.trans h.sentIssued more, h.loggedOut, h.displaced,
    fun stored store => more (h.known stored store), h.past, ?_, ?_⟩
  · intro j e there
    rcases of_set there with ⟨rfl, rfl⟩ | ⟨other, there⟩
    · refine old.proceed same more rfl rfl (old.lock inside) ?_ ?_ ?_ ?_
      · exact fun b l phase => by cases phase
      · rintro b l (phase | ⟨session, phase⟩) <;> cases phase
        exact old.same before latest (.inl awaiting)
      · intro b l u phase
        cases phase
        have ⟨given, unknown⟩ := fresh u rfl
        exact ⟨given, fun sent => unknown (h.sentIssued sent)⟩
      · intro l read
        exact old.held l (by rw [awaiting]; exact read)
    · exact (h.calls j e there).keep more le_rfl (fun _ _ _ stored => stored)
        fun inside' => absurd (h.exclusive there found inside' inside) other
  · intro stored store sent
    exact ⟨i, _, set_self found, rfl⟩

/-- The outcome is written over the pair that was read, whose login is not after the call. -/
theorem Invariant.displacing {before latest : AuthTokens} {session : Option AuthTokens}
    (h : Invariant s) (found : s.calls[i]? = some c)
    (answered : c.phase = .answered before latest session)
    (orderly : s.store.map (·.tokens) = some latest ∨ (session = none ∧ s.store = none)) :
    ∀ p ∈ s.displacing c.startedAt, p.1 ≤ p.2 := by
  have old := h.calls i c found
  unfold State.displacing
  cases login : s.store.bind (·.login) with
  | none => exact h.displaced
  | some n =>
      obtain ⟨stored, store, saved⟩ := Option.bind_eq_some_iff.1 login
      have held : stored.tokens = latest := by
        rcases orderly with own | ⟨_, empty⟩
        · rw [store] at own
          exact Option.some.inj own
        · rw [empty] at store
          cases store
      have first : before = latest := old.same before latest (.inr ⟨session, answered⟩)
      have whole : s.store = some ⟨before, some n⟩ := by
        rw [store, first, ← held, ← saved]
      intro p mem
      rcases List.mem_cons.1 mem with rfl | rest
      · exact old.loggedIn before n (by rw [answered]; rfl) whole
      · exact h.displaced p rest

theorem Invariant.write {before latest : AuthTokens} {session : Option AuthTokens}
    (h : Invariant s) (found : s.calls[i]? = some c)
    (answered : c.phase = .answered before latest session)
    (orderly : s.store.map (·.tokens) = some latest ∨ (session = none ∧ s.store = none)) :
    Invariant (s.write i c session) := by
  have old := h.calls i c found
  have inside : c.phase.inside = true := by rw [answered]; rfl
  have displaced := h.displacing found answered orderly
  have outside : ∀ (j : Nat) (e : Call), j ≠ i → s.calls[j]? = some e → e.phase.inside ≠ true :=
    fun j e other there inside' => other (h.exclusive there found inside' inside)
  cases session with
  | none =>
      refine ⟨h.sentOnce, h.sentIssued, fun _ => rfl, displaced, (fun _ store => by cases store),
        (fun _ _ store => by cases store), ?_, fun _ store => by cases store⟩
      intro j e there
      rcases of_set there with ⟨rfl, rfl⟩ | ⟨other, there⟩
      · exact .idle old.attempts rfl
      · exact (h.calls j e there).keep (fun _ mem => mem) le_rfl (fun _ _ _ store => by cases store)
          fun inside' => absurd inside' (outside j e other there)
  | some tokens =>
      have ⟨given, unsent⟩ := old.fresh before latest tokens answered
      refine ⟨h.sentOnce, h.sentIssued, ?_, displaced, ?_, ?_, ?_, ?_⟩
      · intro out
        rw [h.loggedOut out] at orderly
        rcases orderly with own | ⟨none, _⟩
        · cases own
        · cases none
      · intro stored store
        cases store
        exact given
      · intro stored n store login
        cases store
        cases login
      · intro j e there
        rcases of_set there with ⟨rfl, rfl⟩ | ⟨other, there⟩
        · exact .idle (Nat.succ_le_succ (old.first before (by rw [answered]; rfl))) rfl
        · exact (h.calls j e there).keep (fun _ mem => mem) le_rfl (fun _ _ _ store => by cases store)
            fun inside' => absurd inside' (outside j e other there)
      · intro stored store sent
        cases store
        exact absurd sent unsent

theorem Invariant.login {tokens : AuthTokens} (h : Invariant s)
    (new : tokens.refreshToken ∉ s.issued) :
    Invariant { s with
      store := some ⟨tokens, some (s.logins + 1)⟩
      issued := tokens.refreshToken :: s.issued
      logins := s.logins + 1
      loggedOut := false } := by
  refine ⟨h.sentOnce, fun _ mem => List.mem_cons_of_mem _ (h.sentIssued mem),
    (fun out => by cases out), h.displaced, ?_, ?_, ?_, ?_⟩
  · intro stored store
    cases store
    exact List.mem_cons_self
  · intro stored n store login
    cases store
    cases login
    exact le_rfl
  · intro j e there
    refine (h.calls j e there).keep (fun _ mem => List.mem_cons_of_mem _ mem) (Nat.le_succ _) ?_
      fun _ => ⟨rfl, rfl, ?_⟩
    · intro b n known held
      cases held
      exact absurd known new
    · intro k l before _
      exact .inr (.inr ⟨_, _, rfl, rfl, Nat.lt_succ_of_le before⟩)
  · intro stored store sent
    cases store
    exact absurd (h.sentIssued sent) new

theorem Invariant.logout {logouts : List Logout} (h : Invariant s) :
    Invariant { s with store := none, logouts := logouts, loggedOut := true } := by
  refine ⟨h.sentOnce, h.sentIssued, fun _ => rfl, h.displaced, (fun _ store => by cases store),
    (fun _ _ store => by cases store), ?_, fun _ store => by cases store⟩
  intro j e there
  exact (h.calls j e there).keep (fun _ mem => mem) le_rfl (fun _ _ _ store => by cases store)
    fun _ => ⟨rfl, rfl, fun _ _ _ _ => .inr (.inl ⟨rfl, rfl⟩)⟩

theorem Invariant.readForLogout {logouts : List Logout} (h : Invariant s) :
    Invariant { s with logouts := logouts } :=
  ⟨h.sentOnce, h.sentIssued, h.loggedOut, h.displaced, h.known, h.past,
    fun j e there => (h.calls j e there).keep (fun _ mem => mem) le_rfl (fun _ _ _ stored => stored)
      fun _ => ⟨rfl, rfl, fun _ _ _ held => held⟩, h.spender⟩

theorem accept_some {refreshToken : String} {tokens : AuthTokens}
    (accepted : s.accept refreshToken tokens = some t) :
    tokens.refreshToken ∉ s.issued ∧ t = { s with
      issued := tokens.refreshToken :: s.issued
      accepted := refreshToken :: s.accepted } := by
  by_cases new : refreshToken ∉ s.accepted ∧ tokens.refreshToken ∉ s.issued
  · rw [State.accept, if_pos new] at accepted
    cases accepted
    exact ⟨new.2, rfl⟩
  · rw [State.accept, if_neg new] at accepted
    cases accepted

theorem Invariant.step {a : Action} (h : Invariant s) (orderly : Orderly s a) (step : Step s a t) :
    Invariant t := by
  change s.perform a = some t at step
  cases a with
  | send path =>
      cases step
      exact h.spawn (Nat.le_succ 1) rfl
  | respond i unauthorized =>
      obtain ⟨c, found, step⟩ := Option.bind_eq_some_iff.1 step
      cases phase : c.phase with
      | inFlight =>
          rw [phase] at step
          cases unauthorized with
          | true =>
              cases step
              exact h.respond found phase
          | false =>
              cases step
              refine h.change found (.idle (h.calls i c found).attempts rfl) ?_
              rw [phase]
              exact fun spending => by cases spending
      | _ => rw [phase] at step; cases step
  | acquire i =>
      obtain ⟨c, found, step⟩ := Option.bind_eq_some_iff.1 step
      cases phase : c.phase with
      | waiting before =>
          rw [phase] at step
          cases free : s.lock with
          | none =>
              rw [free] at step
              cases step
              exact h.acquire found phase free
          | some _ => rw [free] at step; cases step
      | _ => rw [phase] at step; cases step
  | readLatest i =>
      obtain ⟨c, found, step⟩ := Option.bind_eq_some_iff.1 step
      cases phase : c.phase with
      | holding before =>
          rw [phase] at step
          cases step
          exact h.readLatest found phase
      | _ => rw [phase] at step; cases step
  | requestRefresh i =>
      obtain ⟨c, found, step⟩ := Option.bind_eq_some_iff.1 step
      cases phase : c.phase with
      | requesting before latest =>
          rw [phase] at step
          cases step
          refine h.requestRefresh found phase ?_
          rw [Orderly, found, Option.all_some, Call.isCurrent, phase] at orderly
          exact of_decide_eq_true orderly
      | _ => rw [phase] at step; cases step
  | reply i reply =>
      obtain ⟨c, found, step⟩ := Option.bind_eq_some_iff.1 step
      cases phase : c.phase with
      | awaiting before latest =>
          rw [phase] at step
          cases reply with
          | session tokens =>
              obtain ⟨u, accepted, rfl⟩ := Option.map_eq_some_iff.1 step
              obtain ⟨new, rfl⟩ := accept_some accepted
              refine h.answer found phase (fun _ mem => List.mem_cons_of_mem _ mem) ?_
              intro v same
              cases same
              exact ⟨List.mem_cons_self, new⟩
          | lost tokens =>
              obtain ⟨u, accepted, rfl⟩ := Option.map_eq_some_iff.1 step
              obtain ⟨_, rfl⟩ := accept_some accepted
              exact h.answer found phase (fun _ mem => List.mem_cons_of_mem _ mem)
                fun v same => by cases same
          | failed =>
              cases step
              exact h.answer found phase (fun _ mem => mem) fun v same => by cases same
      | _ => rw [phase] at step; cases step
  | write i =>
      obtain ⟨c, found, step⟩ := Option.bind_eq_some_iff.1 step
      cases phase : c.phase with
      | answered before latest session =>
          rw [phase] at step
          cases step
          refine h.write found phase ?_
          rw [Orderly, found, Option.all_some, Call.isCurrent, phase] at orderly
          simpa using orderly
      | _ => rw [phase] at step; cases step
  | login tokens =>
      by_cases given : tokens.refreshToken ∈ s.issued
      · rw [State.perform, if_pos given] at step
        cases step
      · rw [State.perform, if_neg given] at step
        cases step
        exact h.login given
  | readForLogout =>
      cases step
      exact h.readForLogout
  | logout k =>
      obtain ⟨l, found, step⟩ := Option.bind_eq_some_iff.1 step
      cases cleared : l.cleared with
      | true => rw [if_pos cleared] at step; cases step
      | false =>
          rw [cleared] at step
          cases step
          exact h.logout

theorem Initial.invariant (start : Initial s) : Invariant s := by
  refine ⟨?_, ?_, ?_, ?_, fun stored store => (start.kept stored store).2, ?_, ?_, ?_⟩
  · rw [start.sent]
    exact List.nodup_nil
  · rw [start.sent]
    exact List.nil_subset _
  · intro out
    rw [start.loggedOut] at out
    cases out
  · rw [start.displaced]
    exact fun p mem => absurd mem List.not_mem_nil
  · intro stored n store login
    rw [(start.kept stored store).1] at login
    cases login
  · rw [start.calls]
    exact each_nil
  · intro stored store sent
    rw [start.sent] at sent
    exact absurd sent List.not_mem_nil

theorem Invariant.integrity (h : Invariant s) : SessionIntegrity s where
  sentOnce := h.sentOnce
  loggedOut := h.loggedOut
  displaced := h.displaced
  resentOnce := by
    intro c mem
    have ⟨i, found⟩ := List.mem_iff_getElem?.1 mem
    exact (h.calls i c found).attempts

/-- A call that writes its outcome over another pair than the one it has read breaks the session:
it undoes a logout or displaces the tokens of a later login. -/
theorem Invariant.disorderly_write (h : Invariant s) (disorderly : ¬Orderly s (.write i))
    (step : Step s (.write i) t) : ¬SessionIntegrity t := by
  obtain ⟨c, found, step⟩ := Option.bind_eq_some_iff.1 step
  cases phase : c.phase with
  | answered before latest session =>
      rw [phase] at step
      cases step
      rw [Orderly, found, Option.all_some, Call.isCurrent, phase] at disorderly
      have held := (h.calls i c found).held latest (by rw [phase]; rfl)
      intro integrity
      rcases held with own | ⟨empty, out⟩ | ⟨stored, n, store, login, later⟩
      · simp [own] at disorderly
      · cases session with
        | none => simp [empty] at disorderly
        | some tokens => cases integrity.loggedOut out
      · have displaced : (n, c.startedAt) ∈ (s.write i c session).displaced := by
          have first : (n, c.startedAt) ∈ s.displacing c.startedAt := by
            unfold State.displacing
            rw [store, Option.bind_some, login]
            exact List.mem_cons_self
          cases session <;> exact first
        have order := integrity.displaced _ displaced
        simp only at order
        omega
  | _ => rw [phase] at step; cases step

end

/-- The session is kept in every run whose refreshes are asked for and written with the pair that
was read, and the next write keeps it only if it is such a one. -/
theorem run_integrity {start s : State} {actions : List Action} (initial : Initial start)
    (run : Run (Restrict Orderly Step) start actions s) :
    SessionIntegrity s ∧
      ∀ i t, Step s (.write i) t → (SessionIntegrity t ↔ Orderly s (.write i)) := by
  have invariant := run.invariant (fun _ _ _ h step => h.step step.1 step.2) initial.invariant
  refine ⟨invariant.integrity, fun i t step => ⟨?_, fun orderly => ?_⟩⟩
  · intro integrity
    by_contra disorderly
    exact invariant.disorderly_write disorderly step integrity
  · exact (invariant.step orderly step).integrity

/-! ### Interleavings -/

namespace TokenSample

def pair (n : Nat) : AuthTokens := ⟨"access-" ++ toString n, "refresh-" ++ toString n⟩

def start (store : Option StoredTokens) : State where
  store := store
  lock := none
  calls := []
  logouts := []
  issued := ["refresh-1"]
  accepted := []
  sent := []
  logins := 0
  loggedOut := false
  displaced := []

theorem start_initial {store : Option StoredTokens}
    (kept : store = none ∨ store = some ⟨pair 1, none⟩) : Initial (start store) where
  lock := rfl
  calls := rfl
  logouts := rfl
  kept := by
    intro stored same
    rcases kept with empty | full
    · rw [empty] at same
      cases same
    · rw [full] at same
      cases same
      exact ⟨rfl, List.mem_singleton_self _⟩
  sent := rfl
  loggedOut := rfl
  displaced := rfl

/-- An orderly step, or any step. -/
def performOrderly (s : State) (a : Action) : Option State :=
  if Orderly s a then s.perform a else none

theorem performOrderly_sound (s : State) (a : Action) (t : State)
    (performed : performOrderly s a = some t) : Restrict Orderly Step s a t := by
  unfold performOrderly at performed
  split at performed
  · rename_i orderly
    exact ⟨orderly, performed⟩
  · cases performed

def path : String := "/api/v1/inquiries"

/-- A refresh of a request that was sent with the stored pair. -/
def refreshing : List Action :=
  [.send path, .respond 0 true, .acquire 0, .readLatest 0, .requestRefresh 0,
    .reply 0 (.session (pair 2)), .write 0]

/-- Two requests are sent without a token, and a login saves a pair before both are refused. -/
def twice : List Action :=
  [.send path, .send path, .login (pair 2), .respond 0 true, .respond 1 true, .acquire 0,
    .readLatest 0, .requestRefresh 0, .reply 0 (.session (pair 3)), .write 0, .acquire 1,
    .readLatest 1, .requestRefresh 1]

/-- A logout clears the store while a refresh is on its way. -/
def revived : List Action :=
  [.send path, .respond 0 true, .acquire 0, .readLatest 0, .requestRefresh 0, .readForLogout,
    .logout 0, .reply 0 (.session (pair 2)), .write 0]

/-- A login follows the logout, and the refresh fails. -/
def dropped : List Action :=
  [.send path, .respond 0 true, .acquire 0, .readLatest 0, .requestRefresh 0, .readForLogout,
    .logout 0, .login (pair 3), .reply 0 .failed, .write 0]

end TokenSample

theorem run_integrity_refreshing : ∃ s, Run (Restrict Orderly Step)
    (TokenSample.start (some ⟨TokenSample.pair 1, none⟩)) TokenSample.refreshing s ∧
      s.store.map (·.tokens) = some (TokenSample.pair 2) ∧ SessionIntegrity s := by
  have done : ((TokenSample.refreshing.foldlM TokenSample.performOrderly
      (TokenSample.start (some ⟨TokenSample.pair 1, none⟩))).map fun s =>
        s.store.map (·.tokens)) = some (some (TokenSample.pair 2)) := by decide +kernel
  obtain ⟨s, performed, stored⟩ := Option.map_eq_some_iff.1 done
  have run := Run.foldlM TokenSample.performOrderly_sound .refl performed
  exact ⟨s, run, stored, (run_integrity (TokenSample.start_initial (.inr rfl)) run).1⟩

/-- A refresh token is sent twice; a logout is undone; the tokens of a login are cleared by a call
that had started before. -/
theorem session_broken :
    (∃ start actions s, Initial start ∧ Run Step start actions s ∧ ¬s.sent.Nodup) ∧
    (∃ start actions s, Initial start ∧ Run Step start actions s ∧
      s.loggedOut = true ∧ s.store ≠ none) ∧
    ∃ start actions s, Initial start ∧ Run Step start actions s ∧ (1, 0) ∈ s.displaced := by
  refine ⟨?_, ?_, ?_⟩
  · have done : ((TokenSample.twice.foldlM State.perform (TokenSample.start none)).map fun s =>
        s.sent) = some ["refresh-2", "refresh-2"] := by decide +kernel
    obtain ⟨s, performed, sent⟩ := Option.map_eq_some_iff.1 done
    have run : Run Step _ _ s := Run.foldlM (fun _ _ _ h => h) .refl performed
    refine ⟨_, _, s, TokenSample.start_initial (.inl rfl), run, ?_⟩
    rw [sent]
    decide
  · have done : ((TokenSample.revived.foldlM State.perform
        (TokenSample.start (some ⟨TokenSample.pair 1, none⟩))).map fun s =>
          (s.loggedOut, s.store)) = some (true, some ⟨TokenSample.pair 2, none⟩) := by
      decide +kernel
    obtain ⟨s, performed, both⟩ := Option.map_eq_some_iff.1 done
    have ⟨out, stored⟩ := Prod.mk.inj both
    have run : Run Step _ _ s := Run.foldlM (fun _ _ _ h => h) .refl performed
    refine ⟨_, _, s, TokenSample.start_initial (.inr rfl), run, out, ?_⟩
    rw [stored]
    exact fun h => by cases h
  · have done : ((TokenSample.dropped.foldlM State.perform
        (TokenSample.start (some ⟨TokenSample.pair 1, none⟩))).map fun s =>
          (s.store, s.displaced)) = some (none, [(1, 0)]) := by decide +kernel
    obtain ⟨s, performed, both⟩ := Option.map_eq_some_iff.1 done
    have ⟨_, displaced⟩ := Prod.mk.inj both
    have run : Run Step _ _ s := Run.foldlM (fun _ _ _ h => h) .refl performed
    refine ⟨_, _, s, TokenSample.start_initial (.inr rfl), run, ?_⟩
    rw [displaced]
    exact List.mem_singleton_self _

end WaterCare.Client.TokenAuthenticator
