import WaterCare.Machine.Result
import WaterCare.Machine.Run
import WaterCare.Service.Authentication

/-!
Runs of the token transactions. What a transaction has read of a row it has locked stays
true until it ends, and what it has written becomes visible at once.
-/

namespace WaterCare.Runtime.Authentication
open Machine Store Service Py
open AuthenticationService AccountLifecycleService
open Sessions

/-! ### What a transaction relies on -/

section
variable (s : Sessions.State) (w : Sessions.Worker)

/-- The service has returned the token in a pair. -/
def Returned (token : RefreshToken) : Prop :=
  ∃ spent pair, .issued spent pair ∈ s.history ∧ pair.refresh = token

/-- The row is locked and as it was read. -/
def Owns (user : Account) : Prop :=
  .user user.id ∈ w.locks ∧ s.database.users user.id = some user

/-- The token of the request is one of the user's. -/
def Brings (user : Account) : Prop :=
  ∀ token, w.operation.token = some token → Returned s token ∧ token.subject = user.id

/-- The token of the request has the user's version. -/
def Fits (user : Account) : Prop :=
  ∀ token, w.operation.token = some token → token.authVersion = user.authVersion

end

/-- A new token of the user, whose row only the transaction with these writes has. -/
structure Minted (s : Sessions.State) (writes : Writes) (user : Account) (refresh : RefreshToken) :
    Prop where
  subject : refresh.subject = user.id
  version : refresh.authVersion = user.authVersion
  below : refresh.jti < s.nextJti
  new : ∀ row ∈ s.database.outstanding, row.jti ≠ refresh.jti
  row : ∃ row, writes.outstanding = [row] ∧ row.jti = refresh.jti ∧ row.user = user.id

/-- The two tokens belong together, and end when the token they replace does. -/
structure Matched (operation : Operation) (pair : TokenPair) : Prop where
  subject : pair.access.subject = pair.refresh.subject
  version : pair.access.authVersion = pair.refresh.authVersion
  exp : ∀ token, operation.token = some token → pair.refresh.exp = token.exp

def Carries (s : Sessions.State) (w : Sessions.Worker) (user : Account) : Option TokenPair → Prop
  | none => w.writes.outstanding = []
  | some pair => Minted s w.writes user pair.refresh ∧ Matched w.operation pair

/-- The changed row of a locked user. -/
structure Changes (s : Sessions.State) (writes : Writes) (locks : List Sessions.Key)
    (target : Account) : Prop where
  written : writes.user = some target
  locked : .user target.id ∈ locks
  next : ∃ old, s.database.users target.id = some old ∧ target.authVersion = old.authVersion + 1

section
variable (s : Sessions.State) (w : Sessions.Worker)

/-- The row of a token whose user is locked. -/
def Covers (jti : Nat) : Prop :=
  ∃ row ∈ s.database.outstanding, row.jti = jti ∧ .user row.user ∈ w.locks

/-- What a transaction may rely on after each of its queries. -/
def Holding : Prop :=
  match w.phase with
  | .begun | .serialized | .finished => w.writes = noWrites
  | .validated token =>
      w.operation.token = some token ∧ Returned s token ∧ w.writes = noWrites
  | .lockedUser user => Owns s w user ∧ Brings s w user ∧ w.writes = noWrites
  | .relocked user => Owns s w user ∧ Brings s w user ∧ Fits w user ∧ w.writes = noWrites
  | .created user refresh =>
      Owns s w user ∧ Brings s w user ∧ Fits w user ∧ Minted s w.writes user refresh ∧
        w.writes.user = none ∧ w.writes.blacklisted = []
  | .issued user pair =>
      Owns s w user ∧ Brings s w user ∧ Fits w user ∧ Carries s w user (some pair) ∧
        w.writes.user = none ∧ w.writes.blacklisted = []
  | .recorded user pair =>
      Owns s w user ∧ Brings s w user ∧ Fits w user ∧ Carries s w user pair ∧
        w.writes.user = none ∧ w.writes.blacklisted = []
  | .spent user pair =>
      Owns s w user ∧ Brings s w user ∧ Fits w user ∧ Carries s w user pair ∧
        w.writes.user = none ∧ (∀ jti ∈ w.writes.blacklisted, Covers s w jti) ∧
        ∀ token, w.operation.token = some token →
          token.jti ∈ (s.database.under w.writes).blacklisted
  | .lockedOne row => w.operation.token = none ∧ Owns s w row ∧ w.writes = noWrites
  | .lockedUsers _ target => w.operation.token = none ∧ Owns s w target ∧ w.writes = noWrites
  | .saved target =>
      Changes s w.writes w.locks target ∧ w.writes.outstanding = [] ∧ w.writes.blacklisted = []
  | .revoking target todo =>
      Changes s w.writes w.locks target ∧ w.writes.outstanding = [] ∧
        (∀ jti ∈ w.writes.blacklisted, Covers s w jti) ∧ ∀ jti ∈ todo, Covers s w jti

end

/-! ### Other transactions -/

/-- A state that another transaction leaves: the rows locked here are the same, and the new
rows of tokens are none of this transaction's. -/
structure Leaves (s : Sessions.State) (w : Sessions.Worker) (t : Sessions.State) : Prop where
  users : ∀ {id row}, .user id ∈ w.locks → s.database.users id = some row →
    t.database.users id = some row
  history : ∀ event ∈ s.history, event ∈ t.history
  outstanding : ∀ row ∈ s.database.outstanding, row ∈ t.database.outstanding
  blacklisted : ∀ jti ∈ s.database.blacklisted, jti ∈ t.database.blacklisted
  below : s.nextJti ≤ t.nextJti
  new : ∀ own ∈ w.writes.outstanding, (∀ row ∈ s.database.outstanding, row.jti ≠ own.jti) →
    ∀ row ∈ t.database.outstanding, row.jti ≠ own.jti

namespace Leaves
variable {s t : Sessions.State} {w : Sessions.Worker} (leaves : Leaves s w t)
include leaves

theorem returned {token : RefreshToken} (returned : Returned s token) : Returned t token := by
  have ⟨spent, pair, mem, same⟩ := returned
  exact ⟨spent, pair, leaves.history _ mem, same⟩

theorem owns {user : Account} (owns : Owns s w user) : Owns t w user :=
  ⟨owns.1, leaves.users owns.1 owns.2⟩

theorem brings {user : Account} (brings : Brings s w user) : Brings t w user :=
  fun token its => ⟨leaves.returned (brings token its).1, (brings token its).2⟩

theorem minted {user : Account} {refresh : RefreshToken} (minted : Minted s w.writes user refresh) :
    Minted t w.writes user refresh := by
  have ⟨row, written, jti, owner⟩ := minted.row
  refine ⟨minted.subject, minted.version, Nat.lt_of_lt_of_le minted.below leaves.below, ?_,
    minted.row⟩
  have own : row ∈ w.writes.outstanding := written ▸ List.mem_singleton_self row
  rw [← jti]
  exact leaves.new row own (jti ▸ minted.new)

theorem carries {user : Account} {pair : Option TokenPair} (carries : Carries s w user pair) :
    Carries t w user pair := by
  cases pair with
  | none => exact carries
  | some pair => exact ⟨leaves.minted carries.1, carries.2⟩

theorem changes {target : Account} (changes : Changes s w.writes w.locks target) : Changes t w.writes w.locks target := by
  have ⟨old, found, version⟩ := changes.next
  exact ⟨changes.written, changes.locked, old, leaves.users changes.locked found, version⟩

theorem covers {jti : Nat} (covers : Covers s w jti) : Covers t w jti := by
  have ⟨row, mem, same, locked⟩ := covers
  exact ⟨row, leaves.outstanding row mem, same, locked⟩

/-- A transaction may rely on the same after a step of another one. -/
theorem holding (holding : Holding s w) : Holding t w := by
  unfold Holding at holding ⊢
  split at holding
  · exact holding
  · exact holding
  · exact holding
  · exact ⟨holding.1, leaves.returned holding.2.1, holding.2.2⟩
  · exact ⟨leaves.owns holding.1, leaves.brings holding.2.1, holding.2.2⟩
  · exact ⟨leaves.owns holding.1, leaves.brings holding.2.1, holding.2.2⟩
  · have ⟨owns, brings, fits, minted, rest⟩ := holding
    exact ⟨leaves.owns owns, leaves.brings brings, fits, leaves.minted minted, rest⟩
  · have ⟨owns, brings, fits, carries, rest⟩ := holding
    exact ⟨leaves.owns owns, leaves.brings brings, fits, leaves.carries carries, rest⟩
  · have ⟨owns, brings, fits, carries, rest⟩ := holding
    exact ⟨leaves.owns owns, leaves.brings brings, fits, leaves.carries carries, rest⟩
  · have ⟨owns, brings, fits, carries, user, listed, spent⟩ := holding
    refine ⟨leaves.owns owns, leaves.brings brings, fits, leaves.carries carries, user,
      fun jti mem => leaves.covers (listed jti mem), fun token its => ?_⟩
    cases List.mem_append.1 (spent token its) with
    | inl before => exact List.mem_append_left _ (leaves.blacklisted _ before)
    | inr now => exact List.mem_append_right _ now
  · exact ⟨holding.1, leaves.owns holding.2.1, holding.2.2⟩
  · exact ⟨holding.1, leaves.owns holding.2.1, holding.2.2⟩
  · exact ⟨leaves.changes holding.1, holding.2⟩
  · have ⟨changes, rows, listed, todo⟩ := holding
    exact ⟨leaves.changes changes, rows, fun jti mem => leaves.covers (listed jti mem),
      fun jti mem => leaves.covers (todo jti mem)⟩

end Leaves

/-! ### The steps of one transaction -/

/-- The queries after which a transaction ends with an event. -/
inductive Ends (w : Sessions.Worker) : Event → Prop
  | issued {user : Account} {pair : TokenPair} (its : w.operation.token = none)
      (phase : w.phase = .issued user pair) : Ends w (.issued none pair)
  | exchanged {user : Account} {pair : TokenPair} {token : RefreshToken}
      (its : w.operation.token = some token) (phase : w.phase = .spent user (some pair)) :
      Ends w (.issued (some token) pair)
  | loggedOut {user : Account} {token : RefreshToken} (its : w.operation.token = some token)
      (phase : w.phase = .spent user none) : Ends w (.loggedOut token)
  | changed {target : Account} (phase : w.phase = .revoking target []) :
      Ends w (.authVersionChanged target.id)

/-- What a query does to what the others see. -/
inductive Effect (s : Sessions.State) (w : Sessions.Worker) : Sessions.State → Prop
  | quiet : Effect s w s
  | numbered : Effect s w { s with nextJti := s.nextJti + 1 }
  | accepted {user : Account} {token : RefreshToken} (its : w.operation.token = some token)
      (phase : w.phase = .lockedUser user) (current : isCurrent token user = true) :
      Effect s w { s with history := s.history ++ [.refreshAccepted token] }
  | committed {event : Event} (ends : Ends w event) : Effect s w (commit s w event).1

section
variable {settings : SessionSettings} {o : Outside} {s t : Sessions.State} {w after : Sessions.Worker}

theorem advance_effect : Effect s w (advance settings o s w).1 := by
  unfold advance
  dsimp only
  split
  · unfold begin
    split <;> exact .quiet
  · exact .quiet
  · rename_i user phase
    unfold withUser
    dsimp only
    split
    · rename_i token op
      split
      · exact .quiet
      · rename_i current
        rw [Bool.not_eq_true', Bool.not_eq_false] at current
        exact .accepted (by rw [op]; rfl) phase current
    · rename_i token op
      split
      · exact .quiet
      · rename_i current
        rw [Bool.not_eq_true', Bool.not_eq_false] at current
        exact .accepted (by rw [op]; rfl) phase current
    · split <;> exact .quiet
    · exact .quiet
    · exact .quiet
  · exact .numbered
  · unfold finishIssue
    split
    · exact .quiet
    · split <;> exact .quiet
  · rename_i user pair phase
    split
    · rename_i its
      exact .committed (.issued its phase)
    · exact .quiet
  · split <;> exact .quiet
  · rename_i user pair phase
    split
    · rename_i its
      exact .committed (.exchanged its phase)
    · rename_i its
      exact .committed (.loggedOut its phase)
    · exact .quiet
  · unfold lockUsers
    split <;> exact .quiet
  · unfold lockUsers
    dsimp only
    split
    · split
      · exact .quiet
      · split <;> exact .quiet
    all_goals exact .quiet
  · split
    · split <;> exact .quiet
    all_goals exact .quiet
  · exact .quiet
  · rename_i target phase
    exact .committed (.changed phase)
  · exact .quiet
  · exact .quiet

/-! What a transaction may rely on after its own queries. -/

theorem holding_ended (w : Sessions.Worker) : Holding s w.ended := rfl

/-- A query that locks a row: the transaction ends where there is none. -/
theorem holding_locking {row : Option Account} {phase : Account → Phase}
    (next : ∀ user, row = some user →
      Holding s { w with phase := phase user, locks := .user user.id :: w.locks }) :
    Holding s (w.locking row phase) := by
  cases row with
  | none => exact holding_ended w
  | some user => exact next user rfl

/-- The rows of a state as a transaction may meet them. -/
structure Tables (s : Sessions.State) : Prop where
  ids : ∀ {id row}, s.database.users id = some row → row.id = id
  rows : (s.database.outstanding.map (·.jti)).Nodup
  below : ∀ row ∈ s.database.outstanding, row.jti < s.nextJti
  returned : ∀ {token}, Returned s token →
    ∃ row ∈ s.database.outstanding, row.jti = token.jti ∧ row.user = token.subject

/-- A row that a query finds is under its own key. -/
theorem Tables.there (tables : Tables s) {id : Nat} {keep : Account → Bool} {user : Account}
    (found : (s.database.users id).filter keep = some user) :
    user.id = id ∧ s.database.users user.id = some user := by
  have there := (Option.filter_eq_some_iff.1 found).1
  have named := tables.ids there
  exact ⟨named, named ▸ there⟩

theorem hasReturned_iff {token : RefreshToken} : s.hasReturned token = true ↔ Returned s token := by
  unfold Sessions.State.hasReturned Returned
  rw [List.any_eq_true]
  constructor
  · intro ⟨event, mem, same⟩
    cases event with
    | issued spent pair => exact ⟨spent, pair, mem, of_decide_eq_true same⟩
    | loggedOut _ | authVersionChanged _ | refreshAccepted _ | accessAccepted _ => cases same
  · intro ⟨spent, pair, mem, same⟩
    exact ⟨.issued spent pair, mem, decide_eq_true same⟩

theorem brings_none {user : Account} (none : w.operation.token = none) : Brings s w user := by
  intro token its
  rw [none] at its
  cases its

theorem fits_none {user : Account} (none : w.operation.token = none) : Fits w user := by
  intro token its
  rw [none] at its
  cases its

theorem begin_holding (tables : Tables s) (phase : w.phase = .begun) (holding : Holding s w) :
    Holding s (begin o s w).2 := by
  unfold Holding at holding
  rw [phase] at holding
  have blank : w.writes = noWrites := holding
  have validated {token : RefreshToken} (its : w.operation.token = some token) :
      Holding s (if validatedRefresh s o.now token then w.reaches (.validated token)
        else w.ended) := by
    by_cases valid : validatedRefresh s o.now token = true
    · rw [if_pos valid]
      unfold validatedRefresh at valid
      rw [Bool.and_eq_true, Bool.and_eq_true] at valid
      exact ⟨its, hasReturned_iff.1 valid.1.1, blank⟩
    · rw [if_neg valid]
      exact holding_ended w
  unfold begin
  split
  · rename_i id op
    have none : w.operation.token = none := by
      rw [op]
      rfl
    refine holding_locking fun user found => ?_
    exact ⟨⟨.head _, (tables.there found).2⟩, brings_none none, fits_none none, blank⟩
  · rename_i token op
    refine validated ?_
    rw [op]
    rfl
  · rename_i token op
    refine validated ?_
    rw [op]
    rfl
  · rename_i id version op
    have none : w.operation.token = none := by
      rw [op]
      rfl
    refine holding_locking fun user found => ?_
    exact ⟨⟨.head _, (tables.there found).2⟩, brings_none none, blank⟩
  · dsimp only
    split
    · exact blank
    · exact holding_ended w

/-- The row of a returned token is there, so nothing is added for it. -/
theorem recording_holds (tables : Tables s) {token : RefreshToken} (returned : Returned s token)
    {user : Account} {phase : Phase} :
    w.recording (s.database.under w.writes) token user phase = w.reaches phase := by
  have ⟨row, mem, jti, _⟩ := tables.returned returned
  have there : ((s.database.under w.writes).outstanding.any fun row =>
      decide (row.jti = token.jti)) = true :=
    List.any_eq_true.2 ⟨row, List.mem_append_left _ mem, decide_eq_true jti⟩
  unfold Sessions.Worker.recording
  rw [if_pos there]

theorem isCurrent_version {token : RefreshToken} {user : Account}
    (current : isCurrent token user = true) : user.authVersion = token.authVersion := by
  unfold isCurrent at current
  rw [Bool.and_eq_true] at current
  exact of_decide_eq_true current.2

/-- A state that only knows more. -/
theorem leaves_history (w : Sessions.Worker) (events : List Event) :
    Leaves s w { s with history := s.history ++ events } where
  users _ there := there
  history _ mem := List.mem_append_left _ mem
  outstanding _ mem := mem
  blacklisted _ mem := mem
  below := Nat.le_refl _
  new _ _ fresh := fresh

theorem withUser_holding (tables : Tables s) {user : Account} (phase : w.phase = .lockedUser user)
    (holding : Holding s w) : Holding (withUser s w user).1 (withUser s w user).2 := by
  unfold Holding at holding
  rw [phase] at holding
  have ⟨owns, brings, blank⟩ : Owns s w user ∧ Brings s w user ∧ w.writes = noWrites := holding
  have fits {token : RefreshToken} (its : w.operation.token = some token)
      (current : ¬(!isCurrent token user) = true) : Fits w user := by
    rw [Bool.not_eq_true', Bool.not_eq_false] at current
    intro other its'
    rw [its] at its'
    cases its'
    exact (isCurrent_version current).symm
  unfold withUser
  dsimp only
  split
  · rename_i token op
    have its : w.operation.token = some token := by
      rw [op]
      rfl
    split
    · exact holding_ended w
    · rename_i current
      refine (leaves_history _ _).holding (holding_locking fun again found => ?_)
      have same : (s.database.under w.writes).users = s.database.users := by
        rw [blank]
        rfl
      unfold AccountRepository.lockActiveByPk at found
      rw [same, owns.2] at found
      have is : user = again := Option.some.inj (Option.filter_eq_some_iff.1 found).1
      rw [← is]
      exact ⟨⟨.head _, owns.2⟩, brings, fits its current, blank⟩
  · rename_i token op
    have its : w.operation.token = some token := by
      rw [op]
      rfl
    split
    · exact holding_ended w
    · rename_i current
      refine (leaves_history _ _).holding ?_
      rw [recording_holds tables (brings token its).1]
      have rows : w.writes.outstanding = [] := by
        rw [blank]
        rfl
      refine ⟨owns, brings, fits its current, rows, ?_, ?_⟩
      · exact congrArg Writes.user blank
      · exact congrArg Writes.blacklisted blank
  · split
    · exact holding_ended w
    · refine ⟨⟨rfl, owns.1, user, owns.2, rfl⟩, ?_, ?_⟩
      · exact congrArg Writes.outstanding blank
      · exact congrArg Writes.blacklisted blank
  · exact holding_ended w
  · exact holding_ended w

theorem finishIssue_holding {user : Account} {refresh : RefreshToken}
    (phase : w.phase = .created user refresh) (holding : Holding s w) :
    Holding s (finishIssue settings s w user refresh).2 := by
  unfold Holding at holding
  rw [phase] at holding
  have ⟨owns, brings, fits, minted, saved, listed⟩ : Owns s w user ∧ Brings s w user ∧
    Fits w user ∧ Minted s w.writes user refresh ∧ w.writes.user = none ∧
      w.writes.blacklisted = [] := holding
  unfold finishIssue
  split
  · rename_i none
    refine ⟨owns, brings, fits, ⟨minted, rfl, rfl, ?_⟩, saved, listed⟩
    intro token its
    have its' : w.operation.token = some token := its
    rw [none] at its'
    cases its'
  · rename_i token its
    split
    · exact holding_ended w
    · have ⟨row, written, jti, owner⟩ := minted.row
      refine ⟨owns, brings, fits, ⟨⟨minted.subject, minted.version, minted.below, minted.new, ?_⟩,
        rfl, rfl, ?_⟩, saved, listed⟩
      · refine ⟨{ row with expiresAt := token.exp }, ?_, jti, owner⟩
        change w.writes.outstanding.map _ = _
        rw [written, List.map_singleton, if_pos jti]
      · intro other its'
        have its' : w.operation.token = some other := its'
        rw [its] at its'
        cases its'
        rfl

theorem lockUsers_holding (tables : Tables s) {row : Option Account}
    (known : ∀ first, row = some first → Owns s w first) (blank : w.writes = noWrites) :
    Holding s (lockUsers s w row).2 := by
  have locks {id : Nat} {phase : Account → Phase}
      (next : ∀ user, Owns s { w with phase := phase user, locks := .user user.id :: w.locks } user →
        Holding s { w with phase := phase user, locks := .user user.id :: w.locks }) :
      Holding s (w.locking (s.database.users id) phase) := by
    refine holding_locking fun user found => next user ⟨.head _, ?_⟩
    exact tables.ids found ▸ found
  unfold lockUsers
  split
  · rename_i op
    have none : w.operation.token = none := by
      rw [op]
      rfl
    split
    · exact locks fun user owns => ⟨none, owns, blank⟩
    · rename_i first
      have owns := known first rfl
      split
      · exact ⟨none, owns, blank⟩
      · split
        · exact locks fun user owns => ⟨none, owns, blank⟩
        · refine locks fun user _ => ⟨none, ⟨.tail _ owns.1, owns.2⟩, blank⟩
  all_goals exact holding_ended w

/-- The target keeps its key, and its version is the next one. -/
theorem changed_ok {found : Findings} {actor target row : Account} {change : Change}
    (ok : changed settings found actor target change = .ok row) :
    row.id = target.id ∧ row.authVersion = target.authVersion + 1 := by
  have ⟨_, ok⟩ := ite_error_eq_ok.1 ok
  have ⟨_, _, ok⟩ := bind_eq_ok.1 ok
  have ⟨_, ok⟩ := ite_error_eq_ok.1 ok
  cases change with
  | deactivate =>
    have ⟨_, ok⟩ := ite_error_eq_ok.1 ok
    have ⟨_, ok⟩ := ite_error_eq_ok.1 ok
    have ⟨_, _, ok⟩ := bind_eq_ok.1 ok
    have ⟨_, _, ok⟩ := bind_eq_ok.1 ok
    cases ok
    exact ⟨rfl, rfl⟩
  | reactivate =>
    have ⟨_, ok⟩ := ite_error_eq_ok.1 ok
    cases ok
    exact ⟨rfl, rfl⟩
  | updateConsultantCredentials username newPassword =>
    have ⟨_, ok⟩ := ite_error_eq_ok.1 ok
    split at ok
    · cases ok
    · have ⟨_, ok⟩ := ite_error_eq_ok.1 ok
      have ⟨_, ok⟩ := ite_error_eq_ok.1 ok
      have ⟨_, ok⟩ := ite_error_eq_ok.1 ok
      have ⟨_, ok⟩ := ite_error_eq_ok.1 ok
      cases ok
      exact ⟨rfl, rfl⟩
  | grantAccountAdmin =>
    have ⟨_, ok⟩ := ite_error_eq_ok.1 ok
    have ⟨_, ok⟩ := ite_error_eq_ok.1 ok
    have ⟨_, ok⟩ := ite_error_eq_ok.1 ok
    have ⟨_, ok⟩ := ite_error_eq_ok.1 ok
    cases ok
    exact ⟨rfl, rfl⟩
  | revokeAccountAdmin =>
    have ⟨_, ok⟩ := ite_error_eq_ok.1 ok
    have ⟨_, ok⟩ := ite_error_eq_ok.1 ok
    have ⟨_, ok⟩ := ite_error_eq_ok.1 ok
    have ⟨_, _, ok⟩ := bind_eq_ok.1 ok
    cases ok
    exact ⟨rfl, rfl⟩

theorem lockUsers_same {row : Option Account} : (lockUsers s w row).1 = s := by
  unfold lockUsers
  split
  · split
    · rfl
    · split
      · rfl
      · split <;> rfl
  all_goals rfl

/-- After `get_or_create` the token is on the blacklist that the transaction sees. -/
theorem blacklisting_ok (db : Database) (w : Sessions.Worker) (jti : Nat) (phase : Phase) :
    ∃ listed, w.blacklisting (db.under w.writes) jti phase =
        { w with phase := phase, writes := { w.writes with blacklisted := listed } } ∧
      (∀ j ∈ listed, j ∈ w.writes.blacklisted ∨ j = jti) ∧ jti ∈ db.blacklisted ++ listed := by
  unfold Sessions.Worker.blacklisting
  split
  · rename_i there
    have mem := List.contains_iff_mem.1 there
    exact ⟨w.writes.blacklisted, rfl, fun j mem => .inl mem, mem⟩
  · refine ⟨w.writes.blacklisted ++ [jti], rfl, fun j mem => ?_, ?_⟩
    · cases List.mem_append.1 mem with
      | inl old => exact .inl old
      | inr new => exact .inr (List.mem_singleton.1 new)
    · exact List.mem_append_right _ (List.mem_append_right _ (.head _))

/-- Whatever a transaction has read and written, it may rely on it after its next query. -/
theorem advance_holding (tables : Tables s) (holding : Holding s w) :
    Holding (advance settings o s w).1 (advance settings o s w).2 := by
  have whole := holding
  unfold Holding at holding
  unfold advance
  dsimp only
  split
  · rename_i phase
    have same : (begin o s w).1 = s := by
      unfold begin
      split <;> rfl
    rw [same]
    exact begin_holding tables phase whole
  · rename_i token phase
    rw [phase] at holding
    have ⟨its, returned, blank⟩ : w.operation.token = some token ∧ Returned s token ∧
      w.writes = noWrites := holding
    refine holding_locking fun user found => ?_
    have ⟨named, there⟩ := tables.there found
    refine ⟨⟨.head _, there⟩, fun other its' => ?_, blank⟩
    have its' : w.operation.token = some other := its'
    rw [its] at its'
    cases its'
    exact ⟨returned, named.symm⟩
  · rename_i user phase
    exact withUser_holding tables phase whole
  · rename_i user phase
    rw [phase] at holding
    have ⟨owns, brings, fits, blank⟩ : Owns s w user ∧ Brings s w user ∧ Fits w user ∧
      w.writes = noWrites := holding
    refine ⟨owns, brings, fits, ⟨rfl, rfl, Nat.lt_succ_self _, ?_, ?_⟩, ?_, ?_⟩
    · exact fun row mem => Nat.ne_of_lt (tables.below row mem)
    · refine ⟨⟨s.nextJti, user.id, o.now, o.now + settings.refreshLifetime⟩, ?_, rfl, rfl⟩
      change w.writes.outstanding ++ _ = _
      rw [blank]
      rfl
    · exact congrArg Writes.user blank
    · exact congrArg Writes.blacklisted blank
  · rename_i user refresh phase
    have same : (finishIssue settings s w user refresh).1 = s := by
      unfold finishIssue
      split
      · rfl
      · split <;> rfl
    rw [same]
    exact finishIssue_holding phase whole
  · rename_i user pair phase
    rw [phase] at holding
    have ⟨owns, brings, fits, carries, saved, listed⟩ : Owns s w user ∧ Brings s w user ∧
      Fits w user ∧ Carries s w user (some pair) ∧ w.writes.user = none ∧
        w.writes.blacklisted = [] := holding
    split
    · exact holding_ended w
    · rename_i token its
      rw [recording_holds tables (brings token its).1]
      exact ⟨owns, brings, fits, carries, saved, listed⟩
  · rename_i user pair phase
    rw [phase] at holding
    have ⟨owns, brings, fits, carries, saved, listed⟩ : Owns s w user ∧ Brings s w user ∧
      Fits w user ∧ Carries s w user pair ∧ w.writes.user = none ∧
        w.writes.blacklisted = [] := holding
    split
    · exact holding_ended w
    · rename_i token its
      have ⟨row, mem, jti, owner⟩ := tables.returned (brings token its).1
      have covered : Covers s w token.jti := by
        refine ⟨row, mem, jti, ?_⟩
        rw [owner, (brings token its).2]
        exact owns.1
      have ⟨written, is, from_, there⟩ :=
        blacklisting_ok s.database w token.jti (.spent user pair)
      rw [is]
      refine ⟨owns, brings, fits, ?_, saved, fun j mem => ?_, fun other its' => ?_⟩
      · cases pair with
        | none => exact carries
        | some pair =>
          have ⟨minted, matched⟩ := carries
          exact ⟨⟨minted.subject, minted.version, minted.below, minted.new, minted.row⟩, matched⟩
      · cases from_ j mem with
        | inl old =>
          rw [listed] at old
          exact absurd old List.not_mem_nil
        | inr new => exact new ▸ covered
      · have its' : w.operation.token = some other := its'
        rw [its] at its'
        cases its'
        exact there
  · rename_i user pair phase
    split
    · exact holding_ended w
    · exact holding_ended w
    · exact holding_ended w
  · rename_i phase
    rw [phase] at holding
    rw [lockUsers_same]
    exact lockUsers_holding tables nofun holding
  · rename_i row phase
    rw [phase] at holding
    have ⟨_, owns, blank⟩ : _ ∧ Owns s w row ∧ w.writes = noWrites := holding
    rw [lockUsers_same]
    refine lockUsers_holding tables (fun first is => ?_) blank
    cases is
    exact owns
  · rename_i actor target phase
    rw [phase] at holding
    have ⟨_, owns, blank⟩ : w.operation.token = none ∧ Owns s w target ∧
      w.writes = noWrites := holding
    split
    · split
      · exact holding_ended w
      · rename_i row ok
        have ⟨named, version⟩ := changed_ok ok
        refine ⟨⟨rfl, named ▸ owns.1, target, named ▸ owns.2, version⟩, ?_, ?_⟩
        · exact congrArg Writes.outstanding blank
        · exact congrArg Writes.blacklisted blank
    all_goals exact holding_ended w
  · rename_i target phase
    rw [phase] at holding
    have ⟨changes, rows, listed⟩ : Changes s w.writes w.locks target ∧
      w.writes.outstanding = [] ∧ w.writes.blacklisted = [] := holding
    have locked := List.mem_append_right
      (((s.database.under w.writes).outstanding.filter fun row =>
        decide (row.user = target.id)).map (·.jti) |>.map Sessions.Key.outstanding) changes.locked
    refine ⟨⟨changes.written, locked, changes.next⟩, rows, fun j mem => ?_, fun j mem => ?_⟩
    · change j ∈ w.writes.blacklisted at mem
      rw [listed] at mem
      exact absurd mem List.not_mem_nil
    · have ⟨row, kept, jti⟩ := List.mem_map.1 mem
      have ⟨there, owner⟩ := List.mem_filter.1 kept
      have there : row ∈ s.database.outstanding ++ w.writes.outstanding := there
      rw [rows, List.append_nil] at there
      refine ⟨row, there, jti, ?_⟩
      rw [of_decide_eq_true owner]
      exact locked
  · exact holding_ended w
  · rename_i target jti todo phase
    rw [phase] at holding
    have ⟨changes, rows, listed, open_⟩ : Changes s w.writes w.locks target ∧
      w.writes.outstanding = [] ∧ (∀ jti ∈ w.writes.blacklisted, Covers s w jti) ∧
        ∀ j ∈ jti :: todo, Covers s w j := holding
    have ⟨written, is, from_, _⟩ := blacklisting_ok s.database w jti (.revoking target todo)
    rw [is]
    refine ⟨⟨changes.written, changes.locked, changes.next⟩, rows, fun j mem => ?_,
      fun j mem => open_ j (.tail _ mem)⟩
    cases from_ j mem with
    | inl old => exact listed j old
    | inr new => exact new ▸ open_ jti (.head _)
  · exact whole

theorem not_mem_ended (w : Sessions.Worker) (row : OutstandingToken) :
    row ∉ w.ended.writes.outstanding := List.not_mem_nil

theorem mem_locking {found : Option Account} {phase : Account → Phase} {row : OutstandingToken}
    (mem : row ∈ (w.locking found phase).writes.outstanding) : row ∈ w.writes.outstanding := by
  cases found with
  | none => exact absurd mem (not_mem_ended w row)
  | some _ => exact mem

/-- The new rows of a query are those the transaction had, or the row of a new number. -/
theorem advance_rows (tables : Tables s) (holding : Holding s w) {row : OutstandingToken}
    (mem : row ∈ (advance settings o s w).2.writes.outstanding) :
    (∃ old ∈ w.writes.outstanding, old.jti = row.jti) ∨ row.jti = s.nextJti := by
  have ended {P : Prop} (mem : row ∈ w.ended.writes.outstanding) : P :=
    absurd mem (not_mem_ended w row)
  have kept (mem : row ∈ w.writes.outstanding) :
      (∃ old ∈ w.writes.outstanding, old.jti = row.jti) ∨ row.jti = s.nextJti :=
    .inl ⟨row, mem, rfl⟩
  unfold Holding at holding
  unfold advance at mem
  dsimp only at mem
  split at mem
  · unfold begin at mem
    split at mem
    · exact kept (mem_locking mem)
    · dsimp only at mem
      split at mem
      · exact kept mem
      · exact ended mem
    · dsimp only at mem
      split at mem
      · exact kept mem
      · exact ended mem
    · exact kept (mem_locking mem)
    · dsimp only at mem
      split at mem
      · exact kept mem
      · exact ended mem
  · exact kept (mem_locking mem)
  · rename_i user phase
    rw [phase] at holding
    have ⟨_, brings, _⟩ : Owns s w user ∧ Brings s w user ∧ w.writes = noWrites := holding
    unfold withUser at mem
    dsimp only at mem
    split at mem
    · split at mem
      · exact ended mem
      · exact kept (mem_locking mem)
    · rename_i token op
      split at mem
      · exact ended mem
      · have its : w.operation.token = some token := by
          rw [op]
          rfl
        rw [recording_holds tables (brings token its).1] at mem
        exact kept mem
    · split at mem
      · exact ended mem
      · exact kept mem
    · exact ended mem
    · exact ended mem
  · cases List.mem_append.1 mem with
    | inl old => exact kept old
    | inr new =>
      rw [List.mem_singleton.1 new]
      exact .inr rfl
  · unfold finishIssue at mem
    split at mem
    · exact kept mem
    · split at mem
      · exact ended mem
      · have ⟨old, there, is⟩ := List.mem_map.1 mem
        refine .inl ⟨old, there, ?_⟩
        rw [← is]
        split <;> rfl
  · rename_i user pair phase
    rw [phase] at holding
    have ⟨_, brings, _⟩ : Owns s w user ∧ Brings s w user ∧ _ := holding
    split at mem
    · exact ended mem
    · rename_i token its
      rw [recording_holds tables (brings token its).1] at mem
      exact kept mem
  · split at mem
    · exact ended mem
    · rename_i user pair _ _ token _
      have ⟨_, is, _⟩ := blacklisting_ok s.database w token.jti (.spent user pair)
      rw [is] at mem
      exact kept mem
  · split at mem
    all_goals exact ended mem
  · unfold lockUsers at mem
    split at mem
    · exact kept (mem_locking mem)
    all_goals exact ended mem
  · unfold lockUsers at mem
    dsimp only at mem
    split at mem
    · split at mem
      · exact kept mem
      · split at mem
        · exact kept (mem_locking mem)
        · exact kept (mem_locking mem)
    all_goals exact ended mem
  · split at mem
    · split at mem
      · exact ended mem
      · exact kept mem
    all_goals exact ended mem
  · exact kept mem
  · exact ended mem
  · rename_i target jti todo phase
    have ⟨_, is, _⟩ := blacklisting_ok s.database w jti (.revoking target todo)
    rw [is] at mem
    exact kept mem
  · exact kept mem

@[simp]
theorem ended_operation (w : Sessions.Worker) : w.ended.operation = w.operation := rfl

@[simp]
theorem reaches_operation (w : Sessions.Worker) (phase : Phase) :
    (w.reaches phase).operation = w.operation := rfl

@[simp]
theorem locking_operation (w : Sessions.Worker) (found : Option Account)
    (phase : Account → Phase) : (w.locking found phase).operation = w.operation := by
  cases found <;> rfl

@[simp]
theorem recording_operation (w : Sessions.Worker) (view : Database) (token : RefreshToken)
    (user : Account) (phase : Phase) :
    (w.recording view token user phase).operation = w.operation := by
  unfold Sessions.Worker.recording
  split <;> rfl

@[simp]
theorem blacklisting_operation (w : Sessions.Worker) (view : Database) (jti : Nat)
    (phase : Phase) : (w.blacklisting view jti phase).operation = w.operation := by
  unfold Sessions.Worker.blacklisting
  split <;> rfl

theorem advance_operation : (advance settings o s w).2.operation = w.operation := by
  unfold advance begin withUser finishIssue lockUsers commit Sessions.Worker.saving
  dsimp only
  repeat' split
  all_goals simp

/-- The phases in which a token is exchanged. -/
def exchanging : Phase → Bool
  | .relocked _ | .created _ _ | .issued _ _ => true
  | .recorded _ pair | .spent _ pair => pair.isSome
  | .begun | .validated _ | .lockedUser _ | .serialized | .lockedOne _ | .lockedUsers _ _
  | .saved _ | .revoking _ _ | .finished => false

/-- A token is exchanged only after its user's row has been locked and has let it pass. -/
theorem advance_exchanging {token : RefreshToken} (its : w.operation.token = some token)
    (phase : exchanging (advance settings o s w).2.phase = true) :
    exchanging w.phase = true ∨ ∃ user, w.phase = .lockedUser user ∧
      w.operation = .refresh token ∧ isCurrent token user = true := by
  have ended {P : Prop} (phase : exchanging w.ended.phase = true) : P := nomatch phase
  have locked {P : Prop} {found : Option Account} {next : Account → Phase}
      (none : ∀ user, exchanging (next user) = false)
      (phase : exchanging (w.locking found next).phase = true) : P := by
    cases found with
    | none => exact ended phase
    | some user => exact nomatch (none user).symm.trans phase
  unfold advance at phase
  dsimp only at phase
  split at phase
  · unfold begin at phase
    split at phase
    · rename_i op
      rw [op] at its
      cases its
    · dsimp only at phase
      split at phase
      · cases phase
      · exact ended phase
    · dsimp only at phase
      split at phase
      · cases phase
      · exact ended phase
    · exact locked (fun _ => rfl) phase
    · dsimp only at phase
      split at phase
      · cases phase
      · exact ended phase
  · exact locked (fun _ => rfl) phase
  · rename_i user there
    unfold withUser at phase
    dsimp only at phase
    split at phase
    · rename_i other op
      split at phase
      · exact ended phase
      · rename_i current
        rw [Bool.not_eq_true', Bool.not_eq_false] at current
        rw [op] at its
        cases its
        exact .inr ⟨user, there, op, current⟩
    · split at phase
      · exact ended phase
      · unfold Sessions.Worker.recording at phase
        split at phase <;> cases phase
    · split at phase
      · exact ended phase
      · cases phase
    · exact ended phase
    · exact ended phase
  · rename_i user there
    rw [there]
    exact .inl rfl
  · rename_i user refresh there
    rw [there]
    exact .inl rfl
  · rename_i user pair there
    rw [there]
    exact .inl rfl
  · rename_i user pair there
    rw [there]
    split at phase
    · exact ended phase
    · unfold Sessions.Worker.blacklisting at phase
      split at phase <;> exact .inl phase
  · split at phase
    all_goals exact ended phase
  · unfold lockUsers at phase
    split at phase
    · exact locked (fun _ => rfl) phase
    all_goals exact ended phase
  · unfold lockUsers at phase
    dsimp only at phase
    split at phase
    · split at phase
      · cases phase
      · split at phase
        · exact locked (fun _ => rfl) phase
        · exact locked (fun _ => rfl) phase
    all_goals exact ended phase
  · split at phase
    · split at phase
      · exact ended phase
      · cases phase
    all_goals exact ended phase
  · cases phase
  · exact ended phase
  · unfold Sessions.Worker.blacklisting at phase
    split at phase <;> cases phase
  · exact .inl phase

end

end WaterCare.Runtime.Authentication
