import WaterCare.Runtime.Authentication

/-!
Every state of a run of the token transactions: the tables, the history and what each
transaction relies on.
-/

namespace WaterCare.Runtime.Authentication
open Machine Store Service Py
open AuthenticationService AccountLifecycleService
open Sessions

/-! ### The state between the transactions -/

theorem concat_split {α : Type*} {xs before after : List α} {x e : α}
    (split : xs ++ [e] = before ++ x :: after) :
    before = xs ∧ x = e ∧ after = [] ∨ ∃ rest, after = rest ++ [e] ∧ xs = before ++ x :: rest := by
  cases List.eq_nil_or_concat after with
  | inl nil =>
    rw [nil] at split
    have ⟨same, last⟩ := List.append_inj' split rfl
    exact .inl ⟨same.symm, (List.cons.inj last).1.symm, nil⟩
  | inr concat =>
    have ⟨rest, last, is⟩ := concat
    rw [is, List.concat_eq_append, ← List.cons_append, ← List.append_assoc] at split
    have ⟨same, final⟩ := List.append_inj' split rfl
    refine .inr ⟨rest, ?_, same⟩
    rw [is, List.concat_eq_append, (List.cons.inj final).1]

/-- The event is an acceptance of one of the two tokens. -/
def Uses (pair : TokenPair) : Event → Prop
  | .issued (some token) _ | .loggedOut token | .refreshAccepted token => token = pair.refresh
  | .accessAccepted token => token = pair.access
  | .issued none _ | .authVersionChanged _ => False

/-- What the history says of the rows. -/
structure Ledger (s : Sessions.State) : Prop where
  version : ∀ {spent pair}, .issued spent pair ∈ s.history → ∃ row,
    s.database.users pair.refresh.subject = some row ∧
      pair.refresh.authVersion ≤ row.authVersion ∧
        pair.access.subject = pair.refresh.subject ∧
          pair.access.authVersion = pair.refresh.authVersion
  spent : ∀ {token pair}, .issued (some token) pair ∈ s.history →
    token.jti ∈ s.database.blacklisted ∧ pair.refresh.exp = token.exp
  loggedOut : ∀ {token}, .loggedOut token ∈ s.history → token.jti ∈ s.database.blacklisted
  superseded : ∀ {before after spent pair},
    s.history = before ++ .authVersionChanged pair.refresh.subject :: after →
      .issued spent pair ∈ before → ∀ row, s.database.users pair.refresh.subject = some row →
        pair.refresh.authVersion < row.authVersion
  unused : ∀ {before after spent pair},
    s.history = before ++ .authVersionChanged pair.refresh.subject :: after →
      .issued spent pair ∈ before → ∀ e ∈ after, ¬Uses pair e

/-- Rows that are the same or newer, and a blacklist that is the same or longer. -/
structure Advances (db db' : Database) : Prop where
  users : ∀ {id row}, db.users id = some row →
    ∃ row', db'.users id = some row' ∧ row.authVersion ≤ row'.authVersion
  back : ∀ {id row'}, db'.users id = some row' → (∃ row, db.users id = some row ∧
    row.authVersion ≤ row'.authVersion) ∨ db.users id = none
  blacklisted : ∀ jti ∈ db.blacklisted, jti ∈ db'.blacklisted

namespace Ledger
variable {s t : Sessions.State} {e : Event}

/-- The rows go on, the history stays. -/
theorem rows (ledger : Ledger s) (advances : Advances s.database t.database)
    (same : t.history = s.history) : Ledger t := by
  refine ⟨fun mem => ?_, fun mem => ?_, fun mem => ?_, fun split mem row there => ?_,
    fun split mem => ?_⟩
  · rw [same] at mem
    have ⟨row, there, le, fits⟩ := ledger.version mem
    have ⟨row', there', le'⟩ := advances.users there
    exact ⟨row', there', Nat.le_trans le le', fits⟩
  · rw [same] at mem
    have ⟨listed, exp⟩ := ledger.spent mem
    exact ⟨advances.blacklisted _ listed, exp⟩
  · rw [same] at mem
    exact advances.blacklisted _ (ledger.loggedOut mem)
  · rw [same] at split
    have issued := split ▸ List.mem_append_left _ mem
    cases advances.back there with
    | inl old =>
      have ⟨row', there', le⟩ := old
      exact Nat.lt_of_lt_of_le (ledger.superseded split mem row' there') le
    | inr missing =>
      have ⟨row', there', _⟩ := ledger.version issued
      rw [missing] at there'
      cases there'
  · rw [same] at split
    exact ledger.unused split mem

/-- An event that is no change of a version, with what the state has to say of it. -/
theorem snoc (ledger : Ledger s) (rows : t.database = s.database)
    (history : t.history = s.history ++ [e])
    (issued : ∀ {spent pair}, e = .issued spent pair → ∃ row,
      s.database.users pair.refresh.subject = some row ∧
        pair.refresh.authVersion ≤ row.authVersion ∧
          pair.access.subject = pair.refresh.subject ∧
            pair.access.authVersion = pair.refresh.authVersion)
    (spent : ∀ {token pair}, e = .issued (some token) pair →
      token.jti ∈ s.database.blacklisted ∧ pair.refresh.exp = token.exp)
    (loggedOut : ∀ {token}, e = .loggedOut token → token.jti ∈ s.database.blacklisted)
    (unchanged : ∀ user, e ≠ .authVersionChanged user)
    (current : ∀ {spent pair}, .issued spent pair ∈ s.history → Uses pair e → ∃ row,
      s.database.users pair.refresh.subject = some row ∧
        row.authVersion ≤ pair.refresh.authVersion) : Ledger t := by
  have cases_ {e' : Event} (mem : e' ∈ t.history) : e' ∈ s.history ∨ e = e' := by
    rw [history] at mem
    cases List.mem_append.1 mem with
    | inl old => exact .inl old
    | inr new => exact .inr (List.mem_singleton.1 new).symm
  refine ⟨fun mem => ?_, fun mem => ?_, fun mem => ?_, fun split mem row there => ?_,
    fun split mem e' used => ?_⟩
  · rw [rows]
    exact (cases_ mem).elim ledger.version issued
  · rw [rows]
    exact (cases_ mem).elim ledger.spent spent
  · rw [rows]
    exact (cases_ mem).elim ledger.loggedOut loggedOut
  · rw [history] at split
    rw [rows] at there
    cases concat_split split with
    | inl now => exact absurd now.2.1.symm (unchanged _)
    | inr before =>
      have ⟨rest, _, same⟩ := before
      exact ledger.superseded same mem row there
  · rw [history] at split
    cases concat_split split with
    | inl now => exact absurd now.2.1.symm (unchanged _)
    | inr before =>
      have ⟨rest, is, same⟩ := before
      rw [is] at used
      cases List.mem_append.1 used with
      | inl old => exact ledger.unused same mem e' old
      | inr new =>
        rw [List.mem_singleton.1 new]
        intro uses
        have issued : .issued _ _ ∈ s.history := same ▸ List.mem_append_left _ mem
        have ⟨row, there, le⟩ := current issued uses
        exact absurd le (Nat.not_le.2 (ledger.superseded same mem row there))

/-- A change of a version: every token of the user has an older one. -/
theorem changed (ledger : Ledger s) {user : Nat} (rows : t.database = s.database)
    (history : t.history = s.history ++ [.authVersionChanged user])
    (newer : ∀ {spent pair}, .issued spent pair ∈ s.history → pair.refresh.subject = user →
      ∀ row, s.database.users user = some row → pair.refresh.authVersion < row.authVersion) :
    Ledger t := by
  have old {e' : Event} (mem : e' ∈ t.history) (other : e' ≠ .authVersionChanged user) :
      e' ∈ s.history := by
    rw [history] at mem
    cases List.mem_append.1 mem with
    | inl old => exact old
    | inr new => exact absurd (List.mem_singleton.1 new) other
  refine ⟨fun mem => ?_, fun mem => ?_, fun mem => ?_, fun split mem row there => ?_,
    fun split mem e' used => ?_⟩
  · rw [rows]
    exact ledger.version (old mem nofun)
  · rw [rows]
    exact ledger.spent (old mem nofun)
  · rw [rows]
    exact ledger.loggedOut (old mem nofun)
  · rw [history] at split
    rw [rows] at there
    cases concat_split split with
    | inl now =>
      have ⟨all, same, _⟩ := now
      rw [all] at mem
      have is : _ = user := Event.authVersionChanged.inj same
      exact newer mem is row (is ▸ there)
    | inr before =>
      have ⟨rest, _, same⟩ := before
      exact ledger.superseded same mem row there
  · rw [history] at split
    cases concat_split split with
    | inl now =>
      rw [now.2.2] at used
      exact absurd used List.not_mem_nil
    | inr before =>
      have ⟨rest, is, same⟩ := before
      rw [is] at used
      cases List.mem_append.1 used with
      | inl old => exact ledger.unused same mem e' old
      | inr new =>
        rw [List.mem_singleton.1 new]
        exact fun uses => uses

end Ledger

/-! ### Every state of a run -/

structure Sound (s : Sessions.State) : Prop where
  tables : Tables s
  ledger : Ledger s
  exclusive : Exclusive Sessions.Worker.locks s.workers
  holding : ∀ {k : Nat} {w : Sessions.Worker}, s.workers[k]? = some w → Holding s w
  apart : ∀ {j k : Nat} {w w' : Sessions.Worker} {row row' : OutstandingToken}, s.workers[j]? = some w → s.workers[k]? = some w' →
    row ∈ w.writes.outstanding → row' ∈ w'.writes.outstanding → row.jti = row'.jti → j = k

section
variable {settings : SessionSettings} {s t : Sessions.State} {w : Sessions.Worker} {k : Nat}

/-- What a transaction has written concerns users whose rows it has locked. -/
structure Wrote (s : Sessions.State) (w : Sessions.Worker) : Prop where
  user : ∀ {row}, w.writes.user = some row → Changes s w.writes w.locks row
  rows : w.writes.outstanding = [] ∨ ∃ user refresh, Minted s w.writes user refresh
  listed : ∀ {jti}, jti ∈ w.writes.blacklisted → Covers s w jti

theorem wrote_nothing (blank : w.writes = noWrites) : Wrote s w where
  user written := by
    rw [blank] at written
    cases written
  rows := .inl (congrArg Writes.outstanding blank)
  listed mem := by
    rw [blank] at mem
    exact absurd mem List.not_mem_nil

/-- A transaction that has written tokens only. -/
theorem wrote_tokens (user : w.writes.user = none)
    (rows : w.writes.outstanding = [] ∨ ∃ user refresh, Minted s w.writes user refresh)
    (listed : ∀ jti ∈ w.writes.blacklisted, Covers s w jti) : Wrote s w where
  user written := by
    rw [user] at written
    cases written
  rows := rows
  listed mem := listed _ mem

theorem Holding.wrote (holding : Holding s w) : Wrote s w := by
  unfold Holding at holding
  have none_listed (nothing : w.writes.blacklisted = []) :
      ∀ jti ∈ w.writes.blacklisted, Covers s w jti := by
    rw [nothing]
    exact fun _ mem => absurd mem List.not_mem_nil
  have carried {user : Account} {pair : Option TokenPair} (carries : Carries s w user pair) :
      w.writes.outstanding = [] ∨ ∃ user refresh, Minted s w.writes user refresh := by
    cases pair with
    | none => exact .inl carries
    | some pair => exact .inr ⟨user, pair.refresh, carries.1⟩
  have changed {target : Account} (changes : Changes s w.writes w.locks target)
      (rows : w.writes.outstanding = []) (listed : ∀ jti ∈ w.writes.blacklisted, Covers s w jti) :
      Wrote s w := by
    refine ⟨fun written => ?_, .inl rows, fun mem => listed _ mem⟩
    rw [changes.written] at written
    cases written
    exact changes
  split at holding
  · exact wrote_nothing holding
  · exact wrote_nothing holding
  · exact wrote_nothing holding
  · exact wrote_nothing holding.2.2
  · exact wrote_nothing holding.2.2
  · exact wrote_nothing holding.2.2.2
  · have ⟨_, _, _, minted, user, listed⟩ := holding
    exact wrote_tokens user (.inr ⟨_, _, minted⟩) (none_listed listed)
  · have ⟨_, _, _, carries, user, listed⟩ := holding
    exact wrote_tokens user (carried carries) (none_listed listed)
  · have ⟨_, _, _, carries, user, listed⟩ := holding
    exact wrote_tokens user (carried carries) (none_listed listed)
  · have ⟨_, _, _, carries, user, listed, _⟩ := holding
    exact wrote_tokens user (carried carries) listed
  · exact wrote_nothing holding.2.2
  · exact wrote_nothing holding.2.2
  · have ⟨changes, rows, listed⟩ := holding
    exact changed changes rows (none_listed listed)
  · have ⟨changes, rows, listed, _⟩ := holding
    exact changed changes rows listed

namespace Wrote

/-- A new row has a number of its own. -/
theorem row {row : OutstandingToken} (wrote : Wrote s w) (mem : row ∈ w.writes.outstanding) :
    row.jti < s.nextJti ∧ ∀ other ∈ s.database.outstanding, other.jti ≠ row.jti := by
  cases wrote.rows with
  | inl none =>
    rw [none] at mem
    exact absurd mem List.not_mem_nil
  | inr minted =>
    have ⟨user, refresh, minted⟩ := minted
    have ⟨own, written, jti, _⟩ := minted.row
    rw [written] at mem
    rw [List.mem_singleton.1 mem, jti]
    exact ⟨minted.below, minted.new⟩

/-- At most one row is new. -/
theorem nodup (wrote : Wrote s w) : (w.writes.outstanding.map (·.jti)).Nodup := by
  cases wrote.rows with
  | inl none =>
    rw [none]
    exact .nil
  | inr minted =>
    have ⟨user, refresh, minted⟩ := minted
    have ⟨own, written, _, _⟩ := minted.row
    rw [written]
    exact List.nodup_singleton _

end Wrote

theorem under_none {db : Database} {writes : Writes} (none : writes.user = none) :
    (db.under writes).users = db.users := by
  unfold Database.under
  simp only [none]

theorem under_some {db : Database} {writes : Writes} {row : Account}
    (written : writes.user = some row) :
    (db.under writes).users = Function.update db.users row.id (some row) := by
  unfold Database.under
  simp only [written]

/-- A commit leaves every user in place, with at least its version. -/
theorem Wrote.advances (wrote : Wrote s w) : Advances s.database (s.database.under w.writes) := by
  refine ⟨fun {id row} there => ?_, fun {id row'} there => ?_, fun _ => List.mem_append_left _⟩
  · cases written : w.writes.user with
    | none =>
      rw [under_none written]
      exact ⟨row, there, Nat.le_refl _⟩
    | some new =>
      rw [under_some written]
      have ⟨old, found, version⟩ := (wrote.user written).next
      by_cases own : id = new.id
      · rw [own, found] at there
        cases there
        rw [own]
        exact ⟨new, Function.update_self .., by omega⟩
      · exact ⟨row, (Function.update_of_ne own ..).trans there, Nat.le_refl _⟩
  · left
    cases written : w.writes.user with
    | none =>
      rw [under_none written] at there
      exact ⟨row', there, Nat.le_refl _⟩
    | some new =>
      rw [under_some written] at there
      have ⟨old, found, version⟩ := (wrote.user written).next
      by_cases own : id = new.id
      · rw [own, Function.update_self] at there
        cases there
        rw [own]
        exact ⟨old, found, by omega⟩
      · rw [Function.update_of_ne own] at there
        exact ⟨row', there, Nat.le_refl _⟩

/-- What one transaction commits is none of the rows another one relies on. -/
theorem Sound.leaves_commit (sound : Sound s) {j : Nat} {other : Sessions.Worker} {event : Event}
    (there : s.workers[k]? = some w) (there' : s.workers[j]? = some other) (apart : j ≠ k) :
    Leaves s other (commit s w event).1 where
  users {id found} locked known := by
    have wrote := (sound.holding there).wrote
    change (s.database.under w.writes).users id = _
    cases written : w.writes.user with
    | none => rwa [under_none written]
    | some row =>
      rw [under_some written]
      refine (Function.update_of_ne (fun same => apart ?_) _ _).trans known
      rw [same] at locked
      exact sound.exclusive ⟨other, there', locked⟩ ⟨w, there, (wrote.user written).locked⟩
  history _ mem := List.mem_append_left _ mem
  outstanding _ mem := List.mem_append_left _ mem
  blacklisted _ mem := List.mem_append_left _ mem
  below := Nat.le_refl _
  new own mem fresh row there'' := by
    cases List.mem_append.1 there'' with
    | inl old => exact fresh row old
    | inr new => exact fun same => apart (sound.apart there' there mem new same.symm)

/-- Another transaction relies on the same after a query. -/
theorem Sound.leaves (sound : Sound s) {j : Nat} {other : Sessions.Worker}
    (there : s.workers[k]? = some w) (there' : s.workers[j]? = some other) (apart : j ≠ k)
    (effect : Effect s w t) : Leaves s other t := by
  cases effect with
  | quiet => exact ⟨fun _ there => there, fun _ mem => mem, fun _ mem => mem, fun _ mem => mem,
      Nat.le_refl _, fun _ _ fresh => fresh⟩
  | numbered => exact ⟨fun _ there => there, fun _ mem => mem, fun _ mem => mem, fun _ mem => mem,
      Nat.le_succ _, fun _ _ fresh => fresh⟩
  | accepted _ _ _ => exact leaves_history other _
  | committed _ => exact sound.leaves_commit there there' apart

/-- A transaction that has not changed the row of the user it has locked. -/
structure Keeps (s : Sessions.State) (w : Sessions.Worker) (user : Account) : Prop where
  owns : Owns s w user
  brings : Brings s w user
  fits : Fits w user
  unchanged : w.writes.user = none

/-- A returned pair is new, and belongs to a row that nobody else changes. -/
theorem Ends.pair {event : Event} (ends : Ends w event) (holding : Holding s w)
    {spent : Option RefreshToken} {pair : TokenPair} (is : event = .issued spent pair) :
    ∃ user, Keeps s w user ∧ Minted s w.writes user pair.refresh ∧
      Matched w.operation pair ∧ w.operation.token = spent := by
  unfold Holding at holding
  cases ends with
  | issued its phase =>
    cases is
    rw [phase] at holding
    have ⟨owns, brings, fits, carries, unchanged, _⟩ := holding
    exact ⟨_, ⟨owns, brings, fits, unchanged⟩, carries.1, carries.2, its⟩
  | exchanged its phase =>
    cases is
    rw [phase] at holding
    have ⟨owns, brings, fits, carries, unchanged, _⟩ := holding
    exact ⟨_, ⟨owns, brings, fits, unchanged⟩, carries.1, carries.2, its⟩
  | loggedOut its phase => cases is
  | changed phase => cases is

/-- A token that is exchanged or logged out is blacklisted with the commit. -/
theorem Ends.listed {event : Event} (ends : Ends w event) (holding : Holding s w)
    {token : RefreshToken} (its : w.operation.token = some token)
    (unchanged : ∀ user, event ≠ .authVersionChanged user) :
    (∃ user, Keeps s w user) ∧ token.jti ∈ (s.database.under w.writes).blacklisted := by
  unfold Holding at holding
  cases ends with
  | issued none phase =>
    rw [none] at its
    cases its
  | exchanged its' phase =>
    rw [phase] at holding
    have ⟨owns, brings, fits, _, same, _, listed⟩ := holding
    exact ⟨⟨_, owns, brings, fits, same⟩, listed token its⟩
  | loggedOut its' phase =>
    rw [phase] at holding
    have ⟨owns, brings, fits, _, same, _, listed⟩ := holding
    exact ⟨⟨_, owns, brings, fits, same⟩, listed token its⟩
  | changed phase => exact absurd rfl (unchanged _)

/-- The tables after a query. -/
theorem Sound.tables_effect (sound : Sound s) (there : s.workers[k]? = some w)
    (effect : Effect s w t) : Tables t := by
  have tables := sound.tables
  have holding := sound.holding there
  cases effect with
  | quiet => exact tables
  | numbered => exact ⟨tables.ids, tables.rows,
      fun row mem => Nat.lt_succ_of_lt (tables.below row mem), tables.returned⟩
  | accepted its phase current =>
    refine ⟨tables.ids, tables.rows, tables.below, fun returned => tables.returned ?_⟩
    have ⟨spent, pair, mem, same⟩ := returned
    cases List.mem_append.1 mem with
    | inl old => exact ⟨spent, pair, old, same⟩
    | inr new => exact nomatch List.mem_singleton.1 new
  | @committed event ends =>
    have wrote := holding.wrote
    refine ⟨fun {id row} found => ?_, ?_, fun row mem => ?_, fun returned => ?_⟩
    · change (s.database.under w.writes).users id = some row at found
      cases written : w.writes.user with
      | none =>
        rw [under_none written] at found
        exact tables.ids found
      | some new =>
        rw [under_some written] at found
        by_cases own : id = new.id
        · rw [own, Function.update_self] at found
          cases found
          exact own.symm
        · rw [Function.update_of_ne own] at found
          exact tables.ids found
    · change ((s.database.outstanding ++ w.writes.outstanding).map _).Nodup
      rw [List.map_append]
      refine List.nodup_append.2 ⟨tables.rows, wrote.nodup, fun i old j new same => ?_⟩
      have ⟨row, mem, is⟩ := List.mem_map.1 old
      have ⟨own, mem', is'⟩ := List.mem_map.1 new
      exact (wrote.row mem').2 row mem (is.trans (same.trans is'.symm))
    · cases List.mem_append.1 mem with
      | inl old => exact tables.below row old
      | inr new => exact (wrote.row new).1
    · have ⟨spent, pair, mem, same⟩ := returned
      cases List.mem_append.1 mem with
      | inl old =>
        have ⟨row, there, fits⟩ := tables.returned ⟨spent, pair, old, same⟩
        exact ⟨row, List.mem_append_left _ there, fits⟩
      | inr new =>
        have is := List.mem_singleton.1 new
        have ⟨user, _, minted, _⟩ := ends.pair holding is.symm
        have ⟨own, written, jti, owner⟩ := minted.row
        rw [same] at minted jti
        refine ⟨own, List.mem_append_right _ (written ▸ List.mem_singleton_self own), jti, ?_⟩
        rw [owner, minted.subject]

/-- The history after a commit. -/
theorem Sound.ledger_commit (sound : Sound s) (there : s.workers[k]? = some w) {event : Event}
    (ends : Ends w event) : Ledger (commit s w event).1 := by
  have holding := sound.holding there
  have wrote := holding.wrote
  have between : Ledger { s with database := s.database.under w.writes } :=
    sound.ledger.rows wrote.advances rfl
  have users {user : Account} (keeps : Keeps s w user) :
      (s.database.under w.writes).users user.id = some user := by
    rw [under_none keeps.unchanged]
    exact keeps.owns.2
  have returned {spent : Option RefreshToken} {pair : TokenPair} (is : event = .issued spent pair) :
      ∃ row, (s.database.under w.writes).users pair.refresh.subject = some row ∧
        pair.refresh.authVersion ≤ row.authVersion ∧
          pair.access.subject = pair.refresh.subject ∧
            pair.access.authVersion = pair.refresh.authVersion := by
    have ⟨user, keeps, minted, matched, _⟩ := ends.pair holding is
    refine ⟨user, ?_, Nat.le_of_eq minted.version, matched.subject, matched.version⟩
    rw [minted.subject]
    exact users keeps
  -- the row of a token that is used has the token's version
  have current {token : RefreshToken} (its : w.operation.token = some token)
      (unchanged : ∀ user, event ≠ .authVersionChanged user) :
      ∃ row, (s.database.under w.writes).users token.subject = some row ∧
        row.authVersion ≤ token.authVersion := by
    have ⟨⟨user, keeps⟩, _⟩ := ends.listed holding its unchanged
    refine ⟨user, ?_, Nat.le_of_eq (keeps.fits token its).symm⟩
    rw [(keeps.brings token its).2]
    exact users keeps
  cases ends with
  | issued none phase =>
    refine between.snoc rfl rfl returned nofun nofun nofun fun _ uses => ?_
    exact absurd uses id
  | @exchanged user pair token its phase =>
    refine between.snoc rfl rfl returned (fun is => ?_) nofun nofun fun _ uses => ?_
    · cases is
      have ⟨_, _, _, matched, _⟩ := (Ends.exchanged its phase).pair holding rfl
      exact ⟨((Ends.exchanged its phase).listed holding its nofun).2, matched.exp token its⟩
    · have same : token = _ := uses
      rw [← same]
      exact current its nofun
  | @loggedOut user token its phase =>
    refine between.snoc rfl rfl nofun nofun (fun is => ?_) nofun fun _ uses => ?_
    · cases is
      exact ((Ends.loggedOut its phase).listed holding its nofun).2
    · have same : token = _ := uses
      rw [← same]
      exact current its nofun
  | @changed target phase =>
    refine between.changed rfl rfl fun mem own row there => ?_
    have written : w.writes.user = some target := by
      unfold Holding at holding
      rw [phase] at holding
      exact holding.1.written
    have ⟨old, found, version⟩ := (wrote.user written).next
    have ⟨row', there', le, _⟩ := sound.ledger.version mem
    rw [own, found] at there'
    cases there'
    change (s.database.under w.writes).users target.id = some row at there
    rw [under_some written, Function.update_self] at there
    cases there
    omega

/-- The history after a query. -/
theorem Sound.ledger_effect (sound : Sound s) (there : s.workers[k]? = some w)
    (effect : Effect s w t) : Ledger t := by
  cases effect with
  | quiet => exact sound.ledger
  | numbered => exact sound.ledger.rows ⟨fun there => ⟨_, there, Nat.le_refl _⟩,
      fun there => .inl ⟨_, there, Nat.le_refl _⟩, fun _ mem => mem⟩ rfl
  | @accepted user token its phase current =>
    have holding := sound.holding there
    unfold Holding at holding
    rw [phase] at holding
    have ⟨owns, brings, _⟩ : Owns s w user ∧ Brings s w user ∧ _ := holding
    refine sound.ledger.snoc rfl rfl nofun nofun nofun nofun fun _ uses => ?_
    have same : token = _ := uses
    rw [← same, (brings token its).2]
    exact ⟨user, owns.2, Nat.le_of_eq (isCurrent_version current)⟩
  | committed ends => exact sound.ledger_commit there ends

/-- The list of workers is nothing a transaction relies on. -/
theorem leaves_workers (s : Sessions.State) (w : Sessions.Worker) (workers : List Sessions.Worker) :
    Leaves s w { s with workers := workers } :=
  ⟨fun _ there => there, fun _ mem => mem, fun _ mem => mem, fun _ mem => mem, Nat.le_refl _,
    fun _ _ fresh => fresh⟩

theorem getElem?_set_cases {α : Type*} {xs : List α} {j k : Nat} {x y : α}
    (there : (xs.set k x)[j]? = some y) : j = k ∧ x = y ∨ j ≠ k ∧ xs[j]? = some y := by
  rw [List.getElem?_set] at there
  by_cases same : k = j
  · rw [if_pos same] at there
    split at there
    · exact .inl ⟨same.symm, Option.some.inj there⟩
    · cases there
  · rw [if_neg same] at there
    exact .inr ⟨fun equal => same equal.symm, there⟩

theorem Sound.turn (sound : Sound s) {o : Outside} (there : s.workers[k]? = some w)
    (free : available Sessions.Worker.locks s.workers k (advance settings o s w).2.locks = true) :
    Sound { (advance settings o s w).1 with
      workers := s.workers.set k (advance settings o s w).2 } := by
  have effect := @advance_effect settings o s w
  have holding := sound.holding there
  have after : Holding (advance settings o s w).1 (advance settings o s w).2 :=
    advance_holding sound.tables holding
  have tables := sound.tables_effect there effect
  have ledger := sound.ledger_effect there effect
  have fresh {row : OutstandingToken}
      (mem : row ∈ (advance settings o s w).2.writes.outstanding) :
      (∃ old ∈ w.writes.outstanding, old.jti = row.jti) ∨ row.jti = s.nextJti :=
    advance_rows sound.tables holding mem
  have others {j : Nat} {other : Sessions.Worker} (there' : s.workers[j]? = some other)
      (apart : j ≠ k) := sound.leaves there there' apart effect
  generalize advance settings o s w = result at *
  refine ⟨⟨tables.ids, tables.rows, tables.below, tables.returned⟩,
    ⟨ledger.version, ledger.spent, ledger.loggedOut, ledger.superseded, ledger.unused⟩,
    ?_, fun found => ?_, fun mine yours mem mem' same => ?_⟩
  · exact sound.exclusive.set there fun key mem => .inr fun j held => available_holds free mem held
  · refine (leaves_workers result.1 _ _).holding ?_
    cases getElem?_set_cases found with
    | inl own => exact own.2 ▸ after
    | inr other => exact (others other.2 other.1).holding (sound.holding other.2)
  · -- a new row has the next number, or the number of a row the worker had
    have clash {j : Nat} {other : Sessions.Worker} {row row' : OutstandingToken}
        (there' : s.workers[j]? = some other) (apart : j ≠ k)
        (mem : row ∈ result.2.writes.outstanding) (mem' : row' ∈ other.writes.outstanding)
        (same : row.jti = row'.jti) : False := by
      cases fresh mem with
      | inl old =>
        have ⟨old, mem'', jti⟩ := old
        exact apart (sound.apart there' there mem' mem'' (jti.trans same).symm)
      | inr next =>
        have below := ((sound.holding there').wrote.row mem').1
        rw [← same, next] at below
        exact Nat.lt_irrefl _ below
    cases getElem?_set_cases mine with
    | inl own =>
      cases getElem?_set_cases yours with
      | inl own' => exact own.1.trans own'.1.symm
      | inr other => exact (clash other.2 other.1 (own.2 ▸ mem) mem' same).elim
    | inr other =>
      cases getElem?_set_cases yours with
      | inl own => exact (clash other.2 other.1 (own.2 ▸ mem') mem same.symm).elim
      | inr other' => exact sound.apart other.2 other'.2 mem mem' same

/-- A step that leaves the tables and whose workers were there, or have nothing. -/
theorem Sound.workers (sound : Sound s) (tables : Tables t) (ledger : Ledger t)
    (same : ∀ {k : Nat} {w : Sessions.Worker}, t.workers[k]? = some w →
      s.workers[k]? = some w ∧ Leaves s w t ∨ w.writes = noWrites ∧ w.locks = [] ∧ Holding t w) :
    Sound t := by
  have older {k : Nat} {key : Sessions.Key} (held : Holds Sessions.Worker.locks t.workers k key) :
      Holds Sessions.Worker.locks s.workers k key := by
    have ⟨w, there, mem⟩ := held
    cases same there with
    | inl old => exact ⟨w, old.1, mem⟩
    | inr new =>
      rw [new.2.1] at mem
      exact absurd mem List.not_mem_nil
  have written {k : Nat} {w : Sessions.Worker} {row : OutstandingToken}
      (there : t.workers[k]? = some w) (mem : row ∈ w.writes.outstanding) :
      s.workers[k]? = some w := by
    cases same there with
    | inl old => exact old.1
    | inr new =>
      rw [new.1] at mem
      exact absurd mem List.not_mem_nil
  refine ⟨tables, ledger, ?_, fun there => ?_, fun mine yours mem mem' jti => ?_⟩
  · intro j k key mine yours
    exact sound.exclusive (older mine) (older yours)
  · cases same there with
    | inl old => exact old.2.holding (sound.holding old.1)
    | inr new => exact new.2.2
  · exact sound.apart (written mine mem) (written yours mem') mem mem' jti

theorem Sound.step {e : Occurrence} (sound : Sound s) (step : Step settings s e t) : Sound t := by
  have tables := sound.tables
  have ledger := sound.ledger
  cases e with
  | requested operation =>
    cases step
    refine sound.workers ⟨tables.ids, tables.rows, tables.below, tables.returned⟩
      ⟨ledger.version, ledger.spent, ledger.loggedOut, ledger.superseded, ledger.unused⟩
      fun {k w} there => ?_
    change (s.workers ++ [_])[k]? = some w at there
    rw [List.getElem?_append] at there
    split at there
    · exact .inl ⟨there, leaves_workers s w _⟩
    · rw [List.mem_singleton.1 (List.mem_of_getElem? there)]
      exact .inr ⟨rfl, rfl, rfl⟩
  | turn k outside =>
    have ⟨w, there, free, is⟩ := step
    rw [is]
    exact sound.turn there free
  | rolledBack k =>
    cases step
    refine sound.workers ⟨tables.ids, tables.rows, tables.below, tables.returned⟩
      ⟨ledger.version, ledger.spent, ledger.loggedOut, ledger.superseded, ledger.unused⟩
      fun {j w} there => ?_
    change (s.workers.modify k _)[j]? = some w at there
    rw [List.getElem?_modify] at there
    have ⟨before, found, is⟩ := Option.map_eq_some_iff.1 there
    split at is
    · rw [← is]
      exact .inr ⟨rfl, rfl, rfl⟩
    · exact .inl ⟨is ▸ found, leaves_workers s w _⟩
  | authenticated token now =>
    have ⟨⟨spent, pair, mem, access⟩, _, accepted, is⟩ := step
    rw [is]
    refine sound.workers ⟨tables.ids, tables.rows, tables.below, fun returned => ?_⟩ ?_
      fun there => .inl ⟨there, leaves_history _ _⟩
    · have ⟨spent, pair, mem, same⟩ := returned
      cases List.mem_append.1 mem with
      | inl old => exact tables.returned ⟨spent, pair, old, same⟩
      | inr new => exact nomatch List.mem_singleton.1 new
    · refine ledger.snoc rfl rfl nofun nofun nofun nofun fun {spent' pair'} mem' uses => ?_
      have same : token = pair'.access := uses
      have ⟨row, there⟩ := Option.isSome_iff_exists.1 accepted
      unfold JWTAuthentication.getUser AccountRepository.findActiveBySubject at there
      have ⟨found, fits⟩ := Option.filter_eq_some_iff.1 there
      rw [Bool.and_eq_true] at fits
      have version : token.authVersion = row.authVersion := of_decide_eq_true fits.2
      have ⟨_, _, _, subject, version'⟩ := ledger.version mem'
      rw [← subject, ← version', ← same, version]
      exact ⟨row, (Option.filter_eq_some_iff.1 found).1, Nat.le_refl _⟩
  | registered row =>
    have ⟨missing, is⟩ := step
    rw [is]
    have kept {id : Nat} {old : Account} (there : s.database.users id = some old) :
        id ≠ row.id := by
      intro same
      rw [same, missing] at there
      cases there
    refine sound.workers ⟨fun {id found} there => ?_, tables.rows, tables.below,
      tables.returned⟩ ?_ fun {k w} there => .inl ⟨there, ?_⟩
    · change Function.update s.database.users row.id (some row) id = some found at there
      by_cases own : id = row.id
      · rw [own, Function.update_self] at there
        cases there
        exact own.symm
      · rw [Function.update_of_ne own] at there
        exact tables.ids there
    · refine ledger.rows ⟨fun there => ?_, fun {id found} there => ?_, fun _ mem => mem⟩ rfl
      · exact ⟨_, (Function.update_of_ne (kept there) ..).trans there, Nat.le_refl _⟩
      · change Function.update s.database.users row.id (some row) id = some found at there
        by_cases own : id = row.id
        · exact .inr (own ▸ missing)
        · rw [Function.update_of_ne own] at there
          exact .inl ⟨found, there, Nat.le_refl _⟩
    · refine ⟨fun {id found} _ there => ?_, fun _ mem => mem, fun _ mem => mem,
        fun _ mem => mem, Nat.le_refl _, fun _ _ fresh => fresh⟩
      exact (Function.update_of_ne (kept there) ..).trans there

end

/-! ### Runs whose tokens are not spent between their check and the lock -/

/-- The token an event spends. -/
def spentToken : Event → Option RefreshToken
  | .issued spent _ => spent
  | .loggedOut _ | .authVersionChanged _ | .refreshAccepted _ | .accessAccepted _ => none

/-- No transaction is let past the locked row of its user, to exchange its token, after the
token has been blacklisted: the blacklist was read before the row was locked. -/
def Undisturbed (s : Sessions.State) : Occurrence → Prop
  | .turn k _ => ∀ w user token, s.workers[k]? = some w → w.operation = .refresh token →
      w.phase = .lockedUser user → isCurrent token user = true →
        token.jti ∉ s.database.blacklisted
  | .requested _ | .rolledBack _ | .authenticated _ _ | .registered _ => True

structure Unspent (s : Sessions.State) : Prop where
  exchanging : ∀ {k : Nat} {w : Sessions.Worker} {token : RefreshToken}, s.workers[k]? = some w →
    w.operation.token = some token → exchanging w.phase = true →
      token.jti ∉ s.database.blacklisted
  once : (s.history.filterMap spentToken).Nodup
  final : ∀ {before after token pair}, s.history = before ++ .loggedOut token :: after →
    .issued (some token) pair ∉ after

section
variable {settings : SessionSettings} {s t : Sessions.State} {w : Sessions.Worker} {k : Nat}

theorem advance_database {o : Outside} :
    (advance settings o s w).1.database = s.database ∨ (advance settings o s w).2 = w.ended := by
  unfold advance begin withUser finishIssue lockUsers commit
  dsimp only
  repeat' split
  all_goals first | exact .inl rfl | exact .inr rfl

theorem Holding.exchanged (holding : Holding s w) (phase : exchanging w.phase = true) :
    ∃ user, Owns s w user ∧ Brings s w user := by
  unfold Holding at holding
  split at holding
  · rename_i there
    rw [there] at phase
    cases phase
  · rename_i there
    rw [there] at phase
    cases phase
  · rename_i there
    rw [there] at phase
    cases phase
  · rename_i there
    rw [there] at phase
    cases phase
  · rename_i there
    rw [there] at phase
    cases phase
  · exact ⟨_, holding.1, holding.2.1⟩
  · exact ⟨_, holding.1, holding.2.1⟩
  · exact ⟨_, holding.1, holding.2.1⟩
  · exact ⟨_, holding.1, holding.2.1⟩
  · exact ⟨_, holding.1, holding.2.1⟩
  · rename_i there
    rw [there] at phase
    cases phase
  · rename_i there
    rw [there] at phase
    cases phase
  · rename_i there
    rw [there] at phase
    cases phase
  · rename_i there
    rw [there] at phase
    cases phase

/-- While a token is exchanged, no other transaction can blacklist it. -/
theorem Sound.unlisted (sound : Sound s) {j : Nat} {other : Sessions.Worker} {token : RefreshToken}
    (there : s.workers[k]? = some w) (there' : s.workers[j]? = some other) (apart : j ≠ k)
    (its : other.operation.token = some token) (phase : exchanging other.phase = true) :
    token.jti ∉ w.writes.blacklisted := by
  intro mem
  have ⟨user, owns, brings⟩ := (sound.holding there').exchanged phase
  have ⟨returned, subject⟩ := brings token its
  have ⟨row, known, jti, owner⟩ := sound.tables.returned returned
  have ⟨row', known', jti', locked⟩ := (sound.holding there).wrote.listed mem
  have same : row = row' :=
    List.inj_on_of_nodup_map sound.tables.rows known known' (jti.trans jti'.symm)
  rw [← same, owner, subject] at locked
  exact apart (sound.exclusive ⟨other, there', owns.1⟩ ⟨w, there, locked⟩)

/-- An event that spends a token only if it is not blacklisted. -/
theorem Unspent.snoc (unspent : Unspent s) (ledger : Ledger s) {e : Event}
    (free : ∀ token pair, e = .issued (some token) pair →
      token.jti ∉ s.database.blacklisted) :
    ((s.history ++ [e]).filterMap spentToken).Nodup ∧
      ∀ {before after token pair}, s.history ++ [e] = before ++ .loggedOut token :: after →
        .issued (some token) pair ∉ after := by
  refine ⟨?_, fun {before after token pair} split mem => ?_⟩
  · rw [List.filterMap_append]
    refine List.nodup_append.2 ⟨unspent.once, ?_, fun token old token' new same => ?_⟩
    · rw [List.filterMap_cons]
      split
      · exact .nil
      · exact List.nodup_singleton _
    · have ⟨e', mem', spends'⟩ := List.mem_filterMap.1 new
      rw [List.mem_singleton.1 mem'] at spends'
      have ⟨e'', mem'', spends''⟩ := List.mem_filterMap.1 old
      cases e with
      | issued spent pair =>
        cases e'' with
        | issued spent' pair' =>
          have is : spent = some token' := spends'
          have is' : spent' = some token := spends''
          rw [is'] at mem''
          exact free token' pair (is ▸ rfl) (same ▸ (ledger.spent mem'').1)
        | loggedOut _ | authVersionChanged _ | refreshAccepted _ | accessAccepted _ =>
          cases spends''
      | loggedOut _ | authVersionChanged _ | refreshAccepted _ | accessAccepted _ => cases spends'
  · cases concat_split split with
    | inl now =>
      rw [now.2.2] at mem
      exact List.not_mem_nil mem
    | inr before_ =>
      have ⟨rest, is, same⟩ := before_
      rw [is] at mem
      cases List.mem_append.1 mem with
      | inl old => exact unspent.final same old
      | inr new =>
        have out : .loggedOut token ∈ s.history :=
          same ▸ List.mem_append_right _ (.head _)
        exact free token pair (List.mem_singleton.1 new).symm (ledger.loggedOut out)

/-- The history after a query, where its transaction exchanges a token that is not spent. -/
theorem Unspent.effect (unspent : Unspent s) (sound : Sound s) (there : s.workers[k]? = some w)
    (effect : Effect s w t) : (t.history.filterMap spentToken).Nodup ∧
      ∀ {before after token pair}, t.history = before ++ .loggedOut token :: after →
        .issued (some token) pair ∉ after := by
  cases effect with
  | quiet => exact ⟨unspent.once, unspent.final⟩
  | numbered => exact ⟨unspent.once, unspent.final⟩
  | accepted _ _ _ => exact unspent.snoc sound.ledger nofun
  | committed ends =>
    refine unspent.snoc sound.ledger fun token pair is => ?_
    cases ends with
    | issued _ _ => cases is
    | exchanged its phase =>
      cases is
      refine unspent.exchanging there its ?_
      rw [phase]
      rfl
    | loggedOut _ _ => cases is
    | changed _ => cases is

/-- What is blacklisted after a query was so before, or its transaction has blacklisted it. -/
theorem Effect.blacklisted {jti : Nat} (effect : Effect s w t) (mem : jti ∈ t.database.blacklisted) :
    jti ∈ s.database.blacklisted ∨ jti ∈ w.writes.blacklisted := by
  cases effect with
  | quiet => exact .inl mem
  | numbered => exact .inl mem
  | accepted _ _ _ => exact .inl mem
  | committed _ => exact List.mem_append.1 mem

theorem Unspent.step {e : Occurrence} (unspent : Unspent s) (sound : Sound s)
    (undisturbed : Undisturbed s e) (step : Step settings s e t) : Unspent t := by
  cases e with
  | requested operation =>
    cases step
    refine ⟨fun {j other token} found its phase => ?_, unspent.once, unspent.final⟩
    change (s.workers ++ [_])[j]? = some other at found
    rw [List.getElem?_append] at found
    split at found
    · exact unspent.exchanging found its phase
    · rw [List.mem_singleton.1 (List.mem_of_getElem? found)] at phase
      cases phase
  | turn k outside =>
    have ⟨w, there, _, is⟩ := step
    have effect := @advance_effect settings outside s w
    have ⟨once, final⟩ := unspent.effect sound there effect
    rw [is]
    refine ⟨fun {j other token} found its phase mem => ?_, once, final⟩
    change token.jti ∈ (advance settings outside s w).1.database.blacklisted at mem
    cases getElem?_set_cases found with
    | inl own =>
      have ⟨same, after⟩ := own
      rw [← after] at its phase
      have before : token.jti ∉ s.database.blacklisted := by
        rw [advance_operation] at its
        cases advance_exchanging its phase with
        | inl exchanging => exact unspent.exchanging there its exchanging
        | inr locked =>
          have ⟨user, phase', op, current⟩ := locked
          exact undisturbed w user token there op phase' current
      cases advance_database with
      | inl kept =>
        rw [kept] at mem
        exact before mem
      | inr ended =>
        rw [ended] at phase
        cases phase
    | inr other =>
      cases effect.blacklisted mem with
      | inl old => exact unspent.exchanging other.2 its phase old
      | inr new => exact sound.unlisted there other.2 other.1 its phase new
  | rolledBack k =>
    cases step
    refine ⟨fun {j other token} found its phase => ?_, unspent.once, unspent.final⟩
    change (s.workers.modify k _)[j]? = some other at found
    rw [List.getElem?_modify] at found
    have ⟨before, there, is⟩ := Option.map_eq_some_iff.1 found
    split at is
    · rw [← is] at phase
      cases phase
    · rw [← is] at its phase
      exact unspent.exchanging there its phase
  | authenticated token now =>
    have ⟨_, _, _, is⟩ := step
    rw [is]
    have ⟨once, final⟩ := unspent.snoc sound.ledger (e := .accessAccepted token) nofun
    exact ⟨unspent.exchanging, once, final⟩
  | registered row =>
    have ⟨_, is⟩ := step
    rw [is]
    exact ⟨unspent.exchanging, unspent.once, unspent.final⟩

theorem initial_sound (initial : Sessions.Initial s) : Sound s ∧ Unspent s := by
  have ⟨workers, history, outstanding, blacklisted, ids⟩ := initial
  have quiet {e : Event} (mem : e ∈ s.history) : False := by
    rw [history] at mem
    exact List.not_mem_nil mem
  have nobody {k : Nat} {w : Sessions.Worker} (there : s.workers[k]? = some w) : False := by
    rw [workers] at there
    cases there
  have split_ {before after : List Event} {e : Event} (split : s.history = before ++ e :: after) :
      False := quiet (split ▸ List.mem_append_right before (.head after))
  refine ⟨⟨⟨ids _ _, ?_, ?_, fun returned => ?_⟩, ⟨fun mem => (quiet mem).elim,
    fun mem => (quiet mem).elim, fun mem => (quiet mem).elim, fun split => (split_ split).elim,
    fun split => (split_ split).elim⟩, ?_, fun there => (nobody there).elim,
    fun there => (nobody there).elim⟩, fun there => (nobody there).elim, ?_,
    fun split => (split_ split).elim⟩
  · rw [outstanding]
    exact .nil
  · rw [outstanding]
    nofun
  · have ⟨_, _, mem, _⟩ := returned
    exact (quiet mem).elim
  · intro j k key held
    have ⟨_, there, _⟩ := held
    exact (nobody there).elim
  · rw [history]
    exact .nil

/-- One refresh token was exchanged for another. -/
def Exchanged (s : Sessions.State) (first next : RefreshToken) : Prop :=
  ∃ pair, .issued (some first) pair ∈ s.history ∧ pair.refresh = next

/-- A chain of exchanges ends when its first token does. -/
theorem Sound.chain (sound : Sound s) {first last : RefreshToken}
    (chain : Relation.ReflTransGen (Exchanged s) first last) : last.exp = first.exp := by
  induction chain with
  | refl => rfl
  | tail _ exchanged ih =>
    have ⟨pair, mem, same⟩ := exchanged
    rw [← same, (sound.ledger.spent mem).2]
    exact ih

structure Secure (s : Sessions.State) : Prop where
  sound : Sound s
  unspent : Unspent s

theorem run_secure {start : Sessions.State} {labels : List Occurrence}
    (initial : Sessions.Initial start)
    (run : Run (Restrict Undisturbed (Step settings)) start labels s) : Secure s := by
  have ⟨sound, unspent⟩ := initial_sound initial
  refine run.invariant (fun s e t secure step => ?_) (⟨sound, unspent⟩ : Secure start)
  exact ⟨secure.sound.step step.2, secure.unspent.step secure.sound step.1 step.2⟩

theorem run_sound {start : Sessions.State} {labels : List Occurrence}
    (initial : Sessions.Initial start) (run : Run (Step settings) start labels s) : Sound s :=
  run.invariant (fun _ _ _ sound step => sound.step step) (initial_sound initial).1

/-- In every run, disturbed or not, a chain of exchanges keeps the expiry of its first token,
and no token that is older than a change of its user's version is accepted after it. -/
theorem run_revoked {start : Sessions.State} {labels : List Occurrence}
    (initial : Sessions.Initial start) (run : Run (Step settings) start labels s) :
    (∀ first last, Relation.ReflTransGen (Exchanged s) first last → last.exp = first.exp) ∧
      ∀ before after spent pair,
        s.history = before ++ .authVersionChanged pair.refresh.subject :: after →
          .issued spent pair ∈ before → ∀ e ∈ after, ¬Uses pair e :=
  ⟨fun _ _ chain => (run_sound initial run).chain chain,
    fun _ _ _ _ split mem => (run_sound initial run).ledger.unused split mem⟩

end

/-! ### Two requests with one token -/

namespace SessionSample

def settings : SessionSettings where
  accessLifetime := 60
  refreshLifetime := 1000
  normalizeSyntheticUsername name := some name
  isConsultantPassword _ := true

def account : Account where
  id := 1
  username := "SYN-CUSTOMER"
  role := .customer
  isActive := true
  isSynthetic := true
  isStaff := false
  isSuperuser := false
  hasUsablePassword := true
  mayCancelInquiry := false
  fullName := "SYN-CUSTOMER"
  phone := ""
  authVersion := 1
  isAccountAdmin := false

def start : Sessions.State where
  database := ⟨Function.update (fun _ => none) 1 (some account), [], []⟩
  workers := []
  history := []
  nextJti := 1

theorem start_initial : Sessions.Initial start := by
  refine ⟨rfl, rfl, rfl, rfl, fun id row there => ?_⟩
  change Function.update (fun _ => none) 1 (some account) id = some row at there
  by_cases own : id = 1
  · rw [own, Function.update_self] at there
    cases there
    exact own.symm
  · rw [Function.update_of_ne own] at there
    cases there

/-- The first pair's refresh token. -/
def token : RefreshToken := forUser settings account 1 100

def at_ (now : Instant) : Outside := ⟨now, ⟨true, true, true, false, true⟩⟩

/-- The next query of one worker, or of a new one, where it does not have to wait. -/
def perform (s : Sessions.State) : Occurrence → Option Sessions.State
  | .requested operation =>
      some { s with workers := s.workers ++ [⟨operation, .begun, noWrites, []⟩] }
  | .turn k outside =>
      match s.workers[k]? with
      | none => none
      | some w =>
          let next := advance settings outside s w
          if available Sessions.Worker.locks s.workers k next.2.locks then
            some { next.1 with workers := s.workers.set k next.2 }
          else none
  | .rolledBack _ | .authenticated _ _ | .registered _ => none

/-- The steps of a list, as long as each meets a condition. -/
def replay (check : Sessions.State → Occurrence → Bool) (s : Sessions.State) :
    List Occurrence → Option Sessions.State
  | [] => some s
  | e :: rest => if check s e then (perform s e).bind (replay check · rest) else none

theorem perform_step {s t : Sessions.State} {e : Occurrence} (performed : perform s e = some t) :
    Step settings s e t := by
  cases e with
  | requested operation => exact (Option.some.inj performed).symm
  | turn k outside =>
    unfold perform at performed
    dsimp only at performed
    split at performed
    · cases performed
    · rename_i w there
      split at performed
      · rename_i free
        exact ⟨w, there, free, (Option.some.inj performed).symm⟩
      · cases performed
  | rolledBack _ | authenticated _ _ | registered _ => cases performed

/-- The condition on a run, as far as `perform` goes. -/
def undisturbed (s : Sessions.State) : Occurrence → Bool
  | .turn k _ =>
      (s.workers[k]?).all fun w =>
        match w.phase with
        | .lockedUser _ => w.operation.token.all fun token =>
            !s.database.blacklisted.contains token.jti
        | _ => true
  | _ => true

theorem undisturbed_of {s : Sessions.State} {e : Occurrence} (free : undisturbed s e = true) :
    Undisturbed s e := by
  cases e with
  | turn k outside =>
    intro w user token there op phase _ mem
    unfold undisturbed at free
    dsimp only at free
    rw [there, Option.all_some, phase, op] at free
    have open_ : (!s.database.blacklisted.contains token.jti) = true := free
    rw [Bool.not_eq_true', List.contains_iff_mem.2 mem] at open_
    cases open_
  | requested _ | rolledBack _ | authenticated _ _ | registered _ => trivial

theorem replay_run {check : Sessions.State → Occurrence → Bool}
    {ok : Sessions.State → Occurrence → Prop} (checks : ∀ s e, check s e = true → ok s e)
    {s t u : Sessions.State} {labels more : List Occurrence}
    (run : Run (Restrict ok (Step settings)) s labels t) (replayed : replay check t more = some u) :
    Run (Restrict ok (Step settings)) s (labels ++ more) u := by
  induction more generalizing t labels with
  | nil =>
    cases Option.some.inj replayed
    rwa [List.append_nil]
  | cons e rest ih =>
    unfold replay at replayed
    split at replayed
    · rename_i met
      have ⟨next, performed, rest_⟩ := Option.bind_eq_some_iff.1 replayed
      have further := ih (run.snoc ⟨checks t e met, perform_step performed⟩) rest_
      rwa [List.append_assoc] at further
    · cases replayed

/-- The first pair, and two requests with its refresh token that both pass the blacklist
before either locks the row of the user. -/
def opening (second : Operation) : List Occurrence :=
  [ .requested (.issuePair 1), .turn 0 (at_ 100), .turn 0 (at_ 100), .turn 0 (at_ 100),
    .turn 0 (at_ 100), .requested (.refresh token), .requested second, .turn 1 (at_ 200),
    .turn 2 (at_ 200) ]

/-- The rest of an exchange. -/
def exchange (k : Nat) (now : Instant) : List Occurrence := List.replicate 7 (.turn k (at_ now))

/-- The rest of a logout. -/
def leave (k : Nat) (now : Instant) : List Occurrence := List.replicate 4 (.turn k (at_ now))

/-- The pair of an exchange: a new token with the expiry of the old one. -/
def exchanged (jti : Nat) (now : Instant) : TokenPair :=
  pairOf settings { forUser settings account jti now with exp := token.exp }

end SessionSample

open SessionSample in
/-- One refresh token is exchanged twice, and one is exchanged after its logout. -/
theorem token_spent_twice :
    (∃ labels s, Run (Step SessionSample.settings) SessionSample.start labels s ∧
      (s.history.filterMap spentToken).count SessionSample.token = 2) ∧
    ∃ labels s before after pair, Run (Step SessionSample.settings) SessionSample.start labels s ∧
      s.history = before ++ .loggedOut SessionSample.token :: after ∧
        .issued (some SessionSample.token) pair ∈ after := by
  constructor
  · have twice : ((replay (fun _ _ => true) start (opening (.refresh token) ++ exchange 1 300 ++ exchange 2 400)).map
        fun s => (s.history.filterMap spentToken).count token) = some 2 := by decide +kernel
    have ⟨s, replayed, count⟩ := Option.map_eq_some_iff.1 twice
    have run := replay_run (fun _ _ _ => trivial) .refl replayed
    exact ⟨_, s, run.of_restrict, count⟩
  · have after : ((replay (fun _ _ => true) start (opening (.logout token) ++ leave 2 300 ++ exchange 1 400)).map
        (·.history)) = some
          ([.issued none (pairOf settings token), .refreshAccepted token] ++ .loggedOut token ::
            [.refreshAccepted token, .issued (some token) (exchanged 2 400)]) := by decide +kernel
    have ⟨s, replayed, history⟩ := Option.map_eq_some_iff.1 after
    have run := replay_run (fun _ _ _ => trivial) .refl replayed
    exact ⟨_, s, _, _, _, run.of_restrict, history, .tail _ (.head _)⟩

/-- In a run in which no token is spent between its check and the lock of its user's row, every
refresh token is exchanged at most once and not after its logout, a chain of exchanges never
moves the expiry of its first token, and no token that is older than a change of its user's
version is accepted after it. -/
theorem run_tokens {settings : SessionSettings} {start s : Sessions.State}
    {labels : List Occurrence} (initial : Sessions.Initial start)
    (run : Run (Restrict Undisturbed (Step settings)) start labels s) :
    (∀ token, (s.history.filterMap spentToken).count token ≤ 1) ∧
      (∀ before after token pair, s.history = before ++ .loggedOut token :: after →
        .issued (some token) pair ∉ after) ∧
      (∀ first last, Relation.ReflTransGen (Exchanged s) first last → last.exp ≤ first.exp) ∧
      ∀ before after spent pair,
        s.history = before ++ .authVersionChanged pair.refresh.subject :: after →
          .issued spent pair ∈ before → ∀ e ∈ after, ¬Uses pair e := by
  have ⟨sound, unspent⟩ := run_secure initial run
  refine ⟨fun token => ?_, fun _ _ _ _ split => unspent.final split, fun _ _ chain => ?_,
    fun _ _ _ _ split mem => sound.ledger.unused split mem⟩
  · exact List.nodup_iff_count_le_one.1 unspent.once token
  · exact Nat.le_of_eq (sound.chain chain)

open SessionSample in
/-- One exchange at a time: the token is exchanged once. -/
theorem run_tokens_exchanged :
    ∃ labels s, Run (Restrict Undisturbed (Step SessionSample.settings)) SessionSample.start
        labels s ∧ .issued (some SessionSample.token) (exchanged 2 300) ∈ s.history ∧
      (s.history.filterMap spentToken).count SessionSample.token ≤ 1 := by
  have done : ((replay undisturbed start (opening (.logout token) ++ exchange 1 300)).map
      (·.history)) = some
        [.issued none (pairOf settings token), .refreshAccepted token,
          .issued (some token) (exchanged 2 300)] := by decide +kernel
  have ⟨s, replayed, history⟩ := Option.map_eq_some_iff.1 done
  have run := replay_run (fun _ _ => undisturbed_of) .refl replayed
  refine ⟨_, s, run, ?_, (run_tokens start_initial run).1 token⟩
  rw [history]
  exact .tail _ (.tail _ (.head _))

end WaterCare.Runtime.Authentication
