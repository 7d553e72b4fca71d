import WaterCare.Machine.Run
import WaterCare.Machine.Window
import WaterCare.Service.P1AuthService

/-!
Runs of login attempts. The failures of a spelling are counted under the digest of its
normalized form, and the account is found by the comparison of the database: the bound on the
passwords that are tried holds for an account whose spellings all have one digest.
-/

namespace WaterCare.Runtime.Lockout
open Machine Store Service
open P1Auth P1AuthService

structure Attempt where
  drawn : Drawn
  username : String
  password : String

/-- A password that was compared, with the account that was found. -/
structure Comparison extends Tick where
  subject : String
  account : Option Nat
  success : Bool

/-- The comparisons are the newest first. -/
structure State where
  database : AuthDatabase
  clock : Instant
  log : List Comparison

section
variable (settings : AuthSettings) (registry : Registry)

def answer (db : AuthDatabase) (a : Attempt) : AuthDatabase × Except BackendError AuthUser :=
  login settings registry a.drawn db a.username a.password

/-- The `Retry-After` of an answer. -/
def retryAfterOf : Except BackendError AuthUser → Option Nat
  | .error error => error.retryAfter
  | .ok _ => none

def bucketOf (db : AuthDatabase) (a : Attempt) : LoginRateBucket :=
  loginBucketFor settings db a.drawn.now (subjectOf settings a.username)

/-- What an attempt has compared, if it was not refused before. -/
def compared (db : AuthDatabase) (a : Attempt) : List Comparison :=
  match retryAfterOf (answer settings registry db a).2 with
  | some _ => []
  | none =>
      [⟨⟨a.drawn.now, (bucketOf settings db a).windowStartedAt⟩, subjectOf settings a.username,
        (loginUser settings registry a.username).map (·.id),
        match (answer settings registry db a).2 with
        | .ok _ => true
        | .error _ => false⟩]

/-- An attempt at a time that is not over yet. -/
def Step (s : State) (a : Attempt) (t : State) : Prop :=
  s.clock ≤ a.drawn.now ∧
    t = ⟨(answer settings registry s.database a).1, a.drawn.now,
      compared settings registry s.database a ++ s.log⟩

/-- No password was compared yet, and no window begins later. -/
structure Initial (s : State) : Prop where
  log : s.log = []
  started : ∀ subject bucket, s.database.loginBuckets subject = some bucket →
    bucket.windowStartedAt ≤ s.clock

structure Positive : Prop where
  window : 0 < settings.loginWindowSeconds
  failures : 0 < settings.loginMaxFailures

def windowLength : Nat := seconds settings.loginWindowSeconds

/-- What finds the account is counted under its own name, and no other account is logged in
under that name. -/
structure Proper (user : AuthUser) (a : Attempt) : Prop where
  own : ∀ found, loginUser settings registry a.username = some found → found.id = user.id →
    subjectOf settings a.username = subjectOf settings user.username
  other : subjectOf settings a.username = subjectOf settings user.username →
    ∀ found, loginUser settings registry a.username = some found → found.id ≠ user.id →
      settings.checkPassword a.password found.password = false

end

section
variable {settings : AuthSettings} {registry : Registry}

/-! ### One attempt -/

/-- The bucket with one more failure. -/
def failedBucket (settings : AuthSettings) (db : AuthDatabase) (a : Attempt) : LoginRateBucket :=
  { bucketOf settings db a with
    failureCount := (bucketOf settings db a).failureCount + 1
    lastFailedAt := some a.drawn.now }

/-- What an attempt does to the tables, and what it has compared. -/
inductive Logged (settings : AuthSettings) (registry : Registry) (db : AuthDatabase) (a : Attempt) :
    AuthDatabase → List Comparison → Option Nat → Prop
  | refused (full : settings.loginMaxFailures ≤ (bucketOf settings db a).failureCount) :
      Logged settings registry db a db []
        (some (max 1 (loginRetryAfter settings a.drawn.now (bucketOf settings db a))))
  | failed {after : AuthDatabase}
      (below : (bucketOf settings db a).failureCount < settings.loginMaxFailures)
      (buckets : after.loginBuckets = Function.update db.loginBuckets (subjectOf settings a.username)
        (some (failedBucket settings db a))) :
      Logged settings registry db a after
        [⟨⟨a.drawn.now, (bucketOf settings db a).windowStartedAt⟩, subjectOf settings a.username,
          (loginUser settings registry a.username).map (·.id), false⟩] none
  | passed {after : AuthDatabase} {user : AuthUser}
      (account : loginUser settings registry a.username = some user)
      (password : settings.checkPassword a.password user.password = true)
      (buckets : after.loginBuckets = Function.update db.loginBuckets (subjectOf settings a.username)
        (some ⟨a.drawn.now, 0, none⟩)) :
      Logged settings registry db a after
        [⟨⟨a.drawn.now, (bucketOf settings db a).windowStartedAt⟩, subjectOf settings a.username,
          (loginUser settings registry a.username).map (·.id), true⟩] none

section
variable {db : AuthDatabase} {a : Attempt}
  (below : ¬settings.loginMaxFailures ≤ (bucketOf settings db a).failureCount)
include below

theorem answer_failed (wrong : ∀ user, loginUser settings registry a.username = some user →
      settings.checkPassword a.password user.password = false) :
    (answer settings registry db a).2 = .error loginFailed ∧
      (answer settings registry db a).1.loginBuckets = Function.update db.loginBuckets
        (subjectOf settings a.username) (some (failedBucket settings db a)) := by
  unfold bucketOf at below
  unfold answer login
  dsimp only
  rw [if_neg below]
  cases found : loginUser settings registry a.username with
  | none => exact ⟨rfl, rfl⟩
  | some user =>
    rw [Option.elim_some, wrong user found]
    exact ⟨rfl, rfl⟩

theorem answer_passed {user : AuthUser} (found : loginUser settings registry a.username = some user)
    (password : settings.checkPassword a.password user.password = true) :
    (answer settings registry db a).2 = .ok user ∧
      (answer settings registry db a).1.loginBuckets = Function.update db.loginBuckets
        (subjectOf settings a.username) (some ⟨a.drawn.now, 0, none⟩) := by
  unfold bucketOf at below
  unfold answer login
  dsimp only
  rw [if_neg below, found, Option.elim_some, password]
  exact ⟨rfl, rfl⟩

end

theorem login_ok (db : AuthDatabase) (a : Attempt) :
    Logged settings registry db a (answer settings registry db a).1
      (compared settings registry db a) (retryAfterOf (answer settings registry db a).2) := by
  by_cases full : settings.loginMaxFailures ≤ (bucketOf settings db a).failureCount
  · have is : answer settings registry db a = (db, .error (tooManyRequests
        (loginRetryAfter settings a.drawn.now (bucketOf settings db a)))) := if_pos full
    unfold compared
    rw [is]
    exact .refused full
  · unfold compared
    by_cases right : ∃ user, loginUser settings registry a.username = some user ∧
        settings.checkPassword a.password user.password = true
    · have ⟨user, found, password⟩ := right
      have is := answer_passed full found password
      rw [is.1]
      exact .passed found password is.2
    · have is : _ ∧ _ := answer_failed full fun user found =>
        Bool.eq_false_iff.2 fun password => right ⟨user, found, password⟩
      rw [is.1]
      exact .failed (Nat.lt_of_not_le full) is.2

/-- The bucket of an attempt: the saved one, or one whose window begins now. -/
theorem loginBucketFor_cases (db : AuthDatabase) (now : Instant) (subject : String) :
    (loginBucketFor settings db now subject = ⟨now, 0, none⟩ ∧
      ∀ saved, db.loginBuckets subject = some saved →
        saved.windowStartedAt + windowLength settings ≤ now) ∨
    ∃ saved, db.loginBuckets subject = some saved ∧
      now < saved.windowStartedAt + windowLength settings ∧
        loginBucketFor settings db now subject = saved := by
  unfold loginBucketFor
  cases saved : db.loginBuckets subject with
  | none =>
    left
    refine ⟨?_, nofun⟩
    rw [Option.getD_none]
    dsimp only
    split <;> rfl
  | some bucket =>
    rw [Option.getD_some]
    dsimp only
    split
    · rename_i elapsed
      left
      refine ⟨rfl, fun other is => ?_⟩
      cases is
      exact elapsed
    · rename_i open_
      exact .inr ⟨bucket, rfl, Nat.lt_of_not_le open_, rfl⟩

/-! ### Since the last success -/

/-- The comparisons under a subject since its last success, the newest first. -/
def recent (log : List Comparison) (subject : String) : List Comparison :=
  (log.filter fun c => decide (c.subject = subject)).takeWhile fun c => !c.success

/-- The times of the comparisons that failed last. -/
def failures (log : List Comparison) (subject : String) : List Tick :=
  (recent log subject).map (·.toTick)

section
variable {log : List Comparison} {subject : String} {c : Comparison}

theorem failures_other (other : c.subject ≠ subject) :
    failures (c :: log) subject = failures log subject := by
  unfold failures recent
  rw [List.filter_cons, decide_eq_false other, if_neg Bool.false_ne_true]

theorem failures_success (own : c.subject = subject) (success : c.success = true) :
    failures (c :: log) subject = [] := by
  unfold failures recent
  rw [List.filter_cons, decide_eq_true own, if_pos rfl, List.takeWhile_cons, success]
  rfl

theorem failures_failure (own : c.subject = subject) (failure : c.success = false) :
    failures (c :: log) subject = c.toTick :: failures log subject := by
  unfold failures recent
  rw [List.filter_cons, decide_eq_true own, if_pos rfl, List.takeWhile_cons, failure]
  rfl

/-- In an interval that lasts until now and has no success, all comparisons are recent. -/
theorem inside_recent {x length : Nat} {l : List Comparison}
    (sorted : l.Pairwise fun c c' => c'.at_ ≤ c.at_)
    (ended : ∀ c ∈ l, c.at_ ≤ x + length)
    (no_success : ∀ c ∈ l, c.success = true → c.toTick.inside x length = false) :
    l.countP (fun c => c.toTick.inside x length) =
      (l.takeWhile fun c => !c.success).countP fun c => c.toTick.inside x length := by
  induction l with
  | nil => rfl
  | cons c rest ih =>
    have ⟨newest, sorted⟩ := List.pairwise_cons.1 sorted
    have ih := ih sorted (fun d mem => ended d (List.mem_cons_of_mem c mem))
      fun d mem => no_success d (List.mem_cons_of_mem c mem)
    rw [List.takeWhile_cons]
    cases success : c.success with
    | false =>
      rw [if_pos Bool.not_false, List.countP_cons, List.countP_cons, ih]
    | true =>
      rw [if_neg (by rw [Bool.not_true]; exact Bool.false_ne_true), List.countP_nil]
      have outside : ¬(x ≤ c.at_ ∧ c.at_ ≤ x + length) :=
        of_decide_eq_false (no_success c List.mem_cons_self success)
      have early : c.at_ < x := by
        have late := ended c List.mem_cons_self
        omega
      refine List.countP_eq_zero.2 fun d mem inside => ?_
      have inside : x ≤ d.at_ ∧ d.at_ ≤ x + length := of_decide_eq_true inside
      cases mem with
      | head => omega
      | tail _ old =>
        have before := newest d old
        omega

end

/-! ### What holds of one account -/

/-- The failures of a subject are counted in windows. -/
structure Counting (settings : AuthSettings) (subject : String) (s : State) : Prop where
  windowed : Windowed (windowLength settings) settings.loginMaxFailures (failures s.log subject)
  saved : ∀ bucket, s.database.loginBuckets subject = some bucket →
    bucket.windowStartedAt ≤ s.clock ∧
      Current (windowLength settings) (failures s.log subject) bucket.windowStartedAt
        bucket.failureCount
  unsaved : s.database.loginBuckets subject = none → failures s.log subject = []

/-- The comparison has used the account, at a time of the interval. -/
def Tries (id x length : Nat) (c : Comparison) : Bool :=
  decide (c.account = some id) && c.toTick.inside x length

/-- In an interval of the length of a window without a success of the account, its password is
compared twice as often as the limit at most. -/
def Bounded (settings : AuthSettings) (id : Nat) (log : List Comparison) : Prop :=
  ∀ x, (∀ c ∈ log, c.account = some id → c.success = true →
      c.toTick.inside x (windowLength settings) = false) →
    log.countP (Tries id x (windowLength settings)) ≤ 2 * settings.loginMaxFailures

/-- What holds between the attempts of a run. -/
structure Sound (settings : AuthSettings) (user : AuthUser) (s : State) : Prop where
  counting : Counting settings (subjectOf settings user.username) s
  past : ∀ c ∈ s.log, c.at_ ≤ s.clock
  sorted : s.log.Pairwise fun c c' => c'.at_ ≤ c.at_
  own : ∀ c ∈ s.log, c.account = some user.id → c.subject = subjectOf settings user.username
  successes : ∀ c ∈ s.log, c.subject = subjectOf settings user.username → c.success = true →
    c.account = some user.id
  bounded : Bounded settings user.id s.log

/-! ### One step -/

section
variable {s t : State} {a : Attempt} {user : AuthUser}

theorem windowLength_pos (positive : Positive settings) : 0 < windowLength settings := by
  have window := positive.window
  unfold windowLength seconds
  omega

/-- What the bucket of an attempt knows of the failures before it. -/
theorem Counting.current {subject : String} (counting : Counting settings subject s)
    (positive : Positive settings) {now : Instant} (later : s.clock ≤ now) :
    (loginBucketFor settings s.database now subject).windowStartedAt ≤ now ∧
      now < (loginBucketFor settings s.database now subject).windowStartedAt +
        windowLength settings ∧
      Current (windowLength settings) (failures s.log subject)
        (loginBucketFor settings s.database now subject).windowStartedAt
        (loginBucketFor settings s.database now subject).failureCount := by
  have pos := windowLength_pos positive
  have cases_ := @loginBucketFor_cases settings s.database now subject
  cases cases_ with
  | inl fresh =>
    have ⟨is, elapsed⟩ := fresh
    rw [is]
    refine ⟨Nat.le_refl _, Nat.lt_add_of_pos_right pos, ?_⟩
    cases there : s.database.loginBuckets subject with
    | none =>
      rw [counting.unsaved there]
      exact .nil
    | some bucket => exact (counting.saved bucket there).2.renew pos (elapsed bucket there)
  | inr kept =>
    have ⟨saved, there, open_, is⟩ := kept
    have ⟨started, current⟩ := counting.saved saved there
    rw [is]
    exact ⟨Nat.le_trans started later, open_, current⟩

theorem Counting.wait {subject : String} (counting : Counting settings subject s)
    {db : AuthDatabase} {now : Instant} {log : List Comparison} (later : s.clock ≤ now)
    (buckets : db.loginBuckets subject = s.database.loginBuckets subject)
    (same : failures log subject = failures s.log subject) :
    Counting settings subject ⟨db, now, log⟩ := by
  refine ⟨?_, fun bucket there => ?_, fun there => ?_⟩
  · rw [same]
    exact counting.windowed
  · have ⟨started, current⟩ := counting.saved bucket (buckets.symm.trans there)
    rw [same]
    exact ⟨Nat.le_trans started later, current⟩
  · exact same.trans (counting.unsaved (buckets.symm.trans there))

theorem Counting.step {subject : String} (counting : Counting settings subject s)
    (positive : Positive settings) (step : Step settings registry s a t) :
    Counting settings subject t := by
  have ⟨later, is⟩ := step
  have logged := @login_ok settings registry s.database a
  rw [is]
  generalize (answer settings registry s.database a).1 = after,
    compared settings registry s.database a = added,
    retryAfterOf (answer settings registry s.database a).2 = wait at logged
  by_cases own : subjectOf settings a.username = subject
  · cases logged with
    | refused full => exact counting.wait later rfl rfl
    | failed below buckets =>
      rw [own] at buckets
      have ⟨started, open_, current⟩ := counting.current positive later
      unfold bucketOf at below
      rw [own] at below
      have grown : failures ([⟨⟨a.drawn.now, (bucketOf settings s.database a).windowStartedAt⟩,
            subjectOf settings a.username, (loginUser settings registry a.username).map (·.id),
            false⟩] ++ s.log) subject =
          ⟨a.drawn.now, (loginBucketFor settings s.database a.drawn.now subject).windowStartedAt⟩ ::
            failures s.log subject := by
        rw [← own]
        exact failures_failure rfl rfl
      have put : after.loginBuckets subject = some (failedBucket settings s.database a) := by
        rw [buckets, Function.update_self]
      refine ⟨?_, fun bucket there => ?_, fun there => nomatch put.symm.trans there⟩
      · rw [grown]
        exact counting.windowed.push current started open_ below
      · have is : failedBucket settings s.database a = bucket := Option.some.inj (put.symm.trans there)
        rw [grown, ← is]
        unfold failedBucket bucketOf
        rw [own]
        exact ⟨started, current.push a.drawn.now⟩
    | passed account password buckets =>
      rw [own] at buckets
      have put : after.loginBuckets subject = some ⟨a.drawn.now, 0, none⟩ := by
        rw [buckets, Function.update_self]
      have emptied : failures ([⟨⟨a.drawn.now, (bucketOf settings s.database a).windowStartedAt⟩,
          subjectOf settings a.username, (loginUser settings registry a.username).map (·.id),
          true⟩] ++ s.log) subject = [] := failures_success own rfl
      refine ⟨?_, fun bucket there => ?_, fun there => nomatch put.symm.trans there⟩
      · rw [emptied]
        exact .nil
      · have is : ⟨a.drawn.now, 0, none⟩ = bucket := Option.some.inj (put.symm.trans there)
        rw [emptied, ← is]
        exact ⟨Nat.le_refl _, .nil⟩
  · cases logged with
    | refused full => exact counting.wait later rfl rfl
    | failed below buckets =>
      refine counting.wait later ?_ (failures_other own)
      rw [buckets, Function.update_of_ne (Ne.symm own)]
    | passed account password buckets =>
      refine counting.wait later ?_ (failures_other own)
      rw [buckets, Function.update_of_ne (Ne.symm own)]

/-- The comparisons of an account that are counted in one interval are recent failures. -/
theorem tries_le {log : List Comparison} {subject : String} {id x : Nat}
    (windowed : Windowed (windowLength settings) settings.loginMaxFailures (failures log subject))
    (sorted : log.Pairwise fun c c' => c'.at_ ≤ c.at_)
    (ended : ∀ c ∈ log, c.at_ ≤ x + windowLength settings)
    (own : ∀ c ∈ log, c.account = some id → c.subject = subject)
    (clean : ∀ c ∈ log, c.subject = subject → c.success = true →
      c.toTick.inside x (windowLength settings) = false) :
    log.countP (Tries id x (windowLength settings)) ≤ 2 * settings.loginMaxFailures := by
  have counted : log.countP (Tries id x (windowLength settings)) ≤
      (log.filter fun c => decide (c.subject = subject)).countP
        fun c => c.toTick.inside x (windowLength settings) := by
    rw [List.countP_filter]
    refine List.countP_mono_left fun c mem tries => ?_
    have ⟨account, inside⟩ := Bool.and_eq_true_iff.1 tries
    rw [inside, Bool.true_and]
    exact decide_eq_true (own c mem (of_decide_eq_true account))
  have mem_filter {c : Comparison} (mem : c ∈ log.filter fun c => decide (c.subject = subject)) :
      c ∈ log ∧ c.subject = subject :=
    (List.mem_filter.1 mem).imp_right of_decide_eq_true
  have recent_ := inside_recent (sorted.filter _) (fun c mem => ended c (mem_filter mem).1)
    fun c mem => clean c (mem_filter mem).1 (mem_filter mem).2
  have interval := windowed.interval x
  unfold failures at interval
  rw [List.countP_map] at interval
  rw [recent_] at counted
  exact Nat.le_trans counted interval

/-- The attempt has compared nothing, or one password. -/
theorem Logged.compared_cases {db after : AuthDatabase} {added : List Comparison}
    {wait : Option Nat} (logged : Logged settings registry db a after added wait) :
    added = [] ∨ ∃ c, added = [c] ∧ c.at_ = a.drawn.now ∧ c.subject = subjectOf settings a.username ∧
      c.account = (loginUser settings registry a.username).map (·.id) ∧
        (c.success = true → ∃ user, loginUser settings registry a.username = some user ∧
          settings.checkPassword a.password user.password = true) := by
  cases logged with
  | refused full => exact .inl rfl
  | failed below buckets => exact .inr ⟨_, rfl, rfl, rfl, rfl, nofun⟩
  | passed account password buckets =>
    exact .inr ⟨_, rfl, rfl, rfl, rfl, fun _ => ⟨_, account, password⟩⟩

theorem Sound.push (sound : Sound settings user s) (proper : Proper settings registry user a)
    {db : AuthDatabase} {c : Comparison} (later : s.clock ≤ a.drawn.now)
    (counting : Counting settings (subjectOf settings user.username)
      ⟨db, a.drawn.now, c :: s.log⟩)
    (at_ : c.at_ = a.drawn.now) (subject : c.subject = subjectOf settings a.username)
    (account : c.account = (loginUser settings registry a.username).map (·.id))
    (success : c.success = true → ∃ user, loginUser settings registry a.username = some user ∧
      settings.checkPassword a.password user.password = true) :
    Sound settings user ⟨db, a.drawn.now, c :: s.log⟩ := by
  have past : ∀ d ∈ c :: s.log, d.at_ ≤ a.drawn.now := by
    intro d mem
    cases mem with
    | head => exact Nat.le_of_eq at_
    | tail _ old => exact Nat.le_trans (sound.past d old) later
  have sorted : (c :: s.log).Pairwise fun d d' => d'.at_ ≤ d.at_ := by
    refine List.pairwise_cons.2 ⟨fun d mem => ?_, sound.sorted⟩
    rw [at_]
    exact Nat.le_trans (sound.past d mem) later
  have own : ∀ d ∈ c :: s.log, d.account = some user.id →
      d.subject = subjectOf settings user.username := by
    intro d mem is
    cases mem with
    | head =>
      have ⟨found, there, same⟩ := Option.map_eq_some_iff.1 (account.symm.trans is)
      exact subject.trans (proper.own found there same)
    | tail _ old => exact sound.own d old is
  have successes : ∀ d ∈ c :: s.log, d.subject = subjectOf settings user.username →
      d.success = true → d.account = some user.id := by
    intro d mem is passed
    cases mem with
    | head =>
      have ⟨found, there, password⟩ := success passed
      rw [account, there, Option.map_some]
      by_cases same : found.id = user.id
      · rw [same]
      · have wrong := proper.other (subject.symm.trans is) found there same
        rw [password] at wrong
        cases wrong
    | tail _ old => exact sound.successes d old is passed
  refine ⟨counting, past, sorted, own, successes, fun x clean => ?_⟩
  cases tries : Tries user.id x (windowLength settings) c with
  | true =>
    have ⟨_, inside⟩ := Bool.and_eq_true_iff.1 tries
    have inside : x ≤ c.at_ ∧ c.at_ ≤ x + windowLength settings := of_decide_eq_true inside
    refine tries_le counting.windowed sorted (fun d mem => ?_) own fun d mem its passed =>
      clean d mem (successes d mem its passed) passed
    exact Nat.le_trans (past d mem) (Nat.le_trans (Nat.le_of_eq at_.symm) inside.2)
  | false =>
    rw [List.countP_cons, tries, if_neg Bool.false_ne_true, Nat.add_zero]
    exact sound.bounded x fun d mem => clean d (List.mem_cons_of_mem c mem)

theorem Sound.step (sound : Sound settings user s) (positive : Positive settings)
    (proper : Proper settings registry user a) (step : Step settings registry s a t) :
    Sound settings user t := by
  have counting := sound.counting.step positive step
  have ⟨later, is⟩ := step
  have logged := @login_ok settings registry s.database a
  rw [is] at counting ⊢
  cases logged.compared_cases with
  | inl nothing =>
    rw [nothing] at counting ⊢
    exact ⟨counting, fun c mem => Nat.le_trans (sound.past c mem) later, sound.sorted, sound.own,
      sound.successes, sound.bounded⟩
  | inr one =>
    have ⟨c, one, at_, subject, account, success⟩ := one
    rw [one] at counting ⊢
    exact sound.push proper later counting at_ subject account success

/-! ### Waiting -/

/-- The refused bucket, and the end of its window. -/
theorem refused_bucket (positive : Positive settings) {db : AuthDatabase} {k : Nat}
    (refused : retryAfterOf (answer settings registry db a).2 = some k) :
    (answer settings registry db a).1 = db ∧
      db.loginBuckets (subjectOf settings a.username) = some (bucketOf settings db a) ∧
        settings.loginMaxFailures ≤ (bucketOf settings db a).failureCount ∧
          (bucketOf settings db a).windowStartedAt + windowLength settings ≤
            a.drawn.now + seconds k := by
  have logged := @login_ok settings registry db a
  rw [refused] at logged
  generalize (answer settings registry db a).1 = after, compared settings registry db a = added
    at logged ⊢
  cases logged with
  | refused full =>
    have cases_ := @loginBucketFor_cases settings db a.drawn.now (subjectOf settings a.username)
    cases cases_ with
    | inl fresh =>
      have is : bucketOf settings db a = ⟨a.drawn.now, 0, none⟩ := fresh.1
      rw [is] at full
      exact absurd full (Nat.not_le_of_lt positive.failures)
    | inr kept =>
      have ⟨saved, there, _, is⟩ := kept
      have is : bucketOf settings db a = saved := is
      refine ⟨rfl, there.trans (congrArg some is.symm), full, ?_⟩
      unfold loginRetryAfter windowLength seconds
      generalize (bucketOf settings db a).windowStartedAt + 1000000 * settings.loginWindowSeconds = due
      have enough (due now : Nat) :
          due ≤ now + 1000000 * max 1 (max 1 ((due - now) / 1000000 + 1)) := by
        omega
      exact enough due a.drawn.now

/-- An attempt that comes when a full window is over is not refused. -/
theorem over_free (positive : Positive settings) {db : AuthDatabase} {saved : LoginRateBucket}
    (there : db.loginBuckets (subjectOf settings a.username) = some saved)
    (elapsed : saved.windowStartedAt + windowLength settings ≤ a.drawn.now) :
    retryAfterOf (answer settings registry db a).2 = none := by
  have is : bucketOf settings db a = ⟨a.drawn.now, 0, none⟩ := by
    unfold bucketOf loginBucketFor
    rw [there, Option.getD_some]
    exact if_pos elapsed
  have logged := @login_ok settings registry db a
  generalize retryAfterOf (answer settings registry db a).2 = wait,
    (answer settings registry db a).1 = after, compared settings registry db a = added at logged ⊢
  cases logged with
  | refused full =>
    rw [is] at full
    exact absurd full (Nat.not_le_of_lt positive.failures)
  | failed | passed => rfl

/-- An attempt in the open window of a full bucket leaves it. -/
theorem full_kept {db : AuthDatabase} {subject : String} {saved : LoginRateBucket}
    (there : db.loginBuckets subject = some saved)
    (full : settings.loginMaxFailures ≤ saved.failureCount)
    (open_ : subjectOf settings a.username = subject →
      a.drawn.now < saved.windowStartedAt + windowLength settings) :
    (answer settings registry db a).1.loginBuckets subject = some saved := by
  by_cases own : subjectOf settings a.username = subject
  · have is : bucketOf settings db a = saved := by
      unfold bucketOf loginBucketFor
      rw [own, there, Option.getD_some]
      exact if_neg (Nat.not_le_of_lt (open_ own))
    rw [← is] at full
    have refused : answer settings registry db a = (db, .error (tooManyRequests
        (loginRetryAfter settings a.drawn.now (bucketOf settings db a)))) := if_pos full
    rw [refused]
    exact there
  · have logged := @login_ok settings registry db a
    generalize (answer settings registry db a).1 = after, compared settings registry db a = added,
      retryAfterOf (answer settings registry db a).2 = wait at logged ⊢
    cases logged with
    | refused => exact there
    | failed below buckets =>
      rw [buckets, Function.update_of_ne (Ne.symm own)]
      exact there
    | passed account password buckets =>
      rw [buckets, Function.update_of_ne (Ne.symm own)]
      exact there

/-- No attempt under the subject comes after the end of the bucket's window. -/
def Silent (settings : AuthSettings) (subject : String) (bucket : LoginRateBucket) (_ : State)
    (a : Attempt) : Prop :=
  subjectOf settings a.username = subject →
    a.drawn.now < bucket.windowStartedAt + windowLength settings

theorem run_kept {labels : List Attempt} {subject : String} {saved : LoginRateBucket}
    (run : Run (Restrict (Silent settings subject saved) (Step settings registry)) s labels t)
    (there : s.database.loginBuckets subject = some saved)
    (full : settings.loginMaxFailures ≤ saved.failureCount) :
    t.database.loginBuckets subject = some saved := by
  induction run with
  | refl => exact there
  | snoc _ last ih =>
    have ⟨silent, _, is⟩ := last
    rw [is]
    exact full_kept ih full silent

/-- Who is refused may try again after the time that the answer says, if no one has tried the
name since the end of the window. -/
def Waited (settings : AuthSettings) (registry : Registry) (s : State) : Prop :=
  ∀ a t k, Step settings registry s a t →
    retryAfterOf (answer settings registry s.database a).2 = some k →
      ∀ labels u, Run (Restrict (Silent settings (subjectOf settings a.username)
          (bucketOf settings s.database a)) (Step settings registry)) t labels u →
        ∀ a', a'.username = a.username → a.drawn.now + seconds k ≤ a'.drawn.now →
          retryAfterOf (answer settings registry u.database a').2 = none

theorem waited (positive : Positive settings) : Waited settings registry s := by
  intro a t k step refused labels u run a' name late
  have ⟨_, is⟩ := step
  have ⟨unchanged, there, full, due⟩ := refused_bucket positive refused
  rw [is, unchanged] at run
  have kept := run_kept run there full
  rw [← name] at kept
  exact over_free positive kept (Nat.le_trans due late)

/-! ### Runs -/

theorem Initial.sound (initial : Initial s) : Sound settings user s := by
  have none_ (c : Comparison) : c ∉ s.log := by
    rw [initial.log]
    exact List.not_mem_nil
  have nothing (subject : String) : failures s.log subject = [] := by
    rw [initial.log]
    rfl
  refine ⟨⟨?_, fun bucket there => ⟨initial.started _ _ there, ?_⟩, fun _ => nothing _⟩,
    fun c mem => absurd mem (none_ c), ?_, fun c mem => absurd mem (none_ c),
    fun c mem => absurd mem (none_ c), fun x _ => ?_⟩
  · rw [nothing]
    exact .nil
  · rw [nothing]
    exact .nil
  · rw [initial.log]
    exact .nil
  · rw [initial.log]
    exact Nat.zero_le _

theorem run_locked {start : State} {labels : List Attempt} (positive : Positive settings)
    (initial : Initial start)
    (run : Run (Restrict (fun _ a => Proper settings registry user a) (Step settings registry))
      start labels s) :
    Bounded settings user.id s.log ∧ Waited settings registry s := by
  have sound : Sound settings user s :=
    run.invariant (fun _ _ _ sound step => sound.step positive step.1 step.2) initial.sound
  exact ⟨sound.bounded, waited positive⟩

end

end

/-! ### A consultant with four spellings -/

namespace LockoutSample

/-- The tables of Unicode, on the letters of the names below. -/
def unicode : Unicode where
  nfkc := id
  casefold name := name.map fun c => if c = 'ı' then c else c.toLower
  upper c := if c = 'ı' then 'I' else c.toUpper

def settings : AuthSettings where
  otpTtlSeconds := 300
  otpResendSeconds := 60
  otpMaxFailures := 5
  ticketTtlSeconds := 600
  challengeWindowHours := 1
  challengeMaxPerWindow := 2
  idempotencyReplayTtlSeconds := 3600
  otpDigest _ _ code := code
  ticketDigest raw := raw
  keyDigest key := key
  loginWindowSeconds := 300
  loginMaxFailures := 1
  unicode := unicode
  fingerprint _ := ""
  subjectDigest name := name
  lookupHmac email := some email
  checkPassword password stored := decide (password = stored)
  dummyPasswordHash := "!"
  encryptOtp code := code

theorem positive : Positive settings := by
  constructor <;> decide

def iris : AuthUser where
  id := 1
  username := "iris"
  isActive := true
  isSynthetic := true
  role := .consultant
  isStaff := false
  isSuperuser := false
  hasUsablePassword := true
  mayCancelInquiry := false
  fullName := "Iris"
  phone := ""
  authVersion := 1
  isAccountAdmin := false
  employeeNo := some "e-1"
  password := "secret"

def registry : Registry where
  users := [iris]
  customers := []
  contacts := []
  subscriptions := []
  links := []

def start : State where
  database :=
    { buckets := fun _ _ => none
      challenges := []
      outbox := []
      tickets := []
      loginBuckets := fun _ => none
      loginFailures := []
      nextId := 10 }
  clock := 0
  log := []

theorem start_initial : Initial start := ⟨rfl, fun _ _ there => nomatch there⟩

def attempt (second : Nat) (username password : String) : Attempt :=
  ⟨⟨seconds second, "123456", "ticket"⟩, username, password⟩

def perform (s : State) (a : Attempt) : Option State :=
  if s.clock ≤ a.drawn.now then
    some ⟨(answer settings registry s.database a).1, a.drawn.now,
      compared settings registry s.database a ++ s.log⟩
  else none

theorem perform_step {s t : State} {a : Attempt} (performed : perform s a = some t) :
    Step settings registry s a t := by
  unfold perform at performed
  split at performed
  · rename_i later
    exact ⟨later, (Option.some.inj performed).symm⟩
  · cases performed

/-- The name as it is saved. -/
def performNamed (s : State) (a : Attempt) : Option State :=
  if a.username = "iris" then perform s a else none

theorem performNamed_step {s t : State} {a : Attempt} (performed : performNamed s a = some t) :
    Restrict (fun _ a => Proper settings registry iris a) (Step settings registry) s a t := by
  unfold performNamed at performed
  split at performed
  · rename_i named
    refine ⟨⟨fun _ _ _ => congrArg (subjectOf settings) named, fun _ found there other => ?_⟩,
      perform_step performed⟩
    have mem : found ∈ [iris] := List.mem_of_find?_eq_some there
    rw [List.mem_singleton.1 mem] at other
    exact absurd rfl other
  · cases performed

end LockoutSample

open LockoutSample in
/-- A wrong password, and a second one that is refused for the rest of the window. -/
theorem run_locked_waiting :
    ∃ labels s, Run (Restrict (fun _ a => Proper settings registry iris a) (Step settings registry))
        start labels s ∧
      s.log.length = 1 ∧ Bounded settings iris.id s.log ∧
        ∃ t k, Step settings registry s (attempt 130 "iris" "secret") t ∧ k = 271 ∧
          retryAfterOf (answer settings registry s.database (attempt 130 "iris" "secret")).2 = some k ∧
            retryAfterOf (answer settings registry t.database (attempt 401 "iris" "secret")).2 =
              none := by
  have done : (([attempt 100 "iris" "wrong"].foldlM performNamed start).bind fun s =>
      (perform s (attempt 130 "iris" "secret")).map fun _ =>
        decide (s.log.length = 1) && decide (retryAfterOf (answer settings registry s.database
          (attempt 130 "iris" "secret")).2 = some 271)) = some true := by
    decide +kernel
  have ⟨s, performed, rest⟩ := Option.bind_eq_some_iff.1 done
  have ⟨t, next, checks⟩ := Option.map_eq_some_iff.1 rest
  have ⟨logged, refused⟩ := Bool.and_eq_true_iff.1 checks
  have run := Run.foldlM (fun _ _ _ => performNamed_step) .refl performed
  have step := perform_step next
  have ⟨bounded, waited⟩ := run_locked positive start_initial run
  have late : (attempt 130 "iris" "secret").drawn.now + seconds 271 ≤
      (attempt 401 "iris" "secret").drawn.now := by
    decide
  exact ⟨_, s, run, of_decide_eq_true logged, bounded, t, 271, step, rfl,
    of_decide_eq_true refused, waited _ t 271 step (of_decide_eq_true refused) [] t .refl
      (attempt 401 "iris" "secret") rfl late⟩

open LockoutSample in
/-- The dotless letter is the upper case of the account's letters, and stays itself when it is
folded: four passwords are compared where two are allowed. -/
theorem not_locked_by_spelling :
    ∃ labels s, Run (Step settings registry) start labels s ∧ Positive settings ∧ Initial start ∧
      ¬Bounded settings iris.id s.log := by
  have done : (([attempt 100 "iris" "a", attempt 100 "ıris" "b", attempt 100 "irıs" "c",
      attempt 100 "ırıs" "d"].foldlM perform start).map fun s =>
        decide (s.log.countP (Tries iris.id (seconds 100) (windowLength settings)) = 4) &&
          s.log.all (!·.success)) = some true := by
    decide +kernel
  have ⟨s, performed, checks⟩ := Option.map_eq_some_iff.1 done
  have ⟨four, failed⟩ := Bool.and_eq_true_iff.1 checks
  have run := Run.foldlM (fun _ _ _ => perform_step) .refl performed
  refine ⟨_, s, run, positive, start_initial, fun bounded => ?_⟩
  have two := bounded (seconds 100) fun c mem _ success => by
    have failure := List.all_eq_true.1 failed c mem
    rw [success] at failure
    cases failure
  rw [of_decide_eq_true four] at two
  exact absurd two (by decide)

end WaterCare.Runtime.Lockout
