import WaterCare.Machine.Run
import WaterCare.Service.P1AuthService

/-!
Runs of requests for codes. The bucket of a request is the one of its purpose and fingerprint:
it counts the challenges of its window, and knows the time of the last one.
-/

namespace WaterCare.Runtime.Throttle
open Machine Store Service
open P1Auth P1AuthService

structure Request where
  drawn : Drawn
  purpose : Purpose
  identity : Identity
  key : String

/-- A challenge, with the time and the bucket window of its creation. -/
structure Creation where
  challenge : OtpChallenge
  at_ : Instant
  window : Instant

structure State where
  database : AuthDatabase
  clock : Instant
  created : List Creation

/-- The challenge by which the tables have grown. -/
def grown (before after : AuthDatabase) (now : Instant) : List Creation :=
  if after.nextId = before.nextId then []
  else
    match after.challenges.getLast? with
    | none => []
    | some challenge =>
        [⟨challenge, now, ((after.buckets challenge.purpose challenge.requestFingerprintHmac).map
          (·.windowStartedAt)).getD 0⟩]

section
variable (settings : AuthSettings) (registry : Registry)

def answer (db : AuthDatabase) (r : Request) : AuthDatabase × Except Refusal ChallengeData :=
  createChallenge settings registry r.drawn db r.purpose r.identity r.key

/-- An admissible request at a time that is not over yet. -/
def Step (s : State) (r : Request) (t : State) : Prop :=
  admits r.purpose r.identity = true ∧ s.clock ≤ r.drawn.now ∧
    t = ⟨(answer settings registry s.database r).1, r.drawn.now, s.created ++
      grown s.database (answer settings registry s.database r).1 r.drawn.now⟩

/-- Nothing was asked for yet. -/
structure Initial (s : State) : Prop where
  buckets : ∀ purpose fingerprint, s.database.buckets purpose fingerprint = none
  challenges : s.database.challenges = []
  created : s.created = []

structure Positive : Prop where
  resend : 0 < settings.otpResendSeconds
  window : 0 < settings.challengeWindowHours
  perWindow : 0 < settings.challengeMaxPerWindow

/-! ### One request -/

def fingerprintOf (r : Request) : String := identityFingerprint settings r.identity

def bucketOf (db : AuthDatabase) (r : Request) : ChallengeRateBucket :=
  bucketFor settings db r.drawn.now r.purpose (fingerprintOf settings r)

def windowLength : Nat := seconds (settings.challengeWindowHours * 3600)

def resendLength : Nat := seconds settings.otpResendSeconds

/-- The challenge that a request creates, under the digest of its key. -/
def challengeFor (db : AuthDatabase) (r : Request) (hmac : String) : OtpChallenge :=
  draft settings registry r.drawn db r.purpose r.identity hmac

end

section
variable {settings : AuthSettings} {registry : Registry}

/-- A request leaves the tables, or its bucket lets it create a challenge. -/
inductive Answered (settings : AuthSettings) (registry : Registry) (db : AuthDatabase)
    (r : Request) : AuthDatabase → Prop
  | unchanged : Answered settings registry db r db
  | created {hmac : String}
      (free : refusal settings r.drawn.now (bucketOf settings db r) = none) :
      Answered settings registry db r
        (insertNew settings r.drawn db (challengeFor settings registry db r hmac)
          (bucketOf settings db r))

section
variable {o : Drawn} {db : AuthDatabase} {purpose : Purpose} {identity : Identity} {hmac : String}

theorem createNew_refused {k : Nat}
    (refused : refusal settings o.now
      (bucketFor settings db o.now purpose (identityFingerprint settings identity)) = some k) :
    createNew settings registry o db purpose identity hmac =
      (db, .error (.backend (tooManyRequests k))) := by
  unfold createNew
  dsimp only
  rw [refused]

theorem createNew_free
    (free : refusal settings o.now
      (bucketFor settings db o.now purpose (identityFingerprint settings identity)) = none) :
    createNew settings registry o db purpose identity hmac =
      if challengeIsClean registry (draft settings registry o db purpose identity hmac) then
        (insertNew settings o db (draft settings registry o db purpose identity hmac)
            (bucketFor settings db o.now purpose (identityFingerprint settings identity)),
          .ok (challengeData settings (draft settings registry o db purpose identity hmac)))
      else (db, .error .validation) := by
  unfold createNew
  dsimp only
  rw [free]

end

theorem answer_ok (db : AuthDatabase) (r : Request) :
    Answered settings registry db r (answer settings registry db r).1 := by
  unfold answer createChallenge
  split
  · exact .unchanged
  · split
    · exact .unchanged
    · cases free : refusal settings r.drawn.now
          (bucketFor settings db r.drawn.now r.purpose (identityFingerprint settings r.identity)) with
      | some k =>
        rw [createNew_refused free]
        exact .unchanged
      | none =>
        rw [createNew_free free]
        split
        · exact .created free
        · exact .unchanged

/-- The bucket refuses nothing: its last request is old enough, and it is not full. -/
theorem refusal_none {now : Instant} {bucket : ChallengeRateBucket}
    (free : refusal settings now bucket = none) :
    (∀ last, bucket.lastRequestedAt = some last → last + resendLength settings ≤ now) ∧
      bucket.requestCount < settings.challengeMaxPerWindow := by
  unfold refusal at free
  split at free
  · rename_i last is
    split at free
    · cases free
    · rename_i late
      split at free
      · cases free
      · rename_i below
        refine ⟨fun other is' => ?_, Nat.lt_of_not_le below⟩
        cases is.symm.trans is'
        exact Nat.le_of_not_lt late
  · rename_i is
    split at free
    · cases free
    · rename_i below
      refine ⟨fun other is' => ?_, Nat.lt_of_not_le below⟩
      cases is.symm.trans is'

/-- The bucket of a request: the saved one, or one whose window begins now. -/
theorem bucketFor_cases (db : AuthDatabase) (now : Instant) (purpose : Purpose)
    (fingerprint : String) :
    (bucketFor settings db now purpose fingerprint = ⟨now, 0, none⟩ ∧
      ∀ saved, db.buckets purpose fingerprint = some saved →
        saved.windowStartedAt + windowLength settings ≤ now) ∨
    ∃ saved, db.buckets purpose fingerprint = some saved ∧
      now < saved.windowStartedAt + windowLength settings ∧
        bucketFor settings db now purpose fingerprint = saved := by
  unfold bucketFor currentBucket
  cases saved : db.buckets purpose fingerprint with
  | none =>
    left
    refine ⟨?_, nofun⟩
    rw [Option.getD_none]
    split <;> rfl
  | some bucket =>
    rw [Option.getD_some]
    split
    · rename_i elapsed
      left
      refine ⟨rfl, fun other is => ?_⟩
      cases is
      exact elapsed
    · rename_i open_
      exact .inr ⟨bucket, rfl, Nat.lt_of_not_le open_, rfl⟩

/-! ### What holds of each bucket -/

/-- The creation counts in the bucket. -/
def Of (purpose : Purpose) (fingerprint : String) (c : Creation) : Prop :=
  c.challenge.purpose = purpose ∧ c.challenge.requestFingerprintHmac = fingerprint

instance (purpose : Purpose) (fingerprint : String) (c : Creation) :
    Decidable (Of purpose fingerprint c) := inferInstanceAs (Decidable (_ ∧ _))

/-- The creations of a bucket in one of its windows. -/
def inWindow (s : State) (purpose : Purpose) (fingerprint : String) (window : Instant) :
    List Creation :=
  s.created.filter fun c => decide (Of purpose fingerprint c ∧ c.window = window)

/-- Two creations of one bucket, the first of them before the second. -/
structure Apart (settings : AuthSettings) (c c' : Creation) : Prop where
  ordered : c.at_ ≤ c'.at_
  spaced : c.window = c'.window → c.at_ + resendLength settings ≤ c'.at_
  windows : c.window ≠ c'.window → c.window + windowLength settings ≤ c'.window

/-- A saved bucket tells of the creations in its window. -/
structure Tells (settings : AuthSettings) (s : State) (purpose : Purpose) (fingerprint : String)
    (bucket : ChallengeRateBucket) : Prop where
  started : bucket.windowStartedAt ≤ s.clock
  windows : ∀ c ∈ s.created, Of purpose fingerprint c → c.window = bucket.windowStartedAt ∨
    c.window + windowLength settings ≤ bucket.windowStartedAt
  count : (inWindow s purpose fingerprint bucket.windowStartedAt).length = bucket.requestCount
  last : ∃ last, bucket.lastRequestedAt = some last ∧
    ∀ c ∈ s.created, Of purpose fingerprint c → c.at_ ≤ last

/-- What holds between the requests of a run. -/
structure Sound (settings : AuthSettings) (s : State) : Prop where
  saved : ∀ purpose fingerprint bucket, s.database.buckets purpose fingerprint = some bucket →
    Tells settings s purpose fingerprint bucket
  unsaved : ∀ purpose fingerprint, s.database.buckets purpose fingerprint = none →
    ∀ c ∈ s.created, ¬Of purpose fingerprint c
  within : ∀ c ∈ s.created, c.window ≤ c.at_ ∧ c.at_ < c.window + windowLength settings
  past : ∀ c ∈ s.created, c.at_ ≤ s.clock
  apart : s.created.Pairwise fun c c' =>
    c.challenge.purpose = c'.challenge.purpose →
      c.challenge.requestFingerprintHmac = c'.challenge.requestFingerprintHmac →
        Apart settings c c'
  full : ∀ purpose fingerprint window,
    (inWindow s purpose fingerprint window).length ≤ settings.challengeMaxPerWindow
  single : ∀ purpose fingerprint, (s.database.challenges.filter fun row =>
    decide (row.purpose = purpose ∧ row.requestFingerprintHmac = fingerprint ∧
      row.consumedAt = none)).length ≤ 1

/-! ### One step -/

section
variable {s t : State} {r : Request} {hmac : String}

theorem windowLength_pos (positive : Positive settings) : 0 < windowLength settings := by
  have window := positive.window
  unfold windowLength seconds
  omega

/-- What the bucket of a request tells of the creations before it. -/
structure Leaves (settings : AuthSettings) (s : State) (r : Request) (bucket : ChallengeRateBucket) :
    Prop where
  open_ : bucket.windowStartedAt ≤ r.drawn.now ∧
    r.drawn.now < bucket.windowStartedAt + windowLength settings
  windows : ∀ c ∈ s.created, Of r.purpose (fingerprintOf settings r) c →
    c.window = bucket.windowStartedAt ∨
      c.window + windowLength settings ≤ bucket.windowStartedAt
  count : (inWindow s r.purpose (fingerprintOf settings r) bucket.windowStartedAt).length =
    bucket.requestCount
  spaced : ∀ c ∈ s.created, Of r.purpose (fingerprintOf settings r) c →
    c.window = bucket.windowStartedAt → c.at_ + resendLength settings ≤ r.drawn.now

theorem Sound.leaves (sound : Sound settings s) (positive : Positive settings)
    (later : s.clock ≤ r.drawn.now)
    (free : refusal settings r.drawn.now (bucketOf settings s.database r) = none) :
    Leaves settings s r (bucketOf settings s.database r) := by
  have length := windowLength_pos positive
  have old := refusal_none free
  have cases_ := @bucketFor_cases settings s.database r.drawn.now r.purpose
    (fingerprintOf settings r)
  cases cases_ with
  | inl fresh =>
    have ⟨is, elapsed⟩ := fresh
    have is : bucketOf settings s.database r = ⟨r.drawn.now, 0, none⟩ := is
    have before : ∀ c ∈ s.created, Of r.purpose (fingerprintOf settings r) c →
        c.window + windowLength settings ≤ r.drawn.now := by
      intro c mem its
      cases saved : s.database.buckets r.purpose (fingerprintOf settings r) with
      | none => exact absurd its (sound.unsaved _ _ saved c mem)
      | some bucket =>
        have ended := elapsed bucket saved
        cases (sound.saved _ _ bucket saved).windows c mem its with
        | inl same => rwa [same]
        | inr earlier =>
          exact Nat.le_trans earlier (Nat.le_trans (Nat.le_add_right _ _) ended)
    have none_now : ∀ c ∈ s.created, Of r.purpose (fingerprintOf settings r) c →
        c.window ≠ r.drawn.now := by
      intro c mem its same
      have ended := before c mem its
      rw [same] at ended
      exact absurd ended (Nat.not_le_of_lt (Nat.lt_add_of_pos_right length))
    rw [is]
    refine ⟨⟨Nat.le_refl _, Nat.lt_add_of_pos_right length⟩,
      fun c mem its => .inr (before c mem its), ?_, fun c mem its same => ?_⟩
    · refine List.length_eq_zero_iff.2 (List.filter_eq_nil_iff.2 fun c mem => ?_)
      rw [decide_eq_true_eq]
      intro ⟨its, same⟩
      exact none_now c mem its same
    · exact absurd same (none_now c mem its)
  | inr kept =>
    have ⟨saved, there, open_, is⟩ := kept
    have is : bucketOf settings s.database r = saved := is
    rw [is] at old ⊢
    have tells := sound.saved _ _ saved there
    refine ⟨⟨Nat.le_trans tells.started later, open_⟩, tells.windows, tells.count,
      fun c mem its _ => ?_⟩
    have ⟨last, known, le⟩ := tells.last
    exact Nat.le_trans (Nat.add_le_add_right (le c mem its) _) (old.1 last known)

theorem grown_insert (o : Drawn) (db : AuthDatabase) (challenge : OtpChallenge)
    (bucket : ChallengeRateBucket) :
    grown db (insertNew settings o db challenge bucket) o.now =
      [⟨challenge, o.now, bucket.windowStartedAt⟩] := by
  have next : (insertNew settings o db challenge bucket).nextId ≠ db.nextId :=
    Nat.succ_ne_self db.nextId
  unfold grown
  rw [if_neg next]
  unfold insertNew
  simp

theorem inWindow_other {c : Creation} (created : t.created = s.created ++ [c]) {purpose : Purpose}
    {fingerprint : String} {window : Instant}
    (other : ¬(Of purpose fingerprint c ∧ c.window = window)) :
    inWindow t purpose fingerprint window = inWindow s purpose fingerprint window := by
  unfold inWindow
  rw [created, List.filter_append, List.filter_singleton, decide_eq_false other]
  simp

theorem inWindow_own {c : Creation} (created : t.created = s.created ++ [c]) {purpose : Purpose}
    {fingerprint : String} {window : Instant}
    (own : Of purpose fingerprint c ∧ c.window = window) :
    (inWindow t purpose fingerprint window).length =
      (inWindow s purpose fingerprint window).length + 1 := by
  unfold inWindow
  rw [created, List.filter_append, List.filter_singleton, decide_eq_true own]
  simp

/-- A request that leaves the tables. -/
theorem Sound.wait (sound : Sound settings s) {now : Instant} (later : s.clock ≤ now) :
    Sound settings ⟨s.database, now, s.created⟩ where
  saved purpose fingerprint bucket there := by
    have tells := sound.saved purpose fingerprint bucket there
    exact ⟨Nat.le_trans tells.started later, tells.windows, tells.count, tells.last⟩
  unsaved := sound.unsaved
  within := sound.within
  past c mem := Nat.le_trans (sound.past c mem) later
  apart := sound.apart
  full := sound.full
  single := sound.single

/-- The rows that are open after a new one has consumed the older ones of its bucket. -/
theorem single_insert {rows : List OtpChallenge} {challenge : OtpChallenge} {now : Instant}
    (single : ∀ purpose fingerprint, (rows.filter fun row =>
      decide (row.purpose = purpose ∧ row.requestFingerprintHmac = fingerprint ∧
        row.consumedAt = none)).length ≤ 1) (purpose : Purpose) (fingerprint : String) :
    ((rows.map (consumeOpen challenge.purpose challenge.requestFingerprintHmac now) ++
      [challenge]).filter fun row => decide (row.purpose = purpose ∧
        row.requestFingerprintHmac = fingerprint ∧ row.consumedAt = none)).length ≤ 1 := by
  have consumed (row : OtpChallenge) :
      (consumeOpen challenge.purpose challenge.requestFingerprintHmac now row).purpose = row.purpose ∧
        (consumeOpen challenge.purpose challenge.requestFingerprintHmac now row).requestFingerprintHmac =
          row.requestFingerprintHmac := by
    unfold consumeOpen
    split <;> exact ⟨rfl, rfl⟩
  rw [List.filter_append, List.length_append, List.filter_map, List.length_map]
  by_cases own : challenge.purpose = purpose ∧ challenge.requestFingerprintHmac = fingerprint
  · have none_left : rows.filter ((fun row => decide (row.purpose = purpose ∧
        row.requestFingerprintHmac = fingerprint ∧ row.consumedAt = none)) ∘
          consumeOpen challenge.purpose challenge.requestFingerprintHmac now) = [] := by
      refine List.filter_eq_nil_iff.2 fun row _ => ?_
      rw [Function.comp_apply, decide_eq_true_eq, (consumed row).1, (consumed row).2]
      intro ⟨same, same', open_⟩
      unfold consumeOpen at open_
      split at open_
      · cases open_
      · rename_i other
        refine other ⟨same.trans own.1.symm, same'.trans own.2.symm, ?_⟩
        rw [open_]
        rfl
    rw [none_left, List.length_nil, Nat.zero_add]
    exact List.length_filter_le _ _
  · have last : [challenge].filter (fun row => decide (row.purpose = purpose ∧
        row.requestFingerprintHmac = fingerprint ∧ row.consumedAt = none)) = [] := by
      rw [List.filter_singleton, decide_eq_false fun is => own ⟨is.1, is.2.1⟩]
      rfl
    have same : rows.filter ((fun row => decide (row.purpose = purpose ∧
        row.requestFingerprintHmac = fingerprint ∧ row.consumedAt = none)) ∘
          consumeOpen challenge.purpose challenge.requestFingerprintHmac now) =
        rows.filter fun row => decide (row.purpose = purpose ∧
          row.requestFingerprintHmac = fingerprint ∧ row.consumedAt = none) := by
      refine List.filter_congr fun row _ => ?_
      rw [Function.comp_apply, decide_eq_decide]
      unfold consumeOpen
      split
      · rename_i its
        constructor
        · intro is
          exact nomatch is.2.2
        · intro is
          exact absurd ⟨its.1.symm.trans is.1, its.2.1.symm.trans is.2.1⟩ own
      · exact .rfl
    rw [last, same, List.length_nil, Nat.add_zero]
    exact single purpose fingerprint

/-- The bucket a challenge is counted in. -/
def counted (bucket : ChallengeRateBucket) (now : Instant) : ChallengeRateBucket :=
  { bucket with requestCount := bucket.requestCount + 1, lastRequestedAt := some now }

theorem buckets_insert (o : Drawn) (db : AuthDatabase) (challenge : OtpChallenge)
    (bucket : ChallengeRateBucket) (purpose : Purpose) (fingerprint : String) :
    (insertNew settings o db challenge bucket).buckets purpose fingerprint =
      if challenge.purpose = purpose ∧ challenge.requestFingerprintHmac = fingerprint then
        some (counted bucket o.now)
      else db.buckets purpose fingerprint := by
  unfold insertNew counted
  dsimp only
  by_cases same : challenge.purpose = purpose
  · rw [same, Function.update_self]
    by_cases same' : challenge.requestFingerprintHmac = fingerprint
    · rw [same', Function.update_self, if_pos ⟨rfl, rfl⟩]
    · rw [Function.update_of_ne (Ne.symm same'), if_neg fun is => same' is.2]
  · rw [Function.update_of_ne (Ne.symm same), if_neg fun is => same is.1]

/-- A request that creates a challenge. -/
theorem Sound.create (sound : Sound settings s) (positive : Positive settings)
    (later : s.clock ≤ r.drawn.now)
    (free : refusal settings r.drawn.now (bucketOf settings s.database r) = none)
    {challenge : OtpChallenge} (purpose_ : challenge.purpose = r.purpose)
    (fingerprint_ : challenge.requestFingerprintHmac = fingerprintOf settings r) :
    Sound settings
      ⟨insertNew settings r.drawn s.database challenge (bucketOf settings s.database r),
        r.drawn.now, s.created ++
          [⟨challenge, r.drawn.now, (bucketOf settings s.database r).windowStartedAt⟩]⟩ := by
  have leaves := sound.leaves positive later free
  have below := (refusal_none free).2
  generalize bucketOf settings s.database r = bucket at leaves below
  have ⟨open_, windows, count, spaced⟩ := leaves
  rw [← purpose_, ← fingerprint_] at windows count spaced
  have own : Of challenge.purpose challenge.requestFingerprintHmac
      ⟨challenge, r.drawn.now, bucket.windowStartedAt⟩ := ⟨rfl, rfl⟩
  refine ⟨fun purpose fingerprint saved put => ?_, fun purpose fingerprint put => ?_,
    fun c mem => ?_, fun c mem => ?_, ?_, fun purpose fingerprint window => ?_, ?_⟩
  · have there : (if challenge.purpose = purpose ∧
          challenge.requestFingerprintHmac = fingerprint then some (counted bucket r.drawn.now)
        else s.database.buckets purpose fingerprint) = some saved :=
      (buckets_insert r.drawn s.database challenge bucket purpose fingerprint).symm.trans put
    split at there
    · rename_i same
      have ⟨same, same'⟩ := same
      subst same same'
      have is : counted bucket r.drawn.now = saved := Option.some.inj there
      rw [← is]
      refine ⟨open_.1, fun c mem its => ?_, ?_, r.drawn.now, rfl, fun c mem _ => ?_⟩
      · cases List.mem_append.1 mem with
        | inl old => exact windows c old its
        | inr new => exact .inl (by rw [List.mem_singleton.1 new]; rfl)
      · refine (inWindow_own rfl ⟨own, rfl⟩).trans ?_
        exact congrArg (· + 1) count
      · cases List.mem_append.1 mem with
        | inl old => exact Nat.le_trans (sound.past c old) later
        | inr new => exact Nat.le_of_eq (by rw [List.mem_singleton.1 new])
    · rename_i other
      have tells := sound.saved purpose fingerprint saved there
      have ⟨last, known, le⟩ := tells.last
      have old {c : Creation} (mem : c ∈ s.created ++
          [⟨challenge, r.drawn.now, bucket.windowStartedAt⟩]) (its : Of purpose fingerprint c) :
          c ∈ s.created := by
        cases List.mem_append.1 mem with
        | inl old => exact old
        | inr new =>
          rw [List.mem_singleton.1 new] at its
          exact absurd its other
      refine ⟨Nat.le_trans tells.started later, fun c mem its => tells.windows c (old mem its) its,
        ?_, last, known, fun c mem its => le c (old mem its) its⟩
      refine (congrArg List.length (@inWindow_other s _ ⟨challenge, r.drawn.now,
        bucket.windowStartedAt⟩ rfl purpose fingerprint saved.windowStartedAt ?_)).trans tells.count
      exact fun is => other is.1
  · have there : (if challenge.purpose = purpose ∧
          challenge.requestFingerprintHmac = fingerprint then some (counted bucket r.drawn.now)
        else s.database.buckets purpose fingerprint) = none :=
      (buckets_insert r.drawn s.database challenge bucket purpose fingerprint).symm.trans put
    split at there
    · cases there
    · rename_i other
      intro c mem its
      cases List.mem_append.1 mem with
      | inl old => exact sound.unsaved purpose fingerprint there c old its
      | inr new =>
        rw [List.mem_singleton.1 new] at its
        exact other its
  · cases List.mem_append.1 mem with
    | inl old => exact sound.within c old
    | inr new =>
      rw [List.mem_singleton.1 new]
      exact open_
  · cases List.mem_append.1 mem with
    | inl old => exact Nat.le_trans (sound.past c old) later
    | inr new => exact Nat.le_of_eq (by rw [List.mem_singleton.1 new])
  · refine List.pairwise_append.2 ⟨sound.apart, List.pairwise_singleton _ _, fun c mem c' new => ?_⟩
    rw [List.mem_singleton.1 new]
    intro same same'
    exact ⟨Nat.le_trans (sound.past c mem) later, spaced c mem ⟨same, same'⟩,
      (windows c mem ⟨same, same'⟩).resolve_left⟩
  · by_cases same : Of purpose fingerprint ⟨challenge, r.drawn.now, bucket.windowStartedAt⟩ ∧
        bucket.windowStartedAt = window
    · have ⟨⟨is, is'⟩, is''⟩ := same
      subst is is' is''
      refine (inWindow_own rfl ⟨own, rfl⟩).trans_le ?_
      rw [count]
      exact below
    · refine (congrArg List.length (inWindow_other rfl same)).trans_le ?_
      exact sound.full purpose fingerprint window
  · exact single_insert sound.single

theorem Sound.step (sound : Sound settings s) (positive : Positive settings)
    (step : Step settings registry s r t) : Sound settings t := by
  have ⟨_, later, is⟩ := step
  have answered := @answer_ok settings registry s.database r
  rw [is]
  generalize (answer settings registry s.database r).1 = after at answered
  cases answered with
  | unchanged =>
    have none : grown s.database s.database r.drawn.now = [] := if_pos rfl
    rw [none, List.append_nil]
    exact sound.wait later
  | created free =>
    rw [grown_insert]
    exact sound.create positive later free rfl rfl

/-! ### Asking again -/

/-- The `Retry-After` of an answer. -/
def retryAfterOf : Except Refusal ChallengeData → Option Nat
  | .error (.backend error) => error.retryAfter
  | _ => none

theorem refusal_of_retryAfter {db : AuthDatabase} {k : Nat}
    (refused : retryAfterOf (answer settings registry db r).2 = some k) :
    (answer settings registry db r).1 = db ∧
      ∃ j, refusal settings r.drawn.now (bucketOf settings db r) = some j ∧ k = max 1 j := by
  unfold answer createChallenge at refused ⊢
  split at refused
  · cases refused
  · split at refused
    · unfold replayChallenge at refused
      split at refused <;> cases refused
    · cases is : refusal settings r.drawn.now
          (bucketFor settings db r.drawn.now r.purpose (identityFingerprint settings r.identity)) with
      | some j =>
        rw [createNew_refused is] at refused ⊢
        exact ⟨rfl, j, is, (Option.some.inj refused).symm⟩
      | none =>
        rw [createNew_free is] at refused
        split at refused <;> cases refused

/-- A bucket whose window begins now refuses nothing. -/
theorem refusal_fresh (positive : Positive settings) (now started : Instant) :
    refusal settings now ⟨started, 0, none⟩ = none :=
  if_neg (Nat.not_le_of_lt positive.perWindow)

/-- A bucket that refuses says when its last request is old enough, unless it is full. -/
theorem refusal_some {now : Instant} {bucket : ChallengeRateBucket} {j : Nat}
    (refused : refusal settings now bucket = some j)
    (below : bucket.requestCount < settings.challengeMaxPerWindow) :
    ∃ last, bucket.lastRequestedAt = some last ∧
      last + resendLength settings ≤ now + seconds (max 1 j) := by
  unfold refusal at refused
  split at refused
  · rename_i last is
    split at refused
    · refine ⟨last, is, ?_⟩
      rw [← Option.some.inj refused]
      unfold resendRetryAfter resendLength seconds
      generalize last + 1000000 * settings.otpResendSeconds = due
      have enough (due now : Nat) : due ≤ now + 1000000 * max 1 ((due - now) / 1000000 + 1) := by
        omega
      exact enough due now
    · rw [if_neg (Nat.not_le_of_lt below)] at refused
      cases refused
  · rw [if_neg (Nat.not_le_of_lt below)] at refused
    cases refused

theorem refusal_later {now : Instant} {bucket : ChallengeRateBucket}
    (below : bucket.requestCount < settings.challengeMaxPerWindow)
    (old : ∀ last, bucket.lastRequestedAt = some last → last + resendLength settings ≤ now) :
    refusal settings now bucket = none := by
  unfold refusal
  split
  · rename_i last is
    have old : last + seconds settings.otpResendSeconds ≤ now := old last is
    rw [if_neg (Nat.not_lt_of_le old), if_neg (Nat.not_le_of_lt below)]
  · rw [if_neg (Nat.not_le_of_lt below)]

/-- The bucket is not full, or its window is over `k` seconds after the request. -/
def Frees (settings : AuthSettings) (db : AuthDatabase) (r : Request) (k : Nat) : Prop :=
  (bucketOf settings db r).requestCount < settings.challengeMaxPerWindow ∨
    (bucketOf settings db r).windowStartedAt + windowLength settings ≤ r.drawn.now + seconds k

/-- The requests of one bucket. -/
def SameBucket (settings : AuthSettings) (r r' : Request) : Prop :=
  r'.purpose = r.purpose ∧ fingerprintOf settings r' = fingerprintOf settings r

theorem retry_free (positive : Positive settings) {db db' : AuthDatabase} {r' : Request} {k : Nat}
    (refused : retryAfterOf (answer settings registry db r).2 = some k)
    (frees : Frees settings db r k) (same : SameBucket settings r r')
    (kept : db'.buckets r.purpose (fingerprintOf settings r) =
      db.buckets r.purpose (fingerprintOf settings r))
    (late : r.drawn.now + seconds k ≤ r'.drawn.now) :
    refusal settings r'.drawn.now (bucketOf settings db' r') = none := by
  have ⟨_, j, refused, is⟩ := refusal_of_retryAfter refused
  have first := @bucketFor_cases settings db r.drawn.now r.purpose (fingerprintOf settings r)
  have second := @bucketFor_cases settings db' r'.drawn.now r.purpose (fingerprintOf settings r)
  have its : bucketOf settings db' r' =
      bucketFor settings db' r'.drawn.now r.purpose (fingerprintOf settings r) := by
    unfold bucketOf
    rw [same.1, same.2]
  rw [kept] at second
  rw [its]
  cases second with
  | inl fresh => rw [fresh.1]; exact refusal_fresh positive _ _
  | inr there =>
    have ⟨saved, there, open_, is'⟩ := there
    rw [is']
    cases first with
    | inl fresh =>
      have none : refusal settings r.drawn.now (bucketOf settings db r) = none := by
        unfold bucketOf
        rw [fresh.1]
        exact refusal_fresh positive _ _
      rw [none] at refused
      cases refused
    | inr before =>
      have ⟨saved', there', _, own⟩ := before
      have one : saved' = saved := Option.some.inj (there'.symm.trans there)
      have own : bucketOf settings db r = saved := own.trans one
      unfold Frees at frees
      rw [own] at frees refused
      cases frees with
      | inl below =>
        refine refusal_later below fun last known => ?_
        have ⟨last', known', due⟩ := refusal_some refused below
        have same : last' = last := Option.some.inj (known'.symm.trans known)
        rw [same, ← is] at due
        exact Nat.le_trans due late
      | inr elapsed => exact absurd (Nat.le_trans elapsed late) (Nat.not_le_of_lt open_)

theorem Answered.buckets {db after : AuthDatabase} (answered : Answered settings registry db r after)
    {purpose : Purpose} {fingerprint : String}
    (other : ¬(r.purpose = purpose ∧ fingerprintOf settings r = fingerprint)) :
    after.buckets purpose fingerprint = db.buckets purpose fingerprint := by
  cases answered with
  | unchanged => rfl
  | created free => exact (buckets_insert _ _ _ _ _ _).trans (if_neg other)

/-- No request of the bucket is among the labels. -/
theorem run_buckets {labels : List Request} (run : Run (Restrict (fun _ r' =>
    ¬SameBucket settings r r') (Step settings registry)) s labels t) :
    t.database.buckets r.purpose (fingerprintOf settings r) =
      s.database.buckets r.purpose (fingerprintOf settings r) := by
  induction run with
  | refl => rfl
  | snoc _ last ih =>
    have ⟨other, _, _, is⟩ := last
    rw [is]
    exact (Answered.buckets (answer_ok _ _) other).trans ih

/-! ### Runs -/

/-- The challenges of one purpose and fingerprint are spaced and counted in each window, and
at most one of them is open. -/
structure Throttled (settings : AuthSettings) (s : State) : Prop where
  within : ∀ c ∈ s.created, c.window ≤ c.at_ ∧ c.at_ < c.window + windowLength settings
  apart : s.created.Pairwise fun c c' =>
    c.challenge.purpose = c'.challenge.purpose →
      c.challenge.requestFingerprintHmac = c'.challenge.requestFingerprintHmac →
        Apart settings c c'
  full : ∀ purpose fingerprint window,
    (inWindow s purpose fingerprint window).length ≤ settings.challengeMaxPerWindow
  single : ∀ purpose fingerprint, (s.database.challenges.filter fun row =>
    decide (row.purpose = purpose ∧ row.requestFingerprintHmac = fingerprint ∧
      row.consumedAt = none)).length ≤ 1

/-- A refused request that waits, with none of its bucket in between, is not refused again. -/
def Retries (settings : AuthSettings) (registry : Registry) (s : State) : Prop :=
  ∀ r t k, Step settings registry s r t →
    retryAfterOf (answer settings registry s.database r).2 = some k →
      Frees settings s.database r k →
        ∀ labels u, Run (Restrict (fun _ r' => ¬SameBucket settings r r')
          (Step settings registry)) t labels u →
            ∀ r', SameBucket settings r r' → r.drawn.now + seconds k ≤ r'.drawn.now →
              retryAfterOf (answer settings registry u.database r').2 = none

theorem Initial.uncreated (initial : Initial s) (c : Creation) : c ∉ s.created := by
  rw [initial.created]
  exact List.not_mem_nil

theorem Initial.sound (initial : Initial s) : Sound settings s where
  saved purpose fingerprint bucket there :=
    nomatch (initial.buckets purpose fingerprint).symm.trans there
  unsaved _ _ _ c mem := absurd mem (initial.uncreated c)
  within c mem := absurd mem (initial.uncreated c)
  past c mem := absurd mem (initial.uncreated c)
  apart := by rw [initial.created]; exact .nil
  full purpose fingerprint window := by
    unfold inWindow
    rw [initial.created]
    exact Nat.zero_le _
  single purpose fingerprint := by
    rw [initial.challenges]
    exact Nat.zero_le 1

theorem run_sound {start : State} {labels : List Request} (positive : Positive settings)
    (initial : Initial start) (run : Run (Step settings registry) start labels s) :
    Sound settings s :=
  run.invariant (fun _ _ _ sound step => sound.step positive step) initial.sound

theorem run_throttled {start : State} {labels : List Request} (positive : Positive settings)
    (initial : Initial start) (run : Run (Step settings registry) start labels s) :
    Throttled settings s ∧ Retries settings registry s := by
  have sound := run_sound positive initial run
  refine ⟨⟨sound.within, sound.apart, sound.full, sound.single⟩, ?_⟩
  intro r t k step refused frees labels u more r' same late
  have ⟨_, _, is⟩ := step
  have ⟨unchanged, _⟩ := refusal_of_retryAfter refused
  have kept := run_buckets more
  rw [is, unchanged] at kept
  have free := retry_free positive refused frees same kept late
  cases again : retryAfterOf (answer settings registry u.database r').2 with
  | none => rfl
  | some k' =>
    have ⟨_, j, refused', _⟩ := refusal_of_retryAfter again
    rw [free] at refused'
    cases refused'

end

end

/-! ### One customer who asks -/

namespace ThrottleSample

/-- No letter of the requests below changes under a table of Unicode. -/
def unicode : Unicode := ⟨id, id, id⟩

def settings : AuthSettings where
  otpTtlSeconds := 300
  otpResendSeconds := 60
  otpMaxFailures := 5
  ticketTtlSeconds := 600
  challengeWindowHours := 1
  challengeMaxPerWindow := 2
  idempotencyReplayTtlSeconds := 3600
  otpDigest _ _ code := code
  ticketDigest raw := raw
  keyDigest key := key
  loginWindowSeconds := 300
  loginMaxFailures := 5
  unicode := unicode
  fingerprint entries := (entries.head?.map (·.2)).getD ""
  subjectDigest name := name
  lookupHmac email := some email
  checkPassword password stored := decide (password = stored)
  dummyPasswordHash := "!"
  encryptOtp code := code

theorem positive : Positive settings := by
  constructor <;> decide

def registry : Registry where
  users := []
  customers := [⟨⟨1, none, true, none⟩, "c", "n"⟩]
  contacts := [⟨⟨2, 1, true, true, true⟩, "e"⟩]
  subscriptions := [⟨3, "k", 1, "m", .active⟩]
  links := []

def start : State where
  database :=
    { buckets := fun _ _ => none
      challenges := []
      outbox := []
      tickets := []
      loginBuckets := fun _ => none
      loginFailures := []
      nextId := 10 }
  clock := 0
  created := []

theorem start_initial : Initial start := ⟨fun _ _ => rfl, rfl, rfl⟩

def byNumbers : Identity := ⟨some "c", some "k", none, none, none⟩

def byEmail : Identity := ⟨none, none, some "n", some "e", none⟩

def ask (second : Nat) (identity : Identity) (key : String) : Request :=
  ⟨⟨seconds second, "1", "t"⟩, .signup, identity, key⟩

def perform (s : State) (r : Request) : Option State :=
  if admits r.purpose r.identity = true ∧ s.clock ≤ r.drawn.now then
    some ⟨(answer settings registry s.database r).1, r.drawn.now, s.created ++
      grown s.database (answer settings registry s.database r).1 r.drawn.now⟩
  else none

theorem perform_step {s t : State} {r : Request} (performed : perform s r = some t) :
    Step settings registry s r t := by
  unfold perform at performed
  split at performed
  · rename_i here
    exact ⟨here.1, here.2, (Option.some.inj performed).symm⟩
  · cases performed

/-- Two challenges of the first customer are there, and both are open. -/
def bothOpen (s : State) : Bool :=
  match s.created with
  | [c, c'] => decide (c.challenge.purpose = c'.challenge.purpose ∧
      c.challenge.customer = some 1 ∧ c'.challenge.customer = some 1 ∧
        c'.at_ < c.at_ + resendLength settings) &&
          decide ((s.database.challenges.filter fun row => decide (row.customer = some 1 ∧
            row.purpose = .signup ∧ row.consumedAt = none ∧ row.verifiedAt = none)).length = 2)
  | _ => false

end ThrottleSample

open ThrottleSample in
/-- A customer whose second request comes too early, and who waits as long as it says. -/
theorem run_throttled_waiting :
    ∃ s, Run (Step settings registry) start [ask 100 byNumbers "1"] s ∧
      Throttled settings s ∧
        ∃ t k, Step settings registry s (ask 130 byNumbers "2") t ∧
          retryAfterOf (answer settings registry s.database (ask 130 byNumbers "2")).2 = some k ∧
            k = 31 ∧
              retryAfterOf
                (answer settings registry t.database (ask 161 byNumbers "2")).2 = none := by
  have done : (([ask 100 byNumbers "1"].foldlM perform start).bind fun s =>
      (perform s (ask 130 byNumbers "2")).map fun _ =>
        decide (retryAfterOf
          (answer settings registry s.database (ask 130 byNumbers "2")).2 = some 31) &&
          decide ((bucketOf settings s.database (ask 130 byNumbers "2")).requestCount <
            settings.challengeMaxPerWindow)) = some true := by
    decide +kernel
  have ⟨s, performed, rest⟩ := Option.bind_eq_some_iff.1 done
  have ⟨t, next, checks⟩ := Option.map_eq_some_iff.1 rest
  have ⟨refused, below⟩ := Bool.and_eq_true_iff.1 checks
  have run := Run.foldlM (fun _ _ _ => perform_step) .refl performed
  have step := perform_step next
  have ⟨throttled, retries⟩ := run_throttled positive start_initial run
  have late : (ask 130 byNumbers "2").drawn.now + seconds 31 ≤ (ask 161 byNumbers "2").drawn.now := by
    decide
  exact ⟨s, run, throttled, t, 31, step, of_decide_eq_true refused, rfl,
    retries _ t 31 step (of_decide_eq_true refused) (.inl (of_decide_eq_true below)) [] t .refl
      (ask 161 byNumbers "2") ⟨rfl, rfl⟩ late⟩

open ThrottleSample in
/-- One customer is asked about by numbers and by email at once: two challenges are created at
the same time, and both are open. -/
theorem throttled_by_shape :
    ∃ labels s c c', Run (Step settings registry) start labels s ∧ Positive settings ∧
      Initial start ∧ s.created = [c, c'] ∧ c.challenge.purpose = c'.challenge.purpose ∧
        c.challenge.customer = some 1 ∧ c'.challenge.customer = some 1 ∧
          c'.at_ < c.at_ + resendLength settings ∧
            (s.database.challenges.filter fun row => decide (row.customer = some 1 ∧
              row.purpose = .signup ∧ row.consumedAt = none ∧ row.verifiedAt = none)).length = 2 := by
  have done : (([ask 100 byNumbers "1", ask 100 byEmail "2"].foldlM perform start).map
      bothOpen) = some true := by
    decide +kernel
  obtain ⟨s, performed, checks⟩ := Option.map_eq_some_iff.1 done
  have run := Run.foldlM (fun _ _ _ => perform_step) .refl performed
  unfold bothOpen at checks
  split at checks
  · rename_i c c' is
    obtain ⟨first, second⟩ := Bool.and_eq_true_iff.1 checks
    obtain ⟨same, its, its', early⟩ := of_decide_eq_true first
    exact ⟨_, s, c, c', run, positive, start_initial, is, same, its, its', early,
      of_decide_eq_true second⟩
  · cases checks

end WaterCare.Runtime.Throttle
