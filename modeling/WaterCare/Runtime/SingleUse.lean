import WaterCare.Runtime.P1Auth

/-!
Every state of a run of the code and ticket transactions: what the history says of challenges,
tickets, receipts and account links.
-/

namespace WaterCare.Runtime.P1Auth
open Machine Store Py
open Service Service.P1Auth Service.P1Auth.P1AuthTargetService

/-! ### Events -/

def creates (id : Nat) : Event → Bool
  | .challengeCreated challenge _ => decide (challenge.id = id)
  | _ => false

def refuses (id : Nat) : Event → Bool
  | .codeRefused challenge => decide (challenge = id)
  | _ => false

def verifies (id : Nat) : Event → Bool
  | .challengeVerified challenge _ _ => decide (challenge = id)
  | _ => false

def issuesFor (challenge : Nat) : Event → Bool
  | .ticketIssued ticket => decide (ticket.challenge = challenge)
  | _ => false

/-- The event is a commit that the ticket was spent on. -/
def spendsTicket (id : Nat) : Event → Bool
  | .signedUp _ ticket _ _ | .passwordReset _ ticket _ => decide (ticket = id)
  | _ => false

/-- The event is a commit of the operation under the key. -/
def commitsFor (operation : ReceiptOperation) (key : String) : Event → Bool
  | .signedUp used _ _ _ => decide (operation = .signup) && decide (used = key)
  | .passwordReset used _ _ => decide (operation = .passwordReset) && decide (used = key)
  | _ => false

/-- The account and the customer that the event links. -/
def linked : Event → Option (Nat × Nat)
  | .signedUp _ _ customer user => some (user, customer)
  | _ => none

/-- The event is one of a challenge. -/
def ofChallenge : Event → Bool
  | .challengeCreated _ _ | .codeRefused _ | .challengeVerified _ _ _ => true
  | .ticketIssued _ | .signedUp _ _ _ _ | .passwordReset _ _ _ => false

section
variable {p : Event → Bool} {h more : List Event} {e : Event}

theorem countP_none (none : ∀ e ∈ more, p e = false) : (h ++ more).countP p = h.countP p := by
  have new : more.countP p = 0 := List.countP_eq_zero.2 fun e mem => by simp [none e mem]
  rw [List.countP_append, new, Nat.add_zero]

/-- What happens for the first time has happened once. -/
theorem countP_snoc (old : h.countP p ≤ 1) (first : p e = true → ∀ e' ∈ h, p e' = false) :
    (h ++ [e]).countP p ≤ 1 := by
  rw [List.countP_append, List.countP_singleton]
  split
  · rename_i new
    rw [List.countP_eq_zero.2 fun e' mem => by simp [first new e' mem]]
  · exact old

theorem no_more {P : Event → Prop} : ∀ e ∈ ([] : List Event), P e :=
  fun _ mem => absurd mem List.not_mem_nil

theorem mem_snoc {e' : Event} (mem : e' ∈ h ++ [e]) : e' ∈ h ∨ e' = e :=
  (List.mem_append.1 mem).imp_right List.mem_singleton.1

end

/-! ### Challenges -/

/-- What the history says of the challenges. -/
structure Codes (settings : P1Settings) (s : State) : Prop where
  known : ∀ challenge code, .challengeCreated challenge code ∈ s.history →
    challenge.otpDigest = settings.otpDigest challenge.id challenge.purpose code ∧
      ∃ row ∈ s.database.challenges, created row = challenge
  createdOnce : ∀ id, s.history.countP (creates id) ≤ 1
  refusals : ∀ row ∈ s.database.challenges, s.history.countP (refuses row.id) = row.failureCount
  refused : ∀ id, .codeRefused id ∈ s.history → ∃ row ∈ s.database.challenges, row.id = id
  verified : ∀ id code now, .challengeVerified id code now ∈ s.history →
    ∃ challenge code', .challengeCreated challenge code' ∈ s.history ∧ challenge.id = id ∧
      settings.otpDigest id challenge.purpose code = challenge.otpDigest ∧
        now < challenge.expiresAt ∧ s.history.countP (refuses id) < challenge.maxFailures
  closed : ∀ id code now, .challengeVerified id code now ∈ s.history →
    ∀ row ∈ s.database.challenges, row.id = id → row.verifiedAt ≠ none
  verifiedOnce : ∀ id, s.history.countP (verifies id) ≤ 1

namespace Codes
variable {settings : P1Settings} {s t : State} {w : Worker} (codes : Codes settings s)
include codes

/-- Events of tickets say nothing of challenges. -/
theorem frame {more : List Event} (rows : t.database.challenges = s.database.challenges)
    (history : t.history = s.history ++ more) (none : ∀ e ∈ more, ofChallenge e = false) :
    Codes settings t := by
  have old {e : Event} (its : ofChallenge e = true) (mem : e ∈ t.history) : e ∈ s.history := by
    rw [history] at mem
    cases List.mem_append.1 mem with
    | inl old => exact old
    | inr new =>
      rw [none e new] at its
      cases its
  have count {p : Event → Bool} (its : ∀ e, p e = true → ofChallenge e = true) :
      t.history.countP p = s.history.countP p := by
    rw [history]
    refine countP_none fun e mem => Bool.eq_false_iff.2 fun is => ?_
    have other := none e mem
    rw [its e is] at other
    cases other
  have counts (id : Nat) : t.history.countP (creates id) = s.history.countP (creates id) ∧
      t.history.countP (refuses id) = s.history.countP (refuses id) ∧
        t.history.countP (verifies id) = s.history.countP (verifies id) := by
    refine ⟨count fun e is => ?_, count fun e is => ?_, count fun e is => ?_⟩
    all_goals cases e <;> first | rfl | cases is
  refine ⟨fun challenge code mem => ?_, fun id => ?_, fun row mem => ?_, fun id mem => ?_,
    fun id code now mem => ?_, fun id code now mem => ?_, fun id => ?_⟩
  · rw [rows]
    exact codes.known challenge code (old rfl mem)
  · rw [(counts id).1]
    exact codes.createdOnce id
  · rw [(counts row.id).2.1]
    exact codes.refusals row (rows ▸ mem)
  · rw [rows]
    exact codes.refused id (old rfl mem)
  · have ⟨challenge, code', mem', rest⟩ := codes.verified id code now (old rfl mem)
    refine ⟨challenge, code', ?_, ?_⟩
    · rw [history]
      exact List.mem_append_left _ mem'
    · rw [(counts id).2.1]
      exact rest
  · rw [rows]
    exact codes.closed id code now (old rfl mem)
  · rw [(counts id).2.2]
    exact codes.verifiedOnce id

/-- The rows are updated, and nothing is said of it. -/
theorem rows (update : OtpChallenge → OtpChallenge)
    (rows : t.database.challenges = s.database.challenges.map update)
    (history : t.history = s.history)
    (keeps : ∀ row ∈ s.database.challenges, created (update row) = created row)
    (count : ∀ row ∈ s.database.challenges, (update row).failureCount = row.failureCount)
    (closed : ∀ row ∈ s.database.challenges, row.verifiedAt ≠ none →
      (update row).verifiedAt ≠ none) : Codes settings t := by
  have same {row : OtpChallenge} (there : row ∈ s.database.challenges) :
      (update row).id = row.id := by
    have ids : (created (update row)).id = (created row).id := by rw [keeps row there]
    exact ids
  have after {row : OtpChallenge} (there : row ∈ s.database.challenges) :
      update row ∈ t.database.challenges := by
    rw [rows]
    exact List.mem_map_of_mem there
  have before {row : OtpChallenge} (there : row ∈ t.database.challenges) :
      ∃ old ∈ s.database.challenges, update old = row := by
    rw [rows] at there
    exact List.mem_map.1 there
  refine ⟨fun challenge code mem => ?_, fun id => ?_, fun row mem => ?_, fun id mem => ?_,
    fun id code now mem => ?_, fun id code now mem row there named => ?_, fun id => ?_⟩
  · rw [history] at mem
    have ⟨digest, row, there, is⟩ := codes.known challenge code mem
    exact ⟨digest, update row, after there, (keeps row there).trans is⟩
  · rw [history]
    exact codes.createdOnce id
  · have ⟨old, there, is⟩ := before mem
    rw [history, ← is, same there, count old there]
    exact codes.refusals old there
  · rw [history] at mem
    have ⟨row, there, is⟩ := codes.refused id mem
    exact ⟨update row, after there, (same there).trans is⟩
  · rw [history] at mem ⊢
    exact codes.verified id code now mem
  · rw [history] at mem
    have ⟨old, there', is⟩ := before there
    rw [← is] at named ⊢
    exact closed old there'
      (codes.closed id code now mem old there' ((same there').symm.trans named))
  · rw [history]
    exact codes.verifiedOnce id

/-- A challenge without a verification has none in the history. -/
theorem unverified {row : OtpChallenge} (there : row ∈ s.database.challenges)
    (open_ : row.verifiedAt = none) (code : String) (now : Instant) :
    .challengeVerified row.id code now ∉ s.history :=
  fun mem => codes.closed _ code now mem row there rfl open_

/-- The history says nothing of a number that no row has. -/
theorem fresh {id : Nat} (new : ∀ row ∈ s.database.challenges, row.id ≠ id) :
    (∀ e ∈ s.history, creates id e = false) ∧ (∀ e ∈ s.history, refuses id e = false) ∧
      ∀ code now, .challengeVerified id code now ∉ s.history := by
  have uncreated {challenge : OtpChallenge} {code : String}
      (mem : .challengeCreated challenge code ∈ s.history) : challenge.id ≠ id := by
    have ⟨_, row, there, is⟩ := codes.known challenge code mem
    rw [← is]
    exact new row there
  refine ⟨fun e mem => ?_, fun e mem => ?_, fun code now mem => ?_⟩
  · cases e with
    | challengeCreated challenge code => exact decide_eq_false (uncreated mem)
    | codeRefused | challengeVerified | ticketIssued | signedUp | passwordReset => rfl
  · cases e with
    | codeRefused challenge =>
      have ⟨row, there, is⟩ := codes.refused challenge mem
      exact decide_eq_false (is ▸ new row there)
    | challengeCreated | challengeVerified | ticketIssued | signedUp | passwordReset => rfl
  · have ⟨challenge, _, mem', is, _⟩ := codes.verified id code now mem
    exact uncreated mem' is

/-- A new row is inserted. -/
theorem insert {challenge : OtpChallenge} {code : String}
    (rows : t.database.challenges = s.database.challenges ++ [challenge])
    (history : t.history = s.history ++ [.challengeCreated challenge code])
    (new : ∀ row ∈ s.database.challenges, row.id ≠ challenge.id)
    (blank : created challenge = challenge)
    (digest : challenge.otpDigest = settings.otpDigest challenge.id challenge.purpose code) :
    Codes settings t := by
  have ⟨uncreated, unrefused, unverified⟩ := codes.fresh new
  have left {row : OtpChallenge} (there : row ∈ s.database.challenges) :
      row ∈ t.database.challenges := by
    rw [rows]
    exact List.mem_append_left _ there
  have right {row : OtpChallenge} (there : row ∈ t.database.challenges) :
      row ∈ s.database.challenges ∨ row = challenge := by
    rw [rows] at there
    exact (List.mem_append.1 there).imp_right List.mem_singleton.1
  have refusals (id : Nat) : t.history.countP (refuses id) = s.history.countP (refuses id) := by
    rw [history]
    refine countP_none fun e mem => ?_
    rw [List.mem_singleton.1 mem]
    rfl
  refine ⟨fun other code' mem => ?_, fun id => ?_, fun row mem => ?_, fun id mem => ?_,
    fun id code' now mem => ?_, fun id code' now mem row there named => ?_, fun id => ?_⟩
  · rw [history] at mem
    cases mem_snoc mem with
    | inl old =>
      have ⟨its, row, there, is⟩ := codes.known other code' old
      exact ⟨its, row, left there, is⟩
    | inr now =>
      cases now
      refine ⟨digest, challenge, ?_, blank⟩
      rw [rows]
      exact List.mem_append_right _ (.head _)
  · rw [history]
    refine countP_snoc (codes.createdOnce id) fun its e mem => ?_
    have same : challenge.id = id := of_decide_eq_true its
    exact same ▸ uncreated e mem
  · rw [refusals]
    cases right mem with
    | inl old => exact codes.refusals row old
    | inr now =>
      rw [now, List.countP_eq_zero.2 fun e mem => by simp [unrefused e mem]]
      have count : (created challenge).failureCount = challenge.failureCount := by rw [blank]
      exact count
  · rw [history] at mem
    cases mem_snoc mem with
    | inl old =>
      have ⟨row, there, is⟩ := codes.refused id old
      exact ⟨row, left there, is⟩
    | inr now => cases now
  · rw [history] at mem
    cases mem_snoc mem with
    | inl old =>
      have ⟨other, created', mem', rest⟩ := codes.verified id code' now old
      rw [refusals, history]
      exact ⟨other, created', List.mem_append_left _ mem', rest⟩
    | inr now => cases now
  · rw [history] at mem
    cases mem_snoc mem with
    | inl old =>
      cases right there with
      | inl before => exact codes.closed id code' now old row before named
      | inr new' =>
        rw [new'] at named
        rw [← named] at old
        exact absurd old (unverified code' now)
    | inr now => cases now
  · rw [history, countP_none fun e mem => by rw [List.mem_singleton.1 mem]; rfl]
    exact codes.verifiedOnce id

end Codes

/-- The locked row is the only one with its number. -/
theorem Tables.only {s : State} {w : Worker} (tables : Tables s) {row other : OtpChallenge}
    (has : HasChallenge s w row) (there : other ∈ s.database.challenges)
    (same : other.id = row.id) : other = row :=
  List.inj_on_of_nodup_map tables.ids there has.there same

section
variable {settings : P1Settings} {s t : State} {w : Worker} {row row' : OtpChallenge}

/-- An update of the locked row as a map over the rows. -/
def putting (row' : OtpChallenge) (other : OtpChallenge) : OtpChallenge :=
  if other.id = row'.id then row' else other

theorem putting_ok (tables : Tables s) (has : HasChallenge s w row) {other : OtpChallenge}
    (same : row'.id = row.id) (there : other ∈ s.database.challenges) :
    other = row ∧ putting row' other = row' ∨ other.id ≠ row.id ∧ putting row' other = other := by
  unfold putting
  by_cases own : other.id = row'.id
  · rw [if_pos own]
    exact .inl ⟨tables.only has there (own.trans same), rfl⟩
  · rw [if_neg own]
    exact .inr ⟨fun is => own (is.trans same.symm), rfl⟩

theorem created_putting (tables : Tables s) (has : HasChallenge s w row) {other : OtpChallenge}
    (same : created row' = created row) (there : other ∈ s.database.challenges) :
    created (putting row' other) = created other := by
  have named : (created row').id = (created row).id := by rw [same]
  have named : row'.id = row.id := named
  cases putting_ok tables has named there with
  | inl own => rw [own.2, same, own.1]
  | inr kept => rw [kept.2]

/-- A wrong code is counted in the row. -/
theorem Codes.refuse (codes : Codes settings s) (tables : Tables s) (has : HasChallenge s w row)
    (unverified : row.verifiedAt = none) :
    Codes settings (s.commit
      (putChallenge s.database { row with failureCount := row.failureCount + 1 })
      [.codeRefused row.id]) := by
  have count (id : Nat) : (s.history ++ [Event.codeRefused row.id]).countP (refuses id) =
      s.history.countP (refuses id) + if row.id = id then 1 else 0 := by
    rw [List.countP_append, List.countP_singleton]
    unfold refuses
    simp only [decide_eq_true_eq]
  have cases_ {x : OtpChallenge}
      (there : x ∈ s.database.challenges.map
        (putting { row with failureCount := row.failureCount + 1 })) :
      x ∈ s.database.challenges ∧ x.id ≠ row.id ∨
        x = { row with failureCount := row.failureCount + 1 } :=
    @mem_replaceRow_cases _ OtpChallenge.id _ _ _ there
  have after {x : OtpChallenge} (there : x ∈ s.database.challenges) :
      putting { row with failureCount := row.failureCount + 1 } x ∈
        s.database.challenges.map (putting { row with failureCount := row.failureCount + 1 }) :=
    List.mem_map_of_mem there
  have same {x : OtpChallenge} (there : x ∈ s.database.challenges) :
      created (putting { row with failureCount := row.failureCount + 1 } x) = created x :=
    created_putting tables has rfl there
  have ids {x : OtpChallenge} (there : x ∈ s.database.challenges) :
      (putting { row with failureCount := row.failureCount + 1 } x).id = x.id := by
    have ids := congrArg OtpChallenge.id (same there)
    exact ids
  refine ⟨fun challenge code mem => ?_, fun id => ?_, fun x mem => ?_, fun id mem => ?_,
    fun id code now mem => ?_, fun id code now mem x there named => ?_, fun id => ?_⟩
  · have ⟨digest, x, there, is⟩ := codes.known challenge code ((mem_snoc mem).resolve_right nofun)
    exact ⟨digest, _, after there, (same there).trans is⟩
  · exact (countP_none fun e mem => by rw [List.mem_singleton.1 mem]; rfl).trans_le
      (codes.createdOnce id)
  · refine (count x.id).trans ?_
    cases cases_ mem with
    | inl other => rw [if_neg other.2.symm, Nat.add_zero, codes.refusals x other.1]
    | inr new =>
      rw [new, if_pos rfl]
      exact congrArg (· + 1) (codes.refusals row has.there)
  · cases mem_snoc mem with
    | inl before =>
      have ⟨x, there, is⟩ := codes.refused id before
      exact ⟨_, after there, (ids there).trans is⟩
    | inr now =>
      cases now
      exact ⟨_, after has.there, ids has.there⟩
  · have before := (mem_snoc mem).resolve_right nofun
    have other : row.id ≠ id :=
      fun is => codes.unverified has.there unverified code now (is ▸ before)
    have ⟨challenge, code', mem', named, digest, unexpired, below⟩ := codes.verified id code now before
    refine ⟨challenge, code', List.mem_append_left _ mem', named, digest, unexpired, ?_⟩
    refine (count id).trans_lt ?_
    rwa [if_neg other, Nat.add_zero]
  · have before := (mem_snoc mem).resolve_right nofun
    cases cases_ there with
    | inl other => exact codes.closed id code now before x other.1 named
    | inr new =>
      have is : row.id = id := by rw [← named, new]
      exact absurd (is ▸ before) (codes.unverified has.there unverified code now)
  · exact (countP_none fun e mem => by rw [List.mem_singleton.1 mem]; rfl).trans_le
      (codes.verifiedOnce id)

/-- A verification closes the row. -/
theorem Codes.verify (codes : Codes settings s) (tables : Tables s) (has : HasChallenge s w row)
    {now : Instant} {code : String} (fits : Fits settings row now code) :
    Codes settings (s.commit (putChallenge s.database (verifiedRow row now))
      [.challengeVerified row.id code now]) := by
  have count (id : Nat) : (s.history ++ [Event.challengeVerified row.id code now]).countP (refuses id) =
      s.history.countP (refuses id) := countP_none fun e mem => by rw [List.mem_singleton.1 mem]; rfl
  have cases_ {x : OtpChallenge}
      (there : x ∈ s.database.challenges.map (putting (verifiedRow row now))) :
      x ∈ s.database.challenges ∧ x.id ≠ row.id ∨ x = verifiedRow row now :=
    @mem_replaceRow_cases _ OtpChallenge.id _ _ _ there
  have after {x : OtpChallenge} (there : x ∈ s.database.challenges) :
      putting (verifiedRow row now) x ∈
        s.database.challenges.map (putting (verifiedRow row now)) :=
    List.mem_map_of_mem there
  have same {x : OtpChallenge} (there : x ∈ s.database.challenges) :
      created (putting (verifiedRow row now) x) = created x :=
    created_putting tables has rfl there
  have ids {x : OtpChallenge} (there : x ∈ s.database.challenges) :
      (putting (verifiedRow row now) x).id = x.id := by
    have ids := congrArg OtpChallenge.id (same there)
    exact ids
  refine ⟨fun challenge code' mem => ?_, fun id => ?_, fun x mem => ?_, fun id mem => ?_,
    fun id code' then_ mem => ?_, fun id code' then_ mem x there named => ?_, fun id => ?_⟩
  · have ⟨digest, x, there, is⟩ := codes.known challenge code' ((mem_snoc mem).resolve_right nofun)
    exact ⟨digest, _, after there, (same there).trans is⟩
  · exact (countP_none fun e mem => by rw [List.mem_singleton.1 mem]; rfl).trans_le
      (codes.createdOnce id)
  · refine (count x.id).trans ?_
    cases cases_ mem with
    | inl other => exact codes.refusals x other.1
    | inr new =>
      rw [new]
      exact codes.refusals row has.there
  · have ⟨x, there, is⟩ := codes.refused id ((mem_snoc mem).resolve_right nofun)
    exact ⟨_, after there, (ids there).trans is⟩
  · cases mem_snoc mem with
    | inl before =>
      have ⟨challenge, code'', mem', named, digest, unexpired, below⟩ :=
        codes.verified id code' then_ before
      exact ⟨challenge, code'', List.mem_append_left _ mem', named, digest, unexpired,
        (count id).trans_lt below⟩
    | inr new =>
      cases new
      have ⟨code'', mem'⟩ := tables.created row has.there
      refine ⟨created row, code'', List.mem_append_left _ mem', rfl, fits.digest, fits.unexpired, ?_⟩
      refine (count row.id).trans_lt ?_
      rw [codes.refusals row has.there]
      exact fits.below
  · cases cases_ there with
    | inl other =>
      cases mem_snoc mem with
      | inl before => exact codes.closed id code' then_ before x other.1 named
      | inr new =>
        cases new
        exact absurd named other.2
    | inr new =>
      rw [new]
      exact nofun
  · refine countP_snoc (codes.verifiedOnce id) fun its e mem => ?_
    have is : row.id = id := of_decide_eq_true its
    cases e with
    | challengeVerified other code' then_ =>
      refine decide_eq_false fun same => ?_
      rw [same, ← is] at mem
      exact codes.unverified has.there fits.unverified code' then_ mem
    | challengeCreated | codeRefused | ticketIssued | signedUp | passwordReset => rfl

/-- What the history says of the challenges after a query. -/
theorem Effect.codes (effect : Effect settings s w t) (tables : Tables s)
    (codes : Codes settings s) : Codes settings t := by
  cases effect with
  | quiet => exact codes
  | numbered => exact codes.frame rfl (List.append_nil _).symm no_more
  | counted => exact codes.frame rfl rfl no_more
  | @challenged challenge code bucket now superseded fresh locked =>
    have between : Codes settings
        { s with database := { s.database with
          challenges := s.database.challenges.map (supersede superseded now) } } := by
      refine codes.rows (supersede superseded now) rfl rfl (fun row _ => created_supersede _ _ row)
        (fun row _ => ?_) fun row _ verified => ?_
      · unfold supersede
        split <;> rfl
      · unfold supersede
        split <;> exact verified
    refine between.insert rfl rfl (fun row mem => ?_) fresh.blank fresh.digest
    have ⟨old, there, is⟩ := List.mem_map.1 mem
    rw [← is, supersede_id]
    exact fresh.new old there
  | refused has unverified => exact codes.refuse tables has unverified
  | @abandoned row now has =>
    have ok {x : OtpChallenge} (there : x ∈ s.database.challenges) :=
      @putting_ok _ _ _ { row with consumedAt := some now } tables has x rfl there
    refine codes.rows (putting { row with consumedAt := some now }) rfl (List.append_nil _)
      (fun x there => created_putting tables has rfl there) (fun x there => ?_)
      fun x there verified => ?_
    · cases ok there with
      | inl own => rw [own.2, own.1]
      | inr kept => rw [kept.2]
    · cases ok there with
      | inl own =>
        rw [own.2]
        exact own.1 ▸ verified
      | inr kept => rwa [kept.2]
  | verified has fits => exact codes.verify tables has fits
  | @issued row now code ticket has fits issues =>
    have history : s.history ++ [.challengeVerified row.id code now, .ticketIssued ticket] =
        (s.history ++ [.challengeVerified row.id code now]) ++ [.ticketIssued ticket] := by
      rw [List.append_assoc]
      rfl
    refine (codes.verify tables has fits).frame rfl history fun e mem => ?_
    rw [List.mem_singleton.1 mem]
    rfl
  | signedUp its signing joins recording =>
    refine codes.frame rfl rfl fun e mem => ?_
    rw [List.mem_singleton.1 mem]
    rfl
  | reset its resetting recording =>
    refine codes.frame rfl rfl fun e mem => ?_
    rw [List.mem_singleton.1 mem]
    rfl

end

/-! ### Tickets -/

def ofTicket : Event → Bool
  | .ticketIssued _ | .signedUp _ _ _ _ | .passwordReset _ _ _ => true
  | .challengeCreated _ _ | .codeRefused _ | .challengeVerified _ _ _ => false

/-- The ticket is one of a challenge of the customer. -/
def TicketOf (h : List Event) (id customer : Nat) : Prop :=
  ∃ ticket challenge code, .ticketIssued ticket ∈ h ∧ ticket.id = id ∧
    .challengeCreated challenge code ∈ h ∧ challenge.id = ticket.challenge ∧
      challenge.customer = some customer

/-- What the history says of the tickets. -/
structure TicketBook (s : State) : Prop where
  listed : ∀ row ∈ s.database.tickets, .ticketIssued (unspent row) ∈ s.history
  below : ∀ ticket, .ticketIssued ticket ∈ s.history → ticket.id < s.nextId
  verified : ∀ ticket, .ticketIssued ticket ∈ s.history →
    ∃ code now, .challengeVerified ticket.challenge code now ∈ s.history
  issuedOnce : ∀ challenge, s.history.countP (issuesFor challenge) ≤ 1
  named : ∀ e ∈ s.history, ∀ id, spendsTicket id e = true →
    ∃ ticket, .ticketIssued ticket ∈ s.history ∧ ticket.id = id
  consumed : ∀ e ∈ s.history, ∀ row ∈ s.database.tickets, spendsTicket row.id e = true →
    row.consumedAt ≠ none
  spentOnce : ∀ id, s.history.countP (spendsTicket id) ≤ 1
  signed : ∀ key ticket customer user, .signedUp key ticket customer user ∈ s.history →
    TicketOf s.history ticket customer

theorem TicketOf.mono {h h' : List Event} (sub : ∀ e ∈ h, e ∈ h') {id customer : Nat}
    (its : TicketOf h id customer) : TicketOf h' id customer := by
  have ⟨ticket, challenge, code, mem, named, mem', rest⟩ := its
  exact ⟨ticket, challenge, code, sub _ mem, named, sub _ mem', rest⟩

namespace TicketBook
variable {s t : State} (book : TicketBook s)
include book

/-- Events of challenges say nothing of tickets. -/
theorem frame {more : List Event} (rows : t.database.tickets = s.database.tickets)
    (history : t.history = s.history ++ more) (none : ∀ e ∈ more, ofTicket e = false)
    (below : s.nextId ≤ t.nextId) : TicketBook t := by
  have sub : ∀ e ∈ s.history, e ∈ t.history := by
    intro e mem
    rw [history]
    exact List.mem_append_left _ mem
  have old {e : Event} (its : ofTicket e = true) (mem : e ∈ t.history) : e ∈ s.history := by
    rw [history] at mem
    cases List.mem_append.1 mem with
    | inl old => exact old
    | inr new =>
      rw [none e new] at its
      cases its
  have count {p : Event → Bool} (its : ∀ e, p e = true → ofTicket e = true) :
      t.history.countP p = s.history.countP p := by
    rw [history]
    refine countP_none fun e mem => Bool.eq_false_iff.2 fun is => ?_
    have other := none e mem
    rw [its e is] at other
    cases other
  have spends {e : Event} {id : Nat} (is : spendsTicket id e = true) : ofTicket e = true := by
    cases e <;> first | rfl | cases is
  refine ⟨fun row mem => ?_, fun ticket mem => ?_, fun ticket mem => ?_, fun challenge => ?_,
    fun e mem id is => ?_, fun e mem row there is => ?_, fun id => ?_,
    fun key ticket customer user mem => ?_⟩
  · rw [rows] at mem
    exact sub _ (book.listed row mem)
  · exact Nat.lt_of_lt_of_le (book.below ticket (old rfl mem)) below
  · have ⟨code, now, mem'⟩ := book.verified ticket (old rfl mem)
    exact ⟨code, now, sub _ mem'⟩
  · rw [count fun e is => by cases e <;> first | rfl | cases is]
    exact book.issuedOnce challenge
  · have ⟨ticket, mem', named⟩ := book.named e (old (spends is) mem) id is
    exact ⟨ticket, sub _ mem', named⟩
  · rw [rows] at there
    exact book.consumed e (old (spends is) mem) row there is
  · rw [count fun e is => spends is]
    exact book.spentOnce id
  · exact (book.signed key ticket customer user (old rfl mem)).mono sub

/-- A ticket for a challenge that is verified with it. -/
theorem issue {row : OtpChallenge} {ticket : Ticket} {code : String} {now : Instant}
    (unverified : ∀ code now, .challengeVerified row.id code now ∉ s.history)
    (issues : Issues s row ticket) (rows : t.database.tickets = s.database.tickets ++ [ticket])
    (history : t.history =
      s.history ++ [.challengeVerified row.id code now, .ticketIssued ticket])
    (next : t.nextId = s.nextId + 1) : TicketBook t := by
  have history : t.history =
      (s.history ++ [.challengeVerified row.id code now]) ++ [.ticketIssued ticket] := by
    rw [history, List.append_assoc]
    rfl
  have sub : ∀ e ∈ s.history, e ∈ t.history := by
    intro e mem
    rw [history]
    exact List.mem_append_left _ (List.mem_append_left _ mem)
  have cases_ {e : Event} (mem : e ∈ t.history) :
      e ∈ s.history ∨ e = .challengeVerified row.id code now ∨ e = .ticketIssued ticket := by
    rw [history] at mem
    cases mem_snoc mem with
    | inl before => exact (mem_snoc before).imp_right .inl
    | inr new => exact .inr (.inr new)
  have verified_ : .challengeVerified row.id code now ∈ t.history := by
    rw [history]
    exact List.mem_append_left _ (List.mem_append_right _ (.head _))
  have issued_ : .ticketIssued ticket ∈ t.history := by
    rw [history]
    exact List.mem_append_right _ (.head _)
  have spends {e : Event} {id : Nat} (mem : e ∈ t.history) (is : spendsTicket id e = true) :
      e ∈ s.history := by
    refine (cases_ mem).resolve_right fun new => ?_
    cases new with
    | inl new =>
      rw [new] at is
      cases is
    | inr new =>
      rw [new] at is
      cases is
  refine ⟨fun x mem => ?_, fun x mem => ?_, fun x mem => ?_, fun challenge => ?_,
    fun e mem id is => ?_, fun e mem x there is => ?_, fun id => ?_,
    fun key id customer user mem => ?_⟩
  · rw [rows] at mem
    cases List.mem_append.1 mem with
    | inl old => exact sub _ (book.listed x old)
    | inr new =>
      have blank : unspent ticket = ticket := by
        unfold unspent
        rw [← issues.unconsumed]
      rw [List.mem_singleton.1 new, blank]
      exact issued_
  · rw [next]
    rcases cases_ mem with old | new | new
    · exact Nat.lt_succ_of_lt (book.below x old)
    · cases new
    · cases new
      rw [issues.id]
      exact Nat.lt_succ_self _
  · rcases cases_ mem with old | new | new
    · have ⟨code', now', mem'⟩ := book.verified x old
      exact ⟨code', now', sub _ mem'⟩
    · cases new
    · cases new
      rw [issues.challenge]
      exact ⟨code, now, verified_⟩
  · rw [history]
    refine countP_snoc ?_ fun its e mem => ?_
    · rw [countP_none fun e mem => by rw [List.mem_singleton.1 mem]; rfl]
      exact book.issuedOnce challenge
    · have is : ticket.challenge = challenge := of_decide_eq_true its
      rw [issues.challenge] at is
      cases mem_snoc mem with
      | inl before =>
        cases e with
        | ticketIssued other =>
          refine decide_eq_false fun same => ?_
          have ⟨code', now', mem'⟩ := book.verified other before
          rw [same, ← is] at mem'
          exact unverified code' now' mem'
        | challengeCreated | codeRefused | challengeVerified | signedUp | passwordReset => rfl
      | inr new =>
        rw [new]
        rfl
  · have ⟨other, mem', named⟩ := book.named e (spends mem is) id is
    exact ⟨other, sub _ mem', named⟩
  · rw [rows] at there
    cases List.mem_append.1 there with
    | inl old => exact book.consumed e (spends mem is) x old is
    | inr new =>
      rw [List.mem_singleton.1 new] at is
      have ⟨other, mem', named⟩ := book.named e (spends mem is) ticket.id is
      have below := book.below other mem'
      rw [named, issues.id] at below
      exact absurd below (Nat.lt_irrefl _)
  · rw [history, countP_none fun e mem => by rw [List.mem_singleton.1 mem]; rfl,
      countP_none fun e mem => by rw [List.mem_singleton.1 mem]; rfl]
    exact book.spentOnce id
  · rcases cases_ mem with old | new | new
    · exact (book.signed key id customer user old).mono sub
    · cases new
    · cases new

/-- A commit that a ticket is spent on. -/
theorem spend {w : Worker} {ticket : Ticket} {operation : ReceiptOperation} {now : Instant}
    {e : Event} (spends : Spends s w ticket operation)
    (rows : t.database.tickets = (putTicket s.database { ticket with consumedAt := some now }).tickets)
    (history : t.history = s.history ++ [e]) (next : t.nextId = s.nextId)
    (its : ∀ id, spendsTicket id e = decide (ticket.id = id))
    (signed : ∀ key id customer user, e = .signedUp key id customer user →
      TicketOf s.history id customer) : TicketBook t := by
  have sub : ∀ e ∈ s.history, e ∈ t.history := by
    intro e mem
    rw [history]
    exact List.mem_append_left _ mem
  have cases_ {e' : Event} (mem : e' ∈ t.history) : e' ∈ s.history ∨ e' = e := by
    rw [history] at mem
    exact mem_snoc mem
  have old {e' : Event} (other : ∀ id, spendsTicket id e' = false) (mem : e' ∈ t.history) :
      e' ∈ s.history := by
    refine (cases_ mem).resolve_right fun same => ?_
    have is := its ticket.id
    rw [← same, other, decide_eq_true rfl] at is
    cases is
  have issued_ := book.listed ticket spends.has.there
  refine ⟨fun x mem => ?_, fun x mem => ?_, fun x mem => ?_, fun challenge => ?_,
    fun e' mem id is => ?_, fun e' mem x there is => ?_, fun id => ?_,
    fun key id customer user mem => ?_⟩
  · rw [rows] at mem
    cases mem_replaceRow_cases mem with
    | inl before => exact sub _ (book.listed x before.1)
    | inr new =>
      rw [new]
      exact sub _ issued_
  · rw [next]
    exact book.below x (old (fun _ => rfl) mem)
  · have ⟨code, then_, mem'⟩ := book.verified x (old (fun _ => rfl) mem)
    exact ⟨code, then_, sub _ mem'⟩
  · rw [history]
    refine countP_snoc (book.issuedOnce challenge) fun is => ?_
    have other := its ticket.id
    rw [decide_eq_true rfl] at other
    cases e <;> first | cases is | cases other
  · cases cases_ mem with
    | inl before =>
      have ⟨other, mem', named⟩ := book.named e' before id is
      exact ⟨other, sub _ mem', named⟩
    | inr new =>
      rw [new, its] at is
      exact ⟨_, sub _ issued_, of_decide_eq_true is⟩
  · rw [rows] at there
    cases mem_replaceRow_cases there with
    | inl before =>
      cases cases_ mem with
      | inl earlier => exact book.consumed e' earlier x before.1 is
      | inr new =>
        rw [new, its] at is
        exact absurd (of_decide_eq_true is).symm before.2
    | inr new =>
      rw [new]
      exact nofun
  · rw [history]
    refine countP_snoc (book.spentOnce id) fun is e' mem => Bool.eq_false_iff.2 fun spent => ?_
    rw [its] at is
    rw [← of_decide_eq_true is] at spent
    exact book.consumed e' mem ticket spends.has.there spent spends.unconsumed
  · cases cases_ mem with
    | inl before => exact (book.signed key id customer user before).mono sub
    | inr new => exact (signed key id customer user new.symm).mono sub

end TicketBook

section
variable {settings : P1Settings} {s t : State} {w : Worker}

/-- The ticket of a signup is one of a challenge of the customer. -/
theorem Signing.ticketOf {ticket : Ticket} {customer : Customer} (book : TicketBook s)
    (signing : Signing s w ticket customer) : TicketOf s.history ticket.id customer.id := by
  have ⟨challenge, backs, owner⟩ := signing.challenge
  have ⟨code, mem⟩ := backs.history
  exact ⟨unspent ticket, created challenge, code, book.listed ticket signing.has.there, rfl, mem,
    backs.named, owner⟩

/-- What the history says of the tickets after a query. -/
theorem Effect.book (effect : Effect settings s w t) (codes : Codes settings s)
    (book : TicketBook s) : TicketBook t := by
  have single {e : Event} (none : ofTicket e = false) : ∀ e' ∈ [e], ofTicket e' = false := by
    intro e' mem
    rw [List.mem_singleton.1 mem]
    exact none
  cases effect with
  | quiet => exact book
  | numbered =>
    exact book.frame rfl (List.append_nil _).symm no_more (Nat.le_succ _)
  | counted => exact book.frame rfl rfl no_more (Nat.le_refl _)
  | challenged fresh locked => exact book.frame rfl rfl (single rfl) (Nat.le_refl _)
  | refused has unverified => exact book.frame rfl rfl (single rfl) (Nat.le_refl _)
  | abandoned has => exact book.frame rfl rfl no_more (Nat.le_refl _)
  | verified has fits => exact book.frame rfl rfl (single rfl) (Nat.le_refl _)
  | issued has fits issues =>
    exact book.issue (codes.unverified has.there fits.unverified) issues rfl rfl rfl
  | signedUp its signing joins recording =>
    refine book.spend signing.toSpends rfl rfl rfl (fun _ => rfl) fun key id customer user is => ?_
    cases is
    exact signing.ticketOf book
  | reset its resetting recording =>
    exact book.spend resetting.toSpends rfl rfl rfl (fun _ => rfl) fun _ _ _ _ is => nomatch is

end

/-! ### Receipts and links -/

/-- What the history says of the receipts. -/
structure Receipts (settings : P1Settings) (s : State) : Prop where
  listed : ∀ e ∈ s.history, ∀ operation key, commitsFor operation key e = true →
    s.database.receiptOf operation (settings.keyDigest key) ≠ none
  once : ∀ operation key, s.history.countP (commitsFor operation key) ≤ 1

namespace Receipts
variable {settings : P1Settings} {s t : State} (receipts : Receipts settings s)
include receipts

theorem frame {more : List Event} (rows : t.database.receipts = s.database.receipts)
    (history : t.history = s.history ++ more)
    (none : ∀ e ∈ more, ∀ operation key, commitsFor operation key e = false) :
    Receipts settings t := by
  refine ⟨fun e mem operation key is => ?_, fun operation key => ?_⟩
  · have same : t.database.receiptOf operation (settings.keyDigest key) =
        s.database.receiptOf operation (settings.keyDigest key) := by
      unfold P1Auth.Database.receiptOf
      rw [rows]
    rw [history] at mem
    rw [same]
    cases List.mem_append.1 mem with
    | inl old => exact receipts.listed e old operation key is
    | inr new =>
      rw [none e new operation key] at is
      cases is
  · rw [history, countP_none fun e mem => none e mem operation key]
    exact receipts.once operation key

/-- A commit with a receipt under a key that was free. -/
theorem record {w : Worker} {spending : Spending} {receipt : OperationReceipt} {e : Event}
    (its : w.operation.spending = some spending) (recording : Recording settings s w receipt)
    (rows : t.database.receipts = s.database.receipts ++ [receipt])
    (history : t.history = s.history ++ [e])
    (under : ∀ operation key, commitsFor operation key e = true →
      operation = spending.operation ∧ key = strip spending.idempotencyKey) :
    Receipts settings t := by
  have ⟨other, its', operation', hmac⟩ := recording.key
  cases its.symm.trans its'
  have new := recording.new
  have same (operation : ReceiptOperation) (hmac : String) :
      t.database.receiptOf operation hmac = (s.database.receiptOf operation hmac).or
        (List.find? (fun row => decide (row.operation = operation) &&
          decide (row.idempotencyKeyHmac = hmac)) [receipt]) := by
    unfold P1Auth.Database.receiptOf
    rw [rows, List.find?_append]
  refine ⟨fun e' mem operation key is => ?_, fun operation key => ?_⟩
  · rw [same]
    rw [history] at mem
    cases mem_snoc mem with
    | inl old =>
      have found := receipts.listed e' old operation key is
      exact fun none => found (Option.or_eq_none_iff.1 none).1
    | inr now =>
      rw [now] at is
      have ⟨same, same'⟩ := under operation key is
      intro none
      have missing := (Option.or_eq_none_iff.1 none).2
      rw [List.find?_singleton, operation', hmac, same, same'] at missing
      simp [keyHmac] at missing
  · rw [history]
    refine countP_snoc (receipts.once operation key) fun is e' mem =>
      Bool.eq_false_iff.2 fun before => ?_
    have found := receipts.listed e' mem operation key before
    have ⟨same, same'⟩ := under operation key is
    rw [operation', hmac] at new
    rw [same, same'] at found
    exact found new

end Receipts

/-- What the history says of the account links, with those of the start. -/
structure Links (before : List (Nat × Nat)) (s : State) : Prop where
  accounts : ∀ link ∈ s.database.links, ∃ row, s.database.customers link.customer = some row ∧
    row.user ≠ none
  once : (s.database.links.map (·.customer)).Nodup
  made : s.database.links.map (fun link => (link.user, link.customer)) =
    before ++ s.history.filterMap linked

namespace Links
variable {before : List (Nat × Nat)} {s t : State} (links : Links before s)
include links

theorem frame {more : List Event} (rows : t.database.links = s.database.links)
    (customers : t.database.customers = s.database.customers)
    (history : t.history = s.history ++ more) (none : ∀ e ∈ more, linked e = none) :
    Links before t := by
  refine ⟨fun link mem => ?_, ?_, ?_⟩
  · rw [rows] at mem
    rw [customers]
    exact links.accounts link mem
  · rw [rows]
    exact links.once
  · have nothing : more.filterMap linked = [] := List.filterMap_eq_nil_iff.2 none
    rw [rows, links.made, history, List.filterMap_append, nothing, List.append_nil]

/-- A customer without an account gets one, and the link to it. -/
theorem join {w : Worker} {customer : Customer} {user : Account} {link : CustomerAccountLink}
    {key : String} {ticket : Nat} (has : HasCustomer s w customer) (free : customer.user = none)
    (joins : Joins w customer user link)
    (rows : t.database.links = s.database.links ++ [link])
    (customers : t.database.customers = Function.update s.database.customers customer.id
      (some { customer with user := some user.id }))
    (history : t.history = s.history ++ [.signedUp key ticket customer.id user.id]) :
    Links before t := by
  have unlinked : ∀ other ∈ s.database.links, other.customer ≠ customer.id := by
    intro other mem same
    have ⟨row, there, account⟩ := links.accounts other mem
    rw [same, has.there] at there
    cases there
    exact account free
  refine ⟨fun other mem => ?_, ?_, ?_⟩
  · rw [rows] at mem
    rw [customers]
    cases List.mem_append.1 mem with
    | inl old =>
      rw [Function.update_of_ne (unlinked other old)]
      exact links.accounts other old
    | inr new =>
      rw [List.mem_singleton.1 new, joins.customer, Function.update_self]
      exact ⟨_, rfl, nofun⟩
  · rw [rows, List.map_append]
    refine List.nodup_append.2 ⟨links.once, List.nodup_singleton _, fun id mem other new => ?_⟩
    have ⟨old, there, is⟩ := List.mem_map.1 mem
    rw [List.mem_singleton.1 new, ← is]
    change old.customer ≠ link.customer
    rw [joins.customer]
    exact unlinked old there
  · rw [rows, List.map_append, links.made, history, List.filterMap_append, List.append_assoc]
    refine congrArg (before ++ ·) (congrArg (s.history.filterMap linked ++ ·) ?_)
    change [(link.user, link.customer)] = [(user.id, customer.id)]
    rw [joins.user, joins.customer]

end Links

section
variable {settings : P1Settings} {s t : State} {w : Worker}

theorem Effect.receipts (effect : Effect settings s w t) (receipts : Receipts settings s) :
    Receipts settings t := by
  have single {e : Event} (none : ∀ operation key, commitsFor operation key e = false) :
      ∀ e' ∈ [e], ∀ operation key, commitsFor operation key e' = false := by
    intro e' mem
    rw [List.mem_singleton.1 mem]
    exact none
  cases effect with
  | quiet => exact receipts
  | numbered => exact receipts.frame rfl (List.append_nil _).symm no_more
  | counted => exact receipts.frame rfl rfl no_more
  | challenged fresh locked => exact receipts.frame rfl rfl (single fun _ _ => rfl)
  | refused has unverified => exact receipts.frame rfl rfl (single fun _ _ => rfl)
  | abandoned has => exact receipts.frame rfl rfl no_more
  | verified has fits => exact receipts.frame rfl rfl (single fun _ _ => rfl)
  | issued has fits issues =>
    refine receipts.frame rfl rfl fun e mem => ?_
    rcases List.mem_cons.1 mem with is | mem
    · rw [is]
      exact fun _ _ => rfl
    · rw [List.mem_singleton.1 mem]
      exact fun _ _ => rfl
  | @signedUp o spending ticket customer user link receipt its signing joins recording =>
    refine receipts.record its recording rfl rfl fun operation key is => ?_
    have ⟨same, same'⟩ := Bool.and_eq_true_iff.1 is
    have operation' := signing.operation
    rw [receiptOf_spending its] at operation'
    exact ⟨(of_decide_eq_true same).trans (Option.some.inj operation').symm,
      (of_decide_eq_true same').symm⟩
  | @reset o spending ticket user receipt its resetting recording =>
    refine receipts.record its recording rfl rfl fun operation key is => ?_
    have ⟨same, same'⟩ := Bool.and_eq_true_iff.1 is
    have operation' := resetting.operation
    rw [receiptOf_spending its] at operation'
    exact ⟨(of_decide_eq_true same).trans (Option.some.inj operation').symm,
      (of_decide_eq_true same').symm⟩

theorem Effect.links {before : List (Nat × Nat)} (effect : Effect settings s w t)
    (links : Links before s) : Links before t := by
  have single {e : Event} (none : linked e = none) : ∀ e' ∈ [e], linked e' = .none := by
    intro e' mem
    rw [List.mem_singleton.1 mem]
    exact none
  cases effect with
  | quiet => exact links
  | numbered => exact links.frame rfl rfl (List.append_nil _).symm no_more
  | counted => exact links.frame rfl rfl rfl no_more
  | challenged fresh locked => exact links.frame rfl rfl rfl (single rfl)
  | refused has unverified => exact links.frame rfl rfl rfl (single rfl)
  | abandoned has => exact links.frame rfl rfl rfl no_more
  | verified has fits => exact links.frame rfl rfl rfl (single rfl)
  | issued has fits issues =>
    refine links.frame rfl rfl rfl fun e mem => ?_
    rcases List.mem_cons.1 mem with is | mem
    · rw [is]
      rfl
    · rw [List.mem_singleton.1 mem]
      rfl
  | signedUp its signing joins recording =>
    exact links.join signing.owner signing.free joins rfl rfl rfl
  | reset its resetting recording => exact links.frame rfl rfl rfl (single rfl)

/-! ### Versions -/

/-- The ticket of the reset was issued to the user at the version the user still has. -/
def ResetsCurrent (s : State) (id user : Nat) : Prop :=
  ∃ ticket account, .ticketIssued ticket ∈ s.history ∧ ticket.id = id ∧ ticket.user = some user ∧
    s.database.users user = some account ∧ ticket.authVersionAtIssue = some account.authVersion

/-- The ticket has the version that its user has now. -/
def IssuedCurrent (s : State) (ticket : Ticket) : Prop :=
  ∀ user, ticket.user = some user → ∃ account, s.database.users user = some account ∧
    ticket.authVersionAtIssue = some account.authVersion

/-- What a query adds to the history agrees with the versions before it. -/
structure AddsCurrent (s t : State) : Prop where
  resets : ∀ key id user, .passwordReset key id user ∈ t.history →
    .passwordReset key id user ∈ s.history ∨ ResetsCurrent s id user
  issues : ∀ ticket, .ticketIssued ticket ∈ t.history →
    .ticketIssued ticket ∈ s.history ∨ IssuedCurrent s ticket

theorem addsCurrent_same (same : t.history = s.history) : AddsCurrent s t := by
  refine ⟨fun key id user mem => .inl ?_, fun ticket mem => .inl ?_⟩
  · rwa [same] at mem
  · rwa [same] at mem

theorem addsCurrent_snoc {e : Event} (history : t.history = s.history ++ [e])
    (resets : ∀ key id user, e = .passwordReset key id user → ResetsCurrent s id user)
    (issues : ∀ ticket, e ≠ .ticketIssued ticket) : AddsCurrent s t := by
  refine ⟨fun key id user mem => ?_, fun ticket mem => ?_⟩
  · rw [history] at mem
    exact (mem_snoc mem).imp_right fun is => resets key id user is.symm
  · rw [history] at mem
    exact .inl ((mem_snoc mem).resolve_right fun is => issues ticket is.symm)

theorem Effect.current (effect : Effect settings s w t) (book : TicketBook s) :
    AddsCurrent s t := by
  cases effect with
  | quiet => exact addsCurrent_same rfl
  | numbered => exact addsCurrent_same rfl
  | counted => exact addsCurrent_same (List.append_nil _)
  | challenged fresh locked => exact addsCurrent_snoc rfl nofun nofun
  | refused has unverified => exact addsCurrent_snoc rfl nofun nofun
  | abandoned has => exact addsCurrent_same (List.append_nil _)
  | verified has fits => exact addsCurrent_snoc rfl nofun nofun
  | @issued row now code ticket has fits issues =>
    refine ⟨fun key id user mem => .inl ?_, fun other mem => ?_⟩
    · rcases List.mem_append.1 mem with old | new
      · exact old
      · simp at new
    · rcases List.mem_append.1 mem with old | new
      · exact .inl old
      · have is : other = ticket := by simpa using new
        rw [is]
        exact .inr issues.version
  | signedUp its signing joins recording => exact addsCurrent_snoc rfl nofun nofun
  | @reset o spending ticket user receipt its resetting recording =>
    refine addsCurrent_snoc rfl (fun key id owner is => ?_) nofun
    cases is
    exact ⟨unspent ticket, user, book.listed ticket resetting.has.there, rfl, resetting.named,
      resetting.account.there, resetting.version⟩

end

/-! ### Every state of a run -/

/-- What holds of the tables and the history. -/
structure Books (settings : P1Settings) (before : List (Nat × Nat)) (s : State) : Prop where
  tables : Tables s
  codes : Codes settings s
  book : TicketBook s
  receipts : Receipts settings s
  links : Links before s

/-- What holds between the steps of a run. -/
structure Sound (settings : P1Settings) (before : List (Nat × Nat)) (s : State) : Prop extends
    Books settings before s where
  exclusive : Exclusive Worker.locks s.workers
  holding : ∀ {k : Nat} {w : Worker}, s.workers[k]? = some w → Holding settings s w

section
variable {settings : P1Settings} {before : List (Nat × Nat)} {s t : State} {w : Worker} {k : Nat}

theorem Effect.books (effect : Effect settings s w t) (books : Books settings before s) :
    Books settings before t :=
  ⟨effect.tables books.tables, effect.codes books.tables books.codes,
    effect.book books.codes books.book, effect.receipts books.receipts, effect.links books.links⟩

/-- The workers are nothing that the tables and the history depend on. -/
theorem Books.workers (books : Books settings before s) {workers : List Worker}
    (exclusive : Exclusive Worker.locks workers)
    (holding : ∀ {k : Nat} {w : Worker}, workers[k]? = some w → Holding settings s w) :
    Sound settings before { s with workers := workers } where
  tables := ⟨books.tables.ids, books.tables.below, books.tables.created, books.tables.users,
    books.tables.customers⟩
  codes := books.codes.frame rfl (List.append_nil _).symm no_more
  book := books.book.frame rfl (List.append_nil _).symm no_more (Nat.le_refl _)
  receipts := books.receipts.frame rfl (List.append_nil _).symm no_more
  links := books.links.frame rfl rfl (List.append_nil _).symm no_more
  exclusive := exclusive
  holding {k w} there := by
    have keeps := Keeps.reaches s w w.phase
    have keeps : Keeps s w { s with workers := workers } w :=
      ⟨rfl, keeps.locks, keeps.challenges, keeps.tickets, keeps.receipts, keeps.users,
        keeps.customers, keeps.history, keeps.below⟩
    exact keeps.holding (holding there)

/-- A query. -/
theorem Sound.turn (sound : Sound settings before s) {o : Outside}
    (there : s.workers[k]? = some w)
    (free : available Worker.locks s.workers k (advance settings o s w).2.locks = true) :
    Sound settings before { (advance settings o s w).1 with
      workers := s.workers.set k (advance settings o s w).2 } := by
  have next : Advances settings s w (advance settings o s w) :=
    advance_ok sound.tables (sound.holding there)
  refine (next.effect.books sound.toBooks).workers ?_ fun {j other} found => ?_
  · exact sound.exclusive.set there fun key mem => .inr fun j held => available_holds free mem held
  · rw [List.getElem?_set] at found
    by_cases own : k = j
    · rw [if_pos own] at found
      split at found
      · cases found
        exact next.holding
      · cases found
    · rw [if_neg own] at found
      have apart : ∀ key ∈ other.locks, key ∉ w.locks := fun key mem held =>
        own (sound.exclusive ⟨w, there, held⟩ ⟨other, found, mem⟩)
      exact (next.effect.keeps apart).holding (sound.holding found)

/-- Another service changes a row that nobody has locked. -/
theorem Sound.revise (sound : Sound settings before s) {revision : Revision}
    (free : ∀ key, revision.key = some key → ∀ w ∈ s.workers, key ∉ w.locks)
    (account : revision.keepsAccount s.database) :
    Sound settings before { s with database := revision.apply s.database } := by
  have books : Books settings before { s with database := revision.apply s.database } := by
    refine ⟨?_, ?_, ?_, ?_, ?_⟩
    · have tables := sound.tables
      cases revision with
      | user row => exact ⟨tables.ids, tables.below, tables.created,
          ids_update (fun row : Account => row.id) tables.users row, tables.customers⟩
      | customer row => exact ⟨tables.ids, tables.below, tables.created, tables.users,
          ids_update (fun row : Customer => row.id) tables.customers row⟩
      | contact | subscriptions | revokeLink =>
        exact ⟨tables.ids, tables.below, tables.created, tables.users, tables.customers⟩
    · cases revision <;> exact sound.codes.frame rfl (List.append_nil _).symm no_more
    · cases revision <;>
        exact sound.book.frame rfl (List.append_nil _).symm no_more (Nat.le_refl _)
    · cases revision <;> exact sound.receipts.frame rfl (List.append_nil _).symm no_more
    · have links := sound.links
      cases revision with
      | customer row =>
        refine ⟨fun link mem => ?_, links.once, links.made⟩
        have ⟨old, there, user⟩ := links.accounts link mem
        by_cases own : link.customer = row.id
        · rw [own] at there ⊢
          refine ⟨row, Function.update_self .., ?_⟩
          rw [account old there]
          exact user
        · exact ⟨old, (Function.update_of_ne own ..).trans there, user⟩
      | revokeLink id =>
        have same {β : Type} (f : CustomerAccountLink → β)
            (kept : ∀ link : CustomerAccountLink, f { link with isActive := false } = f link) :
            ((Revision.revokeLink id).apply s.database).links.map f = s.database.links.map f := by
          unfold Revision.apply
          rw [List.map_map]
          refine List.map_congr_left fun link _ => ?_
          change f (if link.id = id then _ else link) = f link
          split
          · exact kept link
          · rfl
        refine ⟨fun link mem => ?_, ?_, ?_⟩
        · have ⟨old, there, is⟩ := List.mem_map.1 mem
          have named : link.customer = old.customer := by
            rw [← is]
            split <;> rfl
          rw [named]
          exact links.accounts old there
        · have kept := same (fun link => link.customer) fun _ => rfl
          exact kept ▸ links.once
        · exact (same (fun link => (link.user, link.customer)) fun _ => rfl).trans links.made
      | user | contact | subscriptions => exact ⟨links.accounts, links.once, links.made⟩
  refine books.workers sound.exclusive fun {k w} there => ?_
  have mem : w ∈ s.workers := List.mem_of_getElem? there
  have keeps := Keeps.reaches s w w.phase
  refine Keeps.holding ?_ (sound.holding there)
  cases revision with
  | user row =>
    refine ⟨rfl, keeps.locks, keeps.challenges, keeps.tickets, keeps.receipts, fun id held => ?_,
      keeps.customers, keeps.history, keeps.below⟩
    refine Function.update_of_ne (fun is => ?_) _ _
    exact free _ rfl w mem (is ▸ held)
  | customer row =>
    refine ⟨rfl, keeps.locks, keeps.challenges, keeps.tickets, keeps.receipts, keeps.users,
      fun id held => ?_, keeps.history, keeps.below⟩
    refine Function.update_of_ne (fun is => ?_) _ _
    exact free _ rfl w mem (is ▸ held)
  | contact | subscriptions | revokeLink =>
    exact ⟨rfl, keeps.locks, keeps.challenges, keeps.tickets, keeps.receipts, keeps.users,
      keeps.customers, keeps.history, keeps.below⟩

/-- One step keeps what holds between the steps. -/
theorem Sound.step (sound : Sound settings before s) {e : Occurrence} (step : Step settings s e t) :
    Sound settings before t := by
  cases e with
  | requested operation =>
    cases step
    refine sound.toBooks.workers (sound.exclusive.append rfl) fun {k w} there => ?_
    rw [List.getElem?_append] at there
    split at there
    · exact sound.holding there
    · rw [List.mem_singleton.1 (List.mem_of_getElem? there)]
      trivial
  | turn k outside =>
    have ⟨w, there, free, is⟩ := step
    rw [is]
    exact sound.turn there free
  | rolledBack k =>
    cases step
    have older {j : Nat} {w : Worker} (there : (s.workers.modify k Worker.ended)[j]? = some w) :
        s.workers[j]? = some w ∨ ∃ before : Worker, w = before.ended := by
      rw [List.getElem?_modify] at there
      have ⟨before, found, is⟩ := Option.map_eq_some_iff.1 there
      split at is
      · exact .inr ⟨before, is.symm⟩
      · exact .inl (is ▸ found)
    refine sound.toBooks.workers (sound.exclusive.of_holds fun held => ?_) fun {j w} there => ?_
    · have ⟨w, there, mem⟩ := held
      cases older there with
      | inl old => exact ⟨w, old, mem⟩
      | inr ended =>
        have ⟨before, is⟩ := ended
        rw [is] at mem
        exact absurd mem List.not_mem_nil
    · cases older there with
      | inl old => exact sound.holding old
      | inr ended =>
        have ⟨before, is⟩ := ended
        rw [is]
        trivial
  | revised revision =>
    have ⟨free, account, is⟩ := step
    rw [is]
    exact sound.revise free account

/-- What one step adds to the history agrees with the versions before it. -/
theorem Sound.current (sound : Sound settings before s) {e : Occurrence}
    (step : Step settings s e t) : AddsCurrent s t := by
  cases e with
  | requested operation =>
    cases step
    exact addsCurrent_same rfl
  | turn k outside =>
    have ⟨w, there, _, is⟩ := step
    have next : Advances settings s w (advance settings outside s w) :=
      advance_ok sound.tables (sound.holding there)
    have current := next.effect.current sound.book
    rw [is]
    exact ⟨current.resets, current.issues⟩
  | rolledBack k =>
    cases step
    exact addsCurrent_same rfl
  | revised revision =>
    have ⟨_, _, is⟩ := step
    rw [is]
    exact addsCurrent_same rfl

theorem initial_sound {start : State} (initial : Initial start) :
    Sound settings (start.database.links.map fun link => (link.user, link.customer)) start where
  tables := by
    refine ⟨?_, ?_, ?_, initial.users, initial.customers⟩
    all_goals rw [initial.challenges]
    · exact .nil
    · exact fun _ mem => absurd mem List.not_mem_nil
    · exact fun _ mem => absurd mem List.not_mem_nil
  codes := by
    refine ⟨?_, ?_, ?_, ?_, ?_, ?_, ?_⟩
    all_goals simp [initial.history, initial.challenges]
  book := by
    refine ⟨?_, ?_, ?_, ?_, ?_, ?_, ?_, ?_⟩
    all_goals simp [initial.history, initial.tickets]
  receipts := by
    refine ⟨?_, ?_⟩
    all_goals simp [initial.history]
  links := by
    refine ⟨fun link mem => ?_, initial.links, ?_⟩
    · have ⟨row, there, user⟩ := initial.accounts link mem
      exact ⟨row, there, user ▸ nofun⟩
    · rw [initial.history, List.filterMap_nil, List.append_nil]
  exclusive := by
    intro j k key mine
    have ⟨w, there, _⟩ := mine
    rw [initial.workers] at there
    cases there
  holding there := by
    rw [initial.workers] at there
    cases there

theorem run_sound {start : State} {labels : List Occurrence} (initial : Initial start)
    (run : Run (Step settings) start labels s) :
    Sound settings (start.database.links.map fun link => (link.user, link.customer)) s :=
  run.invariant (fun _ _ _ sound step => sound.step step) (initial_sound initial)

end

/-! ### Single use -/

/-- A challenge is verified at most once, by the code it was created with, before it expires and
after fewer wrong codes than it allows. -/
structure CodesSpent (s : State) : Prop where
  created : ∀ id, s.history.countP (creates id) ≤ 1
  once : ∀ id, s.history.countP (verifies id) ≤ 1
  own : ∀ id code now, .challengeVerified id code now ∈ s.history →
    ∃ challenge, .challengeCreated challenge code ∈ s.history ∧ challenge.id = id ∧
      now < challenge.expiresAt ∧ s.history.countP (refuses id) < challenge.maxFailures

/-- A verified challenge has at most one ticket, and a ticket is spent at most once. -/
structure TicketsSpent (s : State) : Prop where
  once : ∀ challenge, s.history.countP (issuesFor challenge) ≤ 1
  verified : ∀ ticket, .ticketIssued ticket ∈ s.history →
    ∃ code now, .challengeVerified ticket.challenge code now ∈ s.history
  spent : ∀ id, s.history.countP (spendsTicket id) ≤ 1
  issued : ∀ e ∈ s.history, ∀ id, spendsTicket id e = true →
    ∃ ticket, .ticketIssued ticket ∈ s.history ∧ ticket.id = id

/-- Every customer has at most one link, each that is new is of a signup, and a signup is one
of the customer that its challenge was created for. -/
structure AccountsLinked (start s : State) : Prop where
  once : (s.database.links.map (·.customer)).Nodup
  made : s.database.links.map (fun link => (link.user, link.customer)) =
    start.database.links.map (fun link => (link.user, link.customer)) ++
      s.history.filterMap linked
  own : ∀ key ticket customer user, .signedUp key ticket customer user ∈ s.history →
    TicketOf s.history ticket customer

/-- In every run, challenges, tickets and idempotency keys are spent at most once, customers are
linked at most once and to the account their challenge was created for, and a password is reset
with a ticket of the user's current version only. -/
theorem run_single_use {settings : P1Settings} {start s : State} {labels : List Occurrence}
    (collisionFree : ∀ id purpose, Function.Injective (settings.otpDigest id purpose))
    (initial : Initial start) (run : Run (Step settings) start labels s) :
    CodesSpent s ∧ TicketsSpent s ∧ AccountsLinked start s ∧
      (∀ operation key, s.history.countP (commitsFor operation key) ≤ 1) ∧
        ∀ e t, Step settings s e t → AddsCurrent s t := by
  have sound := run_sound initial run
  have ⟨codes, book, links⟩ : Codes settings s ∧ TicketBook s ∧ Links _ s :=
    ⟨sound.codes, sound.book, sound.links⟩
  refine ⟨⟨codes.createdOnce, codes.verifiedOnce, fun id code now mem => ?_⟩,
    ⟨book.issuedOnce, book.verified, book.spentOnce, book.named⟩,
    ⟨links.once, links.made, book.signed⟩, sound.receipts.once, fun e t step => sound.current step⟩
  have ⟨challenge, code', mem', named, digest, rest⟩ := codes.verified id code now mem
  have ⟨digest', _⟩ := codes.known challenge code' mem'
  rw [digest', named] at digest
  have same : code = code' := collisionFree id challenge.purpose digest
  exact ⟨challenge, same ▸ mem', named, rest⟩

/-! ### A signup -/

namespace SignupSample

def settings : P1Settings where
  otpTtlSeconds := 300
  otpResendSeconds := 60
  otpMaxFailures := 5
  ticketTtlSeconds := 600
  challengeWindowHours := 1
  challengeMaxPerWindow := 5
  idempotencyReplayTtlSeconds := 3600
  otpDigest _ _ code := code
  ticketDigest raw := raw
  keyDigest key := key

def customer : Customer := ⟨1, none, true, none⟩

def start : State where
  database :=
    { users := fun _ => none
      customers := Function.update (fun _ => none) 1 (some customer)
      contacts := Function.update (fun _ => none) 2 (some ⟨2, 1, true, true, true⟩)
      subscriptions := [⟨3, "CONTRACT", 1, "MODEL", .active⟩]
      links := []
      buckets := fun _ _ => none
      challenges := []
      tickets := []
      receipts := [] }
  workers := []
  history := []
  nextId := 10

theorem start_initial : Initial start := by
  have nobody (id : Nat) (row : Account) (there : none = some row) : row.id = id := by
    cases there
  refine ⟨rfl, rfl, rfl, rfl, rfl, nobody, ?_, .nil,
    fun link mem => absurd mem List.not_mem_nil⟩
  have none (id : Nat) (row : Customer) (there : none = some row) : row.id = id := nomatch there
  exact ids_update (fun row : Customer => row.id) none customer

def at_ (now : Instant) : Outside where
  now := now
  target := some ⟨1, 2, none, some 3⟩
  otpCode := "123456"
  rawTicket := "ticket"
  challengeIsClean := true
  identityMatches := true
  usernameTaken := false
  userViolates := false
  linkIsClean := true
  profileIsDeleted := false
  passwordMatches := true

/-- The next query of one worker, or of a new one, where it does not have to wait. -/
def perform (s : State) : Occurrence → Option State
  | .requested operation => some { s with workers := s.workers ++ [⟨operation, .begun, []⟩] }
  | .turn k outside =>
      match s.workers[k]? with
      | none => none
      | some w =>
          let next := advance settings outside s w
          if available Worker.locks s.workers k next.2.locks then
            some { next.1 with workers := s.workers.set k next.2 }
          else none
  | .rolledBack _ | .revised _ => none

theorem perform_step {s t : State} {e : Occurrence} (performed : perform s e = some t) :
    Step settings s e t := by
  cases e with
  | requested operation => exact (Option.some.inj performed).symm
  | turn k outside =>
    unfold perform at performed
    dsimp only at performed
    split at performed
    · cases performed
    · rename_i w there
      split at performed
      · rename_i free
        exact ⟨w, there, free, (Option.some.inj performed).symm⟩
      · cases performed
  | rolledBack | revised => cases performed

/-- A challenge, a wrong code, the right one, and the signup. -/
def signingUp : List Occurrence :=
  [.requested (.createChallenge .signup "identity" "first")] ++
    List.replicate 5 (.turn 0 (at_ 100)) ++
    [.requested (.verifyChallenge .signup 10 "000000")] ++
    List.replicate 2 (.turn 1 (at_ 110)) ++
    [.requested (.verifyChallenge .signup 10 "123456")] ++
    List.replicate 7 (.turn 2 (at_ 120)) ++
    [.requested (.signup "ticket" "name" "request" "second")] ++
    List.replicate 14 (.turn 3 (at_ 200))

end SignupSample

open SignupSample in
/-- One wrong code, then the right one: the customer has one link. -/
theorem run_single_use_signup :
    ∃ labels s, Run (Step SignupSample.settings) SignupSample.start labels s ∧
      .signedUp "second" 11 1 12 ∈ s.history ∧ .challengeVerified 10 "123456" 120 ∈ s.history ∧
        CodesSpent s ∧ TicketsSpent s ∧ AccountsLinked SignupSample.start s := by
  have done : ((signingUp.foldlM perform start).map fun s =>
      decide (.signedUp "second" 11 1 12 ∈ s.history) &&
        decide (.challengeVerified 10 "123456" 120 ∈ s.history)) = some true := by
    decide +kernel
  have ⟨s, performed, mem⟩ := Option.map_eq_some_iff.1 done
  have ⟨signed, verified⟩ := Bool.and_eq_true_iff.1 mem
  have run := Run.foldlM (fun _ _ _ => perform_step) .refl performed
  have ⟨codes, tickets, accounts, _⟩ :=
    run_single_use (fun _ _ _ _ same => same) start_initial run
  exact ⟨_, s, run, of_decide_eq_true signed, of_decide_eq_true verified, codes, tickets, accounts⟩

end WaterCare.Runtime.P1Auth
