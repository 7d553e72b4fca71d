import WaterCare.Machine.Result
import WaterCare.Machine.Run
import WaterCare.Service.ResumeDispatch

/-!
Runs of the resume outbox. A row is claimed at most once, so at most one request goes out for
a review, and a row that has got an outcome keeps it.
-/

namespace WaterCare.Runtime.ResumeDispatch
open Machine Store Service Py
open HumanReviewResumeDispatchService

/-! ### Rows -/

/-- The row of an identifier has been claimed or refused, for the given review. -/
def Taken (rows : Rows) (id review : Nat) : Prop :=
  ∃ row, byPublicId rows id = some row ∧ row.1.status ≠ .pending ∧ row.1.humanReview = review

/-- The statuses a row keeps. -/
def isOutcome : DispatchStatus → Bool
  | .succeeded | .failedPreSend | .outcomeUnknown => true
  | .pending | .dispatching => false

/-- What a transaction does to the rows: nothing, or it changes one row that has no outcome
yet, or it adds one for a review that has none; `next` is the next identifier after it. -/
inductive RowEdit (limit next : Nat) (rows : Rows) : Rows → Prop
  | same : RowEdit limit next rows rows
  | changed {old new : Stored HumanReviewResumeDispatch}
      (found : byPublicId rows new.1.publicId = some old)
      (id : new.1.publicId = old.1.publicId) (review : new.1.humanReview = old.1.humanReview)
      (waits : isOutcome old.1.status = false) (taken : new.1.status ≠ .pending) :
      RowEdit limit next rows (replaceRow (·.1.publicId) new rows)
  | added {row : Stored HumanReviewResumeDispatch} (id : row.1.publicId = limit)
      (room : limit < next) (review : ∀ other ∈ rows, other.1.humanReview ≠ row.1.humanReview) :
      RowEdit limit next rows (rows ++ [row])

section
variable {rows rows' : Rows} {row old new : Stored HumanReviewResumeDispatch} {id review limit next : Nat}

theorem byPublicId_mem (found : byPublicId rows id = some row) : row ∈ rows ∧ row.1.publicId = id := by
  unfold byPublicId at found
  have same := List.find?_some found
  exact ⟨List.mem_of_find?_eq_some found, of_decide_eq_true same⟩

theorem byPublicId_of_mem (unique : (rows.map (·.1.publicId)).Nodup) (mem : row ∈ rows) :
    byPublicId rows row.1.publicId = some row := by
  induction rows with
  | nil => exact absurd mem List.not_mem_nil
  | cons first rest ih =>
    unfold byPublicId
    rw [List.map_cons, List.nodup_cons] at unique
    cases List.mem_cons.1 mem with
    | inl same =>
      rw [← same]
      exact List.find?_cons_of_pos (decide_eq_true rfl)
    | inr later =>
      have other : first.1.publicId ≠ row.1.publicId := fun same =>
        unique.1 (same ▸ List.mem_map_of_mem later)
      rw [List.find?_cons_of_neg (by simpa using other)]
      exact ih unique.2 later

/-- A looked-up row after an edit. -/
theorem RowEdit.lookup (edit : RowEdit limit next rows rows') (found : byPublicId rows id = some row) :
    byPublicId rows' id = some row ∨
      isOutcome row.1.status = false ∧ ∃ new, byPublicId rows' id = some new ∧
        new.1.status ≠ .pending ∧ new.1.humanReview = row.1.humanReview := by
  cases edit with
  | same => exact .inl found
  | @changed old new there same review waits taken =>
    by_cases own : new.1.publicId = id
    · have was : old = row := Option.some.inj (there.symm.trans (own ▸ found))
      refine .inr ⟨was ▸ waits, new, ?_, taken, was ▸ review⟩
      exact find_replaceRow found (own : (fun r : Stored HumanReviewResumeDispatch => r.1.publicId) new = id)
    · left
      unfold byPublicId at found ⊢
      rw [← found]
      exact find_replaceRow_ne
        (own : (fun r : Stored HumanReviewResumeDispatch => r.1.publicId) new ≠ id)
  | added number room fresh =>
    left
    unfold byPublicId at found ⊢
    rw [List.find?_append, found]
    rfl

/-- A row that has been taken stays so, with its review. -/
theorem RowEdit.taken (edit : RowEdit limit next rows rows') (taken : Taken rows id review) :
    Taken rows' id review := by
  have ⟨row, found, status, its⟩ := taken
  cases edit.lookup found with
  | inl kept => exact ⟨row, kept, status, its⟩
  | inr changed =>
    have ⟨_, new, found', status', owner⟩ := changed
    exact ⟨new, found', status', owner.trans its⟩

/-- The identifiers and the reviews of the rows stay different. -/
theorem RowEdit.unique (edit : RowEdit limit next rows rows')
    (ids : (rows.map (·.1.publicId)).Nodup) (limited : ∀ row ∈ rows, row.1.publicId < limit)
    (reviews : (rows.map (·.1.humanReview)).Nodup) (le : limit ≤ next) :
    (rows'.map (·.1.publicId)).Nodup ∧ (∀ row ∈ rows', row.1.publicId < next) ∧
      (rows'.map (·.1.humanReview)).Nodup := by
  cases edit with
  | same => exact ⟨ids, fun row mem => Nat.lt_of_lt_of_le (limited row mem) le, reviews⟩
  | @changed old new there same review waits taken =>
    have names := map_replaceRow (fun r : Stored HumanReviewResumeDispatch => r.1.publicId) new rows
    have owners : (replaceRow (·.1.publicId) new rows).map (·.1.humanReview) =
        rows.map (·.1.humanReview) := by
      unfold replaceRow
      rw [List.map_map]
      refine List.map_congr_left fun other mem => ?_
      by_cases own : other.1.publicId = new.1.publicId
      · have itself := byPublicId_of_mem ids mem
        rw [own, there] at itself
        change (if other.1.publicId = new.1.publicId then new else other).1.humanReview = _
        rw [if_pos own, review, Option.some.inj itself]
      · change (if other.1.publicId = new.1.publicId then new else other).1.humanReview = _
        rw [if_neg own]
    rw [names, owners]
    refine ⟨ids, fun row mem => ?_, reviews⟩
    cases mem_replaceRow mem with
    | inl old => exact Nat.lt_of_lt_of_le (limited row old) le
    | inr new_ =>
      have ⟨is, other, mem, named⟩ := new_
      rw [is, ← named]
      exact Nat.lt_of_lt_of_le (limited other mem) le
  | @added row number room fresh =>
    rw [List.map_append, List.map_append]
    refine ⟨?_, fun row' mem => ?_, ?_⟩
    · refine List.nodup_append.2 ⟨ids, List.nodup_singleton _, fun i known j new same => ?_⟩
      have ⟨other, mem, is⟩ := List.mem_map.1 known
      have below : other.1.publicId ≠ row.1.publicId := by
        rw [number]
        exact Nat.ne_of_lt (limited other mem)
      rw [List.mem_singleton.1 new] at same
      exact below (is.trans same)
    · cases List.mem_append.1 mem with
      | inl old => exact Nat.lt_of_lt_of_le (limited row' old) le
      | inr new =>
        rw [List.mem_singleton.1 new, number]
        exact room
    · refine List.nodup_append.2 ⟨reviews, List.nodup_singleton _, fun i known j new same => ?_⟩
      have ⟨other, mem, is⟩ := List.mem_map.1 known
      rw [List.mem_singleton.1 new] at same
      exact fresh other mem (is.trans same)

end

/-! ### The transactions -/

section
variable {settings : ResumeSettings} {rows rows' : Rows} {source : Nat → Option ResumeSource}
  {id review limit next : Nat} {now : Instant}

theorem saveRow_ok {row : HumanReviewResumeDispatch} (saved : saveRow rows row = .ok rows') :
    ∃ stored : Stored HumanReviewResumeDispatch, stored.1 = row ∧
      rows' = replaceRow (·.1.publicId) stored rows := by
  have ⟨stored, kept, same⟩ := bind_eq_ok.1 saved
  cases same
  exact ⟨stored, save_ok.1 kept, rfl⟩

/-- The review of a row that can be claimed was officially rejected. -/
theorem built_official {found : ResumeSource} {payload : Value} {key : String}
    (built : buildHumanReviewResumePayload settings found = .ok (payload, key)) :
    found.review.isOfficialReject = true := by
  unfold buildHumanReviewResumePayload at built
  dsimp only at built
  split at built
  · cases built
  · split at built
    · cases built
    · split at built
      · cases built
      · rename_i official
        rw [Bool.not_eq_true', Bool.not_eq_false] at official
        exact official

variable (limit next)

/-- A claim changes a waiting row; one that is granted is for an official rejection, with the
payload of its review. -/
theorem claim_ok {claimed : Option Claim}
    (claims : claim settings rows source id now = .ok (rows', claimed)) :
    RowEdit limit next rows rows' ∧ ∀ c, claimed = some c →
      (∃ old, byPublicId rows id = some old ∧ old.1.status = .pending) ∧
        (∃ new, byPublicId rows' id = some new ∧ new.1.status = .dispatching ∧
          new.1.humanReview = c.review) ∧
        ∃ found key, source c.review = some found ∧ found.review.isOfficialReject = true ∧
          buildHumanReviewResumePayload settings found = .ok (c.payload, key) := by
  unfold claim at claims
  split at claims
  · cases claims
    exact ⟨.same, nofun⟩
  · rename_i row there
    split at claims
    · cases claims
      exact ⟨.same, nofun⟩
    · rename_i waits
      rw [not_not] at waits
      have number := (byPublicId_mem there).2
      have edits {new : HumanReviewResumeDispatch} {written : Rows}
          (saved : saveRow rows new = .ok written) (same : new.publicId = row.1.publicId)
          (owner : new.humanReview = row.1.humanReview) (taken : new.status ≠ .pending) :
          RowEdit limit next rows written ∧
            ∃ stored, byPublicId written id = some stored ∧ stored.1 = new := by
        have ⟨stored, is, edited⟩ := saveRow_ok saved
        have named : stored.1.publicId = id := by rw [is, same, number]
        have found : byPublicId (replaceRow (·.1.publicId) stored rows) id = some stored :=
          find_replaceRow there
            (named : (fun r : Stored HumanReviewResumeDispatch => r.1.publicId) stored = id)
        rw [edited]
        refine ⟨@RowEdit.changed limit next rows row stored ?_ ?_ ?_ ?_ ?_, stored, found, is⟩
        · exact named ▸ there
        · rw [is, same]
        · rw [is, owner]
        · rw [waits]
          rfl
        · rw [is]
          exact taken
      have fails {code : String} (failed : (·, (none : Option Claim)) <$>
          setFailedPreSend rows row.1 code now = .ok (rows', claimed)) :
          RowEdit limit next rows rows' ∧ claimed = none := by
        have ⟨written, saved, same⟩ := map_eq_ok.1 failed
        cases same
        exact ⟨(edits saved rfl rfl nofun).1, rfl⟩
      dsimp only at claims
      split at claims
      · have ⟨edit, refused⟩ := fails claims
        rw [refused]
        exact ⟨edit, nofun⟩
      · rename_i payload key built
        split at claims
        · have ⟨edit, refused⟩ := fails claims
          rw [refused]
          exact ⟨edit, nofun⟩
        · have ⟨written, saved, same⟩ := bind_eq_ok.1 claims
          cases same
          have ⟨edit, stored, found, is⟩ := edits saved rfl rfl nofun
          refine ⟨edit, fun c granted => ?_⟩
          cases granted
          refine ⟨⟨row, there, waits⟩, ⟨stored, found, by rw [is], by rw [is]⟩, ?_⟩
          cases loaded : source row.1.humanReview with
          | none =>
            rw [loaded] at built
            cases built
          | some found =>
            rw [loaded] at built
            exact ⟨found, key, rfl, built_official built, built⟩

/-- An outcome is recorded on a row in progress. -/
theorem mark_ok {digest : String} {change : HumanReviewResumeDispatch → HumanReviewResumeDispatch}
    (same : ∀ row, (change row).publicId = row.publicId ∧
      (change row).humanReview = row.humanReview ∧ (change row).status ≠ .pending)
    (marks : mark rows id digest change = .ok rows') : RowEdit limit next rows rows' := by
  unfold mark at marks
  split at marks
  · cases marks
  · rename_i row there
    split at marks
    · cases marks
      exact .same
    · rename_i active
      have status : row.1.status = .dispatching := not_not.1 fun other => active (.inl other)
      have ⟨stored, is, edited⟩ := saveRow_ok marks
      have ⟨named, owner, taken⟩ := same row.1
      rw [edited]
      refine @RowEdit.changed limit next rows row stored ?_ ?_ ?_ ?_ ?_
      · rw [is, named, (byPublicId_mem there).2]
        exact there
      · rw [is, named]
      · rw [is, owner]
      · rw [status]
        rfl
      · rw [is]
        exact taken

theorem enqueue_ok {found : ResumeSource} {added : Nat}
    (enqueues : enqueue settings rows review found limit now = .ok (rows', added)) :
    RowEdit limit (limit + 1) rows rows' := by
  unfold enqueue at enqueues
  dsimp only at enqueues
  split at enqueues
  · cases enqueues
  · split at enqueues
    · cases enqueues
    · split at enqueues
      · split at enqueues
        · cases enqueues
        · cases enqueues
          exact .same
      · rename_i nobody
        have ⟨stored, saved, rest⟩ := bind_eq_ok.1 enqueues
        split at rest
        · cases rest
        · cases rest
          have is := save_ok.1 saved
          refine .added ?_ (Nat.lt_succ_self _) fun other mem => ?_
          · rw [is]
            rfl
          · rw [is]
            exact fun equal => List.find?_eq_none.1 nobody other mem (decide_eq_true equal)

end
/-! ### Every state of a run -/

/-- The review is an official rejection, in its second version. -/
def Rejected (s : Outbox) (review : Nat) : Prop :=
  ∃ source, s.reviews review = some source ∧ source.review.isOfficialReject = true

/-- A step claims a waiting row for a review that is an official rejection, with the payload of
this review. -/
structure Granted (settings : ResumeSettings) (s t : Outbox) (dispatch review : Nat)
    (payload : Value) : Prop where
  waits : ∃ old, byPublicId s.rows dispatch = some old ∧ old.1.status = .pending
  claimed : ∃ new, byPublicId t.rows dispatch = some new ∧ new.1.status = .dispatching ∧
    new.1.humanReview = review
  official : ∃ source key, s.reviews review = some source ∧
    source.review.isOfficialReject = true ∧
    buildHumanReviewResumePayload settings source = .ok (payload, key)

/-- A worker has claimed a row and not yet sent its request. -/
def Claims (s : Outbox) (k id : Nat) (c : Claim) : Prop :=
  ∃ worker, s.workers[k]? = some worker ∧ worker.phase = .claimed id c

structure Sound (s : Outbox) : Prop where
  ids : (s.rows.map (·.1.publicId)).Nodup
  limited : ∀ row ∈ s.rows, row.1.publicId < s.nextId
  reviews : (s.rows.map (·.1.humanReview)).Nodup
  claimed : ∀ {k id c}, Claims s k id c → Taken s.rows id c.review ∧
    id ∉ s.sent.map (·.dispatch)
  distinct : ∀ {j k id c c'}, Claims s j id c → Claims s k id c' → j = k
  sent : ∀ e ∈ s.sent, Taken s.rows e.dispatch e.review
  once : (s.sent.map (·.dispatch)).Nodup

section
variable {settings : ResumeSettings} {s t : Outbox} {o : Outside} {k : Nat} {worker : Worker}

/-- What the step of a worker does to the outbox and what it has in its hands afterwards. -/
inductive Turn (settings : ResumeSettings) (s : Outbox) (worker : Worker) : Outbox → Worker → Prop
  | edited {rows : Rows} {after : Worker} (edit : RowEdit s.nextId s.nextId s.rows rows)
      (free : ∀ id c, after.phase ≠ .claimed id c) :
      Turn settings s worker { s with rows := rows } after
  | granted {rows : Rows} {after : Worker} {id : Nat} {c : Claim}
      (edit : RowEdit s.nextId s.nextId s.rows rows) (phase : after.phase = .claimed id c)
      (granted : Granted settings s { s with rows := rows } id c.review c.payload) :
      Turn settings s worker { s with rows := rows } after
  | sends {after : Worker} {id : Nat} {c : Claim} (phase : worker.phase = .claimed id c)
      (free : ∀ id c, after.phase ≠ .claimed id c) :
      Turn settings s worker { s with sent := s.sent ++ [⟨id, c.review, c.payload⟩] } after

theorem afterwards_free (worker : Worker) (id : Nat) (c : Claim) :
    (afterwards worker).phase ≠ .claimed id c := by
  unfold afterwards
  split <;> exact nofun

theorem advance_turn (o : Outside) (s : Outbox) (worker : Worker) :
    Turn settings s worker (advance settings o s worker).1 (advance settings o s worker).2 := by
  unfold advance
  split
  · split
    · exact .edited .same nofun
    · exact .edited .same nofun
  · rename_i id called
    split
    · exact .edited .same (afterwards_free worker)
    · split
      · exact .edited .same nofun
      · rename_i rows claims
        exact .edited (claim_ok _ _ claims).1 (afterwards_free worker)
      · rename_i rows claimed claims
        have ⟨edit, grants⟩ := claim_ok s.nextId s.nextId claims
        have ⟨waits, dispatching, official⟩ := grants claimed rfl
        exact .granted edit rfl ⟨waits, dispatching, official⟩
  · rename_i id c claimed
    split
    · exact .edited .same nofun
    · exact .sends claimed nofun
  · exact .edited .same nofun
  · rename_i id c answer answered
    dsimp only
    split
    · exact .edited .same nofun
    · rename_i rows marked
      refine .edited ?_ (afterwards_free worker)
      split at marked
      · unfold markSucceeded at marked
        refine mark_ok _ _ ?_ marked
        exact fun row => ⟨rfl, rfl, nofun⟩
      · unfold markOutcomeUnknown at marked
        refine mark_ok _ _ ?_ marked
        exact fun row => ⟨rfl, rfl, nofun⟩
  · rename_i finished
    refine .edited .same fun id c claimed => ?_
    rw [finished] at claimed
    cases claimed

theorem Turn.reviews {after : Worker} (turn : Turn settings s worker t after) :
    t.reviews = s.reviews := by
  cases turn <;> rfl

/-- The claims after a step of one worker: those of the others, and what it holds itself. -/
theorem claims_set {after : Worker} {j id : Nat} {c : Claim} (s' : Outbox)
    (claims : Claims { s' with workers := s.workers.set k after } j id c) :
    j = k ∧ after.phase = .claimed id c ∨ j ≠ k ∧ Claims s j id c := by
  have ⟨worker, there, phase⟩ := claims
  change (s.workers.set k after)[j]? = some worker at there
  rw [List.getElem?_set] at there
  split at there
  · rename_i same
    split at there
    · cases there
      exact .inl ⟨same.symm, phase⟩
    · cases there
  · rename_i other
    exact .inr ⟨fun same => other same.symm, worker, there, phase⟩

/-- A claim is of a row that is not waiting any more, so nobody claims a waiting one. -/
theorem Taken.not_waiting {rows : Rows} {id review : Nat} (taken : Taken rows id review)
    (waits : ∃ old, byPublicId rows id = some old ∧ old.1.status = .pending) : False := by
  have ⟨row, found, status, _⟩ := taken
  have ⟨old, there, pending⟩ := waits
  rw [found] at there
  cases there
  exact status pending

theorem Granted.taken {dispatch review : Nat} {payload : Value}
    (granted : Granted settings s t dispatch review payload) : Taken t.rows dispatch review := by
  have ⟨row, found, status, owner⟩ := granted.claimed
  refine ⟨row, found, ?_, owner⟩
  rw [status]
  nofun

/-- A step after which nobody has a new claim and no new request is out. -/
structure Quiet (s t : Outbox) : Prop where
  edit : RowEdit s.nextId t.nextId s.rows t.rows
  le : s.nextId ≤ t.nextId
  claims : ∀ {k id c}, Claims t k id c → Claims s k id c
  sent : t.sent = s.sent

theorem Sound.quiet (sound : Sound s) (quiet : Quiet s t) : Sound t := by
  have ⟨edit, le, claims, sent⟩ := quiet
  have ⟨ids, limited, reviews⟩ := edit.unique sound.ids sound.limited sound.reviews le
  refine ⟨ids, limited, reviews, fun held => ?_, fun mine yours => ?_, fun e mem => ?_, ?_⟩
  · have ⟨taken, unsent⟩ := sound.claimed (claims held)
    rw [sent]
    exact ⟨edit.taken taken, unsent⟩
  · exact sound.distinct (claims mine) (claims yours)
  · rw [sent] at mem
    exact edit.taken (sound.sent e mem)
  · rw [sent]
    exact sound.once

theorem Sound.turn (sound : Sound s) {t : Outbox} (there : s.workers[k]? = some worker)
    {after : Worker} (turn : Turn settings s worker t after) :
    Sound { t with workers := s.workers.set k after } := by
  cases turn with
  | @edited rows after edit free =>
    refine sound.quiet ⟨edit, Nat.le_refl _, fun claims => ?_, rfl⟩
    cases claims_set ({ s with rows := rows }) claims with
    | inl own => exact absurd own.2 (free _ _)
    | inr other => exact other.2
  | @granted rows after id c edit phase granted =>
    have waits := granted.waits
    have ⟨ids, limited, reviews⟩ :=
      edit.unique sound.ids sound.limited sound.reviews (Nat.le_refl _)
    have cases_ {j id' : Nat} {c' : Claim}
        (claims : Claims { s with rows := rows, workers := s.workers.set k after } j id' c') :
        j = k ∧ id = id' ∧ c = c' ∨ Claims s j id' c' ∧ id' ≠ id := by
      cases claims_set ({ s with rows := rows }) claims with
      | inl own =>
        have same := own.2
        rw [phase] at same
        cases same
        exact .inl ⟨own.1, rfl, rfl⟩
      | inr other =>
        refine .inr ⟨other.2, fun same => ?_⟩
        -- another worker would hold the row that was waiting
        have held := (sound.claimed other.2).1
        rw [same] at held
        exact held.not_waiting waits
    refine ⟨ids, limited, reviews, fun claims => ?_, fun mine yours => ?_,
      fun e mem => edit.taken (sound.sent e mem), sound.once⟩
    · cases cases_ claims with
      | inl own =>
        have ⟨_, is, its⟩ := own
        rw [← is, ← its]
        refine ⟨granted.taken, fun out => ?_⟩
        have ⟨e, mem, named⟩ := List.mem_map.1 out
        have held := sound.sent e mem
        rw [named] at held
        exact held.not_waiting waits
      | inr other =>
        have ⟨taken, unsent⟩ := sound.claimed other.1
        exact ⟨edit.taken taken, unsent⟩
    · cases cases_ mine with
      | inl own =>
        cases cases_ yours with
        | inl own' => exact own.1.trans own'.1.symm
        | inr other => exact absurd own.2.1.symm other.2
      | inr other =>
        cases cases_ yours with
        | inl own => exact absurd own.2.1.symm other.2
        | inr other' => exact sound.distinct other.1 other'.1
  | @sends after id c phase free =>
    have own : Claims s k id c := ⟨worker, there, phase⟩
    have ⟨taken, unsent⟩ := sound.claimed own
    have others {j id' : Nat} {c' : Claim}
        (claims : Claims { s with
          sent := s.sent ++ [⟨id, c.review, c.payload⟩]
          workers := s.workers.set k after } j id' c') :
        Claims s j id' c' ∧ j ≠ k := by
      cases claims_set ({ s with sent := s.sent ++ [⟨id, c.review, c.payload⟩] }) claims with
      | inl own => exact absurd own.2 (free id' c')
      | inr other => exact ⟨other.2, other.1⟩
    refine ⟨sound.ids, sound.limited, sound.reviews, fun claims => ?_, fun mine yours => ?_,
      fun e mem => ?_, ?_⟩
    · have ⟨held, other⟩ := others claims
      have ⟨taken', unsent'⟩ := sound.claimed held
      refine ⟨taken', fun out => ?_⟩
      rw [List.map_append] at out
      cases List.mem_append.1 out with
      | inl before => exact unsent' before
      | inr now =>
        have same := List.mem_singleton.1 now
        rw [same] at held
        exact other (sound.distinct held own)
    · exact sound.distinct (others mine).1 (others yours).1
    · cases List.mem_append.1 mem with
      | inl before => exact sound.sent e before
      | inr now =>
        rw [List.mem_singleton.1 now]
        exact taken
    · rw [List.map_append]
      refine List.nodup_append.2 ⟨sound.once, List.nodup_singleton _, fun i out j new same => ?_⟩
      have is : i = id := same.trans (List.mem_singleton.1 new)
      exact unsent (is ▸ out)

/-- A rejection stays one when a review is written that was none before or is one after. -/
theorem Rejected.update {review other : Nat} {source : ResumeSource}
    (keeps : ∀ old, s.reviews review = some old → old.review.isOfficialReject = true →
      source.review.isOfficialReject = true)
    (written : t.reviews = Function.update s.reviews review (some source))
    (rejected : Rejected s other) : Rejected t other := by
  have ⟨old, there, official⟩ := rejected
  unfold Rejected
  rw [written]
  by_cases own : other = review
  · rw [own] at there ⊢
    exact ⟨source, Function.update_self .., keeps old there official⟩
  · exact ⟨old, (Function.update_of_ne own ..).trans there, official⟩

theorem official_parts {review : ResumeReview} (official : review.isOfficialReject = true) :
    review.status = .rejected ∧ review.decision = some .reject ∧ review.reviewStateVersion = 2 := by
  unfold ResumeReview.isOfficialReject at official
  rw [Bool.and_eq_true, Bool.and_eq_true, decide_eq_true_iff, decide_eq_true_iff,
    decide_eq_true_iff] at official
  exact ⟨official.1.1, official.1.2, official.2⟩

/-- The worker that a step adds has claimed nothing. -/
theorem claims_append {fresh : Worker} {j id : Nat} {c : Claim} (s' : Outbox)
    (free : fresh.phase ≠ .claimed id c)
    (claims : Claims { s' with workers := s.workers ++ [fresh] } j id c) : Claims s j id c := by
  have ⟨worker, there, phase⟩ := claims
  change (s.workers ++ [fresh])[j]? = some worker at there
  rw [List.getElem?_append] at there
  split at there
  · exact ⟨worker, there, phase⟩
  · have is := List.mem_singleton.1 (List.mem_of_getElem? there)
    rw [is] at phase
    exact absurd phase free

/-- What the decision leaves of the outbox. -/
theorem schedule_ok {review : Nat} {source : ResumeSource} {now : Instant}
    (scheduled : scheduleRejectedReviewResume settings s review source now = .ok t) :
    Quiet s t ∧ t.reviews = Function.update s.reviews review (some source) := by
  unfold scheduleRejectedReviewResume at scheduled
  dsimp only at scheduled
  split at scheduled
  · cases scheduled
    exact ⟨⟨.same, Nat.le_refl _, fun claims => claims, rfl⟩, rfl⟩
  · have ⟨⟨rows, id⟩, enqueued, same⟩ := bind_eq_ok.1 scheduled
    cases same
    refine ⟨⟨enqueue_ok _ enqueued, Nat.le_succ _, fun claims => ?_, rfl⟩, rfl⟩
    exact claims_append { s with
      reviews := Function.update s.reviews review (some source)
      rows := rows
      nextId := s.nextId + 1 } (nofun : Phase.called id ≠ .claimed _ _) claims

/-- Only the turn of a worker claims a row or sends a request. -/
theorem step_cases {e : Occurrence} (step : Step settings s e t) :
    Quiet s t ∨ ∃ k o worker, e = .turn k o ∧ s.workers[k]? = some worker ∧
      ∃ u after, Turn settings s worker u after ∧
        t = { u with workers := s.workers.set k after } := by
  cases e with
  | rejected review correlationId now =>
    have ⟨_, _, _, scheduled⟩ := step
    exact .inl (schedule_ok scheduled).1
  | changed review source =>
    cases step.2
    exact .inl ⟨.same, Nat.le_refl _, fun claims => claims, rfl⟩
  | resumeFailed review =>
    have ⟨_, _, _, is⟩ := step
    cases is
    exact .inl ⟨.same, Nat.le_refl _, fun claims => claims, rfl⟩
  | processPending maxRows =>
    cases step
    refine .inl ⟨.same, Nat.le_refl _, fun claims => claims_append s ?_ claims, rfl⟩
    split <;> exact nofun
  | processDispatch dispatch =>
    cases step
    refine .inl ⟨.same, Nat.le_refl _, fun claims => ?_, rfl⟩
    exact claims_append s (nofun : Phase.called dispatch ≠ .claimed _ _) claims
  | turn k outside =>
    have ⟨worker, there, is⟩ := step
    exact .inr ⟨k, outside, worker, rfl, there, _, _, advance_turn outside s worker, is⟩
  | crashed k =>
    cases step
    refine .inl ⟨.same, Nat.le_refl _, fun claims => ?_, rfl⟩
    have ⟨worker, there, phase⟩ := claims
    change (s.workers.modify k _)[_]? = some worker at there
    rw [List.getElem?_modify] at there
    have ⟨before, found, is⟩ := Option.map_eq_some_iff.1 there
    split at is
    · rw [← is] at phase
      cases phase
    · exact ⟨before, found, is ▸ phase⟩

theorem Sound.step {e : Occurrence} (sound : Sound s) (step : Step settings s e t) : Sound t := by
  cases step_cases step with
  | inl quiet => exact sound.quiet quiet
  | inr turns =>
    have ⟨k, _, worker, _, there, u, after, turn, is⟩ := turns
    rw [is]
    exact sound.turn there turn

/-- An official rejection is one until its resume is recorded as failed. -/
theorem Rejected.step {review : Nat} {e : Occurrence} (rejected : Rejected s review)
    (step : Step settings s e t) (other : e ≠ .resumeFailed review) : Rejected t review := by
  cases e with
  | rejected decided correlationId now =>
    have ⟨source, there, pending, scheduled⟩ := step
    refine rejected.update (fun old found official => ?_) (schedule_ok scheduled).2
    rw [there] at found
    cases found
    exact absurd ((official_parts official).1.symm.trans pending) nofun
  | changed written source =>
    have ⟨final, is⟩ := step
    refine rejected.update (fun old found official => ?_) (by rw [is])
    have ⟨status, decision, version⟩ := official_parts official
    have decided : old.review.status ≠ .pending := by
      rw [status]
      nofun
    have ⟨status', decision', version'⟩ := final old found decided
    unfold ResumeReview.isOfficialReject at official ⊢
    rw [status', decision', version']
    exact official
  | resumeFailed failed =>
    have ⟨source, there, official⟩ := rejected
    have ⟨_, _, _, is⟩ := step
    have apart : review ≠ failed := fun same => other (same ▸ rfl)
    rw [is]
    exact ⟨source, (Function.update_of_ne apart ..).trans there, official⟩
  | processPending maxRows =>
    cases step
    exact rejected
  | processDispatch dispatch =>
    cases step
    exact rejected
  | turn k outside =>
    have ⟨worker, _, is⟩ := step
    have ⟨source, there, official⟩ := rejected
    rw [is]
    exact ⟨source, (congrFun (advance_turn outside s worker).reviews review).trans there, official⟩
  | crashed k =>
    cases step
    exact rejected

theorem initial_sound (start : Initial s) : Sound s := by
  have ⟨rows, workers, sent⟩ := start
  have nobody {k id : Nat} {c : Claim} (claims : Claims s k id c) : False := by
    have ⟨worker, there, _⟩ := claims
    rw [workers] at there
    cases there
  refine ⟨?_, ?_, ?_, fun claims => (nobody claims).elim, fun claims => (nobody claims).elim,
    ?_, ?_⟩
  · rw [rows]
    exact .nil
  · rw [rows]
    exact fun _ mem => absurd mem List.not_mem_nil
  · rw [rows]
    exact .nil
  · rw [sent]
    exact fun _ mem => absurd mem List.not_mem_nil
  · rw [sent]
    exact .nil

/-! ### What a run has sent -/

/-- Two rows of one review are one row. -/
theorem Sound.same_row (sound : Sound s) {i j review : Nat} (mine : Taken s.rows i review)
    (yours : Taken s.rows j review) : i = j := by
  have ⟨row, found, _, owner⟩ := mine
  have ⟨row', found', _, owner'⟩ := yours
  have ⟨mem, named⟩ := byPublicId_mem found
  have ⟨mem', named'⟩ := byPublicId_mem found'
  have same : row = row' := List.inj_on_of_nodup_map sound.reviews mem mem' (owner.trans owner'.symm)
  rw [← named, ← named', same]

/-- No two requests are for one review. -/
theorem Sound.reviews_sent (sound : Sound s) : (s.sent.map (·.review)).Nodup := by
  have once := sound.once
  have known := sound.sent
  generalize s.sent = sent at once known
  induction sent with
  | nil => exact .nil
  | cons first rest ih =>
    rw [List.map_cons, List.nodup_cons] at once ⊢
    refine ⟨fun again => ?_, ih once.2 fun e mem => known e (.tail _ mem)⟩
    have ⟨e, mem, same⟩ := List.mem_map.1 again
    have mine := known first (.head _)
    have yours := known e (.tail _ mem)
    rw [same] at yours
    have one := sound.same_row mine yours
    exact once.1 (one ▸ List.mem_map_of_mem mem)

/-- A row with an outcome is there after an edit as it was. -/
theorem RowEdit.keeps {rows rows' : Rows} {row : Stored HumanReviewResumeDispatch} {limit next : Nat}
    (edit : RowEdit limit next rows rows') (ids : (rows.map (·.1.publicId)).Nodup)
    (mem : row ∈ rows) (outcome : isOutcome row.1.status = true) : row ∈ rows' := by
  cases edit.lookup (byPublicId_of_mem ids mem) with
  | inl kept => exact (byPublicId_mem kept).1
  | inr changed =>
    rw [outcome] at changed
    exact absurd changed.1 nofun

theorem step_edit {e : Occurrence} (step : Step settings s e t) :
    RowEdit s.nextId t.nextId s.rows t.rows := by
  cases step_cases step with
  | inl quiet => exact quiet.edit
  | inr turns =>
    have ⟨_, _, _, _, _, _, _, turn, is⟩ := turns
    rw [is]
    cases turn with
    | edited edit _ => exact edit
    | granted edit _ _ => exact edit
    | sends _ _ => exact .same

theorem state_fields (row : Stored HumanReviewResumeDispatch) : row.1.stateFields = true := by
  have accepted := row.2
  simp only [Table.accepts, Bool.and_eq_true] at accepted
  exact accepted.1.1.1.1.1.1.2

/-- The state constraint of a stored row fixes its attempts. -/
theorem attempts (row : Stored HumanReviewResumeDispatch) :
    row.1.attemptCount = 1 ↔ row.1.status = .dispatching ∨ row.1.status = .succeeded ∨
      row.1.status = .outcomeUnknown := by
  have fields := state_fields row
  unfold HumanReviewResumeDispatch.stateFields at fields
  split at fields
  all_goals
    rename_i status
    simp only [Bool.and_eq_true, decide_eq_true_iff] at fields
    rw [status]
  · have count : row.1.attemptCount = 0 := fields.1.1.1.1.1
    rw [count]
    decide
  · have count : row.1.attemptCount = 1 := fields.1.1.1.1.1
    rw [count]
    decide
  · have count : row.1.attemptCount = 1 := fields.1.1.1.1.1.1.1.1
    rw [count]
    decide
  · have count : row.1.attemptCount = 0 := fields.1.1.1.1.1
    rw [count]
    decide
  · have count : row.1.attemptCount = 1 := fields.1.1.1.1.1
    rw [count]
    decide

theorem Run.sound {start : Outbox} {labels : List Occurrence} (run : Run (Step settings) start labels s)
    (sound : Sound start) : Sound s :=
  run.invariant (fun _ _ _ sound step => sound.step step) sound

/-- A row with an outcome is there unchanged at the end of every run. -/
theorem Run.keeps {labels : List Occurrence} (run : Run (Step settings) s labels t) (sound : Sound s)
    {row : Stored HumanReviewResumeDispatch} (mem : row ∈ s.rows)
    (outcome : isOutcome row.1.status = true) : row ∈ t.rows := by
  induction run with
  | refl => exact mem
  | @snoc labels u v e run step ih =>
    exact (step_edit step).keeps (Run.sound run sound).ids ih outcome

/-! ### Where a request comes from -/

/-- A turn of the run claimed the row for the review. The review is the official rejection it was
then, unless its resume was recorded as failed since. -/
def GrantedIn (settings : ResumeSettings) (start : Outbox) (labels : List Occurrence) (s : Outbox)
    (dispatch review : Nat) (payload : Value) : Prop :=
  Passes (Step settings) start labels s fun u e v after =>
    (∃ k o, e = .turn k o) ∧ Granted settings u v dispatch review payload ∧
      (.resumeFailed review ∉ after → Rejected s review)

section
variable {start : Outbox} {labels : List Occurrence} {e : Occurrence} {dispatch review : Nat}
  {payload : Value}

theorem Granted.rejected (granted : Granted settings s t dispatch review payload) :
    Rejected s review := by
  have ⟨source, _, there, official, _⟩ := granted.official
  exact ⟨source, there, official⟩

theorem GrantedIn.here (run : Run (Step settings) start labels s)
    (step : Step settings s (.turn k o) t) (granted : Granted settings s t dispatch review payload) :
    GrantedIn settings start (labels ++ [.turn k o]) t dispatch review payload :=
  Passes.here run step ⟨⟨k, o, rfl⟩, granted, fun _ => granted.rejected.step step nofun⟩

theorem GrantedIn.later (earlier : GrantedIn settings start labels s dispatch review payload)
    (step : Step settings s e t) :
    GrantedIn settings start (labels ++ [e]) t dispatch review payload := by
  refine Passes.later earlier step fun _ held => ?_
  have ⟨turn, granted, still⟩ := held
  refine ⟨turn, granted, fun silent => ?_⟩
  rw [List.mem_append, not_or, List.mem_singleton] at silent
  exact (still silent.1).step step fun same => silent.2 same.symm

/-- A step leaves the claims that there are, or it is a turn that claims a row. -/
theorem step_claims {id : Nat} {c : Claim} (step : Step settings s e t) (claims : Claims t k id c) :
    Claims s k id c ∨ ∃ o, e = .turn k o ∧ Granted settings s t id c.review c.payload := by
  cases step_cases step with
  | inl quiet => exact .inl (quiet.claims claims)
  | inr turns =>
    have ⟨j, o, worker, turned, there, u, after, turn, is⟩ := turns
    rw [is] at claims ⊢
    cases claims_set u claims with
    | inr other => exact .inl other.2
    | inl own =>
      have ⟨mine, phase⟩ := own
      cases turn with
      | edited _ free => exact absurd phase (free _ _)
      | sends _ free => exact absurd phase (free _ _)
      | granted _ held granted =>
        rw [held] at phase
        cases phase
        rw [turned, mine]
        exact .inr ⟨o, rfl, granted.waits, granted.claimed, granted.official⟩

/-- A request that goes out is one that a worker has claimed. -/
theorem step_sent {out : Sent} (step : Step settings s e t) (mem : out ∈ t.sent) :
    out ∈ s.sent ∨ ∃ k c, Claims s k out.dispatch c ∧ c.review = out.review ∧
      c.payload = out.payload := by
  cases step_cases step with
  | inl quiet => exact .inl (quiet.sent ▸ mem)
  | inr turns =>
    have ⟨j, _, worker, _, there, u, after, turn, is⟩ := turns
    rw [is] at mem
    cases turn with
    | edited _ _ => exact .inl mem
    | granted _ _ _ => exact .inl mem
    | sends held _ =>
      cases List.mem_append.1 mem with
      | inl before => exact .inl before
      | inr now =>
        cases List.mem_singleton.1 now
        exact .inr ⟨j, _, ⟨worker, there, held⟩, rfl, rfl⟩

/-- Every claim in hand and every request that is out was granted in the run. -/
theorem run_granted (initial : Initial start) (run : Run (Step settings) start labels s) :
    (∀ {k id c}, Claims s k id c → GrantedIn settings start labels s id c.review c.payload) ∧
      ∀ out ∈ s.sent, GrantedIn settings start labels s out.dispatch out.review out.payload := by
  induction run with
  | refl =>
    have ⟨_, nobody, nothing⟩ := initial
    refine ⟨fun claims => ?_, fun out mem => ?_⟩
    · have ⟨_, there, _⟩ := claims
      rw [nobody] at there
      cases there
    · rw [nothing] at mem
      cases mem
  | snoc run step ih =>
    have ⟨claimed, sent⟩ := ih
    refine ⟨fun claims => ?_, fun out mem => ?_⟩
    · cases step_claims step claims with
      | inl before => exact (claimed before).later step
      | inr turned =>
        have ⟨_, is, granted⟩ := turned
        rw [is] at step ⊢
        exact .here run step granted
    · cases step_sent step mem with
      | inl before => exact (sent out before).later step
      | inr turned =>
        have ⟨_, _, claims, review, payload⟩ := turned
        rw [← review, ← payload]
        exact (claimed claims).later step

end

end

namespace ResumeSample

def source : ResumeSource where
  review :=
    { publicId := "review-1"
      status := .pending
      decision := none
      decisionCorrelationId := none
      reviewStateVersion := 1
      sourceAiRequestId := "request-1"
      sourceInquiryStateVersion := 3
      checkpointThreadId := "thread-1" }
  inquiry := 5
  inquiryPublicId := "inquiry-1"
  inquiryStateVersion := 4
  modelCode := "WPUJAC104DWH"
  run := some
    { id := 8
      status := .succeeded
      schemaStatus := .passed
      correlationId := "correlation-1"
      validatedOutput := .dict (identifiers ++ [(.str "evidence_references", .list [])])
      inputPayload := .dict identifiers
      ledger := some
        { isClean := true
          contractVersion := "1.0.0"
          producer := "AI_HARNESS"
          inquiry := 5
          run := 8
          correlationId := "correlation-1"
          aiRequestId := "request-1"
          sourceInquiryStateVersion := 3
          modelCode := "WPUJAC104DWH"
          executionIdentity := .dict [(.str "runtime_name", .atom (.str "multi_agent"))] } }
  links := []
  crosswalk _ := none
where
  identifiers : Dict :=
    [ (.str "inquiry_id", .atom (.str "inquiry-1")),
      (.str "correlation_id", .atom (.str "correlation-1")),
      (.str "ai_request_id", .atom (.str "request-1")),
      (.str "state_version", .atom (.str "3")),
      (.str "model_code", .atom (.str "WPUJAC104DWH")) ]

def settings : ResumeSettings where
  resumeEnabled := true
  upper text := text
  textOf
    | .atom (.str text) => text
    | _ => ""
  payloadSha256 _ := String.ofList (List.replicate 64 'a')
  checkpointThreadId _ _ _ := "thread-1"

/-- One review waits for its decision. -/
def waiting : Outbox where
  reviews := Function.update (fun _ => none) 7 (some source)
  rows := []
  workers := []
  sent := []
  nextId := 1

def outside (now : Instant) : Outside where
  now := now
  unsent := none
  answer := .error "AI_RESUME_TIMEOUT"

/-- The outbox after a worker's next step. -/
def turned (s : Outbox) (k : Nat) (now : Instant) : Outbox :=
  match s.workers[k]? with
  | none => s
  | some worker =>
      { (advance settings (outside now) s worker).1 with
        workers := s.workers.set k (advance settings (outside now) s worker).2 }

theorem turned_step (s : Outbox) (k : Nat) (now : Instant) (there : (s.workers[k]?).isSome = true) :
    Step settings s (.turn k (outside now)) (turned s k now) := by
  have ⟨worker, found⟩ := Option.isSome_iff_exists.1 there
  refine ⟨worker, found, ?_⟩
  unfold turned
  rw [found]

/-- The outbox after the decision, or before it where the decision fails. -/
def decided : Outbox :=
  match schedule with
  | .ok s => s
  | .error _ => waiting
where
  schedule := scheduleRejectedReviewResume settings waiting 7
    { source with review := rejected source.review "correlation-2" } 10

theorem decided_step : Step settings waiting (.rejected 7 "correlation-2" 10) decided := by
  refine ⟨source, rfl, rfl, ?_⟩
  have done : decided.schedule.toOption.isSome = true := by decide +kernel
  unfold decided
  generalize scheduled : decided.schedule = result at done
  cases result with
  | ok s => exact scheduled
  | error _ => cases done

/-- The request has gone out, and the worker stops before it records the outcome. -/
def sentOut : Outbox := turned (turned decided 0 11) 0 12

theorem sentOut_run : Run (Step settings) waiting
    [.rejected 7 "correlation-2" 10, .turn 0 (outside 11), .turn 0 (outside 12)] sentOut := by
  have first : Run (Step settings) waiting [.rejected 7 "correlation-2" 10] decided :=
    .snoc .refl decided_step
  have second : (decided.workers[0]?).isSome = true := by decide +kernel
  have third : ((turned decided 0 11).workers[0]?).isSome = true := by decide +kernel
  have next := turned_step decided 0 11 second
  have last := turned_step (turned decided 0 11) 0 12 third
  exact (first.snoc next).snoc last

/-- Another worker meets the row of the request that went out. -/
theorem again_run : Run (Step settings) sentOut
    [.crashed 0, .processPending 5]
    { sentOut with
      workers := sentOut.workers.modify 0 (fun worker => { worker with phase := .finished }) ++
        [⟨some 4, .looking⟩] } := by
  -- the state is not looked into
  generalize sentOut = s
  have first : Run (Step settings) s [.crashed 0]
      { s with workers := s.workers.modify 0 fun worker => { worker with phase := .finished } } :=
    .snoc .refl rfl
  exact first.snoc rfl

end ResumeSample

/-- In every run at most one request goes out for a review. Its row was claimed for an official
rejection in its second version, with the payload of this review. A row that has an outcome is not
touched by anything that follows, and a row counts an attempt exactly when its request may have
gone out. -/
theorem run_resumes {settings : ResumeSettings} {start s t : Outbox} {labels later : List Occurrence}
    (initial : Initial start) (run : Run (Step settings) start labels s)
    (rest : Run (Step settings) s later t) :
    (∀ review, (s.sent.map (·.review)).count review ≤ 1) ∧
      (∀ e ∈ s.sent, Passes (Step settings) start labels s fun u label v after =>
        (∃ k o, label = .turn k o) ∧ Granted settings u v e.dispatch e.review e.payload ∧
          (.resumeFailed e.review ∉ after → ∃ source, s.reviews e.review = some source ∧
            source.review.status = .rejected ∧ source.review.decision = some .reject ∧
            source.review.reviewStateVersion = 2)) ∧
      (∀ id row, byPublicId s.rows id = some row → isOutcome row.1.status = true →
        byPublicId t.rows id = some row) ∧
      ∀ row ∈ s.rows, row.1.stateFields = true ∧ (row.1.attemptCount = 1 ↔
        row.1.status = .dispatching ∨ row.1.status = .succeeded ∨
          row.1.status = .outcomeUnknown) := by
  have sound := Run.sound run (initial_sound initial)
  refine ⟨fun review => ?_, fun e mem => ?_, fun id row found outcome => ?_, fun row mem => ?_⟩
  · exact List.nodup_iff_count_le_one.1 sound.reviews_sent review
  · refine Passes.mono ((run_granted initial run).2 e mem) fun _ held => ?_
    have ⟨turn, granted, still⟩ := held
    refine ⟨turn, granted, fun silent => ?_⟩
    have ⟨source, there, official⟩ := still silent
    exact ⟨source, there, official_parts official⟩
  · have ⟨mem, named⟩ := byPublicId_mem found
    have kept := Run.keeps rest sound mem outcome
    rw [← named]
    exact byPublicId_of_mem (Run.sound rest sound).ids kept
  · exact ⟨state_fields row, attempts row⟩

/-- A request has gone out for the review of the sample, which is officially rejected, and none
after it. -/
theorem run_resumes_sent :
    ResumeSample.sentOut.sent.length = 1 ∧
      (∀ review, (ResumeSample.sentOut.sent.map (·.review)).count review ≤ 1) ∧
      ∀ e ∈ ResumeSample.sentOut.sent, Rejected ResumeSample.sentOut e.review := by
  have initial : Initial ResumeSample.waiting := ⟨rfl, rfl, rfl⟩
  have ⟨once, granted, _, _⟩ :=
    run_resumes initial ResumeSample.sentOut_run ResumeSample.again_run
  refine ⟨by decide +kernel, once, fun e mem => ?_⟩
  have ⟨before, label, after, _, _, same, _, _, _, _, _, still⟩ := granted e mem
  have silent : Occurrence.resumeFailed e.review ∉ after := by
    intro failed
    have there := List.mem_append_right before (List.mem_cons_of_mem label failed)
    rw [← same] at there
    simp at there
  have ⟨source, there, status, decision, version⟩ := still silent
  refine ⟨source, there, ?_⟩
  unfold ResumeReview.isOfficialReject
  rw [status, decision, version]
  rfl

end WaterCare.Runtime.ResumeDispatch
