import Mathlib.Data.Prod.Lex
import Mathlib.Order.WithBot
import WaterCare.Machine.Result
import WaterCare.Service.CareSchedule

/-!
What every run over the schedule of a subscription keeps, whatever its rows are at the start: it
opens no second filter replacement, and after each calculation of it the one that the rule in force
asks for is open.
-/

namespace WaterCare.Service.CareSchedule
open Machine RequestHash Store

/-! ### The first row of an order -/

section First
variable {order : CareRecord → CareRecord → Ordering} {rows : List CareRecord} {r : CareRecord}

theorem firstBy_eq_none (h : firstBy order rows = none) : rows = [] := by
  cases rows with
  | nil => rfl
  | cons first rest =>
      unfold firstBy at h
      split at h
      · cases h
      · split at h
        · cases h
        · cases h

theorem firstBy_mem (h : firstBy order rows = some r) : r ∈ rows := by
  induction rows with
  | nil => cases h
  | cons first rest ih =>
      unfold firstBy at h
      split at h
      · rw [← Option.some.inj h]
        exact List.mem_cons_self
      · next r' found =>
          split at h
          · exact List.mem_cons_of_mem _ (ih (found.trans h))
          · rw [← Option.some.inj h]
            exact List.mem_cons_self

/-- Where the order goes down with a key, the first row has the greatest. -/
theorem firstBy_greatest {κ : Type} [Preorder κ] {key : CareRecord → κ}
    (before : ∀ r r', order r r' = .lt → key r' ≤ key r)
    (after : ∀ r r', order r r' ≠ .lt → key r ≤ key r') (first : firstBy order rows = some r) :
    ∀ r' ∈ rows, key r' ≤ key r := by
  induction rows generalizing r with
  | nil => cases first
  | cons head rest ih =>
      unfold firstBy at first
      split at first
      · next none =>
          intro r' member
          rw [firstBy_eq_none none] at member
          rw [List.mem_singleton.1 member, ← Option.some.inj first]
      · next best found =>
          have greatest := ih found
          intro r' member
          split at first
          · next earlier =>
              rw [← Option.some.inj first]
              cases List.mem_cons.1 member with
              | inl same => exact same ▸ before best head earlier
              | inr inside => exact greatest r' inside
          · next later =>
              rw [← Option.some.inj first]
              cases List.mem_cons.1 member with
              | inl same => exact le_of_eq (congrArg key same)
              | inr inside => exact le_trans (greatest r' inside) (after best head later)

end First

section Latest
variable {r r' : CareRecord}

/-- A nullable value in the descending order of its column. -/
def place {α : Type} (x : Option α) : WithTop α := x.elim ⊤ (↑)

theorem descending_eq {α : Type} [LinearOrder α] (x y : Option α) :
    descending x y = compare (place y) (place x) := by
  cases x with
  | none =>
      cases y with
      | none => exact (compare_eq_iff_eq.2 rfl).symm
      | some y => exact (compare_lt_iff_lt.2 (WithTop.coe_lt_top y)).symm
  | some x =>
      cases y with
      | none => exact (compare_gt_iff_gt.2 (WithTop.coe_lt_top x)).symm
      | some y =>
          show compare y x = compare (y : WithTop α) (x : WithTop α)
          rcases lt_trichotomy y x with less | same | greater
          · rw [compare_lt_iff_lt.2 less, compare_lt_iff_lt.2 (WithTop.coe_lt_coe.2 less)]
          · rw [same, compare_eq_iff_eq.2 rfl, compare_eq_iff_eq.2 rfl]
          · rw [compare_gt_iff_gt.2 greater, compare_gt_iff_gt.2 (WithTop.coe_lt_coe.2 greater)]

/-- The key of `latest_completed`, without the id. -/
def latestKey (r : CareRecord) : WithTop Calendar.Date ×ₗ WithTop Instant :=
  toLex (place r.performedOn, place r.completedAt)

theorem latestKey_le : latestKey r' ≤ latestKey r ↔
    place r'.performedOn < place r.performedOn ∨
      place r'.performedOn = place r.performedOn ∧ place r'.completedAt ≤ place r.completedAt :=
  Prod.Lex.toLex_le_toLex

theorem latestKey_le_of_lt (before : latestFirst r r' = .lt) : latestKey r' ≤ latestKey r := by
  unfold latestFirst at before
  rw [descending_eq, descending_eq] at before
  refine latestKey_le.2 ?_
  rcases Ordering.then_eq_lt.1 before with earlier | ⟨same, rest⟩
  · exact .inl (compare_lt_iff_lt.1 earlier)
  · refine .inr ⟨compare_eq_iff_eq.1 same, ?_⟩
    rcases Ordering.then_eq_lt.1 rest with earlier | ⟨same, _⟩
    · exact le_of_lt (compare_lt_iff_lt.1 earlier)
    · exact le_of_eq (compare_eq_iff_eq.1 same)

theorem latestKey_le_of_not_lt (other : latestFirst r r' ≠ .lt) :
    latestKey r ≤ latestKey r' := by
  by_contra greater
  refine other ?_
  unfold latestFirst
  rw [descending_eq, descending_eq]
  refine Ordering.then_eq_lt.2 ?_
  have less := not_le.1 greater
  rcases Prod.Lex.toLex_lt_toLex.1 less with first | ⟨same, second⟩
  · exact .inl (compare_lt_iff_lt.2 first)
  · exact .inr ⟨compare_eq_iff_eq.2 same, Ordering.then_eq_lt.2 (.inl (compare_lt_iff_lt.2 second))⟩

/-- The row that `latest_completed` chooses has the greatest key. -/
theorem latestCompleted_greatest {s : Subscription} {type : CareType}
    (found : latestCompleted s type = some r) :
    r ∈ s.doneRecords type ∧ ∀ r' ∈ s.doneRecords type, latestKey r' ≤ latestKey r :=
  ⟨firstBy_mem found, firstBy_greatest (fun _ _ => latestKey_le_of_lt)
    (fun _ _ => latestKey_le_of_not_lt) found⟩

end Latest

/-! ### What the writes do -/

section Writes
variable {s t : Subscription} {type : CareType} {selected : CareRecord → Bool} {reason : String}
  {now : Instant} {r : CareRecord}

/-- The row that an update leaves in the place of another. -/
def cancelled (selected : CareRecord → Bool) (reason : String) (now : Instant) (r : CareRecord) :
    CareRecord :=
  if pending : r.status.isOpen = true then
    if selected r then r.cancel reason now pending else r
  else r

theorem records_cancelWhere :
    (cancelWhere s selected reason now).records = s.records.map (cancelled selected reason now) :=
  rfl

theorem openFor_cancelled :
    (cancelled selected reason now r).openFor type = (r.openFor type && !selected r) := by
  unfold cancelled CareRecord.openFor
  split
  · next pending =>
      rw [pending]
      cases selected r with
      | true => simp [CareRecord.cancel, CareStatus.isOpen]
      | false => simp [pending]
  · next settled =>
      simp [settled]

theorem doneFor_cancelled :
    (cancelled selected reason now r).doneFor type = r.doneFor type := by
  unfold cancelled CareRecord.doneFor
  split
  · next pending =>
      split
      · cases status : r.status with
        | completed =>
            rw [status] at pending
            cases pending
        | due => rfl
        | scheduled => rfl
        | overdue => rfl
        | cancelled => rfl
      · rfl
  · rfl

/-- A row that is left alone. -/
theorem cancelled_eq (settled : r.status.isOpen = true → selected r = false) :
    cancelled selected reason now r = r := by
  unfold cancelled
  split
  · next pending => rw [settled pending, if_neg Bool.false_ne_true]
  · rfl

theorem openRecords_cancelWhere : (cancelWhere s selected reason now).openRecords type =
    (s.openRecords type).filter fun r => !selected r := by
  unfold Subscription.openRecords
  rw [records_cancelWhere, List.filter_map, List.filter_filter]
  have same : (fun r => (cancelled selected reason now r).openFor type) =
      fun r => !selected r && r.openFor type := by
    funext r
    rw [openFor_cancelled, Bool.and_comm]
  show (s.records.filter fun r => (cancelled selected reason now r).openFor type).map _ = _
  rw [same]
  refine (List.map_congr_left fun r member => ?_).trans (List.map_id _)
  have kept := (List.mem_filter.1 member).2
  simp only [Bool.and_eq_true, Bool.not_eq_true'] at kept
  exact cancelled_eq fun _ => kept.1

theorem doneRecords_cancelWhere :
    (cancelWhere s selected reason now).doneRecords type = s.doneRecords type := by
  unfold Subscription.doneRecords
  rw [records_cancelWhere, List.filter_map]
  have same : (fun r => (cancelled selected reason now r).doneFor type) =
      fun r => r.doneFor type := funext fun _ => doneFor_cancelled
  show (s.records.filter fun r => (cancelled selected reason now r).doneFor type).map _ = _
  rw [same]
  refine (List.map_congr_left fun r member => ?_).trans (List.map_id _)
  refine cancelled_eq fun pending => ?_
  have done := (List.mem_filter.1 member).2
  simp only [CareRecord.doneFor, Bool.and_eq_true, beq_iff_eq] at done
  rw [done.2] at pending
  cases pending

/-- Where no open row is selected, nothing changes. -/
theorem cancelWhere_eq (settled : ∀ r ∈ s.records, r.status.isOpen = true → selected r = false) :
    cancelWhere s selected reason now = s := by
  have same : s.records.map (cancelled selected reason now) = s.records := by
    refine (List.map_congr_left fun r member => ?_).trans (List.map_id _)
    exact cancelled_eq (settled r member)
  cases s
  unfold cancelWhere Subscription.mapRecords
  simp only [Subscription.mk.injEq, true_and]
  exact same

theorem insert_eq_ok (inserted : s.insert r = .ok t) :
    t.records = s.records ++ [r] ∧ t.modelCode = s.modelCode ∧
      t.managementType = s.managementType ∧ t.startedOn = s.startedOn ∧
      t.eligible = s.eligible ∧ t.nextCareOn = s.nextCareOn := by
  unfold Subscription.insert at inserted
  split at inserted
  · cases inserted
    exact ⟨rfl, rfl, rfl, rfl, rfl, rfl⟩
  · cases inserted

/-- A new row that is not open leaves the open ones. -/
theorem openRecords_insert (inserted : s.insert r = .ok t) (closed : r.openFor type = false) :
    t.openRecords type = s.openRecords type := by
  have ⟨rows, _⟩ := insert_eq_ok inserted
  unfold Subscription.openRecords
  rw [rows, List.filter_append, List.filter_cons_of_neg, List.filter_nil, List.append_nil]
  rw [closed]
  exact Bool.false_ne_true

/-- A new row that is not done leaves those that are. -/
theorem doneRecords_insert (inserted : s.insert r = .ok t) (other : r.doneFor type = false) :
    t.doneRecords type = s.doneRecords type := by
  have ⟨rows, _⟩ := insert_eq_ok inserted
  unfold Subscription.doneRecords
  rw [rows, List.filter_append, List.filter_cons_of_neg, List.filter_nil, List.append_nil]
  rw [other]
  exact Bool.false_ne_true

/-- The cache holds the earliest date of the open rows. -/
def Cached (s : Subscription) : Prop := s.nextCareOn = (openDates s).min?

theorem cached_sync (s : Subscription) : Cached (syncNextCareCache s) := rfl

theorem sync_eq (cached : Cached s) : syncNextCareCache s = s := by
  unfold Cached at cached
  unfold syncNextCareCache
  rw [← cached]

theorem cached_insert (cached : Cached s) (inserted : s.insert r = .ok t)
    (closed : r.status.isOpen = false) : Cached t := by
  have ⟨rows, _, _, _, _, cache⟩ := insert_eq_ok inserted
  unfold Cached openDates at cached ⊢
  rw [cache, cached, rows, List.filter_append, List.filter_cons_of_neg, List.filter_nil,
    List.append_nil]
  rw [closed]
  exact Bool.false_ne_true

end Writes

/-! ### What a calculation leaves -/

/-- The date on which a row was done: its own, or that of its completion. -/
def businessDate (env : Surroundings) (r : CareRecord) : Option Calendar.Date :=
  r.performedOn.or (r.completedAt.map env.localDate)

/-- The date that the schedule counts from: the latest on which a replacement was done, or the
start where there was none. Only a row without `performed_on` may hide a later one that has it. -/
def BaseOf (env : Surroundings) (s : Subscription) (base : Calendar.Date) : Prop :=
  (s.doneRecords .filterReplacement = [] ∧ base = s.startedOn) ∨
    ∃ r ∈ s.doneRecords .filterReplacement, businessDate env r = some base ∧
      ∀ r' ∈ s.doneRecords .filterReplacement, ∃ d, businessDate env r' = some d ∧
        (d ≤ base ∨ r.performedOn = none ∧ r'.performedOn.isSome = true)

/-- No second filter replacement is opened: one is open at most, or all were before. -/
def Opened (s t : Subscription) : Prop :=
  (t.openRecords .filterReplacement).length ≤ 1 ∨
    (t.openRecords .filterReplacement).Sublist (s.openRecords .filterReplacement)

/-- The filter replacement that a rule asks for is open. Another one is left beside it only where
this one was open before. -/
structure Scheduled (env : Surroundings) (s t : Subscription) (rule : CareCycleRule)
    (base next : Calendar.Date) (r : CareRecord) : Prop where
  based : baseOn env t .filterReplacement = .ok base
  isBase : BaseOf env t base
  later : base.addMonths rule.intervalMonths = some next
  opened : r ∈ t.openRecords .filterReplacement
  dated : r.scheduledOn = some next
  named : r.summary = some (scheduleSummary base rule)
  single : (s.openRecords .filterReplacement).length ≤ 1 → t.openRecords .filterReplacement = [r]
  left : t.openRecords .filterReplacement = [r] ∨ r ∈ s.openRecords .filterReplacement ∧
    (t.openRecords .filterReplacement).Sublist (s.openRecords .filterReplacement)

/-- The rule in force for the filter replacement of a subscription. -/
def ruleFor (env : Surroundings) (s : Subscription) : Option CareCycleRule :=
  env.registry.resolve s.modelCode s.managementType .filterReplacement

/-- What a calculation of the filter replacement leaves. -/
structure Aligned (env : Surroundings) (invalidates : Bool) (s t : Subscription) : Prop where
  scheduled : ∀ rule, ruleFor env t = some rule → ∃ base next r, Scheduled env s t rule base next r
  invalidated : ruleFor env t = none → invalidates = true →
    ∀ r ∈ t.openRecords .filterReplacement, isOfficial .filterReplacement r = false
  untouched : ruleFor env t = none → invalidates = false → t = s
  kept : Opened s t
  cached : (ruleFor env t).isSome = true ∨ invalidates = true → Cached t

/-- Calculated once more with the same rules, the rows stay as they are. -/
def Repeats (env : Surroundings) (invalidates : Bool) (t : Subscription) : Prop :=
  ∀ env' reason, env'.registry = env.registry → env'.localDate = env.localDate →
    (ruleFor env t = none → invalidates = true → Py.strip reason ≠ "") →
      ∃ o, recalculateFromRegistry env' t .filterReplacement reason invalidates = .ok (o, t)

section Base
variable {env : Surroundings} {s : Subscription} {r r' : CareRecord} {base : Calendar.Date}

theorem recordDate_eq_ok : recordDate env r = .ok base ↔ businessDate env r = some base := by
  unfold recordDate businessDate
  cases r.performedOn with
  | some date => simp
  | none =>
      cases r.completedAt with
      | some instant => simp
      | none => simp

/-- A row that was done has a date. -/
theorem completedAt_eq_some {type : CareType} (done : r.doneFor type = true)
    (undated : r.performedOn = none) : ∃ instant, r.completedAt = some instant := by
  simp only [CareRecord.doneFor, Bool.and_eq_true, beq_iff_eq] at done
  have ⟨_, _, origin⟩ := r.completed_state done.2
  rcases origin with ⟨_, performed, _⟩ | ⟨_, completed, _⟩
  · rw [undated] at performed
    cases performed
  · exact Option.isSome_iff_exists.1 completed

/-- Of two rows that were done, the one with the greater key has the later date. -/
theorem date_le {type : CareType} (done : r'.doneFor type = true)
    (greater : latestKey r' ≤ latestKey r) (own : businessDate env r = some base) :
    ∃ d, businessDate env r' = some d ∧
      (d ≤ base ∨ r.performedOn = none ∧ r'.performedOn.isSome = true) := by
  unfold businessDate at own ⊢
  have greater := latestKey_le.1 greater
  cases performed' : r'.performedOn with
  | some d =>
      refine ⟨d, rfl, ?_⟩
      cases performed : r.performedOn with
      | none => exact .inr ⟨rfl, rfl⟩
      | some date =>
          rw [performed] at own greater
          rw [performed'] at greater
          cases own
          rcases greater with earlier | ⟨same, _⟩
          · exact .inl (le_of_lt (WithTop.coe_lt_coe.1 earlier))
          · exact .inl (le_of_eq (WithTop.coe_injective same))
  | none =>
      have ⟨instant', completed'⟩ := completedAt_eq_some done performed'
      rw [performed', completed'] at greater
      rw [completed']
      refine ⟨env.localDate instant', rfl, .inl ?_⟩
      rcases greater with beyond | ⟨same, earlier⟩
      · exact absurd beyond not_top_lt
      · cases performed : r.performedOn with
        | some date =>
            rw [performed] at same
            exact absurd same (WithTop.coe_ne_top).symm
        | none =>
            rw [performed] at own
            have ⟨instant, completed, dated⟩ := Option.map_eq_some_iff.1 own
            rw [completed] at earlier
            rw [← dated]
            exact env.localDate.monotone (WithTop.coe_le_coe.1 earlier)

/-- The calculation counts from the base. -/
theorem baseOf_baseOn (found : baseOn env s .filterReplacement = .ok base) :
    BaseOf env s base := by
  unfold baseOn at found
  split at found
  · next r first =>
      have ⟨member, greatest⟩ := latestCompleted_greatest first
      have own := recordDate_eq_ok.1 found
      refine .inr ⟨r, member, own, fun r' listed => ?_⟩
      exact date_le (List.mem_filter.1 listed).2 (greatest r' listed) own
  · next none =>
      cases found
      exact .inl ⟨firstBy_eq_none none, rfl⟩

end Base

section Opened
variable {env : Surroundings} {s s' t u : Subscription} {rule : CareCycleRule}
  {invalidates : Bool}

theorem Opened.trans (first : Opened s t) (second : Opened t u) : Opened s u := by
  cases second with
  | inl single => exact .inl single
  | inr among =>
      cases first with
      | inl single => exact .inl (le_trans among.length_le single)
      | inr before => exact .inr (among.trans before)

/-- The rows before a calculation may be taken with more that are open. -/
theorem Aligned.weaken (fewer : (s'.openRecords .filterReplacement).Sublist
    (s.openRecords .filterReplacement)) (aligned : Aligned env true s' t) :
    Aligned env true s t where
  scheduled rule ruled := by
    have ⟨base, next, r, scheduled⟩ := aligned.scheduled rule ruled
    refine ⟨base, next, r, { scheduled with single := ?_, left := ?_ }⟩
    · exact fun single => scheduled.single (le_trans fewer.length_le single)
    · exact scheduled.left.imp_right fun ⟨before, among⟩ =>
        ⟨fewer.subset before, among.trans fewer⟩
  invalidated := aligned.invalidated
  untouched := nofun
  kept := Opened.trans (.inr fewer) aligned.kept
  cached := aligned.cached

theorem Aligned.cache (aligned : Aligned env invalidates s t) (cached : Cached s) : Cached t := by
  cases ruled : ruleFor env t with
  | some rule => exact aligned.cached (.inl (by rw [ruled]; rfl))
  | none =>
      cases invalidates with
      | true => exact aligned.cached (.inr rfl)
      | false =>
          rw [aligned.untouched ruled rfl]
          exact cached

end Opened

section Step
variable {env : Surroundings} {s t : Subscription} {rule : CareCycleRule} {reason : String}
  {o : Outcome}

/-- What a calculation leaves alone. -/
structure Apart (s t : Subscription) : Prop where
  modelCode : t.modelCode = s.modelCode
  management : t.managementType = s.managementType
  started : t.startedOn = s.startedOn
  eligible : t.eligible = s.eligible
  done : t.doneRecords .filterReplacement = s.doneRecords .filterReplacement

theorem baseOn_congr (apart : Apart s t) :
    baseOn env t .filterReplacement = baseOn env s .filterReplacement := by
  unfold baseOn latestCompleted
  rw [apart.done, apart.started]

theorem ruleFor_congr (apart : Apart s t) : ruleFor env t = ruleFor env s := by
  unfold ruleFor
  rw [apart.modelCode, apart.management]

theorem mem_matching {type : CareType} {next : Calendar.Date} {summary : String} {r : CareRecord}
    (found : matchingOpenSchedule s type next summary = some r) :
    r ∈ s.openRecords type ∧ r.scheduledOn = some next ∧ r.summary = some summary := by
  have ⟨listed, same⟩ := List.mem_filter.1 (firstBy_mem found)
  simp only [Bool.and_eq_true, beq_iff_eq] at same
  exact ⟨listed, same.1, same.2⟩

theorem matching_of_mem {type : CareType} {next : Calendar.Date} {summary : String}
    {r : CareRecord} (listed : r ∈ s.openRecords type) (dated : r.scheduledOn = some next)
    (named : r.summary = some summary) :
    ∃ existing, matchingOpenSchedule s type next summary = some existing := by
  cases chosen : matchingOpenSchedule s type next summary with
  | some existing => exact ⟨existing, rfl⟩
  | none =>
      have none := List.filter_eq_nil_iff.1 (firstBy_eq_none chosen) r listed
      rw [dated, named] at none
      simp at none

/-- The rows after all open replacements were cancelled for a new one. -/
theorem replaced {id : UUID} {next : Calendar.Date} {summary : String} {now : Instant}
    (inserted : (cancelOpenSchedules s .filterReplacement reason now).insert
      (newSchedule id .filterReplacement next summary) = .ok t) :
    Apart s t ∧
      t.openRecords .filterReplacement = [newSchedule id .filterReplacement next summary] := by
  have ⟨rows, model, management, started, eligible, _⟩ := insert_eq_ok inserted
  refine ⟨⟨model, management, started, eligible, ?_⟩, ?_⟩
  · exact (doneRecords_insert inserted rfl).trans doneRecords_cancelWhere
  · have none : (cancelOpenSchedules s .filterReplacement reason now).openRecords
        .filterReplacement = [] := by
      refine openRecords_cancelWhere.trans (List.filter_eq_nil_iff.2 fun r member => ?_)
      have own := (List.mem_filter.1 member).2
      simp only [CareRecord.openFor, Bool.and_eq_true, beq_iff_eq] at own
      simp [own.1]
    show t.records.filter _ = _
    rw [rows, List.filter_append]
    show (cancelOpenSchedules s .filterReplacement reason now).openRecords .filterReplacement ++ _ =
      _
    rw [none]
    rfl

/-- A calculation by a rule. -/
theorem recalculateWithRule_spec (filter : rule.careType = .filterReplacement)
    (ran : recalculateWithRule env s rule reason = .ok (o, t)) :
    Apart s t ∧ (∃ base next r, Scheduled env s t rule base next r) ∧ Cached t := by
  unfold recalculateWithRule at ran
  rw [filter] at ran
  have ⟨base, based, ran⟩ := bind_eq_ok.1 ran
  split at ran
  · cases ran
  · next next later =>
      dsimp only at ran
      split at ran
      · next existing found =>
          cases ran
          have ⟨listed, dated, named⟩ := mem_matching found
          have apart : Apart s (syncNextCareCache s) := ⟨rfl, rfl, rfl, rfl, rfl⟩
          refine ⟨apart, ⟨base, next, existing, ?_⟩, cached_sync s⟩
          refine ⟨based, baseOf_baseOn based, later, listed, dated, named, fun single => ?_, ?_⟩
          · have ⟨r, alone⟩ := List.length_eq_one_iff.1
              (le_antisymm single (List.length_pos_of_mem listed))
            rw [alone] at listed
            rw [List.mem_singleton.1 listed]
            exact alone
          · exact .inr ⟨listed, List.Sublist.refl _⟩
      · have ⟨reason, _, ran⟩ := bind_eq_ok.1 ran
        have ⟨created, inserted, same⟩ := bind_eq_ok.1 ran
        cases same
        have ⟨apart, alone⟩ := replaced inserted
        have apart' : Apart s (syncNextCareCache created) :=
          ⟨apart.modelCode, apart.management, apart.started, apart.eligible, apart.done⟩
        have based' := (baseOn_congr apart').trans based
        refine ⟨apart', ⟨base, next, newSchedule env.scheduleId .filterReplacement next
          (scheduleSummary base rule), ?_⟩, cached_sync created⟩
        refine ⟨based', baseOf_baseOn based', later, ?_, rfl, rfl, fun _ => alone, .inl alone⟩
        show _ ∈ created.openRecords .filterReplacement
        rw [alone]
        exact List.mem_singleton.2 rfl

/-- A calculation without a rule, which takes the official schedules back. -/
theorem recalculateWithoutRule_spec
    (ran : recalculateWithoutRule env s reason true = .ok (o, t)) :
    Apart s t ∧ (t.openRecords .filterReplacement = (s.openRecords .filterReplacement).filter
      fun r => !isOfficial .filterReplacement r) ∧ Cached t := by
  unfold recalculateWithoutRule at ran
  have ⟨reason, _, same⟩ := bind_eq_ok.1 ran
  cases same
  exact ⟨⟨rfl, rfl, rfl, rfl, doneRecords_cancelWhere⟩, openRecords_cancelWhere, cached_sync _⟩

/-- A calculation of the filter replacement. -/
theorem recalculate_spec {invalidates : Bool}
    (ran : recalculateFromRegistry env s .filterReplacement reason invalidates = .ok (o, t)) :
    s.eligible = true ∧ Apart s t ∧ Aligned env invalidates s t := by
  unfold recalculateFromRegistry at ran
  split at ran
  · cases ran
  · next passed =>
      have eligible : s.eligible = true := by simpa using passed
      split at ran
      · next none =>
          have unruled : ruleFor env s = .none := none
          cases invalidates with
          | false =>
              cases ran
              refine ⟨eligible, ⟨rfl, rfl, rfl, rfl, rfl⟩, ?_⟩
              refine ⟨fun rule found => ?_, nofun, fun _ _ => rfl, .inr (List.Sublist.refl _),
                fun either => ?_⟩
              · rw [unruled] at found
                cases found
              · rw [unruled] at either
                cases either with
                | inl ruled => cases ruled
                | inr flag => cases flag
          | true =>
              have ⟨apart, left, cached⟩ := recalculateWithoutRule_spec ran
              refine ⟨eligible, apart, ⟨fun rule found => ?_, fun _ _ r member => ?_, nofun,
                .inr ?_, fun _ => cached⟩⟩
              · rw [ruleFor_congr apart, unruled] at found
                cases found
              · rw [left] at member
                simpa using (List.mem_filter.1 member).2
              · rw [left]
                exact List.filter_sublist
      · next rule found =>
          have ⟨apart, scheduled, cached⟩ := recalculateWithRule_spec (careType_resolve found) ran
          have ruled : ruleFor env t = some rule := (ruleFor_congr apart).trans found
          refine ⟨eligible, apart, ⟨fun rule' found' => ?_, fun none => ?_, fun none => ?_, ?_,
            fun _ => cached⟩⟩
          · rw [ruled] at found'
            rw [← Option.some.inj found']
            exact scheduled
          · rw [ruled] at none
            cases none
          · rw [ruled] at none
            cases none
          · have ⟨_, _, r, scheduled⟩ := scheduled
            cases scheduled.left with
            | inl alone =>
                refine .inl ?_
                rw [alone]
                exact le_refl 1
            | inr among => exact .inr among.2

theorem recalculateWithRule_matched {base next : Calendar.Date} {existing : CareRecord}
    (based : baseOn env s rule.careType = .ok base)
    (later : base.addMonths rule.intervalMonths = some next)
    (chosen : matchingOpenSchedule s rule.careType next (scheduleSummary base rule) =
      some existing) :
    ∃ o, recalculateWithRule env s rule reason = .ok (o, syncNextCareCache s) := by
  unfold recalculateWithRule
  rw [based]
  simp only [bind, Except.bind, later, chosen]
  exact ⟨_, rfl⟩

/-- Where no official schedule is open, none is taken back. -/
theorem recalculateWithoutRule_again (cached : Cached t)
    (invalidated : ∀ r ∈ t.openRecords .filterReplacement,
      isOfficial .filterReplacement r = false) (given : Py.strip reason ≠ "") :
    ∃ o, recalculateWithoutRule env t reason true = .ok (o, t) := by
  have kept : cancelOfficialOpenSchedules t .filterReplacement (Py.strip reason) env.now = t := by
    refine cancelWhere_eq fun r member pending => ?_
    by_cases own : r.careType = .filterReplacement
    · refine invalidated r (List.mem_filter.2 ⟨member, ?_⟩)
      unfold CareRecord.openFor
      rw [own, pending]
      rfl
    · unfold isOfficial
      rw [beq_eq_false_iff_ne.2 own]
      rfl
  have ran : ∃ o, recalculateWithoutRule env t reason true = .ok (o, syncNextCareCache
      (cancelOfficialOpenSchedules t .filterReplacement (Py.strip reason) env.now)) := by
    unfold recalculateWithoutRule requireReason
    rw [if_neg given]
    exact ⟨_, rfl⟩
  rw [kept, sync_eq cached] at ran
  exact ran

/-- Calculated once more, nothing changes. -/
theorem recalculate_again {invalidates : Bool} (eligible : t.eligible = true)
    (aligned : Aligned env invalidates s t) : Repeats env invalidates t := by
  intro env' reason' registry dates given
  have same : env'.registry.resolve t.modelCode t.managementType .filterReplacement =
      ruleFor env t := by
    unfold ruleFor
    rw [registry]
  unfold recalculateFromRegistry
  rw [eligible, same]
  cases found : ruleFor env t with
  | none =>
      dsimp only
      cases invalidates with
      | false => exact ⟨_, rfl⟩
      | true =>
          exact recalculateWithoutRule_again (aligned.cached (.inr rfl))
            (aligned.invalidated found rfl) (given found rfl)
  | some rule =>
      dsimp only
      have filter : rule.careType = .filterReplacement := careType_resolve found
      have ⟨base, next, r, scheduled⟩ := aligned.scheduled rule found
      have based : baseOn env' t .filterReplacement = .ok base := by
        rw [← scheduled.based]
        unfold baseOn recordDate
        rw [dates]
      have ⟨existing, chosen⟩ :=
        matching_of_mem scheduled.opened scheduled.dated scheduled.named
      have ran : ∃ o, recalculateWithRule env' t rule reason' = .ok (o, syncNextCareCache t) :=
        recalculateWithRule_matched (filter ▸ based) scheduled.later (filter ▸ chosen)
      rw [sync_eq (aligned.cached (.inl (by rw [found]; rfl)))] at ran
      exact ran

end Step

/-! ### The operations -/

/-- Whether a call calculates the filter replacement. -/
def Call.concerns : Call → Bool
  | .update _ _ _ => true
  | .record _ care _ => care == .filterReplacement
  | .recalculate type _ _ => type == .filterReplacement

/-- Whether a call takes official schedules back where there is no rule. -/
def Call.invalidates : Call → Bool
  | .update _ _ _ => true
  | .record _ _ _ => true
  | .recalculate _ _ invalidateOfficialOnMiss => invalidateOfficialOnMiss

/-- What a call that calculates the filter replacement leaves. -/
structure Settled (env : Surroundings) (invalidates : Bool) (s t : Subscription) : Prop
    extends Aligned env invalidates s t where
  repeats : Repeats env invalidates t

/-- What every call keeps. -/
structure Kept (s t : Subscription) : Prop where
  opened : Opened s t
  cached : Cached s → Cached t

section Operations
variable {env : Surroundings} {s s' t : Subscription} {reason : String} {o : Outcome}

theorem kept_refl (s : Subscription) : Kept s s := ⟨.inr (List.Sublist.refl _), id⟩

theorem Kept.trans {u : Subscription} (first : Kept s t) (second : Kept t u) : Kept s u :=
  ⟨first.opened.trans second.opened, second.cached ∘ first.cached⟩

theorem Settled.keep {invalidates : Bool} (settled : Settled env invalidates s t) : Kept s t :=
  ⟨settled.kept, settled.cache⟩

theorem settled_recalculate {invalidates : Bool}
    (ran : recalculateFromRegistry env s .filterReplacement reason invalidates = .ok (o, t)) :
    Settled env invalidates s t := by
  have ⟨eligible, apart, aligned⟩ := recalculate_spec ran
  exact ⟨aligned, recalculate_again (apart.eligible.trans eligible) aligned⟩

/-- A calculation that follows a write which opens nothing. -/
theorem Settled.after (fewer : (s'.openRecords .filterReplacement).Sublist
    (s.openRecords .filterReplacement)) (settled : Settled env true s' t) :
    Settled env true s t :=
  ⟨settled.toAligned.weaken fewer, settled.repeats⟩

theorem settled_align (ran : alignApprovedFilterSchedule env s reason = .ok t) :
    Settled env true s t := by
  have ⟨⟨o, t'⟩, ran, same⟩ := map_eq_ok.1 ran
  rw [← same]
  exact settled_recalculate ran

/-- The calculation for another care type. -/
theorem recalculate_other {type : CareType} {invalidates : Bool} (other : type ≠ .filterReplacement)
    (ran : recalculateFromRegistry env s type reason invalidates = .ok (o, t)) :
    Kept s t := by
  unfold recalculateFromRegistry at ran
  split at ran
  · cases ran
  · split at ran
    · cases invalidates with
      | false =>
          cases ran
          exact ⟨.inr (List.Sublist.refl _), id⟩
      | true =>
          have ⟨_, left, cached⟩ := recalculateWithoutRule_spec ran
          refine ⟨.inr ?_, fun _ => cached⟩
          rw [left]
          exact List.filter_sublist
    · next rule found =>
        unfold recalculateWithRule at ran
        rw [careType_resolve found] at ran
        have ⟨base, _, ran⟩ := bind_eq_ok.1 ran
        split at ran
        · cases ran
        · next next _ =>
            dsimp only at ran
            split at ran
            · cases ran
              exact ⟨.inr (List.Sublist.refl _), fun _ => cached_sync s⟩
            · have ⟨reason, _, ran⟩ := bind_eq_ok.1 ran
              have ⟨created, inserted, same⟩ := bind_eq_ok.1 ran
              cases same
              have foreign : (newSchedule env.scheduleId type next
                  (scheduleSummary base rule)).openFor .filterReplacement = false := by
                unfold CareRecord.openFor
                rw [show (newSchedule env.scheduleId type next
                  (scheduleSummary base rule)).careType = type from rfl,
                  beq_eq_false_iff_ne.2 other]
                rfl
              refine ⟨.inr ?_, fun _ => cached_sync created⟩
              show (created.openRecords .filterReplacement).Sublist _
              rw [openRecords_insert inserted foreign]
              exact openRecords_cancelWhere.symm ▸ List.filter_sublist

theorem sublist_baseline {date : Calendar.Date}
    (ran : setRegistrationCareBaseline env s date = .ok t) :
    (t.openRecords .filterReplacement).Sublist (s.openRecords .filterReplacement) := by
  unfold setRegistrationCareBaseline at ran
  dsimp only at ran
  split at ran
  · cases ran
    show ((s.records.map _).filter _).Sublist (s.records.filter _)
    induction s.records with
    | nil => exact List.Sublist.refl _
    | cons r rest ih =>
        rw [List.map_cons]
        by_cases own : r.careCode = baselineCode s.publicId
        · rw [if_pos own, List.filter_cons_of_neg (fun still => by cases still)]
          exact ih.trans ((List.sublist_cons_self r rest).filter _)
        · rw [if_neg own, List.filter_cons, List.filter_cons]
          split
          · exact ih.cons_cons r
          · exact ih
  · rw [openRecords_insert ran rfl]

theorem sublist_baselineIfGiven {date : Option Calendar.Date}
    (ran : setBaselineIfGiven env s date = .ok t) :
    (t.openRecords .filterReplacement).Sublist (s.openRecords .filterReplacement) := by
  cases date with
  | none =>
      cases ran
      exact List.Sublist.refl _
  | some date => exact sublist_baseline ran

theorem settled_update {startedOn : Option Calendar.Date} {management : Option ManagementType}
    {lastCareOn : Option Calendar.Date}
    (ran : updateForCustomer env s startedOn management lastCareOn = .ok t) :
    Settled env true s t := by
  unfold updateForCustomer at ran
  dsimp only at ran
  split at ran
  · cases ran
  · split at ran
    · cases ran
    · split at ran
      · cases ran
      · have ⟨saved, based, ran⟩ := bind_eq_ok.1 ran
        have fewer := sublist_baselineIfGiven based
        exact (settled_align ran).after fewer

theorem recordForCustomer_eq_ok {actor : Nat} {care : SelfCare} {date : Calendar.Date}
    (ran : recordForCustomer env s actor care date = .ok t) :
    ∃ s', s.insert (customerCompleted env.recordId actor care date env.now) = .ok s' ∧
      (care = .cleaning ∧ t = s' ∨ care = .filterReplacement ∧
        ∃ o, recalculateFromRegistry env s' .filterReplacement
          "CUSTOMER_FILTER_REPLACEMENT_COMPLETED" true = .ok (o, t)) := by
  unfold recordForCustomer at ran
  dsimp only at ran
  split at ran
  · cases ran
  · split at ran
    · cases ran
    · have ⟨s', inserted, ran⟩ := bind_eq_ok.1 ran
      refine ⟨s', inserted, ?_⟩
      cases care with
      | cleaning =>
          cases ran
          exact .inl ⟨rfl, rfl⟩
      | filterReplacement =>
          have ⟨⟨o, t'⟩, calculated, same⟩ := bind_eq_ok.1 ran
          cases same
          exact .inr ⟨rfl, o, calculated⟩

theorem record_spec {actor : Nat} {care : SelfCare} {date : Calendar.Date}
    (ran : recordForCustomer env s actor care date = .ok t) :
    Kept s t ∧ (care = .filterReplacement → Settled env true s t) := by
  have ⟨s', inserted, rest⟩ := recordForCustomer_eq_ok ran
  have same : s'.openRecords .filterReplacement = s.openRecords .filterReplacement :=
    openRecords_insert inserted (Bool.and_false _)
  have fewer : (s'.openRecords .filterReplacement).Sublist (s.openRecords .filterReplacement) :=
    same ▸ List.Sublist.refl _
  rcases rest with ⟨cleaning, last⟩ | ⟨_, o, calculated⟩
  · rw [last]
    refine ⟨⟨.inr fewer, fun cached => cached_insert cached inserted rfl⟩, fun filter => ?_⟩
    rw [cleaning] at filter
    cases filter
  · have settled : Settled env true s t := (settled_recalculate calculated).after fewer
    exact ⟨settled.keep, fun _ => settled⟩

/-- Every call that commits. -/
theorem perform_spec {call : Call} (ran : call.perform env s = .ok t) :
    Kept s t ∧ (call.concerns = true → Settled env call.invalidates s t) := by
  cases call with
  | update startedOn management lastCareOn =>
      have settled := settled_update ran
      exact ⟨settled.keep, fun _ => settled⟩
  | record actor care date =>
      have ⟨kept, settled⟩ := record_spec ran
      exact ⟨kept, fun concerns => settled (eq_of_beq concerns)⟩
  | recalculate type reason invalidates =>
      have ⟨⟨o, t'⟩, calculated, same⟩ := map_eq_ok.1 ran
      cases same
      by_cases filter : type = .filterReplacement
      · rw [filter] at calculated
        have settled := settled_recalculate calculated
        exact ⟨settled.keep, fun _ => settled⟩
      · exact ⟨recalculate_other filter calculated, fun concerns =>
          absurd (eq_of_beq concerns) filter⟩

theorem kept_run {labels : List (Surroundings × Call)} (run : Run Committed s labels t) :
    Kept s t :=
  run.invariant (fun _ _ _ kept ran => kept.trans (perform_spec ran).1) (kept_refl s)

theorem settled_create {id : UUID} {modelCode : String} {management : ManagementType}
    {startedOn : Calendar.Date} {lastCareOn : Option Calendar.Date}
    (created : createForCustomer env id modelCode management startedOn lastCareOn = .ok t) :
    Settled env true (newSubscription id modelCode management startedOn) t := by
  have ⟨saved, based, ran⟩ := bind_eq_ok.1 created
  exact (settled_align ran).after (sublist_baselineIfGiven based)

/-- Over every run, whatever the rows are at its start: no call opens a second filter replacement,
and the cache stays in step. After every call that calculates the replacement, the one that the
rule in force asks for is open, alone if one at most was open before; without a rule no official
schedule is open; the cache holds the earliest open date; and the same calculation once more
changes nothing. A subscription has all of this from its creation. -/
theorem schedule_kept {s₀ : Subscription} {labels : List (Surroundings × Call)}
    (run : Run Committed s₀ labels s) :
    Kept s₀ s ∧
    (∀ env call t, Committed s (env, call) t → call.concerns = true →
      Settled env call.invalidates s t) ∧
    ∀ env id modelCode management startedOn lastCareOn,
      createForCustomer env id modelCode management startedOn lastCareOn = .ok s₀ →
        Settled env true (newSubscription id modelCode management startedOn) s₀ ∧
          (s.openRecords .filterReplacement).length ≤ 1 ∧ Cached s := by
  have kept := kept_run run
  refine ⟨kept, fun env call t ran => (perform_spec ran).2, ?_⟩
  intro env id modelCode management startedOn lastCareOn created
  have settled := settled_create created
  have whole := settled.keep.trans kept
  refine ⟨settled, ?_, whole.cached rfl⟩
  cases whole.opened with
  | inl single => exact single
  | inr among => exact le_trans among.length_le (Nat.zero_le 1)

end Operations

namespace Sample

/-- The last day of January. -/
def january : Calendar.Date := ⟨2026, 1, 31, by decide, by decide, by decide⟩

def march : Calendar.Date := ⟨2026, 3, 5, by decide, by decide, by decide⟩

/-- The filter of a product that its customer manages, every four months. -/
def rule (basis : Basis) : CareCycleRule :=
  ⟨.filterReplacement, 4, basis, "manual-page://P031", "REV.00", by decide⟩

def registry (basis : Basis) : Registry :=
  ⟨[⟨"WPUJAC104DWH", .selfManaged, rule basis⟩], List.nodup_singleton _⟩

/-- Surroundings in which every point in time lies in January. -/
def env (basis : Basis) (n : Nat) : Surroundings :=
  ⟨⟨fun _ => january, fun _ _ _ => le_refl january⟩, 0, ⟨BitVec.ofNat 128 n⟩,
    ⟨BitVec.ofNat 128 (n + 1)⟩, registry basis⟩

def created (basis : Basis) : Except Fault Subscription :=
  createForCustomer (env basis 1) ⟨7⟩ "WPUJAC104DWH" .selfManaged january none

/-- A calculation of the filter replacement. -/
def recalculated (s : Subscription) : Except Fault Subscription :=
  Call.perform (env .official 11) s (.recalculate .filterReplacement "CHECK" true)

/-- A replacement that a technician completed and gave no date. -/
def undated : CareRecord where
  publicId := ⟨8⟩
  careCode := "CARE-8"
  careType := .filterReplacement
  status := .completed
  scheduledOn := none
  performedOn := none
  result := none
  completedAt := some 0
  cancelledAt := none
  cancellationReason := none
  summary := none
  performedBy := some 2
  source := .technician
  completed_state := fun _ => ⟨rfl, rfl, .inr ⟨nofun, rfl, rfl⟩⟩
  cancelled_state := nofun
  pending_state := nofun
  single_outcome := fun both => absurd both.2 Bool.false_ne_true

/-- The dates of the open filter replacements of the system. -/
def openOn (s : Subscription) : List (Option (Nat × Nat × Nat)) :=
  ((s.openRecords .filterReplacement).filter (·.source == .system)).map fun r =>
    r.scheduledOn.map fun d => (d.year, d.month, d.day)

end Sample

/-- A schedule of a team rule stays open where the product is no longer under the rule; one that
was open beside the right one stays open too; and a replacement without its date goes before a
later one that has it. -/
theorem schedule_left :
    (Sample.created .teamRule >>= fun s =>
      updateForCustomer (Sample.env .teamRule 3) s none (some .visitCare) none).toOption.map
        (fun t => ((ruleFor (Sample.env .teamRule 3) t).isNone, Sample.openOn t)) =
      some (true, [some (2026, 5, 31)]) ∧
    (Sample.created .official >>= fun s => s.insert
      (newSchedule ⟨9⟩ .filterReplacement Sample.march "another") >>=
        Sample.recalculated).toOption.map Sample.openOn =
      some [some (2026, 5, 31), some (2026, 3, 5)] ∧
    (Sample.created .official >>= fun s => s.insert Sample.undated >>= fun s => s.insert
      (customerCompleted ⟨10⟩ 1 .filterReplacement Sample.march 0) >>=
        Sample.recalculated).toOption.map Sample.openOn =
      some [some (2026, 5, 31)] := by
  refine ⟨?_, ?_, ?_⟩
  · decide +kernel
  · decide +kernel
  · decide +kernel

/-- A replacement that is recorded in March moves the next to July. -/
theorem schedule_kept_sample : ∃ s t,
    Committed s (Sample.env .official 5, .record 1 .filterReplacement Sample.march) t ∧
      Settled (Sample.env .official 5) true s t ∧ Sample.openOn t = [some (2026, 7, 5)] := by
  have ended : (Sample.created .official >>= fun s => Call.perform (Sample.env .official 5) s
      (.record 1 .filterReplacement Sample.march)).toOption.map Sample.openOn =
        some [some (2026, 7, 5)] := by decide +kernel
  have ⟨t, ran, opened⟩ := Option.map_eq_some_iff.1 ended
  cases begun : Sample.created .official with
  | error fault =>
      rw [begun] at ran
      cases ran
  | ok s =>
      rw [begun] at ran
      have ran : (Call.perform (Sample.env .official 5) s
        (.record 1 .filterReplacement Sample.march)).toOption = some t := ran
      have committed : Committed s (Sample.env .official 5,
          .record 1 .filterReplacement Sample.march) t := by
        unfold Committed
        cases performed : Call.perform (Sample.env .official 5) s
            (.record 1 .filterReplacement Sample.march) with
        | error fault =>
            rw [performed] at ran
            cases ran
        | ok t' =>
            rw [performed] at ran
            rw [Option.some.inj ran]
      exact ⟨s, t, committed, (schedule_kept .refl).2.1 _ _ t committed rfl, opened⟩

end WaterCare.Service.CareSchedule
