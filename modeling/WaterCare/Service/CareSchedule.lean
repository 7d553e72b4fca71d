import WaterCare.Machine.Calendar
import WaterCare.Machine.Run
import WaterCare.Service.RequestHash
import WaterCare.Store.Rows

/-!
`CareScheduleService`: the next filter replacement of a subscription, by the approved rule of its
product and management type. The rows of one subscription, and every operation that writes them:
the update of the subscription, the replacement that a customer records, and the calculation
itself.
-/

namespace WaterCare.Service.CareSchedule
open Machine RequestHash Store

/-! ### `care_history.py` -/

inductive CareType
  | filterReplacement
  | periodicCheck
  | cleaning
  | visitService
  | other
  deriving DecidableEq, Repr

inductive CareStatus
  | due
  | scheduled
  | completed
  | overdue
  | cancelled
  deriving DecidableEq, Repr

inductive CareSource
  | customer
  | consultant
  | technician
  | system
  | imported
  deriving DecidableEq, Repr

inductive CareResult
  | normal
  | filterReplaced
  | issueResolved
  deriving DecidableEq, Repr

/-- `OPEN_SCHEDULE_STATUSES`. -/
def CareStatus.isOpen : CareStatus → Bool
  | .due | .scheduled | .overdue => true
  | .completed | .cancelled => false

/-- `CareRecord`, with the check constraints of its table. -/
structure CareRecord where
  publicId : UUID
  careCode : String
  careType : CareType
  status : CareStatus
  scheduledOn : Option Calendar.Date
  performedOn : Option Calendar.Date
  result : Option CareResult
  completedAt : Option Instant
  cancelledAt : Option Instant
  cancellationReason : Option String
  summary : Option String
  performedBy : Option Nat
  source : CareSource
  /-- `ck_care_completed_state`. -/
  completed_state : status = .completed → cancelledAt = none ∧ cancellationReason = none ∧
    (source = .imported ∧ performedOn.isSome ∧ result.isSome ∨
      source ≠ .imported ∧ completedAt.isSome ∧ performedBy.isSome)
  /-- `ck_care_cancelled_state`. -/
  cancelled_state : status = .cancelled → completedAt = none ∧ performedBy = none ∧
    performedOn = none ∧ result = none ∧ cancelledAt.isSome ∧ cancellationReason.isSome
  /-- `ck_care_pending_state`. -/
  pending_state : status.isOpen = true → completedAt = none ∧ performedBy = none ∧
    performedOn = none ∧ result = none ∧ cancelledAt = none ∧ cancellationReason = none
  /-- `ck_care_single_outcome`. -/
  single_outcome : ¬(completedAt.isSome ∧ cancelledAt.isSome)

/-- A row of a care type that is still open. -/
def CareRecord.openFor (type : CareType) (r : CareRecord) : Bool :=
  r.careType == type && r.status.isOpen

/-- A row of a care type that is done. -/
def CareRecord.doneFor (type : CareType) (r : CareRecord) : Bool :=
  r.careType == type && r.status == .completed

/-! ### `care_cycle_rule_registry.py` -/

inductive ManagementType
  | selfManaged
  | visitCare
  deriving DecidableEq, Repr

inductive Basis
  | official
  | teamRule
  deriving DecidableEq, Repr

def Basis.code : Basis → String
  | .official => "OFFICIAL"
  | .teamRule => "TEAM_RULE"

/-- `CareCycleRule`. -/
structure CareCycleRule where
  careType : CareType
  intervalMonths : Nat
  basis : Basis
  sourceReference : String
  sourceVersion : String
  interval_mem : 1 ≤ intervalMonths ∧ intervalMonths ≤ 120

/-- `ApprovedCareCycleRule`. -/
structure ApprovedCareCycleRule where
  productModelCode : String
  managementType : ManagementType
  rule : CareCycleRule

abbrev RuleKey := String × ManagementType × CareType

def ApprovedCareCycleRule.key (entry : ApprovedCareCycleRule) : RuleKey :=
  (entry.productModelCode, entry.managementType, entry.rule.careType)

/-- `ApprovedCareCycleRuleRegistry`: two entries for one scope are refused. -/
structure Registry where
  entries : List ApprovedCareCycleRule
  nodup : (entries.map (·.key)).Nodup

/-- `resolve`. -/
def Registry.resolve (registry : Registry) (productModelCode : String)
    (managementType : ManagementType) (careType : CareType) : Option CareCycleRule :=
  (registry.entries.find? fun entry =>
    entry.key == (productModelCode, managementType, careType)).map (·.rule)

theorem careType_resolve {registry : Registry} {code : String} {management : ManagementType}
    {type : CareType} {rule : CareCycleRule}
    (resolved : registry.resolve code management type = some rule) : rule.careType = type := by
  have ⟨entry, found, same⟩ := Option.map_eq_some_iff.1 resolved
  have key := eq_of_beq (List.find?_some (p := fun entry : ApprovedCareCycleRule =>
    entry.key == (code, management, type)) found)
  rw [← same]
  exact (Prod.mk.inj (Prod.mk.inj key).2).2

/-! ### The rows of a subscription -/

inductive SubscriptionStatus
  | active
  | suspended
  | cancelled
  | expired
  deriving DecidableEq, Repr

/-- `CustomerSubscription` with its product and its care records. -/
structure Subscription where
  publicId : UUID
  modelCode : String
  supportedMvp : Bool
  productActive : Bool
  status : SubscriptionStatus
  managementType : ManagementType
  startedOn : Calendar.Date
  nextCareOn : Option Calendar.Date
  records : List CareRecord
  ids_nodup : (records.map (·.publicId)).Nodup
  codes_nodup : (records.map (·.careCode)).Nodup

/-- What an operation raises. -/
inductive Fault
  | doesNotExist
  | notFound
  | validationError (field message : String)
  | valueError (message : String)
  | integrityError
  deriving DecidableEq, Repr

def supportedProductModelCode : String := "WPUJAC104DWH"

def supportedProductModelCodes : List String := ["WPUJAC104DWH", "WPUIAC425SNW", "WPUIAC606SNW"]

namespace Subscription

/-- The filter of `lock_eligible_subscription` and `lock_owned_active_subscription`. -/
def eligible (s : Subscription) : Bool :=
  s.status == .active && supportedProductModelCodes.contains s.modelCode && s.supportedMvp &&
    s.productActive

def openRecords (s : Subscription) (type : CareType) : List CareRecord :=
  s.records.filter (·.openFor type)

def doneRecords (s : Subscription) (type : CareType) : List CareRecord :=
  s.records.filter (·.doneFor type)

/-- The rows with a change that keeps their ids and codes. -/
def mapRecords (s : Subscription) (f : CareRecord → CareRecord)
    (ids : ∀ r, (f r).publicId = r.publicId) (codes : ∀ r, (f r).careCode = r.careCode) :
    Subscription :=
  { s with
    records := s.records.map f
    ids_nodup := by
      have same : (fun r => (f r).publicId) = fun r => r.publicId := funext ids
      rw [List.map_map]
      show (s.records.map fun r => (f r).publicId).Nodup
      rw [same]
      exact s.ids_nodup
    codes_nodup := by
      have same : (fun r => (f r).careCode) = fun r => r.careCode := funext codes
      rw [List.map_map]
      show (s.records.map fun r => (f r).careCode).Nodup
      rw [same]
      exact s.codes_nodup }

/-- A new row; its id and its code are unique. -/
def insert (s : Subscription) (r : CareRecord) : Except Fault Subscription :=
  if h : r.publicId ∉ s.records.map (·.publicId) ∧ r.careCode ∉ s.records.map (·.careCode) then
    .ok { s with
      records := s.records ++ [r]
      ids_nodup := by
        rw [List.map_append]
        refine List.nodup_append.2 ⟨s.ids_nodup, List.nodup_singleton _, ?_⟩
        intro id old new member same
        have own : new = r.publicId := List.mem_singleton.1 member
        rw [same, own] at old
        exact h.1 old
      codes_nodup := by
        rw [List.map_append]
        refine List.nodup_append.2 ⟨s.codes_nodup, List.nodup_singleton _, ?_⟩
        intro code old new member same
        have own : new = r.careCode := List.mem_singleton.1 member
        rw [same, own] at old
        exact h.2 old }
  else .error .integrityError

end Subscription

/-! ### `care_schedule_repository.py` -/

/-- `hex`. -/
def hex (id : UUID) : List Char := hexText 32 id.int.toNat

/-- Whether a row comes before another in the descending order of a nullable column: the rows
without a value come first. -/
def descending {α : Type} [LinearOrder α] (x y : Option α) : Ordering :=
  match x, y with
  | none, none => .eq
  | none, some _ => .lt
  | some _, none => .gt
  | some x, some y => compare y x

/-- `order_by("-performed_on", "-completed_at", "-public_id")`. -/
def latestFirst (r r' : CareRecord) : Ordering :=
  (descending r.performedOn r'.performedOn).then
    ((descending r.completedAt r'.completedAt).then
      (compare r'.publicId.int.toNat r.publicId.int.toNat))

/-- `first()` of ordered rows. -/
def firstBy (order : CareRecord → CareRecord → Ordering) : List CareRecord → Option CareRecord
  | [] => none
  | r :: rest =>
      match firstBy order rest with
      | none => some r
      | some r' => if order r' r = .lt then some r' else some r

/-- `latest_completed`. -/
def latestCompleted (s : Subscription) (type : CareType) : Option CareRecord :=
  firstBy latestFirst (s.doneRecords type)

/-- `matching_open_schedule`. -/
def matchingOpenSchedule (s : Subscription) (type : CareType) (scheduledOn : Calendar.Date)
    (summary : String) : Option CareRecord :=
  firstBy (fun r r' => compare r.publicId.int.toNat r'.publicId.int.toNat)
    ((s.openRecords type).filter fun r =>
      r.scheduledOn == some scheduledOn && r.summary == some summary)

/-- The update of a row that is cancelled. -/
def CareRecord.cancel (r : CareRecord) (reason : String) (now : Instant)
    (pending : r.status.isOpen = true) : CareRecord :=
  { r with
    status := .cancelled
    cancelledAt := some now
    cancellationReason := some reason
    completed_state := nofun
    cancelled_state := fun _ => by
      have ⟨completed, performedBy, performedOn, result, _, _⟩ := r.pending_state pending
      exact ⟨completed, performedBy, performedOn, result, rfl, rfl⟩
    pending_state := nofun
    single_outcome := by
      have completed := (r.pending_state pending).1
      rw [completed]
      exact fun both => absurd both.1 Bool.false_ne_true }

/-- The open rows that a filter selects are cancelled. -/
def cancelWhere (s : Subscription) (selected : CareRecord → Bool) (reason : String)
    (now : Instant) : Subscription :=
  s.mapRecords
    (fun r =>
      if pending : r.status.isOpen = true then
        if selected r then r.cancel reason now pending else r
      else r)
    (fun r => by
      split
      · split
        · rfl
        · rfl
      · rfl)
    (fun r => by
      split
      · split
        · rfl
        · rfl
      · rfl)

/-- `cancel_open_schedules`. -/
def cancelOpenSchedules (s : Subscription) (type : CareType) (reason : String) (now : Instant) :
    Subscription :=
  cancelWhere s (fun r => r.careType == type) reason now

def officialPrefix : String := "basis=OFFICIAL;"

/-- A schedule that an official rule made. -/
def isOfficial (type : CareType) (r : CareRecord) : Bool :=
  r.careType == type && r.source == .system &&
    r.summary.any fun summary => officialPrefix.toList.isPrefixOf summary.toList

/-- `cancel_official_open_schedules`. -/
def cancelOfficialOpenSchedules (s : Subscription) (type : CareType) (reason : String)
    (now : Instant) : Subscription :=
  cancelWhere s (isOfficial type) reason now

/-- `create_schedule`. -/
def newSchedule (id : UUID) (type : CareType) (scheduledOn : Calendar.Date) (summary : String) :
    CareRecord where
  publicId := id
  careCode := "SCHEDULE-" ++ String.ofList ((hex id).map Char.toUpper)
  careType := type
  status := .scheduled
  scheduledOn := some scheduledOn
  performedOn := none
  result := none
  completedAt := none
  cancelledAt := none
  cancellationReason := none
  summary := some summary
  performedBy := none
  source := .system
  completed_state := nofun
  cancelled_state := nofun
  pending_state := fun _ => ⟨rfl, rfl, rfl, rfl, rfl, rfl⟩
  single_outcome := fun both => absurd both.1 Bool.false_ne_true

/-- The dates of the open rows. -/
def openDates (s : Subscription) : List Calendar.Date :=
  (s.records.filter (·.status.isOpen)).filterMap (·.scheduledOn)

/-- `sync_next_care_cache`. -/
def syncNextCareCache (s : Subscription) : Subscription :=
  { s with nextCareOn := (openDates s).min? }

/-! ### `care_schedule_service.py` -/

/-- `isoformat` of a date. -/
def isoformat (d : Calendar.Date) : String := Date.isoformat ⟨d.year, d.month, d.day⟩

/-- `_schedule_summary`. -/
def scheduleSummary (base : Calendar.Date) (rule : CareCycleRule) : String :=
  "basis=" ++ rule.basis.code ++ ";source_reference=" ++ rule.sourceReference ++
    ";source_version=" ++ rule.sourceVersion ++
    ";interval_months=" ++ toString rule.intervalMonths ++ ";base_on=" ++ isoformat base

/-- What an operation is given by its surroundings: the local date of a point in time, the time,
the ids of new rows and the rules that are in force. -/
structure Surroundings where
  localDate : Instant →o Calendar.Date
  now : Instant
  scheduleId : UUID
  recordId : UUID
  registry : Registry

inductive ScheduleStatus
  | scheduled
  | confirmationRequired
  deriving DecidableEq, Repr

/-- `NextCareSchedule`. -/
structure NextCareSchedule where
  status : ScheduleStatus
  nextCareOn : Option Calendar.Date
  basis : Option Basis
  baseOn : Calendar.Date
  careType : Option CareType
  sourceReference : Option String
  sourceVersion : Option String

/-- `CareScheduleMutationOutcome`. -/
structure Outcome where
  changed : Bool
  schedule : NextCareSchedule
  recordId : Option UUID

section Service
variable (env : Surroundings)

/-- `_record_date`. -/
def recordDate (r : CareRecord) : Except Fault Calendar.Date :=
  match r.performedOn with
  | some date => .ok date
  | none =>
      match r.completedAt with
      | some instant => .ok (env.localDate instant)
      | none => .error (.valueError "COMPLETED CareRecord has no business date")

/-- The date that a schedule counts from. -/
def baseOn (s : Subscription) (type : CareType) : Except Fault Calendar.Date :=
  match latestCompleted s type with
  | some r => recordDate env r
  | none => .ok s.startedOn

/-- `change_reason.strip()`, which must not be empty. -/
def requireReason (reason : String) : Except Fault String :=
  if Py.strip reason = "" then .error (.valueError "change_reason is required")
  else .ok (Py.strip reason)

/-- `_recalculate_locked` without a rule. -/
def recalculateWithoutRule (s : Subscription) (reason : String) (invalidateOfficialOnMiss : Bool) :
    Except Fault (Outcome × Subscription) :=
  let schedule : NextCareSchedule :=
    ⟨.confirmationRequired, none, none, s.startedOn, none, none, none⟩
  if !invalidateOfficialOnMiss then .ok (⟨false, schedule, none⟩, s)
  else do
    let reason ← requireReason reason
    let cancelled := (s.openRecords .filterReplacement).filter (isOfficial .filterReplacement)
    let t := syncNextCareCache (cancelOfficialOpenSchedules s .filterReplacement reason env.now)
    return (⟨!cancelled.isEmpty || t.nextCareOn != s.nextCareOn, schedule, none⟩, t)

/-- `_recalculate_locked` with a rule. A date after the year 9999 is refused. -/
def recalculateWithRule (s : Subscription) (rule : CareCycleRule) (reason : String) :
    Except Fault (Outcome × Subscription) := do
  let base ← baseOn env s rule.careType
  match base.addMonths rule.intervalMonths with
  | none => throw (.valueError "year is out of range")
  | some next =>
      let schedule : NextCareSchedule := ⟨.scheduled, some next, some rule.basis, base,
        some rule.careType, some rule.sourceReference, some rule.sourceVersion⟩
      let summary := scheduleSummary base rule
      match matchingOpenSchedule s rule.careType next summary with
      | some existing => return (⟨false, schedule, some existing.publicId⟩, syncNextCareCache s)
      | none =>
          let reason ← requireReason reason
          let created ← (cancelOpenSchedules s rule.careType reason env.now).insert
            (newSchedule env.scheduleId rule.careType next summary)
          return (⟨true, schedule, some env.scheduleId⟩, syncNextCareCache created)

/-- `recalculate_from_registry`, with the rows after it. -/
def recalculateFromRegistry (s : Subscription) (type : CareType) (reason : String)
    (invalidateOfficialOnMiss : Bool) : Except Fault (Outcome × Subscription) :=
  if !s.eligible then .error .doesNotExist
  else
    match env.registry.resolve s.modelCode s.managementType type with
    | none => recalculateWithoutRule env s reason invalidateOfficialOnMiss
    | some rule => recalculateWithRule env s rule reason

/-! ### `subscription_service.py` and `care_history_service.py` -/

/-- `_align_approved_filter_schedule`. -/
def alignApprovedFilterSchedule (s : Subscription) (reason : String) :
    Except Fault Subscription :=
  (recalculateFromRegistry env s .filterReplacement reason true).map (·.2)

def baselineCode (id : UUID) : String := "T018-BASE-" ++ String.ofList (hex id)

/-- The values of the registration baseline. -/
def baseline (id : UUID) (code : String) (performedOn : Calendar.Date) : CareRecord where
  publicId := id
  careCode := code
  careType := .filterReplacement
  status := .completed
  scheduledOn := none
  performedOn := some performedOn
  result := some .filterReplaced
  completedAt := none
  cancelledAt := none
  cancellationReason := none
  summary := some "T-018 synthetic registration baseline"
  performedBy := none
  source := .imported
  completed_state := fun _ => ⟨rfl, rfl, .inl ⟨rfl, rfl, rfl⟩⟩
  cancelled_state := nofun
  pending_state := nofun
  single_outcome := fun both => absurd both.1 Bool.false_ne_true

/-- `set_registration_care_baseline`. -/
def setRegistrationCareBaseline (s : Subscription) (performedOn : Calendar.Date) :
    Except Fault Subscription :=
  let code := baselineCode s.publicId
  if s.records.any (·.careCode == code) then
    .ok (s.mapRecords
      (fun r => if r.careCode = code then baseline r.publicId r.careCode performedOn else r)
      (fun r => by
        split
        · rfl
        · rfl)
      (fun r => by
        split
        · rfl
        · rfl))
  else s.insert (baseline env.recordId code performedOn)

def setBaselineIfGiven (s : Subscription) (lastCareOn : Option Calendar.Date) :
    Except Fault Subscription :=
  match lastCareOn with
  | none => .ok s
  | some performedOn => setRegistrationCareBaseline env s performedOn

/-- The rows of a subscription that `create_for_customer` has just made. -/
def newSubscription (id : UUID) (modelCode : String) (managementType : ManagementType)
    (startedOn : Calendar.Date) : Subscription where
  publicId := id
  modelCode := modelCode
  supportedMvp := true
  productActive := true
  status := .active
  managementType := managementType
  startedOn := startedOn
  nextCareOn := none
  records := []
  ids_nodup := List.nodup_nil
  codes_nodup := List.nodup_nil

/-- `create_for_customer`, of a product that `find_supported_product` returns. -/
def createForCustomer (id : UUID) (modelCode : String) (managementType : ManagementType)
    (startedOn : Calendar.Date) (lastCareOn : Option Calendar.Date) :
    Except Fault Subscription := do
  let created := newSubscription id modelCode managementType startedOn
  let s ← setBaselineIfGiven env created lastCareOn
  alignApprovedFilterSchedule env s "SUBSCRIPTION_CREATED"

/-- The dates of `_completed_care_dates`. -/
def completedCareDates (s : Subscription) : List Calendar.Date :=
  (s.records.filter (·.status == .completed)).filterMap fun r =>
    match r.performedOn with
    | some date => some date
    | none => r.completedAt.map env.localDate

/-- `update_for_customer`, after the replay of an earlier request. -/
def updateForCustomer (s : Subscription) (startedOn : Option Calendar.Date)
    (managementType : Option ManagementType) (lastCareOn : Option Calendar.Date) :
    Except Fault Subscription := do
  if !s.eligible then throw .notFound
  let started := startedOn.getD s.startedOn
  if lastCareOn.any fun date => decide (date < started) then
    throw (.validationError "last_care_on" "사용 시작일보다 빠를 수 없습니다.")
  if (completedCareDates env s).any fun date => decide (date < started) then
    throw (.validationError "started_on" "기존 완료 관리일보다 늦출 수 없습니다.")
  let saved := { s with
    startedOn := started
    managementType := managementType.getD s.managementType }
  let s ← setBaselineIfGiven env saved lastCareOn
  alignApprovedFilterSchedule env s "SUBSCRIPTION_SCOPE_OR_BASELINE_CHANGED"

/-- The care types that a customer records, with `SELF_CARE_RESULT`. -/
inductive SelfCare
  | filterReplacement
  | cleaning
  deriving DecidableEq, Repr

def SelfCare.careType : SelfCare → CareType
  | .filterReplacement => .filterReplacement
  | .cleaning => .cleaning

def SelfCare.result : SelfCare → CareResult
  | .filterReplacement => .filterReplaced
  | .cleaning => .normal

/-- `create_customer_completed`. -/
def customerCompleted (id : UUID) (actor : Nat) (care : SelfCare) (performedOn : Calendar.Date)
    (now : Instant) : CareRecord where
  publicId := id
  careCode := "CARE-" ++ String.ofList ((hex id).map Char.toUpper)
  careType := care.careType
  status := .completed
  scheduledOn := none
  performedOn := some performedOn
  result := some care.result
  completedAt := some now
  cancelledAt := none
  cancellationReason := none
  summary := none
  performedBy := some actor
  source := .customer
  completed_state := fun _ => ⟨rfl, rfl, .inr ⟨nofun, rfl, rfl⟩⟩
  cancelled_state := nofun
  pending_state := nofun
  single_outcome := fun both => absurd both.2 Bool.false_ne_true

/-- The filter of `visible_subscription`. -/
def visible (s : Subscription) : Bool :=
  s.status == .active && s.modelCode == supportedProductModelCode && s.supportedMvp &&
    s.productActive

/-- `create_for_customer` of the care history, after the replay of an earlier request. -/
def recordForCustomer (s : Subscription) (actor : Nat) (care : SelfCare)
    (performedOn : Calendar.Date) : Except Fault Subscription := do
  if !visible s then throw .notFound
  if performedOn < s.startedOn then
    throw (.validationError "performed_on" "구독 시작일보다 빠를 수 없습니다.")
  let s ← s.insert (customerCompleted env.recordId actor care performedOn env.now)
  match care with
  | .cleaning => return s
  | .filterReplacement =>
      return (← recalculateFromRegistry env s .filterReplacement
        "CUSTOMER_FILTER_REPLACEMENT_COMPLETED" true).2

end Service

/-! ### The runs -/

/-- What is done to a subscription. -/
inductive Call
  | update (startedOn : Option Calendar.Date) (managementType : Option ManagementType)
      (lastCareOn : Option Calendar.Date)
  | record (actor : Nat) (care : SelfCare) (performedOn : Calendar.Date)
  | recalculate (type : CareType) (reason : String) (invalidateOfficialOnMiss : Bool)

/-- The transaction of a call. -/
def Call.perform (env : Surroundings) (s : Subscription) : Call → Except Fault Subscription
  | .update startedOn managementType lastCareOn =>
      updateForCustomer env s startedOn managementType lastCareOn
  | .record actor care performedOn => recordForCustomer env s actor care performedOn
  | .recalculate type reason invalidateOfficialOnMiss =>
      (recalculateFromRegistry env s type reason invalidateOfficialOnMiss).map (·.2)

/-- A call that commits. -/
def Committed (s : Subscription) (event : Surroundings × Call) (t : Subscription) : Prop :=
  event.2.perform event.1 s = .ok t

end WaterCare.Service.CareSchedule
