import Mathlib.Data.List.AList
import Mathlib.Data.List.MinMax
import Mathlib.Data.Prod.Lex
import WaterCare.Store.Rows

/-!
The database the services share: accounts and subscriptions, one aggregate for
each inquiry, and the idempotency records. A write either yields a row the
database accepts or fails and is rolled back with its whole transaction.
-/

namespace WaterCare.Store
open Workflow Analysis Py

/-! ### Failed requests -/

/-- What a service raises. Exceptions the views do not translate are answered
with status 500. -/
inductive Failure
  | business (code message : String) (details : Dict) (status : Nat)
  | notFound
  | permissionDenied
  | supervisor (code message : String)
  | raised (name : String)

namespace Failure

def status : Failure → Nat
  | business _ _ _ status => status
  | notFound => 404
  | permissionDenied => 403
  | supervisor _ _ => 400
  | raised _ => 500

/-- `BusinessError(INTERNAL_ERROR, message, details={}, status_code=500)`. -/
def internalError (message : String) : Failure := business "INTERNAL_ERROR" message [] 500

end Failure

/-- A row as the database takes it, or the error of the violated constraint. -/
def save {α : Type} [Table α] (row : α) (error : String) : Except Failure (Stored α) :=
  if h : Table.accepts row = true then .ok ⟨row, h⟩ else .error (.raised error)

theorem save_ok {α : Type} [Table α] {row : α} {error : String} {stored : Stored α} :
    save row error = .ok stored ↔ stored.1 = row := by
  unfold save
  split_ifs with accepted
  · constructor
    · intro h
      cases h
      rfl
    · intro h
      exact congrArg Except.ok (Subtype.ext h.symm)
  · constructor
    · intro h
      cases h
    · intro h
      exact absurd (h ▸ stored.2) accepted

theorem save_isOk {α : Type} [Table α] {row : α} {error : String} :
    (∃ stored, save row error = .ok stored) ↔ Table.accepts row = true := by
  constructor
  · rintro ⟨stored, saved⟩
    exact save_ok.1 saved ▸ stored.2
  · intro accepted
    exact ⟨⟨row, accepted⟩, save_ok.2 rfl⟩

/-! ### Accounts and subscriptions -/

structure Directory where
  user : Nat → Option User
  customer : Nat → Option (Stored Customer)
  subscription : Nat → Option Subscription

namespace Directory
variable (d : Directory)

def customerOf (q : Inquiry) : Option Customer :=
  ((d.subscription q.subscription).bind fun s => d.customer s.customer).map (·.1)

/-- `subscription__customer__user=actor` with a customer that is not deleted. -/
def owns (actor : User) (q : Inquiry) : Bool :=
  (d.customerOf q).any fun c => decide (c.user = some actor.id) && c.deletedAt.isNone

/-- `initiated_by__is_synthetic` and `subscription__customer__is_synthetic`. -/
def isSynthetic (q : Inquiry) : Bool :=
  ((d.user q.initiatedBy).any (·.isSynthetic)) && (d.customerOf q).any (·.isSynthetic)

end Directory

/-! ### The aggregate of an inquiry -/

/-- An inquiry with the rows that refer to it. `history` holds the transition
history whose target is the inquiry, in the order of its insertion. -/
structure Aggregate where
  inquiry : Stored Inquiry
  consultations : List (Stored Consultation)
  visits : List (Stored Visit)
  followups : List (Stored FollowupConfirmation)
  history : List (Stored InquiryHistory)
  visitHistory : List (Stored VisitHistory)
  questions : List InquiryQA
  guidances : List (Stored Guidance)
  assessments : List (Stored SymptomAssessment)
  reviews : List (Stored HumanReview)
  runs : List (Stored AIRun)
  causeLedgers : List ConsultationCauseLedger
  handoffs : List ConsultationHandoff
  handoffReports : List HandoffReport
  actionResults : List (Stored CustomerActionResult)

/-- The row with the greatest key, as `order_by(...).first()` on descending keys returns it. -/
def newest {α β : Type} [LinearOrder β] (key : α → β) (rows : List α) : Option α :=
  rows.argmax key

/-- The rows after an update of the one with the given identifier. -/
def replaceRow {α : Type} (id : α → Nat) (row : α) (rows : List α) : List α :=
  rows.map fun other => if id other = id row then row else other

section
variable {α : Type} {id : α → Nat} {row x : α} {rows : List α} {k : Nat}

theorem mem_replaceRow (mem : x ∈ replaceRow id row rows) :
    x ∈ rows ∨ x = row ∧ ∃ old ∈ rows, id old = id row := by
  obtain ⟨old, there, same⟩ := List.mem_map.1 mem
  by_cases own : id old = id row
  · rw [if_pos own] at same
    exact .inr ⟨same.symm, old, there, own⟩
  · rw [if_neg own] at same
    exact .inl (same ▸ there)

theorem mem_replaceRow_cases (mem : x ∈ replaceRow id row rows) :
    x ∈ rows ∧ id x ≠ id row ∨ x = row := by
  have ⟨old, there, same⟩ := List.mem_map.1 mem
  by_cases own : id old = id row
  · rw [if_pos own] at same
    exact .inr same.symm
  · rw [if_neg own] at same
    exact .inl ⟨same ▸ there, same ▸ own⟩

theorem mem_replaceRow_self (mem : x ∈ rows) (same : id x = id row) : row ∈ replaceRow id row rows :=
  List.mem_map.2 ⟨x, mem, if_pos same⟩

theorem mem_replaceRow_other (mem : x ∈ rows) (other : id x ≠ id row) :
    x ∈ replaceRow id row rows :=
  List.mem_map.2 ⟨x, mem, if_neg other⟩

theorem map_replaceRow (id : α → Nat) (row : α) (rows : List α) :
    (replaceRow id row rows).map id = rows.map id := by
  unfold replaceRow
  rw [List.map_map]
  refine List.map_congr_left ?_
  intro x _
  change id (if id x = id row then row else x) = id x
  split_ifs with own
  · exact own.symm
  · rfl

/-- The updated row is found where the old one was. -/
theorem find_replaceRow (found : rows.find? (fun r => decide (id r = k)) = some x)
    (same : id row = k) :
    (replaceRow id row rows).find? (fun r => decide (id r = k)) = some row := by
  induction rows with
  | nil => cases found
  | cons first rest ih =>
      unfold replaceRow
      rw [List.map_cons]
      by_cases own : id first = k
      · rw [if_pos (own.trans same.symm)]
        exact List.find?_cons_of_pos (p := fun r => decide (id r = k)) (decide_eq_true same)
      · rw [if_neg (fun h => own (h.trans same))]
        have other : ¬decide (id first = k) = true := by
          rwa [decide_eq_true_eq]
        exact (List.find?_cons_of_neg (p := fun r => decide (id r = k)) other).trans
          (ih ((List.find?_cons_of_neg (p := fun r => decide (id r = k)) other).symm.trans found))

/-- The other rows are found as before. -/
theorem find_replaceRow_ne (other : id row ≠ k) :
    (replaceRow id row rows).find? (fun r => decide (id r = k)) =
      rows.find? (fun r => decide (id r = k)) := by
  induction rows with
  | nil => rfl
  | cons first rest ih =>
      unfold replaceRow at ih ⊢
      rw [List.map_cons, List.find?_cons, List.find?_cons, ih]
      by_cases own : id first = id row
      · rw [if_pos own, own, decide_eq_false other]
      · rw [if_neg own]

end

/-- What the latest completed consultation or visit says about its handling. -/
structure CompletedHandling where
  sourceCode : String
  completedAt : Instant
  handler : Option Nat
  consultation : Option Nat
  visit : Option Nat
  deriving DecidableEq, Repr

namespace Aggregate
variable (a : Aggregate)

abbrev q : Inquiry := a.inquiry.1

def latestConsultation : Option (Stored Consultation) :=
  newest (fun c => toLex (c.1.sequence, c.1.id)) a.consultations

def latestVisit : Option (Stored Visit) := newest (fun v => toLex (v.1.createdAt, v.1.id)) a.visits

def latestVisitStatus : Option VisitStatus := a.latestVisit.map (·.1.status)

def snapshot : Snapshot := ⟨some (a.q.status, a.q.stateVersion), a.latestVisitStatus⟩

def completedConsultation : Option (Stored Consultation) :=
  newest (fun c => toLex (c.1.completedAt.getD 0, c.1.id))
    (a.consultations.filter fun c => decide (c.1.status = .completed) && c.1.completedAt.isSome)

def completedVisit : Option (Stored Visit) :=
  newest (fun v => toLex (v.1.completedAt.getD 0, v.1.id))
    (a.visits.filter fun v => decide (v.1.status = .completed) && v.1.completedAt.isSome)

/-- `lock_completed_handling`: the later of the two completions, a visit before a
consultation of the same instant. -/
def completedHandling : Option CompletedHandling :=
  match a.completedConsultation, a.completedVisit with
  | none, none => none
  | some c, none => some (ofConsultation c.1)
  | none, some v => some (ofVisit v.1)
  | some c, some v =>
      if c.1.completedAt.getD 0 ≤ v.1.completedAt.getD 0 then some (ofVisit v.1)
      else some (ofConsultation c.1)
where
  ofConsultation (c : Consultation) : CompletedHandling :=
    ⟨"CONSULTATION", c.completedAt.getD 0, c.consultant, some c.id, none⟩
  ofVisit (v : Visit) : CompletedHandling :=
    ⟨"VISIT", v.completedAt.getD 0, v.technician, none, some v.id⟩

/-- `fresh_resolved_feedback_exists`. -/
def freshResolvedFeedback (completedAt : Instant) : Bool :=
  a.followups.any fun f =>
    decide (f.1.resolutionStatus = .resolved) && decide (completedAt < f.1.createdAt)

/-- `Max("sequence")` or zero. -/
def lastSequence : Nat := (a.consultations.map (·.1.sequence)).foldr max 0

def putConsultation (c : Stored Consultation) : Aggregate :=
  { a with consultations := replaceRow (·.1.id) c a.consultations }

def putVisit (v : Stored Visit) : Aggregate :=
  { a with visits := replaceRow (·.1.id) v a.visits }

/-- Inserts a history row, unique for its inquiry and version. -/
def recordHistory (row : InquiryHistory) : Except Failure Aggregate := do
  let stored ← save row "IntegrityError"
  if a.history.any fun h => decide (h.1.stateVersion = row.stateVersion) then
    .error (.raised "IntegrityError")
  else pure { a with history := a.history ++ [stored] }

/-- Inserts a visit history row, unique for its visit and version. -/
def recordVisitHistory (row : VisitHistory) : Except Failure Aggregate := do
  let stored ← save row "IntegrityError"
  if a.visitHistory.any fun h =>
      decide (h.1.visit = row.visit) && decide (h.1.stateVersion = row.stateVersion) then
    .error (.raised "IntegrityError")
  else pure { a with visitHistory := a.visitHistory ++ [stored] }

end Aggregate

/-! ### Idempotency records -/

/-- The operations with an idempotency scope of their own. -/
inductive OperationId
  | startInquiry
  | registerConsultantPhoneInquiry
  | submitSymptom
  | submitFollowUpAnswers
  | createInquiryActionResult
  | requestConsultation
  | cancelInquiry
  | claimConsultation
  | startConsultation
  | updateConsultationSummary
  | confirmConsultationSummary
  | completeConsultation
  | requestVisitReview
  | createVisitRequest
  | markVisitNotNeeded
  | updateVisitSchedule
  | confirmVisit
  | submitResolutionFeedback
  | reportUnresolved
  | resumeConsultation
  | finalizeInquiry
  | decideHumanReview
  | startCarePrecheck
  | saveCarePrecheck
  | submitCarePrecheck
  deriving DecidableEq, Repr

def OperationId.code : OperationId → String
  | startInquiry => "startInquiry"
  | registerConsultantPhoneInquiry => "registerConsultantPhoneInquiry"
  | submitSymptom => "submitSymptom"
  | submitFollowUpAnswers => "submitFollowUpAnswers"
  | createInquiryActionResult => "createInquiryActionResult"
  | requestConsultation => "requestConsultation"
  | cancelInquiry => "cancelInquiry"
  | claimConsultation => "claimConsultation"
  | startConsultation => "startConsultation"
  | updateConsultationSummary => "updateConsultationSummary"
  | confirmConsultationSummary => "confirmConsultationSummary"
  | completeConsultation => "completeConsultation"
  | requestVisitReview => "requestVisitReview"
  | createVisitRequest => "createVisitRequest"
  | markVisitNotNeeded => "markVisitNotNeeded"
  | updateVisitSchedule => "updateVisitSchedule"
  | confirmVisit => "confirmVisit"
  | submitResolutionFeedback => "submitResolutionFeedback"
  | reportUnresolved => "reportUnresolved"
  | resumeConsultation => "resumeConsultation"
  | finalizeInquiry => "finalizeInquiry"
  | decideHumanReview => "decideHumanReview"
  | startCarePrecheck => "startCarePrecheck"
  | saveCarePrecheck => "saveCarePrecheck"
  | submitCarePrecheck => "submitCarePrecheck"

/-- The columns of `ux_workflow_idempotency_scope`. -/
structure Scope where
  actor : Nat
  operationId : OperationId
  idempotencyKey : String
  deriving DecidableEq, Repr

structure IdempotencyRecord where
  requestHash : String
  responseStatus : Option Nat
  responseBody : Dict
  resource : Option Nat
  completedAt : Option Instant

/-- A committed answer, or the stored one of an earlier request. -/
inductive Answer
  | fresh (status : Nat) (body : Dict)
  | stored (status : Nat) (body : Dict)

namespace Answer

def replayed : Answer → Bool
  | fresh _ _ => false
  | stored _ _ => true

end Answer

namespace IdempotencyRecord

def duplicateEvent (message : String) : Failure := .business "DUPLICATE-EVENT-01" message [] 409

def replayOrConflict (record : IdempotencyRecord) (requestHash : String) :
    Except Failure Answer :=
  if record.requestHash ≠ requestHash then
    .error (duplicateEvent "동일 Idempotency-Key가 다른 요청에 재사용되었습니다.")
  else
    match record.completedAt, record.responseStatus with
    | some _, some status =>
        if record.responseBody.isEmpty then .error inProgress
        else .ok (.stored status
          (assign record.responseBody (.str "idempotent_replay") (.bool true)))
    | _, _ => .error inProgress
where
  inProgress : Failure := duplicateEvent "동일 Idempotency-Key 요청이 아직 처리 중입니다."

end IdempotencyRecord

/-! ### The database -/

/-- A questionnaire session with its transition history. -/
structure SessionAggregate where
  session : Stored QuestionnaireSession
  history : List (Stored SessionHistory)

/-- Inserts a session history row, unique for its session and version. -/
def SessionAggregate.recordHistory (a : SessionAggregate) (row : SessionHistory) :
    Except Failure SessionAggregate := do
  let stored ← save row "IntegrityError"
  if a.history.any fun h => decide (h.1.stateVersion = row.stateVersion) then
    .error (.raised "IntegrityError")
  else pure { a with history := a.history ++ [stored] }

structure World where
  directory : Directory
  sessions : AList fun _ : Nat => SessionAggregate
  inquiries : AList fun _ : Nat => Aggregate
  records : AList fun _ : Scope => IdempotencyRecord
  nextId : Nat

namespace World
variable (w : World)

def aggregate (inquiry : Nat) : Option Aggregate := w.inquiries.lookup inquiry

/-- The inquiry that one of its rows, given by a test on the aggregate, belongs to. -/
def ownerOf (holds : Aggregate → Bool) : Option Nat :=
  (w.inquiries.entries.find? fun entry => holds entry.2).map (·.1)

def put (inquiry : Nat) (a : Aggregate) : World :=
  { w with inquiries := w.inquiries.insert inquiry a }

/-- `create_idempotency_record`; a taken scope violates its unique constraint. -/
def createIdempotencyRecord (scope : Scope) (requestHash : String) : Option World :=
  match w.records.lookup scope with
  | some _ => none
  | none =>
      some { w with records := (w.records.insert scope ⟨requestHash, none, [], none, none⟩) }

/-- The stored answer of an earlier request, or the conflict with it. -/
def replay (record : IdempotencyRecord) (requestHash : String) : Except Failure (World × Answer) :=
  (record.replayOrConflict requestHash).map fun answer => (w, answer)

/-- The rest of a transaction on the new record; a record that another request has
created in the meantime is replayed. -/
def withIdempotencyRecord (scope : Scope) (requestHash : String)
    (rest : World → Except Failure (World × Answer)) : Except Failure (World × Answer) :=
  match w.createIdempotencyRecord scope requestHash with
  | some pending => rest pending
  | none =>
      match w.records.lookup scope with
      | none => .error (.raised "IntegrityError")
      | some existing => w.replay existing requestHash

def completeIdempotencyRecord (scope : Scope) (requestHash : String) (status : Nat) (body : Dict)
    (resource : Nat) (now : Instant) : World :=
  { w with records := (w.records.insert scope
      ⟨requestHash, some status, body, some resource, some now⟩) }

@[simp] theorem aggregate_put (inquiry : Nat) (a : Aggregate) :
    (w.put inquiry a).aggregate inquiry = some a :=
  AList.lookup_insert _

theorem aggregate_put_ne {inquiry other : Nat} (a : Aggregate) (h : other ≠ inquiry) :
    (w.put inquiry a).aggregate other = w.aggregate other :=
  AList.lookup_insert_ne h

@[simp] theorem records_put (inquiry : Nat) (a : Aggregate) :
    (w.put inquiry a).records = w.records := rfl

@[simp] theorem directory_put (inquiry : Nat) (a : Aggregate) :
    (w.put inquiry a).directory = w.directory := rfl

/-- The end of a transaction: the written inquiry, the completed record, the
identifiers it has used, and the new answer. -/
def commit (inquiry : Nat) (a : Aggregate) (scope : Scope) (requestHash : String) (status : Nat)
    (body : Dict) (resource : Nat) (now : Instant) (used : Nat) : World × Answer :=
  ({ (w.put inquiry a).completeIdempotencyRecord scope requestHash status body resource now with
      nextId := w.nextId + used },
    .fresh status body)

end World
end WaterCare.Store
