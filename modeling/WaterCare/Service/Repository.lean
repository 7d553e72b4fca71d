import WaterCare.Service.InquiryAction

/-!
The repositories of consultations, hand-offs and visits: one row is locked,
changed and saved, or a new one inserted.
-/

namespace WaterCare.Service
open Workflow Store Py

/-- The version, key and correlation id every write of a row carries. -/
structure Stamp where
  stateVersion : Nat
  idempotencyKey : String
  correlationId : String

def Request.stamp (request : Request) (plan : Plan) : Stamp :=
  ⟨plan.version, request.idempotencyKey.1, request.correlationId.1⟩

/-- The fields `save_summary` sets, each with the value it is given, if any. -/
structure SummaryValues where
  summary : Option String
  consultationNote : Option (Option String)
  additionalCheck : Option (Option String)
  customerGuidance : Option (Option String)
  resultCode : Option Outcome
  usageGuidanceStatus : Option (Option UsageGuidanceStatus)
  deriving DecidableEq

namespace SummaryValues

def isEmpty (v : SummaryValues) : Bool :=
  v.summary.isNone && v.consultationNote.isNone && v.additionalCheck.isNone &&
    v.customerGuidance.isNone && v.resultCode.isNone && v.usageGuidanceStatus.isNone

end SummaryValues

def stampConsultation (stamp : Stamp) (c : Consultation) : Consultation :=
  { c with
    stateVersion := stamp.stateVersion
    idempotencyKey := stamp.idempotencyKey
    correlationId := stamp.correlationId }

namespace ConsultationRepository

/-- `lock_latest`. -/
def lockLatest (a : Aggregate) : Option (Stored Consultation) := a.latestConsultation

def update (a : Aggregate) (c : Consultation) :
    Except Failure (Aggregate × Stored Consultation) := do
  let row ← save c "IntegrityError"
  pure (a.putConsultation row, row)

/-- A consultation after the last one, without any result yet. -/
def create (a : Aggregate) (id : Nat) (status : ConsultationStatus) (consultant : Option Nat)
    (startedAt : Option Instant) (isSynthetic : Bool) (stamp : Stamp) (now : Instant) :
    Except Failure (Aggregate × Stored Consultation) := do
  let row ← save (stampConsultation stamp
    { id := id, sequence := a.lastSequence + 1, consultant := consultant, status := status
      outcome := .pending, summary := "", aiDraftSummary := none, confirmedSummary := none
      summaryConfirmedAt := none, consultationNote := none, additionalCheck := none
      customerGuidance := none, usageGuidanceStatus := none, visitReviewReason := none
      visitReviewDetail := none, visitNotNeededReason := none, visitNotNeededDetail := none
      stateVersion := 1, idempotencyKey := "", correlationId := "", startedAt := startedAt
      completedAt := none, isSynthetic := isSynthetic, createdAt := now }) "IntegrityError"
  pure ({ a with consultations := a.consultations ++ [row] }, row)

/-- Create or refresh the unassigned waiting consultation. -/
def request (d : Directory) (a : Aggregate) (stamp : Stamp) (current : Option (Stored Consultation))
    (id : Nat) (now : Instant) : Except Failure (Aggregate × Stored Consultation) :=
  match current.filter fun c => c.1.status.isPending with
  | some c => update a (stampConsultation stamp c.1)
  | none =>
      if current.any fun c => decide (c.1.status = .inProgress) then .error (.raised "RuntimeError")
      else
        match (d.customerOf a.q).bind fun c => c.user.bind d.user, d.customerOf a.q with
        | some user, some customer =>
            create a id .waiting none none (customer.isSynthetic && user.isSynthetic) stamp now
        | _, _ => .error (.raised "AttributeError")

/-- Assign a waiting consultation while leaving `started_at` unset. -/
def claim (a : Aggregate) (c : Stored Consultation) (actor : User) (stamp : Stamp) :
    Except Failure (Aggregate × Stored Consultation) :=
  if c.1.status ≠ .waiting ∨ c.1.consultant.isSome ∨ c.1.startedAt.isSome then
    .error (.raised "RuntimeError")
  else update a (stampConsultation stamp { c.1 with consultant := actor.id, status := .assigned })

def start (a : Aggregate) (actor : User) (stamp : Stamp) (current : Option (Stored Consultation))
    (id : Nat) (now : Instant) : Except Failure (Aggregate × Stored Consultation) :=
  match current.filter fun c => c.1.status.isPending with
  | none => create a id .inProgress (some actor.id) (some now) true stamp now
  | some c =>
      update a (stampConsultation stamp
        { c.1 with
          consultant := actor.id
          status := .inProgress
          startedAt := some (c.1.startedAt.getD now) })

def saveSummary (a : Aggregate) (c : Stored Consultation) (values : SummaryValues)
    (stamp : Stamp) : Except Failure (Aggregate × Stored Consultation) :=
  update a (stampConsultation stamp
    { c.1 with
      summary := values.summary.getD c.1.summary
      consultationNote := values.consultationNote.getD c.1.consultationNote
      additionalCheck := values.additionalCheck.getD c.1.additionalCheck
      customerGuidance := values.customerGuidance.getD c.1.customerGuidance
      outcome := values.resultCode.getD c.1.outcome
      usageGuidanceStatus := values.usageGuidanceStatus.getD c.1.usageGuidanceStatus })

def confirmSummary (a : Aggregate) (c : Stored Consultation) (stamp : Stamp) (now : Instant) :
    Except Failure (Aggregate × Stored Consultation) :=
  update a (stampConsultation stamp
    { c.1 with confirmedSummary := some (strip c.1.summary), summaryConfirmedAt := some now })

def complete (a : Aggregate) (c : Stored Consultation) (stamp : Stamp) (now : Instant) :
    Except Failure (Aggregate × Stored Consultation) :=
  update a (stampConsultation stamp { c.1 with status := .completed, completedAt := some now })

/-- `consultation.full_clean()`: the assigned user has the consultant role. -/
def hasConsultantRole (d : Directory) (c : Consultation) : Bool :=
  c.consultant.all fun id => (d.user id).any fun user => decide (user.role = .consultant)

/-- Cancel the single latest active consultation under the inquiry lock. -/
def cancelActive (d : Directory) (a : Aggregate) (stamp : Stamp) : Except Failure Aggregate :=
  match a.consultations.filter fun c => c.1.status.isActive with
  | [] => .ok a
  | [c] =>
      if hasConsultantRole d c.1 then do
        let row ← save (stampConsultation stamp
          { c.1 with status := .cancelled, outcome := .pending, completedAt := none })
          "ValidationError"
        pure (a.putConsultation row)
      else .error (.raised "ValidationError")
  | _ :: _ :: _ => .error (.raised "RuntimeError")

def recordVisitReview (a : Aggregate) (c : Stored Consultation) (reasonCode : String)
    (reasonDetail : Option String) (stamp : Stamp) :
    Except Failure (Aggregate × Stored Consultation) :=
  update a (stampConsultation stamp
    { c.1 with visitReviewReason := some reasonCode, visitReviewDetail := reasonDetail })

def markVisitNotNeeded (a : Aggregate) (c : Stored Consultation) (reasonCode : String)
    (reasonDetail : Option String) (stamp : Stamp) (now : Instant) :
    Except Failure (Aggregate × Stored Consultation) :=
  update a (stampConsultation stamp
    { c.1 with
      visitNotNeededReason := some reasonCode
      visitNotNeededDetail := reasonDetail
      outcome := .completedNoVisit
      status := .completed
      completedAt := some now })

end ConsultationRepository

/-! ### Hand-offs -/

namespace ConsultationHandoffRepository

/-- `_is_projection_eligible`. -/
def isProjectionEligible (h : ConsultationHandoff) : Bool :=
  h.schemaVersion != "2.0.0" || h.routingReason != some "HARNESS_ESCALATE"

/-- `_projection_rank`. -/
def projectionRank (a : Aggregate) (h : ConsultationHandoff) : Nat ×ₗ (Nat ×ₗ Nat) :=
  let run := a.runs.find? fun r => decide (r.1.id = h.run)
  let version := h.payloadStateVersion.getD (run.elim 0 (·.1.inputStateVersion))
  let completedAt := (run.bind (·.1.completedAt)).getD h.createdAt
  toLex (version, toLex (completedAt, h.id))

/-- The part of `attach_to_latest_consultation` after its two rows are chosen: the
hand-off becomes the AI draft, unless a newer one is attached already. -/
def attach (a : Aggregate) (c : Stored Consultation) (h : ConsultationHandoff) :
    Except Failure (Aggregate × Stored Consultation) :=
  let projected := a.handoffs.filter fun other =>
    decide (other.consultation = some c.1.id) && decide (other.id ≠ h.id)
  if (newest (projectionRank a) projected).any fun other =>
      decide (projectionRank a h < projectionRank a other) then .ok (a, c)
  else
    let linked := { h with consultation := some c.1.id }
    let attached := { a with handoffs := replaceRow (·.id) linked a.handoffs }
    if c.1.aiDraftSummary = some h.aiDraftSummary then .ok (attached, c)
    else ConsultationRepository.update attached { c.1 with aiDraftSummary := some h.aiDraftSummary }

/-- A hand-off that may be attached to the consultation. -/
def isCandidate (c : Stored Consultation) (h : ConsultationHandoff) : Bool :=
  (h.consultation.isNone || decide (h.consultation = some c.1.id)) && isProjectionEligible h

/-- `attach_to_latest_consultation` for a given consultation, with the newest candidate. -/
def attachToLatestConsultation (a : Aggregate) (c : Stored Consultation) :
    Except Failure (Aggregate × Stored Consultation) :=
  match newest (projectionRank a) (a.handoffs.filter (isCandidate c)) with
  | none => .ok (a, c)
  | some h => attach a c h

/-- `attach_to_latest_consultation` for a given hand-off, with the latest active consultation. -/
def attachHandoff (a : Aggregate) (h : ConsultationHandoff) : Except Failure Aggregate :=
  match newest (fun c => toLex (c.1.sequence, c.1.id))
      (a.consultations.filter fun c => c.1.status.isActive) with
  | none => .ok a
  | some c => if isCandidate c h then (attach a c h).map (·.1) else .ok a

end ConsultationHandoffRepository

/-! ### Visits -/

/-- The values of a visit request. -/
structure VisitValues where
  visitReason : String
  preferredDate : Option Day
  usageGuidanceStatus : UsageGuidanceStatus
  handoff : Dict

namespace VisitRepository

def lockLatest (a : Aggregate) : Option (Stored Visit) := a.latestVisit

/-- `lock_by_public_id`. -/
def lockByPublicId (a : Aggregate) (visit : Nat) : Option (Stored Visit) :=
  a.visits.find? fun v => decide (v.1.id = visit)

/-- `synthetic_technician`. -/
def syntheticTechnician (d : Directory) (id : Nat) : Option User :=
  (d.user id).filter fun user =>
    decide (user.role = .technician) && user.isActive && user.isSynthetic

def update (a : Aggregate) (v : Visit) : Except Failure (Aggregate × Stored Visit) := do
  let row ← save v "IntegrityError"
  pure (a.putVisit row, row)

/-- The next version of the report, one for each report of the inquiry. -/
def reportVersion (a : Aggregate) : Nat := a.handoffReports.length + 1

def create (a : Aggregate) (consultation : Stored Consultation) (actor : User)
    (values : VisitValues) (stamp : Stamp) (id : Nat) (now : Instant) :
    Except Failure (Aggregate × Stored Visit) := do
  let row ← save
    { id := id, technician := none, status := .assigning, requestedAt := now
      scheduledAt := none, preferredDate := values.preferredDate, confirmedDate := none
      visitReason := some values.visitReason
      usageGuidanceStatus := some values.usageGuidanceStatus, handoffPayload := values.handoff
      startedAt := none, completedAt := none, confirmedCause := none, actionTaken := none
      stateVersion := 1, idempotencyKey := stamp.idempotencyKey
      correlationId := stamp.correlationId, isSynthetic := true, createdAt := now } "IntegrityError"
  if a.handoffReports.any fun r => decide (r.reportVersion = reportVersion a) then
    .error (.raised "IntegrityError")
  else
    pure ({ a with
      visits := a.visits ++ [row]
      handoffReports := a.handoffReports ++ [⟨consultation.1.id, reportVersion a, actor.id, now⟩] },
      row)

def updateSchedule (a : Aggregate) (v : Stored Visit) (technician : User)
    (preferredDate confirmedDate : Option Day) (status : VisitStatus) (stamp : Stamp) :
    Except Failure (Aggregate × Stored Visit) :=
  let reopened : Visit :=
    if v.1.status = .followUpRequired then
      { v.1 with
        scheduledAt := none, startedAt := none, completedAt := none, confirmedCause := none
        actionTaken := none }
    else v.1
  update a
    { reopened with
      technician := some technician.id
      preferredDate := preferredDate
      confirmedDate := confirmedDate
      status := status
      stateVersion := v.1.stateVersion + 1
      idempotencyKey := stamp.idempotencyKey
      correlationId := stamp.correlationId }

def confirm (startOfDay : Day → Instant) (a : Aggregate) (v : Stored Visit) (status : VisitStatus)
    (stamp : Stamp) : Except Failure (Aggregate × Stored Visit) :=
  match v.1.confirmedDate with
  | none => .error (.raised "TypeError")
  | some day =>
      update a
        { v.1 with
          status := status
          scheduledAt := some (startOfDay day)
          stateVersion := v.1.stateVersion + 1
          idempotencyKey := stamp.idempotencyKey
          correlationId := stamp.correlationId }

end VisitRepository
end WaterCare.Service
