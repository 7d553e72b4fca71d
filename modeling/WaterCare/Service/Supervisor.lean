import WaterCare.Service.Consultant
import WaterCare.Service.Customer

/-!
`supervisor_consultation_service.py`: the registered supervisor acts on the latest
consultation of a synthetic inquiry. Reassigning writes the rows directly, without
a version; everything else goes through the services of the consultants.
-/

namespace WaterCare.Service
open Workflow Store Py

namespace SupervisorConsultationService
variable (settings : Settings) (request : Request)

/-- `is_waterbridge_supervisor`. -/
def isSupervisor (user : User) : Bool :=
  let configured := strip settings.supervisorUsername
  configured != "" && user.isActive && user.isSynthetic && user.isStaff && user.isSuperuser &&
    decide (user.role = .operator) && user.hasUsablePassword &&
    settings.casefold user.username == settings.casefold configured

def authorize : Except Failure Unit :=
  if isSupervisor settings request.actor then .ok ()
  else .error (.supervisor "SUPERVISOR_REQUIRED"
    "등록된 Supervisor 계정만 상담 운영 작업을 수행할 수 있습니다.")

/-- `_require_synthetic_latest`. -/
def requireSyntheticLatest (d : Directory) (a : Aggregate) (c : Stored Consultation) :
    Except Failure Unit :=
  if !(d.isSynthetic a.q && c.1.isSynthetic) then
    .error (.supervisor "SYNTHETIC_CONSULTATION_REQUIRED"
      "합성 상담 데이터만 Admin에서 변경할 수 있습니다.")
  else if a.latestConsultation.map (·.1.id) ≠ some c.1.id then
    .error (.supervisor "LATEST_CONSULTATION_REQUIRED" "해당 문의의 최신 상담만 변경할 수 있습니다.")
  else .ok ()

/-- The consultation with its inquiry. -/
def findConsultation (w : World) (consultation : Nat) :
    Except Failure (Nat × Aggregate × Stored Consultation) :=
  let holds (a : Aggregate) := a.consultations.find? fun c => decide (c.1.id = consultation)
  match w.ownerOf fun a => (holds a).isSome with
  | none => .error consultationNotFound
  | some inquiry =>
      match (w.aggregate inquiry).bind fun a => (holds a).map fun c => (inquiry, a, c) with
      | none => .error consultationNotFound
      | some found => .ok found
where
  consultationNotFound : Failure := .supervisor "CONSULTATION_NOT_FOUND" "상담을 찾을 수 없습니다."

/-- `_lock_consultation`. -/
def lockConsultation (w : World) (consultation : Nat) :
    Except Failure (Nat × Aggregate × Stored Consultation) := do
  let found ← findConsultation w consultation
  requireSyntheticLatest w.directory found.2.1 found.2.2
  pure found

def isActiveConsultant (user : User) : Bool :=
  user.isActive && user.isSynthetic && decide (user.role = .consultant)

/-- `_require_assigned_consultant`. -/
def requireAssignedConsultant (d : Directory) (c : Stored Consultation) : Except Failure User :=
  match (c.1.consultant.bind d.user).filter isActiveConsultant with
  | some consultant => .ok consultant
  | none => .error (.supervisor "ACTIVE_CONSULTANT_REQUIRED"
      "먼저 활성 합성 상담사를 담당자로 지정해 주세요.")

def requireReason (reason message : String) : Except Failure String :=
  if strip reason = "" then .error (.supervisor "REASON_REQUIRED" message) else .ok (strip reason)

/-! ### Reassignment -/

/-- The consultation of the new consultant; a waiting one becomes assigned. -/
def reassigned (c : Consultation) (target : Nat) : Consultation :=
  { c with
    consultant := some target
    status := if c.status = .waiting then .assigned else c.status }

/-- The rows `reassign` writes, neither of them with a new version. -/
def writeReassignment (a : Aggregate) (c : Stored Consultation) (target : Nat) :
    Except Failure Aggregate := do
  let consultation ← save (reassigned c.1 target) "ValidationError"
  let inquiry ← save { a.q with assignedUser := some target, assignedRole := .consultant }
    "ValidationError"
  pure { a.putConsultation consultation with inquiry := inquiry }

/-- `reassign`. -/
def reassign (consultation target : Nat) (reason : String) (w : World) : Except Failure World := do
  authorize settings request
  let _ ← requireReason reason "담당자 변경 사유가 필요합니다."
  let (inquiry, a, c) ← lockConsultation w consultation
  if c.1.status = .completed ∨ c.1.status = .cancelled ∨ a.q.status = .resolved ∨
      a.q.status = .cancelled then
    .error (.supervisor "TERMINAL_CONSULTATION" "완료 또는 취소된 상담은 담당자를 바꿀 수 없습니다.")
  else
    match (w.directory.user target).filter isActiveConsultant with
    | none => .error (.supervisor "ACTIVE_CONSULTANT_REQUIRED"
        "활성 합성 상담사만 새 담당자로 지정할 수 있습니다.")
    | some user => do
        let written ← writeReassignment a c user.id
        pure (w.put inquiry written)

/-! ### The services of the consultants -/

/-- An action on the latest consultation in the name of its consultant, with the
version of the inquiry. The key of the request is drawn by the service. -/
def asConsultant (consultation : Nat) (action : Nat → Nat → User → AssignedAction) (w : World) :
    Except Failure World := do
  authorize settings request
  let (inquiry, a, c) ← lockConsultation w consultation
  let consultant ← requireAssignedConsultant w.directory c
  let outcome ← ((action inquiry a.q.stateVersion consultant).toInquiryAction settings w.directory
    request consultant inquiry).perform request w
  pure outcome.1

def start (consultation : Nat) : World → Except Failure World :=
  asConsultant settings request consultation fun inquiry version consultant =>
    ConsultationService.start request inquiry version consultant

/-- `update_details`; without an editable value nothing is called. -/
def updateDetails (consultation : Nat) (values : SummaryValues) (w : World) :
    Except Failure World := do
  authorize settings request
  let (_, _, c) ← lockConsultation w consultation
  let _ ← requireAssignedConsultant w.directory c
  if values.isEmpty then pure w
  else
    asConsultant settings request consultation (fun inquiry version _ =>
      ConsultationService.saveSummary request inquiry version values) w

def confirm (consultation : Nat) : World → Except Failure World :=
  asConsultant settings request consultation fun inquiry version _ =>
    ConsultationService.confirmSummary request inquiry version

def complete (consultation : Nat) : World → Except Failure World :=
  asConsultant settings request consultation fun inquiry version _ =>
    ConsultationService.complete request inquiry version

/-! ### Cancellation -/

/-- `cancel_inquiry`. -/
def cancelInquiry (inquiry : Nat) (reason : String) (w : World) : Except Failure World := do
  authorize settings request
  let detail ← requireReason reason "상담 취소 사유가 필요합니다."
  match (w.aggregate inquiry).filter fun a => w.directory.isSynthetic a.q with
  | none => .error (.supervisor "SYNTHETIC_INQUIRY_REQUIRED" "합성 문의만 Admin에서 취소할 수 있습니다.")
  | some a =>
      let outcome ← (cancel settings w.directory request inquiry a.q.stateVersion
        ⟨.other, some detail⟩).perform request w
      pure outcome.1

/-- `cancel_consultation`. -/
def cancelConsultation (consultation : Nat) (reason : String) (w : World) :
    Except Failure World := do
  authorize settings request
  let detail ← requireReason reason "상담 취소 사유가 필요합니다."
  let (inquiry, a, c) ← findConsultation w consultation
  requireSyntheticLatest w.directory a c
  if c.1.status.isActive then cancelInquiry settings request inquiry detail w
  else .error (.supervisor "CONSULTATION_CANCEL_NOT_ALLOWED"
    "대기·배정·진행 중인 최신 상담만 문의와 함께 취소할 수 있습니다.")

end SupervisorConsultationService
end WaterCare.Service
