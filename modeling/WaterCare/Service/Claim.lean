import WaterCare.Service.Customer

/-!
`ConsultationClaimService`: a consultant takes an unassigned waiting inquiry. The
item is hidden from everyone once it is taken, so most failures are answered with
status 404.
-/

namespace WaterCare.Service
open Workflow Store Py
open Engine (validIdempotencyKey Reason)

/-! ### Reserved contracts -/

namespace P1TeamConsultantRouting

/-- `P1_TEAM_CONTRACT_CONSULTANT_MAP`: the reserved contracts with their consultants. -/
def contractConsultantMap : List (String × String) :=
  [ ("SYN-P1-TEAM-CONTRACT-001", "SKN-001"), ("SYN-P1-TEAM-CONTRACT-002", "SKN-002"),
    ("SYN-P1-TEAM-CONTRACT-003", "SKN-003"), ("SYN-P1-TEAM-CONTRACT-004", "SKN-004"),
    ("SYN-P1-TEAM-CONTRACT-005", "SKN-005"), ("SYN-P1-TEAM-CONTRACT-006", "SKN-006"),
    ("SYN-P1-EXTRA-CONTRACT-001", "SKN-007") ]

def username (settings : Settings) (actor : User) : String := settings.upper (strip actor.username)

/-- `assigned_contract`. -/
def assignedContract (settings : Settings) (actor : User) : Option String :=
  (contractConsultantMap.find? fun entry => decide (entry.2 = username settings actor)).map (·.1)

/-- A contract number reserved for one of the consultants. -/
def isReserved (contractNo : String) : Bool := (contractConsultantMap.lookup contractNo).isSome

def canAccessContract (settings : Settings) (actor : User) (contractNo : String) : Bool :=
  (contractConsultantMap.lookup (strip contractNo)).all fun required =>
    decide (username settings actor = required)

end P1TeamConsultantRouting

namespace ConsultationClaimService
variable (settings : Settings) (d : Directory) (request : Request) (inquiry stateVersion : Nat)

/-- `lock_claimable` and the routing of its contract. -/
def isVisible (q : Inquiry) : Bool :=
  ((d.customerOf q).any fun c =>
    c.deletedAt.isNone && c.isSynthetic && (c.user.bind d.user).any (·.isSynthetic)) &&
    (d.subscription q.subscription).any fun s =>
      P1TeamConsultantRouting.canAccessContract settings request.actor s.contractNo

/-- `_is_claimable`. -/
def isClaimable (q : Inquiry) (consultation : Option (Stored Consultation)) : Bool :=
  decide (q.status = .consultationRequired) && q.assignedUser.isNone &&
    decide (q.assignedRole = .none) && consultation.any fun c =>
      decide (c.1.status = .waiting) && c.1.consultant.isNone && c.1.startedAt.isNone

/-- `assign_consultant`. -/
def assignConsultant (plan : Plan) (q : Inquiry) : Inquiry :=
  { q with
    assignedUser := some request.actor.id
    assignedRole := .consultant
    stateVersion := plan.version }

/-- The boundary from the claimable inquiry on. -/
def action : InquiryAction where
  operationId := .claimConsultation
  event := .claimConsultation
  inquiry := inquiry
  requestHash := settings.inquiryHash inquiry (stateVersionBody stateVersion)
  requestedVersion := stateVersion
  workflowActor := request.actor
  lock := isVisible settings d request
  prepare a :=
    let consultation := ConsultationRepository.lockLatest a
    if isClaimable a.q consultation then
      .ok { ActionContext.empty with consultation := consultation }
    else .error .notFound
  conflictReasons := []
  conflict a context :=
    stateConflict stateChanged a.q (consultationActions d request a context.consultation)
  unresolved := .notFound
  requiredEffects := ["ASSIGN_CURRENT_CONSULTANT", "ASSIGN_WAITING_CONSULTATION"]
  domainResults _ _ := [(.unassignedConsultationClaimable, true)]
  conflictGuards := [.stateVersion]
  guardFailure := guardFailure (passedOn fun _ => []) (passedOn fun _ => [])
  mutate plan a context _ := ConsultationService.onConsultation context fun c =>
    ConsultationRepository.claim a c request.actor (request.stamp plan)
  apply := assignConsultant request
  settle := .ok
  records rule := rule.recordBusinessEvent
  changeReason _ := none
  finish _ _ recorded _ := .ok recorded
  respond written _ resource :=
    let consultation :=
      match resource with
      | .consultation c => some c
      | .root | .visit _ | .followup _ => none
    transitionBody "상담 대기 문의를 배정받았습니다." written.q
      (consultationActions d request written consultation) .none

/-- `claim`: a key of the same request or the same inquiry is replayed, another one
only while the inquiry is claimable. -/
def claim (w : World) : Except Failure (World × Answer) :=
  let action := action settings d request inquiry stateVersion
  match (w.aggregate inquiry).filter fun a => action.lock a.q with
  | none => .error .notFound
  | some a =>
      match w.records.lookup (action.scope request) with
      | none => action.execute request w a
      | some existing =>
          if existing.requestHash = action.requestHash ∨ existing.resource = some inquiry ∨
              isClaimable a.q a.latestConsultation then
            w.replay existing action.requestHash
          else .error .notFound

end ConsultationClaimService
end WaterCare.Service
