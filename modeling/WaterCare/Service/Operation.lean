import WaterCare.Machine.Run
import WaterCare.Service.ActionResult
import WaterCare.Service.Analysis
import WaterCare.Service.Handoff
import WaterCare.Service.Intake
import WaterCare.Service.Resolution
import WaterCare.Service.Supervisor

/-!
The system: every operation that writes an inquiry as one atomic step of the
database, in any order. A failed step leaves the database as it was.
-/

namespace WaterCare.Service
open Workflow Store Py Analysis

/-! ### Requests -/

/-- A request to one of the services built on the shared transaction. -/
inductive ActionRequest
  | submitSymptom (inquiry stateVersion : Nat)
  | submitAnswers (inquiry stateVersion : Nat) (answers : List FollowUpAnswerItem)
  | requestConsultation (inquiry stateVersion : Nat)
  | cancelInquiry (inquiry stateVersion : Nat) (cancellation : Cancellation)
  | startConsultation (inquiry stateVersion : Nat)
  | saveSummary (inquiry stateVersion : Nat) (values : SummaryValues)
  | confirmSummary (inquiry stateVersion : Nat)
  | completeConsultation (inquiry stateVersion : Nat)
  | requestVisitReview (inquiry stateVersion : Nat) (reason : VisitReason)
  | createVisitRequest (inquiry stateVersion : Nat) (values : VisitValues)
      (preferredDateSent : Bool)
  | markVisitNotNeeded (inquiry stateVersion : Nat) (reason : VisitReason)
  | updateVisitSchedule (visit stateVersion : Nat) (values : ScheduleValues)
  | confirmVisit (visit stateVersion : Nat)
  | submitFeedback (inquiry stateVersion : Nat) (comment : Option String)
  | reportUnresolved (inquiry stateVersion : Nat) (reasonCode comment : Option String)
  | resumeConsultation (inquiry stateVersion : Nat)
  | finalizeInquiry (inquiry stateVersion : Nat) (finalNote : Option String)

/-- A request to the API. -/
inductive Operation
  | start (values : StartValues)
  | register (values : PhoneValues)
  | act (action : ActionRequest)
  | createActionResult (inquiry stateVersion : Nat) (values : ActionResultValues)
  | claim (inquiry stateVersion : Nat)
  | decide (review : Nat) (values : HumanReviewService.DecisionValues)

/-- `find_inquiry_public_id`. -/
def inquiryOfVisit (w : World) (visit : Nat) : Option Nat :=
  w.ownerOf fun a => a.visits.any fun v => decide (v.1.id = visit)

section
variable (settings : Settings) (request : Request) (w : World)

/-- An action of an assigned consultant in the consultant's own name. -/
def assigned (inquiry : Nat) (operation : AssignedAction) : InquiryAction :=
  operation.toInquiryAction settings w.directory request request.actor inquiry

/-- The service of a request; a visit that does not exist has none. -/
def ActionRequest.action : ActionRequest → Option InquiryAction
  | submitSymptom inquiry version =>
      some (Service.submitSymptom settings w.directory request inquiry version)
  | submitAnswers inquiry version answers =>
      some (Service.submitAnswers settings w.directory request inquiry version answers)
  | requestConsultation inquiry version =>
      some (Service.requestConsultation settings w.directory request inquiry version)
  | cancelInquiry inquiry version cancellation =>
      some (cancel settings w.directory request inquiry version cancellation)
  | startConsultation inquiry version =>
      some (assigned settings request w inquiry
        (ConsultationService.start request inquiry version request.actor))
  | saveSummary inquiry version values =>
      some (assigned settings request w inquiry
        (ConsultationService.saveSummary request inquiry version values))
  | confirmSummary inquiry version =>
      some (assigned settings request w inquiry
        (ConsultationService.confirmSummary request inquiry version))
  | completeConsultation inquiry version =>
      some (assigned settings request w inquiry
        (ConsultationService.complete request inquiry version))
  | requestVisitReview inquiry version reason =>
      some (assigned settings request w inquiry
        (VisitService.requestReview w.directory request inquiry version reason))
  | createVisitRequest inquiry version values sent =>
      some (assigned settings request w inquiry
        (VisitService.createRequest w.directory request inquiry version values sent))
  | markVisitNotNeeded inquiry version reason =>
      some (assigned settings request w inquiry
        (VisitService.markNotNeeded w.directory request inquiry version reason))
  | updateVisitSchedule visit version values =>
      (inquiryOfVisit w visit).map fun inquiry => assigned settings request w inquiry
        (VisitService.updateSchedule w.directory request inquiry version visit values)
  | confirmVisit visit version =>
      (inquiryOfVisit w visit).map fun inquiry => assigned settings request w inquiry
        (VisitService.confirm settings w.directory request inquiry version visit)
  | submitFeedback inquiry version comment =>
      some (ResolutionService.submitFeedback settings w.directory request inquiry version comment)
  | reportUnresolved inquiry version reasonCode comment =>
      some (ResolutionService.reportUnresolved settings w.directory request inquiry version
        reasonCode comment)
  | resumeConsultation inquiry version =>
      some (ResolutionService.resumeConsultation settings w.directory request inquiry version)
  | finalizeInquiry inquiry version finalNote =>
      some (ResolutionService.finalize settings w.directory request inquiry version finalNote)

def Operation.perform : Operation → Except Failure (World × Answer)
  | start values => startInquiry settings request values w
  | register values => registerPhoneInquiry settings request values w
  | act action =>
      match action.action settings request w with
      | none => .error .notFound
      | some service => service.perform request w
  | createActionResult inquiry version values =>
      ActionResultService.create settings request inquiry version values w
  | claim inquiry version => ConsultationClaimService.claim settings w.directory request inquiry
      version w
  | decide review values => HumanReviewService.decideHumanReview settings request review values w

end

/-! ### The supervisor -/

inductive SupervisorOperation
  | reassign (consultation target : Nat) (reason : String)
  | start (consultation : Nat)
  | updateDetails (consultation : Nat) (values : SummaryValues)
  | confirm (consultation : Nat)
  | complete (consultation : Nat)
  | cancelInquiry (inquiry : Nat) (reason : String)
  | cancelConsultation (consultation : Nat) (reason : String)

namespace SupervisorOperation
open SupervisorConsultationService

def perform (settings : Settings) (request : Request) :
    SupervisorOperation → World → Except Failure World
  | reassign consultation target reason =>
      SupervisorConsultationService.reassign settings request consultation target reason
  | start consultation => SupervisorConsultationService.start settings request consultation
  | updateDetails consultation values =>
      SupervisorConsultationService.updateDetails settings request consultation values
  | confirm consultation => SupervisorConsultationService.confirm settings request consultation
  | complete consultation => SupervisorConsultationService.complete settings request consultation
  | cancelInquiry inquiry reason =>
      SupervisorConsultationService.cancelInquiry settings request inquiry reason
  | cancelConsultation consultation reason =>
      SupervisorConsultationService.cancelConsultation settings request consultation reason

end SupervisorOperation

/-! ### The Backend and the AI -/

/-- A transaction of an analysis on the run it is about. -/
inductive RunStep
  | markRunning
  | markSucceeded (result : SymptomAnalysisResult)
  | markFailed (error : InquiryAIService.AIError)
  | markDomainPersistenceFailed (failureCode : String)
  | persistValidatedResult (verification : InquiryAIService.Verification)
  | applyTimeoutEvent
  | applyUnusableAiFailureEvent

inductive InternalStep
  | createRun (inquiry : Nat) (analysis : InquiryAIService.AnalysisRequest)
  | onRun (inquiry run : Nat) (step : RunStep)
  | persistHandoff (inquiry : Nat) (payload : HandoffPayload) (idempotencyKey : String)
      (correlationId : Uuid) (checkEvidence : AIRun → Except Failure Unit)
  | markResumeFailed (inquiry review : Nat)

section
variable (now : Instant) (w : World)

/-- The transaction of a step on its locked inquiry and run. -/
def RunStep.perform (a : Aggregate) (run : AIRun) : RunStep → Except Failure Aggregate
  | markRunning => InquiryAIService.markRunning a run.id now
  | markSucceeded result =>
      -- the client hands on no other response
      if InquiryAIService.isMapped a.q.id run result then
        InquiryAIService.markSucceeded a run.id result now
      else .error (.raised "AIResponseValidationError")
  | markFailed error => InquiryAIService.markFailed a run.id error now
  | markDomainPersistenceFailed failureCode =>
      InquiryAIService.markDomainPersistenceFailed a run.id failureCode
  | persistValidatedResult verification =>
      -- the result is the one `markSucceeded` has stored for this run
      match run.result with
      | none => .ok a
      | some result =>
          (InquiryAIService.persistValidatedResult w.directory a run result verification w.nextId
            now).map (·.1)
  | applyTimeoutEvent => (InquiryAIService.applyTimeoutEvent w.directory a run now).map (·.1)
  | applyUnusableAiFailureEvent =>
      (InquiryAIService.applyUnusableAiFailureEvent w.directory a run now).map (·.1)

/-- The identifiers a step on a run may use. -/
def RunStep.identifiers (run : AIRun) : RunStep → Nat
  | persistValidatedResult verification =>
      run.result.elim 0 fun result => InquiryAIService.identifiers result verification
  | markRunning | markSucceeded _ | markFailed _ | markDomainPersistenceFailed _
  | applyTimeoutEvent | applyUnusableAiFailureEvent => 0

def InternalStep.perform : InternalStep → Except Failure World
  | createRun inquiry analysis =>
      match w.aggregate inquiry with
      | none => .error (.raised "DoesNotExist")
      | some a =>
          if (w.ownerOf fun a => a.runs.any fun r =>
              decide (r.1.idempotencyKey = analysis.aiRequestId)).isSome then
            .error (.raised "IntegrityError")
          else do
            let written ← InquiryAIService.createRun a analysis w.nextId now
            pure { w.put inquiry written with nextId := w.nextId + 1 }
  | onRun inquiry run step =>
      match (w.aggregate inquiry).bind fun a =>
          (InquiryAIService.runById a run).map fun r => (a, r.1) with
      | none => .error (.raised "DoesNotExist")
      | some (a, r) => do
          let written ← step.perform now w a r
          pure { w.put inquiry written with nextId := w.nextId + step.identifiers r }
  | persistHandoff inquiry payload idempotencyKey correlationId checkEvidence =>
      ConsultationHandoffService.persist w inquiry payload idempotencyKey correlationId
        checkEvidence now
  | markResumeFailed inquiry review =>
      match (w.aggregate inquiry).bind fun a =>
          (a.reviews.find? fun r => decide (r.1.id = review)).map fun r => (a, r.1) with
      | none => .error .notFound
      | some (a, r) => do
          let written ← HumanReviewService.markResumeFailed a r now
          pure (w.put inquiry written)

end

/-! ### Runs of the system -/

inductive Action
  | request (request : Request) (operation : Operation)
  | supervise (request : Request) (operation : SupervisorOperation)
  | internal (now : Instant) (step : InternalStep)
  /-- Accounts, customers and subscriptions are changed outside the inquiry services. -/
  | administer (now : Instant) (directory : Directory)

namespace Action

def now : Action → Instant
  | request r _ | supervise r _ => r.now
  | internal now _ | administer now _ => now

/-- The sender of a request is the account the directory holds. -/
def IsAuthenticated (w : World) : Action → Prop
  | request r _ | supervise r _ => w.directory.user r.actor.id = some r.actor
  | internal _ _ | administer _ _ => True

def perform (settings : Settings) (w : World) : Action → Except Failure (World × Option Answer)
  | request r operation => (operation.perform settings r w).map fun (t, answer) => (t, some answer)
  | supervise r operation => (operation.perform settings r w).map fun t => (t, none)
  | internal now step => (step.perform now w).map fun t => (t, none)
  | administer _ directory => .ok ({ w with directory := directory }, none)

end Action

/-- An action with what it answered. -/
structure Event where
  action : Action
  outcome : Except Failure (Option Answer)

/-- The event has committed anew; a replay has not. -/
def Event.Commits (e : Event) : Prop :=
  ∃ answer, e.outcome = .ok answer ∧ answer.all fun answer => !answer.replayed

/-- One atomic operation. -/
def Step (settings : Settings) (w : World) (e : Event) (t : World) : Prop :=
  e.action.IsAuthenticated w ∧
    match e.action.perform settings w with
    | .ok (written, answer) => t = written ∧ e.outcome = .ok answer
    | .error failure => t = w ∧ e.outcome = .error failure

/-- A database without inquiries. -/
def Initial (w : World) : Prop := w.inquiries = ∅ ∧ w.records = ∅

end WaterCare.Service
