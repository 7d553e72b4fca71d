import WaterCare.Runtime.Failures
import WaterCare.Runtime.Trace

/-!
No step of a run ends in a `RuntimeError` branch of the consultation repository:
every operation of the system, followed through its failures. The consultations
stay coupled to the status of their inquiry meanwhile.
-/

namespace WaterCare.Runtime
open Machine Workflow Store Service Py Analysis

/-! ### Requests -/

section
variable {settings : Settings} {request : Request} {w : World} {a : Aggregate}

/-- Every inquiry of the database is coupled. -/
def AllCoupled (w : World) : Prop := ∀ i a, w.aggregate i = some a → Coupled w.nextId a

theorem service_expected {d : Directory} {service : InquiryAction} (all : AllCoupled w)
    (is : IsService settings d request service) : Expected (service.perform request w) := by
  refine perform_expected is.careful ?_
  intro a found context plan prepared resolved
  exact is.expected (all _ a found) prepared resolved

theorem createInquiry_expected {operation : OperationId} {requestHash : String} {q : Inquiry}
    {event : EventCode} {session : Option SessionAggregate} :
    Expected (createInquiry request operation requestHash q event session w) := by
  unfold createInquiry
  refine .bind (save_expected q (by decide)) fun stored _ => ?_
  refine .bind ?_ fun linked _ => .bind (recordHistory_expected _) fun _ _ => .ok _
  unfold InquiryLinkService.linkOptional
  split
  · exact .ok _
  · refine .bind ?_ fun _ _ => .ok _
    unfold InquiryLinkService.link SessionAggregate.recordHistory
    refine .bind (save_expected _ (by decide)) fun _ _ => ?_
    refine .bind (save_expected _ (by decide)) fun _ _ => ?_
    split
    · exact raised_expected (by decide)
    · exact .ok _

theorem start_expected {values : StartValues} :
    Expected (startInquiry settings request values w) := by
  unfold startInquiry
  split
  · exact .error nofun
  · split
    · exact replay_expected _ _
    · refine withIdempotencyRecord_expected fun pending => ?_
      refine .bind ?_ fun session _ => createInquiry_expected
      unfold InquiryLinkService.lockOptional
      split
      · exact .ok _
      · refine .map ?_
        unfold InquiryLinkService.lockCandidate
        split
        · exact .error nofun
        · split
          · exact .error nofun
          · exact .ok _

theorem register_expected {values : PhoneValues} :
    Expected (registerPhoneInquiry settings request values w) := by
  unfold registerPhoneInquiry
  dsimp only
  split
  · exact .error nofun
  · split
    · exact replay_expected _ _
    · split
      · exact raised_expected (by decide)
      · split
        · exact .error nofun
        · exact withIdempotencyRecord_expected fun pending => createInquiry_expected

theorem actionResult_expected {inquiry version : Nat} {values : ActionResultValues} :
    Expected (ActionResultService.create settings request inquiry version values w) := by
  unfold ActionResultService.create
  dsimp only
  split
  · exact .error nofun
  · split
    · exact replay_expected _ _
    · split
      · exact .error nofun
      · split
        · exact .error nofun
        · refine withIdempotencyRecord_expected fun pending => ?_
          refine .bind ?_ fun _ _ => .ok _
          unfold ActionResultService.write
          refine .bind (save_expected _ (by decide)) fun _ _ => ?_
          exact .bind (save_expected _ (by decide)) fun _ _ => .ok _

theorem claim_expected {inquiry version : Nat} (all : AllCoupled w) :
    Expected (ConsultationClaimService.claim settings w.directory request inquiry version w) := by
  unfold ConsultationClaimService.claim
  dsimp only
  split
  · exact .error nofun
  · rename_i a locked
    split
    · refine execute_expected (IsService.claim inquiry version).careful ?_
      intro context plan prepared resolved
      exact (IsService.claim inquiry version).expected
        (all _ a (Option.filter_eq_some_iff.1 locked).1) prepared resolved
    · split
      · exact replay_expected _ _
      · exact .error nofun

/-! ### Review decisions -/

theorem consultationAudit_expected {review : HumanReview} {g : Guidance}
    {values : HumanReviewService.DecisionValues} :
    Expected (HumanReviewService.consultationAudit a review g values) := by
  unfold HumanReviewService.consultationAudit
  dsimp only
  repeat' split
  all_goals first
    | exact .ok _
    | exact .error nofun

theorem reviewTransition_expected {event : EventCode} {correlationId : Uuid}
    {results : List (GuardId × Bool)} :
    Expected (HumanReviewService.reviewTransition a event correlationId results) := by
  unfold HumanReviewService.reviewTransition
  split
  · refine .error ?_
    split <;> exact nofun
  · split
    · exact .ok _
    · refine .error ?_
      split <;> exact nofun

theorem applyGuidanceDecision_expected {g : Guidance} {values : HumanReviewService.DecisionValues}
    {effective : Bool} {actor id : Nat} {now : Instant} :
    Expected (HumanReviewService.applyGuidanceDecision a g values effective actor id now) := by
  unfold HumanReviewService.applyGuidanceDecision
  split
  · exact .bind (save_expected _ (by decide)) fun _ _ => .ok _
  · refine .bind (save_expected _ (by decide)) fun _ _ => ?_
    dsimp only
    split
    · exact .ok _
    · split
      · exact raised_expected (by decide)
      · exact .bind (save_expected _ (by decide)) fun _ _ => .ok _

theorem decisionWrite_expected {d : Directory} {values : HumanReviewService.DecisionValues}
    {review : HumanReview} {g : Guidance} {audit : HumanReviewService.ConsultationAudit}
    {plan : Plan} {id : Nat} (idle : ∀ c, a.latestConsultation = some c →
      plan.rule.event ≠ .humanReviewGuidanceApproved → c.1.status ≠ .inProgress) :
    Expected (HumanReviewService.write d request values a review g audit plan id) := by
  unfold HumanReviewService.write
  refine .bind applyGuidanceDecision_expected ?_
  rintro ⟨applied, shown⟩ applies
  obtain ⟨guidances, rfl, _, _⟩ := applyGuidanceDecision_ok applies
  refine .bind (save_expected _ (by decide)) fun row _ => ?_
  refine .bind ?_ fun requested _ => .bind (save_expected _ (by decide)) fun inquiry _ => ?_
  · unfold HumanReviewService.requestIfRequired
    split
    · exact .ok _
    · rename_i other
      refine .bind (request_expected fun c latest => idle c latest other) ?_
      rintro ⟨asked, c⟩ _
      refine .bind (attachToLatest_expected c) ?_
      rintro ⟨attached, final⟩ _
      exact .ok _
  · dsimp only
    split
    · exact .bind (recordHistory_expected _) fun _ _ => .ok _
    · exact .ok _

theorem decide_expected {reviewId : Nat} {values : HumanReviewService.DecisionValues}
    (all : AllCoupled w) :
    Expected (HumanReviewService.decideHumanReview settings request reviewId values w) := by
  unfold HumanReviewService.decideHumanReview
  split
  · exact .error nofun
  · rename_i inquiry a review visible
    split
    · exact replay_expected _ _
    · unfold HumanReviewService.execute
      dsimp only
      split
      · exact .error nofun
      · split
        · exact raised_expected (by decide)
        · refine .bind consultationAudit_expected fun audit _ => ?_
          refine .bind reviewTransition_expected fun plan moved => ?_
          refine withIdempotencyRecord_expected fun pending => ?_
          refine .bind (decisionWrite_expected ?_) fun _ _ => .ok _
          intro c latest other
          obtain ⟨resolved, _⟩ := reviewTransition_ok moved
          obtain ⟨_, fires, _⟩ := resolve_ok resolved
          rcases eventCode_cases values.decision audit.effectiveRequiresConsultation with
            approved | ⟨asks, _, _⟩
          · exact absurd (fires.trans approved) other
          · exact (all _ a (lockVisible_found visible).1).idle resolved asks c latest

theorem operation_expected {operation : Operation} (all : AllCoupled w) :
    Expected (operation.perform settings request w) := by
  cases operation with
  | start values => exact start_expected
  | register values => exact register_expected
  | act action =>
      unfold Operation.perform
      dsimp only
      split
      · exact .error nofun
      · rename_i service served
        exact service_expected all (Serves.act served).isService
  | createActionResult inquiry version values => exact actionResult_expected
  | claim inquiry version => exact claim_expected all
  | decide review values => exact decide_expected all

end

/-! ### The supervisor -/

section
variable {settings : Settings} {request : Request} {w : World}

theorem authorize_expected : Expected (SupervisorConsultationService.authorize settings request) := by
  unfold SupervisorConsultationService.authorize
  split
  · exact .ok _
  · exact .error nofun

theorem requireReason_expected (reason message : String) :
    Expected (SupervisorConsultationService.requireReason reason message) := by
  unfold SupervisorConsultationService.requireReason
  split
  · exact .error nofun
  · exact .ok _

theorem findConsultation_expected (consultation : Nat) :
    Expected (SupervisorConsultationService.findConsultation w consultation) := by
  unfold SupervisorConsultationService.findConsultation
  dsimp only
  split
  · exact .error nofun
  · split
    · exact .error nofun
    · exact .ok _

theorem requireSyntheticLatest_expected {d : Directory} {a : Aggregate} {c : Stored Consultation} :
    Expected (SupervisorConsultationService.requireSyntheticLatest d a c) := by
  unfold SupervisorConsultationService.requireSyntheticLatest
  split
  · exact .error nofun
  · split
    · exact .error nofun
    · exact .ok _

theorem lockConsultation_expected (consultation : Nat) :
    Expected (SupervisorConsultationService.lockConsultation w consultation) :=
  .bind (findConsultation_expected consultation) fun _ _ =>
    .bind requireSyntheticLatest_expected fun _ _ => .ok _

theorem requireAssignedConsultant_expected {d : Directory} {c : Stored Consultation} :
    Expected (SupervisorConsultationService.requireAssignedConsultant d c) := by
  unfold SupervisorConsultationService.requireAssignedConsultant
  split
  · exact .ok _
  · exact .error nofun

theorem asConsultant_expected {consultation : Nat} {action : Nat → Nat → User → AssignedAction}
    (all : AllCoupled w)
    (is : ∀ inquiry version consultant,
      IsAssigned settings w.directory request consultant inquiry
        (action inquiry version consultant)) :
    Expected (SupervisorConsultationService.asConsultant settings request consultation action w) := by
  unfold SupervisorConsultationService.asConsultant
  refine .bind authorize_expected fun _ _ => ?_
  refine .bind (lockConsultation_expected consultation) ?_
  rintro ⟨inquiry, a, c⟩ _
  refine .bind requireAssignedConsultant_expected fun consultant _ => ?_
  exact .bind (service_expected all (.assigned consultant inquiry (is _ _ _))) fun _ _ => .ok _

theorem cancelInquiry_expected {inquiry : Nat} {reason : String} (all : AllCoupled w) :
    Expected (SupervisorConsultationService.cancelInquiry settings request inquiry reason w) := by
  unfold SupervisorConsultationService.cancelInquiry
  refine .bind authorize_expected fun _ _ => ?_
  refine .bind (requireReason_expected _ _) fun detail _ => ?_
  split
  · exact .error nofun
  · exact .bind (service_expected all (.cancel _ _ _)) fun _ _ => .ok _

theorem supervise_expected {operation : SupervisorOperation} (all : AllCoupled w) :
    Expected (operation.perform settings request w) := by
  cases operation with
  | reassign consultation target reason =>
      unfold SupervisorOperation.perform SupervisorConsultationService.reassign
      refine .bind authorize_expected fun _ _ => ?_
      refine .bind (requireReason_expected _ _) fun _ _ => ?_
      refine .bind (lockConsultation_expected consultation) ?_
      rintro ⟨inquiry, a, c⟩ _
      dsimp only
      split
      · exact .error nofun
      · split
        · exact .error nofun
        · refine .bind ?_ fun _ _ => .ok _
          unfold SupervisorConsultationService.writeReassignment
          refine .bind (save_expected _ (by decide)) fun _ _ => ?_
          exact .bind (save_expected _ (by decide)) fun _ _ => .ok _
  | start consultation =>
      unfold SupervisorOperation.perform SupervisorConsultationService.start
      refine asConsultant_expected all ?_
      exact fun _ version _ => .start version
  | updateDetails consultation values =>
      unfold SupervisorOperation.perform SupervisorConsultationService.updateDetails
      refine .bind authorize_expected fun _ _ => ?_
      refine .bind (lockConsultation_expected consultation) ?_
      rintro ⟨inquiry, a, c⟩ _
      refine .bind requireAssignedConsultant_expected fun _ _ => ?_
      split
      · exact .ok _
      · refine asConsultant_expected all ?_
        exact fun _ version _ => .saveSummary version values
  | confirm consultation =>
      unfold SupervisorOperation.perform SupervisorConsultationService.confirm
      refine asConsultant_expected all ?_
      exact fun _ version _ => .confirmSummary version
  | complete consultation =>
      unfold SupervisorOperation.perform SupervisorConsultationService.complete
      refine asConsultant_expected all ?_
      exact fun _ version _ => .complete version
  | cancelInquiry inquiry reason => exact cancelInquiry_expected all
  | cancelConsultation consultation reason =>
      unfold SupervisorOperation.perform SupervisorConsultationService.cancelConsultation
      refine .bind authorize_expected fun _ _ => ?_
      refine .bind (requireReason_expected _ _) fun _ _ => ?_
      refine .bind (findConsultation_expected consultation) ?_
      rintro ⟨inquiry, a, c⟩ _
      refine .bind requireSyntheticLatest_expected fun _ _ => ?_
      split
      · exact cancelInquiry_expected all
      · exact .error nofun

end

/-! ### The Backend and the AI -/

/-- The steps in which a verifier outside the services has raised it. -/
def RaisedOutside : Action → Prop
  | .internal _ (.onRun _ _ (.persistValidatedResult verification)) =>
      verification.ledger = some (.error "RuntimeError")
  | .internal _ (.persistHandoff _ _ _ _ checkEvidence) =>
      ∃ run, checkEvidence run = .error runtimeError
  | _ => False

section
variable {w : World} {d : Directory} {a : Aggregate} {now : Instant}

theorem changeRun_expected {id : Nat} {expected : RunStatus → Bool} {change : AIRun → AIRun} :
    Expected (InquiryAIService.changeRun a id expected change) := by
  unfold InquiryAIService.changeRun
  split
  · exact raised_expected (by decide)
  · split
    · exact .bind (save_expected _ (by decide)) fun _ _ => .ok _
    · exact .ok _

theorem applySystemEvent_expected {plan : Plan} {mark : Inquiry → Inquiry} {correlationId : Uuid}
    {key : String} : Expected (InquiryAIService.applySystemEvent a plan mark correlationId key now) :=
  .bind (save_expected _ (by decide)) fun _ _ => recordHistory_expected _

theorem applyFailureEvent_expected {event : EventCode} {guard : GuardId} {accepted : AIRun → Bool}
    {mark : Inquiry → Inquiry} {run : AIRun} :
    Expected (InquiryAIService.applyFailureEvent event guard accepted mark d a run now) := by
  unfold InquiryAIService.applyFailureEvent
  split
  · exact .ok _
  · split
    · exact raised_expected (by decide)
    · split
      · exact .ok _
      · split
        · exact .bind applySystemEvent_expected fun _ _ => .ok _
        · exact raised_expected (by decide)

theorem saveFollowupQuestions_expected {id : Nat} (questions : List FollowUpQuestion) :
    Expected (InquiryAIService.saveFollowupQuestions a id questions) := by
  induction questions generalizing a id with
  | nil => exact .ok _
  | cons question rest ih =>
      unfold InquiryAIService.saveFollowupQuestions
      split
      · exact ih
      · split
        · exact ih
        · exact raised_expected (by decide)

theorem saveBundle_expected {run : AIRun} {r : SymptomAnalysisResult}
    {v : InquiryAIService.Verification} {id : Nat} :
    Expected (InquiryAIService.saveBundle a run r v id now) := by
  have bundle : Expected (InquiryAIService.saveGuidanceBundle a run r v id now) := by
    unfold InquiryAIService.saveGuidanceBundle
    refine .bind (save_expected _ (by decide)) fun guidance _ => ?_
    split
    · exact raised_expected (by decide)
    · dsimp only
      split
      · unfold HumanReviewService.createPending
        refine .bind (save_expected _ (by decide)) fun row _ => ?_
        split
        · exact raised_expected (by decide)
        · exact .ok _
      · exact .ok _
  unfold InquiryAIService.saveBundle
  split
  · exact .ok _
  · split
    · exact .ok _
    · rename_i failure failed
      split
      · refine .error ?_
        intro same
        exact bundle (failed.trans (congrArg Except.error same))
      · exact .ok _

theorem applyEventIfAllowed_expected {limit : Nat} {r : SymptomAnalysisResult}
    {verified : List String} {id : Nat} (coupled : Coupled limit a) :
    Expected (InquiryAIService.applyEventIfAllowed d a r verified id now) := by
  unfold InquiryAIService.applyEventIfAllowed
  split
  · exact .ok _
  · rename_i event _
    split
    · exact raised_expected (by decide)
    · rename_i plan resolved
      split
      · exact .ok _
      · refine .bind applySystemEvent_expected fun moved moves => .bind ?_ fun _ _ => .ok _
        unfold InquiryAIService.requestOnDanger
        split
        · rename_i danger
          obtain ⟨_, fires, _⟩ := resolve_ok resolved
          have same : event = .dangerDetected := fires.symm.trans danger
          subst same
          obtain ⟨inquiry, row, _, _, rfl⟩ := applySystemEvent_ok moves
          exact .map (request_expected (coupled.idle resolved rfl))
        · exact .ok _

theorem runStep_expected {limit : Nat} {step : RunStep} {run : AIRun} {inquiry id : Nat}
    (coupled : Coupled limit a)
    (inside : ¬ RaisedOutside (.internal now (.onRun inquiry id step))) :
    Expected (step.perform now w a run) := by
  cases step with
  | markRunning =>
      unfold RunStep.perform InquiryAIService.markRunning
      exact changeRun_expected
  | markSucceeded result =>
      unfold RunStep.perform
      dsimp only
      split
      · exact changeRun_expected
      · exact raised_expected (by decide)
  | markFailed error =>
      unfold RunStep.perform InquiryAIService.markFailed
      exact changeRun_expected
  | markDomainPersistenceFailed failureCode =>
      unfold RunStep.perform InquiryAIService.markDomainPersistenceFailed
      exact changeRun_expected
  | persistValidatedResult verification =>
      unfold RunStep.perform
      dsimp only
      split
      · exact .ok _
      · refine .map ?_
        unfold InquiryAIService.persistValidatedResult
        split
        · exact .ok _
        · refine .bind ?_ fun assessed h₁ => .bind ?_ fun audited h₂ =>
            .bind (saveFollowupQuestions_expected _) fun asked h₃ => .bind saveBundle_expected ?_
          · exact .bind (save_expected _ (by decide)) fun _ _ => .ok _
          · unfold InquiryAIService.saveLedger
            split
            · exact .ok _
            · rename_i name raised
              refine raised_expected ?_
              intro same
              exact inside (raised.trans (by rw [same]))
            · exact .ok _
          · rintro ⟨saved, verified⟩ h₄
            refine .bind (save_expected _ (by decide)) fun inquiry h₅ => ?_
            have same := projection_same h₁ h₂ h₃ h₄ (save_ok.1 h₅)
            exact applyEventIfAllowed_expected (coupled.same same : Coupled (limit + 0) _)
  | applyTimeoutEvent => exact .map applyFailureEvent_expected
  | applyUnusableAiFailureEvent => exact .map applyFailureEvent_expected

theorem lockV2AiRun_expected {inquiry : Nat} {payload : HandoffPayload} {correlationId : Uuid} :
    Expected (ConsultationHandoffService.lockV2AiRun w inquiry payload correlationId) := by
  unfold ConsultationHandoffService.lockV2AiRun
  dsimp only
  split
  · exact .error nofun
  · repeat' split
    all_goals first
      | exact .error nofun
      | refine .map ?_
        unfold ConsultationHandoffService.validateOriginalRunIdentity
        split
        · exact .error nofun
        · split
          · exact .ok _
          · exact .error nofun

theorem lockV1AiRun_expected {payload : HandoffPayload} {correlationId : Uuid} :
    Expected (ConsultationHandoffService.lockV1AiRun a payload correlationId) := by
  unfold ConsultationHandoffService.lockV1AiRun
  split
  · exact .ok _
  · exact .error nofun

theorem validatedOutput_expected (run : AIRun) :
    Expected (ConsultationHandoffService.validatedOutput run) := by
  unfold ConsultationHandoffService.validatedOutput
  repeat' split
  all_goals first
    | exact .ok _
    | exact .error nofun

theorem requireTransition_expected (run : AIRun) (event : EventCode) :
    Expected (ConsultationHandoffService.requireTransition a run event) := by
  unfold ConsultationHandoffService.requireTransition
  split
  · exact .ok _
  · exact .error nofun

theorem routeAuthority_expected {run : AIRun} {payload : HandoffPayload} :
    Expected (ConsultationHandoffService.validateV2RouteAuthority a run payload) := by
  unfold ConsultationHandoffService.validateV2RouteAuthority
  split
  · refine .bind (validatedOutput_expected run) fun output _ => ?_
    split
    · exact .error nofun
    · exact requireTransition_expected run _
  · split
    · refine .bind (validatedOutput_expected run) fun output _ => ?_
      split
      · exact .ok _
      · exact .error nofun
    · unfold ConsultationHandoffService.validateFailClosedAuthority
      split
      · refine .bind (validatedOutput_expected run) fun output _ => ?_
        split
        · exact .ok _
        · exact .error nofun
      · split
        · split
          · exact .error nofun
          · exact requireTransition_expected run _
        · refine .bind (validatedOutput_expected run) fun output _ => ?_
          repeat' split
          all_goals first
            | exact .ok _
            | exact .error nofun
            | exact requireTransition_expected run _

theorem mismatch_ne (payload : HandoffPayload) (message : String) :
    ConsultationHandoffService.mismatch payload message ≠ runtimeError := by
  unfold ConsultationHandoffService.mismatch
  split <;> exact nofun

theorem persistHandoff_expected {inquiry : Nat} {payload : HandoffPayload} {key : String}
    {correlationId : Uuid} {checkEvidence : AIRun → Except Failure Unit}
    (inside : ∀ run, Expected (checkEvidence run)) :
    Expected (ConsultationHandoffService.persist w inquiry payload key correlationId checkEvidence
      now) := by
  unfold ConsultationHandoffService.persist
  split
  · exact .error (mismatch_ne _ _)
  · rename_i a _
    split
    · exact .error nofun
    · split
      · split
        · exact .error nofun
        · split
          · exact .ok _
          · exact .bind (attachHandoff_expected _) fun _ _ => .ok _
      · refine .bind ?_ fun run _ => .bind (attachHandoff_expected _) fun _ _ => .ok _
        unfold ConsultationHandoffService.authorize
        dsimp only
        split
        · refine .bind lockV2AiRun_expected fun run _ => ?_
          split
          · exact .error (mismatch_ne _ _)
          · exact .bind routeAuthority_expected fun _ _ => .bind (inside run) fun _ _ => .ok _
        · refine .bind lockV1AiRun_expected fun run _ => ?_
          split
          · exact .error (mismatch_ne _ _)
          · exact .bind (inside run) fun _ _ => .ok _

theorem markResumeFailed_expected {review : HumanReview} :
    Expected (HumanReviewService.markResumeFailed a review now) := by
  unfold HumanReviewService.markResumeFailed
  split
  all_goals first
    | exact .bind (save_expected _ (by decide)) fun _ _ => .ok _
    | exact .error nofun

theorem internal_expected {step : InternalStep} (all : AllCoupled w)
    (inside : ¬ RaisedOutside (.internal now step)) : Expected (step.perform now w) := by
  cases step with
  | createRun inquiry analysis =>
      unfold InternalStep.perform
      dsimp only
      split
      · exact raised_expected (by decide)
      · split
        · exact raised_expected (by decide)
        · refine .bind ?_ fun _ _ => .ok _
          exact .bind (save_expected _ (by decide)) fun _ _ => .ok _
  | onRun inquiry run step =>
      unfold InternalStep.perform
      dsimp only
      split
      · exact raised_expected (by decide)
      · rename_i a r located
        obtain ⟨a', found, rest⟩ := Option.bind_eq_some_iff.1 located
        obtain ⟨r', _, same⟩ := Option.map_eq_some_iff.1 rest
        cases same
        exact .bind (runStep_expected (all inquiry a found) inside) fun _ _ => .ok _
  | persistHandoff inquiry payload key correlationId checkEvidence =>
      refine persistHandoff_expected ?_
      intro run raised
      exact inside ⟨run, raised⟩
  | markResumeFailed inquiry review =>
      unfold InternalStep.perform
      dsimp only
      split
      · exact .error nofun
      · exact .bind markResumeFailed_expected fun _ _ => .ok _

end

/-! ### Runs -/

section
variable {settings : Settings} {start w : World} {labels : List Event} {act : Action}

theorem action_expected (all : AllCoupled w) (inside : ¬ RaisedOutside act) :
    Expected (act.perform settings w) := by
  cases act with
  | request request operation => exact .map (operation_expected all)
  | supervise request operation => exact .map (supervise_expected all)
  | internal now step => exact .map (internal_expected all inside)
  | administer now directory => exact .ok _

theorem reachable_allCoupled (initial : Initial start) (run : Run (Step settings) start labels w) :
    AllCoupled w :=
  fun _ _ found => reachable_coupled initial (Run.allowed run) found

/-- The consultations of an inquiry in step with its status. -/
structure ConsultationsInStep (a : Aggregate) : Prop where
  sequences : a.consultations.map (·.1.sequence) = List.range' 1 a.consultations.length
  one_active : (a.consultations.filter fun c => c.1.status.isActive).length ≤ 1
  active_last : ∀ c ∈ a.consultations, c.1.status.isActive = true →
    ∀ d ∈ a.consultations, d.1.sequence ≤ c.1.sequence
  working : a.q.status = .consultationInProgress ∨ a.q.status = .visitReviewPending →
    ∃ c consultant, a.latestConsultation = some c ∧ c.1.status = .inProgress ∧
      c.1.consultant = some consultant ∧ a.q.assignedUser = some consultant
  cancelled : a.q.status = .cancelled → ∀ c ∈ a.consultations, c.1.status.isActive = false

/-- A running consultation has a consultant. -/
theorem consultant_of_running (c : Stored Consultation) (running : c.1.status = .inProgress) :
    ∃ consultant, c.1.consultant = some consultant := by
  have accepted := c.2
  have lifecycle : c.1.lifecycle = true := by
    change (_ && _ && _ && c.1.lifecycle && _ && _ && _) = true at accepted
    simp only [Bool.and_eq_true] at accepted
    exact accepted.1.1.1.2
  unfold Consultation.lifecycle at lifecycle
  rw [running] at lifecycle
  dsimp only at lifecycle
  rw [Bool.and_eq_true, Bool.and_eq_true] at lifecycle
  exact Option.isSome_iff_exists.1 lifecycle.1.1

theorem Coupled.inStep {limit : Nat} {a : Aggregate} (coupled : Coupled limit a) :
    ConsultationsInStep a := by
  have numbers := coupled.desk.numbered.numbers
  refine ⟨numbers, ?_, ?_, ?_, ?_⟩
  · rcases List.eq_nil_or_concat a.consultations with empty | ⟨older, c, split⟩
    · rw [empty]
      exact Nat.zero_le 1
    · have closed := coupled.desk.closed
      rw [List.concat_eq_append] at split
      rw [split, List.dropLast_concat] at closed
      have none_older : older.filter (fun c => c.1.status.isActive) = [] := by
        refine List.filter_eq_nil_iff.2 ?_
        intro d mem active
        rw [closed d mem] at active
        cases active
      rw [split, List.filter_append, none_older, List.nil_append]
      exact List.length_filter_le _ [c]
  · intro c mem active d mem'
    obtain ⟨older, split⟩ := coupled.desk.active_last mem active
    have numbered := coupled.desk.numbered
    have last := (split ▸ numbered).older_of_concat.2.1
    have bound := (numbered.number_bounds mem').2
    rw [split, List.length_append, List.length_singleton] at bound
    omega
  · intro working
    have stands := coupled.stands
    have desk : stage a.q.status = .desk := by
      rcases working with status | status
      · rw [status]
        rfl
      · rw [status]
        rfl
    rw [desk] at stands
    obtain ⟨x, last, running, own⟩ := stands
    obtain ⟨c, mem, rfl⟩ := Option.map_eq_some_iff.1 last
    obtain ⟨older, split⟩ := List.getLast?_eq_some_iff.1 mem
    obtain ⟨consultant, assigned⟩ := consultant_of_running c running
    exact ⟨c, consultant, coupled.desk.latest_of_concat split, running, assigned,
      own.symm.trans assigned⟩
  · intro cancelled c mem
    cases active : c.1.status.isActive with
    | false => rfl
    | true =>
        obtain ⟨older, split⟩ := coupled.desk.active_last mem active
        have stands := coupled.stands
        rw [cancelled, split, lastConsultation_concat] at stands
        have inactive := stands c.1 rfl
        rw [active] at inactive
        cases inactive

/-- In every run the consultations of every inquiry stay in step with its status, and
the repository of the consultations never raises its `RuntimeError`. -/
theorem run_consultations (initial : Initial start) (run : Run (Step settings) start labels w) :
    (∀ i a, w.aggregate i = some a → ConsultationsInStep a) ∧
      ∀ e ∈ labels, e.outcome = .error runtimeError → RaisedOutside e.action := by
  refine ⟨fun i a found => (reachable_allCoupled initial run i a found).inStep, ?_⟩
  induction run with
  | refl => exact fun e mem => absurd mem List.not_mem_nil
  | snoc earlier last ih =>
      intro e mem raised
      rcases List.mem_append.1 mem with old | new
      · exact ih e old raised
      · rw [List.mem_singleton.1 new] at raised ⊢
        by_contra inside
        rcases step_cases last with ⟨answer, _, outcome⟩ | ⟨_, failure, performed, outcome⟩
        · rw [outcome] at raised
          cases raised
        · rw [outcome] at raised
          cases raised
          exact action_expected (reachable_allCoupled initial earlier) inside performed

end

theorem run_consultations_confirming :
    (∀ i a, (trace Sample.settings Sample.world Sample.confirming).2.aggregate i = some a →
        ConsultationsInStep a) ∧
      ∀ e ∈ (trace Sample.settings Sample.world Sample.confirming).1,
        e.outcome = .error runtimeError → RaisedOutside e.action :=
  run_consultations Sample.world_initial (trace_run (by decide +kernel))

end WaterCare.Runtime
