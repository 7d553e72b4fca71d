import WaterCare.Ai.Pipeline
import WaterCare.Machine.Relational

/-!
The two pipelines of a run from the structuring on: the graph of `SingleRAGPipeline`, and the
supervisor of `MultiAgentPipeline` with its three agents, the handoffs between them and the
feedback that asks for more information.
-/

namespace WaterCare.Ai.MultiAgent
open Store Analysis Machine Py SymptomStructurer Clarification Harness Reliability Pipeline

/-! ### What the stages share -/

/-- `PipelineContext`, with the fields that the first stages write beside those of the later
ones. What a request brings stays as it is. -/
structure Progress where
  symptom : Option StructuredSymptom
  safetySignals : SafetySignals
  missingFields : List MissingField
  followupQuestions : List FollowUpQuestion
  run : State

/-- What the pipelines are constructed and called with. -/
structure Setting where
  u : Unicode
  nfc : Text → Text
  config : SafetyRules
  o : Outside
  a : Args
  wording : Wording
  previousAnswers : List PreviousAnswer
  /-- What the structuring makes of the texts. -/
  structuring : Except Failure (StructuredSymptom × SafetySignals)
  /-- What the classifier makes of the texts, with the signals of the structuring. -/
  safety : SafetySignals → Except Failure SafetyAssessment
  /-- What `RetrievalContextBuilder` makes of the texts, with the structured symptom. -/
  queryText : Option StructuredSymptom → String
  retrievalConfigurationError : Option Failure

/-- The symptom of a context, without a type where there is none. -/
def Progress.clarified (p : Progress) : Clarified :=
  ⟨p.symptom.getD ⟨[], none, none, none, none, [], []⟩, p.missingFields, p.followupQuestions⟩

def later : Flow.Part State Progress where
  get p := p.run
  set p s := { p with run := s }
  get_set _ _ := rfl

/-- A stage that reads and writes the later fields. -/
def ofStep {α : Type} (step : Step α) : Flow Failure Progress α := Flow.within later id step

namespace Setting
variable (w : Setting)

/-- `raise_if_cancelled`. -/
def token : Flow Failure Progress Unit := ofStep (callUnit w.o.token)

/-- `deadline_scope` around a stage. -/
def scope (body : Flow Failure Progress Unit) : Flow Failure Progress Unit :=
  w.token.andThen fun _ => body.andThen fun _ => w.token

/-- `execute_structuring_stage`. -/
def structuringStage : Flow Failure Progress Unit := fun p =>
  match w.structuring with
  | .error failure => (.error failure, p)
  | .ok (symptom, signals) => (.ok (), { p with symptom := some symptom, safetySignals := signals })

/-- `execute_safety_check_stage`. -/
def safetyCheckStage : Flow Failure Progress Unit := fun p =>
  match w.safety p.safetySignals with
  | .error failure => (.error failure, p)
  | .ok safety =>
      (.ok (), { p with run := { p.run with ctx := { p.run.ctx with
        safetyAssessment := some safety } } })

/-- `execute_missing_fields_stage`, over the context. -/
def missingFieldsStage : Flow Failure Progress Unit := fun p =>
  match p.symptom with
  | none => (.error (.raised false), p)
  | some symptom =>
      let clarified := Clarification.missingFieldsStage w.nfc w.wording symptom w.previousAnswers
      (.ok (), { p with
        symptom := some clarified.symptom
        missingFields := clarified.missingFields
        followupQuestions := clarified.followupQuestions })

/-- `execute_questionnaire_pending_stage`, over the context. -/
def pendingStage : Flow Failure Progress Unit := fun p =>
  match questionnairePendingStage w.previousAnswers p.clarified p.run with
  | (.error failure, s) => (.error failure, { p with run := s })
  | (.ok clarified, s) =>
      (.ok (), { p with followupQuestions := clarified.followupQuestions, run := s })

/-- `should_wait_for_customer_input`, of the context. -/
def shouldWait (p : Progress) : Bool :=
  shouldWaitForCustomerInput w.nfc ((p.run.ctx.safetyAssessment.map (·.riskLevel)).getD .general)
    p.clarified.symptom.symptomType p.missingFields w.previousAnswers

/-- The outside, as the retrieval of a structured symptom sees it. -/
def around (symptom : Option StructuredSymptom) : Outside :=
  { w.o with
    queryText := w.queryText symptom
    applicability := symptom.bind fun symptom =>
      classifyForSymptom w.nfc symptom.symptomType w.previousAnswers }

/-- The search, where the configuration of the retrieval allows one. -/
def search (symptom : Option StructuredSymptom) : Step Unit :=
  match w.retrievalConfigurationError with
  | some failure => fun s => (.error failure, s)
  | none => retrievalStage w.u (w.around symptom) w.a

def retrieval : Flow Failure Progress Unit := fun p =>
  ofStep (deadlineScope w.o (w.search p.symptom)) p

def generation : Flow Failure Progress Unit :=
  ofStep (deadlineScope w.o (generationStage w.config w.o))

def validation : Flow Failure Progress Unit := ofStep (deadlineScope w.o (validationStage w.o))

/-! ### `single_rag_pipeline.py` -/

/-- The edges after the missing fields. -/
def routeAfterMissingFields : Flow Failure Progress Unit := fun p =>
  if w.shouldWait p then ((w.scope w.pendingStage).andThen fun _ => w.validation) p
  else (w.retrieval.andThen fun _ => w.generation.andThen fun _ => w.validation) p

/-- The edges after the safety check. -/
def routeAfterSafety : Flow Failure Progress Unit := fun p =>
  match p.run.ctx.safetyAssessment with
  | none => (.error (.raised false), p)
  | some safety =>
      if safety.riskLevel = .danger then (w.generation.andThen fun _ => w.validation) p
      else ((w.scope w.missingFieldsStage).andThen fun _ => w.routeAfterMissingFields) p

/-- `SingleRAGPipeline.run`. -/
def singleRag : Flow Failure Progress Unit :=
  w.token.andThen fun _ => (w.scope w.structuringStage).andThen fun _ =>
    (w.scope w.safetyCheckStage).andThen fun _ => w.routeAfterSafety

end Setting

/-! ### `shared_state.py` -/

inductive AgentRole
  | supervisor
  | symptomAnalysis
  | evidenceAnalysis
  | careDecision
  deriving DecidableEq, Repr

inductive HandoffReason
  | startAnalysis
  | dangerPriority
  | retrievalRequired
  | evidenceReady
  | moreInformationRequired
  | customerInputPending
  | noEvidence
  | careDecisionReady
  deriving DecidableEq, Repr

/-- `AgentHandoff`, without the identifiers of the request and the times. -/
structure AgentHandoff where
  fromAgent : AgentRole
  toAgent : AgentRole
  reasonCode : HandoffReason
  hopCount : Nat
  retryCount : Nat
  deriving DecidableEq, Repr

/-- `MultiAgentSharedState`. -/
structure Shared where
  context : Progress
  currentAgent : AgentRole
  handoffs : List AgentHandoff
  hopCount : Nat
  maxHops : Nat
  awaitingCustomerInput : Bool
  feedbackHandoffCount : Nat

/-- What the supervisor raises: what a stage raised, or a failure of its own. -/
inductive AgentFailure
  | stage (failure : Failure)
  | hopLimitExceeded
  | invalidHandoff
  | feedbackExceeded
  | noFeedbackQuestion
  | incompleteOutput
  deriving DecidableEq, Repr

abbrev Agent (α : Type) := Flow AgentFailure Shared α

def context : Flow.Part Progress Shared where
  get shared := shared.context
  set shared p := { shared with context := p }
  get_set _ _ := rfl

/-- `MultiAgentSharedState.handoff`, with the checks of `AgentHandoff`. -/
def handoff (toAgent : AgentRole) (reason : HandoffReason) : Agent Unit := fun shared =>
  if shared.maxHops ≤ shared.hopCount then (.error .hopLimitExceeded, shared)
  else if 8 < shared.hopCount + 1 ∨ 1 < shared.context.run.ctx.retryCount then
    (.error .invalidHandoff, shared)
  else
    (.ok (), { shared with
      handoffs := shared.handoffs ++ [⟨shared.currentAgent, toAgent, reason, shared.hopCount + 1,
        shared.context.run.ctx.retryCount⟩]
      currentAgent := toAgent
      hopCount := shared.hopCount + 1 })

/-- The state at the start of a run. -/
def Shared.start (p : Progress) (maxHops : Nat) : Shared :=
  ⟨p, .supervisor, [], 0, maxHops, false, 0⟩

/-! ### The agents -/

/-- `SymptomAnalysisAgent._output`. -/
def symptomOutput : Agent Unit := fun shared =>
  if shared.context.symptom.isNone || shared.context.run.ctx.safetyAssessment.isNone then
    (.error .incompleteOutput, shared)
  else (.ok (), shared)

namespace Setting
variable (w : Setting)

end Setting

end WaterCare.Ai.MultiAgent
