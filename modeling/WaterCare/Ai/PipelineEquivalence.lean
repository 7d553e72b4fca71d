import WaterCare.Ai.ClarificationRounds
import WaterCare.Ai.EvidenceVerdict
import WaterCare.Ai.MultiAgent

/-!
The supervisor does what the graph does: from one context both raise what a stage raised, or they
leave the same context, and the supervisor neither asks for feedback nor runs out of hops.
-/

namespace WaterCare.Ai.MultiAgent
open Store Analysis Machine Py SymptomStructurer Clarification Harness Reliability Pipeline

/-! ### What the two runs have in common -/

/-- The supervisor raises what a stage raised. -/
abbrev Raises (failure : Failure) (failure' : AgentFailure) : Prop := failure' = .stage failure

/-- What the supervisor keeps of its own: it came by as many hops as it recorded, and had no
feedback. -/
structure Hops (maxHops n : Nat) (shared : Shared) : Prop where
  hopCount : shared.hopCount = n
  maxHops : shared.maxHops = maxHops
  recorded : shared.handoffs.length = n
  feedback : shared.feedbackHandoffCount = 0

/-- The fields of the questions are the same. -/
structure Same (p q : Progress) : Prop where
  symptom : q.symptom = p.symptom
  signals : q.safetySignals = p.safetySignals
  missingFields : q.missingFields = p.missingFields
  followupQuestions : q.followupQuestions = p.followupQuestions

/-- A context of the graph and a state of the supervisor after `n` hops. -/
structure InStep (fields : Progress → Progress → Prop) (maxHops n : Nat) (p : Progress)
    (shared : Shared) : Prop where
  run : p.run = shared.context.run
  fields : fields p shared.context
  hops : Hops maxHops n shared
  retried : p.run.ctx.retryCount ≤ 1

section Steps
variable {fields : Progress → Progress → Prop} {maxHops n : Nat} {p : Progress} {shared : Shared}

theorem inStep_same : InStep Same maxHops n p shared ↔
    shared.context = p ∧ Hops maxHops n shared ∧ p.run.ctx.retryCount ≤ 1 := by
  constructor
  · intro step
    refine ⟨?_, step.hops, step.retried⟩
    have ⟨symptom, signals, missing, questions⟩ := step.fields
    have later := step.run
    cases p
    cases context : shared.context
    rw [context] at symptom signals missing questions later
    simp only at symptom signals missing questions later
    rw [symptom, signals, missing, questions, later]
  · intro known
    have ⟨same, hops, retried⟩ := known
    subst same
    exact ⟨rfl, ⟨rfl, rfl, rfl, rfl⟩, hops, retried⟩

/-- The retries of a context, of which one counts. -/
def retries (s : State) : Nat := max s.ctx.retryCount 1

theorem ofStep_apply {α : Type} (step : Step α) (p : Progress) :
    ofStep step p = ((step p.run).1, { p with run := (step p.run).2 }) := by
  unfold ofStep Flow.within later
  dsimp only
  cases step p.run with
  | mk result s => cases result <;> rfl

end Steps

/-! ### What the stages leave -/

/-- A flow that ends leaves at most one retry. -/
def KeepsRetries (flow : Flow Failure Progress Unit) : Prop :=
  ∀ p q, p.run.ctx.retryCount ≤ 1 → flow p = (.ok (), q) → q.run.ctx.retryCount ≤ 1

/-- There is an assessment and a guidance. -/
def Complete (s : State) : Prop :=
  s.ctx.usageGuidance.isSome = true ∧ s.ctx.safetyAssessment.isSome = true

section Leaves
variable {w : Setting} {s t : State}

theorem KeepsRetries.andThen {first next : Flow Failure Progress Unit} (h : KeepsRetries first)
    (h' : KeepsRetries next) : KeepsRetries (first.andThen fun _ => next) := by
  intro p q bound ran
  have ⟨_, p', started, ended⟩ := Flow.andThen_eq_ok ran
  exact h' p' q (h p p' bound started) ended

end Leaves

/-! ### The care decision -/

section Care
variable {w : Setting} {fields : Progress → Progress → Prop} {maxHops n : Nat}

end Care

/-! ### The wait for the customer -/

/-- What does not depend on when it is called: nothing is cancelled, and the validation of the
guidance answers the same at any time. -/
structure Steady (o : Outside) : Prop where
  token : ∀ n, o.token n = none
  sanitize : ∀ n, o.sanitize n = o.sanitize 0
  validate : ∀ n, o.validate n = o.validate 0

/-- Two contexts that differ in the number of their calls. -/
structure Still (p q : Progress) : Prop where
  same : Same p q
  run : still p.run = still q.run

section Wait
variable {w : Setting} {p q : Progress}

theorem token_runs (steady : Steady w.o) (p : Progress) :
    w.token p = (.ok (), { p with run := { p.run with calls := p.run.calls + 1 } }) := by
  unfold Setting.token
  rw [ofStep_apply]
  unfold callUnit call
  simp only [steady.token]

/-- The contexts while the customer is waited for. -/
structure Waits (maxHops n : Nat) (p : Progress) (shared : Shared) : Prop where
  still : Still p shared.context
  hops : Hops maxHops n shared
  retried : p.run.ctx.retryCount ≤ 1

variable {maxHops n : Nat}

end Wait

/-! ### The ways of the supervisor -/

section Ways
variable {w : Setting} {maxHops n : Nat}

/-- What the safety check makes of a run. -/
def Setting.assessment (w : Setting) : Except Failure SafetyAssessment :=
  w.structuring.bind fun structured => w.safety structured.2

/-- Whether the safety check finds a danger. -/
def Setting.dangerous (w : Setting) : Bool :=
  match w.assessment with
  | .error _ => false
  | .ok safety => safety.riskLevel == .danger

/-- A context without the number of the calls that were made. -/
def Progress.still (p : Progress) : Progress := { p with run := Pipeline.still p.run }

/-- A context without its questions. -/
def Progress.cleared (p : Progress) : Progress :=
  { p with missingFields := [], followupQuestions := [] }

/-- The missing fields and the questions are those of another context. -/
def Asked (p q : Progress) : Prop :=
  q.missingFields = p.missingFields ∧ q.followupQuestions = p.followupQuestions

/-- The contexts at the end of a way, of which the last hop is missing. -/
structure Arrived (w : Setting) (start : Progress) (maxHops : Nat) (p : Progress)
    (shared : Shared) : Prop where
  context : shared.context.still = if w.dangerous then p.still.cleared else p.still
  left : w.dangerous = true → Asked start p
  hops : ∃ n, n ≤ 3 ∧ Hops maxHops n shared
  retried : shared.context.run.ctx.retryCount ≤ 1

section Arrivals
variable {start p : Progress} {shared : Shared}

end Arrivals

/-- The contexts after the safety check. -/
structure Assessed (w : Setting) (maxHops n : Nat) (p : Progress) (shared : Shared) : Prop where
  step : InStep Same maxHops n p shared
  symptom : p.symptom.isSome = true
  safety : ∃ safety, w.assessment = .ok safety ∧ p.run.ctx.safetyAssessment = some safety

theorem symptomOutput_runs {shared : Shared} (symptom : shared.context.symptom.isSome = true)
    (assessed : shared.context.run.ctx.safetyAssessment.isSome = true) :
    symptomOutput shared = (.ok (), shared) := by
  unfold symptomOutput
  rw [Option.isNone_eq_false_iff.2 symptom, Option.isNone_eq_false_iff.2 assessed]
  rfl

theorem Assessed.output {p : Progress} {shared : Shared}
    (assessed : Assessed w maxHops n p shared) :
    symptomOutput shared = (.ok (), shared) := by
  have same := (inStep_same.1 assessed.step).1
  have ⟨safety, _, known⟩ := assessed.safety
  refine symptomOutput_runs ?_ ?_
  · rw [same]
    exact assessed.symptom
  · rw [same, known]
    rfl

/-- The contexts that the pipelines leave, all fields but for the number of the calls, with what the
supervisor keeps of its own: in danger the supervisor has cleared the questions, and the graph has
those of the start. -/
structure Settled (w : Setting) (start p : Progress) (shared : Shared) : Prop where
  context : shared.context.still = if w.dangerous then p.still.cleared else p.still
  left : w.dangerous = true → Asked start p
  fresh : start.missingFields = [] → start.followupQuestions = [] → shared.context.still = p.still
  hops : shared.hopCount ≤ 4
  recorded : shared.handoffs.length = shared.hopCount
  feedback : shared.feedbackHandoffCount = 0

/-- From a context without questions nothing is there to clear. -/
theorem Arrived.fresh {start p : Progress} {shared : Shared}
    (arrived : Arrived w start maxHops p shared) (missing : start.missingFields = [])
    (questions : start.followupQuestions = []) : shared.context.still = p.still := by
  rw [arrived.context]
  split
  · next danger =>
      have ⟨fields, asked⟩ := arrived.left danger
      unfold Progress.cleared Progress.still
      rw [fields.trans missing, asked.trans questions]
  · rfl

end Ways

namespace Sample

/-- A noise of which the condition is known, with an assessment. -/
def setting (safety : SafetyAssessment) : Setting where
  u := .basic
  nfc text := text
  config := Reliability.Sample.config
  o := Reliability.Sample.outside (.ok [Reliability.Sample.chunk "c1" true])
  a := Reliability.Sample.args .absent (some .guarded) [] none
  wording _ := none
  previousAnswers := []
  structuring :=
    .ok (⟨"소음 이상".toList, none, none, some "항상".toList, none, [], []⟩, .ofEvidence [])
  safety _ := .ok safety
  queryText symptom := String.ofList ((symptom.map (·.symptomType)).getD [])
  retrievalConfigurationError := none

/-- A context with some missing fields. -/
def progress (missing : List MissingField) : Progress :=
  ⟨none, .ofEvidence [], missing, [],
    .start ⟨none, none, [], .notRun, false, 0, none, none, [], .default⟩ ⟨[], [], []⟩⟩

theorem steady (safety : SafetyAssessment) : Steady (setting safety).o :=
  ⟨fun _ => rfl, fun _ => rfl, fun _ => rfl⟩

end Sample

section Analysed
variable {w : Setting} {q : Progress}

theorem step_andThen {α β : Type} (first : Step α) (next : α → Step β) :
    first.andThen next = Flow.andThen first next := by
  funext s
  unfold Step.andThen Flow.andThen
  cases first s with
  | mk result t => cases result <;> rfl

variable (signals : SafetySignals)

/-- The context in which clarified fields are shown. -/
def shownIn (clarified : Clarified) (s : State) : Progress :=
  ⟨some clarified.symptom, signals, clarified.missingFields, clarified.followupQuestions, s⟩

/-- A later stage by itself, and over a context. -/
theorem both_later (clarified : Clarified) (step : Step Unit) :
    Flow.Both Eq (fun s p => p = shownIn signals clarified s) step (ofStep step)
      (fun _ s _ p => p = shownIn signals clarified s) := by
  intro s p same
  unfold shownIn at same ⊢
  rw [same, ofStep_apply]
  cases step s with
  | mk result t =>
      cases result with
      | error failure => exact .error rfl
      | ok x => exact .ok rfl

theorem both_pending (clarified : Clarified) :
    Flow.Both Eq (fun s p => p = shownIn signals clarified s)
      (questionnairePendingStage w.previousAnswers clarified) w.pendingStage
      (fun clarified s _ p => p = shownIn signals clarified s) := by
  intro s p same
  subst same
  unfold Setting.pendingStage
  have kept : (shownIn signals clarified s).clarified = clarified := rfl
  rw [kept]
  unfold questionnairePendingStage
  have stored : (shownIn signals clarified s).run = s := rfl
  rw [stored]
  cases s.ctx.safetyAssessment with
  | none => exact .error rfl
  | some safety =>
      refine .ok ?_
      dsimp only
      split
      · rfl
      · rfl

theorem scope_runs (steady : Steady w.o) {body : Flow Failure Progress Unit} {p p' : Progress}
    (ran : body { p with run := { p.run with calls := p.run.calls + 1 } } = (.ok (), p')) :
    w.scope body p = (.ok (), { p' with run := { p'.run with calls := p'.run.calls + 1 } }) := by
  unfold Setting.scope
  rw [Flow.andThen_ok (token_runs steady p), Flow.andThen_ok ran]
  exact token_runs steady p'

/-- The way to the guidance, of which the graph returns nothing. -/
theorem both_guidance (clarified : Clarified) :
    Flow.Both Eq (fun s p => p = shownIn signals clarified s)
      ((deadlineScope w.o (generationStage w.config w.o)).andThen fun _ =>
        (deadlineScope w.o (validationStage w.o)).andThen fun _ s => (.ok clarified, s))
      (w.generation.andThen fun _ => w.validation)
      (fun clarified s _ p => p = shownIn signals clarified s) := by
  rw [step_andThen]
  refine (both_later signals clarified _).andThen fun _ _ => ?_
  rw [step_andThen]
  exact (both_later signals clarified _).afterLeft fun _ s _ _ same => ⟨clarified, s, rfl, same⟩

/-- The way to the customer. -/
theorem both_wait (clarified : Clarified) :
    Flow.Both Eq (fun s p => p = shownIn signals clarified s)
      ((callUnit w.o.token).andThen fun _ =>
        (questionnairePendingStage w.previousAnswers clarified).andThen fun clarified =>
          (callUnit w.o.token).andThen fun _ =>
            (deadlineScope w.o (validationStage w.o)).andThen fun _ s => (.ok clarified, s))
      ((w.scope w.pendingStage).andThen fun _ => w.validation)
      (fun clarified s _ p => p = shownIn signals clarified s) := by
  unfold Setting.scope
  simp only [Flow.andThen_assoc]
  rw [step_andThen]
  refine (both_later signals clarified _).andThen fun _ _ => ?_
  rw [step_andThen]
  refine (both_pending signals clarified).andThen fun clarified _ => ?_
  rw [step_andThen]
  refine (both_later signals clarified _).andThen fun _ _ => ?_
  rw [step_andThen]
  exact (both_later signals clarified _).afterLeft fun _ s _ _ same => ⟨clarified, s, rfl, same⟩

/-- The way through the search. -/
theorem both_search (configured : w.retrievalConfigurationError = none) (clarified : Clarified) :
    Flow.Both Eq (fun s p => p = shownIn signals clarified s)
      ((deadlineScope w.o (retrievalStage w.u (w.around (some clarified.symptom)) w.a)).andThen
        fun _ => (deadlineScope w.o (generationStage w.config w.o)).andThen fun _ =>
          (deadlineScope w.o (validationStage w.o)).andThen fun _ s => (.ok clarified, s))
      (w.retrieval.andThen fun _ => w.generation.andThen fun _ => w.validation)
      (fun clarified s _ p => p = shownIn signals clarified s) := by
  have search : w.search (some clarified.symptom) =
      retrievalStage w.u (w.around (some clarified.symptom)) w.a := by
    unfold Setting.search
    rw [configured]
  rw [step_andThen, ← search]
  refine Flow.Both.andThen (fun s p same => ?_) fun _ _ => both_guidance signals clarified
  subst same
  exact both_later signals clarified (deadlineScope w.o (w.search (some clarified.symptom))) s _ rfl

/-- The graph on a fresh context does what `run_pipeline` is modelled with, once the texts are
structured and checked. -/
theorem singleRag_analysed (steady : Steady w.o) (configured : w.retrievalConfigurationError = none)
    {analysed : Analysed} (structured : w.structuring = .ok (analysed.symptom, signals))
    (checked : w.safety signals = .ok analysed.safety) (s : State) :
    Flow.Alike Eq (fun clarified t _ p => p = shownIn signals clarified t)
      (Pipeline.singleRag w.config w.u (w.around (some (withApplicability w.nfc analysed.symptom
        w.previousAnswers))) w.a w.nfc w.wording analysed w.previousAnswers
        { s with
          calls := s.calls + 5
          ctx := { s.ctx with safetyAssessment := some analysed.safety } })
      (w.singleRag ⟨none, .ofEvidence [], [], [], s⟩) := by
  have structures (p : Progress) : w.structuringStage p =
      (.ok (), { p with symptom := some analysed.symptom, safetySignals := signals }) := by
    unfold Setting.structuringStage
    rw [structured]
  have checks (p : Progress) (left : p.safetySignals = signals) : w.safetyCheckStage p =
      (.ok (), { p with run := { p.run with ctx := { p.run.ctx with
        safetyAssessment := some analysed.safety } } }) := by
    unfold Setting.safetyCheckStage
    rw [left, checked]
  have front : w.singleRag ⟨none, .ofEvidence [], [], [], s⟩ = w.routeAfterSafety
      (shownIn signals ⟨analysed.symptom, [], []⟩ { s with
        calls := s.calls + 5
        ctx := { s.ctx with safetyAssessment := some analysed.safety } }) := by
    unfold Setting.singleRag
    rw [Flow.andThen_ok (token_runs steady _), Flow.andThen_ok (scope_runs steady (structures _)),
      Flow.andThen_ok (scope_runs steady (checks _ rfl))]
    rfl
  rw [front]
  generalize started : ({ s with
    calls := s.calls + 5
    ctx := { s.ctx with safetyAssessment := some analysed.safety } } : State) = t
  have known : t.ctx.safetyAssessment = some analysed.safety := by rw [← started]
  have assessed : (shownIn signals ⟨analysed.symptom, [], []⟩ t).run.ctx.safetyAssessment =
      some analysed.safety := known
  unfold Pipeline.singleRag Setting.routeAfterSafety
  rw [assessed]
  dsimp only
  by_cases danger : analysed.safety.riskLevel = .danger
  · rw [if_pos danger, if_pos danger]
    exact both_guidance signals ⟨analysed.symptom, [], []⟩ _ _ rfl
  · rw [if_neg danger, if_neg danger]
    let clarified := Clarification.missingFieldsStage w.nfc w.wording analysed.symptom
      w.previousAnswers
    have asks : w.missingFieldsStage
        (shownIn signals ⟨analysed.symptom, [], []⟩ { t with calls := t.calls + 1 }) =
          (.ok (), shownIn signals clarified { t with calls := t.calls + 1 }) := rfl
    have asked : w.scope w.missingFieldsStage (shownIn signals ⟨analysed.symptom, [], []⟩ t) =
        (.ok (), shownIn signals clarified { t with calls := t.calls + 2 }) :=
      scope_runs (p := shownIn signals ⟨analysed.symptom, [], []⟩ t) steady asks
    have entered : deadlineScope (w.around (some clarified.symptom)) (fun s => (.ok (), s)) t =
        (.ok (), { t with calls := t.calls + 2 }) := by
      unfold deadlineScope Step.andThen callUnit call Setting.around
      simp only [steady.token]
    have waits : w.shouldWait (shownIn signals clarified { t with calls := t.calls + 2 }) =
        shouldWaitForCustomerInput w.nfc analysed.safety.riskLevel clarified.symptom.symptomType
          clarified.missingFields w.previousAnswers := by
      unfold Setting.shouldWait shownIn
      dsimp only
      rw [known]
      rfl
    have reached : some (withApplicability w.nfc analysed.symptom w.previousAnswers) =
        some clarified.symptom := rfl
    rw [step_andThen, reached, Flow.andThen_ok entered, Flow.andThen_ok asked]
    unfold afterMissingFields Setting.routeAfterMissingFields
    rw [waits]
    cases shouldWaitForCustomerInput w.nfc analysed.safety.riskLevel clarified.symptom.symptomType
        clarified.missingFields w.previousAnswers with
    | true => exact both_wait signals clarified _ _ rfl
    | false => exact both_search signals configured clarified _ _ rfl

end Analysed

end WaterCare.Ai.MultiAgent
