import WaterCare.Analysis.ResponseRouting
import WaterCare.Runtime.Bundles
import WaterCare.Runtime.Trace
import WaterCare.Service.CustomerInquiry

/-!
What the Backend makes of a result the routing policy has sent on: the guidance it creates
tells the disposition of the policy, which is not part of the result.
-/

namespace WaterCare.Runtime
open Machine Workflow Store Service Py Analysis
open ResponseRoutingPolicy (apply_routes apply_apply Routes)
open CustomerInquiryService
open GuidanceReviewPolicy (isCustomerVisible)

section
variable (a : Aggregate) (r : SymptomAnalysisResult) (v : InquiryAIService.Verification)

/-- The result comes in time, and its guidance with the evidence can be stored. -/
def IsKept : Prop := a.q.stateVersion = r.stateVersion ∧ guidanceIsStored r v = true

/-- A guidance of a general result that the customer can see. -/
def IsShown (g : Stored Guidance) : Prop :=
  r.safetyAssessment.riskLevel = .general ∧
    isCustomerVisible r.safetyAssessment.riskLevel g.1.reviewStatus = true

/-- A guidance that waits for its review. -/
def Waits (reviews : List (Stored HumanReview)) (g : Stored Guidance) : Prop :=
  g.1.reviewStatus = "PENDING" ∧
    ∃ review ∈ reviews, review.1.guidance = g.1.id ∧ review.1.status = .pending

end

section
variable {a b : Aggregate} {run : AIRun} {r : SymptomAnalysisResult}
  {v : InquiryAIService.Verification} {d : Directory} {id : Nat} {now : Instant}
  {outcome : InquiryAIService.EventOutcome}

theorem initialStatus_fallback (fallback : r.status = .fallback) :
    InquiryAIService.initialStatus r = "REJECTED" := by
  unfold InquiryAIService.initialStatus SymptomAnalysisResult.isFallback
  rw [fallback]
  rfl

theorem initialStatus_succeeded (succeeded : r.status = .succeeded) :
    InquiryAIService.initialStatus r =
      match r.safetyAssessment.riskLevel with
      | .caution => "PENDING"
      | .general | .danger => "CONFIRMED" := by
  unfold InquiryAIService.initialStatus SymptomAnalysisResult.isNoEvidence
    SymptomAnalysisResult.isFallback
  rw [succeeded]
  rfl

theorem initialStatus_pending_iff : InquiryAIService.initialStatus r = "PENDING" ↔
    r.status = .succeeded ∧ r.safetyAssessment.riskLevel = .caution := by
  cases status : r.status with
  | fallback =>
    rw [initialStatus_fallback status]
    exact iff_of_false (by decide) (fun h => nomatch h.1)
  | succeeded =>
    rw [initialStatus_succeeded status]
    cases r.safetyAssessment.riskLevel with
    | caution => exact iff_of_true rfl ⟨rfl, rfl⟩
    | general | danger => exact iff_of_false (by decide) (fun h => nomatch h.2)

theorem initialStatus_general_iff (risk : r.safetyAssessment.riskLevel = .general) :
    isCustomerVisible r.safetyAssessment.riskLevel (InquiryAIService.initialStatus r) = true ↔
      r.status = .succeeded := by
  cases status : r.status with
  | succeeded =>
    rw [initialStatus_succeeded status, risk]
    exact iff_of_true rfl rfl
  | fallback =>
    rw [initialStatus_fallback status, risk]
    exact iff_of_false (by decide) nofun

/-- A guidance the customer can see comes of a result that succeeded. -/
theorem Bundle.shown {guidances : List (Stored Guidance)} {reviews : List (Stored HumanReview)}
    (bundle : Bundle a run r v id guidances reviews) :
    (∃ g ∈ guidances, IsShown r g) ↔ r.status = .succeeded ∧
      r.safetyAssessment.riskLevel = .general ∧ v.evidenceIds ≠ [] ∧
        guidanceIsStored r v = true := by
  have shown {g : Stored Guidance} (status : g.1.reviewStatus = InquiryAIService.initialStatus r) :
      IsShown r g ↔ r.status = .succeeded ∧ r.safetyAssessment.riskLevel = .general := by
    unfold IsShown
    rw [status]
    constructor
    · exact fun h => ⟨(initialStatus_general_iff h.1).1 h.2, h.1⟩
    · exact fun h => ⟨h.2, (initialStatus_general_iff h.2).2 h.1⟩
  cases bundle with
  | dropped refused =>
    refine iff_of_false (fun ⟨g, mem, _⟩ => absurd mem List.not_mem_nil) fun general => ?_
    have ⟨_, risk, verified, stored⟩ := general
    cases refused with
    | inl empty => exact verified empty
    | inr refused =>
      cases refused with
      | inl unstored => rw [stored] at unstored; cases unstored
      | inr taken =>
        have caution := (initialStatus_pending_iff.1 taken.1).2
        rw [risk] at caution
        cases caution
  | @decided g x verified stored is done =>
    have status : g.1.reviewStatus = InquiryAIService.initialStatus r := by rw [is]; rfl
    constructor
    · intro ⟨g, mem, visible⟩
      rw [List.mem_singleton.1 mem] at visible
      have general := (shown status).1 visible
      exact ⟨general.1, general.2, verified, stored⟩
    · exact fun general => ⟨g, List.mem_singleton_self _, (shown status).2 ⟨general.1, general.2.1⟩⟩
  | pending _ _ _ waits =>
    have caution := (initialStatus_pending_iff.1 waits).2
    refine iff_of_false ?_ fun general => ?_
    · intro ⟨g, _, is⟩
      have general := is.1
      rw [caution] at general
      cases general
    · have risk := general.2.1
      rw [caution] at risk
      cases risk

/-- A guidance waits for its review if the result succeeded with a caution. -/
theorem Bundle.waits {guidances : List (Stored Guidance)} {reviews : List (Stored HumanReview)}
    (bundle : Bundle a run r v id guidances reviews) :
    (∃ g ∈ guidances, Waits reviews g) ↔ r.status = .succeeded ∧
      r.safetyAssessment.riskLevel = .caution ∧ v.evidenceIds ≠ [] ∧
        guidanceIsStored r v = true ∧ IsUnreviewed a run := by
  cases bundle with
  | dropped refused =>
    refine iff_of_false (fun ⟨g, mem, _⟩ => absurd mem List.not_mem_nil) fun caution => ?_
    have ⟨_, _, verified, stored, unreviewed⟩ := caution
    cases refused with
    | inl empty => exact verified empty
    | inr refused =>
      cases refused with
      | inl unstored => rw [stored] at unstored; cases unstored
      | inr taken => exact taken.2 unreviewed
  | decided _ _ _ done =>
    refine iff_of_false (fun ⟨g, _, _, review, mem, _⟩ => absurd mem List.not_mem_nil) ?_
    exact fun caution => done (initialStatus_pending_iff.2 ⟨caution.1, caution.2.1⟩)
  | @pending g x review verified stored is waits unreviewed opens =>
    have caution := initialStatus_pending_iff.1 waits
    have status : g.1.reviewStatus = "PENDING" := by
      rw [is]
      exact waits
    exact iff_of_true ⟨g, List.mem_singleton_self _, status, review, List.mem_singleton_self _,
      opens.guidance, opens.status⟩ ⟨caution.1, caution.2, verified, stored, unreviewed⟩

/-- The policy is idempotent and fails closed as a fallback; and whatever the Backend
persists of the result it sends on, the guidance that is created is shown exactly for an
automatic guidance and waits for a review exactly for a review before sending. -/
theorem routing_reproduced {r₁ : SymptomAnalysisResult} {accepted : Option (List String)}
    {disposition : ResponseRoutingDisposition}
    (routed : ResponseRoutingPolicy.apply r accepted = (r₁, disposition)) :
    ResponseRoutingPolicy.apply r₁ accepted = (r₁, disposition) ∧
      (disposition = .failClosedConsultation ↔ r₁.status = .fallback) ∧
      (disposition = .failClosedConsultation →
        r₁.safetyAssessment.requiresConsultation = true ∧ r₁.failureStage.isSome = true ∧
          (r₁.usageGuidance.guidanceStatus = .normal → r₁.isDanger = true)) ∧
      (eventCandidate r₁ = some .safeGuidanceReady → disposition = .autoGuidance) ∧
      (eventCandidate r₁ = some .dangerDetected → r₁.isDanger = true) ∧
      ∀ (d : Directory) (a b : Aggregate) (run : AIRun) (v : InquiryAIService.Verification)
        (id : Nat) (now : Instant) (outcome : InquiryAIService.EventOutcome),
        v.evidenceIds.length = r₁.evidenceReferences.length →
        InquiryAIService.persistValidatedResult d a run r₁ v id now = .ok (b, outcome) →
        ∃ guidances reviews, Adds a b guidances reviews ∧
          ((∃ g ∈ guidances, IsShown r₁ g) ↔ disposition = .autoGuidance ∧ IsKept a r₁ v) ∧
          ((∃ g ∈ guidances, Waits reviews g) ↔
            disposition = .preSendHumanReview ∧ IsKept a r₁ v ∧ IsUnreviewed a run) := by
  have routes := apply_routes r accepted
  have again := apply_apply r accepted
  rw [routed] at routes again
  refine ⟨again, routes.failClosed_iff, fun failed => ?_, routes.safeGuidance, fun danger =>
    decide_eq_true (eventCandidate_danger danger), fun d a b run v id now outcome verified h => ?_⟩
  · have closed : ResponseRoutingPolicy.Closed r₁ := by
      rw [failed] at routes
      exact routes.closed
    refine ⟨closed.requires, closed.stage, fun normal => ?_⟩
    cases closed.blocks with
    | inl danger => exact decide_eq_true danger
    | inr pending =>
      rw [normal] at pending
      cases pending
  · have evidence : v.evidenceIds ≠ [] ↔ r₁.evidenceReferences ≠ [] := by
      rw [← List.length_pos_iff, ← List.length_pos_iff, verified]
    have ⟨guidances, reviews, adds, made⟩ := persist_bundle h
    refine ⟨guidances, reviews, adds, ?_, ?_⟩
    · cases made with
      | inl late =>
        rw [late.2.1]
        exact iff_of_false (fun ⟨g, mem, _⟩ => absurd mem List.not_mem_nil)
          fun auto => late.1 auto.2.1
      | inr current =>
        rw [current.2.shown, routes.autoGuidance_iff]
        exact ⟨fun ⟨succeeded, risk, filled, stored⟩ =>
          ⟨⟨succeeded, risk, evidence.1 filled⟩, current.1, stored⟩,
          fun ⟨⟨succeeded, risk, filled⟩, kept⟩ => ⟨succeeded, risk, evidence.2 filled, kept.2⟩⟩
    · cases made with
      | inl late =>
        rw [late.2.1]
        exact iff_of_false (fun ⟨g, mem, _⟩ => absurd mem List.not_mem_nil)
          fun waits => late.1 waits.2.1.1
      | inr current =>
        rw [current.2.waits, routes.preSend_iff]
        exact ⟨fun ⟨succeeded, risk, filled, stored, unreviewed⟩ =>
          ⟨⟨succeeded, risk, evidence.1 filled⟩, ⟨current.1, stored⟩, unreviewed⟩,
          fun ⟨⟨succeeded, risk, filled⟩, kept, unreviewed⟩ =>
            ⟨succeeded, risk, evidence.2 filled, kept.2, unreviewed⟩⟩

end

namespace Sample

/-- A general result with evidence, with the message it has for the customer. -/
def generalResult (message : String) : SymptomAnalysisResult :=
  { cautionResult [] with
    safetyAssessment := ⟨.general, .generalGuidance, false, [], "the water is cold enough"⟩
    usageGuidance := ⟨.normal, message, [], ["clean the filter"]⟩ }

/-- The analysis has ended with the general result; its rows come next. -/
def generalised (message : String) : World :=
  (trace settings world (analysing ++
    [.internal 104 (.onRun 10 12 (.markSucceeded (generalResult message)))])).2

/-- A result in danger that leaves the product in use. -/
def dangerResult : SymptomAnalysisResult :=
  { cautionResult [] with
    safetyAssessment := ⟨.danger, .priorityConsultation, true, ["SAFETY-LEAK-001"], "it leaks"⟩
    usageGuidance := ⟨.normal, "wipe the floor", [], ["wipe the floor"]⟩ }

/-- What is persisted of the general result on the inquiry 10, with the inquiry and the run. -/
def persisting (message : String) (v : InquiryAIService.Verification) :
    Option (Aggregate × AIRun × Aggregate × InquiryAIService.EventOutcome) := do
  let w := generalised message
  let a ← w.aggregate 10
  let run ← InquiryAIService.runById a 12
  match InquiryAIService.persistValidatedResult w.directory a run.1 (generalResult message) v
      w.nextId 105 with
  | .ok (b, outcome) => some (a, run.1, b, outcome)
  | .error _ => none

theorem persisting_ok {message : String} {v : InquiryAIService.Verification} {a b : Aggregate}
    {run : AIRun} {outcome : InquiryAIService.EventOutcome}
    (h : persisting message v = some (a, run, b, outcome)) :
    (generalised message).aggregate 10 = some a ∧
      InquiryAIService.persistValidatedResult (generalised message).directory a run
        (generalResult message) v (generalised message).nextId 105 = .ok (b, outcome) := by
  unfold persisting at h
  have ⟨a', found, h⟩ := Option.bind_eq_some_iff.1 h
  have ⟨row, _, h⟩ := Option.bind_eq_some_iff.1 h
  split at h
  · rename_i persisted
    cases h
    exact ⟨found, persisted⟩
  · cases h

/-- The verification of the evidence, with no ledger. -/
def unledgered : InquiryAIService.Verification := { verification with ledger := none }

end Sample

theorem routing_reproduced_general :
    ∃ a b guidances reviews, (Sample.generalised "do as before").aggregate 10 = some a ∧
      Adds a b guidances reviews ∧
        ∃ g ∈ guidances, IsShown (Sample.generalResult "do as before") g := by
  have persists : (Sample.persisting "do as before" Sample.unledgered).any (fun result =>
      decide (result.1.q.stateVersion = 2)) = true := by decide +kernel
  have ⟨⟨a, run, b, outcome⟩, h, version⟩ := (Option.any_eq_true _ _).1 persists
  have ⟨found, persisted⟩ := Sample.persisting_ok h
  have routed : ResponseRoutingPolicy.apply (Sample.generalResult "do as before") none =
      (Sample.generalResult "do as before", .autoGuidance) := by decide +kernel
  have ⟨guidances, reviews, adds, shown, _⟩ := (routing_reproduced routed).2.2.2.2.2 _ a b run
    Sample.unledgered _ 105 outcome rfl persisted
  exact ⟨a, b, guidances, reviews, found, adds,
    shown.2 ⟨rfl, of_decide_eq_true version, by decide +kernel⟩⟩

/-- A result in danger keeps the guidance it came with when it fails closed; and a guidance
without a message is not created. -/
theorem routing_not_reproduced :
    (∃ r₁, ResponseRoutingPolicy.apply Sample.dangerResult none = (r₁, .failClosedConsultation) ∧
      r₁.usageGuidance.guidanceStatus = .normal) ∧
    ResponseRoutingPolicy.apply (Sample.generalResult "") none =
        (Sample.generalResult "", .autoGuidance) ∧
      responseErrors (Sample.generalResult "") = [] ∧
      Sample.unledgered.evidenceIds.length =
        (Sample.generalResult "").evidenceReferences.length ∧
      ∃ a run b outcome, (Sample.generalised "").aggregate 10 = some a ∧
        InquiryAIService.persistValidatedResult (Sample.generalised "").directory a run
          (Sample.generalResult "") Sample.unledgered (Sample.generalised "").nextId 105 =
            .ok (b, outcome) ∧ b.guidances = [] := by
  have persists : (Sample.persisting "" Sample.unledgered).any (fun result =>
      decide (result.2.2.1.guidances = [])) = true := by decide +kernel
  have ⟨⟨a, run, b, outcome⟩, h, none_created⟩ := (Option.any_eq_true _ _).1 persists
  have ⟨found, persisted⟩ := Sample.persisting_ok h
  exact ⟨⟨_, rfl, rfl⟩, by decide +kernel, by decide +kernel, rfl, a, run, b, outcome, found,
    persisted, of_decide_eq_true none_created⟩

end WaterCare.Runtime
