import WaterCare.Runtime.Persisting

/-!
What a persisted result adds to the records: a guidance with its review, or neither.
-/

namespace WaterCare.Runtime
open Machine Workflow Store Service Py Analysis

section
variable (a b : Aggregate) (run : AIRun)

/-- The run has no review of the current version. -/
def IsUnreviewed : Prop :=
  ∀ review ∈ a.reviews, review.1.sourceAiRequestId ≠ run.idempotencyKey ∨
    review.1.sourceInquiryStateVersion ≠ a.q.stateVersion

/-- The guidances and reviews a step has added. -/
structure Adds (guidances : List (Stored Guidance)) (reviews : List (Stored HumanReview)) :
    Prop where
  guidances : b.guidances = a.guidances ++ guidances
  reviews : b.reviews = a.reviews ++ reviews

end

section
variable {a b : Aggregate} {run : AIRun} {r : SymptomAnalysisResult}
  {v : InquiryAIService.Verification} {d : Directory} {id : Nat} {now : Instant}
  {outcome : InquiryAIService.EventOutcome}

theorem Adds.refl (a : Aggregate) : Adds a a [] [] :=
  ⟨(List.append_nil _).symm, (List.append_nil _).symm⟩

/-- A review a guidance waits for, as it is created. -/
structure IsPendingReview (g : Guidance) (id : Nat) (review : HumanReview) : Prop where
  number : review.id = id
  guidance : review.guidance = g.id
  status : review.status = .pending
  original : review.originalRequiresConsultation = g.requiresConsultation
  origin : ∃ x, (review.origin, review.originReason) = HumanReviewService.consultationOrigin x g

/-- What a saved bundle adds: nothing, or one guidance, with its review if it is pending. -/
inductive Bundle (a : Aggregate) (run : AIRun) (r : SymptomAnalysisResult)
    (v : InquiryAIService.Verification) (id : Nat) :
    List (Stored Guidance) → List (Stored HumanReview) → Prop
  | dropped (refused : v.evidenceIds = [] ∨ guidanceIsStored r v = false ∨
      InquiryAIService.initialStatus r = "PENDING" ∧ ¬IsUnreviewed a run) :
      Bundle a run r v id [] []
  | decided {g : Stored Guidance} {x : Aggregate} (verified : v.evidenceIds ≠ [])
      (stored : guidanceIsStored r v = true)
      (is : g.1 = InquiryAIService.guidanceOfResult x run r v (id + 1))
      (done : InquiryAIService.initialStatus r ≠ "PENDING") : Bundle a run r v id [g] []
  | pending {g : Stored Guidance} {x : Aggregate} {review : Stored HumanReview}
      (verified : v.evidenceIds ≠ []) (stored : guidanceIsStored r v = true)
      (is : g.1 = InquiryAIService.guidanceOfResult x run r v (id + 1))
      (waits : InquiryAIService.initialStatus r = "PENDING") (unreviewed : IsUnreviewed a run)
      (opens : IsPendingReview g.1 id review.1) : Bundle a run r v id [g] [review]

theorem createPending_isPending {g : Guidance} {key : String} {version : Nat}
    (h : HumanReviewService.createPending a g key version id now = .ok b) :
    ∃ review, b = { a with reviews := a.reviews ++ [review] } ∧ IsPendingReview g id review.1 := by
  unfold HumanReviewService.createPending at h
  have ⟨review, saved, h⟩ := bind_eq_ok.1 h
  split at h
  · cases h
  · cases h
    refine ⟨review, rfl, ?_⟩
    rw [save_ok.1 saved]
    exact ⟨rfl, rfl, rfl, rfl, a, rfl⟩

theorem saveBundle_bundle {verified : List String}
    (h : InquiryAIService.saveBundle a run r v id now = .ok (b, verified)) :
    ∃ guidances reviews, Adds a b guidances reviews ∧ Bundle a run r v id guidances reviews := by
  have stored_of {b : Aggregate} (saved : InquiryAIService.saveGuidanceBundle a run r v id now =
      .ok b) : guidanceIsStored r v = true := by
    by_contra refused
    have ⟨name, failed, _⟩ := saveGuidanceBundle_refused a run id now (Bool.not_eq_true _ ▸ refused)
    rw [failed] at saved
    cases saved
  unfold InquiryAIService.saveBundle at h
  split at h
  · rename_i empty
    cases h
    exact ⟨[], [], .refl _, .dropped (.inl (List.isEmpty_iff.1 empty))⟩
  · rename_i filled
    have verified' : v.evidenceIds ≠ [] := fun empty => filled (List.isEmpty_iff.2 empty)
    split at h
    · rename_i saved bundle
      cases h
      have stored := stored_of bundle
      have ⟨g, is, made⟩ := saveGuidanceBundle_ok bundle
      have status : g.1.reviewStatus = InquiryAIService.initialStatus r := by rw [is]; rfl
      cases made with
      | inl made =>
        have ⟨done, same⟩ := made
        refine ⟨[g], [], ⟨?_, ?_⟩, .decided verified' stored is (status ▸ done)⟩
        · rw [same]
        · rw [same, List.append_nil]
      | inr made =>
        have ⟨waits, created⟩ := made
        have ⟨_, _, _, _, _, _, _, _, _, free⟩ := createPending_ok created
        have ⟨review, same, opens⟩ := createPending_isPending created
        refine ⟨[g], [review], ⟨?_, ?_⟩,
          .pending verified' stored is (status ▸ waits) free opens⟩
        · rw [same]
        · rw [same]
    · rename_i failure failed
      split at h
      · cases h
      · cases h
        refine ⟨[], [], .refl _, .dropped (.inr ?_)⟩
        by_contra kept
        have ⟨stored, free⟩ := not_or.1 kept
        have stored' := Bool.eq_true_of_not_eq_false stored
        have ⟨g, reviews, saved, _⟩ := saveGuidanceBundle_stored a run id now stored' fun waits => by
          by_contra taken
          exact free ⟨waits, taken⟩
        rw [saved] at failed
        cases failed

/-- What a persisted result adds to the guidances and reviews. -/
theorem persist_bundle
    (h : InquiryAIService.persistValidatedResult d a run r v id now = .ok (b, outcome)) :
    ∃ guidances reviews, Adds a b guidances reviews ∧
      (a.q.stateVersion ≠ r.stateVersion ∧ guidances = [] ∧ reviews = [] ∨
        a.q.stateVersion = r.stateVersion ∧ Bundle a run r v (id + 1) guidances reviews) := by
  cases persist_ok h with
  | inl stale =>
    have ⟨late, same, _⟩ := stale
    exact ⟨[], [], same ▸ .refl a, .inl ⟨late, rfl, rfl⟩⟩
  | inr current =>
    have ⟨version, assessed, audited, asked, saved, verified, inquiry, h₁, h₂, h₃, h₄, _, h₆⟩ :=
      current
    have ⟨row, first⟩ := saveAssessment_ok h₁
    have ⟨added, third⟩ := saveFollowupQuestions_ok h₃
    have second : audited.guidances = assessed.guidances ∧ audited.reviews = assessed.reviews ∧
        audited.q = assessed.q := by
      cases saveLedger_ok h₂ with
      | inl none_ =>
        rw [none_.2]
        exact ⟨rfl, rfl, rfl⟩
      | inr some_ =>
        have ⟨_, _, same⟩ := some_
        rw [same]
        exact ⟨rfl, rfl, rfl⟩
    have guidances : asked.guidances = a.guidances := by
      rw [third]
      exact second.1.trans (by rw [first])
    have reviews : asked.reviews = a.reviews := by
      rw [third]
      exact second.2.1.trans (by rw [first])
    have inquiries : asked.q = a.q := by
      rw [third]
      exact second.2.2.trans (by rw [first])
    have ⟨gs, rs, adds, bundle⟩ := saveBundle_bundle h₄
    have last := applyEventIfAllowed_analysis h₆
    have free : IsUnreviewed asked run ↔ IsUnreviewed a run := by
      unfold IsUnreviewed
      rw [reviews, inquiries]
    refine ⟨gs, rs, ⟨?_, ?_⟩, .inr ⟨version, ?_⟩⟩
    · rw [last.guidances, ← guidances]
      exact adds.guidances
    · rw [last.reviews, ← reviews]
      exact adds.reviews
    · cases bundle with
      | dropped refused => exact .dropped (refused.imp_right (·.imp_right (·.imp_right (mt free.2))))
      | decided verified stored is done => exact .decided verified stored is done
      | pending verified stored is waits unreviewed opens =>
        exact .pending verified stored is waits (free.1 unreviewed) opens

end
end WaterCare.Runtime
