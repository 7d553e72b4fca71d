import WaterCare.Runtime.Bundles
import WaterCare.Runtime.Reviews
import WaterCare.Runtime.Runs
import WaterCare.Service.CustomerInquiry

/-!
The guidances a decision publishes, and the guidances the customer is shown. The decision
and the reader judge the same rows apart; here each is shown to accept what the other does.
-/

namespace WaterCare.Runtime
open Machine Workflow Store Service Py Analysis
open HumanReviewService (guidanceOf consultationOrigin isEscalation isResolution)
open CustomerInquiryService

/-! ### The results of the runs -/

/-- A run is as it was; or it was open, and has a result only if it is closed now; or it is
closed and has lost its result. -/
def ResultKept (r r' : AIRun) : Prop :=
  r' = r ∨ r'.id = r.id ∧ (isOpen r.status = true ∧ (isOpen r'.status = true → r'.result = r.result) ∨
    isOpen r'.status = false ∧ r'.result = none)

/-- Every run after a write was there before it, or is new and has no result. -/
def ResultsKept (limit : Nat) (a b : Aggregate) : Prop :=
  ∀ r' ∈ b.runs, (∃ r ∈ a.runs, ResultKept r.1 r'.1) ∨ r'.1.id = limit ∧ r'.1.result = none

section
variable {settings : Settings} {d : Directory} {w : World} {act : Action} {a b : Aggregate}
  {inquiry used id limit : Nat} {now : Instant} {run : AIRun} {r : SymptomAnalysisResult}

theorem ResultsKept.of_same (runs : b.runs = a.runs) : ResultsKept limit a b := fun r' mem =>
  .inl ⟨r', runs ▸ mem, .inl rfl⟩

theorem changeRun_results {expected : RunStatus → Bool} {change : AIRun → AIRun}
    (kept : ∀ r, expected r.status = true → ResultKept r (change r))
    (h : InquiryAIService.changeRun a id expected change = .ok b) : ResultsKept limit a b := by
  have ⟨old, found, changed⟩ := changeRun_ok h
  cases changed with
  | inl still => exact .of_same (by rw [still.2])
  | inr changed =>
    have ⟨isExpected, row, is, same⟩ := changed
    intro r' mem
    rw [same] at mem
    cases mem_replaceRow mem with
    | inl there => exact .inl ⟨r', there, .inl rfl⟩
    | inr new =>
      rw [new.1, is]
      exact .inl ⟨old, (runById_mem found).1, kept old.1 isExpected⟩

theorem isOpen_of_active {status : RunStatus} (active : InquiryAIService.isActive status = true) :
    isOpen status = true := by
  cases status <;> first | rfl | cases active

theorem RunStep.results {step : RunStep} (h : step.perform now w a run = .ok b) :
    ResultsKept limit a b := by
  cases step with
  | markRunning =>
    unfold RunStep.perform InquiryAIService.markRunning at h
    refine changeRun_results ?_ h
    intro r queued
    refine .inr ⟨rfl, .inl ⟨?_, fun _ => rfl⟩⟩
    rw [of_decide_eq_true queued]
    rfl
  | markSucceeded result =>
    unfold RunStep.perform at h
    dsimp only at h
    split_ifs at h
    refine changeRun_results ?_ h
    intro r active
    refine .inr ⟨rfl, .inl ⟨isOpen_of_active active, fun opened => ?_⟩⟩
    dsimp only at opened
    split at opened <;> cases opened
  | markFailed error =>
    unfold RunStep.perform InquiryAIService.markFailed at h
    refine changeRun_results ?_ h
    intro r active
    refine .inr ⟨rfl, .inl ⟨isOpen_of_active active, fun opened => ?_⟩⟩
    dsimp only at opened
    split at opened <;> cases opened
  | markDomainPersistenceFailed failureCode =>
    unfold RunStep.perform InquiryAIService.markDomainPersistenceFailed at h
    refine changeRun_results ?_ h
    exact fun r _ => .inr ⟨rfl, .inr ⟨rfl, rfl⟩⟩
  | persistValidatedResult verification =>
    unfold RunStep.perform at h
    dsimp only at h
    split at h
    · cases h
      exact .of_same rfl
    · have ⟨⟨written, outcome⟩, persisted, same⟩ := map_eq_ok.1 h
      subst same
      exact .of_same (persist_runs persisted)
  | applyTimeoutEvent | applyUnusableAiFailureEvent =>
    have ⟨⟨written, outcome⟩, applied, same⟩ := map_eq_ok.1 h
    subst same
    exact .of_same (applyFailureEvent_analysis applied).runs

theorem Writes.results (writes : Writes settings w act inquiry a b used) :
    ResultsKept w.nextId a b := by
  have other (outside : act.ofAnalysis = false) : ResultsKept w.nextId a b := by
    cases writes.marks with
    | operation runs =>
      intro r' mem
      have ⟨r, there, cancelled⟩ := forall₂_mem runs mem
      refine .inl ⟨r, there, ?_⟩
      cases cancelled with
      | inl same => exact .inl same
      | inr ended =>
        refine .inr ⟨ended.2.1.id, .inl ⟨ended.1, fun opened => ?_⟩⟩
        rw [ended.2.2] at opened
        cases opened
    | kept analysis | queued analysis | marked analysis => rw [outside] at analysis; cases analysis
  cases writes with
  | service serves commits => cases serves <;> exact other rfl
  | actionResult _ | decision _ | reassignment _ | handoff _ _ _ | resumeFailed _ _ _ =>
    exact other rfl
  | createRun _ written =>
    have ⟨new, same, made⟩ := createRun_ok written
    intro r' mem
    rw [same] at mem
    cases List.mem_append.1 mem with
    | inl there => exact .inl ⟨r', there, .inl rfl⟩
    | inr new' =>
      rw [List.mem_singleton.1 new']
      cases made with
      | inl is => rw [is.1]; exact .inr ⟨rfl, rfl⟩
      | inr is => rw [is]; exact .inr ⟨rfl, rfl⟩
  | runStep _ _ performed => exact RunStep.results performed

end

/-! ### The decision that publishes -/

section
variable {settings : Settings} {w : World} {a b : Aggregate} {inquiry : Nat} {request : Request}
  {reviewId : Nat} {values : HumanReviewService.DecisionValues} {review row : HumanReview}
  {g : Stored Guidance} {audit : HumanReviewService.ConsultationAudit} {plan : Plan}

/-- What a decision makes of its guidance: it approves it as it is, or rejects it, or rejects
it and publishes a copy. -/
inductive Applies (a : Aggregate) (g : Stored Guidance)
    (values : HumanReviewService.DecisionValues) (effective : Bool) (id : Nat) :
    List (Stored Guidance) → Option Nat → Prop
  | approved {marked : Stored Guidance} {actor : Nat} {now : Instant}
      (is : marked.1 = HumanReviewService.reviewed g.1 "APPROVED" actor now)
      (same : g.1.requiresConsultation = effective) (publishes : values.decision ≠ .reject) :
      Applies a g values effective id (replaceRow (·.1.id) marked a.guidances) (some g.1.id)
  | rejected {marked : Stored Guidance} {actor : Nat} {now : Instant}
      (is : marked.1 = HumanReviewService.reviewed g.1 "REJECTED" actor now)
      (rejects : values.decision = .reject) :
      Applies a g values effective id (replaceRow (·.1.id) marked a.guidances) none
  | copied {marked copy : Stored Guidance} {actor : Nat} {now : Instant} {x : Aggregate}
      {modified : Option HumanReviewService.ModifiedGuidance}
      (is : marked.1 = HumanReviewService.reviewed g.1 "REJECTED" actor now)
      (copies : copy.1 = HumanReviewService.published x g.1 modified effective actor id now)
      (publishes : values.decision ≠ .reject) :
      Applies a g values effective id (replaceRow (·.1.id) marked a.guidances ++ [copy]) (some id)

theorem applyGuidanceDecision_applies {effective : Bool} {actor id : Nat} {now : Instant}
    {shown : Option Nat}
    (h : HumanReviewService.applyGuidanceDecision a g.1 values effective actor id now =
      .ok (b, shown)) : Applies a g values effective id b.guidances shown := by
  unfold HumanReviewService.applyGuidanceDecision at h
  split at h
  · rename_i asIs
    have ⟨marked, saved, h⟩ := bind_eq_ok.1 h
    cases h
    refine .approved (save_ok.1 saved) asIs.2 ?_
    rw [asIs.1]
    exact nofun
  · have ⟨marked, saved, h⟩ := bind_eq_ok.1 h
    dsimp only at h
    split at h
    · rename_i rejects
      cases h
      exact .rejected (save_ok.1 saved) rejects
    · rename_i publishes
      split at h
      · cases h
      · have ⟨copy, copied, h⟩ := bind_eq_ok.1 h
        cases h
        exact .copied (save_ok.1 saved) (save_ok.1 copied) publishes

/-- The audits of a decision that publishes. -/
inductive Audited (review : HumanReview) (g : Guidance) : HumanReviewService.ConsultationAudit → Prop
  | preserve : Audited review g ⟨review.originalRequiresConsultation, .preserve, none, []⟩
  | require {reason : Option ChangeReason} (original : review.originalRequiresConsultation = false)
      (escalates : reason.any isEscalation = true) : Audited review g ⟨true, .require, reason, []⟩
  | resolve {reason : Option ChangeReason} {selected : List EvidenceLink}
      (origin : review.origin = .nonSafetyResolvable)
      (original : review.originalRequiresConsultation = true)
      (resolves : reason.any isResolution = true) (filled : selected ≠ [])
      (verified : ∀ link ∈ selected, link ∈ HumanReviewService.verifiedEvidence g) :
      Audited review g ⟨false, .resolveNonSafety, reason, selected⟩

theorem consultationAudit_audited (publishes : values.decision ≠ .reject)
    (h : HumanReviewService.consultationAudit a review g.1 values = .ok audit) :
    Audited review g.1 audit := by
  unfold HumanReviewService.consultationAudit at h
  dsimp only at h
  rw [if_neg publishes] at h
  split at h
  · split_ifs at h
    cases h
    exact .preserve
  · split_ifs at h with original escalates _
    cases h
    exact .require (Bool.eq_false_iff.2 original) (by simpa using escalates)
  · split_ifs at h with origin original resolves _ empty
    split at h
    · cases h
    · rename_i selected chosen
      cases h
      have related := mapM_eq_some chosen
      refine .resolve (not_not.1 origin) (by simpa using original) (by simpa using resolves) ?_ ?_
      · intro none_selected
        rw [none_selected] at related
        exact empty (List.forall₂_nil_right_iff.1 related)
      · intro link mem
        have ⟨id, _, found⟩ := forall₂_mem related mem
        exact List.mem_of_find?_eq_some found

/-- The rules of a publication list its guard. -/
theorem publication_guards : ∀ rule ∈ shipped.transitions,
    (rule.event = .humanReviewGuidanceApproved →
      GuardId.humanReviewGuidanceApproved ∈ rule.guardRefs) ∧
    (rule.event = .humanReviewConsultationRequired →
      GuardId.humanReviewConsultationRequired ∈ rule.guardRefs) := by
  decide

/-- A decision publishes verified evidence of a usable run alone. -/
theorem Decides.ready (publishes : values.decision ≠ .reject)
    (decides : Decides settings w request reviewId values inquiry a review g audit plan b row) :
    HumanReviewService.evidenceReady a g.1 = true := by
  have ⟨resolved, passed⟩ := reviewTransition_ok decides.moved
  have ⟨listed, fires, _⟩ := resolve_ok resolved
  have guards := (WorkflowContract.evaluate_eq_none _).1 passed
  have needs := publication_guards plan.rule listed
  rw [fires] at needs
  unfold HumanReviewService.eventCode HumanReviewService.reviewResults at *
  rw [if_neg publishes, decide_eq_true publishes, decide_eq_false publishes] at *
  cases effective : audit.effectiveRequiresConsultation with
  | true =>
    rw [effective] at needs guards
    have passes := guards.2.2.2.2 .humanReviewConsultationRequired (needs.2 rfl)
    have holds := (WorkflowContract.evaluateGuard_domain (by rfl) (by decide) (by decide)).1 passes
    exact Option.some.inj holds
  | false =>
    rw [effective] at needs guards
    have passes := guards.2.2.2.2 .humanReviewGuidanceApproved (needs.1 rfl)
    have holds := (WorkflowContract.evaluateGuard_domain (by rfl) (by decide) (by decide)).1 passes
    exact Option.some.inj holds

end

/-! ### The runs of the guidances -/

/-- A run with a result is closed, and so is the run of a guidance. -/
structure Settled (limit : Nat) (a : Aggregate) : Prop where
  results : ∀ run ∈ a.runs, run.1.result.isSome = true → isOpen run.1.status = false
  guidances : ∀ g ∈ a.guidances, ∀ run ∈ a.runs, g.1.run = some run.1.id →
    isOpen run.1.status = false
  below : ∀ g ∈ a.guidances, ∀ i, g.1.run = some i → i < limit

section
variable {settings : Settings} {w : World} {act : Action} {a b : Aggregate}
  {inquiry used limit more : Nat}

/-- A guidance after a write is of the run of an older one, or of a run with a result. -/
theorem Recording.guidance_run (recording : Recording settings w act inquiry a b used)
    {x : Stored Guidance} (mem : x ∈ b.guidances) : (∃ g ∈ a.guidances, x.1.run = g.1.run) ∨
      ∃ run ∈ a.runs, x.1.run = some run.1.id ∧ run.1.result.isSome = true ∧ b.runs = a.runs := by
  cases recording with
  | kept same => exact .inl ⟨x, same.guidances ▸ mem, rfl⟩
  | failed _ _ _ same => exact .inl ⟨x, by rw [same] at mem; exact mem, rfl⟩
  | @decided _ _ _ _ _ g _ _ is room decides =>
    have ⟨there, _⟩ := guidanceOf_mem decides.guidance
    have ⟨applied, stored, shown, applies, _, _, all⟩ := decision_applied decides
    have applies := applyGuidanceDecision_applies applies
    rw [all.guidances] at mem
    dsimp only at mem
    have replaced {marked : Stored Guidance} {status : String} {actor : Nat} {now : Instant}
        (is : marked.1 = HumanReviewService.reviewed g.1 status actor now)
        (mem : x ∈ replaceRow (·.1.id) marked a.guidances) :
        ∃ g ∈ a.guidances, x.1.run = g.1.run := by
      cases mem_replaceRow mem with
      | inl old => exact ⟨x, old, rfl⟩
      | inr new => exact ⟨g, there, by rw [new.1, is]; rfl⟩
    generalize applied.guidances = guidances at applies mem
    cases applies with
    | approved is _ _ | rejected is _ => exact .inl (replaced is mem)
    | copied is copies _ =>
      cases List.mem_append.1 mem with
      | inl old => exact .inl (replaced is old)
      | inr new =>
        rw [List.mem_singleton.1 new, copies]
        exact .inl ⟨g, there, rfl⟩
  | persisted _ _ there result persisted =>
    have runs := persist_runs persisted
    have ⟨guidances, reviews, adds, made⟩ := persist_bundle persisted
    rw [adds.guidances] at mem
    cases List.mem_append.1 mem with
    | inl old => exact .inl ⟨x, old, rfl⟩
    | inr new =>
      cases made with
      | inl late => rw [late.2.1] at new; cases new
      | inr current =>
        have found := Option.isSome_of_eq_some result
        cases current.2 with
        | dropped => cases new
        | decided _ _ is _ | pending _ _ is _ _ _ =>
          rw [List.mem_singleton.1 new, is]
          exact .inr ⟨_, there, rfl, found, runs⟩

theorem Settled.mono (settled : Settled limit a) (le : limit ≤ more) : Settled more a :=
  ⟨settled.results, settled.guidances,
    fun g mem i runs => Nat.lt_of_lt_of_le (settled.below g mem i runs) le⟩

/-- A run of a guidance is as it was, or it has lost its result. -/
theorem Settled.result_of (settled : Settled limit a) (kept : ResultsKept limit a b)
    {g : Stored Guidance} (there : g ∈ a.guidances) {r' : Stored AIRun} (mem : r' ∈ b.runs)
    (runs : g.1.run = some r'.1.id) :
    isOpen r'.1.status = false ∧ ∀ x, r'.1.result = some x → r' ∈ a.runs := by
  have below := settled.below g there r'.1.id runs
  cases kept r' mem with
  | inr new =>
    rw [new.1] at below
    exact absurd below (Nat.lt_irrefl _)
  | inl older =>
    have ⟨r, old, same⟩ := older
    cases same with
    | inl same =>
      have is : r' = r := Subtype.ext same
      rw [is]
      exact ⟨settled.guidances g there r old (is ▸ runs), fun _ _ => old⟩
    | inr turned =>
      cases turned.2 with
      | inl opened =>
        have closed := settled.guidances g there r old (turned.1 ▸ runs)
        rw [opened.1] at closed
        cases closed
      | inr lost =>
        refine ⟨lost.1, fun x result => ?_⟩
        rw [lost.2] at result
        cases result

theorem Settled.writes (settled : Settled w.nextId a) (table : RunTable w.nextId inquiry a)
    (writes : Writes settings w act inquiry a b used) : Settled (w.nextId + used) b := by
  have kept := writes.results
  have sources {x : Stored Guidance} (mem : x ∈ b.guidances) := writes.recording.guidance_run mem
  refine ⟨fun r' mem result => ?_, fun x mem r' there runs => ?_, fun x mem i runs => ?_⟩
  · cases kept r' mem with
    | inr new =>
      rw [new.2] at result
      cases result
    | inl older =>
      have ⟨r, old, same⟩ := older
      cases same with
      | inl same =>
        rw [same] at result ⊢
        exact settled.results r old result
      | inr turned =>
        cases turned.2 with
        | inr lost => exact lost.1
        | inl opened =>
          by_contra stillOpen
          rw [opened.2 (Bool.eq_true_of_not_eq_false stillOpen)] at result
          have closed := settled.results r old result
          rw [opened.1] at closed
          cases closed
  · cases sources mem with
    | inl older =>
      have ⟨g, old, same⟩ := older
      exact (settled.result_of kept old there (same ▸ runs)).1
    | inr found =>
      have ⟨run, old, same, result, unchanged⟩ := found
      rw [unchanged] at there
      have is : run = r' :=
        List.inj_on_of_nodup_map table.nodup old there (Option.some.inj (same.symm.trans runs))
      exact is ▸ settled.results run old result
  · cases sources mem with
    | inl older =>
      have ⟨g, old, same⟩ := older
      exact Nat.lt_of_lt_of_le (settled.below g old i (same ▸ runs)) (Nat.le_add_right _ _)
    | inr found =>
      have ⟨run, old, same, _⟩ := found
      have is : run.1.id = i := Option.some.inj (same.symm.trans runs)
      rw [← is]
      exact Nat.lt_of_lt_of_le (table.limited run old) (Nat.le_add_right _ _)

end

/-! ### The numbers of the reviews -/

/-- Reviews have numbers of their own, and each is of a guidance of its own. -/
structure Numbered (limit : Nat) (a : Aggregate) : Prop where
  below : ∀ r ∈ a.reviews, r.1.id < limit
  unique : ∀ p ∈ a.reviews, ∀ q ∈ a.reviews, p.1.id = q.1.id → p = q
  apart : ∀ p ∈ a.reviews, ∀ q ∈ a.reviews, p.1.guidance = q.1.guidance → p.1.id = q.1.id

/-- The review of the guidance a decided or failed review was about. -/
structure SameReview (r row : HumanReview) : Prop where
  id : row.id = r.id
  guidance : row.guidance = r.guidance
  original : row.originalRequiresConsultation = r.originalRequiresConsultation
  origin : row.origin = r.origin
  originReason : row.originReason = r.originReason

theorem SameReview.refl (r : HumanReview) : SameReview r r := ⟨rfl, rfl, rfl, rfl, rfl⟩

section
variable {settings : Settings} {w : World} {act : Action} {a b : Aggregate}
  {inquiry used limit more : Nat}

/-- A review after a write is an older one, or it replaces one, or it is new and waits. -/
inductive Reviewing (limit : Nat) (a b : Aggregate) : Prop
  | kept (reviews : b.reviews = a.reviews)
  | replaced {r row : Stored HumanReview} (mem : r ∈ a.reviews) (same : SameReview r.1 row.1)
      (decided : row.1.status ≠ .pending) (reviews : b.reviews = replaceRow (·.1.id) row a.reviews)
  | added {g : Stored Guidance} {review : Stored HumanReview} (guidance : g.1.id = limit + 2)
      (guidances : b.guidances = a.guidances ++ [g]) (status : g.1.reviewStatus = "PENDING")
      (opens : IsPendingReview g.1 (limit + 1) review.1) (reviews : b.reviews = a.reviews ++ [review])

theorem decided_pending (review : HumanReview) (values : HumanReviewService.DecisionValues)
    (audit : HumanReviewService.ConsultationAudit) (shown : Option Nat) (request : Request) :
    (HumanReviewService.decided review values audit shown request).status ≠ .pending := by
  unfold HumanReviewService.decided
  cases values.decision <;> exact nofun

/-- A review that waits has recorded no decision. -/
theorem pending_blank {r : Stored HumanReview} (waits : r.1.status = .pending) :
    r.1.decision = none ∧ r.1.publishedGuidance = none := by
  have accepted := r.2
  change (_ && _ && r.1.decisionAudit && _) = true at accepted
  rw [Bool.and_eq_true, Bool.and_eq_true] at accepted
  have audit := accepted.1.2
  unfold HumanReview.decisionAudit at audit
  rw [if_pos waits] at audit
  simp only [Bool.and_eq_true, Option.isNone_iff_eq_none] at audit
  exact ⟨audit.1.1.1.1.1.1.1.1.1.1.1, audit.1.2⟩

theorem isDecidable_status {q : Inquiry} {review : HumanReview}
    {values : HumanReviewService.DecisionValues}
    (decides : HumanReviewService.isDecidable q review values = true) :
    review.status = .pending := by
  unfold HumanReviewService.isDecidable at decides
  simp only [Bool.and_eq_true, decide_eq_true_eq] at decides
  exact decides.1.1.1

theorem Recording.reviewing (recording : Recording settings w act inquiry a b used) :
    Reviewing w.nextId a b := by
  cases recording with
  | kept same => exact .kept same.reviews
  | failed mem _ is same =>
    refine .replaced mem ?_ ?_ (by rw [same])
    · rw [is]
      exact ⟨rfl, rfl, rfl, rfl, rfl⟩
    · rw [is]
      exact nofun
  | @decided _ _ values review _ _ audit _ is room decides =>
    have ⟨applied, stored, shown, _, same, is, all⟩ := decision_applied decides
    have ⟨r, located, number⟩ := lockVisible_review decides.visible
    refine .replaced (List.mem_of_find?_eq_some located) ?_ ?_ all.reviews
    · rw [same, is, number]
      exact ⟨rfl, rfl, rfl, rfl, rfl⟩
    · rw [same, is]
      exact decided_pending review values audit shown _
  | persisted _ _ there result persisted =>
    have ⟨guidances, reviews, adds, made⟩ := persist_bundle persisted
    cases made with
    | inl late => exact .kept (by rw [adds.reviews, late.2.2, List.append_nil])
    | inr current =>
      cases current.2 with
      | dropped | decided => exact .kept (by rw [adds.reviews, List.append_nil])
      | pending _ _ is waits _ opens =>
        exact .added (by rw [is]; rfl) adds.guidances (by rw [is]; exact waits) opens adds.reviews

/-- Every review that stays has the number and the guidance of an older one. -/
theorem mem_replaced {r row x : Stored HumanReview} (mem : r ∈ a.reviews)
    (same : SameReview r.1 row.1) (there : x ∈ replaceRow (·.1.id) row a.reviews) :
    ∃ old ∈ a.reviews, SameReview old.1 x.1 := by
  cases mem_replaceRow_cases there with
  | inl old => exact ⟨x, old.1, .refl _⟩
  | inr new => exact ⟨r, mem, new ▸ same⟩

theorem Numbered.writes (numbered : Numbered w.nextId a) (filed : Filed w.nextId a)
    (writes : Writes settings w act inquiry a b used) : Numbered (w.nextId + used) b := by
  have room : w.nextId ≤ w.nextId + used := Nat.le_add_right _ _
  cases writes.recording.reviewing with
  | kept reviews =>
    refine ⟨fun r mem => ?_, ?_, ?_⟩
    · rw [reviews] at mem
      exact Nat.lt_of_lt_of_le (numbered.below r mem) room
    · rw [reviews]
      exact numbered.unique
    · rw [reviews]
      exact numbered.apart
  | @replaced r row mem same _ reviews =>
    refine ⟨fun x there => ?_, fun p hp q hq number => ?_, fun p hp q hq guidance => ?_⟩
    · rw [reviews] at there
      have ⟨old, was, is⟩ := mem_replaced mem same there
      rw [is.id]
      exact Nat.lt_of_lt_of_le (numbered.below old was) room
    · rw [reviews] at hp hq
      cases mem_replaceRow_cases hp with
      | inl old =>
        cases mem_replaceRow_cases hq with
        | inl old' => exact numbered.unique p old.1 q old'.1 number
        | inr new' => exact absurd (number.trans (by rw [new'])) old.2
      | inr new =>
        cases mem_replaceRow_cases hq with
        | inl old' => exact absurd (number.symm.trans (by rw [new])) old'.2
        | inr new' => rw [new, new']
    · rw [reviews] at hp hq
      have ⟨p₀, was, is⟩ := mem_replaced mem same hp
      have ⟨q₀, was', is'⟩ := mem_replaced mem same hq
      rw [is.id, is'.id]
      exact numbered.apart p₀ was q₀ was' (by rw [← is.guidance, ← is'.guidance, guidance])
  | @added g review guidance guidances _ opens reviews =>
    have fresh : review.1.guidance = w.nextId + 2 := opens.guidance.trans guidance
    have older {r : Stored HumanReview} (mem : r ∈ a.reviews) : r.1.guidance < w.nextId + 2 :=
      Nat.lt_add_right 2 (filed.guidance_below mem)
    have listed : g ∈ b.guidances := by
      rw [guidances]
      exact List.mem_append_right _ (List.mem_singleton_self g)
    have limit : w.nextId + 2 < w.nextId + used := by
      rw [← guidance]
      exact (filed.filing room writes.filing).below g listed
    refine ⟨fun x there => ?_, fun p hp q hq number => ?_, fun p hp q hq same => ?_⟩
    · rw [reviews] at there
      cases List.mem_append.1 there with
      | inl old => exact Nat.lt_of_lt_of_le (numbered.below x old) room
      | inr new =>
        rw [List.mem_singleton.1 new, opens.number]
        omega
    · rw [reviews] at hp hq
      cases List.mem_append.1 hp with
      | inl old =>
        cases List.mem_append.1 hq with
        | inl old' => exact numbered.unique p old q old' number
        | inr new' =>
          have below := numbered.below p old
          rw [number, List.mem_singleton.1 new', opens.number] at below
          omega
      | inr new =>
        cases List.mem_append.1 hq with
        | inl old' =>
          have below := numbered.below q old'
          rw [← number, List.mem_singleton.1 new, opens.number] at below
          omega
        | inr new' => rw [List.mem_singleton.1 new, List.mem_singleton.1 new']
    · rw [reviews] at hp hq
      cases List.mem_append.1 hp with
      | inl old =>
        cases List.mem_append.1 hq with
        | inl old' => exact numbered.apart p old q old' same
        | inr new' =>
          have below := older old
          rw [same, List.mem_singleton.1 new', fresh] at below
          exact absurd below (Nat.lt_irrefl _)
      | inr new =>
        cases List.mem_append.1 hq with
        | inl old' =>
          have below := older old'
          rw [← same, List.mem_singleton.1 new, fresh] at below
          exact absurd below (Nat.lt_irrefl _)
        | inr new' => rw [List.mem_singleton.1 new, List.mem_singleton.1 new']

end

/-! ### What is published -/

theorem originFromLedger_reason {causes : List LedgerCause}
    (h : (HumanReviewService.originFromLedger causes).1 = .nonSafetyResolvable) :
    isHarnessReason (HumanReviewService.originFromLedger causes).2 = true := by
  have harness : ∀ entry ∈ HumanReviewService.ledgerCauses, entry.2.1 = .nonSafetyResolvable →
      isHarnessReason entry.2.2 = true := by decide
  unfold HumanReviewService.originFromLedger at h ⊢
  split
  · rename_i sound
    rw [if_pos sound] at h
    cases found : HumanReviewService.ledgerCauses.find? fun entry =>
        (causes.map (·.causeCode)).contains entry.1 with
    | none => rw [found] at h; cases h
    | some entry =>
      rw [found] at h
      exact harness entry (List.mem_of_find?_eq_some found) h
  · rename_i unsound
    rw [if_neg unsound] at h
    cases h

/-- A consultation that may be resolved is asked for by the harness alone. -/
theorem consultationOrigin_reason {a : Aggregate} {g : Guidance}
    (h : (consultationOrigin a g).1 = .nonSafetyResolvable) :
    isHarnessReason (consultationOrigin a g).2 = true := by
  unfold HumanReviewService.consultationOrigin at h ⊢
  split at h
  · cases h
  · rename_i required
    rw [if_neg required]
    split at h
    · exact originFromLedger_reason h
    · dsimp only at h
      split_ifs at h

/-- The rows of the guidance a review has published. -/
structure Published (a : Aggregate) (r : HumanReview) (g : Guidance) : Prop where
  approved : g.reviewStatus = "APPROVED"
  sufficient : g.evidenceSufficiency = "VERIFIED"
  cited : g.evidenceLinks ≠ []
  run : ∀ original ∈ a.guidances, original.1.id = r.guidance → original.1.run = g.run
  audited : r.reviewer.isSome = true ∧ r.decidedAt.isSome = true ∧
    r.decisionReasonCode.any (· != "") = true ∧ r.decisionIdempotencyKey.any (· != "") = true ∧
    r.decisionCorrelationId.isSome = true
  effective : r.effectiveRequiresConsultation = g.requiresConsultation
  recorded : consultationIsRecorded g r.originalRequiresConsultation
    (g.evidenceLinks.map fingerprint) r = true

section
variable {a b : Aggregate} {g x : Stored Guidance} {values : HumanReviewService.DecisionValues}
  {effective : Bool} {id : Nat} {guidances : List (Stored Guidance)} {shown : Option Nat}

/-- The guidance that takes the place of another says the same but for its review. -/
structure SameGuidance (g x : Guidance) : Prop where
  id : x.id = g.id
  run : x.run = g.run
  evidenceLinks : x.evidenceLinks = g.evidenceLinks

theorem Applies.mem (applies : Applies a g values effective id guidances shown)
    (mem : x ∈ guidances) : x ∈ a.guidances ∧ x.1.id ≠ g.1.id ∨ SameGuidance g.1 x.1 ∨
      x.1.id = id ∧ x.1.run = g.1.run ∧ ∀ link ∈ x.1.evidenceLinks,
        ∃ source ∈ g.1.evidenceLinks, ∃ n, link = { source with id := n } := by
  have replaced {marked : Stored Guidance} {status : String} {actor : Nat} {now : Instant}
      (is : marked.1 = HumanReviewService.reviewed g.1 status actor now)
      (mem : x ∈ replaceRow (·.1.id) marked a.guidances) :
      x ∈ a.guidances ∧ x.1.id ≠ g.1.id ∨ SameGuidance g.1 x.1 := by
    have number : marked.1.id = g.1.id := by rw [is]; rfl
    cases mem_replaceRow_cases mem with
    | inl old => exact .inl ⟨old.1, number ▸ old.2⟩
    | inr new =>
      rw [new, is]
      exact .inr ⟨rfl, rfl, rfl⟩
  cases applies with
  | approved is _ _ | rejected is _ => exact (replaced is mem).imp_right .inl
  | copied is copies _ =>
    cases List.mem_append.1 mem with
    | inl old => exact (replaced is old).imp_right .inl
    | inr new =>
      rw [List.mem_singleton.1 new, copies]
      refine .inr (.inr ⟨rfl, rfl, fun link there => ?_⟩)
      have ⟨i, bound, same⟩ := List.mem_mapIdx.1 there
      exact ⟨_, (mem_verifiedEvidence (List.getElem_mem bound)).1, _, same.symm⟩

theorem Applies.keeps (applies : Applies a g values effective id guidances shown)
    (mem : x ∈ a.guidances) (other : x.1.id ≠ g.1.id) : x ∈ guidances := by
  have stays {marked : Stored Guidance} {status : String} {actor : Nat} {now : Instant}
      (is : marked.1 = HumanReviewService.reviewed g.1 status actor now) :
      x ∈ replaceRow (·.1.id) marked a.guidances := by
    have number : marked.1.id = g.1.id := by rw [is]; rfl
    exact List.mem_map.2 ⟨x, mem, if_neg fun same => other (same.trans number)⟩
  cases applies with
  | approved is _ _ | rejected is _ => exact stays is
  | copied is _ _ => exact List.mem_append_left _ (stays is)

/-- The guidance that is shown cites all the verified evidence of the original. -/
theorem Applies.shows (there : g ∈ a.guidances)
    (applies : Applies a g values effective id guidances (some i)) :
    ∃ x ∈ guidances, x.1.id = i ∧ x.1.reviewStatus = "APPROVED" ∧
      x.1.evidenceSufficiency = g.1.evidenceSufficiency ∧ x.1.run = g.1.run ∧
      x.1.requiresConsultation = effective ∧ ∀ link ∈ HumanReviewService.verifiedEvidence g.1,
        fingerprint link ∈ x.1.evidenceLinks.map fingerprint := by
  cases applies with
  | @approved marked _ _ is same _ =>
    have number : marked.1.id = g.1.id := by rw [is]; rfl
    refine ⟨marked, List.mem_map.2 ⟨g, there, if_pos number.symm⟩, ?_⟩
    rw [is]
    exact ⟨rfl, rfl, rfl, rfl, same, fun link mem =>
      List.mem_map_of_mem (mem_verifiedEvidence mem).1⟩
  | @copied marked copy actor now x modified is copies _ =>
    refine ⟨copy, List.mem_append_right _ (List.mem_singleton_self copy), ?_⟩
    rw [copies]
    refine ⟨rfl, rfl, rfl, rfl, rfl, fun link mem => ?_⟩
    have ⟨i, bound, same⟩ := List.getElem_of_mem mem
    refine List.mem_map.2 ⟨_, List.mem_mapIdx.2 ⟨i, bound, rfl⟩, ?_⟩
    rw [same]
    rfl

/-- A decision shows a guidance exactly if it does not reject. -/
theorem Applies.shown_isSome (applies : Applies a g values effective id guidances shown) :
    shown.isSome = true ↔ values.decision ≠ .reject := by
  cases applies with
  | approved _ _ publishes | copied _ _ publishes => exact iff_of_true rfl publishes
  | rejected _ rejects => exact iff_of_false nofun (not_not_intro rejects)

/-- The reader finds the audit of the decision recorded. -/
theorem Audited.recorded {review row : HumanReview} {audit : HumanReviewService.ConsultationAudit}
    {x : Guidance} {prints : List (String × String)} (audited : Audited review g.1 audit)
    (requires : x.requiresConsultation = audit.effectiveRequiresConsultation)
    (disposition : row.disposition = some audit.disposition)
    (reason : row.changeReason = audit.reason) (snapshot : row.evidenceSnapshot = audit.evidenceSnapshot)
    (origin : row.origin = review.origin)
    (harness : row.origin = .nonSafetyResolvable → isHarnessReason row.originReason = true)
    (cites : ∀ link ∈ HumanReviewService.verifiedEvidence g.1,
      fingerprint link ∈ prints ∧ link.documentSha256 ≠ "") :
    consultationIsRecorded x review.originalRequiresConsultation prints row = true := by
  unfold consultationIsRecorded
  rw [requires, disposition, reason, snapshot]
  cases audited with
  | preserve => rw [if_pos rfl]; rfl
  | require original escalates =>
    rw [original, if_neg Bool.false_ne_true, escalates]
    rfl
  | @resolve reason selected origin' original resolves filled verified =>
    have named : row.origin = .nonSafetyResolvable := origin.trans origin'
    have matching : resolutionSnapshotMatchesEvidence selected prints = true := by
      unfold resolutionSnapshotMatchesEvidence
      rw [Bool.and_eq_true, Bool.and_eq_true, Bool.not_eq_true', List.isEmpty_eq_false_iff,
        List.all_eq_true, List.all_eq_true]
      refine ⟨⟨filled, fun link mem => ?_⟩, fun link mem => ?_⟩
      · rw [bne_iff_ne]
        exact (cites link (verified link mem)).2
      · rw [List.contains_iff_mem]
        exact (cites link (verified link mem)).1
    rw [original, if_neg Bool.false_ne_true.symm, named, harness named, resolves, matching]
    rfl

end
end WaterCare.Runtime
