import WaterCare.Runtime.Enabled
import WaterCare.Runtime.Records
import WaterCare.Runtime.Trace

/-!
The reviews of a run. A decision takes the need for a consultation away only from a
guidance whose run has a ledger of resolvable causes.
-/

namespace WaterCare.Runtime
open Machine Workflow Store Service Py Analysis
open HumanReviewService (consultationOrigin originFromLedger guidanceOf)

/-! ### The origin -/

/-- A cause a review may resolve. -/
def IsHarness (cause : LedgerCause) : Prop :=
  (cause.causeCode = "HARNESS_UNSUPPORTED_FUNCTION" ∨ cause.causeCode = "HARNESS_SCOPE_EXCEEDED") ∧
    cause.lockClass = "NON_SAFETY_RESOLVABLE"

def ledgerOf (a : Aggregate) (g : Guidance) : Option ConsultationCauseLedger :=
  g.run.bind fun id => a.causeLedgers.find? fun l => decide (l.run = id)

/-- The run of a guidance has a ledger of causes a review may resolve, and of no others. -/
def OnlyHarness (a : Aggregate) (g : Guidance) : Prop :=
  ∃ ledger, ledgerOf a g = some ledger ∧ ledger.causes ≠ [] ∧ ∀ cause ∈ ledger.causes,
    IsHarness cause

/-- The first of the listed causes a ledger holds decides its origin. -/
theorem firstCause_resolvable {codes : List String}
    (h : ((HumanReviewService.ledgerCauses.find? fun entry => codes.contains entry.1).map
      (·.2)).getD (.unknownLocked, .unclassifiedAiSignal) = (.nonSafetyResolvable, reason)) :
    "DANGER_ASSESSMENT" ∉ codes ∧ "EXPLICIT_SAFETY_RULE" ∉ codes ∧
      "FAIL_CLOSED_AI_RESULT" ∉ codes ∧ "UNCLASSIFIED_AI_SIGNAL" ∉ codes := by
  simp only [HumanReviewService.ledgerCauses, List.find?_cons, List.contains_eq_mem] at h
  refine ⟨?_, ?_, ?_, ?_⟩
  all_goals
    intro mem
    simp only [mem, decide_true] at h
    repeat' split at h
    all_goals cases h

theorem supported_cases {cause : LedgerCause} (supported : HumanReviewService.isSupported cause = true) :
    cause.causeCode = "DANGER_ASSESSMENT" ∨ cause.causeCode = "EXPLICIT_SAFETY_RULE" ∨
      cause.causeCode = "FAIL_CLOSED_AI_RESULT" ∨ cause.causeCode = "UNCLASSIFIED_AI_SIGNAL" ∨
      IsHarness cause := by
  unfold HumanReviewService.isSupported at supported
  obtain ⟨origin, found, same⟩ := (Option.any_eq_true _ _).1 supported
  rw [decide_eq_true_eq] at same
  have listed : (cause.causeCode, origin) ∈ HumanReviewService.ledgerCauses := by
    obtain ⟨before, after, split, _⟩ := List.lookup_eq_some_iff.1 found
    rw [split]
    simp
  unfold HumanReviewService.ledgerCauses at listed
  simp only [List.mem_cons, Prod.mk.injEq, List.not_mem_nil, or_false] at listed
  rcases listed with ⟨code, _⟩ | ⟨code, _⟩ | ⟨code, _⟩ | ⟨code, _⟩ | ⟨code, rfl⟩ | ⟨code, rfl⟩
  · exact .inl code
  · exact .inr (.inl code)
  · exact .inr (.inr (.inl code))
  · exact .inr (.inr (.inr (.inl code)))
  · exact .inr (.inr (.inr (.inr ⟨.inl code, same.symm⟩)))
  · exact .inr (.inr (.inr (.inr ⟨.inr code, same.symm⟩)))

theorem originFromLedger_resolvable {causes : List LedgerCause}
    (h : (originFromLedger causes).1 = .nonSafetyResolvable) :
    causes ≠ [] ∧ ∀ cause ∈ causes, IsHarness cause := by
  unfold originFromLedger at h
  split at h
  · rename_i sound
    rw [Bool.and_eq_true, Bool.not_eq_true', List.all_eq_true] at sound
    obtain ⟨filled, supported⟩ := sound
    obtain ⟨danger, safety, closed, unknown⟩ := firstCause_resolvable (Prod.ext h rfl)
    refine ⟨?_, ?_⟩
    · intro empty
      rw [empty] at filled
      cases filled
    · intro cause mem
      have listed : cause.causeCode ∈ causes.map (·.causeCode) := List.mem_map_of_mem mem
      rcases supported_cases (supported cause mem) with code | code | code | code | harness
      · exact absurd (code ▸ listed) danger
      · exact absurd (code ▸ listed) safety
      · exact absurd (code ▸ listed) closed
      · exact absurd (code ▸ listed) unknown
      · exact harness
  · cases h

theorem consultationOrigin_resolvable {a : Aggregate} {g : Guidance}
    (h : (consultationOrigin a g).1 = .nonSafetyResolvable) : OnlyHarness a g := by
  unfold HumanReviewService.consultationOrigin at h
  split at h
  · cases h
  · split at h
    · rename_i ledger found
      obtain ⟨filled, all⟩ := originFromLedger_resolvable h
      exact ⟨ledger, found, filled, all⟩
    · dsimp only at h
      split_ifs at h

theorem OnlyHarness.grown {a b : Aggregate} {g x : Guidance}
    (ledgers : List ConsultationCauseLedger) (only : OnlyHarness a g) (grown : b.causeLedgers = a.causeLedgers ++ ledgers)
    (run : x.run = g.run) : OnlyHarness b x := by
  obtain ⟨ledger, found, filled, all⟩ := only
  obtain ⟨id, runs, listed⟩ := Option.bind_eq_some_iff.1 found
  refine ⟨ledger, Option.bind_eq_some_iff.2 ⟨id, run.trans runs, ?_⟩, filled, all⟩
  rw [grown, List.find?_append, listed]
  rfl

/-! ### The filed reviews -/

/-- A review refers to a guidance that is there, and records what that guidance asked for. -/
structure Filed (limit : Nat) (a : Aggregate) : Prop where
  below : ∀ g ∈ a.guidances, g.1.id < limit
  known : ∀ r ∈ a.reviews, r.1.guidance ∈ a.guidances.map (·.1.id)
  original : ∀ r ∈ a.reviews, ∀ g ∈ a.guidances, g.1.id = r.1.guidance →
    r.1.originalRequiresConsultation = g.1.requiresConsultation
  origin : ∀ r ∈ a.reviews, ∀ g ∈ a.guidances, g.1.id = r.1.guidance →
    r.1.origin = .nonSafetyResolvable → OnlyHarness a g.1

namespace Filed
variable {limit more : Nat} {a b : Aggregate}

theorem mono (filed : Filed limit a) (h : limit ≤ more) : Filed more a :=
  ⟨fun g mem => Nat.lt_of_lt_of_le (filed.below g mem) h, filed.known, filed.original,
    filed.origin⟩

theorem guidance_below (filed : Filed limit a) {r : Stored HumanReview} (mem : r ∈ a.reviews) :
    r.1.guidance < limit := by
  obtain ⟨g, there, same⟩ := List.mem_map.1 (filed.known r mem)
  rw [← same]
  exact filed.below g there

theorem kept (filed : Filed limit a) (same : SameRecords a b) : Filed limit b := by
  have ledger {g : Guidance} (only : OnlyHarness a g) : OnlyHarness b g :=
    only.grown [] (by rw [same.causeLedgers, List.append_nil]) rfl
  refine ⟨?_, ?_, ?_, ?_⟩
  all_goals
    try rw [same.reviews]
    rw [same.guidances]
  · exact filed.below
  · exact filed.known
  · exact filed.original
  · intro r mem g there named resolvable
    exact ledger (filed.origin r mem g there named resolvable)

theorem filing (filed : Filed limit a) (le : limit ≤ more) (files : Filing limit more a b) :
    Filed more b := by
  cases files with
  | kept same => exact (filed.kept same).mono le
  | @reviewed r row mem reviews same decided still guidances _ ledgers =>
      obtain ⟨_, guidance, origin, original⟩ := same
      have source {r' : Stored HumanReview} (there : r' ∈ b.reviews) : ∃ old ∈ a.reviews,
          r'.1.guidance = old.1.guidance ∧ r'.1.origin = old.1.origin ∧
          r'.1.originalRequiresConsultation = old.1.originalRequiresConsultation := by
        rw [reviews] at there
        rcases mem_replaceRow there with old | ⟨rfl, _⟩
        · exact ⟨r', old, rfl, rfl, rfl⟩
        · exact ⟨r, mem, guidance, origin, original⟩
      have subject {r' : Stored HumanReview} {x : Stored Guidance} (there : r' ∈ a.reviews)
          (found : x ∈ b.guidances) (named : x.1.id = r'.1.guidance) : ∃ g ∈ a.guidances,
          g.1.id = r'.1.guidance ∧ x.1.run = g.1.run ∧
          x.1.requiresConsultation = g.1.requiresConsultation := by
        rcases guidances x found with old | ⟨g, old, number, run, required⟩ | ⟨new, _⟩
        · exact ⟨x, old, named, rfl, rfl⟩
        · exact ⟨g, old, number ▸ named, run, required⟩
        · have below := filed.guidance_below there
          omega
      refine ⟨?_, ?_, ?_, ?_⟩
      · intro x found
        rcases guidances x found with old | ⟨g, old, number, _⟩ | ⟨_, new⟩
        · exact Nat.lt_of_lt_of_le (filed.below x old) le
        · rw [number]
          exact Nat.lt_of_lt_of_le (filed.below g old) le
        · exact new
      · intro r' there
        obtain ⟨old, was, same, _⟩ := source there
        rw [same]
        exact still _ (filed.known old was)
      · intro r' there x found named
        obtain ⟨old, was, same, _, required⟩ := source there
        obtain ⟨g, mem', named', _, required'⟩ := subject was found (same ▸ named)
        rw [required, required']
        exact filed.original old was g mem' named'
      · intro r' there x found named resolvable
        obtain ⟨old, was, same, origin', _⟩ := source there
        obtain ⟨g, mem', named', run, _⟩ := subject was found (same ▸ named)
        have only := filed.origin old was g mem' named' (origin' ▸ resolvable)
        exact only.grown [] (by rw [ledgers, List.append_nil]) run
  | persisted ledgers bundle =>
      obtain ⟨added, grown⟩ := ledgers
      rcases bundle with ⟨guidances, reviews⟩ | ⟨g, guidances, fresh, next, reviews⟩
      · refine ⟨?_, ?_, ?_, ?_⟩
        · rw [guidances]
          exact (filed.mono le).below
        · rw [guidances, reviews]
          exact filed.known
        · rw [guidances, reviews]
          exact filed.original
        · rw [guidances, reviews]
          intro r mem x there named resolvable
          exact (filed.origin r mem x there named resolvable).grown _ grown rfl
      · have older {r : Stored HumanReview} {x : Stored Guidance} (mem : r ∈ a.reviews)
            (there : x ∈ a.guidances ++ [g]) (named : x.1.id = r.1.guidance) :
            x ∈ a.guidances := by
          rcases List.mem_append.1 there with old | new
          · exact old
          · have below := filed.guidance_below mem
            rw [List.mem_singleton.1 new] at named
            omega
        have newer {x : Stored Guidance} (there : x ∈ a.guidances ++ [g])
            (named : x.1.id = g.1.id) : x = g := by
          rcases List.mem_append.1 there with old | new
          · have below := filed.below x old
            omega
          · exact List.mem_singleton.1 new
        have below : ∀ x ∈ b.guidances, x.1.id < more := by
          intro x there
          rw [guidances] at there
          rcases List.mem_append.1 there with old | new
          · exact Nat.lt_of_lt_of_le (filed.below x old) le
          · rw [List.mem_singleton.1 new]
            exact next
        have earlier {r : Stored HumanReview} (mem : r ∈ a.reviews) :
            r.1.guidance ∈ (a.guidances ++ [g]).map (·.1.id) := by
          rw [List.map_append]
          exact List.mem_append_left _ (filed.known r mem)
        rcases reviews with same | ⟨r, appended, guidance, _, _, original, origin⟩
        · refine ⟨below, ?_, ?_, ?_⟩
          all_goals rw [guidances, same]
          · exact fun r mem => earlier mem
          · intro r mem x there named
            exact filed.original r mem x (older mem there named) named
          · intro r mem x there named resolvable
            exact (filed.origin r mem x (older mem there named) named resolvable).grown _ grown rfl
        · refine ⟨below, ?_, ?_, ?_⟩
          all_goals
            rw [guidances, appended]
            intro r' mem
            rcases List.mem_append.1 mem with old | new
          · exact earlier old
          · rw [List.mem_singleton.1 new, guidance, List.map_append]
            exact List.mem_append_right _ (List.mem_singleton_self _)
          · intro x there named
            exact filed.original r' old x (older old there named) named
          · intro x there named
            rw [List.mem_singleton.1 new] at named ⊢
            rw [original, newer there (named.trans guidance)]
          · intro x there named resolvable
            exact (filed.origin r' old x (older old there named) named resolvable).grown _ grown rfl
          · intro x there named resolvable
            rw [List.mem_singleton.1 new] at named resolvable
            rw [newer there (named.trans guidance)]
            exact consultationOrigin_resolvable (origin ▸ resolvable)

end Filed

section
variable {settings : Settings} {start w t : World} {labels : List Event} {inquiry : Nat}
  {a : Aggregate} {ok : World → Action → Prop}

theorem Opens.records {act : Action} {b : Aggregate} (opens : Opens w act b) :
    b.guidances = [] ∧ b.reviews = [] := by
  cases opens with
  | start _ opened | register _ _ _ opened =>
      obtain ⟨_, _, _, _, rfl⟩ := opened
      exact ⟨rfl, rfl⟩

theorem reachable_filed (initial : Initial start) (run : Run (Allowed settings ok) start labels w)
    (found : w.aggregate inquiry = some a) : Filed w.nextId a := by
  refine aggregate_invariant (P := fun limit _ a => Filed limit a) initial ?_ ?_ ?_ run inquiry a
    found
  · exact fun le filed => filed.mono le
  · intro _ _ b _ opens
    obtain ⟨guidances, reviews⟩ := opens.records
    have none_filed {r : Stored HumanReview} : r ∉ b.reviews := by
      rw [reviews]
      exact List.not_mem_nil
    refine ⟨?_, fun r mem => absurd mem none_filed, fun r mem => absurd mem none_filed,
      fun r mem => absurd mem none_filed⟩
    intro g mem
    rw [guidances] at mem
    exact absurd mem List.not_mem_nil
  · intro _ _ _ _ _ _ _ _ _ filed writes
    exact filed.filing (Nat.le_add_right _ _) writes.filing

end

/-! ### The decision -/

theorem mem_verifiedEvidence {g : Guidance} {link : EvidenceLink}
    (mem : link ∈ HumanReviewService.verifiedEvidence g) :
    link ∈ g.evidenceLinks ∧ link.isVerified = true := by
  unfold HumanReviewService.verifiedEvidence at mem
  split at mem
  · rename_i verified
    unfold HumanReviewService.evidenceIsVerified at verified
    rw [Bool.and_eq_true, List.all_eq_true] at verified
    have listed := mem_sorted.1 mem
    exact ⟨listed, verified.2 link listed⟩
  · cases mem

/-- An audit keeps the need for a consultation, or resolves one it may resolve. -/
theorem consultationAudit_ok {a : Aggregate} {review : HumanReview} {g : Guidance}
    {values : HumanReviewService.DecisionValues} {audit : HumanReviewService.ConsultationAudit}
    (h : HumanReviewService.consultationAudit a review g values = .ok audit) :
    review.originalRequiresConsultation ≤ audit.effectiveRequiresConsultation ∨
      review.origin = .nonSafetyResolvable ∧ HumanReviewService.isRestricted a g = true ∧
        audit.evidenceSnapshot ≠ [] ∧ ∀ link ∈ audit.evidenceSnapshot,
          link ∈ g.evidenceLinks ∧ link.isVerified = true := by
  unfold HumanReviewService.consultationAudit at h
  dsimp only at h
  split at h
  · split_ifs at h
    cases h
    exact .inl (Bool.le_true _)
  · split at h
    · split_ifs at h
      cases h
      exact .inl le_rfl
    · split_ifs at h
      cases h
      exact .inl (Bool.le_true _)
    · split_ifs at h with locked kept reason restricted empty
      split at h
      · cases h
      · rename_i selected chosen
        cases h
        have related := mapM_eq_some chosen
        refine .inr ⟨not_not.1 locked, by simpa using restricted, ?_, ?_⟩
        · intro none_selected
          change selected = [] at none_selected
          rw [none_selected] at related
          cases ids : values.consultationEvidenceIds.getD [] with
          | nil => exact empty ids
          | cons id rest =>
              rw [ids] at related
              cases related
        · intro link mem
          obtain ⟨id, _, found⟩ := forall₂_mem related mem
          exact mem_verifiedEvidence (List.mem_of_find?_eq_some found)

/-- The need for a consultation was rightly taken away from a guidance by its review. -/
structure Resolved (a : Aggregate) (g : Guidance) (r : HumanReview) : Prop where
  ledger : OnlyHarness a g
  restricted : ∃ run result, HumanReviewService.runOf a g = some run ∧ run.result = some result ∧
    (result.usageGuidance.guidanceStatus = .partialStop ∨
      result.usageGuidance.guidanceStatus = .totalStop)
  evidence : r.evidenceSnapshot ≠ []
  verified : ∀ link ∈ r.evidenceSnapshot, link ∈ g.evidenceLinks ∧ link.isVerified = true

theorem isRestricted_iff {a : Aggregate} {g : Guidance} :
    HumanReviewService.isRestricted a g = true ↔
      ∃ run result, HumanReviewService.runOf a g = some run ∧ run.result = some result ∧
        (result.usageGuidance.guidanceStatus = .partialStop ∨
          result.usageGuidance.guidanceStatus = .totalStop) := by
  unfold HumanReviewService.isRestricted
  rw [Option.any_eq_true]
  constructor
  · rintro ⟨result, found, stops⟩
    obtain ⟨run, runs, stored⟩ := Option.bind_eq_some_iff.1 found
    rw [Bool.or_eq_true, decide_eq_true_eq, decide_eq_true_eq] at stops
    exact ⟨run, result, runs, stored, stops⟩
  · rintro ⟨run, result, runs, stored, stops⟩
    refine ⟨result, Option.bind_eq_some_iff.2 ⟨run, runs, stored⟩, ?_⟩
    rwa [Bool.or_eq_true, decide_eq_true_eq, decide_eq_true_eq]

section
variable {settings : Settings} {start w t : World} {labels : List Event} {e : Event}
  {request : Request} {reviewId : Nat} {values : HumanReviewService.DecisionValues}

theorem lockVisible_review {inquiry : Nat} {a : Aggregate} {review : HumanReview}
    (h : HumanReviewService.lockVisible settings request.actor reviewId w =
      some (inquiry, a, review)) :
    ∃ r, a.reviews.find? (fun r => decide (r.1.id = reviewId)) = some r ∧ r.1 = review := by
  unfold HumanReviewService.lockVisible at h
  obtain ⟨owner, _, h⟩ := Option.bind_eq_some_iff.1 h
  obtain ⟨found, _, h⟩ := Option.bind_eq_some_iff.1 h
  obtain ⟨r, hr, h⟩ := Option.bind_eq_some_iff.1 h
  split_ifs at h
  cases h
  exact ⟨r, hr, rfl⟩

/-- A decision that commits anew has passed every check. -/
theorem committed_decision (step : Step settings w e t)
    (is : e.action = .request request (.decide reviewId values)) (commits : e.Commits) :
    ∃ inquiry a review g audit plan b row,
      Decides settings w request reviewId values inquiry a review g audit plan b row ∧
      t.aggregate inquiry = some b := by
  obtain ⟨answer, outcome, fresh⟩ := commits
  rcases step_cases step with ⟨answer', performed, outcome'⟩ | ⟨_, failure, _, outcome'⟩
  · rw [is] at performed
    obtain ⟨⟨t', answered⟩, decided, same⟩ := map_eq_ok.1 performed
    cases same
    rw [outcome', Except.ok.injEq] at outcome
    subst outcome
    rcases decide_ok decided with ⟨_, replayed⟩ | ⟨inquiry, a, review, g, audit, plan, b, row,
      decides, inserted, _⟩
    · rw [Option.all_some, replayed] at fresh
      cases fresh
    · refine ⟨inquiry, a, review, g, audit, plan, b, row, decides, ?_⟩
      rw [World.aggregate, inserted]
      exact AList.lookup_insert _
  · rw [outcome'] at outcome
    cases outcome

/-- In every run, a committed decision leaves a required consultation required, unless the
run of its guidance has a ledger of resolvable causes alone, restricts the use of the
product, and the review keeps verified evidence of the guidance. -/
theorem run_authority (initial : Initial start) (run : Run (Step settings) start labels w)
    (step : Step settings w e t) (is : e.action = .request request (.decide reviewId values))
    (commits : e.Commits) :
    ∃ inquiry a b g r, w.aggregate inquiry = some a ∧ t.aggregate inquiry = some b ∧
      b.reviews.find? (fun r => decide (r.1.id = reviewId)) = some r ∧
      guidanceOf a r.1.guidance = some g ∧ r.1.decision = some values.decision ∧
      r.1.originalRequiresConsultation = g.1.requiresConsultation ∧
      (r.1.originalRequiresConsultation ≤ r.1.effectiveRequiresConsultation ∨
        Resolved b g.1 r.1) := by
  obtain ⟨inquiry, a, review, g, audit, plan, b, row, decides, after⟩ :=
    committed_decision step is commits
  obtain ⟨found, _, named⟩ := lockVisible_found decides.visible
  obtain ⟨old, located, rfl⟩ := lockVisible_review decides.visible
  have filed := reachable_filed initial (Run.allowed run) found
  have mem := List.mem_of_find?_eq_some located
  obtain ⟨there, number⟩ := guidanceOf_mem decides.guidance
  obtain ⟨stored, shown, rfl, same, reviews, _, _, _, ledgers, runs⟩ := decision_records decides
  have kept : stored.1.guidance = old.1.guidance ∧
      stored.1.originalRequiresConsultation = old.1.originalRequiresConsultation ∧
      stored.1.effectiveRequiresConsultation = audit.effectiveRequiresConsultation ∧
      stored.1.evidenceSnapshot = audit.evidenceSnapshot ∧
      stored.1.decision = some values.decision ∧ stored.1.id = old.1.id := by
    rw [same]
    exact ⟨rfl, rfl, rfl, rfl, rfl, rfl⟩
  obtain ⟨guidance, original, effective, snapshot, decision, id⟩ := kept
  refine ⟨inquiry, a, b, g, stored, found, after, ?_, ?_, decision, ?_, ?_⟩
  · rw [reviews]
    exact find_replaceRow located (id.trans named)
  · rw [guidance]
    exact decides.guidance
  · rw [original]
    exact filed.original old mem g there number
  · rcases consultationAudit_ok decides.audited with kept | ⟨origin, restricted, filled, verified⟩
    · rw [original, effective]
      exact .inl kept
    · obtain ⟨run, result, runsOn, holds, stops⟩ := isRestricted_iff.1 restricted
      have only := filed.origin old mem g there number origin
      refine .inr ⟨only.grown [] (by rw [ledgers, List.append_nil]) rfl,
        ⟨run, result, ?_, holds, stops⟩, ?_, ?_⟩
      · unfold HumanReviewService.runOf at runsOn ⊢
        rw [runs]
        exact runsOn
      · rw [snapshot]
        exact filled
      · rw [snapshot]
        exact verified

end

/-- The consultant resolves the consultation of the guidance under review. -/
def resolving : Action :=
  Sample.send Sample.consultant 106 (.decide 14
    ⟨.approve, 1, none, none, .resolveNonSafety, some .productCapabilityVerified, some [16]⟩)

/-- The decision takes a consultation back that the guidance required. -/
theorem run_authority_resolving :
    ∃ inquiry a b g r,
      (trace Sample.settings Sample.world (Sample.reviewing [])).2.aggregate inquiry = some a ∧
      (eventOf Sample.settings (trace Sample.settings Sample.world (Sample.reviewing [])).2
        resolving).2.aggregate inquiry = some b ∧
      b.reviews.find? (fun r => decide (r.1.id = 14)) = some r ∧
      guidanceOf a r.1.guidance = some g ∧ r.1.decision = some .approve ∧
      g.1.requiresConsultation = true ∧ r.1.originalRequiresConsultation = true ∧
      r.1.effectiveRequiresConsultation = false ∧ Resolved b g.1 r.1 := by
  have run : Run (Step Sample.settings) Sample.world
      (trace Sample.settings Sample.world (Sample.reviewing [])).1
      (trace Sample.settings Sample.world (Sample.reviewing [])).2 := trace_run (by decide +kernel)
  have last : Step Sample.settings (trace Sample.settings Sample.world (Sample.reviewing [])).2
      (eventOf Sample.settings (trace Sample.settings Sample.world (Sample.reviewing [])).2
        resolving).1
      (eventOf Sample.settings (trace Sample.settings Sample.world (Sample.reviewing [])).2
        resolving).2 := eventOf_step (by decide +kernel)
  have commits : (eventOf Sample.settings (trace Sample.settings Sample.world
      (Sample.reviewing [])).2 resolving).1.Commits := by decide +kernel
  have is : (eventOf Sample.settings (trace Sample.settings Sample.world
      (Sample.reviewing [])).2 resolving).1.action = resolving := eventOf_action
  obtain ⟨inquiry, a, b, g, r, before, after, listed, guided, decision, original, either⟩ :=
    run_authority Sample.world_initial run last is commits
  have filed : ∀ entry ∈ (eventOf Sample.settings (trace Sample.settings Sample.world
      (Sample.reviewing [])).2 resolving).2.inquiries.entries, ∀ r ∈ entry.2.reviews,
      r.1.originalRequiresConsultation = true ∧ r.1.effectiveRequiresConsultation = false := by
    decide +kernel
  obtain ⟨required, effective⟩ := filed ⟨inquiry, b⟩ (AList.mem_lookup_iff.1 after) r
    (List.mem_of_find?_eq_some listed)
  refine ⟨inquiry, a, b, g, r, before, after, listed, guided, decision,
    original.symm.trans required, required, effective, either.resolve_left ?_⟩
  rw [required, effective]
  decide

end WaterCare.Runtime
