import WaterCare.Runtime.Runs
import WaterCare.Runtime.Trace

/-!
No update of an inquiry is lost. A request names a version, a decision is about the version of its
review and an analysis about that of its run. What commits moves the inquiry from this version to
the next one, but for a result of an analysis that applies no event; what is stale or refused
leaves the inquiry as it is.
-/

namespace WaterCare.Runtime
open Machine Workflow Store Service Py Analysis

/-! ### What an operation is issued against -/

/-- The inquiry an operation is about, with the version it is issued against. -/
inductive IssuedAgainst (settings : Settings) (w : World) : Action → Nat → Nat → Prop
  | act {request : Request} {operation : ActionRequest} {service : InquiryAction} :
      operation.action settings request w = some service →
      IssuedAgainst settings w (.request request (.act operation)) service.inquiry
        service.requestedVersion
  | actionResult {request : Request} {inquiry version : Nat} {values : ActionResultValues} :
      IssuedAgainst settings w (.request request (.createActionResult inquiry version values))
        inquiry version
  | claim {request : Request} {inquiry version : Nat} :
      IssuedAgainst settings w (.request request (.claim inquiry version)) inquiry version
  | decide {request : Request} {reviewId inquiry : Nat} {a : Aggregate} {review : HumanReview}
      {values : HumanReviewService.DecisionValues} :
      HumanReviewService.lockVisible settings request.actor reviewId w =
        some (inquiry, a, review) →
      IssuedAgainst settings w (.request request (.decide reviewId values)) inquiry
        review.sourceInquiryStateVersion
  | result {now : Instant} {inquiry run : Nat} {a : Aggregate} {r : Stored AIRun}
      {result : SymptomAnalysisResult} {verification : InquiryAIService.Verification} :
      w.aggregate inquiry = some a → InquiryAIService.runById a run = some r →
      r.1.result = some result →
      IssuedAgainst settings w
        (.internal now (.onRun inquiry run (.persistValidatedResult verification))) inquiry
        result.stateVersion
  | timeout {now : Instant} {inquiry run : Nat} {a : Aggregate} {r : Stored AIRun} :
      w.aggregate inquiry = some a → InquiryAIService.runById a run = some r →
      IssuedAgainst settings w (.internal now (.onRun inquiry run .applyTimeoutEvent)) inquiry
        r.1.inputStateVersion
  | failure {now : Instant} {inquiry run : Nat} {a : Aggregate} {r : Stored AIRun} :
      w.aggregate inquiry = some a → InquiryAIService.runById a run = some r →
      IssuedAgainst settings w (.internal now (.onRun inquiry run .applyUnusableAiFailureEvent))
        inquiry r.1.inputStateVersion

/-- A change of an inquiry from a version to the next one. -/
def MovesFrom (inquiry version : Nat) (w t : World) : Prop :=
  ∃ a b, w.aggregate inquiry = some a ∧ t.aggregate inquiry = some b ∧
    a.q.stateVersion = version ∧ b.q.stateVersion = version + 1

/-- What a committed operation does to its own inquiry: it moves it from the version it was issued
against. Only a step of an analysis can do less. A stale result and a refused timeout or failure
leave the inquiry as it is, a result of the current version without an event keeps its case. -/
inductive OwnUpdate (inquiry version : Nat) (w t : World) : Action → Prop
  | moved {act : Action} : MovesFrom inquiry version w t → OwnUpdate inquiry version w t act
  | stale {now : Instant} {run : Nat} {verification : InquiryAIService.Verification}
      {a : Aggregate} :
      w.aggregate inquiry = some a → a.q.stateVersion ≠ version → t.aggregate inquiry = some a →
      OwnUpdate inquiry version w t
        (.internal now (.onRun inquiry run (.persistValidatedResult verification)))
  | refused {now : Instant} {run : Nat} {step : RunStep} :
      step = .applyTimeoutEvent ∨ step = .applyUnusableAiFailureEvent →
      t.aggregate inquiry = w.aggregate inquiry →
      OwnUpdate inquiry version w t (.internal now (.onRun inquiry run step))
  | stored {now : Instant} {run : Nat} {verification : InquiryAIService.Verification}
      {a b : Aggregate} :
      w.aggregate inquiry = some a → a.q.stateVersion = version →
      t.aggregate inquiry = some b → SameCase a b →
      OwnUpdate inquiry version w t
        (.internal now (.onRun inquiry run (.persistValidatedResult verification)))

/-- What a committed operation does to the inquiries. -/
structure Updates (act : Action) (inquiry version : Nat) (w t : World) : Prop where
  others : ∀ other, other ≠ inquiry → t.aggregate other = w.aggregate other
  own : OwnUpdate inquiry version w t act

/-! ### Replayed requests -/

section
variable {settings : Settings} {request : Request} {w t : World} {answer : Answer}

/-- A request that opens an inquiry answers anew. -/
theorem createInquiry_fresh {operation : OperationId} {requestHash : String} {q : Inquiry}
    {event : EventCode} {session : Option SessionAggregate}
    (h : createInquiry request operation requestHash q event session w = .ok (t, answer)) :
    answer.replayed = false := by
  have ⟨_, _, _, _, same⟩ := createInquiry_ok h
  have ⟨_, fresh⟩ := Prod.mk.inj same
  rw [fresh]
  rfl

/-- A replay leaves the database as it is. -/
theorem replayed_same {operation : Operation}
    (h : operation.perform settings request w = .ok (t, answer))
    (replayed : answer.replayed = true) : t = w := by
  have anew {q : Prop} (fresh : answer.replayed = false) : q := by
    rw [replayed] at fresh
    cases fresh
  have committed_anew {service : InquiryAction} {context : ActionContext} {b : Aggregate}
      {resource : Resource} {q : Prop}
      (same : (t, answer) = committed service request w context b resource) : q := by
    have fresh := congrArg (fun pair => pair.2.replayed) same
    exact anew fresh
  cases operation with
  | start values =>
      unfold Operation.perform startInquiry at h
      dsimp only at h
      split at h
      · cases h
      · split at h
        · exact (replay_ok h).1
        · rename_i unrecorded
          rw [withIdempotencyRecord_new unrecorded] at h
          have ⟨_, _, created⟩ := bind_eq_ok.1 h
          exact anew (createInquiry_fresh created)
  | register values =>
      unfold Operation.perform registerPhoneInquiry at h
      dsimp only at h
      split at h
      · cases h
      · split at h
        · exact (replay_ok h).1
        · rename_i unrecorded
          split at h
          · cases h
          · split at h
            · cases h
            · rw [withIdempotencyRecord_new unrecorded] at h
              exact anew (createInquiry_fresh h)
  | act action =>
      unfold Operation.perform at h
      dsimp only at h
      split at h
      · cases h
      · rcases perform_ok h with ⟨same, _⟩ | ⟨_, _, _, _, _, _, same⟩
        · exact same
        · exact committed_anew same
  | createActionResult inquiry version values =>
      rcases actionResult_ok h with ⟨same, _⟩ | ⟨_, _, _, _, _, _, _, fresh⟩
      · exact same
      · exact anew fresh
  | claim inquiry version =>
      rcases claim_ok h with ⟨same, _⟩ | ⟨_, _, _, _, _, _, same⟩
      · exact same
      · exact committed_anew same
  | decide review values =>
      rcases decide_ok h with ⟨same, _⟩ | ⟨_, _, _, _, _, _, _, _, _, _, _, fresh⟩
      · exact same
      · exact anew fresh

/-- A rejected or replayed operation leaves the database as it is. -/
theorem step_refused {e : Event} (step : Step settings w e t) (refused : ¬e.Commits) : t = w := by
  rcases step_cases step with ⟨answered, performed, outcome⟩ | ⟨same, _⟩
  · have quiet {q : Prop} (silent : answered = none) : q := by
      refine absurd ⟨answered, outcome, ?_⟩ refused
      rw [silent]
      rfl
    obtain ⟨action, out⟩ := e
    cases action with
    | request request operation =>
        have ⟨pair, ran, same⟩ := map_eq_ok.1 performed
        obtain ⟨reached, answer⟩ := pair
        have ⟨world, is⟩ := Prod.mk.inj same
        have again : answer.replayed = true := by
          by_contra fresh
          rw [Bool.not_eq_true] at fresh
          refine refused ⟨answered, outcome, ?_⟩
          rw [← is, Option.all_some, fresh]
          rfl
        rw [← world]
        exact replayed_same ran again
    | supervise request operation =>
        have ⟨_, _, same⟩ := map_eq_ok.1 performed
        exact quiet (Prod.mk.inj same).2.symm
    | internal now step =>
        have ⟨_, _, same⟩ := map_eq_ok.1 performed
        exact quiet (Prod.mk.inj same).2.symm
    | administer now directory =>
        cases performed
        exact quiet rfl
  · exact same

end

/-! ### Commits -/

theorem version_guarded : ∀ rule ∈ shipped.transitions, rule.source ≠ none →
    GuardId.stateVersion ∈ rule.guardRefs := by
  decide

section
variable {settings : Settings} {request : Request} {w t : World} {act : Action} {a b : Aggregate}
  {inquiry version : Nat}

/-- A write of the inquiry leaves the others alone. -/
theorem updates_of_wrote (inserted : t.inquiries = w.inquiries.insert inquiry b)
    (own : t.aggregate inquiry = some b → OwnUpdate inquiry version w t act) :
    Updates act inquiry version w t := by
  refine ⟨fun other apart => ?_, own ?_⟩
  · rw [World.aggregate, inserted]
    exact AList.lookup_insert_ne apart
  · rw [World.aggregate, inserted]
    exact AList.lookup_insert _

theorem updates_of_moved (found : w.aggregate inquiry = some a)
    (inserted : t.inquiries = w.inquiries.insert inquiry b) (before : a.q.stateVersion = version)
    (after : b.q.stateVersion = version + 1) : Updates act inquiry version w t :=
  updates_of_wrote inserted fun written => .moved ⟨a, b, found, written, before, after⟩

/-- A service on the shared transaction moves its inquiry from the version of the request. -/
theorem Commits.updates {service : InquiryAction} {context : ActionContext} {plan : Plan}
    {resource : Resource} {answer : Answer}
    (desk : Desk w.nextId a.consultations) (is : IsService settings w.directory request service)
    (commits : Commits service request w a context plan b resource)
    (same : (t, answer) = committed service request w context b resource) :
    Updates act service.inquiry service.requestedVersion w t := by
  have ⟨listed, _, source⟩ := commits.rule_mem
  have current := commits.current (version_guarded _ listed (by rw [source]; exact nofun))
  have next := (is.transition commits desk).version_succ
  have inserted : t.inquiries = w.inquiries.insert service.inquiry b := by
    rw [(Prod.mk.inj same).1]
    rfl
  refine updates_of_moved commits.found inserted current.symm ?_
  rw [next, current]

/-- The answer of a committed request is a new one. -/
theorem step_committed {operation : Operation} {outcome : Except Failure (Option Answer)}
    (step : Step settings w ⟨.request request operation, outcome⟩ t)
    (commits : Event.Commits ⟨.request request operation, outcome⟩) :
    ∃ answer, operation.perform settings request w = .ok (t, answer) ∧ answer.replayed = false := by
  have ⟨answered, is, fresh⟩ := commits
  rcases step_cases step with ⟨answered', performed, same⟩ | ⟨_, failure, _, failed⟩
  · cases Except.ok.inj (is.symm.trans same)
    have ⟨⟨reached, answer⟩, ran, pair⟩ := map_eq_ok.1 performed
    have ⟨world, given⟩ := Prod.mk.inj pair
    rw [← given, Option.all_some, Bool.not_eq_true'] at fresh
    rw [← world]
    exact ⟨answer, ran, fresh⟩
  · cases is.symm.trans failed

/-- A decision moves the inquiry from the version its review is about. -/
theorem Decides.updates {reviewId : Nat} {values : HumanReviewService.DecisionValues}
    {review row : HumanReview} {g : Stored Guidance} {audit : HumanReviewService.ConsultationAudit}
    {plan : Plan} (desk : Desk w.nextId a.consultations)
    (decides : Decides settings w request reviewId values inquiry a review g audit plan b row)
    (inserted : t.inquiries = w.inquiries.insert inquiry b) :
    Updates act inquiry review.sourceInquiryStateVersion w t := by
  have found := (lockVisible_found decides.visible).1
  have next := (decision_transition decides desk).version_succ
  have decidable := decides.isDecidable
  unfold HumanReviewService.isDecidable at decidable
  rw [Bool.and_eq_true, decide_eq_true_eq] at decidable
  refine updates_of_moved found inserted decidable.2 ?_
  rw [next, decidable.2]

/-- A result of another version leaves the inquiry as it is. -/
theorem persist_stale {d : Directory} {run : AIRun} {r : SymptomAnalysisResult}
    {v : InquiryAIService.Verification} {id : Nat} {now : Instant}
    {outcome : InquiryAIService.EventOutcome}
    (h : InquiryAIService.persistValidatedResult d a run r v id now = .ok (b, outcome))
    (stale : a.q.stateVersion ≠ r.stateVersion) : b = a := by
  unfold InquiryAIService.persistValidatedResult at h
  rw [if_pos stale] at h
  cases h
  rfl

/-- A timeout or a failure that moves the inquiry is about its version. -/
theorem failure_current {event : EventCode} {guard : GuardId} {accepted : AIRun → Bool}
    {mark : Inquiry → Inquiry} {d : Directory} {run : AIRun} {now : Instant}
    {outcome : InquiryAIService.EventOutcome}
    (h : InquiryAIService.applyFailureEvent event guard accepted mark d a run now =
      .ok (b, outcome)) (moved : b ≠ a) : a.q.stateVersion = run.inputStateVersion := by
  by_contra stale
  unfold InquiryAIService.applyFailureEvent at h
  rw [if_pos (.inr stale)] at h
  cases h
  exact moved rfl

/-- The application of a result to the inquiry of its run. -/
theorem RunStep.result_updates {now : Instant} {run : Nat} {r : Stored AIRun}
    {result : SymptomAnalysisResult} {verification : InquiryAIService.Verification}
    (desk : Desk w.nextId a.consultations) (found : w.aggregate inquiry = some a)
    (stored : r.1.result = some result)
    (performed : RunStep.perform now w a r.1 (.persistValidatedResult verification) = .ok b)
    (written : t.aggregate inquiry = some b) :
    OwnUpdate inquiry result.stateVersion w t
      (.internal now (.onRun inquiry run (.persistValidatedResult verification))) := by
  by_cases current : a.q.stateVersion = result.stateVersion
  · rcases RunStep.moved desk performed with same | ⟨_, _, _, move, _⟩
    · exact .stored found current written same
    · refine .moved ⟨a, b, found, written, current, ?_⟩
      rw [move.version_succ, current]
  · unfold RunStep.perform at performed
    simp only [stored] at performed
    obtain ⟨pair, persisted, same⟩ := map_eq_ok.1 performed
    have kept : b = a := same ▸ persist_stale persisted current
    rw [kept] at written
    exact .stale found current written

/-- The application of a timeout or of a failure to the inquiry of its run. -/
theorem RunStep.failure_updates {now : Instant} {run : Nat} {step : RunStep} {r : Stored AIRun}
    (reports : step = .applyTimeoutEvent ∨ step = .applyUnusableAiFailureEvent)
    (found : w.aggregate inquiry = some a) (performed : step.perform now w a r.1 = .ok b)
    (written : t.aggregate inquiry = some b) :
    OwnUpdate inquiry r.1.inputStateVersion w t (.internal now (.onRun inquiry run step)) := by
  rcases RunStep.failed_moved reports performed with same | ⟨_, _, _, _, move⟩
  · refine .refused reports ?_
    rw [written, found, same]
  · have next := move.version_succ
    have moved : b ≠ a := by
      intro same
      rw [same] at next
      omega
    have current : a.q.stateVersion = r.1.inputStateVersion := by
      rcases reports with rfl | rfl
      · obtain ⟨pair, applied, same⟩ := map_eq_ok.1 performed
        exact failure_current applied (same ▸ moved)
      · obtain ⟨pair, applied, same⟩ := map_eq_ok.1 performed
        exact failure_current applied (same ▸ moved)
    refine .moved ⟨a, b, found, written, current, ?_⟩
    rw [next, current]

/-- An action on a run leaves every inquiry alone, or writes what its step has computed. -/
theorem onRun_updates {outcome : Except Failure (Option Answer)} {now : Instant} {run : Nat}
    {run_step : RunStep} {r : Stored AIRun}
    (step : Step settings w ⟨.internal now (.onRun inquiry run run_step), outcome⟩ t)
    (found : w.aggregate inquiry = some a) (located : InquiryAIService.runById a run = some r)
    (kept : t.aggregate inquiry = some a →
      OwnUpdate inquiry version w t (.internal now (.onRun inquiry run run_step)))
    (own : ∀ b, run_step.perform now w a r.1 = .ok b → t.aggregate inquiry = some b →
      OwnUpdate inquiry version w t (.internal now (.onRun inquiry run run_step))) :
    Updates (.internal now (.onRun inquiry run run_step)) inquiry version w t := by
  cases step_effect step with
  | untouched same _ =>
      have still : ∀ other, t.aggregate other = w.aggregate other := by
        intro other
        rw [World.aggregate, same]
        rfl
      exact ⟨fun other _ => still other, kept ((still inquiry).trans found)⟩
  | opened b opens _ _ => cases opens
  | wrote i a' b used writes inserted _ =>
      cases writes with
      | service serves _ => cases serves
      | @runStep _ _ _ _ _ _ r' found' located' ran =>
          cases Option.some.inj (found'.symm.trans found)
          cases Option.some.inj (located'.symm.trans located)
          exact updates_of_wrote inserted (own b ran)

/-- What a committed operation does to the inquiry it is issued on. -/
theorem step_updates {e : Event}
    (desks : ∀ i x, w.aggregate i = some x → Desk w.nextId x.consultations)
    (step : Step settings w e t) (issued : IssuedAgainst settings w e.action inquiry version)
    (commits : e.Commits) : Updates e.action inquiry version w t := by
  obtain ⟨action, outcome⟩ := e
  cases issued with
  | @act request operation service served =>
      obtain ⟨answer, ran, fresh⟩ := step_committed step commits
      unfold Operation.perform at ran
      simp only [served] at ran
      rcases perform_ok ran with ⟨_, replayed⟩ | ⟨a, context, plan, b, resource, wrote, same⟩
      · rw [fresh] at replayed
        cases replayed
      · have serves := @Serves.act settings w request operation service served
        exact wrote.updates (desks _ _ wrote.found) (serves.isService settings w) same
  | @actionResult request inquiry version values =>
      obtain ⟨answer, ran, fresh⟩ := step_committed step commits
      rcases actionResult_ok ran with ⟨_, replayed⟩ | ⟨a, item, b, result, reports, inserted, _⟩
      · rw [fresh] at replayed
        cases replayed
      · have written := reports.written
        unfold ActionResultService.write at written
        obtain ⟨_, _, saved⟩ := bind_eq_ok.1 written
        obtain ⟨_, advanced, last⟩ := bind_eq_ok.1 saved
        cases last
        refine updates_of_moved reports.found inserted reports.version.symm ?_
        rw [reports.version]
        exact congrArg (·.stateVersion) (save_ok.1 advanced)
  | claim =>
      obtain ⟨answer, ran, fresh⟩ := step_committed step commits
      rcases claim_ok ran with ⟨_, replayed⟩ | ⟨a, context, plan, b, resource, wrote, same⟩
      · rw [fresh] at replayed
        cases replayed
      · exact wrote.updates (desks _ _ wrote.found) (.claim _ _) same
  | decide visible =>
      obtain ⟨answer, ran, fresh⟩ := step_committed step commits
      rcases decide_ok ran with ⟨_, replayed⟩ | ⟨i, a, review, g, audit, plan, b, row, decides,
        inserted, _⟩
      · rw [fresh] at replayed
        cases replayed
      · cases Option.some.inj (decides.visible.symm.trans visible)
        exact decides.updates (desks _ _ (lockVisible_found decides.visible).1) inserted
  | @result now _ run a r result verification found located stored =>
      refine onRun_updates step found located (fun kept => ?_) fun b ran written => ?_
      · by_cases current : a.q.stateVersion = result.stateVersion
        · exact .stored found current kept (.refl a)
        · exact .stale found current kept
      · exact RunStep.result_updates (desks _ _ found) found stored ran written
  | @timeout now _ run a r found located =>
      refine onRun_updates step found located (fun kept => ?_) fun b ran written => ?_
      · exact .refused (.inl rfl) (kept.trans found.symm)
      · exact RunStep.failure_updates (.inl rfl) found ran written
  | @failure now _ run a r found located =>
      refine onRun_updates step found located (fun kept => ?_) fun b ran written => ?_
      · exact .refused (.inr rfl) (kept.trans found.symm)
      · exact RunStep.failure_updates (.inr rfl) found ran written

end

/-! ### Every run -/

section
variable {settings : Settings} {start w t : World} {before after : List Event} {inquiry : Nat}
  {a : Aggregate}

/-- The version of an inquiry never falls. -/
theorem later_version (initial : Initial start) (first : Run (Step settings) start before w)
    (more : Run (Step settings) w after t) (found : w.aggregate inquiry = some a) :
    ∃ b, t.aggregate inquiry = some b ∧ a.q.stateVersion ≤ b.q.stateVersion := by
  induction more with
  | refl => exact ⟨a, found, Nat.le_refl _⟩
  | @snoc labels s u e earlier last ih =>
      have reached := first.trans earlier
      have ⟨x, there, least⟩ := ih
      have below := (reachable_runs initial (Run.allowed reached) there).below
      cases step_effect last with
      | untouched same _ =>
          refine ⟨x, ?_, least⟩
          rw [World.aggregate, same]
          exact there
      | opened b _ inserted _ =>
          refine ⟨x, ?_, least⟩
          rw [World.aggregate, inserted, AList.lookup_insert_ne (Nat.ne_of_lt below)]
          exact there
      | wrote i y b used writes inserted _ =>
          by_cases own : inquiry = i
          · subst own
            cases Option.some.inj (writes.found.symm.trans there)
            have desk := (reachable_coupled initial (Run.allowed reached) there).desk
            refine ⟨b, ?_, least.trans (writes.change desk).advances.2.1⟩
            rw [World.aggregate, inserted]
            exact AList.lookup_insert _
          · refine ⟨x, ?_, least⟩
            rw [World.aggregate, inserted, AList.lookup_insert_ne own]
            exact there

/-- What does not commit leaves the database as it is. What commits moves its inquiry from the
version it was issued against, but for the steps of an analysis that apply no event, and after a
move from a version no operation moves the inquiry from this version again. -/
theorem run_updates {e : Event} (initial : Initial start)
    (run : Run (Step settings) start before w) (step : Step settings w e t) :
    (¬e.Commits → t = w) ∧
      ∀ inquiry version, IssuedAgainst settings w e.action inquiry version →
        (e.Commits → Updates e.action inquiry version w t) ∧
        (MovesFrom inquiry version w t → ∀ after s e' s', Run (Step settings) t after s →
          Step settings s e' s' → ¬MovesFrom inquiry version s s') := by
  refine ⟨step_refused step, fun inquiry version issued => ⟨fun commits => ?_, ?_⟩⟩
  · refine step_updates (fun i x found => ?_) step issued commits
    exact (reachable_coupled initial (Run.allowed run) found).desk
  · rintro ⟨_, b, _, moved, _, next⟩ more s e' s' later _ ⟨c, _, there, _, again, _⟩
    have ⟨c', there', least⟩ := later_version initial (run.snoc step) later moved
    cases Option.some.inj (there'.symm.trans there)
    omega

end

namespace UpdateSample
open Sample

/-- The inquiry 10 is started. -/
def started : World :=
  (trace settings world [send customer 100 (.start ⟨1, .web, "no cold water", none, none⟩)]).2

/-- Its symptom is submitted at its first version. -/
def submitting : Action := send customer 101 (.act (.submitSymptom 10 1))

/-- Its analysis has succeeded. -/
def analysed : World :=
  (trace settings world
    (analysing ++ [.internal 104 (.onRun 10 12 (.markSucceeded (cautionResult [])))])).2

/-- The result of the analysis is applied. -/
def applying : Action := .internal 105 (.onRun 10 12 (.persistValidatedResult verification))

theorem started_run : ∃ labels, Run (Step settings) world labels started :=
  ⟨_, trace_run (by decide +kernel)⟩

theorem analysed_run : ∃ labels, Run (Step settings) world labels analysed :=
  ⟨_, trace_run (by decide +kernel)⟩

theorem submitting_issued :
    IssuedAgainst settings started (eventOf settings started submitting).1.action 10 1 := by
  rw [eventOf_action]
  have served : ActionRequest.action settings (request customer 101) started
      (.submitSymptom 10 1) =
        some (submitSymptom settings started.directory (request customer 101) 10 1) := rfl
  exact .act served

theorem applying_issued :
    IssuedAgainst settings analysed (eventOf settings analysed applying).1.action 10 2 := by
  rw [eventOf_action]
  have stored : ((analysed.aggregate 10).bind fun a =>
      (InquiryAIService.runById a 12).bind fun r => r.1.result.map (·.stateVersion)) = some 2 := by
    decide +kernel
  have ⟨a, found, inside⟩ := Option.bind_eq_some_iff.1 stored
  have ⟨r, located, answered⟩ := Option.bind_eq_some_iff.1 inside
  have ⟨result, is, version⟩ := Option.map_eq_some_iff.1 answered
  rw [← version]
  exact .result found located is

end UpdateSample

theorem run_updates_submitting :
    ∃ t, MovesFrom 10 1 UpdateSample.started t ∧ ∀ after s e s',
      Run (Step Sample.settings) t after s → Step Sample.settings s e s' →
        ¬MovesFrom 10 1 s s' := by
  have ⟨_, run⟩ := UpdateSample.started_run
  have authenticated : UpdateSample.submitting.IsAuthenticated UpdateSample.started := by
    decide +kernel
  have step : Step Sample.settings _ _ _ := eventOf_step authenticated
  have before : (UpdateSample.started.aggregate 10).map (·.q.stateVersion) = some 1 := by
    decide +kernel
  have after : ((eventOf Sample.settings UpdateSample.started
      UpdateSample.submitting).2.aggregate 10).map (·.q.stateVersion) = some 2 := by decide +kernel
  have ⟨a, found, first⟩ := Option.map_eq_some_iff.1 before
  have ⟨b, there, second⟩ := Option.map_eq_some_iff.1 after
  have moves : MovesFrom 10 1 _ _ := ⟨a, b, found, there, first, second⟩
  exact ⟨_, moves,
    ((run_updates Sample.world_initial run step).2 10 1 UpdateSample.submitting_issued).2 moves⟩

/-- A result that waits for its review commits its projection, and the version stays. -/
theorem result_keeps_version :
    ∃ labels w e t, Run (Step Sample.settings) Sample.world labels w ∧ Step Sample.settings w e t ∧
      IssuedAgainst Sample.settings w e.action 10 2 ∧ e.Commits ∧
      (w.aggregate 10).map (fun a => (a.q.stateVersion, a.q.riskLevel)) = some (2, none) ∧
      (t.aggregate 10).map (fun a => (a.q.stateVersion, a.q.riskLevel)) =
        some (2, some .caution) := by
  have ⟨labels, run⟩ := UpdateSample.analysed_run
  have authenticated : UpdateSample.applying.IsAuthenticated UpdateSample.analysed := trivial
  have step : Step Sample.settings _ _ _ := eventOf_step authenticated
  refine ⟨labels, _, _, _, run, step, UpdateSample.applying_issued, ?_, ?_, ?_⟩
  · decide +kernel
  · decide +kernel
  · decide +kernel

end WaterCare.Runtime
