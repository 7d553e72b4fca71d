import WaterCare.Runtime.Coupling

/-!
The `RuntimeError` branches of the consultation repository: as long as the
consultations are coupled to the status, no service of the shared transaction
runs into one.
-/

namespace WaterCare.Runtime
open Machine Workflow Store Service Py Analysis

/-- What `cancel_active`, `request` and `claim` raise for rows they never expect. -/
def runtimeError : Failure := .raised "RuntimeError"

abbrev Expected {α : Type} (x : Except Failure α) : Prop := Avoids runtimeError x

theorem raised_ne {name : String} (h : name ≠ "RuntimeError") : .raised name ≠ runtimeError :=
  fun same => h (Failure.raised.inj same)

theorem raised_expected {α : Type} {name : String} (h : name ≠ "RuntimeError") :
    Expected (.error (.raised name) : Except Failure α) :=
  .error (raised_ne h)

/-! ### Shared pieces -/

section
variable {settings : Settings} {d : Directory} {request : Request} {w : World} {a : Aggregate}
  {plan : Plan}

theorem save_expected {α : Type} [Table α] (row : α) {error : String} (h : error ≠ "RuntimeError") :
    Expected (save row error) := by
  unfold save
  split
  · exact .ok _
  · exact raised_expected h

theorem recordHistory_expected (row : InquiryHistory) : Expected (a.recordHistory row) := by
  unfold Aggregate.recordHistory
  refine .bind (save_expected row (by decide)) fun stored _ => ?_
  split
  · exact raised_expected (by decide)
  · exact .ok _

theorem recordVisitHistory_expected (row : VisitHistory) : Expected (a.recordVisitHistory row) := by
  unfold Aggregate.recordVisitHistory
  refine .bind (save_expected row (by decide)) fun stored _ => ?_
  split
  · exact raised_expected (by decide)
  · exact .ok _

theorem replay_expected (record : IdempotencyRecord) (requestHash : String) :
    Expected (w.replay record requestHash) := by
  refine .map ?_
  unfold IdempotencyRecord.replayOrConflict
  split
  · exact .error nofun
  · split
    · split
      · exact .error nofun
      · exact .ok _
    · exact .error nofun

theorem withIdempotencyRecord_expected {scope : Scope} {requestHash : String}
    {rest : World → Except Failure (World × Answer)} (h : ∀ pending, Expected (rest pending)) :
    Expected (w.withIdempotencyRecord scope requestHash rest) := by
  unfold World.withIdempotencyRecord
  split
  · exact h _
  · split
    · exact raised_expected (by decide)
    · exact replay_expected _ _

theorem guardFailure_expected {unprocessable other : GuardFailure → Failure}
    (h : ∀ failure, unprocessable failure ≠ runtimeError)
    (h' : ∀ failure, other failure ≠ runtimeError) (failure : GuardFailure) :
    guardFailure unprocessable other failure ≠ runtimeError := by
  unfold guardFailure
  split
  · exact nofun
  · split
    · exact nofun
    · split
      · exact h failure
      · exact h' failure

/-! ### The repositories -/

theorem update_expected (c : Consultation) : Expected (ConsultationRepository.update a c) :=
  .bind (save_expected c (by decide)) fun _ _ => .ok _

theorem attach_expected (c : Stored Consultation) (h : ConsultationHandoff) :
    Expected (ConsultationHandoffRepository.attach a c h) := by
  unfold ConsultationHandoffRepository.attach
  dsimp only
  split
  · exact .ok _
  · split
    · exact .ok _
    · exact update_expected _

theorem attachToLatest_expected (c : Stored Consultation) :
    Expected (ConsultationHandoffRepository.attachToLatestConsultation a c) := by
  unfold ConsultationHandoffRepository.attachToLatestConsultation
  split
  · exact .ok _
  · exact attach_expected c _

theorem attachHandoff_expected (h : ConsultationHandoff) :
    Expected (ConsultationHandoffRepository.attachHandoff a h) := by
  unfold ConsultationHandoffRepository.attachHandoff
  split
  · exact .ok _
  · split
    · exact .map (attach_expected _ h)
    · exact .ok _

/-- A request finds no running consultation where its event is allowed. -/
theorem request_expected {stamp : Stamp} {current : Option (Stored Consultation)} {id : Nat}
    {now : Instant} (idle : ∀ c, current = some c → c.1.status ≠ .inProgress) :
    Expected (ConsultationRepository.request d a stamp current id now) := by
  unfold ConsultationRepository.request
  split
  · exact update_expected _
  · split
    · rename_i running
      obtain ⟨c, found, status⟩ := (Option.any_eq_true _ _).1 running
      exact absurd (of_decide_eq_true status) (idle c found)
    · split
      · exact .bind (save_expected _ (by decide)) fun _ _ => .ok _
      · exact raised_expected (by decide)

/-- A cancellation finds at most one active consultation. -/
theorem cancelActive_expected {limit : Nat} (desk : Desk limit a.consultations) (stamp : Stamp) :
    Expected (ConsultationRepository.cancelActive d a stamp) := by
  unfold ConsultationRepository.cancelActive
  split
  · exact .ok _
  · split
    · exact .bind (save_expected _ (by decide)) fun _ _ => .ok _
    · exact raised_expected (by decide)
  · rename_i c c' rest active
    have found (x : Stored Consultation) (mem : x ∈ c :: c' :: rest) :
        ∃ older, a.consultations = older ++ [x] := by
      rw [← active, List.mem_filter] at mem
      exact desk.active_last mem.1 mem.2
    obtain ⟨older, split⟩ := found c List.mem_cons_self
    obtain ⟨older', split'⟩ := found c' (List.mem_cons_of_mem _ List.mem_cons_self)
    have same : c = c' := by
      have last := congrArg List.getLast? (split.symm.trans split')
      rw [List.getLast?_concat, List.getLast?_concat] at last
      exact Option.some.inj last
    have sub : (c :: c' :: rest).Sublist a.consultations := active ▸ List.filter_sublist
    have nodup := (sub.map fun c : Stored Consultation => c.1.id).nodup desk.numbered.nodup
    rw [List.map_cons, List.map_cons, same, List.nodup_cons] at nodup
    exact absurd List.mem_cons_self nodup.1

end

/-! ### The shared transaction -/

/-- Nothing around the mutation of a service raises it. -/
structure Careful (service : InquiryAction) : Prop where
  prepare : ∀ a, Expected (service.prepare a)
  conflict : ∀ a context, service.conflict a context ≠ runtimeError
  unresolved : service.unresolved ≠ runtimeError
  guardFailure : ∀ failure, service.guardFailure failure ≠ runtimeError
  settle : ∀ a, Expected (service.settle a)
  finish : ∀ plan a b resource, Expected (service.finish plan a b resource)

section
variable {settings : Settings} {d : Directory} {request : Request} {w : World} {a : Aggregate}
  {service : InquiryAction}

theorem plan_expected (careful : Careful service) (context : ActionContext) :
    Expected (service.plan a context) := by
  unfold InquiryAction.plan
  split
  · refine .error ?_
    split
    · exact careful.conflict a context
    · exact careful.unresolved
  · split
    · exact .ok _
    · exact .error nofun

theorem checkGuards_expected (careful : Careful service) (context : ActionContext) (plan : Plan) :
    Expected (service.checkGuards request a context plan) := by
  unfold InquiryAction.checkGuards
  split
  · exact .ok _
  · refine .error ?_
    split
    · exact careful.conflict a context
    · exact careful.guardFailure _

theorem write_expected (careful : Careful service) {context : ActionContext} {plan : Plan}
    {fresh : Nat} (mutate : Expected (service.mutate plan a context fresh)) :
    Expected (service.write request a context plan fresh) := by
  unfold InquiryAction.write
  refine .bind mutate ?_
  rintro ⟨written, resource⟩ _
  refine .bind (save_expected _ (by decide)) fun inquiry _ => ?_
  refine .bind (careful.settle _) fun settled _ => ?_
  have finish (recorded : Aggregate) : Expected (do
      let finished ← service.finish plan a recorded resource
      pure (finished, resource)) :=
    .bind (careful.finish _ _ _ _) fun _ _ => .ok _
  dsimp only
  split
  · exact .bind (recordHistory_expected _) fun recorded _ => finish recorded
  · exact finish settled

theorem execute_expected (careful : Careful service)
    (mutate : ∀ context plan, service.prepare a = .ok context →
      shipped.resolve a.snapshot service.event = .ok plan →
      Expected (service.mutate plan a context w.nextId)) :
    Expected (service.execute request w a) := by
  unfold InquiryAction.execute
  refine .bind (careful.prepare a) fun context prepared => ?_
  refine .bind (plan_expected careful context) fun plan planned => ?_
  refine .bind (checkGuards_expected careful context plan) fun _ _ => ?_
  refine withIdempotencyRecord_expected fun pending => ?_
  exact .bind (write_expected careful (mutate context plan prepared (plan_ok.1 planned).1))
    fun _ _ => .ok _

theorem perform_expected (careful : Careful service)
    (mutate : ∀ a, w.aggregate service.inquiry = some a → ∀ context plan,
      service.prepare a = .ok context → shipped.resolve a.snapshot service.event = .ok plan →
      Expected (service.mutate plan a context w.nextId)) :
    Expected (service.perform request w) := by
  unfold InquiryAction.perform
  split
  · exact .error nofun
  · rename_i a locked
    split
    · exact replay_expected _ _
    · exact execute_expected careful (mutate a (Option.filter_eq_some_iff.1 locked).1)

/-! ### The services -/

theorem assigned_careful {consultant : User} {inquiry : Nat} {operation : AssignedAction} :
    Careful (operation.toInquiryAction settings d request consultant inquiry) where
  prepare _ := .ok _
  conflict _ _ := nofun
  unresolved := nofun
  guardFailure := guardFailure_expected (fun _ => nofun) fun _ => nofun
  settle _ := .ok _
  finish plan a b resource := by
    change Expected (AssignedAction.recordVisitAction request plan a b resource)
    unfold AssignedAction.recordVisitAction
    split
    · split
      · exact recordVisitHistory_expected _
      · exact raised_expected (by decide)
      · exact raised_expected (by decide)
      · exact .error nofun
      · exact .error nofun
    · exact .ok _

theorem lockHandling_expected : Expected (ResolutionService.lockHandling a) := by
  unfold ResolutionService.lockHandling
  split
  · exact .error nofun
  · exact .ok _

theorem resolution_careful {inquiry version : Nat} {config : ActionConfig}
    {body : List (String × Value)} {lock : Inquiry → Bool}
    {prepare : Aggregate → Except Failure ActionContext}
    {domainResults : Aggregate → ActionContext → List (GuardId × Bool)}
    {mutate : Plan → Aggregate → ActionContext → Nat → Except Failure (Aggregate × Resource)}
    {changeReason : ActionContext → Option String} (h : ∀ a, Expected (prepare a)) :
    Careful (ResolutionService.execute settings d request inquiry version config body lock prepare
      domainResults mutate changeReason) where
  prepare := h
  conflict _ _ := nofun
  unresolved := nofun
  guardFailure := guardFailure_expected (fun _ => nofun) fun _ => nofun
  settle _ := .ok _
  finish _ _ _ _ := .ok _

theorem cancelActiveAiRuns_expected (now : Instant) : Expected (cancelActiveAiRuns now a) := by
  unfold cancelActiveAiRuns
  refine .bind (.mapM fun run _ => ?_) fun _ _ => .ok _
  unfold cancelRun
  split
  all_goals first
    | exact save_expected _ (by decide)
    | exact .ok _

theorem IsService.careful (is : IsService settings d request service) : Careful service := by
  cases is with
  | submitSymptom inquiry version | submitAnswers inquiry version answers
  | requestConsultation inquiry version =>
      exact ⟨fun _ => .ok _, fun _ _ => nofun, nofun,
        guardFailure_expected (fun _ => nofun) fun _ => nofun, fun _ => .ok _,
        fun _ _ _ _ => .ok _⟩
  | cancel inquiry version cancellation =>
      exact ⟨fun _ => .ok _, fun _ _ => nofun, nofun,
        guardFailure_expected (fun _ => nofun) fun _ => nofun,
        fun _ => cancelActiveAiRuns_expected request.now, fun _ _ _ _ => .ok _⟩
  | assigned consultant inquiry is => exact assigned_careful
  | submitFeedback inquiry version comment =>
      exact resolution_careful fun _ => lockHandling_expected
  | reportUnresolved inquiry version reasonCode comment =>
      exact resolution_careful fun _ => lockHandling_expected
  | resumeConsultation inquiry version => exact resolution_careful fun _ => .ok _
  | finalize inquiry version finalNote => exact resolution_careful fun _ => lockHandling_expected
  | claim inquiry version =>
      refine ⟨fun a => ?_, fun _ _ => nofun, nofun,
        guardFailure_expected (fun _ => nofun) fun _ => nofun, fun _ => .ok _,
        fun _ _ _ _ => .ok _⟩
      dsimp only [ConsultationClaimService.action]
      split
      · exact .ok _
      · exact .error nofun

/-! ### The mutations -/

theorem asks_source : ∀ rule ∈ shipped.transitions, asksConsultation rule.event = true →
    ∀ source, rule.source = some source → stage source ≠ .desk := by
  decide

theorem Coupled.last {limit : Nat} {c : Stored Consultation} (coupled : Coupled limit a)
    (latest : a.latestConsultation = some c) : lastConsultation a.consultations = some c.1 := by
  obtain ⟨older, split⟩ := coupled.desk.latest_some latest
  rw [split, lastConsultation_concat]

/-- Where an event may ask for a consultation, none is running. -/
theorem Coupled.idle {limit : Nat} {event : EventCode} {plan : Plan} (coupled : Coupled limit a)
    (resolved : shipped.resolve a.snapshot event = .ok plan)
    (asks : asksConsultation event = true) :
    ∀ c, a.latestConsultation = some c → c.1.status ≠ .inProgress := by
  intro c latest running
  obtain ⟨listed, fires, source, _⟩ := resolve_ok resolved
  have away := asks_source plan.rule listed (by rw [fires]; exact asks) _ source
  have stands := coupled.stands
  rw [coupled.last latest] at stands
  cases found : stage a.q.status with
  | intake =>
      rw [found] at stands
      cases stands
  | queue =>
      rw [found] at stands
      have pending := stands c.1 rfl
      rw [running] at pending
      cases pending
  | desk => exact away found
  | done =>
      rw [found] at stands
      obtain ⟨d, same, completed⟩ := stands
      cases same
      rw [running] at completed
      cases completed
  | closed =>
      rw [found] at stands
      have inactive := stands c.1 rfl
      rw [running] at inactive
      cases inactive

theorem onConsultation_expected {context : ActionContext}
    {mutation : Stored Consultation → Except Failure (Aggregate × Stored Consultation)}
    (h : ∀ c, context.consultation = some c → Expected (mutation c)) :
    Expected (ConsultationService.onConsultation context mutation) := by
  unfold ConsultationService.onConsultation
  split
  · exact raised_expected (by decide)
  · rename_i c found
    exact .map (h c found)

theorem onVisit_expected {plan : Plan} {context : ActionContext}
    {mutation : Stored Visit → VisitStatus → Except Failure (Aggregate × Stored Visit)}
    (h : ∀ v status, Expected (mutation v status)) :
    Expected (VisitService.onVisit plan context mutation) := by
  unfold VisitService.onVisit
  split
  · exact .map (h _ _)
  · exact raised_expected (by decide)

theorem visitUpdate_expected (v : Visit) : Expected (VisitRepository.update a v) :=
  .bind (save_expected v (by decide)) fun _ _ => .ok _

theorem onHandling_expected {context : ActionContext}
    {mutation : CompletedHandling → Except Failure (Aggregate × Resource)}
    (h : ∀ handling, Expected (mutation handling)) :
    Expected (ResolutionService.onHandling context mutation) := by
  unfold ResolutionService.onHandling
  split
  · exact raised_expected (by decide)
  · exact h _

theorem createFeedback_expected {handling : CompletedHandling} {id version : Nat}
    {status : ResolutionStatus} {comment unresolvedReason : Option String} {next : NextAction}
    {confirmedAt : Option Instant} {now : Instant} :
    Expected (ResolutionRepository.createFeedback a handling id version status comment
      unresolvedReason next confirmedAt now) := by
  unfold ResolutionRepository.createFeedback
  refine .bind ?_ fun channel _ => ?_
  · unfold ResolutionRepository.channel
    split
    all_goals first
      | exact .ok _
      | exact raised_expected (by decide)
  · exact .bind (save_expected _ (by decide)) fun _ _ => .ok _

theorem answerQuestions_expected {actor : User} {answers : List FollowUpAnswerItem}
    (questions : List InquiryQA) : Expected (answerQuestions d actor answers a questions) := by
  induction questions generalizing a with
  | nil => exact .ok _
  | cons question rest ih =>
      unfold answerQuestions
      split
      · exact raised_expected (by decide)
      · refine .bind ?_ fun answered _ => ih
        unfold createFollowupAnswer
        dsimp only
        split
        · exact .ok _
        · exact raised_expected (by decide)

theorem IsAssigned.expected {consultant : User} {inquiry : Nat} {operation : AssignedAction}
    {plan : Plan} {context : ActionContext} {fresh : Nat}
    (is : IsAssigned settings d request consultant inquiry operation) :
    Expected (operation.mutate plan a context fresh) := by
  cases is with
  | start version =>
      refine .map ?_
      unfold ConsultationRepository.start
      split
      · exact .bind (save_expected _ (by decide)) fun _ _ => .ok _
      · exact update_expected _
  | saveSummary version values => exact onConsultation_expected fun _ _ => update_expected _
  | confirmSummary version => exact onConsultation_expected fun _ _ => update_expected _
  | complete version => exact onConsultation_expected fun _ _ => update_expected _
  | requestReview version reason => exact onConsultation_expected fun _ _ => update_expected _
  | createRequest version values sent =>
      dsimp only [VisitService.createRequest, VisitService.executeInquiryAction]
      split
      · exact raised_expected (by decide)
      · refine .map ?_
        unfold VisitRepository.create
        refine .bind (save_expected _ (by decide)) fun _ _ => ?_
        split
        · exact raised_expected (by decide)
        · exact .ok _
  | markNotNeeded version reason => exact onConsultation_expected fun _ _ => update_expected _
  | updateSchedule visit version values =>
      refine onVisit_expected fun v status => ?_
      split
      · exact raised_expected (by decide)
      · exact visitUpdate_expected _
  | confirm visit version =>
      refine onVisit_expected fun v status => ?_
      unfold VisitRepository.confirm
      split
      · exact raised_expected (by decide)
      · exact visitUpdate_expected _

theorem IsService.expected {limit : Nat} {plan : Plan} {context : ActionContext} {fresh : Nat}
    (is : IsService settings d request service) (coupled : Coupled limit a)
    (prepared : service.prepare a = .ok context)
    (resolved : shipped.resolve a.snapshot service.event = .ok plan) :
    Expected (service.mutate plan a context fresh) := by
  cases is with
  | submitSymptom inquiry version => exact .ok _
  | submitAnswers inquiry version answers => exact .map (answerQuestions_expected _)
  | requestConsultation inquiry version =>
      cases prepared
      refine .bind (request_expected (coupled.idle resolved rfl)) ?_
      rintro ⟨requested, row⟩ _
      refine .bind (attachToLatest_expected row) ?_
      rintro ⟨attached, final⟩ _
      exact .ok _
  | cancel inquiry version cancellation => exact .map (cancelActive_expected coupled.desk _)
  | assigned consultant inquiry is => exact is.expected
  | submitFeedback inquiry version comment =>
      exact onHandling_expected fun _ => .map createFeedback_expected
  | reportUnresolved inquiry version reasonCode comment =>
      exact onHandling_expected fun _ => .map createFeedback_expected
  | resumeConsultation inquiry version =>
      exact .map (request_expected (coupled.idle resolved rfl))
  | finalize inquiry version finalNote => exact .ok _
  | claim inquiry version =>
      refine onConsultation_expected fun c found => ?_
      unfold ConsultationRepository.claim
      split
      · rename_i taken
        dsimp only [ConsultationClaimService.action] at prepared
        split at prepared
        · rename_i claimable
          cases prepared
          have latest : a.latestConsultation = some c := found
          unfold ConsultationClaimService.isClaimable at claimable
          rw [ConsultationRepository.lockLatest, latest, Option.any_some, Bool.and_eq_true,
            Bool.and_eq_true, Bool.and_eq_true, Bool.and_eq_true, Bool.and_eq_true,
            decide_eq_true_eq, decide_eq_true_eq, decide_eq_true_eq, Option.isNone_iff_eq_none,
            Option.isNone_iff_eq_none, Option.isNone_iff_eq_none] at claimable
          obtain ⟨_, ⟨waiting, free⟩, fresh⟩ := claimable
          rw [free, fresh] at taken
          rcases taken with status | h | h
          · exact absurd waiting status
          · cases h
          · cases h
        · cases prepared
      · exact update_expected _

end

end WaterCare.Runtime
