import WaterCare.Runtime.Turns
import WaterCare.Runtime.Updates

/-!
The repetition of a request. A stored answer is there for good, and a repetition reaches it as long
as the filter of its operation lets the actor through.
-/

namespace WaterCare.Runtime
open Machine Workflow Store Service Py Analysis

/-! ### Stored answers stay -/

/-- Every stored answer of the first database is in the second one. -/
def KeepsAnswers (w t : World) : Prop :=
  ∀ scope record, w.records.lookup scope = some record → t.records.lookup scope = some record

section
variable {settings : Settings} {request : Request} {w t : World} {answer : Answer}
  {scope : Scope} {x y : IdempotencyRecord}

theorem keeps_of_same (same : t.records = w.records) : KeepsAnswers w t := by
  intro scope record stored
  rw [same]
  exact stored

/-- A record that is created and completed takes no other one away. -/
theorem keeps_of_completed (free : w.records.lookup scope = none)
    (written : t.records = (w.records.insert scope x).insert scope y) : KeepsAnswers w t := by
  intro other record stored
  have apart : other ≠ scope := by
    intro same
    rw [same, free] at stored
    cases stored
  rw [written, AList.lookup_insert_ne apart, AList.lookup_insert_ne apart]
  exact stored

/-- The record a committed service leaves. -/
theorem committed_records {service : InquiryAction} {context : ActionContext} {b : Aggregate}
    {resource : Resource} (same : (t, answer) = committed service request w context b resource) :
    t.records = (w.records.insert (service.scope request)
        ⟨service.requestHash, none, [], none, none⟩).insert (service.scope request)
      ⟨service.requestHash, some 200, service.respond b context resource,
        some (resource.publicId service.inquiry), some request.now⟩ := by
  rw [(Prod.mk.inj same).1]
  rfl

theorem Commits.keeps {service : InquiryAction} {context : ActionContext} {plan : Plan}
    {a b : Aggregate} {resource : Resource}
    (commits : Commits service request w a context plan b resource)
    (same : (t, answer) = committed service request w context b resource) : KeepsAnswers w t :=
  keeps_of_completed commits.unrecorded (committed_records same)

theorem perform_keeps {service : InquiryAction}
    (h : service.perform request w = .ok (t, answer)) : KeepsAnswers w t := by
  rcases perform_ok h with ⟨still, _⟩ | ⟨_, _, _, _, _, commits, same⟩
  · rw [still]
    exact keeps_of_same rfl
  · exact commits.keeps same

/-- The record a new inquiry leaves. -/
theorem createInquiry_records {operation : OperationId} {requestHash : String} {q : Inquiry}
    {event : EventCode} {session : Option SessionAggregate}
    (h : createInquiry request operation requestHash q event session w = .ok (t, answer)) :
    ∃ body, answer = .fresh 201 body ∧ body.isEmpty = false ∧
      t.records = w.records.insert (request.scope operation)
        ⟨requestHash, some 201, body, some q.id, some request.now⟩ := by
  have ⟨b, linked, _, links, same⟩ := createInquiry_ok h
  have ⟨_, records, _, _⟩ := linkOptional_ok links
  have ⟨written, fresh⟩ := Prod.mk.inj same
  refine ⟨_, fresh, rfl, ?_⟩
  rw [written, ← records]
  rfl

theorem operation_keeps {operation : Operation}
    (h : operation.perform settings request w = .ok (t, answer)) : KeepsAnswers w t := by
  have replays (still : t = w) : KeepsAnswers w t := by
    rw [still]
    exact keeps_of_same rfl
  cases operation with
  | start values =>
      unfold Operation.perform startInquiry at h
      dsimp only at h
      split at h
      · cases h
      · split at h
        · exact replays (replay_ok h).1
        · rename_i unrecorded
          rw [withIdempotencyRecord_new unrecorded] at h
          obtain ⟨_, _, created⟩ := bind_eq_ok.1 h
          obtain ⟨_, _, _, written⟩ := createInquiry_records created
          exact keeps_of_completed unrecorded written
  | register values =>
      unfold Operation.perform registerPhoneInquiry at h
      dsimp only at h
      split at h
      · cases h
      · split at h
        · exact replays (replay_ok h).1
        · rename_i unrecorded
          split at h
          · cases h
          · split at h
            · cases h
            · rw [withIdempotencyRecord_new unrecorded] at h
              obtain ⟨_, _, _, written⟩ := createInquiry_records h
              exact keeps_of_completed unrecorded written
  | act action =>
      unfold Operation.perform at h
      dsimp only at h
      split at h
      · cases h
      · exact perform_keeps h
  | createActionResult inquiry version values =>
      unfold Operation.perform ActionResultService.create at h
      dsimp only at h
      split at h
      · cases h
      · split at h
        · exact replays (replay_ok h).1
        · rename_i unrecorded
          split_ifs at h
          split at h
          · cases h
          · rw [withIdempotencyRecord_new unrecorded] at h
            obtain ⟨_, _, written⟩ := bind_eq_ok.1 h
            cases written
            exact keeps_of_completed unrecorded rfl
  | claim inquiry version =>
      rcases claim_ok h with ⟨still, _⟩ | ⟨_, _, _, _, _, commits, same⟩
      · exact replays still
      · exact commits.keeps same
  | decide review values =>
      unfold Operation.perform HumanReviewService.decideHumanReview at h
      dsimp only at h
      split at h
      · cases h
      · split at h
        · exact replays (replay_ok h).1
        · rename_i unrecorded
          unfold HumanReviewService.execute at h
          dsimp only at h
          split_ifs at h
          split at h
          · cases h
          · obtain ⟨_, _, audited⟩ := bind_eq_ok.1 h
            obtain ⟨_, _, moved⟩ := bind_eq_ok.1 audited
            rw [withIdempotencyRecord_new unrecorded] at moved
            obtain ⟨_, _, written⟩ := bind_eq_ok.1 moved
            cases written
            exact keeps_of_completed unrecorded rfl

theorem asConsultant_keeps {consultation : Nat} {action : Nat → Nat → User → AssignedAction}
    (h : SupervisorConsultationService.asConsultant settings request consultation action w =
      .ok t) : KeepsAnswers w t := by
  unfold SupervisorConsultationService.asConsultant at h
  have ⟨_, _, locked⟩ := bind_eq_ok.1 h
  have ⟨⟨_, _, _⟩, _, assigned⟩ := bind_eq_ok.1 locked
  have ⟨_, _, performed⟩ := bind_eq_ok.1 assigned
  have ⟨⟨_, _⟩, ran, same⟩ := bind_eq_ok.1 performed
  cases same
  exact perform_keeps ran

theorem cancelInquiry_keeps {inquiry : Nat} {reason : String}
    (h : SupervisorConsultationService.cancelInquiry settings request inquiry reason w = .ok t) :
    KeepsAnswers w t := by
  unfold SupervisorConsultationService.cancelInquiry at h
  have ⟨_, _, authorized⟩ := bind_eq_ok.1 h
  have ⟨_, _, described⟩ := bind_eq_ok.1 authorized
  split at described
  · cases described
  · have ⟨⟨_, _⟩, ran, same⟩ := bind_eq_ok.1 described
    cases same
    exact perform_keeps ran

theorem reassign_keeps {consultation target : Nat} {reason : String}
    (h : SupervisorConsultationService.reassign settings request consultation target reason w =
      .ok t) : KeepsAnswers w t := by
  unfold SupervisorConsultationService.reassign at h
  have ⟨_, _, authorized⟩ := bind_eq_ok.1 h
  have ⟨_, _, described⟩ := bind_eq_ok.1 authorized
  have ⟨⟨_, _, _⟩, _, locked⟩ := bind_eq_ok.1 described
  dsimp only at locked
  split_ifs at locked
  split at locked
  · cases locked
  · have ⟨_, _, written⟩ := bind_eq_ok.1 locked
    cases written
    exact keeps_of_same rfl

theorem updateDetails_keeps {consultation : Nat} {values : SummaryValues}
    (h : SupervisorConsultationService.updateDetails settings request consultation values w =
      .ok t) : KeepsAnswers w t := by
  unfold SupervisorConsultationService.updateDetails at h
  have ⟨_, _, authorized⟩ := bind_eq_ok.1 h
  have ⟨⟨_, _, _⟩, _, locked⟩ := bind_eq_ok.1 authorized
  have ⟨_, _, assigned⟩ := bind_eq_ok.1 locked
  split_ifs at assigned
  · cases assigned
    exact keeps_of_same rfl
  · exact asConsultant_keeps assigned

theorem cancelConsultation_keeps {consultation : Nat} {reason : String}
    (h : SupervisorConsultationService.cancelConsultation settings request consultation reason w =
      .ok t) : KeepsAnswers w t := by
  unfold SupervisorConsultationService.cancelConsultation at h
  have ⟨_, _, authorized⟩ := bind_eq_ok.1 h
  have ⟨_, _, described⟩ := bind_eq_ok.1 authorized
  have ⟨⟨_, _, _⟩, _, found⟩ := bind_eq_ok.1 described
  have ⟨_, _, latest⟩ := bind_eq_ok.1 found
  split_ifs at latest
  exact cancelInquiry_keeps latest

theorem supervise_keeps {operation : SupervisorOperation}
    (h : operation.perform settings request w = .ok t) : KeepsAnswers w t := by
  unfold SupervisorOperation.perform at h
  cases operation with
  | reassign consultation target reason => exact reassign_keeps h
  | start consultation => exact asConsultant_keeps h
  | updateDetails consultation values => exact updateDetails_keeps h
  | confirm consultation => exact asConsultant_keeps h
  | complete consultation => exact asConsultant_keeps h
  | cancelInquiry inquiry reason => exact cancelInquiry_keeps h
  | cancelConsultation consultation reason => exact cancelConsultation_keeps h

theorem internal_keeps {now : Instant} {step : InternalStep} (h : step.perform now w = .ok t) :
    KeepsAnswers w t := by
  refine keeps_of_same ?_
  cases step with
  | createRun inquiry analysis =>
      unfold InternalStep.perform at h
      dsimp only at h
      split at h
      · cases h
      · split_ifs at h
        have ⟨_, _, written⟩ := bind_eq_ok.1 h
        cases written
        rfl
  | onRun inquiry run step =>
      unfold InternalStep.perform at h
      dsimp only at h
      split at h
      · cases h
      · have ⟨_, _, written⟩ := bind_eq_ok.1 h
        cases written
        rfl
  | persistHandoff inquiry payload idempotencyKey correlationId checkEvidence =>
      have ⟨_, _, delivers⟩ := persist_delivers h
      cases delivers with
      | replayed _ _ _ still => rw [still]
      | attached _ _ _ _ written =>
          rw [written]
          rfl
      | created _ _ written =>
          rw [written]
          rfl
  | markResumeFailed inquiry review =>
      unfold InternalStep.perform at h
      dsimp only at h
      split at h
      · cases h
      · have ⟨_, _, written⟩ := bind_eq_ok.1 h
        cases written
        rfl

/-- No step takes a stored answer away. -/
theorem step_keeps {e : Event} (step : Step settings w e t) : KeepsAnswers w t := by
  rcases step_cases step with ⟨answered, performed, _⟩ | ⟨same, _⟩
  · obtain ⟨action, _⟩ := e
    cases action with
    | request request operation =>
        have ⟨pair, ran, same⟩ := map_eq_ok.1 performed
        have ⟨written, _⟩ := Prod.mk.inj same
        rw [← written]
        exact operation_keeps ran
    | supervise request operation =>
        have ⟨_, ran, same⟩ := map_eq_ok.1 performed
        have ⟨written, _⟩ := Prod.mk.inj same
        rw [← written]
        exact supervise_keeps ran
    | internal now step =>
        have ⟨_, ran, same⟩ := map_eq_ok.1 performed
        have ⟨written, _⟩ := Prod.mk.inj same
        rw [← written]
        exact internal_keeps ran
    | administer now directory =>
        cases performed
        exact keeps_of_same rfl
  · rw [same]
    exact keeps_of_same rfl

theorem run_keeps {labels : List Event} (run : Run (Step settings) w labels t) :
    KeepsAnswers w t := by
  induction run with
  | refl => exact keeps_of_same rfl
  | snoc _ last ih => exact fun scope record stored => step_keeps last _ _ (ih _ _ stored)

end
/-! ### A visit stays with its inquiry -/

/-- The inquiry has a visit with the identifier. -/
def HasVisit (w : World) (inquiry visit : Nat) : Prop :=
  ∃ a, w.aggregate inquiry = some a ∧ ∃ v ∈ a.visits, v.1.id = visit

/-- The identifiers of the visits afterwards: those before, and maybe the first free one. -/
structure GrowsVisits (limit used : Nat) (vs vs' : List (Stored Visit)) : Prop where
  kept : ∀ v ∈ vs, ∃ v' ∈ vs', v'.1.id = v.1.id
  added : ∀ v' ∈ vs', (∃ v ∈ vs, v.1.id = v'.1.id) ∨ v'.1.id = limit ∧ 1 ≤ used

/-- Every visit has an identifier of its own, which is not free any more. -/
structure VisitTable (w : World) : Prop where
  used : ∀ i k, HasVisit w i k → k < w.nextId
  unique : ∀ i j k, HasVisit w i k → HasVisit w j k → i = j

section
variable {settings : Settings} {w t : World} {act : Action} {a b : Aggregate}
  {inquiry used limit k : Nat} {now : Instant} {event : EventCode}

theorem Visited.grows {vs vs' : List (Stored Visit)} (visited : Visited limit now event vs vs') :
    GrowsVisits limit 1 vs vs' := by
  cases visited with
  | kept => exact ⟨fun v mem => ⟨v, mem, rfl⟩, fun v mem => .inl ⟨v, mem, rfl⟩⟩
  | created id =>
      refine ⟨fun v mem => ⟨v, List.mem_append_left _ mem, rfl⟩, fun v mem => ?_⟩
      rcases List.mem_append.1 mem with old | new
      · exact .inl ⟨v, old, rfl⟩
      · rw [List.mem_singleton.1 new]
        exact .inr ⟨id, Nat.le_refl 1⟩
  | @updated event vs v row listed id =>
      have same := map_replaceRow (fun v : Stored Visit => v.1.id) row vs
      refine ⟨fun x mem => ?_, fun x mem => .inl ?_⟩
      · have there : x.1.id ∈ vs.map fun v => v.1.id := List.mem_map_of_mem mem
        rw [← same] at there
        have ⟨y, listed, own⟩ := List.mem_map.1 there
        exact ⟨y, listed, own⟩
      · have there : x.1.id ∈ (replaceRow (·.1.id) row vs).map fun v => v.1.id :=
          List.mem_map_of_mem mem
        rw [same] at there
        have ⟨y, listed, own⟩ := List.mem_map.1 there
        exact ⟨y, listed, own⟩

theorem writesVisit_analysis (analysis : isAnalysis event = true) : writesVisit event = false := by
  cases event <;> first | rfl | cases analysis

theorem attachHandoff_visits {h : ConsultationHandoff}
    (attached : ConsultationHandoffRepository.attachHandoff a h = .ok b) : b.visits = a.visits := by
  rcases attachHandoff_ok attached with ⟨_, same⟩ | ⟨_, _, _, _, _, _, _, same⟩
  · rw [same]
  · rw [same]
    rfl

/-- A write keeps the visits of its inquiry, and may add one under the first free identifier. -/
theorem Writes.visits (desk : Desk w.nextId a.consultations)
    (writes : Writes settings w act inquiry a b used) :
    GrowsVisits w.nextId used a.visits b.visits := by
  have still (same : b.visits = a.visits) : GrowsVisits w.nextId used a.visits b.visits := by
    rw [same]
    exact ⟨fun v mem => ⟨v, mem, rfl⟩, fun v mem => .inl ⟨v, mem, rfl⟩⟩
  have quiet {event : EventCode} {now : Instant}
      (visited : Visited w.nextId now event a.visits b.visits) (none_ : writesVisit event = false) :
      GrowsVisits w.nextId used a.visits b.visits := still (visited.kept_of none_)
  cases writes with
  | service serves commits => exact (serves.isService.transition commits desk).visits.grows
  | actionResult reports =>
      have written := reports.written
      unfold ActionResultService.write at written
      have ⟨_, _, saved⟩ := bind_eq_ok.1 written
      have ⟨_, _, last⟩ := bind_eq_ok.1 saved
      cases last
      exact still rfl
  | decision decides =>
      refine quiet (decision_transition decides desk).visits ?_
      rcases eventCode_cases _ _ with approved | ⟨_, plain, _⟩
      · rw [approved]
        rfl
      · exact plain.1
  | reassignment reassigns =>
      have written := reassigns.written
      unfold SupervisorConsultationService.writeReassignment at written
      have ⟨_, _, saved⟩ := bind_eq_ok.1 written
      have ⟨_, _, last⟩ := bind_eq_ok.1 saved
      cases last
      exact still rfl
  | createRun _ created =>
      have ⟨_, same, _⟩ := createRun_ok created
      rw [same] at still
      rw [same]
      exact still rfl
  | runStep _ _ performed =>
      rcases RunStep.moved desk performed with same | ⟨event, plan, analysis, move, _⟩
      · exact still same.visits
      · exact quiet move.visits (writesVisit_analysis analysis)
  | handoff _ row attached =>
      have attaches := attachHandoff_visits attached
      rcases row with ⟨same, _⟩ | ⟨_, same, _⟩
      · exact still (attaches.trans (congrArg (·.visits) same))
      · exact still (attaches.trans (congrArg (·.visits) same))
  | resumeFailed _ _ failed =>
      have ⟨_, _, _, same⟩ := markResumeFailed_ok failed
      rw [same] at still
      rw [same]
      exact still rfl

theorem Opens.visits (opens : Opens w act b) : b.visits = [] := by
  cases opens with
  | start _ opened | register _ _ _ opened =>
      have ⟨_, _, _, _, is⟩ := opened
      rw [is]
      rfl

/-- A step keeps every visit with its inquiry, and may add one under the first free identifier. -/
theorem Effect.visits (desks : ∀ i x, w.aggregate i = some x → Desk w.nextId x.consultations)
    (below : ∀ i x, w.aggregate i = some x → i < w.nextId) (effect : Effect settings w act t) :
    (∀ i k, HasVisit w i k → HasVisit t i k) ∧ w.nextId ≤ t.nextId ∧
      ∃ i, ∀ j k, HasVisit t j k → HasVisit w j k ∨ j = i ∧ k = w.nextId ∧ w.nextId < t.nextId := by
  cases effect with
  | untouched same next =>
      have still (i : Nat) : t.aggregate i = w.aggregate i := by
        rw [World.aggregate, same]
        rfl
      refine ⟨?_, next.ge, 0, ?_⟩
      · rintro i k ⟨a, there, visit⟩
        exact ⟨a, (still i).trans there, visit⟩
      · rintro j k ⟨a, there, visit⟩
        exact .inl ⟨a, (still j).symm.trans there, visit⟩
  | opened b opens inserted next =>
      have other {i : Nat} (apart : i ≠ w.nextId) : t.aggregate i = w.aggregate i := by
        rw [World.aggregate, inserted]
        exact AList.lookup_insert_ne apart
      refine ⟨?_, by omega, 0, ?_⟩
      · rintro i k ⟨a, there, visit⟩
        have apart := Nat.ne_of_lt (below i a there)
        exact ⟨a, (other apart).trans there, visit⟩
      · rintro j k ⟨a, there, visit⟩
        refine .inl ?_
        by_cases new : j = w.nextId
        · subst new
          rw [World.aggregate, inserted, AList.lookup_insert] at there
          cases there
          obtain ⟨v, mem, _⟩ := visit
          rw [opens.visits] at mem
          exact absurd mem List.not_mem_nil
        · exact ⟨a, (other new).symm.trans there, visit⟩
  | wrote i a b used writes inserted next =>
      have there : t.aggregate i = some b := by
        rw [World.aggregate, inserted]
        exact AList.lookup_insert _
      have other {j : Nat} (apart : j ≠ i) : t.aggregate j = w.aggregate j := by
        rw [World.aggregate, inserted]
        exact AList.lookup_insert_ne apart
      obtain ⟨kept, added⟩ := writes.visits (desks _ _ writes.found)
      refine ⟨?_, by omega, i, ?_⟩
      · rintro j k ⟨x, found, v, mem, id⟩
        by_cases own : j = i
        · subst own
          cases Option.some.inj (writes.found.symm.trans found)
          obtain ⟨v', mem', same⟩ := kept v mem
          exact ⟨b, there, v', mem', same.trans id⟩
        · exact ⟨x, (other own).trans found, v, mem, id⟩
      · rintro j k ⟨x, found, v, mem, id⟩
        by_cases own : j = i
        · subst own
          cases Option.some.inj (there.symm.trans found)
          rcases added v mem with ⟨v', mem', same⟩ | ⟨new, some_⟩
          · exact .inl ⟨a, writes.found, v', mem', same.trans id⟩
          · exact .inr ⟨rfl, id.symm.trans new, by omega⟩
        · exact .inl ⟨x, (other own).symm.trans found, v, mem, id⟩

theorem VisitTable.step {i : Nat} (table : VisitTable w) (le : w.nextId ≤ t.nextId)
    (added : ∀ j k, HasVisit t j k →
      HasVisit w j k ∨ j = i ∧ k = w.nextId ∧ w.nextId < t.nextId) : VisitTable t := by
  refine ⟨fun j k has => ?_, fun j l k has has' => ?_⟩
  · rcases added j k has with old | ⟨_, _, _⟩
    · have := table.used j k old
      omega
    · omega
  · rcases added j k has with old | ⟨own, new, _⟩
    · rcases added l k has' with old' | ⟨_, new', _⟩
      · exact table.unique j l k old old'
      · have := table.used j k old
        omega
    · rcases added l k has' with old' | ⟨own', _, _⟩
      · have := table.used l k old'
        omega
      · exact own.trans own'.symm

end

section
variable {settings : Settings} {start w t : World} {labels more : List Event} {inquiry visit : Nat}

theorem reachable_visits (initial : Initial start) (run : Run (Step settings) start labels w) :
    VisitTable w := by
  induction run with
  | refl =>
      have nothing {i k : Nat} {q : Prop} (has : HasVisit start i k) : q := by
        obtain ⟨_, there, _⟩ := has
        rw [World.aggregate, initial.1] at there
        cases there
      exact ⟨fun _ _ has => nothing has, fun _ _ _ has => nothing has⟩
  | @snoc before s t e earlier last ih =>
      have allowed := Run.allowed earlier
      obtain ⟨_, le, i, added⟩ := (step_effect last).visits
        (fun _ _ found => (reachable_coupled initial allowed found).desk)
        (fun _ _ found => (reachable_runs initial allowed found).below)
      exact ih.step le added

/-- A visit stays with its inquiry. -/
theorem later_visit (initial : Initial start) (first : Run (Step settings) start labels w)
    (rest : Run (Step settings) w more t) (has : HasVisit w inquiry visit) :
    HasVisit t inquiry visit := by
  induction rest with
  | refl => exact has
  | snoc earlier last ih =>
      have allowed := Run.allowed (first.trans earlier)
      have ⟨kept, _⟩ := (step_effect last).visits
        (fun _ _ found => (reachable_coupled initial allowed found).desk)
        (fun _ _ found => (reachable_runs initial allowed found).below)
      exact kept _ _ ih

theorem inquiryOfVisit_has (named : inquiryOfVisit w visit = some inquiry) :
    HasVisit w inquiry visit := by
  have ⟨⟨i, a⟩, found, own⟩ := Option.map_eq_some_iff.1 named
  have holds := List.find?_some found
  have ⟨v, mem, is⟩ := List.any_eq_true.1 holds
  cases own
  exact ⟨a, AList.mem_lookup_iff.2 (List.mem_of_find?_eq_some found), v, mem, of_decide_eq_true is⟩

theorem VisitTable.inquiryOfVisit (table : VisitTable w) (has : HasVisit w inquiry visit) :
    Service.inquiryOfVisit w visit = some inquiry := by
  cases named : Service.inquiryOfVisit w visit with
  | none =>
      have ⟨a, there, v, mem, is⟩ := has
      have nobody := ownerOf_none named there
      rw [List.any_eq_false] at nobody
      exact absurd (decide_eq_true is) (nobody v mem)
  | some other => rw [table.unique _ _ _ (inquiryOfVisit_has named) has]

/-- The inquiry a visit is found under is the same for good. -/
theorem inquiryOfVisit_later (initial : Initial start) (first : Run (Step settings) start labels w)
    (rest : Run (Step settings) w more t) (named : inquiryOfVisit w visit = some inquiry) :
    inquiryOfVisit t visit = some inquiry :=
  (reachable_visits initial (first.trans rest)).inquiryOfVisit
    (later_visit initial first rest (inquiryOfVisit_has named))

end
/-! ### What a repetition is asked -/

/-- The start of an inquiry and the operations of an assigned consultant, with the identifiers under
which their answers are stored. -/
def repeatableId : Operation → Option OperationId
  | .start _ => some .startInquiry
  | .act (.startConsultation _ _) => some .startConsultation
  | .act (.saveSummary _ _ _) => some .updateConsultationSummary
  | .act (.confirmSummary _ _) => some .confirmConsultationSummary
  | .act (.completeConsultation _ _) => some .completeConsultation
  | .act (.requestVisitReview _ _ _) => some .requestVisitReview
  | .act (.createVisitRequest _ _ _ _) => some .createVisitRequest
  | .act (.markVisitNotNeeded _ _ _) => some .markVisitNotNeeded
  | .act (.updateVisitSchedule _ _ _) => some .updateVisitSchedule
  | .act (.confirmVisit _ _) => some .confirmVisit
  | .act _ | .register _ | .createActionResult _ _ _ | .claim _ _ | .decide _ _ => none

/-- The inquiry an action is about. -/
def targetOf (w : World) : ActionRequest → Option Nat
  | .submitSymptom inquiry _ | .submitAnswers inquiry _ _ | .requestConsultation inquiry _
  | .cancelInquiry inquiry _ _ | .startConsultation inquiry _ | .saveSummary inquiry _ _
  | .confirmSummary inquiry _ | .completeConsultation inquiry _ | .requestVisitReview inquiry _ _
  | .createVisitRequest inquiry _ _ _ | .markVisitNotNeeded inquiry _ _
  | .submitFeedback inquiry _ _ | .reportUnresolved inquiry _ _ _ | .resumeConsultation inquiry _
  | .finalizeInquiry inquiry _ _ => some inquiry
  | .updateVisitSchedule visit _ _ | .confirmVisit visit _ => inquiryOfVisit w visit

/-- The filter before the stored answer lets the actor through: the subscription is active and the
actor's own, or the inquiry is assigned to the actor. -/
def Admits (w : World) (actor : User) : Operation → Prop
  | .start values =>
      (findActiveOwnedSubscription w.directory actor values.subscriptionId).isSome = true
  | .act action => ∃ inquiry a, targetOf w action = some inquiry ∧ w.aggregate inquiry = some a ∧
      assignedTo w.directory actor a.q = true
  | .register _ | .createActionResult _ _ _ | .claim _ _ | .decide _ _ => False

/-- The canonical request hash. -/
def requestHashOf (settings : Settings) (request : Request) (w : World) :
    Operation → Option String
  | .start values => some (startHash settings values)
  | .act action => (action.action settings request w).map (·.requestHash)
  | .register _ | .createActionResult _ _ _ | .claim _ _ | .decide _ _ => none

section
variable {settings : Settings} {request again : Request} {w t u : World} {action : ActionRequest}
  {operation other : Operation} {id : OperationId} {inquiry : Nat}

/-- The service of an assigned consultant. -/
theorem repeatable_served (is : repeatableId (.act action) = some id)
    (target : targetOf w action = some inquiry) :
    ∃ operation : AssignedAction, action.action settings request w =
        some (assigned settings request w inquiry operation) ∧ operation.operationId = id := by
  cases action with
  | startConsultation | saveSummary | confirmSummary | completeConsultation | requestVisitReview
  | createVisitRequest | markVisitNotNeeded =>
      cases is
      cases target
      exact ⟨_, rfl, rfl⟩
  | updateVisitSchedule visit _ _ | confirmVisit visit _ =>
      cases is
      unfold targetOf at target
      unfold ActionRequest.action
      dsimp only at target ⊢
      rw [target]
      exact ⟨_, rfl, rfl⟩
  | submitSymptom | submitAnswers | requestConsultation | cancelInquiry | submitFeedback
  | reportUnresolved | resumeConsultation | finalizeInquiry => cases is

theorem unserved (missing : targetOf w action = none) :
    action.action settings request w = none := by
  cases action with
  | updateVisitSchedule visit _ _ | confirmVisit visit _ =>
      unfold targetOf at missing
      unfold ActionRequest.action
      dsimp only at missing ⊢
      rw [missing]
      rfl
  | _ => cases missing

/-- The hash of a repetition is the one of the request, if it is about the same inquiry. -/
theorem requestHashOf_same (is : repeatableId operation = some id)
    (target : ∀ action, operation = .act action → ∀ inquiry, targetOf w action = some inquiry →
      targetOf u action = some inquiry)
    (hashed : (requestHashOf settings request w operation).isSome = true) :
    requestHashOf settings again u operation = requestHashOf settings request w operation := by
  cases operation with
  | start values => rfl
  | act action =>
      have same := target action rfl
      cases action with
      | startConsultation | saveSummary | confirmSummary | completeConsultation
      | requestVisitReview | createVisitRequest | markVisitNotNeeded => rfl
      | updateVisitSchedule visit _ _ | confirmVisit visit _ =>
          unfold targetOf at same
          unfold requestHashOf ActionRequest.action at hashed ⊢
          dsimp only at same hashed ⊢
          cases before : inquiryOfVisit w visit with
          | none =>
              rw [before] at hashed
              cases hashed
          | some inquiry =>
              rw [same inquiry before]
              rfl
      | submitSymptom | submitAnswers | requestConsultation | cancelInquiry | submitFeedback
      | reportUnresolved | resumeConsultation | finalizeInquiry => cases is
  | register | createActionResult | claim | decide => cases is

/-- A covered request whose answer is stored replays it, or it is turned away by its filter. -/
theorem repeated {record : IdempotencyRecord} (is : repeatableId other = some id)
    (stored : u.records.lookup (again.scope id) = some record) :
    (¬Admits u again.actor other → other.perform settings again u = .error .notFound) ∧
      (Admits u again.actor other → ∃ hash, requestHashOf settings again u other = some hash ∧
        other.perform settings again u = u.replay record hash) := by
  cases other with
  | start values =>
      cases is
      unfold Admits Operation.perform startInquiry requestHashOf
      dsimp only
      cases owned : findActiveOwnedSubscription u.directory again.actor values.subscriptionId with
      | none => exact ⟨fun _ => rfl, fun admitted => nomatch admitted⟩
      | some subscription =>
          refine ⟨fun refused => absurd rfl refused, fun _ => ⟨_, rfl, ?_⟩⟩
          dsimp only
          rw [stored]
  | act action =>
      unfold Admits requestHashOf Operation.perform
      dsimp only
      cases target : targetOf u action with
      | none =>
          rw [unserved target]
          exact ⟨fun _ => rfl, fun ⟨_, _, named, _⟩ => nomatch named⟩
      | some inquiry =>
          have ⟨operation, served, named⟩ :=
            @repeatable_served settings again u action id inquiry is target
          rw [served]
          dsimp only
          unfold InquiryAction.perform
          have under : (assigned settings again u inquiry operation).scope again =
              again.scope id := congrArg again.scope named
          have on : (assigned settings again u inquiry operation).inquiry = inquiry := rfl
          have locks : (assigned settings again u inquiry operation).lock =
              assignedTo u.directory again.actor := rfl
          rw [under, stored, on, locks]
          dsimp only
          cases found : u.aggregate inquiry with
          | none => exact ⟨fun _ => rfl, fun ⟨_, _, same, there, _⟩ => by
              cases same
              cases found.symm.trans there⟩
          | some a =>
              cases locked : assignedTo u.directory again.actor a.q with
              | false =>
                  rw [Option.filter_some, locked]
                  refine ⟨fun _ => rfl, fun ⟨_, _, same, there, own⟩ => ?_⟩
                  cases same
                  cases Option.some.inj (found.symm.trans there)
                  cases locked.symm.trans own
              | true =>
                  rw [Option.filter_some, locked]
                  exact ⟨fun refused => absurd ⟨inquiry, a, rfl, found, locked⟩ refused,
                    fun _ => ⟨_, rfl, rfl⟩⟩
  | register | createActionResult | claim | decide => cases is

/-- What a committed request leaves in the store. -/
theorem committed_answer {answer : Answer} (is : repeatableId operation = some id)
    (performed : operation.perform settings request w = .ok (t, answer))
    (fresh : answer.replayed = false) :
    ∃ status body hash resource, answer = .fresh status body ∧ body.isEmpty = false ∧
      requestHashOf settings request w operation = some hash ∧
      t.records.lookup (request.scope id) =
        some ⟨hash, some status, body, some resource, some request.now⟩ := by
  have old {q : Prop} {existing : IdempotencyRecord} {hash : String}
      (h : w.replay existing hash = .ok (t, answer)) : q := by
    cases (replay_replayed h).symm.trans fresh
  cases operation with
  | start values =>
      cases is
      unfold Operation.perform startInquiry at performed
      dsimp only at performed
      split at performed
      · cases performed
      · split at performed
        · exact old performed
        · rename_i unrecorded
          rw [withIdempotencyRecord_new unrecorded] at performed
          have ⟨_, _, created⟩ := bind_eq_ok.1 performed
          have ⟨body, given, filled, written⟩ := createInquiry_records created
          refine ⟨201, body, startHash settings values, w.nextId, given, filled, rfl, ?_⟩
          rw [written]
          exact AList.lookup_insert _
  | act action =>
      unfold Operation.perform at performed
      dsimp only at performed
      cases target : targetOf w action with
      | none =>
          rw [unserved target] at performed
          cases performed
      | some inquiry =>
          have ⟨operation, served, named⟩ :=
            @repeatable_served settings request w action id inquiry is target
          rw [served] at performed
          rcases perform_ok performed with ⟨_, replayed⟩ | ⟨a, context, plan, b, resource, _, same⟩
          · cases replayed.symm.trans fresh
          · have ⟨_, given⟩ := Prod.mk.inj same
            refine ⟨200, _, (assigned settings request w inquiry operation).requestHash,
              resource.publicId inquiry, given, rfl, ?_, ?_⟩
            · exact congrArg (Option.map (·.requestHash)) served
            · rw [committed_records same, ← named]
              exact AList.lookup_insert _
  | register | createActionResult | claim | decide => cases is

end
/-! ### Every run -/

/-- Every step by the request leaves the database as it is and has the outcome. -/
def Replies (settings : Settings) (u : World) (request : Request) (operation : Operation)
    (outcome : Except Failure (Option Answer)) : Prop :=
  ∀ e v, Step settings u e v → e.action = .request request operation → v = u ∧ e.outcome = outcome

/-- The conflict of a key that was used for another request. -/
def reusedKey : Failure :=
  IdempotencyRecord.duplicateEvent "동일 Idempotency-Key가 다른 요청에 재사용되었습니다."

section
variable {settings : Settings} {request again : Request} {start w t u : World}
  {labels more : List Event} {e : Event} {operation : Operation} {id : OperationId}

theorem request_performed {answer : Answer}
    (performed : operation.perform settings request w = .ok (t, answer)) :
    (Action.request request operation).perform settings w = .ok (t, some answer) := by
  change Except.map _ (operation.perform settings request w) = _
  rw [performed]
  rfl

theorem replies_ok {answer : Answer}
    (performed : operation.perform settings request u = .ok (u, answer)) :
    Replies settings u request operation (.ok (some answer)) := by
  intro e v step is
  obtain ⟨action, outcome⟩ := e
  cases is
  have ran := request_performed performed
  rcases step_cases step with ⟨_, did, out⟩ | ⟨_, _, failed, _⟩
  · have ⟨same, given⟩ := Prod.mk.inj (Except.ok.inj (did.symm.trans ran))
    exact ⟨same, out.trans (congrArg Except.ok given)⟩
  · cases failed.symm.trans ran

theorem replies_error {failure : Failure}
    (performed : operation.perform settings request u = .error failure) :
    Replies settings u request operation (.error failure) := by
  intro e v step is
  obtain ⟨action, outcome⟩ := e
  cases is
  have ran : (Action.request request operation).perform settings u = .error failure := by
    change Except.map _ (operation.perform settings request u) = _
    rw [performed]
    rfl
  rcases step_cases step with ⟨_, did, _⟩ | ⟨same, _, failed, out⟩
  · cases did.symm.trans ran
  · exact ⟨same, out.trans (congrArg Except.error (Except.error.inj (failed.symm.trans ran)))⟩

/-- The stored answer of a request is replayed to the same hash, any other hash is a conflict. -/
theorem replay_cases {status resource : Nat} {body : Dict} {stored hash : String} {now : Instant}
    (filled : body.isEmpty = false) :
    (hash = stored → u.replay ⟨stored, some status, body, some resource, some now⟩ hash =
      .ok (u, .stored status (assign body (.str "idempotent_replay") (.bool true)))) ∧
    (hash ≠ stored → u.replay ⟨stored, some status, body, some resource, some now⟩ hash =
      .error reusedKey) := by
  refine ⟨fun same => ?_, fun apart => ?_⟩
  · have replays : IdempotencyRecord.replayOrConflict
        ⟨stored, some status, body, some resource, some now⟩ hash = .ok (.stored status
          (assign body (.str "idempotent_replay") (.bool true))) :=
      replayOrConflict_ok.2 ⟨same.symm, filled, now, status, rfl, rfl, rfl⟩
    unfold World.replay
    rw [replays]
    rfl
  · unfold World.replay IdempotencyRecord.replayOrConflict
    rw [if_pos (Ne.symm apart)]
    rfl

/-- A visit of the request stays with its inquiry, so that a repetition has the same hash. -/
theorem requestHashOf_later (initial : Initial start) (first : Run (Step settings) start labels w)
    (rest : Run (Step settings) w more u) (is : repeatableId operation = some id)
    (hashed : (requestHashOf settings request w operation).isSome = true) :
    requestHashOf settings again u operation = requestHashOf settings request w operation := by
  refine requestHashOf_same is (fun action _ inquiry target => ?_) hashed
  cases action with
  | updateVisitSchedule visit _ _ | confirmVisit visit _ =>
      exact inquiryOfVisit_later initial first rest target
  | _ => exact target

/-- After a covered request has committed, whatever else happens, the same actor gets the stored
answer for the same request and a conflict for another one under its key, as long as the filter of
the operation lets the actor through, and is told that nothing was found otherwise. -/
theorem run_retries (initial : Initial start) (first : Run (Step settings) start labels w)
    (step : Step settings w e t) (sent : e.action = .request request operation)
    (covered : repeatableId operation = some id) (commits : e.Commits) :
    ∃ status body, e.outcome = .ok (some (.fresh status body)) ∧
      ∀ more u again, Run (Step settings) t more u → again.actor.id = request.actor.id →
        again.idempotencyKey = request.idempotencyKey →
        (Admits u again.actor operation → Replies settings u again operation
          (.ok (some (.stored status (assign body (.str "idempotent_replay") (.bool true)))))) ∧
        ∀ other, repeatableId other = some id →
          (¬Admits u again.actor other → Replies settings u again other (.error .notFound)) ∧
          (Admits u again.actor other →
            requestHashOf settings again u other ≠ requestHashOf settings request w operation →
            Replies settings u again other (.error reusedKey)) := by
  obtain ⟨action, outcome⟩ := e
  cases sent
  have ⟨answer, performed, fresh⟩ := step_committed step commits
  have ⟨status, body, hash, resource, given, filled, hashed, written⟩ :=
    committed_answer covered performed fresh
  have known : (requestHashOf settings request w operation).isSome = true := by
    rw [hashed]
    rfl
  refine ⟨status, body, ?_, fun more u again rest actor key => ?_⟩
  · have ran := request_performed performed
    rcases step_cases step with ⟨_, did, out⟩ | ⟨_, _, failed, _⟩
    · have same := (Prod.mk.inj (Except.ok.inj (did.symm.trans ran))).2
      rw [out, same, given]
    · cases failed.symm.trans ran
  · have under : again.scope id = request.scope id := by
      unfold Request.scope
      rw [actor, key]
    have stored : u.records.lookup (again.scope id) =
        some ⟨hash, some status, body, some resource, some request.now⟩ := by
      rw [under]
      exact run_keeps rest _ _ written
    refine ⟨fun admitted => ?_, fun other is => ?_⟩
    · have ⟨_, admits⟩ := @repeated settings again u operation id _ covered stored
      have ⟨hash', own, replays⟩ := admits admitted
      have later := @requestHashOf_later settings request again start w u labels _ operation id
        initial first (.trans (.snoc .refl step) rest) covered known
      rw [own, hashed] at later
      refine replies_ok (replays.trans ?_)
      exact (replay_cases filled).1 (Option.some.inj later)
    · have ⟨refuses, admits⟩ := @repeated settings again u other id _ is stored
      refine ⟨fun refused => replies_error (refuses refused), fun admitted apart => ?_⟩
      have ⟨hash', own, replays⟩ := admits admitted
      refine replies_error (replays.trans ((replay_cases filled).2 ?_))
      rw [own, hashed] at apart
      exact fun same => apart (congrArg some same)

end
namespace RetrySample
open Sample

/-- The consultant takes an inquiry on the phone and has a consultation for it. -/
def registered : World := (trace settings world [phoneInquiry 100]).2

/-- The consultant starts the consultation. -/
def starting : Action := send consultant 101 (.act (.startConsultation 10 1))

/-- The supervisor gives the consultation to a colleague. -/
def reassigning : Action := supervise 102 (.reassign 11 3 "absence")

def isNotFound (outcome : Except Failure (Option Answer)) : Bool :=
  outcome matches .error .notFound

theorem registered_run : ∃ labels, Run (Step settings) world labels registered :=
  ⟨_, trace_run (by decide +kernel)⟩

theorem starting_step :
    Step settings registered (eventOf settings registered starting).1
      (eventOf settings registered starting).2 :=
  eventOf_step (by decide +kernel : starting.IsAuthenticated registered)

theorem starting_commits : (eventOf settings registered starting).1.Commits := by
  decide +kernel

/-- The consultation goes on to its end. -/
def continuing : List Action :=
  [ send consultant 102 (.act (.saveSummary 10 2 (summaryOf " valve replaced "
      (some .completedNoVisit)))),
    send consultant 103 (.act (.confirmSummary 10 3)),
    send consultant 104 (.act (.completeConsultation 10 4)) ]

def completed : World := (trace settings (eventOf settings registered starting).2 continuing).2

theorem completed_run :
    ∃ more, Run (Step settings) (eventOf settings registered starting).2 more completed :=
  ⟨_, trace_run (by decide +kernel)⟩

end RetrySample

open RetrySample in
/-- After its consultation is completed the start is answered as it was the first time. -/
theorem run_retries_starting :
    ∃ status body more, (eventOf Sample.settings registered starting).1.outcome =
      .ok (some (.fresh status body)) ∧
      Run (Step Sample.settings) (eventOf Sample.settings registered starting).2 more completed ∧
      (completed.aggregate 10).map (·.q.status) = some .completionPending ∧
      Replies Sample.settings completed (Sample.request Sample.consultant 101)
        (.act (.startConsultation 10 1))
        (.ok (some (.stored status (assign body (.str "idempotent_replay") (.bool true))))) := by
  have ⟨_, run⟩ := registered_run
  have ⟨status, body, answered, repeats⟩ := run_retries Sample.world_initial run starting_step
    eventOf_action rfl starting_commits
  have ⟨more, rest⟩ := completed_run
  refine ⟨status, body, more, answered, rest, by decide +kernel,
    (repeats more completed _ rest rfl rfl).1 ?_⟩
  have assigned : (completed.aggregate 10).map
      (fun a => assignedTo completed.directory Sample.consultant a.q) = some true := by
    decide +kernel
  have ⟨a, found, own⟩ := Option.map_eq_some_iff.1 assigned
  exact ⟨10, a, rfl, found, own⟩

open RetrySample in
/-- The supervisor gives the started consultation to a colleague, and the consultant who has
started it gets no stored answer any more. -/
theorem reassigned_not_replayed :
    ∃ labels w e t reassigned u again v, Run (Step Sample.settings) Sample.world labels w ∧
      Step Sample.settings w e t ∧ e.action = starting ∧ e.Commits ∧
      Step Sample.settings t reassigned u ∧ Step Sample.settings u again v ∧
      again.action = starting ∧ again.outcome = .error .notFound := by
  obtain ⟨labels, run⟩ := registered_run
  have supervised : reassigning.IsAuthenticated
      (eventOf Sample.settings registered starting).2 := by decide +kernel
  have authenticated : starting.IsAuthenticated (eventOf Sample.settings
      (eventOf Sample.settings registered starting).2 reassigning).2 := by decide +kernel
  have refused : isNotFound (eventOf Sample.settings (eventOf Sample.settings
      (eventOf Sample.settings registered starting).2 reassigning).2 starting).1.outcome = true := by
    decide +kernel
  refine ⟨labels, _, _, _, _, _, _, _, run, starting_step, eventOf_action, starting_commits,
    eventOf_step supervised, eventOf_step authenticated, eventOf_action, ?_⟩
  unfold isNotFound at refused
  split at refused
  · assumption
  · cases refused

end WaterCare.Runtime
