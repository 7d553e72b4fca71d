import WaterCare.Runtime.Coupling

/-!
Which transactions go through: the guards a request of a user passes, and that nothing
behind its mutation fails.
-/

namespace WaterCare.Runtime
open Machine Workflow Store Service Py Analysis
open WorkflowContract (evaluate_eq_none evaluateEventActor_eq_none)

/-! ### The contract -/

/-- The version of a snapshot only decides the version of the plan. -/
theorem resolve_at {s : InquiryState} {visit : Option VisitStatus} {event : EventCode}
    {plan : Plan} (resolved : shipped.resolve ⟨some (s, 1), visit⟩ event = .ok plan) (n : Nat) :
    shipped.resolve ⟨some (s, n), visit⟩ event = .ok { plan with version := n + 1 } := by
  simp only [WorkflowContract.resolve, Snapshot.inquiryState, Option.map_some] at resolved ⊢
  by_cases terminal : ∃ t ∈ shipped.terminalStates, some s = some t
  · rw [if_pos terminal] at resolved
    cases resolved
  rw [if_neg terminal] at resolved ⊢
  by_cases admitted : shipped.admits (some s) visit = false
  · rw [if_pos admitted] at resolved
    cases resolved
  rw [if_neg admitted] at resolved ⊢
  cases found : shipped.matching (some s) event visit with
  | nil =>
      rw [found] at resolved
      cases resolved
  | cons rule rest =>
      rw [found] at resolved
      cases rest with
      | cons other more => cases resolved
      | nil =>
          dsimp only at resolved ⊢
          split_ifs at resolved ⊢ with target
          cases resolved
          rfl

/-- What a test says about the rule of an event at the first version holds at every one. -/
theorem accepted_plan {s : InquiryState} {visit : Option VisitStatus} {event : EventCode}
    {test : Plan → Bool}
    (h : (shipped.resolve ⟨some (s, 1), visit⟩ event).toOption.any test = true) (n : Nat) :
    ∃ plan, shipped.resolve ⟨some (s, n), visit⟩ event = .ok { plan with version := n + 1 } ∧
      plan.rule ∈ shipped.transitions ∧ plan.rule.event = event ∧ test plan = true := by
  cases resolved : shipped.resolve ⟨some (s, 1), visit⟩ event with
  | error reason =>
      rw [resolved] at h
      cases h
  | ok plan =>
      rw [resolved] at h
      obtain ⟨listed, fires, _⟩ := resolve_ok resolved
      exact ⟨plan, resolve_at resolved n, listed, fires, h⟩

/-- Every rule lists the guards its event requires, and none the event does not know. -/
theorem guards_listed : ∀ rule ∈ shipped.transitions,
    (∀ guard ∈ WorkflowContract.requiredGuards (shipped.events rule.event),
      guard ∈ rule.guardRefs) ∧
    (GuardId.stateVersion ∈ rule.guardRefs →
      (shipped.events rule.event).requiresStateVersion = true) ∧
    (GuardId.idempotencyKey ∈ rule.guardRefs →
      (shipped.events rule.event).requiresIdempotencyKey = true) := by
  decide

section
variable {service : InquiryAction} {request : Request} {w : World} {a m : Aggregate}
  {context : ActionContext} {plan : Plan} {resource : Resource} {rule : TransitionRule}

/-- A rule admits a role, and asks for no domain guard outside a list. -/
def answers (role : ActorRole) (passed : List GuardId) (rule : TransitionRule) : Bool :=
  (shipped.events rule.event).actorRoles.contains role && rule.guardRefs.all fun guard =>
    match guard.coreRole with
    | some required => decide (role = required)
    | none => decide (guard ∈ GuardId.stateVersion :: .idempotencyKey :: passed)

/-- A request with the current version passes every guard of a rule that admits its role
and whose domain results are `True`. -/
theorem service_passes {passed : List GuardId} (listed : rule ∈ shipped.transitions)
    (answered : answers service.workflowActor.role.actorRole passed rule = true)
    (version : service.requestedVersion = a.q.stateVersion)
    (domain : ∀ guard ∈ passed, (service.domainResults a context).lookup guard = some true) :
    shipped.evaluate rule a.snapshot (service.guardContext request a context) = none := by
  obtain ⟨required, versioned, keyed⟩ := guards_listed rule listed
  rw [answers, Bool.and_eq_true, List.all_eq_true, List.contains_iff_mem] at answered
  obtain ⟨admitted, answered⟩ := answered
  have human : service.workflowActor.role.actorRole ≠ .system := by
    cases service.workflowActor.role <;> exact nofun
  refine (evaluate_eq_none _).2 ⟨required, (evaluateEventActor_eq_none _).2 ⟨?_, ?_, admitted⟩,
    ?_, ?_, ?_⟩
  · exact fun _ => rfl
  · exact fun system => absurd system human
  · exact if_pos request.correlationId.2
  · refine if_neg ?_
    have valid : Engine.validIdempotencyKey (some request.idempotencyKey.1) = true :=
      request.idempotencyKey.2
    change ¬(_ && !Engine.validIdempotencyKey (some request.idempotencyKey.1)) = true
    rw [valid, Bool.not_true, Bool.and_false]
    exact Bool.false_ne_true
  · intro guard mem
    have known := answered guard mem
    cases role : guard.coreRole with
    | some required =>
        rw [role, decide_eq_true_eq] at known
        unfold WorkflowContract.evaluateGuard
        rw [role]
        cases required with
        | system => exact absurd known human
        | customer | consultant | technician | operator =>
            refine if_pos ?_
            change (true && decide (service.workflowActor.role.actorRole = _)) = true
            rw [known, decide_eq_true rfl]
            rfl
    | none =>
        rw [role, decide_eq_true_eq] at known
        by_cases isVersion : guard = .stateVersion
        · subst isVersion
          refine WorkflowContract.evaluateGuard_stateVersion.2 ⟨versioned mem, rfl, ?_⟩
          exact congrArg some version
        · by_cases isKey : guard = .idempotencyKey
          · subst isKey
            exact if_pos (keyed mem)
          · have inList : guard ∈ passed := by
              rcases List.mem_cons.1 known with same | known
              · exact absurd same isVersion
              · exact (List.mem_cons.1 known).resolve_left isKey
            exact (WorkflowContract.evaluateGuard_domain role isVersion isKey).2
              (domain guard inList)

/-- An event of the system passes every guard of a rule whose domain results are `True`. -/
theorem system_passes {passed : List GuardId} {correlationId : Uuid}
    {results : List (GuardId × Bool)} (listed : rule ∈ shipped.transitions)
    (answered : answers .system passed rule = true)
    (keyless : (shipped.events rule.event).requiresIdempotencyKey = false)
    (domain : ∀ guard ∈ passed, results.lookup guard = some true) :
    shipped.evaluate rule a.snapshot (systemContext correlationId a.q.stateVersion results) =
      none := by
  obtain ⟨required, versioned, keyed⟩ := guards_listed rule listed
  rw [answers, Bool.and_eq_true, List.all_eq_true, List.contains_iff_mem] at answered
  obtain ⟨admitted, answered⟩ := answered
  refine (evaluate_eq_none _).2 ⟨required, (evaluateEventActor_eq_none _).2 ⟨?_, ?_, admitted⟩,
    ?_, ?_, ?_⟩
  · exact fun human => absurd rfl human
  · exact fun _ => rfl
  · exact if_pos correlationId.2
  · refine if_neg ?_
    rw [keyless, Bool.false_and]
    exact Bool.false_ne_true
  · intro guard mem
    have known := answered guard mem
    cases role : guard.coreRole with
    | some required =>
        rw [role, decide_eq_true_eq] at known
        subst known
        unfold WorkflowContract.evaluateGuard
        rw [role]
        rfl
    | none =>
        rw [role, decide_eq_true_eq] at known
        by_cases isVersion : guard = .stateVersion
        · subst isVersion
          exact WorkflowContract.evaluateGuard_stateVersion.2 ⟨versioned mem, rfl, rfl⟩
        · by_cases isKey : guard = .idempotencyKey
          · subst isKey
            have needed := keyed mem
            rw [keyless] at needed
            cases needed
          · have inList : guard ∈ passed := by
              rcases List.mem_cons.1 known with same | known
              · exact absurd same isVersion
              · exact (List.mem_cons.1 known).resolve_left isKey
            exact (WorkflowContract.evaluateGuard_domain role isVersion isKey).2
              (domain guard inList)

/-! ### The rows -/

theorem stamp_accepts {x : Consultation} {stamp : Stamp} (accepted : Table.accepts x = true)
    (version : 0 < stamp.stateVersion) (key : stamp.idempotencyKey ≠ "") :
    Table.accepts (stampConsultation stamp x) = true := by
  change (decide (0 < x.sequence) && decide (0 < x.stateVersion) && x.idempotencyKey != "" &&
    x.lifecycle && x.outcomeLifecycle && x.startOrder && x.completeOrder) = true at accepted
  change (decide (0 < x.sequence) && decide (0 < stamp.stateVersion) &&
    stamp.idempotencyKey != "" && x.lifecycle && x.outcomeLifecycle && x.startOrder &&
    x.completeOrder) = true
  simp only [Bool.and_eq_true, decide_eq_true_eq, bne_iff_ne] at accepted ⊢
  obtain ⟨⟨⟨⟨⟨⟨sequence, _⟩, _⟩, lifecycle⟩, outcome⟩, start⟩, complete⟩ := accepted
  exact ⟨⟨⟨⟨⟨⟨sequence, version⟩, key⟩, lifecycle⟩, outcome⟩, start⟩, complete⟩

theorem version_pos (a : Aggregate) : 0 < a.q.stateVersion := by
  have accepted := a.inquiry.2
  change (a.q.assignmentPair && decide (0 < a.q.stateVersion) && a.q.rawText != "" &&
    a.q.cancellationFields) = true at accepted
  simp only [Bool.and_eq_true, decide_eq_true_eq] at accepted
  exact accepted.1.1.2

/-- An open inquiry may go to every status but the cancelled one. -/
theorem moved_accepts (open_ : a.q.status ≠ .cancelled) (target : plan.rule.target ≠ .cancelled)
    (version : 0 < plan.version) : Table.accepts (applyStateTransition plan a.q) = true := by
  have accepted := a.inquiry.2
  change (a.q.assignmentPair && decide (0 < a.q.stateVersion) && a.q.rawText != "" &&
    a.q.cancellationFields) = true at accepted
  change (a.q.assignmentPair && decide (0 < plan.version) && a.q.rawText != "" &&
    (applyStateTransition plan a.q).cancellationFields) = true
  have fields : (applyStateTransition plan a.q).cancellationFields = a.q.cancellationFields := by
    unfold Inquiry.cancellationFields
    rw [if_neg open_]
    exact if_neg target
  rw [fields]
  simp only [Bool.and_eq_true, decide_eq_true_eq] at accepted ⊢
  exact ⟨⟨⟨accepted.1.1.1, version⟩, accepted.1.2⟩, accepted.2⟩

/-! ### The repositories -/

section
variable {d : Directory} {stamp : Stamp} {now : Instant} {id : Nat} {c : Stored Consultation}

/-- A stamp with a version and a key. -/
def IsStamp (stamp : Stamp) : Prop := 0 < stamp.stateVersion ∧ stamp.idempotencyKey ≠ ""

/-- A waiting consultation opens where there is none, for a customer with an account. -/
theorem request_opens {customer : Customer} {user : User} (isStamp : IsStamp stamp)
    (owner : d.customerOf a.q = some customer) (account : customer.user.bind d.user = some user) :
    ∃ row, ConsultationRepository.request d a stamp none id now =
      .ok ({ a with consultations := a.consultations ++ [row] }, row) := by
  let isSynthetic := customer.isSynthetic && user.isSynthetic
  have accepted : Table.accepts (blankConsultation id (a.lastSequence + 1) .waiting none none
      isSynthetic stamp now) = true := by
    change (decide (0 < a.lastSequence + 1) && decide (0 < stamp.stateVersion) &&
      stamp.idempotencyKey != "" && true && true && true && true) = true
    simp only [Bool.and_eq_true, decide_eq_true_eq, bne_iff_ne]
    exact ⟨⟨⟨⟨⟨⟨Nat.succ_pos _, isStamp.1⟩, isStamp.2⟩, trivial⟩, trivial⟩, trivial⟩, trivial⟩
  refine ⟨⟨_, accepted⟩, ?_⟩
  unfold ConsultationRepository.request
  rw [owner]
  dsimp only [Option.filter, Option.bind_some, Option.any]
  rw [account]
  have saved : save (blankConsultation id (a.lastSequence + 1) .waiting none none isSynthetic stamp
      now) "IntegrityError" = .ok ⟨_, accepted⟩ := save_ok.2 rfl
  exact bind_of_ok saved

/-- Without an account of the customer it does not open. -/
theorem request_fails (missing : ((d.customerOf a.q).bind fun c => c.user.bind d.user) = none) :
    ConsultationRepository.request d a stamp none id now = .error (.raised "AttributeError") := by
  unfold ConsultationRepository.request
  rw [missing]
  rfl

/-- The newest hand-off can always be attached. -/
theorem attachToLatest_total (a : Aggregate) (c : Stored Consultation) :
    ∃ b row, ConsultationHandoffRepository.attachToLatestConsultation a c = .ok (b, row) ∧
      b.inquiry = a.inquiry ∧ b.history = a.history := by
  unfold ConsultationHandoffRepository.attachToLatestConsultation
  split
  · exact ⟨a, c, rfl, rfl, rfl⟩
  · rename_i h _
    unfold ConsultationHandoffRepository.attach
    dsimp only
    split
    · exact ⟨a, c, rfl, rfl, rfl⟩
    · split
      · exact ⟨_, c, rfl, rfl, rfl⟩
      · have accepted : Table.accepts { c.1 with aiDraftSummary := some h.aiDraftSummary } = true :=
          c.2
        exact ⟨_, ⟨_, accepted⟩, consultation_update_ok.2 ⟨rfl, rfl⟩, rfl, rfl⟩

end

/-! ### The transaction -/

/-- A transition that leaves the visit alone records no visit history. -/
theorem recordVisitAction_none {recorded : Aggregate}
    (quiet : plan.rule.recordVisitStateHistory = false) :
    AssignedAction.recordVisitAction request plan a recorded resource = .ok recorded := by
  unfold AssignedAction.recordVisitAction
  rw [quiet]
  rfl

@[simp] theorem committed_aggregate {b : Aggregate} :
    (committed service request w context b resource).1.aggregate service.inquiry = some b :=
  AList.lookup_insert _

theorem perform_of_commits {b : Aggregate}
    (commits : Commits service request w a context plan b resource) :
    service.perform request w = .ok (committed service request w context b resource) := by
  unfold InquiryAction.perform
  rw [commits.found, Option.filter_some, if_pos commits.locked]
  dsimp only
  rw [commits.unrecorded]
  exact (execute_ok commits.found commits.locked commits.unrecorded).2
    ⟨context, plan, b, resource, commits, rfl⟩

/-- A history row of the next version is accepted. -/
theorem recordHistory_next {row : InquiryHistory} {state : InquiryState}
    (recorded : ∀ h ∈ m.history, h.1.stateVersion ≤ a.q.stateVersion)
    (version : row.stateVersion = a.q.stateVersion + 1) (source : row.fromState = some state) :
    ∃ stored : Stored InquiryHistory, stored.1 = row ∧
      m.recordHistory row = .ok { m with history := m.history ++ [stored] } := by
  have positive := version_pos a
  have accepted : Table.accepts row = true := by
    change (decide (0 < row.stateVersion) && (row.stateVersion == 1) == row.fromState.isNone) = true
    have later : (row.stateVersion == 1) = false := by
      rw [beq_eq_false_iff_ne]
      omega
    rw [later, source, version]
    rfl
  refine ⟨⟨row, accepted⟩, rfl, recordHistory_ok.2 ⟨_, rfl, ?_, rfl⟩⟩
  intro h mem same
  have below := recorded h mem
  omega

/-- A mutation that leaves the history alone is followed by no failure: the inquiry is
accepted, what settles it is done, and its history has room for the next version. -/
theorem write_total {fresh : Nat}
    (mutated : service.mutate plan a context fresh = .ok (m, resource))
    (coupled : ∀ h ∈ m.history, h.1.stateVersion ≤ a.q.stateVersion)
    (version : plan.version = a.q.stateVersion + 1)
    (saved : Table.accepts (service.apply plan m.q) = true)
    (settle : ∀ inquiry, ∃ settled, service.settle { m with inquiry := inquiry } = .ok settled ∧
      settled.history = m.history)
    (finish : ∀ recorded, service.finish plan a recorded resource = .ok recorded) :
    ∃ b, service.write request a context plan fresh = .ok (b, resource) := by
  obtain ⟨inquiry, hq⟩ : ∃ inquiry, save (service.apply plan m.q) "IntegrityError" = .ok inquiry :=
    save_isOk.2 saved
  obtain ⟨settled, hs, same⟩ := settle inquiry
  unfold InquiryAction.write
  rw [bind_of_ok mutated]
  dsimp only
  rw [bind_of_ok hq, bind_of_ok hs]
  by_cases records : service.records plan.rule = true
  · rw [← same] at coupled
    obtain ⟨row, _, hr⟩ : ∃ row : Stored InquiryHistory,
        row.1 = service.historyRow request a context plan ∧
          settled.recordHistory (service.historyRow request a context plan) =
            .ok { settled with history := settled.history ++ [row] } :=
      recordHistory_next coupled version rfl
    refine ⟨{ settled with history := settled.history ++ [row] }, ?_⟩
    simp only [if_pos records, bind_of_ok hr, bind_of_ok (finish _)]
    rfl
  · refine ⟨settled, ?_⟩
    simp only [if_neg records]
    exact bind_of_ok (finish settled)

end
end WaterCare.Runtime
