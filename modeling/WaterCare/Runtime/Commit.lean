import WaterCare.Machine.Result
import WaterCare.Service.Operation

/-!
What a transaction that ends without an error has done: it has replayed a stored
answer and left the database alone, or it has passed every check and written.
-/

namespace WaterCare.Runtime
open Machine Workflow Store Service Py

/-! ### The idempotency record -/

/-- A stored answer is an answer of the same request, and it is marked as a replay. -/
theorem replayOrConflict_ok {record : IdempotencyRecord} {requestHash : String} {answer : Answer} :
    record.replayOrConflict requestHash = .ok answer ↔
      record.requestHash = requestHash ∧ record.responseBody.isEmpty = false ∧
        ∃ completed status, record.completedAt = some completed ∧
          record.responseStatus = some status ∧
          answer = .stored status
            (assign record.responseBody (.str "idempotent_replay") (.bool true)) := by
  unfold IdempotencyRecord.replayOrConflict
  by_cases same : record.requestHash = requestHash
  · rw [if_neg (not_not.2 same)]
    cases record.completedAt with
    | none => exact iff_of_false (by intro h; cases h) (by rintro ⟨_, _, _, _, h, _⟩; cases h)
    | some completed =>
        cases record.responseStatus with
        | none =>
            exact iff_of_false (by intro h; cases h) (by rintro ⟨_, _, _, _, _, h, _⟩; cases h)
        | some status =>
            cases record.responseBody.isEmpty with
            | true => exact iff_of_false (by intro h; cases h) (by rintro ⟨_, h, _⟩; cases h)
            | false =>
                constructor
                · intro h
                  cases h
                  exact ⟨same, rfl, completed, status, rfl, rfl, rfl⟩
                · rintro ⟨_, _, _, _, h, h', rfl⟩
                  cases h
                  cases h'
                  rfl
  · rw [if_pos same]
    exact iff_of_false (by intro h; cases h) fun h => same h.1

theorem replay_ok {w t : World} {record : IdempotencyRecord} {requestHash : String}
    {answer : Answer} (h : w.replay record requestHash = .ok (t, answer)) :
    t = w ∧ record.replayOrConflict requestHash = .ok answer := by
  obtain ⟨stored, replayed, same⟩ := map_eq_ok.1 h
  cases same
  exact ⟨rfl, replayed⟩

theorem replay_replayed {w t : World} {record : IdempotencyRecord} {requestHash : String}
    {answer : Answer} (h : w.replay record requestHash = .ok (t, answer)) :
    answer.replayed = true := by
  obtain ⟨_, _, _, _, _, _, rfl⟩ := replayOrConflict_ok.1 (replay_ok h).2
  rfl

/-- The database with the pending record of a request. -/
def pending (w : World) (scope : Scope) (requestHash : String) : World :=
  { w with records := (w.records.insert scope ⟨requestHash, none, [], none, none⟩) }

/-- A request without a record gets one, and its transaction goes on. -/
theorem withIdempotencyRecord_new {w : World} {scope : Scope} {requestHash : String}
    {rest : World → Except Failure (World × Answer)} (unrecorded : w.records.lookup scope = none) :
    w.withIdempotencyRecord scope requestHash rest = rest (pending w scope requestHash) := by
  rw [World.withIdempotencyRecord, World.createIdempotencyRecord, unrecorded]
  rfl

/-! ### The shared transaction -/

/-- A transaction of the shared kind has passed every check and written `b` over `a`. -/
structure Commits (service : InquiryAction) (request : Request) (w : World) (a : Aggregate)
    (context : ActionContext) (plan : Plan) (b : Aggregate) (resource : Resource) : Prop where
  found : w.aggregate service.inquiry = some a
  locked : service.lock a.q = true
  unrecorded : w.records.lookup (service.scope request) = none
  prepared : service.prepare a = .ok context
  resolved : shipped.resolve a.snapshot service.event = .ok plan
  effects : service.requiredEffects.all plan.rule.effects.contains = true
  passed : shipped.evaluate plan.rule a.snapshot (service.guardContext request a context) = none
  written : service.write request a context plan w.nextId = .ok (b, resource)

/-- The database and the answer of a commit. -/
def committed (service : InquiryAction) (request : Request) (w : World) (context : ActionContext)
    (b : Aggregate) (resource : Resource) : World × Answer :=
  (pending w (service.scope request) service.requestHash).commit service.inquiry b
    (service.scope request) service.requestHash 200 (service.respond b context resource)
    (resource.publicId service.inquiry) request.now 1

theorem plan_ok {service : InquiryAction} {a : Aggregate} {context : ActionContext} {plan : Plan} :
    service.plan a context = .ok plan ↔
      shipped.resolve a.snapshot service.event = .ok plan ∧
        service.requiredEffects.all plan.rule.effects.contains = true := by
  unfold InquiryAction.plan
  cases resolved : shipped.resolve a.snapshot service.event with
  | error reason => exact iff_of_false (by intro h; cases h) (by rintro ⟨h, _⟩; cases h)
  | ok found =>
      dsimp only
      split_ifs with all
      · constructor
        · intro h
          cases h
          exact ⟨rfl, all⟩
        · rintro ⟨h, _⟩
          cases h
          rfl
      · refine iff_of_false (by intro h; cases h) ?_
        rintro ⟨h, enough⟩
        cases h
        exact all enough

theorem checkGuards_ok {service : InquiryAction} {request : Request} {a : Aggregate}
    {context : ActionContext} {plan : Plan} :
    service.checkGuards request a context plan = .ok () ↔
      shipped.evaluate plan.rule a.snapshot (service.guardContext request a context) = none := by
  unfold InquiryAction.checkGuards
  cases shipped.evaluate plan.rule a.snapshot (service.guardContext request a context) with
  | none => exact iff_of_true rfl rfl
  | some failure => exact iff_of_false (by intro h; cases h) (by intro h; cases h)

theorem execute_ok {service : InquiryAction} {request : Request} {w t : World} {a : Aggregate}
    {answer : Answer} (found : w.aggregate service.inquiry = some a)
    (locked : service.lock a.q = true)
    (unrecorded : w.records.lookup (service.scope request) = none) :
    service.execute request w a = .ok (t, answer) ↔
      ∃ context plan b resource, Commits service request w a context plan b resource ∧
        (t, answer) = committed service request w context b resource := by
  unfold InquiryAction.execute
  simp only [withIdempotencyRecord_new unrecorded]
  constructor
  · intro h
    obtain ⟨context, prepared, h⟩ := bind_eq_ok.1 h
    obtain ⟨plan, planned, h⟩ := bind_eq_ok.1 h
    obtain ⟨_, passed, h⟩ := bind_eq_ok.1 h
    obtain ⟨⟨b, resource⟩, written, h⟩ := bind_eq_ok.1 h
    obtain ⟨resolved, effects⟩ := plan_ok.1 planned
    exact ⟨context, plan, b, resource,
      ⟨found, locked, unrecorded, prepared, resolved, effects, checkGuards_ok.1 passed, written⟩,
      (Except.ok.inj h).symm⟩
  · rintro ⟨context, plan, b, resource, commits, same⟩
    rw [bind_of_ok commits.prepared, bind_of_ok (plan_ok.2 ⟨commits.resolved, commits.effects⟩),
      bind_of_ok (checkGuards_ok.2 commits.passed), bind_of_ok commits.written, same]
    rfl

/-- A shared transaction without an error has replayed or committed. -/
theorem perform_ok {service : InquiryAction} {request : Request} {w t : World} {answer : Answer}
    (h : service.perform request w = .ok (t, answer)) :
    (t = w ∧ answer.replayed = true) ∨
      ∃ a context plan b resource, Commits service request w a context plan b resource ∧
        (t, answer) = committed service request w context b resource := by
  unfold InquiryAction.perform at h
  cases found : w.aggregate service.inquiry with
  | none =>
      rw [found] at h
      cases h
  | some a =>
      rw [found, Option.filter_some] at h
      cases locked : service.lock a.q with
      | false =>
          rw [locked] at h
          cases h
      | true =>
          rw [locked, if_pos rfl] at h
          cases unrecorded : w.records.lookup (service.scope request) with
          | some existing =>
              rw [unrecorded] at h
              exact .inl ⟨(replay_ok h).1, replay_replayed h⟩
          | none =>
              rw [unrecorded] at h
              obtain ⟨context, plan, b, resource, commits, same⟩ :=
                (execute_ok found locked unrecorded).1 h
              exact .inr ⟨a, context, plan, b, resource, commits, same⟩

/-- A claim without an error has replayed or committed. -/
theorem claim_ok {settings : Settings} {request : Request} {inquiry stateVersion : Nat}
    {w t : World} {answer : Answer}
    (h : ConsultationClaimService.claim settings w.directory request inquiry stateVersion w =
      .ok (t, answer)) :
    (t = w ∧ answer.replayed = true) ∨
      ∃ a context plan b resource,
        Commits (ConsultationClaimService.action settings w.directory request inquiry stateVersion)
          request w a context plan b resource ∧
        (t, answer) = committed
          (ConsultationClaimService.action settings w.directory request inquiry stateVersion)
          request w context b resource := by
  unfold ConsultationClaimService.claim at h
  dsimp only at h
  cases found : w.aggregate inquiry with
  | none =>
      rw [found] at h
      cases h
  | some a =>
      rw [found, Option.filter_some] at h
      split at h
      · cases h
      · rename_i a' visible
        split_ifs at visible with locked
        cases visible
        split at h
        · rename_i unrecorded
          obtain ⟨context, plan, b, resource, commits, same⟩ :=
            (execute_ok found locked unrecorded).1 h
          exact .inr ⟨a, context, plan, b, resource, commits, same⟩
        · split_ifs at h
          exact .inl ⟨(replay_ok h).1, replay_replayed h⟩

/-! ### The writes of a commit -/

/-- The steps of the write: the mutation, the inquiry, what settles it, the history, and
what finishes the transaction. -/
theorem write_ok {service : InquiryAction} {request : Request} {a b : Aggregate}
    {context : ActionContext} {plan : Plan} {fresh : Nat} {resource : Resource}
    (h : service.write request a context plan fresh = .ok (b, resource)) :
    ∃ (mutated : Aggregate) (inquiry : Stored Inquiry) (settled recorded : Aggregate),
      service.mutate plan a context fresh = .ok (mutated, resource) ∧
      inquiry.1 = service.apply plan mutated.q ∧
      service.settle { mutated with inquiry := inquiry } = .ok settled ∧
      (if service.records plan.rule then
        settled.recordHistory (service.historyRow request a context plan)
      else pure settled) = .ok recorded ∧
      service.finish plan a recorded resource = .ok b := by
  unfold InquiryAction.write at h
  obtain ⟨⟨mutated, row⟩, hm, h⟩ := bind_eq_ok.1 h
  obtain ⟨inquiry, hq, h⟩ := bind_eq_ok.1 h
  obtain ⟨settled, hs, h⟩ := bind_eq_ok.1 h
  refine ⟨mutated, inquiry, settled, ?_⟩
  by_cases records : service.records plan.rule = true
  · simp only [if_pos records] at h ⊢
    obtain ⟨recorded, hr, h⟩ := bind_eq_ok.1 h
    obtain ⟨finished, hf, h⟩ := bind_eq_ok.1 h
    cases h
    exact ⟨recorded, hm, save_ok.1 hq, hs, hr, hf⟩
  · simp only [if_neg records] at h ⊢
    obtain ⟨recorded, hr, h⟩ := bind_eq_ok.1 h
    obtain ⟨finished, hf, h⟩ := bind_eq_ok.1 h
    cases h
    exact ⟨recorded, hm, save_ok.1 hq, hs, hr, hf⟩

theorem recordHistory_ok {a b : Aggregate} {row : InquiryHistory} :
    a.recordHistory row = .ok b ↔
      ∃ stored : Stored InquiryHistory, stored.1 = row ∧
        (∀ h ∈ a.history, h.1.stateVersion ≠ row.stateVersion) ∧
        b = { a with history := a.history ++ [stored] } := by
  unfold Aggregate.recordHistory
  constructor
  · intro h
    obtain ⟨stored, saved, h⟩ := bind_eq_ok.1 h
    split_ifs at h with taken
    cases h
    refine ⟨stored, save_ok.1 saved, ?_, rfl⟩
    intro other mem same
    exact taken (List.any_eq_true.2 ⟨other, mem, decide_eq_true same⟩)
  · rintro ⟨stored, same, free, rfl⟩
    rw [bind_of_ok (save_ok.2 same), if_neg]
    · rfl
    · intro taken
      obtain ⟨other, mem, equal⟩ := List.any_eq_true.1 taken
      exact free other mem (of_decide_eq_true equal)

end WaterCare.Runtime
