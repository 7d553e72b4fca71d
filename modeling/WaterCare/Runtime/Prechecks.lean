import WaterCare.Runtime.Retries
import WaterCare.Service.Questionnaire

/-!
The questionnaire sessions of every run: their versions count their writes, a submitted session
keeps its answers, and a link belongs to one session, its owner and its subscription.
-/

namespace WaterCare.Runtime
open Machine Workflow Store Service Py
open QuestionnaireService (Mutation Answers saving submitting lockOwnedSession mutationHash)

/-! ### What an operation writes -/

/-- A session after one more write. -/
structure Follows (s s' : SessionAggregate) : Prop where
  id : s'.session.1.id = s.session.1.id
  subscription : s'.session.1.subscription = s.session.1.subscription
  version : s'.session.1.stateVersion = s.session.1.stateVersion + 1
  history : ∃ row : Stored SessionHistory,
    row.1.stateVersion = s.session.1.stateVersion + 1 ∧ s'.history = s.history ++ [row]
  settled : s.session.1.status = .submitted → s'.session.1.status = .submitted ∧
    s'.session.1.answersPayload = s.session.1.answersPayload
  linked : ∀ inquiry, s.session.1.inquiry = some inquiry → s'.session.1.inquiry = some inquiry

/-- A session as it is opened. -/
structure Newborn (s : SessionAggregate) : Prop where
  unlinked : s.session.1.inquiry = none
  version : s.session.1.stateVersion = 1
  history : ∃ row : Stored SessionHistory, row.1.stateVersion = 1 ∧ s.history = [row]
  unsubmitted : s.session.1.status ≠ .submitted

/-- A session of its owner that is submitted and has no inquiry yet. -/
structure Linkable (d : Directory) (actor : User) (s : QuestionnaireSession) : Prop where
  owned : ownsSession d actor s = true
  submitted : s.status = .submitted
  unlinked : s.inquiry = none

/-- What an operation that commits anew has done to the sessions and the inquiries. -/
inductive PrecheckEffect (w : World) (request : Request) (t : World) : Precheck → Prop
  | opened {subscription : Nat} {s : SessionAggregate} (newborn : Newborn s)
      (number : s.session.1.id = w.nextId) (sessions : t.sessions = w.sessions.insert w.nextId s)
      (inquiries : t.inquiries = w.inquiries) (next : t.nextId = w.nextId + 1) :
      PrecheckEffect w request t (.startCarePrecheck subscription)
  | mutated {operation : Precheck} {id : Nat} {s s' : SessionAggregate}
      (names : operation.session = some id) (found : w.sessions.lookup id = some s)
      (follows : Follows s s') (same : s'.session.1.inquiry = s.session.1.inquiry)
      (sessions : t.sessions = w.sessions.insert s'.session.1.id s')
      (inquiries : t.inquiries = w.inquiries) (next : t.nextId = w.nextId)
      (unsubmitted : s.session.1.status ≠ .submitted)
      (target : s'.session.1.status = .submitted ↔ ∃ body, operation = .submitCarePrecheck id body) :
      PrecheckEffect w request t operation
  | created {values : StartValues} {a : Aggregate} (unnamed : values.questionnaireSessionId = none)
      (sessions : t.sessions = w.sessions) (inquiries : t.inquiries = w.inquiries.insert w.nextId a)
      (next : t.nextId = w.nextId + 1) : PrecheckEffect w request t (.startInquiry values)
  | linked {values : StartValues} {id : Nat} {s s' : SessionAggregate} {a : Aggregate}
      (names : values.questionnaireSessionId = some id) (found : w.sessions.lookup id = some s)
      (linkable : Linkable w.directory request.actor s.session.1) (follows : Follows s s')
      (link : s'.session.1.inquiry = some w.nextId)
      (subscription : a.q.subscription = s.session.1.subscription)
      (sessions : t.sessions = w.sessions.insert s'.session.1.id s')
      (inquiries : t.inquiries = w.inquiries.insert w.nextId a) (next : t.nextId = w.nextId + 1) :
      PrecheckEffect w request t (.startInquiry values)

section
variable {settings : Settings} {request : Request} {w t : World} {answer : Answer}

theorem recordSession_ok {a b : SessionAggregate} {row : SessionHistory}
    (h : a.recordHistory row = .ok b) :
    ∃ stored : Stored SessionHistory, stored.1 = row ∧
      b = { a with history := a.history ++ [stored] } := by
  unfold SessionAggregate.recordHistory at h
  have ⟨stored, saved, h⟩ := bind_eq_ok.1 h
  have ⟨_, same⟩ := ite_error_eq_ok.1 h
  exact ⟨stored, save_ok.1 saved, (Except.ok.inj same).symm⟩

theorem begin_ok {scope : Scope} {requestHash : String}
    {rest : World → Except Failure (World × Answer)}
    (h : QuestionnaireService.beginIdempotentOperation w scope requestHash rest =
      .ok (t, answer)) :
    (t = w ∧ answer.replayed = true) ∨
      (w.records.lookup scope = none ∧ rest (pending w scope requestHash) = .ok (t, answer)) := by
  unfold QuestionnaireService.beginIdempotentOperation at h
  cases unrecorded : w.records.lookup scope with
  | some existing =>
      rw [unrecorded] at h
      exact .inl ⟨(replay_ok h).1, replay_replayed h⟩
  | none =>
      rw [unrecorded] at h
      refine .inr ⟨rfl, ?_⟩
      rwa [withIdempotencyRecord_new unrecorded] at h

/-- The record a committed operation on a session leaves. -/
theorem complete_records {s : SessionAggregate} {scope : Scope} {requestHash : String}
    {status used : Nat} (same : (t, answer) =
      QuestionnaireService.complete (pending w scope requestHash) s scope requestHash status
        request.now used) :
    t.records = (w.records.insert scope ⟨requestHash, none, [], none, none⟩).insert scope
      ⟨requestHash, some status, QuestionnaireService.serialize s.session.1,
        some s.session.1.id, some request.now⟩ := by
  rw [(Prod.mk.inj same).1]
  rfl

theorem start_opens {subscription : Nat}
    (h : QuestionnaireService.start settings request subscription w = .ok (t, answer)) :
    (t = w ∧ answer.replayed = true) ∨
      (answer.replayed = false ∧ t.directory = w.directory ∧ KeepsAnswers w t ∧
        PrecheckEffect w request t (.startCarePrecheck subscription)) := by
  unfold QuestionnaireService.start at h
  split at h
  · cases h
  · rename_i owned _
    rcases begin_ok h with replayed | ⟨unrecorded, h⟩
    · exact .inl replayed
    · have ⟨opened, inserted, h⟩ := bind_eq_ok.1 h
      have ⟨s, recorded, h⟩ := bind_eq_ok.1 h
      have same := (Except.ok.inj h).symm
      have ⟨row, version, aggregate⟩ := recordSession_ok recorded
      have ⟨_, saved⟩ := ite_error_eq_ok.1 inserted
      have born := save_ok.1 saved
      have new : s.session.1 = opened.1 := by rw [aggregate]
      refine .inr ⟨?_, ?_, keeps_of_completed unrecorded (complete_records same), ?_⟩
      · rw [(Prod.mk.inj same).2]
        rfl
      · rw [(Prod.mk.inj same).1]
        rfl
      · have number : s.session.1.id = w.nextId := by rw [new, born]; rfl
        refine .opened ⟨?_, ?_, ⟨row, ?_, ?_⟩, ?_⟩ number ?_ ?_ ?_
        · rw [new, born]
          rfl
        · rw [new, born]
          rfl
        · rw [version, born]
          rfl
        · rw [aggregate]
          rfl
        · rw [new, born]
          exact nofun
        · rw [(Prod.mk.inj same).1, ← number]
          rfl
        · rw [(Prod.mk.inj same).1]
          rfl
        · rw [(Prod.mk.inj same).1]
          rfl

theorem Mutation.write_ok {m : Mutation} {s s' : SessionAggregate} {body : Answers}
    (h : m.write request s body = .ok s') :
    Follows s s' ∧ s'.session.1.inquiry = s.session.1.inquiry ∧
      s.session.1.status ≠ .submitted ∧ s'.session.1.status = m.target := by
  have ⟨open', h⟩ := ite_error_eq_ok.1 h
  have ⟨_, h⟩ := ite_error_eq_ok.1 h
  have ⟨saved, stored, h⟩ := bind_eq_ok.1 h
  have written := save_ok.1 stored
  have ⟨row, version, same⟩ := recordSession_ok h
  have new : s'.session.1 = m.apply s.session.1 body.answers request.now := by rw [same, ← written]
  refine ⟨⟨?_, ?_, ?_, ⟨row, ?_, ?_⟩, ?_, ?_⟩, ?_, open', ?_⟩
  · rw [new]; rfl
  · rw [new]; rfl
  · rw [new]; rfl
  · rw [version, written]
    rfl
  · rw [same]
  · intro submitted
    exact absurd submitted open'
  · intro inquiry linked
    rw [new, ← linked]
    rfl
  · rw [new]; rfl
  · rw [new]; rfl

/-- A mutation without an error has replayed, or it has written the session and recorded it. -/
theorem Mutation.perform_ok {m : Mutation} {session : Nat} {body : Answers}
    (h : m.perform settings request session body w = .ok (t, answer)) :
    (t = w ∧ answer.replayed = true) ∨ ∃ s s', w.sessions.lookup session = some s ∧
      ownsSession w.directory request.actor s.session.1 = true ∧
      w.records.lookup (request.scope m.operationId) = none ∧ m.write request s body = .ok s' ∧
      (t, answer) = QuestionnaireService.complete
        (pending w (request.scope m.operationId) (mutationHash settings session body)) s'
        (request.scope m.operationId) (mutationHash settings session body) 200 request.now 0 := by
  unfold Mutation.perform at h
  split at h
  · cases h
  · rename_i s locked
    have ⟨found, owned⟩ := Option.filter_eq_some_iff.1 locked
    rcases begin_ok h with replayed | ⟨unrecorded, h⟩
    · exact .inl replayed
    · have ⟨s', written, h⟩ := bind_eq_ok.1 h
      exact .inr ⟨s, s', found, owned, unrecorded, written, (Except.ok.inj h).symm⟩

theorem Mutation.perform_mutates {m : Mutation} {operation : Precheck} {session : Nat}
    {body : Answers} (names : operation.session = some session)
    (is : m.target = .submitted ↔ ∃ body, operation = .submitCarePrecheck session body)
    (h : m.perform settings request session body w = .ok (t, answer)) :
    (t = w ∧ answer.replayed = true) ∨
      (answer.replayed = false ∧ t.directory = w.directory ∧ KeepsAnswers w t ∧
        PrecheckEffect w request t operation) := by
  rcases Mutation.perform_ok h with replayed | ⟨s, s', found, _, unrecorded, written, same⟩
  · exact .inl replayed
  · have ⟨follows, link, unsubmitted, target⟩ := Mutation.write_ok written
    refine .inr ⟨?_, ?_, keeps_of_completed unrecorded (complete_records same), ?_⟩
    · rw [(Prod.mk.inj same).2]
      rfl
    · rw [(Prod.mk.inj same).1]
      rfl
    · refine .mutated names found follows link ?_ ?_ ?_ unsubmitted (target ▸ is)
      · rw [(Prod.mk.inj same).1]
        rfl
      · rw [(Prod.mk.inj same).1]
        rfl
      · rw [(Prod.mk.inj same).1]
        rfl

/-! ### The link to a new inquiry -/

theorem lockOptional_ok {subscription : Subscription} {named : Option Nat}
    {session : Option SessionAggregate}
    (h : InquiryLinkService.lockOptional w request.actor subscription named = .ok session) :
    (named = none ∧ session = none) ∨ ∃ id s, named = some id ∧ session = some s ∧
      w.sessions.lookup id = some s ∧ s.session.1.subscription = subscription.id ∧
      Linkable w.directory request.actor s.session.1 := by
  cases named with
  | none =>
      cases h
      exact .inl ⟨rfl, rfl⟩
  | some id =>
      have ⟨s, locked, same⟩ := map_eq_ok.1 h
      unfold InquiryLinkService.lockCandidate at locked
      split at locked
      · cases locked
      · rename_i found
        have ⟨open', kept⟩ := ite_error_eq_ok.1 locked
        cases kept
        have ⟨stored, passes⟩ := Option.filter_eq_some_iff.1 found
        have ⟨subscribed, owned⟩ := Bool.and_eq_true_iff.1 passes
        have ⟨submitted, unlinked⟩ := not_or.1 open'
        refine .inr ⟨id, s, rfl, same.symm, stored, of_decide_eq_true subscribed, ?_⟩
        refine ⟨owned, not_not.1 submitted, ?_⟩
        exact Option.not_isSome_iff_eq_none.1 unlinked

theorem link_ok {inquiry : Nat} {s s' : SessionAggregate} (unlinked : s.session.1.inquiry = none)
    (h : InquiryLinkService.link request inquiry s = .ok s') :
    Follows s s' ∧ s'.session.1.inquiry = some inquiry := by
  have ⟨saved, stored, h⟩ := bind_eq_ok.1 h
  have written := save_ok.1 stored
  have ⟨row, version, same⟩ := recordSession_ok h
  have new : s'.session.1 = saved.1 := by rw [same]
  refine ⟨⟨?_, ?_, ?_, ⟨row, ?_, ?_⟩, ?_, ?_⟩, ?_⟩
  · rw [new, written]
  · rw [new, written]
  · rw [new, written]
  · rw [version]
  · rw [same]
  · intro submitted
    rw [new, written]
    exact ⟨submitted, rfl⟩
  · intro other linked
    rw [unlinked] at linked
    cases linked
  · rw [new, written]

theorem startInquiry_links {values : StartValues}
    (h : startInquiry settings request values w = .ok (t, answer)) :
    (t = w ∧ answer.replayed = true) ∨
      (answer.replayed = false ∧ t.directory = w.directory ∧ KeepsAnswers w t ∧
        PrecheckEffect w request t (.startInquiry values)) := by
  have keeps : KeepsAnswers w t := @operation_keeps settings request w t answer (.start values) h
  unfold startInquiry at h
  split at h
  · cases h
  · rename_i subscription _
    split at h
    · exact .inl ⟨(replay_ok h).1, replay_replayed h⟩
    · rename_i unrecorded
      rw [withIdempotencyRecord_new unrecorded] at h
      have ⟨session, locked, h⟩ := bind_eq_ok.1 h
      have ⟨b, linked, opened, links, same⟩ := createInquiry_ok h
      have ⟨inquiries, _, directory, next⟩ := linkOptional_ok links
      have ⟨written, fresh⟩ := Prod.mk.inj same
      have stored : t.inquiries = w.inquiries.insert w.nextId b := by
        rw [written]
        exact congrArg (AList.insert w.nextId b) inquiries
      have used : t.nextId = w.nextId + 1 := by
        rw [written]
        exact congrArg (· + 1) next
      refine .inr ⟨by rw [fresh]; rfl, by rw [written]; exact directory, keeps, ?_⟩
      rcases lockOptional_ok locked with ⟨unnamed, none'⟩ | ⟨id, s, named, some', found, own, linkable⟩
      · cases none'
        cases links
        refine .created unnamed ?_ stored used
        rw [written]
        rfl
      · cases some'
        have ⟨s', linking, sessions⟩ := bind_eq_ok.1 links
        cases sessions
        have ⟨follows, link⟩ := link_ok linkable.unlinked linking
        refine .linked named found linkable follows link ?_ ?_ stored used
        · have ⟨row, _, first, _, whole⟩ := opened
          rw [whole, own]
          exact congrArg Inquiry.subscription first
        · rw [written]
          rfl

theorem precheck_ok {operation : Precheck}
    (h : operation.perform settings request w = .ok (t, answer)) :
    (t = w ∧ answer.replayed = true) ∨
      (answer.replayed = false ∧ t.directory = w.directory ∧ KeepsAnswers w t ∧
        PrecheckEffect w request t operation) := by
  cases operation with
  | startCarePrecheck _ => exact start_opens h
  | saveCarePrecheck _ _ =>
      exact Mutation.perform_mutates rfl ⟨fun target => (by cases target),
        fun ⟨_, is⟩ => nomatch is⟩ h
  | submitCarePrecheck _ body =>
      exact Mutation.perform_mutates rfl ⟨fun _ => ⟨body, rfl⟩, fun _ => rfl⟩ h
  | startInquiry _ => exact startInquiry_links h

/-- A step has left everything alone, or it has committed anew. -/
theorem precheck_cases {e : PrecheckEvent} (step : PrecheckStep settings w e t) :
    (t = w ∧ ∀ id, e.writes id = false) ∨
      (t.directory = w.directory ∧ KeepsAnswers w t ∧
        (∀ id, e.writes id = decide (e.operation.session = some id)) ∧
        PrecheckEffect w e.request t e.operation) := by
  have ⟨_, moved⟩ := step
  cases performed : e.operation.perform settings e.request w with
  | error failure =>
      rw [performed] at moved
      refine .inl ⟨moved.1, fun id => ?_⟩
      unfold PrecheckEvent.writes
      rw [moved.2, Bool.and_false]
  | ok result =>
      rw [performed] at moved
      obtain ⟨written, answer⟩ := result
      rcases precheck_ok performed with ⟨still, replayed⟩ | ⟨fresh, directory, keeps, effect⟩
      · refine .inl ⟨moved.1.trans still, fun id => ?_⟩
        unfold PrecheckEvent.writes
        rw [moved.2]
        change (_ && !answer.replayed) = false
        rw [replayed, Bool.not_true, Bool.and_false]
      · rw [← moved.1] at directory keeps effect
        refine .inr ⟨directory, keeps, fun id => ?_, effect⟩
        unfold PrecheckEvent.writes
        rw [moved.2]
        change (_ && !answer.replayed) = _
        rw [fresh, Bool.not_false, Bool.and_true]

/-! ### One step -/

/-- The sessions of a database under their own numbers, with links to stored inquiries. -/
structure Consistent (w : World) : Prop where
  keyed : ∀ id s, w.sessions.lookup id = some s → s.session.1.id = id ∧ id < w.nextId
  stored : ∀ inquiry a, w.aggregate inquiry = some a → inquiry < w.nextId
  linked : ∀ id s inquiry, w.sessions.lookup id = some s → s.session.1.inquiry = some inquiry →
    ∃ a, w.aggregate inquiry = some a ∧ a.q.subscription = s.session.1.subscription
  single : ∀ id id' s s' inquiry, w.sessions.lookup id = some s →
    w.sessions.lookup id' = some s' → s.session.1.inquiry = some inquiry →
    s'.session.1.inquiry = some inquiry → id = id'

/-- Where a session of the later database comes from. -/
inductive SessionMove (w t : World) (request : Request) (operation : Precheck) (id : Nat)
    (s' : SessionAggregate) : Prop
  | kept (found : w.sessions.lookup id = some s') (unnamed : operation.session ≠ some id)
  | born (absent : w.sessions.lookup id = none) (unnamed : operation.session = none)
      (newborn : Newborn s') (number : s'.session.1.id = id) (below : id < t.nextId)
  | followed {s : SessionAggregate} (found : w.sessions.lookup id = some s)
      (names : operation.session = some id) (follows : Follows s s')
      (same : s'.session.1.inquiry = s.session.1.inquiry)
      (unsubmitted : s.session.1.status ≠ .submitted)
      (target : s'.session.1.status = .submitted ↔ ∃ body, operation = .submitCarePrecheck id body)
  | linked {s : SessionAggregate} {values : StartValues} {a : Aggregate}
      (found : w.sessions.lookup id = some s) (is : operation = .startInquiry values)
      (names : values.questionnaireSessionId = some id)
      (linkable : Linkable w.directory request.actor s.session.1) (follows : Follows s s')
      (link : s'.session.1.inquiry = some w.nextId) (stored : t.aggregate w.nextId = some a)
      (subscription : a.q.subscription = s.session.1.subscription)

variable {operation : Precheck} {id : Nat} {s s' : SessionAggregate}

theorem PrecheckEffect.inquiries_cases (effect : PrecheckEffect w request t operation) :
    w.nextId ≤ t.nextId ∧ (t.inquiries = w.inquiries ∨
      ∃ a, t.inquiries = w.inquiries.insert w.nextId a ∧ t.nextId = w.nextId + 1) := by
  cases effect with
  | opened _ _ _ inquiries next => exact ⟨by omega, .inl inquiries⟩
  | mutated _ _ _ _ _ inquiries next => exact ⟨by omega, .inl inquiries⟩
  | created _ _ inquiries next => exact ⟨by omega, .inr ⟨_, inquiries, next⟩⟩
  | linked _ _ _ _ _ _ _ inquiries next => exact ⟨by omega, .inr ⟨_, inquiries, next⟩⟩

/-- An inquiry that is stored stays as it is. -/
theorem PrecheckEffect.aggregate_same (effect : PrecheckEffect w request t operation)
    {inquiry : Nat} (below : inquiry < w.nextId) : t.aggregate inquiry = w.aggregate inquiry := by
  unfold World.aggregate
  rcases effect.inquiries_cases.2 with same | ⟨a, inserted, _⟩
  · rw [same]
  · rw [inserted, AList.lookup_insert_ne (by omega)]

theorem PrecheckEffect.aggregate_below (effect : PrecheckEffect w request t operation)
    (consistent : Consistent w) {inquiry : Nat} {a : Aggregate}
    (found : t.aggregate inquiry = some a) : inquiry < t.nextId := by
  have ⟨grows, cases'⟩ := effect.inquiries_cases
  unfold World.aggregate at found
  rcases cases' with same | ⟨b, inserted, next⟩
  · rw [same] at found
    have below := consistent.stored _ _ found
    omega
  · by_cases new : inquiry = w.nextId
    · omega
    · rw [inserted, AList.lookup_insert_ne new] at found
      have below := consistent.stored _ _ found
      omega

/-- A session that an operation has written over, and every other session. -/
theorem lookup_written {m : AList fun _ : Nat => SessionAggregate} {other : Nat}
    (found : (m.insert other s).lookup id = some s') :
    (id = other ∧ s' = s) ∨ (id ≠ other ∧ m.lookup id = some s') := by
  by_cases same : id = other
  · rw [same, AList.lookup_insert] at found
    exact .inl ⟨same, (Option.some.inj found).symm⟩
  · rw [AList.lookup_insert_ne same] at found
    exact .inr ⟨same, found⟩

theorem PrecheckEffect.move (effect : PrecheckEffect w request t operation)
    (consistent : Consistent w) (found : t.sessions.lookup id = some s') :
    SessionMove w t request operation id s' := by
  cases effect with
  | opened newborn number sessions _ next =>
      rw [sessions] at found
      rcases lookup_written found with ⟨rfl, rfl⟩ | ⟨_, old⟩
      · refine .born ?_ rfl newborn number (by omega)
        cases absent : w.sessions.lookup w.nextId with
        | none => rfl
        | some old => exact absurd (consistent.keyed _ _ absent).2 (Nat.lt_irrefl _)
      · exact .kept old nofun
  | @mutated _ named s₁ s₂ names before follows same sessions _ _ unsubmitted target =>
      have key : s₂.session.1.id = named := follows.id.trans (consistent.keyed _ _ before).1
      rw [sessions, key] at found
      rcases lookup_written found with ⟨rfl, rfl⟩ | ⟨other, old⟩
      · exact .followed before names follows same unsubmitted target
      · refine .kept old fun names' => ?_
        exact other (Option.some.inj (names'.symm.trans names))
  | created unnamed sessions _ _ =>
      rw [sessions] at found
      refine .kept found fun names => ?_
      cases unnamed.symm.trans names
  | @linked values named s₁ s₂ a names before linkable follows link subscription sessions
      inquiries _ =>
      have key : s₂.session.1.id = named := follows.id.trans (consistent.keyed _ _ before).1
      rw [sessions, key] at found
      rcases lookup_written found with ⟨rfl, rfl⟩ | ⟨other, old⟩
      · refine .linked before rfl names linkable follows link ?_ subscription
        unfold World.aggregate
        rw [inquiries, AList.lookup_insert]
      · refine .kept old fun names' => ?_
        exact other (Option.some.inj (names'.symm.trans names))

/-- A session stays in the database. -/
theorem PrecheckEffect.remains (effect : PrecheckEffect w request t operation)
    (found : w.sessions.lookup id = some s) : ∃ s', t.sessions.lookup id = some s' := by
  have inserted {other : Nat} {new : SessionAggregate} :
      ∃ s', (w.sessions.insert other new).lookup id = some s' := by
    by_cases same : id = other
    · rw [same]
      exact ⟨new, AList.lookup_insert _⟩
    · exact ⟨s, (AList.lookup_insert_ne same).trans found⟩
  cases effect with
  | opened _ _ sessions _ _ => rw [sessions]; exact inserted
  | mutated _ _ _ _ sessions _ _ => rw [sessions]; exact inserted
  | created _ sessions _ _ => rw [sessions]; exact ⟨s, found⟩
  | linked _ _ _ _ _ _ sessions _ _ => rw [sessions]; exact inserted

/-- An operation that commits names a session that exists. -/
theorem PrecheckEffect.named (effect : PrecheckEffect w request t operation)
    (names : operation.session = some id) : ∃ s, w.sessions.lookup id = some s := by
  cases effect with
  | opened => cases names
  | mutated names' found =>
      cases names.symm.trans names'
      exact ⟨_, found⟩
  | created unnamed => cases unnamed.symm.trans names
  | linked names' found =>
      cases names.symm.trans names'
      exact ⟨_, found⟩

/-- A session that is not there afterwards was not there before and is not named. -/
theorem PrecheckEffect.absent (effect : PrecheckEffect w request t operation)
    (absent : t.sessions.lookup id = none) :
    w.sessions.lookup id = none ∧ operation.session ≠ some id := by
  have before : w.sessions.lookup id = none := by
    cases found : w.sessions.lookup id with
    | none => rfl
    | some s =>
        have ⟨s', found'⟩ := effect.remains found
        cases absent.symm.trans found'
  refine ⟨before, fun names => ?_⟩
  have ⟨s, found⟩ := effect.named names
  cases before.symm.trans found

/-- A link is an old one, or it is the link of the named session to the new inquiry. -/
theorem SessionMove.link_cases (move : SessionMove w t request operation id s') {inquiry : Nat}
    (linked : s'.session.1.inquiry = some inquiry) :
    (∃ s, w.sessions.lookup id = some s ∧ s.session.1.inquiry = some inquiry ∧
      s'.session.1.subscription = s.session.1.subscription) ∨
    (inquiry = w.nextId ∧ operation.session = some id ∧
      ∃ a, t.aggregate inquiry = some a ∧ a.q.subscription = s'.session.1.subscription) := by
  cases move with
  | kept found _ => exact .inl ⟨s', found, linked, rfl⟩
  | born _ _ newborn _ _ => cases newborn.unlinked.symm.trans linked
  | @followed s found _ follows same =>
      exact .inl ⟨s, found, same.symm.trans linked, follows.subscription⟩
  | linked _ is names _ follows link stored subscription =>
      cases Option.some.inj (linked.symm.trans link)
      refine .inr ⟨rfl, ?_, _, stored, subscription.trans follows.subscription.symm⟩
      rw [is]
      exact names

theorem Consistent.effect (consistent : Consistent w)
    (effect : PrecheckEffect w request t operation) : Consistent t := by
  have grows := effect.inquiries_cases.1
  have old {id : Nat} {s : SessionAggregate} {inquiry : Nat}
      (found : w.sessions.lookup id = some s) (linked : s.session.1.inquiry = some inquiry) :
      inquiry < w.nextId := by
    have ⟨_, there, _⟩ := consistent.linked _ _ _ found linked
    exact consistent.stored _ _ there
  refine ⟨fun id s' found => ?_, fun _ _ found => effect.aggregate_below consistent found,
    fun id s' inquiry found linked => ?_, fun id id' s₁ s₂ inquiry first second l₁ l₂ => ?_⟩
  · cases effect.move consistent found with
    | kept found _ =>
        have ⟨number, below⟩ := consistent.keyed _ _ found
        exact ⟨number, by omega⟩
    | born _ _ _ number below => exact ⟨number, below⟩
    | followed found _ follows _ | linked found _ _ _ follows _ _ _ =>
        have ⟨number, below⟩ := consistent.keyed _ _ found
        exact ⟨follows.id.trans number, by omega⟩
  · rcases (effect.move consistent found).link_cases linked with
      ⟨s, before, link, same⟩ | ⟨_, _, a, there, subscribed⟩
    · have ⟨a, there, subscribed⟩ := consistent.linked _ _ _ before link
      refine ⟨a, (effect.aggregate_same (old before link)).trans there, ?_⟩
      rw [same]
      exact subscribed
    · exact ⟨a, there, subscribed⟩
  · rcases (effect.move consistent first).link_cases l₁ with
      ⟨s, before, link, _⟩ | ⟨new, names, _⟩
    · rcases (effect.move consistent second).link_cases l₂ with
        ⟨s', before', link', _⟩ | ⟨new, _⟩
      · exact consistent.single _ _ _ _ _ before before' link link'
      · have below := old before link
        omega
    · rcases (effect.move consistent second).link_cases l₂ with
        ⟨s', before', link', _⟩ | ⟨_, names', _⟩
      · have below := old before' link'
        omega
      · exact Option.some.inj (names.symm.trans names')

/-! ### Runs -/

/-- A session of a later database: a submitted session keeps its answers, and a link stays. -/
structure Persists (s s' : SessionAggregate) : Prop where
  subscription : s'.session.1.subscription = s.session.1.subscription
  settled : s.session.1.status = .submitted → s'.session.1.status = .submitted ∧
    s'.session.1.answersPayload = s.session.1.answersPayload
  linked : ∀ inquiry, s.session.1.inquiry = some inquiry → s'.session.1.inquiry = some inquiry

theorem Persists.refl (s : SessionAggregate) : Persists s s :=
  ⟨rfl, fun submitted => ⟨submitted, rfl⟩, fun _ linked => linked⟩

theorem Persists.trans {r : SessionAggregate} (first : Persists r s) (second : Persists s s') :
    Persists r s' := by
  refine ⟨second.subscription.trans first.subscription, fun submitted => ?_,
    fun inquiry linked => second.linked _ (first.linked _ linked)⟩
  have ⟨still, answers⟩ := first.settled submitted
  have ⟨still', answers'⟩ := second.settled still
  exact ⟨still', answers'.trans answers⟩

theorem Follows.persists (follows : Follows s s') : Persists s s' :=
  ⟨follows.subscription, follows.settled, follows.linked⟩

/-- The version of a session counts its writes, and its history has one row for each version. -/
structure Counted (labels : List PrecheckEvent) (id : Nat) (s : SessionAggregate) : Prop where
  version : s.session.1.stateVersion = 1 + labels.countP (PrecheckEvent.writes id)
  history : s.history.map (·.1.stateVersion) = List.range' 1 s.session.1.stateVersion

variable {e : PrecheckEvent} {labels more : List PrecheckEvent} {start u : World}

theorem consistent_step (consistent : Consistent w) (step : PrecheckStep settings w e t) :
    Consistent t := by
  rcases precheck_cases step with ⟨still, _⟩ | ⟨_, _, _, effect⟩
  · rw [still]
    exact consistent
  · exact consistent.effect effect

theorem persists_step (consistent : Consistent w) (step : PrecheckStep settings w e t)
    (found : w.sessions.lookup id = some s) :
    ∃ s', t.sessions.lookup id = some s' ∧ Persists s s' := by
  rcases precheck_cases step with ⟨still, _⟩ | ⟨_, _, _, effect⟩
  · rw [still]
    exact ⟨s, found, .refl s⟩
  · have ⟨s', found'⟩ := effect.remains found
    refine ⟨s', found', ?_⟩
    cases effect.move consistent found' with
    | kept before _ =>
        cases Option.some.inj (found.symm.trans before)
        exact .refl s
    | born absent _ _ _ _ => cases absent.symm.trans found
    | followed before _ follows _ | linked before _ _ _ follows _ _ _ =>
        cases Option.some.inj (found.symm.trans before)
        exact follows.persists

theorem run_persists (consistent : Consistent w) (run : Run (PrecheckStep settings) w more u) :
    u.directory = w.directory ∧ KeepsAnswers w u ∧ Consistent u ∧
      ∀ id s, w.sessions.lookup id = some s →
        ∃ s', u.sessions.lookup id = some s' ∧ Persists s s' := by
  induction run with
  | refl => exact ⟨rfl, keeps_of_same rfl, consistent, fun _ s found => ⟨s, found, .refl s⟩⟩
  | snoc _ step ih =>
      have ⟨directory, keeps, consistent', sessions⟩ := ih
      refine ⟨?_, ?_, consistent_step consistent' step, fun id s found => ?_⟩
      · rcases precheck_cases step with ⟨still, _⟩ | ⟨same, _⟩
        · rw [still]
          exact directory
        · exact same.trans directory
      · intro scope record stored
        rcases precheck_cases step with ⟨still, _⟩ | ⟨_, further, _⟩
        · rw [still]
          exact keeps _ _ stored
        · exact further _ _ (keeps _ _ stored)
      · have ⟨s₁, found₁, first⟩ := sessions _ _ found
        have ⟨s₂, found₂, second⟩ := persists_step consistent' step found₁
        exact ⟨s₂, found₂, first.trans second⟩

theorem countP_snoc : (labels ++ [e]).countP (PrecheckEvent.writes id) =
    labels.countP (PrecheckEvent.writes id) + if e.writes id then 1 else 0 := by
  rw [List.countP_append, List.countP_singleton]

/-- `ck_qsession_inquiry_link` binds a link to a submitted session. -/
theorem submitted_of_linked (s : Stored QuestionnaireSession) {inquiry : Nat}
    (linked : s.1.inquiry = some inquiry) : s.1.status = .submitted := by
  have accepted := (Bool.and_eq_true_iff.1 s.2).2
  unfold QuestionnaireSession.inquiryLink at accepted
  rw [linked, if_neg (by simp)] at accepted
  exact of_decide_eq_true (Bool.and_eq_true_iff.1 accepted).1

theorem Follows.counted (follows : Follows s s')
    (one : (labels ++ [e]).countP (PrecheckEvent.writes id) =
      labels.countP (PrecheckEvent.writes id) + 1)
    (counted : Counted labels id s) : Counted (labels ++ [e]) id s' := by
  have ⟨row, version, rows⟩ := follows.history
  refine ⟨?_, ?_⟩
  · rw [follows.version, counted.version, one]
    omega
  · rw [rows, List.map_append, counted.history, List.map_singleton, version, follows.version,
      List.range'_concat, Nat.one_mul, Nat.add_comm 1]

/-- A database without inquiries and sessions. -/
def PrecheckInitial (w : World) : Prop := Initial w ∧ w.sessions = ∅

theorem initial_consistent (initial : PrecheckInitial start) : Consistent start := by
  have none' (id : Nat) : start.sessions.lookup id = none := by
    rw [initial.2]
    rfl
  have empty (inquiry : Nat) : start.aggregate inquiry = none := by
    unfold World.aggregate
    rw [initial.1.1]
    rfl
  refine ⟨fun id s found => ?_, fun i a found => ?_, fun id s _ found => ?_,
    fun id _ s _ _ found => ?_⟩
  · cases (none' id).symm.trans found
  · cases (empty i).symm.trans found
  · cases (none' id).symm.trans found
  · cases (none' id).symm.trans found

theorem run_counted (initial : PrecheckInitial start)
    (run : Run (PrecheckStep settings) start labels w) (id : Nat) :
    (w.sessions.lookup id = none → labels.countP (PrecheckEvent.writes id) = 0) ∧
      ∀ s, w.sessions.lookup id = some s → Counted labels id s := by
  induction run with
  | refl =>
      refine ⟨fun _ => rfl, fun s found => ?_⟩
      rw [initial.2] at found
      cases found
  | @snoc labels w t e before step ih =>
      have consistent := (run_persists (initial_consistent initial) before).2.2.1
      rcases precheck_cases step with ⟨still, silent⟩ | ⟨_, _, counts, effect⟩
      · have same := @countP_snoc id e labels
        rw [silent id, if_neg Bool.false_ne_true, Nat.add_zero] at same
        rw [still, same]
        refine ⟨ih.1, fun s found => ?_⟩
        have ⟨version, history⟩ := ih.2 s found
        exact ⟨by rw [same]; exact version, history⟩
      · have counted := @countP_snoc id e labels
        rw [counts id] at counted
        refine ⟨fun absent => ?_, fun s' found => ?_⟩
        · have ⟨before, unnamed⟩ := effect.absent absent
          rw [counted, if_neg (by simp [unnamed]), ih.1 before]
        · cases effect.move consistent found with
          | kept found unnamed =>
              rw [if_neg (by simp [unnamed])] at counted
              have ⟨version, history⟩ := ih.2 s' found
              exact ⟨by rw [counted]; exact version, history⟩
          | born absent unnamed newborn _ _ =>
              rw [if_neg (by simp [unnamed]), ih.1 absent] at counted
              have ⟨row, first, rows⟩ := newborn.history
              refine ⟨by rw [counted]; exact newborn.version, ?_⟩
              rw [newborn.version, rows, List.map_singleton, first]
              rfl
          | followed found names follows _ =>
              rw [if_pos (by simp [names])] at counted
              exact follows.counted counted (ih.2 _ found)
          | linked found is names _ follows _ _ _ =>
              have names' : e.operation.session = some id := by rw [is]; exact names
              rw [if_pos (by simp [names'])] at counted
              exact follows.counted counted (ih.2 _ found)

/-- A submission of a session that commits anew. -/
def SubmitsSession (id : Nat) (e : PrecheckEvent) : Prop :=
  (∃ body, e.operation = .submitCarePrecheck id body) ∧ e.writes id = true

theorem submits_snoc : (∃ e' ∈ labels ++ [e], SubmitsSession id e') ↔
    (∃ e' ∈ labels, SubmitsSession id e') ∨ SubmitsSession id e := by
  simp only [List.mem_append, List.mem_singleton]
  constructor
  · rintro ⟨e', earlier | same, submits⟩
    · exact .inl ⟨e', earlier, submits⟩
    · exact .inr (same ▸ submits)
  · rintro (⟨e', earlier, submits⟩ | submits)
    · exact ⟨e', .inl earlier, submits⟩
    · exact ⟨e, .inr rfl, submits⟩

/-- A session is submitted exactly if a submission of it has committed. -/
theorem run_submitted (initial : PrecheckInitial start)
    (run : Run (PrecheckStep settings) start labels w) (id : Nat) :
    (w.sessions.lookup id = none → ¬∃ e ∈ labels, SubmitsSession id e) ∧
      ∀ s, w.sessions.lookup id = some s →
        (s.session.1.status = .submitted ↔ ∃ e ∈ labels, SubmitsSession id e) := by
  induction run with
  | refl =>
      refine ⟨fun _ ⟨_, mem, _⟩ => absurd mem List.not_mem_nil, fun s found => ?_⟩
      rw [initial.2] at found
      cases found
  | @snoc labels w t e before step ih =>
      have consistent := (run_persists (initial_consistent initial) before).2.2.1
      have silent (quiet : ¬SubmitsSession id e) : (∃ e' ∈ labels ++ [e], SubmitsSession id e') ↔
          ∃ e' ∈ labels, SubmitsSession id e' :=
        submits_snoc.trans (or_iff_left quiet)
      rcases precheck_cases step with ⟨still, unwritten⟩ | ⟨_, _, counts, effect⟩
      · have quiet : ¬SubmitsSession id e := fun submits =>
          absurd ((unwritten id).symm.trans submits.2) Bool.false_ne_true
        rw [still, silent quiet]
        exact ih
      · have named (submits : SubmitsSession id e) : e.operation.session = some id :=
          of_decide_eq_true ((counts id).symm.trans submits.2)
        refine ⟨fun absent => ?_, fun s' found => ?_⟩
        · have ⟨before, unnamed⟩ := effect.absent absent
          rw [silent fun submits => unnamed (named submits)]
          exact ih.1 before
        · cases effect.move consistent found with
          | kept found unnamed =>
              rw [silent fun submits => unnamed (named submits)]
              exact ih.2 s' found
          | born absent unnamed newborn _ _ =>
              rw [silent fun submits => by cases unnamed.symm.trans (named submits)]
              exact iff_of_false newborn.unsubmitted (ih.1 absent)
          | followed found names _ _ unsubmitted target =>
              have none' := mt (ih.2 _ found).2 unsubmitted
              rw [target, submits_snoc, or_iff_right none']
              refine ⟨fun is => ⟨is, ?_⟩, fun submits => submits.1⟩
              rw [counts id, names]
              exact decide_eq_true rfl
          | linked found is _ linkable follows _ _ _ =>
              have quiet : ¬SubmitsSession id e := fun ⟨⟨_, submits⟩, _⟩ => by cases is.symm.trans submits
              rw [silent quiet, ← ih.2 _ found]
              exact iff_of_true (follows.settled linkable.submitted).1 linkable.submitted

/-! ### Retries -/

/-- The mutation an operation is, with its session and its body. -/
def mutationOf : Precheck → Option (Mutation × Nat × Answers)
  | .saveCarePrecheck session body => some (saving, session, body)
  | .submitCarePrecheck session body => some (submitting, session, body)
  | .startCarePrecheck _ | .startInquiry _ => none

theorem perform_of_mutation {m : Mutation} {session : Nat} {body : Answers}
    (is : mutationOf operation = some (m, session, body)) :
    operation.perform settings request w = m.perform settings request session body w := by
  cases operation with
  | startCarePrecheck _ | startInquiry _ => cases is
  | saveCarePrecheck _ _ | submitCarePrecheck _ _ =>
      cases is
      rfl

/-- A committed mutation has stored its answer. -/
theorem mutation_stored {m : Mutation} {session : Nat} {body : Answers}
    (step : PrecheckStep settings w e t) (is : mutationOf e.operation = some (m, session, body))
    (commits : e.writes session = true) :
    ∃ s s' : SessionAggregate, w.sessions.lookup session = some s ∧
      ownsSession w.directory e.request.actor s.session.1 = true ∧
      e.outcome = .ok (.fresh 200 (QuestionnaireService.serialize s'.session.1)) ∧
      t.records.lookup (e.request.scope m.operationId) =
        some ⟨mutationHash settings session body, some 200,
          QuestionnaireService.serialize s'.session.1, some s'.session.1.id,
          some e.request.now⟩ := by
  have ⟨_, moved⟩ := step
  rw [perform_of_mutation is] at moved
  unfold PrecheckEvent.writes at commits
  have fresh := (Bool.and_eq_true_iff.1 commits).2
  cases performed : m.perform settings e.request session body w with
  | error failure =>
      rw [performed] at moved
      rw [moved.2] at fresh
      cases fresh
  | ok result =>
      obtain ⟨written, answer⟩ := result
      rw [performed] at moved
      rw [moved.2] at fresh
      rcases Mutation.perform_ok performed with
        ⟨_, replayed⟩ | ⟨s, s', found, owned, _, _, same⟩
      · change (!answer.replayed) = true at fresh
        rw [replayed] at fresh
        cases fresh
      · refine ⟨s, s', found, owned, ?_, ?_⟩
        · rw [moved.2, (Prod.mk.inj same).2]
        · rw [moved.1, complete_records same, AList.lookup_insert]

theorem mutation_repeats {m : Mutation} {session : Nat} {body : Answers}
    (consistent : Consistent w) (step : PrecheckStep settings w e t)
    (is : mutationOf e.operation = some (m, session, body)) (commits : e.writes session = true) :
    ∃ status stored, e.outcome = .ok (.fresh status stored) ∧ ∀ more u again v,
      Run (PrecheckStep settings) t more u → PrecheckStep settings u again v →
      again.operation = e.operation → again.request.actor.id = e.request.actor.id →
      again.request.idempotencyKey = e.request.idempotencyKey →
      v = u ∧ again.outcome =
        .ok (.stored status (assign stored (.str "idempotent_replay") (.bool true))) := by
  have ⟨s, s', found, owned, outcome, record⟩ := mutation_stored step is commits
  refine ⟨200, _, outcome, fun more u again v rest repeated same actor key => ?_⟩
  have ⟨directory, keeps, _, sessions⟩ := run_persists consistent (.trans (.snoc .refl step) rest)
  have ⟨_, later, _, _⟩ := run_persists (consistent_step consistent step) rest
  have ⟨s₁, found₁, persists⟩ := sessions _ _ found
  have own : ownsSession u.directory again.request.actor s₁.session.1 = true := by
    unfold ownsSession at owned ⊢
    rw [directory, persists.subscription, actor]
    exact owned
  have locked : lockOwnedSession u again.request.actor session = some s₁ :=
    Option.filter_eq_some_iff.2 ⟨found₁, own⟩
  have scope : again.request.scope m.operationId = e.request.scope m.operationId := by
    unfold Request.scope
    rw [actor, key]
  have stored := later _ _ record
  rw [← scope] at stored
  have performed : again.operation.perform settings again.request u = .ok (u, .stored 200
      (assign (QuestionnaireService.serialize s'.session.1) (.str "idempotent_replay")
        (.bool true))) := by
    rw [same, perform_of_mutation is]
    unfold Mutation.perform QuestionnaireService.beginIdempotentOperation
    rw [locked]
    dsimp only
    rw [stored]
    exact (replay_cases rfl).1 rfl
  have ⟨_, moved⟩ := repeated
  rw [performed] at moved
  exact moved

/-! ### Every run -/

/-- In every run the version of a session counts its writes and has its row in the history, and the
session is submitted once a submission of it has committed. A link belongs to one submitted session
and to an inquiry of its subscription; it is made once, by the owner. A submitted session keeps its
answers, a retry gets the stored answer, and a refused operation changes nothing. -/
theorem run_prechecks (initial : PrecheckInitial start)
    (run : Run (PrecheckStep settings) start labels w) :
    (∀ id s, w.sessions.lookup id = some s → Counted labels id s ∧
      (s.session.1.status = .submitted ↔ ∃ e ∈ labels, SubmitsSession id e) ∧
      ∀ inquiry, s.session.1.inquiry = some inquiry → s.session.1.status = .submitted ∧
        (∃ a, w.aggregate inquiry = some a ∧ a.q.subscription = s.session.1.subscription) ∧
        ∀ id' s', w.sessions.lookup id' = some s' → s'.session.1.inquiry = some inquiry →
          id' = id) ∧
    (∀ more u, Run (PrecheckStep settings) w more u → ∀ id s, w.sessions.lookup id = some s →
      ∃ s', u.sessions.lookup id = some s' ∧ Persists s s') ∧
    ∀ e t, PrecheckStep settings w e t →
      (∀ failure, e.outcome = .error failure → t = w) ∧
      (∀ id s' inquiry, t.sessions.lookup id = some s' → s'.session.1.inquiry = some inquiry →
        ∃ s, w.sessions.lookup id = some s ∧ (s.session.1.inquiry = some inquiry ∨
          Linkable w.directory e.request.actor s.session.1 ∧ ∃ values,
            e.operation = .startInquiry values ∧ values.questionnaireSessionId = some id)) ∧
      ∀ m session body, mutationOf e.operation = some (m, session, body) →
        e.writes session = true → ∃ status stored, e.outcome = .ok (.fresh status stored) ∧
          ∀ more u again v, Run (PrecheckStep settings) t more u →
            PrecheckStep settings u again v → again.operation = e.operation →
            again.request.actor.id = e.request.actor.id →
            again.request.idempotencyKey = e.request.idempotencyKey →
            v = u ∧ again.outcome =
              .ok (.stored status (assign stored (.str "idempotent_replay") (.bool true))) := by
  have consistent := (run_persists (initial_consistent initial) run).2.2.1
  refine ⟨fun id s found => ⟨(run_counted initial run id).2 s found,
      (run_submitted initial run id).2 s found, fun inquiry linked => ?_⟩,
    fun more u rest => (run_persists consistent rest).2.2.2, fun e t step => ⟨?_, ?_, ?_⟩⟩
  · refine ⟨?_, consistent.linked _ _ _ found linked, fun id' s' other linked' => ?_⟩
    · exact submitted_of_linked s.session linked
    · exact consistent.single _ _ _ _ _ other found linked' linked
  · intro failure refused
    have ⟨_, moved⟩ := step
    cases performed : e.operation.perform settings e.request w with
    | error _ =>
        rw [performed] at moved
        exact moved.1
    | ok _ =>
        rw [performed] at moved
        cases moved.2.symm.trans refused
  · intro id s' inquiry found linked
    rcases precheck_cases step with ⟨still, _⟩ | ⟨_, _, _, effect⟩
    · rw [still] at found
      exact ⟨s', found, .inl linked⟩
    · cases effect.move consistent found with
      | kept before _ => exact ⟨s', before, .inl linked⟩
      | born _ _ newborn _ _ => cases newborn.unlinked.symm.trans linked
      | followed before _ _ same => exact ⟨_, before, .inl (same.symm.trans linked)⟩
      | linked before is names linkable _ _ _ _ =>
          exact ⟨_, before, .inr ⟨linkable, _, is, names⟩⟩
  · intro m session body is commits
    exact mutation_repeats consistent step is commits

/-! ### A session from its start to its link -/

/-- An operation with its outcome, and the database after it. -/
def precheckOf (settings : Settings) (w : World) (request : Request) (operation : Precheck) :
    PrecheckEvent × World :=
  match operation.perform settings request w with
  | .ok (t, answer) => (⟨request, operation, .ok answer⟩, t)
  | .error failure => (⟨request, operation, .error failure⟩, w)

theorem precheckOf_step {request : Request} {operation : Precheck}
    (known : w.directory.user request.actor.id = some request.actor) :
    PrecheckStep settings w (precheckOf settings w request operation).1
      (precheckOf settings w request operation).2 := by
  unfold precheckOf
  cases performed : operation.perform settings request w with
  | error failure =>
      refine ⟨known, ?_⟩
      change match operation.perform settings request w with | _ => _
      rw [performed]
      exact ⟨rfl, rfl⟩
  | ok result =>
      refine ⟨known, ?_⟩
      change match operation.perform settings request w with | _ => _
      rw [performed]
      exact ⟨rfl, rfl⟩

end
namespace PrecheckSample
open Sample

def answers (n : Nat) : Dict := [(.str "LEAK", .str (toString n))]

/-- The customer starts a session, saves and submits it, and opens an inquiry with it. -/
def operations : List Precheck :=
  [ .startCarePrecheck 1, .saveCarePrecheck 10 ⟨1, answers 1⟩,
    .submitCarePrecheck 10 ⟨2, answers 2⟩,
    .startInquiry ⟨1, .web, "no cold water", none, some 10⟩ ]

def after : Nat → World
  | 0 => world
  | n + 1 => (precheckOf settings (after n) (request customer (100 + n))
      (operations.getD n (.startCarePrecheck 1))).2

def event (n : Nat) : PrecheckEvent :=
  (precheckOf settings (after n) (request customer (100 + n))
    (operations.getD n (.startCarePrecheck 1))).1

theorem after_run (n : Nat) (known : ∀ k < n,
    (after k).directory.user customer.id = some customer) :
    Run (PrecheckStep settings) world ((List.range n).map event) (after n) := by
  induction n with
  | zero => exact .refl
  | succ n ih =>
      rw [List.range_succ, List.map_append]
      refine .snoc (ih fun k below => known k (by omega)) ?_
      exact precheckOf_step (known n (by omega))

end PrecheckSample

open PrecheckSample in
theorem run_prechecks_linked :
    ∃ labels s, Run (PrecheckStep Sample.settings) Sample.world labels (after 4) ∧
      (after 4).sessions.lookup 10 = some s ∧ s.session.1.inquiry = some 11 ∧
      s.session.1.stateVersion = 1 + labels.countP (PrecheckEvent.writes 10) ∧
      (∃ e ∈ labels, SubmitsSession 10 e) ∧
      ∃ a, (after 4).aggregate 11 = some a ∧
        a.q.subscription = s.session.1.subscription := by
  have known : ∀ k < 4, (after k).directory.user Sample.customer.id = some Sample.customer := by
    decide +kernel
  have run := after_run 4 known
  have link : ((after 4).sessions.lookup 10).bind (·.session.1.inquiry) = some 11 := by
    decide +kernel
  have ⟨s, found, linked⟩ := Option.bind_eq_some_iff.1 link
  have ⟨counted, submitted, links⟩ := (run_prechecks ⟨Sample.world_initial, rfl⟩ run).1 10 s found
  have ⟨status, own, _⟩ := links 11 linked
  exact ⟨_, s, run, found, linked, counted.version, submitted.1 status, own⟩

end WaterCare.Runtime
