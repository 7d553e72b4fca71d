import WaterCare.Runtime.History
import WaterCare.Runtime.Updates

/-!
The end of an inquiry. The handler of the latest completion finalizes it, after its customer has
confirmed this completion and has not come back since.
-/

namespace WaterCare.Runtime
open Machine Workflow Store Service Py Analysis

/-! ### Overtaken feedback -/

/-- Feedback of the given time no longer counts: the inquiry does not wait for its finalization, or
a consultation was completed later. -/
def Overtaken (since : Instant) (a : Aggregate) : Prop :=
  a.q.status ≠ .completionPending ∨
    ∃ c ∈ a.consultations, c.1.status = .completed ∧ ∃ time, c.1.completedAt = some time ∧
      since < time

/-- The events that lead to the finalization end a consultation, or the inquiry is there already. -/
theorem completing_rules : ∀ rule ∈ shipped.transitions, rule.target = .completionPending →
    rule.source = some .completionPending ∨
      keepsConsultations rule.event = false ∧ asksConsultation rule.event = false ∧
        rule.event ≠ .cancelInquiry ∧ rule.event ≠ .claimConsultation ∧
        rule.event ≠ .startConsultation ∧ rule.event ≠ .updateConsultationSummary ∧
        rule.event ≠ .confirmConsultationSummary ∧ rule.event ≠ .visitReviewRequired := by
  decide

theorem reopening_rules : ∀ rule ∈ shipped.transitions,
    rule.event = .customerReportedUnresolved ∨ rule.event = .requestConsultation →
    rule.target ≠ .completionPending := by
  decide

theorem opening_rules : ∀ rule ∈ shipped.transitions, rule.event = .registerPhoneInquiry →
    rule.target ≠ .completionPending := by
  decide

theorem finalizing_rules : ∀ rule ∈ shipped.transitions, rule.event = .finalizeInquiry →
    rule.source = some .completionPending ∧ rule.target = .resolved ∧
      GuardId.actorLastHandler ∈ rule.guardRefs ∧
      GuardId.resolvedCustomerFeedbackExists ∈ rule.guardRefs := by
  decide

section
variable {assigned : Option Nat} {now since : Instant} {limit used : Nat} {event : Option EventCode}
  {x y : Consultation} {a b : Aggregate} {causes : EventCode → Plan → Prop}

/-- A completed consultation stays completed, at its time or at a later one. -/
theorem Edited.completed_keeps (edit : Edited assigned now event x y) (done : x.status = .completed)
    {time : Instant} (at_ : x.completedAt = some time) :
    y.status = .completed ∧ (y.completedAt = some time ∨ y.completedAt = some now) := by
  have out {q : Prop} {p : ConsultationStatus → Bool} (h : p x.status = true)
      (never : p .completed = false) : q := by
    rw [done, never] at h
    cases h
  cases edit with
  | refreshed _ _ _ pending => exact out pending rfl
  | claimed _ waiting =>
      rw [done] at waiting
      cases waiting
  | started _ pending => exact out pending rfl
  | summarized => exact ⟨done, .inl at_⟩
  | confirmed => exact ⟨done, .inl at_⟩
  | completed => exact ⟨rfl, .inr rfl⟩
  | reviewed => exact ⟨done, .inl at_⟩
  | notNeeded => exact ⟨rfl, .inr rfl⟩
  | cancelled _ active => exact out active rfl
  | reassigned _ _ running => exact absurd done running
  | drafted _ active => exact out active rfl

/-- A later completion is still there after a change. -/
theorem Consulted.completed_keeps {cs cs' : List (Stored Consultation)}
    (consulted : Consulted assigned now limit event cs cs') (later : since < now)
    (done : ∃ c ∈ cs, c.1.status = .completed ∧ ∃ time, c.1.completedAt = some time ∧
      since < time) :
    ∃ c ∈ cs', c.1.status = .completed ∧ ∃ time, c.1.completedAt = some time ∧ since < time := by
  have ⟨c, mem, completed, time, at_, after⟩ := done
  cases consulted with
  | kept => exact done
  | @edited older last row edit =>
      rcases List.mem_append.1 mem with old | new
      · exact ⟨c, List.mem_append_left _ old, completed, time, at_, after⟩
      · cases List.mem_singleton.1 new
        have ⟨still, when_⟩ := edit.completed_keeps completed at_
        refine ⟨row, List.mem_append_right _ (List.mem_singleton_self _), still, ?_⟩
        rcases when_ with same | anew
        · exact ⟨time, same, after⟩
        · exact ⟨now, anew, later⟩
  | added => exact ⟨c, List.mem_append_left _ mem, completed, time, at_, after⟩

/-- A transition that leads to the finalization from elsewhere completes a consultation. -/
theorem Transition.completes {plan : Plan} {e : EventCode} (move : Transition limit now e plan a b)
    (before : a.q.status ≠ .completionPending) (after : b.q.status = .completionPending) :
    ∃ c ∈ b.consultations, c.1.status = .completed ∧ c.1.completedAt = some now := by
  have ⟨listed, fires, source⟩ := move.rule_mem
  have target := move.status.symm.trans after
  rcases completing_rules _ listed target with there | ⟨keeps, asks, cancel, claim, start, save,
    confirm, review⟩
  · rw [source] at there
    exact absurd (Option.some.inj there) before
  · rw [fires] at keeps asks cancel claim start save confirm review
    generalize left : a.consultations = cs, right : b.consultations = cs' at *
    have consulted := move.consultations
    rw [left, right] at consulted
    generalize named : some e = event at consulted
    cases consulted with
    | kept still =>
        rcases still e named.symm with kept | ⟨cancelled, _⟩
        · rw [keeps] at kept
          cases kept
        · exact absurd cancelled cancel
    | @edited older last row edit =>
        refine ⟨row, List.mem_append_right _ (List.mem_singleton_self _), ?_⟩
        generalize before' : last.1 = x, after' : row.1 = y at edit
        cases edit with
        | refreshed _ _ asked _ =>
            cases named
            rw [asks] at asked
            cases asked
        | claimed =>
            cases named
            exact absurd rfl claim
        | started =>
            cases named
            exact absurd rfl start
        | summarized =>
            cases named
            exact absurd rfl save
        | confirmed =>
            cases named
            exact absurd rfl confirm
        | completed => exact ⟨rfl, rfl⟩
        | reviewed =>
            cases named
            exact absurd rfl review
        | notNeeded => exact ⟨rfl, rfl⟩
        | cancelled =>
            cases named
            exact absurd rfl cancel
        | reassigned => cases named
        | drafted => cases named
    | @added _ row e' is add =>
        cases named.trans is
        generalize new : row.1 = y at add
        cases add with
        | waiting _ _ _ asked _ =>
            rw [asks] at asked
            cases asked
        | running => exact absurd rfl start

/-- Overtaken feedback stays overtaken. -/
theorem Change.overtaken (change : Change causes limit used now a b) (later : since < now)
    (overtaken : Overtaken since a) : Overtaken since b := by
  rcases overtaken with elsewhere | done
  · by_cases after : b.q.status = .completionPending
    · right
      have still (same : b.q.status = a.q.status) : False := elsewhere (same.symm.trans after)
      cases change with
      | moved e plan _ move _ =>
          have ⟨c, mem, completed, time⟩ := move.completes elsewhere after
          exact ⟨c, mem, completed, now, time, later⟩
      | reported _ inquiry _ _ _ _ =>
          rw [inquiry] at still
          exact absurd rfl still
      | reassigned _ inquiry _ _ _ _ _ =>
          rw [inquiry] at still
          exact absurd rfl still
      | still same => exact absurd same.status still
      | drafted inquiry _ _ _ _ =>
          have same : b.q = a.q := congrArg Subtype.val inquiry
          rw [same] at still
          exact absurd rfl still
    · exact .inl after
  · have ⟨_, consulted, _⟩ := change.consulted
    exact .inr (consulted.completed_keeps later done)

end

/-! ### The latest completion -/

section
variable {α : Type} {done : α → Bool} {time : α → Option Instant} {id : α → Nat} {rows : List α}
  {x y : α} {t : Instant}

theorem newest_completed
    (found : newest (fun r => toLex ((time r).getD 0, id r))
      (rows.filter fun r => done r && (time r).isSome) = some x) :
    x ∈ rows ∧ done x = true ∧ time x = some ((time x).getD 0) := by
  have ⟨there, kept⟩ := List.mem_filter.1 (List.argmax_mem found)
  rw [Bool.and_eq_true] at kept
  have ⟨t, is⟩ := Option.isSome_iff_exists.1 kept.2
  refine ⟨there, kept.1, ?_⟩
  rw [is]
  rfl

/-- A completed row is no later than the newest one, which exists. -/
theorem completed_le (mem : y ∈ rows) (completed : done y = true) (is : time y = some t) :
    ∃ x, newest (fun r => toLex ((time r).getD 0, id r))
        (rows.filter fun r => done r && (time r).isSome) = some x ∧ t ≤ (time x).getD 0 := by
  have listed : y ∈ rows.filter fun r => done r && (time r).isSome := by
    refine List.mem_filter.2 ⟨mem, ?_⟩
    rw [completed, is]
    rfl
  cases found : newest (fun r => toLex ((time r).getD 0, id r))
      (rows.filter fun r => done r && (time r).isSome) with
  | none =>
      have empty := List.argmax_eq_none.1 found
      rw [empty] at listed
      exact absurd listed List.not_mem_nil
  | some x =>
      refine ⟨x, rfl, ?_⟩
      have before := Prod.Lex.toLex_le_toLex.1 (List.le_of_mem_argmax listed found)
      rw [is] at before
      rcases before with less | ⟨same, _⟩
      · exact le_of_lt less
      · exact le_of_eq same

end

/-- The latest completion of an inquiry, with the consultant or technician it is by. -/
structure IsLatestCompletion (a : Aggregate) (handling : CompletedHandling) : Prop where
  source : (∃ c ∈ a.consultations, c.1.status = .completed ∧
      c.1.completedAt = some handling.completedAt ∧ c.1.consultant = handling.handler) ∨
    ∃ v ∈ a.visits, v.1.status = .completed ∧ v.1.completedAt = some handling.completedAt ∧
      v.1.technician = handling.handler
  consultations : ∀ c ∈ a.consultations, c.1.status = .completed →
    ∀ time, c.1.completedAt = some time → time ≤ handling.completedAt
  visits : ∀ v ∈ a.visits, v.1.status = .completed →
    ∀ time, v.1.completedAt = some time → time ≤ handling.completedAt

section
variable {a : Aggregate} {handling : CompletedHandling} {since : Instant}

theorem completed_consultation_le {c : Stored Consultation} (mem : c ∈ a.consultations)
    (completed : c.1.status = .completed) {time : Instant} (is : c.1.completedAt = some time) :
    ∃ x, a.completedConsultation = some x ∧ time ≤ x.1.completedAt.getD 0 :=
  @completed_le (Stored Consultation) (fun c => decide (c.1.status = .completed))
    (fun c => c.1.completedAt) (fun c => c.1.id) _ _ _ mem (decide_eq_true completed) is

theorem completed_visit_le {v : Stored Visit} (mem : v ∈ a.visits)
    (completed : v.1.status = .completed) {time : Instant} (is : v.1.completedAt = some time) :
    ∃ x, a.completedVisit = some x ∧ time ≤ x.1.completedAt.getD 0 :=
  @completed_le (Stored Visit) (fun v => decide (v.1.status = .completed))
    (fun v => v.1.completedAt) (fun v => v.1.id) _ _ _ mem (decide_eq_true completed) is

theorem completedHandling_latest (found : a.completedHandling = some handling) :
    IsLatestCompletion a handling := by
  have consulted {c : Stored Consultation} (is : a.completedConsultation = some c) :
      c ∈ a.consultations ∧ c.1.status = .completed ∧
        c.1.completedAt = some (c.1.completedAt.getD 0) := by
    have ⟨mem, done, time⟩ := newest_completed is
    exact ⟨mem, of_decide_eq_true done, time⟩
  have visited {v : Stored Visit} (is : a.completedVisit = some v) :
      v ∈ a.visits ∧ v.1.status = .completed ∧
        v.1.completedAt = some (v.1.completedAt.getD 0) := by
    have ⟨mem, done, time⟩ := newest_completed is
    exact ⟨mem, of_decide_eq_true done, time⟩
  have no_consultation {c : Stored Consultation} {time : Instant} {q : Prop}
      (none_ : a.completedConsultation = none) (mem : c ∈ a.consultations)
      (done : c.1.status = .completed) (is : c.1.completedAt = some time) : q := by
    have ⟨x, found, _⟩ := completed_consultation_le mem done is
    cases none_.symm.trans found
  have no_visit {v : Stored Visit} {time : Instant} {q : Prop}
      (none_ : a.completedVisit = none) (mem : v ∈ a.visits)
      (done : v.1.status = .completed) (is : v.1.completedAt = some time) : q := by
    have ⟨x, found, _⟩ := completed_visit_le mem done is
    cases none_.symm.trans found
  have consultation_le {c x : Stored Consultation} {time : Instant}
      (some_ : a.completedConsultation = some c) (mem : x ∈ a.consultations)
      (done : x.1.status = .completed) (is : x.1.completedAt = some time) :
      time ≤ c.1.completedAt.getD 0 := by
    have ⟨y, found, before⟩ := completed_consultation_le mem done is
    cases some_.symm.trans found
    exact before
  have visit_le {v x : Stored Visit} {time : Instant}
      (some_ : a.completedVisit = some v) (mem : x ∈ a.visits)
      (done : x.1.status = .completed) (is : x.1.completedAt = some time) :
      time ≤ v.1.completedAt.getD 0 := by
    have ⟨y, found, before⟩ := completed_visit_le mem done is
    cases some_.symm.trans found
    exact before
  unfold Aggregate.completedHandling at found
  cases consultation : a.completedConsultation with
  | none =>
      cases visit : a.completedVisit with
      | none =>
          rw [consultation, visit] at found
          cases found
      | some v =>
          rw [consultation, visit] at found
          cases found
          have ⟨there, done, time⟩ := visited visit
          exact ⟨.inr ⟨v, there, done, time, rfl⟩,
            fun c mem done t is => no_consultation consultation mem done is,
            fun x mem done t is => visit_le visit mem done is⟩
  | some c =>
      have ⟨there, done, time⟩ := consulted consultation
      cases visit : a.completedVisit with
      | none =>
          rw [consultation, visit] at found
          cases found
          exact ⟨.inl ⟨c, there, done, time, rfl⟩,
            fun x mem done t is => consultation_le consultation mem done is,
            fun v mem done t is => no_visit visit mem done is⟩
      | some v =>
          have ⟨there', done', time'⟩ := visited visit
          rw [consultation, visit] at found
          dsimp only at found
          split_ifs at found with first
          · cases found
            exact ⟨.inr ⟨v, there', done', time', rfl⟩,
              fun x mem done t is => (consultation_le consultation mem done is).trans first,
              fun x mem done t is => visit_le visit mem done is⟩
          · cases found
            have second := le_of_lt (not_le.1 first)
            exact ⟨.inl ⟨c, there, done, time, rfl⟩,
              fun x mem done t is => consultation_le consultation mem done is,
              fun x mem done t is => (visit_le visit mem done is).trans second⟩

end

/-! ### Customers who come back -/

/-- The requests by which a customer comes back after a completion. -/
inductive ComesBack (inquiry : Nat) : Action → Prop
  | reported (request : Request) (version : Nat) (reasonCode comment : Option String) :
      ComesBack inquiry
        (.request request (.act (.reportUnresolved inquiry version reasonCode comment)))
  | asked (request : Request) (version : Nat) :
      ComesBack inquiry (.request request (.act (.requestConsultation inquiry version)))

/-- The customer has come back: the request has committed. -/
def Reopens (inquiry : Nat) (e : Event) : Prop := e.Commits ∧ ComesBack inquiry e.action

section
variable {settings : Settings} {start w t : World} {labels : List Event} {e : Event}
  {inquiry : Nat} {a b : Aggregate} {since : Instant}

theorem ComesBack.served {act : Action} (back : ComesBack inquiry act) (settings : Settings)
    (w : World) : ∃ request operation service, act = .request request (.act operation) ∧
      ActionRequest.action settings request w operation = some service ∧
      service.inquiry = inquiry ∧
      (service.event = .customerReportedUnresolved ∨ service.event = .requestConsultation) := by
  cases back with
  | reported request version reasonCode comment =>
      exact ⟨request, .reportUnresolved inquiry version reasonCode comment, _, rfl, rfl, rfl,
        .inl rfl⟩
  | asked request version =>
      exact ⟨request, .requestConsultation inquiry version, _, rfl, rfl, rfl, .inr rfl⟩

/-- What a committed action of a service does. -/
theorem step_act {request : Request} {operation : ActionRequest} {service : InquiryAction}
    {outcome : Except Failure (Option Answer)}
    (step : Step settings w ⟨.request request (.act operation), outcome⟩ t)
    (commits : Event.Commits ⟨.request request (.act operation), outcome⟩)
    (served : ActionRequest.action settings request w operation = some service) :
    ∃ a context plan b resource, Commits service request w a context plan b resource ∧
      IsService settings w.directory request service ∧ t.aggregate service.inquiry = some b := by
  have ⟨answer, ran, fresh⟩ := step_committed step commits
  unfold Operation.perform at ran
  simp only [served] at ran
  rcases perform_ok ran with ⟨_, replayed⟩ | ⟨a, context, plan, b, resource, wrote, same⟩
  · rw [fresh] at replayed
    cases replayed
  · have serves := @Serves.act settings w request operation service served
    refine ⟨a, context, plan, b, resource, wrote, serves.isService settings w, ?_⟩
    rw [(Prod.mk.inj same).1]
    exact AList.lookup_insert _

/-- After the customer has come back the inquiry does not wait for its finalization. -/
theorem step_reopens (desks : ∀ i x, w.aggregate i = some x → Desk w.nextId x.consultations)
    (step : Step settings w e t) (reopens : Reopens inquiry e)
    (found : t.aggregate inquiry = some b) : b.q.status ≠ .completionPending := by
  have ⟨request, operation, service, is, served, own, event⟩ := reopens.2.served settings w
  obtain ⟨action, outcome⟩ := e
  cases is
  have ⟨a, context, plan, b', resource, wrote, isService, there⟩ := step_act step reopens.1 served
  rw [own] at there
  cases found.symm.trans there
  have move := isService.transition wrote (desks _ _ wrote.found)
  have ⟨listed, fires, _⟩ := move.rule_mem
  rw [move.status]
  exact reopening_rules _ listed (by rwa [fires])

/-- An inquiry that is opened does not wait for its finalization. -/
theorem Opens.unfinished {act : Action} (opens : Opens w act b) :
    b.q.status ≠ .completionPending := by
  cases opens with
  | start _ opened =>
      have ⟨stored, _, same, _, is⟩ := opened
      cases is
      change stored.1.status ≠ _
      rw [same]
      exact nofun
  | @register request values subscription plan _ _ resolved _ opened =>
      have ⟨listed, fires, _⟩ := resolve_ok resolved
      have ⟨stored, _, same, _, is⟩ := opened
      cases is
      change stored.1.status ≠ _
      rw [same]
      exact opening_rules _ listed fires

theorem Opens.followups {act : Action} (opens : Opens w act b) : b.followups = [] := by
  cases opens with
  | start _ opened | register _ _ _ opened =>
      have ⟨_, _, _, _, is⟩ := opened
      rw [is]
      rfl

/-- After the customer has come back, earlier feedback no longer counts. -/
theorem run_overtaken {before : List Event} (initial : Initial start)
    (first : Run (Step settings) start before w) (rest : Run (Step settings) w labels t)
    (later : ∀ e ∈ labels, since < e.action.now)
    (reopened : ∃ e ∈ labels, Reopens inquiry e) :
    ∀ b, t.aggregate inquiry = some b → Overtaken since b := by
  induction rest with
  | refl =>
      have ⟨_, mem, _⟩ := reopened
      exact absurd mem List.not_mem_nil
  | @snoc labels s t e run step ih =>
      intro b found
      have desks i x (there : s.aggregate i = some x) : Desk s.nextId x.consultations :=
        (reachable_coupled initial (Run.allowed (first.trans run)) there).desk
      by_cases last : Reopens inquiry e
      · exact .inl (step_reopens desks step last found)
      · have earlier : ∃ e ∈ labels, Reopens inquiry e := by
          have ⟨e', mem, is⟩ := reopened
          rcases List.mem_append.1 mem with old | new
          · exact ⟨e', old, is⟩
          · rw [List.mem_singleton.1 new] at is
            exact absurd is last
        have overtaken := ih (fun e' mem => later e' (List.mem_append_left _ mem)) earlier
        rcases step_cases step with ⟨_, performed, _⟩ | ⟨same, _⟩
        · rcases (action_effect performed).aggregate found with kept | ⟨_, opens⟩ | ⟨a, _, writes⟩
          · exact overtaken b kept
          · exact .inl opens.unfinished
          · have now := later e (List.mem_append_right _ (List.mem_singleton_self _))
            exact (writes.change (desks _ _ writes.found)).overtaken now
              (overtaken a writes.found)
        · rw [same] at found
          exact overtaken b found

end

/-! ### The feedback that counts -/

/-- The owner of the inquiry stores the feedback. -/
structure StoresFeedback (settings : Settings) (inquiry : Nat) (f : Stored FollowupConfirmation)
    (s : World) (e : Event) (t : World) : Prop where
  accepted : ∃ answer, e.outcome = .ok answer
  stores : ∃ request version comment,
    e.action = .request request (.act (.submitFeedback inquiry version comment)) ∧
      f.1.createdAt = request.now ∧ ∃ a b, s.aggregate inquiry = some a ∧
        t.aggregate inquiry = some b ∧ s.directory.owns request.actor a.q = true ∧
        b.followups = a.followups ++ [f]

section
variable {settings : Settings} {start w t : World} {labels : List Event} {e : Event}
  {inquiry used : Nat} {a b : Aggregate} {f : Stored FollowupConfirmation}

/-- Positive feedback is the one of its owner, or it was there before. -/
theorem Writes.resolved {answer : Option Answer} (desk : Desk w.nextId a.consultations)
    (writes : Writes settings w e.action inquiry a b used) (there : t.aggregate inquiry = some b)
    (accepted : e.outcome = .ok answer) (mem : f ∈ b.followups)
    (positive : f.1.resolutionStatus = .resolved) :
    f ∈ a.followups ∨ StoresFeedback settings inquiry f w e t := by
  have unmoved (same : b.followups = a.followups) : f ∈ a.followups := same ▸ mem
  cases writes.change desk with
  | moved event plan cause move _ =>
      have answered := move.followups
      generalize after : b.followups = fs at answered mem
      cases answered with
      | kept => exact .inl mem
      | added _ time is =>
          rcases List.mem_append.1 mem with old | new
          · exact .inl old
          · cases List.mem_singleton.1 new
            rcases is with ⟨feedback, _⟩ | ⟨_, negative⟩
            · subst feedback
              have ⟨request, served, context, resource, serves, commits, fires, on⟩ :=
                cause.served rfl rfl
              have ⟨i, version, comment, act, given⟩ := serves.feedback fires
              subst given
              cases on
              refine .inr ⟨⟨answer, accepted⟩, request, version, comment, act, ?_, a, b,
                writes.found, there, commits.locked, after⟩
              rw [time, act]
              rfl
            · cases positive.symm.trans negative
  | reported _ _ _ _ _ followups => exact .inl (unmoved followups)
  | reassigned _ _ _ _ _ _ followups => exact .inl (unmoved followups)
  | still same => exact .inl (unmoved same.followups)
  | drafted _ _ _ followups => exact .inl (unmoved followups)

/-- Every positive feedback of a run was stored by the owner of its inquiry. -/
theorem run_feedback (initial : Initial start) (run : Run (Step settings) start labels w) :
    ∀ i a, w.aggregate i = some a → ∀ f ∈ a.followups, f.1.resolutionStatus = .resolved →
      Passes (Step settings) start labels w fun s e t _ => StoresFeedback settings i f s e t := by
  induction run with
  | refl =>
      intro i a found
      rw [World.aggregate, initial.1] at found
      cases found
  | @snoc before s t e earlier last ih =>
      intro i b found f mem positive
      have later (passes : Passes (Step settings) start before s fun s e t _ =>
          StoresFeedback settings i f s e t) :
          Passes (Step settings) start (before ++ [e]) t fun s e t _ =>
            StoresFeedback settings i f s e t := passes.later last fun _ h => h
      rcases step_cases last with ⟨answer, performed, accepted⟩ | ⟨same, _⟩
      · rcases (action_effect performed).aggregate found with kept | ⟨_, opens⟩ | ⟨a, used, writes⟩
        · exact later (ih i b kept f mem positive)
        · rw [opens.followups] at mem
          exact absurd mem List.not_mem_nil
        · have desk := (reachable_coupled initial (Run.allowed earlier) writes.found).desk
          rcases writes.resolved desk found accepted mem positive with old | stores
          · exact later (ih i a writes.found f old positive)
          · exact Passes.here earlier last stores
      · subst same
        exact later (ih i b found f mem positive)

end

/-! ### Every run -/

/-- The finalization of an inquiry by an actor: it ends the wait for it, the actor handled the
latest completion, and after this completion the owner has stored positive feedback, since when
the customer has not come back. -/
structure Finalized (settings : Settings) (start : World) (labels : List Event) (w t : World)
    (inquiry : Nat) (actor : User) (a : Aggregate) (handling : CompletedHandling) : Prop where
  found : w.aggregate inquiry = some a
  pending : a.q.status = .completionPending
  resolved : ∃ b, t.aggregate inquiry = some b ∧ b.q.status = .resolved
  latest : IsLatestCompletion a handling
  handler : ∃ id user, handling.handler = some id ∧ w.directory.user id = some user ∧
    user.id = actor.id ∧ user.role = actor.role
  confirmed : ∃ f ∈ a.followups, f.1.resolutionStatus = .resolved ∧
    handling.completedAt < f.1.createdAt ∧
    Passes (Step settings) start labels w fun s e t after =>
      StoresFeedback settings inquiry f s e t ∧ ∀ e' ∈ after, ¬Reopens inquiry e'

section
variable {settings : Settings} {start w t : World} {labels : List Event} {inquiry version : Nat}
  {note : Option String} {request : Request} {e : Event} {a : Aggregate}
  {handling : CompletedHandling} {since : Instant}

/-- What overtakes feedback is no later than the latest completion. -/
theorem Overtaken.before (overtaken : Overtaken since a) (pending : a.q.status = .completionPending)
    (latest : IsLatestCompletion a handling) : since < handling.completedAt := by
  rcases overtaken with elsewhere | ⟨c, mem, done, time, is, after⟩
  · exact absurd pending elsewhere
  · exact lt_of_lt_of_le after (latest.consultations c mem done time is)

theorem isLastHandler_true {d : Directory} {context : ActionContext}
    (same : context.handling = some handling)
    (handled : ResolutionService.isLastHandler d request context = true) :
    ∃ id user, handling.handler = some id ∧ d.user id = some user ∧
      user.id = request.actor.id ∧ user.role = request.actor.role := by
  unfold ResolutionService.isLastHandler at handled
  rw [same, Option.any_some, Option.any_eq_true] at handled
  have ⟨user, is, own⟩ := handled
  have ⟨id, named, there⟩ := Option.bind_eq_some_iff.1 is
  rw [Bool.and_eq_true, decide_eq_true_eq, decide_eq_true_eq] at own
  exact ⟨id, user, named, there, own⟩

theorem isFresh_true {context : ActionContext} (same : context.handling = some handling)
    (fresh : ResolutionService.isFresh a context = true) :
    ∃ f ∈ a.followups, f.1.resolutionStatus = .resolved ∧
      handling.completedAt < f.1.createdAt := by
  unfold ResolutionService.isFresh Aggregate.freshResolvedFeedback at fresh
  rw [same, Option.any_some, List.any_eq_true] at fresh
  have ⟨f, mem, both⟩ := fresh
  rw [Bool.and_eq_true, decide_eq_true_eq, decide_eq_true_eq] at both
  exact ⟨f, mem, both⟩

theorem lockHandling_ok {context : ActionContext}
    (locked : ResolutionService.lockHandling a = .ok context) :
    ∃ handling, a.completedHandling = some handling ∧
      context = { ActionContext.empty with handling := some handling } := by
  unfold ResolutionService.lockHandling at locked
  split at locked
  · cases locked
  · rename_i handling found
    exact ⟨handling, found, (Except.ok.inj locked).symm⟩

/-- With the timestamps of a run increasing, a committed finalization is by the handler of the
latest completion, on positive feedback that was stored after it and still counts. -/
theorem run_finalization (initial : Initial start) (run : Run (Step settings) start labels w)
    (increasing : (labels.map (·.action.now)).Pairwise (· < ·))
    (step : Step settings w e t)
    (finalizes : e.action = .request request (.act (.finalizeInquiry inquiry version note)))
    (commits : e.Commits) :
    ∃ a handling, Finalized settings start labels w t inquiry request.actor a handling := by
  obtain ⟨action, outcome⟩ := e
  cases finalizes
  have ⟨a, context, plan, b, resource, wrote, is, there⟩ := step_act step commits rfl
  have desk := (reachable_coupled initial (Run.allowed run) wrote.found).desk
  have move := is.transition wrote desk
  have ⟨listed, fires, source⟩ := move.rule_mem
  have ⟨waits, ends, byHandler, onFeedback⟩ := finalizing_rules _ listed fires
  have pending := Option.some.inj (source.symm.trans waits)
  have handled := wrote.domain byHandler rfl nofun nofun
  have fresh := wrote.domain onFeedback rfl nofun nofun
  have ⟨handling, completed, context_eq⟩ := lockHandling_ok wrote.prepared
  have held : context.handling = some handling := by
    rw [context_eq]
  have actor := isLastHandler_true held (Option.some.inj handled)
  have latest := completedHandling_latest completed
  have ⟨f, mem, positive, later⟩ := isFresh_true held (Option.some.inj fresh)
  refine ⟨a, handling, wrote.found, pending, ⟨b, there, move.status.trans ends⟩, latest, actor, f,
    mem, positive, later, ?_⟩
  have ⟨before, e, after, s, s', split, first, stored, rest, stores⟩ :=
    run_feedback initial run inquiry a wrote.found f mem positive
  refine ⟨before, e, after, s, s', split, first, stored, rest, stores, ?_⟩
  intro e' back reopens
  have ⟨_, _, _, act, time, _⟩ := stores.stores
  have since : ∀ d ∈ after, f.1.createdAt < d.action.now := by
    intro d listed
    rw [split, List.map_append, List.map_cons] at increasing
    have ⟨_, tail, _⟩ := List.pairwise_append.1 increasing
    have now := (List.pairwise_cons.1 tail).1 _ (List.mem_map_of_mem listed)
    rw [act] at now
    rw [time]
    exact now
  have overtaken := run_overtaken initial (first.snoc stored) rest since ⟨e', back, reopens⟩ a
    wrote.found
  exact absurd later (not_lt.2 (le_of_lt (overtaken.before pending latest)))

end

/-- The consultant finalizes the inquiry after the customer has confirmed its completion. -/
def finalizedByHandler : Action :=
  Sample.send Sample.consultant 113 (.act (.finalizeInquiry 10 10 none))

theorem run_finalization_confirmed :
    ∃ labels w t a handling, Run (Step Sample.settings) Sample.world labels w ∧
      Finalized Sample.settings Sample.world labels w t 10 Sample.consultant a handling := by
  have run : Run (Step Sample.settings) Sample.world
      (trace Sample.settings Sample.world confirmedByCustomer).1
      (trace Sample.settings Sample.world confirmedByCustomer).2 := trace_run (by decide +kernel)
  have authenticated : finalizedByHandler.IsAuthenticated
      (trace Sample.settings Sample.world confirmedByCustomer).2 := by
    decide +kernel
  have step : Step Sample.settings _ _ _ := eventOf_step authenticated
  have increasing : ((trace Sample.settings Sample.world confirmedByCustomer).1.map
      (·.action.now)).Pairwise (· < ·) := by decide +kernel
  have commits : Event.Commits (eventOf Sample.settings
      (trace Sample.settings Sample.world confirmedByCustomer).2 finalizedByHandler).1 := by
    decide +kernel
  have ⟨a, handling, finalized⟩ := run_finalization Sample.world_initial run increasing step
    eventOf_action commits
  exact ⟨_, _, _, a, handling, run, finalized⟩

end WaterCare.Runtime
