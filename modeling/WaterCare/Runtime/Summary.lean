import WaterCare.Runtime.Enabled
import WaterCare.Runtime.Trace

/-!
The summary of a consultation and what was confirmed of it. A summary may be edited
after its confirmation, and a confirmation is made once: what was confirmed stays.
-/

namespace WaterCare.Runtime
open Machine Workflow Store Service Py Analysis

/-- The requests that give the summary of a consultation a value. -/
inductive SendsSummary (inquiry consultation : Nat) : Action → Prop
  | own (request : Request) (version : Nat) {values : SummaryValues} :
      values.summary.isSome = true →
      SendsSummary inquiry consultation (.request request (.act (.saveSummary inquiry version values)))
  | supervised (request : Request) {values : SummaryValues} : values.summary.isSome = true →
      SendsSummary inquiry consultation (.supervise request (.updateDetails consultation values))

/-- The requests that confirm the summary of a consultation. -/
inductive ConfirmsSummary (inquiry consultation : Nat) : Action → Prop
  | own (request : Request) (version : Nat) :
      ConfirmsSummary inquiry consultation (.request request (.act (.confirmSummary inquiry version)))
  | supervised (request : Request) :
      ConfirmsSummary inquiry consultation (.supervise request (.confirm consultation))

/-- The statuses at the desk that a consultation reaches with a confirmed summary only. -/
def isReviewed : InquiryState → Bool
  | .visitReviewPending | .visitScheduling | .visitScheduled | .revisitRequired => true
  | _ => false

theorem reviewed_rules : ∀ rule ∈ shipped.transitions, isReviewed rule.target = true →
    rule.event = .visitReviewRequired ∨ keepsConsultations rule.event = true ∧
      (∃ source, rule.source = some source ∧ isReviewed source = true) ∨
      ofTechnician rule.event = true := by
  decide

theorem desk_statuses : ∀ s ∈ InquiryState.all, stage s = .desk → isReviewed s = false →
    s = .consultationInProgress := by
  decide

/-! ### One step -/

/-- What a step makes of the summary of a consultation and of its confirmation. -/
inductive Treated (a : Aggregate) (act : Action) (inquiry : Nat) (x y : Consultation) : Prop
  | kept (summary : y.summary = x.summary) (text : y.confirmedSummary = x.confirmedSummary)
      (time : y.summaryConfirmedAt = x.summaryConfirmedAt)
      (filled : y.status = .completed →
        x.status = .completed ∨ isFilled x.confirmedSummary = true)
  | edited (sends : SendsSummary inquiry x.id act)
      (latest : a.latestConsultation.map (·.1) = some x)
      (text : y.confirmedSummary = x.confirmedSummary)
      (time : y.summaryConfirmedAt = x.summaryConfirmedAt) (status : y.status = x.status)
  | confirmed (confirms : ConfirmsSummary inquiry x.id act) (first : x.summaryConfirmedAt = none)
      (summary : y.summary = x.summary) (text : y.confirmedSummary = some (strip x.summary))
      (time : y.summaryConfirmedAt.isSome = true) (status : y.status = x.status)

section
variable {settings : Settings} {w : World} {act : Action} {a b : Aggregate} {inquiry used : Nat}

theorem Serves.summary {request : Request} {service : InquiryAction} {c : Stored Consultation}
    (serves : Serves settings w act request service)
    (found : w.aggregate service.inquiry = some a) (latest : a.latestConsultation = some c) :
    (service.event = .updateConsultationSummary → ∃ consultant version values,
      service = (ConsultationService.saveSummary request service.inquiry version
        values).toInquiryAction settings w.directory request consultant service.inquiry ∧
      (values.summary.isSome = true → SendsSummary service.inquiry c.1.id act)) ∧
    (service.event = .confirmConsultationSummary →
      ConfirmsSummary service.inquiry c.1.id act) := by
  cases serves with
  | @act _ operation service h =>
      cases operation with
      | saveSummary inquiry version values =>
          cases h
          exact ⟨fun _ => ⟨_, version, values, rfl, fun sent => .own request version sent⟩, nofun⟩
      | confirmSummary inquiry version =>
          cases h
          exact ⟨nofun, fun _ => .own request version⟩
      | updateVisitSchedule visit _ _ | confirmVisit visit _ =>
          obtain ⟨_, _, rfl⟩ := Option.map_eq_some_iff.1 h
          exact ⟨nofun, nofun⟩
      | _ =>
          cases h
          exact ⟨nofun, nofun⟩
  | claim inquiry version => exact ⟨nofun, nofun⟩
  | @supervisor _ operation consultation inquiry a' c' consultant _ names locked _ h =>
      obtain ⟨found', _, isNamed, last, _, _⟩ := lockConsultation_ok locked
      have same : a' = a := Option.some.inj (found'.symm.trans found)
      have own : c.1.id = consultation := by
        rw [same, latest] at last
        exact (Option.some.inj last).trans isNamed
      cases operation with
      | updateDetails _ values =>
          cases h
          cases names
          exact ⟨fun _ => ⟨consultant, _, values, rfl, fun sent => own ▸ .supervised request sent⟩,
            nofun⟩
      | confirm _ =>
          cases h
          cases names
          exact ⟨nofun, fun _ => own ▸ .supervised request⟩
      | start | complete =>
          cases h
          exact ⟨nofun, nofun⟩
      | reassign | cancelInquiry | cancelConsultation => cases h
  | supervisorCancel _ => exact ⟨nofun, nofun⟩

/-- A saved summary is the one of the request, if the request has one. -/
theorem Commits.savedSummary {request : Request} {service : InquiryAction}
    {context : ActionContext} {plan : Plan} {resource : Resource} {consultant : User}
    {version : Nat} {values : SummaryValues} {older : List (Stored Consultation)}
    {c y : Stored Consultation} (desk : Desk w.nextId a.consultations)
    (commits : Commits service request w a context plan b resource)
    (is : service = (ConsultationService.saveSummary request inquiry version
      values).toInquiryAction settings w.directory request consultant inquiry)
    (split : a.consultations = older ++ [c]) (split' : b.consultations = older ++ [y]) :
    y.1.summary = values.summary.getD c.1.summary := by
  subst is
  obtain ⟨m, hm, _, consultations, _⟩ := commits.tables (assigned_regular nofun)
  obtain ⟨x, row, locked, saved, _⟩ := onConsultation_ok hm
  have prepared := Except.ok.inj commits.prepared
  subst prepared
  have last : a.latestConsultation = some x := locked
  rw [desk.latest_of_concat split] at last
  cases last
  obtain ⟨same, rfl⟩ := consultation_update_ok.1 saved
  rw [consultations, desk.put row split (by rw [same]; rfl)] at split'
  obtain ⟨_, equal⟩ := List.append_inj' split' rfl
  cases equal
  rw [same]
  rfl

theorem Edited.treats {assigned : Option Nat} {now : Instant} {event : Option EventCode}
    {x y : Consultation} (edit : Edited assigned now event x y)
    (edits : event = some .updateConsultationSummary → y.summary ≠ x.summary →
      SendsSummary inquiry x.id act ∧ a.latestConsultation.map (·.1) = some x)
    (confirms : event = some .confirmConsultationSummary → ConfirmsSummary inquiry x.id act) :
    Treated a act inquiry x y := by
  cases edit with
  | summarized stamp values =>
      by_cases same : values.summary.getD x.summary = x.summary
      · exact .kept same rfl rfl .inl
      · obtain ⟨sends, latest⟩ := edits rfl same
        exact .edited sends latest rfl rfl rfl
  | confirmed stamp text unconfirmed =>
      exact .confirmed (confirms rfl) unconfirmed rfl rfl rfl rfl
  | completed stamp outcome filled | notNeeded stamp reason detail outcome filled =>
      exact .kept rfl rfl rfl fun _ => .inr filled
  | refreshed | reviewed | drafted => exact .kept rfl rfl rfl .inl
  | claimed | started | cancelled => exact .kept rfl rfl rfl nofun
  | reassigned target assigned completed cancelled =>
      refine .kept rfl rfl rfl ?_
      intro ended
      change (if x.status = .waiting then ConsultationStatus.assigned else x.status) = _ at ended
      split_ifs at ended
      exact .inl ended

/-- Every consultation after a write is new or a treated one from before it. -/
theorem Writes.treats (desk : Desk w.nextId a.consultations)
    (writes : Writes settings w act inquiry a b used) {y : Stored Consultation}
    (mem : y ∈ b.consultations) :
    (y.1.confirmedSummary = none ∧ y.1.summaryConfirmedAt = none ∧ y.1.status ≠ .completed) ∨
      ∃ x ∈ a.consultations, x.1.id = y.1.id ∧ Treated a act inquiry x.1 y.1 := by
  obtain ⟨event, consulted, cause⟩ := (writes.change desk).consulted
  rcases consulted.mem mem with old | ⟨older, c, split, split', edit⟩ | ⟨e, _, add⟩
  · exact .inr ⟨y, old, rfl, .kept rfl rfl rfl .inl⟩
  · have last := desk.latest_of_concat split
    have own : c ∈ a.consultations := by rw [split]; simp
    refine .inr ⟨c, own, edit.frame.1.symm, edit.treats ?_ ?_⟩
    · intro fires changed
      obtain ⟨plan, moved, _⟩ := cause _ fires
      obtain ⟨request, service, context, resource, serves, commits, fires, on⟩ :=
        moved.served rfl rfl
      subst on
      obtain ⟨consultant, version, values, is, sends⟩ :=
        (serves.summary commits.found last).1 fires
      have saved := commits.savedSummary desk is split split'
      refine ⟨sends ?_, by rw [last]; rfl⟩
      cases sent : values.summary with
      | some text => rfl
      | none =>
          rw [sent] at saved
          exact absurd saved changed
    · intro fires
      obtain ⟨plan, moved, _⟩ := cause _ fires
      obtain ⟨request, service, context, resource, serves, commits, fires, on⟩ :=
        moved.served rfl rfl
      subst on
      exact (serves.summary commits.found last).2 fires
  · obtain ⟨_, text, time, _, _, running⟩ := add.blank
    exact .inl ⟨text, time, running⟩

/-- Only a consultation with a confirmed summary is reviewed for a visit. -/
theorem Consulted.filled {assigned : Option Nat} {now : Instant} {limit : Nat}
    {cs cs' : List (Stored Consultation)} {c : Consultation}
    (consulted : Consulted assigned now limit (some .visitReviewRequired) cs cs')
    (last : lastConsultation cs' = some c) : isFilled c.confirmedSummary = true := by
  have reviewed {x y : Consultation}
      (edit : Edited assigned now (some .visitReviewRequired) x y) :
      isFilled y.confirmedSummary = true := by
    cases edit with
    | refreshed _ _ asks _ => cases asks
    | reviewed stamp reason detail outcome filled => exact filled
  have not_added {y : Consultation} : ¬ Added assigned now limit cs .visitReviewRequired y := by
    intro add
    cases add with
    | waiting _ _ _ asks _ => cases asks
  cases consulted with
  | kept keeps => rcases keeps _ rfl with keeps | ⟨other, _⟩ <;> contradiction
  | edited older edit =>
      rw [lastConsultation_concat] at last
      cases last
      exact reviewed edit
  | added same add =>
      cases same
      exact absurd add not_added

/-- The last consultation of an inquiry under review has a confirmed summary. -/
def Reviewed (a : Aggregate) : Prop :=
  isReviewed a.q.status = true →
    ∀ c, lastConsultation a.consultations = some c → isFilled c.confirmedSummary = true

theorem Writes.reviewed (coupled : Coupled w.nextId a)
    (writes : Writes settings w act inquiry a b used) (reviewed : Reviewed a) : Reviewed b := by
  have change := writes.change coupled.desk
  have kept (consultations : b.consultations = a.consultations)
      (status : b.q.status = a.q.status) : Reviewed b := by
    unfold Reviewed
    rw [consultations, status]
    exact reviewed
  have changed {older : List (Stored Consultation)} {c row : Stored Consultation}
      (split : a.consultations = older ++ [c]) (split' : b.consultations = older ++ [row])
      (status : b.q.status = a.q.status)
      (text : row.1.confirmedSummary = c.1.confirmedSummary) : Reviewed b := by
    intro pending d last
    rw [split', lastConsultation_concat] at last
    rw [← Option.some.inj last, text]
    refine reviewed (status ▸ pending) c.1 ?_
    rw [split, lastConsultation_concat]
  cases change with
  | moved event plan _ move _ =>
      obtain ⟨listed, fires, source⟩ := move.rule_mem
      intro pending c last
      rw [move.status] at pending
      rcases reviewed_rules plan.rule listed pending with
        review | ⟨keeps, stays⟩ | technician
      · rw [fires] at review
        subst review
        exact move.consultations.filled last
      · rw [fires] at keeps
        rw [move.consultations.kept_of keeps] at last
        refine reviewed ?_ c last
        obtain ⟨state, equal, inReview⟩ := stays
        rw [source] at equal
        rw [Option.some.inj equal]
        exact inReview
      · rw [fires, move.consultations.served] at technician
        cases technician
  | reported _ inquiry _ consultations => exact kept consultations (by rw [inquiry]; rfl)
  | reassigned target inquiry _ _ consultations =>
      obtain ⟨older, c, row, split, split', same, _⟩ := consultations
      exact changed split split' (by rw [inquiry]) (by rw [same]; rfl)
  | still same => exact kept same.consultations same.status
  | drafted inquiry _ _ _ consultations =>
      obtain ⟨older, c, row, draft, split, split', _, same⟩ := consultations
      have q : b.q = a.q := congrArg Subtype.val inquiry
      exact changed split split' (by rw [q]) (by rw [same])

end

/-! ### Every run -/

section
variable (settings : Settings)

/-- An accepted request has given the summary of the latest consultation a value. -/
def EditsSummary (inquiry consultation : Nat) (w : World) (e : Event) : Prop :=
  (∃ answer, e.outcome = .ok answer) ∧ SendsSummary inquiry consultation e.action ∧
    ∃ a x, w.aggregate inquiry = some a ∧ a.latestConsultation.map (·.1) = some x ∧
      x.id = consultation

/-- An accepted request has confirmed the text, the summary at that time, of a
consultation without a confirmed summary; afterwards the summary is as it was, or a
later request of the rest of the run has edited it. -/
structure Confirmed (last : World) (inquiry : Nat) (c : Consultation) (text : String) (w : World)
    (e : Event) (t : World) (after : List Event) : Prop where
  accepted : ∃ answer, e.outcome = .ok answer
  confirms : ConfirmsSummary inquiry c.id e.action
  first : ∃ a x, w.aggregate inquiry = some a ∧ x ∈ a.consultations ∧ x.1.id = c.id ∧
    x.1.confirmedSummary = none ∧ text = strip x.1.summary ∧
    (c.summary = x.1.summary ∨
      Passes (Step settings) t after last fun s d _ _ => EditsSummary inquiry c.id s d)

/-- What a run says about the confirmed summary of a consultation: a completed one has
it, and it is the text of the one request that has confirmed it. -/
structure SummaryTrail (start : World) (labels : List Event) (last : World) (inquiry : Nat)
    (c : Consultation) : Prop where
  paired : c.confirmedSummary.isSome = c.summaryConfirmedAt.isSome
  completed : c.status = .completed → isFilled c.confirmedSummary = true
  confirmed : ∀ text, c.confirmedSummary = some text →
    Passes (Step settings) start labels last (Confirmed settings last inquiry c text)

end

section
variable {settings : Settings} {start w t : World} {labels : List Event} {e : Event}
  {inquiry : Nat} {x y : Consultation}

/-- A step keeps the trail of a confirmed text, also when it edits the summary. -/
theorem confirmed_later {text : String}
    (passes : Passes (Step settings) start labels w (Confirmed settings w inquiry x text))
    (last : Step settings w e t) (same : y.id = x.id)
    (summary : y.summary = x.summary ∨ EditsSummary inquiry y.id w e) :
    Passes (Step settings) start (labels ++ [e]) t (Confirmed settings t inquiry y text) := by
  refine passes.later last ?_
  intro s s' d after rest h
  obtain ⟨a, z, found, mem, own, unconfirmed, stripped, kept⟩ := h.first
  refine ⟨h.accepted, same ▸ h.confirms, a, z, found, mem, own.trans same.symm, unconfirmed,
    stripped, ?_⟩
  rcases summary with unchanged | edits
  · refine kept.imp unchanged.trans ?_
    intro edited
    rw [same]
    exact edited.later last fun _ h => h
  · exact .inr (Passes.here rest last edits)

theorem SummaryTrail.later (trail : SummaryTrail settings start labels w inquiry x)
    (last : Step settings w e t) : SummaryTrail settings start (labels ++ [e]) t inquiry x :=
  ⟨trail.paired, trail.completed,
    fun text found => confirmed_later (trail.confirmed text found) last rfl (.inl rfl)⟩

/-- A treated consultation continues the trail of the one before it. -/
theorem SummaryTrail.treated {a : Aggregate} {c : Stored Consultation} {answer : Option Answer}
    (trail : SummaryTrail settings start labels w inquiry c.1)
    (run : Run (Step settings) start labels w) (last : Step settings w e t)
    (accepted : e.outcome = .ok answer) (found : w.aggregate inquiry = some a)
    (mem : c ∈ a.consultations) (same : c.1.id = y.id) (treated : Treated a e.action inquiry c.1 y) :
    SummaryTrail settings start (labels ++ [e]) t inquiry y := by
  cases treated with
  | kept summary text time filled =>
      refine ⟨by rw [text, time]; exact trail.paired, ?_, ?_⟩
      · intro ended
        rw [text]
        exact (filled ended).elim trail.completed id
      · intro confirmed h
        rw [text] at h
        exact confirmed_later (trail.confirmed confirmed h) last same.symm (.inl summary)
  | edited sends latest text time status =>
      refine ⟨by rw [text, time]; exact trail.paired, ?_, ?_⟩
      · intro ended
        rw [text]
        exact trail.completed (status ▸ ended)
      · intro confirmed h
        rw [text] at h
        refine confirmed_later (trail.confirmed confirmed h) last same.symm (.inr ?_)
        exact ⟨⟨answer, accepted⟩, same ▸ sends, a, c.1, found, latest, same⟩
  | confirmed confirms first summary text time status =>
      have unconfirmed : c.1.confirmedSummary = none := by
        have paired := trail.paired
        rw [first, Option.isSome_none, Option.isSome_eq_false_iff, Option.isNone_iff_eq_none] at paired
        exact paired
      refine ⟨by rw [text, time]; rfl, ?_, ?_⟩
      · intro ended
        have filled := trail.completed (status ▸ ended)
        rw [unconfirmed] at filled
        cases filled
      · intro confirmed h
        rw [text] at h
        refine Passes.here run last ⟨⟨answer, accepted⟩, same ▸ confirms, a, c, found, mem, same,
          unconfirmed, (Option.some.inj h).symm, .inl summary⟩

/-- Every consultation of a run has its trail. -/
theorem run_trails (initial : Initial start) (run : Run (Step settings) start labels w) :
    ∀ i a, w.aggregate i = some a → ∀ c ∈ a.consultations,
      SummaryTrail settings start labels w i c.1 := by
  induction run with
  | refl =>
      intro i a found
      rw [World.aggregate, initial.1] at found
      cases found
  | @snoc before s t e earlier last ih =>
      intro i b found c mem
      rcases step_cases last with ⟨answer, performed, outcome⟩ | ⟨rfl, _⟩
      · rcases (action_effect performed).aggregate found with same | ⟨_, opens⟩ | ⟨a, used, writes⟩
        · exact (ih i b same c mem).later last
        · rw [opens.consultations] at mem
          cases mem
        · have desk := (reachable_coupled initial (Run.allowed earlier) writes.found).desk
          rcases writes.treats desk mem with ⟨text, time, open_⟩ | ⟨x, old, same, treated⟩
          · refine ⟨by rw [text, time]; rfl, fun ended => absurd ended open_, ?_⟩
            intro confirmed h
            rw [text] at h
            cases h
          · exact (ih i a writes.found x old).treated earlier last outcome writes.found old same
              treated
      · exact (ih i b found c mem).later last

/-- Every inquiry under review of a run has a confirmed summary. -/
theorem reachable_reviewed {a : Aggregate} (initial : Initial start)
    (run : Run (Step settings) start labels w) (found : w.aggregate inquiry = some a) :
    Reviewed a := by
  refine aggregate_invariant (P := fun _ _ a => Reviewed a) initial (fun _ h => h) ?_ ?_
    (Run.allowed run) inquiry a found
  · intro _ _ b _ opens _ c last
    rw [opens.consultations] at last
    cases last
  · intro _ _ _ _ _ _ _ earlier _ reviewed writes
    exact writes.reviewed (reachable_coupled initial earlier writes.found) reviewed

end

/-! ### The confirmation -/

/-- The assigned consultant can confirm the summary: the request with the current version
and a new key is accepted and stores what the summary is without its surrounding blanks. -/
def CanConfirm (settings : Settings) (w : World) (inquiry : Nat) (a : Aggregate)
    (c : Consultation) : Prop :=
  ∀ request : Request, assignedTo w.directory request.actor a.q = true →
    request.actor.role = .consultant →
    w.records.lookup (request.scope .confirmConsultationSummary) = none →
    ∃ t answer, (Action.request request
        (.act (.confirmSummary inquiry a.q.stateVersion))).perform settings w = .ok (t, some answer) ∧
      answer.replayed = false ∧ ∃ b y, t.aggregate inquiry = some b ∧ y ∈ b.consultations ∧
        y.1.id = c.id ∧ y.1.confirmedSummary = some (strip c.summary)

/-- The plan of a confirmation keeps the status, leaves the visit alone and asks for the
guards the service answers. -/
def confirms (plan : Plan) : Bool :=
  decide (plan.rule.target = .consultationInProgress) && !plan.rule.recordVisitStateHistory &&
    answers .consultant [.assignedConsultant, .consultationSummaryConfirmable] plan.rule

section
variable {settings : Settings} {w : World} {inquiry : Nat} {a : Aggregate}
  {c : Stored Consultation}

/-- The inquiry of an unconfirmed running consultation is at the desk, without a visit. -/
theorem Coupled.snapshot_running (coupled : Coupled w.nextId a) (reviewed : Reviewed a)
    (latest : lastConsultation a.consultations = some c.1) (running : c.1.status = .inProgress)
    (unconfirmed : c.1.confirmedSummary = none) :
    a.snapshot = ⟨some (.consultationInProgress, a.q.stateVersion), none⟩ := by
  have desk : stage a.q.status = .desk := by
    have stands := coupled.stands
    rw [latest] at stands
    cases at_ : stage a.q.status with
    | desk => rfl
    | intake =>
        rw [at_] at stands
        cases stands
    | queue =>
        rw [at_] at stands
        have pending := stands c.1 rfl
        rw [running] at pending
        cases pending
    | done =>
        rw [at_] at stands
        obtain ⟨d, same, completed⟩ := stands
        cases same
        rw [running] at completed
        cases completed
    | closed =>
        rw [at_] at stands
        have inactive := stands c.1 rfl
        rw [running] at inactive
        cases inactive
  have status : a.q.status = .consultationInProgress := by
    cases pending : isReviewed a.q.status with
    | true =>
        have filled := reviewed pending c.1 latest
        rw [unconfirmed] at filled
        cases filled
    | false => exact desk_statuses _ (InquiryState.mem_all _) desk pending
  have unvisited : a.visits = [] := coupled.unvisited (by rw [status]; rfl)
  unfold Aggregate.snapshot Aggregate.latestVisitStatus Aggregate.latestVisit
  rw [status, unvisited]
  rfl

theorem canConfirm (coupled : Coupled w.nextId a) (reviewed : Reviewed a)
    (found : w.aggregate inquiry = some a) (mem : c ∈ a.consultations)
    (running : c.1.status = .inProgress) (time : c.1.summaryConfirmedAt = none)
    (unconfirmed : c.1.confirmedSummary = none) (text : hasText c.1.summary = true) :
    CanConfirm settings w inquiry a c.1 := by
  intro request own consultant unrecorded
  have active : c.1.status.isActive = true := by rw [running]; rfl
  obtain ⟨older, split⟩ := coupled.desk.active_last mem active
  have latest := coupled.desk.latest_of_concat split
  have snapshot := coupled.snapshot_running reviewed (by rw [split]; simp) running unconfirmed
  have status : a.q.status = .consultationInProgress :=
    congrArg Prod.fst (Option.some.inj (congrArg Snapshot.inquiry snapshot))
  have found_plan : ∃ plan, shipped.resolve ⟨some (.consultationInProgress, a.q.stateVersion), none⟩
      .confirmConsultationSummary = .ok { plan with version := a.q.stateVersion + 1 } ∧
      plan.rule ∈ shipped.transitions ∧ plan.rule.event = .confirmConsultationSummary ∧
      confirms plan = true := accepted_plan (by decide) _
  obtain ⟨plan, resolved, listed, fires, keeps⟩ := found_plan
  rw [confirms, Bool.and_eq_true, Bool.and_eq_true, decide_eq_true_eq, Bool.not_eq_true'] at keeps
  obtain ⟨⟨target, quiet⟩, answered⟩ := keeps
  let service := assigned settings request w inquiry
    (ConsultationService.confirmSummary request inquiry a.q.stateVersion)
  let next : Plan := { plan with version := a.q.stateVersion + 1 }
  let context : ActionContext := { ActionContext.empty with consultation := a.latestConsultation }
  have confirmable : (a.latestConsultation.any fun c : Stored Consultation =>
      hasText c.1.summary && c.1.summaryConfirmedAt.isNone) = true := by
    rw [latest, Option.any_some, text, time]
    rfl
  have passed : shipped.evaluate plan.rule a.snapshot
      (service.guardContext request a context) = none := by
    have role : request.actor.role.actorRole = .consultant := by rw [consultant]; rfl
    refine service_passes listed (role ▸ answered) rfl ?_
    intro guard mem
    change List.lookup guard [(GuardId.assignedConsultant, true),
      (GuardId.consultationSummaryConfirmable, _)] = some true
    rw [confirmable]
    revert guard
    decide
  have accepted : Table.accepts (stampConsultation (request.stamp next) { c.1 with
      confirmedSummary := some (strip c.1.summary), summaryConfirmedAt := some request.now }) =
      true := stamp_accepts c.2 (Nat.succ_pos _) (key_ne_empty request.idempotencyKey)
  let row : Stored Consultation := ⟨_, accepted⟩
  have mutated : service.mutate next a context w.nextId =
      .ok (a.putConsultation row, .consultation row) := by
    change ConsultationService.onConsultation context _ = _
    unfold ConsultationService.onConsultation
    dsimp only [context]
    rw [latest]
    dsimp only
    have saved : ConsultationRepository.confirmSummary a c (request.stamp next) request.now =
        .ok (a.putConsultation row, row) :=
      consultation_update_ok.2 ⟨rfl, rfl⟩
    rw [saved]
    rfl
  obtain ⟨b, written⟩ : ∃ b, service.write request a context next w.nextId =
      .ok (b, .consultation row) := by
    refine write_total mutated coupled.recorded rfl ?_ ?_ ?_
    · change Table.accepts (applyStateTransition next a.q) = true
      refine moved_accepts (by rw [status]; decide) ?_ (Nat.succ_pos _)
      change plan.rule.target ≠ _
      rw [target]
      decide
    · exact fun inquiry => ⟨_, rfl, rfl⟩
    · intro recorded
      have still : next.rule.recordVisitStateHistory = false := quiet
      change AssignedAction.recordVisitAction request next a recorded (.consultation row) = .ok recorded
      exact recordVisitAction_none still
  have commits : Commits service request w a context next b (.consultation row) :=
    ⟨found, own, unrecorded, rfl, snapshot ▸ resolved, rfl, passed, written⟩
  have other : EventCode.confirmConsultationSummary ≠ .submitResolutionFeedback := by decide
  obtain ⟨m, hm, _, consultations, _⟩ := commits.tables (assigned_regular other)
  rw [mutated] at hm
  cases hm
  have performed := perform_of_commits commits
  refine ⟨(committed service request w context b (.consultation row)).1,
    (committed service request w context b (.consultation row)).2, ?_, rfl, b,
    row, committed_aggregate, ?_, rfl, rfl⟩
  · change (service.perform request w).map _ = _
    rw [performed]
    rfl
  · rw [consultations, coupled.desk.put row split rfl]
    simp

end

/-- In every run a completed consultation has a confirmed summary, and a confirmed summary
is the text of its one confirmation, which is the summary still unless a later request has
edited it. A summary that was never confirmed can be confirmed while the consultation runs. -/
theorem run_summary {settings : Settings} {start w : World} {labels : List Event}
    (initial : Initial start) (run : Run (Step settings) start labels w) :
    ∀ i a, w.aggregate i = some a → ∀ c ∈ a.consultations,
      SummaryTrail settings start labels w i c.1 ∧
        (c.1.status = .inProgress → c.1.summaryConfirmedAt = none → hasText c.1.summary = true →
          CanConfirm settings w i a c.1) := by
  intro i a found c mem
  have trail := run_trails initial run i a found c mem
  refine ⟨trail, ?_⟩
  intro running time text
  have unconfirmed : c.1.confirmedSummary = none := by
    have paired := trail.paired
    rw [time, Option.isSome_none, Option.isSome_eq_false_iff, Option.isNone_iff_eq_none] at paired
    exact paired
  exact canConfirm (reachable_coupled initial (Run.allowed run) found)
    (reachable_reviewed initial run found) found mem running time unconfirmed text

/-- A summary that is saved can be confirmed, and the consultation that is completed has one. -/
theorem run_summary_completing :
    (∃ labels w a c, Run (Step Sample.settings) Sample.world labels w ∧
      w.aggregate 10 = some a ∧ c ∈ a.consultations ∧ c.1.summaryConfirmedAt = none ∧
      CanConfirm Sample.settings w 10 a c.1) ∧
    ∃ labels w a c, Run (Step Sample.settings) Sample.world labels w ∧
      w.aggregate 10 = some a ∧ c ∈ a.consultations ∧ c.1.status = .completed ∧
      SummaryTrail Sample.settings Sample.world labels w 10 c.1 := by
  constructor
  · have run : Run (Step Sample.settings) Sample.world
        (trace Sample.settings Sample.world (Sample.confirming.take 3)).1
        (trace Sample.settings Sample.world (Sample.confirming.take 3)).2 :=
      trace_run (by decide +kernel)
    have there : ((trace Sample.settings Sample.world (Sample.confirming.take 3)).2.aggregate
        10).any (fun a => a.consultations.any fun c => decide (c.1.status = .inProgress ∧
          c.1.summaryConfirmedAt = none ∧ hasText c.1.summary = true)) = true := by
      decide +kernel
    obtain ⟨a, found, holds⟩ := (Option.any_eq_true _ _).1 there
    obtain ⟨c, mem, holds⟩ := List.any_eq_true.1 holds
    obtain ⟨running, time, text⟩ := of_decide_eq_true holds
    exact ⟨_, _, a, c, run, found, mem, time,
      (run_summary Sample.world_initial run 10 a found c mem).2 running time text⟩
  · have run : Run (Step Sample.settings) Sample.world
        (trace Sample.settings Sample.world Sample.completing).1
        (trace Sample.settings Sample.world Sample.completing).2 := trace_run (by decide +kernel)
    have there : ((trace Sample.settings Sample.world Sample.completing).2.aggregate 10).any
        (fun a => a.consultations.any fun c => decide (c.1.status = .completed)) = true := by
      decide +kernel
    obtain ⟨a, found, holds⟩ := (Option.any_eq_true _ _).1 there
    obtain ⟨c, mem, holds⟩ := List.any_eq_true.1 holds
    exact ⟨_, _, a, c, run, found, mem, of_decide_eq_true holds,
      (run_summary Sample.world_initial run 10 a found c mem).1⟩

/-- The summary is edited after its confirmation, and the consultation completed. -/
def editedAfterwards : List Action :=
  Sample.confirming ++
  [ Sample.send Sample.consultant 104 (.act (.saveSummary 10 4
      (Sample.summaryOf "filter replaced" none))),
    Sample.send Sample.consultant 105 (.act (.completeConsultation 10 5)) ]

theorem completed_with_edited_summary :
    ∃ labels w a c, Run (Step Sample.settings) Sample.world labels w ∧
      w.aggregate 10 = some a ∧ c ∈ a.consultations ∧ c.1.status = .completed ∧
      c.1.confirmedSummary ≠ some (strip c.1.summary) := by
  have run : Run (Step Sample.settings) Sample.world
      (trace Sample.settings Sample.world editedAfterwards).1
      (trace Sample.settings Sample.world editedAfterwards).2 := trace_run (by decide +kernel)
  have edited : ((trace Sample.settings Sample.world editedAfterwards).2.aggregate 10).any
      (fun a => a.consultations.any fun c => decide (c.1.status = .completed) &&
        decide (c.1.confirmedSummary ≠ some (strip c.1.summary))) = true := by decide +kernel
  obtain ⟨a, found, holds⟩ := (Option.any_eq_true _ _).1 edited
  obtain ⟨c, mem, both⟩ := List.any_eq_true.1 holds
  rw [Bool.and_eq_true, decide_eq_true_eq, decide_eq_true_eq] at both
  exact ⟨_, _, a, c, run, found, mem, both.1, both.2⟩

end WaterCare.Runtime
