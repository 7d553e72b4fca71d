import WaterCare.Machine.Rows
import WaterCare.Runtime.Repository
import WaterCare.Runtime.Writes

/-!
What one event does to the tables of an inquiry: how its consultations, its
visits and its feedback change, and that nothing else of them does.
-/

namespace WaterCare.Runtime
open Machine Workflow Store Service Py Analysis

/-! ### The consultations -/

/-- The consultations of an inquiry, numbered by their sequence. Only the last of
them can be active. -/
structure Desk (limit : Nat) (cs : List (Stored Consultation)) : Prop where
  numbered : Numbered (fun c : Stored Consultation => c.1.sequence) (fun c => c.1.id) limit cs
  closed : ∀ c ∈ cs.dropLast, c.1.status.isActive = false

namespace Desk
variable {limit : Nat} {cs older : List (Stored Consultation)} {a : Aggregate}
  {c row : Stored Consultation}

theorem mono {more : Nat} (desk : Desk limit cs) (h : limit ≤ more) : Desk more cs :=
  ⟨desk.numbered.mono h, desk.closed⟩

/-- The latest consultation is the last row. -/
theorem latest_some (desk : Desk limit a.consultations) (h : a.latestConsultation = some c) :
    ∃ older, a.consultations = older ++ [c] := by
  rcases List.eq_nil_or_concat a.consultations with empty | ⟨older, last, split⟩
  · have mem : c ∈ a.consultations := List.argmax_mem h
    rw [empty] at mem
    cases mem
  · rw [List.concat_eq_append] at split
    have found : a.latestConsultation = some last := by
      unfold Aggregate.latestConsultation newest
      rw [split]
      exact (split ▸ desk.numbered).newest
    rw [found] at h
    cases h
    exact ⟨older, split⟩

theorem latest_of_concat (desk : Desk limit a.consultations)
    (split : a.consultations = older ++ [c]) : a.latestConsultation = some c := by
  unfold Aggregate.latestConsultation newest
  rw [split]
  exact (split ▸ desk.numbered).newest

/-- An active consultation is the last row. -/
theorem active_last (desk : Desk limit cs) (mem : c ∈ cs) (active : c.1.status.isActive = true) :
    ∃ older, cs = older ++ [c] := by
  rcases List.eq_nil_or_concat cs with empty | ⟨older, last, split⟩
  · rw [empty] at mem
    cases mem
  · rw [List.concat_eq_append] at split
    subst split
    rcases List.mem_append.1 mem with old | new
    · have inactive := desk.closed c (by rwa [List.dropLast_concat])
      rw [inactive] at active
      cases active
    · rw [List.mem_singleton.1 new]
      exact ⟨older, rfl⟩

theorem put (row : Stored Consultation) (desk : Desk limit a.consultations)
    (split : a.consultations = older ++ [c]) (same : row.1.id = c.1.id) : (a.putConsultation row).consultations = older ++ [row] := by
  change replaceRow (fun c : Stored Consultation => c.1.id) row a.consultations = _
  rw [split]
  exact (split ▸ desk.numbered).replace_last same

theorem lastSequence_eq (desk : Desk limit a.consultations) :
    a.lastSequence = a.consultations.length :=
  desk.numbered.greatest

end Desk

/-- The events that ask for a consultation. -/
def asksConsultation : EventCode → Bool
  | .requestConsultation | .resumeConsultation | .dangerDetected
  | .humanReviewConsultationRequired | .humanReviewRejected => true
  | _ => false

/-- The events that leave the consultations alone; a cancellation does when none is active. -/
def keepsConsultations : EventCode → Bool
  | .submitSymptom | .submitAnswers | .visitNeeded | .updateVisitSchedule | .confirmVisit
  | .submitResolutionFeedback | .customerReportedUnresolved | .finalizeInquiry
  | .productValidationFailed | .safeGuidanceReady | .noEvidence | .aiProcessingTimeout
  | .humanReviewGuidanceApproved => true
  | _ => false

section
variable (assigned : Option Nat) (now : Instant)

/-- The changes of the last consultation under an event, and the two without one: the
supervisor reassigns it, or a hand-off becomes its draft. The parameter is the user
the inquiry is assigned to afterwards. -/
inductive Edited : Option EventCode → Consultation → Consultation → Prop
  | refreshed {event : EventCode} {x : Consultation} (stamp : Stamp) (draft : Option String) :
      asksConsultation event = true → x.status.isPending = true →
      Edited (some event) x { stampConsultation stamp x with aiDraftSummary := draft }
  | claimed {x : Consultation} (stamp : Stamp) : x.status = .waiting → x.consultant = none →
      Edited (some .claimConsultation) x
        (stampConsultation stamp { x with consultant := assigned, status := .assigned })
  | started {x : Consultation} (stamp : Stamp) : x.status.isPending = true →
      Edited (some .startConsultation) x (stampConsultation stamp { x with
        consultant := assigned, status := .inProgress
        startedAt := some (x.startedAt.getD now) })
  | summarized {x : Consultation} (stamp : Stamp) (values : SummaryValues) :
      Edited (some .updateConsultationSummary) x (stampConsultation stamp { x with
        summary := values.summary.getD x.summary
        consultationNote := values.consultationNote.getD x.consultationNote
        additionalCheck := values.additionalCheck.getD x.additionalCheck
        customerGuidance := values.customerGuidance.getD x.customerGuidance
        outcome := values.resultCode.getD x.outcome
        usageGuidanceStatus := values.usageGuidanceStatus.getD x.usageGuidanceStatus })
  | confirmed {x : Consultation} (stamp : Stamp) : hasText x.summary = true →
      x.summaryConfirmedAt = none →
      Edited (some .confirmConsultationSummary) x (stampConsultation stamp
        { x with confirmedSummary := some (strip x.summary), summaryConfirmedAt := some now })
  | completed {x : Consultation} (stamp : Stamp) : x.outcome ≠ .pending →
      isFilled x.confirmedSummary = true → x.summaryConfirmedAt.isSome = true →
      x.completedAt = none →
      Edited (some .consultationCompleted) x
        (stampConsultation stamp { x with status := .completed, completedAt := some now })
  | reviewed {x : Consultation} (stamp : Stamp) (reason : String) (detail : Option String) :
      x.outcome = .visitRequired → isFilled x.confirmedSummary = true →
      Edited (some .visitReviewRequired) x (stampConsultation stamp
        { x with visitReviewReason := some reason, visitReviewDetail := detail })
  | notNeeded {x : Consultation} (stamp : Stamp) (reason : String) (detail : Option String) :
      x.outcome = .visitRequired → isFilled x.confirmedSummary = true →
      x.summaryConfirmedAt.isSome = true →
      Edited (some .visitNotNeeded) x (stampConsultation stamp { x with
        visitNotNeededReason := some reason, visitNotNeededDetail := detail
        outcome := .completedNoVisit, status := .completed, completedAt := some now })
  | cancelled {x : Consultation} (stamp : Stamp) : x.status.isActive = true →
      Edited (some .cancelInquiry) x (stampConsultation stamp
        { x with status := .cancelled, outcome := .pending, completedAt := none })
  | reassigned {x : Consultation} (target : Nat) : assigned = some target →
      x.status ≠ .completed → x.status ≠ .cancelled →
      Edited none x (SupervisorConsultationService.reassigned x target)
  | drafted {x : Consultation} (draft : Option String) : x.status.isActive = true →
      Edited none x { x with aiDraftSummary := draft }

/-- The consultations an event adds after the given ones. -/
inductive Added (limit : Nat) (cs : List (Stored Consultation)) : EventCode → Consultation → Prop
  | waiting {event : EventCode} (stamp : Stamp) (draft : Option String) (isSynthetic : Bool) :
      asksConsultation event = true →
      (∀ c ∈ cs.getLast?, c.1.status.isPending = false ∧ c.1.status ≠ .inProgress) →
      Added limit cs event
        { blankConsultation limit (cs.length + 1) .waiting none none isSynthetic stamp now with
          aiDraftSummary := draft }
  | running (stamp : Stamp) :
      (∀ c ∈ cs.getLast?, c.1.status.isPending = false) →
      Added limit cs .startConsultation
        (blankConsultation limit (cs.length + 1) .inProgress assigned (some now) true stamp now)

/-- How the consultations of an inquiry change. -/
inductive Consulted (limit : Nat) (event : Option EventCode) :
    List (Stored Consultation) → List (Stored Consultation) → Prop
  | kept {cs : List (Stored Consultation)} :
      (∀ e, event = some e → keepsConsultations e = true ∨
        e = .cancelInquiry ∧ ∀ c ∈ cs, c.1.status.isActive = false) →
      Consulted limit event cs cs
  | edited (older : List (Stored Consultation)) {c row : Stored Consultation} :
      Edited assigned now event c.1 row.1 → Consulted limit event (older ++ [c]) (older ++ [row])
  | added {cs : List (Stored Consultation)} {row : Stored Consultation} {e : EventCode} :
      event = some e → Added assigned now limit cs e row.1 →
      Consulted limit event cs (cs ++ [row])

end

/-- Where a consultation comes from: it is an earlier one, the changed last one, or new. -/
theorem Consulted.mem {assigned : Option Nat} {now : Instant} {limit : Nat}
    {event : Option EventCode} {cs cs' : List (Stored Consultation)} {y : Stored Consultation}
    (consulted : Consulted assigned now limit event cs cs') (mem : y ∈ cs') :
    y ∈ cs ∨ (∃ older c, cs = older ++ [c] ∧ cs' = older ++ [y] ∧
        Edited assigned now event c.1 y.1) ∨
      ∃ e, event = some e ∧ Added assigned now limit cs e y.1 := by
  cases consulted with
  | kept _ => exact .inl mem
  | edited older edit =>
      rcases List.mem_append.1 mem with old | new
      · exact .inl (List.mem_append_left _ old)
      · rw [List.mem_singleton.1 new]
        exact .inr (.inl ⟨older, _, rfl, rfl, edit⟩)
  | added same add =>
      rcases List.mem_append.1 mem with old | new
      · exact .inl old
      · rw [List.mem_singleton.1 new]
        exact .inr (.inr ⟨_, same, add⟩)

/-! ### Visits and feedback -/

/-- The events that write a visit. -/
def writesVisit : EventCode → Bool
  | .visitNeeded | .updateVisitSchedule | .confirmVisit => true
  | _ => false

/-- How the visits of an inquiry change under an event. -/
inductive Visited (limit : Nat) (now : Instant) :
    EventCode → List (Stored Visit) → List (Stored Visit) → Prop
  | kept {event : EventCode} {vs : List (Stored Visit)} : writesVisit event = false →
      Visited limit now event vs vs
  | created {vs : List (Stored Visit)} {v : Stored Visit} : v.1.id = limit →
      v.1.status = .assigning → v.1.completedAt = none → v.1.createdAt = now →
      Visited limit now .visitNeeded vs (vs ++ [v])
  | updated {event : EventCode} {vs : List (Stored Visit)} {v row : Stored Visit} : v ∈ vs →
      row.1.id = v.1.id → row.1.createdAt = v.1.createdAt →
      (event = .updateVisitSchedule ∧ row.1.status = .scheduling ∨
        event = .confirmVisit ∧ row.1.status = .confirmed) →
      Visited limit now event vs (replaceRow (·.1.id) row vs)

/-- How the feedback on an inquiry grows under an event. -/
inductive Answered (limit : Nat) (now : Instant) :
    EventCode → List (Stored FollowupConfirmation) → List (Stored FollowupConfirmation) → Prop
  | kept {event : EventCode} {fs : List (Stored FollowupConfirmation)} :
      event ≠ .submitResolutionFeedback → event ≠ .customerReportedUnresolved →
      Answered limit now event fs fs
  | added {event : EventCode} {fs : List (Stored FollowupConfirmation)}
      {f : Stored FollowupConfirmation} : f.1.id = limit → f.1.createdAt = now →
      (event = .submitResolutionFeedback ∧ f.1.resolutionStatus = .resolved ∨
        event = .customerReportedUnresolved ∧ f.1.resolutionStatus = .reopened) →
      Answered limit now event fs (fs ++ [f])

/-! ### Transitions -/

/-- The tables a mutation of the shared transaction leaves as they are, and how it
changes the others. -/
structure Mutated (limit : Nat) (assigned : Option Nat) (now : Instant) (event : EventCode)
    (a m : Aggregate) : Prop where
  inquiry : m.inquiry = a.inquiry
  history : m.history = a.history
  consultations : Consulted assigned now limit (some event) a.consultations m.consultations
  visits : Visited limit now event a.visits m.visits
  followups : Answered limit now event a.followups m.followups

/-- An event has moved an inquiry along a rule of the contract. -/
structure Transition (limit : Nat) (now : Instant) (event : EventCode) (plan : Plan)
    (a b : Aggregate) : Prop where
  resolved : shipped.resolve a.snapshot event = .ok plan
  status : b.q.status = plan.rule.target
  version : b.q.stateVersion = plan.version
  identity : b.q.id = a.q.id ∧ b.q.subscription = a.q.subscription ∧
    b.q.initiatedBy = a.q.initiatedBy
  assignment : event = .claimConsultation ∨
    b.q.assignedUser = a.q.assignedUser ∧ b.q.assignedRole = a.q.assignedRole
  history : (event = .submitResolutionFeedback ∧ b.history = a.history) ∨
    (event ≠ .submitResolutionFeedback ∧ ∃ row : Stored InquiryHistory,
      b.history = a.history ++ [row] ∧ row.1.event = event ∧ row.1.fromState = some a.q.status ∧
      row.1.toState = plan.rule.target ∧ row.1.stateVersion = plan.version)
  consultations : Consulted b.q.assignedUser now limit (some event) a.consultations b.consultations
  visits : Visited limit now event a.visits b.visits
  followups : Answered limit now event a.followups b.followups

namespace Transition
variable {limit : Nat} {now : Instant} {event : EventCode} {plan : Plan} {a b : Aggregate}

theorem rule_mem (move : Transition limit now event plan a b) :
    plan.rule ∈ shipped.transitions ∧ plan.rule.event = event ∧
      plan.rule.source = some a.q.status := by
  obtain ⟨listed, fires, source, _⟩ := resolve_ok move.resolved
  exact ⟨listed, fires, source⟩

theorem version_succ (move : Transition limit now event plan a b) :
    b.q.stateVersion = a.q.stateVersion + 1 := by
  obtain ⟨_, _, _, _, _, version, _⟩ := resolve_ok move.resolved
  rw [move.version, version]
  rfl

end Transition
end WaterCare.Runtime
