import WaterCare.Runtime.Commit

/-!
What the repositories have written when they return, one lemma for each of them.
-/

namespace WaterCare.Runtime
open Machine Workflow Store Service Py

variable {d : Directory} {a b : Aggregate} {c row : Stored Consultation} {stamp : Stamp}
  {now : Instant} {id : Nat} {actor : User} {current : Option (Stored Consultation)}

/-! ### Consultations -/

theorem consultation_update_ok {x : Consultation} :
    ConsultationRepository.update a x = .ok (b, row) ↔ row.1 = x ∧ b = a.putConsultation row := by
  unfold ConsultationRepository.update
  constructor
  · intro h
    obtain ⟨stored, saved, h⟩ := bind_eq_ok.1 h
    cases h
    exact ⟨save_ok.1 saved, rfl⟩
  · rintro ⟨same, rfl⟩
    rw [bind_of_ok (save_ok.2 same)]
    rfl

/-- A consultation without any result. -/
def blankConsultation (id sequence : Nat) (status : ConsultationStatus)
    (consultant : Option Nat) (startedAt : Option Instant) (isSynthetic : Bool) (stamp : Stamp)
    (now : Instant) : Consultation :=
  stampConsultation stamp
    { id := id, sequence := sequence, consultant := consultant, status := status
      outcome := .pending, summary := "", aiDraftSummary := none, confirmedSummary := none
      summaryConfirmedAt := none, consultationNote := none, additionalCheck := none
      customerGuidance := none, usageGuidanceStatus := none, visitReviewReason := none
      visitReviewDetail := none, visitNotNeededReason := none, visitNotNeededDetail := none
      stateVersion := 1, idempotencyKey := "", correlationId := "", startedAt := startedAt
      completedAt := none, isSynthetic := isSynthetic, createdAt := now }

theorem consultation_create_ok {status : ConsultationStatus} {consultant : Option Nat}
    {startedAt : Option Instant} {isSynthetic : Bool}
    (h : ConsultationRepository.create a id status consultant startedAt isSynthetic stamp now =
      .ok (b, row)) :
    row.1 = blankConsultation id (a.lastSequence + 1) status consultant startedAt isSynthetic
        stamp now ∧
      b = { a with consultations := a.consultations ++ [row] } := by
  unfold ConsultationRepository.create at h
  obtain ⟨stored, saved, h⟩ := bind_eq_ok.1 h
  cases h
  exact ⟨save_ok.1 saved, rfl⟩

/-- A request refreshes a pending consultation or opens a waiting one. -/
theorem request_ok
    (h : ConsultationRepository.request d a stamp current id now = .ok (b, row)) :
    (∃ c, current = some c ∧ c.1.status.isPending = true ∧
      row.1 = stampConsultation stamp c.1 ∧ b = a.putConsultation row) ∨
    (∃ isSynthetic, (∀ c, current = some c → c.1.status.isPending = false ∧
        c.1.status ≠ .inProgress) ∧
      row.1 = blankConsultation id (a.lastSequence + 1) .waiting none none isSynthetic stamp now ∧
      b = { a with consultations := a.consultations ++ [row] }) := by
  unfold ConsultationRepository.request at h
  split at h
  · rename_i c pending
    obtain ⟨found, isPending⟩ := Option.filter_eq_some_iff.1 pending
    obtain ⟨same, written⟩ := consultation_update_ok.1 h
    exact .inl ⟨c, found, isPending, same, written⟩
  · rename_i none_pending
    split_ifs at h with running
    split at h
    · obtain ⟨same, written⟩ := consultation_create_ok h
      refine .inr ⟨_, ?_, same, written⟩
      intro c found
      subst found
      rw [Option.filter_eq_none_iff] at none_pending
      refine ⟨Bool.eq_false_iff.2 (none_pending c rfl), ?_⟩
      intro inProgress
      exact running (decide_eq_true inProgress)
    · cases h

theorem claim_repository_ok
    (h : ConsultationRepository.claim a c actor stamp = .ok (b, row)) :
    c.1.status = .waiting ∧ c.1.consultant = none ∧
      row.1 = stampConsultation stamp { c.1 with consultant := actor.id, status := .assigned } ∧
      b = a.putConsultation row := by
  unfold ConsultationRepository.claim at h
  split_ifs at h with taken
  obtain ⟨waiting, h'⟩ := not_or.1 taken
  obtain ⟨unassigned, _⟩ := not_or.1 h'
  obtain ⟨same, written⟩ := consultation_update_ok.1 h
  exact ⟨not_not.1 waiting, Option.not_isSome_iff_eq_none.1 unassigned, same, written⟩

theorem start_ok (h : ConsultationRepository.start a actor stamp current id now = .ok (b, row)) :
    (∃ c, current = some c ∧ c.1.status.isPending = true ∧
      row.1 = stampConsultation stamp { c.1 with
        consultant := actor.id, status := .inProgress
        startedAt := some (c.1.startedAt.getD now) } ∧
      b = a.putConsultation row) ∨
    ((∀ c, current = some c → c.1.status.isPending = false) ∧
      row.1 = blankConsultation id (a.lastSequence + 1) .inProgress (some actor.id) (some now) true
        stamp now ∧
      b = { a with consultations := a.consultations ++ [row] }) := by
  unfold ConsultationRepository.start at h
  split at h
  · rename_i none_pending
    obtain ⟨same, written⟩ := consultation_create_ok h
    refine .inr ⟨?_, same, written⟩
    intro c found
    subst found
    rw [Option.filter_eq_none_iff] at none_pending
    exact Bool.eq_false_iff.2 (none_pending c rfl)
  · rename_i c pending
    obtain ⟨found, isPending⟩ := Option.filter_eq_some_iff.1 pending
    obtain ⟨same, written⟩ := consultation_update_ok.1 h
    exact .inl ⟨c, found, isPending, same, written⟩

/-- A cancellation closes the one active consultation, if there is one. -/
theorem cancelActive_ok (h : ConsultationRepository.cancelActive d a stamp = .ok b) :
    ((∀ c ∈ a.consultations, c.1.status.isActive = false) ∧ b = a) ∨
    ∃ c row : Stored Consultation, c ∈ a.consultations ∧ c.1.status.isActive = true ∧
      row.1 = stampConsultation stamp
        { c.1 with status := .cancelled, outcome := .pending, completedAt := none } ∧
      b = a.putConsultation row := by
  unfold ConsultationRepository.cancelActive at h
  split at h
  · rename_i inactive
    cases h
    refine .inl ⟨?_, rfl⟩
    intro c mem
    rw [List.filter_eq_nil_iff] at inactive
    exact Bool.eq_false_iff.2 (inactive c mem)
  · rename_i c active
    split_ifs at h
    obtain ⟨row, saved, h⟩ := bind_eq_ok.1 h
    cases h
    have mem : c ∈ a.consultations.filter fun c => c.1.status.isActive := by
      rw [active]
      exact List.mem_singleton_self c
    rw [List.mem_filter] at mem
    exact .inr ⟨c, row, mem.1, mem.2, save_ok.1 saved, rfl⟩
  · cases h

/-! ### Hand-offs -/

/-- An attachment changes the draft of the consultation it is given and the links of
the hand-offs, if anything. -/
theorem attach_ok {h : ConsultationHandoff}
    (attached : ConsultationHandoffRepository.attach a c h = .ok (b, row)) :
    ∃ draft handoffs, row.1 = { c.1 with aiDraftSummary := draft } ∧
      (b = { a with handoffs := handoffs } ∧ row = c ∨
        b = { (a.putConsultation row) with handoffs := handoffs }) := by
  unfold ConsultationHandoffRepository.attach at attached
  dsimp only at attached
  split at attached
  · cases attached
    exact ⟨c.1.aiDraftSummary, a.handoffs, rfl, .inl ⟨rfl, rfl⟩⟩
  · split at attached
    · cases attached
      exact ⟨c.1.aiDraftSummary, _, rfl, .inl ⟨rfl, rfl⟩⟩
    · obtain ⟨same, rfl⟩ := consultation_update_ok.1 attached
      exact ⟨_, _, same, .inr rfl⟩

theorem attachToLatest_ok
    (attached : ConsultationHandoffRepository.attachToLatestConsultation a c = .ok (b, row)) :
    ∃ draft handoffs, row.1 = { c.1 with aiDraftSummary := draft } ∧
      (b = { a with handoffs := handoffs } ∧ row = c ∨
        b = { (a.putConsultation row) with handoffs := handoffs }) := by
  unfold ConsultationHandoffRepository.attachToLatestConsultation at attached
  split at attached
  · cases attached
    exact ⟨c.1.aiDraftSummary, a.handoffs, rfl, .inl ⟨rfl, rfl⟩⟩
  · exact attach_ok attached

theorem attachHandoff_ok {h : ConsultationHandoff}
    (attached : ConsultationHandoffRepository.attachHandoff a h = .ok b) :
    (∃ handoffs, b = { a with handoffs := handoffs }) ∨
    ∃ c row : Stored Consultation, ∃ draft handoffs,
      c ∈ a.consultations ∧ c.1.status.isActive = true ∧
      row.1 = { c.1 with aiDraftSummary := draft } ∧
      b = { (a.putConsultation row) with handoffs := handoffs } := by
  unfold ConsultationHandoffRepository.attachHandoff at attached
  split at attached
  · cases attached
    exact .inl ⟨a.handoffs, rfl⟩
  · rename_i c found
    have mem : c ∈ a.consultations.filter fun c => c.1.status.isActive := List.argmax_mem found
    rw [List.mem_filter] at mem
    split at attached
    · obtain ⟨⟨b', row⟩, h', rfl⟩ := map_eq_ok.1 attached
      obtain ⟨draft, handoffs, same, written⟩ := attach_ok h'
      rcases written with ⟨rfl, _⟩ | rfl
      · exact .inl ⟨handoffs, rfl⟩
      · exact .inr ⟨c, row, draft, handoffs, mem.1, mem.2, same, rfl⟩
    · cases attached
      exact .inl ⟨a.handoffs, rfl⟩

/-! ### Visits and feedback -/

theorem visit_update_ok {x : Visit} {v : Stored Visit} :
    VisitRepository.update a x = .ok (b, v) ↔ v.1 = x ∧ b = a.putVisit v := by
  unfold VisitRepository.update
  constructor
  · intro h
    obtain ⟨stored, saved, h⟩ := bind_eq_ok.1 h
    cases h
    exact ⟨save_ok.1 saved, rfl⟩
  · rintro ⟨same, rfl⟩
    rw [bind_of_ok (save_ok.2 same)]
    rfl

theorem visit_create_ok {values : VisitValues} {v : Stored Visit}
    (h : VisitRepository.create a c actor values stamp id now = .ok (b, v)) :
    v.1.id = id ∧ v.1.status = .assigning ∧ v.1.completedAt = none ∧ v.1.createdAt = now ∧
      ∃ reports, b = { a with visits := a.visits ++ [v], handoffReports := reports } := by
  unfold VisitRepository.create at h
  obtain ⟨stored, saved, h⟩ := bind_eq_ok.1 h
  split_ifs at h
  cases h
  rw [save_ok.1 saved]
  exact ⟨rfl, rfl, rfl, rfl, _, rfl⟩

theorem createFeedback_ok {handling : CompletedHandling} {stateVersion : Nat}
    {status : ResolutionStatus} {comment unresolvedReason : Option String} {next : NextAction}
    {confirmedAt : Option Instant} {f : Stored FollowupConfirmation}
    (h : ResolutionRepository.createFeedback a handling id stateVersion status comment
      unresolvedReason next confirmedAt now = .ok (b, f)) :
    f.1.id = id ∧ f.1.resolutionStatus = status ∧ f.1.createdAt = now ∧
      f.1.consultation = handling.consultation ∧ f.1.visit = handling.visit ∧
      f.1.requestedAt = handling.completedAt ∧
      b = { a with followups := a.followups ++ [f] } := by
  unfold ResolutionRepository.createFeedback at h
  obtain ⟨channel, _, h⟩ := bind_eq_ok.1 h
  obtain ⟨stored, saved, h⟩ := bind_eq_ok.1 h
  cases h
  rw [save_ok.1 saved]
  exact ⟨rfl, rfl, rfl, rfl, rfl, rfl, rfl⟩

end WaterCare.Runtime
