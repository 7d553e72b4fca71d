import WaterCare.Service.Consultant

/-!
The guards about a stored consultation or visit are computed twice: the resolver
lists an action by `_guard_available`, and the domain results of the operation decide
the request. The two sides read the rows through other representations and agree on
all of them, up to what only the request can supply.
-/

namespace WaterCare.Service
open Workflow Store Py

/-- The guards that both sides compute from the stored rows. -/
inductive PersistedGuard
  | summaryConfirmable
  | resultComplete
  | visitReview
  | visitHandoff
  | visitNotNeeded
  | confirmedVisitDate
  | assignedTechnician

/-- What the six operations receive beside the version of the inquiry. -/
structure ConsultantPayload where
  reason : VisitReason
  values : VisitValues
  preferredDateSent : Bool
  visit : Nat

/-- The handoff of a visit request is filled, and a confirmation addresses the latest visit. -/
structure ConsultantPayload.Complete (payload : ConsultantPayload) (a : Aggregate) : Prop where
  handoff : payload.values.handoff ≠ []
  current : ∀ v, a.latestVisit = some v → payload.visit = v.1.id

namespace PersistedGuard

def guardId : PersistedGuard → GuardId
  | summaryConfirmable => .consultationSummaryConfirmable
  | resultComplete => .consultationResultComplete
  | visitReview => .visitReviewPayloadValid
  | visitHandoff => .visitHandoffComplete
  | visitNotNeeded => .visitNotNeededResultComplete
  | confirmedVisitDate => .confirmedVisitDate
  | assignedTechnician => .assignedTechnicianPresent

section
variable (settings : Settings) (d : Directory) (request : Request) (inquiry stateVersion : Nat)
  (payload : ConsultantPayload)

/-- The operation whose domain results hold the guard. -/
def operation : PersistedGuard → AssignedAction
  | summaryConfirmable => ConsultationService.confirmSummary request inquiry stateVersion
  | resultComplete => ConsultationService.complete request inquiry stateVersion
  | visitReview => VisitService.requestReview d request inquiry stateVersion payload.reason
  | visitHandoff =>
      VisitService.createRequest d request inquiry stateVersion payload.values
        payload.preferredDateSent
  | visitNotNeeded => VisitService.markNotNeeded d request inquiry stateVersion payload.reason
  | confirmedVisitDate | assignedTechnician =>
      VisitService.confirm settings d request inquiry stateVersion payload.visit

/-- The guard as its operation computes it from the rows it has locked. -/
def domainResult (g : PersistedGuard) (a : Aggregate) : Option Bool :=
  let operation := g.operation settings d request inquiry stateVersion payload
  (operation.domainResults a (operation.context a)).lookup g.guardId

end

/-- The part of the guard that the request supplies. -/
def supplied (payload : ConsultantPayload) (a : Aggregate) : PersistedGuard → Bool
  | visitHandoff => !payload.values.handoff.isEmpty
  | confirmedVisitDate | assignedTechnician =>
      a.latestVisit.all fun v => decide (payload.visit = v.1.id)
  | _ => true

end PersistedGuard

section
variable {a : Aggregate} {v : Stored Visit} {payload : ConsultantPayload}

theorem latestVisit_mem (latest : a.latestVisit = some v) : v ∈ a.visits := List.argmax_mem latest

theorem lockByPublicId_mem {visit : Nat} (found : VisitRepository.lockByPublicId a visit = some v) :
    v ∈ a.visits ∧ v.1.id = visit := by
  have held : decide (v.1.id = visit) = true :=
    List.find?_some (p := fun w : Stored Visit => decide (w.1.id = visit)) found
  exact ⟨List.mem_of_find?_eq_some found, of_decide_eq_true held⟩

/-- The lookup by public identifier finds the latest visit under its own identifier. -/
theorem lockByPublicId_latest (distinct : (a.visits.map (·.1.id)).Nodup)
    (latest : a.latestVisit = some v) : VisitRepository.lockByPublicId a v.1.id = some v := by
  have mem := latestVisit_mem latest
  cases found : VisitRepository.lockByPublicId a v.1.id with
  | none =>
      have missing := List.find?_eq_none.1 found v mem
      exact absurd (decide_eq_true rfl) missing
  | some w =>
      have ⟨mem', same⟩ := lockByPublicId_mem found
      exact congrArg some (List.inj_on_of_nodup_map distinct mem' mem same)

/-- A fact about the visit of the request, which counts only when it is the latest one. -/
theorem currentVisit_any (distinct : (a.visits.map (·.1.id)).Nodup) (visit : Nat)
    (p : Visit → Bool) :
    (VisitService.isCurrentVisit (VisitService.visitContext visit none a) &&
        (VisitService.visitContext visit none a).visit.any fun v => p v.1) =
      (a.latestVisit.any (fun v => p v.1) &&
        a.latestVisit.all fun v => decide (visit = v.1.id)) := by
  change ((VisitRepository.lockByPublicId a visit).any (fun v => a.latestVisit.any fun latest =>
      decide (v.1.id = latest.1.id)) && (VisitRepository.lockByPublicId a visit).any _) = _
  cases latest : a.latestVisit with
  | none => cases VisitRepository.lockByPublicId a visit <;> simp
  | some v =>
      by_cases same : visit = v.1.id
      · simp [same, lockByPublicId_latest distinct latest]
      · cases found : VisitRepository.lockByPublicId a visit with
        | none => simp [same]
        | some w =>
            have addressed := (lockByPublicId_mem found).2
            have other : w.1.id ≠ v.1.id := fun equal => same (addressed.symm.trans equal)
            simp [same, other]

end

namespace PersistedGuard
variable (settings : Settings) (d : Directory) (request : Request) (inquiry stateVersion : Nat)
  {payload : ConsultantPayload} {a : Aggregate}

/-- The operation computes what the resolver lists, and the part of the request. -/
theorem domainResult_eq (distinct : (a.visits.map (·.1.id)).Nodup) (actor : User)
    (g : PersistedGuard) :
    g.domainResult settings d request inquiry stateVersion payload a =
      some ((AllowedActionContext.ofAggregate d a actor).guardAvailable g.guardId &&
        g.supplied payload a) := by
  have dated := currentVisit_any distinct payload.visit fun v => v.confirmedDate.isSome
  have staffed := currentVisit_any distinct payload.visit fun v =>
    (v.technician.bind d.user).any fun t =>
      decide (t.role = .technician) && t.isActive && t.isSynthetic
  cases g with
  | summaryConfirmable =>
      change some (a.latestConsultation.any _) = some (_ && true)
      cases consultation : a.latestConsultation <;>
        simp [AllowedActionContext.ofAggregate, AllowedActionContext.fromModels,
          AllowedActionContext.guardAvailable, guardId, consultation]
  | resultComplete =>
      change some (a.latestConsultation.any _) = some (_ && true)
      cases consultation : a.latestConsultation <;>
        simp [AllowedActionContext.ofAggregate, AllowedActionContext.fromModels,
          AllowedActionContext.guardAvailable, guardId, consultation]
  | visitReview =>
      change some (a.latestConsultation.any _ && a.latestVisit.isNone) = some (_ && true)
      cases consultation : a.latestConsultation <;>
        simp [AllowedActionContext.ofAggregate, AllowedActionContext.fromModels,
          AllowedActionContext.guardAvailable, guardId, consultation]
  | visitHandoff =>
      change some (a.latestConsultation.any _ && (d.subscription a.q.subscription).isSome &&
        a.latestVisit.isNone && !payload.values.handoff.isEmpty) = some (_ && _)
      cases consultation : a.latestConsultation <;>
        simp [AllowedActionContext.ofAggregate, AllowedActionContext.fromModels,
          AllowedActionContext.guardAvailable, guardId, supplied, consultation]
  | visitNotNeeded =>
      change some (a.latestConsultation.any _ && a.latestVisit.isNone) = some (_ && true)
      cases consultation : a.latestConsultation <;>
        simp [AllowedActionContext.ofAggregate, AllowedActionContext.fromModels,
          AllowedActionContext.guardAvailable, guardId, consultation]
  | confirmedVisitDate =>
      refine congrArg some (dated.trans ?_)
      cases visit : a.latestVisit <;>
        simp [AllowedActionContext.ofAggregate, AllowedActionContext.fromModels,
          AllowedActionContext.guardAvailable, guardId, supplied, visit]
  | assignedTechnician =>
      refine congrArg some (staffed.trans ?_)
      cases visit : a.latestVisit with
      | none =>
          simp [AllowedActionContext.ofAggregate, AllowedActionContext.fromModels,
            AllowedActionContext.guardAvailable, guardId, supplied, visit]
      | some v =>
          cases technician : v.1.technician.bind d.user with
          | none =>
              simp [AllowedActionContext.ofAggregate, AllowedActionContext.fromModels,
                AllowedActionContext.guardAvailable, guardId, supplied, visit, technician]
          | some t =>
              -- the role is asked first by the operation and last by the resolver
              have order (x y z : Bool) : (x && y && z) = (y && z && x) := by
                cases x <;> simp
              simp [AllowedActionContext.ofAggregate, AllowedActionContext.fromModels,
                AllowedActionContext.guardAvailable, guardId, supplied, visit, technician, order]

theorem supplied_of_complete (complete : payload.Complete a) (g : PersistedGuard) :
    g.supplied payload a = true := by
  have addressed : (a.latestVisit.all fun v => decide (payload.visit = v.1.id)) = true := by
    cases latest : a.latestVisit with
    | none => rfl
    | some v => exact decide_eq_true (complete.current v latest)
  cases g with
  | visitHandoff => simp [supplied, complete.handoff]
  | confirmedVisitDate | assignedTechnician => exact addressed
  | summaryConfirmable | resultComplete | visitReview | visitNotNeeded => rfl

/-- For a complete payload the operation decides every persisted guard as the resolver lists
it; a confirmation of an older visit of the inquiry fails both of its guards. -/
theorem guard_agreement (distinct : (a.visits.map (·.1.id)).Nodup) (actor : User)
    (g : PersistedGuard) :
    (payload.Complete a →
      g.domainResult settings d request inquiry stateVersion payload a =
        some ((AllowedActionContext.ofAggregate d a actor).guardAvailable g.guardId)) ∧
    ((∃ v, a.latestVisit = some v ∧ payload.visit ≠ v.1.id) →
      g = confirmedVisitDate ∨ g = assignedTechnician →
      g.domainResult settings d request inquiry stateVersion payload a = some false) := by
  have computed : g.domainResult settings d request inquiry stateVersion payload a =
      some ((AllowedActionContext.ofAggregate d a actor).guardAvailable g.guardId &&
        g.supplied payload a) :=
    domainResult_eq settings d request inquiry stateVersion distinct actor g
  constructor
  · intro complete
    rw [computed, supplied_of_complete complete, Bool.and_true]
  · rintro ⟨v, latest, other⟩ confirmation
    have stale : g.supplied payload a = false := by
      rcases confirmation with rfl | rfl <;> simp [supplied, latest, other]
    rw [computed, stale, Bool.and_false]

end PersistedGuard

/-! ### A scheduled visit -/

namespace GuardSample

def consultant : User :=
  ⟨2, "SKN-101", .consultant, true, true, false, false, true, false, "SKN-101", "010-0000-0000"⟩

def technician : User :=
  ⟨3, "SKN-201", .technician, true, true, false, false, true, false, "SKN-201", "010-0000-0000"⟩

def directory : Directory where
  user id := [consultant, technician].find? fun user => decide (user.id = id)
  customer _ := none
  subscription _ := none

def inquiry : Inquiry where
  id := 10
  inquiryCode := "INQ-10"
  subscription := 1
  initiatedBy := 1
  assignedUser := some 2
  assignedRole := .consultant
  channel := none
  rawText := "no cold water"
  riskLevel := none
  priority := .normal
  usageGuidanceStatus := none
  evidenceIds := []
  evidenceMode := none
  requiresFallback := false
  status := .visitScheduling
  stateVersion := 7
  cancelledAt := none
  cancellationReason := none
  cancellationDetail := none

def visit : Visit where
  id := 20
  technician := some 3
  status := .scheduling
  requestedAt := 100
  scheduledAt := none
  preferredDate := none
  confirmedDate := some 4
  visitReason := none
  usageGuidanceStatus := none
  handoffPayload := []
  startedAt := none
  completedAt := none
  confirmedCause := none
  actionTaken := none
  stateVersion := 2
  idempotencyKey := "key-2"
  correlationId := "correlation"
  isSynthetic := true
  createdAt := 100

/-- The inquiry with a visit that has its technician and its date. -/
def aggregate : Aggregate :=
  ⟨⟨inquiry, rfl⟩, [], [⟨visit, rfl⟩], [], [], [], [], [], [], [], [], [], [], [], []⟩

def payload : ConsultantPayload where
  reason := ⟨"OTHER", none⟩
  values := ⟨"leak", none, .normal, dictOf [("product_summary", .str "purifier")]⟩
  preferredDateSent := false
  visit := 20

def settings : Settings := ⟨fun _ => "", "", id, id, fun day => day⟩

def request : Request :=
  ⟨consultant, ⟨"key-3", by decide⟩, ⟨"correlation", by decide⟩, 110⟩

end GuardSample

theorem guard_agreement_scheduled :
    PersistedGuard.assignedTechnician.domainResult GuardSample.settings GuardSample.directory
      GuardSample.request 10 7 GuardSample.payload GuardSample.aggregate =
        some ((AllowedActionContext.ofAggregate GuardSample.directory GuardSample.aggregate
          GuardSample.consultant).guardAvailable .assignedTechnicianPresent) ∧
    (AllowedActionContext.ofAggregate GuardSample.directory GuardSample.aggregate
      GuardSample.consultant).guardAvailable .assignedTechnicianPresent = true := by
  have latest : GuardSample.aggregate.latestVisit = some ⟨GuardSample.visit, rfl⟩ :=
    List.argmax_singleton
  refine ⟨(PersistedGuard.guard_agreement GuardSample.settings GuardSample.directory
    GuardSample.request 10 7 (by decide +kernel) GuardSample.consultant .assignedTechnician).1
    ⟨by decide +kernel, ?_⟩, by decide +kernel⟩
  intro v found
  rw [latest] at found
  cases found
  rfl

end WaterCare.Service
