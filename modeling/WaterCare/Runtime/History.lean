import WaterCare.Machine.Journal
import WaterCare.Runtime.Coupling
import WaterCare.Runtime.Trace

/-!
The transition history of an inquiry against its versions. The feedback of a customer
and the report of an action result raise the version without a row; every other version
has one, and the rows lead from state to state.
-/

namespace WaterCare.Runtime
open Machine Workflow Store Service Py Analysis

/-- The requests that make a version of an inquiry without a row, with the version they
name. -/
inductive Quiet (inquiry version : Nat) : Action → Prop
  | actionResult (request : Request) (values : ActionResultValues) :
      Quiet inquiry version (.request request (.createActionResult inquiry version values))
  | feedback (request : Request) (comment : Option String) :
      Quiet inquiry version (.request request (.act (.submitFeedback inquiry version comment)))

def entryOf (row : Stored InquiryHistory) : Entry InquiryState :=
  ⟨row.1.stateVersion, row.1.fromState, row.1.toState⟩

/-- The history of an inquiry as a journal of its status. -/
def Journaled (a : Aggregate) (quiet : List Nat) : Prop :=
  Journal (a.history.map entryOf) quiet a.q.stateVersion a.q.status

/-! ### One write -/

theorem feedback_guard : ∀ rule ∈ shipped.transitions, rule.event = .submitResolutionFeedback →
    GuardId.stateVersion ∈ rule.guardRefs ∧ rule.source = some rule.target := by
  decide

section
variable {settings : Settings} {w : World} {a b : Aggregate} {limit used inquiry : Nat}
  {now : Instant} {event : EventCode} {plan : Plan} {quiet : List Nat} {act : Action}

theorem Journaled.unmoved (journaled : Journaled a quiet) (history : b.history = a.history)
    (version : b.q.stateVersion = a.q.stateVersion) (status : b.q.status = a.q.status) :
    Journaled b quiet := by
  unfold Journaled
  rw [history, version, status]
  exact journaled

theorem Journaled.still (journaled : Journaled a quiet) (history : b.history = a.history)
    (version : b.q.stateVersion = a.q.stateVersion + 1) (status : b.q.status = a.q.status) :
    Journaled b (quiet ++ [a.q.stateVersion + 1]) := by
  unfold Journaled
  rw [history, version, status]
  exact .quiet journaled

/-- A transition that is not a feedback adds the row of its version. -/
theorem Transition.journaled (move : Transition limit now event plan a b)
    (recorded : event ≠ .submitResolutionFeedback) (journaled : Journaled a quiet) :
    Journaled b quiet := by
  obtain ⟨row, grown, _, source, target, version⟩ :=
    (move.history.resolve_left fun feedback => recorded feedback.1).2
  have next : plan.version = a.q.stateVersion + 1 := move.version.symm.trans move.version_succ
  have entry : entryOf row = ⟨a.q.stateVersion + 1, some a.q.status, plan.rule.target⟩ := by
    unfold entryOf
    rw [source, target, version, next]
  unfold Journaled
  rw [grown, List.map_append, List.map_singleton, entry, move.version_succ, move.status]
  exact .next plan.rule.target journaled

/-- Only the feedback of a customer is served under its event. -/
theorem Serves.feedback {request : Request} {service : InquiryAction}
    (serves : Serves settings w act request service)
    (event : service.event = .submitResolutionFeedback) :
    ∃ inquiry version comment,
      act = .request request (.act (.submitFeedback inquiry version comment)) ∧
      service = ResolutionService.submitFeedback settings w.directory request inquiry version
        comment := by
  cases serves with
  | @act _ operation service h =>
      cases operation with
      | submitFeedback inquiry version comment =>
          cases h
          exact ⟨inquiry, version, comment, rfl, rfl⟩
      | updateVisitSchedule visit _ _ | confirmVisit visit _ =>
          obtain ⟨_, _, rfl⟩ := Option.map_eq_some_iff.1 h
          cases event
      | _ =>
          cases h
          cases event
  | claim inquiry version => cases event
  | @supervisor _ operation _ _ _ _ _ _ _ _ _ h =>
      cases operation with
      | start | updateDetails | confirm | complete =>
          cases h
          cases event
      | reassign | cancelInquiry | cancelConsultation => cases h
  | supervisorCancel _ => cases event

theorem service_journaled {request : Request} {service : InquiryAction}
    {context : ActionContext} {resource : Resource} (desk : Desk w.nextId a.consultations)
    (serves : Serves settings w act request service)
    (commits : Commits service request w a context plan b resource)
    (journaled : Journaled a quiet) :
    Journaled b quiet ∨ Quiet service.inquiry a.q.stateVersion act ∧
      Journaled b (quiet ++ [a.q.stateVersion + 1]) := by
  have move := serves.isService.transition commits desk
  by_cases feedback : service.event = .submitResolutionFeedback
  · obtain ⟨listed, fires, source⟩ := move.rule_mem
    obtain ⟨guarded, stays⟩ := feedback_guard plan.rule listed (fires.trans feedback)
    have current := commits.current guarded
    have kept : b.history = a.history := by
      rcases move.history with ⟨_, kept⟩ | ⟨other, _⟩
      · exact kept
      · exact absurd feedback other
    have status : b.q.status = a.q.status := by
      rw [move.status]
      exact (Option.some.inj (source.symm.trans stays)).symm
    obtain ⟨inquiry, version, comment, rfl, rfl⟩ := serves.feedback feedback
    have named : version = a.q.stateVersion := current
    subst named
    exact .inr ⟨.feedback request comment, journaled.still kept move.version_succ status⟩
  · exact .inl (move.journaled feedback journaled)

/-- Every write keeps the journal, and adds a version without a row only for a request
that is quiet about it. -/
theorem Writes.journaled (desk : Desk w.nextId a.consultations)
    (writes : Writes settings w act inquiry a b used) (journaled : Journaled a quiet) :
    Journaled b quiet ∨ Quiet inquiry a.q.stateVersion act ∧
      Journaled b (quiet ++ [a.q.stateVersion + 1]) := by
  have unmoved (same : SameCase a b) : Journaled b quiet :=
    journaled.unmoved same.history same.version same.status
  cases writes with
  | service serves commits => exact service_journaled desk serves commits journaled
  | @actionResult request _ version values _ _ item result reports =>
      have written := reports.written
      unfold ActionResultService.write at written
      obtain ⟨row, _, written⟩ := bind_eq_ok.1 written
      obtain ⟨saved, advanced, written⟩ := bind_eq_ok.1 written
      cases written
      have q := save_ok.1 advanced
      have named := reports.version
      subst named
      exact .inr ⟨.actionResult request values, journaled.still rfl (congrArg (·.stateVersion) q)
        (congrArg (·.status) q)⟩
  | decision decides =>
      refine .inl ((decision_transition decides desk).journaled ?_ journaled)
      rcases eventCode_cases _ _ with approved | ⟨_, plain, _⟩
      · rw [approved]
        exact nofun
      · exact plain.2.1
  | reassignment reassigns =>
      have written := reassigns.written
      unfold SupervisorConsultationService.writeReassignment at written
      obtain ⟨row, _, written⟩ := bind_eq_ok.1 written
      obtain ⟨saved, assigned, written⟩ := bind_eq_ok.1 written
      cases written
      have q := save_ok.1 assigned
      exact .inl (journaled.unmoved rfl (congrArg (·.stateVersion) q) (congrArg (·.status) q))
  | createRun _ created =>
      obtain ⟨run, rfl, _⟩ := createRun_ok created
      exact .inl (unmoved (.of_tables rfl rfl rfl rfl rfl))
  | runStep _ _ performed =>
      rcases RunStep.moved desk performed with same | ⟨event, plan, analysis, move, _⟩
      · exact .inl (unmoved same)
      · refine .inl (move.journaled ?_ journaled)
        intro feedback
        rw [feedback] at analysis
        cases analysis
  | handoff _ row attached =>
      have kept : b.inquiry = a.inquiry ∧ b.history = a.history := by
        rcases row with ⟨rfl, _⟩ | ⟨run, rfl, _⟩
        · rcases attachHandoff_ok attached with ⟨handoffs, rfl⟩ | ⟨c, row, draft, handoffs, _, _, _, rfl⟩
          · exact ⟨rfl, rfl⟩
          · exact ⟨rfl, rfl⟩
        · rcases attachHandoff_ok attached with ⟨handoffs, rfl⟩ | ⟨c, row, draft, handoffs, _, _, _, rfl⟩
          · exact ⟨rfl, rfl⟩
          · exact ⟨rfl, rfl⟩
      have q : b.q = a.q := congrArg Subtype.val kept.1
      exact .inl (journaled.unmoved kept.2 (by rw [q]) (by rw [q]))
  | resumeFailed _ _ failed =>
      obtain ⟨_, row, _, rfl⟩ := markResumeFailed_ok failed
      exact .inl (unmoved (.of_tables rfl rfl rfl rfl rfl))

/-- A new inquiry has the row of its first version. -/
theorem Opens.journaled (opens : Opens w act b) : Journaled b [] := by
  have opened {request : Request} {q : Inquiry} {event : EventCode}
      (h : Opened request q event b) (first : q.stateVersion = 1) : Journaled b [] := by
    obtain ⟨stored, row, same, recorded, rfl⟩ := h
    subst same
    unfold Journaled
    have entry : entryOf row = ⟨1, none, stored.1.status⟩ := by
      unfold entryOf
      rw [recorded, ← first]
    change Journal [entryOf row] [] stored.1.stateVersion stored.1.status
    rw [entry, first]
    exact .first _
  cases opens with
  | start _ h => exact opened h rfl
  | register _ resolved _ h =>
      obtain ⟨_, _, _, _, _, version, _⟩ := resolve_ok resolved
      exact opened h version

end

/-! ### Every run -/

/-- The history of an inquiry after some events: it starts with the row of the first
version, every row leads on from the one before it, the last one to the status of the
inquiry, and a version has one row unless an accepted request was quiet about it. -/
structure HistoryComplete (labels : List Event) (inquiry : Nat) (a : Aggregate) : Prop where
  first : ∃ row rest, a.history = row :: rest ∧ row.1.stateVersion = 1 ∧ row.1.fromState = none
  chained : a.history.IsChain fun h k =>
    h.1.stateVersion < k.1.stateVersion ∧ k.1.fromState = some h.1.toState
  last : ∃ older row, a.history = older ++ [row] ∧ row.1.toState = a.q.status
  bounded : ∀ h ∈ a.history, 1 ≤ h.1.stateVersion ∧ h.1.stateVersion ≤ a.q.stateVersion
  one_row : ∀ v, v + 1 ≤ a.q.stateVersion →
    (a.history.filter fun h => decide (h.1.stateVersion = v + 1)).length = 1 ∨
      ∃ e ∈ labels, (∃ answer, e.outcome = .ok answer) ∧ Quiet inquiry v e.action

theorem Journaled.complete {labels : List Event} {inquiry : Nat} {a : Aggregate} {quiet : List Nat}
    (journaled : Journaled a quiet)
    (asked : ∀ v, v + 1 ∈ quiet → ∃ e ∈ labels, (∃ answer, e.outcome = .ok answer) ∧
      Quiet inquiry v e.action) : HistoryComplete labels inquiry a := by
  refine ⟨?_, ?_, ?_, ?_, ?_⟩
  · obtain ⟨t, rest, split⟩ := journaled.starts
    obtain ⟨row, rest', same, entry, _⟩ := List.map_eq_cons_iff.1 split
    exact ⟨row, rest', same, congrArg (·.version) entry, congrArg (·.source) entry⟩
  · exact (List.isChain_map entryOf).1 journaled.chained
  · obtain ⟨older, e, split, target⟩ := journaled.ends
    obtain ⟨older', last, same, _, entry⟩ := List.map_eq_append_iff.1 split
    obtain ⟨row, rest, single, rfl, empty⟩ := List.map_eq_cons_iff.1 entry
    rw [List.map_eq_nil_iff.1 empty] at single
    exact ⟨older', row, by rw [same, single], target⟩
  · intro h mem
    exact journaled.bounds (List.mem_map_of_mem mem)
  · intro v high
    by_cases silent : v + 1 ∈ quiet
    · exact .inr (asked v silent)
    · have one := journaled.one_entry (Nat.succ_le_succ (Nat.zero_le v)) high silent
      rw [List.filter_map, List.length_map] at one
      exact .inl one

section
variable {settings : Settings} {start w : World} {labels : List Event}

/-- Every history of a run has a journal whose quiet versions accepted requests of the
run have made. -/
theorem run_journaled (initial : Initial start) (run : Run (Step settings) start labels w) :
    ∀ i a, w.aggregate i = some a → ∃ quiet, Journaled a quiet ∧ ∀ v, v + 1 ∈ quiet →
      ∃ e ∈ labels, (∃ answer, e.outcome = .ok answer) ∧ Quiet i v e.action := by
  induction run with
  | refl =>
      intro i a found
      rw [World.aggregate, initial.1] at found
      cases found
  | @snoc before s t e earlier last ih =>
      intro i b found
      have later {x : Aggregate} {quiet : List Nat} (journaled : Journaled x quiet)
          (asked : ∀ v, v + 1 ∈ quiet → ∃ e ∈ before, (∃ answer, e.outcome = .ok answer) ∧
            Quiet i v e.action) :
          ∃ quiet, Journaled x quiet ∧ ∀ v, v + 1 ∈ quiet →
            ∃ e' ∈ before ++ [e], (∃ answer, e'.outcome = .ok answer) ∧ Quiet i v e'.action := by
        refine ⟨quiet, journaled, ?_⟩
        intro v mem
        obtain ⟨e', old, accepted⟩ := asked v mem
        exact ⟨e', List.mem_append_left _ old, accepted⟩
      rcases step_cases last with ⟨answer, performed, outcome⟩ | ⟨rfl, _⟩
      · rcases (action_effect performed).aggregate found with same | ⟨_, opens⟩ | ⟨a, used, writes⟩
        · obtain ⟨quiet, journaled, asked⟩ := ih i b same
          exact later journaled asked
        · exact later opens.journaled fun v mem => absurd mem List.not_mem_nil
        · obtain ⟨quiet, journaled, asked⟩ := ih i a writes.found
          have desk := (reachable_coupled initial (Run.allowed earlier) writes.found).desk
          rcases writes.journaled desk journaled with kept | ⟨silent, grown⟩
          · exact later kept asked
          · refine ⟨_, grown, ?_⟩
            intro v mem
            rcases List.mem_append.1 mem with old | new
            · obtain ⟨e', mem', accepted⟩ := asked v old
              exact ⟨e', List.mem_append_left _ mem', accepted⟩
            · obtain rfl : v = a.q.stateVersion := Nat.succ.inj (List.mem_singleton.1 new)
              exact ⟨e, by simp, ⟨answer, outcome⟩, silent⟩
      · obtain ⟨quiet, journaled, asked⟩ := ih i b found
        exact later journaled asked

/-- In every run the history of every inquiry is complete, but for the versions that
the feedback of its customer and reported action results have made. -/
theorem run_history (initial : Initial start) (run : Run (Step settings) start labels w) :
    ∀ i a, w.aggregate i = some a → HistoryComplete labels i a := by
  intro i a found
  obtain ⟨quiet, journaled, asked⟩ := run_journaled initial run i a found
  exact journaled.complete asked

end

/-- The customer confirms the result after the completion. -/
def confirmedByCustomer : List Action :=
  Sample.completing ++ [Sample.send Sample.customer 112 (.act (.submitFeedback 10 9 none))]

/-- And the handler of the completion finalizes the inquiry. -/
def finalizedInquiry : List Action :=
  confirmedByCustomer ++
    [Sample.send Sample.consultant 113 (.act (.finalizeInquiry 10 10 none))]

/-- The version that the feedback made has no row, and the history goes on after it. -/
theorem run_history_completing :
    ∃ labels w a, Run (Step Sample.settings) Sample.world labels w ∧ w.aggregate 10 = some a ∧
      a.q.stateVersion = 11 ∧ HistoryComplete labels 10 a ∧
      ∃ e ∈ labels, (∃ answer, e.outcome = .ok answer) ∧ Quiet 10 9 e.action := by
  have run : Run (Step Sample.settings) Sample.world
      (trace Sample.settings Sample.world finalizedInquiry).1
      (trace Sample.settings Sample.world finalizedInquiry).2 := trace_run (by decide +kernel)
  have versions : ((trace Sample.settings Sample.world finalizedInquiry).2.aggregate 10).map
      (fun a => (a.q.stateVersion, (a.history.filter fun h => decide (h.1.stateVersion = 10)).length)) =
      some (11, 0) := by decide +kernel
  obtain ⟨a, found, same⟩ := Option.map_eq_some_iff.1 versions
  obtain ⟨version, none_recorded⟩ := Prod.mk.inj same
  have complete := run_history Sample.world_initial run 10 a found
  refine ⟨_, _, a, run, found, version, complete, (complete.one_row 9 ?_).resolve_left ?_⟩
  · rw [version]
    decide
  · rw [none_recorded]
    decide

/-- Exactly one row for every version up to the current one, each leading on from the
row of the version before it, the last one to the status of the inquiry. -/
structure GapFree (a : Aggregate) : Prop where
  one_row : ∀ v, 1 ≤ v → v ≤ a.q.stateVersion →
    (a.history.filter fun h => decide (h.1.stateVersion = v)).length = 1
  first : ∀ h ∈ a.history, h.1.stateVersion = 1 → h.1.fromState = none
  chained : ∀ h ∈ a.history, ∀ k ∈ a.history, k.1.stateVersion = h.1.stateVersion + 1 →
    k.1.fromState = some h.1.toState
  last : ∀ h ∈ a.history, h.1.stateVersion = a.q.stateVersion → h.1.toState = a.q.status

theorem feedback_leaves_gap :
    ∃ labels w a, Run (Step Sample.settings) Sample.world labels w ∧ w.aggregate 10 = some a ∧
      ¬ GapFree a := by
  have run : Run (Step Sample.settings) Sample.world
      (trace Sample.settings Sample.world confirmedByCustomer).1
      (trace Sample.settings Sample.world confirmedByCustomer).2 := trace_run (by decide +kernel)
  have versions : ((trace Sample.settings Sample.world confirmedByCustomer).2.aggregate 10).map
      (fun a => (a.q.stateVersion, (a.history.filter fun h => decide (h.1.stateVersion = 10)).length)) =
      some (10, 0) := by decide +kernel
  obtain ⟨a, found, same⟩ := Option.map_eq_some_iff.1 versions
  refine ⟨_, _, a, run, found, ?_⟩
  intro gapFree
  obtain ⟨version, none_recorded⟩ := Prod.mk.inj same
  have one := gapFree.one_row 10 (by decide) (Nat.le_of_eq version.symm)
  rw [none_recorded] at one
  cases one

end WaterCare.Runtime
