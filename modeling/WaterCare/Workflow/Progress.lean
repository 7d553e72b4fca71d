import WaterCare.Workflow.Shipped
import WaterCare.Machine.Run

/-!
Which snapshots runs of the shipped contract reach, and where they end. The
pairs of state and visit status that occur are kept by every rule; the only
open pair without an accepted event is a reopened inquiry that still carries
its completed visit.
-/

namespace WaterCare.Workflow
open Py Engine Machine

/-! ### Steps of a contract -/

/-- What an accepted event says about its rule. -/
theorem resolve_ok {c : WorkflowContract} {s : Snapshot} {e : EventCode} {p : Plan}
    (h : c.resolve s e = .ok p) :
    p.rule ∈ c.transitions ∧ p.rule.event = e ∧ p.rule.source = s.inquiryState ∧
      p.rule.visit.matchesVisit s.visitStatus = true ∧
      p.visitStatus = p.rule.visit.nextVisitStatus s.visitStatus ∧
      p.version = WorkflowContract.nextVersion s ∧
      c.admits s.inquiryState s.visitStatus = true ∧
      c.admits (some p.rule.target) p.visitStatus = true ∧
      ¬ ∃ t ∈ c.terminalStates, s.inquiryState = some t := by
  unfold WorkflowContract.resolve at h
  by_cases terminal : ∃ t ∈ c.terminalStates, s.inquiryState = some t
  · rw [if_pos terminal] at h
    cases h
  rw [if_neg terminal] at h
  cases admitted : c.admits s.inquiryState s.visitStatus with
  | false => rw [admitted] at h; cases h
  | true =>
      rw [admitted, if_neg (by simp)] at h
      cases found : c.matching s.inquiryState e s.visitStatus with
      | nil => rw [found] at h; cases h
      | cons r rest =>
          cases rest with
          | cons q more => rw [found] at h; cases h
          | nil =>
              have member : r ∈ c.matching s.inquiryState e s.visitStatus := by
                rw [found]
                exact List.mem_singleton_self r
              simp only [WorkflowContract.matching, WorkflowContract.listed, List.mem_filter,
                Bool.and_eq_true, decide_eq_true_eq] at member
              obtain ⟨⟨listed, event, source⟩, covered⟩ := member
              rw [found] at h
              dsimp only at h
              split_ifs at h with target
              cases h
              exact ⟨listed, event, source, covered, rfl, rfl, rfl, target, terminal⟩

/-- An accepted event replaces the snapshot by the plan's. -/
def Step (c : WorkflowContract) (s : Snapshot) (e : EventCode) (t : Snapshot) : Prop :=
  ∃ p, c.resolve s e = .ok p ∧ t = p.snapshot

/-- The same on the engine: the raw snapshot is replaced by the returned fields. -/
def EngineStep (m : StateMachine) (s : WorkflowSnapshot) (code : String)
    (t : WorkflowSnapshot) : Prop :=
  ∃ tr, m.resolve s code = .ok tr ∧ tr.inquiryStateAfter = .ofOption t.inquiryState ∧
    t.stateVersion = some tr.stateVersionAfter ∧ tr.visitStatusAfter = .ofOption t.visitStatus

theorem Value.ofOption_injective {s t : Option String} (h : Value.ofOption s = .ofOption t) :
    s = t := by
  cases s <;> cases t <;> simp_all [Value.ofOption]

section
variable {c : WorkflowContract} (isOpen : c.Open)

/-- An accepted raw event is the code of an event the contract accepts. -/
theorem engineStep_step {s : Snapshot} {raw raw' : WorkflowSnapshot} {code : String}
    (encodes : Encodes s raw) (step : EngineStep (machineOf (c.accepted isOpen)) raw code raw') :
    ∃ e t, e.code = code ∧ Step c s e t ∧ Encodes t raw' := by
  obtain ⟨tr, returned, state, version, visit⟩ := step
  have registered : code ∈ Contract.eventCodes c.toDocuments := by
    by_contra absent
    rw [resolve_eq, if_pos absent] at returned
    cases returned
  rw [eventCodes_code c isOpen] at registered
  obtain ⟨e, _, rfl⟩ := List.mem_map.mp registered
  rw [resolve_refines c isOpen encodes] at returned
  cases planned : c.resolve s e with
  | error reason => rw [planned] at returned; cases returned
  | ok p =>
      rw [planned] at returned
      cases returned
      have state : Value.ofOption (some p.rule.target.code) = .ofOption raw'.inquiryState := state
      refine ⟨e, p.snapshot, rfl, ⟨p, planned, rfl⟩, ?_, version, ?_⟩
      · exact (Value.ofOption_injective state).symm
      · exact (Value.ofOption_injective visit).symm

/-- The raw snapshot of a snapshot whose version is positive. -/
def Snapshot.raw (s : Snapshot) (positive : ∀ i, s.inquiry = some i → 1 ≤ i.2) :
    WorkflowSnapshot where
  inquiryState := s.inquiryState.map InquiryState.code
  stateVersion := s.inquiry.map (·.2)
  visitStatus := s.visitStatus.map VisitStatus.code
  state_text := by
    intro code h
    obtain ⟨t, _, rfl⟩ := Option.map_eq_some_iff.mp h
    exact t.code_text
  version_absent := by
    intro h
    rw [Option.map_eq_none_iff, Snapshot.inquiryState, Option.map_eq_none_iff] at h
    rw [h]
    rfl
  version_present := by
    intro h
    cases hi : s.inquiry with
    | none => simp [Snapshot.inquiryState, hi] at h
    | some i => exact ⟨i.2, rfl, positive i hi⟩
  visit_text := by
    intro code h
    obtain ⟨t, _, rfl⟩ := Option.map_eq_some_iff.mp h
    exact t.code_text

theorem Snapshot.raw_encodes (s : Snapshot) (positive : ∀ i, s.inquiry = some i → 1 ≤ i.2) :
    Encodes s (s.raw positive) := ⟨rfl, rfl, rfl⟩

theorem Step.positive {s t : Snapshot} {e : EventCode} (step : Step c s e t) :
    ∀ i, t.inquiry = some i → 1 ≤ i.2 := by
  obtain ⟨p, planned, rfl⟩ := step
  obtain ⟨_, _, _, _, _, version, _⟩ := resolve_ok planned
  rintro i ⟨⟩
  rw [version, WorkflowContract.nextVersion]
  cases s.inquiry with
  | none => exact Nat.le_refl 1
  | some i => exact Nat.le_add_left 1 i.2

theorem step_engineStep {s t : Snapshot} {raw : WorkflowSnapshot} {e : EventCode}
    (encodes : Encodes s raw) (step : Step c s e t) :
    EngineStep (machineOf (c.accepted isOpen)) raw e.code (t.raw step.positive) := by
  obtain ⟨p, planned, rfl⟩ := step
  refine ⟨p.transition raw e, ?_, rfl, rfl, rfl⟩
  rw [resolve_refines c isOpen encodes, planned]

end

/-! ### The shipped contract -/

/-- The visit statuses that occur with a state. -/
def occurring : Option InquiryState → List (Option VisitStatus)
  | some .visitScheduling => [some .assigning, some .scheduling]
  | some .visitScheduled => [some .confirmed, some .inProgress]
  | some .completionPending | some .reopened | some .resolved => [none, some .completed]
  | some .revisitRequired => [some .followUpRequired]
  | _ => [none]

def Occurs (s : Snapshot) : Prop := s.visitStatus ∈ occurring s.inquiryState

theorem occurring_kept : ∀ r ∈ shipped.transitions, ∀ v ∈ occurring r.source,
    r.visit.matchesVisit v = true → shipped.admits (some r.target) (r.visit.nextVisitStatus v) →
      r.visit.nextVisitStatus v ∈ occurring (some r.target) := by
  decide

theorem occurs_step {s t : Snapshot} {e : EventCode} (occurs : Occurs s)
    (step : Step shipped s e t) : Occurs t := by
  obtain ⟨p, planned, rfl⟩ := step
  obtain ⟨listed, _, source, covered, visit, _, _, target, _⟩ := resolve_ok planned
  rw [visit] at target
  have kept := occurring_kept p.rule listed s.visitStatus (source ▸ occurs) covered target
  rwa [← visit] at kept

/-- An event each open pair accepts, but for a reopened inquiry with a visit. -/
def nextEvent : Option InquiryState → Option VisitStatus → EventCode
  | none, _ => .startInquiry
  | some .draft, _ => .submitSymptom
  | some .questionnaireInProgress, _ => .submitAnswers
  | some .aiGuidance, _ => .requestConsultation
  | some .consultationRequired, _ => .startConsultation
  | some .consultationInProgress, _ => .consultationCompleted
  | some .visitReviewPending, _ => .visitNeeded
  | some .visitScheduling, _ | some .revisitRequired, _ => .updateVisitSchedule
  | some .visitScheduled, some .confirmed => .startVisit
  | some .visitScheduled, _ => .visitCompleted
  | some .completionPending, _ => .finalizeInquiry
  | _, _ => .resumeConsultation

/-- The outcome of an event does not depend on the version. -/
theorem resolve_version (c : WorkflowContract) (s : InquiryState) (n : Nat)
    (visit : Option VisitStatus) (e : EventCode) :
    (∃ p, c.resolve ⟨some (s, n), visit⟩ e = .ok p) ↔
      ∃ p, c.resolve ⟨some (s, 1), visit⟩ e = .ok p := by
  simp only [WorkflowContract.resolve, Snapshot.inquiryState, Option.map_some]
  by_cases terminal : ∃ t ∈ c.terminalStates, some s = some t
  · simp only [if_pos terminal]
  by_cases admitted : c.admits (some s) visit = false
  · simp only [if_neg terminal, if_pos admitted]
  simp only [if_neg terminal, if_neg admitted]
  cases c.matching (some s) e visit with
  | nil => simp
  | cons r rest =>
      cases rest with
      | nil =>
          dsimp only
          split_ifs <;> simp
      | cons q more => simp

def accepts (c : WorkflowContract) (s : Snapshot) (e : EventCode) : Bool :=
  match c.resolve s e with
  | .ok _ => true
  | .error _ => false

theorem accepts_iff {c : WorkflowContract} {s : Snapshot} {e : EventCode} :
    accepts c s e = true ↔ ∃ p, c.resolve s e = .ok p := by
  unfold accepts
  cases c.resolve s e <;> simp

theorem nextEvent_accepted : ∀ s ∈ InquiryState.all, ∀ v ∈ occurring (some s),
    s ∉ shipped.terminalStates → ¬(s = .reopened ∧ v ≠ none) →
      accepts shipped ⟨some (s, 1), v⟩ (nextEvent (some s) v) = true := by
  decide +kernel

theorem reopened_visit_rejected : ∀ e ∈ EventCode.all,
    accepts shipped ⟨some (.reopened, 1), some .completed⟩ e = false := by
  decide +kernel

/-- A snapshot that occurs and is open accepts an event, unless it is a
reopened inquiry with a visit. -/
theorem occurs_accepts_iff {s : Snapshot} (occurs : Occurs s)
    (notTerminal : ∀ t ∈ shipped.terminalStates, s.inquiryState ≠ some t) :
    (∃ e p, shipped.resolve s e = .ok p) ↔
      ¬(s.inquiryState = some .reopened ∧ s.visitStatus ≠ none) := by
  obtain ⟨inquiry, visit⟩ := s
  cases inquiry with
  | none =>
      have start : accepts shipped ⟨none, none⟩ .startInquiry = true := by decide
      obtain rfl : visit = none := by simpa [Occurs, occurring, Snapshot.inquiryState] using occurs
      exact iff_of_true ⟨.startInquiry, accepts_iff.mp start⟩ (by simp [Snapshot.inquiryState])
  | some i =>
      obtain ⟨state, n⟩ := i
      constructor
      · rintro ⟨e, accepted⟩ ⟨reopened, carries⟩
        obtain rfl : state = .reopened := Option.some.inj reopened
        obtain rfl : visit = some .completed := by
          rcases List.mem_cons.mp occurs with h | h
          · exact absurd h carries
          · exact List.mem_singleton.mp h
        have rejected := reopened_visit_rejected e e.mem_all
        rw [accepts_iff.mpr ((resolve_version shipped .reopened n _ e).mp accepted)] at rejected
        cases rejected
      · intro other
        have accepted := nextEvent_accepted state state.mem_all visit occurs
          (fun h => notTerminal state h rfl)
          (fun h => other ⟨congrArg some h.1, h.2⟩)
        refine ⟨nextEvent (some state) visit, ?_⟩
        exact (resolve_version shipped state n visit _).mpr (accepts_iff.mp accepted)

/-! ### Runs of the engine -/

/-- No inquiry, no version and no visit. -/
def emptySnapshot : WorkflowSnapshot := Snapshot.raw ⟨none, none⟩ (by simp)

def Terminal (m : StateMachine) (s : WorkflowSnapshot) : Bool :=
  m.terminalStates.any fun a => a.eq (.ofOption s.inquiryState)

/-- `resolve` returns a transition for some event code. -/
def Accepts (m : StateMachine) (s : WorkflowSnapshot) : Prop :=
  ∃ code t, m.resolve s code = .ok t

def shippedMachine : StateMachine := machineOf (shipped.accepted shipped_open)

theorem shippedMachine_init : StateMachine.init shipped.toDocuments = .ok shippedMachine :=
  init_eq (shipped.accepted shipped_open)

theorem accepts_encodes {s : Snapshot} {raw : WorkflowSnapshot} (encodes : Encodes s raw) :
    Accepts shippedMachine raw ↔ ∃ e p, shipped.resolve s e = .ok p := by
  constructor
  · rintro ⟨code, tr, returned⟩
    by_cases registered : code ∈ Contract.eventCodes shipped.toDocuments
    · rw [eventCodes_code shipped shipped_open] at registered
      obtain ⟨e, _, rfl⟩ := List.mem_map.mp registered
      have refined := resolve_refines shipped shipped_open encodes e
      cases planned : shipped.resolve s e with
      | error reason => rw [planned] at refined; cases refined.symm.trans returned
      | ok p => exact ⟨e, p, planned⟩
    · rw [shippedMachine, resolve_eq, if_pos registered] at returned
      cases returned
  · rintro ⟨e, p, planned⟩
    refine ⟨e.code, p.transition raw e, ?_⟩
    rw [shippedMachine, resolve_refines shipped shipped_open encodes, planned]

theorem terminal_encodes {s : Snapshot} {raw : WorkflowSnapshot} (encodes : Encodes s raw)
    (notTerminal : Terminal shippedMachine raw = false) :
    ∀ t ∈ shipped.terminalStates, s.inquiryState ≠ some t := by
  have terminal := terminal_eq (shipped.accepted shipped_open) raw.inquiryState
  rw [encodes.state] at terminal
  intro t listed state
  have found := (terminal_code shipped shipped_open s.inquiryState).mpr ⟨t, listed, state⟩
  rw [decide_eq_true found, ← encodes.state] at terminal
  rw [Terminal, shippedMachine, terminal] at notTerminal
  cases notTerminal

/-- Every snapshot of a run stands for one whose state and visit occur. -/
theorem run_occurs {codes : List String} {raw : WorkflowSnapshot}
    (run : Run (EngineStep shippedMachine) emptySnapshot codes raw) :
    ∃ s, Encodes s raw ∧ Occurs s := by
  refine run.invariant (P := fun raw => ∃ s, Encodes s raw ∧ Occurs s) ?_ ?_
  · rintro raw code raw' ⟨s, encodes, occurs⟩ step
    obtain ⟨e, t, _, next, encodes'⟩ := engineStep_step shipped_open encodes step
    exact ⟨t, encodes', occurs_step occurs next⟩
  · exact ⟨⟨none, none⟩, Snapshot.raw_encodes _ _, List.mem_singleton_self _⟩

/-- The dead ends of all runs: the reopened inquiries that carry a visit. -/
theorem run_accepts_iff {codes : List String} {raw : WorkflowSnapshot}
    (run : Run (EngineStep shippedMachine) emptySnapshot codes raw)
    (notTerminal : Terminal shippedMachine raw = false) :
    Accepts shippedMachine raw ↔
      ¬(raw.inquiryState = some InquiryState.reopened.code ∧ raw.visitStatus ≠ none) := by
  obtain ⟨s, encodes, occurs⟩ := run_occurs run
  rw [accepts_encodes encodes, occurs_accepts_iff occurs (terminal_encodes encodes notTerminal),
    encodes.state, encodes.visit]
  have state : s.inquiryState.map InquiryState.code = some InquiryState.reopened.code ↔
      s.inquiryState = some .reopened :=
    (Option.map_injective InquiryState.code_injective).eq_iff (b := some InquiryState.reopened)
  simp only [state, ne_eq, Option.map_eq_none_iff]

/-- The snapshot after a list of events, if the contract accepts each of them and each is
allowed. -/
def replay (c : WorkflowContract) (allowed : Snapshot → EventCode → Bool) (s : Snapshot) :
    List EventCode → Option Snapshot
  | [] => some s
  | e :: events =>
      if allowed s e then
        match c.resolve s e with
        | .ok p => replay c allowed p.snapshot events
        | .error _ => none
      else none

theorem run_replay {allowed : Snapshot → EventCode → Bool} {P : WorkflowSnapshot → String → Prop}
    (sound : ∀ s raw e, Encodes s raw → allowed s e = true → P raw e.code) {s t : Snapshot}
    {events : List EventCode} {raw : WorkflowSnapshot} (encodes : Encodes s raw)
    (replayed : replay shipped allowed s events = some t) :
    ∃ raw', Run (Restrict P (EngineStep shippedMachine)) raw (events.map EventCode.code) raw' ∧
      Encodes t raw' := by
  induction events generalizing s raw with
  | nil =>
      obtain rfl : s = t := Option.some.inj replayed
      exact ⟨raw, .refl, encodes⟩
  | cons e events ih =>
      unfold replay at replayed
      split at replayed
      · next passes =>
          cases planned : shipped.resolve s e with
          | error reason => rw [planned] at replayed; cases replayed
          | ok p =>
              rw [planned] at replayed
              have step : Step shipped s e p.snapshot := ⟨p, planned, rfl⟩
              obtain ⟨raw', run, encodes'⟩ := ih (p.snapshot.raw_encodes step.positive) replayed
              have first : Restrict P (EngineStep shippedMachine) raw e.code _ :=
                ⟨sound s raw e encodes passes, step_engineStep shipped_open encodes step⟩
              exact ⟨raw', (Run.snoc .refl first).trans run, encodes'⟩
      · cases replayed

/-- A visited inquiry that its customer reports as unresolved. -/
def reopenedVisit : List EventCode :=
  [.startInquiry, .submitSymptom, .dangerDetected, .startConsultation, .visitReviewRequired,
    .visitNeeded, .updateVisitSchedule, .confirmVisit, .startVisit, .visitCompleted,
    .customerReportedUnresolved]

theorem reopenedVisit_dead : ¬ ∀ (m : StateMachine),
    StateMachine.init shipped.toDocuments = .ok m → ∀ (codes : List String) (s : WorkflowSnapshot),
      Run (EngineStep m) emptySnapshot codes s → Terminal m s = false → Accepts m s := by
  intro progress
  have replayed : replay shipped (fun _ _ => true) ⟨none, none⟩ reopenedVisit =
      some ⟨some (.reopened, 11), some .completed⟩ := by
    decide +kernel
  obtain ⟨raw, run, encodes⟩ := run_replay (P := fun _ _ => True) (fun _ _ _ _ _ => trivial)
    (Snapshot.raw_encodes _ (by simp)) replayed
  have run := run.of_restrict
  have notTerminal : Terminal shippedMachine raw = false := by
    have state : raw.inquiryState = some "REOPENED" := encodes.state
    rw [Terminal, shippedMachine, terminal_eq, state]
    rfl
  have accepts := progress shippedMachine shippedMachine_init _ raw run notTerminal
  refine (run_accepts_iff run notTerminal).mp accepts ⟨encodes.state, ?_⟩
  rw [encodes.visit]
  exact Option.some_ne_none _

/-- The customer reports an unresolved inquiry that has a visit. -/
def ReportsVisit (s : WorkflowSnapshot) (code : String) : Prop :=
  code = EventCode.customerReportedUnresolved.code ∧ s.visitStatus ≠ none

theorem reopened_rule : ∀ r ∈ shipped.transitions, r.target = .reopened →
    r.event = .customerReportedUnresolved ∧ r.visit = .preserve := by
  decide

/-- A reopened inquiry carries a visit only after such a report. -/
theorem run_reopened {codes : List String} {raw : WorkflowSnapshot}
    (run : Run (Restrict (fun s code => ¬ReportsVisit s code) (EngineStep shippedMachine))
      emptySnapshot codes raw) :
    ∃ s, Encodes s raw ∧ (s.inquiryState = some .reopened → s.visitStatus = none) := by
  refine run.invariant
    (P := fun raw => ∃ s, Encodes s raw ∧ (s.inquiryState = some .reopened → s.visitStatus = none))
    ?_ ?_
  · rintro raw code raw' ⟨s, encodes, _⟩ ⟨unreported, step⟩
    obtain ⟨e, t, rfl, ⟨p, planned, rfl⟩, encodes'⟩ := engineStep_step shipped_open encodes step
    refine ⟨p.snapshot, encodes', fun reopened => ?_⟩
    obtain ⟨listed, event, _, _, visit, _⟩ := resolve_ok planned
    obtain ⟨report, preserve⟩ := reopened_rule p.rule listed (Option.some.inj reopened)
    rw [preserve] at visit
    have absent : raw.visitStatus = none := by
      by_contra carries
      exact unreported ⟨by rw [← event, report], carries⟩
    rw [encodes.visit, Option.map_eq_none_iff] at absent
    exact visit.trans absent
  · exact ⟨⟨none, none⟩, Snapshot.raw_encodes _ _, fun _ => rfl⟩

/-- Runs in which no unresolved report meets a visit have no dead end. -/
theorem run_progress (m : StateMachine) (built : StateMachine.init shipped.toDocuments = .ok m)
    (codes : List String) (s : WorkflowSnapshot)
    (run : Run (Restrict (fun s code => ¬ReportsVisit s code) (EngineStep m)) emptySnapshot codes s)
    (notTerminal : Terminal m s = false) : Accepts m s := by
  obtain rfl : shippedMachine = m := Except.ok.inj (shippedMachine_init.symm.trans built)
  refine (run_accepts_iff run.of_restrict notTerminal).mpr ?_
  rintro ⟨reopened, carries⟩
  obtain ⟨t, encodes, absent⟩ := run_reopened run
  rw [encodes.state] at reopened
  have state : t.inquiryState = some .reopened := by
    have mapped : t.inquiryState.map InquiryState.code =
        (some InquiryState.reopened).map InquiryState.code := reopened
    exact Option.map_injective InquiryState.code_injective mapped
  rw [encodes.visit, absent state] at carries
  exact carries rfl

/-- An inquiry that is reported as unresolved before it has a visit, and then visited. -/
def visitedAfterReport : List EventCode :=
  [.startInquiry, .submitSymptom, .dangerDetected, .startConsultation, .consultationCompleted,
    .customerReportedUnresolved, .resumeConsultation, .startConsultation, .visitReviewRequired,
    .visitNeeded, .updateVisitSchedule, .confirmVisit, .startVisit]

def reportsVisit (s : Snapshot) (e : EventCode) : Bool :=
  decide (e = .customerReportedUnresolved) && s.visitStatus.isSome

theorem not_reportsVisit {s : Snapshot} {raw : WorkflowSnapshot} {e : EventCode}
    (encodes : Encodes s raw) (allowed : (!reportsVisit s e) = true) :
    ¬ReportsVisit raw e.code := by
  rintro ⟨report, carries⟩
  obtain rfl := EventCode.code_injective report
  rw [encodes.visit, ne_eq, Option.map_eq_none_iff] at carries
  cases visit : s.visitStatus with
  | none => exact carries visit
  | some status =>
      rw [reportsVisit, visit] at allowed
      cases allowed

/-- With its visit under way, the inquiry goes on. -/
theorem run_progress_started : ∃ s,
    Run (Restrict (fun s code => ¬ReportsVisit s code) (EngineStep shippedMachine)) emptySnapshot
        (visitedAfterReport.map EventCode.code) s ∧
      s.visitStatus = some "IN_PROGRESS" ∧ Accepts shippedMachine s := by
  have replayed : replay shipped (fun s e => !reportsVisit s e) ⟨none, none⟩ visitedAfterReport =
      some ⟨some (.visitScheduled, 13), some .inProgress⟩ := by
    decide +kernel
  obtain ⟨raw, run, encodes⟩ := run_replay
    (P := fun s code => ¬ReportsVisit s code) (fun _ _ _ => not_reportsVisit) (Snapshot.raw_encodes _ (by simp)) replayed
  have notTerminal : Terminal shippedMachine raw = false := by
    have state : raw.inquiryState = some "VISIT_SCHEDULED" := encodes.state
    rw [Terminal, shippedMachine, terminal_eq, state]
    rfl
  exact ⟨raw, run, encodes.visit,
    run_progress shippedMachine shippedMachine_init _ raw run notTerminal⟩

end WaterCare.Workflow
