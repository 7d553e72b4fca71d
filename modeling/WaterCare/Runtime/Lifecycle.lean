import WaterCare.Runtime.Coupling
import WaterCare.Runtime.Trace

/-!
The services against the contract they are built on. Seen from one inquiry, a run of the database
is a run of the shipped transition rules, over the status of the inquiry and that of its visit; and
of an inquiry nothing that was recorded is ever taken back.
-/

namespace WaterCare.Runtime
open Machine Workflow Store Service Py Analysis

/-! ### The lifecycle -/

/-- What the contract speaks of: the status of an inquiry and that of its visit. -/
abbrev Position := Option InquiryState × Option VisitStatus

/-- A rule leads from one position to another. -/
def Lifecycle (p : Position) (rule : TransitionRule) (p' : Position) : Prop :=
  rule ∈ shipped.transitions ∧ rule.source = p.1 ∧ rule.visit.matchesVisit p.2 = true ∧
    p' = (some rule.target, rule.visit.nextVisitStatus p.2) ∧
      shipped.admits p'.1 p'.2 = true ∧ ∀ s ∈ shipped.terminalStates, p.1 ≠ some s

def position (a : Aggregate) : Position := (some a.q.status, a.latestVisitStatus)

/-- The rules whose event a history row records. -/
def recorded (rules : List TransitionRule) : List TransitionRule :=
  rules.filter (·.event ≠ .submitResolutionFeedback)

/-- An inquiry has come along some rules, and its history says which. -/
structure Tracks (a : Aggregate) (rules : List TransitionRule) : Prop where
  run : Run Lifecycle (none, none) rules (position a)
  history : a.history.map (·.1.event) = (recorded rules).map (·.event)
  version : rules.length ≤ a.q.stateVersion

/-- The events of a technician, which no service sends. -/
def isTechnician : EventCode → Bool
  | .startVisit | .visitCompleted | .revisitNeeded => true
  | _ => false

theorem start_rule : ∃ rule ∈ shipped.transitions, rule.event = .startInquiry ∧
    rule.source = none ∧ rule.target = .draft ∧ rule.visit.matchesVisit none = true ∧
      rule.visit.nextVisitStatus none = none ∧ shipped.admits (some .draft) none = true := by
  decide

theorem phone_unvisited : ∀ rule ∈ shipped.transitions, rule.event = .registerPhoneInquiry →
    rule.visit.nextVisitStatus none = none := by
  decide

/-- The rules of the other events leave the visit as it is. -/
theorem visit_kept : ∀ rule ∈ shipped.transitions, writesVisit rule.event = false →
    isTechnician rule.event = false → ∀ v ∈ none :: VisitStatus.all.map some,
      rule.visit.matchesVisit v = true → rule.visit.nextVisitStatus v = v := by
  decide

theorem visit_written : ∀ rule ∈ shipped.transitions,
    (rule.event = .visitNeeded → rule.visit = .create .assigning) ∧
    (rule.event = .updateVisitSchedule → ∀ v ∈ none :: VisitStatus.all.map some,
      rule.visit.matchesVisit v = true → rule.visit.nextVisitStatus v = some .scheduling) ∧
    (rule.event = .confirmVisit → ∀ v ∈ none :: VisitStatus.all.map some,
      rule.visit.matchesVisit v = true → rule.visit.nextVisitStatus v = some .confirmed) := by
  decide

theorem mem_visits (v : Option VisitStatus) : v ∈ none :: VisitStatus.all.map some := by
  cases v with
  | none => exact List.mem_cons_self
  | some v => cases v <;> decide

/-! ### One write -/

section
variable {settings : Settings} {d : Directory} {w : World} {a b : Aggregate}
  {limit used inquiry : Nat} {now : Instant} {event : EventCode} {plan : Plan} {act : Action}
  {request : Request} {rules : List TransitionRule}

theorem latestVisitStatus_singleton {v : Stored Visit} (one : a.visits = [v]) :
    a.latestVisitStatus = some v.1.status := by
  unfold Aggregate.latestVisitStatus Aggregate.latestVisit
  rw [one]
  rfl

theorem IsAssigned.office {consultant : User} {operation : AssignedAction}
    (is : IsAssigned settings d request consultant inquiry operation) :
    isTechnician operation.event = false := by
  cases is with
  | start | saveSummary | confirmSummary | complete | requestReview | createRequest
  | markNotNeeded | updateSchedule | confirm => rfl

theorem IsService.office {service : InquiryAction} (is : IsService settings d request service) :
    isTechnician service.event = false := by
  cases is with
  | assigned consultant inquiry is => exact is.office
  | submitSymptom | submitAnswers | requestConsultation | cancel | submitFeedback
  | reportUnresolved | resumeConsultation | finalize | claim => rfl

/-- No service, review or analysis sends the event of a technician. -/
theorem Cause.office (cause : Cause settings w act inquiry a b event plan) :
    isTechnician event = false := by
  cases cause with
  | service serves commits fires on =>
      rw [← fires]
      exact serves.isService.office
  | decision decides is fires =>
      rw [← fires]
      unfold HumanReviewService.eventCode
      split_ifs
      all_goals rfl
  | analysis is fires =>
      cases event <;> first | rfl | cases fires

/-- Where there is one visit at most, an event leaves one at most, with the status of the event. -/
theorem Visited.single {vs vs' : List (Stored Visit)} (visited : Visited limit now event vs vs')
    (single : vs.length ≤ 1) :
    (writesVisit event = false ∧ vs' = vs) ∨
      (event = .visitNeeded ∧ ∃ v, vs' = vs ++ [v] ∧ v.1.status = .assigning) ∨
      ∃ row, vs' = [row] ∧ (event = .updateVisitSchedule ∧ row.1.status = .scheduling ∨
        event = .confirmVisit ∧ row.1.status = .confirmed) := by
  cases visited with
  | kept plain => exact .inl ⟨plain, rfl⟩
  | @created _ v _ status _ _ => exact .inr (.inl ⟨rfl, v, rfl, status⟩)
  | @updated _ _ v row member named _ status =>
      have ⟨x, alone⟩ : ∃ x, vs = [x] :=
        List.length_eq_one_iff.1 (Nat.le_antisymm single (List.length_pos_of_mem member))
      rw [alone] at member ⊢
      have same : v = x := List.mem_singleton.1 member
      refine .inr (.inr ⟨row, ?_, status⟩)
      unfold replaceRow
      rw [List.map_singleton, ← same]
      exact congrArg (fun x => [x]) (if_pos named.symm)

/-- A transition moves the visit as its rule says, and there is one visit at most. -/
theorem Transition.visit (move : Transition limit now event plan a b)
    (office : isTechnician event = false) (single : a.visits.length ≤ 1) :
    b.latestVisitStatus = plan.rule.visit.nextVisitStatus a.latestVisitStatus ∧
      b.visits.length ≤ 1 := by
  have ⟨listed, fires, _, fits, _⟩ := resolve_ok move.resolved
  have fits : plan.rule.visit.matchesVisit a.latestVisitStatus = true := fits
  have ⟨created, scheduled, confirmed⟩ := visit_written plan.rule listed
  rw [fires] at created scheduled confirmed
  have possible := mem_visits a.latestVisitStatus
  cases move.visits.single single with
  | inl kept =>
      have ⟨plain, same⟩ := kept
      have still := visit_kept plan.rule listed (fires.symm ▸ plain) (fires.symm ▸ office) _
        possible fits
      rw [still, same]
      refine ⟨?_, single⟩
      unfold Aggregate.latestVisitStatus Aggregate.latestVisit
      rw [same]
  | inr written =>
      cases written with
      | inl new =>
          have ⟨is, v, same, status⟩ := new
          have rule := created is
          rw [rule] at fits ⊢
          have absent : a.visits = [] := by
            cases visits : a.visits with
            | nil => rfl
            | cons x rest =>
                have none : rest = [] := by
                  rw [visits] at single
                  exact List.length_eq_zero_iff.1 (Nat.le_zero.1 (Nat.le_of_succ_le_succ single))
                rw [none] at visits
                rw [latestVisitStatus_singleton visits] at fits
                cases fits
          rw [absent] at same
          rw [latestVisitStatus_singleton same, same, status]
          exact ⟨rfl, Nat.le_refl 1⟩
      | inr changed =>
          have ⟨row, same, status⟩ := changed
          rw [latestVisitStatus_singleton same, same]
          refine ⟨?_, Nat.le_refl 1⟩
          cases status with
          | inl schedule => rw [scheduled schedule.1 _ possible fits, schedule.2]
          | inr confirm => rw [confirmed confirm.1 _ possible fits, confirm.2]

theorem Transition.lifecycle (move : Transition limit now event plan a b)
    (office : isTechnician event = false) (single : a.visits.length ≤ 1) :
    Lifecycle (position a) plan.rule (position b) := by
  have ⟨listed, _, source, fits, status, _, _, admitted, open_⟩ := resolve_ok move.resolved
  have visit := (move.visit office single).1
  unfold position
  rw [visit, move.status]
  refine ⟨listed, source, fits, rfl, ?_, fun s terminal same => open_ ⟨s, terminal, same⟩⟩
  rw [status] at admitted
  exact admitted

/-! ### Every run -/

theorem Tracks.unmoved (tracks : Tracks a rules) (status : b.q.status = a.q.status)
    (visits : b.visits = a.visits) (history : b.history = a.history)
    (version : a.q.stateVersion ≤ b.q.stateVersion) : Tracks b rules := by
  have same : position b = position a := by
    unfold position Aggregate.latestVisitStatus Aggregate.latestVisit
    rw [status, visits]
  refine ⟨?_, ?_, Nat.le_trans tracks.version version⟩
  · rw [same]
    exact tracks.run
  · rw [history]
    exact tracks.history

theorem Transition.tracks (move : Transition limit now event plan a b)
    (office : isTechnician event = false) (single : a.visits.length ≤ 1)
    (tracks : Tracks a rules) : Tracks b (rules ++ [plan.rule]) := by
  have ⟨_, fires, _⟩ := resolve_ok move.resolved
  refine ⟨.snoc tracks.run (move.lifecycle office single), ?_, ?_⟩
  · unfold recorded
    rw [List.filter_append, List.map_append]
    have before := tracks.history
    unfold recorded at before
    cases move.history with
    | inl feedback =>
        rw [feedback.2, before, List.filter_cons_of_neg, List.filter_nil]
        · exact (List.append_nil _).symm
        · rw [fires, feedback.1]
          simp
    | inr moved =>
        have ⟨other, row, grown, event_, _⟩ := moved
        rw [grown, List.map_append, before, List.filter_cons_of_pos, List.filter_nil,
          List.map_singleton, List.map_singleton, event_, fires]
        rw [fires]
        simpa using other
  · rw [List.length_append, List.length_singleton, move.version_succ]
    exact Nat.succ_le_succ tracks.version

/-- What an inquiry is by the contract. -/
def Lawful (a : Aggregate) : Prop := a.visits.length ≤ 1 ∧ ∃ rules, Tracks a rules

theorem Change.lawful {causes : EventCode → Plan → Prop}
    (change : Change causes limit used now a b)
    (office : ∀ {event plan}, causes event plan → isTechnician event = false) (lawful : Lawful a) :
    Lawful b := by
  have ⟨single, rules, tracks⟩ := lawful
  cases change with
  | moved event plan cause move _ =>
      exact ⟨(move.visit (office cause) single).2, _, move.tracks (office cause) single tracks⟩
  | reported _ inquiry history _ visits _ =>
      refine ⟨visits ▸ single, rules, tracks.unmoved ?_ visits history ?_⟩
      · rw [inquiry]
        rfl
      · rw [inquiry]
        exact Nat.le_succ _
  | reassigned target inquiry _ history _ visits _ =>
      refine ⟨visits ▸ single, rules, tracks.unmoved ?_ visits history ?_⟩
      · rw [inquiry]
      · rw [inquiry]
  | still same =>
      exact ⟨same.visits ▸ single, rules,
        tracks.unmoved same.status same.visits same.history (Nat.le_of_eq same.version.symm)⟩
  | drafted inquiry history visits _ _ =>
      have own : b.q = a.q := congrArg Subtype.val inquiry
      refine ⟨visits ▸ single, rules, tracks.unmoved ?_ visits history ?_⟩
      · rw [own]
      · rw [own]

theorem Opened.lawful {q : Inquiry} (opened : Opened request q event b) {rule : TransitionRule}
    (listed : rule ∈ shipped.transitions) (fires : rule.event = event) (source : rule.source = none)
    (target : q.status = rule.target) (fits : rule.visit.matchesVisit none = true)
    (unvisited : rule.visit.nextVisitStatus none = none)
    (admitted : shipped.admits (some rule.target) none = true) (first : 1 ≤ q.stateVersion)
    (other : event ≠ .submitResolutionFeedback) : Lawful b := by
  have ⟨stored, row, same, event_, whole⟩ := opened
  rw [whole]
  refine ⟨Nat.zero_le 1, [rule], ⟨.snoc .refl ?_, ?_, ?_⟩⟩
  · refine ⟨listed, source, fits, ?_, admitted, nofun⟩
    rw [unvisited, ← target, ← same]
    rfl
  · show [row.1.event] = (recorded [rule]).map (·.event)
    unfold recorded
    rw [List.filter_cons_of_pos, List.filter_nil, List.map_singleton, event_, fires]
    rw [fires]
    simpa using other
  · show 1 ≤ stored.1.stateVersion
    rw [same]
    exact first

theorem Opens.lawful (opens : Opens w act b) : Lawful b := by
  cases opens with
  | start _ opened =>
      have ⟨rule, listed, fires, source, target, fits, unvisited, admitted⟩ := start_rule
      rw [← target] at admitted
      exact opened.lawful listed fires source target.symm fits unvisited admitted (Nat.le_refl 1)
        nofun
  | @register _ _ _ plan _ _ resolved _ opened =>
      have ⟨listed, fires, source, fits, status, version, _, admitted, _⟩ := resolve_ok resolved
      have unvisited := phone_unvisited plan.rule listed fires
      rw [status] at admitted
      have admitted : shipped.admits (some plan.rule.target)
        (plan.rule.visit.nextVisitStatus none) = true := admitted
      rw [unvisited] at admitted
      refine opened.lawful listed rfl source rfl fits unvisited admitted ?_ ?_
      · exact Nat.le_of_eq version.symm
      · rw [fires]
        nofun

end

section
variable {settings : Settings} {start w : World} {labels : List Event}

/-- Every run of the database, seen from one inquiry, is a run of the rules of the contract that
ends in the position of the inquiry; its history names those rules one after another, but for the
feedback of the customer. -/
theorem run_lifecycle (initial : Initial start) (run : Run (Step settings) start labels w) {i : Nat}
    {a : Aggregate} (found : w.aggregate i = some a) :
    a.visits.length ≤ 1 ∧ ∃ rules, Tracks a rules := by
  refine aggregate_invariant (P := fun _ _ a => Lawful a) initial ?_ ?_ ?_
    (Run.allowed run) i a found
  · intro _ _ _ _ _ lawful
    exact lawful
  · intro _ _ _ _ opens
    exact opens.lawful
  · intro _ _ _ _ _ _ _ earlier _ lawful writes
    have desk := (reachable_coupled initial earlier writes.found).desk
    exact (writes.change desk).lawful Cause.office lawful

end

/-! ### What is never taken back -/

/-- How an inquiry can have changed: it belongs to the same customer, its history was added to,
its version grew with every change of its status, and a closed inquiry stays as it is. -/
structure Evolves (a b : Aggregate) : Prop where
  identity : b.q.id = a.q.id ∧ b.q.subscription = a.q.subscription ∧
    b.q.initiatedBy = a.q.initiatedBy
  version : a.q.stateVersion ≤ b.q.stateVersion
  history : a.history <+: b.history
  versioned : b.q.stateVersion = a.q.stateVersion →
    b.q.status = a.q.status ∧ b.history = a.history
  final : a.q.status ∈ shipped.terminalStates → b.q.stateVersion = a.q.stateVersion

namespace Evolves
variable {a b c : Aggregate}

theorem refl (a : Aggregate) : Evolves a a :=
  ⟨⟨rfl, rfl, rfl⟩, Nat.le_refl _, List.prefix_rfl, fun _ => ⟨rfl, rfl⟩, fun _ => rfl⟩

theorem trans (first : Evolves a b) (second : Evolves b c) : Evolves a c where
  identity := ⟨second.identity.1.trans first.identity.1,
    second.identity.2.1.trans first.identity.2.1, second.identity.2.2.trans first.identity.2.2⟩
  version := Nat.le_trans first.version second.version
  history := first.history.trans second.history
  versioned := by
    intro same
    have middle : b.q.stateVersion = a.q.stateVersion :=
      Nat.le_antisymm (same ▸ second.version) first.version
    have ⟨status, history⟩ := first.versioned middle
    have ⟨status', history'⟩ := second.versioned (same.trans middle.symm)
    exact ⟨status'.trans status, history'.trans history⟩
  final := by
    intro terminal
    have same := first.final terminal
    have status := (first.versioned same).1
    exact (second.final (status ▸ terminal)).trans same

/-- A row that is left as it was, up to the assignment. -/
theorem of_same (identity : b.q.id = a.q.id ∧ b.q.subscription = a.q.subscription ∧
      b.q.initiatedBy = a.q.initiatedBy) (version : b.q.stateVersion = a.q.stateVersion)
    (status : b.q.status = a.q.status) (history : b.history = a.history) : Evolves a b :=
  ⟨identity, Nat.le_of_eq version.symm, history ▸ List.prefix_rfl, fun _ => ⟨status, history⟩,
    fun _ => version⟩

end Evolves

theorem guidance_open : InquiryState.aiGuidance ∉ shipped.terminalStates := by decide

section
variable {settings : Settings} {w t : World} {a b : Aggregate} {limit used : Nat} {now : Instant}
  {event : EventCode} {plan : Plan}

theorem Transition.evolves (move : Transition limit now event plan a b) : Evolves a b := by
  have ⟨_, _, _, _, _, _, _, _, open_⟩ := resolve_ok move.resolved
  refine ⟨move.identity, ?_, ?_, fun same => ?_, fun terminal => ?_⟩
  · rw [move.version_succ]
    exact Nat.le_succ _
  · cases move.history with
    | inl feedback => exact feedback.2 ▸ List.prefix_rfl
    | inr moved =>
        have ⟨_, row, grown, _⟩ := moved
        rw [grown]
        exact List.prefix_append _ _
  · rw [move.version_succ] at same
    exact absurd same (Nat.succ_ne_self _)
  · exact absurd ⟨_, terminal, rfl⟩ open_

theorem Change.evolves {causes : EventCode → Plan → Prop}
    (change : Change causes limit used now a b) : Evolves a b := by
  cases change with
  | moved event plan _ move _ => exact move.evolves
  | reported status inquiry history _ _ _ =>
      have version : b.q.stateVersion = a.q.stateVersion + 1 := by
        rw [inquiry]
        rfl
      refine ⟨?_, ?_, history ▸ List.prefix_rfl, fun same => ?_, fun terminal => ?_⟩
      · rw [inquiry]
        exact ⟨rfl, rfl, rfl⟩
      · rw [version]
        exact Nat.le_succ _
      · rw [version] at same
        exact absurd same (Nat.succ_ne_self _)
      · rw [status] at terminal
        exact absurd terminal guidance_open
  | reassigned target inquiry _ history _ _ _ =>
      refine .of_same ?_ ?_ ?_ history
      · rw [inquiry]
        exact ⟨rfl, rfl, rfl⟩
      · rw [inquiry]
      · rw [inquiry]
  | still same =>
      exact .of_same ⟨same.id, same.subscription, same.initiatedBy⟩ same.version same.status
        same.history
  | drafted inquiry history _ _ _ =>
      have own : b.q = a.q := congrArg Subtype.val inquiry
      refine .of_same ?_ ?_ ?_ history
      · rw [own]
        exact ⟨rfl, rfl, rfl⟩
      · rw [own]
      · rw [own]

end

section
variable {settings : Settings} {start w t : World} {labels more : List Event} {i : Nat}
  {a : Aggregate}

/-- The identifiers of the inquiries were given out before. -/
theorem inquiry_lt (initial : Initial start) (run : Run (Step settings) start labels w)
    (found : w.aggregate i = some a) : i < w.nextId := by
  refine aggregate_invariant (P := fun limit i _ => i < limit) initial ?_ ?_ ?_
    (Run.allowed run) i a found
  · intro _ _ _ _ le lt
    exact Nat.lt_of_lt_of_le lt le
  · intro _ _ _ _ _
    exact Nat.lt_succ_self _
  · intro _ _ _ _ _ _ _ _ _ lt _
    exact Nat.lt_of_lt_of_le lt (Nat.le_add_right _ _)

theorem step_evolves (initial : Initial start) (run : Run (Step settings) start labels w)
    {e : Event} (step : Step settings w e t) (found : w.aggregate i = some a) :
    ∃ b, t.aggregate i = some b ∧ Evolves a b := by
  cases step_effect step with
  | untouched same _ =>
      refine ⟨a, ?_, .refl a⟩
      rw [World.aggregate, same]
      exact found
  | opened b _ inserted _ =>
      refine ⟨a, ?_, .refl a⟩
      rw [World.aggregate, inserted, AList.lookup_insert_ne]
      · exact found
      · exact Nat.ne_of_lt (inquiry_lt initial run found)
  | wrote j a' b used writes inserted _ =>
      by_cases own : i = j
      · subst own
        have same : a' = a := Option.some.inj (writes.found.symm.trans found)
        subst same
        have desk := (reachable_coupled initial (Run.allowed run) found).desk
        refine ⟨b, ?_, (writes.change desk).evolves⟩
        rw [World.aggregate, inserted, AList.lookup_insert]
      · refine ⟨a, ?_, .refl a⟩
        rw [World.aggregate, inserted, AList.lookup_insert_ne own]
        exact found

/-- From any moment of a run to any later one, an inquiry stays the customer's, its history is
only added to, its version tells the changes of its status, and what is closed stays closed. -/
theorem run_evolves (initial : Initial start) (run : Run (Step settings) start labels w)
    (found : w.aggregate i = some a) (later : Run (Step settings) w more t) :
    ∃ b, t.aggregate i = some b ∧ Evolves a b := by
  induction later with
  | refl => exact ⟨a, found, .refl a⟩
  | snoc earlier step ih =>
      have ⟨b, there, evolved⟩ := ih
      have ⟨c, there', last⟩ := step_evolves initial (run.trans earlier) step there
      exact ⟨c, there', evolved.trans last⟩

end

namespace Sample

/-- The database after a consultation without a visit. -/
def consulted : World := (trace settings world completing).2

/-- The customer answers that the result helped. -/
def thanks : List Action := [send customer 112 (.act (.submitFeedback 10 9 none))]

theorem consulted_run : Run (Step settings) world (trace settings world completing).1 consulted :=
  trace_run (by decide +kernel)

theorem consulted_found : ∃ a, consulted.aggregate 10 = some a :=
  Option.isSome_iff_exists.1 (by decide +kernel)

end Sample

theorem run_lifecycle_consulted : ∃ a rules, Sample.consulted.aggregate 10 = some a ∧
    Tracks a rules := by
  have ⟨a, found⟩ := Sample.consulted_found
  have ⟨_, rules, tracks⟩ := run_lifecycle Sample.world_initial Sample.consulted_run found
  exact ⟨a, rules, found, tracks⟩

theorem run_evolves_thanked : ∃ a b, Sample.consulted.aggregate 10 = some a ∧
    (trace Sample.settings Sample.consulted Sample.thanks).2.aggregate 10 = some b ∧
      Evolves a b := by
  have ⟨a, found⟩ := Sample.consulted_found
  have later : Run (Step Sample.settings) Sample.consulted
      (trace Sample.settings Sample.consulted Sample.thanks).1
      (trace Sample.settings Sample.consulted Sample.thanks).2 := trace_run (by decide +kernel)
  have ⟨b, there, evolved⟩ :=
    run_evolves Sample.world_initial Sample.consulted_run found later
  exact ⟨a, b, found, there, evolved⟩

end WaterCare.Runtime
