import WaterCare.Engine.Unambiguous
import WaterCare.Engine.Evaluate

/-!
When an accepted contract runs without a Python exception: what the engine
reads from the raw documents beyond the validator's checks, for each rule that
some snapshot and registered event select.
-/

namespace WaterCare.Contract
open Py Engine

def visitModes : List String :=
  ["REQUIRE_ABSENT", "CREATE", "PRESERVE", "PRESERVE_REQUIRE_STATUS", "TRANSITION"]

def modeOf (rule : Dict) : Value := (visitOf rule).get "mode"

/-- The rule creates an inquiry, or its version action is the increment. -/
def versioned (documents : Value) (rule : Dict) : Bool :=
  let defaults := (defaultsOf documents).asDict?.getD []
  (rule.get "from_inquiry_state").isNone ||
    (rule.getD "version_action" (Dict.get defaults "version_action")).eqStr "INCREMENT"

/-- The visit status after a rule; `none` when its mode reads a missing `to_status`. -/
def visitAfter (rule : Dict) (visit : Option String) : Option (Option String) :=
  if (modeOf rule).eqStr "CREATE" || (modeOf rule).eqStr "TRANSITION" then
    ((visitOf rule).find "to_status").map Value.asStr?
  else if (modeOf rule).eqStr "PRESERVE" || (modeOf rule).eqStr "PRESERVE_REQUIRE_STATUS" then
    some visit
  else some none

/-- The rule's own target state admits the visit it ends in. -/
def Completes (documents : Value) (rule : Dict) (visit : Option String) : Prop :=
  versioned documents rule = true ∧ ∃ next, visitAfter rule visit = some next ∧
    admits documents (rule.get "to_inquiry_state").asStr? next = true

def eventOf (documents : Value) (code : String) : Dict :=
  ((docEntries documents "events" "events").find? fun e => (e.get "code").eqStr code).getD []

/-- The rule is the only one for a registered event, its own state and a visit
status that state admits. -/
structure Selected (documents : Value) (rule : Dict) (event : String) (visit : Option String) :
    Prop where
  registered : event ∈ eventCodes documents
  text : ∀ s, visit = some s → hasText s = true
  admitted : admits documents (rule.get "from_inquiry_state").asStr? visit = true
  only : matching documents (rule.get "from_inquiry_state").asStr? event visit = [rule]

/-- What the engine reads of a selected rule and the validator leaves open. -/
structure Readable (documents : Value) (rule : Dict) (event : String) (visit : Option String) :
    Prop where
  defaults : ∃ d, defaultsOf documents = .dict d
  to_status : versioned documents rule = true → visitAfter rule visit ≠ none
  effects : Completes documents rule visit →
    ∃ items, (rule.getD "effects" (.list [])).iter = .ok items
  guard_refs : Completes documents rule visit →
    requiredMissing (eventOf documents event) (strings (rule.get "guard_refs")) = false →
    ∀ ref ∈ strings (rule.get "guard_refs"), ref ∈ guardIds documents

/-- The condition under which an accepted contract is executable. -/
structure Serviceable (documents : Value) : Prop where
  precedence : ∃ declared, declaredPrecedence documents = .ok declared ∧
    IndexablePrecedence declared
  modes : ∀ rule ∈ ruleEntries documents, ∃ mode ∈ visitModes, modeOf rule = .str mode
  selected : ∀ rule event visit, Selected documents rule event visit →
    Readable documents rule event visit

theorem Rule.modeOf_eq (r : Rule) : modeOf r.entry = .str r.mode := by
  rw [modeOf, r.visitOf_eq, Dict.get_of_find r.mode_eq]

theorem Rule.visitAfter_eq (r : Rule) (visit : Option String) :
    visitAfter r.entry visit = nextVisit r visit := by
  have toStatus : (r.visit.find "to_status").map Value.asStr? = r.toStatus := by
    rw [r.toStatus_eq, Option.map_map]
    cases r.toStatus with
    | none => rfl
    | some s => exact congrArg some (asStr?_ofOption s)
  simp only [visitAfter, r.modeOf_eq, r.visitOf_eq, toStatus, nextVisit, Bool.or_eq_true,
    Value.eqStr_iff, Value.str_inj]

theorem Rule.from_asStr? (r : Rule) : (r.entry.get "from_inquiry_state").asStr? = r.fromState := by
  rw [Dict.get_of_find r.fromState_eq, asStr?_ofOption]

theorem Rule.to_asStr? (r : Rule) : (r.entry.get "to_inquiry_state").asStr? = some r.toState := by
  rw [Dict.get_of_find r.toState_eq]
  rfl

theorem Rule.guardRefs_strings (r : Rule) : strings (r.entry.get "guard_refs") = r.guardRefs := by
  rw [Dict.get_of_find r.guardRefs_eq, strings_list]

theorem Rule.condition_ne_never (r : Rule) : r.condition ≠ .never ↔ r.mode ∈ visitModes := by
  simp only [visitModes, List.mem_cons, List.not_mem_nil, or_false]
  unfold Rule.condition
  split_ifs <;> simp only [ne_eq, reduceCtorEq, not_false_eq_true, true_iff, not_true_eq_false,
    false_iff] <;> tauto

end WaterCare.Contract

namespace WaterCare.Engine
open Py Contract

section
variable {documents : Value} (A : Accepted documents)

theorem eventOf_eq {code : String} (registered : code ∈ eventCodes documents)
    (precedence : List (Atom × Nat)) :
    ∃ e : EventEntry, eventOf documents code = e.entry ∧
      lookup (evaluatorOf A precedence).events (.str code) = some (.dict e.entry) := by
  rw [A.eventCodes_eq] at registered
  obtain ⟨e, he, same⟩ := List.mem_map.mp registered
  have some_found : (A.events.events.find? fun e => decide (e.code = code)).isSome := by
    rw [List.find?_isSome]
    exact ⟨e, he, by simpa using same⟩
  obtain ⟨f, hf⟩ := Option.isSome_iff_exists.mp some_found
  refine ⟨f, ?_, ?_⟩
  · have test : ((fun e : Dict => (e.get "code").eqStr code) ∘ fun e : EventEntry => e.entry) =
        fun e => decide (e.code = code) := by
      funext e
      simp [Dict.get_of_find e.code_eq, Value.eqStr, Value.str]
    rw [eventOf, A.eventEntries_eq, List.find?_map, test, hf]
    rfl
  · simp only [evaluatorOf, lookup_views, hf, Option.map_some]

/-- The version step of a rule from its own state. -/
theorem nextVersion_rule {r : Rule} {snapshot : WorkflowSnapshot}
    (state : snapshot.inquiryState = r.fromState) {defaults : Dict}
    (mapping : defaultsOf documents = .dict defaults) :
    if versioned documents r.entry then
      ∃ version, StateMachine.nextVersion snapshot
        (r.entry.getD "version_action" (defaults.get "version_action")) = .ok version
    else
      ∃ reason, StateMachine.nextVersion snapshot
        (r.entry.getD "version_action" (defaults.get "version_action")) =
          .error (.invalid reason) := by
  unfold versioned StateMachine.nextVersion
  rw [mapping, Dict.get_of_find r.fromState_eq]
  cases hfrom : r.fromState with
  | none =>
      have initial := r.initial_iff.mpr hfrom
      have action : r.entry.getD "version_action" (defaults.get "version_action") =
          .str "INITIALIZE_1" :=
        Dict.getD_of_find (Dict.find_of_get initial (Value.str_ne_none _))
      have version := snapshot.version_absent (state.trans hfrom)
      rw [hfrom] at state
      simp [action, state, version, Value.ofOption, Value.isNone, Value.eqStr_iff]
  | some s =>
      rw [hfrom] at state
      obtain ⟨v, version, _⟩ := snapshot.version_present (by simp [state])
      have existing : (Value.ofOption (some s)).isNone = false := rfl
      simp only [existing, Bool.false_or, Value.asDict?, Option.getD_some, state, version,
        Option.isSome_some, Bool.true_or, if_true]
      cases hi : (r.entry.getD "version_action" (defaults.get "version_action")).eqStr
          "INCREMENT" with
      | true =>
          have action := Value.eqStr_iff.mp hi
          simp [action, Value.eqStr, Value.str]
      | false =>
          simp only [Bool.false_eq_true, if_false]
          split_ifs <;> exact ⟨_, rfl⟩

/-- What `resolve` and `evaluate` owe a snapshot and a registered event. -/
def Runs (m : StateMachine) (g : GuardEvaluator) (snapshot : WorkflowSnapshot) (code : String) :
    Prop :=
  (∃ reason, m.resolve snapshot code = .error (.invalid reason)) ∨
    ∃ t, m.resolve snapshot code = .ok t ∧
      ∀ context, ∃ evaluation, g.evaluate t snapshot context = .ok evaluation

/-- Some snapshot in the rule's own state passes both tests of `resolve` on it. -/
def MatchesSomeSnapshot (rule : Value) : Prop :=
  ∃ (snapshot : WorkflowSnapshot) (event : String),
    StateMachine.listsEvent event snapshot.inquiryState rule = .ok true ∧
    StateMachine.candidates snapshot [rule] = .ok [rule]

/-- The engine builds from the documents, ends every call and can use every rule. -/
def Executable (documents : Value) : Prop :=
  ∃ m g, StateMachine.init documents = .ok m ∧ GuardEvaluator.init documents = .ok g ∧
    (∀ snapshot code, (lookup m.events (.str code)).isSome → Runs m g snapshot code) ∧
    ∀ rule ∈ m.transitions, MatchesSomeSnapshot rule

theorem matchesSomeSnapshot_iff (r : Rule) :
    MatchesSomeSnapshot (.dict r.entry) ↔ ∃ mode ∈ visitModes, modeOf r.entry = .str mode := by
  have known : (∃ mode ∈ visitModes, modeOf r.entry = .str mode) ↔ r.condition ≠ .never := by
    rw [r.condition_ne_never, r.modeOf_eq]
    simp
  rw [known]
  constructor
  · rintro ⟨snapshot, event, _, kept⟩ never
    have filtered := candidates_eq snapshot [r]
    simp only [List.map_cons, List.map_nil, never, VisitCondition.covers, List.filter_cons,
      Bool.false_eq_true, if_false, List.filter_nil] at filtered
    rw [filtered] at kept
    cases kept
  · intro some_visit
    have covered : ∃ visit, r.condition.covers visit = true ∧
        ∀ s, visit = some s → hasText s = true := by
      cases hc : r.condition with
      | any | absent => exact ⟨none, rfl, by simp⟩
      | exactly v => exact ⟨v, by simp [VisitCondition.covers], r.condition_text hc⟩
      | never => exact absurd hc some_visit
    obtain ⟨visit, covered, text⟩ := covered
    refine ⟨snapshotAt r.fromState visit r.from_text text, r.event, ?_, ?_⟩
    · rw [listsEvent_eq]
      simp [snapshotAt]
    · have filtered := candidates_eq (snapshotAt r.fromState visit r.from_text text) [r]
      have keep : r.condition.covers (snapshotAt r.fromState visit r.from_text text).visitStatus =
          true := covered
      simpa [keep] using filtered

theorem event_isSome {code : String} (registered : code ∈ eventCodes documents) :
    (lookup (machineOf A).events (.str code)).isSome := by
  obtain ⟨e, _, found⟩ := eventOf_eq A registered []
  have found : lookup (machineOf A).events (.str code) = some (.dict e.entry) := found
  rw [found]
  rfl

theorem registered_of_isSome {code : String}
    (known : (lookup (machineOf A).events (.str code)).isSome) : code ∈ eventCodes documents := by
  simp only [machineOf, lookup_views, Option.isSome_map, List.find?_isSome] at known
  obtain ⟨e, he, same⟩ := known
  rw [A.eventCodes_eq]
  exact List.mem_map.mpr ⟨e, he, by simpa using same⟩

theorem evaluator_eq {g : GuardEvaluator} (built : GuardEvaluator.init documents = .ok g) :
    ∃ precedence, evaluatorOf A precedence = g := by
  rw [evaluator_init_eq A] at built
  cases hd : declaredPrecedence documents with
  | error e => rw [hd] at built; cases built
  | ok declared =>
      rw [hd] at built
      simp only [bind, Except.bind] at built
      cases hp : effectiveGuardPrecedence declared (.list (A.guards.categories.map .str)) with
      | error e => rw [hp] at built; cases built
      | ok precedence =>
          rw [hp] at built
          exact ⟨precedence, Except.ok.inj built⟩

/-- The views of the rule a selected entry is. -/
theorem selected_rule {rule : Dict} {event : String} {visit : Option String}
    (h : Selected documents rule event visit) :
    ∃ r ∈ A.transitions.rules, r.entry = rule ∧ r.event = event ∧
      r.condition.covers visit = true := by
  have member : rule ∈ matching documents (rule.get "from_inquiry_state").asStr? event visit := by
    rw [h.only]
    exact List.mem_singleton_self rule
  rw [matching_eq A] at member
  obtain ⟨r, hr, rfl⟩ := List.mem_map.mp member
  obtain ⟨listed, event, _, covered⟩ := mem_matchingRules.mp hr
  exact ⟨r, listed, rfl, event, covered⟩

/-- On a snapshot that selects a rule, `resolve` applies it. -/
theorem resolve_selected {r : Rule} (mem : r ∈ A.transitions.rules) {event : String}
    {snapshot : WorkflowSnapshot} (state : snapshot.inquiryState = r.fromState)
    (h : Selected documents r.entry event snapshot.visitStatus) :
    (machineOf A).resolve snapshot event = (machineOf A).apply snapshot event (.dict r.entry) := by
  have only := h.only
  have admitted := h.admitted
  rw [r.from_asStr?, ← state] at only admitted
  have open_ : ¬ ∃ s ∈ terminalStates documents, snapshot.inquiryState = some s := by
    rintro ⟨s, terminal, hs⟩
    rw [A.terminalStates_eq] at terminal
    exact A.from_open r mem s (state ▸ hs) terminal
  rw [resolve_eq A, if_neg (not_not.mpr h.registered), if_neg open_, admitted, only]
  rfl

/-- A snapshot and registered event are rejected, or select a rule. -/
theorem resolve_cases {event : String} (registered : event ∈ eventCodes documents)
    (snapshot : WorkflowSnapshot) :
    (∃ reason, (machineOf A).resolve snapshot event = .error (.invalid reason)) ∨
      ∃ r ∈ A.transitions.rules, snapshot.inquiryState = r.fromState ∧
        r.condition.covers snapshot.visitStatus = true ∧
        Selected documents r.entry event snapshot.visitStatus := by
  rw [resolve_eq A]
  by_cases terminal : ∃ s ∈ terminalStates documents, snapshot.inquiryState = some s
  · rw [if_neg (not_not.mpr registered), if_pos terminal]
    exact .inl ⟨_, rfl⟩
  rw [if_neg (not_not.mpr registered), if_neg terminal]
  cases admitted : admits documents snapshot.inquiryState snapshot.visitStatus with
  | false => exact .inl ⟨_, rfl⟩
  | true =>
      rw [if_neg (by simp)]
      cases found : matching documents snapshot.inquiryState event snapshot.visitStatus with
      | nil => exact .inl ⟨_, rfl⟩
      | cons rule rest =>
          cases rest with
          | cons q more => exact .inl ⟨_, rfl⟩
          | nil =>
              have member := found
              rw [matching_eq A] at member
              obtain ⟨r, hr⟩ : ∃ r, r ∈ matchingRules A.transitions.rules snapshot.inquiryState
                  event snapshot.visitStatus ∧ r.entry = rule := by
                have : rule ∈ (matchingRules A.transitions.rules snapshot.inquiryState event
                    snapshot.visitStatus).map (·.entry) := by
                  rw [member]
                  exact List.mem_singleton_self rule
                exact List.mem_map.mp this
              obtain ⟨hr, rfl⟩ := hr
              obtain ⟨listed, _, state, covered⟩ := mem_matchingRules.mp hr
              refine .inr ⟨r, listed, state.symm, covered, registered, snapshot.visit_text, ?_, ?_⟩
              · rwa [r.from_asStr?, state]
              · rwa [r.from_asStr?, state]

/-- What `resolve` does with the rule a snapshot selects. -/
theorem resolve_readable {r : Rule} (mem : r ∈ A.transitions.rules) {event : String}
    {snapshot : WorkflowSnapshot} (state : snapshot.inquiryState = r.fromState)
    (covered : r.condition.covers snapshot.visitStatus = true)
    (h : Selected documents r.entry event snapshot.visitStatus)
    (readable : Readable documents r.entry event snapshot.visitStatus) :
    (∃ reason, (machineOf A).resolve snapshot event = .error (.invalid reason)) ∨
      ∃ defaults version next effects, defaultsOf documents = .dict defaults ∧
        Completes documents r.entry snapshot.visitStatus ∧
        (machineOf A).resolve snapshot event =
          .ok (transitionOf defaults snapshot event r version next effects) := by
  obtain ⟨defaults, mapping⟩ := readable.defaults
  have step := nextVersion_rule state mapping
  rw [resolve_selected A mem state h, apply_eq A snapshot event r covered, mapping]
  simp only [Value.asDict?]
  split_ifs at step with hv
  · obtain ⟨version, step⟩ := step
    rw [step]
    have to_status := readable.to_status hv
    rw [r.visitAfter_eq] at to_status
    cases hn : nextVisit r snapshot.visitStatus with
    | none => exact absurd hn to_status
    | some next =>
        dsimp only
        cases admitted : admits documents (some r.toState) next with
        | false => exact .inl ⟨_, rfl⟩
        | true =>
            have completes : Completes documents r.entry snapshot.visitStatus :=
              ⟨hv, next, by rw [r.visitAfter_eq, hn], by rwa [r.to_asStr?]⟩
            obtain ⟨effects, iterable⟩ := readable.effects completes
            rw [iterable, if_pos rfl]
            exact .inr ⟨defaults, version, next, effects, rfl, completes, rfl⟩
  · obtain ⟨reason, step⟩ := step
    rw [step]
    exact .inl ⟨reason, rfl⟩

theorem runs_of_readable (precedence : List (Atom × Nat)) {r : Rule}
    (mem : r ∈ A.transitions.rules) {event : String} {snapshot : WorkflowSnapshot}
    (state : snapshot.inquiryState = r.fromState)
    (covered : r.condition.covers snapshot.visitStatus = true)
    (h : Selected documents r.entry event snapshot.visitStatus)
    (readable : Readable documents r.entry event snapshot.visitStatus) :
    Runs (machineOf A) (evaluatorOf A precedence) snapshot event := by
  rcases resolve_readable A mem state covered h readable with rejected | applied
  · exact .inl rejected
  · obtain ⟨defaults, version, next, effects, mapping, completes, applied⟩ := applied
    refine .inr ⟨_, applied, fun context => ?_⟩
    obtain ⟨e, event_eq, found⟩ := eventOf_eq A h.registered precedence
    refine evaluate_ok A precedence mapping found rfl ?_ snapshot context
    have refs := readable.guard_refs completes
    rwa [event_eq, r.guardRefs_strings] at refs

theorem readable_of_runs (precedence : List (Atom × Nat)) {r : Rule}
    (mem : r ∈ A.transitions.rules) {event : String} {snapshot : WorkflowSnapshot}
    (state : snapshot.inquiryState = r.fromState)
    (covered : r.condition.covers snapshot.visitStatus = true)
    (h : Selected documents r.entry event snapshot.visitStatus)
    (runs : Runs (machineOf A) (evaluatorOf A precedence) snapshot event) :
    Readable documents r.entry event snapshot.visitStatus := by
  have resolved := resolve_selected A mem state h
  rw [apply_eq A snapshot event r covered] at resolved
  unfold Runs at runs
  rw [resolved] at runs
  obtain ⟨defaults, mapping⟩ : ∃ d, defaultsOf documents = .dict d := by
    cases hd : defaultsOf documents with
    | dict d => exact ⟨d, rfl⟩
    | atom _ | list _ => simp [hd, Value.asDict?] at runs
  have step := nextVersion_rule state mapping
  rw [mapping] at runs
  simp only [Value.asDict?] at runs
  have to_status (hv : versioned documents r.entry = true) :
      nextVisit r snapshot.visitStatus ≠ none := by
    rw [if_pos hv] at step
    obtain ⟨version, step⟩ := step
    intro missing
    simp [step, missing] at runs
  -- A rule that completes has gone through every step but the effects.
  have completed (completes : Completes documents r.entry snapshot.visitStatus) :
      ∃ version next effects, (r.entry.getD "effects" (.list [])).iter = .ok effects ∧
        ∀ context, ∃ evaluation, (evaluatorOf A precedence).evaluate
          (transitionOf defaults snapshot event r version next effects) snapshot context =
            .ok evaluation := by
    obtain ⟨hv, next, after, admitted⟩ := completes
    rw [if_pos hv] at step
    obtain ⟨version, step⟩ := step
    rw [r.visitAfter_eq] at after
    rw [r.to_asStr?] at admitted
    rw [step, after] at runs
    simp only [admitted, if_true] at runs
    cases iterable : (r.entry.getD "effects" (.list [])).iter with
    | error e => simp [iterable] at runs
    | ok effects =>
        simp only [iterable, reduceCtorEq, exists_false, Except.ok.injEq, exists_eq_left',
          false_or] at runs
        exact ⟨version, next, effects, rfl, runs⟩
  refine ⟨⟨defaults, mapping⟩, ?_, ?_, ?_⟩
  · intro hv
    rw [r.visitAfter_eq]
    exact to_status hv
  · intro completes
    obtain ⟨_, _, effects, iterable, _⟩ := completed completes
    exact ⟨effects, iterable⟩
  · intro completes present ref listed
    by_contra unregistered
    obtain ⟨version, next, effects, _, evaluates⟩ := completed completes
    obtain ⟨e, event_eq, found⟩ := eventOf_eq A h.registered precedence
    rw [event_eq, r.guardRefs_strings] at present
    rw [r.guardRefs_strings] at listed
    obtain ⟨context, err, fails⟩ := evaluate_error A precedence mapping
      (transitionOf defaults snapshot event r version next effects) found rfl present listed
      unregistered snapshot
    obtain ⟨evaluation, succeeds⟩ := evaluates context
    rw [fails] at succeeds
    cases succeeds

end

/-- An accepted contract is executable exactly when it is serviceable. -/
theorem executable_iff_serviceable (documents : Value)
    (accepted : collectContractErrors documents = .ok []) :
    Executable documents ↔ Serviceable documents := by
  obtain ⟨A⟩ := accepted_of_no_errors accepted
  constructor
  · rintro ⟨m, g, built, evaluator, runs, matched⟩
    obtain rfl : machineOf A = m := Except.ok.inj ((init_eq A).symm.trans built)
    obtain ⟨precedence, rfl⟩ := evaluator_eq A evaluator
    refine ⟨(evaluator_init_ok_iff A).mp ⟨_, evaluator⟩, ?_, ?_⟩
    · intro rule member
      rw [A.ruleEntries_eq] at member
      obtain ⟨r, hr, rfl⟩ := List.mem_map.mp member
      exact (matchesSomeSnapshot_iff r).mp (matched _ (List.mem_map_of_mem hr))
    · intro rule event visit h
      obtain ⟨r, mem, rfl, _, covered⟩ := selected_rule A h
      have run := runs (snapshotAt r.fromState visit r.from_text h.text) event
        (event_isSome A h.registered)
      exact readable_of_runs A precedence mem rfl covered h run
  · intro ready
    obtain ⟨g, evaluator⟩ := (evaluator_init_ok_iff A).mpr ready.precedence
    obtain ⟨precedence, rfl⟩ := evaluator_eq A evaluator
    refine ⟨machineOf A, _, init_eq A, evaluator, ?_, ?_⟩
    · intro snapshot event known
      rcases resolve_cases A (registered_of_isSome A known) snapshot with rejected | selected
      · exact .inl rejected
      · obtain ⟨r, mem, state, covered, h⟩ := selected
        exact runs_of_readable A precedence mem state covered h (ready.selected _ _ _ h)
    · intro rule member
      obtain ⟨r, hr, rfl⟩ := List.mem_map.mp member
      refine (matchesSomeSnapshot_iff r).mpr (ready.modes _ ?_)
      rw [A.ruleEntries_eq]
      exact List.mem_map_of_mem hr

/-- A rule that creates a visit and does not say in which status. -/
def unnamedVisitContract : Value := smallContract [smallRule "TR-1" [("mode", .str "CREATE")]]

set_option maxRecDepth 10000 in
/-- The validator takes `to_status` for optional where the engine indexes it. -/
theorem unnamedVisitContract_raises :
    ¬ ∀ documents, collectContractErrors documents = .ok [] → Executable documents := by
  intro executable
  have accepted : collectContractErrors unnamedVisitContract = .ok [] := rfl
  obtain ⟨m, g, built, _, runs, _⟩ := executable unnamedVisitContract accepted
  have raised : m.resolve submitted "CANCEL_INQUIRY" =
      .error (.python (.keyError "to_status")) := by
    obtain rfl := Except.ok.inj built
    rfl
  have registered : (lookup m.events (.str "CANCEL_INQUIRY")).isSome := by
    obtain rfl := Except.ok.inj built
    rfl
  rcases runs submitted "CANCEL_INQUIRY" registered with ⟨reason, rejected⟩ | ⟨t, returned, _⟩
  · cases raised.symm.trans rejected
  · cases raised.symm.trans returned

set_option maxRecDepth 10000 in
theorem serviceable_disjointContract : Serviceable disjointContract where
  precedence := by
    refine ⟨_, rfl, _, rfl, fun item listed => ?_⟩
    exact ⟨.str "BUSINESS_RULE", List.mem_singleton.1 listed⟩
  modes := by
    have known : ∀ rule ∈ ruleEntries disjointContract,
        ∃ mode ∈ visitModes, (modeOf rule).eqStr mode = true := by decide
    intro rule member
    have ⟨mode, listed, same⟩ := known rule member
    exact ⟨mode, listed, Value.eqStr_iff.1 same⟩
  selected := by
    intro rule event visit h
    have member : rule ∈ ruleEntries disjointContract := by
      have only := List.mem_singleton_self rule
      rw [← h.only] at only
      exact (List.mem_filter.1 (List.mem_filter.1 only).1).1
    have keeps : ∀ rule ∈ ruleEntries disjointContract,
        ((modeOf rule).eqStr "CREATE" || (modeOf rule).eqStr "TRANSITION") = false := by decide
    have plain : ∀ rule ∈ ruleEntries disjointContract, rule.find "effects" = none := by decide
    have guarded : ∀ rule ∈ ruleEntries disjointContract,
        ∀ ref ∈ strings (rule.get "guard_refs"), ref ∈ guardIds disjointContract := by decide
    refine ⟨⟨_, rfl⟩, fun _ => ?_, fun _ => ⟨[], ?_⟩, fun _ _ => guarded rule member⟩
    · unfold visitAfter
      rw [keeps rule member, if_neg Bool.false_ne_true]
      split
      · exact Option.some_ne_none visit
      · exact Option.some_ne_none none
    · unfold Dict.getD
      rw [plain rule member]
      rfl

set_option maxRecDepth 10000 in
theorem executable_disjointContract : Executable disjointContract :=
  (executable_iff_serviceable disjointContract rfl).mpr serviceable_disjointContract

end WaterCare.Engine
