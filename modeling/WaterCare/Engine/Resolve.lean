import WaterCare.Contract.Reading
import WaterCare.Engine.StateMachine

/-!
`resolve` over an accepted contract, in terms of the fields read from the
documents: which rule is selected, and what can still go wrong in it.
-/

namespace WaterCare.Engine
open Py Contract

section Lookups
variable {α : Type}

theorem assign_new {β : Type} {entries : List (Atom × β)} {code : String} {value : β}
    (h : ∀ e ∈ entries, e.1 ≠ .str code) :
    assign entries (.str code) value = entries ++ [(.str code, value)] := by
  rw [assign, if_neg]
  intro known
  obtain ⟨e, he, same⟩ := List.any_eq_true.mp known
  exact h e he (Atom.eq_str_iff.mp same)

private theorem dictOf_from {β : Type} {pair : Value → Except Exn (Atom × β)}
    {item : α → Value} {code : α → String} {f : α → β}
    (pair_eq : ∀ a, pair (item a) = .ok (.str (code a), f a)) (views done : List α)
    (distinct : ((done ++ views).map code).Nodup) :
    dictOf pair (views.map item) (done.map fun a => (.str (code a), f a)) =
      .ok ((done ++ views).map fun a => (.str (code a), f a)) := by
  induction views generalizing done with
  | nil => rw [List.append_nil]; rfl
  | cons a as ih =>
      have fresh : ∀ e ∈ done.map fun a => ((.str (code a), f a) : Atom × β),
          e.1 ≠ .str (code a) := by
        intro e he
        obtain ⟨d, hd, rfl⟩ := List.mem_map.mp he
        intro same
        rw [List.map_append, List.nodup_append] at distinct
        exact distinct.2.2 _ (List.mem_map_of_mem hd) (code a) (by simp) (by simpa using same)
      have rest := ih (done ++ [a]) (by simpa using distinct)
      simp only [List.map_append, List.map_cons, List.map_nil, List.append_assoc,
        List.singleton_append] at rest ⊢
      rw [← rest, dictOf, pair_eq]
      change dictOf pair _ (assign _ (.str (code a)) _) = _
      rw [assign_new fresh]

/-- A dict comprehension over entries with distinct codes keeps them all, in order. -/
theorem dictOf_views {β : Type} {pair : Value → Except Exn (Atom × β)}
    {item : α → Value} {code : α → String} {f : α → β}
    (pair_eq : ∀ a, pair (item a) = .ok (.str (code a), f a)) {views : List α}
    (distinct : (views.map code).Nodup) :
    dictOf pair (views.map item) [] = .ok (views.map fun a => (.str (code a), f a)) :=
  dictOf_from pair_eq views [] distinct

theorem keyedBy_views {key : String} {entry : α → Dict} {code : α → String}
    (code_eq : ∀ a, (entry a).find key = some (.str (code a))) {views : List α}
    (distinct : (views.map code).Nodup) :
    keyedBy key (views.map fun a => .dict (entry a)) =
      .ok (views.map fun a => (.str (code a), .dict (entry a))) := by
  refine dictOf_views (fun a => ?_) distinct
  have item : (Value.dict (entry a)).item key = .ok (.str (code a)) :=
    Dict.item_eq_ok_iff.mpr (code_eq a)
  rw [item]
  rfl

theorem lookup_views {β : Type} (code : α → String) (f : α → β) (views : List α) (c : String) :
    lookup (views.map fun a => (.str (code a), f a)) (.str c) =
      (views.find? fun a => decide (code a = c)).map f := by
  rw [lookup, List.find?_map, Option.map_map]
  have same : ((fun e : Atom × β => e.1.eq (.str c)) ∘ fun a => (Atom.str (code a), f a)) =
      fun a => decide (code a = c) := by
    funext a
    exact Atom.eq_str _ _
  rw [same]
  rfl

theorem frozenset_strings (xs : List String) :
    frozenset (.list (xs.map .str)) = .ok (xs.map .str) := by
  change (xs.map Value.str).mapM Value.hashed = _
  induction xs with
  | nil => rfl
  | cons x xs ih =>
      rw [List.map_cons, List.mapM_cons, ih]
      rfl

theorem allowedVisits_views {states : List StateEntry} (distinct : (states.map (·.code)).Nodup) :
    allowedVisits (states.map fun s => .dict s.entry) =
      .ok (states.map fun s => (.str s.code, s.allowed.map .str)) := by
  refine dictOf_views (fun s => ?_) distinct
  have code : (Value.dict s.entry).item "code" = .ok (.str s.code) :=
    Dict.item_eq_ok_iff.mpr s.code_eq
  have allowed : (Value.dict s.entry).item "allowed_visit_statuses" =
      .ok (.list (s.allowed.map .str)) := Dict.item_eq_ok_iff.mpr s.allowed_eq
  rw [code, allowed]
  change (do
    let allowed ← frozenset (.list (s.allowed.map .str))
    pure (Atom.str s.code, allowed)) = _
  rw [frozenset_strings]
  rfl

end Lookups

section Accepted
variable {documents : Value} (A : Accepted documents)

theorem documents_item {name : String} {d : Dict} (h : A.root.find name = some (.dict d)) :
    documents.item name = .ok (.dict d) := by
  rw [A.root_eq, Value.item_dict]
  exact Dict.item_eq_ok_iff.mpr h

/-- `transitions.get("defaults", {})`. -/
def defaultsOf (documents : Value) : Value :=
  (docSection documents "transitions").getD "defaults" (.dict [])

/-- The machine an accepted contract builds. -/
def machineOf : StateMachine where
  events := A.events.events.map fun e => (.str e.code, .dict e.entry)
  transitions := A.transitions.rules.map fun r => .dict r.entry
  terminalStates := A.states.terminal.map .str
  allowedVisitStatuses := A.states.states.map fun s => (.str s.code, s.allowed.map .str)
  defaults := defaultsOf documents

theorem init_eq : StateMachine.init documents = .ok (machineOf A) := by
  have events : (Value.dict A.eventsDoc).item "events" = .ok _ :=
    Dict.item_eq_ok_iff.mpr A.events.events_eq
  have rules : (Value.dict A.transitionsDoc).item "transitions" = .ok _ :=
    Dict.item_eq_ok_iff.mpr A.transitions.rules_eq
  have states : (Value.dict A.statesDoc).item "states" = .ok _ :=
    Dict.item_eq_ok_iff.mpr A.states.states_eq
  have terminal : (Value.dict A.statesDoc).item "terminal_states" = .ok _ :=
    Dict.item_eq_ok_iff.mpr A.states.terminal_eq
  have keyed := keyedBy_views EventEntry.code_eq A.events.codes_nodup
  have allowed := allowedVisits_views A.states.codes_nodup
  simp only [StateMachine.init, documents_item A A.events_eq, documents_item A A.transitions_eq,
    documents_item A A.states_eq, events, rules, states, terminal, keyed, allowed,
    frozenset_strings, Value.iter_list, Value.getOr, bind, Except.bind, pure, Except.pure]
  rw [machineOf, defaultsOf, A.docSection_eq A.transitions_eq]

/-! ### Selecting the rule -/

theorem filterRules_views {α : Type} {test : Value → Except Exn Bool} {item : α → Value}
    {keep : α → Bool} (test_eq : ∀ a, test (item a) = .ok (keep a)) (views : List α) :
    StateMachine.filterRules test (views.map item) = .ok ((views.filter keep).map item) := by
  induction views with
  | nil => rfl
  | cons a as ih =>
      rw [List.map_cons, StateMachine.filterRules, test_eq, ih]
      cases hk : keep a <;> simp [hk, bind, Except.bind, pure, Except.pure]

theorem visitMatches_eq (r : Rule) (visit : Option String) :
    StateMachine.visitMatches (.dict r.visit) visit = .ok (r.condition.covers visit) := by
  have mode : (Value.dict r.visit).getOr "mode" .none = .ok (.str r.mode) :=
    congrArg Except.ok (Dict.getD_of_find r.mode_eq)
  have status {key : String} {s : Option String} (h : r.visit.get key = .ofOption s) :
      (do pure ((Value.ofOption visit).eq (← (Value.dict r.visit).getOr key .none))) =
        (Except.ok (decide (visit = s)) : Except Exn Bool) := by
    change Except.ok ((Value.ofOption visit).eq (r.visit.get key)) = _
    rw [h]
    simp [Value.ofOption, Value.eq]
  unfold StateMachine.visitMatches
  rw [mode]
  simp only [bind, Except.bind, Value.hashed_str, Atom.str.injEq, pure, Except.pure] at status ⊢
  unfold Rule.condition
  split_ifs <;> simp only [VisitCondition.covers]
  · exact status r.required_eq
  · exact status r.fromStatus_eq

theorem listsEvent_eq (r : Rule) (event : String) (state : Option String) :
    StateMachine.listsEvent event state (.dict r.entry) =
      .ok (decide (r.event = event) && decide (r.fromState = state)) := by
  have event_item : (Value.dict r.entry).item "event" = .ok (.str r.event) :=
    Dict.item_eq_ok_iff.mpr r.event_eq
  have from_item : (Value.dict r.entry).getOr "from_inquiry_state" .none =
      .ok (.ofOption r.fromState) := congrArg Except.ok (Dict.getD_of_find r.fromState_eq)
  rw [StateMachine.listsEvent, event_item, from_item]
  by_cases same : r.event = event <;>
    simp [bind, Except.bind, pure, Except.pure, Value.eqStr_iff, same, Value.ofOption, Value.eq]

/-- The rules of a contract for one state and event, as views. -/
def listedRules (rules : List Rule) (state : Option String) (event : String) : List Rule :=
  rules.filter fun r => decide (r.event = event) && decide (r.fromState = state)

def matchingRules (rules : List Rule) (state : Option String) (event : String)
    (visit : Option String) : List Rule :=
  (listedRules rules state event).filter fun r => r.condition.covers visit

theorem mem_matchingRules {rules : List Rule} {state : Option String} {event : String}
    {visit : Option String} {r : Rule} :
    r ∈ matchingRules rules state event visit ↔
      r ∈ rules ∧ r.event = event ∧ r.fromState = state ∧ r.condition.covers visit = true := by
  simp only [matchingRules, listedRules, List.mem_filter, Bool.and_eq_true, decide_eq_true_eq,
    and_assoc]

theorem listed_eq (state : Option String) (event : String) :
    listed documents state event =
      (listedRules A.transitions.rules state event).map (·.entry) := by
  rw [listed, A.ruleEntries_eq, List.filter_map, listedRules]
  congr 2
  funext r
  exact r.listed_test state event

theorem matching_eq (state : Option String) (event : String) (visit : Option String) :
    matching documents state event visit =
      (matchingRules A.transitions.rules state event visit).map (·.entry) := by
  rw [matching, listed_eq A, List.filter_map, matchingRules]
  congr 2
  funext r
  exact congrArg (VisitCondition.covers · visit) r.conditionOf_eq

theorem stateCandidates_eq (snapshot : WorkflowSnapshot) (event : String) :
    (machineOf A).stateCandidates snapshot event =
      .ok ((listedRules A.transitions.rules snapshot.inquiryState event).map
        fun r => .dict r.entry) :=
  filterRules_views (fun r => listsEvent_eq r event snapshot.inquiryState) A.transitions.rules

theorem candidates_eq (snapshot : WorkflowSnapshot) (rules : List Rule) :
    StateMachine.candidates snapshot (rules.map fun r => .dict r.entry) =
      .ok ((rules.filter fun r => r.condition.covers snapshot.visitStatus).map
        fun r => .dict r.entry) := by
  refine filterRules_views (fun r => ?_) rules
  have visit : (Value.dict r.entry).getOr "visit" (.dict []) = .ok (.dict r.visit) :=
    congrArg Except.ok (Dict.getD_of_find r.visit_eq)
  rw [visit]
  exact visitMatches_eq r snapshot.visitStatus

theorem event_eq (code : String) :
    (machineOf A).event code =
      match A.events.events.find? fun e => decide (e.code = code) with
      | some e => .ok (.dict e.entry)
      | none => .error (.invalid .unknownEvent) := by
  rw [StateMachine.event, machineOf]
  simp only [lookup_views]
  cases A.events.events.find? fun e => decide (e.code = code) <;> rfl

theorem event_registered {code : String} (h : code ∈ eventCodes documents) :
    ∃ e ∈ A.events.events, e.code = code ∧ (machineOf A).event code = .ok (.dict e.entry) := by
  rw [A.eventCodes_eq] at h
  obtain ⟨e, he, same⟩ := List.mem_map.mp h
  have some_found : (A.events.events.find? fun e => decide (e.code = code)).isSome := by
    rw [List.find?_isSome]
    exact ⟨e, he, by simpa using same⟩
  obtain ⟨f, hf⟩ := Option.isSome_iff_exists.mp some_found
  refine ⟨f, List.mem_of_find?_eq_some hf, by simpa using List.find?_some hf, ?_⟩
  rw [event_eq, hf]

theorem event_unregistered {code : String} (h : code ∉ eventCodes documents) :
    (machineOf A).event code = .error (.invalid .unknownEvent) := by
  rw [A.eventCodes_eq] at h
  have absent : A.events.events.find? (fun e => decide (e.code = code)) = none := by
    rw [List.find?_eq_none]
    intro e he same
    exact h (List.mem_map.mpr ⟨e, he, by simpa using same⟩)
  rw [event_eq, absent]

/-- The check `resolve` makes on a state code and a visit status. -/
theorem ensureVisitStatusAllowed_eq (state visit : Option String) :
    (machineOf A).ensureVisitStatusAllowed (.ofOption state) (.ofOption visit) =
      if admits documents state visit then .ok ()
      else .error (.invalid .visitStatusNotAllowed) := by
  cases state with
  | none => rfl
  | some s =>
      cases visit with
      | none => rfl
      | some v =>
          simp only [admits, A.allowedStatuses_eq]
          unfold StateMachine.ensureVisitStatusAllowed
          have hashed : py (Value.ofOption (some s)).hashed = pure (.str s) := rfl
          have named (x : String) : (Value.ofOption (some x)).isNone = false := rfl
          have views : (machineOf A).allowedVisitStatuses =
            A.states.states.map fun s => (Atom.str s.code, s.allowed.map Atom.str) := rfl
          simp only [hashed, named, views, lookup_views, pure_bind, Bool.or_self,
            Bool.false_eq_true, if_false]
          cases A.states.states.find? fun e => decide (e.code = s) with
          | none => rfl
          | some e =>
              change (if (e.allowed.map Atom.str).any (fun a => a.eq (.str v)) then _ else _) = _
              have same : (e.allowed.map Atom.str).any (fun a => a.eq (.str v)) =
                  e.allowed.contains v := by
                rw [List.any_map, Bool.eq_iff_iff, List.any_eq_true, List.contains_iff_mem]
                simp
              rw [same]
              rfl

theorem terminal_eq (state : Option String) :
    ((machineOf A).terminalStates.any fun a => a.eq (.ofOption state)) =
      decide (∃ s ∈ terminalStates documents, state = some s) := by
  rw [A.terminalStates_eq]
  simp only [machineOf, List.any_map, Function.comp_def]
  rw [Bool.eq_iff_iff, List.any_eq_true, decide_eq_true_iff]
  cases state <;> simp [eq_comm]

/-- `resolve` on an accepted contract: which check rejects, or which rule applies. -/
theorem resolve_eq (snapshot : WorkflowSnapshot) (code : String) :
    (machineOf A).resolve snapshot code =
      if code ∉ eventCodes documents then .error (.invalid .unknownEvent)
      else if ∃ s ∈ terminalStates documents, snapshot.inquiryState = some s then
        .error (.invalid .terminalState)
      else if admits documents snapshot.inquiryState snapshot.visitStatus = false then
        .error (.invalid .visitStatusNotAllowed)
      else
        match matching documents snapshot.inquiryState code snapshot.visitStatus with
        | [] => .error (.invalid (if (listed documents snapshot.inquiryState code).isEmpty then
            .unlistedTransition else .visitStateMismatch))
        | [rule] => (machineOf A).apply snapshot code (.dict rule)
        | _ :: _ :: _ => .error (.invalid .ambiguousTransition) := by
  unfold StateMachine.resolve
  by_cases registered : code ∈ eventCodes documents
  · obtain ⟨e, _, _, event⟩ := event_registered A registered
    rw [event, if_neg (not_not.mpr registered)]
    by_cases terminal : ∃ s ∈ terminalStates documents, snapshot.inquiryState = some s
    · rw [if_pos terminal, terminal_eq, decide_eq_true terminal]
      rfl
    · rw [if_neg terminal, terminal_eq, decide_eq_false terminal, ensureVisitStatusAllowed_eq]
      cases admitted : admits documents snapshot.inquiryState snapshot.visitStatus with
      | false => rfl
      | true =>
          rw [matching_eq A, listed_eq A]
          simp only [stateCandidates_eq, candidates_eq, py, matchingRules, bind, Except.bind,
            Except.mapError, if_true, Bool.true_eq_false, if_false,
            Bool.false_eq_true, List.isEmpty_map]
          cases (listedRules A.transitions.rules snapshot.inquiryState code).filter
              fun r => r.condition.covers snapshot.visitStatus with
          | nil => rfl
          | cons r rest => cases rest <;> rfl
  · rw [event_unregistered A registered, if_pos registered]
    rfl

/-! ### Applying the rule -/

/-- The visit status after a rule; `none` when the mode reads a missing `to_status`. -/
def nextVisit (r : Rule) (visit : Option String) : Option (Option String) :=
  if r.mode = "CREATE" ∨ r.mode = "TRANSITION" then r.toStatus
  else if r.mode = "PRESERVE" ∨ r.mode = "PRESERVE_REQUIRE_STATUS" then some visit
  else some none

theorem nextVisitStatus_eq (r : Rule) {visit : Option String}
    (covered : r.condition.covers visit = true) :
    StateMachine.nextVisitStatus (.dict r.visit) visit =
      match nextVisit r visit with
      | some next => .ok (.ofOption next)
      | none => .error (.python (.keyError "to_status")) := by
  have mode : (Value.dict r.visit).item "mode" = .ok (.str r.mode) :=
    Dict.item_eq_ok_iff.mpr r.mode_eq
  have toStatus : py ((Value.dict r.visit).item "to_status") =
      match r.toStatus with
      | some next => (.ok (.ofOption next) : Call Value)
      | none => .error (.python (.keyError "to_status")) := by
    rw [Value.item_dict, Dict.item, r.toStatus_eq]
    cases r.toStatus <;> rfl
  have known : r.mode = "REQUIRE_ABSENT" ∨ r.mode = "CREATE" ∨ r.mode = "PRESERVE" ∨
      r.mode = "PRESERVE_REQUIRE_STATUS" ∨ r.mode = "TRANSITION" := by
    unfold Rule.condition at covered
    split_ifs at covered with h1 h2 h3 h4
    · exact h1.elim .inl fun h => .inr (.inl h)
    · exact .inr (.inr (.inl h2))
    · exact .inr (.inr (.inr (.inl h3)))
    · exact .inr (.inr (.inr (.inr h4)))
    · cases covered
  unfold StateMachine.nextVisitStatus nextVisit
  rw [mode]
  rcases known with h | h | h | h | h <;> rw [h] <;> first | exact toStatus | rfl

/-- The transition `resolve` returns for a rule. -/
def transitionOf (defaults : Dict) (snapshot : WorkflowSnapshot) (code : String) (r : Rule)
    (version : Nat) (visit : Option String) (effects : List Value) : Transition where
  ruleId := .str r.id
  eventCode := code
  inquiryStateBefore := snapshot.inquiryState
  inquiryStateAfter := .str r.toState
  visitMode := .str r.mode
  visitStatusBefore := snapshot.visitStatus
  visitStatusAfter := .ofOption visit
  stateVersionBefore := snapshot.stateVersion
  stateVersionAfter := version
  versionAction := r.entry.getD "version_action" (defaults.get "version_action")
  guardRefs := r.guardRefs.map .str
  effects := effects
  recordInquiryStateHistory := (r.history.get "record_inquiry_state_history").truthy
  recordVisitStateHistory := (r.history.get "record_visit_state_history").truthy
  recordBusinessEvent := (r.history.getD "record_business_event"
    (defaults.getD "record_business_event" (.bool false))).truthy

/-- What `resolve` does with its only candidate, step by step. -/
theorem apply_eq (snapshot : WorkflowSnapshot) (code : String) (r : Rule)
    (covered : r.condition.covers snapshot.visitStatus = true) :
    (machineOf A).apply snapshot code (.dict r.entry) =
      match (defaultsOf documents).asDict? with
      | none => .error (.python .attributeError)
      | some defaults =>
          match StateMachine.nextVersion snapshot
            (r.entry.getD "version_action" (defaults.get "version_action")) with
          | .error e => .error e
          | .ok version =>
              match nextVisit r snapshot.visitStatus with
              | none => .error (.python (.keyError "to_status"))
              | some visit =>
                  if admits documents (some r.toState) visit then
                    match (r.entry.getD "effects" (.list [])).iter with
                    | .error e => .error (.python e)
                    | .ok effects =>
                        .ok (transitionOf defaults snapshot code r version visit effects)
                  else .error (.invalid .visitStatusNotAllowed) := by
  have visit : (Value.dict r.entry).getOr "visit" (.dict []) = .ok (.dict r.visit) :=
    congrArg Except.ok (Dict.getD_of_find r.visit_eq)
  have history : (Value.dict r.entry).getOr "history" (.dict []) = .ok (.dict r.history) :=
    congrArg Except.ok (Dict.getD_of_find r.history_eq)
  have toState : (Value.dict r.entry).item "to_inquiry_state" = .ok (.str r.toState) :=
    Dict.item_eq_ok_iff.mpr r.toState_eq
  have id : (Value.dict r.entry).item "id" = .ok (.str r.id) :=
    Dict.item_eq_ok_iff.mpr r.id_eq
  have mode : (Value.dict r.visit).item "mode" = .ok (.str r.mode) :=
    Dict.item_eq_ok_iff.mpr r.mode_eq
  have refs : (Value.dict r.entry).getOr "guard_refs" (.list []) =
      .ok (.list (r.guardRefs.map .str)) := congrArg Except.ok (Dict.getD_of_find r.guardRefs_eq)
  have target (v : Option String) : (machineOf A).ensureVisitStatusAllowed (.str r.toState)
      (.ofOption v) = _ := ensureVisitStatusAllowed_eq A (some r.toState) v
  have defaults_eq : (machineOf A).defaults = defaultsOf documents := rfl
  simp only [StateMachine.apply, visit, history, toState, id, mode, refs, defaults_eq,
    nextVisitStatus_eq r covered, py, bind, Except.bind, Except.mapError, Value.iter_list]
  cases defaultsOf documents with
  | atom _ | list _ => rfl
  | dict defaults =>
      simp only [Value.asDict?, Value.getOr, Value.getD_none]
      cases StateMachine.nextVersion snapshot
          (r.entry.getD "version_action" (Dict.get defaults "version_action")) with
      | error e => rfl
      | ok version =>
          simp only
          cases nextVisit r snapshot.visitStatus with
          | none => rfl
          | some next =>
              simp only [target]
              split_ifs with admitted
              · cases (r.entry.getD "effects" (.list [])).iter <;> rfl
              · rfl

end Accepted
end WaterCare.Engine
