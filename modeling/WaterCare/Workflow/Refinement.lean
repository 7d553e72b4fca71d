import WaterCare.Workflow.Contract

/-!
The engine over the documents of a contract computes the contract's plan: a
snapshot, an event and their codes give the same result on both levels.
-/

namespace WaterCare.Workflow
open Py Engine Contract

theorem InquiryState.code_nodup : (InquiryState.all.map InquiryState.code).Nodup := by decide

theorem VisitStatus.code_nodup : (VisitStatus.all.map VisitStatus.code).Nodup := by decide

theorem EventCode.code_nodup : (EventCode.all.map EventCode.code).Nodup := by decide +kernel

theorem GuardId.code_nodup : (GuardId.all.map GuardId.code).Nodup := by decide +kernel

theorem InquiryState.code_injective : Function.Injective InquiryState.code :=
  fun a b h => List.inj_on_of_nodup_map code_nodup (mem_all a) (mem_all b) h

theorem VisitStatus.code_injective : Function.Injective VisitStatus.code :=
  fun a b h => List.inj_on_of_nodup_map code_nodup (mem_all a) (mem_all b) h

theorem EventCode.code_injective : Function.Injective EventCode.code :=
  fun a b h => List.inj_on_of_nodup_map code_nodup (mem_all a) (mem_all b) h

theorem GuardId.code_injective : Function.Injective GuardId.code :=
  fun a b h => List.inj_on_of_nodup_map code_nodup (mem_all a) (mem_all b) h

theorem InquiryState.code_text (s : InquiryState) : hasText s.code = true := by
  cases s <;> rfl

theorem VisitStatus.code_text (s : VisitStatus) : hasText s.code = true := by
  cases s <;> rfl

theorem EventCode.code_text (e : EventCode) : hasText e.code = true := by
  cases e <;> rfl

theorem find_code {α : Type} {code : α → String} (injective : Function.Injective code)
    {all : List α} {a : α} (mem : a ∈ all) :
    all.find? (fun x => decide (code x = code a)) = some a := by
  have some_found : (all.find? fun x => decide (code x = code a)).isSome := by
    rw [List.find?_isSome]
    exact ⟨a, mem, by simp⟩
  obtain ⟨x, hx⟩ := Option.isSome_iff_exists.mp some_found
  have same : code x = code a := by simpa using List.find?_some hx
  rw [hx, injective same]

/-! ### Views of the documents -/

abbrev dictOfMapping (entries : List (String × Value)) : Dict :=
  entries.map fun e => (.str e.1, e.2)

def stateView (c : WorkflowContract) (s : InquiryState) : StateEntry where
  entry := dictOfMapping (c.stateDocument s)
  code := s.code
  allowed := (c.allowedVisitStatuses s).map VisitStatus.code
  code_eq := rfl
  allowed_eq := rfl

def eventView (c : WorkflowContract) (e : EventCode) : EventEntry where
  entry := dictOfMapping ((c.events e).document e)
  code := e.code
  actorRoles := (c.events e).actorRoles.map ActorRole.code
  code_eq := rfl
  roles_eq := rfl
  roles_ne := by simp [EventContract.actorRoles]

def guardView (c : WorkflowContract) (g : GuardId) : GuardEntry where
  entry := dictOfMapping ((c.guards g).document g)
  id := g.code
  category := (c.guards g).category.code
  failure := dictOfMapping [("http_status", .atom (.int (c.guards g).httpStatus)),
    ("error_code", .str (c.guards g).errorCode), ("message", .str (c.guards g).message)]
  httpStatus := (c.guards g).httpStatus
  errorCode := (c.guards g).errorCode
  message := (c.guards g).message
  id_eq := rfl
  category_eq := rfl
  failure_eq := rfl
  status_eq := rfl
  error_eq := rfl
  message_eq := rfl

namespace VisitRule

def mode : VisitRule → String
  | requireAbsent => "REQUIRE_ABSENT"
  | preserve => "PRESERVE"
  | preserveRequireStatus _ => "PRESERVE_REQUIRE_STATUS"
  | create _ => "CREATE"
  | transition _ _ => "TRANSITION"

def requiredStatus? : VisitRule → Option VisitStatus
  | preserveRequireStatus s => some s
  | _ => none

def fromStatus? : VisitRule → Option VisitStatus
  | transition s _ => some s
  | _ => none

def toStatus? : VisitRule → Option VisitStatus
  | create s | transition _ s => some s
  | _ => none

end VisitRule

def ruleView (r : TransitionRule) : Rule where
  entry := dictOfMapping r.document
  id := r.id
  event := r.event.code
  fromState := r.source.map InquiryState.code
  toState := r.target.code
  visit := dictOfMapping r.visit.document
  mode := r.visit.mode
  requiredStatus := r.visit.requiredStatus?.map VisitStatus.code
  fromStatus := r.visit.fromStatus?.map VisitStatus.code
  toStatus := r.visit.toStatus?.map fun s => some s.code
  guardRefs := r.guardRefs.map GuardId.code
  history := dictOfMapping
    [("record_inquiry_state_history", .bool r.recordInquiryStateHistory),
      ("record_visit_state_history", .bool r.recordVisitStateHistory),
      ("record_business_event", .bool r.recordBusinessEvent)]
  id_eq := rfl
  event_eq := rfl
  fromState_eq := rfl
  toState_eq := rfl
  visit_eq := rfl
  mode_eq := by cases r.visit <;> rfl
  required_eq := by cases r.visit <;> rfl
  fromStatus_eq := by cases r.visit <;> rfl
  toStatus_eq := by cases r.visit <;> rfl
  guardRefs_eq := rfl
  history_eq := rfl
  event_text := r.event.code_text
  from_text := by
    intro s h
    obtain ⟨t, _, rfl⟩ := Option.map_eq_some_iff.mp h
    exact t.code_text
  required_text := by
    intro s h
    obtain ⟨t, _, rfl⟩ := Option.map_eq_some_iff.mp h
    exact t.code_text
  fromStatus_text := by
    intro s h
    obtain ⟨t, _, rfl⟩ := Option.map_eq_some_iff.mp h
    exact t.code_text
  initial_iff := by
    rw [Option.map_eq_none_iff]
    unfold TransitionRule.document
    cases r.source with
    | none => exact iff_of_true rfl rfl
    | some s => exact iff_of_false (by intro h; cases h) (by intro h; cases h)

/-- Terminal states have no rules of their own. -/
def WorkflowContract.Open (c : WorkflowContract) : Prop :=
  ∀ r ∈ c.transitions, ∀ s, r.source = some s → s ∉ c.terminalStates

instance (c : WorkflowContract) : Decidable c.Open :=
  decidable_of_iff (∀ r ∈ c.transitions, r.source.all fun s => !c.terminalStates.contains s) <| by
    refine forall₂_congr fun r _ => ?_
    cases r.source <;> simp

/-- The documents of a contract, as the engine reads them. -/
def WorkflowContract.accepted (c : WorkflowContract) (isOpen : c.Open) :
    Accepted c.toDocuments where
  root := _
  statesDoc := _
  eventsDoc := _
  transitionsDoc := _
  guardsDoc := _
  root_eq := rfl
  states_eq := rfl
  events_eq := rfl
  transitions_eq := rfl
  guards_eq := rfl
  states := {
    states := InquiryState.all.map (stateView c)
    terminal := c.terminalStates.map InquiryState.code
    states_eq := by
      rw [List.map_map]
      rfl
    terminal_eq := rfl
    codes_nodup := by
      rw [List.map_map]
      exact InquiryState.code_nodup }
  events := {
    events := EventCode.all.map (eventView c)
    events_eq := by
      rw [List.map_map]
      rfl
    codes_nodup := by
      rw [List.map_map]
      exact EventCode.code_nodup }
  transitions := {
    rules := c.transitions.map ruleView
    rules_eq := by
      rw [List.map_map]
      rfl }
  guards := {
    guards := GuardId.all.map (guardView c)
    categories := c.guardCategories.map GuardCategory.code
    guards_eq := by
      rw [List.map_map]
      rfl
    categories_eq := rfl
    ids_nodup := by
      rw [List.map_map]
      exact GuardId.code_nodup }
  from_open := by
    intro v hv s hs listed
    obtain ⟨r, hr, rfl⟩ := List.mem_map.mp hv
    obtain ⟨t, source, rfl⟩ := Option.map_eq_some_iff.mp hs
    obtain ⟨t', terminal, same⟩ := List.mem_map.mp listed
    exact isOpen r hr t source (InquiryState.code_injective same ▸ terminal)

/-! ### One step on both levels -/

/-- The raw snapshot of a snapshot over the codes. -/
structure Encodes (s : Snapshot) (raw : WorkflowSnapshot) : Prop where
  state : raw.inquiryState = s.inquiryState.map InquiryState.code
  version : raw.stateVersion = s.inquiry.map (·.2)
  visit : raw.visitStatus = s.visitStatus.map VisitStatus.code

section
variable (c : WorkflowContract) (isOpen : c.Open)

include isOpen

theorem admits_code (state : Option InquiryState) (visit : Option VisitStatus) :
    Contract.admits c.toDocuments (state.map InquiryState.code) (visit.map VisitStatus.code) =
      c.admits state visit := by
  cases state with
  | none => rfl
  | some s =>
      cases visit with
      | none => rfl
      | some v =>
          have found : InquiryState.all.find? ((fun x : StateEntry => decide (x.code = s.code)) ∘
              stateView c) = some s := find_code InquiryState.code_injective s.mem_all
          simp only [Option.map_some, Contract.admits, WorkflowContract.admits]
          rw [(c.accepted isOpen).allowedStatuses_eq]
          change ((((InquiryState.all.map (stateView c)).find?
            fun x => decide (x.code = s.code)).map (·.allowed)).getD []).contains v.code = _
          rw [List.find?_map, found]
          simp [stateView, VisitStatus.code_injective.eq_iff]

theorem terminal_code (state : Option InquiryState) :
    (∃ t ∈ Contract.terminalStates c.toDocuments, state.map InquiryState.code = some t) ↔
      ∃ t ∈ c.terminalStates, state = some t := by
  rw [(c.accepted isOpen).terminalStates_eq]
  change (∃ t ∈ c.terminalStates.map InquiryState.code, _) ↔ _
  cases state with
  | none => simp
  | some s => simp [InquiryState.code_injective.eq_iff]

theorem eventCodes_code : Contract.eventCodes c.toDocuments = EventCode.all.map EventCode.code := by
  rw [(c.accepted isOpen).eventCodes_eq]
  change (EventCode.all.map (eventView c)).map (·.code) = _
  rw [List.map_map]
  rfl

omit isOpen in
theorem matchesVisit_code (r : TransitionRule) (visit : Option VisitStatus) :
    (ruleView r).condition.covers (visit.map VisitStatus.code) = r.visit.matchesVisit visit := by
  have inj := VisitStatus.code_injective
  obtain ⟨_, _, _, _, rule, _, _, _, _, _⟩ := r
  cases rule <;> cases visit <;>
    simp [ruleView, Rule.condition, VisitRule.mode, VisitRule.matchesVisit, VisitCondition.covers,
      VisitRule.requiredStatus?, VisitRule.fromStatus?, inj.eq_iff]

omit isOpen in
theorem listed_code (state : Option InquiryState) (e : EventCode) :
    listedRules (c.transitions.map ruleView) (state.map InquiryState.code) e.code =
      (c.listed state e).map ruleView := by
  rw [listedRules, List.filter_map, WorkflowContract.listed]
  congr 2
  funext r
  have source : r.source.map InquiryState.code = state.map InquiryState.code ↔ r.source = state :=
    (Option.map_injective InquiryState.code_injective).eq_iff
  simp [ruleView, EventCode.code_injective.eq_iff, source]

omit isOpen in
theorem matching_code (state : Option InquiryState) (e : EventCode)
    (visit : Option VisitStatus) :
    matchingRules (c.transitions.map ruleView) (state.map InquiryState.code) e.code
        (visit.map VisitStatus.code) = (c.matching state e visit).map ruleView := by
  rw [matchingRules, listed_code, List.filter_map, WorkflowContract.matching]
  congr 2
  funext r
  exact matchesVisit_code r visit

omit isOpen in
theorem nextVisit_code (r : TransitionRule) (visit : Option VisitStatus) :
    nextVisit (ruleView r) (visit.map VisitStatus.code) =
      some ((r.visit.nextVisitStatus visit).map VisitStatus.code) := by
  obtain ⟨_, _, _, _, rule, _, _, _, _, _⟩ := r
  cases rule <;> simp [ruleView, nextVisit, VisitRule.mode, VisitRule.nextVisitStatus,
    VisitRule.toStatus?]

/-- The contract's defaults. -/
def defaultsDocument : Dict :=
  dictOfMapping [("require_correlation_id", .bool true), ("record_business_event", .bool true),
    ("version_action", .str "INCREMENT")]

omit isOpen in
theorem nextVersion_code {r : TransitionRule} {s : Snapshot} {raw : WorkflowSnapshot}
    (encodes : Encodes s raw) (source : r.source = s.inquiryState) :
    StateMachine.nextVersion raw
        ((ruleView r).entry.getD "version_action" (defaultsDocument.get "version_action")) =
      .ok (WorkflowContract.nextVersion s) := by
  have state := encodes.state
  have version := encodes.version
  rw [← source] at state
  obtain ⟨_, _, from_, _, _, _, _, _, _, _⟩ := r
  obtain ⟨inquiry, visit⟩ := s
  cases inquiry with
  | none =>
      obtain rfl : from_ = none := source
      have action : (Value.str "INITIALIZE_1").eqStr "INITIALIZE_1" = true := rfl
      change StateMachine.nextVersion raw (.str "INITIALIZE_1") = _
      simp only [Option.map_none] at state version
      rw [StateMachine.nextVersion, action, state, version]
      rfl
  | some i =>
      obtain rfl : from_ = some i.1 := source
      have first : (Value.str "INCREMENT").eqStr "INITIALIZE_1" = false := rfl
      have second : (Value.str "INCREMENT").eqStr "INCREMENT" = true := rfl
      change StateMachine.nextVersion raw (.str "INCREMENT") = _
      rw [StateMachine.nextVersion, first, second, version]
      rfl

/-- The transition of the engine for a plan. -/
def Plan.transition (p : Plan) (raw : WorkflowSnapshot) (e : EventCode) : Transition :=
  transitionOf defaultsDocument raw e.code (ruleView p.rule) p.version
    (p.visitStatus.map VisitStatus.code) (p.rule.effects.map .str)

/-- `resolve` on the documents is `resolve` on the contract. -/
theorem resolve_refines {s : Snapshot} {raw : WorkflowSnapshot} (encodes : Encodes s raw)
    (e : EventCode) :
    (machineOf (c.accepted isOpen)).resolve raw e.code =
      match c.resolve s e with
      | .error reason => .error (.invalid reason)
      | .ok plan => .ok (plan.transition raw e) := by
  have registered : e.code ∈ Contract.eventCodes c.toDocuments := by
    rw [eventCodes_code c isOpen]
    exact List.mem_map_of_mem e.mem_all
  have rules : (c.accepted isOpen).transitions.rules = c.transitions.map ruleView := rfl
  have defaults : (defaultsOf c.toDocuments).asDict? = some defaultsDocument := rfl
  have iterable (r : TransitionRule) : ((ruleView r).entry.getD "effects" (.list [])).iter =
      .ok (r.effects.map .str) := rfl
  have target (r : TransitionRule) (visit : Option VisitStatus) :=
    admits_code c isOpen (some r.target) visit
  rw [resolve_eq, if_neg (not_not.mpr registered), encodes.state, encodes.visit,
    WorkflowContract.resolve, listed_eq (c.accepted isOpen), matching_eq (c.accepted isOpen), rules,
    listed_code, matching_code]
  simp only [terminal_code c isOpen, admits_code c isOpen]
  by_cases terminal : ∃ t ∈ c.terminalStates, s.inquiryState = some t
  · rw [if_pos terminal, if_pos terminal]
  by_cases admitted : c.admits s.inquiryState s.visitStatus = false
  · rw [if_neg terminal, if_neg terminal, if_pos admitted, if_pos admitted]
  · rw [if_neg terminal, if_neg terminal, if_neg admitted, if_neg admitted]
    cases found : c.matching s.inquiryState e s.visitStatus with
    | nil => simp
    | cons r rest =>
        cases rest with
        | cons q more => rfl
        | nil =>
            have member : r ∈ c.matching s.inquiryState e s.visitStatus := by
              rw [found]
              exact List.mem_singleton_self r
            simp only [WorkflowContract.matching, WorkflowContract.listed, List.mem_filter,
              Bool.and_eq_true, decide_eq_true_eq] at member
            obtain ⟨⟨_, _, source⟩, covered⟩ := member
            have covered : (ruleView r).condition.covers raw.visitStatus = true := by
              rw [encodes.visit, matchesVisit_code]
              exact covered
            have applied := apply_eq (c.accepted isOpen) raw e.code (ruleView r) covered
            rw [defaults] at applied
            simp only [nextVersion_code encodes source, encodes.visit, nextVisit_code,
              iterable] at applied
            simp only [List.map_cons, List.map_nil, applied]
            change (if Contract.admits c.toDocuments ((some r.target).map InquiryState.code) _ = true
              then _ else _) = _
            rw [target]
            split_ifs <;> rfl

end
end WaterCare.Workflow
