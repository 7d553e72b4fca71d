import WaterCare.Engine.Resolve

/-!
When an accepted contract leaves `resolve` no choice. The validator compares
visit mappings as data; two rules of one state and event are ambiguous as soon
as some admitted visit status matches both of them.
-/

namespace WaterCare.Contract
open Py

/-- Two rules that one snapshot and one registered event can both match. -/
def Clash (documents : Value) (r q : Dict) : Bool :=
  (eventCodes documents).any (fun c => (r.get "event").eqStr c && (q.get "event").eqStr c) &&
  (r.get "from_inquiry_state").eq (q.get "from_inquiry_state") &&
  (conditionOf r).overlaps (admits documents (r.get "from_inquiry_state").asStr?) (conditionOf q)

/-- No two rules of the contract clash. -/
def Unambiguous (documents : Value) : Prop :=
  (ruleEntries documents).Pairwise fun r q => Clash documents r q = false

instance (documents : Value) : Decidable (Unambiguous documents) :=
  inferInstanceAs (Decidable (List.Pairwise _ _))

theorem asStr?_ofOption (s : Option String) : (Value.ofOption s).asStr? = s := by
  cases s <;> rfl

/-- The clash of two rules of an accepted contract, as a snapshot and an event. -/
theorem clash_iff {documents : Value} (r q : Rule) :
    Clash documents r.entry q.entry = true ↔
      r.event ∈ eventCodes documents ∧ r.event = q.event ∧ r.fromState = q.fromState ∧
      ∃ visit, admits documents r.fromState visit = true ∧
        r.condition.covers visit = true ∧ q.condition.covers visit = true := by
  have none_admitted : admits documents r.fromState none = true := by
    cases r.fromState <;> rfl
  simp only [Clash, Dict.get_of_find r.event_eq, Dict.get_of_find q.event_eq,
    Dict.get_of_find r.fromState_eq, Dict.get_of_find q.fromState_eq, r.conditionOf_eq,
    q.conditionOf_eq, asStr?_ofOption, Bool.and_eq_true, List.any_eq_true, Value.eqStr_iff,
    Value.str_inj, VisitCondition.overlaps_iff none_admitted, and_assoc]
  constructor
  · rintro ⟨⟨c, registered, hr, hq⟩, same, overlap⟩
    exact ⟨hr ▸ registered, hr.trans hq.symm, by simpa [Value.ofOption, Value.eq] using same, overlap⟩
  · rintro ⟨registered, event, state, overlap⟩
    exact ⟨⟨r.event, registered, rfl, event.symm⟩, by simp [state, Value.ofOption, Value.eq],
      overlap⟩

theorem Rule.condition_text (r : Rule) {v : Option String} (h : r.condition = .exactly v) :
    ∀ s, v = some s → hasText s = true := by
  unfold Rule.condition at h
  split_ifs at h <;> cases h
  · exact r.required_text
  · exact r.fromStatus_text

/-- A covered visit can be replaced by one a snapshot may carry. -/
theorem covered_text {documents : Value} (r q : Rule) {visit : Option String}
    (admitted : admits documents r.fromState visit = true)
    (hr : r.condition.covers visit = true) (hq : q.condition.covers visit = true) :
    ∃ v, admits documents r.fromState v = true ∧ r.condition.covers v = true ∧
      q.condition.covers v = true ∧ ∀ s, v = some s → hasText s = true := by
  have none_admitted : admits documents r.fromState none = true := by
    cases r.fromState <;> rfl
  cases hcr : r.condition with
  | exactly v =>
      obtain rfl : visit = v := by simpa [hcr, VisitCondition.covers] using hr
      exact ⟨visit, admitted, by rwa [hcr] at hr, hq, r.condition_text hcr⟩
  | never => simp [hcr, VisitCondition.covers] at hr
  | any | absent =>
      cases hcq : q.condition with
      | exactly v =>
          obtain rfl : visit = v := by simpa [hcq, VisitCondition.covers] using hq
          exact ⟨visit, admitted, by rwa [hcr] at hr, by rwa [hcq] at hq, q.condition_text hcq⟩
      | never => simp [hcq, VisitCondition.covers] at hq
      | any | absent => exact ⟨none, none_admitted, rfl, rfl, by simp⟩

end WaterCare.Contract

namespace WaterCare.Engine
open Py Contract

/-- A list filters to at most one item when no two of its items pass. -/
theorem filter_short_iff {α : Type} (p : α → Bool) (l : List α) :
    (l.filter p).length ≤ 1 ↔ l.Pairwise fun a b => p a = true → p b = true → False := by
  rw [← List.pairwise_filter]
  match l.filter p with
  | [] => simp
  | [a] => simp
  | a :: b :: rest =>
      refine iff_of_false (by simp) ?_
      intro pairwise
      exact (List.pairwise_cons.mp pairwise).1 b List.mem_cons_self

/-- `resolve` of the built machine never reports an ambiguous transition. -/
def NeverAmbiguous (documents : Value) : Prop :=
  ∀ m, StateMachine.init documents = .ok m → ∀ snapshot code,
    m.resolve snapshot code ≠ .error (.invalid .ambiguousTransition)

section
variable {documents : Value} (A : Accepted documents)

theorem nextVersion_not_ambiguous (snapshot : WorkflowSnapshot) (action : Value) :
    StateMachine.nextVersion snapshot action ≠ .error (.invalid .ambiguousTransition) := by
  unfold StateMachine.nextVersion
  split_ifs
  · simp
  · simp
  · cases snapshot.stateVersion <;> simp
  · simp

theorem apply_not_ambiguous {snapshot : WorkflowSnapshot} (code : String) {r : Rule}
    (covered : r.condition.covers snapshot.visitStatus = true) :
    (machineOf A).apply snapshot code (.dict r.entry) ≠
      .error (.invalid .ambiguousTransition) := by
  rw [apply_eq A snapshot code r covered]
  split
  · simp
  · rename_i defaults _
    split
    · rename_i e raised
      intro same
      cases same
      exact nextVersion_not_ambiguous _ _ raised
    · split
      · simp
      · split_ifs
        · split <;> simp
        · simp

/-- `resolve` finds two rules when the event is registered, the state is open,
the visit is admitted and two rules match. -/
theorem resolve_ambiguous_iff (snapshot : WorkflowSnapshot) (code : String) :
    (machineOf A).resolve snapshot code = .error (.invalid .ambiguousTransition) ↔
      code ∈ eventCodes documents ∧
      (¬ ∃ s ∈ terminalStates documents, snapshot.inquiryState = some s) ∧
      admits documents snapshot.inquiryState snapshot.visitStatus = true ∧
      1 < (matchingRules A.transitions.rules snapshot.inquiryState code
        snapshot.visitStatus).length := by
  rw [resolve_eq, matching_eq A]
  by_cases registered : code ∈ eventCodes documents
  swap
  · simp [registered]
  by_cases terminal : ∃ s ∈ terminalStates documents, snapshot.inquiryState = some s
  · rw [if_neg (not_not.mpr registered), if_pos terminal]
    exact iff_of_false (by simp) fun h => h.2.1 terminal
  rw [if_neg (not_not.mpr registered), if_neg terminal]
  cases admitted : admits documents snapshot.inquiryState snapshot.visitStatus with
  | false => simp
  | true =>
      rw [if_neg (by simp)]
      cases found : matchingRules A.transitions.rules snapshot.inquiryState code
          snapshot.visitStatus with
      | nil => simp; split <;> simp
      | cons r rest =>
          cases rest with
          | nil =>
              have member : r ∈ matchingRules A.transitions.rules snapshot.inquiryState code
                  snapshot.visitStatus := by rw [found]; exact List.mem_singleton_self r
              have single := apply_not_ambiguous A code (mem_matchingRules.mp member).2.2.2
              simpa using single
          | cons q more => simpa [registered] using terminal

/-- Two rules at different places match one admitted visit of their state. -/
theorem matching_short_iff :
    Unambiguous documents ↔
      ∀ state code visit, code ∈ eventCodes documents →
        admits documents state visit = true → (∀ s, visit = some s → hasText s = true) →
        (matchingRules A.transitions.rules state code visit).length ≤ 1 := by
  have short (state : Option String) (code : String) (visit : Option String) :
      (matchingRules A.transitions.rules state code visit).length ≤ 1 ↔
        A.transitions.rules.Pairwise fun r q =>
          (r.event = code ∧ r.fromState = state ∧ r.condition.covers visit = true) →
          (q.event = code ∧ q.fromState = state ∧ q.condition.covers visit = true) → False := by
    rw [matchingRules, listedRules, List.filter_filter, filter_short_iff]
    simp only [Bool.and_eq_true, decide_eq_true_eq]
    constructor <;> intro h <;> refine h.imp ?_
    · rintro r q no ⟨he, hs, hc⟩ ⟨he', hs', hc'⟩
      exact no ⟨hc, he, hs⟩ ⟨hc', he', hs'⟩
    · rintro r q no ⟨hc, he, hs⟩ ⟨hc', he', hs'⟩
      exact no ⟨he, hs, hc⟩ ⟨he', hs', hc'⟩
  simp only [short]
  rw [Unambiguous, A.ruleEntries_eq, List.pairwise_map]
  constructor
  · intro clear state code visit registered admitted _
    refine clear.imp ?_
    rintro r q no ⟨rfl, rfl, hc⟩ ⟨event, state, hc'⟩
    have clash := (clash_iff r q).mpr ⟨registered, event.symm, state.symm, visit, admitted, hc, hc'⟩
    rw [no] at clash
    cases clash
  · intro clear
    rw [List.pairwise_iff_forall_sublist]
    intro r q pair
    by_contra clash
    rw [Bool.not_eq_false, clash_iff] at clash
    obtain ⟨registered, event, state, visit, admitted, hc, hc'⟩ := clash
    obtain ⟨v, admitted, hc, hc', text⟩ := covered_text r q admitted hc hc'
    have none_both := List.pairwise_iff_forall_sublist.mp
      (clear r.fromState r.event v registered admitted text) pair
    exact none_both ⟨rfl, rfl, hc⟩ ⟨event.symm, state.symm, hc'⟩

end

/-- A snapshot of a given state and visit, at version 1 when there is an inquiry. -/
def snapshotAt (state visit : Option String) (state_text : ∀ s, state = some s → hasText s = true)
    (visit_text : ∀ s, visit = some s → hasText s = true) : WorkflowSnapshot where
  inquiryState := state
  stateVersion := state.map fun _ => 1
  visitStatus := visit
  state_text := state_text
  version_absent := by rintro rfl; rfl
  version_present := by
    cases state with
    | none => exact fun h => absurd rfl h
    | some s => exact fun _ => ⟨1, rfl, Nat.le_refl 1⟩
  visit_text := visit_text

/-- An accepted contract is never ambiguous exactly when no two of its rules
for one registered event and state overlap in a visit status that state admits. -/
theorem neverAmbiguous_iff_unambiguous (documents : Value)
    (accepted : collectContractErrors documents = .ok []) :
    NeverAmbiguous documents ↔ Unambiguous documents := by
  obtain ⟨A⟩ := accepted_of_no_errors accepted
  rw [matching_short_iff A]
  constructor
  · intro never state code visit registered admitted text
    by_contra long
    rw [Nat.not_le] at long
    have member : ∃ r ∈ A.transitions.rules, r.fromState = state := by
      obtain ⟨r, hr⟩ := List.exists_mem_of_length_pos (Nat.lt_of_succ_lt long)
      have := mem_matchingRules.mp hr
      exact ⟨r, this.1, this.2.2.1⟩
    obtain ⟨r, hr, rfl⟩ := member
    refine never (machineOf A) (init_eq A) (snapshotAt r.fromState visit r.from_text text) code ?_
    refine (resolve_ambiguous_iff A _ code).mpr ⟨registered, ?_, admitted, long⟩
    rintro ⟨s, terminal, hs⟩
    rw [A.terminalStates_eq] at terminal
    exact A.from_open r hr s hs terminal
  · intro short m built snapshot code ambiguous
    obtain rfl : machineOf A = m := Except.ok.inj ((init_eq A).symm.trans built)
    obtain ⟨registered, _, admitted, long⟩ := (resolve_ambiguous_iff A snapshot code).mp ambiguous
    have := short snapshot.inquiryState code snapshot.visitStatus registered admitted
      snapshot.visit_text
    omega

/-! A contract with one event, for concrete inputs. -/

def header (name : String) : String × Value :=
  ("contract", mapping [("name", .str name), ("version", .str "1.0.0"),
    ("status", .str "TEAM_APPROVED"), ("owner", .str "PM")])

def smallState (code : String) (terminal : Bool) : Value :=
  mapping [("code", .str code), ("owner_type", .str "CUSTOMER"), ("terminal", .bool terminal),
    ("allowed_visit_statuses", texts ["SCHEDULED"])]

def smallRule (id : String) (visit : List (String × Value)) : Value :=
  mapping [("id", .str id), ("event", .str "CANCEL_INQUIRY"),
    ("from_inquiry_state", .str "SUBMITTED"), ("to_inquiry_state", .str "CANCELLED"),
    ("visit", mapping visit), ("guard_refs", texts ["G-CANCELLATION-REASON"]),
    ("version_action", .str "INCREMENT"),
    ("history", mapping [("record_inquiry_state_history", .bool true),
      ("record_visit_state_history", .bool true), ("record_business_event", .bool true)])]

def smallContract (rules : List Value) : Value :=
  mapping [
    ("states", mapping [header "inquiry-states", ("owner_types", texts ["CUSTOMER"]),
      ("visit_status_codes", texts ["SCHEDULED"]), ("terminal_states", texts ["CANCELLED"]),
      ("initial_state", .str "SUBMITTED"),
      ("states", .list [smallState "SUBMITTED" false, smallState "CANCELLED" true])]),
    ("events", mapping [header "inquiry-events", ("categories", texts ["USER_EVENT"]),
      ("scopes", texts ["INQUIRY"]), ("actor_roles", texts ["CUSTOMER"]),
      ("events", .list [mapping [("code", .str "CANCEL_INQUIRY"), ("category", .str "USER_EVENT"),
        ("scope", .str "INQUIRY"), ("actor_roles", texts ["CUSTOMER"]),
        ("changes_inquiry_state", .bool true), ("changes_visit_state", .bool false),
        ("requires_idempotency_key", .bool false), ("requires_state_version", .bool false),
        ("external_action", mapping [("exposed", .bool true),
          ("operation_id", .str "cancelInquiry")])]])]),
    ("transitions", mapping [header "transition-rules",
      ("rule_semantics", mapping [
        ("visit_modes", mapping [("REQUIRE_ABSENT", .none), ("PRESERVE", .none),
          ("PRESERVE_REQUIRE_STATUS", .none), ("CREATE", .none)]),
        ("version_actions", mapping [("INCREMENT", .none)])]),
      ("transitions", .list rules), ("excluded_events", .list [])]),
    ("guards", mapping [header "transition-guards",
      ("evaluation_policy", mapping [("security_precedence", texts ["BUSINESS_RULE"])]),
      ("guard_categories", texts ["BUSINESS_RULE"]),
      ("guards", .list [mapping [("id", .str "G-CANCELLATION-REASON"),
        ("category", .str "BUSINESS_RULE"), ("conditions", texts ["reason_code is not null"]),
        ("failure", mapping [("http_status", .atom (.int 422)),
          ("error_code", .str "VALIDATION_ERROR"),
          ("message", .str "취소 사유를 확인해 주세요.")])]])]),
    ("allowed_actions", mapping [header "allowed-actions", ("styles", texts ["DANGER"]),
      ("action_catalog", .list [mapping [("code", .str "CANCEL_INQUIRY"),
        ("operation_id", .str "cancelInquiry"), ("style", .str "DANGER"),
        ("requires_confirmation", .bool true)]]),
      ("state_role_actions", mapping [("SUBMITTED", mapping [("CUSTOMER", .list [mapping [
          ("action", .str "CANCEL_INQUIRY"), ("transition_rule_ids", texts ["TR-1"])]])]),
        ("CANCELLED", mapping [])]),
      ("internal_events_by_state", mapping [("SUBMITTED", .list []), ("CANCELLED", .list [])])]),
    ("role_permissions", mapping [header "role-permissions",
      ("roles", .list [mapping [("code", .str "CUSTOMER"),
        ("allowed_events", texts ["CANCEL_INQUIRY"])]])])]

def overlappingContract : Value :=
  smallContract [smallRule "TR-1" [("mode", .str "PRESERVE")],
    smallRule "TR-2" [("mode", .str "REQUIRE_ABSENT")]]

/-- One rule for a scheduled visit, and one for none. -/
def disjointContract : Value :=
  smallContract [
    smallRule "TR-1"
      [("mode", .str "PRESERVE_REQUIRE_STATUS"), ("required_status", .str "SCHEDULED")],
    smallRule "TR-2" [("mode", .str "REQUIRE_ABSENT")]]

def submitted : WorkflowSnapshot :=
  snapshotAt (some "SUBMITTED") none (by rintro s ⟨⟩; rfl) (by simp)

set_option maxRecDepth 10000 in
/-- The validator accepts a rule for any visit next to one for no visit. -/
theorem overlappingContract_ambiguous :
    ¬ ∀ documents, collectContractErrors documents = .ok [] → NeverAmbiguous documents := by
  intro never
  have accepted : collectContractErrors overlappingContract = .ok [] := rfl
  exact never overlappingContract accepted _ rfl submitted "CANCEL_INQUIRY" rfl

set_option maxRecDepth 10000 in
theorem neverAmbiguous_disjointContract : NeverAmbiguous disjointContract := by
  have clear : Unambiguous disjointContract := by decide
  exact (neverAmbiguous_iff_unambiguous disjointContract rfl).mpr clear

end WaterCare.Engine
