import WaterCare.Contract.Accepted

/-!
The fields of a contract that decide which rule an event selects, read from
the raw documents without any check: unreadable entries are left out. On an
accepted contract nothing is left out.
-/

namespace WaterCare.Contract
open Py

def docSection (documents : Value) (name : String) : Dict :=
  (Dict.get (documents.asDict?.getD []) name).asDict?.getD []

def docEntries (documents : Value) (name key : String) : List Dict :=
  ((Dict.get (docSection documents name) key).asList?.getD []).filterMap Value.asDict?

def ruleEntries (documents : Value) : List Dict := docEntries documents "transitions" "transitions"

def eventCodes (documents : Value) : List String :=
  (docEntries documents "events" "events").filterMap fun e => (e.get "code").asStr?

def strings (value : Value) : List String := (value.asList?.getD []).filterMap Value.asStr?

def terminalStates (documents : Value) : List String :=
  strings (Dict.get (docSection documents "states") "terminal_states")

def allowedStatuses (documents : Value) (state : String) : List String :=
  match (docEntries documents "states" "states").find? fun s => (s.get "code").eqStr state with
  | some s => strings (s.get "allowed_visit_statuses")
  | none => []

/-- No visit goes with every state, and any visit with no inquiry. -/
def admits (documents : Value) (state visit : Option String) : Bool :=
  match state, visit with
  | some s, some v => (allowedStatuses documents s).contains v
  | _, _ => true

def visitOf (rule : Dict) : Dict := (rule.get "visit").asDict?.getD []

def statusCondition (status : Value) : VisitCondition :=
  match status with
  | .atom .none => .exactly none
  | .atom (.str s) => .exactly (some s)
  | _ => .never

/-- The visit statuses a rule matches. -/
def conditionOf (rule : Dict) : VisitCondition :=
  let visit := visitOf rule
  let mode := visit.get "mode"
  if mode.eqStr "REQUIRE_ABSENT" || mode.eqStr "CREATE" then .absent
  else if mode.eqStr "PRESERVE" then .any
  else if mode.eqStr "PRESERVE_REQUIRE_STATUS" then statusCondition (visit.get "required_status")
  else if mode.eqStr "TRANSITION" then statusCondition (visit.get "from_status")
  else .never

/-- The rules for one state and event, and those that also match a visit status. -/
def listed (documents : Value) (state : Option String) (event : String) : List Dict :=
  (ruleEntries documents).filter fun r =>
    (r.get "event").eqStr event && (r.get "from_inquiry_state").eq (.ofOption state)

def matching (documents : Value) (state : Option String) (event : String)
    (visit : Option String) : List Dict :=
  (listed documents state event).filter fun r => (conditionOf r).covers visit

/-! Overlap of two conditions, without searching the statuses. -/

def VisitCondition.overlaps (admitted : Option String → Bool) :
    VisitCondition → VisitCondition → Bool
  | never, _ | _, never => false
  | exactly v, c | c, exactly v => c.covers v && admitted v
  | _, _ => true

theorem VisitCondition.overlaps_iff {admitted : Option String → Bool}
    (none_admitted : admitted none = true) (c d : VisitCondition) :
    c.overlaps admitted d = true ↔
      ∃ v, admitted v = true ∧ c.covers v = true ∧ d.covers v = true := by
  constructor
  · intro h
    match c, d with
    | never, d => simp [overlaps] at h
    | c, never => cases c <;> simp [overlaps] at h
    | exactly v, d =>
        have both : d.covers v = true ∧ admitted v = true := by
          cases d <;> simp_all [overlaps]
        exact ⟨v, both.2, by simp [covers], both.1⟩
    | any, exactly v | absent, exactly v =>
        simp only [overlaps, Bool.and_eq_true] at h
        exact ⟨v, h.2, h.1, by simp [covers]⟩
    | any, any | any, absent | absent, any | absent, absent =>
        exact ⟨none, none_admitted, rfl, rfl⟩
  · rintro ⟨v, admitted_v, hc, hd⟩
    cases c <;> cases d <;> simp_all [overlaps, covers]

/-! On an accepted contract. -/

theorem asDict?_views {α : Type} (views : List α) (entry : α → Dict) :
    (views.map fun a => Value.dict (entry a)).filterMap Value.asDict? = views.map entry := by
  induction views with
  | nil => rfl
  | cons a as ih => exact congrArg (entry a :: ·) ih

theorem asStr?_views (xs : List String) : (xs.map Value.str).filterMap Value.asStr? = xs := by
  induction xs with
  | nil => rfl
  | cons x xs ih => exact congrArg (x :: ·) ih

theorem strings_list (xs : List String) : strings (.list (xs.map .str)) = xs :=
  asStr?_views xs

namespace Accepted
variable {documents : Value} (A : Accepted documents)

theorem docSection_eq {name : String} {d : Dict} (h : A.root.find name = some (.dict d)) :
    docSection documents name = d := by
  rw [docSection, A.root_eq]
  simp [Value.asDict?, Dict.get_of_find h]

theorem ruleEntries_eq : ruleEntries documents = A.transitions.rules.map (·.entry) := by
  rw [ruleEntries, docEntries, A.docSection_eq A.transitions_eq,
    Dict.get_of_find A.transitions.rules_eq]
  exact asDict?_views _ _

theorem eventEntries_eq :
    docEntries documents "events" "events" = A.events.events.map (·.entry) := by
  rw [docEntries, A.docSection_eq A.events_eq, Dict.get_of_find A.events.events_eq]
  exact asDict?_views _ _

theorem eventCodes_eq : eventCodes documents = A.events.events.map (·.code) := by
  rw [eventCodes, A.eventEntries_eq, List.filterMap_map]
  have read (e : EventEntry) : (e.entry.get "code").asStr? = some e.code := by
    rw [Dict.get_of_find e.code_eq]
    rfl
  simp only [Function.comp_def, read]
  exact congrFun List.filterMap_eq_map _

theorem terminalStates_eq : terminalStates documents = A.states.terminal := by
  rw [terminalStates, A.docSection_eq A.states_eq, Dict.get_of_find A.states.terminal_eq]
  exact strings_list _

theorem allowedStatuses_eq (state : String) :
    allowedStatuses documents state =
      ((A.states.states.find? fun s => decide (s.code = state)).map (·.allowed)).getD [] := by
  rw [allowedStatuses, docEntries, A.docSection_eq A.states_eq,
    Dict.get_of_find A.states.states_eq]
  simp only [Value.asList?, Option.getD_some, asDict?_views, List.find?_map]
  have same : ((fun s : Dict => (s.get "code").eqStr state) ∘ fun s : StateEntry => s.entry) =
      fun s => decide (s.code = state) := by
    funext s
    simp [Dict.get_of_find s.code_eq, Value.eqStr, Value.str]
  rw [same]
  cases A.states.states.find? fun s => decide (s.code = state) with
  | none => rfl
  | some s => simp [Dict.get_of_find s.allowed_eq, strings_list]

end Accepted

theorem Rule.visitOf_eq (r : Rule) : visitOf r.entry = r.visit := by
  simp [visitOf, Dict.get_of_find r.visit_eq, Value.asDict?]

theorem statusCondition_option (s : Option String) :
    statusCondition (.ofOption s) = .exactly s := by
  cases s <;> rfl

theorem Rule.conditionOf_eq (r : Rule) : conditionOf r.entry = r.condition := by
  simp only [conditionOf, r.visitOf_eq, Dict.get_of_find r.mode_eq, r.required_eq,
    r.fromStatus_eq, statusCondition_option, Rule.condition, Bool.or_eq_true, Value.eqStr_iff,
    Value.str_inj]

theorem Rule.listed_test (r : Rule) (state : Option String) (event : String) :
    ((r.entry.get "event").eqStr event &&
      (r.entry.get "from_inquiry_state").eq (.ofOption state)) =
      (decide (r.event = event) && decide (r.fromState = state)) := by
  rw [Dict.get_of_find r.event_eq, Dict.get_of_find r.fromState_eq]
  simp [Value.eqStr, Value.str, Value.ofOption, Value.eq]

end WaterCare.Contract
