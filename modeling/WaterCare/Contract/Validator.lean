import WaterCare.Contract.Checks

/-!
The sections of `contract_validator.py` for states, events, guards and
transitions. Names, checks, their order and the messages are the source's.
-/

namespace WaterCare.Contract
open Py Py.Audit

/-! ### `_validate_states` -/

structure StateSection where
  stateByCode : Index
  terminalStates : List String
  visitStatuses : List String

def reportEach (message : String → String) (values : List String) : Audit Unit :=
  forEach (fun v => report (message v)) (sortedStrings values)

def validateReferences (values registry : List String) (path registryName : String) :
    Audit Unit :=
  forEach (fun v => validateReference (some v) registry path registryName) values

def stateEntry (ownerTypes visitStatuses : List String) (index : Nat)
    (terminalFlags : List String) (entry : Dict) : Audit (List String) := do
  let path := s!"states.states[{index}]"
  let ownerType ← requiredString entry "owner_type" path
  validateReference ownerType ownerTypes s!"{path}.owner_type" "owner_type"
  boolField entry "terminal" path
  let terminalFlags :=
    match (entry.get "terminal").isTrue, nonemptyString? (entry.get "code") with
    | true, some code => terminalFlags ++ [strip code]
    | _, _ => terminalFlags
  let allowed ← stringList (entry.get "allowed_visit_statuses")
    s!"{path}.allowed_visit_statuses" false
  validateReferences allowed visitStatuses s!"{path}.allowed_visit_statuses" "visit status"
  pure terminalFlags

def validateStates (doc : Dict) : Audit StateSection := do
  let entries ← mappingEntries (doc.get "states") "states.states" true
  let stateByCode ← codeIndex entries "states.states" "code"
  let ownerTypes ← stringList (doc.get "owner_types") "states.owner_types" true
  let visitStatuses ← stringList (doc.get "visit_status_codes") "states.visit_status_codes" true
  let terminalStates ← stringList (doc.get "terminal_states") "states.terminal_states" true
  let initialState := (nonemptyString? (doc.get "initial_state")).map strip
  reportIf initialState.isNone "states.initial_state: 비어 있지 않은 문자열이어야 합니다."
  validateReference initialState stateByCode.codes "states.initial_state" "state"
  validateReferences (sortedStrings terminalStates) stateByCode.codes
    "states.terminal_states" "state"
  let terminalFlags ← foldIdx (stateEntry ownerTypes visitStatuses) 0 [] entries
  reportEach (fun missing =>
      s!"states.terminal_states: {pyRepr missing}의 terminal 플래그가 true가 아닙니다.")
    (terminalStates.filter fun t => !terminalFlags.contains t)
  reportEach (fun extra =>
      s!"states.states: terminal=true인 {pyRepr extra}가 terminal_states에 없습니다.")
    (terminalFlags.filter fun t => !terminalStates.contains t)
  pure ⟨stateByCode, terminalStates, visitStatuses⟩

/-! ### `_validate_events` -/

structure EventSection where
  eventByCode : Index
  actorRoleCodes : List String

def externalAction (entry : Dict) (path : String) : Audit Unit := do
  let action ← requiredMapping (entry.get "external_action") s!"{path}.external_action"
  if action.isEmpty then pure ()
  else
    let operationId := action.get "operation_id"
    match (action.get "exposed").asBool? with
    | none => report s!"{path}.external_action.exposed: boolean이어야 합니다."
    | some true =>
        reportIf (nonemptyString? operationId).isNone
          s!"{path}.external_action.operation_id: 외부 행동에는 operation_id가 필요합니다."
    | some false =>
        reportIf (!operationId.isNone)
          s!"{path}.external_action.operation_id: 내부 이벤트에서는 null이어야 합니다."

def eventEntry (categories scopes actorRoleCodes : List String) (index : Nat) (_ : Unit)
    (entry : Dict) : Audit Unit := do
  let path := s!"events.events[{index}]"
  let category ← requiredString entry "category" path
  let scope ← requiredString entry "scope" path
  validateReference category categories s!"{path}.category" "event category"
  validateReference scope scopes s!"{path}.scope" "event scope"
  let actorRoles ← stringList (entry.get "actor_roles") s!"{path}.actor_roles" true
  validateReferences actorRoles actorRoleCodes s!"{path}.actor_roles" "actor role"
  forEach (fun key => boolField entry key path)
    ["changes_inquiry_state", "changes_visit_state", "requires_idempotency_key",
      "requires_state_version"]
  externalAction entry path

def validateEvents (doc : Dict) : Audit EventSection := do
  let categories ← stringList (doc.get "categories") "events.categories" true
  let scopes ← stringList (doc.get "scopes") "events.scopes" true
  let actorRoleCodes ← stringList (doc.get "actor_roles") "events.actor_roles" true
  let entries ← mappingEntries (doc.get "events") "events.events" true
  let eventByCode ← codeIndex entries "events.events" "code"
  foldIdx (eventEntry categories scopes actorRoleCodes) 0 () entries
  pure ⟨eventByCode, actorRoleCodes⟩

/-! ### `_validate_guards` -/

def guardConditions (conditions : Value) (path : String) : Audit Unit := do
  match conditions with
  | .dict conditions =>
      let combiner ← requiredString conditions "combiner" s!"{path}.conditions"
      reportIf (!(combiner == some "ALL" || combiner == some "ANY"))
        s!"{path}.conditions.combiner: 'ALL' 또는 'ANY'여야 합니다."
      let _ ← stringList (Dict.get conditions "items") s!"{path}.conditions.items" true
      pure ()
  | _ =>
      let _ ← stringList conditions s!"{path}.conditions" true
      pure ()

def guardFailure (entry : Dict) (path : String) : Audit Unit := do
  let failure ← requiredMapping (entry.get "failure") s!"{path}.failure"
  if failure.isEmpty then pure ()
  else
    match (failure.get "http_status").asInt? with
    | none => report s!"{path}.failure.http_status: 정수여야 합니다."
    | some status =>
        reportIf (!(400 ≤ status && status ≤ 599))
          s!"{path}.failure.http_status: 400~599 범위여야 합니다."
    forEach (fun key => do
      let _ ← requiredString failure key s!"{path}.failure"
      pure ()) ["error_code", "message"]

def guardEntry (categories : List String) (index : Nat) (_ : Unit) (entry : Dict) :
    Audit Unit := do
  let path := s!"guards.guards[{index}]"
  let category ← requiredString entry "category" path
  validateReference category categories s!"{path}.category" "guard category"
  guardConditions (entry.get "conditions") path
  guardFailure entry path

def validateGuards (doc : Dict) : Audit Index := do
  let categories ← stringList (doc.get "guard_categories") "guards.guard_categories" true
  let entries ← mappingEntries (doc.get "guards") "guards.guards" true
  let guardById ← codeIndex entries "guards.guards" "id"
  foldIdx (guardEntry categories) 0 () entries
  pure guardById

/-! ### `_validate_transitions` -/

/-- What `_validate_transitions` takes from the other documents. -/
structure TransitionRegistries where
  stateCodes : List String
  terminalStates : List String
  visitStatuses : List String
  eventByCode : Index
  guardIds : List String

/-- `seen_combinations` and `transition_event_codes`. -/
structure SeenTransitions where
  combinations : List (Option String × String × Frozen)
  eventCodes : List String

/-- The keys of a nonempty `rule_semantics` mapping. -/
def semanticKeys (ruleSemantics : Dict) (key : String) : Audit (List Atom) := do
  let keys := ((ruleSemantics.get key).asDict?.getD []).map (·.1)
  reportIf keys.isEmpty
    s!"transitions.rule_semantics.{key}: 비어 있지 않은 mapping이어야 합니다."
  pure keys

def validateAtomReference (value : Option String) (registry : List Atom)
    (path registryName : String) : Audit Unit :=
  match value with
  | some v =>
      reportIf (!registry.any fun a => a.eq (.str v))
        s!"{path}: 등록되지 않은 {registryName} {pyRepr v}입니다."
  | none => pure ()

def ruleFromState (stateCodes : List String) (entry : Dict) (path : String) :
    Audit (Option String) :=
  if !entry.has "from_inquiry_state" then do
    report s!"{path}.from_inquiry_state: 필수 키가 없습니다."
    pure none
  else
    let raw := entry.get "from_inquiry_state"
    if raw.isNone then pure none
    else
      match nonemptyString? raw with
      | some s => do
          validateReference (some (strip s)) stateCodes s!"{path}.from_inquiry_state" "state"
          pure (some (strip s))
      | none => do
          report s!"{path}.from_inquiry_state: null 또는 비어 있지 않은 문자열이어야 합니다."
          pure none

def ruleVersionStart (terminalStates : List String) (entry : Dict) (fromState : Option String)
    (path : String) : Audit Unit := do
  if (entry.get "version_action").eqStr "INITIALIZE_1" then
    reportIf fromState.isSome
      s!"{path}.from_inquiry_state: INITIALIZE_1 전이는 null이어야 합니다."
  else
    reportIf fromState.isNone
      s!"{path}.from_inquiry_state: INITIALIZE_1 외 전이에는 기존 상태가 필요합니다."
  match fromState with
  | some s =>
      reportIf (terminalStates.contains s)
        s!"{path}: terminal state {pyRepr s}에서 후속 전이를 정의할 수 없습니다."
  | none => pure ()

def ruleVisitStatus (visitStatuses : List String) (visit : Dict) (path key : String) :
    Audit Unit :=
  if (visit.get key).isNone then pure ()
  else do
    let status ← requiredString visit key s!"{path}.visit"
    validateReference status visitStatuses s!"{path}.visit.{key}" "visit status"

/-- The visit mapping of a rule and its stripped mode. -/
def ruleVisit (visitModes : List Atom) (visitStatuses : List String) (entry : Dict)
    (path : String) : Audit (Dict × Option String) := do
  let visit ← requiredMapping (entry.get "visit") s!"{path}.visit"
  if visit.isEmpty then pure (visit, none)
  else
    let mode ← requiredString visit "mode" s!"{path}.visit"
    validateAtomReference mode visitModes s!"{path}.visit.mode" "visit mode"
    forEach (ruleVisitStatus visitStatuses visit path)
      ["from_status", "to_status", "required_status"]
    pure (visit, mode)

def ruleGuardRefs (registries : TransitionRegistries) (entry : Dict) (event : Option String)
    (path : String) : Audit Unit := do
  let guardRefs ← stringList (entry.get "guard_refs") s!"{path}.guard_refs" true
  validateReferences guardRefs registries.guardIds s!"{path}.guard_refs" "guard"
  let contract := (event.bind registries.eventByCode.entry?).getD []
  reportIf ((contract.get "requires_state_version").isTrue &&
      !guardRefs.contains "G-STATE-VERSION")
    (s!"{path}.guard_refs: requires_state_version=true인 " ++
      "이벤트는 G-STATE-VERSION을 포함해야 합니다.")
  reportIf ((contract.get "requires_idempotency_key").isTrue &&
      !guardRefs.contains "G-IDEMPOTENCY-KEY")
    (s!"{path}.guard_refs: requires_idempotency_key=true인 " ++
      "이벤트는 G-IDEMPOTENCY-KEY를 포함해야 합니다.")

def ruleHistory (entry visit : Dict) (fromState toState mode : Option String) (path : String) :
    Audit Unit := do
  let history ← requiredMapping (entry.get "history") s!"{path}.history"
  if history.isEmpty then pure ()
  else
    forEach (fun key => boolField history key s!"{path}.history")
      ["record_inquiry_state_history", "record_visit_state_history", "record_business_event"]
    reportIf (fromState != toState && !(history.get "record_inquiry_state_history").isTrue)
      s!"{path}.history.record_inquiry_state_history: 상태 변경 전이는 true여야 합니다."
    let visitChanges := mode == some "CREATE" ||
      (mode == some "TRANSITION" && !(visit.get "from_status").eq (visit.get "to_status"))
    reportIf (visitChanges && !(history.get "record_visit_state_history").isTrue)
      (s!"{path}.history.record_visit_state_history: " ++
        "Visit 생성·상태 변경 전이는 true여야 합니다.")

def ruleVersionAction (versionActions : List Atom) (entry : Dict) (path : String) :
    Audit Unit :=
  let versionAction := entry.get "version_action"
  if versionAction.isNone then pure ()
  else
    match nonemptyString? versionAction with
    | none => report s!"{path}.version_action: 비어 있지 않은 문자열이어야 합니다."
    | some s =>
        validateAtomReference (some (strip s)) versionActions s!"{path}.version_action"
          "version action"

def seeCombination (seen : SeenTransitions) (fromState event : Option String) (visit : Dict)
    (path : String) : Audit SeenTransitions :=
  match event with
  | none => pure seen
  | some event => do
      let frozen := freeze (.dict visit)
      reportIf (seen.combinations.any fun c =>
          c.1 == fromState && c.2.1 == event && c.2.2.eq frozen)
        s!"{path}: from state/event/Visit 조건 조합이 중복됩니다."
      pure { seen with combinations := seen.combinations ++ [(fromState, event, frozen)] }

def transitionEntry (registries : TransitionRegistries) (visitModes versionActions : List Atom)
    (index : Nat) (seen : SeenTransitions) (entry : Dict) : Audit SeenTransitions := do
  let path := s!"transitions.transitions[{index}]"
  let event ← requiredString entry "event" path
  validateReference event registries.eventByCode.codes s!"{path}.event" "event"
  let seen := { seen with eventCodes := seen.eventCodes ++ event.toList }
  let fromState ← ruleFromState registries.stateCodes entry path
  let toState ← requiredString entry "to_inquiry_state" path
  validateReference toState registries.stateCodes s!"{path}.to_inquiry_state" "state"
  ruleVersionStart registries.terminalStates entry fromState path
  let (visit, mode) ← ruleVisit visitModes registries.visitStatuses entry path
  let seen ← seeCombination seen fromState event visit path
  ruleGuardRefs registries entry event path
  ruleHistory entry visit fromState toState mode path
  ruleVersionAction versionActions entry path
  pure seen

def excludedEntry (eventByCode : Index) (index : Nat) (excluded : List String) (entry : Dict) :
    Audit (List String) := do
  let path := s!"transitions.excluded_events[{index}]"
  let event ← requiredString entry "event" path
  validateReference event eventByCode.codes s!"{path}.event" "event"
  match event with
  | none => pure excluded
  | some event =>
      reportIf (excluded.contains event)
        s!"transitions.excluded_events: event {pyRepr event}가 중복됩니다."
      pure (excluded ++ [event])

def validateTransitions (doc : Dict) (registries : TransitionRegistries) : Audit Index := do
  let entries ← mappingEntries (doc.get "transitions") "transitions.transitions" true
  let transitionById ← codeIndex entries "transitions.transitions" "id"
  let ruleSemantics ← requiredMapping (doc.get "rule_semantics") "transitions.rule_semantics"
  let visitModes ← semanticKeys ruleSemantics "visit_modes"
  let versionActions ← semanticKeys ruleSemantics "version_actions"
  let seen ← foldIdx (transitionEntry registries visitModes versionActions) 0 ⟨[], []⟩ entries
  let excludedEntries ← mappingEntries (doc.get "excluded_events")
    "transitions.excluded_events" false
  let excluded ← foldIdx (excludedEntry registries.eventByCode) 0 [] excludedEntries
  reportEach (fun event =>
      s!"transitions: event {pyRepr event}가 전이와 제외 목록에 동시에 있습니다.")
    (seen.eventCodes.filter excluded.contains)
  reportEach (fun event =>
      s!"transitions: event {pyRepr event}가 전이 또는 제외 목록에 없습니다.")
    (registries.eventByCode.codes.filter fun e =>
      !seen.eventCodes.contains e && !excluded.contains e)
  pure transitionById

end WaterCare.Contract
