import WaterCare.Contract.Validator

/-!
The cross references of `contract_validator.py` between roles, events, actions
and transitions, and `collect_contract_errors` itself. Some of these loops read
a field the earlier sections only reported about, so they can raise.
-/

namespace WaterCare.Contract
open Py Py.Audit

/-! ### `_validate_role_permissions` -/

/-- The stripped strings among `event.get("actor_roles", [])`. -/
def actorRoles (event : Dict) : Except Exn (List String) := do
  let roles ← (event.getD "actor_roles" (.list [])).iter
  pure (roles.filterMap fun role => (nonemptyString? role).map strip)

def eventRolePairs : Index → Except Exn (List (String × String))
  | [] => pure []
  | (code, event) :: rest => do
      let roles ← actorRoles event
      let pairs ← eventRolePairs rest
      pure (roles.map (fun role => (code, role)) ++ pairs)

def requiredPermissions (allowedEvents : List String) (path : String) (value : Value) :
    Audit Unit :=
  match value with
  | .atom .none => pure ()
  | .dict entries =>
      forEach (fun (e : Atom × Value) => do
        reportIf (!allowedEvents.any fun event => e.1.eq (.str event))
          s!"{path}.required_permissions.{e.1.text}: allowed_events에 없는 이벤트입니다."
        let _ ← stringList e.2 s!"{path}.required_permissions.{e.1.text}" true
        pure ()) entries
  | _ => report s!"{path}.required_permissions: mapping이어야 합니다."

def roleEntry (eventByCode : Index) (actorRoleCodes : List String) (index : Nat)
    (pairs : List (String × String)) (entry : Dict) : Audit (List (String × String)) := do
  let path := s!"role_permissions.roles[{index}]"
  let role := (nonemptyString? (entry.get "code")).map strip
  validateReference role actorRoleCodes s!"{path}.code" "actor role"
  let allowedEvents ← stringList (entry.get "allowed_events") s!"{path}.allowed_events" true
  validateReferences allowedEvents eventByCode.codes s!"{path}.allowed_events" "event"
  requiredPermissions allowedEvents path (entry.get "required_permissions")
  pure (pairs ++ role.toList.flatMap fun r => allowedEvents.map fun event => (event, r))

def sortedPairs (pairs : List (String × String)) : List (String × String) :=
  sorted (fun p q => decide (p.1 < q.1) || (decide (p.1 = q.1) && decide (p.2 ≤ q.2))) pairs.dedup

def rolesOf (event : Dict) (expected : List String) (message : String) : Audit Unit := do
  let roles ← liftExn (actorRoles event)
  reportIf (!(roles.all expected.contains && expected.all roles.contains)) message

def validateRolePermissions (doc : Dict) (eventByCode : Index) (actorRoleCodes : List String) :
    Audit Index := do
  let entries ← mappingEntries (doc.get "roles") "role_permissions.roles" true
  let roleByCode ← codeIndex entries "role_permissions.roles" "code"
  let eventPairs ← liftExn (eventRolePairs eventByCode)
  let permissionPairs ← foldIdx (roleEntry eventByCode actorRoleCodes) 0 [] entries
  forEach (fun p => report (s!"role_permissions.roles: event {pyRepr p.1}의 actor role " ++
      s!"{pyRepr p.2}에 대응하는 권한이 없습니다."))
    (sortedPairs (eventPairs.filter fun p => !permissionPairs.contains p))
  forEach (fun p => report (s!"role_permissions.roles: role {pyRepr p.2}의 event " ++
      s!"{pyRepr p.1}가 inquiry-events.actor_roles와 일치하지 않습니다."))
    (sortedPairs (permissionPairs.filter fun p => !eventPairs.contains p))
  forEach (fun (p : String × Dict) =>
      if (p.2.get "category").eqStr "SYSTEM_EVENT" then
        rolesOf p.2 ["SYSTEM"]
          s!"events.events.{p.1}: SYSTEM_EVENT는 SYSTEM 역할에만 허용되어야 합니다."
      else pure ()) eventByCode
  match eventByCode.entry? "FINALIZE_INQUIRY" with
  | some finalize =>
      rolesOf finalize ["CONSULTANT", "TECHNICIAN"]
        "events.events.FINALIZE_INQUIRY: CONSULTANT와 TECHNICIAN에게만 허용되어야 합니다."
  | none => pure ()
  pure roleByCode

/-! ### `_validate_allowed_actions` -/

/-- What `_validate_allowed_actions` takes from the other documents. -/
structure ActionRegistries where
  stateCodes : List String
  terminalStates : List String
  eventByCode : Index
  roleCodes : List String
  transitionById : Index

/-- `external_action.get(key)` of an event, `None` where it is no mapping. -/
def externalField (event : Dict) (key : String) : Value :=
  ((event.get "external_action").asDict?.map fun d => Dict.get d key).getD .none

def catalogEntry (styles : List String) (eventByCode : Index) (index : Nat) (_ : Unit)
    (entry : Dict) : Audit Unit := do
  let path := s!"allowed_actions.action_catalog[{index}]"
  match (nonemptyString? (entry.get "code")).map strip with
  | none => pure ()
  | some actionCode =>
      match eventByCode.entry? actionCode with
      | none => report s!"{path}.code: 등록되지 않은 event {pyRepr actionCode}입니다."
      | some event =>
          reportIf (!(externalField event "exposed").isTrue ||
              (event.get "category").eqStr "SYSTEM_EVENT")
            s!"{path}.code: 외부 공개 이벤트만 action catalog에 포함할 수 있습니다."
          reportIf (!(entry.get "operation_id").eq (externalField event "operation_id"))
            s!"{path}.operation_id: inquiry-events의 operation_id와 일치해야 합니다."
  let style ← requiredString entry "style" path
  validateReference style styles s!"{path}.style" "action style"
  boolField entry "requires_confirmation" path

/-- The keys of a per-state mapping against the registered states. -/
def stateKeys (entries : Dict) (stateCodes : List String) (path : String) : Audit Unit := do
  let states := entries.filterMap fun e => (nonemptyString? (.atom e.1)).map strip
  reportEach (fun missing => s!"{path}: state {pyRepr missing}가 누락되었습니다.")
    (stateCodes.filter fun s => !states.contains s)
  reportEach (fun extra => s!"{path}: 등록되지 않은 state {pyRepr extra}가 있습니다.")
    (states.filter fun s => !stateCodes.contains s)

def mappingOrReport (value : Value) (path : String) : Audit Dict :=
  match value with
  | .dict d => pure d
  | _ => do
      report s!"{path}: mapping이어야 합니다."
      pure []

def actionRule (transitionById : Index) (state : String) (action : Option String)
    (path ruleId : String) : Audit Unit :=
  match transitionById.entry? ruleId with
  | none =>
      report s!"{path}.transition_rule_ids: 등록되지 않은 transition rule {pyRepr ruleId}입니다."
  | some rule => do
      match action with
      | some action =>
          reportIf (!(rule.get "event").eqStr action)
            s!"{path}.transition_rule_ids: rule {pyRepr ruleId}의 event가 action과 다릅니다."
      | none => pure ()
      reportIf (!(rule.get "from_inquiry_state").eqStr state)
        (s!"{path}.transition_rule_ids: rule {pyRepr ruleId}의 from_inquiry_state가 상위 " ++
          "state와 다릅니다.")

def roleAction (registries : ActionRegistries) (actionByCode : Index) (state : String)
    (role : Option String) (path : String) (index : Nat) (seenActions : List String)
    (entry : Dict) : Audit (List String) := do
  let entryPath := s!"{path}[{index}]"
  let action ← requiredString entry "action" entryPath
  validateReference action actionByCode.codes s!"{entryPath}.action" "action"
  match action with
  | none => pure ()
  | some action =>
      reportIf (seenActions.contains action) s!"{path}: action {pyRepr action}이 중복됩니다."
      let event := registries.eventByCode.entry? action
      let actorRoles := (event.map fun e => e.getD "actor_roles" (.list [])).getD (.list [])
      let listed ← liftExn (actorRoles.contains role)
      reportIf (!listed) (s!"{entryPath}.action: role {(role.elim Atom.none .str).repr}이 " ++
        "이벤트 actor_roles에 없습니다.")
      reportIf ((event.map fun e => (e.get "category").eqStr "SYSTEM_EVENT").getD false)
        s!"{entryPath}.action: SYSTEM_EVENT는 외부 행동에 포함할 수 없습니다."
  let ruleIds ← stringList (entry.get "transition_rule_ids")
    s!"{entryPath}.transition_rule_ids" true
  forEach (actionRule registries.transitionById state action entryPath) ruleIds
  pure (seenActions ++ action.toList)

def stateRoleEntry (registries : ActionRegistries) (actionByCode : Index) (state : String)
    (e : Atom × Value) : Audit Unit := do
  let path := s!"allowed_actions.state_role_actions.{state}.{e.1.text}"
  let role := (nonemptyString? (.atom e.1)).map strip
  validateReference role registries.roleCodes path "role"
  let actionEntries ← mappingEntries e.2 path true
  let _ ← foldIdx (roleAction registries actionByCode state role path) 0 [] actionEntries
  pure ()

def stateRoleActions (registries : ActionRegistries) (actionByCode : Index)
    (e : Atom × Value) : Audit Unit :=
  match nonemptyString? (.atom e.1) with
  | none =>
      report ("allowed_actions.state_role_actions: state 키는 " ++
        "비어 있지 않은 문자열이어야 합니다.")
  | some raw =>
      let state := strip raw
      match e.2 with
      | .dict roleMap => do
          reportIf (registries.terminalStates.contains state && !roleMap.isEmpty)
            (s!"allowed_actions.state_role_actions.{state}: " ++
              "terminal state의 외부 행동은 비어 있어야 합니다.")
          forEach (stateRoleEntry registries actionByCode state) roleMap
      | _ => report s!"allowed_actions.state_role_actions.{state}: mapping이어야 합니다."

def internalEvent (eventByCode : Index) (state eventCode : String) : Audit Unit :=
  match eventByCode.entry? eventCode with
  | none =>
      report (s!"allowed_actions.internal_events_by_state.{state}: " ++
        s!"등록되지 않은 event {pyRepr eventCode}입니다.")
  | some event =>
      reportIf (!(event.get "category").eqStr "SYSTEM_EVENT")
        (s!"allowed_actions.internal_events_by_state.{state}: " ++
          s!"{pyRepr eventCode}는 SYSTEM_EVENT가 아닙니다.")

/-- `actual_internal_pairs`, extended by the events listed for one state. -/
def internalEvents (eventByCode : Index) (_ : Nat) (pairs : List (Atom × String))
    (e : Atom × Value) : Audit (List (Atom × String)) :=
  match nonemptyString? (.atom e.1) with
  | none => pure pairs
  | some raw => do
      let state := strip raw
      let events ← stringList e.2 s!"allowed_actions.internal_events_by_state.{state}" false
      forEach (internalEvent eventByCode state) events
      let known := events.filter fun code => (eventByCode.entry? code).isSome
      pure (pairs ++ known.map fun code => (.str state, code))

/-- `expected_internal_pairs`: hashing the raw fields of a rule may raise. -/
def expectedInternalPairs (eventByCode : Index) : Index → Except Exn (List (Atom × String))
  | [] => pure []
  | (_, rule) :: rest => do
      let raw := rule.get "from_inquiry_state"
      let pair ←
        if raw.isNone then pure []
        else do
          match ← (rule.get "event").hashed with
          | .str code =>
              if (((eventByCode.entry? code).getD []).get "category").eqStr "SYSTEM_EVENT" then do
                let state ← raw.hashed
                pure [(state, code)]
              else pure []
          | _ => pure []
      let pairs ← expectedInternalPairs eventByCode rest
      pure (pair ++ pairs)

def pairEq (p q : Atom × String) : Bool := p.1.eq q.1 && p.2 == q.2

/-- `sorted` over pairs; states of two types that do not compare raise. -/
def sortInternalPairs (pairs : List (Atom × String)) : Except Exn (List (Atom × String)) :=
  let comparable (p q : Atom × String) : Bool := p.1.eq q.1 || (p.1.lt? q.1).isSome
  if pairs.all fun p => pairs.all (comparable p) then
    .ok (sorted (fun p q =>
      (p.1.lt? q.1).getD false || (p.1.eq q.1 && decide (p.2 ≤ q.2))) pairs.dedup)
  else .error .typeError

def validateActionCatalog (doc : Dict) (eventByCode : Index) : Audit Index := do
  let styles ← stringList (doc.get "styles") "allowed_actions.styles" true
  let entries ← mappingEntries (doc.get "action_catalog") "allowed_actions.action_catalog" true
  let actionByCode ← codeIndex entries "allowed_actions.action_catalog" "code"
  foldIdx (catalogEntry styles eventByCode) 0 () entries
  pure actionByCode

def validateAllowedActions (doc : Dict) (registries : ActionRegistries) : Audit Index := do
  let actionByCode ← validateActionCatalog doc registries.eventByCode
  let roleActions ← mappingOrReport (doc.get "state_role_actions")
    "allowed_actions.state_role_actions"
  stateKeys roleActions registries.stateCodes "allowed_actions.state_role_actions"
  forEach (stateRoleActions registries actionByCode) roleActions
  let internal ← mappingOrReport (doc.get "internal_events_by_state")
    "allowed_actions.internal_events_by_state"
  stateKeys internal registries.stateCodes "allowed_actions.internal_events_by_state"
  let actual ← foldIdx (internalEvents registries.eventByCode) 0 [] internal
  let expected ← liftExn (expectedInternalPairs registries.eventByCode registries.transitionById)
  let missing ← liftExn (sortInternalPairs (expected.filter fun p => !actual.any (pairEq p)))
  forEach (fun (p : Atom × String) => report ("allowed_actions.internal_events_by_state: " ++
      s!"{p.1.repr}의 SYSTEM_EVENT {pyRepr p.2}가 누락되었습니다.")) missing
  let extra ← liftExn (sortInternalPairs (actual.filter fun p => !expected.any (pairEq p)))
  forEach (fun (p : Atom × String) => report ("allowed_actions.internal_events_by_state: " ++
      s!"{p.1.repr}의 event {pyRepr p.2}에 대응하는 전이가 없습니다.")) extra
  pure actionByCode

/-! ### `collect_contract_errors` -/

/-- The documents under the names and contract names the validator expects. -/
structure Documents where
  states : Dict
  events : Dict
  transitions : Dict
  guards : Dict
  allowedActions : Dict
  rolePermissions : Dict

def readDocuments (documents : Dict) : Audit Documents := do
  let states ← document documents "states"
  let events ← document documents "events"
  let transitions ← document documents "transitions"
  let guards ← document documents "guards"
  let allowedActions ← document documents "allowed_actions"
  let rolePermissions ← document documents "role_permissions"
  pure ⟨states, events, transitions, guards, allowedActions, rolePermissions⟩

def validateHeaders (docs : Documents) : Audit Unit :=
  forEach (fun (h : Dict × String × String) =>
      if h.1.isEmpty then pure () else validateContractHeader h.1 h.2.1 h.2.2)
    [(docs.states, "states", "inquiry-states"), (docs.events, "events", "inquiry-events"),
      (docs.transitions, "transitions", "transition-rules"),
      (docs.guards, "guards", "transition-guards"),
      (docs.allowedActions, "allowed_actions", "allowed-actions"),
      (docs.rolePermissions, "role_permissions", "role-permissions")]

def auditContract (documents : Dict) : Audit Unit := do
  let docs ← readDocuments documents
  validateHeaders docs
  let states ← validateStates docs.states
  let events ← validateEvents docs.events
  let guardById ← validateGuards docs.guards
  let transitionById ← validateTransitions docs.transitions
    ⟨states.stateByCode.codes, states.terminalStates, states.visitStatuses, events.eventByCode,
      guardById.codes⟩
  let roleByCode ← validateRolePermissions docs.rolePermissions events.eventByCode
    events.actorRoleCodes
  let _ ← validateAllowedActions docs.allowedActions
    ⟨states.stateByCode.codes, states.terminalStates, events.eventByCode, roleByCode.codes,
      transitionById⟩
  pure ()

/-- `collect_contract_errors`: the messages in order, or the exception. -/
def collectContractErrors (documents : Value) : Except Exn (List String) :=
  match documents with
  | .dict d => (auditContract d).messages
  | _ => .ok ["contracts: mapping이어야 합니다."]

theorem auditContract_passes {documents : Value}
    (h : collectContractErrors documents = .ok []) :
    ∃ d, documents = .dict d ∧ Passes (auditContract d) () := by
  cases documents with
  | atom _ | list _ => cases h
  | dict d =>
      obtain ⟨_, passes⟩ := passes_of_messages_nil h
      exact ⟨d, rfl, passes⟩

end WaterCare.Contract
