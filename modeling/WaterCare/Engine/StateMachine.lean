import WaterCare.Py.Value

/-!
`workflow/engine/state_machine.py` over the raw documents: the fields are read
by indexing and `.get` as in the source, so that a missing key or a wrong type
is the Python exception it raises there.
-/

namespace WaterCare.Engine
open Py

/-- `WorkflowSnapshot` with the checks of its `__post_init__`. -/
structure WorkflowSnapshot where
  inquiryState : Option String
  stateVersion : Option Nat
  visitStatus : Option String
  state_text : ∀ s, inquiryState = some s → hasText s = true
  version_absent : inquiryState = none → stateVersion = none
  version_present : inquiryState ≠ none → ∃ v, stateVersion = some v ∧ 1 ≤ v
  visit_text : ∀ s, visitStatus = some s → hasText s = true

/-- The `reason` of `InvalidStateTransition`. -/
inductive Reason
  | unknownEvent
  | terminalState
  | visitStatusNotAllowed
  | visitStateMismatch
  | unlistedTransition
  | ambiguousTransition
  | unknownVisitMode
  | invalidVersionAction
  | stateVersionRequired
  | unknownVersionAction
  deriving DecidableEq, Repr

/-- What a call of the engine raises: `InvalidStateTransition` or a plain
Python exception. -/
inductive Raised
  | invalid (reason : Reason)
  | python (e : Exn)
  deriving DecidableEq, Repr

abbrev Call := Except Raised

def py {α : Type} (x : Except Exn α) : Call α := x.mapError .python

/-- The `Transition` dataclass; fields copied from a rule keep its raw values. -/
structure Transition where
  ruleId : Value
  eventCode : String
  inquiryStateBefore : Option String
  inquiryStateAfter : Value
  visitMode : Value
  visitStatusBefore : Option String
  visitStatusAfter : Value
  stateVersionBefore : Option Nat
  stateVersionAfter : Nat
  versionAction : Value
  guardRefs : List Value
  effects : List Value
  recordInquiryStateHistory : Bool
  recordVisitStateHistory : Bool
  recordBusinessEvent : Bool

structure StateMachine where
  events : List (Atom × Value)
  transitions : List Value
  terminalStates : List Atom
  allowedVisitStatuses : List (Atom × List Atom)
  defaults : Value

/-- A dict comprehension over `items`; `pair` computes the key and the value. -/
def dictOf {β : Type} (pair : Value → Except Exn (Atom × β)) :
    List Value → List (Atom × β) → Except Exn (List (Atom × β))
  | [], acc => .ok acc
  | item :: rest, acc => do
      let (key, value) ← pair item
      dictOf pair rest (assign acc key value)

/-- `{entry[key]: entry for entry in entries}`. -/
def keyedBy (key : String) (entries : List Value) : Except Exn (List (Atom × Value)) :=
  dictOf (fun entry => do
    let code ← (← entry.item key).hashed
    pure (code, entry)) entries []

/-- `frozenset(value)`. -/
def frozenset (value : Value) : Except Exn (List Atom) := do
  (← value.iter).mapM Value.hashed

/-- `{state["code"]: frozenset(state["allowed_visit_statuses"]) for state in states}`. -/
def allowedVisits (states : List Value) : Except Exn (List (Atom × List Atom)) :=
  dictOf (fun state => do
    let code ← (← state.item "code").hashed
    let allowed ← frozenset (← state.item "allowed_visit_statuses")
    pure (code, allowed)) states []

namespace StateMachine

/-- `StateMachine.__init__` on given documents. -/
def init (documents : Value) : Except Exn StateMachine := do
  let events ← keyedBy "code" (← (← (← documents.item "events").item "events").iter)
  let transitions ← (← (← documents.item "transitions").item "transitions").iter
  let terminalStates ← frozenset (← (← documents.item "states").item "terminal_states")
  let allowedVisitStatuses ←
    allowedVisits (← (← (← documents.item "states").item "states").iter)
  let defaults ← (← documents.item "transitions").getOr "defaults" (.dict [])
  pure ⟨events, transitions, terminalStates, allowedVisitStatuses, defaults⟩

/-- `event`. -/
def event (m : StateMachine) (eventCode : String) : Call Value :=
  match lookup m.events (.str eventCode) with
  | some e => .ok e
  | none => .error (.invalid .unknownEvent)

/-- `_visit_matches`. -/
def visitMatches (visit : Value) (visitStatus : Option String) : Except Exn Bool := do
  let status (key : String) : Except Exn Bool := do
    let v ← visit.getOr key .none
    pure ((Value.ofOption visitStatus).eq v)
  let mode ← (← visit.getOr "mode" .none).hashed
  if mode = .str "REQUIRE_ABSENT" ∨ mode = .str "CREATE" then pure visitStatus.isNone
  else if mode = .str "PRESERVE" then pure true
  else if mode = .str "PRESERVE_REQUIRE_STATUS" then status "required_status"
  else if mode = .str "TRANSITION" then status "from_status"
  else pure false

/-- `_next_visit_status`. -/
def nextVisitStatus (visit : Value) (visitStatus : Option String) : Call Value := do
  let mode ← py (do (← visit.item "mode").hashed)
  if mode = .str "CREATE" ∨ mode = .str "TRANSITION" then py (visit.item "to_status")
  else if mode = .str "PRESERVE" ∨ mode = .str "PRESERVE_REQUIRE_STATUS" then
    pure (.ofOption visitStatus)
  else if mode = .str "REQUIRE_ABSENT" then pure .none
  else throw (.invalid .unknownVisitMode)

/-- `_next_version`. -/
def nextVersion (snapshot : WorkflowSnapshot) (versionAction : Value) : Call Nat :=
  if versionAction.eqStr "INITIALIZE_1" then
    if snapshot.inquiryState.isSome || snapshot.stateVersion.isSome then
      .error (.invalid .invalidVersionAction)
    else .ok 1
  else if versionAction.eqStr "INCREMENT" then
    match snapshot.stateVersion with
    | none => .error (.invalid .stateVersionRequired)
    | some v => .ok (v + 1)
  else .error (.invalid .unknownVersionAction)

/-- `_ensure_visit_status_allowed`. -/
def ensureVisitStatusAllowed (m : StateMachine) (inquiryState visitStatus : Value) :
    Call Unit :=
  if inquiryState.isNone || visitStatus.isNone then .ok ()
  else do
    match lookup m.allowedVisitStatuses (← py inquiryState.hashed) with
    | none => throw (.invalid .visitStatusNotAllowed)
    | some allowed =>
        let status ← py visitStatus.hashed
        if allowed.any fun a => a.eq status then pure ()
        else throw (.invalid .visitStatusNotAllowed)

/-- A comprehension `[rule for rule in rules if test(rule)]`. -/
def filterRules (test : Value → Except Exn Bool) : List Value → Except Exn (List Value)
  | [] => .ok []
  | rule :: rest => do
      let keep ← test rule
      let kept ← filterRules test rest
      pure (if keep then rule :: kept else kept)

/-- `rule["event"] == event_code and rule.get("from_inquiry_state") == state`. -/
def listsEvent (eventCode : String) (inquiryState : Option String) (rule : Value) :
    Except Exn Bool := do
  if (← rule.item "event").eqStr eventCode then
    pure ((← rule.getOr "from_inquiry_state" .none).eq (.ofOption inquiryState))
  else pure false

def stateCandidates (m : StateMachine) (snapshot : WorkflowSnapshot) (eventCode : String) :
    Except Exn (List Value) :=
  filterRules (listsEvent eventCode snapshot.inquiryState) m.transitions

def candidates (snapshot : WorkflowSnapshot) (rules : List Value) : Except Exn (List Value) :=
  filterRules (fun rule => do
    visitMatches (← rule.getOr "visit" (.dict [])) snapshot.visitStatus) rules

/-- The transition `resolve` builds once `rule` is the only candidate. -/
def apply (m : StateMachine) (snapshot : WorkflowSnapshot) (eventCode : String)
    (rule : Value) : Call Transition := do
  let visit ← py (rule.getOr "visit" (.dict []))
  let defaultAction ← py (m.defaults.getOr "version_action" .none)
  let versionAction ← py (rule.getOr "version_action" defaultAction)
  let nextVersion ← nextVersion snapshot versionAction
  let history ← py (rule.getOr "history" (.dict []))
  let nextVisitStatus ← nextVisitStatus visit snapshot.visitStatus
  let toState ← py (rule.item "to_inquiry_state")
  m.ensureVisitStatusAllowed toState nextVisitStatus
  let ruleId ← py (rule.item "id")
  let visitMode ← py (visit.item "mode")
  let guardRefs ← py (do (← rule.getOr "guard_refs" (.list [])).iter)
  let effects ← py (do (← rule.getOr "effects" (.list [])).iter)
  let recordInquiry ← py (history.getOr "record_inquiry_state_history" .none)
  let recordVisit ← py (history.getOr "record_visit_state_history" .none)
  let defaultEvent ← py (m.defaults.getOr "record_business_event" (.bool false))
  let recordEvent ← py (history.getOr "record_business_event" defaultEvent)
  pure {
    ruleId := ruleId
    eventCode := eventCode
    inquiryStateBefore := snapshot.inquiryState
    inquiryStateAfter := toState
    visitMode := visitMode
    visitStatusBefore := snapshot.visitStatus
    visitStatusAfter := nextVisitStatus
    stateVersionBefore := snapshot.stateVersion
    stateVersionAfter := nextVersion
    versionAction := versionAction
    guardRefs := guardRefs
    effects := effects
    recordInquiryStateHistory := recordInquiry.truthy
    recordVisitStateHistory := recordVisit.truthy
    recordBusinessEvent := recordEvent.truthy }

/-- `resolve`. -/
def resolve (m : StateMachine) (snapshot : WorkflowSnapshot) (eventCode : String) :
    Call Transition := do
  let _ ← m.event eventCode
  if m.terminalStates.any fun a => a.eq (.ofOption snapshot.inquiryState) then
    throw (.invalid .terminalState)
  m.ensureVisitStatusAllowed (.ofOption snapshot.inquiryState)
    (.ofOption snapshot.visitStatus)
  let listed ← py (m.stateCandidates snapshot eventCode)
  let matching ← py (candidates snapshot listed)
  match matching with
  | [] =>
      throw (.invalid (if listed.isEmpty then .unlistedTransition else .visitStateMismatch))
  | [rule] => m.apply snapshot eventCode rule
  | _ :: _ :: _ => throw (.invalid .ambiguousTransition)

end StateMachine
end WaterCare.Engine
