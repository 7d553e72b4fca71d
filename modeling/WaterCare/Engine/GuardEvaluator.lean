import WaterCare.Engine.StateMachine

/-!
`workflow/engine/guard_evaluator.py` over the raw documents. The evaluator
never raises `InvalidStateTransition`; what it cannot look up is a Python
exception here as well.
-/

namespace WaterCare.Engine
open Py

/-- `GuardContext`. -/
structure GuardContext where
  actorRole : Option String
  isAuthenticated : Bool
  correlationId : Option String
  idempotencyKey : Option String
  requestedStateVersion : Option Int
  trustedInternalActor : Bool
  domainResults : String → Option Bool

/-- The `reason` of a guard failure. -/
inductive GuardReason
  | unknownEvent
  | requiredGuardMissing
  | missingCorrelationId
  | missingOrInvalidIdempotencyKey
  | unauthenticatedActor
  | untrustedInternalActor
  | eventRoleMismatch
  | systemActorMismatch
  | actorRoleMismatch
  | unexpectedStateVersionGuard
  | stateVersionMismatch
  | unexpectedIdempotencyGuard
  | domainResultMissing
  | domainGuardRejected
  deriving DecidableEq, Repr

structure GuardFailure where
  guardId : Value
  category : Value
  httpStatus : Value
  errorCode : Value
  message : Value
  reason : GuardReason

/-- `GuardEvaluation`: `allowed` is the absence of a failure. -/
structure GuardEvaluation where
  failure : Option GuardFailure

def GuardEvaluation.allowed (e : GuardEvaluation) : Bool := e.failure.isNone

/-- `CORE_ROLE_GUARDS`. -/
def coreRoleGuards : List (Atom × String) :=
  [(.str "G-ACTOR-CUSTOMER", "CUSTOMER"), (.str "G-ACTOR-CONSULTANT", "CONSULTANT"),
    (.str "G-ACTOR-TECHNICIAN", "TECHNICIAN"), (.str "G-ACTOR-SYSTEM", "SYSTEM")]

structure GuardEvaluator where
  events : List (Atom × Value)
  guards : List (Atom × Value)
  defaults : Value
  guardPrecedence : List (Atom × Nat)

/-- `value in items` for a list. -/
def inItems (value : Value) (items : List Value) : Bool := items.any fun item => value.eq item

/-- `effective.insert(effective.index(next), value)`. -/
def insertBefore (next value : Value) : List Value → List Value
  | [] => [value]
  | item :: rest => if next.eq item then value :: item :: rest else item :: insertBefore next value rest

/-- The loop of `_effective_guard_precedence` over `categories`. Slicing a
mapping raises, and it is sliced for the first category not declared. -/
def fillPrecedence (sliceable : Bool) : List Value → List Value → Except Exn (List Value)
  | effective, [] => .ok effective
  | effective, category :: later =>
      if inItems category effective then fillPrecedence sliceable effective later
      else if !sliceable then .error .typeError
      else
        match later.find? fun candidate => inItems candidate effective with
        | none => fillPrecedence sliceable (effective ++ [category]) later
        | some next => fillPrecedence sliceable (insertBefore next category effective) later

/-- `{category: index for index, category in enumerate(effective)}`. -/
def precedenceIndex : Nat → List (Atom × Nat) → List Value → Except Exn (List (Atom × Nat))
  | _, acc, [] => .ok acc
  | index, acc, category :: rest => do
      let key ← category.hashed
      precedenceIndex (index + 1) (assign acc key index) rest

/-- `_effective_guard_precedence`. -/
def effectiveGuardPrecedence (declared categories : Value) : Except Exn (List (Atom × Nat)) := do
  let effective ← fillPrecedence categories.asDict?.isNone (← declared.iter) (← categories.iter)
  precedenceIndex 0 [] effective

def contractFailure (guard : Value) (reason : GuardReason) : Except Exn GuardFailure := do
  let failure ← guard.item "failure"
  pure {
    guardId := ← guard.item "id"
    category := ← guard.item "category"
    httpStatus := ← failure.item "http_status"
    errorCode := ← failure.item "error_code"
    message := ← failure.item "message"
    reason := reason }

def syntheticGuardFailure (guardId category : String) (httpStatus : Int)
    (errorCode message : String) (reason : GuardReason) : GuardFailure :=
  ⟨.str guardId, .str category, .atom (.int httpStatus), .str errorCode, .str message, reason⟩

def requires (event : Value) (key : String) : Except Exn Bool := do
  pure (← event.getOr key .none).isTrue

/-- `_missing_required_guard`. -/
def missingRequiredGuard (event : Value) (guardRefs : List Value) : Except Exn (Option String) := do
  let version ← requires event "requires_state_version"
  let idempotency ← requires event "requires_idempotency_key"
  let required := (if version then ["G-STATE-VERSION"] else []) ++
    (if idempotency then ["G-IDEMPOTENCY-KEY"] else [])
  pure (required.find? fun guardId => !guardRefs.any fun ref => ref.eqStr guardId)

/-- `_has_text`. -/
def hasTextOption (value : Option String) : Bool := value.elim false hasText

/-- `_valid_idempotency_key`. -/
def validIdempotencyKey (value : Option String) : Bool :=
  value.elim false fun key => hasText key && decide ((strip key).length ≤ 128)

/-- The first referenced core role guard; a reference that cannot be hashed
raises when it is looked up before one is found. -/
def roleGuardRef : List Value → Except Exn (Option Atom)
  | [] => .ok none
  | ref :: rest => do
      let key ← ref.hashed
      if (lookup coreRoleGuards key).isSome then pure (some key) else roleGuardRef rest

namespace GuardEvaluator

/-- `GuardEvaluator.__init__` on given documents. -/
def init (documents : Value) : Except Exn GuardEvaluator := do
  let events ← keyedBy "code" (← (← (← documents.item "events").item "events").iter)
  let guards ← keyedBy "id" (← (← (← documents.item "guards").item "guards").iter)
  let defaults ← (← documents.item "transitions").getOr "defaults" (.dict [])
  let guardDocument ← documents.item "guards"
  let declared ← (← guardDocument.item "evaluation_policy").item "security_precedence"
  let categories ← guardDocument.item "guard_categories"
  let guardPrecedence ← effectiveGuardPrecedence declared categories
  pure ⟨events, guards, defaults, guardPrecedence⟩

/-- `self._guards[guard_id]`. -/
def guard (g : GuardEvaluator) (guardId : Atom) : Except Exn Value :=
  match lookup g.guards guardId with
  | some guard => .ok guard
  | none => .error (.keyError guardId.text)

/-- `_evaluate_event_actor`. -/
def evaluateEventActor (g : GuardEvaluator) (event : Value) (guardRefs : List Value)
    (context : GuardContext) : Except Exn (Option GuardFailure) := do
  let system := context.actorRole = some "SYSTEM"
  if ¬system ∧ context.isAuthenticated = false then
    pure (some (syntheticGuardFailure "G-AUTHENTICATED-ACTOR" "AUTHENTICATION" 401
      "AUTH_REQUIRED" "인증이 필요합니다." .unauthenticatedActor))
  else if system ∧ context.trustedInternalActor = false then
    match lookup g.guards (.str "G-ACTOR-SYSTEM") with
    | some guard => some <$> contractFailure guard .untrustedInternalActor
    | none =>
        pure (some (syntheticGuardFailure "G-INTERNAL-ACTOR" "AUTHENTICATION" 403 "FORBIDDEN"
          "내부 처리 전용 이벤트입니다." .untrustedInternalActor))
  else if ← (← event.getOr "actor_roles" (.list [])).contains context.actorRole then
    pure none
  else
    match ← roleGuardRef guardRefs with
    | some guardId => some <$> contractFailure (← g.guard guardId) .eventRoleMismatch
    | none =>
        pure (some (syntheticGuardFailure "G-EVENT-ACTOR-ROLE" "ROLE" 403 "FORBIDDEN"
          "이 역할로 수행할 수 없는 작업입니다." .eventRoleMismatch))

/-- `_evaluate_guard`: the reason when the guard does not hold. -/
def evaluateGuard (guardId : Atom) (event : Value) (snapshot : WorkflowSnapshot)
    (context : GuardContext) : Except Exn (Option GuardReason) :=
  let rejectUnless (passed : Bool) (reason : GuardReason) : Option GuardReason :=
    if passed then none else some reason
  match lookup coreRoleGuards guardId with
  | some "SYSTEM" =>
      .ok (rejectUnless (context.actorRole = some "SYSTEM" && context.trustedInternalActor)
        .systemActorMismatch)
  | some role =>
      .ok (rejectUnless (context.isAuthenticated && context.actorRole = some role)
        .actorRoleMismatch)
  | none =>
      if guardId = .str "G-STATE-VERSION" then do
        if ← requires event "requires_state_version" then
          pure (rejectUnless (context.requestedStateVersion.isSome &&
              context.requestedStateVersion = snapshot.stateVersion.map Int.ofNat)
            .stateVersionMismatch)
        else pure (some .unexpectedStateVersionGuard)
      else if guardId = .str "G-IDEMPOTENCY-KEY" then do
        pure (rejectUnless (← requires event "requires_idempotency_key")
          .unexpectedIdempotencyGuard)
      else
        match guardId with
        | .str name =>
            match context.domainResults name with
            | none => .ok (some .domainResultMissing)
            | some passed => .ok (rejectUnless passed .domainGuardRejected)
        | _ => .ok (some .domainResultMissing)

/-- The sort key of a reference: the rank of its guard's category. -/
def refRank (g : GuardEvaluator) (guardId : Atom) : Except Exn Nat := do
  let category ← (← (← g.guard guardId).item "category").hashed
  pure ((lookup g.guardPrecedence category).getD g.guardPrecedence.length)

/-- Every reference with its rank; the first that cannot be looked up raises. -/
def rankedRefs (g : GuardEvaluator) : List Value → Except Exn (List (Nat × Atom))
  | [] => .ok []
  | ref :: rest => do
      let guardId ← ref.hashed
      let rank ← g.refRank guardId
      let ranked ← g.rankedRefs rest
      pure ((rank, guardId) :: ranked)

/-- `_ordered_guard_refs`: by rank, in the order of the references within one rank. -/
def orderedGuardRefs (g : GuardEvaluator) (guardRefs : List Value) : Except Exn (List Atom) := do
  let ranked ← g.rankedRefs guardRefs
  pure ((sorted (fun p q => decide (p.1 ≤ q.1)) ranked).map (·.2))

/-- The loop of `evaluate` over the ordered guards, stopping at the first failure. -/
def firstFailure (g : GuardEvaluator) (event : Value) (snapshot : WorkflowSnapshot)
    (context : GuardContext) : List Atom → Except Exn (Option GuardFailure)
  | [] => .ok none
  | guardId :: rest => do
      let guard ← g.guard guardId
      match ← evaluateGuard guardId event snapshot context with
      | some reason => some <$> contractFailure guard reason
      | none => g.firstFailure event snapshot context rest

/-- `evaluate`. -/
def evaluate (g : GuardEvaluator) (transition : Transition) (snapshot : WorkflowSnapshot)
    (context : GuardContext) : Except Exn GuardEvaluation := do
  match lookup g.events (.str transition.eventCode) with
  | none =>
      pure ⟨some (syntheticGuardFailure "G-EVENT-CONTRACT" "BUSINESS_RULE" 500 "INTERNAL_ERROR"
        "등록되지 않은 이벤트입니다." .unknownEvent)⟩
  | some event =>
      if let some guardId ← missingRequiredGuard event transition.guardRefs then
        return ⟨some (syntheticGuardFailure guardId "BUSINESS_RULE" 500 "INTERNAL_ERROR"
          "필수 상태 전이 Guard가 구성되지 않았습니다." .requiredGuardMissing)⟩
      if let some failure ← g.evaluateEventActor event transition.guardRefs context then
        return ⟨some failure⟩
      if (← g.defaults.getOr "require_correlation_id" .none).isTrue &&
          !hasTextOption context.correlationId then
        return ⟨some (syntheticGuardFailure "G-CORRELATION-ID" "PAYLOAD" 422 "VALIDATION_ERROR"
          "요청 추적 ID가 필요합니다." .missingCorrelationId)⟩
      if (← requires event "requires_idempotency_key") &&
          !validIdempotencyKey context.idempotencyKey then
        return ⟨some (syntheticGuardFailure "G-IDEMPOTENCY-KEY" "PAYLOAD" 422 "VALIDATION_ERROR"
          "올바른 Idempotency-Key가 필요합니다." .missingOrInvalidIdempotencyKey)⟩
      let ordered ← g.orderedGuardRefs transition.guardRefs
      return ⟨← g.firstFailure event snapshot context ordered⟩

end GuardEvaluator
end WaterCare.Engine
