import WaterCare.Service.Request

/-!
The transaction the services share: lock the inquiry, replay a stored answer,
resolve the event, evaluate the guards, write, and store the answer. A service
is its own values in this transaction.
-/

namespace WaterCare.Service
open Workflow Store Py
open Engine (validIdempotencyKey Reason)

/-- The rows an operation locks before its guards. -/
structure ActionContext where
  consultation : Option (Stored Consultation)
  visit : Option (Stored Visit)
  latestVisit : Option (Stored Visit)
  technician : Option User
  handling : Option CompletedHandling
  questions : List InquiryQA

def ActionContext.empty : ActionContext := ⟨none, none, none, none, none, []⟩

/-- The row an operation returns. -/
inductive Resource
  | root
  | consultation (row : Stored Consultation)
  | visit (row : Stored Visit)
  | followup (row : Stored FollowupConfirmation)

namespace Resource

/-- `getattr(resource, "public_id", inquiry.public_id)`. -/
def publicId (inquiry : Nat) : Resource → Nat
  | root => inquiry
  | consultation c => c.1.id
  | visit v => v.1.id
  | followup f => f.1.id

end Resource

/-- The values of one service. `workflowActor` is the user whose role the guards check. -/
structure InquiryAction where
  operationId : OperationId
  event : EventCode
  inquiry : Nat
  requestHash : String
  requestedVersion : Nat
  workflowActor : User
  /-- The filter of the locking query beside the identifier. -/
  lock : Inquiry → Bool
  /-- What is read before the state machine is asked. -/
  prepare : Aggregate → Except Failure ActionContext
  /-- The rejections answered with a state conflict, the others with `unresolved`. -/
  conflictReasons : List Reason
  conflict : Aggregate → ActionContext → Failure
  unresolved : Failure
  requiredEffects : List String
  domainResults : Aggregate → ActionContext → List (GuardId × Bool)
  /-- The guards whose failure is answered with a state conflict. -/
  conflictGuards : List GuardId
  guardFailure : GuardFailure → Failure
  mutate : Plan → Aggregate → ActionContext → Nat → Except Failure (Aggregate × Resource)
  /-- The fields of the inquiry that are saved with the new state and version. -/
  apply : Plan → Inquiry → Inquiry
  settle : Aggregate → Except Failure Aggregate
  records : TransitionRule → Bool
  changeReason : ActionContext → Option String
  /-- What is written after the history of the inquiry. -/
  finish : Plan → Aggregate → Aggregate → Resource → Except Failure Aggregate
  respond : Aggregate → ActionContext → Resource → Dict

/-- `apply_state_transition`. -/
def applyStateTransition (plan : Plan) (q : Inquiry) : Inquiry :=
  { q with status := plan.rule.target, stateVersion := plan.version }

namespace InquiryAction
variable (action : InquiryAction) (request : Request)

def guardContext (a : Aggregate) (context : ActionContext) : GuardContext where
  actorRole := action.workflowActor.role.actorRole
  isAuthenticated := true
  trustedInternalActor := false
  correlationId := request.correlationId.1
  idempotencyKey := some request.idempotencyKey.1
  requestedStateVersion := some action.requestedVersion
  domainResults := action.domainResults a context

/-- The history row of a plan. -/
def historyRow (a : Aggregate) (context : ActionContext) (plan : Plan) : InquiryHistory where
  actor := .user request.actor.id
  event := plan.rule.event
  fromState := some a.q.status
  toState := plan.rule.target
  stateVersion := plan.version
  correlationId := request.correlationId.1
  idempotencyKey := request.idempotencyKey.1
  changeReason := action.changeReason context
  changedAt := request.now

def scope : Scope := request.scope action.operationId

/-- The plan of the event, with the required effects. -/
def plan (a : Aggregate) (context : ActionContext) : Except Failure Plan :=
  match shipped.resolve a.snapshot action.event with
  | .error reason =>
      .error (if action.conflictReasons.contains reason then action.conflict a context
        else action.unresolved)
  | .ok plan =>
      if action.requiredEffects.all plan.rule.effects.contains then .ok plan
      else .error (.internalError requestFailed)

def checkGuards (a : Aggregate) (context : ActionContext) (plan : Plan) : Except Failure Unit :=
  match shipped.evaluate plan.rule a.snapshot (action.guardContext request a context) with
  | none => .ok ()
  | some failure =>
      .error (if action.conflictGuards.any fun guard => decide (failure.guardId = .contract guard)
        then action.conflict a context else action.guardFailure failure)

/-- The writes on the aggregate, up to the history and what follows it. -/
def write (a : Aggregate) (context : ActionContext) (plan : Plan) (fresh : Nat) :
    Except Failure (Aggregate × Resource) := do
  let (written, resource) ← action.mutate plan a context fresh
  let inquiry ← save (action.apply plan written.q) "IntegrityError"
  let settled ← action.settle { written with inquiry := inquiry }
  let recorded ←
    if action.records plan.rule then
      settled.recordHistory (action.historyRow request a context plan)
    else pure settled
  let finished ← action.finish plan a recorded resource
  pure (finished, resource)

/-- The transaction after the replay check. -/
def execute (w : World) (a : Aggregate) : Except Failure (World × Answer) := do
  let context ← action.prepare a
  let plan ← action.plan a context
  action.checkGuards request a context plan
  w.withIdempotencyRecord (action.scope request) action.requestHash fun pending => do
    let (written, resource) ← action.write request a context plan w.nextId
    pure (pending.commit action.inquiry written (action.scope request) action.requestHash 200
      (action.respond written context resource) (resource.publicId action.inquiry) request.now 1)

def perform (w : World) : Except Failure (World × Answer) :=
  match (w.aggregate action.inquiry).filter fun a => action.lock a.q with
  | none => .error .notFound
  | some a =>
      match w.records.lookup (action.scope request) with
      | some existing => w.replay existing action.requestHash
      | none => action.execute request w a

end InquiryAction
end WaterCare.Service
