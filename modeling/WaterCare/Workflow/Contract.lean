import WaterCare.Workflow.Codes
import WaterCare.Engine.Resolve
import Mathlib.Data.List.Nodup

/-!
A workflow contract over the enumerated codes, and its `resolve`. The raw
documents of such a contract are given by `toDocuments`, and the engine over
those documents computes the same plan.
-/

namespace WaterCare.Workflow
open Py Engine

inductive ActorRole
  | customer
  | consultant
  | technician
  | operator
  | system
  deriving DecidableEq, Repr

def ActorRole.code : ActorRole → String
  | customer => "CUSTOMER"
  | consultant => "CONSULTANT"
  | technician => "TECHNICIAN"
  | operator => "OPERATOR"
  | system => "SYSTEM"

inductive GuardCategory
  | authentication
  | role
  | resourceAccess
  | assignment
  | concurrency
  | idempotency
  | payload
  | businessRule
  | safetyAndEvidence
  | completion
  deriving DecidableEq, Repr

def GuardCategory.code : GuardCategory → String
  | authentication => "AUTHENTICATION"
  | role => "ROLE"
  | resourceAccess => "RESOURCE_ACCESS"
  | assignment => "ASSIGNMENT"
  | concurrency => "CONCURRENCY"
  | idempotency => "IDEMPOTENCY"
  | payload => "PAYLOAD"
  | businessRule => "BUSINESS_RULE"
  | safetyAndEvidence => "SAFETY_AND_EVIDENCE"
  | completion => "COMPLETION"

/-- The visit mapping of a rule, one constructor for each mode. -/
inductive VisitRule
  | requireAbsent
  | preserve
  | preserveRequireStatus (requiredStatus : VisitStatus)
  | create (toStatus : VisitStatus)
  | transition (fromStatus toStatus : VisitStatus)
  deriving DecidableEq, Repr

namespace VisitRule

def matchesVisit : VisitRule → Option VisitStatus → Bool
  | requireAbsent, v | create _, v => v.isNone
  | preserve, _ => true
  | preserveRequireStatus s, v | transition s _, v => decide (v = some s)

def nextVisitStatus : VisitRule → Option VisitStatus → Option VisitStatus
  | create s, _ | transition _ s, _ => some s
  | preserve, v | preserveRequireStatus _, v => v
  | requireAbsent, _ => none

end VisitRule

/-- A rule. Its version action is `INITIALIZE_1` without a source state and the
default increment otherwise. -/
structure TransitionRule where
  id : String
  event : EventCode
  source : Option InquiryState
  target : InquiryState
  visit : VisitRule
  recordInquiryStateHistory : Bool
  recordVisitStateHistory : Bool
  recordBusinessEvent : Bool
  guardRefs : List GuardId
  effects : List String
  deriving DecidableEq

structure EventContract where
  actorRole : ActorRole
  otherRoles : List ActorRole
  requiresIdempotencyKey : Bool
  requiresStateVersion : Bool

def EventContract.actorRoles (e : EventContract) : List ActorRole := e.actorRole :: e.otherRoles

structure GuardContract where
  category : GuardCategory
  httpStatus : Nat
  errorCode : String
  message : String

structure WorkflowContract where
  terminalStates : List InquiryState
  allowedVisitStatuses : InquiryState → List VisitStatus
  transitions : List TransitionRule
  events : EventCode → EventContract
  guards : GuardId → GuardContract
  guardCategories : List GuardCategory
  securityPrecedence : List GuardCategory

/-- `WorkflowSnapshot` over the codes; an inquiry comes with its version. -/
structure Snapshot where
  inquiry : Option (InquiryState × Nat)
  visitStatus : Option VisitStatus
  deriving DecidableEq

def Snapshot.inquiryState (s : Snapshot) : Option InquiryState := s.inquiry.map (·.1)

/-- What `resolve` returns, with the rule in place of the fields copied from it. -/
structure Plan where
  rule : TransitionRule
  version : Nat
  visitStatus : Option VisitStatus
  deriving DecidableEq

/-- The snapshot with the plan's state, version and visit status. -/
def Plan.snapshot (p : Plan) : Snapshot := ⟨some (p.rule.target, p.version), p.visitStatus⟩

namespace WorkflowContract
variable (c : WorkflowContract)

def admits : Option InquiryState → Option VisitStatus → Bool
  | some s, some v => (c.allowedVisitStatuses s).contains v
  | _, _ => true

def listed (state : Option InquiryState) (e : EventCode) : List TransitionRule :=
  c.transitions.filter fun r => decide (r.event = e) && decide (r.source = state)

def matching (state : Option InquiryState) (e : EventCode) (visit : Option VisitStatus) :
    List TransitionRule :=
  (c.listed state e).filter fun r => r.visit.matchesVisit visit

def nextVersion (s : Snapshot) : Nat := s.inquiry.elim 1 fun i => i.2 + 1

def resolve (s : Snapshot) (e : EventCode) : Except Reason Plan :=
  if ∃ t ∈ c.terminalStates, s.inquiryState = some t then .error .terminalState
  else if c.admits s.inquiryState s.visitStatus = false then .error .visitStatusNotAllowed
  else
    match c.matching s.inquiryState e s.visitStatus with
    | [] =>
        .error (if (c.listed s.inquiryState e).isEmpty then .unlistedTransition
          else .visitStateMismatch)
    | [r] =>
        let visit := r.visit.nextVisitStatus s.visitStatus
        if c.admits (some r.target) visit then .ok ⟨r, nextVersion s, visit⟩
        else .error .visitStatusNotAllowed
    | _ :: _ :: _ => .error .ambiguousTransition

end WorkflowContract

/-! ### The documents of a contract -/

def VisitRule.document : VisitRule → List (String × Value)
  | requireAbsent => [("mode", .str "REQUIRE_ABSENT")]
  | preserve => [("mode", .str "PRESERVE")]
  | preserveRequireStatus s =>
      [("mode", .str "PRESERVE_REQUIRE_STATUS"), ("required_status", .str s.code)]
  | create s => [("mode", .str "CREATE"), ("from_status", .none), ("to_status", .str s.code)]
  | transition s t =>
      [("mode", .str "TRANSITION"), ("from_status", .str s.code), ("to_status", .str t.code)]

def TransitionRule.document (r : TransitionRule) : List (String × Value) :=
  [("id", .str r.id), ("event", .str r.event.code),
    ("from_inquiry_state", .ofOption (r.source.map InquiryState.code)),
    ("to_inquiry_state", .str r.target.code), ("visit", mapping r.visit.document),
    ("history", mapping
      [("record_inquiry_state_history", .bool r.recordInquiryStateHistory),
        ("record_visit_state_history", .bool r.recordVisitStateHistory),
        ("record_business_event", .bool r.recordBusinessEvent)]),
    ("guard_refs", texts (r.guardRefs.map GuardId.code)), ("effects", texts r.effects)] ++
  if r.source.isNone then [("version_action", .str "INITIALIZE_1")] else []

def EventContract.document (e : EventContract) (code : EventCode) : List (String × Value) :=
  [("code", .str code.code), ("actor_roles", texts (e.actorRoles.map ActorRole.code)),
    ("requires_idempotency_key", .bool e.requiresIdempotencyKey),
    ("requires_state_version", .bool e.requiresStateVersion)]

def GuardContract.document (g : GuardContract) (id : GuardId) : List (String × Value) :=
  [("id", .str id.code), ("category", .str g.category.code),
    ("failure", mapping [("http_status", .atom (.int g.httpStatus)),
      ("error_code", .str g.errorCode), ("message", .str g.message)])]

namespace WorkflowContract
variable (c : WorkflowContract)

def stateDocument (s : InquiryState) : List (String × Value) :=
  [("code", .str s.code),
    ("allowed_visit_statuses", texts ((c.allowedVisitStatuses s).map VisitStatus.code))]

/-- The fields of the documents that the engine reads. -/
def toDocuments : Value :=
  mapping [
    ("states", mapping [
      ("terminal_states", texts (c.terminalStates.map InquiryState.code)),
      ("states", .list (InquiryState.all.map fun s => mapping (c.stateDocument s)))]),
    ("events", mapping [
      ("events", .list (EventCode.all.map fun e => mapping ((c.events e).document e)))]),
    ("transitions", mapping [
      ("defaults", mapping [("require_correlation_id", .bool true),
        ("record_business_event", .bool true), ("version_action", .str "INCREMENT")]),
      ("transitions", .list (c.transitions.map fun r => mapping r.document))]),
    ("guards", mapping [
      ("evaluation_policy", mapping [
        ("security_precedence", texts (c.securityPrecedence.map GuardCategory.code))]),
      ("guard_categories", texts (c.guardCategories.map GuardCategory.code)),
      ("guards", .list (GuardId.all.map fun g => mapping ((c.guards g).document g)))])]

end WorkflowContract
end WaterCare.Workflow
