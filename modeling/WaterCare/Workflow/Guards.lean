import WaterCare.Workflow.Progress
import WaterCare.Engine.Evaluate

/-!
Guard evaluation over the codes, in the order of the source, and that the
engine over the documents of a contract computes the same evaluation.
-/

namespace WaterCare.Workflow
open Py Engine Contract

/-- `GuardContext` over the codes. The services pass a UUID as correlation id. -/
structure GuardContext where
  actorRole : ActorRole
  isAuthenticated : Bool
  trustedInternalActor : Bool
  correlationId : String
  idempotencyKey : Option String
  requestedStateVersion : Option Nat
  domainResults : List (GuardId × Bool)

/-- The guard a failure names: one of the contract, or one of the evaluator's own. -/
inductive FailedGuard
  | contract (guard : GuardId)
  | authenticatedActor
  | correlationId
  | eventActorRole
  deriving DecidableEq, Repr

def FailedGuard.code : FailedGuard → String
  | contract guard => guard.code
  | authenticatedActor => "G-AUTHENTICATED-ACTOR"
  | correlationId => "G-CORRELATION-ID"
  | eventActorRole => "G-EVENT-ACTOR-ROLE"

structure GuardFailure where
  guardId : FailedGuard
  category : GuardCategory
  httpStatus : Nat
  errorCode : String
  message : String
  reason : GuardReason
  deriving DecidableEq

/-- The role a core role guard requires. -/
def GuardId.coreRole : GuardId → Option ActorRole
  | .actorCustomer => some .customer
  | .actorConsultant => some .consultant
  | .actorTechnician => some .technician
  | .actorSystem => some .system
  | _ => none

section Precedence
variable {α : Type} [DecidableEq α]

def insertCategory (next category : α) : List α → List α
  | [] => [category]
  | item :: rest =>
      if next = item then category :: item :: rest else item :: insertCategory next category rest

/-- The loop of `_effective_guard_precedence`. -/
def fillCategories : List α → List α → List α
  | effective, [] => effective
  | effective, category :: later =>
      if category ∈ effective then fillCategories effective later
      else
        match later.find? fun candidate => decide (candidate ∈ effective) with
        | none => fillCategories (effective ++ [category]) later
        | some next => fillCategories (insertCategory next category effective) later

end Precedence

namespace WorkflowContract
variable (c : WorkflowContract)

def contractFailure (guard : GuardId) (reason : GuardReason) : GuardFailure :=
  ⟨.contract guard, (c.guards guard).category, (c.guards guard).httpStatus,
    (c.guards guard).errorCode, (c.guards guard).message, reason⟩

/-- The rank of a guard's category in the effective precedence. -/
def rank (guard : GuardId) : Nat :=
  (fillCategories c.securityPrecedence c.guardCategories).idxOf (c.guards guard).category

def orderedGuardRefs (refs : List GuardId) : List GuardId :=
  sorted (fun g h => decide (c.rank g ≤ c.rank h)) refs

/-- The version and key guards the event requires. -/
def requiredGuards (event : EventContract) : List GuardId :=
  (if event.requiresStateVersion then [.stateVersion] else []) ++
    (if event.requiresIdempotencyKey then [.idempotencyKey] else [])

def missingRequiredGuard (event : EventContract) (refs : List GuardId) : Option GuardFailure :=
  ((requiredGuards event).find? fun guard => !refs.contains guard).map fun guard =>
    ⟨.contract guard, .businessRule, 500, "INTERNAL_ERROR",
      "필수 상태 전이 Guard가 구성되지 않았습니다.", .requiredGuardMissing⟩

def evaluateEventActor (event : EventContract) (refs : List GuardId) (context : GuardContext) :
    Option GuardFailure :=
  if context.actorRole ≠ .system ∧ context.isAuthenticated = false then
    some ⟨.authenticatedActor, .authentication, 401, "AUTH_REQUIRED", "인증이 필요합니다.",
      .unauthenticatedActor⟩
  else if context.actorRole = .system ∧ context.trustedInternalActor = false then
    some (c.contractFailure .actorSystem .untrustedInternalActor)
  else if event.actorRoles.contains context.actorRole then none
  else
    match refs.find? fun guard => guard.coreRole.isSome with
    | some guard => some (c.contractFailure guard .eventRoleMismatch)
    | none =>
        some ⟨.eventActorRole, .role, 403, "FORBIDDEN", "이 역할로 수행할 수 없는 작업입니다.",
          .eventRoleMismatch⟩

def correlationFailure (context : GuardContext) : Option GuardFailure :=
  if hasText context.correlationId then none
  else some ⟨.correlationId, .payload, 422, "VALIDATION_ERROR", "요청 추적 ID가 필요합니다.",
    .missingCorrelationId⟩

def keyFailure (event : EventContract) (context : GuardContext) : Option GuardFailure :=
  if event.requiresIdempotencyKey && !validIdempotencyKey context.idempotencyKey then
    some ⟨.contract .idempotencyKey, .payload, 422, "VALIDATION_ERROR",
      "올바른 Idempotency-Key가 필요합니다.", .missingOrInvalidIdempotencyKey⟩
  else none

/-- `_evaluate_guard`: the reason when the guard does not hold. -/
def evaluateGuard (event : EventContract) (version : Option Nat) (context : GuardContext)
    (guard : GuardId) : Option GuardReason :=
  let rejectUnless (passed : Bool) (reason : GuardReason) : Option GuardReason :=
    if passed then none else some reason
  match guard.coreRole with
  | some .system =>
      rejectUnless (decide (context.actorRole = .system) && context.trustedInternalActor)
        .systemActorMismatch
  | some role =>
      rejectUnless (context.isAuthenticated && decide (context.actorRole = role))
        .actorRoleMismatch
  | none =>
      if guard = .stateVersion then
        if event.requiresStateVersion then
          rejectUnless (context.requestedStateVersion.isSome &&
            decide (context.requestedStateVersion = version)) .stateVersionMismatch
        else some .unexpectedStateVersionGuard
      else if guard = .idempotencyKey then
        rejectUnless event.requiresIdempotencyKey .unexpectedIdempotencyGuard
      else
        match context.domainResults.lookup guard with
        | none => some .domainResultMissing
        | some passed => rejectUnless passed .domainGuardRejected

def firstFailure (event : EventContract) (version : Option Nat) (context : GuardContext)
    (refs : List GuardId) : Option GuardFailure :=
  refs.findSome? fun guard =>
    (evaluateGuard event version context guard).map (c.contractFailure guard)

/-- `GuardEvaluator.evaluate` on the rule of a plan: the failure, if any. -/
def evaluate (rule : TransitionRule) (s : Snapshot) (context : GuardContext) :
    Option GuardFailure :=
  let event := c.events rule.event
  missingRequiredGuard event rule.guardRefs <|>
    (c.evaluateEventActor event rule.guardRefs context <|>
      (correlationFailure context <|>
        (keyFailure event context <|>
          c.firstFailure event (s.inquiry.map (·.2)) context
            (c.orderedGuardRefs rule.guardRefs))))

/-! ### When every guard holds -/

theorem mem_orderedGuardRefs {guard : GuardId} {refs : List GuardId} :
    guard ∈ c.orderedGuardRefs refs ↔ guard ∈ refs :=
  mem_sorted

theorem missingRequiredGuard_eq_none {event : EventContract} {refs : List GuardId} :
    missingRequiredGuard event refs = none ↔ ∀ guard ∈ requiredGuards event, guard ∈ refs := by
  rw [missingRequiredGuard, Option.map_eq_none_iff, List.find?_eq_none]
  refine forall₂_congr fun guard _ => ?_
  rw [Bool.not_eq_true, Bool.not_eq_false', List.contains_iff_mem]

theorem evaluateEventActor_eq_none {event : EventContract} {refs : List GuardId}
    {context : GuardContext} :
    c.evaluateEventActor event refs context = none ↔
      (context.actorRole ≠ .system → context.isAuthenticated = true) ∧
        (context.actorRole = .system → context.trustedInternalActor = true) ∧
        context.actorRole ∈ event.actorRoles := by
  unfold evaluateEventActor
  split_ifs with unauthenticated untrusted allowed
  · refine iff_of_false (by simp) fun h => ?_
    rw [h.1 unauthenticated.1] at unauthenticated
    cases unauthenticated.2
  · refine iff_of_false (by simp) fun h => ?_
    rw [h.2.1 untrusted.1] at untrusted
    cases untrusted.2
  · refine iff_of_true rfl ⟨fun other => ?_, fun system => ?_, List.contains_iff_mem.1 allowed⟩
    · exact Bool.not_eq_false _ ▸ fun no => unauthenticated ⟨other, no⟩
    · exact Bool.not_eq_false _ ▸ fun no => untrusted ⟨system, no⟩
  · refine iff_of_false ?_ fun h => allowed (List.contains_iff_mem.2 h.2.2)
    split <;> simp

theorem firstFailure_eq_none {event : EventContract} {version : Option Nat}
    {context : GuardContext} {refs : List GuardId} :
    c.firstFailure event version context refs = none ↔
      ∀ guard ∈ refs, evaluateGuard event version context guard = none := by
  rw [firstFailure, List.findSome?_eq_none_iff]
  refine forall₂_congr fun guard _ => ?_
  rw [Option.map_eq_none_iff]

theorem evaluate_eq_none {rule : TransitionRule} {s : Snapshot} {context : GuardContext} :
    c.evaluate rule s context = none ↔
      (∀ guard ∈ requiredGuards (c.events rule.event), guard ∈ rule.guardRefs) ∧
        c.evaluateEventActor (c.events rule.event) rule.guardRefs context = none ∧
        correlationFailure context = none ∧ keyFailure (c.events rule.event) context = none ∧
        ∀ guard ∈ rule.guardRefs,
          evaluateGuard (c.events rule.event) (s.inquiry.map (·.2)) context guard = none := by
  rw [evaluate]
  simp only [Option.orElse_eq_orElse, Option.orElse_eq_or, Option.or_eq_none_iff,
    missingRequiredGuard_eq_none, firstFailure_eq_none, mem_orderedGuardRefs]

/-- A domain guard holds when its result was passed and is `True`. -/
theorem evaluateGuard_domain {event : EventContract} {version : Option Nat}
    {context : GuardContext} {guard : GuardId} (core : guard.coreRole = none)
    (notVersion : guard ≠ .stateVersion) (notKey : guard ≠ .idempotencyKey) :
    evaluateGuard event version context guard = none ↔
      context.domainResults.lookup guard = some true := by
  unfold evaluateGuard
  rw [core]
  dsimp only
  rw [if_neg notVersion, if_neg notKey]
  cases context.domainResults.lookup guard with
  | none => simp
  | some passed => cases passed <;> simp

theorem evaluateGuard_stateVersion {event : EventContract} {version : Option Nat}
    {context : GuardContext} :
    evaluateGuard event version context .stateVersion = none ↔
      event.requiresStateVersion = true ∧ context.requestedStateVersion.isSome = true ∧
        context.requestedStateVersion = version := by
  change (if event.requiresStateVersion = true then (if _ then none else some _) else some _) =
    none ↔ _
  split_ifs with required matches_
  · rw [Bool.and_eq_true, decide_eq_true_eq] at matches_
    exact iff_of_true rfl ⟨required, matches_⟩
  · rw [Bool.and_eq_true, decide_eq_true_eq] at matches_
    exact iff_of_false (by simp) fun h => matches_ h.2
  · exact iff_of_false (by simp) fun h => required h.1

end WorkflowContract

/-! ### The evaluation of the engine -/

theorem ActorRole.code_injective {r s : ActorRole} (h : r.code = s.code) : r = s := by
  cases r <;> cases s <;> first | rfl | exact absurd h (by decide)

theorem GuardId.find_code (guard : GuardId) :
    (GuardId.all.find? fun g => decide (g.code = guard.code)) = some guard :=
  Workflow.find_code GuardId.code_injective guard.mem_all

def GuardContext.raw (context : GuardContext) : Engine.GuardContext where
  actorRole := some context.actorRole.code
  isAuthenticated := context.isAuthenticated
  correlationId := some context.correlationId
  idempotencyKey := context.idempotencyKey
  requestedStateVersion := context.requestedStateVersion.map Int.ofNat
  trustedInternalActor := context.trustedInternalActor
  domainResults name :=
    (GuardId.all.find? fun g => decide (g.code = name)).bind fun g => context.domainResults.lookup g

def GuardFailure.raw (failure : GuardFailure) : Engine.GuardFailure :=
  ⟨.str failure.guardId.code, .str failure.category.code, .atom (.int failure.httpStatus),
    .str failure.errorCode, .str failure.message, failure.reason⟩

section
variable (c : WorkflowContract) (isOpen : c.Open) (ranks : List (Atom × Nat))

/-- The evaluator over the documents of a contract, with its index of ranks. -/
abbrev engineOf : GuardEvaluator := evaluatorOf (c.accepted isOpen) ranks

theorem guard_code (guard : GuardId) :
    (engineOf c isOpen ranks).guard (.str guard.code) = .ok (.dict (guardView c guard).entry) := by
  have found : lookup (engineOf c isOpen ranks).guards (.str guard.code) =
      ((GuardId.all.map (guardView c)).find? fun g => decide (g.id = guard.code)).map
        fun g => .dict g.entry :=
    lookup_views GuardEntry.id (fun g => Value.dict g.entry) _ _
  rw [GuardEvaluator.guard, found, List.find?_map]
  have same : ((fun g : GuardEntry => decide (g.id = guard.code)) ∘ guardView c) =
      fun g => decide (g.code = guard.code) := rfl
  rw [same, guard.find_code]
  rfl

theorem requiresStateVersion_code (e : EventCode) :
    requires (.dict (eventView c e).entry) "requires_state_version" =
      .ok (c.events e).requiresStateVersion := by
  change Except.ok (Value.bool (c.events e).requiresStateVersion).isTrue = _
  cases (c.events e).requiresStateVersion <;> rfl

theorem requiresIdempotencyKey_code (e : EventCode) :
    requires (.dict (eventView c e).entry) "requires_idempotency_key" =
      .ok (c.events e).requiresIdempotencyKey := by
  change Except.ok (Value.bool (c.events e).requiresIdempotencyKey).isTrue = _
  cases (c.events e).requiresIdempotencyKey <;> rfl

theorem missingRequiredGuard_code (e : EventCode) (refs : List GuardId) :
    Engine.missingRequiredGuard (.dict (eventView c e).entry) (refs.map fun g => .str g.code) =
      .ok ((WorkflowContract.missingRequiredGuard (c.events e) refs).map
        fun failure => failure.guardId.code) := by
  have listed (guard : GuardId) :
      (refs.map fun g => Value.str g.code).any (fun ref => ref.eqStr guard.code) =
        refs.contains guard := by
    rw [List.any_map, Bool.eq_iff_iff, List.any_eq_true, List.contains_iff_mem]
    constructor
    · rintro ⟨g, hg, same⟩
      rw [Function.comp_apply, Value.eqStr_iff, Value.str_inj] at same
      exact GuardId.code_injective same ▸ hg
    · intro mem
      exact ⟨guard, mem, Value.eqStr_iff.2 rfl⟩
  have required : (if (c.events e).requiresStateVersion = true then ["G-STATE-VERSION"] else []) ++
      (if (c.events e).requiresIdempotencyKey = true then ["G-IDEMPOTENCY-KEY"] else []) =
      (WorkflowContract.requiredGuards (c.events e)).map GuardId.code := by
    rw [WorkflowContract.requiredGuards]
    cases (c.events e).requiresStateVersion <;> cases (c.events e).requiresIdempotencyKey <;> rfl
  rw [Engine.missingRequiredGuard, requiresStateVersion_code, requiresIdempotencyKey_code,
    WorkflowContract.missingRequiredGuard, Option.map_map]
  simp only [bind, Except.bind, pure, Except.pure, required, List.find?_map]
  refine congrArg Except.ok ?_
  have same : ((fun code => !(refs.map fun g => Value.str g.code).any fun ref => ref.eqStr code) ∘
      GuardId.code) = fun guard => !refs.contains guard := by
    funext guard
    exact congrArg not (listed guard)
  rw [same]
  rfl

theorem roleGuardRef_code (refs : List GuardId) :
    roleGuardRef (refs.map fun g => .str g.code) =
      .ok ((refs.find? fun g => g.coreRole.isSome).map fun g => Atom.str g.code) := by
  induction refs with
  | nil => rfl
  | cons guard rest ih =>
      have core : (lookup coreRoleGuards (.str guard.code)).isSome = guard.coreRole.isSome := by
        cases guard <;> decide
      rw [List.map_cons, roleGuardRef, List.find?_cons]
      simp only [Value.hashed_str, bind, Except.bind, core]
      cases guard.coreRole.isSome with
      | true => rfl
      | false => exact ih

theorem evaluateEventActor_code (e : EventCode) (refs : List GuardId) (context : GuardContext) :
    (engineOf c isOpen ranks).evaluateEventActor (.dict (eventView c e).entry)
        (refs.map fun g => .str g.code) context.raw =
      .ok ((c.evaluateEventActor (c.events e) refs context).map GuardFailure.raw) := by
  have system : context.raw.actorRole = some "SYSTEM" ↔ context.actorRole = .system := by
    constructor
    · intro h
      exact ActorRole.code_injective (Option.some.inj h)
    · intro h
      rw [GuardContext.raw, h]
      rfl
  have registered : lookup (engineOf c isOpen ranks).guards (.str "G-ACTOR-SYSTEM") =
      some (.dict (guardView c .actorSystem).entry) := by
    have found := guard_code c isOpen ranks .actorSystem
    rw [GuardEvaluator.guard] at found
    split at found
    · rename_i h
      rw [← Except.ok.inj found]
      exact h
    · cases found
  have contains := actorRoles_contains (eventView c e) context.raw.actorRole
  have member : (((eventView c e).actorRoles.map fun r => Atom.str r).any fun a =>
      a.eq (.ofOption context.raw.actorRole)) = (c.events e).actorRoles.contains
        context.actorRole := by
    have roles : (eventView c e).actorRoles = (c.events e).actorRoles.map ActorRole.code := rfl
    rw [roles, List.map_map, List.any_map, Bool.eq_iff_iff, List.any_eq_true,
      List.contains_iff_mem]
    constructor
    · rintro ⟨r, hr, same⟩
      have same : r.code = context.actorRole.code := by
        simpa [GuardContext.raw, Atom.eq] using same
      exact ActorRole.code_injective same ▸ hr
    · intro mem
      exact ⟨context.actorRole, mem, by simp [GuardContext.raw, Atom.eq]⟩
  rw [member] at contains
  rw [GuardEvaluator.evaluateEventActor, WorkflowContract.evaluateEventActor]
  simp only [system, ne_eq]
  have authenticated : context.raw.isAuthenticated = context.isAuthenticated := rfl
  have trusted : context.raw.trustedInternalActor = context.trustedInternalActor := rfl
  rw [authenticated, trusted]
  split_ifs with unauthenticated untrusted allowed
  · rfl
  · rw [registered]
    rfl
  · simp only [bind, Except.bind] at contains ⊢
    cases roles : (Value.dict (eventView c e).entry).getOr "actor_roles" (.list []) with
    | error err => rw [roles] at contains; cases contains
    | ok listed =>
        rw [roles] at contains
        dsimp only at contains ⊢
        rw [contains, allowed]
        rfl
  · simp only [bind, Except.bind] at contains ⊢
    cases roles : (Value.dict (eventView c e).entry).getOr "actor_roles" (.list []) with
    | error err => rw [roles] at contains; cases contains
    | ok listed =>
        rw [roles] at contains
        dsimp only at contains ⊢
        rw [contains, eq_false_of_ne_true allowed, roleGuardRef_code]
        cases refs.find? fun g => g.coreRole.isSome with
        | none => rfl
        | some guard =>
            simp only [Option.map_some, guard_code c isOpen ranks guard]
            rfl

theorem evaluateGuard_code (e : EventCode) {s : Snapshot} {raw : WorkflowSnapshot}
    (encodes : Encodes s raw) (context : GuardContext) (guard : GuardId) :
    GuardEvaluator.evaluateGuard (.str guard.code) (.dict (eventView c e).entry) raw context.raw =
      .ok (WorkflowContract.evaluateGuard (c.events e) (s.inquiry.map (·.2)) context guard) := by
  have core : lookup coreRoleGuards (.str guard.code) = guard.coreRole.map ActorRole.code := by
    cases guard <;> decide
  rw [GuardEvaluator.evaluateGuard, WorkflowContract.evaluateGuard, core]
  cases guard.coreRole with
  | some required =>
      obtain ⟨actor, _, _, _, _, _, _⟩ := context
      cases required <;> cases actor <;> rfl
  | none =>
      have isVersion : (Atom.str guard.code = .str "G-STATE-VERSION") ↔ guard = .stateVersion :=
        ⟨fun h => GuardId.code_injective (Atom.str.inj h), fun h => by rw [h]; rfl⟩
      have isKey : (Atom.str guard.code = .str "G-IDEMPOTENCY-KEY") ↔ guard = .idempotencyKey :=
        ⟨fun h => GuardId.code_injective (Atom.str.inj h), fun h => by rw [h]; rfl⟩
      dsimp only [Option.map_none]
      by_cases version : guard = .stateVersion
      · have same : (context.raw.requestedStateVersion = raw.stateVersion.map Int.ofNat) ↔
            context.requestedStateVersion = s.inquiry.map (·.2) := by
          rw [encodes.version, GuardContext.raw]
          exact (Option.map_injective fun _ _ h => Int.ofNat.inj h).eq_iff
        have present : context.raw.requestedStateVersion.isSome =
            context.requestedStateVersion.isSome := Option.isSome_map
        rw [if_pos (isVersion.2 version), if_pos version, requiresStateVersion_code, present,
          decide_eq_decide.2 same]
        cases (c.events e).requiresStateVersion <;> rfl
      · rw [if_neg (mt isVersion.1 version), if_neg version]
        by_cases key : guard = .idempotencyKey
        · rw [if_pos (isKey.2 key), if_pos key, requiresIdempotencyKey_code]
          rfl
        · have domain : context.raw.domainResults guard.code =
              context.domainResults.lookup guard := by
            change (GuardId.all.find? fun g => decide (g.code = guard.code)).bind _ = _
            rw [guard.find_code]
            rfl
          rw [if_neg (mt isKey.1 key), if_neg key, domain]
          cases context.domainResults.lookup guard <;> rfl

theorem firstFailure_code (e : EventCode) {s : Snapshot} {raw : WorkflowSnapshot}
    (encodes : Encodes s raw) (context : GuardContext) (refs : List GuardId) :
    (engineOf c isOpen ranks).firstFailure (.dict (eventView c e).entry) raw context.raw
        (refs.map fun g => .str g.code) =
      .ok ((c.firstFailure (c.events e) (s.inquiry.map (·.2)) context refs).map
        GuardFailure.raw) := by
  induction refs with
  | nil => rfl
  | cons guard rest ih =>
      rw [List.map_cons, GuardEvaluator.firstFailure, guard_code,
        evaluateGuard_code c e encodes, WorkflowContract.firstFailure, List.findSome?_cons]
      cases WorkflowContract.evaluateGuard (c.events e) (s.inquiry.map (·.2)) context guard with
      | none => exact ih
      | some reason => rfl

theorem sorted_map {α β : Type} (f : α → β) {R : α → α → Bool} {S : β → β → Bool}
    (same : ∀ a b, S (f a) (f b) = R a b) (xs : List α) :
    sorted S (xs.map f) = (sorted R xs).map f := by
  have inserted (x : α) (ys : List α) :
      insertSorted S (f x) (ys.map f) = (insertSorted R x ys).map f := by
    induction ys with
    | nil => rfl
    | cons y ys ih =>
        rw [List.map_cons, insertSorted, insertSorted, same]
        split_ifs
        · rfl
        · rw [ih]
          rfl
  induction xs with
  | nil => rfl
  | cons x xs ih => rw [List.map_cons, sorted, sorted, ih, inserted]

/-- An index of ranks that agrees with the ranks over the codes. -/
def IndexesRanks : Prop :=
  ∀ guard, (lookup ranks (.str (c.guards guard).category.code)).getD ranks.length = c.rank guard

theorem orderedGuardRefs_code (indexed : IndexesRanks c ranks) (refs : List GuardId) :
    (engineOf c isOpen ranks).orderedGuardRefs (refs.map fun g => .str g.code) =
      .ok ((c.orderedGuardRefs refs).map fun g => .str g.code) := by
  have ranked (refs : List GuardId) :
      (engineOf c isOpen ranks).rankedRefs (refs.map fun g => .str g.code) =
        .ok (refs.map fun g => (c.rank g, Atom.str g.code)) := by
    induction refs with
    | nil => rfl
    | cons guard rest ih =>
        have rank : (engineOf c isOpen ranks).refRank (.str guard.code) = .ok (c.rank guard) := by
          rw [GuardEvaluator.refRank, guard_code, ← indexed guard]
          rfl
        rw [List.map_cons, GuardEvaluator.rankedRefs, ih]
        simp only [Value.hashed_str, bind, Except.bind, rank]
        rfl
  rw [GuardEvaluator.orderedGuardRefs, ranked]
  simp only [bind, Except.bind, pure, Except.pure]
  rw [sorted_map (fun g => (c.rank g, Atom.str g.code))
    (R := fun g h => decide (c.rank g ≤ c.rank h)) fun _ _ => rfl, List.map_map]
  rfl

/-- The evaluation on the documents is the evaluation on the contract. -/
theorem evaluate_refines (indexed : IndexesRanks c ranks) {s : Snapshot} {raw : WorkflowSnapshot}
    (encodes : Encodes s raw) {e : EventCode} {p : Plan} (planned : c.resolve s e = .ok p)
    (context : GuardContext) :
    ((engineOf c isOpen ranks).evaluate (p.transition raw e) raw context.raw).map (·.failure) =
      .ok ((c.evaluate p.rule s context).map GuardFailure.raw) := by
  obtain ⟨_, event, _⟩ := resolve_ok planned
  have found : lookup (engineOf c isOpen ranks).events (.str e.code) =
      some (.dict (eventView c e).entry) := by
    have views : lookup (engineOf c isOpen ranks).events (.str e.code) =
        ((EventCode.all.map (eventView c)).find? fun v => decide (v.code = e.code)).map
          fun v => .dict v.entry :=
      lookup_views EventEntry.code (fun v => Value.dict v.entry) _ _
    rw [views, List.find?_map]
    have same : ((fun v : EventEntry => decide (v.code = e.code)) ∘ eventView c) =
        fun x => decide (x.code = e.code) := rfl
    rw [same, Workflow.find_code EventCode.code_injective e.mem_all]
    rfl
  have refs : (p.transition raw e).guardRefs = p.rule.guardRefs.map fun g => Value.str g.code := by
    rw [Plan.transition, transitionOf, ruleView, List.map_map]
    rfl
  have correlation : ((engineOf c isOpen ranks).defaults.getOr "require_correlation_id" .none) =
      .ok (.bool true) := rfl
  have code : (p.transition raw e).eventCode = e.code := rfl
  rw [GuardEvaluator.evaluate, code, found, refs, WorkflowContract.evaluate, event]
  simp only [missingRequiredGuard_code, evaluateEventActor_code, correlation,
    requiresIdempotencyKey_code, orderedGuardRefs_code c isOpen ranks indexed,
    firstFailure_code c isOpen ranks e encodes, bind, Except.bind, pure, Except.pure]
  cases missing : WorkflowContract.missingRequiredGuard (c.events e) p.rule.guardRefs with
  | some failure =>
      obtain ⟨guard, _, rfl⟩ := Option.map_eq_some_iff.1 missing
      rfl
  | none =>
      cases c.evaluateEventActor (c.events e) p.rule.guardRefs context with
      | some failure => rfl
      | none =>
          have text : hasTextOption context.raw.correlationId = hasText context.correlationId := rfl
          have key : context.raw.idempotencyKey = context.idempotencyKey := rfl
          rw [text, key, WorkflowContract.correlationFailure, WorkflowContract.keyFailure]
          cases hasText context.correlationId with
          | false => rfl
          | true =>
              cases (c.events e).requiresIdempotencyKey && !validIdempotencyKey
                context.idempotencyKey with
              | true => rfl
              | false => rfl

end

/-- The index `GuardEvaluator` builds from the shipped documents. -/
theorem shipped_indexesRanks : ∃ ranks,
    GuardEvaluator.init shipped.toDocuments = .ok (engineOf shipped shipped_open ranks) ∧
      IndexesRanks shipped ranks := by
  refine ⟨[(.str "AUTHENTICATION", 0), (.str "ROLE", 1), (.str "RESOURCE_ACCESS", 2),
    (.str "ASSIGNMENT", 3), (.str "CONCURRENCY", 4), (.str "IDEMPOTENCY", 5), (.str "PAYLOAD", 6),
    (.str "BUSINESS_RULE", 7), (.str "SAFETY_AND_EVIDENCE", 8), (.str "COMPLETION", 9)], ?_, ?_⟩
  · rw [evaluator_init_eq (shipped.accepted shipped_open)]
    rfl
  · intro guard
    cases guard <;> decide

/-- The engine on the shipped documents decides the shipped guards. -/
theorem shipped_evaluate_refines : ∃ evaluator,
    GuardEvaluator.init shipped.toDocuments = .ok evaluator ∧
      ∀ {s : Snapshot} {raw : WorkflowSnapshot}, Encodes s raw → ∀ {e : EventCode} {p : Plan},
        shipped.resolve s e = .ok p → ∀ context : GuardContext,
          (evaluator.evaluate (p.transition raw e) raw context.raw).map (·.failure) =
            .ok ((shipped.evaluate p.rule s context).map GuardFailure.raw) := by
  obtain ⟨ranks, built, indexed⟩ := shipped_indexesRanks
  exact ⟨_, built, fun encodes _ _ planned context =>
    evaluate_refines shipped shipped_open ranks indexed encodes planned context⟩

end WaterCare.Workflow
