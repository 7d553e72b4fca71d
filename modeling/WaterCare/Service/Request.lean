import WaterCare.Service.Actions

/-!
What the views hand to a service, the canonical request of an idempotent
operation, and the failures the services share.
-/

namespace WaterCare.Service
open Workflow Store Py
open Engine (validIdempotencyKey Reason)

/-- What `require_idempotency_key` lets through. -/
abbrev IdempotencyKey := { key : String // validIdempotencyKey (some key) = true }

/-- The settings and the library functions the services call. -/
structure Settings where
  /-- The SHA-256 digest of a value in canonical JSON. -/
  canonicalRequestHash : Value → String
  supervisorUsername : String
  casefold : String → String
  upper : String → String
  startOfDay : Day → Instant

/-- The authenticated sender of a request with its headers and the time of its transaction. -/
structure Request where
  actor : User
  idempotencyKey : IdempotencyKey
  correlationId : Uuid
  now : Instant

namespace Request

def scope (request : Request) (operation : OperationId) : Scope :=
  ⟨request.actor.id, operation, request.idempotencyKey.1⟩

end Request

/-- `str(public_id)`. -/
def publicId (id : Nat) : Value := .str (toString id)

def natural (n : Nat) : Value := .atom (.int n)

def optional {α : Type} (f : α → Value) (value : Option α) : Value := value.elim .none f

/-- The normalized request whose digest identifies a retry. -/
def normalizedRequest (path : List (String × Value)) (body : Value) (target : Nat) : Value :=
  mapping
    [("normalized_path_parameters", mapping path), ("normalized_request_body", body),
      ("target_public_id", publicId target)]

def inquiryPath (inquiry : Nat) : List (String × Value) := [("inquiry_id", publicId inquiry)]

/-- The digest of a request on an inquiry. -/
def Settings.inquiryHash (settings : Settings) (inquiry : Nat) (body : Value) : String :=
  settings.canonicalRequestHash (normalizedRequest (inquiryPath inquiry) body inquiry)

/-- `RequestBody` with a state version and nothing else. -/
def stateVersionBody (stateVersion : Nat) : Value :=
  mapping [("state_version", natural stateVersion)]

/-! ### Failures the services share -/

def requestFailed : String := "요청 처리 중 오류가 발생했습니다."

def stateChanged : String := "다른 사용자가 문의 상태를 먼저 변경했습니다."

def dictOf (entries : List (String × Value)) : Dict := entries.map fun e => (.str e.1, e.2)

/-- `_raise_state_conflict`: the current state with the actions the actor may call in it. -/
def stateConflict (message : String) (q : Inquiry) (actions : List ActionEntry) : Failure :=
  .business "STATE-CONFLICT-01" message
    (dictOf [("current_status", .str q.status.code),
      ("current_state_version", natural q.stateVersion),
      ("allowed_actions", texts (actions.map fun entry => entry.code.code))]) 409

/-- The branches of `_raise_guard_failure` after the state conflicts. -/
def guardFailure (unprocessable other : GuardFailure → Failure) (failure : GuardFailure) :
    Failure :=
  if failure.httpStatus = 404 then .notFound
  else if failure.httpStatus = 403 then .permissionDenied
  else if failure.httpStatus = 422 then unprocessable failure
  else other failure

/-- A guard failure passed on with its own code, message and status. -/
def passedOn (details : GuardFailure → Dict) (failure : GuardFailure) : Failure :=
  .business failure.errorCode failure.message (details failure) failure.httpStatus

theorem key_ne_empty (key : IdempotencyKey) : key.1 ≠ "" := by
  intro empty
  have valid := key.2
  rw [empty] at valid
  cases valid

end WaterCare.Service
