import WaterCare.Service.Customer

/-!
`ActionResultService`: the customer reports the result of a guidance item. The
service writes the state version itself, without the state machine.
-/

namespace WaterCare.Service
open Workflow Store Py

structure ActionResultValues where
  guidanceItemId : Nat
  resultCode : String
  resultText : Option String
  performedAt : Option Instant
  customerComment : Option String

namespace ActionResultService

/-- The body of the request; an optional value that is not sent is not part of it. -/
def body (stateVersion : Nat) (values : ActionResultValues) : Value :=
  mapping <| [("state_version", natural stateVersion),
      ("guidance_item_id", publicId values.guidanceItemId), ("result_code", .str values.resultCode)] ++
    entry "result_text" (values.resultText.map .str) ++
    entry "performed_at" (values.performedAt.map isoformat) ++
    entry "customer_comment" (values.customerComment.map .str)
where
  entry (key : String) (value : Option Value) : List (String × Value) :=
    value.elim [] fun v => [(key, v)]

/-- `_raise_state_conflict`, which lists no actions. -/
def stateConflict (q : Inquiry) : Failure :=
  .business "STATE-CONFLICT-01" englishConflict
    (dictOf [("current_status", .str q.status.code),
      ("current_state_version", natural q.stateVersion)]) 409

/-- `lock_guidance_item`. -/
def lockGuidanceItem (a : Aggregate) (id : Nat) : Option GuidanceItem :=
  (a.guidances.flatMap fun g => g.1.items).find? fun item => decide (item.id = id)

/-- `next_attempt_no`. -/
def nextAttemptNo (a : Aggregate) (item : GuidanceItem) : Nat :=
  (((a.actionResults.filter fun r => decide (r.1.guidanceItem = item.id)).map
    (·.1.attemptNo)).foldr max 0) + 1

/-- `apply_state_transition` with the next version of the same state. -/
def advance (q : Inquiry) : Inquiry := { q with stateVersion := q.stateVersion + 1 }

def write (request : Request) (values : ActionResultValues) (a : Aggregate) (item : GuidanceItem)
    (id : Nat) : Except Failure (Aggregate × Stored CustomerActionResult) := do
  let result ← save
    { id := id, guidanceItem := item.id, attemptNo := nextAttemptNo a item
      resultCode := values.resultCode, resultText := values.resultText
      performedAt := values.performedAt, customerComment := values.customerComment
      submittedBy := request.actor.id, createdAt := request.now } "ValidationError"
  let inquiry ← save (advance a.q) "IntegrityError"
  pure ({ a with inquiry := inquiry, actionResults := a.actionResults ++ [result] }, result)

def respond (q : Inquiry) (result : CustomerActionResult) : Dict :=
  dictOf [("id", publicId result.id), ("inquiry_id", publicId q.id),
    ("guidance_item_id", publicId result.guidanceItem), ("attempt_no", natural result.attemptNo),
    ("result_code", .str result.resultCode), ("result_text", .ofOption result.resultText),
    ("performed_at", optional isoformat result.performedAt),
    ("customer_comment", .ofOption result.customerComment),
    ("submitted_by", publicId result.submittedBy), ("state_version", natural q.stateVersion),
    ("idempotent_replay", .bool false), ("created_at", isoformat result.createdAt)]

/-- `create`. -/
def create (settings : Settings) (request : Request) (inquiry stateVersion : Nat)
    (values : ActionResultValues) (w : World) : Except Failure (World × Answer) :=
  let scope := request.scope .createInquiryActionResult
  let requestHash := settings.inquiryHash inquiry (body stateVersion values)
  match (w.aggregate inquiry).filter fun a => w.directory.owns request.actor a.q with
  | none => .error .notFound
  | some a =>
      match w.records.lookup scope with
      | some existing => w.replay existing requestHash
      | none =>
          if a.q.status ≠ .aiGuidance ∨ stateVersion ≠ a.q.stateVersion then
            .error (stateConflict a.q)
          else
            match lockGuidanceItem a values.guidanceItemId with
            | none => .error .notFound
            | some item =>
                w.withIdempotencyRecord scope requestHash fun pending => do
                  let (written, result) ← write request values a item w.nextId
                  pure (pending.commit inquiry written scope requestHash 201
                    (respond written.q result.1) result.1.id request.now 1)

end ActionResultService
end WaterCare.Service
