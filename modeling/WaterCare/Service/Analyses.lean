import WaterCare.Service.Operation

/-!
Calls of `analyze_inquiry` side by side. Every transaction of a call is one step; the
request to the AI goes out between two of them, and any other operation may come between.
-/

namespace WaterCare.Service
open Workflow Store Py Analysis

namespace InquiryAIService

/-! ### One call -/

/-- How far a call is, with the run and the result it holds in memory. -/
inductive Phase
  | requested
  | unknown
  | created (run : AIRun)
  | running (run : AIRun)
  | answered (run : AIRun) (answer : Except AIError SymptomAnalysisResult)
  | failed (run : AIRun)
  | succeeded (run : AIRun) (result : SymptomAnalysisResult)
  | unsaved (run : AIRun) (ledgerRefused : Bool)
  | refused (run : AIRun)
  | ended

/-- The run a call has got hold of. -/
def Phase.run : Phase → Option AIRun
  | created run | running run | answered run _ | failed run | succeeded run _ | unsaved run _
  | refused run => some run
  | requested | unknown | ended => none

structure Call where
  inquiry : Nat
  analysis : AnalysisRequest
  phase : Phase

/-- What a step of a call meets outside the database: the time, the answer to the request
or none if the client breaks off, and what the verifiers say of the result. -/
structure Outside where
  now : Instant
  answer : Option (Except AIError SymptomAnalysisResult)
  verification : Verification

/-- A response that is not the answer to the request, or breaks a business invariant. -/
def invalidResponse (inquiry : Nat) (run : AIRun) (r : SymptomAnalysisResult) : AIError where
  code :=
    if r.inquiryId = inquiry ∧ r.correlationId = run.correlationId ∧
        r.aiRequestId = run.idempotencyKey ∧ r.stateVersion = run.inputStateVersion ∧
        r.modelCode = run.inputModelCode then "AI-RESPONSE-SCHEMA-01"
    else "AI-IDENTIFIER-MISMATCH-01"
  isTimeout := false
  retryCount := 0
  schemaFailed := true
  payload := none

/-- `AIClient.analyze`, on a response that satisfies the schema. -/
def analyze (inquiry : Nat) (run : AIRun) :
    Except AIError SymptomAnalysisResult → Except AIError SymptomAnalysisResult
  | .error error => .error error
  | .ok result =>
      if isMapped inquiry run result then .ok result else .error (invalidResponse inquiry run result)

section
variable (o : Outside) (w : World) (call : Call)

/-- The transaction of a mark: the written database with the refreshed run, if the run
was in one of the expected statuses. -/
def mark (run : AIRun) (expected : RunStatus → Bool)
    (write : Aggregate → Except Failure Aggregate) : Except Failure (Option (World × AIRun)) :=
  match (w.aggregate call.inquiry).bind fun a =>
      (runById a run.id).map fun row => (a, row.1) with
  | none => .error (.raised "DoesNotExist")
  | some (a, row) =>
      if expected row.status then do
        let written ← write a
        pure ((runById written run.id).map fun marked => (w.put call.inquiry written, marked.1))
      else .ok none

/-- The call after a mark; one that was refused or has failed ends the call. -/
def afterMark (next : AIRun → Phase) : Except Failure (Option (World × AIRun)) → World × Phase
  | .ok (some (t, run)) => (t, next run)
  | .ok none | .error _ => (w, .ended)

/-- The last transaction of a call: an event on the locked inquiry. -/
def lastEvent (apply : Directory → Aggregate → AIRun → Instant →
    Except Failure (Aggregate × EventOutcome)) (run : AIRun) : World × Phase :=
  match w.aggregate call.inquiry with
  | none => (w, .ended)
  | some a =>
      match apply w.directory a run o.now with
      | .ok (written, _) => (w.put call.inquiry written, .ended)
      | .error _ => (w, .ended)

/-- `_persist_validated_result` as `analyze_inquiry` calls it: an exception is handled if the
result has a cause ledger. -/
def persist (run : AIRun) (result : SymptomAnalysisResult) : World × Phase :=
  let v := o.verification
  match w.aggregate call.inquiry with
  | none => (w, .ended)
  | some a =>
      match persistValidatedResult w.directory a run result v w.nextId o.now with
      | .ok (written, _) =>
          ({ w.put call.inquiry written with nextId := w.nextId + identifiers result v }, .ended)
      | .error failure =>
          if v.ledger.isNone then (w, .ended)
          else
            match failure with
            | .raised name => (w, .unsaved run (decide (name = "_CauseLedgerVerificationError")))
            | .business .. | .notFound | .permissionDenied | .supervisor .. =>
                (w, .unsaved run false)

/-- `_create_run`; a violated constraint is answered by the run that has won. -/
def create : World × Phase :=
  match (InternalStep.createRun call.inquiry call.analysis).perform o.now w with
  | .error _ => (w, .ended)
  | .ok t =>
      match (t.aggregate call.inquiry).bind fun a => runById a w.nextId with
      | none => (t, .ended)
      | some run => (t, if run.1.status = .cancelled then .ended else .created run.1)

/-- The next step of a call. -/
def advance : World × Phase :=
  match call.phase with
  | .requested =>
      if (w.ownerOf fun a => a.runs.any fun r =>
          decide (r.1.idempotencyKey = call.analysis.aiRequestId)).isSome then (w, .ended)
      else (w, .unknown)
  | .unknown => create o w call
  | .created run =>
      afterMark w .running (mark w call run (fun status => decide (status = .queued))
        fun a => markRunning a run.id o.now)
  | .running run =>
      (w, o.answer.elim .ended fun answer => .answered run (analyze call.inquiry run answer))
  | .answered run (.error error) =>
      afterMark w .failed (mark w call run isActive fun a => markFailed a run.id error o.now)
  | .answered run (.ok result) =>
      afterMark w (.succeeded · result)
        (mark w call run isActive fun a => markSucceeded a run.id result o.now)
  | .failed run =>
      if run.status = .timedOut ∧ run.errorCode = some "AI-TIMEOUT-01" then
        lastEvent o w call applyTimeoutEvent run
      else lastEvent o w call applyUnusableAiFailureEvent run
  | .succeeded run result => persist o w call run result
  | .unsaved run ledgerRefused =>
      afterMark w (if ledgerRefused then .refused else fun _ => .ended)
        (mark w call run isUsable fun a =>
          markDomainPersistenceFailed a run.id "AI-LEDGER-PERSIST-01")
  | .refused run => lastEvent o w call applyUnusableAiFailureEvent run
  | .ended => (w, .ended)

/-- The requests a step sends to the AI, by their `ai_request_id`. -/
def requests : List String :=
  match call.phase with
  | .running _ => [call.analysis.aiRequestId]
  | .requested | .unknown | .created _ | .answered .. | .failed _ | .succeeded .. | .unsaved ..
  | .refused _ | .ended => []

end

end InquiryAIService

/-! ### All calls -/

open InquiryAIService (Call Outside AnalysisRequest Phase)

/-- The database, the calls that have been made, and the requests sent to the AI. -/
structure Analyses where
  world : World
  calls : List Call
  sent : List String

/-- A transaction of an analysis. -/
def InternalStep.ofAnalysis : InternalStep → Bool
  | createRun .. | onRun .. => true
  | persistHandoff .. | markResumeFailed .. => false

def Action.ofAnalysis : Action → Bool
  | internal _ step => step.ofAnalysis
  | request .. | supervise .. | administer .. => false

inductive Occurrence
  | operation (event : Event)
  /-- The payload is built before the first transaction. -/
  | called (inquiry : Nat) (analysis : AnalysisRequest)
  | turn (call : Nat) (outside : Outside)
  /-- A process may stop at any time. -/
  | stopped (call : Nat)

namespace Analyses

def setPhase (s : Analyses) (k : Nat) (phase : Phase) : List Call :=
  s.calls.modify k fun call => { call with phase := phase }

def Step (settings : Settings) (s : Analyses) : Occurrence → Analyses → Prop
  | .operation event, t =>
      event.action.ofAnalysis = false ∧ Service.Step settings s.world event t.world ∧
        t = { s with world := t.world }
  | .called inquiry analysis, t =>
      (∃ a, s.world.aggregate inquiry = some a ∧ analysis.stateVersion = a.q.stateVersion) ∧
        t = { s with calls := s.calls ++ [⟨inquiry, analysis, .requested⟩] }
  | .turn k outside, t =>
      ∃ call, s.calls[k]? = some call ∧
        t = { world := (InquiryAIService.advance outside s.world call).1
              calls := s.setPhase k (InquiryAIService.advance outside s.world call).2
              sent := s.sent ++ InquiryAIService.requests call }
  | .stopped k, t => t = { s with calls := s.setPhase k .ended }

def Initial (s : Analyses) : Prop := Service.Initial s.world ∧ s.calls = [] ∧ s.sent = []

end Analyses
end WaterCare.Service
