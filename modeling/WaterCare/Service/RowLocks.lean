import WaterCare.Machine.LockOrder
import WaterCare.Service.Operation

/-!
The row locks of the transactions on one inquiry: `select_for_update` and the updates on the
inquiry, its consultations, reviews, AI runs, visits and handoffs, in the order of the code. A
locking query without `of` locks the rows of its `select_related` too.
-/

namespace WaterCare.Service
open Machine Store

/-- A row that the transactions on one inquiry lock. -/
inductive LockedRow
  | inquiry
  | consultation (id : Nat)
  | humanReview (id : Nat)
  | aiRun (id : Nat)
  | visit (id : Nat)
  | consultationHandoff (id : Nat)
  deriving DecidableEq, Repr

/-- The rows that the locking queries of a transaction find, in the order the database locks
them. The queries of `attach_to_latest_consultation` find handoffs with their AI runs. -/
structure Matched where
  consultations : List Nat
  humanReviews : List Nat
  aiRuns : List Nat
  visits : List Nat
  handoffs : List Nat
  candidates : List (Nat × Nat)
  projected : List (Nat × Nat)

namespace Matched
variable (m : Matched)

def consultationRows : List LockedRow := m.consultations.map .consultation
def humanReviewRows : List LockedRow := m.humanReviews.map .humanReview
def aiRunRows : List LockedRow := m.aiRuns.map .aiRun
def visitRows : List LockedRow := m.visits.map .visit
def handoffRows : List LockedRow := m.handoffs.map .consultationHandoff

/-- `attach_to_latest_consultation` for a given consultation: the candidates, or the given handoff,
and the handoffs that are attached already. -/
def attachRows : List LockedRow :=
  (m.candidates ++ m.projected).flatMap fun (handoff, run) =>
    [.consultationHandoff handoff, .aiRun run]

end Matched

/-- The locks of a transaction that goes to its end: none on a stored row, a single one, the
inquiry and what the branches lock after it, or a row before the inquiry. -/
inductive LockPlan
  | nothing
  | alone (row : LockedRow)
  | inquiryFirst (rows : List LockedRow)
  | inquirySecond (first : LockedRow) (rows : List LockedRow)

/-- A path through the transaction; a branch that is not taken locks no row. -/
def LockPlan.Takes : LockPlan → List LockedRow → Prop
  | nothing, path => path = []
  | alone row, path => path = [row]
  | inquiryFirst rows, path => ∃ branch, branch.Sublist rows ∧ path = .inquiry :: branch
  | inquirySecond first rows, path =>
      ∃ branch, branch.Sublist rows ∧ path = first :: .inquiry :: branch

/-! ### The plans of the operations -/

def ActionRequest.lockPlan (m : Matched) : ActionRequest → LockPlan
  | submitSymptom _ _ | submitAnswers _ _ _ => .inquiryFirst []
  | requestConsultation _ _ => .inquiryFirst (m.consultationRows ++ m.attachRows)
  | cancelInquiry _ _ _ => .inquiryFirst (m.consultationRows ++ m.aiRunRows)
  | startConsultation _ _ | saveSummary _ _ _ | confirmSummary _ _ | completeConsultation _ _ =>
      .inquiryFirst m.consultationRows
  | requestVisitReview _ _ _ | createVisitRequest _ _ _ _ | markVisitNotNeeded _ _ _ =>
      .inquiryFirst (m.consultationRows ++ m.visitRows)
  | updateVisitSchedule visit _ _ | confirmVisit visit _ =>
      .inquiryFirst (.visit visit :: m.visitRows ++ m.consultationRows)
  | submitFeedback _ _ _ | reportUnresolved _ _ _ _ | finalizeInquiry _ _ _ =>
      -- `lock_completed_handling`
      .inquiryFirst (m.consultationRows ++ m.visitRows)
  | resumeConsultation _ _ => .inquiryFirst m.consultationRows

def Operation.lockPlan (m : Matched) : Operation → LockPlan
  -- a new inquiry is inserted, and no stored row of it is locked
  | start _ | register _ => .nothing
  | act action => action.lockPlan m
  | createActionResult _ _ _ => .inquiryFirst []
  | claim _ _ => .inquiryFirst m.consultationRows
  | decide review _ =>
      -- `lock_visible` comes before `lock_for_human_review`
      .inquirySecond (.humanReview review)
        (.humanReview review :: m.consultationRows ++ m.attachRows)

def SupervisorOperation.lockPlan (m : Matched) : SupervisorOperation → LockPlan
  | reassign consultation _ _ => .inquirySecond (.consultation consultation) []
  | start consultation | updateDetails consultation _ | confirm consultation
  | complete consultation =>
      -- `_lock_consultation`, and then the operation of the consultant
      .inquirySecond (.consultation consultation) m.consultationRows
  -- `cancel_consultation` reads its consultation without a lock
  | cancelInquiry _ _ | cancelConsultation _ _ =>
      .inquiryFirst (m.consultationRows ++ m.aiRunRows)

def RunStep.lockPlan (m : Matched) (run : Nat) : RunStep → LockPlan
  | markRunning | markSucceeded _ | markFailed _ | markDomainPersistenceFailed _ =>
      .alone (.aiRun run)
  | persistValidatedResult _ => .inquiryFirst m.consultationRows
  | applyTimeoutEvent | applyUnusableAiFailureEvent => .inquiryFirst []

def InternalStep.lockPlan (m : Matched) : InternalStep → LockPlan
  | createRun _ _ => .inquiryFirst []
  | onRun _ run step => step.lockPlan m run
  | persistHandoff _ _ _ _ _ =>
      .inquiryFirst (m.handoffRows ++ m.aiRunRows ++ m.humanReviewRows ++ m.consultationRows ++
        m.attachRows)
  | markResumeFailed _ review => .alone (.humanReview review)

def Action.lockPlan (m : Matched) : Action → LockPlan
  | request _ operation => operation.lockPlan m
  | supervise _ operation => operation.lockPlan m
  | internal _ step => step.lockPlan m
  | administer _ _ => .nothing

/-- The transactions on one inquiry: the operations, and those of the resume dispatch. -/
inductive Transaction
  | action (operation : Action)
  /-- `_claim` of a dispatch, with the review of the row it finds. -/
  | claim (review : Option Nat)
  /-- `_mark_succeeded` and `_mark_outcome_unknown`. -/
  | mark

def Transaction.lockPlan (m : Matched) : Transaction → LockPlan
  | action operation => operation.lockPlan m
  -- `select_related("human_review")`
  | claim (some review) => .alone (.humanReview review)
  | claim none | mark => .nothing

/-- The paths of a transaction, whatever rows its queries find. -/
def Transaction.Takes (transaction : Transaction) (path : List LockedRow) : Prop :=
  ∃ m, (transaction.lockPlan m).Takes path

end WaterCare.Service
