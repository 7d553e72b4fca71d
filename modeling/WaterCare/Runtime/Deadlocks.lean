import WaterCare.Runtime.Trace
import WaterCare.Service.RowLocks

/-!
Deadlocks between the transactions on one inquiry. Most of them lock the inquiry before everything
else; a supervisor locks the consultation before it, and a decision its review.
-/

namespace WaterCare.Runtime
open Machine Store Service

/-- A plan locks the inquiry first or second, or one row at most. -/
theorem LockPlan.shaped {plan : LockPlan} {path : List LockedRow} (takes : plan.Takes path) :
    Shaped .inquiry path := by
  cases plan with
  | nothing =>
      rw [takes]
      exact .inl (Nat.zero_le _)
  | alone row =>
      rw [takes]
      exact .inl (Nat.le_refl _)
  | inquiryFirst rows =>
      have ⟨branch, _, same⟩ := takes
      exact .inr ⟨branch, .inl same⟩
  | inquirySecond first rows =>
      have ⟨branch, _, same⟩ := takes
      exact .inr ⟨branch, .inr ⟨first, same⟩⟩

/-- A row that is locked before the inquiry is the first one of a plan that puts it there. -/
theorem first_of_before {plan : LockPlan} {path : List LockedRow} {row : LockedRow}
    (takes : plan.Takes path) (before : LocksBefore row .inquiry path) :
    ∃ rows, plan = .inquirySecond row rows := by
  have ⟨early, late, same, mem, apart⟩ := before
  cases plan with
  | nothing =>
      rw [takes] at same
      simp at same
  | alone other =>
      rw [takes] at same
      cases early with
      | nil => cases mem
      | cons a rest => simp at same
  | inquiryFirst rows =>
      have ⟨branch, _, path'⟩ := takes
      rw [path'] at same
      cases early with
      | nil => cases mem
      | cons a rest => exact absurd (by simp [(List.cons.inj same).1]) apart
  | inquirySecond first rows =>
      have ⟨branch, _, path'⟩ := takes
      rw [path'] at same
      cases early with
      | nil => cases mem
      | cons a rest =>
          have ⟨head, tail⟩ := List.cons.inj same
          cases rest with
          | nil =>
              rw [List.mem_singleton.1 mem, ← head]
              exact ⟨rows, rfl⟩
          | cons b _ => exact absurd (by simp [(List.cons.inj tail).1]) apart

/-- The pairs that get into each other's way: a supervisor's operation on a consultation, or the
decision of a review, beside a transaction that locks this row after the inquiry. -/
theorem opposed_cases {transaction : Transaction} {p q : List LockedRow}
    (takes : transaction.Takes p) (opposed : Opposed .inquiry p q) :
    ∃ row ∈ q, ∃ m rows, transaction.lockPlan m = .inquirySecond row rows := by
  have ⟨m, plan⟩ := takes
  have ⟨row, before, late, rest, same, _⟩ := opposed
  have ⟨rows, is⟩ := first_of_before plan before
  refine ⟨row, ?_, m, rows, is⟩
  rw [same]
  exact List.mem_append_right _ List.mem_cons_self

/-- Where no transaction is opened beside one that locks the inquiry and another row in the
opposite order, no state of any run has a cycle of waiting transactions. -/
theorem run_without_deadlock {labels : List (LockLabel Transaction LockedRow)}
    {s : List (Locking LockedRow)}
    (run : Run (Restrict (Orderly .inquiry) (LockStep Transaction.Takes)) [] labels s) :
    ¬∃ j, Relation.TransGen (WaitsFor s) j j :=
  run_no_cycle (fun _ _ takes => LockPlan.shaped takes.choose_spec) run

namespace LockSample
open Sample

/-- The consultant starts the consultation 11 of the inquiry 10. -/
def starting : Transaction := .action (send consultant 101 (.act (.startConsultation 10 1)))

/-- The consultant saves a summary of it. -/
def saving : Transaction :=
  .action (send consultant 102 (.act (.saveSummary 10 2 (summaryOf "valve" none))))

/-- The supervisor gives it to a colleague. -/
def reassigning : Transaction := .action (supervise 102 (.reassign 11 3 "absence"))

def found : Matched := ⟨[11], [], [], [], [], [], []⟩

theorem starting_takes : starting.Takes [.inquiry, .consultation 11] :=
  ⟨found, [.consultation 11], .refl _, rfl⟩

theorem saving_takes : saving.Takes [.inquiry, .consultation 11] :=
  ⟨found, [.consultation 11], .refl _, rfl⟩

theorem reassigning_takes : reassigning.Takes [.consultation 11, .inquiry] :=
  ⟨found, [], .refl _, rfl⟩

/-- The start and the reassignment are opened, and each takes its first lock. -/
def crossing : List (LockLabel Transaction LockedRow) :=
  [ .opened reassigning [.consultation 11, .inquiry],
    .opened starting [.inquiry, .consultation 11], .acquire 0, .acquire 1 ]

def crossed : List (Locking LockedRow) :=
  [⟨[.consultation 11], [.inquiry]⟩, ⟨[.inquiry], [.consultation 11]⟩]

/-- The start takes the inquiry, and the summary is behind it. -/
def queueing : List (LockLabel Transaction LockedRow) :=
  [ .opened starting [.inquiry, .consultation 11], .opened saving [.inquiry, .consultation 11],
    .acquire 0 ]

def queued : List (Locking LockedRow) :=
  [⟨[.inquiry], [.consultation 11]⟩, ⟨[], [.inquiry, .consultation 11]⟩]

theorem same_order {q : List LockedRow} :
    ¬Opposed .inquiry [.inquiry, .consultation 11] q := by
  intro ⟨row, ⟨early, late, order, mem, apart⟩, _⟩
  cases early with
  | nil => cases mem
  | cons a rest => exact apart (by simp [(List.cons.inj order).1])

end LockSample

open LockSample in
theorem run_without_deadlock_queued :
    Run (Restrict (Orderly .inquiry) (LockStep Transaction.Takes)) [] queueing queued ∧
      WaitsFor queued 1 0 ∧ ¬∃ j, Relation.TransGen (WaitsFor queued) j j := by
  have run : Run (Restrict (Orderly .inquiry) (LockStep Transaction.Takes)) [] queueing queued := by
    refine @Run.snoc _ _ _ _ (queueing.take 2) _ queued _ (@Run.snoc _ _ _ _ (queueing.take 1) _ _ _
      (.snoc .refl ⟨?_, .opened starting_takes⟩) ⟨?_, .opened saving_takes⟩) ⟨trivial, ?_⟩
    · exact fun _ mem => absurd mem List.not_mem_nil
    · intro t mem
      rw [List.mem_singleton.1 mem]
      exact ⟨same_order, same_order⟩
    · exact @LockStep.acquire Transaction LockedRow _ Transaction.Takes _ 0 [] [.consultation 11] .inquiry rfl
        (by decide)
  exact ⟨run, ⟨by decide, _, _, _, rfl, _, rfl, List.mem_cons_self⟩, run_without_deadlock run⟩

open LockSample in
/-- The supervisor holds the consultation and waits for the inquiry; the consultant holds the
inquiry and waits for the consultation. -/
theorem reassign_start_deadlock :
    Run (LockStep Transaction.Takes) [] crossing crossed ∧
      ∃ j, Relation.TransGen (WaitsFor crossed) j j := by
  have first : WaitsFor crossed 0 1 := ⟨by decide, _, _, _, rfl, _, rfl, List.mem_cons_self⟩
  have second : WaitsFor crossed 1 0 := ⟨by decide, _, _, _, rfl, _, rfl, List.mem_cons_self⟩
  refine ⟨?_, 0, .head first (.single second)⟩
  have half : Run (LockStep Transaction.Takes) [] (crossing.take 3)
      [⟨[.consultation 11], [.inquiry]⟩, ⟨[], [.inquiry, .consultation 11]⟩] := by
    refine @Run.snoc _ _ _ _ (crossing.take 2) _ _ _ (@Run.snoc _ _ _ _ (crossing.take 1) _ _ _
      (.snoc .refl (.opened reassigning_takes)) (.opened starting_takes)) ?_
    exact @LockStep.acquire Transaction LockedRow _ Transaction.Takes _ 0 [] [.inquiry] (.consultation 11) rfl
      (by decide)
  refine @Run.snoc _ _ _ _ (crossing.take 3) _ crossed _ half ?_
  exact @LockStep.acquire Transaction LockedRow _ Transaction.Takes _ 1 [] [.consultation 11] .inquiry rfl
    (by decide)

end WaterCare.Runtime
