import WaterCare.Runtime.Pending
import WaterCare.Runtime.Persisting
import WaterCare.Runtime.Turns

/-!
One call of `analyze_inquiry` that no other operation disturbs, and exactly when it leaves
the customer of a waiting inquiry something to do.
-/

namespace WaterCare.Runtime
open Machine Workflow Store Service Py Analysis
open InquiryAIService (Call Outside AnalysisRequest Phase Verification AIError runById analyze
  queuedRun advance)

/-! ### The event of a failed run -/

section
variable {d : Directory} {a : Aggregate} {run : AIRun} {now : Instant} {event : EventCode}
  {guard : GuardId} {accepted : AIRun → Bool} {mark : Inquiry → Inquiry}

variable (d accepted now) in
/-- The guard decides about the event of a failed run: with it the questionnaire ends,
without it nothing happens. -/
theorem applyFailureEvent_served (awaits : Awaits a) (version : a.q.stateVersion = run.inputStateVersion)
    (legal : (shipped.resolve ⟨some (.questionnaireInProgress, 1), none⟩ event).toOption.any
      (endsQuestionnaire [guard]) = true)
    (guarded : (shipped.resolve ⟨some (.questionnaireInProgress, 1), none⟩ event).toOption.any
      (fun plan => decide (guard ∈ plan.rule.guardRefs)) = true)
    (domain : guard.coreRole = none ∧ guard ≠ .stateVersion ∧ guard ≠ .idempotencyKey)
    (marked : ∀ q, Table.accepts (mark q) = Table.accepts q ∧ (mark q).status = q.status) :
    ∃ b outcome, InquiryAIService.applyFailureEvent event guard accepted mark d a run now =
        .ok (b, outcome) ∧ (IsServed b ↔ IsServed a ∨ accepted run = true) := by
  have waiting : ¬(a.q.status ≠ .questionnaireInProgress ∨
      a.q.stateVersion ≠ run.inputStateVersion) := by
    intro either
    cases either with
    | inl left => exact left awaits.status
    | inr stale => exact stale version
  have clean : InquiryAIService.assignmentIsClean d a.q = true := by
    unfold InquiryAIService.assignmentIsClean
    rw [awaits.unassigned]
    rfl
  unfold InquiryAIService.applyFailureEvent
  rw [if_neg waiting]
  cases usable : accepted run with
  | true =>
    have domain : ∀ g ∈ [guard], [(guard, true)].lookup g = some true := by
      intro g member
      rw [List.mem_singleton.1 member]
      exact List.lookup_cons_self
    have ⟨plan, row, stored, resolved, _, _, passed, applied, _, left⟩ :=
      systemEvent_applies mark awaits legal domain marked run.correlationId run.idempotencyKey now
    rw [resolved]
    dsimp only
    rw [← version, passed]
    dsimp only
    rw [if_pos clean, bind_of_ok applied]
    exact ⟨_, _, rfl, iff_of_true (.inl left) (.inr rfl)⟩
  | false =>
    have ⟨plan, failure, resolved, refused⟩ := systemEvent_refused awaits guarded domain
      (List.lookup_cons_self : [(guard, false)].lookup guard = some false) run.correlationId
      run.inputStateVersion
    rw [resolved]
    dsimp only
    rw [refused]
    exact ⟨a, _, rfl, (or_iff_left Bool.false_ne_true).symm⟩

end
/-! ### A call alone -/

/-- The steps of a call that nothing comes between, each at its own time. -/
def alone (reply : Except AIError SymptomAnalysisResult) (v : Verification) (now : Nat → Instant)
    (w : World) (call : Call) : Nat → World × Phase
  | 0 => (w, call.phase)
  | n + 1 =>
      let state := alone reply v now w call n
      advance ⟨now n, some reply, v⟩ state.1 { call with phase := state.2 }

section
variable {w s : World} {i : Nat} {a : Aggregate} {row : Stored AIRun} {call : Call}

/-- The inquiry has got one more run, and nothing else has changed. -/
structure Running (w : World) (i : Nat) (a : Aggregate) (row : Stored AIRun) (s : World) : Prop where
  found : s.aggregate i = some { a with runs := a.runs ++ [row] }
  directory : s.directory = w.directory

theorem runById_last (fresh : ∀ r ∈ a.runs, r.1.id ≠ row.1.id) :
    runById { a with runs := a.runs ++ [row] } row.1.id = some row := by
  have absent : (a.runs.find? fun r => decide (r.1.id = row.1.id)) = none :=
    List.find?_eq_none.2 fun r member same => fresh r member (of_decide_eq_true same)
  have itself : decide (row.1.id = row.1.id) = true := decide_eq_true rfl
  have last : ([row].find? fun r => decide (r.1.id = row.1.id)) = some row :=
    List.find?_cons_of_pos itself
  unfold InquiryAIService.runById
  rw [List.find?_append, absent, last]
  rfl

theorem replaceRow_last {new : Stored AIRun} (fresh : ∀ r ∈ a.runs, r.1.id ≠ row.1.id)
    (same : new.1.id = row.1.id) :
    replaceRow (fun r : Stored AIRun => r.1.id) new (a.runs ++ [row]) = a.runs ++ [new] := by
  unfold replaceRow
  rw [List.map_append, List.map_singleton, if_pos same.symm]
  refine congrArg (· ++ [new]) ?_
  refine (List.map_congr_left fun r member => ?_).trans (List.map_id _)
  exact if_neg fun equal => fresh r member (equal.trans same)

/-- A mark on the run of a call that is alone goes through if the changed row is accepted. -/
theorem mark_alone (call : Call) (expected : RunStatus → Bool) (change : AIRun → AIRun)
    (write : Aggregate → Except Failure Aggregate) (running : Running w call.inquiry a row s)
    (fresh : ∀ r ∈ a.runs, r.1.id ≠ row.1.id) (is : expected row.1.status = true)
    (writes : ∀ a, write a = InquiryAIService.changeRun a row.1.id expected change)
    (same : (change row.1).id = row.1.id) :
    (∀ accepted : Table.accepts (change row.1) = true, ∃ t,
      InquiryAIService.mark s call row.1 expected write = .ok (some (t, change row.1)) ∧
        Running w call.inquiry a ⟨change row.1, accepted⟩ t) ∧
    (Table.accepts (change row.1) = false → ∃ failure,
      InquiryAIService.mark s call row.1 expected write = .error failure) := by
  have last := runById_last fresh
  have locked : ((s.aggregate call.inquiry).bind fun a =>
      (runById a row.1.id).map fun row => (a, row.1)) =
        some ({ a with runs := a.runs ++ [row] }, row.1) := by
    rw [running.found, Option.bind_some, last]
    rfl
  unfold InquiryAIService.mark
  rw [locked]
  dsimp only
  rw [if_pos is, writes]
  unfold InquiryAIService.changeRun
  rw [last]
  dsimp only
  rw [if_pos is]
  constructor
  · intro accepted
    let new : Stored AIRun := ⟨change row.1, accepted⟩
    have saved : save (change row.1) "ValidationError" = .ok new := save_ok.2 rfl
    have others : ∀ r ∈ a.runs, r.1.id ≠ new.1.id := fun r member => same ▸ fresh r member
    have refreshed : runById { a with runs := a.runs ++ [new] } row.1.id = some new :=
      same ▸ runById_last others
    refine ⟨s.put call.inquiry { a with runs := a.runs ++ [new] }, ?_, ?_⟩
    · rw [bind_of_ok saved, replaceRow_last fresh same]
      change Except.ok ((runById { a with runs := a.runs ++ [new] } row.1.id).map _) = _
      rw [refreshed]
      rfl
    · exact ⟨AList.lookup_insert _, running.directory⟩
  · intro refused
    have failed : save (change row.1) "ValidationError" = .error (.raised "ValidationError") :=
      save_refused refused
    exact ⟨_, by rw [failed]; rfl⟩

/-- No run and no review knows the key of a request. -/
def IsNew (w : World) (key : String) : Prop :=
  ∀ i a, w.aggregate i = some a → (∀ r ∈ a.runs, r.1.idempotencyKey ≠ key) ∧
    ∀ r ∈ a.reviews, r.1.sourceAiRequestId ≠ key

theorem IsNew.unowned {key : String} (fresh : IsNew w key) :
    (w.ownerOf fun a => a.runs.any fun r => decide (r.1.idempotencyKey = key)) = none := by
  unfold World.ownerOf
  rw [Option.map_eq_none_iff, List.find?_eq_none]
  intro entry member taken
  rw [List.any_eq_true] at taken
  have ⟨r, there, same⟩ := taken
  exact (fresh entry.1 entry.2 (AList.mem_lookup_iff.2 member)).1 r there (of_decide_eq_true same)

variable {reply : Except AIError SymptomAnalysisResult} {v : Verification} {now : Nat → Instant}

theorem alone_next {n : Nat} {phase : Phase} (reached : alone reply v now w call n = (s, phase)) :
    alone reply v now w call (n + 1) =
      advance ⟨now n, some reply, v⟩ s { call with phase := phase } := by
  change advance _ (alone reply v now w call n).1
    { call with phase := (alone reply v now w call n).2 } = _
  rw [reached]

theorem alone_ended {n : Nat} (ended : alone reply v now w call n = (s, .ended)) (k : Nat) :
    alone reply v now w call (n + k) = (s, .ended) := by
  induction k with
  | zero => exact ended
  | succ k ih => exact alone_next ih

/-- The run of a call that is alone, once it is in progress. -/
def runningRun (w : World) (analysis : AnalysisRequest) (now : Nat → Instant) : AIRun :=
  { queuedRun w.nextId analysis (now 1) with status := .running, startedAt := some (now 2) }

variable (reply v now) in
/-- The first four steps of a call: a new run, in progress, with the mapped reply. -/
theorem alone_answered (analysis : AnalysisRequest) (found : w.aggregate i = some a)
    (awaits : Awaits a) (version : a.q.stateVersion = analysis.stateVersion)
    (below : ∀ r ∈ a.runs, r.1.id < w.nextId) (fresh : IsNew w analysis.aiRequestId) :
    ∃ (row : Stored AIRun) (t : World), row.1 = runningRun w analysis now ∧ Running w i a row t ∧
      alone reply v now w ⟨i, analysis, .requested⟩ 4 =
        (t, .answered row.1 (analyze i (queuedRun w.nextId analysis (now 1)) reply)) := by
  let queued : Stored AIRun := ⟨queuedRun w.nextId analysis (now 1), rfl⟩
  have free : ∀ r ∈ a.runs, r.1.id ≠ queued.1.id := fun r member => Nat.ne_of_lt (below r member)
  have step₀ : alone reply v now w ⟨i, analysis, .requested⟩ 0 = (w, .requested) := rfl
  have step₁ : alone reply v now w ⟨i, analysis, .requested⟩ 1 = (w, .unknown) := by
    rw [alone_next step₀]
    unfold advance
    dsimp only
    rw [fresh.unowned]
    rfl
  let t : World :=
    { w.put i { a with runs := a.runs ++ [queued] } with nextId := w.nextId + 1 }
  have created : InquiryAIService.createRun a analysis w.nextId (now 1) =
      .ok { a with runs := a.runs ++ [queued] } := by
    have current : ¬(a.q.status = .cancelled ∨ a.q.stateVersion ≠ analysis.stateVersion) := by
      intro either
      cases either with
      | inl cancelled => rw [awaits.status] at cancelled; cases cancelled
      | inr stale => exact stale version
    unfold InquiryAIService.createRun
    dsimp only
    rw [if_neg current]
    exact bind_of_ok (save_ok.2 rfl)
  have performed : (InternalStep.createRun i analysis).perform (now 1) w = .ok t := by
    unfold InternalStep.perform
    dsimp only
    rw [found]
    dsimp only
    rw [fresh.unowned, if_neg (by exact Bool.false_ne_true)]
    exact bind_of_ok created
  have there : t.aggregate i = some { a with runs := a.runs ++ [queued] } := AList.lookup_insert _
  have step₂ : alone reply v now w ⟨i, analysis, .requested⟩ 2 = (t, .created queued.1) := by
    rw [alone_next step₁]
    unfold advance InquiryAIService.create
    dsimp only
    rw [performed]
    dsimp only
    rw [there, Option.bind_some]
    rw [show runById { a with runs := a.runs ++ [queued] } w.nextId = some queued from
      runById_last free]
    rfl
  have running : Running w i a queued t := ⟨there, rfl⟩
  let row : Stored AIRun := ⟨runningRun w analysis now, rfl⟩
  have ⟨t', marked, running'⟩ : ∃ t', InquiryAIService.mark t ⟨i, analysis, .created queued.1⟩
      queued.1 (fun status => decide (status = .queued))
        (fun a => InquiryAIService.markRunning a queued.1.id (now 2)) = .ok (some (t', row.1)) ∧
      Running w i a row t' :=
    (mark_alone ⟨i, analysis, .created queued.1⟩ _ _ _ running free rfl (fun _ => rfl) rfl).1 row.2
  have step₃ : alone reply v now w ⟨i, analysis, .requested⟩ 3 = (t', .running row.1) := by
    rw [alone_next step₂]
    exact congrArg (InquiryAIService.afterMark t Phase.running) marked
  refine ⟨row, t', rfl, running', ?_⟩
  rw [alone_next step₃]
  refine congrArg (fun answer => (t', Phase.answered row.1 answer)) ?_
  cases reply with
  | error error => rfl
  | ok result => rfl

end

/-! ### What a reply leads to -/

/-- The event of an error moves the inquiry. -/
def errorServes (error : AIError) : Prop :=
  if error.code = "AI-TIMEOUT-01" then error.retryCount = 0
  else error.isTimeout = false ∧ error.code ≠ ""

/-- A mapped reply leaves the customer something to do. -/
def ReplyServes (d : Directory) (a : Aggregate) (v : Verification) :
    Except AIError SymptomAnalysisResult → Prop
  | .error error => errorServes error
  | .ok r => (assessmentIsStored r = true ∧
      v.ledger = some (.error "_CauseLedgerVerificationError")) ∨
    IsStored d a r v ∧ GivesStep a r v

section
variable {w t : World} {i : Nat} {a : Aggregate} {row : Stored AIRun} {v : Verification}
  {reply : Except AIError SymptomAnalysisResult} {now : Nat → Instant} {analysis : AnalysisRequest}

/-- A run that has ended with what its status asks for is accepted if its times are in order. -/
theorem final_accepts {run : AIRun} {started completed : Instant} (final : isFinal run.status = true)
    (outcome : run.outcome = true) (starts : run.startedAt = some started)
    (completes : run.completedAt = some completed) :
    Table.accepts run = decide (started ≤ completed) := by
  change (run.lifecycle && run.outcome && run.timeOrder) = _
  have lived : run.lifecycle = true := by
    unfold AIRun.lifecycle
    rw [starts, completes]
    cases status : run.status <;> first | rfl | (rw [status] at final; cases final)
  have times : run.timeOrder = decide (started ≤ completed) := by
    have ran : decide (run.status = .cancelled) = false := by
      rw [decide_eq_false_iff_not]
      intro cancelled
      rw [cancelled] at final
      cases final
    unfold AIRun.timeOrder
    rw [starts, completes, ran]
    rfl
  rw [lived, outcome, times, Bool.true_and, Bool.true_and]

/-- The run of a call that has got an error. -/
def failedRun (run : AIRun) (error : AIError) (now : Instant) : AIRun :=
  { run with
    status := if error.isTimeout ∨ error.code = "AI-TIMEOUT-01" then .timedOut else .failed
    errorCode := some error.code
    retryCount := error.retryCount
    completedAt := some now
    schemaStatus :=
      if error.schemaFailed then .failed
      else if error.payload.isSome then .passed else run.schemaStatus
    validatedOutput :=
      if error.schemaFailed then run.validatedOutput
      else (error.payload.map RunOutput.failure).or run.validatedOutput }

theorem failedRun_accepts {run : AIRun} {started : Instant} (error : AIError) (completed : Instant)
    (starts : run.startedAt = some started) :
    Table.accepts (failedRun run error completed) = decide (started ≤ completed) := by
  have status : (failedRun run error completed).status = .timedOut ∨
      (failedRun run error completed).status = .failed := by
    unfold failedRun
    dsimp only
    split
    · exact .inl rfl
    · exact .inr rfl
  refine final_accepts ?_ ?_ starts rfl
  · cases status with
    | inl timed => rw [timed]; rfl
    | inr failed => rw [failed]; rfl
  · unfold AIRun.outcome
    cases status with
    | inl timed => rw [timed]; rfl
    | inr failed => rw [failed]; rfl

/-- The run of a call that has got a result. -/
def succeededRun (run : AIRun) (result : SymptomAnalysisResult) (now : Instant) : AIRun :=
  { run with
    status := if result.isNoEvidence then .noEvidence else .succeeded
    validatedOutput := some (.success result)
    schemaStatus := .passed
    completedAt := some now
    retryCount := result.retryCount }

theorem succeededRun_accepts {run : AIRun} {started : Instant} (result : SymptomAnalysisResult)
    (completed : Instant) (starts : run.startedAt = some started) :
    Table.accepts (succeededRun run result completed) = decide (started ≤ completed) := by
  have status : (succeededRun run result completed).status = .noEvidence ∨
      (succeededRun run result completed).status = .succeeded := by
    unfold succeededRun
    dsimp only
    split
    · exact .inl rfl
    · exact .inr rfl
  refine final_accepts ?_ ?_ starts rfl
  · cases status with
    | inl missing => rw [missing]; rfl
    | inr found => rw [found]; rfl
  · unfold AIRun.outcome
    cases status with
    | inl missing => rw [missing]; rfl
    | inr found => rw [found]; rfl

/-- The outcome of a call: it has ended, and the inquiry serves the customer exactly if it did
before or something has come of the call. -/
def Ends (i : Nat) (a : Aggregate) (state : World × Phase) (served : Prop) : Prop :=
  state.2 = .ended ∧ ∃ b, state.1.aggregate i = some b ∧ (IsServed b ↔ IsServed a ∨ served)

theorem Ends.still (running : Running w i a row t) {served : Prop} (nothing : ¬served) :
    Ends i a (t, .ended) served :=
  ⟨rfl, _, running.found, (or_iff_left nothing).symm⟩

theorem Ends.iff {state : World × Phase} {served other : Prop} (ends : Ends i a state served)
    (same : served ↔ other) : Ends i a state other := by
  rw [← same]
  exact ends

theorem Ends.later {call : Call} {n : Nat} {served : Prop}
    (ends : Ends i a (alone reply v now w call n) served) (k : Nat) :
    Ends i a (alone reply v now w call (n + k)) served := by
  have ended : alone reply v now w call n = ((alone reply v now w call n).1, .ended) :=
    Prod.ext rfl ends.1
  rw [alone_ended ended k, ← ended]
  exact ends

/-- The last event of a call alone. -/
theorem lastEvent_alone (o : Outside) (call : Call) {event : EventCode} {guard : GuardId}
    {accepted : AIRun → Bool} {mark : Inquiry → Inquiry} (running : Running w call.inquiry a row t)
    (awaits : Awaits a) (version : a.q.stateVersion = row.1.inputStateVersion)
    (legal : (shipped.resolve ⟨some (.questionnaireInProgress, 1), none⟩ event).toOption.any
      (endsQuestionnaire [guard]) = true)
    (guarded : (shipped.resolve ⟨some (.questionnaireInProgress, 1), none⟩ event).toOption.any
      (fun plan => decide (guard ∈ plan.rule.guardRefs)) = true)
    (domain : guard.coreRole = none ∧ guard ≠ .stateVersion ∧ guard ≠ .idempotencyKey)
    (marked : ∀ q, Table.accepts (mark q) = Table.accepts q ∧ (mark q).status = q.status) :
    Ends call.inquiry a (InquiryAIService.lastEvent o t call
      (InquiryAIService.applyFailureEvent event guard accepted mark) row.1)
      (accepted row.1 = true) := by
  let m : Aggregate := { a with runs := a.runs ++ [row] }
  have waits : Awaits m :=
    ⟨awaits.status, awaits.unassigned, awaits.unconsulted, awaits.unvisited, awaits.recorded⟩
  have ⟨b, outcome, applied, served⟩ := applyFailureEvent_served t.directory o.now accepted
    waits version legal guarded domain marked
  unfold InquiryAIService.lastEvent
  rw [running.found]
  dsimp only
  rw [applied]
  exact ⟨rfl, b, AList.lookup_insert _, served⟩

/-- The timeout of a run moves the inquiry if it is the service's own and the first. -/
theorem timeout_alone (o : Outside) (call : Call) (running : Running w call.inquiry a row t)
    (awaits : Awaits a) (version : a.q.stateVersion = row.1.inputStateVersion) :
    Ends call.inquiry a
      (InquiryAIService.lastEvent o t call InquiryAIService.applyTimeoutEvent row.1)
      ((decide (row.1.status = .timedOut) && decide (row.1.errorCode = some "AI-TIMEOUT-01") &&
        decide (row.1.retryCount = 0)) = true) :=
  lastEvent_alone o call running awaits version (by decide) (by decide) ⟨rfl, nofun, nofun⟩
    fun _ => ⟨rfl, rfl⟩

theorem failure_alone (o : Outside) (call : Call) (running : Running w call.inquiry a row t)
    (awaits : Awaits a) (version : a.q.stateVersion = row.1.inputStateVersion) :
    Ends call.inquiry a
      (InquiryAIService.lastEvent o t call InquiryAIService.applyUnusableAiFailureEvent row.1)
      ((decide (row.1.status = .failed) && isFilled row.1.errorCode) = true) :=
  lastEvent_alone o call running awaits version (by decide) (by decide) ⟨rfl, nofun, nofun⟩
    fun _ => ⟨rfl, rfl⟩

/-- A call alone that gets an error. -/
theorem alone_error {error : AIError}
    (answered : alone reply v now w ⟨i, analysis, .requested⟩ 4 = (t, .answered row.1 (.error error)))
    (running : Running w i a row t) (is : row.1 = runningRun w analysis now)
    (free : ∀ r ∈ a.runs, r.1.id ≠ row.1.id) (awaits : Awaits a)
    (version : a.q.stateVersion = analysis.stateVersion) :
    Ends i a (alone reply v now w ⟨i, analysis, .requested⟩ 8)
      (now 2 ≤ now 4 ∧ errorServes error) := by
  have active : InquiryAIService.isActive row.1.status = true := by rw [is]; rfl
  have starts : row.1.startedAt = some (now 2) := by rw [is]; rfl
  have accepts := failedRun_accepts error (now 4) starts
  have ⟨marked, refused⟩ := mark_alone ⟨i, analysis, .answered row.1 (.error error)⟩
    InquiryAIService.isActive (failedRun · error (now 4))
    (InquiryAIService.markFailed · row.1.id error (now 4)) running free active (fun _ => rfl) rfl
  by_cases order : now 2 ≤ now 4
  · have accepted := accepts.trans (decide_eq_true order)
    have ⟨t', marked, running'⟩ := marked accepted
    have step₅ : alone reply v now w ⟨i, analysis, .requested⟩ 5 =
        (t', .failed (failedRun row.1 error (now 4))) := by
      rw [alone_next answered]
      exact congrArg (InquiryAIService.afterMark t Phase.failed) marked
    let final : Stored AIRun := ⟨failedRun row.1 error (now 4), accepted⟩
    have current : a.q.stateVersion = final.1.inputStateVersion := by
      rw [version]
      change _ = row.1.inputStateVersion
      rw [is]
      rfl
    let o : Outside := ⟨now 5, some reply, v⟩
    let call : Call := ⟨i, analysis, .failed final.1⟩
    have step₆ : Ends i a (alone reply v now w ⟨i, analysis, .requested⟩ 6) (errorServes error) := by
      rw [alone_next step₅]
      unfold errorServes
      by_cases timeout : error.code = "AI-TIMEOUT-01"
      · have status : final.1.status = .timedOut := if_pos (.inr timeout)
        have code : final.1.errorCode = some "AI-TIMEOUT-01" := congrArg some timeout
        have last : advance o t' call =
            InquiryAIService.lastEvent o t' call InquiryAIService.applyTimeoutEvent final.1 :=
          if_pos ⟨status, code⟩
        have ends := timeout_alone o call running' awaits current
        rw [← last, status, code] at ends
        rw [if_pos timeout]
        refine ends.iff ?_
        rw [decide_eq_true rfl, decide_eq_true rfl, Bool.true_and, Bool.true_and,
          decide_eq_true_eq]
        rfl
      · have code : final.1.errorCode = some error.code := rfl
        have last : advance o t' call = InquiryAIService.lastEvent o t' call
            InquiryAIService.applyUnusableAiFailureEvent final.1 := by
          refine if_neg fun both => timeout ?_
          exact Option.some.inj (code.symm.trans both.2)
        have ends := failure_alone o call running' awaits current
        rw [← last, code] at ends
        rw [if_neg timeout]
        refine ends.iff ?_
        have status : final.1.status = .failed ↔ error.isTimeout = false := by
          change (if error.isTimeout = true ∨ error.code = "AI-TIMEOUT-01" then RunStatus.timedOut
            else .failed) = .failed ↔ _
          cases error.isTimeout <;> simp [timeout]
        rw [Bool.and_eq_true, decide_eq_true_eq, status]
        exact and_congr_right fun _ => bne_iff_ne
    exact (step₆.iff (and_iff_right order).symm).later 2
  · have ⟨failure, failed⟩ := refused (accepts.trans (decide_eq_false order))
    have step₅ : alone reply v now w ⟨i, analysis, .requested⟩ 5 = (t, .ended) := by
      rw [alone_next answered]
      exact congrArg (InquiryAIService.afterMark t Phase.failed) failed
    rw [alone_ended step₅ 3]
    exact .still running fun both => order both.1

/-- The run of a result that could not be stored with its ledger. -/
def unsavedRun (run : AIRun) : AIRun :=
  { run with
    status := .failed, errorCode := some "AI-LEDGER-PERSIST-01", validatedOutput := none }

/-- A call alone whose result could not be stored with its ledger: the event of a failure
follows if the ledger itself was refused. -/
theorem alone_unsaved {refused : Bool} {started completed : Instant}
    (unsaved : alone reply v now w ⟨i, analysis, .requested⟩ 6 = (t, .unsaved row.1 refused))
    (running : Running w i a row t) (free : ∀ r ∈ a.runs, r.1.id ≠ row.1.id)
    (usable : InquiryAIService.isUsable row.1.status = true) (starts : row.1.startedAt = some started)
    (completes : row.1.completedAt = some completed) (order : started ≤ completed)
    (awaits : Awaits a) (current : a.q.stateVersion = row.1.inputStateVersion) :
    Ends i a (alone reply v now w ⟨i, analysis, .requested⟩ 8) (refused = true) := by
  have accepted : Table.accepts (unsavedRun row.1) = true :=
    (@final_accepts (unsavedRun row.1) started completed rfl rfl starts completes).trans
      (decide_eq_true order)
  have ⟨t', marked, running'⟩ := (mark_alone ⟨i, analysis, .unsaved row.1 refused⟩
    InquiryAIService.isUsable unsavedRun
    (InquiryAIService.markDomainPersistenceFailed · row.1.id "AI-LEDGER-PERSIST-01") running free
    usable (fun _ => rfl) rfl).1 accepted
  have step₇ : alone reply v now w ⟨i, analysis, .requested⟩ 7 =
      (t', (if refused then Phase.refused else fun _ => .ended) (unsavedRun row.1)) := by
    rw [alone_next unsaved]
    exact congrArg (InquiryAIService.afterMark t (if refused then Phase.refused else fun _ => .ended))
      marked
  cases refused with
  | true =>
    rw [alone_next step₇]
    exact (failure_alone ⟨now 7, some reply, v⟩ ⟨i, analysis, .refused (unsavedRun row.1)⟩ running'
      awaits current).iff (iff_of_true rfl rfl)
  | false =>
    rw [alone_next step₇]
    exact .still running' Bool.false_ne_true

/-- A call alone that gets a result. -/
theorem alone_result {r : SymptomAnalysisResult}
    (answered : alone reply v now w ⟨i, analysis, .requested⟩ 4 = (t, .answered row.1 (.ok r)))
    (running : Running w i a row t) (is : row.1 = runningRun w analysis now)
    (free : ∀ r ∈ a.runs, r.1.id ≠ row.1.id) (awaits : Awaits a)
    (version : a.q.stateVersion = analysis.stateVersion) (mapped : responseErrors r = [])
    (current : r.stateVersion = analysis.stateVersion)
    (unreviewed : ∀ review ∈ a.reviews, review.1.sourceAiRequestId ≠ analysis.aiRequestId) :
    Ends i a (alone reply v now w ⟨i, analysis, .requested⟩ 8)
      (now 2 ≤ now 4 ∧ ReplyServes w.directory a v (.ok r)) := by
  have active : InquiryAIService.isActive row.1.status = true := by rw [is]; rfl
  have starts : row.1.startedAt = some (now 2) := by rw [is]; rfl
  have accepts := succeededRun_accepts r (now 4) starts
  have ⟨marked, refused⟩ := mark_alone ⟨i, analysis, .answered row.1 (.ok r)⟩
    InquiryAIService.isActive (succeededRun · r (now 4))
    (InquiryAIService.markSucceeded · row.1.id r (now 4)) running free active (fun _ => rfl) rfl
  by_cases order : now 2 ≤ now 4
  · have accepted := accepts.trans (decide_eq_true order)
    have ⟨t', marked, running'⟩ := marked accepted
    let final : Stored AIRun := ⟨succeededRun row.1 r (now 4), accepted⟩
    have step₅ : alone reply v now w ⟨i, analysis, .requested⟩ 5 = (t', .succeeded final.1 r) := by
      rw [alone_next answered]
      exact congrArg (InquiryAIService.afterMark t (Phase.succeeded · r)) marked
    have key : final.1.idempotencyKey = analysis.aiRequestId := by
      change row.1.idempotencyKey = _
      rw [is]
      rfl
    let m : Aggregate := { a with runs := a.runs ++ [final] }
    have waits : Awaits m :=
      ⟨awaits.status, awaits.unassigned, awaits.unconsulted, awaits.unvisited, awaits.recorded⟩
    have unknown : ∀ review ∈ m.reviews, review.1.sourceAiRequestId ≠ final.1.idempotencyKey := by
      rw [key]
      exact unreviewed
    let o : Outside := ⟨now 5, some reply, v⟩
    let call : Call := ⟨i, analysis, .succeeded final.1 r⟩
    by_cases stored : IsStored w.directory a r v
    · have stored' : IsStored t'.directory m r v := by
        rw [running'.directory]
        exact stored
      have ⟨b, outcome, persisted, served⟩ := persist_stored t'.directory t'.nextId (now 5) waits
        (version.trans current.symm) mapped unknown stored'
      have step₆ : Ends i a (alone reply v now w ⟨i, analysis, .requested⟩ 6)
          (GivesStep a r v) := by
        rw [alone_next step₅]
        change Ends i a (InquiryAIService.persist o t' call final.1 r) _
        unfold InquiryAIService.persist
        dsimp only
        rw [running'.found]
        dsimp only
        rw [persisted]
        exact ⟨rfl, b, AList.lookup_insert _, served⟩
      have verified : ¬(assessmentIsStored r = true ∧
          v.ledger = some (.error "_CauseLedgerVerificationError")) := by
        intro both
        have ledger := stored.2.1
        unfold ledgerIsStored at ledger
        rw [both.2] at ledger
        contradiction
      refine (step₆.iff ?_).later 2
      exact ⟨fun gives => ⟨order, .inr ⟨stored, gives⟩⟩,
        fun both => (both.2.resolve_left verified).2⟩
    · have ⟨name, failed, refuses⟩ := persist_refused t'.directory t'.nextId (now 5) waits
        (version.trans current.symm) mapped unknown
        (by rw [running'.directory]; exact stored : ¬IsStored t'.directory m r v)
      cases ledger : v.ledger with
      | none =>
        have step₆ : alone reply v now w ⟨i, analysis, .requested⟩ 6 = (t', .ended) := by
          rw [alone_next step₅]
          change InquiryAIService.persist o t' call final.1 r = _
          unfold InquiryAIService.persist
          dsimp only
          rw [running'.found]
          dsimp only
          rw [failed]
          exact if_pos (by rw [ledger]; rfl)
        rw [alone_ended step₆ 2]
        refine .still running' fun both => ?_
        cases both.2 with
        | inl refused => rw [ledger] at refused; cases refused.2
        | inr kept => exact stored kept.1
      | some entry =>
        let ledgerRefused := decide (name = "_CauseLedgerVerificationError")
        have step₆ : alone reply v now w ⟨i, analysis, .requested⟩ 6 =
            (t', .unsaved final.1 ledgerRefused) := by
          rw [alone_next step₅]
          change InquiryAIService.persist o t' call final.1 r = _
          unfold InquiryAIService.persist
          dsimp only
          rw [running'.found]
          dsimp only
          rw [failed]
          exact if_neg (by rw [ledger]; exact Bool.false_ne_true)
        have refusal : ledgerRefused = true ↔ now 2 ≤ now 4 ∧ ReplyServes w.directory a v (.ok r) := by
          rw [decide_eq_true_eq, refuses]
          exact ⟨fun both => ⟨order, .inl both⟩,
            fun both => both.2.resolve_right fun kept => stored kept.1⟩
        have usable : InquiryAIService.isUsable final.1.status = true := by
          change InquiryAIService.isUsable
            (if r.isNoEvidence = true then RunStatus.noEvidence else .succeeded) = true
          cases r.isNoEvidence <;> rfl
        refine (alone_unsaved step₆ running' free usable starts rfl order awaits ?_).iff refusal
        rw [version]
        change _ = row.1.inputStateVersion
        rw [is]
        rfl
  · have ⟨failure, failed⟩ := refused (accepts.trans (decide_eq_false order))
    have step₅ : alone reply v now w ⟨i, analysis, .requested⟩ 5 = (t, .ended) := by
      rw [alone_next answered]
      exact congrArg (InquiryAIService.afterMark t (Phase.succeeded · r)) failed
    rw [alone_ended step₅ 3]
    exact .still running fun both => order both.1

end
/-! ### Every waiting inquiry -/

section
variable {settings : Settings} {start w : World} {labels : List Event} {i : Nat} {a : Aggregate}
  {ok : World → Action → Prop}

theorem intake_rules : ∀ rule ∈ shipped.transitions, stage rule.target = .intake →
    rule.source.all (fun s => decide (stage s = .intake)) = true ∧
      rule.event ≠ .claimConsultation := by
  decide

/-- Nobody is assigned before a consultation is asked for. -/
theorem intake_unassigned (initial : Initial start)
    (run : Run (Allowed settings ok) start labels w) (found : w.aggregate i = some a) :
    stage a.q.status = .intake → a.q.assignedUser = none := by
  refine aggregate_invariant
    (P := fun _ _ a => stage a.q.status = .intake → a.q.assignedUser = none) initial ?_ ?_ ?_ run i a
    found
  · exact fun _ kept => kept
  · intro w act b _ opens intake
    cases opens with
    | start _ opened =>
      have ⟨stored, row, same, _, opened⟩ := opened
      rw [opened]
      exact congrArg Inquiry.assignedUser same
    | @register request values subscription plan _ _ resolved _ opened =>
      have ⟨stored, row, same, _, opened⟩ := opened
      have target : ∀ rule ∈ shipped.transitions, rule.event = .registerPhoneInquiry →
          rule.target = .consultationRequired := by decide
      have ⟨listed, fires, _⟩ := resolve_ok resolved
      have status : b.q.status = .consultationRequired := by
        rw [opened]
        exact (congrArg Inquiry.status same).trans (target _ listed fires)
      rw [status] at intake
      cases intake
  · intro w before act i used a b earlier _ kept writes intake
    have coupled := reachable_coupled initial earlier writes.found
    cases writes.change coupled.desk with
    | moved event plan cause move =>
      have ⟨listed, fires, source⟩ := move.rule_mem
      rw [move.status] at intake
      have ⟨sources, other⟩ := intake_rules plan.rule listed intake
      rw [source, Option.all_some, decide_eq_true_eq] at sources
      cases move.assignment with
      | inl claimed => exact absurd (fires.trans claimed) other
      | inr same => exact same.1.trans (kept sources)
    | reported status inquiry =>
      rw [inquiry] at intake ⊢
      exact kept intake
    | reassigned target inquiry unfinished history consultations =>
      rw [inquiry] at intake
      have ⟨older, c, row, listed, _⟩ := consultations
      have empty := coupled.unconsulted intake
      rw [listed] at empty
      exact absurd (List.append_eq_nil_iff.1 empty).2 (List.cons_ne_nil _ _)
    | still same =>
      rw [same.status] at intake
      exact same.assignedUser.trans (kept intake)
    | drafted inquiry =>
      have same : b.q = a.q := congrArg Subtype.val inquiry
      rw [same] at intake ⊢
      exact kept intake

theorem reachable_awaits (initial : Initial start)
    (run : Run (Allowed settings ok) start labels w) (found : w.aggregate i = some a)
    (status : a.q.status = .questionnaireInProgress) : Awaits a where
  status := status
  unassigned := intake_unassigned initial run found (by rw [status]; rfl)
  unconsulted := (reachable_coupled initial run found).unconsulted (by rw [status]; rfl)
  unvisited := (reachable_coupled initial run found).unvisited (by rw [status]; rfl)
  recorded := (reachable_coupled initial run found).recorded

/-- A call of `analyze_inquiry` that nothing comes between leaves the customer of a waiting
inquiry something to do exactly if the inquiry served the customer before, or the clock does
not go back and the mapped reply serves the customer. -/
theorem run_served (initial : Initial start) (run : Run (Step settings) start labels w) :
    ∀ i a analysis, w.aggregate i = some a → a.q.status = .questionnaireInProgress →
      a.q.stateVersion = analysis.stateVersion → IsNew w analysis.aiRequestId →
      ∀ reply v (now : Nat → Instant), ∃ t b,
        alone reply v now w ⟨i, analysis, .requested⟩ 8 = (t, .ended) ∧ t.aggregate i = some b ∧
          (IsServed b ↔ IsServed a ∨ now 2 ≤ now 4 ∧ ReplyServes w.directory a v
            (analyze i (queuedRun w.nextId analysis (now 1)) reply)) := by
  intro i a analysis found status version fresh reply v now
  have awaits := reachable_awaits initial (Run.allowed run) found status
  have table := reachable_runs initial (Run.allowed run) found
  have ⟨row, t, is, running, answered⟩ := alone_answered reply v now analysis found awaits version
    table.limited fresh
  have free : ∀ r ∈ a.runs, r.1.id ≠ row.1.id := by
    rw [is]
    exact fun r member => Nat.ne_of_lt (table.limited r member)
  have ends : Ends i a (alone reply v now w ⟨i, analysis, .requested⟩ 8)
      (now 2 ≤ now 4 ∧ ReplyServes w.directory a v
        (analyze i (queuedRun w.nextId analysis (now 1)) reply)) := by
    cases answer : analyze i (queuedRun w.nextId analysis (now 1)) reply with
    | error error =>
      rw [answer] at answered
      exact alone_error answered running is free awaits version
    | ok r =>
      rw [answer] at answered
      have mapped := analyze_mapped answer
      unfold InquiryAIService.isMapped at mapped
      simp only [Bool.and_eq_true, decide_eq_true_eq, List.isEmpty_iff] at mapped
      exact alone_result answered running is free awaits version mapped.2 mapped.1.1.2
        (fresh i a found).2
  have ⟨ended, b, after, served⟩ := ends
  exact ⟨_, b, Prod.ext rfl ended, after, served⟩

end

namespace Sample

/-- The inquiry 10 after its symptom. -/
def waiting : World := (trace settings world (analysing.take 2)).2

def asked : AnalysisRequest := ⟨"request-1", "digest-1", 2, "WPUJAC104DWH", correlation⟩

/-- The AI service answers with an error after so many retries. -/
def refusal (code : String) (retryCount : Nat) : Except AIError SymptomAnalysisResult :=
  .error ⟨code, false, retryCount, false, none⟩

theorem waiting_new : IsNew waiting asked.aiRequestId := by
  have unknown : (waiting.inquiries.entries.all fun entry =>
      (entry.2.runs.all fun r => decide (r.1.idempotencyKey ≠ asked.aiRequestId)) &&
        entry.2.reviews.all fun r =>
          decide (r.1.sourceAiRequestId ≠ asked.aiRequestId)) = true := by decide +kernel
  intro i a found
  have checked := List.all_eq_true.1 unknown ⟨i, a⟩ (AList.mem_lookup_iff.1 found)
  rw [Bool.and_eq_true, List.all_eq_true, List.all_eq_true] at checked
  exact ⟨fun r member => of_decide_eq_true (checked.1 r member),
    fun r member => of_decide_eq_true (checked.2 r member)⟩

end Sample

theorem run_served_failing :
    ∃ a t b, Sample.waiting.aggregate 10 = some a ∧ ¬IsServed a ∧
      alone (Sample.refusal "AI-FAILED-01" 1) Sample.verification (102 + ·) Sample.waiting
        ⟨10, Sample.asked, .requested⟩ 8 = (t, .ended) ∧
      t.aggregate 10 = some b ∧ IsServed b := by
  have run : Run (Step Sample.settings) Sample.world
      (trace Sample.settings Sample.world (Sample.analysing.take 2)).1 Sample.waiting :=
    trace_run (by decide +kernel)
  have waits : (Sample.waiting.aggregate 10).any (fun a => decide (¬IsServed a) &&
      decide (a.q.status = .questionnaireInProgress) &&
        decide (a.q.stateVersion = Sample.asked.stateVersion)) = true := by decide +kernel
  have ⟨a, found, holds⟩ := (Option.any_eq_true _ _).1 waits
  rw [Bool.and_eq_true, Bool.and_eq_true, decide_eq_true_eq, decide_eq_true_eq,
    decide_eq_true_eq] at holds
  have ⟨t, b, ended, after, served⟩ := run_served Sample.world_initial run 10 a Sample.asked found
    holds.1.2 holds.2 Sample.waiting_new (Sample.refusal "AI-FAILED-01" 1) Sample.verification
    (102 + ·)
  refine ⟨a, t, b, found, holds.1.1, ended, after, served.2 (.inr ⟨by decide, ?_⟩)⟩
  change errorServes ⟨"AI-FAILED-01", false, 1, false, none⟩
  unfold errorServes
  rw [if_neg (by decide)]
  exact ⟨rfl, by decide⟩

/-- A timeout that the service reports after a retry moves nothing and asks nothing. -/
theorem retried_timeout_strands :
    ∃ labels w a t b, Run (Step Sample.settings) Sample.world labels w ∧
      w.aggregate 10 = some a ∧ a.q.status = .questionnaireInProgress ∧
      a.q.stateVersion = Sample.asked.stateVersion ∧ IsNew w Sample.asked.aiRequestId ∧
      alone (Sample.refusal "AI-TIMEOUT-01" 1) Sample.verification (102 + ·) w
        ⟨10, Sample.asked, .requested⟩ 8 = (t, .ended) ∧
      t.aggregate 10 = some b ∧ ¬IsServed b := by
  have run : Run (Step Sample.settings) Sample.world
      (trace Sample.settings Sample.world (Sample.analysing.take 2)).1 Sample.waiting :=
    trace_run (by decide +kernel)
  have waits : (Sample.waiting.aggregate 10).any (fun a =>
      decide (a.q.status = .questionnaireInProgress) &&
        decide (a.q.stateVersion = Sample.asked.stateVersion)) = true := by decide +kernel
  have ⟨a, found, holds⟩ := (Option.any_eq_true _ _).1 waits
  rw [Bool.and_eq_true, decide_eq_true_eq, decide_eq_true_eq] at holds
  let state := alone (Sample.refusal "AI-TIMEOUT-01" 1) Sample.verification (102 + ·) Sample.waiting
    ⟨10, Sample.asked, .requested⟩ 8
  have strands : (state.1.aggregate 10).any (fun b => decide (¬IsServed b)) = true := by
    decide +kernel
  have ⟨b, after, stranded⟩ := (Option.any_eq_true _ _).1 strands
  have last : (match state.2 with | .ended => true | _ => false) = true := by decide +kernel
  have ended : state.2 = .ended := by
    cases phase : state.2 <;> rw [phase] at last <;> first | rfl | cases last
  exact ⟨_, _, a, state.1, b, run, found, holds.1, holds.2, Sample.waiting_new, Prod.ext rfl ended,
    after, of_decide_eq_true stranded⟩

end WaterCare.Runtime
