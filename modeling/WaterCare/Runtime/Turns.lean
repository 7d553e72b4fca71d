import WaterCare.Runtime.Runs

/-!
What a step of one call of `analyze_inquiry` does. Between its transactions other operations
may have cancelled its run, so the call goes by the row of the run and not by its memory,
except where that row is final.
-/

namespace WaterCare.Runtime
open Machine Workflow Store Service Py Analysis
open InquiryAIService (runById isActive isUsable isMapped Call Phase Outside AIError)

/-! ### The run a call holds -/

/-- How the row of its run stands while a call is in a phase. -/
def Agrees (inquiry : Nat) (row : AIRun) : Phase → Prop
  | .created _ => row.status = .queued ∨ row.status = .cancelled
  | .running _ => isActive row.status = true ∨ row.status = .cancelled
  | .answered run answer => (isActive row.status = true ∨ row.status = .cancelled) ∧
      ∀ result, answer = .ok result → isMapped inquiry run result = true
  | .failed run => row = run ∧ (row.status = .failed ∨ row.status = .timedOut)
  | .succeeded run result => row = run ∧ isUsable row.status = true ∧
      row.result = some result ∧ isMapped inquiry run result = true
  | .unsaved run _ => row = run ∧ isUsable row.status = true
  | .refused run => row = run ∧ row.status = .failed
  | .requested | .unknown | .ended => True

/-- A call holds the row of its run, up to what has been marked since. -/
structure Held (w : World) (call : Call) (run row : AIRun) : Prop where
  holds : call.phase.run = some run
  found : runAt w call.inquiry run.id = some row
  same : SameRun row run
  key : run.idempotencyKey = call.analysis.aiRequestId
  agrees : Agrees call.inquiry row call.phase

/-- The statuses a run does not leave by a cancellation. -/
def isFinal : RunStatus → Bool
  | .succeeded | .noEvidence | .failed | .timedOut => true
  | .queued | .running | .retrying | .cancelled => false

theorem isFinal_of_usable {status : RunStatus} (usable : isUsable status = true) :
    isFinal status = true := by
  cases status <;> first | rfl | cases usable

theorem active_not_final {status : RunStatus} (active : isActive status = true) :
    isFinal status ≠ true := by
  cases status <;> first | cases active; done | exact nofun

theorem isFinal_not_open {status : RunStatus} (final : isFinal status = true) :
    isOpen status = false ∧ status ≠ .cancelled := by
  cases status <;> first | cases final; done | exact ⟨rfl, nofun⟩

section
variable {w t : World} {call : Call} {run row row' : AIRun} {inquiry : Nat} {phase : Phase}

/-- A phase agrees with a cancelled row, or holds the row itself in a final status. -/
theorem Agrees.cancelled (agrees : Agrees inquiry row phase) (cancels : Cancelled row row') :
    Agrees inquiry row' phase := by
  rcases cancels with rfl | ⟨open_, _, ended⟩
  · exact agrees
  have final {P : Prop} (h : isFinal row.status = true) : P := by
    rw [(isFinal_not_open h).1] at open_
    cases open_
  cases phase with
  | created _ | running _ => exact .inr ended
  | answered _ _ => exact ⟨.inr ended, agrees.2⟩
  | failed _ => exact final (by rcases agrees.2 with h | h <;> rw [h] <;> rfl)
  | succeeded _ _ => exact final (isFinal_of_usable agrees.2.1)
  | unsaved _ _ => exact final (isFinal_of_usable agrees.2)
  | refused _ => exact final (by rw [agrees.2]; rfl)
  | requested | unknown | ended => trivial

theorem Held.cancelled (held : Held w call run row)
    (found : runAt t call.inquiry run.id = some row') (cancels : Cancelled row row') :
    Held t call run row' where
  holds := held.holds
  found := found
  same := cancels.same.symm.trans held.same
  key := held.key
  agrees := held.agrees.cancelled cancels

end

/-! ### One step of a call -/

/-- Everything a step of a call can do. -/
inductive Turn (o : Outside) (w : World) (call : Call) : World → Phase → Prop
  | still {phase : Phase} (holds : phase.run = none ∨ phase.run = call.phase.run ∧
      ∀ row, Agrees call.inquiry row call.phase → Agrees call.inquiry row phase) :
      Turn o w call w phase
  | queued {a b : Aggregate} {phase : Phase} (unknown : call.phase = .unknown)
      (found : w.aggregate call.inquiry = some a)
      (free : ∀ i run r, runAt w i run = some r → r.idempotencyKey ≠ call.analysis.aiRequestId)
      (written : InquiryAIService.createRun a call.analysis w.nextId o.now = .ok b)
      (performed : (InternalStep.createRun call.inquiry call.analysis).perform o.now w =
        .ok { w.put call.inquiry b with nextId := w.nextId + 1 })
      (next : phase = .ended ∨ ∃ row : Stored AIRun, runById b w.nextId = some row ∧
        row.1 = InquiryAIService.queuedRun w.nextId call.analysis o.now ∧ phase = .created row.1) :
      Turn o w call { w.put call.inquiry b with nextId := w.nextId + 1 } phase
  | marked {a b : Aggregate} {run : AIRun} {row row' : Stored AIRun} {step : RunStep}
      {phase : Phase} (holds : call.phase.run = some run)
      (found : w.aggregate call.inquiry = some a) (there : runById a run.id = some row)
      (performed : step.perform o.now w a row.1 = .ok b) (silent : step.identifiers row.1 = 0)
      (alive : row.1.status ≠ .cancelled) (same : SameRun row.1 row'.1)
      (final : isFinal row.1.status = true → isFinal row'.1.status = true)
      (put : b = { a with runs := replaceRow (·.1.id) row' a.runs })
      (next : phase.run = none ∨ phase.run = some row'.1)
      (agrees : Agrees call.inquiry row'.1 phase) :
      Turn o w call (w.put call.inquiry b) phase
  | wrote {a b : Aggregate} {run : AIRun} {row : Stored AIRun} {step : RunStep}
      (holds : call.phase.run = some run)
      (found : w.aggregate call.inquiry = some a) (there : runById a run.id = some row)
      (performed : step.perform o.now w a row.1 = .ok b) (final : isFinal row.1.status = true)
      (runs : b.runs = a.runs)
      (current : b = a ∨ a.q.stateVersion = row.1.inputStateVersion) :
      Turn o w call { w.put call.inquiry b with nextId := w.nextId + step.identifiers row.1 } .ended

section
variable {o : Outside} {w t : World} {call : Call} {run row : AIRun} {now : Instant} {a b : Aggregate}
  {i : Nat}

/-- The step of the system a transaction of a call is. -/
theorem onRun_perform {step : RunStep} {id : Nat} {found : Stored AIRun}
    (there : w.aggregate i = some a) (mem : runById a id = some found)
    (performed : step.perform now w a found.1 = .ok b) :
    (InternalStep.onRun i id step).perform now w =
      .ok { w.put i b with nextId := w.nextId + step.identifiers found.1 } := by
  have locked : ((w.aggregate i).bind fun a => (runById a id).map fun r => (a, r.1)) =
      some (a, found.1) := by
    rw [there]
    exact congrArg (Option.map _) mem
  unfold InternalStep.perform
  dsimp only
  rw [locked]
  exact bind_of_ok performed

theorem runById_replaceRow {id : Nat} {old new : Stored AIRun} (found : runById a id = some old)
    (same : SameRun old.1 new.1) :
    runById { a with runs := replaceRow (·.1.id) new a.runs } id = some new :=
  find_replaceRow found (same.id.trans (runById_mem found).2 : (fun r => r.1.id) new = id)

theorem runById_replaceRow_ne {id : Nat} {new : Stored AIRun} (other : new.1.id ≠ id) :
    runById { a with runs := replaceRow (·.1.id) new a.runs } id = runById a id :=
  find_replaceRow_ne (other : (fun r : Stored AIRun => r.1.id) new ≠ id)

/-- A mark that goes through has changed the row of the run as the transaction says. -/
theorem mark_cases {expected : RunStatus → Bool} {change : AIRun → AIRun} {next : AIRun → Phase}
    {write : Aggregate → Except Failure Aggregate} (step : RunStep)
    (held : Held w call run row)
    (writes : ∀ a, write a = InquiryAIService.changeRun a run.id expected change)
    (performs : ∀ a, w.aggregate call.inquiry = some a → step.perform o.now w a row = write a)
    (silent : step.identifiers row = 0) (alive : expected .cancelled = false)
    (same : ∀ r, SameRun r (change r))
    (final : ∀ r, expected r.status = true → isFinal r.status = true →
      isFinal (change r).status = true)
    (agrees : expected row.status = true → Agrees call.inquiry (change row) (next (change row)))
    (holds : (next (change row)).run = none ∨ (next (change row)).run = some (change row)) :
    ∀ t phase, InquiryAIService.afterMark w next
      (InquiryAIService.mark w call run expected write) = (t, phase) → Turn o w call t phase := by
  intro t phase h
  obtain ⟨a, stored, there, mem, rfl⟩ := runAt_eq_some.1 held.found
  have locked : ((w.aggregate call.inquiry).bind fun a =>
      (runById a run.id).map fun row => (a, row.1)) = some (a, stored.1) := by
    rw [there]
    exact congrArg (Option.map _) mem
  unfold InquiryAIService.mark at h
  rw [locked] at h
  dsimp only at h
  by_cases is : expected stored.1.status = true
  · rw [if_pos is] at h
    cases written : write a with
    | error failure =>
        rw [written] at h
        cases h
        exact .still (.inl rfl)
    | ok b =>
        rw [written] at h
        have changed := written
        rw [writes] at changed
        obtain ⟨old, found, ⟨no, _⟩ | ⟨_, new, made, rfl⟩⟩ := changeRun_ok changed
        · cases mem.symm.trans found
          rw [is] at no
          cases no
        · cases mem.symm.trans found
          have sames : SameRun stored.1 new.1 := made ▸ same stored.1
          have refreshed := runById_replaceRow mem sames
          change InquiryAIService.afterMark w next (.ok ((runById _ run.id).map _)) = _ at h
          rw [refreshed] at h
          cases h
          refine .marked held.holds there mem ((performs a there).trans written) silent ?_ sames ?_ rfl
            ?_ ?_
          · intro cancelled
            rw [cancelled, alive] at is
            cases is
          · rw [made]
            exact final stored.1 is
          · rw [made]
            exact holds
          · rw [made]
            exact agrees is
  · rw [if_neg is] at h
    cases h
    exact .still (.inl rfl)

theorem applyFailureEvent_current {d : Directory} {event : EventCode} {guard : GuardId}
    {accepted : AIRun → Bool} {mark : Inquiry → Inquiry}
    {outcome : InquiryAIService.EventOutcome}
    (h : InquiryAIService.applyFailureEvent event guard accepted mark d a run now =
      .ok (b, outcome)) : b = a ∨ a.q.stateVersion = run.inputStateVersion := by
  unfold InquiryAIService.applyFailureEvent at h
  split at h
  · cases h
    exact .inl rfl
  · rename_i current
    exact .inr (not_not.1 (not_or.1 current).2)

theorem persist_current {d : Directory} {r : SymptomAnalysisResult}
    {v : InquiryAIService.Verification} {id : Nat} {outcome : InquiryAIService.EventOutcome}
    (h : InquiryAIService.persistValidatedResult d a run r v id now = .ok (b, outcome)) :
    b = a ∨ a.q.stateVersion = r.stateVersion := by
  rcases persist_ok h with ⟨_, same, _⟩ | ⟨current, _⟩
  · exact .inl same
  · exact .inr current

/-- The event that ends a call finds the run as the call remembers it. -/
theorem lastEvent_cases (step : RunStep) {event : EventCode} {guard : GuardId}
    {accepted : AIRun → Bool} {marked : Inquiry → Inquiry} (held : Held w call run row)
    (remembered : row = run) (final : isFinal row.status = true)
    (performs : ∀ a, step.perform o.now w a run = (InquiryAIService.applyFailureEvent event guard
      accepted marked w.directory a run o.now).map (·.1)) (silent : step.identifiers run = 0) :
    ∀ t phase, InquiryAIService.lastEvent o w call
      (InquiryAIService.applyFailureEvent event guard accepted marked) run = (t, phase) →
      Turn o w call t phase := by
  intro t phase h
  subst remembered
  obtain ⟨a, stored, there, mem, rfl⟩ := runAt_eq_some.1 held.found
  unfold InquiryAIService.lastEvent at h
  rw [there] at h
  dsimp only at h
  cases applied : InquiryAIService.applyFailureEvent event guard accepted marked w.directory a
      stored.1 o.now with
  | error failure =>
      rw [applied] at h
      cases h
      exact .still (.inl rfl)
  | ok written =>
      rw [applied] at h
      cases h
      have performed : step.perform o.now w a stored.1 = .ok written.1 := by
        rw [performs, applied]
        rfl
      have turn := Turn.wrote (o := o) held.holds there mem performed final
        (applyFailureEvent_analysis applied).runs (applyFailureEvent_current applied)
      rw [silent] at turn
      exact turn

theorem persist_cases {result : SymptomAnalysisResult} (held : Held w call run row)
    (phase_eq : call.phase = .succeeded run result) :
    ∀ t phase, InquiryAIService.persist o w call run result = (t, phase) →
      Turn o w call t phase := by
  intro t phase h
  have agrees := held.agrees
  rw [phase_eq] at agrees
  obtain ⟨remembered, usable, stored_result, mapped⟩ := agrees
  subst remembered
  obtain ⟨a, stored, there, mem, rfl⟩ := runAt_eq_some.1 held.found
  have unsaved (refused : Bool) : Turn o w call w (.unsaved stored.1 refused) := by
    refine .still (.inr ⟨held.holds.symm, ?_⟩)
    intro row agrees
    rw [phase_eq] at agrees
    exact ⟨agrees.1, agrees.2.1⟩
  unfold InquiryAIService.persist at h
  rw [there] at h
  dsimp only at h
  cases persisted : InquiryAIService.persistValidatedResult w.directory a stored.1 result
      o.verification w.nextId o.now with
  | error failure =>
      rw [persisted] at h
      dsimp only at h
      split_ifs at h
      · cases h
        exact .still (.inl rfl)
      · cases failure <;> cases h <;> exact unsaved _
  | ok written =>
      rw [persisted] at h
      cases h
      have performed : (RunStep.persistValidatedResult o.verification).perform o.now w a stored.1 =
          .ok written.1 := by
        unfold RunStep.perform
        dsimp only
        rw [stored_result]
        exact congrArg (Except.map (·.1)) persisted
      have used : (RunStep.persistValidatedResult o.verification).identifiers stored.1 =
          InquiryAIService.identifiers result o.verification := by
        unfold RunStep.identifiers
        dsimp only
        rw [stored_result]
        rfl
      have version : result.stateVersion = stored.1.inputStateVersion := by
        unfold isMapped at mapped
        simp only [Bool.and_eq_true, decide_eq_true_eq] at mapped
        exact mapped.1.1.2
      have turn := Turn.wrote (o := o) held.holds there mem performed (isFinal_of_usable usable)
        (persist_runs persisted) (version ▸ persist_current persisted)
      rw [used] at turn
      exact turn

theorem ownerOf_none {holds : Aggregate → Bool} (none : w.ownerOf holds = none)
    (there : w.aggregate i = some a) : holds a = false := by
  unfold World.ownerOf at none
  have free := List.find?_eq_none.1 (Option.map_eq_none_iff.1 none)
  exact Bool.eq_false_iff.2 (free ⟨i, a⟩ (AList.mem_lookup_iff.1 there))

theorem create_cases (unknown : call.phase = .unknown)
    (tables : ∀ i a, w.aggregate i = some a → RunTable w.nextId i a) :
    ∀ t phase, InquiryAIService.create o w call = (t, phase) → Turn o w call t phase := by
  intro t phase h
  unfold InquiryAIService.create at h
  split at h
  · cases h
    exact .still (.inl rfl)
  · rename_i t' created
    have performed := created
    unfold InternalStep.perform at performed
    dsimp only at performed
    split at performed
    · cases performed
    · rename_i a there
      split_ifs at performed with taken
      obtain ⟨b, written, made⟩ := bind_eq_ok.1 performed
      cases made
      have free : ∀ i run r, runAt w i run = some r →
          r.idempotencyKey ≠ call.analysis.aiRequestId := by
        intro i run r found same
        obtain ⟨x, row, there, mem, rfl⟩ := runAt_eq_some.1 found
        have nobody := ownerOf_none (Option.not_isSome_iff_eq_none.1 taken) there
        rw [List.any_eq_false] at nobody
        exact nobody row (runById_mem mem).1 (decide_eq_true same)
      obtain ⟨row, rfl, made⟩ := createRun_ok written
      have last : runById { a with runs := a.runs ++ [row] } w.nextId = some row := by
        have number : row.1.id = w.nextId := by
          rcases made with ⟨same, _⟩ | same
          · rw [same]
            rfl
          · rw [same]
            rfl
        have absent : a.runs.find? (fun r => decide (r.1.id = w.nextId)) = none := by
          refine List.find?_eq_none.2 ?_
          intro r mem same
          exact absurd (of_decide_eq_true same) (Nat.ne_of_lt ((tables _ a there).limited r mem))
        unfold runById
        rw [List.find?_append, absent, Option.none_or]
        exact List.find?_cons_of_pos (decide_eq_true number)
      have found : (({ w.put call.inquiry { a with runs := a.runs ++ [row] } with
          nextId := w.nextId + 1 } : World).aggregate call.inquiry).bind
            (fun a => runById a w.nextId) = some row := by
        refine (congrArg (Option.bind · _) (World.aggregate_put w call.inquiry _)).trans ?_
        exact last
      rw [found] at h
      cases h
      refine .queued unknown there free written created ?_
      split_ifs with cancelled
      · exact .inl rfl
      · refine .inr ⟨row, last, ?_, rfl⟩
        rcases made with ⟨same, _⟩ | same
        · exact same
        · rw [same] at cancelled
          exact absurd rfl cancelled

theorem analyze_mapped {answer : Except AIError SymptomAnalysisResult}
    {result : SymptomAnalysisResult}
    (h : InquiryAIService.analyze i run answer = .ok result) : isMapped i run result = true := by
  unfold InquiryAIService.analyze at h
  split at h
  · cases h
  · split_ifs at h with mapped
    cases h
    exact mapped

/-- The check of a response reads what a run keeps. -/
theorem isMapped_congr {r r' : AIRun} (same : SameRun r r') (result : SymptomAnalysisResult) :
    isMapped i r' result = isMapped i r result := by
  unfold isMapped
  rw [same.correlationId, same.idempotencyKey, same.inputStateVersion, same.inputModelCode]

/-- Everything a call does at its turn. -/
theorem turn (tables : ∀ i a, w.aggregate i = some a → RunTable w.nextId i a)
    (helds : ∀ run, call.phase.run = some run → ∃ row, Held w call run row) :
    Turn o w call (InquiryAIService.advance o w call).1 (InquiryAIService.advance o w call).2 := by
  cases at_phase : call.phase with
  | requested =>
      unfold InquiryAIService.advance
      rw [at_phase]
      dsimp only
      split_ifs
      · exact .still (.inl rfl)
      · exact .still (.inl rfl)
  | unknown =>
      unfold InquiryAIService.advance
      rw [at_phase]
      exact create_cases at_phase tables _ _ rfl
  | created run =>
      obtain ⟨row, held⟩ := helds run (by rw [at_phase]; rfl)
      unfold InquiryAIService.advance
      rw [at_phase]
      refine mark_cases .markRunning held (fun _ => rfl) ?_ rfl rfl ?_ ?_ ?_ ?_ _ _ rfl
      · intro a _
        rw [held.same.id]
        rfl
      · exact fun _ => ⟨rfl, rfl, rfl, rfl, rfl, rfl⟩
      · intro r queued final
        rw [of_decide_eq_true queued] at final
        cases final
      · exact fun _ => .inl rfl
      · exact .inr rfl
  | running run =>
      unfold InquiryAIService.advance
      rw [at_phase]
      dsimp only
      cases o.answer with
      | none => exact .still (.inl rfl)
      | some answer =>
          refine .still (.inr ⟨by rw [at_phase]; rfl, ?_⟩)
          intro row agrees
          rw [at_phase] at agrees
          exact ⟨agrees, fun result same => analyze_mapped same⟩
  | answered run answer =>
      obtain ⟨row, held⟩ := helds run (by rw [at_phase]; rfl)
      cases answer with
      | error error =>
          unfold InquiryAIService.advance
          rw [at_phase]
          refine mark_cases (.markFailed error) held (fun _ => rfl) ?_ rfl rfl ?_ ?_ ?_ ?_
            _ _ rfl
          · intro a _
            rw [held.same.id]
            rfl
          · exact fun _ => ⟨rfl, rfl, rfl, rfl, rfl, rfl⟩
          · exact fun r active final => absurd final (active_not_final active)
          · intro _
            refine ⟨rfl, ?_⟩
            dsimp only
            split_ifs
            · exact .inr rfl
            · exact .inl rfl
          · exact .inr rfl
      | ok result =>
          have agrees := held.agrees
          rw [at_phase] at agrees
          have mapped : isMapped call.inquiry row result = true := by
            rw [← isMapped_congr held.same]
            exact agrees.2 result rfl
          unfold InquiryAIService.advance
          rw [at_phase]
          refine mark_cases (.markSucceeded result) held (fun _ => rfl) ?_ rfl rfl ?_ ?_
            ?_ ?_ _ _ rfl
          · intro a there
            unfold RunStep.perform
            dsimp only
            rw [(tables _ a there).named, if_pos mapped, held.same.id]
            rfl
          · exact fun _ => ⟨rfl, rfl, rfl, rfl, rfl, rfl⟩
          · exact fun r active final => absurd final (active_not_final active)
          · intro _
            refine ⟨rfl, ?_, rfl, mapped⟩
            dsimp only
            split_ifs <;> rfl
          · exact .inr rfl
  | failed run =>
      obtain ⟨row, held⟩ := helds run (by rw [at_phase]; rfl)
      have agrees := held.agrees
      rw [at_phase] at agrees
      have final : isFinal row.status = true := by rcases agrees.2 with h | h <;> rw [h] <;> rfl
      unfold InquiryAIService.advance
      rw [at_phase]
      dsimp only
      split_ifs
      · exact lastEvent_cases .applyTimeoutEvent held agrees.1 final (fun _ => rfl) rfl
          _ _ rfl
      · exact lastEvent_cases .applyUnusableAiFailureEvent held agrees.1 final
          (fun _ => rfl) rfl _ _ rfl
  | succeeded run result =>
      obtain ⟨row, held⟩ := helds run (by rw [at_phase]; rfl)
      unfold InquiryAIService.advance
      rw [at_phase]
      exact persist_cases held at_phase _ _ rfl
  | unsaved run refused =>
      obtain ⟨row, held⟩ := helds run (by rw [at_phase]; rfl)
      unfold InquiryAIService.advance
      rw [at_phase]
      refine mark_cases (.markDomainPersistenceFailed "AI-LEDGER-PERSIST-01") held
        (fun _ => rfl) ?_ rfl rfl ?_ ?_ ?_ ?_ _ _ rfl
      · intro a _
        rw [held.same.id]
        rfl
      · exact fun _ => ⟨rfl, rfl, rfl, rfl, rfl, rfl⟩
      · exact fun _ _ _ => rfl
      · intro _
        split_ifs
        · exact ⟨rfl, rfl⟩
        · trivial
      · split_ifs
        · exact .inr rfl
        · exact .inl rfl
  | refused run =>
      obtain ⟨row, held⟩ := helds run (by rw [at_phase]; rfl)
      have agrees := held.agrees
      rw [at_phase] at agrees
      have final : isFinal row.status = true := by rw [agrees.2]; rfl
      unfold InquiryAIService.advance
      rw [at_phase]
      exact lastEvent_cases .applyUnusableAiFailureEvent held agrees.1 final
        (fun _ => rfl) rfl _ _ rfl
  | ended =>
      unfold InquiryAIService.advance
      rw [at_phase]
      exact .still (.inl rfl)

end
end WaterCare.Runtime
