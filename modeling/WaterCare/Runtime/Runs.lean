import WaterCare.Runtime.Coupling
import WaterCare.Runtime.Records
import WaterCare.Service.Analyses

/-!
The runs of an inquiry. A run keeps the request it was made for; it is marked by its own
analysis and cancelled with the inquiry, and no write takes it out of a final status.
-/

namespace WaterCare.Runtime
open Machine Workflow Store Service Py Analysis
open InquiryAIService (runById isActive isUsable)

/-! ### One write -/

/-- The same run of the same request. -/
structure SameRun (r r' : AIRun) : Prop where
  id : r'.id = r.id
  idempotencyKey : r'.idempotencyKey = r.idempotencyKey
  inputDigest : r'.inputDigest = r.inputDigest
  inputStateVersion : r'.inputStateVersion = r.inputStateVersion
  inputModelCode : r'.inputModelCode = r.inputModelCode
  correlationId : r'.correlationId = r.correlationId

namespace SameRun
variable {r r' r'' : AIRun}

theorem refl (r : AIRun) : SameRun r r := ⟨rfl, rfl, rfl, rfl, rfl, rfl⟩

theorem trans (first : SameRun r r') (second : SameRun r' r'') : SameRun r r'' where
  id := second.id.trans first.id
  idempotencyKey := second.idempotencyKey.trans first.idempotencyKey
  inputDigest := second.inputDigest.trans first.inputDigest
  inputStateVersion := second.inputStateVersion.trans first.inputStateVersion
  inputModelCode := second.inputModelCode.trans first.inputModelCode
  correlationId := second.correlationId.trans first.correlationId

theorem symm (same : SameRun r r') : SameRun r' r where
  id := same.id.symm
  idempotencyKey := same.idempotencyKey.symm
  inputDigest := same.inputDigest.symm
  inputStateVersion := same.inputStateVersion.symm
  inputModelCode := same.inputModelCode.symm
  correlationId := same.correlationId.symm

end SameRun

/-- The statuses a cancellation of the inquiry ends. -/
def isOpen : RunStatus → Bool
  | .queued | .running | .retrying => true
  | .succeeded | .noEvidence | .failed | .timedOut | .cancelled => false

/-- A run is as it was, or it was open and has been cancelled. -/
def Cancelled (r r' : AIRun) : Prop :=
  r' = r ∨ isOpen r.status = true ∧ SameRun r r' ∧ r'.status = .cancelled

/-- What a write does to the runs, with the first free identifier. -/
inductive Marks (limit used : Nat) (act : Action) (a b : Aggregate) : Prop
  | operation (runs : List.Forall₂ (fun r r' : Stored AIRun => Cancelled r.1 r'.1) a.runs b.runs)
  | kept (analysis : act.ofAnalysis = true) (runs : b.runs = a.runs)
  | queued (analysis : act.ofAnalysis = true) {run : Stored AIRun} (runs : b.runs = a.runs ++ [run])
      (id : run.1.id = limit) (room : 1 ≤ used)
      (current : run.1.status ≠ .cancelled →
        a.q.status ≠ .cancelled ∧ run.1.inputStateVersion = a.q.stateVersion)
  | marked (analysis : act.ofAnalysis = true) {old row : Stored AIRun} (mem : old ∈ a.runs)
      (same : SameRun old.1 row.1) (alive : old.1.status ≠ .cancelled)
      (runs : b.runs = replaceRow (·.1.id) row a.runs)

section
variable {settings : Settings} {d : Directory} {w : World} {act : Action} {a b : Aggregate}
  {inquiry used id : Nat} {now : Instant} {run : AIRun} {r : SymptomAnalysisResult}

theorem cancelRun_ok {old row : Stored AIRun} (h : cancelRun now old = .ok row) :
    Cancelled old.1 row.1 := by
  unfold cancelRun at h
  split at h
  all_goals first
    | cases h
      exact .inl rfl
    | rename_i open_
      rw [save_ok.1 h]
      refine .inr ⟨?_, ⟨rfl, rfl, rfl, rfl, rfl, rfl⟩, rfl⟩
      rw [open_]
      rfl

theorem uncancelled (runs : b.runs = a.runs) :
    List.Forall₂ (fun r r' : Stored AIRun => Cancelled r.1 r'.1) a.runs b.runs := by
  rw [runs]
  exact List.forall₂_same.2 fun _ _ => .inl rfl

theorem persist_runs {v : InquiryAIService.Verification} {outcome : InquiryAIService.EventOutcome}
    (h : InquiryAIService.persistValidatedResult d a run r v id now = .ok (b, outcome)) :
    b.runs = a.runs := by
  rcases persist_ok h with ⟨_, rfl, _⟩ |
    ⟨_, assessed, audited, asked, saved, verified, inquiry, h₁, h₂, h₃, h₄, _, h₆⟩
  · rfl
  obtain ⟨assessment, rfl⟩ := saveAssessment_ok h₁
  obtain ⟨added, rfl⟩ := saveFollowupQuestions_ok h₃
  have audits : audited.runs = a.runs := by
    rcases saveLedger_ok h₂ with ⟨_, rfl⟩ | ⟨_, _, rfl⟩
    · rfl
    · rfl
  have bundles : saved.runs = audited.runs := by
    rcases saveBundle_ok h₄ with ⟨rfl, _⟩ | ⟨_, _, stored⟩
    · rfl
    · obtain ⟨g, _, ⟨_, rfl⟩ | ⟨_, created⟩⟩ := saveGuidanceBundle_ok stored
      · rfl
      · obtain ⟨row, rfl, _⟩ := createPending_ok created
        rfl
  exact (applyEventIfAllowed_analysis h₆).runs.trans (bundles.trans audits)

/-- The statuses a mark expects are none of a cancelled run. -/
theorem changeRun_marks {expected : RunStatus → Bool} {change : AIRun → AIRun}
    (analysis : act.ofAnalysis = true) (same : ∀ r, SameRun r (change r))
    (alive : expected .cancelled = false) {limit : Nat}
    (h : InquiryAIService.changeRun a id expected change = .ok b) : Marks limit used act a b := by
  obtain ⟨old, found, ⟨_, rfl⟩ | ⟨isExpected, row, changed, rfl⟩⟩ := changeRun_ok h
  · exact .kept analysis rfl
  · refine .marked analysis (runById_mem found).1 (changed ▸ same old.1) ?_ rfl
    intro cancelled
    rw [cancelled, alive] at isExpected
    cases isExpected

theorem RunStep.marks {step : RunStep} {limit : Nat} (analysis : act.ofAnalysis = true)
    (h : step.perform now w a run = .ok b) : Marks limit used act a b := by
  cases step with
  | markRunning =>
      unfold RunStep.perform InquiryAIService.markRunning at h
      refine changeRun_marks analysis ?_ ?_ h
      · exact fun _ => ⟨rfl, rfl, rfl, rfl, rfl, rfl⟩
      · rfl
  | markSucceeded result =>
      unfold RunStep.perform at h
      dsimp only at h
      split_ifs at h
      refine changeRun_marks analysis ?_ ?_ h
      · exact fun _ => ⟨rfl, rfl, rfl, rfl, rfl, rfl⟩
      · rfl
  | markFailed error =>
      unfold RunStep.perform InquiryAIService.markFailed at h
      refine changeRun_marks analysis ?_ ?_ h
      · exact fun _ => ⟨rfl, rfl, rfl, rfl, rfl, rfl⟩
      · rfl
  | markDomainPersistenceFailed failureCode =>
      unfold RunStep.perform InquiryAIService.markDomainPersistenceFailed at h
      refine changeRun_marks analysis ?_ ?_ h
      · exact fun _ => ⟨rfl, rfl, rfl, rfl, rfl, rfl⟩
      · rfl
  | persistValidatedResult verification =>
      unfold RunStep.perform at h
      dsimp only at h
      split at h
      · cases h
        exact .kept analysis rfl
      · obtain ⟨⟨written, outcome⟩, persisted, rfl⟩ := map_eq_ok.1 h
        exact .kept analysis (persist_runs persisted)
  | applyTimeoutEvent =>
      obtain ⟨⟨written, outcome⟩, applied, rfl⟩ := map_eq_ok.1 h
      exact .kept analysis (applyFailureEvent_analysis applied).runs
  | applyUnusableAiFailureEvent =>
      obtain ⟨⟨written, outcome⟩, applied, rfl⟩ := map_eq_ok.1 h
      exact .kept analysis (applyFailureEvent_analysis applied).runs

theorem createRun_marks {analysis : InquiryAIService.AnalysisRequest} {limit : Nat}
    (own : act.ofAnalysis = true) (room : 1 ≤ used)
    (h : InquiryAIService.createRun a analysis limit now = .ok b) : Marks limit used act a b := by
  obtain ⟨run, rfl, made⟩ := createRun_ok h
  refine .queued own rfl ?_ room ?_
  · rcases made with ⟨same, _⟩ | same
    · rw [same]
      rfl
    · rw [same]
      rfl
  · intro alive
    rcases made with ⟨same, open_, current⟩ | same
    · refine ⟨open_, ?_⟩
      rw [same]
      exact current.symm
    · rw [same] at alive
      exact absurd rfl alive

theorem Writes.marks (writes : Writes settings w act inquiry a b used) :
    Marks w.nextId used act a b := by
  cases writes with
  | service serves commits =>
      obtain ⟨_, _, runs | ⟨_, mapped⟩⟩ := commits.records serves.isService
      · exact .operation (uncancelled runs)
      · exact .operation ((mapM_eq_ok mapped).imp fun _ _ => cancelRun_ok)
  | actionResult reports =>
      have h := reports.written
      unfold ActionResultService.write at h
      obtain ⟨row, _, h⟩ := bind_eq_ok.1 h
      obtain ⟨saved, _, h⟩ := bind_eq_ok.1 h
      cases h
      exact .operation (uncancelled rfl)
  | decision decides =>
      obtain ⟨_, _, _, _, _, _, _, _, _, runs⟩ := decision_records decides
      exact .operation (uncancelled runs)
  | reassignment reassigns =>
      have h := reassigns.written
      unfold SupervisorConsultationService.writeReassignment at h
      obtain ⟨row, _, h⟩ := bind_eq_ok.1 h
      obtain ⟨saved, _, h⟩ := bind_eq_ok.1 h
      cases h
      exact .operation (uncancelled rfl)
  | createRun _ written => exact createRun_marks rfl (Nat.le_refl 1) written
  | runStep _ _ written => exact RunStep.marks rfl written
  | handoff _ row attached =>
      have linked := (attachHandoff_analysis attached).runs
      rcases row with ⟨rfl, _⟩ | ⟨run, rfl, _⟩
      · exact .operation (uncancelled linked)
      · exact .operation (uncancelled linked)
  | resumeFailed _ _ written =>
      obtain ⟨_, row, _, rfl⟩ := markResumeFailed_ok written
      exact .operation (uncancelled rfl)

end

/-! ### Every run of the system -/

/-- The runs of an inquiry have identifiers of their own, and one that is not cancelled is
about a version the inquiry has had before its own cancellation. -/
structure RunTable (limit inquiry : Nat) (a : Aggregate) : Prop where
  named : a.q.id = inquiry
  below : inquiry < limit
  nodup : (a.runs.map (·.1.id)).Nodup
  limited : ∀ r ∈ a.runs, r.1.id < limit
  current : ∀ r ∈ a.runs, r.1.status ≠ .cancelled →
    r.1.inputStateVersion ≤ a.q.stateVersion ∧
      (a.q.status = .cancelled → r.1.inputStateVersion < a.q.stateVersion)

section
variable {settings : Settings} {ok : World → Action → Prop} {start w t : World}
  {labels : List Event} {act : Action} {a b : Aggregate} {i used limit more : Nat} {now : Instant}
  {causes : EventCode → Plan → Prop}

/-- A change keeps the identifier; the version only grows, and grows with a cancellation. -/
theorem Change.advances (change : Change causes limit used now a b) :
    b.q.id = a.q.id ∧ a.q.stateVersion ≤ b.q.stateVersion ∧
      (b.q.status = .cancelled → a.q.status = .cancelled ∨ a.q.stateVersion < b.q.stateVersion) := by
  cases change with
  | moved event plan cause move _ =>
      have grown := move.version_succ
      refine ⟨move.identity.1, by omega, fun _ => .inr (by omega)⟩
  | reported status inquiry _ _ _ _ =>
      rw [inquiry]
      refine ⟨rfl, Nat.le_succ _, fun _ => .inr (Nat.lt_succ_self _)⟩
  | reassigned target inquiry _ _ _ _ _ =>
      rw [inquiry]
      exact ⟨rfl, Nat.le_refl _, .inl⟩
  | still same =>
      rw [same.id, same.version, same.status]
      exact ⟨rfl, Nat.le_refl _, .inl⟩
  | drafted inquiry _ _ _ _ =>
      have same : b.q = a.q := congrArg Subtype.val inquiry
      rw [same]
      exact ⟨rfl, Nat.le_refl _, .inl⟩

theorem Cancelled.same {r r' : AIRun} (cancelled : Cancelled r r') : SameRun r r' := by
  rcases cancelled with rfl | ⟨_, same, _⟩
  · exact .refl _
  · exact same

/-- A run after a write is new, or was there before, and alive if it still is. -/
theorem Marks.mem {r : Stored AIRun} (marks : Marks limit used act a b) (mem : r ∈ b.runs) :
    (∃ old ∈ a.runs, SameRun old.1 r.1 ∧ (r.1.status ≠ .cancelled → old.1.status ≠ .cancelled)) ∨
      r.1.id = limit ∧ (r.1.status ≠ .cancelled →
        a.q.status ≠ .cancelled ∧ r.1.inputStateVersion = a.q.stateVersion) := by
  cases marks with
  | operation runs =>
      obtain ⟨old, there, cancelled⟩ := forall₂_mem runs mem
      refine .inl ⟨old, there, cancelled.same, ?_⟩
      rcases cancelled with same | ⟨_, _, ended⟩
      · rw [same]
        exact id
      · exact fun alive => absurd ended alive
  | kept _ runs => exact .inl ⟨r, runs ▸ mem, .refl _, id⟩
  | queued _ runs number _ current =>
      rw [runs] at mem
      rcases List.mem_append.1 mem with old | new
      · exact .inl ⟨r, old, .refl _, id⟩
      · rw [List.mem_singleton.1 new]
        exact .inr ⟨number, current⟩
  | @marked _ old _ there same alive runs =>
      rw [runs] at mem
      rcases mem_replaceRow mem with kept | ⟨rfl, _⟩
      · exact .inl ⟨r, kept, .refl _, id⟩
      · exact .inl ⟨old, there, same, fun _ => alive⟩

/-- A write keeps the identifiers of the runs and adds at most the first free one. -/
theorem Marks.ids (marks : Marks limit used act a b) :
    b.runs.map (·.1.id) = a.runs.map (·.1.id) ∨
      b.runs.map (·.1.id) = a.runs.map (·.1.id) ++ [limit] ∧ 1 ≤ used := by
  cases marks with
  | operation runs =>
      left
      generalize a.runs = before, b.runs = after at runs
      induction runs with
      | nil => rfl
      | cons head _ ih => rw [List.map_cons, List.map_cons, ih, head.same.id]
  | kept _ runs => exact .inl (by rw [runs])
  | @queued _ run runs number room _ =>
      refine .inr ⟨?_, room⟩
      rw [runs, List.map_append, List.map_singleton, number]
  | marked _ _ _ _ runs =>
      left
      rw [runs]
      exact map_replaceRow _ _ _

theorem RunTable.marked (table : RunTable limit i a) (change : Change causes limit used now a b)
    (marks : Marks limit used act a b) : RunTable (limit + used) i b := by
  obtain ⟨named, grown, cancelled⟩ := change.advances
  refine ⟨named.trans table.named, Nat.lt_of_lt_of_le table.below (Nat.le_add_right _ _), ?_, ?_, ?_⟩
  · rcases marks.ids with same | ⟨added, _⟩
    · rw [same]
      exact table.nodup
    · rw [added]
      refine List.nodup_append.2 ⟨table.nodup, List.nodup_singleton _, ?_⟩
      intro x mem y last same
      obtain ⟨r, there, number⟩ := List.mem_map.1 mem
      have free := table.limited r there
      rw [List.mem_singleton.1 last] at same
      omega
  · intro r mem
    have listed : r.1.id ∈ b.runs.map (·.1.id) := List.mem_map.2 ⟨r, mem, rfl⟩
    have old (there : r.1.id ∈ a.runs.map (·.1.id)) : r.1.id < limit + used := by
      obtain ⟨old, mem, number⟩ := List.mem_map.1 there
      have limited := table.limited old mem
      omega
    rcases marks.ids with same | ⟨added, room⟩
    · exact old (same ▸ listed)
    · rw [added] at listed
      rcases List.mem_append.1 listed with there | last
      · exact old there
      · rw [List.mem_singleton.1 last]
        omega
  · intro r mem alive
    rcases marks.mem mem with ⟨old, there, same, before⟩ | ⟨_, new⟩
    · obtain ⟨le, lt⟩ := table.current old there (before alive)
      rw [same.inputStateVersion]
      refine ⟨by omega, ?_⟩
      intro ended
      rcases cancelled ended with already | more
      · have := lt already
        omega
      · omega
    · obtain ⟨open_, version⟩ := new alive
      rw [version]
      refine ⟨grown, ?_⟩
      intro ended
      rcases cancelled ended with already | more
      · exact absurd already open_
      · exact more

theorem Opened.table {request : Request} {q : Inquiry} {event : EventCode}
    (opened : Opened request q event b) (named : q.id = i) (below : i < limit) :
    RunTable limit i b := by
  obtain ⟨stored, row, same, _, rfl⟩ := opened
  subst same
  refine ⟨named, below, List.nodup_nil, ?_, ?_⟩
  · exact fun _ mem => absurd mem List.not_mem_nil
  · exact fun _ mem => absurd mem List.not_mem_nil

theorem Opens.table (opens : Opens w act b) : RunTable (w.nextId + 1) w.nextId b := by
  cases opens with
  | start _ opened => exact opened.table rfl (Nat.lt_succ_self _)
  | register _ _ _ opened => exact opened.table rfl (Nat.lt_succ_self _)

theorem Opens.runs (opens : Opens w act b) : b.runs = [] := by
  cases opens with
  | start _ opened | register _ _ _ opened =>
    have ⟨_, _, _, _, same⟩ := opened
    rw [same]
    rfl

theorem RunTable.mono (table : RunTable limit i a) (le : limit ≤ more) : RunTable more i a where
  named := table.named
  below := Nat.lt_of_lt_of_le table.below le
  nodup := table.nodup
  limited r mem := Nat.lt_of_lt_of_le (table.limited r mem) le
  current := table.current

theorem reachable_runs (initial : Initial start) (run : Run (Allowed settings ok) start labels w)
    (found : w.aggregate i = some a) : RunTable w.nextId i a := by
  refine aggregate_invariant (P := RunTable) initial ?_ ?_ ?_ run i a found
  · intro _ _ _ _ le table
    exact table.mono le
  · intro _ _ _ _ opens
    exact opens.table
  · intro w before act i used a b earlier _ table writes
    exact table.marked (writes.change (reachable_coupled initial earlier writes.found).desk)
      writes.marks

/-! ### One run of an analysis -/

/-- The row of a run of an inquiry. -/
def runAt (w : World) (inquiry run : Nat) : Option AIRun :=
  (w.aggregate inquiry).bind fun a => (runById a run).map (·.1)

theorem runAt_eq_some {r : AIRun} {run : Nat} : runAt w i run = some r ↔
    ∃ a row, w.aggregate i = some a ∧ runById a run = some row ∧ row.1 = r := by
  unfold runAt
  constructor
  · intro h
    obtain ⟨a, found, h⟩ := Option.bind_eq_some_iff.1 h
    obtain ⟨row, there, same⟩ := Option.map_eq_some_iff.1 h
    exact ⟨a, row, found, there, same⟩
  · rintro ⟨a, row, found, there, rfl⟩
    rw [found]
    exact congrArg (Option.map (·.1)) there

/-- What an operation outside the analyses makes of a run. -/
theorem operation_run {e : Event} {r : AIRun} {run : Nat} (initial : Initial start)
    (reached : Run (Step settings) start labels w) (other : e.action.ofAnalysis = false)
    (step : Step settings w e t) (found : runAt w i run = some r) :
    ∃ r', runAt t i run = some r' ∧ Cancelled r r' := by
  obtain ⟨a, row, there, mem, rfl⟩ := runAt_eq_some.1 found
  have untouched (same : t.aggregate i = w.aggregate i) :
      ∃ r', runAt t i run = some r' ∧ Cancelled row.1 r' :=
    ⟨row.1, runAt_eq_some.2 ⟨a, row, same.trans there, mem, rfl⟩, .inl rfl⟩
  cases step_effect step with
  | untouched same _ =>
      refine untouched ?_
      rw [World.aggregate, same]
      rfl
  | opened b opens inserted _ =>
      refine untouched ?_
      have old : i ≠ w.nextId :=
        Nat.ne_of_lt (reachable_runs initial (Run.allowed reached) there).below
      rw [World.aggregate, inserted, AList.lookup_insert_ne old]
      rfl
  | wrote j a' b used writes inserted _ =>
      by_cases own : i = j
      · subst own
        have same : a' = a := Option.some.inj (writes.found.symm.trans there)
        subst same
        have now_there : t.aggregate i = some b := by
          rw [World.aggregate, inserted, AList.lookup_insert]
        cases writes.marks with
        | operation runs =>
            have keep : ∀ r r' : Stored AIRun, Cancelled r.1 r'.1 →
                decide (r'.1.id = run) = decide (r.1.id = run) := by
              intro r r' cancelled
              rw [cancelled.same.id]
            obtain ⟨row', found', cancelled⟩ := forall₂_find keep runs mem
            exact ⟨row'.1, runAt_eq_some.2 ⟨b, row', now_there, found', rfl⟩, cancelled⟩
        | kept analysis _ => rw [analysis] at other; cases other
        | queued analysis _ _ _ _ => rw [analysis] at other; cases other
        | marked analysis _ _ _ _ => rw [analysis] at other; cases other
      · refine untouched ?_
        rw [World.aggregate, inserted, AList.lookup_insert_ne own]
        rfl

end
end WaterCare.Runtime
