import WaterCare.Runtime.Trace
import WaterCare.Runtime.Turns

/-!
Calls of `analyze_inquiry` side by side with every other operation. A run belongs to one
call, the call ends with the only event it applies, and the request to the AI goes out
while nobody else can hold a run of its `ai_request_id`.
-/

namespace WaterCare.Runtime
open Machine Workflow Store Service Py Analysis
open InquiryAIService (runById isActive isUsable isMapped Call Phase Outside AIError)

/-! ### The rows of the runs -/

/-- What any step makes of the row of a run. -/
structure Stays (r r' : AIRun) : Prop where
  same : SameRun r r'
  cancelled : r.status = .cancelled → r' = r
  final : isFinal r.status = true → isFinal r'.status = true

theorem Stays.refl (r : AIRun) : Stays r r := ⟨.refl r, fun _ => rfl, id⟩

theorem Stays.trans {r r' r'' : AIRun} (first : Stays r r') (second : Stays r' r'') :
    Stays r r'' where
  same := first.same.trans second.same
  cancelled ended := by
    have same := first.cancelled ended
    rw [second.cancelled (same ▸ ended), same]
  final h := second.final (first.final h)

theorem Cancelled.stays {r r' : AIRun} (cancels : Cancelled r r') : Stays r r' := by
  rcases cancels with rfl | ⟨open_, same, _⟩
  · exact .refl _
  · refine ⟨same, ?_, ?_⟩
    · intro ended
      rw [ended] at open_
      cases open_
    · intro final
      rw [(isFinal_not_open final).1] at open_
      cases open_

section
variable {o : Outside} {w t : World} {call : Call} {phase : Phase} {r : AIRun} {i id : Nat}

/-- A step of a call leaves the rows of the other runs as they are. -/
theorem Turn.keeps (turn : Turn o w call t phase) (found : runAt w i id = some r) :
    ∃ r', runAt t i id = some r' ∧ Stays r r' ∧
      ((∀ run, call.phase.run = some run → run.id ≠ id) → r' = r) := by
  obtain ⟨x, stored, there, mem, rfl⟩ := runAt_eq_some.1 found
  have apart {b : Aggregate} {n : Nat} (other : i ≠ call.inquiry) :
      runAt { w.put call.inquiry b with nextId := n } i id = some stored.1 :=
    runAt_eq_some.2 ⟨x, stored, (World.aggregate_put_ne w b other).trans there, mem, rfl⟩
  have written {b : Aggregate} {n : Nat} {new : Stored AIRun} (own : i = call.inquiry)
      (h : runById b id = some new) :
      runAt { w.put call.inquiry b with nextId := n } i id = some new.1 := by
    subst own
    exact runAt_eq_some.2 ⟨b, new, World.aggregate_put w call.inquiry b, h, rfl⟩
  cases turn with
  | still _ => exact ⟨stored.1, found, .refl _, fun _ => rfl⟩
  | @queued a b _ _ at_home _ made _ _ =>
      refine ⟨stored.1, ?_, .refl _, fun _ => rfl⟩
      by_cases own : i = call.inquiry
      · refine written own ?_
        subst own
        cases there.symm.trans at_home
        obtain ⟨new, rfl, _⟩ := createRun_ok made
        unfold InquiryAIService.runById at mem ⊢
        rw [List.find?_append, mem]
        rfl
      · exact apart own
  | @marked a b run old new _ _ holds at_home listed _ _ alive same final put _ _ =>
      by_cases own : i = call.inquiry
      · subst own
        cases there.symm.trans at_home
        subst put
        by_cases its : run.id = id
        · subst its
          cases mem.symm.trans listed
          refine ⟨new.1, written rfl (runById_replaceRow mem same), ⟨same, ?_, final⟩, ?_⟩
          · exact fun ended => absurd ended alive
          · exact fun others => absurd rfl (others run holds)
        · refine ⟨stored.1, written rfl ?_, .refl _, fun _ => rfl⟩
          have number : new.1.id ≠ id := by
            rw [same.id, (runById_mem listed).2]
            exact its
          exact (runById_replaceRow_ne number).trans mem
      · exact ⟨stored.1, apart own, .refl _, fun _ => rfl⟩
  | wrote _ at_home _ _ _ runs _ =>
      refine ⟨stored.1, ?_, .refl _, fun _ => rfl⟩
      by_cases own : i = call.inquiry
      · refine written own ?_
        subst own
        cases there.symm.trans at_home
        unfold InquiryAIService.runById at mem ⊢
        rw [runs]
        exact mem
      · exact apart own

theorem Turn.nextId (turn : Turn o w call t phase) : w.nextId ≤ t.nextId := by
  cases turn with
  | still _ => exact Nat.le_refl _
  | queued _ _ _ _ _ _ => exact Nat.le_succ _
  | marked _ _ _ _ _ _ _ _ _ _ _ => exact Nat.le_refl _
  | wrote _ _ _ _ _ _ _ => exact Nat.le_add_right _ _

/-- A step of a call is a step of the system, or changes nothing in the database. -/
theorem Turn.step (settings : Settings) (turn : Turn o w call t phase) :
    t = w ∨ ∃ e, Service.Step settings w e t := by
  have performed {step : InternalStep} (h : step.perform o.now w = .ok t) :
      ∃ e, Service.Step settings w e t := by
    refine ⟨⟨.internal o.now step, .ok none⟩, trivial, ?_⟩
    unfold Action.perform
    dsimp only
    rw [h]
    exact ⟨rfl, rfl⟩
  cases turn with
  | still _ => exact .inl rfl
  | queued _ _ _ _ done _ => exact .inr (performed done)
  | marked _ found there done silent _ _ _ _ _ _ =>
      have h := onRun_perform found there done
      rw [silent] at h
      exact .inr (performed h)
  | wrote _ found there done _ _ _ => exact .inr (performed (onRun_perform found there done))

/-- A call that holds a run after a step holds its row, and has had it or has just made it. -/
theorem Turn.held {run : AIRun} (turn : Turn o w call t phase)
    (helds : ∀ run, call.phase.run = some run → ∃ row, Held w call run row)
    (holds : phase.run = some run) :
    (∃ row, Held t { call with phase := phase } run row) ∧
      ((∃ old, call.phase.run = some old ∧ SameRun old run) ∨
        call.phase = .unknown ∧ run.id = w.nextId ∧ ∀ i id r, runAt w i id = some r →
          r.idempotencyKey ≠ run.idempotencyKey) := by
  cases turn with
  | still next =>
      rcases next with ended | ⟨same, agrees⟩
      · rw [ended] at holds
        cases holds
      · rw [same] at holds
        obtain ⟨row, held⟩ := helds run holds
        exact ⟨⟨row, same.trans held.holds, held.found, held.same, held.key,
          agrees row held.agrees⟩, .inl ⟨run, holds, .refl _⟩⟩
  | @queued a b _ unknown found free made _ next =>
      rcases next with rfl | ⟨row, there, is, rfl⟩
      · cases holds
      · cases holds
        have number : row.1.id = w.nextId := (runById_mem there).2
        have key : row.1.idempotencyKey = call.analysis.aiRequestId := by
          rw [is]
          rfl
        have status : row.1.status = .queued := by
          rw [is]
          rfl
        refine ⟨⟨row.1, rfl, ?_, .refl _, key, .inl status⟩, .inr ⟨unknown, number, ?_⟩⟩
        · exact runAt_eq_some.2 ⟨b, row, World.aggregate_put w call.inquiry b,
            by rw [number]; exact there, rfl⟩
        · rw [key]
          exact free
  | @marked a b old row row' _ _ has found there _ _ _ same _ put next agrees =>
      rcases next with ended | now_holds
      · rw [ended] at holds
        cases holds
      · rw [now_holds] at holds
        cases holds
        obtain ⟨r, held⟩ := helds old has
        have its : r = row.1 := by
          have h := held.found.symm.trans (runAt_eq_some.2 ⟨a, row, found, there, rfl⟩)
          exact Option.some.inj h
        subst its
        have sames : SameRun old row'.1 := held.same.symm.trans same
        refine ⟨⟨row'.1, now_holds, ?_, .refl _, ?_, agrees⟩, .inl ⟨old, has, sames⟩⟩
        · refine runAt_eq_some.2 ⟨b, row', World.aggregate_put w call.inquiry b, ?_, rfl⟩
          subst put
          rw [sames.id]
          exact runById_replaceRow there same
        · rw [sames.idempotencyKey]
          exact held.key
  | wrote _ _ _ _ _ _ _ => cases holds

/-- A step of a call changes of an inquiry nothing but its runs, or it is the last one, for a
run in a final status, and the inquiry is at the version of the run. -/
theorem Turn.writes {a b : Aggregate} (turn : Turn o w call t phase)
    (found : w.aggregate i = some a) (after : t.aggregate i = some b) :
    b = { a with runs := b.runs } ∨ phase = .ended ∧ i = call.inquiry ∧
      ∃ run row, call.phase.run = some run ∧ runAt w i run.id = some row ∧
        isFinal row.status = true ∧ a.q.stateVersion = row.inputStateVersion := by
  have left {x y : Aggregate} {n : Nat} (there : w.aggregate call.inquiry = some x)
      (h : ({ w.put call.inquiry y with nextId := n } : World).aggregate i = some b) :
      b = a ∨ i = call.inquiry ∧ x = a ∧ y = b := by
    by_cases own : i = call.inquiry
    · subst own
      cases found.symm.trans there
      refine .inr ⟨rfl, rfl, ?_⟩
      exact Option.some.inj ((World.aggregate_put w call.inquiry y).symm.trans h)
    · have h := (World.aggregate_put_ne w y own).symm.trans h
      exact .inl (Option.some.inj (h.symm.trans found))
  have same (h : b = a) : b = { a with runs := b.runs } := by rw [h]
  cases turn with
  | still _ => exact .inl (same (Option.some.inj (after.symm.trans found)))
  | queued _ there _ made _ _ =>
      rcases left there after with untouched | ⟨_, rfl, rfl⟩
      · exact .inl (same untouched)
      · obtain ⟨row, rfl, _⟩ := createRun_ok made
        exact .inl rfl
  | marked _ there _ _ _ _ _ _ put _ _ =>
      rcases left there after with untouched | ⟨_, rfl, rfl⟩
      · exact .inl (same untouched)
      · subst put
        exact .inl rfl
  | wrote holds there mem _ final _ current =>
      rcases left there after with untouched | ⟨rfl, rfl, rfl⟩
      · exact .inl (same untouched)
      · rcases current with still | version
        · exact .inl (same still)
        · exact .inr ⟨rfl, rfl, _, _, holds, runAt_eq_some.2 ⟨_, _, there, mem, rfl⟩, final,
            version⟩

end

/-! ### All calls -/

/-- A call whose request to the AI is still to come. -/
def isUnsent : Phase → Bool
  | .created _ | .running _ => true
  | .requested | .unknown | .answered .. | .failed _ | .succeeded .. | .unsaved .. | .refused _
  | .ended => false

/-- Every call holds the row of a run of its own, and no request goes out twice. -/
structure Sound (settings : Settings) (start : World) (s : Analyses) : Prop where
  reached : ∃ labels, Run (Service.Step settings) start labels s.world
  held : ∀ (k : Nat) (call : Call) (run : AIRun), s.calls[k]? = some call →
    call.phase.run = some run → ∃ row, Held s.world call run row
  distinct : ∀ (k l : Nat) (call other : Call) (run run' : AIRun), s.calls[k]? = some call →
    s.calls[l]? = some other → call.phase.run = some run → other.phase.run = some run' →
    run.id = run'.id ∨ run.idempotencyKey = run'.idempotencyKey → k = l
  nodup : s.sent.Nodup
  known : ∀ key ∈ s.sent, ∃ i id r, runAt s.world i id = some r ∧ r.idempotencyKey = key
  unsent : ∀ (k : Nat) (call : Call), s.calls[k]? = some call → isUnsent call.phase = true →
    call.analysis.aiRequestId ∉ s.sent

section
variable {settings : Settings} {start : World} {s t : Analyses} {k l : Nat} {call c : Call}
  {phase : Phase} {labels : List Event}

theorem setPhase_get (h : (s.setPhase k phase)[l]? = some c) :
    ∃ old, s.calls[l]? = some old ∧
      (l = k ∧ c = { old with phase := phase } ∨ l ≠ k ∧ c = old) := by
  unfold Analyses.setPhase at h
  rw [List.getElem?_modify] at h
  obtain ⟨old, there, same⟩ := Option.map_eq_some_iff.1 h
  refine ⟨old, there, ?_⟩
  by_cases own : k = l
  · rw [if_pos own] at same
    exact .inl ⟨own.symm, same.symm⟩
  · rw [if_neg own] at same
    exact .inr ⟨fun h => own h.symm, same.symm⟩

theorem concat_get {calls : List Call} (h : (calls ++ [call])[l]? = some c) :
    calls[l]? = some c ∨ c = call := by
  rw [List.getElem?_append] at h
  split_ifs at h
  · exact .inl h
  · exact .inr (List.mem_singleton.1 (List.mem_of_getElem? h))

theorem Sound.tables (initial : Service.Initial start) (sound : Sound settings start s) (i : Nat)
    (a : Aggregate) (there : s.world.aggregate i = some a) : RunTable s.world.nextId i a := by
  obtain ⟨labels, run⟩ := sound.reached
  exact reachable_runs initial (Run.allowed run) there

theorem Sound.operation {e : Event} (initial : Service.Initial start)
    (sound : Sound settings start s) (other : e.action.ofAnalysis = false)
    (step : Service.Step settings s.world e t.world) (same : t = { s with world := t.world }) :
    Sound settings start t := by
  obtain ⟨labels, run⟩ := sound.reached
  have kept {i id : Nat} {r : AIRun} (found : runAt s.world i id = some r) :=
    operation_run initial run other step found
  rw [same]
  refine ⟨⟨_, run.snoc step⟩, ?_, sound.distinct, sound.nodup, ?_, sound.unsent⟩
  · intro k call run there holds
    obtain ⟨row, held⟩ := sound.held k call run there holds
    obtain ⟨row', found, cancels⟩ := kept held.found
    exact ⟨row', held.cancelled found cancels⟩
  · intro key mem
    obtain ⟨i, id, r, found, is⟩ := sound.known key mem
    obtain ⟨r', found', cancels⟩ := kept found
    exact ⟨i, id, r', found', cancels.same.idempotencyKey.trans is⟩

theorem Sound.called {inquiry : Nat} {analysis : InquiryAIService.AnalysisRequest}
    (sound : Sound settings start s) :
    Sound settings start { s with calls := s.calls ++ [⟨inquiry, analysis, .requested⟩] } := by
  have old {l : Nat} {c : Call} {run : AIRun}
      (there : (s.calls ++ [(⟨inquiry, analysis, .requested⟩ : Call)])[l]? = some c)
      (holds : c.phase.run = some run) : s.calls[l]? = some c := by
    rcases concat_get there with before | rfl
    · exact before
    · cases holds
  refine ⟨sound.reached, ?_, ?_, sound.nodup, sound.known, ?_⟩
  · intro k call run there holds
    exact sound.held k call run (old there holds) holds
  · intro k l call other run run' there there' holds holds' same
    exact sound.distinct k l call other run run' (old there holds) (old there' holds') holds holds'
      same
  · intro k call there waits
    rcases concat_get there with before | rfl
    · exact sound.unsent k call before waits
    · cases waits

theorem Sound.stopped (sound : Sound settings start s) (k : Nat) :
    Sound settings start { s with calls := s.setPhase k .ended } := by
  have old {l : Nat} {c : Call} {run : AIRun} (there : (s.setPhase k .ended)[l]? = some c)
      (holds : c.phase.run = some run) : s.calls[l]? = some c := by
    obtain ⟨before, found, ⟨_, rfl⟩ | ⟨_, rfl⟩⟩ := setPhase_get there
    · cases holds
    · exact found
  refine ⟨sound.reached, ?_, ?_, sound.nodup, sound.known, ?_⟩
  · intro l call run there holds
    exact sound.held l call run (old there holds) holds
  · intro l m call other run run' there there' holds holds' same
    exact sound.distinct l m call other run run' (old there holds) (old there' holds') holds holds'
      same
  · intro l call there waits
    obtain ⟨before, found, ⟨_, rfl⟩ | ⟨_, rfl⟩⟩ := setPhase_get there
    · cases waits
    · exact sound.unsent l _ found waits

theorem requests_cases (call : Call) : InquiryAIService.requests call = [] ∨
    InquiryAIService.requests call = [call.analysis.aiRequestId] ∧
      ∃ run, call.phase = .running run := by
  unfold InquiryAIService.requests
  cases call.phase with
  | running run => exact .inr ⟨rfl, run, rfl⟩
  | _ => exact .inl rfl

theorem unsent_run (unsent : isUnsent phase = true) : ∃ run, phase.run = some run := by
  cases phase with
  | created run | running run => exact ⟨run, rfl⟩
  | _ => cases unsent

theorem Sound.turn {outside : Outside} (initial : Service.Initial start)
    (sound : Sound settings start s) (there : s.calls[k]? = some call)
    (turn : Turn outside s.world call t.world phase)
    (calls : t.calls = s.setPhase k phase)
    (sent : t.sent = s.sent ++ InquiryAIService.requests call)
    (waits : isUnsent phase = true → call.phase = .unknown ∨ isUnsent call.phase = true ∧
      InquiryAIService.requests call = []) :
    Sound settings start t := by
  have tables := sound.tables initial
  have helds : ∀ run, call.phase.run = some run → ∃ row, Held s.world call run row :=
    fun run holds => sound.held k call run there holds
  -- a call that holds a run afterwards has held it, or has just made it
  have holding {l : Nat} {c : Call} {run : AIRun} (found : t.calls[l]? = some c)
      (holds : c.phase.run = some run) :
      (∃ row, Held t.world c run row) ∧
        ((∃ old before, s.calls[l]? = some old ∧ old.phase.run = some before ∧
            SameRun before run) ∨
          l = k ∧ run.id = s.world.nextId ∧ ∀ i id r, runAt s.world i id = some r →
            r.idempotencyKey ≠ run.idempotencyKey) := by
    rw [calls] at found
    obtain ⟨old, before, ⟨rfl, rfl⟩ | ⟨other, rfl⟩⟩ := setPhase_get found
    · cases there.symm.trans before
      obtain ⟨row, ⟨has, earlier, same⟩ | ⟨_, number, free⟩⟩ := turn.held helds holds
      · exact ⟨row, .inl ⟨call, has, there, earlier, same⟩⟩
      · exact ⟨row, .inr ⟨rfl, number, free⟩⟩
    · obtain ⟨row, held⟩ := sound.held l c run before holds
      refine ⟨?_, .inl ⟨c, run, before, holds, .refl _⟩⟩
      obtain ⟨row', now_found, _, untouched⟩ := turn.keeps held.found
      have same : row' = row := by
        refine untouched ?_
        intro own has same
        exact other (sound.distinct l k c call run own before there holds has (.inl same.symm))
      subst same
      exact ⟨row', held.holds, now_found, held.same, held.key, held.agrees⟩
  -- a new run differs from all runs that are held
  have fresh {l : Nat} {old : Call} {run run' : AIRun} (found : s.calls[l]? = some old)
      (holds : old.phase.run = some run) (number : run'.id = s.world.nextId)
      (free : ∀ i id r, runAt s.world i id = some r → r.idempotencyKey ≠ run'.idempotencyKey)
      (same : run.id = run'.id ∨ run.idempotencyKey = run'.idempotencyKey) : False := by
    obtain ⟨row, held⟩ := sound.held l old run found holds
    rcases same with same | same
    · obtain ⟨a, stored, at_home, mem, _⟩ := runAt_eq_some.1 held.found
      have small := (tables _ a at_home).limited stored (runById_mem mem).1
      rw [(runById_mem mem).2, same, number] at small
      exact Nat.lt_irrefl _ small
    · exact free _ _ row held.found (held.same.idempotencyKey.symm.trans same)
  refine ⟨?_, ?_, ?_, ?_, ?_, ?_⟩
  · obtain ⟨labels, run⟩ := sound.reached
    rcases turn.step settings with same | ⟨e, step⟩
    · exact ⟨labels, same ▸ run⟩
    · exact ⟨_, run.snoc step⟩
  · intro l c run found holds
    exact (holding found holds).1
  · intro l m c c' run run' found found' holds holds' same
    obtain ⟨_, ⟨old, before, at_l, has, sames⟩ | ⟨rfl, number, free⟩⟩ := holding found holds
    · obtain ⟨_, ⟨old', before', at_m, has', sames'⟩ | ⟨rfl, number, free⟩⟩ :=
        holding found' holds'
      · refine sound.distinct l m old old' before before' at_l at_m has has' ?_
        rw [← sames.id, ← sames'.id, ← sames.idempotencyKey, ← sames'.idempotencyKey]
        exact same
      · refine (fresh at_l has number free ?_).elim
        rw [← sames.id, ← sames.idempotencyKey]
        exact same
    · obtain ⟨_, ⟨old', before', at_m, has', sames'⟩ | ⟨rfl, _, _⟩⟩ := holding found' holds'
      · refine (fresh at_m has' number free ?_).elim
        rw [← sames'.id, ← sames'.idempotencyKey]
        exact same.imp Eq.symm Eq.symm
      · rfl
  · rw [sent]
    rcases requests_cases call with none | ⟨one, run, running⟩
    · rw [none, List.append_nil]
      exact sound.nodup
    · rw [one]
      refine List.nodup_append.2 ⟨sound.nodup, List.nodup_singleton _, ?_⟩
      intro key mem x last same
      rw [List.mem_singleton.1 last] at same
      refine sound.unsent k call there ?_ (same ▸ mem)
      rw [running]
      rfl
  · intro key mem
    have kept {i id : Nat} {r : AIRun} (found : runAt s.world i id = some r)
        (is : r.idempotencyKey = key) :
        ∃ i id r, runAt t.world i id = some r ∧ r.idempotencyKey = key := by
      obtain ⟨r', found', stays, _⟩ := turn.keeps found
      exact ⟨i, id, r', found', stays.same.idempotencyKey.trans is⟩
    rw [sent] at mem
    rcases List.mem_append.1 mem with before | now_sent
    · obtain ⟨i, id, r, found, is⟩ := sound.known key before
      exact kept found is
    · rcases requests_cases call with none | ⟨one, run, running⟩
      · rw [none] at now_sent
        cases now_sent
      · rw [one] at now_sent
        obtain ⟨row, held⟩ := helds run (by rw [running]; rfl)
        refine kept held.found ?_
        rw [List.mem_singleton.1 now_sent, ← held.key]
        exact held.same.idempotencyKey.symm
  · intro l c found unsent
    obtain ⟨run, holds⟩ := unsent_run unsent
    obtain ⟨⟨row, held⟩, origin⟩ := holding found holds
    have at_t := found
    rw [calls] at found
    obtain ⟨old, before, ⟨rfl, rfl⟩ | ⟨other, rfl⟩⟩ := setPhase_get found
    · cases there.symm.trans before
      rcases waits unsent with unknown | ⟨waited, silent⟩
      · have silent : InquiryAIService.requests call = [] := by
          unfold InquiryAIService.requests
          rw [unknown]
        rw [sent, silent, List.append_nil]
        intro mem
        obtain ⟨i, id, r, at_home, is⟩ := sound.known _ mem
        rcases origin with ⟨old, earlier, at_l, has, _⟩ | ⟨_, _, free⟩
        · cases there.symm.trans at_l
          rw [unknown] at has
          cases has
        · exact free i id r at_home (is.trans held.key.symm)
      · rw [sent, silent, List.append_nil]
        exact sound.unsent l call there waited
    · rw [sent]
      intro mem
      rcases List.mem_append.1 mem with already | now_sent
      · exact sound.unsent l c before unsent already
      · rcases requests_cases call with none | ⟨one, own, running⟩
        · rw [none] at now_sent
          cases now_sent
        · rw [one] at now_sent
          have has : call.phase.run = some own := by
            rw [running]
            rfl
          obtain ⟨_, mine⟩ := helds own has
          refine other (sound.distinct l k c call run own before there holds has (.inr ?_))
          rw [held.key, mine.key]
          exact List.mem_singleton.1 now_sent

theorem afterMark_phase (w : World) (next : AIRun → Phase)
    (x : Except Failure (Option (World × AIRun))) :
    (InquiryAIService.afterMark w next x).2 = .ended ∨
      ∃ run, (InquiryAIService.afterMark w next x).2 = next run := by
  unfold InquiryAIService.afterMark
  split
  · exact .inr ⟨_, rfl⟩
  · exact .inl rfl
  · exact .inl rfl

theorem lastEvent_phase (o : Outside) (w : World) (apply : Directory → Aggregate → AIRun → Instant →
    Except Failure (Aggregate × InquiryAIService.EventOutcome)) (run : AIRun) :
    (InquiryAIService.lastEvent o w call apply run).2 = .ended := by
  unfold InquiryAIService.lastEvent
  split
  · rfl
  · split <;> rfl

/-- A request still to come is of a new run, or it has been to come before. -/
theorem advance_unsent {o : Outside} {w : World}
    (unsent : isUnsent (InquiryAIService.advance o w call).2 = true) :
    call.phase = .unknown ∨
      isUnsent call.phase = true ∧ InquiryAIService.requests call = [] := by
  unfold InquiryAIService.requests
  unfold InquiryAIService.advance at unsent
  have marks {next : AIRun → Phase} {x : Except Failure (Option (World × AIRun))}
      (sent : ∀ run, isUnsent (next run) = false)
      (h : isUnsent (InquiryAIService.afterMark w next x).2 = true) : False := by
    rcases afterMark_phase w next x with same | ⟨run, same⟩
    · rw [same] at h
      cases h
    · rw [same, sent] at h
      cases h
  have events {apply : Directory → Aggregate → AIRun → Instant →
        Except Failure (Aggregate × InquiryAIService.EventOutcome)} {run : AIRun}
      (h : isUnsent (InquiryAIService.lastEvent o w call apply run).2 = true) : False := by
    rw [lastEvent_phase] at h
    cases h
  cases at_phase : call.phase with
  | unknown => exact .inl rfl
  | created run => exact .inr ⟨rfl, rfl⟩
  | requested =>
      rw [at_phase] at unsent
      dsimp only at unsent
      split_ifs at unsent <;> cases unsent
  | running run =>
      rw [at_phase] at unsent
      dsimp only at unsent
      cases reply : o.answer with
      | none => rw [reply] at unsent; cases unsent
      | some answer => rw [reply] at unsent; cases unsent
  | answered run answer =>
      rw [at_phase] at unsent
      cases answer with
      | error error => exact (marks (fun _ => rfl) unsent).elim
      | ok result => exact (marks (fun _ => rfl) unsent).elim
  | failed run =>
      rw [at_phase] at unsent
      dsimp only at unsent
      split_ifs at unsent
      · exact (events unsent).elim
      · exact (events unsent).elim
  | succeeded run result =>
      rw [at_phase] at unsent
      change isUnsent (InquiryAIService.persist o w call run result).2 = true at unsent
      unfold InquiryAIService.persist at unsent
      dsimp only at unsent
      split at unsent
      · cases unsent
      · split at unsent
        · cases unsent
        · split_ifs at unsent
          · cases unsent
          · split at unsent <;> cases unsent
  | unsaved run refused =>
      rw [at_phase] at unsent
      refine (marks ?_ unsent).elim
      intro run
      cases refused <;> rfl
  | refused run =>
      rw [at_phase] at unsent
      exact (events unsent).elim
  | ended =>
      rw [at_phase] at unsent
      cases unsent

theorem turn_of_step {outside : Outside} (initial : Service.Initial start)
    (sound : Sound settings start s) (step : Analyses.Step settings s (.turn k outside) t) :
    ∃ call phase, s.calls[k]? = some call ∧ Turn outside s.world call t.world phase ∧
      t.calls = s.setPhase k phase ∧ t.sent = s.sent ++ InquiryAIService.requests call ∧
      (isUnsent phase = true → call.phase = .unknown ∨ isUnsent call.phase = true ∧
        InquiryAIService.requests call = []) := by
  obtain ⟨call, there, rfl⟩ := step
  refine ⟨call, _, there, ?_, rfl, rfl, advance_unsent⟩
  exact Runtime.turn (sound.tables initial) fun run holds => sound.held k call run there holds

theorem Sound.step {occurrence : Occurrence} (initial : Service.Initial start)
    (sound : Sound settings start s) (step : Analyses.Step settings s occurrence t) :
    Sound settings start t := by
  cases occurrence with
  | operation event =>
      obtain ⟨other, performed, same⟩ := step
      exact sound.operation initial other performed same
  | called inquiry analysis =>
      obtain ⟨_, rfl⟩ := step
      exact sound.called
  | turn k outside =>
      obtain ⟨call, phase, there, turn, calls, sent, waits⟩ := turn_of_step initial sound step
      exact sound.turn initial there turn calls sent waits
  | stopped k =>
      have same : t = { s with calls := s.setPhase k .ended } := step
      rw [same]
      exact sound.stopped k

theorem sound_of_run {start s : Analyses} {labels : List Occurrence}
    (initial : Analyses.Initial start) (run : Run (Analyses.Step settings) start labels s) :
    Sound settings start.world s := by
  refine run.invariant (P := Sound settings start.world) ?_ ?_
  · intro s _ t sound step
    exact sound.step initial.1 step
  · obtain ⟨_, calls, sent⟩ := initial
    refine ⟨⟨[], .refl⟩, ?_, ?_, ?_, ?_, ?_⟩
    · intro k call run there
      rw [calls] at there
      cases there
    · intro k l call other run run' there
      rw [calls] at there
      cases there
    · rw [sent]
      exact List.nodup_nil
    · intro key mem
      rw [sent] at mem
      cases mem
    · intro k call there
      rw [calls] at there
      cases there

end

/-! ### Every run -/

/-- The step is one of a call that works on the run of an inquiry. -/
def Acts (s : Analyses) (occurrence : Occurrence) (inquiry run : Nat) : Prop :=
  ∃ k outside call held, occurrence = .turn k outside ∧ s.calls[k]? = some call ∧
    call.inquiry = inquiry ∧ call.phase.run = some held ∧ held.id = run

/-- The step changes the status of an inquiry. -/
def Moves (s t : Analyses) (inquiry : Nat) : Prop :=
  ∃ a b, s.world.aggregate inquiry = some a ∧ t.world.aggregate inquiry = some b ∧
    b.q.status ≠ a.q.status

/-- The step changes nothing of an inquiry but its runs. -/
def Leaves (s t : Analyses) (inquiry : Nat) : Prop :=
  ∀ a b, s.world.aggregate inquiry = some a → t.world.aggregate inquiry = some b →
    b = { a with runs := b.runs }

section
variable {settings : Settings} {start : World} {s t u v : Analyses} {k inquiry id : Nat}
  {r : AIRun} {labels : List Occurrence} {occurrence : Occurrence}

/-- What a step makes of the row of a run. -/
theorem step_row (initial : Service.Initial start) (sound : Sound settings start s)
    (step : Analyses.Step settings s occurrence t) (found : runAt s.world inquiry id = some r) :
    ∃ r', runAt t.world inquiry id = some r' ∧ Stays r r' := by
  cases occurrence with
  | operation event =>
      obtain ⟨other, performed, _⟩ := step
      obtain ⟨_, run⟩ := sound.reached
      obtain ⟨r', found', cancels⟩ := operation_run initial run other performed found
      exact ⟨r', found', cancels.stays⟩
  | called _ _ =>
      obtain ⟨_, rfl⟩ := step
      exact ⟨r, found, .refl _⟩
  | turn k outside =>
      obtain ⟨call, phase, _, turn, _⟩ := turn_of_step initial sound step
      obtain ⟨r', found', stays, _⟩ := turn.keeps found
      exact ⟨r', found', stays⟩
  | stopped k =>
      cases (step : t = { s with calls := s.setPhase k .ended })
      exact ⟨r, found, .refl _⟩

/-- No call holds the run, and its identifier is taken. -/
def Spent (s : Analyses) (id : Nat) : Prop :=
  id < s.world.nextId ∧ ∀ (k : Nat) (call : Call) (run : AIRun), s.calls[k]? = some call →
    call.phase.run = some run → run.id ≠ id

theorem Spent.step (initial : Service.Initial start) (sound : Sound settings start s)
    (step : Analyses.Step settings s occurrence t) (spent : Spent s id) : Spent t id := by
  obtain ⟨below, free⟩ := spent
  cases occurrence with
  | operation event =>
      obtain ⟨_, performed, same⟩ := step
      have calls : t.calls = s.calls := by rw [same]
      refine ⟨?_, calls ▸ free⟩
      cases step_effect performed with
      | untouched _ next => exact next ▸ below
      | opened _ _ _ next =>
          rw [next]
          omega
      | wrote _ _ _ _ _ _ next =>
          rw [next]
          omega
  | called _ _ =>
      obtain ⟨_, rfl⟩ := step
      refine ⟨below, ?_⟩
      intro k call run found holds
      rcases concat_get found with before | rfl
      · exact free k call run before holds
      · cases holds
  | turn k outside =>
      obtain ⟨call, phase, there, turn, calls, _, _⟩ := turn_of_step initial sound step
      refine ⟨Nat.lt_of_lt_of_le below turn.nextId, ?_⟩
      intro l c run found holds
      rw [calls] at found
      obtain ⟨old, before, ⟨rfl, rfl⟩ | ⟨_, rfl⟩⟩ := setPhase_get found
      · cases there.symm.trans before
        obtain ⟨_, ⟨had, has, same⟩ | ⟨_, number, _⟩⟩ :=
          turn.held (fun run holds => sound.held l call run there holds) holds
        · rw [same.id]
          exact free l call had there has
        · rw [number]
          exact (Nat.ne_of_lt below).symm
      · exact free l c run before holds
  | stopped k =>
      cases (step : t = { s with calls := s.setPhase k .ended })
      refine ⟨below, ?_⟩
      intro l c run found holds
      obtain ⟨old, before, ⟨_, rfl⟩ | ⟨_, rfl⟩⟩ := setPhase_get found
      · cases holds
      · exact free l c run before holds

/-- What a run of steps keeps, of a row and of an identifier. -/
theorem later_sound (initial : Service.Initial start) (sound : Sound settings start s)
    (later : Run (Analyses.Step settings) s labels t) :
    Sound settings start t ∧ (∀ inquiry id r, runAt s.world inquiry id = some r →
      ∃ r', runAt t.world inquiry id = some r' ∧ Stays r r') ∧
      ∀ id, Spent s id → Spent t id := by
  induction later with
  | refl => exact ⟨sound, fun _ _ r found => ⟨r, found, .refl _⟩, fun _ spent => spent⟩
  | snoc _ last ih =>
      obtain ⟨before, rows, spends⟩ := ih
      refine ⟨before.step initial last, ?_, ?_⟩
      · intro inquiry id r found
        obtain ⟨r', found', stays⟩ := rows inquiry id r found
        obtain ⟨r'', found'', stays'⟩ := step_row initial before last found'
        exact ⟨r'', found'', stays.trans stays'⟩
      · intro id spent
        exact (spends id spent).step initial before last

/-- A step of a run that changes more than runs is the last of its call. -/
theorem acts_writes (initial : Service.Initial start) (sound : Sound settings start s)
    (step : Analyses.Step settings s occurrence t) (acts : Acts s occurrence inquiry id) (i : Nat) :
    Leaves s t i ∨ i = inquiry ∧ Spent t id ∧ ∃ a row, s.world.aggregate i = some a ∧
      runAt s.world i id = some row ∧ isFinal row.status = true ∧
      row.inputStateVersion = a.q.stateVersion := by
  obtain ⟨k, outside, call, held, rfl, there, rfl, holds, rfl⟩ := acts
  obtain ⟨call', phase, there', turn, calls, _, _⟩ := turn_of_step initial sound step
  cases there.symm.trans there'
  by_contra neither
  obtain ⟨changed, other⟩ := not_or.1 neither
  refine changed ?_
  intro a b found after
  rcases turn.writes found after with same | ⟨rfl, rfl, run, row, has, at_home, final, version⟩
  · exact same
  cases holds.symm.trans has
  refine (other ⟨rfl, ⟨?_, ?_⟩, a, row, found, at_home, final, version.symm⟩).elim
  · obtain ⟨x, stored, home, mem, _⟩ := runAt_eq_some.1 at_home
    have small := (sound.tables initial _ x home).limited stored (runById_mem mem).1
    rw [(runById_mem mem).2] at small
    exact Nat.lt_of_lt_of_le small turn.nextId
  · intro l c run found holds' same
    rw [calls] at found
    obtain ⟨old, before, ⟨_, rfl⟩ | ⟨apart, rfl⟩⟩ := setPhase_get found
    · cases holds'
    · exact apart (sound.distinct l k c call run held before there holds' has (.inl same))

/-- A cancelled run is not marked again, and its own steps find nothing to do. -/
theorem cancelled_acts (initial : Service.Initial start) (sound : Sound settings start s)
    (step : Analyses.Step settings s occurrence t) (acts : Acts s occurrence inquiry id)
    (found : runAt s.world inquiry id = some r) (cancelled : r.status = .cancelled) :
    t.world = s.world := by
  obtain ⟨k, outside, call, held, rfl, there, rfl, holds, rfl⟩ := acts
  obtain ⟨call', phase, there', turn, _⟩ := turn_of_step initial sound step
  cases there.symm.trans there'
  obtain ⟨a, stored, home, mem, rfl⟩ := runAt_eq_some.1 found
  generalize same : t.world = w at turn ⊢
  cases turn with
  | still _ => rfl
  | queued unknown _ _ _ _ _ =>
      rw [unknown] at holds
      cases holds
  | marked has home' mem' _ _ alive _ _ _ _ _ =>
      cases holds.symm.trans has
      cases home.symm.trans home'
      cases mem.symm.trans mem'
      exact absurd cancelled alive
  | wrote has home' mem' _ final _ _ =>
      cases holds.symm.trans has
      cases home.symm.trans home'
      cases mem.symm.trans mem'
      exact absurd cancelled (isFinal_not_open final).2

theorem cancelled_left {outside : Outside} (initial : Service.Initial start)
    (sound : Sound settings start s) (step : Analyses.Step settings s (.turn k outside) t)
    {i : Nat} {a : Aggregate} (found : s.world.aggregate i = some a)
    (cancelled : a.q.status = .cancelled) : Leaves s t i := by
  intro a' b found' after
  cases found.symm.trans found'
  obtain ⟨call, phase, there, turn, _⟩ := turn_of_step initial sound step
  rcases turn.writes found after with same | ⟨_, _, run, row, _, at_home, final, version⟩
  · exact same
  -- the inquiry has passed the version of every run that is not cancelled
  · obtain ⟨x, stored, home, mem, rfl⟩ := runAt_eq_some.1 at_home
    cases found.symm.trans home
    have current := (sound.tables initial i a found).current stored (runById_mem mem).1
      (isFinal_not_open final).2
    have passed := current.2 cancelled
    omega

end

/-- In every run: a step of an AI run changes the status of no inquiry but its own, at the
version of the run, and no later step of the run changes one; a cancelled run stays so, it
does nothing, and it has never changed more than runs; a cancelled inquiry is left alone;
no request goes out to the AI twice. -/
theorem run_analyses {settings : Settings} {start s t u v : Analyses}
    {before between : List Occurrence} {first second : Occurrence}
    (initial : Analyses.Initial start) (earlier : Run (Analyses.Step settings) start before s)
    (step : Analyses.Step settings s first t) (later : Run (Analyses.Step settings) t between u)
    (next : Analyses.Step settings u second v) :
    (∀ inquiry id, Acts s first inquiry id → ∀ i, Moves s t i →
      (i = inquiry ∧ ∃ a r, s.world.aggregate i = some a ∧ runAt s.world i id = some r ∧
        r.inputStateVersion = a.q.stateVersion) ∧
      (Acts u second inquiry id → ∀ j, ¬ Moves u v j)) ∧
    (∀ inquiry id r, runAt u.world inquiry id = some r → r.status = .cancelled →
      (∃ r', runAt v.world inquiry id = some r' ∧ r'.status = .cancelled) ∧
      (Acts u second inquiry id → v.world = u.world) ∧
      (Acts s first inquiry id → ∀ i, Leaves s t i)) ∧
    (∀ k outside, first = .turn k outside → ∀ i a, s.world.aggregate i = some a →
      a.q.status = .cancelled → Leaves s t i) ∧
    t.sent.Nodup := by
  have sound := sound_of_run initial earlier
  have afterwards := sound.step initial.1 step
  obtain ⟨sound', rows, spends⟩ := later_sound initial.1 afterwards later
  refine ⟨?_, ?_, ?_, afterwards.nodup⟩
  · intro inquiry id acts i moves
    obtain ⟨a, b, found, after, moved⟩ := moves
    rcases acts_writes initial.1 sound step acts i with leaves | ⟨same, spent, x, row, h⟩
    · refine absurd ?_ moved
      rw [leaves a b found after]
    · refine ⟨⟨same, x, row, h.1, h.2.1, h.2.2.2⟩, ?_⟩
      intro again
      obtain ⟨k, _, call, held, _, there, _, holds, is⟩ := again
      exact absurd is ((spends id spent).2 k call held there holds)
  · intro inquiry id r found cancelled
    refine ⟨?_, ?_, ?_⟩
    · obtain ⟨r', found', stays⟩ := step_row initial.1 sound' next found
      exact ⟨r', found', by rw [stays.cancelled cancelled]; exact cancelled⟩
    · intro acts
      exact cancelled_acts initial.1 sound' next acts found cancelled
    · intro acts i
      rcases acts_writes initial.1 sound step acts i with leaves | ⟨rfl, _, x, row, _, home, final, _⟩
      · exact leaves
      · obtain ⟨r₁, found₁, stays₁⟩ := step_row initial.1 sound step home
        obtain ⟨r₂, found₂, stays₂⟩ := rows _ _ _ found₁
        cases found.symm.trans found₂
        exact absurd cancelled (isFinal_not_open ((stays₁.trans stays₂).final final)).2
  · intro k outside is i a found cancelled
    subst is
    exact cancelled_left initial.1 sound step found cancelled

/-! ### A computed run -/

/-- The state after the turn of a call. -/
def turned (s : Analyses) (k : Nat) (outside : Outside) : Analyses :=
  match s.calls[k]? with
  | none => s
  | some call =>
      { world := (InquiryAIService.advance outside s.world call).1
        calls := s.setPhase k (InquiryAIService.advance outside s.world call).2
        sent := s.sent ++ InquiryAIService.requests call }

theorem turned_step {settings : Settings} {s : Analyses} {k : Nat} {outside : Outside}
    (there : (s.calls[k]?).isSome = true) :
    Analyses.Step settings s (.turn k outside) (turned s k outside) := by
  obtain ⟨call, found⟩ := Option.isSome_iff_exists.1 there
  refine ⟨call, found, ?_⟩
  unfold turned
  rw [found]

/-- Turns of one call in a row. -/
theorem turned_run {settings : Settings} {s : Analyses} {k : Nat} (outsides : List Outside)
    (there : (s.calls[k]?).isSome = true) :
    Run (Analyses.Step settings) s (outsides.map (.turn k))
      (outsides.foldl (fun s outside => turned s k outside) s) := by
  induction outsides generalizing s with
  | nil => exact .refl
  | cons outside rest ih =>
      have first : Run (Analyses.Step settings) s [.turn k outside] (turned s k outside) :=
        .snoc .refl (turned_step there)
      refine first.trans (ih ?_)
      obtain ⟨call, found⟩ := Option.isSome_iff_exists.1 there
      unfold turned
      rw [found]
      unfold Analyses.setPhase
      dsimp only
      rw [List.getElem?_modify, found]
      rfl

/-- Operations of the system alone. -/
theorem operations_run {settings : Settings} {w t : World} {labels : List Event}
    {calls : List Call} {sent : List String} (run : Run (Service.Step settings) w labels t)
    (others : ∀ e ∈ labels, e.action.ofAnalysis = false) :
    Run (Analyses.Step settings) ⟨w, calls, sent⟩ (labels.map .operation) ⟨t, calls, sent⟩ := by
  induction run with
  | refl => exact .refl
  | @snoc labels s t e _ last ih =>
      rw [List.map_append]
      refine (ih fun e mem => others e (List.mem_append_left _ mem)).snoc ?_
      exact ⟨others e (List.mem_append_right _ (List.mem_singleton_self e)), last, rfl⟩

namespace Sample

/-- The AI answers a request with an error. -/
def failing (now : Instant) : Outside :=
  ⟨now, some (.error ⟨"AI-FAILED-01", false, 0, false, none⟩), verification⟩

/-- The inquiry 10 after its symptom, with a call that has got no result: the run 12. -/
def called : Analyses :=
  ⟨(trace settings world (analysing.take 2)).2,
    [⟨10, ⟨"request-1", "digest-1", 2, "WPUJAC104DWH", correlation⟩, .requested⟩], []⟩

/-- The call has marked its run as failed; the event is next. -/
def failed : Analyses :=
  [failing 102, failing 103, failing 104, failing 105, failing 106].foldl
    (fun s outside => turned s 0 outside) called

end Sample

theorem run_analyses_failing :
    Moves Sample.failed (turned Sample.failed 0 (Sample.failing 107)) 10 ∧
      (∃ a r, Sample.failed.world.aggregate 10 = some a ∧
        runAt Sample.failed.world 10 12 = some r ∧ r.inputStateVersion = a.q.stateVersion) ∧
      (turned Sample.failed 0 (Sample.failing 107)).sent.Nodup := by
  have opened : Run (Service.Step Sample.settings) Sample.world
      (trace Sample.settings Sample.world (Sample.analysing.take 2)).1
      (trace Sample.settings Sample.world (Sample.analysing.take 2)).2 :=
    trace_run (by decide +kernel)
  have operations : Run (Analyses.Step Sample.settings) ⟨Sample.world, [], []⟩ _
      ⟨(trace Sample.settings Sample.world (Sample.analysing.take 2)).2, [], []⟩ :=
    operations_run opened (by decide +kernel)
  have calls : Analyses.Step Sample.settings
      ⟨(trace Sample.settings Sample.world (Sample.analysing.take 2)).2, [], []⟩
      (.called 10 ⟨"request-1", "digest-1", 2, "WPUJAC104DWH", Sample.correlation⟩)
      Sample.called := by
    have asking : ((trace Sample.settings Sample.world (Sample.analysing.take 2)).2.aggregate
        10).any (fun a => decide (2 = a.q.stateVersion)) = true := by decide +kernel
    obtain ⟨a, found, version⟩ := (Option.any_eq_true _ _).1 asking
    exact ⟨⟨a, found, of_decide_eq_true version⟩, rfl⟩
  have turns : Run (Analyses.Step Sample.settings) Sample.called _ Sample.failed :=
    turned_run [Sample.failing 102, Sample.failing 103, Sample.failing 104, Sample.failing 105,
      Sample.failing 106] rfl
  have step : Analyses.Step Sample.settings Sample.failed (.turn 0 (Sample.failing 107))
      (turned Sample.failed 0 (Sample.failing 107)) := turned_step (by decide +kernel)
  have acts : Acts Sample.failed (.turn 0 (Sample.failing 107)) 10 12 := by
    have holding : (Sample.failed.calls[0]?).any (fun call => decide (call.inquiry = 10) &&
        call.phase.run.any fun run => decide (run.id = 12)) = true := by decide +kernel
    obtain ⟨call, there, holds⟩ := (Option.any_eq_true _ _).1 holding
    rw [Bool.and_eq_true, decide_eq_true_eq] at holds
    obtain ⟨run, has, number⟩ := (Option.any_eq_true _ _).1 holds.2
    exact ⟨0, _, call, run, rfl, there, holds.1, has, of_decide_eq_true number⟩
  have moves : Moves Sample.failed (turned Sample.failed 0 (Sample.failing 107)) 10 := by
    have statuses : (Sample.failed.world.aggregate 10).any (fun a =>
        ((turned Sample.failed 0 (Sample.failing 107)).world.aggregate 10).any fun b =>
          decide (b.q.status ≠ a.q.status)) = true := by decide +kernel
    obtain ⟨a, found, h⟩ := (Option.any_eq_true _ _).1 statuses
    obtain ⟨b, after, moved⟩ := (Option.any_eq_true _ _).1 h
    exact ⟨a, b, found, after, of_decide_eq_true moved⟩
  obtain ⟨once, _, _, nodup⟩ := run_analyses ⟨Sample.world_initial, rfl, rfl⟩
    ((operations.snoc calls).trans turns) step .refl
    (turned_step (by decide +kernel) : Analyses.Step Sample.settings _
      (.turn 0 (Sample.failing 108)) (turned (turned Sample.failed 0 (Sample.failing 107)) 0
        (Sample.failing 108)))
  exact ⟨moves, (once 10 12 acts 10 moves).1.2, nodup⟩

end WaterCare.Runtime
