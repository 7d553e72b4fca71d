import WaterCare.Ai.SingleWorker

/-!
The steps of the worker threads and of `close` in the orderly runs of the session manager, and what
holds of these runs.
-/

namespace WaterCare.Ai.SessionManager
open Machine Pool

/-! ### Steps of a worker -/

section
variable {s t : State} {i j k w : Nat} {c d : Call} {e f : Close} {o p : Worker}

theorem set_same {α : Type} {pool : List α} {a : α} (found : pool[i]? = some a) :
    pool.set i a = pool := by
  have ⟨inside, is⟩ := List.getElem?_eq_some_iff.1 found
  rw [← is]
  exact List.set_getElem_self inside

/-- A worker that is alive goes on with the requests that it has, or with the later ones. -/
theorem WorkerInvariant.proceed (old : WorkerInvariant s w o) (up : o.stage.alive = true)
    (thread : t.thread = s.thread)
    (loop : p.stage.alive = true → t.loop = if p.stage.loopShown then some w else none)
    (queue : p.stage.alive = true → t.queue = if p.stage.queueShown then some w else none)
    (unready : p.stage.unready = true → t.ready = false ∧
      ∃ i : Nat, ∃ c : Call, t.calls[i]? = some c ∧ c.point.following = true)
    (fed : ∀ q, p.stage.queue? = some q → q = w)
    (bound : t.bound w = none ∨ t.bound w = some w)
    (scheduled : t.scheduled w <:+ s.scheduled w) (pending : t.pending w p <:+ s.pending w o)
    (idle : p.stage.idle = true → t.pending w p = [])
    (closes : t.closes = s.closes)
    (ending : p.stage.ending = true → o.stage.ending = true ∨ ∃ k, .stop k ∈ s.pending w o)
    (sound : p.stage ≠ .writeError) : WorkerInvariant t w p where
  thread _ := thread.trans (old.thread up)
  loop := loop
  queue := queue
  unready := unready
  fed := fed
  bound := bound
  scheduled q member := old.scheduled q (scheduled.subset member)
  last before k after split' := by
    have ⟨first, whole⟩ := pending
    rw [split', ← List.append_assoc] at whole
    exact old.last (first ++ before) k after whole.symm
  idle := idle
  closing stop := by
    rw [closes]
    rcases stop with ends | ⟨k, member⟩
    · exact old.closing (ending ends)
    · exact old.closing (.inr ⟨k, pending.subset member⟩)
  sound := sound

namespace Invariant
variable (h : Invariant s)
include h

/-- A worker that is alive makes a step. -/
theorem step_of_alive (there : s.workers[w]? = some o) (up : o.stage.alive = true)
    (workers : t.workers = s.workers.set w p) (thread : t.thread = s.thread)
    (lock : t.lock = s.lock) (calls : t.calls = s.calls) (closes : t.closes = s.closes)
    (scheduled : ∀ v, v ≠ w → t.scheduled v = s.scheduled v)
    (items : ∀ v, v ≠ w → t.items v = s.items v) (bound : ∀ v, v ≠ w → t.bound v = s.bound v)
    (loop : t.loop = s.loop ∨ t.loop = some w ∧ o.stage.unready = true)
    (queue : t.queue = s.queue ∨ t.queue = some w ∧ o.stage.unready = true)
    (dying : p.stage.alive = true ∨ o.stage.ending = true)
    (pending : ∀ (i : Nat) (c : Call), s.calls[i]? = some c → c.future = none →
      .tool i ∈ s.pending w o → .tool i ∈ t.pending w p)
    (own : WorkerInvariant t w p) : Invariant t := by
  have alive := (alive_of_getElem? there).trans up
  have inside := (List.getElem?_eq_some_iff.1 there).1
  have present : t.workers[w]? = some p := by
    rw [workers]
    exact set_self there
  have old := h.workers w o there
  -- Only this worker is alive, so it alone can have died.
  have still (calm : p.stage.alive = true) (v : Nat) (awake : s.alive v = true) :
      t.alive v = true := by
    rw [h.one_alive awake alive]
    exact (alive_of_getElem? present).trans calm
  have closing_of_ending (ending : o.stage.ending = true) : ∃ k : Nat, ∃ c : Close,
      s.closes[k]? = some c ∧ c.point.waiting = true := old.closing (.inl ending)
  constructor
  · rw [calls]
    intro j d called
    have calm : d.point.starting = false := by
      by_contra begins
      rw [Bool.not_eq_false] at begins
      have vacant := (h.calls j d called).vacant begins w
      rw [alive] at vacant
      cases vacant
    refine (h.calls j d called).keep (fun _ => ⟨lock, thread⟩) calm (fun unsettled => ?_) ?_
    · have going := (h.going called unsettled there).1
      rcases dying with up' | ending
      · exact still up'
      · rw [going] at ending
        cases ending
    · intro unset v q known member
      by_cases same : v = w
      · subst same
        cases Option.some.inj (known.symm.trans there)
        exact ⟨p, present, pending j d called unset member⟩
      · refine ⟨q, ?_, ?_⟩
        · rw [workers]
          exact (set_other same).trans known
        · unfold State.pending
          rw [items v same, scheduled v same]
          exact member
  · rw [workers]
    intro v q known
    rcases of_set known with ⟨rfl, rfl⟩ | ⟨other, before⟩
    · exact own
    · exact (h.workers v q before).asleep (h.asleep_of_ne alive other before) (bound v other)
        (items v other) (scheduled v other)
  · rw [closes]
    intro k e closed
    have kept := h.closes k e closed
    by_cases underWay : e.point.underWay = true
    · have ready : o.stage.unready = false := by
        by_contra unready
        rw [Bool.not_eq_false] at unready
        have ⟨_, i, c, called, following⟩ := old.unready unready
        have settled := kept.settled underWay i c called
        rw [Point.settled_of_following following] at settled
        cases settled
      have vacant {q : Prop} (clearing : e.point.clearing = true) : q := by
        have none_alive := kept.cleared clearing w
        rw [alive] at none_alive
        cases none_alive
      refine ⟨?_, ?_, ?_, ?_, ?_, kept.found, ?_, vacant,
        fun cleared => vacant (ClosePoint.clearing_of_loopCleared cleared),
        fun cleared => vacant (ClosePoint.clearing_of_queueCleared cleared)⟩
      · rw [calls]
        exact kept.settled
      · rw [closes]
        exact kept.alone
      · rw [thread]
        exact kept.thread
      · intro read
        rcases loop with same | ⟨_, unready⟩
        · exact (kept.loop read).trans same.symm
        · rw [ready] at unready
          cases unready
      · intro read
        rcases queue with same | ⟨_, unready⟩
        · exact (kept.queue read).trans same.symm
        · rw [ready] at unready
          cases unready
      · intro point v read
        rcases dying with up' | ending
        · exact still up' v (kept.enqueue point v read)
        · have ⟨j, d, other, waiting⟩ := closing_of_ending ending
          have same := kept.alone underWay j d other (ClosePoint.underWay_of_waiting waiting)
          subst same
          cases Option.some.inj (other.symm.trans closed)
          rw [point] at waiting
          cases waiting
    · rw [Bool.not_eq_true] at underWay
      exact .ofDone underWay
  · intro l read
    have closing_or (awake : s.alive l = true) : t.alive l = true ∨ t.closing := by
      rcases dying with up' | ending
      · exact .inl (still up' l awake)
      · have ⟨k, e, closed, waiting⟩ := closing_of_ending ending
        refine .inr ⟨k, e, ?_, ClosePoint.underWay_of_waiting waiting⟩
        rw [closes]
        exact closed
    rcases loop with same | ⟨now, _⟩
    · rcases h.loop l (same.symm.trans read) with awake | ⟨k, e, closed, underWay⟩
      · exact closing_or awake
      · refine .inr ⟨k, e, ?_, underWay⟩
        rw [closes]
        exact closed
    · cases Option.some.inj (now.symm.trans read)
      exact closing_or alive
  · intro q read
    have closing_or (awake : s.alive q = true) : t.alive q = true ∨ t.closing := by
      rcases dying with up' | ending
      · exact .inl (still up' q awake)
      · have ⟨k, e, closed, waiting⟩ := closing_of_ending ending
        refine .inr ⟨k, e, ?_, ClosePoint.underWay_of_waiting waiting⟩
        rw [closes]
        exact closed
    rcases queue with same | ⟨now, _⟩
    · rcases h.queue q (same.symm.trans read) with awake | ⟨k, e, closed, underWay⟩
      · exact closing_or awake
      · refine .inr ⟨k, e, ?_, underWay⟩
        rw [closes]
        exact closed
    · cases Option.some.inj (now.symm.trans read)
      exact closing_or alive
  · intro v beyond
    rw [workers, List.length_set] at beyond
    have apart : v ≠ w := by omega
    rw [items v apart, scheduled v apart, bound v apart]
    exact h.fresh v beyond

/-- A future of a call is completed. -/
theorem complete (i : Nat) (outcome : Outcome) : Invariant (s.complete i outcome) := by
  unfold State.complete
  split
  · rename_i c found
    split
    · have old := h.calls i c found
      exact h.setCall found ⟨old.lock, old.loop, old.queue, old.thread, old.vacant,
        old.readyCleared, old.loopDropped, old.queueDropped, old.start, old.paired, old.enqueue,
        fun _ => nofun⟩ id .inl
    · exact h
  · exact h

end Invariant

/-- After that the call has its outcome. -/
theorem complete_set {outcome : Outcome}
    (found : (s.complete i outcome).calls[i]? = some c) : c.future ≠ none := by
  unfold State.complete at found
  split at found
  · rename_i d before
    split at found
    · have set : (s.calls.set i { d with future := some outcome })[i]? = some c := found
      rw [set_self before] at set
      rw [← Option.some.inj set]
      nofun
    · rename_i already
      rw [before] at found
      rw [← Option.some.inj found]
      exact already
  · rename_i missing
    rw [missing] at found
    cases found

theorem complete_frame {outcome : Outcome} :
    s.complete i outcome = { s with calls := (s.complete i outcome).calls } := by
  unfold State.complete
  split
  · split <;> rfl
  · rfl

theorem setWorker_complete {outcome : Outcome} :
    (s.setWorker w p).complete i outcome = (s.complete i outcome).setWorker w p := by
  unfold State.complete
  have same : (s.setWorker w p).calls = s.calls := rfl
  rw [same]
  split
  · split <;> rfl
  · rfl

end

section
variable {s t : State} {i j k w : Nat} {c d : Call} {e f : Close} {o p : Worker}

theorem WorkerInvariant.setClose (h : WorkerInvariant s w o) (closed : s.closes[k]? = some e)
    (waiting : e.point.waiting = true → f.point.waiting = true ∨
      o.stage.ending = false ∧ ∀ k, .stop k ∉ s.pending w o) :
    WorkerInvariant (s.setClose k f) w o := by
  refine ⟨h.thread, h.loop, h.queue, h.unready, h.fed, h.bound, h.scheduled, h.last, h.idle, ?_,
    h.sound⟩
  intro stop
  have ⟨j, d, there, waits⟩ := h.closing stop
  by_cases own : j = k
  · subst own
    cases Option.some.inj (there.symm.trans closed)
    rcases waiting waits with still | ⟨going, quiet⟩
    · exact ⟨j, f, set_self there, still⟩
    · rcases stop with ending | ⟨k, member⟩
      · rw [going] at ending
        cases ending
      · exact absurd member (quiet k)
  · exact ⟨j, d, (set_other own).trans there, waits⟩

namespace Invariant
variable (h : Invariant s)
include h

/-- A step of a `close` that touches nothing but its own variables. -/
theorem setClose (closed : s.closes[k]? = some e) (own : CloseInvariant s k f)
    (underWay : f.point.underWay = true → e.point.underWay = true)
    (waiting : e.point.waiting = true → f.point.waiting = true ∨
      ∀ w o, s.workers[w]? = some o → o.stage.ending = false ∧ ∀ k, .stop k ∉ s.pending w o)
    (goes : e.point.underWay = true →
      f.point.underWay = true ∨ s.loop = none ∧ s.queue = none) :
    Invariant (s.setClose k f) := by
  have others (j : Nat) (d : Close) (there : (s.closes.set k f)[j]? = some d)
      (still : d.point.underWay = true) :
      ∃ d' : Close, s.closes[j]? = some d' ∧ d'.point.underWay = true := by
    rcases of_set there with ⟨rfl, rfl⟩ | ⟨_, before⟩
    · exact ⟨e, closed, underWay still⟩
    · exact ⟨d, before, still⟩
  have closing_of {q : Prop} (still : s.closing) (cleared : s.loop = none ∧ s.queue = none → q)
      (kept : (s.setClose k f).closing → q) : q := by
    have ⟨j, d, there, goes'⟩ := still
    by_cases same : j = k
    · subst same
      cases Option.some.inj (there.symm.trans closed)
      rcases goes goes' with on | off
      · exact kept ⟨j, f, set_self closed, on⟩
      · exact cleared off
    · exact kept ⟨j, d, (set_other same).trans there, goes'⟩
  constructor
  · intro j d called
    have old := h.calls j d called
    exact ⟨old.lock, old.loop, old.queue, old.thread, old.vacant, old.readyCleared,
      old.loopDropped, old.queueDropped, old.start, old.paired, old.enqueue, old.answered⟩
  · intro w o there
    refine (h.workers w o there).setClose closed fun waits => ?_
    rcases waiting waits with still | free
    · exact .inl still
    · exact .inr (free w o there)
  · refine h.closes.set ?_ ?_
    · refine ⟨own.settled, fun on j d there still => ?_, own.thread, own.loop, own.queue, own.found,
        own.enqueue, own.cleared, own.loopCleared, own.queueCleared⟩
      have ⟨d', before, still'⟩ := others j d there still
      exact own.alone on j d' before still'
    · intro j d _ old
      refine ⟨old.settled, fun on m b there still => ?_, old.thread, old.loop, old.queue, old.found,
        old.enqueue, old.cleared, old.loopCleared, old.queueCleared⟩
      have ⟨b', before, still'⟩ := others m b there still
      exact old.alone on m b' before still'
  · intro l read
    have read' : s.loop = some l := read
    rcases h.loop l read' with alive | still
    · exact .inl alive
    · refine closing_of still (fun off => ?_) .inr
      rw [off.1] at read'
      cases read'
  · intro q read
    have read' : s.queue = some q := read
    rcases h.queue q read' with alive | still
    · exact .inl alive
    · refine closing_of still (fun off => ?_) .inr
      rw [off.2] at read'
      cases read'
  · exact h.fresh

/-- `_complete_result` for a stop request. -/
theorem confirm (k : Nat) : Invariant (s.confirm k) := by
  unfold State.confirm
  split
  · rename_i e closed
    have old := h.closes k e closed
    exact h.setClose closed ⟨old.settled, old.alone, old.thread, old.loop, old.queue, old.found,
      old.enqueue, old.cleared, old.loopCleared, old.queueCleared⟩ id .inl .inl
  · exact h

end Invariant
end

section
variable {s t : State} {i j k w : Nat} {c d : Call} {e f : Close} {o p : Worker}

theorem setWorker_confirm : (s.setWorker w p).confirm k = (s.confirm k).setWorker w p := by
  unfold State.confirm
  have same : (s.setWorker w p).closes = s.closes := rfl
  rw [same]
  split <;> rfl

theorem confirm_frame : s.confirm k = { s with closes := (s.confirm k).closes } := by
  unfold State.confirm
  split <;> rfl

namespace Invariant
variable (h : Invariant s)
include h

/-- A worker comes from its start to the loop over its queue. -/
theorem publish (there : s.workers[w]? = some o) (workers : t.workers = s.workers.set w p)
    (up : o.stage.alive = true) (empty : p.stage.taken = o.stage.taken)
    (awake : p.stage.alive = true)
    (going : p.stage.ending = false) (busy : p.stage.idle = false) (sound : p.stage ≠ .writeError)
    (thread : t.thread = s.thread) (lock : t.lock = s.lock) (calls : t.calls = s.calls)
    (closes : t.closes = s.closes) (scheduled : t.scheduled = s.scheduled)
    (items : t.items = s.items) (bound : t.bound = s.bound)
    (loop : t.loop = s.loop ∨ t.loop = some w ∧ o.stage.unready = true)
    (queue : t.queue = s.queue ∨ t.queue = some w ∧ o.stage.unready = true)
    (loopShown : t.loop = if p.stage.loopShown then some w else none)
    (queueShown : t.queue = if p.stage.queueShown then some w else none)
    (unready : p.stage.unready = true → o.stage.unready = true ∧ t.ready = s.ready)
    (fed : ∀ q, p.stage.queue? = some q → q = w) : Invariant t := by
  have old := h.workers w o there
  have same : t.pending w p = s.pending w o := by
    unfold State.pending
    rw [empty, items, scheduled]
  refine h.step_of_alive there up workers thread lock calls closes (fun v _ => by rw [scheduled])
    (fun v _ => by rw [items]) (fun v _ => by rw [bound]) loop queue (.inl awake)
    (fun j d _ _ member => by rw [same]; exact member) ?_
  refine old.proceed up thread (fun _ => loopShown) (fun _ => queueShown) (fun not_ready => ?_) fed
    ?_ ?_ ?_ (fun idle => ?_) closes (fun ending => ?_) sound
  · have ⟨was, ready⟩ := unready not_ready
    rw [ready, calls]
    exact old.unready was
  · rw [bound]
    exact old.bound
  · exact ⟨[], congrFun scheduled w⟩
  · exact ⟨[], same⟩
  · rw [busy] at idle
    cases idle
  · rw [going] at ending
    cases ending

/-- The outcome of a request that a worker has served. -/
theorem serve {q : Nat} {served : Bool} {outcome : Outcome} {connected : Bool}
    (there : s.workers[w]? = some ⟨.serving q i, connected⟩) :
    Invariant ((s.setWorker w ⟨.getting q, served⟩).complete i outcome) := by
  rw [setWorker_complete]
  have done := h.complete i outcome
  have frame := @complete_frame s i outcome
  have present : (s.complete i outcome).workers[w]? = some ⟨.serving q i, connected⟩ := by
    rw [frame]
    exact there
  have old := done.workers w _ present
  have shrinks : (s.complete i outcome).pending w ⟨.serving q i, connected⟩ =
      .tool i :: (s.complete i outcome).pending w ⟨.getting q, served⟩ := rfl
  refine done.step_of_alive present rfl rfl rfl rfl rfl rfl (fun _ _ => rfl) (fun _ _ => rfl)
    (fun _ _ => rfl) (.inl rfl) (.inl rfl) (.inl rfl) ?_ ?_
  · intro j d called unset member
    rw [shrinks] at member
    rcases List.mem_cons.1 member with same | later
    · cases Request.tool.inj same
      exact absurd unset (complete_set called)
    · exact later
  · exact old.proceed rfl rfl (fun _ => old.loop rfl) (fun _ => old.queue rfl) nofun
      (fun v same => old.fed v same) old.bound (List.suffix_refl _) ⟨[.tool i], rfl⟩ nofun rfl
      nofun nofun

/-- A step of a worker thread. -/
theorem work {served : Served} (there : s.workers[w]? = some o)
    (performed : s.work w o served = some t) : Invariant t := by
  have old := h.workers w o there
  obtain ⟨stage, connected⟩ := o
  cases stage with
  | created => cases performed
  | writeLoop =>
      cases Option.some.inj performed
      exact h.publish there rfl rfl rfl rfl rfl rfl nofun rfl rfl rfl rfl rfl rfl rfl
        (.inr ⟨rfl, rfl⟩) (.inl rfl) rfl (old.queue rfl) (fun _ => ⟨rfl, rfl⟩) nofun
  | writeQueue =>
      cases Option.some.inj performed
      exact h.publish there rfl rfl rfl rfl rfl rfl nofun rfl rfl rfl rfl rfl rfl rfl
        (.inl rfl) (.inr ⟨rfl, rfl⟩) (old.loop rfl) rfl (fun _ => ⟨rfl, rfl⟩) nofun
  | clearError =>
      cases Option.some.inj performed
      exact h.publish there rfl rfl rfl rfl rfl rfl nofun rfl rfl rfl rfl rfl rfl rfl
        (.inl rfl) (.inl rfl) (old.loop rfl) (old.queue rfl) (fun _ => ⟨rfl, rfl⟩) nofun
  | setReady =>
      cases Option.some.inj performed
      exact h.publish there rfl rfl rfl rfl rfl rfl nofun rfl rfl rfl rfl rfl rfl rfl
        (.inl rfl) (.inl rfl) (old.loop rfl) (old.queue rfl) nofun nofun
  | readQueue =>
      have shown : s.queue = some w := old.queue rfl
      simp only [State.work, shown] at performed
      cases Option.some.inj performed
      exact h.publish there rfl rfl rfl rfl rfl rfl nofun rfl rfl rfl rfl rfl rfl rfl
        (.inl rfl) (.inl rfl) (old.loop rfl) (old.queue rfl) nofun
        fun _ same => (Option.some.inj same).symm
  | getting q =>
      cases old.fed q rfl
      cases waiting : s.items w with
      | nil =>
          simp only [State.work, waiting, if_pos old.bound] at performed
          cases Option.some.inj performed
          refine h.step_of_alive there rfl (set_same there).symm rfl rfl rfl rfl (fun _ _ => rfl)
            (fun _ _ => rfl) (fun _ apart => Function.update_of_ne apart _ _) (.inl rfl) (.inl rfl)
            (.inl rfl) (fun _ _ _ _ member => member) ?_
          exact old.proceed rfl rfl (fun _ => old.loop rfl) (fun _ => old.queue rfl) nofun old.fed
            (.inr (Function.update_self _ _ _)) (List.suffix_refl _) (List.suffix_refl _) nofun rfl
            nofun nofun
      | cons request rest =>
          cases request with
          | tool j =>
              simp only [State.work, waiting] at performed
              cases Option.some.inj performed
              have same : State.pending { s.setWorker w ⟨.serving w j, connected⟩ with
                  items := Function.update s.items w rest } w ⟨.serving w j, connected⟩ =
                    s.pending w ⟨.getting w, connected⟩ := by
                unfold State.pending
                dsimp only
                rw [Function.update_self, waiting]
                rfl
              refine h.step_of_alive there rfl rfl rfl rfl rfl rfl (fun _ _ => rfl)
                (fun _ apart => Function.update_of_ne apart _ _) (fun _ _ => rfl) (.inl rfl)
                (.inl rfl) (.inl rfl) (fun _ _ _ _ member => by rw [same]; exact member) ?_
              exact old.proceed rfl rfl (fun _ => old.loop rfl) (fun _ => old.queue rfl) nofun
                (fun _ is => (Option.some.inj is).symm) old.bound (List.suffix_refl _)
                ⟨[], same⟩ nofun rfl nofun nofun
          | stop k =>
              simp only [State.work, waiting] at performed
              cases Option.some.inj performed
              have whole : s.pending w ⟨.getting w, connected⟩ =
                  [] ++ .stop k :: (rest ++ (s.scheduled w).map (·.2)) := by
                unfold State.pending
                rw [waiting]
                rfl
              have last := old.last _ _ _ whole
              rw [List.append_eq_nil_iff] at last
              have empty : State.pending { s.setWorker w ⟨.stopping k, false⟩ with
                  items := Function.update s.items w rest } w ⟨.stopping k, false⟩ = [] := by
                unfold State.pending
                dsimp only
                rw [Function.update_self, last.1]
                exact last.2
              have only : s.pending w ⟨.getting w, connected⟩ = [.stop k] := by
                rw [whole, last.1, last.2]
                rfl
              refine h.step_of_alive there rfl rfl rfl rfl rfl rfl (fun _ _ => rfl)
                (fun _ apart => Function.update_of_ne apart _ _) (fun _ _ => rfl) (.inl rfl)
                (.inl rfl) (.inl rfl) (fun j d _ _ member => ?_) ?_
              · rw [only] at member
                cases List.mem_singleton.1 member
              · refine old.proceed rfl rfl (fun _ => old.loop rfl) (fun _ => old.queue rfl) nofun
                  nofun old.bound (List.suffix_refl _) ?_ (fun _ => empty) rfl (fun _ => ?_) nofun
                · rw [empty]
                  exact List.nil_suffix
                · refine .inr ⟨k, ?_⟩
                  rw [only]
                  exact List.mem_singleton_self _
  | serving q i =>
      cases served with
      | result =>
          cases Option.some.inj performed
          exact h.serve there
      | callFailed =>
          cases Option.some.inj performed
          exact h.serve there
      | connectFailed =>
          cases connected with
          | true => cases performed
          | false =>
              cases Option.some.inj performed
              exact h.serve there
  | stopping k =>
      cases Option.some.inj performed
      rw [setWorker_confirm]
      have done := h.confirm k
      have frame := @confirm_frame s k
      have present : (s.confirm k).workers[w]? = some ⟨.stopping k, connected⟩ := by
        rw [frame]
        exact there
      have kept := done.workers w _ present
      refine done.step_of_alive present rfl rfl rfl rfl rfl rfl (fun _ _ => rfl) (fun _ _ => rfl)
        (fun _ _ => rfl) (.inl rfl) (.inl rfl) (.inl rfl) (fun _ _ _ _ member => member) ?_
      exact kept.proceed rfl rfl (fun _ => kept.loop rfl) (fun _ => kept.queue rfl) nofun nofun
        kept.bound (List.suffix_refl _) (List.suffix_refl _) (fun _ => kept.idle rfl) rfl
        (fun _ => .inl rfl) nofun
  | writeError => exact absurd rfl old.sound
  | returned =>
      cases Option.some.inj performed
      refine h.step_of_alive there rfl rfl rfl rfl rfl rfl (fun _ _ => rfl) (fun _ _ => rfl)
        (fun _ _ => rfl) (.inl rfl) (.inl rfl) (.inl rfl) (fun _ _ _ _ member => member) ?_
      exact old.proceed rfl rfl (fun _ => old.loop rfl) (fun _ => old.queue rfl) nofun nofun
        old.bound (List.suffix_refl _) (List.suffix_refl _) (fun _ => old.idle rfl) rfl
        (fun _ => .inl rfl) nofun
  | closed =>
      cases Option.some.inj performed
      refine h.step_of_alive there rfl rfl rfl rfl rfl rfl (fun _ _ => rfl) (fun _ _ => rfl)
        (fun _ _ => rfl) (.inl rfl) (.inl rfl) (.inr rfl) (fun _ _ _ _ member => member) ?_
      exact old.proceed rfl rfl nofun nofun nofun nofun old.bound (List.suffix_refl _)
        (List.suffix_refl _) (fun _ => old.idle rfl) rfl nofun nofun
  | dead => cases performed

/-- A callback puts its request into the queue. -/
theorem callback (there : s.workers[w]? = some o) (performed : s.callback w o = some t) :
    Invariant t := by
  have old := h.workers w o there
  cases running : o.stage.runs with
  | false =>
      simp only [State.callback, running] at performed
      cases performed
  | true =>
      have up := Stage.alive_of_runs running
      cases given : s.scheduled w with
      | nil =>
          simp only [State.callback, running, given] at performed
          cases performed
      | cons first rest =>
          obtain ⟨q, request⟩ := first
          have own : q = w := old.scheduled (q, request) (by rw [given]; exact List.mem_cons_self)
          subst own
          simp only [State.callback, running, given] at performed
          cases Option.some.inj performed
          have same : State.pending { s with
              scheduled := Function.update s.scheduled q rest
              items := Function.update s.items q (s.items q ++ [request]) } q o =
                s.pending q o := by
            unfold State.pending
            dsimp only
            rw [Function.update_self, Function.update_self, given, List.map_cons,
              List.append_assoc, List.append_assoc, List.append_assoc, List.singleton_append]
          refine h.step_of_alive there up (set_same there).symm rfl rfl rfl rfl
            (fun _ apart => Function.update_of_ne apart _ _)
            (fun _ apart => Function.update_of_ne apart _ _) (fun _ _ => rfl) (.inl rfl) (.inl rfl)
            (.inl up) (fun _ _ _ _ member => by rw [same]; exact member) ?_
          refine old.proceed up rfl (fun _ => old.loop up) (fun _ => old.queue up) old.unready
            old.fed old.bound ?_ ⟨[], same⟩ (fun idle => ?_) rfl
            (fun ending => .inl ending) old.sound
          · dsimp only
            rw [Function.update_self, given]
            exact List.suffix_cons _ _
          · rw [same]
            exact old.idle idle

end Invariant
end

/-! ### Steps of a close -/

section
variable {s t : State} {i j k w : Nat} {c d : Call} {e f : Close} {o p : Worker}

/-- A `close` that clears the fields. -/
theorem CloseInvariant.ofClearing (clearing : e.point.clearing = true)
    (settled : ∀ (i : Nat) (d : Call), s.calls[i]? = some d → d.point.settled = true)
    (alone : ∀ (j : Nat) (d : Close), s.closes[j]? = some d → d.point.underWay = true → j = k)
    (cleared : ∀ w, s.alive w = false) (loop : e.point.loopCleared = true → s.loop = none)
    (queue : e.point.queueCleared = true → s.queue = none) : CloseInvariant s k e := by
  have past {q : Prop} (read : e.point.threadRead = true) : q := by
    rw [ClosePoint.threadRead_of_clearing clearing] at read
    cases read
  exact ⟨fun _ => settled, fun _ => alone, past,
    fun read => past (ClosePoint.threadRead_of_loopRead read),
    fun read => past (ClosePoint.threadRead_of_queueRead read),
    fun found => past (ClosePoint.threadRead_of_found found),
    fun point => past (by rw [point]; rfl), fun _ => cleared, loop, queue⟩

namespace Invariant
variable (h : Invariant s)
include h

/-- The `close` writes fields after the worker has come to its end. -/
theorem clear (closed : s.closes[k]? = some e) (clearing : e.point.clearing = true)
    (workers : t.workers = s.workers) (scheduled : t.scheduled = s.scheduled)
    (items : t.items = s.items) (bound : t.bound = s.bound) (calls : t.calls = s.calls)
    (closes : t.closes = s.closes) (loop : t.loop = s.loop ∨ t.loop = none)
    (queue : t.queue = s.queue ∨ t.queue = none) : Invariant t := by
  have underWay := ClosePoint.underWay_of_clearing clearing
  have kept := h.closes k e closed
  have settled := kept.settled underWay
  have vacant := kept.cleared clearing
  have closing : t.closing := by
    refine ⟨k, e, ?_, underWay⟩
    rw [closes]
    exact closed
  constructor
  · rw [calls]
    intro j d called
    have old := h.calls j d called
    have done := settled j d called
    have out {q : Prop} (unsettled : d.point.settled = false) : q := by
      rw [done] at unsettled
      cases unsettled
    refine .free ?_ out out old.paired (fun point => out (by rw [point]; rfl)) ?_
    · by_contra holds
      rw [Bool.not_eq_false] at holds
      exact out (Point.settled_of_holds holds)
    · intro point unset
      have ⟨w, o, pair, there, member⟩ := old.answered point unset
      refine ⟨w, o, pair, ?_, ?_⟩
      · rw [workers]
        exact there
      · unfold State.pending
        rw [items, scheduled]
        exact member
  · rw [workers]
    intro w o there
    refine (h.workers w o there).asleep (down_of_vacant vacant there) ?_ ?_ ?_
    · rw [bound]
    · rw [items]
    · rw [scheduled]
  · rw [closes]
    intro j f there
    by_cases own : j = k
    · subst own
      cases Option.some.inj (there.symm.trans closed)
      refine .ofClearing clearing ?_ ?_ ?_ ?_ ?_
      · rw [calls]
        exact settled
      · rw [closes]
        exact kept.alone underWay
      · intro w
        unfold State.alive
        rw [workers]
        exact vacant w
      · intro cleared
        rcases loop with same | off
        · exact same.trans (kept.loopCleared cleared)
        · exact off
      · intro cleared
        rcases queue with same | off
        · exact same.trans (kept.queueCleared cleared)
        · exact off
    · refine .ofDone ?_
      by_contra goes
      rw [Bool.not_eq_false] at goes
      exact own (kept.alone underWay j f there goes)
  · exact fun _ _ => .inr closing
  · exact fun _ _ => .inr closing
  · rw [workers, scheduled, items, bound]
    exact h.fresh

/-- A `close` finds no usable worker only when none is alive. -/
theorem vacant_of_check (closed : s.closes[k]? = some e) (point : e.point = .check)
    (usable : s.usable e.thread e.loop e.queue = none) (w : Nat) : s.alive w = false := by
  by_contra up
  rw [Bool.not_eq_false] at up
  have old := h.closes k e closed
  have ⟨loop, queue⟩ := h.shown_of_settled (old.settled (by rw [point]; rfl)) up
  have first := (old.thread (by rw [point]; rfl)).trans (h.thread_of_alive up)
  have second := (old.loop (by rw [point]; rfl)).trans loop
  have third := (old.queue (by rw [point]; rfl)).trans queue
  rw [first, second, third, usable_of_alive up] at usable
  cases usable

/-- The stop request is given to the worker that the `close` has found. -/
theorem stop (closed : s.closes[k]? = some e) (point : e.point = .enqueue) {l q : Nat}
    (loop : e.loop = some l) (queue : e.queue = some q) :
    ∃ t, s.enqueue l q (.stop k) = some t ∧
      Invariant (t.setClose k { e with point := .awaiting }) := by
  have old := h.closes k e closed
  have underWay : e.point.underWay = true := by
    rw [point]
    rfl
  have ⟨w, found⟩ := old.found (by rw [point]; rfl)
  cases Option.some.inj (loop.symm.trans found.2.1)
  cases Option.some.inj (queue.symm.trans found.2.2)
  have ⟨o, there, up⟩ := exists_of_alive (old.enqueue point l found.1)
  have ⟨going, quiet⟩ : o.stage.ending = false ∧ ∀ k, .stop k ∉ s.pending l o := by
    refine h.going_of_closes (fun j d other => ?_) there
    by_contra waiting
    rw [Bool.not_eq_false] at waiting
    cases old.alone underWay j d other (ClosePoint.underWay_of_waiting waiting)
    cases Option.some.inj (other.symm.trans closed)
    rw [point] at waiting
    cases waiting
  have next : Invariant (s.setClose k { e with point := .awaiting }) := by
    refine h.setClose closed ⟨fun _ => old.settled underWay, fun _ => old.alone underWay,
      fun _ => old.thread (by rw [point]; rfl), fun _ => old.loop (by rw [point]; rfl),
      fun _ => old.queue (by rw [point]; rfl), fun _ => ⟨l, found⟩, nofun, nofun, nofun, nofun⟩
      (fun _ => underWay) (fun _ => .inl rfl) (fun _ => .inl rfl)
  refine ⟨s.schedule l l (.stop k), ?_, ?_⟩
  · unfold State.enqueue
    rw [there, Option.any_some, if_pos (Stage.open_of_alive up going)]
  · exact (next.schedule there up going quiet (.stop k)
      fun _ _ => ⟨k, _, set_self closed, rfl⟩).1

/-- A step of a `close`. -/
theorem closer (closed : s.closes[k]? = some e) (performed : s.closer k e = some t) :
    Invariant t := by
  have old := h.closes k e closed
  obtain ⟨point, thread, loop, queue, stopped, error⟩ := e
  cases point with
  | readThread =>
      cases Option.some.inj performed
      exact h.setClose closed ⟨fun _ => old.settled rfl, fun _ => old.alone rfl, fun _ => rfl,
        nofun, nofun, nofun, nofun, nofun, nofun, nofun⟩ (fun _ => rfl) nofun fun _ => .inl rfl
  | readLoop =>
      cases Option.some.inj performed
      exact h.setClose closed ⟨fun _ => old.settled rfl, fun _ => old.alone rfl,
        fun _ => old.thread rfl, fun _ => rfl, nofun, nofun, nofun, nofun, nofun, nofun⟩
        (fun _ => rfl) nofun fun _ => .inl rfl
  | readQueue =>
      cases Option.some.inj performed
      exact h.setClose closed ⟨fun _ => old.settled rfl, fun _ => old.alone rfl,
        fun _ => old.thread rfl, fun _ => old.loop rfl, fun _ => rfl, nofun, nofun, nofun, nofun,
        nofun⟩ (fun _ => rfl) nofun fun _ => .inl rfl
  | check =>
      have settled := old.settled rfl
      cases usable : s.usable thread loop queue with
      | some pair =>
          simp only [State.closer, usable] at performed
          cases Option.some.inj performed
          have ⟨w, read, _, _, alive⟩ := usable_eq_some usable
          have ⟨shownLoop, shownQueue⟩ := h.shown_of_settled settled alive
          refine h.setClose closed ⟨fun _ => settled, fun _ => old.alone rfl,
            fun _ => old.thread rfl, fun _ => old.loop rfl, fun _ => old.queue rfl,
            fun _ => ⟨w, read, (old.loop rfl).trans shownLoop, (old.queue rfl).trans shownQueue⟩,
            fun _ v same => ?_, nofun, nofun, nofun⟩ (fun _ => rfl) nofun fun _ => .inl rfl
          cases Option.some.inj (read.symm.trans same)
          exact alive
      | none =>
          simp only [State.closer, usable] at performed
          cases Option.some.inj performed
          exact h.setClose closed (.ofClearing rfl settled (old.alone rfl)
            (h.vacant_of_check closed rfl usable) nofun nofun) (fun _ => rfl) nofun
            fun _ => .inl rfl
  | enqueue =>
      cases loop with
      | none => cases performed
      | some l =>
          cases queue with
          | none => cases performed
          | some q =>
              have ⟨u, given, next⟩ := h.stop closed rfl rfl rfl
              simp only [State.closer, Option.bind_some, Option.map_some, given] at performed
              cases Option.some.inj performed
              exact next
  | awaiting =>
      cases stopped with
      | false => cases performed
      | true =>
          cases Option.some.inj performed
          exact h.setClose closed ⟨fun _ => old.settled rfl, fun _ => old.alone rfl,
            fun _ => old.thread rfl, fun _ => old.loop rfl, fun _ => old.queue rfl,
            fun _ => old.found rfl, nofun, nofun, nofun, nofun⟩ (fun _ => rfl) (fun _ => .inl rfl)
            fun _ => .inl rfl
  | join =>
      cases thread with
      | none => cases performed
      | some v =>
          by_cases up : s.alive v = true
          · simp only [State.closer, Option.bind_some, if_pos up] at performed
            cases performed
          · simp only [State.closer, Option.bind_some, if_neg up] at performed
            cases Option.some.inj performed
            have vacant (w : Nat) : s.alive w = false := by
              by_contra awake
              rw [Bool.not_eq_false] at awake
              have read : some v = some w := (old.thread rfl).trans (h.thread_of_alive awake)
              rw [Option.some.inj read] at up
              exact up awake
            refine h.setClose closed (.ofClearing rfl (old.settled rfl) (old.alone rfl) vacant nofun
              nofun) (fun _ => rfl) (fun _ => .inr fun w o there => ?_) fun _ => .inl rfl
            have asleep := down_of_vacant vacant there
            refine ⟨?_, fun m member => ?_⟩
            · by_contra ending
              rw [Bool.not_eq_false] at ending
              rw [Stage.alive_of_ending ending] at asleep
              cases asleep
            · rw [State.pending_of_asleep (h.workers w o there) asleep] at member
              cases member
  | clearThread joined =>
      cases Option.some.inj performed
      have cleared : Invariant { s with thread := none } :=
        h.clear closed rfl rfl rfl rfl rfl rfl rfl (.inl rfl) (.inl rfl)
      exact cleared.setClose closed (.ofClearing rfl (old.settled rfl) (old.alone rfl)
        (old.cleared rfl) nofun nofun) (fun _ => rfl) nofun fun _ => .inl rfl
  | clearLoop joined =>
      cases Option.some.inj performed
      have cleared : Invariant { s with loop := none } :=
        h.clear closed rfl rfl rfl rfl rfl rfl rfl (.inr rfl) (.inl rfl)
      exact cleared.setClose closed (.ofClearing rfl (old.settled rfl) (old.alone rfl)
        (old.cleared rfl) (fun _ => rfl) nofun) (fun _ => rfl) nofun fun _ => .inl rfl
  | clearQueue joined =>
      have cleared : Invariant { s with queue := none } :=
        h.clear closed rfl rfl rfl rfl rfl rfl rfl (.inl rfl) (.inr rfl)
      cases joined with
      | true =>
          cases Option.some.inj performed
          exact cleared.setClose closed (.ofClearing rfl (old.settled rfl) (old.alone rfl)
            (old.cleared rfl) (fun _ => old.loopCleared rfl) (fun _ => rfl)) (fun _ => rfl) nofun
            fun _ => .inl rfl
      | false =>
          cases Option.some.inj performed
          exact cleared.setClose closed (.ofDone rfl) (fun _ => rfl) nofun
            fun _ => .inr ⟨old.loopCleared rfl, rfl⟩
  | readError =>
      cases Option.some.inj performed
      exact h.setClose closed (.ofClearing rfl (old.settled rfl) (old.alone rfl) (old.cleared rfl)
        (fun _ => old.loopCleared rfl) (fun _ => old.queueCleared rfl)) (fun _ => rfl) nofun
        fun _ => .inl rfl
  | clearError =>
      cases Option.some.inj performed
      have cleared : Invariant { s with error := false } :=
        h.clear closed rfl rfl rfl rfl rfl rfl rfl (.inl rfl) (.inl rfl)
      exact cleared.setClose closed (.ofDone rfl) (fun _ => rfl) nofun
        fun _ => .inr ⟨old.loopCleared rfl, old.queueCleared rfl⟩
  | finished => cases performed
  | failed => cases performed

end Invariant
end

/-! ### Runs -/

section
variable {s t : State} {i j k w : Nat} {c d : Call} {e f : Close} {o p : Worker}

namespace Invariant
variable (h : Invariant s)
include h

/-- A thread begins a `call_tool` while no `close` is under way. -/
theorem addCall (ended : ∀ e ∈ s.closes, e.point.underWay = false) :
    Invariant { s with calls := s.calls ++ [⟨.readThread, none, none, none, none, none⟩] } where
  calls := by
    refine h.calls.spawn (.free rfl nofun nofun nofun nofun nofun) ?_
    intro j d old
    exact ⟨old.lock, old.loop, old.queue, old.thread, old.vacant, old.readyCleared,
      old.loopDropped, old.queueDropped, old.start, old.paired, old.enqueue, old.answered⟩
  workers := by
    refine h.workers.mono fun w o old => ⟨old.thread, old.loop, old.queue, fun unready => ?_,
      old.fed, old.bound, old.scheduled, old.last, old.idle, old.closing, old.sound⟩
    have ⟨ready, i, c, there, following⟩ := old.unready unready
    exact ⟨ready, i, c, spawn_old there, following⟩
  closes k e there := .ofDone (ended e (List.mem_of_getElem? there))
  loop := h.loop
  queue := h.queue
  fresh := h.fresh

/-- A thread begins a `close` while no other one is under way and every call has settled. -/
theorem addClose (ended : ∀ e ∈ s.closes, e.point.underWay = false)
    (settled : ∀ c ∈ s.calls, c.point.settled = true) :
    Invariant { s with
      closes := s.closes ++ [⟨.readThread, none, none, none, false, false⟩] } where
  calls := h.calls.mono fun j d old => ⟨old.lock, old.loop, old.queue, old.thread, old.vacant,
    old.readyCleared, old.loopDropped, old.queueDropped, old.start, old.paired, old.enqueue,
    old.answered⟩
  workers := by
    refine h.workers.mono fun w o old => ⟨old.thread, old.loop, old.queue, old.unready, old.fed,
      old.bound, old.scheduled, old.last, old.idle, fun stop => ?_, old.sound⟩
    have ⟨k, e, there, waiting⟩ := old.closing stop
    exact ⟨k, e, spawn_old there, waiting⟩
  closes := by
    intro k e there
    rcases of_spawn there with old | ⟨number, new⟩
    · exact .ofDone (ended e (List.mem_of_getElem? old))
    · subst new
      refine ⟨fun _ i d called => settled d (List.mem_of_getElem? called),
        fun _ j d other goes => ?_, nofun, nofun, nofun, nofun, nofun, nofun, nofun, nofun⟩
      rcases of_spawn other with old | ⟨same, _⟩
      · rw [ended d (List.mem_of_getElem? old)] at goes
        cases goes
      · exact same.trans number.symm
  loop l read := by
    rcases h.loop l read with alive | ⟨k, e, there, underWay⟩
    · exact .inl alive
    · exact .inr ⟨k, e, spawn_old there, underWay⟩
  queue q read := by
    rcases h.queue q read with alive | ⟨k, e, there, underWay⟩
    · exact .inl alive
    · exact .inr ⟨k, e, spawn_old there, underWay⟩
  fresh := h.fresh

/-- An orderly step. -/
theorem perform {a : Action} (orderly : Orderly s a) (performed : s.perform a = some t) :
    Invariant t := by
  have over_of (all : (s.closes.all fun c => !c.point.underWay) = true) :
      ∀ e ∈ s.closes, e.point.underWay = false := by
    intro e member
    exact (Bool.not_eq_true' _).mp (List.all_eq_true.1 all e member)
  cases a with
  | call =>
      cases Option.some.inj performed
      exact h.addCall (over_of orderly)
  | close =>
      cases Option.some.inj performed
      exact h.addClose (over_of orderly.1) (List.all_eq_true.1 orderly.2)
  | caller i =>
      have ⟨c, found, next⟩ := Option.bind_eq_some_iff.1 performed
      have calm : (s.calls[i]?.all fun c => !c.early s) = true := orderly
      rw [found] at calm
      exact h.caller found ((Bool.not_eq_true' _).mp calm) next
  | closer k =>
      have ⟨c, found, next⟩ := Option.bind_eq_some_iff.1 performed
      exact h.closer found next
  | callback w =>
      have ⟨o, there, next⟩ := Option.bind_eq_some_iff.1 performed
      exact h.callback there next
  | worker w served =>
      have ⟨o, there, next⟩ := Option.bind_eq_some_iff.1 performed
      exact h.work there next

end Invariant
end

/-- In every orderly run one worker at most is alive, the pairs are those of one worker, and no
request is lost. -/
theorem run_single_worker {labels : List Action} {s : State}
    (run : Run (Restrict Orderly Step) .initial labels s) : SingleWorker s :=
  (run.invariant (fun _ _ _ h step => h.perform step.1 step.2) initial_invariant).single

namespace SessionSample

/-- An orderly step. -/
def performOrderly (s : State) (a : Action) : Option State :=
  if Orderly s a then s.perform a else none

theorem performOrderly_sound (s : State) (a : Action) (t : State)
    (performed : performOrderly s a = some t) : Restrict Orderly Step s a t := by
  unfold performOrderly at performed
  split at performed
  · rename_i orderly
    exact ⟨orderly, performed⟩
  · cases performed

/-- A call starts the first worker and is answered. -/
def answered : List Action :=
  .call :: .replicate 16 (.caller 0) ++ .replicate 4 (.worker 0 .result) ++
    .replicate 6 (.caller 0) ++
    [.worker 0 .result, .callback 0, .worker 0 .result, .worker 0 .result, .caller 0]

/-- The worker is stopped, and a second call starts another one. -/
def restarted : List Action :=
  answered ++ .close :: .replicate 5 (.closer 0) ++ .callback 0 ::
    .replicate 4 (.worker 0 .result) ++ .replicate 7 (.closer 0) ++ .call ::
    .replicate 16 (.caller 1)

/-- The second call takes the lock before the worker of the first one has shown its loop. -/
def twoStarts : List Action :=
  [.call, .call] ++ .replicate 16 (.caller 0) ++ .replicate 15 (.caller 1)

/-- After that both workers write the fields. -/
def mixedPair : List Action :=
  twoStarts ++ .replicate 4 (.worker 0 .result) ++ .worker 1 .result :: .replicate 6 (.caller 1)

/-- A second call finds the worker, and enqueues its request behind the stop request. -/
def lostRequest : List Action :=
  answered ++ .call :: .replicate 4 (.caller 1) ++ .close :: .replicate 5 (.closer 0) ++
    [.caller 1, .callback 0, .callback 0] ++ .replicate 4 (.worker 0 .result)

end SessionSample

theorem run_single_worker_restarted :
    ∃ s, Run (Restrict Orderly Step) .initial SessionSample.restarted s ∧ s.alive 0 = false ∧
      s.alive 1 = true ∧ SingleWorker s := by
  have done : ((SessionSample.restarted.foldlM SessionSample.performOrderly .initial).map fun s =>
      (s.alive 0, s.alive 1)) = some (false, true) := by decide +kernel
  have ⟨s, performed, both⟩ := Option.map_eq_some_iff.1 done
  have ⟨first, second⟩ := Prod.mk.inj both
  have run := Run.foldlM SessionSample.performOrderly_sound .refl performed
  exact ⟨s, run, first, second, run_single_worker run⟩

/-- Two workers are alive; a call is given the loop of one worker and the queue of another; a
request waits for a worker that has come to its end. -/
theorem single_worker_broken :
    (∃ s, Run Step .initial SessionSample.twoStarts s ∧ s.alive 0 = true ∧ s.alive 1 = true ∧
      ¬SingleWorker s) ∧
    (∃ s c, Run Step .initial SessionSample.mixedPair s ∧ s.calls[1]? = some c ∧
      c.pair = some (1, 0) ∧ ¬SingleWorker s) ∧
    ∃ s c, Run Step .initial SessionSample.lostRequest s ∧ s.calls[1]? = some c ∧
      c.point = .awaiting ∧ c.pair = some (0, 0) ∧ s.alive 0 = false ∧ c.future = none ∧
      ¬SingleWorker s := by
  refine ⟨?_, ?_, ?_⟩
  · have done : ((SessionSample.twoStarts.foldlM State.perform .initial).map fun s =>
        (s.alive 0, s.alive 1)) = some (true, true) := by decide +kernel
    have ⟨s, performed, both⟩ := Option.map_eq_some_iff.1 done
    have ⟨first, second⟩ := Prod.mk.inj both
    have run : Run Step _ _ s := Run.foldlM (fun _ _ _ h => h) .refl performed
    refine ⟨s, run, first, second, fun single => ?_⟩
    cases single.one 0 1 first second
  · have done : ((SessionSample.mixedPair.foldlM State.perform .initial).bind fun s =>
        s.calls[1]?.map fun c => c.pair) = some (some (1, 0)) := by decide +kernel
    have ⟨s, performed, read⟩ := Option.bind_eq_some_iff.1 done
    have ⟨c, found, pair⟩ := Option.map_eq_some_iff.1 read
    have run : Run Step _ _ s := Run.foldlM (fun _ _ _ h => h) .refl performed
    refine ⟨s, c, run, found, pair, fun single => ?_⟩
    cases single.paired c (List.mem_of_getElem? found) 1 0 pair
  · have done : ((SessionSample.lostRequest.foldlM State.perform .initial).bind fun s =>
        s.calls[1]?.map fun c => ((c.point, c.pair), c.future,
          s.alive 0, s.workers[0]?.any (·.stage.ended))) =
            some ((.awaiting, some (0, 0)), none, false, true) := by decide +kernel
    have ⟨s, performed, read⟩ := Option.bind_eq_some_iff.1 done
    have ⟨c, found, all⟩ := Option.map_eq_some_iff.1 read
    have ⟨sent, rest⟩ := Prod.mk.inj all
    have ⟨point, pair⟩ := Prod.mk.inj sent
    have ⟨future, ends⟩ := Prod.mk.inj rest
    have ⟨down, ended⟩ := Prod.mk.inj ends
    have run : Run Step _ _ s := Run.foldlM (fun _ _ _ h => h) .refl performed
    refine ⟨s, c, run, found, point, pair, down, future, fun single => ?_⟩
    exact single.answered c (List.mem_of_getElem? found) 0 0 point pair ended future

end WaterCare.Ai.SessionManager
