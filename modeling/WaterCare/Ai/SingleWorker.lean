import WaterCare.Ai.SessionManager

/-!
In the orderly runs of the session manager the fields describe the one worker that is alive. A call
that looks for its worker keeps every worker alive, a call that starts one holds the lock and finds
none alive, and a stop request is the last one that its worker is given.
-/

namespace WaterCare.Ai.SessionManager
open Machine Pool

/-! ### Points and stages -/

namespace Point

/-- The call holds the lock. -/
def holds : Point → Bool
  | rereadThread | rereadLoop | rereadQueue | recheck | clearReady | dropLoop | dropQueue
  | dropError | writeThread | start | release => true
  | _ => false

/-- The call has read `_thread` under the lock and decides. -/
def rechecking : Point → Bool
  | rereadLoop | rereadQueue | recheck => true
  | _ => false

/-- The call is about to start a worker. -/
def starting : Point → Bool
  | clearReady | dropLoop | dropQueue | dropError | writeThread | start => true
  | _ => false

def readyCleared : Point → Bool
  | dropLoop | dropQueue | dropError | writeThread | start => true
  | _ => false

def loopDropped : Point → Bool
  | dropQueue | dropError | writeThread | start => true
  | _ => false

def queueDropped : Point → Bool
  | dropError | writeThread | start => true
  | _ => false

/-- The call has seen to a worker and goes on to wait until it is ready. -/
def following : Point → Bool
  | release | wait => true
  | _ => false

variable {p : Point}

theorem settled_of_holds (holds : p.holds = true) : p.settled = false := by
  cases p <;> first | rfl | cases holds

theorem holds_of_rechecking (h : p.rechecking = true) : p.holds = true := by
  cases p <;> first | rfl | cases h

theorem holds_of_starting (h : p.starting = true) : p.holds = true := by
  cases p <;> first | rfl | cases h

theorem starting_of_readyCleared (h : p.readyCleared = true) : p.starting = true := by
  cases p <;> first | rfl | cases h

theorem starting_of_loopDropped (h : p.loopDropped = true) : p.starting = true := by
  cases p <;> first | rfl | cases h

theorem starting_of_queueDropped (h : p.queueDropped = true) : p.starting = true := by
  cases p <;> first | rfl | cases h

theorem settled_of_following (h : p.following = true) : p.settled = false := by
  cases p <;> first | rfl | cases h

end Point

namespace Stage

/-- `_loop` shows the worker. -/
def loopShown : Stage → Bool
  | created | writeLoop => false
  | _ => true

/-- `_queue` shows the worker. -/
def queueShown : Stage → Bool
  | created | writeLoop | writeQueue => false
  | _ => true

/-- The worker is alive and has not set `_ready`. -/
def unready : Stage → Bool
  | writeLoop | writeQueue | clearError | setReady => true
  | _ => false

/-- The queue that the worker takes its requests from. -/
def queue? : Stage → Option Nat
  | getting q | serving q _ => some q
  | _ => none

/-- The request that the worker has taken. -/
def taken : Stage → List Request
  | serving _ i => [.tool i]
  | _ => []

/-- The worker has taken a stop request, and its thread is alive. -/
def ending : Stage → Bool
  | stopping _ | returned | closed => true
  | _ => false

/-- The worker takes no more requests, or none yet. -/
def idle : Stage → Bool
  | created | stopping _ | returned | closed | dead => true
  | _ => false

variable {g : Stage}

theorem alive_of_unready (h : g.unready = true) : g.alive = true := by
  cases g <;> first | rfl | cases h

theorem alive_of_ending (h : g.ending = true) : g.alive = true := by
  cases g <;> first | rfl | cases h

theorem alive_of_runs (h : g.runs = true) : g.alive = true := by
  cases g <;> first | rfl | cases h

theorem shown_of_ready (alive : g.alive = true) (ready : g.unready = false) :
    g.loopShown = true ∧ g.queueShown = true := by
  cases g <;> simp [Stage.alive, unready, loopShown, queueShown] at *

theorem open_of_alive (alive : g.alive = true) (going : g.ending = false) : g.isOpen = true := by
  cases g <;> simp [Stage.alive, ending, isOpen] at *

theorem not_idle (alive : g.alive = true) (going : g.ending = false) : g.idle = false := by
  cases g <;> simp [Stage.alive, ending, idle] at *

theorem idle_of_asleep (asleep : g.alive = false) : g.idle = true := by
  cases g <;> first | rfl | cases asleep

end Stage

namespace ClosePoint

def threadRead : ClosePoint → Bool
  | readLoop | readQueue | check | enqueue | awaiting | join => true
  | _ => false

def loopRead : ClosePoint → Bool
  | readQueue | check | enqueue | awaiting | join => true
  | _ => false

def queueRead : ClosePoint → Bool
  | check | enqueue | awaiting | join => true
  | _ => false

/-- The close has found a worker that is alive. -/
def found : ClosePoint → Bool
  | enqueue | awaiting | join => true
  | _ => false

/-- The close has enqueued its stop request and waits for the end of the worker. -/
def waiting : ClosePoint → Bool
  | awaiting | join => true
  | _ => false

/-- The close clears the fields. -/
def clearing : ClosePoint → Bool
  | clearThread _ | clearLoop _ | clearQueue _ | readError | clearError => true
  | _ => false

def loopCleared : ClosePoint → Bool
  | clearQueue _ | readError | clearError => true
  | _ => false

def queueCleared : ClosePoint → Bool
  | readError | clearError => true
  | _ => false

theorem eq_of_over {p : ClosePoint} (h : p.underWay = false) : p = finished ∨ p = failed := by
  cases p <;> simp [underWay] at *

variable {p : ClosePoint}

theorem underWay_of_waiting (h : p.waiting = true) : p.underWay = true := by
  cases p <;> first | rfl | cases h

theorem underWay_of_clearing (h : p.clearing = true) : p.underWay = true := by
  cases p <;> first | rfl | cases h

theorem clearing_of_loopCleared (h : p.loopCleared = true) : p.clearing = true := by
  cases p <;> first | rfl | cases h

theorem clearing_of_queueCleared (h : p.queueCleared = true) : p.clearing = true := by
  cases p <;> first | rfl | cases h

theorem threadRead_of_loopRead (h : p.loopRead = true) : p.threadRead = true := by
  cases p <;> first | rfl | cases h

theorem threadRead_of_queueRead (h : p.queueRead = true) : p.threadRead = true := by
  cases p <;> first | rfl | cases h

theorem threadRead_of_found (h : p.found = true) : p.threadRead = true := by
  cases p <;> first | rfl | cases h

theorem threadRead_of_clearing (h : p.clearing = true) : p.threadRead = false := by
  cases p <;> first | rfl | cases h

end ClosePoint

/-! ### The invariant -/

/-- The requests that a worker has taken, has in its queue or is yet to be given, in their order. -/
def State.pending (s : State) (w : Nat) (o : Worker) : List Request :=
  o.stage.taken ++ s.items w ++ (s.scheduled w).map (·.2)

/-- A `close` is under way. -/
def State.closing (s : State) : Prop :=
  ∃ k : Nat, ∃ c : Close, s.closes[k]? = some c ∧ c.point.underWay = true

structure CallInvariant (s : State) (i : Nat) (c : Call) : Prop where
  lock : c.point.holds = true → s.lock = some i
  loop : c.point.settled = false → ∀ l, c.loop = some l → s.alive l = true
  queue : c.point.settled = false → ∀ q, c.queue = some q → s.alive q = true
  thread : c.point.rechecking = true → c.thread = s.thread
  vacant : c.point.starting = true → ∀ w, s.alive w = false
  readyCleared : c.point.readyCleared = true → s.ready = false
  loopDropped : c.point.loopDropped = true → s.loop = none
  queueDropped : c.point.queueDropped = true → s.queue = none
  start : c.point = .start →
    ∃ w, c.thread = some w ∧ s.thread = some w ∧ w < s.workers.length
  paired : ∀ l q, c.pair = some (l, q) → l = q
  enqueue : c.point = .enqueue → ∃ w, c.pair = some (w, w) ∧ s.alive w = true
  answered : c.point = .awaiting → c.future = none →
    ∃ w o, c.pair = some (w, w) ∧ s.workers[w]? = some o ∧ .tool i ∈ s.pending w o

structure WorkerInvariant (s : State) (w : Nat) (o : Worker) : Prop where
  thread : o.stage.alive = true → s.thread = some w
  loop : o.stage.alive = true → s.loop = if o.stage.loopShown then some w else none
  queue : o.stage.alive = true → s.queue = if o.stage.queueShown then some w else none
  /-- The call that has started the worker, or another one, waits until it is ready. -/
  unready : o.stage.unready = true → s.ready = false ∧
    ∃ i : Nat, ∃ c : Call, s.calls[i]? = some c ∧ c.point.following = true
  fed : ∀ q, o.stage.queue? = some q → q = w
  bound : s.bound w = none ∨ s.bound w = some w
  scheduled : ∀ p ∈ s.scheduled w, p.1 = w
  last : ∀ before k after, s.pending w o = before ++ .stop k :: after → after = []
  idle : o.stage.idle = true → s.pending w o = []
  closing : (o.stage.ending = true ∨ ∃ k, .stop k ∈ s.pending w o) →
    ∃ k : Nat, ∃ c : Close, s.closes[k]? = some c ∧ c.point.waiting = true
  sound : o.stage ≠ .writeError

structure CloseInvariant (s : State) (k : Nat) (c : Close) : Prop where
  settled : c.point.underWay = true →
    ∀ (i : Nat) (d : Call), s.calls[i]? = some d → d.point.settled = true
  alone : c.point.underWay = true →
    ∀ (j : Nat) (d : Close), s.closes[j]? = some d → d.point.underWay = true → j = k
  thread : c.point.threadRead = true → c.thread = s.thread
  loop : c.point.loopRead = true → c.loop = s.loop
  queue : c.point.queueRead = true → c.queue = s.queue
  found : c.point.found = true → ∃ w, c.thread = some w ∧ c.loop = some w ∧ c.queue = some w
  enqueue : c.point = .enqueue → ∀ w, c.thread = some w → s.alive w = true
  cleared : c.point.clearing = true → ∀ w, s.alive w = false
  loopCleared : c.point.loopCleared = true → s.loop = none
  queueCleared : c.point.queueCleared = true → s.queue = none

structure Invariant (s : State) : Prop where
  calls : Each (CallInvariant s) s.calls
  workers : Each (WorkerInvariant s) s.workers
  closes : Each (CloseInvariant s) s.closes
  loop : ∀ l, s.loop = some l → s.alive l = true ∨ s.closing
  queue : ∀ q, s.queue = some q → s.alive q = true ∨ s.closing
  fresh : ∀ w, s.workers.length ≤ w → s.items w = [] ∧ s.scheduled w = [] ∧ s.bound w = none

section
variable {s t : State} {i j k w : Nat} {c d : Call} {e f : Close} {o p : Worker}

theorem alive_of_getElem? (found : s.workers[w]? = some o) : s.alive w = o.stage.alive := by
  unfold State.alive
  rw [found]
  rfl

theorem exists_of_alive (alive : s.alive w = true) :
    ∃ o, s.workers[w]? = some o ∧ o.stage.alive = true := by
  unfold State.alive at alive
  cases found : s.workers[w]? with
  | none =>
      rw [found] at alive
      cases alive
  | some o =>
      rw [found] at alive
      exact ⟨o, rfl, alive⟩

theorem usable_eq_some {thread loop queue : Option Nat} {pair : Nat × Nat}
    (usable : s.usable thread loop queue = some pair) :
    ∃ w, thread = some w ∧ loop = some pair.1 ∧ queue = some pair.2 ∧ s.alive w = true := by
  unfold State.usable at usable
  split at usable
  · split at usable
    · cases Option.some.inj usable
      exact ⟨_, rfl, rfl, rfl, ‹_›⟩
    · cases usable
  · cases usable

theorem usable_of_alive {l q : Nat} (alive : s.alive w = true) :
    s.usable (some w) (some l) (some q) = some (l, q) := by
  unfold State.usable
  exact if_pos alive

namespace Invariant
variable (h : Invariant s)
include h

/-- The worker that is alive is the one that `_thread` shows. -/
theorem thread_of_alive (alive : s.alive w = true) : s.thread = some w := by
  have ⟨o, found, up⟩ := exists_of_alive alive
  exact (h.workers w o found).thread up

theorem one_alive {v : Nat} (first : s.alive v = true) (second : s.alive w = true) : v = w :=
  Option.some.inj ((h.thread_of_alive first).symm.trans (h.thread_of_alive second))

/-- The other workers are not alive. -/
theorem asleep_of_ne {v : Nat} (alive : s.alive w = true) (other : v ≠ w)
    (found : s.workers[v]? = some p) : p.stage.alive = false := by
  by_contra up
  rw [Bool.not_eq_false] at up
  exact other (h.one_alive ((alive_of_getElem? found).trans up) alive)

/-- While a call has not settled, no `close` is under way. -/
theorem not_closing (found : s.calls[i]? = some c) (unsettled : c.point.settled = false) :
    ¬s.closing := by
  intro ⟨k, e, there, underWay⟩
  have settled := (h.closes k e there).settled underWay i c found
  rw [unsettled] at settled
  cases settled

theorem closed_of_unsettled (found : s.calls[i]? = some c) (unsettled : c.point.settled = false)
    (there : s.closes[k]? = some e) : e.point.underWay = false := by
  by_contra underWay
  rw [Bool.not_eq_false] at underWay
  exact h.not_closing found unsettled ⟨k, e, there, underWay⟩

/-- While no `close` waits for the end of a worker, none has been told to stop. -/
theorem going_of_closes
    (closes : ∀ (k : Nat) (e : Close), s.closes[k]? = some e → e.point.waiting = false)
    (there : s.workers[w]? = some o) : o.stage.ending = false ∧ ∀ k, .stop k ∉ s.pending w o := by
  have not (stop : o.stage.ending = true ∨ ∃ k, .stop k ∈ s.pending w o) : False := by
    have ⟨k, e, close, waiting⟩ := (h.workers w o there).closing stop
    rw [closes k e close] at waiting
    cases waiting
  refine ⟨?_, fun k stop => not (.inr ⟨k, stop⟩)⟩
  by_contra ending
  rw [Bool.not_eq_false] at ending
  exact not (.inl ending)

/-- While a call has not settled, no worker has been told to stop. -/
theorem going (found : s.calls[i]? = some c) (unsettled : c.point.settled = false)
    (there : s.workers[w]? = some o) : o.stage.ending = false ∧ ∀ k, .stop k ∉ s.pending w o := by
  refine h.going_of_closes (fun k e close => ?_) there
  by_contra waiting
  rw [Bool.not_eq_false] at waiting
  have done := h.closed_of_unsettled found unsettled close
  rw [ClosePoint.underWay_of_waiting waiting] at done
  cases done

/-- The call that holds the lock is the only one. -/
theorem outside_of_ne (found : s.calls[i]? = some c) (holds : c.point.holds = true) (other : j ≠ i)
    (there : s.calls[j]? = some d) : d.point.holds = false := by
  by_contra inside
  rw [Bool.not_eq_false] at inside
  have first := (h.calls i c found).lock holds
  have second := (h.calls j d there).lock inside
  exact other (Option.some.inj (second.symm.trans first))

/-- A worker that is alive while no call waits for it has shown its loop and its queue. -/
theorem shown_of_settled
    (settled : ∀ (i : Nat) (c : Call), s.calls[i]? = some c → c.point.settled = true)
    (alive : s.alive w = true) : s.loop = some w ∧ s.queue = some w := by
  have ⟨o, found, up⟩ := exists_of_alive alive
  have ready : o.stage.unready = false := by
    by_contra unready
    rw [Bool.not_eq_false] at unready
    have ⟨_, i, c, there, following⟩ := (h.workers w o found).unready unready
    have unsettled := Point.settled_of_following following
    rw [settled i c there] at unsettled
    cases unsettled
  have ⟨loop, queue⟩ := Stage.shown_of_ready up ready
  have first := (h.workers w o found).loop up
  have second := (h.workers w o found).queue up
  rw [if_pos loop] at first
  rw [if_pos queue] at second
  exact ⟨first, second⟩

end Invariant

theorem initial_invariant : Invariant .initial where
  calls := each_nil
  workers := each_nil
  closes := each_nil
  loop := by
    intro l loop
    cases loop
  queue := by
    intro q queue
    cases queue
  fresh _ _ := ⟨rfl, rfl, rfl⟩

theorem Invariant.single (h : Invariant s) : SingleWorker s where
  one _ _ := h.one_alive
  paired c member l q pair := by
    have ⟨i, found⟩ := List.mem_iff_getElem?.1 member
    exact (h.calls i c found).paired l q pair
  answered c member l q awaiting pair ended := by
    intro unset
    have ⟨i, found⟩ := List.mem_iff_getElem?.1 member
    have ⟨w, o, same, there, pending⟩ := (h.calls i c found).answered awaiting unset
    cases (Option.some.inj (pair.symm.trans same))
    rw [there] at ended
    have idle : o.stage.idle = true := by
      have sound := (h.workers _ o there).sound
      cases stage : o.stage <;> simp_all [Stage.ended, Stage.idle]
    rw [(h.workers _ o there).idle idle] at pending
    cases pending

end

/-! ### Steps of a call -/

section
variable {s t : State} {i j k w : Nat} {c d : Call} {e f : Close} {o p : Worker}

/-- A step of another thread that does not disturb the holder of the lock, kills no worker that the
call may read and drops no request. -/
theorem CallInvariant.keep (h : CallInvariant s j c)
    (lock : c.point.holds = true → t.lock = s.lock ∧ t.thread = s.thread)
    (vacant : c.point.starting = false)
    (alive : c.point.settled = false → ∀ w, s.alive w = true → t.alive w = true)
    (pending : c.future = none → ∀ w o, s.workers[w]? = some o → .tool j ∈ s.pending w o →
      ∃ o', t.workers[w]? = some o' ∧ .tool j ∈ t.pending w o') : CallInvariant t j c := by
  have calm {q : Prop} (starting : c.point.starting = true) : q := by
    rw [vacant] at starting
    cases starting
  refine ⟨?_, ?_, ?_, ?_, calm, fun h => calm (Point.starting_of_readyCleared h),
    fun h => calm (Point.starting_of_loopDropped h),
    fun h => calm (Point.starting_of_queueDropped h), fun h => calm (by rw [h]; rfl), h.paired,
    ?_, ?_⟩
  · intro holds
    exact (lock holds).1.trans (h.lock holds)
  · intro unsettled l read
    exact alive unsettled l (h.loop unsettled l read)
  · intro unsettled q read
    exact alive unsettled q (h.queue unsettled q read)
  · intro rechecking
    exact (h.thread rechecking).trans (lock (Point.holds_of_rechecking rechecking)).2.symm
  · intro point
    have ⟨w, pair, up⟩ := h.enqueue point
    exact ⟨w, pair, alive (by rw [point]; rfl) w up⟩
  · intro point unset
    have ⟨w, o, pair, there, member⟩ := h.answered point unset
    have ⟨o', found, still⟩ := pending unset w o there member
    exact ⟨w, o', pair, found, still⟩

/-- A call that does not hold the lock. -/
theorem CallInvariant.free (outside : d.point.holds = false)
    (loop : d.point.settled = false → ∀ l, d.loop = some l → s.alive l = true)
    (queue : d.point.settled = false → ∀ q, d.queue = some q → s.alive q = true)
    (paired : ∀ l q, d.pair = some (l, q) → l = q)
    (enqueue : d.point = .enqueue → ∃ w, d.pair = some (w, w) ∧ s.alive w = true)
    (answered : d.point = .awaiting → d.future = none →
      ∃ w o, d.pair = some (w, w) ∧ s.workers[w]? = some o ∧ .tool i ∈ s.pending w o) :
    CallInvariant s i d := by
  have out {q : Prop} (holds : d.point.holds = true) : q := by
    rw [outside] at holds
    cases holds
  have calm {q : Prop} (starting : d.point.starting = true) : q :=
    out (Point.holds_of_starting starting)
  exact ⟨out, loop, queue, fun h => out (Point.holds_of_rechecking h), calm,
    fun h => calm (Point.starting_of_readyCleared h),
    fun h => calm (Point.starting_of_loopDropped h),
    fun h => calm (Point.starting_of_queueDropped h), fun h => calm (by rw [h]; rfl), paired,
    enqueue, answered⟩

theorem WorkerInvariant.setCall (h : WorkerInvariant s w o) (found : s.calls[i]? = some c)
    (following : c.point.following = true → d.point.following = true ∨ s.ready = true) :
    WorkerInvariant (s.setCall i d) w o := by
  refine ⟨h.thread, h.loop, h.queue, ?_, h.fed, h.bound, h.scheduled, h.last, h.idle, h.closing,
    h.sound⟩
  intro unready
  have ⟨ready, j, a, there, waits⟩ := h.unready unready
  refine ⟨ready, ?_⟩
  by_cases own : j = i
  · subst own
    cases Option.some.inj (there.symm.trans found)
    rcases following waits with still | now
    · exact ⟨j, d, set_self found, still⟩
    · rw [ready] at now
      cases now
  · exact ⟨j, a, (set_other own).trans there, waits⟩

/-- A call that is no longer under way has no more to keep. -/
theorem CloseInvariant.ofDone (done : e.point.underWay = false) : CloseInvariant s k e := by
  rcases ClosePoint.eq_of_over done with point | point <;> constructor <;> rw [point] <;>
    intro h <;> cases h

theorem CloseInvariant.setCall (h : CloseInvariant s k e) (found : s.calls[i]? = some c)
    (settled : d.point.settled = false → c.point.settled = false) :
    CloseInvariant (s.setCall i d) k e := by
  refine ⟨?_, h.alone, h.thread, h.loop, h.queue, h.found, h.enqueue, h.cleared, h.loopCleared,
    h.queueCleared⟩
  intro underWay j a there
  rcases of_set there with ⟨rfl, rfl⟩ | ⟨-, old⟩
  · by_contra unsettled
    rw [Bool.not_eq_true] at unsettled
    have before := h.settled underWay j c found
    rw [settled unsettled] at before
    cases before
  · exact h.settled underWay j a old

/-- A step of a call that touches nothing but its own variables. -/
theorem Invariant.setCall (h : Invariant s) (found : s.calls[i]? = some c)
    (own : CallInvariant s i d) (settled : d.point.settled = false → c.point.settled = false)
    (following : c.point.following = true → d.point.following = true ∨ s.ready = true) :
    Invariant (s.setCall i d) where
  calls := by
    refine h.calls.set ⟨own.lock, own.loop, own.queue, own.thread, own.vacant, own.readyCleared,
      own.loopDropped, own.queueDropped, own.start, own.paired, own.enqueue, own.answered⟩ ?_
    intro j a _ old
    exact ⟨old.lock, old.loop, old.queue, old.thread, old.vacant, old.readyCleared,
      old.loopDropped, old.queueDropped, old.start, old.paired, old.enqueue, old.answered⟩
  workers := h.workers.mono fun _ _ old => old.setCall found following
  closes := h.closes.mono fun _ _ old => old.setCall found settled
  loop := h.loop
  queue := h.queue
  fresh := h.fresh

/-- What a call reads of `_loop` and `_queue` before it has settled is alive. -/
theorem Invariant.alive_of_loop (h : Invariant s) (found : s.calls[i]? = some c)
    (unsettled : c.point.settled = false) {l : Nat} (read : s.loop = some l) :
    s.alive l = true := by
  rcases h.loop l read with alive | closing
  · exact alive
  · exact absurd closing (h.not_closing found unsettled)

theorem Invariant.alive_of_queue (h : Invariant s) (found : s.calls[i]? = some c)
    (unsettled : c.point.settled = false) {q : Nat} (read : s.queue = some q) :
    s.alive q = true := by
  rcases h.queue q read with alive | closing
  · exact alive
  · exact absurd closing (h.not_closing found unsettled)

/-- The pair that a call finds usable is that of the worker that is alive. -/
theorem Invariant.pair_of_usable (h : Invariant s) (found : s.calls[i]? = some c)
    (unsettled : c.point.settled = false) {pair : Nat × Nat}
    (usable : s.usable c.thread c.loop c.queue = some pair) :
    ∃ w, pair = (w, w) ∧ s.alive w = true := by
  have ⟨t, _, loop, queue, alive⟩ := usable_eq_some usable
  have first := h.one_alive ((h.calls i c found).loop unsettled _ loop) alive
  have second := h.one_alive ((h.calls i c found).queue unsettled _ queue) alive
  exact ⟨t, Prod.ext first second, alive⟩

/-- The call has found its worker. -/
theorem Invariant.found_worker (h : Invariant s) (found : s.calls[i]? = some c)
    (unsettled : c.point.settled = false) {pair : Nat × Nat}
    (usable : s.usable c.thread c.loop c.queue = some pair)
    (calm : c.point.following = false) :
    Invariant (s.setCall i { c with point := .enqueue, pair := some pair }) := by
  have ⟨w, same, alive⟩ := h.pair_of_usable found unsettled usable
  subst same
  have old := h.calls i c found
  refine h.setCall found (.free rfl (fun _ => old.loop unsettled) (fun _ => old.queue unsettled)
    ?_ ?_ nofun) (fun _ => unsettled) (fun following => ?_)
  · intro l q pair
    cases Option.some.inj pair
    rfl
  · intro _
    exact ⟨w, rfl, alive⟩
  · rw [calm] at following
    cases following

/-- A step of a call outside the lock that reads at most `_loop` or `_queue`. -/
theorem Invariant.setFree (h : Invariant s) (found : s.calls[i]? = some c)
    (unsettled : c.point.settled = false) (outside : d.point.holds = false)
    (loop : d.loop = c.loop ∨ d.loop = s.loop) (queue : d.queue = c.queue ∨ d.queue = s.queue)
    (pair : d.pair = c.pair) (enqueue : d.point ≠ .enqueue) (awaiting : d.point ≠ .awaiting)
    (following : c.point.following = true → d.point.following = true ∨ s.ready = true) :
    Invariant (s.setCall i d) := by
  have old := h.calls i c found
  refine h.setCall found (.free outside ?_ ?_ ?_ (absurd · enqueue) (absurd · awaiting))
    (fun _ => unsettled) following
  · intro _ l read
    rcases loop with same | now
    · exact old.loop unsettled l (same.symm.trans read)
    · exact h.alive_of_loop found unsettled (now.symm.trans read)
  · intro _ q read
    rcases queue with same | now
    · exact old.queue unsettled q (same.symm.trans read)
    · exact h.alive_of_queue found unsettled (now.symm.trans read)
  · rw [pair]
    exact old.paired

end

section
variable {s t : State} {i j k w : Nat} {c d : Call} {e f : Close} {o p : Worker}

/-- A worker that is not alive keeps its invariant while its requests are left alone. -/
theorem WorkerInvariant.asleep (h : WorkerInvariant s w o) (down : o.stage.alive = false)
    (bound : t.bound w = s.bound w) (items : t.items w = s.items w)
    (scheduled : t.scheduled w = s.scheduled w) : WorkerInvariant t w o := by
  have still : t.pending w o = s.pending w o := by
    unfold State.pending
    rw [items, scheduled]
  have none_left : t.pending w o = [] := still.trans (h.idle (Stage.idle_of_asleep down))
  have out {q : Prop} (up : o.stage.alive = true) : q := by
    rw [down] at up
    cases up
  refine ⟨out, out, out, fun h => out (Stage.alive_of_unready h), h.fed, ?_, ?_, ?_,
    fun _ => none_left, ?_, h.sound⟩
  · rw [bound]
    exact h.bound
  · rw [scheduled]
    exact h.scheduled
  · rw [still]
    exact h.last
  · intro stop
    rcases stop with ending | ⟨k, member⟩
    · exact out (Stage.alive_of_ending ending)
    · rw [none_left] at member
      cases member

namespace Invariant
variable (h : Invariant s)
include h

/-- A step of a call that holds the lock and writes no field. -/
theorem setHeld (found : s.calls[i]? = some c) (unsettled : c.point.settled = false)
    (lock : s.lock = some i) (inside : d.point.holds = true)
    (loop : d.loop = c.loop ∨ d.loop = s.loop) (queue : d.queue = c.queue ∨ d.queue = s.queue)
    (thread : d.point.rechecking = true → d.thread = s.thread) (pair : d.pair = c.pair)
    (vacant : d.point.starting = true → ∀ w, s.alive w = false)
    (readyCleared : d.point.readyCleared = true → s.ready = false)
    (loopDropped : d.point.loopDropped = true → s.loop = none)
    (queueDropped : d.point.queueDropped = true → s.queue = none)
    (start : d.point = .start → ∃ w, d.thread = some w ∧ s.thread = some w ∧ w < s.workers.length)
    (calm : c.point.following = false) : Invariant (s.setCall i d) := by
  have old := h.calls i c found
  have own : CallInvariant s i d := by
    refine ⟨fun _ => lock, ?_, ?_, thread, vacant, readyCleared, loopDropped,
      queueDropped, start, ?_, ?_, ?_⟩
    · intro _ l read
      rcases loop with same | now
      · exact old.loop unsettled l (same.symm.trans read)
      · exact h.alive_of_loop found unsettled (now.symm.trans read)
    · intro _ q read
      rcases queue with same | now
      · exact old.queue unsettled q (same.symm.trans read)
      · exact h.alive_of_queue found unsettled (now.symm.trans read)
    · rw [pair]
      exact old.paired
    · intro point
      rw [point] at inside
      cases inside
    · intro point
      rw [point] at inside
      cases inside
  refine h.setCall found own (fun _ => unsettled) fun following => ?_
  rw [calm] at following
  cases following

/-- The lock changes hands while no call is inside. -/
theorem setLock (free : ∀ (j : Nat) (d : Call), s.calls[j]? = some d → d.point.holds = false)
    (lock : Option Nat) : Invariant { s with lock := lock } where
  calls j d there := by
    have old := h.calls j d there
    refine ⟨fun holds => ?_, old.loop, old.queue, old.thread, old.vacant, old.readyCleared,
      old.loopDropped, old.queueDropped, old.start, old.paired, old.enqueue, old.answered⟩
    rw [free j d there] at holds
    cases holds
  workers := h.workers.mono fun _ _ old => ⟨old.thread, old.loop, old.queue, old.unready, old.fed,
    old.bound, old.scheduled, old.last, old.idle, old.closing, old.sound⟩
  closes := h.closes.mono fun _ _ old => ⟨old.settled, old.alone, old.thread, old.loop, old.queue,
    old.found, old.enqueue, old.cleared, old.loopCleared, old.queueCleared⟩
  loop := h.loop
  queue := h.queue
  fresh := h.fresh

/-- The caller that is about to start a worker writes fields other than `_thread`. -/
theorem prepare (found : s.calls[i]? = some c) (starting : c.point.starting = true)
    (thread : t.thread = s.thread) (lock : t.lock = s.lock) (workers : t.workers = s.workers)
    (scheduled : t.scheduled = s.scheduled) (items : t.items = s.items) (bound : t.bound = s.bound)
    (calls : t.calls = s.calls) (closes : t.closes = s.closes)
    (ready : t.ready = s.ready ∨ t.ready = false) (loop : t.loop = s.loop ∨ t.loop = none)
    (queue : t.queue = s.queue ∨ t.queue = none) : Invariant t := by
  have vacant := (h.calls i c found).vacant starting
  have unsettled := Point.settled_of_holds (Point.holds_of_starting starting)
  have alive (w : Nat) : t.alive w = s.alive w := by
    unfold State.alive
    rw [workers]
  have pending (w : Nat) (o : Worker) : t.pending w o = s.pending w o := by
    unfold State.pending
    rw [items, scheduled]
  constructor
  · rw [calls]
    refine h.calls.mono fun j d old => ⟨?_, ?_, ?_, ?_, ?_, ?_, ?_, ?_, ?_, old.paired, ?_, ?_⟩
    · exact fun holds => lock.trans (old.lock holds)
    · exact fun open' l read => (alive l).trans (old.loop open' l read)
    · exact fun open' q read => (alive q).trans (old.queue open' q read)
    · exact fun rechecking => (old.thread rechecking).trans thread.symm
    · exact fun begins w => (alive w).trans (old.vacant begins w)
    · intro cleared
      rcases ready with same | off
      · exact same.trans (old.readyCleared cleared)
      · exact off
    · intro dropped
      rcases loop with same | off
      · exact same.trans (old.loopDropped dropped)
      · exact off
    · intro dropped
      rcases queue with same | off
      · exact same.trans (old.queueDropped dropped)
      · exact off
    · rw [thread, workers]
      exact old.start
    · intro point
      have ⟨w, pair, up⟩ := old.enqueue point
      exact ⟨w, pair, (alive w).trans up⟩
    · intro point unset
      have ⟨w, o, pair, there, member⟩ := old.answered point unset
      refine ⟨w, o, pair, ?_, ?_⟩
      · rw [workers]
        exact there
      · rw [pending]
        exact member
  · rw [workers]
    intro w o there
    refine (h.workers w o there).asleep ?_ ?_ ?_ ?_
    · exact (alive_of_getElem? there).symm.trans (vacant w)
    · rw [bound]
    · rw [items]
    · rw [scheduled]
  · rw [closes]
    exact fun k e there => .ofDone (h.closed_of_unsettled found unsettled there)
  · intro l read
    rcases loop with same | off
    · exact .inl ((alive l).trans (h.alive_of_loop found unsettled (same.symm.trans read)))
    · rw [off] at read
      cases read
  · intro q read
    rcases queue with same | off
    · exact .inl ((alive q).trans (h.alive_of_queue found unsettled (same.symm.trans read)))
    · rw [off] at read
      cases read
  · rw [workers, scheduled, items, bound]
    exact h.fresh

end Invariant
end

section
variable {s t : State} {i j k w : Nat} {c d : Call} {e f : Close} {o p : Worker}

/-- A worker that is not alive, in a state in which no worker is. -/
theorem down_of_vacant (vacant : ∀ w, s.alive w = false) (there : s.workers[w]? = some o) :
    o.stage.alive = false :=
  (alive_of_getElem? there).symm.trans (vacant w)

theorem State.pending_of_asleep (h : WorkerInvariant s w o) (down : o.stage.alive = false) :
    s.pending w o = [] := h.idle (Stage.idle_of_asleep down)

theorem State.pending_eq_nil {g : Stage} {connected : Bool} (empty : s.pending w o = [])
    (taken : g.taken = []) : s.pending w ⟨g, connected⟩ = [] := by
  unfold State.pending at empty ⊢
  rw [List.append_eq_nil_iff, List.append_eq_nil_iff] at empty
  dsimp only
  rw [taken, empty.1.2, empty.2]
  rfl

namespace Invariant
variable (h : Invariant s)
include h

/-- The caller makes a thread object and writes it to `_thread`. -/
theorem create (found : s.calls[i]? = some c) (point : c.point = .writeThread) :
    Invariant { s with
      thread := some s.workers.length
      workers := s.workers ++ [⟨.created, false⟩] } := by
  have starting : c.point.starting = true := by
    rw [point]
    rfl
  have holds := Point.holds_of_starting starting
  have unsettled := Point.settled_of_holds holds
  have vacant := (h.calls i c found).vacant starting
  have none_alive {q : Prop} {w : Nat} (up : s.alive w = true) : q := by
    rw [vacant w] at up
    cases up
  have still (w : Nat) : State.alive { s with
      thread := some s.workers.length
      workers := s.workers ++ [⟨.created, false⟩] } w = false := by
    by_contra up
    rw [Bool.not_eq_false] at up
    have ⟨o, there, awake⟩ := exists_of_alive up
    rcases of_spawn there with old | ⟨_, new⟩
    · rw [down_of_vacant vacant old] at awake
      cases awake
    · rw [new] at awake
      cases awake
  constructor
  · intro j d there
    have old := h.calls j d there
    have calm : d.point.rechecking = false ∧ d.point ≠ .start := by
      by_cases own : j = i
      · subst own
        cases Option.some.inj (there.symm.trans found)
        rw [point]
        exact ⟨rfl, nofun⟩
      · have outside := h.outside_of_ne found holds own there
        refine ⟨?_, fun start => ?_⟩
        · by_contra rechecking
          rw [Bool.not_eq_false] at rechecking
          rw [Point.holds_of_rechecking rechecking] at outside
          cases outside
        · rw [start] at outside
          cases outside
    refine ⟨old.lock, fun free l read => none_alive (old.loop free l read),
      fun free q read => none_alive (old.queue free q read), fun rechecking => ?_,
      fun _ => still, old.readyCleared, old.loopDropped, old.queueDropped, fun start => ?_,
      old.paired, fun point => ?_, fun point unset => ?_⟩
    · rw [calm.1] at rechecking
      cases rechecking
    · exact absurd start calm.2
    · have ⟨w, _, up⟩ := old.enqueue point
      exact none_alive up
    · have ⟨w, o, pair, inside, member⟩ := old.answered point unset
      exact ⟨w, o, pair, spawn_old inside, member⟩
  · intro w o there
    rcases of_spawn there with old | ⟨same, new⟩
    · exact (h.workers w o old).asleep (down_of_vacant vacant old) rfl rfl rfl
    · have ⟨items, scheduled, bound⟩ := h.fresh w (Nat.le_of_eq same.symm)
      have empty : s.pending w o = [] := by
        unfold State.pending
        rw [items, scheduled, new]
        rfl
      have gone {q : Prop} {r : Request} (member : r ∈ s.pending w o) : q := by
        rw [empty] at member
        cases member
      subst new
      refine ⟨nofun, nofun, nofun, nofun, nofun, .inl bound, ?_, ?_, fun _ => empty, ?_, nofun⟩
      · intro p member
        have none_scheduled : p ∈ s.scheduled w := member
        rw [scheduled] at none_scheduled
        cases none_scheduled
      · intro before k after split'
        refine gone (r := .stop k) ?_
        have whole : s.pending w ⟨.created, false⟩ = before ++ .stop k :: after := split'
        rw [whole]
        exact List.mem_append_right before List.mem_cons_self
      · intro stop
        rcases stop with ending | ⟨k, member⟩
        · cases ending
        · exact gone member
  · exact fun k e there => .ofDone (h.closed_of_unsettled found unsettled there)
  · exact fun l read => none_alive (h.alive_of_loop found unsettled read)
  · exact fun q read => none_alive (h.alive_of_queue found unsettled read)
  · intro w beyond
    rw [List.length_append, List.length_singleton] at beyond
    exact h.fresh w (by omega)

/-- The thread object that the caller has written is started. -/
theorem start (found : s.calls[i]? = some c) (point : c.point = .start)
    (thread : c.thread = some w) :
    Invariant ((s.setCall i { c with point := .release }).setWorker w ⟨.writeLoop, false⟩) := by
  have old := h.calls i c found
  have starting : c.point.starting = true := by
    rw [point]
    rfl
  have holds := Point.holds_of_starting starting
  have unsettled := Point.settled_of_holds holds
  have vacant := old.vacant starting
  have none_alive {q : Prop} {w : Nat} (up : s.alive w = true) : q := by
    rw [vacant w] at up
    cases up
  have ⟨v, local_thread, field, inside⟩ := old.start point
  cases Option.some.inj (thread.symm.trans local_thread)
  have ready := old.readyCleared (by rw [point]; rfl)
  have loop := old.loopDropped (by rw [point]; rfl)
  have queue := old.queueDropped (by rw [point]; rfl)
  have released : Invariant (s.setCall i { c with point := .release }) :=
    h.setHeld found unsettled (old.lock holds) rfl (.inl rfl) (.inl rfl) nofun rfl nofun nofun
      nofun nofun nofun (by rw [point]; rfl)
  have there := List.getElem?_eq_getElem inside
  have before := released.workers w _ there
  have down : (s.workers[w]).stage.alive = false := down_of_vacant vacant there
  have empty := State.pending_of_asleep before down
  have fresh : ∀ g connected, g.taken = [] →
      s.pending w ⟨g, connected⟩ = [] := fun _ _ => State.pending_eq_nil empty
  constructor
  · intro j d called
    have calm : d.point.starting = false := by
      by_cases own : j = i
      · subst own
        have set : (s.calls.set j { c with point := .release })[j]? = some d := called
        rw [set_self found] at set
        rw [← Option.some.inj set]
        rfl
      · have outside := h.outside_of_ne found holds own ((set_other own).symm.trans called)
        by_contra begins
        rw [Bool.not_eq_false] at begins
        rw [Point.holds_of_starting begins] at outside
        cases outside
    refine (released.calls j d called).keep (fun _ => ⟨rfl, rfl⟩) calm
      (fun _ v up => none_alive up) ?_
    intro _ v o known member
    by_cases same : v = w
    · subst same
      cases Option.some.inj (known.symm.trans there)
      rw [empty] at member
      cases member
    · exact ⟨o, (set_other same).trans known, member⟩
  · intro v o known
    rcases of_set known with ⟨rfl, rfl⟩ | ⟨_, old'⟩
    · have none_left := fresh .writeLoop false rfl
      have gone {q : Prop} {r : Request} (member : r ∈ s.pending v ⟨.writeLoop, false⟩) : q := by
        rw [none_left] at member
        cases member
      refine ⟨fun _ => field, fun _ => loop, fun _ => queue,
        fun _ => ⟨ready, i, { c with point := .release }, set_self found, rfl⟩, nofun, before.bound,
        before.scheduled, ?_, nofun, ?_, nofun⟩
      · intro first k after split'
        have whole : s.pending v ⟨.writeLoop, false⟩ = first ++ .stop k :: after := split'
        refine gone (r := .stop k) ?_
        rw [whole]
        exact List.mem_append_right first List.mem_cons_self
      · intro stop
        rcases stop with ending | ⟨k, member⟩
        · cases ending
        · exact gone member
    · exact (released.workers v o old').asleep (down_of_vacant vacant old') rfl rfl rfl
  · exact fun k e closed => .ofDone (h.closed_of_unsettled found unsettled closed)
  · intro l read
    have read' : s.loop = some l := read
    rw [loop] at read'
    cases read'
  · intro q read
    have read' : s.queue = some q := read
    rw [queue] at read'
    cases read'
  · intro v beyond
    have beyond' : s.workers.length ≤ v := by
      have length : (s.workers.set w ⟨.writeLoop, false⟩).length ≤ v := beyond
      rwa [List.length_set] at length
    exact h.fresh v beyond'

/-- A request is given to the worker that is alive. -/
theorem schedule (there : s.workers[w]? = some o) (up : o.stage.alive = true)
    (going : o.stage.ending = false) (quiet : ∀ k, .stop k ∉ s.pending w o) (request : Request)
    (stop : ∀ k, request = .stop k →
      ∃ k : Nat, ∃ c : Close, s.closes[k]? = some c ∧ c.point.waiting = true) :
    Invariant (s.schedule w w request) ∧
      (s.schedule w w request).pending w o = s.pending w o ++ [request] := by
  have longer : (s.schedule w w request).pending w o = s.pending w o ++ [request] := by
    unfold State.pending State.schedule
    dsimp only
    rw [Function.update_self, List.map_append, ← List.append_assoc]
    rfl
  have others {v : Nat} (apart : v ≠ w) : (s.schedule w w request).scheduled v = s.scheduled v :=
    Function.update_of_ne apart _ _
  refine ⟨?_, longer⟩
  constructor
  · intro j d called
    have old := h.calls j d called
    refine ⟨old.lock, old.loop, old.queue, old.thread, old.vacant, old.readyCleared,
      old.loopDropped, old.queueDropped, old.start, old.paired, old.enqueue, ?_⟩
    intro point unset
    have ⟨v, p, pair, known, member⟩ := old.answered point unset
    refine ⟨v, p, pair, known, ?_⟩
    by_cases same : v = w
    · subst same
      cases Option.some.inj (known.symm.trans there)
      rw [longer]
      exact List.mem_append_left _ member
    · unfold State.pending
      rw [others same]
      exact member
  · intro v p known
    have old := h.workers v p known
    by_cases same : v = w
    · subst same
      cases Option.some.inj (known.symm.trans there)
      refine ⟨old.thread, old.loop, old.queue, old.unready, old.fed, old.bound, ?_, ?_, ?_, ?_,
        old.sound⟩
      · intro q member
        have listed : q ∈ s.scheduled v ++ [(v, request)] := by
          have update : (s.schedule v v request).scheduled v = s.scheduled v ++ [(v, request)] :=
            Function.update_self _ _ _
          rw [← update]
          exact member
        rcases List.mem_append.1 listed with before | last
        · exact old.scheduled q before
        · rw [List.mem_singleton.1 last]
      · intro before k after split'
        rw [longer] at split'
        -- A stop request that is not the new one would have been there before.
        rcases List.eq_nil_or_concat after with none_after | ⟨rest, last, more⟩
        · exact none_after
        · rw [more, List.concat_eq_append] at split'
          have front : s.pending v o = before ++ .stop k :: rest := by
            have both : s.pending v o ++ [request] = (before ++ .stop k :: rest) ++ [last] := by
              rw [split', List.append_assoc, List.cons_append]
            exact (List.append_inj' both rfl).1
          have listed : .stop k ∈ s.pending v o := by
            rw [front]
            exact List.mem_append_right before List.mem_cons_self
          exact absurd listed (quiet k)
      · intro idle
        have busy := Stage.not_idle up going
        rw [idle] at busy
        cases busy
      · intro stopping
        rcases stopping with ending | ⟨k, member⟩
        · rw [going] at ending
          cases ending
        · rw [longer] at member
          rcases List.mem_append.1 member with before | last
          · exact absurd before (quiet k)
          · exact stop k (List.mem_singleton.1 last).symm
    · have equal : (s.schedule w w request).pending v p = s.pending v p := by
        unfold State.pending
        rw [others same]
        rfl
      refine ⟨old.thread, old.loop, old.queue, old.unready, old.fed, old.bound, ?_, ?_, ?_, ?_,
        old.sound⟩
      · rw [others same]
        exact old.scheduled
      · rw [equal]
        exact old.last
      · rw [equal]
        exact old.idle
      · rw [equal]
        exact old.closing
  · exact h.closes.mono fun _ _ old => ⟨old.settled, old.alone, old.thread, old.loop, old.queue,
      old.found, old.enqueue, old.cleared, old.loopCleared, old.queueCleared⟩
  · exact h.loop
  · exact h.queue
  · intro v beyond
    have ⟨items, scheduled, bound⟩ := h.fresh v beyond
    have inside := (List.getElem?_eq_some_iff.1 there).1
    have apart : v ≠ w := by
      have length : s.workers.length ≤ v := beyond
      omega
    exact ⟨items, (others apart).trans scheduled, bound⟩

end Invariant
end

section
variable {s t : State} {i j k w : Nat} {c d : Call} {e f : Close} {o p : Worker}

namespace Invariant
variable (h : Invariant s)
include h

/-- No worker is alive when the check under the lock fails, if it is not made too early. -/
theorem vacant_of_recheck (found : s.calls[i]? = some c) (point : c.point = .recheck)
    (orderly : c.early s = false) (usable : s.usable c.thread c.loop c.queue = none) (w : Nat) :
    s.alive w = false := by
  by_contra up
  rw [Bool.not_eq_false] at up
  have thread : c.thread = some w :=
    ((h.calls i c found).thread (by rw [point]; rfl)).trans (h.thread_of_alive up)
  unfold Call.early at orderly
  rw [point, thread, Option.any_some, up, decide_eq_true rfl, Bool.true_and, Bool.true_and,
    Bool.or_eq_false_iff] at orderly
  cases loop : c.loop with
  | none =>
      rw [loop] at orderly
      cases orderly.1
  | some l =>
      cases queue : c.queue with
      | none =>
          rw [queue] at orderly
          cases orderly.2
      | some q =>
          rw [thread, loop, queue, usable_of_alive up] at usable
          cases usable

/-- The request of a call is given to the worker that it has found. -/
theorem enqueue (found : s.calls[i]? = some c) (point : c.point = .enqueue)
    {pair : Nat × Nat} (returned : c.pair = some pair) :
    ∃ t, s.enqueue pair.1 pair.2 (.tool i) = some t ∧
      Invariant (t.setCall i { c with point := .awaiting }) := by
  have old := h.calls i c found
  have unsettled : c.point.settled = false := by
    rw [point]
    rfl
  have ⟨w, same, up⟩ := old.enqueue point
  cases Option.some.inj (returned.symm.trans same)
  have ⟨o, there, alive⟩ := exists_of_alive up
  have ⟨going, quiet⟩ := h.going found unsettled there
  have ⟨given, longer⟩ := h.schedule there alive going quiet (.tool i) nofun
  refine ⟨s.schedule w w (.tool i), ?_, ?_⟩
  · unfold State.enqueue
    rw [there, Option.any_some, if_pos (Stage.open_of_alive alive going)]
  · refine given.setCall found (.free rfl nofun nofun old.paired nofun fun _ _ => ?_) nofun ?_
    · refine ⟨w, o, same, there, ?_⟩
      rw [longer]
      exact List.mem_append_right _ (List.mem_singleton_self _)
    · rw [point]
      nofun

/-- A step of a call. -/
theorem caller (found : s.calls[i]? = some c) (orderly : c.early s = false)
    (performed : s.caller i c = some t) : Invariant t := by
  have old := h.calls i c found
  obtain ⟨point, thread, loop, queue, pair, future⟩ := c
  cases point with
  | readThread =>
      cases Option.some.inj performed
      exact h.setFree found rfl rfl (.inl rfl) (.inl rfl) rfl nofun nofun nofun
  | readLoop =>
      cases Option.some.inj performed
      exact h.setFree found rfl rfl (.inr rfl) (.inl rfl) rfl nofun nofun nofun
  | readQueue =>
      cases Option.some.inj performed
      exact h.setFree found rfl rfl (.inl rfl) (.inr rfl) rfl nofun nofun nofun
  | check =>
      cases usable : s.usable thread loop queue with
      | some both =>
          simp only [State.caller, usable] at performed
          cases Option.some.inj performed
          exact h.found_worker found rfl usable rfl
      | none =>
          simp only [State.caller, usable] at performed
          cases Option.some.inj performed
          exact h.setFree found rfl rfl (.inl rfl) (.inl rfl) rfl nofun nofun nofun
  | acquire =>
      by_cases free : s.lock = none
      · simp only [State.caller, if_pos free] at performed
        cases Option.some.inj performed
        have outside (j : Nat) (d : Call) (called : s.calls[j]? = some d) :
            d.point.holds = false := by
          by_contra inside
          rw [Bool.not_eq_false] at inside
          have taken := (h.calls j d called).lock inside
          rw [free] at taken
          cases taken
        exact (h.setLock outside (some i)).setHeld found rfl rfl rfl (.inl rfl) (.inl rfl) nofun rfl
          nofun nofun nofun nofun nofun rfl
      · simp only [State.caller, if_neg free] at performed
        cases performed
  | rereadThread =>
      cases Option.some.inj performed
      exact h.setHeld found rfl (old.lock rfl) rfl (.inl rfl) (.inl rfl) (fun _ => rfl) rfl
        nofun nofun nofun nofun nofun rfl
  | rereadLoop =>
      cases Option.some.inj performed
      exact h.setHeld found rfl (old.lock rfl) rfl (.inr rfl) (.inl rfl)
        (fun _ => old.thread rfl) rfl nofun nofun nofun nofun nofun rfl
  | rereadQueue =>
      cases Option.some.inj performed
      exact h.setHeld found rfl (old.lock rfl) rfl (.inl rfl) (.inr rfl)
        (fun _ => old.thread rfl) rfl nofun nofun nofun nofun nofun rfl
  | recheck =>
      cases usable : s.usable thread loop queue with
      | some both =>
          simp only [State.caller, usable] at performed
          cases Option.some.inj performed
          exact h.setHeld found rfl (old.lock rfl) rfl (.inl rfl) (.inl rfl) nofun rfl
            nofun nofun nofun nofun nofun rfl
      | none =>
          simp only [State.caller, usable] at performed
          cases Option.some.inj performed
          exact h.setHeld found rfl (old.lock rfl) rfl (.inl rfl) (.inl rfl) nofun rfl
            (fun _ => h.vacant_of_recheck found rfl orderly usable) nofun nofun nofun nofun rfl
  | clearReady =>
      cases Option.some.inj performed
      have prepared : Invariant { s with ready := false } :=
        h.prepare found rfl rfl rfl rfl rfl rfl rfl rfl rfl (.inr rfl) (.inl rfl) (.inl rfl)
      exact prepared.setHeld found rfl (old.lock rfl) rfl (.inl rfl) (.inl rfl) nofun rfl
        (fun _ => old.vacant rfl) (fun _ => rfl) nofun nofun nofun rfl
  | dropLoop =>
      cases Option.some.inj performed
      have prepared : Invariant { s with loop := none } :=
        h.prepare found rfl rfl rfl rfl rfl rfl rfl rfl rfl (.inl rfl) (.inr rfl) (.inl rfl)
      exact prepared.setHeld found rfl (old.lock rfl) rfl (.inl rfl) (.inl rfl) nofun rfl
        (fun _ => old.vacant rfl) (fun _ => old.readyCleared rfl) (fun _ => rfl) nofun nofun rfl
  | dropQueue =>
      cases Option.some.inj performed
      have prepared : Invariant { s with queue := none } :=
        h.prepare found rfl rfl rfl rfl rfl rfl rfl rfl rfl (.inl rfl) (.inl rfl) (.inr rfl)
      exact prepared.setHeld found rfl (old.lock rfl) rfl (.inl rfl) (.inl rfl) nofun rfl
        (fun _ => old.vacant rfl) (fun _ => old.readyCleared rfl) (fun _ => old.loopDropped rfl)
        (fun _ => rfl) nofun rfl
  | dropError =>
      cases Option.some.inj performed
      have prepared : Invariant { s with error := false } :=
        h.prepare found rfl rfl rfl rfl rfl rfl rfl rfl rfl (.inl rfl) (.inl rfl) (.inl rfl)
      exact prepared.setHeld found rfl (old.lock rfl) rfl (.inl rfl) (.inl rfl) nofun rfl
        (fun _ => old.vacant rfl) (fun _ => old.readyCleared rfl) (fun _ => old.loopDropped rfl)
        (fun _ => old.queueDropped rfl) nofun rfl
  | writeThread =>
      cases Option.some.inj performed
      have created := h.create found rfl
      have still := created.calls i _ found
      refine created.setHeld found rfl (old.lock rfl) rfl (.inl rfl) (.inl rfl) nofun rfl
        (fun _ => still.vacant rfl) (fun _ => old.readyCleared rfl) (fun _ => old.loopDropped rfl)
        (fun _ => old.queueDropped rfl) (fun _ => ⟨_, rfl, rfl, ?_⟩) rfl
      rw [List.length_append, List.length_singleton]
      omega
  | start =>
      cases thread with
      | none => cases performed
      | some w =>
          cases Option.some.inj performed
          exact h.start found rfl rfl
  | release =>
      cases Option.some.inj performed
      have waits : Invariant (s.setCall i ⟨.wait, thread, loop, queue, pair, future⟩) :=
        h.setFree found rfl rfl (.inl rfl) (.inl rfl) rfl nofun nofun fun _ => .inl rfl
      refine waits.setLock (fun j d called => ?_) none
      rcases of_set called with ⟨_, rfl⟩ | ⟨other, before⟩
      · rfl
      · exact h.outside_of_ne found rfl other before
  | wait =>
      by_cases ready : s.ready = true
      · simp only [State.caller, if_pos ready] at performed
        cases Option.some.inj performed
        exact h.setFree found rfl rfl (.inl rfl) (.inl rfl) rfl nofun nofun fun _ => .inr ready
      · simp only [State.caller, if_neg ready] at performed
        cases performed
  | lastLoop =>
      cases Option.some.inj performed
      exact h.setFree found rfl rfl (.inr rfl) (.inl rfl) rfl nofun nofun nofun
  | lastQueue =>
      cases Option.some.inj performed
      exact h.setFree found rfl rfl (.inl rfl) (.inr rfl) rfl nofun nofun nofun
  | lastThread =>
      cases Option.some.inj performed
      exact h.setFree found rfl rfl (.inl rfl) (.inl rfl) rfl nofun nofun nofun
  | lastCheck =>
      cases usable : s.usable thread loop queue with
      | some both =>
          simp only [State.caller, usable] at performed
          cases Option.some.inj performed
          exact h.found_worker found rfl usable rfl
      | none =>
          simp only [State.caller, usable] at performed
          cases Option.some.inj performed
          exact h.setFree found rfl rfl (.inl rfl) (.inl rfl) rfl nofun nofun nofun
  | readError =>
      cases Option.some.inj performed
      exact h.setFree found rfl rfl (.inl rfl) (.inl rfl) rfl nofun nofun nofun
  | enqueue =>
      cases pair with
      | none => cases performed
      | some both =>
          have ⟨u, given, next⟩ := h.enqueue found rfl rfl
          simp only [State.caller, Option.map_some, given] at performed
          cases Option.some.inj performed
          exact next
  | awaiting =>
      cases future with
      | none => cases performed
      | some outcome =>
          cases Option.some.inj performed
          exact h.setCall found (.free rfl nofun nofun old.paired nofun nofun) nofun nofun
  | finished => cases performed
  | failed => cases performed

end Invariant
end

end WaterCare.Ai.SessionManager
