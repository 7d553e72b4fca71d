import WaterCare.Machine.Pool
import WaterCare.Machine.Run
import Mathlib.Logic.Function.Basic

/-!
`McpStdioSessionManager` of `session_manager.py`: the threads that run `call_tool` and `close`, and
the worker threads. A worker thread, its event loop and its queue carry one number. Every read and
write of a field of the manager, every operation on the lock, the event, a loop or a queue, every
start of a thread and every answer of a worker is a step of its own. No wait runs out of time.
-/

namespace WaterCare.Ai.SessionManager
open Machine Pool

/-! ### Workers -/

/-- `_ToolRequest` and `_StopRequest`, with the call or the close that holds the future. -/
inductive Request
  | tool (call : Nat)
  | stop (close : Nat)
  deriving DecidableEq

/-- What comes of a tool request at the client. -/
inductive Served
  | result
  | connectFailed
  | callFailed
  deriving DecidableEq

/-- How a future of a call was completed. -/
inductive Outcome
  | result
  | exception
  deriving DecidableEq

/-- What a worker thread does next in `_thread_main` and `_worker`. -/
inductive Stage
  | created
  | writeLoop
  | writeQueue
  | clearError
  | setReady
  | readQueue
  | getting (queue : Nat)
  | serving (queue : Nat) (call : Nat)
  | stopping (close : Nat)
  | writeError
  | returned
  | closed
  | dead
  deriving DecidableEq

namespace Stage

/-- `Thread.is_alive`. -/
def alive : Stage → Bool
  | created | dead => false
  | _ => true

/-- The loop of the thread can still be given callbacks. -/
def isOpen : Stage → Bool
  | created | closed | dead => false
  | _ => true

/-- The loop runs the callbacks it is given. -/
def runs : Stage → Bool
  | readQueue | getting _ | serving _ _ | stopping _ | writeError | returned => true
  | _ => false

/-- `_worker` has come to its end. -/
def ended : Stage → Bool
  | writeError | returned | closed | dead => true
  | _ => false

end Stage

structure Worker where
  stage : Stage
  /-- `client` is not `None`. -/
  connected : Bool
  deriving DecidableEq

/-! ### Threads of the process -/

/-- What a thread does next in `call_tool`, most of it in `_ensure_worker`. -/
inductive Point
  | readThread | readLoop | readQueue | check
  | acquire
  | rereadThread | rereadLoop | rereadQueue | recheck
  | clearReady | dropLoop | dropQueue | dropError | writeThread | start
  | release
  | wait
  | lastLoop | lastQueue | lastThread | lastCheck
  | readError
  | enqueue
  | awaiting
  | finished
  | failed
  deriving DecidableEq

/-- A thread in `call_tool`, with its local variables. -/
structure Call where
  point : Point
  thread : Option Nat
  loop : Option Nat
  queue : Option Nat
  /-- The pair that `_ensure_worker` has returned. -/
  pair : Option (Nat × Nat)
  future : Option Outcome
  deriving DecidableEq

/-- What a thread does next in `close`. The worker has been joined, or there was none. -/
inductive ClosePoint
  | readThread | readLoop | readQueue | check
  | enqueue
  | awaiting
  | join
  | clearThread (joined : Bool) | clearLoop (joined : Bool) | clearQueue (joined : Bool)
  | readError
  | clearError
  | finished
  | failed
  deriving DecidableEq

/-- A thread in `close`, with its local variables. -/
structure Close where
  point : ClosePoint
  thread : Option Nat
  loop : Option Nat
  queue : Option Nat
  stopped : Bool
  /-- `close` raises, since the worker has left an error. -/
  error : Bool
  deriving DecidableEq

structure State where
  /-- `_thread`, `_loop` and `_queue`. -/
  thread : Option Nat
  loop : Option Nat
  queue : Option Nat
  /-- `_worker_error` is not `None`. -/
  error : Bool
  /-- `_ready` is set. -/
  ready : Bool
  /-- The call that holds `_start_lock`. -/
  lock : Option Nat
  workers : List Worker
  /-- The callbacks of each loop: the request and the queue to put it in. -/
  scheduled : Nat → List (Nat × Request)
  /-- What each queue holds, and the loop it is bound to. -/
  items : Nat → List Request
  bound : Nat → Option Nat
  calls : List Call
  closes : List Close

/-- `__init__`. -/
def State.initial : State :=
  ⟨none, none, none, false, false, none, [], fun _ => [], fun _ => [], fun _ => none, [], []⟩

inductive Action
  | call
  | close
  | caller (call : Nat)
  | closer (close : Nat)
  | callback (loop : Nat)
  | worker (worker : Nat) (served : Served)
  deriving DecidableEq

/-! ### Steps -/

namespace State
variable (s : State)

def setCall (i : Nat) (c : Call) : State := { s with calls := s.calls.set i c }
def setClose (k : Nat) (c : Close) : State := { s with closes := s.closes.set k c }
def setWorker (w : Nat) (o : Worker) : State := { s with workers := s.workers.set w o }

def alive (w : Nat) : Bool := s.workers[w]?.any (·.stage.alive)

/-- The loop and the queue that were read, if the thread that was read is alive. -/
def usable (thread loop queue : Option Nat) : Option (Nat × Nat) :=
  match thread, loop, queue with
  | some t, some l, some q => if s.alive t then some (l, q) else none
  | _, _, _ => none

def schedule (loop queue : Nat) (request : Request) : State :=
  { s with scheduled := Function.update s.scheduled loop (s.scheduled loop ++ [(queue, request)]) }

/-- `_enqueue`: `call_soon_threadsafe` raises when the loop is closed. -/
def enqueue (loop queue : Nat) (request : Request) : Option State :=
  if s.workers[loop]?.any (·.stage.isOpen) then some (s.schedule loop queue request) else none

/-- The next step of a thread in `call_tool`. -/
def caller (i : Nat) (c : Call) : Option State :=
  match c.point with
  | .readThread => some (s.setCall i { c with point := .readLoop, thread := s.thread })
  | .readLoop => some (s.setCall i { c with point := .readQueue, loop := s.loop })
  | .readQueue => some (s.setCall i { c with point := .check, queue := s.queue })
  | .check =>
      match s.usable c.thread c.loop c.queue with
      | some pair => some (s.setCall i { c with point := .enqueue, pair := some pair })
      | none => some (s.setCall i { c with point := .acquire })
  | .acquire =>
      if s.lock = none then
        some { s.setCall i { c with point := .rereadThread } with lock := some i }
      else none
  | .rereadThread => some (s.setCall i { c with point := .rereadLoop, thread := s.thread })
  | .rereadLoop => some (s.setCall i { c with point := .rereadQueue, loop := s.loop })
  | .rereadQueue => some (s.setCall i { c with point := .recheck, queue := s.queue })
  | .recheck =>
      match s.usable c.thread c.loop c.queue with
      | some _ => some (s.setCall i { c with point := .release })
      | none => some (s.setCall i { c with point := .clearReady })
  | .clearReady => some { s.setCall i { c with point := .dropLoop } with ready := false }
  | .dropLoop => some { s.setCall i { c with point := .dropQueue } with loop := none }
  | .dropQueue => some { s.setCall i { c with point := .dropError } with queue := none }
  | .dropError => some { s.setCall i { c with point := .writeThread } with error := false }
  | .writeThread =>
      some { s.setCall i { c with point := .start, thread := some s.workers.length } with
        thread := some s.workers.length
        workers := s.workers ++ [⟨.created, false⟩] }
  | .start =>
      c.thread.map fun w =>
        (s.setCall i { c with point := .release }).setWorker w ⟨.writeLoop, false⟩
  | .release => some { s.setCall i { c with point := .wait } with lock := none }
  | .wait => if s.ready then some (s.setCall i { c with point := .lastLoop }) else none
  | .lastLoop => some (s.setCall i { c with point := .lastQueue, loop := s.loop })
  | .lastQueue => some (s.setCall i { c with point := .lastThread, queue := s.queue })
  | .lastThread => some (s.setCall i { c with point := .lastCheck, thread := s.thread })
  | .lastCheck =>
      match s.usable c.thread c.loop c.queue with
      | some pair => some (s.setCall i { c with point := .enqueue, pair := some pair })
      | none => some (s.setCall i { c with point := .readError })
  | .readError => some (s.setCall i { c with point := .failed })
  | .enqueue =>
      c.pair.map fun pair =>
        match s.enqueue pair.1 pair.2 (.tool i) with
        | some t => t.setCall i { c with point := .awaiting }
        | none => s.setCall i { c with point := .failed }
  | .awaiting => c.future.map fun _ => s.setCall i { c with point := .finished }
  | .finished | .failed => none

/-- The next step of a thread in `close`. -/
def closer (k : Nat) (c : Close) : Option State :=
  match c.point with
  | .readThread => some (s.setClose k { c with point := .readLoop, thread := s.thread })
  | .readLoop => some (s.setClose k { c with point := .readQueue, loop := s.loop })
  | .readQueue => some (s.setClose k { c with point := .check, queue := s.queue })
  | .check =>
      match s.usable c.thread c.loop c.queue with
      | some _ => some (s.setClose k { c with point := .enqueue })
      | none => some (s.setClose k { c with point := .clearThread false })
  | .enqueue =>
      c.loop.bind fun l => c.queue.map fun q =>
        match s.enqueue l q (.stop k) with
        | some t => t.setClose k { c with point := .awaiting }
        | none => s.setClose k { c with point := .failed }
  | .awaiting => if c.stopped then some (s.setClose k { c with point := .join }) else none
  | .join =>
      c.thread.bind fun t =>
        if s.alive t then none else some (s.setClose k { c with point := .clearThread true })
  | .clearThread joined =>
      some { s.setClose k { c with point := .clearLoop joined } with thread := none }
  | .clearLoop joined =>
      some { s.setClose k { c with point := .clearQueue joined } with loop := none }
  | .clearQueue joined =>
      some { s.setClose k { c with point := if joined then .readError else .finished } with
        queue := none }
  | .readError => some (s.setClose k { c with point := .clearError, error := s.error })
  | .clearError => some { s.setClose k { c with point := .finished } with error := false }
  | .finished | .failed => none

/-- `_complete_result` and `_complete_exception` for a tool request. -/
def complete (i : Nat) (outcome : Outcome) : State :=
  match s.calls[i]? with
  | some c => if c.future = none then s.setCall i { c with future := some outcome } else s
  | none => s

/-- `_complete_result` for a stop request. -/
def confirm (k : Nat) : State :=
  match s.closes[k]? with
  | some c => s.setClose k { c with stopped := true }
  | none => s

/-- The next step of a worker thread. A queue is bound to the first loop that waits on it. -/
def work (w : Nat) (o : Worker) (served : Served) : Option State :=
  match o.stage with
  | .created => none
  | .writeLoop => some { s.setWorker w { o with stage := .writeQueue } with loop := some w }
  | .writeQueue => some { s.setWorker w { o with stage := .clearError } with queue := some w }
  | .clearError => some { s.setWorker w { o with stage := .setReady } with error := false }
  | .setReady => some { s.setWorker w { o with stage := .readQueue } with ready := true }
  | .readQueue =>
      match s.queue with
      | some q => some (s.setWorker w { o with stage := .getting q })
      | none => some (s.setWorker w { o with stage := .writeError })
  | .getting q =>
      match s.items q with
      | [] =>
          if s.bound q = none ∨ s.bound q = some w then
            some { s with bound := Function.update s.bound q (some w) }
          else some (s.setWorker w { o with stage := .writeError })
      | .tool i :: rest =>
          some { s.setWorker w { o with stage := .serving q i } with
            items := Function.update s.items q rest }
      | .stop k :: rest =>
          some { s.setWorker w ⟨.stopping k, false⟩ with
            items := Function.update s.items q rest }
  | .serving q i =>
      match served, o.connected with
      | .result, _ => some ((s.setWorker w ⟨.getting q, true⟩).complete i .result)
      | .callFailed, _ => some ((s.setWorker w ⟨.getting q, false⟩).complete i .exception)
      | .connectFailed, false => some ((s.setWorker w ⟨.getting q, false⟩).complete i .exception)
      | .connectFailed, true => none
  | .stopping k => some ((s.setWorker w { o with stage := .returned }).confirm k)
  | .writeError => some { s.setWorker w { o with stage := .returned } with error := true }
  | .returned => some (s.setWorker w { o with stage := .closed })
  | .closed => some (s.setWorker w { o with stage := .dead })
  | .dead => none

/-- A loop runs its next callback, `queue.put_nowait(request)`. -/
def callback (w : Nat) (o : Worker) : Option State :=
  match o.stage.runs, s.scheduled w with
  | true, (q, request) :: rest =>
      some { s with
        scheduled := Function.update s.scheduled w rest
        items := Function.update s.items q (s.items q ++ [request]) }
  | _, _ => none

def perform : Action → Option State
  | .call => some { s with calls := s.calls ++ [⟨.readThread, none, none, none, none, none⟩] }
  | .close => some { s with closes := s.closes ++ [⟨.readThread, none, none, none, false, false⟩] }
  | .caller i => s.calls[i]?.bind (s.caller i)
  | .closer k => s.closes[k]?.bind (s.closer k)
  | .callback w => s.workers[w]?.bind (s.callback w)
  | .worker w served => s.workers[w]?.bind fun o => s.work w o served

end State

def Step (s : State) (a : Action) (t : State) : Prop := s.perform a = some t

/-! ### The property -/

structure SingleWorker (s : State) : Prop where
  /-- At most one worker thread is alive. -/
  one : ∀ v w, s.alive v = true → s.alive w = true → v = w
  /-- The loop and the queue that `_ensure_worker` returns belong to one worker. -/
  paired : ∀ c ∈ s.calls, ∀ l q, c.pair = some (l, q) → l = q
  /-- A request that was enqueued is answered before the worker of its queue has come to its end. -/
  answered : ∀ c ∈ s.calls, ∀ l q, c.point = .awaiting → c.pair = some (l, q) →
    s.workers[q]?.any (·.stage.ended) = true → c.future ≠ none

namespace Point

/-- The call has enqueued its request, or it has failed. -/
def settled : Point → Bool
  | awaiting | finished | failed => true
  | _ => false

end Point

def ClosePoint.underWay : ClosePoint → Bool
  | finished | failed => false
  | _ => true

/-- The check under the lock finds a live thread that has not shown its loop and its queue. -/
def Call.early (s : State) (c : Call) : Bool :=
  decide (c.point = .recheck) && (c.thread.any s.alive && (c.loop.isNone || c.queue.isNone))

/-- No `close` begins while another one is under way or a call has not yet enqueued its request, no
call begins while a `close` is under way, and the check under the lock does not take a worker that
has just been started for one that is missing. -/
def Orderly (s : State) : Action → Prop
  | .call => (s.closes.all fun c => !c.point.underWay) = true
  | .close => (s.closes.all fun c => !c.point.underWay) = true ∧
      (s.calls.all fun c => c.point.settled) = true
  | .caller i => (s.calls[i]?.all fun c => !c.early s) = true
  | _ => True

instance (s : State) (a : Action) : Decidable (Orderly s a) := by
  cases a <;> unfold Orderly <;> infer_instance

end WaterCare.Ai.SessionManager
