import AsyncSequential.Errors
import AsyncSequential.Lib.Resume
import Mathlib.Data.Finset.Insert
import Mathlib.Data.Finset.Erase
import Mathlib.Logic.Function.Basic

/-!
# The state of the system

One worker and everyone who holds a piece of it, between two atomic accesses:
where the worker future is, where a blocking closure is, the queue, the shared
state and its mutex, the status, every task with its channels and its handle,
every `cancel()` call in progress, the worker handle and the task spawners.

Each party is a program counter with the local variables that are live there.
A reference count is the set of those who hold a reference: an `Arc` is dropped
when its last owner lets go, a `Weak` upgrades while there is an owner, and the
queue is closed for sending when no sender is left.

The last fields are history: nothing reads them, they say what has happened.
-/

namespace AsyncSequential

variable {S F R : Type*}

/-! ### Tasks -/

/-- Who holds a strong reference to a task's cell. -/
inductive Owner where
  /-- The message `Task`, in the queue or with the worker. -/
  | message
  /-- The upgraded reference of a `cancel()` call. -/
  | canceller (i : ℕ)
  /-- The upgraded reference of the handle's own `poll`. -/
  | handle
  deriving DecidableEq

/-- Who obtained the body of a task. -/
inductive Taker where
  /-- The worker, to run it. -/
  | worker
  /-- A `cancel()` call. -/
  | canceller (i : ℕ)
  /-- The handle, polled after the worker was cancelled. -/
  | handle
  /-- Nobody: it was dropped with the last reference to its cell. -/
  | dropped
  deriving DecidableEq

/-- Where a call of `TaskCancellerImpl::cancel` is. -/
inductive CancelPc where
  /-- About to upgrade the weak reference. -/
  | upgrade
  /-- About to take. -/
  | take
  /-- About to drop the taken `RawTask`, and with it the result sender. -/
  | dropRaw
  /-- About to drop the taken `TaskPanicSender`. -/
  | dropPanicTx
  /-- About to store `is_cancelled`. -/
  | store
  /-- Returned. -/
  | done (didCancelled : Bool)
  deriving DecidableEq

/-- Who called a `spawn` that the queue rejected. -/
inductive Via where
  /-- `WorkerHandle::send`. -/
  | worker
  /-- `WorkerTaskSender::send` of spawner `i`. -/
  | spawner (i : ℕ)
  deriving DecidableEq

/-- Where a spawned task's handle is in `TaskHandle::poll`. -/
inductive PollPc where
  /-- Never polled. -/
  | fresh
  /-- The last poll returned `Pending`. -/
  | pending
  /-- About to poll the panic channel. -/
  | panicRx
  /-- About to poll the result channel. -/
  | resultRx
  /-- Both channels are closed; about to load `is_cancelled`. -/
  | isCancelled
  /-- About to load the worker's flag, to learn the cause. -/
  | flag
  /-- About to read the panic message. -/
  | panicMsg
  /-- Not both closed; about to load the worker's flag. -/
  | pendingFlag
  /-- The flag was `CancelStarted`: cancelling its own task. -/
  | cancel (c : CancelPc)
  deriving DecidableEq

/-- A `TaskHandle<R>`, from the call of `spawn` on. -/
inductive TaskHandle (R : Type*) where
  /-- Not spawned yet. -/
  | absent
  /-- The queue rejected the task; about to load the flag. -/
  | sendFailed (via : Via)
  /-- The flag was `TaskPanicked`; about to read the panic message. -/
  | sendFailedMsg (via : Via)
  /-- `Repr::Unspawned`. -/
  | unspawned (reason : WorkerSendError)
  /-- `Repr::Spawned`. -/
  | spawned (pc : PollPc)
  /-- A poll returned `Ready`. -/
  | resolved (result : Except TaskError R)

/-- A task, with its cell, its channels, its canceller's flag and its handle. -/
structure Task (F R : Type*) where
  /-- The cell the message and the cancellers share. -/
  repr : OnceTake (RawTask F)
  /-- Who holds a strong reference to it. -/
  owners : Finset Owner
  /-- The two one-shot channels and their receiver. -/
  receiver : TaskResultReceiver R
  /-- `TaskCancellerImpl::is_cancelled`. -/
  isCancelled : Bool
  /-- Its `TaskCanceller`s are `Cancellable`. -/
  cancellable : Bool
  /-- Its handle. -/
  handle : TaskHandle R
  /-- History: who obtained the body, in order. -/
  takers : List Taker

namespace Task

/-- Not spawned yet. -/
@[grind] def absent : Task F R := ⟨.empty, ∅, .new, false, false, .absent, []⟩

/-- `build_task`, with the handle that `spawn` makes of an accepted task. -/
@[grind] def accepted (raw : RawTask F) : Task F R :=
  ⟨.new raw, {.message}, .new, false, true, .spawned .fresh, []⟩

/-- A task that was not accepted: its cell is dropped with the failed send. -/
@[grind] def rejected (h : TaskHandle R) : Task F R := ⟨.empty, ∅, .new, false, false, h, []⟩

/-- The body is taken by `x`. -/
@[grind] def takenBy (k : Task F R) (x : Taker) : Task F R :=
  { k with repr := k.repr.take.2, takers := k.takers ++ [x] }

/-- The task's cell is taken from in vain. -/
@[grind] def takeFailed (k : Task F R) : Task F R := { k with repr := k.repr.take.2 }

/-- `o` gets a strong reference. -/
@[grind] def share (k : Task F R) (o : Owner) : Task F R := { k with owners := insert o k.owners }

/-- `o` lets go of its strong reference. -/
@[grind] def release (k : Task F R) (o : Owner) : Task F R := { k with owners := k.owners.erase o }

/-- The last strong reference is gone, with the body still in the cell. -/
@[grind] def dealloc (k : Task F R) : Task F R := { k with repr := .empty, takers := k.takers ++ [.dropped] }

/-- The result sender is dropped. -/
@[grind] def closeResult (k : Task F R) : Task F R :=
  { k with receiver := { k.receiver with resultRx := k.receiver.resultRx.close } }

/-- The result is sent. -/
@[grind] def sendResult (k : Task F R) (r : R) : Task F R :=
  { k with receiver := { k.receiver with resultRx := k.receiver.resultRx.send r } }

/-- The panic sender is dropped. -/
@[grind] def closePanic (k : Task F R) : Task F R :=
  { k with receiver := { k.receiver with panicRx := k.receiver.panicRx.close } }

/-- `TaskPanicSender::send`. -/
@[grind] def sendPanic (k : Task F R) (p : PanicPayload) : Task F R :=
  { k with receiver := { k.receiver with panicRx := k.receiver.panicRx.send p } }

/-- The handle moves on. -/
@[grind] def setHandle (k : Task F R) (h : TaskHandle R) : Task F R := { k with handle := h }

end Task

/-- A public `cancel()` call, of a `TaskHandle` or a `TaskCanceller`. -/
inductive CancelCall where
  /-- No call. -/
  | absent
  /-- In `try_cancel` on task `t`, about to load the worker's flag. -/
  | flag (t : ℕ)
  /-- In `TaskCancellerImpl::cancel` on task `t`; `done` is what the call returned. -/
  | run (t : ℕ) (c : CancelPc)
  deriving DecidableEq

/-! ### The worker future and the blocking pool -/

/-- What awaiting the worker's `JoinHandle` gives: `Ok(Ok(()))`, `Ok(Err(()))`, or
`Err(JoinError)` when the future was dropped. -/
inductive WorkerOut where
  | ok
  | err
  | aborted
  deriving DecidableEq

/-- What a future drops on its way out, one item at a time. -/
inductive DropItem where
  /-- A `Task`, that is a strong reference to its cell. -/
  | message (t : ℕ)
  /-- A `RawTask`, and with it the result sender. -/
  | resultTx (t : ℕ)
  /-- A `TaskPanicSender`. -/
  | panicTx (t : ℕ)
  /-- `task_rx` begins to drop: the queue closes. -/
  | closeRx
  /-- `task_rx` drops what is queued. -/
  | drain
  deriving DecidableEq

/-- What `catch_unwind` gives: the body ended, or panicked. -/
abbrev Caught := Except PanicPayload Unit

/-- Where the worker future of `spawn_worker` is. A position at an await says
whether the future is `parked` there, between two polls of it. -/
inductive WorkerPc (F R : Type*) where
  /-- At `task_rx.recv().await`. -/
  | recv (parked : Bool)
  /-- Received `t`; about to load the flag. -/
  | dequeued (t : ℕ)
  /-- The flag was not `CancelStarted`; about to take. -/
  | checked (t : ℕ)
  /-- Took the body of `t`. -/
  | took (t : ℕ) (raw : RawTask F)
  /-- Holds the guard and runs the async body of `t`. -/
  | asyncBody (t : ℕ) (f : F) (parked : Bool)
  /-- The async body of `t` returned `r`; about to send it. -/
  | asyncSend (t : ℕ) (r : R)
  /-- The async body of `t` panicked; about to drop what it owned. -/
  | asyncUnwind (t : ℕ) (p : PanicPayload)
  /-- The async body has ended; about to release the guard. -/
  | asyncUnlock (t : ℕ) (result : Caught)
  /-- At `spawn_blocking(..).await`. -/
  | awaitBlocking (t : ℕ) (parked : Bool)
  /-- Has the body's `result`. -/
  | result (t : ℕ) (result : Caught)
  /-- Set the panic message; about to store the flag. -/
  | storePanicked (t : ℕ) (p : PanicPayload)
  /-- Stored the flag; about to send the payload. -/
  | sendPanic (t : ℕ) (p : PanicPayload)
  /-- Dropped by the runtime in an async body: about to drop the body. -/
  | dropBody (t : ℕ) (f : F)
  /-- Dropped by the runtime: about to drop the result sender the body owned. -/
  | dropBodyTx (t : ℕ)
  /-- Dropped by the runtime: about to release the guard. -/
  | dropGuard (t : ℕ)
  /-- Returning, or dropped by the runtime: dropping its variables. -/
  | dropping (todo : List DropItem) (out : WorkerOut)
  /-- Gone; its `JoinHandle` has its outcome. -/
  | ended (out : WorkerOut)

/-- Where the closure of the last `spawn_blocking` is. -/
inductive PoolPc (F R : Type*) where
  /-- There is none, or its result has been received. -/
  | idle
  /-- Queued in the pool. -/
  | queued (t : ℕ) (f : F)
  /-- Its `try_lock` succeeded; about to look for the state. -/
  | locked (t : ℕ) (f : F)
  /-- Holds the guard and runs the body. -/
  | running (t : ℕ) (f : F)
  /-- The body returned `r`; about to send it. -/
  | send (t : ℕ) (r : R)
  /-- The body panicked; about to drop what it owned. -/
  | unwind (t : ℕ) (p : PanicPayload)
  /-- The body has ended; about to release the guard. -/
  | unlock (t : ℕ) (result : Caught)
  /-- Returning `None`: about to drop the body unrun. -/
  | dropRaw (t : ℕ)
  /-- Returned. -/
  | done (t : ℕ) (result : Option Caught)
  /-- Dropped unrun by the runtime's shutdown. -/
  | cancelled (t : ℕ)

/-- Who holds the guard of the state's mutex. -/
inductive LockHolder where
  | worker
  | pool
  | join
  deriving DecidableEq

/-! ### The worker handle and the spawners -/

/-- The operations that consume the `WorkerHandle`. -/
inductive Consume where
  | join
  | abort
  | cancel
  | abortAndJoin
  | cancelAndJoin
  /-- It is dropped. -/
  | drop
  deriving DecidableEq

/-- What a join returns. -/
abbrev JoinResult (S : Type*) := Except (PoisonError S) S

/-- Where the `WorkerHandle<S>` is. -/
inductive HandlePc (S : Type*) where
  /-- It has not been consumed. -/
  | live
  /-- About to ask `JoinHandle::is_finished`. -/
  | isFinished (op : Consume)
  /-- About to `try_set_abort_started` or `try_set_cancel_started`. -/
  | trySet (op : Consume)
  /-- The flag was set to `AbortStarted`; about to call `JoinHandle::abort`. -/
  | abortWorker (op : Consume)
  /-- About to `close_senders`. -/
  | closeSenders (op : Consume)
  /-- About to drop `shared_task_senders_ctx`. -/
  | dropCtx (op : Consume)
  /-- About to drop `task_tx`. -/
  | dropTx (op : Consume)
  /-- In `join_worker`, at `worker_handle.await`. -/
  | awaitWorker (op : Consume)
  /-- At `state.lock().await`. -/
  | lockState (op : Consume) (out : WorkerOut)
  /-- Holds the guard; about to take the state. -/
  | takeState (op : Consume) (out : WorkerOut)
  /-- Took the state; about to release the guard. -/
  | unlockState (op : Consume) (out : WorkerOut) (v : S)
  /-- About to decide what to return. -/
  | decide (op : Consume) (out : WorkerOut) (v : S)
  /-- The flag was `TaskPanicked`; about to read the panic message. -/
  | readPanicMsg (op : Consume) (v : S)
  /-- Returned. -/
  | returned (op : Consume) (result : JoinResult S)
  /-- Gone, after this operation. -/
  | gone (op : Consume)

/-- Who holds a reference to a cell of sender contexts. -/
inductive CellOwner where
  | worker
  | spawner (i : ℕ)
  deriving DecidableEq

/-- A `SyncMutex<Option<WorkerTaskSenderCtx>>` behind an `Arc`. Every context
holds a sender of the one queue and the one status, so only its presence counts. -/
structure Cell where
  /-- It holds a context. -/
  ctx : Bool
  /-- Who holds a reference. -/
  owners : Finset CellOwner

/-- Who holds a sender of the queue. -/
inductive SenderOwner where
  /-- `WorkerHandle::task_tx`. -/
  | handle
  /-- The context in cell `c`. -/
  | cell (c : ℕ)
  deriving DecidableEq

/-- A `TaskSpawner`. -/
structure Spawner where
  /-- Its cell. -/
  cell : ℕ
  /-- It has not been dropped. -/
  alive : Bool
  deriving DecidableEq

/-- The library's own panics. -/
inductive Fault where
  /-- `WorkerStatus::flag` saw corrupted flags. -/
  | flagsCorrupted
  /-- `WorkerHandle::send` reached its `unreachable!`. -/
  | unreachableSend
  /-- `join_worker` did not find the state. -/
  | stateMissing
  /-- A one-shot receiver was polled after it had completed. -/
  | polledAfterComplete
  deriving DecidableEq

/-! ### The system -/

/-- The state of the whole. -/
structure Sys (S F R : Type*) where
  /-- The worker future. -/
  worker : WorkerPc F R
  /-- The blocking pool. -/
  pool : PoolPc F R
  /-- The queue. -/
  queue : List ℕ
  /-- The queue's receiver is there. -/
  rxOpen : Bool
  /-- `WorkerStatus`. -/
  status : WorkerStatus
  /-- What is in `Mutex<Option<S>>`. -/
  value : Option S
  /-- Who holds that mutex. -/
  lock : Option LockHolder
  /-- The tasks. -/
  tasks : ℕ → Task F R
  /-- The next task's number. -/
  next : ℕ
  /-- The `cancel()` calls. -/
  cancels : ℕ → CancelCall
  /-- The worker handle. -/
  handle : HandlePc S
  /-- The worker handle's cell. -/
  cell : ℕ
  /-- The cells of sender contexts. -/
  cells : ℕ → Cell
  /-- The next cell's number. -/
  nextCell : ℕ
  /-- The task spawners. -/
  spawners : ℕ → Spawner
  /-- The next spawner's number. -/
  nextSpawner : ℕ
  /-- Who holds a sender of the queue. -/
  senders : Finset SenderOwner
  /-- `JoinHandle::abort` has been called. -/
  aborting : Bool
  /-- The runtime is shutting down. -/
  down : Bool
  /-- A panic of the library itself. -/
  fault : Option Fault
  /-- History: the tasks whose send succeeded, in order. -/
  accepted : List ℕ
  /-- History: the tasks the worker received, in order. -/
  popped : List ℕ
  /-- History: the tasks dropped with the queue, in order. -/
  drained : List ℕ
  /-- History: the tasks whose body started, in order. -/
  started : List ℕ
  /-- History: the panics recorded in the status, in order. -/
  panics : List (ℕ × PanicPayload)
  /-- History: the body each task was spawned with. -/
  body : ℕ → Option F
  /-- History: what became of each body. -/
  fate : ℕ → Fate R PanicPayload
  /-- History: how many segments of each body were run. -/
  segs : ℕ → ℕ

namespace Sys

/-- The state in which `spawn_worker` leaves the system, with shared state `v`:
the future has not been polled, and the handle's cell has a context. -/
def init (v : S) : Sys S F R where
  worker := .recv true
  pool := .idle
  queue := []
  rxOpen := true
  status := .new
  value := some v
  lock := none
  tasks := fun _ => .absent
  next := 0
  cancels := fun _ => .absent
  handle := .live
  cell := 0
  cells := fun c => if c = 0 then ⟨true, {.worker}⟩ else ⟨false, ∅⟩
  nextCell := 1
  spawners := fun _ => ⟨0, false⟩
  nextSpawner := 0
  senders := {.handle, .cell 0}
  aborting := false
  down := false
  fault := none
  accepted := []
  popped := []
  drained := []
  started := []
  panics := []
  body := fun _ => none
  fate := fun _ => .unstarted
  segs := fun _ => 0

/-- The worker's flag. -/
abbrev flag (s : Sys S F R) : Option WorkerFlagSnapshot := s.status.flag

/-- Change task `t`. -/
@[simp, grind] def modTask (s : Sys S F R) (t : ℕ) (g : Task F R → Task F R) : Sys S F R :=
  { s with tasks := Function.update s.tasks t (g (s.tasks t)) }

/-- Move the handle of task `t` on. -/
@[simp, grind] def setHandle (s : Sys S F R) (t : ℕ) (h : TaskHandle R) : Sys S F R := s.modTask t (·.setHandle h)

end Sys

end AsyncSequential
