import AsyncSequential.Lib.Runs
import AsyncSequential.System

/-!
# What each party does next

`step B s a` is the state after action `a`, `none` when `a` is not possible in
`s`. An action names the party that moves; where that party stands decides what
it does. One action is one atomic access, one channel operation, one section
under a lock, or one segment of a body. The functions are the ones of the
source, cut at these points, in the source's order; an access that no other
party can observe (of a local variable, or of a cell that is empty already) is
part of the access before it.

What tokio does is in `pollWorker`, `yield`, `dropWorker`, `dropQueued` and
`shutdown`: a future is dropped only between two polls, after `abort` or when
the runtime shuts down, and a poll in progress runs on until it yields; a
running blocking closure is never dropped. Whether the task that polls a handle
has spent its cooperative budget is left open at each inner poll, as it is for the
worker's awaits, where such a poll is a `yield`.
-/

namespace AsyncSequential

variable {S F R : Type*}

/-- The actions. -/
inductive Act (F : Type*) where
  /-- `spawn` or `spawn_blocking` is called, up to the send on the queue. -/
  | spawn (via : Via) (raw : RawTask F)
  /-- The call of `spawn` for the rejected task `t` goes on. -/
  | sendFailed (t : ℕ)
  /-- `WorkerHandle::spawner`. -/
  | spawner
  /-- Spawner `i` is dropped. -/
  | dropSpawner (i : ℕ)
  /-- `WorkerHandle::close_spawners`. -/
  | closeSpawners
  /-- The `WorkerHandle` is consumed. -/
  | consume (op : Consume)
  /-- The operation that consumed it goes on. -/
  | handle
  /-- The future of a join is dropped. -/
  | dropJoin
  /-- The runtime begins a poll of the worker future. -/
  | pollWorker
  /-- The worker future goes on, within a poll or while it is dropped. -/
  | worker
  /-- The poll of the worker future returns `Pending` at an await of tokio's. -/
  | yield
  /-- The runtime drops the worker future. -/
  | dropWorker
  /-- The blocking closure goes on. -/
  | pool
  /-- The runtime drops a blocking closure that has not started. -/
  | dropQueued
  /-- The runtime begins to shut down. -/
  | shutdown
  /-- The handle of task `t` is polled. -/
  | poll (t : ℕ)
  /-- The poll of that handle goes on; an inner poll is made with budget `b`. -/
  | pollStep (t : ℕ) (b : Budget)
  /-- `cancel()` is called on task `t`, as call `i`. -/
  | cancel (i t : ℕ)
  /-- Call `i` goes on. -/
  | cancelStep (i : ℕ)

namespace Sys

/-! ### The worker future (`spawn_worker`) -/

/-- A body's segment has been run: `(v, seg)` is what it left. -/
@[simp, grind] def ranSegment (s : Sys S F R) (t : ℕ) (v : S) (fate : Fate R PanicPayload) : Sys S F R :=
  { s with value := some v, segs := Function.update s.segs t (s.segs t + 1),
           fate := Function.update s.fate t fate }

/-- The body of `t` starts. -/
@[simp, grind] def startBody (s : Sys S F R) (t : ℕ) : Sys S F R :=
  { s with started := s.started ++ [t], fate := Function.update s.fate t .running }

/-- A `Task` is dropped. With the last reference goes the body, if it is still
in the cell, and with that its two senders. -/
def dropMessage (s : Sys S F R) (t : ℕ) (todo : List DropItem) (out : WorkerOut) : Sys S F R :=
  if (s.tasks t).owners.erase .message = ∅ ∧ (s.tasks t).repr.Full then
    { s.modTask t fun k => (k.release .message).dealloc with
      worker := .dropping (.resultTx t :: .panicTx t :: todo) out }
  else { s.modTask t (·.release .message) with worker := .dropping todo out }

/-- The worker future drops the next of its variables. -/
def dropItem (s : Sys S F R) (item : DropItem) (todo : List DropItem) (out : WorkerOut) : Sys S F R :=
  match item with
  | .message t => s.dropMessage t todo out
  | .resultTx t => { s.modTask t (·.closeResult) with worker := .dropping todo out }
  | .panicTx t => { s.modTask t (·.closePanic) with worker := .dropping todo out }
  | .closeRx => { s with worker := .dropping todo out, rxOpen := false }
  | .drain =>
    match s.queue with
    | [] => { s with worker := .dropping todo out }
    | t :: q =>
      { s with queue := q, drained := s.drained ++ [t] }.dropMessage t (.drain :: todo) out

/-- The worker future goes on, from the point where it stands. -/
def workerStep (B : Bodies S F R PanicPayload) (s : Sys S F R) : Option (Sys S F R) :=
  match s.worker with
  | .recv true | .asyncBody _ _ true | .awaitBlocking _ true | .ended _ => none
  -- while let Some(task) = task_rx.recv().await
  | .recv false =>
    match s.queue with
    | t :: q => some { s with worker := .dequeued t, queue := q, popped := s.popped ++ [t] }
    | [] => if s.senders = ∅ then some { s with worker := .dropping [.closeRx, .drain] .ok } else none
  -- if matches!(worker_status.flag(), CancelStarted) { break }
  | .dequeued t =>
    match s.flag with
    | none => some { s with fault := some .flagsCorrupted }
    | some .cancelStarted => some { s with worker := .dropping [.message t, .closeRx, .drain] .ok }
    | some _ => some { s with worker := .checked t }
  -- let Some(..) = task.take_if_not_cancelled() else { continue }
  | .checked t =>
    match (s.tasks t).repr.take.1 with
    | some raw => some { s.modTask t fun k => (k.takenBy .worker).release .message with worker := .took t raw }
    | none => some { s.modTask t fun k => k.takeFailed.release .message with worker := .recv false }
  | .took t (.blocking f) => some { s with worker := .awaitBlocking t false, pool := .queued t f }
  -- state.try_lock() and state.as_mut(), one section under the lock
  | .took t (.async f) =>
    if s.lock = none ∧ s.value.isSome then
      some { s.startBody t with worker := .asyncBody t f false, lock := some .worker }
    else some { s with worker := .dropping [.resultTx t, .panicTx t, .closeRx, .drain] .err }
  -- catch_unwind_async(|| task(state)).await
  | .asyncBody t f false =>
    match s.value with
    | none => none
    | some v =>
      match B.poll f v with
      | (v', .pending f') => some { s.ranSegment t v' .running with worker := .asyncBody t f' true }
      | (v', .ready r) => some { s.ranSegment t v' (.completed r) with worker := .asyncSend t r }
      | (v', .panicked p) => some { s.ranSegment t v' (.panicked p) with worker := .asyncUnwind t p }
  | .asyncSend t r => some { s.modTask t (·.sendResult r) with worker := .asyncUnlock t (.ok ()) }
  | .asyncUnwind t p => some { s.modTask t (·.closeResult) with worker := .asyncUnlock t (.error p) }
  | .asyncUnlock t res => some { s with worker := .result t res, lock := none }
  -- match spawn_blocking(..).await
  | .awaitBlocking t false =>
    match s.pool with
    | .done _ (some res) => some { s with worker := .result t res, pool := .idle }
    | .done _ none | .cancelled _ =>
      some { s with worker := .dropping [.panicTx t, .closeRx, .drain] .err, pool := .idle }
    | _ => some { s with worker := .awaitBlocking t true }
  -- if let Err(panic) = result; otherwise task_panic_sender is dropped
  | .result t (.ok ()) => some { s.modTask t (·.closePanic) with worker := .recv false }
  | .result t (.error p) => some { s with worker := .storePanicked t p, status := s.status.setPanicMsg p.msg }
  | .storePanicked t p =>
    some { s with worker := .sendPanic t p, status := s.status.storeTaskPanicked, panics := s.panics ++ [(t, p)] }
  | .sendPanic t p => some { s.modTask t (·.sendPanic p) with worker := .dropping [.closeRx, .drain] .err }
  | .dropBody t f =>
    some { s with worker := .dropBodyTx t, value := s.value.map (B.drop f), fate := Function.update s.fate t .dropped }
  | .dropBodyTx t => some { s.modTask t (·.closeResult) with worker := .dropGuard t }
  | .dropGuard t => some { s with worker := .dropping [.panicTx t, .closeRx, .drain] .aborted, lock := none }
  | .dropping (item :: todo) out => some (s.dropItem item todo out)
  | .dropping [] out => some { s with worker := .ended out }

/-- The runtime begins a poll, unless the future has been aborted. -/
def pollWorker (s : Sys S F R) : Option (Sys S F R) :=
  if s.aborting then none else
    match s.worker with
    | .recv true => some { s with worker := .recv false }
    | .asyncBody t f true => some { s with worker := .asyncBody t f false }
    | .awaitBlocking t true => some { s with worker := .awaitBlocking t false }
    | _ => none

/-- The poll returns `Pending` at an await of tokio's: nothing is there, or the
task's budget is spent. -/
def yieldWorker (s : Sys S F R) : Option (Sys S F R) :=
  match s.worker with
  | .recv false => some { s with worker := .recv true }
  | .awaitBlocking t false => some { s with worker := .awaitBlocking t true }
  | _ => none

/-- The runtime drops the future at the await where it is parked. -/
def dropWorker (s : Sys S F R) : Option (Sys S F R) :=
  if s.aborting ∨ s.down then
    match s.worker with
    | .recv true => some { s with worker := .dropping [.closeRx, .drain] .aborted }
    | .asyncBody t f true => some { s with worker := .dropBody t f }
    | .awaitBlocking t true => some { s with worker := .dropping [.panicTx t, .closeRx, .drain] .aborted }
    | _ => none
  else none

/-! ### The blocking closure (in `spawn_worker`) -/

/-- The closure goes on. -/
def poolStep (B : Bodies S F R PanicPayload) (s : Sys S F R) : Option (Sys S F R) :=
  match s.pool with
  | .idle | .done _ _ | .cancelled _ => none
  | .queued t f =>
    if s.lock = none then some { s with pool := .locked t f, lock := some .pool }
    else some { s with pool := .dropRaw t }
  | .locked t f =>
    if s.value.isSome then some { s.startBody t with pool := .running t f }
    else some { s with pool := .dropRaw t, lock := none }
  | .running t f =>
    match s.value with
    | none => none
    | some v =>
      match B.poll f v with
      | (v', .pending f') => some { s.ranSegment t v' .running with pool := .running t f' }
      | (v', .ready r) => some { s.ranSegment t v' (.completed r) with pool := .send t r }
      | (v', .panicked p) => some { s.ranSegment t v' (.panicked p) with pool := .unwind t p }
  | .send t r => some { s.modTask t (·.sendResult r) with pool := .unlock t (.ok ()) }
  | .unwind t p => some { s.modTask t (·.closeResult) with pool := .unlock t (.error p) }
  | .unlock t res => some { s with pool := .done t (some res), lock := none }
  | .dropRaw t => some { s.modTask t (·.closeResult) with pool := .done t none }

/-- A runtime that shuts down drops the closures it has not started. -/
def dropQueued (s : Sys S F R) : Option (Sys S F R) :=
  if s.down then
    match s.pool with
    | .queued t _ => some { s.modTask t (·.closeResult) with pool := .cancelled t }
    | _ => none
  else none

/-! ### Cancelling a task (`TaskCancellerImpl::cancel`) -/

/-- The next access of `TaskCancellerImpl::cancel` on task `t`, by a caller whose
reference is `o` and whose take counts as `x`. -/
def cancelImpl (s : Sys S F R) (t : ℕ) (o : Owner) (x : Taker) : CancelPc → Option (Sys S F R × CancelPc)
  | .upgrade =>
    if (s.tasks t).owners.Nonempty then some (s.modTask t (·.share o), .take) else some (s, .done false)
  | .take =>
    match (s.tasks t).repr.take.1 with
    | some _ => some (s.modTask t (·.takenBy x), .dropRaw)
    | none => some (s.modTask t fun k => k.takeFailed.release o, .done false)
  | .dropRaw => some (s.modTask t (·.closeResult), .dropPanicTx)
  | .dropPanicTx => some (s.modTask t fun k => k.closePanic.release o, .store)
  | .store => some (s.modTask t fun k => { k with isCancelled := true }, .done true)
  | .done _ => none

/-- `cancel()` is called, on the handle of task `t` or on a canceller obtained
from it. The handle of a rejected task has nothing to cancel. -/
def cancelStart (s : Sys S F R) (i t : ℕ) : Option (Sys S F R) :=
  if s.cancels i = .absent then
    match (s.tasks t).handle with
    | .absent | .sendFailed _ | .sendFailedMsg _ => none
    | _ =>
      some { s with cancels := Function.update s.cancels i
                      (if (s.tasks t).cancellable then .flag t else .run t (.done false)) }
  else none

/-- Call `i` goes on (`TaskHandle::try_cancel`). -/
def cancelStep (s : Sys S F R) (i : ℕ) : Option (Sys S F R) :=
  match s.cancels i with
  | .absent => none
  | .flag t =>
    match s.flag with
    | none => some { s with fault := some .flagsCorrupted }
    | some .runningOrRuntimeShutdown =>
      some { s with cancels := Function.update s.cancels i (.run t .upgrade) }
    | some _ => some { s with cancels := Function.update s.cancels i (.run t (.done false)) }
  | .run t c =>
    (s.cancelImpl t (.canceller i) (.canceller i) c).map fun (s', c') =>
      { s' with cancels := Function.update s'.cancels i (.run t c') }

/-! ### Polling a handle (`TaskHandle::poll`) -/

/-- The first match of `TaskHandle::poll`, on what the receiver resolved to. -/
def ofReady : TaskResult R → TaskHandle R
  | .ok r => .resolved (.ok r)
  | .error (some p) => .resolved (.error (.taskPanic p))
  | .error none => .spawned .isCancelled

/-- A poll begins. The handle of a rejected task resolves at once. -/
def pollStart (s : Sys S F R) (t : ℕ) : Option (Sys S F R) :=
  match (s.tasks t).handle with
  | .spawned .fresh | .spawned .pending =>
    some (s.modTask t fun k => { k with receiver := k.receiver.renew, handle := .spawned .panicRx })
  | .unspawned reason => some (s.setHandle t (.resolved (.error reason.toTaskError)))
  | _ => none

/-- The poll goes on, from the point `pc`, with budget `b` for an inner poll. -/
def pollStepAt (s : Sys S F R) (t : ℕ) (b : Budget) : PollPc → Option (Sys S F R)
  | .fresh | .pending => none
  | .panicRx =>
    match (s.tasks t).receiver.pollPanicRx b with
    | none => some { s with fault := some .polledAfterComplete }
    | some (x, .pending) => some (s.modTask t fun k => { k with receiver := x, handle := .spawned .resultRx })
    | some (x, .ready o) => some (s.modTask t fun k => { k with receiver := x, handle := ofReady o })
  | .resultRx =>
    match (s.tasks t).receiver.pollResultRx b with
    | none => some { s with fault := some .polledAfterComplete }
    | some (x, .pending) => some (s.modTask t fun k => { k with receiver := x, handle := .spawned .pendingFlag })
    | some (x, .ready o) => some (s.modTask t fun k => { k with receiver := x, handle := ofReady o })
  | .isCancelled =>
    if (s.tasks t).isCancelled then some (s.setHandle t (.resolved (.error .taskCancelled)))
    else some (s.setHandle t (.spawned .flag))
  | .flag =>
    match s.flag with
    | none => some { s with fault := some .flagsCorrupted }
    | some .abortStarted => some (s.setHandle t (.resolved (.error .workerAborted)))
    | some .cancelStarted => some (s.setHandle t (.resolved (.error .workerCancelled)))
    | some .taskPanicked => some (s.setHandle t (.spawned .panicMsg))
    | some .runningOrRuntimeShutdown => some (s.setHandle t (.resolved (.error .runtimeShutdown)))
  | .panicMsg => some (s.setHandle t (.resolved (.error (.prevTaskPanic s.status.panicMsg))))
  | .pendingFlag =>
    match s.flag with
    | none => some { s with fault := some .flagsCorrupted }
    | some .cancelStarted => some (s.setHandle t (.spawned (.cancel .upgrade)))
    | some _ => some (s.setHandle t (.spawned .pending))
  | .cancel (.done true) => some (s.setHandle t (.resolved (.error .workerCancelled)))
  | .cancel (.done false) => some (s.setHandle t (.spawned .pending))
  | .cancel c =>
    (s.cancelImpl t .handle .handle c).map fun (s', c') => s'.setHandle t (.spawned (.cancel c'))

/-- The poll of task `t`'s handle goes on. -/
def pollStep (s : Sys S F R) (t : ℕ) (b : Budget) : Option (Sys S F R) :=
  match (s.tasks t).handle with
  | .spawned pc => s.pollStepAt t b pc
  | _ => none

/-! ### Spawning (`WorkerHandle::send`, `WorkerTaskSender::send`) -/

/-- Task `s.next` comes into being. -/
@[simp, grind] def addTask (s : Sys S F R) (raw : RawTask F) (k : Task F R) : Sys S F R :=
  { s with tasks := Function.update s.tasks s.next k, next := s.next + 1,
           body := Function.update s.body s.next (some raw.body) }

/-- `UnboundedSender::send`: the queue takes the task while its receiver is there. -/
def send (s : Sys S F R) (via : Via) (raw : RawTask F) : Sys S F R :=
  if s.rxOpen then
    { s.addTask raw (.accepted raw) with queue := s.queue ++ [s.next], accepted := s.accepted ++ [s.next] }
  else s.addTask raw (.rejected (.sendFailed via))

/-- A call of `spawn` up to its send, by the worker handle or by a spawner whose
cell it looks into under the lock. -/
def spawn (s : Sys S F R) (via : Via) (raw : RawTask F) : Option (Sys S F R) :=
  match via with
  | .worker =>
    match s.handle with
    | .live => some (s.send .worker raw)
    | _ => none
  | .spawner i =>
    if (s.spawners i).alive then
      if (s.cells (s.spawners i).cell).ctx then some (s.send (.spawner i) raw)
      else some (s.addTask raw (.rejected (.unspawned .taskSenderUnavailable)))
    else none

/-- The call of `spawn` whose send failed loads the flag, and after that the
panic message. -/
def sendFailed (s : Sys S F R) (t : ℕ) : Option (Sys S F R) :=
  match (s.tasks t).handle with
  | .sendFailed via =>
    match s.flag with
    | none => some { s with fault := some .flagsCorrupted }
    | some .taskPanicked => some (s.setHandle t (.sendFailedMsg via))
    | some .runningOrRuntimeShutdown => some (s.setHandle t (.unspawned .runtimeShutdown))
    | some _ =>
      match via with
      | .worker => some { s with fault := some .unreachableSend }
      | .spawner _ => some (s.setHandle t (.unspawned .taskSenderUnavailable))
  | .sendFailedMsg _ => some (s.setHandle t (.unspawned (.prevTaskPanic s.status.panicMsg)))
  | _ => none

/-- Some call of `spawn` by `via` has not returned: it borrows its caller. -/
def sending (s : Sys S F R) (via : Via) : Bool :=
  (List.range s.next).any fun t =>
    match (s.tasks t).handle with
    | .sendFailed v | .sendFailedMsg v => v = via
    | _ => false

/-! ### Spawners (`WorkerHandle::sender`, `WorkerHandle::close_senders`) -/

/-- `WorkerHandle::sender`: the spawner shares the handle's cell. -/
def addSpawner (s : Sys S F R) : Option (Sys S F R) :=
  match s.handle with
  | .live =>
    let c := s.cells s.cell
    some { s with
      cells := Function.update s.cells s.cell { c with owners := insert (.spawner s.nextSpawner) c.owners },
      spawners := Function.update s.spawners s.nextSpawner ⟨s.cell, true⟩,
      nextSpawner := s.nextSpawner + 1 }
  | _ => none

/-- `o` lets go of cell `c`. With the last reference goes the context, and with
that its sender of the queue. -/
@[simp, grind] def releaseCell (s : Sys S F R) (c : ℕ) (o : CellOwner) : Sys S F R :=
  let owners := (s.cells c).owners.erase o
  { s with
    cells := Function.update s.cells c ⟨if owners = ∅ then false else (s.cells c).ctx, owners⟩
    senders := if owners = ∅ then s.senders.erase (.cell c) else s.senders }

/-- Spawner `i` is dropped. -/
def dropSpawner (s : Sys S F R) (i : ℕ) : Option (Sys S F R) :=
  if (s.spawners i).alive ∧ ¬ s.sending (.spawner i) then
    some { s.releaseCell (s.spawners i).cell (.spawner i) with
             spawners := Function.update s.spawners i { s.spawners i with alive := false } }
  else none

/-- `WorkerHandle::close_senders`: the context moves out of the old cell, under
its lock, into a new one that only the handle knows. -/
@[simp, grind] def closeSenders (s : Sys S F R) : Sys S F R :=
  let ctx := (s.cells s.cell).ctx
  { s with
    cell := s.nextCell
    nextCell := s.nextCell + 1
    cells := Function.update
      (Function.update s.cells s.cell ⟨false, (s.cells s.cell).owners.erase .worker⟩) s.nextCell ⟨ctx, {.worker}⟩
    senders := if ctx then insert (.cell s.nextCell) (s.senders.erase (.cell s.cell)) else s.senders }

/-- `WorkerHandle::close_spawners`, by exclusive reference. -/
def closeSpawners (s : Sys S F R) : Option (Sys S F R) :=
  match s.handle with
  | .live => if s.sending .worker then none else some s.closeSenders
  | _ => none

/-! ### Consuming the handle (`join`, `abort`, `cancel`, ...) -/

/-- The handle is consumed, by value: no call borrows it. `join` begins by
dropping the senders, and dropping the handle drops its fields in order. -/
def consume (s : Sys S F R) (op : Consume) : Option (Sys S F R) :=
  match s.handle with
  | .live =>
    if s.sending .worker then none else
      match op with
      | .join => some { s with handle := .dropCtx op }
      | .drop => some { s with handle := .dropTx op }
      | _ => some { s with handle := .isFinished op }
  | _ => none

/-- Where an operation goes when the last sender of the handle is dropped. -/
def afterSenders : Consume → HandlePc S
  | .join => .awaitWorker .join
  | .abortAndJoin => .awaitWorker .abortAndJoin
  | .cancelAndJoin => .awaitWorker .cancelAndJoin
  | .abort => .gone .abort
  | .cancel => .gone .cancel
  | .drop => .gone .drop

/-- What an operation makes of the result of `join_worker`: `abort_and_join`
reports an abort where the others report the state. -/
def finishJoin (op : Consume) : Except (WorkerJoinError S) S → JoinResult S
  | .ok v =>
    match op with
    | .abortAndJoin => .error ⟨.workerAborted v⟩
    | _ => .ok v
  | .error e => .error ⟨e⟩

/-- The last match of `join_worker`, up to the read of the panic message. -/
def decideJoin (s : Sys S F R) (op : Consume) (out : WorkerOut) (v : S) : Sys S F R :=
  match out with
  | .ok => { s with handle := .returned op (finishJoin op (.ok v)) }
  | .err =>
    match s.flag with
    | none => { s with fault := some .flagsCorrupted }
    | some .abortStarted => { s with handle := .returned op (finishJoin op (.error (.workerAborted v))) }
    | some .taskPanicked => { s with handle := .readPanicMsg op v }
    | some .cancelStarted => { s with handle := .returned op (finishJoin op (.error (.runtimeShutdown v))) }
    | some .runningOrRuntimeShutdown =>
      { s with handle := .returned op (finishJoin op (.error (.runtimeShutdown v))) }
  | .aborted => { s with handle := .returned op (finishJoin op (.error (.runtimeShutdown v))) }

/-- The operation that consumed the handle goes on. -/
def handleStep (s : Sys S F R) : Option (Sys S F R) :=
  match s.handle with
  | .live | .returned _ _ | .gone _ => none
  -- if !self.worker_handle.is_finished()
  | .isFinished op =>
    match s.worker with
    | .ended _ => some { s with handle := .closeSenders op }
    | _ => some { s with handle := .trySet op }
  | .trySet op =>
    match op with
    | .abort | .abortAndJoin =>
      if s.status.trySetAbortStarted.1 then
        some { s with handle := .abortWorker op, status := s.status.trySetAbortStarted.2 }
      else some { s with handle := .closeSenders op, status := s.status.trySetAbortStarted.2 }
    | _ => some { s with handle := .closeSenders op, status := s.status.trySetCancelStarted.2 }
  | .abortWorker op => some { s with handle := .closeSenders op, aborting := true }
  | .closeSenders op => some { s.closeSenders with handle := .dropCtx op }
  | .dropCtx op =>
    some { s.releaseCell s.cell .worker with handle := if op = .drop then .gone op else .dropTx op }
  | .dropTx op =>
    some { s with senders := s.senders.erase .handle,
                  handle := if op = .drop then .dropCtx op else afterSenders op }
  -- worker_handle.await
  | .awaitWorker op =>
    match s.worker with
    | .ended out => some { s with handle := .lockState op out }
    | _ => none
  -- state.lock().await.take().expect(..)
  | .lockState op out =>
    if s.lock = none then some { s with handle := .takeState op out, lock := some .join } else none
  | .takeState op out =>
    match s.value with
    | none => some { s with fault := some .stateMissing }
    | some v => some { s with handle := .unlockState op out v, value := none }
  | .unlockState op out v => some { s with handle := .decide op out v, lock := none }
  | .decide op out v => some (s.decideJoin op out v)
  | .readPanicMsg op v =>
    some { s with handle := .returned op (finishJoin op (.error (.anyTaskPanic s.status.panicMsg v))) }

/-- The future of a join is dropped where it waits. -/
def dropJoin (s : Sys S F R) : Option (Sys S F R) :=
  match s.handle with
  | .awaitWorker op | .lockState op _ => some { s with handle := .gone op }
  | _ => none

/-! ### What the other methods of the public types answer -/

/-- `WorkerHandle::has_panicked`. -/
def hasPanicked (s : Sys S F R) : Bool := s.flag = some .taskPanicked

/-- `TaskSpawner::is_unavailable`. -/
def spawnerIsUnavailable (s : Sys S F R) (i : ℕ) : Bool := !(s.cells (s.spawners i).cell).ctx

/-- `TaskSpawner::has_panicked`. -/
def spawnerHasPanicked (s : Sys S F R) (i : ℕ) : Option Bool :=
  if (s.cells (s.spawners i).cell).ctx then
    match s.flag with
    | some .taskPanicked => some true
    | some .runningOrRuntimeShutdown => some false
    | _ => none
  else none

/-! ### The step function -/

/-- What action `a` leads to. -/
def step (B : Bodies S F R PanicPayload) (s : Sys S F R) : Act F → Option (Sys S F R)
  | .spawn via raw => s.spawn via raw
  | .sendFailed t => s.sendFailed t
  | .spawner => s.addSpawner
  | .dropSpawner i => s.dropSpawner i
  | .closeSpawners => s.closeSpawners
  | .consume op => s.consume op
  | .handle => s.handleStep
  | .dropJoin => s.dropJoin
  | .pollWorker => s.pollWorker
  | .worker => s.workerStep B
  | .yield => s.yieldWorker
  | .dropWorker => s.dropWorker
  | .pool => s.poolStep B
  | .dropQueued => s.dropQueued
  | .shutdown => some { s with down := true }
  | .poll t => s.pollStart t
  | .pollStep t b => s.pollStep t b
  | .cancel i t => s.cancelStart i t
  | .cancelStep i => s.cancelStep i

/-- A run of the system, all of whose steps meet `C`. -/
abbrev Run (B : Bodies S F R PanicPayload) (C : Sys S F R → Act F → Prop) : Sys S F R → Sys S F R → Prop :=
  Runs.Steps (step B) C

/-- The states that a worker spawned with `v` can reach. -/
def Reachable (B : Bodies S F R PanicPayload) (v : S) (s : Sys S F R) : Prop :=
  Run B Runs.Any (init v) s

end Sys

end AsyncSequential
