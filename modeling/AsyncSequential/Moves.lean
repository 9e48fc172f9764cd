import AsyncSequential.Step

/-!
# What a step can do

The step function read backwards: for each party one inductive relation whose
constructors are the moves the party can make, each with what it found and what
it left. `move_of_step` says that a step is one of these moves; the invariants
are proved of the moves, by cases, and unfold no step function.
-/

namespace AsyncSequential

variable {S F R : Type*}

namespace Sys

variable {B : Bodies S F R PanicPayload} {s s' : Sys S F R}

/-- The moves of the worker future, within a poll or while it drops its variables. -/
inductive WorkerMove (B : Bodies S F R PanicPayload) (s : Sys S F R) : Sys S F R → Prop
  | recv {t : ℕ} {q : List ℕ} (hw : s.worker = .recv false) (hq : s.queue = t :: q) :
      WorkerMove B s { s with worker := .dequeued t, queue := q, popped := s.popped ++ [t] }
  | recvNone (hw : s.worker = .recv false) (hq : s.queue = []) (hs : s.senders = ∅) :
      WorkerMove B s { s with worker := .dropping [.closeRx, .drain] .ok }
  | corrupted {t : ℕ} (hw : s.worker = .dequeued t) (hf : s.flag = none) :
      WorkerMove B s { s with fault := some .flagsCorrupted }
  | break {t : ℕ} (hw : s.worker = .dequeued t) (hf : s.flag = some .cancelStarted) :
      WorkerMove B s { s with worker := .dropping [.message t, .closeRx, .drain] .ok }
  | check {t : ℕ} {fl : WorkerFlagSnapshot} (hw : s.worker = .dequeued t) (hf : s.flag = some fl)
      (hfl : fl ≠ .cancelStarted) : WorkerMove B s { s with worker := .checked t }
  | take {t : ℕ} {raw : RawTask F} (hw : s.worker = .checked t) (hk : (s.tasks t).repr.take.1 = some raw) :
      WorkerMove B s
        { s.modTask t fun k => (k.takenBy .worker).release .message with worker := .took t raw }
  | skip {t : ℕ} (hw : s.worker = .checked t) (hk : (s.tasks t).repr.take.1 = none) :
      WorkerMove B s { s.modTask t fun k => k.takeFailed.release .message with worker := .recv false }
  | spawnBlocking {t : ℕ} {f : F} (hw : s.worker = .took t (.blocking f)) :
      WorkerMove B s { s with worker := .awaitBlocking t false, pool := .queued t f }
  | startAsync {t : ℕ} {f : F} {v : S} (hw : s.worker = .took t (.async f)) (hl : s.lock = none)
      (hv : s.value = some v) :
      WorkerMove B s { s.startBody t with worker := .asyncBody t f false, lock := some .worker }
  | failAsync {t : ℕ} {f : F} (hw : s.worker = .took t (.async f))
      (hl : ¬ (s.lock = none ∧ s.value.isSome)) :
      WorkerMove B s { s with worker := .dropping [.resultTx t, .panicTx t, .closeRx, .drain] .err }
  | asyncPending {t : ℕ} {f f' : F} {v v' : S} (hw : s.worker = .asyncBody t f false)
      (hv : s.value = some v) (hp : B.poll f v = (v', .pending f')) :
      WorkerMove B s { s.ranSegment t v' .running with worker := .asyncBody t f' true }
  | asyncReady {t : ℕ} {f : F} {v v' : S} {r : R} (hw : s.worker = .asyncBody t f false)
      (hv : s.value = some v) (hp : B.poll f v = (v', .ready r)) :
      WorkerMove B s { s.ranSegment t v' (.completed r) with worker := .asyncSend t r }
  | asyncPanicked {t : ℕ} {f : F} {v v' : S} {p : PanicPayload} (hw : s.worker = .asyncBody t f false)
      (hv : s.value = some v) (hp : B.poll f v = (v', .panicked p)) :
      WorkerMove B s { s.ranSegment t v' (.panicked p) with worker := .asyncUnwind t p }
  | asyncSend {t : ℕ} {r : R} (hw : s.worker = .asyncSend t r) :
      WorkerMove B s { s.modTask t (·.sendResult r) with worker := .asyncUnlock t (.ok ()) }
  | asyncUnwind {t : ℕ} {p : PanicPayload} (hw : s.worker = .asyncUnwind t p) :
      WorkerMove B s { s.modTask t (·.closeResult) with worker := .asyncUnlock t (.error p) }
  | asyncUnlock {t : ℕ} {res : Caught} (hw : s.worker = .asyncUnlock t res) :
      WorkerMove B s { s with worker := .result t res, lock := none }
  | joined {t u : ℕ} {res : Caught} (hw : s.worker = .awaitBlocking t false)
      (hp : s.pool = .done u (some res)) :
      WorkerMove B s { s with worker := .result t res, pool := .idle }
  | joinedNone {t u : ℕ} (hw : s.worker = .awaitBlocking t false)
      (hp : s.pool = .done u none ∨ s.pool = .cancelled u) :
      WorkerMove B s { s with worker := .dropping [.panicTx t, .closeRx, .drain] .err, pool := .idle }
  | notJoined {t : ℕ} (hw : s.worker = .awaitBlocking t false) :
      WorkerMove B s { s with worker := .awaitBlocking t true }
  | succeeded {t : ℕ} (hw : s.worker = .result t (.ok ())) :
      WorkerMove B s { s.modTask t (·.closePanic) with worker := .recv false }
  | setMsg {t : ℕ} {p : PanicPayload} (hw : s.worker = .result t (.error p)) :
      WorkerMove B s { s with worker := .storePanicked t p, status := s.status.setPanicMsg p.msg }
  | storePanicked {t : ℕ} {p : PanicPayload} (hw : s.worker = .storePanicked t p) :
      WorkerMove B s { s with worker := .sendPanic t p, status := s.status.storeTaskPanicked,
                              panics := s.panics ++ [(t, p)] }
  | sendPanic {t : ℕ} {p : PanicPayload} (hw : s.worker = .sendPanic t p) :
      WorkerMove B s { s.modTask t (·.sendPanic p) with worker := .dropping [.closeRx, .drain] .err }
  | dropBody {t : ℕ} {f : F} (hw : s.worker = .dropBody t f) :
      WorkerMove B s { s with worker := .dropBodyTx t, value := s.value.map (B.drop f),
                              fate := Function.update s.fate t .dropped }
  | dropBodyTx {t : ℕ} (hw : s.worker = .dropBodyTx t) :
      WorkerMove B s { s.modTask t (·.closeResult) with worker := .dropGuard t }
  | dropGuard {t : ℕ} (hw : s.worker = .dropGuard t) :
      WorkerMove B s { s with worker := .dropping [.panicTx t, .closeRx, .drain] .aborted, lock := none }
  | lastMessage {t : ℕ} {todo : List DropItem} {out : WorkerOut}
      (hw : s.worker = .dropping (.message t :: todo) out)
      (ho : (s.tasks t).owners.erase .message = ∅) (hk : (s.tasks t).repr.Full) :
      WorkerMove B s { s.modTask t fun k => (k.release .message).dealloc with
                       worker := .dropping (.resultTx t :: .panicTx t :: todo) out }
  | message {t : ℕ} {todo : List DropItem} {out : WorkerOut}
      (hw : s.worker = .dropping (.message t :: todo) out)
      (ho : ¬ ((s.tasks t).owners.erase .message = ∅ ∧ (s.tasks t).repr.Full)) :
      WorkerMove B s { s.modTask t (·.release .message) with worker := .dropping todo out }
  | resultTx {t : ℕ} {todo : List DropItem} {out : WorkerOut}
      (hw : s.worker = .dropping (.resultTx t :: todo) out) :
      WorkerMove B s { s.modTask t (·.closeResult) with worker := .dropping todo out }
  | panicTx {t : ℕ} {todo : List DropItem} {out : WorkerOut}
      (hw : s.worker = .dropping (.panicTx t :: todo) out) :
      WorkerMove B s { s.modTask t (·.closePanic) with worker := .dropping todo out }
  | closeRx {todo : List DropItem} {out : WorkerOut} (hw : s.worker = .dropping (.closeRx :: todo) out) :
      WorkerMove B s { s with worker := .dropping todo out, rxOpen := false }
  | drained {todo : List DropItem} {out : WorkerOut} (hw : s.worker = .dropping (.drain :: todo) out)
      (hq : s.queue = []) : WorkerMove B s { s with worker := .dropping todo out }
  | drainLast {t : ℕ} {q : List ℕ} {todo : List DropItem} {out : WorkerOut}
      (hw : s.worker = .dropping (.drain :: todo) out) (hq : s.queue = t :: q)
      (ho : (s.tasks t).owners.erase .message = ∅) (hk : (s.tasks t).repr.Full) :
      WorkerMove B s { s.modTask t fun k => (k.release .message).dealloc with
                       worker := .dropping (.resultTx t :: .panicTx t :: .drain :: todo) out,
                       queue := q, drained := s.drained ++ [t] }
  | drain {t : ℕ} {q : List ℕ} {todo : List DropItem} {out : WorkerOut}
      (hw : s.worker = .dropping (.drain :: todo) out) (hq : s.queue = t :: q)
      (ho : ¬ ((s.tasks t).owners.erase .message = ∅ ∧ (s.tasks t).repr.Full)) :
      WorkerMove B s { s.modTask t (·.release .message) with
                       worker := .dropping (.drain :: todo) out, queue := q, drained := s.drained ++ [t] }
  | ended {out : WorkerOut} (hw : s.worker = .dropping [] out) : WorkerMove B s { s with worker := .ended out }

/-- The moves of the runtime. -/
inductive RuntimeMove (s : Sys S F R) : Act F → Sys S F R → Prop
  | pollRecv (ha : s.aborting = false) (hw : s.worker = .recv true) :
      RuntimeMove s .pollWorker { s with worker := .recv false }
  | pollAsync {t : ℕ} {f : F} (ha : s.aborting = false) (hw : s.worker = .asyncBody t f true) :
      RuntimeMove s .pollWorker { s with worker := .asyncBody t f false }
  | pollJoin {t : ℕ} (ha : s.aborting = false) (hw : s.worker = .awaitBlocking t true) :
      RuntimeMove s .pollWorker { s with worker := .awaitBlocking t false }
  | yieldRecv (hw : s.worker = .recv false) : RuntimeMove s .yield { s with worker := .recv true }
  | yieldJoin {t : ℕ} (hw : s.worker = .awaitBlocking t false) :
      RuntimeMove s .yield { s with worker := .awaitBlocking t true }
  | dropRecv (hd : s.aborting = true ∨ s.down = true) (hw : s.worker = .recv true) :
      RuntimeMove s .dropWorker { s with worker := .dropping [.closeRx, .drain] .aborted }
  | dropAsync {t : ℕ} {f : F} (hd : s.aborting = true ∨ s.down = true) (hw : s.worker = .asyncBody t f true) :
      RuntimeMove s .dropWorker { s with worker := .dropBody t f }
  | dropJoin {t : ℕ} (hd : s.aborting = true ∨ s.down = true) (hw : s.worker = .awaitBlocking t true) :
      RuntimeMove s .dropWorker { s with worker := .dropping [.panicTx t, .closeRx, .drain] .aborted }
  | dropQueued {t : ℕ} {f : F} (hd : s.down = true) (hp : s.pool = .queued t f) :
      RuntimeMove s .dropQueued { s.modTask t (·.closeResult) with pool := .cancelled t }
  | shutdown : RuntimeMove s .shutdown { s with down := true }

/-- The moves of the blocking closure. -/
inductive PoolMove (B : Bodies S F R PanicPayload) (s : Sys S F R) : Sys S F R → Prop
  | lock {t : ℕ} {f : F} (hp : s.pool = .queued t f) (hl : s.lock = none) :
      PoolMove B s { s with pool := .locked t f, lock := some .pool }
  | lockFailed {t : ℕ} {f : F} (hp : s.pool = .queued t f) (hl : s.lock ≠ none) :
      PoolMove B s { s with pool := .dropRaw t }
  | start {t : ℕ} {f : F} {v : S} (hp : s.pool = .locked t f) (hv : s.value = some v) :
      PoolMove B s { s.startBody t with pool := .running t f }
  | stateAbsent {t : ℕ} {f : F} (hp : s.pool = .locked t f) (hv : s.value = none) :
      PoolMove B s { s with pool := .dropRaw t, lock := none }
  | pending {t : ℕ} {f f' : F} {v v' : S} (hp : s.pool = .running t f) (hv : s.value = some v)
      (hb : B.poll f v = (v', .pending f')) :
      PoolMove B s { s.ranSegment t v' .running with pool := .running t f' }
  | ready {t : ℕ} {f : F} {v v' : S} {r : R} (hp : s.pool = .running t f) (hv : s.value = some v)
      (hb : B.poll f v = (v', .ready r)) :
      PoolMove B s { s.ranSegment t v' (.completed r) with pool := .send t r }
  | panicked {t : ℕ} {f : F} {v v' : S} {p : PanicPayload} (hp : s.pool = .running t f)
      (hv : s.value = some v) (hb : B.poll f v = (v', .panicked p)) :
      PoolMove B s { s.ranSegment t v' (.panicked p) with pool := .unwind t p }
  | send {t : ℕ} {r : R} (hp : s.pool = .send t r) :
      PoolMove B s { s.modTask t (·.sendResult r) with pool := .unlock t (.ok ()) }
  | unwind {t : ℕ} {p : PanicPayload} (hp : s.pool = .unwind t p) :
      PoolMove B s { s.modTask t (·.closeResult) with pool := .unlock t (.error p) }
  | unlock {t : ℕ} {res : Caught} (hp : s.pool = .unlock t res) :
      PoolMove B s { s with pool := .done t (some res), lock := none }
  | dropRaw {t : ℕ} (hp : s.pool = .dropRaw t) :
      PoolMove B s { s.modTask t (·.closeResult) with pool := .done t none }

/-- The accesses of `TaskCancellerImpl::cancel` on task `t`, by the caller with
reference `o` whose take counts as `x`: what they do to the task. -/
inductive CancelMove (s : Sys S F R) (t : ℕ) (o : Owner) (x : Taker) :
    CancelPc → (Task F R → Task F R) → CancelPc → Prop
  | upgrade (ho : (s.tasks t).owners.Nonempty) : CancelMove s t o x .upgrade (·.share o) .take
  | upgradeFailed (ho : (s.tasks t).owners = ∅) : CancelMove s t o x .upgrade id (.done false)
  | take {raw : RawTask F} (hk : (s.tasks t).repr.take.1 = some raw) :
      CancelMove s t o x .take (·.takenBy x) .dropRaw
  | takeFailed (hk : (s.tasks t).repr.take.1 = none) :
      CancelMove s t o x .take (fun k => k.takeFailed.release o) (.done false)
  | dropRaw : CancelMove s t o x .dropRaw (·.closeResult) .dropPanicTx
  | dropPanicTx : CancelMove s t o x .dropPanicTx (fun k => k.closePanic.release o) .store
  | store : CancelMove s t o x .store (fun k => { k with isCancelled := true }) (.done true)

/-- The moves of public `cancel()` calls. -/
inductive CallMove (s : Sys S F R) : Act F → Sys S F R → Prop
  | start {i t : ℕ} {c : CancelCall} (hi : s.cancels i = .absent)
      (hc : c = if (s.tasks t).cancellable then .flag t else .run t (.done false)) :
      CallMove s (.cancel i t) { s with cancels := Function.update s.cancels i c }
  | corrupted {i t : ℕ} (hi : s.cancels i = .flag t) (hf : s.flag = none) :
      CallMove s (.cancelStep i) { s with fault := some .flagsCorrupted }
  | running {i t : ℕ} (hi : s.cancels i = .flag t) (hf : s.flag = some .runningOrRuntimeShutdown) :
      CallMove s (.cancelStep i) { s with cancels := Function.update s.cancels i (.run t .upgrade) }
  | notRunning {i t : ℕ} {fl : WorkerFlagSnapshot} (hi : s.cancels i = .flag t) (hf : s.flag = some fl)
      (hfl : fl ≠ .runningOrRuntimeShutdown) :
      CallMove s (.cancelStep i) { s with cancels := Function.update s.cancels i (.run t (.done false)) }
  | run {i t : ℕ} {c c' : CancelPc} {g : Task F R → Task F R} (hi : s.cancels i = .run t c)
      (hm : CancelMove s t (.canceller i) (.canceller i) c g c') :
      CallMove s (.cancelStep i) { s.modTask t g with cancels := Function.update s.cancels i (.run t c') }

/-- The moves of the poll of task `t`'s handle: what they do to the task. -/
inductive PollMove (s : Sys S F R) (t : ℕ) (b : Budget) : (Task F R → Task F R) → Prop
  | panicRx {x : TaskResultReceiver R} (hh : (s.tasks t).handle = .spawned .panicRx)
      (hx : (s.tasks t).receiver.pollPanicRx b = some (x, .pending)) :
      PollMove s t b fun k => { k with receiver := x, handle := .spawned .resultRx }
  | panicRxReady {x : TaskResultReceiver R} {o : TaskResult R} (hh : (s.tasks t).handle = .spawned .panicRx)
      (hx : (s.tasks t).receiver.pollPanicRx b = some (x, .ready o)) :
      PollMove s t b fun k => { k with receiver := x, handle := ofReady o }
  | resultRx {x : TaskResultReceiver R} (hh : (s.tasks t).handle = .spawned .resultRx)
      (hx : (s.tasks t).receiver.pollResultRx b = some (x, .pending)) :
      PollMove s t b fun k => { k with receiver := x, handle := .spawned .pendingFlag }
  | resultRxReady {x : TaskResultReceiver R} {o : TaskResult R} (hh : (s.tasks t).handle = .spawned .resultRx)
      (hx : (s.tasks t).receiver.pollResultRx b = some (x, .ready o)) :
      PollMove s t b fun k => { k with receiver := x, handle := ofReady o }
  | isCancelled (hh : (s.tasks t).handle = .spawned .isCancelled) (hc : (s.tasks t).isCancelled = true) :
      PollMove s t b (·.setHandle (.resolved (.error .taskCancelled)))
  | notCancelled (hh : (s.tasks t).handle = .spawned .isCancelled) (hc : (s.tasks t).isCancelled = false) :
      PollMove s t b (·.setHandle (.spawned .flag))
  | aborted (hh : (s.tasks t).handle = .spawned .flag) (hf : s.flag = some .abortStarted) :
      PollMove s t b (·.setHandle (.resolved (.error .workerAborted)))
  | cancelled (hh : (s.tasks t).handle = .spawned .flag) (hf : s.flag = some .cancelStarted) :
      PollMove s t b (·.setHandle (.resolved (.error .workerCancelled)))
  | panicked (hh : (s.tasks t).handle = .spawned .flag) (hf : s.flag = some .taskPanicked) :
      PollMove s t b (·.setHandle (.spawned .panicMsg))
  | shutdown (hh : (s.tasks t).handle = .spawned .flag) (hf : s.flag = some .runningOrRuntimeShutdown) :
      PollMove s t b (·.setHandle (.resolved (.error .runtimeShutdown)))
  | panicMsg (hh : (s.tasks t).handle = .spawned .panicMsg) :
      PollMove s t b (·.setHandle (.resolved (.error (.prevTaskPanic s.status.panicMsg))))
  | pendingCancel (hh : (s.tasks t).handle = .spawned .pendingFlag) (hf : s.flag = some .cancelStarted) :
      PollMove s t b (·.setHandle (.spawned (.cancel .upgrade)))
  | pending {fl : WorkerFlagSnapshot} (hh : (s.tasks t).handle = .spawned .pendingFlag)
      (hf : s.flag = some fl) (hfl : fl ≠ .cancelStarted) : PollMove s t b (·.setHandle (.spawned .pending))
  | cancelDone (hh : (s.tasks t).handle = .spawned (.cancel (.done true))) :
      PollMove s t b (·.setHandle (.resolved (.error .workerCancelled)))
  | cancelFailed (hh : (s.tasks t).handle = .spawned (.cancel (.done false))) :
      PollMove s t b (·.setHandle (.spawned .pending))
  | cancel {c c' : CancelPc} {g : Task F R → Task F R} (hh : (s.tasks t).handle = .spawned (.cancel c))
      (hm : CancelMove s t .handle .handle c g c') :
      PollMove s t b fun k => (g k).setHandle (.spawned (.cancel c'))

/-- The moves of task handles. -/
inductive TaskHandleMove (s : Sys S F R) : Act F → Sys S F R → Prop
  | start {t : ℕ} (hh : (s.tasks t).handle = .spawned .fresh ∨ (s.tasks t).handle = .spawned .pending) :
      TaskHandleMove s (.poll t)
        (s.modTask t fun k => { k with receiver := k.receiver.renew, handle := .spawned .panicRx })
  | unspawned {t : ℕ} {reason : WorkerSendError} (hh : (s.tasks t).handle = .unspawned reason) :
      TaskHandleMove s (.poll t) (s.setHandle t (.resolved (.error reason.toTaskError)))
  | step {t : ℕ} {b : Budget} {g : Task F R → Task F R} (hm : PollMove s t b g) :
      TaskHandleMove s (.pollStep t b) (s.modTask t g)
  | corrupted {t : ℕ} {b : Budget} (hf : s.flag = none) :
      TaskHandleMove s (.pollStep t b) { s with fault := some .flagsCorrupted }
  | polledPanicRx {t : ℕ} {b : Budget} (hh : (s.tasks t).handle = .spawned .panicRx)
      (hx : (s.tasks t).receiver.pollPanicRx b = none) :
      TaskHandleMove s (.pollStep t b) { s with fault := some .polledAfterComplete }
  | polledResultRx {t : ℕ} {b : Budget} (hh : (s.tasks t).handle = .spawned .resultRx)
      (hx : (s.tasks t).receiver.pollResultRx b = none) :
      TaskHandleMove s (.pollStep t b) { s with fault := some .polledAfterComplete }

/-- Who may send on the queue: the worker handle, or a spawner whose cell has a context. -/
def CanSend (s : Sys S F R) (via : Via) : Prop :=
  (via = .worker ∧ s.handle = .live) ∨
    ∃ i, via = .spawner i ∧ (s.spawners i).alive = true ∧ (s.cells (s.spawners i).cell).ctx = true

/-- The moves of those who spawn, through the worker handle or a spawner. -/
inductive SpawnMove (s : Sys S F R) : Act F → Sys S F R → Prop
  | accept {via : Via} {raw : RawTask F} (ho : s.rxOpen = true) (hv : s.CanSend via) :
      SpawnMove s (.spawn via raw) { s.addTask raw (.accepted raw) with
        queue := s.queue ++ [s.next], accepted := s.accepted ++ [s.next] }
  | reject {via : Via} {raw : RawTask F} (ho : s.rxOpen = false) (hv : s.CanSend via) :
      SpawnMove s (.spawn via raw) (s.addTask raw (.rejected (.sendFailed via)))
  | unavailable {i : ℕ} {raw : RawTask F} (ha : (s.spawners i).alive = true)
      (hc : (s.cells (s.spawners i).cell).ctx = false) :
      SpawnMove s (.spawn (.spawner i) raw) (s.addTask raw (.rejected (.unspawned .taskSenderUnavailable)))
  | corrupted {t : ℕ} {via : Via} (hh : (s.tasks t).handle = .sendFailed via) (hf : s.flag = none) :
      SpawnMove s (.sendFailed t) { s with fault := some .flagsCorrupted }
  | panicked {t : ℕ} {via : Via} (hh : (s.tasks t).handle = .sendFailed via)
      (hf : s.flag = some .taskPanicked) : SpawnMove s (.sendFailed t) (s.setHandle t (.sendFailedMsg via))
  | shutdown {t : ℕ} {via : Via} (hh : (s.tasks t).handle = .sendFailed via)
      (hf : s.flag = some .runningOrRuntimeShutdown) :
      SpawnMove s (.sendFailed t) (s.setHandle t (.unspawned .runtimeShutdown))
  | unreachable {t : ℕ} (hh : (s.tasks t).handle = .sendFailed .worker)
      (hf : s.flag = some .abortStarted ∨ s.flag = some .cancelStarted) :
      SpawnMove s (.sendFailed t) { s with fault := some .unreachableSend }
  | closed {t i : ℕ} (hh : (s.tasks t).handle = .sendFailed (.spawner i))
      (hf : s.flag = some .abortStarted ∨ s.flag = some .cancelStarted) :
      SpawnMove s (.sendFailed t) (s.setHandle t (.unspawned .taskSenderUnavailable))
  | panicMsg {t : ℕ} {via : Via} (hh : (s.tasks t).handle = .sendFailedMsg via) :
      SpawnMove s (.sendFailed t) (s.setHandle t (.unspawned (.prevTaskPanic s.status.panicMsg)))

/-- The moves of spawners: obtaining, dropping and closing them. -/
inductive SpawnerMove (s : Sys S F R) : Act F → Sys S F R → Prop
  | obtain (hh : s.handle = .live) :
      SpawnerMove s .spawner { s with
        cells := Function.update s.cells s.cell
          { s.cells s.cell with owners := insert (.spawner s.nextSpawner) (s.cells s.cell).owners },
        spawners := Function.update s.spawners s.nextSpawner ⟨s.cell, true⟩,
        nextSpawner := s.nextSpawner + 1 }
  | drop {i : ℕ} (ha : (s.spawners i).alive = true) (hs : s.sending (.spawner i) = false) :
      SpawnerMove s (.dropSpawner i) { s.releaseCell (s.spawners i).cell (.spawner i) with
        spawners := Function.update s.spawners i { s.spawners i with alive := false } }
  | close (hh : s.handle = .live) (hs : s.sending .worker = false) :
      SpawnerMove s .closeSpawners s.closeSenders

/-- The moves of the worker handle, from its consumption on. -/
inductive HandleMove (s : Sys S F R) : Act F → Sys S F R → Prop
  | consume {op : Consume} {h : HandlePc S} (hh : s.handle = .live) (hs : s.sending .worker = false)
      (hp : (op = .join ∧ h = .dropCtx op) ∨ (op = .drop ∧ h = .dropTx op) ∨
        (op ≠ .join ∧ op ≠ .drop ∧ h = .isFinished op)) :
      HandleMove s (.consume op) { s with handle := h }
  | finished {op : Consume} {out : WorkerOut} (hh : s.handle = .isFinished op) (hw : s.worker = .ended out) :
      HandleMove s .handle { s with handle := .closeSenders op }
  | notFinished {op : Consume} (hh : s.handle = .isFinished op) :
      HandleMove s .handle { s with handle := .trySet op }
  | setAbort {op : Consume} (hh : s.handle = .trySet op) (ho : op = .abort ∨ op = .abortAndJoin)
      (hf : s.flag = some .runningOrRuntimeShutdown) :
      HandleMove s .handle { s with handle := .abortWorker op, status := s.status.trySetAbortStarted.2 }
  | setCancel {op : Consume} (hh : s.handle = .trySet op) (ho : ¬ (op = .abort ∨ op = .abortAndJoin))
      (hf : s.flag = some .runningOrRuntimeShutdown) :
      HandleMove s .handle { s with handle := .closeSenders op, status := s.status.trySetCancelStarted.2 }
  | setFailed {op : Consume} (hh : s.handle = .trySet op) (hf : s.flag ≠ some .runningOrRuntimeShutdown) :
      HandleMove s .handle { s with handle := .closeSenders op }
  | abortWorker {op : Consume} (hh : s.handle = .abortWorker op) :
      HandleMove s .handle { s with handle := .closeSenders op, aborting := true }
  | closeSenders {op : Consume} (hh : s.handle = .closeSenders op) :
      HandleMove s .handle { s.closeSenders with handle := .dropCtx op }
  | dropCtx {op : Consume} (hh : s.handle = .dropCtx op) :
      HandleMove s .handle
        { s.releaseCell s.cell .worker with handle := if op = .drop then .gone op else .dropTx op }
  | dropTx {op : Consume} (hh : s.handle = .dropTx op) :
      HandleMove s .handle { s with senders := s.senders.erase .handle,
                                    handle := if op = .drop then .dropCtx op else afterSenders op }
  | workerEnded {op : Consume} {out : WorkerOut} (hh : s.handle = .awaitWorker op)
      (hw : s.worker = .ended out) : HandleMove s .handle { s with handle := .lockState op out }
  | lockState {op : Consume} {out : WorkerOut} (hh : s.handle = .lockState op out) (hl : s.lock = none) :
      HandleMove s .handle { s with handle := .takeState op out, lock := some .join }
  | takeState {op : Consume} {out : WorkerOut} {v : S} (hh : s.handle = .takeState op out)
      (hv : s.value = some v) : HandleMove s .handle { s with handle := .unlockState op out v, value := none }
  | stateMissing {op : Consume} {out : WorkerOut} (hh : s.handle = .takeState op out) (hv : s.value = none) :
      HandleMove s .handle { s with fault := some .stateMissing }
  | unlockState {op : Consume} {out : WorkerOut} {v : S} (hh : s.handle = .unlockState op out v) :
      HandleMove s .handle { s with handle := .decide op out v, lock := none }
  | decideOk {op : Consume} {v : S} (hh : s.handle = .decide op .ok v) :
      HandleMove s .handle { s with handle := .returned op (finishJoin op (.ok v)) }
  | decideAborted {op : Consume} {v : S} (hh : s.handle = .decide op .err v)
      (hf : s.flag = some .abortStarted) :
      HandleMove s .handle { s with handle := .returned op (finishJoin op (.error (.workerAborted v))) }
  | decidePanicked {op : Consume} {v : S} (hh : s.handle = .decide op .err v)
      (hf : s.flag = some .taskPanicked) : HandleMove s .handle { s with handle := .readPanicMsg op v }
  | decideShutdown {op : Consume} {out : WorkerOut} {v : S} (hh : s.handle = .decide op out v)
      (hf : out = .aborted ∨ out = .err ∧
        (s.flag = some .cancelStarted ∨ s.flag = some .runningOrRuntimeShutdown)) :
      HandleMove s .handle { s with handle := .returned op (finishJoin op (.error (.runtimeShutdown v))) }
  | corrupted {op : Consume} {v : S} (hh : s.handle = .decide op .err v) (hf : s.flag = none) :
      HandleMove s .handle { s with fault := some .flagsCorrupted }
  | readPanicMsg {op : Consume} {v : S} (hh : s.handle = .readPanicMsg op v) :
      HandleMove s .handle
        { s with handle := .returned op (finishJoin op (.error (.anyTaskPanic s.status.panicMsg v))) }
  | dropJoin {op : Consume} (hh : s.handle = .awaitWorker op ∨ ∃ out, s.handle = .lockState op out) :
      HandleMove s .dropJoin { s with handle := .gone op }

/-- The moves. -/
inductive Move (B : Bodies S F R PanicPayload) (s : Sys S F R) : Act F → Sys S F R → Prop
  | worker {s' : Sys S F R} (h : WorkerMove B s s') : Move B s .worker s'
  | runtime {a : Act F} {s' : Sys S F R} (h : RuntimeMove s a s') : Move B s a s'
  | pool {s' : Sys S F R} (h : PoolMove B s s') : Move B s .pool s'
  | call {a : Act F} {s' : Sys S F R} (h : CallMove s a s') : Move B s a s'
  | taskHandle {a : Act F} {s' : Sys S F R} (h : TaskHandleMove s a s') : Move B s a s'
  | spawn {a : Act F} {s' : Sys S F R} (h : SpawnMove s a s') : Move B s a s'
  | spawner {a : Act F} {s' : Sys S F R} (h : SpawnerMove s a s') : Move B s a s'
  | handle {a : Act F} {s' : Sys S F R} (h : HandleMove s a s') : Move B s a s'

/-! ### A step is a move -/

theorem workerMove_of_dropItem {item : DropItem} {todo : List DropItem} {out : WorkerOut}
    (hw : s.worker = .dropping (item :: todo) out) : WorkerMove B s (s.dropItem item todo out) := by
  cases item with
  | message t =>
    simp only [dropItem, dropMessage]
    split_ifs with h
    · exact .lastMessage hw h.1 h.2
    · exact .message hw h
  | resultTx t => exact .resultTx hw
  | panicTx t => exact .panicTx hw
  | closeRx => exact .closeRx hw
  | drain =>
    simp only [dropItem]
    split
    · rename_i hq; exact .drained hw hq
    · rename_i t q hq
      simp only [dropMessage]
      split_ifs with h
      · exact .drainLast hw hq h.1 h.2
      · exact .drain hw hq h

theorem workerMove_of_step (h : s.workerStep B = some s') : WorkerMove B s s' := by
  unfold workerStep at h
  cases hw : s.worker <;> simp only [hw] at h
  case recv parked =>
    cases parked <;> simp only at h
    · split at h
      · rename_i t q hq; cases h; exact .recv hw hq
      · rename_i hq
        split_ifs at h with hs
        cases h; exact .recvNone hw hq hs
    · cases h
  case dequeued t =>
    split at h
    · rename_i hf; cases h; simpa only [hw] using WorkerMove.corrupted (B := B) hw hf
    · rename_i hf; cases h; exact .break hw hf
    · rename_i fl hfl hf; cases h; exact .check hw hf hfl
  case checked t =>
    split at h
    · rename_i raw hk; cases h; exact .take hw hk
    · rename_i hk; cases h; exact .skip hw hk
  case took t raw =>
    cases raw <;> simp only at h
    case blocking f => cases h; exact .spawnBlocking hw
    case async f =>
      split_ifs at h with hl
      · obtain ⟨v, hv⟩ := Option.isSome_iff_exists.mp hl.2
        cases h; exact .startAsync hw hl.1 hv
      · cases h; exact .failAsync hw hl
  case asyncBody t f parked =>
    cases parked <;> simp only at h
    · split at h
      · cases h
      · rename_i v hv
        split at h
        · rename_i v' f' hp; cases h; exact .asyncPending hw hv hp
        · rename_i v' r hp; cases h; exact .asyncReady hw hv hp
        · rename_i v' p hp; cases h; exact .asyncPanicked hw hv hp
    · cases h
  case asyncSend t r => cases h; exact .asyncSend hw
  case asyncUnwind t p => cases h; exact .asyncUnwind hw
  case asyncUnlock t res => cases h; exact .asyncUnlock hw
  case awaitBlocking t parked =>
    cases parked <;> simp only at h
    · split at h
      · rename_i u res hp; cases h; exact .joined hw hp
      · rename_i u hp; cases h; exact .joinedNone hw (.inl hp)
      · rename_i u hp; cases h; exact .joinedNone hw (.inr hp)
      · cases h; exact .notJoined hw
    · cases h
  case result t res =>
    rcases res with p | ⟨⟩ <;> cases h
    · exact .setMsg hw
    · exact .succeeded hw
  case storePanicked t p => cases h; exact .storePanicked hw
  case sendPanic t p => cases h; exact .sendPanic hw
  case dropBody t f => cases h; exact .dropBody hw
  case dropBodyTx t => cases h; exact .dropBodyTx hw
  case dropGuard t => cases h; exact .dropGuard hw
  case dropping todo out =>
    cases todo <;> cases h
    · exact .ended hw
    · exact workerMove_of_dropItem hw
  case ended out => cases h

theorem runtimeMove_of_pollWorker (h : s.pollWorker = some s') : RuntimeMove s .pollWorker s' := by
  unfold pollWorker at h
  split_ifs at h with ha
  replace ha := Bool.eq_false_iff.mpr ha
  split at h
  · rename_i hw; cases h; exact .pollRecv ha hw
  · rename_i t f hw; cases h; exact .pollAsync ha hw
  · rename_i t hw; cases h; exact .pollJoin ha hw
  · cases h

theorem runtimeMove_of_yieldWorker (h : s.yieldWorker = some s') : RuntimeMove s .yield s' := by
  unfold yieldWorker at h
  split at h
  · rename_i hw; cases h; exact .yieldRecv hw
  · rename_i t hw; cases h; exact .yieldJoin hw
  · cases h

theorem runtimeMove_of_dropWorker (h : s.dropWorker = some s') : RuntimeMove s .dropWorker s' := by
  unfold dropWorker at h
  split_ifs at h with hd
  split at h
  · rename_i hw; cases h; exact .dropRecv hd hw
  · rename_i t f hw; cases h; exact .dropAsync hd hw
  · rename_i t hw; cases h; exact .dropJoin hd hw
  · cases h

theorem runtimeMove_of_dropQueued (h : s.dropQueued = some s') : RuntimeMove s .dropQueued s' := by
  unfold dropQueued at h
  split_ifs at h with hd
  split at h
  · rename_i t f hp; cases h; exact .dropQueued hd hp
  · cases h

theorem poolMove_of_step (h : s.poolStep B = some s') : PoolMove B s s' := by
  unfold poolStep at h
  cases hp : s.pool <;> simp only [hp] at h
  case idle | done | cancelled => cases h
  case queued t f =>
    split_ifs at h with hl <;> cases h
    · exact .lock hp hl
    · exact .lockFailed hp hl
  case locked t f =>
    split_ifs at h with hv <;> cases h
    · obtain ⟨v, hv⟩ := Option.isSome_iff_exists.mp hv
      exact .start hp hv
    · exact .stateAbsent hp (by simpa using hv)
  case running t f =>
    split at h
    · cases h
    · rename_i v hv
      split at h
      · rename_i v' f' hb; cases h; exact .pending hp hv hb
      · rename_i v' r hb; cases h; exact .ready hp hv hb
      · rename_i v' p hb; cases h; exact .panicked hp hv hb
  case send t r => cases h; exact .send hp
  case unwind t p => cases h; exact .unwind hp
  case unlock t res => cases h; exact .unlock hp
  case dropRaw t => cases h; exact .dropRaw hp

theorem modTask_id (t : ℕ) : s.modTask t id = s := by
  simp only [modTask, id, Function.update_eq_self]

theorem setHandle_modTask (t : ℕ) (g : Task F R → Task F R) (h : TaskHandle R) :
    (s.modTask t g).setHandle t h = s.modTask t fun k => (g k).setHandle h := by
  simp only [setHandle, modTask, Function.update_self, Function.update_idem]

theorem cancelMove_of_impl {t : ℕ} {o : Owner} {x : Taker} {c c' : CancelPc}
    (h : s.cancelImpl t o x c = some (s', c')) :
    ∃ g, CancelMove s t o x c g c' ∧ s' = s.modTask t g := by
  cases c <;> simp only [cancelImpl] at h
  case upgrade =>
    split_ifs at h with ho <;> cases h
    · exact ⟨_, .upgrade ho, rfl⟩
    · exact ⟨id, .upgradeFailed (Finset.not_nonempty_iff_eq_empty.mp ho), (modTask_id t).symm⟩
  case take =>
    split at h
    · rename_i raw hk; cases h; exact ⟨_, .take hk, rfl⟩
    · rename_i hk; cases h; exact ⟨_, .takeFailed hk, rfl⟩
  case dropRaw => cases h; exact ⟨_, .dropRaw, rfl⟩
  case dropPanicTx => cases h; exact ⟨_, .dropPanicTx, rfl⟩
  case store => cases h; exact ⟨_, .store, rfl⟩
  case done => cases h

theorem callMove_of_start {i t : ℕ} (h : s.cancelStart i t = some s') : CallMove s (.cancel i t) s' := by
  unfold cancelStart at h
  split_ifs at h with hi hc
  all_goals split at h <;> cases h
  · exact .start hi (by rw [if_pos hc])
  · exact .start hi (by rw [if_neg hc])

theorem callMove_of_step {i : ℕ} (h : s.cancelStep i = some s') : CallMove s (.cancelStep i) s' := by
  unfold cancelStep at h
  cases hi : s.cancels i <;> simp only [hi] at h
  case absent => cases h
  case flag t =>
    split at h
    · rename_i hf; cases h; exact .corrupted hi hf
    · rename_i hf; cases h; exact .running hi hf
    · rename_i fl hfl hf; cases h; exact .notRunning hi hf hfl
  case run t c =>
    obtain ⟨⟨u, c'⟩, hu, rfl⟩ := Option.map_eq_some_iff.mp h
    obtain ⟨g, hm, rfl⟩ := cancelMove_of_impl hu
    exact .run hi hm

theorem taskHandleMove_of_start {t : ℕ} (h : s.pollStart t = some s') : TaskHandleMove s (.poll t) s' := by
  unfold pollStart at h
  split at h
  · rename_i hh; cases h; exact .start (.inl hh)
  · rename_i hh; cases h; exact .start (.inr hh)
  · rename_i reason hh; cases h; exact .unspawned hh
  · cases h

theorem taskHandleMove_of_step {t : ℕ} {b : Budget} (h : s.pollStep t b = some s') :
    TaskHandleMove s (.pollStep t b) s' := by
  unfold pollStep at h
  split at h
  case h_2 => cases h
  case h_1 pc hh =>
    cases pc <;> simp only [pollStepAt] at h
    case fresh | pending => cases h
    case panicRx =>
      split at h
      · rename_i hx; cases h; exact .polledPanicRx hh hx
      · rename_i x hx; cases h; exact .step (.panicRx hh hx)
      · rename_i x o hx; cases h; exact .step (.panicRxReady hh hx)
    case resultRx =>
      split at h
      · rename_i hx; cases h; exact .polledResultRx hh hx
      · rename_i x hx; cases h; exact .step (.resultRx hh hx)
      · rename_i x o hx; cases h; exact .step (.resultRxReady hh hx)
    case isCancelled =>
      split_ifs at h with hc <;> cases h
      · exact .step (.isCancelled hh hc)
      · exact .step (.notCancelled hh (Bool.eq_false_iff.mpr hc))
    case flag =>
      split at h
      · rename_i hf; cases h; exact .corrupted hf
      · rename_i hf; cases h; exact .step (.aborted hh hf)
      · rename_i hf; cases h; exact .step (.cancelled hh hf)
      · rename_i hf; cases h; exact .step (.panicked hh hf)
      · rename_i hf; cases h; exact .step (.shutdown hh hf)
    case panicMsg => cases h; exact .step (.panicMsg hh)
    case pendingFlag =>
      split at h
      · rename_i hf; cases h; exact .corrupted hf
      · rename_i hf; cases h; exact .step (.pendingCancel hh hf)
      · rename_i fl hfl hf; cases h; exact .step (.pending hh hf hfl)
    case cancel c =>
      split at h <;> rename_i heq <;> cases heq
      · cases h; exact .step (.cancelDone hh)
      · cases h; exact .step (.cancelFailed hh)
      · obtain ⟨⟨u, c'⟩, hu, rfl⟩ := Option.map_eq_some_iff.mp h
        obtain ⟨g, hm, rfl⟩ := cancelMove_of_impl hu
        rw [setHandle_modTask]
        exact .step (.cancel hh hm)

theorem spawnMove_of_send {via : Via} {raw : RawTask F} (hv : s.CanSend via) :
    SpawnMove s (.spawn via raw) (s.send via raw) := by
  unfold send
  split_ifs with ho
  · exact .accept ho hv
  · exact .reject (Bool.eq_false_iff.mpr ho) hv

theorem spawnMove_of_spawn {via : Via} {raw : RawTask F} (h : s.spawn via raw = some s') :
    SpawnMove s (.spawn via raw) s' := by
  cases via <;> simp only [spawn] at h
  case worker =>
    split at h
    · rename_i hh; cases h; exact spawnMove_of_send (.inl ⟨rfl, hh⟩)
    · cases h
  case spawner i =>
    split_ifs at h with ha hc <;> cases h
    · exact spawnMove_of_send (.inr ⟨i, rfl, ha, hc⟩)
    · exact .unavailable ha (Bool.eq_false_iff.mpr hc)

theorem spawnMove_of_sendFailed {t : ℕ} (h : s.sendFailed t = some s') : SpawnMove s (.sendFailed t) s' := by
  unfold sendFailed at h
  split at h
  · rename_i via hh
    split at h
    · rename_i hf; cases h; exact .corrupted hh hf
    · rename_i hf; cases h; exact .panicked hh hf
    · rename_i hf; cases h; exact .shutdown hh hf
    · rename_i fl hp hr hf
      have hf : s.flag = some .abortStarted ∨ s.flag = some .cancelStarted := by
        cases fl <;> simp_all
      cases via <;> cases h
      · exact .unreachable hh hf
      · exact .closed hh hf
  · rename_i via hh; cases h; exact .panicMsg hh
  · cases h

theorem spawnerMove_of_spawner (h : s.addSpawner = some s') : SpawnerMove s .spawner s' := by
  unfold addSpawner at h
  split at h
  · rename_i hh; cases h; exact .obtain hh
  · cases h

theorem spawnerMove_of_drop {i : ℕ} (h : s.dropSpawner i = some s') : SpawnerMove s (.dropSpawner i) s' := by
  unfold dropSpawner at h
  split_ifs at h with hi
  cases h
  exact .drop hi.1 (Bool.eq_false_iff.mpr hi.2)

theorem spawnerMove_of_close (h : s.closeSpawners = some s') : SpawnerMove s .closeSpawners s' := by
  unfold closeSpawners at h
  split at h
  · rename_i hh
    split_ifs at h with hs
    cases h; exact .close hh (Bool.eq_false_iff.mpr hs)
  · cases h

theorem handleMove_of_consume {op : Consume} (h : s.consume op = some s') : HandleMove s (.consume op) s' := by
  unfold consume at h
  split at h
  · rename_i hh
    split_ifs at h with hs
    replace hs := Bool.eq_false_iff.mpr hs
    cases op
    case join => cases h; exact .consume hh hs (.inl ⟨rfl, rfl⟩)
    case drop => cases h; exact .consume hh hs (.inr (.inl ⟨rfl, rfl⟩))
    all_goals cases h; exact .consume hh hs (.inr (.inr ⟨nofun, nofun, rfl⟩))
  · cases h

theorem handleMove_of_trySet {op : Consume} (hh : s.handle = .trySet op) (h : s.handleStep = some s') :
    HandleMove s .handle s' := by
  simp only [handleStep, hh] at h
  by_cases ho : op = .abort ∨ op = .abortAndJoin
  · have hset : s.status.trySetAbortStarted.1 = true ∧
          s' = { s with handle := .abortWorker op, status := s.status.trySetAbortStarted.2 } ∨
        s.status.trySetAbortStarted.1 = false ∧
          s' = { s with handle := .closeSenders op, status := s.status.trySetAbortStarted.2 } := by
      rcases ho with rfl | rfl <;> simp only at h <;> split_ifs at h with hf <;> cases h <;> simp [hf]
    rcases hset with ⟨hf, rfl⟩ | ⟨hf, rfl⟩
    · exact .setAbort hh ho (s.status.trySetAbortStarted_fst.mp hf)
    · rw [show s.status.trySetAbortStarted.2 = s.status from WorkerStatus.compareExchange_of_false hf]
      exact .setFailed hh fun hr => by simp [s.status.trySetAbortStarted_fst.mpr hr] at hf
  · have hset : s' = { s with handle := .closeSenders op, status := s.status.trySetCancelStarted.2 } := by
      cases op <;> simp_all
    subst hset
    cases hf : s.status.trySetCancelStarted.1 with
    | true => exact .setCancel hh ho (s.status.trySetCancelStarted_fst.mp hf)
    | false =>
      rw [show s.status.trySetCancelStarted.2 = s.status from WorkerStatus.compareExchange_of_false hf]
      exact .setFailed hh fun hr => by simp [s.status.trySetCancelStarted_fst.mpr hr] at hf

theorem handleMove_of_decide {op : Consume} {out : WorkerOut} {v : S} (hh : s.handle = .decide op out v) :
    HandleMove s .handle (s.decideJoin op out v) := by
  cases out <;> simp only [decideJoin]
  case ok => exact .decideOk hh
  case aborted => exact .decideShutdown hh (.inl rfl)
  case err =>
    split
    · rename_i hf; exact .corrupted hh hf
    · rename_i hf; exact .decideAborted hh hf
    · rename_i hf; exact .decidePanicked hh hf
    · rename_i hf; exact .decideShutdown hh (.inr ⟨rfl, .inl hf⟩)
    · rename_i hf; exact .decideShutdown hh (.inr ⟨rfl, .inr hf⟩)

theorem handleMove_of_step (h : s.handleStep = some s') : HandleMove s .handle s' := by
  cases hh : s.handle with
  | trySet op => exact handleMove_of_trySet hh h
  | live | returned | gone => simp only [handleStep, hh] at h; cases h
  | isFinished op =>
    simp only [handleStep, hh] at h
    split at h
    · rename_i out hw; cases h; exact .finished hh hw
    · cases h; exact .notFinished hh
  | awaitWorker op =>
    simp only [handleStep, hh] at h
    split at h
    · rename_i out hw; cases h; exact .workerEnded hh hw
    · cases h
  | lockState op out =>
    simp only [handleStep, hh] at h
    split_ifs at h with hl
    cases h; exact .lockState hh hl
  | takeState op out =>
    simp only [handleStep, hh] at h
    split at h
    · rename_i hv; cases h; simpa only [hh] using HandleMove.stateMissing hh hv
    · rename_i v hv; cases h; exact .takeState hh hv
  | decide op out v => simp only [handleStep, hh] at h; cases h; exact handleMove_of_decide hh
  | abortWorker op => simp only [handleStep, hh] at h; cases h; exact .abortWorker hh
  | closeSenders op => simp only [handleStep, hh] at h; cases h; exact .closeSenders hh
  | dropCtx op => simp only [handleStep, hh] at h; cases h; exact .dropCtx hh
  | dropTx op => simp only [handleStep, hh] at h; cases h; exact .dropTx hh
  | unlockState op out v => simp only [handleStep, hh] at h; cases h; exact .unlockState hh
  | readPanicMsg op v => simp only [handleStep, hh] at h; cases h; exact .readPanicMsg hh

theorem handleMove_of_dropJoin (h : s.dropJoin = some s') : HandleMove s .dropJoin s' := by
  unfold dropJoin at h
  split at h
  · rename_i op hh; cases h; exact .dropJoin (.inl hh)
  · rename_i op out hh; cases h; exact .dropJoin (.inr ⟨out, hh⟩)
  · cases h

/-- **A step is a move**: every action that is possible is a move of the party
that takes it. -/
theorem move_of_step {a : Act F} (h : step B s a = some s') : Move B s a s' := by
  cases a with
  | spawn via raw => exact .spawn (spawnMove_of_spawn h)
  | sendFailed t => exact .spawn (spawnMove_of_sendFailed h)
  | spawner => exact .spawner (spawnerMove_of_spawner h)
  | dropSpawner i => exact .spawner (spawnerMove_of_drop h)
  | closeSpawners => exact .spawner (spawnerMove_of_close h)
  | consume op => exact .handle (handleMove_of_consume h)
  | handle => exact .handle (handleMove_of_step h)
  | dropJoin => exact .handle (handleMove_of_dropJoin h)
  | pollWorker => exact .runtime (runtimeMove_of_pollWorker h)
  | worker => exact .worker (workerMove_of_step h)
  | yield => exact .runtime (runtimeMove_of_yieldWorker h)
  | dropWorker => exact .runtime (runtimeMove_of_dropWorker h)
  | pool => exact .pool (poolMove_of_step h)
  | dropQueued => exact .runtime (runtimeMove_of_dropQueued h)
  | shutdown => cases h; exact .runtime .shutdown
  | poll t => exact .taskHandle (taskHandleMove_of_start h)
  | pollStep t b => exact .taskHandle (taskHandleMove_of_step h)
  | cancel i t => exact .call (callMove_of_start h)
  | cancelStep i => exact .call (callMove_of_step h)

end Sys

end AsyncSequential
