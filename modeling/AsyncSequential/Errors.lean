import AsyncSequential.Internal

/-!
# Errors

What a task handle, a send and a join report: `TaskError` (`task_error.rs`),
`WorkerSendError` and `WorkerJoinError` (`internal/worker.rs`), and the
`PoisonError` that wraps the last (`poison_error.rs`).
-/

namespace AsyncSequential

/-- `TaskError`, by its `Repr`. -/
inductive TaskError where
  | workerAborted
  | workerCancelled
  | taskSpawnerUnavailable
  | taskCancelled
  | taskPanic (panic : PanicPayload)
  | prevTaskPanic (panicMsg : Option String)
  | runtimeShutdown
  deriving DecidableEq

/-- `TaskErrorKind`. -/
inductive TaskErrorKind where
  | workerAborted
  | workerCancelled
  | previousTaskPanic
  | taskSpawnerUnavailable
  | taskCancelled
  | taskPanic
  | runtimeShutdown
  deriving DecidableEq

/-- `TaskError::kind`. -/
def TaskError.kind : TaskError → TaskErrorKind
  | .workerAborted => .workerAborted
  | .workerCancelled => .workerCancelled
  | .taskSpawnerUnavailable => .taskSpawnerUnavailable
  | .taskCancelled => .taskCancelled
  | .taskPanic _ => .taskPanic
  | .prevTaskPanic _ => .previousTaskPanic
  | .runtimeShutdown => .runtimeShutdown

namespace TaskErrorKind

/-- `TaskErrorKind::is_worker_aborted`. -/
def isWorkerAborted (k : TaskErrorKind) : Bool := k matches .workerAborted

/-- `TaskErrorKind::is_worker_cancelled`. -/
def isWorkerCancelled (k : TaskErrorKind) : Bool := k matches .workerCancelled

/-- `TaskErrorKind::is_previous_task_panic`. -/
def isPreviousTaskPanic (k : TaskErrorKind) : Bool := k matches .previousTaskPanic

/-- `TaskErrorKind::is_task_spawner_unavailable`. -/
def isTaskSpawnerUnavailable (k : TaskErrorKind) : Bool := k matches .taskSpawnerUnavailable

/-- `TaskErrorKind::is_task_cancelled`. -/
def isTaskCancelled (k : TaskErrorKind) : Bool := k matches .taskCancelled

/-- `TaskErrorKind::is_task_panic`. -/
def isTaskPanic (k : TaskErrorKind) : Bool := k matches .taskPanic

/-- `TaskErrorKind::is_runtime_shutdown`. -/
def isRuntimeShutdown (k : TaskErrorKind) : Bool := k matches .runtimeShutdown

/-- `Display` of a `TaskErrorKind`. -/
def display : TaskErrorKind → String
  | .workerAborted => "worker was aborted"
  | .workerCancelled => "worker was cancelled"
  | .taskSpawnerUnavailable => "task spawner was unavailable"
  | .taskCancelled => "task was cancelled"
  | .previousTaskPanic => "previous task panicked"
  | .taskPanic => "task panicked"
  | .runtimeShutdown => "the Tokio runtime was shut down"

end TaskErrorKind

/-- A text, with the message of a panic if there is one. -/
def withPanicMsg (text : String) : Option String → String
  | some msg => text ++ ": " ++ msg
  | none => text

namespace TaskError

/-- `TaskError::is_cancelled`. -/
def isCancelled (e : TaskError) : Bool :=
  e.kind.isWorkerAborted || e.kind.isWorkerCancelled || e.kind.isTaskSpawnerUnavailable || e.kind.isTaskCancelled ||
    e.kind.isPreviousTaskPanic || e.kind.isRuntimeShutdown

/-- `TaskError::is_panic`. -/
def isPanic (e : TaskError) : Bool := e.kind.isTaskPanic

/-- `TaskError::try_into_panic`. -/
def tryIntoPanic : TaskError → Except TaskError PanicPayload
  | .workerAborted => .error .workerAborted
  | .workerCancelled => .error .workerCancelled
  | .taskSpawnerUnavailable => .error .taskSpawnerUnavailable
  | .taskCancelled => .error .taskCancelled
  | .taskPanic panic => .ok panic
  | .prevTaskPanic panicMsg => .error (.prevTaskPanic panicMsg)
  | .runtimeShutdown => .error .runtimeShutdown

/-- `TaskError::into_panic`: the payload, or the message that it panics with. -/
def intoPanic : TaskError → Except String PanicPayload
  | .workerAborted => .error "cannot extract panic payload: worker was aborted"
  | .workerCancelled => .error "cannot extract panic payload: worker was cancelled"
  | .taskSpawnerUnavailable => .error "cannot extract panic payload: task spawner was unavailable"
  | .taskCancelled => .error "cannot extract panic payload: task was cancelled"
  | .taskPanic panic => .ok panic
  | .prevTaskPanic panicMsg => .error (withPanicMsg "cannot extract panic payload: previous task panicked" panicMsg)
  | .runtimeShutdown => .error "cannot extract panic payload: the Tokio runtime was shut down"

/-- `Display` of a `TaskError`. -/
def display : TaskError → String
  | .workerAborted => "worker was aborted"
  | .workerCancelled => "worker was cancelled"
  | .taskSpawnerUnavailable => "task spawner was unavailable"
  | .taskCancelled => "task was cancelled"
  | .prevTaskPanic panicMsg => withPanicMsg "previous task panicked" panicMsg
  | .taskPanic panic => withPanicMsg "task panicked" panic.msg
  | .runtimeShutdown => "the Tokio runtime was shut down"

/-- The message of the panic that an error carries. -/
def panicMsg : TaskError → Option String
  | .prevTaskPanic msg => msg
  | .taskPanic panic => panic.msg
  | _ => none

/-- An error says its kind, and the message of the panic that it carries. -/
theorem display_eq (e : TaskError) : e.display = withPanicMsg e.kind.display e.panicMsg := by
  cases e <;> rfl

/-- Every error is a cancellation or a panic, and none is both. -/
theorem isCancelled_eq_not_isPanic (e : TaskError) : e.isCancelled = !e.isPanic := by
  cases e <;> rfl

/-- The payload can be had of a panic, and of nothing else. -/
theorem tryIntoPanic_eq (e : TaskError) :
    (∃ p, e = .taskPanic p ∧ e.isPanic = true ∧ e.tryIntoPanic = .ok p) ∨
      e.isPanic = false ∧ e.tryIntoPanic = .error e := by
  cases e with
  | taskPanic p => exact .inl ⟨p, rfl, rfl, rfl⟩
  | _ => exact .inr ⟨rfl, rfl⟩

/-- `into_panic` panics where `try_into_panic` fails, and says what the error says. -/
theorem intoPanic_eq (e : TaskError) :
    e.intoPanic = e.tryIntoPanic.mapError fun e => "cannot extract panic payload: " ++ e.display := by
  cases e with
  | taskPanic p => rfl
  | prevTaskPanic panicMsg =>
    cases panicMsg with
    | none => simp [intoPanic, tryIntoPanic, display, withPanicMsg, Except.mapError]
    | some msg => simp [intoPanic, tryIntoPanic, display, withPanicMsg, Except.mapError, ← String.append_assoc]
  | _ => simp [intoPanic, tryIntoPanic, display, Except.mapError]

end TaskError

/-- `WorkerSendError`. -/
inductive WorkerSendError where
  | prevTaskPanic (panicMsg : Option String)
  | runtimeShutdown
  | taskSenderUnavailable
  deriving DecidableEq

/-- What the handle of a rejected task resolves to (`TaskHandle::unspawned` and
the `Unspawned` branch of `TaskHandle::poll`). -/
def WorkerSendError.toTaskError : WorkerSendError → TaskError
  | .prevTaskPanic msg => .prevTaskPanic msg
  | .runtimeShutdown => .runtimeShutdown
  | .taskSenderUnavailable => .taskSpawnerUnavailable

/-- `WorkerJoinError<S>`. -/
inductive WorkerJoinError (S : Type*) where
  | anyTaskPanic (panicMsg : Option String) (poisonedState : S)
  | runtimeShutdown (poisonedState : S)
  | workerAborted (poisonedState : S)
  deriving DecidableEq

/-- `PoisonError<S>`: the public face of a `WorkerJoinError`. -/
structure PoisonError (S : Type*) where
  /-- The error inside. -/
  repr : WorkerJoinError S
  deriving DecidableEq

namespace PoisonError

variable {S : Type*}

/-- `PoisonError::into_inner`. -/
def intoInner (e : PoisonError S) : S :=
  match e.repr with
  | .anyTaskPanic _ v => v
  | .runtimeShutdown v => v
  | .workerAborted v => v

/-- `PoisonError::is_task_panic`. -/
def isTaskPanic (e : PoisonError S) : Bool := e.repr matches .anyTaskPanic ..

/-- `PoisonError::is_runtime_shutdown`. -/
def isRuntimeShutdown (e : PoisonError S) : Bool := e.repr matches .runtimeShutdown _

/-- `PoisonError::is_worker_aborted`. -/
def isWorkerAborted (e : PoisonError S) : Bool := e.repr matches .workerAborted _

/-- `Display` of a `PoisonError`. -/
def display (e : PoisonError S) : String :=
  match e.repr with
  | .anyTaskPanic panicMsg _ => withPanicMsg "a task executed by the worker panicked" panicMsg
  | .runtimeShutdown _ => "the Tokio runtime was shut down"
  | .workerAborted _ => "the worker was aborted"

end PoisonError

end AsyncSequential
