import AsyncSequential.Lib.OneShot
import Mathlib.Data.Nat.Notation
import Mathlib.Tactic.SplitIfs

/-!
# The building blocks

The types of `internal/`, each with its operations: the panic payload, the
once-take cell, the worker's status, tasks as they are queued, and the receiver
that merges a task's two channels. An operation that is one atomic access in
the source is one function here; an operation made of several is several
functions, named for the accesses, so that other threads can act in between.
-/

namespace AsyncSequential

/-! ### Panic payloads (`internal/panic_payload.rs`) -/

/-- A payload `Box<dyn Any + Send>`: what `downcast_ref` can tell of it. -/
inductive PanicPayload where
  /-- A `String`, as a formatted panic carries. -/
  | string (s : String)
  /-- A `&'static str`, as a literal panic carries. -/
  | str (s : String)
  /-- Any other payload, numbered. -/
  | other (k : ℕ)
  deriving DecidableEq

/-- `PanicPayload::msg`. -/
def PanicPayload.msg : PanicPayload → Option String
  | .string s => some s
  | .str s => some s
  | .other _ => none

/-! ### The once-take cell (`internal/once_take.rs`) -/

/-- `OnceTake<T>`. -/
structure OnceTake (T : Type*) where
  /-- Someone has taken the value. -/
  taken : Bool
  /-- The value. -/
  value : Option T

namespace OnceTake

variable {T : Type*}

/-- `OnceTake::new`. -/
def new (value : T) : OnceTake T := ⟨false, some value⟩

/-- `OnceTake::empty`. -/
def empty : OnceTake T := ⟨true, none⟩

/-- `OnceTake::take`: the swap decides, and only who turned `taken` to true
touches the value. -/
def take (c : OnceTake T) : Option T × OnceTake T :=
  if c.taken then (none, { c with taken := true }) else (c.value, ⟨true, none⟩)

/-- The value can still be taken. -/
def Full (c : OnceTake T) : Prop := c.taken = false ∧ c.value.isSome

instance (c : OnceTake T) : Decidable c.Full := inferInstanceAs (Decidable (_ ∧ _))

theorem full_new (value : T) : (new value).Full := ⟨rfl, rfl⟩

@[simp] theorem not_full_empty : ¬ (empty : OnceTake T).Full := fun h => nomatch h.1

/-- What a cell is after a take: it cannot be taken again. -/
@[simp] theorem not_full_take (c : OnceTake T) : ¬ c.take.2.Full := by
  unfold take; split <;> rintro ⟨h, -⟩ <;> cases h

/-- A take succeeds exactly on a full cell. -/
theorem take_isSome (c : OnceTake T) : c.take.1.isSome ↔ c.Full := by
  unfold take Full; cases c.taken <;> simp

theorem full_of_take {c : OnceTake T} {v : T} (h : c.take.1 = some v) : c.Full :=
  c.take_isSome.mp (by rw [h]; rfl)

theorem not_full_of_take {c : OnceTake T} (h : c.take.1 = none) : ¬ c.Full :=
  fun hf => by simpa [h] using c.take_isSome.mpr hf

/-- After a take the cell is marked. -/
@[simp] theorem taken_take (c : OnceTake T) : c.take.2.taken = true := by
  unfold take; split <;> rfl

/-- A take from a marked cell changes nothing. -/
theorem take_snd_of_taken {c : OnceTake T} (h : c.taken = true) : c.take.2 = c := by
  unfold take
  rw [if_pos h, ← h]

/-- A take leaves no value that was not there. -/
theorem value_of_take_snd {c : OnceTake T} {v : T} (h : c.take.2.value = some v) : c.value = some v := by
  unfold take at h
  split at h
  · exact h
  · cases h

theorem value_of_take {c : OnceTake T} {v : T} (h : c.take.1 = some v) : c.value = some v := by
  unfold take at h
  split at h
  · cases h
  · exact h

end OnceTake

/-! ### The worker's status (`WorkerStatus` in `internal/worker.rs`) -/

/-- `WorkerFlagSnapshot`. -/
inductive WorkerFlagSnapshot where
  | abortStarted
  | cancelStarted
  | taskPanicked
  | runningOrRuntimeShutdown
  deriving DecidableEq

/-- `WorkerStatus`: an atomic byte and a write-once message. -/
structure WorkerStatus where
  /-- The flags. -/
  flags : UInt8
  /-- The message of the recorded panic, which may have none. -/
  taskPanicMsg : Option (Option String)
  deriving DecidableEq

namespace WorkerStatus

/-- `FLAG_OTHER`. -/
def flagOther : UInt8 := 0b00000000
/-- `FLAG_ABORT_STARTED`. -/
def flagAbortStarted : UInt8 := 0b00000001
/-- `FLAG_CANCEL_STARTED`. -/
def flagCancelStarted : UInt8 := 0b00000010
/-- `FLAG_TASK_PANICKED`. -/
def flagTaskPanicked : UInt8 := 0b00000100

/-- `WorkerStatus::new`. -/
def new : WorkerStatus := ⟨flagOther, none⟩

/-- `WorkerStatus::flag`; `none` is its `unreachable!`, for corrupted flags. -/
def flag (w : WorkerStatus) : Option WorkerFlagSnapshot :=
  if w.flags = flagOther then some .runningOrRuntimeShutdown
  else if w.flags = flagAbortStarted then some .abortStarted
  else if w.flags = flagCancelStarted then some .cancelStarted
  else if w.flags = flagTaskPanicked then some .taskPanicked
  else none

/-- `WorkerStatus::task_panic_msg`. -/
def panicMsg (w : WorkerStatus) : Option String := w.taskPanicMsg.bind id

/-- The `compare_exchange` of the two `try_set` operations. -/
def compareExchange (w : WorkerStatus) (new : UInt8) : Bool × WorkerStatus :=
  if w.flags = flagOther then (true, { w with flags := new }) else (false, w)

/-- `WorkerStatus::try_set_abort_started`. -/
def trySetAbortStarted (w : WorkerStatus) : Bool × WorkerStatus := w.compareExchange flagAbortStarted

/-- `WorkerStatus::try_set_cancel_started`. -/
def trySetCancelStarted (w : WorkerStatus) : Bool × WorkerStatus := w.compareExchange flagCancelStarted

/-- The first half of `set_task_panicked`: `OnceLock::set` keeps the first message. -/
def setPanicMsg (w : WorkerStatus) (msg : Option String) : WorkerStatus :=
  { w with taskPanicMsg := some (w.taskPanicMsg.getD msg) }

/-- The second half of `set_task_panicked`: the flag is stored over what was there. -/
def storeTaskPanicked (w : WorkerStatus) : WorkerStatus := { w with flags := flagTaskPanicked }

@[simp] theorem flag_new : new.flag = some .runningOrRuntimeShutdown := rfl

@[simp] theorem flag_setPanicMsg (w : WorkerStatus) (msg : Option String) :
    (w.setPanicMsg msg).flag = w.flag := rfl

@[simp] theorem flag_storeTaskPanicked (w : WorkerStatus) :
    w.storeTaskPanicked.flag = some .taskPanicked := rfl

theorem flag_eq_running {w : WorkerStatus} :
    w.flag = some .runningOrRuntimeShutdown ↔ w.flags = flagOther := by
  unfold flag; split_ifs <;> simp_all

/-- `try_set_abort_started` succeeds exactly when nothing was recorded before. -/
theorem trySetAbortStarted_fst (w : WorkerStatus) :
    w.trySetAbortStarted.1 = true ↔ w.flag = some .runningOrRuntimeShutdown := by
  unfold trySetAbortStarted compareExchange
  rw [flag_eq_running]
  split_ifs with h <;> simp [h]

theorem trySetCancelStarted_fst (w : WorkerStatus) :
    w.trySetCancelStarted.1 = true ↔ w.flag = some .runningOrRuntimeShutdown := by
  unfold trySetCancelStarted compareExchange
  rw [flag_eq_running]
  split_ifs with h <;> simp [h]

theorem flag_trySetAbortStarted {w : WorkerStatus} (h : w.trySetAbortStarted.1 = true) :
    w.trySetAbortStarted.2.flag = some .abortStarted := by
  unfold trySetAbortStarted compareExchange at *
  split_ifs at *
  rfl

theorem flag_trySetCancelStarted {w : WorkerStatus} (h : w.trySetCancelStarted.1 = true) :
    w.trySetCancelStarted.2.flag = some .cancelStarted := by
  unfold trySetCancelStarted compareExchange at *
  split_ifs at *
  rfl

/-- A `compare_exchange` that fails changes nothing. -/
theorem compareExchange_of_false {w : WorkerStatus} {b : UInt8} (h : (w.compareExchange b).1 = false) :
    (w.compareExchange b).2 = w := by
  unfold compareExchange at *
  split_ifs at *
  rfl

@[simp] theorem taskPanicMsg_compareExchange (w : WorkerStatus) (b : UInt8) :
    (w.compareExchange b).2.taskPanicMsg = w.taskPanicMsg := by
  unfold compareExchange; split_ifs <;> rfl

end WorkerStatus

/-! ### Tasks (`internal/task.rs`) -/

/-- `RawTask`: a body as `spawn` or `spawn_blocking` boxes it, with the sender of
its result. -/
inductive RawTask (F : Type*) where
  | blocking (f : F)
  | async (f : F)
  deriving DecidableEq

/-- The body. -/
def RawTask.body {F : Type*} : RawTask F → F
  | .blocking f => f
  | .async f => f

/-- `TaskResultReceiver<R>`, with the two channels it receives from. -/
structure TaskResultReceiver (R : Type*) where
  /-- The channel of the body's result. -/
  resultRx : OneShot R
  /-- The channel of the body's panic. -/
  panicRx : OneShot PanicPayload
  /-- `result_rx` has completed. -/
  resultRxReady : Bool
  /-- `panic_rx` has completed. -/
  panicRxReady : Bool

/-- What `TaskResultReceiver` resolves to: `Result<R, Option<PanicPayload>>`. -/
abbrev TaskResult (R : Type*) := Except (Option PanicPayload) R

namespace TaskResultReceiver

variable {R : Type*}

/-- `TaskResultReceiver::new`, on two new channels. -/
def new : TaskResultReceiver R := ⟨.channel, .channel, false, false⟩

/-- A poll begins, with its own waker. -/
def renew (x : TaskResultReceiver R) : TaskResultReceiver R :=
  { x with resultRx := x.resultRx.renew, panicRx := x.panicRx.renew }

/-- The first half of `TaskResultReceiver::poll`: the panic channel. `pending`
goes on to the second half; `none` is the panic of polling a completed receiver. -/
def pollPanicRx (x : TaskResultReceiver R) (b : Budget) : Option (TaskResultReceiver R × Poll (TaskResult R)) :=
  if x.panicRxReady then some (x, .pending) else
    match x.panicRx.poll b with
    | none => none
    | some (.pending, c) => some ({ x with panicRx := c }, .pending)
    | some (.ready (.ok p), c) => some ({ x with panicRx := c, panicRxReady := true }, .ready (.error (some p)))
    | some (.ready (.error ()), c) => some ({ x with panicRx := c, panicRxReady := true }, .pending)

/-- The last lines of `TaskResultReceiver::poll`. -/
def pollEnd (x : TaskResultReceiver R) : Poll (TaskResult R) :=
  if x.panicRxReady && x.resultRxReady then .ready (.error none) else .pending

/-- The second half of `TaskResultReceiver::poll`: the result channel. -/
def pollResultRx (x : TaskResultReceiver R) (b : Budget) : Option (TaskResultReceiver R × Poll (TaskResult R)) :=
  if x.resultRxReady then some (x, x.pollEnd) else
    match x.resultRx.poll b with
    | none => none
    | some (.pending, c) =>
      let x := { x with resultRx := c }
      some (x, x.pollEnd)
    | some (.ready (.ok r), c) => some ({ x with resultRx := c, resultRxReady := true }, .ready (.ok r))
    | some (.ready (.error ()), c) =>
      let x := { x with resultRx := c, resultRxReady := true }
      some (x, x.pollEnd)

/-- How the first half of a poll can go. -/
inductive PanicPoll (x : TaskResultReceiver R) : Budget → TaskResultReceiver R → Poll (TaskResult R) → Prop
  | ready {b : Budget} (hr : x.panicRxReady = true) : PanicPoll x b x .pending
  | live (hr : x.panicRxReady = false) (ht : x.panicRx.tx = .live) :
      PanicPoll x .left { x with panicRx := { x.panicRx with waker := .registered } } .pending
  | dropped (hr : x.panicRxReady = false) (ht : x.panicRx.tx = .dropped) :
      PanicPoll x .left { x with panicRx := { x.panicRx with rxDone := true }, panicRxReady := true } .pending
  | sent {p : PanicPayload} (hr : x.panicRxReady = false) (ht : x.panicRx.tx = .sent p) :
      PanicPoll x .left { x with panicRx := { x.panicRx with rxDone := true }, panicRxReady := true }
        (.ready (.error (some p)))
  | cut (hr : x.panicRxReady = false) :
      PanicPoll x .spent { x with panicRx := { x.panicRx with waker := .cut } } .pending

/-- How the second half of a poll can go. -/
inductive ResultPoll (x : TaskResultReceiver R) : Budget → TaskResultReceiver R → Poll (TaskResult R) → Prop
  | ready {b : Budget} {o : Poll (TaskResult R)} (hr : x.resultRxReady = true)
      (ho : o = if x.panicRxReady then .ready (.error none) else .pending) : ResultPoll x b x o
  | live (hr : x.resultRxReady = false) (ht : x.resultRx.tx = .live) :
      ResultPoll x .left { x with resultRx := { x.resultRx with waker := .registered } } .pending
  | dropped {o : Poll (TaskResult R)} (hr : x.resultRxReady = false) (ht : x.resultRx.tx = .dropped)
      (ho : o = if x.panicRxReady then .ready (.error none) else .pending) :
      ResultPoll x .left { x with resultRx := { x.resultRx with rxDone := true }, resultRxReady := true } o
  | sent {r : R} (hr : x.resultRxReady = false) (ht : x.resultRx.tx = .sent r) :
      ResultPoll x .left { x with resultRx := { x.resultRx with rxDone := true }, resultRxReady := true }
        (.ready (.ok r))
  | cut (hr : x.resultRxReady = false) :
      ResultPoll x .spent { x with resultRx := { x.resultRx with waker := .cut } } .pending

theorem panicPoll_of_eq {x x' : TaskResultReceiver R} {b : Budget} {o : Poll (TaskResult R)}
    (h : x.pollPanicRx b = some (x', o)) : PanicPoll x b x' o := by
  unfold pollPanicRx at h
  split_ifs at h with hr
  · cases h; exact .ready hr
  · have hr := Bool.eq_false_iff.mpr hr
    cases b with
    | left =>
      split at h
      · cases h
      all_goals
        rename_i hp
        cases h
        rcases OneShot.poll_eq_some hp with ⟨ht, ho, rfl⟩ | ⟨a, ht, ho, rfl⟩ | ⟨ht, ho, rfl⟩ <;> cases ho
      · exact .live hr ht
      · exact .sent hr ht
      · exact .dropped hr ht
    | spent =>
      split at h
      · cases h
      all_goals
        rename_i hp
        cases h
        obtain ⟨ho, rfl⟩ := OneShot.poll_spent hp
        cases ho
      exact .cut hr

theorem resultPoll_of_eq {x x' : TaskResultReceiver R} {b : Budget} {o : Poll (TaskResult R)}
    (h : x.pollResultRx b = some (x', o)) : ResultPoll x b x' o := by
  unfold pollResultRx at h
  split_ifs at h with hr
  · cases h
    exact .ready hr (by simp [pollEnd, hr])
  · have hr := Bool.eq_false_iff.mpr hr
    cases b with
    | left =>
      split at h
      · cases h
      all_goals
        rename_i hp
        cases h
        rcases OneShot.poll_eq_some hp with ⟨ht, ho, rfl⟩ | ⟨a, ht, ho, rfl⟩ | ⟨ht, ho, rfl⟩ <;> cases ho
      · simpa [pollEnd, hr] using ResultPoll.live hr ht
      · exact .sent hr ht
      · exact .dropped hr ht (by simp [pollEnd])
    | spent =>
      split at h
      · cases h
      all_goals
        rename_i hp
        cases h
        obtain ⟨ho, rfl⟩ := OneShot.poll_spent hp
        cases ho
      simpa [pollEnd, hr] using ResultPoll.cut hr

/-- Polling leaves the senders alone. -/
theorem PanicPoll.tx {x x' : TaskResultReceiver R} {b : Budget} {o : Poll (TaskResult R)} (h : PanicPoll x b x' o) :
    x'.resultRx.tx = x.resultRx.tx ∧ x'.panicRx.tx = x.panicRx.tx := by
  cases h <;> exact ⟨rfl, rfl⟩

theorem ResultPoll.tx {x x' : TaskResultReceiver R} {b : Budget} {o : Poll (TaskResult R)} (h : ResultPoll x b x' o) :
    x'.resultRx.tx = x.resultRx.tx ∧ x'.panicRx.tx = x.panicRx.tx := by
  cases h <;> exact ⟨rfl, rfl⟩

end TaskResultReceiver

end AsyncSequential
