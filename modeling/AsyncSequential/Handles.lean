import AsyncSequential.Ending
import AsyncSequential.Receiver

/-!
# What a task handle reports

A poll reads the two channels, then `is_cancelled`, then the worker's status, one
after the other, while the others move on. `Handles` says what is known at each
position of a poll, and what a handle can have resolved to: a value or a panic
that was sent, or a reason that was there when the handle found both channels
closed. It also keeps the books of `cancel()`: who has taken a task has recorded
it, or is about to.
-/

namespace AsyncSequential

variable {S F R : Type*}

open OneShot (Tx)

/-! ### What a poll knows -/

/-- Both senders were dropped. -/
def Task.Closed (k : Task F R) : Prop := k.resultTx = .dropped ∧ k.panicTx = .dropped

/-- What the position of a poll says of the task. -/
@[grind] def PollPc.Knows (k : Task F R) : PollPc → Prop
  | .fresh | .pending | .panicRx | .resultRx | .pendingFlag => True
  | .isCancelled | .flag | .panicMsg => k.Closed
  | .cancel .upgrade | .cancel .take | .cancel .dropRaw | .cancel (.done false) => True
  | .cancel .dropPanicTx => k.resultTx = .dropped
  | .cancel .store | .cancel (.done true) => k.Closed

/-- The cancelling party has taken the task and not recorded it. -/
@[grind] def CancelPc.midway : CancelPc → Bool
  | .dropRaw | .dropPanicTx | .store => true
  | .upgrade | .take | .done _ => false

/-- The receiver of a handle that has not resolved. -/
structure ReceiverAt (k : Task F R) : Prop where
  /-- A channel is marked ready when it has completed. -/
  panicDone : k.receiver.panicRxReady = k.receiver.panicRx.rxDone
  /-- So is the other. -/
  resultDone : k.receiver.resultRxReady = k.receiver.resultRx.rxDone
  /-- A channel that is ready was closed. -/
  panicReady : k.receiver.panicRxReady = true → k.panicTx = .dropped
  /-- So was the other. -/
  resultReady : k.receiver.resultRxReady = true → k.resultTx = .dropped

theorem receiverAt_iff {k : Task F R} : ReceiverAt k ↔ k.receiver.Unresolved :=
  ⟨fun h => ⟨h.panicDone, h.resultDone, h.panicReady, h.resultReady⟩,
    fun h => ⟨h.panicDone, h.resultDone, h.panicReady, h.resultReady⟩⟩

namespace Sys

variable {B : Bodies S F R PanicPayload} {v₀ : S} {s s' : Sys S F R} {t : ℕ}

/-- Why a spawn was refused. -/
def Refused (s : Sys S F R) : WorkerSendError → Prop
  | .prevTaskPanic msg => ∃ u p, (u, p) ∈ s.panics ∧ msg = p.msg
  | .runtimeShutdown => s.down = true
  | .taskSenderUnavailable => True

/-- Why the handle of the accepted task `t` resolved to `res`. -/
def Explained (s : Sys S F R) (t : ℕ) : Except TaskError R → Prop
  | .ok r => (s.tasks t).resultTx = .sent r
  | .error (.taskPanic p) => (s.tasks t).panicTx = .sent p
  | .error .taskCancelled => (s.tasks t).Closed ∧ (s.tasks t).isCancelled = true
  | .error (.prevTaskPanic msg) => (s.tasks t).Closed ∧ ∃ u p, (u, p) ∈ s.panics ∧ msg = p.msg
  | .error .workerAborted => (s.tasks t).Closed ∧ ∃ op, s.handle.op? = some op ∧ op.aborts = true
  | .error .workerCancelled => (s.tasks t).Closed ∧ ∃ op, s.handle.op? = some op ∧ op.cancels = true
  | .error .runtimeShutdown => (s.tasks t).Closed ∧ (s.down = true ∨ ∃ i, (s.tasks t).takers = [.canceller i])
  | .error .taskSpawnerUnavailable => False

/-- An accepted task's handle resolves to what was sent, or when both channels are closed. -/
theorem Explained.cases {res : Except TaskError R} (h : s.Explained t res) :
    (∃ r, res = .ok r ∧ (s.tasks t).resultTx = .sent r) ∨
      (∃ p, res = .error (.taskPanic p) ∧ (s.tasks t).panicTx = .sent p) ∨ (s.tasks t).Closed := by
  cases res with
  | ok r => exact .inl ⟨r, rfl, h⟩
  | error e =>
    cases e with
    | taskPanic p => exact .inr (.inl ⟨p, rfl, h⟩)
    | taskSpawnerUnavailable => exact h.elim
    | taskCancelled | prevTaskPanic | workerAborted | workerCancelled | runtimeShutdown => exact .inr (.inr h.1)

/-- What handles report. -/
structure Handles (s : Sys S F R) : Prop where
  /-- The handle of an accepted task polls its channels. -/
  spawned : ∀ t, (s.tasks t).cancellable = true →
    (∃ pc, (s.tasks t).handle = .spawned pc) ∨ ∃ res, (s.tasks t).handle = .resolved res
  /-- No other does. -/
  unspawned : ∀ t pc, (s.tasks t).handle = .spawned pc → (s.tasks t).cancellable = true
  /-- Its receiver is in order until it resolves. -/
  receiver : ∀ t pc, (s.tasks t).handle = .spawned pc → ReceiverAt (s.tasks t)
  /-- A poll knows what it has seen. -/
  knows : ∀ t pc, (s.tasks t).handle = .spawned pc → pc.Knows (s.tasks t)
  /-- A poll that cancels its own task has seen the flag. -/
  cancelling : ∀ t c, (s.tasks t).handle = .spawned (.cancel c) →
    ∃ op, s.handle.op? = some op ∧ op.cancels = true
  /-- Who is about to read the panic message has seen the flag. -/
  panicMsg : ∀ t, ((s.tasks t).handle = .spawned .panicMsg ∨ ∃ via, (s.tasks t).handle = .sendFailedMsg via) →
    s.flag = some .taskPanicked
  /-- The queue is closed by a worker that is over. -/
  closed : s.rxOpen = false → ∃ out, s.worker.out? = some out
  /-- So is a send that failed. -/
  sendFailed : ∀ t via, (s.tasks t).handle = .sendFailed via →
    ∃ out, s.worker.out? = some out ∧ (out = .ok → s.flag = some .cancelStarted)
  /-- A spawn is refused for a reason. -/
  refused : ∀ t reason, (s.tasks t).handle = .unspawned reason → s.Refused reason
  /-- The handle of a rejected task reports that reason. -/
  rejected : ∀ t res, (s.tasks t).handle = .resolved res → (s.tasks t).cancellable = false →
    ∃ reason, res = .error reason.toTaskError ∧ s.Refused reason
  /-- The handle of an accepted task reports what it has seen. -/
  resolved : ∀ t res, (s.tasks t).handle = .resolved res → (s.tasks t).cancellable = true → s.Explained t res
  /-- Who has recorded a cancellation has taken the task. -/
  isCancelled : ∀ t, (s.tasks t).isCancelled = true →
    (∃ i, (s.tasks t).takers = [.canceller i]) ∨ (s.tasks t).takers = [.handle]
  /-- A `cancel()` call that has taken the task has recorded it, or is about to. -/
  canceller : ∀ t i, (s.tasks t).takers = [.canceller i] →
    (s.tasks t).isCancelled = true ∨ ∃ c, s.cancels i = .run t c ∧ c.midway = true
  /-- A poll that has taken the task resolves to `WorkerCancelled`. -/
  taker : ∀ t, (s.tasks t).takers = [.handle] →
    (∃ c, (s.tasks t).handle = .spawned (.cancel c) ∧ c.took = true) ∨
      (s.tasks t).handle = .resolved (.error .workerCancelled)

theorem handles_init (v : S) : (init v : Sys S F R).Handles := by
  constructor <;> simp [init, Task.absent]

/-! ### What a step can do to a handle -/

/-- What a step can make of the handle of task `t`, with its receiver. -/
inductive HandleChange (s s' : Sys S F R) (t : ℕ) : Task F R → Prop
  | same {k : Task F R} (hh : k.handle = (s.tasks t).handle)
      (hp : k.receiver.panicRxReady = (s.tasks t).receiver.panicRxReady)
      (hr : k.receiver.resultRxReady = (s.tasks t).receiver.resultRxReady)
      (hpd : k.receiver.panicRx.rxDone = (s.tasks t).receiver.panicRx.rxDone)
      (hrd : k.receiver.resultRx.rxDone = (s.tasks t).receiver.resultRx.rxDone)
      (hc : k.cancellable = (s.tasks t).cancellable) : HandleChange s s' t k
  | accept {raw : RawTask F} (ht : t = s.next) : HandleChange s s' t (.accepted raw)
  | reject {h : TaskHandle R} (ht : t = s.next)
      (hh : (∃ via, h = .sendFailed via ∧ s.rxOpen = false ∧ s.CanSend via) ∨
        h = .unspawned .taskSenderUnavailable) :
      HandleChange s s' t (.rejected h)
  | pollStart (hh : (s.tasks t).handle = .spawned .fresh ∨ (s.tasks t).handle = .spawned .pending) :
      HandleChange s s' t
        { s.tasks t with receiver := (s.tasks t).receiver.renew, handle := .spawned .panicRx }
  | poll {b : Budget} {g : Task F R → Task F R} (hm : PollMove s t b g) : HandleChange s s' t (g (s.tasks t))
  | unspawned {h : TaskHandle R}
      (hh : (∃ via, (s.tasks t).handle = .sendFailed via ∧ s.flag = some .taskPanicked ∧ h = .sendFailedMsg via) ∨
        (∃ via, (s.tasks t).handle = .sendFailedMsg via ∧ h = .unspawned (.prevTaskPanic s.status.panicMsg)) ∨
        (∃ via, (s.tasks t).handle = .sendFailed via ∧ s.flag = some .runningOrRuntimeShutdown ∧
          h = .unspawned .runtimeShutdown) ∨
        (∃ i, (s.tasks t).handle = .sendFailed (.spawner i) ∧
          (s.flag = some .abortStarted ∨ s.flag = some .cancelStarted) ∧ h = .unspawned .taskSenderUnavailable) ∨
        ∃ reason, (s.tasks t).handle = .unspawned reason ∧ h = .resolved (.error reason.toTaskError)) :
      HandleChange s s' t ((s.tasks t).setHandle h)

theorem handleChange_of_change {k : Task F R} (hc : TaskChange s s' t k) : HandleChange s s' t k := by
  cases hc with
  | accept ht _ _ => exact .accept ht
  | reject ht _ hh => exact .reject ht hh
  | pollStart hh => exact .pollStart hh
  | poll hm => exact .poll hm
  | unspawned hh => exact .unspawned hh
  | sendResult => exact .same rfl rfl rfl rfl (OneShot.send_rxDone ..) rfl
  | closeResult => exact .same rfl rfl rfl rfl (OneShot.close_rxDone ..) rfl
  | closePanic => exact .same rfl rfl rfl (OneShot.close_rxDone ..) rfl rfl
  | sendPanic => exact .same rfl rfl rfl (OneShot.send_rxDone ..) rfl rfl
  | call _ _ hm =>
    cases hm with
    | dropRaw => exact .same rfl rfl rfl rfl (OneShot.close_rxDone ..) rfl
    | dropPanicTx => exact .same rfl rfl rfl (OneShot.close_rxDone ..) rfl rfl
    | _ => exact .same rfl rfl rfl rfl rfl rfl
  | _ => exact .same rfl rfl rfl rfl rfl rfl

/-! ### What stays -/

/-- What was dropped stays dropped. -/
theorem ResultTxChange.dropped_of_dropped {r : Tx R} (hc : ResultTxChange s s' t r)
    (h : (s.tasks t).resultTx = .dropped) : r = .dropped := by
  cases hc <;> grind

theorem PanicTxChange.dropped_of_dropped {p : Tx PanicPayload} (hc : PanicTxChange s s' t p)
    (h : (s.tasks t).panicTx = .dropped) : p = .dropped := by
  cases hc <;> grind

theorem closed_of_move {a : Act F} (hc : s.Cells) (m : Move B s a s') (h : (s.tasks t).Closed) :
    (s'.tasks t).Closed :=
  ⟨(hc.resultTx_of_move m).dropped_of_dropped h.1, (hc.panicTx_of_move m).dropped_of_dropped h.2⟩

/-- The operation that has consumed the handle stays. -/
theorem op_of_move {a : Act F} {op : Consume} (m : Move B s a s') (h : s.handle.op? = some op) :
    s'.handle.op? = some op := by
  cases m with
  | handle m =>
    cases m with
    | consume hh => simp [hh, HandlePc.op?] at h
    | dropCtx hh => rw [hh] at h; cases h; simp only; split_ifs <;> rfl
    | dropTx hh =>
      rw [hh] at h; cases h; simp only
      split_ifs
      · rfl
      · exact op?_afterSenders _
    | dropJoin hh => rcases hh with hh | ⟨out, hh⟩ <;> rw [hh] at h <;> exact h
    | corrupted | stateMissing => exact h
    | finished hh | notFinished hh | setAbort hh | setCancel hh | setFailed hh | abortWorker hh | closeSenders hh
    | workerEnded hh | lockState hh | takeState hh | unlockState hh | decideOk hh | decideAborted hh
    | decidePanicked hh | decideShutdown hh | readPanicMsg hh => rw [hh] at h; exact h
  | worker m | runtime m | pool m | call m | taskHandle m | spawn m | spawner m => cases m <;> exact h

theorem down_of_move {a : Act F} (m : Move B s a s') (h : s.down = true) : s'.down = true := by
  cases m with
  | worker m | runtime m | pool m | call m | taskHandle m | spawn m | spawner m | handle m =>
    cases m <;> first | exact h | rfl

/-- A change forgets no cancellation. -/
theorem isCancelled_of_change {k : Task F R} (hc : s.Cells) (h : TaskChange s s' t k)
    (hk : (s.tasks t).isCancelled = true) : k.isCancelled = true := by
  cases h with
  | accept ht | reject ht => simp [hc.fresh t ht.ge, Task.absent] at hk
  | call _ _ hm => cases hm <;> first | exact hk | rfl
  | poll hm =>
    cases hm with
    | cancel _ hm => cases hm <;> first | exact hk | rfl
    | _ => exact hk
  | _ => exact hk

theorem refused_of_move {a : Act F} {reason : WorkerSendError} (m : Move B s a s') (h : s.Refused reason) :
    s'.Refused reason := by
  cases reason with
  | prevTaskPanic msg =>
    obtain ⟨u, p, hp, hmsg⟩ := h
    exact ⟨u, p, panics_of_move m hp, hmsg⟩
  | runtimeShutdown => exact down_of_move m h
  | taskSenderUnavailable => trivial

theorem explained_of_move {a : Act F} {res : Except TaskError R} (hc : s.Cells) (m : Move B s a s')
    (h : s.Explained t res) : s'.Explained t res := by
  cases res with
  | ok r => exact (hc.resultTx_of_move m).sent_of_sent h
  | error e =>
    cases e with
    | taskPanic p => exact (hc.panicTx_of_move m).sent_of_sent h
    | taskCancelled => exact ⟨closed_of_move hc m h.1, isCancelled_of_change hc (taskChange_of_move m t) h.2⟩
    | prevTaskPanic msg =>
      obtain ⟨hk, u, p, hp, hmsg⟩ := h
      exact ⟨closed_of_move hc m hk, u, p, panics_of_move m hp, hmsg⟩
    | workerAborted | workerCancelled =>
      obtain ⟨hk, op, hop, ho⟩ := h
      exact ⟨closed_of_move hc m hk, op, op_of_move m hop, ho⟩
    | runtimeShutdown =>
      refine ⟨closed_of_move hc m h.1, h.2.imp (down_of_move m) fun ⟨i, hi⟩ => ⟨i, ?_⟩⟩
      rw [hc.takers_of_move m (by simp [hi]), hi]
    | taskSpawnerUnavailable => exact h.elim

/-! ### The steps, one field at a time -/

theorem Handles.spawned_step {a : Act F} (h : s.Handles) (m : Move B s a s')
    (hk : (s'.tasks t).cancellable = true) :
    (∃ pc, (s'.tasks t).handle = .spawned pc) ∨ ∃ res, (s'.tasks t).handle = .resolved res := by
  have hchange := handleChange_of_change (taskChange_of_move m t)
  generalize s'.tasks t = k at hchange hk
  have h₁ := h.spawned t
  cases hchange with
  | same hh _ _ _ _ hc =>
    rw [hh]
    exact h₁ (hc ▸ hk)
  | accept => exact .inl ⟨_, rfl⟩
  | reject => cases hk
  | pollStart => exact .inl ⟨_, rfl⟩
  | poll hm =>
    exact hm.outcome
  | unspawned hh =>
    rcases h₁ hk with ⟨pc, hold⟩ | ⟨res, hold⟩
    · exact absurd hold ((rejectMove_of_unspawned hh).not_spawned pc)
    · exact absurd hold ((rejectMove_of_unspawned hh).not_resolved res)

/-- A handle that polls its channels did before, or is new. -/
theorem spawned_of_change {k : Task F R} {pc : PollPc} (hc : HandleChange s s' t k)
    (hk : k.handle = .spawned pc) :
    (∃ pc₀, (s.tasks t).handle = .spawned pc₀ ∧ k.cancellable = (s.tasks t).cancellable) ∨
      ∃ raw, k = .accepted raw := by
  cases hc with
  | same hh _ _ _ _ hc => exact .inl ⟨pc, hh ▸ hk, hc⟩
  | accept => exact .inr ⟨_, rfl⟩
  | reject _ hh => rcases hh with ⟨via, rfl, -⟩ | rfl <;> cases hk
  | pollStart hh => rcases hh with hh | hh <;> exact .inl ⟨_, hh, rfl⟩
  | poll hm =>
    cases hm with
    | cancel hh hm => exact .inl ⟨_, hh, by cases hm <;> rfl⟩
    | panicRx hh | panicRxReady hh | resultRx hh | resultRxReady hh | isCancelled hh | notCancelled hh
    | aborted hh | cancelled hh | panicked hh | shutdown hh | panicMsg hh | pendingCancel hh | pending hh
    | cancelDone hh | cancelFailed hh => exact .inl ⟨_, hh, rfl⟩
  | unspawned hh => cases rejectMove_of_unspawned hh <;> cases hk

/-- A handle that is not in a poll stays as it is, but for that of a rejected task. -/
theorem HandleChange.of_not_spawned {k : Task F R} (hc : HandleChange s s' t k) (ht : t ≠ s.next)
    (hn : ∀ pc, (s.tasks t).handle ≠ .spawned pc) :
    k.handle = (s.tasks t).handle ∨ RejectMove s t k.handle := by
  cases hc with
  | same hh => exact .inl hh
  | accept he | reject he => exact absurd he ht
  | pollStart hh => rcases hh with hh | hh <;> exact absurd hh (hn _)
  | poll hm =>
    obtain ⟨pc, hh⟩ := hm.spawned
    exact absurd hh (hn pc)
  | unspawned hh => exact .inr (rejectMove_of_unspawned hh)

/-- A poll that cancels its task stays there, goes on with that, or is done with it. -/
theorem HandleChange.of_cancel {k : Task F R} {c : CancelPc} (hc : HandleChange s s' t k) (ht : t ≠ s.next)
    (hh : (s.tasks t).handle = .spawned (.cancel c)) :
    k.handle = .spawned (.cancel c) ∨
      (∃ c' g, CancelMove s t .handle .handle c g c' ∧ k = (g (s.tasks t)).setHandle (.spawned (.cancel c'))) ∨
      c = .done true ∧ k.handle = .resolved (.error .workerCancelled) ∨
      c = .done false ∧ k.handle = .spawned .pending := by
  cases hc with
  | same he => exact .inl (he.trans hh)
  | accept he | reject he => exact absurd he ht
  | pollStart hp => rcases hp with hp | hp <;> cases hp.symm.trans hh
  | unspawned hp => exact absurd hh ((rejectMove_of_unspawned hp).not_spawned _)
  | poll hm =>
    cases hm with
    | cancel hp hm =>
      cases hp.symm.trans hh
      exact .inr (.inl ⟨_, _, hm, rfl⟩)
    | cancelDone hp =>
      cases hp.symm.trans hh
      exact .inr (.inr (.inl ⟨rfl, rfl⟩))
    | cancelFailed hp =>
      cases hp.symm.trans hh
      exact .inr (.inr (.inr ⟨rfl, rfl⟩))
    | panicRx hp | panicRxReady hp | resultRx hp | resultRxReady hp | isCancelled hp | notCancelled hp
    | aborted hp | cancelled hp | panicked hp | shutdown hp | panicMsg hp | pendingCancel hp | pending hp =>
      cases hp.symm.trans hh

/-- A handle that is in a poll, and not at its start, was there before, or a step of the poll leads there. -/
theorem HandleChange.pollMove {k : Task F R} {pc : PollPc} (hc : HandleChange s s' t k)
    (hk : k.handle = .spawned pc) (hfresh : pc ≠ .fresh) (hstart : pc ≠ .panicRx) :
    (s.tasks t).handle = .spawned pc ∨ ∃ b g, PollMove s t b g ∧ k = g (s.tasks t) := by
  cases hc with
  | same hh => exact .inl (hh ▸ hk)
  | accept => cases hk; exact absurd rfl hfresh
  | pollStart => cases hk; exact absurd rfl hstart
  | reject _ hh => rcases hh with ⟨via, rfl, -⟩ | rfl <;> cases hk
  | poll hm => exact .inr ⟨_, _, hm, rfl⟩
  | unspawned hh => cases rejectMove_of_unspawned hh <;> cases hk

/-- Only its own poll moves the handle of an accepted task. -/
theorem Cells.handle_of_move {a : Act F} {pc : PollPc} (hc : s.Cells) (m : Move B s a s')
    (hh : (s.tasks t).handle = .spawned pc) (ha : ∀ b, a ≠ .pollStep t b) :
    (s'.tasks t).handle = .spawned pc ∨ (pc = .fresh ∨ pc = .pending) ∧ (s'.tasks t).handle = .spawned .panicRx := by
  have hold : ∀ {u : ℕ} {k : Task F R}, k.handle = (s.tasks u).handle ∨ t ≠ u →
      (Function.update s.tasks u k t).handle = .spawned pc := by
    intro u k hk
    by_cases hu : t = u
    · subst hu
      simpa [hh] using hk
    · simp [hu, hh]
  cases m with
  | worker m =>
    cases m with
    | take | skip | asyncSend | asyncUnwind | succeeded | sendPanic | dropBodyTx | lastMessage | message | resultTx
    | panicTx | drainLast | drain => exact .inl (hold (.inl rfl))
    | _ => exact .inl hh
  | pool m =>
    cases m with
    | send | unwind | dropRaw => exact .inl (hold (.inl rfl))
    | _ => exact .inl hh
  | runtime m =>
    cases m with
    | dropQueued => exact .inl (hold (.inl rfl))
    | _ => exact .inl hh
  | call m =>
    cases m with
    | run _ hm => exact .inl (hold (.inl (by cases hm <;> rfl)))
    | _ => exact .inl hh
  | taskHandle m =>
    cases m with
    | @start u hu =>
      by_cases htu : t = u
      · subst htu
        refine .inr ⟨?_, by simp⟩
        rcases hu with hu | hu <;> cases hh.symm.trans hu
        · exact .inl rfl
        · exact .inr rfl
      · exact .inl (hold (.inr htu))
    | @unspawned u reason hu =>
      refine .inl (hold (.inr ?_))
      rintro rfl
      cases hh.symm.trans hu
    | @step u b g hm =>
      refine .inl (hold (.inr ?_))
      rintro rfl
      exact ha b rfl
    | _ => exact .inl hh
  | spawn m =>
    have hne : t ≠ s.next := by
      rintro rfl
      simp [hc.fresh _ le_rfl, Task.absent] at hh
    cases m with
    | accept | reject | unavailable => exact .inl (by simpa [addTask, hne] using hh)
    | corrupted | unreachable => exact .inl hh
    | panicked hu | shutdown hu | closed hu | panicMsg hu =>
      refine .inl (hold (.inr ?_))
      rintro rfl
      cases hh.symm.trans hu
  | spawner m | handle m => cases m <;> exact .inl hh

theorem Handles.unspawned_step {a : Act F} (h : s.Handles) (m : Move B s a s') {pc : PollPc}
    (hk : (s'.tasks t).handle = .spawned pc) : (s'.tasks t).cancellable = true := by
  rcases spawned_of_change (handleChange_of_change (taskChange_of_move m t)) hk with ⟨pc₀, hh, hc⟩ | ⟨raw, hc⟩
  · rw [hc]; exact h.unspawned t pc₀ hh
  · rw [hc]; rfl

/-- What a poll that goes on does to the receiver. -/
theorem receiverAt_of_pollMove {b : Budget} {g : Task F R → Task F R} {pc : PollPc} (h : ReceiverAt (s.tasks t))
    (hm : PollMove s t b g) (hk : (g (s.tasks t)).handle = .spawned pc) : ReceiverAt (g (s.tasks t)) := by
  rw [receiverAt_iff] at h ⊢
  cases hm with
  | panicRx _ hx => exact h.panicPoll (TaskResultReceiver.panicPoll_of_eq hx)
  | panicRxReady _ hx =>
    cases TaskResultReceiver.panicPoll_of_eq hx
    cases hk
  | resultRx _ hx => exact h.resultPoll (TaskResultReceiver.resultPoll_of_eq hx) nofun
  | resultRxReady _ hx =>
    refine h.resultPoll (TaskResultReceiver.resultPoll_of_eq hx) fun r hr => ?_
    cases hr
    cases hk
  | cancel _ hm =>
    cases hm with
    | dropRaw => exact h.closeResult
    | dropPanicTx => exact h.closePanic
    | _ => exact h
  | _ => exact h

theorem Handles.receiver_step {a : Act F} (h : s.Handles) (hc : s.Cells) (m : Move B s a s') {pc : PollPc}
    (hk : (s'.tasks t).handle = .spawned pc) : ReceiverAt (s'.tasks t) := by
  have hr := fun hd => (hc.resultTx_of_move (t := t) m).dropped_of_dropped hd
  have hp := fun hd => (hc.panicTx_of_move (t := t) m).dropped_of_dropped hd
  have hchange := handleChange_of_change (taskChange_of_move m t)
  generalize s'.tasks t = k at hchange hk hr hp
  have hold : ∀ {pc₀}, (s.tasks t).handle = .spawned pc₀ → ReceiverAt (s.tasks t) := fun hh => h.receiver t _ hh
  cases hchange with
  | same hh hpr hrr hpd hrd _ =>
    obtain ⟨h₁, h₂, h₃, h₄⟩ := hold (hh ▸ hk)
    exact ⟨by rw [hpr, hpd, h₁], by rw [hrr, hrd, h₂], fun hx => hp (h₃ (hpr ▸ hx)), fun hx => hr (h₄ (hrr ▸ hx))⟩
  | accept => exact ⟨rfl, rfl, nofun, nofun⟩
  | reject _ hh => rcases hh with ⟨via, rfl, -⟩ | rfl <;> cases hk
  | pollStart hh =>
    have ⟨h₁, h₂, h₃, h₄⟩ : ReceiverAt (s.tasks t) := by rcases hh with hh | hh <;> exact hold hh
    exact ⟨h₁, h₂, h₃, h₄⟩
  | poll hm =>
    obtain ⟨pc₀, hh⟩ := hm.spawned
    exact receiverAt_of_pollMove (hold hh) hm hk
  | unspawned hh => cases rejectMove_of_unspawned hh <;> cases hk

/-- A poll that has taken the task drops its senders. -/
theorem Channels.not_sent (h : s.Channels) (hx : (s.tasks t).takers ≠ [.worker] → s.fate t = .unstarted)
    (ht : (s.tasks t).takers ≠ [.worker]) :
    (∀ r, (s.tasks t).resultTx ≠ .sent r) ∧ ∀ p, (s.tasks t).panicTx ≠ .sent p := by
  have hfate := hx ht
  refine ⟨fun r hr => ?_, fun p hp => ?_⟩
  · simp [h.sent t r hr] at hfate
  · simp [(h.panicSent t p hp).1] at hfate

/-- What a cancelling poll knows. -/
theorem knows_of_cancelMove {o : Owner} {x : Taker} {g : Task F R → Task F R} {c c' : CancelPc}
    (hm : CancelMove s t o x c g c') (h : PollPc.Knows (s.tasks t) (.cancel c))
    (hs : c.took = true → (∀ r, (s.tasks t).resultTx ≠ .sent r) ∧ ∀ p, (s.tasks t).panicTx ≠ .sent p)
    {k : Task F R} (hr : k.resultTx = (g (s.tasks t)).resultTx) (hp : k.panicTx = (g (s.tasks t)).panicTx) :
    PollPc.Knows k (.cancel c') := by
  cases hm with
  | dropRaw =>
    have hs := (hs rfl).1
    rw [Task.resultTx_closeResult] at hr
    show k.resultTx = .dropped
    cases ht : (s.tasks t).resultTx <;> simp_all [Tx.close]
  | dropPanicTx =>
    have hs := (hs rfl).2
    rw [Task.panicTx_release, Task.panicTx_closePanic] at hp
    refine ⟨hr.trans h, ?_⟩
    cases ht : (s.tasks t).panicTx <;> simp_all [Tx.close]
  | store => exact ⟨hr.trans h.1, hp.trans h.2⟩
  | upgrade | upgradeFailed | take | takeFailed => trivial

theorem Handles.knows_step {a : Act F} (h : s.Handles) (hc : s.Cells) (hch : s.Channels)
    (hx : (s.tasks t).takers ≠ [.worker] → s.fate t = .unstarted) (m : Move B s a s') {pc : PollPc}
    (hk : (s'.tasks t).handle = .spawned pc) : pc.Knows (s'.tasks t) := by
  have hr := fun hd => (hc.resultTx_of_move (t := t) m).dropped_of_dropped hd
  have hp := fun hd => (hc.panicTx_of_move (t := t) m).dropped_of_dropped hd
  have hchange := handleChange_of_change (taskChange_of_move m t)
  generalize s'.tasks t = k at hchange hk hr hp
  have hstay : ∀ {k' : Task F R} {pc₀ : PollPc}, pc₀.Knows (s.tasks t) → ((s.tasks t).resultTx = .dropped → k'.resultTx = .dropped) →
      ((s.tasks t).panicTx = .dropped → k'.panicTx = .dropped) → pc₀.Knows k' := by
    intro k' pc₀ hkn hr hp
    cases pc₀ with
    | isCancelled | flag | panicMsg => exact ⟨hr hkn.1, hp hkn.2⟩
    | fresh | pending | panicRx | resultRx | pendingFlag => trivial
    | cancel c =>
      cases c with
      | upgrade | take | dropRaw => trivial
      | dropPanicTx => exact hr hkn
      | store => exact ⟨hr hkn.1, hp hkn.2⟩
      | done b => cases b with
        | false => trivial
        | true => exact ⟨hr hkn.1, hp hkn.2⟩
  cases hchange with
  | same hh => exact hstay (h.knows t pc (hh ▸ hk)) hr hp
  | accept => cases hk; trivial
  | reject _ hh => rcases hh with ⟨via, rfl, -⟩ | rfl <;> cases hk
  | pollStart => cases hk; trivial
  | poll hm =>
    cases hm with
    | isCancelled | aborted | cancelled | shutdown | panicMsg | cancelDone => cases hk
    | panicRx | resultRx | pendingCancel | pending | cancelFailed => cases hk; trivial
    | notCancelled hh | panicked hh => cases hk; exact h.knows t _ hh
    | panicRxReady hh hx => cases TaskResultReceiver.panicPoll_of_eq hx; cases hk
    | resultRxReady hh hx =>
      obtain ⟨-, -, h₃, h₄⟩ := h.receiver t _ hh
      cases TaskResultReceiver.resultPoll_of_eq hx with
      | sent => cases hk
      | ready hrr ho =>
        split_ifs at ho with hpr
        cases ho; cases hk
        exact ⟨h₄ hrr, h₃ hpr⟩
      | dropped hrr ht ho =>
        split_ifs at ho with hpr
        cases ho; cases hk
        exact ⟨ht, h₃ hpr⟩
    | @cancel c c' g hh hm =>
      cases hk
      exact knows_of_cancelMove hm (h.knows t _ hh) (fun ht => hch.not_sent hx (by simp [hc.handle t c hh ht])) rfl rfl
  | unspawned hh => cases rejectMove_of_unspawned hh <;> cases hk

theorem Handles.cancelling_step {a : Act F} (h : s.Handles) (hst : s.Status) (m : Move B s a s') {c : CancelPc}
    (hk : (s'.tasks t).handle = .spawned (.cancel c)) : ∃ op, s'.handle.op? = some op ∧ op.cancels = true := by
  suffices hs : ∃ op, s.handle.op? = some op ∧ op.cancels = true by
    obtain ⟨op, hop, ho⟩ := hs
    exact ⟨op, op_of_move m hop, ho⟩
  rcases (handleChange_of_change (taskChange_of_move m t)).pollMove hk nofun nofun with hold | ⟨b, g, hm, he⟩
  · exact h.cancelling t c hold
  · rw [he] at hk
    cases hm with
    | pendingCancel _ hf => exact hst.cancels hf
    | cancel hh _ => exact h.cancelling t _ hh
    | panicRxReady | resultRxReady => cases (ofReady_eq_spawned.mp hk).2
    | _ => cases hk

/-- Once a panic is recorded the flag stays. -/
theorem flag_of_panicked {a : Act F} (m : Move B s a s') (hf : s.flag = some .taskPanicked) :
    s'.flag = some .taskPanicked := by
  rcases flag_of_move m (by simp [hf]) with hf' | hf'
  · exact hf'.trans hf
  · exact hf'

theorem Handles.panicMsg_step {a : Act F} (h : s.Handles) (m : Move B s a s')
    (hk : (s'.tasks t).handle = .spawned .panicMsg ∨ ∃ via, (s'.tasks t).handle = .sendFailedMsg via) :
    s'.flag = some .taskPanicked := by
  refine flag_of_panicked m ?_
  have hchange := handleChange_of_change (taskChange_of_move m t)
  generalize s'.tasks t = k at hchange hk
  cases hchange with
  | same hh => rw [hh] at hk; exact h.panicMsg t hk
  | accept | pollStart => rcases hk with hk | ⟨via, hk⟩ <;> cases hk
  | reject _ hh =>
    rcases hk with hk | ⟨via, hk⟩ <;> rcases hh with ⟨via, rfl, -⟩ | rfl <;> cases hk
  | poll hm =>
    cases hm with
    | panicked _ hf => exact hf
    | panicRxReady | resultRxReady =>
      rcases hk with hk | ⟨via, hk⟩
      · cases (ofReady_eq_spawned.mp hk).2
      · rcases ofReady_cases _ with ho | ⟨res, ho⟩ <;> cases ho.symm.trans hk
    | _ => rcases hk with hk | ⟨via, hk⟩ <;> cases hk
  | unspawned hu =>
    cases rejectMove_of_unspawned hu with
    | panicked _ hf => exact hf
    | panicMsg | shutdown | closed | resolve => rcases hk with hk | ⟨via, hk⟩ <;> cases hk

theorem Handles.closed_step {a : Act F} (h : s.Handles) (m : Move B s a s') (hk : s'.rxOpen = false) :
    ∃ out, s'.worker.out? = some out := by
  have hs : (∃ out, s.worker.out? = some out) := by
    cases m with
    | worker m =>
      cases m with
      | closeRx hw => exact ⟨_, by rw [hw]; rfl⟩
      | _ => exact h.closed hk
    | runtime m | pool m | call m | taskHandle m | spawn m | spawner m | handle m => cases m <;> exact h.closed hk
  exact hs.imp fun out ho => out_of_move m ho

/-- A send fails after the worker has ended, with a sender in hand. -/
theorem Handles.out_of_reject (h : s.Handles) (he : s.Ending) {via : Via} (ho : s.rxOpen = false)
    (hv : s.CanSend via) : ∃ out, s.worker.out? = some out ∧ (out = .ok → s.flag = some .cancelStarted) := by
  obtain ⟨out, hout⟩ := h.closed ho
  refine ⟨out, hout, ?_⟩
  rintro rfl
  rcases he.finished hout with ⟨-, hs, -⟩ | hf
  · rcases hv with ⟨-, hh⟩ | ⟨i, -, -, hc⟩
    · simpa [hs] using he.live hh
    · simpa [hs] using he.ctx _ hc
  · exact hf

theorem Handles.sendFailed_step {a : Act F} (h : s.Handles) (he : s.Ending) (m : Move B s a s') {via : Via}
    (hk : (s'.tasks t).handle = .sendFailed via) :
    ∃ out, s'.worker.out? = some out ∧ (out = .ok → s'.flag = some .cancelStarted) := by
  have hs : ∃ out, s.worker.out? = some out ∧ (out = .ok → s.flag = some .cancelStarted) := by
    have hchange := handleChange_of_change (taskChange_of_move m t)
    generalize s'.tasks t = k at hchange hk
    cases hchange with
    | same hh => exact h.sendFailed t via (hh ▸ hk)
    | accept | pollStart => cases hk
    | reject _ hh =>
      rcases hh with ⟨via', rfl, ho, hv⟩ | rfl
      · exact h.out_of_reject he ho hv
      · cases hk
    | poll hm => rcases hm.outcome with ⟨pc, hg⟩ | ⟨res, hg⟩ <;> cases hg.symm.trans hk
    | unspawned hh => cases rejectMove_of_unspawned hh <;> cases hk
  obtain ⟨out, ho, hf⟩ := hs
  exact ⟨out, out_of_move m ho, fun hok => flag_of_over m (hf hok) ho⟩

/-- A worker that fails without a panic recorded fails at a shutdown. -/
theorem Ending.down_of_over (he : s.Ending) (hst : s.Status) {out : WorkerOut} (ho : s.worker.out? = some out)
    (hok : out = .ok → s.flag = some .cancelStarted) (hf : s.flag = some .runningOrRuntimeShutdown) :
    s.down = true := by
  cases out with
  | ok => simp [hok rfl] at hf
  | err =>
    rcases he.erred (by cases hw : s.worker <;> simp_all [WorkerPc.out?, WorkerPc.stage]) with hp | hd
    · simp [hst.panicked.mpr hp] at hf
    · exact hd
  | aborted =>
    rcases he.aborted (by cases hw : s.worker <;> simp_all [WorkerPc.out?, WorkerPc.wasDropped]) with ha | hd
    · rcases (hst.aborting ha).2 with hf' | hf' <;> simp [hf'] at hf
    · exact hd

/-- The message of the recorded panic. -/
theorem Status.exists_msg (h : s.Status) (hf : s.flag = some .taskPanicked) :
    ∃ u p, (u, p) ∈ s.panics ∧ s.status.panicMsg = p.msg := by
  obtain ⟨u, p, hp⟩ := h.exists_of_flag hf
  exact ⟨u, p, hp, h.panicMsg_eq hp⟩

theorem Handles.refused_step {a : Act F} (h : s.Handles) (he : s.Ending) (hst : s.Status) (m : Move B s a s')
    {reason : WorkerSendError} (hk : (s'.tasks t).handle = .unspawned reason) : s'.Refused reason := by
  refine refused_of_move m ?_
  have hchange := handleChange_of_change (taskChange_of_move m t)
  generalize s'.tasks t = k at hchange hk
  cases hchange with
  | same hh => exact h.refused t reason (hh ▸ hk)
  | accept | pollStart => cases hk
  | reject _ hh =>
    rcases hh with ⟨via', rfl, -⟩ | rfl
    · cases hk
    · cases hk; trivial
  | poll hm => rcases hm.outcome with ⟨pc, hg⟩ | ⟨res, hg⟩ <;> cases hg.symm.trans hk
  | unspawned hu =>
    cases rejectMove_of_unspawned hu with
    | panicked | resolve => cases hk
    | panicMsg hh => cases hk; exact hst.exists_msg (h.panicMsg t (.inr ⟨_, hh⟩))
    | shutdown hh hf =>
      cases hk
      obtain ⟨out, ho, hok⟩ := h.sendFailed t _ hh
      exact he.down_of_over hst ho hok hf
    | closed => cases hk; trivial

theorem Handles.rejected_step {a : Act F} (h : s.Handles) (m : Move B s a s') {res : Except TaskError R}
    (hk : (s'.tasks t).handle = .resolved res) (hc : (s'.tasks t).cancellable = false) :
    ∃ reason, res = .error reason.toTaskError ∧ s'.Refused reason := by
  suffices hs : ∃ reason, res = .error reason.toTaskError ∧ s.Refused reason by
    obtain ⟨reason, hres, hr⟩ := hs
    exact ⟨reason, hres, refused_of_move m hr⟩
  have hchange := handleChange_of_change (taskChange_of_move m t)
  generalize s'.tasks t = k at hchange hk hc
  cases hchange with
  | same hh _ _ _ _ hcc => exact h.rejected t res (hh ▸ hk) (hcc ▸ hc)
  | accept | pollStart => cases hk
  | reject _ hh => rcases hh with ⟨via', rfl, -⟩ | rfl <;> cases hk
  | poll hm =>
    obtain ⟨pc, hh⟩ := hm.spawned
    have hacc := h.unspawned t pc hh
    cases hm with
    | cancel _ hm => cases hk
    | _ => exact nomatch hacc.symm.trans hc
  | unspawned hu =>
    cases rejectMove_of_unspawned hu with
    | panicked | panicMsg | shutdown | closed => cases hk
    | resolve hh => cases hk; exact ⟨_, rfl, h.refused t _ hh⟩

/-- A handle that finds both channels closed while nothing is recorded reports a shutdown,
but for a task that is being cancelled. -/
theorem Handles.shutdown_of_closed (h : s.Handles) (hc : s.Cells) (hch : s.Channels) (he : s.Ending)
    (hst : s.Status) (hk : (s.tasks t).Closed) (hh : (s.tasks t).handle = .spawned .flag)
    (hf : s.flag = some .runningOrRuntimeShutdown) :
    s.down = true ∨ ∃ i, (s.tasks t).takers = [.canceller i] := by
  have hone := (hc.cell t).one
  match htk : (s.tasks t).takers with
  | [] => cases (hch.untaken t htk).1.symm.trans hk.1
  | [.canceller i] => exact .inr ⟨i, rfl⟩
  | [.handle] =>
    rcases h.taker t htk with ⟨c, hh', -⟩ | hh' <;> cases hh.symm.trans hh'
  | [.dropped] =>
    obtain ⟨out, ho, hok⟩ := he.dropped t htk
    exact .inl (he.down_of_over hst ho hok hf)
  | [.worker] =>
    rcases hch.panicDropped t htk hk.2 with ⟨r, hr⟩ | ho | ⟨ho, -⟩
    · cases hr.symm.trans hk.1
    · exact .inl (he.down_of_over hst ho nofun hf)
    · exact .inl (he.down_of_over hst ho nofun hf)
  | _ :: _ :: _ => simp [htk] at hone

/-- How the handle of an accepted task can resolve in a step from `s`. -/
inductive Resolves (s : Sys S F R) (t : ℕ) : Except TaskError R → Prop
  | ok {r : R} (hs : (s.tasks t).resultTx = .sent r) : Resolves s t (.ok r)
  | taskPanic {p : PanicPayload} (hs : (s.tasks t).panicTx = .sent p) : Resolves s t (.error (.taskPanic p))
  | taskCancelled (hh : (s.tasks t).handle = .spawned .isCancelled) (hc : (s.tasks t).isCancelled = true) :
      Resolves s t (.error .taskCancelled)
  | workerAborted (hh : (s.tasks t).handle = .spawned .flag) (hf : s.flag = some .abortStarted) :
      Resolves s t (.error .workerAborted)
  | workerCancelled (hh : (s.tasks t).handle = .spawned .flag) (hf : s.flag = some .cancelStarted) :
      Resolves s t (.error .workerCancelled)
  | runtimeShutdown (hh : (s.tasks t).handle = .spawned .flag) (hf : s.flag = some .runningOrRuntimeShutdown) :
      Resolves s t (.error .runtimeShutdown)
  | prevTaskPanic (hh : (s.tasks t).handle = .spawned .panicMsg) :
      Resolves s t (.error (.prevTaskPanic s.status.panicMsg))
  | taken (hh : (s.tasks t).handle = .spawned (.cancel (.done true))) : Resolves s t (.error .workerCancelled)

/-- A handle that has resolved had, or resolves now. -/
theorem Handles.resolves_of_change (h : s.Handles) {k : Task F R} (hc : HandleChange s s' t k)
    {res : Except TaskError R} (hk : k.handle = .resolved res) (hcc : k.cancellable = true) :
    ((s.tasks t).handle = .resolved res ∧ (s.tasks t).cancellable = true) ∨ s.Resolves t res := by
  cases hc with
  | same hh _ _ _ _ hcc' => exact .inl ⟨hh ▸ hk, hcc' ▸ hcc⟩
  | accept | pollStart => cases hk
  | reject => cases hcc
  | poll hm =>
    right
    cases hm with
    | panicRx | resultRx | notCancelled | panicked | pendingCancel | pending | cancelFailed | cancel => cases hk
    | panicRxReady _ hx =>
      cases TaskResultReceiver.panicPoll_of_eq hx with
      | sent _ ht => cases hk; exact .taskPanic ht
    | resultRxReady _ hx =>
      cases TaskResultReceiver.resultPoll_of_eq hx with
      | sent _ ht => cases hk; exact .ok ht
      | ready _ ho | dropped _ _ ho => split_ifs at ho; cases ho; cases hk
    | isCancelled hh hic => cases hk; exact .taskCancelled hh hic
    | aborted hh hf => cases hk; exact .workerAborted hh hf
    | cancelled hh hf => cases hk; exact .workerCancelled hh hf
    | shutdown hh hf => cases hk; exact .runtimeShutdown hh hf
    | panicMsg hh => cases hk; exact .prevTaskPanic hh
    | cancelDone hh => cases hk; exact .taken hh
  | unspawned hh =>
    rcases h.spawned t hcc with ⟨pc, hold⟩ | ⟨res', hold⟩
    · exact absurd hold ((rejectMove_of_unspawned hh).not_spawned pc)
    · exact absurd hold ((rejectMove_of_unspawned hh).not_resolved res')

theorem Handles.resolved_step {a : Act F} (h : s.Handles) (hc : s.Cells) (hch : s.Channels) (he : s.Ending)
    (hst : s.Status) (m : Move B s a s') {res : Except TaskError R} (hk : (s'.tasks t).handle = .resolved res)
    (hcc : (s'.tasks t).cancellable = true) : s'.Explained t res := by
  refine explained_of_move hc m ?_
  rcases h.resolves_of_change (handleChange_of_change (taskChange_of_move m t)) hk hcc with ⟨hres, hold⟩ | hres
  · exact h.resolved t res hres hold
  · cases hres with
    | ok hs => exact hs
    | taskPanic hs => exact hs
    | taskCancelled hh hic => exact ⟨h.knows t _ hh, hic⟩
    | workerAborted hh hf => exact ⟨h.knows t _ hh, hst.aborts hf⟩
    | workerCancelled hh hf => exact ⟨h.knows t _ hh, hst.cancels hf⟩
    | runtimeShutdown hh hf =>
      exact ⟨h.knows t _ hh, h.shutdown_of_closed hc hch he hst (h.knows t _ hh) hh hf⟩
    | prevTaskPanic hh => exact ⟨h.knows t _ hh, hst.exists_msg (h.panicMsg t (.inl hh))⟩
    | taken hh => exact ⟨h.knows t _ hh, h.cancelling t _ hh⟩

/-- Who records a cancellation. -/
theorem isCancelled_cases {k : Task F R} (hc : TaskChange s s' t k) (hk : k.isCancelled = true) :
    (s.tasks t).isCancelled = true ∨ (∃ i, s.cancels i = .run t .store) ∨
      (s.tasks t).handle = .spawned (.cancel .store) := by
  cases hc with
  | accept | reject => cases hk
  | call hi _ hm =>
    cases hm with
    | store => exact .inr (.inl ⟨_, hi⟩)
    | _ => exact .inl hk
  | poll hm =>
    cases hm with
    | cancel hh hm =>
      cases hm with
      | store => exact .inr (.inr hh)
      | _ => exact .inl hk
    | _ => exact .inl hk
  | _ => exact .inl hk

theorem Handles.isCancelled_step {a : Act F} (h : s.Handles) (hc : s.Cells) (m : Move B s a s')
    (hk : (s'.tasks t).isCancelled = true) :
    (∃ i, (s'.tasks t).takers = [.canceller i]) ∨ (s'.tasks t).takers = [.handle] := by
  have hs : (∃ i, (s.tasks t).takers = [.canceller i]) ∨ (s.tasks t).takers = [.handle] := by
    rcases isCancelled_cases (taskChange_of_move m t) hk with hic | ⟨i, hi⟩ | hh
    · exact h.isCancelled t hic
    · exact .inl ⟨i, hc.call i t _ hi rfl⟩
    · exact .inr (hc.handle t _ hh rfl)
  rcases hs with ⟨i, hi⟩ | hh
  · exact .inl ⟨i, by rw [hc.takers_of_move m (by simp [hi]), hi]⟩
  · exact .inr (by rw [hc.takers_of_move m (by simp [hh]), hh])

/-- A `cancel()` call that has taken a task goes on to record it. -/
theorem midway_of_change {i : ℕ} {x : CancelCall} {c : CancelPc} (hc : CallChange s s' i x)
    (hi : s.cancels i = .run t c) (hm : c.midway = true) :
    (∃ c', x = .run t c' ∧ c'.midway = true) ∨ (s'.tasks t).isCancelled = true := by
  cases hc with
  | same => exact .inl ⟨c, hi, hm⟩
  | start hi' | startRejected hi' | running hi' | notRunning hi' => cases hi.symm.trans hi'
  | run hi' hcm ht =>
    cases hi.symm.trans hi'
    cases hcm with
    | dropRaw | dropPanicTx => exact .inl ⟨_, rfl, rfl⟩
    | store => exact .inr (by rw [ht])
    | upgrade | upgradeFailed | take | takeFailed => cases hm

theorem Handles.canceller_step {a : Act F} (h : s.Handles) (hc : s.Cells) (m : Move B s a s') {i : ℕ}
    (hk : (s'.tasks t).takers = [.canceller i]) :
    (s'.tasks t).isCancelled = true ∨ ∃ c, s'.cancels i = .run t c ∧ c.midway = true := by
  rcases hc.takers_cases (taskChange_of_move m t) with hsame | ⟨-, -, x, hx, htake⟩
  · rcases h.canceller t i (hsame ▸ hk) with hic | ⟨c, hi, hm⟩
    · exact .inl (isCancelled_of_change hc (taskChange_of_move m t) hic)
    · exact (midway_of_change (callChange_of_move m i) hi hm).symm
  · obtain rfl : x = .canceller i := by simpa [hx] using hk
    cases htake with
    | canceller _ hi' => exact .inr ⟨_, hi', rfl⟩

/-- A poll that has taken its task goes on to resolve. -/
theorem taker_of_change {k : Task F R} (hc : HandleChange s s' t k)
    (h : (∃ c, (s.tasks t).handle = .spawned (.cancel c) ∧ c.took = true) ∨
      (s.tasks t).handle = .resolved (.error .workerCancelled))
    (ht : t ≠ s.next) :
    (∃ c, k.handle = .spawned (.cancel c) ∧ c.took = true) ∨ k.handle = .resolved (.error .workerCancelled) := by
  rcases h with ⟨c, hh, htook⟩ | hh
  · rcases hc.of_cancel ht hh with he | ⟨c', g, hm, rfl⟩ | ⟨rfl, he⟩ | ⟨rfl, -⟩
    · exact .inl ⟨c, he, htook⟩
    · cases hm with
      | upgrade | upgradeFailed | take | takeFailed => cases htook
      | dropRaw | dropPanicTx | store => exact .inl ⟨_, rfl, rfl⟩
    · exact .inr he
    · cases htook
  · rcases hc.of_not_spawned ht (by rw [hh]; nofun) with he | hm
    · exact .inr (he.trans hh)
    · exact absurd hh (hm.not_resolved _)

theorem Handles.taker_step {a : Act F} (h : s.Handles) (hc : s.Cells) (m : Move B s a s')
    (hk : (s'.tasks t).takers = [.handle]) :
    (∃ c, (s'.tasks t).handle = .spawned (.cancel c) ∧ c.took = true) ∨
      (s'.tasks t).handle = .resolved (.error .workerCancelled) := by
  rcases hc.takers_cases (taskChange_of_move m t) with hsame | ⟨-, -, x, hx, htake⟩
  · rw [hsame] at hk
    refine taker_of_change (handleChange_of_change (taskChange_of_move m t)) (h.taker t hk) ?_
    rintro rfl
    simp [hc.fresh _ le_rfl, Task.absent] at hk
  · obtain rfl : x = .handle := by simpa [hx] using hk
    cases htake with
    | handle _ hh' => exact .inl ⟨_, hh', rfl⟩

/-- **Handles holds in every reachable state**: a step keeps it. -/
theorem Handles.step {a : Act F} (h : s.Handles) (hc : s.Cells) (hch : s.Channels) (he : s.Ending) (hst : s.Status)
    (hx : ∀ t, (s.tasks t).takers ≠ [.worker] → s.fate t = .unstarted) (m : Move B s a s') : s'.Handles where
  spawned _ := h.spawned_step m
  unspawned _ _ := h.unspawned_step m
  receiver _ _ := h.receiver_step hc m
  knows t _ := h.knows_step hc hch (hx t) m
  cancelling _ _ := h.cancelling_step hst m
  panicMsg _ := h.panicMsg_step m
  closed := h.closed_step m
  sendFailed _ _ := h.sendFailed_step he m
  refused _ _ := h.refused_step he hst m
  rejected _ _ := h.rejected_step m
  resolved _ _ := h.resolved_step hc hch he hst m
  isCancelled _ := h.isCancelled_step hc m
  canceller _ _ := h.canceller_step hc m
  taker _ := h.taker_step hc m

end Sys

end AsyncSequential
