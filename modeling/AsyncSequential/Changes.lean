import AsyncSequential.Custody

/-!
# What a step can do to a task

The moves again, seen from one task, one body and one `cancel()` call:
`taskChange_of_move`, `fateChange_of_move` and `callChange_of_move` list what a
step can do to it, and who does it. A fact about single tasks is kept by every
step when it is kept by these changes.
-/

namespace AsyncSequential

variable {S F R : Type*}

namespace Sys

/-- The worker future is about to drop the message of `t`. -/
def DropsMessage (s : Sys S F R) (t : ℕ) : Prop :=
  (∃ todo out, s.worker = .dropping (.message t :: todo) out) ∨
    ∃ q todo out, s.worker = .dropping (.drain :: todo) out ∧ s.queue = t :: q

/-- Someone who owns the result sender of the task `t`, taken by the worker or
dropped with its cell, is about to drop it. -/
def DropsResult (s : Sys S F R) (t : ℕ) : Prop :=
  (∃ p, s.worker = .asyncUnwind t p) ∨ s.worker = .dropBodyTx t ∨
    (∃ todo out, s.worker = .dropping (.resultTx t :: todo) out) ∨
    (∃ p, s.pool = .unwind t p) ∨ s.pool = .dropRaw t ∨ ∃ f, s.pool = .queued t f ∧ s.down = true

/-- The worker or its closure moves. -/
def Advances (s s' : Sys S F R) : Prop := s'.worker ≠ s.worker ∨ s'.pool ≠ s.pool

/-- What a step from `s` to `s'` can make of task `t`. -/
inductive TaskChange (s s' : Sys S F R) (t : ℕ) : Task F R → Prop
  | same : TaskChange s s' t (s.tasks t)
  | accept {raw : RawTask F} (ht : t = s.next) (hn : s'.next = s.next + 1) (hb : s'.body t = some raw.body) :
      TaskChange s s' t (.accepted raw)
  | reject {h : TaskHandle R} (ht : t = s.next) (hn : s'.next = s.next + 1)
      (hh : (∃ via, h = .sendFailed via ∧ s.rxOpen = false ∧ s.CanSend via) ∨
        h = .unspawned .taskSenderUnavailable) :
      TaskChange s s' t (.rejected h)
  | take {raw : RawTask F} (hw : s.worker = .checked t) (hk : (s.tasks t).repr.take.1 = some raw)
      (hw' : s'.worker = .took t raw) :
      TaskChange s s' t (((s.tasks t).takenBy .worker).release .message)
  | skip (hw : s.worker = .checked t) (hk : (s.tasks t).repr.take.1 = none) :
      TaskChange s s' t ((s.tasks t).takeFailed.release .message)
  | sendResult {r : R} (hw : s.worker = .asyncSend t r ∨ s.pool = .send t r) (hs : s.Advances s') :
      TaskChange s s' t ((s.tasks t).sendResult r)
  | closeResult (hw : s.DropsResult t) (hs : s.Advances s') : TaskChange s s' t (s.tasks t).closeResult
  | closePanic (hw : s.worker = .result t (.ok ()) ∨ ∃ todo out, s.worker = .dropping (.panicTx t :: todo) out)
      (hs : s.Advances s') : TaskChange s s' t (s.tasks t).closePanic
  | sendPanic {p : PanicPayload} (hw : s.worker = .sendPanic t p) (hs : s.Advances s') :
      TaskChange s s' t ((s.tasks t).sendPanic p)
  | release (hw : s.DropsMessage t)
      (ho : ¬ ((s.tasks t).owners.erase .message = ∅ ∧ (s.tasks t).repr.Full)) :
      TaskChange s s' t ((s.tasks t).release .message)
  | dealloc (hw : s.DropsMessage t) (hk : (s.tasks t).repr.Full) :
      TaskChange s s' t ((s.tasks t).release .message).dealloc
  | call {i : ℕ} {c c' : CancelPc} {g : Task F R → Task F R} (hi : s.cancels i = .run t c)
      (hi' : s'.cancels i = .run t c') (hm : CancelMove s t (.canceller i) (.canceller i) c g c') :
      TaskChange s s' t (g (s.tasks t))
  | pollStart (hh : (s.tasks t).handle = .spawned .fresh ∨ (s.tasks t).handle = .spawned .pending) :
      TaskChange s s' t
        { s.tasks t with receiver := (s.tasks t).receiver.renew, handle := .spawned .panicRx }
  | poll {b : Budget} {g : Task F R → Task F R} (hm : PollMove s t b g) : TaskChange s s' t (g (s.tasks t))
  | unspawned {h : TaskHandle R}
      (hh : (∃ via, (s.tasks t).handle = .sendFailed via ∧ s.flag = some .taskPanicked ∧ h = .sendFailedMsg via) ∨
        (∃ via, (s.tasks t).handle = .sendFailedMsg via ∧ h = .unspawned (.prevTaskPanic s.status.panicMsg)) ∨
        (∃ via, (s.tasks t).handle = .sendFailed via ∧ s.flag = some .runningOrRuntimeShutdown ∧
          h = .unspawned .runtimeShutdown) ∨
        (∃ i, (s.tasks t).handle = .sendFailed (.spawner i) ∧
          (s.flag = some .abortStarted ∨ s.flag = some .cancelStarted) ∧ h = .unspawned .taskSenderUnavailable) ∨
        ∃ reason, (s.tasks t).handle = .unspawned reason ∧ h = .resolved (.error reason.toTaskError)) :
      TaskChange s s' t ((s.tasks t).setHandle h)

variable {B : Bodies S F R PanicPayload} {s s' : Sys S F R}

/-- How the handle of a task that the queue rejected moves on: what it was, what it
found, and what it becomes. -/
inductive RejectMove (s : Sys S F R) (t : ℕ) : TaskHandle R → Prop
  | panicked {via : Via} (hh : (s.tasks t).handle = .sendFailed via) (hf : s.flag = some .taskPanicked) :
      RejectMove s t (.sendFailedMsg via)
  | panicMsg {via : Via} (hh : (s.tasks t).handle = .sendFailedMsg via) :
      RejectMove s t (.unspawned (.prevTaskPanic s.status.panicMsg))
  | shutdown {via : Via} (hh : (s.tasks t).handle = .sendFailed via)
      (hf : s.flag = some .runningOrRuntimeShutdown) : RejectMove s t (.unspawned .runtimeShutdown)
  | closed {i : ℕ} (hh : (s.tasks t).handle = .sendFailed (.spawner i))
      (hf : s.flag = some .abortStarted ∨ s.flag = some .cancelStarted) :
      RejectMove s t (.unspawned .taskSenderUnavailable)
  | resolve {reason : WorkerSendError} (hh : (s.tasks t).handle = .unspawned reason) :
      RejectMove s t (.resolved (.error reason.toTaskError))

/-- The cases of `TaskChange.unspawned`, by name. -/
theorem rejectMove_of_unspawned {t : ℕ} {h : TaskHandle R}
    (hh : (∃ via, (s.tasks t).handle = .sendFailed via ∧ s.flag = some .taskPanicked ∧ h = .sendFailedMsg via) ∨
      (∃ via, (s.tasks t).handle = .sendFailedMsg via ∧ h = .unspawned (.prevTaskPanic s.status.panicMsg)) ∨
      (∃ via, (s.tasks t).handle = .sendFailed via ∧ s.flag = some .runningOrRuntimeShutdown ∧
        h = .unspawned .runtimeShutdown) ∨
      (∃ i, (s.tasks t).handle = .sendFailed (.spawner i) ∧
        (s.flag = some .abortStarted ∨ s.flag = some .cancelStarted) ∧ h = .unspawned .taskSenderUnavailable) ∨
      ∃ reason, (s.tasks t).handle = .unspawned reason ∧ h = .resolved (.error reason.toTaskError)) :
    RejectMove s t h := by
  rcases hh with ⟨via, hh, hf, rfl⟩ | ⟨via, hh, rfl⟩ | ⟨via, hh, hf, rfl⟩ | ⟨i, hh, hf, rfl⟩ | ⟨reason, hh, rfl⟩
  · exact .panicked hh hf
  · exact .panicMsg hh
  · exact .shutdown hh hf
  · exact .closed hh hf
  · exact .resolve hh

/-- The handle of a rejected task polls no channels, and has not resolved before. -/
theorem RejectMove.not_spawned {t : ℕ} {h : TaskHandle R} (m : RejectMove s t h) (pc : PollPc) :
    (s.tasks t).handle ≠ .spawned pc := by
  cases m with
  | panicked hh | panicMsg hh | shutdown hh | closed hh | resolve hh => rw [hh]; nofun

theorem RejectMove.not_resolved {t : ℕ} {h : TaskHandle R} (m : RejectMove s t h) (res : Except TaskError R) :
    (s.tasks t).handle ≠ .resolved res := by
  cases m with
  | panicked hh | panicMsg hh | shutdown hh | closed hh | resolve hh => rw [hh]; nofun

/-- What the receiver resolved to leaves the handle in its poll when both channels are closed. -/
theorem ofReady_eq_spawned {o : TaskResult R} {pc : PollPc} :
    ofReady o = .spawned pc ↔ o = .error none ∧ pc = .isCancelled := by
  rcases o with (_ | p) | r <;> simp [ofReady, eq_comm]

theorem ofReady_cases (o : TaskResult R) : ofReady o = .spawned .isCancelled ∨ ∃ res, ofReady o = .resolved res := by
  rcases o with (_ | p) | r
  · exact .inl rfl
  · exact .inr ⟨_, rfl⟩
  · exact .inr ⟨_, rfl⟩

/-- A poll that goes on is one of the channels. -/
theorem PollMove.spawned {t : ℕ} {b : Budget} {g : Task F R → Task F R} (hm : PollMove s t b g) :
    ∃ pc, (s.tasks t).handle = .spawned pc := by
  cases hm with
  | cancel hh hm => exact ⟨_, hh⟩
  | panicRx hh | panicRxReady hh | resultRx hh | resultRxReady hh | isCancelled hh | notCancelled hh
  | aborted hh | cancelled hh | panicked hh | shutdown hh | panicMsg hh | pendingCancel hh | pending hh
  | cancelDone hh | cancelFailed hh => exact ⟨_, hh⟩

/-- It goes on polling, or resolves. -/
theorem PollMove.outcome {t : ℕ} {b : Budget} {g : Task F R → Task F R} (hm : PollMove s t b g) :
    (∃ pc, (g (s.tasks t)).handle = .spawned pc) ∨ ∃ res, (g (s.tasks t)).handle = .resolved res := by
  cases hm with
  | @panicRxReady x o | @resultRxReady x o => exact (ofReady_cases o).imp_left fun ho => ⟨_, ho⟩
  | isCancelled | aborted | cancelled | shutdown | panicMsg | cancelDone => exact .inr ⟨_, rfl⟩
  | panicRx | resultRx | notCancelled | panicked | pendingCancel | pending | cancelFailed | cancel => exact .inl ⟨_, rfl⟩

/-- A change of one task is no change of the others. -/
theorem taskChange_of_update {t u : ℕ} {k : Task F R} (h : TaskChange s s' t k) :
    TaskChange s s' u (Function.update s.tasks t k u) := by
  rw [Function.update_apply]
  split_ifs with hu
  · subst hu; exact h
  · exact .same

theorem taskChange_of_workerMove (m : WorkerMove B s s') (u : ℕ) : TaskChange s s' u (s'.tasks u) := by
  cases m with
  | take hw hk => exact taskChange_of_update (.take hw hk rfl)
  | skip hw hk => exact taskChange_of_update (.skip hw hk)
  | asyncSend hw => exact taskChange_of_update (.sendResult (.inl hw) (.inl (by simp [hw])))
  | asyncUnwind hw => exact taskChange_of_update (.closeResult (.inl ⟨_, hw⟩) (.inl (by simp [hw])))
  | succeeded hw => exact taskChange_of_update (.closePanic (.inl hw) (.inl (by simp [hw])))
  | sendPanic hw => exact taskChange_of_update (.sendPanic hw (.inl (by simp [hw])))
  | dropBodyTx hw => exact taskChange_of_update (.closeResult (.inr (.inl hw)) (.inl (by simp [hw])))
  | lastMessage hw _ hk => exact taskChange_of_update (.dealloc (.inl ⟨_, _, hw⟩) hk)
  | message hw ho => exact taskChange_of_update (.release (.inl ⟨_, _, hw⟩) ho)
  | resultTx hw => exact taskChange_of_update (.closeResult (.inr (.inr (.inl ⟨_, _, hw⟩))) (.inl (by simp [hw])))
  | panicTx hw => exact taskChange_of_update (.closePanic (.inr ⟨_, _, hw⟩) (.inl (by simp [hw])))
  | drainLast hw hq _ hk => exact taskChange_of_update (.dealloc (.inr ⟨_, _, _, hw, hq⟩) hk)
  | drain hw hq ho => exact taskChange_of_update (.release (.inr ⟨_, _, _, hw, hq⟩) ho)
  | _ => exact .same

theorem taskChange_of_poolMove (m : PoolMove B s s') (u : ℕ) : TaskChange s s' u (s'.tasks u) := by
  cases m with
  | send hp => exact taskChange_of_update (.sendResult (.inr hp) (.inr (by simp [hp])))
  | unwind hp => exact taskChange_of_update (.closeResult (.inr (.inr (.inr (.inl ⟨_, hp⟩)))) (.inr (by simp [hp])))
  | dropRaw hp => exact taskChange_of_update (.closeResult (.inr (.inr (.inr (.inr (.inl hp))))) (.inr (by simp [hp])))
  | _ => exact .same

theorem taskChange_of_runtimeMove {a : Act F} (m : RuntimeMove s a s') (u : ℕ) :
    TaskChange s s' u (s'.tasks u) := by
  cases m with
  | dropQueued hd hp =>
    exact taskChange_of_update
      (.closeResult (.inr (.inr (.inr (.inr (.inr ⟨_, hp, hd⟩))))) (.inr (by simp [hp])))
  | _ => exact .same

theorem taskChange_of_callMove {a : Act F} (m : CallMove s a s') (u : ℕ) : TaskChange s s' u (s'.tasks u) := by
  cases m with
  | run hi hm => exact taskChange_of_update (.call hi (Function.update_self ..) hm)
  | _ => exact .same

theorem taskChange_of_taskHandleMove {a : Act F} (m : TaskHandleMove s a s') (u : ℕ) :
    TaskChange s s' u (s'.tasks u) := by
  cases m with
  | start hh => exact taskChange_of_update (.pollStart hh)
  | unspawned hh => exact taskChange_of_update (.unspawned (.inr (.inr (.inr (.inr ⟨_, hh, rfl⟩)))))
  | step hm => exact taskChange_of_update (.poll hm)
  | _ => exact .same

theorem taskChange_of_spawnMove {a : Act F} (m : SpawnMove s a s') (u : ℕ) : TaskChange s s' u (s'.tasks u) := by
  cases m with
  | accept _ _ => exact taskChange_of_update (.accept rfl rfl (Function.update_self ..))
  | reject ho hv => exact taskChange_of_update (.reject rfl rfl (.inl ⟨_, rfl, ho, hv⟩))
  | unavailable _ _ => exact taskChange_of_update (.reject rfl rfl (.inr rfl))
  | panicked hh hf => exact taskChange_of_update (.unspawned (.inl ⟨_, hh, hf, rfl⟩))
  | panicMsg hh => exact taskChange_of_update (.unspawned (.inr (.inl ⟨_, hh, rfl⟩)))
  | shutdown hh hf => exact taskChange_of_update (.unspawned (.inr (.inr (.inl ⟨_, hh, hf, rfl⟩))))
  | closed hh hf => exact taskChange_of_update (.unspawned (.inr (.inr (.inr (.inl ⟨_, hh, hf, rfl⟩)))))
  | corrupted | unreachable => exact .same

/-- **What a step can do to a task.** -/
theorem taskChange_of_move {a : Act F} (m : Move B s a s') (u : ℕ) : TaskChange s s' u (s'.tasks u) := by
  cases m with
  | worker m => exact taskChange_of_workerMove m u
  | runtime m => exact taskChange_of_runtimeMove m u
  | pool m => exact taskChange_of_poolMove m u
  | call m => exact taskChange_of_callMove m u
  | taskHandle m => exact taskChange_of_taskHandleMove m u
  | spawn m => exact taskChange_of_spawnMove m u
  | spawner m => cases m <;> exact .same
  | handle m => cases m <;> exact .same

/-- What a step from `s` to `s'` can make of the fate of task `t`'s body. -/
inductive FateChange (s s' : Sys S F R) (t : ℕ) : Fate R PanicPayload → Prop
  | same : FateChange s s' t (s.fate t)
  | start {f : F} (h : s.worker = .took t (.async f) ∧ s'.worker = .asyncBody t f false ∨
      s.pool = .locked t f ∧ s'.pool = .running t f) : FateChange s s' t .running
  | pending {f f' : F} (h : s.worker = .asyncBody t f false ∧ s'.worker = .asyncBody t f' true ∨
      s.pool = .running t f ∧ s'.pool = .running t f') : FateChange s s' t .running
  | ready {f : F} {r : R} (h : s.worker = .asyncBody t f false ∧ s'.worker = .asyncSend t r ∨
      s.pool = .running t f ∧ s'.pool = .send t r) : FateChange s s' t (.completed r)
  | panicked {f : F} {p : PanicPayload} (h : s.worker = .asyncBody t f false ∧ s'.worker = .asyncUnwind t p ∨
      s.pool = .running t f ∧ s'.pool = .unwind t p) : FateChange s s' t (.panicked p)
  | dropped {f : F} (h : s.worker = .dropBody t f) (h' : s'.worker = .dropBodyTx t) :
      FateChange s s' t .dropped

/-- A change of one body's fate is no change of the others'. -/
theorem fateChange_of_update {t u : ℕ} {x : Fate R PanicPayload} (h : FateChange s s' t x) :
    FateChange s s' u (Function.update s.fate t x u) := by
  rw [Function.update_apply]
  split_ifs with hu
  · subst hu; exact h
  · exact .same

/-- **What a step can do to a body's fate.** -/
theorem fateChange_of_move {a : Act F} (m : Move B s a s') (u : ℕ) : FateChange s s' u (s'.fate u) := by
  cases m with
  | worker m =>
    cases m with
    | startAsync hw _ _ => exact fateChange_of_update (.start (.inl ⟨hw, rfl⟩))
    | asyncPending hw _ _ => exact fateChange_of_update (.pending (.inl ⟨hw, rfl⟩))
    | asyncReady hw _ _ => exact fateChange_of_update (.ready (.inl ⟨hw, rfl⟩))
    | asyncPanicked hw _ _ => exact fateChange_of_update (.panicked (.inl ⟨hw, rfl⟩))
    | dropBody hw => exact fateChange_of_update (.dropped hw rfl)
    | _ => exact .same
  | pool m =>
    cases m with
    | start hp _ => exact fateChange_of_update (.start (.inr ⟨hp, rfl⟩))
    | pending hp _ _ => exact fateChange_of_update (.pending (.inr ⟨hp, rfl⟩))
    | ready hp _ _ => exact fateChange_of_update (.ready (.inr ⟨hp, rfl⟩))
    | panicked hp _ _ => exact fateChange_of_update (.panicked (.inr ⟨hp, rfl⟩))
    | _ => exact .same
  | runtime m | call m | taskHandle m | spawn m | spawner m | handle m => cases m <;> exact .same

/-- What a step from `s` to `s'` can make of `cancel()` call `i`. -/
inductive CallChange (s s' : Sys S F R) (i : ℕ) : CancelCall → Prop
  | same : CallChange s s' i (s.cancels i)
  | start {t : ℕ} (hi : s.cancels i = .absent) (hc : (s.tasks t).cancellable = true) :
      CallChange s s' i (.flag t)
  | startRejected {t : ℕ} (hi : s.cancels i = .absent) (hc : (s.tasks t).cancellable = false) :
      CallChange s s' i (.run t (.done false))
  | running {t : ℕ} (hi : s.cancels i = .flag t) (hf : s.flag = some .runningOrRuntimeShutdown) :
      CallChange s s' i (.run t .upgrade)
  | notRunning {t : ℕ} {fl : WorkerFlagSnapshot} (hi : s.cancels i = .flag t) (hf : s.flag = some fl)
      (hfl : fl ≠ .runningOrRuntimeShutdown) : CallChange s s' i (.run t (.done false))
  | run {t : ℕ} {c c' : CancelPc} {g : Task F R → Task F R} (hi : s.cancels i = .run t c)
      (hm : CancelMove s t (.canceller i) (.canceller i) c g c') (ht : s'.tasks t = g (s.tasks t)) :
      CallChange s s' i (.run t c')

theorem callChange_of_callMove {a : Act F} (m : CallMove s a s') (i : ℕ) : CallChange s s' i (s'.cancels i) := by
  cases m with
  | corrupted _ _ => exact .same
  | @start j t c hj hc =>
    simp only [Function.update_apply]
    split_ifs with hi
    · subst hi hc
      split_ifs with hc
      · exact .start hj hc
      · exact .startRejected hj (Bool.eq_false_iff.mpr hc)
    · exact .same
  | @running j t hj hf =>
    simp only [Function.update_apply]
    split_ifs with hi
    · subst hi; exact .running hj hf
    · exact .same
  | @notRunning j t fl hj hf hfl =>
    simp only [Function.update_apply]
    split_ifs with hi
    · subst hi; exact .notRunning hj hf hfl
    · exact .same
  | @run j t c c' g hj hm =>
    simp only [Function.update_apply]
    split_ifs with hi
    · subst hi; exact .run hj hm (Function.update_self ..)
    · exact .same

/-- **What a step can do to a `cancel()` call.** -/
theorem callChange_of_move {a : Act F} (m : Move B s a s') (i : ℕ) : CallChange s s' i (s'.cancels i) := by
  cases m with
  | call m => exact callChange_of_callMove m i
  | worker m | runtime m | pool m | taskHandle m | spawn m | spawner m | handle m => cases m <;> exact .same

end Sys

end AsyncSequential
