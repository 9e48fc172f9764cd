import AsyncSequential.Lost

/-!
# After a panic

The worker sets the message, stores the flag, sends the payload and drops its
queue, one after the other, while others send, cancel and poll. From the flag on
nothing starts any more, and whatever still asks, on a queue that is still open or
already closed, hears of that one panic.
-/

namespace AsyncSequential

variable {S F R : Type*}

namespace Sys

variable {B : Bodies S F R PanicPayload} {v₀ : S} {s s' s₁ s₂ : Sys S F R} {t : ℕ}

/-! ### The record -/

/-- At most one panic is recorded. -/
theorem Inv.panics_le_one (h : Inv B v₀ s) : s.panics.length ≤ 1 := by
  cases hp : s.panics with
  | nil => exact Nat.zero_le _
  | cons q ps =>
    have hq := h.status.eq_of_mem (t := q.1) (p := q.2) (by rw [hp]; exact List.mem_cons_self)
    rw [hp] at hq
    rw [hq]
    exact le_rfl

/-- Once a panic is recorded nothing is in hand that may start. -/
theorem Inv.not_hasBody_of_panics (h : Inv B v₀ s) (hp : s.panics ≠ []) : ¬ s.HasBody t := by
  obtain ⟨⟨u, p⟩, hq⟩ := List.exists_mem_of_ne_nil _ hp
  have hst := (h.status.recorded u p hq).2.2
  rintro (⟨raw, hw⟩ | hb)
  · rw [hw] at hst
    rcases hst with hst | hst <;> cases hst
  · have hph := h.custody.closure t (PoolPc.task_of_unbegun hb)
    cases hw : s.worker <;> rw [hw] at hst hph <;> grind

/-- From a recorded panic on the status stays, and nothing starts. -/
theorem Inv.final_of_run {C : Sys S F R → Act F → Prop} (h : Inv B v₀ s₁) (hp : s₁.panics ≠ [])
    (hr : Run B C s₁ s₂) :
    s₂.status = s₁.status ∧ s₂.panics = s₁.panics ∧ s₂.started = s₁.started := by
  refine hr.invariant (P := fun u => u.status = s₁.status ∧ u.panics = s₁.panics ∧ u.started = s₁.started)
    ⟨rfl, rfl, rfl⟩ fun u v a hu hP _ hs => ?_
  obtain ⟨hst, hps, hstart⟩ := hP
  have hi := h.run hu
  have m := move_of_step hs
  have hne : u.panics ≠ [] := by rwa [hps]
  obtain ⟨hst', hps'⟩ := hi.status.final m hne
  refine ⟨hst'.trans hst, hps'.trans hps, ?_⟩
  rcases hi.custody.started_cases m with heq | ⟨w, hb, -⟩
  · exact heq.trans hstart
  · exact absurd hb (hi.not_hasBody_of_panics hne)

/-! ### Who comes later -/

/-- A task that was spawned after the panic was recorded; `closed` says that its spawner was closed. -/
structure Behind (closed : Prop) (t : ℕ) (s : Sys S F R) : Prop where
  /-- It exists, and has not started. -/
  lt : t < s.next
  started : t ∉ s.started
  /-- The panic is recorded. -/
  flag : s.flag = some .taskPanicked
  /-- No `cancel()` call on it gets past the flag. -/
  calls : ∀ i c, s.cancels i = .run t c → c = .done false
  /-- Nor does its handle cancel it. -/
  poll : ∀ c, (s.tasks t).handle ≠ .spawned (.cancel c)
  /-- It is refused because of the panic, or because its spawner was closed. -/
  unspawned : ∀ reason, (s.tasks t).handle = .unspawned reason →
    (∃ msg, reason = .prevTaskPanic msg) ∨ closed ∧ reason = .taskSenderUnavailable
  /-- And its handle reports that. -/
  resolved : ∀ res, (s.tasks t).handle = .resolved res →
    (∃ msg, res = .error (.prevTaskPanic msg)) ∨ closed ∧ res = .error .taskSpawnerUnavailable

variable {closed : Prop}

/-- A call on such a task returns false. -/
theorem Behind.calls_step {a : Act F} (h : s.Behind closed t) (m : Move B s a s') {i : ℕ} {c : CancelPc}
    (hi : s'.cancels i = .run t c) : c = .done false := by
  have hchange := callChange_of_move m i
  generalize s'.cancels i = x at hchange hi
  cases hchange with
  | same => exact h.calls i c hi
  | start => cases hi
  | startRejected | notRunning => cases hi; rfl
  | running _ hf => cases hf.symm.trans h.flag
  | run hi' hm =>
    cases hi
    cases h.calls i _ hi'
    cases hm

/-- Nobody takes such a task but the drop of the queue. -/
theorem Behind.takers (h : s.Behind closed t) (hi : Inv B v₀ s) {x : Taker} (hx : (s.tasks t).takers = [x])
    (hr : ∀ res, (s.tasks t).handle ≠ .resolved res) : x = .dropped := by
  cases x with
  | dropped => rfl
  | worker =>
    exact absurd (hi.ending.settled (hi.status.panicked.mp h.flag) t (by simp [taken, hx])) h.started
  | canceller i =>
    obtain ⟨c, hc, ht⟩ := hi.cells.canceller t i hx
    cases h.calls i c hc
    cases ht
  | handle =>
    rcases hi.handles.taker t hx with ⟨c, hc, -⟩ | hc
    · exact absurd hc (h.poll c)
    · exact absurd hc (hr _)

/-- How the handle of such a task resolves. -/
theorem Behind.resolved_of_resolves (h : s.Behind closed t) (hi : Inv B v₀ s) {res : Except TaskError R}
    (hres : s.Resolves t res) : ∃ msg, res = .error (.prevTaskPanic msg) := by
  cases hres with
  | ok hs => exact absurd (hi.started_of_fate (by rw [hi.channels.sent t _ hs]; nofun)) h.started
  | taskPanic hs => exact absurd (hi.started_of_fate (by rw [(hi.channels.panicSent t _ hs).1]; nofun)) h.started
  | taskCancelled hh hc =>
    have hr : ∀ res, (s.tasks t).handle ≠ .resolved res := fun res hr => nomatch hh.symm.trans hr
    rcases hi.handles.isCancelled t hc with ⟨i, hx⟩ | hx <;> cases h.takers hi hx hr
  | workerAborted _ hf | workerCancelled _ hf | runtimeShutdown _ hf => cases hf.symm.trans h.flag
  | prevTaskPanic => exact ⟨_, rfl⟩
  | taken hh => exact absurd hh (h.poll _)

theorem Behind.poll_step {a : Act F} (h : s.Behind closed t) (m : Move B s a s') (c : CancelPc) :
    (s'.tasks t).handle ≠ .spawned (.cancel c) := by
  intro hh
  rcases (handleChange_of_change (taskChange_of_move m t)).pollMove hh nofun nofun with hold | ⟨b, g, hm, he⟩
  · exact h.poll c hold
  · rw [he] at hh
    cases hm with
    | pendingCancel _ hf => cases hf.symm.trans h.flag
    | cancel hp _ => exact h.poll _ hp
    | panicRxReady | resultRxReady => cases (ofReady_eq_spawned.mp hh).2
    | _ => cases hh

theorem Behind.unspawned_step {a : Act F} (h : s.Behind closed t) (m : Move B s a s') {reason : WorkerSendError}
    (hh : (s'.tasks t).handle = .unspawned reason) :
    (∃ msg, reason = .prevTaskPanic msg) ∨ closed ∧ reason = .taskSenderUnavailable := by
  have hchange := handleChange_of_change (taskChange_of_move m t)
  generalize s'.tasks t = k at hchange hh
  cases hchange with
  | same he => exact h.unspawned reason (he ▸ hh)
  | accept he | reject he => exact absurd he h.lt.ne
  | pollStart => cases hh
  | poll hm => rcases hm.outcome with ⟨pc, hg⟩ | ⟨res, hg⟩ <;> cases hg.symm.trans hh
  | unspawned hu =>
    cases rejectMove_of_unspawned hu with
    | panicked | resolve => cases hh
    | panicMsg => cases hh; exact .inl ⟨_, rfl⟩
    | shutdown _ hf => cases hf.symm.trans h.flag
    | closed _ hf => rcases hf with hf | hf <;> cases hf.symm.trans h.flag

theorem Behind.resolved_step {a : Act F} (h : s.Behind closed t) (hi : Inv B v₀ s) (m : Move B s a s')
    {res : Except TaskError R} (hh : (s'.tasks t).handle = .resolved res) :
    (∃ msg, res = .error (.prevTaskPanic msg)) ∨ closed ∧ res = .error .taskSpawnerUnavailable := by
  have hchange := handleChange_of_change (taskChange_of_move m t)
  by_cases hk : (s'.tasks t).cancellable = true
  · rcases hi.handles.resolves_of_change hchange hh hk with ⟨hold, -⟩ | hres
    · exact h.resolved res hold
    · exact .inl (h.resolved_of_resolves hi hres)
  · generalize s'.tasks t = k at hchange hh hk
    cases hchange with
    | same he => exact h.resolved res (he ▸ hh)
    | accept he | reject he => exact absurd he h.lt.ne
    | pollStart => cases hh
    | poll hm =>
      obtain ⟨pc, hp⟩ := hm.spawned
      have hacc := hi.handles.unspawned t pc hp
      cases hm with
      | cancel => cases hh
      | _ => exact absurd hacc hk
    | unspawned hu =>
      cases rejectMove_of_unspawned hu with
      | panicked | panicMsg | shutdown | closed => cases hh
      | resolve hp =>
        cases hh
        rcases h.unspawned _ hp with ⟨msg, rfl⟩ | ⟨hcl, rfl⟩
        · exact .inl ⟨msg, rfl⟩
        · exact .inr ⟨hcl, rfl⟩

theorem Behind.step {a : Act F} (h : s.Behind closed t) (hi : Inv B v₀ s) (hs : Sys.step B s a = some s') :
    s'.Behind closed t := by
  have m := move_of_step hs
  obtain ⟨hst, -, hstart⟩ := hi.final_of_run (hi.status.panicked.mp h.flag) (.single (C := Runs.Any) trivial hs)
  exact {
    lt := h.lt.trans_le (next_le_of_move m)
    started := hstart ▸ h.started
    flag := (congrArg WorkerStatus.flag hst).trans h.flag
    calls := fun _ _ hc => h.calls_step m hc
    poll := h.poll_step m
    unspawned := fun _ hh => h.unspawned_step m hh
    resolved := fun _ hh => h.resolved_step hi m hh }

/-- A `cancel()` call is on a task that exists. -/
theorem lt_of_call (h : Reachable B v₀ s) {i : ℕ} (hc : s.cancels i = .flag t ∨ ∃ c, s.cancels i = .run t c) :
    t < s.next := by
  refine h.invariant (P := fun u => (u.cancels i = .flag t ∨ ∃ c, u.cancels i = .run t c) → t < u.next)
    (fun hc => ?_) (fun u v a hr hP _ hs hc => ?_) hc
  · rcases hc with hc | ⟨c, hc⟩ <;> cases hc
  · have m := move_of_step hs
    refine (?_ : t < u.next).trans_le (next_le_of_move m)
    cases m with
    | call m =>
      cases m with
      | @start j w c hj hc' =>
        by_cases hij : i = j
        · subst hij
          have hw : w = t := by
            simp only [Function.update_self] at hc
            rw [hc'] at hc
            split_ifs at hc <;> rcases hc with hc | ⟨c, hc⟩ <;> cases hc <;> rfl
          subst hw
          refine (inv_of_reachable hr).cells.lt_of_handle fun habs => ?_
          simp [Sys.step, cancelStart, habs] at hs
        · simp only [Function.update_of_ne hij] at hc
          exact hP hc
      | corrupted => exact hP hc
      | @running j w hj | @notRunning j w _ hj =>
        by_cases hij : i = j
        · subst hij
          simp only [Function.update_self] at hc
          rcases hc with hc | ⟨c, hc⟩ <;> cases hc
          exact hP (.inl hj)
        · simp only [Function.update_of_ne hij] at hc
          exact hP hc
      | @run j w c c' g hj =>
        by_cases hij : i = j
        · subst hij
          simp only [Function.update_self] at hc
          rcases hc with hc | ⟨c, hc⟩ <;> cases hc
          exact hP (.inr ⟨_, hj⟩)
        · simp only [Function.update_of_ne hij] at hc
          exact hP hc
    | worker m | runtime m | pool m | taskHandle m | spawn m | spawner m | handle m => cases m <;> exact hP hc

/-- What is spawned after the panic was recorded comes later. -/
theorem behind_of_spawn (h : Reachable B v₀ s) (hf : s.flag = some .taskPanicked) {via : Via} {raw : RawTask F}
    (hs : Sys.step B s (.spawn via raw) = some s') :
    s'.Behind (∃ i, via = .spawner i ∧ (s.cells (s.spawners i).cell).ctx = false) s.next := by
  have hi := inv_of_reachable h
  have hstart : s.next ∉ s.started := fun ht => by
    have hk := hi.takers_of_started ht
    rw [hi.cells.fresh _ le_rfl] at hk
    cases hk
  have hcalls : ∀ i c, s.cancels i ≠ .run s.next c := fun i c hc => (lt_of_call h (.inr ⟨c, hc⟩)).false
  have m := move_of_step hs
  cases m with
  | spawn m =>
    cases m with
    | accept ho hv =>
      refine ⟨Nat.lt_succ_self _, hstart, hf, fun i c hc => absurd hc (hcalls i c), ?_, ?_, ?_⟩ <;>
        simp only [addTask, Function.update_self] <;> nofun
    | reject ho hv =>
      refine ⟨Nat.lt_succ_self _, hstart, hf, fun i c hc => absurd hc (hcalls i c), ?_, ?_, ?_⟩ <;>
        simp only [addTask, Function.update_self] <;> nofun
    | @unavailable i _ ha hctx =>
      refine ⟨Nat.lt_succ_self _, hstart, hf, fun i c hc => absurd hc (hcalls i c), ?_, fun reason hh => ?_, ?_⟩
      · simp only [addTask, Function.update_self]
        nofun
      · simp only [addTask, Function.update_self] at hh
        cases hh
        exact .inr ⟨⟨i, rfl, hctx⟩, rfl⟩
      · simp only [addTask, Function.update_self]
        nofun
  | runtime m | call m | taskHandle m | spawner m | handle m => cases m

/-! ### The reports -/

/-- A handle that reports a panic reports the one that is recorded, which was its own body's. -/
theorem Inv.panics_of_taskPanic (h : Inv B v₀ s) {p : PanicPayload}
    (hh : (s.tasks t).handle = .resolved (.error (.taskPanic p))) : s.panics = [(t, p)] := by
  have hk : (s.tasks t).cancellable = true := by
    by_contra hk
    obtain ⟨reason, hr, -⟩ := h.handles.rejected t _ hh (Bool.eq_false_iff.mpr hk)
    cases reason <;> cases hr
  exact h.status.eq_of_mem (h.channels.panicSent t p (h.handles.resolved t _ hh hk)).2

/-- A handle that reports an earlier panic has the message of the one that is recorded. -/
theorem Inv.panics_of_prevTaskPanic (h : Inv B v₀ s) {msg : Option String}
    (hh : (s.tasks t).handle = .resolved (.error (.prevTaskPanic msg))) :
    ∃ u p, s.panics = [(u, p)] ∧ msg = p.msg := by
  obtain ⟨u, p, hp, hmsg⟩ : ∃ u p, (u, p) ∈ s.panics ∧ msg = p.msg := by
    by_cases hk : (s.tasks t).cancellable = true
    · exact (h.handles.resolved t _ hh hk).2
    · obtain ⟨reason, hr, href⟩ := h.handles.rejected t _ hh (Bool.eq_false_iff.mpr hk)
      cases reason with
      | prevTaskPanic msg' =>
        cases hr
        exact href
      | runtimeShutdown | taskSenderUnavailable => cases hr
  exact ⟨u, p, h.status.eq_of_mem hp, hmsg⟩

/-- So has a join. -/
theorem Inv.panics_of_anyTaskPanic (h : Inv B v₀ s) {op : Consume} {msg : Option String} {v : S}
    (hh : s.handle = .returned op (.error ⟨.anyTaskPanic msg v⟩)) : ∃ u p, s.panics = [(u, p)] ∧ msg = p.msg := by
  obtain ⟨out, -, hres⟩ := h.ending.returned _ _ hh
  cases out with
  | ok => cases op <;> cases hres
  | aborted => cases hres
  | err =>
    simp only [joined] at hres
    split at hres
    · rename_i hf
      obtain ⟨u, p, hp⟩ := h.status.exists_of_flag hf
      cases hres
      exact ⟨u, p, h.status.eq_of_mem hp, h.status.panicMsg_eq hp⟩
    all_goals cases hres

/-- **A recorded panic is final, and every report of it agrees.** At most one panic
is recorded. Once the flag says so the status stays, its message is there, and no
body starts. A handle that reports a panic reports that one, with its payload, and
the flag is set; every handle and every join that reports an earlier panic has its
message. What is spawned from then on reports it, or that its spawner was closed,
and cannot be cancelled. -/
theorem panic_is_final (h : Reachable B v₀ s₁) (hr : Run B Runs.Any s₁ s₂) :
    s₂.panics.length ≤ 1 ∧
    (s₁.flag = some .taskPanicked →
      s₁.status.taskPanicMsg.isSome ∧ s₂.status = s₁.status ∧ s₂.started = s₁.started) ∧
    (∀ t p, (s₂.tasks t).handle = .resolved (.error (.taskPanic p)) →
      s₂.hasPanicked = true ∧ s₂.panics = [(t, p)]) ∧
    (∀ t msg, (s₂.tasks t).handle = .resolved (.error (.prevTaskPanic msg)) →
      ∃ u p, s₂.panics = [(u, p)] ∧ s₂.fate u = .panicked p ∧ msg = p.msg) ∧
    (∀ op msg v, s₂.handle = .returned op (.error ⟨.anyTaskPanic msg v⟩) →
      ∃ u p, s₂.panics = [(u, p)] ∧ s₂.fate u = .panicked p ∧ msg = p.msg) ∧
    ∀ via raw s, s₁.flag = some .taskPanicked → Sys.step B s₁ (.spawn via raw) = some s → Run B Runs.Any s s₂ →
      (∀ res, (s₂.tasks s₁.next).handle = .resolved res → (∃ msg, res = .error (.prevTaskPanic msg)) ∨
        (∃ i, via = .spawner i ∧ (s₁.cells (s₁.spawners i).cell).ctx = false) ∧ res = .error .taskSpawnerUnavailable) ∧
      ∀ i did, s₂.cancels i = .run s₁.next (.done did) → did = false := by
  have hi := inv_of_reachable h
  have hi₂ := hi.run hr
  have hfate : ∀ {u p}, s₂.panics = [(u, p)] → s₂.fate u = .panicked p := fun hp =>
    hi₂.channels.recorded _ _ (by rw [hp]; exact List.mem_cons_self)
  refine ⟨hi₂.panics_le_one, fun hf => ?_, fun t p hh => ?_, fun t msg hh => ?_, fun op msg v hh => ?_,
    fun via raw s hf hs hrun => ?_⟩
  · obtain ⟨t, p, hp⟩ := hi.status.exists_of_flag hf
    obtain ⟨hst, -, hstart⟩ := hi.final_of_run (List.ne_nil_of_mem hp) hr
    exact ⟨by rw [(hi.status.recorded t p hp).2.1]; rfl, hst, hstart⟩
  · have hp := hi₂.panics_of_taskPanic hh
    have hf : s₂.flag = some .taskPanicked := hi₂.status.panicked.mpr (by rw [hp]; nofun)
    exact ⟨by rw [hasPanicked, hf]; rfl, hp⟩
  · obtain ⟨u, p, hp, hmsg⟩ := hi₂.panics_of_prevTaskPanic hh
    exact ⟨u, p, hp, hfate hp, hmsg⟩
  · obtain ⟨u, p, hp, hmsg⟩ := hi₂.panics_of_anyTaskPanic hh
    exact ⟨u, p, hp, hfate hp, hmsg⟩
  · have his := hi.step hs
    have hb := hrun.invariant
      (P := Behind (∃ i, via = .spawner i ∧ (s₁.cells (s₁.spawners i).cell).ctx = false) s₁.next)
      (behind_of_spawn h hf hs) fun u v a hu hP _ hv => hP.step (his.run hu) hv
    exact ⟨hb.resolved, fun i did hc => by cases hb.calls i _ hc; rfl⟩

/-- A worker that has recorded a panic, and not yet sent it. -/
def demoRecorded : Sys ℕ ℕ ℕ := (demoExec
  [(1, .spawn .worker (.async 1)), (1, .pollWorker), (9, .worker)]).get rfl

theorem demoRecorded_reachable : Reachable demo 0 demoRecorded := demo_reachable rfl

/-- Another task is accepted before the queue closes. -/
def demoSpawnedLate : Sys ℕ ℕ ℕ := (step demo demoRecorded (.spawn .worker (.async 0))).get rfl

/-- It is dropped with the queue, then its handle is polled, and `cancel()` is called on it. -/
def demoRefused : Sys ℕ ℕ ℕ := (Runs.exec (step demo)
  (.replicate 7 .worker ++ .poll 1 :: .replicate 5 (.pollStep 1 .left) ++ [.cancel 0 1, .cancelStep 0])
  demoSpawnedLate).get rfl

theorem demoRefused_run : Run demo Runs.Any demoSpawnedLate demoRefused := Runs.steps_of_exec (Option.some_get _).symm

theorem panic_is_final_demo : demoRecorded.flag = some .taskPanicked ∧
    (demoRefused.tasks 1).handle = .resolved (.error (.prevTaskPanic (some "ten"))) ∧
    (∃ u p, demoRefused.panics = [(u, p)] ∧ demoRefused.fate u = .panicked p ∧ some "ten" = p.msg) ∧
    ∀ i did, demoRefused.cancels i = .run 1 (.done did) → did = false :=
  have hstep : step demo demoRecorded (.spawn .worker (.async 0)) = some demoSpawnedLate := rfl
  have hfinal := panic_is_final demoRecorded_reachable ((Runs.Steps.single trivial hstep).trans demoRefused_run)
  ⟨rfl, rfl, hfinal.2.2.2.1 1 _ rfl, (hfinal.2.2.2.2.2 _ _ _ rfl hstep demoRefused_run).2⟩

end Sys

end AsyncSequential
