import AsyncSequential.Panic
import AsyncSequential.Rest

/-!
# What is reported

A join returns the state or a `PoisonError`, a task handle a result or a
`TaskError`. `join_outcome` says for all three joins, whatever has happened, which
of the two it is, which error, and what is in it; `error_tells_cause` says the
same of the errors of handles and of what can be asked of them: `is_panic` and
`is_cancelled`, the payload of the panic, and the text.
-/

namespace AsyncSequential

variable {S F R : Type*}

namespace Sys

variable {B : Bodies S F R PanicPayload} {v₀ : S} {s s' : Sys S F R} {t : ℕ} {op : Consume} {res : JoinResult S}

/-! ### Joins -/

/-- The operation waits for the worker, or has waited for it. -/
def AwaitsWorker (s : Sys S F R) (op : Consume) : Prop :=
  s.handle.op? = some op ∧ (s.handle.pastWorker = true ∨ s.handle = .awaitWorker op)

/-- Only a join waits for the worker. -/
theorem joins_of_awaitsWorker (h : Reachable B v₀ s) (hw : s.AwaitsWorker op) : op.joins = true := by
  refine h.invariant (P := fun u => ∀ op, u.AwaitsWorker op → op.joins = true) (fun op hw => ?_)
    (fun u v a _ hP _ hs op hw => ?_) op hw
  · cases hw.1
  · have m := move_of_step hs
    cases m with
    | handle m =>
      cases m with
      | consume _ _ hp =>
        rcases hp with ⟨-, rfl⟩ | ⟨-, rfl⟩ | ⟨-, -, rfl⟩ <;> rcases hw with ⟨-, hw | hw⟩ <;> cases hw
      | @dropTx op' hh =>
        obtain ⟨ho, hw⟩ := hw
        cases op' <;> cases ho <;> first | rfl | (rcases hw with hw | hw <;> cases hw)
      | dropCtx hh => 
        obtain ⟨ho, hw⟩ := hw
        simp only at ho hw
        split_ifs at hw <;> rcases hw with hw | hw <;> cases hw
      | workerEnded hh => exact hP op ⟨by rw [hh]; exact hw.1, .inr (by rw [hh]; cases hw.1; rfl)⟩
      | lockState hh | takeState hh | unlockState hh | decideOk hh | decideAborted hh | decidePanicked hh
      | decideShutdown hh | readPanicMsg hh => exact hP op ⟨by rw [hh]; exact hw.1, .inl (by rw [hh]; rfl)⟩
      | corrupted | stateMissing => exact hP op hw
      | _ => rcases hw with ⟨-, hw | hw⟩ <;> cases hw
    | worker m | runtime m | pool m | call m | taskHandle m | spawn m | spawner m => cases m <;> exact hP op hw

/-- What the worker's outcome makes of a join's result: `ok` of a worker that ended well,
but for `abort_and_join`; otherwise an error that says what the status says. -/
theorem Inv.returned_cases (h : Inv B v₀ s) (hh : s.handle = .returned op res) :
    (s.worker = .ended .ok ∧ s.panics = [] ∧
        res = if op = .abortAndJoin then .error ⟨.workerAborted res.state⟩ else .ok res.state) ∨
      (s.worker = .ended .aborted ∧ s.panics = [] ∧ res = .error ⟨.runtimeShutdown res.state⟩) ∨
      s.worker = .ended .err ∧
        ((∃ t p, s.panics = [(t, p)] ∧ res = .error ⟨.anyTaskPanic p.msg res.state⟩) ∨
          s.panics = [] ∧ s.down = true ∧
            res = .error (if s.flag = some .abortStarted then ⟨.workerAborted res.state⟩
              else ⟨.runtimeShutdown res.state⟩)) := by
  obtain ⟨out, hw, hres⟩ := h.ending.returned op res hh
  have hcalm : out ≠ .err → s.panics = [] := fun ho => by
    by_contra hp
    exact h.flag_ne_of_ended hw ho (h.status.panicked.mpr hp)
  cases out with
  | ok =>
    refine .inl ⟨hw, hcalm nofun, hres.trans ?_⟩
    cases op <;> rfl
  | aborted => exact .inr (.inl ⟨hw, hcalm nofun, hres⟩)
  | err =>
    refine .inr (.inr ⟨hw, ?_⟩)
    by_cases hf : s.flag = some .taskPanicked
    · obtain ⟨t, p, hp⟩ := h.status.exists_of_flag hf
      refine .inl ⟨t, p, h.status.eq_of_mem hp, hres.trans ?_⟩
      simp only [joined, hf, h.status.panicMsg_eq hp]
      rfl
    · have hdown := (h.panicked_of_ended hw).resolve_left fun hp => hf hp.1
      have hp : s.panics = [] := not_not.mp fun hp => hf (h.status.panicked.mpr hp)
      refine .inr ⟨hp, hdown, hres.trans ?_⟩
      simp only [joined]
      split
      · exact absurd ‹_› hf
      · rw [if_pos ‹_›]
        rfl
      · rw [if_neg ‹_›]
        rfl

/-- An operation that aborts and waits is `abort_and_join`. -/
theorem eq_abortAndJoin (hj : op.joins = true) (ha : op.aborts = true) : op = .abortAndJoin := by
  cases op with
  | abortAndJoin => rfl
  | abort | cancel | drop => cases hj
  | join | cancelAndJoin => cases ha

/-- The three kinds of an error of a join, with what each of them means. -/
theorem error_cases (h : Reachable B v₀ s) {e : PoisonError S} (hh : s.handle = .returned op (.error e)) :
    (∃ t p v, s.panics = [(t, p)] ∧ e = ⟨.anyTaskPanic p.msg v⟩) ∨
      (s.panics = [] ∧ (op = .abortAndJoin ∧ s.worker ≠ .ended .aborted) ∧ ∃ v, e = ⟨.workerAborted v⟩) ∨
      (s.panics = [] ∧ (s.down = true ∨ op = .abortAndJoin ∧ s.worker = .ended .aborted) ∧
        ∃ v, e = ⟨.runtimeShutdown v⟩) := by
  have hi := inv_of_reachable h
  have hop : s.handle.op? = some op := by rw [hh]; rfl
  have hj : op.joins = true := joins_of_awaitsWorker h ⟨hop, .inl (by rw [hh]; rfl)⟩
  rcases hi.returned_cases hh with ⟨hw, hp, he⟩ | ⟨hw, hp, he⟩ | ⟨hw, ⟨t, p, hp, he⟩ | ⟨hp, hd, he⟩⟩
  · split_ifs at he with ho
    exact .inr (.inl ⟨hp, ⟨ho, by rw [hw]; nofun⟩, _, Except.error.inj he⟩)
  · have hcause := (hi.aborts_of_ended hw hop).symm.imp_right fun ha => And.intro (eq_abortAndJoin hj ha) hw
    exact .inr (.inr ⟨hp, hcause, _, Except.error.inj he⟩)
  · exact .inl ⟨t, p, _, hp, Except.error.inj he⟩
  · split_ifs at he with hf
    · obtain ⟨op', hop', ha⟩ := hi.status.aborts hf
      cases hop.symm.trans hop'
      exact .inr (.inl ⟨hp, ⟨eq_abortAndJoin hj ha, by rw [hw]; nofun⟩, _, Except.error.inj he⟩)
    · exact .inr (.inr ⟨hp, .inl hd, _, Except.error.inj he⟩)

/-- **What a join returns.** Whatever has happened, a join that has returned hands over the
state as the bodies that have started have left it, in order, also inside an error.
It returns `Ok` exactly when the worker ended well and the join was no
`abort_and_join`. An error is of one kind: of a task's panic exactly when one is
recorded, and then the task that panicked is the last that started and the text has
the message of its panic; of an abort only from `abort_and_join`; of a shutdown only
after a shutdown, or when the worker future was dropped by `abort_and_join`. -/
theorem join_outcome (h : Reachable B v₀ s) (hh : s.handle = .returned op res) :
    res.state = B.replay (s.log.trace s.started) v₀ ∧
    ((∃ v, res = .ok v) ↔ op ≠ .abortAndJoin ∧ s.worker = .ended .ok) ∧
    ∀ e, res = .error e →
      e.intoInner = B.replay (s.log.trace s.started) v₀ ∧
      [e.isTaskPanic, e.isWorkerAborted, e.isRuntimeShutdown].count true = 1 ∧
      (e.isTaskPanic = true ↔ s.panics ≠ []) ∧
      (∀ t p, (t, p) ∈ s.panics → e.display = withPanicMsg "a task executed by the worker panicked" p.msg ∧
        s.fate t = .panicked p ∧ ∃ ts, s.started = ts ++ [t] ∧ ∀ u ∈ ts, ∃ r, s.fate u = .completed r) ∧
      (e.isWorkerAborted = true → op = .abortAndJoin ∧ s.worker ≠ .ended .aborted) ∧
      (e.isRuntimeShutdown = true → s.down = true ∨ op = .abortAndJoin ∧ s.worker = .ended .aborted) := by
  have hi := inv_of_reachable h
  have hstate := hi.state_of_returned hh
  refine ⟨hstate, ?_, ?_⟩
  · rcases hi.returned_cases hh with ⟨hw, -, he⟩ | ⟨hw, -, he⟩ | ⟨hw, ⟨t, p, -, he⟩ | ⟨-, -, he⟩⟩
    · rw [he]
      split_ifs with ho
      · exact iff_of_false nofun fun hn => hn.1 ho
      · exact iff_of_true ⟨_, rfl⟩ ⟨ho, hw⟩
    all_goals
      rw [he, hw]
      exact iff_of_false nofun fun hn => nomatch hn.2
  · rintro e rfl
    have hlast : ∀ t p, (t, p) ∈ s.panics →
        s.fate t = .panicked p ∧ ∃ ts, s.started = ts ++ [t] ∧ ∀ u ∈ ts, ∃ r, s.fate u = .completed r := by
      intro t p hp
      obtain ⟨ts, hts⟩ := hi.last_of_panicked hp
      obtain ⟨v, -, hseq⟩ := hi.replay.sequential
      exact ⟨hi.channels.recorded t p hp, ts, hts, fun u hu => hseq.before ts t hts u hu⟩
    refine ⟨hstate, ?_⟩
    rcases error_cases h hh with ⟨t, p, v, hp, rfl⟩ | ⟨hp, ho, v, rfl⟩ | ⟨hp, ho, v, rfl⟩
    · refine ⟨rfl, iff_of_true rfl (by simp [hp]), fun u q hq => ⟨?_, hlast u q hq⟩, nofun, nofun⟩
      rw [hp, List.mem_singleton, Prod.mk.injEq] at hq
      rw [hq.2]
      rfl
    · exact ⟨rfl, iff_of_false nofun (by simp [hp]), fun u q hq => by simp [hp] at hq, fun _ => ho, nofun⟩
    · exact ⟨rfl, iff_of_false nofun (by simp [hp]), fun u q hq => by simp [hp] at hq, nofun, fun _ => ho⟩

/-- A body panics in the poll that an abort did not interrupt. -/
def demoLateAbort : Sys ℕ ℕ ℕ := (demoExec
  [(1, .spawn .worker (.async 0)), (1, .spawn .worker (.async 1)), (1, .pollWorker), (12, .worker),
    (1, .consume .abortAndJoin), (6, .handle), (9, .worker), (6, .handle)]).get rfl

theorem demoLateAbort_reachable : Reachable demo 0 demoLateAbort := demo_reachable rfl

theorem join_outcome_demo :
    demoLateAbort.handle = .returned .abortAndJoin (.error ⟨.anyTaskPanic (some "ten") 11⟩) ∧
    (∃ ts, demoLateAbort.started = ts ++ [1] ∧ ∀ u ∈ ts, ∃ r, demoLateAbort.fate u = .completed r) ∧
    demo.replay (demoLateAbort.log.trace demoLateAbort.started) 0 = 11 := by
  have h := join_outcome demoLateAbort_reachable (show demoLateAbort.handle = .returned .abortAndJoin _ from rfl)
  obtain ⟨hstate, -, -, hpanic, -⟩ := h.2.2 _ rfl
  exact ⟨rfl, (hpanic 1 (.str "ten") (by decide)).2.2, hstate.symm⟩

/-! ### Errors of task handles -/

/-- **What an error of a task handle says.** It is a panic or a cancellation, and not both.
When it is a panic the task's own body has panicked; `try_into_panic` and
`into_panic` give the payload of that panic, and the text has its message. When it is
a cancellation the body is not running and has not returned; `try_into_panic` gives
the error back and `into_panic` panics with its text. An error about a panic, be it
the task's own or an earlier one, has the message of the one panic that is recorded. -/
theorem error_tells_cause (h : Reachable B v₀ s) {e : TaskError} (hh : (s.tasks t).handle = .resolved (.error e)) :
    e.isCancelled = (!e.isPanic) ∧
    (e.isPanic = true → ∃ p, s.fate t = .panicked p ∧ e.tryIntoPanic = .ok p ∧ e.intoPanic = .ok p ∧
      e.display = withPanicMsg "task panicked" p.msg) ∧
    (e.isCancelled = true → s.fate t ≠ .running ∧ (∀ r, s.fate t ≠ .completed r) ∧ e.tryIntoPanic = .error e ∧
      e.intoPanic = .error ("cannot extract panic payload: " ++ e.display)) ∧
    (e.isPanic = true ∨ e.kind.isPreviousTaskPanic = true →
      ∃ u p, s.panics = [(u, p)] ∧ e.display = withPanicMsg e.kind.display p.msg) := by
  have hi := inv_of_reachable h
  have hexcl := e.isCancelled_eq_not_isPanic
  have hstill : s.fate t ≠ .running ∧ ∀ r, s.fate t ≠ .completed r := by
    refine ⟨fun hx => ?_, fun r hx => ?_⟩
    · obtain ⟨r, -, hr⟩ := hi.resolved_of_fate hh (.inl hx)
      cases hr
    · obtain ⟨r, -, hr⟩ := hi.resolved_of_fate hh (.inr ⟨r, hx⟩)
      cases hr
  have hpanic : e.isPanic = true → ∃ p, e = .taskPanic p ∧ s.panics = [(t, p)] := fun hp => by
    rcases e.tryIntoPanic_eq with ⟨p, rfl, -, -⟩ | ⟨hn, -⟩
    · exact ⟨p, rfl, hi.panics_of_taskPanic hh⟩
    · cases hp.symm.trans hn
  refine ⟨hexcl, fun hp => ?_, fun hc => ⟨hstill.1, hstill.2, ?_⟩, ?_⟩
  · obtain ⟨p, rfl, hpanics⟩ := hpanic hp
    exact ⟨p, hi.channels.recorded t p (by simp [hpanics]), rfl, rfl, rfl⟩
  · rcases e.tryIntoPanic_eq with ⟨p, -, hp, -⟩ | ⟨-, he⟩
    · rw [hexcl, hp] at hc
      cases hc
    · rw [e.intoPanic_eq, he]
      exact ⟨rfl, rfl⟩
  · rintro (hp | hp)
    · obtain ⟨p, rfl, hpanics⟩ := hpanic hp
      exact ⟨t, p, hpanics, TaskError.display_eq _⟩
    · cases e with
      | prevTaskPanic msg =>
        obtain ⟨u, p, hpanics, rfl⟩ := hi.panics_of_prevTaskPanic hh
        exact ⟨u, p, hpanics, TaskError.display_eq _⟩
      | _ => cases hp

/-- A body panics, the task behind it is dropped, and both handles are polled. -/
def demoTold : Sys ℕ ℕ ℕ := (demoExec
  [(1, .spawn .worker (.async 1)), (1, .spawn .worker (.async 0)), (1, .pollWorker), (15, .worker), (1, .poll 0),
    (1, .pollStep 0 .left), (1, .poll 1), (5, .pollStep 1 .left)]).get rfl

theorem demoTold_reachable : Reachable demo 0 demoTold := demo_reachable rfl

theorem error_tells_cause_demo :
    (∃ p, demoTold.fate 0 = .panicked p ∧ (TaskError.taskPanic (.str "ten")).intoPanic = .ok p) ∧
    (TaskError.prevTaskPanic (some "ten")).intoPanic =
      .error ("cannot extract panic payload: " ++ (TaskError.prevTaskPanic (some "ten")).display) := by
  have hown := error_tells_cause demoTold_reachable (t := 0) (e := .taskPanic (.str "ten")) rfl
  have hprev := error_tells_cause demoTold_reachable (t := 1) (e := .prevTaskPanic (some "ten")) rfl
  obtain ⟨p, hp, -, hinto, -⟩ := hown.2.1 rfl
  exact ⟨⟨p, hp, hinto⟩, (hprev.2.2.1 rfl).2.2.2⟩

end Sys

end AsyncSequential
