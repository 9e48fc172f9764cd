import AsyncSequential.Interpreter
import AsyncSequential.Rest

/-!
# The queue is drained

What the worker comes to when it is left alone. The interpreter of `Lib.Resume`
says what a join and the handles report, once they do. Here they come to report it:
when every body ends, every run of useful steps in which nobody aborts or cancels
the worker ends with the interpreter's value in the shared state, and for every task
that is left its handle has the interpreter's outcome, or gets it from a poll that is not
cut short.
-/

namespace AsyncSequential

variable {S F R : Type*}

namespace Sys

variable {B : Bodies S F R PanicPayload} {v₀ : S} {s s' u : Sys S F R} {t : ℕ}

/-! ### Leaving the worker alone -/

/-- The actions that bring no new task, no new call and no consumption of the worker handle. -/
def Passive : Act F → Prop
  | .spawn _ _ | .cancel _ _ | .consume _ | .shutdown => False
  | _ => True

theorem passive_of_useful {a : Act F} (ha : s.Useful a) : Passive a := by
  cases a <;> first | exact trivial | exact ha.elim

/-- No `cancel()` call is in progress. -/
def CallsOver (s : Sys S F R) : Prop := ∀ i, s.cancels i = .absent ∨ ∃ t b, s.cancels i = .run t (.done b)

/-- The worker is as undisturbed as before, and has the same tasks to run. -/
structure Keeps (s u : Sys S F R) : Prop where
  undisturbed : s.Undisturbed → u.Undisturbed
  accepted : u.accepted = s.accepted
  body : u.body = s.body
  calls : s.CallsOver → u.CallsOver ∧ ∀ t, u.cancelled t = s.cancelled t

theorem Keeps.refl (s : Sys S F R) : Keeps s s := ⟨id, rfl, rfl, fun hc => ⟨hc, fun _ => rfl⟩⟩

theorem Keeps.trans (h : Keeps s s') (h' : Keeps s' u) : Keeps s u where
  undisturbed hu := h'.undisturbed (h.undisturbed hu)
  accepted := h'.accepted.trans h.accepted
  body := h'.body.trans h.body
  calls hc :=
    have ⟨hc', he⟩ := h.calls hc
    have ⟨hc'', he'⟩ := h'.calls hc'
    ⟨hc'', fun t => (he' t).trans (he t)⟩

/-- What remains to be run. -/
theorem Keeps.remaining (h : Keeps s u) (hc : s.CallsOver) : u.remaining = s.remaining := by
  simp only [Sys.remaining, h.accepted, (h.calls hc).2]

theorem Keeps.bodies (h : Keeps s u) (hc : s.CallsOver) : u.bodies = s.bodies := by
  simp only [Sys.bodies, h.remaining hc, h.body]

/-- Nobody consumes the handle. -/
theorem op_of_passive {a : Act F} (ha : Passive a) (m : Move B s a s') : s'.handle.op? = s.handle.op? := by
  cases ho : s.handle.op? with
  | some op => exact op_of_move m ho
  | none =>
    have hlive : s.handle = .live := by
      cases hh : s.handle <;> rw [hh] at ho <;> cases ho
    cases m with
    | handle m =>
      cases m with
      | consume => exact ha.elim
      | dropJoin hh => rcases hh with hh | ⟨out, hh⟩ <;> cases hlive.symm.trans hh
      | corrupted | stateMissing => exact ho
      | finished hh | notFinished hh | setAbort hh | setCancel hh | setFailed hh | abortWorker hh | closeSenders hh
      | dropCtx hh | dropTx hh | workerEnded hh | lockState hh | takeState hh | unlockState hh | decideOk hh
      | decideAborted hh | decidePanicked hh | decideShutdown hh | readPanicMsg hh => cases hlive.symm.trans hh
    | worker m | runtime m | pool m | call m | taskHandle m | spawn m | spawner m => cases m <;> exact ho

theorem callsOver_of_passive {a : Act F} (ha : Passive a) (m : Move B s a s') (hc : s.CallsOver) : s'.CallsOver := by
  cases m with
  | call m =>
    cases m with
    | start => exact ha.elim
    | corrupted => exact hc
    | running hi | notRunning hi => rcases hc _ with h | ⟨t, b, h⟩ <;> cases h.symm.trans hi
    | run hi hm =>
      rcases hc _ with h | ⟨t, b, h⟩ <;> cases h.symm.trans hi
      cases hm
  | worker m | runtime m | pool m | taskHandle m | spawn m | spawner m | handle m => cases m <;> exact hc

/-- Only a call in progress cancels a task. -/
theorem Cells.cancelled_of_move {a : Act F} (h : s.Cells) (m : Move B s a s') (hc : s.CallsOver) (t : ℕ) :
    s'.cancelled t = s.cancelled t := by
  rcases h.takers_cases (taskChange_of_move m t) with he | ⟨hnil, -, x, hx, htakes⟩
  · simp only [cancelled, he]
  · cases htakes with
    | canceller hi => rcases hc _ with h | ⟨t, b, h⟩ <;> cases h.symm.trans hi
    | worker | handle | dropped => simp [cancelled, hnil, hx]

theorem keeps_of_passive {a : Act F} (h : Inv B v₀ s) (ha : Passive a) (m : Move B s a s') : Keeps s s' where
  undisturbed hu := by
    refine ⟨?_, fun op hop => hu.op op ((op_of_passive ha m).symm.trans hop)⟩
    cases m with
    | runtime m =>
      cases m with
      | shutdown => exact ha.elim
      | _ => exact hu.up
    | worker m | pool m | call m | taskHandle m | spawn m | spawner m | handle m => cases m <;> exact hu.up
  accepted := by
    cases m with
    | spawn m =>
      cases m with
      | accept => exact ha.elim
      | _ => rfl
    | worker m | runtime m | pool m | call m | taskHandle m | spawner m | handle m => cases m <;> rfl
  body := by
    cases m with
    | spawn m =>
      cases m with
      | accept | reject | unavailable => exact ha.elim
      | _ => rfl
    | worker m | runtime m | pool m | call m | taskHandle m | spawner m | handle m => cases m <;> rfl
  calls hc := ⟨callsOver_of_passive ha m hc, h.cells.cancelled_of_move m hc⟩

theorem keeps_of_run {C : Sys S F R → Act F → Prop} (h : Inv B v₀ s) (hC : ∀ u a, C u a → Passive a)
    (hr : Run B C s u) : Keeps s u := by
  induction hr with
  | refl => exact .refl s
  | tail hr hc hs ih => exact ih.trans (keeps_of_passive (h.run hr) (hC _ _ hc) (move_of_step hs))

/-- A poll is a run of such actions. -/
theorem PollGoes.exists_run {bs : ℕ → Budget} {h : TaskHandle R} (hg : PollGoes B bs s t h) :
    ∃ u, Run B (fun _ a => Passive a) s u ∧ (u.tasks t).handle = h := by
  obtain ⟨n, u, hu, hh⟩ := hg
  induction n generalizing s bs with
  | zero =>
    cases hu
    exact ⟨_, .refl, hh⟩
  | succ n ih =>
    rw [List.range_succ_eq_map, List.map_cons, List.map_map] at hu
    obtain ⟨w, hw, hu⟩ := Option.bind_eq_some_iff.mp hu
    obtain ⟨u', hr, hh'⟩ := @ih w (fun i => bs (i + 1)) hu
    exact ⟨u', (Runs.Steps.single trivial hw).trans hr, hh'⟩

theorem PollReturns.exists_run {bs : ℕ → Budget} {h : TaskHandle R} (hg : PollReturns B bs s t h) :
    ∃ u, Run B (fun _ a => Passive a) s u ∧ (u.tasks t).handle = h := by
  obtain ⟨w, hw, hg⟩ := hg
  obtain ⟨u, hr, hh⟩ := hg.exists_run
  exact ⟨u, (Runs.Steps.single trivial hw).trans hr, hh⟩

/-! ### What an idle worker has done -/

/-- A worker that waits for tasks has run all that remained. -/
theorem Undisturbed.remaining_of_waits (hu : s.Undisturbed) (h : Inv B v₀ s) (hw : s.WaitsForTasks) :
    s.remaining = s.started := by
  have hdrained : s.drained = [] := h.order.drained fun out ho => by rw [hw.worker] at ho; cases ho
  obtain ⟨rest, hf, hrest⟩ := h.order.started
  have hnil : rest = [] := hrest.settled (.inl (by rw [hw.worker]; rfl))
  rw [hnil, List.append_nil] at hf
  rw [remaining, h.order.accepted, hw.queue, hdrained, List.append_nil, List.append_nil, ← hf]
  exact List.filter_congr fun t ht => hu.not_cancelled_eq_taken h ht (by simp [hw.worker])

/-- An undisturbed worker that waits for tasks, or has ended, has come to what the interpreter comes to. -/
theorem Inv.interpret_of_idle (h : Inv B v₀ s) (hu : s.Undisturbed)
    (hw : s.WaitsForTasks ∨ ∃ out, s.worker = .ended out) :
    ∃ n r, B.interpret n s.bodies v₀ = some r ∧ s.current = some r.value := by
  obtain ⟨v, hv, hseq⟩ := h.replay.sequential
  have hall : s.remaining = s.started → (∀ t ∈ s.started, ∃ r, s.fate t = .completed r) →
      ∃ n r, B.interpret n s.bodies v₀ = some r ∧ s.current = some r.value := fun hrem hcomp => by
    obtain ⟨n, hn⟩ := hseq.interpret_completed (List.append_nil s.started).symm hcomp
    refine ⟨n, _, by rw [bodies, hrem]; exact hn, ?_⟩
    rw [hv]
    exact congrArg some hseq.current.symm
  rcases hw with hw | ⟨out, hw⟩
  · exact hall (hu.remaining_of_waits h hw) (h.replay.calm (.inl (by rw [hw.worker]; rfl)))
  · cases out with
    | ok => exact hall (hu.remaining_of_ok h hw) (h.completed_of_ok hw)
    | aborted =>
      have hdrop := hu.wasDropped h
      simp [hw, WorkerPc.wasDropped] at hdrop
    | err =>
      obtain ⟨-, t, p, hp⟩ := (h.panicked_of_ended hw).resolve_right (by simp [hu.up])
      obtain ⟨ts, hts⟩ := h.last_of_panicked hp
      obtain ⟨rest, hrest⟩ := hu.started_prefix h
      obtain ⟨n, hn⟩ := hseq.interpret_panicked hts (h.channels.recorded t p hp) (rest.filterMap s.body)
      exact ⟨n, _, by rw [bodies, ← hrest, List.filterMap_append]; exact hn, hv⟩

/-- What a handle has resolved to is what the interpreter yields on all that remains. -/
theorem Inv.outcome_of_resolved (h : Inv B v₀ s) (hu : s.Undisturbed) {i n : ℕ} {res : Except TaskError R}
    {r : Bodies.Result S R PanicPayload} (hr : B.interpret n s.bodies v₀ = some r) (ht : s.remaining[i]? = some t)
    (hh : (s.tasks t).handle = .resolved res) : outcomeOf r i = some res := by
  obtain ⟨m, r', hm, hx⟩ := h.outcome_eq hu ht hh
  rw [← List.take_append_drop (i + 1) s.bodies] at hr
  exact outcomeOf_append hr hm hx

/-- **The queue is drained.** When every body ends, a worker that is neither aborted nor
cancelled, on a runtime that is up, comes to run all that was accepted: from every
reachable state every run of useful steps comes to where the interpreter's value on
the bodies that remain is in the shared state, every handle of theirs has resolved to
the interpreter's outcome or does so at a poll that is not cut short, and a join that
has returned has returned its result. If no `cancel()` is in progress these bodies, and
so all of that, are settled before the first step. -/
theorem drains (hB : B.Ends) (h : Reachable B v₀ s) (hu : s.Undisturbed) :
    Runs.Inevitably (step B) Useful (fun u => u.accepted = s.accepted ∧ (s.CallsOver → u.bodies = s.bodies) ∧
      ∃ n r, B.interpret n u.bodies v₀ = some r ∧ u.current = some r.value ∧
        (∀ i t, u.remaining[i]? = some t → ∃ res, outcomeOf r i = some res ∧
          ((u.tasks t).handle = .resolved res ∨ PollReturns B unspent u t (.resolved res))) ∧
        ∀ res, u.handle = .returned .join res → res = joinOf r) s := by
  refine (inevitably_stuck hB h).mono fun u ⟨hrun, hreach, hstuck⟩ => ?_
  have hi := inv_of_reachable hreach
  have hkeeps := keeps_of_run (inv_of_reachable h) (fun _ _ => passive_of_useful) hrun
  have hu' := hkeeps.undisturbed hu
  have hr := rested_of_atRest hreach hstuck
  obtain ⟨n, r, hint, hcur⟩ := hi.interpret_of_idle hu' hr.worker
  refine ⟨hkeeps.accepted, hkeeps.bodies, n, r, hint, hcur, fun i t ht => ?_, fun res hh => ?_⟩
  · have hacc : t ∈ u.accepted := (List.mem_filter.mp (List.mem_of_getElem? ht)).1
    have hhandle : (u.tasks t).handle ≠ .absent := by
      rcases hi.handles.spawned t ((hi.ending.accepted t).mp hacc) with ⟨pc, hh⟩ | ⟨res, hh⟩ <;> rw [hh] <;> nofun
    rcases (hr.resolves t hhandle).2 with ⟨res, hh⟩ | ⟨res, hp⟩
    · exact ⟨res, hi.outcome_of_resolved hu' hint ht hh, .inl hh⟩
    · obtain ⟨w, hw, hh⟩ := hp.exists_run
      have hpoll := keeps_of_run hi (fun _ _ => id) hw
      refine ⟨res, (hi.run hw).outcome_of_resolved (hpoll.undisturbed hu') (n := n) ?_ ?_ hh, .inr hp⟩
      · rw [hpoll.bodies hr.call, hint]
      · rw [hpoll.remaining hr.call, ht]
  · obtain ⟨m, r', hm, rfl⟩ := hi.join_eq hu' hh
    rw [B.interpret_unique hm hint]

/-- Three tasks, of which the second is cancelled, and a worker that has not been polled. -/
def demoAhead : Sys ℕ ℕ ℕ := (demoExec
  [(1, .spawn .worker (.async 2)), (1, .spawn .worker (.async 5)), (1, .spawn .worker (.blocking 0)), (1, .cancel 0 1),
    (6, .cancelStep 0)]).get rfl

theorem demoAhead_reachable : Reachable demo 0 demoAhead := demo_reachable rfl

theorem drains_demo : demoAhead.bodies = [2, 0] ∧ ∃ u, Run demo Useful demoAhead u ∧ u.current = some 102 := by
  refine ⟨rfl, ?_⟩
  have hover : demoAhead.CallsOver := fun i =>
    match i with
    | 0 => .inr ⟨1, true, rfl⟩
    | _ + 1 => .inl rfl
  obtain ⟨u, hrun, -, hbodies, n, r, hr, hcur, -⟩ :=
    (drains demo_ends demoAhead_reachable ⟨rfl, nofun⟩).exists_run
  rw [hbodies hover] at hr
  have hint : demo.interpret 2 demoAhead.bodies 0 = some ⟨102, [101, 102], none⟩ := rfl
  exact ⟨u, hrun, by rw [hcur, demo.interpret_unique hr hint]⟩

end Sys

end AsyncSequential
