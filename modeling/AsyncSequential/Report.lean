import AsyncSequential.Takers

/-!
# What a resolved handle is worth

A handle reports a value exactly for a body that returned it, and names a cause
only when there was that cause: an abort or a cancel that was called, or a panic
of an earlier task.
-/

namespace AsyncSequential

variable {S F R : Type*}

open OneShot (Tx)

namespace Sys

variable {B : Bodies S F R PanicPayload} {v₀ : S} {s s' s₁ s₂ : Sys S F R} {t u : ℕ}

/-! ### Completed work -/

theorem Inv.cancellable_of_started (h : Inv B v₀ s) (ht : t ∈ s.started) : (s.tasks t).cancellable = true :=
  h.cancellable_of_takers (by rw [h.takers_of_started ht]; nofun)

/-- Why the handle of a task that has started resolved. -/
theorem Inv.explained_of_started (h : Inv B v₀ s) (ht : t ∈ s.started) {res : Except TaskError R}
    (hh : (s.tasks t).handle = .resolved res) : s.Explained t res :=
  h.handles.resolved t res hh (h.cancellable_of_started ht)

/-- Both senders of a task that has started were dropped only by a body that panicked, or was dropped. -/
theorem Inv.fate_of_closed (h : Inv B v₀ s) (ht : t ∈ s.started) (hk : (s.tasks t).Closed) :
    (∃ p, s.fate t = .panicked p) ∨ s.fate t = .dropped := by
  obtain ⟨hrun, hcomp⟩ := h.channels.resultDropped t (h.takers_of_started ht) hk.1
  cases hx : s.fate t with
  | unstarted => exact absurd ht (h.unstarted_iff.mp hx)
  | running => exact absurd hx hrun
  | completed r => exact absurd hx (hcomp r)
  | panicked p => exact .inl ⟨p, rfl⟩
  | dropped => exact .inr rfl

/-- The handle of a task whose body is running, or has returned. -/
theorem Inv.resolved_of_fate (h : Inv B v₀ s) {res : Except TaskError R} (hh : (s.tasks t).handle = .resolved res)
    (hx : s.fate t = .running ∨ ∃ r, s.fate t = .completed r) : ∃ r, s.fate t = .completed r ∧ res = .ok r := by
  have ht : t ∈ s.started := h.started_of_fate (by rcases hx with hx | ⟨r, hx⟩ <;> rw [hx] <;> nofun)
  rcases (h.explained_of_started ht hh).cases with ⟨r, rfl, hs⟩ | ⟨p, rfl, hs⟩ | hk
  · exact ⟨r, h.channels.sent t r hs, rfl⟩
  · have hp := (h.channels.panicSent t p hs).1
    rcases hx with hx | ⟨r, hx⟩ <;> cases hx.symm.trans hp
  · rcases h.fate_of_closed ht hk with ⟨p, hp⟩ | hp <;> rcases hx with hx | ⟨r, hx⟩ <;> cases hx.symm.trans hp

/-- The handle of a running body has not resolved. -/
theorem Inv.unresolved_of_running (h : Inv B v₀ s) (hx : s.fate t = .running) (res : Except TaskError R) :
    (s.tasks t).handle ≠ .resolved res := by
  intro hh
  obtain ⟨r, hx', -⟩ := h.resolved_of_fate hh (.inl hx)
  cases hx.symm.trans hx'

/-- **Completed work is reported as such.** A handle resolves to `Ok(r)` exactly when
its task was accepted and its body ran to completion with `r`; a body that has
completed has sent its result, or its next step does; from then on a poll that is not
cut short returns it. While the body is running the handle does not resolve. -/
theorem completed_is_reported (h : Reachable B v₀ s) (t : ℕ) :
    (∀ res, (s.tasks t).handle = .resolved res →
      ∀ r, res = .ok r ↔ t ∈ s.accepted ∧ t ∈ s.started ∧ s.fate t = .completed r) ∧
    (∀ r, s.fate t = .completed r → ∀ res, (s.tasks t).handle = .resolved res → res = .ok r) ∧
    (∀ r, s.fate t = .completed r →
      (s.tasks t).resultTx = .sent r ∨ s.worker = .asyncSend t r ∨ s.pool = .send t r) ∧
    (∀ r, (s.tasks t).resultTx = .sent r →
      (s.tasks t).handle = .spawned .fresh ∨ (s.tasks t).handle = .spawned .pending →
      PollReturns B unspent s t (.resolved (.ok r))) ∧
    (s.fate t = .running → ∀ res, (s.tasks t).handle ≠ .resolved res) := by
  have hi := inv_of_reachable h
  have hdone : ∀ r, s.fate t = .completed r → ∀ res, (s.tasks t).handle = .resolved res → res = .ok r := by
    intro r hx res hh
    obtain ⟨r', hx', rfl⟩ := hi.resolved_of_fate hh (.inr ⟨r, hx⟩)
    cases hx.symm.trans hx'
    rfl
  refine ⟨fun res hh r => ⟨?_, fun hx => hdone r hx.2.2 res hh⟩, hdone, fun r hx => hi.channels.completed t r hx, ?_,
    hi.unresolved_of_running⟩
  · rintro rfl
    by_cases hk : (s.tasks t).cancellable = true
    · have hx := hi.channels.sent t r (hi.handles.resolved t _ hh hk)
      exact ⟨(hi.ending.accepted t).mpr hk, hi.started_of_fate (by rw [hx]; nofun), hx⟩
    · obtain ⟨reason, hreason, -⟩ := hi.handles.rejected t _ hh (Bool.eq_false_iff.mpr hk)
      cases hreason
  · intro r hs hh
    have hx := hi.channels.sent t r hs
    obtain ⟨pc, hpc⟩ : ∃ pc, (s.tasks t).handle = .spawned pc := by rcases hh with hh | hh <;> exact ⟨_, hh⟩
    refine pollReturns_ok hh (hi.handles.receiver t pc hpc) (fun p hp => ?_) hs
    cases hx.symm.trans (hi.channels.panicSent t p hp).1

/-- A blocking body that completes after an abort has detached it. -/
def demoDetached : Sys ℕ ℕ ℕ := (demoExec
  [(1, .spawn .worker (.blocking 0)), (1, .pollWorker), (5, .worker), (2, .pool), (1, .consume .abort), (6, .handle),
    (1, .dropWorker), (4, .worker), (3, .pool), (1, .poll 0), (2, .pollStep 0 .left)]).get rfl

theorem demoDetached_reachable : Reachable demo 0 demoDetached := demo_reachable rfl

theorem completed_is_reported_demo : demoDetached.worker = .ended .aborted ∧ demoDetached.fate 0 = .completed 1 ∧
    (demoDetached.tasks 0).handle = .resolved (.ok 1) :=
  have h := (completed_is_reported demoDetached_reachable 0).1 (.ok 1) rfl 1
  ⟨rfl, (h.mp rfl).2.2, rfl⟩

/-! ### Tasks are numbered in the order of acceptance -/

/-- The tasks are accepted in the order of their numbers. -/
def Increasing (s : Sys S F R) : Prop := s.accepted.Pairwise (· < ·)

theorem increasing_of_reachable (h : Reachable B v₀ s) : s.Increasing := by
  refine h.invariant (P := Increasing) .nil fun u v a hr hP _ hs => ?_
  have hlt := (inv_of_reachable hr).order.lt
  have m := move_of_step hs
  cases m with
  | spawn m =>
    cases m with
    | accept _ _ =>
      refine List.pairwise_append.mpr ⟨hP, List.pairwise_singleton _ _, fun t ht w hw => ?_⟩
      rw [List.mem_singleton.mp hw]
      exact hlt t ht
    | _ => exact hP
  | worker m | runtime m | pool m | call m | taskHandle m | spawner m | handle m => cases m <;> exact hP

/-- What was received came before what was dropped with the queue, or is queued. -/
theorem Inv.lt_of_popped (h : Inv B v₀ s) (hs : s.Increasing) (hu : u ∈ s.popped) (ht : t ∈ s.drained ∨ t ∈ s.queue) :
    u < t := by
  have hacc := hs
  rw [Increasing, h.order.accepted, List.append_assoc] at hacc
  exact (List.pairwise_append.mp hacc).2.2 u hu t (List.mem_append.mpr ht)

/-- Everything that was accepted was accepted before `t`, and nothing will be any more. -/
def Late (s : Sys S F R) (t : ℕ) : Prop := s.rxOpen = false ∧ ∀ u ∈ s.accepted, u < t

theorem Late.move {a : Act F} (h : s.Late t) (m : Move B s a s') : s'.Late t := by
  obtain ⟨hopen, hlt⟩ := h
  cases m with
  | worker m =>
    cases m with
    | closeRx => exact ⟨rfl, hlt⟩
    | _ => exact ⟨hopen, hlt⟩
  | spawn m =>
    cases m with
    | accept ho _ => cases ho.symm.trans hopen
    | _ => exact ⟨hopen, hlt⟩
  | runtime m | pool m | call m | taskHandle m | spawner m | handle m => cases m <;> exact ⟨hopen, hlt⟩

/-- The handle of a task that the closed queue rejected, on the way to its report. -/
def RejectedByQueue (s : Sys S F R) (t : ℕ) : Prop :=
  (s.tasks t).cancellable = false ∧
    ((∃ via, s.SendFailing via t) ∨ (∃ msg, (s.tasks t).handle = .unspawned (.prevTaskPanic msg)) ∨
      ∃ msg, (s.tasks t).handle = .resolved (.error (.prevTaskPanic msg)))

/-- A task that the queue has rejected it had rejected before, or rejects now. -/
theorem Handles.rejectedByQueue_of_move {a : Act F} (h : s.Handles) (m : Move B s a s') (ht : s'.RejectedByQueue t) :
    s.RejectedByQueue t ∨ t = s.next ∧ s.rxOpen = false := by
  obtain ⟨hk, hh⟩ := ht
  have hchange := handleChange_of_change (taskChange_of_move m t)
  unfold SendFailing at hh
  generalize s'.tasks t = k at hchange hk hh
  cases hchange with
  | same he _ _ _ _ hc =>
    rw [he] at hh
    exact .inl ⟨hc ▸ hk, hh⟩
  | accept | pollStart => rcases hh with ⟨via, hh | hh⟩ | ⟨msg, hh⟩ | ⟨msg, hh⟩ <;> cases hh
  | reject he hr =>
    rcases hr with ⟨via, rfl, ho, -⟩ | rfl
    · exact .inr ⟨he, ho⟩
    · rcases hh with ⟨via, hh | hh⟩ | ⟨msg, hh⟩ | ⟨msg, hh⟩ <;> cases hh
  | poll hm =>
    obtain ⟨pc, hp⟩ := hm.spawned
    have hacc := h.unspawned t pc hp
    cases hm with
    | cancel _ hm => rcases hh with ⟨via, hh | hh⟩ | ⟨msg, hh⟩ | ⟨msg, hh⟩ <;> cases hh
    | _ => cases hacc.symm.trans hk
  | unspawned hu =>
    refine .inl ⟨hk, ?_⟩
    cases rejectMove_of_unspawned hu with
    | panicked hr | shutdown hr | closed hr => exact .inl ⟨_, .inl hr⟩
    | panicMsg hr => exact .inl ⟨_, .inr hr⟩
    | @resolve reason hr =>
      cases reason with
      | prevTaskPanic msg => exact .inr (.inl ⟨msg, hr⟩)
      | runtimeShutdown | taskSenderUnavailable => rcases hh with ⟨via, hh | hh⟩ | ⟨msg, hh⟩ | ⟨msg, hh⟩ <;> cases hh

/-- What the queue rejects comes after everything that it accepted. -/
theorem late_of_rejected (h : Reachable B v₀ s) (ht : s.RejectedByQueue t) : s.Late t := by
  refine h.invariant (P := fun u => u.RejectedByQueue t → u.Late t) (fun ht => ?_) (fun u v a hr hP _ hs hv => ?_) ht
  · rcases ht.2 with ⟨via, hh | hh⟩ | ⟨msg, hh⟩ | ⟨msg, hh⟩ <;> cases hh
  · have hi := inv_of_reachable hr
    have m := move_of_step hs
    rcases hi.handles.rejectedByQueue_of_move m hv with hu | ⟨rfl, ho⟩
    · exact (hP hu).move m
    · exact Late.move ⟨ho, hi.order.lt⟩ m

/-! ### Causes -/

/-- A worker that has recorded a panic is not dropped by the runtime. -/
theorem Inv.not_dropped_of_panics (h : Inv B v₀ s) (hp : s.panics ≠ []) : s.worker.wasDropped = false := by
  obtain ⟨⟨u, p⟩, hq⟩ := List.exists_mem_of_ne_nil _ hp
  rcases (h.status.recorded u p hq).2.2 with hst | hst <;> cases hw : s.worker <;> rw [hw] at hst <;> grind

/-- The panic that a task not started reports belongs to a task that started before it. -/
theorem Inv.lt_of_prevTaskPanic (h : Inv B v₀ s) (hs : s.Increasing) (hk : (s.tasks t).cancellable = true)
    (hcl : (s.tasks t).Closed) (hncan : ∀ i, (s.tasks t).takers ≠ [.canceller i])
    (hnh : (s.tasks t).takers ≠ [.handle]) {p : PanicPayload} (hp : (u, p) ∈ s.panics) :
    u < t ∧ (s.tasks t).takers = [.dropped] := by
  have hne : s.panics ≠ [] := List.ne_nil_of_mem hp
  have hu : u ∈ s.popped :=
    h.mem_popped_of_started (h.started_of_fate (by rw [h.channels.recorded u p hp]; nofun))
  have hdropped : (s.tasks t).takers = [.dropped] := by
    rcases h.takers_cases t with hx | ⟨x, hx⟩
    · cases (h.channels.untaken t hx).1.symm.trans hcl.1
    · cases x with
      | worker =>
        have ht := h.ending.settled hne t (by simp [taken, hx])
        exact absurd hcl (h.not_closed_of_started ht (h.not_dropped_of_panics hne))
      | canceller i => exact absurd hx (hncan i)
      | handle => exact absurd hx hnh
      | dropped => exact hx
  refine ⟨?_, hdropped⟩
  have hacc := (h.ending.accepted t).mpr hk
  rw [h.order.accepted, List.append_assoc, List.mem_append] at hacc
  rcases hacc with hpop | hrest
  · -- a received task that was dropped was dropped by a cancelled worker
    exfalso
    have hflag := h.status.panicked.mpr hne
    rcases h.ending.untaken t hpop (.inr hdropped) with hw | ⟨-, hf⟩
    · have hst := (h.status.recorded u p hp).2.2
      rcases hw with hw | hw <;> rw [hw] at hst <;> rcases hst with hst | hst <;> cases hst
    · cases hflag.symm.trans hf
  · exact h.lt_of_popped hs hu (List.mem_append.mp hrest)

/-- **The causes that handles report are real.** Without a shutdown, a task that no
`cancel()` call takes never reports `RuntimeShutdown` or `TaskCancelled`; it reports
`WorkerAborted` and `WorkerCancelled` only after an abort and a cancel was called,
and `PreviousTaskPanic` only when a task that was accepted before it panicked, and
then it never starts. -/
theorem causes_are_real (h : Reachable B v₀ s) (hd : s.down = false)
    (hn : ∀ i, (s.tasks t).takers ≠ [.canceller i]) {res : Except TaskError R}
    (hh : (s.tasks t).handle = .resolved res) :
    res ≠ .error .runtimeShutdown ∧ res ≠ .error .taskCancelled ∧
    (res = .error .workerAborted → ∃ op, s.handle.op? = some op ∧ op.aborts = true) ∧
    (res = .error .workerCancelled → ∃ op, s.handle.op? = some op ∧ op.cancels = true) ∧
    ∀ msg, res = .error (.prevTaskPanic msg) →
      ∃ u p, (u, p) ∈ s.panics ∧ msg = p.msg ∧ s.fate u = .panicked p ∧ u ∈ s.accepted ∧ u < t ∧
        ∀ s', Run B Runs.Any s s' → t ∉ s'.started := by
  have hi := inv_of_reachable h
  have hacc : ∀ {u p}, (u, p) ∈ s.panics → s.fate u = .panicked p ∧ u ∈ s.accepted := by
    intro u p hp
    have hx := hi.channels.recorded u p hp
    exact ⟨hx, (hi.ending.accepted u).mpr (hi.cancellable_of_started (hi.started_of_fate (by rw [hx]; nofun)))⟩
  by_cases hk : (s.tasks t).cancellable = true
  · have hx := hi.handles.resolved t res hh hk
    -- a poll that had taken its own task reports `WorkerCancelled`
    have hnh : res ≠ .error .workerCancelled → (s.tasks t).takers ≠ [.handle] := by
      intro hne ht
      rcases hi.handles.taker t ht with ⟨c, hc, -⟩ | hc <;> cases hh.symm.trans hc
      exact hne rfl
    refine ⟨?_, ?_, ?_, ?_, ?_⟩
    · rintro rfl
      rcases hx.2 with hdown | ⟨i, hi⟩
      · cases hd.symm.trans hdown
      · exact hn i hi
    · rintro rfl
      rcases hi.handles.isCancelled t hx.2 with ⟨i, hi⟩ | ht
      · exact hn i hi
      · exact hnh nofun ht
    · rintro rfl
      exact hx.2
    · rintro rfl
      exact hx.2
    · rintro msg rfl
      obtain ⟨hcl, u, p, hp, hmsg⟩ := hx
      obtain ⟨hlt, htk⟩ := hi.lt_of_prevTaskPanic (increasing_of_reachable h) hk hcl hn (hnh nofun) hp
      exact ⟨u, p, hp, hmsg, (hacc hp).1, (hacc hp).2, hlt, fun s' hr => hi.not_started_of_taker hr htk nofun⟩
  · have hk := Bool.eq_false_iff.mpr hk
    obtain ⟨reason, rfl, hr⟩ := hi.handles.rejected t res hh hk
    refine ⟨?_, ?_, ?_, ?_, ?_⟩
    · cases reason with
      | runtimeShutdown => cases hd.symm.trans hr
      | prevTaskPanic | taskSenderUnavailable => nofun
    · cases reason <;> nofun
    · cases reason <;> nofun
    · cases reason <;> nofun
    · intro msg hres
      cases reason with
      | runtimeShutdown | taskSenderUnavailable => cases hres
      | prevTaskPanic msg' =>
        cases hres
        obtain ⟨u, p, hp, hmsg⟩ := hr
        have hlate := late_of_rejected h ⟨hk, .inr (.inr ⟨_, hh⟩)⟩
        exact ⟨u, p, hp, hmsg, (hacc hp).1, (hacc hp).2, hlate.2 u (hacc hp).2,
          fun s' hr => (hi.rejected_of_run hr hk (.inr hh)).1⟩

/-- A body that panics, and one that is queued behind it. -/
def demoBehind : Sys ℕ ℕ ℕ := (demoExec
  [(1, .spawn .worker (.async 1)), (1, .spawn .worker (.async 0)), (1, .pollWorker), (15, .worker), (1, .poll 1),
    (5, .pollStep 1 .left)]).get rfl

theorem demoBehind_reachable : Reachable demo 0 demoBehind := demo_reachable rfl

theorem causes_are_real_demo : (demoBehind.tasks 1).handle = .resolved (.error (.prevTaskPanic (some "ten"))) ∧
    ∃ u p, (u, p) ∈ demoBehind.panics ∧ some "ten" = p.msg ∧ demoBehind.fate u = .panicked p ∧
      u ∈ demoBehind.accepted ∧ u < 1 ∧ ∀ s', Run demo Runs.Any demoBehind s' → 1 ∉ s'.started :=
  have hn : ∀ i, (demoBehind.tasks 1).takers ≠ [.canceller i] := fun i hi =>
    nomatch (show [Taker.dropped] = [.canceller i] from hi)
  ⟨rfl, (causes_are_real demoBehind_reachable rfl hn rfl).2.2.2.2 _ rfl⟩

end Sys

end AsyncSequential
