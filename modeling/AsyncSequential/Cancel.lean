import AsyncSequential.Starts

/-!
# Cancelling

Cancelling the worker stops the queue and interrupts nothing. Cancelling a task
takes it away from the worker; the handle learns of it from a flag that the
canceller sets last, after it has dropped the senders, and so may come too early.
-/

namespace AsyncSequential

variable {S F R : Type*}

namespace Sys

variable {B : Bodies S F R PanicPayload} {v₀ : S} {s s' s₁ s₂ : Sys S F R} {t : ℕ}

/-! ### Cancelling the worker -/

/-- The worker has received `t` and seen that it is not cancelled. -/
def Checked (s : Sys S F R) (t : ℕ) : Prop := s.worker = .checked t ∨ s.HasBody t

/-- The worker comes to the take from the check of the flag. -/
theorem checked_of_move {a : Act F} (m : Move B s a s') (hw : s'.worker = .checked t) :
    s.worker = .checked t ∨ s.worker = .dequeued t ∧ s.flag ≠ some .cancelStarted := by
  cases m with
  | worker m =>
    cases m with
    | check hw' hf hfl =>
      cases hw
      exact .inr ⟨hw', by rw [hf]; exact fun he => hfl (Option.some.inj he)⟩
    | corrupted _ _ => exact .inl hw
    | _ => cases hw
  | runtime m => cases m <;> first | exact .inl hw | cases hw
  | pool m | call m | taskHandle m | spawn m | spawner m | handle m => cases m <;> exact .inl hw

/-- A worker that was cancelled, or has panicked, checks no more tasks. -/
theorem Inv.checked_back (h : Inv B v₀ s) {a : Act F} (m : Move B s a s')
    (hf : s.flag = some .cancelStarted ∨ s.flag = some .taskPanicked) (ht : s'.Checked t) : s.Checked t := by
  rcases ht with hw | hb
  · rcases checked_of_move m hw with hw | ⟨hw, hne⟩
    · exact .inl hw
    · rcases hf with hf | hf
      · exact absurd hf hne
      · exact absurd (h.status.panics_eq_nil (.inl (by rw [hw]; rfl))) (h.status.panicked.mp hf)
  · rcases hasBody_of_move m hb with hb | ⟨hw, -⟩
    · exact .inr hb
    · exact .inl hw

/-- What is checked was received. -/
theorem Inv.popped_of_checked (h : Inv B v₀ s) (ht : s.Checked t) : t ∈ s.popped := by
  rcases ht with hw | hb
  · obtain ⟨P, hP⟩ := h.order.current t (.inr hw)
    simp [hP]
  · exact h.popped_of_hasBody hb

/-- After a cancel at most one body starts: one that the worker had checked. -/
theorem starts_after_cancel (h : Inv B v₀ s₁) (hf : s₁.flag = some .cancelStarted) (hr : Run B Runs.Any s₁ s₂) :
    s₂.started = s₁.started ∨ ∃ t, s₁.Checked t ∧ s₂.started = s₁.started ++ [t] := by
  have hP := starts_of_run Checked h hr (fun _ _ hb => .inr hb)
    (fun s t hfree ht => ht.elim (hfree.message t).2 (hfree.body t))
    (fun s s' a t hr' hs _ m => hs.checked_back m (by
      rw [← hf]
      exact flag_of_run hr' (by rw [hf]; nofun)))
  rcases hP with ⟨hst, -⟩ | ⟨t, ht, hst, -⟩
  · exact .inl hst
  · exact .inr ⟨t, ht, hst⟩

/-- A task that was queued when the worker was cancelled, or accepted later, never starts. -/
theorem not_started_after_cancel (h : Inv B v₀ s₁) (hf : s₁.flag = some .cancelStarted) (hr : Run B Runs.Any s₁ s₂)
    (ht : t ∈ s₁.queue ∨ t ∉ s₁.accepted) : t ∉ s₂.started :=
  h.not_started_of_starts ((starts_after_cancel h hf hr).imp id fun ⟨u, hu, heq⟩ => ⟨u, h.popped_of_checked hu, heq⟩) ht

/-- A handle that had not resolved when something was recorded never reports a shutdown. -/
theorem not_shutdown_of_run (h : Inv B v₀ s₁) (hf : s₁.flag ≠ some .runningOrRuntimeShutdown)
    (ht : (s₁.tasks t).cancellable = true → (s₁.tasks t).takers = []) (hr : Run B Runs.Any s₁ s₂)
    (hacc : (s₂.tasks t).cancellable = true) : (s₂.tasks t).handle ≠ .resolved (.error .runtimeShutdown) := by
  refine hr.invariant (P := fun s => (s.tasks t).cancellable = true →
    (s.tasks t).handle ≠ .resolved (.error .runtimeShutdown)) (fun hacc => h.unresolved_of_untaken (ht hacc) hacc _)
    (fun u v a hu hP _ hs hacc hv => ?_) hacc
  have hiu := h.run hu
  have hc := handleChange_of_change (taskChange_of_move (move_of_step hs) t)
  rcases hiu.handles.resolves_of_change hc hv hacc with ⟨hold, hacc'⟩ | hnew
  · exact hP hacc' hold
  · cases hnew with
    | runtimeShutdown _ hfu =>
      rcases flag_of_run hu hf with hfl | hfl
      · exact hf (hfl.symm.trans hfu)
      · cases hfl.symm.trans hfu

/-- What the handle of a task can report that a cancelled worker has left unstarted. -/
theorem outcome_of_left (h : Inv B v₀ s₁) (hf : s₁.flag = some .cancelStarted) (hr : Run B Runs.Any s₁ s₂)
    (ht : (s₁.tasks t).cancellable = true → (s₁.tasks t).takers = []) (hns : t ∉ s₂.started)
    (hacc : t ∈ s₂.accepted) {res : Except TaskError R} (hres : (s₂.tasks t).handle = .resolved res) :
    res = .error .workerCancelled ∨ res = .error .taskCancelled ∨ ∃ msg, res = .error (.prevTaskPanic msg) := by
  have h₂ := h.run hr
  have hca := (h₂.ending.accepted t).mp hacc
  have hx := h₂.handles.resolved t res hres hca
  have hk := h₂.closed_of_not_started hns hx
  cases res with
  | ok r => cases hk.1.symm.trans hx
  | error e =>
    cases e with
    | workerCancelled => exact .inl rfl
    | taskCancelled => exact .inr (.inl rfl)
    | prevTaskPanic msg => exact .inr (.inr ⟨msg, rfl⟩)
    | taskPanic p => cases hk.2.symm.trans hx
    | taskSpawnerUnavailable => exact hx.elim
    | runtimeShutdown =>
      exact absurd hres (not_shutdown_of_run h (by rw [hf]; nofun) ht hr hca)
    | workerAborted =>
      obtain ⟨-, op, hop, ho⟩ := hx
      obtain ⟨op', hop', ho'⟩ := h.status.cancels hf
      cases hop.symm.trans (op_of_run hr hop')
      cases op <;> simp_all [Consume.aborts, Consume.cancels]

/-- Without a shutdown a worker that is cancelled drops no body. -/
theorem Inv.not_dropped (h : Inv B v₀ s) (hd : s.down = false) (hop : ∃ op, s.handle.op? = some op ∧ op.cancels = true) :
    s.worker.wasDropped = false := by
  by_contra hw
  rcases h.ending.aborted (by simpa using hw) with ha | hd'
  · obtain ⟨op, hop', ho⟩ := hop
    obtain ⟨op₂, hop₂, ho₂⟩ := (h.status.aborting ha).1
    cases hop'.symm.trans hop₂
    cases op <;> simp_all [Consume.aborts, Consume.cancels]
  · simp [hd] at hd'

/-- Unless it was dropped with the worker, a body that has started keeps a channel. -/
theorem Inv.not_closed_of_started (h : Inv B v₀ s) (ht : t ∈ s.started) (hw : s.worker.wasDropped = false) :
    ¬ (s.tasks t).Closed := by
  intro hk
  rcases h.channels.panicDropped t (h.takers_of_started ht) hk.2 with ⟨r, hr⟩ | ho | ⟨-, hx⟩
  · cases hr.symm.trans hk.1
  · cases hpc : s.worker <;> rw [hpc] at ho hw <;> grind
  · exact h.unstarted_iff.mp hx ht

/-- **`cancel` stops the queue and never interrupts.** After the flag is set at
most one body starts, one that the worker had received and checked. What was
queued and what is accepted later never starts, and reports the worker's or its
own cancellation, or a previous panic. Without a shutdown no body is dropped, and
a started task reports its own end. -/
theorem cancel_stops_queue (h : Reachable B v₀ s₁) (hf : s₁.flag = some .cancelStarted)
    (hr : Run B Runs.Any s₁ s₂) :
    (s₂.started = s₁.started ∨ ∃ t, s₁.Checked t ∧ s₂.started = s₁.started ++ [t]) ∧
    (∀ t, t ∈ s₁.queue ∨ t ∈ s₂.accepted ∧ t ∉ s₁.accepted → t ∉ s₂.started) ∧
    (∀ t, t ∈ s₁.queue ∧ (s₁.tasks t).takers = [] ∨ t ∈ s₂.accepted ∧ t ∉ s₁.accepted →
      ∀ res, (s₂.tasks t).handle = .resolved res →
        res = .error .workerCancelled ∨ res = .error .taskCancelled ∨ ∃ msg, res = .error (.prevTaskPanic msg)) ∧
    (s₂.down = false → ∀ t ∈ s₂.started, s₂.fate t ≠ .dropped ∧
      ∀ res, (s₂.tasks t).handle = .resolved res → (∃ r, res = .ok r) ∨ ∃ p, res = .error (.taskPanic p)) := by
  have h₁ := inv_of_reachable h
  have h₂ := h₁.run hr
  refine ⟨starts_after_cancel h₁ hf hr, ?_, ?_, ?_⟩
  · intro t ht
    exact not_started_after_cancel h₁ hf hr (ht.imp id And.right)
  · rintro t ht res hres
    have hns := not_started_after_cancel h₁ hf hr (ht.imp And.left And.right)
    rcases ht with ⟨hq, hk⟩ | ⟨hacc, hn⟩
    · have hacc : t ∈ s₁.accepted := by rw [h₁.order.accepted]; simp [hq]
      exact outcome_of_left h₁ hf hr (fun _ => hk) hns (accepted_of_run hr hacc) hres
    · exact outcome_of_left h₁ hf hr (fun hc => absurd ((h₁.ending.accepted t).mpr hc) hn) hns hacc hres
  · intro hd t ht
    obtain ⟨op, hop, ho⟩ := h₁.status.cancels hf
    have hw := h₂.not_dropped hd ⟨op, op_of_run hr hop, ho⟩
    have hto := h₂.takers_of_started ht
    refine ⟨fun hx => ?_, fun res hres => ?_⟩
    · rcases h₂.channels.dropped t hx with hpc | hpc | ho
      · simp [hpc, WorkerPc.wasDropped] at hw
      · simp [hpc, WorkerPc.wasDropped] at hw
      · cases hpc : s₂.worker <;> rw [hpc] at ho hw <;> grind
    · have hacc := h₂.cancellable_of_takers (by rw [hto]; nofun)
      rcases (h₂.handles.resolved t res hres hacc).cases with ⟨r, hr', -⟩ | ⟨p, hp, -⟩ | hk
      · exact .inl ⟨r, hr'⟩
      · exact .inr ⟨p, hp⟩
      · exact absurd hk (h₂.not_closed_of_started ht hw)

/-- Two tasks of which the worker has checked the first, and a cancel that sets the flag. -/
def demoCancel : Sys ℕ ℕ ℕ := (demoExec
  [(1, .spawn .worker (.async 2)), (1, .spawn .worker (.async 0)), (1, .pollWorker), (2, .worker),
    (1, .consume .cancelAndJoin), (2, .handle)]).get rfl

theorem demoCancel_reachable : Reachable demo 0 demoCancel := demo_reachable rfl

/-- The first runs to its end, and the second is dropped with the queue. -/
def demoCancelEnd : Sys ℕ ℕ ℕ := (Runs.exec (step demo)
  [.worker, .worker, .worker, .pollWorker, .worker, .worker, .worker, .worker, .worker, .worker, .worker, .worker,
    .worker, .worker, .worker, .worker, .poll 1, .pollStep 1 .left, .pollStep 1 .left, .pollStep 1 .left,
    .pollStep 1 .left] demoCancel).get rfl

theorem demoCancelEnd_run : Run demo Runs.Any demoCancel demoCancelEnd :=
  Runs.steps_of_exec (Option.some_get rfl).symm

theorem cancel_stops_queue_demo : demoCancelEnd.started = [0] ∧
    (demoCancelEnd.tasks 1).handle = .resolved (.error .workerCancelled) ∧ 1 ∉ demoCancelEnd.started :=
  ⟨rfl, rfl, (cancel_stops_queue demoCancel_reachable rfl demoCancelEnd_run).2.1 1 (.inl (by decide))⟩

/-! ### Cancelling a task -/

/-- A `cancel()` call has taken `t` and not yet recorded it. -/
def cancelMidway (s : Sys S F R) (t : ℕ) : Bool :=
  (s.tasks t).takers.any fun x =>
    match x with
    | .canceller i =>
      match s.cancels i with
      | .run _ c => c.midway
      | _ => false
    | _ => false

/-- No poll loads `is_cancelled` of a task that a `cancel()` call has taken and not
yet recorded as cancelled. -/
def recordedInTime (s : Sys S F R) : Act F → Bool
  | .pollStep t _ => !((s.tasks t).handle matches .spawned .isCancelled) || !s.cancelMidway t
  | _ => true

/-- The handle of a task that a `cancel()` call has taken does not miss it. -/
def Reported (s : Sys S F R) : Prop :=
  ∀ t i, (s.tasks t).takers = [.canceller i] →
    (s.tasks t).handle ≠ .spawned .flag ∧ (s.tasks t).handle ≠ .spawned .panicMsg ∧
      ∀ res, (s.tasks t).handle = .resolved res → res = .error .taskCancelled

/-- Before a `cancel()` call takes a task its handle has not looked for a cause. -/
theorem Inv.handle_of_untaken (h : Inv B v₀ s) (ht : (s.tasks t).takers = [])
    (hacc : (s.tasks t).cancellable = true) :
    (s.tasks t).handle ≠ .spawned .flag ∧ (s.tasks t).handle ≠ .spawned .panicMsg ∧
      ∀ res, (s.tasks t).handle = .resolved res → res = .error .taskCancelled := by
  have hlive := (h.channels.untaken t ht).1
  refine ⟨fun hh => ?_, fun hh => ?_, fun res hr => absurd hr (h.unresolved_of_untaken ht hacc res)⟩
  · cases hlive.symm.trans (h.handles.knows t _ hh).1
  · cases hlive.symm.trans (h.handles.knows t _ hh).1

/-- A poll that finds the task not cancelled, when a `cancel()` call has taken it,
comes before the call has recorded it. -/
theorem Inv.cancelMidway_of_not (h : Inv B v₀ s) {i : ℕ} (ht : (s.tasks t).takers = [.canceller i])
    (hc : (s.tasks t).isCancelled = false) : s.cancelMidway t = true := by
  rcases h.handles.canceller t i ht with hic | ⟨c, hi, hm⟩
  · simp [hic] at hc
  · simp [cancelMidway, ht, hi, hm]

/-- What a task becomes of which the handle has missed nothing. -/
theorem Inv.reported_step (h : Inv B v₀ s) {a : Act F} (m : Move B s a s') (hC : s.recordedInTime a = true)
    {i : ℕ} (ht : (s'.tasks t).takers = [.canceller i])
    (hP : (s.tasks t).handle ≠ .spawned .flag ∧ (s.tasks t).handle ≠ .spawned .panicMsg ∧
      ∀ res, (s.tasks t).handle = .resolved res → res = .error .taskCancelled) :
    (s'.tasks t).handle ≠ .spawned .flag ∧ (s'.tasks t).handle ≠ .spawned .panicMsg ∧
      ∀ res, (s'.tasks t).handle = .resolved res → res = .error .taskCancelled := by
  obtain ⟨hflag, hmsg, hres⟩ := hP
  have hother : ∀ {x}, x ≠ .canceller i → (s.tasks t).takers ≠ [x] := fun hx hk => by
    rw [h.cells.takers_of_move m (by simp [hk]), hk] at ht
    exact hx (List.singleton_inj.mp ht)
  have hacc : (s'.tasks t).cancellable = true := (h.move m).cancellable_of_takers (by simp [ht])
  obtain ⟨hns, hnp⟩ := h.channels.not_sent (fun hne => h.fate_of_takers hne) (hother nofun)
  have hchange := handleChange_of_change (taskChange_of_move m t)
  refine ⟨fun hh' => ?_, fun hh' => ?_, fun res hr => ?_⟩
  · -- only a poll that has just loaded `is_cancelled` goes on to the flag
    have hload : (s.tasks t).handle = .spawned .isCancelled ∧ (s.tasks t).isCancelled = false := by
      rcases hchange.pollMove hh' nofun nofun with hold | ⟨b, g, hm, he⟩
      · exact absurd hold hflag
      · rw [he] at hh'
        cases hm with
        | notCancelled hh hc => exact ⟨hh, hc⟩
        | panicRxReady | resultRxReady => cases (ofReady_eq_spawned.mp hh').2
        | _ => cases hh'
    obtain ⟨hh, hc⟩ := hload
    obtain ⟨b, rfl⟩ : ∃ b, a = .pollStep t b := by
      by_contra ha
      rcases h.cells.handle_of_move m hh (fun b hb => ha ⟨b, hb⟩) with hk | ⟨hk | hk, -⟩
      · cases hk.symm.trans hh'
      · cases hk
      · cases hk
    have hold : (s.tasks t).takers = [.canceller i] := by
      rcases h.cells.takers_cases (taskChange_of_move m t) with hsame | ⟨hnil, -⟩
      · exact hsame ▸ ht
      · cases ((h.channels.untaken t hnil).1).symm.trans (h.handles.knows t _ hh).1
    simp [recordedInTime, hh, h.cancelMidway_of_not hold hc] at hC
  · rcases hchange.pollMove hh' nofun nofun with hold | ⟨b, g, hm, he⟩
    · exact hmsg hold
    · rw [he] at hh'
      cases hm with
      | panicked hh _ => exact hflag hh
      | panicRxReady | resultRxReady => cases (ofReady_eq_spawned.mp hh').2
      | _ => cases hh'
  · rcases h.handles.resolves_of_change hchange hr hacc with ⟨hold, -⟩ | hnew
    · exact hres res hold
    · cases hnew with
      | ok hs => exact absurd hs (hns _)
      | taskPanic hs => exact absurd hs (hnp _)
      | taskCancelled => rfl
      | workerAborted hh | workerCancelled hh | runtimeShutdown hh => exact absurd hh hflag
      | prevTaskPanic hh => exact absurd hh hmsg
      | taken hh => exact absurd (h.cells.handle t _ hh rfl) (hother nofun)

/-- Where every recording is in time no handle misses a cancellation. -/
theorem reported_of_run (hr : Run B (fun s a => s.recordedInTime a = true) (init v₀) s) : Reported s := by
  refine hr.invariant (P := Reported) ?_ fun u v a hu hP hC hs t i ht => ?_
  · simp [Reported, init, Task.absent]
  · have hi := (inv_init v₀).run hu
    have m := move_of_step hs
    refine hi.reported_step m hC ht ?_
    rcases hi.cells.takers_cases (taskChange_of_move m t) with hsame | ⟨hnil, hfull, -⟩
    · exact hP t i (hsame ▸ ht)
    · refine hi.handle_of_untaken hnil ?_
      by_contra hc
      exact ((hi.cells.cell t).rejected (Bool.eq_false_iff.mpr hc)).1 hfull

/-! ### A cancellation that is missed -/

/-- The poll has loaded `is_cancelled` in vain, or the handle has resolved to another error. -/
def Missed (k : Task F R) : Prop :=
  k.handle = .spawned .flag ∨ k.handle = .spawned .panicMsg ∨
    ∃ e, k.handle = .resolved (.error e) ∧ e ≠ .taskCancelled

/-- A poll does not go back to `is_cancelled`. -/
theorem missed_of_move {a : Act F} (hc : s.Cells) (m : Move B s a s') (h : Missed (s.tasks t)) :
    Missed (s'.tasks t) := by
  have hnew : t ≠ s.next :=
    (hc.lt_of_handle (by rcases h with hh | hh | ⟨e, hh, -⟩ <;> rw [hh] <;> nofun)).ne
  have hchange := handleChange_of_change (taskChange_of_move m t)
  generalize s'.tasks t = k at hchange
  cases hchange with
  | same hh => simpa only [Missed, hh] using h
  | accept ht | reject ht => exact absurd ht hnew
  | pollStart hp =>
    rcases hp with hp | hp <;> rcases h with hh | hh | ⟨e, hh, -⟩ <;> cases hp.symm.trans hh
  | poll hm =>
    obtain ⟨pc, hp⟩ := hm.spawned
    rcases h with hh | hh | ⟨e, hh, -⟩
    · cases hm with
      | aborted => exact .inr (.inr ⟨.workerAborted, rfl, nofun⟩)
      | cancelled => exact .inr (.inr ⟨.workerCancelled, rfl, nofun⟩)
      | shutdown => exact .inr (.inr ⟨.runtimeShutdown, rfl, nofun⟩)
      | panicked => exact .inr (.inl rfl)
      | panicRx hq | panicRxReady hq | resultRx hq | resultRxReady hq | isCancelled hq | notCancelled hq
      | panicMsg hq | pendingCancel hq | pending hq | cancelDone hq | cancelFailed hq | cancel hq =>
        cases hq.symm.trans hh
    · cases hm with
      | panicMsg => exact .inr (.inr ⟨.prevTaskPanic _, rfl, nofun⟩)
      | panicRx hq | panicRxReady hq | resultRx hq | resultRxReady hq | isCancelled hq | notCancelled hq
      | aborted hq | cancelled hq | panicked hq | shutdown hq | pendingCancel hq | pending hq | cancelDone hq
      | cancelFailed hq | cancel hq => cases hq.symm.trans hh
    · cases hp.symm.trans hh
  | unspawned hu =>
    have hm := rejectMove_of_unspawned hu
    rcases h with hh | hh | ⟨e, hh, -⟩
    · exact absurd hh (hm.not_spawned _)
    · exact absurd hh (hm.not_spawned _)
    · exact absurd hh (hm.not_resolved _)

theorem missed_of_run (h : Reachable B v₀ s₁) (hr : Run B Runs.Any s₁ s₂) (hm : Missed (s₁.tasks t)) :
    Missed (s₂.tasks t) :=
  hr.invariant hm fun _ _ _ hu hP _ hs =>
    missed_of_move (inv_of_reachable (h.trans hu)).cells (move_of_step hs) hP

/-- A `cancel()` call that has recorded its task as cancelled is done. -/
theorem done_of_isCancelled (h : Reachable B v₀ s) {i : ℕ} {c : CancelPc} (hic : (s.tasks t).isCancelled = true)
    (ht : (s.tasks t).takers = [.canceller i]) (hi : s.cancels i = .run t c) : c = .done true := by
  refine h.invariant (P := fun u => ∀ c, (u.tasks t).isCancelled = true → (u.tasks t).takers = [.canceller i] →
    u.cancels i = .run t c → c = .done true) nofun (fun u v a hr hP _ hs c hic ht hi => ?_) c hic ht hi
  have hu := inv_of_reachable hr
  have m := move_of_step hs
  have hcall := callChange_of_move m i
  by_cases hold : (u.tasks t).isCancelled = true
  · -- it was recorded before, so nobody takes the task now
    have htu : (u.tasks t).takers = [.canceller i] := by
      rcases hu.cells.takers_cases (taskChange_of_move m t) with hsame | ⟨hnil, -⟩
      · exact hsame ▸ ht
      · rcases hu.handles.isCancelled t hold with ⟨j, hj⟩ | hj <;> cases hnil.symm.trans hj
    obtain ⟨c₀, hc₀, -⟩ := hu.cells.canceller t i htu
    obtain rfl := hP c₀ hold htu hc₀
    generalize v.cancels i = x at hcall hi
    cases hcall with
    | same => cases hc₀.symm.trans hi; rfl
    | start hj | startRejected hj | running hj | notRunning hj => cases hc₀.symm.trans hj
    | run hj hm => cases hc₀.symm.trans hj; cases hm
  · have hchange := taskChange_of_move m t
    generalize v.tasks t = k at hchange hic ht
    cases hchange with
    | accept | reject => cases hic
    | call hj hj' hm =>
      cases hm with
      | store =>
        cases (hu.cells.call _ t _ hj rfl).symm.trans ht
        cases hj'.symm.trans hi
        rfl
      | upgrade | upgradeFailed | take | takeFailed | dropRaw | dropPanicTx => exact absurd hic hold
    | poll hm =>
      cases hm with
      | cancel hh hm =>
        cases hm with
        | store => cases (hu.cells.handle t _ hh rfl).symm.trans ht
        | upgrade | upgradeFailed | take | takeFailed | dropRaw | dropPanicTx => exact absurd hic hold
      | _ => exact absurd hic hold
    | _ => exact absurd hic hold

/-- A load of `is_cancelled` that comes too early is in vain. -/
theorem missed_of_step {a : Act F} (h : Reachable B v₀ s) (hs : Sys.step B s a = some s')
    (hC : s.recordedInTime a = false) : ∃ t i, (s'.tasks t).takers = [.canceller i] ∧ Missed (s'.tasks t) := by
  have hi := inv_of_reachable h
  have m := move_of_step hs
  cases a with
  | pollStep t b =>
    obtain ⟨hh, hmid⟩ : (s.tasks t).handle = .spawned .isCancelled ∧ s.cancelMidway t = true := by
      simp only [recordedInTime, Bool.or_eq_false_iff, Bool.not_eq_false'] at hC
      refine ⟨?_, hC.2⟩
      have hpc := hC.1
      split at hpc
      · assumption
      · cases hpc
    obtain ⟨i, u, c, ht, hcall, hc⟩ : ∃ i u c, (s.tasks t).takers = [.canceller i] ∧ s.cancels i = .run u c ∧
        c.midway = true := by
      obtain ⟨x, hx, hmid⟩ := List.any_eq_true.mp hmid
      have hone := (hi.cells.cell t).one
      split at hmid
      · rename_i i
        split at hmid
        · rename_i u c hcall
          refine ⟨i, u, c, ?_, hcall, hmid⟩
          match htk : (s.tasks t).takers with
          | [] => simp [htk] at hx
          | [y] => simpa [htk, eq_comm] using hx
          | _ :: _ :: _ => simp [htk] at hone
        · cases hmid
      · cases hmid
    have hic : (s.tasks t).isCancelled = false := by
      by_contra hic
      obtain ⟨c₀, hc₀, -⟩ := hi.cells.canceller t i ht
      cases hcall.symm.trans hc₀
      cases done_of_isCancelled h (Bool.not_eq_false _ |>.mp hic) ht hcall
      cases hc
    have hstep : s.pollStep t b = some (s.setHandle t (.spawned .flag)) := by
      simp [pollStep, hh, pollStepAt, hic]
    cases hstep.symm.trans hs
    exact ⟨t, i, by simpa [Task.setHandle] using ht, .inl (by simp [Task.setHandle])⟩
  | _ => cases hC

/-- **A successful cancel is reported as such where it is recorded in time**: in a
run in which no poll loads `is_cancelled` between the drops and the store of a
`cancel()` call. A call returns true exactly when it took the task; the handle of
such a task resolves to `TaskCancelled` only, and no other handle does. And a load
that does come in between is fatal: the handle of that task never reports
`TaskCancelled`, however the run goes on. -/
theorem cancel_is_reported (B : Bodies S F R PanicPayload) (v₀ : S) :
    (∀ s, Run B (fun s a => s.recordedInTime a = true) (init v₀) s →
      (∀ t i, (s.tasks t).takers = [.canceller i] → s.cancels i ≠ .run t (.done false) ∧
        ∀ res, (s.tasks t).handle = .resolved res → res = .error .taskCancelled) ∧
      (∀ t i, s.cancels i = .run t (.done true) → (s.tasks t).takers = [.canceller i]) ∧
      ∀ t, (s.tasks t).handle = .resolved (.error .taskCancelled) → ∃ i, (s.tasks t).takers = [.canceller i]) ∧
    ∀ s a s', Reachable B v₀ s → Sys.step B s a = some s' → s.recordedInTime a = false →
      ∃ t i, (s'.tasks t).takers = [.canceller i] ∧
        ∀ s'', Run B Runs.Any s' s'' → (s''.tasks t).handle ≠ .resolved (.error .taskCancelled) := by
  constructor
  · intro s hr
    have hi := (inv_init v₀).run hr
    refine ⟨fun t i ht => ⟨fun hdone => ?_, (reported_of_run hr t i ht).2.2⟩, fun t i hdone => ?_, fun t hh => ?_⟩
    · obtain ⟨c, hc, htook⟩ := hi.cells.canceller t i ht
      cases hc.symm.trans hdone
      cases htook
    · exact hi.cells.call i t _ hdone rfl
    · by_cases hacc : (s.tasks t).cancellable = true
      · rcases hi.handles.isCancelled t (hi.handles.resolved t _ hh hacc).2 with hc | hw
        · exact hc
        · rcases hi.handles.taker t hw with ⟨c, hc, -⟩ | hc <;> cases hc.symm.trans hh
      · obtain ⟨reason, hreason, -⟩ := hi.handles.rejected t _ hh (Bool.eq_false_iff.mpr hacc)
        cases reason <;> cases hreason
  · intro s a s' h hs hC
    obtain ⟨t, i, ht, hmiss⟩ := missed_of_step h hs hC
    refine ⟨t, i, ht, fun s'' hr hh => ?_⟩
    rcases missed_of_run (h.tail trivial hs) hr hmiss with hk | hk | ⟨e, hk, he⟩
    · cases hk.symm.trans hh
    · cases hk.symm.trans hh
    · cases hk.symm.trans hh
      exact he rfl

/-- A `cancel()` call goes through, and then the handle is polled. -/
def demoCancelled : Sys ℕ ℕ ℕ := (demoExecIf recordedInTime
  [(1, .spawn .worker (.async 0)), (1, .cancel 0 0), (6, .cancelStep 0), (1, .poll 0),
    (3, .pollStep 0 .left)]).get rfl

theorem demoCancelled_run : Run demo (fun s a => s.recordedInTime a = true) (init 0) demoCancelled := demo_run rfl

theorem cancel_is_reported_demo : (demoCancelled.tasks 0).handle = .resolved (.error .taskCancelled) ∧
    ∃ i, (demoCancelled.tasks 0).takers = [.canceller i] :=
  ⟨rfl, ((cancel_is_reported demo 0).1 demoCancelled demoCancelled_run).2.2 0 rfl⟩

/-- The handle is polled between the drops of a `cancel()` call and its store. -/
def demoMisreported : Sys ℕ ℕ ℕ := (demoExec
  [(1, .spawn .worker (.async 0)), (1, .cancel 0 0), (5, .cancelStep 0), (1, .poll 0), (4, .pollStep 0 .left),
    (1, .cancelStep 0)]).get rfl

theorem demoMisreported_reachable : Reachable demo 0 demoMisreported := demo_reachable rfl

/-- The handle of a task that was cancelled by a call that returned true can report a
shutdown of the runtime. -/
theorem cancel_misreported : ¬ ∀ (s : Sys ℕ ℕ ℕ) (t i : ℕ) (res : Except TaskError ℕ), Reachable demo 0 s →
    s.cancels i = .run t (.done true) → (s.tasks t).handle = .resolved res → res = .error .taskCancelled := by
  intro hall
  have h := hall demoMisreported 0 0 (.error .runtimeShutdown) demoMisreported_reachable rfl rfl
  cases h

end Sys

end AsyncSequential
