import AsyncSequential.Lost

/-!
# Who is woken

A poll that returned `Pending` has had its waker registered with both channels that are
not closed, or woken, so whoever sends or drops a sender wakes it. But a poll of the
handle also looks at the worker's flag, and setting that wakes nobody: a handle that
waits while its task is queued sleeps on when the worker is cancelled, though a poll
would now take the task and be ready.
-/

namespace AsyncSequential

variable {S F R : Type*}

namespace Sys

variable {B : Bodies S F R PanicPayload} {v₀ : S} {s s' : Sys S F R} {t : ℕ}

/-! ### Handles that wait -/

/-- The handle of `t` waits: its last poll returned `Pending`, and its waker has not been woken since. -/
def waits (s : Sys S F R) (t : ℕ) : Bool :=
  ((s.tasks t).handle matches .spawned .pending) && !decide (s.tasks t).receiver.Woken

theorem waits_iff : s.waits t = true ↔ (s.tasks t).handle = .spawned .pending ∧ ¬ (s.tasks t).receiver.Woken := by
  rw [waits, Bool.and_eq_true, Bool.not_eq_true', decide_eq_false_iff_not]
  refine and_congr ⟨fun h => ?_, fun h => by rw [h]⟩ Iff.rfl
  split at h
  · assumption
  · cases h

/-- A poll of a handle that waits would find nothing sent, and not both channels closed. -/
theorem quiet_of_waits (h : Reachable B v₀ s) (hw : s.waits t = true) :
    (∀ e, (s.tasks t).panicTx ≠ .sent e) ∧ (∀ r, (s.tasks t).resultTx ≠ .sent r) ∧ ¬ (s.tasks t).Closed := by
  obtain ⟨hh, hn⟩ := waits_iff.mp hw
  have hx := receiverAt_iff.mp ((inv_of_reachable h).handles.receiver t _ hh)
  have hquiet := (wakers_of_reachable h t _ hh).quiet hx hn
  exact ⟨fun e he => hquiet _ (.panic he), fun r hr => hquiet _ (.result hr),
    fun hc => hquiet _ (.closed hc.2 hc.1)⟩

/-- A handle that waits waited before, or its poll has just found the worker not cancelled, or
failed to cancel its task. -/
theorem waits_of_move {a : Act F} (m : Move B s a s') (hw : s'.waits t = true) :
    s.waits t = true ∨ (s.tasks t).handle = .spawned .pendingFlag ∧ s.flag ≠ some .cancelStarted ∨
      (s.tasks t).handle = .spawned (.cancel (.done false)) := by
  rw [waits_iff] at hw ⊢
  obtain ⟨hh, hn⟩ := hw
  have hchange := taskChange_of_move m t
  generalize s'.tasks t = k at hchange hh hn
  cases hchange with
  | same | take | skip | release | dealloc => exact .inl ⟨hh, hn⟩
  | accept | pollStart => cases hh
  | reject _ _ hr => rcases hr with ⟨via, rfl, -⟩ | rfl <;> cases hh
  | sendResult => exact .inl ⟨hh, fun hc => hn (hc.imp (·.send _) id)⟩
  | closeResult => exact .inl ⟨hh, fun hc => hn (hc.imp (·.close) id)⟩
  | closePanic => exact .inl ⟨hh, fun hc => hn (hc.imp id (·.close))⟩
  | sendPanic => exact .inl ⟨hh, fun hc => hn (hc.imp id (·.send _))⟩
  | call _ _ hm =>
    cases hm with
    | dropRaw => exact .inl ⟨hh, fun hc => hn (hc.imp (·.close) id)⟩
    | dropPanicTx => exact .inl ⟨hh, fun hc => hn (hc.imp id (·.close))⟩
    | _ => exact .inl ⟨hh, hn⟩
  | poll hm =>
    cases hm with
    | pending hp hf hfl => exact .inr (.inl ⟨hp, fun hc => hfl (Option.some.inj (hf.symm.trans hc))⟩)
    | cancelFailed hp => exact .inr (.inr hp)
    | panicRxReady | resultRxReady => cases (ofReady_eq_spawned.mp hh).2
    | _ => cases hh
  | unspawned hp => cases rejectMove_of_unspawned hp <;> cases hh

/-- A poll cancels its task in vain when the cell is not full. -/
theorem not_full_of_cancelFailed (h : Reachable B v₀ s) (hh : (s.tasks t).handle = .spawned (.cancel (.done false))) :
    ¬ (s.tasks t).repr.Full := by
  refine h.invariant (P := fun u => (u.tasks t).handle = .spawned (.cancel (.done false)) → ¬ (u.tasks t).repr.Full)
    nofun (fun u v a hr hP _ hs hh => ?_) hh
  have hi := inv_of_reachable hr
  have m := move_of_step hs
  have hback : ∀ {pc}, (u.tasks t).handle = .spawned pc → (v.tasks t).repr.Full → (u.tasks t).repr.Full :=
    fun hp => hi.full_of_move m ((hi.ending.accepted t).mpr (hi.handles.unspawned t _ hp))
  rcases (handleChange_of_change (taskChange_of_move m t)).pollMove hh nofun nofun with hold | ⟨b, g, hm, he⟩
  · exact fun hk => hP hold (hback hold hk)
  · rw [he] at hh ⊢
    cases hm with
    | cancel hp hm =>
      cases hh
      cases hm with
      | upgradeFailed ho => exact fun hk => ((hi.cells.cell t).full hk).2.ne_empty ho
      | takeFailed => exact OnceTake.not_full_take _
    | panicRxReady | resultRxReady => cases (ofReady_eq_spawned.mp hh).2
    | _ => cases hh

/-! ### What a cancel forgets -/

/-- The step sets the flag to `CancelStarted` while the handle of a task that can still be taken waits. -/
def forgetsWaker (s : Sys S F R) (a : Act F) : Bool :=
  s.setsCancel a && (List.range s.next).any fun t => s.waits t && decide (s.tasks t).repr.Full

/-- No wake-up is lost: where a handle waits, a poll would return `Pending` again, whatever budget there is. -/
def NoLostWakeup (B : Bodies S F R PanicPayload) (s : Sys S F R) : Prop :=
  ∀ t, s.waits t = true → ∀ bs, PollReturns B bs s t (.spawned .pending)

theorem forgetsWaker_iff {a : Act F} (h : Inv B v₀ s) : s.forgetsWaker a = true ↔
    s.setsCancel a = true ∧ ∃ t, s.waits t = true ∧ (s.tasks t).repr.Full := by
  rw [forgetsWaker, Bool.and_eq_true, List.any_eq_true]
  refine and_congr_right fun _ => exists_congr fun t => ?_
  rw [Bool.and_eq_true, decide_eq_true_eq, List.mem_range]
  refine and_iff_right_of_imp fun hw => h.cells.lt_of_handle ?_
  rw [(waits_iff.mp hw.1).1]
  nofun

/-- Where no waker is forgotten, nobody waits for a task that a poll would take. -/
theorem not_full_of_waits (hr : Run B (fun s a => s.forgetsWaker a = false) (init v₀) s) (hw : s.waits t = true)
    (hf : s.flag = some .cancelStarted) : ¬ (s.tasks t).repr.Full := by
  refine hr.invariant (P := fun u => u.waits t = true → u.flag = some .cancelStarted → ¬ (u.tasks t).repr.Full)
    nofun (fun u v a hu hP hC hs hw hf hk => ?_) hw hf
  have hi := (inv_init v₀).run hu
  have m := move_of_step hs
  have hback : ∀ {pc}, (u.tasks t).handle = .spawned pc → (u.tasks t).repr.Full := fun hp =>
    hi.full_of_move m ((hi.ending.accepted t).mpr (hi.handles.unspawned t _ hp)) hk
  rcases waits_of_move m hw with hwu | ⟨hp, hne⟩ | hp
  · have hfull := hback (waits_iff.mp hwu).1
    rcases hi.setsCancel_of_move m hf with hfu | ⟨hset, -⟩
    · exact hP hwu hfu hfull
    · cases hC.symm.trans ((forgetsWaker_iff hi).mpr ⟨hset, t, hwu, hfull⟩)
  · -- a poll that has just seen the flag is no step of the worker handle
    obtain ⟨hset, -⟩ := (hi.setsCancel_of_move m hf).resolve_left hne
    have ha : ∀ b, a ≠ .pollStep t b := by
      rintro b rfl
      cases hset
    rcases hi.cells.handle_of_move m hp ha with hv | ⟨hpc, -⟩
    · cases hv.symm.trans (waits_iff.mp hw).1
    · rcases hpc with hpc | hpc <;> cases hpc
  · exact not_full_of_cancelFailed hu.any hp (hback hp)

/-- A step that forgets a waker leaves its handle asleep. -/
theorem lostWakeup_of_step {a : Act F} (h : Reachable B v₀ s) (hs : Sys.step B s a = some s')
    (hf : s.forgetsWaker a = true) : ¬ s'.NoLostWakeup B := by
  have hi := inv_of_reachable h
  obtain ⟨hset, t, hw, hk⟩ := (forgetsWaker_iff hi).mp hf
  have hi' := hi.step hs
  have hreach : Reachable B v₀ s' := h.tail trivial hs
  obtain ⟨hflag, htasks, -⟩ := flag_of_setsCancel (move_of_step hs) hset
  have hw' : s'.waits t = true := by rwa [waits, htasks]
  have hk' : (s'.tasks t).repr.Full := by rwa [htasks]
  have hh := (waits_iff.mp hw').1
  obtain ⟨hp, hr, hc⟩ := quiet_of_waits hreach hw'
  have hready : PollReturns B unspent s' t (.resolved (.error .workerCancelled)) :=
    pollReturns_cancelled unspent (.inr hh) (hi'.handles.receiver t _ hh) hp hr hc hflag
      ((hi'.cells.cell t).full hk').2 hk'
  intro hn
  cases (hn t hw' unspent).unique hready (.inl rfl) (.inr ⟨_, rfl⟩)

/-- **No wake-up is lost but by a cancel that forgets one**: along a run in which the
flag is never set to `CancelStarted` while the handle of a task that can still be
taken waits, wherever a handle waits a poll would return `Pending` again; and a step
that does set it so leaves a handle asleep that a poll would find ready. -/
theorem no_lost_wakeup (B : Bodies S F R PanicPayload) (v₀ : S) :
    (∀ s, Run B (fun s a => s.forgetsWaker a = false) (init v₀) s → s.NoLostWakeup B) ∧
    ∀ s a s', Reachable B v₀ s → Sys.step B s a = some s' → s.forgetsWaker a = true → ¬ s'.NoLostWakeup B := by
  refine ⟨fun s hr t hw bs => ?_, fun s a s' h hs hf => lostWakeup_of_step h hs hf⟩
  have h : Reachable B v₀ s := hr.any
  have hi := inv_of_reachable h
  have hh := (waits_iff.mp hw).1
  obtain ⟨hp, hsent, hc⟩ := quiet_of_waits h hw
  exact pollReturns_pending bs (.inr hh) (hi.handles.receiver t _ hh) hi.status.flag_ne_none hp hsent hc
    fun hf => not_full_of_waits hr hw hf

/-- A cancel while only the handle of the running task waits. -/
def demoAwake : Sys ℕ ℕ ℕ := (demoExecIf (fun s a => !s.forgetsWaker a)
  [(1, .spawn .worker (.async 2)), (1, .spawn .worker (.async 0)), (1, .pollWorker), (5, .worker), (1, .poll 0),
    (3, .pollStep 0 .left), (1, .consume .cancel), (2, .handle)]).get rfl

theorem demoAwake_run : Run demo (fun s a => s.forgetsWaker a = false) (init 0) demoAwake :=
  (demo_run (C := fun s a => !s.forgetsWaker a) rfl).mono fun _ _ hc => by simpa using hc

theorem no_lost_wakeup_demo : demoAwake.flag = some .cancelStarted ∧ demoAwake.waits 0 = true ∧
    ∀ bs, PollReturns demo bs demoAwake 0 (.spawned .pending) :=
  ⟨rfl, rfl, (no_lost_wakeup demo 0).1 demoAwake demoAwake_run 0 rfl⟩

/-- A cancel while the handle of a queued task waits. -/
def demoAsleep : Sys ℕ ℕ ℕ := (demoExec
  [(1, .spawn .worker (.async 2)), (1, .spawn .worker (.async 0)), (1, .pollWorker), (5, .worker), (1, .poll 1),
    (3, .pollStep 1 .left), (1, .consume .cancel), (2, .handle)]).get rfl

theorem demoAsleep_reachable : Reachable demo 0 demoAsleep := demo_reachable rfl

/-- The handle of a queued task sleeps on when the worker is cancelled, though a poll would be ready. -/
theorem cancel_forgets_waker : ¬ ∀ s : Sys ℕ ℕ ℕ, Reachable demo 0 s → ∀ t, s.waits t = true →
    PollReturns demo unspent s t (.spawned .pending) := by
  intro hall
  have hpending := hall demoAsleep demoAsleep_reachable 1 rfl
  have hready : PollReturns demo unspent demoAsleep 1 (.resolved (.error .workerCancelled)) :=
    ⟨_, rfl, 9, _, rfl, rfl⟩
  cases hpending.unique hready (.inl rfl) (.inr ⟨_, rfl⟩)

end Sys

end AsyncSequential
