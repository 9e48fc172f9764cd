import AsyncSequential.Faults

/-!
# What a poll comes to

First what a poll of a task handle comes to when nobody else moves until it returns.
The channels decide, and where they do not, the flag and the task's cell: a poll
that is not cut short returns `Ready` when a value or a panic was sent or both
senders are gone, and otherwise `Pending`, unless the worker was cancelled with the
body still in its cell. A poll that is cut short at a channel misses what that has
to say: it may return `Pending` where it would be ready, not the other way. Then what
a poll comes to while the others move on, when both senders have acted.
-/

namespace AsyncSequential

variable {S F R : Type*}

open OneShot (Tx)

/-- The step is one of the poll of task `t`'s handle that is in progress. -/
def Act.ofPoll (t : ℕ) : Act F → Bool
  | .pollStep u _ => u == t
  | _ => false

namespace Sys

variable {B : Bodies S F R PanicPayload} {v₀ : S} {bs : ℕ → Budget} {s s' s₁ : Sys S F R} {t : ℕ}
  {h : TaskHandle R}

/-- The budgets of a task that has not spent its own: its polls are not cut short. -/
abbrev unspent : ℕ → Budget := fun _ => .left

/-- The poll of task `t`'s handle that is in progress comes to `h` on its own, with
the budgets `bs` at its steps. -/
def PollGoes (B : Bodies S F R PanicPayload) (bs : ℕ → Budget) (s : Sys S F R) (t : ℕ) (h : TaskHandle R) : Prop :=
  ∃ n s', Runs.exec (step B) ((List.range n).map fun i => .pollStep t (bs i)) s = some s' ∧ (s'.tasks t).handle = h

/-- A poll of task `t`'s handle that begins now comes to `h` on its own, with the
budgets `bs` at its steps. -/
def PollReturns (B : Bodies S F R PanicPayload) (bs : ℕ → Budget) (s : Sys S F R) (t : ℕ) (h : TaskHandle R) : Prop :=
  ∃ s', step B s (.poll t) = some s' ∧ PollGoes B bs s' t h

theorem pollGoes_refl (hh : (s.tasks t).handle = h) : PollGoes B bs s t h := ⟨0, s, rfl, hh⟩

theorem pollGoes_step (hs : s.pollStep t (bs 0) = some s₁) (hg : PollGoes B (fun i => bs (i + 1)) s₁ t h) :
    PollGoes B bs s t h := by
  obtain ⟨n, s', he, hh⟩ := hg
  refine ⟨n + 1, s', ?_, hh⟩
  rw [List.range_succ_eq_map, List.map_cons, List.map_map, Runs.exec, step, hs]
  exact he

@[simp] theorem handle_setHandle (x : TaskHandle R) : ((s.setHandle t x).tasks t).handle = x := by
  simp [Task.setHandle]

/-- A step that moves the handle on to where the poll comes to. -/
theorem pollGoes_setHandle (hs : s.pollStep t (bs 0) = some (s.setHandle t h)) : PollGoes B bs s t h :=
  pollGoes_step hs (pollGoes_refl (handle_setHandle h))

/-- A poll comes to one end: when it has returned it does not go on. -/
theorem PollGoes.unique {h' : TaskHandle R} (hg : PollGoes B bs s t h) (hg' : PollGoes B bs s t h')
    (hh : h = .spawned .pending ∨ ∃ res, h = .resolved res)
    (hh' : h' = .spawned .pending ∨ ∃ res, h' = .resolved res) : h = h' := by
  have hrest : ∀ {u : Sys S F R},
      ((u.tasks t).handle = .spawned .pending ∨ ∃ res, (u.tasks t).handle = .resolved res) →
      ∀ i, step B u (.pollStep t (bs i)) = none := by
    rintro u (hu | ⟨res, hu⟩) i <;> simp only [step, pollStep, hu, pollStepAt]
  obtain ⟨n, u, hu, rfl⟩ := hg
  obtain ⟨n', u', hu', rfl⟩ := hg'
  rw [Runs.exec_range_unique hu hu' (hrest hh) (hrest hh')]

theorem PollReturns.unique {h' : TaskHandle R} (hg : PollReturns B bs s t h) (hg' : PollReturns B bs s t h')
    (hh : h = .spawned .pending ∨ ∃ res, h = .resolved res)
    (hh' : h' = .spawned .pending ∨ ∃ res, h' = .resolved res) : h = h' := by
  obtain ⟨s₁, hs₁, hg⟩ := hg
  obtain ⟨s₁', hs₁', hg'⟩ := hg'
  cases hs₁.symm.trans hs₁'
  exact hg.unique hg' hh hh'

/-! ### Both senders are gone -/

/-- A poll that looks for a cause in the flag resolves. -/
theorem pollGoes_flag (hh : (s.tasks t).handle = .spawned .flag) (hf : s.flag ≠ none) :
    ∃ res, PollGoes B bs s t (.resolved res) := by
  obtain ⟨fl, hfl⟩ := Option.ne_none_iff_exists'.mp hf
  cases fl with
  | abortStarted =>
    exact ⟨.error .workerAborted, pollGoes_setHandle (by simp only [pollStep, hh, pollStepAt, hfl])⟩
  | cancelStarted =>
    exact ⟨.error .workerCancelled, pollGoes_setHandle (by simp only [pollStep, hh, pollStepAt, hfl])⟩
  | runningOrRuntimeShutdown =>
    exact ⟨.error .runtimeShutdown, pollGoes_setHandle (by simp only [pollStep, hh, pollStepAt, hfl])⟩
  | taskPanicked =>
    have hread : s.pollStep t (bs 0) = some (s.setHandle t (.spawned .panicMsg)) := by
      simp only [pollStep, hh, pollStepAt, hfl]
    refine ⟨.error (.prevTaskPanic s.status.panicMsg), pollGoes_step hread (pollGoes_setHandle ?_)⟩
    simp only [pollStep, handle_setHandle, pollStepAt]
    rfl

/-- A poll that has found both channels closed resolves. -/
theorem pollGoes_isCancelled (hh : (s.tasks t).handle = .spawned .isCancelled) (hf : s.flag ≠ none) :
    ∃ res, PollGoes B bs s t (.resolved res) := by
  by_cases hc : (s.tasks t).isCancelled = true
  · exact ⟨.error .taskCancelled, pollGoes_setHandle (by simp only [pollStep, hh, pollStepAt, if_pos hc])⟩
  · have hload : s.pollStep t (bs 0) = some (s.setHandle t (.spawned .flag)) := by
      simp only [pollStep, hh, pollStepAt, if_neg hc]
    obtain ⟨res, hg⟩ : ∃ res, PollGoes B (fun i => bs (i + 1)) (s.setHandle t (.spawned .flag)) t (.resolved res) :=
      pollGoes_flag (handle_setHandle _) hf
    exact ⟨res, pollGoes_step hload hg⟩

/-! ### Neither a value nor both senders gone -/

/-- A poll that finds the worker not cancelled waits. -/
theorem pollGoes_pendingFlag (hh : (s.tasks t).handle = .spawned .pendingFlag) (hf : s.flag ≠ none)
    (hne : s.flag ≠ some .cancelStarted) : PollGoes B bs s t (.spawned .pending) := by
  obtain ⟨fl, hfl⟩ := Option.ne_none_iff_exists'.mp hf
  refine pollGoes_setHandle ?_
  rw [hfl] at hne
  cases fl with
  | cancelStarted => exact absurd rfl hne
  | abortStarted | taskPanicked | runningOrRuntimeShutdown => simp only [pollStep, hh, pollStepAt, hfl]

/-- A poll that is cancelling its task goes on. -/
theorem pollGoes_cancel {c c' : CancelPc} (hh : (s.tasks t).handle = .spawned (.cancel c))
    (hc : s.cancelImpl t .handle .handle c = some (s₁, c'))
    (hg : PollGoes B (fun i => bs (i + 1)) (s₁.setHandle t (.spawned (.cancel c'))) t h) : PollGoes B bs s t h := by
  refine pollGoes_step ?_ hg
  cases c with
  | done did => cases hc
  | upgrade | take | dropRaw | dropPanicTx | store => simp only [pollStep, hh, pollStepAt, hc, Option.map_some]

theorem cancelImpl_upgrade {o : Owner} {x : Taker} (ho : (s.tasks t).owners.Nonempty) :
    s.cancelImpl t o x .upgrade = some (s.modTask t (·.share o), .take) := if_pos ho

theorem cancelImpl_take {o : Owner} {x : Taker} (hk : (s.tasks t).repr.Full) :
    s.cancelImpl t o x .take = some (s.modTask t (·.takenBy x), .dropRaw) := by
  obtain ⟨raw, htake⟩ := Option.isSome_iff_exists.mp ((OnceTake.take_isSome _).mpr hk)
  simp only [cancelImpl, htake]

/-- A poll that cancels its task in vain waits. -/
theorem pollGoes_cancelFailed (hh : (s.tasks t).handle = .spawned (.cancel (.done false))) :
    PollGoes B bs s t (.spawned .pending) :=
  pollGoes_setHandle (by simp only [pollStep, hh, pollStepAt])

/-- A poll that cannot take the body from the cell waits. -/
theorem pollGoes_take (hh : (s.tasks t).handle = .spawned (.cancel .take)) (hk : ¬ (s.tasks t).repr.Full) :
    PollGoes B bs s t (.spawned .pending) := by
  have htake : (s.tasks t).repr.take.1 = none := by
    rw [← Option.not_isSome_iff_eq_none, OnceTake.take_isSome]
    exact hk
  have hc : s.cancelImpl t .handle .handle .take =
      some (s.modTask t fun k => k.takeFailed.release .handle, .done false) := by
    simp only [cancelImpl, htake]
  exact pollGoes_cancel hh hc (pollGoes_cancelFailed (handle_setHandle _))

/-- A poll of a cancelled worker's task that somebody has taken waits. -/
theorem pollGoes_cancelled (hh : (s.tasks t).handle = .spawned .pendingFlag) (hf : s.flag = some .cancelStarted)
    (hk : ¬ (s.tasks t).repr.Full) : PollGoes B bs s t (.spawned .pending) := by
  have hstep : s.pollStep t (bs 0) = some (s.setHandle t (.spawned (.cancel .upgrade))) := by
    simp only [pollStep, hh, pollStepAt, hf]
  refine pollGoes_step hstep ?_
  by_cases ho : (s.tasks t).owners.Nonempty
  · refine pollGoes_cancel (handle_setHandle _) (cancelImpl_upgrade ?_) (pollGoes_take (handle_setHandle _) ?_)
    · simpa [Task.setHandle] using ho
    · simpa [Task.setHandle, Task.share] using hk
  · refine pollGoes_cancel (handle_setHandle _) (if_neg ?_) (pollGoes_cancelFailed (handle_setHandle _))
    simpa [Task.setHandle] using ho

/-- A poll that has taken its own task resolves. -/
theorem pollGoes_took (hh : (s.tasks t).handle = .spawned (.cancel .dropRaw)) :
    PollGoes B bs s t (.resolved (.error .workerCancelled)) := by
  refine pollGoes_cancel hh rfl ?_
  refine pollGoes_cancel (handle_setHandle _) rfl ?_
  refine pollGoes_cancel (handle_setHandle _) rfl ?_
  exact pollGoes_setHandle (by simp only [pollStep, handle_setHandle, pollStepAt])

/-- A poll of a cancelled worker's task that nobody has taken takes it. -/
theorem pollGoes_takes (hh : (s.tasks t).handle = .spawned .pendingFlag) (hf : s.flag = some .cancelStarted)
    (ho : (s.tasks t).owners.Nonempty) (hk : (s.tasks t).repr.Full) :
    PollGoes B bs s t (.resolved (.error .workerCancelled)) := by
  have hstep : s.pollStep t (bs 0) = some (s.setHandle t (.spawned (.cancel .upgrade))) := by
    simp only [pollStep, hh, pollStepAt, hf]
  refine pollGoes_step hstep (pollGoes_cancel (handle_setHandle _) (cancelImpl_upgrade ?_) ?_)
  · simpa [Task.setHandle] using ho
  refine pollGoes_cancel (handle_setHandle _) (cancelImpl_take ?_) (pollGoes_took (handle_setHandle _))
  simpa [Task.setHandle, Task.share] using hk

/-! ### The channels -/

/-- A poll has come to `pc` and left the task as it was, but for its receiver. -/
structure Polled (s : Sys S F R) (t : ℕ) (pc : PollPc) (s' : Sys S F R) : Prop where
  handle : (s'.tasks t).handle = .spawned pc
  status : s'.status = s.status
  repr : (s'.tasks t).repr = (s.tasks t).repr
  owners : (s'.tasks t).owners = (s.tasks t).owners
  resultTx : (s'.tasks t).resultTx = (s.tasks t).resultTx
  panicTx : (s'.tasks t).panicTx = (s.tasks t).panicTx
  receiver : ReceiverAt (s'.tasks t)

theorem Polled.trans {pc pc' : PollPc} (h : Polled s t pc s₁) (h' : Polled s₁ t pc' s') : Polled s t pc' s' where
  handle := h'.handle
  status := h'.status.trans h.status
  repr := h'.repr.trans h.repr
  owners := h'.owners.trans h.owners
  resultTx := h'.resultTx.trans h.resultTx
  panicTx := h'.panicTx.trans h.panicTx
  receiver := h'.receiver

/-- A poll goes on with a receiver whose senders are as before. -/
theorem polled_modTask {pc : PollPc} {x : TaskResultReceiver R} (hr : x.resultRx.tx = (s.tasks t).resultTx)
    (hp : x.panicRx.tx = (s.tasks t).panicTx) (hx : x.Unresolved) :
    Polled s t pc (s.modTask t fun k => { k with receiver := x, handle := .spawned pc }) := by
  constructor
  case receiver => exact receiverAt_iff.mpr (by simpa using hx)
  all_goals simp [Task.resultTx, Task.panicTx, hr, hp]

/-- A poll begins. -/
theorem pollStart_polled (hh : (s.tasks t).handle = .spawned .fresh ∨ (s.tasks t).handle = .spawned .pending)
    (hx : ReceiverAt (s.tasks t)) : ∃ s', step B s (.poll t) = some s' ∧ Polled s t .panicRx s' := by
  have hs : step B s (.poll t) =
      some (s.modTask t fun k => { k with receiver := (s.tasks t).receiver.renew, handle := .spawned .panicRx }) := by
    rcases hh with hh | hh <;> simp only [step, pollStart, hh] <;> simp [modTask]
  exact ⟨_, hs, polled_modTask rfl rfl (receiverAt_iff.mp hx).renew⟩

/-- A panic that was sent is delivered at once. -/
theorem pollGoes_taskPanic (hh : (s.tasks t).handle = .spawned .panicRx) (hx : ReceiverAt (s.tasks t))
    {p : PanicPayload} (hs : (s.tasks t).panicTx = .sent p) :
    PollGoes B unspent s t (.resolved (.error (.taskPanic p))) := by
  obtain ⟨⟨x, o⟩, hpoll⟩ := Option.ne_none_iff_exists'.mp (ReceiverAt.polled hx .left).1
  have ho : o = .ready (.error (some p)) := by
    cases TaskResultReceiver.panicPoll_of_eq hpoll with
    | ready hr => cases hs.symm.trans (hx.panicReady hr)
    | live _ ht | dropped _ ht => cases hs.symm.trans ht
    | sent _ ht => cases hs.symm.trans ht; rfl
  subst ho
  have hstep : s.pollStep t .left = some (s.modTask t fun k =>
      { k with receiver := x, handle := .resolved (.error (.taskPanic p)) }) := by
    simp only [pollStep, hh, pollStepAt, hpoll, ofReady]
  exact pollGoes_step hstep (pollGoes_refl (by simp))

/-- The first half of a poll, when no panic was sent. -/
theorem pollStep_panicRx (b : Budget) (hh : (s.tasks t).handle = .spawned .panicRx) (hx : ReceiverAt (s.tasks t))
    (hs : ∀ p, (s.tasks t).panicTx ≠ .sent p) :
    ∃ s', s.pollStep t b = some s' ∧ Polled s t .resultRx s' ∧
      ((s'.tasks t).receiver.panicRxReady = true → (s.tasks t).panicTx = .dropped) ∧
      (b = .left → (s.tasks t).panicTx = .dropped → (s'.tasks t).receiver.panicRxReady = true) := by
  obtain ⟨⟨x, o⟩, hpoll⟩ := Option.ne_none_iff_exists'.mp (ReceiverAt.polled hx b).1
  have hkind := TaskResultReceiver.panicPoll_of_eq hpoll
  obtain ⟨hrt, hpt⟩ := hkind.tx
  obtain rfl : o = .pending := by
    cases hkind with
    | sent _ ht => exact absurd ht (hs _)
    | ready | live | dropped | cut => rfl
  have hx' := (receiverAt_iff.mp hx).panicPoll hkind
  have hready : b = .left → (s.tasks t).panicTx = .dropped → x.panicRxReady = true := by
    rintro rfl hd
    cases hkind with
    | ready hr => exact hr
    | live _ ht => cases hd.symm.trans ht
    | dropped => rfl
  have hdropped : x.panicRxReady = true → (s.tasks t).panicTx = .dropped := fun hr =>
    hpt.symm.trans (hx'.panicReady hr)
  refine ⟨s.modTask t fun k => { k with receiver := x, handle := .spawned .resultRx }, ?_,
    polled_modTask hrt hpt hx', by simpa using hdropped, by simpa using hready⟩
  simp only [pollStep, hh, pollStepAt, hpoll]

/-- A value that was sent is delivered. -/
theorem pollGoes_ok (hh : (s.tasks t).handle = .spawned .resultRx) (hx : ReceiverAt (s.tasks t)) {r : R}
    (hs : (s.tasks t).resultTx = .sent r) : PollGoes B unspent s t (.resolved (.ok r)) := by
  obtain ⟨⟨x, o⟩, hpoll⟩ := Option.ne_none_iff_exists'.mp (ReceiverAt.polled hx .left).2
  have ho : o = .ready (.ok r) := by
    cases TaskResultReceiver.resultPoll_of_eq hpoll with
    | ready hr _ => cases hs.symm.trans (hx.resultReady hr)
    | live _ ht | dropped _ ht _ => cases hs.symm.trans ht
    | sent _ ht => cases hs.symm.trans ht; rfl
  subst ho
  have hstep : s.pollStep t .left =
      some (s.modTask t fun k => { k with receiver := x, handle := .resolved (.ok r) }) := by
    simp only [pollStep, hh, pollStepAt, hpoll, ofReady]
  exact pollGoes_step hstep (pollGoes_refl (by simp))

/-- The second half of a poll, when no value was sent. -/
theorem pollStep_resultRx (b : Budget) (hh : (s.tasks t).handle = .spawned .resultRx) (hx : ReceiverAt (s.tasks t))
    (hs : ∀ r, (s.tasks t).resultTx ≠ .sent r) :
    ∃ s' pc, s.pollStep t b = some s' ∧ Polled s t pc s' ∧
      (((s.tasks t).resultTx = .dropped ∧ (s.tasks t).receiver.panicRxReady = true) ∧ pc = .isCancelled ∨
        (b = .left → ¬ ((s.tasks t).resultTx = .dropped ∧ (s.tasks t).receiver.panicRxReady = true)) ∧
          pc = .pendingFlag) := by
  obtain ⟨⟨x, o⟩, hpoll⟩ := Option.ne_none_iff_exists'.mp (ReceiverAt.polled hx b).2
  have hkind := TaskResultReceiver.resultPoll_of_eq hpoll
  obtain ⟨hrt, hpt⟩ := hkind.tx
  have ho : ((s.tasks t).resultTx = .dropped ∧ (s.tasks t).receiver.panicRxReady = true) ∧ o = .ready (.error none) ∨
      (b = .left → ¬ ((s.tasks t).resultTx = .dropped ∧ (s.tasks t).receiver.panicRxReady = true)) ∧ o = .pending := by
    cases hkind with
    | sent _ ht => exact absurd ht (hs _)
    | live _ ht =>
      refine .inr ⟨fun _ hc => ?_, rfl⟩
      cases hc.1.symm.trans ht
    | cut =>
      refine .inr ⟨fun hb => ?_, rfl⟩
      cases hb
    | ready hr ho =>
      split_ifs at ho with hp
      · exact .inl ⟨⟨hx.resultReady hr, hp⟩, ho⟩
      · exact .inr ⟨fun _ hc => hp hc.2, ho⟩
    | dropped _ hd ho =>
      split_ifs at ho with hp
      · exact .inl ⟨⟨hd, hp⟩, ho⟩
      · exact .inr ⟨fun _ hc => hp hc.2, ho⟩
  have hx' : (∀ r, o ≠ .ready (.ok r)) → x.Unresolved := (receiverAt_iff.mp hx).resultPoll hkind
  rcases ho with ⟨hc, rfl⟩ | ⟨hc, rfl⟩
  · refine ⟨s.modTask t fun k => { k with receiver := x, handle := .spawned .isCancelled }, _, ?_,
      polled_modTask hrt hpt (hx' (by simp)), .inl ⟨hc, rfl⟩⟩
    simp only [pollStep, hh, pollStepAt, hpoll, ofReady]
  · refine ⟨s.modTask t fun k => { k with receiver := x, handle := .spawned .pendingFlag }, _, ?_,
      polled_modTask hrt hpt (hx' (by simp)), .inr ⟨hc, rfl⟩⟩
    simp only [pollStep, hh, pollStepAt, hpoll]

/-- A poll that finds nothing sent goes on to the causes when it has seen both senders gone, and to the
flag otherwise; when it is not cut short it does see them. -/
theorem polled_of_start (bs : ℕ → Budget)
    (hh : (s.tasks t).handle = .spawned .fresh ∨ (s.tasks t).handle = .spawned .pending)
    (hx : ReceiverAt (s.tasks t)) (hp : ∀ p, (s.tasks t).panicTx ≠ .sent p)
    (hr : ∀ r, (s.tasks t).resultTx ≠ .sent r) :
    ∃ s' pc, Polled s t pc s' ∧
      ((s.tasks t).Closed ∧ pc = .isCancelled ∨
        (bs 0 = .left → bs 1 = .left → ¬ (s.tasks t).Closed) ∧ pc = .pendingFlag) ∧
      ∀ h, PollGoes B (fun i => bs (i + 2)) s' t h → PollReturns B bs s t h := by
  obtain ⟨s₁, hs₁, h₁⟩ := pollStart_polled (B := B) hh hx
  obtain ⟨s₂, hs₂, h₂, hd, hl⟩ := pollStep_panicRx (bs 0) h₁.handle h₁.receiver (by simpa [h₁.panicTx] using hp)
  obtain ⟨s₃, pc, hs₃, h₃, hpc⟩ :=
    pollStep_resultRx (bs 1) h₂.handle h₂.receiver (by simpa [h₂.resultTx, h₁.resultTx] using hr)
  rw [h₁.panicTx] at hd hl
  rw [h₂.resultTx, h₁.resultTx] at hpc
  refine ⟨s₃, pc, (h₁.trans h₂).trans h₃, ?_, fun h hg => ⟨s₁, hs₁, pollGoes_step hs₂ (pollGoes_step hs₃ hg)⟩⟩
  exact hpc.imp (fun ⟨hc, he⟩ => ⟨⟨hc.1, hd hc.2⟩, he⟩)
    fun ⟨hc, he⟩ => ⟨fun hb₀ hb₁ hk => hc hb₁ ⟨hk.1, hl hb₀ hk.2⟩, he⟩

/-! ### A whole poll -/

/-- Where a value was sent, and no panic, a poll delivers it. -/
theorem pollReturns_ok (hh : (s.tasks t).handle = .spawned .fresh ∨ (s.tasks t).handle = .spawned .pending)
    (hx : ReceiverAt (s.tasks t)) (hp : ∀ p, (s.tasks t).panicTx ≠ .sent p) {r : R}
    (hr : (s.tasks t).resultTx = .sent r) : PollReturns B unspent s t (.resolved (.ok r)) := by
  obtain ⟨s₁, hs₁, h₁⟩ := pollStart_polled (B := B) hh hx
  obtain ⟨s₂, hs₂, h₂, -⟩ := pollStep_panicRx .left h₁.handle h₁.receiver (by simpa [h₁.panicTx] using hp)
  exact ⟨s₁, hs₁, pollGoes_step hs₂ (pollGoes_ok h₂.handle h₂.receiver (by rw [h₂.resultTx, h₁.resultTx, hr]))⟩

/-- Where both channels are terminal a poll that is not cut short is ready. -/
theorem pollReturns_resolved (hh : (s.tasks t).handle = .spawned .fresh ∨ (s.tasks t).handle = .spawned .pending)
    (hx : ReceiverAt (s.tasks t)) (hf : s.flag ≠ none) (hp : (s.tasks t).panicTx ≠ .live)
    (hr : (s.tasks t).resultTx ≠ .live) : ∃ res, PollReturns B unspent s t (.resolved res) := by
  cases hpt : (s.tasks t).panicTx with
  | live => exact absurd hpt hp
  | sent p =>
    obtain ⟨s₁, hs₁, h₁⟩ := pollStart_polled (B := B) hh hx
    exact ⟨_, s₁, hs₁, pollGoes_taskPanic h₁.handle h₁.receiver (by rw [h₁.panicTx, hpt])⟩
  | dropped =>
    cases hrt : (s.tasks t).resultTx with
    | live => exact absurd hrt hr
    | sent r => exact ⟨_, pollReturns_ok hh hx (by simp [hpt]) hrt⟩
    | dropped =>
      obtain ⟨s', pc, hs', hpc, hret⟩ := polled_of_start (B := B) unspent hh hx (by simp [hpt]) (by simp [hrt])
      obtain ⟨-, rfl⟩ := hpc.resolve_right fun hn => hn.1 rfl rfl ⟨hrt, hpt⟩
      have hflag : s'.flag ≠ none := by
        rw [flag, hs'.status]
        exact hf
      obtain ⟨res, hg⟩ : ∃ res, PollGoes B unspent s' t (.resolved res) := pollGoes_isCancelled hs'.handle hflag
      exact ⟨res, hret _ hg⟩

/-- Where neither a value nor both senders are gone a poll waits, cut short or not, unless the worker
was cancelled with the body still in its cell. -/
theorem pollReturns_pending (bs : ℕ → Budget)
    (hh : (s.tasks t).handle = .spawned .fresh ∨ (s.tasks t).handle = .spawned .pending)
    (hx : ReceiverAt (s.tasks t)) (hf : s.flag ≠ none) (hp : ∀ p, (s.tasks t).panicTx ≠ .sent p)
    (hr : ∀ r, (s.tasks t).resultTx ≠ .sent r) (hc : ¬ (s.tasks t).Closed)
    (hk : s.flag = some .cancelStarted → ¬ (s.tasks t).repr.Full) : PollReturns B bs s t (.spawned .pending) := by
  obtain ⟨s', pc, hs', hpc, hret⟩ := polled_of_start (B := B) bs hh hx hp hr
  obtain ⟨-, rfl⟩ := hpc.resolve_left fun hd => hc hd.1
  have hflag : s'.flag = s.flag := congrArg WorkerStatus.flag hs'.status
  refine hret _ ?_
  by_cases hcan : s.flag = some .cancelStarted
  · refine pollGoes_cancelled hs'.handle (hflag.trans hcan) ?_
    rw [hs'.repr]
    exact hk hcan
  · exact pollGoes_pendingFlag hs'.handle (by rwa [hflag]) (by rwa [hflag])

/-- And then it takes the body, and is ready, cut short or not. -/
theorem pollReturns_cancelled (bs : ℕ → Budget)
    (hh : (s.tasks t).handle = .spawned .fresh ∨ (s.tasks t).handle = .spawned .pending)
    (hx : ReceiverAt (s.tasks t)) (hp : ∀ p, (s.tasks t).panicTx ≠ .sent p) (hr : ∀ r, (s.tasks t).resultTx ≠ .sent r)
    (hc : ¬ (s.tasks t).Closed) (hf : s.flag = some .cancelStarted) (ho : (s.tasks t).owners.Nonempty)
    (hk : (s.tasks t).repr.Full) : PollReturns B bs s t (.resolved (.error .workerCancelled)) := by
  obtain ⟨s', pc, hs', hpc, hret⟩ := polled_of_start (B := B) bs hh hx hp hr
  obtain ⟨-, rfl⟩ := hpc.resolve_left fun hd => hc hd.1
  have hflag : s'.flag = some .cancelStarted := (congrArg WorkerStatus.flag hs'.status).trans hf
  exact hret _ (pollGoes_takes hs'.handle hflag (by rwa [hs'.owners]) (by rwa [hs'.repr]))

/-! ### A poll among others -/

/-- A poll of task `t`'s handle that begins now, and is not cut short, resolves: it takes at most five
steps, whatever the others do in between, and goes on until it has resolved. -/
def PollReady (B : Bodies S F R PanicPayload) (s : Sys S F R) (t : ℕ) : Prop :=
  ∀ s₁, step B s (.poll t) = some s₁ → ∀ as s₂, Runs.exec (step B) as s₁ = some s₂ → .pollStep t .spent ∉ as →
    as.countP (Act.ofPoll t) ≤ 5 ∧
      ∀ b, step B s₂ (.pollStep t b) = none → ∃ res, (s₂.tasks t).handle = .resolved res

/-- A poll that began when both senders had acted, with at most `n` steps to go. -/
inductive PollDue (k : Task F R) : ℕ → Prop
  | panicRx (hh : k.handle = .spawned .panicRx) : PollDue k 5
  | resultRx (hh : k.handle = .spawned .resultRx) (hr : k.receiver.panicRxReady = true) : PollDue k 4
  | isCancelled (hh : k.handle = .spawned .isCancelled) : PollDue k 3
  | flag (hh : k.handle = .spawned .flag) : PollDue k 2
  | panicMsg (hh : k.handle = .spawned .panicMsg) : PollDue k 1
  | resolved {res : Except TaskError R} (hh : k.handle = .resolved res) : PollDue k 0

/-- The others leave it where it is. -/
theorem PollDue.other {a : Act F} {n : ℕ} (hd : PollDue (s.tasks t) n) (h : Inv B v₀ s) (m : Move B s a s')
    (ha : ∀ b, a ≠ .pollStep t b) : PollDue (s'.tasks t) n := by
  have hstay : ∀ {pc}, (s.tasks t).handle = .spawned pc → pc ≠ .fresh → pc ≠ .pending →
      (s'.tasks t).handle = .spawned pc := by
    intro pc hh hf hp
    rcases h.cells.handle_of_move m hh ha with hh' | ⟨hpc | hpc, -⟩
    · exact hh'
    · exact absurd hpc hf
    · exact absurd hpc hp
  cases hd with
  | panicRx hh => exact .panicRx (hstay hh nofun nofun)
  | isCancelled hh => exact .isCancelled (hstay hh nofun nofun)
  | flag hh => exact .flag (hstay hh nofun nofun)
  | panicMsg hh => exact .panicMsg (hstay hh nofun nofun)
  | resolved hh => exact .resolved (h.cells.resolved_of_move m hh)
  | resultRx hh hr =>
    have hh' := hstay hh nofun nofun
    refine .resultRx hh' ?_
    have hchange := handleChange_of_change (taskChange_of_move m t)
    generalize s'.tasks t = k at hchange hh'
    cases hchange with
    | same _ hp => exact hp.trans hr
    | accept | pollStart => cases hh'
    | reject _ hq => rcases hq with ⟨via, rfl, -⟩ | rfl <;> cases hh'
    | unspawned hu => cases rejectMove_of_unspawned hu <;> cases hh'
    | poll hm =>
      cases hm with
      | resultRx | notCancelled | panicked | pendingCancel | pending | cancelFailed | isCancelled | aborted
      | cancelled | shutdown | panicMsg | cancelDone | cancel => cases hh'
      | panicRx hq => cases hq.symm.trans hh
      | panicRxReady | resultRxReady => cases (ofReady_eq_spawned.mp hh').2

/-- Where both senders have acted each of its steps that is not cut short brings it closer. -/
theorem PollDue.own {n : ℕ} (hd : PollDue (s.tasks t) n) (h : Inv B v₀ s) (hr : (s.tasks t).resultTx ≠ .live)
    (hp : (s.tasks t).panicTx ≠ .live) (hs : s.pollStep t .left = some s') :
    ∃ n' < n, PollDue (s'.tasks t) n' := by
  cases hd with
  | panicRx hh =>
    simp only [pollStep, hh, pollStepAt] at hs
    split at hs <;> rename_i hx <;> cases hs
    · exact absurd hx (ReceiverAt.polled (h.handles.receiver t _ hh) .left).1
    · refine ⟨4, by omega, .resultRx (by simp) ?_⟩
      cases TaskResultReceiver.panicPoll_of_eq hx with
      | ready hready => simpa using hready
      | live _ ht => exact absurd ht hp
      | dropped => simp
    · cases TaskResultReceiver.panicPoll_of_eq hx with
      | sent => exact ⟨0, by omega, .resolved (by simp [ofReady]; rfl)⟩
  | resultRx hh hready =>
    simp only [pollStep, hh, pollStepAt] at hs
    split at hs <;> rename_i hx <;> cases hs
    · exact absurd hx (ReceiverAt.polled (h.handles.receiver t _ hh) .left).2
    · cases TaskResultReceiver.resultPoll_of_eq hx with
      | ready _ ho | dropped _ _ ho => rw [if_pos hready] at ho; cases ho
      | live _ ht => exact absurd ht hr
    · cases TaskResultReceiver.resultPoll_of_eq hx with
      | sent => exact ⟨0, by omega, .resolved (by simp [ofReady]; rfl)⟩
      | ready _ ho | dropped _ _ ho =>
        rw [if_pos hready] at ho
        cases ho
        exact ⟨3, by omega, .isCancelled (by simp [ofReady])⟩
  | isCancelled hh =>
    simp only [pollStep, hh, pollStepAt] at hs
    split_ifs at hs <;> cases hs
    · exact ⟨0, by omega, .resolved (handle_setHandle _)⟩
    · exact ⟨2, by omega, .flag (handle_setHandle _)⟩
  | flag hh =>
    simp only [pollStep, hh, pollStepAt] at hs
    split at hs <;> rename_i hf <;> cases hs
    · exact absurd hf h.status.flag_ne_none
    · exact ⟨0, by omega, .resolved (handle_setHandle _)⟩
    · exact ⟨0, by omega, .resolved (handle_setHandle _)⟩
    · exact ⟨1, by omega, .panicMsg (handle_setHandle _)⟩
    · exact ⟨0, by omega, .resolved (handle_setHandle _)⟩
  | panicMsg hh =>
    simp only [pollStep, hh, pollStepAt] at hs
    cases hs
    exact ⟨0, by omega, .resolved (handle_setHandle _)⟩
  | resolved hh =>
    simp only [pollStep, hh] at hs
    cases hs

/-- It stops only when it has resolved. -/
theorem PollDue.resolved_of_stopped {n : ℕ} {b : Budget} (hd : PollDue (s.tasks t) n)
    (hs : s.pollStep t b = none) : ∃ res, (s.tasks t).handle = .resolved res := by
  cases hd with
  | resolved hh => exact ⟨_, hh⟩
  | isCancelled hh =>
    simp only [pollStep, hh, pollStepAt] at hs
    split_ifs at hs
  | panicMsg hh =>
    simp only [pollStep, hh, pollStepAt] at hs
    cases hs
  | panicRx hh | resultRx hh | flag hh =>
    simp only [pollStep, hh, pollStepAt] at hs
    split at hs <;> cases hs

/-- Whatever the others do, it takes no more steps than it has to go. -/
theorem PollDue.exec {n : ℕ} {as : List (Act F)} (hd : PollDue (s.tasks t) n) (h : Inv B v₀ s)
    (hr : (s.tasks t).resultTx ≠ .live) (hp : (s.tasks t).panicTx ≠ .live)
    (hs : Runs.exec (step B) as s = some s') (hcut : .pollStep t .spent ∉ as) :
    ∃ n', PollDue (s'.tasks t) n' ∧ as.countP (Act.ofPoll t) + n' ≤ n := by
  induction as generalizing s n with
  | nil => cases hs; exact ⟨n, hd, by simp⟩
  | cons a as ih =>
    obtain ⟨s₁, hs₁, hrest⟩ := Option.bind_eq_some_iff.mp hs
    obtain ⟨hca, hcas⟩ := not_or.mp (mt List.mem_cons.mpr hcut)
    have m := move_of_step hs₁
    have hr₁ := mt (h.cells.live_of_move (t := t) m).1 hr
    have hp₁ := mt (h.cells.live_of_move (t := t) m).2 hp
    by_cases ha : ∃ b, a = .pollStep t b
    · obtain ⟨b, rfl⟩ := ha
      cases b with
      | spent => exact absurd rfl hca
      | left =>
        obtain ⟨n₁, hlt, hd₁⟩ := hd.own h hr hp hs₁
        obtain ⟨n', hd', hle⟩ := ih hd₁ (h.step hs₁) hr₁ hp₁ hrest hcas
        refine ⟨n', hd', ?_⟩
        rw [List.countP_cons_of_pos (by simp [Act.ofPoll])]
        omega
    · have hd₁ := hd.other h m fun b hb => ha ⟨b, hb⟩
      obtain ⟨n', hd', hle⟩ := ih hd₁ (h.step hs₁) hr₁ hp₁ hrest hcas
      have hno : ¬ Act.ofPoll t a = true := by
        cases a with
        | pollStep u b =>
          intro hu
          simp only [Act.ofPoll, beq_iff_eq] at hu
          exact ha ⟨b, by rw [hu]⟩
        | _ => nofun
      exact ⟨n', hd', by rw [List.countP_cons_of_neg hno]; exact hle⟩

/-- Where both channels are terminal a poll among others is ready, unless it is cut short. -/
theorem pollReady_of_terminal (h : Inv B v₀ s) (hr : (s.tasks t).resultTx ≠ .live)
    (hp : (s.tasks t).panicTx ≠ .live) : PollReady B s t := by
  intro s₁ hs₁ as s₂ hs hcut
  have m := move_of_step hs₁
  obtain ⟨n, hn, hd⟩ : ∃ n ≤ 5, PollDue (s₁.tasks t) n := by
    cases taskHandleMove_of_start hs₁ with
    | start => exact ⟨5, le_rfl, .panicRx (by simp)⟩
    | unspawned => exact ⟨0, by omega, .resolved (handle_setHandle _)⟩
  obtain ⟨n', hd', hle⟩ := hd.exec (h.step hs₁) (mt (h.cells.live_of_move (t := t) m).1 hr)
    (mt (h.cells.live_of_move (t := t) m).2 hp) hs hcut
  exact ⟨by omega, fun b hb => hd'.resolved_of_stopped hb⟩

end Sys

end AsyncSequential
