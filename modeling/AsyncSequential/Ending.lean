import AsyncSequential.Status

/-!
# How the worker ends

The worker returns `Ok(())` when the queue is empty and closed or the worker was
cancelled, `Err(())` when it has recorded a panic or the runtime shuts down, and
is dropped by an abort or a shutdown. `Ending` says that there is no other way,
what each of them leaves of the tasks, and that a join reports it.
-/

namespace AsyncSequential

variable {S F R : Type*}

/-- The future was dropped by the runtime. -/
@[grind] def WorkerPc.wasDropped : WorkerPc F R → Bool
  | .dropBody _ _ | .dropBodyTx _ | .dropGuard _ => true
  | .dropping _ out | .ended out => out = .aborted
  | .recv _ | .dequeued _ | .checked _ | .took _ _ | .asyncBody _ _ _ | .asyncSend _ _ | .asyncUnwind _ _
  | .asyncUnlock _ _ | .awaitBlocking _ _ | .result _ _ | .storePanicked _ _ | .sendPanic _ _ => false

namespace Sys

variable {B : Bodies S F R PanicPayload} {v₀ : S} {s s' : Sys S F R} {t : ℕ}

/-- The last match of `join_worker`, with what the operation makes of it: `out`
is the worker's outcome, `st` the status, and `v` the state. -/
def joined (op : Consume) (out : WorkerOut) (st : WorkerStatus) (v : S) : JoinResult S :=
  match out with
  | .ok => finishJoin op (.ok v)
  | .aborted => finishJoin op (.error (.runtimeShutdown v))
  | .err =>
    match st.flag with
    | some .taskPanicked => finishJoin op (.error (.anyTaskPanic st.panicMsg v))
    | some .abortStarted => finishJoin op (.error (.workerAborted v))
    | _ => finishJoin op (.error (.runtimeShutdown v))

/-- How the worker ends. -/
structure Ending (s : Sys S F R) : Prop where
  /-- A context holds a sender of the queue. -/
  ctx : ∀ c, (s.cells c).ctx = true → .cell c ∈ s.senders
  /-- So does the worker handle. -/
  live : s.handle = .live → .handle ∈ s.senders
  /-- The future is dropped after an abort, or at a shutdown. -/
  aborted : s.worker.wasDropped = true → s.aborting = true ∨ s.down = true
  /-- The worker fails after a panic, or at a shutdown. -/
  erred : s.worker.stage = .erred → s.panics ≠ [] ∨ s.down = true
  /-- The worker finishes when the queue is empty and closed, or it was cancelled. -/
  finished : s.worker.out? = some .ok →
    (s.queue = [] ∧ s.senders = ∅ ∧ s.drained = []) ∨ s.flag = some .cancelStarted
  /-- It drops a received task only when it was cancelled. -/
  message : ∀ t, .message t ∈ s.worker.todo → s.worker.out? = some .ok ∧ s.flag = some .cancelStarted
  /-- A received task that nobody took is at hand, or the worker was cancelled. -/
  untaken : ∀ t ∈ s.popped, (s.tasks t).takers = [] ∨ (s.tasks t).takers = [.dropped] →
    (s.worker = .dequeued t ∨ s.worker = .checked t) ∨
      s.worker.out? = some .ok ∧ s.flag = some .cancelStarted
  /-- A task is dropped untaken by a worker that is over. -/
  dropped : ∀ t, (s.tasks t).takers = [.dropped] →
    ∃ out, s.worker.out? = some out ∧ (out = .ok → s.flag = some .cancelStarted)
  /-- The accepted tasks are those that can be cancelled. -/
  accepted : ∀ t, t ∈ s.accepted ↔ (s.tasks t).cancellable = true
  /-- When a panic is recorded, what the worker has taken has started. -/
  settled : s.panics ≠ [] → ∀ t, s.taken t = true → t ∈ s.started
  /-- A join that reads the panic message has seen the flag. -/
  readPanicMsg : ∀ op v, s.handle = .readPanicMsg op v → s.flag = some .taskPanicked
  /-- A join reports the worker's outcome. -/
  returned : ∀ op res, s.handle = .returned op res →
    ∃ out, s.worker = .ended out ∧ res = joined op out s.status res.state

theorem ending_init (v : S) : (init v : Sys S F R).Ending := by
  constructor
  case ctx =>
    intro c hc
    simp only [init] at hc ⊢
    split_ifs at hc with h0
    subst h0
    simp
  all_goals simp [init, WorkerPc.wasDropped, WorkerPc.stage, WorkerPc.out?, WorkerPc.todo, Task.absent]

/-! ### The senders of the queue -/

theorem Ending.ctx_step {a : Act F} (h : s.Ending) (m : Move B s a s') {c : ℕ}
    (hc : (s'.cells c).ctx = true) : .cell c ∈ s'.senders := by
  have h₁ := h.ctx
  cases m with
  | spawner m =>
    cases m with
    | obtain hh =>
      simp only [Function.update_apply] at hc
      split_ifs at hc <;> grind
    | drop => simp only [releaseCell, Function.update_apply] at hc ⊢; grind
    | close => simp only [closeSenders, Function.update_apply] at hc ⊢; grind
  | handle m =>
    cases m with
    | dropCtx => simp only [releaseCell, Function.update_apply] at hc ⊢; grind
    | closeSenders => simp only [closeSenders, Function.update_apply] at hc ⊢; grind
    | dropTx => simpa using h₁ c hc
    | _ => exact h₁ c hc
  | worker m | runtime m | pool m | call m | taskHandle m | spawn m => cases m <;> exact h₁ c hc

theorem Ending.live_step {a : Act F} (h : s.Ending) (m : Move B s a s') (hh : s'.handle = .live) :
    .handle ∈ s'.senders := by
  have h₁ := h.live
  cases m with
  | spawner m =>
    cases m with
    | drop | close => grind
    | obtain => exact h₁ hh
  | handle m =>
    cases m with
    | consume _ _ hp => rcases hp with ⟨-, rfl⟩ | ⟨-, rfl⟩ | ⟨-, -, rfl⟩ <;> cases hh
    | dropCtx => simp only at hh; split_ifs at hh
    | @dropTx op _ => simp only at hh; split_ifs at hh; cases op <;> cases hh
    | corrupted | stateMissing => exact h₁ hh
    | _ => cases hh
  | worker m | runtime m | pool m | call m | taskHandle m | spawn m => cases m <;> exact h₁ hh

/-- When all senders are gone they stay gone. -/
theorem Ending.senders_of_move {a : Act F} (h : s.Ending) (m : Move B s a s') (hs : s.senders = ∅) :
    s'.senders = ∅ := by
  have h₁ := h.ctx
  cases m with
  | spawner m => cases m <;> grind
  | handle m => cases m <;> grind
  | worker m | runtime m | pool m | call m | taskHandle m | spawn m => cases m <;> exact hs

/-- A queue without senders gets no tasks. -/
theorem Ending.queue_of_move {a : Act F} (h : s.Ending) (m : Move B s a s') (hs : s.senders = ∅)
    (hq : s.queue = []) : s'.queue = [] := by
  have h₁ := h.ctx
  have h₂ := h.live
  cases m with
  | worker m => cases m <;> grind
  | spawn m =>
    cases m with
    | accept _ hv => rcases hv with ⟨-, hh⟩ | ⟨i, -, -, hc⟩ <;> grind
    | _ => exact hq
  | runtime m | pool m | call m | taskHandle m | spawner m | handle m => cases m <;> exact hq

/-! ### The outcome -/

/-- A worker future was dropped before, or is dropped at an await. -/
theorem wasDropped_of_move {a : Act F} (m : Move B s a s') (hw : s'.worker.wasDropped = true) :
    s.worker.wasDropped = true ∨ a = .dropWorker ∧
      (s.worker = .recv true ∨ (∃ t f, s.worker = .asyncBody t f true) ∨ ∃ t, s.worker = .awaitBlocking t true) := by
  cases m with
  | worker m => cases m <;> grind
  | runtime m =>
    cases m with
    | dropRecv _ hw' => exact .inr ⟨rfl, .inl hw'⟩
    | dropAsync _ hw' => exact .inr ⟨rfl, .inr (.inl ⟨_, _, hw'⟩)⟩
    | dropJoin _ hw' => exact .inr ⟨rfl, .inr (.inr ⟨_, hw'⟩)⟩
    | dropQueued | shutdown => exact .inl hw
    | pollRecv | pollAsync | pollJoin | yieldRecv | yieldJoin => cases hw
  | pool m | call m | taskHandle m | spawn m | spawner m | handle m => cases m <;> exact .inl hw

/-- A worker future that was dropped stays so. -/
theorem wasDropped_to_move {a : Act F} (m : Move B s a s') (hw : s.worker.wasDropped = true) :
    s'.worker.wasDropped = true := by
  cases m with
  | worker m => cases m <;> grind
  | runtime m => cases m <;> grind
  | pool m | call m | taskHandle m | spawn m | spawner m | handle m => cases m <;> exact hw

theorem Ending.aborted_step {a : Act F} (h : s.Ending) (m : Move B s a s') (hw : s'.worker.wasDropped = true) :
    s'.aborting = true ∨ s'.down = true := by
  rcases wasDropped_of_move m hw with hold | ⟨rfl, -⟩
  · have hcause := h.aborted hold
    cases m with
    | runtime m => cases m <;> first | exact hcause | exact .inr rfl
    | handle m => cases m <;> first | exact hcause | exact .inl rfl
    | worker m | pool m | call m | taskHandle m | spawn m | spawner m => cases m <;> exact hcause
  · cases m with
    | runtime m => cases m <;> assumption
    | call m | taskHandle m | spawn m | spawner m | handle m => cases m

/-- The state is free when the worker is about to lock it. -/
theorem Custody.free (hcu : s.Custody) {raw : RawTask F} (hw : s.worker = .took t raw) :
    s.lock = none ∧ s.value.isSome := by
  have hph : s.worker.phase = .free := congrArg WorkerPc.phase hw
  have hpool := hcu.pool_idle (by simp [hph]) (by simp [hph])
  have hpast := hcu.not_past (congrArg WorkerPc.ended? hw)
  refine ⟨?_, Option.isSome_iff_ne_none.mpr (hcu.value_ne_none (congrArg WorkerPc.ended? hw))⟩
  cases hl : s.lock with
  | none => rfl
  | some x =>
    cases x with
    | worker => cases (hcu.lock_worker.mp hl).symm.trans hph
    | pool => exact absurd hpool (PoolPc.task_of_guards (hcu.lock_pool.mp hl))
    | join => cases (HandlePc.past_of_guards (hcu.lock_join.mp hl)).symm.trans hpast

theorem Ending.erred_step {a : Act F} (h : s.Ending) (hcu : s.Custody) (hst : s.Status) (m : Move B s a s')
    (he : s'.worker.stage = .erred) : s'.panics ≠ [] ∨ s'.down = true := by
  have h₁ := h.erred
  cases m with
  | worker m =>
    cases m with
    | failAsync hw hl => exact absurd (hcu.free hw) hl
    | joinedNone hw hp =>
      obtain ⟨-, hgave, hcan⟩ := hcu.awaiting _ (congrArg WorkerPc.phase hw)
      rcases hp with hp | hp
      · simp [hp, PoolPc.gaveUp] at hgave
      · exact .inr (hcan _ hp)
    | sendPanic hw => exact .inl (List.ne_nil_of_mem (hst.sending _ _ (by rw [hw]; rfl)))
    | _ => grind [modTask]
  | runtime m => cases m <;> grind
  | pool m | call m | taskHandle m | spawn m | spawner m | handle m => cases m <;> exact h₁ he

/-- A worker that is over records nothing. -/
theorem flag_of_over {a : Act F} (m : Move B s a s') (hf : s.flag = some .cancelStarted)
    {out : WorkerOut} (ho : s.worker.out? = some out) : s'.flag = some .cancelStarted := by
  cases m with
  | worker m => cases m <;> first | exact hf | (simp_all [WorkerPc.out?])
  | handle m =>
    cases m with
    | setAbort _ _ hr | setCancel _ _ hr => simp [hf] at hr
    | _ => exact hf
  | runtime m | pool m | call m | taskHandle m | spawn m | spawner m => cases m <;> exact hf

theorem Ending.finished_step {a : Act F} (h : s.Ending) (ho : s.Order) (m : Move B s a s')
    (hw : s'.worker.out? = some .ok) :
    (s'.queue = [] ∧ s'.senders = ∅ ∧ s'.drained = []) ∨ s'.flag = some .cancelStarted := by
  by_cases hover : s.worker.out? = some .ok
  · rcases h.finished hover with ⟨hq, hs, hd⟩ | hf
    · refine .inl ⟨h.queue_of_move m hs hq, h.senders_of_move m hs, ?_⟩
      cases m with
      | worker m => cases m <;> grind
      | runtime m | pool m | call m | taskHandle m | spawn m | spawner m | handle m => cases m <;> exact hd
    · exact .inr (flag_of_over m hf hover)
  · cases m with
    | worker m =>
      cases m with
      | recvNone hw' hq hs => exact .inl ⟨hq, hs, ho.drained (by simp [hw', WorkerPc.phase])⟩
      | «break» hw' hf => exact .inr hf
      | _ => grind
    | runtime m => cases m <;> grind
    | pool m | call m | taskHandle m | spawn m | spawner m | handle m => cases m <;> exact absurd hw hover

theorem Ending.message_step {a : Act F} (h : s.Ending) (m : Move B s a s')
    (ht : .message t ∈ s'.worker.todo) : s'.worker.out? = some .ok ∧ s'.flag = some .cancelStarted := by
  have h₁ := h.message t
  by_cases hover : .message t ∈ s.worker.todo
  · obtain ⟨ho, hf⟩ := h.message t hover
    exact ⟨out_of_move m ho, flag_of_over m hf ho⟩
  · cases m with
    | worker m =>
      cases m with
      | «break» hw' hf => exact ⟨rfl, hf⟩
      | _ => grind
    | runtime m => cases m <;> grind
    | pool m | call m | taskHandle m | spawn m | spawner m | handle m => cases m <;> exact absurd ht hover

/-! ### The tasks it leaves -/

/-- Whether a task can be cancelled is settled when it comes into being. -/
theorem cancellable_cases_of_change {k : Task F R} (hc : TaskChange s s' t k) :
    k.cancellable = (s.tasks t).cancellable ∨
      t = s.next ∧ s'.next = s.next + 1 ∧ ((∃ raw, k = .accepted raw) ∨ k.cancellable = false) := by
  cases hc with
  | accept ht hn _ => exact .inr ⟨ht, hn, .inl ⟨_, rfl⟩⟩
  | reject ht hn _ => exact .inr ⟨ht, hn, .inr rfl⟩
  | call _ _ hm => cases hm <;> exact .inl rfl
  | poll hm =>
    cases hm with
    | cancel _ hm => cases hm <;> exact .inl rfl
    | _ => exact .inl rfl
  | _ => exact .inl rfl

theorem cancellable_of_change {k : Task F R} (hc : TaskChange s s' t k) (hn : s'.next = s.next) :
    k.cancellable = (s.tasks t).cancellable :=
  (cancellable_cases_of_change hc).resolve_right fun ⟨_, hn', _⟩ => by omega

/-- A task that can be cancelled could be before, or is new. -/
theorem accepted_of_change {k : Task F R} (hc : TaskChange s s' t k) (hk : k.cancellable = true) :
    (s.tasks t).cancellable = true ∨ t = s.next ∧ ∃ raw, k = .accepted raw := by
  rcases cancellable_cases_of_change hc with he | ⟨ht, -, hraw | hn⟩
  · exact .inl (he ▸ hk)
  · exact .inr ⟨ht, hraw⟩
  · cases hk.symm.trans hn

theorem Ending.accepted_step {a : Act F} (h : s.Ending) (ho : s.Order) (m : Move B s a s') :
    t ∈ s'.accepted ↔ (s'.tasks t).cancellable = true := by
  have hm := m
  have h₁ := h.accepted t
  have hlt := ho.lt t
  cases m with
  | spawn m =>
    cases m with
    | accept | reject | unavailable =>
      simp only [addTask, Function.update_apply]
      split_ifs <;> grind
    | _ => rw [cancellable_of_change (taskChange_of_move hm t) rfl]; exact h₁
  | worker m | runtime m | pool m | call m | taskHandle m | spawner m | handle m =>
    rw [cancellable_of_change (taskChange_of_move hm t) (by cases m <;> rfl), ← h₁]
    cases m <;> rfl

theorem Ending.dropped_step {a : Act F} (h : s.Ending) (hc : s.Cells) (m : Move B s a s')
    (ht : (s'.tasks t).takers = [.dropped]) :
    ∃ out, s'.worker.out? = some out ∧ (out = .ok → s'.flag = some .cancelStarted) := by
  have hs : ∃ out, s.worker.out? = some out ∧ (out = .ok → s.flag = some .cancelStarted) := by
    rcases hc.takers_cases (taskChange_of_move m t) with hk | ⟨-, -, x, hk, hx⟩
    · exact h.dropped t (hk.symm.trans ht)
    · obtain rfl : x = .dropped := by simpa [hk] using ht
      cases hx with
      | dropped hw =>
      rcases hw with ⟨todo, out, hw⟩ | ⟨q, todo, out, hw, hq⟩
      · exact ⟨out, by rw [hw]; rfl, fun _ => (h.message t (by simp [hw, WorkerPc.todo])).2⟩
      · refine ⟨out, by rw [hw]; rfl, ?_⟩
        rintro rfl
        rcases h.finished (by rw [hw]; rfl) with ⟨hq', -⟩ | hf
        · simp [hq'] at hq
        · exact hf
  obtain ⟨out, ho, hf⟩ := hs
  exact ⟨out, out_of_move m ho, fun hok => flag_of_over m (hf hok) ho⟩

/-- The worker is done with the task at hand when it takes it, finds it taken, or was cancelled. -/
theorem Ending.untaken_of_current {a : Act F} (h : s.Ending) (hc : s.Cells) (m : Move B s a s')
    (hacc : (s.tasks t).cancellable = true) (hw : s.worker = .dequeued t ∨ s.worker = .checked t)
    (ht : (s'.tasks t).takers = [] ∨ (s'.tasks t).takers = [.dropped]) :
    (s'.worker = .dequeued t ∨ s'.worker = .checked t) ∨
      s'.worker.out? = some .ok ∧ s'.flag = some .cancelStarted := by
  cases m with
  | worker m =>
    cases m with
    | corrupted _ _ => exact .inl hw
    | check hw' _ _ => grind
    | «break» hw' hf => exact .inr ⟨rfl, hf⟩
    | @take u raw hw' hk =>
      obtain rfl : u = t := by simpa [hw'] using hw
      have hnil := ((hc.cell u).full (OnceTake.full_of_take hk)).1
      simp [modTask, Task.release, Task.takenBy, hnil] at ht
    | @skip u hw' hk =>
      obtain rfl : u = t := by simpa [hw'] using hw
      have hne := (hc.cell u).spent (OnceTake.not_full_of_take hk) hacc
      simp [modTask, Task.release, Task.takeFailed] at ht
      rcases ht with ht | ht
      · exact absurd ht hne
      · obtain ⟨out, ho, -⟩ := h.dropped u ht
        simp [hw', WorkerPc.out?] at ho
    | _ => simp_all
  | runtime m => cases m <;> first | exact .inl hw | simp_all
  | pool m | call m | taskHandle m | spawn m | spawner m | handle m => cases m <;> exact .inl hw

theorem Ending.untaken_step {a : Act F} (h : s.Ending) (hc : s.Cells) (ho : s.Order) (m : Move B s a s')
    (hp : t ∈ s'.popped) (ht : (s'.tasks t).takers = [] ∨ (s'.tasks t).takers = [.dropped]) :
    (s'.worker = .dequeued t ∨ s'.worker = .checked t) ∨
      s'.worker.out? = some .ok ∧ s'.flag = some .cancelStarted := by
  by_cases hpop : t ∈ s.popped
  · have htk : (s.tasks t).takers = [] ∨ (s.tasks t).takers = [.dropped] := by
      by_cases hn : (s.tasks t).takers = []
      · exact .inl hn
      · rwa [hc.takers_of_move m hn] at ht
    rcases h.untaken t hpop htk with hw | ⟨hout, hf⟩
    · have hacc := (h.accepted t).mp (by rw [ho.accepted]; simp [hpop])
      exact h.untaken_of_current hc m hacc hw ht
    · exact .inr ⟨out_of_move m hout, flag_of_over m hf hout⟩
  · cases m with
    | worker m => cases m <;> first | exact absurd hp hpop | skip
                  simp [hpop] at hp
                  simp [hp]
    | runtime m | pool m | call m | taskHandle m | spawn m | spawner m | handle m =>
      cases m <;> exact absurd hp hpop

theorem started_of_move {a : Act F} (m : Move B s a s') (ht : t ∈ s.started) : t ∈ s'.started := by
  cases m with
  | worker m =>
    cases m with
    | startAsync => exact List.mem_append_left _ ht
    | _ => exact ht
  | pool m =>
    cases m with
    | start => exact List.mem_append_left _ ht
    | _ => exact ht
  | runtime m | call m | taskHandle m | spawn m | spawner m | handle m => cases m <;> exact ht

theorem Ending.settled_step {a : Act F} (h : s.Ending) (hc : s.Cells) (ho : s.Order) (hst : s.Status)
    (m : Move B s a s') (hp : s'.panics ≠ []) (ht : s'.taken t = true) : t ∈ s'.started := by
  by_cases hps : s.panics = []
  · cases m with
    | worker m =>
      cases m with
      | storePanicked hw =>
        obtain ⟨rest, hf, hrest⟩ := ho.started
        have hnil : rest = [] := hrest.settled (.inl (by rw [hw]; rfl))
        have ht' : s.taken t = true := ht
        have hmem : t ∈ s.popped.filter s.taken := List.mem_filter.mpr ⟨ho.received t ht', ht'⟩
        rw [hf, hnil, List.append_nil] at hmem
        exact hmem
      | _ => exact absurd hps hp
    | runtime m | pool m | call m | taskHandle m | spawn m | spawner m | handle m =>
      cases m <;> exact absurd hps hp
  · refine started_of_move m (h.settled hps t ?_)
    rw [← taken_of_move hc m fun raw hw => absurd (hst.panics_eq_nil (.inl (by rw [hw]; rfl))) hps]
    exact ht

/-! ### What a join reports -/

theorem Ending.readPanicMsg_step {a : Act F} (h : s.Ending) (m : Move B s a s') {op : Consume} {v : S}
    (hh : s'.handle = .readPanicMsg op v) : s'.flag = some .taskPanicked := by
  by_cases hread : s.handle = .readPanicMsg op v
  · have hf := h.readPanicMsg op v hread
    rcases flag_of_move m (by simp [hf]) with hf' | hf'
    · exact hf'.trans hf
    · exact hf'
  · cases m with
    | handle m =>
      cases m with
      | decidePanicked _ hf => exact hf
      | consume _ _ hp => rcases hp with ⟨-, rfl⟩ | ⟨-, rfl⟩ | ⟨-, -, rfl⟩ <;> cases hh
      | dropCtx => simp only at hh; split_ifs at hh
      | @dropTx op _ => simp only at hh; split_ifs at hh; cases op <;> cases hh
      | corrupted | stateMissing => exact absurd hh hread
      | _ => cases hh
    | worker m | runtime m | pool m | call m | taskHandle m | spawn m | spawner m =>
      cases m <;> exact absurd hh hread

theorem eq_ended {w : WorkerPc F R} {out : WorkerOut} (h : w.ended? = some out) : w = .ended out := by
  cases w <;> simp_all [WorkerPc.ended?]

/-- A worker that has ended does nothing. -/
theorem ended_of_move {a : Act F} (m : Move B s a s') {out : WorkerOut} (hw : s.worker = .ended out) :
    s'.worker = .ended out := by
  cases m with
  | worker m => cases m <;> simp_all
  | runtime m => cases m <;> simp_all
  | pool m | call m | taskHandle m | spawn m | spawner m | handle m => cases m <;> exact hw

theorem Ending.returned_step {a : Act F} (h : s.Ending) (hcu : s.Custody) (m : Move B s a s') {op : Consume}
    {res : JoinResult S} (hh : s'.handle = .returned op res) :
    ∃ out, s'.worker = .ended out ∧ res = joined op out s'.status res.state := by
  have hout : ∀ out, s.handle.out? = some out → s.worker = .ended out := fun out ho => eq_ended (hcu.out out ho)
  have hm := m
  cases m with
  | handle m =>
    cases m with
    | decideOk hh' =>
      cases hh
      exact ⟨_, hout _ (by rw [hh']; rfl), by simp [joined]⟩
    | decideAborted hh' hf =>
      cases hh
      exact ⟨_, hout _ (by rw [hh']; rfl), by simp [joined, hf, PoisonError.intoInner]⟩
    | decideShutdown hh' hf =>
      cases hh
      refine ⟨_, hout _ (by rw [hh']; rfl), ?_⟩
      rcases hf with rfl | ⟨rfl, hf | hf⟩ <;> simp [joined, PoisonError.intoInner, *]
    | readPanicMsg hh' =>
      cases hh
      have hf := h.readPanicMsg _ _ hh'
      exact ⟨_, hout _ (by rw [hh']; rfl), by simp [joined, hf, PoisonError.intoInner]⟩
    | consume _ _ hp => rcases hp with ⟨-, rfl⟩ | ⟨-, rfl⟩ | ⟨-, -, rfl⟩ <;> cases hh
    | dropCtx => simp only at hh; split_ifs at hh
    | @dropTx op _ => simp only at hh; split_ifs at hh; cases op <;> cases hh
    | corrupted | stateMissing => exact h.returned op res hh
    | _ => cases hh
  | worker m =>
    have hh' : s.handle = .returned op res := by cases m <;> exact hh
    obtain ⟨out, hw, -⟩ := h.returned op res hh'
    cases m <;> simp_all
  | runtime m | pool m | call m | taskHandle m | spawn m | spawner m =>
    have hh' : s.handle = .returned op res := by cases m <;> exact hh
    obtain ⟨out, hw, hres⟩ := h.returned op res hh'
    exact ⟨out, ended_of_move hm hw, by cases m <;> exact hres⟩

/-- **Ending holds in every reachable state**: a step keeps it. -/
theorem Ending.step {a : Act F} (h : s.Ending) (hc : s.Cells) (ho : s.Order) (hcu : s.Custody) (hst : s.Status)
    (m : Move B s a s') : s'.Ending where
  ctx _ := h.ctx_step m
  live := h.live_step m
  aborted := h.aborted_step m
  erred := h.erred_step hcu hst m
  finished := h.finished_step ho m
  message _ := h.message_step m
  untaken _ := h.untaken_step hc ho m
  dropped _ := h.dropped_step hc m
  accepted _ := h.accepted_step ho m
  settled hp _ := h.settled_step hc ho hst m hp
  readPanicMsg _ _ := h.readPanicMsg_step m
  returned _ _ := h.returned_step hcu m

end Sys

end AsyncSequential
