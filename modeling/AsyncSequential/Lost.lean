import AsyncSequential.Report

/-!
# Bodies that are lost

The panic sender of a blocking body stays with the worker future, and an async
body is part of it. When the runtime drops the future an async body is lost, and so
is the panic of a blocking body that outlives it; the handle then reports what the
status says, which may be another cause, or a cancel that did not touch the body.
Where nothing is lost the handles report what they should.
-/

namespace AsyncSequential

variable {S F R : Type*}

/-- The closure has the panic of its body. -/
@[grind] def PoolPc.panicked : PoolPc F R → Bool
  | .unwind _ _ | .unlock _ (.error _) | .done _ (some (.error _)) => true
  | _ => false

namespace Sys

variable {B : Bodies S F R PanicPayload} {v₀ : S} {s s' s₁ s₂ : Sys S F R} {t : ℕ}

/-- The next segment of the blocking body panics. -/
def closurePanics (B : Bodies S F R PanicPayload) (s : Sys S F R) : Bool :=
  match s.pool, s.value with
  | .running _ f, some v => ((B.poll f v).2 matches .panicked _)
  | _, _ => false

/-- The step loses the panic of a blocking body: the runtime drops the worker future that
has not received it yet, or the body panics when the future has been dropped. -/
def losesPanic (B : Bodies S F R PanicPayload) (s : Sys S F R) : Act F → Bool
  | .dropWorker => s.pool.panicked
  | .pool => s.worker.wasDropped && s.closurePanics B
  | _ => false

/-! ### A panic is lost -/

/-- A worker future that waits at an await, while a body has panicked, waits for that body. -/
theorem Inv.panicked_of_parked (h : Inv B v₀ s) {p : PanicPayload} (hx : s.fate t = .panicked p)
    (hw : s.worker = .recv true ∨ (∃ t f, s.worker = .asyncBody t f true) ∨ ∃ t, s.worker = .awaitBlocking t true) :
    s.pool.panicked = true := by
  rcases h.channels.panicked t p hx with hc | hc | hq
  · rcases hw with hw | ⟨u, f, hw⟩ | ⟨u, hw⟩ <;> rw [hw] at hc <;> cases hc
  · cases hp : s.pool with
    | done u res => cases res <;> grind
    | _ => grind
  · have hst := (h.status.recorded t p hq).2.2
    rcases hw with hw | ⟨u, f, hw⟩ | ⟨u, hw⟩ <;> rw [hw] at hst <;> rcases hst with hst | hst <;> cases hst

/-- A body that has panicked under a dropped worker had before, or its panic is lost now. -/
theorem Inv.losesPanic_of_move (h : Inv B v₀ s) {a : Act F} (m : Move B s a s') {p : PanicPayload}
    (hx : s'.fate t = .panicked p) (hw : s'.worker.wasDropped = true) :
    s.fate t = .panicked p ∧ s.worker.wasDropped = true ∨ s.losesPanic B a = true := by
  have hm := m
  rcases wasDropped_of_move m hw with hold | ⟨rfl, hparked⟩
  · have hchange := fateChange_of_move m t
    generalize s'.fate t = x at hchange hx
    cases hchange with
    | same => exact .inl ⟨hx, hold⟩
    | start | pending | ready | dropped => cases hx
    | panicked hw' =>
      rcases hw' with ⟨hw', -⟩ | ⟨hp, hp'⟩
      · rw [hw'] at hold
        cases hold
      · right
        cases m with
        | pool m =>
          cases m with
          | panicked hp hv hb => simp [losesPanic, hold, closurePanics, hp, hv, hb]
          | _ => simp_all
        | worker m => cases m <;> simp_all
        | runtime m => cases m <;> simp_all
        | call m | taskHandle m | spawn m | spawner m | handle m => cases m <;> simp_all
  · have hx' : s.fate t = .panicked p := by
      cases m with
      | runtime m => cases m <;> exact hx
      | call m | taskHandle m | spawn m | spawner m | handle m => cases m
    exact .inr (h.panicked_of_parked hx' hparked)

/-- What has become of a body that has ended stays. -/
theorem Inv.fate_of_ended (h : Inv B v₀ s) {a : Act F} (m : Move B s a s') (hx : s.fate t ≠ .unstarted)
    (hx' : s.fate t ≠ .running) : s'.fate t = s.fate t := by
  have hworker : s.worker.task = some t →
      s.worker.Knows t (s.fate t) (s.tasks t).resultTx (s.tasks t).panicTx s.panics :=
    fun hw => h.channels.worker t (h.cells.worker t hw)
  have hpool : s.pool.task = some t → s.pool.Knows t (s.fate t) (s.tasks t).resultTx :=
    fun hp => h.channels.pool t (h.cells.pool t hp)
  have hchange := fateChange_of_move m t
  generalize s'.fate t = x at hchange
  cases hchange with
  | same => rfl
  | start hp =>
    rcases hp with ⟨hw, -⟩ | ⟨hp, -⟩
    · rw [hw] at hworker
      exact absurd (hworker rfl rfl).1 hx
    · rw [hp] at hpool
      exact absurd (hpool rfl rfl).1 hx
  | pending hp | ready hp | panicked hp =>
    rcases hp with ⟨hw, -⟩ | ⟨hp, -⟩
    · rw [hw] at hworker
      exact absurd (hworker rfl rfl).1 hx'
    · rw [hp] at hpool
      exact absurd (hpool rfl rfl).1 hx'
  | dropped hw =>
    rw [hw] at hworker
    exact absurd (hworker rfl rfl) hx'

/-- A closure that has a panic has that of its body. -/
theorem Inv.fate_of_panicked (h : Inv B v₀ s) (hp : s.pool.panicked = true) :
    ∃ t p, s.pool.task = some t ∧ s.fate t = .panicked p := by
  have hpool : ∀ t, s.pool.task = some t → s.pool.Knows t (s.fate t) (s.tasks t).resultTx :=
    fun t ht => h.channels.pool t (h.cells.pool t ht)
  cases hpc : s.pool with
  | unwind t p => exact ⟨t, p, rfl, by rw [hpc] at hpool; exact (hpool t rfl rfl).1⟩
  | unlock t res =>
    rw [hpc] at hp hpool
    cases res with
    | error p => exact ⟨t, p, rfl, hpool t rfl rfl⟩
    | ok => cases hp
  | done t res =>
    rw [hpc] at hp hpool
    match res with
    | some (.error p) => exact ⟨t, p, rfl, hpool t rfl rfl⟩
    | some (.ok ()) => cases hp
    | none => cases hp
  | _ => rw [hpc] at hp; cases hp

/-- A worker that was dropped has passed no panic on. -/
theorem Inv.not_taskPanic (h : Inv B v₀ s) (ht : t ∈ s.started) (hw : s.worker.wasDropped = true)
    (p : PanicPayload) : (s.tasks t).handle ≠ .resolved (.error (.taskPanic p)) := by
  intro hh
  have hsent := (h.channels.panicSent t p (h.explained_of_started ht hh)).2
  cases (h.not_dropped_of_panics (List.ne_nil_of_mem hsent)).symm.trans hw

/-- The handle of a body that has panicked has not resolved when the worker future is dropped. -/
theorem Inv.unresolved_of_panicked (h : Inv B v₀ s) (hw : s.worker.wasDropped = false) (h' : Inv B v₀ s')
    (hw' : s'.worker.wasDropped = true) (htasks : s'.tasks = s.tasks) {p : PanicPayload}
    (hx : s.fate t = .panicked p) (hx' : s'.fate t = .panicked p) (res : Except TaskError R) :
    (s'.tasks t).handle ≠ .resolved res := by
  intro hh'
  have hh := hh'
  rw [htasks] at hh
  have ht : t ∈ s.started := h.started_of_fate (by rw [hx]; nofun)
  have ht' : t ∈ s'.started := h'.started_of_fate (by rw [hx']; nofun)
  rcases (h.explained_of_started ht hh).cases with ⟨r, -, hs⟩ | ⟨p', rfl, -⟩ | hk
  · cases hx.symm.trans (h.channels.sent t r hs)
  · exact h'.not_taskPanic ht' hw' p' hh'
  · exact h.not_closed_of_started ht hw hk

/-- A panic that is lost: of a body that has panicked, whose worker future was dropped before its
handle has resolved. -/
theorem Inv.lostPanic_of_step (h : Inv B v₀ s) {a : Act F} (hs : Sys.step B s a = some s')
    (hl : s.losesPanic B a = true) : ∃ t p, s'.fate t = .panicked p ∧ s'.worker.wasDropped = true ∧
      ∀ res, (s'.tasks t).handle ≠ .resolved res := by
  have h' := h.step hs
  cases a with
  | dropWorker =>
    obtain ⟨t, p, -, hx⟩ := h.fate_of_panicked hl
    refine ⟨t, p, ?_⟩
    cases runtimeMove_of_dropWorker hs with
    | dropRecv _ hw | dropAsync _ hw | dropJoin _ hw =>
      exact ⟨hx, rfl, h.unresolved_of_panicked (by rw [hw]; rfl) h' rfl rfl hx hx⟩
  | pool =>
    simp only [losesPanic, Bool.and_eq_true, closurePanics] at hl
    obtain ⟨hw, hp⟩ := hl
    split at hp
    · rename_i t f v hpc hv
      cases poolMove_of_step hs with
      | panicked hpc' hv' hb =>
        cases hpc.symm.trans hpc'
        have hk := h.channels.pool t (h.cells.pool t (by rw [hpc]; rfl))
        rw [hpc] at hk
        exact ⟨t, _, Function.update_self .., hw, h.unresolved_of_running (hk rfl).1⟩
      | pending hpc' hv' hb | ready hpc' hv' hb =>
        cases hpc.symm.trans hpc'
        cases hv.symm.trans hv'
        rw [hb] at hp
        cases hp
      | _ hpc' => cases hpc.symm.trans hpc'
    · cases hp
  | _ => cases hl

/-- A panic that is lost stays lost. -/
theorem Inv.lostPanic_of_move (h : Inv B v₀ s) {a : Act F} (m : Move B s a s') {p : PanicPayload}
    (hx : s.fate t = .panicked p) (hw : s.worker.wasDropped = true) :
    s'.fate t = .panicked p ∧ s'.worker.wasDropped = true := by
  have hended := h.fate_of_ended m (by rw [hx]; nofun) (by rw [hx]; nofun)
  exact ⟨hended.trans hx, wasDropped_to_move m hw⟩

/-- Where no panic is lost the worker of a body that panicked is not dropped. -/
theorem not_dropped_of_run (hr : Run B (fun s a => s.losesPanic B a = false) (init v₀) s) {p : PanicPayload}
    (hx : s.fate t = .panicked p) : s.worker.wasDropped = false := by
  refine hr.invariant (P := fun u => u.fate t = .panicked p → u.worker.wasDropped = false) nofun
    (fun u v a hu hP hC hs hv => ?_) hx
  by_contra hw
  rcases ((inv_init v₀).run hu).losesPanic_of_move (move_of_step hs) hv (by simpa using hw) with ⟨hu', hw'⟩ | hl
  · cases (hP hu').symm.trans hw'
  · cases hC.symm.trans hl

/-- **A body that panics is reported as its own panic where none is lost**: in a run
in which the runtime does not drop the worker future before it has received the
panic of its blocking body, and no blocking body panics that outlives the future. And
a step that does lose a panic loses it for good: the handle of that body, which has not
resolved, never reports a panic, however the run goes on. -/
theorem panic_is_reported (B : Bodies S F R PanicPayload) (v₀ : S) :
    (∀ s t p, Run B (fun s a => s.losesPanic B a = false) (init v₀) s → s.fate t = .panicked p →
      s.worker.wasDropped = false ∧ ∀ res, (s.tasks t).handle = .resolved res → res = .error (.taskPanic p)) ∧
    ∀ s a s', Reachable B v₀ s → Sys.step B s a = some s' → s.losesPanic B a = true →
      ∃ t p, (∀ res, (s'.tasks t).handle ≠ .resolved res) ∧ ∀ s'', Run B Runs.Any s' s'' →
        s''.fate t = .panicked p ∧ ∀ p', (s''.tasks t).handle ≠ .resolved (.error (.taskPanic p')) := by
  constructor
  · intro s t p hr hx
    have hi := (inv_init v₀).run hr
    have hw := not_dropped_of_run hr hx
    refine ⟨hw, fun res hh => ?_⟩
    have ht : t ∈ s.started := hi.started_of_fate (by rw [hx]; nofun)
    rcases (hi.explained_of_started ht hh).cases with ⟨r, rfl, hs⟩ | ⟨p', rfl, hs⟩ | hk
    · cases hx.symm.trans (hi.channels.sent t r hs)
    · cases hx.symm.trans (hi.channels.panicSent t p' hs).1
      rfl
    · exact absurd hk (hi.not_closed_of_started ht hw)
  · intro s a s' h hs hl
    have hi := inv_of_reachable h
    obtain ⟨t, p, hx, hw, hh⟩ := hi.lostPanic_of_step hs hl
    refine ⟨t, p, hh, fun s'' hr => ?_⟩
    have hi' := hi.step hs
    obtain ⟨hx'', hw''⟩ := hr.invariant (P := fun u => u.fate t = .panicked p ∧ u.worker.wasDropped = true) ⟨hx, hw⟩
      fun u v b hu hP _ hv => (hi'.run hu).lostPanic_of_move (move_of_step hv) hP.1 hP.2
    have ht : t ∈ s''.started := (hi'.run hr).started_of_fate (by rw [hx'']; nofun)
    exact ⟨hx'', (hi'.run hr).not_taskPanic ht hw''⟩

/-- A blocking body panics while the worker waits for it. -/
def demoAttended : Sys ℕ ℕ ℕ := (demoExecIf (fun s a => !s.losesPanic demo a)
  [(1, .spawn .worker (.blocking 1)), (1, .pollWorker), (5, .worker), (5, .pool), (1, .pollWorker), (4, .worker),
    (1, .poll 0), (1, .pollStep 0 .left)]).get rfl

theorem demoAttended_run : Run demo (fun s a => s.losesPanic demo a = false) (init 0) demoAttended :=
  (demo_run (C := fun s a => !s.losesPanic demo a) rfl).mono fun _ _ hc => by simpa using hc

theorem panic_is_reported_demo : (demoAttended.tasks 0).handle = .resolved (.error (.taskPanic (.str "ten"))) ∧
    ∀ res, (demoAttended.tasks 0).handle = .resolved res → res = .error (.taskPanic (.str "ten")) :=
  ⟨rfl, ((panic_is_reported demo 0).1 demoAttended 0 (.str "ten") demoAttended_run rfl).2⟩

/-- A blocking body is running when its worker is aborted, and panics. -/
def demoPanicLost : Sys ℕ ℕ ℕ := (demoExec
  [(1, .spawn .worker (.blocking 1)), (1, .pollWorker), (5, .worker), (2, .pool), (1, .consume .abort), (6, .handle),
    (1, .dropWorker), (4, .worker), (3, .pool), (1, .poll 0), (4, .pollStep 0 .left)]).get rfl

theorem demoPanicLost_reachable : Reachable demo 0 demoPanicLost := demo_reachable rfl

/-- The handle of a body that panicked can report an abort. -/
theorem panic_misreported : ¬ ∀ (s : Sys ℕ ℕ ℕ) (t : ℕ) (p : PanicPayload) (res : Except TaskError ℕ),
    Reachable demo 0 s → s.fate t = .panicked p → (s.tasks t).handle = .resolved res →
      res = .error (.taskPanic p) := by
  intro hall
  have h := hall demoPanicLost 0 (.str "ten") (.error .workerAborted) demoPanicLost_reachable rfl rfl
  cases h

/-! ### A body is lost under a cancelled worker -/

/-- The body of `t` has started, and nobody will report how it ended. -/
def Lost (s : Sys S F R) (t : ℕ) : Prop :=
  (∃ f, s.worker = .dropBody t f) ∨ s.fate t = .dropped ∨
    (∃ p, s.fate t = .panicked p) ∧ s.worker.wasDropped = true

/-- Some body that has started is lost, and its handle has not resolved. -/
def anyLost (s : Sys S F R) : Bool :=
  s.started.any fun t =>
    ((match s.worker with | .dropBody u _ => u = t | _ => false) ||
      (match s.fate t with | .dropped => true | .panicked _ => s.worker.wasDropped | _ => false)) &&
      !((s.tasks t).handle matches .resolved _)

/-- The step loses a body that has started: its panic is lost, or the runtime drops the
worker future in an async body. -/
def losesBody (B : Bodies S F R PanicPayload) (s : Sys S F R) (a : Act F) : Bool :=
  s.losesPanic B a || (a matches .dropWorker) && (s.worker matches .asyncBody _ _ true)

/-- The step sets the flag to `CancelStarted`. -/
def setsCancel (s : Sys S F R) : Act F → Bool
  | .handle => (match s.handle with | .trySet op => op.cancels | _ => false) && s.flag = some .runningOrRuntimeShutdown
  | _ => false

/-- No body is lost while the flag is `CancelStarted`, and the flag is not set so while
the handle of a body lost before has yet to resolve. -/
def keepsBodies (B : Bodies S F R PanicPayload) (s : Sys S F R) (a : Act F) : Bool :=
  !(s.flag = some .cancelStarted && s.losesBody B a) && !(s.setsCancel a && s.anyLost)

/-- A lost body has started. -/
theorem Inv.started_of_lost (h : Inv B v₀ s) (hl : s.Lost t) : t ∈ s.started := by
  rcases hl with ⟨f, hw⟩ | hx | ⟨⟨p, hx⟩, -⟩
  · have hk := h.channels.worker t (h.cells.worker t (by rw [hw]; rfl))
    rw [hw] at hk
    exact h.started_of_fate (by rw [hk rfl]; nofun)
  · exact h.started_of_fate (by rw [hx]; nofun)
  · exact h.started_of_fate (by rw [hx]; nofun)

theorem Inv.anyLost_iff (h : Inv B v₀ s) :
    s.anyLost = true ↔ ∃ t, s.Lost t ∧ ∀ res, (s.tasks t).handle ≠ .resolved res := by
  rw [anyLost, List.any_eq_true]
  constructor
  · rintro ⟨t, -, ht⟩
    rw [Bool.and_eq_true, Bool.or_eq_true] at ht
    refine ⟨t, ?_, fun res hh => by simp [hh] at ht⟩
    rcases ht.1 with hw | hx
    · split at hw
      · rename_i u f hpc
        obtain rfl : u = t := by simpa using hw
        exact .inl ⟨f, hpc⟩
      · cases hw
    · split at hx
      · rename_i hx'
        exact .inr (.inl hx')
      · rename_i p hx'
        exact .inr (.inr ⟨⟨p, hx'⟩, hx⟩)
      · cases hx
  · rintro ⟨t, hl, hh⟩
    refine ⟨t, h.started_of_lost hl, ?_⟩
    have hopen : ((s.tasks t).handle matches .resolved _) = false := by
      split
      · rename_i res hres
        exact absurd hres (hh res)
      · rfl
    rw [hopen]
    rcases hl with ⟨f, hw⟩ | hx | ⟨⟨p, hx⟩, hw⟩ <;> simp_all

/-- A body that is lost was lost before, or is lost now. -/
theorem Inv.losesBody_of_move (h : Inv B v₀ s) {a : Act F} (m : Move B s a s') (hl : s'.Lost t) :
    s.Lost t ∨ s.losesBody B a = true := by
  have hm := m
  rcases hl with ⟨f, hw⟩ | hx | ⟨⟨p, hx⟩, hw⟩
  · cases m with
    | runtime m =>
      cases m with
      | @dropAsync u f' hd hw' =>
        right
        simp [losesBody, hw']
      | dropQueued | shutdown => exact .inl (.inl ⟨f, hw⟩)
      | _ => cases hw
    | worker m =>
      cases m with
      | corrupted => exact .inl (.inl ⟨f, hw⟩)
      | _ => cases hw
    | pool m | call m | taskHandle m | spawn m | spawner m | handle m => cases m <;> exact .inl (.inl ⟨f, hw⟩)
  · have hchange := fateChange_of_move m t
    generalize s'.fate t = x at hchange hx
    cases hchange with
    | same => exact .inl (.inr (.inl hx))
    | dropped hw _ => exact .inl (.inl ⟨_, hw⟩)
    | start | pending | ready | panicked => cases hx
  · rcases h.losesPanic_of_move hm hx hw with ⟨hx', hw'⟩ | hl
    · exact .inl (.inr (.inr ⟨⟨p, hx'⟩, hw'⟩))
    · exact .inr (by simp [losesBody, hl])

/-- The flag is `CancelStarted` when it was, or is set so now, and then only the handle moves. -/
theorem Inv.setsCancel_of_move (h : Inv B v₀ s) {a : Act F} (m : Move B s a s') (hf : s'.flag = some .cancelStarted) :
    s.flag = some .cancelStarted ∨
      s.setsCancel a = true ∧ s'.worker = s.worker ∧ s'.fate = s.fate := by
  by_cases hold : s.flag = some .cancelStarted
  · exact .inl hold
  right
  cases m with
  | handle m =>
    cases m with
    | @setCancel op hh ho hr =>
      refine ⟨?_, rfl, rfl⟩
      have hcan := h.status.undecided op (by rw [hh]; rfl) (by rw [hh]; rfl)
      have hop : op.cancels = true := by
        rcases hcan with ha | hc
        · cases op <;> simp_all [Consume.aborts]
        · exact hc
      simp [setsCancel, hh, hop, hr]
    | setAbort _ _ hr =>
      cases hf.symm.trans (WorkerStatus.flag_trySetAbortStarted ((WorkerStatus.trySetAbortStarted_fst _).mpr hr))
    | _ => exact absurd hf hold
  | worker m =>
    cases m with
    | setMsg => exact absurd ((WorkerStatus.flag_setPanicMsg ..).symm.trans hf) hold
    | storePanicked => cases (WorkerStatus.flag_storeTaskPanicked _).symm.trans hf
    | _ => exact absurd hf hold
  | runtime m | pool m | call m | taskHandle m | spawn m | spawner m => cases m <;> exact absurd hf hold

/-- Where no body is lost under a cancel the handles of those that were lost before have resolved. -/
theorem resolved_of_lost (hr : Run B (fun s a => s.keepsBodies B a = true) (init v₀) s)
    (hf : s.flag = some .cancelStarted) (hl : s.Lost t) : ∃ res, (s.tasks t).handle = .resolved res := by
  refine hr.invariant
    (P := fun u => u.flag = some .cancelStarted → u.Lost t → ∃ res, (u.tasks t).handle = .resolved res)
    nofun (fun u v a hu hP hC hs hf hl => ?_) hf hl
  have hi := (inv_init v₀).run hu
  have m := move_of_step hs
  simp only [keepsBodies, Bool.and_eq_true, Bool.not_eq_true', Bool.and_eq_false_iff, decide_eq_false_iff_not] at hC
  suffices hold : ∃ res, (u.tasks t).handle = .resolved res from hold.imp fun _ => hi.cells.resolved_of_move m
  rcases hi.setsCancel_of_move m hf with hfu | ⟨hset, hw, hx⟩
  · rcases hi.losesBody_of_move m hl with hlu | hlose
    · exact hP hfu hlu
    · rcases hC.1 with hC | hC
      · exact absurd hfu hC
      · cases hC.symm.trans hlose
  · rw [Lost, hw, hx] at hl
    rcases hC.2 with hC | hC
    · cases hC.symm.trans hset
    · by_contra hno
      cases hC.symm.trans (hi.anyLost_iff.mpr ⟨t, hl, fun res hh => hno ⟨res, hh⟩⟩)

/-- Who has a body that has not begun has its result sender. -/
theorem Inv.live_of_hasBody (h : Inv B v₀ s) (hb : s.HasBody t) : (s.tasks t).resultTx = .live := by
  rcases hb with ⟨raw, hw⟩ | hp
  · have hk := h.channels.worker t (h.cells.worker t (by rw [hw]; rfl))
    rw [hw] at hk
    exact (hk rfl).2.1
  · have hk := h.channels.pool t (h.cells.pool t (PoolPc.task_of_unbegun hp))
    cases hpc : s.pool <;> rw [hpc] at hk hp <;> grind

/-- Whose result sender was dropped before it started never starts. -/
theorem Inv.never_starts {C : Sys S F R → Act F → Prop} (h : Inv B v₀ s₁) (hd : (s₁.tasks t).resultTx = .dropped)
    (ht : t ∉ s₁.started) (hr : Run B C s₁ s₂) : t ∉ s₂.started := by
  refine (hr.invariant (P := fun u => (u.tasks t).resultTx = .dropped ∧ t ∉ u.started) ⟨hd, ht⟩
    fun u v a hu hP _ hs => ?_).2
  have hi := h.run hu
  have m := move_of_step hs
  refine ⟨(hi.cells.resultTx_of_move m).dropped_of_dropped hP.1, fun hv => ?_⟩
  rcases hi.custody.started_cases m with heq | ⟨w, hb, heq, -⟩
  · exact hP.2 (heq ▸ hv)
  · rw [heq, List.mem_append, List.mem_singleton] at hv
    obtain rfl := hv.resolve_left hP.2
    cases (hi.live_of_hasBody hb).symm.trans hP.1

/-- A closed task whose body has started is lost. -/
theorem Inv.lost_of_closed (h : Inv B v₀ s) (ht : t ∈ s.started) (hk : (s.tasks t).Closed) : s.Lost t := by
  rcases h.fate_of_closed ht hk with hx | hx
  · have hw : s.worker.wasDropped = true := by
      by_contra hw
      exact h.not_closed_of_started ht (by simpa using hw) hk
    exact .inr (.inr ⟨hx, hw⟩)
  · exact .inr (.inl hx)

/-- The worker with which a body was dropped was dropped. -/
theorem Inv.wasDropped_of_fate (h : Inv B v₀ s) (hx : s.fate t = .dropped) : s.worker.wasDropped = true := by
  rcases h.channels.dropped t hx with hw | hw | ho
  · rw [hw]; rfl
  · rw [hw]; rfl
  · cases hw : s.worker <;> rw [hw] at ho <;> grind

/-- A handle that reports `WorkerCancelled` belongs to a task that is closed and has not started. -/
theorem cancelled_of_run (hr : Run B (fun s a => s.keepsBodies B a = true) (init v₀) s)
    (hh : (s.tasks t).handle = .resolved (.error .workerCancelled)) : (s.tasks t).Closed ∧ t ∉ s.started := by
  have hclosed : ∀ {u : Sys S F R}, Inv B v₀ u → (u.tasks t).handle = .resolved (.error .workerCancelled) →
      (u.tasks t).Closed ∧ (u.tasks t).cancellable = true := by
    intro u hi hu
    by_cases hk : (u.tasks t).cancellable = true
    · exact ⟨(hi.handles.resolved t _ hu hk).1, hk⟩
    · obtain ⟨reason, hreason, -⟩ := hi.handles.rejected t _ hu (Bool.eq_false_iff.mpr hk)
      cases reason <;> cases hreason
  refine ⟨(hclosed ((inv_init v₀).run hr) hh).1, ?_⟩
  refine hr.invariant (P := fun u => (u.tasks t).handle = .resolved (.error .workerCancelled) → t ∉ u.started) nofun
    (fun u v a hu hP hC hs hv hst => ?_) hh
  have hi := (inv_init v₀).run hu
  have m := move_of_step hs
  have hone : Run B Runs.Any u v := .single trivial hs
  obtain ⟨-, hkv⟩ := hclosed (hi.move m) hv
  rcases hi.handles.resolves_of_change (handleChange_of_change (taskChange_of_move m t)) hv hkv with ⟨hold, -⟩ | hnew
  · exact hi.never_starts (hclosed hi hold).1.1 (hP hold) hone hst
  · cases hnew with
    | workerCancelled hh hf =>
      have hcu := hi.handles.knows t _ hh
      refine hi.never_starts hcu.1 (fun htu => ?_) hone hst
      obtain ⟨res, hres⟩ := resolved_of_lost hu hf (hi.lost_of_closed htu hcu)
      cases hh.symm.trans hres
    | taken hh =>
      have htk := hi.cells.handle t _ hh rfl
      exact hi.not_started_of_taker hone htk nofun hst

/-- The handle of a body that was dropped midway reports an abort or a shutdown. -/
theorem dropped_of_run (hr : Run B (fun s a => s.keepsBodies B a = true) (init v₀) s) (hx : s.fate t = .dropped)
    {res : Except TaskError R} (hh : (s.tasks t).handle = .resolved res) :
    res = .error .workerAborted ∨ res = .error .runtimeShutdown := by
  have hi := (inv_init v₀).run hr
  have ht : t ∈ s.started := hi.started_of_fate (by rw [hx]; nofun)
  have hto := hi.takers_of_started ht
  have hw := hi.wasDropped_of_fate hx
  have hexp := hi.explained_of_started ht hh
  cases res with
  | ok r => cases hx.symm.trans (hi.channels.sent t r hexp)
  | error e =>
    cases e with
    | taskPanic p => cases hx.symm.trans (hi.channels.panicSent t p hexp).1
    | taskCancelled =>
      obtain ⟨x, hx', hne⟩ := hi.taker_of_taskCancelled hh
      rw [hto] at hx'
      cases hx'
      exact absurd rfl hne
    | prevTaskPanic msg =>
      obtain ⟨-, u, p, hp, -⟩ := hexp
      cases (hi.not_dropped_of_panics (List.ne_nil_of_mem hp)).symm.trans hw
    | workerAborted => exact .inl rfl
    | workerCancelled => exact absurd ht (cancelled_of_run hr hh).2
    | runtimeShutdown => exact .inr rfl
    | taskSpawnerUnavailable => exact hexp.elim

/-! ### A body that is lost under a cancel -/

/-- The worker of a body that is lost was dropped. -/
theorem Inv.wasDropped_of_lost (h : Inv B v₀ s) (hl : s.Lost t) : s.worker.wasDropped = true := by
  rcases hl with ⟨f, hw⟩ | hx | ⟨-, hw⟩
  · rw [hw]; rfl
  · exact h.wasDropped_of_fate hx
  · exact hw

/-- A body that is lost stays lost. -/
theorem Inv.lost_of_move (h : Inv B v₀ s) {a : Act F} (m : Move B s a s') (hl : s.Lost t) : s'.Lost t := by
  rcases hl with ⟨f, hw⟩ | hx | ⟨⟨p, hx⟩, hw⟩
  · cases m with
    | worker m =>
      cases m with
      | dropBody hw' =>
        cases hw.symm.trans hw'
        exact .inr (.inl (Function.update_self ..))
      | corrupted hw' => cases hw.symm.trans hw'
      | _ hw' => cases hw.symm.trans hw'
    | runtime m => cases m <;> grind [Lost]
    | pool m | call m | taskHandle m | spawn m | spawner m | handle m => cases m <;> exact .inl ⟨f, hw⟩
  · exact .inr (.inl ((h.fate_of_ended m (by rw [hx]; nofun) (by rw [hx]; nofun)).trans hx))
  · obtain ⟨hx', hw'⟩ := h.lostPanic_of_move m hx hw
    exact .inr (.inr ⟨⟨p, hx'⟩, hw'⟩)

/-- A worker that was dropped leaves the flag `CancelStarted` as it is. -/
theorem flag_of_dropped {a : Act F} (m : Move B s a s') (hf : s.flag = some .cancelStarted)
    (hw : s.worker.wasDropped = true) : s'.flag = some .cancelStarted := by
  cases m with
  | worker m => cases m <;> first | exact hf | simp_all [WorkerPc.wasDropped]
  | handle m =>
    cases m with
    | setAbort _ _ hr | setCancel _ _ hr => simp [hf] at hr
    | _ => exact hf
  | runtime m | pool m | call m | taskHandle m | spawn m | spawner m => cases m <;> exact hf

/-- How the handle of a body that is lost resolves under a cancel. -/
theorem Inv.cancelled_of_lost (h : Inv B v₀ s) {a : Act F} (m : Move B s a s') (hl : s.Lost t)
    (hf : s.flag = some .cancelStarted)
    (hP : ∀ res, (s.tasks t).handle = .resolved res → res = .error .workerCancelled) {res : Except TaskError R}
    (hh : (s'.tasks t).handle = .resolved res) : res = .error .workerCancelled := by
  have ht := h.started_of_lost hl
  have htk := h.takers_of_started ht
  have hk : (s'.tasks t).cancellable = true :=
    (h.move m).cancellable_of_takers (by rw [h.cells.takers_of_move m (by simp [htk]), htk]; nofun)
  rcases h.handles.resolves_of_change (handleChange_of_change (taskChange_of_move m t)) hh hk with ⟨hold, -⟩ | hnew
  · exact hP res hold
  · cases hnew with
    | ok hs =>
      have hx := h.channels.sent t _ hs
      rcases hl with ⟨f, hw⟩ | hx' | ⟨⟨p, hx'⟩, -⟩
      · have hknows := h.channels.worker t htk
        rw [hw] at hknows
        cases (hknows rfl).symm.trans hx
      · cases hx'.symm.trans hx
      · cases hx'.symm.trans hx
    | taskPanic hs =>
      have hsent := (h.channels.panicSent t _ hs).2
      cases (h.not_dropped_of_panics (List.ne_nil_of_mem hsent)).symm.trans (h.wasDropped_of_lost hl)
    | taskCancelled _ hc => rcases h.handles.isCancelled t hc with ⟨i, hx⟩ | hx <;> cases htk.symm.trans hx
    | workerAborted _ hf' | runtimeShutdown _ hf' => cases hf.symm.trans hf'
    | prevTaskPanic hh' => cases hf.symm.trans (h.handles.panicMsg t (.inl hh'))
    | workerCancelled | taken => rfl

/-- A body that is lost now: its handle has not resolved. -/
theorem Inv.lostBody_of_step (h : Inv B v₀ s) {a : Act F} (hs : Sys.step B s a = some s')
    (hl : s.losesBody B a = true) : ∃ t, s'.Lost t ∧ ∀ res, (s'.tasks t).handle ≠ .resolved res := by
  simp only [losesBody, Bool.or_eq_true, Bool.and_eq_true] at hl
  rcases hl with hl | ⟨ha, hw⟩
  · obtain ⟨t, p, hx, hw, hh⟩ := h.lostPanic_of_step hs hl
    exact ⟨t, .inr (.inr ⟨⟨p, hx⟩, hw⟩), hh⟩
  · cases a with
    | dropWorker =>
      cases hpc : s.worker with
      | asyncBody t f parked =>
        have hk := h.channels.worker t (h.cells.worker t (by rw [hpc]; rfl))
        rw [hpc] at hk
        cases runtimeMove_of_dropWorker hs with
        | dropAsync _ hw' =>
          cases hpc.symm.trans hw'
          exact ⟨t, .inl ⟨f, rfl⟩, h.unresolved_of_running (hk rfl).1⟩
        | dropRecv _ hw' | dropJoin _ hw' => cases hpc.symm.trans hw'
      | _ => rw [hpc] at hw; cases hw
    | _ => cases ha

/-- A step that sets the flag to `CancelStarted` does nothing to tasks and bodies. -/
theorem flag_of_setsCancel {a : Act F} (m : Move B s a s') (hset : s.setsCancel a = true) :
    s'.flag = some .cancelStarted ∧ s'.tasks = s.tasks ∧ s'.worker = s.worker ∧ s'.fate = s.fate := by
  cases m with
  | handle m =>
    cases m with
    | setCancel _ _ hr =>
      exact ⟨WorkerStatus.flag_trySetCancelStarted ((WorkerStatus.trySetCancelStarted_fst _).mpr hr), rfl, rfl, rfl⟩
    | setAbort hh ho hr => rcases ho with rfl | rfl <;> simp [setsCancel, hh, Consume.cancels] at hset
    | setFailed hh hr => simp [setsCancel, hr] at hset
    | _ => simp_all [setsCancel]
  | worker m | runtime m | pool m | call m | taskHandle m | spawn m | spawner m => cases m <;> cases hset

/-- A step that does not keep the bodies leaves one lost under a cancel, with its handle to resolve. -/
theorem Inv.lost_of_step (h : Inv B v₀ s) {a : Act F} (hs : Sys.step B s a = some s')
    (hC : s.keepsBodies B a = false) :
    s'.flag = some .cancelStarted ∧ ∃ t, s'.Lost t ∧ ∀ res, (s'.tasks t).handle ≠ .resolved res := by
  have m := move_of_step hs
  have hC' : s.flag = some .cancelStarted ∧ s.losesBody B a = true ∨ s.setsCancel a = true ∧ s.anyLost = true := by
    cases hl : s.losesBody B a <;> cases hset : s.setsCancel a <;> cases hany : s.anyLost <;>
      simp_all [keepsBodies]
  rcases hC' with ⟨hf, hl⟩ | ⟨hset, hany⟩
  · refine ⟨?_, h.lostBody_of_step hs hl⟩
    -- a step that loses a body is none of the worker's, nor of the worker handle's
    cases a with
    | dropWorker => cases runtimeMove_of_dropWorker hs <;> exact hf
    | pool => cases poolMove_of_step hs <;> exact hf
    | _ => cases hl
  · obtain ⟨hf, htasks, hw, hx⟩ := flag_of_setsCancel m hset
    obtain ⟨t, hl, hh⟩ := h.anyLost_iff.mp hany
    exact ⟨hf, t, by rwa [Lost, hw, hx], by rwa [htasks]⟩

/-- **A started body is not reported as cancelled by the worker where no body is lost
under a cancel**: in a run in which, while the flag is `CancelStarted`, the runtime
does not drop the worker future in an async body or with a panic that it has not
received, and no blocking body that outlives the future panics; and in which the
flag is not set to `CancelStarted` while the handle of a body that was lost so has yet
to resolve. And a step that does one of these leaves a started body whose handle has
not resolved and can only resolve to `WorkerCancelled`, however the run goes on. -/
theorem cancelled_not_started (B : Bodies S F R PanicPayload) (v₀ : S) :
    (∀ s t, Run B (fun s a => s.keepsBodies B a = true) (init v₀) s →
      ((s.tasks t).handle = .resolved (.error .workerCancelled) →
        t ∉ s.started ∧ ∀ s', Run B Runs.Any s s' → t ∉ s'.started) ∧
      (s.fate t = .dropped → ∀ res, (s.tasks t).handle = .resolved res →
        res = .error .workerAborted ∨ res = .error .runtimeShutdown)) ∧
    ∀ s a s', Reachable B v₀ s → Sys.step B s a = some s' → s.keepsBodies B a = false →
      ∃ t ∈ s'.started, (∀ res, (s'.tasks t).handle ≠ .resolved res) ∧ ∀ s'', Run B Runs.Any s' s'' →
        ∀ res, (s''.tasks t).handle = .resolved res → res = .error .workerCancelled := by
  constructor
  · intro s t hr
    have hi := (inv_init v₀).run hr
    refine ⟨fun hh => ?_, fun hx res hh => ?_⟩
    · obtain ⟨hk, ht⟩ := cancelled_of_run hr hh
      exact ⟨ht, fun s' hr' => hi.never_starts hk.1 ht hr'⟩
    · exact dropped_of_run hr hx hh
  · intro s a s' h hs hC
    have hi' := (inv_of_reachable h).step hs
    obtain ⟨hf, t, hl, hh⟩ := (inv_of_reachable h).lost_of_step hs hC
    refine ⟨t, hi'.started_of_lost hl, hh, fun s'' hr => ?_⟩
    refine (hr.invariant (P := fun u => (u.flag = some .cancelStarted ∧ u.Lost t) ∧
      ∀ res, (u.tasks t).handle = .resolved res → res = .error .workerCancelled)
      ⟨⟨hf, hl⟩, fun res hres => absurd hres (hh res)⟩ fun u v b hu hP _ hv => ?_).2
    obtain ⟨⟨hfu, hlu⟩, hPu⟩ := hP
    have hiu := hi'.run hu
    have m := move_of_step hv
    exact ⟨⟨flag_of_dropped m hfu (hiu.wasDropped_of_lost hlu), hiu.lost_of_move m hlu⟩,
      fun res => hiu.cancelled_of_lost m hlu hfu hPu⟩

/-- A cancel, with an async body in progress and another queued; the first goes on, and the second is dropped. -/
def demoKept : Sys ℕ ℕ ℕ := (demoExecIf (keepsBodies demo)
  [(1, .spawn .worker (.async 2)), (1, .spawn .worker (.async 0)), (1, .pollWorker), (5, .worker),
    (1, .consume .cancelAndJoin), (2, .handle), (1, .pollWorker), (12, .worker), (1, .poll 1),
    (4, .pollStep 1 .left)]).get rfl

theorem demoKept_run : Run demo (fun s a => s.keepsBodies demo a = true) (init 0) demoKept :=
  demo_run (C := keepsBodies demo) rfl

theorem cancelled_not_started_demo : (demoKept.tasks 1).handle = .resolved (.error .workerCancelled) ∧
    demoKept.started = [0] ∧ ∀ s', Run demo Runs.Any demoKept s' → 1 ∉ s'.started :=
  ⟨rfl, rfl, (((cancelled_not_started demo 0).1 demoKept 1 demoKept_run).1 rfl).2⟩

/-- A cancel, with an async body in progress, and then a shutdown that drops it. -/
def demoBodyLost : Sys ℕ ℕ ℕ := (demoExec
  [(1, .spawn .worker (.async 2)), (1, .pollWorker), (5, .worker), (1, .consume .cancel), (2, .handle), (1, .shutdown),
    (1, .dropWorker), (7, .worker), (1, .poll 0), (4, .pollStep 0 .left)]).get rfl

theorem demoBodyLost_reachable : Reachable demo 0 demoBodyLost := demo_reachable rfl

/-- The handle of a body that started and was dropped midway can report a cancel. -/
theorem started_reported_cancelled : ¬ ∀ (s : Sys ℕ ℕ ℕ) (t : ℕ), Reachable demo 0 s →
    (s.tasks t).handle = .resolved (.error .workerCancelled) → t ∉ s.started := by
  intro hall
  exact hall demoBodyLost 0 demoBodyLost_reachable rfl (by decide)

end Sys

end AsyncSequential
