import AsyncSequential.Sequential

/-!
# What a join returns

A join returns the shared state, wrapped in an error when something went wrong.
Here the outcome of the worker, the recorded status and the history of the
bodies are brought together: when there is an error, which one, and which state
is inside.
-/

namespace AsyncSequential

variable {S F R : Type*}

namespace Sys

variable {B : Bodies S F R PanicPayload} {v₀ : S} {s : Sys S F R} {t : ℕ} {op : Consume} {res : JoinResult S}

/-- The state inside the result of a join is what the bodies have left. -/
theorem Inv.state_of_returned (h : Inv B v₀ s) (hh : s.handle = .returned op res) :
    res.state = B.replay (s.log.trace s.started) v₀ := by
  obtain ⟨v, hv, hseq⟩ := h.replay.sequential
  have hvalue : s.value = none := h.custody.value.mpr (by simp [hh, HandlePc.state?])
  rw [current, hvalue, hh] at hv
  exact (Option.some.inj hv).trans hseq.current.symm

/-- A worker that ended well has seen every started body return. -/
theorem Inv.completed_of_ok (h : Inv B v₀ s) (hw : s.worker = .ended .ok) :
    ∀ t ∈ s.started, ∃ r, s.fate t = .completed r :=
  h.replay.calm (.inl (by rw [hw]; rfl))

/-- A panic that is recorded is that of the last body that started. -/
theorem Inv.last_of_panicked (h : Inv B v₀ s) {p : PanicPayload} (hp : (t, p) ∈ s.panics) :
    ∃ ts, s.started = ts ++ [t] := by
  obtain ⟨v, -, hseq⟩ := h.replay.sequential
  have hfate := h.channels.recorded t p hp
  have hmem : t ∈ s.started := h.started_of_fate (by simp [hfate])
  obtain ⟨ts, u, hts⟩ := List.eq_nil_or_concat s.started |>.resolve_left (List.ne_nil_of_mem hmem)
  rw [List.concat_eq_append] at hts
  refine ⟨ts, ?_⟩
  by_cases htu : t = u
  · rw [hts, htu]
  · have hin : t ∈ ts := by simpa [hts, htu] using hmem
    obtain ⟨r, hr⟩ := hseq.before ts u hts t hin
    cases hfate.symm.trans hr

/-- A worker that is dropped is dropped by an abort, or at a shutdown. -/
theorem Inv.aborts_of_ended (h : Inv B v₀ s) (hw : s.worker = .ended .aborted) (hop : s.handle.op? = some op) :
    op.aborts = true ∨ s.down = true := by
  rcases h.ending.aborted (by rw [hw]; rfl) with ha | hd
  · obtain ⟨op', hop', ho⟩ := (h.status.aborting ha).1
    cases hop.symm.trans hop'
    exact .inl ho
  · exact .inr hd

/-- A worker that failed has recorded a panic, or fails at a shutdown. -/
theorem Inv.panicked_of_ended (h : Inv B v₀ s) (hw : s.worker = .ended .err) :
    (s.flag = some .taskPanicked ∧ ∃ t p, (t, p) ∈ s.panics) ∨ s.down = true := by
  rcases h.ending.erred (by rw [hw]; rfl) with hp | hd
  · have hf := h.status.panicked.mpr hp
    exact .inl ⟨hf, h.status.exists_of_flag hf⟩
  · exact .inr hd

/-- A worker that ended well, or was dropped, has recorded no panic. -/
theorem Inv.flag_ne_of_ended (h : Inv B v₀ s) {out : WorkerOut} (hw : s.worker = .ended out) (ho : out ≠ .err) :
    s.flag ≠ some .taskPanicked := by
  intro hf
  refine h.status.panicked.mp hf (h.status.panics_eq_nil (.inl ?_))
  simp [hw, WorkerPc.stage, ho]

/-! ### A state handed back is never poisoned -/

/-- `join` and `cancel_and_join` hand back the state when the worker ended well. -/
theorem Inv.ok_iff_ended (h : Inv B v₀ s) (ho : op = .join ∨ op = .cancelAndJoin)
    (hh : s.handle = .returned op res) : (∃ v, res = .ok v) ↔ s.worker = .ended .ok := by
  obtain ⟨out, hw, hres⟩ := h.ending.returned op res hh
  rw [hw, hres]
  cases out with
  | ok => rcases ho with rfl | rfl <;> exact iff_of_true ⟨_, rfl⟩ rfl
  | aborted => exact iff_of_false nofun nofun
  | err =>
    refine iff_of_false ?_ nofun
    rintro ⟨v, hv⟩
    simp only [joined] at hv
    split at hv <;> cases hv

/-- Without a shutdown their errors report a panic that is recorded. -/
theorem Inv.panic_of_error (h : Inv B v₀ s) (ho : op = .join ∨ op = .cancelAndJoin) (hd : s.down = false)
    {e : PoisonError S} (hh : s.handle = .returned op (.error e)) :
    e.isTaskPanic = true ∧ ∃ t p, (t, p) ∈ s.panics := by
  obtain ⟨out, hw, hres⟩ := h.ending.returned op _ hh
  cases out with
  | ok => rcases ho with rfl | rfl <;> cases hres
  | aborted =>
    have hab := h.aborts_of_ended hw (show s.handle.op? = some op by rw [hh]; rfl)
    rcases ho with rfl | rfl <;> simp [hd, Consume.aborts] at hab
  | err =>
    rcases h.panicked_of_ended hw with ⟨hf, hp⟩ | hd'
    · simp only [joined, hf] at hres
      refine ⟨?_, hp⟩
      rw [Except.error.inj hres]
      rfl
    · simp [hd] at hd'

/-- **A state handed back is never poisoned**: when `join` or `cancel_and_join`
hands the state back, every body that started has returned and the state is what
the last of them left; when a body panicked or was dropped they return an error.
Without a shutdown there is an error exactly after a panic, and it reports it. -/
theorem ok_never_poisoned (h : Reachable B v₀ s) (ho : op = .join ∨ op = .cancelAndJoin)
    (hh : s.handle = .returned op res) :
    (∀ v, res = .ok v →
      (∀ t ∈ s.started, ∃ r, s.fate t = .completed r) ∧ v = B.replay (s.log.trace s.started) v₀) ∧
    ((∃ t ∈ s.started, (∃ p, s.fate t = .panicked p) ∨ s.fate t = .dropped) → ∃ e, res = .error e) ∧
    (s.down = false →
      ((∃ e, res = .error e) ↔ ∃ t ∈ s.started, ∃ p, s.fate t = .panicked p) ∧
      ∀ e, res = .error e → e.isTaskPanic = true) := by
  have hi := inv_of_reachable h
  have hok : ∀ v, res = .ok v → ∀ t ∈ s.started, ∃ r, s.fate t = .completed r := fun v hv =>
    hi.completed_of_ok ((hi.ok_iff_ended ho hh).mp ⟨v, hv⟩)
  have hbad : (∃ t ∈ s.started, (∃ p, s.fate t = .panicked p) ∨ s.fate t = .dropped) → ∃ e, res = .error e := by
    rintro ⟨t, ht, hfate⟩
    cases res with
    | error e => exact ⟨e, rfl⟩
    | ok v =>
      obtain ⟨r, hr⟩ := hok v rfl t ht
      rcases hfate with ⟨p, hp⟩ | hd
      · cases hr.symm.trans hp
      · cases hr.symm.trans hd
  refine ⟨?_, hbad, fun hd => ⟨⟨?_, ?_⟩, ?_⟩⟩
  · rintro v rfl
    exact ⟨hok v rfl, hi.state_of_returned hh⟩
  · rintro ⟨e, rfl⟩
    obtain ⟨-, t, p, hp⟩ := hi.panic_of_error ho hd hh
    have hfate := hi.channels.recorded t p hp
    exact ⟨t, hi.started_of_fate (by simp [hfate]), p, hfate⟩
  · rintro ⟨t, ht, p, hp⟩
    exact hbad ⟨t, ht, .inl ⟨p, hp⟩⟩
  · rintro e rfl
    exact (hi.panic_of_error ho hd hh).1

/-- A body that panics under `cancel_and_join`. -/
def demoPanic : Sys ℕ ℕ ℕ := (demoExec
  [(1, .spawn .worker (.async 3)), (1, .pollWorker), (5, .worker), (1, .consume .cancelAndJoin), (5, .handle),
    (1, .pollWorker), (9, .worker), (6, .handle)]).get rfl

theorem demoPanic_reachable : Reachable demo 0 demoPanic := demo_reachable rfl

theorem ok_never_poisoned_demo : demoPanic.handle = .returned .cancelAndJoin (.error ⟨.anyTaskPanic (some "ten") 110⟩) ∧
    ∃ t ∈ demoPanic.started, ∃ p, demoPanic.fate t = .panicked p :=
  ⟨rfl, ((ok_never_poisoned demoPanic_reachable (.inr rfl) rfl).2.2 rfl).1.mp ⟨_, rfl⟩⟩

/-! ### `abort_and_join` and the outcome of the worker -/

/-- What a `PoisonError` of `abort_and_join` should report: the panic that is
recorded in the status, or else the abort. -/
def ReportsAbort (s : Sys S F R) (res : JoinResult S) : Prop :=
  ∃ e, res = .error e ∧ e.isRuntimeShutdown = false ∧
    (s.flag = some .taskPanicked → e.isTaskPanic = true) ∧
    (s.flag ≠ some .taskPanicked → e.isWorkerAborted = true)

/-- **`abort_and_join` reports the abort only of a worker that outran it**: it does
when the worker future returned before the runtime could drop it. When the abort
took effect `join_worker` takes the `JoinError` for a shutdown. -/
theorem abortAndJoin_reports_iff (h : Reachable B v₀ s) (hd : s.down = false)
    (hh : s.handle = .returned .abortAndJoin res) : s.ReportsAbort res ↔ s.worker ≠ .ended .aborted := by
  have hi := inv_of_reachable h
  obtain ⟨out, hw, hres⟩ := hi.ending.returned _ res hh
  cases out with
  | ok =>
    have hf := hi.flag_ne_of_ended hw (by decide)
    refine iff_of_true ⟨_, hres, rfl, fun hf' => absurd hf' hf, fun _ => rfl⟩ ?_
    simp [hw]
  | err =>
    rcases hi.panicked_of_ended hw with ⟨hf, -⟩ | hd'
    · simp only [joined, hf] at hres
      refine iff_of_true ⟨_, hres, rfl, fun _ => rfl, fun hf' => absurd hf hf'⟩ ?_
      simp [hw]
    · simp [hd] at hd'
  | aborted =>
    refine iff_of_false ?_ (fun hne => hne hw)
    rintro ⟨e, he, hr, -⟩
    cases he.symm.trans hres
    cases hr

/-- The poll in progress finds the queue empty and closed before the abort lands. -/
def demoOutrun : Sys ℕ ℕ ℕ := (demoExec
  [(1, .pollWorker), (1, .consume .abortAndJoin), (6, .handle), (4, .worker), (5, .handle)]).get rfl

theorem demoOutrun_reachable : Reachable demo 0 demoOutrun := demo_reachable rfl

theorem abortAndJoin_reports_iff_demo : demoOutrun.handle = .returned .abortAndJoin (.error ⟨.workerAborted 0⟩) ∧
    demoOutrun.ReportsAbort (.error ⟨.workerAborted 0⟩) :=
  ⟨rfl, (abortAndJoin_reports_iff demoOutrun_reachable rfl rfl).mpr nofun⟩

/-- An idle worker is aborted. -/
def demoIdle : Sys ℕ ℕ ℕ := (demoExec
  [(1, .consume .abortAndJoin), (6, .handle), (1, .dropWorker), (3, .worker), (5, .handle)]).get rfl

theorem demoIdle_reachable : Reachable demo 0 demoIdle := demo_reachable rfl

/-- The abort of an idle worker is reported as a shutdown. -/
theorem abortAndJoin_idle : ¬ ∀ (s : Sys ℕ ℕ ℕ) (res : JoinResult ℕ), Reachable demo 0 s → s.down = false →
    s.handle = .returned .abortAndJoin res → s.ReportsAbort res := by
  intro hall
  obtain ⟨e, he, hr, -⟩ := hall demoIdle (.error ⟨.runtimeShutdown 0⟩) demoIdle_reachable rfl rfl
  cases he
  cases hr

end Sys

end AsyncSequential
