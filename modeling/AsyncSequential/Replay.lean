import AsyncSequential.Order
import AsyncSequential.Lib.Sequence

/-!
# The worker is a sequential executor

Whatever the worker, its blocking closures and the runtime do, the bodies are
run on the shared value one after the other: `Replay` relates a system to the
sequential executor of `Lib.Sequence`, whose log is the system's history and
whose value is the shared state, wherever it is. A body starts as the executor
starts one, a segment is a segment of the executor's body in progress, the drop
of a suspended body is the executor's drop, and every other step changes nothing
that the executor sees.
-/

namespace AsyncSequential

variable {S F R : Type*}

/-! ### The executor's view of a system -/

/-- The body that the worker is in, and what it has left to do. -/
@[grind] def WorkerPc.body? : WorkerPc F R → Option (ℕ × F)
  | .asyncBody t f _ | .dropBody t f => some (t, f)
  | _ => none

/-- The body that the closure is in. -/
@[grind] def PoolPc.body? : PoolPc F R → Option (ℕ × F)
  | .running t f => some (t, f)
  | _ => none

/-- The worker has seen every body return that has started. -/
@[grind] def WorkerPc.calm : WorkerPc F R → Bool
  | .recv _ | .dequeued _ | .checked _ | .took _ _ | .asyncSend _ _ => true
  | .asyncUnlock _ res | .result _ res => res.isOk
  | .dropping _ out | .ended out => out = .ok
  | _ => false

/-- So has the closure. -/
@[grind] def PoolPc.calm : PoolPc F R → Bool
  | .queued _ _ | .locked _ _ | .send _ _ => true
  | .unlock _ res | .done _ (some res) => res.isOk
  | _ => false

@[grind →] theorem PoolPc.task_of_calm {p : PoolPc F R} (h : p.calm = true) : p.task ≠ none := by
  cases p <;> simp_all [calm, task]

theorem PoolPc.body?_of_idle {p : PoolPc F R} (h : p.task = none) : p.body? = none := by
  cases p <;> simp_all [task, body?]

namespace Sys

variable {B : Bodies S F R PanicPayload} {v₀ : S} {s s' : Sys S F R} {t : ℕ}

/-- What has been observed of the bodies. -/
def log (s : Sys S F R) : Log ℕ F R PanicPayload := ⟨s.started, s.body, s.segs, s.fate⟩

/-- The body in progress. -/
def busy (s : Sys S F R) : Option (ℕ × F) := s.worker.body?.or s.pool.body?

/-- The shared state: in the mutex, or taken by a join. -/
def current (s : Sys S F R) : Option S := s.value.or s.handle.state?

/-- The system refines the sequential executor begun with `v₀`. -/
structure Replay (B : Bodies S F R PanicPayload) (v₀ : S) (s : Sys S F R) : Prop where
  /-- The history is that of a sequential execution, which has left the shared state. -/
  sequential : ∃ v, s.current = some v ∧ B.Sequential v₀ s.log v s.busy
  /-- The worker took the body that the task was spawned with. -/
  took : ∀ t raw, s.worker = .took t raw → s.body t = some raw.body
  /-- So did the closure. -/
  queued : ∀ t f, s.pool = .queued t f ∨ s.pool = .locked t f → s.body t = some f
  /-- Where a body can start, those before it have returned. -/
  calm : s.worker.calm = true ∨ s.pool.calm = true → ∀ t ∈ s.started, ∃ r, s.fate t = .completed r

theorem replay_init (v : S) : Replay B v (init v) := by
  constructor
  case sequential => exact ⟨v, rfl, Bodies.Sequential.init v⟩
  all_goals simp [init]

/-- While the worker has not ended the shared state is in the mutex. -/
theorem current_eq (hcu : s.Custody) (hw : s.worker.ended? = none) : s.current = s.value := by
  have hv := hcu.value_ne_none hw
  cases h : s.value with
  | none => exact absurd h hv
  | some v => simp [current, h]

/-- A worker that is not in a body has left it to the closure. -/
theorem busy_eq_pool (hw : s.worker.body? = none) : s.busy = s.pool.body? := by
  simp [busy, hw]

/-- While there is a closure the worker is in no body. -/
theorem body?_eq_none (hcu : s.Custody) (hp : s.pool.task ≠ none) : s.worker.body? = none := by
  obtain ⟨t, ht⟩ := Option.ne_none_iff_exists'.mp hp
  have hph := hcu.closure t ht
  cases hw : s.worker <;> simp_all [WorkerPc.phase, WorkerPc.body?]

/-- While there is a closure the worker is not calm. -/
theorem calm_eq_false (hcu : s.Custody) (hp : s.pool.task ≠ none) : s.worker.calm = false := by
  obtain ⟨t, ht⟩ := Option.ne_none_iff_exists'.mp hp
  have hph := hcu.closure t ht
  cases hw : s.worker <;> simp_all [WorkerPc.phase, WorkerPc.calm]

theorem sequential_of_pool {v : S} (hw : s.worker.body? = none) (h : B.Sequential v₀ s.log v s.pool.body?) :
    B.Sequential v₀ s.log v s.busy := by
  rw [busy_eq_pool hw]
  exact h

theorem sequential_of_idle {v : S} (hw : s.worker.body? = none) (hp : s.pool.body? = none)
    (h : B.Sequential v₀ s.log v none) : B.Sequential v₀ s.log v s.busy :=
  sequential_of_pool hw (by rw [hp]; exact h)

theorem busy_eq_worker {f : F} (hw : s.worker.body? = some (t, f)) : s.busy = some (t, f) := by
  simp [busy, hw]

/-- A task that the worker has taken, or its closure, and not started, has not started. -/
theorem Order.not_started (h : s.Order) (hw : (∃ raw, s.worker = .took t raw) ∨ s.pool.unbegun? = some t) :
    t ∉ s.started := by
  obtain ⟨rest, hf, hrest⟩ := h.started
  have hr : rest = [t] := by
    rcases hw with ⟨raw, hw⟩ | hp
    · exact hrest.took t raw hw
    · exact hrest.unbegun t hp
  have hn : (s.popped.filter s.taken).Nodup := by
    have hn := h.nodup
    rw [h.accepted] at hn
    exact ((List.nodup_append.mp (List.nodup_append.mp hn).1).1).filter _
  rw [hf, hr] at hn
  exact fun ht => (List.nodup_append.mp hn).2.2 t ht t (List.mem_singleton_self t) rfl

theorem Replay.sequential_worker (h : Replay B v₀ s) (ho : s.Order) (hcu : s.Custody) (m : WorkerMove B s s') :
    ∃ v, s'.current = some v ∧ B.Sequential v₀ s'.log v s'.busy := by
  obtain ⟨v, hcur, hseq⟩ := h.sequential
  have hmutex : s.worker.ended? = none → s.value = some v := fun hw => (current_eq hcu hw).symm.trans hcur
  cases m with
  | @startAsync t f w hw hl hv =>
    have hp := hcu.pool_idle (by simp [hw, WorkerPc.phase]) (by simp [hw, WorkerPc.phase])
    have hidle : s.busy = none := by
      rw [busy_eq_pool (by rw [hw]; rfl)]
      exact PoolPc.body?_of_idle hp
    rw [hidle] at hseq
    have hcalm := h.calm (.inl (by rw [hw]; rfl))
    exact ⟨v, hcur, hseq.start (ho.not_started (.inl ⟨_, hw⟩)) (h.took t _ hw) hcalm⟩
  | @asyncPending t f f' w w' hw hv hp =>
    rw [busy_eq_worker (by rw [hw]; rfl)] at hseq
    obtain rfl : w = v := Option.some.inj (hv.symm.trans (hmutex (by rw [hw]; rfl)))
    exact ⟨w', rfl, hseq.pending hp⟩
  | @asyncReady t f w w' r hw hv hp =>
    rw [busy_eq_worker (by rw [hw]; rfl)] at hseq
    obtain rfl : w = v := Option.some.inj (hv.symm.trans (hmutex (by rw [hw]; rfl)))
    have hpool := hcu.pool_idle (by simp [hw, WorkerPc.phase]) (by simp [hw, WorkerPc.phase])
    exact ⟨w', rfl, sequential_of_idle rfl (PoolPc.body?_of_idle hpool) (hseq.ready hp)⟩
  | @asyncPanicked t f w w' p hw hv hp =>
    rw [busy_eq_worker (by rw [hw]; rfl)] at hseq
    obtain rfl : w = v := Option.some.inj (hv.symm.trans (hmutex (by rw [hw]; rfl)))
    have hpool := hcu.pool_idle (by simp [hw, WorkerPc.phase]) (by simp [hw, WorkerPc.phase])
    exact ⟨w', rfl, sequential_of_idle rfl (PoolPc.body?_of_idle hpool) (hseq.panicked hp)⟩
  | @dropBody t f hw =>
    rw [busy_eq_worker (by rw [hw]; rfl)] at hseq
    have hpool := hcu.pool_idle (by simp [hw, WorkerPc.phase]) (by simp [hw, WorkerPc.phase])
    have hv : s.value = some v := hmutex (by rw [hw]; rfl)
    exact ⟨B.drop f v, by simp [current, hv], sequential_of_idle rfl (PoolPc.body?_of_idle hpool) hseq.drop⟩
  | corrupted hw _ => exact ⟨v, hcur, hseq⟩
  | joined hw hp =>
    rw [busy_eq_pool (by rw [hw]; rfl), hp] at hseq
    exact ⟨v, hcur, hseq⟩
  | joinedNone hw hp =>
    rw [busy_eq_pool (by rw [hw]; rfl)] at hseq
    rcases hp with hp | hp <;> rw [hp] at hseq <;> exact ⟨v, hcur, hseq⟩
  | spawnBlocking hw =>
    have hpool := hcu.pool_idle (by simp [hw, WorkerPc.phase]) (by simp [hw, WorkerPc.phase])
    rw [busy_eq_pool (by rw [hw]; rfl), PoolPc.body?_of_idle hpool] at hseq
    exact ⟨v, hcur, hseq⟩
  | _ =>
    rw [busy_eq_pool (by simp_all [WorkerPc.body?])] at hseq
    exact ⟨v, hcur, hseq⟩

theorem Replay.sequential_pool (h : Replay B v₀ s) (ho : s.Order) (hcu : s.Custody) (m : PoolMove B s s') :
    ∃ v, s'.current = some v ∧ B.Sequential v₀ s'.log v s'.busy := by
  obtain ⟨v, hcur, hseq⟩ := h.sequential
  have hw := body?_eq_none hcu m.task_ne_none
  have hvalue : ∀ {w}, s.value = some w → w = v := fun hv => by
    rw [current, hv] at hcur
    exact Option.some.inj hcur
  rw [busy_eq_pool hw] at hseq
  cases m with
  | @start t f w hp hv =>
    rw [hp] at hseq
    have hcalm := h.calm (.inr (by rw [hp]; rfl))
    have hnot := ho.not_started (.inr (by rw [hp]; rfl))
    exact ⟨v, hcur, sequential_of_pool hw (hseq.start hnot (h.queued t f (.inr hp)) hcalm)⟩
  | @pending t f f' w w' hp hv hb =>
    rw [hp] at hseq
    obtain rfl := hvalue hv
    exact ⟨w', rfl, sequential_of_pool hw (hseq.pending hb)⟩
  | @ready t f w w' r hp hv hb =>
    rw [hp] at hseq
    obtain rfl := hvalue hv
    exact ⟨w', rfl, sequential_of_pool hw (hseq.ready hb)⟩
  | @panicked t f w w' p hp hv hb =>
    rw [hp] at hseq
    obtain rfl := hvalue hv
    exact ⟨w', rfl, sequential_of_pool hw (hseq.panicked hb)⟩
  | _ =>
    refine ⟨v, hcur, ?_⟩
    simp_all [busy, PoolPc.body?, log]

theorem Replay.sequential_runtime {a : Act F} (h : Replay B v₀ s) (m : RuntimeMove s a s') :
    ∃ v, s'.current = some v ∧ B.Sequential v₀ s'.log v s'.busy := by
  obtain ⟨v, hcur, hseq⟩ := h.sequential
  cases m with
  | dropQueued _ hp | shutdown =>
    refine ⟨v, hcur, ?_⟩
    simp_all [busy, PoolPc.body?, log]
  | _ =>
    refine ⟨v, hcur, ?_⟩
    simp_all [busy, WorkerPc.body?, log]

theorem Order.lt_of_started (h : s.Order) (ht : t ∈ s.started) : t < s.next := by
  obtain ⟨rest, hf, -⟩ := h.started
  have hp : t ∈ s.popped := (List.mem_filter.mp (by rw [hf]; exact List.mem_append_left _ ht)).1
  exact h.lt t (by rw [h.accepted]; simp [hp])

theorem Replay.sequential_spawn {a : Act F} (h : Replay B v₀ s) (ho : s.Order) (m : SpawnMove s a s') :
    ∃ v, s'.current = some v ∧ B.Sequential v₀ s'.log v s'.busy := by
  obtain ⟨v, hcur, hseq⟩ := h.sequential
  have hold : ∀ {b}, ∀ t ∈ s.started, Function.update s.body s.next b t = s.body t := fun {b} t ht =>
    Function.update_of_ne (ho.lt_of_started ht).ne _ _
  cases m with
  | accept _ _ | reject _ _ | unavailable _ _ => exact ⟨v, hcur, hseq.congr_body rfl rfl rfl hold⟩
  | _ => exact ⟨v, hcur, hseq⟩

@[simp] theorem state_finishJoin_ok (op : Consume) (v : S) : (finishJoin op (.ok v)).state = v := by
  cases op <;> rfl

@[simp] theorem state_finishJoin_error (op : Consume) (e : WorkerJoinError S) :
    (finishJoin op (.error e)).state = (PoisonError.mk e).intoInner := by
  cases op <;> rfl

theorem state?_afterSenders (op : Consume) : (afterSenders op : HandlePc S).state? = none := by
  cases op <;> rfl

/-- A join takes the state along. -/
theorem current_handle {a : Act F} (hcu : s.Custody) (m : HandleMove s a s') : s'.current = s.current := by
  have hvalue : s.handle.state?.isSome = true → s.value = none := hcu.value.mpr
  cases m with
  | takeState hh hv => simp [current, hv, HandlePc.state?]
  | unlockState hh | decideOk hh | decideAborted hh _ | decidePanicked hh _ | decideShutdown hh _
  | readPanicMsg hh =>
    simp [current, hh, HandlePc.state?, PoisonError.intoInner] at hvalue ⊢
  | consume hh _ hp =>
    rcases hp with ⟨-, rfl⟩ | ⟨-, rfl⟩ | ⟨-, -, rfl⟩ <;> simp [current, hh, HandlePc.state?]
  | dropJoin hh => rcases hh with hh | ⟨out, hh⟩ <;> simp [current, hh, HandlePc.state?]
  | dropTx hh =>
    simp only [current, hh]
    split_ifs
    · rfl
    · rw [state?_afterSenders]; rfl
  | dropCtx hh =>
    simp only [current, hh, releaseCell]
    split_ifs <;> simp [HandlePc.state?]
  | corrupted | stateMissing => rfl
  | finished hh _ | notFinished hh | setAbort hh _ _ | setCancel hh _ _ | setFailed hh _ | abortWorker hh
  | closeSenders hh | workerEnded hh _ | lockState hh _ => simp [current, hh, HandlePc.state?]

theorem Replay.sequential_handle {a : Act F} (h : Replay B v₀ s) (hcu : s.Custody) (m : HandleMove s a s') :
    ∃ v, s'.current = some v ∧ B.Sequential v₀ s'.log v s'.busy := by
  obtain ⟨v, hcur, hseq⟩ := h.sequential
  exact ⟨v, (current_handle hcu m).trans hcur, by cases m <;> exact hseq⟩

/-- When the body in progress returns, every body that has started has returned. -/
theorem completed_of_sequential {v : S} {f : F} {r : R} (h : B.Sequential v₀ s.log v (some (t, f))) :
    ∀ u ∈ s.started, ∃ r', Function.update s.fate t (.completed r) u = .completed r' := by
  intro u hu
  obtain ⟨ts, f₀, hts, -, -⟩ := h.cont t f rfl
  by_cases hut : u = t
  · subst hut; exact ⟨r, Function.update_self ..⟩
  · rw [Function.update_of_ne hut]
    have hmem : u ∈ ts := by
      have hu' : u ∈ ts ++ [t] := hts ▸ hu
      simpa [hut] using hu'
    exact h.before ts t hts u hmem

theorem Replay.calm_worker (h : Replay B v₀ s) (hcu : s.Custody) (m : WorkerMove B s s')
    (hc : s'.worker.calm = true ∨ s'.pool.calm = true) : ∀ u ∈ s'.started, ∃ r, s'.fate u = .completed r := by
  obtain ⟨v, hcur, hseq⟩ := h.sequential
  cases m with
  | asyncReady hw hv hp =>
    rw [busy_eq_worker (by rw [hw]; rfl)] at hseq
    exact completed_of_sequential hseq
  | startAsync hw _ _ | asyncPending hw _ _ | asyncPanicked hw _ _ | dropBody hw =>
    have hpool := hcu.pool_idle (by simp [hw, WorkerPc.phase]) (by simp [hw, WorkerPc.phase])
    rcases hc with hc | hc
    · cases hc
    · exact absurd hpool (PoolPc.task_of_calm hc)
  | _ =>
    refine h.calm ?_
    grind [Except.toBool]

theorem Replay.calm_pool (h : Replay B v₀ s) (hcu : s.Custody) (m : PoolMove B s s')
    (hc : s'.worker.calm = true ∨ s'.pool.calm = true) : ∀ u ∈ s'.started, ∃ r, s'.fate u = .completed r := by
  obtain ⟨v, hcur, hseq⟩ := h.sequential
  have hw := body?_eq_none hcu m.task_ne_none
  rw [busy_eq_pool hw] at hseq
  have hcalm := calm_eq_false hcu m.task_ne_none
  cases m with
  | ready hp hv hb =>
    rw [hp] at hseq
    exact completed_of_sequential hseq
  | start _ _ | pending _ _ _ | panicked _ _ _ =>
    rcases hc with hc | hc
    · exact absurd (hcalm.symm.trans hc) nofun
    · cases hc
  | _ =>
    refine h.calm ?_
    grind [Except.toBool]

theorem Replay.calm_step {a : Act F} (h : Replay B v₀ s) (hcu : s.Custody) (m : Move B s a s')
    (hc : s'.worker.calm = true ∨ s'.pool.calm = true) : ∀ u ∈ s'.started, ∃ r, s'.fate u = .completed r := by
  cases m with
  | worker m => exact h.calm_worker hcu m hc
  | pool m => exact h.calm_pool hcu m hc
  | runtime m =>
    have hs : s.worker.calm = true ∨ s.pool.calm = true := by cases m <;> grind
    cases m <;> exact h.calm hs
  | call m | taskHandle m | spawn m | spawner m | handle m => cases m <;> exact h.calm hc

/-- The body of an existing task stays. -/
theorem Cells.body_of_takers {a : Act F} {x : Taker} {f : F} (hc : s.Cells) (m : Move B s a s')
    (ht : (s.tasks t).takers = [x]) (hb : s.body t = some f) : s'.body t = some f := by
  have hn : t ≠ s.next := by
    rintro rfl
    simp [hc.fresh _ le_rfl, Task.absent] at ht
  rw [body_of_move m hn, hb]

/-- A worker that has just taken a body was there before, or takes it from the cell. -/
theorem took_of_move {a : Act F} {raw : RawTask F} (m : Move B s a s') (hw : s'.worker = .took t raw) :
    s.worker = .took t raw ∨ s.worker = .checked t ∧ (s.tasks t).repr.take.1 = some raw ∧ s'.body = s.body := by
  cases m with
  | worker m =>
    cases m with
    | take hw' hk =>
      cases hw
      exact .inr ⟨hw', hk, rfl⟩
    | corrupted _ _ => exact .inl hw
    | _ => cases hw
  | runtime m => cases m <;> first | exact .inl hw | cases hw
  | pool m | call m | taskHandle m | spawn m | spawner m | handle m => cases m <;> exact .inl hw

theorem Replay.took_step {a : Act F} (h : Replay B v₀ s) (hc : s.Cells) (m : Move B s a s') {raw : RawTask F}
    (hw : s'.worker = .took t raw) : s'.body t = some raw.body := by
  rcases took_of_move m hw with hw | ⟨-, hk, hb⟩
  · exact hc.body_of_takers m (hc.worker t (by rw [hw]; rfl)) (h.took t raw hw)
  · rw [hb]
    exact hc.body t raw (OnceTake.value_of_take hk)

/-- A closure that has not started its body was there before, or the worker has just spawned it. -/
theorem queued_of_move {a : Act F} {f : F} (m : Move B s a s')
    (hp : s'.pool = .queued t f ∨ s'.pool = .locked t f) :
    (s.pool = .queued t f ∨ s.pool = .locked t f) ∨ s.worker = .took t (.blocking f) := by
  cases m with
  | worker m => cases m <;> grind
  | runtime m => cases m <;> grind
  | pool m => cases m <;> grind
  | call m | taskHandle m | spawn m | spawner m | handle m => cases m <;> exact .inl hp

theorem Replay.queued_step {a : Act F} {f : F} (h : Replay B v₀ s) (hc : s.Cells) (m : Move B s a s')
    (hp : s'.pool = .queued t f ∨ s'.pool = .locked t f) : s'.body t = some f := by
  rcases queued_of_move m hp with hp | hw
  · have ht : s.pool.task = some t := by rcases hp with hp | hp <;> rw [hp] <;> rfl
    exact hc.body_of_takers m (hc.pool t ht) (h.queued t f hp)
  · exact hc.body_of_takers m (hc.worker t (by rw [hw]; rfl)) (h.took t _ hw)

/-- **The worker is a sequential executor**: a step keeps the refinement. -/
theorem Replay.step {a : Act F} (h : Replay B v₀ s) (hc : s.Cells) (ho : s.Order) (hcu : s.Custody)
    (m : Move B s a s') : Replay B v₀ s' where
  sequential := by
    cases m with
    | worker m => exact h.sequential_worker ho hcu m
    | pool m => exact h.sequential_pool ho hcu m
    | runtime m => exact h.sequential_runtime m
    | spawn m => exact h.sequential_spawn ho m
    | handle m => exact h.sequential_handle hcu m
    | call m | taskHandle m | spawner m => cases m <;> exact h.sequential
  took _ _ := h.took_step hc m
  queued _ _ := h.queued_step hc m
  calm := h.calm_step hcu m

end Sys

end AsyncSequential
