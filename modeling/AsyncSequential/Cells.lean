import AsyncSequential.Changes

/-!
# Who takes a task

The body of a task sits in a once-take cell. The worker, every `cancel()` call
and the handle's own poll try to take it, and the last reference to the cell
drops it. `Cells` says that one of them gets it: the cell is full as long as
nobody has, there is at most one taker, and whoever holds a part of the task —
the body, a sender — is that taker.
-/

namespace AsyncSequential

variable {S F R : Type*}

/-! ### What a position holds of a task -/

/-- The task that the worker has taken and not done with. -/
@[grind] def WorkerPc.task : WorkerPc F R → Option ℕ
  | .took t _ | .asyncBody t _ _ | .asyncSend t _ | .asyncUnwind t _ | .asyncUnlock t _ | .awaitBlocking t _
  | .result t _ | .storePanicked t _ | .sendPanic t _ | .dropBody t _ | .dropBodyTx t | .dropGuard t => some t
  | .recv _ | .dequeued _ | .checked _ | .dropping _ _ | .ended _ => none

/-- What the worker future has yet to drop. -/
@[grind] def WorkerPc.todo : WorkerPc F R → List DropItem
  | .dropping todo _ => todo
  | .recv _ | .dequeued _ | .checked _ | .took _ _ | .asyncBody _ _ _ | .asyncSend _ _ | .asyncUnwind _ _
  | .asyncUnlock _ _ | .awaitBlocking _ _ | .result _ _ | .storePanicked _ _ | .sendPanic _ _ | .dropBody _ _
  | .dropBodyTx _ | .dropGuard _ | .ended _ => []

/-- The worker future holds the message of `t`. -/
@[grind] def WorkerPc.hasMessage (t : ℕ) : WorkerPc F R → Prop
  | .dequeued u | .checked u => t = u
  | .dropping todo _ => .message t ∈ todo
  | _ => False

/-- The cancelling party has taken the task. -/
@[grind] def CancelPc.took : CancelPc → Bool
  | .dropRaw | .dropPanicTx | .store | .done true => true
  | .upgrade | .take | .done false => false

/-! ### The cell of one task -/

/-- The cell of a task and its takers. -/
structure CellAt (k : Task F R) : Prop where
  /-- A full cell has had no taker, and someone refers to it. -/
  full : k.repr.Full → k.takers = [] ∧ k.owners.Nonempty
  /-- There is at most one taker. -/
  one : k.takers.length ≤ 1
  /-- The cell of an accepted task is full until someone takes from it. -/
  spent : ¬ k.repr.Full → k.cancellable = true → k.takers ≠ []
  /-- The cell of a rejected task is empty, and nobody has taken from it. -/
  rejected : k.cancellable = false → ¬ k.repr.Full ∧ k.takers = []

namespace CellAt

variable {k : Task F R}

theorem absent : CellAt (Task.absent : Task F R) := by
  constructor <;> simp [Task.absent]

theorem accepted (raw : RawTask F) : CellAt (Task.accepted raw : Task F R) := by
  constructor <;> simp [Task.accepted, OnceTake.full_new]

theorem rejectedTask (h : TaskHandle R) : CellAt (Task.rejected h : Task F R) := by
  constructor <;> simp [Task.rejected]

/-- A change that leaves cell, references and takers alone. -/
theorem congr (h : CellAt k) {k' : Task F R} (hr : k'.repr = k.repr) (ho : k'.owners = k.owners)
    (ht : k'.takers = k.takers) (hc : k'.cancellable = k.cancellable) : CellAt k' :=
  ⟨by rw [hr, ho, ht]; exact h.full, by rw [ht]; exact h.one, by rw [hr, ht, hc]; exact h.spent,
    by rw [hr, ht, hc]; exact h.rejected⟩

theorem closePanic (h : CellAt k) : CellAt k.closePanic := h.congr rfl rfl rfl rfl

theorem share (h : CellAt k) (o : Owner) : CellAt (k.share o) :=
  { h with full := fun hf => ⟨(h.full hf).1, Finset.insert_nonempty _ _⟩ }

/-- Letting go of a reference, but not of the last one to a full cell. -/
theorem release (h : CellAt k) {o : Owner} (ho : ¬ (k.owners.erase o = ∅ ∧ k.repr.Full)) :
    CellAt (k.release o) :=
  { h with full := fun hf => ⟨(h.full hf).1, Finset.nonempty_iff_ne_empty.mpr fun he => ho ⟨he, hf⟩⟩ }

theorem dealloc (h : CellAt k) (hk : k.repr.Full) (o : Owner) : CellAt (k.release o).dealloc := by
  have ht := (h.full hk).1
  constructor
  · exact fun hf => (OnceTake.not_full_empty hf).elim
  · simp [Task.dealloc, Task.release, ht]
  · simp [Task.dealloc]
  · exact fun hc => absurd hk (h.rejected hc).1

theorem takenBy (h : CellAt k) {raw : RawTask F} (hk : k.repr.take.1 = some raw) (x : Taker) :
    CellAt (k.takenBy x) := by
  have ht := (h.full (OnceTake.full_of_take hk)).1
  constructor
  · exact fun hf => (OnceTake.not_full_take _ hf).elim
  · simp [Task.takenBy, ht]
  · simp [Task.takenBy]
  · exact fun hc => absurd (OnceTake.full_of_take hk) (h.rejected hc).1

theorem takeFailed (h : CellAt k) (hk : k.repr.take.1 = none) : CellAt k.takeFailed :=
  { h with
    full := fun hf => (OnceTake.not_full_take _ hf).elim
    spent := fun _ => h.spent (OnceTake.not_full_of_take hk)
    rejected := fun hc => ⟨OnceTake.not_full_take _, (h.rejected hc).2⟩ }

end CellAt

/-! ### The invariant -/

namespace Sys

variable {B : Bodies S F R PanicPayload} {s s' : Sys S F R} {t : ℕ}

/-- What `TaskCancellerImpl::cancel` does to the cell. -/
theorem cellAt_of_cancelMove {o : Owner} {x : Taker} {c c' : CancelPc} {g : Task F R → Task F R}
    (h : CellAt (s.tasks t)) (m : CancelMove s t o x c g c')
    (hc : c.took = true → (s.tasks t).takers ≠ []) : CellAt (g (s.tasks t)) := by
  cases m with
  | upgrade _ => exact h.share o
  | upgradeFailed _ => exact h
  | take hk => exact h.takenBy hk x
  | takeFailed hk => exact (h.takeFailed hk).release fun hf => OnceTake.not_full_take _ hf.2
  | dropRaw => exact h.congr rfl rfl rfl rfl
  | dropPanicTx =>
    have hn : ¬ (s.tasks t).repr.Full := fun hf => hc rfl (h.full hf).1
    exact h.closePanic.release fun hf => hn hf.2
  | store => exact h.congr rfl rfl rfl rfl

/-- What a poll does to the cell. -/
theorem cellAt_of_pollMove {b : Budget} {g : Task F R → Task F R} (h : CellAt (s.tasks t)) (m : PollMove s t b g)
    (hc : ∀ c, (s.tasks t).handle = .spawned (.cancel c) → c.took = true → (s.tasks t).takers ≠ []) :
    CellAt (g (s.tasks t)) := by
  cases m with
  | cancel hh hm => exact (cellAt_of_cancelMove h hm (hc _ hh)).congr rfl rfl rfl rfl
  | _ => exact h.congr rfl rfl rfl rfl

/-- Cells and takers, in the whole system. -/
structure Cells (s : Sys S F R) : Prop where
  /-- Every cell is in order. -/
  cell : ∀ t, CellAt (s.tasks t)
  /-- Tasks come into being one after the other. -/
  fresh : ∀ t, s.next ≤ t → s.tasks t = .absent
  /-- Only existing tasks are queued. -/
  message : ∀ t, t ∈ s.queue ∨ s.worker.hasMessage t → t < s.next
  /-- A cell holds the body that the task was spawned with. -/
  body : ∀ t raw, (s.tasks t).repr.value = some raw → s.body t = some raw.body
  /-- The worker works on a task that it has taken. -/
  worker : ∀ t, s.worker.task = some t → (s.tasks t).takers = [.worker]
  /-- So does its closure. -/
  pool : ∀ t, s.pool.task = some t → (s.tasks t).takers = [.worker]
  /-- The worker drops the senders of a task that it has taken, or that it has
  dropped untaken. -/
  items : ∀ t, .resultTx t ∈ s.worker.todo ∨ .panicTx t ∈ s.worker.todo →
    (s.tasks t).takers = [.worker] ∨ (s.tasks t).takers = [.dropped]
  /-- A `cancel()` call that has got the body is the taker. -/
  call : ∀ i t c, s.cancels i = .run t c → c.took = true → (s.tasks t).takers = [.canceller i]
  /-- And a call that is the taker has got the body. -/
  canceller : ∀ t i, (s.tasks t).takers = [.canceller i] → ∃ c, s.cancels i = .run t c ∧ c.took = true
  /-- So is a poll. -/
  handle : ∀ t c, (s.tasks t).handle = .spawned (.cancel c) → c.took = true →
    (s.tasks t).takers = [.handle]

theorem cells_init (v : S) : (init v : Sys S F R).Cells := by
  constructor
  case cell => exact fun _ => .absent
  all_goals simp [init, WorkerPc.task, WorkerPc.hasMessage, PoolPc.task, WorkerPc.todo, Task.absent, OnceTake.empty]

/-- A change keeps the cell in order. -/
theorem Cells.cellAt (h : s.Cells) {k : Task F R} (hc : TaskChange s s' t k) : CellAt k := by
  have hk := h.cell t
  cases hc with
  | same => exact hk
  | accept _ _ _ => exact .accepted _
  | reject _ _ _ => exact .rejectedTask _
  | take hw hk' _ => exact (hk.takenBy hk' _).release fun hf => OnceTake.not_full_take _ hf.2
  | skip hw hk' => exact (hk.takeFailed hk').release fun hf => OnceTake.not_full_take _ hf.2
  | sendResult _ | closeResult _ | closePanic _ | sendPanic _ | pollStart _ | unspawned _ =>
    exact hk.congr rfl rfl rfl rfl
  | release _ ho => exact hk.release ho
  | dealloc _ hf => exact hk.dealloc hf _
  | call hi _ hm => exact cellAt_of_cancelMove hk hm fun hc => by simp [h.call _ _ _ hi hc]
  | poll hm => exact cellAt_of_pollMove hk hm fun c hh hc => by simp [h.handle _ _ hh hc]

/-- The first taker stays the only one. -/
theorem Cells.takers_of_change (h : s.Cells) {k : Task F R} (hc : TaskChange s s' t k)
    (hk : (s.tasks t).takers ≠ []) : k.takers = (s.tasks t).takers := by
  have hnf : ¬ (s.tasks t).repr.Full := fun hf => hk ((h.cell t).full hf).1
  have hcancel : ∀ {o x c g c'}, CancelMove s t o x c g c' → (g (s.tasks t)).takers = (s.tasks t).takers := by
    intro o x c g c' m
    cases m with
    | take hr => exact absurd (OnceTake.full_of_take hr) hnf
    | _ => rfl
  cases hc with
  | accept ht _ _ | reject ht _ _ => subst ht; simp [h.fresh _ le_rfl, Task.absent] at hk
  | take _ hr _ => exact absurd (OnceTake.full_of_take hr) hnf
  | dealloc _ hf => exact absurd hf hnf
  | call _ _ hm => exact hcancel hm
  | poll hm =>
    cases hm with
    | cancel _ hm => exact hcancel hm
    | _ => rfl
  | _ => rfl

theorem Cells.takers_of_move {a : Act F} (h : s.Cells) (m : Move B s a s') (hk : (s.tasks t).takers ≠ []) :
    (s'.tasks t).takers = (s.tasks t).takers :=
  h.takers_of_change (taskChange_of_move m t) hk

/-- Who takes task `t` in a step from `s` to `s'`, which makes it `k`. -/
inductive Takes (s s' : Sys S F R) (t : ℕ) (k : Task F R) : Taker → Prop
  | worker (hw : s.worker = .checked t) : Takes s s' t k .worker
  | canceller {i : ℕ} (hi : s.cancels i = .run t .take) (hi' : s'.cancels i = .run t .dropRaw) :
      Takes s s' t k (.canceller i)
  | handle (hh : (s.tasks t).handle = .spawned (.cancel .take)) (hh' : k.handle = .spawned (.cancel .dropRaw)) :
      Takes s s' t k .handle
  | dropped (hw : s.DropsMessage t) : Takes s s' t k .dropped

/-- A task gets a taker by a take, and only from a full cell. -/
theorem Cells.takers_cases (h : s.Cells) {k : Task F R} (hc : TaskChange s s' t k) :
    k.takers = (s.tasks t).takers ∨
      (s.tasks t).takers = [] ∧ (s.tasks t).repr.Full ∧ ∃ x, k.takers = [x] ∧ Takes s s' t k x := by
  have htake : ∀ {x : Taker} {k' : Task F R}, (s.tasks t).repr.Full → Takes s s' t k' x →
      k'.takers = (s.tasks t).takers ++ [x] → k'.takers = (s.tasks t).takers ∨
      (s.tasks t).takers = [] ∧ (s.tasks t).repr.Full ∧ ∃ x, k'.takers = [x] ∧ Takes s s' t k' x := by
    intro x k' hf hx hk
    have hnil := ((h.cell t).full hf).1
    exact .inr ⟨hnil, hf, x, by rw [hk, hnil, List.nil_append], hx⟩
  cases hc with
  | accept ht _ _ | reject ht _ _ => exact .inl (by rw [h.fresh t ht.ge]; rfl)
  | take hw hk _ => exact htake (OnceTake.full_of_take hk) (.worker hw) rfl
  | dealloc hw hf => exact htake hf (.dropped hw) rfl
  | call hi hi' hm =>
    cases hm with
    | take hk => exact htake (OnceTake.full_of_take hk) (.canceller hi hi') rfl
    | _ => exact .inl rfl
  | poll hm =>
    cases hm with
    | cancel hh hm =>
      cases hm with
      | take hk => exact htake (OnceTake.full_of_take hk) (.handle hh rfl) rfl
      | _ => exact .inl rfl
    | _ => exact .inl rfl
  | _ => exact .inl rfl

/-- A body that a change leaves in the cell was there, or is new. -/
theorem value_of_change {k : Task F R} {raw : RawTask F} (hc : TaskChange s s' t k)
    (hk : k.repr.value = some raw) : (s.tasks t).repr.value = some raw ∨ s'.body t = some raw.body := by
  have hcancel : ∀ {o x c g c'}, CancelMove s t o x c g c' → (g (s.tasks t)).repr.value = some raw →
      (s.tasks t).repr.value = some raw := by
    intro o x c g c' m hv
    cases m with
    | take _ | takeFailed _ => exact OnceTake.value_of_take_snd hv
    | _ => exact hv
  cases hc with
  | accept _ _ hb => cases hk; exact .inr hb
  | reject _ _ _ | dealloc _ _ => cases hk
  | take _ _ _ | skip _ _ => exact .inl (OnceTake.value_of_take_snd hk)
  | call _ _ hm => exact .inl (hcancel hm hk)
  | poll hm =>
    cases hm with
    | cancel _ hm => exact .inl (hcancel hm hk)
    | _ => exact .inl hk
  | _ => exact .inl hk

/-- Who drops the result sender of a task taken by the worker, or dropped, is its taker. -/
theorem Cells.takers_of_dropsResult (h : s.Cells) (hw : s.DropsResult t) :
    (s.tasks t).takers = [.worker] ∨ (s.tasks t).takers = [.dropped] := by
  rcases hw with ⟨p, hw⟩ | hw | ⟨todo, out, hw⟩ | ⟨p, hp⟩ | hp | ⟨f, hp, -⟩
  · exact .inl (h.worker t (by rw [hw]; rfl))
  · exact .inl (h.worker t (by rw [hw]; rfl))
  · exact h.items t (.inl (by simp [hw, WorkerPc.todo]))
  all_goals exact .inl (h.pool t (by rw [hp]; rfl))

theorem Cells.lt_of_dropsMessage (h : s.Cells) (hw : s.DropsMessage t) : t < s.next := by
  rcases hw with ⟨todo, out, hw⟩ | ⟨q, todo, out, -, hq⟩
  · exact h.message t (.inr (by simp [hw, WorkerPc.hasMessage]))
  · exact h.message t (.inl (by simp [hq]))

/-- A step changes no task that does not exist. -/
theorem Cells.absent_of_change (h : s.Cells) {k : Task F R} (hc : TaskChange s s' t k) (ht : s.next ≤ t)
    (hn : s'.next ≤ t) : k = .absent := by
  have hk : s.tasks t = .absent := h.fresh t ht
  have hnone : (s.tasks t).takers = [] := by rw [hk]; rfl
  have hhandle : (s.tasks t).handle = .absent := by rw [hk]; rfl
  have hcancel : ∀ {o x c g c'}, CancelMove s t o x c g c' → (c.took = true → (s.tasks t).takers ≠ []) →
      g (s.tasks t) = .absent := by
    intro o x c g c' m hc
    cases m with
    | upgrade ho => simp [hk, Task.absent] at ho
    | upgradeFailed _ => exact hk
    | take hr => simp [hk, Task.absent, OnceTake.empty, OnceTake.take] at hr
    | takeFailed _ => simp [hk, Task.absent, Task.release, Task.takeFailed, OnceTake.empty, OnceTake.take]
    | dropRaw | dropPanicTx | store => exact absurd hnone (hc rfl)
  cases hc with
  | same => exact hk
  | accept ht hn' _ | reject ht hn' _ => omega
  | take hw _ _ | skip hw _ =>
    have := h.message t (.inr (by simp [hw, WorkerPc.hasMessage]))
    omega
  | release hw _ | dealloc hw _ =>
    have := h.lt_of_dropsMessage hw
    omega
  | sendResult hw =>
    rcases hw with hw | hp
    · simp [h.worker t (by rw [hw]; rfl)] at hnone
    · simp [h.pool t (by rw [hp]; rfl)] at hnone
  | closeResult hw => rcases h.takers_of_dropsResult hw with hx | hx <;> simp [hx] at hnone
  | closePanic hw =>
    rcases hw with hw | ⟨todo, out, hw⟩
    · simp [h.worker t (by rw [hw]; rfl)] at hnone
    · rcases h.items t (.inr (by simp [hw, WorkerPc.todo])) with hx | hx <;> simp [hx] at hnone
  | sendPanic hw => simp [h.worker t (by rw [hw]; rfl)] at hnone
  | call hi _ hm => exact hcancel hm fun hc => by simp [h.call _ _ _ hi hc]
  | pollStart hh => simp [hhandle] at hh
  | poll hm => cases hm <;> simp_all
  | unspawned hh => simp [hhandle] at hh

/-- The worker gets a task by taking it. -/
theorem worker_task_of_move {a : Act F} (m : Move B s a s') (ht : s'.worker.task = some t) :
    s.worker.task = some t ∨ (s'.tasks t).takers = (s.tasks t).takers ++ [.worker] ∧ (s.tasks t).repr.Full := by
  cases m with
  | worker m =>
    cases m with
    | take hw hk =>
      cases ht
      exact .inr ⟨by simp [modTask, Task.release, Task.takenBy], OnceTake.full_of_take hk⟩
    | _ => grind
  | runtime m => cases m <;> grind
  | pool m | call m | taskHandle m | spawn m | spawner m | handle m => cases m <;> exact .inl ht

/-- The closure's task is the worker's. -/
theorem pool_task_of_move {a : Act F} (m : Move B s a s') (ht : s'.pool.task = some t) :
    s.pool.task = some t ∨ s.worker.task = some t := by
  cases m with
  | worker m => cases m <;> grind
  | runtime m => cases m <;> grind
  | pool m => cases m <;> grind
  | call m | taskHandle m | spawn m | spawner m | handle m => cases m <;> exact .inl ht

/-- The worker's future comes to drop the senders of a task that it has, or of
one whose cell goes with its last reference. -/
theorem items_of_move {a : Act F} (m : Move B s a s')
    (ht : .resultTx t ∈ s'.worker.todo ∨ .panicTx t ∈ s'.worker.todo) :
    (.resultTx t ∈ s.worker.todo ∨ .panicTx t ∈ s.worker.todo) ∨ s.worker.task = some t ∨
      (s'.tasks t).takers = (s.tasks t).takers ++ [.dropped] ∧ (s.tasks t).repr.Full := by
  cases m with
  | worker m =>
    cases m with
    | @lastMessage u todo out hw _ hk | @drainLast u q todo out hw _ _ hk =>
      by_cases hu : t = u
      · subst hu
        exact .inr (.inr ⟨by simp [modTask, Task.dealloc, Task.release], hk⟩)
      · left
        simp [WorkerPc.todo, hw, hu] at ht ⊢
        exact ht
    | _ => grind
  | runtime m => cases m <;> grind
  | pool m | call m | taskHandle m | spawn m | spawner m | handle m => cases m <;> exact .inl ht

/-- A message in the system was there, or is new. -/
theorem message_of_move {a : Act F} (m : Move B s a s') (ht : t ∈ s'.queue ∨ s'.worker.hasMessage t) :
    (t ∈ s.queue ∨ s.worker.hasMessage t) ∨ t = s.next ∧ s'.next = s.next + 1 := by
  cases m with
  | worker m => cases m <;> grind
  | runtime m => cases m <;> grind
  | spawn m => cases m <;> grind
  | pool m | call m | taskHandle m | spawner m | handle m => cases m <;> exact .inl ht

theorem next_le_of_move {a : Act F} (m : Move B s a s') : s.next ≤ s'.next := by
  cases m with
  | spawn m => cases m <;> simp [addTask, setHandle, modTask]
  | worker m | runtime m | pool m | call m | taskHandle m | spawner m | handle m => cases m <;> exact le_rfl

theorem body_of_move {a : Act F} (m : Move B s a s') (ht : t ≠ s.next) : s'.body t = s.body t := by
  cases m with
  | spawn m => cases m <;> simp [addTask, setHandle, modTask, ht]
  | worker m | runtime m | pool m | call m | taskHandle m | spawner m | handle m => cases m <;> rfl

/-- Who cancels gets the body by taking it. -/
theorem took_of_cancelMove {o : Owner} {x : Taker} {c c' : CancelPc} {g : Task F R → Task F R}
    (m : CancelMove s t o x c g c') (hc : c'.took = true) :
    c.took = true ∨ (g (s.tasks t)).takers = (s.tasks t).takers ++ [x] ∧ (s.tasks t).repr.Full := by
  cases m with
  | take hr => exact .inr ⟨rfl, OnceTake.full_of_take hr⟩
  | upgrade _ | upgradeFailed _ | takeFailed _ => cases hc
  | dropRaw | dropPanicTx | store => exact .inl rfl

/-- A `cancel()` call that has got the body had it, or takes it now. -/
theorem call_of_change {i : ℕ} {x : CancelCall} {c : CancelPc} (h : CallChange s s' i x)
    (hx : x = .run t c) (hc : c.took = true) :
    (∃ c₀, s.cancels i = .run t c₀ ∧ c₀.took = true) ∨
      (s'.tasks t).takers = (s.tasks t).takers ++ [.canceller i] ∧ (s.tasks t).repr.Full := by
  cases h with
  | same => exact .inl ⟨c, hx, hc⟩
  | start _ _ => cases hx
  | startRejected _ _ | running _ _ | notRunning _ _ _ => cases hx; cases hc
  | run hi hm ht =>
    cases hx
    rw [ht]
    exact (took_of_cancelMove hm hc).imp (fun hc₀ => ⟨_, hi, hc₀⟩) id

/-- A `cancel()` call that has got the body keeps it. -/
theorem took_of_change {i : ℕ} {x : CancelCall} {c : CancelPc} (h : CallChange s s' i x)
    (hi : s.cancels i = .run t c) (hc : c.took = true) : ∃ c', x = .run t c' ∧ c'.took = true := by
  cases h with
  | same => exact ⟨c, hi, hc⟩
  | start hi' | startRejected hi' | running hi' | notRunning hi' => cases hi.symm.trans hi'
  | run hi' hm =>
    cases hi.symm.trans hi'
    cases hm with
    | upgrade | upgradeFailed | take | takeFailed => cases hc
    | dropRaw | dropPanicTx | store => exact ⟨_, rfl, rfl⟩

/-- A poll that has got the body had it, or takes it now. -/
theorem handle_of_change {k : Task F R} {c : CancelPc} (h : TaskChange s s' t k)
    (hh : k.handle = .spawned (.cancel c)) (hc : c.took = true) :
    (∃ c₀, (s.tasks t).handle = .spawned (.cancel c₀) ∧ c₀.took = true) ∨
      k.takers = (s.tasks t).takers ++ [.handle] ∧ (s.tasks t).repr.Full := by
  have hold : ∀ {k' : Task F R}, k'.handle = (s.tasks t).handle → k'.handle = .spawned (.cancel c) →
      ∃ c₀, (s.tasks t).handle = .spawned (.cancel c₀) ∧ c₀.took = true := fun he hk => ⟨c, he ▸ hk, hc⟩
  cases h with
  | same | take | skip | sendResult | closeResult | closePanic | sendPanic | release | dealloc =>
    exact .inl (hold rfl hh)
  | accept | pollStart => cases hh
  | reject _ _ hr => rcases hr with ⟨via, rfl, -⟩ | rfl <;> cases hh
  | call _ _ hm => cases hm <;> exact .inl (hold rfl hh)
  | poll hm =>
    cases hm with
    | cancel hh' hm =>
      cases hh
      exact (took_of_cancelMove hm hc).imp (fun hc₀ => ⟨_, hh', hc₀⟩) id
    | panicRxReady | resultRxReady => cases (ofReady_eq_spawned.mp hh).2
    | pendingCancel _ _ => cases hh; cases hc
    | _ => cases hh
  | unspawned hr => cases rejectMove_of_unspawned hr <;> cases hh

/-- **Cells holds in every reachable state**: a step keeps it. -/
theorem Cells.step {a : Act F} (h : s.Cells) (m : Move B s a s') : s'.Cells := by
  have stable : ∀ {t x}, (s.tasks t).takers = [x] → (s'.tasks t).takers = [x] := fun {t x} ht => by
    rw [h.takers_of_move m (by simp [ht]), ht]
  have taken : ∀ {t x}, (s'.tasks t).takers = (s.tasks t).takers ++ [x] ∧ (s.tasks t).repr.Full →
      (s'.tasks t).takers = [x] := fun {t x} ht => by
    rw [ht.1, ((h.cell t).full ht.2).1, List.nil_append]
  constructor
  case cell => exact fun t => h.cellAt (taskChange_of_move m t)
  case fresh =>
    exact fun t ht => h.absent_of_change (taskChange_of_move m t) ((next_le_of_move m).trans ht) ht
  case message =>
    intro t ht
    rcases message_of_move m ht with ht | ⟨rfl, hn⟩
    · exact (h.message t ht).trans_le (next_le_of_move m)
    · omega
  case body =>
    intro t raw ht
    rcases value_of_change (taskChange_of_move m t) ht with hv | hb
    · have hn : t ≠ s.next := by
        rintro rfl
        simp [h.fresh _ le_rfl, Task.absent, OnceTake.empty] at hv
      rw [body_of_move m hn]
      exact h.body t raw hv
    · exact hb
  case worker => exact fun t ht => (worker_task_of_move m ht).elim (fun hw => stable (h.worker t hw)) taken
  case pool =>
    exact fun t ht => (pool_task_of_move m ht).elim (fun hp => stable (h.pool t hp)) fun hw => stable (h.worker t hw)
  case items =>
    intro t ht
    rcases items_of_move m ht with ht | hw | hd
    · exact (h.items t ht).imp stable stable
    · exact .inl (stable (h.worker t hw))
    · exact .inr (taken hd)
  case call =>
    intro i t c hi hc
    rcases call_of_change (callChange_of_move m i) hi hc with ⟨c₀, hi, hc⟩ | ht
    · exact stable (h.call i t c₀ hi hc)
    · exact taken ht
  case canceller =>
    intro t i ht
    rcases h.takers_cases (taskChange_of_move m t) with hsame | ⟨-, -, x, hx, htake⟩
    · obtain ⟨c, hi, hc⟩ := h.canceller t i (hsame ▸ ht)
      exact took_of_change (callChange_of_move m i) hi hc
    · obtain rfl : x = .canceller i := by simpa [hx] using ht
      cases htake with
      | canceller _ hi' => exact ⟨_, hi', rfl⟩
  case handle =>
    intro t c hh hc
    rcases handle_of_change (taskChange_of_move m t) hh hc with ⟨c₀, hh, hc⟩ | ht
    · exact stable (h.handle t c₀ hh hc)
    · exact taken ht

end Sys

end AsyncSequential
