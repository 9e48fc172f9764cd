import AsyncSequential.Abort

/-!
# Who can still send

A task spawner sends through a cell that it shares with the worker handle, and
closing moves the handle's context on into a new cell. So a spawner can send as
long as its cell is the one that the handle has now: `Spawning` says that this
cell alone has a context, for as long as anyone refers to it, and that the
senders of the queue are this context and the handle's own.
-/

namespace AsyncSequential

variable {S F R : Type*}

/-! ### What the worker handle holds -/

/-- The handle refers to its cell. -/
@[grind] def HandlePc.holdsCtx : HandlePc S → Bool
  | .live | .isFinished _ | .trySet _ | .abortWorker _ | .closeSenders _ | .dropCtx _ => true
  | .dropTx op => op = .drop
  | .awaitWorker _ | .lockState _ _ | .takeState _ _ | .unlockState _ _ _ | .decide _ _ _ | .readPanicMsg _ _
  | .returned _ _ | .gone _ => false

/-- The handle has its own sender. -/
@[grind] def HandlePc.holdsTx : HandlePc S → Bool
  | .live | .isFinished _ | .trySet _ | .abortWorker _ | .closeSenders _ | .dropTx _ => true
  | .dropCtx op => op ≠ .drop
  | .awaitWorker _ | .lockState _ _ | .takeState _ _ | .unlockState _ _ _ | .decide _ _ _ | .readPanicMsg _ _
  | .returned _ _ | .gone _ => false

/-- The operation aborts or cancels the worker. -/
@[grind] def Consume.stops (op : Consume) : Bool := op.aborts || op.cancels

/-- The operation that consumed the handle has let go of its cell and its sender. -/
def HandlePc.released (h : HandlePc S) : Bool := !h.holdsCtx && !h.holdsTx

/-- The operation that is about to close the spawners. -/
@[grind] def HandlePc.closing? : HandlePc S → Option Consume
  | .isFinished op | .trySet op | .abortWorker op | .closeSenders op => some op
  | .live | .dropCtx _ | .dropTx _ | .awaitWorker _ | .lockState _ _ | .takeState _ _ | .unlockState _ _ _
  | .decide _ _ _ | .readPanicMsg _ _ | .returned _ _ | .gone _ => none

/-- An operation that stops the worker has closed the spawners. -/
@[grind] def HandlePc.closed : HandlePc S → Bool
  | .live | .isFinished _ | .trySet _ | .abortWorker _ | .closeSenders _ => false
  | .dropCtx op | .dropTx op | .awaitWorker op | .lockState op _ | .takeState op _ | .unlockState op _ _
  | .decide op _ _ | .readPanicMsg op _ | .returned op _ | .gone op => op.stops

/-! ### The invariant -/

/-- Cells, spawners and senders, on the components of a system: `holds`, `tx` and
`closed` say what the worker handle holds and whether it has closed the spawners. -/
structure SpawnersAt (cell nextCell : ℕ) (cells : ℕ → Cell) (sp : ℕ → Spawner) (nextSp : ℕ)
    (senders : Finset SenderOwner) (holds tx closed : Bool) : Prop where
  /-- The handle's cell is the newest. -/
  next : nextCell = cell + 1
  /-- It alone has a context, as long as anyone refers to it. -/
  ctx : ∀ c, (cells c).ctx = true ↔ c = cell ∧ (cells c).owners.Nonempty
  /-- The handle refers to its cell. -/
  worker : ∀ c, .worker ∈ (cells c).owners ↔ c = cell ∧ holds = true
  /-- A spawner refers to its cell until it is dropped. -/
  spawner : ∀ c i, .spawner i ∈ (cells c).owners ↔ (sp i).alive = true ∧ (sp i).cell = c
  /-- No spawner has a cell that the handle has not got to. -/
  le : ∀ i < nextSp, (sp i).cell ≤ cell
  /-- Spawners come into being one after the other. -/
  fresh : ∀ i, nextSp ≤ i → (sp i).alive = false
  /-- An operation that stops the worker leaves the handle a cell of its own. -/
  fenced : closed = true → ∀ i, (sp i).alive = true → (sp i).cell ≠ cell
  /-- A context holds a sender of the queue. -/
  sends : ∀ c, .cell c ∈ senders ↔ (cells c).ctx = true
  /-- So does the handle. -/
  sendsSelf : .handle ∈ senders ↔ tx = true

namespace SpawnersAt

variable {cell nextCell nextSp : ℕ} {cells : ℕ → Cell} {sp : ℕ → Spawner} {senders : Finset SenderOwner}
  {holds tx closed : Bool}

/-- A spawner that has not been dropped came into being. -/
theorem lt_of_alive (h : SpawnersAt cell nextCell cells sp nextSp senders holds tx closed) {i : ℕ}
    (hi : (sp i).alive = true) : i < nextSp := by
  by_contra hn
  rw [h.fresh i (not_lt.mp hn)] at hi
  cases hi

/-- The handle gives out a spawner. -/
theorem obtain (h : SpawnersAt cell nextCell cells sp nextSp senders true tx false) :
    SpawnersAt cell nextCell
      (Function.update cells cell { cells cell with owners := insert (.spawner nextSp) (cells cell).owners })
      (Function.update sp nextSp ⟨cell, true⟩) (nextSp + 1) senders true tx false where
  next := h.next
  ctx c := by
    have hctx := h.ctx c
    have hw := h.worker cell
    simp only [Function.update_apply]
    split_ifs with hc
    · subst hc
      have hne : (cells c).owners.Nonempty := ⟨_, hw.mpr ⟨rfl, rfl⟩⟩
      simp [hctx, hne]
    · exact hctx
  worker c := by
    have hw := h.worker c
    simp only [Function.update_apply]
    split_ifs with hc
    · subst hc; simpa using hw
    · simpa using hw
  spawner c i := by
    have hs := h.spawner c i
    have hn := h.fresh nextSp le_rfl
    simp only [Function.update_apply]
    split_ifs <;> grind
  le i hi := by
    have hle := h.le i
    simp only [Function.update_apply]
    split_ifs
    · exact le_rfl
    · exact hle (by omega)
  fresh i hi := by
    rw [Function.update_of_ne (by omega)]
    exact h.fresh i (by omega)
  fenced := nofun
  sends c := by
    have hs := h.sends c
    simp only [Function.update_apply]
    split_ifs with hc
    · subst hc; exact hs
    · exact hs
  sendsSelf := h.sendsSelf

/-- A reference to cell `d` is let go, by a spawner that is dropped or by the
handle. What else changes agrees with that. -/
theorem release (h : SpawnersAt cell nextCell cells sp nextSp senders holds tx closed) {d : ℕ} {o : CellOwner}
    (holds' : Bool) (sp' : ℕ → Spawner)
    (hw : ∀ c, (if c = d then .worker ∈ (cells d).owners.erase o else .worker ∈ (cells c).owners) ↔
      c = cell ∧ holds' = true)
    (hs : ∀ c i, (if c = d then .spawner i ∈ (cells d).owners.erase o else .spawner i ∈ (cells c).owners) ↔
      (sp' i).alive = true ∧ (sp' i).cell = c)
    (hcell : ∀ i, (sp' i).cell = (sp i).cell) (halive : ∀ i, (sp' i).alive = true → (sp i).alive = true) :
    SpawnersAt cell nextCell
      (Function.update cells d
        ⟨if (cells d).owners.erase o = ∅ then false else (cells d).ctx, (cells d).owners.erase o⟩)
      sp' nextSp (if (cells d).owners.erase o = ∅ then senders.erase (.cell d) else senders) holds' tx closed where
  next := h.next
  ctx c := by
    have hctx := h.ctx c
    simp only [Function.update_apply]
    split_ifs with hc hempty
    · simp [hempty]
    · subst hc
      have hne := Finset.nonempty_iff_ne_empty.mpr hempty
      have hold : (cells c).owners.Nonempty := hne.mono (Finset.erase_subset _ _)
      simp [hctx, hne, hold]
    · exact hctx
  worker c := by
    simp only [Function.update_apply]
    convert hw c using 1
    split_ifs with hc <;> rfl
  spawner c i := by
    simp only [Function.update_apply]
    convert hs c i using 1
    split_ifs with hc <;> rfl
  le i hi := by rw [hcell]; exact h.le i hi
  fresh i hi := by
    by_contra ha
    have hold := h.fresh i hi
    rw [halive i (by simpa using ha)] at hold
    cases hold
  fenced hcl i ha := by rw [hcell]; exact h.fenced hcl i (halive i ha)
  sends c := by
    have hold := h.sends c
    simp only [Function.update_apply]
    split_ifs with hempty hc
    · subst hc; simp
    · rw [Finset.mem_erase]
      simp [hc, hold]
    · rename_i hc
      subst hc; exact hold
    · exact hold
  sendsSelf := by
    rw [← h.sendsSelf]
    split_ifs with hempty
    · simp
    · rfl

/-- The context moves out of the handle's cell into a new one. -/
theorem close (h : SpawnersAt cell nextCell cells sp nextSp senders true tx false) (closed' : Bool) :
    SpawnersAt nextCell (nextCell + 1)
      (Function.update
        (Function.update cells cell ⟨false, (cells cell).owners.erase .worker⟩) nextCell ⟨(cells cell).ctx, {.worker}⟩)
      sp nextSp
      (if (cells cell).ctx = true then insert (.cell nextCell) (senders.erase (.cell cell)) else senders)
      true tx closed' where
  next := rfl
  ctx c := by
    have hctx := h.ctx
    have hnext := h.next
    have hfull : (cells cell).ctx = true := (hctx cell).mpr ⟨rfl, _, (h.worker cell).mpr ⟨rfl, rfl⟩⟩
    simp only [Function.update_apply]
    split_ifs with hc hd
    · simp [hc, hfull]
    · simp [hc]
    · rw [hctx c]
      simp [hc, hd]
  worker c := by
    have hw := h.worker c
    simp only [Function.update_apply]
    split_ifs <;> simp_all
  spawner c i := by
    have hs := h.spawner c i
    have hnext := h.next
    simp only [Function.update_apply]
    split_ifs with hc hd
    · subst hc
      simp only [Finset.mem_singleton, reduceCtorEq, false_iff]
      rintro ⟨ha, hi⟩
      have := h.le i (h.lt_of_alive ha)
      omega
    · subst hd
      rw [← hs]
      simp
    · exact hs
  le i hi := by
    have := h.le i hi
    have := h.next
    omega
  fresh := h.fresh
  fenced _ i ha := by
    have := h.le i (h.lt_of_alive ha)
    have := h.next
    omega
  sends c := by
    have hs := h.sends c
    have hctx := h.ctx
    have hnext := h.next
    have hfull : (cells cell).ctx = true := (hctx cell).mpr ⟨rfl, _, (h.worker cell).mpr ⟨rfl, rfl⟩⟩
    simp only [hfull, if_true, Function.update_apply]
    split_ifs with hc hd
    · simp [hc]
    · subst hd; simp [hc]
    · rw [← hs]
      simp [hc, hd]
  sendsSelf := by
    rw [← h.sendsSelf]
    split_ifs <;> simp

/-- The handle lets go of its own sender. -/
theorem dropTx (h : SpawnersAt cell nextCell cells sp nextSp senders holds tx closed) :
    SpawnersAt cell nextCell cells sp nextSp (senders.erase .handle) holds false closed :=
  { h with
    sends := fun c => by rw [← h.sends c]; simp
    sendsSelf := by simp }

end SpawnersAt

namespace Sys

variable {B : Bodies S F R PanicPayload} {v₀ : S} {s s' s₁ s₂ : Sys S F R} {i t : ℕ}

/-- Who can still send. -/
structure Spawning (s : Sys S F R) : Prop where
  /-- Cells, spawners and senders are in order. -/
  cells : SpawnersAt s.cell s.nextCell s.cells s.spawners s.nextSpawner s.senders s.handle.holdsCtx s.handle.holdsTx
    s.handle.closed
  /-- Only an operation that stops the worker closes the spawners. -/
  stops : ∀ op, s.handle.closing? = some op → op.stops = true

theorem spawning_init (v : S) : (init v : Sys S F R).Spawning := by
  refine ⟨?_, nofun⟩
  constructor
  case ctx | worker | spawner | sends =>
    intro c
    by_cases hc : c = 0 <;> simp [init, HandlePc.holdsCtx, hc]
  all_goals simp [init, HandlePc.holdsTx, HandlePc.closed]

theorem Spawning.spawner_move (h : s.Spawning) {a : Act F} (m : SpawnerMove s a s') : s'.Spawning := by
  obtain ⟨h, hstops⟩ := h
  cases m with
  | obtain hh =>
    rw [hh] at h
    refine ⟨?_, hstops⟩
    simp only [hh]
    exact h.obtain
  | close hh _ =>
    rw [hh] at h
    refine ⟨?_, hstops⟩
    simp only [closeSenders, hh]
    exact h.close false
  | @drop i ha _ =>
    refine ⟨h.release s.handle.holdsCtx _ (fun c => ?_) (fun c j => ?_) (fun j => ?_) (fun j hj => ?_), hstops⟩
    · rw [← h.worker c]
      split_ifs with hc
      · subst hc; simp
      · rfl
    · have hs := h.spawner c j
      simp only [Function.update_apply]
      split_ifs <;> grind
    · simp only [Function.update_apply]
      split_ifs with hj
      · rw [hj]
      · rfl
    · simp only [Function.update_apply] at hj
      split_ifs at hj
      exact hj

/-- What the handle holds, at a step of its own. -/
theorem Spawning.cells_handle (h : s.Spawning) {a : Act F} (m : HandleMove s a s') :
    SpawnersAt s'.cell s'.nextCell s'.cells s'.spawners s'.nextSpawner s'.senders s'.handle.holdsCtx
      s'.handle.holdsTx s'.handle.closed := by
  obtain ⟨h, hstops⟩ := h
  cases m with
  | consume hh _ hp =>
    rcases hp with ⟨rfl, rfl⟩ | ⟨rfl, rfl⟩ | ⟨-, -, rfl⟩ <;> rw [hh] at h <;> exact h
  | @closeSenders op hh =>
    have hop := hstops op (by rw [hh]; rfl)
    rw [hh] at h
    have htx : (HandlePc.dropCtx op : HandlePc S).holdsTx = true := by
      cases op <;> first | rfl | cases hop
    simp only [closeSenders, htx]
    exact h.close _
  | @dropCtx op hh =>
    have hr := h.release (d := s.cell) (o := .worker) false s.spawners (fun c => ?_) (fun c j => ?_)
      (fun _ => rfl) fun _ hj => hj
    · rw [hh] at hr
      simp only
      split_ifs with ho
      · subst ho; exact hr
      · simpa [HandlePc.holdsCtx, HandlePc.holdsTx, HandlePc.closed, ho] using hr
    · have hw := h.worker c
      split_ifs with hc <;> simp_all
    · rw [← h.spawner c j]
      split_ifs with hc
      · subst hc; simp
      · rfl
  | @dropTx op hh =>
    rw [hh] at h
    simp only
    split_ifs with ho
    · subst ho; exact h.dropTx
    · cases op <;> first | exact h.dropTx | exact absurd rfl ho
  | dropJoin hh => rcases hh with hh | ⟨out, hh⟩ <;> rw [hh] at h <;> exact h
  | corrupted | stateMissing => exact h
  | finished hh | notFinished hh | setAbort hh | setCancel hh | setFailed hh | abortWorker hh
  | workerEnded hh | lockState hh | takeState hh | unlockState hh | decideOk hh | decideAborted hh
  | decidePanicked hh | decideShutdown hh | readPanicMsg hh => rw [hh] at h; exact h

/-- An operation that closes the spawners was there before, or has just consumed the handle. -/
theorem closing_of_handleMove {a : Act F} (m : HandleMove s a s') {op : Consume}
    (ho : s'.handle.closing? = some op) : s.handle.closing? = some op ∨ op.stops = true := by
  cases m with
  | @consume op' _ _ _ hp =>
    rcases hp with ⟨-, rfl⟩ | ⟨-, rfl⟩ | ⟨hj, hd, rfl⟩
    · cases ho
    · cases ho
    · cases ho
      cases op <;> first | exact .inr rfl | exact absurd rfl hj | exact absurd rfl hd
  | finished hh | notFinished hh | setAbort hh | setCancel hh | setFailed hh | abortWorker hh =>
    cases ho; exact .inl (by rw [hh]; rfl)
  | @dropCtx op' => simp only at ho; split_ifs at ho <;> cases ho
  | @dropTx op' => simp only at ho; split_ifs at ho <;> cases op' <;> cases ho
  | corrupted | stateMissing => exact .inl ho
  | _ => cases ho

/-- **Who can still send holds in every reachable state**: a step keeps it. -/
theorem Spawning.step (h : s.Spawning) {a : Act F} (m : Move B s a s') : s'.Spawning := by
  cases m with
  | spawner m => exact h.spawner_move m
  | handle m =>
    exact ⟨h.cells_handle m, fun op ho => (closing_of_handleMove m ho).elim (h.stops op) id⟩
  | worker m | runtime m | pool m | call m | taskHandle m | spawn m => cases m <;> exact ⟨h.cells, h.stops⟩

/-- Runs keep it. -/
theorem Spawning.run {C : Sys S F R → Act F → Prop} (h : s.Spawning) (hr : Run B C s s') : s'.Spawning :=
  hr.stable (fun _ _ _ hu hs => hu.step (move_of_step hs)) h

theorem spawning_of_reachable (h : Reachable B v₀ s) : s.Spawning := (spawning_init v₀).run h

/-! ### Closing -/

/-- The step closes the spawners: `close_spawners`, or the close of an abort or a cancel. -/
def closes (s : Sys S F R) : Act F → Bool
  | .closeSpawners => true
  | .handle => (s.handle matches .closeSenders _)
  | _ => false

/-- An abort or a cancel of the worker has begun. -/
def stopping (s : Sys S F R) : Bool := s.handle.op?.any Consume.stops

/-- The spawn of `t` was rejected with `TaskSpawnerUnavailable`. -/
def TurnedAway (s : Sys S F R) (t : ℕ) : Prop :=
  (s.tasks t).handle = .unspawned .taskSenderUnavailable ∨
    (s.tasks t).handle = .resolved (.error .taskSpawnerUnavailable)

/-- A spawner that is there can send while its cell is the handle's. -/
theorem Spawning.available (h : s.Spawning) (ha : (s.spawners i).alive = true)
    (hc : (s.spawners i).cell = s.cell) : s.spawnerIsUnavailable i = false := by
  have hctx : (s.cells s.cell).ctx = true :=
    (h.cells.ctx _).mpr ⟨rfl, _, (h.cells.spawner _ i).mpr ⟨ha, hc⟩⟩
  simp [spawnerIsUnavailable, hc, hctx]

/-- A spawner with another cell cannot. -/
theorem Spawning.unavailable (h : s.Spawning) (hc : (s.spawners i).cell ≠ s.cell) :
    s.spawnerIsUnavailable i = true := by
  have hctx : ¬ (s.cells (s.spawners i).cell).ctx = true := fun hx => hc ((h.cells.ctx _).mp hx).1
  simpa [spawnerIsUnavailable] using hctx

theorem closes_of_move {a : Act F} (m : Move B s a s') : s.closes a = false ∧ s'.cell = s.cell ∨
    s.closes a = true ∧ s'.cell = s.nextCell ∧ s'.nextSpawner = s.nextSpawner ∧ s'.queue = s.queue ∧
      s'.accepted = s.accepted ∧ s'.tasks = s.tasks := by
  cases m with
  | spawner m =>
    cases m with
    | obtain | drop => exact .inl ⟨rfl, rfl⟩
    | close => exact .inr ⟨rfl, rfl, rfl, rfl, rfl, rfl⟩
  | handle m =>
    cases m with
    | closeSenders hh => exact .inr ⟨by simp [closes, hh], rfl, rfl, rfl, rfl, rfl⟩
    | consume | dropJoin => exact .inl ⟨rfl, rfl⟩
    | corrupted hh | stateMissing hh | finished hh | notFinished hh | setAbort hh | setCancel hh | setFailed hh
    | abortWorker hh | dropCtx hh | dropTx hh | workerEnded hh | lockState hh | takeState hh | unlockState hh
    | decideOk hh | decideAborted hh | decidePanicked hh | decideShutdown hh | readPanicMsg hh =>
      exact .inl ⟨by simp [closes, hh], rfl⟩
  | worker m | runtime m | pool m | call m | taskHandle m | spawn m => cases m <;> exact .inl ⟨rfl, rfl⟩

/-- Spawners keep their cells. -/
theorem spawner_of_move {a : Act F} (m : Move B s a s') :
    s.nextSpawner ≤ s'.nextSpawner ∧ ∀ i < s.nextSpawner, (s'.spawners i).cell = (s.spawners i).cell := by
  cases m with
  | spawner m =>
    cases m with
    | obtain =>
      refine ⟨Nat.le_succ _, fun i hi => ?_⟩
      simp [Function.update_of_ne hi.ne]
    | @drop j =>
      refine ⟨le_rfl, fun i _ => ?_⟩
      by_cases hij : i = j
      · subst hij; simp
      · simp [Function.update_of_ne hij]
    | close => exact ⟨le_rfl, fun _ _ => rfl⟩
  | worker m | runtime m | pool m | call m | taskHandle m | spawn m | handle m => cases m <;> exact ⟨le_rfl, fun _ _ => rfl⟩

/-- A cell gets no context but when it comes into being. -/
theorem ctx_of_move {a : Act F} (m : Move B s a s') {c : ℕ} (hc : (s'.cells c).ctx = true) :
    (s.cells c).ctx = true ∨ c = s.nextCell := by
  cases m with
  | spawner m => cases m <;> simp only [releaseCell, closeSenders, Function.update_apply] at hc <;> grind
  | handle m =>
    cases m with
    | dropCtx | closeSenders => simp only [releaseCell, closeSenders, Function.update_apply] at hc; grind
    | _ => exact .inl hc
  | worker m | runtime m | pool m | call m | taskHandle m | spawn m => cases m <;> exact .inl hc

/-- A spawner that is unavailable stays so. -/
theorem Spawning.unavailable_of_run {C : Sys S F R → Act F → Prop} (h : s.Spawning) (hi : i < s.nextSpawner)
    (hu : s.spawnerIsUnavailable i = true) (hr : Run B C s s') : s'.spawnerIsUnavailable i = true := by
  have hP := hr.invariant (P := fun u => i < u.nextSpawner ∧ u.spawnerIsUnavailable i = true) ⟨hi, hu⟩ ?_
  · exact hP.2
  · rintro u v a hru ⟨hiu, huu⟩ - hs
    have m := move_of_step hs
    have hcells := (h.run hru).cells
    obtain ⟨hle, hcell⟩ := spawner_of_move m
    refine ⟨hiu.trans_le hle, ?_⟩
    have hold : (u.cells (u.spawners i).cell).ctx = false := by simpa [spawnerIsUnavailable] using huu
    have hnew : ¬ (v.cells (u.spawners i).cell).ctx = true := by
      intro hx
      rcases ctx_of_move m hx with hx | hx
      · cases hold.symm.trans hx
      · have := hcells.le i hiu
        have := hcells.next
        omega
    simpa [spawnerIsUnavailable, hcell i hiu] using hnew

/-- While nobody closes, a spawner that shares the handle's cell does so. -/
theorem Spawning.cell_of_run (hr : Run B (fun u a => u.closes a = false) s₁ s₂)
    (hi : i < s₁.nextSpawner) (hc : (s₁.spawners i).cell = s₁.cell) : (s₂.spawners i).cell = s₂.cell := by
  have hP := hr.invariant (P := fun u => i < u.nextSpawner ∧ (u.spawners i).cell = u.cell) ⟨hi, hc⟩ ?_
  · exact hP.2
  · rintro u v a - ⟨hiu, hcu⟩ hcl hs
    have m := move_of_step hs
    obtain ⟨hle, hcell⟩ := spawner_of_move m
    rcases closes_of_move m with ⟨-, hcell'⟩ | ⟨hcl', -⟩
    · exact ⟨hiu.trans_le hle, by rw [hcell i hiu, hcu, hcell']⟩
    · cases hcl.symm.trans hcl'

/-- A close makes every spawner unavailable that was there before. -/
theorem Spawning.unavailable_of_close {a : Act F} (h : s.Spawning) (hcl : s.closes a = true) (m : Move B s a s')
    (hi : i < s.nextSpawner) : i < s'.nextSpawner ∧ s'.spawnerIsUnavailable i = true := by
  rcases closes_of_move m with ⟨hcl', -⟩ | ⟨-, hcell, hnext, -⟩
  · cases hcl.symm.trans hcl'
  · refine ⟨hnext ▸ hi, (h.step m).unavailable ?_⟩
    rw [(spawner_of_move m).2 i hi, hcell]
    have := h.cells.le i hi
    have := h.cells.next
    omega

/-- A spawn through an unavailable spawner is turned away for good. -/
theorem Inv.turnedAway_of_spawn (h : Inv B v₀ s) (hu : s.spawnerIsUnavailable i = true) {raw : RawTask F}
    (hs : Sys.step B s (.spawn (.spawner i) raw) = some s₁) (hr : Run B Runs.Any s₁ s₂) :
    s.next ∉ s₂.started ∧ s₂.TurnedAway s.next := by
  have hctx : (s.cells (s.spawners i).cell).ctx = false := by simpa [spawnerIsUnavailable] using hu
  have h₁ := h.step hs
  simp only [Sys.step, spawn, hctx, Bool.false_eq_true, if_false] at hs
  split_ifs at hs
  cases hs
  exact h₁.rejected_of_run hr (by simp [addTask, Task.rejected]) (.inl (by simp [addTask, Task.rejected]))

/-- Until an abort or a cancel begins no step turns a spawn away that had got to the queue. -/
theorem Inv.not_turnedAway_step (h : Inv B v₀ s) {a : Act F} (m : Move B s a s') (hs : s.stopping = false)
    (ht : t < s.next) (hn : ¬ s.TurnedAway t) : ¬ s'.TurnedAway t := by
  have hflag : s.flag ≠ some .abortStarted ∧ s.flag ≠ some .cancelStarted := by
    refine ⟨fun hf => ?_, fun hf => ?_⟩
    · obtain ⟨op, hop, ho⟩ := h.status.aborts hf
      simp [stopping, hop, Consume.stops, ho] at hs
    · obtain ⟨op, hop, ho⟩ := h.status.cancels hf
      simp [stopping, hop, Consume.stops, ho] at hs
  have hchange := handleChange_of_change (taskChange_of_move m t)
  unfold TurnedAway
  generalize s'.tasks t = k at hchange
  intro hk
  cases hchange with
  | same hh => exact hn (by rw [hh] at hk; exact hk)
  | accept he | reject he => exact absurd he ht.ne
  | pollStart => rcases hk with hk | hk <;> cases hk
  | poll hm =>
    cases hm with
    | panicRxReady | resultRxReady =>
      rename_i o _ _
      rcases hk with hk | hk <;> rcases o with (_ | p) | r <;> cases hk
    | _ => rcases hk with hk | hk <;> cases hk
  | unspawned hh =>
    cases rejectMove_of_unspawned hh with
    | panicked | panicMsg | shutdown => rcases hk with hk | hk <;> cases hk
    | closed _ hf => exact hf.elim hflag.1 hflag.2
    | @resolve reason hold =>
      rcases hk with hk | hk
      · cases hk
      · refine hn (.inl (hold.trans ?_))
        cases reason <;> first | rfl | cases hk

/-- **Closing is exact.** A live handle's cell has a context, and a close leaves
every accepted task where it is. Of a spawner: it is available until the first
close after it was obtained, and unavailable from then on, when all its spawns are
turned away and never start; and none is turned away whose spawn got to the queue
before that and runs its course before an abort or a cancel begins. -/
theorem spawner_closing_exact (h : Reachable B v₀ s) :
    (s.handle = .live → (s.cells s.cell).ctx = true) ∧
    (∀ a s', s.closes a = true → step B s a = some s' →
      s'.queue = s.queue ∧ s'.accepted = s.accepted ∧ s'.tasks = s.tasks) ∧
    ∀ s₁, step B s .spawner = some s₁ →
      (∀ s₂, Run B (fun u a => u.closes a = false) s₁ s₂ → (s₂.spawners s.nextSpawner).alive = true →
        s₂.spawnerIsUnavailable s.nextSpawner = false) ∧
      (∀ u a u' s₂, Run B Runs.Any s₁ u → u.closes a = true → step B u a = some u' → Run B Runs.Any u' s₂ →
        s₂.spawnerIsUnavailable s.nextSpawner = true ∧
        ∀ raw s₃ s₄, step B s₂ (.spawn (.spawner s.nextSpawner) raw) = some s₃ → Run B Runs.Any s₃ s₄ →
          s₂.next ∉ s₄.started ∧ s₄.TurnedAway s₂.next) ∧
      ∀ u raw u' s₂, Run B (fun u a => u.closes a = false) s₁ u →
        step B u (.spawn (.spawner s.nextSpawner) raw) = some u' →
        Run B (fun u _ => u.stopping = false) u' s₂ → ¬ s₂.TurnedAway u.next := by
  have hi := inv_of_reachable h
  have hsp := spawning_of_reachable h
  refine ⟨fun hh => (hsp.cells.ctx _).mpr ⟨rfl, .worker, (hsp.cells.worker _).mpr ⟨rfl, by rw [hh]; rfl⟩⟩, ?_, ?_⟩
  · intro a s' hcl hs
    rcases closes_of_move (move_of_step hs) with ⟨hcl', -⟩ | ⟨-, -, -, hq⟩
    · cases hcl.symm.trans hcl'
    · exact hq
  · intro s₁ hs₁
    have hi₁ := hi.step hs₁
    have hsp₁ := hsp.step (move_of_step hs₁)
    obtain ⟨hlt, hcell⟩ : s.nextSpawner < s₁.nextSpawner ∧ (s₁.spawners s.nextSpawner).cell = s₁.cell := by
      simp only [step, addSpawner] at hs₁
      split at hs₁ <;> cases hs₁
      simp
    refine ⟨fun s₂ hr ha => ?_, fun u a u' s₂ hu hcl hs hr => ?_, fun u raw u' s₂ hu hs hr => ?_⟩
    · exact (hsp₁.run hr).available ha (Spawning.cell_of_run hr hlt hcell)
    · have hltu : s.nextSpawner < u.nextSpawner :=
        hu.stable (P := fun v => s.nextSpawner < v.nextSpawner)
          (fun _ _ _ hv hs => hv.trans_le (spawner_of_move (move_of_step hs)).1) hlt
      obtain ⟨hltu', hun⟩ := (hsp₁.run hu).unavailable_of_close hcl (move_of_step hs) hltu
      have hspu' := (hsp₁.run hu).step (move_of_step hs)
      have hun₂ := hspu'.unavailable_of_run hltu' hun hr
      exact ⟨hun₂, fun raw s₃ s₄ hs₃ hr₄ => (((hi₁.run hu).step hs).run hr).turnedAway_of_spawn hun₂ hs₃ hr₄⟩
    · have hiu' := (hi₁.run hu).step hs
      have hbase : u.next < u'.next ∧ ¬ u'.TurnedAway u.next := by
        have hav := fun ha => (hsp₁.run hu).available ha (Spawning.cell_of_run hu hlt hcell)
        simp only [step, spawn] at hs
        split_ifs at hs with ha hctx
        · cases hs
          unfold send TurnedAway
          split_ifs <;> simp [addTask, Task.accepted, Task.rejected]
        · have := hav ha
          simp [spawnerIsUnavailable, hctx] at this
      have hP := hr.invariant (P := fun v => u.next < v.next ∧ ¬ v.TurnedAway u.next) hbase ?_
      · exact hP.2
      · rintro v w b hv ⟨hlt, hn⟩ hst hs
        have m := move_of_step hs
        exact ⟨hlt.trans_le (next_le_of_move m), (hiu'.run hv).not_turnedAway_step m hst hlt hn⟩

/-- A spawner that has been closed. -/
def demoClosed : Sys ℕ ℕ ℕ := (demoExec [(1, .spawner), (1, .closeSpawners)]).get rfl

theorem spawner_closing_exact_demo : demoClosed.spawnerIsUnavailable 0 = true :=
  ((spawner_closing_exact (B := demo) (s := init 0) .refl).2.2 _ rfl).2.1 _ .closeSpawners demoClosed demoClosed
    .refl rfl rfl .refl |>.1

/-! ### The answers of a spawner -/

/-- Before an operation has tried to set the flag, no abort and no cancel is recorded. -/
theorem flag_of_undecided (h : Reachable B v₀ s) (hu : s.handle.undecided = true) :
    s.flag ≠ some .abortStarted ∧ s.flag ≠ some .cancelStarted := by
  refine h.invariant (P := fun u => u.handle.undecided = true →
    u.flag ≠ some .abortStarted ∧ u.flag ≠ some .cancelStarted) (fun hu => ?_) (fun u v a hr hP _ hs hv => ?_) hu
  · cases hu
  · have hst := (inv_of_reachable hr).status
    have m := move_of_step hs
    cases m with
    | handle m =>
      cases m with
      | consume hh =>
        refine ⟨fun hf => ?_, fun hf => ?_⟩
        · obtain ⟨op, hop, -⟩ := hst.aborts hf
          simp [hh, HandlePc.op?] at hop
        · obtain ⟨op, hop, -⟩ := hst.cancels hf
          simp [hh, HandlePc.op?] at hop
      | notFinished hh => exact hP (by rw [hh]; rfl)
      | corrupted | stateMissing => exact hP hv
      | dropCtx => simp only at hv; split_ifs at hv <;> cases hv
      | @dropTx op =>
        simp only at hv
        split_ifs at hv
        · cases hv
        · cases hv.symm.trans (undecided_afterSenders op)
      | _ => cases hv
    | worker m =>
      cases m with
      | storePanicked => simp [flag]
      | _ => exact hP hv
    | runtime m | pool m | call m | taskHandle m | spawn m | spawner m => cases m <;> exact hP hv

/-- What `has_panicked` promises of spawner `i` when it answers `None`. -/
def StaysUnavailable (B : Bodies S F R PanicPayload) (s : Sys S F R) (i : ℕ) : Prop :=
  ∀ s₂, Run B Runs.Any s s₂ → s₂.spawnerIsUnavailable i = true ∧
    ∀ raw s₃ s₄, step B s₂ (.spawn (.spawner i) raw) = some s₃ → Run B Runs.Any s₃ s₄ →
      s₂.next ∉ s₄.started ∧ s₄.TurnedAway s₂.next

/-- An abort or a cancel stands between its flag and its close, which spawner `i` has yet to see. -/
def closePending (s : Sys S F R) (i : ℕ) : Bool :=
  (s.spawners i).cell = s.cell && (s.handle matches .abortWorker _ | .closeSenders _)

/-- **The answers of a spawner agree but for the time between the flag and the
close**: a `None` of `has_panicked` is final unless an abort or a cancel of the
worker has set its flag and not closed the spawners yet. -/
theorem hasPanicked_agrees_iff (h : Reachable B v₀ s) (ha : (s.spawners i).alive = true)
    (hn : s.spawnerHasPanicked i = none) : StaysUnavailable B s i ↔ s.closePending i = false := by
  have hi := inv_of_reachable h
  have hsp := spawning_of_reachable h
  constructor
  · intro hs
    by_contra hp
    rw [Bool.not_eq_false, closePending, Bool.and_eq_true, decide_eq_true_eq] at hp
    cases (hs s .refl).1.symm.trans (hsp.available ha hp.1)
  · intro hp
    have hun : s.spawnerIsUnavailable i = true := by
      refine hsp.unavailable fun hcell => ?_
      have hav := hsp.available ha hcell
      have hctx : (s.cells (s.spawners i).cell).ctx = true := by simpa [spawnerIsUnavailable] using hav
      have hop : ∃ op, s.handle.op? = some op ∧ op.stops = true ∧
          (s.flag = some .abortStarted ∨ s.flag = some .cancelStarted) := by
        cases hf : s.flag with
        | none => exact absurd hf hi.status.flag_ne_none
        | some fl =>
          cases fl with
          | abortStarted =>
            obtain ⟨op, hop, ho⟩ := hi.status.aborts hf
            exact ⟨op, hop, by simp [Consume.stops, ho], .inl rfl⟩
          | cancelStarted =>
            obtain ⟨op, hop, ho⟩ := hi.status.cancels hf
            exact ⟨op, hop, by simp [Consume.stops, ho], .inr rfl⟩
          | taskPanicked | runningOrRuntimeShutdown => simp [spawnerHasPanicked, hctx, hf] at hn
      obtain ⟨op, hop, hstops, hf⟩ := hop
      have hund : s.handle.undecided = false := by
        by_contra hu
        have hfu := flag_of_undecided h (by simpa using hu)
        exact hf.elim hfu.1 hfu.2
      have hclosed : s.handle.closed = false := by
        by_contra hc
        exact hsp.cells.fenced (by simpa using hc) i ha hcell
      cases hh : s.handle <;> rw [hh] at hop hund hclosed
      case live => cases hop
      case isFinished | trySet => cases hund
      case abortWorker | closeSenders => simp [closePending, hcell, hh] at hp
      all_goals
        cases hop
        cases hclosed.symm.trans hstops
    intro s₂ hr
    have hun₂ := hsp.unavailable_of_run (hsp.cells.lt_of_alive ha) hun hr
    exact ⟨hun₂, fun raw s₃ s₄ hs hr' => (hi.run hr).turnedAway_of_spawn hun₂ hs hr'⟩

/-- A worker that has been cancelled, with a spawner. -/
def demoCancelledSpawner : Sys ℕ ℕ ℕ := (demoExec [(1, .spawner), (1, .consume .cancel), (3, .handle)]).get rfl

theorem demoCancelledSpawner_reachable : Reachable demo 0 demoCancelledSpawner := demo_reachable rfl

theorem hasPanicked_agrees_iff_demo : demoCancelledSpawner.spawnerHasPanicked 0 = none ∧
    StaysUnavailable demo demoCancelledSpawner 0 :=
  ⟨rfl, (hasPanicked_agrees_iff demoCancelledSpawner_reachable rfl rfl).mpr rfl⟩

/-- The same worker when it has set the flag and not closed the spawners. -/
def demoCancelFlag : Sys ℕ ℕ ℕ := (demoExec [(1, .spawner), (1, .consume .cancel), (2, .handle)]).get rfl

theorem demoCancelFlag_reachable : Reachable demo 0 demoCancelFlag := demo_reachable rfl

/-- A spawner that answered `None` can still be available. -/
theorem hasPanicked_disagrees : ¬ ∀ (s : Sys ℕ ℕ ℕ) (i : ℕ), Reachable demo 0 s → (s.spawners i).alive = true →
    s.spawnerHasPanicked i = none → StaysUnavailable demo s i := by
  intro hall
  have h := (hall demoCancelFlag 0 demoCancelFlag_reachable rfl rfl demoCancelFlag .refl).1
  cases h

/-! ### What holds the queue open -/

/-- The spawners obtained before `s` are closed: `s` is the start, or follows on a close. -/
def Reopened (B : Bodies S F R PanicPayload) (v₀ : S) (s : Sys S F R) : Prop :=
  s = init v₀ ∨ ∃ u a, Reachable B v₀ u ∧ u.closes a = true ∧ step B u a = some s

theorem Reopened.reachable (h : Reopened B v₀ s) : Reachable B v₀ s := by
  rcases h with rfl | ⟨u, a, hu, -, hs⟩
  · exact .refl
  · exact hu.tail trivial hs

/-- Every state follows on a last close, or on the start. -/
theorem exists_reopened (h : Reachable B v₀ s) :
    ∃ s₁, Reopened B v₀ s₁ ∧ Run B (fun u a => u.closes a = false) s₁ s := by
  induction h with
  | refl => exact ⟨_, .inl rfl, .refl⟩
  | @tail u v a hu _ hs ih =>
    obtain ⟨s₁, hs₁, hr⟩ := ih
    cases hcl : u.closes a with
    | false => exact ⟨s₁, hs₁, hr.tail hcl hs⟩
    | true => exact ⟨v, .inr ⟨u, a, hu, hcl, hs⟩, .refl⟩

/-- A new spawner shares the handle's cell. -/
theorem newSpawner_of_move {a : Act F} (m : Move B s a s') (hi : s.nextSpawner ≤ i) (hi' : i < s'.nextSpawner) :
    (s'.spawners i).cell = s.cell := by
  cases m with
  | spawner m =>
    cases m with
    | obtain =>
      obtain rfl : i = s.nextSpawner := Nat.le_antisymm (Nat.lt_succ_iff.mp hi') hi
      simp
    | drop | close => exact absurd hi' (not_lt.mpr hi)
  | worker m | runtime m | pool m | call m | taskHandle m | spawn m | handle m =>
    cases m <;> exact absurd hi' (not_lt.mpr hi)

/-- Until the next close the spawners with the handle's cell are those obtained since the last. -/
theorem Reopened.cell_iff (h : Reopened B v₀ s₁) (hr : Run B (fun u a => u.closes a = false) s₁ s₂) :
    ∀ i < s₂.nextSpawner, (s₂.spawners i).cell = s₂.cell ↔ s₁.nextSpawner ≤ i := by
  refine hr.invariant (P := fun u => ∀ i < u.nextSpawner, (u.spawners i).cell = u.cell ↔ s₁.nextSpawner ≤ i) ?_ ?_
  · intro i hi
    refine iff_of_false ?_ (not_le.mpr hi)
    rcases h with rfl | ⟨u, a, hu, hcl, hs⟩
    · exact absurd hi (Nat.not_lt_zero i)
    · have m := move_of_step hs
      have hsp := (spawning_of_reachable hu).cells
      rcases closes_of_move m with ⟨hcl', -⟩ | ⟨-, hcell, hnext, -⟩
      · cases hcl.symm.trans hcl'
      · have hiu : i < u.nextSpawner := hnext ▸ hi
        have := hsp.le i hiu
        have := hsp.next
        rw [(spawner_of_move m).2 i hiu, hcell]
        omega
  · intro u v a hu hP hcl hs i hi
    have m := move_of_step hs
    obtain ⟨hle, hcells⟩ := spawner_of_move m
    have hcell : v.cell = u.cell := by
      rcases closes_of_move m with ⟨-, hcell⟩ | ⟨hcl', -⟩
      · exact hcell
      · cases hcl.symm.trans hcl'
    rw [hcell]
    by_cases hiu : i < u.nextSpawner
    · rw [hcells i hiu]
      exact hP i hiu
    · have hge : u.nextSpawner ≤ i := not_lt.mp hiu
      have hs₁ : s₁.nextSpawner ≤ u.nextSpawner :=
        hu.stable (P := fun w => s₁.nextSpawner ≤ w.nextSpawner)
          (fun _ _ _ hw hs => hw.trans (spawner_of_move (move_of_step hs)).1) le_rfl
      exact iff_of_true (newSpawner_of_move m hge hi) (hs₁.trans hge)

/-- When the handle has let go, the queue is held open by those who refer to its cell. -/
theorem Spawning.senders_eq_empty (h : s.Spawning) (hr : s.handle.released = true) :
    s.senders = ∅ ↔ ∀ i, (s.spawners i).alive = true → (s.spawners i).cell ≠ s.cell := by
  simp only [HandlePc.released, Bool.and_eq_true, Bool.not_eq_true'] at hr
  constructor
  · intro he i ha hc
    have hctx : (s.cells s.cell).ctx = true :=
      (h.cells.ctx _).mpr ⟨rfl, .spawner i, (h.cells.spawner _ i).mpr ⟨ha, hc⟩⟩
    have hmem := (h.cells.sends s.cell).mpr hctx
    simp [he] at hmem
  · intro hall
    refine Finset.eq_empty_of_forall_notMem fun o ho => ?_
    cases o with
    | handle =>
      have htx := h.cells.sendsSelf.mp ho
      cases hr.2.symm.trans htx
    | cell c =>
      obtain ⟨rfl, o, ho⟩ := (h.cells.ctx c).mp ((h.cells.sends c).mp ho)
      cases o with
      | worker =>
        have hh := ((h.cells.worker _).mp ho).2
        cases hr.1.symm.trans hh
      | spawner i =>
        obtain ⟨ha, hc⟩ := (h.cells.spawner _ i).mp ho
        exact hall i ha hc

/-- An operation that stops the worker and has let go of everything leaves the queue no sender. -/
theorem Spawning.senders_of_stops (h : s.Spawning) {op : Consume} (ho : s.handle.op? = some op)
    (hst : op.stops = true) (hrel : s.handle.released = true) : s.senders = ∅ := by
  refine (h.senders_eq_empty hrel).mpr (h.cells.fenced ?_)
  cases hh : s.handle <;> rw [hh] at ho hrel <;> cases ho <;> first | exact hst | cases hrel

/-- Once the handle has let go the queue is held open by the spawners obtained since the last close. -/
theorem Reopened.senders_eq_empty (h : Reopened B v₀ s₁) (hr : Run B (fun u a => u.closes a = false) s₁ s₂)
    (hrel : s₂.handle.released = true) :
    s₂.senders = ∅ ↔ ∀ i, s₁.nextSpawner ≤ i → (s₂.spawners i).alive = false := by
  have hsp := (spawning_of_reachable h.reachable).run hr
  have hcell := h.cell_iff hr
  rw [hsp.senders_eq_empty hrel]
  constructor
  · intro hall i hge
    by_contra ha
    rw [Bool.not_eq_false] at ha
    exact hall i ha ((hcell i (hsp.cells.lt_of_alive ha)).mpr hge)
  · intro hall i ha hc
    cases ha.symm.trans (hall i ((hcell i (hsp.cells.lt_of_alive ha)).mp hc))

/-- **The queue is held open by exactly the right parties.** Every reachable state `s₂`
comes after a last close `s₁`, or after the start. When the operation that consumed
the handle has let go, the queue has no sender if and only if the spawners obtained
since `s₁` have been dropped, and after an abort or a cancel it has none at all; while
the handle is live or one of these spawners is there it has one. So when `join` returns
`Ok` none of them is there, the queue is empty and no body is running. -/
theorem queue_held_open (B : Bodies S F R PanicPayload) (v₀ : S) :
    (∀ s₂, Reachable B v₀ s₂ → ∃ s₁, Reopened B v₀ s₁ ∧ Run B (fun u a => u.closes a = false) s₁ s₂) ∧
    ∀ s₁ s₂, Reopened B v₀ s₁ → Run B (fun u a => u.closes a = false) s₁ s₂ →
      (s₂.handle.released = true →
        (s₂.senders = ∅ ↔ ∀ i, s₁.nextSpawner ≤ i → (s₂.spawners i).alive = false)) ∧
      (∀ op, s₂.handle.op? = some op → op.stops = true → s₂.handle.released = true → s₂.senders = ∅) ∧
      (s₂.handle = .live ∨ (∃ i, s₁.nextSpawner ≤ i ∧ (s₂.spawners i).alive = true) → s₂.senders ≠ ∅) ∧
      ∀ v, s₂.handle = .returned .join (.ok v) → s₂.queue = [] ∧
        (∀ i, s₁.nextSpawner ≤ i → (s₂.spawners i).alive = false) ∧ ∀ t, s₂.fate t ≠ .running := by
  refine ⟨fun s₂ => exists_reopened, fun s₁ s₂ h hr => ⟨h.senders_eq_empty hr, ?_, ?_, ?_⟩⟩
  · exact fun op hop hst hrel => ((spawning_of_reachable h.reachable).run hr).senders_of_stops hop hst hrel
  · have hsp := (spawning_of_reachable h.reachable).run hr
    rintro (hh | ⟨i, hge, ha⟩) he
    · have htx := hsp.cells.sendsSelf.mpr (by rw [hh]; rfl)
      simp [he] at htx
    · have hc := (h.cell_iff hr i (hsp.cells.lt_of_alive ha)).mpr hge
      have hctx : (s₂.cells s₂.cell).ctx = true :=
        (hsp.cells.ctx _).mpr ⟨rfl, .spawner i, (hsp.cells.spawner _ i).mpr ⟨ha, hc⟩⟩
      have hmem := (hsp.cells.sends s₂.cell).mpr hctx
      simp [he] at hmem
  · intro v hh
    have hi := (inv_of_reachable h.reachable).run hr
    have hw := (hi.ok_iff_ended (.inl rfl) hh).mp ⟨v, rfl⟩
    have hfin := hi.ending.finished (by rw [hw]; rfl)
    have hnc : s₂.flag ≠ some .cancelStarted := by
      intro hf
      obtain ⟨op, hop, ho⟩ := hi.status.cancels hf
      rw [hh] at hop
      cases hop
      cases ho
    obtain ⟨hq, hsend, -⟩ := hfin.resolve_right hnc
    refine ⟨hq, (h.senders_eq_empty hr (by rw [hh]; rfl)).mp hsend, fun t ht => ?_⟩
    obtain ⟨r, hr⟩ := hi.completed_of_ok hw t (hi.started_of_fate (by rw [ht]; nofun))
    cases ht.symm.trans hr

/-- A worker that is joined while a spawner is there. -/
def demoHeld : Sys ℕ ℕ ℕ := (demoExecIf (fun u a => !u.closes a)
  [(1, .spawner), (1, .consume .join), (2, .handle)]).get rfl

theorem demoHeld_run : Run demo (fun u a => u.closes a = false) (init 0) demoHeld :=
  (demo_run (C := fun u a => !u.closes a) rfl).mono fun _ _ h => by simpa using h

theorem queue_held_open_demo : demoHeld.handle.released = true ∧ demoHeld.senders ≠ ∅ :=
  ⟨rfl, ((queue_held_open demo 0).2 _ _ (.inl rfl) demoHeld_run).2.2.1 (.inr ⟨0, Nat.zero_le _, rfl⟩)⟩

end Sys

end AsyncSequential
