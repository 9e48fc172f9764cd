import AsyncSequential.Polls
import AsyncSequential.Wakers

/-!
# No orphans

A task's body and its two senders are always with somebody who will get to drop
them: the cell, the worker, its closure, or a cancelling party. `Owned` says with
whom. When the worker has ended, its closure too, and nobody is cancelling, there
is nobody left, so both senders have acted, and a poll of the handle is ready, unless
it is cut short.
-/

namespace AsyncSequential

variable {S F R : Type*}

open OneShot (Tx)

/-! ### What a position holds -/

/-- The cancelling party holds its reference to the task's cell. -/
@[grind] def CancelPc.holds : CancelPc → Bool
  | .take | .dropRaw | .dropPanicTx => true
  | .upgrade | .store | .done _ => false

/-- The cancelling party holds the panic sender. -/
@[grind] def CancelPc.hasPanicTx : CancelPc → Bool
  | .dropRaw | .dropPanicTx => true
  | .upgrade | .take | .store | .done _ => false

/-- The worker future holds the result sender of `t`. -/
@[grind] def WorkerPc.hasResultTx (t : ℕ) : WorkerPc F R → Prop
  | .took u _ | .asyncBody u _ _ | .asyncSend u _ | .asyncUnwind u _ | .dropBody u _ | .dropBodyTx u => u = t
  | .dropping todo _ => .resultTx t ∈ todo
  | .recv _ | .dequeued _ | .checked _ | .asyncUnlock _ _ | .awaitBlocking _ _ | .result _ _ | .storePanicked _ _
  | .sendPanic _ _ | .dropGuard _ | .ended _ => False

/-- The worker future holds the panic sender of `t`. -/
@[grind] def WorkerPc.hasPanicTx (t : ℕ) (w : WorkerPc F R) : Prop := w.task = some t ∨ .panicTx t ∈ w.todo

/-- The closure holds the result sender of `t`. -/
@[grind] def PoolPc.hasResultTx (t : ℕ) : PoolPc F R → Prop
  | .queued u _ | .locked u _ | .running u _ | .send u _ | .unwind u _ | .dropRaw u => u = t
  | .idle | .unlock _ _ | .done _ _ | .cancelled _ => False

/-- No blocking body is queued or running. -/
@[grind] def PoolPc.quiet : PoolPc F R → Bool
  | .idle | .done _ _ | .cancelled _ => true
  | .queued _ _ | .locked _ _ | .running _ _ | .send _ _ | .unwind _ _ | .unlock _ _ | .dropRaw _ => false

/-- What a worker that is over still does to its queue: it closes it, and then drops what is in it. -/
@[grind] def Winding : List DropItem → Bool → List ℕ → Prop
  | [], rxOpen, queue => rxOpen = false ∧ queue = []
  | .closeRx :: todo, _, _ => todo = [.drain]
  | .drain :: todo, rxOpen, _ => todo = [] ∧ rxOpen = false
  | .message _ :: todo, rxOpen, queue | .resultTx _ :: todo, rxOpen, queue | .panicTx _ :: todo, rxOpen, queue =>
    Winding todo rxOpen queue

/-- While the queue is open what is in it does not matter. -/
theorem Winding.of_open {todo : List DropItem} {q : List ℕ} (h : Winding todo true q) (q' : List ℕ) :
    Winding todo true q' := by
  induction todo with
  | nil => cases h.1
  | cons item todo ih =>
    cases item with
    | closeRx => exact h
    | drain => cases h.2
    | message | resultTx | panicTx => exact ih h

namespace Sys

variable {B : Bodies S F R PanicPayload} {v₀ : S} {s s' : Sys S F R} {t : ℕ}

/-! ### The invariant -/

/-- Who has a task. -/
structure Owned (s : Sys S F R) : Prop where
  /-- A message is in the queue, or with the worker. -/
  message : ∀ t, .message ∈ (s.tasks t).owners → t ∈ s.queue ∨ s.worker.hasMessage t
  /-- A reference of a `cancel()` call is held by that call. -/
  canceller : ∀ t i, .canceller i ∈ (s.tasks t).owners → ∃ c, s.cancels i = .run t c ∧ c.holds = true
  /-- A reference of a poll is held by that poll. -/
  handle : ∀ t, .handle ∈ (s.tasks t).owners → ∃ c, (s.tasks t).handle = .spawned (.cancel c) ∧ c.holds = true
  /-- A result sender that has not acted is in the cell, or with somebody. -/
  resultTx : ∀ t, (s.tasks t).cancellable = true → (s.tasks t).resultTx = .live →
    (s.tasks t).repr.Full ∨ s.worker.hasResultTx t ∨ s.pool.hasResultTx t ∨
      (∃ i, s.cancels i = .run t .dropRaw) ∨ (s.tasks t).handle = .spawned (.cancel .dropRaw)
  /-- So is a panic sender. -/
  panicTx : ∀ t, (s.tasks t).cancellable = true → (s.tasks t).panicTx = .live →
    (s.tasks t).repr.Full ∨ s.worker.hasPanicTx t ∨
      (∃ i c, s.cancels i = .run t c ∧ c.hasPanicTx = true) ∨
      ∃ c, (s.tasks t).handle = .spawned (.cancel c) ∧ c.hasPanicTx = true
  /-- A worker that is over winds up its queue. -/
  winding : ∀ out, s.worker.out? = some out → Winding s.worker.todo s.rxOpen s.queue

theorem owned_init (v : S) : (init v : Sys S F R).Owned := by
  constructor <;> simp [init, Task.absent, WorkerPc.out?]

/-! ### References -/

/-- Who has a reference after a step had it before, or gets it now. -/
theorem owner_of_change {k : Task F R} {o : Owner} (hc : TaskChange s s' t k) (ho : o ∈ k.owners) :
    o ∈ (s.tasks t).owners ∨ (o = .message ∧ t = s.next ∧ s'.next = s.next + 1) ∨
      (∃ i, o = .canceller i ∧ s'.cancels i = .run t .take) ∨
      o = .handle ∧ k.handle = .spawned (.cancel .take) := by
  have hrelease : ∀ {x : Owner} {k' : Task F R}, o ∈ (k'.release x).owners → o ∈ k'.owners :=
    fun h => Finset.mem_of_mem_erase h
  cases hc with
  | accept ht hn _ =>
    obtain rfl : o = .message := by simpa [Task.accepted] using ho
    exact .inr (.inl ⟨rfl, ht, hn⟩)
  | reject => simp [Task.rejected] at ho
  | take | skip | release | dealloc => exact .inl (hrelease ho)
  | call hi hi' hm =>
    cases hm with
    | upgrade _ =>
      rcases Finset.mem_insert.mp ho with rfl | ho
      · exact .inr (.inr (.inl ⟨_, rfl, hi'⟩))
      · exact .inl ho
    | takeFailed _ | dropPanicTx => exact .inl (hrelease ho)
    | _ => exact .inl ho
  | poll hm =>
    cases hm with
    | cancel hh hm =>
      cases hm with
      | upgrade _ =>
        rcases Finset.mem_insert.mp ho with rfl | ho
        · exact .inr (.inr (.inr ⟨rfl, rfl⟩))
        · exact .inl ho
      | takeFailed _ | dropPanicTx => exact .inl (hrelease ho)
      | _ => exact .inl ho
    | _ => exact .inl ho
  | _ => exact .inl ho

/-- A message stays where it is, is received, or is dropped. -/
theorem message_stays {a : Act F} (m : Move B s a s') (hmsg : t ∈ s.queue ∨ s.worker.hasMessage t)
    (ho : .message ∈ (s'.tasks t).owners) : t ∈ s'.queue ∨ s'.worker.hasMessage t := by
  cases m with
  | worker m =>
    cases m with
    | take | skip | lastMessage | message | drainLast | drain =>
      simp only [modTask, Function.update_apply] at ho
      split_ifs at ho <;> grind
    | _ => grind
  | runtime m => cases m <;> grind
  | spawn m => cases m <;> grind
  | pool m | call m | taskHandle m | spawner m | handle m => cases m <;> exact hmsg

theorem Owned.message_step {a : Act F} (h : s.Owned) (m : Move B s a s') (ho : .message ∈ (s'.tasks t).owners) :
    t ∈ s'.queue ∨ s'.worker.hasMessage t := by
  rcases owner_of_change (taskChange_of_move m t) ho with hold | ⟨-, rfl, hn⟩ | ⟨i, hi, -⟩ | ⟨hh, -⟩
  · exact message_stays m (h.message t hold) ho
  · cases m with
    | spawn m =>
      cases m with
      | accept => exact .inl (by simp)
      | reject | unavailable => simp [Task.rejected] at ho
      | _ => exact absurd hn (Nat.succ_ne_self _).symm
    | worker m | runtime m | pool m | call m | taskHandle m | spawner m | handle m =>
      cases m <;> exact absurd hn (Nat.succ_ne_self _).symm
  · cases hi
  · cases hh

/-- A party that holds its reference keeps it, or lets go of it. -/
theorem holds_of_cancelMove {o : Owner} {x : Taker} {c c' : CancelPc} {g : Task F R → Task F R}
    (hm : CancelMove s t o x c g c') (hc : c.holds = true) (ho : o ∈ (g (s.tasks t)).owners) : c'.holds = true := by
  cases hm with
  | upgrade | upgradeFailed | store => cases hc
  | take | dropRaw => rfl
  | takeFailed | dropPanicTx => exact absurd rfl (Finset.ne_of_mem_erase ho)

theorem Owned.canceller_step {a : Act F} (h : s.Owned) (m : Move B s a s') {i : ℕ}
    (ho : .canceller i ∈ (s'.tasks t).owners) : ∃ c, s'.cancels i = .run t c ∧ c.holds = true := by
  rcases owner_of_change (taskChange_of_move m t) ho with hold | ⟨hi, -⟩ | ⟨j, hi, hj⟩ | ⟨hi, -⟩
  · obtain ⟨c, hi, hc⟩ := h.canceller t i hold
    have hchange := callChange_of_move m i
    generalize s'.cancels i = x at hchange
    cases hchange with
    | same => exact ⟨c, hi, hc⟩
    | start hi' | startRejected hi' | running hi' | notRunning hi' => cases hi.symm.trans hi'
    | run hi' hm ht =>
      cases hi.symm.trans hi'
      exact ⟨_, rfl, holds_of_cancelMove hm hc (ht ▸ ho)⟩
  · cases hi
  · cases hi
    exact ⟨_, hj, rfl⟩
  · cases hi

theorem Owned.handle_step {a : Act F} (h : s.Owned) (hc : s.Cells) (m : Move B s a s')
    (ho : .handle ∈ (s'.tasks t).owners) :
    ∃ c, (s'.tasks t).handle = .spawned (.cancel c) ∧ c.holds = true := by
  rcases owner_of_change (taskChange_of_move m t) ho with hold | ⟨hi, -⟩ | ⟨j, hi, -⟩ | ⟨-, hh⟩
  · obtain ⟨c, hh, hcc⟩ := h.handle t hold
    have hlt : t < s.next := hc.lt_of_handle (by rw [hh]; nofun)
    rcases (handleChange_of_change (taskChange_of_move m t)).of_cancel hlt.ne hh with
      he | ⟨c', g, hm, he⟩ | ⟨rfl, -⟩ | ⟨rfl, -⟩
    · exact ⟨c, he, hcc⟩
    · rw [he] at ho ⊢
      exact ⟨c', rfl, holds_of_cancelMove hm hcc ho⟩
    · cases hcc
    · cases hcc
  · cases hi
  · cases hi
  · exact ⟨_, hh, rfl⟩

/-! ### Senders -/

/-- A body that leaves its cell goes to the worker or to a cancelling party, or the worker is
about to drop its senders. -/
theorem full_cases {a : Act F} (m : Move B s a s') (hf : (s.tasks t).repr.Full) (ht : t ≠ s.next) :
    (s'.tasks t).repr.Full ∨ s'.worker.hasResultTx t ∧ s'.worker.hasPanicTx t ∨
      (∃ i, s'.cancels i = .run t .dropRaw) ∨ (s'.tasks t).handle = .spawned (.cancel .dropRaw) := by
  have hold : ∀ {u : ℕ} {k : Task F R}, (u = t → k.repr.Full) → (Function.update s.tasks u k t).repr.Full := by
    intro u k hk
    by_cases hu : u = t
    · subst hu
      simpa using hk rfl
    · rwa [Function.update_of_ne (Ne.symm hu)]
  cases m with
  | worker m =>
    cases m with
    | take | skip | lastMessage | message | drainLast | drain =>
      simp only [modTask, Function.update_apply]
      split_ifs <;> grind [OnceTake.not_full_of_take]
    | asyncSend | asyncUnwind | succeeded | sendPanic | dropBodyTx | resultTx | panicTx =>
      exact .inl (hold (by rintro rfl; exact hf))
    | _ => exact .inl hf
  | pool m =>
    cases m with
    | send | unwind | dropRaw => exact .inl (hold (by rintro rfl; exact hf))
    | _ => exact .inl hf
  | runtime m =>
    cases m with
    | dropQueued => exact .inl (hold (by rintro rfl; exact hf))
    | _ => exact .inl hf
  | call m =>
    cases m with
    | @run i u c c' g hi hm =>
      by_cases hu : u = t
      · subst hu
        cases hm with
        | take _ => exact .inr (.inr (.inl ⟨i, by simp⟩))
        | takeFailed hk => exact absurd hf (OnceTake.not_full_of_take hk)
        | _ => exact .inl (hold fun _ => hf)
      · exact .inl (hold fun he => absurd he hu)
    | _ => exact .inl hf
  | taskHandle m =>
    cases m with
    | start | unspawned => exact .inl (hold (by rintro rfl; exact hf))
    | @step u b g hm =>
      by_cases hu : u = t
      · subst hu
        cases hm with
        | cancel _ hm =>
          cases hm with
          | take _ => exact .inr (.inr (.inr (by simp [Task.setHandle])))
          | takeFailed hk => exact absurd hf (OnceTake.not_full_of_take hk)
          | _ => exact .inl (hold fun _ => hf)
        | _ => exact .inl (hold fun _ => hf)
      · exact .inl (hold fun he => absurd he hu)
    | _ => exact .inl hf
  | spawn m =>
    cases m with
    | accept | reject | unavailable => exact .inl (hold fun he => absurd he.symm ht)
    | panicked | shutdown | closed | panicMsg => exact .inl (hold (by rintro rfl; exact hf))
    | _ => exact .inl hf
  | spawner m | handle m => cases m <;> exact .inl hf

/-- The worker keeps a result sender, gives it to its closure, or makes it act. -/
theorem worker_resultTx_of_move {a : Act F} (m : Move B s a s') (hw : s.worker.hasResultTx t)
    (hl : (s'.tasks t).resultTx = .live) : s'.worker.hasResultTx t ∨ s'.pool.hasResultTx t := by
  cases m with
  | worker m =>
    cases m with
    | asyncSend | asyncUnwind | dropBodyTx | resultTx =>
      simp only [modTask, Function.update_apply] at hl
      split_ifs at hl <;> grind [Tx.close_ne_live, Tx.send_ne_live]
    | _ => grind
  | runtime m => cases m <;> grind
  | pool m | call m | taskHandle m | spawn m | spawner m | handle m => cases m <;> exact .inl hw

/-- So does the closure. -/
theorem pool_resultTx_of_move {a : Act F} (hcu : s.Custody) (m : Move B s a s') (hp : s.pool.hasResultTx t)
    (hl : (s'.tasks t).resultTx = .live) : s'.pool.hasResultTx t := by
  have htask : s.pool.task = some t := by cases hpc : s.pool <;> rw [hpc] at hp <;> grind
  have hphase := hcu.closure t htask
  cases m with
  | worker m => cases m <;> grind
  | runtime m =>
    cases m with
    | dropQueued =>
      simp only [modTask, Function.update_apply] at hl
      split_ifs at hl <;> grind [Tx.close_ne_live]
    | _ => exact hp
  | pool m =>
    cases m with
    | send | unwind | dropRaw =>
      simp only [modTask, Function.update_apply] at hl
      split_ifs at hl <;> grind [Tx.close_ne_live, Tx.send_ne_live]
    | _ => grind
  | call m | taskHandle m | spawn m | spawner m | handle m => cases m <;> exact hp

/-- The worker keeps a panic sender, or makes it act. -/
theorem worker_panicTx_of_move {a : Act F} (m : Move B s a s') (hw : s.worker.hasPanicTx t)
    (hl : (s'.tasks t).panicTx = .live) : s'.worker.hasPanicTx t := by
  cases m with
  | worker m =>
    cases m with
    | succeeded | sendPanic | panicTx =>
      simp only [modTask, Function.update_apply] at hl
      split_ifs at hl <;> grind [Tx.close_ne_live, Tx.send_ne_live]
    | _ => grind
  | runtime m => cases m <;> grind
  | pool m | call m | taskHandle m | spawn m | spawner m | handle m => cases m <;> exact hw

/-- A cancelling party keeps the senders that it holds, or makes them act. -/
theorem senders_of_holder {o : Owner} {x : Taker} {c c' : CancelPc} {g : Task F R → Task F R}
    (hm : CancelMove s t o x c g c') :
    (c = .dropRaw → (g (s.tasks t)).resultTx = .live → c' = .dropRaw) ∧
      (c.hasPanicTx = true → (g (s.tasks t)).panicTx = .live → c'.hasPanicTx = true) := by
  cases hm with
  | dropRaw => exact ⟨fun _ hl => absurd hl (by simp), fun _ _ => rfl⟩
  | dropPanicTx => exact ⟨nofun, fun _ hl => absurd hl (by simp)⟩
  | upgrade | upgradeFailed | take | takeFailed | store => exact ⟨nofun, nofun⟩

/-- So does a `cancel()` call. -/
theorem call_senders_of_move {a : Act F} (m : Move B s a s') {i : ℕ} {c : CancelPc} (hi : s.cancels i = .run t c) :
    (c = .dropRaw → (s'.tasks t).resultTx = .live → s'.cancels i = .run t .dropRaw) ∧
      (c.hasPanicTx = true → (s'.tasks t).panicTx = .live →
        ∃ c', s'.cancels i = .run t c' ∧ c'.hasPanicTx = true) := by
  have hchange := callChange_of_move m i
  generalize s'.cancels i = x at hchange
  cases hchange with
  | same => exact ⟨fun hc _ => hc ▸ hi, fun hc _ => ⟨c, hi, hc⟩⟩
  | start hi' | startRejected hi' | running hi' | notRunning hi' => cases hi.symm.trans hi'
  | run hi' hm ht =>
    cases hi.symm.trans hi'
    rw [ht]
    obtain ⟨hr, hp⟩ := senders_of_holder hm
    exact ⟨fun hc hl => by rw [hr hc hl], fun hc hl => ⟨_, rfl, hp hc hl⟩⟩

/-- And a poll. -/
theorem handle_senders_of_move {a : Act F} (hc : s.Cells) (m : Move B s a s') {c : CancelPc}
    (hh : (s.tasks t).handle = .spawned (.cancel c)) :
    (c = .dropRaw → (s'.tasks t).resultTx = .live → (s'.tasks t).handle = .spawned (.cancel .dropRaw)) ∧
      (c.hasPanicTx = true → (s'.tasks t).panicTx = .live →
        ∃ c', (s'.tasks t).handle = .spawned (.cancel c') ∧ c'.hasPanicTx = true) := by
  have hlt : t < s.next := hc.lt_of_handle (by rw [hh]; nofun)
  rcases (handleChange_of_change (taskChange_of_move m t)).of_cancel hlt.ne hh with
    he | ⟨c', g, hm, he⟩ | ⟨rfl, -⟩ | ⟨rfl, -⟩
  · exact ⟨fun hc _ => hc ▸ he, fun hc _ => ⟨c, he, hc⟩⟩
  · obtain ⟨hr, hp⟩ := senders_of_holder hm
    rw [he]
    exact ⟨fun hc hl => by rw [← hr hc hl]; rfl, fun hc hl => ⟨c', rfl, hp hc hl⟩⟩
  · exact ⟨nofun, nofun⟩
  · exact ⟨nofun, nofun⟩

/-- A task that can be cancelled could be before, or is new, with its body in the cell. -/
theorem Cells.cancellable_cases {a : Act F} (hc : s.Cells) (m : Move B s a s')
    (hk : (s'.tasks t).cancellable = true) :
    (s.tasks t).cancellable = true ∧ t ≠ s.next ∨ (s'.tasks t).repr.Full := by
  rcases accepted_of_change (taskChange_of_move m t) hk with hold | ⟨-, raw, he⟩
  · exact .inl ⟨hold, (hc.lt_of_cancellable hold).ne⟩
  · rw [he]
    exact .inr (OnceTake.full_new _)

theorem Owned.resultTx_step {a : Act F} (h : s.Owned) (hc : s.Cells) (hcu : s.Custody) (m : Move B s a s')
    (hk : (s'.tasks t).cancellable = true) (hl : (s'.tasks t).resultTx = .live) :
    (s'.tasks t).repr.Full ∨ s'.worker.hasResultTx t ∨ s'.pool.hasResultTx t ∨
      (∃ i, s'.cancels i = .run t .dropRaw) ∨ (s'.tasks t).handle = .spawned (.cancel .dropRaw) := by
  rcases hc.cancellable_cases m hk with ⟨hold, hne⟩ | hfull
  · rcases h.resultTx t hold ((hc.live_of_move m).1 hl) with hf | hw | hp | ⟨i, hi⟩ | hh
    · rcases full_cases m hf hne with hf | ⟨hw, -⟩ | hi | hh
      · exact .inl hf
      · exact .inr (.inl hw)
      · exact .inr (.inr (.inr (.inl hi)))
      · exact .inr (.inr (.inr (.inr hh)))
    · rcases worker_resultTx_of_move m hw hl with hw | hp
      · exact .inr (.inl hw)
      · exact .inr (.inr (.inl hp))
    · exact .inr (.inr (.inl (pool_resultTx_of_move hcu m hp hl)))
    · exact .inr (.inr (.inr (.inl ⟨i, (call_senders_of_move m hi).1 rfl hl⟩)))
    · exact .inr (.inr (.inr (.inr ((handle_senders_of_move hc m hh).1 rfl hl))))
  · exact .inl hfull

theorem Owned.panicTx_step {a : Act F} (h : s.Owned) (hc : s.Cells) (m : Move B s a s')
    (hk : (s'.tasks t).cancellable = true) (hl : (s'.tasks t).panicTx = .live) :
    (s'.tasks t).repr.Full ∨ s'.worker.hasPanicTx t ∨
      (∃ i c, s'.cancels i = .run t c ∧ c.hasPanicTx = true) ∨
      ∃ c, (s'.tasks t).handle = .spawned (.cancel c) ∧ c.hasPanicTx = true := by
  rcases hc.cancellable_cases m hk with ⟨hold, hne⟩ | hfull
  · rcases h.panicTx t hold ((hc.live_of_move m).2 hl) with hf | hw | ⟨i, c, hi, hc'⟩ | ⟨c, hh, hc'⟩
    · rcases full_cases m hf hne with hf | ⟨-, hw⟩ | ⟨i, hi⟩ | hh
      · exact .inl hf
      · exact .inr (.inl hw)
      · exact .inr (.inr (.inl ⟨i, _, hi, rfl⟩))
      · exact .inr (.inr (.inr ⟨_, hh, rfl⟩))
    · exact .inr (.inl (worker_panicTx_of_move m hw hl))
    · exact .inr (.inr (.inl ⟨i, (call_senders_of_move m hi).2 hc' hl⟩))
    · exact .inr (.inr (.inr ((handle_senders_of_move hc m hh).2 hc' hl)))
  · exact .inl hfull

/-! ### The queue of a worker that is over -/

theorem Owned.winding_step {a : Act F} (h : s.Owned) (m : Move B s a s') {out : WorkerOut}
    (ho : s'.worker.out? = some out) : Winding s'.worker.todo s'.rxOpen s'.queue := by
  have hold := h.winding
  cases m with
  | worker m => cases m <;> grind
  | runtime m => cases m <;> grind
  | spawn m =>
    cases m with
    | accept hopen _ =>
      have hw := hold out ho
      rw [hopen] at hw
      simp only [addTask, hopen]
      exact hw.of_open _
    | _ => exact hold out ho
  | pool m | call m | taskHandle m | spawner m | handle m => cases m <;> exact hold out ho

/-- **Every step keeps track of who has a task.** -/
theorem Owned.step {a : Act F} (h : s.Owned) (hc : s.Cells) (hcu : s.Custody) (m : Move B s a s') : s'.Owned where
  message _ := h.message_step m
  canceller _ _ := h.canceller_step m
  handle _ := h.handle_step hc m
  resultTx _ := h.resultTx_step hc hcu m
  panicTx _ := h.panicTx_step hc m
  winding _ := h.winding_step m

theorem owned_of_reachable (h : Reachable B v₀ s) : s.Owned := by
  refine h.invariant (P := Owned) (owned_init v₀) fun u v a hr hP _ hs => ?_
  have hi := inv_of_reachable hr
  exact hP.step hi.cells hi.custody (move_of_step hs)

/-! ### Nobody is left -/

/-- When worker, closure and cancellers are done with a task, both its senders have acted. -/
theorem Owned.terminal (h : s.Owned) (hc : s.Cells) {out : WorkerOut} (hw : s.worker = .ended out)
    (hp : s.pool.quiet = true) (hcalls : ∀ i c, s.cancels i = .run t c → c.holds = false)
    (hpoll : ∀ c, (s.tasks t).handle = .spawned (.cancel c) → c.holds = false)
    (hk : (s.tasks t).cancellable = true) : (s.tasks t).resultTx ≠ .live ∧ (s.tasks t).panicTx ≠ .live := by
  have hempty : ¬ (s.tasks t).repr.Full := by
    intro hf
    obtain ⟨-, o, ho⟩ := (hc.cell t).full hf
    cases o with
    | message =>
      have hwind := h.winding out (by rw [hw]; rfl)
      have hmsg := h.message t ho
      simp only [hw, WorkerPc.todo, Winding] at hwind
      simp [hw, hwind.2, WorkerPc.hasMessage] at hmsg
    | canceller i =>
      obtain ⟨c, hi, hh⟩ := h.canceller t i ho
      cases (hcalls i c hi).symm.trans hh
    | handle =>
      obtain ⟨c, hi, hh⟩ := h.handle t ho
      cases (hpoll c hi).symm.trans hh
  constructor
  · intro hl
    rcases h.resultTx t hk hl with hf | hwr | hpr | ⟨i, hi⟩ | hh
    · exact hempty hf
    · rw [hw] at hwr
      exact hwr
    · cases hpc : s.pool <;> rw [hpc] at hp hpr <;> grind
    · cases hcalls i _ hi
    · cases hpoll _ hh
  · intro hl
    rcases h.panicTx t hk hl with hf | hwp | ⟨i, c, hi, hcc⟩ | ⟨c, hh, hcc⟩
    · exact hempty hf
    · rw [hw] at hwp
      rcases hwp with hwp | hwp <;> cases hwp
    · have hno := hcalls i c hi
      cases c <;> cases hcc <;> cases hno
    · have hno := hpoll c hh
      cases c <;> cases hcc <;> cases hno

/-- A handle that waits although both its senders have acted has been woken. -/
theorem woken_of_terminal (h : Reachable B v₀ s) (hh : (s.tasks t).handle = .spawned .pending)
    (hr : (s.tasks t).resultTx ≠ .live) (hp : (s.tasks t).panicTx ≠ .live) : (s.tasks t).receiver.Woken := by
  have hx := receiverAt_iff.mp ((inv_of_reachable h).handles.receiver t _ hh)
  by_contra hw
  have hquiet := (wakers_of_reachable h t _ hh).quiet hx hw
  cases hpt : (s.tasks t).panicTx with
  | live => exact hp hpt
  | sent p => exact hquiet _ (.panic hpt)
  | dropped =>
    cases hrt : (s.tasks t).resultTx with
    | live => exact hr hrt
    | sent r => exact hquiet _ (.result hrt)
    | dropped => exact hquiet _ (.closed hpt hrt)

/-- **No orphaned handle.** When the worker future has ended, for whatever reason, no
blocking body is queued or running and no `cancel()` call is midway on a task, both
channels of the task are terminal if it was accepted. A poll of its handle that is not
cut short is ready, on its own and among others; that of a rejected task always is. And
a handle whose last poll returned `Pending` has been woken, so it is polled again. -/
theorem no_orphan (h : Reachable B v₀ s) {out : WorkerOut} (hw : s.worker = .ended out)
    (hp : s.pool.quiet = true) (hcalls : ∀ i c, s.cancels i = .run t c → c.holds = false)
    (hpoll : ∀ c, (s.tasks t).handle = .spawned (.cancel c) → c.holds = false) :
    (t ∈ s.accepted → (s.tasks t).resultTx ≠ .live ∧ (s.tasks t).panicTx ≠ .live) ∧
    ((s.tasks t).handle = .spawned .fresh ∨ (s.tasks t).handle = .spawned .pending →
      (∃ res, PollReturns B unspent s t (.resolved res)) ∧ PollReady B s t) ∧
    (∀ reason, (s.tasks t).handle = .unspawned reason →
      ∀ bs, PollReturns B bs s t (.resolved (.error reason.toTaskError))) ∧
    ((s.tasks t).handle = .spawned .pending → (s.tasks t).receiver.Woken) := by
  have hi := inv_of_reachable h
  have hterm := (owned_of_reachable h).terminal hi.cells hw hp hcalls hpoll
  refine ⟨fun hacc => hterm ((hi.ending.accepted t).mp hacc), fun hh => ?_, fun reason hh bs => ?_, fun hh => ?_⟩
  · obtain ⟨pc, hpc⟩ : ∃ pc, (s.tasks t).handle = .spawned pc := by
      rcases hh with hh | hh <;> exact ⟨_, hh⟩
    obtain ⟨hr, hp⟩ := hterm (hi.handles.unspawned t pc hpc)
    exact ⟨pollReturns_resolved hh (hi.handles.receiver t pc hpc) hi.status.flag_ne_none hp hr,
      pollReady_of_terminal hi hr hp⟩
  · refine ⟨s.setHandle t (.resolved (.error reason.toTaskError)), ?_, pollGoes_refl (handle_setHandle _)⟩
    simp only [step, pollStart, hh]
  · obtain ⟨hr, hp⟩ := hterm (hi.handles.unspawned t _ hh)
    exact woken_of_terminal h hh hr hp

/-- Two queued tasks, and a runtime that shuts down. -/
def demoOrphans : Sys ℕ ℕ ℕ := (demoExec
  [(1, .spawn .worker (.async 0)), (1, .spawn .worker (.blocking 1)), (1, .shutdown), (1, .dropWorker),
    (9, .worker)]).get rfl

theorem demoOrphans_reachable : Reachable demo 0 demoOrphans := demo_reachable rfl

theorem no_orphan_demo : ((demoOrphans.tasks 1).resultTx ≠ .live ∧ (demoOrphans.tasks 1).panicTx ≠ .live) ∧
    (∃ res, PollReturns demo unspent demoOrphans 1 (.resolved res)) ∧ PollReady demo demoOrphans 1 :=
  have hw : demoOrphans.worker = .ended .aborted := rfl
  have h := no_orphan (t := 1) demoOrphans_reachable hw rfl nofun nofun
  ⟨h.1 (by decide), h.2.1 (.inl rfl)⟩

/-- A poll by a task that has spent its budget returns `Pending`, with both channels terminal. -/
theorem poll_cut_short : ¬ ∀ (s : Sys ℕ ℕ ℕ) (t : ℕ) (bs : ℕ → Budget) (out : WorkerOut), Reachable demo 0 s →
    s.worker = .ended out → s.pool.quiet = true → (∀ i c, s.cancels i = .run t c → c.holds = false) →
    (s.tasks t).handle = .spawned .fresh → ∃ res, PollReturns demo bs s t (.resolved res) := by
  intro hall
  obtain ⟨res, hready⟩ := hall demoOrphans 1 (fun _ => .spent) .aborted demoOrphans_reachable rfl rfl nofun rfl
  have hpending : PollReturns demo (fun _ => .spent) demoOrphans 1 (.spawned .pending) := ⟨_, rfl, 3, _, rfl, rfl⟩
  cases hpending.unique hready (.inl rfl) (.inr ⟨_, rfl⟩)

end Sys

end AsyncSequential
