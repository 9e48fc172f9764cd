import AsyncSequential.Replay

/-!
# What the channels of a task tell

A task has two one-shot channels, for the body's result and for its panic. The
senders travel with the body: to the worker and its closure, to a `cancel()`
call, or into nowhere with the cell. `Channels` says what each position of the
worker and its closure knows of the task it works on, and hence what a channel
tells: a result was sent only by a body that returned it, a panic only by a body
that panicked with it, and a panic sender was dropped only for a reason.
-/

namespace AsyncSequential

variable {S F R : Type*}

open OneShot (Tx)

/-! ### What a position knows of its task -/

/-- What a caught body has left of its task. -/
@[grind] def Ended (x : Fate R PanicPayload) (r : Tx R) : Caught → Prop
  | .ok () => ∃ a, r = .sent a
  | .error e => x = .panicked e

/-- What the position of the worker says of task `t`: `x` has become of its body,
`r` and `p` are the senders of its result and its panic. -/
@[grind] def WorkerPc.Knows (t : ℕ) (x : Fate R PanicPayload) (r : Tx R) (p : Tx PanicPayload)
    (panics : List (ℕ × PanicPayload)) : WorkerPc F R → Prop
  | .recv _ | .dequeued _ | .checked _ | .ended _ => True
  | .took u _ => u = t → x = .unstarted ∧ r = .live ∧ p = .live
  | .asyncBody u _ _ => u = t → x = .running ∧ r = .live ∧ p = .live
  | .asyncSend u a => u = t → x = .completed a ∧ r = .live ∧ p = .live
  | .asyncUnwind u e => u = t → x = .panicked e ∧ r = .live ∧ p = .live
  | .asyncUnlock u res | .result u res => u = t → Ended x r res ∧ p = .live
  | .awaitBlocking u _ => u = t → p = .live
  | .storePanicked u e => u = t → x = .panicked e ∧ p = .live
  | .sendPanic u e => u = t → x = .panicked e ∧ p = .live ∧ (t, e) ∈ panics
  | .dropBody u _ => u = t → x = .running
  | .dropBodyTx u | .dropGuard u => u = t → x = .dropped
  | .dropping todo out =>
    (.resultTx t ∈ todo → out = .err ∧ x = .unstarted) ∧
      (.panicTx t ∈ todo → out = .aborted ∨ out = .err ∧ x = .unstarted)

/-- What the position of the closure says of task `t`. -/
@[grind] def PoolPc.Knows (t : ℕ) (x : Fate R PanicPayload) (r : Tx R) : PoolPc F R → Prop
  | .idle => True
  | .queued u _ | .locked u _ => u = t → x = .unstarted ∧ r = .live
  | .running u _ => u = t → x = .running ∧ r = .live
  | .send u a => u = t → x = .completed a ∧ r = .live
  | .unwind u e => u = t → x = .panicked e ∧ r = .live
  | .unlock u res | .done u (some res) => u = t → Ended x r res
  | .dropRaw u | .done u none | .cancelled u => u = t → x = .unstarted

/-- The worker has the panic `e` of `t` and has not recorded it. -/
@[grind] def WorkerPc.carries (t : ℕ) (e : PanicPayload) : WorkerPc F R → Prop
  | .asyncUnwind u e' | .storePanicked u e' => u = t ∧ e' = e
  | .asyncUnlock u res | .result u res => u = t ∧ res = .error e
  | _ => False

/-- The closure has the panic `e` of `t`. -/
@[grind] def PoolPc.carries (t : ℕ) (e : PanicPayload) : PoolPc F R → Prop
  | .unwind u e' => u = t ∧ e' = e
  | .unlock u res | .done u (some res) => u = t ∧ res = .error e
  | _ => False

@[grind →] theorem PoolPc.task_of_carries {p : PoolPc F R} {t : ℕ} {e : PanicPayload} (h : p.carries t e) :
    p.task = some t := by
  cases p with
  | done u res => cases res <;> grind
  | _ => grind

/-- The outcome of a worker that is over. -/
@[grind] def WorkerPc.out? : WorkerPc F R → Option WorkerOut
  | .dropping _ out | .ended out => some out
  | .recv _ | .dequeued _ | .checked _ | .took _ _ | .asyncBody _ _ _ | .asyncSend _ _ | .asyncUnwind _ _
  | .asyncUnlock _ _ | .awaitBlocking _ _ | .result _ _ | .storePanicked _ _ | .sendPanic _ _ | .dropBody _ _
  | .dropBodyTx _ | .dropGuard _ => none

namespace Task

variable (k : Task F R)

/-- The sender of the result. -/
def resultTx : Tx R := k.receiver.resultRx.tx

/-- The sender of the panic. -/
def panicTx : Tx PanicPayload := k.receiver.panicRx.tx

@[simp, grind =] theorem resultTx_accepted (raw : RawTask F) : (accepted raw : Task F R).resultTx = .live := rfl
@[simp, grind =] theorem panicTx_accepted (raw : RawTask F) : (accepted raw : Task F R).panicTx = .live := rfl
@[simp, grind =] theorem resultTx_rejected (h : TaskHandle R) : (rejected h : Task F R).resultTx = .live := rfl
@[simp, grind =] theorem panicTx_rejected (h : TaskHandle R) : (rejected h : Task F R).panicTx = .live := rfl
@[simp, grind =] theorem resultTx_takenBy (x : Taker) : (k.takenBy x).resultTx = k.resultTx := rfl
@[simp, grind =] theorem panicTx_takenBy (x : Taker) : (k.takenBy x).panicTx = k.panicTx := rfl
@[simp, grind =] theorem resultTx_takeFailed : k.takeFailed.resultTx = k.resultTx := rfl
@[simp, grind =] theorem panicTx_takeFailed : k.takeFailed.panicTx = k.panicTx := rfl
@[simp, grind =] theorem resultTx_share (o : Owner) : (k.share o).resultTx = k.resultTx := rfl
@[simp, grind =] theorem panicTx_share (o : Owner) : (k.share o).panicTx = k.panicTx := rfl
@[simp, grind =] theorem resultTx_release (o : Owner) : (k.release o).resultTx = k.resultTx := rfl
@[simp, grind =] theorem panicTx_release (o : Owner) : (k.release o).panicTx = k.panicTx := rfl
@[simp, grind =] theorem resultTx_dealloc : k.dealloc.resultTx = k.resultTx := rfl
@[simp, grind =] theorem panicTx_dealloc : k.dealloc.panicTx = k.panicTx := rfl
@[simp, grind =] theorem resultTx_sendResult (r : R) : (k.sendResult r).resultTx = k.resultTx.send r :=
  OneShot.send_tx _ _
@[simp, grind =] theorem panicTx_sendResult (r : R) : (k.sendResult r).panicTx = k.panicTx := rfl
@[simp, grind =] theorem resultTx_closeResult : k.closeResult.resultTx = k.resultTx.close := OneShot.close_tx _
@[simp, grind =] theorem panicTx_closeResult : k.closeResult.panicTx = k.panicTx := rfl
@[simp, grind =] theorem resultTx_closePanic : k.closePanic.resultTx = k.resultTx := rfl
@[simp, grind =] theorem panicTx_closePanic : k.closePanic.panicTx = k.panicTx.close := OneShot.close_tx _
@[simp, grind =] theorem resultTx_sendPanic (p : PanicPayload) : (k.sendPanic p).resultTx = k.resultTx := rfl
@[simp, grind =] theorem panicTx_sendPanic (p : PanicPayload) : (k.sendPanic p).panicTx = k.panicTx.send p :=
  OneShot.send_tx _ _
@[simp, grind =] theorem resultTx_setHandle (h : TaskHandle R) : (k.setHandle h).resultTx = k.resultTx := rfl
@[simp, grind =] theorem panicTx_setHandle (h : TaskHandle R) : (k.setHandle h).panicTx = k.panicTx := rfl

end Task

/-! ### The invariant -/

namespace Sys

variable {B : Bodies S F R PanicPayload} {v₀ : S} {s s' : Sys S F R} {t : ℕ}

/-- What the channels tell. -/
structure Channels (s : Sys S F R) : Prop where
  /-- The senders of a task that nobody has taken are there. -/
  untaken : ∀ t, (s.tasks t).takers = [] → (s.tasks t).resultTx = .live ∧ (s.tasks t).panicTx = .live
  /-- The worker knows what has become of the task it works on. -/
  worker : ∀ t, (s.tasks t).takers = [.worker] →
    s.worker.Knows t (s.fate t) (s.tasks t).resultTx (s.tasks t).panicTx s.panics
  /-- So does the closure. -/
  pool : ∀ t, (s.tasks t).takers = [.worker] → s.pool.Knows t (s.fate t) (s.tasks t).resultTx
  /-- A result was sent by a body that returned it. -/
  sent : ∀ t a, (s.tasks t).resultTx = .sent a → s.fate t = .completed a
  /-- What a body returned is sent, or about to be. -/
  completed : ∀ t a, s.fate t = .completed a →
    (s.tasks t).resultTx = .sent a ∨ s.worker = .asyncSend t a ∨ s.pool = .send t a
  /-- A panic was sent by a body that panicked with it, and is recorded. -/
  panicSent : ∀ t e, (s.tasks t).panicTx = .sent e → s.fate t = .panicked e ∧ (t, e) ∈ s.panics
  /-- The panic sender of a task that the worker took was dropped because the body
  had returned, the worker was dropped, or the body could not be started. -/
  panicDropped : ∀ t, (s.tasks t).takers = [.worker] → (s.tasks t).panicTx = .dropped →
    (∃ a, (s.tasks t).resultTx = .sent a) ∨ s.worker.out? = some .aborted ∨
      s.worker.out? = some .err ∧ s.fate t = .unstarted
  /-- The result sender of a task that the worker took was not dropped by a body
  in progress or one that returned. -/
  resultDropped : ∀ t, (s.tasks t).takers = [.worker] → (s.tasks t).resultTx = .dropped →
    s.fate t ≠ .running ∧ ∀ a, s.fate t ≠ .completed a
  /-- A body was dropped with the worker. -/
  dropped : ∀ t, s.fate t = .dropped →
    s.worker = .dropBodyTx t ∨ s.worker = .dropGuard t ∨ s.worker.out? = some .aborted
  /-- A panic is on its way, or recorded. -/
  panicked : ∀ t e, s.fate t = .panicked e → s.worker.carries t e ∨ s.pool.carries t e ∨ (t, e) ∈ s.panics
  /-- What is recorded of a task is how its body panicked. -/
  recorded : ∀ t e, (t, e) ∈ s.panics → s.fate t = .panicked e

theorem channels_init (v : S) : (init v : Sys S F R).Channels := by
  constructor <;> simp [init, Task.absent, Task.resultTx, Task.panicTx, TaskResultReceiver.new]

/-- What has started the worker has taken. -/
theorem takers_of_started (hc : s.Cells) (ho : s.Order) (ht : t ∈ s.started) :
    (s.tasks t).takers = [.worker] := by
  obtain ⟨rest, hf, -⟩ := ho.started
  have hmem : t ∈ s.popped.filter s.taken := by simp [hf, ht]
  have htk : .worker ∈ (s.tasks t).takers := by simpa [taken] using (List.mem_filter.mp hmem).2
  have hone := (hc.cell t).one
  cases hk : (s.tasks t).takers with
  | nil => simp [hk] at htk
  | cons x xs =>
    rw [hk] at htk hone
    have hxs : xs = [] := List.length_eq_zero_iff.mp (by simpa using hone)
    subst hxs
    simpa using (List.mem_singleton.mp htk).symm

/-- Nothing has become of the body of a task that the worker has not taken. -/
theorem Replay.fate_of_takers (h : Replay B v₀ s) (hc : s.Cells) (ho : s.Order)
    (ht : (s.tasks t).takers ≠ [.worker]) : s.fate t = .unstarted := by
  obtain ⟨v, -, hseq⟩ := h.sequential
  exact (hseq.unstarted t).mpr fun hs => ht (takers_of_started hc ho hs)

theorem Channels.worker_knows (h : s.Channels) (hc : s.Cells) (hcu : s.Custody)
    (hx : (s.tasks t).takers ≠ [.worker] → s.fate t = .unstarted) (m : WorkerMove B s s')
    (ht : (s'.tasks t).takers = [.worker]) :
    s'.worker.Knows t (s'.fate t) (s'.tasks t).resultTx (s'.tasks t).panicTx s'.panics := by
  have h₁ := h.worker t
  have h₂ := hc.worker t
  have h₃ := h.pool t
  have h₄ := h.untaken t
  have h₅ := (hc.cell t).full
  cases m with
  | take _ hk =>
    have hfull := OnceTake.full_of_take hk
    simp only [modTask, Function.update_apply] at ht ⊢
    split_ifs at ht ⊢ <;> grind
  | joined hw hp =>
    have h₆ := hcu.awaiting _ (congrArg WorkerPc.phase hw)
    grind
  | joinedNone hw hp =>
    have h₆ := hcu.awaiting _ (congrArg WorkerPc.phase hw)
    grind
  | skip | startAsync | asyncPending | asyncReady | asyncPanicked | asyncSend | asyncUnwind | succeeded | sendPanic
  | dropBody | dropBodyTx | lastMessage | message | resultTx | panicTx | drainLast | drain =>
    simp only [modTask, ranSegment, startBody, Function.update_apply] at ht ⊢
    split_ifs at ht ⊢ <;> grind
  | _ => grind

theorem Channels.pool_knows (h : s.Channels) (hc : s.Cells) (m : PoolMove B s s')
    (ht : (s'.tasks t).takers = [.worker]) : s'.pool.Knows t (s'.fate t) (s'.tasks t).resultTx := by
  have h₁ := h.pool t
  have h₂ := hc.pool t
  cases m with
  | start | pending | ready | panicked | send | unwind | dropRaw =>
    simp only [modTask, ranSegment, startBody, Function.update_apply] at ht ⊢
    split_ifs at ht ⊢ <;> grind
  | _ => grind

/-- What a worker says that waits for the closure, or was dropped, does not depend
on what the closure does. -/
theorem knows_of_pool {w : WorkerPc F R} {x x' : Fate R PanicPayload} {r r' : Tx R} {p : Tx PanicPayload}
    {ps : List (ℕ × PanicPayload)} (hw : w.phase = .awaiting t ∨ w.phase = .over .aborted)
    (h : w.Knows t x r p ps) : w.Knows t x' r' p ps := by
  cases w <;> grind

/-- The worker, at a step of the closure. -/
theorem Channels.worker_knows_of_pool (h : s.Channels) (hcu : s.Custody) (m : PoolMove B s s')
    (ht : (s'.tasks t).takers = [.worker]) :
    s'.worker.Knows t (s'.fate t) (s'.tasks t).resultTx (s'.tasks t).panicTx s'.panics := by
  have h₁ := h.worker t
  have h₂ := hcu.closure t
  cases m with
  | start | pending | ready | panicked | send | unwind | dropRaw =>
    simp only [modTask, ranSegment, startBody, Function.update_apply] at ht ⊢
    split_ifs at ht ⊢ <;> grind [knows_of_pool]
  | _ => exact h₁ ht

/-- A closure of another task says nothing. -/
theorem knows_of_task_ne {p : PoolPc F R} {x : Fate R PanicPayload} {r : Tx R} (hp : p.task ≠ some t) :
    p.Knows t x r := by
  cases p with
  | done u res => cases res <;> grind
  | _ => grind

/-- The closure, at a step of the worker. -/
theorem Channels.pool_knows_of_worker (h : s.Channels) (hc : s.Cells) (hcu : s.Custody) (m : WorkerMove B s s')
    (ht : (s'.tasks t).takers = [.worker]) : s'.pool.Knows t (s'.fate t) (s'.tasks t).resultTx := by
  have h₁ := h.worker t
  have h₂ := h.pool t
  have h₃ := hcu.closure t
  have h₅ := (hc.cell t).full
  cases m with
  | spawnBlocking | joined | joinedNone => grind
  | skip | startAsync | asyncPending | asyncReady | asyncPanicked | asyncSend | asyncUnwind | succeeded | sendPanic
  | dropBody | dropBodyTx | lastMessage | message | resultTx | panicTx | drainLast | drain | take =>
    simp only [modTask, ranSegment, startBody, Function.update_apply] at ht ⊢
    split_ifs at ht ⊢ <;> grind [knows_of_task_ne]
  | _ => exact h₂ ht

/-! ### What a step can do to a sender -/

/-- What a step can make of the result sender of task `t`. -/
inductive ResultTxChange (s s' : Sys S F R) (t : ℕ) : Tx R → Prop
  | same : ResultTxChange s s' t (s.tasks t).resultTx
  | sent {r : R} (hw : s.worker = .asyncSend t r ∨ s.pool = .send t r) (hs : s.Advances s') :
      ResultTxChange s s' t ((s.tasks t).resultTx.send r)
  | closed (hw : s.DropsResult t) (hs : s.Advances s') : ResultTxChange s s' t (s.tasks t).resultTx.close
  | cancelled {x : Taker} (hx : (s.tasks t).takers = [x]) (hne : x ≠ .worker) :
      ResultTxChange s s' t (s.tasks t).resultTx.close

/-- What a step can make of the panic sender of task `t`. -/
inductive PanicTxChange (s s' : Sys S F R) (t : ℕ) : Tx PanicPayload → Prop
  | same : PanicTxChange s s' t (s.tasks t).panicTx
  | sent {p : PanicPayload} (hw : s.worker = .sendPanic t p) (hs : s.Advances s') :
      PanicTxChange s s' t ((s.tasks t).panicTx.send p)
  | closed (hw : s.worker = .result t (.ok ()) ∨ ∃ todo out, s.worker = .dropping (.panicTx t :: todo) out)
      (hs : s.Advances s') : PanicTxChange s s' t (s.tasks t).panicTx.close
  | cancelled {x : Taker} (hx : (s.tasks t).takers = [x]) (hne : x ≠ .worker) :
      PanicTxChange s s' t (s.tasks t).panicTx.close

/-- What `TaskCancellerImpl::cancel` does to the senders. -/
theorem senders_of_cancelMove {o : Owner} {x : Taker} {c c' : CancelPc} {g : Task F R → Task F R}
    (m : CancelMove s t o x c g c') (hx : c.took = true → (s.tasks t).takers = [x]) (hne : x ≠ .worker) :
    ResultTxChange s s' t (g (s.tasks t)).resultTx ∧ PanicTxChange s s' t (g (s.tasks t)).panicTx := by
  cases m with
  | dropRaw => exact ⟨by simpa using .cancelled (hx rfl) hne, .same⟩
  | dropPanicTx => exact ⟨.same, by simpa using .cancelled (hx rfl) hne⟩
  | _ => exact ⟨.same, .same⟩

/-- A change that leaves the senders alone. -/
theorem senders_of_eq {k : Task F R} (hr : k.resultTx = (s.tasks t).resultTx)
    (hp : k.panicTx = (s.tasks t).panicTx) : ResultTxChange s s' t k.resultTx ∧ PanicTxChange s s' t k.panicTx := by
  rw [hr, hp]
  exact ⟨.same, .same⟩

/-- What a change does to the senders. -/
theorem Cells.senders_of_change {k : Task F R} (h : s.Cells) (hc : TaskChange s s' t k) :
    ResultTxChange s s' t k.resultTx ∧ PanicTxChange s s' t k.panicTx := by
  cases hc with
  | accept ht _ _ | reject ht _ _ =>
    exact senders_of_eq (by rw [h.fresh t ht.ge]; rfl) (by rw [h.fresh t ht.ge]; rfl)
  | sendResult hw hs => exact ⟨by simpa using .sent hw hs, .same⟩
  | closeResult hw hs => exact ⟨by simpa using .closed hw hs, .same⟩
  | closePanic hw hs => exact ⟨.same, by simpa using .closed hw hs⟩
  | sendPanic hw hs => exact ⟨.same, by simpa using .sent hw hs⟩
  | call hi _ hm => exact senders_of_cancelMove hm (h.call _ t _ hi) nofun
  | poll hm =>
    cases hm with
    | panicRx _ hx | panicRxReady _ hx =>
      obtain ⟨hr, hp⟩ := (TaskResultReceiver.panicPoll_of_eq hx).tx
      exact senders_of_eq hr hp
    | resultRx _ hx | resultRxReady _ hx =>
      obtain ⟨hr, hp⟩ := (TaskResultReceiver.resultPoll_of_eq hx).tx
      exact senders_of_eq hr hp
    | cancel hh hm => exact senders_of_cancelMove hm (h.handle t _ hh) nofun
    | _ => exact ⟨.same, .same⟩
  | _ => exact ⟨.same, .same⟩

theorem Cells.resultTx_of_move {a : Act F} (h : s.Cells) (m : Move B s a s') :
    ResultTxChange s s' t (s'.tasks t).resultTx := (h.senders_of_change (taskChange_of_move m t)).1

theorem Cells.panicTx_of_move {a : Act F} (h : s.Cells) (m : Move B s a s') :
    PanicTxChange s s' t (s'.tasks t).panicTx := (h.senders_of_change (taskChange_of_move m t)).2

/-- What has been sent stays sent. -/
theorem ResultTxChange.sent_of_sent {r : Tx R} {a : R} (hc : ResultTxChange s s' t r)
    (h : (s.tasks t).resultTx = .sent a) : r = .sent a := by
  cases hc <;> grind

theorem PanicTxChange.sent_of_sent {p : Tx PanicPayload} {e : PanicPayload} (hc : PanicTxChange s s' t p)
    (h : (s.tasks t).panicTx = .sent e) : p = .sent e := by
  cases hc <;> grind

/-- A sender that has not acted had not before. -/
theorem Cells.live_of_move {a : Act F} (hc : s.Cells) (m : Move B s a s') :
    ((s'.tasks t).resultTx = .live → (s.tasks t).resultTx = .live) ∧
      ((s'.tasks t).panicTx = .live → (s.tasks t).panicTx = .live) := by
  constructor
  · intro hl
    have hchange := hc.resultTx_of_move (t := t) m
    generalize (s'.tasks t).resultTx = x at hchange hl
    cases hchange with
    | same => exact hl
    | sent => exact absurd hl (Tx.send_ne_live _ _)
    | closed | cancelled => exact absurd hl (Tx.close_ne_live _)
  · intro hl
    have hchange := hc.panicTx_of_move (t := t) m
    generalize (s'.tasks t).panicTx = x at hchange hl
    cases hchange with
    | same => exact hl
    | sent => exact absurd hl (Tx.send_ne_live _ _)
    | closed | cancelled => exact absurd hl (Tx.close_ne_live _)

/-! ### The steps, one field at a time -/

theorem Channels.untaken_step {a : Act F} (h : s.Channels) (hc : s.Cells) (m : Move B s a s')
    (ht : (s'.tasks t).takers = []) : (s'.tasks t).resultTx = .live ∧ (s'.tasks t).panicTx = .live := by
  have ht₀ : (s.tasks t).takers = [] := by
    by_contra hne
    exact hne ((hc.takers_of_move m hne).symm.trans ht)
  obtain ⟨hr, hp⟩ := h.untaken t ht₀
  constructor
  · have hchange := hc.resultTx_of_move (t := t) m
    generalize (s'.tasks t).resultTx = r at hchange
    cases hchange with
    | same => exact hr
    | sent hw =>
      rcases hw with hw | hw
      · simp [hc.worker t (by rw [hw]; rfl)] at ht₀
      · simp [hc.pool t (by rw [hw]; rfl)] at ht₀
    | closed hw => rcases hc.takers_of_dropsResult hw with hx | hx <;> simp [hx] at ht₀
    | cancelled hx _ => simp [hx] at ht₀
  · have hchange := hc.panicTx_of_move (t := t) m
    generalize (s'.tasks t).panicTx = p at hchange
    cases hchange with
    | same => exact hp
    | sent hw => simp [hc.worker t (by rw [hw]; rfl)] at ht₀
    | closed hw =>
      rcases hw with hw | ⟨todo, out, hw⟩
      · simp [hc.worker t (by rw [hw]; rfl)] at ht₀
      · rcases hc.items t (.inr (by simp [hw, WorkerPc.todo])) with hx | hx <;> simp [hx] at ht₀
    | cancelled hx _ => simp [hx] at ht₀

/-- The others than the worker and its closure leave alone the senders of what the worker has taken. -/
theorem Cells.senders_of_outside {a : Act F} (hc : s.Cells) (m : Move B s a s') (hw : s'.worker = s.worker)
    (hp : s'.pool = s.pool) (ht : (s'.tasks t).takers = [.worker]) :
    (s.tasks t).takers = [.worker] ∧ (s'.tasks t).resultTx = (s.tasks t).resultTx ∧
      (s'.tasks t).panicTx = (s.tasks t).panicTx := by
  have hmem : s.taken t = true := by
    rw [← taken_of_move hc m fun raw hc' => by rw [hw, hc']; nofun]
    simp [taken, ht]
  have htk : (s.tasks t).takers = [.worker] := by
    rw [← hc.takers_of_move m fun hn => by simp [taken, hn] at hmem, ht]
  have hs : ¬ s.Advances s' := by simp [Advances, hw, hp]
  refine ⟨htk, ?_, ?_⟩
  · have hchange := hc.resultTx_of_move (t := t) m
    generalize (s'.tasks t).resultTx = r at hchange
    cases hchange with
    | same => rfl
    | sent _ hs' | closed _ hs' => exact absurd hs' hs
    | cancelled hx hne => rw [htk] at hx; cases hx; exact absurd rfl hne
  · have hchange := hc.panicTx_of_move (t := t) m
    generalize (s'.tasks t).panicTx = p at hchange
    cases hchange with
    | same => rfl
    | sent _ hs' | closed _ hs' => exact absurd hs' hs
    | cancelled hx hne => rw [htk] at hx; cases hx; exact absurd rfl hne

theorem Channels.worker_step {a : Act F} (h : s.Channels) (hc : s.Cells) (hcu : s.Custody)
    (hx : (s.tasks t).takers ≠ [.worker] → s.fate t = .unstarted) (m : Move B s a s')
    (ht : (s'.tasks t).takers = [.worker]) :
    s'.worker.Knows t (s'.fate t) (s'.tasks t).resultTx (s'.tasks t).panicTx s'.panics := by
  have hm := m
  cases m with
  | worker m => exact h.worker_knows hc hcu hx m ht
  | pool m => exact h.worker_knows_of_pool hcu m ht
  | runtime m =>
    have h₁ := h.worker t
    have h₂ := hcu.closure t
    cases m with
    | dropQueued hd hp =>
      simp only [modTask, Function.update_apply] at ht ⊢
      split_ifs at ht ⊢ <;> grind [knows_of_pool]
    | _ => grind
  | call m | taskHandle m | spawn m | spawner m | handle m =>
    obtain ⟨htk, hr, hp⟩ := hc.senders_of_outside hm (by cases m <;> rfl) (by cases m <;> rfl) ht
    rw [hr, hp]
    cases m <;> exact h.worker t htk

theorem Channels.pool_step {a : Act F} (h : s.Channels) (hc : s.Cells) (hcu : s.Custody) (m : Move B s a s')
    (ht : (s'.tasks t).takers = [.worker]) : s'.pool.Knows t (s'.fate t) (s'.tasks t).resultTx := by
  have hm := m
  cases m with
  | worker m => exact h.pool_knows_of_worker hc hcu m ht
  | pool m => exact h.pool_knows hc m ht
  | runtime m =>
    have h₁ := h.pool t
    cases m with
    | dropQueued hd hp =>
      simp only [modTask, Function.update_apply] at ht ⊢
      split_ifs at ht ⊢ <;> grind
    | _ => exact h₁ ht
  | call m | taskHandle m | spawn m | spawner m | handle m =>
    obtain ⟨htk, hr, hp⟩ := hc.senders_of_outside hm (by cases m <;> rfl) (by cases m <;> rfl) ht
    rw [hr]
    cases m <;> exact h.pool t htk

/-- What has become of a body stays: it has ended. -/
theorem Channels.final {a : Act F} (h : s.Channels) (hc : s.Cells) (m : Move B s a s')
    (hx : s.fate t ≠ .unstarted) (hx' : s.fate t ≠ .running) : s'.fate t = s.fate t := by
  have h₁ := h.worker t
  have h₂ := h.pool t
  have h₃ := hc.worker t
  have h₄ := hc.pool t
  have hchange := fateChange_of_move m t
  generalize s'.fate t = x at hchange
  cases hchange with
  | same => rfl
  | start hw | pending hw | ready hw | panicked hw => rcases hw with ⟨hw, -⟩ | ⟨hw, -⟩ <;> grind
  | dropped hw _ => grind

theorem Channels.sent_step {a : Act F} {r : R} (h : s.Channels) (hc : s.Cells) (m : Move B s a s')
    (ht : (s'.tasks t).resultTx = .sent r) : s'.fate t = .completed r := by
  have hfate : s.fate t = .completed r := by
    have h₁ := h.worker t
    have h₂ := h.pool t
    have h₃ := hc.worker t
    have h₄ := hc.pool t
    have h₅ := h.sent t r
    have hchange := hc.resultTx_of_move (t := t) m
    rw [ht] at hchange
    generalize hr : Tx.sent r = x at hchange
    cases hchange <;> grind
  rw [h.final hc m (by simp [hfate]) (by simp [hfate]), hfate]

/-- A body that a worker or a closure is about to report. -/
theorem reported_of_move {a : Act F} {r : R} (hcu : s.Custody) (m : Move B s a s')
    (h : s.worker = .asyncSend t r ∨ s.pool = .send t r) :
    s'.worker = .asyncSend t r ∨ s'.pool = .send t r ∨ s'.tasks = (s.modTask t (·.sendResult r)).tasks := by
  have hpool := hcu.closure t
  cases m with
  | worker m => cases m <;> grind
  | pool m => cases m <;> grind
  | runtime m => cases m <;> grind
  | call m | taskHandle m | spawn m | spawner m | handle m => cases m <;> grind

theorem Channels.completed_step {a : Act F} {r : R} (h : s.Channels) (hc : s.Cells) (hcu : s.Custody)
    (m : Move B s a s')
    (ht : s'.fate t = .completed r) :
    (s'.tasks t).resultTx = .sent r ∨ s'.worker = .asyncSend t r ∨ s'.pool = .send t r := by
  have hchange := fateChange_of_move m t
  rw [ht] at hchange
  generalize hx : Fate.completed r = x at hchange
  cases hchange with
  | same =>
    rcases h.completed t r hx.symm with hs | hw
    · exact .inl ((hc.resultTx_of_move m).sent_of_sent hs)
    · have hlive : (s.tasks t).resultTx = .live := by
        have h₁ := h.worker t
        have h₂ := h.pool t
        have h₃ := hc.worker t
        have h₄ := hc.pool t
        grind
      rcases reported_of_move hcu m hw with hw' | hw' | hs
      · exact .inr (.inl hw')
      · exact .inr (.inr hw')
      · simp [hs, hlive, Tx.send]
  | ready hw => cases hx; rcases hw with ⟨-, hw⟩ | ⟨-, hw⟩ <;> simp [hw]
  | start | pending | panicked | dropped => cases hx

theorem panics_of_move {a : Act F} {q : ℕ × PanicPayload} (m : Move B s a s') (hq : q ∈ s.panics) :
    q ∈ s'.panics := by
  cases m with
  | worker m =>
    cases m with
    | storePanicked _ => exact List.mem_append_left _ hq
    | _ => exact hq
  | runtime m | pool m | call m | taskHandle m | spawn m | spawner m | handle m => cases m <;> exact hq

theorem Channels.panicSent_step {a : Act F} {e : PanicPayload} (h : s.Channels) (hc : s.Cells)
    (m : Move B s a s') (ht : (s'.tasks t).panicTx = .sent e) : s'.fate t = .panicked e ∧ (t, e) ∈ s'.panics := by
  have hfate : s.fate t = .panicked e ∧ (t, e) ∈ s.panics := by
    have h₁ := h.worker t
    have h₃ := hc.worker t
    have h₅ := h.panicSent t e
    have hchange := hc.panicTx_of_move (t := t) m
    rw [ht] at hchange
    generalize hr : Tx.sent e = x at hchange
    cases hchange <;> grind
  rw [h.final hc m (by simp [hfate]) (by simp [hfate])]
  exact ⟨hfate.1, panics_of_move m hfate.2⟩

/-- The outcome of a worker that is over stays. -/
theorem out_of_move {a : Act F} {out : WorkerOut} (m : Move B s a s') (h : s.worker.out? = some out) :
    s'.worker.out? = some out := by
  cases m with
  | worker m => cases m <;> grind
  | runtime m => cases m <;> grind
  | pool m | call m | taskHandle m | spawn m | spawner m | handle m => cases m <;> exact h

/-- The worker's outcome is its phase. -/
theorem out?_eq_some {w : WorkerPc F R} {out : WorkerOut} : w.out? = some out ↔ w.phase = .over out := by
  cases w <;> grind

/-- What the worker had taken it has taken; the senders of what it takes now are there. -/
theorem Channels.takers_of_worker {a : Act F} (h : s.Channels) (hc : s.Cells) (hcu : s.Custody)
    (hx : (s.tasks t).takers ≠ [.worker] → s.fate t = .unstarted) (m : Move B s a s')
    (ht : (s'.tasks t).takers = [.worker]) :
    (s.tasks t).takers = [.worker] ∨ (s'.tasks t).resultTx = .live ∧ (s'.tasks t).panicTx = .live := by
  by_cases hw : ∃ raw, s.worker = .checked t ∧ s'.worker = .took t raw
  · obtain ⟨raw, -, hw⟩ := hw
    have hknows := h.worker_step hc hcu hx m ht
    rw [hw] at hknows
    exact .inr (hknows rfl).2
  · left
    have hmem : .worker ∈ (s.tasks t).takers := by
      rw [← mem_takers_of_change hc (taskChange_of_move m t) fun raw hw₁ hw₂ => hw ⟨raw, hw₁, hw₂⟩]
      simp [ht]
    rw [← hc.takers_of_move m (List.ne_nil_of_mem hmem), ht]

theorem Channels.panicDropped_step {a : Act F} (h : s.Channels) (hc : s.Cells) (hcu : s.Custody)
    (hx : (s.tasks t).takers ≠ [.worker] → s.fate t = .unstarted) (m : Move B s a s')
    (ht : (s'.tasks t).takers = [.worker]) (hd : (s'.tasks t).panicTx = .dropped) :
    (∃ r, (s'.tasks t).resultTx = .sent r) ∨ s'.worker.out? = some .aborted ∨
      s'.worker.out? = some .err ∧ s'.fate t = .unstarted := by
  have htk : (s.tasks t).takers = [.worker] := by
    rcases h.takers_of_worker hc hcu hx m ht with htk | ⟨-, hp⟩
    · exact htk
    · cases hp.symm.trans hd
  have h₁ := h.worker t htk
  have hs : (∃ r, (s.tasks t).resultTx = .sent r) ∨ s.worker.out? = some .aborted ∨
      s.worker.out? = some .err ∧ s.fate t = .unstarted := by
    have h₂ := h.panicDropped t htk
    have hchange := hc.panicTx_of_move (t := t) m
    rw [hd] at hchange
    generalize hr : Tx.dropped = x at hchange
    cases hchange with
    | closed hw => rcases hw with hw | ⟨todo, out, hw⟩ <;> grind
    | _ => grind
  rcases hs with ⟨r, hr⟩ | ho | ⟨ho, hx⟩
  · exact .inl ⟨r, (hc.resultTx_of_move m).sent_of_sent hr⟩
  · exact .inr (.inl (out_of_move m ho))
  · refine .inr (.inr ⟨out_of_move m ho, ?_⟩)
    have hph := out?_eq_some.mp ho
    have h₂ := hcu.closure t
    have hchange := fateChange_of_move m t
    generalize s'.fate t = x at hchange
    cases hchange <;> grind

theorem Channels.resultDropped_step {a : Act F} (h : s.Channels) (hc : s.Cells) (hcu : s.Custody)
    (hx : (s.tasks t).takers ≠ [.worker] → s.fate t = .unstarted) (m : Move B s a s')
    (ht : (s'.tasks t).takers = [.worker]) (hd : (s'.tasks t).resultTx = .dropped) :
    s'.fate t ≠ .running ∧ ∀ r, s'.fate t ≠ .completed r := by
  have htk : (s.tasks t).takers = [.worker] := by
    rcases h.takers_of_worker hc hcu hx m ht with htk | ⟨hr, -⟩
    · exact htk
    · cases hr.symm.trans hd
  have h₁ := h.worker t htk
  have h₂ := h.pool t htk
  have h₃ := hcu.closure t
  have hdrop : (s.tasks t).resultTx = .dropped ∨ s.DropsResult t ∧ s.Advances s' := by
    have hchange := hc.resultTx_of_move (t := t) m
    rw [hd] at hchange
    generalize hr : Tx.dropped = x at hchange
    cases hchange <;> grind
  have hfate : s.fate t ≠ .running ∧ ∀ r, s.fate t ≠ .completed r := by
    rcases hdrop with hd | ⟨hw, -⟩
    · exact h.resultDropped t htk hd
    · rcases hw with ⟨p, hw⟩ | hw | ⟨todo, out, hw⟩ | ⟨p, hp⟩ | hp | ⟨f, hp, -⟩ <;> grind
  have hchange := fateChange_of_move m t
  generalize s'.fate t = x at hchange
  cases hchange with
  | same => exact hfate
  | start hw =>
    rcases hdrop with hd | ⟨hw, -⟩
    · grind
    · rcases hw with ⟨p, hw⟩ | hw | ⟨todo, out, hw⟩ | ⟨p, hp⟩ | hp | ⟨f, hp, -⟩ <;> grind
  | pending hw | ready hw | panicked hw | dropped hw => grind

theorem Channels.dropped_step {a : Act F} (h : s.Channels) (m : Move B s a s')
    (hd : s'.fate t = .dropped) :
    s'.worker = .dropBodyTx t ∨ s'.worker = .dropGuard t ∨ s'.worker.out? = some .aborted := by
  have hchange := fateChange_of_move m t
  rw [hd] at hchange
  generalize hr : Fate.dropped = x at hchange
  cases hchange with
  | same =>
    have hs := h.dropped t hr.symm
    cases m with
    | worker m => cases m <;> grind
    | runtime m => cases m <;> grind
    | pool m | call m | taskHandle m | spawn m | spawner m | handle m => cases m <;> exact hs
  | dropped _ hw => exact .inl hw
  | start | pending | ready | panicked => cases hr

theorem Channels.panicked_step {a : Act F} {e : PanicPayload} (h : s.Channels) (hcu : s.Custody)
    (m : Move B s a s') (hp : s'.fate t = .panicked e) :
    s'.worker.carries t e ∨ s'.pool.carries t e ∨ (t, e) ∈ s'.panics := by
  have hchange := fateChange_of_move m t
  rw [hp] at hchange
  generalize hr : Fate.panicked e = x at hchange
  cases hchange with
  | same =>
    have hs := h.panicked t e hr.symm
    have hpool := hcu.closure t
    have hwait := hcu.awaiting
    cases m with
    | worker m => cases m <;> grind
    | pool m => cases m <;> grind
    | runtime m => cases m <;> grind
    | call m | taskHandle m | spawn m | spawner m | handle m => cases m <;> exact hs
  | panicked hw => cases hr; rcases hw with ⟨-, hw⟩ | ⟨-, hw⟩ <;> grind
  | start | pending | ready | dropped => cases hr

theorem Channels.recorded_step {a : Act F} {e : PanicPayload} (h : s.Channels) (hc : s.Cells) (m : Move B s a s')
    (hp : (t, e) ∈ s'.panics) : s'.fate t = .panicked e := by
  have hfate : s.fate t = .panicked e := by
    by_cases hmem : (t, e) ∈ s.panics
    · exact h.recorded t e hmem
    · cases m with
      | worker m =>
        cases m with
        | @storePanicked u p hw =>
          obtain ⟨rfl, rfl⟩ : t = u ∧ e = p := by simpa [hmem] using hp
          have hknows := h.worker t (hc.worker t (by rw [hw]; rfl))
          rw [hw] at hknows
          exact (hknows rfl).1
        | _ => exact absurd hp hmem
      | runtime m | pool m | call m | taskHandle m | spawn m | spawner m | handle m =>
        cases m <;> exact absurd hp hmem
  rw [h.final hc m (by simp [hfate]) (by simp [hfate]), hfate]

/-- **Channels holds in every reachable state**: a step keeps it. -/
theorem Channels.step {a : Act F} (h : s.Channels) (hc : s.Cells) (ho : s.Order) (hr : Replay B v₀ s)
    (hcu : s.Custody) (m : Move B s a s') : s'.Channels where
  untaken _ := h.untaken_step hc m
  worker _ := h.worker_step hc hcu (hr.fate_of_takers hc ho) m
  pool _ := h.pool_step hc hcu m
  sent _ _ := h.sent_step hc m
  completed _ _ := h.completed_step hc hcu m
  panicSent _ _ := h.panicSent_step hc m
  panicDropped _ := h.panicDropped_step hc hcu (hr.fate_of_takers hc ho) m
  resultDropped _ := h.resultDropped_step hc hcu (hr.fate_of_takers hc ho) m
  dropped _ := h.dropped_step m
  panicked _ _ := h.panicked_step hcu m
  recorded _ _ := h.recorded_step hc m

end Sys

end AsyncSequential
