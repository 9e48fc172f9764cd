import AsyncSequential.Moves

/-!
# Who has the state

The shared state is handed over in two ways, by a guard that the worker future
keeps across the awaits of an async body, and by a closure that takes the mutex
along into a blocking thread; and a join takes it away. `Custody` ties the
mutex, its contents and the positions of the three together: whoever works on
the state holds the guard, there is a blocking closure only while the worker
waits for it or after the worker was dropped, and a join takes the state only
when the worker has ended.
-/

namespace AsyncSequential

variable {S F R : Type*}

/-! ### What a position means for the state -/

/-- How the worker future stands to the shared state. -/
inductive WorkerPhase where
  /-- It leaves the state alone. -/
  | free
  /-- It holds the guard. -/
  | guarding
  /-- It waits for the blocking closure of `t`. -/
  | awaiting (t : ℕ)
  /-- It is over, with this outcome. -/
  | over (out : WorkerOut)
  deriving DecidableEq

/-- How the worker stands to the state. -/
@[grind] def WorkerPc.phase : WorkerPc F R → WorkerPhase
  | .recv _ | .dequeued _ | .checked _ | .took _ _ | .result _ _ | .storePanicked _ _ | .sendPanic _ _ => .free
  | .asyncBody _ _ _ | .asyncSend _ _ | .asyncUnwind _ _ | .asyncUnlock _ _ => .guarding
  | .dropBody _ _ | .dropBodyTx _ | .dropGuard _ => .guarding
  | .awaitBlocking t _ => .awaiting t
  | .dropping _ out | .ended out => .over out

/-- The worker future has ended, with this outcome, and dropped what it had. -/
@[grind] def WorkerPc.ended? : WorkerPc F R → Option WorkerOut
  | .ended out => some out
  | _ => none

/-- The task of the blocking closure. -/
@[grind] def PoolPc.task : PoolPc F R → Option ℕ
  | .idle => none
  | .queued t _ | .locked t _ | .running t _ | .send t _ | .unwind t _ | .unlock t _ | .dropRaw t
  | .done t _ | .cancelled t => some t

/-- The closure holds the guard. -/
@[grind] def PoolPc.guards : PoolPc F R → Bool
  | .locked _ _ | .running _ _ | .send _ _ | .unwind _ _ | .unlock _ _ => true
  | _ => false

/-- The closure holds the guard and has found the state. -/
@[grind] def PoolPc.inState : PoolPc F R → Bool
  | .running _ _ | .send _ _ | .unwind _ _ | .unlock _ _ => true
  | _ => false

/-- The closure returns, or has returned, without having run its body. -/
@[grind] def PoolPc.gaveUp : PoolPc F R → Bool
  | .dropRaw _ | .done _ none => true
  | _ => false

/-- The state inside what a join returns. -/
def JoinResult.state : JoinResult S → S
  | .ok v => v
  | .error e => e.intoInner

/-- The state that a join has taken. -/
@[grind] def HandlePc.state? : HandlePc S → Option S
  | .unlockState _ _ v | .decide _ _ v | .readPanicMsg _ v => some v
  | .returned _ res => some res.state
  | _ => none

/-- The join holds the guard. -/
@[grind] def HandlePc.guards : HandlePc S → Bool
  | .takeState _ _ | .unlockState _ _ _ => true
  | _ => false

/-- What a join knows of the worker's outcome. -/
@[grind] def HandlePc.out? : HandlePc S → Option WorkerOut
  | .lockState _ out | .takeState _ out | .unlockState _ out _ | .decide _ out _ => some out
  | .readPanicMsg _ _ => some .err
  | _ => none

/-- The join has seen the worker end. -/
@[grind] def HandlePc.pastWorker : HandlePc S → Bool
  | .lockState _ _ | .takeState _ _ | .unlockState _ _ _ | .decide _ _ _ | .readPanicMsg _ _ | .returned _ _ => true
  | _ => false

@[grind →] theorem WorkerPc.ended?_of_awaiting {w : WorkerPc F R} {t : ℕ} (h : w.phase = .awaiting t) :
    w.ended? = none := by
  cases w <;> simp_all [phase, ended?]

@[grind →] theorem PoolPc.task_of_guards {p : PoolPc F R} (h : p.guards = true) : p.task ≠ none := by
  cases p <;> simp_all [guards, task]

@[grind →] theorem PoolPc.guards_of_inState {p : PoolPc F R} (h : p.inState = true) : p.guards = true := by
  cases p <;> simp_all [guards, inState]

@[grind →] theorem HandlePc.past_of_guards {h : HandlePc S} (hg : h.guards = true) : h.pastWorker = true := by
  cases h <;> simp_all [guards, pastWorker]

@[grind →] theorem HandlePc.past_of_out {h : HandlePc S} {out : WorkerOut} (ho : h.out? = some out) :
    h.pastWorker = true := by
  cases h <;> simp_all [out?, pastWorker]

@[grind →] theorem HandlePc.past_of_state {h : HandlePc S} (hs : h.state?.isSome = true) :
    h.pastWorker = true := by
  cases h <;> simp_all [state?, pastWorker]

/-- A join that has not got past the worker has neither the guard nor the state. -/
theorem HandlePc.of_not_past {h : HandlePc S} (hp : h.pastWorker = false) :
    h.guards = false ∧ h.out? = none ∧ h.state? = none := by
  cases h <;> simp_all [guards, out?, state?, pastWorker]

/-! ### The invariant -/

/-- Who has the state, on the components of a system. -/
structure CustodyAt (w : WorkerPc F R) (p : PoolPc F R) (l : Option LockHolder) (v : Option S)
    (h : HandlePc S) (down : Bool) : Prop where
  /-- There is a closure only while the worker waits for it, or after it was dropped. -/
  closure : ∀ t, p.task = some t → w.phase = .awaiting t ∨ w.phase = .over .aborted
  /-- The closure the worker waits for is its own; it gives up only at a shutdown. -/
  awaiting : ∀ t, w.phase = .awaiting t →
    p.task = some t ∧ p.gaveUp = false ∧ ∀ u, p = .cancelled u → down = true
  /-- The worker holds the mutex exactly while it guards the state. -/
  lock_worker : l = some .worker ↔ w.phase = .guarding
  /-- So does the closure. -/
  lock_pool : l = some .pool ↔ p.guards = true
  /-- So does the join. -/
  lock_join : l = some .join ↔ h.guards = true
  /-- A join that got past the worker knows how it ended. -/
  out : ∀ out, h.out? = some out → w.ended? = some out
  /-- It takes the state only after the worker has ended. -/
  past : h.pastWorker = true → w.ended? ≠ none
  /-- The state is in the mutex until a join takes it. -/
  value : v = none ↔ h.state?.isSome = true
  /-- Who works on the state has found it. -/
  found : w.phase = .guarding ∨ p.inState = true → v ≠ none

namespace CustodyAt

variable {w w' : WorkerPc F R} {p p' : PoolPc F R} {l : Option LockHolder} {v v' : Option S} {h h' : HandlePc S}
  {d : Bool} {t : ℕ}

/-- The worker moves on without changing how it stands to the state. -/
theorem of_phase (hc : CustodyAt w p l v h d) (hph : w'.phase = w.phase) (he : w'.ended? = w.ended?) :
    CustodyAt w' p l v h d :=
  ⟨hph ▸ hc.closure, hph ▸ hc.awaiting, hph ▸ hc.lock_worker, hc.lock_pool, hc.lock_join, he ▸ hc.out,
    he ▸ hc.past, hc.value, hph ▸ hc.found⟩

/-- What the mutex contains changes, but it is there as before. -/
theorem of_value (hc : CustodyAt w p l v h d) (hv : v' = none ↔ v = none) : CustodyAt w p l v' h d :=
  { hc with value := hv.trans hc.value, found := fun hs hn => hc.found hs (hv.mp hn) }

/-- While the worker has not ended no join has got past it. -/
theorem not_past (hc : CustodyAt w p l v h d) (hw : w.ended? = none) : h.pastWorker = false := by
  cases hp : h.pastWorker with
  | false => rfl
  | true => exact absurd hw (hc.past hp)

/-- While the worker has not ended the state is in the mutex. -/
theorem value_ne_none (hc : CustodyAt w p l v h d) (hw : w.ended? = none) : v ≠ none := by
  intro hv
  have hpast := HandlePc.past_of_state (hc.value.mp hv)
  rw [hc.not_past hw] at hpast
  cases hpast

/-- A worker that is not over and does not wait for a closure has none. -/
theorem pool_idle (hc : CustodyAt w p l v h d) (ha : ∀ t, w.phase ≠ .awaiting t)
    (ho : w.phase ≠ .over .aborted) : p.task = none := by
  cases hp : p.task with
  | none => rfl
  | some t => exact ((hc.closure t hp).elim (ha t) ho).elim

/-- While the worker waits for a closure that has not locked the mutex, nobody has. -/
theorem lock_eq_none (hc : CustodyAt w p l v h d) (ha : w.phase = .awaiting t)
    (hp : p.guards = false) : l = none := by
  have hh := hc.not_past (WorkerPc.ended?_of_awaiting ha)
  cases l with
  | none => rfl
  | some x => cases x <;> grind [CustodyAt]

/-- The guard, the outcome and the state of a join, while the worker has not ended. -/
theorem handle_idle (hc : CustodyAt w p l v h d) (hw : w.ended? = none) :
    h.guards = false ∧ h.out? = none ∧ h.pastWorker = false :=
  have hpast := hc.not_past hw
  have hidle := HandlePc.of_not_past hpast
  ⟨hidle.1, hidle.2.1, hpast⟩

/-- A join relies on how the worker has ended, so on nothing while it has not. -/
theorem unended (hc : CustodyAt w p l v h d) (he : w.ended? = none) (w' : WorkerPc F R) :
    (∀ out, h.out? = some out → w'.ended? = some out) ∧ (h.pastWorker = true → w'.ended? ≠ none) := by
  obtain ⟨-, hout, hpast⟩ := hc.handle_idle he
  refine ⟨fun out ho => ?_, fun hp => ?_⟩
  · cases hout.symm.trans ho
  · cases hpast.symm.trans hp

/-- A worker that neither guarded the state nor does so now has not locked the mutex. -/
theorem unguarded (hc : CustodyAt w p l v h d) (hw : w.phase ≠ .guarding) (hw' : w'.phase ≠ .guarding) :
    l = some .worker ↔ w'.phase = .guarding :=
  iff_of_false (fun hl => hw (hc.lock_worker.mp hl)) hw'

/-! ### The worker moves -/

/-- The worker returns. -/
theorem finish (hc : CustodyAt w p l v h d) (hw : w.phase = .free) (he : w.ended? = none) {out : WorkerOut}
    (hw' : w'.phase = .over out) : CustodyAt w' p l v h d := by
  have hp := hc.pool_idle (by simp [hw]) (by simp [hw])
  obtain ⟨hout, hpast⟩ := hc.unended he w'
  exact { hc with
    closure := fun t ht => nomatch hp.symm.trans ht
    awaiting := fun t ht => nomatch hw'.symm.trans ht
    lock_worker := hc.unguarded (by simp [hw]) (by simp [hw'])
    out := hout
    past := hpast
    found := fun hf => hc.found (.inr (hf.resolve_left fun hg => nomatch hw'.symm.trans hg)) }

/-- The worker has dropped what it had. -/
theorem gone (hc : CustodyAt w p l v h d) (hph : w'.phase = w.phase) (he : w.ended? = none) :
    CustodyAt w' p l v h d := by
  obtain ⟨hout, hpast⟩ := hc.unended he w'
  exact { hc with
    closure := hph ▸ hc.closure
    awaiting := hph ▸ hc.awaiting
    lock_worker := hph ▸ hc.lock_worker
    out := hout
    past := hpast
    found := hph ▸ hc.found }

/-- The worker takes the guard. -/
theorem guard (hc : CustodyAt w p l v h d) (hw : w.phase = .free) (he : w.ended? = none) (hv : v ≠ none)
    (hw' : w'.phase = .guarding) : CustodyAt w' p (some .worker) v h d := by
  have hp := hc.pool_idle (by simp [hw]) (by simp [hw])
  have hg := (hc.handle_idle he).1
  obtain ⟨hout, hpast⟩ := hc.unended he w'
  exact {
    closure := fun t ht => nomatch hp.symm.trans ht
    awaiting := fun t ht => nomatch hw'.symm.trans ht
    lock_worker := iff_of_true rfl hw'
    lock_pool := iff_of_false nofun fun hg => PoolPc.task_of_guards hg hp
    lock_join := iff_of_false nofun fun hg' => nomatch hg.symm.trans hg'
    out := hout
    past := hpast
    value := hc.value
    found := fun _ => hv }

/-- The worker releases the guard. -/
theorem unguard (hc : CustodyAt w p l v h d) (hw : w.phase = .guarding) (he : w.ended? = none)
    (hw' : w'.phase = .free ∨ ∃ out, w'.phase = .over out) : CustodyAt w' p none v h d := by
  have hp := hc.pool_idle (by simp [hw]) (by simp [hw])
  have hg := (hc.handle_idle he).1
  obtain ⟨hout, hpast⟩ := hc.unended he w'
  exact {
    closure := fun t ht => nomatch hp.symm.trans ht
    awaiting := fun t ht => by rcases hw' with hw' | ⟨out, hw'⟩ <;> cases hw'.symm.trans ht
    lock_worker := iff_of_false nofun (by rcases hw' with hw' | ⟨out, hw'⟩ <;> rw [hw'] <;> nofun)
    lock_pool := iff_of_false nofun fun hg => PoolPc.task_of_guards hg hp
    lock_join := iff_of_false nofun fun hg' => nomatch hg.symm.trans hg'
    out := hout
    past := hpast
    value := hc.value
    found := fun _ => hc.found (.inl hw) }

/-- The worker spawns a closure, and waits for it. -/
theorem spawn (hc : CustodyAt w p l v h d) (hw : w.phase = .free) (he : w.ended? = none) {f : F}
    (hw' : w'.phase = .awaiting t) : CustodyAt w' (.queued t f) l v h d := by
  have hp := hc.pool_idle (by simp [hw]) (by simp [hw])
  obtain ⟨hout, hpast⟩ := hc.unended he w'
  exact { hc with
    closure := fun u hu => by cases hu; exact .inl hw'
    awaiting := fun u hu => by cases hw'.symm.trans hu; exact ⟨rfl, rfl, nofun⟩
    lock_worker := hc.unguarded (by simp [hw]) (by simp [hw'])
    lock_pool := iff_of_false (fun hl => PoolPc.task_of_guards (hc.lock_pool.mp hl) hp) nofun
    out := hout
    past := hpast
    found := fun hf => nomatch hw'.symm.trans (hf.resolve_right nofun) }

/-- The worker has the closure's result. -/
theorem joined (hc : CustodyAt w p l v h d) (hw : w.phase = .awaiting t) (hp : p.guards = false)
    (hw' : w'.phase = .free ∨ ∃ out, w'.phase = .over out) : CustodyAt w' .idle l v h d := by
  obtain ⟨hout, hpast⟩ := hc.unended (WorkerPc.ended?_of_awaiting hw) w'
  have hguard : w'.phase ≠ .guarding := by rcases hw' with hw' | ⟨out, hw'⟩ <;> rw [hw'] <;> nofun
  exact { hc with
    closure := nofun
    awaiting := fun u hu => by rcases hw' with hw' | ⟨out, hw'⟩ <;> cases hw'.symm.trans hu
    lock_worker := hc.unguarded (by simp [hw]) hguard
    lock_pool := iff_of_false (fun hl => nomatch hp.symm.trans (hc.lock_pool.mp hl)) nofun
    out := hout
    past := hpast
    found := fun hf => absurd (hf.resolve_right nofun) hguard }

/-- The worker is dropped, and leaves the closure behind. -/
theorem detach (hc : CustodyAt w p l v h d) (hw : w.phase = .awaiting t) (hw' : w'.phase = .over .aborted) :
    CustodyAt w' p l v h d := by
  obtain ⟨hout, hpast⟩ := hc.unended (WorkerPc.ended?_of_awaiting hw) w'
  exact { hc with
    closure := fun _ _ => .inr hw'
    awaiting := fun u hu => nomatch hw'.symm.trans hu
    lock_worker := hc.unguarded (by simp [hw]) (by simp [hw'])
    out := hout
    past := hpast
    found := fun hf => hc.found (.inr (hf.resolve_left fun hg => nomatch hw'.symm.trans hg)) }

/-! ### The closure moves -/

/-- The closure has not given up on a worker that waits for it. -/
def Serves (w : WorkerPc F R) (p : PoolPc F R) (d : Bool) : Prop :=
  ∀ t, w.phase = .awaiting t → p.gaveUp = false ∧ ∀ u, p = .cancelled u → d = true

/-- The closure moves on without touching the mutex. -/
theorem pool_move (hc : CustodyAt w p l v h d) (ht : p'.task = p.task) (hg : p'.guards = p.guards)
    (hi : p'.inState = true → v ≠ none) (ha : Serves w p' d) : CustodyAt w p' l v h d :=
  { hc with
    closure := fun t hp => hc.closure t (ht ▸ hp)
    awaiting := fun t hw => ⟨ht.trans (hc.awaiting t hw).1, ha t hw⟩
    lock_pool := by rw [hg]; exact hc.lock_pool
    found := fun hf => hf.elim (fun hw => hc.found (.inl hw)) hi }

/-- The closure locks the mutex. -/
theorem pool_lock (hc : CustodyAt w p l v h d) (hl : l = none) (ht : p'.task = p.task) (hg : p'.guards = true)
    (hi : p'.inState = false) (ha : Serves w p' d) : CustodyAt w p' (some .pool) v h d :=
  { hc with
    closure := fun t hp => hc.closure t (ht ▸ hp)
    awaiting := fun t hw => ⟨ht.trans (hc.awaiting t hw).1, ha t hw⟩
    lock_worker := iff_of_false nofun fun hw => nomatch hl.symm.trans (hc.lock_worker.mpr hw)
    lock_pool := iff_of_true rfl hg
    lock_join := iff_of_false nofun fun hj => nomatch hl.symm.trans (hc.lock_join.mpr hj)
    found := fun hf => hc.found (.inl (hf.resolve_right fun hi' => nomatch hi.symm.trans hi')) }

/-- The closure unlocks the mutex. -/
theorem pool_unlock (hc : CustodyAt w p l v h d) (hg : p.guards = true) (ht : p'.task = p.task)
    (hg' : p'.guards = false) (ha : Serves w p' d) : CustodyAt w p' none v h d := by
  have hl := hc.lock_pool.mpr hg
  exact { hc with
    closure := fun t hp => hc.closure t (ht ▸ hp)
    awaiting := fun t hw => ⟨ht.trans (hc.awaiting t hw).1, ha t hw⟩
    lock_worker := iff_of_false nofun fun hw => nomatch hl.symm.trans (hc.lock_worker.mpr hw)
    lock_pool := iff_of_false nofun (by rw [hg']; nofun)
    lock_join := iff_of_false nofun fun hj => nomatch hl.symm.trans (hc.lock_join.mpr hj)
    found := fun hf => hc.found (.inl (hf.resolve_right fun hi => nomatch hg'.symm.trans (PoolPc.guards_of_inState hi))) }

/-! ### The join moves -/

/-- The join moves on without touching the mutex. -/
theorem join_move (hc : CustodyAt w p l v h d) (hg : h'.guards = h.guards)
    (hs : h'.state?.isSome = h.state?.isSome) (ho : ∀ out, h'.out? = some out → w.ended? = some out)
    (hp : h'.pastWorker = true → w.ended? ≠ none) : CustodyAt w p l v h' d :=
  { hc with
    lock_join := by rw [hg]; exact hc.lock_join
    out := ho
    past := hp
    value := by rw [hs]; exact hc.value }

/-- The handle moves on, and has not got past the worker. -/
theorem of_not_past (hc : CustodyAt w p l v h d) (hh : h.pastWorker = false) (hh' : h'.pastWorker = false) :
    CustodyAt w p l v h' d := by
  obtain ⟨hg, -, hs⟩ := HandlePc.of_not_past hh
  obtain ⟨hg', ho', hs'⟩ := HandlePc.of_not_past hh'
  exact hc.join_move (hg'.trans hg.symm) (by rw [hs, hs']) (fun out ho => nomatch ho'.symm.trans ho)
    fun hp => nomatch hh'.symm.trans hp

/-- The join locks the mutex. -/
theorem join_lock (hc : CustodyAt w p l v h d) (hl : l = none) (hg : h'.guards = true)
    (hs : h'.state?.isSome = h.state?.isSome) (ho : h'.out? = h.out?) (hp : h.pastWorker = true) :
    CustodyAt w p (some .join) v h' d :=
  { hc with
    lock_worker := iff_of_false nofun fun hw => nomatch hl.symm.trans (hc.lock_worker.mpr hw)
    lock_pool := iff_of_false nofun fun hp => nomatch hl.symm.trans (hc.lock_pool.mpr hp)
    lock_join := iff_of_true rfl hg
    out := by rw [ho]; exact hc.out
    past := fun _ => hc.past hp
    value := by rw [hs]; exact hc.value }

/-- The join takes the state. -/
theorem join_take (hc : CustodyAt w p l v h d) (hg : h.guards = true) (hg' : h'.guards = true)
    (hs : h'.state?.isSome = true) (ho : h'.out? = h.out?) : CustodyAt w p l none h' d := by
  have hl := hc.lock_join.mpr hg
  exact { hc with
    lock_join := iff_of_true hl hg'
    out := by rw [ho]; exact hc.out
    past := fun _ => hc.past (HandlePc.past_of_guards hg)
    value := iff_of_true rfl hs
    found := fun hf => by
      rcases hf with hf | hf
      · cases hl.symm.trans (hc.lock_worker.mpr hf)
      · cases hl.symm.trans (hc.lock_pool.mpr (PoolPc.guards_of_inState hf)) }

/-- The join unlocks the mutex. -/
theorem join_unlock (hc : CustodyAt w p l v h d) (hg : h.guards = true) (hg' : h'.guards = false)
    (hs : h'.state?.isSome = h.state?.isSome) (ho : h'.out? = h.out?) : CustodyAt w p none v h' d := by
  have hl := hc.lock_join.mpr hg
  exact { hc with
    lock_worker := iff_of_false nofun fun hw => nomatch hl.symm.trans (hc.lock_worker.mpr hw)
    lock_pool := iff_of_false nofun fun hp => nomatch hl.symm.trans (hc.lock_pool.mpr hp)
    lock_join := iff_of_false nofun (by rw [hg']; nofun)
    out := by rw [ho]; exact hc.out
    past := fun _ => hc.past (HandlePc.past_of_guards hg)
    value := by rw [hs]; exact hc.value }

end CustodyAt

namespace Sys

variable {B : Bodies S F R PanicPayload} {s s' : Sys S F R}

/-- Who has the state. -/
abbrev Custody (s : Sys S F R) : Prop := CustodyAt s.worker s.pool s.lock s.value s.handle s.down

theorem custody_init (v : S) : (init v : Sys S F R).Custody := by
  constructor <;> simp [init, WorkerPc.phase, PoolPc.task, PoolPc.guards, PoolPc.inState, HandlePc.guards,
    HandlePc.out?, HandlePc.pastWorker, HandlePc.state?]

theorem Custody.worker (h : s.Custody) (m : WorkerMove B s s') : s'.Custody := by
  cases m with
  | recv hw _ | check hw _ _ | take hw _ | skip hw _ | asyncSend hw | asyncUnwind hw | notJoined hw
  | succeeded hw | setMsg hw | storePanicked hw | dropBodyTx hw | lastMessage hw _ _ | message hw _
  | resultTx hw | panicTx hw | closeRx hw | drained hw _ | drainLast hw _ _ _ | drain hw _ _ =>
    exact h.of_phase (congrArg WorkerPc.phase hw).symm (congrArg WorkerPc.ended? hw).symm
  | corrupted hw _ => exact h
  | asyncPending hw hv _ | asyncReady hw hv _ | asyncPanicked hw hv _ =>
    refine (h.of_value ?_).of_phase (congrArg WorkerPc.phase hw).symm (congrArg WorkerPc.ended? hw).symm
    simp [ranSegment, hv]
  | dropBody hw =>
    refine (h.of_value ?_).of_phase (congrArg WorkerPc.phase hw).symm (congrArg WorkerPc.ended? hw).symm
    simp
  | recvNone hw _ _ | «break» hw _ | failAsync hw _ | sendPanic hw =>
    exact h.finish (congrArg WorkerPc.phase hw) (congrArg WorkerPc.ended? hw) rfl
  | startAsync hw hl hv =>
    exact h.guard (congrArg WorkerPc.phase hw) (congrArg WorkerPc.ended? hw) (by rw [hv]; nofun) rfl
  | asyncUnlock hw => exact h.unguard (congrArg WorkerPc.phase hw) (congrArg WorkerPc.ended? hw) (.inl rfl)
  | dropGuard hw => exact h.unguard (congrArg WorkerPc.phase hw) (congrArg WorkerPc.ended? hw) (.inr ⟨_, rfl⟩)
  | spawnBlocking hw => exact h.spawn (congrArg WorkerPc.phase hw) (congrArg WorkerPc.ended? hw) rfl
  | joined hw hp => exact h.joined (congrArg WorkerPc.phase hw) (congrArg PoolPc.guards hp) (.inl rfl)
  | joinedNone hw hp =>
    refine h.joined (congrArg WorkerPc.phase hw) ?_ (.inr ⟨_, rfl⟩)
    rcases hp with hp | hp <;> rw [hp] <;> rfl
  | ended hw => exact h.gone (congrArg WorkerPc.phase hw).symm (congrArg WorkerPc.ended? hw)

theorem Custody.runtime {a : Act F} (h : s.Custody) (m : RuntimeMove s a s') : s'.Custody := by
  cases m with
  | pollRecv _ hw | pollAsync _ hw | pollJoin _ hw | yieldRecv hw | yieldJoin hw | dropAsync _ hw =>
    exact h.of_phase (congrArg WorkerPc.phase hw).symm (congrArg WorkerPc.ended? hw).symm
  | dropRecv hd hw => exact h.finish (congrArg WorkerPc.phase hw) (congrArg WorkerPc.ended? hw) rfl
  | dropJoin hd hw => exact h.detach (congrArg WorkerPc.phase hw) rfl
  | dropQueued hd hp =>
    exact h.pool_move (congrArg PoolPc.task hp).symm (congrArg PoolPc.guards hp).symm nofun fun _ _ => ⟨rfl, fun _ _ => hd⟩
  | shutdown => exact { h with awaiting := fun t ht => ⟨(h.awaiting t ht).1, (h.awaiting t ht).2.1, fun _ _ => rfl⟩ }

/-- The worker does not wait for a closure that finds the mutex locked, or no state. -/
theorem Custody.not_awaiting (h : s.Custody) {t : ℕ} (hp : s.lock ≠ none ∧ s.pool.guards = false ∨ s.value = none) :
    s.worker.phase ≠ .awaiting t := by
  intro ha
  rcases hp with ⟨hl, hg⟩ | hv
  · exact hl (h.lock_eq_none ha hg)
  · exact h.value_ne_none (WorkerPc.ended?_of_awaiting ha) hv

theorem Custody.pool (h : s.Custody) (m : PoolMove B s s') : s'.Custody := by
  cases m with
  | lock hp hl => exact h.pool_lock hl (congrArg PoolPc.task hp).symm rfl rfl fun _ _ => ⟨rfl, nofun⟩
  | lockFailed hp hl =>
    refine h.pool_move (congrArg PoolPc.task hp).symm (congrArg PoolPc.guards hp).symm nofun fun t ha => ?_
    exact absurd ha (h.not_awaiting (.inl ⟨hl, congrArg PoolPc.guards hp⟩))
  | stateAbsent hp hv =>
    refine h.pool_unlock (congrArg PoolPc.guards hp) (congrArg PoolPc.task hp).symm rfl fun t ha => ?_
    exact absurd ha (h.not_awaiting (.inr hv))
  | start hp hv =>
    exact h.pool_move (congrArg PoolPc.task hp).symm (congrArg PoolPc.guards hp).symm (fun _ => by rw [hv]; nofun)
      fun _ _ => ⟨rfl, nofun⟩
  | pending hp hv _ | ready hp hv _ | panicked hp hv _ =>
    exact (h.of_value (by simp [ranSegment, hv])).pool_move (congrArg PoolPc.task hp).symm
      (congrArg PoolPc.guards hp).symm (fun _ => nofun) fun _ _ => ⟨rfl, nofun⟩
  | send hp | unwind hp =>
    exact h.pool_move (congrArg PoolPc.task hp).symm (congrArg PoolPc.guards hp).symm
      (fun _ => h.found (.inr (congrArg PoolPc.inState hp))) fun _ _ => ⟨rfl, nofun⟩
  | unlock hp =>
    exact h.pool_unlock (congrArg PoolPc.guards hp) (congrArg PoolPc.task hp).symm rfl fun _ _ => ⟨rfl, nofun⟩
  | dropRaw hp =>
    refine h.pool_move (congrArg PoolPc.task hp).symm (congrArg PoolPc.guards hp).symm nofun fun t ha => ?_
    have hgave := (h.awaiting t ha).2.1
    rw [hp] at hgave
    cases hgave

theorem not_past_afterSenders (op : Consume) : (afterSenders op : HandlePc S).pastWorker = false := by
  cases op <;> rfl

theorem Custody.handleMove {a : Act F} (h : s.Custody) (m : HandleMove s a s') : s'.Custody := by
  cases m with
  | corrupted | stateMissing => exact h
  | consume hh _ hp =>
    refine h.of_not_past (congrArg HandlePc.pastWorker hh) ?_
    rcases hp with ⟨-, rfl⟩ | ⟨-, rfl⟩ | ⟨-, -, rfl⟩ <;> rfl
  | finished hh _ | notFinished hh | setAbort hh _ _ | setCancel hh _ _ | setFailed hh _ | abortWorker hh
  | closeSenders hh =>
    exact h.of_not_past (congrArg HandlePc.pastWorker hh) rfl
  | dropCtx hh =>
    refine h.of_not_past (congrArg HandlePc.pastWorker hh) ?_
    split_ifs <;> rfl
  | dropTx hh =>
    refine h.of_not_past (congrArg HandlePc.pastWorker hh) ?_
    split_ifs
    · rfl
    · exact not_past_afterSenders _
  | workerEnded hh hw =>
    refine h.join_move (congrArg HandlePc.guards hh).symm (by rw [hh]; rfl) (fun out ho => ?_) fun _ => ?_
    · cases ho
      exact congrArg WorkerPc.ended? hw
    · rw [hw]
      nofun
  | lockState hh hl =>
    exact h.join_lock hl rfl (by rw [hh]; rfl) (congrArg HandlePc.out? hh).symm (congrArg HandlePc.pastWorker hh)
  | takeState hh hv =>
    exact h.join_take (congrArg HandlePc.guards hh) rfl rfl (congrArg HandlePc.out? hh).symm
  | unlockState hh =>
    exact h.join_unlock (congrArg HandlePc.guards hh) rfl (by rw [hh]; rfl) (congrArg HandlePc.out? hh).symm
  | decideOk hh | decideAborted hh _ | decideShutdown hh _ | readPanicMsg hh =>
    exact h.join_move (congrArg HandlePc.guards hh).symm (by rw [hh]; rfl) nofun
      fun _ => h.past (congrArg HandlePc.pastWorker hh)
  | decidePanicked hh _ =>
    exact h.join_move (congrArg HandlePc.guards hh).symm (by rw [hh]; rfl)
      (fun out ho => h.out out ((congrArg HandlePc.out? hh).trans ho)) fun _ => h.past (congrArg HandlePc.pastWorker hh)
  | dropJoin hh =>
    rcases hh with hh | ⟨out, hh⟩ <;> exact h.join_move (congrArg HandlePc.guards hh).symm (by rw [hh]; rfl) nofun nofun

/-- **Custody holds in every reachable state.** -/
theorem Custody.step {a : Act F} (h : s.Custody) (m : Move B s a s') : s'.Custody := by
  cases m with
  | worker m => exact h.worker m
  | runtime m => exact h.runtime m
  | pool m => exact h.pool m
  | handle m => exact h.handleMove m
  | call m => cases m <;> exact h
  | taskHandle m => cases m <;> exact h
  | spawn m => cases m <;> exact h
  | spawner m => cases m <;> exact h

end Sys

end AsyncSequential
