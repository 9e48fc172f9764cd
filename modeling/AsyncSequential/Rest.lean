import AsyncSequential.Lib.Rest
import AsyncSequential.Rank
import AsyncSequential.Wake
import Mathlib.Algebra.BigOperators.Group.Finset.Basic
import Mathlib.Algebra.Order.BigOperators.Group.Finset
import Mathlib.Data.Prod.Lex

/-!
# The system comes to rest

What the crate and the runtime must do, if every body ends. The useful steps
(`Useful`) are those that something waits for: whoever is under way goes on, and the
runtime polls what can go on and drops what it has to. Each of them lowers a rank,
what the worker has left to do and what the others have, so they come to an end
(`inevitably_stuck`), in whatever order they are taken and whatever had been done
before. Where none is possible nothing is left half done: `comes_to_rest`. From that
`join_returns`: a join that nobody gives up returns, unless there is still someone
who could spawn.
-/

namespace AsyncSequential

variable {S F R : Type*}

/-! ### How far the others have to go -/

/-- How far a call of `TaskCancellerImpl::cancel` is from its end. -/
@[grind] def CancelPc.work : CancelPc → ℕ
  | .upgrade => 6
  | .take => 5
  | .dropRaw => 4
  | .dropPanicTx => 3
  | .store => 2
  | .done _ => 0

/-- How far a public `cancel()` call is from its end. -/
@[grind] def CancelCall.work : CancelCall → ℕ
  | .absent => 0
  | .flag _ => 8
  | .run _ c => c.work

/-- How far a poll is from its end. -/
@[grind] def PollPc.work : PollPc → ℕ
  | .fresh | .pending => 0
  | .panicRx => 12
  | .resultRx => 11
  | .isCancelled | .pendingFlag => 10
  | .flag => 9
  | .panicMsg => 8
  | .cancel c => c.work + 1

/-- How far the call of `spawn`, or the poll of the handle, is from its end. -/
@[grind] def TaskHandle.work : TaskHandle R → ℕ
  | .sendFailed _ => 2
  | .sendFailedMsg _ => 1
  | .spawned pc => pc.work
  | .absent | .unspawned _ | .resolved _ => 0

/-- How far the operation that consumed the worker handle is from its end. -/
@[grind] def HandlePc.work : HandlePc S → ℕ
  | .isFinished _ => 16
  | .trySet _ => 15
  | .abortWorker _ => 14
  | .closeSenders _ => 13
  | .dropCtx op => if op = .drop then 1 else 12
  | .dropTx op => if op = .drop then 2 else 11
  | .awaitWorker _ => 10
  | .lockState _ _ => 9
  | .takeState _ _ => 8
  | .unlockState _ _ _ => 7
  | .decide _ _ _ => 6
  | .readPanicMsg _ _ => 5
  | .live | .returned _ _ | .gone _ => 0

/-- The operation waits for the worker and returns the state. -/
def Consume.joins : Consume → Bool
  | .join | .abortAndJoin | .cancelAndJoin => true
  | .abort | .cancel | .drop => false

namespace Sys

variable {B : Bodies S F R PanicPayload} {v₀ : S} {s s' : Sys S F R} {t n : ℕ}

/-- A change of a task that leaves its handle alone leaves every handle alone. -/
theorem handle_update {f : ℕ → Task F R} {k : Task F R} (hk : k.handle = (f t).handle) (u : ℕ) :
    (Function.update f t k u).handle = (f u).handle := by
  rw [Function.update_apply]
  split_ifs with hu
  · rw [hu, hk]
  · rfl

theorem handle_of_workerMove (m : WorkerMove B s s') (u : ℕ) : (s'.tasks u).handle = (s.tasks u).handle := by
  cases m with
  | take | skip | asyncSend | asyncUnwind | succeeded | sendPanic | dropBodyTx | lastMessage | message | resultTx
  | panicTx | drainLast | drain => exact handle_update (by rfl) u
  | _ => rfl

theorem handle_of_poolMove (m : PoolMove B s s') (u : ℕ) : (s'.tasks u).handle = (s.tasks u).handle := by
  cases m with
  | send | unwind | dropRaw => exact handle_update (by rfl) u
  | _ => rfl

/-- The library does not panic. -/
theorem fault_eq_none (h : Reachable B v₀ s) : s.fault = none :=
  h.invariant (P := fun u => u.fault = none) rfl fun _ _ _ hr hu _ hs => (fault_of_step hr (move_of_step hs)).trans hu

/-- The operation that consumed the handle gets on. -/
theorem work_of_handleMove (m : HandleMove s (.handle : Act F) s') (hf : s'.fault = none) :
    s'.handle.work < s.handle.work := by
  cases m with
  | corrupted | stateMissing => cases hf
  | @dropTx op hh => cases op <;> grind [afterSenders]
  | _ => grind

/-- So does whoever cancels a task. -/
theorem work_of_cancelMove {o : Owner} {x : Taker} {c c' : CancelPc} {g : Task F R → Task F R}
    (hm : CancelMove s t o x c g c') : c'.work < c.work ∧ (g (s.tasks t)).handle = (s.tasks t).handle := by
  cases hm <;> grind

/-- So does the poll of a handle. -/
theorem work_of_pollMove {b : Budget} {g : Task F R → Task F R} (hm : PollMove s t b g) :
    (g (s.tasks t)).handle.work < (s.tasks t).handle.work := by
  have hready : ∀ o : TaskResult R, (ofReady o).work ≤ 10 := by
    intro o
    rcases ofReady_cases o with ho | ⟨res, ho⟩ <;> simp [ho, TaskHandle.work, PollPc.work]
  cases hm with
  | @panicRxReady x o hh _ | @resultRxReady x o hh _ =>
    have ho := hready o
    grind
  | cancel hh hm =>
    have hw := (work_of_cancelMove hm).1
    grind
  | _ => grind

/-! ### The steps that something waits for -/

/-- What the worker future awaits is there: a task or the end of the queue, or its
closure's return. An async body that is suspended is polled again in any case. -/
def ready (s : Sys S F R) : Bool :=
  match s.worker with
  | .recv _ => s.queue ≠ [] ∨ s.senders = ∅
  | .awaitBlocking _ _ => s.pool.quiet
  | _ => true

/-- The steps of the crate and of the runtime: whoever is under way goes on, the
runtime polls a worker future that can go on, and it drops what it has to. What is left
out is the users' doing — spawning, cancelling, polling a handle, obtaining, closing
and dropping spawners, consuming the worker handle, dropping a join, shutting down
the runtime — and polls of the worker future, and yields, for no reason. -/
def Useful (s : Sys S F R) : Act F → Prop
  | .worker | .pool | .dropWorker | .dropQueued | .handle => True
  | .sendFailed _ | .pollStep _ _ | .cancelStep _ => True
  | .pollWorker => s.ready = true
  | .yield => s.ready = false
  | .spawn _ _ | .spawner | .dropSpawner _ | .closeSpawners | .consume _ | .dropJoin | .shutdown | .poll _
  | .cancel _ _ => False

/-! ### The rank -/

/-- How far the others have to go; there are fewer than `n` calls of `cancel()`. -/
def others (n : ℕ) (s : Sys S F R) : ℕ :=
  s.handle.work + (Finset.range s.next).sum (fun t => (s.tasks t).handle.work) +
    (Finset.range n).sum fun i => (s.cancels i).work

/-- Where the worker future is in its polls: one that can go on is polled, one that cannot returns. -/
def polls (s : Sys S F R) : ℕ :=
  match s.worker with
  | .recv parked | .awaitBlocking _ parked => if s.ready then (if parked then 3 else 2) else if parked then 0 else 1
  | .asyncBody _ _ parked => if parked then 1 else 0
  | _ => 0

/-- What is left to do. -/
noncomputable def rank (hB : B.Ends) (n : ℕ) (s : Sys S F R) : ℕ ×ₗ ℕ ×ₗ ℕ ×ₗ ℕ :=
  toLex (s.queue.length + s.toStart, toLex (s.left hB, toLex (s.work + s.others n, s.polls)))

theorem rank_lt_of_getsOn (hB : B.Ends) (h : GetsOn hB s s' s.queue.length s'.queue.length)
    (ho : s'.others n = s.others n) : s'.rank hB n < s.rank hB n := by
  simp only [rank, Prod.Lex.toLex_lt_toLex]
  rcases h with hs | ⟨hs, hl⟩ | ⟨hs, hl, hw⟩ <;> omega

theorem rank_lt_of_stands (hB : B.Ends) (h : Stands hB s s') (hq : s'.queue = s.queue)
    (ho : s'.others n < s.others n ∨ s'.others n = s.others n ∧ s'.polls < s.polls) :
    s'.rank hB n < s.rank hB n := by
  obtain ⟨hs, hl, hw⟩ := h
  simp only [rank, Prod.Lex.toLex_lt_toLex, hq, hs, hw, lt_irrefl, false_or, true_and]
  omega

/-- The worker and its closure leave the others alone. -/
theorem others_congr (hh : s'.handle = s.handle) (hn : s'.next = s.next)
    (ht : ∀ u, (s'.tasks u).handle = (s.tasks u).handle) (hc : s'.cancels = s.cancels) :
    s'.others n = s.others n := by
  simp only [others, hh, hn, ht, hc]

/-- The call of `spawn` or the poll of `t` gets on, and the others stay where they are. -/
structure TaskGetsOn (t : ℕ) (s s' : Sys S F R) : Prop where
  work : (s'.tasks t).handle.work < (s.tasks t).handle.work
  tasks : ∀ u, u ≠ t → s'.tasks u = s.tasks u
  handle : s'.handle = s.handle
  cancels : s'.cancels = s.cancels
  next : s'.next = s.next
  queue : s'.queue = s.queue

/-- So does the call `i` of `cancel()`. -/
structure CallGetsOn (i : ℕ) (s s' : Sys S F R) : Prop where
  work : (s'.cancels i).work < (s.cancels i).work
  cancels : ∀ j, j ≠ i → s'.cancels j = s.cancels j
  handle : s'.handle = s.handle
  tasks : ∀ u, (s'.tasks u).handle = (s.tasks u).handle
  next : s'.next = s.next
  queue : s'.queue = s.queue

/-- So does the operation that consumed the worker handle. -/
structure ConsumerGetsOn (s s' : Sys S F R) : Prop where
  work : s'.handle.work < s.handle.work
  tasks : s'.tasks = s.tasks
  cancels : s'.cancels = s.cancels
  next : s'.next = s.next
  queue : s'.queue = s.queue

theorem getsOn_of_sendFailed (h : Reachable B v₀ s) (hs : step B s (.sendFailed t) = some s') : TaskGetsOn t s s' := by
  have hfault : s'.fault = none := fault_eq_none (h.tail trivial hs)
  cases spawnMove_of_sendFailed hs with
  | corrupted | unreachable => cases hfault
  | panicked hh | shutdown hh | closed hh | panicMsg hh =>
    exact ⟨by simp [hh, TaskHandle.work, Task.setHandle], fun u hu => by simp [hu], rfl, rfl, rfl, rfl⟩

theorem getsOn_of_pollStep {b : Budget} (h : Reachable B v₀ s) (hs : step B s (.pollStep t b) = some s') :
    TaskGetsOn t s s' := by
  have hfault : s'.fault = none := fault_eq_none (h.tail trivial hs)
  cases taskHandleMove_of_step hs with
  | corrupted | polledPanicRx | polledResultRx => cases hfault
  | step hm => exact ⟨by simpa using work_of_pollMove hm, fun u hu => by simp [hu], rfl, rfl, rfl, rfl⟩

theorem getsOn_of_cancelStep {i : ℕ} (h : Reachable B v₀ s) (hs : step B s (.cancelStep i) = some s') :
    CallGetsOn i s s' := by
  have hfault : s'.fault = none := fault_eq_none (h.tail trivial hs)
  cases callMove_of_step hs with
  | corrupted => cases hfault
  | running hi | notRunning hi =>
    exact ⟨by simp [hi, CancelCall.work, CancelPc.work], fun j hj => by simp [hj], rfl, fun _ => rfl, rfl, rfl⟩
  | run hi hm =>
    obtain ⟨hlow, hh⟩ := work_of_cancelMove hm
    exact ⟨by simpa [hi, CancelCall.work] using hlow, fun j hj => by simp [hj], rfl, handle_update hh, rfl, rfl⟩

theorem getsOn_of_handle (h : Reachable B v₀ s) (hs : step B s .handle = some s') : ConsumerGetsOn s s' := by
  have m := handleMove_of_step hs
  have hlt := work_of_handleMove m (fault_eq_none (h.tail trivial hs))
  cases m <;> exact ⟨hlt, rfl, rfl, rfl, rfl⟩

theorem TaskGetsOn.others_lt (h : TaskGetsOn t s s') (ht : t < s.next) : s'.others n < s.others n := by
  have hsum : (Finset.range s.next).sum (fun u => (s'.tasks u).handle.work) <
      (Finset.range s.next).sum fun u => (s.tasks u).handle.work := by
    refine Finset.sum_lt_sum (fun u _ => ?_) ⟨t, Finset.mem_range.mpr ht, h.work⟩
    by_cases hu : u = t
    · rw [hu]; exact h.work.le
    · rw [h.tasks u hu]
  simp only [others, h.handle, h.next, h.cancels]
  omega

theorem CallGetsOn.others_lt {i : ℕ} (h : CallGetsOn i s s') (hi : i < n) : s'.others n < s.others n := by
  have hsum : (Finset.range n).sum (fun j => (s'.cancels j).work) < (Finset.range n).sum fun j => (s.cancels j).work := by
    refine Finset.sum_lt_sum (fun j _ => ?_) ⟨i, Finset.mem_range.mpr hi, h.work⟩
    by_cases hj : j = i
    · rw [hj]; exact h.work.le
    · rw [h.cancels j hj]
  simp only [others, h.handle, h.next, h.tasks]
  omega

theorem ConsumerGetsOn.others_lt (h : ConsumerGetsOn s s') : s'.others n < s.others n := by
  have hlt := h.work
  simp only [others, h.next, h.tasks, h.cancels]
  omega

/-- From call `n` on there is none. -/
def CallsBelow (n : ℕ) (s : Sys S F R) : Prop := ∀ i, n ≤ i → s.cancels i = .absent

/-- A step leaves the calls alone, or moves one of them. -/
theorem cancels_of_move {a : Act F} (m : Move B s a s') :
    s'.cancels = s.cancels ∨ ∃ i x, s'.cancels = Function.update s.cancels i x ∧
      ((∃ t, a = .cancel i t) ∨ a = .cancelStep i ∧ s.cancels i ≠ .absent) := by
  cases m with
  | call m =>
    cases m with
    | corrupted => exact .inl rfl
    | start => exact .inr ⟨_, _, rfl, .inl ⟨_, rfl⟩⟩
    | running hi | notRunning hi | run hi => exact .inr ⟨_, _, rfl, .inr ⟨rfl, by rw [hi]; nofun⟩⟩
  | worker m | runtime m | pool m | taskHandle m | spawn m | spawner m | handle m => cases m <;> exact .inl rfl

theorem exists_callsBelow (h : Reachable B v₀ s) : ∃ n, CallsBelow n s := by
  refine h.invariant (P := fun u => ∃ n, CallsBelow n u) ⟨0, fun _ _ => rfl⟩ fun u v a _ hu _ hs => ?_
  obtain ⟨n, hn⟩ := hu
  rcases cancels_of_move (move_of_step hs) with hc | ⟨i, x, hc, -⟩
  · exact ⟨n, fun j hj => by rw [hc, hn j hj]⟩
  · refine ⟨max n (i + 1), fun j hj => ?_⟩
    rw [hc, Function.update_of_ne (by omega), hn j (le_of_max_le_left hj)]

/-- Steps that something waits for begin no call. -/
theorem CallsBelow.step {a : Act F} (h : CallsBelow n s) (m : Move B s a s') (ha : s.Useful a) : CallsBelow n s' := by
  intro i hi
  rcases cancels_of_move m with hc | ⟨j, x, hc, ⟨t, rfl⟩ | ⟨rfl, hj⟩⟩
  · rw [hc, h i hi]
  · exact ha.elim
  · have hij : i ≠ j := fun hij => hj (hij ▸ h i hi)
    rw [hc, Function.update_of_ne hij, h i hi]

/-- The steps of the worker and its closure are none of the others'. -/
theorem others_of_serves {a : Act F} (hs : step B s a = some s') (ha : s.Serves a) : s'.others n = s.others n := by
  cases a with
  | worker =>
    have m := workerMove_of_step hs
    refine others_congr ?_ ?_ (handle_of_workerMove m) ?_ <;> cases m <;> rfl
  | pool =>
    have m := poolMove_of_step hs
    refine others_congr ?_ ?_ (handle_of_poolMove m) ?_ <;> cases m <;> rfl
  | dropWorker => cases runtimeMove_of_dropWorker hs <;> rfl
  | dropQueued =>
    cases runtimeMove_of_dropQueued hs
    exact others_congr rfl rfl (handle_update (by rfl)) rfl
  | _ => exact ha.elim

/-- Polls of the worker future that something waits for get on. -/
theorem polls_lt_of_useful {a : Act F} (hs : step B s a = some s') (ha : s.Useful a) (hserve : ¬ s.Serves a)
    (hw : a = .worker ∨ a = .pollWorker ∨ a = .yield) :
    s'.queue = s.queue ∧ s'.others n = s.others n ∧ s'.polls < s.polls := by
  rcases hw with rfl | rfl | rfl
  · simp only [Serves, not_forall, Bool.not_eq_true] at hserve
    obtain ⟨t, hw, hq⟩ := hserve
    cases workerMove_of_step hs with
    | notJoined => exact ⟨rfl, rfl, by simp [polls, ready, hw, hq]⟩
    | joined _ hp => simp [hp, PoolPc.quiet] at hq
    | joinedNone _ hp => rcases hp with hp | hp <;> simp [hp, PoolPc.quiet] at hq
    | _ hw' => cases hw'.symm.trans hw
  · simp only [Useful, ready] at ha
    cases runtimeMove_of_pollWorker hs with
    | pollRecv _ hw | pollAsync _ hw | pollJoin _ hw =>
      rw [hw] at ha
      exact ⟨rfl, rfl, by simp_all [polls, ready]⟩
  · simp only [Useful, ready] at ha
    cases runtimeMove_of_yieldWorker hs with
    | yieldRecv hw | yieldJoin hw =>
      rw [hw] at ha
      exact ⟨rfl, rfl, by simp_all [polls, ready]⟩

/-- The others' steps get on. -/
theorem others_lt_of_useful (h : Reachable B v₀ s) (hn : CallsBelow n s) {a : Act F} (hs : step B s a = some s')
    (ha : s.Useful a) (hserve : ¬ s.Serves a) (hw : ¬ (a = .worker ∨ a = .pollWorker ∨ a = .yield)) :
    s'.queue = s.queue ∧ s'.others n < s.others n := by
  have hc := (inv_of_reachable h).cells
  cases a with
  | handle =>
    have hg := getsOn_of_handle h hs
    exact ⟨hg.queue, hg.others_lt⟩
  | sendFailed t =>
    have hg := getsOn_of_sendFailed h hs
    exact ⟨hg.queue, hg.others_lt (hc.lt_of_handle fun hh => by simp [step, Sys.sendFailed, hh] at hs)⟩
  | pollStep t b =>
    have hg := getsOn_of_pollStep h hs
    exact ⟨hg.queue, hg.others_lt (hc.lt_of_handle fun hh => by simp [step, Sys.pollStep, hh] at hs)⟩
  | cancelStep i =>
    have hg := getsOn_of_cancelStep h hs
    refine ⟨hg.queue, hg.others_lt (lt_of_not_ge fun hni => ?_)⟩
    simp [step, Sys.cancelStep, hn i hni] at hs
  | worker | pollWorker | yield => simp at hw
  | pool | dropWorker | dropQueued => exact absurd trivial hserve
  | _ => exact ha.elim

/-- **Every step that something waits for leaves less to do.** -/
theorem rank_lt_of_useful (hB : B.Ends) (h : Reachable B v₀ s) (hn : CallsBelow n s) {a : Act F}
    (hs : step B s a = some s') (ha : s.Useful a) : s'.rank hB n < s.rank hB n := by
  by_cases hserve : s.Serves a
  · refine rank_lt_of_getsOn hB (getsOn_of_serves hB (inv_of_reachable h) hs hserve (fun hq => by rw [hq])
      fun u hq => ?_) (others_of_serves hs hserve)
    simp [hq]
  · have hstands := stands_of_not_serves hB hs hserve
    by_cases hw : a = .worker ∨ a = .pollWorker ∨ a = .yield
    · obtain ⟨hq, ho, hp⟩ := polls_lt_of_useful (n := n) hs ha hserve hw
      exact rank_lt_of_stands hB hstands hq (.inr ⟨ho, hp⟩)
    · obtain ⟨hq, ho⟩ := others_lt_of_useful h hn hs ha hserve hw
      exact rank_lt_of_stands hB hstands hq (.inl ho)

/-- When every body ends, every run of steps that something waits for comes to an end. -/
theorem inevitably_atRest (hB : B.Ends) (h : Reachable B v₀ s) :
    Runs.Inevitably (step B) Useful (fun u => Reachable B v₀ u ∧ Runs.AtRest (step B) Useful u) s := by
  obtain ⟨n, hn⟩ := exists_callsBelow h
  refine Runs.inevitably_of_rank (I := fun u => Reachable B v₀ u ∧ CallsBelow n u) (rank hB n)
    (fun u v a hu ha hs => ⟨⟨hu.1.tail trivial hs, hu.2.step (move_of_step hs) ha⟩, ?_⟩)
    (fun u hu hr => ⟨hu.1, hr⟩) ⟨h, hn⟩
  exact rank_lt_of_useful hB hu.1 hu.2 hs ha

/-! ### At rest -/

/-- The worker future waits for tasks, and may. -/
structure WaitsForTasks (s : Sys S F R) : Prop where
  worker : s.worker = .recv true
  queue : s.queue = []
  senders : s.senders ≠ ∅
  aborting : s.aborting = false
  down : s.down = false

/-- The blocking closure has come to its end. -/
theorem quiet_of_atRest (h : Inv B v₀ s) (hr : Runs.AtRest (step B) Useful s) : s.pool.quiet = true := by
  have hp : s.poolStep B = none := hr .pool trivial
  cases hpc : s.pool with
  | idle | done | cancelled => rfl
  | running t f =>
    obtain ⟨v, hv⟩ := Option.ne_none_iff_exists'.mp (h.custody.found (.inr (by rw [hpc]; rfl)))
    simp only [poolStep, hpc, hv] at hp
    split at hp <;> cases hp
  | queued | locked =>
    simp only [poolStep, hpc] at hp
    split_ifs at hp
  | _ => simp only [poolStep, hpc, reduceCtorEq] at hp

/-- A worker future that is parked cannot go on, and is not to be dropped. -/
theorem parked_of_atRest (hr : Runs.AtRest (step B) Useful s)
    (hw : s.worker = .recv true ∨ (∃ t f, s.worker = .asyncBody t f true) ∨ ∃ t, s.worker = .awaitBlocking t true) :
    s.ready = false ∧ s.aborting = false ∧ s.down = false := by
  have hdrop : s.dropWorker = none := hr .dropWorker trivial
  have hflags : ¬ (s.aborting = true ∨ s.down = true) := fun hd => by
    rcases hw with hw | ⟨t, f, hw⟩ | ⟨t, hw⟩ <;> simp [dropWorker, hd, hw] at hdrop
  simp only [not_or, Bool.not_eq_true] at hflags
  refine ⟨?_, hflags⟩
  by_contra hready
  have hpoll : s.pollWorker = none := hr .pollWorker (by simpa [Useful] using hready)
  rcases hw with hw | ⟨t, f, hw⟩ | ⟨t, hw⟩ <;> simp [pollWorker, hflags.1, hw] at hpoll

/-- The worker waits for tasks, or has ended. -/
theorem worker_of_atRest (h : Inv B v₀ s) (hr : Runs.AtRest (step B) Useful s) :
    s.WaitsForTasks ∨ ∃ out, s.worker = .ended out := by
  have hstep : s.workerStep B = none := hr .worker trivial
  cases hw : s.worker with
  | ended out => exact .inr ⟨out, rfl⟩
  | recv parked =>
    cases parked with
    | true =>
      obtain ⟨hready, hflags⟩ := parked_of_atRest hr (.inl hw)
      simp only [ready, hw, ne_eq, decide_eq_false_iff_not, not_or, not_not] at hready
      exact .inl ⟨hw, hready.1, hready.2, hflags.1, hflags.2⟩
    | false =>
      have hyield : s.ready = false → s.yieldWorker = none := hr .yield
      simp only [workerStep, hw] at hstep
      split at hstep
      · cases hstep
      · rename_i hq
        split_ifs at hstep with hs
        simp [ready, hw, hq, hs, yieldWorker] at hyield
  | asyncBody t f parked =>
    cases parked with
    | true => 
      have hready := (parked_of_atRest hr (.inr (.inl ⟨t, f, hw⟩))).1
      simp [ready, hw] at hready
    | false =>
      obtain ⟨v, hv⟩ := Option.ne_none_iff_exists'.mp (h.custody.found (.inl (by rw [hw]; rfl)))
      simp only [workerStep, hw, hv] at hstep
      split at hstep <;> cases hstep
  | awaitBlocking t parked =>
    cases parked with
    | true => 
      have hready := (parked_of_atRest hr (.inr (.inr ⟨t, hw⟩))).1
      simp [ready, hw, quiet_of_atRest h hr] at hready
    | false =>
      simp only [workerStep, hw] at hstep
      split at hstep <;> cases hstep
  | dequeued | checked =>
    simp only [workerStep, hw] at hstep
    split at hstep <;> cases hstep
  | took t raw =>
    cases raw <;> simp only [workerStep, hw] at hstep
    · cases hstep
    · split_ifs at hstep
  | result t res => rcases res with p | ⟨⟩ <;> simp only [workerStep, hw, reduceCtorEq] at hstep
  | dropping todo out => cases todo <;> simp only [workerStep, hw, reduceCtorEq] at hstep
  | _ => simp only [workerStep, hw, reduceCtorEq] at hstep

/-- `TaskCancellerImpl::cancel` goes on until it returns. -/
theorem done_of_cancelImpl {o : Owner} {x : Taker} {c : CancelPc} (h : s.cancelImpl t o x c = none) :
    ∃ b, c = .done b := by
  cases c with
  | done b => exact ⟨b, rfl⟩
  | upgrade => simp only [cancelImpl] at h; split_ifs at h
  | take => simp only [cancelImpl] at h; split at h <;> cases h
  | _ => cases h

/-- A call of `cancel()` goes on until it returns. -/
theorem call_of_stuck {i : ℕ} (hstep : s.cancelStep i = none) :
    s.cancels i = .absent ∨ ∃ t b, s.cancels i = .run t (.done b) := by
  cases hc : s.cancels i with
  | absent => exact .inl rfl
  | flag t =>
    simp only [Sys.cancelStep, hc] at hstep
    split at hstep <;> cases hstep
  | run t c =>
    simp only [Sys.cancelStep, hc, Option.map_eq_none_iff] at hstep
    obtain ⟨b, rfl⟩ := done_of_cancelImpl hstep
    exact .inr ⟨t, b, rfl⟩

/-- A poll goes on until it returns. -/
theorem poll_of_stuck {b : Budget} (hstep : s.pollStep t b = none) {pc : PollPc}
    (hh : (s.tasks t).handle = .spawned pc) : pc = .fresh ∨ pc = .pending := by
  simp only [Sys.pollStep, hh] at hstep
  cases pc with
  | fresh => exact .inl rfl
  | pending => exact .inr rfl
  | cancel c =>
    cases c with
    | done b => cases b <;> cases hstep
    | _ =>
      simp only [pollStepAt, Option.map_eq_none_iff] at hstep
      obtain ⟨b, hb⟩ := done_of_cancelImpl hstep
      cases hb
  | panicRx | resultRx | flag | pendingFlag =>
    simp only [pollStepAt] at hstep
    split at hstep <;> cases hstep
  | isCancelled =>
    simp only [pollStepAt] at hstep
    split_ifs at hstep
  | panicMsg => cases hstep

/-- A call of `spawn` goes on until it returns. -/
theorem send_of_stuck (hstep : s.sendFailed t = none) (via : Via) : ¬ s.SendFailing via t := by
  rintro (hh | hh) <;> simp only [Sys.sendFailed, hh] at hstep
  · split at hstep <;> try cases hstep
    split at hstep <;> cases hstep
  · cases hstep

/-- Nobody has the mutex. -/
theorem lock_of_atRest (h : Reachable B v₀ s) (hr : Runs.AtRest (step B) Useful s) : s.lock = none := by
  have hc := (inv_of_reachable h).custody
  have hstep : s.handleStep = none := hr .handle trivial
  cases hl : s.lock with
  | none => rfl
  | some l =>
    cases l with
    | worker =>
      have hw := hc.lock_worker.mp hl
      rcases worker_of_atRest (inv_of_reachable h) hr with hw' | ⟨out, hw'⟩
      · rw [hw'.worker] at hw; cases hw
      · rw [hw'] at hw; cases hw
    | pool =>
      have hp := hc.lock_pool.mp hl
      have hq := quiet_of_atRest (inv_of_reachable h) hr
      cases hpc : s.pool <;> simp [hpc, PoolPc.guards, PoolPc.quiet] at hp hq
    | join =>
      have hg := hc.lock_join.mp hl
      cases hh : s.handle with
      | takeState op out =>
        simp only [handleStep, hh] at hstep
        split at hstep <;> cases hstep
      | unlockState op out v => simp [handleStep, hh] at hstep
      | _ => simp [hh, HandlePc.guards] at hg

/-- The operation that consumed the worker handle goes on until it returns, but for its waits. -/
theorem handle_of_stuck (hstep : s.handleStep = none) :
    s.handle = .live ∨ (∃ op, s.handle = .gone op) ∨ (∃ op res, s.handle = .returned op res) ∨
      (∃ op, s.handle = .awaitWorker op ∧ ∀ out, s.worker ≠ .ended out) ∨
      ∃ op out, s.handle = .lockState op out ∧ s.lock ≠ none := by
  cases hh : s.handle with
  | live => exact .inl rfl
  | gone op => exact .inr (.inl ⟨op, rfl⟩)
  | returned op res => exact .inr (.inr (.inl ⟨op, res, rfl⟩))
  | awaitWorker op =>
    refine .inr (.inr (.inr (.inl ⟨op, rfl, fun out hw => ?_⟩)))
    simp [handleStep, hh, hw] at hstep
  | lockState op out =>
    refine .inr (.inr (.inr (.inr ⟨op, out, rfl, fun hl => ?_⟩)))
    simp [handleStep, hh, hl] at hstep
  | isFinished op | takeState op out =>
    simp only [handleStep, hh] at hstep
    split at hstep <;> cases hstep
  | trySet op =>
    simp only [handleStep, hh] at hstep
    split at hstep
    · split_ifs at hstep
    · split_ifs at hstep
    · cases hstep
  | _ => simp [handleStep, hh] at hstep

/-- At rest only a join that waits for the worker is left. -/
theorem handle_of_atRest (h : Reachable B v₀ s) (hr : Runs.AtRest (step B) Useful s) :
    s.handle = .live ∨ (∃ op, s.handle = .gone op) ∨ (∃ op res, s.handle = .returned op res) ∨
      ∃ op, s.handle = .awaitWorker op ∧ s.WaitsForTasks := by
  rcases handle_of_stuck (hr .handle trivial) with hh | hh | hh | ⟨op, hh, hw⟩ | ⟨op, out, hh, hl⟩
  · exact .inl hh
  · exact .inr (.inl hh)
  · exact .inr (.inr (.inl hh))
  · refine .inr (.inr (.inr ⟨op, hh, (worker_of_atRest (inv_of_reachable h) hr).resolve_right ?_⟩))
    exact fun ⟨out, ho⟩ => hw out ho
  · exact absurd (lock_of_atRest h hr) hl

/-! ### What is left of the tasks -/

/-- Nobody has anything to do with the task any more: both its senders have acted,
nobody refers to it, and its body was taken by one party. -/
structure Over (k : Task F R) : Prop where
  resultTx : k.resultTx ≠ .live
  panicTx : k.panicTx ≠ .live
  owners : k.owners = ∅
  takers : ∃ x, k.takers = [x]

/-- The task is queued, or the worker or its closure has something of it. -/
def Held (s : Sys S F R) (t : ℕ) : Prop :=
  t ∈ s.queue ∨ s.worker.hasMessage t ∨ s.worker.hasResultTx t ∨ s.worker.hasPanicTx t ∨ s.pool.hasResultTx t

/-- An accepted task that neither the worker and its closure nor a cancelling party have is over. -/
theorem over_of_not_held (h : Reachable B v₀ s) (hacc : t ∈ s.accepted) (ht : ¬ s.Held t)
    (hcalls : ∀ i c, s.cancels i = .run t c → c.holds = false)
    (hpoll : ∀ c, (s.tasks t).handle = .spawned (.cancel c) → c.holds = false) : Over (s.tasks t) := by
  have hi := inv_of_reachable h
  have ho := owned_of_reachable h
  have hk := (hi.ending.accepted t).mp hacc
  simp only [Held, not_or] at ht
  obtain ⟨hq, hm, hwr, hwp, hpr⟩ := ht
  have howners : (s.tasks t).owners = ∅ := by
    refine Finset.eq_empty_of_forall_notMem fun o hmem => ?_
    cases o with
    | message => exact (ho.message t hmem).elim hq hm
    | canceller i =>
      obtain ⟨c, hc, hholds⟩ := ho.canceller t i hmem
      cases (hcalls i c hc).symm.trans hholds
    | handle =>
      obtain ⟨c, hh, hholds⟩ := ho.handle t hmem
      cases (hpoll c hh).symm.trans hholds
  have hempty : ¬ (s.tasks t).repr.Full := fun hf => ((hi.cells.cell t).full hf).2.ne_empty howners
  refine ⟨fun hl => ?_, fun hl => ?_, howners, ?_⟩
  · rcases ho.resultTx t hk hl with hf | hw | hp | ⟨i, hc⟩ | hh
    · exact hempty hf
    · exact hwr hw
    · exact hpr hp
    · cases hcalls i _ hc
    · cases hpoll _ hh
  · rcases ho.panicTx t hk hl with hf | hw | ⟨i, c, hc, htx⟩ | ⟨c, hh, htx⟩
    · exact hempty hf
    · exact hwp hw
    · have hno := hcalls i c hc
      cases c <;> cases htx <;> cases hno
    · have hno := hpoll c hh
      cases c <;> cases htx <;> cases hno
  · exact (hi.takers_cases t).resolve_left ((hi.cells.cell t).spent hempty hk)

/-- At rest the worker and its closure have nothing of a task. -/
theorem not_held_of_atRest (h : Reachable B v₀ s) (hr : Runs.AtRest (step B) Useful s) : ¬ s.Held t := by
  have hpool : ¬ s.pool.hasResultTx t := fun hp => by
    have hq := quiet_of_atRest (inv_of_reachable h) hr
    cases hpc : s.pool <;> rw [hpc] at hq hp <;> grind
  rcases worker_of_atRest (inv_of_reachable h) hr with hw | ⟨out, hw⟩
  · simp [Held, hw.worker, hw.queue, hpool, WorkerPc.hasMessage, WorkerPc.hasResultTx, WorkerPc.hasPanicTx,
      WorkerPc.task, WorkerPc.todo]
  · have hwind := (owned_of_reachable h).winding out (by rw [hw]; rfl)
    simp only [hw, WorkerPc.todo, Winding] at hwind
    simp [Held, hw, hwind.2, hpool, WorkerPc.hasMessage, WorkerPc.hasResultTx, WorkerPc.hasPanicTx, WorkerPc.task,
      WorkerPc.todo]

/-- At rest nobody is left with a task. -/
theorem over_of_atRest (h : Reachable B v₀ s) (hr : Runs.AtRest (step B) Useful s) (ht : t ∈ s.accepted) :
    Over (s.tasks t) := by
  refine over_of_not_held h ht (not_held_of_atRest h hr) (fun i c hc => ?_) fun c hh => ?_
  · rcases call_of_stuck (hr (.cancelStep i) trivial) with hi | ⟨u, b, hi⟩ <;> cases hc.symm.trans hi
    rfl
  · rcases poll_of_stuck (hr (.pollStep t .left) trivial) hh with hc | hc <;> cases hc

/-- A poll of a handle that is not cut short would be ready, and nobody is asleep. -/
theorem resolves_of_atRest (h : Reachable B v₀ s) (hr : Runs.AtRest (step B) Useful s)
    (hh : (s.tasks t).handle ≠ .absent) : s.waits t = false ∧
      ((∃ res, (s.tasks t).handle = .resolved res) ∨ ∃ res, PollReturns B unspent s t (.resolved res)) := by
  have hi := inv_of_reachable h
  have hover : ∀ {pc}, (s.tasks t).handle = .spawned pc → Over (s.tasks t) := fun hh =>
    over_of_atRest h hr ((hi.ending.accepted t).mpr (hi.handles.unspawned t _ hh))
  refine ⟨Bool.eq_false_iff.mpr fun hw => ?_, ?_⟩
  · obtain ⟨hpend, hasleep⟩ := waits_iff.mp hw
    have ho := hover hpend
    exact hasleep (woken_of_terminal h hpend ho.resultTx ho.panicTx)
  · cases hk : (s.tasks t).handle with
    | absent => exact absurd hk hh
    | resolved res => exact .inl ⟨res, rfl⟩
    | unspawned reason =>
      refine .inr ⟨.error reason.toTaskError, s.setHandle t (.resolved (.error reason.toTaskError)), ?_,
        pollGoes_refl (handle_setHandle _)⟩
      simp only [step, pollStart, hk]
    | sendFailed via => exact absurd (.inl hk) (send_of_stuck (hr (.sendFailed t) trivial) via)
    | sendFailedMsg via => exact absurd (.inr hk) (send_of_stuck (hr (.sendFailed t) trivial) via)
    | spawned pc =>
      have ho := hover hk
      have hpc : (s.tasks t).handle = .spawned .fresh ∨ (s.tasks t).handle = .spawned .pending := by
        rw [hk]
        exact (poll_of_stuck (hr (.pollStep t .left) trivial) hk).imp (congrArg _) (congrArg _)
      exact .inr (pollReturns_resolved hpc (hi.handles.receiver t pc hk) hi.status.flag_ne_none ho.panicTx ho.resultTx)

/-! ### Coming to rest -/

/-- What a system at rest looks like. -/
structure Rested (B : Bodies S F R PanicPayload) (s : Sys S F R) : Prop where
  /-- The worker future waits for tasks, or has ended. -/
  worker : s.WaitsForTasks ∨ ∃ out, s.worker = .ended out
  /-- No blocking body is queued or running. -/
  pool : s.pool.quiet = true
  /-- Nobody has the mutex. -/
  lock : s.lock = none
  /-- Nobody is left with an accepted task. -/
  task : ∀ t ∈ s.accepted, Over (s.tasks t)
  /-- No handle sleeps, and every handle has its result, or gets it from a poll that is not cut short. -/
  resolves : ∀ t, (s.tasks t).handle ≠ .absent → s.waits t = false ∧
    ((∃ res, (s.tasks t).handle = .resolved res) ∨ ∃ res, PollReturns B unspent s t (.resolved res))
  /-- Every call of `cancel()` has returned. -/
  call : ∀ i, s.cancels i = .absent ∨ ∃ t b, s.cancels i = .run t (.done b)
  /-- The operation that consumed the worker handle is over, or waits for the worker. -/
  handle : s.handle = .live ∨ (∃ op, s.handle = .gone op) ∨ (∃ op res, s.handle = .returned op res) ∨
    ∃ op, s.handle = .awaitWorker op ∧ s.WaitsForTasks

theorem rested_of_atRest (h : Reachable B v₀ s) (hr : Runs.AtRest (step B) Useful s) : s.Rested B where
  worker := worker_of_atRest (inv_of_reachable h) hr
  pool := quiet_of_atRest (inv_of_reachable h) hr
  lock := lock_of_atRest h hr
  task _ := over_of_atRest h hr
  resolves _ := resolves_of_atRest h hr
  call i := call_of_stuck (hr (.cancelStep i) trivial)
  handle := handle_of_atRest h hr

/-- A run of useful steps gets to where there is none. -/
theorem inevitably_stuck (hB : B.Ends) (h : Reachable B v₀ s) :
    Runs.Inevitably (step B) Useful
      (fun u => Run B Useful s u ∧ Reachable B v₀ u ∧ Runs.AtRest (step B) Useful u) s :=
  (inevitably_atRest hB h).invariant (I := fun u => Run B Useful s u) .refl fun _ _ _ hu ha hs => hu.tail ha hs

/-- **The system comes to rest.** When every body ends, whatever value it is given, then
from every reachable state every run of steps that something waits for comes to an
end, in whatever order they are taken, so no such run is endless, and nothing is left
half done: every accepted task has been taken by one party and both its channels are
terminal, every handle has its result or gets it from a poll that is not cut short, and
every call has returned but a join that waits for a worker that waits for tasks. -/
theorem comes_to_rest (hB : B.Ends) (h : Reachable B v₀ s) :
    Runs.Inevitably (step B) Useful
      (fun u => Run B Useful s u ∧ Runs.AtRest (step B) Useful u ∧ u.Rested B) s ∧
    ∀ f : ℕ → Sys S F R, f 0 = s → ¬ ∀ n, ∃ a, (f n).Useful a ∧ step B (f n) a = some (f (n + 1)) := by
  refine ⟨(inevitably_stuck hB h).mono fun u ⟨hu, hreach, hr⟩ => ⟨hu, hr, rested_of_atRest hreach hr⟩, ?_⟩
  intro f h₀ hf
  obtain ⟨n, -, -, hr⟩ := (inevitably_stuck hB h).not_forever f h₀ hf
  obtain ⟨a, ha, hs⟩ := hf n
  cases (hr a ha).symm.trans hs

/-- The bodies of `demo` end. -/
theorem demo_ends : demo.Ends := by
  intro f
  induction f using Nat.strong_induction_on with
  | _ f ih =>
    intro v
    match f with
    | 0 => exact ⟨1, trivial⟩
    | 1 => exact ⟨1, trivial⟩
    | f + 2 =>
      obtain ⟨n, hn⟩ := ih f (by omega) (v + 100)
      exact ⟨n + 1, by rwa [demo.run_succ_of_poll (show demo.poll (f + 2) v = (v + 100, .pending f) from rfl)]⟩

theorem comes_to_rest_demo : ∃ u, Run demo Useful demoTwo u ∧ u.Rested demo := by
  obtain ⟨u, -, hu, -, hr⟩ := (comes_to_rest demo_ends demoTwo_reachable).1.exists_run
  exact ⟨u, hu, hr⟩

/-! ### Joins -/

/-- A join is given up only by who awaits it. -/
theorem not_gone_of_useful {op : Consume} {a : Act F} (hj : op.joins = true) (ho : s.handle.op? = some op)
    (hg : ∀ op', s.handle ≠ .gone op') (ha : s.Useful a) (m : Move B s a s') (op' : Consume) :
    s'.handle ≠ .gone op' := by
  cases m with
  | handle m =>
    cases m with
    | consume | dropJoin => exact ha.elim
    | dropCtx hh | dropTx hh =>
      rw [hh] at ho
      cases ho
      cases op <;> cases hj <;> nofun
    | corrupted | stateMissing => exact hg op'
    | _ => nofun
  | worker m | runtime m | pool m | call m | taskHandle m | spawn m | spawner m => cases m <;> exact hg op'

/-- **Joins return.** When every body ends, then from every reachable state in which
an operation that waits for the worker has been called, and is not given up, every
run of steps that something waits for comes to a state where it has returned, and at
that with everything at rest; or it is a plain `join`, the worker has run all that was
queued and waits for tasks, and a task spawner that could send some is still there. -/
theorem join_returns (hB : B.Ends) (h : Reachable B v₀ s) {op : Consume} (hj : op.joins = true)
    (ho : s.handle.op? = some op) (hg : ∀ op', s.handle ≠ .gone op') :
    Runs.Inevitably (step B) Useful (fun u => u.Rested B ∧ ((∃ res, u.handle = .returned op res) ∨
      op = .join ∧ u.handle = .awaitWorker .join ∧ u.WaitsForTasks ∧
        ∃ i, (u.spawners i).alive = true ∧ u.spawnerIsUnavailable i = false)) s := by
  refine ((inevitably_stuck hB h).invariant
    (I := fun u => u.handle.op? = some op ∧ ∀ op', u.handle ≠ .gone op') ⟨ho, hg⟩
    fun u v a hu ha hs => ⟨op_of_move (move_of_step hs) hu.1,
      not_gone_of_useful hj hu.1 hu.2 ha (move_of_step hs)⟩).mono ?_
  rintro u ⟨⟨hop, hgone⟩, hrun, hreach, hstuck⟩
  have hr := rested_of_atRest hreach hstuck
  refine ⟨hr, ?_⟩
  have hsp := (spawning_of_reachable h).run hrun
  rcases hr.handle with hh | ⟨op', hh⟩ | ⟨op', res, hh⟩ | ⟨op', hh, hw⟩
  · rw [hh] at hop
    cases hop
  · exact absurd hh (hgone op')
  · rw [hh] at hop
    cases hop
    exact .inl ⟨res, hh⟩
  · rw [hh] at hop
    cases hop
    have hrel : u.handle.released = true := by rw [hh]; rfl
    have hstops : op.stops = false := Bool.eq_false_iff.mpr fun hst =>
      hw.senders (hsp.senders_of_stops (by rw [hh]; rfl) hst hrel)
    obtain rfl : op = .join := by
      cases op with
      | join => rfl
      | abortAndJoin | cancelAndJoin => cases hstops
      | abort | cancel | drop => cases hj
    have hopen := mt (hsp.senders_eq_empty hrel).mpr hw.senders
    simp only [not_forall, not_not] at hopen
    obtain ⟨i, hi, hc⟩ := hopen
    exact .inr ⟨rfl, hh, hw, i, hi, hsp.available hi hc⟩

/-- A cancel with an async body suspended, another task queued and a spawner around. -/
def demoJoining : Sys ℕ ℕ ℕ := (demoExec
  [(2, .spawn .worker (.async 4)), (1, .spawner), (1, .pollWorker), (5, .worker), (1, .consume .cancelAndJoin)]).get rfl

theorem demoJoining_reachable : Reachable demo 0 demoJoining := demo_reachable rfl

theorem join_returns_demo : ∃ u, Run demo Useful demoJoining u ∧ ∃ res, u.handle = .returned .cancelAndJoin res := by
  obtain ⟨u, hu, -, hr⟩ := (join_returns demo_ends demoJoining_reachable rfl rfl nofun).exists_run
  exact ⟨u, hu, hr.resolve_right nofun⟩

end Sys

end AsyncSequential
