import AsyncSequential.Orphans

/-!
# How far the worker has to go

What is left to do, as three numbers of falling weight: how many bodies may yet
start, how many segments the body in progress still takes, and how far the worker
and its closure are from the next of these, or from the end. A step of theirs may
raise a number only when it lowers one of more weight (`getsOn_of_workerMove`,
`getsOn_of_poolMove`, `getsOn_of_drop`), and the others raise none
(`stands_of_not_serves`). Polls of the worker future and its waits count for nothing.
-/

namespace AsyncSequential

variable {S F R : Type*}

/-! ### The three numbers -/

/-- What an item costs to drop: a message may leave two senders. -/
@[grind] def DropItem.work : DropItem → ℕ
  | .message _ => 4
  | .resultTx _ | .panicTx _ | .closeRx | .drain => 1

/-- What is left to drop costs, and the end itself. -/
@[grind] def dropWork : List DropItem → ℕ
  | [] => 1
  | item :: todo => item.work + dropWork todo

/-- How far the worker is from starting a body, from having reported one, or from its end. -/
@[grind] def WorkerPc.work : WorkerPc F R → ℕ
  | .asyncBody _ _ _ => 15
  | .asyncSend _ _ | .asyncUnwind _ _ => 14
  | .asyncUnlock _ _ => 13
  | .result _ _ => 12
  | .recv _ => 11
  | .dequeued _ => 10
  | .checked _ => 9
  | .took _ _ => 8
  | .dropBody _ _ => 7
  | .dropBodyTx _ => 6
  | .awaitBlocking _ _ | .storePanicked _ _ | .dropGuard _ => 5
  | .sendPanic _ _ => 4
  | .dropping todo _ => dropWork todo
  | .ended _ => 0

/-- How far the closure is from starting its body, or from its end. -/
@[grind] def PoolPc.work : PoolPc F R → ℕ
  | .running _ _ => 11
  | .send _ _ | .unwind _ _ => 10
  | .unlock _ _ | .dropRaw _ => 9
  | .done _ _ => 8
  | .queued _ _ => 2
  | .locked _ _ => 1
  | .idle | .cancelled _ => 0

/-- The worker has a task that it may start. -/
@[grind] def WorkerPc.toStart : WorkerPc F R → ℕ
  | .dequeued _ | .checked _ | .took _ _ => 1
  | .recv _ | .asyncBody _ _ _ | .asyncSend _ _ | .asyncUnwind _ _ | .asyncUnlock _ _ | .awaitBlocking _ _
  | .result _ _ | .storePanicked _ _ | .sendPanic _ _ | .dropBody _ _ | .dropBodyTx _ | .dropGuard _
  | .dropping _ _ | .ended _ => 0

/-- The closure has a task that it may start. -/
@[grind] def PoolPc.toStart : PoolPc F R → ℕ
  | .queued _ _ | .locked _ _ => 1
  | .idle | .running _ _ | .send _ _ | .unwind _ _ | .unlock _ _ | .dropRaw _ | .done _ _ | .cancelled _ => 0

/-- The body that the worker runs. -/
@[grind] def WorkerPc.runs? : WorkerPc F R → Option F
  | .asyncBody _ f _ => some f
  | .recv _ | .dequeued _ | .checked _ | .took _ _ | .asyncSend _ _ | .asyncUnwind _ _ | .asyncUnlock _ _
  | .awaitBlocking _ _ | .result _ _ | .storePanicked _ _ | .sendPanic _ _ | .dropBody _ _ | .dropBodyTx _
  | .dropGuard _ | .dropping _ _ | .ended _ => none

/-- The body that the closure runs. -/
@[grind] def PoolPc.runs? : PoolPc F R → Option F
  | .running _ f => some f
  | .idle | .queued _ _ | .locked _ _ | .send _ _ | .unwind _ _ | .unlock _ _ | .dropRaw _ | .done _ _
  | .cancelled _ => none

theorem PoolPc.of_idle {p : PoolPc F R} (h : p.task = none) : p.runs? = none ∧ p.toStart = 0 ∧ p.work = 0 := by
  cases p <;> cases h
  exact ⟨rfl, rfl, rfl⟩

namespace Sys

variable {B : Bodies S F R PanicPayload} {v₀ : S} {s s' : Sys S F R} {t c c' : ℕ}

/-- How many bodies the worker and its closure may start, apart from those queued. -/
def toStart (s : Sys S F R) : ℕ := s.worker.toStart + s.pool.toStart

/-- How far the two have to go. -/
def work (s : Sys S F R) : ℕ := s.worker.work + s.pool.work

/-- The body in progress that will be polled again. -/
def runs? (s : Sys S F R) : Option F := s.worker.runs?.or s.pool.runs?

/-- How many segments the body in progress still takes. -/
noncomputable def left (hB : B.Ends) (s : Sys S F R) : ℕ :=
  match s.runs?, s.value with
  | some f, some v => B.need hB f v
  | _, _ => 0

theorem left_eq_need (hB : B.Ends) {f : F} {v : S} (hr : s.runs? = some f) (hv : s.value = some v) :
    s.left hB = B.need hB f v := by
  simp only [left, hr, hv]

theorem left_eq_zero (hB : B.Ends) (hr : s.runs? = none) : s.left hB = 0 := by
  simp only [left, hr]

theorem left_congr (hB : B.Ends) (hr : s'.runs? = s.runs?) (hv : s'.value = s.value) : s'.left hB = s.left hB := by
  simp only [left, hr, hv]

/-- A step gets on when it lowers the first of the three numbers that it changes.
`c` and `c'` count the queued tasks that matter. -/
inductive GetsOn (hB : B.Ends) (s s' : Sys S F R) (c c' : ℕ) : Prop
  /-- One body less may start. -/
  | start (hs : c' + s'.toStart < c + s.toStart)
  /-- A segment less is to be run. -/
  | segment (hs : c' + s'.toStart ≤ c + s.toStart) (hl : s'.left hB < s.left hB)
  /-- There is less to do on the way. -/
  | work (hs : c' + s'.toStart ≤ c + s.toStart) (hl : s'.left hB ≤ s.left hB) (hw : s'.work < s.work)

/-- A segment of the body in progress gets on. -/
theorem getsOn_of_pending (hB : B.Ends) {f f' : F} {v v' : S} (hs : c' + s'.toStart ≤ c + s.toStart)
    (hr : s.runs? = some f) (hv : s.value = some v) (hp : B.poll f v = (v', .pending f'))
    (hr' : s'.runs? = some f') (hv' : s'.value = some v') : GetsOn hB s s' c c' := by
  refine .segment hs ?_
  rw [left_eq_need hB hr hv, left_eq_need hB hr' hv']
  exact Bodies.need_lt_of_pending hB hp

/-- So does its last one. -/
theorem getsOn_of_end (hB : B.Ends) {f : F} {v : S} (hs : c' + s'.toStart ≤ c + s.toStart)
    (hr : s.runs? = some f) (hv : s.value = some v) (hr' : s'.runs? = none) : GetsOn hB s s' c c' := by
  refine .segment hs ?_
  rw [left_eq_need hB hr hv, left_eq_zero hB hr']
  exact Bodies.need_pos hB f v

/-- So does any other step that takes one of the two further. -/
theorem getsOn_of_work (hB : B.Ends) (hs : c' + s'.toStart ≤ c + s.toStart) (hr : s'.runs? = s.runs?)
    (hv : s'.value = s.value) (hw : s'.work < s.work) : GetsOn hB s s' c c' :=
  .work hs (left_congr hB hr hv).le hw

/-- Every step of the worker future gets on, but for a look at a closure that has not returned. -/
theorem getsOn_of_workerMove (hB : B.Ends) (h : Inv B v₀ s) (m : WorkerMove B s s')
    (hn : ∀ t, s'.worker ≠ .awaitBlocking t true)
    (hkeep : s'.queue = s.queue → c' ≤ c) (hpop : ∀ u, s.queue = u :: s'.queue → c' < c) :
    GetsOn hB s s' c c' := by
  have hidle (ha : ∀ t, s.worker.phase ≠ .awaiting t) (ho : s.worker.phase ≠ .over .aborted) :=
    PoolPc.of_idle (h.custody.pool_idle ha ho)
  cases m with
  | corrupted _ hf => exact absurd hf h.status.flag_ne_none
  | @recv t q hw hq =>
    have hc := hpop t hq
    refine getsOn_of_work hB ?_ ?_ rfl ?_ <;> grind [toStart, Sys.work, runs?]
  | @drainLast t q _ _ hw hq | @drain t q _ _ hw hq =>
    have hc := hpop t hq
    exact .start (by grind [toStart])
  | «break» hw | skip hw | startAsync hw | failAsync hw =>
    have hc := hkeep rfl
    exact .start (by grind [toStart])
  | asyncPending hw hv hp =>
    have hc := hkeep rfl
    refine getsOn_of_pending hB ?_ ?_ hv hp ?_ rfl <;> grind [toStart, runs?]
  | @asyncReady t f v v' r hw hv hp | @asyncPanicked t f v v' p hw hv hp =>
    have hc := hkeep rfl
    obtain ⟨hruns, -⟩ := hidle (by simp [hw, WorkerPc.phase]) (by simp [hw, WorkerPc.phase])
    refine getsOn_of_end hB (f := f) ?_ ?_ hv ?_ <;> grind [toStart, runs?]
  | dropBody hw =>
    have hc := hkeep rfl
    obtain ⟨hruns, -⟩ := hidle (by simp [hw, WorkerPc.phase]) (by simp [hw, WorkerPc.phase])
    refine .work ?_ ((left_eq_zero hB ?_).trans_le (Nat.zero_le _)) ?_ <;> grind [toStart, Sys.work, runs?]
  | spawnBlocking hw =>
    have hc := hkeep rfl
    obtain ⟨hruns, hstart, hwork⟩ := hidle (by simp [hw, WorkerPc.phase]) (by simp [hw, WorkerPc.phase])
    refine getsOn_of_work hB ?_ ?_ rfl ?_ <;> grind [toStart, Sys.work, runs?]
  | notJoined => exact absurd rfl (hn _)
  | joinedNone hw hp =>
    have hc := hkeep rfl
    rcases hp with hp | hp <;> refine getsOn_of_work hB ?_ ?_ rfl ?_ <;> grind [toStart, Sys.work, runs?]
  | _ =>
    have hc := hkeep rfl
    refine getsOn_of_work hB ?_ ?_ rfl ?_ <;> grind [toStart, Sys.work, runs?]

/-- Every step of the closure gets on. -/
theorem getsOn_of_poolMove (hB : B.Ends) (h : Inv B v₀ s) (m : PoolMove B s s') (hc : c' ≤ c) :
    GetsOn hB s s' c c' := by
  have hbody : s.pool.task ≠ none → s.worker.runs? = none := by
    intro hp
    have hw := body?_eq_none h.custody hp
    cases hpc : s.worker <;> simp_all [WorkerPc.body?, WorkerPc.runs?]
  cases m with
  | start hp | lockFailed hp | stateAbsent hp => exact .start (by grind [toStart])
  | @pending t f f' v v' hp hv hb =>
    have hw := hbody (by rw [hp]; nofun)
    refine getsOn_of_pending hB ?_ ?_ hv hb ?_ rfl <;> grind [toStart, runs?]
  | @ready t f v v' r hp hv hb | @panicked t f v v' p hp hv hb =>
    have hw := hbody (by rw [hp]; nofun)
    refine getsOn_of_end hB (f := f) ?_ ?_ hv ?_ <;> grind [toStart, runs?]
  | _ => refine getsOn_of_work hB ?_ ?_ rfl ?_ <;> grind [toStart, Sys.work, runs?]

/-- So does the runtime when it drops one of them. -/
theorem getsOn_of_drop (hB : B.Ends) (h : Inv B v₀ s) {a : Act F} (m : RuntimeMove s a s')
    (ha : a = .dropWorker ∨ a = .dropQueued) (hc : c' ≤ c) : GetsOn hB s s' c c' := by
  cases m with
  | dropAsync _ hw =>
    obtain ⟨hruns, -⟩ := PoolPc.of_idle
      (h.custody.pool_idle (by simp [hw, WorkerPc.phase]) (by simp [hw, WorkerPc.phase]))
    refine .work ?_ ((left_eq_zero hB ?_).trans_le (Nat.zero_le _)) ?_ <;> grind [toStart, Sys.work, runs?]
  | dropQueued _ hp => exact .start (by grind [toStart])
  | dropRecv _ hw | dropJoin _ hw =>
    refine getsOn_of_work hB ?_ ?_ rfl ?_ <;> grind [toStart, Sys.work, runs?]
  | _ => rcases ha with ha | ha <;> cases ha

/-! ### The steps that count -/

/-- The steps by which the worker and its closure get on: all of theirs, but for a
look at a closure that has not returned, and what the runtime drops. -/
def Serves (s : Sys S F R) : Act F → Prop
  | .worker => ∀ t, s.worker = .awaitBlocking t false → s.pool.quiet = true
  | .pool | .dropWorker | .dropQueued => True
  | _ => False

/-- The worker that looks at a closure that has returned waits no longer. -/
theorem not_waiting_of_workerStep (h : Inv B v₀ s) (hs : s.workerStep B = some s')
    (hq : ∀ t, s.worker = .awaitBlocking t false → s.pool.quiet = true) (t : ℕ) :
    s'.worker ≠ .awaitBlocking t true := by
  intro hw
  have m := workerMove_of_step hs
  cases m with
  | corrupted _ hf => exact h.status.flag_ne_none hf
  | @notJoined u hw' =>
    have hquiet := hq u hw'
    have htask := (h.custody.awaiting u (congrArg WorkerPc.phase hw')).1
    cases hp : s.pool with
    | idle => simp [hp, PoolPc.task] at htask
    | done u res =>
      cases res
      all_goals
        simp only [workerStep, hw', hp, Option.some.injEq] at hs
        cases congrArg Sys.worker hs
    | cancelled u =>
      simp only [workerStep, hw', hp, Option.some.injEq] at hs
      cases congrArg Sys.worker hs
    | _ => simp [hp, PoolPc.quiet] at hquiet
  | _ => cases hw

/-- **Steps that count get on.** -/
theorem getsOn_of_serves (hB : B.Ends) (h : Inv B v₀ s) {a : Act F} (hs : step B s a = some s') (ha : s.Serves a)
    (hkeep : s'.queue = s.queue → c' ≤ c) (hpop : ∀ u, s.queue = u :: s'.queue → c' < c) :
    GetsOn hB s s' c c' := by
  cases a with
  | worker => exact getsOn_of_workerMove hB h (workerMove_of_step hs) (not_waiting_of_workerStep h hs ha) hkeep hpop
  | pool =>
    have m := poolMove_of_step hs
    exact getsOn_of_poolMove hB h m (hkeep (by cases m <;> rfl))
  | dropWorker =>
    have m := runtimeMove_of_dropWorker hs
    exact getsOn_of_drop hB h m (.inl rfl) (hkeep (by cases m <;> rfl))
  | dropQueued =>
    have m := runtimeMove_of_dropQueued hs
    exact getsOn_of_drop hB h m (.inr rfl) (hkeep (by cases m; rfl))
  | _ => exact ha.elim

/-- The two stand where they stood. -/
structure Stands (hB : B.Ends) (s s' : Sys S F R) : Prop where
  start : s'.toStart = s.toStart
  left : s'.left hB ≤ s.left hB
  work : s'.work = s.work

theorem Stands.of_eq (hB : B.Ends) (hs : s'.toStart = s.toStart) (hr : s'.runs? = s.runs?)
    (hv : s'.value = s.value) (hw : s'.work = s.work) : Stands hB s s' :=
  ⟨hs, (left_congr hB hr hv).le, hw⟩

/-- Steps that do not count change nothing of what is left to do. -/
theorem stands_of_not_serves (hB : B.Ends) {a : Act F} (hs : step B s a = some s') (ha : ¬ s.Serves a) :
    Stands hB s s' := by
  have m := move_of_step hs
  cases m with
  | worker m =>
    simp only [Serves, not_forall, Bool.not_eq_true] at ha
    obtain ⟨t, hw, hq⟩ := ha
    cases m with
    | notJoined => refine .of_eq hB ?_ ?_ rfl ?_ <;> grind [toStart, Sys.work, runs?]
    | joined _ hp => simp [hp, PoolPc.quiet] at hq
    | joinedNone _ hp => rcases hp with hp | hp <;> simp [hp, PoolPc.quiet] at hq
    | _ hw' => cases hw'.symm.trans hw
  | runtime m =>
    cases m with
    | pollRecv _ hw | pollAsync _ hw | pollJoin _ hw | yieldRecv hw | yieldJoin hw =>
      refine .of_eq hB ?_ ?_ rfl ?_ <;> grind [toStart, Sys.work, runs?]
    | dropRecv | dropAsync | dropJoin | dropQueued => exact absurd trivial ha
    | shutdown => exact .of_eq hB rfl rfl rfl rfl
  | pool m => exact absurd trivial ha
  | handle m =>
    cases m with
    | takeState => exact ⟨rfl, by simp [left], rfl⟩
    | _ => exact .of_eq hB rfl rfl rfl rfl
  | call m | taskHandle m | spawn m | spawner m => cases m <;> exact .of_eq hB rfl rfl rfl rfl

end Sys

end AsyncSequential
