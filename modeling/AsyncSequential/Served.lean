import AsyncSequential.Rest

/-!
# No task starves

The queue is served in order, and what comes later does not get ahead. So however
many tasks are spawned after it, and whatever else is done in between, an accepted
task gets its turn: if the worker, its closure and the runtime that drops them keep
taking steps, then at some time they are done with it. A task that they are done
with is settled, unless a cancel in progress has it.
-/

namespace AsyncSequential

variable {S F R : Type*}

namespace Sys

variable {B : Bodies S F R PanicPayload} {v₀ : S} {s s' : Sys S F R} {t : ℕ}

/-! ### The tasks ahead -/

/-- How many tasks leave the queue until `t` has: it and those before it, or all when the queue is closed. -/
def ahead (t : ℕ) (s : Sys S F R) : ℕ :=
  if s.rxOpen then if t ∈ s.queue then s.queue.idxOf t + 1 else 0 else s.queue.length

theorem ahead_congr (hq : s'.queue = s.queue) (ho : s'.rxOpen = s.rxOpen) : s'.ahead t = s.ahead t := by
  simp only [ahead, hq, ho]

/-- A task that is added goes behind. -/
theorem ahead_of_append {u : ℕ} (hq : s'.queue = s.queue ++ [u]) (ho : s'.rxOpen = true) (hs : s.rxOpen = true)
    (hu : u ≠ t) : s'.ahead t = s.ahead t := by
  have hmem : t ∈ s'.queue ↔ t ∈ s.queue := by simp [hq, hu.symm]
  simp only [ahead, ho, hs, hmem, if_true]
  split_ifs with ht
  · rw [hq, List.idxOf_append_of_mem ht]
  · rfl

/-- A task that leaves the queue brings the others forward. -/
theorem ahead_of_pop {u : ℕ} (hq : s.queue = u :: s'.queue) (ho : s'.rxOpen = s.rxOpen) (hn : s.queue.Nodup)
    (ht : s.rxOpen = true → t ∈ s.queue) : s'.ahead t < s.ahead t := by
  simp only [ahead, ho]
  split_ifs with hopen hin hold hold
  · -- `t` is not the first, as it is still there
    have hut : u ≠ t := by
      rintro rfl
      exact (List.nodup_cons.mp (hq ▸ hn)).1 hin
    rw [hq, List.idxOf_cons_ne _ hut]
    omega
  · exact absurd (ht hopen) hold
  · omega
  · exact absurd (ht hopen) hold
  · rw [hq, List.length_cons]
    omega

/-- The queue stays, or a task is added at its end, or the worker takes its first task or
drops it. -/
theorem queue_cases {a : Act F} (m : Move B s a s') :
    s'.queue = s.queue ∨ (s'.queue = s.queue ++ [s.next] ∧ s.rxOpen = true) ∨
      a = .worker ∧ ∃ u, s.queue = u :: s'.queue ∧
        (s.worker = .recv false ∨ ∃ todo out, s.worker = .dropping (.drain :: todo) out) := by
  cases m with
  | worker m =>
    cases m with
    | recv hw hq => exact .inr (.inr ⟨rfl, _, hq, .inl hw⟩)
    | drainLast hw hq | drain hw hq => exact .inr (.inr ⟨rfl, _, hq, .inr ⟨_, _, hw⟩⟩)
    | _ => exact .inl rfl
  | spawn m =>
    cases m with
    | accept ho => exact .inr (.inl ⟨rfl, ho⟩)
    | _ => exact .inl rfl
  | runtime m | pool m | call m | taskHandle m | spawner m | handle m => cases m <;> exact .inl rfl

/-- The queue stays open, or the worker closes it. -/
theorem rxOpen_cases {a : Act F} (m : Move B s a s') :
    s'.rxOpen = s.rxOpen ∨ s'.rxOpen = false ∧ a = .worker ∧ ∃ todo out, s.worker = .dropping (.closeRx :: todo) out := by
  cases m with
  | worker m =>
    cases m with
    | closeRx hw => exact .inr ⟨rfl, rfl, _, _, hw⟩
    | _ => exact .inl rfl
  | runtime m | pool m | call m | taskHandle m | spawn m | spawner m | handle m => cases m <;> exact .inl rfl

/-- Tasks that are served are not before others in an open queue: whoever takes the first task
of the queue while `t` is with the server takes it from before `t`, or the queue is closed. -/
theorem mem_queue_of_pop (h : Reachable B v₀ s) (ht : s.Held t) (ho : s.rxOpen = true)
    (hw : s.worker = .recv false ∨ ∃ todo out, s.worker = .dropping (.drain :: todo) out) : t ∈ s.queue := by
  rcases hw with hw | ⟨todo, out, hw⟩
  · rcases ht with hq | hm | hr | hp | hpool
    · exact hq
    · rw [hw] at hm
      cases hm
    · rw [hw] at hr
      cases hr
    · rw [hw] at hp
      rcases hp with hp | hp <;> cases hp
    · have hidle := (inv_of_reachable h).custody.pool_idle (by simp [hw, WorkerPc.phase]) (by simp [hw, WorkerPc.phase])
      cases hpc : s.pool <;> rw [hpc] at hidle hpool <;> cases hidle
      cases hpool
  · have hwind := (owned_of_reachable h).winding out (by rw [hw]; rfl)
    simp only [hw, WorkerPc.todo, Winding, ho] at hwind
    cases hwind.2

/-! ### The rank -/

/-- What is to be done before the server is done with `t`. -/
noncomputable def servedRank (hB : B.Ends) (t : ℕ) (s : Sys S F R) : ℕ ×ₗ ℕ ×ₗ ℕ ×ₗ ℕ :=
  toLex (s.rxOpen.toNat, toLex (s.ahead t + s.toStart, toLex (s.left hB, s.work)))

/-- A step that serves lowers it. -/
theorem servedRank_lt (hB : B.Ends) (h : Reachable B v₀ s) (ht : s.Held t) {a : Act F} (hs : step B s a = some s')
    (ha : s.Serves a) : s'.servedRank hB t < s.servedRank hB t := by
  have hi := inv_of_reachable h
  have m := move_of_step hs
  simp only [servedRank, Prod.Lex.toLex_lt_toLex]
  by_cases ho : s'.rxOpen = s.rxOpen
  · have hkeep : s'.queue = s.queue → s'.ahead t ≤ s.ahead t := fun hq => (ahead_congr hq ho).le
    have hpop : ∀ u, s.queue = u :: s'.queue → s'.ahead t < s.ahead t := fun u hq => by
      have hn : s.queue.Nodup := (List.nodup_append.mp (hi.order.accepted ▸ hi.order.nodup)).2.1
      refine ahead_of_pop hq ho hn fun hopen => ?_
      rcases queue_cases m with hq' | ⟨hq', -⟩ | ⟨-, -, -, hw⟩
      · exact absurd (hq'.trans hq) List.ne_cons_self
      · have hlen := congrArg List.length hq
        simp [hq'] at hlen
        omega
      · exact mem_queue_of_pop h ht hopen hw
    rcases getsOn_of_serves hB hi hs ha hkeep hpop with hlt | ⟨hlt, hl⟩ | ⟨hlt, hl, hw⟩ <;> rw [ho] <;> omega
  · rcases rxOpen_cases m with ho' | ⟨ho', -⟩
    · exact absurd ho' ho
    · rw [ho'] at ho ⊢
      cases hopen : s.rxOpen
      · exact absurd hopen.symm ho
      · exact .inl Nat.zero_lt_one

/-- No step raises it. -/
theorem servedRank_le (hB : B.Ends) (h : Reachable B v₀ s) (hacc : t ∈ s.accepted) (ht : s.Held t) {a : Act F}
    (hs : step B s a = some s') : s'.servedRank hB t ≤ s.servedRank hB t := by
  by_cases ha : s.Serves a
  · exact (servedRank_lt hB h ht hs ha).le
  · have m := move_of_step hs
    obtain ⟨hst, hl, hw⟩ := stands_of_not_serves hB hs ha
    have ho : s'.rxOpen = s.rxOpen := by
      rcases rxOpen_cases m with ho | ⟨-, rfl, _, _, hwk⟩
      · exact ho
      · exact absurd (fun u hu => nomatch hwk.symm.trans hu) ha
    have hahead : s'.ahead t = s.ahead t := by
      rcases queue_cases m with hq | ⟨hq, hopen⟩ | ⟨rfl, -, -, hwk⟩
      · exact ahead_congr hq ho
      · exact ahead_of_append hq (ho.trans hopen) hopen ((inv_of_reachable h).order.lt t hacc).ne'
      · refine absurd (fun u hu => ?_) ha
        rcases hwk with hwk | ⟨_, _, hwk⟩ <;> cases hwk.symm.trans hu
    simp only [servedRank, Prod.Lex.toLex_le_toLex, ho, hahead, hst, hw, lt_irrefl, false_or, true_and]
    omega

/-! ### The turn of a task -/

/-- A cancel in progress has the task. -/
def BeingCancelled (s : Sys S F R) (t : ℕ) : Prop :=
  (∃ i c, s.cancels i = .run t c ∧ c.holds = true) ∨ ∃ c, (s.tasks t).handle = .spawned (.cancel c) ∧ c.holds = true

/-- A task that the worker and its closure are done with is over, unless a cancel in progress has it. -/
theorem over_or_cancelled (h : Reachable B v₀ s) (hacc : t ∈ s.accepted) (ht : ¬ s.Held t) :
    Over (s.tasks t) ∨ s.BeingCancelled t := by
  by_cases hc : s.BeingCancelled t
  · exact .inr hc
  · simp only [BeingCancelled, not_or, not_exists, not_and, Bool.not_eq_true] at hc
    exact .inl (over_of_not_held h hacc ht hc.1 hc.2)

/-- What the worker and its closure have they keep as long as they take no step. -/
theorem held_of_not_serves {a : Act F} (hs : step B s a = some s') (ha : ¬ s.Serves a) (ht : s.Held t) :
    s'.Held t := by
  have m := move_of_step hs
  have hsame (hq : s'.queue = s.queue) (hw : s'.worker = s.worker) (hp : s'.pool = s.pool) : s'.Held t := by
    rwa [Held, hq, hw, hp]
  -- a poll of the worker future changes only whether it is parked
  have hparked {w w' : WorkerPc F R} (hw : s.worker = w) (hw' : s'.worker = w') (hq : s'.queue = s.queue)
      (hp : s'.pool = s.pool) (hm : w.hasMessage t → w'.hasMessage t) (hr : w.hasResultTx t → w'.hasResultTx t)
      (hpx : w.hasPanicTx t → w'.hasPanicTx t) : s'.Held t := by
    rw [Held, hw] at ht
    rw [Held, hq, hw', hp]
    exact ht.imp_right (Or.imp hm (Or.imp hr (Or.imp_left hpx)))
  cases m with
  | worker m =>
    simp only [Serves, not_forall] at ha
    obtain ⟨u, hu, hquiet⟩ := ha
    cases m with
    | notJoined hw => exact hparked hw rfl rfl rfl id id id
    | joined _ hp => simp [hp, PoolPc.quiet] at hquiet
    | joinedNone _ hp => rcases hp with hp | hp <;> simp [hp, PoolPc.quiet] at hquiet
    | _ hw => cases hu.symm.trans hw
  | runtime m =>
    cases m with
    | pollRecv _ hw | pollAsync _ hw | pollJoin _ hw | yieldRecv hw | yieldJoin hw =>
      exact hparked hw rfl rfl rfl id id id
    | dropRecv | dropAsync | dropJoin | dropQueued => exact absurd trivial ha
    | shutdown => exact hsame rfl rfl rfl
  | pool m => exact absurd trivial ha
  | spawn m =>
    cases m with
    | accept => exact ht.imp_left fun hq => List.mem_append_left _ hq
    | _ => exact hsame rfl rfl rfl
  | call m | taskHandle m | spawner m | handle m => cases m <;> exact hsame rfl rfl rfl

/-- As long as the two have a task a step of theirs is possible, once others that something
waits for have been taken. -/
theorem serves_of_held (hB : B.Ends) (h : Reachable B v₀ s) (ht : s.Held t) :
    ∃ u a v, Run B Useful s u ∧ u.Serves a ∧ step B u a = some v := by
  by_contra hno
  obtain ⟨u, -, hrun, -, hr⟩ := (inevitably_stuck hB h).exists_run
  have hheld : u.Held t := hrun.invariant (P := fun w => w.Held t) ht fun w v a hw hP _ hs =>
    held_of_not_serves hs (fun ha => hno ⟨w, a, v, hw, ha, hs⟩) hP
  exact not_held_of_atRest (h.trans hrun.any) hr hheld

/-- **No task starves.** When every body ends, an accepted task gets its turn, however many
tasks are spawned after it and whatever else is done in between: if the worker, its
closure and the runtime that drops them keep taking steps, they come to be done with
it, and then nobody has anything to do with it any more, unless a cancel in progress
has it; so it is along every endless run in which they act again and again. While they
are not done with it a step of theirs is possible, once others that something waits
for have been taken. -/
theorem no_starvation (hB : B.Ends) (h : Reachable B v₀ s) (hacc : t ∈ s.accepted) :
    Runs.Eventually (step B) Serves
      (fun u => Run B Runs.Any s u ∧ ¬ u.Held t ∧ (Over (u.tasks t) ∨ u.BeingCancelled t)) s ∧
    (∀ (f : ℕ → Sys S F R) (act : ℕ → Act F), f 0 = s → (∀ n, step B (f n) (act n) = some (f (n + 1))) →
      (∀ n, ∃ m, n ≤ m ∧ (f m).Serves (act m)) →
      ∃ n, ¬ (f n).Held t ∧ (Over ((f n).tasks t) ∨ (f n).BeingCancelled t)) ∧
    ∀ u, Run B Runs.Any s u → u.Held t → ∃ v a w, Run B Useful u v ∧ v.Serves a ∧ step B v a = some w := by
  have hkeep : ∀ (u v : Sys S F R) (a : Act F), Run B Runs.Any s u → step B u a = some v → Run B Runs.Any s v :=
    fun u v a hu hs => hu.tail trivial hs
  have hreach : ∀ {u}, Run B Runs.Any s u → Reachable B v₀ u ∧ t ∈ u.accepted := fun hu =>
    ⟨h.trans hu, accepted_of_run hu hacc⟩
  have hheld : Runs.Eventually (step B) Serves (fun u => ¬ u.Held t) s :=
    Runs.eventually_of_rank (servedRank hB t) hkeep
      (fun u v a hu ht hs => servedRank_le hB (hreach hu).1 (hreach hu).2 (not_not.mp ht) hs)
      (fun u v a hu ht ha hs => servedRank_lt hB (hreach hu).1 (not_not.mp ht) hs ha) .refl
  have hserved := hheld.mono .refl hkeep fun u hu ht =>
    (⟨hu, ht, over_or_cancelled (hreach hu).1 (hreach hu).2 ht⟩ :
      Run B Runs.Any s u ∧ ¬ u.Held t ∧ (Over (u.tasks t) ∨ u.BeingCancelled t))
  refine ⟨hserved, fun f act h₀ hf hc => ?_, fun u hu ht => serves_of_held hB (hreach hu).1 ht⟩
  obtain ⟨n, -, hn⟩ := hserved.exists_of_run f act h₀ hf hc
  exact ⟨n, hn⟩

/-- Three tasks, of which the last is behind a body with many segments. -/
def demoThird : Sys ℕ ℕ ℕ := (demoExec
  [(2, .spawn .worker (.async 8)), (1, .spawn .worker (.blocking 0)), (1, .pollWorker), (5, .worker)]).get rfl

theorem demoThird_reachable : Reachable demo 0 demoThird := demo_reachable rfl

theorem no_starvation_demo : demoThird.ahead 2 = 2 ∧
    Runs.Eventually (step demo) Serves (fun u => Run demo Runs.Any demoThird u ∧ ¬ u.Held 2 ∧
      (Over (u.tasks 2) ∨ u.BeingCancelled 2)) demoThird ∧
    ∃ v a w, Run demo Useful demoThird v ∧ v.Serves a ∧ step demo v a = some w :=
  have h := no_starvation (t := 2) demo_ends demoThird_reachable (by decide)
  ⟨rfl, h.1, h.2.2 demoThird .refl (.inl (by decide))⟩

end Sys

end AsyncSequential
