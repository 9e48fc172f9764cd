import AsyncSequential.Cells

/-!
# First in, first out

The queue hands the accepted tasks to the worker in the order of acceptance, and
the worker starts those that it takes in the order in which it received them.
`Order` keeps the books: what was accepted is what was received, dropped with
the queue or is still queued, in that order; and of the received tasks those
that the worker has taken are the started ones, but for at most one that it has
taken and not yet started.
-/

namespace AsyncSequential

variable {S F R : Type*}

/-! ### What a position has started -/

/-- Whatever the worker has taken has started. -/
@[grind] def WorkerPc.settled : WorkerPc F R → Bool
  | .took _ _ | .awaitBlocking _ _ => false
  | .dropping _ out | .ended out => out = .ok
  | _ => true

/-- The closure has started its body. -/
@[grind] def PoolPc.began : PoolPc F R → Bool
  | .running _ _ | .send _ _ | .unwind _ _ | .unlock _ _ | .done _ (some _) => true
  | _ => false

/-- The task that the closure has yet to start. -/
@[grind] def PoolPc.unbegun? : PoolPc F R → Option ℕ
  | .queued t _ | .locked t _ => some t
  | .idle | .running _ _ | .send _ _ | .unwind _ _ | .unlock _ _ | .dropRaw _ | .done _ _ | .cancelled _ => none

@[grind →] theorem PoolPc.task_of_began {p : PoolPc F R} (h : p.began = true) : p.task ≠ none := by
  cases p <;> simp_all [began, task]

@[grind →] theorem PoolPc.task_of_unbegun {p : PoolPc F R} {t : ℕ} (h : p.unbegun? = some t) :
    p.task = some t := by
  cases p <;> simp_all [unbegun?, task]

/-- What the worker has taken and not started. -/
structure Rest (w : WorkerPc F R) (p : PoolPc F R) (rest : List ℕ) : Prop where
  /-- Nothing, at most positions. -/
  settled : w.settled = true ∨ p.began = true → rest = []
  /-- The task it has just taken. -/
  took : ∀ t raw, w = .took t raw → rest = [t]
  /-- The task of a closure that has not got to it. -/
  unbegun : ∀ t, p.unbegun? = some t → rest = [t]

/-- The worker moves on to a position at which it has not just taken a task. -/
theorem Rest.worker {w w' : WorkerPc F R} {p : PoolPc F R} {rest : List ℕ} (hr : Rest w p rest)
    (hs : w'.settled = true → w.settled = true) (ht : ∀ t raw, w' ≠ .took t raw) : Rest w' p rest where
  settled h := hr.settled (h.imp hs id)
  took t raw h := absurd h (ht t raw)
  unbegun := hr.unbegun

/-- The closure moves on to a position at which it starts nothing. -/
theorem Rest.pool {w : WorkerPc F R} {p p' : PoolPc F R} {rest : List ℕ} (hr : Rest w p rest)
    (hs : p'.began = true → p.began = true) (hu : ∀ t, p'.unbegun? = some t → p.unbegun? = some t) :
    Rest w p' rest where
  settled h := hr.settled (h.imp id hs)
  took := hr.took
  unbegun t h := hr.unbegun t (hu t h)

/-- A worker without a closure that has started what it had taken. -/
theorem Rest.nil {w : WorkerPc F R} {p : PoolPc F R} (ht : ∀ t raw, w ≠ .took t raw) (hp : p.unbegun? = none) :
    Rest w p [] where
  settled _ := rfl
  took t raw h := absurd h (ht t raw)
  unbegun _ h := nomatch hp.symm.trans h

namespace Sys

variable {B : Bodies S F R PanicPayload} {s s' : Sys S F R} {t : ℕ}

/-- The worker has taken `t`. -/
def taken (s : Sys S F R) (t : ℕ) : Bool := decide (.worker ∈ (s.tasks t).takers)

/-- Acceptance, reception and start. -/
structure Order (s : Sys S F R) : Prop where
  /-- What was accepted was received, was dropped with the queue, or is queued. -/
  accepted : s.accepted = s.popped ++ s.drained ++ s.queue
  /-- Every send accepts a new task. -/
  nodup : s.accepted.Nodup
  /-- Only existing tasks are accepted. -/
  lt : ∀ t ∈ s.accepted, t < s.next
  /-- They have bodies. -/
  body : ∀ t ∈ s.accepted, s.body t ≠ none
  /-- Nothing is dropped with the queue before the worker is over. -/
  drained : (∀ out, s.worker.phase ≠ .over out) → s.drained = []
  /-- The task at hand is the last one received. -/
  current : ∀ t, s.worker = .dequeued t ∨ s.worker = .checked t → ∃ P, s.popped = P ++ [t]
  /-- The worker takes only what it has received. -/
  received : ∀ t, s.taken t = true → t ∈ s.popped
  /-- The started tasks are those received and taken, but for the last. -/
  started : ∃ rest, s.popped.filter s.taken = s.started ++ rest ∧ Rest s.worker s.pool rest

theorem order_init (v : S) : (init v : Sys S F R).Order := by
  constructor
  case started => exact ⟨[], rfl, by constructor <;> simp [init, PoolPc.unbegun?]⟩
  all_goals simp [init, taken, Task.absent]

theorem Order.accepted_step {a : Act F} (h : s.Order) (m : Move B s a s') :
    s'.accepted = s'.popped ++ s'.drained ++ s'.queue := by
  cases m with
  | worker m =>
    cases m with
    | @recv t q hw hq =>
      have hd : s.drained = [] := h.drained (by simp [hw, WorkerPc.phase])
      simpa [hd, hq] using h.accepted
    | @drainLast t q _ _ _ hq _ _ | @drain t q _ _ _ hq _ => simpa [hq] using h.accepted
    | _ => exact h.accepted
  | spawn m =>
    cases m with
    | accept _ _ => simp [h.accepted]
    | _ => exact h.accepted
  | runtime m | pool m | call m | taskHandle m | spawner m | handle m => cases m <;> exact h.accepted

theorem Order.nodup_step {a : Act F} (h : s.Order) (m : Move B s a s') : s'.accepted.Nodup := by
  cases m with
  | spawn m =>
    cases m with
    | accept _ _ =>
      refine List.nodup_append.mpr ⟨h.nodup, List.nodup_singleton _, ?_⟩
      rintro t ht u hu rfl
      have := h.lt t ht
      simp at hu
      omega
    | _ => exact h.nodup
  | worker m | runtime m | pool m | call m | taskHandle m | spawner m | handle m => cases m <;> exact h.nodup

theorem Order.lt_step {a : Act F} (h : s.Order) (m : Move B s a s') : ∀ t ∈ s'.accepted, t < s'.next := by
  cases m with
  | spawn m =>
    cases m with
    | accept _ _ =>
      intro t ht
      rcases List.mem_append.mp ht with ht | ht
      · exact (h.lt t ht).trans (Nat.lt_succ_self _)
      · simp at ht
        simp [ht, addTask]
    | reject _ _ | unavailable _ _ => exact fun t ht => (h.lt t ht).trans (Nat.lt_succ_self _)
    | _ => exact h.lt
  | worker m | runtime m | pool m | call m | taskHandle m | spawner m | handle m => cases m <;> exact h.lt

theorem Order.body_step {a : Act F} (h : s.Order) (m : Move B s a s') : ∀ t ∈ s'.accepted, s'.body t ≠ none := by
  have hold : ∀ t ∈ s.accepted, s'.body t ≠ none := fun t ht => by
    rw [body_of_move m (h.lt t ht).ne]
    exact h.body t ht
  cases m with
  | spawn m =>
    cases m with
    | accept _ _ =>
      intro t ht
      rcases List.mem_append.mp ht with ht | ht
      · exact hold t ht
      · simp at ht
        simp [ht, addTask]
    | _ => exact hold
  | worker m | runtime m | pool m | call m | taskHandle m | spawner m | handle m => cases m <;> exact hold

theorem Order.drained_step {a : Act F} (h : s.Order) (m : Move B s a s')
    (hw : ∀ out, s'.worker.phase ≠ .over out) : s'.drained = [] := by
  cases m with
  | worker m =>
    cases m <;> first | exact absurd rfl (hw _) | (refine h.drained fun out => ?_; simp_all [WorkerPc.phase])
  | runtime m =>
    cases m <;> first | exact h.drained hw | exact absurd rfl (hw _) |
      (refine h.drained fun out => ?_; simp_all [WorkerPc.phase])
  | pool m | call m | taskHandle m | spawn m | spawner m | handle m => cases m <;> exact h.drained hw

theorem Order.current_step {a : Act F} (h : s.Order) (m : Move B s a s')
    (hw : s'.worker = .dequeued t ∨ s'.worker = .checked t) : ∃ P, s'.popped = P ++ [t] := by
  cases m with
  | worker m =>
    cases m with
    | recv hw' hq =>
      simp at hw
      subst hw
      exact ⟨_, rfl⟩
    | check hw' _ _ =>
      simp at hw
      subst hw
      exact h.current _ (.inl hw')
    | corrupted hw' _ => exact h.current t hw
    | _ => simp at hw
  | runtime m =>
    cases m <;> simp at hw
    all_goals exact h.current t hw
  | pool m | call m | taskHandle m | spawn m | spawner m | handle m => cases m <;> exact h.current t hw

/-- Only a take by the worker makes it the taker. -/
theorem mem_takers_of_change {k : Task F R} (h : s.Cells) (hc : TaskChange s s' t k)
    (hn : ∀ raw, s.worker = .checked t → s'.worker ≠ .took t raw) : .worker ∈ k.takers ↔ .worker ∈ (s.tasks t).takers := by
  have hcancel : ∀ {o x c g c'}, CancelMove s t o x c g c' → x ≠ .worker →
      (.worker ∈ (g (s.tasks t)).takers ↔ .worker ∈ (s.tasks t).takers) := by
    intro o x c g c' m hx
    cases m with
    | take _ => simp [Task.takenBy, hx.symm]
    | _ => rfl
  cases hc with
  | accept ht _ _ | reject ht _ _ =>
    rw [h.fresh t ht.ge]
    rfl
  | take hw _ hw' => exact absurd hw' (hn _ hw)
  | dealloc _ _ => simp [Task.dealloc, Task.release]
  | call _ _ hm => exact hcancel hm nofun
  | poll hm =>
    cases hm with
    | cancel _ hm => exact hcancel hm nofun
    | _ => rfl
  | _ => rfl

/-- Unless the worker takes, what it has taken stays the same. -/
theorem taken_of_move {a : Act F} (h : s.Cells) (m : Move B s a s')
    (hn : ∀ raw, s.worker = .checked t → s'.worker ≠ .took t raw) : s'.taken t = s.taken t := by
  simp only [taken, decide_eq_decide]
  exact mem_takers_of_change h (taskChange_of_move m t) hn

/-- A move at which the worker receives, takes and starts nothing. -/
theorem Order.started_congr {a : Act F} (h : s.Order) (hc : s.Cells) (m : Move B s a s')
    (hn : ∀ t raw, s.worker = .checked t → s'.worker ≠ .took t raw) (hp : s'.popped = s.popped) (hs : s'.started = s.started)
    (hr : ∀ rest, Rest s.worker s.pool rest → Rest s'.worker s'.pool rest) :
    ∃ rest, s'.popped.filter s'.taken = s'.started ++ rest ∧ Rest s'.worker s'.pool rest := by
  obtain ⟨rest, hf, hrest⟩ := h.started
  refine ⟨rest, ?_, hr rest hrest⟩
  rw [hp, hs, List.filter_congr fun t _ => taken_of_move hc m (hn t), hf]

/-- A queued task has not been received. -/
theorem Order.not_taken_of_queue (h : s.Order) {q : List ℕ} (hq : s.queue = t :: q) : s.taken t = false := by
  cases ht : s.taken t with
  | false => rfl
  | true =>
    have hn := h.nodup
    rw [h.accepted, hq] at hn
    exact ((List.nodup_append.mp hn).2.2 t (by simp [h.received t ht]) t List.mem_cons_self rfl).elim

/-- The worker takes the task at hand, which is the last one received. -/
theorem Order.started_take {raw : RawTask F} (h : s.Order) (hc : s.Cells) (hw : s.worker = .checked t)
    (hk : (s.tasks t).repr.take.1 = some raw)
    (hs' : s' = { s.modTask t fun k => (k.takenBy .worker).release .message with worker := .took t raw }) :
    s.popped.filter s'.taken = s.started ++ [t] := by
  obtain ⟨rest, hf, hrest⟩ := h.started
  obtain ⟨P, hP⟩ := h.current t (.inr hw)
  have hnil : rest = [] := hrest.settled (.inl (by rw [hw]; rfl))
  have htP : t ∉ P := by
    have hn := h.nodup
    rw [h.accepted, hP] at hn
    exact fun ht => (List.nodup_append.mp (List.nodup_append.mp (List.nodup_append.mp hn).1).1).2.2 t ht t
      (List.mem_singleton_self t) rfl
  have ht : s.taken t = false := by simp [taken, ((hc.cell t).full (OnceTake.full_of_take hk)).1]
  have ht' : s'.taken t = true := by simp [taken, hs', Task.release, Task.takenBy]
  have hPeq : P.filter s'.taken = P.filter s.taken := by
    refine List.filter_congr fun u hu => ?_
    have hut : u ≠ t := fun he => htP (he ▸ hu)
    simp [taken, hs', hut]
  rw [hP, List.filter_append, hPeq, List.filter_singleton, ht']
  rw [hP, List.filter_append, List.filter_singleton, ht, hnil] at hf
  simpa using hf

/-- A closure that is not there has nothing to start. -/
theorem unbegun?_of_idle {p : PoolPc F R} (hp : p.task = none) : p.unbegun? = none := by
  cases p <;> first | rfl | cases hp

theorem Order.started_worker (h : s.Order) (hc : s.Cells) (hcu : s.Custody) (m : WorkerMove B s s') :
    ∃ rest, s'.popped.filter s'.taken = s'.started ++ rest ∧ Rest s'.worker s'.pool rest := by
  have hm : Move B s .worker s' := .worker m
  obtain ⟨rest, hf, hrest⟩ := h.started
  cases m with
  | @recv t q hw hq =>
    refine ⟨rest, ?_, hrest.worker (fun _ => by rw [hw]; rfl) nofun⟩
    have ht := h.not_taken_of_queue hq
    show (s.popped ++ [t]).filter s.taken = s.started ++ rest
    simpa [List.filter_append, ht] using hf
  | take hw hk =>
    have hp := hcu.pool_idle (by simp [hw, WorkerPc.phase]) (by simp [hw, WorkerPc.phase])
    refine ⟨_, h.started_take hc hw hk rfl, ?_⟩
    constructor
    · rintro (hs | hs)
      · cases hs
      · exact absurd hp (PoolPc.task_of_began hs)
    · intro u raw' hu
      cases hu
      rfl
    · intro u hu
      cases (unbegun?_of_idle hp).symm.trans hu
  | @startAsync t f v hw hl hv =>
    have hp := hcu.pool_idle (by simp [hw, WorkerPc.phase]) (by simp [hw, WorkerPc.phase])
    refine ⟨[], ?_, .nil nofun (unbegun?_of_idle hp)⟩
    have hr : rest = [t] := hrest.took t _ hw
    show s.popped.filter s.taken = s.started ++ [t] ++ []
    rw [hf, hr, List.append_nil]
  | corrupted hw _ => exact h.started_congr hc hm (by simp [hw]) rfl rfl fun _ hr => hr
  | spawnBlocking hw =>
    refine h.started_congr hc hm (by simp) rfl rfl fun rest hr => ⟨?_, nofun, ?_⟩
    · rintro (hs | hs) <;> cases hs
    · intro u hu
      cases hu
      exact hr.took _ _ hw
  | joined hw hp =>
    refine h.started_congr hc hm (by simp) rfl rfl fun rest hr => ⟨fun _ => ?_, nofun, nofun⟩
    exact hr.settled (.inr (by rw [hp]; rfl))
  | joinedNone =>
    refine h.started_congr hc hm (by simp) rfl rfl fun rest hr => ⟨?_, nofun, nofun⟩
    rintro (hs | hs) <;> cases hs
  | _ => exact h.started_congr hc hm (by simp) rfl rfl fun rest hr => hr.worker (by simp_all [WorkerPc.settled]) nofun

theorem PoolMove.task_ne_none (m : PoolMove B s s') : s.pool.task ≠ none := by
  cases m <;> simp_all [PoolPc.task]

theorem Order.started_pool (h : s.Order) (hc : s.Cells) (hcu : s.Custody) (m : PoolMove B s s') :
    ∃ rest, s'.popped.filter s'.taken = s'.started ++ rest ∧ Rest s'.worker s'.pool rest := by
  have hm : Move B s .pool s' := .pool m
  have hw : ∀ t raw, s.worker ≠ .took t raw := fun t raw hw =>
    m.task_ne_none (hcu.pool_idle (by simp [hw, WorkerPc.phase]) (by simp [hw, WorkerPc.phase]))
  obtain ⟨rest, hf, hrest⟩ := h.started
  cases m with
  | @start t f v hp hv =>
    refine ⟨[], ?_, .nil hw rfl⟩
    have hr : rest = [t] := hrest.unbegun t (by rw [hp]; rfl)
    show s.popped.filter s.taken = s.started ++ [t] ++ []
    rw [hf, hr, List.append_nil]
  | lock hp =>
    exact h.started_congr hc hm (by simp [hw]) rfl rfl fun rest hr => hr.pool nofun fun u hu => by rw [hp]; exact hu
  | _ =>
    refine h.started_congr hc hm (by simp [hw]) rfl rfl fun rest hr => hr.pool (fun hs => ?_) nofun
    simp_all [PoolPc.began]

theorem Order.started_step {a : Act F} (h : s.Order) (hc : s.Cells) (hcu : s.Custody) (m : Move B s a s') :
    ∃ rest, s'.popped.filter s'.taken = s'.started ++ rest ∧ Rest s'.worker s'.pool rest := by
  have hm := m
  cases m with
  | worker m => exact h.started_worker hc hcu m
  | pool m => exact h.started_pool hc hcu m
  | runtime m =>
    cases m with
    | shutdown => exact h.started_congr hc hm (by simp +contextual) rfl rfl fun rest hr => hr
    | dropQueued => exact h.started_congr hc hm (by simp +contextual) rfl rfl fun rest hr => hr.pool nofun nofun
    | _ => exact h.started_congr hc hm (by simp) rfl rfl fun rest hr => hr.worker (by simp_all [WorkerPc.settled]) nofun
  | call m | taskHandle m | spawn m | spawner m | handle m =>
    cases m <;> exact h.started_congr hc hm (by simp +contextual) rfl rfl fun _ hr => hr

theorem popped_of_move {a : Act F} (m : Move B s a s') (ht : t ∈ s.popped) : t ∈ s'.popped := by
  cases m with
  | worker m =>
    cases m with
    | recv _ _ => exact List.mem_append_left _ ht
    | _ => exact ht
  | runtime m | pool m | call m | taskHandle m | spawn m | spawner m | handle m => cases m <;> exact ht

theorem Order.received_step {a : Act F} (h : s.Order) (hc : s.Cells) (m : Move B s a s')
    (ht : s'.taken t = true) : t ∈ s'.popped := by
  refine popped_of_move m ?_
  by_cases hw : s.worker = .checked t
  · obtain ⟨P, hP⟩ := h.current t (.inr hw)
    simp [hP]
  · exact h.received t ((taken_of_move hc m fun raw hw' => absurd hw' hw).symm.trans ht)

/-- **Order holds in every reachable state**: a step keeps it. -/
theorem Order.step {a : Act F} (h : s.Order) (hc : s.Cells) (hcu : s.Custody) (m : Move B s a s') : s'.Order where
  accepted := h.accepted_step m
  nodup := h.nodup_step m
  lt := h.lt_step m
  body := h.body_step m
  drained := h.drained_step m
  current _ := h.current_step m
  received _ := h.received_step hc m
  started := h.started_step hc hcu m

end Sys

end AsyncSequential
