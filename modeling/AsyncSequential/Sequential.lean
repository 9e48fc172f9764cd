import AsyncSequential.Invariant

/-!
# One at a time, first in, first out

The purpose of the crate: the bodies of the accepted tasks run on the shared
state one after the other, in the order of acceptance, whatever else happens to
the worker, the handles and the runtime.
-/

namespace AsyncSequential

variable {S F R : Type*}

/-- A body between its start and its end is a body in progress. -/
theorem PoolPc.task_of_body {p : PoolPc F R} {b : ℕ × F} (h : p.body? = some b) : p.task ≠ none := by
  cases p <;> simp_all [body?, task]

namespace Sys

variable {B : Bodies S F R PanicPayload} {v₀ : S} {s : Sys S F R}

/-- The bodies have been run one after the other, in the order of acceptance. -/
structure SequentialFifo (B : Bodies S F R PanicPayload) (v₀ : S) (s : Sys S F R) : Prop where
  /-- A body is between its start and its end exactly when the worker or a blocking
  closure is in it. -/
  running : ∀ t, s.fate t = .running ↔
    (∃ f, s.worker.body? = some (t, f)) ∨ ∃ f, s.pool.body? = some (t, f)
  /-- The worker and a closure are not both in a body. -/
  exclusive : s.worker.body? = none ∨ s.pool.body? = none
  /-- At most one body is between its start and its end. -/
  atMostOne : ∀ t u, s.fate t = .running → s.fate u = .running → t = u
  /-- The started tasks are those of whose bodies something has become. -/
  started : ∀ t, t ∈ s.started ↔ s.fate t ≠ .unstarted
  /-- A task starts at most once. -/
  once : s.started.Nodup
  /-- The tasks start in the order in which they were accepted. -/
  fifo : s.started.Sublist s.accepted
  /-- Each has the body that it was spawned with. -/
  body : ∀ t ∈ s.started, (s.body t).isSome
  /-- In that order, each body's segments began where the body before it had left
  the state, and have come to what has become of it. -/
  legal : B.Legal (s.log.trace s.started) v₀
  /-- And together they have left the shared state. -/
  current : s.current = some (B.replay (s.log.trace s.started) v₀)

/-- The worker and a closure are never both in a body. -/
theorem Custody.exclusive (hcu : s.Custody) : s.worker.body? = none ∨ s.pool.body? = none := by
  cases hp : s.pool.body? with
  | none => exact .inr rfl
  | some b => exact .inl (body?_eq_none hcu (PoolPc.task_of_body hp))

/-- The body in progress is the worker's or the closure's. -/
theorem Custody.busy_eq_some (hcu : s.Custody) {b : ℕ × F} :
    s.busy = some b ↔ s.worker.body? = some b ∨ s.pool.body? = some b := by
  rcases hcu.exclusive with h | h <;> simp [busy, h]

/-- The start order is a part of the acceptance order. -/
theorem Inv.started_sublist_accepted (h : Inv B v₀ s) : s.started.Sublist s.accepted := by
  rw [h.order.accepted, List.append_assoc]
  exact h.started_sublist_popped.trans (List.sublist_append_left ..)

/-- Every task starts once. -/
theorem Inv.started_nodup (h : Inv B v₀ s) : s.started.Nodup := by
  obtain ⟨v, -, hseq⟩ := h.replay.sequential
  exact hseq.nodup

/-- **Tasks run one at a time, first in, first out**: in every reachable state the
bodies that have started were started in the order in which their tasks were
accepted, each once and each from the state that the one before it left. -/
theorem sequential_fifo (h : Reachable B v₀ s) : SequentialFifo B v₀ s := by
  have hi := inv_of_reachable h
  obtain ⟨v, hv, hseq⟩ := hi.replay.sequential
  have hrunning : ∀ t, s.fate t = .running ↔ ∃ f, s.busy = some (t, f) := hseq.running
  exact {
    running := fun t => by
      simp only [hrunning, hi.custody.busy_eq_some, exists_or]
    exclusive := hi.custody.exclusive
    atMostOne := fun t u ht hu => by
      obtain ⟨f, hf⟩ := (hrunning t).mp ht
      obtain ⟨g, hg⟩ := (hrunning u).mp hu
      cases hf.symm.trans hg
      rfl
    started := fun t => (not_iff_comm.mp hi.unstarted_iff.symm).symm
    once := hi.started_nodup
    fifo := hi.started_sublist_accepted
    body := fun t ht => Option.isSome_iff_ne_none.mpr (hseq.body t ht)
    legal := hseq.legal
    current := by rw [hv, ← hseq.current]; rfl }

/-! ### A small instance -/

/-- Bodies that count: body `0` adds one and returns the sum, body `1` adds ten
and panics, and body `n + 2` adds a hundred and goes on as `n`. Dropping a
suspended body adds a thousand. -/
def demo : Bodies ℕ ℕ ℕ PanicPayload where
  poll
    | 0, v => (v + 1, .ready (v + 1))
    | 1, v => (v + 10, .panicked (.str "ten"))
    | n + 2, v => (v + 100, .pending n)
  drop _ v := v + 1000

/-- What `demo` comes to when it does these actions, each so many times, begun with zero. -/
def demoExec (as : List (ℕ × Act ℕ)) : Option (Sys ℕ ℕ ℕ) :=
  Runs.exec (step demo) (as.flatMap fun (n, a) => List.replicate n a) (init 0)

theorem demo_reachable {as : List (ℕ × Act ℕ)} (h : (demoExec as).isSome) :
    Reachable demo 0 ((demoExec as).get h) := reachable_of_exec h

/-- The same, as long as every step meets `C`. -/
def demoExecIf (C : Sys ℕ ℕ ℕ → Act ℕ → Bool) (as : List (ℕ × Act ℕ)) : Option (Sys ℕ ℕ ℕ) :=
  Runs.execIf (step demo) (fun s a => C s a = true) (as.flatMap fun (n, a) => List.replicate n a) (init 0)

theorem demo_run {C : Sys ℕ ℕ ℕ → Act ℕ → Bool} {as : List (ℕ × Act ℕ)} (h : (demoExecIf C as).isSome) :
    Run demo (fun s a => C s a = true) (init 0) ((demoExecIf C as).get h) :=
  Runs.steps_of_execIf (Option.some_get h).symm

/-- An async body and, after it, a blocking body that is still running. -/
def demoTwo : Sys ℕ ℕ ℕ := (demoExec
  [(1, .spawn .worker (.async 2)), (1, .spawn .worker (.blocking 2)), (1, .pollWorker), (5, .worker),
    (1, .pollWorker), (8, .worker), (3, .pool)]).get rfl

theorem demoTwo_reachable : Reachable demo 0 demoTwo := demo_reachable rfl

theorem sequential_fifo_demo : demoTwo.started = [0, 1] ∧ demoTwo.fate 1 = .running ∧ demoTwo.current = some 201 ∧
    SequentialFifo demo 0 demoTwo :=
  ⟨rfl, rfl, rfl, sequential_fifo demoTwo_reachable⟩

end Sys

end AsyncSequential
