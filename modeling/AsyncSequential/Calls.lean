import AsyncSequential.Rest

/-!
# Calls are bounded

A call of `spawn`, a poll of a task handle, a call of `cancel()`, and an operation
on the worker handle are several atomic accesses, channel operations and lock
sections, and others may act between any two of them. However they do, a call takes
at most a fixed number of steps of its own. It waits for nobody, but for a join, which
waits for the worker to end and for the state's mutex, and for `close_senders`, which
waits for the mutex of a cell. The lock sections of a cell are single actions here:
`close_senders`, the send of a spawner and its two queries. Nobody waits inside one,
and a spawner enters its own before anything else, as the first step of its call.
-/

namespace AsyncSequential

variable {S F R : Type*}

/-- Who calls: whoever spawns a task or polls its handle, whoever cancels one, and
whoever has consumed the worker handle. -/
inductive Caller where
  | task (t : ℕ)
  | canceller (i : ℕ)
  | consumer
  deriving DecidableEq

namespace Caller

/-- The steps of a call. -/
def own : Caller → Act F → Bool
  | .task t, .sendFailed u | .task t, .pollStep u _ => u = t
  | .canceller i, .cancelStep j => j = i
  | .consumer, .handle => true
  | _, _ => false

/-- The step that begins a call. -/
def begins : Caller → Act F → Bool
  | .task t, .poll u => u = t
  | .canceller i, .cancel j _ => j = i
  | .consumer, .consume _ => true
  | _, _ => false

/-- How far the call is from its end. -/
def left : Caller → Sys S F R → ℕ
  | .task t, s => (s.tasks t).handle.work
  | .canceller i, s => (s.cancels i).work
  | .consumer, s => s.handle.work

/-- How many steps a call takes at most. -/
def bound : Caller → ℕ
  | .task _ => 12
  | .canceller _ => 8
  | .consumer => 16

/-- The task has been spawned. -/
def known : Caller → Sys S F R → Prop
  | .task t, s => t < s.next
  | _, _ => True

end Caller

namespace Sys

variable {B : Bodies S F R PanicPayload} {v₀ : S} {s s' : Sys S F R} {t : ℕ} {a : Act F}

/-- Own steps get on. -/
theorem left_lt_of_own {c : Caller} (h : Reachable B v₀ s) (hs : step B s a = some s') (ha : c.own a = true) :
    c.left s' < c.left s := by
  cases c with
  | task t =>
    cases a with
    | sendFailed u =>
      obtain rfl : u = t := by simpa [Caller.own] using ha
      exact (getsOn_of_sendFailed h hs).work
    | pollStep u b =>
      obtain rfl : u = t := by simpa [Caller.own] using ha
      exact (getsOn_of_pollStep h hs).work
    | _ => cases ha
  | canceller i =>
    cases a with
    | cancelStep j =>
      obtain rfl : j = i := by simpa [Caller.own] using ha
      exact (getsOn_of_cancelStep h hs).work
    | _ => cases ha
  | consumer =>
    cases a with
    | handle => exact (getsOn_of_handle h hs).work
    | _ => cases ha

/-- The others leave a handle alone. -/
theorem handle_of_others (m : Move B s a s') (ht : t < s.next) (hown : (Caller.task t).own a = false)
    (hbegins : (Caller.task t).begins a = false) : (s'.tasks t).handle = (s.tasks t).handle := by
  cases m with
  | worker m => exact handle_of_workerMove m t
  | pool m => exact handle_of_poolMove m t
  | runtime m =>
    cases m with
    | dropQueued => exact handle_update (by rfl) t
    | _ => rfl
  | call m =>
    cases m with
    | run _ hm => exact handle_update (work_of_cancelMove hm).2 t
    | _ => rfl
  | taskHandle m =>
    cases m with
    | @start u | @unspawned u =>
      have hu : t ≠ u := by simpa [Caller.begins, eq_comm] using hbegins
      simp [hu]
    | @step u =>
      have hu : t ≠ u := by simpa [Caller.own, eq_comm] using hown
      simp [hu]
    | corrupted | polledPanicRx | polledResultRx => rfl
  | spawn m =>
    cases m with
    | accept | reject | unavailable => simp [ht.ne]
    | @panicked u | @shutdown u | @closed u | @panicMsg u =>
      have hu : t ≠ u := by simpa [Caller.own, eq_comm] using hown
      simp [hu]
    | corrupted | unreachable => rfl
  | spawner m | handle m => cases m <;> rfl

/-- The others' steps take a call no further from its end. -/
theorem left_le_of_others {c : Caller} (hk : c.known s) (hs : step B s a = some s') (hown : c.own a = false)
    (hbegins : c.begins a = false) : c.left s' ≤ c.left s := by
  have m := move_of_step hs
  cases c with
  | task t => simp only [Caller.left, handle_of_others m hk hown hbegins, le_refl]
  | canceller i =>
    rcases cancels_of_move m with hc | ⟨j, x, hc, ha⟩
    · simp only [Caller.left, hc, le_refl]
    · have hij : i ≠ j := by
        rcases ha with ⟨t, rfl⟩ | ⟨rfl, -⟩
        · simpa [Caller.begins, eq_comm] using hbegins
        · simpa [Caller.own, eq_comm] using hown
      simp only [Caller.left, hc, Function.update_of_ne hij, le_refl]
  | consumer =>
    cases m with
    | handle m =>
      cases m with
      | consume => cases hbegins
      | dropJoin => exact Nat.zero_le _
      | _ => cases hown
    | worker m | runtime m | pool m | call m | taskHandle m | spawn m | spawner m => cases m <;> exact le_rfl

theorem known_of_step {c : Caller} (hk : c.known s) (hs : step B s a = some s') : c.known s' := by
  cases c with
  | task t =>
    have hle : s.next ≤ s'.next := by
      cases move_of_step hs with
      | spawn m => cases m <;> first | exact Nat.le_succ _ | exact le_rfl
      | worker m | runtime m | pool m | call m | taskHandle m | spawner m | handle m => cases m <;> exact le_rfl
    exact lt_of_lt_of_le hk hle
  | canceller | consumer => trivial

/-- No call is further from its end than the bound. -/
theorem left_le_bound (c : Caller) (s : Sys S F R) : c.left s ≤ c.bound := by
  have hcancel : ∀ c : CancelPc, c.work ≤ 6 := fun c => by cases c <;> simp [CancelPc.work]
  cases c with
  | task t =>
    show (s.tasks t).handle.work ≤ 12
    cases (s.tasks t).handle with
    | spawned pc =>
      cases pc with
      | cancel c => exact (Nat.succ_le_succ (hcancel c)).trans (by decide)
      | _ => simp [TaskHandle.work, PollPc.work]
    | _ => simp [TaskHandle.work]
  | canceller i =>
    show (s.cancels i).work ≤ 8
    cases s.cancels i with
    | run t c => exact (hcancel c).trans (by decide)
    | _ => simp [CancelCall.work]
  | consumer =>
    show s.handle.work ≤ 16
    cases s.handle with
    | dropCtx op | dropTx op => simp only [HandlePc.work]; split_ifs <;> decide
    | _ => simp [HandlePc.work]

/-- A join waits for the worker to end, or for the state's mutex; or `close_senders` is
about to lock its cell, and may find it locked. -/
def Waits (s : Sys S F R) : Prop :=
  (∃ op, s.handle = .awaitWorker op ∧ ∀ out, s.worker ≠ .ended out) ∨
    (∃ op out, s.handle = .lockState op out ∧ s.lock ≠ none) ∨ ∃ op, s.handle = .closeSenders op

/-- A call that has not returned can go on, but for an operation that waits. -/
theorem exists_own (B : Bodies S F R PanicPayload) {c : Caller} (hl : 0 < c.left s) :
    (∃ a s', c.own a = true ∧ step B s a = some s') ∨ c = .consumer ∧ s.Waits := by
  by_contra hno
  simp only [not_or, not_exists, not_and] at hno
  have hstuck : ∀ a, c.own a = true → step B s a = none := fun a ha =>
    Option.eq_none_iff_forall_ne_some.mpr fun s' => hno.1 a s' ha
  cases c with
  | task t =>
    have hsend := send_of_stuck (s := s) (t := t) (hstuck (.sendFailed t) (by simp [Caller.own]))
    have hpoll := hstuck (.pollStep t .left) (by simp [Caller.own])
    change 0 < (s.tasks t).handle.work at hl
    cases hh : (s.tasks t).handle with
    | sendFailed via => exact hsend via (.inl hh)
    | sendFailedMsg via => exact hsend via (.inr hh)
    | spawned pc =>
      rcases poll_of_stuck (s := s) hpoll hh with rfl | rfl <;> rw [hh] at hl <;> cases hl
    | _ => rw [hh] at hl; cases hl
  | canceller i =>
    change 0 < (s.cancels i).work at hl
    rcases call_of_stuck (s := s) (i := i) (hstuck (.cancelStep i) (by simp [Caller.own])) with hi | ⟨t, b, hi⟩ <;>
      rw [hi] at hl <;> cases hl
  | consumer =>
    change 0 < s.handle.work at hl
    rcases handle_of_stuck (s := s) (hstuck .handle rfl) with hh | ⟨op, hh⟩ | ⟨op, res, hh⟩ | hw
    · rw [hh] at hl; cases hl
    · rw [hh] at hl; cases hl
    · rw [hh] at hl; cases hl
    · exact hno.2 rfl (hw.imp id .inl)

/-- **Calls are bounded**: from every reachable state, and however others act in between, a
call of `spawn` or a poll of a task handle takes at most twelve steps of its own, a
call of `cancel()` at most eight and an operation on the worker handle at most
sixteen; and a call that has not returned can always take its next step, but for a
join that waits for the worker to end or for the state's mutex, and an operation that
is to close the spawners and waits for the mutex of their cell. -/
theorem calls_are_bounded (h : Reachable B v₀ s) (c : Caller) (hk : c.known s) :
    ∀ as s', Runs.exec (step B) as s = some s' → (∀ a ∈ as, c.begins a = false) →
      as.countP c.own + c.left s' ≤ c.bound ∧
        (0 < c.left s' → (∃ a u, c.own a = true ∧ step B s' a = some u) ∨ c = .consumer ∧ s'.Waits) := by
  intro as s' hs hn
  refine ⟨(Runs.countP_add_le (I := fun u => Reachable B v₀ u ∧ c.known u) c.left c.own (fun u v a hu hv => ?_)
    (fun u v a hu ha hv => left_lt_of_own hu.1 hv ha) (fun u v a hu hb ha hv => left_le_of_others hu.2 hv ha hb)
    ⟨h, hk⟩ hs hn).trans (left_le_bound c s), exists_own B⟩
  exact ⟨hu.1.tail trivial hv, known_of_step hu.2 hv⟩

/-- A poll of a queued task's handle has begun. -/
def demoPolled : Sys ℕ ℕ ℕ := (demoExec
  [(1, .spawn .worker (.async 2)), (1, .spawn .worker (.async 0)), (1, .pollWorker), (1, .poll 1)]).get rfl

theorem demoPolled_reachable : Reachable demo 0 demoPolled := demo_reachable rfl

/-- The worker is cancelled while the poll is on its way. -/
def demoPolledCancel : List (Act ℕ) :=
  [.pollStep 1 .left, .worker, .consume .cancel, .pollStep 1 .left, .handle, .handle, .pollStep 1 .left, .worker,
    .pollStep 1 .left]

theorem calls_are_bounded_demo :
    (∃ u, Runs.exec (step demo) demoPolledCancel demoPolled = some u ∧ (Caller.task 1).left u = 6 ∧
      ∃ a v, (Caller.task 1).own a = true ∧ step demo u a = some v) ∧
    demoPolledCancel.countP (Caller.task 1).own + 6 ≤ 12 := by
  have hsome : (Runs.exec (step demo) demoPolledCancel demoPolled).isSome := rfl
  obtain ⟨hcount, hnext⟩ := calls_are_bounded demoPolled_reachable (.task 1) Nat.one_lt_two demoPolledCancel
    ((Runs.exec (step demo) demoPolledCancel demoPolled).get hsome) (Option.some_get hsome).symm (by decide)
  exact ⟨⟨_, (Option.some_get hsome).symm, rfl, (hnext (show 0 < 6 by decide)).resolve_right nofun⟩, hcount⟩

end Sys

end AsyncSequential
