import AsyncSequential.Cancel

/-!
# Aborting

An abort asks the runtime to drop the worker future the next time it yields. The
worker's loop does not look for it: a poll in progress goes on receiving while
the queue is not empty and no body suspends.
-/

namespace AsyncSequential

variable {S F R : Type*}

namespace Sys

variable {B : Bodies S F R PanicPayload} {v₀ : S} {s s' s₁ s₂ : Sys S F R} {t : ℕ}

/-- The worker has received `t` and not started it. -/
def Dequeued (s : Sys S F R) (t : ℕ) : Prop := s.worker = .dequeued t ∨ s.worker = .checked t ∨ s.HasBody t

/-- And it may yet start. -/
def Startable (s : Sys S F R) (t : ℕ) : Prop :=
  (s.worker = .dequeued t ∨ s.worker = .checked t) ∧ (s.tasks t).repr.Full ∨ s.HasBody t

/-- After `AbortStarted` the worker does not receive a task that it could still take. -/
def stopsReceiving (s : Sys S F R) : Act F → Bool
  | .worker =>
    !(s.flag = some .abortStarted && s.worker matches .recv false &&
      s.queue.head?.any fun t => decide (s.tasks t).repr.Full)
  | _ => true

theorem Startable.dequeued (h : s.Startable t) : s.Dequeued t := by
  rcases h with ⟨hw | hw, -⟩ | hb
  · exact .inl hw
  · exact .inr (.inl hw)
  · exact .inr (.inr hb)

/-- What was dequeued was received. -/
theorem Inv.popped_of_dequeued (h : Inv B v₀ s) (ht : s.Dequeued t) : t ∈ s.popped := by
  rcases ht with hw | hw | hb
  · obtain ⟨P, hP⟩ := h.order.current t (.inl hw)
    simp [hP]
  · obtain ⟨P, hP⟩ := h.order.current t (.inr hw)
    simp [hP]
  · exact h.popped_of_hasBody hb

/-- A cell that is full was full. -/
theorem Inv.full_of_move (h : Inv B v₀ s) {a : Act F} (m : Move B s a s') (ht : t ∈ s.accepted)
    (hf : (s'.tasks t).repr.Full) : (s.tasks t).repr.Full := by
  by_contra hn
  have hk := (h.cells.cell t).spent hn ((h.ending.accepted t).mp ht)
  have hnil := (((h.cells.step m).cell t).full hf).1
  exact hk ((h.cells.takers_of_move m hk).symm.trans hnil)

/-- The worker's task at hand was at hand, or it has just received it. -/
theorem dequeued_of_move {a : Act F} (m : Move B s a s') (hw : s'.worker = .dequeued t ∨ s'.worker = .checked t) :
    (s.worker = .dequeued t ∨ s.worker = .checked t) ∨
      a = .worker ∧ s.worker = .recv false ∧ ∃ q, s.queue = t :: q ∧ s'.tasks = s.tasks := by
  cases m with
  | worker m =>
    cases m with
    | recv hw' hq =>
      rcases hw with hw | hw <;> cases hw
      exact .inr ⟨rfl, hw', _, hq, rfl⟩
    | check hw' _ _ =>
      rcases hw with hw | hw <;> cases hw
      exact .inl (.inl hw')
    | corrupted _ _ => exact .inl hw
    | _ => rcases hw with hw | hw <;> cases hw
  | runtime m => cases m <;> first | exact .inl hw | (rcases hw with hw | hw <;> cases hw)
  | pool m | call m | taskHandle m | spawn m | spawner m | handle m => cases m <;> exact .inl hw

/-- A worker that stops receiving gets nothing that it could start. -/
theorem Inv.startable_back (h : Inv B v₀ s) {a : Act F} (m : Move B s a s') (hC : s.stopsReceiving a = true)
    (hf : s.flag = some .abortStarted ∨ s.flag = some .taskPanicked) (ht : s'.Startable t) : s.Startable t := by
  rcases ht with ⟨hw, hfull⟩ | hb
  · left
    rcases dequeued_of_move m hw with hw | ⟨rfl, hw, q, hq, htasks⟩
    · have hd : s.Dequeued t := hw.imp id .inl
      refine ⟨hw, h.full_of_move m ?_ hfull⟩
      rw [h.order.accepted]
      simp [h.popped_of_dequeued hd]
    · exfalso
      rcases hf with hf | hf
      · rw [htasks] at hfull
        simp [stopsReceiving, hf, hw, hq, hfull] at hC
      · exact h.status.panicked.mp hf (h.status.panics_eq_nil (.inl (by rw [hw]; rfl)))
  · rcases hasBody_of_move m hb with hb | ⟨hw, hfull⟩
    · exact .inr hb
    · exact .inl ⟨.inr hw, hfull⟩

/-! ### A task that is received after all -/

/-- A body that the worker has taken can start next. -/
theorem Inv.starts_of_took (h : Inv B v₀ s) {raw : RawTask F} (hw : s.worker = .took t raw) :
    ∃ s', Run B Runs.Any s s' ∧ t ∈ s'.started := by
  cases raw with
  | async f =>
    have hs : Sys.step B s .worker =
        some { s.startBody t with worker := .asyncBody t f false, lock := some .worker } := by
      simp only [Sys.step, workerStep, hw, if_pos (h.custody.free hw)]
    exact ⟨_, .single trivial hs, by simp⟩
  | blocking f =>
    have hs : Sys.step B s .worker = some { s with worker := .awaitBlocking t false, pool := .queued t f } := by
      simp only [Sys.step, workerStep, hw]
    have h₁ := h.step hs
    have hl : s.lock = none := h₁.custody.lock_eq_none (t := t) rfl rfl
    have hv : s.value.isSome = true := Option.isSome_iff_ne_none.mpr (h₁.custody.value_ne_none rfl)
    have hlock : Sys.step B { s with worker := .awaitBlocking t false, pool := .queued t f } .pool =
        some { s with worker := .awaitBlocking t false, pool := .locked t f, lock := some .pool } := by
      simp only [Sys.step, poolStep, if_pos hl]
    have hstart :
        Sys.step B { s with worker := .awaitBlocking t false, pool := .locked t f, lock := some .pool } .pool =
          some { s.startBody t with worker := .awaitBlocking t false, pool := .running t f, lock := some .pool } := by
      simp only [Sys.step, poolStep, if_pos hv, startBody]
    exact ⟨_, ((Runs.Steps.single trivial hs).tail trivial hlock).tail trivial hstart, by simp⟩

/-- A task that the worker has received, with its body in the cell, can start next, unless the worker
was cancelled. -/
theorem Inv.starts_of_dequeued (h : Inv B v₀ s) (hw : s.worker = .dequeued t) (hk : (s.tasks t).repr.Full)
    (hf : s.flag ≠ some .cancelStarted) : ∃ s', Run B Runs.Any s s' ∧ t ∈ s'.started := by
  obtain ⟨fl, hfl⟩ := Option.ne_none_iff_exists'.mp h.status.flag_ne_none
  have hcheck : Sys.step B s .worker = some { s with worker := .checked t } := by
    cases fl with
    | cancelStarted => exact absurd hfl hf
    | abortStarted | taskPanicked | runningOrRuntimeShutdown => simp only [Sys.step, workerStep, hw, hfl]
  obtain ⟨raw, hraw⟩ := Option.isSome_iff_exists.mp ((OnceTake.take_isSome _).mpr hk)
  have htake : Sys.step B { s with worker := .checked t } .worker = some
      { s.modTask t fun k => (k.takenBy .worker).release .message with worker := .took t raw } := by
    simp only [Sys.step, workerStep, hraw]
    rfl
  obtain ⟨s', hr, ht⟩ := ((h.step hcheck).step htake).starts_of_took rfl
  exact ⟨s', ((Runs.Steps.single trivial hcheck).tail trivial htake).trans hr, ht⟩

/-- What a worker that does not stop receiving receives. -/
theorem dequeued_of_step {a : Act F} (hs : Sys.step B s a = some s')
    (hC : s.stopsReceiving a = false) : s.flag = some .abortStarted ∧
      ∃ t ∈ s.queue, s'.worker = .dequeued t ∧ (s'.tasks t).repr.Full ∧ s'.flag = s.flag := by
  cases a with
  | worker =>
    simp only [stopsReceiving, Bool.not_eq_false', Bool.and_eq_true, decide_eq_true_eq] at hC
    obtain ⟨⟨hf, hpc⟩, hhead⟩ := hC
    split at hpc
    · rename_i hw
      cases workerMove_of_step hs with
      | recv _ hq =>
        simp only [hq, List.head?_cons, Option.any_some, decide_eq_true_eq] at hhead
        exact ⟨hf, _, by simp [hq], rfl, hhead, rfl⟩
      | recvNone _ hq => simp [hq] at hhead
      | _ hw' => cases hw.symm.trans hw'
    · cases hpc
  | _ => cases hC

/-- **`abort` stops the queue where the worker stops receiving**: in a run in which
after the flag is set the worker receives nothing that it could still take, at
most one body starts, of a task already dequeued, and what was queued at that
moment or is accepted later never starts. And a worker that does receive such a task
may go on to start it. -/
theorem abort_stops_queue (B : Bodies S F R PanicPayload) (v₀ : S) :
    (∀ s₁ s₂, Reachable B v₀ s₁ → s₁.flag = some .abortStarted →
      Run B (fun s a => s.stopsReceiving a = true) s₁ s₂ →
      (s₂.started = s₁.started ∨ ∃ t, s₁.Dequeued t ∧ s₂.started = s₁.started ++ [t]) ∧
      ∀ t, t ∈ s₁.queue ∨ t ∈ s₂.accepted ∧ t ∉ s₁.accepted → t ∉ s₂.started) ∧
    ∀ s a s', Reachable B v₀ s → Sys.step B s a = some s' → s.stopsReceiving a = false →
      s.flag = some .abortStarted ∧ ∃ t ∈ s.queue, ∃ s'', Run B Runs.Any s' s'' ∧ t ∈ s''.started := by
  constructor
  · intro s₁ s₂ h hf hr
    have hi := inv_of_reachable h
    have hP := starts_of_run Startable hi hr (fun _ _ hb => .inr hb)
      (fun s t hfree ht => by
        rcases ht with ⟨hw | hw, -⟩ | hb
        · exact (hfree.message t).1 hw
        · exact (hfree.message t).2 hw
        · exact hfree.body t hb)
      (fun s s' a t hr' hs hC m => hs.startable_back m hC (by
        rw [← hf]
        exact flag_of_run hr' (by rw [hf]; nofun)))
    have hst : s₂.started = s₁.started ∨ ∃ t, s₁.Dequeued t ∧ s₂.started = s₁.started ++ [t] := by
      rcases hP with ⟨heq, -⟩ | ⟨u, hu, heq, -⟩
      · exact .inl heq
      · exact .inr ⟨u, hu.dequeued, heq⟩
    refine ⟨hst, fun t ht => ?_⟩
    exact hi.not_started_of_starts (hst.imp id fun ⟨u, hu, heq⟩ => ⟨u, hi.popped_of_dequeued hu, heq⟩)
      (ht.imp id And.right)
  · intro s a s' h hs hC
    have hi := inv_of_reachable h
    obtain ⟨hf, t, ht, hw, hk, hfl⟩ := dequeued_of_step hs hC
    obtain ⟨s'', hr, hst⟩ := (hi.step hs).starts_of_dequeued hw hk (by rw [hfl, hf]; nofun)
    exact ⟨hf, t, ht, s'', hr, hst⟩

/-- Three tasks, of which the worker has dequeued the first, and an abort that sets the flag. -/
def demoAbort : Sys ℕ ℕ ℕ := (demoExec
  [(3, .spawn .worker (.async 0)), (1, .pollWorker), (1, .worker), (1, .consume .abort), (2, .handle)]).get rfl

theorem demoAbort_reachable : Reachable demo 0 demoAbort := demo_reachable rfl

/-- The first runs to its end, and the poll yields. -/
def demoAbortYields : Sys ℕ ℕ ℕ := (Runs.execIf (step demo) (fun s a => s.stopsReceiving a = true)
  [.worker, .worker, .worker, .worker, .worker, .worker, .worker, .yield, .handle, .dropWorker] demoAbort).get rfl

theorem demoAbortYields_run : Run demo (fun s a => s.stopsReceiving a = true) demoAbort demoAbortYields :=
  Runs.steps_of_execIf (Option.some_get rfl).symm

theorem abort_stops_queue_demo : demoAbortYields.started = [0] ∧ 1 ∉ demoAbortYields.started :=
  ⟨rfl, ((abort_stops_queue demo 0).1 demoAbort demoAbortYields demoAbort_reachable rfl demoAbortYields_run).2 1
    (.inl (by decide))⟩

/-- The poll goes on, and runs the two tasks that were queued. -/
def demoAbortGoesOn : Sys ℕ ℕ ℕ := (Runs.exec (step demo) (List.replicate 20 .worker) demoAbort).get rfl

/-- Tasks that were queued when the flag was set can still start. -/
theorem abort_starts_queued : ¬ ∀ s₁ s₂ : Sys ℕ ℕ ℕ, Reachable demo 0 s₁ → s₁.flag = some .abortStarted →
    Run demo Runs.Any s₁ s₂ → ∀ t ∈ s₁.queue, t ∉ s₂.started := by
  intro hall
  have hrun : Run demo Runs.Any demoAbort demoAbortGoesOn := Runs.steps_of_exec (Option.some_get rfl).symm
  exact hall demoAbort demoAbortGoesOn demoAbort_reachable rfl hrun 2 (by decide) (by decide)

end Sys

end AsyncSequential
