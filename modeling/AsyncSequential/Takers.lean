import AsyncSequential.Orphans
import Mathlib.Data.Finset.Basic

/-!
# One taker

The worker, any number of `cancel()` calls, the handle's own poll and the drop of
the queue compete for a task's body. One of them gets it, for good; and the calls
that come after the worker has got it change nothing but themselves.
-/

namespace AsyncSequential

variable {S F R : Type*}

namespace Sys

variable {B : Bodies S F R PanicPayload} {v₀ : S} {s s' s₁ s₂ : Sys S F R} {t i : ℕ}

/-! ### A taken task -/

/-- The taker of a task stays. -/
theorem Inv.takers_of_run {C : Sys S F R → Act F → Prop} (h : Inv B v₀ s₁) (hr : Run B C s₁ s₂)
    (ht : (s₁.tasks t).takers ≠ []) : (s₂.tasks t).takers = (s₁.tasks t).takers := by
  refine hr.invariant (P := fun u => (u.tasks t).takers = (s₁.tasks t).takers) rfl fun u v a hu hP _ hs => ?_
  rw [(h.run hu).cells.takers_of_move (move_of_step hs) (by rwa [hP]), hP]

/-- What somebody else has taken the worker never starts. -/
theorem Inv.not_started_of_taker {C : Sys S F R → Act F → Prop} (h : Inv B v₀ s₁) (hr : Run B C s₁ s₂) {x : Taker}
    (hx : (s₁.tasks t).takers = [x]) (hne : x ≠ .worker) : t ∉ s₂.started := by
  intro ht
  have hw := (h.run hr).takers_of_started ht
  rw [h.takers_of_run hr (by simp [hx]), hx] at hw
  cases hw
  exact hne rfl

/-- Party `x` has got the body of task `t`: it has it, or something that came with
it, or has done with it what it wanted. -/
inductive Obtained (s : Sys S F R) (t : ℕ) : Taker → Prop
  | worker (h : s.worker.task = some t ∨ s.pool.task = some t ∨ t ∈ s.started) : Obtained s t .worker
  | canceller {i : ℕ} {c : CancelPc} (hi : s.cancels i = .run t c) (hc : c.took = true) : Obtained s t (.canceller i)
  | handle {c : CancelPc} (hh : (s.tasks t).handle = .spawned (.cancel c)) (hc : c.took = true) : Obtained s t .handle
  | dropped (h : .dropped ∈ (s.tasks t).takers) : Obtained s t .dropped

/-- Who has got the body is its taker. -/
theorem Inv.takers_of_obtained (h : Inv B v₀ s) {x : Taker} (hx : s.Obtained t x) : (s.tasks t).takers = [x] := by
  cases hx with
  | worker hw =>
    rcases hw with hw | hp | ht
    · exact h.cells.worker t hw
    · exact h.cells.pool t hp
    · exact h.takers_of_started ht
  | canceller hi hc => exact h.cells.call _ t _ hi hc
  | handle hh hc => exact h.cells.handle t _ hh hc
  | dropped hd =>
    rcases h.takers_cases t with hk | ⟨x, hk⟩
    · simp [hk] at hd
    · rw [hk] at hd ⊢
      rw [List.mem_singleton.mp hd]

/-- The handle of a task reports its cancellation when a `cancel()` call, or the
handle itself, has taken it. -/
theorem Inv.taker_of_taskCancelled (h : Inv B v₀ s) (hh : (s.tasks t).handle = .resolved (.error .taskCancelled)) :
    ∃ x, (s.tasks t).takers = [x] ∧ x ≠ .worker := by
  by_cases hk : (s.tasks t).cancellable = true
  · rcases h.handles.isCancelled t (h.handles.resolved t _ hh hk).2 with ⟨i, hi⟩ | hw
    · exact ⟨_, hi, nofun⟩
    · exact ⟨_, hw, nofun⟩
  · obtain ⟨reason, hreason, -⟩ := h.handles.rejected t _ hh (Bool.eq_false_iff.mpr hk)
    cases reason <;> cases hreason

/-! ### A call that comes too late -/

/-- The cell of a task that is not full is marked as taken. -/
def Spent (s : Sys S F R) : Prop := ∀ t, (s.tasks t).repr.Full ∨ (s.tasks t).repr.taken = true

theorem Spent.step {a : Act F} (h : s.Spent) (m : Move B s a s') : s'.Spent := by
  intro t
  have hk := h t
  have hchange := taskChange_of_move m t
  generalize s'.tasks t = k at hchange
  cases hchange with
  | accept => exact .inl (OnceTake.full_new _)
  | reject | dealloc => exact .inr rfl
  | take | skip => exact .inr (OnceTake.taken_take _)
  | call _ _ hm =>
    cases hm with
    | take | takeFailed => exact .inr (OnceTake.taken_take _)
    | _ => exact hk
  | poll hm =>
    cases hm with
    | cancel _ hm =>
      cases hm with
      | take | takeFailed => exact .inr (OnceTake.taken_take _)
      | _ => exact hk
    | _ => exact hk
  | _ => exact hk

theorem spent_of_reachable (h : Reachable B v₀ s) : s.Spent :=
  h.invariant (P := Spent) (fun _ => .inr rfl) fun _ _ _ _ hP _ hs => hP.step (move_of_step hs)

/-- Action `a` begins `cancel()` call `i` on task `t`, or goes on with it. -/
def Calls (s : Sys S F R) (i t : ℕ) (a : Act F) : Prop :=
  a = .cancel i t ∨ a = .cancelStep i ∧ (s.cancels i = .flag t ∨ ∃ c, s.cancels i = .run t c)

/-- From `s` to `s'` nothing has changed but `cancel()` call `i` on task `t`, and its own reference to the
task's cell, which is gone when the call returns. It has not returned true. -/
def Unmoved (s s' : Sys S F R) (i t : ℕ) : Prop :=
  ∃ x o, s' = { s with cancels := Function.update s.cancels i x,
                       tasks := Function.update s.tasks t { s.tasks t with owners := o } } ∧
    o.erase (.canceller i) = (s.tasks t).owners.erase (.canceller i) ∧
    ∀ b, x = .run t (.done b) → b = false ∧ .canceller i ∉ o

/-- A call that only moves itself. -/
theorem unmoved_of_cancels {x : CancelCall} (hown : .canceller i ∉ (s.tasks t).owners)
    (hx : x ≠ .run t (.done true)) : s.Unmoved { s with cancels := Function.update s.cancels i x } i t := by
  refine ⟨x, (s.tasks t).owners, ?_, rfl, fun b hb => ?_⟩
  · simp
  · cases b with
    | false => exact ⟨rfl, hown⟩
    | true => exact absurd hb hx

/-- A `cancel()` call on a task that somebody else has taken changes nothing but itself. -/
theorem unmoved_of_call (h : Reachable B v₀ s) {x : Taker} (hx : (s.tasks t).takers = [x]) (hne : x ≠ .canceller i)
    {a : Act F} (ha : s.Calls i t a) (hs : step B s a = some s') : s.Unmoved s' i t := by
  have hi := inv_of_reachable h
  have hfull : ¬ (s.tasks t).repr.Full := fun hf => by simp [((hi.cells.cell t).full hf).1] at hx
  have hown : (∀ c, s.cancels i ≠ .run t c) → .canceller i ∉ (s.tasks t).owners := by
    intro hn ho
    obtain ⟨c, hc, -⟩ := (owned_of_reachable h).canceller t i ho
    exact hn c hc
  have hnot : ∀ c, s.cancels i = .run t c → c.took = false := by
    intro c hc
    by_contra ht
    have hk := hi.cells.call i t c hc (by simpa using ht)
    rw [hx] at hk
    cases hk
    exact hne rfl
  rcases ha with rfl | ⟨rfl, hcall⟩
  · cases callMove_of_start hs with
    | start hi' hc =>
      refine unmoved_of_cancels (hown fun c hc' => nomatch hi'.symm.trans hc') ?_
      rw [hc]
      split_ifs <;> nofun
  · cases callMove_of_step hs with
    | corrupted _ hf => exact absurd hf hi.status.flag_ne_none
    | running hi' _ | notRunning hi' _ _ =>
      rcases hcall with hcall | ⟨c, hcall⟩
      · cases hi'.symm.trans hcall
        exact unmoved_of_cancels (hown fun c hc => nomatch hcall.symm.trans hc) nofun
      · cases hi'.symm.trans hcall
    | run hi' hm =>
      rcases hcall with hcall | ⟨c, hcall⟩
      · cases hi'.symm.trans hcall
      cases hi'.symm.trans hcall
      have htook := hnot _ hcall
      cases hm with
      | upgrade _ =>
        exact ⟨.run t .take, insert (.canceller i) (s.tasks t).owners, rfl, Finset.erase_insert_eq_erase _ _, nofun⟩
      | upgradeFailed ho =>
        rw [modTask_id]
        exact unmoved_of_cancels (by simp [ho]) nofun
      | take hk => exact absurd (OnceTake.full_of_take hk) hfull
      | takeFailed _ =>
        have hspent := OnceTake.take_snd_of_taken ((spent_of_reachable h t).resolve_left hfull)
        refine ⟨.run t (.done false), (s.tasks t).owners.erase (.canceller i), ?_, Finset.erase_idem, fun b hb => ?_⟩
        · simp [Task.takeFailed, Task.release, hspent]
        · cases hb
          exact ⟨rfl, Finset.notMem_erase _ _⟩
      | dropRaw | dropPanicTx | store => cases htook

/-- **A task has one taker**, over a whole run and for every interleaving of the
worker, any number of `cancel()` calls, the handle's own poll and the drop of the
queue. So at most one call returns true. When one has, or when the handle reports
`TaskCancelled`, the body never starts; and when the body has started, every call
returns false and leaves the run as it is. -/
theorem one_taker (h : Reachable B v₀ s₁) (hr : Run B Runs.Any s₁ s₂) (t : ℕ) :
    ((s₂.tasks t).takers.length ≤ 1 ∧ ((s₁.tasks t).takers ≠ [] → (s₂.tasks t).takers = (s₁.tasks t).takers)) ∧
    (∀ x, s₂.Obtained t x → (s₂.tasks t).takers = [x]) ∧
    (∀ i j, s₂.cancels i = .run t (.done true) → s₂.cancels j = .run t (.done true) → i = j) ∧
    ((∃ i, s₁.cancels i = .run t (.done true)) ∨ (s₁.tasks t).handle = .resolved (.error .taskCancelled) →
      t ∉ s₂.started) ∧
    (t ∈ s₁.started → ∀ i, s₂.cancels i ≠ .run t (.done true) ∧
      ∀ a s', s₂.Calls i t a → step B s₂ a = some s' → s₂.Unmoved s' i t) := by
  have h₁ := inv_of_reachable h
  have h₂ := h₁.run hr
  refine ⟨⟨(h₂.cells.cell t).one, h₁.takers_of_run hr⟩, fun x hx => h₂.takers_of_obtained hx, ?_, ?_, ?_⟩
  · intro i j hi hj
    have hk := h₂.takers_of_obtained (.canceller hi rfl)
    rw [h₂.takers_of_obtained (.canceller hj rfl)] at hk
    cases hk
    rfl
  · rintro (⟨i, hi⟩ | hh)
    · exact h₁.not_started_of_taker hr (h₁.takers_of_obtained (.canceller hi rfl)) nofun
    · obtain ⟨x, hx, hne⟩ := h₁.taker_of_taskCancelled hh
      exact h₁.not_started_of_taker hr hx hne
  · intro ht i
    have hw : (s₂.tasks t).takers = [.worker] := by
      have hk := h₁.takers_of_started ht
      rw [h₁.takers_of_run hr (by simp [hk]), hk]
    refine ⟨fun hi => ?_, fun a s' ha hs => ?_⟩
    · cases hw.symm.trans (h₂.takers_of_obtained (.canceller hi rfl))
    · exact unmoved_of_call (h.any.trans hr) hw nofun ha hs

/-- A `cancel()` call takes a queued task, a second one comes too late, and the worker goes on. -/
def demoTaken : Sys ℕ ℕ ℕ := (demoExec
  [(1, .spawn .worker (.async 0)), (1, .cancel 0 0), (4, .cancelStep 0), (1, .cancel 1 0), (2, .cancelStep 0)]).get rfl

theorem demoTaken_reachable : Reachable demo 0 demoTaken := demo_reachable rfl

def demoTakenEnd : Sys ℕ ℕ ℕ := (Runs.exec (step demo)
  [.pollWorker, .worker, .worker, .worker, .cancelStep 1, .cancelStep 1] demoTaken).get rfl

theorem demoTakenEnd_run : Run demo Runs.Any demoTaken demoTakenEnd :=
  Runs.steps_of_exec (Option.some_get rfl).symm

theorem one_taker_demo : demoTaken.cancels 0 = .run 0 (.done true) ∧ demoTakenEnd.cancels 1 = .run 0 (.done false) ∧
    demoTakenEnd.popped = [0] ∧ 0 ∉ demoTakenEnd.started :=
  ⟨rfl, rfl, rfl, (one_taker demoTaken_reachable demoTakenEnd_run 0).2.2.2.1 (.inl ⟨0, rfl⟩)⟩

end Sys

end AsyncSequential
