import AsyncSequential.Panic
import Mathlib.Logic.Basic

/-!
# A closure that the worker left behind

Dropping the worker future does not stop its blocking closure. The closure locks
the mutex without waiting and looks for the state; a join waits for the mutex and
takes the state. Whoever of the two is first, the body has run to its end in the
state that is handed out, or it never runs.
-/

namespace AsyncSequential

variable {S F R : Type*}

namespace Sys

variable {B : Bodies S F R PanicPayload} {v₀ v : S} {s s' s₀ s₁ s₂ : Sys S F R} {t : ℕ}

/-! ### The closure's task -/

/-- A closure was there before, or the worker has just spawned it. -/
theorem task_of_move {a : Act F} (m : Move B s a s') (hp : s'.pool.task = some t) :
    s.pool.task = some t ∨ (∃ raw, s.worker = .took t raw) ∧ s'.started = s.started ∧ s'.fate = s.fate := by
  cases m with
  | worker m =>
    cases m with
    | spawnBlocking hw =>
      cases hp
      exact .inr ⟨⟨_, hw⟩, rfl, rfl⟩
    | joined | joinedNone => cases hp
    | _ => exact .inl hp
  | pool m => cases m <;> grind
  | runtime m => cases m <;> grind
  | call m | taskHandle m | spawn m | spawner m | handle m => cases m <;> exact .inl hp

/-- The closure's task is the last to have started, if it has, and is not dropped. -/
structure LastClosure (s : Sys S F R) (t : ℕ) : Prop where
  last : t ∈ s.started → ∃ ts, s.started = ts ++ [t]
  fate : s.fate t ≠ .dropped

theorem lastClosure_of_reachable (h : Reachable B v₀ s) (hp : s.pool.task = some t) : s.LastClosure t := by
  refine h.invariant (P := fun u => u.pool.task = some t → u.LastClosure t) nofun
    (fun u u' a hr hP _ hs hp' => ?_) hp
  have hi := inv_of_reachable hr
  have m := move_of_step hs
  rcases task_of_move m hp' with hu | ⟨⟨raw, hw⟩, hstart, hx⟩
  · refine ⟨fun ht => ?_, fun hx => ?_⟩
    · rcases hi.custody.started_cases m with heq | ⟨w, hb, heq, -⟩
      · exact heq ▸ (hP hu).last (heq ▸ ht)
      · have hw : w = t := by
          rcases hb with ⟨raw, hb⟩ | hb
          · have hph := hi.custody.closure t hu
            rw [hb] at hph
            rcases hph with hph | hph <;> cases hph
          · exact Option.some.inj ((PoolPc.task_of_unbegun hb).symm.trans hu)
        exact ⟨u.started, hw ▸ heq⟩
    · have hchange := fateChange_of_move m t
      generalize u'.fate t = x at hchange hx
      cases hchange with
      | same => exact (hP hu).fate hx
      | dropped hw =>
        have hph := hi.custody.closure t hu
        rw [hw] at hph
        rcases hph with hph | hph <;> cases hph
      | _ => cases hx
  · have hnot : t ∉ u.started := hi.order.not_started (.inl ⟨raw, hw⟩)
    refine ⟨fun ht => absurd (hstart ▸ ht) hnot, fun hx' => ?_⟩
    rw [hx, hi.unstarted_iff.mpr hnot] at hx'
    cases hx'

/-- The closure that a worker left behind stays. -/
theorem task_of_run {C : Sys S F R → Act F → Prop} (hr : Run B C s₁ s₂)
    (hw : s₁.worker.out? = some .aborted) (hp : s₁.pool.task = some t) :
    s₂.worker.out? = some .aborted ∧ s₂.pool.task = some t := by
  refine hr.stable (P := fun u => u.worker.out? = some .aborted ∧ u.pool.task = some t)
    (fun u u' a hP hs => ?_) ⟨hw, hp⟩
  obtain ⟨hw, hp⟩ := hP
  have m := move_of_step hs
  refine ⟨out_of_move m hw, ?_⟩
  cases m with
  | worker m =>
    cases m with
    | spawnBlocking hw' | joined hw' | joinedNone hw' => rw [hw'] at hw; cases hw
    | _ => exact hp
  | pool m => cases m <;> grind
  | runtime m => cases m <;> grind
  | call m | taskHandle m | spawn m | spawner m | handle m => cases m <;> exact hp

/-! ### After the state was taken -/

/-- The state is in the mutex, or a join has it, and never both. -/
theorem Inv.value_xor (h : Inv B v₀ s) : Xor (s.value.isSome = true) (s.handle.state?.isSome = true) := by
  have hv : s.value = none ↔ s.handle.state?.isSome = true := h.custody.value
  cases hval : s.value with
  | none => exact .inr ⟨hv.mp hval, nofun⟩
  | some w => exact .inl ⟨rfl, fun hs => nomatch hval.symm.trans (hv.mpr hs)⟩

/-- From then on no body touches it, and the join keeps it. -/
theorem Inv.kept_of_run {C : Sys S F R → Act F → Prop} (h : Inv B v₀ s₁) (hv : s₁.handle.state? = some v)
    (hr : Run B C s₁ s₂) : s₂.handle.state? = some v ∧ s₂.started = s₁.started ∧ s₂.fate = s₁.fate ∧
      s₂.segs = s₁.segs := by
  refine hr.invariant (P := fun u => u.handle.state? = some v ∧ u.started = s₁.started ∧ u.fate = s₁.fate ∧
    u.segs = s₁.segs) ⟨hv, rfl, rfl, rfl⟩ fun u u' a hu hP _ hs => ?_
  obtain ⟨hv, hstart, hx, hsegs⟩ := hP
  have hi := h.run hu
  have hval : u.value = none := hi.custody.value.mpr (by rw [hv]; rfl)
  have hended : u.worker.ended? ≠ none := hi.custody.past (HandlePc.past_of_state (by rw [hv]; rfl))
  cases move_of_step hs with
  | worker m =>
    cases m with
    | startAsync hw | asyncPending hw | asyncReady hw | asyncPanicked hw | dropBody hw =>
      rw [hw] at hended
      exact absurd rfl hended
    | _ => exact ⟨hv, hstart, hx, hsegs⟩
  | pool m =>
    cases m with
    | start _ hv' | pending _ hv' | ready _ hv' | panicked _ hv' => cases hval.symm.trans hv'
    | _ => exact ⟨hv, hstart, hx, hsegs⟩
  | handle m =>
    have hcur : u'.current = some v := by rw [current_handle hi.custody m, current, hval, hv]; rfl
    have hval' : u'.value = none := by cases m <;> first | exact hval | rfl
    rw [current, hval'] at hcur
    exact ⟨hcur, by cases m <;> exact ⟨hstart, hx, hsegs⟩⟩
  | runtime m | call m | taskHandle m | spawn m | spawner m => cases m <;> exact ⟨hv, hstart, hx, hsegs⟩

/-! ### Before or never -/

/-- The body of `t` is the last that has run, to its end, from what those before it
have left, and has left `v`. -/
def RanToEnd (B : Bodies S F R PanicPayload) (v₀ : S) (s : Sys S F R) (t : ℕ) (v : S) : Prop :=
  ∃ ts f, s.started = ts ++ [t] ∧ s.body t = some f ∧
    ((∃ r, s.fate t = .completed r ∧ B.run (s.segs t) f (B.replay (s.log.trace ts) v₀) = (v, .ready r)) ∨
      ∃ p, s.fate t = .panicked p ∧ B.run (s.segs t) f (B.replay (s.log.trace ts) v₀) = (v, .panicked p))

/-- The body of `t` has not started and never does, and those that have run have left `v` without it. -/
def NeverRuns (B : Bodies S F R PanicPayload) (v₀ : S) (s : Sys S F R) (t : ℕ) (v : S) : Prop :=
  (∀ s', Run B Runs.Any s s' → t ∉ s'.started ∧ s'.segs t = 0) ∧ B.replay (s.log.trace s.started) v₀ = v

/-- When the state has been taken no body is in progress. -/
theorem Inv.sequential_of_taken (h : Inv B v₀ s) (hv : s.handle.state? = some v) :
    B.Sequential v₀ s.log v none := by
  obtain ⟨w, hcur, hseq⟩ := h.replay.sequential
  have hval : s.value = none := h.custody.value.mpr (by rw [hv]; rfl)
  obtain ⟨out, hout⟩ := Option.ne_none_iff_exists'.mp (h.custody.past (HandlePc.past_of_state (by rw [hv]; rfl)))
  have hidle : s.busy = none := by
    rw [busy_eq_pool (by rw [eq_ended hout]; rfl)]
    cases hp : s.pool with
    | running => exact absurd hval (h.custody.found (.inr (by rw [hp]; rfl)))
    | _ => rfl
  have hwv : v = w := by simpa [current, hval, hv] using hcur
  rw [hwv, ← hidle]
  exact hseq

/-- What has become of the closure's body when the state has been taken. -/
theorem LastClosure.ranToEnd (hl : s.LastClosure t) (hseq : B.Sequential v₀ s.log v none) (ht : t ∈ s.started) :
    s.RanToEnd B v₀ t v := by
  obtain ⟨ts, hts⟩ := hl.last ht
  obtain ⟨f, hf, hreal, hafter⟩ := hseq.real_last hts
  refine ⟨ts, f, hts, hf, ?_⟩
  cases hx : s.fate t with
  | unstarted => exact absurd ht ((hseq.unstarted t).mp hx)
  | running => exact nomatch (hseq.running t).mp hx
  | completed r => exact .inl ⟨r, rfl, hafter ▸ B.run_of_completed hreal hx⟩
  | panicked p => exact .inr ⟨p, rfl, hafter ▸ B.run_of_panicked hreal hx⟩
  | dropped => exact absurd hx hl.fate

/-- **A join and a closure that the worker left behind exclude each other.** The
state is always in one place, in the mutex or with the join. When the join has
taken it, the closure's body has run to its end and its whole effect is there, or
it has not started and never will; either way no body starts or goes on from then
on, and what was taken is what is returned. -/
theorem detached_excluded (h : Reachable B v₀ s₀) (hw : s₀.worker = .awaitBlocking t true)
    (hd : Sys.step B s₀ .dropWorker = some s₁) (hr : Run B Runs.Any s₁ s) :
    Xor (s.value.isSome = true) (s.handle.state?.isSome = true) ∧
    ∀ v, s.handle.state? = some v → Xor (s.RanToEnd B v₀ t v) (s.NeverRuns B v₀ t v) ∧
      ∀ s', Run B Runs.Any s s' → s'.handle.state? = some v ∧ s'.value = none ∧
        s'.started = s.started ∧ s'.fate = s.fate ∧ s'.segs = s.segs ∧
        ∀ op res, s'.handle = .returned op res → res.state = v := by
  have hone : Run B Runs.Any s₀ s₁ := .single trivial hd
  have hreach : Reachable B v₀ s := (h.trans hone).trans hr
  have hi := inv_of_reachable hreach
  have hpool : s₀.pool.task = some t := ((inv_of_reachable h).custody.awaiting t (by rw [hw]; rfl)).1
  have hleft : s₁.worker.out? = some .aborted ∧ s₁.pool.task = some t := by
    cases move_of_step hd with
    | runtime m =>
      cases m with
      | dropJoin => exact ⟨rfl, hpool⟩
      | dropRecv _ hw' | dropAsync _ hw' => cases hw.symm.trans hw'
    | call m | taskHandle m | spawn m | spawner m | handle m => cases m
  have hlast := lastClosure_of_reachable hreach (task_of_run hr hleft.1 hleft.2).2
  refine ⟨hi.value_xor, fun v hv => ⟨?_, fun s' hr' => ?_⟩⟩
  · have hseq := hi.sequential_of_taken hv
    by_cases ht : t ∈ s.started
    · exact .inl ⟨hlast.ranToEnd hseq ht, fun hn => (hn.1 s .refl).1 ht⟩
    · refine .inr ⟨⟨fun s' hr' => ?_, hseq.current⟩, fun ⟨ts, f, hts, _⟩ => ht (by simp [hts])⟩
      obtain ⟨-, hstart, -, hsegs⟩ := hi.kept_of_run hv hr'
      exact ⟨hstart ▸ ht, hsegs ▸ hseq.segs t ht⟩
  · obtain ⟨hv', hstart, hx, hsegs⟩ := hi.kept_of_run hv hr'
    refine ⟨hv', (hi.run hr').custody.value.mpr (by rw [hv']; rfl), hstart, hx, hsegs, fun op res hh => ?_⟩
    rw [hh] at hv'
    exact Option.some.inj hv'

/-- A blocking body is running, the worker waits for it, and `abort_and_join` for the worker. -/
def demoParked : Sys ℕ ℕ ℕ := (demoExec
  [(1, .spawn .worker (.blocking 0)), (1, .pollWorker), (5, .worker), (2, .pool), (1, .consume .abortAndJoin),
    (6, .handle)]).get rfl

theorem demoParked_reachable : Reachable demo 0 demoParked := demo_reachable rfl

/-- The worker is dropped. -/
def demoLeft : Sys ℕ ℕ ℕ := (step demo demoParked .dropWorker).get rfl

/-- The join finds the mutex locked, and waits for the body. -/
def demoWaited : Sys ℕ ℕ ℕ := (Runs.exec (step demo)
  (.replicate 4 .worker ++ .handle :: .replicate 3 .pool ++ .replicate 4 .handle) demoLeft).get rfl

theorem demoWaited_run : Run demo Runs.Any demoLeft demoWaited := Runs.steps_of_exec (Option.some_get _).symm

theorem detached_excluded_demo : demoWaited.fate 0 = .completed 1 ∧ demoWaited.handle.state? = some 1 ∧
    Xor (demoWaited.RanToEnd demo 0 0 1) (demoWaited.NeverRuns demo 0 0 1) :=
  ⟨rfl, rfl, ((detached_excluded demoParked_reachable rfl rfl demoWaited_run).2 1 rfl).1⟩

end Sys

end AsyncSequential
