import AsyncSequential.Interpreter

/-!
# What may still start

A body starts from the hands of the worker: the worker, or its closure, has it
and has not begun. From a point on at which the worker stops receiving, only what
it has in hand may start, and that is one task at most. `starts_of_run` says so
for any reason to stop: a condition `P` on tasks that the worker's moves can lose
but not give, and that nothing meets once a body has started.
-/

namespace AsyncSequential

variable {S F R : Type*}

namespace Sys

variable {B : Bodies S F R PanicPayload} {v₀ : S} {s s' s₁ s₂ : Sys S F R} {t : ℕ}

/-- The worker or its closure has the body of `t` and has not begun it. -/
def HasBody (s : Sys S F R) (t : ℕ) : Prop := (∃ raw, s.worker = .took t raw) ∨ s.pool.unbegun? = some t

/-- The worker has nothing in hand that may start. -/
structure HandsFree (s : Sys S F R) : Prop where
  /-- It has no body. -/
  body : ∀ t, ¬ s.HasBody t
  /-- It has no message. -/
  message : ∀ t, s.worker ≠ .dequeued t ∧ s.worker ≠ .checked t

/-- A body that is in hand was received. -/
theorem Inv.popped_of_hasBody (h : Inv B v₀ s) (hb : s.HasBody t) : t ∈ s.popped := by
  refine h.order.received t ?_
  rcases hb with ⟨raw, hw⟩ | hp
  · simp [taken, h.cells.worker t (by rw [hw]; rfl)]
  · simp [taken, h.cells.pool t (PoolPc.task_of_unbegun hp)]

/-- A body in hand was there before, or is taken from a full cell. -/
theorem hasBody_of_move {a : Act F} (m : Move B s a s') (hb : s'.HasBody t) :
    s.HasBody t ∨ s.worker = .checked t ∧ (s.tasks t).repr.Full := by
  cases m with
  | worker m =>
    cases m with
    | take hw hk =>
      rcases hb with ⟨raw, hb⟩ | hp
      · cases hb
        exact .inr ⟨hw, OnceTake.full_of_take hk⟩
      · exact .inl (.inr hp)
    | spawnBlocking hw =>
      rcases hb with ⟨raw, hb⟩ | hp
      · cases hb
      · cases hp
        exact .inl (.inl ⟨_, hw⟩)
    | corrupted | joined | joinedNone => unfold HasBody at hb ⊢; grind
    | _ => exact .inl (hb.imp (fun ⟨raw, hw⟩ => nomatch hw) id)
  | runtime m => unfold HasBody at hb ⊢; cases m <;> grind
  | pool m => unfold HasBody at hb ⊢; cases m <;> grind
  | call m | taskHandle m | spawn m | spawner m | handle m => cases m <;> exact .inl hb

/-- **A step starts nothing, or the one body that is in hand**, and then there is
nothing in hand. -/
theorem Custody.started_cases {a : Act F} (hcu : s.Custody) (m : Move B s a s') :
    s'.started = s.started ∨ ∃ t, s.HasBody t ∧ s'.started = s.started ++ [t] ∧ s'.HandsFree := by
  cases m with
  | worker m =>
    cases m with
    | @startAsync t f v hw hl hv =>
      have hp := hcu.pool_idle (by simp [hw, WorkerPc.phase]) (by simp [hw, WorkerPc.phase])
      refine .inr ⟨t, .inl ⟨_, hw⟩, rfl, ⟨?_, fun u => ⟨nofun, nofun⟩⟩⟩
      rintro u (⟨raw, hu⟩ | hu)
      · cases hu
      · have hp' : s.pool.task = some u := PoolPc.task_of_unbegun hu
        cases hp.symm.trans hp'
    | _ => exact .inl rfl
  | pool m =>
    cases m with
    | @start t f v hp hv =>
      have hph : s.worker.phase = .awaiting t ∨ s.worker.phase = .over .aborted := hcu.closure t (by rw [hp]; rfl)
      refine .inr ⟨t, .inr (by rw [hp]; rfl), rfl, ⟨?_, fun u => ⟨fun hw => ?_, fun hw => ?_⟩⟩⟩
      · rintro u (⟨raw, hw⟩ | hu)
        · have hw : s.worker = .took u raw := hw
          rcases hph with hph | hph <;> rw [hw] at hph <;> cases hph
        · cases hu
      all_goals
        rcases hph with hph | hph <;> rw [show s.worker = _ from hw] at hph <;> cases hph
    | _ => exact .inl rfl
  | runtime m | call m | taskHandle m | spawn m | spawner m | handle m => cases m <;> exact .inl rfl

/-- **At most one body starts** along a run, when a task in hand meets `P`, no step
of the run gives `P` to a task, and nothing meets it once the hands are free. -/
theorem starts_of_run {C : Sys S F R → Act F → Prop} (P : Sys S F R → ℕ → Prop) (hi : Inv B v₀ s₁)
    (hr : Run B C s₁ s₂) (hbody : ∀ s t, s.HasBody t → P s t) (hfree : ∀ s t, s.HandsFree → ¬ P s t)
    (hstep : ∀ s s' a t, Run B C s₁ s → Inv B v₀ s → C s a → Move B s a s' → P s' t → P s t) :
    (s₂.started = s₁.started ∧ ∀ t, P s₂ t → P s₁ t) ∨
      ∃ u, P s₁ u ∧ s₂.started = s₁.started ++ [u] ∧ ∀ t, ¬ P s₂ t := by
  induction hr with
  | refl => exact .inl ⟨rfl, fun _ ht => ht⟩
  | @tail s s' a hr hc hs ih =>
    have hs' := hi.run hr
    have m := move_of_step hs
    have hback : ∀ t, P s' t → P s t := fun t => hstep s s' a t hr hs' hc m
    rcases ih with ⟨hst, hP⟩ | ⟨u, hu, hst, hP⟩
    · rcases hs'.custody.started_cases m with heq | ⟨t, ht, heq, hf⟩
      · exact .inl ⟨heq.trans hst, fun t ht => hP t (hback t ht)⟩
      · exact .inr ⟨t, hP t (hbody s t ht), by rw [heq, hst], fun u => hfree s' u hf⟩
    · rcases hs'.custody.started_cases m with heq | ⟨t, ht, -⟩
      · exact .inr ⟨u, hu, heq.trans hst, fun t ht => hP t (hback t ht)⟩
      · exact absurd (hbody s t ht) (hP t)

/-- What was queued, or not accepted yet, does not start when only what was received does. -/
theorem Inv.not_started_of_starts (h : Inv B v₀ s₁)
    (hst : s₂.started = s₁.started ∨ ∃ u ∈ s₁.popped, s₂.started = s₁.started ++ [u])
    (ht : t ∈ s₁.queue ∨ t ∉ s₁.accepted) : t ∉ s₂.started := by
  have hold : t ∉ s₁.popped := by
    rcases ht with hq | hn
    · have hnd := h.order.nodup
      rw [h.order.accepted, List.append_assoc] at hnd
      exact fun hp => (List.nodup_append.mp hnd).2.2 t hp t (by simp [hq]) rfl
    · exact fun hp => hn (by rw [h.order.accepted]; simp [hp])
  have hnot : t ∉ s₁.started := fun hs => hold (h.mem_popped_of_started hs)
  rcases hst with heq | ⟨u, hu, heq⟩
  · rwa [heq]
  · rw [heq, List.mem_append, List.mem_singleton]
    rintro (hs | rfl)
    · exact hnot hs
    · exact hold hu

end Sys

end AsyncSequential
