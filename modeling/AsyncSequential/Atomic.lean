import AsyncSequential.Detached
import AsyncSequential.Lib.Executor
import AsyncSequential.Takers

/-!
# Bodies are atomic

The worker, its closure, the cancelling parties and the runtime interleave bodies
with everything else, segment by segment. `executor` reads a state as one of an
executor that runs bodies at once: a body in progress has not run yet, and it is
the end of its last segment that counts. Each step is one event of that executor,
or none (`Inv.executor_step`), so every run is one of its runs, and what handles,
`cancel()` calls and joins report is what has happened there: `refines_executor`.
-/

namespace AsyncSequential

variable {S F R : Type*}

namespace Sys

variable {B : Bodies S F R PanicPayload} {v₀ : S} {s s' : Sys S F R} {t : ℕ}

/-! ### The executor that a state stands for -/

/-- The body has been started and has not ended. -/
def inProgress (s : Sys S F R) (t : ℕ) : Bool := s.fate t matches .running

/-- Nobody has taken the task, or the worker or its closure has it and has not begun it. -/
def MayStart (s : Sys S F R) (t : ℕ) : Prop := (s.tasks t).takers = [] ∨ s.HasBody t

open Classical in
/-- What has become of the task: it waits as long as it may start, and while its body is in progress. -/
noncomputable def outcome (s : Sys S F R) (t : ℕ) : Outcome R PanicPayload :=
  match s.fate t with
  | .unstarted => if s.MayStart t then .waiting else .withdrawn
  | .running => .waiting
  | .completed r => .completed r
  | .panicked p => .panicked p
  | .dropped => .dropped

/-- The value that the bodies that have ended have left. -/
def settledValue (B : Bodies S F R PanicPayload) (v₀ : S) (s : Sys S F R) : S :=
  B.replay (s.log.trace (s.started.filter fun t => !s.inProgress t)) v₀

/-- The executor that a state stands for. -/
noncomputable def executor (B : Bodies S F R PanicPayload) (v₀ : S) (s : Sys S F R) :
    Executor ℕ S F R PanicPayload where
  value := s.settledValue B v₀
  accepted := s.accepted.filterMap fun t => (s.body t).map fun f => (t, f)
  outcome := s.outcome

/-- The executor mirrors a step from `s` to `s'`: by one event, or by none. -/
def Mirrored (B : Bodies S F R PanicPayload) (v₀ : S) (s s' : Sys S F R) : Prop :=
  s'.executor B v₀ = s.executor B v₀ ∨ ∃ ev, (s.executor B v₀).next B ev = some (s'.executor B v₀)

theorem executor_init (v : S) : (init v : Sys S F R).executor B v = .init v := by
  have hout : (init v : Sys S F R).outcome = fun _ => .waiting := by
    funext t
    simp [outcome, MayStart, init, Task.absent]
  simp only [executor, hout]
  rfl

theorem outcome_waiting (hx : s.fate t = .unstarted) (hm : s.MayStart t) : s.outcome t = .waiting := by
  simp only [outcome, hx]
  exact if_pos hm

theorem outcome_withdrawn (hx : s.fate t = .unstarted) (hm : ¬ s.MayStart t) : s.outcome t = .withdrawn := by
  simp only [outcome, hx]
  exact if_neg hm

theorem outcome_congr (hf : s'.fate t = s.fate t) (hm : s'.MayStart t ↔ s.MayStart t) :
    s'.outcome t = s.outcome t := by
  cases hx : s.fate t with
  | unstarted =>
    by_cases h : s.MayStart t
    · rw [outcome_waiting hx h, outcome_waiting (hf.trans hx) (hm.mpr h)]
    · rw [outcome_withdrawn hx h, outcome_withdrawn (hf.trans hx) (mt hm.mp h)]
  | _ => simp only [outcome, hf, hx]

theorem waits_executor_iff {u : ℕ} : (s.executor B v₀).waits u = true ↔ s.outcome u = .waiting := by
  simp only [Executor.waits, executor]
  split <;> simp_all

/-- The accepted tasks have bodies. -/
theorem mem_executor (h : Inv B v₀ s) (ht : t ∈ s.accepted) : t ∈ (s.executor B v₀).accepted.map Prod.fst := by
  obtain ⟨f, hf⟩ := Option.ne_none_iff_exists'.mp (h.order.body t ht)
  simp only [executor, List.mem_map, List.mem_filterMap]
  exact ⟨(t, f), ⟨t, ht, by rw [hf]; rfl⟩, rfl⟩

/-! ### The shared value -/

theorem settledValue_congr
    (hst : (s'.started.filter fun t => !s'.inProgress t) = s.started.filter fun t => !s.inProgress t)
    (hx : ∀ u ∈ s.started, s.inProgress u = false → s'.log.execution u = s.log.execution u) :
    s'.settledValue B v₀ = s.settledValue B v₀ := by
  rw [settledValue, hst, settledValue]
  refine congrArg (B.replay · v₀) (Log.trace_congr fun u hu => ?_)
  obtain ⟨hs, hp⟩ := List.mem_filter.mp hu
  exact hx u hs (by simpa using hp)

/-- When no body is in progress it is the shared state. -/
theorem settledValue_of_idle {v : S} (hseq : B.Sequential v₀ s.log v none) : s.settledValue B v₀ = v := by
  have hall : (s.started.filter fun t => !s.inProgress t) = s.started := by
    refine List.filter_eq_self.mpr fun t _ => ?_
    cases hx : s.fate t with
    | running =>
      obtain ⟨f, hf⟩ := (hseq.running t).mp hx
      cases hf
    | _ => simp [inProgress, hx]
  rw [settledValue, hall]
  exact hseq.current

/-- Otherwise the body in progress has come from it to the shared state. -/
theorem run_settledValue {v : S} {f : F} (hseq : B.Sequential v₀ s.log v (some (t, f))) :
    ∃ f₀, s.body t = some f₀ ∧ B.run (s.segs t) f₀ (s.settledValue B v₀) = (v, .pending f) := by
  obtain ⟨ts, f₀, hts, hf₀, hrun⟩ := hseq.cont t f rfl
  have hx : s.fate t = .running := (hseq.running t).mpr ⟨f, rfl⟩
  have hall : (s.started.filter fun t => !s.inProgress t) = ts := by
    have hts' : s.started = ts ++ [t] := hts
    rw [hts', List.filter_append, List.filter_eq_self.mpr fun u hu => ?_]
    · simp [inProgress, hx]
    · obtain ⟨r, hr⟩ := hseq.before ts t hts u hu
      have hr : s.fate u = .completed r := hr
      simp [inProgress, hr]
  refine ⟨f₀, hf₀, ?_⟩
  rw [settledValue, hall]
  exact hrun

/-! ### Steps that the executor does not see -/

/-- What the executor is read from stays, but for who may start. -/
structure SameTasks (s s' : Sys S F R) : Prop where
  accepted : s'.accepted = s.accepted
  started : s'.started = s.started
  body : s'.body = s.body
  segs : s'.segs = s.segs
  fate : s'.fate = s.fate

theorem SameTasks.settledValue (h : SameTasks s s') : s'.settledValue B v₀ = s.settledValue B v₀ := by
  refine settledValue_congr ?_ fun u _ _ => ?_
  · simp only [h.started, inProgress, h.fate]
  · simp only [log, Log.execution, h.body, h.segs, h.fate]

/-- A step after which the same tasks may start. -/
theorem SameTasks.executor_eq (h : SameTasks s s') (hm : ∀ u, s'.MayStart u ↔ s.MayStart u) :
    s'.executor B v₀ = s.executor B v₀ := by
  have hout : s'.outcome = s.outcome := funext fun u => outcome_congr (congrFun h.fate u) (hm u)
  simp only [executor, h.settledValue, h.accepted, h.body, hout]

theorem mayStart_congr (ht : (s'.tasks t).takers = (s.tasks t).takers) (hb : s'.HasBody t ↔ s.HasBody t) :
    s'.MayStart t ↔ s.MayStart t := by
  rw [MayStart, MayStart, ht, hb]

theorem hasBody_congr (hw : ∀ raw, s'.worker = .took t raw ↔ s.worker = .took t raw)
    (hp : s'.pool.unbegun? = s.pool.unbegun?) : s'.HasBody t ↔ s.HasBody t := by
  rw [HasBody, HasBody, hp, exists_congr hw]

theorem takers_update {f : ℕ → Task F R} {k : Task F R} (hk : k.takers = (f t).takers) (u : ℕ) :
    (Function.update f t k u).takers = (f u).takers := by
  rw [Function.update_apply]
  split_ifs with hu
  · rw [hk, hu]
  · rfl

/-! ### Steps that withdraw a task -/

/-- A task that may start, and then may not, is withdrawn. -/
theorem SameTasks.next_withdraw (h : SameTasks s s') (hi : Inv B v₀ s) (ha : t ∈ s.accepted)
    (hx : s.fate t = .unstarted) (hm : s.MayStart t) (hm' : ¬ s'.MayStart t)
    (hne : ∀ u, u ≠ t → (s'.MayStart u ↔ s.MayStart u)) :
    (s.executor B v₀).next B (.withdraw t) = some (s'.executor B v₀) := by
  rw [Executor.next_withdraw (mem_executor hi ha) (waits_executor_iff.mpr (outcome_waiting hx hm))]
  have hout : s'.outcome = Function.update s.outcome t .withdrawn := by
    funext u
    rw [Function.update_apply]
    split_ifs with hu
    · rw [hu, outcome_withdrawn ((congrFun h.fate t).trans hx) hm']
    · exact outcome_congr (congrFun h.fate u) (hne u hu)
  simp only [Executor.settle, executor, h.settledValue, h.accepted, h.body, hout]

/-! ### Steps that end a body -/

/-- While a body is in progress nothing else is about to start, and the worker has not returned. -/
theorem handsFree_of_busy (h : Inv B v₀ s) {f : F} (hb : s.busy = some (t, f)) :
    s.HandsFree ∧ s.worker.out? ≠ some .ok := by
  rcases h.custody.busy_eq_some.mp hb with hw | hp
  · have hguard : s.worker.phase = .guarding := by
      cases hpc : s.worker <;> rw [hpc] at hw <;> cases hw <;> rfl
    have hidle := h.custody.pool_idle (by simp [hguard]) (by simp [hguard])
    refine ⟨⟨fun u => ?_, fun u => ⟨fun hu => ?_, fun hu => ?_⟩⟩, fun ho => ?_⟩
    · rintro (⟨raw, hu⟩ | hu)
      · cases (hu ▸ hguard : (WorkerPc.took u raw : WorkerPc F R).phase = .guarding)
      · cases (unbegun?_of_idle hidle).symm.trans hu
    · rw [hu] at hguard; cases hguard
    · rw [hu] at hguard; cases hguard
    · cases hpc : s.worker <;> rw [hpc] at hguard ho <;> cases hguard <;> cases ho
  · have hpc : s.pool = .running t f := by
      cases hpc : s.pool <;> rw [hpc] at hp <;> cases hp
      rfl
    have hphase : s.worker.phase = .awaiting t ∨ s.worker.phase = .over .aborted :=
      h.custody.closure t (by rw [hpc]; rfl)
    refine ⟨⟨fun u => ?_, fun u => ⟨fun hu => ?_, fun hu => ?_⟩⟩, fun ho => ?_⟩
    · rintro (⟨raw, hu⟩ | hu)
      · rw [hu] at hphase; rcases hphase with hu | hu <;> cases hu
      · rw [hpc] at hu; cases hu
    · rw [hu] at hphase; rcases hphase with hu | hu <;> cases hu
    · rw [hu] at hphase; rcases hphase with hu | hu <;> cases hu
    · cases hw : s.worker <;> rw [hw] at hphase ho <;> cases ho <;> rcases hphase with hu | hu <;> cases hu

/-- While a body is in progress no task that was received waits but its own. -/
theorem not_waiting_of_popped (h : Inv B v₀ s) {f : F} (hb : s.busy = some (t, f)) {u : ℕ} (hu : u ∈ s.popped)
    (hne : u ≠ t) : s.outcome u ≠ .waiting := by
  obtain ⟨hfree, hout⟩ := handsFree_of_busy h hb
  obtain ⟨v, -, hseq⟩ := h.replay.sequential
  rw [hb] at hseq
  have htaken : ¬ s.MayStart u := by
    rintro (ht | hbody)
    · rcases h.ending.untaken u hu (.inl ht) with hw | ⟨ho, -⟩
      · exact hw.elim (hfree.message u).1 (hfree.message u).2
      · exact hout ho
    · exact hfree.body u hbody
  cases hx : s.fate u with
  | unstarted => rw [outcome_withdrawn hx htaken]; nofun
  | running =>
    obtain ⟨f', hf'⟩ := (hseq.running u).mp hx
    cases hf'
    exact absurd rfl hne
  | _ => simp [outcome, hx]

/-- And no body has panicked or been dropped. -/
theorem halted_of_busy (h : Inv B v₀ s) {f : F} (hb : s.busy = some (t, f)) : (s.executor B v₀).halted = false := by
  obtain ⟨v, -, hseq⟩ := h.replay.sequential
  rw [hb] at hseq
  obtain ⟨ts, f₀, hts, -, -⟩ := hseq.cont t f rfl
  have hrun : s.fate t = .running := (hseq.running t).mpr ⟨f, rfl⟩
  refine List.any_eq_false.mpr fun ⟨u, g⟩ _ => ?_
  have hfate : s.fate u = .unstarted ∨ s.fate u = .running ∨ ∃ r, s.fate u = .completed r := by
    by_cases hu : u ∈ s.started
    · have hu' : u ∈ ts ++ [t] := hts ▸ hu
      rcases List.mem_append.mp hu' with hu' | hu'
      · exact .inr (.inr (hseq.before ts t hts u hu'))
      · rw [List.mem_singleton.mp hu']
        exact .inr (.inl hrun)
    · exact .inl (h.unstarted_iff.mpr hu)
  rcases hfate with hx | hx | ⟨r, hx⟩
  · by_cases hm : s.MayStart u
    · simp [executor, outcome_waiting hx hm]
    · simp [executor, outcome_withdrawn hx hm]
  · simp [executor, outcome, hx]
  · simp [executor, outcome, hx]

/-- It is the turn of the body in progress, and it has come from the settled value to the shared state. -/
theorem turn_of_busy (h : Inv B v₀ s) {f : F} (hb : s.busy = some (t, f)) :
    ∃ f₀, (s.executor B v₀).Turn t f₀ ∧ ∃ v, s.current = some v ∧
      B.run (s.segs t) f₀ (s.executor B v₀).value = (v, .pending f) := by
  obtain ⟨v, hv, hseq⟩ := h.replay.sequential
  rw [hb] at hseq
  obtain ⟨f₀, hf₀, hrun⟩ := run_settledValue hseq
  have hx : s.fate t = .running := (hseq.running t).mpr ⟨f, rfl⟩
  have hstarted : t ∈ s.started := h.started_of_fate (by rw [hx]; nofun)
  refine ⟨f₀, ⟨?_, waits_executor_iff.mpr (by simp [outcome, hx]), halted_of_busy h hb⟩, v, hv, hrun⟩
  obtain ⟨p₁, p₂, hp⟩ := List.append_of_mem (h.mem_popped_of_started hstarted)
  have hn : s.popped.Nodup := by
    have hn := h.order.nodup
    rw [h.order.accepted, List.append_assoc] at hn
    exact (List.nodup_append.mp hn).1
  refine ⟨p₁.filterMap fun u => (s.body u).map fun f => (u, f),
    (p₂ ++ s.drained ++ s.queue).filterMap fun u => (s.body u).map fun f => (u, f), ?_, ?_⟩
  · simp only [executor, h.order.accepted, hp, List.filterMap_append, List.append_assoc, List.filterMap_cons, hf₀,
      Option.map_some, List.cons_append]
  · intro u hu
    obtain ⟨w, hw, hwf⟩ := List.mem_filterMap.mp hu
    obtain ⟨g, -, rfl⟩ := Option.map_eq_some_iff.mp hwf
    have hne : w ≠ t := by
      rintro rfl
      rw [hp] at hn
      exact (List.nodup_append.mp hn).2.2 w hw w List.mem_cons_self rfl
    have hno := not_waiting_of_popped h hb (by rw [hp]; exact List.mem_append_left _ hw) hne
    exact Bool.eq_false_iff.mpr fun hc => hno (waits_executor_iff.mp hc)

/-- A step in which the body in progress ends and nothing else happens to a body. -/
structure EndsBody (s s' : Sys S F R) (t : ℕ) (x : Fate R PanicPayload) (v : S) : Prop where
  accepted : s'.accepted = s.accepted
  body : s'.body = s.body
  fate : s'.fate = Function.update s.fate t x
  mayStart : ∀ u, s'.MayStart u ↔ s.MayStart u
  busy : s'.busy = none
  current : s'.current = some v

/-- It settles the body. -/
theorem EndsBody.executor_eq {x : Fate R PanicPayload} {v : S} {o : Outcome R PanicPayload}
    (h : EndsBody s s' t x v) (hi : Inv B v₀ s') (ho : s'.outcome t = o) :
    s'.executor B v₀ = (s.executor B v₀).settle t v o := by
  have hval : s'.settledValue B v₀ = v := by
    obtain ⟨w, hw, hseq⟩ := hi.replay.sequential
    cases hw.symm.trans h.current
    rw [h.busy] at hseq
    exact settledValue_of_idle hseq
  have hout : s'.outcome = Function.update s.outcome t o := by
    funext u
    rw [Function.update_apply]
    split_ifs with hu
    · rw [hu, ho]
    · exact outcome_congr (by rw [h.fate, Function.update_of_ne hu]) (h.mayStart u)
  simp only [Executor.settle, executor, hval, h.accepted, h.body, hout]

/-- The body came to its end: it ran. -/
theorem EndsBody.mirrored_run {f : F} {v v' : S} {x : Fate R PanicPayload} {o : Outcome R PanicPayload}
    (h : EndsBody s s' t x v') (hi : Inv B v₀ s) (hi' : Inv B v₀ s') (hb : s.busy = some (t, f))
    (hv : s.current = some v) (ho : s'.outcome t = o)
    (hp : (∃ r, B.poll f v = (v', .ready r) ∧ o = .completed r) ∨ ∃ p, B.poll f v = (v', .panicked p) ∧ o = .panicked p) :
    Mirrored B v₀ s s' := by
  obtain ⟨f₀, hturn, w, hw, hrun⟩ := turn_of_busy hi hb
  cases hw.symm.trans hv
  have hlast := B.run_succ_of_pending hrun
  rw [← hlast] at hp
  refine .inr ⟨.run (s.segs t + 1), ?_⟩
  rw [Executor.next_run hturn hp]
  exact congrArg some (h.executor_eq hi' ho).symm

/-- The body returned. -/
theorem EndsBody.mirrored_ready {f : F} {v v' : S} {r : R} (h : EndsBody s s' t (.completed r) v') (hi : Inv B v₀ s)
    (hi' : Inv B v₀ s') (hb : s.busy = some (t, f)) (hv : s.current = some v) (hp : B.poll f v = (v', .ready r)) :
    Mirrored B v₀ s s' :=
  h.mirrored_run hi hi' hb hv (by simp [outcome, h.fate]) (.inl ⟨r, hp, rfl⟩)

/-- The body panicked. -/
theorem EndsBody.mirrored_panicked {f : F} {v v' : S} {p : PanicPayload} (h : EndsBody s s' t (.panicked p) v')
    (hi : Inv B v₀ s) (hi' : Inv B v₀ s') (hb : s.busy = some (t, f)) (hv : s.current = some v)
    (hp : B.poll f v = (v', .panicked p)) : Mirrored B v₀ s s' :=
  h.mirrored_run hi hi' hb hv (by simp [outcome, h.fate]) (.inr ⟨p, hp, rfl⟩)

/-- The body was dropped: it was abandoned after its last segment. -/
theorem EndsBody.mirrored_dropped {f : F} {v : S} (h : EndsBody s s' t .dropped (B.drop f v)) (hi : Inv B v₀ s)
    (hi' : Inv B v₀ s') (hb : s.busy = some (t, f)) (hv : s.current = some v) : Mirrored B v₀ s s' := by
  obtain ⟨f₀, hturn, w, hw, hrun⟩ := turn_of_busy hi hb
  cases hw.symm.trans hv
  refine .inr ⟨.abandon (s.segs t), ?_⟩
  rw [Executor.next_abandon hturn hrun]
  exact congrArg some (h.executor_eq hi' (by simp [outcome, h.fate])).symm

/-! ### Steps that the executor sees as nothing, though a body runs -/

/-- A body starts, or a segment of it leaves it suspended. -/
theorem executor_eq_of_running (hacc : s'.accepted = s.accepted) (hbody : s'.body = s.body)
    (hfate : s'.fate = Function.update s.fate t .running) (hw : s.outcome t = .waiting)
    (hst : s'.started = s.started ∨ s'.started = s.started ++ [t]) (hsegs : ∀ u, u ≠ t → s'.segs u = s.segs u)
    (hx : t ∈ s.started → s.fate t = .running) (hm : ∀ u, u ≠ t → (s'.MayStart u ↔ s.MayStart u)) :
    s'.executor B v₀ = s.executor B v₀ := by
  have hrun : s'.inProgress t = true := by simp [inProgress, hfate]
  have hprog : ∀ u ∈ s.started, s'.inProgress u = s.inProgress u := fun u hu => by
    by_cases hut : u = t
    · rw [hut, hrun]
      simp [inProgress, hx (hut ▸ hu)]
    · simp only [inProgress, hfate, Function.update_of_ne hut]
  have hfilter : (s'.started.filter fun u => !s'.inProgress u) = s.started.filter fun u => !s.inProgress u := by
    have hold : (s.started.filter fun u => !s'.inProgress u) = s.started.filter fun u => !s.inProgress u :=
      List.filter_congr fun u hu => by rw [hprog u hu]
    rcases hst with hst | hst
    · rw [hst, hold]
    · rw [hst, List.filter_append, hold]
      simp [hrun]
  have hval : s'.settledValue B v₀ = s.settledValue B v₀ := by
    refine settledValue_congr hfilter fun u hu hp => ?_
    have hut : u ≠ t := by
      rintro rfl
      simp [inProgress, hx hu] at hp
    simp only [log, Log.execution, hbody, hsegs u hut, hfate, Function.update_of_ne hut]
  have hout : s'.outcome = s.outcome := by
    funext u
    by_cases hut : u = t
    · rw [hut, hw]
      simp [outcome, hfate]
    · exact outcome_congr (by rw [hfate, Function.update_of_ne hut]) (hm u hut)
  simp only [executor, hval, hacc, hbody, hout]

/-! ### One step -/

theorem SameTasks.mirrored (h : SameTasks s s') (hw : ∀ u raw, s'.worker = .took u raw ↔ s.worker = .took u raw)
    (hp : s'.pool.unbegun? = s.pool.unbegun?) (ht : ∀ u, (s'.tasks u).takers = (s.tasks u).takers) :
    Mirrored B v₀ s s' :=
  .inl (h.executor_eq fun u => mayStart_congr (ht u) (hasBody_congr (hw u) hp))

/-- A body in hand is the worker's. -/
theorem Inv.takers_of_hasBody (h : Inv B v₀ s) (hb : s.HasBody t) : (s.tasks t).takers = [.worker] := by
  rcases hb with ⟨raw, hw⟩ | hp
  · exact h.cells.worker t (by rw [hw]; rfl)
  · exact h.cells.pool t (PoolPc.task_of_unbegun hp)

theorem Inv.mem_accepted_of_popped (h : Inv B v₀ s) (ht : t ∈ s.popped) : t ∈ s.accepted := by
  rw [h.order.accepted, List.append_assoc]
  exact List.mem_append_left _ ht

/-- A body in hand has not begun. -/
theorem Inv.unstarted_of_hasBody (h : Inv B v₀ s) (hb : s.HasBody t) : s.fate t = .unstarted :=
  h.unstarted_iff.mpr (h.order.not_started hb)

/-- A body is taken from its cell, and not by the worker: its task is withdrawn. -/
theorem Inv.mirrored_of_taken (h : Inv B v₀ s) (hs : SameTasks s s') (hfull : (s.tasks t).repr.Full)
    (ht : (s'.tasks t).takers ≠ []) (hne : ∀ u, u ≠ t → (s'.tasks u).takers = (s.tasks u).takers)
    (hb : ∀ u, s'.HasBody u ↔ s.HasBody u) : Mirrored B v₀ s s' := by
  have hnil := ((h.cells.cell t).full hfull).1
  have hbody : ¬ s.HasBody t := fun hb => by cases hnil.symm.trans (h.takers_of_hasBody hb)
  have hcan : (s.tasks t).cancellable = true := by
    by_contra hc
    exact ((h.cells.cell t).rejected (Bool.eq_false_iff.mpr hc)).1 hfull
  have hfate : s.fate t = .unstarted := h.fate_of_takers (by rw [hnil]; nofun)
  refine .inr ⟨_, hs.next_withdraw h ((h.ending.accepted t).mpr hcan) hfate (.inl hnil) ?_ fun u hu =>
    mayStart_congr (hne u hu) (hb u)⟩
  rintro (hn | hb')
  · exact ht hn
  · exact hbody ((hb t).mp hb')

/-- A body in hand is dropped unbegun: its task is withdrawn. -/
theorem Inv.mirrored_of_unbegun (h : Inv B v₀ s) (hs : SameTasks s s') (hb : s.HasBody t) (hb' : ¬ s'.HasBody t)
    (ht : ∀ u, (s'.tasks u).takers = (s.tasks u).takers) (hne : ∀ u, u ≠ t → (s'.HasBody u ↔ s.HasBody u)) :
    Mirrored B v₀ s s' := by
  refine .inr ⟨_, hs.next_withdraw h (h.mem_accepted_of_popped (h.popped_of_hasBody hb)) (h.unstarted_of_hasBody hb)
    (.inr hb) ?_ fun u hu => mayStart_congr (ht u) (hne u hu)⟩
  rintro (hn | hn)
  · rw [ht t, h.takers_of_hasBody hb] at hn
    cases hn
  · exact hb' hn

/-- The body in progress is suspended again. -/
theorem Inv.mirrored_of_pending (h : Inv B v₀ s) {f : F} (hb : s.busy = some (t, f)) (hacc : s'.accepted = s.accepted)
    (hbody : s'.body = s.body) (hfate : s'.fate = Function.update s.fate t .running)
    (hst : s'.started = s.started) (hsegs : ∀ u, u ≠ t → s'.segs u = s.segs u)
    (hm : ∀ u, s'.MayStart u ↔ s.MayStart u) : Mirrored B v₀ s s' := by
  obtain ⟨v, -, hseq⟩ := h.replay.sequential
  have hx : s.fate t = .running := (hseq.running t).mpr ⟨f, hb⟩
  exact .inl (executor_eq_of_running hacc hbody hfate (by simp [outcome, hx]) (.inl hst) hsegs (fun _ => hx)
    fun u _ => hm u)

/-- A body in hand begins. -/
theorem Inv.mirrored_of_start (h : Inv B v₀ s) (hb : s.HasBody t) (hacc : s'.accepted = s.accepted)
    (hbody : s'.body = s.body) (hfate : s'.fate = Function.update s.fate t .running)
    (hst : s'.started = s.started ++ [t]) (hsegs : s'.segs = s.segs)
    (hm : ∀ u, u ≠ t → (s'.MayStart u ↔ s.MayStart u)) : Mirrored B v₀ s s' := by
  have hx := h.unstarted_of_hasBody hb
  exact .inl (executor_eq_of_running hacc hbody hfate (outcome_waiting hx (.inr hb)) (.inr hst)
    (fun u _ => congrFun hsegs u) (fun ht => absurd ht (h.order.not_started hb)) hm)

theorem Inv.mirrored_worker (h : Inv B v₀ s) (h' : Inv B v₀ s') (m : WorkerMove B s s') : Mirrored B v₀ s s' := by
  have hsame : ∀ {s' : Sys S F R}, SameTasks s s' → (∀ u raw, s'.worker ≠ .took u raw) →
      (∀ u raw, s.worker ≠ .took u raw) → s'.pool.unbegun? = s.pool.unbegun? →
      (∀ u, (s'.tasks u).takers = (s.tasks u).takers) → Mirrored B v₀ s s' := fun hs hw' hw hp ht =>
    hs.mirrored (fun u raw => iff_of_false (hw' u raw) (hw u raw)) hp ht
  -- a worker that has a body in hand, or is in one, has no closure
  have hidle : (∀ u, s.worker.phase ≠ .awaiting u) → s.worker.phase ≠ .over .aborted → s.pool.task = none :=
    h.custody.pool_idle
  cases m with
  | @take t raw hw hk =>
    have hfull := OnceTake.full_of_take hk
    have hnil := ((h.cells.cell t).full hfull).1
    refine .inl (SameTasks.executor_eq ⟨rfl, rfl, rfl, rfl, rfl⟩ fun u => ?_)
    by_cases hu : u = t
    · rw [hu]
      exact iff_of_true (.inr (.inl ⟨raw, rfl⟩)) (.inl hnil)
    · simp [MayStart, HasBody, hw, hu, Ne.symm hu]
  | @spawnBlocking t f hw =>
    have hp := unbegun?_of_idle (hidle (by simp [hw, WorkerPc.phase]) (by simp [hw, WorkerPc.phase]))
    refine .inl (SameTasks.executor_eq ⟨rfl, rfl, rfl, rfl, rfl⟩ fun u => mayStart_congr rfl ?_)
    rw [HasBody, HasBody, hw, hp]
    simp [PoolPc.unbegun?]
  | @startAsync t f v hw hl hv =>
    refine h.mirrored_of_start (.inl ⟨_, hw⟩) rfl rfl rfl rfl rfl fun u hu => mayStart_congr rfl ?_
    simp [HasBody, hw, Ne.symm hu]
  | @failAsync t f hw hl =>
    have hp := unbegun?_of_idle (hidle (by simp [hw, WorkerPc.phase]) (by simp [hw, WorkerPc.phase]))
    refine h.mirrored_of_unbegun ⟨rfl, rfl, rfl, rfl, rfl⟩ (.inl ⟨_, hw⟩) ?_ (fun u => rfl) fun u hu => ?_
    · simp [HasBody, hp]
    · simp [HasBody, hw, Ne.symm hu]
  | @asyncPending t f f' v v' hw hv hp =>
    refine h.mirrored_of_pending (busy_eq_worker (by rw [hw]; rfl)) rfl rfl rfl rfl (fun u hu => ?_) fun u => ?_
    · exact Function.update_of_ne hu ..
    · exact mayStart_congr rfl (hasBody_congr (by simp [hw]) rfl)
  | @asyncReady t f v v' r hw hv hp =>
    have hpool := hidle (by simp [hw, WorkerPc.phase]) (by simp [hw, WorkerPc.phase])
    exact EndsBody.mirrored_ready
      ⟨rfl, rfl, rfl, fun u => mayStart_congr rfl (hasBody_congr (by simp [hw]) rfl), PoolPc.body?_of_idle hpool, rfl⟩
      h h' (busy_eq_worker (by rw [hw]; rfl)) (by simp [current, hv]) hp
  | @asyncPanicked t f v v' p hw hv hp =>
    have hpool := hidle (by simp [hw, WorkerPc.phase]) (by simp [hw, WorkerPc.phase])
    exact EndsBody.mirrored_panicked
      ⟨rfl, rfl, rfl, fun u => mayStart_congr rfl (hasBody_congr (by simp [hw]) rfl), PoolPc.body?_of_idle hpool, rfl⟩
      h h' (busy_eq_worker (by rw [hw]; rfl)) (by simp [current, hv]) hp
  | @dropBody t f hw =>
    have hpool := hidle (by simp [hw, WorkerPc.phase]) (by simp [hw, WorkerPc.phase])
    obtain ⟨v, hv⟩ := Option.ne_none_iff_exists'.mp (h.custody.value_ne_none (by rw [hw]; rfl))
    exact EndsBody.mirrored_dropped (f := f) (v := v)
      ⟨rfl, rfl, rfl, fun u => mayStart_congr rfl (hasBody_congr (by simp [hw]) rfl), PoolPc.body?_of_idle hpool,
        by simp [current, hv]⟩
      h h' (busy_eq_worker (by rw [hw]; rfl)) (by simp [current, hv])
  | @lastMessage t todo out hw ho hk =>
    exact h.mirrored_of_taken ⟨rfl, rfl, rfl, rfl, rfl⟩ hk (by simp [Task.dealloc])
      (fun u hu => by simp [hu]) fun u => hasBody_congr (by simp [hw]) rfl
  | @drainLast t q todo out hw hq ho hk =>
    exact h.mirrored_of_taken ⟨rfl, rfl, rfl, rfl, rfl⟩ hk (by simp [Task.dealloc])
      (fun u hu => by simp [hu]) fun u => hasBody_congr (by simp [hw]) rfl
  | joined hw hp =>
    exact hsame ⟨rfl, rfl, rfl, rfl, rfl⟩ (by simp) (by simp [hw]) (by rw [hp]; rfl) fun u => rfl
  | joinedNone hw hp =>
    exact hsame ⟨rfl, rfl, rfl, rfl, rfl⟩ (by simp) (by simp [hw])
      (by rcases hp with hp | hp <;> rw [hp] <;> rfl) fun u => rfl
  | corrupted hw | recv hw | recvNone hw | «break» hw | check hw | asyncUnlock hw | notJoined hw | setMsg hw
  | storePanicked hw | dropGuard hw | closeRx hw | drained hw | ended hw =>
    exact hsame ⟨rfl, rfl, rfl, rfl, rfl⟩ (by simp [*]) (by simp [hw]) rfl fun u => rfl
  | skip hw | asyncSend hw | asyncUnwind hw | succeeded hw | sendPanic hw | dropBodyTx hw | message hw | resultTx hw
  | panicTx hw | drain hw =>
    exact hsame ⟨rfl, rfl, rfl, rfl, rfl⟩ (by simp) (by simp [hw]) rfl (takers_update rfl)

/-- When the closure no longer has the body that it had not begun, no body is in hand. -/
theorem not_hasBody_of_lost (hno : ∀ u raw, s.worker ≠ .took u raw) (hw : s'.worker = s.worker)
    (hp' : s'.pool.unbegun? = none) (u : ℕ) : ¬ s'.HasBody u := by
  rintro (⟨raw, hu⟩ | hu)
  · exact hno u raw (hw.symm.trans hu)
  · cases hp'.symm.trans hu

theorem hasBody_of_lost (hno : ∀ u raw, s.worker ≠ .took u raw) (hw : s'.worker = s.worker)
    (hp : s.pool.unbegun? = some t) (hp' : s'.pool.unbegun? = none) {u : ℕ} (hu : u ≠ t) :
    s'.HasBody u ↔ s.HasBody u := by
  refine iff_of_false (not_hasBody_of_lost hno hw hp' u) ?_
  rintro (⟨raw, hw⟩ | hu')
  · exact hno u raw hw
  · exact hu (Option.some.inj (hu'.symm.trans hp))

/-- It is dropped unbegun. -/
theorem Inv.mirrored_of_lost (h : Inv B v₀ s) (hs : SameTasks s s') (hno : ∀ u raw, s.worker ≠ .took u raw)
    (hw : s'.worker = s.worker) (hp : s.pool.unbegun? = some t) (hp' : s'.pool.unbegun? = none)
    (ht : ∀ u, (s'.tasks u).takers = (s.tasks u).takers) : Mirrored B v₀ s s' :=
  h.mirrored_of_unbegun hs (.inr hp) (not_hasBody_of_lost hno hw hp' t) ht fun _ hu => hasBody_of_lost hno hw hp hp' hu

/-- While there is a closure the worker has no body in hand. -/
theorem Custody.not_took (h : s.Custody) (hp : s.pool.task ≠ none) (u : ℕ) (raw : RawTask F) :
    s.worker ≠ .took u raw := by
  intro hw
  have hcalm := calm_eq_false h hp
  rw [hw] at hcalm
  cases hcalm

theorem Inv.mirrored_pool (h : Inv B v₀ s) (h' : Inv B v₀ s') (m : PoolMove B s s') : Mirrored B v₀ s s' := by
  have hno := h.custody.not_took m.task_ne_none
  have hbody := body?_eq_none h.custody m.task_ne_none
  cases m with
  | lock hp hl =>
    exact SameTasks.mirrored ⟨rfl, rfl, rfl, rfl, rfl⟩ (fun u raw => .rfl) (by rw [hp]; rfl) fun u => rfl
  | @lockFailed t f hp _ | @stateAbsent t f hp _ =>
    exact h.mirrored_of_lost (t := t) ⟨rfl, rfl, rfl, rfl, rfl⟩ hno rfl (by rw [hp]; rfl) rfl fun u => rfl
  | @start t f v hp hv =>
    have hlost : s.pool.unbegun? = some t := by rw [hp]; rfl
    refine h.mirrored_of_start (.inr hlost) rfl rfl rfl rfl rfl fun u hu => mayStart_congr rfl ?_
    refine hasBody_of_lost hno ?_ hlost ?_ hu <;> rfl
  | @pending t f f' v v' hp hv hb =>
    refine h.mirrored_of_pending ((busy_eq_pool hbody).trans (by rw [hp]; rfl)) rfl rfl rfl rfl (fun u hu => ?_) fun u => ?_
    · exact Function.update_of_ne hu ..
    · exact mayStart_congr rfl (hasBody_congr (fun raw => .rfl) (by rw [hp]; rfl))
  | @ready t f v v' r hp hv hb =>
    exact EndsBody.mirrored_ready
      ⟨rfl, rfl, rfl, fun u => mayStart_congr rfl (hasBody_congr (fun raw => .rfl) (by rw [hp]; rfl)),
        by simp [busy, hbody, PoolPc.body?], rfl⟩
      h h' ((busy_eq_pool hbody).trans (by rw [hp]; rfl)) (by simp [current, hv]) hb
  | @panicked t f v v' p hp hv hb =>
    exact EndsBody.mirrored_panicked
      ⟨rfl, rfl, rfl, fun u => mayStart_congr rfl (hasBody_congr (fun raw => .rfl) (by rw [hp]; rfl)),
        by simp [busy, hbody, PoolPc.body?], rfl⟩
      h h' ((busy_eq_pool hbody).trans (by rw [hp]; rfl)) (by simp [current, hv]) hb
  | unlock hp => exact SameTasks.mirrored ⟨rfl, rfl, rfl, rfl, rfl⟩ (fun u raw => .rfl) (by rw [hp]; rfl) fun u => rfl
  | send hp | unwind hp | dropRaw hp =>
    exact SameTasks.mirrored ⟨rfl, rfl, rfl, rfl, rfl⟩ (fun u raw => .rfl) (by rw [hp]; rfl) (takers_update rfl)

theorem Inv.mirrored_runtime {a : Act F} (h : Inv B v₀ s) (m : RuntimeMove s a s') : Mirrored B v₀ s s' := by
  cases m with
  | @dropQueued t f hd hp =>
    have hno := h.custody.not_took (by rw [hp]; nofun)
    exact h.mirrored_of_lost (t := t) ⟨rfl, rfl, rfl, rfl, rfl⟩ hno rfl (by rw [hp]; rfl) rfl (takers_update rfl)
  | shutdown => exact SameTasks.mirrored ⟨rfl, rfl, rfl, rfl, rfl⟩ (fun u raw => .rfl) rfl fun u => rfl
  | pollRecv _ hw | pollAsync _ hw | pollJoin _ hw | yieldRecv hw | yieldJoin hw | dropRecv _ hw | dropAsync _ hw
  | dropJoin _ hw =>
    exact SameTasks.mirrored ⟨rfl, rfl, rfl, rfl, rfl⟩ (by simp [hw]) rfl fun u => rfl

/-- A cancelling party takes the body, or leaves it where it is. -/
theorem Inv.mirrored_cancel {o : Owner} {x : Taker} {c c' : CancelPc} {g : Task F R → Task F R} {k : Task F R}
    (h : Inv B v₀ s) (m : CancelMove s t o x c g c') (hk : k.takers = (g (s.tasks t)).takers) (hs : SameTasks s s')
    (hw : s'.worker = s.worker) (hp : s'.pool = s.pool) (ht : s'.tasks = Function.update s.tasks t k) :
    Mirrored B v₀ s s' := by
  have hb : ∀ u, s'.HasBody u ↔ s.HasBody u := fun u => hasBody_congr (fun raw => by rw [hw]) (by rw [hp])
  have hkeep : (g (s.tasks t)).takers = (s.tasks t).takers → Mirrored B v₀ s s' := fun he =>
    .inl (hs.executor_eq fun u => mayStart_congr (by rw [ht]; exact takers_update (hk.trans he) u) (hb u))
  cases m with
  | take hfull =>
    refine h.mirrored_of_taken (t := t) hs (OnceTake.full_of_take hfull) ?_ (fun u hu => ?_) hb
    · rw [ht, Function.update_self, hk]
      simp [Task.takenBy]
    · rw [ht, Function.update_of_ne hu]
  | _ => exact hkeep rfl

theorem Inv.mirrored_call {a : Act F} (h : Inv B v₀ s) (m : CallMove s a s') : Mirrored B v₀ s s' := by
  cases m with
  | run hi hm => exact h.mirrored_cancel hm rfl ⟨rfl, rfl, rfl, rfl, rfl⟩ rfl rfl rfl
  | _ => exact SameTasks.mirrored ⟨rfl, rfl, rfl, rfl, rfl⟩ (fun u raw => .rfl) rfl fun u => rfl

theorem Inv.mirrored_taskHandle {a : Act F} (h : Inv B v₀ s) (m : TaskHandleMove s a s') : Mirrored B v₀ s s' := by
  have hsame : ∀ {t : ℕ} {k : Task F R}, k.takers = (s.tasks t).takers → Mirrored B v₀ s (s.modTask t fun _ => k) :=
    fun hk => SameTasks.mirrored ⟨rfl, rfl, rfl, rfl, rfl⟩ (fun u raw => .rfl) rfl (takers_update hk)
  cases m with
  | step hm =>
    cases hm with
    | cancel hh hm => exact h.mirrored_cancel hm (by rfl) ⟨rfl, rfl, rfl, rfl, rfl⟩ rfl rfl rfl
    | _ => exact hsame rfl
  | start | unspawned => exact hsame rfl
  | corrupted | polledPanicRx | polledResultRx =>
    exact SameTasks.mirrored ⟨rfl, rfl, rfl, rfl, rfl⟩ (fun u raw => .rfl) rfl fun u => rfl

/-- A new task, accepted or not, changes nothing for the others. -/
theorem Inv.executor_of_addTask (h : Inv B v₀ s) (raw : RawTask F) {k : Task F R} (hk : k.takers = []) :
    (s.addTask raw k).settledValue B v₀ = s.settledValue B v₀ ∧ (s.addTask raw k).outcome = s.outcome ∧
      (s.accepted.filterMap fun t => ((s.addTask raw k).body t).map fun f => (t, f)) =
        s.accepted.filterMap fun t => (s.body t).map fun f => (t, f) := by
  have hbody : ∀ u, u < s.next → (s.addTask raw k).body u = s.body u := fun u hu =>
    Function.update_of_ne hu.ne ..
  refine ⟨settledValue_congr rfl fun u hu _ => ?_, ?_, List.filterMap_congr fun u hu => ?_⟩
  · simp only [log, Log.execution, hbody u (h.order.lt_of_started hu)]
    rfl
  · funext u
    refine outcome_congr rfl (mayStart_congr (takers_update ?_ u) .rfl)
    rw [hk, h.cells.fresh _ le_rfl]
    rfl
  · rw [hbody u (h.order.lt u hu)]

theorem Inv.mirrored_spawn {a : Act F} (h : Inv B v₀ s) (m : SpawnMove s a s') : Mirrored B v₀ s s' := by
  cases m with
  | @accept via raw ho hv =>
    obtain ⟨hval, hout, hacc⟩ := h.executor_of_addTask raw (k := .accepted raw) rfl
    have hnew : s.next ∉ (s.executor B v₀).accepted.map Prod.fst := by
      simp only [executor, List.mem_map, List.mem_filterMap]
      rintro ⟨_, ⟨u, hu, hf⟩, hn⟩
      obtain ⟨f, -, rfl⟩ := Option.map_eq_some_iff.mp hf
      exact (h.order.lt u hu).ne hn
    refine .inr ⟨.accept s.next raw.body, ?_⟩
    rw [Executor.next, if_neg hnew]
    have hlast : (s.addTask raw (.accepted raw)).body s.next = some raw.body := Function.update_self ..
    refine congrArg some (Executor.ext hval.symm ?_ hout.symm)
    simp only [executor, List.filterMap_append, List.filterMap_cons, List.filterMap_nil, hlast, hacc, Option.map_some]
  | @reject via raw ho hv =>
    obtain ⟨hval, hout, hacc⟩ := h.executor_of_addTask raw (k := .rejected (.sendFailed via)) rfl
    exact .inl (Executor.ext hval hacc hout)
  | @unavailable i raw ha hc =>
    obtain ⟨hval, hout, hacc⟩ := h.executor_of_addTask raw (k := .rejected (.unspawned .taskSenderUnavailable)) rfl
    exact .inl (Executor.ext hval hacc hout)
  | panicked | shutdown | closed | panicMsg =>
    exact SameTasks.mirrored ⟨rfl, rfl, rfl, rfl, rfl⟩ (fun u raw => .rfl) rfl (takers_update rfl)
  | corrupted | unreachable =>
    exact SameTasks.mirrored ⟨rfl, rfl, rfl, rfl, rfl⟩ (fun u raw => .rfl) rfl fun u => rfl

/-- **A step is one event of the executor, or none.** -/
theorem Inv.executor_step {a : Act F} (h : Inv B v₀ s) (m : Move B s a s') : Mirrored B v₀ s s' := by
  have h' := h.move m
  cases m with
  | worker m' => exact h.mirrored_worker h' m'
  | pool m' => exact h.mirrored_pool h' m'
  | runtime m' => exact h.mirrored_runtime m'
  | call m' => exact h.mirrored_call m'
  | taskHandle m' => exact h.mirrored_taskHandle m'
  | spawn m' => exact h.mirrored_spawn m'
  | spawner m' | handle m' =>
    cases m' <;> exact SameTasks.mirrored ⟨rfl, rfl, rfl, rfl, rfl⟩ (fun u raw => .rfl) rfl fun u => rfl

/-! ### What is reported of the executor -/

/-- A task that is neither running nor in the worker's hands, and has been taken, is settled. -/
theorem outcome_ne_waiting (ht : (s.tasks t).takers ≠ []) (hb : ¬ s.HasBody t) (hx : s.fate t ≠ .running) :
    s.outcome t ≠ .waiting := by
  cases hf : s.fate t with
  | unstarted =>
    rw [outcome_withdrawn hf (fun hm => hm.elim ht hb)]
    nofun
  | running => exact absurd hf hx
  | _ => simp [outcome, hf]

/-- What somebody else than the worker has taken is withdrawn. -/
theorem Inv.outcome_of_taker (h : Inv B v₀ s) {x : Taker} (ht : (s.tasks t).takers = [x]) (hx : x ≠ .worker) :
    s.outcome t = .withdrawn := by
  refine outcome_withdrawn (h.fate_of_takers fun hw => ?_) ?_
  · rw [ht] at hw
    cases hw
    exact hx rfl
  · rintro (hn | hb)
    · cases hn.symm.trans ht
    · cases ht.symm.trans (h.takers_of_hasBody hb)
      exact hx rfl

/-- A task whose senders were dropped is settled, and has not completed. -/
theorem Inv.outcome_of_closed (h : Inv B v₀ s) (hk : (s.tasks t).Closed) :
    s.outcome t ≠ .waiting ∧ ∀ r, s.outcome t ≠ .completed r := by
  have ht : (s.tasks t).takers ≠ [] := fun hn => nomatch hk.1.symm.trans (h.channels.untaken t hn).1
  have hb : ¬ s.HasBody t := fun hb => nomatch hk.1.symm.trans (h.live_of_hasBody hb)
  have hfate : s.fate t ≠ .running ∧ ∀ r, s.fate t ≠ .completed r := by
    by_cases hw : (s.tasks t).takers = [.worker]
    · exact h.channels.resultDropped t hw hk.1
    · rw [h.fate_of_takers hw]
      exact ⟨nofun, fun r => nofun⟩
  refine ⟨outcome_ne_waiting ht hb hfate.1, fun r => ?_⟩
  cases hf : s.fate t with
  | unstarted => rw [outcome_withdrawn hf (fun hm => hm.elim ht hb)]; nofun
  | completed r' => exact absurd hf (hfate.2 r')
  | _ => simp [outcome, hf]

/-- What handles, `cancel()` calls and joins report is what has happened in the executor. -/
structure ReportsOf (s : Sys S F R) (e : Executor ℕ S F R PanicPayload) : Prop where
  /-- The accepted tasks are the executor's. -/
  accepted : e.accepted.map Prod.fst = s.accepted
  /-- A result is that of a body that ran. -/
  completed : ∀ t r, (s.tasks t).handle = .resolved (.ok r) → e.outcome t = .completed r
  /-- A panic is that of a body that ran. -/
  panicked : ∀ t p, (s.tasks t).handle = .resolved (.error (.taskPanic p)) → e.outcome t = .panicked p
  /-- Any other error of an accepted task is that of one that will not complete. -/
  failed : ∀ t ∈ s.accepted, ∀ err, (s.tasks t).handle = .resolved (.error err) →
    e.outcome t ≠ .waiting ∧ ∀ r, e.outcome t ≠ .completed r
  /-- A successful `cancel()` has withdrawn the task. -/
  cancelled : ∀ i t, s.cancels i = .run t (.done true) → e.outcome t = .withdrawn
  /-- So has what a handle reports as a cancellation. -/
  taskCancelled : ∀ t, (s.tasks t).handle = .resolved (.error .taskCancelled) → e.outcome t = .withdrawn
  /-- A join hands over the executor's value. -/
  returned : ∀ op res, s.handle = .returned op res → res.state = e.value

theorem Inv.reportsOf_executor (h : Inv B v₀ s) : s.ReportsOf (s.executor B v₀) where
  accepted := by
    have hfst : ∀ t ∈ s.accepted, ((s.body t).map fun f => (t, f)).map Prod.fst = some t := fun t ht => by
      obtain ⟨f, hf⟩ := Option.ne_none_iff_exists'.mp (h.order.body t ht)
      simp [hf]
    simp only [executor, List.map_filterMap]
    rw [List.filterMap_congr hfst, List.filterMap_some]
  completed t r hh := by
    by_cases hk : (s.tasks t).cancellable = true
    · have hx := h.channels.sent t r (h.handles.resolved t _ hh hk)
      simp [executor, outcome, hx]
    · obtain ⟨reason, hreason, -⟩ := h.handles.rejected t _ hh (Bool.eq_false_iff.mpr hk)
      cases hreason
  panicked t p hh := by
    have hx := h.channels.recorded t p (by simp [h.panics_of_taskPanic hh])
    simp [executor, outcome, hx]
  failed t ht err hh := by
    rcases (h.handles.resolved t _ hh ((h.ending.accepted t).mp ht)).cases with ⟨r, hr, -⟩ | ⟨p, -, hs⟩ | hk
    · cases hr
    · have hx := (h.channels.panicSent t p hs).1
      simp [executor, outcome, hx]
    · exact h.outcome_of_closed hk
  cancelled i t hi := h.outcome_of_taker (h.cells.call i t _ hi rfl) nofun
  taskCancelled t hh := by
    obtain ⟨x, hx, hne⟩ := h.taker_of_taskCancelled hh
    exact h.outcome_of_taker hx hne
  returned op res hh :=
    (settledValue_of_idle (h.sequential_of_taken (v := res.state) (by rw [hh]; rfl))).symm

/-- **Bodies are atomic.** Every run is a run of the executor that runs bodies at once,
begun with the state that the worker was spawned with: it accepts the tasks that the
queue accepts, in that order, a task that is cancelled or dropped before its body
begins is withdrawn, and a body takes place when it ends. What has become of a task
there stays, and it is what handles, `cancel()` calls and joins report. -/
theorem refines_executor {C : Sys S F R → Act F → Prop} (h : Reachable B v₀ s) (hr : Run B C s s') :
    (init v₀ : Sys S F R).executor B v₀ = .init v₀ ∧
    Runs.Steps (Executor.next B) Runs.Any (s.executor B v₀) (s'.executor B v₀) ∧
    (∀ t, s.outcome t ≠ .waiting → s'.outcome t = s.outcome t) ∧
    s'.ReportsOf (s'.executor B v₀) := by
  have hi := inv_of_reachable h
  have hsteps : Runs.Steps (Executor.next B) Runs.Any (s.executor B v₀) (s'.executor B v₀) := by
    induction hr with
    | refl => exact .refl
    | tail hr _ hs ih =>
      rcases (hi.run hr).executor_step (move_of_step hs) with he | ⟨ev, he⟩
      · rw [he]
        exact ih
      · exact ih.tail trivial he
  exact ⟨executor_init v₀, hsteps, fun t ht => Executor.outcome_of_steps hsteps ht, (hi.run hr).reportsOf_executor⟩

/-- An async body is suspended after its first segment, and the task behind it is cancelled. -/
def demoMidway : Sys ℕ ℕ ℕ := (demoExec
  [(1, .spawn .worker (.async 2)), (1, .spawn .worker (.blocking 0)), (1, .spawn .worker (.async 0)), (1, .pollWorker),
    (5, .worker), (1, .cancel 0 1), (6, .cancelStep 0)]).get rfl

theorem demoMidway_reachable : Reachable demo 0 demoMidway := demo_reachable rfl

/-- The handle is joined. -/
def demoMidwayJoined : Sys ℕ ℕ ℕ := (Runs.exec (step demo)
  ([.consume .join, .handle, .handle, .pollWorker] ++ List.replicate 19 .worker ++ List.replicate 5 .handle)
  demoMidway).get rfl

theorem demoMidwayJoined_run : Run demo Runs.Any demoMidway demoMidwayJoined :=
  Runs.steps_of_exec (Option.some_get rfl).symm

theorem refines_executor_demo :
    demoMidway.value = some 100 ∧ (demoMidway.executor demo 0).value = 0 ∧
    Runs.Steps (Executor.next demo) Runs.Any (.init 0) (demoMidway.executor demo 0) ∧
    Runs.Steps (Executor.next demo) Runs.Any (demoMidway.executor demo 0) (demoMidwayJoined.executor demo 0) ∧
    (demoMidwayJoined.executor demo 0).outcome 1 = .withdrawn ∧ (demoMidwayJoined.executor demo 0).value = 102 := by
  obtain ⟨hinit, hbegun, -, -⟩ := refines_executor (.refl : Reachable demo 0 (init 0)) demoMidway_reachable
  obtain ⟨-, hsteps, -, hreports⟩ := refines_executor demoMidway_reachable demoMidwayJoined_run
  exact ⟨rfl, rfl, hinit ▸ hbegun, hsteps, hreports.cancelled 0 1 rfl, (hreports.returned .join (.ok 102) rfl).symm⟩

end Sys

end AsyncSequential
