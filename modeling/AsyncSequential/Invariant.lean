import AsyncSequential.Handles

/-!
# The invariant

All that the parties keep, together: `Inv` holds at the start and is kept by
every step, so it holds in every reachable state. The properties of the crate
are read off it.
-/

namespace AsyncSequential

variable {S F R : Type*}

namespace Sys

variable {B : Bodies S F R PanicPayload} {v₀ : S} {s s' : Sys S F R} {t : ℕ}

/-- What holds in every state that a worker spawned with `v₀` can reach. -/
structure Inv (B : Bodies S F R PanicPayload) (v₀ : S) (s : Sys S F R) : Prop where
  custody : s.Custody
  cells : s.Cells
  order : s.Order
  replay : Replay B v₀ s
  channels : s.Channels
  status : s.Status
  ending : s.Ending
  handles : s.Handles

theorem inv_init (v : S) : Inv B v (init v) :=
  ⟨custody_init v, cells_init v, order_init v, replay_init v, channels_init v, status_init v, ending_init v,
    handles_init v⟩

/-- Nothing has become of the body of a task that the worker has not taken. -/
theorem Inv.fate_of_takers (h : Inv B v₀ s) (ht : (s.tasks t).takers ≠ [.worker]) : s.fate t = .unstarted :=
  h.replay.fate_of_takers h.cells h.order ht

/-- Every step keeps the invariant. -/
theorem Inv.move {a : Act F} (h : Inv B v₀ s) (m : Move B s a s') : Inv B v₀ s' where
  custody := h.custody.step m
  cells := h.cells.step m
  order := h.order.step h.cells h.custody m
  replay := h.replay.step h.cells h.order h.custody m
  channels := h.channels.step h.cells h.order h.replay h.custody m
  status := h.status.step m
  ending := h.ending.step h.cells h.order h.custody h.status m
  handles := h.handles.step h.cells h.channels h.ending h.status (fun _ => h.fate_of_takers) m

theorem Inv.step {a : Act F} (h : Inv B v₀ s) (hs : Sys.step B s a = some s') : Inv B v₀ s' :=
  h.move (move_of_step hs)

/-- Runs keep the invariant. -/
theorem Inv.run {C : Sys S F R → Act F → Prop} (h : Inv B v₀ s) (hr : Run B C s s') : Inv B v₀ s' :=
  hr.stable (fun _ _ _ hI hs => hI.step hs) h

/-- **The invariant holds in every reachable state.** -/
theorem inv_of_reachable (h : Reachable B v₀ s) : Inv B v₀ s := (inv_init v₀).run h

/-- What a computed run reaches is reachable. -/
theorem reachable_of_exec {as : List (Act F)} (h : (Runs.exec (Sys.step B) as (init v₀)).isSome) :
    Reachable B v₀ ((Runs.exec (Sys.step B) as (init v₀)).get h) :=
  Runs.steps_of_exec (Option.some_get h).symm

/-! ### What it says of tasks -/

/-- A body that has started belongs to a task that the worker has taken. -/
theorem Inv.takers_of_started (h : Inv B v₀ s) (ht : t ∈ s.started) : (s.tasks t).takers = [.worker] :=
  Sys.takers_of_started h.cells h.order ht

/-- A body has started when something has become of it. -/
theorem Inv.unstarted_iff (h : Inv B v₀ s) : s.fate t = .unstarted ↔ t ∉ s.started := by
  obtain ⟨v, -, hseq⟩ := h.replay.sequential
  exact hseq.unstarted t

theorem Inv.started_of_fate (h : Inv B v₀ s) (ht : s.fate t ≠ .unstarted) : t ∈ s.started :=
  not_not.mp fun hn => ht (h.unstarted_iff.mpr hn)

/-- The started tasks are received, in the order of reception. -/
theorem Inv.started_sublist_popped (h : Inv B v₀ s) : s.started.Sublist s.popped := by
  obtain ⟨rest, hf, -⟩ := h.order.started
  exact (List.sublist_append_left s.started rest).trans (hf ▸ List.filter_sublist)

theorem Inv.mem_popped_of_started (h : Inv B v₀ s) (ht : t ∈ s.started) : t ∈ s.popped :=
  h.started_sublist_popped.subset ht

/-- A task that has a taker can be cancelled. -/
theorem Inv.cancellable_of_takers (h : Inv B v₀ s) (ht : (s.tasks t).takers ≠ []) :
    (s.tasks t).cancellable = true := by
  by_contra hc
  exact ht ((h.cells.cell t).rejected (Bool.eq_false_iff.mpr hc)).2

/-- A task has at most one taker. -/
theorem Inv.takers_cases (h : Inv B v₀ s) (t : ℕ) : (s.tasks t).takers = [] ∨ ∃ x, (s.tasks t).takers = [x] := by
  have hone := (h.cells.cell t).one
  match (s.tasks t).takers, hone with
  | [], _ => exact .inl rfl
  | [x], _ => exact .inr ⟨x, rfl⟩

/-- An accepted task that nobody has taken has not resolved. -/
theorem Inv.unresolved_of_untaken (h : Inv B v₀ s) (ht : (s.tasks t).takers = [])
    (hacc : (s.tasks t).cancellable = true) (res : Except TaskError R) : (s.tasks t).handle ≠ .resolved res := by
  intro hr
  obtain ⟨hlive, hlive'⟩ := h.channels.untaken t ht
  rcases (h.handles.resolved t res hr hacc).cases with ⟨r, -, hs⟩ | ⟨p, -, hs⟩ | hk
  · cases hlive.symm.trans hs
  · cases hlive'.symm.trans hs
  · cases hlive.symm.trans hk.1

/-- What a handle of an accepted task that has not started can have resolved to. -/
theorem Inv.closed_of_not_started (h : Inv B v₀ s) (ht : t ∉ s.started) {res : Except TaskError R}
    (hx : s.Explained t res) : (s.tasks t).Closed := by
  have hfate := h.unstarted_iff.mpr ht
  rcases hx.cases with ⟨r, -, hs⟩ | ⟨p, -, hs⟩ | hk
  · cases hfate.symm.trans (h.channels.sent t r hs)
  · cases hfate.symm.trans (h.channels.panicSent t p hs).1
  · exact hk

/-! ### What stays of a task -/

/-- A task whose handle there is exists. -/
theorem Cells.lt_of_handle (hc : s.Cells) (hh : (s.tasks t).handle ≠ .absent) : t < s.next := by
  by_contra hn
  exact hh (by rw [hc.fresh t (not_lt.mp hn)]; rfl)

theorem Cells.lt_of_cancellable (hc : s.Cells) (hk : (s.tasks t).cancellable = true) : t < s.next := by
  by_contra hn
  rw [hc.fresh t (not_lt.mp hn)] at hk
  cases hk

theorem cancellable_of_lt {a : Act F} (m : Move B s a s') (ht : t < s.next) :
    (s'.tasks t).cancellable = (s.tasks t).cancellable :=
  (cancellable_cases_of_change (taskChange_of_move m t)).resolve_right fun ⟨he, _⟩ => ht.ne he

/-- A handle resolves once. -/
theorem Cells.resolved_of_move {a : Act F} {res : Except TaskError R} (hc : s.Cells) (m : Move B s a s')
    (hh : (s.tasks t).handle = .resolved res) : (s'.tasks t).handle = .resolved res := by
  have hlt := hc.lt_of_handle (by rw [hh]; nofun)
  rcases (handleChange_of_change (taskChange_of_move m t)).of_not_spawned hlt.ne (by rw [hh]; nofun) with he | hm
  · exact he.trans hh
  · exact absurd hh (hm.not_resolved res)

/-- The handle of a rejected task keeps its reason, and resolves to it. -/
theorem Cells.unspawned_of_move {a : Act F} {reason : WorkerSendError} (hc : s.Cells) (m : Move B s a s')
    (hh : (s.tasks t).handle = .unspawned reason) :
    (s'.tasks t).handle = .unspawned reason ∨ (s'.tasks t).handle = .resolved (.error reason.toTaskError) := by
  have hlt := hc.lt_of_handle (by rw [hh]; nofun)
  rcases (handleChange_of_change (taskChange_of_move m t)).of_not_spawned hlt.ne (by rw [hh]; nofun) with he | hm
  · exact .inl (he.trans hh)
  · generalize (s'.tasks t).handle = x at hm
    cases hm with
    | panicked hp | panicMsg hp | shutdown hp | closed hp => cases hp.symm.trans hh
    | resolve hp =>
      cases hp.symm.trans hh
      exact .inr rfl

/-- Along a run the handle of a rejected task reports its reason, and the task never starts. -/
theorem Inv.rejected_of_run {C : Sys S F R → Act F → Prop} {reason : WorkerSendError} (h : Inv B v₀ s)
    (hr : Run B C s s') (hca : (s.tasks t).cancellable = false)
    (hh : (s.tasks t).handle = .unspawned reason ∨ (s.tasks t).handle = .resolved (.error reason.toTaskError)) :
    t ∉ s'.started ∧ ((s'.tasks t).handle = .unspawned reason ∨
      (s'.tasks t).handle = .resolved (.error reason.toTaskError)) := by
  have hP := hr.invariant (P := fun u => (u.tasks t).cancellable = false ∧
    ((u.tasks t).handle = .unspawned reason ∨ (u.tasks t).handle = .resolved (.error reason.toTaskError)))
    ⟨hca, hh⟩ fun u v a hu hP _ hs => ?_
  · refine ⟨fun ht => ?_, hP.2⟩
    have hk := (h.run hr).takers_of_started ht
    cases hP.1.symm.trans ((h.run hr).cancellable_of_takers (by rw [hk]; nofun))
  · have hc := (h.run hu).cells
    have m := move_of_step hs
    obtain ⟨hcu, hu⟩ := hP
    have hlt : t < u.next := hc.lt_of_handle (by rcases hu with hu | hu <;> rw [hu] <;> nofun)
    refine ⟨(cancellable_of_lt m hlt).trans hcu, ?_⟩
    rcases hu with hu | hu
    · exact hc.unspawned_of_move m hu
    · exact .inr (hc.resolved_of_move m hu)

/-! ### What it says of runs -/

/-- What is recorded in the status stays recorded, until a panic overwrites it. -/
theorem flag_of_run {C : Sys S F R → Act F → Prop} (hr : Run B C s s') (hf : s.flag ≠ some .runningOrRuntimeShutdown) :
    s'.flag = s.flag ∨ s'.flag = some .taskPanicked := by
  induction hr with
  | refl => exact .inl rfl
  | @tail u v a _ _ hs ih =>
    have hu : u.flag ≠ some .runningOrRuntimeShutdown := by
      rcases ih with hu | hu <;> rw [hu]
      · exact hf
      · nofun
    rcases flag_of_move (move_of_step hs) hu with hv | hv
    · rw [hv]; exact ih
    · exact .inr hv

theorem op_of_run {C : Sys S F R → Act F → Prop} {op : Consume} (hr : Run B C s s') (ho : s.handle.op? = some op) :
    s'.handle.op? = some op :=
  hr.stable (fun _ _ _ hu hs => op_of_move (move_of_step hs) hu) ho

theorem accepted_of_move {a : Act F} (m : Move B s a s') (ht : t ∈ s.accepted) : t ∈ s'.accepted := by
  cases m with
  | spawn m =>
    cases m with
    | accept _ _ => exact List.mem_append_left _ ht
    | _ => exact ht
  | worker m | runtime m | pool m | call m | taskHandle m | spawner m | handle m => cases m <;> exact ht

theorem accepted_of_run {C : Sys S F R → Act F → Prop} (hr : Run B C s s') (ht : t ∈ s.accepted) : t ∈ s'.accepted :=
  hr.stable (fun _ _ _ hu hs => accepted_of_move (move_of_step hs) hu) ht

end Sys

end AsyncSequential
