import AsyncSequential.Join

/-!
# The worker agrees with the sequential interpreter

While nobody aborts or cancels the worker and the runtime is up, all that the
outside learns — what `join` returns, what each task handle resolves to — is what
the interpreter of `Lib.Resume` yields on the bodies of the accepted tasks, in the
order of acceptance and without those that a `cancel()` call took. The schedule
and the way a body was spawned leave no trace.
-/

namespace AsyncSequential

variable {S F R : Type*}

/-! ### What the interpreter's result stands for -/

/-- What `join` makes of the interpreter's result. -/
def joinOf (r : Bodies.Result S R PanicPayload) : JoinResult S :=
  match r.panic with
  | none => .ok r.value
  | some p => .error ⟨.anyTaskPanic p.msg r.value⟩

/-- What the handle of the task at place `i` makes of it. -/
def outcomeOf (r : Bodies.Result S R PanicPayload) (i : ℕ) : Option (Except TaskError R) :=
  match r.returned[i]?, r.panic with
  | some a, _ => some (.ok a)
  | none, some p => some (.error (if i = r.returned.length then .taskPanic p else .prevTaskPanic p.msg))
  | none, none => none

theorem outcomeOf_returned {r : Bodies.Result S R PanicPayload} {i : ℕ} {a : R} (h : r.returned[i]? = some a) :
    outcomeOf r i = some (.ok a) := by
  simp [outcomeOf, h]

theorem outcomeOf_panic {r : Bodies.Result S R PanicPayload} {i : ℕ} {p : PanicPayload} (hp : r.panic = some p)
    (hi : i = r.returned.length) : outcomeOf r i = some (.error (.taskPanic p)) := by
  simp [outcomeOf, hp, hi]

theorem outcomeOf_after {r : Bodies.Result S R PanicPayload} {i : ℕ} {p : PanicPayload} (hp : r.panic = some p)
    (hi : r.returned.length < i) : outcomeOf r i = some (.error (.prevTaskPanic p.msg)) := by
  simp [outcomeOf, hp, hi.le, hi.ne']

/-- What the first bodies tell of a task among them, all bodies tell. -/
theorem outcomeOf_append {B : Bodies S F R PanicPayload} {n m i : ℕ} {fs gs : List F} {v : S}
    {r r' : Bodies.Result S R PanicPayload} {x : Except TaskError R} (h : B.interpret n (fs ++ gs) v = some r)
    (h' : B.interpret m fs v = some r') (hx : outcomeOf r' i = some x) : outcomeOf r i = some x := by
  obtain ⟨r₁, hr₁, hcase⟩ := B.interpret_of_append h
  obtain rfl := B.interpret_unique h' hr₁
  rcases hcase with ⟨hp, hpre⟩ | ⟨-, rfl⟩
  · cases hi : r'.returned[i]? with
    | none => simp [outcomeOf, hi, hp] at hx
    | some a =>
      rw [outcomeOf_returned hi] at hx
      obtain ⟨rest, hrest⟩ := hpre
      have hi' : r.returned[i]? = some a := by
        rw [← hrest, List.getElem?_append_left (List.getElem?_eq_some_iff.mp hi).1, hi]
      rw [outcomeOf_returned hi', hx]
  · exact hx

/-- The first of the values are those of the first names, where every name has one. -/
theorem take_filterMap {α β : Type*} {f : α → Option β} {xs : List α} (h : ∀ x ∈ xs, f x ≠ none) (n : ℕ) :
    (xs.filterMap f).take n = (xs.take n).filterMap f := by
  induction xs generalizing n with
  | nil => simp
  | cons x xs ih =>
    obtain ⟨y, hy⟩ := Option.ne_none_iff_exists'.mp (h x List.mem_cons_self)
    cases n with
    | zero => rfl
    | succ n => simp [hy, ih (fun z hz => h z (List.mem_cons_of_mem _ hz))]

namespace Sys

variable {B : Bodies S F R PanicPayload} {v₀ : S} {s s' : Sys S F R} {t i : ℕ}

/-- A `cancel()` call has taken `t`. -/
def cancelled (s : Sys S F R) (t : ℕ) : Bool := (s.tasks t).takers.any (· matches .canceller _)

/-- The accepted tasks that no `cancel()` call has taken, in the order of acceptance. -/
def remaining (s : Sys S F R) : List ℕ := s.accepted.filter fun t => !s.cancelled t

/-- Their bodies. -/
def bodies (s : Sys S F R) : List F := s.remaining.filterMap s.body

/-- The worker has been neither aborted nor cancelled, and the runtime is up. -/
structure Undisturbed (s : Sys S F R) : Prop where
  /-- The runtime is up. -/
  up : s.down = false
  /-- The handle was not consumed by an operation that aborts or cancels. -/
  op : ∀ op, s.handle.op? = some op → op.aborts = false ∧ op.cancels = false

namespace Undisturbed

theorem flag_ne_cancel (hu : s.Undisturbed) (hi : Inv B v₀ s) : s.flag ≠ some .cancelStarted := by
  intro hf
  obtain ⟨op, hop, ho⟩ := hi.status.cancels hf
  simp [(hu.op op hop).2] at ho

theorem wasDropped (hu : s.Undisturbed) (hi : Inv B v₀ s) : s.worker.wasDropped = false := by
  by_contra hw
  rcases hi.ending.aborted (by simpa using hw) with ha | hd
  · obtain ⟨op, hop, ho⟩ := (hi.status.aborting ha).1
    simp [(hu.op op hop).1] at ho
  · simp [hu.up] at hd

/-- A handle takes its task only when the worker was cancelled. -/
theorem takers_ne_handle (hu : s.Undisturbed) (hi : Inv B v₀ s) : (s.tasks t).takers ≠ [.handle] := by
  intro ht
  have hop : ∃ op, s.handle.op? = some op ∧ op.cancels = true := by
    rcases hi.handles.taker t ht with ⟨c, hc, -⟩ | hr
    · exact hi.handles.cancelling t c hc
    · exact (hi.handles.resolved t _ hr (hi.cancellable_of_takers (by simp [ht]))).2
  obtain ⟨op, hop, ho⟩ := hop
  simp [(hu.op op hop).2] at ho

/-- What is received and not cancelled the worker has taken, but for the task at hand. -/
theorem not_cancelled_eq_taken (hu : s.Undisturbed) (hi : Inv B v₀ s) (ht : t ∈ s.popped)
    (hw : ¬ (s.worker = .dequeued t ∨ s.worker = .checked t)) : (!s.cancelled t) = s.taken t := by
  have huntaken := hi.ending.untaken t ht
  have hgone : ¬ (s.worker.out? = some .ok ∧ s.flag = some .cancelStarted) := fun h => hu.flag_ne_cancel hi h.2
  rcases hi.takers_cases t with hk | ⟨x, hk⟩
  · exact (((huntaken (.inl hk)).resolve_left hw |> hgone)).elim
  · cases x with
    | worker => simp [cancelled, taken, hk]
    | canceller i => simp [cancelled, taken, hk]
    | handle => exact absurd hk (hu.takers_ne_handle hi)
    | dropped => exact (((huntaken (.inr hk)).resolve_left hw |> hgone)).elim

/-- What the worker has taken comes first among what it received and nobody cancelled. -/
theorem taken_prefix (hu : s.Undisturbed) (hi : Inv B v₀ s) :
    s.popped.filter s.taken <+: s.popped.filter fun t => !s.cancelled t := by
  by_cases hand : ∃ t, s.worker = .dequeued t ∨ s.worker = .checked t
  · obtain ⟨t, hw⟩ := hand
    obtain ⟨P, hP⟩ := hi.order.current t hw
    have hnot : ∀ u ∈ P, ¬ (s.worker = .dequeued u ∨ s.worker = .checked u) := by
      intro u hu hw'
      have hn := hi.order.nodup
      rw [hi.order.accepted, hP] at hn
      have hut : u ≠ t := (List.nodup_append.mp (List.nodup_append.mp (List.nodup_append.mp hn).1).1).2.2 u hu t
        (List.mem_singleton_self t)
      rcases hw with hw | hw <;> rcases hw' with hw' | hw' <;> cases hw.symm.trans hw' <;> exact hut rfl
    have hold : P.filter s.taken = P.filter fun t => !s.cancelled t := List.filter_congr fun u hu' =>
      (hu.not_cancelled_eq_taken hi (by simp [hP, hu']) (hnot u hu')).symm
    rw [hP, List.filter_append, List.filter_append, hold, List.prefix_append_right_inj]
    cases htk : s.taken t with
    | false => simp [htk]
    | true =>
      have hmem : .worker ∈ (s.tasks t).takers := by simpa [taken] using htk
      have hc : s.cancelled t = false := by
        rcases hi.takers_cases t with hk | ⟨x, hk⟩
        · simp [hk] at hmem
        · obtain rfl : .worker = x := by simpa [hk] using hmem
          simp [cancelled, hk]
      simp [htk, hc]
  · have hall : s.popped.filter s.taken = s.popped.filter fun t => !s.cancelled t := List.filter_congr fun t ht =>
      (hu.not_cancelled_eq_taken hi ht fun hw => hand ⟨t, hw⟩).symm
    rw [hall]

/-- **The started tasks come first** among those that remain. -/
theorem started_prefix (hu : s.Undisturbed) (hi : Inv B v₀ s) : s.started <+: s.remaining := by
  obtain ⟨rest, hf, -⟩ := hi.order.started
  have htaken : s.started <+: s.popped.filter s.taken := ⟨rest, hf.symm⟩
  refine (htaken.trans (hu.taken_prefix hi)).trans ?_
  rw [remaining, hi.order.accepted, List.append_assoc, List.filter_append]
  exact List.prefix_append ..

/-- When the worker has ended well nothing else remains. -/
theorem remaining_of_ok (hu : s.Undisturbed) (hi : Inv B v₀ s) (hw : s.worker = .ended .ok) :
    s.remaining = s.started := by
  obtain ⟨hq, -, hd⟩ := (hi.ending.finished (by rw [hw]; rfl)).resolve_right (hu.flag_ne_cancel hi)
  obtain ⟨rest, hf, hrest⟩ := hi.order.started
  have hnil : rest = [] := hrest.settled (.inl (by rw [hw]; rfl))
  rw [hnil, List.append_nil] at hf
  rw [remaining, hi.order.accepted, hq, hd, List.append_nil, List.append_nil, ← hf]
  exact List.filter_congr fun t ht => hu.not_cancelled_eq_taken hi ht (by simp [hw])

end Undisturbed

/-! ### The join -/

/-- **`join` agrees with the interpreter.** -/
theorem Inv.join_eq (hi : Inv B v₀ s) (hu : s.Undisturbed) {res : JoinResult S}
    (hh : s.handle = .returned .join res) : ∃ n r, B.interpret n s.bodies v₀ = some r ∧ res = joinOf r := by
  obtain ⟨v, hv, hseq⟩ := hi.replay.sequential
  have hcur : res.state = v := (hi.state_of_returned hh).trans hseq.current
  obtain ⟨out, hw, hres⟩ := hi.ending.returned _ res hh
  cases out with
  | ok =>
    obtain ⟨n, hn⟩ := hseq.interpret_completed (List.append_nil s.started).symm (hi.completed_of_ok hw)
    refine ⟨n, _, by rw [bodies, hu.remaining_of_ok hi hw]; exact hn, ?_⟩
    rw [hres, hcur]
    exact congrArg Except.ok hseq.current.symm
  | aborted =>
    have hdrop := hu.wasDropped hi
    simp [hw, WorkerPc.wasDropped] at hdrop
  | err =>
    obtain ⟨hf, t, p, hp⟩ := (hi.panicked_of_ended hw).resolve_right (by simp [hu.up])
    obtain ⟨ts, hts⟩ := hi.last_of_panicked hp
    obtain ⟨rest, hrest⟩ := hu.started_prefix hi
    obtain ⟨n, hn⟩ := hseq.interpret_panicked hts (hi.channels.recorded t p hp) (rest.filterMap s.body)
    refine ⟨n, _, by rw [bodies, ← hrest, List.filterMap_append]; exact hn, ?_⟩
    rw [hres, hcur]
    simp only [joined, hf, hi.status.panicMsg_eq hp]
    rfl

/-! ### The handles -/

/-- The bodies up to some place. -/
theorem Inv.take_bodies (hi : Inv B v₀ s) (n : ℕ) : s.bodies.take n = (s.remaining.take n).filterMap s.body :=
  take_filterMap (fun t ht => hi.order.body t (List.mem_of_mem_filter ht)) n

theorem Inv.remaining_nodup (hi : Inv B v₀ s) : s.remaining.Nodup := hi.order.nodup.filter _

/-- A started task stands where it stands among those that remain. -/
theorem Undisturbed.started_getElem (hu : s.Undisturbed) (hi : Inv B v₀ s) (ht : s.remaining[i]? = some t)
    (hs : t ∈ s.started) : s.started[i]? = some t := by
  obtain ⟨rest, hrest⟩ := hu.started_prefix hi
  obtain ⟨j, hj⟩ := List.getElem?_of_mem hs
  have hj' : s.remaining[j]? = some t := by
    rw [← hrest, List.getElem?_append_left (List.getElem?_eq_some_iff.mp hj).1, hj]
  obtain rfl : i = j :=
    (List.getElem?_inj (List.getElem?_eq_some_iff.mp ht).1 hi.remaining_nodup).mp (ht.trans hj'.symm)
  exact hj

/-- The others stand behind. -/
theorem Undisturbed.length_started_le (hu : s.Undisturbed) (hi : Inv B v₀ s) (ht : s.remaining[i]? = some t)
    (hs : t ∉ s.started) : s.started.length ≤ i := by
  obtain ⟨rest, hrest⟩ := hu.started_prefix hi
  by_contra hlt
  rw [← hrest, List.getElem?_append_left (by omega)] at ht
  exact hs (List.mem_of_getElem? ht)

/-- All bodies before a started one have returned. -/
theorem Inv.completed_take (hi : Inv B v₀ s) (hlt : i < s.started.length) :
    ∀ u ∈ s.started.take i, ∃ r, s.fate u = .completed r := by
  intro u hu
  obtain ⟨v, -, hseq⟩ := hi.replay.sequential
  obtain ⟨ts, w, hts⟩ := List.eq_nil_or_concat s.started |>.resolve_left (by rintro h; simp [h] at hlt)
  rw [List.concat_eq_append] at hts
  refine hseq.before ts w hts u ?_
  have hle : i ≤ ts.length := by simp [hts] at hlt; omega
  rw [hts, List.take_append_of_le_length hle] at hu
  exact List.mem_of_mem_take hu

/-- The interpreter on the bodies up to one that has returned. -/
theorem Inv.outcome_of_completed (hi : Inv B v₀ s) (hu : s.Undisturbed) (ht : s.remaining[i]? = some t) {a : R}
    (hfate : s.fate t = .completed a) :
    ∃ n r, B.interpret n (s.bodies.take (i + 1)) v₀ = some r ∧ outcomeOf r i = some (.ok a) := by
  obtain ⟨v, -, hseq⟩ := hi.replay.sequential
  have hs : s.started[i]? = some t := hu.started_getElem hi ht (hi.started_of_fate (by simp [hfate]))
  have hlt : i < s.started.length := (List.getElem?_eq_some_iff.mp hs).1
  have htake : s.started.take (i + 1) = s.started.take i ++ [t] := by rw [List.take_add_one, hs]; rfl
  have hold := hi.completed_take hlt
  have hall : ∀ u ∈ s.started.take (i + 1), ∃ r, s.fate u = .completed r := by
    intro u hmem
    rw [htake] at hmem
    rcases List.mem_append.mp hmem with hmem | hmem
    · exact hold u hmem
    · exact ⟨a, by rw [List.mem_singleton.mp hmem, hfate]⟩
  obtain ⟨n, hn⟩ := hseq.interpret_completed (List.take_append_drop (i + 1) s.started).symm hall
  have hbodies : s.bodies.take (i + 1) = (s.started.take (i + 1)).filterMap s.body := by
    obtain ⟨rest, hrest⟩ := hu.started_prefix hi
    rw [hi.take_bodies, ← hrest, List.take_append_of_le_length hlt]
  refine ⟨n, _, by rw [hbodies]; exact hn, outcomeOf_returned ?_⟩
  have hbody : ∀ u ∈ s.started, s.body u ≠ none := hseq.body
  have hlen : (s.log.results (s.started.take i)).length = i := by
    rw [Log.length_results (fun u hmem => hbody u (List.mem_of_mem_take hmem)) hold, List.length_take]
    omega
  have hlast : s.log.results [t] = [a] := Log.results_singleton (hbody t (List.mem_of_getElem? hs)) hfate
  show (s.log.results (s.started.take (i + 1)))[i]? = some a
  rw [htake, Log.results_append, hlast, List.getElem?_append_right hlen.le, hlen, Nat.sub_self]
  rfl

/-- The interpreter on the bodies up to the one whose panic is recorded, or further. -/
theorem Inv.interpret_of_panicked (hi : Inv B v₀ s) (hu : s.Undisturbed) {p : PanicPayload} (hp : (t, p) ∈ s.panics)
    (hle : s.started.length ≤ i + 1) : ∃ n r, B.interpret n (s.bodies.take (i + 1)) v₀ = some r ∧
      r.panic = some p ∧ r.returned.length + 1 = s.started.length := by
  obtain ⟨v, -, hseq⟩ := hi.replay.sequential
  obtain ⟨ts, hts⟩ := hi.last_of_panicked hp
  obtain ⟨rest, hrest⟩ := hu.started_prefix hi
  obtain ⟨n, hn⟩ := hseq.interpret_panicked hts (hi.channels.recorded t p hp)
    ((rest.take (i + 1 - s.started.length)).filterMap s.body)
  refine ⟨n, ⟨v, s.log.results ts, some p⟩, ?_, rfl, ?_⟩
  · rw [hi.take_bodies, ← hrest, List.take_append, List.take_of_length_le hle, List.filterMap_append]
    exact hn
  · have hbody : ∀ u ∈ ts, s.body u ≠ none := fun u hmem => hseq.body u (by simp [log, hts, hmem])
    have hlen : (s.log.results ts).length = ts.length := Log.length_results hbody (hseq.before ts t hts)
    simp [hlen, hts]

/-- When a panic is recorded a task whose senders were dropped has not started. -/
theorem Inv.not_started_of_closed (hi : Inv B v₀ s) {p : PanicPayload} {u : ℕ} (hp : (u, p) ∈ s.panics)
    (hk : (s.tasks t).Closed) : t ∉ s.started := by
  obtain ⟨-, -, hg⟩ := hi.status.recorded u p hp
  have hout : s.worker.out? ≠ some .aborted := by
    intro ho
    cases hw : s.worker <;> rw [hw] at ho hg <;> grind
  intro hs
  have hto := hi.takers_of_started hs
  have hnot := (hi.channels.resultDropped t hto hk.1).2
  obtain ⟨ts, hts⟩ := hi.last_of_panicked hp
  obtain ⟨v, -, hseq⟩ := hi.replay.sequential
  have htu : t = u := by
    by_contra hne
    obtain ⟨r, hr⟩ := hseq.before ts u hts t (by simpa [hts, hne] using hs)
    exact hnot r hr
  have hfate : s.fate t = .panicked p := by rw [htu]; exact hi.channels.recorded u p hp
  rcases hi.channels.panicDropped t hto hk.2 with ⟨a, ha⟩ | ho | ⟨-, hx⟩
  · cases ha.symm.trans hk.1
  · exact hout ho
  · simp [hfate] at hx

/-- **The handles agree with the interpreter.** -/
theorem Inv.outcome_eq (hi : Inv B v₀ s) (hu : s.Undisturbed) (ht : s.remaining[i]? = some t)
    {res : Except TaskError R} (hr : (s.tasks t).handle = .resolved res) :
    ∃ n r, B.interpret n (s.bodies.take (i + 1)) v₀ = some r ∧ outcomeOf r i = some res := by
  have hmem : t ∈ s.remaining := List.mem_of_getElem? ht
  have hnc : s.cancelled t = false := by simpa using (List.mem_filter.mp hmem).2
  have hacc := (hi.ending.accepted t).mp (List.mem_filter.mp hmem).1
  have hexpl := hi.handles.resolved t res hr hacc
  have hcall : ∀ j, (s.tasks t).takers ≠ [.canceller j] := fun j hj => by simp [cancelled, hj] at hnc
  cases res with
  | ok a => exact hi.outcome_of_completed hu ht (hi.channels.sent t a hexpl)
  | error e =>
    cases e with
    | taskPanic p =>
      obtain ⟨hfate, hp⟩ := hi.channels.panicSent t p hexpl
      obtain ⟨ts, hts⟩ := hi.last_of_panicked hp
      have hs := hu.started_getElem hi ht (hi.started_of_fate (by simp [hfate]))
      have hlast : s.started[ts.length]? = some t := by simp [hts]
      have hi' : i = ts.length :=
        (List.getElem?_inj (List.getElem?_eq_some_iff.mp hs).1 hi.started_nodup).mp (hs.trans hlast.symm)
      obtain ⟨n, r, hn, hpanic, hlen⟩ := hi.interpret_of_panicked hu hp (i := i) (by simp [hts, hi'])
      exact ⟨n, r, hn, outcomeOf_panic hpanic (by simp [hts] at hlen; omega)⟩
    | prevTaskPanic msg =>
      obtain ⟨hk, u, p, hp, rfl⟩ := hexpl
      have hle := hu.length_started_le hi ht (hi.not_started_of_closed hp hk)
      obtain ⟨n, r, hn, hpanic, hlen⟩ := hi.interpret_of_panicked hu hp (hle.trans (Nat.le_succ i))
      exact ⟨n, r, hn, outcomeOf_after hpanic (by omega)⟩
    | taskCancelled =>
      rcases hi.handles.isCancelled t hexpl.2 with ⟨j, hj⟩ | hh
      · exact absurd hj (hcall j)
      · exact absurd hh (hu.takers_ne_handle hi)
    | runtimeShutdown =>
      rcases hexpl.2 with hd | ⟨j, hj⟩
      · simp [hu.up] at hd
      · exact absurd hj (hcall j)
    | workerAborted =>
      obtain ⟨-, op, hop, ho⟩ := hexpl
      simp [(hu.op op hop).1] at ho
    | workerCancelled =>
      obtain ⟨-, op, hop, ho⟩ := hexpl
      simp [(hu.op op hop).2] at ho
    | taskSpawnerUnavailable => exact hexpl.elim

/-- **The worker agrees with the sequential interpreter.** While nobody aborts or
cancels the worker and the runtime is up: a join that has returned returned what
the interpreter yields on the remaining bodies; a handle that has resolved has
resolved to what it yields for its task, on the bodies up to that one and on all
of them; and two runs with the same bodies report the same. -/
theorem worker_refines_interpreter (h : Reachable B v₀ s) (hu : s.Undisturbed) :
    (∀ res, s.handle = .returned .join res → ∃ n r, B.interpret n s.bodies v₀ = some r ∧ res = joinOf r) ∧
    (∀ i t res, s.remaining[i]? = some t → (s.tasks t).handle = .resolved res →
      (∃ n r, B.interpret n (s.bodies.take (i + 1)) v₀ = some r ∧ outcomeOf r i = some res) ∧
      ∀ n r, B.interpret n s.bodies v₀ = some r → outcomeOf r i = some res) ∧
    ∀ s' : Sys S F R, Reachable B v₀ s' → s'.Undisturbed → s'.bodies = s.bodies →
      (∀ res res', s.handle = .returned .join res → s'.handle = .returned .join res' → res = res') ∧
      ∀ (i t t' : ℕ) res res', s.remaining[i]? = some t → s'.remaining[i]? = some t' →
        (s.tasks t).handle = .resolved res → (s'.tasks t').handle = .resolved res' → res = res' := by
  have hi := inv_of_reachable h
  refine ⟨fun res hh => hi.join_eq hu hh, fun i t res ht hr => ?_, fun s' h' hu' hb => ⟨?_, ?_⟩⟩
  · obtain ⟨n, r, hn, hx⟩ := hi.outcome_eq hu ht hr
    refine ⟨⟨n, r, hn, hx⟩, fun m r' hm => ?_⟩
    rw [← List.take_append_drop (i + 1) s.bodies] at hm
    exact outcomeOf_append hm hn hx
  · intro res res' hh hh'
    obtain ⟨n, r, hn, hres⟩ := hi.join_eq hu hh
    obtain ⟨m, r', hm, hres'⟩ := (inv_of_reachable h').join_eq hu' hh'
    rw [hb] at hm
    rw [hres, hres', B.interpret_unique hn hm]
  · intro i t t' res res' ht ht' hr hr'
    obtain ⟨n, r, hn, hx⟩ := hi.outcome_eq hu ht hr
    obtain ⟨m, r', hm, hx'⟩ := (inv_of_reachable h').outcome_eq hu' ht' hr'
    rw [hb] at hm
    rw [B.interpret_unique hn hm] at hx
    exact Option.some.inj (hx.symm.trans hx')

/-- Four tasks, of which the second is cancelled and the third panics, then a join. -/
def demoFour : Sys ℕ ℕ ℕ := (demoExec
  [(1, .spawn .worker (.async 0)), (1, .spawn .worker (.async 5)), (1, .spawn .worker (.blocking 1)),
    (1, .spawn .worker (.async 0)), (1, .cancel 0 1), (6, .cancelStep 0), (1, .consume .join), (2, .handle),
    (1, .pollWorker), (16, .worker), (5, .pool), (1, .pollWorker), (10, .worker), (6, .handle), (1, .poll 3),
    (5, .pollStep 3 .left)]).get rfl

theorem demoFour_reachable : Reachable demo 0 demoFour := demo_reachable rfl

theorem demoFour_undisturbed : demoFour.Undisturbed := ⟨rfl, fun op hop => by cases hop; exact ⟨rfl, rfl⟩⟩

theorem worker_refines_interpreter_demo : demoFour.remaining = [0, 2, 3] ∧ demoFour.bodies = [0, 1, 0] ∧
    (∃ n r, demo.interpret n demoFour.bodies 0 = some r ∧ .error ⟨.anyTaskPanic (some "ten") 11⟩ = joinOf r) ∧
    ∃ n r, demo.interpret n (demoFour.bodies.take 3) 0 = some r ∧
      outcomeOf r 2 = some (.error (.prevTaskPanic (some "ten"))) :=
  ⟨rfl, rfl, (worker_refines_interpreter demoFour_reachable demoFour_undisturbed).1 _ rfl,
    ((worker_refines_interpreter demoFour_reachable demoFour_undisturbed).2.1 2 3 _ rfl rfl).1⟩

end Sys

end AsyncSequential
