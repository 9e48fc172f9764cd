import AsyncSequential.Spawners

/-!
# What cannot happen

The crate panics on its own account in four places, and gives up in three more
when it has lost a race. Each of these is excluded by a fact about the whole: the
handle is consumed by value, so nobody sends through it while it is; the state is
taken once; a join waits for the worker; and the worker releases its guard before
it locks again.
-/

namespace AsyncSequential

variable {S F R : Type*}

/-- A join has begun to take the state: it holds the guard, or has the state. -/
def HandlePc.taking (h : HandlePc S) : Bool := h.guards || h.state?.isSome

namespace Sys

variable {B : Bodies S F R PanicPayload} {v₀ : S} {s s' : Sys S F R} {t : ℕ}

/-! ### Who sends through the worker handle -/

/-- The call of `spawn` for task `t` by `via` has not returned. -/
def SendFailing (s : Sys S F R) (via : Via) (t : ℕ) : Prop :=
  (s.tasks t).handle = .sendFailed via ∨ (s.tasks t).handle = .sendFailedMsg via

theorem Cells.sending (hc : s.Cells) {via : Via} (h : s.SendFailing via t) : s.sending via = true := by
  have hlt : t < s.next := hc.lt_of_handle (by rcases h with h | h <;> rw [h] <;> nofun)
  rw [Sys.sending, List.any_eq_true]
  refine ⟨t, List.mem_range.mpr hlt, ?_⟩
  rcases h with h | h <;> rw [h] <;> simp

/-- A call that has not returned had not before, or its send fails now. -/
theorem sendFailing_of_move {a : Act F} (m : Move B s a s') {via : Via} (h : s'.SendFailing via t) :
    s.SendFailing via t ∨ s.CanSend via ∧ s'.handle = s.handle := by
  have hhandle : t = s.next → s'.next = s.next + 1 → s'.handle = s.handle := by
    intro _ hn
    cases m with
    | spawn m => cases m <;> rfl
    | worker m | runtime m | pool m | call m | taskHandle m | spawner m | handle m =>
      cases m <;> exact absurd hn (Nat.succ_ne_self _).symm
  have hchange := taskChange_of_move m t
  unfold SendFailing at h
  generalize s'.tasks t = k at hchange h
  have hold : ∀ {k' : Task F R}, k'.handle = (s.tasks t).handle →
      k'.handle = .sendFailed via ∨ k'.handle = .sendFailedMsg via → s.SendFailing via t := by
    intro k' he hk
    rwa [he] at hk
  cases hchange with
  | same | take | skip | sendResult | closeResult | closePanic | sendPanic | release | dealloc =>
    exact .inl (hold rfl h)
  | accept | pollStart => rcases h with h | h <;> cases h
  | reject ht hn hh =>
    rcases hh with ⟨via', rfl, -, hv⟩ | rfl
    · rcases h with h | h <;> cases h
      exact .inr ⟨hv, hhandle ht hn⟩
    · rcases h with h | h <;> cases h
  | call _ _ hm => cases hm <;> exact .inl (hold rfl h)
  | poll hm =>
    rcases hm.outcome with ⟨pc, hg⟩ | ⟨res, hg⟩ <;> rcases h with h | h <;> cases hg.symm.trans h
  | unspawned hu =>
    cases rejectMove_of_unspawned hu with
    | panicked hh =>
      rcases h with h | h <;> cases h
      exact .inl (.inl hh)
    | panicMsg | shutdown | closed | resolve => rcases h with h | h <;> cases h

/-- Nobody sends through a handle that has been consumed. -/
theorem live_of_sendFailing (h : Reachable B v₀ s) (ht : s.SendFailing .worker t) : s.handle = .live := by
  refine h.invariant (P := fun u => u.SendFailing .worker t → u.handle = .live) (fun ht => ?_)
    (fun u v a hr hP _ hs hv => ?_) ht
  · rcases ht with ht | ht <;> cases ht
  · have m := move_of_step hs
    rcases sendFailing_of_move m hv with hu | ⟨hcan, hsame⟩
    · have hlive := hP hu
      have hsend := (inv_of_reachable hr).cells.sending hu
      cases m with
      | handle m =>
        cases m with
        | consume _ hb => cases hb.symm.trans hsend
        | dropJoin hh => rcases hh with hh | ⟨out, hh⟩ <;> cases hh.symm.trans hlive
        | corrupted hh | stateMissing hh | finished hh | notFinished hh | setAbort hh | setCancel hh | setFailed hh
        | abortWorker hh | closeSenders hh | dropCtx hh | dropTx hh | workerEnded hh | lockState hh | takeState hh
        | unlockState hh | decideOk hh | decideAborted hh | decidePanicked hh | decideShutdown hh
        | readPanicMsg hh => cases hh.symm.trans hlive
      | worker m | runtime m | pool m | call m | taskHandle m | spawn m | spawner m => cases m <;> exact hlive
    · rcases hcan with ⟨-, hlive⟩ | ⟨i, hi, -⟩
      · exact hsame.trans hlive
      · cases hi

/-! ### The library's own panics -/

/-- A receiver that has not resolved is not polled after it has completed. -/
theorem ReceiverAt.polled {k : Task F R} (h : ReceiverAt k) (b : Budget) :
    k.receiver.pollPanicRx b ≠ none ∧ k.receiver.pollResultRx b ≠ none := (receiverAt_iff.mp h).polled b

/-- No step makes the library panic. -/
theorem fault_of_step {a : Act F} (h : Reachable B v₀ s) (m : Move B s a s') : s'.fault = s.fault := by
  have hi := inv_of_reachable h
  have hflag := hi.status.flag_ne_none
  cases m with
  | worker m =>
    cases m with
    | corrupted _ hf => exact absurd hf hflag
    | _ => rfl
  | call m =>
    cases m with
    | corrupted _ hf => exact absurd hf hflag
    | _ => rfl
  | taskHandle m =>
    cases m with
    | corrupted hf => exact absurd hf hflag
    | polledPanicRx hh hx => exact absurd hx (ReceiverAt.polled (hi.handles.receiver _ _ hh) _).1
    | polledResultRx hh hx => exact absurd hx (ReceiverAt.polled (hi.handles.receiver _ _ hh) _).2
    | _ => rfl
  | spawn m =>
    cases m with
    | corrupted _ hf => exact absurd hf hflag
    | unreachable hh hf =>
      have hlive := live_of_sendFailing h (.inl hh)
      rcases hf with hf | hf
      · obtain ⟨op, hop, -⟩ := hi.status.aborts hf
        rw [hlive] at hop
        cases hop
      · obtain ⟨op, hop, -⟩ := hi.status.cancels hf
        rw [hlive] at hop
        cases hop
    | _ => rfl
  | handle m =>
    cases m with
    | corrupted _ hf => exact absurd hf hflag
    | stateMissing hh hv =>
      have hs := hi.custody.value.mp hv
      rw [hh] at hs
      cases hs
    | _ => rfl
  | runtime m | pool m | spawner m => cases m <;> rfl

/-! ### The races that are not lost -/

/-- A closure that cannot have the state is a detached one, and a join has it. -/
theorem Inv.taking_of_gaveUp (h : Inv B v₀ s) {f : F}
    (hp : s.pool = .queued t f ∧ s.lock ≠ none ∨ s.pool = .locked t f ∧ s.value = none) :
    s.worker.phase = .over .aborted ∧ s.handle.taking = true := by
  have htask : s.pool.task = some t := by rcases hp with ⟨hp, -⟩ | ⟨hp, -⟩ <;> rw [hp] <;> rfl
  have hphase := h.custody.closure t htask
  rcases hp with ⟨hp, hl⟩ | ⟨hp, hv⟩
  · have hover := hphase.resolve_left fun ha => hl (h.custody.lock_eq_none ha (by rw [hp]; rfl))
    refine ⟨hover, ?_⟩
    obtain ⟨x, hx⟩ := Option.ne_none_iff_exists'.mp hl
    cases x with
    | worker => cases (h.custody.lock_worker.mp hx).symm.trans hover
    | pool =>
      have hg := h.custody.lock_pool.mp hx
      rw [hp] at hg
      cases hg
    | join => simp [HandlePc.taking, h.custody.lock_join.mp hx]
  · refine ⟨hphase.resolve_left fun ha => ?_, by simp [HandlePc.taking, h.custody.value.mp hv]⟩
    exact h.custody.value_ne_none (WorkerPc.ended?_of_awaiting ha) hv

/-- **The library's own panics and fallbacks are out of reach.** It never panics
itself; an async body always finds the mutex free and the state in it; and a
blocking closure finds them so too, unless the worker future was dropped by an
abort or a shutdown and a join has begun to take the state. -/
theorem no_fault (h : Reachable B v₀ s) :
    s.fault = none ∧
    (∀ t f, s.worker = .took t (.async f) → s.lock = none ∧ s.value.isSome = true) ∧
    ∀ t f, s.pool = .queued t f ∧ s.lock ≠ none ∨ s.pool = .locked t f ∧ s.value = none →
      s.worker.out? = some .aborted ∧ (s.aborting = true ∨ s.down = true) ∧ s.handle.taking = true := by
  have hi := inv_of_reachable h
  refine ⟨?_, fun t f hw => hi.custody.free hw, fun t f hp => ?_⟩
  · refine h.invariant (P := fun u => u.fault = none) rfl fun u v a hr hu _ hs => ?_
    exact (fault_of_step hr (move_of_step hs)).trans hu
  · obtain ⟨hover, htaking⟩ := hi.taking_of_gaveUp hp
    have hout := out?_eq_some.mpr hover
    refine ⟨hout, hi.ending.aborted ?_, htaking⟩
    cases hw : s.worker <;> rw [hw] at hout <;> simp_all [WorkerPc.out?, WorkerPc.wasDropped]

/-- A closure that is queued when its worker is aborted, and a join that is faster. -/
def demoRace : Sys ℕ ℕ ℕ := (demoExec
  [(1, .spawn .worker (.blocking 0)), (1, .pollWorker), (5, .worker), (1, .consume .abortAndJoin), (6, .handle),
    (1, .dropWorker), (4, .worker), (2, .handle)]).get rfl

theorem demoRace_reachable : Reachable demo 0 demoRace := demo_reachable rfl

theorem no_fault_demo : demoRace.pool = .queued 0 0 ∧ demoRace.lock = some .join ∧ demoRace.handle.taking = true :=
  ⟨rfl, rfl, ((no_fault demoRace_reachable).2.2 0 0 (.inl ⟨rfl, nofun⟩)).2.2⟩

end Sys

end AsyncSequential
