import AsyncSequential.Invariant

/-!
# The receiver of every task

The receiver of every accepted task runs one of the schedules of `Receiver`, with the
system for its surroundings (`receiving_of_reachable`), so its wakers are in order
(`wakers_of_reachable`): a poll that was not cut short has registered its waker with
every channel it has found nothing in, one that was has woken it, and whoever sends or
drops a sender wakes a waker that is registered.
-/

namespace AsyncSequential

variable {S F R : Type*}

/-- The poll has polled the panic channel. -/
@[grind] def PollPc.polledPanic : PollPc → Bool
  | .resultRx | .pendingFlag | .pending | .cancel _ => true
  | .fresh | .panicRx | .isCancelled | .flag | .panicMsg => false

/-- The poll has polled both channels. -/
@[grind] def PollPc.polledBoth : PollPc → Bool
  | .pendingFlag | .pending | .cancel _ => true
  | .fresh | .panicRx | .resultRx | .isCancelled | .flag | .panicMsg => false

/-- Where the owner of its receiver is. -/
def PollPc.receiverPc : PollPc → ReceiverPc R
  | .fresh => .fresh
  | .panicRx => .panicRx
  | .resultRx => .resultRx
  | .pendingFlag | .pending | .cancel _ => .pending
  | .isCancelled | .flag | .panicMsg => .resolved (.error none)

theorem PollPc.polledPanic_receiverPc (pc : PollPc) :
    (pc.receiverPc : ReceiverPc R).polledPanic = pc.polledPanic := by
  cases pc <;> rfl

theorem PollPc.polledBoth_receiverPc (pc : PollPc) :
    (pc.receiverPc : ReceiverPc R).polledBoth = pc.polledBoth := by
  cases pc <;> rfl

/-- What a handle shows of its receiver. -/
inductive Shows : TaskHandle R → ReceiverPc R → Prop
  | spawned (pc : PollPc) : Shows (.spawned pc) pc.receiverPc
  | ok {r : R} : Shows (.resolved (.ok r)) (.resolved (.ok r))
  | taskPanic {p : PanicPayload} :
      Shows (.resolved (.error (.taskPanic p))) (.resolved (.error (some p)))
  /-- Both channels were closed, and the handle has looked for the cause. -/
  | cause {e : TaskError} (he : ∀ p, e ≠ .taskPanic p) :
      Shows (.resolved (.error e)) (.resolved (.error none))
  /-- The handle has cancelled its own task while its receiver waited. -/
  | cancelled : Shows (.resolved (.error .workerCancelled)) .pending

theorem shows_ofReady (o : TaskResult R) : Shows (Sys.ofReady o) (.resolved o) := by
  rcases o with (_ | p) | r
  · exact .spawned .isCancelled
  · exact .taskPanic
  · exact .ok

/-- `q` is the receiver of the task, as it runs on its own. -/
structure Shadows (k : Task F R) (q : Receiving R) : Prop where
  receiver : q.receiver = k.receiver
  handle : Shows k.handle q.pc

theorem Shadows.pc_eq {k : Task F R} {q : Receiving R} {pc : PollPc} (h : Shadows k q)
    (hh : k.handle = .spawned pc) : q.pc = pc.receiverPc := by
  have hs := h.handle
  rw [hh] at hs
  generalize q.pc = x at hs
  cases hs
  rfl

namespace Sys

variable {B : Bodies S F R PanicPayload} {v₀ : S} {s s' : Sys S F R} {t : ℕ}

/-! ### The schedule of a task's receiver -/

/-- The channels of a task tell one outcome. -/
theorem Inv.oneSent (h : Inv B v₀ s) (t : ℕ) : (s.tasks t).receiver.OneSent := fun r p hr hp => by
  cases (h.channels.sent t r hr).symm.trans (h.channels.panicSent t p hp).1

/-- What a cancel does to a receiver. -/
theorem steps_of_cancelMove {o : Owner} {x : Taker} {c c' : CancelPc} {g : Task F R → Task F R}
    {q : Receiving R} (hm : CancelMove s t o x c g c') (hq : q.receiver = (s.tasks t).receiver) :
    ∃ q', Runs.Steps Receiving.next Runs.Any q q' ∧
      q'.receiver = (g (s.tasks t)).receiver ∧ q'.pc = q.pc := by
  cases hm with
  | dropRaw => exact ⟨_, Receiving.steps_dropResult, by rw [Receiving.modResult, hq]; rfl, rfl⟩
  | dropPanicTx => exact ⟨_, Receiving.steps_dropPanic, by rw [Receiving.modPanic, hq]; rfl, rfl⟩
  | upgrade | upgradeFailed | take | takeFailed | store => exact ⟨q, .refl, hq, rfl⟩

/-- What a poll does to a receiver. -/
theorem steps_of_pollMove {b : Budget} {g : Task F R → Task F R} {q : Receiving R} (hm : PollMove s t b g)
    (hq : Shadows (s.tasks t) q) :
    ∃ q', Runs.Steps Receiving.next Runs.Any q q' ∧ Shadows (g (s.tasks t)) q' := by
  have hstay : ∀ {pc h}, (s.tasks t).handle = .spawned pc → Shows h (pc.receiverPc : ReceiverPc R) →
      ∃ q', Runs.Steps Receiving.next Runs.Any q q' ∧ Shadows ((s.tasks t).setHandle h) q' :=
    fun hh hs => ⟨q, .refl, hq.receiver, by rw [hq.pc_eq hh]; exact hs⟩
  cases hm with
  | @panicRx x hh hx =>
    have hn : q.next (.inner b) = some ⟨x, .resultRx⟩ := by
      simp only [Receiving.next, Receiving.inner, hq.pc_eq hh, PollPc.receiverPc, hq.receiver, hx]
    exact ⟨_, .single trivial hn, rfl, .spawned .resultRx⟩
  | @panicRxReady x o hh hx =>
    have hn : q.next (.inner b) = some ⟨x, .resolved o⟩ := by
      simp only [Receiving.next, Receiving.inner, hq.pc_eq hh, PollPc.receiverPc, hq.receiver, hx]
    exact ⟨_, .single trivial hn, rfl, shows_ofReady o⟩
  | @resultRx x hh hx =>
    have hn : q.next (.inner b) = some ⟨x, .pending⟩ := by
      simp only [Receiving.next, Receiving.inner, hq.pc_eq hh, PollPc.receiverPc, hq.receiver, hx]
    exact ⟨_, .single trivial hn, rfl, .spawned .pendingFlag⟩
  | @resultRxReady x o hh hx =>
    have hn : q.next (.inner b) = some ⟨x, .resolved o⟩ := by
      simp only [Receiving.next, Receiving.inner, hq.pc_eq hh, PollPc.receiverPc, hq.receiver, hx]
    exact ⟨_, .single trivial hn, rfl, shows_ofReady o⟩
  | notCancelled hh | panicked hh | pendingCancel hh | pending hh | cancelFailed hh =>
    exact hstay hh (.spawned _)
  | isCancelled hh | aborted hh | cancelled hh | shutdown hh | panicMsg hh =>
    exact hstay hh (.cause (by simp))
  | cancelDone hh => exact hstay hh .cancelled
  | @cancel c c' g hh hm =>
    obtain ⟨q', hs, hrx, hpc⟩ := steps_of_cancelMove hm hq.receiver
    exact ⟨q', hs, hrx, by rw [hpc, hq.pc_eq hh]; exact .spawned (.cancel c')⟩

/-- What a step does to the receiver of an accepted task. -/
theorem steps_of_move {a : Act F} {q : Receiving R} (h : Inv B v₀ s) (m : Move B s a s')
    (hk : (s.tasks t).cancellable = true) (hq : Shadows (s.tasks t) q) :
    ∃ q', Runs.Steps Receiving.next Runs.Any q q' ∧ Shadows (s'.tasks t) q' := by
  have hone := (h.move m).oneSent t
  have hnew : t ≠ s.next := (h.cells.lt_of_cancellable hk).ne
  have hchange := taskChange_of_move m t
  generalize s'.tasks t = k at hchange hone
  cases hchange with
  | same | take | skip | release | dealloc => exact ⟨q, .refl, hq.receiver, hq.handle⟩
  | accept ht | reject ht => exact absurd ht hnew
  | @sendResult r =>
    have he : (q.modResult (·.send r)).receiver = ((s.tasks t).sendResult r).receiver := by
      rw [Receiving.modResult, hq.receiver]; rfl
    exact ⟨_, Receiving.steps_sendResult (he ▸ hone), he, hq.handle⟩
  | closeResult =>
    exact ⟨_, Receiving.steps_dropResult, by rw [Receiving.modResult, hq.receiver]; rfl, hq.handle⟩
  | closePanic =>
    exact ⟨_, Receiving.steps_dropPanic, by rw [Receiving.modPanic, hq.receiver]; rfl, hq.handle⟩
  | @sendPanic p =>
    have he : (q.modPanic (·.send p)).receiver = ((s.tasks t).sendPanic p).receiver := by
      rw [Receiving.modPanic, hq.receiver]; rfl
    exact ⟨_, Receiving.steps_sendPanic (he ▸ hone), he, hq.handle⟩
  | call _ _ hm =>
    obtain ⟨q', hs, hrx, hpc⟩ := steps_of_cancelMove hm hq.receiver
    have hhandle : Shows _ q'.pc := hpc ▸ hq.handle
    exact ⟨q', hs, hrx, by cases hm <;> exact hhandle⟩
  | pollStart hh =>
    have hn : q.next .poll = some ⟨(s.tasks t).receiver.renew, .panicRx⟩ := by
      rcases hh with hh | hh <;>
        simp only [Receiving.next, hq.pc_eq hh, PollPc.receiverPc, hq.receiver]
    exact ⟨_, .single trivial hn, rfl, .spawned .panicRx⟩
  | poll hm => exact steps_of_pollMove hm hq
  | unspawned hh =>
    have hm := rejectMove_of_unspawned hh
    rcases h.handles.spawned t hk with ⟨pc, hold⟩ | ⟨res, hold⟩
    · exact absurd hold (hm.not_spawned pc)
    · exact absurd hold (hm.not_resolved res)

/-- `q` is the receiver of `t`, or a new one while `t` is not accepted. -/
def Follows (t : ℕ) (s : Sys S F R) (q : Receiving R) : Prop :=
  (s.tasks t).cancellable = true ∧ Shadows (s.tasks t) q ∨
    (s.tasks t).cancellable = false ∧ q = Receiving.init

theorem follows_of_step {a : Act F} {q : Receiving R} (h : Reachable B v₀ s) (hq : Follows t s q)
    (hs : Sys.step B s a = some s') :
    ∃ q', Runs.Steps Receiving.next Runs.Any q q' ∧ Follows t s' q' := by
  have m := move_of_step hs
  have hi := inv_of_reachable h
  rcases hq with ⟨hk, hq⟩ | ⟨hk, rfl⟩
  · obtain ⟨q', hsteps, hq'⟩ := steps_of_move hi m hk hq
    exact ⟨q', hsteps, .inl ⟨(cancellable_of_lt m (hi.cells.lt_of_cancellable hk)).trans hk, hq'⟩⟩
  · cases hk' : (s'.tasks t).cancellable with
    | false => exact ⟨_, .refl, .inr ⟨hk', rfl⟩⟩
    | true =>
      rcases accepted_of_change (taskChange_of_move m t) hk' with hold | ⟨-, raw, he⟩
      · cases hk.symm.trans hold
      · exact ⟨_, .refl, .inl ⟨hk', he ▸ ⟨rfl, .spawned .fresh⟩⟩⟩

/-- **The receiver of every accepted task runs a schedule**: a step of the system is
some steps of the receiver, or none. -/
theorem receiving_of_reachable (h : Reachable B v₀ s) (hk : (s.tasks t).cancellable = true) :
    ∃ q, Receiving.Reaches q ∧ Shadows (s.tasks t) q := by
  have hinit : Follows t (init v₀ : Sys S F R) Receiving.init := .inr ⟨rfl, rfl⟩
  obtain ⟨q, hreach, ⟨-, hq⟩ | ⟨hn, -⟩⟩ :=
    Runs.Steps.simulate h hinit fun _ _ _ _ hu hq _ hs => follows_of_step hu.any hq hs
  · exact ⟨q, hreach, hq⟩
  · cases hk.symm.trans hn

/-! ### The wakers along a run -/

/-- The wakers of every handle are in order. -/
def Wakers (s : Sys S F R) : Prop :=
  ∀ t pc, (s.tasks t).handle = .spawned pc → WakersAt (s.tasks t).receiver pc.polledPanic pc.polledBoth

theorem wakers_of_reachable (h : Reachable B v₀ s) : s.Wakers := by
  intro t pc hh
  have hacc := (inv_of_reachable h).handles.unspawned t pc hh
  obtain ⟨q, hreach, hq⟩ := receiving_of_reachable h hacc
  have hw := (Receiving.sound_of_reaches hreach).wakers
  rwa [hq.pc_eq hh, pc.polledPanic_receiverPc, pc.polledBoth_receiverPc, hq.receiver] at hw

end Sys

end AsyncSequential
