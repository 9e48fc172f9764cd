import AsyncSequential.Internal
import AsyncSequential.Lib.Runs

/-!
# The receiver of a task's result

`TaskResultReceiver` merges two channels, of which one tells how the task ended. Here
it is on its own, with a schedule for its surroundings: polls, each of at most two
inner polls, and between any two of these what the senders do. A sender sends once or
is dropped once, and the two never both send; the order is left open, and so is
whether an inner poll finds the budget of its task spent and is cut short. Whatever
the schedule, the receiver resolves to what the senders did.
-/

namespace AsyncSequential

variable {R : Type*}

/-! ### Schedules -/

/-- Where the owner of a `TaskResultReceiver` is. -/
inductive ReceiverPc (R : Type*) where
  /-- Never polled. -/
  | fresh
  /-- About to poll the panic channel. -/
  | panicRx
  /-- About to poll the result channel. -/
  | resultRx
  /-- The last poll returned `Pending`. -/
  | pending
  /-- A poll returned `Ready`. -/
  | resolved (o : TaskResult R)
  /-- A poll has panicked: it polled a channel that had completed. -/
  | repolled

/-- A receiver in use. -/
structure Receiving (R : Type*) where
  receiver : TaskResultReceiver R
  pc : ReceiverPc R

/-- What can come next in a schedule. -/
inductive ReceiverAct (R : Type*) where
  /-- A poll begins. -/
  | poll
  /-- The poll polls its next channel, with budget `b`. -/
  | inner (b : Budget)
  /-- The result sender sends `r`. -/
  | sendResult (r : R)
  /-- The result sender is dropped. -/
  | dropResult
  /-- The panic sender sends `p`. -/
  | sendPanic (p : PanicPayload)
  /-- The panic sender is dropped. -/
  | dropPanic

/-- An inner poll. -/
def ReceiverAct.isInner : ReceiverAct R → Bool
  | .inner _ => true
  | _ => false

/-- An inner poll that finds the budget spent. -/
def ReceiverAct.isCut : ReceiverAct R → Bool
  | .inner .spent => true
  | _ => false

/-- How many inner polls the poll in progress has left at most. -/
def ReceiverPc.left : ReceiverPc R → ℕ
  | .panicRx => 2
  | .resultRx => 1
  | _ => 0

/-- The poll has polled the panic channel. -/
def ReceiverPc.polledPanic : ReceiverPc R → Bool
  | .resultRx | .pending => true
  | .fresh | .panicRx | .resolved _ | .repolled => false

/-- The poll has polled both channels. -/
def ReceiverPc.polledBoth : ReceiverPc R → Bool
  | .pending => true
  | .fresh | .panicRx | .resultRx | .resolved _ | .repolled => false

namespace Receiving

/-- A new receiver, not polled yet. -/
def init : Receiving R := ⟨.new, .fresh⟩

/-- The result channel changes. -/
def modResult (q : Receiving R) (g : OneShot R → OneShot R) : Receiving R :=
  { q with receiver := { q.receiver with resultRx := g q.receiver.resultRx } }

/-- The panic channel changes. -/
def modPanic (q : Receiving R) (g : OneShot PanicPayload → OneShot PanicPayload) : Receiving R :=
  { q with receiver := { q.receiver with panicRx := g q.receiver.panicRx } }

/-- The poll in progress polls its next channel, and goes on or returns. -/
def inner (q : Receiving R) (b : Budget) : Option (Receiving R) :=
  match q.pc with
  | .panicRx =>
    match q.receiver.pollPanicRx b with
    | none => some { q with pc := .repolled }
    | some (x, .pending) => some ⟨x, .resultRx⟩
    | some (x, .ready o) => some ⟨x, .resolved o⟩
  | .resultRx =>
    match q.receiver.pollResultRx b with
    | none => some { q with pc := .repolled }
    | some (x, .pending) => some ⟨x, .pending⟩
    | some (x, .ready o) => some ⟨x, .resolved o⟩
  | _ => none

/-- What the schedule makes of the receiver; `none` when that cannot come next. -/
def next (q : Receiving R) : ReceiverAct R → Option (Receiving R)
  | .poll =>
    match q.pc with
    | .fresh | .pending => some ⟨q.receiver.renew, .panicRx⟩
    | _ => none
  | .inner b => q.inner b
  | .sendResult r =>
    match q.receiver.resultRx.tx, q.receiver.panicRx.tx with
    | .live, .live | .live, .dropped => some (q.modResult (·.send r))
    | _, _ => none
  | .dropResult =>
    match q.receiver.resultRx.tx with
    | .live => some (q.modResult (·.close))
    | _ => none
  | .sendPanic p =>
    match q.receiver.panicRx.tx, q.receiver.resultRx.tx with
    | .live, .live | .live, .dropped => some (q.modPanic (·.send p))
    | _, _ => none
  | .dropPanic =>
    match q.receiver.panicRx.tx with
    | .live => some (q.modPanic (·.close))
    | _ => none

/-- Some schedule leads from a new receiver to `q`. -/
def Reaches (q : Receiving R) : Prop := Runs.Steps next Runs.Any init q

/-- A step of a schedule, with what it found. -/
inductive ReceiverMove (q : Receiving R) : ReceiverAct R → Receiving R → Prop
  | poll (hpc : q.pc = .fresh ∨ q.pc = .pending) : ReceiverMove q .poll ⟨q.receiver.renew, .panicRx⟩
  | panicRepolled {b : Budget} (hpc : q.pc = .panicRx) (hx : q.receiver.pollPanicRx b = none) :
      ReceiverMove q (.inner b) { q with pc := .repolled }
  | panicPending {b : Budget} {x : TaskResultReceiver R} (hpc : q.pc = .panicRx)
      (hx : TaskResultReceiver.PanicPoll q.receiver b x .pending) :
      ReceiverMove q (.inner b) ⟨x, .resultRx⟩
  | panicReady {b : Budget} {x : TaskResultReceiver R} {o : TaskResult R} (hpc : q.pc = .panicRx)
      (hx : TaskResultReceiver.PanicPoll q.receiver b x (.ready o)) :
      ReceiverMove q (.inner b) ⟨x, .resolved o⟩
  | resultRepolled {b : Budget} (hpc : q.pc = .resultRx) (hx : q.receiver.pollResultRx b = none) :
      ReceiverMove q (.inner b) { q with pc := .repolled }
  | resultPending {b : Budget} {x : TaskResultReceiver R} (hpc : q.pc = .resultRx)
      (hx : TaskResultReceiver.ResultPoll q.receiver b x .pending) :
      ReceiverMove q (.inner b) ⟨x, .pending⟩
  | resultReady {b : Budget} {x : TaskResultReceiver R} {o : TaskResult R} (hpc : q.pc = .resultRx)
      (hx : TaskResultReceiver.ResultPoll q.receiver b x (.ready o)) :
      ReceiverMove q (.inner b) ⟨x, .resolved o⟩
  | sendResult {r : R} (ht : q.receiver.resultRx.tx = .live)
      (hp : ∀ p, q.receiver.panicRx.tx ≠ .sent p) :
      ReceiverMove q (.sendResult r) (q.modResult (·.send r))
  | dropResult (ht : q.receiver.resultRx.tx = .live) :
      ReceiverMove q .dropResult (q.modResult (·.close))
  | sendPanic {p : PanicPayload} (ht : q.receiver.panicRx.tx = .live)
      (hr : ∀ r, q.receiver.resultRx.tx ≠ .sent r) :
      ReceiverMove q (.sendPanic p) (q.modPanic (·.send p))
  | dropPanic (ht : q.receiver.panicRx.tx = .live) :
      ReceiverMove q .dropPanic (q.modPanic (·.close))

theorem receiverMove_of_inner {q q' : Receiving R} {b : Budget} (h : q.inner b = some q') :
    ReceiverMove q (.inner b) q' := by
  unfold inner at h
  split at h
  case h_1 hpc =>
    split at h
    · rename_i hx; cases h; exact .panicRepolled hpc hx
    · rename_i x hx; cases h; exact .panicPending hpc (TaskResultReceiver.panicPoll_of_eq hx)
    · rename_i x o hx; cases h; exact .panicReady hpc (TaskResultReceiver.panicPoll_of_eq hx)
  case h_2 hpc =>
    split at h
    · rename_i hx; cases h; exact .resultRepolled hpc hx
    · rename_i x hx; cases h; exact .resultPending hpc (TaskResultReceiver.resultPoll_of_eq hx)
    · rename_i x o hx; cases h; exact .resultReady hpc (TaskResultReceiver.resultPoll_of_eq hx)
  case h_3 => cases h

theorem receiverMove_of_next {q q' : Receiving R} {a : ReceiverAct R} (h : q.next a = some q') :
    ReceiverMove q a q' := by
  cases a with
  | poll =>
    simp only [next] at h
    split at h <;> cases h
    · rename_i hpc; exact .poll (.inl hpc)
    · rename_i hpc; exact .poll (.inr hpc)
  | inner b => exact receiverMove_of_inner h
  | sendResult r =>
    simp only [next] at h
    split at h <;> cases h
    · rename_i ht hp; exact .sendResult ht (by simp [hp])
    · rename_i ht hp; exact .sendResult ht (by simp [hp])
  | dropResult =>
    simp only [next] at h
    split at h <;> cases h
    rename_i ht; exact .dropResult ht
  | sendPanic p =>
    simp only [next] at h
    split at h <;> cases h
    · rename_i ht hr; exact .sendPanic ht (by simp [hr])
    · rename_i ht hr; exact .sendPanic ht (by simp [hr])
  | dropPanic =>
    simp only [next] at h
    split at h <;> cases h
    rename_i ht; exact .dropPanic ht

end Receiving

/-! ### What the channels say -/

namespace TaskResultReceiver

variable {x x' : TaskResultReceiver R} {o o' : TaskResult R}

/-- What has become of the task, as its senders tell it. -/
inductive Outcome (x : TaskResultReceiver R) : TaskResult R → Prop
  | panic {p : PanicPayload} (hp : x.panicRx.tx = .sent p) : Outcome x (.error (some p))
  | result {r : R} (hr : x.resultRx.tx = .sent r) : Outcome x (.ok r)
  | closed (hp : x.panicRx.tx = .dropped) (hr : x.resultRx.tx = .dropped) : Outcome x (.error none)

/-- Not both senders have sent. -/
def OneSent (x : TaskResultReceiver R) : Prop :=
  ∀ r p, x.resultRx.tx = .sent r → x.panicRx.tx ≠ .sent p

theorem OneSent.congr (h : x.OneSent)
    (htx : x'.resultRx.tx = x.resultRx.tx ∧ x'.panicRx.tx = x.panicRx.tx) : x'.OneSent := by
  unfold OneSent at *
  rwa [htx.1, htx.2]

/-- There is one outcome. -/
theorem Outcome.unique (h : Outcome x o) (h' : Outcome x o') (hone : x.OneSent) : o = o' := by
  cases h with
  | panic hp =>
    cases h' with
    | panic hp' => cases hp.symm.trans hp'; rfl
    | result hr' => exact absurd hp (hone _ _ hr')
    | closed hp' => cases hp.symm.trans hp'
  | result hr =>
    cases h' with
    | panic hp' => exact absurd hp' (hone _ _ hr)
    | result hr' => cases hr.symm.trans hr'; rfl
    | closed _ hr' => cases hr.symm.trans hr'
  | closed hp hr =>
    cases h' with
    | panic hp' => cases hp.symm.trans hp'
    | result hr' => cases hr.symm.trans hr'
    | closed => rfl

/-- Polls do not change it. -/
theorem Outcome.congr (h : Outcome x o)
    (htx : x'.resultRx.tx = x.resultRx.tx ∧ x'.panicRx.tx = x.panicRx.tx) : Outcome x' o := by
  cases h with
  | panic hp => exact .panic (htx.2.trans hp)
  | result hr => exact .result (htx.1.trans hr)
  | closed hp hr => exact .closed (htx.2.trans hp) (htx.1.trans hr)

/-- A receiver that has not resolved: a channel is marked ready when it has completed,
and has been closed then. -/
structure Unresolved (x : TaskResultReceiver R) : Prop where
  panicDone : x.panicRxReady = x.panicRx.rxDone
  resultDone : x.resultRxReady = x.resultRx.rxDone
  panicReady : x.panicRxReady = true → x.panicRx.tx = .dropped
  resultReady : x.resultRxReady = true → x.resultRx.tx = .dropped

theorem unresolved_new : (new : TaskResultReceiver R).Unresolved := ⟨rfl, rfl, nofun, nofun⟩

namespace Unresolved

theorem renew (h : x.Unresolved) : x.renew.Unresolved :=
  ⟨h.panicDone, h.resultDone, h.panicReady, h.resultReady⟩

/-- It polls no channel that has completed. -/
theorem polled (h : x.Unresolved) (b : Budget) : x.pollPanicRx b ≠ none ∧ x.pollResultRx b ≠ none := by
  obtain ⟨hp, hr, -, -⟩ := h
  refine ⟨fun hn => ?_, fun hn => ?_⟩
  · unfold pollPanicRx at hn
    split_ifs at hn with hready
    have hpoll := OneShot.poll_ne_none (hp.symm.trans (Bool.eq_false_iff.mpr hready)) b
    split at hn
    · exact hpoll ‹_›
    all_goals cases hn
  · unfold pollResultRx at hn
    split_ifs at hn with hready
    have hpoll := OneShot.poll_ne_none (hr.symm.trans (Bool.eq_false_iff.mpr hready)) b
    split at hn
    · exact hpoll ‹_›
    all_goals cases hn

theorem sendResult (h : x.Unresolved) (r : R) :
    Unresolved { x with resultRx := x.resultRx.send r } :=
  { h with
    resultDone := h.resultDone.trans (OneShot.send_rxDone ..).symm
    resultReady := fun hd => by simp [h.resultReady hd, OneShot.Tx.send] }

theorem closeResult (h : x.Unresolved) : Unresolved { x with resultRx := x.resultRx.close } :=
  { h with
    resultDone := h.resultDone.trans (OneShot.close_rxDone ..).symm
    resultReady := fun hd => by simp [h.resultReady hd, OneShot.Tx.close] }

theorem sendPanic (h : x.Unresolved) (p : PanicPayload) :
    Unresolved { x with panicRx := x.panicRx.send p } :=
  { h with
    panicDone := h.panicDone.trans (OneShot.send_rxDone ..).symm
    panicReady := fun hd => by simp [h.panicReady hd, OneShot.Tx.send] }

theorem closePanic (h : x.Unresolved) : Unresolved { x with panicRx := x.panicRx.close } :=
  { h with
    panicDone := h.panicDone.trans (OneShot.close_rxDone ..).symm
    panicReady := fun hd => by simp [h.panicReady hd, OneShot.Tx.close] }

/-- The first half of a poll that goes on. -/
theorem panicPoll {b : Budget} (h : x.Unresolved) (hx : PanicPoll x b x' .pending) : x'.Unresolved := by
  cases hx with
  | ready => exact h
  | live | cut => exact { h with }
  | dropped _ ht => exact { h with panicDone := rfl, panicReady := fun _ => ht }

/-- The second half of a poll that finds no result. -/
theorem resultPoll {b : Budget} {out : Poll (TaskResult R)} (h : x.Unresolved) (hx : ResultPoll x b x' out)
    (ho : ∀ r, out ≠ .ready (.ok r)) : x'.Unresolved := by
  cases hx with
  | ready => exact h
  | live | cut => exact { h with }
  | dropped _ ht => exact { h with resultDone := rfl, resultReady := fun _ => ht }
  | sent => exact absurd rfl (ho _)

end Unresolved

end TaskResultReceiver

/-! ### Wakers -/

/-- One of the channels has woken the waker. -/
def TaskResultReceiver.Notified (x : TaskResultReceiver R) : Prop := x.resultRx.Notified ∨ x.panicRx.Notified

/-- One of the inner polls was cut short, and has woken the waker. -/
def TaskResultReceiver.Cut (x : TaskResultReceiver R) : Prop := x.resultRx.Cut ∨ x.panicRx.Cut

/-- The waker has been woken. -/
def TaskResultReceiver.Woken (x : TaskResultReceiver R) : Prop := x.resultRx.Woken ∨ x.panicRx.Woken

instance (x : TaskResultReceiver R) : Decidable x.Notified := inferInstanceAs (Decidable (_ ∨ _))
instance (x : TaskResultReceiver R) : Decidable x.Cut := inferInstanceAs (Decidable (_ ∨ _))
instance (x : TaskResultReceiver R) : Decidable x.Woken := inferInstanceAs (Decidable (_ ∨ _))

theorem TaskResultReceiver.woken_iff {x : TaskResultReceiver R} : x.Woken ↔ x.Notified ∨ x.Cut :=
  or_or_or_comm

/-- The wakers of a receiver whose handle has polled its panic channel when `p` is
true, and its result channel when `r` is true. -/
structure WakersAt (x : TaskResultReceiver R) (p r : Bool) : Prop where
  /-- A registered waker waits for a sender that is there. -/
  armedPanic : x.panicRx.Armed
  /-- So does the other. -/
  armedResult : x.resultRx.Armed
  /-- A channel that was polled is ready, or has the waker. -/
  panic : p = true → x.panicRxReady = false → x.panicRx.waker ≠ .none
  /-- So has the other. -/
  result : r = true → x.resultRxReady = false → x.resultRx.waker ≠ .none
  /-- A poll that goes on has not found both closed. -/
  waits : r = true → x.panicRxReady = true → x.resultRxReady = false

namespace WakersAt

variable {x x' : TaskResultReceiver R} {p p' r r' : Bool}

theorem new : WakersAt (.new : TaskResultReceiver R) false false :=
  ⟨OneShot.armed_channel, OneShot.armed_channel, nofun, nofun, nofun⟩

theorem renew (x : TaskResultReceiver R) : WakersAt x.renew false false :=
  ⟨OneShot.armed_renew _, OneShot.armed_renew _, nofun, nofun, nofun⟩

theorem sendResult (h : WakersAt x p r) (a : R) :
    WakersAt { x with resultRx := x.resultRx.send a } p r :=
  { h with
    armedResult := h.armedResult.send a
    result := fun hr hd => OneShot.send_waker_ne_none (h.result hr hd) a }

theorem closeResult (h : WakersAt x p r) : WakersAt { x with resultRx := x.resultRx.close } p r :=
  { h with
    armedResult := h.armedResult.close
    result := fun hr hd => OneShot.close_waker_ne_none (h.result hr hd) }

theorem sendPanic (h : WakersAt x p r) (e : PanicPayload) :
    WakersAt { x with panicRx := x.panicRx.send e } p r :=
  { h with
    armedPanic := h.armedPanic.send e
    panic := fun hp hd => OneShot.send_waker_ne_none (h.panic hp hd) e }

theorem closePanic (h : WakersAt x p r) : WakersAt { x with panicRx := x.panicRx.close } p r :=
  { h with
    armedPanic := h.armedPanic.close
    panic := fun hp hd => OneShot.close_waker_ne_none (h.panic hp hd) }

/-- A poll that has polled less knows less. -/
theorem forget (h : WakersAt x p r) : WakersAt x false false :=
  ⟨h.armedPanic, h.armedResult, nofun, nofun, nofun⟩

/-- The first half of a poll. -/
theorem panicPoll {b : Budget} {o : Poll (TaskResult R)} (h : WakersAt x p r)
    (hx : TaskResultReceiver.PanicPoll x b x' o) : WakersAt x' true false := by
  obtain ⟨hap, har, -, -, -⟩ := h
  cases hx with
  | ready hr => exact ⟨hap, har, fun _ hd => by simp [hr] at hd, nofun, nofun⟩
  | live _ ht => exact ⟨fun _ => ht, har, fun _ _ => nofun, nofun, nofun⟩
  | cut => exact ⟨nofun, har, fun _ _ => nofun, nofun, nofun⟩
  | dropped | sent => exact ⟨hap, har, nofun, nofun, nofun⟩

/-- The second half of a poll that goes on. -/
theorem resultPoll {b : Budget} (h : WakersAt x true r) (hx : TaskResultReceiver.ResultPoll x b x' .pending) :
    WakersAt x' true true := by
  obtain ⟨hap, har, hp, -, -⟩ := h
  have hclosed : .pending = (if x.panicRxReady then .ready (.error none) else .pending : Poll (TaskResult R)) →
      x.panicRxReady = false := by
    cases x.panicRxReady
    · exact fun _ => rfl
    · exact nofun
  cases hx with
  | ready hr ho =>
    exact ⟨hap, har, hp, fun _ hd => absurd (hr.symm.trans hd) nofun,
      fun _ hd => nomatch (hclosed ho).symm.trans hd⟩
  | live hr ht => exact ⟨hap, fun _ => ht, hp, fun _ _ => nofun, fun _ _ => hr⟩
  | cut hr => exact ⟨hap, nofun, hp, fun _ _ => nofun, fun _ _ => hr⟩
  | dropped hr ht ho => exact ⟨hap, har, hp, nofun, fun _ hd => nomatch (hclosed ho).symm.trans hd⟩

/-- The second half of a poll. -/
theorem resultReady {b : Budget} {o : TaskResult R} (h : WakersAt x p r)
    (hx : TaskResultReceiver.ResultPoll x b x' (.ready o)) : WakersAt x' false false := by
  obtain ⟨hap, har, -, -, -⟩ := h
  cases hx <;> exact ⟨hap, har, nofun, nofun, nofun⟩

/-- A waiting receiver that nobody has woken: no outcome is there. -/
theorem quiet (h : WakersAt x true true) (hx : x.Unresolved) (hw : ¬ x.Woken) (o : TaskResult R) :
    ¬ x.Outcome o := by
  have hp : x.panicRxReady = false → x.panicRx.tx = .live := fun hd =>
    h.armedPanic.live (h.panic rfl hd) fun hc => hw (.inr hc)
  have hr : x.resultRxReady = false → x.resultRx.tx = .live := fun hd =>
    h.armedResult.live (h.result rfl hd) fun hc => hw (.inl hc)
  rintro (hs | hs | ⟨hs, hs'⟩)
  · cases hd : x.panicRxReady with
    | false => cases hs.symm.trans (hp hd)
    | true => cases hs.symm.trans (hx.panicReady hd)
  · cases hd : x.resultRxReady with
    | false => cases hs.symm.trans (hr hd)
    | true => cases hs.symm.trans (hx.resultReady hd)
  · cases hd : x.panicRxReady with
    | false => cases hs.symm.trans (hp hd)
    | true => cases hs'.symm.trans (hr (h.waits rfl hd))

end WakersAt

namespace Receiving

variable {q q' : Receiving R} {a : ReceiverAct R}

/-! ### Along a schedule -/

/-- What holds of a receiver in every schedule. -/
structure Sound (q : Receiving R) : Prop where
  /-- No poll has panicked. -/
  pc : q.pc ≠ .repolled
  /-- Not both senders have sent. -/
  one : q.receiver.OneSent
  /-- The wakers are in order. -/
  wakers : WakersAt q.receiver q.pc.polledPanic q.pc.polledBoth
  /-- The channels that are ready were closed. -/
  unresolved : (∀ o, q.pc ≠ .resolved o) → q.receiver.Unresolved
  /-- It has resolved to what the senders did. -/
  resolved : ∀ o, q.pc = .resolved o → q.receiver.Outcome o

/-- Its receiver is unresolved where it has not resolved. -/
theorem Sound.polling {pc : ReceiverPc R} (h : q.Sound) (hpc : q.pc = pc)
    (hn : ∀ o, pc ≠ .resolved o) : q.receiver.Unresolved :=
  h.unresolved fun o ho => hn o (hpc.symm.trans ho)

theorem sound_init : (init : Receiving R).Sound :=
  ⟨nofun, nofun, .new, fun _ => TaskResultReceiver.unresolved_new, nofun⟩

theorem Sound.sendResult (h : q.Sound) {r : R} (ht : q.receiver.resultRx.tx = .live)
    (hp : ∀ p, q.receiver.panicRx.tx ≠ .sent p) : (q.modResult (·.send r)).Sound where
  pc := h.pc
  one := fun _ p _ => hp p
  wakers := h.wakers.sendResult r
  unresolved := fun hn => (h.unresolved hn).sendResult r
  resolved := fun o ho => by
    cases h.resolved o ho with
    | panic hs => exact absurd hs (hp _)
    | result hs | closed _ hs => cases ht.symm.trans hs

theorem Sound.dropResult (h : q.Sound) (ht : q.receiver.resultRx.tx = .live) :
    (q.modResult (·.close)).Sound where
  pc := h.pc
  one := fun r p hr => by simp [modResult, ht, OneShot.Tx.close] at hr
  wakers := h.wakers.closeResult
  unresolved := fun hn => (h.unresolved hn).closeResult
  resolved := fun o ho => by
    cases h.resolved o ho with
    | panic hs => exact .panic hs
    | result hs | closed _ hs => cases ht.symm.trans hs

theorem Sound.sendPanic (h : q.Sound) {p : PanicPayload} (ht : q.receiver.panicRx.tx = .live)
    (hr : ∀ r, q.receiver.resultRx.tx ≠ .sent r) : (q.modPanic (·.send p)).Sound where
  pc := h.pc
  one := fun r _ hs => absurd hs (hr r)
  wakers := h.wakers.sendPanic p
  unresolved := fun hn => (h.unresolved hn).sendPanic p
  resolved := fun o ho => by
    cases h.resolved o ho with
    | result hs => exact absurd hs (hr _)
    | panic hs | closed hs _ => cases ht.symm.trans hs

theorem Sound.dropPanic (h : q.Sound) (ht : q.receiver.panicRx.tx = .live) :
    (q.modPanic (·.close)).Sound where
  pc := h.pc
  one := fun r p _ => by simp [modPanic, ht, OneShot.Tx.close]
  wakers := h.wakers.closePanic
  unresolved := fun hn => (h.unresolved hn).closePanic
  resolved := fun o ho => by
    cases h.resolved o ho with
    | result hs => exact .result hs
    | panic hs | closed hs _ => cases ht.symm.trans hs

theorem Sound.step (h : q.Sound) (m : ReceiverMove q a q') : q'.Sound := by
  cases m with
  | poll hpc =>
    have hx : q.receiver.Unresolved := by
      rcases hpc with hpc | hpc
      · exact h.polling hpc nofun
      · exact h.polling hpc nofun
    exact ⟨nofun, h.one, .renew _, fun _ => hx.renew, nofun⟩
  | panicRepolled hpc hx => exact absurd hx ((h.polling hpc nofun).polled _).1
  | resultRepolled hpc hx => exact absurd hx ((h.polling hpc nofun).polled _).2
  | panicPending hpc hx =>
    have hu := h.polling hpc nofun
    exact ⟨nofun, h.one.congr hx.tx, h.wakers.panicPoll hx,
      fun _ => hu.panicPoll hx, nofun⟩
  | panicReady hpc hx =>
    refine ⟨nofun, h.one.congr hx.tx, (h.wakers.panicPoll hx).forget,
      fun hn => absurd rfl (hn _), fun o ho => ?_⟩
    cases ho
    cases hx with
    | sent _ ht => exact .panic ht
  | resultPending hpc hx =>
    have hu := h.polling hpc nofun
    have hw := h.wakers
    rw [hpc] at hw
    exact ⟨nofun, h.one.congr hx.tx, hw.resultPoll hx,
      fun _ => hu.resultPoll hx nofun, nofun⟩
  | resultReady hpc hx =>
    have hu := h.polling hpc nofun
    refine ⟨nofun, h.one.congr hx.tx, h.wakers.resultReady hx,
      fun hn => absurd rfl (hn _), fun o ho => ?_⟩
    cases ho
    cases hx with
    | sent _ ht => exact .result ht
    | ready hr ho =>
      split_ifs at ho with hp
      cases ho
      exact .closed (hu.panicReady hp) (hu.resultReady hr)
    | dropped _ ht ho =>
      split_ifs at ho with hp
      cases ho
      exact .closed (hu.panicReady hp) ht
  | sendResult ht hp => exact h.sendResult ht hp
  | dropResult ht => exact h.dropResult ht
  | sendPanic ht hr => exact h.sendPanic ht hr
  | dropPanic ht => exact h.dropPanic ht

theorem sound_of_reaches (h : q.Reaches) : q.Sound :=
  h.stable (fun _ _ _ hq hs => hq.step (receiverMove_of_next hs)) sound_init

/-! ### Senders that are gone

Sending through a sender that has acted does nothing, and dropping it again neither.
So whatever is tried with the senders is a step of a schedule, or none, as long as
they do not both send. -/

theorem steps_sendResult {r : R} (hone : (q.modResult (·.send r)).receiver.OneSent) :
    Runs.Steps next Runs.Any q (q.modResult (·.send r)) := by
  by_cases ht : q.receiver.resultRx.tx = .live
  · have hn : q.next (.sendResult r) = some (q.modResult (·.send r)) := by
      cases hp : q.receiver.panicRx.tx with
      | sent p => exact absurd hp (hone r p (by simp [modResult, ht, OneShot.Tx.send]))
      | live | dropped => simp only [next, ht, hp]
    exact .single trivial hn
  · rw [modResult, OneShot.send_of_ne_live ht]
    exact .refl

theorem steps_dropResult : Runs.Steps next Runs.Any q (q.modResult (·.close)) := by
  by_cases ht : q.receiver.resultRx.tx = .live
  · have hn : q.next .dropResult = some (q.modResult (·.close)) := by simp only [next, ht]
    exact .single trivial hn
  · rw [modResult, OneShot.close_of_ne_live ht]
    exact .refl

theorem steps_sendPanic {p : PanicPayload} (hone : (q.modPanic (·.send p)).receiver.OneSent) :
    Runs.Steps next Runs.Any q (q.modPanic (·.send p)) := by
  by_cases ht : q.receiver.panicRx.tx = .live
  · have hn : q.next (.sendPanic p) = some (q.modPanic (·.send p)) := by
      cases hr : q.receiver.resultRx.tx with
      | sent r => exact absurd (by simp [modPanic, ht, OneShot.Tx.send]) (hone r p hr)
      | live | dropped => simp only [next, ht, hr]
    exact .single trivial hn
  · rw [modPanic, OneShot.send_of_ne_live ht]
    exact .refl

theorem steps_dropPanic : Runs.Steps next Runs.Any q (q.modPanic (·.close)) := by
  by_cases ht : q.receiver.panicRx.tx = .live
  · have hn : q.next .dropPanic = some (q.modPanic (·.close)) := by simp only [next, ht]
    exact .single trivial hn
  · rw [modPanic, OneShot.close_of_ne_live ht]
    exact .refl

/-! ### A poll whose outcome is there -/

/-- A poll that began when the outcome `o` was there. -/
inductive Due (q : Receiving R) (o : TaskResult R) : Prop
  | panicRx (hpc : q.pc = .panicRx) (ho : q.receiver.Outcome o)
  | resultRx (hpc : q.pc = .resultRx) (ho : q.receiver.Outcome o)
      (hp : ∀ p, q.receiver.panicRx.tx ≠ .sent p) (hn : o = .error none → q.receiver.panicRxReady = true)
  | resolved (hpc : q.pc = .resolved o)

/-- Where it still polls it goes on. -/
theorem Due.resolved_of_stopped {o : TaskResult R} {b : Budget} (h : q.Due o) (hs : q.next (.inner b) = none) :
    q.pc = .resolved o := by
  cases h with
  | resolved hpc => exact hpc
  | panicRx hpc =>
    simp only [next, inner, hpc] at hs
    split at hs <;> cases hs
  | resultRx hpc =>
    simp only [next, inner, hpc] at hs
    split at hs <;> cases hs

/-- Its first half passes the outcome on, or returns it. -/
theorem Due.panicPoll {o : TaskResult R} (h : q.Sound) (hpc : q.pc = .panicRx)
    (ho : q.receiver.Outcome o) {x : TaskResultReceiver R}
    (hx : TaskResultReceiver.PanicPoll q.receiver .left x .pending) :
    Due ⟨x, .resultRx⟩ o := by
  have hu := h.polling hpc nofun
  have hox := ho.congr hx.tx
  cases hx with
  | ready hr =>
    have hd := hu.panicReady hr
    exact .resultRx rfl ho (fun p hp => nomatch hd.symm.trans hp) fun _ => hr
  | live hr ht =>
    refine .resultRx rfl hox (fun p hp => nomatch ht.symm.trans hp) fun hn => ?_
    subst hn
    cases ho with
    | closed hp _ => cases ht.symm.trans hp
  | dropped hr ht => exact .resultRx rfl hox (fun p hp => nomatch ht.symm.trans hp) fun _ => rfl

/-- Its second half returns the outcome. -/
theorem Due.resultPoll {o : TaskResult R} (h : q.Sound) (hpc : q.pc = .resultRx)
    (ho : q.receiver.Outcome o) (hp : ∀ p, q.receiver.panicRx.tx ≠ .sent p)
    (hn : o = .error none → q.receiver.panicRxReady = true)
    {x : TaskResultReceiver R} {out : Poll (TaskResult R)}
    (hx : TaskResultReceiver.ResultPoll q.receiver .left x out) : out = .ready o := by
  have hu := h.polling hpc nofun
  cases ho with
  | panic hs => exact absurd hs (hp _)
  | result hs =>
    cases hx with
    | ready hr => cases hs.symm.trans (hu.resultReady hr)
    | live _ ht | dropped _ ht => cases hs.symm.trans ht
    | sent _ ht => cases hs.symm.trans ht; rfl
  | closed _ hs =>
    cases hx with
    | ready _ ho | dropped _ _ ho => rw [ho, if_pos (hn rfl)]
    | live _ ht | sent _ ht => cases hs.symm.trans ht

/-- What the senders still do meanwhile leaves the outcome as it is. -/
theorem Due.event {o : TaskResult R} (hd : q.Due o) (m : ReceiverMove q a q')
    (ha : a.isInner = false) : q'.Due o ∧ q'.pc = q.pc := by
  cases m with
  | poll hpc =>
    cases hd with
    | panicRx hpc' | resultRx hpc' | resolved hpc' =>
      rcases hpc with hpc | hpc <;> cases hpc.symm.trans hpc'
  | sendResult ht hp =>
    cases hd with
    | resolved hpc => exact ⟨.resolved hpc, rfl⟩
    | panicRx _ ho | resultRx _ ho =>
      cases ho with
      | panic hs => exact absurd hs (hp _)
      | result hs | closed _ hs => cases ht.symm.trans hs
  | dropResult ht =>
    cases hd with
    | resolved hpc => exact ⟨.resolved hpc, rfl⟩
    | panicRx hpc ho =>
      cases ho with
      | panic hs => exact ⟨.panicRx hpc (.panic hs), rfl⟩
      | result hs | closed _ hs => cases ht.symm.trans hs
    | resultRx _ ho hp =>
      cases ho with
      | panic hs => exact absurd hs (hp _)
      | result hs | closed _ hs => cases ht.symm.trans hs
  | sendPanic ht hr =>
    cases hd with
    | resolved hpc => exact ⟨.resolved hpc, rfl⟩
    | panicRx _ ho | resultRx _ ho =>
      cases ho with
      | result hs => exact absurd hs (hr _)
      | panic hs | closed hs => cases ht.symm.trans hs
  | dropPanic ht =>
    cases hd with
    | resolved hpc => exact ⟨.resolved hpc, rfl⟩
    | panicRx hpc ho =>
      cases ho with
      | result hs => exact ⟨.panicRx hpc (.result hs), rfl⟩
      | panic hs | closed hs => cases ht.symm.trans hs
    | resultRx hpc ho =>
      cases ho with
      | result hs =>
        exact ⟨.resultRx hpc (.result hs) (fun p => by simp [modPanic, ht, OneShot.Tx.close]) nofun, rfl⟩
      | panic hs | closed hs => cases ht.symm.trans hs
  | panicRepolled | panicPending | panicReady | resultRepolled | resultPending | resultReady =>
    cases ha

/-- Each of its inner polls that is not cut short brings it closer to the outcome. -/
theorem Due.inner {o : TaskResult R} (hd : q.Due o) (h : q.Sound) (m : ReceiverMove q (.inner .left) q') :
    q'.Due o ∧ q'.pc.left < q.pc.left := by
  cases m with
  | panicRepolled hpc hx => exact absurd hx ((h.polling hpc nofun).polled _).1
  | resultRepolled hpc hx => exact absurd hx ((h.polling hpc nofun).polled _).2
  | panicPending hpc hx =>
    cases hd with
    | panicRx _ ho => exact ⟨.panicPoll h hpc ho hx, by simp [hpc, ReceiverPc.left]⟩
    | resultRx hpc' | resolved hpc' => cases hpc.symm.trans hpc'
  | panicReady hpc hx =>
    cases hd with
    | panicRx _ ho =>
      cases hx with
      | sent _ ht =>
        cases ho.unique (.panic ht) h.one
        exact ⟨.resolved rfl, by simp [hpc, ReceiverPc.left]⟩
    | resultRx hpc' | resolved hpc' => cases hpc.symm.trans hpc'
  | resultPending hpc hx =>
    cases hd with
    | resultRx _ ho hp hn => cases Due.resultPoll h hpc ho hp hn hx
    | panicRx hpc' | resolved hpc' => cases hpc.symm.trans hpc'
  | resultReady hpc hx =>
    cases hd with
    | resultRx _ ho hp hn =>
      cases Due.resultPoll h hpc ho hp hn hx
      exact ⟨.resolved rfl, by simp [hpc, ReceiverPc.left]⟩
    | panicRx hpc' | resolved hpc' => cases hpc.symm.trans hpc'

/-- Whatever comes in between, no more inner polls are needed than it has left. -/
theorem Due.exec {o : TaskResult R} {as : List (ReceiverAct R)} (hd : q.Due o) (h : q.Sound)
    (hs : Runs.exec next as q = some q') (hcut : ∀ a ∈ as, a.isCut = false) :
    q'.Due o ∧ as.countP ReceiverAct.isInner ≤ q.pc.left := by
  induction as generalizing q with
  | nil => cases hs; exact ⟨hd, Nat.zero_le _⟩
  | cons a as ih =>
    obtain ⟨q₁, hs₁, hrest⟩ := Option.bind_eq_some_iff.mp hs
    obtain ⟨hca, hcas⟩ := List.forall_mem_cons.mp hcut
    have m := receiverMove_of_next hs₁
    cases ha : a.isInner with
    | true =>
      obtain rfl : a = .inner .left := by
        cases a with
        | inner b => cases b <;> first | rfl | cases hca
        | _ => cases ha
      obtain ⟨hd₁, hlt⟩ := hd.inner h m
      obtain ⟨hd', hle⟩ := ih hd₁ (h.step m) hrest hcas
      rw [List.countP_cons_of_pos ha]
      exact ⟨hd', by omega⟩
    | false =>
      obtain ⟨hd₁, hpc⟩ := hd.event m ha
      obtain ⟨hd', hle⟩ := ih hd₁ (h.step m) hrest hcas
      rw [List.countP_cons_of_neg (by simp [ha]), ← hpc]
      exact ⟨hd', hle⟩

/-- **The receiver merges its channels**, in every schedule. It never polls a channel
that has completed. What it has resolved to is the one outcome that the senders
tell. A poll that begins when an outcome is there and is not cut short returns that
outcome, after at most two inner polls, whatever comes in between. And where the last
poll returned `Pending`, was not cut short, and no channel has woken its waker since,
no outcome is there; a poll that was cut short has woken its waker itself. -/
theorem receiver_merges (h : Reaches q) :
    q.pc ≠ .repolled ∧
    (∀ o, q.pc = .resolved o → ∀ o', q.receiver.Outcome o' ↔ o' = o) ∧
    (∀ o, q.receiver.Outcome o → q.pc = .fresh ∨ q.pc = .pending → ∃ q₁, q.next .poll = some q₁ ∧
      ∀ as q₂, Runs.exec next as q₁ = some q₂ → (∀ a ∈ as, a.isCut = false) →
        as.countP ReceiverAct.isInner ≤ 2 ∧ ∀ b, q₂.next (.inner b) = none → q₂.pc = .resolved o) ∧
    (q.pc = .pending → ¬ q.receiver.Notified → ¬ q.receiver.Cut → ∀ o, ¬ q.receiver.Outcome o) := by
  have hq := sound_of_reaches h
  refine ⟨hq.pc, fun o hpc o' => ⟨fun ho => ?_, ?_⟩, fun o ho hpc => ?_, fun hpc hn hc => ?_⟩
  · exact ho.unique (hq.resolved o hpc) hq.one
  · rintro rfl
    exact hq.resolved _ hpc
  · have hs : q.next .poll = some ⟨q.receiver.renew, .panicRx⟩ := by
      rcases hpc with hpc | hpc <;> simp only [next, hpc]
    refine ⟨_, hs, fun as q₂ hrun hcut => ?_⟩
    have hd : Due (⟨q.receiver.renew, .panicRx⟩ : Receiving R) o :=
      .panicRx rfl (ho.congr ⟨rfl, rfl⟩)
    obtain ⟨hd₂, hle⟩ := hd.exec (hq.step (receiverMove_of_next hs)) hrun hcut
    exact ⟨hle, fun b => hd₂.resolved_of_stopped⟩
  · have hwakers := hq.wakers
    rw [hpc] at hwakers
    exact hwakers.quiet (hq.polling hpc nofun) fun hw =>
      (TaskResultReceiver.woken_iff.mp hw).elim hn hc

/-- The panic comes between the two inner polls of a poll. -/
def demoBetween : Receiving ℕ :=
  (Runs.exec next [.poll, .inner .left, .sendPanic (.str "ten"), .inner .left] init).get rfl

theorem demoBetween_reaches : Reaches demoBetween := Runs.steps_of_exec (Option.some_get _).symm

theorem receiver_merges_demo : demoBetween.pc = .pending ∧ demoBetween.receiver.Notified ∧
    ∃ q₁, demoBetween.next .poll = some q₁ ∧ ∀ as q₂, Runs.exec next as q₁ = some q₂ →
      (∀ a ∈ as, a.isCut = false) → as.countP ReceiverAct.isInner ≤ 2 ∧
        ∀ b, q₂.next (.inner b) = none → q₂.pc = .resolved (.error (some (.str "ten"))) :=
  ⟨rfl, .inr rfl, (receiver_merges demoBetween_reaches).2.2.1 _ (.panic rfl) (.inr rfl)⟩

/-- The result is there when the receiver is polled, by a task that has spent its budget. -/
def demoCut : Receiving ℕ :=
  (Runs.exec next [.sendResult 7, .poll, .inner .spent, .inner .spent] init).get rfl

theorem demoCut_reaches : Reaches demoCut := Runs.steps_of_exec (Option.some_get _).symm

/-- A receiver whose last poll returned `Pending`, and which no channel has woken since, can have
its outcome: the poll was cut short. -/
theorem cut_unnotified : ¬ ∀ q : Receiving ℕ, Reaches q → q.pc = .pending → ¬ q.receiver.Notified →
    ∀ o, ¬ q.receiver.Outcome o := by
  intro hall
  exact hall demoCut demoCut_reaches rfl (by decide) (.ok 7) (.result rfl)

end Receiving

end AsyncSequential
