import Mathlib.Logic.Basic
import Mathlib.Tactic.SplitIfs

/-!
# One-shot channels

A channel for one value: a sender that sends once or is dropped once, and a
receiver that is polled. A poll that finds nothing registers the receiver's
waker, and what the sender does next wakes it. A poll by a task that has spent its
cooperative budget is cut short: it does not look at the channel, returns `Pending`
and wakes its own waker. This is the documented behaviour of
`tokio::sync::oneshot`; polling a receiver that has completed is an error there (it
panics), here `none`.
-/

/-- The result of polling a future. -/
inductive Poll (α : Type*) where
  /-- Not ready; the waker will be woken. -/
  | pending
  /-- Completed. -/
  | ready (a : α)
  deriving DecidableEq

/-- The cooperative budget of the task that polls. -/
inductive Budget where
  /-- There is some left. -/
  | left
  /-- It is spent. -/
  | spent
  deriving DecidableEq

namespace OneShot

variable {α : Type*}

/-- What the sending half has done. -/
inductive Tx (α : Type*) where
  /-- Nothing yet: it is owned by someone. -/
  | live
  /-- It sent `a`. -/
  | sent (a : α)
  /-- It was dropped without sending. -/
  | dropped
  deriving DecidableEq

/-- What the half has done after an attempt to send `a`. -/
@[grind] def Tx.send (a : α) : Tx α → Tx α
  | .live => .sent a
  | x => x

/-- What the half has done after an attempt to drop it. -/
@[grind] def Tx.close : Tx α → Tx α
  | .live => .dropped
  | x => x

/-- A sender that has acted is gone. -/
@[simp] theorem Tx.send_ne_live (x : Tx α) (a : α) : x.send a ≠ .live := by
  cases x <;> nofun

@[simp] theorem Tx.close_ne_live (x : Tx α) : x.close ≠ .live := by
  cases x <;> nofun

/-- The waker of the poll that is going on or was the last. -/
inductive Waker where
  /-- Not registered with this channel. -/
  | none
  /-- Registered, and not woken since. -/
  | registered
  /-- Woken by this channel. -/
  | woken
  /-- Not registered: the poll was cut short, and has woken it. -/
  | cut
  deriving DecidableEq

/-- Waking a waker that is not registered does nothing. -/
def Waker.wake : Waker → Waker
  | .registered => .woken
  | w => w

end OneShot

/-- A one-shot channel. -/
structure OneShot (α : Type*) where
  /-- What the sender has done. -/
  tx : OneShot.Tx α
  /-- The receiver's waker. -/
  waker : OneShot.Waker
  /-- The receiver has completed. -/
  rxDone : Bool
  deriving DecidableEq

namespace OneShot

variable {α : Type*}

/-- A new channel. -/
def channel : OneShot α := ⟨.live, .none, false⟩

/-- The sender sends `a`. A sender is consumed by sending, so it acts once. -/
def send (c : OneShot α) (a : α) : OneShot α :=
  match c.tx with
  | .live => { c with tx := .sent a, waker := c.waker.wake }
  | _ => c

/-- The sender is dropped. -/
def close (c : OneShot α) : OneShot α :=
  match c.tx with
  | .live => { c with tx := .dropped, waker := c.waker.wake }
  | _ => c

/-- The receiver is polled, by a task with budget `b`: `error ()` when the sender was dropped unsent. -/
def poll (c : OneShot α) (b : Budget) : Option (Poll (Except Unit α) × OneShot α) :=
  if c.rxDone then none else
    match b, c.tx with
    | .spent, _ => some (.pending, { c with waker := .cut })
    | .left, .live => some (.pending, { c with waker := .registered })
    | .left, .sent a => some (.ready (.ok a), { c with rxDone := true })
    | .left, .dropped => some (.ready (.error ()), { c with rxDone := true })

/-- A new poll of the receiver's owner brings a new waker. -/
def renew (c : OneShot α) : OneShot α := { c with waker := .none }

@[simp] theorem channel_tx : (channel : OneShot α).tx = .live := rfl
@[simp] theorem channel_rxDone : (channel : OneShot α).rxDone = false := rfl
@[simp] theorem renew_tx (c : OneShot α) : c.renew.tx = c.tx := rfl
@[simp] theorem renew_rxDone (c : OneShot α) : c.renew.rxDone = c.rxDone := rfl
@[simp] theorem renew_waker (c : OneShot α) : c.renew.waker = .none := rfl

@[simp] theorem send_rxDone (c : OneShot α) (a : α) : (c.send a).rxDone = c.rxDone := by
  unfold send; split <;> rfl

@[simp] theorem close_rxDone (c : OneShot α) : c.close.rxDone = c.rxDone := by
  unfold close; split <;> rfl

@[simp, grind =] theorem send_tx (c : OneShot α) (a : α) : (c.send a).tx = c.tx.send a := by
  unfold send Tx.send; split <;> simp_all

@[simp, grind =] theorem close_tx (c : OneShot α) : c.close.tx = c.tx.close := by
  unfold close Tx.close; split <;> simp_all

/-- The sender acts once. -/
@[grind =] theorem send_of_ne_live {c : OneShot α} (h : c.tx ≠ .live) (a : α) : c.send a = c := by
  unfold send; split <;> simp_all

@[grind =] theorem close_of_ne_live {c : OneShot α} (h : c.tx ≠ .live) : c.close = c := by
  unfold close; split <;> simp_all

/-- How a poll that is not cut short can go: what the sender has done decides. -/
theorem poll_eq_some {c c' : OneShot α} {o : Poll (Except Unit α)} (h : c.poll .left = some (o, c')) :
    (c.tx = .live ∧ o = .pending ∧ c' = { c with waker := .registered }) ∨
      (∃ a, c.tx = .sent a ∧ o = .ready (.ok a) ∧ c' = { c with rxDone := true }) ∨
      (c.tx = .dropped ∧ o = .ready (.error ()) ∧ c' = { c with rxDone := true }) := by
  unfold poll at h
  split_ifs at h
  cases ht : c.tx <;> rw [ht] at h <;> cases h
  · exact .inl ⟨rfl, rfl, rfl⟩
  · exact .inr (.inl ⟨_, rfl, rfl, rfl⟩)
  · exact .inr (.inr ⟨rfl, rfl, rfl⟩)

/-- A poll that is cut short finds nothing. -/
theorem poll_spent {c c' : OneShot α} {o : Poll (Except Unit α)} (h : c.poll .spent = some (o, c')) :
    o = .pending ∧ c' = { c with waker := .cut } := by
  unfold poll at h
  split_ifs at h
  cases h
  exact ⟨rfl, rfl⟩

/-- Only a poll of a completed receiver fails. -/
theorem poll_ne_none {c : OneShot α} (hd : c.rxDone = false) (b : Budget) : c.poll b ≠ none := by
  unfold poll
  rw [hd, if_neg Bool.false_ne_true]
  cases b <;> cases c.tx <;> nofun

/-! ### Wakers -/

/-- A waker that is registered and not woken waits for a sender that is there. -/
def Armed (c : OneShot α) : Prop := c.waker = .registered → c.tx = .live

/-- The channel has woken the waker. -/
def Notified (c : OneShot α) : Prop := c.waker = .woken

/-- The poll was cut short. -/
def Cut (c : OneShot α) : Prop := c.waker = .cut

/-- The waker has been woken, by the channel or by its own poll. -/
def Woken (c : OneShot α) : Prop := c.Notified ∨ c.Cut

instance (c : OneShot α) : Decidable c.Notified := inferInstanceAs (Decidable (_ = _))
instance (c : OneShot α) : Decidable c.Cut := inferInstanceAs (Decidable (_ = _))
instance (c : OneShot α) : Decidable c.Woken := inferInstanceAs (Decidable (_ ∨ _))

theorem armed_channel : (channel : OneShot α).Armed := fun h => nomatch h

theorem armed_renew (c : OneShot α) : c.renew.Armed := fun h => nomatch h

theorem Armed.send {c : OneShot α} (h : c.Armed) (a : α) : (c.send a).Armed := by
  intro hw
  unfold OneShot.send at hw ⊢
  split at hw
  · rename_i ht
    cases hc : c.waker <;> simp [hc, Waker.wake] at hw
  · exact h hw

theorem Armed.close {c : OneShot α} (h : c.Armed) : c.close.Armed := by
  intro hw
  unfold OneShot.close at hw ⊢
  split at hw
  · rename_i ht
    cases hc : c.waker <;> simp [hc, Waker.wake] at hw
  · exact h hw

/-- A registered waker that has not been woken waits for a sender that is there. -/
theorem Armed.live {c : OneShot α} (h : c.Armed) (hn : c.waker ≠ .none) (hw : ¬ c.Woken) : c.tx = .live := by
  refine h ?_
  cases hc : c.waker with
  | none => exact absurd hc hn
  | registered => rfl
  | woken => exact absurd (.inl hc) hw
  | cut => exact absurd (.inr hc) hw

/-- A waker that has been woken stays so. -/
theorem Woken.send {c : OneShot α} (h : c.Woken) (a : α) : (c.send a).Woken := by
  unfold OneShot.send
  split
  · exact h.imp (fun hw : c.waker = .woken => congrArg Waker.wake hw) fun hw : c.waker = .cut =>
      congrArg Waker.wake hw
  · exact h

theorem Woken.close {c : OneShot α} (h : c.Woken) : c.close.Woken := by
  unfold OneShot.close
  split
  · exact h.imp (fun hw : c.waker = .woken => congrArg Waker.wake hw) fun hw : c.waker = .cut =>
      congrArg Waker.wake hw
  · exact h

/-- Sending and closing leave no registered waker unregistered. -/
theorem send_waker_ne_none {c : OneShot α} (h : c.waker ≠ .none) (a : α) : (c.send a).waker ≠ .none := by
  unfold send
  split
  · cases hc : c.waker <;> simp_all [Waker.wake]
  · exact h

theorem close_waker_ne_none {c : OneShot α} (h : c.waker ≠ .none) : c.close.waker ≠ .none := by
  unfold close
  split
  · cases hc : c.waker <;> simp_all [Waker.wake]
  · exact h

end OneShot
