import AsyncSequential.Channels

/-!
# What the status records

The status is one byte and one write-once message, written by the operations
that consume the worker handle and by the worker itself. `Status` says what the
byte can mean: it is never corrupted, an abort or a cancel that it records was
asked for by the operation that consumed the handle, and `TaskPanicked` stands
for exactly one panic, whose message is in the cell by then. The panic is the
worker's last deed: from the flag on it only winds up.
-/

namespace AsyncSequential

variable {S F R : Type*}

/-! ### Who may write what -/

/-- The operation aborts the worker. -/
@[grind] def Consume.aborts : Consume → Bool
  | .abort | .abortAndJoin => true
  | _ => false

/-- The operation cancels the worker. -/
@[grind] def Consume.cancels : Consume → Bool
  | .cancel | .cancelAndJoin => true
  | _ => false

/-- The operation that has consumed the handle. -/
@[grind] def HandlePc.op? : HandlePc S → Option Consume
  | .live => none
  | .isFinished op | .trySet op | .abortWorker op | .closeSenders op | .dropCtx op | .dropTx op
  | .awaitWorker op | .lockState op _ | .takeState op _ | .unlockState op _ _ | .decide op _ _
  | .readPanicMsg op _ | .returned op _ | .gone op => some op

/-- The handle has not yet asked for the worker's end, and may still. -/
@[grind] def HandlePc.undecided : HandlePc S → Bool
  | .isFinished _ | .trySet _ => true
  | _ => false

/-- How far the worker is in reporting a panic. -/
inductive Stage where
  /-- It has none to report. -/
  | quiet
  /-- It has set the message. -/
  | storing (t : ℕ) (p : PanicPayload)
  /-- It has stored the flag. -/
  | sending (t : ℕ) (p : PanicPayload)
  /-- It has returned `Err(())`. -/
  | erred
  deriving DecidableEq

/-- How far the worker is in reporting a panic. -/
@[grind] def WorkerPc.stage : WorkerPc F R → Stage
  | .storePanicked t p => .storing t p
  | .sendPanic t p => .sending t p
  | .dropping _ out | .ended out => if out = .err then .erred else .quiet
  | .recv _ | .dequeued _ | .checked _ | .took _ _ | .asyncBody _ _ _ | .asyncSend _ _ | .asyncUnwind _ _
  | .asyncUnlock _ _ | .awaitBlocking _ _ | .result _ _ | .dropBody _ _ | .dropBodyTx _ | .dropGuard _ => .quiet

/-! ### The invariant -/

/-- What the status records, on the components of a system. -/
structure StatusAt (st : WorkerStatus) (ps : List (ℕ × PanicPayload)) (g : Stage) (h : HandlePc S) (a : Bool) :
    Prop where
  /-- The flags are not corrupted. -/
  flag_ne_none : st.flag ≠ none
  /-- The flag says whether a panic is recorded. -/
  panicked : st.flag = some .taskPanicked ↔ ps ≠ []
  /-- A recorded panic is the only one, its message is set, and the worker goes. -/
  recorded : ∀ t p, (t, p) ∈ ps → ps = [(t, p)] ∧ st.taskPanicMsg = some p.msg ∧ (g = .sending t p ∨ g = .erred)
  /-- The worker sends a panic that it has recorded. -/
  sending : ∀ t p, g = .sending t p → (t, p) ∈ ps
  /-- The message is set before the flag. -/
  storing : ∀ t p, g = .storing t p → st.taskPanicMsg = some p.msg
  /-- Only a panic sets the message. -/
  message : st.taskPanicMsg ≠ none → ps ≠ [] ∨ ∃ t p, g = .storing t p
  /-- An abort is recorded by an operation that aborts. -/
  aborts : st.flag = some .abortStarted → ∃ op, h.op? = some op ∧ op.aborts = true
  /-- A cancel is recorded by an operation that cancels. -/
  cancels : st.flag = some .cancelStarted → ∃ op, h.op? = some op ∧ op.cancels = true
  /-- What an operation is about to record it is there to record. -/
  undecided : ∀ op, h.undecided = true → h.op? = some op → op.aborts = true ∨ op.cancels = true
  /-- The future is aborted after the abort was recorded. -/
  abortWorker : ∀ op, h = .abortWorker op → op.aborts = true ∧
    (st.flag = some .abortStarted ∨ st.flag = some .taskPanicked)
  /-- And by an operation that aborts. -/
  aborting : a = true → (∃ op, h.op? = some op ∧ op.aborts = true) ∧
    (st.flag = some .abortStarted ∨ st.flag = some .taskPanicked)

namespace StatusAt

variable {st : WorkerStatus} {ps : List (ℕ × PanicPayload)} {g g' : Stage} {h h' : HandlePc S} {a : Bool}

/-- The worker returns `Err(())` without a panic. -/
theorem err (hs : StatusAt st ps .quiet h a) : StatusAt st ps .erred h a :=
  { hs with
    recorded := fun t p hp => by simpa using (hs.recorded t p hp).2.2
    sending := nofun
    storing := nofun
    message := fun hm => by simpa using hs.message hm }

/-- While the worker has no panic to report none is recorded. -/
theorem panics_eq_nil (hs : StatusAt st ps g h a) (hg : g = .quiet ∨ ∃ t p, g = .storing t p) : ps = [] := by
  cases ps with
  | nil => rfl
  | cons q ps =>
    obtain ⟨-, -, hr⟩ := hs.recorded q.1 q.2 List.mem_cons_self
    rcases hg with rfl | ⟨t, p, rfl⟩ <;> simp at hr

/-- The worker sets the message. -/
theorem setMsg (hs : StatusAt st ps .quiet h a) (t : ℕ) (p : PanicPayload) :
    StatusAt (st.setPanicMsg p.msg) ps (.storing t p) h a := by
  have hps := hs.panics_eq_nil (.inl rfl)
  have hmsg : st.taskPanicMsg = none := by
    by_contra hm
    rcases hs.message hm with hm | ⟨t, p, hm⟩
    · exact hm hps
    · cases hm
  subst hps
  exact { hs with
    recorded := nofun
    sending := nofun
    storing := by
      rintro u q ⟨⟩
      simp [WorkerStatus.setPanicMsg, hmsg]
    message := fun _ => .inr ⟨t, p, rfl⟩ }

/-- The worker stores the flag. -/
theorem storePanicked {t : ℕ} {p : PanicPayload} (hs : StatusAt st ps (.storing t p) h a) :
    StatusAt st.storeTaskPanicked (ps ++ [(t, p)]) (.sending t p) h a := by
  have hps := hs.panics_eq_nil (.inr ⟨t, p, rfl⟩)
  have hmsg := hs.storing t p rfl
  subst hps
  exact {
    flag_ne_none := by simp
    panicked := by simp
    recorded := by
      rintro u q hq
      obtain ⟨rfl, rfl⟩ : u = t ∧ q = p := by simpa using hq
      exact ⟨rfl, hmsg, .inl rfl⟩
    sending := by
      rintro u q ⟨⟩
      simp
    storing := nofun
    message := by simp
    aborts := by simp
    cancels := by simp
    undecided := hs.undecided
    abortWorker := fun op ho => ⟨(hs.abortWorker op ho).1, .inr rfl⟩
    aborting := fun ha => ⟨(hs.aborting ha).1, .inr rfl⟩ }

/-- The worker sends the payload. -/
theorem sendPanic {t : ℕ} {p : PanicPayload} (hs : StatusAt st ps (.sending t p) h a) :
    StatusAt st ps .erred h a :=
  { hs with
    recorded := fun u q hq => ⟨(hs.recorded u q hq).1, (hs.recorded u q hq).2.1, .inr rfl⟩
    sending := nofun
    storing := nofun
    message := fun hm => by simpa using hs.message hm }

/-- The handle goes on with its operation. -/
theorem of_op (hs : StatusAt st ps g h a) (ho : h'.op? = h.op?)
    (hu : h'.undecided = true → h.undecided = true) (ha : ∀ op, h' = .abortWorker op → h = .abortWorker op) :
    StatusAt st ps g h' a :=
  { hs with
    aborts := fun hf => ho ▸ hs.aborts hf
    cancels := fun hf => ho ▸ hs.cancels hf
    undecided := fun op hu' ho' => hs.undecided op (hu hu') (ho ▸ ho')
    abortWorker := fun op hw => hs.abortWorker op (ha op hw)
    aborting := fun hb => ho ▸ hs.aborting hb }

/-- The flag is set, where nothing was recorded before. -/
theorem set (hs : StatusAt st ps g h a) (hf : st.flag = some .runningOrRuntimeShutdown) {st' : WorkerStatus}
    (hm : st'.taskPanicMsg = st.taskPanicMsg) {op : Consume} (ho : h'.op? = some op)
    (hst : st'.flag = some .abortStarted ∧ op.aborts = true ∨
      st'.flag = some .cancelStarted ∧ op.cancels = true ∧ ∀ op, h' ≠ .abortWorker op)
    (hu : h'.undecided = false) : StatusAt st' ps g h' a := by
  have hps : ps = [] := by
    by_contra hne
    simp [hs.panicked.mpr hne] at hf
  have ha : a = false := by
    by_contra hne
    rcases (hs.aborting (by simpa using hne)).2 with hf' | hf' <;> simp [hf'] at hf
  subst hps ha
  have hf' : st'.flag ≠ some .taskPanicked ∧ st'.flag ≠ none := by
    rcases hst with ⟨hst, -⟩ | ⟨hst, -⟩ <;> simp [hst]
  exact {
    flag_ne_none := hf'.2
    panicked := by simp [hf'.1]
    recorded := nofun
    sending := hs.sending
    storing := hm ▸ hs.storing
    message := hm ▸ hs.message
    aborts := by grind
    cancels := by grind
    undecided := by simp [hu]
    abortWorker := by grind
    aborting := nofun }

/-- The handle is consumed. -/
theorem consume (hs : StatusAt st ps g (.live : HandlePc S) a)
    (hu : ∀ op, h'.undecided = true → h'.op? = some op → op.aborts = true ∨ op.cancels = true)
    (ha : ∀ op, h' ≠ .abortWorker op) : StatusAt st ps g h' a :=
  { hs with
    aborts := fun hf => by simpa [HandlePc.op?] using hs.aborts hf
    cancels := fun hf => by simpa [HandlePc.op?] using hs.cancels hf
    undecided := hu
    abortWorker := fun op hw => absurd hw (ha op)
    aborting := fun hb => by simpa [HandlePc.op?] using hs.aborting hb }

end StatusAt

namespace Sys

variable {B : Bodies S F R PanicPayload} {s s' : Sys S F R} {t : ℕ}

/-- What the status records. -/
abbrev Status (s : Sys S F R) : Prop := StatusAt s.status s.panics s.worker.stage s.handle s.aborting

theorem status_init (v : S) : (init v : Sys S F R).Status := by
  constructor
  case message => exact fun h => absurd rfl h
  all_goals simp [init, HandlePc.undecided, HandlePc.op?, WorkerPc.stage]

@[simp] theorem op?_afterSenders (op : Consume) : (afterSenders op : HandlePc S).op? = some op := by
  cases op <;> rfl

@[simp] theorem undecided_afterSenders (op : Consume) : (afterSenders op : HandlePc S).undecided = false := by
  cases op <;> rfl

theorem afterSenders_ne_abortWorker (op op' : Consume) : (afterSenders op : HandlePc S) ≠ .abortWorker op' := by
  cases op <;> nofun

theorem Status.worker (h : s.Status) (m : WorkerMove B s s') : s'.Status := by
  unfold Status at *
  cases m with
  | failAsync hw _ | joinedNone hw _ => rw [hw] at h; exact h.err
  | setMsg hw => rw [hw] at h; exact h.setMsg _ _
  | storePanicked hw => rw [hw] at h; exact h.storePanicked
  | sendPanic hw => rw [hw] at h; exact h.sendPanic
  | corrupted => exact h
  | recv hw | recvNone hw | «break» hw | check hw | take hw | skip hw | spawnBlocking hw | startAsync hw
  | asyncPending hw | asyncReady hw | asyncPanicked hw | asyncSend hw | asyncUnwind hw | asyncUnlock hw
  | joined hw | notJoined hw | succeeded hw | dropBody hw | dropBodyTx hw | dropGuard hw | lastMessage hw
  | message hw | resultTx hw | panicTx hw | closeRx hw | drained hw | drainLast hw | drain hw | ended hw =>
    rw [hw] at h; exact h

theorem Status.runtime {a : Act F} (h : s.Status) (m : RuntimeMove s a s') : s'.Status := by
  unfold Status at *
  cases m with
  | dropQueued | shutdown => exact h
  | pollRecv _ hw | pollAsync _ hw | pollJoin _ hw | yieldRecv hw | yieldJoin hw | dropRecv _ hw
  | dropAsync _ hw | dropJoin _ hw => rw [hw] at h; exact h

theorem Status.handleMove {a : Act F} (h : s.Status) (m : HandleMove s a s') : s'.Status := by
  unfold Status at *
  cases m with
  | setAbort hh ho hf =>
    refine h.set hf (by simp [WorkerStatus.trySetAbortStarted]) rfl (.inl ⟨?_, ?_⟩) rfl
    · exact WorkerStatus.flag_trySetAbortStarted ((WorkerStatus.trySetAbortStarted_fst _).mpr hf)
    · rcases ho with rfl | rfl <;> rfl
  | setCancel hh ho hf =>
    refine h.set hf (by simp [WorkerStatus.trySetCancelStarted]) rfl (.inr ⟨?_, ?_, nofun⟩) rfl
    · exact WorkerStatus.flag_trySetCancelStarted ((WorkerStatus.trySetCancelStarted_fst _).mpr hf)
    · have hu := h.undecided _ (by rw [hh]; rfl) (by rw [hh]; rfl)
      grind
  | @consume op _ hh hs hp =>
    rw [hh] at h
    rcases hp with ⟨-, rfl⟩ | ⟨-, rfl⟩ | ⟨ho, ho', rfl⟩
    · exact h.consume nofun nofun
    · exact h.consume nofun nofun
    · refine h.consume (fun _ _ hop => ?_) nofun
      cases hop
      cases op <;> simp_all [Consume.aborts, Consume.cancels]
  | @abortWorker op hh =>
    rw [hh] at h
    obtain ⟨ho, hf⟩ := h.abortWorker op rfl
    have hb : StatusAt _ _ _ (.closeSenders op) _ := h.of_op rfl nofun nofun
    exact { hb with aborting := fun _ => ⟨⟨op, rfl, ho⟩, hf⟩ }
  | corrupted | stateMissing => exact h
  | notFinished hh => exact h.of_op (by rw [hh]; rfl) (by rw [hh]; exact fun _ => rfl) nofun
  | finished hh | setFailed hh | closeSenders hh | workerEnded hh | lockState hh
  | takeState hh | unlockState hh | decideOk hh | decideAborted hh | decidePanicked hh | decideShutdown hh
  | readPanicMsg hh => exact h.of_op (by rw [hh]; rfl) nofun nofun
  | dropCtx hh =>
    split_ifs
    · exact h.of_op (by rw [hh]; rfl) nofun nofun
    · exact h.of_op (by rw [hh]; rfl) nofun nofun
  | @dropTx op hh =>
    split_ifs
    · exact h.of_op (by rw [hh]; rfl) nofun nofun
    · refine h.of_op (by rw [hh]; exact op?_afterSenders op) (fun hu => ?_) fun op' ha => ?_
      · exact absurd hu (by simp)
      · exact absurd ha (afterSenders_ne_abortWorker op op')
  | dropJoin hh => exact h.of_op (by rcases hh with hh | ⟨out, hh⟩ <;> rw [hh] <;> rfl) nofun nofun

/-- **What the status records holds in every reachable state.** -/
theorem Status.step {a : Act F} (h : s.Status) (m : Move B s a s') : s'.Status := by
  cases m with
  | worker m => exact h.worker m
  | runtime m => exact h.runtime m
  | handle m => exact h.handleMove m
  | pool m | call m | taskHandle m | spawn m | spawner m => cases m <;> exact h

/-! ### What the status tells later -/

/-- What is recorded stays, until a panic overwrites it. -/
theorem flag_of_move {a : Act F} (m : Move B s a s') (h : s.flag ≠ some .runningOrRuntimeShutdown) :
    s'.flag = s.flag ∨ s'.flag = some .taskPanicked := by
  cases m with
  | worker m =>
    cases m with
    | setMsg _ => exact .inl (WorkerStatus.flag_setPanicMsg ..)
    | storePanicked _ => exact .inr (WorkerStatus.flag_storeTaskPanicked _)
    | _ => exact .inl rfl
  | handle m =>
    cases m with
    | setAbort _ _ hf | setCancel _ _ hf => exact absurd hf h
    | _ => exact .inl rfl
  | runtime m | pool m | call m | taskHandle m | spawn m | spawner m => cases m <;> exact .inl rfl

/-- A recorded panic is final. -/
theorem Status.final {a : Act F} (h : s.Status) (m : Move B s a s') (hp : s.panics ≠ []) :
    s'.status = s.status ∧ s'.panics = s.panics := by
  have hf : s.flag = some .taskPanicked := h.panicked.mpr hp
  cases m with
  | worker m =>
    cases m with
    | setMsg hw => exact absurd (h.panics_eq_nil (.inl (by rw [hw]; rfl))) hp
    | storePanicked hw => exact absurd (h.panics_eq_nil (.inr ⟨_, _, by rw [hw]; rfl⟩)) hp
    | _ => exact ⟨rfl, rfl⟩
  | handle m =>
    cases m with
    | setAbort _ _ hr | setCancel _ _ hr => simp [hf] at hr
    | _ => exact ⟨rfl, rfl⟩
  | runtime m | pool m | call m | taskHandle m | spawn m | spawner m => cases m <;> exact ⟨rfl, rfl⟩

/-- The recorded panic. -/
theorem Status.eq_of_mem (h : s.Status) {p : PanicPayload} (hp : (t, p) ∈ s.panics) : s.panics = [(t, p)] :=
  (h.recorded t p hp).1

/-- Its message can be read. -/
theorem Status.panicMsg_eq (h : s.Status) {p : PanicPayload} (hp : (t, p) ∈ s.panics) :
    s.status.panicMsg = p.msg := by
  simp [WorkerStatus.panicMsg, (h.recorded t p hp).2.1]

/-- The flag of a state with a recorded panic. -/
theorem Status.exists_of_flag (h : s.Status) (hf : s.flag = some .taskPanicked) : ∃ t p, (t, p) ∈ s.panics := by
  obtain ⟨⟨t, p⟩, hq⟩ := List.exists_mem_of_ne_nil _ (h.panicked.mp hf)
  exact ⟨t, p, hq⟩

end Sys

end AsyncSequential
