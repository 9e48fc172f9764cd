import AsyncSequential.Internal
import AsyncSequential.Lib.Runs
import Mathlib.Logic.Function.Basic

/-!
# Inside the once-take cell

`OnceTake::take` is not one access. It swaps `taken`, and who turned it to true
goes into an `unsafe` block that reads the value out of its `UnsafeCell` and
writes `None` back, with nothing but the swap to keep others out; that is what
the crate's `unsafe impl Sync` rests on. Here any number of calls run on one
cell, an access at a time and in any order.

* `exclusive_access` — two calls are never both in the block, and who is in it
  finds the value that the cell was made with.
* `take_once` — the value goes to exactly one of the calls, all others get `None`.
* `take_is_atomic` — seen from outside, every call is one step: `OnceTake.take`,
  done at the swap. The other modules use that step.
-/

namespace AsyncSequential

variable {T ι : Type*}

/-- `From<Option<T>>`. -/
def OnceTake.ofOption : Option T → OnceTake T
  | some value => .new value
  | none => .empty

/-- Where a call of `OnceTake::take` is. -/
inductive TakePc (T : Type*) where
  /-- Not called. -/
  | absent
  /-- About to swap `taken`. -/
  | swap
  /-- In the `unsafe` block, about to read the value. -/
  | read
  /-- In the `unsafe` block, has read `value`; about to write `None`. -/
  | write (value : Option T)
  /-- Returned. -/
  | returned (result : Option T)
  deriving DecidableEq

/-- The call is in the `unsafe` block. -/
@[grind] def TakePc.inBlock : TakePc T → Bool
  | .read | .write _ => true
  | .absent | .swap | .returned _ => false

/-- The call has turned `taken` to true. -/
@[grind] def TakePc.won : TakePc T → Bool
  | .read | .write _ | .returned (some _) => true
  | .absent | .swap | .returned none => false

/-- A cell that is shared by the calls `ι`. -/
structure SharedCell (ι T : Type*) where
  /-- The cell. -/
  cell : OnceTake T
  /-- The calls. -/
  calls : ι → TakePc T

/-- What happens on a shared cell. -/
inductive TakeAct (ι : Type*) where
  /-- `take` is called. -/
  | call (i : ι)
  /-- The call goes on. -/
  | step (i : ι)

namespace SharedCell

variable [DecidableEq ι] {o : Option T} {x x' : SharedCell ι T} {i j : ι} {r : Option T}

/-- A new cell, before any call. -/
def init (o : Option T) : SharedCell ι T := ⟨.ofOption o, fun _ => .absent⟩

/-- Call `i` moves to `pc`. -/
@[simp, grind] def goto (x : SharedCell ι T) (i : ι) (pc : TakePc T) : SharedCell ι T :=
  { x with calls := Function.update x.calls i pc }

/-- The next access of a call of `OnceTake::take`. -/
def next (x : SharedCell ι T) : TakeAct ι → Option (SharedCell ι T)
  | .call i =>
    match x.calls i with
    | .absent => some (x.goto i .swap)
    | _ => none
  | .step i =>
    match x.calls i with
    | .absent | .returned _ => none
    -- if self.taken.swap(true, AcqRel)
    | .swap =>
      some ({ x with cell := { x.cell with taken := true } }.goto i
        (if x.cell.taken then .returned none else .read))
    -- (*self.value.get()).take()
    | .read => some (x.goto i (.write x.cell.value))
    | .write value => some ({ x with cell := { x.cell with value := none } }.goto i (.returned value))

/-- The states that a cell made of `o` can reach. -/
abbrev Reachable (o : Option T) (x : SharedCell ι T) : Prop := Runs.Steps next Runs.Any (init o) x

/-- What a step can do. -/
inductive Move (x : SharedCell ι T) : TakeAct ι → SharedCell ι T → Prop
  | call {i : ι} (hi : x.calls i = .absent) : Move x (.call i) (x.goto i .swap)
  | lost {i : ι} (hi : x.calls i = .swap) (ht : x.cell.taken = true) :
      Move x (.step i) ({ x with cell := { x.cell with taken := true } }.goto i (.returned none))
  | won {i : ι} (hi : x.calls i = .swap) (ht : x.cell.taken = false) :
      Move x (.step i) ({ x with cell := { x.cell with taken := true } }.goto i .read)
  | read {i : ι} (hi : x.calls i = .read) : Move x (.step i) (x.goto i (.write x.cell.value))
  | write {i : ι} {v : Option T} (hi : x.calls i = .write v) :
      Move x (.step i) ({ x with cell := { x.cell with value := none } }.goto i (.returned v))

theorem move_of_next {a : TakeAct ι} (h : x.next a = some x') : Move x a x' := by
  cases a with
  | call i =>
    cases hi : x.calls i <;> simp only [next, hi] at h
    case absent => cases h; exact .call hi
    all_goals cases h
  | step i =>
    cases hi : x.calls i <;> simp only [next, hi] at h
    case absent | returned => cases h
    case swap =>
      cases ht : x.cell.taken <;> cases h
      · simpa [ht] using Move.won hi ht
      · simpa [ht] using Move.lost hi ht
    case read => cases h; exact .read hi
    case write v => cases h; exact .write hi

/-! ### Who has won -/

/-- A cell made of `o` and its calls. -/
structure Guarded (o : Option T) (x : SharedCell ι T) : Prop where
  /-- Nobody has won an unmarked cell, and it holds its value. -/
  free : x.cell.taken = false → x.cell.value = o ∧ o.isSome ∧ ∀ i, (x.calls i).won = false
  /-- A call that lost found the cell marked. -/
  lost : ∀ i, x.calls i = .returned none → x.cell.taken = true
  /-- One call has won a marked cell, unless it was made empty. -/
  winner : x.cell.taken = true → (o = none ∧ x.cell.value = none) ∨ ∃ i, (x.calls i).won = true
  /-- Only one. -/
  one : ∀ i j, (x.calls i).won = true → (x.calls j).won = true → i = j
  /-- It wins a value. -/
  won : ∀ i, (x.calls i).won = true → o.isSome
  /-- It finds the value there. -/
  reading : ∀ i, x.calls i = .read → x.cell.value = o
  /-- It has read the value. -/
  writing : ∀ i v, x.calls i = .write v → x.cell.value = o ∧ v = o
  /-- It has taken the value. -/
  returned : ∀ i v, x.calls i = .returned (some v) → x.cell.value = none ∧ some v = o

omit [DecidableEq ι] in
theorem guarded_init (o : Option T) : Guarded o (init o : SharedCell ι T) := by
  cases o <;> constructor <;> simp [init, OnceTake.ofOption, OnceTake.new, OnceTake.empty, TakePc.won]

theorem calls_goto_self (x : SharedCell ι T) (i : ι) (pc : TakePc T) : (x.goto i pc).calls i = pc :=
  Function.update_self ..

theorem calls_goto_of_ne (x : SharedCell ι T) (pc : TakePc T) (hj : j ≠ i) :
    (x.goto i pc).calls j = x.calls j :=
  Function.update_of_ne hj ..

/-- A call that is now at `q` is the one that moved, or was there before. -/
theorem calls_goto {pc q : TakePc T} (hj : (x.goto i pc).calls j = q) : pc = q ∨ x.calls j = q := by
  rcases eq_or_ne j i with rfl | hne
  · exact .inl ((calls_goto_self ..).symm.trans hj)
  · exact .inr ((calls_goto_of_ne x pc hne).symm.trans hj)

/-- Where nobody else had won, the call that moved is the only one to have won now. -/
theorem calls_goto_won {pc q : TakePc T} (hone : ∀ j, (x.calls j).won = true → j = i)
    (hj : (x.goto i pc).calls j = q) (hq : q.won = true) : j = i ∧ pc = q := by
  have hji : j = i := by
    by_contra hne
    rw [calls_goto_of_ne x pc hne] at hj
    exact hne (hone j (by rw [hj, hq]))
  subst hji
  exact ⟨rfl, (calls_goto_self ..).symm.trans hj⟩

omit [DecidableEq ι] in
/-- A call wins by marking the cell. -/
theorem Guarded.taken (h : Guarded o x) (hi : (x.calls i).won = true) : x.cell.taken = true := by
  by_contra ht
  cases ((h.free (Bool.eq_false_iff.mpr ht)).2.2 i).symm.trans hi

/-- A call goes on: the cell stays as it is, and so does who has won. -/
theorem Guarded.goes_on (h : Guarded o x) {pc : TakePc T} (hpc : pc.won = (x.calls i).won)
    (hlost : pc = .returned none → x.cell.taken = true) (hread : pc ≠ .read)
    (hwrite : ∀ v, pc = .write v → x.cell.value = o ∧ v = o) (hreturned : ∀ v, pc ≠ .returned (some v)) :
    Guarded o (x.goto i pc) := by
  have hwon : ∀ j, ((x.goto i pc).calls j).won = (x.calls j).won := by
    intro j
    rcases eq_or_ne j i with rfl | hj
    · rw [calls_goto_self, hpc]
    · rw [calls_goto_of_ne x pc hj]
  constructor
  case free =>
    intro ht
    obtain ⟨hv, ho, hnone⟩ := h.free ht
    exact ⟨hv, ho, fun j => (hwon j).trans (hnone j)⟩
  case lost => exact fun j hj => (calls_goto hj).elim hlost (h.lost j)
  case winner => exact fun ht => (h.winner ht).imp_right fun ⟨j, hj⟩ => ⟨j, (hwon j).trans hj⟩
  case one => exact fun j k hj hk => h.one j k ((hwon j).symm.trans hj) ((hwon k).symm.trans hk)
  case won => exact fun j hj => h.won j ((hwon j).symm.trans hj)
  case reading => exact fun j hj => (calls_goto hj).elim (absurd · hread) (h.reading j)
  case writing => exact fun j v hj => (calls_goto hj).elim (hwrite v) (h.writing j v)
  case returned => exact fun j v hj => (calls_goto hj).elim (absurd · (hreturned v)) (h.returned j v)

/-- A call marks the cell: nobody had won before, and now it has. -/
theorem Guarded.win (h : Guarded o x) (ht : x.cell.taken = false) :
    Guarded o ({ x with cell := { x.cell with taken := true } }.goto i .read) := by
  obtain ⟨hv, ho, hnone⟩ := h.free ht
  have hone : ∀ j, (x.calls j).won = true → j = i := by
    intro j hj
    cases (hnone j).symm.trans hj
  constructor
  case free => intro hmarked; cases hmarked
  case lost => exact fun _ _ => rfl
  case winner => exact fun _ => .inr ⟨i, congrArg TakePc.won (calls_goto_self ..)⟩
  case one =>
    intro j k hj hk
    exact (calls_goto_won hone rfl hj).1.trans (calls_goto_won hone rfl hk).1.symm
  case won => exact fun _ _ => ho
  case reading => exact fun _ _ => hv
  case writing => intro j v hj; cases (calls_goto_won hone hj rfl).2
  case returned => intro j v hj; cases (calls_goto_won hone hj rfl).2

/-- The call in the block writes `None` back: the value is its. -/
theorem Guarded.write {v : Option T} (h : Guarded o x) (hi : x.calls i = .write v) :
    Guarded o ({ x with cell := { x.cell with value := none } }.goto i (.returned v)) := by
  have hwin : (x.calls i).won = true := by rw [hi]; rfl
  have hone : ∀ j, (x.calls j).won = true → j = i := fun j hj => h.one j i hj hwin
  have hv : v = o := (h.writing i v hi).2
  obtain ⟨u, hu⟩ := Option.isSome_iff_exists.mp (h.won i hwin)
  constructor
  case free => intro ht; cases ht.symm.trans (h.taken hwin)
  case lost => exact fun _ _ => h.taken hwin
  case winner =>
    refine fun _ => .inr ⟨i, ?_⟩
    rw [calls_goto_self, hv, hu]
    rfl
  case one =>
    intro j k hj hk
    exact (calls_goto_won hone rfl hj).1.trans (calls_goto_won hone rfl hk).1.symm
  case won => exact fun _ _ => h.won i hwin
  case reading => intro j hj; cases (calls_goto_won hone hj rfl).2
  case writing => intro j w hj; cases (calls_goto_won hone hj rfl).2
  case returned =>
    intro j w hj
    cases (calls_goto_won hone hj rfl).2
    exact ⟨rfl, hv⟩

/-- Every access keeps the cell guarded. -/
theorem Guarded.step {a : TakeAct ι} (h : Guarded o x) (m : Move x a x') : Guarded o x' := by
  cases m with
  | @call i hi =>
    exact h.goes_on (by rw [hi]; rfl) (by simp) (by simp) (by simp) (by simp)
  | @lost i hi ht =>
    have hcell : ({ x with cell := { x.cell with taken := true } } : SharedCell ι T) = x := by rw [← ht]
    rw [hcell]
    exact h.goes_on (by rw [hi]; rfl) (fun _ => ht) (by simp) (by simp) (by simp)
  | won hi ht => exact h.win ht
  | @read i hi =>
    have hv := h.reading i hi
    refine h.goes_on (by rw [hi]; rfl) (by simp) (by simp) (fun v hq => ?_) (by simp)
    cases hq
    exact ⟨hv, hv⟩
  | write hi => exact h.write hi

theorem guarded_of_reachable (h : Reachable o x) : Guarded o x :=
  h.invariant (guarded_init o) fun _ _ _ _ hP _ hn => hP.step (move_of_next hn)

/-- **The `unsafe` block is exclusive**: at most one call is ever in it; while one
is, no other call has taken the value or will, the cell is marked, and it holds
the value that it was made with. -/
theorem exclusive_access (h : Reachable o x) (hi : (x.calls i).inBlock = true) :
    (∀ j, (x.calls j).inBlock = true → j = i) ∧ (∀ j v, x.calls j ≠ .returned (some v)) ∧
    x.cell.taken = true ∧ x.cell.value = o ∧ o.isSome := by
  have hg := guarded_of_reachable h
  have hwon : (x.calls i).won = true := by cases hc : x.calls i <;> rw [hc] at hi <;> grind
  have hvalue : x.cell.value = o := by
    cases hc : x.calls i <;> rw [hc] at hi <;> cases hi
    · exact hg.reading i hc
    · exact (hg.writing i _ hc).1
  refine ⟨fun j hj => hg.one j i ?_ hwon, fun j v hj => ?_, hg.taken hwon, hvalue, hg.won i hwon⟩
  · cases hc : x.calls j <;> rw [hc] at hj <;> grind
  · have hji := hg.one j i (by rw [hj]; rfl) hwon
    rw [← hji, hj] at hi
    cases hi

/-- Two calls on a cell with the value seven: the second is in the block, the first has lost. -/
def demoInBlock : SharedCell ℕ ℕ :=
  (Runs.exec next [.call 0, .call 1, .step 1, .step 0, .step 1] (init (some 7))).get rfl

theorem demoInBlock_reachable : Reachable (some 7) demoInBlock := Runs.steps_of_exec (Option.some_get rfl).symm

theorem exclusive_access_demo : demoInBlock.calls 1 = .write (some 7) ∧ demoInBlock.cell.value = some 7 ∧
    ∀ j, (demoInBlock.calls j).inBlock = true → j = 1 :=
  have h := exclusive_access demoInBlock_reachable (i := 1) rfl
  ⟨rfl, h.2.2.2.1, h.1⟩

/-- **The value goes to exactly one call**: what a call returns is the value or
`None`; only one call returns the value; and once some call has returned, one has
won the value, unless there was none. As long as nobody has won, it is in the cell. -/
theorem take_once (h : Reachable o x) :
    (∀ i v, x.calls i = .returned (some v) → o = some v ∧ x.cell.value = none) ∧
    (∀ i j v w, x.calls i = .returned (some v) → x.calls j = .returned (some w) → i = j) ∧
    (∀ i r, x.calls i = .returned r → o = none ∨ ∃ j, (x.calls j).won = true) ∧
    ((∀ i, (x.calls i).won = false) → x.cell.value = o) := by
  have hg := guarded_of_reachable h
  refine ⟨fun i v hi => ?_, fun i j v w hi hj => ?_, fun i r hi => ?_, fun hnone => ?_⟩
  · exact ⟨(hg.returned i v hi).2.symm, (hg.returned i v hi).1⟩
  · exact hg.one i j (by rw [hi]; rfl) (by rw [hj]; rfl)
  · cases r with
    | some v => exact .inr ⟨i, by rw [hi]; rfl⟩
    | none => exact (hg.winner (hg.lost i hi)).imp_left And.left
  · cases ht : x.cell.taken with
    | false => exact (hg.free ht).1
    | true =>
      rcases hg.winner ht with ⟨ho, hv⟩ | ⟨i, hi⟩
      · rw [hv, ho]
      · cases (hnone i).symm.trans hi

/-- And then the second has the value. -/
def demoTook : SharedCell ℕ ℕ := (next demoInBlock (.step 1)).get rfl

theorem demoTook_reachable : Reachable (some 7) demoTook :=
  demoInBlock_reachable.tail trivial (Option.some_get rfl).symm

theorem take_once_demo : demoTook.calls 1 = .returned (some 7) ∧ demoTook.cell.value = none :=
  ⟨rfl, ((take_once demoTook_reachable).1 1 7 rfl).2⟩

end SharedCell

/-! ### The cell seen from outside -/

/-- Where a call is for an observer who takes `OnceTake::take` for one step. -/
inductive AtomicPc (T : Type*) where
  /-- Not called. -/
  | absent
  /-- Called. -/
  | called
  /-- Has taken; `result` is what it returns. -/
  | took (result : Option T)

/-- A cell on which `OnceTake.take` is one step. -/
structure AtomicCell (ι T : Type*) where
  /-- The cell. -/
  cell : OnceTake T
  /-- The calls. -/
  calls : ι → AtomicPc T

namespace AtomicCell

variable [DecidableEq ι]

/-- A new cell, before any call. -/
def init (o : Option T) : AtomicCell ι T := ⟨.ofOption o, fun _ => .absent⟩

/-- A call is made, or takes. -/
def next (y : AtomicCell ι T) : TakeAct ι → Option (AtomicCell ι T)
  | .call i =>
    match y.calls i with
    | .absent => some { y with calls := Function.update y.calls i .called }
    | _ => none
  | .step i =>
    match y.calls i with
    | .called => some ⟨y.cell.take.2, Function.update y.calls i (.took y.cell.take.1)⟩
    | _ => none

end AtomicCell

/-- What an observer sees of a call that finds `value` when it gets to read the cell. -/
def TakePc.seen (value : Option T) : TakePc T → AtomicPc T
  | .absent => .absent
  | .swap => .called
  | .read => .took value
  | .write v => .took v
  | .returned r => .took r

namespace SharedCell

variable [DecidableEq ι] {o : Option T} {x x' : SharedCell ι T} {i : ι}

/-- What an observer sees of a shared cell: a marked cell is empty, whether the
winner has got to it or not. -/
def seen (x : SharedCell ι T) : AtomicCell ι T where
  cell := if x.cell.taken then .empty else x.cell
  calls j := (x.calls j).seen x.cell.value

omit [DecidableEq ι] in
theorem seen_init (o : Option T) : (init o : SharedCell ι T).seen = .init o := by
  cases o <;> simp [init, seen, AtomicCell.init, OnceTake.ofOption, OnceTake.new, OnceTake.empty, TakePc.seen]

theorem seen_goto (x : SharedCell ι T) (i : ι) (pc : TakePc T) :
    (x.goto i pc).seen = ⟨x.seen.cell, Function.update x.seen.calls i (pc.seen x.cell.value)⟩ := by
  have hcalls : (fun j => (Function.update x.calls i pc j).seen x.cell.value) =
      Function.update x.seen.calls i (pc.seen x.cell.value) := by
    funext j
    simp only [seen, Function.update_apply]
    split_ifs <;> rfl
  exact congrArg (AtomicCell.mk x.seen.cell) hcalls

/-- A cell that has just been marked is empty for an observer. -/
theorem seen_mark (x : SharedCell ι T) (i : ι) (pc : TakePc T) :
    (({ x with cell := { x.cell with taken := true } } : SharedCell ι T).goto i pc).seen =
      ⟨.empty, Function.update x.seen.calls i (pc.seen x.cell.value)⟩ :=
  seen_goto _ i pc

/-- While a call is in the block, the others see the same whether the value is there or not. -/
theorem Guarded.seen_write (h : Guarded o x) {v : Option T} (hi : x.calls i = .write v) :
    (({ x with cell := { x.cell with value := none } } : SharedCell ι T).goto i (.returned v)).seen = x.seen := by
  have htaken : x.cell.taken = true := by
    by_contra ht
    have hnot := (h.free (Bool.eq_false_iff.mpr ht)).2.2 i
    rw [hi] at hnot
    cases hnot
  have hcalls : ∀ j, (Function.update x.calls i (.returned v) j).seen none = (x.calls j).seen x.cell.value := by
    intro j
    by_cases hji : j = i
    · subst hji
      rw [Function.update_self, hi]
      rfl
    · rw [Function.update_of_ne hji]
      cases hj : x.calls j with
      | read => exact absurd (h.one j i (by rw [hj]; rfl) (by rw [hi]; rfl)) hji
      | _ => rfl
  simp only [seen, goto, htaken, if_true, hcalls]

/-- Outside the block every access is a step of the atomic cell; the swap is the take. -/
theorem next_seen {a : TakeAct ι} (m : Move x a x') (hb : ∀ i, a = .step i → (x.calls i).inBlock = false) :
    x.seen.next a = some x'.seen := by
  cases m with
  | @call i hi =>
    have hs : x.seen.calls i = .absent := by simp only [seen, hi, TakePc.seen]
    simp only [AtomicCell.next, hs, seen_goto]
    rfl
  | @lost i hi ht =>
    have hs : x.seen.calls i = .called := by simp only [seen, hi, TakePc.seen]
    have hcell : x.seen.cell = .empty := by simp only [seen, ht, if_true]
    simp only [AtomicCell.next, hs, seen_mark, hcell]
    rfl
  | @won i hi ht =>
    have hs : x.seen.calls i = .called := by simp only [seen, hi, TakePc.seen]
    have hcell : x.seen.cell = x.cell := by simp only [seen, ht, Bool.false_eq_true, if_false]
    have htake : x.cell.take = (x.cell.value, .empty) := by
      simp only [OnceTake.take, ht, Bool.false_eq_true, if_false, OnceTake.empty]
    simp only [AtomicCell.next, hs, seen_mark, hcell, htake]
    rfl
  | @read i hi | @write i _ hi =>
    have hno := hb i rfl
    rw [hi] at hno
    cases hno

/-- An access in the block is none. -/
theorem Guarded.seen_of_inBlock (h : Guarded o x) (m : Move x (.step i) x') (hb : (x.calls i).inBlock = true) :
    x'.seen = x.seen := by
  cases m with
  | read hi =>
    have hs : x.seen.calls i = .took x.cell.value := by simp only [seen, hi, TakePc.seen]
    simp only [seen_goto, TakePc.seen, ← hs, Function.update_eq_self]
  | write hi => exact h.seen_write hi
  | lost hi | won hi =>
    rw [hi] at hb
    cases hb

/-- **A take is atomic**: what an observer sees of a shared cell runs as the cell whose
takes are single steps. Step by step: an access in the block changes nothing to see,
and every other one is the same step there, with the swap for the take. A call that has
yet to swap has yet to take there, and one that has returned has taken what it returned. -/
theorem take_is_atomic (h : Reachable o x) :
    Runs.Steps AtomicCell.next Runs.Any (.init o) x.seen ∧
    (∀ i x', next x (.step i) = some x' → (x.calls i).inBlock = true → x'.seen = x.seen) ∧
    (∀ a x', next x a = some x' → (∀ i, a = .step i → (x.calls i).inBlock = false) →
      x.seen.next a = some x'.seen) ∧
    (∀ i, x.calls i = .absent ↔ x.seen.calls i = .absent) ∧ (∀ i, x.calls i = .swap ↔ x.seen.calls i = .called) ∧
    ∀ i r, x.calls i = .returned r → x.seen.calls i = .took r := by
  refine ⟨?_, fun i x' hn hb => ?_, fun a x' hn hb => ?_, fun i => ?_, fun i => ?_, fun i r hi => ?_⟩
  · refine h.invariant (P := fun u => Runs.Steps AtomicCell.next Runs.Any (.init o) u.seen) ?_
      fun u v a hr hu _ hn => ?_
    · rw [seen_init]
      exact .refl
    · by_cases hb : ∃ i, a = .step i ∧ (u.calls i).inBlock = true
      · obtain ⟨i, rfl, hi⟩ := hb
        rwa [(guarded_of_reachable hr).seen_of_inBlock (move_of_next hn) hi]
      · refine hu.tail trivial (next_seen (move_of_next hn) fun i ha => ?_)
        simpa using fun hi => hb ⟨i, ha, hi⟩
  · exact (guarded_of_reachable h).seen_of_inBlock (move_of_next hn) hb
  · exact next_seen (move_of_next hn) hb
  · cases hi : x.calls i <;> simp [seen, hi, TakePc.seen]
  · cases hi : x.calls i <;> simp [seen, hi, TakePc.seen]
  · simp only [seen, hi, TakePc.seen]

theorem take_is_atomic_demo : Runs.Steps AtomicCell.next Runs.Any (.init (some 7)) demoTook.seen ∧
    demoTook.seen.calls 1 = .took (some 7) :=
  have ⟨hrun, _, _, _, _, htook⟩ := take_is_atomic demoTook_reachable
  ⟨hrun, htook 1 (some 7) rfl⟩

end SharedCell

end AsyncSequential
