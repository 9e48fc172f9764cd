import AsyncSequential.Lib.Resume
import AsyncSequential.Lib.Runs
import Mathlib.Logic.Function.Basic

/-!
# An executor of atomic bodies

The abstract view of a sequential executor: named tasks are accepted, in an order,
and each is either withdrawn before it runs, or its body is run, the whole of it at
once, on the one value that all bodies share. `next` says what may happen:

* `accept` — a new task gets in line.
* `withdraw` — a task that waits is withdrawn; it will never run.
* `run` — the first task that waits runs to its end, and returns or panics.
* `abandon` — it runs for a while and is dropped where it is suspended.

A body that panics or is dropped halts the executor: no body runs after it.
`next_run`, `next_abandon` and `next_withdraw` say when these steps are possible,
in terms of the line, and not of how its first task is found. What has become of a
task stays: `outcome_of_steps`.
-/

/-- What has become of a task. -/
inductive Outcome (R P : Type*) where
  /-- It waits for its turn. -/
  | waiting
  /-- It was withdrawn before its turn. -/
  | withdrawn
  /-- Its body returned. -/
  | completed (r : R)
  /-- Its body panicked. -/
  | panicked (p : P)
  /-- Its body was dropped. -/
  | dropped

/-- The executor: the shared value, the tasks in the order of acceptance, and what has become of them. -/
@[ext] structure Executor (ι S F R P : Type*) where
  value : S
  accepted : List (ι × F)
  outcome : ι → Outcome R P

namespace Executor

variable {ι S F R P : Type*} [DecidableEq ι] {B : Bodies S F R P} {e : Executor ι S F R P} {t : ι} {f f' : F}
  {v' : S} {n : ℕ} {pre post : List (ι × F)}

/-- What happens to an executor. -/
inductive Event (ι F : Type*) where
  | accept (t : ι) (f : F)
  | withdraw (t : ι)
  | run (segs : ℕ)
  | abandon (segs : ℕ)

/-- Nothing has been accepted. -/
def init (v : S) : Executor ι S F R P := ⟨v, [], fun _ => .waiting⟩

/-- The task waits for its turn. -/
def waits (e : Executor ι S F R P) (t : ι) : Bool := e.outcome t matches .waiting

/-- A body has panicked, or was dropped. -/
def halted (e : Executor ι S F R P) : Bool :=
  e.accepted.any fun (t, _) => (e.outcome t matches .panicked _) || (e.outcome t matches .dropped)

/-- The task whose turn it is. -/
def first (e : Executor ι S F R P) : Option (ι × F) := e.accepted.find? fun (t, _) => e.waits t

/-- The body of `t` has left `v`, and this has become of it. -/
def settle (e : Executor ι S F R P) (t : ι) (v : S) (x : Outcome R P) : Executor ι S F R P :=
  { e with value := v, outcome := Function.update e.outcome t x }

/-- One event. -/
def next (B : Bodies S F R P) (e : Executor ι S F R P) : Event ι F → Option (Executor ι S F R P)
  | .accept t f => if t ∈ e.accepted.map Prod.fst then none else some { e with accepted := e.accepted ++ [(t, f)] }
  | .withdraw t =>
    if t ∈ e.accepted.map Prod.fst ∧ e.waits t then some (e.settle t e.value .withdrawn) else none
  | .run n =>
    match e.halted, e.first with
    | false, some (t, f) =>
      match B.run n f e.value with
      | (v, .ready r) => some (e.settle t v (.completed r))
      | (v, .panicked p) => some (e.settle t v (.panicked p))
      | (_, .pending _) => none
    | _, _ => none
  | .abandon n =>
    match e.halted, e.first with
    | false, some (t, f) =>
      match B.run n f e.value with
      | (v, .pending f') => some (e.settle t (B.drop f' v) .dropped)
      | _ => none
    | _, _ => none

/-- It is the turn of `t`: nothing before it waits, and nothing has halted the executor. -/
structure Turn (e : Executor ι S F R P) (t : ι) (f : F) : Prop where
  /-- It has been accepted, and those before it do not wait. -/
  line : ∃ pre post, e.accepted = pre ++ (t, f) :: post ∧ ∀ u ∈ pre, e.waits u.1 = false
  waits : e.waits t = true
  halted : e.halted = false

omit [DecidableEq ι] in
theorem Turn.first (h : e.Turn t f) : e.first = some (t, f) := by
  obtain ⟨pre, post, hacc, hpre⟩ := h.line
  rw [Executor.first, hacc, List.find?_append, List.find?_eq_none.mpr fun u hu => by simp [hpre u hu]]
  simp [h.waits]

/-- Whose turn it is may run to its end. -/
theorem next_run (h : e.Turn t f) {x : Outcome R P}
    (hr : (∃ r, B.run n f e.value = (v', .ready r) ∧ x = .completed r) ∨
      ∃ p, B.run n f e.value = (v', .panicked p) ∧ x = .panicked p) :
    e.next B (.run n) = some (e.settle t v' x) := by
  rcases hr with ⟨r, hr, rfl⟩ | ⟨p, hr, rfl⟩ <;> simp [next, h.halted, h.first, hr]

/-- Or be dropped on the way. -/
theorem next_abandon (h : e.Turn t f) (hr : B.run n f e.value = (v', .pending f')) :
    e.next B (.abandon n) = some (e.settle t (B.drop f' v') .dropped) := by
  simp [next, h.halted, h.first, hr]

/-- A task that waits may be withdrawn. -/
theorem next_withdraw (ha : t ∈ e.accepted.map Prod.fst) (hw : e.waits t = true) :
    e.next B (.withdraw t) = some (e.settle t e.value .withdrawn) := by
  rw [next, if_pos ⟨ha, hw⟩]

/-- What has become of a task stays. -/
theorem outcome_of_next {e' : Executor ι S F R P} {ev : Event ι F} (h : e.next B ev = some e')
    (ht : e.outcome t ≠ .waiting) : e'.outcome t = e.outcome t := by
  have hsettle : ∀ {u : ι} {v : S} {x : Outcome R P}, e.waits u = true → (e.settle u v x).outcome t = e.outcome t := by
    intro u v x hu
    refine Function.update_of_ne (fun htu => ?_) _ _
    rw [waits, ← htu] at hu
    cases hx : e.outcome t <;> simp_all
  cases ev with
  | accept u f =>
    simp only [next] at h
    split_ifs at h
    cases h
    rfl
  | withdraw u =>
    simp only [next] at h
    split_ifs at h with hu
    cases h
    exact hsettle hu.2
  | run n | abandon n =>
    simp only [next] at h
    split at h
    · rename_i u f _ hfirst
      have hu : e.waits u = true := by simpa using List.find?_some hfirst
      split at h <;> cases h
      all_goals exact hsettle hu
    · cases h

/-- Along every run. -/
theorem outcome_of_steps {e' : Executor ι S F R P} {C : Executor ι S F R P → Event ι F → Prop}
    (h : Runs.Steps (next B) C e e') (ht : e.outcome t ≠ .waiting) : e'.outcome t = e.outcome t := by
  induction h with
  | refl => rfl
  | tail _ _ hn ih => rw [outcome_of_next hn (by rwa [ih]), ih]

end Executor
