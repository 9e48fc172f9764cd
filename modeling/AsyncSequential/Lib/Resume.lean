import Mathlib.Logic.Basic
import Mathlib.Data.List.Basic
import Mathlib.Order.Lattice
import Mathlib.Data.Nat.Init
import Mathlib.Data.Nat.Find

/-!
# Bodies that run in segments

A body works on a shared value `S` and runs in segments: between two segments it
may be suspended, and someone else may look at the world but not at the value.
A segment changes the value and either leaves a continuation, returns a result,
or panics. Bodies are the elements of a type `F` on which `poll` is given — a
coalgebra — so a body need not ever finish. A body that is dropped while it is
suspended may still change the value, in its destructors: `drop`.

`poll` is a function, though what a real body does may depend on things outside
the value. That is no restriction on a property proved for every `F` and every
`poll`: along any one run, take as continuations what the body went on to do.

* `Bodies.run n f v` — `n` segments of `f` from `v`.
* `Bodies.Ends`, `Bodies.need` — every body ends, and how many segments it takes.
* `Bodies.interpret` — the sequential interpreter: whole bodies one after
  another, stopping at the first panic.
* `run_eq_of_le`, `interpret_mono` — more fuel changes no result, so results are
  unique (`interpret_unique`).
* `Execution`, `replay`, `Legal` — a record of bodies run one after another, the
  value they leave, and that each ended the way the record says.
* `interpret_append` — the interpreter reproduces a record of completed bodies.
* `interpret_of_append` — what the interpreter comes to on all bodies it comes to
  on the first of them, as far as they go.
-/

/-- What a segment of a body ends with. -/
inductive Segment (F R P : Type*) where
  /-- The body is suspended, with this left to do. -/
  | pending (f : F)
  /-- The body returned. -/
  | ready (r : R)
  /-- The body panicked. -/
  | panicked (p : P)

/-- The outcome is final: it is not `pending`. -/
def Segment.Final {F R P : Type*} : Segment F R P → Prop
  | .pending _ => False
  | _ => True

/-- How bodies behave. -/
structure Bodies (S F R P : Type*) where
  /-- Run one segment. -/
  poll : F → S → S × Segment F R P
  /-- The effect of dropping a suspended body. -/
  drop : F → S → S

/-- What has become of a body. -/
inductive Fate (R P : Type*) where
  /-- It has not started. -/
  | unstarted
  /-- It is between its start and its end. -/
  | running
  /-- It returned. -/
  | completed (r : R)
  /-- It panicked. -/
  | panicked (p : P)
  /-- It was dropped while it was suspended. -/
  | dropped
  deriving DecidableEq

/-- One body's share in an execution. -/
structure Execution (F R P : Type*) where
  /-- The body. -/
  body : F
  /-- How many of its segments were run. -/
  segs : ℕ
  /-- What became of it. -/
  fate : Fate R P

/-- What the body returned, if it did. -/
def Execution.result? {F R P : Type*} (e : Execution F R P) : Option R :=
  match e.fate with
  | .completed r => some r
  | _ => none

namespace Bodies

variable {S F R P : Type*} (B : Bodies S F R P)

/-- The value and the outcome after `n` segments. -/
def run : ℕ → F → S → S × Segment F R P
  | 0, f, v => (v, .pending f)
  | n + 1, f, v =>
    match run n f v with
    | (v', .pending f') => B.poll f' v'
    | other => other

@[simp] theorem run_zero (f : F) (v : S) : B.run 0 f v = (v, .pending f) := rfl

/-- One more segment of a body that is still suspended. -/
theorem run_succ_of_pending {n : ℕ} {f f' : F} {v v' : S} (h : B.run n f v = (v', .pending f')) :
    B.run (n + 1) f v = B.poll f' v' := by
  simp only [run, h]

/-- A body that has ended stays as it ended. -/
theorem run_eq_of_le {n m : ℕ} {f : F} {v : S} (h : (B.run n f v).2.Final) (hnm : n ≤ m) :
    B.run m f v = B.run n f v := by
  induction m, hnm using Nat.le_induction with
  | base => rfl
  | succ m _ ih =>
    simp only [run, ih]
    split
    · rename_i v' f' heq
      rw [heq] at h
      exact h.elim
    · rfl

/-! ### Bodies that end -/

/-- A body's first segment, and then the others. -/
theorem run_succ_of_poll {n : ℕ} {f f' : F} {v v' : S} (h : B.poll f v = (v', .pending f')) :
    B.run (n + 1) f v = B.run n f' v' := by
  induction n with
  | zero => exact h
  | succ n ih =>
    rw [run, ih]
    rfl

/-- Every body ends, whatever value it begins with. -/
def Ends : Prop := ∀ f v, ∃ n, (B.run n f v).2.Final

open Classical in
/-- How many segments a body takes to its end. -/
noncomputable def need (h : B.Ends) (f : F) (v : S) : ℕ := Nat.find (h f v)

variable {B}

/-- A body takes at least one. -/
theorem need_pos (h : B.Ends) (f : F) (v : S) : 0 < B.need h f v := by
  classical
  exact (Nat.find_pos (h f v)).mpr id

/-- A segment takes a body closer to its end. -/
theorem need_lt_of_pending (h : B.Ends) {f f' : F} {v v' : S} (hp : B.poll f v = (v', .pending f')) :
    B.need h f' v' < B.need h f v := by
  classical
  obtain ⟨n, hn⟩ := Nat.exists_eq_succ_of_ne_zero (need_pos h f v).ne'
  have hfinal : (B.run (n + 1) f v).2.Final := by
    rw [← Nat.succ_eq_add_one, ← hn]
    exact Nat.find_spec (h f v)
  rw [B.run_succ_of_poll hp] at hfinal
  rw [hn]
  exact Nat.lt_succ_of_le (Nat.find_min' (h f' v') hfinal)

variable (B)

/-! ### The sequential interpreter -/

/-- What a sequence of bodies came to: the value they left, what the bodies that
returned returned, and the panic that stopped the sequence, if any. -/
structure Result (S R P : Type*) where
  /-- The value at the end. -/
  value : S
  /-- What the bodies returned, in order, up to the one that panicked. -/
  returned : List R
  /-- The panic that stopped the sequence. -/
  panic : Option P

/-- Run the bodies one after the other, each with at most `fuel` segments, and
stop at the first that panics. `none` when some body did not end. -/
def interpret (fuel : ℕ) : List F → S → Option (Result S R P)
  | [], v => some ⟨v, [], none⟩
  | f :: fs, v =>
    match B.run fuel f v with
    | (v', .ready r) => (interpret fuel fs v').map fun res => { res with returned := r :: res.returned }
    | (v', .panicked p) => some ⟨v', [], some p⟩
    | (_, .pending _) => none

/-- More fuel changes no result. -/
theorem interpret_mono {n m : ℕ} (hnm : n ≤ m) {fs : List F} {v : S} {res : Result S R P}
    (h : B.interpret n fs v = some res) : B.interpret m fs v = some res := by
  induction fs generalizing v res with
  | nil => exact h
  | cons f fs ih =>
    simp only [interpret] at h
    split at h
    · rename_i v' r heq
      obtain ⟨res', hres, rfl⟩ := Option.map_eq_some_iff.mp h
      have hm : B.run m f v = (v', .ready r) := by rw [B.run_eq_of_le (by rw [heq]; trivial) hnm, heq]
      simp only [interpret, hm, ih hres, Option.map_some]
    · rename_i v' p heq
      have hm : B.run m f v = (v', .panicked p) := by rw [B.run_eq_of_le (by rw [heq]; trivial) hnm, heq]
      simpa only [interpret, hm] using h
    · cases h

/-- The interpreter's result does not depend on the fuel. -/
theorem interpret_unique {n m : ℕ} {fs : List F} {v : S} {res res' : Result S R P}
    (h : B.interpret n fs v = some res) (h' : B.interpret m fs v = some res') : res = res' := by
  have h₁ := B.interpret_mono (le_max_left n m) h
  have h₂ := B.interpret_mono (le_max_right n m) h'
  exact Option.some.inj (h₁.symm.trans h₂)

/-- The interpreter on the first bodies: it stops where it stops on all of them,
or it comes through and has the first results. -/
theorem interpret_of_append {n : ℕ} {fs gs : List F} {v : S} {res : Result S R P}
    (h : B.interpret n (fs ++ gs) v = some res) : ∃ res', B.interpret n fs v = some res' ∧
      (res'.panic = none ∧ res'.returned <+: res.returned ∨ res'.panic ≠ none ∧ res' = res) := by
  induction fs generalizing v res with
  | nil => exact ⟨_, rfl, .inl ⟨rfl, List.nil_prefix⟩⟩
  | cons f fs ih =>
    simp only [List.cons_append, interpret] at h ⊢
    split at h
    · rename_i v' r heq
      obtain ⟨res₁, hres₁, rfl⟩ := Option.map_eq_some_iff.mp h
      obtain ⟨res', hres', hcase⟩ := ih hres₁
      refine ⟨{ res' with returned := r :: res'.returned }, by rw [hres']; rfl, ?_⟩
      rcases hcase with ⟨hp, hpre⟩ | ⟨hp, rfl⟩
      · exact .inl ⟨hp, List.cons_prefix_cons.mpr ⟨rfl, hpre⟩⟩
      · exact .inr ⟨hp, rfl⟩
    · cases h
      exact ⟨_, rfl, .inr ⟨nofun, rfl⟩⟩
    · cases h

/-! ### Records of sequential executions -/

/-- The value that `e` leaves when it begins with `v`. -/
def after (e : Execution F R P) (v : S) : S :=
  match B.run e.segs e.body v, e.fate with
  | (v', .pending f'), .dropped => B.drop f' v'
  | (v', _), _ => v'

/-- The fate of `e`, begun with `v`, is how its segments ended. -/
def Real (e : Execution F R P) (v : S) : Prop :=
  match e.fate, (B.run e.segs e.body v).2 with
  | .running, .pending _ => True
  | .dropped, .pending _ => True
  | .completed r, .ready r' => r = r'
  | .panicked p, .panicked p' => p = p'
  | _, _ => False

/-- The segments of a completed execution ended with its result. -/
theorem run_of_completed {e : Execution F R P} {v : S} {r : R} (h : B.Real e v) (hr : e.fate = .completed r) :
    B.run e.segs e.body v = (B.after e v, .ready r) := by
  simp only [Real, hr] at h
  simp only [after, hr]
  cases hrun : B.run e.segs e.body v with
  | mk v' out => cases out <;> simp_all

/-- Those of one that panicked ended with its panic. -/
theorem run_of_panicked {e : Execution F R P} {v : S} {p : P} (h : B.Real e v) (hp : e.fate = .panicked p) :
    B.run e.segs e.body v = (B.after e v, .panicked p) := by
  simp only [Real, hp] at h
  simp only [after, hp]
  cases hrun : B.run e.segs e.body v with
  | mk v' out => cases out <;> simp_all

/-- The value left by executions one after the other. -/
def replay (es : List (Execution F R P)) (v : S) : S := es.foldl (fun v e => B.after e v) v

/-- Every execution of the record is real, at the value that it began with. -/
def Legal : List (Execution F R P) → S → Prop
  | [], _ => True
  | e :: es, v => B.Real e v ∧ Legal es (B.after e v)

@[simp] theorem replay_nil (v : S) : B.replay [] v = v := rfl

@[simp] theorem replay_cons (e : Execution F R P) (es : List (Execution F R P)) (v : S) :
    B.replay (e :: es) v = B.replay es (B.after e v) := rfl

theorem replay_append (es es' : List (Execution F R P)) (v : S) :
    B.replay (es ++ es') v = B.replay es' (B.replay es v) := List.foldl_append

theorem legal_append {es es' : List (Execution F R P)} {v : S} :
    B.Legal (es ++ es') v ↔ B.Legal es v ∧ B.Legal es' (B.replay es v) := by
  induction es generalizing v with
  | nil => simp [Legal]
  | cons e es ih => simp only [List.cons_append, Legal, ih, replay_cons, and_assoc]

/-- There is fuel for every body of a record. -/
theorem exists_fuel (es : List (Execution F R P)) : ∃ n, ∀ e ∈ es, e.segs ≤ n := by
  induction es with
  | nil => exact ⟨0, nofun⟩
  | cons e es ih =>
    obtain ⟨n, hn⟩ := ih
    refine ⟨max e.segs n, fun e' he => ?_⟩
    rcases List.mem_cons.mp he with rfl | he
    · exact le_max_left _ _
    · exact (hn e' he).trans (le_max_right _ _)

/-- The interpreter on bodies of which the first are recorded as completed: it
comes to where the record ends, and goes on from there. -/
theorem interpret_append {n : ℕ} {es : List (Execution F R P)} {fs : List F} {v : S}
    (hl : B.Legal es v) (hn : ∀ e ∈ es, e.segs ≤ n) (hc : ∀ e ∈ es, ∃ r, e.fate = .completed r) :
    B.interpret n (es.map Execution.body ++ fs) v =
      (B.interpret n fs (B.replay es v)).map fun res =>
        { res with returned := es.filterMap Execution.result? ++ res.returned } := by
  induction es generalizing v with
  | nil => simp
  | cons e es ih =>
    obtain ⟨hreal, hl⟩ := hl
    obtain ⟨r, hr⟩ := hc e List.mem_cons_self
    have hrun : B.run n e.body v = (B.after e v, .ready r) := by
      have hend := B.run_of_completed hreal hr
      rw [B.run_eq_of_le (by rw [hend]; trivial) (hn e List.mem_cons_self), hend]
    have htail := ih hl (fun e he => hn e (List.mem_cons_of_mem _ he))
      (fun e he => hc e (List.mem_cons_of_mem _ he))
    have hres : e.result? = some r := by simp only [Execution.result?, hr]
    simp only [List.map_cons, List.cons_append, interpret, hrun, htail, Option.map_map, replay_cons,
      List.filterMap_cons, hres]
    rfl

/-- The interpreter on bodies of which the first are recorded as completed and
the next as having panicked: it stops there, with the value the record ends with. -/
theorem interpret_append_panicked {n : ℕ} {es : List (Execution F R P)} {e : Execution F R P} {fs : List F}
    {v : S} {p : P} (hl : B.Legal (es ++ [e]) v) (hn : ∀ e' ∈ es ++ [e], e'.segs ≤ n)
    (hc : ∀ e ∈ es, ∃ r, e.fate = .completed r) (hp : e.fate = .panicked p) :
    B.interpret n ((es ++ [e]).map Execution.body ++ fs) v =
      some ⟨B.replay (es ++ [e]) v, es.filterMap Execution.result?, some p⟩ := by
  obtain ⟨hl, hreal, -⟩ := B.legal_append.mp hl
  have hrun : B.run n e.body (B.replay es v) = (B.after e (B.replay es v), .panicked p) := by
    have hend := B.run_of_panicked hreal hp
    rw [B.run_eq_of_le (by rw [hend]; trivial) (hn e (by simp)), hend]
  rw [List.map_append, List.append_assoc, B.interpret_append hl (fun e he => hn e (by simp [he])) hc]
  simp [interpret, hrun, replay_append]

end Bodies
