import Mathlib.Logic.Basic
import Mathlib.Data.List.Basic

/-!
# Runs of a guarded machine

A machine is a partial function `next : σ → α → Option σ`: in state `s` action
`a` is either impossible, `none`, or leads to one next state. Who acts next is
left open, so a run is any sequence of possible actions, and several parties
that take turns in any order are one machine whose actions name the party.

A run may be restricted by a condition `C s a` on the state before each step
and the action taken there: `Steps next C s s'` says that some run goes from
`s` to `s'` all of whose steps meet `C`. With no condition (`Any`) these are all
the runs.

* `Steps.invariant` — what holds at the start and is kept by every step that
  meets the condition holds everywhere.
* `Steps.mono`, `Steps.trans` — weakening the condition, and joining runs.
* `Steps.simulate` — one machine follows another, step by step.
* `exec`, `steps_of_exec` — a run can be computed from its list of actions.
* `exec_range_unique` — a party that acts on its own comes to one end.
-/

namespace Runs

variable {σ α : Type*} {next : σ → α → Option σ} {C D : σ → α → Prop}

/-- Some run from `s` to the last argument has all its steps meet `C`. -/
inductive Steps (next : σ → α → Option σ) (C : σ → α → Prop) (s : σ) : σ → Prop
  /-- The run of no steps. -/
  | refl : Steps next C s s
  /-- One more step at the end. -/
  | tail {u v : σ} {a : α} : Steps next C s u → C u a → next u a = some v → Steps next C s v

/-- No condition. -/
def Any : σ → α → Prop := fun _ _ => True

/-- Runs join. -/
theorem Steps.trans {s t u : σ} (h : Steps next C s t) (h' : Steps next C t u) : Steps next C s u := by
  induction h' with
  | refl => exact h
  | tail _ hc hn ih => exact ih.tail hc hn

/-- One step is a run. -/
theorem Steps.single {s u : σ} {a : α} (hc : C s a) (hn : next s a = some u) : Steps next C s u :=
  .tail .refl hc hn

/-- A run meets every weaker condition. -/
theorem Steps.mono (hCD : ∀ s a, C s a → D s a) {s u : σ} (h : Steps next C s u) : Steps next D s u := by
  induction h with
  | refl => exact .refl
  | tail _ hc hn ih => exact ih.tail (hCD _ _ hc) hn

/-- A run with a condition is a run. -/
theorem Steps.any {s u : σ} (h : Steps next C s u) : Steps next Any s u :=
  h.mono fun _ _ _ => trivial

/-- **The invariant rule**: what holds at the start and is kept by every step of
the run holds at its end. -/
theorem Steps.invariant {P : σ → Prop} {s u : σ} (h : Steps next C s u) (h₀ : P s)
    (hs : ∀ u v a, Steps next C s u → P u → C u a → next u a = some v → P v) : P u := by
  induction h with
  | refl => exact h₀
  | tail hr hc hn ih => exact hs _ _ _ hr ih hc hn

/-- What no step changes back, no run changes back. -/
theorem Steps.stable {P : σ → Prop} (hs : ∀ u v a, P u → next u a = some v → P v)
    {s u : σ} (h : Steps next C s u) (h₀ : P s) : P u :=
  h.invariant h₀ fun _ _ _ _ hP _ hn => hs _ _ _ hP hn

/-- **The simulation rule**: when each step of a run is some steps of another machine,
or none, what the run reaches has a counterpart that the other machine reaches. -/
theorem Steps.simulate {τ β : Type*} {next' : τ → β → Option τ} {Rel : σ → τ → Prop} {s u : σ} {x₀ : τ}
    (h : Steps next C s u) (h₀ : Rel s x₀)
    (hs : ∀ u v a x, Steps next C s u → Rel u x → C u a → next u a = some v →
      ∃ y, Steps next' Any x y ∧ Rel v y) :
    ∃ x, Steps next' Any x₀ x ∧ Rel u x := by
  induction h with
  | refl => exact ⟨x₀, .refl, h₀⟩
  | tail hr hc hn ih =>
    obtain ⟨x, hx, hrel⟩ := ih
    obtain ⟨y, hy, hrel'⟩ := hs _ _ _ x hr hrel hc hn
    exact ⟨y, hx.trans hy, hrel'⟩

/-! ### Computing a run -/

/-- Do the actions in order; `none` as soon as one is impossible. -/
def exec (next : σ → α → Option σ) : List α → σ → Option σ
  | [], s => some s
  | a :: as, s => (next s a).bind (exec next as)

/-- A computed run is a run. -/
theorem steps_of_exec {as : List α} {s u : σ} (h : exec next as s = some u) : Steps next Any s u := by
  induction as generalizing s with
  | nil => cases h; exact .refl
  | cons a as ih =>
    obtain ⟨t, ht, h⟩ := Option.bind_eq_some_iff.mp h
    exact (Steps.single trivial ht).trans (ih h)

/-- Two runs through one sequence of actions, each up to where none of them is possible, end alike. -/
theorem exec_range_unique {as : ℕ → α} {n m : ℕ} {s u v : σ} (hu : exec next ((List.range n).map as) s = some u)
    (hv : exec next ((List.range m).map as) s = some v) (hu' : ∀ i, next u (as i) = none)
    (hv' : ∀ i, next v (as i) = none) : u = v := by
  induction n generalizing m s as with
  | zero =>
    cases hu
    cases m with
    | zero => exact Option.some.inj hv
    | succ m => simp [List.range_succ_eq_map, exec, hu'] at hv
  | succ n ih =>
    rw [List.range_succ_eq_map, List.map_cons, List.map_map] at hu
    cases m with
    | zero =>
      cases hv
      simp [exec, hv'] at hu
    | succ m =>
      rw [List.range_succ_eq_map, List.map_cons, List.map_map] at hv
      obtain ⟨t, ht, hu⟩ := Option.bind_eq_some_iff.mp hu
      obtain ⟨t', ht', hv⟩ := Option.bind_eq_some_iff.mp hv
      cases ht.symm.trans ht'
      exact ih hu hv (fun i => hu' (i + 1)) fun i => hv' (i + 1)

/-- Do the actions in order, each only where the condition is met. -/
def execIf (next : σ → α → Option σ) (C : σ → α → Prop) [∀ s a, Decidable (C s a)] :
    List α → σ → Option σ
  | [], s => some s
  | a :: as, s => if C s a then (next s a).bind (execIf next C as) else none

/-- A run computed under a condition meets it. -/
theorem steps_of_execIf [∀ s a, Decidable (C s a)] {as : List α} {s u : σ}
    (h : execIf next C as s = some u) : Steps next C s u := by
  induction as generalizing s with
  | nil => cases h; exact .refl
  | cons a as ih =>
    simp only [execIf] at h
    split_ifs at h with hc
    obtain ⟨t, ht, h⟩ := Option.bind_eq_some_iff.mp h
    exact (Steps.single hc ht).trans (ih h)

end Runs
