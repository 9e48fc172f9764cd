import AsyncSequential.Lib.Runs
import Mathlib.Order.WellFounded

/-!
# Runs that come to rest

What a machine must do, and not only what it may. A condition `C` on the state
and the action says which steps count as progress. A state is at rest when no
such step is possible, and `Inevitably next C P s` says that every run of such
steps from `s`, continued as long as one is possible, comes to a state with `P`:
whichever is chosen each time, and in finitely many steps.

* `inevitably_of_rank` — the rank rule: when every such step lowers a rank in a
  well-founded order, and `P` holds where no such step is possible, `P` is inevitable.
* `Inevitably.mono`, `Inevitably.invariant` — weakening `P`, and adding what the
  steps keep.
* `Inevitably.exists_run`, `Inevitably.not_forever` — some run of such steps gets
  there, and no endless one avoids it.
* `countP_add_le` — a bound on the steps of one party.
* `Eventually`, `eventually_of_rank` — when other steps come in between: `P` comes
  about if steps that count keep coming, and it does so when no step raises the rank
  and every step that counts lowers it.
* `Eventually.exists_of_run` — what that says of endless runs.
-/

namespace Runs

variable {σ α : Type*} {next : σ → α → Option σ} {C : σ → α → Prop} {P Q : σ → Prop} {s s' : σ}

/-- No step that meets the condition is possible. -/
def AtRest (next : σ → α → Option σ) (C : σ → α → Prop) (s : σ) : Prop := ∀ a, C s a → next s a = none

/-- Every run of steps that meet `C`, continued as long as one is possible, comes to `P`. -/
inductive Inevitably (next : σ → α → Option σ) (C : σ → α → Prop) (P : σ → Prop) : σ → Prop
  /-- It is there. -/
  | now {s : σ} (h : P s) : Inevitably next C P s
  /-- A step is possible, and every step leads on. -/
  | later {s : σ} (hs : ¬ AtRest next C s) (h : ∀ a s', C s a → next s a = some s' → Inevitably next C P s') :
      Inevitably next C P s

/-- What is inevitable may be weakened. -/
theorem Inevitably.mono (h : Inevitably next C P s) (hPQ : ∀ u, P u → Q u) : Inevitably next C Q s := by
  induction h with
  | now h => exact .now (hPQ _ h)
  | later hs _ ih => exact .later hs ih

/-- What holds, and is kept by the steps that count, still holds when the inevitable has happened. -/
theorem Inevitably.invariant {I : σ → Prop} (h : Inevitably next C P s) (h₀ : I s)
    (hI : ∀ u v a, I u → C u a → next u a = some v → I v) : Inevitably next C (fun u => I u ∧ P u) s := by
  induction h with
  | now h => exact .now ⟨h₀, h⟩
  | later hs _ ih => exact .later hs fun a s' hc hn => ih a s' hc hn (hI _ _ _ h₀ hc hn)

/-- Some run of steps that count gets there. -/
theorem Inevitably.exists_run (h : Inevitably next C P s) : ∃ u, Steps next C s u ∧ P u := by
  induction h with
  | now h => exact ⟨_, .refl, h⟩
  | later hs _ ih =>
    simp only [AtRest, not_forall] at hs
    obtain ⟨a, hc, hn⟩ := hs
    obtain ⟨v, hv⟩ := Option.ne_none_iff_exists'.mp hn
    obtain ⟨u, hu, hP⟩ := ih a v hc hv
    exact ⟨u, (Steps.single hc hv).trans hu, hP⟩

/-- No endless run of steps that count avoids it. -/
theorem Inevitably.not_forever (h : Inevitably next C P s) (f : ℕ → σ) (h₀ : f 0 = s)
    (hf : ∀ n, ∃ a, C (f n) a ∧ next (f n) a = some (f (n + 1))) : ∃ n, P (f n) := by
  induction h generalizing f with
  | now h => exact ⟨0, h₀ ▸ h⟩
  | later _ _ ih =>
    obtain ⟨a, hc, hn⟩ := hf 0
    obtain ⟨n, hP⟩ := ih a (f 1) (h₀ ▸ hc) (h₀ ▸ hn) (fun n => f (n + 1)) rfl fun n => hf (n + 1)
    exact ⟨n + 1, hP⟩

/-! ### Ranks -/

variable {W : Type*} [Preorder W] [WellFoundedLT W]

/-- **The rank rule**: when every step that counts lowers the rank, the machine
comes to rest. `I` is what the steps keep. -/
theorem inevitably_of_rank {I : σ → Prop} (rank : σ → W)
    (hI : ∀ u v a, I u → C u a → next u a = some v → I v ∧ rank v < rank u)
    (hP : ∀ u, I u → AtRest next C u → P u) (h₀ : I s) : Inevitably next C P s := by
  induction hr : rank s using WellFoundedLT.induction generalizing s with
  | ind r ih =>
    by_cases hs : AtRest next C s
    · exact .now (hP s h₀ hs)
    · refine .later hs fun a v hc hn => ?_
      obtain ⟨hv, hlt⟩ := hI s v a h₀ hc hn
      exact ih (rank v) (hr ▸ hlt) hv rfl

/-- **The bound rule**: when the own steps of a party lower a number, and none of the other steps
that meet `D` raises it, the party takes at most so many steps, whoever acts in between. -/
theorem countP_add_le {I : σ → Prop} {D : α → Prop} (rank : σ → ℕ) (own : α → Bool)
    (hI : ∀ u v a, I u → next u a = some v → I v)
    (hown : ∀ u v a, I u → own a = true → next u a = some v → rank v < rank u)
    (hother : ∀ u v a, I u → D a → own a = false → next u a = some v → rank v ≤ rank u) {as : List α} (h₀ : I s)
    (hs : exec next as s = some s') (hD : ∀ a ∈ as, D a) : as.countP own + rank s' ≤ rank s := by
  induction as generalizing s with
  | nil =>
    cases hs
    simp
  | cons a as ih =>
    obtain ⟨u, hu, hs⟩ := Option.bind_eq_some_iff.mp hs
    have hrest := ih (hI _ _ _ h₀ hu) hs fun b hb => hD b (List.mem_cons_of_mem _ hb)
    rw [List.countP_cons]
    cases ha : own a with
    | true =>
      have hlow := hown _ _ _ h₀ ha hu
      simp only [if_true]
      omega
    | false =>
      have hkeep := hother _ _ _ h₀ (hD a List.mem_cons_self) ha hu
      simp only [Bool.false_eq_true, if_false]
      omega

/-! ### When others act in between -/

/-- `P` comes about if steps that count keep coming, whatever else happens in between:
after each of them, unless `P` has come about on the way, one can wait for the next. -/
inductive Eventually (next : σ → α → Option σ) (C : σ → α → Prop) (P : σ → Prop) : σ → Prop
  /-- It is there. -/
  | now {s : σ} (h : P s) : Eventually next C P s
  /-- Every step that counts leads on, whenever it is taken. -/
  | later {s : σ} (h : ∀ u a v, Steps next (fun w _ => ¬ P w) s u → ¬ P u → C u a → next u a = some v →
      Eventually next C P v) : Eventually next C P s

/-- What is eventual may be weakened. -/
theorem Eventually.mono {I : σ → Prop} (h : Eventually next C P s) (h₀ : I s)
    (hI : ∀ u v a, I u → next u a = some v → I v) (hPQ : ∀ u, I u → P u → Q u) : Eventually next C Q s := by
  induction h with
  | now h => exact .now (hPQ _ h₀ h)
  | @later s _ ih =>
    refine .later fun u a v hu hQ hc hn => ?_
    have hkeep : I u := hu.stable hI h₀
    have hno : Steps next (fun w _ => ¬ P w) s u ∧ ¬ P u := by
      refine ⟨?_, fun hP => hQ (hPQ u hkeep hP)⟩
      clear hQ hc hn hkeep
      induction hu with
      | refl => exact .refl
      | tail hr hw hn ihr => exact ihr.tail (fun hP => hw (hPQ _ (hr.stable hI h₀) hP)) hn
    exact ih u a v hno.1 hno.2 hc hn (hI _ _ _ hkeep hn)

/-- It comes about along every endless run in which steps that count keep coming. -/
theorem Eventually.exists_of_run (h : Eventually next C P s) (f : ℕ → σ) (act : ℕ → α) (h₀ : f 0 = s)
    (hf : ∀ n, next (f n) (act n) = some (f (n + 1))) (hc : ∀ n, ∃ m, n ≤ m ∧ C (f m) (act m)) : ∃ n, P (f n) := by
  induction h generalizing f act with
  | now h => exact ⟨0, h₀ ▸ h⟩
  | @later s _ ih =>
    by_contra hno
    simp only [not_exists] at hno
    obtain ⟨m, -, hm⟩ := hc 0
    have hrun : ∀ n, Steps next (fun w _ => ¬ P w) s (f n) := fun n => by
      induction n with
      | zero => exact h₀ ▸ .refl
      | succ n ihn => exact ihn.tail (hno n) (hf n)
    obtain ⟨n, hn⟩ := ih (f m) (act m) (f (m + 1)) (hrun m) (hno m) hm (hf m) (fun n => f (m + 1 + n))
      (fun n => act (m + 1 + n)) rfl (fun n => hf (m + 1 + n)) fun n => by
        obtain ⟨k, hk, hck⟩ := hc (m + 1 + n)
        exact ⟨k - (m + 1), by omega, by rwa [Nat.add_sub_cancel' (by omega)]⟩
    exact hno _ hn

/-- **The rank rule when others act in between**: until `P` comes about no step
raises the rank, and every step that counts lowers it. -/
theorem eventually_of_rank {I : σ → Prop} (rank : σ → W)
    (hI : ∀ u v a, I u → next u a = some v → I v)
    (hle : ∀ u v a, I u → ¬ P u → next u a = some v → rank v ≤ rank u)
    (hlt : ∀ u v a, I u → ¬ P u → C u a → next u a = some v → rank v < rank u) (h₀ : I s) :
    Eventually next C P s := by
  induction hr : rank s using WellFoundedLT.induction generalizing s with
  | ind r ih =>
    refine .later fun u a v hu hP hc hn => ?_
    have hlow : rank u ≤ rank s := by
      clear hP hc hn
      induction hu with
      | refl => exact le_rfl
      | tail hu hP hn ihu => exact (hle _ _ _ (hu.stable hI h₀) hP hn).trans ihu
    have hkeep : I u := hu.stable hI h₀
    exact ih (rank v) (hr ▸ (hlt _ _ _ hkeep hP hc hn).trans_le hlow) (hI _ _ _ hkeep hn) rfl

end Runs
