import AsyncSequential.Lib.Resume
import Mathlib.Logic.Function.Basic
import Mathlib.Data.List.Nodup

/-!
# One body after the other

What it means that named bodies have been run on a value one after the other. A
`Log` is what an observer has written down: which bodies started, in order, and
for each how many segments were run and what became of it. `Sequential B v₀ l
cur busy` says that the log is that of a sequential execution from `v₀`: every
body but the last has completed, the segments of each began where the body
before it ended, `cur` is the value they have left, and `busy` is the body that
is still in progress, with what it has left to do.

A sequential executor starts a body, runs a segment of the body in progress, or
drops it where it is suspended. Each of these keeps `Sequential`: `start`,
`pending`, `ready`, `panicked` and `drop`. What such an execution comes to is what
the interpreter comes to: `interpret_completed` and `interpret_panicked`.
-/

/-- What has been observed of named bodies. -/
structure Log (ι F R P : Type*) where
  /-- The bodies that have started, in order. -/
  started : List ι
  /-- Each name's body. -/
  body : ι → Option F
  /-- How many segments of it have been run. -/
  segs : ι → ℕ
  /-- What has become of it. -/
  fate : ι → Fate R P

namespace Log

variable {ι F R P : Type*}

/-- What the log says of `t`. -/
def execution (l : Log ι F R P) (t : ι) : Option (Execution F R P) :=
  (l.body t).map fun f => ⟨f, l.segs t, l.fate t⟩

/-- What the log says of some names in order. -/
def trace (l : Log ι F R P) (ts : List ι) : List (Execution F R P) := ts.filterMap l.execution

theorem trace_append (l : Log ι F R P) (ts us : List ι) : l.trace (ts ++ us) = l.trace ts ++ l.trace us :=
  List.filterMap_append

theorem trace_congr {l l' : Log ι F R P} {ts : List ι} (h : ∀ t ∈ ts, l'.execution t = l.execution t) :
    l'.trace ts = l.trace ts := List.filterMap_congr h

/-- The bodies of a trace. -/
theorem map_body_trace (l : Log ι F R P) (ts : List ι) :
    (l.trace ts).map Execution.body = ts.filterMap l.body := by
  simp only [trace, List.map_filterMap]
  refine List.filterMap_congr fun t _ => ?_
  cases hb : l.body t <;> simp [execution, hb]

/-- What the bodies of these names returned. -/
def results (l : Log ι F R P) (ts : List ι) : List R := (l.trace ts).filterMap Execution.result?

theorem results_append (l : Log ι F R P) (ts us : List ι) : l.results (ts ++ us) = l.results ts ++ l.results us := by
  simp only [results, trace_append, List.filterMap_append]

theorem results_singleton {l : Log ι F R P} {t : ι} {r : R} (hb : l.body t ≠ none) (hr : l.fate t = .completed r) :
    l.results [t] = [r] := by
  obtain ⟨f, hf⟩ := Option.ne_none_iff_exists'.mp hb
  simp [results, trace, execution, hf, hr, Execution.result?]

/-- Every name of whose body a result is recorded has its result. -/
theorem length_results {l : Log ι F R P} {ts : List ι} (hb : ∀ t ∈ ts, l.body t ≠ none)
    (hc : ∀ t ∈ ts, ∃ r, l.fate t = .completed r) : (l.results ts).length = ts.length := by
  induction ts with
  | nil => rfl
  | cons t ts ih =>
    obtain ⟨r, hr⟩ := hc t List.mem_cons_self
    have htail := ih (fun u hu => hb u (List.mem_cons_of_mem _ hu)) fun u hu => hc u (List.mem_cons_of_mem _ hu)
    have hhead := results_singleton (hb t List.mem_cons_self) hr
    rw [← List.singleton_append, results_append, hhead]
    simp [htail]

variable [DecidableEq ι]

/-- The body `t` starts. -/
def start (l : Log ι F R P) (t : ι) : Log ι F R P :=
  { l with started := l.started ++ [t], fate := Function.update l.fate t .running }

/-- A segment of `t` has been run, with this fate. -/
def segment (l : Log ι F R P) (t : ι) (x : Fate R P) : Log ι F R P :=
  { l with segs := Function.update l.segs t (l.segs t + 1), fate := Function.update l.fate t x }

/-- The body `t` is dropped. -/
def drop (l : Log ι F R P) (t : ι) : Log ι F R P := { l with fate := Function.update l.fate t .dropped }

end Log

namespace Bodies

variable {S F R P ι : Type*} {B : Bodies S F R P} {v₀ cur v v' : S} {l l' : Log ι F R P} {t : ι} {f f' : F}
  {busy busy' : Option (ι × F)}

/-- The log is that of a sequential execution from `v₀`, which has left `cur` and
of which `busy` is in progress. -/
structure Sequential (B : Bodies S F R P) (v₀ : S) (l : Log ι F R P) (cur : S) (busy : Option (ι × F)) :
    Prop where
  /-- Each body starts once. -/
  nodup : l.started.Nodup
  /-- Names that have started have bodies. -/
  body : ∀ t ∈ l.started, l.body t ≠ none
  /-- The others have not begun. -/
  unstarted : ∀ t, l.fate t = .unstarted ↔ t ∉ l.started
  /-- No segment of theirs has been run. -/
  segs : ∀ t, t ∉ l.started → l.segs t = 0
  /-- Only the body in progress is running. -/
  running : ∀ t, l.fate t = .running ↔ ∃ f, busy = some (t, f)
  /-- Each body's segments ended as the log says, from where the one before ended. -/
  legal : B.Legal (l.trace l.started) v₀
  /-- The bodies together have left `cur`. -/
  current : B.replay (l.trace l.started) v₀ = cur
  /-- The body in progress is the last, and this is what it has left to do. -/
  cont : ∀ t f, busy = some (t, f) → ∃ ts f₀, l.started = ts ++ [t] ∧ l.body t = some f₀ ∧
    B.run (l.segs t) f₀ (B.replay (l.trace ts) v₀) = (cur, .pending f)
  /-- All but the last have completed. -/
  before : ∀ ts t, l.started = ts ++ [t] → ∀ u ∈ ts, ∃ r, l.fate u = .completed r

namespace Sequential

/-- Nothing has started. -/
theorem init (v₀ : S) : B.Sequential v₀ (⟨[], fun _ => none, fun _ => 0, fun _ => .unstarted⟩ : Log ι F R P)
    v₀ none := by
  constructor <;> simp [Log.trace, Legal]

/-- What is recorded of the first names is legal. -/
theorem legal_left (h : B.Sequential v₀ l cur busy) {ts us : List ι} (hs : l.started = ts ++ us) :
    B.Legal (l.trace ts) v₀ := by
  have hl := h.legal
  rw [hs, Log.trace_append] at hl
  exact ((legal_append B).mp hl).1

/-- Names that have not started do not matter: they may get bodies. -/
theorem congr_body (h : B.Sequential v₀ l cur busy) (hs : l'.started = l.started) (hn : l'.segs = l.segs)
    (hx : l'.fate = l.fate) (hb : ∀ t ∈ l.started, l'.body t = l.body t) : B.Sequential v₀ l' cur busy := by
  have htr : ∀ ts, (∀ t ∈ ts, t ∈ l.started) → l'.trace ts = l.trace ts := fun ts hts =>
    Log.trace_congr fun t ht => by simp only [Log.execution, hb t (hts t ht), hn, hx]
  have hall := htr l.started fun _ ht => ht
  constructor
  case nodup => rw [hs]; exact h.nodup
  case body =>
    intro t ht
    rw [hs] at ht
    rw [hb t ht]
    exact h.body t ht
  case unstarted => rw [hs, hx]; exact h.unstarted
  case segs => rw [hs, hn]; exact h.segs
  case running => rw [hx]; exact h.running
  case legal => rw [hs, hall]; exact h.legal
  case current => rw [hs, hall]; exact h.current
  case cont =>
    intro t f hf
    obtain ⟨ts, f₀, hts, hf₀, hrun⟩ := h.cont t f hf
    have hsub : ∀ u ∈ ts, u ∈ l.started := fun u hu => by simp [hts, hu]
    exact ⟨ts, f₀, by rw [hs, hts], by rw [hb t (by simp [hts]), hf₀], by rw [hn, htr ts hsub, hrun]⟩
  case before => rw [hs, hx]; exact h.before

/-- The executor starts `t`, when all before it have completed. -/
theorem start [DecidableEq ι] (h : B.Sequential v₀ l cur none) (ht : t ∉ l.started) (hf : l.body t = some f)
    (hall : ∀ u ∈ l.started, ∃ r, l.fate u = .completed r) :
    B.Sequential v₀ (l.start t) cur (some (t, f)) := by
  have hoff : ∀ u, u ≠ t → (l.start t).fate u = l.fate u := fun u hu => Function.update_of_ne hu _ _
  have hne : ∀ u ∈ l.started, u ≠ t := fun u hu he => ht (he ▸ hu)
  have htr : (l.start t).trace l.started = l.trace l.started :=
    Log.trace_congr fun u hu => by simp only [Log.execution, hoff u (hne u hu)]; rfl
  have hlast : (l.start t).trace [t] = [⟨f, 0, .running⟩] := by
    simp [Log.trace, Log.execution, Log.start, hf, h.segs t ht]
  have hwhole : (l.start t).trace (l.start t).started = l.trace l.started ++ [⟨f, 0, .running⟩] := by
    rw [← htr, ← hlast, ← Log.trace_append]; rfl
  constructor
  case nodup => exact List.nodup_append.mpr ⟨h.nodup, List.nodup_singleton t, by simpa using hne⟩
  case body =>
    intro u hu
    rcases List.mem_append.mp hu with hu | hu
    · exact h.body u hu
    · rw [List.mem_singleton.mp hu]
      exact fun hn => nomatch hf.symm.trans hn
  case unstarted =>
    intro u
    by_cases hu : u = t
    · subst hu; simp [Log.start]
    · rw [hoff u hu, h.unstarted]; simp [Log.start, hu]
  case segs => exact fun u hu => h.segs u fun hu' => hu (List.mem_append_left _ hu')
  case running =>
    intro u
    by_cases hu : u = t
    · subst hu; simp [Log.start]
    · rw [hoff u hu, h.running]; simp [Ne.symm hu]
  case legal =>
    rw [hwhole, legal_append]
    exact ⟨h.legal, trivial, trivial⟩
  case current => rw [hwhole, replay_append, h.current]; rfl
  case cont =>
    rintro u g hu
    cases hu
    exact ⟨l.started, f, rfl, hf, by rw [htr, h.current, show (l.start t).segs t = 0 from h.segs t ht]; rfl⟩
  case before =>
    intro ts u hts w hw
    obtain ⟨rfl, -⟩ := List.append_inj' hts rfl
    rw [hoff w (hne w hw)]
    exact hall w hw

/-- The body in progress gets on, and nothing else happens. -/
theorem advance (h : B.Sequential v₀ l v (some (t, f))) (hs : l'.started = l.started) (hb : l'.body = l.body)
    (hoff : ∀ u, u ≠ t → l'.segs u = l.segs u ∧ l'.fate u = l.fate u)
    (hbusy : l'.fate t = .running ∧ (∃ f', busy' = some (t, f')) ∨
      l'.fate t ≠ .running ∧ l'.fate t ≠ .unstarted ∧ busy' = none)
    (hadv : ∀ f₀ w, B.run (l.segs t) f₀ w = (v, .pending f) → B.Real ⟨f₀, l'.segs t, l'.fate t⟩ w ∧
      B.after ⟨f₀, l'.segs t, l'.fate t⟩ w = v' ∧
      ∀ f', busy' = some (t, f') → B.run (l'.segs t) f₀ w = (v', .pending f')) :
    B.Sequential v₀ l' v' busy' := by
  obtain ⟨ts, f₀, hts, hf₀, hrun⟩ := h.cont t f rfl
  have hnot : t ∉ ts := by
    have hn := h.nodup
    rw [hts] at hn
    exact fun ht => (List.nodup_append.mp hn).2.2 t ht t (List.mem_singleton_self t) rfl
  have htr : l'.trace ts = l.trace ts := Log.trace_congr fun u hu => by
    have hut : u ≠ t := fun he => hnot (he ▸ hu)
    simp only [Log.execution, hb, hoff u hut]
  have hwhole : l'.trace l'.started = l.trace ts ++ [⟨f₀, l'.segs t, l'.fate t⟩] := by
    rw [hs, hts, Log.trace_append, htr]
    simp [Log.trace, Log.execution, hb, hf₀]
  obtain ⟨hreal, hafter, hcont⟩ := hadv f₀ _ hrun
  have hmem : t ∈ l.started := by simp [hts]
  constructor
  case nodup => rw [hs]; exact h.nodup
  case body => rw [hs, hb]; exact h.body
  case unstarted =>
    intro u
    by_cases hu : u = t
    · subst hu
      rw [hs]
      rcases hbusy with ⟨hx, -⟩ | ⟨-, hx, -⟩ <;> simp [hx, hmem]
    · rw [(hoff u hu).2, hs, h.unstarted]
  case segs =>
    intro u hu
    rw [hs] at hu
    rw [(hoff u fun he => hu (he ▸ hmem)).1]
    exact h.segs u hu
  case running =>
    intro u
    by_cases hu : u = t
    · subst hu
      rcases hbusy with ⟨hx, hf'⟩ | ⟨hx, -, rfl⟩ <;> simp_all
    · have hu' : ∀ f', busy' ≠ some (u, f') := by
        rcases hbusy with ⟨-, f', rfl⟩ | ⟨-, -, rfl⟩ <;> simp [Ne.symm hu]
      rw [(hoff u hu).2, h.running]
      simp [Ne.symm hu, hu']
  case legal =>
    rw [hwhole, legal_append]
    exact ⟨h.legal_left hts, hreal, trivial⟩
  case current => rw [hwhole, replay_append, replay_cons, hafter, replay_nil]
  case cont =>
    intro u f' hf'
    rcases hbusy with ⟨-, f'', rfl⟩ | ⟨-, -, rfl⟩
    · cases hf'
      exact ⟨ts, f₀, by rw [hs, hts], by rw [hb, hf₀], by rw [htr]; exact hcont _ rfl⟩
    · cases hf'
  case before =>
    intro ts' u hts' w hw
    rw [hs, hts] at hts'
    obtain ⟨rfl, -⟩ := List.append_inj' hts' rfl
    rw [(hoff w fun he => hnot (he ▸ hw)).2]
    exact h.before ts t hts w hw

/-- What is recorded of the last name comes last. -/
theorem trace_last (h : B.Sequential v₀ l cur busy) {ts : List ι} (hs : l.started = ts ++ [t]) :
    ∃ f, l.body t = some f ∧ l.trace l.started = l.trace ts ++ [⟨f, l.segs t, l.fate t⟩] := by
  obtain ⟨f, hf⟩ := Option.ne_none_iff_exists'.mp (h.body t (by simp [hs]))
  refine ⟨f, hf, ?_⟩
  rw [hs, Log.trace_append]
  simp [Log.trace, Log.execution, hf]

/-- The last execution is real, begun where those before it ended, and has left the value. -/
theorem real_last (h : B.Sequential v₀ l cur busy) {ts : List ι} (hs : l.started = ts ++ [t]) :
    ∃ f, l.body t = some f ∧ B.Real ⟨f, l.segs t, l.fate t⟩ (B.replay (l.trace ts) v₀) ∧
      B.after ⟨f, l.segs t, l.fate t⟩ (B.replay (l.trace ts) v₀) = cur := by
  obtain ⟨f, hf, htr⟩ := h.trace_last hs
  have hl := h.legal
  have hcur := h.current
  rw [htr] at hl hcur
  rw [replay_append] at hcur
  exact ⟨f, hf, ((legal_append B).mp hl).2.1, hcur⟩

/-- A recorded execution of a completed body says so. -/
theorem completed_of_mem_trace {ts : List ι} (hc : ∀ t ∈ ts, ∃ r, l.fate t = .completed r) :
    ∀ e ∈ l.trace ts, ∃ r, e.fate = .completed r := by
  intro e he
  obtain ⟨t, ht, hte⟩ := List.mem_filterMap.mp he
  obtain ⟨f, -, rfl⟩ := Option.map_eq_some_iff.mp hte
  exact hc t ht

/-- **The interpreter agrees with the executor**: on bodies that have completed it
comes to the value they left, with what they returned. -/
theorem interpret_completed (h : B.Sequential v₀ l cur busy) {ts us : List ι} (hs : l.started = ts ++ us)
    (hc : ∀ t ∈ ts, ∃ r, l.fate t = .completed r) :
    ∃ n, B.interpret n (ts.filterMap l.body) v₀ = some ⟨B.replay (l.trace ts) v₀, l.results ts, none⟩ := by
  obtain ⟨n, hn⟩ := exists_fuel (l.trace ts)
  refine ⟨n, ?_⟩
  have heq : B.interpret n ((l.trace ts).map Execution.body ++ []) v₀ = _ :=
    B.interpret_append (h.legal_left hs) hn (completed_of_mem_trace hc)
  simpa [interpret, Log.map_body_trace, Log.results] using heq

/-- On bodies of which one has panicked it stops there, whatever would come after. -/
theorem interpret_panicked (h : B.Sequential v₀ l cur busy) {ts : List ι} {p : P} (hs : l.started = ts ++ [t])
    (hp : l.fate t = .panicked p) (fs : List F) :
    ∃ n, B.interpret n (l.started.filterMap l.body ++ fs) v₀ = some ⟨cur, l.results ts, some p⟩ := by
  obtain ⟨f, -, htr⟩ := h.trace_last hs
  obtain ⟨n, hn⟩ := exists_fuel (l.trace l.started)
  have hl := h.legal
  rw [htr] at hl hn
  refine ⟨n, ?_⟩
  rw [← Log.map_body_trace, ← h.current, htr]
  exact B.interpret_append_panicked hl hn (completed_of_mem_trace (h.before ts t hs)) hp

variable [DecidableEq ι]

/-- The body in progress runs a segment and is suspended. -/
theorem pending (h : B.Sequential v₀ l v (some (t, f))) (hp : B.poll f v = (v', .pending f')) :
    B.Sequential v₀ (l.segment t .running) v' (some (t, f')) := by
  refine h.advance rfl rfl (fun u hu => ⟨Function.update_of_ne hu _ _, Function.update_of_ne hu _ _⟩)
    (.inl ⟨Function.update_self .., f', rfl⟩) fun f₀ w hrun => ?_
  have hnext := (B.run_succ_of_pending hrun).trans hp
  simp [Log.segment, Real, after, hnext]

/-- The body in progress returns. -/
theorem ready {r : R} (h : B.Sequential v₀ l v (some (t, f))) (hp : B.poll f v = (v', .ready r)) :
    B.Sequential v₀ (l.segment t (.completed r)) v' none := by
  refine h.advance rfl rfl (fun u hu => ⟨Function.update_of_ne hu _ _, Function.update_of_ne hu _ _⟩)
    (.inr ⟨by simp [Log.segment], by simp [Log.segment], rfl⟩) fun f₀ w hrun => ?_
  have hnext := (B.run_succ_of_pending hrun).trans hp
  simp [Log.segment, Real, after, hnext]

/-- The body in progress panics. -/
theorem panicked {p : P} (h : B.Sequential v₀ l v (some (t, f))) (hp : B.poll f v = (v', .panicked p)) :
    B.Sequential v₀ (l.segment t (.panicked p)) v' none := by
  refine h.advance rfl rfl (fun u hu => ⟨Function.update_of_ne hu _ _, Function.update_of_ne hu _ _⟩)
    (.inr ⟨by simp [Log.segment], by simp [Log.segment], rfl⟩) fun f₀ w hrun => ?_
  have hnext := (B.run_succ_of_pending hrun).trans hp
  simp [Log.segment, Real, after, hnext]

/-- The body in progress is dropped. -/
theorem drop (h : B.Sequential v₀ l v (some (t, f))) : B.Sequential v₀ (l.drop t) (B.drop f v) none := by
  refine h.advance rfl rfl (fun u hu => ⟨rfl, Function.update_of_ne hu _ _⟩)
    (.inr ⟨by simp [Log.drop], by simp [Log.drop], rfl⟩) fun f₀ w hrun => ?_
  simp [Log.drop, Real, after, hrun]

end Sequential

end Bodies
