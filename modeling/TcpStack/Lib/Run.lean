import Mathlib

/-!
# Runs of a partial step function

A system is a step function `σ → ε → Except φ σ`: an event either moves the state or stops
the system with a failure. A run is a list of events.

* **`run`** — execute a list of events.
* **`Meets`** — every step of a run starts in a state that satisfies a condition on the
  event.
* **`Happens`** — some step of a run is of a given kind.
* **`tally`** — a sum over the steps of a run.
* **`run_induction`** / **`run_induction_of_meets`** / **`run_induction_tally`** — the invariant
  rules.
* **`run_total_of_meets`** — runs that do not fail, with an invariant that knows the events
  so far.
* **`happens_of_run`** / **`run_of_happens`** — what does not hold at the start is brought about
  by a step, and what a step brings about for good holds at the end.
* **`forall_prefix_iff_meets`** / **`forall_prefix_iff_meets_of_failures`** — a condition that says
  exactly when a step keeps a property says exactly when a run keeps it.
* **`meets_of_forall_prefix`** — a condition that is found after every part of a run.
* **`Meets.iff_of_history`** — two conditions that agree as long as the first one holds.
* **`map_run`** — a record that is kept beside the state changes no run.
-/

namespace Transition

universe u

variable {σ ε φ : Type*} (step : σ → ε → Except φ σ)

/-- Execute a list of events. -/
def run : σ → List ε → Except φ σ
  | s, [] => .ok s
  | s, e :: es => step s e >>= fun s' => run s' es

/-- Every step of the run meets the condition `cond` in the state it starts from. -/
def Meets (cond : σ → ε → Prop) : σ → List ε → Prop
  | _, [] => True
  | s, e :: es => cond s e ∧ ∀ s', step s e = .ok s' → Meets cond s' es

/-- Some step of the run satisfies `ev` in the state it starts from. -/
def Happens (ev : σ → ε → Prop) : σ → List ε → Prop
  | _, [] => False
  | s, e :: es => ev s e ∨ ∃ s', step s e = .ok s' ∧ Happens ev s' es

/-- The sum of `f` over the steps of the run. -/
def tally (f : σ → ε → ℕ) : σ → List ε → ℕ
  | _, [] => 0
  | s, e :: es =>
    f s e + match step s e with
      | .ok s' => tally f s' es
      | .error _ => 0

/-- Whether a run meets a decidable condition is found out by executing it. -/
instance Meets.decidable (cond : σ → ε → Prop) [∀ s e, Decidable (cond s e)] :
    (s : σ) → (es : List ε) → Decidable (Meets step cond s es)
  | _, [] => .isTrue trivial
  | s, e :: es =>
    match hs : step s e with
    | .ok t =>
      have := Meets.decidable cond t es
      decidable_of_iff (cond s e ∧ Meets step cond t es)
        ⟨fun h => ⟨h.1, fun s' hs' => by
          rw [hs] at hs'
          cases hs'
          exact h.2⟩, fun h => ⟨h.1, h.2 t hs⟩⟩
    | .error x =>
      decidable_of_iff (cond s e) ⟨fun h => ⟨h, fun s' hs' => by
        rw [hs] at hs'
        cases hs'⟩, fun h => h.1⟩

@[simp] theorem run_nil (s : σ) : run step s [] = .ok s := rfl

@[simp] theorem ok_bind {α β : Type u} (a : α) (f : α → Except φ β) :
    (Except.ok a >>= f) = f a := rfl

/-- A successful bind is a success of both parts. -/
theorem bind_eq_ok {α β : Type u} {x : Except φ α} {f : α → Except φ β} {b : β} :
    x >>= f = .ok b ↔ ∃ a, x = .ok a ∧ f a = .ok b := by
  cases x with
  | error e => simp [bind, Except.bind]
  | ok a => simp [bind, Except.bind]

theorem map_eq_ok {α β : Type*} {x : Except φ α} {f : α → β} {b : β} :
    x.map f = .ok b ↔ ∃ a, x = .ok a ∧ f a = b := by
  cases x with
  | error e => simp [Except.map]
  | ok a => simp [Except.map]

/-- A bind that fails is a failure of one of its parts. -/
theorem bind_eq_error {α β : Type u} {x : Except φ α} {f : α → Except φ β} {e : φ} :
    x >>= f = .error e ↔ x = .error e ∨ ∃ a, x = .ok a ∧ f a = .error e := by
  cases x with
  | error e' => simp [bind, Except.bind]
  | ok a => simp [bind, Except.bind]

theorem map_eq_error {α β : Type*} {x : Except φ α} {f : α → β} {e : φ} :
    x.map f = .error e ↔ x = .error e := by
  cases x with
  | error e' => simp [Except.map]
  | ok a => simp [Except.map]

theorem run_cons_eq_ok {s s' : σ} {e : ε} {es : List ε} :
    run step s (e :: es) = .ok s' ↔ ∃ t, step s e = .ok t ∧ run step t es = .ok s' :=
  bind_eq_ok

/-- A run over `es₁ ++ es₂` is a run over `es₁` followed by one over `es₂`. -/
theorem run_append (s : σ) (es₁ es₂ : List ε) :
    run step s (es₁ ++ es₂) = run step s es₁ >>= fun t => run step t es₂ := by
  induction es₁ generalizing s with
  | nil => rfl
  | cons e es ih =>
    simp only [List.cons_append, run]
    cases step s e with
    | error f => rfl
    | ok t => exact ih t

/-- **The guarded invariant rule.** What holds initially and is preserved by every step that
meets the condition holds at the end of every run that meets it throughout. -/
theorem run_induction_of_meets {cond : σ → ε → Prop} {P : σ → Prop}
    (hstep : ∀ s e s', P s → cond s e → step s e = .ok s' → P s')
    {s s' : σ} {es : List ε} (hs : P s) (hm : Meets step cond s es)
    (hr : run step s es = .ok s') : P s' := by
  induction es generalizing s with
  | nil =>
    cases hr
    exact hs
  | cons e es ih =>
    obtain ⟨t, ht, hrest⟩ := (run_cons_eq_ok step).mp hr
    exact ih (hstep s e t hs hm.1 ht) (hm.2 t ht) hrest

/-- **The invariant rule.** -/
theorem run_induction {P : σ → Prop} (hstep : ∀ s e s', P s → step s e = .ok s' → P s')
    {s s' : σ} {es : List ε} (hs : P s) (hr : run step s es = .ok s') : P s' := by
  induction es generalizing s with
  | nil =>
    cases hr
    exact hs
  | cons e es ih =>
    obtain ⟨t, ht, hrest⟩ := (run_cons_eq_ok step).mp hr
    exact ih (hstep s e t hs ht) hrest

/-- **The counting rule.** An invariant that knows the sum over the steps so far. -/
theorem run_induction_tally {cond : σ → ε → Prop} {f : σ → ε → ℕ} {P : ℕ → σ → Prop}
    (hstep : ∀ k s e s', P k s → cond s e → step s e = .ok s' → P (k + f s e) s')
    {k : ℕ} {s s' : σ} {es : List ε} (hs : P k s) (hm : Meets step cond s es)
    (hr : run step s es = .ok s') : P (k + tally step f s es) s' := by
  induction es generalizing k s with
  | nil =>
    cases hr
    exact hs
  | cons e es ih =>
    obtain ⟨t, ht, hrest⟩ := (run_cons_eq_ok step).mp hr
    have := ih (hstep k s e t hs hm.1 ht) (hm.2 t ht) hrest
    rw [tally, ht]
    simpa only [Nat.add_assoc] using this

/-- What does not hold at the start of a run but at its end was brought about by one of its
steps. -/
theorem happens_of_run {ev : σ → ε → Prop} {P : σ → Prop}
    (hstep : ∀ s e s', step s e = .ok s' → P s' → P s ∨ ev s e) {s s' : σ} {es : List ε}
    (hr : run step s es = .ok s') (hp : P s') : P s ∨ Happens step ev s es := by
  induction es generalizing s with
  | nil =>
    cases hr
    exact Or.inl hp
  | cons e es ih =>
    obtain ⟨t, ht, hrest⟩ := (run_cons_eq_ok step).mp hr
    rcases ih hrest with hpt | hh
    · rcases hstep s e t ht hpt with hps | hev
      · exact Or.inl hps
      · exact Or.inr (Or.inl hev)
    · exact Or.inr (Or.inr ⟨t, ht, hh⟩)

/-- What a step of a kind brings about where an invariant holds, and no step ends, holds after a
run with such a step. -/
theorem run_of_happens_of_invariant {ev : σ → ε → Prop} {I P : σ → Prop}
    (hinv : ∀ s e s', I s → step s e = .ok s' → I s')
    (hev : ∀ s e s', I s → step s e = .ok s' → ev s e → P s')
    (hstay : ∀ s e s', I s → P s → step s e = .ok s' → P s') {s s' : σ} {es : List ε} (hs : I s)
    (hr : run step s es = .ok s') (hh : Happens step ev s es) : P s' := by
  induction es generalizing s with
  | nil => exact hh.elim
  | cons e es ih =>
    obtain ⟨t, ht, hrest⟩ := (run_cons_eq_ok step).mp hr
    have hIt := hinv s e t hs ht
    rcases hh with hh | ⟨t', ht', hh⟩
    · have hstep : ∀ u e' u', (I u ∧ P u) → step u e' = .ok u' → I u' ∧ P u' :=
        fun u e' u' hu hu' => ⟨hinv u e' u' hu.1 hu', hstay u e' u' hu.1 hu.2 hu'⟩
      exact (run_induction step hstep ⟨hIt, hev s e t hs ht hh⟩ hrest).2
    · rw [ht] at ht'
      cases ht'
      exact ih hIt hrest hh

/-- What a step of a kind brings about, and no step ends, holds after a run with such a step. -/
theorem run_of_happens {ev : σ → ε → Prop} {P : σ → Prop}
    (hev : ∀ s e s', step s e = .ok s' → ev s e → P s')
    (hstay : ∀ s e s', P s → step s e = .ok s' → P s') {s s' : σ} {es : List ε}
    (hr : run step s es = .ok s') (hh : Happens step ev s es) : P s' :=
  run_of_happens_of_invariant step (I := fun _ => True) (fun _ _ _ _ _ => trivial)
    (fun s e s' _ => hev s e s') (fun s e s' _ => hstay s e s') trivial hr hh

/-- A run that meets a condition up to its last step meets it before. -/
theorem Meets.of_append {cond : σ → ε → Prop} {s : σ} {es₁ es₂ : List ε}
    (h : Meets step cond s (es₁ ++ es₂)) : Meets step cond s es₁ := by
  induction es₁ generalizing s with
  | nil => trivial
  | cons e es ih => exact ⟨h.1, fun s' hs' => ih (h.2 s' hs')⟩

/-- The condition holds on the second part of a run. -/
theorem Meets.append_right {cond : σ → ε → Prop} {s t : σ} {es₁ es₂ : List ε}
    (h : Meets step cond s (es₁ ++ es₂)) (hr : run step s es₁ = .ok t) :
    Meets step cond t es₂ := by
  induction es₁ generalizing s with
  | nil =>
    cases hr
    exact h
  | cons e es ih =>
    obtain ⟨m, hm, hrest⟩ := (run_cons_eq_ok step).mp hr
    exact ih (h.2 m hm) hrest

/-- The condition holds on a run if it holds on both parts. -/
theorem Meets.append {cond : σ → ε → Prop} {s t : σ} {es₁ es₂ : List ε}
    (h₁ : Meets step cond s es₁) (hr : run step s es₁ = .ok t) (h₂ : Meets step cond t es₂) :
    Meets step cond s (es₁ ++ es₂) := by
  induction es₁ generalizing s with
  | nil =>
    cases hr
    exact h₂
  | cons e es ih =>
    refine ⟨h₁.1, fun s' hs' => ?_⟩
    obtain ⟨m, hm, hrest⟩ := (run_cons_eq_ok step).mp hr
    cases hs'.symm.trans hm
    exact ih (h₁.2 s' hs') hrest

/-- The sum over a run is the sum over its two parts. -/
theorem tally_append {f : σ → ε → ℕ} {s t : σ} {es₁ : List ε} (es₂ : List ε)
    (hr : run step s es₁ = .ok t) :
    tally step f s (es₁ ++ es₂) = tally step f s es₁ + tally step f t es₂ := by
  induction es₁ generalizing s with
  | nil =>
    cases hr
    simp [tally]
  | cons e es ih =>
    obtain ⟨m, hm, hrest⟩ := (run_cons_eq_ok step).mp hr
    simp only [List.cons_append, tally, hm, ih hrest, Nat.add_assoc]

/-- A condition that holds after every part of a run. -/
theorem meets_of_forall_prefix {cond : σ → ε → Prop} {s : σ} {es : List ε}
    (h : ∀ pre e t, pre ++ [e] <+: es → run step s pre = .ok t → cond t e) :
    Meets step cond s es := by
  induction es generalizing s with
  | nil => trivial
  | cons e es ih =>
    refine ⟨h [] e s (List.prefix_append [e] es) rfl, fun s' hs' => ih fun pre e' t hpre hr => ?_⟩
    exact h (e :: pre) e' t (List.cons_prefix_cons.mpr ⟨rfl, hpre⟩)
      ((run_cons_eq_ok step).mpr ⟨s', hs', hr⟩)

/-- A run that succeeds takes every step on its way. -/
theorem step_of_run_prefix {s t s' : σ} {pre es : List ε} {e : ε} (hr : run step s es = .ok s')
    (hpre : pre ++ [e] <+: es) (ht : run step s pre = .ok t) :
    ∃ t', step t e = .ok t' ∧ run step s (pre ++ [e]) = .ok t' := by
  obtain ⟨rest, rfl⟩ := hpre
  rw [run_append] at hr
  obtain ⟨t', ht', -⟩ := bind_eq_ok.mp hr
  refine ⟨t', ?_, ht'⟩
  rw [run_append, ht, ok_bind] at ht'
  obtain ⟨u, hu, hnil⟩ := (run_cons_eq_ok step).mp ht'
  cases hnil
  exact hu

/-- Two conditions are one. -/
theorem Meets.and {c₁ c₂ : σ → ε → Prop} {s : σ} {es : List ε} (h₁ : Meets step c₁ s es)
    (h₂ : Meets step c₂ s es) : Meets step (fun s e => c₁ s e ∧ c₂ s e) s es := by
  induction es generalizing s with
  | nil => trivial
  | cons e es ih => exact ⟨⟨h₁.1, h₂.1⟩, fun s' hs' => ih (h₁.2 s' hs') (h₂.2 s' hs')⟩

/-- A condition on the events alone. -/
theorem Meets.of_forall {cond : ε → Prop} {s : σ} {es : List ε} (h : ∀ e ∈ es, cond e) :
    Meets step (fun _ e => cond e) s es := by
  induction es generalizing s with
  | nil => trivial
  | cons e es ih =>
    exact ⟨h e (List.mem_cons_self ..), fun _ _ => ih fun e' he' => h e' (List.mem_cons_of_mem _ he')⟩

/-- An invariant may be used to weaken the condition that keeps it. -/
theorem Meets.imp_of_invariant {c₁ c₂ : σ → ε → Prop} {P : σ → Prop}
    (hstep : ∀ s e s', P s → c₁ s e → c₂ s e → step s e = .ok s' → P s')
    (himp : ∀ s e, P s → c₁ s e → c₂ s e) {s : σ} {es : List ε} (hs : P s)
    (h : Meets step c₁ s es) : Meets step c₂ s es := by
  induction es generalizing s with
  | nil => trivial
  | cons e es ih =>
    have hc := himp s e hs h.1
    exact ⟨hc, fun s' hs' => ih (hstep s e s' hs h.1 hc hs') (h.2 s' hs')⟩

/-- Two conditions that agree where a third one holds. -/
theorem Meets.congr {c c₁ c₂ : σ → ε → Prop} (hiff : ∀ s e, c s e → (c₁ s e ↔ c₂ s e)) {s : σ}
    {es : List ε} (h : Meets step c s es) : Meets step c₁ s es ↔ Meets step c₂ s es := by
  induction es generalizing s with
  | nil => exact Iff.rfl
  | cons e es ih =>
    exact and_congr (hiff s e h.1) (forall_congr' fun s' => imp_congr_right fun hs' => ih (h.2 s' hs'))

/-- **The exact rule for a system that may stop.** If the condition says exactly which steps keep a
property and avoid `bad` failures, then the runs that do so throughout are those whose steps meet
the condition. `excluded` failures do not occur in the run. -/
theorem forall_prefix_iff_meets_of_failures {cond : σ → ε → Prop} {P : σ → Prop}
    {bad excluded : φ → Prop}
    (hstep : ∀ s e, P s → (∀ x, step s e = .error x → ¬ excluded x) →
      (cond s e ↔ (∀ s', step s e = .ok s' → P s') ∧ ∀ x, step s e = .error x → ¬ bad x))
    {s : σ} {es : List ε} (hs : P s) (hr : ∀ x, run step s es = .error x → ¬ excluded x) :
    (∀ pre, pre <+: es → (∀ t, run step s pre = .ok t → P t) ∧
      ∀ x, run step s pre = .error x → ¬ bad x) ↔ Meets step cond s es := by
  induction es generalizing s with
  | nil =>
    refine ⟨fun _ => trivial, fun _ pre hpre => ?_⟩
    rw [List.prefix_nil.mp hpre]
    exact ⟨fun t ht => by cases ht; exact hs, fun x hx => by cases hx⟩
  | cons e es ih =>
    cases he : step s e with
    | error x =>
      -- the run ends here
      have hrun : ∀ es', run step s (e :: es') = .error x := fun es' => by rw [run, he]; rfl
      have hcond := hstep s e hs fun y hy => hr y (by rw [hrun, ← hy, he])
      constructor
      · intro h
        have hbad := (h [e] (List.prefix_append [e] es)).2
        refine ⟨hcond.mpr ⟨fun s' hs' => ?_, fun y hy => hbad y ?_⟩, fun s' hs' => ?_⟩
        · rw [he] at hs'
          cases hs'
        · rw [hrun, ← hy, he]
        · rw [he] at hs'
          cases hs'
      · intro hm pre hpre
        cases pre with
        | nil => exact ⟨fun t ht => by cases ht; exact hs, fun y hy => by cases hy⟩
        | cons e' pre =>
          obtain ⟨rfl, -⟩ := List.cons_prefix_cons.mp hpre
          refine ⟨fun t ht => ?_, fun y hy => (hcond.mp hm.1).2 y ?_⟩
          · rw [hrun] at ht
            cases ht
          · rw [← hy, hrun, he]
    | ok s' =>
      have hrun : ∀ es', run step s (e :: es') = run step s' es' := fun es' => by rw [run, he]; rfl
      have hcond : cond s e ↔ P s' := by
        rw [hstep s e hs (fun y hy => by rw [he] at hy; cases hy)]
        refine ⟨fun h => h.1 s' he, fun h => ⟨fun t ht => ?_, fun y hy => ?_⟩⟩
        · rw [he] at ht
          cases ht
          exact h
        · rw [he] at hy
          cases hy
      constructor
      · intro h
        have hs' : P s' := (h [e] (List.prefix_append [e] es)).1 s' (by rw [hrun]; rfl)
        refine ⟨hcond.mpr hs', fun t ht => ?_⟩
        rw [he] at ht
        cases ht
        refine (ih hs' (by rwa [hrun] at hr)).mp fun pre hpre => ?_
        have hnext := h (e :: pre) (List.cons_prefix_cons.mpr ⟨rfl, hpre⟩)
        rwa [hrun] at hnext
      · intro hm pre hpre
        have hs' : P s' := hcond.mp hm.1
        cases pre with
        | nil => exact ⟨fun t ht => by cases ht; exact hs, fun y hy => by cases hy⟩
        | cons e' pre =>
          obtain ⟨rfl, hpre'⟩ := List.cons_prefix_cons.mp hpre
          rw [hrun]
          exact (ih hs' (by rwa [hrun] at hr)).mpr (hm.2 s' he) pre hpre'

/-- **The exact rule.** If the condition says exactly which steps succeed and keep a property, then
the runs that keep it throughout are those whose steps meet the condition. -/
theorem forall_prefix_iff_meets {cond : σ → ε → Prop} {P : σ → Prop}
    (hstep : ∀ s e, P s → (cond s e ↔ ∃ s', step s e = .ok s' ∧ P s')) {s : σ} {es : List ε}
    (hs : P s) :
    (∀ pre, pre <+: es → ∃ t, run step s pre = .ok t ∧ P t) ↔ Meets step cond s es := by
  -- every failure is bad, none is excluded
  have hok : ∀ x : Except φ σ, ((∀ t, x = .ok t → P t) ∧ ∀ y, x = .error y → ¬ True) ↔
      ∃ t, x = .ok t ∧ P t := by
    intro x
    cases x with
    | error y => simp
    | ok t => simp
  have hstep' : ∀ s e, P s → (∀ x, step s e = .error x → ¬ False) →
      (cond s e ↔ (∀ s', step s e = .ok s' → P s') ∧ ∀ x, step s e = .error x → ¬ True) :=
    fun s e hs _ => (hstep s e hs).trans (hok _).symm
  rw [← forall_prefix_iff_meets_of_failures step hstep' hs fun _ _ => not_false]
  exact forall_congr' fun pre => imp_congr_right fun _ => (hok _).symm

/-- The condition of the last step. -/
theorem Meets.last {cond : σ → ε → Prop} {s t : σ} {es : List ε} {e : ε}
    (h : Meets step cond s (es ++ [e])) (hr : run step s es = .ok t) : cond t e := by
  induction es generalizing s with
  | nil =>
    cases hr
    exact h.1
  | cons e' es ih =>
    obtain ⟨m, hm, hrest⟩ := (run_cons_eq_ok step).mp hr
    exact ih (h.2 m hm) hrest

/-- **The total rule.** If every step that meets the condition succeeds and extends what is
known of the events so far, then a run that meets it throughout succeeds. -/
theorem run_total_of_meets {cond : σ → ε → Prop} {P : List ε → σ → Prop} {s : σ} (hs : P [] s)
    {es : List ε} (hstep : ∀ pre e t, pre ++ [e] <+: es → P pre t → cond t e →
      ∃ t', step t e = .ok t' ∧ P (pre ++ [e]) t') (hm : Meets step cond s es) :
    ∃ s', run step s es = .ok s' ∧ P es s' := by
  induction es using List.reverseRecOn with
  | nil => exact ⟨s, rfl, hs⟩
  | append_singleton es e ih =>
    obtain ⟨t, hrun, hP⟩ := ih
      (fun pre e' t hpre => hstep pre e' t (hpre.trans (List.prefix_append es [e]))) hm.of_append
    obtain ⟨t', ht', hP'⟩ := hstep es e t (List.prefix_refl _) hP (hm.last step hrun)
    refine ⟨t', ?_, hP'⟩
    rw [run_append, hrun, ok_bind, run, ht', ok_bind, run_nil]

/-- **The rule for a system that cannot fail.** -/
theorem run_total {P : σ → Prop} (hstep : ∀ s e, P s → ∃ s', step s e = .ok s' ∧ P s') {s : σ}
    (hs : P s) (es : List ε) : ∃ s', run step s es = .ok s' ∧ P s' := by
  induction es generalizing s with
  | nil => exact ⟨s, rfl, hs⟩
  | cons e es ih =>
    obtain ⟨t, ht, hP⟩ := hstep s e hs
    obtain ⟨s', hrun, hs'⟩ := ih hP
    exact ⟨s', (run_cons_eq_ok step).mpr ⟨t, ht, hrun⟩, hs'⟩

/-- A run over renamed events is a run of the step function that renames them. -/
theorem run_map {δ : Type*} (f : δ → ε) (s : σ) (es : List δ) :
    run step s (es.map f) = run (fun s e => step s (f e)) s es := by
  induction es generalizing s with
  | nil => rfl
  | cons e es ih =>
    simp only [List.map_cons, run]
    exact congrArg (step s (f e) >>= ·) (funext ih)

theorem meets_map {δ : Type*} (f : δ → ε) {cond : σ → ε → Prop} {s : σ} {es : List δ} :
    Meets step cond s (es.map f) ↔ Meets (fun s e => step s (f e)) (fun s e => cond s (f e)) s es := by
  induction es generalizing s with
  | nil => exact Iff.rfl
  | cons e es ih =>
    exact and_congr_right fun _ => forall_congr' fun s' => imp_congr_right fun _ => ih

/-- A system that keeps a record beside the state of another runs as that one does, once the record
is forgotten. -/
theorem map_run {τ : Type*} {step' : τ → ε → Except φ τ} {f : τ → σ}
    (hstep : ∀ t e, (step' t e).map f = step (f t) e) (t : τ) (es : List ε) :
    (run step' t es).map f = run step (f t) es := by
  induction es generalizing t with
  | nil => rfl
  | cons e es ih =>
    have he := hstep t e
    rw [run, run, ← he]
    cases step' t e with
    | error x => rfl
    | ok t' => exact ih t'

/-- Two conditions that agree in every state a run passes through, where the first of them keeps
what is known of the events so far. -/
theorem Meets.iff_of_history {c₁ c₂ : σ → ε → Prop} {P : List ε → σ → Prop} {s : σ} {pre : List ε}
    (hs : P pre s) {es : List ε}
    (hiff : ∀ pre' e t, pre' ++ [e] <+: pre ++ es → P pre' t → (c₁ t e ↔ c₂ t e))
    (hstep : ∀ pre' e t t', pre' ++ [e] <+: pre ++ es → P pre' t → c₁ t e → step t e = .ok t' →
      P (pre' ++ [e]) t') : Meets step c₁ s es ↔ Meets step c₂ s es := by
  induction es generalizing s pre with
  | nil => exact Iff.rfl
  | cons e es ih =>
    have hsplit : pre ++ e :: es = pre ++ [e] ++ es := by simp
    have hpre : pre ++ [e] <+: pre ++ e :: es := by
      rw [hsplit]
      exact List.prefix_append ..
    have hnow := hiff pre e s hpre hs
    have hrest : c₁ s e → ∀ s', step s e = .ok s' → (Meets step c₁ s' es ↔ Meets step c₂ s' es) :=
      fun hc s' hs' => ih (hstep pre e s s' hpre hs hc hs') (by rwa [← hsplit]) (by rwa [← hsplit])
    constructor
    · rintro ⟨hc, h⟩
      exact ⟨hnow.mp hc, fun s' hs' => (hrest hc s' hs').mp (h s' hs')⟩
    · rintro ⟨hc, h⟩
      exact ⟨hnow.mpr hc, fun s' hs' => (hrest (hnow.mpr hc) s' hs').mpr (h s' hs')⟩

end Transition
