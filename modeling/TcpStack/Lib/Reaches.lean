import TcpStack.Lib.Run

/-!
# Reachability

What a system can be brought to do, as opposed to what it does in every run.

* **`Reaches`** — some run leads from one state to the other.
* **`ReachesBy`** — some run whose steps meet a condition does.
* **`exists_of_measure`** — a state that can always be improved can be brought to its goal.
* **`run_length_le`** — a run comes to an end if every step lowers a measure.
* **`exists_eraseIdx_of_sublist`** — a queue that lost some of its elements lost them one by one.
-/

namespace Transition

universe u

variable {σ ε φ : Type*} (step : σ → ε → Except φ σ)

/-- Some run leads from `s` to `s'`. -/
def Reaches (s s' : σ) : Prop := ∃ es, run step s es = .ok s'

variable {step} {s s' s'' : σ}

@[refl] theorem Reaches.refl (s : σ) : Reaches step s s := ⟨[], rfl⟩

theorem Reaches.trans (h : Reaches step s s') (h' : Reaches step s' s'') : Reaches step s s'' := by
  obtain ⟨es, hes⟩ := h
  obtain ⟨es', hes'⟩ := h'
  refine ⟨es ++ es', ?_⟩
  rw [run_append, hes, ok_bind]
  exact hes'

theorem Reaches.single {e : ε} (h : step s e = .ok s') : Reaches step s s' := by
  refine ⟨[e], ?_⟩
  rw [run, h]
  rfl

/-- What every step keeps holds in every state that is reached. -/
theorem Reaches.invariant {P : σ → Prop} (hstep : ∀ s e s', P s → step s e = .ok s' → P s')
    (h : Reaches step s s') (hs : P s) : P s' := by
  obtain ⟨es, hes⟩ := h
  exact run_induction step hstep hs hes

/-- Some run leads from `s` to `s'`, and its steps meet the condition. -/
def ReachesBy (step : σ → ε → Except φ σ) (cond : σ → ε → Prop) (s s' : σ) : Prop :=
  ∃ es, Meets step cond s es ∧ run step s es = .ok s'

section ReachesBy

variable {cond : σ → ε → Prop}

@[refl] theorem ReachesBy.refl (s : σ) : ReachesBy step cond s s := ⟨[], trivial, rfl⟩

theorem ReachesBy.single {e : ε} (hc : cond s e) (h : step s e = .ok s') :
    ReachesBy step cond s s' := by
  refine ⟨[e], ⟨hc, fun _ _ => trivial⟩, ?_⟩
  rw [run, h]
  rfl

theorem ReachesBy.trans (h : ReachesBy step cond s s') (h' : ReachesBy step cond s' s'') :
    ReachesBy step cond s s'' := by
  obtain ⟨es, hm, hes⟩ := h
  obtain ⟨es', hm', hes'⟩ := h'
  refine ⟨es ++ es', hm.append step hes hm', ?_⟩
  rw [run_append, hes, ok_bind]
  exact hes'

end ReachesBy

/-- **The progress rule.** If something smaller can be reached as long as the goal is not, then the
goal can be reached. Induction on the measure. -/
theorem exists_of_measure {R : σ → σ → Prop} (hrefl : ∀ s, R s s)
    (htrans : ∀ {s s' s''}, R s s' → R s' s'' → R s s'') {P Q : σ → Prop} (m : σ → ℕ)
    (hstep : ∀ s, P s → ¬ Q s → ∃ s', R s s' ∧ P s' ∧ m s' < m s) (hs : P s) :
    ∃ s', R s s' ∧ P s' ∧ Q s' := by
  induction hm : m s using Nat.strong_induction_on generalizing s with
  | _ k ih =>
    subst hm
    by_cases hg : Q s
    · exact ⟨s, hrefl s, hs, hg⟩
    · obtain ⟨t, ht, hP, hlt⟩ := hstep s hs hg
      obtain ⟨s', hs', hP', hg'⟩ := ih (m t) hlt hP rfl
      exact ⟨s', htrans ht hs', hP', hg'⟩

/-- **The termination rule.** What every step lowers bounds the length of a run. -/
theorem run_length_le {P : σ → Prop} {cond : σ → ε → Prop} (m : σ → ℕ)
    (hstep : ∀ s e s', P s → cond s e → step s e = .ok s' → P s' ∧ m s' < m s) {es : List ε}
    (hs : P s) (hm : Meets step cond s es) (hr : run step s es = .ok s') :
    es.length + m s' ≤ m s := by
  induction es generalizing s with
  | nil =>
    cases hr
    simp
  | cons e es ih =>
    obtain ⟨t, ht, hr⟩ := (run_cons_eq_ok step).mp hr
    obtain ⟨hP, hlt⟩ := hstep s e t hs hm.1 ht
    have hle := ih hP (hm.2 t ht) hr
    rw [List.length_cons]
    omega

/-- **The exact rule for a run that succeeds.** If the condition says exactly which steps keep a
property, then the property holds all along a run whose steps meet the condition. -/
theorem forall_prefix_iff_meets_of_run {P : σ → Prop} {cond : σ → ε → Prop}
    (hstep : ∀ s e s', P s → step s e = .ok s' → (P s' ↔ cond s e)) {es : List ε} (hs : P s)
    (hr : run step s es = .ok s') :
    (∀ pre t, pre <+: es → run step s pre = .ok t → P t) ↔ Meets step cond s es := by
  induction es generalizing s with
  | nil =>
    refine iff_of_true (fun pre t hpre ht => ?_) trivial
    rw [List.prefix_nil.mp hpre] at ht
    cases ht
    exact hs
  | cons e es ih =>
    obtain ⟨t, ht, hrest⟩ := (run_cons_eq_ok step).mp hr
    have hrun : ∀ es', run step s (e :: es') = run step t es' := fun es' => by
      rw [run, ht, ok_bind]
    constructor
    · intro h
      have hP : P t := h [e] t (List.prefix_append [e] es) (by rw [hrun]; rfl)
      refine ⟨(hstep s e t hs ht).mp hP, fun t' ht' => ?_⟩
      rw [ht] at ht'
      cases ht'
      refine (ih hP hrest).mp fun pre u hpre hu => ?_
      exact h (e :: pre) u (List.cons_prefix_cons.mpr ⟨rfl, hpre⟩) (by rw [hrun]; exact hu)
    · intro hm pre u hpre hu
      have hP : P t := (hstep s e t hs ht).mpr hm.1
      cases pre with
      | nil =>
        cases hu
        exact hs
      | cons e' pre =>
        obtain ⟨rfl, hpre'⟩ := List.cons_prefix_cons.mp hpre
        rw [hrun] at hu
        exact (ih hP hrest).mpr (hm.2 t ht) pre u hpre' hu

/-- Erasing positions behind the head leaves the head. -/
theorem foldl_eraseIdx_succ {α : Type*} (a : α) (is : List ℕ) (l : List α) :
    (is.map Nat.succ).foldl List.eraseIdx (a :: l) = a :: is.foldl List.eraseIdx l := by
  induction is generalizing l with
  | nil => rfl
  | cons i is ih => exact ih (l.eraseIdx i)

/-- **Losses are losses of single elements.** Induction on the sublist. -/
theorem exists_eraseIdx_of_sublist {α : Type*} {l' l : List α} (h : l'.Sublist l) :
    ∃ is : List ℕ, is.foldl List.eraseIdx l = l' := by
  induction h with
  | slnil => exact ⟨[], rfl⟩
  | cons a _ ih =>
    -- the head is lost last
    obtain ⟨is, his⟩ := ih
    refine ⟨is.map Nat.succ ++ [0], ?_⟩
    rw [List.foldl_append, foldl_eraseIdx_succ, his]
    rfl
  | cons_cons a _ ih =>
    obtain ⟨is, his⟩ := ih
    refine ⟨is.map Nat.succ, ?_⟩
    rw [foldl_eraseIdx_succ, his]

end Transition
