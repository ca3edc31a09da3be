import TcpStack.Lib.Run

/-!
# Threads and locks

A system of threads is what they share beside a list of where each of them is. One thread moves
at a time; others may be woken on the way.

* **`Locked`** — the threads that are where a lock is held are its one owner.
* **`countP_set`** — the number of threads in a region changes with the thread that moves.
* **`Forall₂`** rules — threads that are woken stay where they count.
* **`collect`** — what the steps of a run yield, in their order.
-/

namespace Threads

variable {τ : Type*} {threads threads' : List τ} {i j : ℕ} {t t' u : τ} {holds p : τ → Bool}
  {owner : Option ℕ}

/-! ## Locks -/

/-- The owner of the lock is the one thread that is where it is held. -/
def Locked (holds : τ → Bool) (owner : Option ℕ) (threads : List τ) : Prop :=
  ∀ i, owner = some i ↔ ∃ t, threads[i]? = some t ∧ holds t

theorem Locked.holds_iff (h : Locked holds owner threads) (hi : threads[i]? = some t) :
    holds t ↔ owner = some i := by
  rw [h i, hi]
  simp

/-- **Mutual exclusion.** -/
theorem Locked.exclusive (h : Locked holds owner threads) (hi : threads[i]? = some t)
    (hj : threads[j]? = some u) (ht : holds t) (hu : holds u) : i = j := by
  have hown := (h.holds_iff hi).mp ht
  rw [(h.holds_iff hj).mp hu] at hown
  exact (Option.some.inj hown).symm

/-- A lock that is not free has an owner that is where it is held. -/
theorem Locked.exists_owner (h : Locked holds owner threads) (hown : owner ≠ none) :
    ∃ (i : ℕ) (t : τ), threads[i]? = some t ∧ holds t := by
  obtain ⟨i, hi⟩ := Option.ne_none_iff_exists'.mp hown
  exact ⟨i, (h i).mp hi⟩

/-- A thread that moves is found where it moved to. -/
theorem getElem?_set_self (hi : threads[i]? = some t) : (threads.set i t')[i]? = some t' :=
  List.getElem?_set_self (List.getElem?_eq_some_iff.mp hi).1

/-- What holds of the others and of the one that moved. -/
theorem forall_set {P : ℕ → τ → Prop} (h : ∀ j u, threads[j]? = some u → j ≠ i → P j u)
    (ht : P i t') : ∀ j u, (threads.set i t')[j]? = some u → P j u := by
  intro j u hj
  by_cases hji : j = i
  · subst hji
    have hlt : j < threads.length := by
      have hlt := (List.getElem?_eq_some_iff.mp hj).1
      rwa [List.length_set] at hlt
    rw [List.getElem?_set_self hlt] at hj
    cases hj
    exact ht
  · rw [List.getElem?_set_ne (Ne.symm hji)] at hj
    exact h j u hj hji

/-- Whoever is where the thread that moved was not is still there. -/
theorem mem_set_of_ne (hi : threads[i]? = some t) (hu : u ∈ threads) (hne : u ≠ t) (t' : τ) :
    u ∈ threads.set i t' := by
  obtain ⟨k, hk⟩ := List.mem_iff_getElem?.mp hu
  have hki : i ≠ k := by
    rintro rfl
    rw [hi] at hk
    cases hk
    exact hne rfl
  refine List.mem_of_getElem? (i := k) ?_
  rw [List.getElem?_set_ne hki]
  exact hk

/-- A thread moves and neither takes nor releases the lock. -/
theorem Locked.stay (h : Locked holds owner threads) (hi : threads[i]? = some t)
    (hsame : holds t' = holds t) : Locked holds owner (threads.set i t') := by
  intro j
  by_cases hji : j = i
  · subst hji
    rw [h j, getElem?_set_self hi, hi]
    simp [hsame]
  · rw [List.getElem?_set_ne (Ne.symm hji)]
    exact h j

/-- A thread takes the lock. -/
theorem Locked.acquire (h : Locked holds none threads) (hi : threads[i]? = some t)
    (ht : holds t') : Locked holds (some i) (threads.set i t') := by
  intro j
  by_cases hji : j = i
  · subst hji
    rw [getElem?_set_self hi]
    simp [ht]
  · rw [List.getElem?_set_ne (Ne.symm hji), ← h j]
    simp [Ne.symm hji]

/-- The owner releases the lock. -/
theorem Locked.release (h : Locked holds owner threads) (hi : threads[i]? = some t)
    (ht : holds t) (ht' : holds t' = false) : Locked holds none (threads.set i t') := by
  intro j
  by_cases hji : j = i
  · subst hji
    rw [getElem?_set_self hi]
    simp [ht']
  · rw [List.getElem?_set_ne (Ne.symm hji), ← h j, (h.holds_iff hi).mp ht]
    simp [Ne.symm hji]

/-- Threads are woken and hold what they held. -/
theorem Locked.forall₂ {R : τ → τ → Prop} (h : Locked holds owner threads)
    (hR : ∀ t t', R t t' → holds t' = holds t) (hall : List.Forall₂ R threads threads') :
    Locked holds owner threads' := by
  intro i
  rw [h i]
  by_cases hlt : i < threads.length
  · have hlt' : i < threads'.length := by
      rw [← hall.length_eq]
      exact hlt
    have hsame : holds threads'[i] = holds threads[i] := hR _ _ (hall.get hlt hlt')
    rw [List.getElem?_eq_getElem hlt, List.getElem?_eq_getElem hlt']
    simp [hsame]
  · have hlt' : ¬ i < threads'.length := by
      rw [← hall.length_eq]
      exact hlt
    rw [List.getElem?_eq_none (by omega), List.getElem?_eq_none (by omega)]

/-! ## Counting -/

/-- **One thread moves.** The number of threads in a region. -/
theorem countP_set (p : τ → Bool) (hi : threads[i]? = some t) (t' : τ) :
    (threads.set i t').countP p + (p t).toNat = threads.countP p + (p t').toNat := by
  obtain ⟨hlt, rfl⟩ := List.getElem?_eq_some_iff.mp hi
  have hpos : p threads[i] → 0 < threads.countP p :=
    fun hp => List.countP_pos_iff.mpr ⟨_, List.getElem_mem hlt, hp⟩
  rw [List.countP_set hlt]
  cases hp : p threads[i] with
  | false => cases p t' <;> simp
  | true =>
    have hpos := hpos hp
    cases p t' <;> simp <;> omega

/-- The one thread in a region. -/
theorem eq_of_countP_le_one (h : threads.countP p ≤ 1) (ht : t ∈ threads) (hu : u ∈ threads)
    (hpt : p t) (hpu : p u) : t = u := by
  have ht' : t ∈ threads.filter p := List.mem_filter.mpr ⟨ht, hpt⟩
  have hu' : u ∈ threads.filter p := List.mem_filter.mpr ⟨hu, hpu⟩
  rw [List.countP_eq_length_filter] at h
  match threads.filter p, h, ht', hu' with
  | [v], _, ht', hu' => rw [List.mem_singleton.mp ht', List.mem_singleton.mp hu']

/-- Threads are woken and stay in the region. -/
theorem countP_forall₂ (p : τ → Bool) {R : τ → τ → Prop} (hR : ∀ t t', R t t' → p t' = p t)
    (hall : List.Forall₂ R threads threads') : threads'.countP p = threads.countP p := by
  induction hall with
  | nil => rfl
  | cons hd _ ih => rw [List.countP_cons, List.countP_cons, ih, hR _ _ hd]

/-- Threads that are woken, one by one. -/
theorem forall₂_set {R : τ → τ → Prop} (hrefl : ∀ t, R t t) (hi : threads[i]? = some t)
    (h : R t t') : List.Forall₂ R threads (threads.set i t') := by
  rw [List.forall₂_iff_get]
  refine ⟨List.length_set.symm, fun j hj hj' => ?_⟩
  by_cases hij : i = j
  · subst hij
    obtain ⟨hlt, rfl⟩ := List.getElem?_eq_some_iff.mp hi
    simpa using h
  · simp only [List.get_eq_getElem, List.getElem_set_ne hij]
    exact hrefl _

/-- One thread moves. The sum of what is left for each of them to do. -/
theorem sum_map_set (f : τ → ℕ) (hi : threads[i]? = some t) (t' : τ) :
    ((threads.set i t').map f).sum + f t = (threads.map f).sum + f t' := by
  induction threads generalizing i with
  | nil => cases hi
  | cons u threads ih =>
    cases i with
    | zero =>
      cases hi
      simp only [List.set_cons_zero, List.map_cons, List.sum_cons]
      omega
    | succ i =>
      have hrec := ih hi
      simp only [List.set_cons_succ, List.map_cons, List.sum_cons]
      omega

/-- Threads are woken and are left with no more to do. -/
theorem sum_map_forall₂ (f : τ → ℕ) {R : τ → τ → Prop} (hR : ∀ t t', R t t' → f t' ≤ f t)
    (hall : List.Forall₂ R threads threads') : (threads'.map f).sum ≤ (threads.map f).sum := by
  induction hall with
  | nil => exact Nat.le_refl _
  | cons hd _ ih =>
    simp only [List.map_cons, List.sum_cons]
    exact Nat.add_le_add (hR _ _ hd) ih

/-! ## Threads before and after -/

theorem exists_of_forall₂ {R : τ → τ → Prop} (hall : List.Forall₂ R threads threads')
    (hi : threads[i]? = some t) : ∃ t', threads'[i]? = some t' ∧ R t t' := by
  obtain ⟨hlt, rfl⟩ := List.getElem?_eq_some_iff.mp hi
  have hlt' : i < threads'.length := by
    rw [← hall.length_eq]
    exact hlt
  exact ⟨threads'[i], List.getElem?_eq_getElem hlt', hall.get hlt hlt'⟩

theorem exists_of_forall₂_right {R : τ → τ → Prop} (hall : List.Forall₂ R threads threads')
    (hi : threads'[i]? = some t') : ∃ t, threads[i]? = some t ∧ R t t' := by
  obtain ⟨hlt, rfl⟩ := List.getElem?_eq_some_iff.mp hi
  have hlt' : i < threads.length := by
    rw [hall.length_eq]
    exact hlt
  exact ⟨threads[i], List.getElem?_eq_getElem hlt', hall.get hlt' hlt⟩

theorem exists_mem_of_forall₂ {R : τ → τ → Prop} (hall : List.Forall₂ R threads threads')
    (ht : t ∈ threads) : ∃ t' ∈ threads', R t t' := by
  obtain ⟨i, hi⟩ := List.mem_iff_getElem?.mp ht
  obtain ⟨t', ht', hR⟩ := exists_of_forall₂ hall hi
  exact ⟨t', List.mem_of_getElem? ht', hR⟩

theorem exists_mem_of_forall₂_right {R : τ → τ → Prop} (hall : List.Forall₂ R threads threads')
    (ht' : t' ∈ threads') : ∃ t ∈ threads, R t t' := by
  obtain ⟨i, hi⟩ := List.mem_iff_getElem?.mp ht'
  obtain ⟨t, ht, hR⟩ := exists_of_forall₂_right hall hi
  exact ⟨t, List.mem_of_getElem? ht, hR⟩

/-! ## What a run yields -/

section Collect

open Transition

variable {σ ε φ α : Type*} (step : σ → ε → Except φ σ)

/-- What the steps of a run yield, in their order. -/
def collect (f : σ → ε → List α) : σ → List ε → List α
  | _, [] => []
  | s, e :: es =>
    f s e ++ match step s e with
      | .ok s' => collect f s' es
      | .error _ => []

/-- **The history rule.** An invariant that knows what the steps so far have yielded. -/
theorem run_induction_collect {β : Type*} {f : σ → ε → List α} {g : σ → ε → List β}
    {P : List α → List β → σ → Prop}
    (hstep : ∀ as bs s e s', P as bs s → step s e = .ok s' → P (as ++ f s e) (bs ++ g s e) s')
    {as : List α} {bs : List β} {s s' : σ} {es : List ε} (hs : P as bs s)
    (hr : run step s es = .ok s') :
    P (as ++ collect step f s es) (bs ++ collect step g s es) s' := by
  induction es generalizing as bs s with
  | nil =>
    cases hr
    simpa [collect] using hs
  | cons e es ih =>
    obtain ⟨t, ht, hr⟩ := (run_cons_eq_ok step).mp hr
    simp only [collect, ht, ← List.append_assoc]
    exact ih (hstep as bs s e t hs ht) hr

end Collect

end Threads
