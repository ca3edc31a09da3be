import TcpStack.Lib.Reaches
import TcpStack.Proofs.PacketQueue

/-!
# TcpStack — wake-ups of `PacketQueue`

Who sleeps on a condition variable, and who is going to wake them. `Push` changes the queue with
the mutex held, so that no reader misses it. `Stop` does not hold the mutex: a reader that has
just checked the predicate goes to sleep after `Stop` has notified everybody.

* **`reader_attends`** — no packet waits for a reader that sleeps.
* **`stop_wakes_readers_iff`** — when `Stop` leaves no reader asleep.
-/

namespace NetStack

namespace PacketQueue

open Transition Threads

/-! ## Readers and `Push` -/

namespace Thread

/-- What a reader was asked to do. -/
def read? : Thread → Option Read
  | .entering r | .locking r | .checking r | .suspending r | .asleep r | .testing r | .taking r =>
    some r
  | _ => none

/-- The thread will look at the queue, or notify somebody who will. -/
def attends : Thread → Bool
  | .locking _ | .checking _ | .testing _ | .taking _ | .pushed => true
  | _ => false

end Thread

variable {q q' : PacketQueue} {t t' : Thread} {n : Notification} {i j : ℕ} {w : Option ℕ}
  {threads threads' : List Thread}

@[simp] theorem read?_awake (t : Thread) : t.awake.read? = t.read? := by
  cases t <;> rfl

theorem awake_of_attends (h : t.attends) : t.awake = t := by
  cases t <;> first | rfl | cases h

theorem awake_ne_asleep (r : Read) : t.awake ≠ .asleep r := by
  cases t <;> intro h <;> cases h

theorem suspending_of_awake (h : t.awake = .suspending r) : t = .suspending r := by
  cases t <;> first | exact h | cases h

/-- A notification reaches one of those that sleep, if there are any. -/
theorem notify_one {c : Cv} (h : notify w threads (.one c) = .ok threads')
    (hi : threads[i]? = some t) (ht : t.sleepsOn c) :
    ∃ (j : ℕ) (u : Thread), threads[j]? = some u ∧ u.sleepsOn c ∧ threads' = threads.set j u.awake := by
  unfold notify at h
  cases w with
  | none =>
    have hany : threads.any (·.sleepsOn c) := List.any_eq_true.mpr ⟨t, List.mem_of_getElem? hi, ht⟩
    simp only [hany, if_true] at h
    cases h
  | some j =>
    simp only at h
    split at h
    · cases h
    · next u hj =>
      split at h
      · next hu =>
        cases h
        exact ⟨j, u, hj, hu, rfl⟩
      · cases h

theorem next_read? (h : next i q t = .ok (q', t', n)) : ∀ r ∈ t'.read?, r ∈ t.read? := by
  cases t <;> simp only [next] at h <;> repeat' split at h
  all_goals cases h
  all_goals simp [Thread.read?]

/-- The packets change with the mutex held. -/
theorem next_packets (h : next i q t = .ok (q', t', n)) :
    q'.packets = q.packets ∨ q.mutex = none ∨ t.holdsMutex := by
  cases t <;> simp only [next] at h <;> repeat' split at h
  all_goals cases h
  all_goals simp_all [Thread.holdsMutex]

theorem next_suspending (h : next i q t = .ok (q', .suspending r, n)) : q'.packets = [] := by
  cases t <;> simp only [next] at h <;> repeat' split at h
  all_goals simp_all

theorem next_asleep (h : next i q t = .ok (q', .asleep r, n)) :
    t = .suspending r ∧ q'.packets = q.packets := by
  cases t <;> simp only [next] at h <;> repeat' split at h
  all_goals cases h
  exact ⟨rfl, rfl⟩

/-- Where packets are left in a queue that is not stopped, either they were there before and who
attended to them goes on, or the thread itself attends to them. -/
theorem next_attends (h : next i q t = .ok (q', t', n))
    (hall : ∀ r ∈ t.read?, r.all ∧ r.receiverQueue = []) (hne : q'.packets ≠ [])
    (hd : q'.destroy = false) :
    t'.attends ∨ q.packets ≠ [] ∧ q.destroy = false ∧ (t.attends → n = .one .cv) := by
  cases t <;> simp only [next] at h <;> repeat' split at h
  all_goals cases h
  all_goals simp_all [Thread.attends, Thread.read?]

namespace Shared

variable {s s' : Shared} {ev : Event} {es : List Event} {count : ℕ}

/-- Every reader takes all packets, into an empty queue. -/
def TakesAll (_ : Shared) : Event → Prop
  | .call _ (.read r) => r.all ∧ r.receiverQueue = []
  | _ => True

instance (s : Shared) : (ev : Event) → Decidable (TakesAll s ev)
  | .call _ (.read _) => inferInstanceAs (Decidable (_ ∧ _))
  | .call _ (.push _) | .call _ .stop | .next .. | .wakeUp _ => .isTrue trivial

/-- No packet waits for a reader that sleeps: somebody else is going to attend to it. -/
structure Attended (s : Shared) : Prop where
  readsAll : ∀ (i : ℕ) t, s.threads[i]? = some t → ∀ r ∈ t.read?, r.all ∧ r.receiverQueue = []
  suspending : ∀ (i : ℕ) r, s.threads[i]? = some (.suspending r) → s.queue.packets = []
  attended : ∀ (i : ℕ) r, s.threads[i]? = some (.asleep r) → s.queue.packets ≠ [] →
    s.queue.destroy = false → ∃ (j : ℕ) (t : Thread), s.threads[j]? = some t ∧ t.attends

/-- A thread goes on where nobody sleeps or holds the mutex. -/
theorem Attended.move (h : Attended s) (hi : s.threads[i]? = some t)
    (hread : ∀ r ∈ t'.read?, r.all ∧ r.receiverQueue = [])
    (hstay : ∀ r, t' ≠ .asleep r ∧ t' ≠ .suspending r) (hatt : t.attends → t'.attends) :
    Attended { s with threads := s.threads.set i t' } := by
  refine ⟨forall_set (fun j u hj _ => h.readsAll j u hj) hread, fun k r hk => ?_,
    fun k r hk hne hd => ?_⟩
  · by_cases hki : k = i
    · subst hki
      rw [getElem?_set_self hi] at hk
      cases hk
      exact absurd rfl (hstay r).2
    · rw [List.getElem?_set_ne (Ne.symm hki)] at hk
      exact h.suspending k r hk
  · have hk' : s.threads[k]? = some (.asleep r) := by
      by_cases hki : k = i
      · subst hki
        rw [getElem?_set_self hi] at hk
        cases hk
        exact absurd rfl (hstay r).1
      · rw [List.getElem?_set_ne (Ne.symm hki)] at hk
        exact hk
    obtain ⟨j, u, hj, hu⟩ := h.attended k r hk' hne hd
    by_cases hji : j = i
    · subst hji
      rw [hi] at hj
      cases hj
      exact ⟨j, t', getElem?_set_self hi, hatt hu⟩
    · exact ⟨j, u, by rw [List.getElem?_set_ne (Ne.symm hji)]; exact hj, hu⟩

theorem Attended.step (h : Attended s) (hs : Sound s) (hcond : TakesAll s ev)
    (hstep : s.step ev = .ok s') : Attended s' := by
  rcases step_cases hstep with ⟨i, c, rfl, hi, rfl⟩ |
    ⟨i, w, t, q', t', n, threads', -, hi, hnext, hnotify, rfl⟩ | ⟨i, t, -, hi, hsleep, rfl⟩
  · refine h.move hi ?_ ?_ (fun ht => by cases ht)
    · cases c with
      | read r =>
        intro r' hr'
        cases hr'
        exact hcond
      | push _ | stop =>
        intro r hr
        cases hr
    · intro r
      cases c <;> exact ⟨Thread.noConfusion, Thread.noConfusion⟩
  · have hwoken := notify_woken hnotify
    have hread := next_read? hnext
    refine ⟨fun k u hk r hr => ?_, fun k r hk => ?_, fun k r hk hne hd => ?_⟩
    · obtain ⟨v, hv, hvu⟩ := exists_of_forall₂_right hwoken hk
      rw [Woken.congr read?_awake hvu] at hr
      refine forall_set (P := fun _ v => ∀ r ∈ v.read?, r.all ∧ r.receiverQueue = [])
        (fun j u hj _ => h.readsAll j u hj) ?_ k v hv r hr
      exact fun r hr => h.readsAll i t hi r (hread r hr)
    · obtain ⟨v, hv, hvu⟩ := exists_of_forall₂_right hwoken hk
      have hv' : v = .suspending r := by
        rcases hvu with heq | heq
        · exact heq.symm
        · exact suspending_of_awake heq.symm
      subst hv'
      by_cases hki : k = i
      · subst hki
        rw [getElem?_set_self hi] at hv
        cases hv
        exact next_suspending hnext
      · rw [List.getElem?_set_ne (Ne.symm hki)] at hv
        -- the reader that is about to sleep owns the mutex
        have hown := (hs.mutex.holds_iff hv).mp rfl
        rcases next_packets hnext with heq | hnone | ht
        · show q'.packets = []
          rw [heq]
          exact h.suspending k r hv
        · rw [hown] at hnone
          cases hnone
        · exact absurd (hs.mutex.exclusive hv hi rfl ht) hki
    · obtain ⟨v, hv, hvu⟩ := exists_of_forall₂_right hwoken hk
      have hv' : v = .asleep r := by
        rcases hvu with heq | heq
        · exact heq.symm
        · exact absurd heq.symm (awake_ne_asleep r)
      subst hv'
      have hk' : s.threads[k]? = some (.asleep r) := by
        by_cases hki : k = i
        · subst hki
          rw [getElem?_set_self hi] at hv
          cases hv
          obtain ⟨rfl, hpkts⟩ := next_asleep hnext
          exact absurd (hpkts.trans (h.suspending k r hi)) hne
        · rwa [List.getElem?_set_ne (Ne.symm hki)] at hv
      -- a thread that attends is not changed by a notification
      have hkeep : ∀ (j : ℕ) (u : Thread), (s.threads.set i t')[j]? = some u → u.attends →
          ∃ (j : ℕ) (u : Thread), threads'[j]? = some u ∧ u.attends := by
        intro j u hj hu
        obtain ⟨u', hu', hwk⟩ := exists_of_forall₂ hwoken hj
        refine ⟨j, u', hu', ?_⟩
        rcases hwk with rfl | rfl
        · exact hu
        · rw [awake_of_attends hu]
          exact hu
      rcases next_attends hnext (h.readsAll i t hi) hne hd with ht' | ⟨hne', hd', hatt⟩
      · exact hkeep i t' (getElem?_set_self hi) ht'
      · obtain ⟨j, u, hj, hu⟩ := h.attended k r hk' hne' hd'
        by_cases hji : j = i
        · -- the one that attended has notified a reader
          subst hji
          rw [hi] at hj
          cases hj
          rw [hatt hu] at hnotify
          obtain ⟨m, v, hm, hsleep, rfl⟩ := notify_one hnotify hv rfl
          refine ⟨m, v.awake, getElem?_set_self hm, ?_⟩
          cases v <;> first | rfl | cases hsleep
        · exact hkeep j u (by rw [List.getElem?_set_ne (Ne.symm hji)]; exact hj) hu
  · refine h.move hi ?_ ?_ ?_
    · rw [read?_awake]
      exact h.readsAll i t hi
    · intro r
      refine ⟨awake_ne_asleep r, fun heq => ?_⟩
      rw [suspending_of_awake heq] at hsleep
      rcases hsleep with hsleep | hsleep <;> cases hsleep
    · intro ht
      rw [awake_of_attends ht]
      exact ht

theorem Attended.new (count : ℕ) : Attended (Shared.new count) := by
  have hidle : ∀ (i : ℕ) (t : Thread), (Shared.new count).threads[i]? = some t → t = .idle :=
    fun i t hi => List.eq_of_mem_replicate (List.mem_of_getElem? hi)
  refine ⟨fun i t hi r hr => ?_, fun i r hi => rfl, fun i r hi => ?_⟩
  · rw [hidle i t hi] at hr
    cases hr
  · exact absurd (hidle i _ hi) Thread.noConfusion

/-- **No wake-up by `Push` is lost.** Among readers that take all packets, none sleeps on a queue
that holds packets and is not stopped, unless another one is about to look at the queue or a
notification is on its way. -/
theorem reader_attends {r : Read} (hall : Meets step TakesAll (new count) es)
    (hrun : run step (new count) es = .ok s) (hi : s.threads[i]? = some (.asleep r))
    (hne : s.queue.packets ≠ []) (hd : s.queue.destroy = false) :
    ∃ (j : ℕ) (t : Thread), s.threads[j]? = some t ∧ t.attends := by
  have hinv : Sound s ∧ Attended s := by
    refine run_induction_of_meets step (P := fun s => Sound s ∧ Attended s) ?_
      ⟨Sound.new count, Attended.new count⟩ hall hrun
    rintro s ev s' ⟨hs, h⟩ hc hstep
    exact ⟨hs.step hstep, h.step hs hc hstep⟩
  exact hinv.2.attended i r hi hne hd

/-- A packet is pushed while two readers sleep. -/
def pushToTwo : List Event :=
  [.call 0 (.read { all := true }), .call 1 (.read { all := true }), .next 0 none, .next 0 none,
    .next 0 none, .next 0 none, .next 1 none, .next 1 none, .next 1 none, .next 1 none,
    .call 2 (.push [packetOf 0]), .next 2 none]

theorem reader_attends_pushToTwo : ∃ s, run step (new 3) pushToTwo = .ok s ∧
    ∃ (j : ℕ) (t : Thread), s.threads[j]? = some t ∧ t.attends := by
  have hok : (run step (new 3) pushToTwo).map (fun s =>
      (s.threads[0]?, s.queue.packets, s.queue.destroy)) =
      .ok (some (.asleep { all := true }), [packetOf 0], false) := by
    decide +kernel
  obtain ⟨s, hs, heq⟩ := map_eq_ok.mp hok
  obtain ⟨hi, heq⟩ := Prod.mk.inj heq
  obtain ⟨hpkts, hd⟩ := Prod.mk.inj heq
  exact ⟨s, hs, reader_attends (by decide +kernel) hs hi (by rw [hpkts]; simp) hd⟩

end Shared

/-! ## Readers and `Stop` -/

namespace Thread

/-- A reader that sleeps, or has found that it has to. -/
def waits : Thread → Bool
  | .suspending _ | .asleep _ => true
  | _ => false

/-- The thread is in `Stop` and has set `destroy_`. -/
def hasStored : Thread → Bool
  | .wakingReaders | .lockingReaders | .checkingReaders | .suspendingReaders | .asleepReaders =>
    true
  | _ => false

end Thread

@[simp] theorem hasStored_awake (t : Thread) : t.awake.hasStored = t.hasStored := by
  cases t <;> rfl

/-- In a queue that is stopped no reader finds that it has to wait. -/
theorem next_waits (h : next i q t = .ok (q', t', n)) (hd : q.destroy) (ht : t.waits = false) :
    t'.waits = false := by
  cases t <;> simp only [next] at h <;> repeat' split at h
  all_goals cases h
  all_goals simp_all [Thread.waits]

theorem next_destroy (h : next i q t = .ok (q', t', n)) :
    q'.destroy = q.destroy ∨ t' = .wakingReaders ∧ q'.destroy := by
  cases t <;> simp only [next] at h <;> repeat' split at h
  all_goals cases h
  all_goals simp

/-- `destroy_` is set before anything that comes after it in `Stop`. -/
theorem next_hasStored (h : next i q t = .ok (q', t', n)) (ht' : t'.hasStored)
    (ht : t.hasStored → q.destroy) : q'.destroy := by
  cases t <;> simp only [next] at h <;> repeat' split at h
  all_goals cases h
  all_goals simp_all [Thread.hasStored]

theorem awake_wakingReaders (h : t.awake = .wakingReaders) : t = .wakingReaders := by
  cases t <;> first | exact h | cases h

/-- A thread that does not wait does not when it is woken. -/
theorem waits_awake (ht : t.waits = false) : t.awake.waits = false := by
  cases t <;> first | rfl | cases ht

namespace Shared

variable {s s' : Shared} {ev : Event} {es : List Event} {count : ℕ}

/-- Once the last `Stop` has notified the readers, none of them waits. -/
def NoneWaits (s : Shared) : Prop :=
  s.queue.destroy → (∀ t ∈ s.threads, t ≠ .wakingReaders) → ∀ t ∈ s.threads, t.waits = false

/-- The last `Stop` to notify the readers does so when none has found that it has to sleep, but
does not sleep yet. -/
def WakesAll (s : Shared) : Event → Prop
  | .next i _ => s.threads[i]? = some .wakingReaders →
    (∀ t ∈ s.threads.set i .idle, t ≠ .wakingReaders) → ∀ t ∈ s.threads, ∀ r, t ≠ .suspending r
  | _ => True

/-- A thread that has got that far in `Stop` has stopped the queue. -/
def Stopped (s : Shared) : Prop := ∀ t ∈ s.threads, t.hasStored → s.queue.destroy

theorem Stopped.step (h : Stopped s) (hstep : s.step ev = .ok s') : Stopped s' := by
  intro u' hu' hstored
  rcases step_cases hstep with ⟨i, c, -, hi, rfl⟩ |
    ⟨i, w, t, q', t', n, threads', -, hi, hnext, hnotify, rfl⟩ | ⟨i, t, -, hi, -, rfl⟩
  · rcases List.mem_or_eq_of_mem_set hu' with hmem | rfl
    · exact h u' hmem hstored
    · cases c <;> cases hstored
  · obtain ⟨u, hu, hwk⟩ := exists_mem_of_forall₂_right (notify_woken hnotify) hu'
    rw [hwk.congr hasStored_awake] at hstored
    rcases List.mem_or_eq_of_mem_set hu with hmem | rfl
    · have hd := h u hmem hstored
      rcases next_destroy hnext with hsame | ⟨-, hd'⟩
      · show q'.destroy
        rw [hsame]
        exact hd
      · exact hd'
    · exact next_hasStored hnext hstored (h t (List.mem_of_getElem? hi))
  · rcases List.mem_or_eq_of_mem_set hu' with hmem | rfl
    · exact h u' hmem hstored
    · rw [hasStored_awake] at hstored
      exact h t (List.mem_of_getElem? hi) hstored

theorem Stopped.new (count : ℕ) : Stopped (Shared.new count) := by
  intro t ht hstored
  rw [List.eq_of_mem_replicate ht] at hstored
  cases hstored

/-- One thread moves that is not about to notify the readers. -/
theorem NoneWaits.move (h : NoneWaits s) (hi : s.threads[i]? = some t) (ht : t ≠ .wakingReaders)
    (ht' : t'.waits = false ∨ t'.waits = t.waits) :
    NoneWaits { s with threads := s.threads.set i t' } := by
  intro hd hnone u hu
  have hs : ∀ u ∈ s.threads, u.waits = false := by
    refine h hd fun u hu heq => ?_
    exact hnone u (mem_set_of_ne hi hu (by rw [heq]; exact ht.symm) t') heq
  rcases List.mem_or_eq_of_mem_set hu with hmem | rfl
  · exact hs u hmem
  · rcases ht' with ht' | ht'
    · exact ht'
    · rw [ht']
      exact hs t (List.mem_of_getElem? hi)

/-- What the last `Stop` does to the threads. -/
theorem step_wakingReaders (hi : s.threads[i]? = some .wakingReaders)
    (hstep : s.step (.next i w) = .ok s') : s'.queue = s.queue ∧ s'.threads =
      (s.threads.set i .lockingReaders).map fun t => if t.sleepsOn .cv then t.awake else t := by
  rcases step_cases hstep with ⟨_, _, hev, -⟩ |
    ⟨i', w', t, q', t', n, threads', hev, hi', hnext, hnotify, rfl⟩ | ⟨_, _, hev, -⟩
  · cases hev
  · cases hev
    rw [hi] at hi'
    cases hi'
    cases hnext
    cases hnotify
    exact ⟨rfl, rfl⟩
  · cases hev

/-- The step that may leave a reader asleep. -/
theorem noneWaits_notify (hd : s.queue.destroy) (hi : s.threads[i]? = some .wakingReaders)
    (hstep : s.step (.next i w) = .ok s') : NoneWaits s' ↔ WakesAll s (.next i w) := by
  obtain ⟨hqueue, hthreads⟩ := step_wakingReaders hi hstep
  -- who else is going to notify the readers
  have hwaking : (∀ t ∈ s'.threads, t ≠ .wakingReaders) ↔
      ∀ t ∈ s.threads.set i .idle, t ≠ .wakingReaders := by
    rw [hthreads]
    constructor
    · intro h u hu heq
      subst heq
      have hmem := mem_set_of_ne (getElem?_set_self hi) hu Thread.noConfusion .lockingReaders
      rw [List.set_set] at hmem
      exact h .wakingReaders (List.mem_map.mpr ⟨_, hmem, rfl⟩) rfl
    · intro h u' hu' heq
      obtain ⟨u, hu, rfl⟩ := List.mem_map.mp hu'
      have hu' : u = .wakingReaders := by
        split at heq
        · exact awake_wakingReaders heq
        · exact heq
      subst hu'
      have hmem := mem_set_of_ne (getElem?_set_self hi) hu Thread.noConfusion .idle
      rw [List.set_set] at hmem
      exact h .wakingReaders hmem rfl
  rw [NoneWaits, hqueue, hwaking]
  constructor
  · intro h _ hnone u hu r heq
    -- the reader that does not sleep yet is not woken
    subst heq
    have hmem : Thread.suspending r ∈ s'.threads := by
      rw [hthreads]
      exact List.mem_map.mpr ⟨_, mem_set_of_ne hi hu Thread.noConfusion _, rfl⟩
    have hwaits := h hd hnone _ hmem
    cases hwaits
  · intro h _ hnone u' hu'
    rw [hthreads] at hu'
    obtain ⟨u, hu, rfl⟩ := List.mem_map.mp hu'
    rcases List.mem_or_eq_of_mem_set hu with hmem | rfl
    · have hne := h hi hnone u hmem
      cases u with
      | suspending r => exact absurd rfl (hne r)
      | _ => rfl
    · rfl

/-- One step: the readers are left alone except by the last `Stop`. -/
theorem noneWaits_step (h : NoneWaits s) (hs : Stopped s) (hstep : s.step ev = .ok s') :
    NoneWaits s' ↔ WakesAll s ev := by
  rcases step_cases hstep with ⟨i, c, rfl, hi, rfl⟩ |
    ⟨i, w, t, q', t', n, threads', rfl, hi, hnext, hnotify, rfl⟩ | ⟨i, t, rfl, hi, hsleep, rfl⟩
  · refine iff_of_true (h.move hi Thread.noConfusion (Or.inl ?_)) trivial
    cases c <;> rfl
  · by_cases ht : t = .wakingReaders
    · subst ht
      exact noneWaits_notify (hs _ (List.mem_of_getElem? hi) rfl) hi hstep
    · refine iff_of_true (fun hd hnone u' hu' => ?_) fun hwaking => ?_
      · have hwoken := notify_woken hnotify
        have hgone : ∀ u ∈ s.threads.set i t', u ≠ .wakingReaders := by
          intro u hu heq
          obtain ⟨v, hv, hwk⟩ := exists_mem_of_forall₂ hwoken hu
          refine hnone v hv ?_
          subst heq
          rcases hwk with rfl | rfl <;> rfl
        have hsame : s.queue.destroy := by
          rcases next_destroy hnext with hsame | ⟨heq, -⟩
          · rw [← hsame]
            exact hd
          · -- the thread itself is about to notify the readers
            exact absurd heq (hgone t' (List.mem_of_getElem? (getElem?_set_self hi)))
        have hall : ∀ u ∈ s.threads, u.waits = false := by
          refine h hsame fun u hu heq => ?_
          exact hgone u (mem_set_of_ne hi hu (by rw [heq]; exact Ne.symm ht) t') heq
        obtain ⟨u, hu, hwk⟩ := exists_mem_of_forall₂_right hwoken hu'
        have hwaits : u.waits = false := by
          rcases List.mem_or_eq_of_mem_set hu with hmem | rfl
          · exact hall u hmem
          · exact next_waits hnext hsame (hall t (List.mem_of_getElem? hi))
        rcases hwk with rfl | rfl
        · exact hwaits
        · exact waits_awake hwaits
      · rw [hi] at hwaking
        exact absurd (Option.some.inj hwaking) ht
  · refine iff_of_true (h.move hi ?_ ?_) trivial
    · rintro rfl
      rcases hsleep with hsleep | hsleep <;> cases hsleep
    · cases t <;> first | exact Or.inl rfl | exact Or.inr rfl

/-- **When `Stop` wakes its readers.** In a run, no reader is left waiting behind the last
notification of `Stop` if and only if no such notification comes between the moment when a reader
finds that it has to sleep and the moment when it sleeps. -/
theorem stop_wakes_readers_iff (hrun : run step (new count) es = .ok s) :
    (∀ pre t, pre <+: es → run step (new count) pre = .ok t → NoneWaits t) ↔
      Meets step WakesAll (new count) es := by
  have hnew : NoneWaits (new count) ∧ Stopped (new count) :=
    ⟨(fun hd => by cases hd), Stopped.new count⟩
  rw [← forall_prefix_iff_meets_of_run (P := fun s => NoneWaits s ∧ Stopped s) ?_ hnew hrun]
  · constructor
    · intro h pre t hpre ht
      exact ⟨h pre t hpre ht, run_induction step (P := Stopped) (fun _ _ _ hs => hs.step) hnew.2 ht⟩
    · exact fun h pre t hpre ht => (h pre t hpre ht).1
  · rintro s ev s' ⟨h, hs⟩ hstep
    rw [← noneWaits_step h hs hstep]
    exact and_iff_left (hs.step hstep)

/-- A reader finds the queue empty, and `Stop` notifies it before it sleeps. -/
def stopBeforeSleep : List Event :=
  [.call 0 (.read { all := true }), .next 0 none, .next 0 none, .next 0 none,
    .call 1 .stop, .next 1 none, .next 1 none, .next 1 none, .next 0 none]

theorem stop_wakes_readers_iff_stopBeforeSleep : ¬ Meets step WakesAll (new 2) stopBeforeSleep := by
  have hok : (run step (new 2) stopBeforeSleep).map (fun s =>
      (s.queue.destroy, s.threads)) =
      .ok (true, [.asleep { all := true }, .lockingReaders]) := by
    decide +kernel
  obtain ⟨s, hs, heq⟩ := map_eq_ok.mp hok
  obtain ⟨hd, hthreads⟩ := Prod.mk.inj heq
  intro hm
  have hwaits := (stop_wakes_readers_iff hs).mpr hm _ s (List.prefix_refl _) hs hd
    (by rw [hthreads]; decide) (.asleep { all := true }) (by rw [hthreads]; decide)
  cases hwaits

end Shared

end PacketQueue

end NetStack
