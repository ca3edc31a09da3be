import TcpStack.Proofs.Wakeups

/-!
# TcpStack — the end of a `PacketQueue`

What comes of the threads once the queue is stopped and no more calls are made. Every step takes
from what is left to do, so that every schedule comes to an end, and at its end nobody waits who
has somebody to wait for.

* **`weight_step`** — a step of a queue that is stopped lowers its weight.
* **`Alone.step`** — a `Stop` that sleeps is going to be notified.
* **`stop_settles`** — all calls return, unless a reader was left waiting.
-/

namespace NetStack

namespace PacketQueue

open Transition Threads

variable {q q' : PacketQueue} {t t' : Thread} {n : Notification} {i j : ℕ} {w : Option ℕ}
  {threads threads' : List Thread}

/-! ## What is left to do -/

namespace Thread

/-- The thread is in `Stop`. -/
def inStop : Thread → Bool
  | .stopping | .storing | .wakingReaders | .lockingReaders | .checkingReaders
  | .suspendingReaders | .asleepReaders => true
  | _ => false

/-- The thread may still notify readers. -/
def notifiesReaders : Thread → Bool
  | .pushing _ | .pushed | .storing | .wakingReaders => true
  | _ => false

/-- What is left for the thread to do in a queue that is stopped. A reader that leaves may wake
a `Stop`, which then has three steps to do again. -/
def weight : Thread → ℕ
  | .idle | .asleepReaders => 0
  | .pushed | .suspendingReaders => 1
  | .pushing _ | .checkingReaders => 2
  | .lockingReaders => 3
  | .left .. => 4
  | .leaving _ | .wakingReaders => 5
  | .taking _ | .storing => 6
  | .testing _ | .stopping => 7
  | .checking _ => 8
  | .locking _ => 9
  | .asleep _ | .entering _ => 10
  | .suspending _ => 11

end Thread

/-- What a notification gives to do to those that it wakes. -/
def Notification.weight : Notification → ℕ
  | .one .numReadersCv => 3
  | _ => 0

theorem next_weight (h : next i q t = .ok (q', t', n)) (hd : q.destroy) :
    t'.weight + n.weight < t.weight := by
  cases t <;> simp only [next] at h <;> repeat' split at h
  all_goals cases h
  all_goals simp_all [Thread.weight, Notification.weight]

theorem weight_awake {c : Cv} (ht : t.sleepsOn c) :
    t.awake.weight ≤ t.weight + (Notification.one c).weight := by
  cases c <;> cases t <;> simp_all [Thread.sleepsOn, Thread.awake, Thread.weight, Notification.weight]

theorem notify_weight (h : notify w threads n = .ok threads') :
    (threads'.map Thread.weight).sum ≤ (threads.map Thread.weight).sum + n.weight := by
  unfold notify at h
  split at h
  · cases h
    exact Nat.le_add_right _ _
  · next c =>
    split at h
    · split at h
      · cases h
      · cases h
        exact Nat.le_add_right _ _
    · next j =>
      split at h
      · cases h
      · next t hj =>
        split at h
        · next ht =>
          cases h
          have hsum := sum_map_set Thread.weight hj t.awake
          have hle := weight_awake ht
          omega
        · cases h
  · cases h
    refine sum_map_forall₂ Thread.weight (R := fun t t' => t'.weight ≤ t.weight) (fun _ _ => id) ?_
    rw [List.forall₂_map_right_iff]
    refine List.forall₂_same.mpr fun t _ => ?_
    split
    · next ht => exact weight_awake ht
    · exact Nat.le_refl _

theorem next_notifiesReaders (h : next i q t = .ok (q', t', n)) (hd : q.destroy)
    (ht : t.notifiesReaders = false) :
    t'.notifiesReaders = false ∧ (n = .nobody ∨ n = .one .numReadersCv) := by
  cases t <;> simp only [next] at h <;> repeat' split at h
  all_goals cases h
  all_goals simp_all [Thread.notifiesReaders]

/-- A reader that waits goes to sleep. -/
theorem next_of_waits (h : next i q t = .ok (q', t', n)) (ht : t.waits) : t'.waits := by
  cases t <;> simp only [Thread.waits, Bool.false_eq_true] at ht
  all_goals cases h
  rfl

theorem next_inStop (h : next i q t = .ok (q', t', n)) (ht' : t'.inStop) : t.inStop := by
  cases t <;> simp only [next] at h <;> repeat' split at h
  all_goals cases h
  all_goals simp_all [Thread.inStop]

/-- Readers are counted as long as `num_readers_mutex_` is not free. -/
theorem next_inside (h : next i q t = .ok (q', t', n)) (ht : t.inside) :
    t'.inside ∨ q.numReadersMutex = none ∧ ∃ re, t' = .left (q.numReaders == 1) re := by
  cases t <;> simp only [next] at h <;> repeat' split at h
  all_goals cases h
  all_goals simp_all [Thread.inside]

theorem next_suspendingReaders (h : next i q t = .ok (q', .suspendingReaders, n)) :
    t = .checkingReaders ∧ q.numReaders ≠ 0 := by
  cases t <;> simp only [next] at h <;> repeat' split at h
  all_goals cases h
  next hle =>
    refine ⟨rfl, fun heq => hle ?_⟩
    rw [heq]
    exact UInt32.le_refl 0

theorem next_asleepReaders (h : next i q t = .ok (q', .asleepReaders, n)) :
    t = .suspendingReaders := by
  cases t <;> simp only [next] at h <;> repeat' split at h
  all_goals cases h
  rfl

/-- Who owns a mutex does not wait for anything. -/
theorem next_of_holdsMutex (ht : t.holdsMutex) : ∃ r, next i q t = .ok r := by
  cases t <;> simp only [Thread.holdsMutex, Bool.false_eq_true] at ht
  all_goals simp only [next]; repeat' split
  all_goals exact ⟨_, rfl⟩

theorem next_of_holdsReadersMutex (ht : t.holdsReadersMutex) : ∃ r, next i q t = .ok r := by
  cases t <;> simp only [Thread.holdsReadersMutex, Bool.false_eq_true] at ht
  all_goals simp only [next]; repeat' split
  all_goals exact ⟨_, rfl⟩

/-- With both mutexes free only those wait that sleep. -/
theorem next_of_free (hm : q.mutex = none) (hr : q.numReadersMutex = none) :
    (∃ r, next i q t = .ok r) ∨ t = .idle ∨ t.waits ∨ t = .asleepReaders := by
  cases t <;> simp only [next, hm, hr, Thread.waits] <;> repeat' split
  all_goals simp_all

theorem suspendingReaders_of_awake (h : t.awake = .suspendingReaders) :
    t = .suspendingReaders := by
  cases t <;> first | exact h | cases h

theorem awake_ne_asleepReaders (t : Thread) : t.awake ≠ .asleepReaders := by
  cases t <;> intro h <;> cases h

/-- A notification is possible, whoever sleeps. -/
theorem exists_notify (threads : List Thread) (n : Notification) :
    ∃ w threads', notify w threads n = .ok threads' := by
  cases n with
  | nobody => exact ⟨none, _, rfl⟩
  | all => exact ⟨none, _, rfl⟩
  | one c =>
    by_cases h : threads.any (·.sleepsOn c)
    · obtain ⟨t, hmem, ht⟩ := List.any_eq_true.mp h
      obtain ⟨j, hj⟩ := List.mem_iff_getElem?.mp hmem
      refine ⟨some j, threads.set j t.awake, ?_⟩
      simp only [notify, hj, ht, if_true]
    · refine ⟨none, threads, ?_⟩
      simp only [notify, h, if_false, Bool.false_eq_true]

namespace Shared

variable {s s' : Shared} {ev : Event} {es es' : List Event} {count : ℕ}

/-- What is left to do for all threads. -/
def weight (s : Shared) : ℕ := (s.threads.map Thread.weight).sum

/-- A step of a thread. -/
def Event.isNext : Event → Bool
  | .next .. => true
  | _ => false

/-- The queue is stopped and the readers are not notified any more. -/
structure Quiet (s : Shared) : Prop where
  destroy : s.queue.destroy
  quiet : ∀ t ∈ s.threads, t.notifiesReaders = false

theorem weight_step (hd : s.queue.destroy) (hstep : s.step (.next i w) = .ok s') :
    s'.weight < s.weight := by
  rcases step_cases hstep with ⟨_, _, hev, -⟩ |
    ⟨i', w', t, q', t', n, threads', hev, hi, hnext, hnotify, rfl⟩ | ⟨_, _, hev, -⟩
  · cases hev
  · cases hev
    have hlt := next_weight hnext hd
    have hle := notify_weight hnotify
    have hsum := sum_map_set Thread.weight hi t'
    show (threads'.map Thread.weight).sum < (s.threads.map Thread.weight).sum
    omega
  · cases hev

@[simp] theorem inStop_awake (t : Thread) : t.awake.inStop = t.inStop := by
  cases t <;> rfl

@[simp] theorem notifiesReaders_awake (t : Thread) :
    t.awake.notifiesReaders = t.notifiesReaders := by
  cases t <;> rfl

theorem Quiet.step (h : Quiet s) (hstep : s.step (.next i w) = .ok s') : Quiet s' := by
  rcases step_cases hstep with ⟨_, _, hev, -⟩ |
    ⟨i', w', t, q', t', n, threads', hev, hi, hnext, hnotify, rfl⟩ | ⟨_, _, hev, -⟩
  · cases hev
  · cases hev
    have ht := next_notifiesReaders hnext h.destroy (h.quiet t (List.mem_of_getElem? hi))
    refine ⟨?_, fun u' hu' => ?_⟩
    · rcases next_destroy hnext with hsame | ⟨-, hd⟩
      · show q'.destroy
        rw [hsame]
        exact h.destroy
      · exact hd
    · obtain ⟨u, hu, hwk⟩ := exists_mem_of_forall₂_right (notify_woken hnotify) hu'
      rw [hwk.congr notifiesReaders_awake]
      rcases List.mem_or_eq_of_mem_set hu with hmem | rfl
      · exact h.quiet u hmem
      · exact ht.1
  · cases hev

/-- A notification that is not for readers lets them sleep. -/
theorem mem_of_waits (h : notify w threads n = .ok threads')
    (hn : n = .nobody ∨ n = .one .numReadersCv) (ht : t ∈ threads) (hwaits : t.waits) :
    t ∈ threads' := by
  rcases hn with rfl | rfl
  · cases h
    exact ht
  · unfold notify at h
    cases w with
    | none =>
      simp only at h
      split at h
      · cases h
      · cases h
        exact ht
    | some j =>
      simp only at h
      split at h
      · cases h
      · next u hj =>
        split at h
        · next hu =>
          cases h
          refine mem_set_of_ne hj ht ?_ _
          rintro rfl
          cases t <;> simp_all [Thread.waits, Thread.sleepsOn]
        · cases h

/-- Nothing changes for the readers of a quiet queue. -/
theorem Quiet.waits_iff (h : Quiet s) (hstep : s.step (.next i w) = .ok s') :
    (∀ t ∈ s'.threads, t.waits = false) ↔ ∀ t ∈ s.threads, t.waits = false := by
  rcases step_cases hstep with ⟨_, _, hev, -⟩ |
    ⟨i', w', t, q', t', n, threads', hev, hi, hnext, hnotify, rfl⟩ | ⟨_, _, hev, -⟩
  · cases hev
  · cases hev
    have hmem := List.mem_of_getElem? hi
    constructor
    · intro hall u hu
      by_contra hwaits
      have hwaits : u.waits := Bool.eq_true_of_not_eq_false hwaits
      have hn := (next_notifiesReaders hnext h.destroy (h.quiet t hmem)).2
      have hcon : ∃ v ∈ s.threads.set i t', v.waits := by
        by_cases heq : u = t
        · subst heq
          exact ⟨t', List.mem_of_getElem? (getElem?_set_self hi), next_of_waits hnext hwaits⟩
        · exact ⟨u, mem_set_of_ne hi hu heq t', hwaits⟩
      obtain ⟨v, hv, hvwaits⟩ := hcon
      have hfalse := hall v (mem_of_waits hnotify hn hv hvwaits)
      rw [hvwaits] at hfalse
      cases hfalse
    · intro hall u' hu'
      obtain ⟨u, hu, hwk⟩ := exists_mem_of_forall₂_right (notify_woken hnotify) hu'
      have hwaits : u.waits = false := by
        rcases List.mem_or_eq_of_mem_set hu with hmem' | rfl
        · exact hall u hmem'
        · exact next_waits hnext h.destroy (hall t hmem)
      rcases hwk with rfl | rfl
      · exact hwaits
      · exact waits_awake hwaits
  · cases hev

/-- `Stop` is not called while another thread is in it. -/
def OneStop (s : Shared) : Event → Prop
  | .call _ .stop => ∀ t ∈ s.threads, t.inStop = false
  | _ => True

instance (s : Shared) : (ev : Event) → Decidable (OneStop s ev)
  | .call _ .stop => inferInstanceAs (Decidable (∀ t ∈ s.threads, t.inStop = false))
  | .call _ (.push _) | .call _ (.read _) | .next .. | .wakeUp _ => .isTrue trivial

/-- A `Stop` that sleeps will be notified by the last reader that leaves. -/
structure Alone (s : Shared) : Prop where
  one : s.threads.countP Thread.inStop ≤ 1
  suspending : .suspendingReaders ∈ s.threads → ∃ t ∈ s.threads, t.inside
  asleep : .asleepReaders ∈ s.threads →
    (∃ t ∈ s.threads, t.inside) ∨ ∃ re, .left true re ∈ s.threads

theorem Alone.new (count : ℕ) : Alone (Shared.new count) := by
  have hidle : ∀ t ∈ (Shared.new count).threads, t = .idle := fun t => List.eq_of_mem_replicate
  refine ⟨?_, fun h => ?_, fun h => ?_⟩
  · rw [List.countP_eq_zero.mpr]
    · exact Nat.zero_le 1
    · intro t ht
      rw [hidle t ht]
      exact Bool.false_ne_true
  · exact absurd (hidle _ h) Thread.noConfusion
  · exact absurd (hidle _ h) Thread.noConfusion

/-- A thread goes on outside of `Stop` and of the readers. -/
theorem Alone.move (h : Alone s) (hi : s.threads[i]? = some t)
    (hone : (s.threads.set i t').countP Thread.inStop ≤ 1)
    (ht' : t' ≠ .suspendingReaders ∧ t' ≠ .asleepReaders) (hin : t.inside → t'.inside)
    (hleft : ∀ re, t ≠ .left true re) : Alone { s with threads := s.threads.set i t' } := by
  have hstay : (∃ u ∈ s.threads, u.inside) → ∃ u ∈ s.threads.set i t', u.inside := by
    rintro ⟨u, hu, hu'⟩
    by_cases heq : u = t
    · subst heq
      exact ⟨t', List.mem_of_getElem? (getElem?_set_self hi), hin hu'⟩
    · exact ⟨u, mem_set_of_ne hi hu heq t', hu'⟩
  refine ⟨hone, fun hmem => ?_, fun hmem => ?_⟩
  · rcases List.mem_or_eq_of_mem_set hmem with hmem | heq
    · exact hstay (h.suspending hmem)
    · exact absurd heq.symm ht'.1
  · rcases List.mem_or_eq_of_mem_set hmem with hmem | heq
    · rcases h.asleep hmem with hinside | ⟨re, hre⟩
      · exact Or.inl (hstay hinside)
      · exact Or.inr ⟨re, mem_set_of_ne hi hre (fun heq => hleft re heq.symm) t'⟩
    · exact absurd heq.symm ht'.2

/-- Readers stay, but for the last one, which is going to notify `Stop`. -/
theorem inside_or_left (hs : Sound s) (hi : s.threads[i]? = some t)
    (hnext : s.queue.next i t = .ok (q', t', n)) (hinside : ∃ u ∈ s.threads, u.inside) :
    (∃ u ∈ s.threads.set i t', u.inside) ∨
      s.queue.numReadersMutex = none ∧ ∃ re, .left true re ∈ s.threads.set i t' := by
  obtain ⟨u, hu, hin⟩ := hinside
  by_cases heq : u = t
  · subst heq
    have hself : t' ∈ s.threads.set i t' := List.mem_of_getElem? (getElem?_set_self hi)
    rcases next_inside hnext hin with ht' | ⟨hfree, re, rfl⟩
    · exact Or.inl ⟨t', hself, ht'⟩
    · by_cases hone : s.threads.countP Thread.inside = 1
      · -- this is the last reader
        have hlast : (s.queue.numReaders == 1) = true := by
          rw [hs.readers, hone]
          rfl
        refine Or.inr ⟨hfree, re, ?_⟩
        rw [hlast] at hself ⊢
        exact hself
      · have hcount := countP_set Thread.inside hi (.left (s.queue.numReaders == 1) re)
        have hpos : 0 < s.threads.countP Thread.inside := List.countP_pos_iff.mpr ⟨u, hu, hin⟩
        have hout : (Thread.left (s.queue.numReaders == 1) re).inside.toNat = 0 := rfl
        rw [hout, hin, Bool.toNat_true] at hcount
        exact Or.inl (List.countP_pos_iff.mp (by omega))
  · exact Or.inl ⟨u, mem_set_of_ne hi hu heq t', hin⟩

theorem Alone.step (h : Alone s) (hs : Sound s) (hd : Stopped s) (hcond : OneStop s ev)
    (hstep : s.step ev = .ok s') : Alone s' := by
  rcases step_cases hstep with ⟨i, c, rfl, hi, rfl⟩ |
    ⟨i, w, t, q', t', n, threads', rfl, hi, hnext, hnotify, rfl⟩ | ⟨i, t, rfl, hi, hsleep, rfl⟩
  · refine h.move hi ?_ ?_ (fun hin => by cases hin) (fun re => Thread.noConfusion)
    · have hcount := countP_set Thread.inStop hi c.start
      cases c with
      | stop =>
        have hzero : s.threads.countP Thread.inStop = 0 := by
          rw [List.countP_eq_zero]
          intro t ht
          rw [hcond t ht]
          exact Bool.false_ne_true
        rw [hzero] at hcount
        exact Nat.le_of_add_right_le hcount.le
      | push _ | read _ => exact hcount.le.trans h.one
    · cases c <;> exact ⟨Thread.noConfusion, Thread.noConfusion⟩
  · have hwoken := notify_woken hnotify
    have hone : threads'.countP Thread.inStop ≤ 1 := by
      rw [countP_forall₂ Thread.inStop (fun _ _ h => Woken.congr inStop_awake h) hwoken]
      have hcount := countP_set Thread.inStop hi t'
      have hle := h.one
      have hin := next_inStop hnext
      cases ht : t.inStop <;> cases ht' : t'.inStop <;> simp_all
      omega
    -- who is inside or about to notify `Stop` is so whoever is woken
    have hinside : (∃ u ∈ s.threads.set i t', u.inside) → ∃ u ∈ threads', u.inside := by
      rintro ⟨u, hu, hin⟩
      obtain ⟨v, hv, hwk⟩ := exists_mem_of_forall₂ hwoken hu
      exact ⟨v, hv, by rw [hwk.congr inside_awake]; exact hin⟩
    have hleft : (∃ re, .left true re ∈ s.threads.set i t') → ∃ re, .left true re ∈ threads' := by
      rintro ⟨re, hre⟩
      obtain ⟨v, hv, hwk⟩ := exists_mem_of_forall₂ hwoken hre
      rcases hwk with rfl | rfl <;> exact ⟨re, hv⟩
    refine ⟨hone, fun hmem => ?_, fun hmem => ?_⟩
    · obtain ⟨u, hu, hwk⟩ := exists_mem_of_forall₂_right hwoken hmem
      have hu' : u = .suspendingReaders := by
        rcases hwk with rfl | heq
        · rfl
        · exact suspendingReaders_of_awake heq.symm
      subst hu'
      apply hinside
      rcases List.mem_or_eq_of_mem_set hu with hmem | heq
      · -- the thread owns `num_readers_mutex_`
        rcases inside_or_left hs hi hnext (h.suspending hmem) with hin | ⟨hfree, -⟩
        · exact hin
        · obtain ⟨k, hk⟩ := List.mem_iff_getElem?.mp hmem
          have hown := (hs.readersMutex.holds_iff hk).mp rfl
          rw [hfree] at hown
          cases hown
      · rw [← heq] at hnext
        obtain ⟨rfl, hne⟩ := next_suspendingReaders hnext
        have hpos : 0 < s.threads.countP Thread.inside := by
          rw [Nat.pos_iff_ne_zero]
          intro hzero
          rw [hs.readers, hzero] at hne
          exact hne rfl
        obtain ⟨v, hv, hin⟩ := List.countP_pos_iff.mp hpos
        refine ⟨v, mem_set_of_ne hi hv ?_ _, hin⟩
        rintro rfl
        cases hin
    · obtain ⟨u, hu, hwk⟩ := exists_mem_of_forall₂_right hwoken hmem
      have hu' : u = .asleepReaders := by
        rcases hwk with rfl | heq
        · rfl
        · exact absurd heq.symm (awake_ne_asleepReaders u)
      subst hu'
      rcases List.mem_or_eq_of_mem_set hu with hasleep | heq
      · rcases h.asleep hasleep with hin | ⟨re, hre⟩
        · rcases inside_or_left hs hi hnext hin with hin | ⟨-, hre⟩
          · exact Or.inl (hinside hin)
          · exact Or.inr (hleft hre)
        · by_cases heq : .left true re = t
          · -- the `Stop` that sleeps is woken, and there is no other one
            exfalso
            subst heq
            have hdestroy := hd _ hasleep rfl
            simp only [next, hdestroy, Bool.and_self, if_true] at hnext
            cases hnext
            obtain ⟨k, hk⟩ := List.mem_iff_getElem?.mp hu
            obtain ⟨j, v, hj, hv, rfl⟩ := notify_one hnotify hk rfl
            have hvm : v.awake ∈ _ := List.mem_of_getElem? (getElem?_set_self hj)
            cases v with
            | asleepReaders =>
              have heq := eq_of_countP_le_one hone hvm hmem rfl rfl
              cases heq
            | _ => cases hv
          · exact Or.inr (hleft ⟨re, mem_set_of_ne hi hre heq t'⟩)
      · rw [← heq] at hnext
        have ht := next_asleepReaders hnext
        rw [ht] at hi
        obtain ⟨v, hv, hin⟩ := h.suspending (List.mem_of_getElem? hi)
        refine Or.inl (hinside ⟨v, mem_set_of_ne hi hv ?_ t', hin⟩)
        rintro rfl
        cases hin
  · have hone := h.one
    rw [← countP_forall₂ Thread.inStop (R := Woken) (fun _ _ h => Woken.congr inStop_awake h)
      (forall₂_set (fun _ => Or.inl rfl) hi (Or.inr rfl))] at hone
    refine h.move hi hone ?_ (fun hin => by rw [inside_awake]; exact hin) ?_
    · refine ⟨fun heq => ?_, awake_ne_asleepReaders t⟩
      rw [suspendingReaders_of_awake heq] at hsleep
      rcases hsleep with hsleep | hsleep <;> cases hsleep
    · rintro re rfl
      rcases hsleep with hsleep | hsleep <;> cases hsleep

/-- Nothing is left to be done but waiting. -/
def Settled (s : Shared) : Prop := ∀ i w t, s.step (.next i w) ≠ .ok t

/-- Who cannot go on sleeps. -/
theorem Settled.sleeps (h : Settled s) (hs : Sound s) :
    ∀ t ∈ s.threads, t = .idle ∨ t.waits ∨ t = .asleepReaders := by
  have hcannot : ∀ (i : ℕ) (t : Thread), s.threads[i]? = some t →
      ¬ ∃ r, s.queue.next i t = .ok r := by
    rintro i t hi ⟨r, hr⟩
    obtain ⟨w, threads', hw⟩ := exists_notify (s.threads.set i r.2.1) r.2.2
    refine h i w { queue := r.1, threads := threads' } ?_
    simp only [step, hi, hr, ok_bind, hw]
  -- the owner of a mutex could go on
  have hmutex : s.queue.mutex = none := by
    by_contra hne
    obtain ⟨i, t, hi, ht⟩ := hs.mutex.exists_owner hne
    exact hcannot i t hi (next_of_holdsMutex ht)
  have hreaders : s.queue.numReadersMutex = none := by
    by_contra hne
    obtain ⟨i, t, hi, ht⟩ := hs.readersMutex.exists_owner hne
    exact hcannot i t hi (next_of_holdsReadersMutex ht)
  intro t ht
  obtain ⟨i, hi⟩ := List.mem_iff_getElem?.mp ht
  exact (next_of_free hmutex hreaders).resolve_left (hcannot i t hi)

/-- **The end of a queue.** It is stopped, by one thread at a time, and no more calls are made.
Whatever the schedule, there are no more steps than the threads have left to do, and when they
have come to an end, all calls have returned if and only if no reader was left waiting. -/
theorem stop_settles (hone : Meets step OneStop (new count) es)
    (hrun : run step (new count) es = .ok s) (hq : Quiet s) (hnext : ∀ ev ∈ es', ev.isNext)
    (hrun' : run step s es' = .ok s') :
    es'.length ≤ s.weight ∧
      (Settled s' → ((∀ t ∈ s'.threads, t = .idle) ↔ ∀ t ∈ s.threads, t.waits = false)) := by
  obtain ⟨hs, hd, ha⟩ : Sound s ∧ Stopped s ∧ Alone s := by
    refine run_induction_of_meets step (P := fun s => Sound s ∧ Stopped s ∧ Alone s) ?_
      ⟨Sound.new count, Stopped.new count, Alone.new count⟩ hone hrun
    rintro s ev s' ⟨hs, hd, ha⟩ hc hstep
    exact ⟨hs.step hstep, hd.step hstep, ha.step hs hd hc hstep⟩
  have hmeets : Meets step (fun _ ev => ev.isNext) s es' := Meets.of_forall step hnext
  constructor
  · have hle := run_length_le weight (P := Quiet) (fun s ev s' hq hev hstep => ?_) hq hmeets hrun'
    · omega
    · cases ev with
      | next i w => exact ⟨hq.step hstep, weight_step hq.destroy hstep⟩
      | call _ _ | wakeUp _ => cases hev
  · intro hsettled
    obtain ⟨hs', ha', -, hwaits⟩ : Sound s' ∧ Alone s' ∧ (Quiet s' ∧ Stopped s') ∧
        ((∀ t ∈ s'.threads, t.waits = false) ↔ ∀ t ∈ s.threads, t.waits = false) := by
      refine run_induction_of_meets step (P := fun u => Sound u ∧ Alone u ∧ (Quiet u ∧ Stopped u) ∧
        ((∀ t ∈ u.threads, t.waits = false) ↔ ∀ t ∈ s.threads, t.waits = false)) ?_
        ⟨hs, ha, ⟨hq, hd⟩, Iff.rfl⟩ hmeets hrun'
      rintro u ev u' ⟨hs, ha, ⟨hq, hd⟩, hiff⟩ hev hstep
      cases ev with
      | next i w =>
        have hcond : OneStop u (.next i w) := trivial
        exact ⟨hs.step hstep, ha.step hs hd hcond hstep, ⟨hq.step hstep, hd.step hstep⟩,
          (hq.waits_iff hstep).trans hiff⟩
      | call _ _ | wakeUp _ => cases hev
    rw [← hwaits]
    constructor
    · intro hidle t ht
      rw [hidle t ht]
      rfl
    · intro hnone
      have hsleeps : ∀ t ∈ s'.threads, t = .idle ∨ t = .asleepReaders := by
        intro t ht
        rcases hsettled.sleeps hs' t ht with hidle | hw | hasleep
        · exact Or.inl hidle
        · rw [hnone t ht] at hw
          cases hw
        · exact Or.inr hasleep
      intro t ht
      rcases hsleeps t ht with hidle | rfl
      · exact hidle
      · -- somebody would be on the way to notify this `Stop`
        rcases ha'.asleep ht with ⟨u, hu, hin⟩ | ⟨re, hre⟩
        · rcases hsleeps u hu with rfl | rfl <;> cases hin
        · rcases hsleeps _ hre with heq | heq <;> cases heq

/-- The reader leaves, and `Stop`, which has gone to sleep, is notified by it. -/
def lastReader : List Event :=
  [.next 1 none, .next 1 none, .next 0 none, .next 0 none, .next 0 none, .next 0 none,
    .next 0 (some 1), .next 1 none, .next 1 none]

theorem stop_settles_lastReader : ∃ s s', run step (new 2) stopAsleep = .ok s ∧
    run step s lastReader = .ok s' ∧ ∀ t ∈ s'.threads, t = .idle := by
  have hok : (run step (new 2) stopAsleep).map (fun s => (s.queue.destroy, s.threads)) =
      .ok (true, [.locking { all := true }, .checkingReaders]) := by
    decide +kernel
  obtain ⟨s, hs, heq⟩ := map_eq_ok.mp hok
  obtain ⟨hd, hthreads⟩ := Prod.mk.inj heq
  have hok' : (run step (new 2) (stopAsleep ++ lastReader)).map (·.threads) =
      .ok [.idle, .idle] := by
    decide +kernel
  obtain ⟨s', hs', hthreads'⟩ := map_eq_ok.mp hok'
  rw [run_append, hs, ok_bind] at hs'
  have hsettled : Settled s' := by
    intro i w t hstep
    rcases step_cases hstep with ⟨_, _, hev, -⟩ |
      ⟨i', w', u, q', u', n, threads', hev, hi, hnext, -⟩ | ⟨_, _, hev, -⟩
    · cases hev
    · have hu := List.mem_of_getElem? hi
      rw [hthreads', List.mem_pair, or_self] at hu
      rw [hu] at hnext
      cases hnext
    · cases hev
  refine ⟨s, s', hs, hs', ((stop_settles (by decide +kernel) hs ⟨hd, ?_⟩ ?_ hs').2 hsettled).mpr ?_⟩
  · rw [hthreads]
    decide
  · decide
  · rw [hthreads]
    decide

end Shared

end PacketQueue

end NetStack
