import TcpStack.Model.PacketQueue

/-!
# TcpStack — `PacketQueue` under every interleaving

Any number of threads use one queue. A step of a thread is looked at once, in `next_mutex`,
`next_readers` and their like; who is woken on the way changes nothing of what these say.

* **`packets_in_order`** — the packets are taken in the order in which they were pushed.
* **`stop_returns_iff`** — `Stop` returns when no reader is left in the queue.
-/

namespace NetStack

namespace PacketQueue

open Transition Threads

/-! ## Regions -/

namespace Thread

/-- The thread owns `mutex_`. -/
def holdsMutex : Thread → Bool
  | .checking _ | .suspending _ | .testing _ | .taking _ => true
  | _ => false

/-- The thread owns `num_readers_mutex_`. -/
def holdsReadersMutex : Thread → Bool
  | .checkingReaders | .suspendingReaders => true
  | _ => false

/-- The thread counts as a reader. -/
def inside : Thread → Bool
  | .locking _ | .checking _ | .suspending _ | .asleep _ | .testing _ | .taking _ | .leaving _ =>
    true
  | _ => false

end Thread

variable {q q' : PacketQueue} {t t' : Thread} {n : Notification} {i j : ℕ} {w : Option ℕ}
  {threads threads' : List Thread}

/-- A thread that may have been woken. -/
def Woken (t t' : Thread) : Prop := t' = t ∨ t' = t.awake

@[simp] theorem holdsMutex_awake (t : Thread) : t.awake.holdsMutex = t.holdsMutex := by
  cases t <;> rfl

@[simp] theorem holdsReadersMutex_awake (t : Thread) :
    t.awake.holdsReadersMutex = t.holdsReadersMutex := by
  cases t <;> rfl

@[simp] theorem inside_awake (t : Thread) : t.awake.inside = t.inside := by
  cases t <;> rfl

/-- What does not change when a thread is woken. -/
theorem Woken.congr {α : Type*} {f : Thread → α} (hf : ∀ t, f t.awake = f t) (h : Woken t t') :
    f t' = f t := by
  rcases h with rfl | rfl
  · rfl
  · exact hf t

theorem notify_woken (h : notify w threads n = .ok threads') :
    List.Forall₂ Woken threads threads' := by
  have hrefl : List.Forall₂ Woken threads threads :=
    List.forall₂_same.mpr fun _ _ => Or.inl rfl
  unfold notify at h
  split at h
  · cases h
    exact hrefl
  · split at h
    · split at h
      · cases h
      · cases h
        exact hrefl
    · split at h
      · cases h
      · next hj =>
        split at h
        · cases h
          exact forall₂_set (fun _ => Or.inl rfl) hj (Or.inr rfl)
        · cases h
  · cases h
    rw [List.forall₂_map_right_iff]
    refine List.forall₂_same.mpr fun t _ => ?_
    split
    · exact Or.inr rfl
    · exact Or.inl rfl

/-! ## One step of a thread -/

theorem next_mutex (h : next i q t = .ok (q', t', n)) :
    q'.mutex = q.mutex ∧ t'.holdsMutex = t.holdsMutex ∨
    q.mutex = none ∧ q'.mutex = some i ∧ t'.holdsMutex ∨
    t.holdsMutex ∧ t'.holdsMutex = false ∧ q'.mutex = none := by
  cases t <;> simp only [next] at h <;> repeat' split at h
  all_goals cases h
  all_goals simp_all [Thread.holdsMutex]

theorem next_readersMutex (h : next i q t = .ok (q', t', n)) :
    q'.numReadersMutex = q.numReadersMutex ∧ t'.holdsReadersMutex = t.holdsReadersMutex ∨
    q.numReadersMutex = none ∧ q'.numReadersMutex = some i ∧ t'.holdsReadersMutex ∨
    t.holdsReadersMutex ∧ t'.holdsReadersMutex = false ∧ q'.numReadersMutex = none := by
  cases t <;> simp only [next] at h <;> repeat' split at h
  all_goals cases h
  all_goals simp_all [Thread.holdsReadersMutex]

/-- `num_readers_` changes with the threads that count. -/
theorem next_readers (h : next i q t = .ok (q', t', n)) :
    q'.numReaders + UInt32.ofNat t.inside.toNat = q.numReaders + UInt32.ofNat t'.inside.toNat := by
  cases t <;> simp only [next] at h <;> repeat' split at h
  all_goals cases h
  all_goals simp [Thread.inside]

/-! ## One step of the system -/

namespace Shared

variable {s s' : Shared} {ev : Event} {es : List Event} {count : ℕ}

/-- A step moves one thread, and may wake others. -/
theorem step_cases (h : step s ev = .ok s') :
    (∃ i c, ev = .call i c ∧ s.threads[i]? = some .idle ∧
      s' = { s with threads := s.threads.set i c.start }) ∨
    (∃ i w t q' t' n threads', ev = .next i w ∧ s.threads[i]? = some t ∧
      s.queue.next i t = .ok (q', t', n) ∧ notify w (s.threads.set i t') n = .ok threads' ∧
      s' = { queue := q', threads := threads' }) ∨
    ∃ i t, ev = .wakeUp i ∧ s.threads[i]? = some t ∧
      (t.sleepsOn .cv ∨ t.sleepsOn .numReadersCv) ∧
      s' = { s with threads := s.threads.set i t.awake } := by
  unfold step at h
  split at h
  · next i c =>
    split at h
    · next hi =>
      cases h
      exact Or.inl ⟨i, c, rfl, hi, rfl⟩
    · cases h
  · next i w =>
    split at h
    · cases h
    · next t hi =>
      obtain ⟨r, hnext, h⟩ := bind_eq_ok.mp h
      obtain ⟨threads', hnotify, h⟩ := bind_eq_ok.mp h
      cases h
      exact Or.inr (Or.inl ⟨i, w, t, r.1, r.2.1, r.2.2, threads', rfl, hi, hnext, hnotify, rfl⟩)
  · next i =>
    split at h
    · cases h
    · next t hi =>
      split at h
      · next hsleep =>
        cases h
        exact Or.inr (Or.inr ⟨i, t, rfl, hi, Bool.or_eq_true_iff.mp hsleep, rfl⟩)
      · cases h

/-- The mutexes have their owners, and `num_readers_` is the number of readers. -/
structure Sound (s : Shared) : Prop where
  mutex : Locked Thread.holdsMutex s.queue.mutex s.threads
  readersMutex : Locked Thread.holdsReadersMutex s.queue.numReadersMutex s.threads
  readers : s.queue.numReaders = UInt32.ofNat (s.threads.countP Thread.inside)

/-- A lock after a step of its owner, of the one who takes it, or of anybody else. -/
theorem locked_move {holds : Thread → Bool} {owner owner' : Option ℕ}
    (h : Locked holds owner threads) (hi : threads[i]? = some t)
    (hmove : owner' = owner ∧ holds t' = holds t ∨ owner = none ∧ owner' = some i ∧ holds t' ∨
      holds t ∧ holds t' = false ∧ owner' = none) : Locked holds owner' (threads.set i t') := by
  rcases hmove with ⟨rfl, hsame⟩ | ⟨rfl, rfl, ht'⟩ | ⟨ht, ht', rfl⟩
  · exact h.stay hi hsame
  · exact h.acquire hi ht'
  · exact h.release hi ht ht'

/-- A thread that moves where neither mutex is held and nobody counts. -/
theorem Sound.move (h : Sound s) (hi : s.threads[i]? = some t)
    (hm : t'.holdsMutex = t.holdsMutex) (hr : t'.holdsReadersMutex = t.holdsReadersMutex)
    (hin : t'.inside = t.inside) : Sound { s with threads := s.threads.set i t' } := by
  refine ⟨h.mutex.stay hi hm, h.readersMutex.stay hi hr, ?_⟩
  have hcount := countP_set Thread.inside hi t'
  rw [hin, Nat.add_right_cancel_iff] at hcount
  show s.queue.numReaders = _
  rw [hcount]
  exact h.readers

theorem Sound.step (h : Sound s) (hstep : step s ev = .ok s') : Sound s' := by
  rcases step_cases hstep with ⟨i, c, -, hi, rfl⟩ |
    ⟨i, w, t, q', t', n, threads', -, hi, hnext, hnotify, rfl⟩ | ⟨i, t, -, hi, -, rfl⟩
  · cases c <;> exact h.move hi rfl rfl rfl
  · have hwoken := notify_woken hnotify
    refine ⟨?_, ?_, ?_⟩
    · exact (locked_move h.mutex hi (next_mutex hnext)).forall₂
        (fun _ _ => Woken.congr holdsMutex_awake) hwoken
    · exact (locked_move h.readersMutex hi (next_readersMutex hnext)).forall₂
        (fun _ _ => Woken.congr holdsReadersMutex_awake) hwoken
    · have hcount := countP_set Thread.inside hi t'
      have hreaders := next_readers hnext
      have hsame := countP_forall₂ Thread.inside
        (fun _ _ h => Woken.congr inside_awake h) hwoken
      show q'.numReaders = UInt32.ofNat (threads'.countP Thread.inside)
      rw [hsame]
      -- the thread that moved is counted before and after
      have hsum := congrArg UInt32.ofNat hcount
      rw [UInt32.ofNat_add, UInt32.ofNat_add, ← h.readers, ← hreaders] at hsum
      exact (add_right_cancel hsum).symm
  · exact h.move hi (holdsMutex_awake t) (holdsReadersMutex_awake t) (inside_awake t)

theorem Sound.new (count : ℕ) : Sound (Shared.new count) := by
  have hidle : ∀ (i : ℕ) (t : Thread), (Shared.new count).threads[i]? = some t → t = Thread.idle := by
    intro i t hi
    exact List.eq_of_mem_replicate (List.mem_of_getElem? hi)
  refine ⟨fun i => ?_, fun i => ?_, ?_⟩
  · refine iff_of_false (by simp [Shared.new]) ?_
    rintro ⟨t, hi, ht⟩
    rw [hidle i t hi] at ht
    cases ht
  · refine iff_of_false (by simp [Shared.new]) ?_
    rintro ⟨t, hi, ht⟩
    rw [hidle i t hi] at ht
    cases ht
  · show 0 = UInt32.ofNat (List.countP _ (List.replicate count Thread.idle))
    rw [List.countP_replicate]
    rfl

theorem sound_run (hrun : run step (new count) es = .ok s) : Sound s :=
  run_induction step (fun _ _ _ h => h.step) (Sound.new count) hrun

/-- The threads of a run are those that it started with. -/
theorem length_run (hrun : run step (new count) es = .ok s) : s.threads.length = count := by
  refine run_induction step (P := fun s => s.threads.length = count) ?_ ?_ hrun
  · intro s ev s' h hstep
    rcases step_cases hstep with ⟨i, c, -, hi, rfl⟩ |
      ⟨i, w, t, q', t', n, threads', -, hi, hnext, hnotify, rfl⟩ | ⟨i, t, -, hi, -, rfl⟩
    · rw [List.length_set]
      exact h
    · have hlen := (notify_woken hnotify).length_eq
      rw [List.length_set] at hlen
      exact hlen.symm.trans h
    · rw [List.length_set]
      exact h
  · exact List.length_replicate

/-! ## The order of the packets -/

/-- The packets that a step takes out of the queue for its reader. -/
def taken (s : Shared) : Event → List Packet
  | .next i _ =>
    match s.threads[i]? with
    | none => []
    | some t =>
      match t, s.queue.next i t with
      | .taking _, .ok (_, .leaving re, _) => re
      | _, _ => []
  | _ => []

/-- The packets that a step puts into the queue: those of a `Push`, and those that the queue of a
receiver held when it was swapped with this one. -/
def put (s : Shared) : Event → List Packet
  | .next i _ =>
    match s.threads[i]? with
    | some (.pushing pkts) => pkts
    | some (.taking r) => if r.all && !s.queue.packets.isEmpty then r.receiverQueue else []
    | _ => []
  | _ => []

theorem packets_step (hstep : step s ev = .ok s') :
    s.taken ev ++ s'.queue.packets = s.queue.packets ++ s.put ev := by
  rcases step_cases hstep with ⟨i, c, rfl, hi, rfl⟩ |
    ⟨i, w, t, q', t', n, threads', rfl, hi, hnext, hnotify, rfl⟩ | ⟨i, t, rfl, hi, -, rfl⟩
  · simp [taken, put]
  · simp only [taken, put, hi]
    cases t <;> simp only [next] at hnext ⊢ <;> repeat' split at hnext
    all_goals cases hnext
    all_goals simp_all
  · simp [taken, put]

/-- **The queue is first in, first out.** Any number of threads push and read, each in its own
way, and the packets are taken in the order in which they came in. -/
theorem packets_in_order (hrun : run step (new count) es = .ok s) :
    collect step taken (new count) es ++ s.queue.packets = collect step put (new count) es := by
  have h := run_induction_collect step (f := taken) (g := put)
    (P := fun taken put s => taken ++ s.queue.packets = put) ?_ (List.append_nil []) hrun
  · rwa [List.nil_append, List.nil_append] at h
  · intro taken put s ev s' h hstep
    rw [← h, List.append_assoc, List.append_assoc, packets_step hstep]

def packetOf (seqNum : UInt32) : Packet := { ipHeader := {}, tcpHeader := { seqNum } }

/-- A reader that takes one packet, one that takes the rest, and what goes on around them. -/
def twoReaders : List Event :=
  [.call 0 (.push [packetOf 0, packetOf 1]), .call 1 (.read { all := false }),
    .call 2 (.read { all := true }), .next 1 none, .next 2 none, .next 1 none, .next 1 none,
    -- the queue is still empty
    .next 1 none, .next 0 none, .next 0 (some 1), .next 2 none, .next 2 none, .next 2 none,
    .next 2 none, .call 0 (.push [packetOf 2])]

theorem packets_in_order_twoReaders : ∃ s, run step (new 3) twoReaders = .ok s ∧
    collect step taken (new 3) twoReaders ++ s.queue.packets =
      collect step put (new 3) twoReaders := by
  have hok : (run step (new 3) twoReaders).map (fun _ => ()) = .ok () := by decide +kernel
  obtain ⟨s, hs, -⟩ := map_eq_ok.mp hok
  exact ⟨s, hs, packets_in_order hs⟩

/-! ## When `Stop` returns -/

theorem Sound.readers_le (h : Sound s) (hlt : s.threads.length < 2 ^ 32) :
    s.queue.numReaders ≤ 0 ↔ ∀ t ∈ s.threads, t.inside = false := by
  have hle : s.threads.countP Thread.inside < 2 ^ 32 :=
    lt_of_le_of_lt List.countP_le_length hlt
  rw [UInt32.le_iff_toNat_le, h.readers, UInt32.toNat_ofNat_of_lt' hle]
  show s.threads.countP Thread.inside ≤ 0 ↔ _
  rw [Nat.le_zero, List.countP_eq_zero]
  simp

/-- **`Stop` waits for every reader.** It returns when there is none between `IncReaders` and the
locked part of `DecReaders`, and sleeps otherwise. -/
theorem stop_returns_iff (hrun : run step (new count) es = .ok s) (hlt : count < 2 ^ 32)
    (hi : s.threads[i]? = some .checkingReaders) (hstep : s.step (.next i w) = .ok s') :
    s'.threads[i]? = some .idle ↔ ∀ t ∈ s.threads, t.inside = false := by
  rw [← (sound_run hrun).readers_le (by rw [length_run hrun]; exact hlt)]
  rcases step_cases hstep with ⟨_, _, hev, -⟩ |
    ⟨i', w', t, q', t', n, threads', hev, hi', hnext, hnotify, rfl⟩ | ⟨_, _, hev, -⟩
  · cases hev
  · cases hev
    rw [hi] at hi'
    cases hi'
    simp only [next] at hnext
    split at hnext
    · next hle =>
      cases hnext
      cases hnotify
      simp [getElem?_set_self hi, hle]
    · next hle =>
      cases hnext
      cases hnotify
      simp [getElem?_set_self hi, hle]
  · cases hev

/-- A reader is asleep when the queue is stopped. -/
def stopAsleep : List Event :=
  [.call 0 (.read { all := true }), .next 0 none, .next 0 none, .next 0 none, .next 0 none,
    .call 1 .stop, .next 1 none, .next 1 none, .next 1 none, .next 1 none]

theorem stop_returns_iff_stopAsleep : ∃ s s', run step (new 2) stopAsleep = .ok s ∧
    s.step (.next 1 none) = .ok s' ∧
    (s'.threads[1]? = some .idle ↔ ∀ t ∈ s.threads, t.inside = false) := by
  have hok : (run step (new 2) stopAsleep).map (·.threads[1]?) = .ok (some .checkingReaders) := by
    decide +kernel
  obtain ⟨s, hs, hi⟩ := map_eq_ok.mp hok
  have hok' : (run step (new 2) (stopAsleep ++ [.next 1 none])).map (fun _ => ()) = .ok () := by
    decide +kernel
  obtain ⟨s', hs', -⟩ := map_eq_ok.mp hok'
  rw [run_append, hs, ok_bind] at hs'
  obtain ⟨t, ht, hnil⟩ := (run_cons_eq_ok step).mp hs'
  cases hnil
  exact ⟨s, s', hs, ht, stop_returns_iff hs (by decide) hi ht⟩

end Shared

end PacketQueue

end NetStack
